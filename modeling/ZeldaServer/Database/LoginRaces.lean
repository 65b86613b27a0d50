import ZeldaServer.Core.Session
import ZeldaServer.Database.Logins

/-! Threads that share the connection: `FindOrCreateAccount` and `SavePlayerData`, one sqlite3
call at a time. -/

namespace ZeldaServer

inductive DbPoint where
  | idle
  | select (username : Bytes)
  | insert (username : Bytes)
  /-- before `sqlite3_last_insert_rowid` -/
  | readRowid (username : Bytes)
  | saving (statements : List Statement)

/-- A `FindOrCreateAccount` that returned. -/
structure AccountResult where
  username : Bytes
  accountId : Int

structure DbRace where
  db : Database
  points : ThreadId → DbPoint
  results : List AccountResult

inductive DbEvent where
  | findOrCreate (thread : ThreadId) (username : Bytes)
  /-- The calls that are not `ok` will fail. -/
  | save (thread : ThreadId) (ok : SaveStep → Bool) (accountId : Int) (saved : SaveData)
  /-- The next call of the thread, which fails unless `ok`. -/
  | call (thread : ThreadId) (ok : Bool)

namespace DbRace

def start (db : Database) : DbRace := ⟨db, fun _ => .idle, []⟩

def goTo (s : DbRace) (thread : ThreadId) (point : DbPoint) : DbRace :=
  { s with points := Function.update s.points thread point }

def finish (s : DbRace) (thread : ThreadId) (username : Bytes) (accountId : Int) : DbRace :=
  { s.goTo thread .idle with results := ⟨username, accountId⟩ :: s.results }

def callStep (s : DbRace) (thread : ThreadId) (ok : Bool) : DbPoint → Option DbRace
  | .idle => none
  | .select username =>
      match if ok then s.db.selectAccount username else none with
      | some id => some (s.finish thread username id)
      | none => some (s.goTo thread (.insert username))
  | .insert username =>
      match if ok then s.db.exec (.insertAccount (cString username)) else none with
      | some db => some ({ s with db }.goTo thread (.readRowid username))
      | none => some (s.finish thread username 0)
  | .readRowid username => some (s.finish thread username s.db.lastInsertRowid)
  | .saving [] => some (s.goTo thread .idle)
  | .saving (statement :: rest) =>
      some ({ s with db := s.db.attempt statement }.goTo thread (.saving rest))

def step (s : DbRace) : DbEvent → Option DbRace
  | .findOrCreate thread username =>
      match s.points thread with
      | .idle => some (s.goTo thread (.select username))
      | _ => none
  | .save thread ok accountId saved =>
      match s.points thread with
      | .idle => some (s.goTo thread (.saving (saveStatements ok accountId saved)))
      | _ => none
  | .call thread ok => s.callStep thread ok (s.points thread)

def Right (s : DbRace) : Prop :=
  ∀ r ∈ s.results, r.accountId = 0 ∨ ⟨r.accountId, r.username⟩ ∈ s.db.accounts.rows

def executes (s : DbRace) : DbEvent → Option Statement
  | .call thread ok =>
      match s.points thread with
      | .insert username => if ok then some (.insertAccount (cString username)) else none
      | .saving (statement :: _) => some statement
      | _ => none
  | _ => none

def thread : DbEvent → ThreadId
  | .findOrCreate thread _ => thread
  | .save thread _ _ _ => thread
  | .call thread _ => thread

/-- Usernames have no NUL, and nothing is inserted under another rowid while another thread is
between its `INSERT INTO accounts` and reading its rowid. -/
structure Undisturbed (s : DbRace) (e : DbEvent) : Prop where
  free : ∀ thread username, e = .findOrCreate thread username → 0 ∉ username
  rowid : ∀ statement other username, s.executes e = some statement → other ≠ thread e →
    s.points other = .readRowid username →
      (s.db.attempt statement).lastInsertRowid = s.db.lastInsertRowid

/-- The username of the `FindOrCreateAccount` that is under way. -/
def username? : DbPoint → Option Bytes
  | .select username | .insert username | .readRowid username => some username
  | _ => none

structure Sound (s : DbRace) : Prop where
  right : s.Right
  free : ∀ t username, username? (s.points t) = some username → 0 ∉ username
  /-- The connection's last rowid is still the one of this thread's insert. -/
  own : ∀ t username, s.points t = .readRowid username →
    ⟨s.db.lastInsertRowid, username⟩ ∈ s.db.accounts.rows

theorem attempt_accounts (db : Database) (statement : Statement) (row : AccountRow)
    (member : row ∈ db.accounts.rows) : row ∈ (db.attempt statement).accounts.rows := by
  by_cases account : ∃ username, statement = .insertAccount username
  · obtain ⟨username, rfl⟩ := account
    unfold Database.attempt
    cases done : db.exec (.insertAccount username) with
    | none => exact member
    | some db' =>
        have registers := db.exec_insertAccount_some username db' done
        rw [Option.getD_some, registers.rows]
        exact List.mem_cons_of_mem _ member
  · obtain ⟨accounts, -⟩ := (db.attempt_done statement).accounts fun username same =>
      account ⟨username, same⟩
    rw [accounts]
    exact member

section

variable {s : DbRace} (sound : s.Sound)

include sound

theorem Sound.move (t : ThreadId) (point : DbPoint) (db : Database)
    (kept : ∀ row ∈ s.db.accounts.rows, row ∈ db.accounts.rows)
    (rowid : ∀ other username, other ≠ t → s.points other = .readRowid username →
      db.lastInsertRowid = s.db.lastInsertRowid)
    (free : ∀ username, username? point = some username → 0 ∉ username)
    (own : ∀ username, point = .readRowid username →
      ⟨db.lastInsertRowid, username⟩ ∈ db.accounts.rows) :
    ({ s with db }.goTo t point).Sound := by
  constructor
  · intro r member
    rcases sound.right r member with zero | row
    · exact .inl zero
    · exact .inr (kept _ row)
  · intro other username at_point
    by_cases same : other = t
    · subst same
      simp only [goTo, Function.update_self] at at_point
      exact free username at_point
    · simp only [goTo, Function.update_of_ne same] at at_point
      exact sound.free other username at_point
  · intro other username at_point
    by_cases same : other = t
    · subst same
      simp only [goTo, Function.update_self] at at_point
      exact own username at_point
    · simp only [goTo, Function.update_of_ne same] at at_point
      have mine := kept _ (sound.own other username at_point)
      rw [← rowid other username same at_point] at mine
      exact mine

theorem Sound.finish (t : ThreadId) (username : Bytes) (accountId : Int)
    (right : accountId = 0 ∨ ⟨accountId, username⟩ ∈ s.db.accounts.rows) :
    (s.finish t username accountId).Sound := by
  have moved := sound.move t .idle s.db (fun _ member => member) (fun _ _ _ _ => rfl)
    (fun _ none => by cases none) (fun _ none => by cases none)
  refine ⟨fun r member => ?_, moved.free, moved.own⟩
  rcases List.mem_cons.mp member with rfl | old
  · exact right
  · exact moved.right r old

theorem Sound.stay (t : ThreadId) (point : DbPoint)
    (free : ∀ username, username? point = some username → 0 ∉ username)
    (own : ∀ username, point ≠ .readRowid username) : (s.goTo t point).Sound :=
  sound.move t point s.db (fun _ member => member) (fun _ _ _ _ => rfl) free
    fun username at_point => absurd at_point (own username)

end

theorem step_sound (s next : DbRace) (e : DbEvent) (sound : s.Sound) (undisturbed : s.Undisturbed e)
    (stepped : s.step e = some next) : next.Sound := by
  cases e with
  | findOrCreate t username =>
      simp only [step] at stepped
      split at stepped
      · cases stepped
        apply sound.stay
        · rintro _ ⟨⟩
          exact undisturbed.free t username rfl
        · simp
      · cases stepped
  | save t ok accountId saved =>
      simp only [step] at stepped
      split at stepped
      · cases stepped
        apply sound.stay <;> simp [username?]
      · cases stepped
  | call t ok =>
      simp only [step] at stepped
      cases point : s.points t with
      | idle =>
          rw [point] at stepped
          cases stepped
      | select username =>
          have free := sound.free t username (by rw [point]; rfl)
          have whole := (cString_eq_self_iff username).mpr free
          rw [point] at stepped
          simp only [callStep] at stepped
          split at stepped
          next id found =>
            cases stepped
            apply sound.finish t username id
            right
            split at found
            · rw [← whole]
              exact (s.db.selectAccount_some_iff username id).mp found
            · cases found
          next =>
            cases stepped
            apply sound.stay
            · rintro _ ⟨⟩
              exact free
            · simp
      | insert username =>
          have free := sound.free t username (by rw [point]; rfl)
          have whole := (cString_eq_self_iff username).mpr free
          rw [point] at stepped
          simp only [callStep] at stepped
          split at stepped
          next db inserted =>
            cases stepped
            split at inserted
            next met =>
              have registers := s.db.exec_insertAccount_some _ db inserted
              have executed : s.executes (.call t ok) =
                  some (.insertAccount (cString username)) := by
                simp only [executes, point, met, if_true]
              have result : s.db.attempt (.insertAccount (cString username)) = db := by
                rw [Database.attempt, inserted, Option.getD_some]
              apply sound.move
              · intro row member
                rw [registers.rows]
                exact List.mem_cons_of_mem _ member
              · intro other username' ne at_point
                rw [← result]
                exact undisturbed.rowid _ other username' executed ne at_point
              · rintro _ ⟨⟩
                exact free
              · rintro _ ⟨⟩
                rw [registers.rows, registers.lastInsertRowid, whole]
                exact List.mem_cons_self
            next => cases inserted
          next =>
            cases stepped
            exact sound.finish t username 0 (.inl rfl)
      | readRowid username =>
          rw [point] at stepped
          cases stepped
          exact sound.finish t username _ (.inr (sound.own t username point))
      | saving statements =>
          rw [point] at stepped
          cases statements with
          | nil =>
              cases stepped
              apply sound.stay <;> simp [username?]
          | cons statement rest =>
              cases stepped
              have executed : s.executes (.call t ok) = some statement := by
                simp only [executes, point]
              apply sound.move
              · exact fun row => attempt_accounts s.db statement row
              · intro other username ne at_point
                exact undisturbed.rowid statement other username executed ne at_point
              · simp [username?]
              · simp

theorem start_sound (db : Database) : (start db).Sound where
  right := by simp [Right, start]
  free := by simp [start, username?]
  own := by simp [start]

/-- Only these threads are in a call. -/
def Among (threads : List ThreadId) (s : DbRace) : Prop :=
  ∀ other, other ∉ threads → s.points other = .idle

theorem step_among (threads : List ThreadId) (s next : DbRace) (e : DbEvent)
    (among : Among threads s) (mine : thread e ∈ threads) (stepped : s.step e = some next) :
    Among threads next := by
  have moved : ∀ (s' : DbRace) (point : DbPoint), s'.points = s.points →
      Among threads (s'.goTo (thread e) point) := by
    intro s' point same other apart
    have ne : other ≠ thread e := fun here => apart (here ▸ mine)
    simp only [goTo, Function.update_of_ne ne, same]
    exact among other apart
  cases e with
  | findOrCreate t username =>
      simp only [step] at stepped
      split at stepped
      · cases stepped
        exact moved s _ rfl
      · cases stepped
  | save t ok accountId saved =>
      simp only [step] at stepped
      split at stepped
      · cases stepped
        exact moved s _ rfl
      · cases stepped
  | call t ok =>
      simp only [step] at stepped
      unfold callStep at stepped
      split at stepped
      · cases stepped
      · split at stepped <;>
          · cases stepped
            exact moved s _ rfl
      · split at stepped
        · cases stepped
          exact moved { s with db := _ } _ rfl
        · cases stepped
          exact moved s _ rfl
      · cases stepped
        exact moved s _ rfl
      · cases stepped
        exact moved s _ rfl
      · cases stepped
        exact moved { s with db := _ } _ rfl

def readsRowid : DbPoint → Bool
  | .readRowid _ => true
  | _ => false

/-- `Undisturbed`, where only these threads are in a call. -/
def undisturbedCheck (threads : List ThreadId) (s : DbRace) (e : DbEvent) : Bool :=
  decide (thread e ∈ threads) &&
    (match e with
      | .findOrCreate _ username => decide (0 ∉ username)
      | _ => true) &&
    match s.executes e with
    | none => true
    | some statement => threads.all fun other =>
        decide (other = thread e) || !readsRowid (s.points other) ||
          decide ((s.db.attempt statement).lastInsertRowid = s.db.lastInsertRowid)

theorem undisturbed_of_check (threads : List ThreadId) (s : DbRace) (e : DbEvent)
    (among : Among threads s) (checked : undisturbedCheck threads s e = true) :
    s.Undisturbed e := by
  obtain ⟨checked, calm⟩ := Bool.and_eq_true_iff.mp checked
  obtain ⟨-, named⟩ := Bool.and_eq_true_iff.mp checked
  constructor
  · rintro t username rfl
    exact of_decide_eq_true named
  · intro statement other username executed ne at_point
    rw [executed] at calm
    by_cases listed : other ∈ threads
    · have here := List.all_eq_true.mp calm other listed
      rw [at_point, decide_eq_false ne] at here
      exact of_decide_eq_true here
    · rw [among other listed] at at_point
      cases at_point

theorem alone_findOrCreate (db : Database) (t : ThreadId) (username : Bytes) :
    ∃ calls final, Runs.run step (start db)
        (.findOrCreate t username :: List.replicate calls (.call t true)) = some final ∧
      final.results = [⟨username, (db.findOrCreateAccount username).1⟩] ∧
      final.db = (db.findOrCreateAccount username).2 := by
  have called : (start db).step (.findOrCreate t username) =
      some ((start db).goTo t (.select username)) := rfl
  unfold Database.findOrCreateAccount
  cases selected : db.selectAccount username with
  | some id =>
      refine ⟨1, ((start db).goTo t (.select username)).finish t username id, ?_, rfl, rfl⟩
      have found : ((start db).goTo t (.select username)).step (.call t true) =
          some (((start db).goTo t (.select username)).finish t username id) := by
        simp [step, callStep, goTo, start, selected]
      simp only [Runs.run, called, List.replicate, found]
  | none =>
      have missing : ((start db).goTo t (.select username)).step (.call t true) =
          some (((start db).goTo t (.select username)).goTo t (.insert username)) := by
        simp [step, callStep, goTo, start, selected]
      cases inserted : db.exec (.insertAccount (cString username)) with
      | none =>
          refine ⟨2, (((start db).goTo t (.select username)).goTo t (.insert username)).finish t
            username 0, ?_, rfl, rfl⟩
          have refused : (((start db).goTo t (.select username)).goTo t (.insert username)).step
              (.call t true) = some ((((start db).goTo t (.select username)).goTo t
                (.insert username)).finish t username 0) := by
            simp [step, callStep, goTo, start, inserted]
          simp only [Runs.run, called, List.replicate, missing, refused]
      | some db' =>
          refine ⟨3, ({ (((start db).goTo t (.select username)).goTo t (.insert username)) with
            db := db' }.goTo t (.readRowid username)).finish t username db'.lastInsertRowid,
            ?_, rfl, rfl⟩
          have made : (((start db).goTo t (.select username)).goTo t (.insert username)).step
              (.call t true) = some ({ (((start db).goTo t (.select username)).goTo t
                (.insert username)) with db := db' }.goTo t (.readRowid username)) := by
            simp [step, callStep, goTo, start, inserted]
          have read : ({ (((start db).goTo t (.select username)).goTo t (.insert username)) with
              db := db' }.goTo t (.readRowid username)).step (.call t true) =
                some (({ (((start db).goTo t (.select username)).goTo t (.insert username)) with
                  db := db' }.goTo t (.readRowid username)).finish t username
                    db'.lastInsertRowid) := by
            simp [step, callStep, goTo]
          simp only [Runs.run, called, List.replicate, missing, made, read]

theorem run_saving (statements : List Statement) (s : DbRace) (t : ThreadId)
    (point : s.points t = .saving statements) :
    ∃ final, Runs.run step s (List.replicate statements.length (.call t true)) = some final ∧
      final.db = statements.foldl Database.attempt s.db := by
  induction statements generalizing s with
  | nil => exact ⟨s, rfl, rfl⟩
  | cons statement statements ih =>
      have stepped : s.step (.call t true) =
          some ({ s with db := s.db.attempt statement }.goTo t (.saving statements)) := by
        simp only [step, point, callStep]
      obtain ⟨final, reached, db⟩ :=
        ih ({ s with db := s.db.attempt statement }.goTo t (.saving statements)) (by simp [goTo])
      refine ⟨final, ?_, db⟩
      simp only [List.length_cons, List.replicate_succ, Runs.run, stepped]
      exact reached

theorem alone_save (db : Database) (t : ThreadId) (ok : SaveStep → Bool) (accountId : Int)
    (saved : SaveData) :
    ∃ calls final, Runs.run step (start db)
        (.save t ok accountId saved :: List.replicate calls (.call t true)) = some final ∧
      final.db = (db.savePlayerData ok accountId saved).2 := by
  obtain ⟨final, reached, done⟩ :=
    run_saving (saveStatements ok accountId saved)
      ((start db).goTo t (.saving (saveStatements ok accountId saved))) t (by simp [goTo])
  exact ⟨_, final, reached, done⟩

end DbRace

/-- While no insert comes between another thread's insert and its reading of the rowid, and no
username has a NUL, every account id is right. -/
theorem account_ids_right (db : Database) (events : List DbEvent)
    (undisturbed : Runs.EachStep DbRace.step DbRace.Undisturbed (.start db) events) :
    Runs.EveryState DbRace.step DbRace.Right (.start db) events :=
  Runs.everyState_invariant DbRace.Undisturbed DbRace.Sound DbRace.Right
    (fun _ sound => sound.right)
    (fun s e next sound met stepped => DbRace.step_sound s next e sound met stepped)
    _ _ (DbRace.start_sound db) undisturbed

/-- Thread 2 registers `"b"` before thread 1 reads the rowid of `"a"`. -/
def registeredTogether : List DbEvent :=
  [.findOrCreate 1 [97], .findOrCreate 2 [98], .call 1 true, .call 1 true, .call 2 true,
    .call 2 true, .call 1 true]

/-- The user `"a"` gets the account of `"b"`. -/
theorem wrong_account_id :
    ¬ Runs.EveryState DbRace.step DbRace.Right (.start .created) registeredTogether := by
  intro every
  have seen : (Runs.run DbRace.step (.start .created) registeredTogether).map
      (fun s => (s.results.map fun r => (r.username, r.accountId), s.db.accounts.rows)) =
        some ([([97], 2)], [⟨2, [98]⟩, ⟨1, [97]⟩]) := by decide
  obtain ⟨final, reached, state⟩ := Option.map_eq_some_iff.mp seen
  obtain ⟨results, rows⟩ := Prod.mk.inj state
  have right := Runs.everyState_final _ _ _ _ every reached
  have listed : (([97] : Bytes), (2 : Int)) ∈ final.results.map
      fun r => (r.username, r.accountId) := by
    rw [results]
    exact List.mem_cons_self
  obtain ⟨r, member, same⟩ := List.mem_map.mp listed
  obtain ⟨name, account⟩ := Prod.mk.inj same
  have answer := right r member
  rw [name, account, rows] at answer
  exact absurd answer (by decide)

/-- Thread 3 has registered `"c"` and saves its player while `"a"` and `"b"` register: one of its
calls runs between thread 1's insert and its reading of the rowid, and one between thread 2's. -/
def registeredApart : List DbEvent :=
  .findOrCreate 3 [99] :: List.replicate 3 (.call 3 true) ++
    [.findOrCreate 1 [97], .findOrCreate 2 [98], .save 3 (fun _ => true) 1 .fresh, .call 1 true,
      .call 2 true, .call 3 true, .call 3 true, .call 1 true, .call 3 true, .call 1 true,
      .call 2 true, .call 3 true, .call 2 true, .call 3 true]

theorem account_ids_right_apart :
    (Runs.run DbRace.step (.start .created) registeredApart).map
        (fun s => s.results.map fun r => (r.username, r.accountId)) =
      some [([98], 3), ([97], 2), ([99], 1)] ∧
    Runs.EveryState DbRace.step DbRace.Right (.start .created) registeredApart := by
  refine ⟨by decide +kernel, account_ids_right .created registeredApart ?_⟩
  apply Runs.eachStep_mono (fun s e => DbRace.undisturbedCheck [1, 2, 3] s e = true) _
    (DbRace.Among [1, 2, 3])
  · intro s e next among checked stepped
    have mine := (Bool.and_eq_true_iff.mp (Bool.and_eq_true_iff.mp checked).1).1
    exact DbRace.step_among _ s next e among (of_decide_eq_true mine) stepped
  · exact fun s e next among _ checked => DbRace.undisturbed_of_check _ s e among checked
  · exact fun _ _ => rfl
  · exact Runs.eachStep_of_check _ _ (fun _ _ checked => checked) _ _ (by decide +kernel)

end ZeldaServer
