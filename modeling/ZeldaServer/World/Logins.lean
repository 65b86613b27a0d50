import ZeldaServer.World.Events

/-! Players and logins: every player is bound to the session whose login created it, and
to no other. -/

namespace ZeldaServer

variable (data : GameData)

namespace Routing

/-- The session names the player, the player names the session, or they wait together for
a room. -/
def Bound (a : Routing) (s : SessionId) (id : ObjectId) : Prop :=
  (a.sessions s).player = some id ∨ a.playerSession id = some s ∨
    ∃ r, Job.enterRoom s id ∈ (a.rooms r).queue

/-- The session's last `C_Login` that went through. -/
def latestLogin (a : Routing) (s : SessionId) : Option Login :=
  a.logins.find? (·.session = s)

def loginOf (a : Routing) (id : ObjectId) : Option Login :=
  a.logins.find? (·.player = id)

theorem Follows.bound {a b : Routing} (follows : a.Follows b) (s : SessionId) (id : ObjectId)
    (bound : b.Bound s id) : a.Bound s id := by
  rcases bound with named | names | ⟨r, waiting⟩
  · rw [follows.player] at named
    exact .inl named
  · rw [follows.playerSession] at names
    exact .inr (.inl names)
  · rcases follows.entering r s id waiting with before | ⟨-, names | named⟩
    · exact .inr (.inr ⟨r, before⟩)
    · exact .inr (.inl names)
    · exact .inl named

end Routing

structure World.Known (w : World) : Prop where
  sorted : w.routing.logins.Pairwise fun newer older => older.player < newer.player
  fresh : ∀ l ∈ w.routing.logins, l.player < w.idGen
  account : ∀ l ∈ w.routing.logins, l.account ≠ 0
  accountId : ∀ s, (w.routing.sessions s).accountId =
    ((w.routing.latestLogin s).map (·.account)).getD 0
  bound : ∀ s id, w.routing.Bound s id → ∃ l ∈ w.routing.logins, l.session = s ∧ l.player = id
  standing : ∀ r id, id ∈ (w.routing.rooms r).players → ∃ s, w.routing.playerSession id = some s

namespace World.Known

theorem login_unique {w : World} (known : w.Known) (l l' : Login) (member : l ∈ w.routing.logins)
    (member' : l' ∈ w.routing.logins) (same : l.player = l'.player) : l = l' := by
  have sorted := known.sorted
  generalize w.routing.logins = logins at member member' sorted
  induction sorted with
  | nil => cases member
  | cons newest sorted ih =>
      rcases List.mem_cons.mp member with rfl | later
      · rcases List.mem_cons.mp member' with rfl | later'
        · rfl
        · exact absurd same.symm (Nat.ne_of_lt (newest l' later'))
      · rcases List.mem_cons.mp member' with rfl | later'
        · exact absurd same (Nat.ne_of_lt (newest l later))
        · exact ih later later'

theorem loginOf_eq {w : World} (known : w.Known) (l : Login) (member : l ∈ w.routing.logins) :
    w.routing.loginOf l.player = some l := by
  have found : (w.routing.loginOf l.player).isSome := by
    simp only [Routing.loginOf, List.find?_isSome, decide_eq_true_eq]
    exact ⟨l, member, rfl⟩
  obtain ⟨l', first⟩ := Option.isSome_iff_exists.mp found
  have same := List.find?_some first
  have member' := List.mem_of_find?_eq_some first
  rw [first, known.login_unique l' l member' member (by simpa using same)]

theorem placed {w : World} (known : w.Known) (id : ObjectId) (place : w.routing.Placed id) :
    ∃ l ∈ w.routing.logins, l.player = id := by
  obtain ⟨r, standing | ⟨s, waiting⟩⟩ := place
  · obtain ⟨s, names⟩ := known.standing r id standing
    obtain ⟨l, member, -, player⟩ := known.bound s id (.inr (.inl names))
    exact ⟨l, member, player⟩
  · obtain ⟨l, member, -, player⟩ := known.bound s id (.inr (.inr ⟨r, waiting⟩))
    exact ⟨l, member, player⟩

theorem session_unique {w : World} (known : w.Known) (s s' : SessionId) (id : ObjectId)
    (bound : w.routing.Bound s id) (bound' : w.routing.Bound s' id) : s = s' := by
  obtain ⟨l, member, rfl, player⟩ := known.bound s id bound
  obtain ⟨l', member', rfl, player'⟩ := known.bound s' id bound'
  rw [known.login_unique l l' member member' (player.trans player'.symm)]

theorem fresh_not_placed {w : World} (known : w.Known) : ¬ w.routing.Placed w.idGen := by
  intro place
  obtain ⟨l, member, player⟩ := known.placed _ place
  exact Nat.ne_of_lt (known.fresh l member) player

theorem of_follows {w next : World} (known : w.Known) (follows : w.routing.Follows next.routing)
    (later : w.idGen ≤ next.idGen) : next.Known where
  sorted := follows.logins ▸ known.sorted
  fresh := fun l member =>
    Nat.lt_of_lt_of_le (known.fresh l (follows.logins ▸ member)) later
  account := fun l member => known.account l (follows.logins ▸ member)
  accountId := fun s => by
    rw [follows.accountId, Routing.latestLogin, follows.logins]
    exact known.accountId s
  bound := fun s id bound => by
    rw [follows.logins]
    exact known.bound s id (follows.bound s id bound)
  standing := fun r id member => by
    rw [follows.playerSession]
    exact known.standing r id (follows.players r id member)

end World.Known

namespace Routing

theorem popJob_placed (a : Routing) (r : RoomRef) (job : Job) (rest : List Job)
    (front : a.nextJob = some (r, job, rest)) (id : ObjectId)
    (place : (a.popJob r rest).Placed id) : a.Placed id := by
  obtain ⟨pass, -, -, batch⟩ := nextJob_some a r job rest front
  obtain ⟨r', standing | ⟨s, waiting⟩⟩ := place
  · rw [players_popJob] at standing
    exact ⟨r', .inl standing⟩
  · exact ⟨r', .inr ⟨s, queue_of_popJob a r r' job rest batch _ waiting⟩⟩

/-- What the routing is once the `EnterRoom` job at the front of room `r` has run. -/
def entered (a : Routing) (r : RoomRef) (s : SessionId) (id : ObjectId) (rest : List Job) :
    Routing :=
  ((a.popJob r rest).bind r s id).addPlayer r id

variable {a : Routing} {r : RoomRef} {s : SessionId} {id : ObjectId} {rest : List Job}

theorem entered_sessions (s' : SessionId) :
    (a.entered r s id rest).sessions s' =
      if s' = s then { a.sessions s with gameRoom := some r, player := some id }
      else a.sessions s' :=
  sessions_setSession (a.popJob r rest) s s' _

theorem entered_playerSession (id' : ObjectId) :
    (a.entered r s id rest).playerSession id' = if id' = id then some s else a.playerSession id' :=
  Function.update_apply ..

theorem entered_playerRoom (id' : ObjectId) :
    (a.entered r s id rest).playerRoom id' = if id' = id then some r else a.playerRoom id' :=
  Function.update_apply ..

theorem entered_players (r' : RoomRef) (id' : ObjectId) :
    id' ∈ ((a.entered r s id rest).rooms r').players ↔
      id' ∈ (a.rooms r').players ∨ (r' = r ∧ id' = id) := by
  have moved : (((a.popJob r rest).bind r s id).rooms r').players = (a.rooms r').players :=
    players_popJob a r r' rest
  rw [entered, mem_players_addPlayer, moved]

theorem entered_queue (r' : RoomRef) :
    ((a.entered r s id rest).rooms r').queue = ((a.popJob r rest).rooms r').queue :=
  queue_addPlayer _ r r' id

end Routing

theorem enter_routing (w : World) (r : RoomRef) (s : SessionId) (id : ObjectId)
    (rest : List Job) (rand : List Nat) :
    ((w.forJob r rest rand).enterRoom r s id).routing = w.routing.entered r s id rest :=
  enterRoom_routing _ r s id

theorem entered_known (w next : World) (r : RoomRef) (s : SessionId) (id : ObjectId)
    (rest : List Job) (known : w.Known)
    (front : w.routing.nextJob = some (r, .enterRoom s id, rest))
    (result : next.routing = w.routing.entered r s id rest) (later : w.idGen ≤ next.idGen) :
    next.Known := by
  obtain ⟨pass, -, -, batch⟩ := nextJob_some _ r _ rest front
  have self : w.routing.Bound s id :=
    .inr (.inr ⟨r, Routing.nextJob_queued _ r _ rest front⟩)
  have logins : next.routing.logins = w.routing.logins := by rw [result]; rfl
  constructor
  · rw [logins]
    exact known.sorted
  · intro l member
    rw [logins] at member
    exact Nat.lt_of_lt_of_le (known.fresh l member) later
  · rw [logins]
    exact known.account
  · intro s'
    rw [Routing.latestLogin, logins, result, Routing.entered_sessions]
    split
    case isTrue same => exact same ▸ known.accountId s'
    case isFalse => exact known.accountId s'
  · intro s' id' bound
    rw [logins]
    rw [result] at bound
    rcases bound with named | names | ⟨r', waiting⟩
    · rw [Routing.entered_sessions] at named
      split at named
      case isTrue same =>
        cases named
        exact same ▸ known.bound s _ self
      case isFalse => exact known.bound s' id' (.inl named)
    · rw [Routing.entered_playerSession] at names
      split at names
      case isTrue same =>
        cases names
        exact same ▸ known.bound _ id self
      case isFalse => exact known.bound s' id' (.inr (.inl names))
    · rw [Routing.entered_queue] at waiting
      exact known.bound s' id'
        (.inr (.inr ⟨r', Routing.queue_of_popJob _ r r' _ rest batch _ waiting⟩))
  · intro r' id' member
    rw [result, Routing.entered_players] at member
    rw [result, Routing.entered_playerSession]
    split
    case isTrue => exact ⟨s, rfl⟩
    case isFalse apart =>
      rcases member with before | ⟨-, same⟩
      · exact known.standing r' id' before
      · exact absurd same apart

namespace Routing

variable (a : Routing) (s : SessionId) (account : AccountId) (id : ObjectId) (store : Store)

theorem loggedIn_cases :
    a.loggedIn s account id store = a.recordLogin s account id store ∨
      ∃ r, a.Registered r ∧ a.loggedIn s account id store =
        (a.recordLogin s account id store).pushJob r (.enterRoom s id) := by
  unfold loggedIn enterTown
  cases town : (a.recordLogin s account id store).staticRoom .town 1 with
  | none => exact .inl rfl
  | some r => exact .inr ⟨r, staticRoom_registered a .town 1 r town, rfl⟩

theorem loggedIn_players (r : RoomRef) :
    ((a.loggedIn s account id store).rooms r).players = (a.rooms r).players := by
  rcases loggedIn_cases a s account id store with same | ⟨r', -, pushed⟩
  · rw [same]
    rfl
  · rw [pushed, players_pushJob]
    rfl

theorem loggedIn_jobs (r : RoomRef) (job : Job)
    (waiting : job ∈ ((a.loggedIn s account id store).rooms r).queue) :
    job ∈ (a.rooms r).queue ∨ job = .enterRoom s id := by
  rcases loggedIn_cases a s account id store with same | ⟨r', -, pushed⟩
  · rw [same] at waiting
    exact .inl waiting
  · rw [pushed, queue_pushJob] at waiting
    split at waiting
    · rcases List.mem_append.mp waiting with before | new
      · exact .inl before
      · exact .inr (List.mem_singleton.mp new)
    · exact .inl waiting

theorem loggedIn_queue (r : RoomRef) (job : Job) (waiting : job ∈ (a.rooms r).queue) :
    job ∈ ((a.loggedIn s account id store).rooms r).queue := by
  rcases loggedIn_cases a s account id store with same | ⟨r', -, pushed⟩
  · rw [same]
    exact waiting
  · rw [pushed, queue_pushJob]
    split
    · exact List.mem_append_left _ waiting
    · exact waiting

theorem loggedIn_entering (r : RoomRef) (s' : SessionId) (id' : ObjectId)
    (waiting : Job.enterRoom s' id' ∈ ((a.loggedIn s account id store).rooms r).queue) :
    Job.enterRoom s' id' ∈ (a.rooms r).queue ∨ (s' = s ∧ id' = id) := by
  rcases loggedIn_jobs a s account id store r _ waiting with before | new
  · exact .inl before
  · cases new
    exact .inr ⟨rfl, rfl⟩

theorem loggedIn_apart :
    ∃ rooms, a.loggedIn s account id store = { a.recordLogin s account id store with rooms } := by
  rcases loggedIn_cases a s account id store with same | ⟨r', -, pushed⟩
  · exact ⟨a.rooms, same⟩
  · rw [pushed]
    exact ⟨_, rfl⟩

theorem loggedIn_logins :
    (a.loggedIn s account id store).logins = ⟨s, account, id⟩ :: a.logins := by
  obtain ⟨rooms, result⟩ := loggedIn_apart a s account id store
  rw [result]
  rfl

theorem loggedIn_sessions (s' : SessionId) :
    (a.loggedIn s account id store).sessions s' =
      if s' = s then { a.sessions s with accountId := account } else a.sessions s' := by
  have recorded : (a.recordLogin s account id store).sessions s' =
      if s' = s then { a.sessions s with accountId := account } else a.sessions s' :=
    sessions_setSession a s s' _
  obtain ⟨rooms, result⟩ := loggedIn_apart a s account id store
  rw [result, ← recorded]

theorem loggedIn_playerSession :
    (a.loggedIn s account id store).playerSession = a.playerSession := by
  obtain ⟨rooms, result⟩ := loggedIn_apart a s account id store
  rw [result]
  rfl

theorem loggedIn_playerRoom :
    (a.loggedIn s account id store).playerRoom = a.playerRoom := by
  obtain ⟨rooms, result⟩ := loggedIn_apart a s account id store
  rw [result]
  rfl

theorem loggedIn_parties : (a.loggedIn s account id store).parties = a.parties := by
  obtain ⟨rooms, result⟩ := loggedIn_apart a s account id store
  rw [result]
  rfl

theorem loggedIn_store : (a.loggedIn s account id store).store = store := by
  obtain ⟨rooms, result⟩ := loggedIn_apart a s account id store
  rw [result]
  rfl

theorem loggedIn_placed (id' : ObjectId) (place : (a.loggedIn s account id store).Placed id') :
    a.Placed id' ∨ id' = id := by
  obtain ⟨r, standing | ⟨s', waiting⟩⟩ := place
  · rw [loggedIn_players] at standing
    exact .inl ⟨r, .inl standing⟩
  · rcases loggedIn_entering a s account id store r s' id' waiting with before | ⟨-, same⟩
    · exact .inl ⟨r, .inr ⟨s', before⟩⟩
    · exact .inr same

end Routing

theorem loggedIn_known (w next : World) (s : SessionId) (account : AccountId) (store : Store)
    (known : w.Known) (found : account ≠ 0)
    (result : next.routing = w.routing.loggedIn s account w.idGen store)
    (later : next.idGen = w.idGen + 1) : next.Known := by
  have logins : next.routing.logins = ⟨s, account, w.idGen⟩ :: w.routing.logins := by
    rw [result, Routing.loggedIn_logins]
  constructor
  · rw [logins]
    exact .cons known.fresh known.sorted
  · intro l member
    rw [logins] at member
    rw [later]
    rcases List.mem_cons.mp member with rfl | old
    · exact Nat.lt_succ_self _
    · exact Nat.lt_succ_of_lt (known.fresh l old)
  · intro l member
    rw [logins] at member
    rcases List.mem_cons.mp member with rfl | old
    · exact found
    · exact known.account l old
  · intro s'
    rw [Routing.latestLogin, logins, result, Routing.loggedIn_sessions]
    by_cases same : s' = s
    · simp [same]
    · have apart : s ≠ s' := fun equal => same equal.symm
      simp only [if_neg same, known.accountId s', Routing.latestLogin]
      simp [apart]
  · intro s' id' bound
    rw [logins]
    have before : w.routing.Bound s' id' ∨ (s' = s ∧ id' = w.idGen) := by
      rw [result] at bound
      rcases bound with named | names | ⟨r, waiting⟩
      · rw [Routing.loggedIn_sessions] at named
        split at named
        case isTrue same => exact .inl (.inl (same ▸ named))
        case isFalse => exact .inl (.inl named)
      · rw [Routing.loggedIn_playerSession] at names
        exact .inl (.inr (.inl names))
      · rcases Routing.loggedIn_entering _ s account _ store r s' id' waiting with old | new
        · exact .inl (.inr (.inr ⟨r, old⟩))
        · exact .inr new
    rcases before with old | ⟨rfl, rfl⟩
    · obtain ⟨l, member, session, player⟩ := known.bound s' id' old
      exact ⟨l, List.mem_cons_of_mem _ member, session, player⟩
    · exact ⟨_, List.mem_cons_self, rfl, rfl⟩
  · intro r id' member
    rw [result, Routing.loggedIn_players] at member
    rw [result, Routing.loggedIn_playerSession]
    exact known.standing r id' member

theorem forJob_known (w : World) (r : RoomRef) (job : Job) (rest : List Job) (rand : List Nat)
    (known : w.Known) (front : w.routing.nextJob = some (r, job, rest)) :
    (w.forJob r rest rand).Known where
  sorted := known.sorted
  fresh := known.fresh
  account := known.account
  accountId := known.accountId
  bound := by
    obtain ⟨pass, -, -, batch⟩ := nextJob_some _ r job rest front
    rintro s id (named | names | ⟨r', waiting⟩)
    · exact known.bound s id (.inl named)
    · exact known.bound s id (.inr (.inl names))
    · exact known.bound s id
        (.inr (.inr ⟨r', Routing.queue_of_popJob _ r r' job rest batch _ waiting⟩))
  standing := fun r' id member => known.standing r' id (by
    rwa [World.forJob, Routing.players_popJob] at member)

theorem step_known (w next : World) (e : Event) (known : w.Known) (inRange : w.routing.InRange)
    (stepped : w.step data e = some next) : next.Known := by
  have later := step_idGen data w next e stepped
  cases step_stepped data w next e stepped with
  | enter r s id rest rand front result =>
      refine entered_known w next r s id rest known front ?_ later
      rw [result, enter_routing]
  | ran r job rest rand front stays result =>
      have popped := forJob_keeps w r job rest rand front
      have calm := runJob_calm data (w.forJob r rest rand) r job (popped.inRange inRange) stays
      rw [result] at later ⊢
      exact (forJob_known w r job rest rand known front).of_follows calm.toFollows later
  | login s username connected result =>
      subst result
      rcases handleCLogin_cases data w s username with ⟨store, looked, -⟩ | ⟨-, found, logged, more⟩
      · exact known.of_follows (looked ▸ (onStore_rests w.routing _).toFollows) later
      · exact loggedIn_known w _ s _ _ known found logged more
  | left s connected result =>
      subst result
      exact known.of_follows (onDisconnected_rests w s).toFollows later
  | other e idles => exact known.of_follows idles.toFollows later

theorem step_logins (w next : World) (e : Event) (inRange : w.routing.InRange)
    (stepped : w.step data e = some next) :
    (next.routing.logins = w.routing.logins ∧
      ∀ id, next.routing.Placed id → w.routing.Placed id) ∨
    (∃ s username, e = .packet s (.login username) ∧ username ≠ [] ∧
      next.routing.logins = ⟨s, w.routing.store.accountOf username, w.idGen⟩ :: w.routing.logins ∧
      ∀ id, next.routing.Placed id → w.routing.Placed id ∨ id = w.idGen) := by
  cases step_stepped data w next e stepped with
  | enter r s id rest rand front result =>
      left
      rw [result, enter_routing]
      refine ⟨rfl, fun id' place => ?_⟩
      have queued := Routing.nextJob_queued _ r _ rest front
      obtain ⟨r', standing | ⟨s', waiting⟩⟩ := place
      · rw [Routing.entered_players] at standing
        rcases standing with before | ⟨-, rfl⟩
        · exact ⟨r', .inl before⟩
        · exact ⟨r, .inr ⟨s, queued⟩⟩
      · rw [Routing.entered_queue] at waiting
        exact Routing.popJob_placed _ r _ rest front id' ⟨r', .inr ⟨s', waiting⟩⟩
  | ran r job rest rand front stays result =>
      left
      have ranged := (forJob_keeps w r job rest rand front).inRange inRange
      have calm := runJob_calm data (w.forJob r rest rand) r job ranged stays
      rw [result]
      refine ⟨calm.logins, fun id place => ?_⟩
      exact Routing.popJob_placed _ r job rest front id (calm.toFollows.placed id place)
  | login s username connected result =>
      rw [result]
      rcases handleCLogin_cases data w s username with ⟨store, looked, -⟩ | ⟨named, -, logged, -⟩
      · rw [looked]
        exact .inl ⟨rfl, fun id place => place⟩
      · refine .inr ⟨s, username, rfl, named, ?_, fun id place => ?_⟩
        · rw [logged, Routing.loggedIn_logins]
        · rw [logged] at place
          exact Routing.loggedIn_placed _ _ _ _ _ id place
  | left s connected result =>
      rw [result]
      have rests := onDisconnected_rests w s
      exact .inl ⟨rests.logins, fun id => rests.toFollows.placed id⟩
  | other e idles => exact .inl ⟨idles.logins, fun id => idles.toFollows.placed id⟩

theorem blank_known (w : World) (blank : w.routing.Blank) : w.Known where
  sorted := by
    rw [blank.logins]
    exact .nil
  fresh := by
    intro l member
    rw [blank.logins] at member
    cases member
  account := by
    intro l member
    rw [blank.logins] at member
    cases member
  accountId := fun s => by
    rw [blank.sessions, Routing.latestLogin, blank.logins]
    rfl
  bound := by
    rintro s id (named | names | ⟨r, waiting⟩)
    · rw [blank.sessions] at named
      cases named
    · rw [blank.playerSession] at names
      cases names
    · rw [blank.queue] at waiting
      cases waiting
  standing := by
    intro r id member
    rw [blank.players] at member
    cases member

structure World.Sound (w : World) : Prop extends w.Known where
  inRange : w.routing.InRange
  listed : w.routing.parties.Listed

theorem init_sound (store : Store) (redisConnected : Bool) (rand : List Nat) :
    (World.init data store redisConnected rand).Sound := by
  have blank := init_blank data store redisConnected rand
  refine ⟨blank_known _ blank, blank.inRange, ?_⟩
  rw [blank.parties]
  exact PartyManager.initial_listed

theorem step_listed (w next : World) (e : Event) (inRange : w.routing.InRange)
    (listed : w.routing.parties.Listed) (stepped : w.step data e = some next) :
    next.routing.parties.Listed := by
  cases step_stepped data w next e stepped with
  | enter r s id rest rand front result =>
      rw [result, enter_routing]
      exact listed
  | ran r job rest rand front stays result =>
      have ranged := (forJob_keeps w r job rest rand front).inRange inRange
      rw [result]
      exact (runJob_calm data _ r job ranged stays).listed listed
  | login s username connected result =>
      subst result
      rcases handleCLogin_cases data w s username with ⟨store, looked, -⟩ | ⟨-, -, logged, -⟩
      · rw [looked]
        exact listed
      · rw [logged, Routing.loggedIn_parties]
        exact listed
  | left s connected result =>
      rw [result]
      exact onDisconnected_listed w s listed
  | other e idles =>
      rw [idles.parties]
      exact listed

theorem step_sound (w next : World) (e : Event) (sound : w.Sound)
    (stepped : w.step data e = some next) : next.Sound :=
  ⟨step_known data w next e sound.toKnown sound.inRange stepped,
    step_inRange data w next e sound.inRange stepped,
    step_listed data w next e sound.inRange sound.listed stepped⟩

section Once

variable (s : SessionId)

/-- The session logs in once: no `C_Login` of it goes through after another. -/
def LogsInOnce (w : World) (e : Event) : Prop :=
  ∀ username, e = .packet s (.login username) → username ≠ [] →
    ∀ l ∈ w.routing.logins, l.session ≠ s

def Routing.OneLoginOf (a : Routing) : Prop :=
  ∀ l ∈ a.logins, ∀ l' ∈ a.logins, l.session = s → l'.session = s → l = l'

theorem step_oneLoginOf (w next : World) (e : Event) (sound : w.Sound)
    (single : w.routing.OneLoginOf s) (once : LogsInOnce s w e)
    (stepped : w.step data e = some next) : next.routing.OneLoginOf s := by
  rcases step_logins data w next e sound.inRange stepped with
    ⟨logins, -⟩ | ⟨s', username, event, named, logins, -⟩
  · rw [Routing.OneLoginOf, logins]
    exact single
  · intro l member l' member' session session'
    rw [logins] at member member'
    rcases List.mem_cons.mp member with rfl | old
    · rcases List.mem_cons.mp member' with rfl | old'
      · rfl
      · have mine : s' = s := session
        exact absurd session' (once username (mine ▸ event) named l' old')
    · rcases List.mem_cons.mp member' with rfl | old'
      · have mine : s' = s := session'
        exact absurd session (once username (mine ▸ event) named l old)
      · exact single l old l' old' session session'

theorem oneLogin_bound (w : World) (sound : w.Sound) (single : w.routing.OneLoginOf s)
    (id id' : ObjectId) (bound : w.routing.Bound s id) (bound' : w.routing.Bound s id') :
    id = id' := by
  obtain ⟨l, member, session, player⟩ := sound.bound s id bound
  obtain ⟨l', member', session', player'⟩ := sound.bound s id' bound'
  rw [← player, ← player', single l member l' member' session session']

end Once

end ZeldaServer
