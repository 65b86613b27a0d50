import ZeldaServer.Database.SaveFailures

/-! Accounts in the database: what `Handle_C_Login` makes of a username, with every statement
succeeding, and how the store of the world stands for the tables. -/

namespace ZeldaServer

def allOk : SaveStep → Bool := fun _ => true

namespace Database

variable (db : Database)

theorem lt_nextAccountId (row : AccountRow) (member : row ∈ db.accounts.rows) :
    row.accountId < db.nextAccountId := by
  obtain ⟨last, found, le⟩ := db.accounts.le_maxRowid row member
  unfold nextAccountId
  rw [found, Option.getD_some]
  omega

theorem selectAccount_some_iff (username : Bytes) (id : Int) :
    db.selectAccount username = some id ↔ ⟨id, cString username⟩ ∈ db.accounts.rows := by
  simp only [selectAccount, Option.map_eq_some_iff, Table.find_eq_some_iff]
  constructor
  · rintro ⟨row, ⟨member, name⟩, rfl⟩
    rw [← name]
    exact member
  · intro member
    exact ⟨_, ⟨member, rfl⟩, rfl⟩

structure Registers (username : Bytes) (db db' : Database) : Prop where
  rows : db'.accounts.rows = ⟨db.nextAccountId, username⟩ :: db.accounts.rows
  seq : db'.accountSeq = db.nextAccountId
  players : db'.players = db.players
  inventory : db'.inventory = db.inventory
  equipment : db'.equipment = db.equipment
  inTransaction : db'.inTransaction = db.inTransaction
  lastInsertRowid : db'.lastInsertRowid = db.nextAccountId

theorem exec_insertAccount_none (username : Bytes)
    (failed : db.exec (.insertAccount username) = none) :
    ∃ id, ⟨id, username⟩ ∈ db.accounts.rows := by
  simp only [exec, Option.map_eq_none_iff, Table.insert_eq_none_iff] at failed
  obtain ⟨row, member, same | same⟩ := failed
  · exact absurd same (Int.ne_of_lt (db.lt_nextAccountId row member))
  · have same : row.username = username := same
    exact ⟨row.accountId, by rw [← same]; exact member⟩

theorem exec_insertAccount_some (username : Bytes) (db' : Database)
    (done : db.exec (.insertAccount username) = some db') : db.Registers username db' := by
  simp only [exec, Option.map_eq_some_iff] at done
  obtain ⟨accounts, inserted, rfl⟩ := done
  exact ⟨Table.insert_rows _ _ _ inserted, rfl, rfl, rfl, rfl, rfl, rfl⟩

theorem findOrCreateAccount_cases (username : Bytes) :
    (∃ id, ⟨id, cString username⟩ ∈ db.accounts.rows ∧
      db.findOrCreateAccount username = (id, db)) ∨
    ((∀ id, ⟨id, cString username⟩ ∉ db.accounts.rows) ∧
      ∃ db', db.Registers (cString username) db' ∧
        db.findOrCreateAccount username = (db.nextAccountId, db')) := by
  unfold findOrCreateAccount
  cases selected : db.selectAccount username with
  | some id => exact .inl ⟨id, (db.selectAccount_some_iff username id).mp selected, rfl⟩
  | none =>
      right
      have missing : ∀ id, ⟨id, cString username⟩ ∉ db.accounts.rows := by
        intro id member
        rw [(db.selectAccount_some_iff username id).mpr member] at selected
        cases selected
      refine ⟨missing, ?_⟩
      cases done : db.exec (.insertAccount (cString username)) with
      | none =>
          obtain ⟨id, member⟩ := db.exec_insertAccount_none _ done
          exact absurd member (missing id)
      | some db' =>
          have registers := db.exec_insertAccount_some _ db' done
          exact ⟨db', registers, by simp [registers.lastInsertRowid]⟩

variable (data : GameData)

/-- `Handle_C_Login` from the account on: the player it loads, or creates and saves. -/
def loginPlayer (accountId : Int) (id : ObjectId) (username : Bytes) : Player × Database :=
  let player := Player.create data id
  if db.hasPlayerData accountId then
    (Player.applyFromSaveData data (db.loadPlayerData accountId .fresh).2 player, db)
  else
    let player := { player with info := { player.info with name := username } }
    (player, (db.savePlayerData allOk accountId player.toSaveData).2)

/-- What `LoadPlayerData` tells of an account. -/
def loaded (accountId : Int) : Option SaveData :=
  if db.hasPlayerData accountId then some (db.loadPlayerData accountId .fresh).2 else none

structure Refines (store : Store) : Prop where
  accounts : store.accounts.map (fun account => ⟨(account.2 : Int), account.1⟩) = db.accounts.rows
  next : (store.accountIdGen : Int) = db.nextAccountId
  rows : ∀ account : AccountId, store.rows account = db.loaded account

variable {db}

theorem SameRows.loadPlayerData {db' : Database} {accountId : Int}
    (same : db.SameRows db' accountId) (out : SaveData) :
    db'.loadPlayerData accountId out = db.loadPlayerData accountId out := by
  unfold Database.loadPlayerData
  rw [same.players, same.inventory, same.equipment]

theorem SameRows.loaded {db' : Database} {accountId : Int} (same : db.SameRows db' accountId) :
    db'.loaded accountId = db.loaded accountId := by
  unfold Database.loaded hasPlayerData
  rw [same.players, same.loadPlayerData]

variable (db)

theorem savePlayerData_loaded (accountId : Int) (saved : SaveData) :
    (db.savePlayerData allOk accountId saved).2.loadPlayerData accountId .fresh =
      (true, Store.rowsOf saved) := by
  have done := db.savePlayerData_savedTo allOk accountId saved
  rw [loadPlayerData_eq_iff]
  refine ⟨⟨saved.playerRow accountId, done.player, cString_idem _, rfl, rfl, rfl⟩, ?_, ?_⟩
  · intro i
    rw [done.storage]
    by_cases held : (saved.storage i).itemId = 0
    · simp [SaveStep.inventoryDeleted, SaveStep.inventoryInserted, allOk, held, Store.rowsOf,
        Store.slotRow, SaveData.fresh]
    · simp [SaveStep.inventoryDeleted, SaveStep.inventoryInserted, allOk, held, Store.rowsOf,
        Store.slotRow]
  · intro equip
    have same : (Store.rowsOf saved).equipped equip = Store.slotRow (saved.equipped equip) := by
      cases equip <;> rfl
    have none_held : SaveData.fresh.equipped equip = .empty := by cases equip <;> rfl
    rw [done.equipment_at, same, none_held]
    by_cases held : (saved.equipped equip).itemId = 0
    · simp [SaveStep.equipmentDeleted, SaveStep.equipmentInserted, allOk, held, Store.slotRow]
    · simp [SaveStep.equipmentDeleted, SaveStep.equipmentInserted, allOk, held, Store.slotRow]

theorem savePlayerData_other (ok : SaveStep → Bool) (accountId other : Int) (saved : SaveData)
    (ne : other ≠ accountId) :
    db.SameRows (db.savePlayerData ok accountId saved).2 other := by
  have done := db.savePlayerData_savedTo ok accountId saved
  obtain ⟨inventory, equipment⟩ := done.other_items other ne
  exact ⟨done.other_player other ne, inventory, equipment⟩

theorem loaded_savePlayerData (accountId other : Int) (saved : SaveData) :
    (db.savePlayerData allOk accountId saved).2.loaded other =
      if other = accountId then some (Store.rowsOf saved) else db.loaded other := by
  split
  next same =>
    subst same
    have row := (db.savePlayerData_savedTo allOk other saved).player
    have there : (db.savePlayerData allOk other saved).2.hasPlayerData other = true := by
      simp [hasPlayerData, row, SaveStep.playerSaved, allOk]
    rw [loaded, if_pos there, savePlayerData_loaded]
  next ne => exact (db.savePlayerData_other allOk accountId other saved ne).loaded

variable {db} {store : Store}

theorem Refines.save (refines : db.Refines store) (account : AccountId) (player : ObjectId)
    (saved : SaveData) :
    (db.savePlayerData allOk account saved).2.Refines
      (store.savePlayerData account player saved) := by
  have done := db.savePlayerData_savedTo allOk account saved
  constructor
  · exact refines.accounts.trans (congrArg Table.rows done.accounts).symm
  · rw [nextAccountId, done.accounts, done.accountSeq]
    exact refines.next
  · intro other
    rw [loaded_savePlayerData]
    simp only [Store.savePlayerData, Function.update_apply, Int.natCast_inj]
    split
    · rfl
    · exact refines.rows other

theorem Registers.sameRows {username : Bytes} {db' : Database}
    (registers : db.Registers username db') (accountId : Int) : db.SameRows db' accountId :=
  ⟨by rw [registers.players], by rw [registers.inventory], by rw [registers.equipment]⟩

theorem Registers.next {username : Bytes} {db' : Database}
    (registers : db.Registers username db') : db'.nextAccountId = db.nextAccountId + 1 := by
  have largest : db'.accounts.maxRowid = some db.nextAccountId := by
    unfold Table.maxRowid
    rw [registers.rows, List.map_cons, List.max?_eq_some_iff]
    refine ⟨List.mem_cons_self, fun id listed => ?_⟩
    rcases List.mem_cons.mp listed with rfl | old
    · exact Int.le_refl _
    · obtain ⟨row, member, rfl⟩ := List.mem_map.mp old
      exact Int.le_of_lt (db.lt_nextAccountId row member)
  rw [nextAccountId, largest, registers.seq, Option.getD_some, Int.max_self]

theorem Refines.findOrCreateAccount (refines : db.Refines store) (username : Bytes) :
    ((store.findOrCreateAccount username).1 : Int) = (db.findOrCreateAccount username).1 ∧
      (db.findOrCreateAccount username).2.Refines (store.findOrCreateAccount username).2 := by
  unfold Store.findOrCreateAccount
  cases found : store.accounts.find? fun account => account.1 = cString username with
  | some account =>
      have member : ⟨(account.2 : Int), cString username⟩ ∈ db.accounts.rows := by
        have name : account.1 = cString username := by simpa using List.find?_some found
        rw [← refines.accounts, ← name]
        exact List.mem_map_of_mem (List.mem_of_find?_eq_some found)
      have selected := (db.selectAccount_some_iff username _).mpr member
      simp only [Database.findOrCreateAccount, selected]
      exact ⟨trivial, refines⟩
  | none =>
      have missing : ∀ id, ⟨id, cString username⟩ ∉ db.accounts.rows := by
        intro id member
        rw [← refines.accounts] at member
        obtain ⟨account, listed, same⟩ := List.mem_map.mp member
        have other := List.find?_eq_none.mp found account listed
        have name : account.1 = cString username := congrArg AccountRow.username same
        simp [name] at other
      rcases db.findOrCreateAccount_cases username with
        ⟨id, member, -⟩ | ⟨-, db', registers, created⟩
      · exact absurd member (missing id)
      · rw [created]
        refine ⟨refines.next, ?_, ?_, ?_⟩
        · rw [registers.rows, ← refines.accounts, ← refines.next]
          rfl
        · rw [registers.next, ← refines.next]
          rfl
        · intro account
          rw [(registers.sameRows account).loaded]
          exact refines.rows account

theorem Refines.loginPlayer (refines : db.Refines store) (data : GameData) (account : AccountId)
    (id : ObjectId) (username : Bytes) :
    (db.loginPlayer data account id username).1 =
        (ZeldaServer.loginPlayer data store account id username).1 ∧
      (db.loginPlayer data account id username).2.Refines
        (ZeldaServer.loginPlayer data store account id username).2 := by
  have rows := refines.rows account
  unfold Database.loginPlayer ZeldaServer.loginPlayer
  by_cases known : db.hasPlayerData account = true
  · rw [loaded, if_pos known] at rows
    rw [if_pos known, rows]
    exact ⟨rfl, refines⟩
  · rw [loaded, if_neg known] at rows
    rw [if_neg known, rows]
    exact ⟨rfl, refines.save account id _⟩

end Database

theorem Player.applyFromSaveData_name (data : GameData) (saved : SaveData) (p : Player) :
    (Player.applyFromSaveData data saved p).info.name = saved.name := by
  unfold Player.applyFromSaveData Player.withExtra
  dsimp only
  have kept : ∀ restored : Player,
      (Player.recalcStats data restored).info.name = restored.info.name := by
    intro restored
    obtain ⟨attack, defence, same⟩ := restored.info_recalcStats data
    rw [same]
  rw [kept]
  cases data.levelData saved.level <;> rfl

/-- A `Handle_C_Login` that went through: the account it got, and its player's name. -/
structure AccountLogin where
  username : Bytes
  accountId : Int
  name : Bytes
  deriving DecidableEq

structure Registry where
  db : Database
  logins : List AccountLogin

def Registry.created : Registry := ⟨.created, []⟩

inductive RegistryEvent where
  | login (id : ObjectId) (username : Bytes)
  /-- `OnDisconnected` saves a player that logged in. -/
  | save (accountId : Int) (saved : SaveData)

def registryStep (data : GameData) (s : Registry) : RegistryEvent → Option Registry
  | .login id username =>
      if username = [] then some s
      else
        let (accountId, db) := s.db.findOrCreateAccount username
        if accountId = 0 then some { s with db }
        else
          let (player, db) := db.loginPlayer data accountId id username
          some ⟨db, ⟨username, accountId, player.info.name⟩ :: s.logins⟩
  | .save accountId saved =>
      if ∃ login ∈ s.logins, login.accountId = accountId ∧ login.name = saved.name then
        some { s with db := (s.db.savePlayerData allOk accountId saved).2 }
      else none

/-- Accounts are keyed by the whole username, which is the name stored for the account's player
and the one it is loaded with. -/
structure Registry.Keyed (s : Registry) : Prop where
  account_iff : ∀ l ∈ s.logins, ∀ l' ∈ s.logins,
    l.accountId = l'.accountId ↔ l.username = l'.username
  stored : ∀ l ∈ s.logins, ∃ row, s.db.players.find l.accountId = some row ∧ row.name = l.username
  name : ∀ l ∈ s.logins, l.name = l.username

structure Database.Owned (db : Database) : Prop where
  seq : 0 ≤ db.accountSeq
  positive : ∀ row ∈ db.accounts.rows, 0 < row.accountId
  owned : ∀ accountId row, db.players.find accountId = some row →
    ⟨accountId, row.name⟩ ∈ db.accounts.rows

structure Registry.Sound (s : Registry) : Prop extends s.Keyed, s.db.Owned where
  listed : ∀ l ∈ s.logins, ⟨l.accountId, l.username⟩ ∈ s.db.accounts.rows
  free : ∀ l ∈ s.logins, 0 ∉ l.username

/-- What `Handle_C_Login` does to the tables: the account has the username's text up to its
first NUL, and so has its player. -/
structure Database.LoggedIn (username : Bytes) (accountId : Int) (name : Bytes)
    (db db' : Database) : Prop where
  account : ⟨accountId, cString username⟩ ∈ db'.accounts.rows
  kept : ∀ row ∈ db.accounts.rows, row ∈ db'.accounts.rows
  stored : ∃ row, db'.players.find accountId = some row ∧ row.name = cString username
  others : ∀ other, other ≠ accountId → db'.players.find other = db.players.find other
  name : name = cString username ∨ name = username
  owned : db'.Owned

namespace Database

variable (data : GameData) (db : Database) (id : ObjectId) (username : Bytes)

theorem accountId_unique (a b : AccountRow) (member : a ∈ db.accounts.rows)
    (member' : b ∈ db.accounts.rows) (same : a.accountId = b.accountId) : a = b :=
  List.inj_on_of_nodup_map db.accounts.rowids_nodup member member' same

theorem username_unique (a b : AccountRow) (member : a ∈ db.accounts.rows)
    (member' : b ∈ db.accounts.rows) (same : a.username = b.username) : a = b :=
  List.inj_on_of_nodup_map db.accounts.keys_nodup member member' same

theorem Owned.save {db : Database} (sound : db.Owned) (accountId : Int) (saved : SaveData)
    (account : ⟨accountId, cString saved.name⟩ ∈ db.accounts.rows) :
    (db.savePlayerData allOk accountId saved).2.Owned := by
  have done := db.savePlayerData_savedTo allOk accountId saved
  constructor
  · rw [done.accountSeq]
    exact sound.seq
  · rw [done.accounts]
    exact sound.positive
  · intro other row found
    rw [done.accounts]
    by_cases same : other = accountId
    · subst same
      have written : some (saved.playerRow other) = some row := done.player.symm.trans found
      cases written
      exact account
    · rw [done.other_player other same] at found
      exact sound.owned other row found

theorem loginPlayer_loggedIn (sound : db.Owned) (accountId : Int)
    (account : ⟨accountId, cString username⟩ ∈ db.accounts.rows) :
    LoggedIn username accountId (db.loginPlayer data accountId id username).1.info.name db
      (db.loginPlayer data accountId id username).2 := by
  unfold Database.loginPlayer
  cases found : db.players.find accountId with
  | some row =>
      have known : db.hasPlayerData accountId = true := by simp [hasPlayerData, found]
      have named : row.name = cString username :=
        congrArg AccountRow.username
          (db.accountId_unique _ _ (sound.owned accountId row found) account rfl)
      rw [if_pos known]
      obtain ⟨loaded, read, loads⟩ := db.loadPlayerData_found accountId .fresh row found
      refine ⟨account, fun _ member => member, ⟨row, found, named⟩, fun _ _ => rfl, .inl ?_, sound⟩
      rw [read, Player.applyFromSaveData_name, loads.name, named, cString_idem]
  | none =>
      have missing : ¬ db.hasPlayerData accountId = true := by simp [hasPlayerData, found]
      rw [if_neg missing]
      dsimp only
      generalize created : Player.toSaveData _ = saved
      have name : saved.name = username := by
        rw [← created]
        rfl
      have done := db.savePlayerData_savedTo allOk accountId saved
      have row : (db.savePlayerData allOk accountId saved).2.players.find accountId =
          some (saved.playerRow accountId) := done.player
      refine ⟨?_, ?_, ⟨_, row, congrArg cString name⟩, done.other_player, .inr rfl, ?_⟩
      · rw [done.accounts]
        exact account
      · intro row member
        rw [done.accounts]
        exact member
      · exact sound.save accountId saved (by rw [name]; exact account)

end Database

theorem registryStep_login (data : GameData) (s : Registry) (sound : s.db.Owned) (id : ObjectId)
    (username : Bytes) (given : username ≠ []) :
    ∃ accountId name db, registryStep data s (.login id username) =
        some ⟨db, ⟨username, accountId, name⟩ :: s.logins⟩ ∧
      s.db.LoggedIn username accountId name db := by
  simp only [registryStep, given, if_false]
  rcases s.db.findOrCreateAccount_cases username with
    ⟨accountId, account, found⟩ | ⟨missing, db, registers, made⟩
  · have positive := sound.positive _ account
    have valid : accountId ≠ 0 := by
      dsimp only at positive
      omega
    rw [found]
    simp only [valid, if_false]
    exact ⟨_, _, _, rfl, s.db.loginPlayer_loggedIn data id username sound accountId account⟩
  · have fresh : 0 < s.db.nextAccountId := by
      have := sound.seq
      unfold Database.nextAccountId
      omega
    have valid : s.db.nextAccountId ≠ 0 := by omega
    rw [made]
    simp only [valid, if_false]
    have account : ⟨s.db.nextAccountId, cString username⟩ ∈ db.accounts.rows := by
      rw [registers.rows]
      exact List.mem_cons_self
    have sound' : db.Owned := by
      constructor
      · rw [registers.seq]
        omega
      · intro row member
        rw [registers.rows] at member
        rcases List.mem_cons.mp member with rfl | old
        · exact fresh
        · exact sound.positive row old
      · intro other row found
        rw [registers.players] at found
        rw [registers.rows]
        exact List.mem_cons_of_mem _ (sound.owned other row found)
    have done := db.loginPlayer_loggedIn data id username sound' s.db.nextAccountId account
    refine ⟨_, _, _, rfl, done.account, fun row member => ?_, done.stored, ?_, done.name,
      done.owned⟩
    · apply done.kept
      rw [registers.rows]
      exact List.mem_cons_of_mem _ member
    · intro other ne
      rw [done.others other ne, registers.players]

theorem registry_login_kept (data : GameData) (s next : Registry) (sound : s.Sound)
    (id : ObjectId) (username : Bytes) (free : 0 ∉ username)
    (stepped : registryStep data s (.login id username) = some next) : next.Sound := by
  by_cases given : username = []
  · simp only [registryStep, given, if_true] at stepped
    cases stepped
    exact sound
  · obtain ⟨accountId, name, db, done, logged⟩ :=
      registryStep_login data s sound.toOwned id username given
    rw [stepped] at done
    cases done
    have whole := (cString_eq_self_iff username).mpr free
    have account := logged.account
    have stored := logged.stored
    have named := logged.name
    rw [whole] at account stored named
    have listed : ∀ l ∈ (⟨username, accountId, name⟩ :: s.logins : List AccountLogin),
        ⟨l.accountId, l.username⟩ ∈ db.accounts.rows := by
      intro l member
      rcases List.mem_cons.mp member with rfl | old
      · exact account
      · exact logged.kept _ (sound.listed l old)
    refine ⟨⟨?_, ?_, ?_⟩, logged.owned, listed, ?_⟩
    · intro l member l' member'
      constructor
      · intro same
        exact congrArg AccountRow.username
          (db.accountId_unique _ _ (listed l member) (listed l' member') same)
      · intro same
        exact congrArg AccountRow.accountId
          (db.username_unique _ _ (listed l member) (listed l' member') same)
    · intro l member
      by_cases same : l.accountId = accountId
      · have usernames : l.username = username :=
          congrArg AccountRow.username (db.accountId_unique _ _ (listed l member) account same)
        rw [same, usernames]
        exact stored
      · rcases List.mem_cons.mp member with rfl | old
        · exact absurd rfl same
        · rw [logged.others _ same]
          exact sound.stored l old
    · intro l member
      rcases List.mem_cons.mp member with rfl | old
      · rcases named with named | named <;> exact named
      · exact sound.name l old
    · intro l member
      rcases List.mem_cons.mp member with rfl | old
      · exact free
      · exact sound.free l old

theorem registry_login_broken (data : GameData) (s next : Registry) (sound : s.Sound)
    (id : ObjectId) (username : Bytes)
    (stepped : registryStep data s (.login id username) = some next) (keyed : next.Keyed) :
    0 ∉ username := by
  by_cases given : username = []
  · rw [given]
    exact List.not_mem_nil
  · obtain ⟨accountId, name, db, done, logged⟩ :=
      registryStep_login data s sound.toOwned id username given
    rw [stepped] at done
    cases done
    obtain ⟨row, found, named⟩ := keyed.stored ⟨username, accountId, name⟩ List.mem_cons_self
    obtain ⟨row', found', named'⟩ := logged.stored
    rw [found] at found'
    cases found'
    rw [← cString_eq_self_iff, ← named', named]

theorem registry_save_kept (data : GameData) (s next : Registry) (sound : s.Sound)
    (accountId : Int) (saved : SaveData)
    (stepped : registryStep data s (.save accountId saved) = some next) : next.Sound := by
  simp only [registryStep] at stepped
  split at stepped
  next known =>
    cases stepped
    obtain ⟨login, member, account, name⟩ := known
    have done := s.db.savePlayerData_savedTo allOk accountId saved
    have named : cString saved.name = login.username := by
      rw [← name, sound.name login member]
      exact (cString_eq_self_iff _).mpr (sound.free login member)
    have listed := sound.listed login member
    rw [account] at listed
    have owned := sound.toOwned.save accountId saved (by rw [named]; exact listed)
    refine ⟨⟨sound.account_iff, fun l old => ?_, sound.name⟩, owned, fun l old => ?_, sound.free⟩
    · by_cases same : l.accountId = accountId
      · have usernames : l.username = login.username :=
          (sound.account_iff l old login member).mp (same.trans account.symm)
        rw [same, usernames]
        exact ⟨_, done.player, named⟩
      · exact done.other_player _ same ▸ sound.stored l old
    · exact (congrArg Table.rows done.accounts) ▸ sound.listed l old
  next => cases stepped

theorem registry_created_sound : Registry.created.Sound where
  account_iff := by simp [Registry.created]
  stored := by simp [Registry.created]
  name := by simp [Registry.created]
  seq := Int.le_refl 0
  positive := fun _ member => absurd member List.not_mem_nil
  owned := fun _ _ found => by cases found
  listed := by simp [Registry.created]
  free := by simp [Registry.created]

/-- In every sequence of logins, and of saves of players that logged in, accounts are keyed by
the whole username exactly if no username has a NUL. -/
theorem registry_keyed_iff (data : GameData) (events : List RegistryEvent) :
    Runs.EveryState (registryStep data) Registry.Keyed .created events ↔
      Runs.EachStep (registryStep data)
        (fun _ e => ∀ id username, e = .login id username → 0 ∉ username) .created events := by
  apply Runs.everyState_iff (fun _ _ => True) _ Registry.Sound
  · exact fun s sound => sound.toKeyed
  · rintro s e next sound - stepped free
    cases e with
    | login id username =>
        exact registry_login_kept data s next sound id username (free id username rfl) stepped
    | save accountId saved => exact registry_save_kept data s next sound accountId saved stepped
  · rintro s e next sound - stepped keyed id username rfl
    exact registry_login_broken data s next sound id username stepped keyed
  · exact registry_created_sound
  · exact Runs.eachStep_true _ _

/-- The usernames are `"a"` and `"a\0b"`. -/
def truncatedLogins : List RegistryEvent := [.login 1 [97], .login 2 [97, 0, 98]]

/-- Both logins get account 1. -/
theorem nul_username_shares_account :
    ¬ Runs.EveryState (registryStep potionGame) Registry.Keyed .created truncatedLogins := by
  intro every
  have accounts : (Runs.run (registryStep potionGame) .created truncatedLogins).map
      (fun s => s.logins.map fun l => (l.username, l.accountId)) =
        some [([97, 0, 98], 1), ([97], 1)] := by decide
  obtain ⟨final, reached, logins⟩ := Option.map_eq_some_iff.mp accounts
  have keyed := Runs.everyState_final _ _ _ _ every reached
  have listed : ∀ pair ∈ [(([97, 0, 98] : Bytes), (1 : Int)), ([97], 1)],
      ∃ l ∈ final.logins, l.username = pair.1 ∧ l.accountId = pair.2 := by
    intro pair member
    rw [← logins] at member
    obtain ⟨l, there, rfl⟩ := List.mem_map.mp member
    exact ⟨l, there, rfl, rfl⟩
  obtain ⟨l, member, name, account⟩ := listed ([97, 0, 98], 1) (by decide)
  obtain ⟨l', member', name', account'⟩ := listed ([97], 1) (by decide)
  have same := (keyed.account_iff l member l' member').mp (account.trans account'.symm)
  rw [name, name'] at same
  exact absurd same (by decide)

end ZeldaServer
