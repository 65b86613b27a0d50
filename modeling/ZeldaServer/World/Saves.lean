import ZeldaServer.World.Logins

/-! The `SavePlayerData` calls of a run: when they are made, and whose data they write over
whose rows. -/

namespace ZeldaServer

variable (data : GameData)

/-- The call at the start of `OnDisconnected`. -/
def disconnectSave (w : World) (s : SessionId) : Option SaveCall :=
  match lockPlayer w.routing w.scene [] s with
  | none => none
  | some id =>
      if 0 < (w.routing.sessions s).accountId then
        some ⟨(w.routing.sessions s).accountId, id, (w.scene.players id).toSaveData⟩
      else none

theorem disconnectSave_some (w : World) (s : SessionId) (call : SaveCall)
    (saved : disconnectSave w s = some call) :
    lockPlayer w.routing w.scene [] s = some call.player ∧
      call.account = (w.routing.sessions s).accountId ∧ call.account ≠ 0 ∧
      call.data = (w.scene.players call.player).toSaveData := by
  unfold disconnectSave at saved
  cases locked : lockPlayer w.routing w.scene [] s with
  | none => simp [locked] at saved
  | some id =>
      simp only [locked] at saved
      split at saved
      case isTrue named =>
        cases saved
        exact ⟨rfl, rfl, Nat.ne_of_gt named, rfl⟩
      case isFalse => cases saved

theorem lockPlayer_disconnecting (routing : Routing) (scene : Scene) (held : List ObjectId)
    (s s' : SessionId) (connection : Connection) :
    lockPlayer (routing.setSession s { routing.sessions s with connection }) scene held s' =
      lockPlayer routing scene held s' := by
  have bound := (setSession_rests routing s connection).player s'
  have alive (id : ObjectId) :
      playerAlive (routing.setSession s { routing.sessions s with connection }) scene held id =
        playerAlive routing scene held id := rfl
  simp only [lockPlayer, bound, alive]

theorem partWithPlayer_store (w : World) (s : SessionId) (player : ObjectId) :
    (partWithPlayer w s player).routing.store = (saveOnDisconnect w s player).routing.store := by
  obtain ⟨parties, parted, -⟩ := partWithPlayer_routing w s player
  rw [parted]
  rfl

theorem onDisconnected_store (w : World) (s : SessionId) :
    (onDisconnected w s).routing.store =
      match disconnectSave w s with
      | none => w.routing.store
      | some call => w.routing.store.savePlayerData call.account call.player call.data := by
  have pushed : (onDisconnected w s).routing.store = (disconnecting w s).routing.store := by
    rw [onDisconnected_eq]
    cases lockRoom (disconnecting w s).routing (disconnecting w s).scene s <;> rfl
  have account : ((w.routing.setSession s
      { w.routing.sessions s with connection := .disconnected }).sessions s).accountId =
        (w.routing.sessions s).accountId := (setSession_rests w.routing s .disconnected).accountId s
  rw [pushed, disconnecting]
  dsimp only
  rw [lockPlayer_disconnecting, disconnectSave]
  cases lockPlayer w.routing w.scene [] s with
  | none => rfl
  | some id =>
      dsimp only
      rw [partWithPlayer_store, saveOnDisconnect]
      dsimp only
      rw [account]
      split <;> rfl

theorem onDisconnected_saves (w : World) (s : SessionId) :
    (onDisconnected w s).routing.store.saves =
      (disconnectSave w s).toList ++ w.routing.store.saves := by
  rw [onDisconnected_store]
  cases disconnectSave w s <;> rfl

theorem findOrCreate_saves (w : World) (username : Bytes) :
    (w.loginMade data username).2 = (w.routing.store.findOrCreateAccount username).2 ∨
      w.routing.store.rows (w.routing.store.accountOf username) = none ∧
        ∃ saved, (w.loginMade data username).2 =
          (w.routing.store.findOrCreateAccount username).2.savePlayerData
            (w.routing.store.accountOf username) w.idGen saved := by
  have rows := (findOrCreateAccount_kept w.routing.store username).1
  unfold World.loginMade loginPlayer
  cases found : (w.routing.store.findOrCreateAccount username).2.rows
      (w.routing.store.accountOf username) with
  | some saved => exact .inl rfl
  | none =>
      rw [rows] at found
      exact .inr ⟨found, _, rfl⟩

/-- What a step can do to the database: nothing to what players have there, the first save
of a new account, or the save of a disconnect. -/
inductive World.Stored (w next : World) : Event → Prop where
  | kept (e : Event) (rows : next.routing.store.rows = w.routing.store.rows)
      (saves : next.routing.store.saves = w.routing.store.saves) : Stored w next e
  | created (s : SessionId) (username : Bytes) (saved : SaveData) (named : username ≠ [])
      (missing : w.routing.store.rows (w.routing.store.accountOf username) = none)
      (logins : next.routing.logins =
        ⟨s, w.routing.store.accountOf username, w.idGen⟩ :: w.routing.logins)
      (rows : next.routing.store.rows = Function.update w.routing.store.rows
        (w.routing.store.accountOf username) (some (Store.rowsOf saved)))
      (saves : next.routing.store.saves =
        ⟨w.routing.store.accountOf username, w.idGen, saved⟩ :: w.routing.store.saves) :
      Stored w next (.packet s (.login username))
  | left (s : SessionId) (call : SaveCall) (made : disconnectSave w s = some call)
      (store : next.routing.store =
        w.routing.store.savePlayerData call.account call.player call.data) :
      Stored w next (.disconnect s)

theorem step_stored (w next : World) (e : Event) (inRange : w.routing.InRange)
    (stepped : w.step data e = some next) : w.Stored next e := by
  cases step_stepped data w next e stepped with
  | enter r s id rest rand front result =>
      have same : next.routing.store = w.routing.store := by
        rw [result, enter_routing]
        rfl
      exact .kept _ (congrArg Store.rows same) (congrArg Store.saves same)
  | ran r job rest rand front stays result =>
      have ranged := (forJob_keeps w r job rest rand front).inRange inRange
      have same : next.routing.store = w.routing.store := by
        rw [result]
        exact (runJob_calm data _ r job ranged stays).store
      exact .kept _ (congrArg Store.rows same) (congrArg Store.saves same)
  | login s username connected result =>
      subst result
      rcases handleCLogin_cases data w s username with
        ⟨store, looked, -, rows, saves⟩ | ⟨named, -, logged, -⟩
      · refine .kept _ ?_ ?_
        · rw [looked]
          exact rows
        · rw [looked]
          exact saves
      · obtain ⟨rows, saves⟩ := findOrCreateAccount_kept w.routing.store username
        have store := congrArg Routing.store logged
        have logins := congrArg Routing.logins logged
        rw [Routing.loggedIn_store] at store
        rw [Routing.loggedIn_logins] at logins
        rcases findOrCreate_saves data w username with loaded | ⟨missing, saved, created⟩
        · rw [loaded] at store
          exact .kept _ ((congrArg Store.rows store).trans rows)
            ((congrArg Store.saves store).trans saves)
        · rw [created] at store
          refine .created s username saved named missing logins ?_ ?_
          · rw [store, ← rows]
            rfl
          · rw [store, ← saves]
            rfl
  | left s connected result =>
      have store := onDisconnected_store w s
      rw [← result] at store
      cases saved : disconnectSave w s with
      | none =>
          rw [saved] at store
          exact .kept _ (congrArg Store.rows store) (congrArg Store.saves store)
      | some call =>
          rw [saved] at store
          exact .left s call saved store
  | other e idles =>
      exact .kept e (congrArg Store.rows idles.store) (congrArg Store.saves idles.store)

/-- Every call a disconnect makes writes, for an account, the data of a player that
`Handle_C_Login` created for it. -/
def SavesOwnAccount (w : World) (e : Event) : Prop :=
  ∀ s call, e = .disconnect s →
    (onDisconnected w s).routing.store.saves = call :: w.routing.store.saves →
    ∃ l ∈ w.routing.logins, l.account = call.account ∧ l.player = call.player ∧
      call.data = (w.scene.players l.player).toSaveData

/-- A session that disconnects with its player alive has, since that player's login, logged
in for the same account only, or not at all. -/
def LatestLoginNamesAccount (w : World) (e : Event) : Prop :=
  ∀ s id, e = .disconnect s → lockPlayer w.routing w.scene [] s = some id →
    (w.routing.latestLogin s).map (·.account) = (w.routing.loginOf id).map (·.account)

theorem savesOwnAccount_iff (w : World) (e : Event) (sound : w.Sound) :
    SavesOwnAccount w e ↔ LatestLoginNamesAccount w e := by
  constructor
  · intro own s id event locked
    obtain ⟨named, -⟩ := lockPlayer_some _ _ _ _ _ locked
    obtain ⟨l, member, session, player⟩ := sound.bound s id (.inl named)
    obtain ⟨latest, newest⟩ : ∃ latest, w.routing.latestLogin s = some latest := by
      refine Option.isSome_iff_exists.mp ?_
      simp only [Routing.latestLogin, List.find?_isSome, decide_eq_true_eq]
      exact ⟨l, member, session⟩
    have account : (w.routing.sessions s).accountId = latest.account := by
      rw [sound.accountId s, newest]
      rfl
    have positive : 0 < latest.account :=
      Nat.pos_of_ne_zero (sound.account latest (List.mem_of_find?_eq_some newest))
    have saved : disconnectSave w s =
        some ⟨latest.account, id, (w.scene.players id).toSaveData⟩ := by
      simp only [disconnectSave, locked, account, if_pos positive]
    obtain ⟨l', member', account', player', -⟩ := own s _ event
      (by rw [onDisconnected_saves, saved]; rfl)
    have created : w.routing.loginOf id = some l' :=
      (congrArg w.routing.loginOf player').symm.trans (sound.loginOf_eq l' member')
    rw [newest, created, Option.map_some, Option.map_some, account']
  · intro names s call event saves
    have saved : disconnectSave w s = some call := by
      rw [onDisconnected_saves] at saves
      cases made : disconnectSave w s with
      | none =>
          rw [made] at saves
          exact absurd (congrArg List.length saves) (by simp)
      | some other =>
          rw [made] at saves
          exact congrArg some (List.cons.inj saves).1
    obtain ⟨locked, account, positive, dated⟩ := disconnectSave_some w s call saved
    have same := names s call.player event locked
    rw [sound.accountId s] at account
    cases newest : w.routing.latestLogin s with
    | none =>
        rw [newest] at account
        exact absurd account positive
    | some latest =>
        rw [newest, Option.map_some, eq_comm, Option.map_eq_some_iff] at same
        obtain ⟨l, created, equal⟩ := same
        have player : l.player = call.player := by simpa using List.find?_some created
        refine ⟨l, List.mem_of_find?_eq_some created, ?_, player, ?_⟩
        · rw [equal, account, newest]
          rfl
        · rw [dated, player]

/-- In every run, the calls of the disconnects are for the right account exactly when no
session disconnects between a login for another account and the `EnterRoom` job of it. -/
theorem saves_own_account_iff (store : Store) (redisConnected : Bool) (rand : List Nat)
    (events : List Event) :
    Runs.EachStep (World.step data) SavesOwnAccount (World.init data store redisConnected rand)
        events ↔
      Runs.EachStep (World.step data) LatestLoginNamesAccount
        (World.init data store redisConnected rand) events :=
  Runs.eachStep_congr SavesOwnAccount LatestLoginNamesAccount World.Sound
    (fun w e next sound _ => step_sound data w next e sound)
    (fun w e _ sound _ => savesOwnAccount_iff w e sound)
    _ events (init_sound data store redisConnected rand)

/-- The session plays as `a`, logs in as `b`, and is gone before `b` has entered. -/
def reloginEvents : List Event :=
  [Event.connect 1, .packet 1 (.login [97])] ++ updateTown 1 ++ [Event.packet 1 (.login [98])]

set_option maxRecDepth 10000 in
/-- The player of account 1 is written over the rows of account 2. -/
theorem relogin_saves_other_account :
    ∃ w, reached smallGame newStore false [] reloginEvents = some w ∧
      ¬ SavesOwnAccount w (.disconnect 1) := by
  have run : (reached smallGame newStore false [] reloginEvents).any (fun w =>
      (disconnectSave w 1).any (fun call => call.account = 2 ∧ call.player = 1) ∧
        w.routing.logins = [⟨1, 2, 2⟩, ⟨1, 1, 1⟩]) = true := by decide +kernel
  obtain ⟨w, reached, checked⟩ := Option.any_eq_true _ _ |>.mp run
  obtain ⟨saved, logins⟩ := of_decide_eq_true checked
  obtain ⟨call, made, wrong⟩ := Option.any_eq_true _ _ |>.mp saved
  obtain ⟨account, player⟩ := of_decide_eq_true wrong
  refine ⟨w, reached, fun own => ?_⟩
  obtain ⟨l, member, sameAccount, samePlayer, -⟩ := own 1 call rfl (by
    rw [onDisconnected_saves, made]
    rfl)
  rw [account] at sameAccount
  rw [player] at samePlayer
  rw [logins] at member
  simp only [List.mem_cons, List.not_mem_nil, or_false] at member
  rcases member with rfl | rfl
  · cases samePlayer
  · cases sameAccount

end ZeldaServer
