import ZeldaServer.World.PartyNews

/-! The presence keys of one server: `player:loc:{name}` against the sessions that have
logged in under the name. -/

namespace ZeldaServer

variable (data : GameData)

/-- Whether the name's key exists after a command, by whether it did before. Its value is
always `GServerAddr`. -/
def RedisCommand.locates (name : Bytes) (present : Bool) : RedisCommand → Bool
  | .setLocation other => present || other = name
  | .delLocation other => present && other ≠ name
  | .rankLevel _ _ => present

def Scene.present (scene : Scene) (name : Bytes) : Bool :=
  scene.redis.foldl (RedisCommand.locates name) false

theorem present_locations (scene : Scene) (name : Bytes) :
    scene.present name = scene.locations.foldl (RedisCommand.locates name) false := by
  have same (commands : List RedisCommand) (present : Bool) :
      commands.foldl (RedisCommand.locates name) present =
        (commands.filter RedisCommand.isLocation).foldl (RedisCommand.locates name) present := by
    induction commands generalizing present with
    | nil => rfl
    | cons head tail ih =>
        cases head with
        | setLocation other => exact ih _
        | delLocation other => exact ih _
        | rankLevel other level => exact ih present
  exact same scene.redis false

theorem present_after (a b : Scene) (name : Bytes) (commands : List RedisCommand)
    (located : b.locations = a.locations ++ commands) :
    b.present name = commands.foldl (RedisCommand.locates name) (a.present name) := by
  rw [present_locations, present_locations, located, List.foldl_append]

/-- The names that sessions have logged in under, the last login in front. -/
abbrev NamesUsed := List (SessionId × Bytes)

def NamesUsed.record (w : World) (e : Event) (_ : World) (names : NamesUsed) : NamesUsed :=
  (loginName w e).toList ++ names

def InUse (now : World × NamesUsed) (name : Bytes) : Prop :=
  ∃ s, (now.1.routing.sessions s).connection = .connected ∧ (s, name) ∈ now.2

/-- A connected session other than `s` has. -/
def InUseElsewhere (now : World × NamesUsed) (s : SessionId) (name : Bytes) : Prop :=
  ∃ s', s' ≠ s ∧ (now.1.routing.sessions s').connection = .connected ∧ (s', name) ∈ now.2

def PresenceMatches (now : World × NamesUsed) : Prop :=
  ∀ name, now.1.scene.present name = true ↔ InUse now name

/-- A disconnect deletes no key that another session needs, and every key that no other
session needs any more. -/
structure ForgetsItsNames (now : World × NamesUsed) (e : Event) : Prop where
  spares : ∀ s name, e = .disconnect s → forgotten now.1 s = some name →
    ¬ InUseElsewhere now s name
  clears : ∀ s name, e = .disconnect s → (s, name) ∈ now.2 →
    forgotten now.1 s = some name ∨ InUseElsewhere now s name

structure Remembered (now : World × NamesUsed) : Prop where
  inRange : now.1.routing.InRange
  wellFormed : now.1.routing.parties.WellFormed
  redisConnected : now.1.scene.redisConnected = true
  seen : ∀ s name, (s, name) ∈ now.2 → (now.1.routing.sessions s).connection ≠ .fresh
  matching : PresenceMatches now

theorem loginName_some (w : World) (e : Event) (s : SessionId) (name : Bytes)
    (named : loginName w e = some (s, name)) : e = .packet s (.login name) := by
  unfold loginName at named
  split at named
  case h_1 s' username =>
    split at named
    · cases named
    · cases named
      rfl
  case h_2 => cases named

theorem login_connected (w next : World) (e : Event) (s : SessionId) (name : Bytes)
    (named : loginName w e = some (s, name)) (stepped : w.step data e = some next) :
    (w.routing.sessions s).connection = .connected :=
  (step_connected data w next e s stepped).2.2 _ (loginName_some w e s name named)

section Step

variable (now after : World × NamesUsed) (e : Event) (remembered : Remembered now)
  (stepped : Runs.observed (World.step data) NamesUsed.record now e = some after)

include remembered stepped

theorem connection_after (s : SessionId) : (after.1.routing.sessions s).connection =
    (now.1.routing.sessions s).connection.after e s :=
  step_connection data now.1 after.1 e remembered.inRange
    (Runs.observed_some NamesUsed.record now after e stepped).1 s

theorem seen_after (s : SessionId) (name : Bytes) (used : (s, name) ∈ after.2) :
    (after.1.routing.sessions s).connection ≠ .fresh := by
  have before : (now.1.routing.sessions s).connection ≠ .fresh := by
    obtain ⟨moved, names⟩ := Runs.observed_some NamesUsed.record now after e stepped
    rw [names] at used
    rcases List.mem_append.mp used with new | old
    · rw [login_connected data now.1 after.1 e s name (Option.mem_toList.mp new) moved]
      decide
    · exact remembered.seen s name old
  rw [connection_after data now after e remembered stepped s, Connection.after]
  split
  · decide
  · split
    · decide
    · exact before

theorem inUse_stays (stays : ∀ s, e ≠ .disconnect s) (name : Bytes) :
    InUse after name ↔ InUse now name ∨ (loginName now.1 e).map Prod.snd = some name := by
  obtain ⟨moved, names⟩ := Runs.observed_some NamesUsed.record now after e stepped
  have connection := connection_after data now after e remembered stepped
  have fresh (s : SessionId) := (step_connected data now.1 after.1 e s moved).1
  constructor
  · rintro ⟨s, connected, used⟩
    rw [names] at used
    rcases List.mem_append.mp used with new | old
    · right
      rw [Option.mem_toList.mp new]
      rfl
    · left
      refine ⟨s, ?_, old⟩
      rw [connection, Connection.after, if_neg (stays s)] at connected
      split at connected
      case isTrue arrives => exact absurd (fresh s arrives) (remembered.seen s name old)
      case isFalse => exact connected
  · rintro (⟨s, connected, used⟩ | new)
    · refine ⟨s, ?_, ?_⟩
      · rw [connection, Connection.after, if_neg (stays s)]
        split
        · rfl
        · exact connected
      · rw [names]
        exact List.mem_append_right _ used
    · obtain ⟨⟨s, other⟩, named, rfl⟩ := Option.map_eq_some_iff.mp new
      refine ⟨s, ?_, ?_⟩
      · have connected := login_connected data now.1 after.1 e s other named moved
        rw [connection, Connection.after, if_neg (stays s), connected]
        split <;> rfl
      · rw [names, NamesUsed.record, named]
        exact List.mem_append_left _ List.mem_cons_self

theorem inUse_left (s : SessionId) (event : e = .disconnect s) (name : Bytes) :
    InUse after name ↔ InUseElsewhere now s name := by
  have names := (Runs.observed_some NamesUsed.record now after e stepped).2
  have connection := connection_after data now after e remembered stepped
  subst event
  have same : after.2 = now.2 := names
  constructor
  · rintro ⟨s', connected, used⟩
    rw [connection, Connection.after, if_neg (by simp)] at connected
    split at connected
    case isTrue => cases connected
    case isFalse other =>
      refine ⟨s', ?_, connected, same ▸ used⟩
      rintro rfl
      exact other rfl
  · rintro ⟨s', other, connected, used⟩
    refine ⟨s', ?_, same ▸ used⟩
    rw [connection, Connection.after, if_neg (by simp), if_neg (by simpa using Ne.symm other)]
    exact connected

theorem present_step (name : Bytes) : after.1.scene.present name =
    (locating now.1 e).foldl (RedisCommand.locates name) (now.1.scene.present name) := by
  apply present_after
  exact (step_locations data now.1 after.1 e remembered.inRange remembered.wellFormed
    remembered.redisConnected (Runs.observed_some NamesUsed.record now after e stepped).1).2

theorem matching_stays (stays : ∀ s, e ≠ .disconnect s) : PresenceMatches after := by
  intro name
  rw [present_step data now after e remembered stepped name,
    inUse_stays data now after e remembered stepped stays name, ← remembered.matching name]
  have located : locating now.1 e =
      ((loginName now.1 e).map Prod.snd).toList.map .setLocation := by
    cases e with
    | packet s pkt => rfl
    | disconnect s => exact absurd rfl (stays s)
    | _ => rfl
  rw [located]
  cases (loginName now.1 e).map Prod.snd with
  | none => simp
  | some other => simp [RedisCommand.locates]

theorem matching_left_iff (s : SessionId) (event : e = .disconnect s) :
    PresenceMatches after ↔ ForgetsItsNames now e := by
  have located : locating now.1 e = (forgotten now.1 s).toList.map .delLocation := by
    rw [event]
    rfl
  have present (name : Bytes) : after.1.scene.present name = true ↔
      InUse now name ∧ forgotten now.1 s ≠ some name := by
    rw [present_step data now after e remembered stepped name, located, ← remembered.matching name]
    cases forgotten now.1 s with
    | none => simp
    | some other => simp [RedisCommand.locates]
  have elsewhere (name : Bytes) (used : InUse now name) :
      InUseElsewhere now s name ∨ (s, name) ∈ now.2 := by
    obtain ⟨s', connected, named⟩ := used
    by_cases same : s' = s
    · exact .inr (same ▸ named)
    · exact .inl ⟨s', same, connected, named⟩
  have here := (step_connected data now.1 after.1 e s
    (Runs.observed_some NamesUsed.record now after e stepped).1).2.1 event
  constructor
  · intro matching
    constructor
    · rintro s' name event' deleted used
      rw [event] at event'
      cases event'
      have needed := (inUse_left data now after e remembered stepped s event name).mpr used
      exact ((present name).mp ((matching name).mpr needed)).2 deleted
    · rintro s' name event' named
      rw [event] at event'
      cases event'
      by_cases deleted : forgotten now.1 s = some name
      · exact .inl deleted
      · right
        have left := (matching name).mp ((present name).mpr ⟨⟨s, here, named⟩, deleted⟩)
        exact (inUse_left data now after e remembered stepped s event name).mp left
  · intro forgets name
    rw [present, inUse_left data now after e remembered stepped s event name]
    constructor
    · rintro ⟨used, kept⟩
      rcases elsewhere name used with other | own
      · exact other
      · exact (forgets.clears s name event own).resolve_left kept
    · intro used
      refine ⟨?_, fun deleted => forgets.spares s name event deleted used⟩
      obtain ⟨s', -, connected, named⟩ := used
      exact ⟨s', connected, named⟩

theorem matching_iff : PresenceMatches after ↔ ForgetsItsNames now e := by
  by_cases left : ∃ s, e = .disconnect s
  · obtain ⟨s, event⟩ := left
    exact matching_left_iff data now after e remembered stepped s event
  · have stays (s : SessionId) : e ≠ .disconnect s := fun event => left ⟨s, event⟩
    constructor
    · intro _
      exact ⟨fun s _ event => absurd event (stays s), fun s _ event => absurd event (stays s)⟩
    · exact fun _ => matching_stays data now after e remembered stepped stays

theorem remembered_after (forgets : ForgetsItsNames now e) : Remembered after := by
  obtain ⟨moved, -⟩ := Runs.observed_some NamesUsed.record now after e stepped
  exact ⟨step_inRange data now.1 after.1 e remembered.inRange moved,
    step_wellFormedParties data now.1 after.1 e remembered.inRange remembered.wellFormed moved,
    (step_locations data now.1 after.1 e remembered.inRange remembered.wellFormed
      remembered.redisConnected moved).1,
    seen_after data now after e remembered stepped,
    (matching_iff data now after e remembered stepped).mpr forgets⟩

end Step

theorem init_scene_present (store : Store) (redisConnected : Bool) (rand : List Nat) (name : Bytes) :
    (World.init data store redisConnected rand).scene.present name = false ∧
      (World.init data store redisConnected rand).scene.redisConnected = redisConnected := by
  have opened (w : World) (channel : Int) (roomId : RoomName) :
      w.scene.Tells [] (w.openTown data channel roomId).scene :=
    (Scene.Tells.spawning _ _).initFromConfig data roomId w.scene w.idGen
  have told : (World.empty data store redisConnected rand).scene.Tells []
      (World.init data store redisConnected rand).scene := by
    unfold World.init
    dsimp only
    split
    · exact (opened _ 1 .town1).after (opened _ 2 .town2)
    · exact .refl _
  constructor
  · rw [present_locations, told.locations]
    rfl
  · rw [told.redisConnected]
    rfl

theorem init_remembered (store : Store) (rand : List Nat) :
    Remembered (World.init data store true rand, []) := by
  have blank := init_blank data store true rand
  constructor
  · exact blank.inRange
  · dsimp only
    rw [blank.parties]
    exact PartyManager.WellFormed.initial
  · exact (init_scene_present data store true rand []).2
  · intro s name used
    cases used
  · intro name
    constructor
    · intro present
      rw [(init_scene_present data store true rand name).1] at present
      cases present
    · rintro ⟨s, -, used⟩
      cases used

/-- With Redis there all the time, the keys are those of the names in use in every state of a
run if and only if every disconnect deletes the right ones. -/
theorem presence_iff (store : Store) (rand : List Nat) (events : List Event) :
    Runs.EveryState (Runs.observed (World.step data) NamesUsed.record) PresenceMatches
        (World.init data store true rand, []) events ↔
      Runs.EachStep (Runs.observed (World.step data) NamesUsed.record) ForgetsItsNames
        (World.init data store true rand, []) events := by
  apply Runs.everyState_iff (fun _ _ => True) ForgetsItsNames Remembered PresenceMatches
  · exact fun now remembered => remembered.matching
  · intro now e after remembered _ stepped forgets
    exact remembered_after data now after e remembered stepped forgets
  · intro now e after remembered _ stepped matching
    exact (matching_iff data now after e remembered stepped).mp matching
  · exact init_remembered data store rand
  · exact Runs.eachStep_true _ events

/-- The session is gone before the town's first `Update`: no player is alive to name the
key to delete. -/
def hastyVisit : List Event := [.connect 1, .packet 1 (.login [97]), .disconnect 1]

theorem hasty_visit_leaves_key :
    ¬ Runs.EveryState (Runs.observed (World.step smallGame) NamesUsed.record) PresenceMatches
      (World.init smallGame newStore true [], []) hastyVisit := by
  have run : (Runs.run (Runs.observed (World.step smallGame) NamesUsed.record)
      (World.init smallGame newStore true [], []) hastyVisit).any (fun now =>
        now.1.scene.present [97] ∧ now.2 = [(1, [97])] ∧
          (now.1.routing.sessions 1).connection = .disconnected) = true := by decide +kernel
  obtain ⟨now, ended, checked⟩ := Option.any_eq_true _ _ |>.mp run
  obtain ⟨present, names, gone⟩ := of_decide_eq_true checked
  intro every
  have matching := Runs.everyState_final PresenceMatches _ now hastyVisit every ended
  obtain ⟨s, connected, used⟩ := (matching [97]).mp present
  rw [names, List.mem_singleton] at used
  cases used
  rw [gone] at connected
  cases connected

end ZeldaServer
