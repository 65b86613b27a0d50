import ZeldaServer.World.Numbers

/-! How fast a player walks. A move is refused while the player is in state `MOVE`, which
`StartMove` sets for 75 ms; a turn and an entrance end that state at once. -/

namespace ZeldaServer

open Chains (Chain)

variable (data : GameData)

/-- The duration that `Handle_C_Move` gives `StartMove`. -/
def kMoveDurationMs : Nat := 75

/-- `Handle_C_Move` runs, and the player stands on another cell after it. -/
def World.walks (w : World) (e : Event) (next : World) (id : ObjectId) : Bool :=
  match e, w.routing.nextJob with
  | .job _, some (_, .move _ _, _) =>
      (next.scene.players id).info.cellPos ≠ (w.scene.players id).info.cellPos
  | _, _ => false

/-- When each player changed its position by a move, the last time in front. -/
def recordWalks (w : World) (e : Event) (next : World) (times : ObjectId → List Nat) :
    ObjectId → List Nat :=
  fun id => if w.walks e next id then next.scene.now :: times id else times id

def SpeedLimit (times : ObjectId → List Nat) : Prop :=
  ∀ id, (times id).Pairwise fun newer older => older + kMoveDurationMs ≤ newer

def TurnsAtRest (w : World) (e : Event) : Prop :=
  ∀ rand r job rest, e = .job rand → w.routing.nextJob = some (r, job, rest) →
    match job with
    | .turn s pkt => ∀ id,
        lockPlayer (w.forJob r rest rand).routing (w.forJob r rest rand).scene [] s = some id →
          (w.scene.players id).info.state = .move →
            pkt.dir.isValid = true → (w.scene.players id).info.dir = pkt.dir
    | .enterRoom _ id => (w.scene.players id).info.state ≠ .move
    | _ => True

/-- The recorded moves of a player that moves are over when its move is, those of a player
at rest are over now. -/
structure Paced (players : ObjectId → Player) (now : Nat) (times : ObjectId → List Nat) : Prop where
  moving : ∀ id, (players id).info.state = .move →
    ∀ time ∈ times id, time + kMoveDurationMs ≤ (players id).moveEndTick
  resting : ∀ id, (players id).info.state ≠ .move →
    ∀ time ∈ times id, time + kMoveDurationMs ≤ now

namespace Paced

variable {players : ObjectId → Player} {now : Nat} {times : ObjectId → List Nat}

theorem later {now' : Nat} (paced : Paced players now times) (goes : now ≤ now') :
    Paced players now' times :=
  ⟨paced.moving, fun id rests time member => Nat.le_trans (paced.resting id rests time member) goes⟩

theorem of_gait {players' : ObjectId → Player} (paced : Paced players now times)
    (gait : ∀ id, (players' id).gait = (players id).gait) : Paced players' now times := by
  have state (id : ObjectId) : (players' id).info.state = (players id).info.state :=
    congrArg (fun gait => gait.2.2.1) (gait id)
  have moveEndTick (id : ObjectId) : (players' id).moveEndTick = (players id).moveEndTick :=
    congrArg (fun gait => gait.2.2.2) (gait id)
  constructor
  · intro id moves time member
    rw [moveEndTick]
    exact paced.moving id (state id ▸ moves) time member
  · intro id rests time member
    exact paced.resting id (state id ▸ rests) time member

theorem rest (paced : Paced players now times) (id : ObjectId) (p : Player)
    (rests : p.info.state ≠ .move) (past : ∀ time ∈ times id, time + kMoveDurationMs ≤ now) :
    Paced (Function.update players id p) now times := by
  constructor
  · intro other moves time member
    by_cases same : other = id
    · subst same
      rw [Function.update_self] at moves
      exact absurd moves rests
    · rw [Function.update_of_ne same] at moves ⊢
      exact paced.moving other moves time member
  · intro other still time member
    by_cases same : other = id
    · subst same
      exact past time member
    · rw [Function.update_of_ne same] at still
      exact paced.resting other still time member

theorem born (paced : Paced players now times) (id : ObjectId) (p : Player)
    (unmoved : times id = []) : Paced (Function.update players id p) now times := by
  constructor
  · intro other moves time member
    by_cases same : other = id
    · subst same
      rw [unmoved] at member
      cases member
    · rw [Function.update_of_ne same] at moves ⊢
      exact paced.moving other moves time member
  · intro other still time member
    by_cases same : other = id
    · subst same
      rw [unmoved] at member
      cases member
    · rw [Function.update_of_ne same] at still
      exact paced.resting other still time member

theorem tick (paced : Paced players now times) (id : ObjectId) :
    Paced (Function.update players id (Player.update now (players id)).1) now times := by
  unfold Player.update
  split
  case isTrue ends =>
    apply paced.rest
    · simp
    · intro time member
      exact Nat.le_trans (paced.moving id ends.1 time member) ends.2.2
  case isFalse =>
    rw [Function.update_eq_self]
    exact paced

theorem walk (paced : Paced players now times) (id : ObjectId) (pos : Vec2Int)
    (rests : (players id).info.state ≠ .move) (times' : ObjectId → List Nat)
    (recorded : times' id = now :: times id ∨ times' id = times id)
    (others : ∀ other, other ≠ id → times' other = times other) :
    Paced (Function.update players id ((players id).walking now pos)) now times' := by
  constructor
  · intro other moves time member
    by_cases same : other = id
    · subst same
      rw [Function.update_self]
      change time + kMoveDurationMs ≤ now + 75
      have before : ∀ time ∈ times other, time + kMoveDurationMs ≤ now + 75 := fun time old =>
        Nat.le_trans (paced.resting other rests time old) (Nat.le_add_right now 75)
      rcases recorded with one | none
      · rw [one] at member
        rcases List.mem_cons.mp member with rfl | old
        · exact Nat.le_refl _
        · exact before time old
      · rw [none] at member
        exact before time member
    · rw [Function.update_of_ne same] at moves ⊢
      rw [others other same] at member
      exact paced.moving other moves time member
  · intro other still time member
    by_cases same : other = id
    · subst same
      rw [Function.update_self] at still
      exact absurd rfl still
    · rw [Function.update_of_ne same] at still
      rw [others other same] at member
      exact paced.resting other still time member

theorem deeds {routing : Routing} {r : RoomRef} {a b : Scene} {removed : List Monster}
    (paced : Paced a.players a.now times) (chain : a.Deeds routing r removed b) :
    Paced b.players b.now times := by
  apply chain.keeps (fun scene => Paced scene.players scene.now times) _ paced
  intro scene labels scene' now change
  cases change with
  | quiet b same =>
      rw [same.players, same.now]
      exact now
  | player id p gait =>
      apply now.of_gait
      intro other
      by_cases same : other = id
      · subst same
        simpa [Scene.setPlayer] using gait
      · simp [Scene.setPlayer, same]
  | tick id => exact now.tick id
  | monster m m' member tag cell => exact now
  | removed m member => exact now
  | arrows projectiles known => exact now

end Paced

structure World.Paced (w : World) (times : ObjectId → List Nat) : Prop extends
    w.Orderly where
  paced : ZeldaServer.Paced w.scene.players w.scene.now times
  limit : SpeedLimit times
  unborn : ∀ id, w.idGen ≤ id → times id = []

theorem afterStep_players (w : World) (r : RoomRef) (rand : List Nat) :
    ∃ removed scene, { w.scene with rand }.Deeds w.routing r removed scene ∧
      (w.afterStep data r rand).1.players = scene.players ∧
      (w.afterStep data r rand).1.now = scene.now := by
  obtain ⟨removed, chain⟩ := Scene.Deeds.stepObjects data w.routing r { w.scene with rand }
  obtain ⟨born, births, -⟩ := spawnTick_births data w.routing r
    (stepObjects data w.routing r { w.scene with rand }) w.idGen
  obtain ⟨now, players, -⟩ := births_keep data w.routing r births
  obtain ⟨now', players', -⟩ := drained_keeps r (stepObjects data w.routing r { w.scene with rand })
  exact ⟨removed, _, chain, players.trans players', now.trans now'⟩

theorem walks_job (w next : World) (rand : List Nat) (r : RoomRef) (job : Job) (rest : List Job)
    (front : w.routing.nextJob = some (r, job, rest)) (other : ∀ s pkt, job ≠ .move s pkt)
    (id : ObjectId) : w.walks (.job rand) next id = false := by
  cases job with
  | move s pkt => exact absurd rfl (other s pkt)
  | _ => simp only [World.walks, front]

theorem walks_target (w next : World) (e : Event) (id : ObjectId)
    (stepped : w.step data e = some next) (walked : w.walks e next id = true) :
    ∃ rand r s pkt rest pos, e = .job rand ∧ w.routing.nextJob = some (r, .move s pkt, rest) ∧
      next = (w.forJob r rest rand).onScene
        (handleCMove (w.forJob r rest rand).routing r s pkt) ∧
      moveTarget (w.forJob r rest rand).routing r s pkt (w.forJob r rest rand).scene =
        some (id, pos) := by
  unfold World.walks at walked
  split at walked
  case h_1 rand r s pkt rest front =>
    obtain ⟨acted, -⟩ := step_act data w next _ stepped
    obtain ⟨r', job', rest', front', result⟩ := runNextJob_some data w next rand acted
    rw [front] at front'
    cases front'
    have changed := of_decide_eq_true walked
    rw [result] at changed
    rcases handleCMove_cells (w.forJob r rest rand).routing r s pkt (w.forJob r rest rand).scene id
      with same | ⟨pos, target⟩
    · exact absurd same changed
    · exact ⟨rand, r, s, pkt, rest, pos, rfl, front, result, target⟩
  case h_2 => cases walked

theorem recordWalks_other (w next : World) (e : Event) (times : ObjectId → List Nat) (id : ObjectId)
    (stands : w.walks e next id = false) : recordWalks w e next times id = times id := by
  simp only [recordWalks, stands, Bool.false_eq_true, if_false]

theorem told_paced {a b : Scene} {times : ObjectId → List Nat} (quiet : a.Quiet b)
    (paced : Paced a.players a.now times) : Paced b.players b.now times := by
  rw [quiet.players, quiet.now]
  exact paced

theorem moved_paced (w : World) (rand : List Nat) (r : RoomRef) (s : SessionId) (pkt : CMove)
    (rest : List Job) (times : ObjectId → List Nat)
    (front : w.routing.nextJob = some (r, .move s pkt, rest))
    (paced : Paced w.scene.players w.scene.now times) (next : World)
    (result : next = (w.forJob r rest rand).onScene
      (handleCMove (w.forJob r rest rand).routing r s pkt)) :
    Paced next.scene.players next.scene.now (recordWalks w (.job rand) next times) := by
  have start : Paced (w.forJob r rest rand).scene.players (w.forJob r rest rand).scene.now times :=
    paced
  have stands (id : ObjectId) (same : (next.scene.players id).info.cellPos =
      (w.scene.players id).info.cellPos) : recordWalks w (.job rand) next times id = times id := by
    apply recordWalks_other
    simp only [World.walks, front, same, ne_eq, not_true_eq_false, decide_false]
  have scene : next.scene = handleCMove (w.forJob r rest rand).routing r s pkt
      (w.forJob r rest rand).scene := by rw [result]; rfl
  cases moves : moveTarget (w.forJob r rest rand).routing r s pkt (w.forJob r rest rand).scene with
  | some target =>
      obtain ⟨id, pos⟩ := target
      have quiet := handleCMove_moves _ r s pkt _ id pos moves
      have rests := (moveTarget_some _ r s pkt _ id pos moves).2.1
      rw [← scene] at quiet
      apply told_paced quiet
      apply start.walk id pos rests
      · unfold recordWalks
        split
        · exact .inl (congrArg (· :: times id) quiet.now)
        · exact .inr rfl
      · intro other apart
        apply stands
        rw [quiet.players]
        exact congrArg (fun p : Player => p.info.cellPos) (Function.update_of_ne apart _ _)
  | none =>
      have nobody : recordWalks w (.job rand) next times = times := by
        funext id
        apply stands
        rw [scene]
        rcases handleCMove_cells (w.forJob r rest rand).routing r s pkt
          (w.forJob r rest rand).scene id with same | ⟨pos, target⟩
        · exact same
        · rw [moves] at target
          cases target
      rw [nobody]
      rcases handleCMove_stays _ r s pkt _ moves with quiet | ⟨id, dir, -, rests, quiet⟩
      · rw [← scene] at quiet
        exact told_paced quiet start
      · rw [← scene] at quiet
        exact told_paced quiet
          (start.rest id _ (by simp [Player.halted]) (start.resting id rests))

theorem ran_paced (w : World) (rand : List Nat) (r : RoomRef) (job : Job) (rest : List Job)
    (times : ObjectId → List Nat) (orderly : w.Orderly)
    (paced : Paced w.scene.players w.scene.now times)
    (front : w.routing.nextJob = some (r, job, rest)) (calm : TurnsAtRest w (.job rand)) :
    Paced (runJob data (w.forJob r rest rand) r job).scene.players
      (runJob data (w.forJob r rest rand) r job).scene.now
      (recordWalks w (.job rand) (runJob data (w.forJob r rest rand) r job) times) := by
  have start : Paced (w.forJob r rest rand).scene.players (w.forJob r rest rand).scene.now times :=
    paced
  have same (next : World) (other : ∀ s pkt, job ≠ .move s pkt) :
      recordWalks w (.job rand) next times = times := by
    funext id
    exact recordWalks_other w next _ times id (walks_job w next rand r job rest front other id)
  have conduct := calm rand r job rest rfl front
  have before : (w.forJob r rest rand).Numbered :=
    orderly.numbered.of_fields rfl (fun _ => rfl) (fun _ => rfl)
  have did := runJob_did data (w.forJob r rest rand) r job (before.distinct r)
  generalize runJob data (w.forJob r rest rand) r job = v at did
  cases did with
  | deeds job removed stays chain idGen =>
      rw [same v (by rintro s pkt rfl; cases stays)]
      exact start.deeds chain
  | moved s pkt result => exact moved_paced w rand r s pkt rest times front paced v result
  | turned s pkt result =>
      subst result
      rw [same _ (by simp)]
      rcases handleCTurn_cases _ r s pkt _ with quiet | ⟨id, locked, valid, other, quiet⟩
      · exact told_paced quiet start
      · refine told_paced quiet (start.rest id _ (by simp [Player.halted]) (start.resting id ?_))
        intro moves
        exact other (conduct id locked moves valid)
  | shot s pkt attacker arrow scene locked named owner quiet result =>
      subst result
      rw [same _ (by simp)]
      have told := told_paced quiet start
      exact told_paced (Scene.Quiet.broadcast (w.forJob r rest rand).routing r _
        (scene.setField r _)) told
  | opened s pkt quiet idGen roomCount =>
      rw [same _ (by simp)]
      apply told_paced quiet
      obtain ⟨born, births, -⟩ := initFromConfig_births data
        (w.forJob r rest rand).routing.openDungeon (w.forJob r rest rand).routing.roomCount
        .dungeonForest ((w.forJob r rest rand).scene.setField
          (w.forJob r rest rand).routing.roomCount .empty) (w.forJob r rest rand).idGen
      obtain ⟨now, players, -⟩ := births_keep data _ _ births
      unfold World.createDungeonInstance
      dsimp only
      rw [now, players]
      exact start
  | entered s id result =>
      subst result
      rw [same _ (by simp)]
      apply told_paced (enterRoom_quiet _ r s id)
      exact start.rest id _ (by simp [Player.atEntrance]) (start.resting id conduct)

theorem step_paced (w next : World) (e : Event) (times : ObjectId → List Nat)
    (paced : w.Paced times) (calm : TurnsAtRest w e) (stepped : w.step data e = some next) :
    next.Paced (recordWalks w e next times) := by
  have jobless (other : ∀ rand, e ≠ .job rand) : recordWalks w e next times = times := by
    funext id
    apply recordWalks_other
    unfold World.walks
    split
    · exact absurd rfl (other _)
    · rfl
  refine ⟨step_orderly data w next e paced.toOrderly stepped, ?_, ?_, ?_⟩
  · cases step_acted data w next e stepped with
    | still e other stepless same =>
        rw [jobless other, same.players]
        exact paced.paced.later same.now
    | login s username player named players fields now standing idGen =>
        rw [jobless (by simp), players, now]
        exact paced.paced.born w.idGen player (paced.unborn w.idGen (Nat.le_refl _))
    | ran rand r job rest front result =>
        subst result
        exact ran_paced data w rand r job rest times paced.toOrderly paced.paced front calm
    | stepped rand pass r steps under_way current scene idGen rooms logins =>
        obtain ⟨removed, after, chain, players, now⟩ := afterStep_players data w r rand
        rw [jobless (by simp), scene, players, now]
        exact Paced.deeds (a := { w.scene with rand }) paced.paced chain
  · intro id
    unfold recordWalks
    split
    case isFalse => exact paced.limit id
    case isTrue walked =>
      obtain ⟨rand, r, s, pkt, rest, pos, rfl, front, rfl, target⟩ :=
        walks_target data w next e id stepped walked
      have quiet := handleCMove_moves _ r s pkt _ id pos target
      have rests := (moveTarget_some _ r s pkt _ id pos target).2.1
      rw [List.pairwise_cons]
      refine ⟨fun time member => ?_, paced.limit id⟩
      exact (paced.paced.resting id rests time member).trans (Nat.le_of_eq quiet.now.symm)
  · intro id above
    have before : w.idGen ≤ id := Nat.le_trans (step_idGen data w next e stepped) above
    unfold recordWalks
    split
    case isFalse => exact paced.unborn id before
    case isTrue walked =>
      obtain ⟨rand, r, s, pkt, rest, pos, rfl, front, -, target⟩ :=
        walks_target data w next e id stepped walked
      have known := forJob_known w r _ rest rand paced.toKnown front
      have locked := (moveTarget_some _ r s pkt _ id pos target).1
      obtain ⟨l, member, rfl⟩ :=
        known.placed id (placed_of_alive _ _ _ (lockPlayer_some _ _ _ _ _ locked).2)
      exact absurd (known.fresh l member) (Nat.not_lt_of_le before)

/-- In every run in which nobody turns or enters a room while its move goes on, any two
moves of a player are at least 75 ms apart. -/
theorem speed_limit_kept (store : Store) (redisConnected : Bool) (rand : List Nat)
    (events : List Event)
    (each : Runs.EachStep (Runs.observed (World.step data) recordWalks)
      (fun now e => TurnsAtRest now.1 e)
      (World.init data store redisConnected rand, fun _ => []) events) :
    Runs.EveryState (Runs.observed (World.step data) recordWalks) (fun now => SpeedLimit now.2)
      (World.init data store redisConnected rand, fun _ => []) events := by
  apply Runs.everyState_invariant (fun now e => TurnsAtRest now.1 e)
    (fun now : World × (ObjectId → List Nat) => now.1.Paced now.2) _ _ _ _ events _ each
  · exact fun now paced => paced.limit
  · intro now e after paced calm stepped
    obtain ⟨moved, result⟩ := Runs.observed_some recordWalks now after e stepped
    rw [result]
    exact step_paced data now.1 after.1 e now.2 paced calm moved
  · refine ⟨init_orderly data store redisConnected rand, ⟨?_, ?_⟩, fun _ => .nil, fun _ _ => rfl⟩
    · exact fun id moves time member => absurd member List.not_mem_nil
    · exact fun id rests time member => absurd member List.not_mem_nil

/-- `TurnsAtRest`, computed. -/
def turnsAtRest (now : World × (ObjectId → List Nat)) : Event → Bool
  | .job rand =>
      match now.1.routing.nextJob with
      | some (r, .turn s _, rest) =>
          let w := now.1.forJob r rest rand
          (lockPlayer w.routing w.scene [] s).all fun id =>
            (now.1.scene.players id).info.state ≠ .move
      | some (_, .enterRoom _ id, _) => (now.1.scene.players id).info.state ≠ .move
      | _ => true
  | _ => true

theorem turnsAtRest_sound (now : World × (ObjectId → List Nat)) (e : Event)
    (checked : turnsAtRest now e = true) : TurnsAtRest now.1 e := by
  rintro rand r job rest rfl front
  simp only [turnsAtRest, front] at checked
  cases job with
  | turn s pkt =>
      intro id locked moves
      simp only [locked, Option.all_some, decide_eq_true_eq] at checked
      exact absurd moves checked
  | enterRoom s id => exact of_decide_eq_true checked
  | _ => trivial

/-- A room is visited, and takes two steps. -/
def twoSteps : List Event := [.visitStatic, .endJobs, .step [], .step [], .endRoom]

/-- A player turns left and walks, waits for the end of its move, and walks again. -/
def walkTwice : List Event :=
  [Event.connect 1, .packet 1 (.login [97])] ++ updateTown 1 ++
    [Event.packet 1 (.move ⟨Dir.left⟩), .packet 1 (.move ⟨Dir.left⟩)] ++ updateTown 2 ++
    [Event.clock 100, .update] ++ twoSteps ++ twoSteps ++
    [Event.loopDungeons, .endUpdate, .packet 1 (.move ⟨Dir.left⟩)] ++ updateTown 1

set_option maxRecDepth 20000 in
theorem walk_twice_paced :
    (Runs.run (Runs.observed (World.step smallGame) recordWalks)
        (World.init smallGame newStore false [], fun _ => []) walkTwice).any (fun now =>
          now.2 1 = [100, 0]) = true ∧
      Runs.EveryState (Runs.observed (World.step smallGame) recordWalks)
        (fun now => SpeedLimit now.2)
        (World.init smallGame newStore false [], fun _ => []) walkTwice := by
  refine ⟨by decide +kernel, ?_⟩
  apply speed_limit_kept
  exact Runs.eachStep_of_check turnsAtRest _ turnsAtRest_sound _ _ (by decide +kernel)

/-- A player walks, turns away and back, and walks on at once. -/
def turnsWhileMoving : List Event :=
  [Event.connect 1, .packet 1 (.login [97])] ++ updateTown 1 ++
    [Event.packet 1 (.move ⟨Dir.left⟩), .packet 1 (.move ⟨Dir.left⟩), .packet 1 (.turn ⟨Dir.up⟩),
      .packet 1 (.turn ⟨Dir.left⟩), .packet 1 (.move ⟨Dir.left⟩)] ++ updateTown 5

set_option maxRecDepth 20000 in
theorem turns_while_moving_too_fast :
    ¬ Runs.EveryState (Runs.observed (World.step smallGame) recordWalks)
      (fun now => SpeedLimit now.2)
      (World.init smallGame newStore false [], fun _ => []) turnsWhileMoving := by
  intro every
  have run : (Runs.run (Runs.observed (World.step smallGame) recordWalks)
      (World.init smallGame newStore false [], fun _ => []) turnsWhileMoving).any (fun now =>
        now.2 1 = [0, 0]) = true := by decide +kernel
  obtain ⟨now, reached, checked⟩ := Option.any_eq_true _ _ |>.mp run
  have limit := Runs.everyState_final _ _ now turnsWhileMoving every reached 1
  rw [of_decide_eq_true checked] at limit
  exact absurd limit (by decide)

end ZeldaServer
