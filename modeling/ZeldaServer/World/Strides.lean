import ZeldaServer.World.Pace
import ZeldaServer.World.Rosters
import ZeldaServer.World.Updates

/-! A player that moves comes to rest: its move has an end, a step of its room after that ends
it, and then it may move again. -/

namespace ZeldaServer

open Chains (Chain)

variable (data : GameData)

structure Striding (p : Player) (times : List Nat) : Prop where
  unskilled : p.info.state ≠ .skill
  ends : p.info.state = .move →
    p.moveEndTick ≠ 0 ∧ ∃ last ∈ times.head?, p.moveEndTick ≤ last + kMoveDurationMs

namespace Striding

variable {p p' : Player} {times : List Nat}

theorem idle (still : p.info.state = .idle) : Striding p times where
  unskilled := by simp [still]
  ends := fun moves => by
    rw [still] at moves
    cases moves

theorem of_gait (striding : Striding p times) (gait : p'.gait = p.gait) : Striding p' times := by
  have state : p'.info.state = p.info.state := congrArg (fun gait => gait.2.2.1) gait
  have moveEndTick : p'.moveEndTick = p.moveEndTick := congrArg (fun gait => gait.2.2.2) gait
  constructor
  · rw [state]
    exact striding.unskilled
  · rw [state, moveEndTick]
    exact striding.ends

theorem tick (striding : Striding p times) (now : Nat) :
    Striding (Player.update now p).1 times := by
  unfold Player.update
  split
  · exact .idle rfl
  · exact striding

theorem walk (p : Player) (now : Nat) (pos : Vec2Int) (times : List Nat) :
    Striding (p.walking now pos) (now :: times) where
  unskilled := nofun
  ends := fun _ => ⟨Nat.succ_ne_zero _, now, rfl, Nat.le_refl _⟩

end Striding

def AllStriding (players : ObjectId → Player) (times : ObjectId → List Nat) : Prop :=
  ∀ id, Striding (players id) (times id)

namespace AllStriding

variable {players : ObjectId → Player} {times times' : ObjectId → List Nat}

theorem put (all : AllStriding players times) (id : ObjectId) (p : Player)
    (own : Striding p (times' id)) (others : ∀ other, other ≠ id → times' other = times other) :
    AllStriding (Function.update players id p) times' := by
  intro other
  by_cases same : other = id
  · subst same
    rwa [Function.update_self]
  · rw [Function.update_of_ne same, others other same]
    exact all other

theorem deeds {routing : Routing} {r : RoomRef} {a b : Scene} {removed : List Monster}
    (all : AllStriding a.players times) (chain : a.Deeds routing r removed b) :
    AllStriding b.players times := by
  apply chain.keeps (fun scene => AllStriding scene.players times) _ all
  intro scene labels scene' now change
  cases change with
  | quiet b same =>
      rw [same.players]
      exact now
  | player id p gait => exact now.put id p ((now id).of_gait gait) fun _ _ => rfl
  | tick id => exact now.put id _ ((now id).tick scene.now) fun _ _ => rfl
  | monster m m' member tag cell => exact now
  | removed m member => exact now
  | arrows projectiles known => exact now

end AllStriding

theorem frontCellPos_ne (info : ObjectInfo) (valid : info.dir.isValid = true) :
    info.frontCellPos ≠ info.cellPos := by
  have apart (pos step : Vec2Int) (moves : step ≠ ⟨0, 0⟩) : pos + step ≠ pos := by
    intro same
    apply moves
    have x : pos.x + step.x = pos.x := congrArg Vec2Int.x same
    have y : pos.y + step.y = pos.y := congrArg Vec2Int.y same
    have zero : step.x = 0 ∧ step.y = 0 := by omega
    obtain ⟨sx, sy⟩ := step
    rw [Vec2Int.mk.injEq]
    exact zero
  unfold ObjectInfo.frontCellPos
  split
  · exact apart _ _ (by decide)
  · split
    · exact apart _ _ (by decide)
    · split
      · exact apart _ _ (by decide)
      · split
        · exact apart _ _ (by decide)
        · simp_all [Dir.isValid, Dir.up, Dir.down, Dir.left, Dir.right]

theorem moveTarget_ahead (routing : Routing) (r : RoomRef) (s : SessionId) (pkt : CMove)
    (scene : Scene) (id : ObjectId) (pos : Vec2Int)
    (moves : moveTarget routing r s pkt scene = some (id, pos)) :
    pos = (scene.players id).info.frontCellPos ∧ pos ≠ (scene.players id).info.cellPos := by
  unfold moveTarget at moves
  cases locked : lockPlayer routing scene [] s with
  | none => simp [locked] at moves
  | some other =>
      simp only [locked] at moves
      split at moves
      case isTrue going =>
        cases moves
        obtain ⟨-, valid, same, -⟩ := going
        rw [← same] at valid
        exact ⟨rfl, frontCellPos_ne _ valid⟩
      case isFalse => cases moves

theorem recorded_move (w : World) (rand : List Nat) (r : RoomRef) (s : SessionId) (pkt : CMove)
    (rest : List Job) (times : ObjectId → List Nat) (id : ObjectId) (pos : Vec2Int)
    (front : w.routing.nextJob = some (r, .move s pkt, rest)) (next : World)
    (scene : next.scene = handleCMove (w.forJob r rest rand).routing r s pkt
      (w.forJob r rest rand).scene)
    (moves : moveTarget (w.forJob r rest rand).routing r s pkt (w.forJob r rest rand).scene =
      some (id, pos)) :
    recordWalks w (.job rand) next times id = w.scene.now :: times id := by
  have quiet := handleCMove_moves _ r s pkt _ id pos moves
  rw [← scene] at quiet
  have away : (next.scene.players id).info.cellPos ≠ (w.scene.players id).info.cellPos := by
    rw [quiet.players]
    simp only [Scene.setPlayer, Function.update_self]
    exact (moveTarget_ahead _ r s pkt _ id pos moves).2
  have walked : w.walks (.job rand) next id = true := by
    simp only [World.walks, front]
    exact decide_eq_true away
  rw [recordWalks, if_pos walked]
  exact congrArg (· :: times id) quiet.now

theorem moved_striding (w : World) (rand : List Nat) (r : RoomRef) (s : SessionId) (pkt : CMove)
    (rest : List Job) (times : ObjectId → List Nat)
    (front : w.routing.nextJob = some (r, .move s pkt, rest))
    (all : AllStriding w.scene.players times) (next : World)
    (result : next = (w.forJob r rest rand).onScene
      (handleCMove (w.forJob r rest rand).routing r s pkt)) :
    AllStriding next.scene.players (recordWalks w (.job rand) next times) := by
  have stands (id : ObjectId) (same : (next.scene.players id).info.cellPos =
      (w.scene.players id).info.cellPos) : recordWalks w (.job rand) next times id = times id := by
    apply recordWalks_other
    simp only [World.walks, front, same, ne_eq, not_true_eq_false, decide_false]
  have scene : next.scene = handleCMove (w.forJob r rest rand).routing r s pkt
      (w.forJob r rest rand).scene := by rw [result]; rfl
  cases moves : moveTarget (w.forJob r rest rand).routing r s pkt (w.forJob r rest rand).scene with
  | some target =>
      obtain ⟨id, pos⟩ := target
      have quiet := handleCMove_moves _ r s pkt _ id pos moves
      rw [← scene] at quiet
      have recorded := recorded_move w rand r s pkt rest times id pos front next scene moves
      rw [quiet.players]
      apply all.put id
      · rw [recorded]
        exact .walk _ _ pos _
      · intro other apart
        apply stands
        rw [quiet.players]
        exact congrArg (fun p : Player => p.info.cellPos) (Function.update_of_ne apart _ _)
  | none =>
      have nobody : recordWalks w (.job rand) next times = times := by
        funext id
        apply stands
        rw [scene]
        rcases handleCMove_cells (w.forJob r rest rand).routing r s pkt
          (w.forJob r rest rand).scene id with same | ⟨pos, target⟩
        · exact same
        · rw [moves] at target
          cases target
      rw [nobody]
      rcases handleCMove_stays _ r s pkt _ moves with quiet | ⟨id, dir, -, rests, quiet⟩
      · rw [← scene] at quiet
        rw [quiet.players]
        exact all
      · rw [← scene] at quiet
        rw [quiet.players]
        exact all.put id _ (.idle rfl) fun _ _ => rfl

theorem ran_striding (w : World) (rand : List Nat) (r : RoomRef) (job : Job) (rest : List Job)
    (times : ObjectId → List Nat) (orderly : w.Orderly)
    (all : AllStriding w.scene.players times)
    (front : w.routing.nextJob = some (r, job, rest)) :
    AllStriding (runJob data (w.forJob r rest rand) r job).scene.players
      (recordWalks w (.job rand) (runJob data (w.forJob r rest rand) r job) times) := by
  have start : AllStriding (w.forJob r rest rand).scene.players times := all
  have same (next : World) (other : ∀ s pkt, job ≠ .move s pkt) :
      recordWalks w (.job rand) next times = times := by
    funext id
    exact recordWalks_other w next _ times id (walks_job w next rand r job rest front other id)
  have before : (w.forJob r rest rand).Numbered :=
    orderly.numbered.of_fields rfl (fun _ => rfl) (fun _ => rfl)
  have did := runJob_did data (w.forJob r rest rand) r job (before.distinct r)
  generalize runJob data (w.forJob r rest rand) r job = v at did
  cases did with
  | deeds job removed stays chain idGen =>
      rw [same v (by rintro s pkt rfl; cases stays)]
      exact start.deeds chain
  | moved s pkt result => exact moved_striding w rand r s pkt rest times front all v result
  | turned s pkt result =>
      subst result
      rw [same _ (by simp)]
      unfold World.onScene
      rcases handleCTurn_cases (w.forJob r rest rand).routing r s pkt (w.forJob r rest rand).scene
        with quiet | ⟨id, -, -, -, quiet⟩
      · rw [quiet.players]
        exact start
      · rw [quiet.players]
        exact start.put id _ (.idle rfl) fun _ _ => rfl
  | shot s pkt attacker arrow scene locked named owner quiet result =>
      subst result
      rw [same _ (by simp)]
      have told := Scene.Quiet.broadcast (w.forJob r rest rand).routing r
        (.addObject ⟨[arrow.info]⟩) (scene.newArrow r arrow)
      have players := told.players.trans quiet.players
      exact players ▸ start
  | opened s pkt quiet idGen roomCount =>
      rw [same _ (by simp), quiet.players]
      obtain ⟨born, births, -⟩ := initFromConfig_births data
        (w.forJob r rest rand).routing.openDungeon (w.forJob r rest rand).routing.roomCount
        .dungeonForest ((w.forJob r rest rand).scene.setField
          (w.forJob r rest rand).routing.roomCount .empty) (w.forJob r rest rand).idGen
      obtain ⟨-, players, -⟩ := births_keep data _ _ births
      unfold World.createDungeonInstance
      dsimp only
      rw [players]
      exact start
  | entered s id result =>
      subst result
      rw [same _ (by simp), (enterRoom_quiet (w.forJob r rest rand) r s id).players]
      exact start.put id _ (.idle rfl) fun _ _ => rfl

theorem loginPlayer_idle (store : Store) (account : AccountId) (id : ObjectId) (username : Bytes) :
    (loginPlayer data store account id username).1.info.state = .idle := by
  unfold loginPlayer
  cases store.rows account with
  | none => rfl
  | some saved =>
      have kept : (Player.applyFromSaveData data saved (Player.create data id)).info.state =
          (Player.create data id).info.state := by
        unfold Player.applyFromSaveData Player.withExtra
        dsimp only
        apply (congrArg (fun gait => gait.2.2.1) (Player.recalcStats_gait data _)).trans
        dsimp only [Player.gait]
        cases data.levelData saved.level <;> rfl
      exact kept

theorem step_striding (w next : World) (e : Event) (times : ObjectId → List Nat)
    (orderly : w.Orderly) (all : AllStriding w.scene.players times)
    (stepped : w.step data e = some next) :
    AllStriding next.scene.players (recordWalks w e next times) := by
  have jobless (other : ∀ rand, e ≠ .job rand) : recordWalks w e next times = times := by
    funext id
    apply recordWalks_other
    unfold World.walks
    split
    · exact absurd rfl (other _)
    · rfl
  cases step_acted data w next e stepped with
  | still e other stepless same =>
      rw [jobless other, same.players]
      exact all
  | login s username player named players fields now standing idGen =>
      rw [jobless (by simp)]
      have result : next = handleCLogin data w s username := by
        obtain ⟨acted, -⟩ := step_act data w next _ stepped
        simp only [World.act] at acted
        split at acted
        · exact (Option.some.inj acted).symm
        · cases acted
      intro id
      rw [result]
      rcases handleCLogin_players data w s username id with same | ⟨store, account, created⟩
      · rw [same]
        exact all id
      · rw [created]
        exact .idle (loginPlayer_idle data store account w.idGen username)
  | ran rand r job rest front result =>
      subst result
      exact ran_striding data w rand r job rest times orderly all front
  | stepped rand pass r steps under_way current scene idGen rooms logins =>
      obtain ⟨removed, after, chain, players, now⟩ := afterStep_players data w r rand
      rw [jobless (by simp), scene, players]
      exact AllStriding.deeds (a := { w.scene with rand }) all chain

section Sending

variable (routing : Routing) (r : RoomRef)

theorem broadcast_grows (pkt : ServerPacket) (scene : Scene) :
    scene.sent <+: (broadcast routing r pkt scene).sent := by
  rw [broadcast_sent]
  exact List.prefix_append _ _

theorem emit_grows (id : ObjectId) (scene : Scene) (emission : Emission) :
    scene.sent <+: (emit routing id scene emission).sent := by
  cases emission with
  | session pkt =>
      unfold emit sendToPlayer
      dsimp only
      cases routing.playerSession id with
      | none => exact List.prefix_rfl
      | some s => exact List.prefix_append _ _
  | room pkt =>
      unfold emit
      dsimp only
      cases routing.playerRoom id with
      | none => exact List.prefix_rfl
      | some r => exact broadcast_grows routing r pkt scene
  | rank name level =>
      unfold emit
      dsimp only
      rw [redisCommand_sent]

theorem emissions_grow (id : ObjectId) (emissions : List Emission) (scene : Scene) :
    scene.sent <+: (emissions.foldl (emit routing id) scene).sent := by
  induction emissions generalizing scene with
  | nil => exact List.prefix_rfl
  | cons emission emissions ih => exact (emit_grows routing id scene emission).trans (ih _)

theorem actPlayer_grows (id : ObjectId) (method : Player → Player × List Emission)
    (scene : Scene) : scene.sent <+: (actPlayer routing id method scene).sent :=
  emissions_grow routing id _ (scene.setPlayer id _)

theorem beats_grow {a b : Scene × ObjectId} {labels : List (ObjectId × Int)}
    (chain : Scene.Beats data routing r a labels b) : a.1.sent <+: b.1.sent := by
  apply chain.relates (fun a _ b => a.1.sent <+: b.1.sent) (fun _ => List.prefix_rfl)
  intro a middle b first rest now later
  refine List.IsPrefix.trans ?_ later
  cases now with
  | failed fault other => exact List.prefix_rfl
  | drew rand => exact List.prefix_rfl
  | struck attacker pkt => exact broadcast_grows routing r _ _
  | gained id share worth => exact actPlayer_grows routing id _ _
  | looted id itemId => exact actPlayer_grows routing id _ _
  | ticked id member => exact actPlayer_grows routing id _ _
  | hurt attacker id damage aimed => exact broadcast_grows routing r _ (a.1.hurtPlayer id damage)
  | kept m m' member follows looks => exact List.prefix_rfl
  | moved m m' member follows health => exact broadcast_grows routing r _ (a.1.setMonster r m')
  | hit attacker damage m member => exact broadcast_grows routing r _ (a.1.setMonster r _)
  | removed m member => exact broadcast_grows routing r _ (a.1.dropMonster r m)
  | arrowKept arrow arrow' member info => exact List.prefix_rfl
  | arrowMoved arrow arrow' info member named looks health =>
      exact broadcast_grows routing r _ (a.1.setProjectile r arrow')
  | echoed arrow member => exact broadcast_grows routing r _ a.1
  | arrowRemoved arrow member => exact broadcast_grows routing r _ (a.1.dropArrow r _)
  | queued respawnQueue => exact List.prefix_rfl
  | born m named fresh => exact broadcast_grows routing r _ (a.1.newMonster r m)
  | fired arrow named => exact broadcast_grows routing r _ (a.1.newArrow r arrow)

/-- From `a` to `b` the sessions of the player's room are told that it is idle. -/
def ToldIdle (id : ObjectId) (a b : Scene) : Prop :=
  ∀ r', routing.playerRoom id = some r' → ∀ s, routing.Listens r' s →
    ∃ info, info.objectId = (a.players id).info.objectId ∧ info.state = .idle ∧
      (s, ServerPacket.move info) ∈ b.sent.drop a.sent.length

variable {routing}

theorem ToldIdle.within {id : ObjectId} {a a' b b' : Scene} (told : ToldIdle routing id a' b)
    (same : a'.players id = a.players id) (first : a.sent <+: a'.sent) (last : b.sent <+: b'.sent) :
    ToldIdle routing id a b' := by
  intro r' room s listens
  obtain ⟨info, named, idle, heard⟩ := told r' room s listens
  refine ⟨info, by rw [named, same], idle, ?_⟩
  have earlier : b.sent.drop a'.sent.length <:+ b.sent.drop a.sent.length :=
    List.drop_suffix_drop_left b.sent first.length_le
  exact (last.drop a.sent.length).subset (earlier.subset heard)

theorem ticked_told (id : ObjectId) (scene : Scene) (moves : (scene.players id).info.state = .move)
    (ends : (scene.players id).moveEndTick ≠ 0)
    (due : (scene.players id).moveEndTick ≤ scene.now) :
    ToldIdle routing id scene (actPlayer routing id (Player.update scene.now) scene) := by
  intro r' room s listens
  obtain ⟨listener, member, session⟩ := listens
  refine ⟨{ (scene.players id).info with state := .idle }, rfl, rfl, ?_⟩
  unfold actPlayer Player.update
  dsimp only
  rw [if_pos ⟨moves, ends, due⟩, List.foldl_cons, List.foldl_nil, emit, room]
  dsimp only
  rw [broadcast_sent]
  dsimp only [Scene.setPlayer]
  rw [List.drop_left]
  apply List.mem_filterMap.mpr
  exact ⟨listener, member, by rw [session]; rfl⟩

theorem ticked_idle (p : Player) (now : Nat)
    (ready : p.info.state = .idle ∨ p.moveEndTick ≠ 0 ∧ p.info.state = .move ∧ p.moveEndTick ≤ now) :
    (Player.update now p).1.info.state = .idle := by
  unfold Player.update
  split
  case isTrue => rfl
  case isFalse still =>
    rcases ready with idle | ⟨ends, moves, due⟩
    · exact idle
    · exact absurd ⟨moves, ends, due⟩ still

variable (routing)

def ticks (ids : List ObjectId) (scene : Scene) : Scene :=
  ids.foldl (fun scene id => actPlayer routing id (Player.update scene.now) scene) scene

theorem tick_players (id other : ObjectId) (scene : Scene) :
    (actPlayer routing id (Player.update scene.now) scene).players other =
      if other = id then (Player.update scene.now (scene.players id)).1
      else scene.players other := by
  unfold actPlayer
  dsimp only
  rw [(Scene.Quiet.emissions routing id _ _).players]
  by_cases own : other = id
  · rw [if_pos own, own]
    exact Function.update_self _ _ _
  · rw [if_neg own]
    exact Function.update_of_ne own _ _

theorem tick_now (id : ObjectId) (scene : Scene) :
    (actPlayer routing id (Player.update scene.now) scene).now = scene.now :=
  (Scene.Quiet.emissions routing id _ _).now

theorem ticks_keep (id : ObjectId) (ids : List ObjectId) (scene : Scene) :
    (ticks routing ids scene).now = scene.now ∧ scene.sent <+: (ticks routing ids scene).sent ∧
      ((scene.players id).info.state = .idle →
        ((ticks routing ids scene).players id).info.state = .idle) := by
  induction ids generalizing scene with
  | nil => exact ⟨rfl, List.prefix_rfl, fun idle => idle⟩
  | cons head tail ih =>
      obtain ⟨now, sent, kept⟩ := ih (actPlayer routing head (Player.update scene.now) scene)
      refine ⟨now.trans (tick_now routing head scene),
        (actPlayer_grows routing head _ scene).trans sent, fun idle => kept ?_⟩
      rw [tick_players]
      split
      case isTrue own => exact ticked_idle _ _ (.inl (own ▸ idle))
      case isFalse => exact idle

theorem ticks_rest (id : ObjectId) (ids : List ObjectId) (scene : Scene) (member : id ∈ ids)
    (ready : (scene.players id).info.state = .idle ∨ (scene.players id).moveEndTick ≠ 0 ∧
      (scene.players id).info.state = .move ∧ (scene.players id).moveEndTick ≤ scene.now) :
    ((ticks routing ids scene).players id).info.state = .idle ∧
      ((scene.players id).info.state = .move →
        ToldIdle routing id scene (ticks routing ids scene)) := by
  induction ids generalizing scene with
  | nil => cases member
  | cons head tail ih =>
      have players := tick_players routing head id scene
      have grown := actPlayer_grows routing head (Player.update scene.now) scene
      by_cases own : id = head
      · subst own
        rw [if_pos rfl] at players
        obtain ⟨-, sent, kept⟩ :=
          ticks_keep routing id tail (actPlayer routing id (Player.update scene.now) scene)
        refine ⟨kept ?_, fun moves => ?_⟩
        · rw [players]
          exact ticked_idle _ _ ready
        · rcases ready with idle | ⟨ends, -, due⟩
          · rw [idle] at moves
            cases moves
          · exact (ticked_told id scene moves ends due).within rfl List.prefix_rfl sent
      · rw [if_neg own] at players
        have later : id ∈ tail := (List.mem_cons.mp member).resolve_left own
        obtain ⟨idle, told⟩ := ih _ later (by rwa [players, tick_now])
        refine ⟨idle, fun moves => ?_⟩
        exact (told (by rwa [players])).within players grown List.prefix_rfl

end Sending

theorem deeds_idle {routing : Routing} {r : RoomRef} {a b : Scene} {removed : List Monster}
    (id : ObjectId) (idle : (a.players id).info.state = .idle)
    (chain : a.Deeds routing r removed b) : (b.players id).info.state = .idle := by
  apply chain.keeps (fun scene => (scene.players id).info.state = .idle) _ idle
  intro scene labels scene' still change
  cases change with
  | quiet b same => rwa [same.players]
  | player other p gait =>
      by_cases own : id = other
      · subst own
        dsimp only [Scene.setPlayer]
        rw [Function.update_self]
        exact (congrArg (fun gait => gait.2.2.1) gait).trans still
      · exact (congrArg (fun p : Player => p.info.state) (Function.update_of_ne own _ _)).trans still
  | tick other =>
      by_cases own : id = other
      · subst own
        dsimp only [Scene.setPlayer]
        rw [Function.update_self]
        exact ticked_idle _ _ (.inl still)
      · exact (congrArg (fun p : Player => p.info.state) (Function.update_of_ne own _ _)).trans still
  | monster m m' member tag cell => exact still
  | removed m member => exact still
  | arrows projectiles known => exact still

theorem afterStep_rest (w : World) (r : RoomRef) (rand : List Nat) :
    let ready := ticks w.routing (playerIds w.routing r) { w.scene with rand }
    ready.sent <+: (w.afterStep data r rand).1.sent ∧
      ∀ id, (ready.players id).info.state = .idle →
        ((w.afterStep data r rand).1.players id).info.state = .idle := by
  intro ready
  constructor
  · have monsters : Scene.Beats data w.routing r (ready, w.idGen) []
        (stepMonsters w.routing r ready, w.idGen) := by
      apply Scene.Beats.calls
      intro scene id _
      exact Scene.Beats.monsterUpdate data w.routing r scene w.idGen id
    have arrows := Scene.Beats.arrowUpdates data w.routing r
      (((stepMonsters w.routing r ready).fields r).projectiles.map (·.info.objectId))
      (stepMonsters w.routing r ready) w.idGen
    have spawned := Scene.Beats.spawnTick data w.routing r
      (stepArrows data w.routing r (stepMonsters w.routing r ready)) w.idGen
    have last := beats_grow data w.routing r spawned
    exact (beats_grow data w.routing r monsters).trans
      ((beats_grow data w.routing r arrows).trans last)
  · intro id idle
    obtain ⟨removed, flown⟩ := Scene.Deeds.stepArrows data w.routing r
      (stepMonsters w.routing r ready)
    have chased := deeds_idle id idle (Scene.Deeds.stepMonsters w.routing r ready)
    have shot := deeds_idle id chased flown
    obtain ⟨born, births, -⟩ := spawnTick_births data w.routing r
      (stepObjects data w.routing r { w.scene with rand }) w.idGen
    obtain ⟨-, players, -⟩ := births_keep data w.routing r births
    obtain ⟨-, drained, -⟩ := drained_keeps r (stepObjects data w.routing r { w.scene with rand })
    have same : (w.afterStep data r rand).1.players =
        (stepArrows data w.routing r (stepMonsters w.routing r ready)).players :=
      players.trans drained
    rw [same]
    exact shot

theorem afterStep_idle (w : World) (r : RoomRef) (rand : List Nat) (times : ObjectId → List Nat)
    (all : AllStriding w.scene.players times) (id : ObjectId) (member : id ∈ playerIds w.routing r)
    (due : ∀ last ∈ (times id).head?, last + kMoveDurationMs ≤ w.scene.now) :
    ((w.afterStep data r rand).1.players id).info.state = .idle ∧
      ((w.scene.players id).info.state = .move →
        ToldIdle w.routing id w.scene (w.afterStep data r rand).1) := by
  have ready : (w.scene.players id).info.state = .idle ∨ (w.scene.players id).moveEndTick ≠ 0 ∧
      (w.scene.players id).info.state = .move ∧ (w.scene.players id).moveEndTick ≤ w.scene.now := by
    cases state : (w.scene.players id).info.state with
    | idle => exact .inl rfl
    | skill => exact absurd state (all id).unskilled
    | move =>
        obtain ⟨ends, last, newest, soon⟩ := (all id).ends state
        exact .inr ⟨ends, rfl, soon.trans (due last newest)⟩
  obtain ⟨rests, told⟩ := ticks_rest w.routing id _ { w.scene with rand } member ready
  obtain ⟨grown, kept⟩ := afterStep_rest data w r rand
  refine ⟨kept id rests, fun moves => ?_⟩
  exact (told moves).within rfl List.prefix_rfl grown

/-- The step of a room ends the moves that are over, and tells the sessions; a player that does
not move may turn, and go on. -/
structure Unlocks (now : World × (ObjectId → List Nat)) (e : Event) : Prop where
  rests : ∀ rand pass r steps next id, e = .step rand → now.1.routing.pass = some pass →
    pass.current = some ⟨r, some steps⟩ → now.1.step data e = some next →
    id ∈ playerIds now.1.routing r →
    (∀ last ∈ (now.2 id).head?, last + kMoveDurationMs ≤ now.1.scene.now) →
      (next.scene.players id).info.state = .idle ∧
        ((now.1.scene.players id).info.state = .move →
          ToldIdle now.1.routing id now.1.scene next.scene)
  accepts : ∀ rand r s pkt rest next id, e = .job rand →
    now.1.routing.nextJob = some (r, .move s pkt, rest) → now.1.step data e = some next →
    lockPlayer (now.1.forJob r rest rand).routing (now.1.forJob r rest rand).scene [] s = some id →
    (now.1.scene.players id).info.state ≠ .move → pkt.dir.isValid = true →
      ((now.1.scene.players id).info.dir ≠ pkt.dir →
        (next.scene.players id).info.dir = pkt.dir ∧
          (next.scene.players id).info.state = .idle) ∧
      ((now.1.scene.players id).info.dir = pkt.dir →
        canGo (now.1.forJob r rest rand).routing (now.1.forJob r rest rand).scene r
            (now.1.scene.players id).info.frontCellPos = true →
          next.scene.players id = (now.1.scene.players id).walking now.1.scene.now
            (now.1.scene.players id).info.frontCellPos ∧
          recordWalks now.1 e next now.2 id = now.1.scene.now :: now.2 id)

theorem handleCMove_accepts (routing : Routing) (r : RoomRef) (s : SessionId) (pkt : CMove)
    (scene : Scene) (id : ObjectId) (locked : lockPlayer routing scene [] s = some id)
    (still : (scene.players id).info.state ≠ .move) (valid : pkt.dir.isValid = true) :
    ((scene.players id).info.dir ≠ pkt.dir →
      ((handleCMove routing r s pkt scene).players id).info.dir = pkt.dir ∧
        ((handleCMove routing r s pkt scene).players id).info.state = .idle) ∧
    ((scene.players id).info.dir = pkt.dir →
      canGo routing scene r (scene.players id).info.frontCellPos = true →
        (handleCMove routing r s pkt scene).players id =
          (scene.players id).walking scene.now (scene.players id).info.frontCellPos) := by
  constructor
  · intro turns
    have quiet : (scene.setPlayer id ((scene.players id).halted pkt.dir)).Quiet
        (handleCMove routing r s pkt scene) := by
      unfold handleCMove
      rw [locked]
      dsimp only
      rw [if_neg still, if_neg (by simp [valid]), if_pos turns]
      exact .broadcast routing r _ _
    rw [quiet.players]
    dsimp only [Scene.setPlayer]
    rw [Function.update_self]
    exact ⟨rfl, rfl⟩
  · intro ahead free
    have moves : moveTarget routing r s pkt scene =
        some (id, (scene.players id).info.frontCellPos) := by
      unfold moveTarget
      rw [locked]
      exact if_pos ⟨still, ahead ▸ valid, ahead, free⟩
    rw [(handleCMove_moves routing r s pkt scene id _ moves).players]
    exact Function.update_self _ _ _

theorem step_unlocks (w : World) (e : Event) (times : ObjectId → List Nat)
    (all : AllStriding w.scene.players times) : Unlocks data (w, times) e where
  rests := by
    rintro rand pass r steps after id rfl under_way current stepped member due
    cases step_acted data w after _ stepped with
    | still e other stepless same => exact absurd rfl (stepless rand)
    | stepped rand pass' r' steps' under_way' current' scene idGen rooms logins =>
        obtain rfl : pass' = pass := Option.some.inj (under_way'.symm.trans under_way)
        obtain ⟨rfl, -⟩ := Visit.mk.inj (Option.some.inj (current'.symm.trans current))
        rw [scene]
        exact afterStep_idle data w r' rand times all id member due
  accepts := by
    rintro rand r s pkt rest next id rfl front stepped locked still valid
    obtain ⟨acted, -⟩ := step_act data w next _ stepped
    obtain ⟨r', job, rest', front', result⟩ := runNextJob_some data w next rand acted
    rw [front] at front'
    cases front'
    have scene : next.scene = handleCMove (w.forJob r rest rand).routing r s pkt
        (w.forJob r rest rand).scene := by rw [result]; rfl
    obtain ⟨turns, walks⟩ := handleCMove_accepts _ r s pkt _ id locked still valid
    rw [← scene] at turns walks
    refine ⟨turns, fun ahead free => ⟨walks ahead free, ?_⟩⟩
    apply recorded_move w rand r s pkt rest times id _ front next scene
    unfold moveTarget
    rw [locked]
    exact if_pos ⟨still, ahead ▸ valid, ahead, free⟩

theorem init_players (store : Store) (redisConnected : Bool) (rand : List Nat) :
    (World.init data store redisConnected rand).scene.players = Player.create data := by
  have opened (w : World) (channel : Int) (roomId : RoomName) :
      (w.openTown data channel roomId).scene.players = w.scene.players := by
    obtain ⟨born, births, -⟩ := initFromConfig_births data
      (w.routing.addRoom (Room.create .town channel 0)) w.routing.roomCount roomId w.scene w.idGen
    exact (births_keep data _ _ births).2.1
  unfold World.init
  dsimp only
  split
  · rw [opened, opened]
    rfl
  · rfl

theorem init_striding (store : Store) (redisConnected : Bool) (rand : List Nat) :
    (World.init data store redisConnected rand).Orderly ∧
      AllStriding (World.init data store redisConnected rand).scene.players fun _ => [] := by
  refine ⟨init_orderly data store redisConnected rand, fun id => ?_⟩
  rw [init_players]
  exact .idle rfl

theorem observed_striding (now : World × (ObjectId → List Nat)) (e : Event)
    (after : World × (ObjectId → List Nat))
    (kept : now.1.Orderly ∧ AllStriding now.1.scene.players now.2)
    (stepped : Runs.observed (World.step data) recordWalks now e = some after) :
    after.1.Orderly ∧ AllStriding after.1.scene.players after.2 := by
  obtain ⟨moved, result⟩ := Runs.observed_some recordWalks now after e stepped
  rw [result]
  exact ⟨step_orderly data now.1 after.1 e kept.1 moved,
    step_striding data now.1 after.1 e now.2 kept.1 kept.2 moved⟩

/-- In every run a player that moves does so until 75 ms after its last move at most, the step
of its room after that ends it and says so, and it may move again; nobody is in state `SKILL`.
While the players are in one room, the room that steps is the one that is told. -/
theorem players_never_stuck (store : Store) (redisConnected : Bool) (rand : List Nat)
    (events : List Event) :
    Runs.EveryState (Runs.observed (World.step data) recordWalks)
      (fun now => AllStriding now.1.scene.players now.2)
      (World.init data store redisConnected rand, fun _ => []) events ∧
    Runs.EachStep (Runs.observed (World.step data) recordWalks) (Unlocks data)
      (World.init data store redisConnected rand, fun _ => []) events ∧
    (Runs.EachStep (World.step data) (fun w e => OneLogin w e ∧ MovesFromOwnRoom w e)
        (World.init data store redisConnected rand) events →
      Runs.EveryState (World.step data) (fun w => w.routing.Pointed)
        (World.init data store redisConnected rand) events) := by
  refine ⟨?_, ?_, fun each => ?_⟩
  · apply Runs.everyState_invariant (fun _ _ => True)
      (fun now : World × (ObjectId → List Nat) =>
        now.1.Orderly ∧ AllStriding now.1.scene.players now.2)
    · exact fun now kept => kept.2
    · intro now e after kept _ stepped
      exact observed_striding data now e after kept stepped
    · exact init_striding data store redisConnected rand
    · exact Runs.eachStep_true _ _
  · apply Runs.eachStep_mono (fun _ _ => True) (Unlocks data)
      (fun now : World × (ObjectId → List Nat) =>
        now.1.Orderly ∧ AllStriding now.1.scene.players now.2)
    · intro now e after kept _ stepped
      exact observed_striding data now e after kept stepped
    · intro now e after kept _ _
      exact step_unlocks data now.1 e now.2 kept.2
    · exact init_striding data store redisConnected rand
    · exact Runs.eachStep_true _ _
  · apply Runs.everyState_invariant (fun w e => OneLogin w e ∧ MovesFromOwnRoom w e)
      (fun w : World => w.Solo ∧ w.routing.Pointed)
    · exact fun w kept => kept.2
    · intro w e next kept met stepped
      exact ⟨step_solo data w next e kept.1 met.1 met.2 stepped,
        step_pointed data w next e kept.1 kept.2 stepped⟩
    · refine ⟨init_solo data store redisConnected rand, fun r p standing => ?_⟩
      rw [(init_blank data store redisConnected rand).players] at standing
      cases standing
    · exact each

set_option maxRecDepth 20000 in
theorem walks_and_rests :
    Runs.EveryState (World.step smallGame) (fun w => w.routing.Pointed)
      (World.init smallGame newStore false []) walkTwice := by
  apply (players_never_stuck smallGame newStore false [] walkTwice).2.2
  apply Runs.eachStep_and
  · exact Runs.eachStep_of_check firstLogin _ firstLogin_once _ _ (by decide +kernel)
  · exact Runs.eachStep_of_check inOwnRoom _ inOwnRoom_moves _ _ (by decide +kernel)

end ZeldaServer
