import ZeldaServer.World.Acts

/-! Whom the monsters act on. A monster remembers its target by a weak pointer, which goes on
pointing at a player that has left the room. -/

namespace ZeldaServer

open Chains (Chain)

variable (data : GameData)

/-- `UpdateIdle` sets the home of a monster that has none. -/
def Monster.homed (m : Monster) : Monster :=
  if m.homePos = ⟨-1, -1⟩ then { m with homePos := m.info.cellPos } else m

/-- The distance of the comparisons in `UpdateIdle`. -/
def distanceTo (scene : Scene) (m : Monster) (id : ObjectId) : Nat :=
  ((scene.players id).info.cellPos - m.info.cellPos).manhattan

def Monster.offLeash (m : Monster) : Prop :=
  m.leashRange < ((m.info.cellPos - m.homed.homePos).manhattan : Int)

instance (m : Monster) : Decidable m.offLeash := inferInstanceAs (Decidable (_ < _))

/-- The player `UpdateIdle` attacks or goes after. -/
def monsterAim (routing : Routing) (r : RoomRef) (m : Monster) (scene : Scene) :
    Option ObjectId :=
  if m.offLeash then none
  else (chooseTarget routing r m.homed scene).filter fun target =>
    (distanceTo scene m target : Int) ≤ m.aggroRange

section Hunting

variable (routing : Routing) (r : RoomRef)

theorem homed_keeps (m : Monster) :
    m.homed.info = m.info ∧ m.homed.leashRange = m.leashRange ∧
      m.homed.aggroRange = m.aggroRange ∧ m.homed.target = m.target := by
  unfold Monster.homed
  split <;> exact ⟨rfl, rfl, rfl, rfl⟩

theorem monsterUpdateIdle_aims (m : Monster) (scene : Scene) (target : ObjectId)
    (aims : monsterAim routing r m scene = some target) :
    monsterUpdateIdle routing r m scene =
      if distanceTo scene m target = 1 then
        monsterAttack routing r { m.homed with target := some target } target scene
      else monsterChase routing r { m.homed with target := some target } target scene := by
  obtain ⟨info, leash, aggro, -⟩ := homed_keeps m
  unfold monsterAim at aims
  split at aims
  case isTrue => cases aims
  case isFalse leashed =>
    obtain ⟨chosen, near⟩ := Option.filter_eq_some_iff.mp aims
    unfold monsterUpdateIdle
    dsimp only
    generalize housed : (if m.homePos = ⟨-1, -1⟩ then { m with homePos := m.info.cellPos } else m) =
      m'
    obtain rfl : m.homed = m' := housed
    unfold Monster.offLeash at leashed
    rw [← info, ← leash] at leashed
    rw [if_neg leashed, chosen]
    dsimp only
    rw [info, aggro]
    exact if_neg (not_lt.mpr (of_decide_eq_true near))

theorem monsterUpdateIdle_aimless (m : Monster) (scene : Scene)
    (aimless : monsterAim routing r m scene = none) :
    ∃ m' : Monster, m'.info = m.info ∧
      (monsterUpdateIdle routing r m scene = monsterGoHome routing r m' scene ∨
        monsterUpdateIdle routing r m scene = scene.setMonster r m') := by
  obtain ⟨info, leash, aggro, -⟩ := homed_keeps m
  have home (m' : Monster) (same : m'.info = m.info) (result : Scene)
      (goes : result = if m'.info.cellPos ≠ m'.homePos then monsterGoHome routing r m' scene
        else scene.setMonster r m') :
      ∃ m' : Monster, m'.info = m.info ∧
        (result = monsterGoHome routing r m' scene ∨ result = scene.setMonster r m') := by
    rw [goes]
    refine ⟨m', same, ?_⟩
    split
    · exact .inl rfl
    · exact .inr rfl
  unfold monsterAim at aimless
  unfold monsterUpdateIdle
  dsimp only
  generalize housed : (if m.homePos = ⟨-1, -1⟩ then { m with homePos := m.info.cellPos } else m) = m'
  obtain rfl : m.homed = m' := housed
  by_cases off : m.homed.leashRange < ((m.homed.info.cellPos - m.homed.homePos).manhattan : Int)
  · rw [if_pos off]
    exact ⟨{ m.homed with target := none }, info, .inl rfl⟩
  · have leashed : ¬ m.offLeash := by
      unfold Monster.offLeash
      rw [← info, ← leash]
      exact off
    rw [if_neg off]
    rw [if_neg leashed] at aimless
    cases choice : chooseTarget routing r m.homed scene with
    | none => exact home m.homed info _ rfl
    | some target =>
        have far := Option.filter_eq_none_iff.mp aimless target choice
        have far : m.homed.aggroRange < (distanceTo scene m target : Int) := by
          rw [aggro]
          exact not_le.mp fun near => far (decide_eq_true near)
        unfold distanceTo at far
        rw [← info] at far
        dsimp only
        rw [if_pos far]
        exact home { m.homed with target := none } info _ rfl

theorem monsterGo_players (m : Monster) (pos : Vec2Int) (waitUntil : Nat) (scene : Scene) :
    (monsterGo routing r m pos waitUntil scene).players = scene.players :=
  (Scene.SameObjects.broadcast routing r _ _).players

theorem monsterGoHome_players (m : Monster) (scene : Scene) :
    (monsterGoHome routing r m scene).players = scene.players := by
  unfold monsterGoHome
  dsimp only
  split
  · split
    · exact monsterGo_players routing r m _ _ _
    · rfl
  · rfl

theorem monsterChase_players (m : Monster) (target : ObjectId) (scene : Scene) :
    (monsterChase routing r m target scene).players = scene.players := by
  unfold monsterChase
  dsimp only
  split
  · split
    · rfl
    · split
      · exact monsterGo_players routing r m _ _ _
      · rfl
  · rfl

theorem monsterAttack_players (m : Monster) (target id : ObjectId) (scene : Scene)
    (other : id ≠ target) : (monsterAttack routing r m target scene).players id = scene.players id := by
  unfold monsterAttack
  dsimp only
  rw [(Scene.SameObjects.broadcast routing r _ _).players]
  simp only [Scene.hurtPlayer, Scene.setPlayer, Function.update_of_ne other]
  rw [(Scene.SameObjects.broadcast routing r _ _).players]
  rfl

theorem monsterUpdateIdle_players (m : Monster) (scene : Scene) (id : ObjectId)
    (spared : monsterAim routing r m scene ≠ some id) :
    (monsterUpdateIdle routing r m scene).players id = scene.players id := by
  cases aims : monsterAim routing r m scene with
  | none =>
      obtain ⟨m', -, home | stays⟩ := monsterUpdateIdle_aimless routing r m scene aims
      · rw [home, monsterGoHome_players]
      · rw [stays]
        rfl
  | some target =>
      have other : id ≠ target := fun same => spared (same ▸ aims)
      rw [monsterUpdateIdle_aims routing r m scene target aims]
      split
      · exact monsterAttack_players routing r _ target id scene other
      · rw [monsterChase_players]

theorem foldl_nearest_mem (scene : Scene) (pos : Vec2Int) (ids : List ObjectId)
    (best : Option (Int × ObjectId)) (found : Int × ObjectId)
    (result : ids.foldl (fun best id =>
      let dist := (pos - (scene.players id).info.cellPos).lengthSquared
      match best with
      | none => some (dist, id)
      | some (least, nearest) =>
          if dist < least then some (dist, id) else some (least, nearest)) best = some found) :
    best = some found ∨ found.2 ∈ ids := by
  induction ids generalizing best with
  | nil => exact .inl result
  | cons head tail ih =>
      rw [List.foldl_cons] at result
      rcases ih _ result with first | later
      · cases best with
        | none =>
            cases first
            exact .inr List.mem_cons_self
        | some old =>
            dsimp only at first
            split at first
            · cases first
              exact .inr List.mem_cons_self
            · exact .inl first
      · exact .inr (List.mem_cons_of_mem head later)

theorem findClosestPlayer_mem (scene : Scene) (pos : Vec2Int) (id : ObjectId)
    (nearest : findClosestPlayer routing scene r pos = some id) : id ∈ playerIds routing r := by
  unfold findClosestPlayer at nearest
  obtain ⟨found, result, rfl⟩ := Option.map_eq_some_iff.mp nearest
  exact (foldl_nearest_mem scene pos (playerIds routing r) none found result).resolve_left (by simp)

/-- A monster on its leash remembers a living player that is not in the room, is within its
aggro range, and is not a whole cell further than the nearest player of the room. -/
structure Strays (m : Monster) (scene : Scene) (target : ObjectId) : Prop where
  leashed : ¬ m.offLeash
  remembered : m.target = some target
  alive : playerAlive routing scene [] target = true
  away : target ∉ playerIds routing r
  near : (distanceTo scene m target : Int) ≤ m.aggroRange
  nearest : ∀ id, findClosestPlayer routing scene r m.info.cellPos = some id →
    distanceTo scene m target ≤ distanceTo scene m id + 1

theorem aim_away_iff (m : Monster) (scene : Scene) (target : ObjectId) :
    (monsterAim routing r m scene = some target ∧ target ∉ playerIds routing r) ↔
      Strays routing r m scene target := by
  obtain ⟨info, -, -, remembers⟩ := homed_keeps m
  unfold monsterAim chooseTarget
  dsimp only
  rw [info, remembers]
  constructor
  · rintro ⟨aims, away⟩
    split at aims
    case isTrue => cases aims
    case isFalse leashed =>
      obtain ⟨chosen, near⟩ := Option.filter_eq_some_iff.mp aims
      have remembered (kept : m.target.filter (playerAlive routing scene []) = some target) :
          m.target = some target ∧ playerAlive routing scene [] target = true :=
        Option.filter_eq_some_iff.mp kept
      cases closest : findClosestPlayer routing scene r m.info.cellPos with
      | none =>
          rw [closest] at chosen
          obtain ⟨named, alive⟩ := remembered chosen
          refine ⟨leashed, named, alive, away, of_decide_eq_true near, fun id found => ?_⟩
          cases closest.symm.trans found
      | some id =>
          have standing := findClosestPlayer_mem routing r scene _ id closest
          rw [closest] at chosen
          cases kept : m.target.filter (playerAlive routing scene []) with
          | none =>
              rw [kept] at chosen
              cases chosen
              exact absurd standing away
          | some old =>
              rw [kept] at chosen
              dsimp only at chosen
              split at chosen
              case isTrue =>
                cases chosen
                exact absurd standing away
              case isFalse farther =>
                cases chosen
                obtain ⟨named, alive⟩ := remembered kept
                refine ⟨leashed, named, alive, away, of_decide_eq_true near, fun id' found => ?_⟩
                cases closest.symm.trans found
                exact Nat.le_of_not_lt farther
  · intro strays
    refine ⟨?_, strays.away⟩
    rw [if_neg strays.leashed]
    have kept : m.target.filter (playerAlive routing scene []) = some target := by
      rw [strays.remembered]
      exact if_pos strays.alive
    rw [kept]
    apply Option.filter_eq_some_iff.mpr
    refine ⟨?_, decide_eq_true strays.near⟩
    cases closest : findClosestPlayer routing scene r m.info.cellPos with
    | none => rfl
    | some id => exact if_neg (Nat.not_lt_of_le (strays.nearest id closest))

end Hunting

/-- The step of the room that comes next updates this idle monster in this scene: those
before it have had their turn. -/
structure World.Hunts (w : World) (e : Event) (r : RoomRef) (before : Scene) (m : Monster) :
    Prop where
  stepping : ∃ rand pass steps front id back, e = .step rand ∧ w.routing.pass = some pass ∧
    pass.current = some ⟨r, some steps⟩ ∧
    ((stepPlayers w.routing r { w.scene with rand }).fields r).monsters.map (·.info.objectId) =
      front ++ id :: back ∧
    before = front.foldl (monsterUpdate w.routing r) (stepPlayers w.routing r { w.scene with rand }) ∧
    (before.fields r).monster id = some m
  idle : m.info.state = .idle

/-- Whom a monster attacks or goes after is a player of its room, and nobody else's hp is
changed by it. -/
def HuntsAtHome (w : World) (e : Event) : Prop :=
  ∀ r before m, w.Hunts e r before m →
    (∀ target, monsterAim w.routing r m before = some target → target ∈ playerIds w.routing r) ∧
      ∀ id, id ∉ playerIds w.routing r →
        ((monsterUpdateIdle w.routing r m before).players id).info.hp = (before.players id).info.hp

def NobodyStrays (w : World) (e : Event) : Prop :=
  ∀ r before m target, w.Hunts e r before m → ¬ Strays w.routing r m before target

theorem huntsAtHome_iff (w : World) (e : Event) : HuntsAtHome w e ↔ NobodyStrays w e := by
  constructor
  · intro home r before m target hunts strays
    obtain ⟨aims, away⟩ := (aim_away_iff w.routing r m before target).mpr strays
    exact away ((home r before m hunts).1 target aims)
  · intro nobody r before m hunts
    have inside (target : ObjectId) (aims : monsterAim w.routing r m before = some target) :
        target ∈ playerIds w.routing r := by
      by_contra away
      exact nobody r before m target hunts ((aim_away_iff w.routing r m before target).mp
        ⟨aims, away⟩)
    refine ⟨inside, fun id away => ?_⟩
    rw [monsterUpdateIdle_players w.routing r m before id fun aims => away (inside id aims)]

/-- In every run the monsters act on players of their own rooms only exactly when none of
them is updated while it strays. -/
theorem hunts_at_home_iff (store : Store) (redisConnected : Bool) (rand : List Nat)
    (events : List Event) :
    Runs.EachStep (World.step data) HuntsAtHome (World.init data store redisConnected rand) events ↔
      Runs.EachStep (World.step data) NobodyStrays (World.init data store redisConnected rand)
        events := by
  apply Runs.eachStep_congr HuntsAtHome NobodyStrays fun _ => True
  · exact fun _ _ _ _ _ _ => trivial
  · exact fun w e _ _ _ => huntsAtHome_iff w e
  · trivial

/-- The player is attacked in the first town, and goes to the second one. -/
def targetLeaves : List Event :=
  [Event.connect 1, .packet 1 (.login [97])] ++ updateTown 1 ++
    [Event.clock 50, .update, .visitStatic, .endJobs, .step [], .endRoom, .visitStatic, .endJobs,
      .step [], .endRoom, .loopDungeons, .endUpdate, .packet 1 (.changeMap ⟨MapId.town, 2⟩),
      .update] ++ visit .visitStatic 1 ++ visit .visitStatic 1 ++
    [Event.loopDungeons, .endUpdate, .clock 2000, .update, .visitStatic, .endJobs, .step []]

/-- The room's first monster is idle and aims at a player that is elsewhere. -/
def aimsElsewhere (w : World) : Bool :=
  match w.routing.pass with
  | some { current := some ⟨r, some _⟩, .. } =>
      let scene := stepPlayers w.routing r { w.scene with rand := [] }
      match (scene.fields r).monsters with
      | m :: _ =>
          m.info.state = .idle &&
            (monsterAim w.routing r m scene).any fun target => target ∉ playerIds w.routing r
      | [] => false
  | _ => false

theorem aimsElsewhere_hunts (w : World) (checked : aimsElsewhere w = true) :
    ¬ HuntsAtHome w (.step []) := by
  intro home
  unfold aimsElsewhere at checked
  split at checked
  case h_1 now statics dungeonsFrom visited r steps under_way =>
    dsimp only at checked
    split at checked
    case h_1 m back monsters =>
      simp only [Bool.and_eq_true, decide_eq_true_eq, Option.any_eq_true] at checked
      obtain ⟨idle, target, aims, away⟩ := checked
      apply away
      refine (home r _ m ⟨⟨[], _, steps, [], m.info.objectId, back.map (·.info.objectId), rfl,
        under_way, rfl, ?_, rfl, ?_⟩, idle⟩).1 target aims
      · rw [monsters]
        rfl
      · unfold Field.monster
        rw [List.foldl_nil, monsters]
        exact List.find?_cons_of_pos (by simp)
    case h_2 => cases checked
  case h_2 => cases checked

set_option maxRecDepth 20000 in
theorem monster_hurts_absent_player :
    ¬ Runs.EachStep (World.step huntGame) HuntsAtHome (World.init huntGame newStore false [])
      (targetLeaves ++ [.step []]) := by
  intro each
  have run : (reached huntGame newStore false [] targetLeaves).any (fun w =>
      (w.step huntGame (.step [])).isSome && aimsElsewhere w) = true := by decide +kernel
  obtain ⟨w, reached, checked⟩ := Option.any_eq_true _ _ |>.mp run
  obtain ⟨steps, elsewhere⟩ := Bool.and_eq_true _ _ |>.mp checked
  obtain ⟨next, stepped⟩ := Option.isSome_iff_exists.mp steps
  have last := Runs.eachStep_append HuntsAtHome _ w targetLeaves [.step []] reached each
  exact aimsElsewhere_hunts w elsewhere (last next stepped).1

end ZeldaServer
