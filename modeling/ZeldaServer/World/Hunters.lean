import ZeldaServer.Lib.Dict
import ZeldaServer.World.Flights

/-! The life of a monster, from one `Update` to the next: when it acts, and where it goes. -/

namespace ZeldaServer

variable (data : GameData)

def Monster.conduct (m : Monster) : Monster := { m with info := { m.info with hp := 0 } }

theorem damaged_conduct (m : Monster) (damage : Int) : (m.damaged damage).conduct = m.conduct := by
  unfold Monster.damaged Monster.conduct ObjectInfo.onDamaged
  split <;> rfl

def Scene.hunting (scene : Scene) (id : RoomRef × ObjectId) : Option Monster :=
  ((scene.fields id.1).monster id.2).map Monster.conduct

theorem setMonster_monster (scene : Scene) (r : RoomRef) (m : Monster) (id : ObjectId) :
    ((scene.setMonster r m).fields r).monster id =
      if id = m.info.objectId then ((scene.fields r).monster id).map fun _ => m
      else (scene.fields r).monster id := by
  unfold Scene.setMonster Scene.setField Field.monster
  dsimp only
  rw [Function.update_self]
  exact Keyed.find_replace (·.info.objectId) (scene.fields r).monsters m id

theorem dropMonster_monster (scene : Scene) (r : RoomRef) (m : Monster) (id : ObjectId) :
    ((scene.dropMonster r m).fields r).monster id =
      if id = m.info.objectId then none else (scene.fields r).monster id := by
  unfold Field.monster
  rw [(dropMonster_field scene r m).1]
  exact Keyed.find_drop (·.info.objectId) (scene.fields r).monsters m.info.objectId id

theorem setMonster_hunting (scene : Scene) (r : RoomRef) (m : Monster) (id : RoomRef × ObjectId)
    (other : id ≠ (r, m.info.objectId)) :
    (scene.setMonster r m).hunting id = scene.hunting id := by
  unfold Scene.hunting
  by_cases here : id.1 = r
  · rw [here, setMonster_monster, if_neg fun same => other (Prod.ext here same)]
  · rw [setMonster_others scene r id.1 m here]

theorem dropMonster_hunting (scene : Scene) (r : RoomRef) (m : Monster) (id : RoomRef × ObjectId)
    (v : Monster) (seen : (scene.dropMonster r m).hunting id = some v) :
    scene.hunting id = some v := by
  unfold Scene.hunting at seen ⊢
  by_cases here : id.1 = r
  · rw [here, dropMonster_monster] at seen
    rw [here]
    split at seen
    · cases seen
    · exact seen
  · rwa [dropMonster_others scene r id.1 m here] at seen

theorem hit_hunting (scene : Scene) (r : RoomRef) (m : Monster) (damage : Int)
    (found : (scene.fields r).monster m.info.objectId = some m) (id : RoomRef × ObjectId) :
    (scene.setMonster r (m.damaged damage)).hunting id = scene.hunting id := by
  have named := (onDamaged_keeps m.info damage).1
  by_cases own : id = (r, m.info.objectId)
  · subst own
    have own := setMonster_monster scene r (m.damaged damage) m.info.objectId
    rw [if_pos (show m.info.objectId = (m.damaged damage).info.objectId from named.symm), found] at own
    unfold Scene.hunting
    rw [own, found]
    exact congrArg some (damaged_conduct m damage)
  · exact setMonster_hunting scene r _ id (by rwa [Monster.damaged, named])

theorem SameGround.hunting {a b : Scene} (same : a.SameGround b) (id : RoomRef × ObjectId) :
    b.hunting id = a.hunting id := by
  unfold Scene.hunting Field.monster
  rw [same.monsters]

/-- A call of `Monster::Update`. -/
structure MonsterUpdate where
  routing : Routing
  room : RoomRef
  id : ObjectId
  before : Scene

namespace MonsterUpdate

variable (t : MonsterUpdate)

def after : Scene := monsterUpdate t.routing t.room t.before t.id

def monster : Option Monster := (t.before.fields t.room).monster t.id

def monster' : Option Monster := (t.after.fields t.room).monster t.id

/-- The monster is on another cell than before. -/
def moves : Bool :=
  match t.monster, t.monster' with
  | some m, some m' => m'.info.cellPos ≠ m.info.cellPos
  | _, _ => false

/-- The monster has just gone over to `SKILL`. -/
def attacks : Bool :=
  match t.monster, t.monster' with
  | some m, some m' => m.info.state ≠ .skill ∧ m'.info.state = .skill
  | _, _ => false

/-- The player that the monster attacks or goes after. -/
def aim : Option ObjectId := t.monster.bind fun m => monsterAim t.routing t.room m t.before

/-- What is to go by before the next action. -/
def pause : Nat := if t.attacks ∨ t.aim.isSome then 1000 else 300

end MonsterUpdate

def hunts : Lives.Stage (RoomRef × ObjectId) Scene Monster MonsterUpdate where
  view := Scene.hunting
  clock := (·.now)
  who := fun t => some (t.room, t.id)
  before := (·.before)
  after := MonsterUpdate.after
  begins := (·.before.now)
  ends := (·.before.now)
  newborn := fun v => v.info.state = .idle

structure HuntRules (turns : List MonsterUpdate) : Prop where
  pace : turns.Pairwise fun t t' => (t.attacks ∨ t.moves) → (t'.attacks ∨ t'.moves) →
    t.before.now + t.pause ≤ t'.before.now
  adjacent : ∀ t ∈ turns, ∀ m m', t.monster = some m → t.monster' = some m' → t.moves →
    (m'.info.cellPos - m.info.cellPos).manhattan = 1 ∧
      canGo t.routing t.before t.room m'.info.cellPos
  strikes : ∀ t ∈ turns, ∀ m m', t.monster = some m → t.monster' = some m' → t.attacks →
    (∃ target, t.aim = some target ∧ distanceTo t.before m target = 1) ∧
      ((m.info.cellPos - m'.homePos).manhattan : Int) ≤ m.leashRange
  chases : ∀ t ∈ turns, ∀ m', t.monster' = some m' → t.moves → t.aim.isSome →
    ((m'.info.cellPos - m'.homePos).manhattan : Int) ≤ m'.leashRange
  harms : ∀ t ∈ turns, ∀ target, t.after.players target ≠ t.before.players target →
    t.attacks ∧ t.aim = some target

section Course

variable (routing : Routing) (r : RoomRef) (scene : Scene) (m : Monster)

/-- What becomes of the monster in one `Update`. -/
inductive MonsterCourse : Monster → Prop where
  | busy (state : m.info.state ≠ .idle) (due : scene.now < m.waitUntil) : MonsterCourse m
  | wakes (state : m.info.state ≠ .idle) (due : m.waitUntil ≤ scene.now) :
      MonsterCourse { m with info := { m.info with state := .idle } }
  | stays (target : Option ObjectId) (state : m.info.state = .idle)
      (still : monsterStep routing r m scene = none)
      (apart : ∀ target, monsterAim routing r m scene = some target → distanceTo scene m target ≠ 1) :
      MonsterCourse (m.aiming target)
  | goes (nextPos : Vec2Int) (target : Option ObjectId) (state : m.info.state = .idle)
      (steps : monsterStep routing r m scene = some nextPos) :
      MonsterCourse ((m.aiming target).gone nextPos (scene.now + monsterPause routing r m scene))
  | attacks (target : ObjectId) (state : m.info.state = .idle)
      (aims : monsterAim routing r m scene = some target)
      (near : distanceTo scene m target = 1) :
      MonsterCourse ((m.aiming (some target)).striking (scene.players target).info.cellPos
        (scene.now + 1000))

variable {routing r scene m}

theorem MonsterTurn.course {after : Scene} (turn : MonsterTurn routing r scene m after)
    (found : (scene.fields r).monster m.info.objectId = some m) :
    ∃ m', (after.fields r).monster m.info.objectId = some m' ∧
      MonsterCourse routing r scene m m' := by
  have seen (m' : Monster) (named : m'.info.objectId = m.info.objectId)
      (result : (scene.setMonster r m').SameGround after) :
      (after.fields r).monster m.info.objectId = some m' := by
    have set := setMonster_monster scene r m' m.info.objectId
    rw [if_pos named.symm, found] at set
    unfold Field.monster at set ⊢
    rw [result.monsters, set]
    rfl
  cases turn with
  | busy state due result =>
      refine ⟨m, ?_, .busy state due⟩
      unfold Field.monster at found ⊢
      rwa [result.monsters]
  | wakes state due result =>
      exact ⟨_, seen { m with info := { m.info with state := .idle } } rfl result, .wakes state due⟩
  | stays target state still apart result =>
      exact ⟨_, seen _ (by rw [(aiming_keeps m target).1]) result, .stays target state still apart⟩
  | goes nextPos target state steps result =>
      refine ⟨_, seen _ ?_ result, .goes nextPos target state steps⟩
      simp only [Monster.gone, ObjectInfo.setCellPos, (aiming_keeps m target).1]
  | attacks target state aims near result =>
      refine ⟨_, seen _ ?_ result, .attacks target state aims near⟩
      simp only [Monster.striking, (aiming_keeps m (some target)).1]

theorem MonsterTurn.others {after : Scene} (turn : MonsterTurn routing r scene m after)
    (id : RoomRef × ObjectId) (other : id ≠ (r, m.info.objectId)) :
    after.hunting id = scene.hunting id := by
  have set (m' : Monster) (named : m'.info.objectId = m.info.objectId)
      (result : (scene.setMonster r m').SameGround after) :
      after.hunting id = scene.hunting id :=
    (SameGround.hunting result id).trans
      (setMonster_hunting scene r m' id (by rwa [named]))
  cases turn with
  | busy state due result => exact SameGround.hunting result id
  | wakes state due result => exact set { m with info := { m.info with state := .idle } } rfl result
  | stays target state still apart result => exact set _ (by rw [(aiming_keeps m target).1]) result
  | goes nextPos target state steps result =>
      apply set _ _ result
      simp only [Monster.gone, ObjectInfo.setCellPos, (aiming_keeps m target).1]
  | attacks target state aims near result =>
      apply set _ _ result
      simp only [Monster.striking, (aiming_keeps m (some target)).1]

theorem nextCell_move (src dest nextPos : Vec2Int)
    (next : nextCell routing r scene src dest = some nextPos) :
    (nextPos - src).manhattan = 1 ∧ canGo routing scene r nextPos = true := by
  unfold nextCell at next
  cases way : pathOf routing r scene src dest with
  | none =>
      rw [way] at next
      cases next
  | some path =>
      have found := (pathOf_found routing scene r src dest).2 path way
      rw [way] at next
      match path, found with
      | [], _ => cases next
      | [_], _ => cases next
      | start :: second :: rest, found =>
          obtain rfl : start = src := Option.some.inj found.starts
          obtain ⟨adjacent, -⟩ := (List.isChain_cons_cons.mp found.moves).1
          dsimp only at next
          split at next
          case isTrue free =>
            cases next
            exact ⟨adjacent, free⟩
          case isFalse => cases next

theorem monsterStep_move (nextPos : Vec2Int) (steps : monsterStep routing r m scene = some nextPos) :
    (nextPos - m.info.cellPos).manhattan = 1 ∧ canGo routing scene r nextPos = true ∧
      ((monsterAim routing r m scene).isSome = true →
        ((nextPos - m.homed.homePos).manhattan : Int) ≤ m.leashRange) := by
  unfold monsterStep at steps
  split at steps
  · cases steps
  · cases aims : monsterAim routing r m scene with
    | none =>
        rw [aims] at steps
        dsimp only at steps
        split at steps
        · obtain ⟨adjacent, free⟩ := nextCell_move _ _ nextPos steps
          exact ⟨adjacent, free, fun hunts => by cases hunts⟩
        · cases steps
    | some target =>
        rw [aims] at steps
        dsimp only at steps
        split at steps
        · cases steps
        · obtain ⟨next, leashed⟩ := Option.filter_eq_some_iff.mp steps
          obtain ⟨adjacent, free⟩ := nextCell_move _ _ nextPos next
          exact ⟨adjacent, free, fun _ => of_decide_eq_true leashed⟩

theorem monsterUpdate_players (target : ObjectId)
    (found : (scene.fields r).monster m.info.objectId = some m)
    (harmed : (monsterUpdate routing r scene m.info.objectId).players target ≠
      scene.players target) :
    m.info.state = .idle ∧ monsterAim routing r m scene = some target ∧
      distanceTo scene m target = 1 := by
  have rested : (monsterRest r m scene).players = scene.players := by
    unfold monsterRest
    split <;> rfl
  unfold monsterUpdate at harmed
  rw [found] at harmed
  dsimp only at harmed
  cases state : m.info.state with
  | idle =>
      rw [state] at harmed
      have aims : monsterAim routing r m scene = some target := by
        by_contra spared
        exact harmed (monsterUpdateIdle_players routing r m scene target spared)
      refine ⟨rfl, aims, ?_⟩
      by_contra apart
      dsimp only at harmed
      rw [monsterUpdateIdle_aims routing r m scene target aims, if_neg apart,
        monsterChase_players] at harmed
      exact harmed rfl
  | move =>
      rw [state] at harmed
      exact absurd (congrFun rested target) harmed
  | skill =>
      rw [state] at harmed
      exact absurd (congrFun rested target) harmed

end Course

section Update

variable {t : MonsterUpdate} {m m' : Monster}

theorem monster_named (found : t.monster = some m) : m.info.objectId = t.id := by
  simpa using List.find?_some found

theorem update_hunt (found : t.monster = some m) (distinct : (t.before.fields t.room).Distinct) :
    MonsterTurn t.routing t.room t.before m t.after ∧
      ∃ m', t.monster' = some m' ∧ MonsterCourse t.routing t.room t.before m m' := by
  have named := monster_named found
  have own : (t.before.fields t.room).monster m.info.objectId = some m := by rwa [named]
  have turn := monsterUpdate_turn t.routing t.room t.before m distinct own
  rw [named] at turn
  refine ⟨turn, ?_⟩
  have course := turn.course own
  rwa [named] at course

theorem moves_iff (found : t.monster = some m) (left : t.monster' = some m') :
    t.moves = true ↔ m'.info.cellPos ≠ m.info.cellPos := by
  rw [MonsterUpdate.moves, found, left]
  exact decide_eq_true_iff

theorem attacks_iff (found : t.monster = some m) (left : t.monster' = some m') :
    t.attacks = true ↔ m.info.state ≠ .skill ∧ m'.info.state = .skill := by
  rw [MonsterUpdate.attacks, found, left]
  exact decide_eq_true_iff

theorem aim_eq (found : t.monster = some m) :
    t.aim = monsterAim t.routing t.room m t.before := by
  rw [MonsterUpdate.aim, found]
  rfl

theorem acts_pause (found : t.monster = some m) (left : t.monster' = some m')
    (course : MonsterCourse t.routing t.room t.before m m')
    (acts : t.attacks = true ∨ t.moves = true) :
    m.info.state = .idle ∧ m'.info.state ≠ .idle ∧ m'.waitUntil = t.before.now + t.pause := by
  rw [attacks_iff found left, moves_iff found left] at acts
  have keeps (target : Option ObjectId) := (aiming_keeps m target).1
  cases course with
  | busy state due => exact absurd acts (by simp)
  | wakes state due => exact absurd acts (by simp [ObjectInfo.cellPos])
  | stays target state still apart => exact absurd acts (by simp [keeps, state])
  | goes nextPos target state steps =>
      have quiet : t.attacks = false := by
        rw [Bool.eq_false_iff, ne_eq, attacks_iff found left]
        simp [Monster.gone]
      refine ⟨state, by simp [Monster.gone], ?_⟩
      rw [MonsterUpdate.pause, quiet, aim_eq found]
      unfold Monster.gone monsterPause
      cases monsterAim t.routing t.room m t.before <;> simp
  | attacks target state aims near =>
      have strikes : t.attacks = true := by
        rw [attacks_iff found left, state]
        exact ⟨by decide, rfl⟩
      refine ⟨state, by simp [Monster.striking], ?_⟩
      rw [MonsterUpdate.pause, strikes]
      rfl

theorem moves_steps (found : t.monster = some m) (left : t.monster' = some m')
    (course : MonsterCourse t.routing t.room t.before m m') (moves : t.moves = true) :
    monsterStep t.routing t.room m t.before = some m'.info.cellPos ∧
      m'.homePos = m.homed.homePos ∧ m'.leashRange = m.leashRange := by
  rw [moves_iff found left] at moves
  cases course with
  | busy state due => exact absurd rfl moves
  | wakes state due => exact absurd rfl moves
  | stays target state still apart => exact absurd (by rw [(aiming_keeps m target).1]) moves
  | goes nextPos target state steps =>
      obtain ⟨-, home, leash⟩ := aiming_keeps m target
      exact ⟨steps, home, leash⟩
  | attacks target state aims near =>
      exact absurd (by simp [Monster.striking, ObjectInfo.cellPos, (aiming_keeps m (some target)).1])
        moves

theorem steps_move {cell : Vec2Int} (course : MonsterCourse t.routing t.room t.before m m')
    (steps : monsterStep t.routing t.room m t.before = some cell) :
    m'.info.cellPos = cell ∧ m'.info.hp = m.info.hp := by
  have idle : m.info.state = .idle := by
    by_contra awake
    rw [monsterStep, if_pos awake] at steps
    cases steps
  cases course with
  | busy state due => exact absurd idle state
  | wakes state due => exact absurd idle state
  | stays target state still apart =>
      rw [steps] at still
      cases still
  | goes nextPos target state steps' =>
      obtain rfl : nextPos = cell := Option.some.inj (steps'.symm.trans steps)
      exact ⟨rfl, by simp only [Monster.gone, ObjectInfo.setCellPos, (aiming_keeps m target).1]⟩
  | attacks target state aims near =>
      rw [monsterStep, if_neg (not_not.mpr idle), aims] at steps
      dsimp only at steps
      rw [if_pos near] at steps
      cases steps

theorem attacks_near (found : t.monster = some m) (left : t.monster' = some m')
    (course : MonsterCourse t.routing t.room t.before m m') (attacks : t.attacks = true) :
    m'.homePos = m.homed.homePos ∧
      ∃ target, monsterAim t.routing t.room m t.before = some target ∧
        distanceTo t.before m target = 1 := by
  rw [attacks_iff found left] at attacks
  obtain ⟨ready, strikes⟩ := attacks
  cases course with
  | busy state due => exact absurd strikes ready
  | wakes state due => cases strikes
  | stays target state still apart =>
      rw [(aiming_keeps m target).1] at strikes
      exact absurd strikes ready
  | goes nextPos target state steps => cases strikes
  | attacks target state aims near =>
      exact ⟨(aiming_keeps m (some target)).2.1, target, aims, near⟩

theorem aim_leashed {routing : Routing} {r : RoomRef} {scene : Scene} {target : ObjectId}
    (aims : monsterAim routing r m scene = some target) :
    ((m.info.cellPos - m.homed.homePos).manhattan : Int) ≤ m.leashRange := by
  unfold monsterAim at aims
  split at aims
  · cases aims
  case isFalse leashed => exact not_lt.mp leashed

end Update

/-- The monster does not act before `due`. -/
def Resting (due : Nat) (v : Monster) (now : Nat) : Prop :=
  due ≤ now ∨ v.info.state ≠ .idle ∧ due ≤ v.waitUntil

theorem resting_kept {routing : Routing} {r : RoomRef} {scene : Scene} {m m' : Monster} {due : Nat}
    (course : MonsterCourse routing r scene m m') (resting : Resting due m.conduct scene.now) :
    Resting due m'.conduct scene.now := by
  rcases resting with ended | ⟨awake, waits⟩
  · exact .inl ended
  · cases course with
    | busy state early => exact .inr ⟨awake, waits⟩
    | wakes state ended => exact .inl (waits.trans ended)
    | stays target state still apart => exact absurd state awake
    | goes nextPos target state steps => exact absurd state awake
    | attacks target state aims near => exact absurd state awake

section Life

variable {id : RoomRef × ObjectId} {turns : List MonsterUpdate}

theorem hunting_some {scene : Scene} {v : Monster} (seen : scene.hunting id = some v) :
    ∃ m, (scene.fields id.1).monster id.2 = some m ∧ m.conduct = v :=
  Option.map_eq_some_iff.mp seen

theorem life_monster (life : hunts.Life id turns) (t : MonsterUpdate) (member : t ∈ turns) :
    (t.room, t.id) = id ∧ ∃ m, t.monster = some m := by
  have named : (t.room, t.id) = id := Option.some.inj (life.named t member)
  refine ⟨named, ?_⟩
  have present := life.present t member
  rw [← named] at present
  simp only [hunts, Scene.hunting, Option.isSome_map] at present
  exact Option.isSome_iff_exists.mp present

theorem goes_hunt {t : MonsterUpdate} {v v' : Monster} (goes : hunts.Goes id t v v')
    (distinct : (t.before.fields t.room).Distinct) :
    ∃ m m', t.monster = some m ∧ t.monster' = some m' ∧ m.conduct = v ∧ m'.conduct = v' ∧
      MonsterCourse t.routing t.room t.before m m' := by
  obtain ⟨named, before, after, -⟩ := goes
  have own : (t.room, t.id) = id := Option.some.inj named
  subst own
  obtain ⟨m, found, here⟩ := hunting_some before
  obtain ⟨left, stays, there⟩ := hunting_some after
  obtain ⟨-, m', found', course⟩ := update_hunt found distinct
  obtain rfl : left = m' := Option.some.inj (stays.symm.trans found')
  exact ⟨m, left, found, stays, here, there, course⟩

theorem life_rests (life : hunts.Life id turns)
    (distinct : ∀ t ∈ turns, (t.before.fields t.room).Distinct) :
    turns.Pairwise fun t t' => (t.attacks ∨ t.moves) → (t'.attacks ∨ t'.moves) →
      t.before.now + t.pause ≤ t'.before.now := by
  apply life.pairwise _ fun first v now =>
    (first.attacks ∨ first.moves) → Resting (first.before.now + first.pause) v now
  case made =>
    intro t member v v' goes acts
    obtain ⟨m, m', found, left, -, rfl, course⟩ := goes_hunt goes (distinct t member)
    obtain ⟨-, awake, waits⟩ := acts_pause found left course acts
    exact .inr ⟨awake, Nat.le_of_eq waits.symm⟩
  case lasts =>
    intro first v now later passes resting acts
    rcases resting acts with ended | waits
    · exact .inl (ended.trans passes)
    · exact .inr waits
  case kept =>
    intro first t member v v' goes resting acts
    obtain ⟨m, m', -, -, rfl, rfl, course⟩ := goes_hunt goes (distinct t member)
    exact resting_kept course (resting acts)
  case pays =>
    intro first t member v named seen passes resting acts again
    obtain ⟨own, m, found⟩ := life_monster life t member
    subst own
    obtain ⟨m, found, rfl⟩ := hunting_some seen
    obtain ⟨-, m', left, course⟩ := update_hunt found (distinct t member)
    obtain ⟨idle, -⟩ := acts_pause found left course again
    rcases resting acts with ended | ⟨awake, -⟩
    · exact ended
    · exact absurd idle awake

theorem hunt_rules (life : hunts.Life id turns)
    (distinct : ∀ t ∈ turns, (t.before.fields t.room).Distinct) : HuntRules turns := by
  have course (t : MonsterUpdate) (member : t ∈ turns) (m m' : Monster) (found : t.monster = some m)
      (left : t.monster' = some m') : MonsterCourse t.routing t.room t.before m m' := by
    obtain ⟨-, after, stays, course⟩ := update_hunt found (distinct t member)
    obtain rfl : m' = after := Option.some.inj (left.symm.trans stays)
    exact course
  constructor
  case pace => exact life_rests life distinct
  case adjacent =>
    intro t member m m' found left moves
    obtain ⟨steps, -⟩ := moves_steps found left (course t member m m' found left) moves
    obtain ⟨adjacent, free, -⟩ := monsterStep_move _ steps
    exact ⟨adjacent, free⟩
  case strikes =>
    intro t member m m' found left attacks
    obtain ⟨home, target, aims, near⟩ :=
      attacks_near found left (course t member m m' found left) attacks
    rw [home, aim_eq found]
    exact ⟨⟨target, aims, near⟩, aim_leashed aims⟩
  case chases =>
    intro t member m' left moves hunts
    obtain ⟨-, m, found⟩ := life_monster life t member
    obtain ⟨steps, home, leash⟩ := moves_steps found left (course t member m m' found left) moves
    rw [aim_eq found] at hunts
    obtain ⟨-, -, leashed⟩ := monsterStep_move _ steps
    rw [home, leash]
    exact leashed hunts
  case harms =>
    intro t member target harmed
    obtain ⟨-, m, found⟩ := life_monster life t member
    have named := monster_named found
    obtain ⟨-, m', left, stays⟩ := update_hunt found (distinct t member)
    obtain ⟨idle, aims, near⟩ := monsterUpdate_players target
      (by rw [named]; exact found) (by rw [named]; exact harmed)
    rw [aim_eq found, attacks_iff found left]
    refine ⟨⟨by rw [idle]; nofun, ?_⟩, aims⟩
    cases stays with
    | busy state due => exact absurd idle state
    | wakes state due => exact absurd idle state
    | stays target state still apart => exact absurd near (apart _ aims)
    | goes nextPos target' state steps =>
        rw [monsterStep, if_neg (not_not.mpr idle), aims] at steps
        dsimp only at steps
        rw [if_pos near] at steps
        cases steps
    | attacks target' state aims' near' => rfl

end Life

def Turn.hunt (t : Turn) : Option MonsterUpdate :=
  match t.kind with
  | .monster id => some ⟨t.routing, t.room, id, t.before⟩
  | _ => none

/-- The turns so far are lives, in rooms whose monsters have different ids. -/
structure Hunting (at_ : Scene × ObjectId) (history : List Turn) : Prop where
  tracked : TrackedIn hunts Turn.hunt at_ history
  distinct : ∀ t ∈ history.filterMap Turn.hunt, (t.before.fields t.room).Distinct

theorem newMonster_hunting (scene : Scene) (r : RoomRef) (m : Monster) (id : RoomRef × ObjectId)
    (v : Monster) (seen : (scene.newMonster r m).hunting id = some v) :
    scene.hunting id = some v ∨ id.2 = m.info.objectId ∧ v = m.conduct := by
  obtain ⟨new, found, rfl⟩ := Option.map_eq_some_iff.mp seen
  unfold Scene.hunting
  by_cases here : id.1 = r
  · rw [here, Scene.newMonster_field, Field.monster, Keyed.find_append] at found
    rw [here]
    rcases Option.or_eq_some_iff.mp found with old | ⟨-, own⟩
    · left
      rw [Field.monster, old]
      rfl
    · right
      split at own
      case isTrue named =>
        cases own
        exact ⟨named.symm, rfl⟩
      case isFalse => cases own
  · left
    have same : (scene.newMonster r m).fields id.1 = scene.fields id.1 :=
      Function.update_of_ne here _ _
    rw [same] at found
    rw [found]
    rfl

theorem setField_hunting (scene : Scene) (r : RoomRef) (field : Field) (id : RoomRef × ObjectId)
    (monsters : field.monsters = (scene.fields r).monsters) :
    (scene.setField r field).hunting id = scene.hunting id := by
  unfold Scene.hunting Field.monster
  rcases setField_cases scene r id.1 field with ⟨here, new⟩ | away
  · rw [new, here, monsters]
  · rw [away]

theorem struck_hunting {scene hit : Scene} {r : RoomRef} {target : Monster}
    (struck : scene.Struck r target hit)
    (found : (scene.fields r).monster target.info.objectId = some target)
    (id : RoomRef × ObjectId) (v : Monster) (seen : hit.hunting id = some v) :
    scene.hunting id = some v := by
  cases struck with
  | spared => exact seen
  | hurt damage => exact (hit_hunting scene r target damage found id).symm.trans seen
  | killed damage =>
      have before := dropMonster_hunting _ r (target.damaged damage) id v seen
      exact (hit_hunting scene r target damage found id).symm.trans before

theorem ArrowTurn.hunting {r : RoomRef} {later : Nat} {scene after : Scene} {fired : Arrow}
    (turn : ArrowTurn r later scene fired after) (distinct : (scene.fields r).Distinct)
    (id : RoomRef × ObjectId) (v : Monster) (seen : after.hunting id = some v) :
    scene.hunting id = some v := by
  have set (a : Arrow) : (scene.setProjectile r a).hunting id = scene.hunting id :=
    setField_hunting scene r _ id rfl
  have kept (a : Arrow) (result : (scene.setProjectile r a).SameGround after) :
      scene.hunting id = some v := by
    rwa [← set a, ← SameGround.hunting result id]
  have dropped (b : Scene) (result : (b.dropArrow r fired.info.objectId).SameGround after) :
      b.hunting id = some v := by
    have same : (b.dropArrow r fired.info.objectId).hunting id = b.hunting id :=
      setField_hunting b r _ id rfl
    rwa [← same, ← SameGround.hunting result id]
  cases turn with
  | waits fresh due stands result => exact kept _ result
  | rests fresh state due stands result => exact kept _ result
  | flies fresh delta state due ahead free alone result => exact kept _ result
  | removed result =>
      rw [← set (arrowStart scene.now fired)]
      exact dropped _ result
  | hits target hit met struck result =>
      rw [← set (arrowStart scene.now fired)]
      apply struck_hunting struck _ id v (dropped hit result)
      unfold Field.monster
      rw [setProjectile_monsters]
      exact distinct.monster target met
  | lost fresh nowhere fault result => exact kept _ result

theorem opened_hunting (scene : Scene) (r : RoomRef) (field : Field) (g : ObjectId)
    (newborn : ∀ m ∈ field.monsters, m.Newborn data) (new : ∀ m ∈ field.monsters, g ≤ m.info.objectId)
    (id : RoomRef × ObjectId) (v : Monster)
    (seen : (scene.setField r field).hunting id = some v) :
    scene.hunting id = some v ∨ Unborn g id ∧ v.info.state = .idle := by
  rcases setField_cases scene r id.1 field with ⟨here, same⟩ | away
  · right
    obtain ⟨m, found, rfl⟩ := Option.map_eq_some_iff.mp seen
    rw [same] at found
    have member := List.mem_of_find?_eq_some found
    have named : m.info.objectId = id.2 := by simpa using List.find?_some found
    obtain ⟨_, _, _, _, _, rfl⟩ := newborn m member
    exact ⟨(new _ member).trans (Nat.le_of_eq named), rfl⟩
  · left
    unfold Scene.hunting at seen ⊢
    rwa [away] at seen

theorem act_hunts (a : Scene × ObjectId) (turns : List Turn) (b : Scene × ObjectId)
    (act : Scene.Act data a turns b) (history : List Turn) (hunting : Hunting a history) :
    Hunting b (history ++ turns) := by
  obtain ⟨tracked, distinct_yet⟩ := hunting
  have quiet (b : Scene × ObjectId) (turns : List Turn) (silent : turns.filterMap Turn.hunt = [])
      (now : a.1.now ≤ b.1.now) (later : a.2 ≤ b.2)
      (kept : ∀ id v, b.1.hunting id = some v →
        a.1.hunting id = some v ∨ Unborn a.2 id ∧ v.info.state = .idle) :
      Hunting b (history ++ turns) := by
    constructor
    case tracked =>
      unfold TrackedIn
      rw [List.filterMap_append, silent]
      exact tracked.quiet [] (fun _ member => absurd member List.not_mem_nil) now
        (fun _ unborn => Nat.le_trans later unborn) kept
    case distinct => rwa [List.filterMap_append, silent, List.append_nil]
  cases act with
  | aside b same later =>
      apply quiet b [] rfl same.now later
      intro id v seen
      exact .inl (SameGround.hunting same id ▸ seen)
  | monster routing r m found known distinct =>
      have turn := monsterUpdate_turn routing r a.1 m distinct found
      constructor
      case tracked =>
        unfold TrackedIn
        rw [List.filterMap_append]
        apply tracked.turn (r, m.info.objectId)
        case named => rfl
        case before => rfl
        case after => rfl
        case present =>
          simp only [hunts, Scene.hunting, Option.isSome_map, found]
          rfl
        case born => exact Nat.not_le_of_lt known
        case begins => exact Nat.le_refl a.1.now
        case passes => exact Nat.le_refl a.1.now
        case ends => exact (monsterTurn_arrows turn).2
        case unborn_yet => exact fun _ unborn => unborn
        case others =>
          intro other apart v seen
          exact (turn.others other apart).symm.trans seen
      case distinct =>
        rw [List.filterMap_append]
        intro t member
        rcases List.mem_append.mp member with old | now
        · exact distinct_yet t old
        · rw [List.mem_singleton.mp now]
          exact distinct
  | arrow routing r fired found known distinct fine =>
      have turn := arrowUpdateBy_turn data routing r a.1.now a.1 fired.info.objectId fired found
        (Nat.le_refl _)
      rw [arrowUpdateBy_now] at turn
      refine quiet _ _ rfl turn.spares.now (Nat.le_refl a.2) ?_
      intro id v seen
      exact .inl (turn.hunting distinct id v seen)
  | hit r m damage found =>
      refine quiet _ [] rfl (Nat.le_refl a.1.now) (Nat.le_refl a.2) ?_
      intro id v seen
      exact .inl ((hit_hunting a.1 r m damage found id).symm.trans seen)
  | removed r m =>
      refine quiet _ [] rfl (Nat.le_refl a.1.now) (Nat.le_refl a.2) ?_
      intro id v seen
      exact .inl (dropMonster_hunting a.1 r m id v seen)
  | born routing r cell aggroRange leashRange templateId =>
      refine quiet _ _ rfl (Nat.le_refl a.1.now) (Nat.le_succ a.2) ?_
      intro id v seen
      rcases newMonster_hunting a.1 r _ id v seen with old | ⟨own, rfl⟩
      · exact .inl old
      · exact .inr ⟨Nat.le_of_eq own.symm, rfl⟩
  | fired routing r arrow named fresh idle =>
      refine quiet _ _ rfl (Nat.le_refl a.1.now) (Nat.le_succ a.2) ?_
      intro id v seen
      refine .inl ((setField_hunting a.1 r _ id ?_).symm.trans seen)
      rfl
  | opened r field g later empty newborn new =>
      refine quiet _ [] rfl (Nat.le_refl a.1.now) later ?_
      exact opened_hunting data a.1 r field a.2 newborn new

/-- A monster that is updated again and again, whatever goes on between, keeps the laws; and
the turns of a monster in a run are such updates. -/
theorem monster_hunt :
    (∀ id turns, hunts.Life id turns → (∀ t ∈ turns, (t.before.fields t.room).Distinct) →
      HuntRules turns) ∧
    ∀ store redisConnected rand events,
      Runs.EveryState (Runs.observed (World.step data) (recordTurns data))
        (fun now => ∀ id, hunts.Life id (hunts.turnsOf id (now.2.filterMap Turn.hunt)) ∧
          HuntRules (hunts.turnsOf id (now.2.filterMap Turn.hunt)))
        (World.init data store redisConnected rand, []) events := by
  constructor
  · exact fun id turns life distinct => hunt_rules life distinct
  · intro store redisConnected rand events
    have every := everyState_acts data Hunting
      (fun scene clear _ => by
        constructor
        case tracked =>
          apply Lives.Stage.Tracked.start
          intro id v seen
          simp [hunts, Scene.hunting, clear, Field.monster, Field.empty] at seen
        case distinct => exact fun _ member => absurd member List.not_mem_nil)
      (act_hunts data) store redisConnected rand events
    apply Runs.everyState_imp _ _ _ _ _ every
    intro now hunting id
    have life := hunting.tracked.lives id
    refine ⟨life, hunt_rules life fun t member => ?_⟩
    exact hunting.distinct t (List.mem_filter.mp member).1

/-- A monster a cell from its home. -/
def oneMonster : Scene :=
  (World.empty smallGame newStore false []).scene.setField 0
    { Field.empty with
      tilemap := (smallRoom .town1).tilemap
      monsters := [{ createMonster smallGame 1 ⟨2, 2⟩ 5 5 1 with homePos := ⟨3, 2⟩ }] }

/-- The monster goes home, and is idle again when its pause is over. -/
def goesHome : List MonsterUpdate :=
  let routing := (World.empty smallGame newStore false []).routing
  let first : MonsterUpdate := ⟨routing, 0, 1, oneMonster⟩
  [first, ⟨routing, 0, 1, { first.after with now := 300 }⟩]

set_option maxRecDepth 20000 in
theorem goes_home : HuntRules goesHome := by
  have moved : goesHome.all (fun t => (t.before.hunting (0, 1)).isSome &&
      decide ((t.before.fields t.room).monsters.map (·.info.objectId)).Nodup) = true := by
    decide +kernel
  have checked (t : MonsterUpdate) (member : t ∈ goesHome) :
      (t.before.hunting (0, 1)).isSome = true ∧ (t.before.fields t.room).Distinct := by
    have both := List.all_eq_true.mp moved t member
    rwa [Bool.and_eq_true, decide_eq_true_eq] at both
  apply (monster_hunt smallGame).1 (0, 1) goesHome
  · constructor
    case named => simp [goesHome, hunts]
    case present => exact fun t member => (checked t member).1
    case passes => exact fun _ _ => Nat.le_refl _
    case starts =>
      rintro t ⟨⟩ v ⟨⟩
      rfl
    case goesOn =>
      rw [goesHome, List.isChain_pair]
      exact ⟨rfl, Nat.zero_le 300⟩
  · exact fun t member => (checked t member).2

end ZeldaServer
