import ZeldaServer.Lib.Dict
import ZeldaServer.World.Updates

/-! The flight of an arrow, from its first `Update` to its end. -/

namespace ZeldaServer

variable (data : GameData)

theorem projectile_setProjectile (scene : Scene) (r : RoomRef) (a old : Arrow)
    (found : (scene.fields r).projectile a.info.objectId = some old) :
    ((scene.setProjectile r a).fields r).projectile a.info.objectId = some a := by
  unfold Scene.setProjectile Scene.setField Field.projectile
  dsimp only
  rw [Function.update_self]
  apply (Keyed.find_replace (·.info.objectId) (scene.fields r).projectiles a _).trans
  unfold Field.projectile at found
  rw [if_pos rfl, found]
  rfl

theorem projectile_setProjectile_other (scene : Scene) (r : RoomRef) (a : Arrow) (id : ObjectId)
    (other : id ≠ a.info.objectId) :
    ((scene.setProjectile r a).fields r).projectile id = (scene.fields r).projectile id := by
  unfold Scene.setProjectile Scene.setField Field.projectile
  dsimp only
  rw [Function.update_self]
  apply (Keyed.find_replace (·.info.objectId) (scene.fields r).projectiles a id).trans
  exact if_neg other

theorem projectile_dropArrow (scene : Scene) (r : RoomRef) (gone id : ObjectId) :
    ((scene.dropArrow r gone).fields r).projectile id =
      if id = gone then none else (scene.fields r).projectile id := by
  rw [Scene.dropArrow_field]
  exact Keyed.find_drop (·.info.objectId) (scene.fields r).projectiles gone id

/-- What becomes of the arrow in one `Update`. -/
inductive ArrowCourse (r : RoomRef) (later : Nat) (scene : Scene) (fired : Arrow) :
    Option Arrow → Prop where
  | waits (fresh : scene.now < (arrowStart scene.now fired).expireTick)
      (due : later < (arrowStart scene.now fired).waitUntil)
      (stands : fired.spawned = true ∨ isBlockedByWall scene r fired.info.cellPos = false) :
      ArrowCourse r later scene fired (some (arrowStart scene.now fired))
  | rests (fresh : scene.now < (arrowStart scene.now fired).expireTick)
      (state : fired.info.state ≠ .idle)
      (due : fired.info.state = .move → (arrowStart scene.now fired).waitUntil ≤ later)
      (stands : fired.spawned = true ∨ isBlockedByWall scene r fired.info.cellPos = false) :
      ArrowCourse r later scene fired (some (arrowStart scene.now fired).rested)
  | flies (fresh : scene.now < (arrowStart scene.now fired).expireTick) (delta : Vec2Int)
      (state : fired.info.state = .idle) (due : (arrowStart scene.now fired).waitUntil ≤ later)
      (ahead : deltaXY fired.info.dir = some delta)
      (free : isBlockedByWall scene r (fired.info.cellPos + delta) = false)
      (alone : monsterAt scene r (fired.info.cellPos + delta) = none) :
      ArrowCourse r later scene fired (some ((arrowStart scene.now fired).flown later delta))
  | gone : ArrowCourse r later scene fired none
  | lost (fresh : scene.now < (arrowStart scene.now fired).expireTick)
      (nowhere : deltaXY fired.info.dir = none) :
      ArrowCourse r later scene fired (some (arrowStart scene.now fired))

theorem struck_keeps {a hit : Scene} {r : RoomRef} {target : Monster}
    (struck : a.Struck r target hit) :
    (∀ r', (hit.fields r').projectiles = (a.fields r').projectiles ∧
      (hit.fields r').tilemap = (a.fields r').tilemap) ∧ hit.now = a.now ∧
      ∀ m ∈ (a.fields r).monsters, m.info.objectId ≠ target.info.objectId →
        m ∈ (hit.fields r).monsters := by
  have set (m : Monster) (r' : RoomRef) :
      ((a.setMonster r m).fields r').projectiles = (a.fields r').projectiles ∧
        ((a.setMonster r m).fields r').tilemap = (a.fields r').tilemap := by
    by_cases here : r' = r
    · subst here
      simp [Scene.setMonster, Scene.setField]
    · rw [setMonster_others a r r' m here]
      exact ⟨rfl, rfl⟩
  have stays (damage : Int) (m : Monster) (member : m ∈ (a.fields r).monsters)
      (other : m.info.objectId ≠ target.info.objectId) :
      m ∈ ((a.setMonster r (target.damaged damage)).fields r).monsters := by
    have named := (onDamaged_keeps target.info damage).1
    simp only [Scene.setMonster, Scene.setField, Function.update_self, List.mem_map]
    exact ⟨m, member, if_neg fun same => other (same.trans named)⟩
  cases struck with
  | spared => exact ⟨fun _ => ⟨rfl, rfl⟩, rfl, fun _ member _ => member⟩
  | hurt damage => exact ⟨set _, rfl, stays damage⟩
  | killed damage =>
      refine ⟨fun r' => ?_, rfl, fun m member other => ?_⟩
      · by_cases here : r' = r
        · subst here
          obtain ⟨-, projectiles, tilemap, -⟩ := dropMonster_field
            (a.setMonster r' (target.damaged damage)) r' (target.damaged damage)
          rw [projectiles, tilemap]
          exact set _ r'
        · rw [dropMonster_others _ r r' _ here]
          exact set _ r'
      · rw [(dropMonster_field (a.setMonster r (target.damaged damage)) r _).1, List.mem_filter]
        refine ⟨stays damage m member other, decide_eq_true ?_⟩
        have named := (onDamaged_keeps target.info damage).1
        exact fun same => other (same.trans named)

/-- Time may go by, and nothing happens to the other arrows and to the maps. -/
structure Scene.Spares (r : RoomRef) (id : ObjectId) (a b : Scene) : Prop where
  now : a.now ≤ b.now
  tilemap : ∀ r', (b.fields r').tilemap = (a.fields r').tilemap
  others : ∀ r' other, (r', other) ≠ (r, id) →
    (b.fields r').projectile other = (a.fields r').projectile other

namespace Scene.Spares

variable {r : RoomRef} {id : ObjectId} {a b c : Scene}

theorem trans (first : a.Spares r id b) (second : b.Spares r id c) : a.Spares r id c where
  now := first.now.trans second.now
  tilemap := fun r' => (second.tilemap r').trans (first.tilemap r')
  others := fun r' other apart => (second.others r' other apart).trans (first.others r' other apart)

theorem same (ground : a.SameGround b) : a.Spares r id b where
  now := ground.now
  tilemap := ground.tilemap
  others := fun r' other _ => by
    unfold Field.projectile
    rw [ground.projectiles]

theorem setField (a : Scene) (r : RoomRef) (field : Field)
    (tilemap : field.tilemap = (a.fields r).tilemap)
    (others : ∀ other, other ≠ id → field.projectile other = (a.fields r).projectile other) :
    a.Spares r id (a.setField r field) where
  now := Nat.le_refl _
  tilemap := by
    intro r'
    rcases setField_cases a r r' field with ⟨rfl, here⟩ | away
    · rw [here, tilemap]
    · rw [away]
  others := by
    intro r' other apart
    rcases setField_cases a r r' field with ⟨rfl, here⟩ | away
    · rw [here]
      exact others other fun same => apart (by rw [same])
    · rw [away]

theorem setProjectile (a : Scene) (r : RoomRef) (arrow : Arrow) :
    a.Spares r arrow.info.objectId (a.setProjectile r arrow) := by
  apply setField
  case tilemap => rfl
  case others =>
    intro other apart
    have kept := projectile_setProjectile_other a r arrow other apart
    simpa only [Scene.setProjectile, Scene.setField, Function.update_self] using kept

theorem dropArrow (a : Scene) (r : RoomRef) (id : ObjectId) :
    a.Spares r id (a.dropArrow r id) := by
  apply setField
  case tilemap => rfl
  case others =>
    intro other apart
    have kept := projectile_dropArrow a r id other
    rw [if_neg apart] at kept
    simpa only [Scene.dropArrow, Scene.setField, Function.update_self] using kept

end Scene.Spares

namespace ArrowTurn

variable {r : RoomRef} {later : Nat} {scene after : Scene} {fired : Arrow}

theorem course (turn : ArrowTurn r later scene fired after)
    (found : (scene.fields r).projectile fired.info.objectId = some fired) :
    ArrowCourse r later scene fired ((after.fields r).projectile fired.info.objectId) := by
  have info := (arrowStart_keeps scene.now fired).1
  have seen (a : Arrow) (named : a.info.objectId = fired.info.objectId) {b : Scene}
      (result : (scene.setProjectile r a).SameGround b) :
      (b.fields r).projectile fired.info.objectId = some a := by
    have set := projectile_setProjectile scene r a fired (by rw [named]; exact found)
    rw [named] at set
    unfold Field.projectile at set ⊢
    rwa [result.projectiles]
  have unseen {a b : Scene} (result : (a.dropArrow r fired.info.objectId).SameGround b) :
      (b.fields r).projectile fired.info.objectId = none := by
    have none := projectile_dropArrow a r fired.info.objectId fired.info.objectId
    rw [if_pos rfl] at none
    unfold Field.projectile at none ⊢
    rwa [result.projectiles]
  cases turn with
  | waits fresh due stands result =>
      rw [seen _ (by rw [info]) result]
      exact .waits fresh due stands
  | rests fresh state due stands result =>
      rw [seen _ (by simp only [Arrow.rested, info]) result]
      exact .rests fresh state due stands
  | flies fresh delta state due ahead free alone result =>
      rw [seen _ (by simp only [Arrow.flown, ObjectInfo.setCellPos, info]) result]
      exact .flies fresh delta state due ahead free alone
  | removed result =>
      rw [unseen result]
      exact .gone
  | hits target hit met struck result =>
      rw [unseen result]
      exact .gone
  | lost fresh nowhere fault result =>
      rw [seen _ (by rw [info]) result]
      exact .lost fresh nowhere

theorem spares (turn : ArrowTurn r later scene fired after) :
    scene.Spares r fired.info.objectId after := by
  have info := (arrowStart_keeps scene.now fired).1
  have set (a : Arrow) (named : a.info.objectId = fired.info.objectId) :
      scene.Spares r fired.info.objectId (scene.setProjectile r a) := by
    rw [← named]
    exact .setProjectile scene r a
  have start := set (arrowStart scene.now fired) (by rw [info])
  cases turn with
  | waits fresh due stands result => exact start.trans (.same result)
  | rests fresh state due stands result =>
      exact (set _ (by simp only [Arrow.rested, info])).trans (.same result)
  | flies fresh delta state due ahead free alone result =>
      exact (set _ (by simp only [Arrow.flown, ObjectInfo.setCellPos, info])).trans (.same result)
  | removed result => exact (start.trans (.dropArrow _ r _)).trans (.same result)
  | hits target hit met struck result =>
      obtain ⟨kept, now, -⟩ := struck_keeps struck
      have hurt : (scene.setProjectile r (arrowStart scene.now fired)).Spares r
          fired.info.objectId hit := by
        refine ⟨Nat.le_of_eq now.symm, fun r' => (kept r').2, fun r' id _ => ?_⟩
        unfold Field.projectile
        rw [(kept r').1]
      exact ((start.trans hurt).trans (.dropArrow _ r _)).trans (.same result)
  | lost fresh nowhere fault result => exact start.trans (.same result)

theorem harms (turn : ArrowTurn r later scene fired after) :
    (∀ m ∈ (scene.fields r).monsters, m ∈ (after.fields r).monsters) ∨
      (after.fields r).projectile fired.info.objectId = none ∧
        ∃ target : Monster, ∀ m ∈ (scene.fields r).monsters,
          m.info.objectId ≠ target.info.objectId → m ∈ (after.fields r).monsters := by
  have kept {a : Arrow} {b : Scene} (result : (scene.setProjectile r a).SameGround b) :
      ∀ m ∈ (scene.fields r).monsters, m ∈ (b.fields r).monsters := by
    rw [result.monsters, setProjectile_monsters]
    exact fun _ member => member
  cases turn with
  | waits fresh due stands result => exact .inl (kept result)
  | rests fresh state due stands result => exact .inl (kept result)
  | flies fresh delta state due ahead free alone result => exact .inl (kept result)
  | removed result =>
      left
      rw [result.monsters, Scene.dropArrow_field, setProjectile_monsters]
      exact fun _ member => member
  | hits target hit met struck result =>
      right
      constructor
      · have none := projectile_dropArrow hit r fired.info.objectId fired.info.objectId
        rw [if_pos rfl] at none
        unfold Field.projectile at none ⊢
        rwa [result.projectiles]
      · refine ⟨target, fun m member other => ?_⟩
        rw [result.monsters, Scene.dropArrow_field]
        apply (struck_keeps struck).2.2 m _ other
        rwa [setProjectile_monsters]
  | lost fresh nowhere fault result => exact .inl (kept result)

end ArrowTurn

/-- A call of `Arrow::Update`; the clock may go on before it is read for the second time. -/
structure ArrowUpdate where
  routing : Routing
  room : RoomRef
  id : ObjectId
  before : Scene
  later : Nat

namespace ArrowUpdate

def after (t : ArrowUpdate) : Scene := arrowUpdateBy data t.routing t.room t.later t.before t.id

def moves (t : ArrowUpdate) : Bool :=
  match (t.before.fields t.room).projectile t.id, ((t.after data).fields t.room).projectile t.id with
  | some a, some a' => a'.info.cellPos ≠ a.info.cellPos
  | _, _ => false

def harmed (t : ArrowUpdate) : List Monster :=
  (t.before.fields t.room).monsters.filter (· ∉ ((t.after data).fields t.room).monsters)

end ArrowUpdate

def Scene.flying (scene : Scene) (id : RoomRef × ObjectId) : Option (Tilemap × Arrow) :=
  ((scene.fields id.1).projectile id.2).map fun a => ((scene.fields id.1).tilemap, a)

def flights : Lives.Stage (RoomRef × ObjectId) Scene (Tilemap × Arrow) ArrowUpdate where
  view := Scene.flying
  clock := (·.now)
  who := fun t => some (t.room, t.id)
  before := (·.before)
  after := ArrowUpdate.after data
  begins := (·.before.now)
  ends := (·.later)
  newborn := fun v => v.2.spawned = false ∧ v.2.info.state = .idle

/-- The laws of a flight by steps of `delta`. -/
structure FlightRules (delta : Vec2Int) (turns : List ArrowUpdate) : Prop where
  inside : ∀ t ∈ turns, ∀ a, ((t.after data).fields t.room).projectile t.id = some a →
    isBlockedByWall (t.after data) t.room a.info.cellPos = false
  straight : ∀ t ∈ turns, ∀ a a', (t.before.fields t.room).projectile t.id = some a →
    ((t.after data).fields t.room).projectile t.id = some a' →
    a'.info.cellPos = a.info.cellPos ∨ a'.info.cellPos = a.info.cellPos + delta
  pace : turns.Pairwise fun t t' =>
    t.moves data = true → t'.moves data = true → t.later + 80 ≤ t'.later
  one_hit : (turns.filter fun t => t.harmed data ≠ []).length ≤ 1
  one_monster : ∀ t ∈ turns, ∀ m ∈ t.harmed data, ∀ m' ∈ t.harmed data,
    m.info.objectId = m'.info.objectId
  ends : ∀ first ∈ turns.head?, ∀ t ∈ turns, first.before.now + 1500 ≤ t.before.now →
    ((t.after data).fields t.room).projectile t.id = none
  range : (turns.filter fun t => t.moves data).length ≤ 19

def Tilemap.isWall (tilemap : Tilemap) (pos : Vec2Int) : Bool :=
  match tilemap.getTileAt pos with
  | none => true
  | some tile => tile = 1

/-- An arrow after its first `Update`, which was at `start`. -/
structure Aloft (dir : Dir) (start : Nat) (v : Tilemap × Arrow) : Prop where
  dir : v.2.info.dir = dir
  spawned : v.2.spawned = true
  expires : v.2.expireTick = start + lifeTimeMs
  inside : v.1.isWall v.2.info.cellPos = false

/-- What the next cell change waits for after one at `moved`. -/
def Paused (moved : Nat) (v : Tilemap × Arrow) (now : Nat) : Prop :=
  moved + moveIntervalMs ≤ now ∨
    v.2.spawned = true ∧ v.2.info.state = .move ∧ moved + moveIntervalMs ≤ v.2.waitUntil

section Flight

variable {data} {t : ArrowUpdate} {fired : Arrow}

variable (data) in
theorem update_turn (found : (t.before.fields t.room).projectile t.id = some fired)
    (onward : t.before.now ≤ t.later) :
    ArrowTurn t.room t.later t.before fired (t.after data) ∧ fired.info.objectId = t.id :=
  ⟨arrowUpdateBy_turn data t.routing t.room t.later t.before t.id fired found onward,
    by simpa using List.find?_some found⟩

variable (data) in
theorem update_course (found : (t.before.fields t.room).projectile t.id = some fired)
    (onward : t.before.now ≤ t.later) :
    ArrowCourse t.room t.later t.before fired (((t.after data).fields t.room).projectile t.id) ∧
      ((t.after data).fields t.room).tilemap = (t.before.fields t.room).tilemap := by
  obtain ⟨turn, named⟩ := update_turn data found onward
  have course := turn.course (by rw [named]; exact found)
  rw [named] at course
  exact ⟨course, turn.spares.tilemap t.room⟩

theorem arrowStart_marks (now : Nat) (a : Arrow) : (arrowStart now a).spawned = true := by
  unfold arrowStart
  split
  case isTrue spawned => exact spawned
  case isFalse => rfl

theorem arrowStart_spawned (now : Nat) (a : Arrow) (spawned : a.spawned = true) :
    arrowStart now a = a := if_pos spawned

theorem aloft_start {dir : Dir} {delta : Vec2Int} {a : Arrow} (tilemap : Tilemap)
    (course : ArrowCourse t.room t.later t.before fired (some a))
    (same : tilemap = (t.before.fields t.room).tilemap) (onward : t.before.now ≤ t.later)
    (ahead : deltaXY dir = some delta) (aims : fired.info.dir = dir)
    (newborn : fired.spawned = false ∧ fired.info.state = .idle) :
    Aloft dir t.before.now (tilemap, a) := by
  obtain ⟨unspawned, idle⟩ := newborn
  have start : arrowStart t.before.now fired =
      { fired with
        spawned := true
        expireTick := t.before.now + lifeTimeMs
        waitUntil := t.before.now } := by simp [arrowStart, unspawned]
  cases course with
  | waits fresh due stands =>
      rw [start] at due
      exact absurd onward (Nat.not_le_of_lt due)
  | rests fresh state due stands => exact absurd idle state
  | flies fresh' delta' state due ahead' free alone =>
      rw [start]
      exact ⟨aims, rfl, rfl, same ▸ free⟩
  | lost fresh nowhere =>
      rw [aims, ahead] at nowhere
      cases nowhere

theorem aloft_kept {dir : Dir} {start : Nat} {a : Arrow} (tilemap : Tilemap)
    (course : ArrowCourse t.room t.later t.before fired (some a))
    (same : tilemap = (t.before.fields t.room).tilemap)
    (aloft : Aloft dir start ((t.before.fields t.room).tilemap, fired)) :
    Aloft dir start (tilemap, a) := by
  obtain ⟨looks, spawned, expires, inside⟩ := aloft
  have started := arrowStart_spawned t.before.now fired spawned
  cases course with
  | waits fresh due stands =>
      rw [started]
      exact ⟨looks, spawned, expires, same ▸ inside⟩
  | rests fresh state due stands =>
      rw [started]
      exact ⟨looks, spawned, expires, same ▸ inside⟩
  | flies fresh delta state due ahead free alone =>
      rw [started]
      exact ⟨looks, spawned, expires, same ▸ free⟩
  | lost fresh nowhere =>
      rw [started]
      exact ⟨looks, spawned, expires, same ▸ inside⟩

theorem moved_flies {a : Arrow} (course : ArrowCourse t.room t.later t.before fired (some a))
    (moved : a.info.cellPos ≠ fired.info.cellPos) :
    fired.info.state = .idle ∧ (arrowStart t.before.now fired).waitUntil ≤ t.later ∧
      t.before.now < (arrowStart t.before.now fired).expireTick ∧
      ∃ delta, deltaXY fired.info.dir = some delta ∧
        a = (arrowStart t.before.now fired).flown t.later delta := by
  have info := (arrowStart_keeps t.before.now fired).1
  cases course with
  | waits fresh due stands => exact absurd (by rw [info]) moved
  | rests fresh state due stands => exact absurd (by simp only [Arrow.rested, info]; rfl) moved
  | flies fresh delta state due ahead free alone => exact ⟨state, due, fresh, delta, ahead, rfl⟩
  | lost fresh nowhere => exact absurd (by rw [info]) moved

theorem course_cells {a : Arrow} (course : ArrowCourse t.room t.later t.before fired (some a)) :
    a.info.dir = fired.info.dir ∧ (a.info.cellPos = fired.info.cellPos ∨
      ∃ delta, deltaXY fired.info.dir = some delta ∧
        a.info.cellPos = fired.info.cellPos + delta) := by
  have info := (arrowStart_keeps t.before.now fired).1
  cases course with
  | waits fresh due stands => exact ⟨by rw [info], .inl (by rw [info])⟩
  | rests fresh state due stands =>
      exact ⟨by simp only [Arrow.rested, info], .inl (by simp only [Arrow.rested, info]; rfl)⟩
  | flies fresh delta state due ahead free alone =>
      refine ⟨by simp only [Arrow.flown, ObjectInfo.setCellPos, info], .inr ⟨delta, ahead, ?_⟩⟩
      simp only [Arrow.flown, ObjectInfo.setCellPos, ObjectInfo.cellPos, info]
  | lost fresh nowhere => exact ⟨by rw [info], .inl (by rw [info])⟩

theorem paused_kept {moved : Nat} {a : Arrow} (tilemap tilemap' : Tilemap)
    (course : ArrowCourse t.room t.later t.before fired (some a)) (onward : t.before.now ≤ t.later)
    (paused : Paused moved (tilemap, fired) t.before.now) : Paused moved (tilemap', a) t.later := by
  rcases paused with ended | ⟨spawned, state, wait⟩
  · exact .inl (ended.trans onward)
  · have started := arrowStart_spawned t.before.now fired spawned
    cases course with
    | waits fresh due stands =>
        rw [started]
        exact .inr ⟨spawned, state, wait⟩
    | rests fresh awake due stands =>
        rw [started] at due
        exact .inl (wait.trans (due state))
    | flies fresh delta idle due ahead free alone =>
        rw [idle] at state
        cases state
    | lost fresh nowhere =>
        rw [started]
        exact .inr ⟨spawned, state, wait⟩

theorem course_fresh {a : Arrow} (course : ArrowCourse t.room t.later t.before fired (some a)) :
    t.before.now < (arrowStart t.before.now fired).expireTick := by
  cases course <;> assumption

theorem harmed_nil {a : Arrow} (found : (t.before.fields t.room).projectile t.id = some fired)
    (onward : t.before.now ≤ t.later)
    (stays : ((t.after data).fields t.room).projectile t.id = some a) : t.harmed data = [] := by
  obtain ⟨turn, named⟩ := update_turn data found onward
  rcases turn.harms with kept | ⟨gone, -⟩
  · apply List.filter_eq_nil_iff.mpr
    intro m member lost
    exact of_decide_eq_true lost (kept m member)
  · rw [named, stays] at gone
    cases gone

theorem harmed_same (found : (t.before.fields t.room).projectile t.id = some fired)
    (onward : t.before.now ≤ t.later) :
    ∀ m ∈ t.harmed data, ∀ m' ∈ t.harmed data, m.info.objectId = m'.info.objectId := by
  obtain ⟨turn, -⟩ := update_turn data found onward
  rcases turn.harms with kept | ⟨-, target, others⟩
  · intro m lost
    obtain ⟨member, lost⟩ := List.mem_filter.mp lost
    exact absurd (kept m member) (of_decide_eq_true lost)
  · have hit (m : Monster) (lost : m ∈ t.harmed data) :
        m.info.objectId = target.info.objectId := by
      obtain ⟨member, lost⟩ := List.mem_filter.mp lost
      by_contra other
      exact of_decide_eq_true lost (others m member other)
    exact fun m lost m' lost' => (hit m lost).trans (hit m' lost').symm

end Flight

theorem filter_length_le_one {Item : Type} (taken : Item → Bool) (items : List Item)
    (refused : items.Pairwise fun item _ => taken item = false) :
    (items.filter taken).length ≤ 1 := by
  induction items with
  | nil => exact Nat.zero_le 1
  | cons item items ih =>
      obtain ⟨later, rest⟩ := List.pairwise_cons.mp refused
      cases items with
      | nil => exact List.length_filter_le taken [item]
      | cons next others =>
          rw [List.filter_cons_of_neg (by simp [later next List.mem_cons_self])]
          exact ih rest

section Life

variable {data} {id : RoomRef × ObjectId} {turns : List ArrowUpdate}

theorem life_arrow (life : (flights data).Life id turns) (t : ArrowUpdate) (member : t ∈ turns) :
    (t.room, t.id) = id ∧ t.before.now ≤ t.later ∧
      ∃ fired, (t.before.fields t.room).projectile t.id = some fired := by
  have named : (t.room, t.id) = id := Option.some.inj (life.named t member)
  refine ⟨named, life.passes t member, ?_⟩
  have present := life.present t member
  rw [← named] at present
  simp only [flights, Scene.flying, Option.isSome_map] at present
  exact Option.isSome_iff_exists.mp present

theorem flying_some {scene : Scene} {v : Tilemap × Arrow} (seen : scene.flying id = some v) :
    (scene.fields id.1).projectile id.2 = some v.2 ∧ (scene.fields id.1).tilemap = v.1 := by
  obtain ⟨a, found, rfl⟩ := Option.map_eq_some_iff.mp seen
  exact ⟨found, rfl⟩

theorem flying_of_some {scene : Scene} {a : Arrow}
    (found : (scene.fields id.1).projectile id.2 = some a) :
    scene.flying id = some ((scene.fields id.1).tilemap, a) := by
  rw [Scene.flying, found]
  rfl

theorem goes_update {t : ArrowUpdate} {v v' : Tilemap × Arrow}
    (goes : (flights data).Goes id t v v') :
    (t.room, t.id) = id ∧ (t.before.fields t.room).projectile t.id = some v.2 ∧
      ((t.after data).fields t.room).projectile t.id = some v'.2 ∧ t.before.now ≤ t.later ∧
      v = ((t.before.fields t.room).tilemap, v.2) ∧
      v' = (((t.after data).fields t.room).tilemap, v'.2) := by
  obtain ⟨named, before, after, passes⟩ := goes
  have own : (t.room, t.id) = id := Option.some.inj named
  subst own
  obtain ⟨found, map⟩ := flying_some before
  obtain ⟨stays, map'⟩ := flying_some after
  exact ⟨rfl, found, stays, passes, Prod.ext map.symm rfl, Prod.ext map'.symm rfl⟩

theorem life_aloft {dir : Dir} {delta : Vec2Int} (ahead : deltaXY dir = some delta)
    (life : (flights data).Life id turns)
    (aims : ∀ first ∈ turns.head?, ∀ v, first.before.flying id = some v → v.2.info.dir = dir) :
    ∀ first ∈ turns.head?, ∀ t ∈ turns, ∃ v, t.before.flying id = some v ∧
      (Aloft dir first.before.now v ∨
        t = first ∧ v.2.info.dir = dir ∧ v.2.spawned = false ∧ v.2.info.state = .idle) := by
  cases turns with
  | nil => exact fun _ member => by cases member
  | cons first rest =>
      rintro _ ⟨⟩
      obtain ⟨own, names⟩ := List.forall_mem_cons.mp life.named
      obtain ⟨seen, presents⟩ := List.forall_mem_cons.mp life.present
      obtain ⟨onward, onwards⟩ := List.forall_mem_cons.mp life.passes
      obtain ⟨now, seen⟩ := Option.isSome_iff_exists.mp seen
      have newborn := life.starts first rfl now seen
      have looks := aims first rfl now seen
      have kept (t : ArrowUpdate) (_ : t ∈ rest) (v v' : Tilemap × Arrow) (goes : (flights data).Goes id t v v')
          (aloft : Aloft dir first.before.now v) : Aloft dir first.before.now v' := by
        obtain ⟨-, found, stays, passes, here, there⟩ := goes_update goes
        obtain ⟨course, map⟩ := update_course data found passes
        rw [stays] at course
        rw [here] at aloft
        rw [there]
        exact aloft_kept _ course map aloft
      have given (v : Tilemap × Arrow) (leaves : (flights data).view ((flights data).after first) id = some v) :
          Aloft dir first.before.now v := by
        obtain ⟨-, found, stays, passes, -, there⟩ := goes_update ⟨own, seen, leaves, onward⟩
        obtain ⟨course, map⟩ := update_course data found passes
        rw [stays] at course
        rw [there]
        exact aloft_start _ course map passes ahead looks newborn
      intro t member
      rcases List.mem_cons.mp member with rfl | later
      · exact ⟨now, seen, .inr ⟨rfl, looks, newborn⟩⟩
      · obtain ⟨v, goes, aloft⟩ := Lives.Stage.promised id
          (fun v _ => Aloft dir first.before.now v) first rest life.goesOn names presents onwards
          (fun _ _ _ _ aloft => aloft) kept given t later
        exact ⟨v, goes, .inl aloft⟩

theorem moves_some {t : ArrowUpdate} {fired : Arrow}
    (found : (t.before.fields t.room).projectile t.id = some fired) (moved : t.moves data = true) :
    ∃ a, ((t.after data).fields t.room).projectile t.id = some a ∧
      a.info.cellPos ≠ fired.info.cellPos := by
  unfold ArrowUpdate.moves at moved
  rw [found] at moved
  cases stays : ((t.after data).fields t.room).projectile t.id with
  | none =>
      rw [stays] at moved
      cases moved
  | some a =>
      rw [stays] at moved
      exact ⟨a, rfl, of_decide_eq_true moved⟩

theorem life_paced (life : (flights data).Life id turns) :
    turns.Pairwise fun t t' =>
      t.moves data = true → t'.moves data = true → t.later + moveIntervalMs ≤ t'.before.now := by
  apply life.pairwise _ fun first v now => first.moves data = true → Paused first.later v now
  case made =>
    intro t _ v v' goes moved
    obtain ⟨-, found, stays, passes, -, there⟩ := goes_update goes
    obtain ⟨course, -⟩ := update_course data found passes
    rw [stays] at course
    rw [ArrowUpdate.moves, found, stays] at moved
    obtain ⟨-, -, -, delta, -, flown⟩ := moved_flies course (of_decide_eq_true moved)
    right
    rw [flown]
    exact ⟨arrowStart_marks _ _, rfl, Nat.le_refl _⟩
  case lasts =>
    intro first v now later passes paused moved
    rcases paused moved with ended | resting
    · exact .inl (ended.trans passes)
    · exact .inr resting
  case kept =>
    intro first t _ v v' goes paused moved
    obtain ⟨-, found, stays, passes, here, there⟩ := goes_update goes
    obtain ⟨course, -⟩ := update_course data found passes
    rw [stays] at course
    rw [there]
    have resting := paused moved
    rw [here] at resting
    exact paused_kept _ _ course passes resting
  case pays =>
    intro first t _ v named seen passes paused moved again
    have own : (t.room, t.id) = id := Option.some.inj named
    subst own
    obtain ⟨found, -⟩ := flying_some seen
    obtain ⟨a, stays, away⟩ := moves_some found again
    obtain ⟨course, -⟩ := update_course data found passes
    rw [stays] at course
    obtain ⟨idle, -⟩ := moved_flies course away
    rcases paused moved with ended | ⟨-, state, -⟩
    · exact ended
    · rw [idle] at state
      cases state

theorem life_harmless (life : (flights data).Life id turns) :
    turns.Pairwise fun t _ => t.harmed data = [] := by
  apply life.pairwise _ fun first _ _ => first.harmed data = []
  case made =>
    intro t _ v v' goes
    obtain ⟨-, found, stays, passes, -⟩ := goes_update goes
    exact harmed_nil found passes stays
  case lasts => exact fun _ _ _ _ _ harmless => harmless
  case kept => exact fun _ _ _ _ _ _ harmless => harmless
  case pays => exact fun _ _ _ _ _ _ _ harmless => harmless

theorem life_dir (life : (flights data).Life id turns) :
    ∀ first ∈ turns.head?, ∀ last ∈ turns, ∀ v v', first.before.flying id = some v →
      (last.after data).flying id = some v' → v'.2.info.dir = v.2.info.dir := by
  intro first head last member v v' seen leaves
  have onward (t : ArrowUpdate) (a b : Tilemap × Arrow) (goes : (flights data).Goes id t a b) :
      b.2.info.dir = a.2.info.dir := by
    obtain ⟨-, found, stays, passes, -⟩ := goes_update goes
    obtain ⟨course, -⟩ := update_course data found passes
    rw [stays] at course
    exact (course_cells course).1
  obtain ⟨now, stands, same⟩ := life.throughout (fun (a : Tilemap × Arrow) _ => a.2.info.dir = v.2.info.dir)
    (fun _ _ _ _ same => same) (fun t _ a b goes same => (onward t a b goes).trans same)
    (fun t head' a stands _ => by
      obtain rfl : first = t := Option.some.inj (head.symm.trans head')
      obtain rfl : v = a := Option.some.inj (seen.symm.trans stands)
      rfl) last member
  exact (onward last now v' ⟨life.named last member, stands, leaves, life.passes last member⟩).trans
    same

theorem life_stage {dir : Dir} {delta : Vec2Int} (ahead : deltaXY dir = some delta)
    (life : (flights data).Life id turns)
    (aims : ∀ first ∈ turns.head?, ∀ v, first.before.flying id = some v → v.2.info.dir = dir) :
    ∀ t ∈ turns, ∃ first ∈ turns.head?, ∃ fired,
      (t.before.fields t.room).projectile t.id = some fired ∧ fired.info.dir = dir ∧
        (arrowStart t.before.now fired).expireTick = first.before.now + lifeTimeMs ∧
        ArrowCourse t.room t.later t.before fired
          (((t.after data).fields t.room).projectile t.id) ∧
        ∀ a, ((t.after data).fields t.room).projectile t.id = some a →
          isBlockedByWall (t.after data) t.room a.info.cellPos = false := by
  intro t member
  obtain ⟨named, passes, fired, found⟩ := life_arrow life t member
  obtain ⟨course, map⟩ := update_course data found passes
  have head : ∃ first, first ∈ turns.head? := by
    cases turns with
    | nil => cases member
    | cons first rest => exact ⟨first, rfl⟩
  obtain ⟨first, head⟩ := head
  obtain ⟨v, seen, aloft⟩ := life_aloft ahead life aims first head t member
  subst named
  obtain ⟨found', here⟩ := flying_some seen
  obtain rfl : fired = v.2 := Option.some.inj (found.symm.trans found')
  have here : v = ((t.before.fields t.room).tilemap, v.2) := Prod.ext here.symm rfl
  refine ⟨first, head, v.2, found, ?_⟩
  rcases aloft with aloft | ⟨rfl, looks, newborn⟩
  · rw [here] at aloft
    refine ⟨aloft.dir, ?_, course, fun a stays => ?_⟩
    · rw [arrowStart_spawned _ _ aloft.spawned]
      exact aloft.expires
    · rw [stays] at course
      exact (aloft_kept _ course map aloft).inside
  · refine ⟨looks, ?_, course, fun a stays => ?_⟩
    · simp [arrowStart, newborn.1]
    · rw [stays] at course
      exact (aloft_start _ course map passes ahead looks newborn).inside

theorem flight_rules {dir : Dir} {delta : Vec2Int} (ahead : deltaXY dir = some delta)
    (life : (flights data).Life id turns)
    (aims : ∀ first ∈ turns.head?, ∀ v, first.before.flying id = some v → v.2.info.dir = dir) :
    FlightRules data delta turns := by
  have paced := life_paced life
  have stage := life_stage ahead life aims
  constructor
  case inside =>
    intro t member a stays
    obtain ⟨-, -, -, -, -, -, -, inside⟩ := stage t member
    exact inside a stays
  case straight =>
    intro t member a a' found stays
    obtain ⟨-, -, fired, found', looks, -, course, -⟩ := stage t member
    obtain rfl : fired = a := Option.some.inj (found'.symm.trans found)
    rw [stays] at course
    rcases (course_cells course).2 with same | ⟨delta', ahead', next⟩
    · exact .inl same
    · rw [looks, ahead] at ahead'
      exact .inr (Option.some.inj ahead' ▸ next)
  case pace =>
    apply List.Pairwise.imp_of_mem _ paced
    intro t t' _ member' spaced moved moved'
    exact (spaced moved moved').trans (life.passes t' member')
  case one_hit =>
    apply filter_length_le_one
    apply (life_harmless life).imp
    exact fun harmless => decide_eq_false (not_not.mpr harmless)
  case one_monster =>
    intro t member
    obtain ⟨-, passes, fired, found⟩ := life_arrow life t member
    exact harmed_same found passes
  case ends =>
    intro first head t member late
    obtain ⟨first', head', fired, -, -, expires, course, -⟩ := stage t member
    obtain rfl : first = first' := Option.some.inj (head.symm.trans head')
    cases stays : ((t.after data).fields t.room).projectile t.id with
    | none => rfl
    | some a =>
        rw [stays] at course
        have fresh := course_fresh course
        rw [expires] at fresh
        exact absurd late (Nat.not_le_of_lt fresh)
  case range =>
    have spaced : ((turns.filter fun t => t.moves data).map (·.before.now)).Pairwise
        fun first second => first + moveIntervalMs ≤ second := by
      apply List.pairwise_map.mpr
      apply List.Pairwise.imp_of_mem _ (paced.sublist List.filter_sublist)
      intro t t' member member' apart
      obtain ⟨member, moved⟩ := List.mem_filter.mp member
      exact (Nat.add_le_add_right (life.passes t member) _).trans
        (apart moved (List.mem_filter.mp member').2)
    cases turns with
    | nil => exact Nat.zero_le _
    | cons first rest =>
        have above : ∀ time ∈ ((first :: rest).filter fun t => t.moves data).map (·.before.now),
            first.before.now ≤ time := by
          intro time taken
          obtain ⟨t, member, rfl⟩ := List.mem_map.mp taken
          exact life.since first rfl t (List.mem_filter.mp member).1
        have below : ∀ time ∈ ((first :: rest).filter fun t => t.moves data).map (·.before.now),
            time < first.before.now + lifeTimeMs := by
          intro time taken
          obtain ⟨t, member, rfl⟩ := List.mem_map.mp taken
          obtain ⟨member, moved⟩ := List.mem_filter.mp member
          obtain ⟨first', head, fired, found, -, expires, course, -⟩ := stage t member
          obtain rfl : first = first' := Option.some.inj head
          obtain ⟨a, stays, -⟩ := moves_some found moved
          rw [stays] at course
          exact expires ▸ course_fresh course
        rcases Lives.length_of_spaced _ _ _ _ spaced above below with none | within
        · rw [List.map_eq_nil_iff.mp none]
          exact Nat.zero_le _
        · rw [List.length_map] at within
          unfold moveIntervalMs lifeTimeMs at within
          omega

end Life

def Turn.flight (t : Turn) : Option ArrowUpdate :=
  match t.kind with
  | .arrow id => some ⟨t.routing, t.room, id, t.before, t.before.now⟩
  | _ => none

theorem setField_flying (scene : Scene) (r : RoomRef) (field : Field) (id : RoomRef × ObjectId)
    (projectiles : field.projectiles = (scene.fields r).projectiles)
    (tilemap : field.tilemap = (scene.fields r).tilemap) :
    (scene.setField r field).flying id = scene.flying id := by
  unfold Scene.flying Field.projectile
  rcases setField_cases scene r id.1 field with ⟨here, new⟩ | away
  · rw [new, here, projectiles, tilemap]
  · rw [away]

theorem SameGround.flying {a b : Scene} (same : a.SameGround b) (id : RoomRef × ObjectId) :
    b.flying id = a.flying id := by
  unfold Scene.flying Field.projectile
  rw [same.projectiles, same.tilemap]

theorem dropMonster_flying (scene : Scene) (r : RoomRef) (m : Monster) (id : RoomRef × ObjectId) :
    (scene.dropMonster r m).flying id = scene.flying id := by
  obtain ⟨-, projectiles, tilemap, -⟩ := tryReserve_fields m scene.now (scene.fields r)
  exact setField_flying scene r _ id projectiles tilemap

theorem monsterTurn_arrows {routing : Routing} {r : RoomRef} {scene after : Scene} {m : Monster}
    (turn : MonsterTurn routing r scene m after) :
    (∀ r', (after.fields r').projectiles = (scene.fields r').projectiles ∧
      (after.fields r').tilemap = (scene.fields r').tilemap) ∧ scene.now ≤ after.now := by
  have set (m' : Monster) (result : (scene.setMonster r m').SameGround after) :
      (∀ r', (after.fields r').projectiles = (scene.fields r').projectiles ∧
        (after.fields r').tilemap = (scene.fields r').tilemap) ∧ scene.now ≤ after.now := by
    refine ⟨fun r' => ?_, result.now⟩
    rw [result.projectiles, result.tilemap]
    by_cases here : r' = r
    · subst here
      simp [Scene.setMonster, Scene.setField]
    · rw [setMonster_others scene r r' m' here]
      exact ⟨rfl, rfl⟩
  cases turn with
  | busy state due result => exact ⟨fun r' => ⟨result.projectiles r', result.tilemap r'⟩, result.now⟩
  | wakes state due result => exact set _ result
  | stays target state still apart result => exact set _ result
  | goes nextPos target state steps result => exact set _ result
  | attacks target state aims near result => exact set _ result

theorem monsterTurn_flying {routing : Routing} {r : RoomRef} {scene after : Scene} {m : Monster}
    (turn : MonsterTurn routing r scene m after) (id : RoomRef × ObjectId) :
    after.flying id = scene.flying id := by
  obtain ⟨projectiles, tilemap⟩ := (monsterTurn_arrows turn).1 id.1
  unfold Scene.flying Field.projectile
  rw [projectiles, tilemap]

theorem cleared_flying (scene : Scene) (r : RoomRef) (field : Field) (empty : field.projectiles = [])
    (id : RoomRef × ObjectId) (v : Tilemap × Arrow)
    (seen : (scene.setField r field).flying id = some v) : scene.flying id = some v := by
  unfold Scene.flying Field.projectile at seen ⊢
  rcases setField_cases scene r id.1 field with ⟨here, new⟩ | away
  · rw [new, empty] at seen
    cases seen
  · rwa [away] at seen

theorem newArrow_flying (scene : Scene) (r : RoomRef) (arrow : Arrow) (id : RoomRef × ObjectId)
    (v : Tilemap × Arrow) (seen : (scene.newArrow r arrow).flying id = some v) :
    scene.flying id = some v ∨ id.2 = arrow.info.objectId ∧ v.2 = arrow := by
  obtain ⟨a, found, rfl⟩ := Option.map_eq_some_iff.mp seen
  unfold Scene.flying
  unfold Field.projectile at found
  by_cases here : id.1 = r
  · rw [here, Scene.newArrow_field, List.find?_append] at found
    rw [here, Scene.newArrow_field]
    rcases Option.or_eq_some_iff.mp found with old | ⟨-, new⟩
    · left
      rw [Field.projectile, old]
      rfl
    · right
      obtain rfl := List.mem_singleton.mp (List.mem_of_find?_eq_some new)
      have named : a.info.objectId = id.2 := by simpa using List.find?_some new
      exact ⟨named.symm, rfl⟩
  · left
    have same : (scene.newArrow r arrow).fields id.1 = scene.fields id.1 :=
      Function.update_of_ne here _ _
    rw [same] at found ⊢
    rw [Field.projectile, found]
    rfl

theorem act_flights (a : Scene × ObjectId) (turns : List Turn) (b : Scene × ObjectId) (act : Scene.Act data a turns b)
    (history : List Turn) (tracked : TrackedIn (flights data) Turn.flight a history) :
    TrackedIn (flights data) Turn.flight b (history ++ turns) := by
  have quiet (b : Scene × ObjectId) (turns : List Turn) (silent : turns.filterMap Turn.flight = [])
      (now : a.1.now ≤ b.1.now) (later : a.2 ≤ b.2)
      (kept : ∀ id v, b.1.flying id = some v →
        a.1.flying id = some v ∨ Unborn a.2 id ∧ v.2.spawned = false ∧ v.2.info.state = .idle) :
      TrackedIn (flights data) Turn.flight b (history ++ turns) := by
    unfold TrackedIn
    rw [List.filterMap_append, silent]
    exact tracked.quiet [] (fun _ member => absurd member List.not_mem_nil) now
      (fun _ unborn => Nat.le_trans later unborn) kept
  cases act with
  | aside b same later =>
      apply quiet b [] rfl same.now later
      intro id v seen
      exact .inl (SameGround.flying same id ▸ seen)
  | monster routing r m found known distinct =>
      have turn := monsterUpdate_turn routing r a.1 m distinct found
      refine quiet _ _ rfl (monsterTurn_arrows turn).2 (Nat.le_refl a.2) ?_
      intro id v seen
      exact .inl (monsterTurn_flying turn id ▸ seen)
  | arrow routing r fired found known distinct fine =>
      have turn := arrowUpdateBy_turn data routing r a.1.now a.1 fired.info.objectId fired found
        (Nat.le_refl _)
      have spares := turn.spares
      rw [arrowUpdateBy_now] at spares
      unfold TrackedIn
      rw [List.filterMap_append]
      apply tracked.turn (r, fired.info.objectId)
      case named => rfl
      case before => rfl
      case after => rfl
      case present => exact Option.isSome_iff_exists.mpr ⟨_, @flying_of_some (r, fired.info.objectId) _ _ found⟩
      case born => exact Nat.not_le_of_lt known
      case begins => exact Nat.le_refl a.1.now
      case passes => exact Nat.le_refl a.1.now
      case ends => exact spares.now
      case unborn_yet => exact fun _ unborn => unborn
      case others =>
        intro other apart v seen
        have kept := spares.others other.1 other.2 apart
        have map := spares.tilemap other.1
        simp only [flights, Scene.flying, kept, map] at seen ⊢
        exact seen
  | hit r m damage found =>
      refine quiet _ [] rfl (Nat.le_refl a.1.now) (Nat.le_refl a.2) ?_
      intro id v seen
      refine .inl ((setField_flying a.1 r _ id ?_ ?_).symm.trans seen) <;> rfl
  | removed r m =>
      refine quiet _ [] rfl (Nat.le_refl a.1.now) (Nat.le_refl a.2) ?_
      intro id v seen
      exact .inl (dropMonster_flying a.1 r m id ▸ seen)
  | born routing r cell aggroRange leashRange templateId =>
      refine quiet _ _ rfl (Nat.le_refl a.1.now) (Nat.le_succ a.2) ?_
      intro id v seen
      refine .inl ((setField_flying a.1 r _ id ?_ ?_).symm.trans seen) <;> rfl
  | fired routing r arrow named fresh idle =>
      refine quiet _ _ rfl (Nat.le_refl a.1.now) (Nat.le_succ a.2) ?_
      intro id v seen
      rcases newArrow_flying a.1 r arrow id v seen with old | ⟨own, rfl⟩
      · exact .inl old
      · exact .inr ⟨Nat.le_of_eq (named.symm.trans own.symm), fresh, idle⟩
  | opened r field g later empty newborn new =>
      refine quiet _ [] rfl (Nat.le_refl a.1.now) later ?_
      intro id v seen
      exact .inl (cleared_flying a.1 r field empty id v seen)

theorem tracked_inside {at_ : Scene × ObjectId} {history : List Turn}
    (tracked : TrackedIn (flights data) Turn.flight at_ history) (id : RoomRef × ObjectId)
    (v : Tilemap × Arrow) (seen : at_.1.flying id = some v)
    (valid : v.2.info.dir.isValid = true) (spawned : v.2.spawned = true) :
    v.1.isWall v.2.info.cellPos = false := by
  cases turns : (flights data).turnsOf id (history.filterMap Turn.flight) with
  | nil =>
      have newborn := tracked.first id v turns seen
      rw [newborn.1] at spawned
      cases spawned
  | cons first rest =>
      have life := tracked.lives id
      rw [turns] at life
      have final := List.getLast?_eq_some_getLast (List.cons_ne_nil first rest)
      generalize (first :: rest).getLast (List.cons_ne_nil first rest) = last at final
      have member := List.mem_of_getLast? final
      have leaves := tracked.last id last (by rw [turns]; exact final) v seen
      obtain ⟨delta, ahead⟩ := Option.isSome_iff_exists.mp ((deltaXY_isSome v.2.info.dir).mpr valid)
      have rules := flight_rules ahead life fun t head v' start =>
        (life_dir life t head last member v' v start leaves).symm
      have named : (last.room, last.id) = id := Option.some.inj (life.named last member)
      subst named
      obtain ⟨stays, map⟩ := flying_some leaves
      rw [← map]
      exact rules.inside last member v.2 stays

/-- An arrow whose direction is one of the four keeps the laws of its flight, whatever goes on
around it and however the clock goes on; and the turns of an arrow in a run are such a flight. -/
theorem arrow_flight :
    (∀ id turns dir delta, deltaXY dir = some delta → (flights data).Life id turns →
      (∀ first ∈ turns.head?, ∀ v, first.before.flying id = some v → v.2.info.dir = dir) →
      FlightRules data delta turns) ∧
    ∀ store redisConnected rand events,
      Runs.EveryState (Runs.observed (World.step data) (recordTurns data))
        (fun now => ∀ id,
          (flights data).Life id ((flights data).turnsOf id (now.2.filterMap Turn.flight)) ∧
          ∀ v, now.1.scene.flying id = some v → v.2.info.dir.isValid = true →
            v.2.spawned = true → v.1.isWall v.2.info.cellPos = false)
        (World.init data store redisConnected rand, []) events := by
  constructor
  · intro id turns dir delta ahead life aims
    exact flight_rules ahead life aims
  · intro store redisConnected rand events
    have every := everyState_acts data (TrackedIn (flights data) Turn.flight)
      (fun scene clear _ => .start fun id v seen => by
        simp [flights, Scene.flying, clear, Field.projectile, Field.empty] at seen)
      (act_flights data) store redisConnected rand events
    apply Runs.everyState_imp _ _ _ _ _ every
    intro now tracked id
    exact ⟨tracked.lives id, tracked_inside data tracked id⟩

/-- An arrow in a town without walls. -/
def oneArrow : Scene :=
  (World.empty smallGame newStore false []).scene.setField 0
    { Field.empty with
      tilemap := (smallRoom .town1).tilemap
      projectiles :=
        [{ info := { ObjectInfo.default with objectId := 1, dir := Dir.down }
           ownerId := 2
           expireTick := 0
           waitUntil := 0
           spawned := false }] }

/-- The arrow flies a cell down, and 80 ms later it may go on. -/
def shortFlight : List ArrowUpdate :=
  let routing := (World.empty smallGame newStore false []).routing
  let first : ArrowUpdate := ⟨routing, 0, 1, oneArrow, 5⟩
  [first, ⟨routing, 0, 1, { first.after smallGame with now := 85 }, 90⟩]

theorem short_flight : FlightRules smallGame ⟨0, 1⟩ shortFlight := by
  apply (arrow_flight smallGame).1 (0, 1) shortFlight Dir.down ⟨0, 1⟩ rfl
  · constructor
    case named => simp [shortFlight, flights]
    case present =>
      intro t member
      rcases List.mem_pair.mp member with rfl | rfl <;> rfl
    case passes =>
      intro t member
      rcases List.mem_pair.mp member with rfl | rfl
      · exact Nat.zero_le 5
      · exact (by decide : 85 ≤ 90)
    case starts =>
      rintro t ⟨⟩ v ⟨⟩
      exact ⟨rfl, rfl⟩
    case goesOn =>
      rw [shortFlight, List.isChain_pair]
      exact ⟨rfl, (by decide : 5 ≤ 85)⟩
  · rintro t ⟨⟩ v ⟨⟩
    rfl

end ZeldaServer
