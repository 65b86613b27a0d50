import ZeldaServer.World.Kills
import ZeldaServer.World.Paths
import ZeldaServer.World.Replicas

/-! What one `Update` of a monster or of an arrow does: every way it can end. -/

namespace ZeldaServer

open Chains (Chain)

variable (data : GameData)

/-- The monsters, the arrows and the maps are the same, and whoever looked in one of the four
directions goes on doing so. -/
structure Scene.SameGround (a b : Scene) : Prop where
  monsters : ∀ r, (b.fields r).monsters = (a.fields r).monsters
  projectiles : ∀ r, (b.fields r).projectiles = (a.fields r).projectiles
  tilemap : ∀ r, (b.fields r).tilemap = (a.fields r).tilemap
  now : a.now ≤ b.now
  looks : ∀ id, (a.players id).info.dir.isValid = true → (b.players id).info.dir.isValid = true

namespace Scene.SameGround

theorem refl (scene : Scene) : scene.SameGround scene :=
  ⟨fun _ => rfl, fun _ => rfl, fun _ => rfl, Nat.le_refl _, fun _ valid => valid⟩

theorem trans {a b c : Scene} (first : a.SameGround b) (second : b.SameGround c) :
    a.SameGround c where
  monsters := fun r => (second.monsters r).trans (first.monsters r)
  projectiles := fun r => (second.projectiles r).trans (first.projectiles r)
  tilemap := fun r => (second.tilemap r).trans (first.tilemap r)
  now := Nat.le_trans first.now second.now
  looks := fun id valid => second.looks id (first.looks id valid)

theorem quiet {a b : Scene} (same : a.Quiet b) : a.SameGround b where
  monsters := fun r => by rw [same.fields]
  projectiles := fun r => by rw [same.fields]
  tilemap := fun r => by rw [same.fields]
  now := Nat.le_of_eq same.now.symm
  looks := fun id valid => by rwa [same.players]

theorem setPlayer (scene : Scene) (id : ObjectId) (p : Player)
    (looks : (scene.players id).info.dir.isValid = true → p.info.dir.isValid = true) :
    scene.SameGround (scene.setPlayer id p) where
  monsters := fun _ => rfl
  projectiles := fun _ => rfl
  tilemap := fun _ => rfl
  now := Nat.le_refl _
  looks := by
    intro other valid
    by_cases same : other = id
    · subst same
      simpa [Scene.setPlayer] using looks valid
    · simpa [Scene.setPlayer, same] using valid

theorem foldl {Item : Type} (f : Scene → Item → Scene)
    (step : ∀ (scene : Scene) item, scene.SameGround (f scene item)) (items : List Item)
    (scene : Scene) : scene.SameGround (items.foldl f scene) := by
  induction items generalizing scene with
  | nil => exact refl scene
  | cons head tail ih => exact (step scene head).trans (ih (f scene head))

theorem actPlayer (routing : Routing) (id : ObjectId) (method : Player → Player × List Emission)
    (dir : ∀ p, (method p).1.info.dir = p.info.dir) (scene : Scene) :
    scene.SameGround (actPlayer routing id method scene) :=
  (setPlayer scene id _ fun valid => by rwa [dir]).trans (quiet (.emissions routing id _ _))

theorem hurtPlayer (id : ObjectId) (damage : Int) (scene : Scene) :
    scene.SameGround (scene.hurtPlayer id damage) := by
  apply setPlayer
  unfold Player.onDamaged ObjectInfo.onDamaged
  split <;> exact fun valid => valid

theorem ofRoom {a b a' b' : Scene} (same : a.SameGround b) (r : RoomRef)
    (others : ∀ r', r' ≠ r → a'.fields r' = a.fields r' ∧ b'.fields r' = b.fields r')
    (monsters : (b'.fields r).monsters = (a'.fields r).monsters)
    (projectiles : (b'.fields r).projectiles = (a'.fields r).projectiles)
    (tilemap : (a'.fields r).tilemap = (a.fields r).tilemap ∧
      (b'.fields r).tilemap = (b.fields r).tilemap)
    (now : a'.now = a.now ∧ b'.now = b.now)
    (players : a'.players = a.players ∧ b'.players = b.players) : a'.SameGround b' := by
  constructor
  case monsters =>
    intro r'
    by_cases here : r' = r
    · rw [here, monsters]
    · rw [(others r' here).1, (others r' here).2, same.monsters]
  case projectiles =>
    intro r'
    by_cases here : r' = r
    · rw [here, projectiles]
    · rw [(others r' here).1, (others r' here).2, same.projectiles]
  case tilemap =>
    intro r'
    by_cases here : r' = r
    · rw [here, tilemap.1, tilemap.2, same.tilemap]
    · rw [(others r' here).1, (others r' here).2, same.tilemap]
  case now =>
    rw [now.1, now.2]
    exact same.now
  case looks =>
    rw [players.1, players.2]
    exact same.looks

theorem setField (scene : Scene) (r : RoomRef) (field : Field)
    (monsters : field.monsters = (scene.fields r).monsters)
    (projectiles : field.projectiles = (scene.fields r).projectiles)
    (tilemap : field.tilemap = (scene.fields r).tilemap) :
    scene.SameGround (scene.setField r field) := by
  apply (refl scene).ofRoom r
  case others => exact fun r' other => ⟨rfl, Function.update_of_ne other _ _⟩
  all_goals simp [Scene.setField, monsters, projectiles, tilemap]

theorem setMonster {a b : Scene} (same : a.SameGround b) (r : RoomRef) (m : Monster) :
    (a.setMonster r m).SameGround (b.setMonster r m) := by
  apply same.ofRoom r
  case others => exact fun r' other => ⟨setMonster_others a r r' m other, setMonster_others b r r' m other⟩
  all_goals simp [Scene.setMonster, Scene.setField, same.monsters, same.projectiles]

theorem setProjectile {a b : Scene} (same : a.SameGround b) (r : RoomRef) (arrow : Arrow) :
    (a.setProjectile r arrow).SameGround (b.setProjectile r arrow) := by
  apply same.ofRoom r
  case others =>
    exact fun r' other => ⟨Function.update_of_ne other _ _, Function.update_of_ne other _ _⟩
  all_goals simp [Scene.setProjectile, Scene.setField, same.monsters, same.projectiles]

theorem dropArrow {a b : Scene} (same : a.SameGround b) (r : RoomRef) (id : ObjectId) :
    (a.dropArrow r id).SameGround (b.dropArrow r id) := by
  apply same.ofRoom r
  case others =>
    exact fun r' other => ⟨Function.update_of_ne other _ _, Function.update_of_ne other _ _⟩
  all_goals simp [Scene.dropArrow, Scene.setField, same.monsters, same.projectiles]

theorem dropMonster {a b : Scene} (same : a.SameGround b) (r : RoomRef) (m : Monster) :
    (a.dropMonster r m).SameGround (b.dropMonster r m) := by
  obtain ⟨monsters, projectiles, tilemap, -⟩ := dropMonster_field a r m
  obtain ⟨monsters', projectiles', tilemap', -⟩ := dropMonster_field b r m
  apply same.ofRoom r
  case others =>
    exact fun r' other => ⟨dropMonster_others a r r' m other, dropMonster_others b r r' m other⟩
  case monsters => rw [monsters, monsters', same.monsters]
  case projectiles => rw [projectiles, projectiles', same.projectiles]
  case tilemap => exact ⟨tilemap, tilemap'⟩
  all_goals exact ⟨rfl, rfl⟩

end Scene.SameGround

theorem deltaXY_isSome (dir : Dir) : (deltaXY dir).isSome = true ↔ dir.isValid = true := by
  simp only [deltaXY, Dir.isValid, Dir.up, Dir.down, Dir.left, Dir.right]
  split
  · simp_all
  · split
    · simp_all
    · split
      · simp_all
      · split <;> simp_all

namespace Player

theorem processLevelUp_dir (p : Player) : (processLevelUp data p).1.info.dir = p.info.dir := by
  unfold processLevelUp
  dsimp only
  cases data.levelData (p.level + 1) with
  | none => rfl
  | some row => exact congrArg Looks.dir (recalcStats_looks data _)

theorem levelUps_dir (passes : Nat) (p : Player) :
    (levelUps data passes p).1.info.dir = p.info.dir := by
  induction passes generalizing p with
  | zero => rfl
  | succ passes ih =>
      unfold levelUps
      split
      · dsimp only
        split
        · rfl
        · exact (ih _).trans (processLevelUp_dir data _)
      · rfl

theorem gainExp_dir (amount : Int) (p : Player) :
    (gainExp data amount p).1.info.dir = p.info.dir := by
  unfold gainExp
  split
  · rfl
  · split
    · rfl
    · exact levelUps_dir data _ _

theorem addItem_dir (itemId count : Int) (p : Player) :
    (addItem data itemId count p).2.1.info.dir = p.info.dir := by
  rw [(addItem_told data itemId count p).1]

theorem equipItem_dir (slot : Int) (p : Player) :
    (equipItem data slot p).1.info.dir = p.info.dir :=
  congrArg Looks.dir (equipItem_told data slot p).1

theorem unequipItem_dir (equipType : Int) (p : Player) :
    (unequipItem data equipType p).1.info.dir = p.info.dir :=
  congrArg Looks.dir (unequipItem_told data equipType p).1

theorem useItem_dir (slot : Int) (p : Player) : (useItem data slot p).1.info.dir = p.info.dir := by
  rcases useItem_told data slot p with unused | ⟨target, left, hp, -, used⟩
  · rw [unused]
  · rw [used]

theorem update_dir (now : Nat) (p : Player) : (update now p).1.info.dir = p.info.dir :=
  congrArg Looks.dir (update_told now p).1

end Player

section Room

variable (routing : Routing) (r : RoomRef)

namespace Scene.SameGround

theorem distributeExp (killer : ObjectId) (m : Monster) (scene : Scene) :
    scene.SameGround (distributeExp data routing r killer m scene) := by
  rw [distributeExp_grants]
  apply foldl
  intro scene grant
  exact actPlayer routing grant.1 _ (Player.gainExp_dir data grant.2) scene

theorem processMonsterDrop (killer : ObjectId) (m : Monster) (scene : Scene) :
    scene.SameGround (processMonsterDrop data routing killer m scene) := by
  unfold ZeldaServer.processMonsterDrop
  cases data.monsterDrops m.templateId with
  | none => exact refl scene
  | some drops =>
      apply foldl
      intro scene drop
      dsimp only
      have drawn := quiet (.draw scene)
      split
      · exact drawn.trans (actPlayer routing killer _ (Player.addItem_dir data drop.itemId 1) _)
      · exact drawn

theorem hitMonster (attackerId : ObjectId) (damage : Int) (m : Monster) (scene : Scene) :
    (scene.setMonster r (m.damaged damage)).SameGround
      (hitMonster routing r attackerId damage m scene).2 :=
  quiet (.broadcast routing r _ _)

theorem removeMonster (m : Monster) (scene : Scene) :
    (scene.dropMonster r m).SameGround (removeMonster routing r m scene) :=
  quiet (.broadcast routing r _ _)

theorem killMonster (killer : ObjectId) (m : Monster) (scene : Scene) :
    (scene.dropMonster r m).SameGround (killMonster data routing r killer m scene) := by
  have rewarded := (distributeExp data routing r killer m scene).trans
    (processMonsterDrop data routing killer m _)
  exact (rewarded.dropMonster r m).trans (removeMonster routing r m _)

theorem removeProjectile (id : ObjectId) (scene : Scene) :
    (scene.dropArrow r id).SameGround (removeProjectile routing r id scene) :=
  quiet (.broadcast routing r _ _)

theorem broadcast (pkt : ServerPacket) (scene : Scene) :
    scene.SameGround (broadcast routing r pkt scene) := quiet (.broadcast routing r pkt scene)

end Scene.SameGround

/-- `Arrow::Update`; `UpdateIdle` and `UpdateMove` read the clock again, and it shows `later`. -/
def arrowUpdateBy (later : Nat) (scene : Scene) (id : ObjectId) : Scene :=
  match (scene.fields r).projectile id with
  | none => scene
  | some fired =>
      let a := arrowStart scene.now fired
      let scene := scene.setProjectile r a
      if !fired.spawned && isBlockedByWall scene r a.info.cellPos then
        removeProjectile routing r id scene
      else if a.expireTick ≤ scene.now then removeProjectile routing r id scene
      else
        let scene := { scene with now := later }
        match a.info.state with
        | .idle => arrowUpdateIdle data routing r a scene
        | .move => arrowUpdateMove routing r a scene
        | .skill =>
            let info := { a.info with state := .idle }
            broadcast routing r (.move info) (scene.setProjectile r { a with info })

theorem arrowUpdateBy_now (scene : Scene) (id : ObjectId) :
    arrowUpdateBy data routing r scene.now scene id = arrowUpdate data routing r scene id := rfl

def Arrow.flown (later : Nat) (delta : Vec2Int) (a : Arrow) : Arrow :=
  { a with
    info := { a.info.setCellPos (a.info.cellPos + delta) with state := .move }
    waitUntil := later + moveIntervalMs }

def Arrow.rested (a : Arrow) : Arrow := { a with info := { a.info with state := .idle } }

theorem setProjectile_twice (scene : Scene) (a b : Arrow)
    (named : b.info.objectId = a.info.objectId) :
    (scene.setProjectile r a).setProjectile r b = scene.setProjectile r b := by
  simp only [Scene.setProjectile, Scene.setField, Function.update_self, Function.update_idem,
    List.map_map]
  congr 3
  apply List.map_congr_left
  intro old _
  simp only [Function.comp_apply, named]
  split <;> simp_all

/-- What a hit leaves of the monsters: the target less hp or gone, or nothing happened to it. -/
inductive Scene.Struck (a : Scene) (target : Monster) : Scene → Prop where
  | spared : Struck a target a
  | hurt (damage : Int) : Struck a target (a.setMonster r (target.damaged damage))
  | killed (damage : Int) :
      Struck a target
        ((a.setMonster r (target.damaged damage)).dropMonster r (target.damaged damage))

theorem Scene.Struck.along {a b hit : Scene} {target : Monster} (struck : b.Struck r target hit)
    (same : a.SameGround b) : ∃ hit', a.Struck r target hit' ∧ hit'.SameGround hit := by
  cases struck with
  | spared => exact ⟨a, .spared, same⟩
  | hurt damage => exact ⟨_, .hurt damage, same.setMonster r _⟩
  | killed damage => exact ⟨_, .killed damage, (same.setMonster r _).dropMonster r _⟩

/-- The ways an `Update` of an arrow ends. -/
inductive ArrowTurn (later : Nat) (scene : Scene) (fired : Arrow) (after : Scene) : Prop where
  | waits (fresh : scene.now < (arrowStart scene.now fired).expireTick)
      (due : later < (arrowStart scene.now fired).waitUntil)
      (stands : fired.spawned = true ∨ isBlockedByWall scene r fired.info.cellPos = false)
      (result : (scene.setProjectile r (arrowStart scene.now fired)).SameGround after) :
      ArrowTurn later scene fired after
  | rests (fresh : scene.now < (arrowStart scene.now fired).expireTick)
      (state : fired.info.state ≠ .idle)
      (due : fired.info.state = .move → (arrowStart scene.now fired).waitUntil ≤ later)
      (stands : fired.spawned = true ∨ isBlockedByWall scene r fired.info.cellPos = false)
      (result : (scene.setProjectile r (arrowStart scene.now fired).rested).SameGround after) :
      ArrowTurn later scene fired after
  | flies (fresh : scene.now < (arrowStart scene.now fired).expireTick) (delta : Vec2Int)
      (state : fired.info.state = .idle) (due : (arrowStart scene.now fired).waitUntil ≤ later)
      (ahead : deltaXY fired.info.dir = some delta)
      (free : isBlockedByWall scene r (fired.info.cellPos + delta) = false)
      (alone : monsterAt scene r (fired.info.cellPos + delta) = none)
      (result : (scene.setProjectile r
        ((arrowStart scene.now fired).flown later delta)).SameGround after) :
      ArrowTurn later scene fired after
  | removed (result : ((scene.setProjectile r (arrowStart scene.now fired)).dropArrow r
        fired.info.objectId).SameGround after) : ArrowTurn later scene fired after
  | hits (target : Monster) (hit : Scene) (met : target ∈ (scene.fields r).monsters)
      (struck : (scene.setProjectile r (arrowStart scene.now fired)).Struck r target hit)
      (result : (hit.dropArrow r fired.info.objectId).SameGround after) :
      ArrowTurn later scene fired after
  | lost (fresh : scene.now < (arrowStart scene.now fired).expireTick)
      (nowhere : deltaXY fired.info.dir = none) (fault : after.fault ≠ none)
      (result : (scene.setProjectile r (arrowStart scene.now fired)).SameGround after) :
      ArrowTurn later scene fired after

theorem arrowHit_struck (a : Arrow) (target : Monster) (scene : Scene) :
    ∃ hit, scene.Struck r target hit ∧
      (hit.dropArrow r a.info.objectId).SameGround (arrowHit data routing r a target scene) := by
  have gone (id : ObjectId) {hit after : Scene} (same : hit.SameGround after) :
      (hit.dropArrow r id).SameGround (removeProjectile routing r id after) :=
    (same.dropArrow r id).trans (.removeProjectile routing r id after)
  unfold arrowHit
  dsimp only
  cases findObject routing scene r a.ownerId with
  | none => exact ⟨scene, .spared, gone a.info.objectId (.refl scene)⟩
  | some owner =>
      dsimp only
      rw [hitMonster_fst]
      generalize max 1 ((owner.info scene).attack - target.info.defence) = damage
      have hit := Scene.SameGround.hitMonster routing r (owner.info scene).objectId damage target
        scene
      split
      case isTrue =>
        have dropped := hit.dropMonster r (target.damaged damage)
        refine ⟨_, .killed damage, ?_⟩
        cases owner with
        | player killer => exact gone _ (dropped.trans (.killMonster data routing r killer _ _))
        | monster m => exact gone _ (dropped.trans (.removeMonster routing r _ _))
        | projectile other => exact gone _ (dropped.trans (.removeMonster routing r _ _))
      case isFalse => exact ⟨_, .hurt damage, gone _ hit⟩

theorem arrowUpdateBy_turn (later : Nat) (scene : Scene) (id : ObjectId) (fired : Arrow)
    (found : (scene.fields r).projectile id = some fired) (onward : scene.now ≤ later) :
    ArrowTurn r later scene fired (arrowUpdateBy data routing r later scene id) := by
  have named : fired.info.objectId = id := by simpa using List.find?_some found
  have info := (arrowStart_keeps scene.now fired).1
  have tiles (pos : Vec2Int) :
      isBlockedByWall (scene.setProjectile r (arrowStart scene.now fired)) r pos =
        isBlockedByWall scene r pos := by
    simp [isBlockedByWall, Scene.setProjectile, Scene.setField]
  have creatures (pos : Vec2Int) :
      monsterAt (scene.setProjectile r (arrowStart scene.now fired)) r pos =
        monsterAt scene r pos := by
    simp [monsterAt, Scene.setProjectile, Scene.setField]
  have ticked : (scene.setProjectile r (arrowStart scene.now fired)).SameGround
      { scene.setProjectile r (arrowStart scene.now fired) with now := later } :=
    ⟨fun _ => rfl, fun _ => rfl, fun _ => rfl, onward, fun _ valid => valid⟩
  have replaced (a : Arrow)
      (named : a.info.objectId = (arrowStart scene.now fired).info.objectId) :
      (scene.setProjectile r a).SameGround
        ({ scene.setProjectile r (arrowStart scene.now fired) with now := later }.setProjectile r
          a) := by
    rw [← setProjectile_twice r scene (arrowStart scene.now fired) a named]
    exact ticked.setProjectile r a
  have gone {after : Scene}
      (same : (scene.setProjectile r (arrowStart scene.now fired)).SameGround after) :
      ((scene.setProjectile r (arrowStart scene.now fired)).dropArrow r
        fired.info.objectId).SameGround (removeProjectile routing r id after) := by
    rw [named]
    exact (same.dropArrow r id).trans (.removeProjectile routing r id after)
  unfold arrowUpdateBy
  rw [found]
  dsimp only
  split
  case isTrue => exact .removed (gone (.refl _))
  case isFalse clear =>
    have stands : fired.spawned = true ∨ isBlockedByWall scene r fired.info.cellPos = false := by
      rw [tiles, info] at clear
      cases spawned : fired.spawned with
      | true => exact .inl rfl
      | false => exact .inr (by simpa [spawned] using clear)
    split
    case isTrue => exact .removed (gone (.refl _))
    case isFalse fresh =>
      cases state : (arrowStart scene.now fired).info.state with
      | skill =>
          rw [info] at state
          apply ArrowTurn.rests (Nat.lt_of_not_le fresh) _ _ stands
          · exact (replaced (arrowStart scene.now fired).rested rfl).trans (.broadcast routing r _ _)
          · simp [state]
          · simp [state]
      | move =>
          rw [info] at state
          dsimp only
          unfold arrowUpdateMove
          split
          case isTrue early => exact .waits (Nat.lt_of_not_le fresh) early stands ticked
          case isFalse due =>
            apply ArrowTurn.rests (Nat.lt_of_not_le fresh) _ _ stands
            · exact ((replaced (arrowStart scene.now fired).rested rfl).trans
                (.broadcast routing r _ _)).trans (.broadcast routing r _ _)
            · simp [state]
            · exact fun _ => Nat.le_of_not_lt due
      | idle =>
          rw [info] at state
          dsimp only
          unfold arrowUpdateIdle
          rw [info]
          split
          case isTrue early => exact .waits (Nat.lt_of_not_le fresh) early stands ticked
          case isFalse due =>
            cases ahead : deltaXY fired.info.dir with
            | none => exact .lost (Nat.lt_of_not_le fresh) ahead (fault_fail _ _) (ticked.trans (.quiet (.fail _ _)))
            | some delta =>
                dsimp only
                split
                case isTrue =>
                  have result := gone ticked
                  rw [← named] at result
                  exact .removed result
                case isFalse free =>
                  have open_ : isBlockedByWall scene r (fired.info.cellPos + delta) = false := by
                    rw [← tiles]
                    exact Bool.eq_false_of_not_eq_true free
                  cases met : monsterAt { scene.setProjectile r (arrowStart scene.now fired) with
                      now := later } r (fired.info.cellPos + delta) with
                  | some target =>
                      obtain ⟨hit, struck, result⟩ := arrowHit_struck data routing r
                        (arrowStart scene.now fired) target
                        { scene.setProjectile r (arrowStart scene.now fired) with now := later }
                      obtain ⟨base, struck', same⟩ := struck.along r ticked
                      have seen : monsterAt scene r (fired.info.cellPos + delta) = some target :=
                        (creatures _).symm.trans met
                      rw [info] at result
                      exact .hits target base (List.mem_of_find?_eq_some seen) struck'
                        ((same.dropArrow r _).trans result)
                  | none =>
                      have alone : monsterAt scene r (fired.info.cellPos + delta) = none := by
                        rw [← creatures]
                        exact met
                      apply ArrowTurn.flies (Nat.lt_of_not_le fresh) delta state
                        (Nat.le_of_not_lt due) ahead open_ alone
                      have flew := replaced ((arrowStart scene.now fired).flown later delta) rfl
                      unfold Arrow.flown at flew ⊢
                      rw [info] at flew ⊢
                      exact ((flew.trans (.broadcast routing r _ _)).trans
                        (.broadcast routing r _ _)).trans (.broadcast routing r _ _)

theorem setMonster_twice (scene : Scene) (m m' : Monster)
    (named : m'.info.objectId = m.info.objectId) :
    (scene.setMonster r m).setMonster r m' = scene.setMonster r m' := by
  simp only [Scene.setMonster, Scene.setField, Function.update_self, Function.update_idem,
    List.map_map]
  congr 3
  apply List.map_congr_left
  intro old _
  simp only [Function.comp_apply, named]
  split <;> simp_all

theorem canGo_setMonster (scene : Scene) (m m' : Monster) (member : m ∈ (scene.fields r).monsters)
    (distinct : (scene.fields r).Distinct) (named : m'.info.objectId = m.info.objectId)
    (stands : m'.info.cellPos = m.info.cellPos) :
    canGo routing (scene.setMonster r m') r = canGo routing scene r := by
  have cells (old : Monster) (listed : old ∈ (scene.fields r).monsters) :
      (if old.info.objectId = m'.info.objectId then m' else old).info.cellPos =
        old.info.cellPos := by
    split
    case isTrue same =>
      rw [distinct.same old m listed member (same.trans named), stands]
    case isFalse => rfl
  have nobody (pos : Vec2Int) :
      (monsterAt (scene.setMonster r m') r pos).isNone = (monsterAt scene r pos).isNone := by
    unfold monsterAt
    simp only [Scene.setMonster, Scene.setField, Function.update_self, List.find?_map,
      Option.isNone_map]
    rw [Bool.eq_iff_iff, Option.isNone_iff_eq_none, Option.isNone_iff_eq_none,
      List.find?_eq_none, List.find?_eq_none]
    apply forall₂_congr
    intro old listed
    rw [Function.comp_apply, cells old listed]
  have tilemap : ((scene.setMonster r m').fields r).tilemap = (scene.fields r).tilemap := by
    simp [Scene.setMonster, Scene.setField]
  have players : (scene.setMonster r m').players = scene.players := rfl
  funext pos
  have free := nobody pos
  unfold canGo creatureAt playerAt
  rw [tilemap, players]
  cases (scene.fields r).tilemap.getTileAt pos with
  | none => rfl
  | some tile =>
      dsimp only
      cases (playerIds routing r).find? fun id => (scene.players id).info.cellPos = pos with
      | some id => rfl
      | none => simp only [Option.isNone_map, free]

def nextCell (scene : Scene) (src dest : Vec2Int) : Option Vec2Int :=
  match pathOf routing r scene src dest with
  | some (_ :: nextPos :: _) => if canGo routing scene r nextPos then some nextPos else none
  | _ => none

/-- The cell that the next `Update` of a monster moves it to. -/
def monsterStep (m : Monster) (scene : Scene) : Option Vec2Int :=
  if m.info.state ≠ .idle then none
  else
    match monsterAim routing r m scene with
    | none =>
        if m.offLeash ∨ m.info.cellPos ≠ m.homed.homePos then
          nextCell routing r scene m.info.cellPos m.homed.homePos
        else none
    | some target =>
        if distanceTo scene m target = 1 then none
        else
          (nextCell routing r scene m.info.cellPos (scene.players target).info.cellPos).filter
            fun nextPos => ((nextPos - m.homed.homePos).manhattan : Int) ≤ m.leashRange

/-- How long a monster rests that has moved a cell: a way home is the faster one. -/
def monsterPause (m : Monster) (scene : Scene) : Nat :=
  match monsterAim routing r m scene with
  | none => 300
  | some _ => 1000

def Monster.gone (m : Monster) (nextPos : Vec2Int) (waitUntil : Nat) : Monster :=
  { m with
    info := { ({ m.info with dir := m.info.lookAtDir nextPos } : ObjectInfo).setCellPos nextPos with
      state := .move }
    waitUntil }

def Monster.striking (m : Monster) (pos : Vec2Int) (waitUntil : Nat) : Monster :=
  { m with info := { m.info with dir := m.info.lookAtDir pos, state := .skill }, waitUntil }

def Monster.aiming (m : Monster) (target : Option ObjectId) : Monster := { m.homed with target }

theorem aiming_keeps (m : Monster) (target : Option ObjectId) :
    (m.aiming target).info = m.info ∧ (m.aiming target).homePos = m.homed.homePos ∧
      (m.aiming target).leashRange = m.leashRange :=
  ⟨(homed_keeps m).1, rfl, (homed_keeps m).2.1⟩

/-- The ways an `Update` of a monster ends. -/
inductive MonsterTurn (scene : Scene) (m : Monster) (after : Scene) : Prop where
  | busy (state : m.info.state ≠ .idle) (due : scene.now < m.waitUntil)
      (result : scene.SameGround after) : MonsterTurn scene m after
  | wakes (state : m.info.state ≠ .idle) (due : m.waitUntil ≤ scene.now)
      (result : (scene.setMonster r { m with info := { m.info with state := .idle } }).SameGround
        after) : MonsterTurn scene m after
  | stays (target : Option ObjectId) (state : m.info.state = .idle)
      (still : monsterStep routing r m scene = none)
      (apart : ∀ target, monsterAim routing r m scene = some target → distanceTo scene m target ≠ 1)
      (result : (scene.setMonster r (m.aiming target)).SameGround after) :
      MonsterTurn scene m after
  | goes (nextPos : Vec2Int) (target : Option ObjectId) (state : m.info.state = .idle)
      (steps : monsterStep routing r m scene = some nextPos)
      (result : (scene.setMonster r ((m.aiming target).gone nextPos
        (scene.now + monsterPause routing r m scene))).SameGround after) :
      MonsterTurn scene m after
  | attacks (target : ObjectId) (state : m.info.state = .idle)
      (aims : monsterAim routing r m scene = some target)
      (near : distanceTo scene m target = 1)
      (result : (scene.setMonster r ((m.aiming (some target)).striking
        (scene.players target).info.cellPos (scene.now + 1000))).SameGround after) :
      MonsterTurn scene m after

section Update

variable (scene : Scene) (m : Monster) (member : m ∈ (scene.fields r).monsters)
  (distinct : (scene.fields r).Distinct)

theorem monsterGo_ground (m' : Monster) (nextPos : Vec2Int) (waitUntil : Nat) :
    (scene.setMonster r (m'.gone nextPos waitUntil)).SameGround
      (monsterGo routing r m' nextPos waitUntil (scene.setMonster r m')) := by
  rw [← setMonster_twice r scene m' (m'.gone nextPos waitUntil) rfl]
  exact .broadcast routing r _ _

include member distinct in
theorem nextCell_setMonster (m' : Monster) (info : m'.info = m.info) (src dest : Vec2Int) :
    nextCell routing r (scene.setMonster r m') src dest = nextCell routing r scene src dest := by
  unfold nextCell pathOf
  rw [canGo_setMonster routing r scene m m' member distinct (by rw [info]) (by rw [info])]

theorem monsterGoHome_eq (m' : Monster) :
    monsterGoHome routing r m' scene =
      match nextCell routing r (scene.setMonster r m') m'.info.cellPos m'.homePos with
      | some nextPos =>
          monsterGo routing r m' nextPos (scene.now + 300) (scene.setMonster r m')
      | none => scene.setMonster r m' := by
  unfold monsterGoHome nextCell
  dsimp only
  match pathOf routing r (scene.setMonster r m') m'.info.cellPos m'.homePos with
  | none => rfl
  | some [] => rfl
  | some [_] => rfl
  | some (_ :: nextPos :: _) =>
      dsimp only
      split <;> rfl

theorem monsterChase_cases (m' : Monster) (target : ObjectId) :
    (∃ nextPos, (nextCell routing r (scene.setMonster r m') m'.info.cellPos
          (scene.players target).info.cellPos).filter (fun nextPos =>
            ((nextPos - m'.homePos).manhattan : Int) ≤ m'.leashRange) = some nextPos ∧
        monsterChase routing r m' target scene =
          monsterGo routing r m' nextPos (scene.now + 1000) (scene.setMonster r m')) ∨
      (nextCell routing r (scene.setMonster r m') m'.info.cellPos
          (scene.players target).info.cellPos).filter (fun nextPos =>
            ((nextPos - m'.homePos).manhattan : Int) ≤ m'.leashRange) = none ∧
        ∃ target', monsterChase routing r m' target scene =
          scene.setMonster r { m' with target := target' } := by
  have kept : scene.setMonster r m' = scene.setMonster r { m' with target := m'.target } := rfl
  have players : (scene.setMonster r m').players = scene.players := rfl
  unfold monsterChase nextCell
  dsimp only
  rw [players]
  match pathOf routing r (scene.setMonster r m') m'.info.cellPos
      (scene.players target).info.cellPos with
  | none => exact .inr ⟨rfl, m'.target, kept⟩
  | some [] => exact .inr ⟨rfl, m'.target, kept⟩
  | some [_] => exact .inr ⟨rfl, m'.target, kept⟩
  | some (_ :: nextPos :: _) =>
      dsimp only
      by_cases far : m'.leashRange < ((nextPos - m'.homePos).manhattan : Int)
      · right
        rw [if_pos far]
        refine ⟨?_, none, setMonster_twice r scene m' _ rfl⟩
        split <;> simp [far]
      · rw [if_neg far]
        split
        case isTrue => exact .inl ⟨nextPos, by simpa [Option.filter] using not_lt.mp far, rfl⟩
        case isFalse => exact .inr ⟨rfl, m'.target, kept⟩

theorem monsterUpdateIdle_homeward (aimless : monsterAim routing r m scene = none) :
    ∃ target, monsterUpdateIdle routing r m scene =
      if m.offLeash ∨ m.info.cellPos ≠ m.homed.homePos then
        monsterGoHome routing r (m.aiming target) scene
      else scene.setMonster r (m.aiming target) := by
  obtain ⟨info, leash, aggro, -⟩ := homed_keeps m
  unfold monsterAim at aimless
  unfold monsterUpdateIdle
  dsimp only
  generalize housed : (if m.homePos = ⟨-1, -1⟩ then { m with homePos := m.info.cellPos } else m) = m'
  obtain rfl : m.homed = m' := housed
  by_cases off : m.homed.leashRange < ((m.homed.info.cellPos - m.homed.homePos).manhattan : Int)
  · have leashed : m.offLeash := by
      unfold Monster.offLeash
      rwa [← info, ← leash]
    refine ⟨none, ?_⟩
    rw [if_pos off, if_pos (Or.inl leashed)]
    rfl
  · have leashed : ¬ m.offLeash := by
      unfold Monster.offLeash
      rwa [← info, ← leash]
    rw [if_neg off]
    rw [if_neg leashed] at aimless
    simp only [leashed, false_or]
    have same (target : Option ObjectId) (is : target = m.homed.target) :
        m.homed = m.aiming target := by
      rw [is]
      rfl
    cases choice : chooseTarget routing r m.homed scene with
    | none =>
        refine ⟨m.homed.target, ?_⟩
        dsimp only
        rw [info, ← same _ rfl]
    | some target =>
        have far := Option.filter_eq_none_iff.mp aimless target choice
        have far : m.homed.aggroRange < (distanceTo scene m target : Int) := by
          rw [aggro]
          exact not_le.mp fun near => far (decide_eq_true near)
        unfold distanceTo at far
        rw [← info] at far
        refine ⟨none, ?_⟩
        dsimp only
        rw [if_pos far]
        simp only [Monster.aiming, info]

include member distinct in
theorem monsterUpdateIdle_turn (state : m.info.state = .idle) :
    MonsterTurn routing r scene m (monsterUpdateIdle routing r m scene) := by
  have awake : ¬ (m.info.state ≠ .idle) := not_not.mpr state
  cases aims : monsterAim routing r m scene with
  | none =>
      obtain ⟨target, result⟩ := monsterUpdateIdle_homeward routing r scene m aims
      have alone (target : ObjectId) (hunts : monsterAim routing r m scene = some target) :
          distanceTo scene m target ≠ 1 := by
        rw [aims] at hunts
        cases hunts
      obtain ⟨info, home, -⟩ := aiming_keeps m target
      have pause : monsterPause routing r m scene = 300 := by rw [monsterPause, aims]
      have step : monsterStep routing r m scene =
          if m.offLeash ∨ m.info.cellPos ≠ m.homed.homePos then
            nextCell routing r scene m.info.cellPos m.homed.homePos
          else none := by
        rw [monsterStep, if_neg awake, aims]
      rw [result]
      split
      case isFalse stays =>
        rw [if_neg stays] at step
        exact .stays target state step alone (.refl _)
      case isTrue leaves =>
        rw [if_pos leaves] at step
        rw [monsterGoHome_eq, nextCell_setMonster routing r scene m member distinct _ info, info, home]
        cases next : nextCell routing r scene m.info.cellPos m.homed.homePos with
        | none => exact .stays target state (step.trans next) alone (.refl _)
        | some nextPos =>
            apply MonsterTurn.goes nextPos target state (step.trans next)
            rw [pause]
            exact monsterGo_ground routing r scene _ nextPos _
  | some target =>
      obtain ⟨info, home, leash⟩ := aiming_keeps m (some target)
      have pause : monsterPause routing r m scene = 1000 := by rw [monsterPause, aims]
      have chosen : ({ m.homed with target := some target } : Monster) = m.aiming (some target) := rfl
      rw [monsterUpdateIdle_aims routing r m scene target aims, chosen]
      split
      case isTrue near =>
        apply MonsterTurn.attacks target state aims near
        have told := Scene.SameGround.broadcast routing r
          (.move ((m.aiming (some target)).striking (scene.players target).info.cellPos
            (scene.now + 1000)).info)
          (scene.setMonster r ((m.aiming (some target)).striking
            (scene.players target).info.cellPos (scene.now + 1000)))
        exact (told.trans (.hurtPlayer target _ _)).trans (.broadcast routing r _ _)
      case isFalse apart =>
        have step : monsterStep routing r m scene =
            (nextCell routing r scene m.info.cellPos (scene.players target).info.cellPos).filter
              fun nextPos => ((nextPos - m.homed.homePos).manhattan : Int) ≤ m.leashRange := by
          rw [monsterStep, if_neg awake, aims]
          exact if_neg apart
        rw [← nextCell_setMonster routing r scene m member distinct _ info, ← info, ← home,
          ← leash] at step
        rcases monsterChase_cases routing r scene (m.aiming (some target)) target with
          ⟨nextPos, steps, result⟩ | ⟨still, target', result⟩
        · apply MonsterTurn.goes nextPos (some target) state (step.trans steps)
          rw [pause, result]
          exact monsterGo_ground routing r scene (m.aiming (some target)) nextPos (scene.now + 1000)
        · apply MonsterTurn.stays target' state (step.trans still)
            (fun other hunts => Option.some.inj (aims.symm.trans hunts) ▸ apart)
          rw [result]
          exact .refl _

include distinct in
theorem monsterUpdate_turn (found : (scene.fields r).monster m.info.objectId = some m) :
    MonsterTurn routing r scene m (monsterUpdate routing r scene m.info.objectId) := by
  have rested (state : m.info.state ≠ .idle) :
      MonsterTurn routing r scene m (monsterRest r m scene) := by
    unfold monsterRest
    split
    case isTrue early => exact .busy state early (.refl scene)
    case isFalse due => exact .wakes state (Nat.le_of_not_lt due) (.refl _)
  unfold monsterUpdate
  rw [found]
  dsimp only
  cases state : m.info.state with
  | idle =>
      exact monsterUpdateIdle_turn routing r scene m (List.mem_of_find?_eq_some found) distinct state
  | move => exact rested (by simp [state])
  | skill => exact rested (by simp [state])

end Update

end Room

end ZeldaServer
