import ZeldaServer.Lib.Runs
import ZeldaServer.World.Confinement

/-! What the objects of a room do, taken apart into single changes: of a player, of a
monster, of the arrows. A monster that is removed is the label of its change. -/

namespace ZeldaServer

open Chains (Chain)

variable (data : GameData)

def Player.gait (p : Player) : ObjectId × Vec2Int × ObjectState × Nat :=
  (p.info.objectId, p.info.cellPos, p.info.state, p.moveEndTick)

def Monster.tag (m : Monster) : ObjectId × Int × Int × Int :=
  (m.info.objectId, m.templateId, m.aggroRange, m.leashRange)

/-- `RemoveObject` of a monster, up to its broadcast. -/
def Scene.dropMonster (scene : Scene) (r : RoomRef) (m : Monster) : Scene :=
  let field := tryReserve m scene.now (scene.fields r)
  scene.setField r
    { field with monsters := field.monsters.filter (·.info.objectId ≠ m.info.objectId) }

theorem fault_fail (scene : Scene) (fault : Fault) : (scene.fail fault).fault ≠ none := by
  unfold Scene.fail
  cases scene.fault <;> simp

structure Scene.Quiet (a b : Scene) : Prop extends a.SameObjects b where
  now : b.now = a.now
  fault : b.fault = none → a.fault = none

namespace Scene.Quiet

theorem refl (scene : Scene) : scene.Quiet scene := ⟨.refl scene, rfl, fun fine => fine⟩

theorem trans {a b c : Scene} (first : a.Quiet b) (second : b.Quiet c) : a.Quiet c :=
  ⟨first.toSameObjects.trans second.toSameObjects, second.now.trans first.now,
    fun fine => first.fault (second.fault fine)⟩

theorem of_same {a b : Scene} (players : b.players = a.players) (fields : b.fields = a.fields)
    (now : b.now = a.now) (fault : b.fault = a.fault) : a.Quiet b :=
  ⟨⟨players, fields⟩, now, fun fine => fault ▸ fine⟩

theorem fail (scene : Scene) (fault : Fault) : scene.Quiet (scene.fail fault) :=
  ⟨⟨rfl, rfl⟩, rfl, fun fine => absurd fine (fault_fail scene fault)⟩

theorem send (scene : Scene) (s : SessionId) (pkt : ServerPacket) :
    scene.Quiet (scene.send s pkt) := of_same rfl rfl rfl rfl

theorem foldl {Item : Type} (f : Scene → Item → Scene)
    (step : ∀ (scene : Scene) item, scene.Quiet (f scene item)) (items : List Item)
    (scene : Scene) : scene.Quiet (items.foldl f scene) := by
  induction items generalizing scene with
  | nil => exact refl scene
  | cons head tail ih => exact (step scene head).trans (ih (f scene head))

theorem broadcast (routing : Routing) (r : RoomRef) (pkt : ServerPacket) (scene : Scene) :
    scene.Quiet (broadcast routing r pkt scene) := by
  apply foldl
  intro scene id
  cases routing.playerSession id with
  | none => exact fail scene .nullPointer
  | some s => exact send scene s pkt

theorem sendToPlayer (routing : Routing) (id : ObjectId) (pkt : ServerPacket) (scene : Scene) :
    scene.Quiet (sendToPlayer routing id pkt scene) := by
  unfold ZeldaServer.sendToPlayer
  cases routing.playerSession id with
  | none => exact refl scene
  | some s => exact send scene s pkt

theorem redisCommand (scene : Scene) (command : RedisCommand) :
    scene.Quiet (scene.redisCommand command) := by
  unfold Scene.redisCommand
  split
  · exact of_same rfl rfl rfl rfl
  · exact fail scene .redisDown

theorem emit (routing : Routing) (id : ObjectId) (scene : Scene) (emission : Emission) :
    scene.Quiet (emit routing id scene emission) := by
  cases emission with
  | session pkt => exact sendToPlayer routing id pkt scene
  | room pkt =>
      unfold ZeldaServer.emit
      cases routing.playerRoom id with
      | none => exact refl scene
      | some r => exact broadcast routing r pkt scene
  | rank name level => exact redisCommand scene _

theorem emissions (routing : Routing) (id : ObjectId) (emissions : List Emission) (scene : Scene) :
    scene.Quiet (emissions.foldl (ZeldaServer.emit routing id) scene) :=
  foldl _ (emit routing id) emissions scene

theorem draw (scene : Scene) : scene.Quiet scene.draw.2 := by
  unfold Scene.draw
  cases scene.rand with
  | nil => exact fail scene .unfinished
  | cons n rest => exact of_same rfl rfl rfl rfl

end Scene.Quiet

def ServerPacket.isView : ServerPacket → Bool
  | .myPlayer _ | .addObject _ | .removeObject _ | .move _ | .turn _ | .damaged _ _ _ _
  | .levelUp _ _ _ _ _ _ | .useItem _ _ _ => true
  | _ => false

/-- Up to a fault that is not Redis's, all that is done is to send packets that show nothing
of the objects. -/
inductive Scene.Whispers (a : Scene) : Scene → Prop where
  | silent : Whispers a a
  | told (b : Scene) (before : Whispers a b) (s : SessionId) (pkt : ServerPacket)
      (hidden : pkt.isView = false) : Whispers a (b.send s pkt)
  | failed (b : Scene) (before : Whispers a b) (fault : Fault) (other : fault ≠ .redisDown) :
      Whispers a (b.fail fault)

namespace Scene.Whispers

theorem trans {a b c : Scene} (first : a.Whispers b) (second : b.Whispers c) : a.Whispers c := by
  induction second with
  | silent => exact first
  | told d _ s pkt hidden ih => exact .told d ih s pkt hidden
  | failed d _ fault other ih => exact .failed d ih fault other

theorem send (scene : Scene) (s : SessionId) (pkt : ServerPacket) (hidden : pkt.isView = false) :
    scene.Whispers (scene.send s pkt) := .told scene .silent s pkt hidden

theorem sendToPlayer (routing : Routing) (id : ObjectId) (pkt : ServerPacket)
    (hidden : pkt.isView = false) (scene : Scene) :
    scene.Whispers (sendToPlayer routing id pkt scene) := by
  unfold ZeldaServer.sendToPlayer
  cases routing.playerSession id with
  | none => exact .silent
  | some s => exact send scene s pkt hidden

theorem sendToMembers (r : RoomRef) (memberIds : List ObjectId) (pkt : ServerPacket)
    (hidden : pkt.isView = false) (w : World) :
    w.scene.Whispers (sendToMembers r memberIds pkt w).scene := by
  unfold ZeldaServer.sendToMembers World.onScene
  dsimp only
  generalize w.scene = scene
  induction memberIds generalizing scene with
  | nil => exact .silent
  | cons id ids ih =>
      rw [List.foldl_cons]
      apply trans _ (ih _)
      split
      · exact sendToPlayer w.routing id pkt hidden scene
      · exact .silent

theorem quiet {a b : Scene} (whispers : a.Whispers b) : a.Quiet b := by
  induction whispers with
  | silent => exact .refl a
  | told b _ s pkt _ ih => exact ih.trans (.send b s pkt)
  | failed b _ fault _ ih => exact ih.trans (.fail b fault)

end Scene.Whispers

/-- One change of what is in room `r`, at one time. -/
inductive Scene.Deed (routing : Routing) (r : RoomRef) (a : Scene) : List Monster → Scene → Prop where
  | quiet (b : Scene) (same : a.Quiet b) : Deed routing r a [] b
  | player (id : ObjectId) (p : Player) (gait : p.gait = (a.players id).gait) :
      Deed routing r a [] (a.setPlayer id p)
  | tick (id : ObjectId) :
      Deed routing r a [] (a.setPlayer id (Player.update a.now (a.players id)).1)
  | monster (m m' : Monster) (member : m ∈ (a.fields r).monsters) (tag : m'.tag = m.tag)
      (cell : m'.info.cellPos = m.info.cellPos ∨ canGo routing a r m'.info.cellPos = true) :
      Deed routing r a [] (a.setMonster r m')
  | removed (m : Monster) (member : m ∈ (a.fields r).monsters) :
      Deed routing r a [m] (a.dropMonster r m)
  | arrows (projectiles : List Arrow)
      (known : ∀ arrow ∈ projectiles, ∃ old ∈ (a.fields r).projectiles,
        arrow.info.objectId = old.info.objectId ∧ arrow.ownerId = old.ownerId) :
      Deed routing r a [] (a.setField r { a.fields r with projectiles })

abbrev Scene.Deeds (routing : Routing) (r : RoomRef) : Scene → List Monster → Scene → Prop :=
  Chain (Scene.Deed routing r)

namespace Player

theorem recalcStats_gait (p : Player) : (recalcStats data p).gait = p.gait := by
  unfold recalcStats
  cases data.levelData p.level <;> rfl

theorem processLevelUp_gait (p : Player) : (processLevelUp data p).1.gait = p.gait := by
  unfold processLevelUp
  dsimp only
  cases data.levelData (p.level + 1) with
  | none => rfl
  | some row => exact recalcStats_gait data _

theorem levelUps_gait (passes : Nat) (p : Player) : (levelUps data passes p).1.gait = p.gait := by
  induction passes generalizing p with
  | zero => rfl
  | succ passes ih =>
      unfold levelUps
      split
      · dsimp only
        split
        · rfl
        · exact (ih _).trans (processLevelUp_gait data _)
      · rfl

theorem gainExp_gait (amount : Int) (p : Player) : (gainExp data amount p).1.gait = p.gait := by
  unfold gainExp
  split
  · rfl
  · split
    · rfl
    · exact levelUps_gait data _ _

theorem addItem_gait (itemId count : Int) (p : Player) :
    (addItem data itemId count p).2.1.gait = p.gait := by
  unfold addItem
  cases data.itemTemplate itemId with
  | none => rfl
  | some tmpl =>
      dsimp only
      split
      · rfl
      · cases p.findEmptySlot <;> rfl

theorem setEquipped_gait (p : Player) (slot : InventorySlot) (equip : EquipSlot) :
    (p.setEquipped slot equip).gait = p.gait := by
  cases equip <;> rfl

theorem equipItem_gait (slot : Int) (p : Player) : (equipItem data slot p).1.gait = p.gait := by
  unfold equipItem
  cases storageSlot slot with
  | none => rfl
  | some i =>
      dsimp only
      split
      · rfl
      · cases data.itemTemplate (p.storage i).itemId with
        | none => rfl
        | some tmpl =>
            dsimp only
            cases EquipSlot.ofItemType tmpl.type with
            | none => rfl
            | some equip => exact (recalcStats_gait data _).trans (setEquipped_gait p _ equip)

theorem unequipItem_gait (equipType : Int) (p : Player) :
    (unequipItem data equipType p).1.gait = p.gait := by
  unfold unequipItem
  cases EquipSlot.ofEquipType equipType with
  | none => rfl
  | some equip =>
      dsimp only
      split
      · rfl
      · cases p.findEmptySlot with
        | none => rfl
        | some i => exact (recalcStats_gait data _).trans (setEquipped_gait _ _ equip)

theorem useItem_gait (slot : Int) (p : Player) : (useItem data slot p).1.gait = p.gait := by
  unfold useItem
  cases UseSlot.ofInt slot with
  | none => rfl
  | some target =>
      dsimp only
      split
      · rfl
      · cases data.itemTemplate (p.useSlot target).itemId with
        | none => rfl
        | some tmpl =>
            dsimp only
            split
            · rfl
            · cases target <;> rfl

theorem onDamaged_gait (p : Player) (damage : Int) : (p.onDamaged damage).gait = p.gait := by
  unfold onDamaged ObjectInfo.onDamaged
  split <;> rfl

end Player

section Objects

variable (routing : Routing) (r : RoomRef)

namespace Scene.Deeds

theorem quiet {a b : Scene} (same : a.Quiet b) : a.Deeds routing r [] b :=
  Chain.single (.quiet b same)

theorem followed {a b c : Scene} {removed : List Monster} (first : a.Deeds routing r [] b)
    (second : b.Deeds routing r removed c) : a.Deeds routing r removed c :=
  first.append second

theorem broadcast (pkt : ServerPacket) (scene : Scene) (r' : RoomRef) :
    scene.Deeds routing r [] (broadcast routing r' pkt scene) :=
  quiet routing r (.broadcast routing r' pkt scene)

theorem foldl {Item : Type} (f : Scene → Item → Scene)
    (calls : ∀ (scene : Scene) item, scene.Deeds routing r [] (f scene item)) (items : List Item)
    (scene : Scene) : scene.Deeds routing r [] (items.foldl f scene) := by
  induction items generalizing scene with
  | nil => exact .done scene
  | cons head tail ih => exact (calls scene head).append (ih (f scene head))

theorem setPlayer (id : ObjectId) (p : Player) (scene : Scene)
    (gait : p.gait = (scene.players id).gait) : scene.Deeds routing r [] (scene.setPlayer id p) :=
  Chain.single (.player id p gait)

theorem actPlayer (id : ObjectId) (method : Player → Player × List Emission) (scene : Scene)
    (gait : ∀ p, (method p).1.gait = p.gait) :
    scene.Deeds routing r [] (actPlayer routing id method scene) := by
  apply followed routing r (setPlayer routing r id _ scene (gait _))
  exact quiet routing r (.emissions routing id _ _)

theorem hurtPlayer (id : ObjectId) (damage : Int) (scene : Scene) :
    scene.Deeds routing r [] (scene.hurtPlayer id damage) :=
  setPlayer routing r id _ scene (Player.onDamaged_gait _ damage)

theorem distributeExp (killer : ObjectId) (m : Monster) (scene : Scene) :
    scene.Deeds routing r [] (distributeExp data routing r killer m scene) := by
  have gain (share : Int) (scene : Scene) (id : ObjectId) :
      scene.Deeds routing r []
        (ZeldaServer.actPlayer routing id (Player.gainExp data share) scene) :=
    actPlayer routing r id _ scene (Player.gainExp_gait data share)
  unfold ZeldaServer.distributeExp
  dsimp only
  cases data.monsterTemplate m.templateId with
  | none => exact .done scene
  | some templateData =>
      dsimp only
      split
      · exact .done scene
      · split
        · exact gain _ scene killer
        · cases routing.parties.parties (routing.parties.partyIdByPlayer killer) with
          | none => exact gain _ scene killer
          | some party => exact foldl routing r _ (gain _) _ scene

theorem processMonsterDrop (killer : ObjectId) (m : Monster) (scene : Scene) :
    scene.Deeds routing r [] (processMonsterDrop data routing killer m scene) := by
  unfold ZeldaServer.processMonsterDrop
  cases data.monsterDrops m.templateId with
  | none => exact .done scene
  | some drops =>
      apply foldl
      intro scene drop
      dsimp only
      split
      · apply followed routing r (quiet routing r (.draw scene))
        apply actPlayer
        exact Player.addItem_gait data drop.itemId 1
      · exact quiet routing r (.draw scene)

theorem setMonster (m m' : Monster) (scene : Scene) (member : m ∈ (scene.fields r).monsters)
    (tag : m'.tag = m.tag)
    (cell : m'.info.cellPos = m.info.cellPos ∨ canGo routing scene r m'.info.cellPos = true) :
    scene.Deeds routing r [] (scene.setMonster r m') :=
  Chain.single (.monster m m' member tag cell)

theorem mem_setMonster (m m' : Monster) (scene : Scene) (member : m ∈ (scene.fields r).monsters)
    (named : m'.info.objectId = m.info.objectId) :
    m' ∈ ((scene.setMonster r m').fields r).monsters := by
  simp only [Scene.setMonster, Scene.setField, Function.update_self, List.mem_map]
  exact ⟨m, member, if_pos named.symm⟩

end Scene.Deeds

theorem onDamaged_keeps (info : ObjectInfo) (damage : Int) :
    (info.onDamaged damage).objectId = info.objectId ∧
      (info.onDamaged damage).cellPos = info.cellPos := by
  unfold ObjectInfo.onDamaged
  split <;> exact ⟨rfl, rfl⟩

/-- The monster that `hitMonster` leaves. -/
def Monster.damaged (m : Monster) (damage : Int) : Monster :=
  { m with info := m.info.onDamaged damage }

theorem hitMonster_fst (attackerId : ObjectId) (damage : Int) (m : Monster) (scene : Scene) :
    (hitMonster routing r attackerId damage m scene).1 = m.damaged damage := rfl

theorem damaged_tag (m : Monster) (damage : Int) : (m.damaged damage).tag = m.tag := by
  have kept := onDamaged_keeps m.info damage
  simp only [Monster.damaged, Monster.tag, kept.1]

namespace Scene.Deeds

theorem hitMonster (attackerId : ObjectId) (damage : Int) (m : Monster) (scene : Scene)
    (member : m ∈ (scene.fields r).monsters) :
    scene.Deeds routing r [] (hitMonster routing r attackerId damage m scene).2 ∧
      m.damaged damage ∈
        ((ZeldaServer.hitMonster routing r attackerId damage m scene).2.fields r).monsters := by
  have kept := onDamaged_keeps m.info damage
  constructor
  · apply followed routing r (setMonster routing r m (m.damaged damage) scene member
      (damaged_tag m damage) (.inl kept.2))
    exact broadcast routing r _ _ r
  · unfold ZeldaServer.hitMonster
    dsimp only
    rw [(Scene.SameObjects.broadcast routing r _ _).fields]
    exact mem_setMonster r m (m.damaged damage) scene member kept.1

theorem removeMonster (m : Monster) (scene : Scene) (member : m ∈ (scene.fields r).monsters) :
    scene.Deeds routing r [m] (removeMonster routing r m scene) :=
  (Chain.single (.removed m member)).append (broadcast routing r _ (scene.dropMonster r m) r)

theorem killMonster (killer : ObjectId) (m : Monster) (scene : Scene)
    (member : m ∈ (scene.fields r).monsters) :
    scene.Deeds routing r [m] (killMonster data routing r killer m scene) := by
  have gained := distributeExp data routing r killer m scene
  have dropped := processMonsterDrop data routing r killer m
    (ZeldaServer.distributeExp data routing r killer m scene)
  apply (gained.append dropped).append
  apply removeMonster
  rwa [rewards_fields]

theorem monsterGo (m old : Monster) (nextPos : Vec2Int) (waitUntil : Nat) (scene : Scene)
    (member : old ∈ (scene.fields r).monsters) (tag : m.tag = old.tag)
    (free : canGo routing scene r nextPos = true) :
    scene.Deeds routing r [] (monsterGo routing r m nextPos waitUntil scene) := by
  unfold ZeldaServer.monsterGo
  dsimp only
  apply followed routing r _ (broadcast routing r _ _ r)
  apply setMonster routing r old _ scene member
  · exact tag
  · exact .inr free

theorem monsterGoHome (m old : Monster) (scene : Scene) (member : old ∈ (scene.fields r).monsters)
    (tag : m.tag = old.tag) (cell : m.info.cellPos = old.info.cellPos) :
    scene.Deeds routing r [] (monsterGoHome routing r m scene) := by
  have stayed := setMonster routing r old m scene member tag (.inl cell)
  have named : m.info.objectId = old.info.objectId := congrArg Prod.fst tag
  have member' := mem_setMonster r old m scene member named
  unfold ZeldaServer.monsterGoHome
  dsimp only
  split
  · split
    case isTrue free =>
      exact stayed.append (monsterGo routing r m m _ _ _ member' rfl free)
    case isFalse => exact stayed
  · exact stayed

theorem monsterChase (m old : Monster) (target : ObjectId) (scene : Scene)
    (member : old ∈ (scene.fields r).monsters) (tag : m.tag = old.tag)
    (cell : m.info.cellPos = old.info.cellPos) :
    scene.Deeds routing r [] (monsterChase routing r m target scene) := by
  have stayed := setMonster routing r old m scene member tag (.inl cell)
  have named : m.info.objectId = old.info.objectId := congrArg Prod.fst tag
  have member' := mem_setMonster r old m scene member named
  unfold ZeldaServer.monsterChase
  dsimp only
  split
  · split
    · exact stayed.append (setMonster routing r m _ _ member' rfl (.inl rfl))
    · split
      case isTrue free =>
        exact stayed.append (monsterGo routing r m m _ _ _ member' rfl free)
      case isFalse => exact stayed
  · exact stayed

theorem monsterAttack (m old : Monster) (target : ObjectId) (scene : Scene)
    (member : old ∈ (scene.fields r).monsters) (tag : m.tag = old.tag)
    (cell : m.info.cellPos = old.info.cellPos) :
    scene.Deeds routing r [] (monsterAttack routing r m target scene) := by
  unfold ZeldaServer.monsterAttack
  dsimp only
  apply followed routing r _ (broadcast routing r _ _ r)
  apply followed routing r _ (hurtPlayer routing r target _ _)
  apply followed routing r _ (broadcast routing r _ _ r)
  exact setMonster routing r old _ scene member tag (.inl cell)

theorem monsterUpdateIdle (m : Monster) (scene : Scene) (member : m ∈ (scene.fields r).monsters) :
    scene.Deeds routing r [] (monsterUpdateIdle routing r m scene) := by
  unfold ZeldaServer.monsterUpdateIdle
  dsimp only
  generalize housed : (if m.homePos = ⟨-1, -1⟩ then { m with homePos := m.info.cellPos } else m) = m'
  have alike : m'.info = m.info ∧ m'.tag = m.tag := by
    rw [← housed]
    split <;> exact ⟨rfl, rfl⟩
  have tag := alike.2
  have cell : m'.info.cellPos = m.info.cellPos := by rw [alike.1]
  split
  · exact monsterGoHome routing r _ m scene member tag cell
  · cases chooseTarget routing r m' scene with
    | none =>
        dsimp only
        split
        · exact monsterGoHome routing r m' m scene member tag cell
        · exact setMonster routing r m m' scene member tag (.inl cell)
    | some target =>
        dsimp only
        split
        · split
          · exact monsterGoHome routing r _ m scene member tag cell
          · exact setMonster routing r m _ scene member tag (.inl cell)
        · split
          · exact monsterAttack routing r _ m target scene member tag cell
          · exact monsterChase routing r _ m target scene member tag cell

theorem monsterUpdate (scene : Scene) (id : ObjectId) :
    scene.Deeds routing r [] (monsterUpdate routing r scene id) := by
  unfold ZeldaServer.monsterUpdate
  cases found : (scene.fields r).monster id with
  | none => exact .done scene
  | some m =>
      have member : m ∈ (scene.fields r).monsters := List.mem_of_find?_eq_some found
      have rested : scene.Deeds routing r [] (monsterRest r m scene) := by
        unfold monsterRest
        split
        · exact .done scene
        · exact setMonster routing r m _ scene member rfl (.inl rfl)
      dsimp only
      cases m.info.state with
      | idle => exact monsterUpdateIdle routing r m scene member
      | move => exact rested
      | skill => exact rested

end Scene.Deeds

end Objects

section Arrows

variable (routing : Routing) (r : RoomRef)

namespace Scene.Deeds

theorem setProjectile (a : Arrow) (old : Arrow) (scene : Scene)
    (member : old ∈ (scene.fields r).projectiles)
    (same : a.info.objectId = old.info.objectId ∧ a.ownerId = old.ownerId) :
    scene.Deeds routing r [] (scene.setProjectile r a) := by
  apply Chain.single
  apply Scene.Deed.arrows
  intro arrow listed
  obtain ⟨other, known, rfl⟩ := List.mem_map.mp listed
  split
  · exact ⟨old, member, same⟩
  · exact ⟨other, known, rfl, rfl⟩

theorem mem_setProjectile (a old : Arrow) (scene : Scene)
    (member : old ∈ (scene.fields r).projectiles) (named : a.info.objectId = old.info.objectId) :
    a ∈ ((scene.setProjectile r a).fields r).projectiles := by
  simp only [Scene.setProjectile, Scene.setField, Function.update_self, List.mem_map]
  exact ⟨old, member, if_pos named.symm⟩

theorem removeProjectile (id : ObjectId) (scene : Scene) :
    scene.Deeds routing r [] (removeProjectile routing r id scene) := by
  apply followed routing r _ (broadcast routing r _ _ r)
  apply Chain.single
  apply Scene.Deed.arrows
  intro arrow listed
  exact ⟨arrow, (List.mem_filter.mp listed).1, rfl, rfl⟩

theorem arrowHit (a : Arrow) (target : Monster) (scene : Scene)
    (member : target ∈ (scene.fields r).monsters) :
    ∃ removed, scene.Deeds routing r removed (arrowHit data routing r a target scene) := by
  unfold ZeldaServer.arrowHit
  dsimp only
  cases findObject routing scene r a.ownerId with
  | none => exact ⟨[], removeProjectile routing r _ _⟩
  | some owner =>
      have hit := hitMonster routing r (owner.info scene).objectId
        (max 1 ((owner.info scene).attack - target.info.defence)) target scene member
      dsimp only
      split
      · cases owner with
        | player killer =>
            have killed := killMonster data routing r killer _ _ hit.2
            exact ⟨_, (followed routing r hit.1 killed).append (removeProjectile routing r _ _)⟩
        | monster m =>
            have dropped := removeMonster routing r _ _ hit.2
            exact ⟨_, (followed routing r hit.1 dropped).append (removeProjectile routing r _ _)⟩
        | projectile other =>
            have dropped := removeMonster routing r _ _ hit.2
            exact ⟨_, (followed routing r hit.1 dropped).append (removeProjectile routing r _ _)⟩
      · exact ⟨[], followed routing r hit.1 (removeProjectile routing r _ _)⟩

theorem arrowUpdateIdle (a : Arrow) (scene : Scene) (member : a ∈ (scene.fields r).projectiles) :
    ∃ removed, scene.Deeds routing r removed (arrowUpdateIdle data routing r a scene) := by
  unfold ZeldaServer.arrowUpdateIdle
  split
  · exact ⟨[], .done scene⟩
  · cases deltaXY a.info.dir with
    | none => exact ⟨[], quiet routing r (.fail scene .outOfBounds)⟩
    | some delta =>
        dsimp only
        split
        · exact ⟨[], removeProjectile routing r _ _⟩
        · cases met : monsterAt scene r (a.info.cellPos + delta) with
          | some target =>
              exact arrowHit data routing r a target scene (List.mem_of_find?_eq_some met)
          | none =>
              refine ⟨[], ?_⟩
              dsimp only
              apply followed routing r _ (broadcast routing r _ _ r)
              apply followed routing r _ (broadcast routing r _ _ r)
              apply followed routing r _ (broadcast routing r _ _ r)
              exact setProjectile routing r _ a scene member ⟨rfl, rfl⟩

theorem arrowUpdateMove (a : Arrow) (scene : Scene) (member : a ∈ (scene.fields r).projectiles) :
    scene.Deeds routing r [] (arrowUpdateMove routing r a scene) := by
  unfold ZeldaServer.arrowUpdateMove
  split
  · exact .done scene
  · dsimp only
    apply followed routing r _ (broadcast routing r _ _ r)
    apply followed routing r _ (broadcast routing r _ _ r)
    exact setProjectile routing r _ a scene member ⟨rfl, rfl⟩

theorem arrowUpdate (scene : Scene) (id : ObjectId) :
    ∃ removed, scene.Deeds routing r removed (arrowUpdate data routing r scene id) := by
  unfold ZeldaServer.arrowUpdate
  cases found : (scene.fields r).projectile id with
  | none => exact ⟨[], .done scene⟩
  | some fired =>
      have member : fired ∈ (scene.fields r).projectiles := List.mem_of_find?_eq_some found
      have started : (arrowStart scene.now fired).info = fired.info ∧
          (arrowStart scene.now fired).ownerId = fired.ownerId := by
        unfold arrowStart
        split <;> exact ⟨rfl, rfl⟩
      have named : (arrowStart scene.now fired).info.objectId = fired.info.objectId := by
        rw [started.1]
      have first := setProjectile routing r (arrowStart scene.now fired) fired scene member
        ⟨named, started.2⟩
      have member' := mem_setProjectile r (arrowStart scene.now fired) fired scene member named
      dsimp only
      split
      · exact ⟨[], followed routing r first (removeProjectile routing r _ _)⟩
      · split
        · exact ⟨[], followed routing r first (removeProjectile routing r _ _)⟩
        · cases (arrowStart scene.now fired).info.state with
          | idle =>
              obtain ⟨removed, flown⟩ := arrowUpdateIdle data routing r _ _ member'
              exact ⟨removed, followed routing r first flown⟩
          | move =>
              exact ⟨[], followed routing r first (arrowUpdateMove routing r _ _ member')⟩
          | skill =>
              refine ⟨[], followed routing r first ?_⟩
              apply followed routing r _ (broadcast routing r _ _ r)
              exact setProjectile routing r _ _ _ member' ⟨rfl, rfl⟩

theorem playerUpdate (scene : Scene) (id : ObjectId) :
    scene.Deeds routing r []
      (ZeldaServer.actPlayer routing id (Player.update scene.now) scene) := by
  apply followed routing r (Chain.single (.tick id))
  exact quiet routing r (.emissions routing id _ _)

end Scene.Deeds

/-- The loops of `GameRoom::Step` over the players, the monsters and the projectiles. -/
def stepPlayers (scene : Scene) : Scene :=
  (playerIds routing r).foldl (fun scene id =>
    actPlayer routing id (Player.update scene.now) scene) scene

def stepMonsters (scene : Scene) : Scene :=
  ((scene.fields r).monsters.map (·.info.objectId)).foldl (monsterUpdate routing r) scene

def stepArrows (scene : Scene) : Scene :=
  ((scene.fields r).projectiles.map (·.info.objectId)).foldl (arrowUpdate data routing r) scene

def stepObjects (scene : Scene) : Scene :=
  stepArrows data routing r (stepMonsters routing r (stepPlayers routing r scene))

theorem gameStep_eq (scene : Scene) (idGen : ObjectId) :
    gameStep data routing r scene idGen =
      spawnTick data routing r (stepObjects data routing r scene) idGen := rfl

namespace Scene.Deeds

theorem stepPlayers (scene : Scene) : scene.Deeds routing r [] (stepPlayers routing r scene) :=
  foldl routing r _ (playerUpdate routing r) _ scene

theorem stepMonsters (scene : Scene) : scene.Deeds routing r [] (stepMonsters routing r scene) :=
  foldl routing r _ (monsterUpdate routing r) _ scene

theorem stepArrows (scene : Scene) :
    ∃ removed, scene.Deeds routing r removed (stepArrows data routing r scene) := by
  obtain ⟨removed, chain, -⟩ := Chain.foldl (fun _ => True) (ZeldaServer.arrowUpdate data routing r)
    (fun scene id _ => by
      obtain ⟨removed, chain⟩ := arrowUpdate data routing r scene id
      exact ⟨removed, chain, trivial⟩)
    ((scene.fields r).projectiles.map (·.info.objectId)) scene trivial
  exact ⟨removed, chain⟩

theorem stepObjects (scene : Scene) :
    ∃ removed, scene.Deeds routing r removed (stepObjects data routing r scene) := by
  obtain ⟨removed, flown⟩ := stepArrows data routing r
    (ZeldaServer.stepMonsters routing r (ZeldaServer.stepPlayers routing r scene))
  refine ⟨removed, followed routing r (stepPlayers routing r scene) ?_⟩
  exact followed routing r (stepMonsters routing r _) flown

end Scene.Deeds

end Arrows

section Attacks

variable (routing : Routing) (r : RoomRef)

def Field.Distinct (field : Field) : Prop := (field.monsters.map (·.info.objectId)).Nodup

theorem Field.Distinct.same {field : Field} (distinct : field.Distinct) (m m' : Monster)
    (member : m ∈ field.monsters) (member' : m' ∈ field.monsters)
    (named : m.info.objectId = m'.info.objectId) : m = m' :=
  List.inj_on_of_nodup_map distinct member member' named

theorem setMonster_ids (m : Monster) (scene : Scene) :
    ((scene.setMonster r m).fields r).monsters.map (·.info.objectId) =
      (scene.fields r).monsters.map (·.info.objectId) := by
  simp only [Scene.setMonster, Scene.setField, Function.update_self, List.map_map]
  apply List.map_congr_left
  intro old _
  simp only [Function.comp_apply]
  split
  case isTrue named => exact named.symm
  case isFalse => rfl

theorem mem_setMonster_iff (m x : Monster) (scene : Scene)
    (named : m.info.objectId ∈ (scene.fields r).monsters.map (·.info.objectId)) :
    x ∈ ((scene.setMonster r m).fields r).monsters ↔
      x = m ∨ x ∈ (scene.fields r).monsters ∧ x.info.objectId ≠ m.info.objectId := by
  obtain ⟨known, member, same⟩ := List.mem_map.mp named
  simp only [Scene.setMonster, Scene.setField, Function.update_self, List.mem_map]
  constructor
  · intro found
    obtain ⟨old, listed, result⟩ := found
    split at result
    case isTrue => exact .inl result.symm
    case isFalse apart => exact .inr (result ▸ ⟨listed, apart⟩)
  · intro found
    rcases found with rfl | ⟨listed, apart⟩
    · exact ⟨known, member, if_pos same⟩
    · exact ⟨x, listed, if_neg apart⟩

theorem hitMonster_fields (attackerId : ObjectId) (damage : Int) (m : Monster) (scene : Scene) :
    (hitMonster routing r attackerId damage m scene).2.fields =
      (scene.setMonster r (m.damaged damage)).fields :=
  (Scene.SameObjects.broadcast routing r _ _).fields

/-- After the hits on some of the cells: the monsters that died are still there, nobody else
lost the last hp, and everybody stands where it stood. -/
structure StaffHits (before : Scene) (cells : List Vec2Int) (now : List Monster × Scene) : Prop where
  deeds : before.Deeds routing r [] now.2
  distinct : (now.2.fields r).Distinct
  dead : ∀ m ∈ now.1, m ∈ (now.2.fields r).monsters ∧ m.info.hp = 0 ∧ m.info.cellPos ∈ cells
  apart : now.1.Pairwise fun first second => first.info.objectId ≠ second.info.objectId
  others : ∀ m ∈ (now.2.fields r).monsters, m ∈ (before.fields r).monsters ∨ 1 ≤ m.info.hp ∨ m ∈ now.1

theorem onDamaged_hp (info : ObjectInfo) (damage : Int) (hurts : 1 ≤ damage) :
    (info.onDamaged damage).hp = 0 ∨ 1 ≤ (info.onDamaged damage).hp := by
  unfold ObjectInfo.onDamaged
  split
  · omega
  · dsimp only
    omega

theorem StaffHits.past {before : Scene} {cells : List Vec2Int} {now : List Monster × Scene}
    (hits : StaffHits routing r before cells now) (cell : Vec2Int) :
    StaffHits routing r before (cells ++ [cell]) now :=
  { hits with
    dead := by
      intro m listed
      obtain ⟨stands, zero, reached⟩ := hits.dead m listed
      exact ⟨stands, zero, List.mem_append_left _ reached⟩ }

theorem staffHits_cell (before : Scene) (attacker : ObjectInfo) (cells : List Vec2Int)
    (cell : Vec2Int) (now : List Monster × Scene) (hits : StaffHits routing r before cells now)
    (unseen : cell ∉ cells) :
    StaffHits routing r before (cells ++ [cell]) (staffCell routing r attacker now cell) := by
  obtain ⟨dead, scene⟩ := now
  cases seen : monsterAt scene r cell with
  | none =>
      have same : staffCell routing r attacker (dead, scene) cell = (dead, scene) := by
        rw [staffCell, seen]
      rw [same]
      exact hits.past routing r cell
  | some target =>
      rw [staffCell_eq routing r attacker (dead, scene) cell target seen]
      dsimp only
      generalize attacker.objectId = attackerId
      have hurts : 1 ≤ max 1 ((attacker.attack - target.info.defence).tdiv 2) := le_max_left ..
      generalize max 1 ((attacker.attack - target.info.defence).tdiv 2) = damage at hurts
      have member : target ∈ (scene.fields r).monsters := List.mem_of_find?_eq_some seen
      have stands : target.info.cellPos = cell := by simpa using List.find?_some seen
      have kept := onDamaged_keeps target.info damage
      have hp : (target.damaged damage).info.hp = 0 ∨ 1 ≤ (target.damaged damage).info.hp :=
        onDamaged_hp target.info damage hurts
      have named : (target.damaged damage).info.objectId = target.info.objectId := kept.1
      have listed : (target.damaged damage).info.objectId ∈
          (scene.fields r).monsters.map (·.info.objectId) :=
        List.mem_map.mpr ⟨target, member, named.symm⟩
      have fields := hitMonster_fields routing r attackerId damage target scene
      -- who died before stands on another cell, so that this hit is not its
      have other (m : Monster) (was : m ∈ dead) :
          m.info.objectId ≠ (target.damaged damage).info.objectId := by
        intro same
        have alike := hits.distinct.same m target (hits.dead m was).1 member (same.trans named)
        apply unseen
        rw [← stands, ← alike]
        exact (hits.dead m was).2.2
      have still (m : Monster) (was : m ∈ dead) :
          m ∈ ((hitMonster routing r attackerId damage target scene).2.fields r).monsters := by
        rw [fields, mem_setMonster_iff r _ m scene listed]
        exact .inr ⟨(hits.dead m was).1, other m was⟩
      have new : target.damaged damage ∈
          ((hitMonster routing r attackerId damage target scene).2.fields r).monsters := by
        rw [fields, mem_setMonster_iff r _ _ scene listed]
        exact .inl rfl
      rw [hitMonster_fst]
      constructor
      case deeds =>
        exact hits.deeds.append
          (Scene.Deeds.hitMonster routing r attackerId damage target scene member).1
      case distinct =>
        unfold Field.Distinct
        rw [fields, setMonster_ids]
        exact hits.distinct
      case dead =>
        intro m was
        dsimp only at was ⊢
        split at was
        case isFalse =>
          exact ⟨still m was, ((hits.past routing r cell).dead m was).2⟩
        case isTrue died =>
          rcases List.mem_append.mp was with old | last
          · exact ⟨still m old, ((hits.past routing r cell).dead m old).2⟩
          · rw [List.mem_singleton.mp last]
            refine ⟨new, died, List.mem_append_right _ (List.mem_singleton.mpr ?_)⟩
            exact kept.2.trans stands
      case apart =>
        dsimp only
        split
        case isFalse => exact hits.apart
        case isTrue =>
          rw [List.pairwise_append]
          refine ⟨hits.apart, List.pairwise_singleton _ _, ?_⟩
          intro m was last is
          rw [List.mem_singleton.mp is]
          exact other m was
      case others =>
        intro m found
        rw [fields, mem_setMonster_iff r _ m scene listed] at found
        rcases found with rfl | ⟨old, -⟩
        · right
          rcases hp with zero | positive
          · right
            rw [if_pos zero]
            exact List.mem_append_right _ (List.mem_singleton.mpr rfl)
          · exact .inl positive
        · rcases hits.others m old with same | positive | was
          · exact .inl same
          · exact .inr (.inl positive)
          · right
            right
            dsimp only
            split
            · exact List.mem_append_left _ was
            · exact was

theorem staffHits_cells (before : Scene) (attacker : ObjectInfo) (cells seen : List Vec2Int)
    (now : List Monster × Scene) (hits : StaffHits routing r before seen now)
    (nodup : (seen ++ cells).Nodup) :
    StaffHits routing r before (seen ++ cells) (cells.foldl (staffCell routing r attacker) now) := by
  induction cells generalizing seen now with
  | nil => simpa using hits
  | cons cell cells ih =>
      have unseen : cell ∉ seen := by
        intro member
        exact (List.nodup_append.mp nodup).2.2 cell member cell List.mem_cons_self rfl
      have next := staffHits_cell routing r before attacker seen cell now hits unseen
      rw [List.foldl_cons]
      have rest := ih (seen ++ [cell]) _ next (by simpa using nodup)
      simpa using rest

theorem staffCells_nodup (center : Vec2Int) : (staffCells center).Nodup := by
  have offsets : [(⟨-1, -1⟩ : Vec2Int), ⟨0, -1⟩, ⟨1, -1⟩, ⟨-1, 0⟩, ⟨0, 0⟩, ⟨1, 0⟩, ⟨-1, 1⟩,
      ⟨0, 1⟩, ⟨1, 1⟩].Nodup := by decide
  apply offsets.map
  intro a b same
  have x := congrArg Vec2Int.x same
  have y := congrArg Vec2Int.y same
  simp only [Vec2Int.add_x, Vec2Int.add_y] at x y
  obtain ⟨ax, ay⟩ := a
  obtain ⟨bx, bY⟩ := b
  simp only [Vec2Int.mk.injEq]
  dsimp only at x y
  omega

/-- The hits of `HandleStaffAttack`: the monsters that died, and the scene. -/
def staffHits (attacker : ObjectId) (pkt : CAttack) (scene : Scene) : List Monster × Scene :=
  let info := (scene.players attacker).info
  (staffCells (info.cellPos + staffForward pkt.dir)).foldl (staffCell routing r info) ([], scene)

theorem staffHits_spec (attacker : ObjectId) (pkt : CAttack) (scene : Scene)
    (distinct : (scene.fields r).Distinct) :
    StaffHits routing r scene
      (staffCells ((scene.players attacker).info.cellPos + staffForward pkt.dir))
      (staffHits routing r attacker pkt scene) := by
  have start : StaffHits routing r scene [] ([], scene) :=
    ⟨.done scene, distinct, fun _ none => absurd none List.not_mem_nil, .nil,
      fun m member => .inl member⟩
  have all := staffHits_cells routing r scene (scene.players attacker).info
    (staffCells ((scene.players attacker).info.cellPos + staffForward pkt.dir)) [] ([], scene) start
    (staffCells_nodup _)
  exact all

theorem handleStaffAttack_eq (attacker : ObjectId) (pkt : CAttack) (scene : Scene) :
    handleStaffAttack data routing r attacker pkt scene =
      (staffHits routing r attacker pkt scene).1.foldl
        (fun scene m => killMonster data routing r attacker m scene)
        (staffHits routing r attacker pkt scene).2 := rfl

theorem killMonsters_deeds (killer : ObjectId) (dead : List Monster) (scene : Scene)
    (members : ∀ m ∈ dead, m ∈ (scene.fields r).monsters)
    (apart : dead.Pairwise fun first second => first.info.objectId ≠ second.info.objectId) :
    scene.Deeds routing r dead
      (dead.foldl (fun scene m => killMonster data routing r killer m scene) scene) := by
  induction dead generalizing scene with
  | nil => exact .done scene
  | cons head tail ih =>
      rw [List.pairwise_cons] at apart
      have first := Scene.Deeds.killMonster data routing r killer head scene
        (members head List.mem_cons_self)
      apply first.append
      apply ih _ _ apart.2
      intro m later
      rw [killMonster_monsters, List.mem_filter]
      exact ⟨members m (List.mem_cons_of_mem _ later),
        decide_eq_true (apart.1 m later).symm⟩

theorem handleStaffAttack_deeds (attacker : ObjectId) (pkt : CAttack) (scene : Scene)
    (distinct : (scene.fields r).Distinct) :
    scene.Deeds routing r (staffHits routing r attacker pkt scene).1
      (handleStaffAttack data routing r attacker pkt scene) := by
  have hits := staffHits_spec routing r attacker pkt scene distinct
  rw [handleStaffAttack_eq]
  apply Scene.Deeds.followed routing r hits.deeds
  apply killMonsters_deeds
  · exact fun m was => (hits.dead m was).1
  · exact hits.apart

theorem handleSwordAttack_deeds (w : World) (attacker : ObjectId) :
    ∃ removed, w.scene.Deeds w.routing r removed (handleSwordAttack data w r attacker).scene := by
  unfold handleSwordAttack
  dsimp only
  cases front : gameObjectAt w.routing w.scene r (w.scene.players attacker).info.frontCellPos with
  | none => exact ⟨[], .done _⟩
  | some object =>
      cases object with
      | projectile => exact ⟨[], .done _⟩
      | player target =>
          refine ⟨[], ?_⟩
          have hurt := Scene.Deeds.hurtPlayer w.routing r target
            (max 1 ((w.scene.players attacker).info.attack -
              (w.scene.players target).info.defence)) w.scene
          dsimp only
          split
          · apply Scene.Deeds.followed w.routing r
              (Scene.Deeds.followed w.routing r hurt (Scene.Deeds.broadcast w.routing r _ _ r))
            exact Scene.Deeds.quiet w.routing r (.broadcast _ r _ _)
          · exact Scene.Deeds.followed w.routing r hurt (Scene.Deeds.broadcast w.routing r _ _ r)
      | monster target =>
          have member : target ∈ (w.scene.fields r).monsters := by
            unfold gameObjectAt at front
            cases creature : creatureAt w.routing w.scene r
                (w.scene.players attacker).info.frontCellPos with
            | none =>
                rw [creature] at front
                obtain ⟨a, -, same⟩ := Option.map_eq_some_iff.mp front
                cases same
            | some found =>
                rw [creature] at front
                cases front
                rcases creatureAt_some _ _ _ _ _ creature with ⟨id, -, same⟩ | ⟨m, member, same⟩
                · cases same
                · cases same
                  exact member
          have hit := Scene.Deeds.hitMonster w.routing r (w.scene.players attacker).info.objectId
            (max 1 ((w.scene.players attacker).info.attack - target.info.defence)) target w.scene
            member
          dsimp only
          split
          · exact ⟨_, Scene.Deeds.followed w.routing r hit.1
              (Scene.Deeds.killMonster data w.routing r attacker _ _ hit.2)⟩
          · exact ⟨[], hit.1⟩

end Attacks

end ZeldaServer
