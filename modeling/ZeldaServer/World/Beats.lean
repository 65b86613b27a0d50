import ZeldaServer.World.Combat
import ZeldaServer.World.Targets

/-! What the objects of a room do, taken apart into beats: one change, together with the
packet that tells the room of it. The calls of `GainExp` are the labels. -/

namespace ZeldaServer

open Chains (Chain)

variable (data : GameData)

structure Looks where
  posX : Int
  posY : Int
  dir : Dir
  hp : Int
  maxHp : Int
  deriving DecidableEq

def ObjectInfo.looks (info : ObjectInfo) : Looks :=
  ⟨info.posX, info.posY, info.dir, info.hp, info.maxHp⟩

section Room

variable (routing : Routing) (r : RoomRef)

/-- A monster of the same id, that aims where the old one aims, at nobody, or at a player of
the room. -/
structure Monster.Follows (m m' : Monster) : Prop where
  named : m'.info.objectId = m.info.objectId
  target : m'.target = m.target ∨ m'.target = none ∨ ∃ id ∈ playerIds routing r, m'.target = some id

/-- One beat of room `r`; the generator of ids comes with the scene. -/
inductive Scene.Beat (a : Scene × ObjectId) : List (ObjectId × Int) → Scene × ObjectId → Prop where
  | failed (fault : Fault) (other : fault ≠ .redisDown) : Beat a [] (a.1.fail fault, a.2)
  | drew (rand : List Nat) : Beat a [] ({ a.1 with rand }, a.2)
  | struck (attacker : ObjectId) (pkt : CAttack) :
      Beat a [] (broadcast routing r (.attack attacker pkt.dir pkt.weaponType) a.1, a.2)
  | gained (id : ObjectId) (share : Int) (worth : 1 ≤ share) :
      Beat a [(id, share)] (actPlayer routing id (Player.gainExp data share) a.1, a.2)
  | looted (id : ObjectId) (itemId : Int) :
      Beat a [] (actPlayer routing id (fun p => (Player.addItem data itemId 1 p).2) a.1, a.2)
  | ticked (id : ObjectId) (member : id ∈ playerIds routing r) :
      Beat a [] (actPlayer routing id (Player.update a.1.now) a.1, a.2)
  | hurt (attacker id : ObjectId) (damage : Int)
      (aimed : id ∈ playerIds routing r ∨ ∃ m ∈ (a.1.fields r).monsters, m.target = some id) :
      Beat a []
        (broadcast routing r
          (damaged attacker ((a.1.hurtPlayer id damage).players id).info damage)
          (a.1.hurtPlayer id damage), a.2)
  | kept (m m' : Monster) (member : m ∈ (a.1.fields r).monsters) (follows : m.Follows routing r m')
      (looks : m'.info.looks = m.info.looks) : Beat a [] (a.1.setMonster r m', a.2)
  | moved (m m' : Monster) (member : m ∈ (a.1.fields r).monsters) (follows : m.Follows routing r m')
      (health : m'.info.hp = m.info.hp ∧ m'.info.maxHp = m.info.maxHp) :
      Beat a [] (broadcast routing r (.move m'.info) (a.1.setMonster r m'), a.2)
  | hit (attacker : ObjectId) (damage : Int) (m : Monster) (member : m ∈ (a.1.fields r).monsters) :
      Beat a [] ((hitMonster routing r attacker damage m a.1).2, a.2)
  | removed (m : Monster) (member : m ∈ (a.1.fields r).monsters) :
      Beat a [] (removeMonster routing r m a.1, a.2)
  | arrowKept (arrow arrow' : Arrow) (member : arrow ∈ (a.1.fields r).projectiles)
      (info : arrow'.info = arrow.info) : Beat a [] (a.1.setProjectile r arrow', a.2)
  | arrowMoved (arrow arrow' : Arrow) (info : ObjectInfo)
      (member : arrow ∈ (a.1.fields r).projectiles)
      (named : arrow'.info.objectId = arrow.info.objectId ∧ info.objectId = arrow.info.objectId)
      (looks : info.looks = arrow'.info.looks)
      (health : arrow'.info.hp = arrow.info.hp ∧ arrow'.info.maxHp = arrow.info.maxHp) :
      Beat a [] (broadcast routing r (.move info) (a.1.setProjectile r arrow'), a.2)
  | echoed (arrow : Arrow) (member : arrow ∈ (a.1.fields r).projectiles) :
      Beat a [] (broadcast routing r (.move arrow.info) a.1, a.2)
  | arrowRemoved (arrow : Arrow) (member : arrow ∈ (a.1.fields r).projectiles) :
      Beat a [] (removeProjectile routing r arrow.info.objectId a.1, a.2)
  | queued (respawnQueue : List RespawnRequest) :
      Beat a [] (a.1.setField r { a.1.fields r with respawnQueue }, a.2)
  | born (m : Monster) (named : m.info.objectId = a.2) (fresh : m.target = none) :
      Beat a [] (addMonster routing r m a.1, a.2 + 1)
  | fired (arrow : Arrow) (named : arrow.info.objectId = a.2) :
      Beat a [] (addArrow routing r arrow a.1, a.2 + 1)

abbrev Scene.Beats : Scene × ObjectId → List (ObjectId × Int) → Scene × ObjectId → Prop :=
  Chain (Scene.Beat data routing r)

namespace Monster.Follows

variable {routing r}

theorem same {m m' : Monster} (named : m'.info.objectId = m.info.objectId)
    (target : m'.target = m.target) : m.Follows routing r m' := ⟨named, .inl target⟩

theorem lost {m m' : Monster} (named : m'.info.objectId = m.info.objectId)
    (target : m'.target = none) : m.Follows routing r m' := ⟨named, .inr (.inl target)⟩

end Monster.Follows

namespace Scene.Beats

variable {data routing r}

theorem followed {a b c : Scene × ObjectId} {labels : List (ObjectId × Int)}
    (first : Scene.Beats data routing r a [] b) (rest : Scene.Beats data routing r b labels c) :
    Scene.Beats data routing r a labels c := first.append rest

theorem ended {a b c : Scene × ObjectId} {labels : List (ObjectId × Int)}
    (first : Scene.Beats data routing r a labels b) (rest : Scene.Beats data routing r b [] c) :
    Scene.Beats data routing r a labels c := by
  have chain := first.append rest
  rwa [List.append_nil] at chain

theorem foldl {Item : Type} (f : Scene × ObjectId → Item → Scene × ObjectId)
    (items : List Item) (made : Scene × ObjectId)
    (calls : ∀ made, ∀ item ∈ items, Scene.Beats data routing r made [] (f made item)) :
    Scene.Beats data routing r made [] (items.foldl f made) := by
  induction items generalizing made with
  | nil => exact .done made
  | cons head tail ih =>
      apply followed (calls made head List.mem_cons_self)
      apply ih
      intro made item later
      exact calls made item (List.mem_cons_of_mem head later)

theorem calls {Item : Type} (f : Scene → Item → Scene) (items : List Item) (scene : Scene)
    (g : ObjectId)
    (step : ∀ scene, ∀ item ∈ items, Scene.Beats data routing r (scene, g) [] (f scene item, g)) :
    Scene.Beats data routing r (scene, g) [] (items.foldl f scene, g) := by
  induction items generalizing scene with
  | nil => exact .done (scene, g)
  | cons head tail ih =>
      apply followed (step scene head List.mem_cons_self)
      apply ih
      intro scene item later
      exact step scene item (List.mem_cons_of_mem head later)

end Scene.Beats

end Room

namespace Player

def Untold (emissions : List Emission) : Prop :=
  ∀ emission ∈ emissions, ∃ pkt : ServerPacket, pkt.isView = false ∧ emission = .session pkt

theorem untold_nil : Untold [] := List.forall_mem_nil _

theorem untold_single (pkt : ServerPacket) (hidden : pkt.isView = false) :
    Untold [.session pkt] := List.forall_mem_singleton.mpr ⟨pkt, hidden, rfl⟩

theorem addItem_told (itemId count : Int) (p : Player) :
    (addItem data itemId count p).2.1.info = p.info ∧
      (addItem data itemId count p).2.1.progress = p.progress ∧
      Untold (addItem data itemId count p).2.2 := by
  unfold addItem
  cases data.itemTemplate itemId with
  | none => exact ⟨rfl, rfl, untold_nil⟩
  | some tmpl =>
      dsimp only
      split
      · exact ⟨rfl, rfl, untold_single _ rfl⟩
      · cases p.findEmptySlot with
        | none => exact ⟨rfl, rfl, untold_nil⟩
        | some i => exact ⟨rfl, rfl, untold_single _ rfl⟩

theorem update_told (now : Nat) (p : Player) :
    (update now p).1.info.looks = p.info.looks ∧ (update now p).1.progress = p.progress ∧
      ∀ emission ∈ (update now p).2, emission = .room (.move (update now p).1.info) := by
  unfold update
  split
  · exact ⟨rfl, rfl, List.forall_mem_singleton.mpr rfl⟩
  · exact ⟨rfl, rfl, List.forall_mem_nil _⟩

theorem recalcStats_looks (p : Player) : (recalcStats data p).info.looks = p.info.looks := by
  unfold recalcStats
  cases data.levelData p.level <;> rfl

theorem equipItem_told (slot : Int) (p : Player) :
    (equipItem data slot p).1.info.looks = p.info.looks ∧ Untold (equipItem data slot p).2 := by
  unfold equipItem
  cases storageSlot slot with
  | none => exact ⟨rfl, untold_nil⟩
  | some i =>
      dsimp only
      split
      · exact ⟨rfl, untold_nil⟩
      · cases data.itemTemplate (p.storage i).itemId with
        | none => exact ⟨rfl, untold_nil⟩
        | some tmpl =>
            dsimp only
            cases EquipSlot.ofItemType tmpl.type with
            | none => exact ⟨rfl, untold_nil⟩
            | some equip =>
                refine ⟨(recalcStats_looks data _).trans ?_, untold_single _ rfl⟩
                cases equip <;> rfl

theorem unequipItem_told (equipType : Int) (p : Player) :
    (unequipItem data equipType p).1.info.looks = p.info.looks ∧
      Untold (unequipItem data equipType p).2 := by
  unfold unequipItem
  cases EquipSlot.ofEquipType equipType with
  | none => exact ⟨rfl, untold_nil⟩
  | some equip =>
      dsimp only
      split
      · exact ⟨rfl, untold_nil⟩
      · cases p.findEmptySlot with
        | none => exact ⟨rfl, untold_nil⟩
        | some i =>
            refine ⟨(recalcStats_looks data _).trans ?_, untold_single _ rfl⟩
            cases equip <;> rfl

theorem useItem_told (slot : Int) (p : Player) :
    (useItem data slot p = (p, [])) ∨
      ∃ target left hp, (useItem data slot p).2 = [.session (.useItem target left hp)] ∧
        (useItem data slot p).1.info = { p.info with hp } := by
  unfold useItem
  cases UseSlot.ofInt slot with
  | none => exact .inl rfl
  | some target =>
      dsimp only
      split
      · exact .inl rfl
      · cases data.itemTemplate (p.useSlot target).itemId with
        | none => exact .inl rfl
        | some tmpl =>
            dsimp only
            split
            · exact .inl rfl
            · right
              refine ⟨_, _, _, rfl, ?_⟩
              cases target <;> rfl

end Player

theorem grants_worth (routing : Routing) (r : RoomRef) (killer : ObjectId) (m : Monster)
    (grant : ObjectId × Int) (member : grant ∈ grants data routing r killer m) : 1 ≤ grant.2 := by
  unfold grants at member
  cases template : data.monsterTemplate m.templateId with
  | none =>
      rw [template] at member
      cases member
  | some templateData =>
      rw [template] at member
      dsimp only at member
      split at member
      case isTrue => cases member
      case isFalse worth =>
        cases party : killerParty routing killer with
        | none =>
            rw [party] at member
            rw [List.mem_singleton.mp member]
            exact not_le.mp worth
        | some party' =>
            rw [party] at member
            obtain ⟨id, -, rfl⟩ := List.mem_map.mp member
            exact le_max_left ..

theorem grants_crew (routing : Routing) (r : RoomRef) (killer : ObjectId) (m : Monster)
    (grant : ObjectId × Int) (member : grant ∈ grants data routing r killer m) :
    grant.1 = killer ∨ grant.1 ∈ playerIds routing r := by
  unfold grants at member
  cases template : data.monsterTemplate m.templateId with
  | none =>
      rw [template] at member
      cases member
  | some templateData =>
      rw [template] at member
      dsimp only at member
      split at member
      case isTrue => cases member
      case isFalse =>
        cases party : killerParty routing killer with
        | none =>
            rw [party] at member
            rw [List.mem_singleton.mp member]
            exact .inl rfl
        | some party' =>
            rw [party] at member
            obtain ⟨id, near, rfl⟩ := List.mem_map.mp member
            exact .inr (of_decide_eq_true (List.mem_filter.mp near).2)

section Objects

variable (routing : Routing) (r : RoomRef)

def rewardsOf (killer : ObjectId) (dead : List Monster) : List (ObjectId × Int) :=
  dead.flatMap (grants data routing r killer)

namespace Scene.Beats

theorem distributeExp (killer : ObjectId) (m : Monster) (scene : Scene) (g : ObjectId) :
    Scene.Beats data routing r (scene, g) (grants data routing r killer m)
      (distributeExp data routing r killer m scene, g) := by
  rw [distributeExp_grants]
  have worth := grants_worth data routing r killer m
  generalize grants data routing r killer m = granted at worth
  induction granted generalizing scene with
  | nil => exact .done (scene, g)
  | cons grant rest ih =>
      have first : Scene.Beats data routing r (scene, g) [grant]
          (actPlayer routing grant.1 (Player.gainExp data grant.2) scene, g) :=
        Chain.single (.gained grant.1 grant.2 (worth grant List.mem_cons_self))
      apply first.append (ih _ _)
      intro grant' later
      exact worth grant' (List.mem_cons_of_mem grant later)

theorem drawn (scene : Scene) (g : ObjectId) :
    Scene.Beats data routing r (scene, g) [] (scene.draw.2, g) := by
  unfold Scene.draw
  cases scene.rand with
  | nil => exact Chain.single (.failed .unfinished (by decide))
  | cons n rest => exact Chain.single (.drew rest)

theorem processMonsterDrop (killer : ObjectId) (m : Monster) (scene : Scene) (g : ObjectId) :
    Scene.Beats data routing r (scene, g) [] (processMonsterDrop data routing killer m scene, g) := by
  unfold ZeldaServer.processMonsterDrop
  cases data.monsterDrops m.templateId with
  | none => exact .done (scene, g)
  | some drops =>
      apply calls
      intro scene drop _
      have first := drawn data routing r scene g
      dsimp only
      split
      · exact first.followed (Chain.single (.looted killer drop.itemId))
      · exact first

theorem removeMonster (m : Monster) (scene : Scene) (g : ObjectId)
    (member : m ∈ (scene.fields r).monsters) :
    Scene.Beats data routing r (scene, g) [] (removeMonster routing r m scene, g) :=
  Chain.single (.removed m member)

theorem killMonster (killer : ObjectId) (m : Monster) (scene : Scene) (g : ObjectId)
    (member : m ∈ (scene.fields r).monsters) :
    Scene.Beats data routing r (scene, g) (grants data routing r killer m)
      (killMonster data routing r killer m scene, g) := by
  apply (distributeExp data routing r killer m scene g).ended
  apply (processMonsterDrop data routing r killer m _ g).followed
  apply removeMonster
  rwa [rewards_fields]

theorem hitMonster (attacker : ObjectId) (damage : Int) (m : Monster) (scene : Scene) (g : ObjectId)
    (member : m ∈ (scene.fields r).monsters) :
    Scene.Beats data routing r (scene, g) []
      ((hitMonster routing r attacker damage m scene).2, g) :=
  Chain.single (.hit attacker damage m member)

theorem killAll (killer : ObjectId) (dead : List Monster) (scene : Scene) (g : ObjectId)
    (members : ∀ m ∈ dead, m ∈ (scene.fields r).monsters)
    (apart : dead.Pairwise fun first second => first.info.objectId ≠ second.info.objectId) :
    Scene.Beats data routing r (scene, g) (rewardsOf data routing r killer dead)
      (killAll data routing r killer dead scene, g) := by
  induction dead generalizing scene with
  | nil => exact .done (scene, g)
  | cons head tail ih =>
      rw [List.pairwise_cons] at apart
      have first := killMonster data routing r killer head scene g (members head List.mem_cons_self)
      apply first.append
      apply ih _ _ apart.2
      intro m later
      rw [killMonster_monsters, List.mem_filter]
      exact ⟨members m (List.mem_cons_of_mem _ later), decide_eq_true (apart.1 m later).symm⟩

end Scene.Beats

theorem chooseTarget_some (m : Monster) (scene : Scene) (target : ObjectId)
    (chosen : chooseTarget routing r m scene = some target) :
    m.target = some target ∨ target ∈ playerIds routing r := by
  unfold chooseTarget at chosen
  have before (id : ObjectId) (aims : m.target.filter (playerAlive routing scene []) = some id) :
      m.target = some id := (Option.filter_eq_some_iff.mp aims).1
  dsimp only at chosen
  cases nearest : findClosestPlayer routing scene r m.info.cellPos with
  | none =>
      rw [nearest] at chosen
      exact .inl (before target chosen)
  | some near =>
      have standing := findClosestPlayer_mem routing r scene _ near nearest
      rw [nearest] at chosen
      cases aims : m.target.filter (playerAlive routing scene []) with
      | none =>
          rw [aims] at chosen
          cases chosen
          exact .inr standing
      | some old =>
          rw [aims] at chosen
          dsimp only at chosen
          split at chosen
          · cases chosen
            exact .inr standing
          · cases chosen
            exact .inl (before target aims)

namespace Scene.Beats

theorem keep (m m' : Monster) (scene : Scene) (g : ObjectId)
    (member : m ∈ (scene.fields r).monsters) (follows : m.Follows routing r m')
    (looks : m'.info.looks = m.info.looks) :
    Scene.Beats data routing r (scene, g) [] (scene.setMonster r m', g) :=
  Chain.single (.kept m m' member follows looks)

theorem monsterGo (m old : Monster) (nextPos : Vec2Int) (waitUntil : Nat) (scene : Scene)
    (g : ObjectId) (member : old ∈ (scene.fields r).monsters) (follows : old.Follows routing r m)
    (looks : m.info.looks = old.info.looks) :
    Scene.Beats data routing r (scene, g) []
      (monsterGo routing r m nextPos waitUntil scene, g) := by
  unfold ZeldaServer.monsterGo
  apply Chain.single
  apply Beat.moved old _ member
  · exact ⟨follows.named, follows.target⟩
  · exact ⟨congrArg Looks.hp looks, congrArg Looks.maxHp looks⟩

theorem monsterGoHome (m old : Monster) (scene : Scene) (g : ObjectId)
    (member : old ∈ (scene.fields r).monsters) (follows : old.Follows routing r m)
    (looks : m.info.looks = old.info.looks) :
    Scene.Beats data routing r (scene, g) [] (monsterGoHome routing r m scene, g) := by
  have stayed := keep data routing r old m scene g member follows looks
  have member' := Scene.Deeds.mem_setMonster r old m scene member follows.named
  unfold ZeldaServer.monsterGoHome
  dsimp only
  split
  · split
    · exact stayed.followed (monsterGo data routing r m m _ _ _ g member' (.same rfl rfl) rfl)
    · exact stayed
  · exact stayed

theorem monsterChase (m old : Monster) (target : ObjectId) (scene : Scene) (g : ObjectId)
    (member : old ∈ (scene.fields r).monsters) (follows : old.Follows routing r m)
    (looks : m.info.looks = old.info.looks) :
    Scene.Beats data routing r (scene, g) [] (monsterChase routing r m target scene, g) := by
  have stayed := keep data routing r old m scene g member follows looks
  have member' := Scene.Deeds.mem_setMonster r old m scene member follows.named
  unfold ZeldaServer.monsterChase
  dsimp only
  split
  · split
    · exact stayed.followed (keep data routing r m _ _ g member' (.lost rfl rfl) rfl)
    · split
      · exact stayed.followed (monsterGo data routing r m m _ _ _ g member' (.same rfl rfl) rfl)
      · exact stayed
  · exact stayed

theorem monsterAttack (m old : Monster) (target : ObjectId) (scene : Scene) (g : ObjectId)
    (member : old ∈ (scene.fields r).monsters) (follows : old.Follows routing r m)
    (looks : m.info.looks = old.info.looks) (aims : m.target = some target) :
    Scene.Beats data routing r (scene, g) [] (monsterAttack routing r m target scene, g) := by
  let turning : Monster :=
    { m with
      info :=
        { m.info with
          dir := m.info.lookAtDir (scene.players target).info.cellPos
          state := .skill }
      waitUntil := scene.now + 1000 }
  have aimed : old.Follows routing r turning := ⟨follows.named, follows.target⟩
  have turned : Scene.Beats data routing r (scene, g) []
      (broadcast routing r (.move turning.info) (scene.setMonster r turning), g) :=
    Chain.single (.moved old turning member aimed
      ⟨congrArg Looks.hp looks, congrArg Looks.maxHp looks⟩)
  apply turned.followed
  apply Chain.single
  apply Beat.hurt m.info.objectId target
  right
  refine ⟨turning, ?_, aims⟩
  rw [(Scene.SameObjects.broadcast routing r _ _).fields]
  exact Scene.Deeds.mem_setMonster r old turning scene member aimed.named

theorem monsterUpdateIdle (m : Monster) (scene : Scene) (g : ObjectId)
    (member : m ∈ (scene.fields r).monsters) :
    Scene.Beats data routing r (scene, g) [] (monsterUpdateIdle routing r m scene, g) := by
  unfold ZeldaServer.monsterUpdateIdle
  dsimp only
  generalize housed : (if m.homePos = ⟨-1, -1⟩ then { m with homePos := m.info.cellPos } else m) = m'
  have alike : m'.info = m.info ∧ m'.target = m.target := by
    rw [← housed]
    split <;> exact ⟨rfl, rfl⟩
  have named : m'.info.objectId = m.info.objectId := by rw [alike.1]
  have looks : m'.info.looks = m.info.looks := by rw [alike.1]
  split
  · exact monsterGoHome data routing r _ m scene g member (.lost named rfl) looks
  · cases choice : chooseTarget routing r m' scene with
    | none =>
        dsimp only
        split
        · exact monsterGoHome data routing r m' m scene g member (.same named alike.2) looks
        · exact keep data routing r m m' scene g member (.same named alike.2) looks
    | some target =>
        have follows : m.Follows routing r { m' with target := some target } := by
          refine ⟨named, ?_⟩
          rcases chooseTarget_some routing r m' scene target choice with old | near
          · exact .inl (old.symm.trans alike.2)
          · exact .inr (.inr ⟨target, near, rfl⟩)
        dsimp only
        split
        · split
          · exact monsterGoHome data routing r _ m scene g member (.lost named rfl) looks
          · exact keep data routing r m _ scene g member (.lost named rfl) looks
        · split
          · exact monsterAttack data routing r _ m target scene g member follows looks rfl
          · exact monsterChase data routing r _ m target scene g member follows looks

theorem monsterUpdate (scene : Scene) (g id : ObjectId) :
    Scene.Beats data routing r (scene, g) [] (monsterUpdate routing r scene id, g) := by
  unfold ZeldaServer.monsterUpdate
  cases found : (scene.fields r).monster id with
  | none => exact .done (scene, g)
  | some m =>
      have member : m ∈ (scene.fields r).monsters := List.mem_of_find?_eq_some found
      have rested : Scene.Beats data routing r (scene, g) [] (monsterRest r m scene, g) := by
        unfold monsterRest
        split
        · exact .done (scene, g)
        · exact keep data routing r m _ scene g member (.same rfl rfl) rfl
      dsimp only
      cases m.info.state with
      | idle => exact monsterUpdateIdle data routing r m scene g member
      | move => exact rested
      | skill => exact rested

end Scene.Beats

theorem hitMonster_projectiles (attacker : ObjectId) (damage : Int) (m : Monster) (scene : Scene) :
    ((hitMonster routing r attacker damage m scene).2.fields r).projectiles =
      (scene.fields r).projectiles := by
  rw [hitMonster_fields]
  simp only [Scene.setMonster, Scene.setField, Function.update_self]

theorem removeMonster_projectiles (m : Monster) (scene : Scene) :
    ((removeMonster routing r m scene).fields r).projectiles = (scene.fields r).projectiles := by
  unfold removeMonster
  dsimp only
  rw [(Scene.SameObjects.broadcast routing r _ _).fields]
  exact (dropMonster_field scene r m).2.1

theorem killMonster_projectiles (killer : ObjectId) (m : Monster) (scene : Scene) :
    ((killMonster data routing r killer m scene).fields r).projectiles =
      (scene.fields r).projectiles := by
  unfold killMonster
  rw [removeMonster_projectiles, rewards_fields]

theorem findObject_absent (scene : Scene) (id : ObjectId) (object : ObjectRef)
    (absent : id ∉ playerIds routing r) (found : findObject routing scene r id = some object) :
    ∀ other, object ≠ .player other := by
  intro other same
  unfold findObject at found
  rw [if_neg absent, same] at found
  split at found
  · cases found
  · obtain ⟨a, -, same⟩ := Option.map_eq_some_iff.mp found
    cases same

theorem arrowStart_keeps (now : Nat) (a : Arrow) :
    (arrowStart now a).info = a.info ∧ (arrowStart now a).ownerId = a.ownerId := by
  unfold arrowStart
  split <;> exact ⟨rfl, rfl⟩

theorem arrowMeets_started (scene : Scene) (id : ObjectId) (a : Arrow) (target : Monster)
    (meets : arrowMeets r scene id = some (a, target)) :
    ∃ fired ∈ (scene.fields r).projectiles, a = arrowStart scene.now fired := by
  unfold arrowMeets at meets
  obtain ⟨fired, found, rest⟩ := Option.bind_eq_some_iff.mp meets
  refine ⟨fired, List.mem_of_find?_eq_some found, ?_⟩
  dsimp only at rest
  split at rest
  · cases rest
  · obtain ⟨delta, -, rest⟩ := Option.bind_eq_some_iff.mp rest
    split at rest
    · cases rest
    · obtain ⟨m, -, same⟩ := Option.map_eq_some_iff.mp rest
      exact (congrArg Prod.fst same).symm

namespace Scene.Beats

theorem removeProjectile (arrow : Arrow) (scene : Scene) (g : ObjectId)
    (member : arrow ∈ (scene.fields r).projectiles) :
    Scene.Beats data routing r (scene, g) []
      (removeProjectile routing r arrow.info.objectId scene, g) :=
  Chain.single (.arrowRemoved arrow member)

theorem arrowHit (a : Arrow) (target : Monster) (scene : Scene) (g : ObjectId)
    (flies : a ∈ (scene.fields r).projectiles) (member : target ∈ (scene.fields r).monsters) :
    Scene.Beats data routing r (scene, g)
      (if a.ownerId ∈ playerIds routing r then
        rewardsOf data routing r a.ownerId
          ([target.damaged
            (max 1 ((scene.players a.ownerId).info.attack - target.info.defence))].filter
              (·.info.hp = 0))
      else [])
      (arrowHit data routing r a target scene, g) := by
  have struck (attacker : ObjectId) (damage : Int) (hit : Monster × Scene)
      (hits : ZeldaServer.hitMonster routing r attacker damage target scene = hit) :
      Scene.Beats data routing r (scene, g) [] (hit.2, g) ∧ hit.1 = target.damaged damage ∧
        hit.1 ∈ (hit.2.fields r).monsters ∧ a ∈ (hit.2.fields r).projectiles := by
    subst hits
    refine ⟨hitMonster data routing r attacker damage target scene g member, rfl, ?_, ?_⟩
    · exact (Scene.Deeds.hitMonster routing r attacker damage target scene member).2
    · rwa [hitMonster_projectiles]
  unfold ZeldaServer.arrowHit
  dsimp only
  by_cases present : a.ownerId ∈ playerIds routing r
  · have owner : findObject routing scene r a.ownerId = some (.player a.ownerId) := if_pos present
    rw [if_pos present, owner]
    dsimp only
    generalize hits : ZeldaServer.hitMonster routing r _ _ target scene = hit
    obtain ⟨first, result, standing, still⟩ := struck _ _ hit hits
    have died : hit.1 = target.damaged
        (max 1 ((scene.players a.ownerId).info.attack - target.info.defence)) := result
    rw [← died, List.filter_singleton]
    apply first.followed
    split
    case isTrue died =>
      rw [decide_eq_true died]
      have labels : rewardsOf data routing r a.ownerId [hit.1] =
          grants data routing r a.ownerId hit.1 := List.flatMap_singleton _ _
      rw [cond_true, labels]
      apply (killMonster data routing r a.ownerId hit.1 hit.2 g standing).ended
      apply removeProjectile
      rwa [killMonster_projectiles]
    case isFalse lives =>
      rw [decide_eq_false lives]
      exact removeProjectile data routing r a hit.2 g still
  · rw [if_neg present]
    cases owner : findObject routing scene r a.ownerId with
    | none => exact removeProjectile data routing r a scene g flies
    | some object =>
        have other := findObject_absent routing r scene a.ownerId object present owner
        dsimp only
        generalize hits : ZeldaServer.hitMonster routing r _ _ target scene = hit
        obtain ⟨first, -, standing, still⟩ := struck _ _ hit hits
        apply first.followed
        split
        · have dropped : Scene.Beats data routing r (hit.2, g) []
              (ZeldaServer.removeProjectile routing r a.info.objectId
                (ZeldaServer.removeMonster routing r hit.1 hit.2), g) := by
            apply (removeMonster data routing r hit.1 hit.2 g standing).followed
            apply removeProjectile
            rwa [removeMonster_projectiles]
          cases object with
          | player id => exact absurd rfl (other id)
          | monster m => exact dropped
          | projectile m => exact dropped
        · exact removeProjectile data routing r a hit.2 g still

theorem arrowUpdateMove (a : Arrow) (scene : Scene) (g : ObjectId)
    (member : a ∈ (scene.fields r).projectiles) :
    Scene.Beats data routing r (scene, g) [] (arrowUpdateMove routing r a scene, g) := by
  unfold ZeldaServer.arrowUpdateMove
  split
  · exact .done (scene, g)
  · let resting : Arrow := { a with info := { a.info with state := .idle } }
    have stopped : Scene.Beats data routing r (scene, g) []
        (broadcast routing r (.move resting.info) (scene.setProjectile r resting), g) :=
      Chain.single (.arrowMoved a resting resting.info member ⟨rfl, rfl⟩ rfl ⟨rfl, rfl⟩)
    apply stopped.followed
    apply Chain.single
    apply Beat.echoed resting
    rw [(Scene.SameObjects.broadcast routing r _ _).fields]
    exact Scene.Deeds.mem_setProjectile r resting a scene member rfl

theorem arrowFlies (a : Arrow) (nextPos : Vec2Int) (scene : Scene) (g : ObjectId)
    (member : a ∈ (scene.fields r).projectiles) :
    let standing := a.info.setCellPos nextPos
    let info := { standing with state := .move }
    Scene.Beats data routing r (scene, g) []
      (broadcast routing r (.move info) (broadcast routing r (.move info)
        (broadcast routing r (.move standing)
          (scene.setProjectile r { a with info, waitUntil := scene.now + moveIntervalMs }))), g) := by
  intro standing info
  let flown : Arrow := { a with info, waitUntil := scene.now + moveIntervalMs }
  have flies := Scene.Deeds.mem_setProjectile r flown a scene member rfl
  have told : Scene.Beats data routing r (scene, g) []
      (broadcast routing r (.move standing) (scene.setProjectile r flown), g) :=
    Chain.single (.arrowMoved a flown standing member ⟨rfl, rfl⟩ rfl ⟨rfl, rfl⟩)
  apply told.followed
  have echo (told : Scene) (same : told.fields = (scene.setProjectile r flown).fields) :
      Scene.Beats data routing r (told, g) [] (broadcast routing r (.move info) told, g) := by
    apply Chain.single
    apply Beat.echoed flown
    rwa [same]
  apply (echo _ (Scene.SameObjects.broadcast routing r _ _).fields).followed
  apply echo
  rw [(Scene.SameObjects.broadcast routing r _ _).fields]
  exact (Scene.SameObjects.broadcast routing r _ _).fields

theorem arrowUpdate (scene : Scene) (g id : ObjectId) :
    Scene.Beats data routing r (scene, g)
      (rewardsOf data routing r (arrowOwner r scene id) (arrowDead routing r scene id))
      (arrowUpdate data routing r scene id, g) := by
  unfold arrowDead
  cases meets : arrowMeets r scene id with
  | some met =>
      obtain ⟨a, target⟩ := met
      obtain ⟨owner, member, -, result⟩ := arrowMeets_some data routing r scene id a target meets
      obtain ⟨fired, listed, rfl⟩ := arrowMeets_started r scene id a target meets
      have info := (arrowStart_keeps scene.now fired).1
      have started : Scene.Beats data routing r (scene, g) []
          (scene.setProjectile r (arrowStart scene.now fired), g) :=
        Chain.single (.arrowKept fired _ listed info)
      have flies := Scene.Deeds.mem_setProjectile r (arrowStart scene.now fired) fired scene listed
        (by rw [info])
      have hit := arrowHit data routing r (arrowStart scene.now fired) target
        (scene.setProjectile r (arrowStart scene.now fired)) g flies member
      rw [result, ← owner]
      apply started.followed
      dsimp only
      split
      case isTrue present =>
        rw [if_pos present] at hit
        exact hit
      case isFalse away =>
        rw [if_neg away] at hit
        exact hit
  | none =>
      unfold arrowMeets at meets
      unfold ZeldaServer.arrowUpdate
      cases found : (scene.fields r).projectile id with
      | none => exact .done (scene, g)
      | some fired =>
          have listed : fired ∈ (scene.fields r).projectiles := List.mem_of_find?_eq_some found
          have named : fired.info.objectId = id := by simpa using List.find?_some found
          have info := (arrowStart_keeps scene.now fired).1
          rw [found] at meets
          simp only [Option.bind_some] at meets
          dsimp only
          generalize arrowStart scene.now fired = a at meets info
          have started : Scene.Beats data routing r (scene, g) [] (scene.setProjectile r a, g) :=
            Chain.single (.arrowKept fired a listed info)
          have flies := Scene.Deeds.mem_setProjectile r a fired scene listed (by rw [info])
          have ends : Scene.Beats data routing r (scene.setProjectile r a, g) []
              (ZeldaServer.removeProjectile routing r a.info.objectId (scene.setProjectile r a), g) :=
            removeProjectile data routing r a _ g flies
          have same : a.info.objectId = id := by rw [info, named]
          apply started.followed
          split
          case isTrue =>
            rw [← same]
            exact ends
          case isFalse clear =>
            split
            case isTrue =>
              rw [← same]
              exact ends
            case isFalse fresh =>
              cases state : a.info.state with
              | move => exact arrowUpdateMove data routing r a _ g flies
              | skill =>
                  apply Chain.single
                  exact .arrowMoved a { a with info := { a.info with state := .idle } } _ flies
                    ⟨rfl, rfl⟩ rfl ⟨rfl, rfl⟩
              | idle =>
                  dsimp only
                  unfold ZeldaServer.arrowUpdateIdle
                  split
                  case isTrue ready => exact .done _
                  case isFalse ready =>
                    rw [if_neg (by simp [clear, fresh, state, ready])] at meets
                    cases delta : deltaXY a.info.dir with
                    | none => exact Chain.single (.failed .outOfBounds (by decide))
                    | some step =>
                        simp only [delta, Option.bind_some] at meets
                        dsimp only
                        split
                        case isTrue => exact ends
                        case isFalse ahead =>
                          rw [if_neg ahead] at meets
                          rw [Option.map_eq_none_iff.mp meets]
                          exact arrowFlies data routing r a _ _ g flies

end Scene.Beats

namespace Scene.Beats

theorem randomEmptyCellPos (draws : Nat) (scene : Scene) (g : ObjectId) :
    Scene.Beats data routing r (scene, g) [] ((randomEmptyCellPos routing r scene draws).2, g) := by
  induction draws generalizing scene with
  | zero => exact Chain.single (.failed .unfinished (by decide))
  | succ draws ih =>
      unfold ZeldaServer.randomEmptyCellPos
      dsimp only
      split
      · exact Chain.single (.failed .divisionByZero (by decide))
      · have both := (drawn data routing r scene g).followed (drawn data routing r scene.draw.2 g)
        split
        · exact both
        · exact both.followed (ih _)

theorem spawnAt (pos : Vec2Int) (aggroRange leashRange templateId : Int)
    (made : Scene × ObjectId) :
    Scene.Beats data routing r made []
      (spawnAt data routing r pos aggroRange leashRange templateId made) := by
  have placed (cell : Vec2Int) (scene : Scene) :
      Scene.Beats data routing r (scene, made.2) []
        (addMonster routing r
          (createMonster data made.2 cell aggroRange leashRange templateId) scene, made.2 + 1) :=
    Chain.single (.born _ rfl rfl)
  unfold ZeldaServer.spawnAt
  dsimp only
  split
  · exact placed pos made.1
  · exact (randomEmptyCellPos data routing r _ made.1 made.2).followed (placed _ _)

theorem spawnEntry (anchor : Vec2Int) (entry : MonsterInfo)
    (made : (Scene × ObjectId) × List Vec2Int) :
    Scene.Beats data routing r made.1 [] (spawnEntry data routing r anchor entry made).1 := by
  unfold ZeldaServer.spawnEntry
  cases data.monsterTemplate entry.templateId with
  | none => exact .done made.1
  | some _ =>
      apply foldl
      intro made offset _
      exact spawnAt data routing r _ _ _ _ made

theorem spawnGroup (made : Scene × ObjectId) (group : MonsterSpawnData) :
    Scene.Beats data routing r made [] (spawnGroup data routing r made group) := by
  have entries (monsters : List MonsterInfo) (now : (Scene × ObjectId) × List Vec2Int) :
      Scene.Beats data routing r now.1 [] (monsters.foldl (fun now entry =>
        ZeldaServer.spawnEntry data routing r group.anchor entry now) now).1 := by
    induction monsters generalizing now with
    | nil => exact .done now.1
    | cons entry monsters ih => exact (spawnEntry data routing r _ entry now).followed (ih _)
  exact entries group.monsters (made, group.offsets)

theorem respawn (made : Scene × ObjectId) (request : RespawnRequest) :
    Scene.Beats data routing r made [] (respawn data routing r made request) := by
  unfold ZeldaServer.respawn
  dsimp only
  split
  · exact Chain.single (.queued _)
  · exact spawnAt data routing r _ _ _ _ made

theorem spawnTick (scene : Scene) (g : ObjectId) :
    Scene.Beats data routing r (scene, g) [] (spawnTick data routing r scene g) := by
  unfold ZeldaServer.spawnTick
  dsimp only
  split
  · have emptied : Scene.Beats data routing r (scene, g) []
        (scene.setField r { scene.fields r with respawnQueue := [] }, g) :=
      Chain.single (.queued [])
    apply emptied.followed
    apply foldl
    intro made request _
    exact respawn data routing r made request
  · exact .done (scene, g)

end Scene.Beats

/-- The calls of `GainExp` that calls of the combat code make. -/
def rewards (calls : List Call) : List (ObjectId × Int) :=
  calls.flatMap fun call => rewardsOf data call.routing call.room call.killer call.dead

namespace Scene.Beats

theorem arrowUpdates (ids : List ObjectId) (scene : Scene) (g : ObjectId) :
    Scene.Beats data routing r (scene, g) (rewards data (arrowCalls data routing r ids scene))
      (ids.foldl (ZeldaServer.arrowUpdate data routing r) scene, g) := by
  induction ids generalizing scene with
  | nil => exact .done (scene, g)
  | cons id ids ih => exact (arrowUpdate data routing r scene g id).append (ih _)

theorem gameStep (scene : Scene) (g : ObjectId) :
    let ready := stepMonsters routing r (stepPlayers routing r scene)
    Scene.Beats data routing r (scene, g)
      (rewards data
        (arrowCalls data routing r ((ready.fields r).projectiles.map (·.info.objectId)) ready))
      (gameStep data routing r scene g) := by
  intro ready
  have players : Scene.Beats data routing r (scene, g) [] (stepPlayers routing r scene, g) := by
    apply calls
    intro scene id member
    exact Chain.single (.ticked id member)
  have monsters : Scene.Beats data routing r (stepPlayers routing r scene, g) [] (ready, g) := by
    apply calls
    intro scene id _
    exact monsterUpdate data routing r scene g id
  rw [gameStep_eq]
  apply players.followed
  apply monsters.followed
  apply (arrowUpdates data routing r _ ready g).ended
  exact spawnTick data routing r _ g

end Scene.Beats

end Objects

def World.bury (w : World) (r : RoomRef) : Option ObjectId → World
  | none => w
  | some victim => w.removePlayer r victim

namespace Scene.Beats

variable (w : World) (r : RoomRef)

theorem handleSwordAttack (attacker : ObjectId) :
    ∃ after, Scene.Beats data w.routing r (w.scene, w.idGen)
        (rewardsOf data w.routing r attacker (swordDead w.routing r attacker w.scene))
        (after, w.idGen) ∧
      handleSwordAttack data w r attacker =
        World.bury { w with scene := after } r (swordVictim w r attacker) := by
  unfold ZeldaServer.handleSwordAttack swordVictim swordDead
  dsimp only
  cases front : gameObjectAt w.routing w.scene r (w.scene.players attacker).info.frontCellPos with
  | none => exact ⟨w.scene, .done _, rfl⟩
  | some object =>
      cases object with
      | projectile => exact ⟨w.scene, .done _, rfl⟩
      | player target =>
          have standing := gameObjectAt_player w.routing w.scene r _ target front
          have hurt (damage : Int) :
              ((w.scene.hurtPlayer target damage).players target).info =
                (w.scene.players target).info.onDamaged damage := by
            simp [Scene.hurtPlayer, Scene.setPlayer, Player.onDamaged]
          refine ⟨_, Chain.single (.hurt (w.scene.players attacker).info.objectId target
            (max 1 ((w.scene.players attacker).info.attack -
              (w.scene.players target).info.defence)) (.inl standing)), ?_⟩
          simp only [World.onScene, hurt]
          split <;> rfl
      | monster target =>
          have member := gameObjectAt_monster w.routing r w.scene _ target front
          have first := hitMonster data w.routing r (w.scene.players attacker).info.objectId
            (max 1 ((w.scene.players attacker).info.attack - target.info.defence)) target w.scene
            w.idGen member
          have standing := (Scene.Deeds.hitMonster w.routing r
            (w.scene.players attacker).info.objectId
            (max 1 ((w.scene.players attacker).info.attack - target.info.defence)) target w.scene
            member).2
          have killed := killAll data w.routing r attacker
            ([target.damaged
              (max 1 ((w.scene.players attacker).info.attack - target.info.defence))].filter
                (·.info.hp = 0)) _ w.idGen
            (fun m died => by
              rw [List.mem_singleton.mp (List.mem_filter.mp died).1]
              exact standing)
            (List.Pairwise.sublist List.filter_sublist (List.pairwise_singleton _ _))
          refine ⟨_, first.followed killed, ?_⟩
          rw [killAll_filter]
          rfl

theorem strikes (attacker : ObjectInfo) (cells : List Vec2Int) (now : List Monster × Scene)
    (g : ObjectId) :
    Scene.Beats data w.routing r (now.2, g) []
      ((cells.foldl (staffCell w.routing r attacker) now).2, g) := by
  induction cells generalizing now with
  | nil => exact .done (now.2, g)
  | cons cell cells ih =>
      rw [List.foldl_cons]
      refine followed ?_ (ih _)
      unfold staffCell
      cases seen : monsterAt now.2 r cell with
      | none => exact .done (now.2, g)
      | some target =>
          exact hitMonster data w.routing r _ _ target now.2 g (List.mem_of_find?_eq_some seen)

theorem handleStaffAttack (attacker : ObjectId) (pkt : CAttack)
    (distinct : (w.scene.fields r).Distinct) :
    Scene.Beats data w.routing r (w.scene, w.idGen)
      (rewardsOf data w.routing r attacker (staffHits w.routing r attacker pkt w.scene).1)
      (handleStaffAttack data w.routing r attacker pkt w.scene, w.idGen) := by
  have spec := staffHits_spec w.routing r attacker pkt w.scene distinct
  have hits : Scene.Beats data w.routing r (w.scene, w.idGen) []
      ((staffHits w.routing r attacker pkt w.scene).2, w.idGen) :=
    strikes data w r (w.scene.players attacker).info
      (staffCells ((w.scene.players attacker).info.cellPos + staffForward pkt.dir)) ([], w.scene)
      w.idGen
  rw [handleStaffAttack_eq]
  generalize staffHits w.routing r attacker pkt w.scene = now at spec hits
  apply hits.followed
  apply killAll
  · exact fun m died => (spec.dead m died).1
  · exact spec.apart

theorem handleBowAttack (attacker : ObjectId) (pkt : CAttack) :
    ∃ after, Scene.Beats data w.routing r (w.scene, w.idGen) [] after ∧
      handleBowAttack w r attacker pkt = ⟨w.routing, after.1, after.2⟩ :=
  ⟨_, Chain.single (.fired _ rfl), rfl⟩

theorem announced (s : SessionId) (pkt : CAttack) (attacker : ObjectId)
    (locked : lockPlayer w.routing w.scene [] s = some attacker)
    (distinct : (w.scene.fields r).Distinct) :
    ∃ v : World, v.routing = w.routing ∧ v.idGen = w.idGen ∧
      Scene.Beats data w.routing r (w.scene, w.idGen) [] (v.scene, w.idGen) ∧
      (v.scene.fields r).Distinct ∧ swordVictim v r attacker = swordVictim w r attacker ∧
      ZeldaServer.handleCAttack data w r s pkt =
        (if pkt.weaponType = WeaponType.sword then ZeldaServer.handleSwordAttack data v r attacker
        else if pkt.weaponType = WeaponType.bow then ZeldaServer.handleBowAttack v r attacker pkt
        else if pkt.weaponType = WeaponType.staff then
          v.onScene (ZeldaServer.handleStaffAttack data v.routing r attacker pkt)
        else v) ∧
      attackCalls data r w s pkt =
        (if pkt.weaponType = WeaponType.sword then
          [⟨v.routing, r, attacker, v.scene, swordDead v.routing r attacker v.scene,
            (ZeldaServer.handleSwordAttack data v r attacker).scene⟩]
        else if pkt.weaponType = WeaponType.staff then
          [⟨v.routing, r, attacker, v.scene, (staffHits v.routing r attacker pkt v.scene).1,
            ZeldaServer.handleStaffAttack data v.routing r attacker pkt v.scene⟩]
        else []) := by
  have same := Scene.SameObjects.broadcast w.routing r
    (.attack (w.scene.players attacker).info.objectId pkt.dir pkt.weaponType) w.scene
  refine ⟨w.onScene (broadcast w.routing r
    (.attack (w.scene.players attacker).info.objectId pkt.dir pkt.weaponType)), rfl, rfl,
    Chain.single (.struck _ pkt), ?_, ?_, ?_, ?_⟩
  · unfold World.onScene
    rwa [same.fields]
  · simp only [swordVictim, World.onScene, same.players, gameObjectAt_congr same]
  · rw [ZeldaServer.handleCAttack, locked]
  · rw [attackCalls, locked]

theorem handleCAttack (s : SessionId) (pkt : CAttack) (distinct : (w.scene.fields r).Distinct) :
    ∃ after, Scene.Beats data w.routing r (w.scene, w.idGen)
        (rewards data (attackCalls data r w s pkt)) after ∧
      handleCAttack data w r s pkt =
        World.bury ⟨w.routing, after.1, after.2⟩ r (attackVictim w r s pkt) := by
  cases locked : lockPlayer w.routing w.scene [] s with
  | none =>
      rw [ZeldaServer.handleCAttack, attackVictim, attackCalls, locked]
      exact ⟨_, .done _, rfl⟩
  | some attacker =>
      obtain ⟨v, routing, idGen, told, apart, victim, result, made⟩ :=
        announced data w r s pkt attacker locked distinct
      have killed : attackVictim w r s pkt =
          if pkt.weaponType = WeaponType.sword then swordVictim v r attacker else none := by
        rw [attackVictim, locked, victim]
      have one (before after : Scene) (dead : List Monster) :
          rewards data [⟨v.routing, r, attacker, before, dead, after⟩] =
            rewardsOf data v.routing r attacker dead := List.flatMap_singleton _ _
      rw [result, made, killed]
      rw [← routing, ← idGen] at told ⊢
      clear result made killed victim
      by_cases sword : pkt.weaponType = WeaponType.sword
      · rw [if_pos sword, if_pos sword, if_pos sword, one]
        obtain ⟨after, beats, result⟩ := handleSwordAttack data v r attacker
        exact ⟨(after, v.idGen), told.followed beats, result⟩
      · rw [if_neg sword, if_neg sword, if_neg sword]
        by_cases bow : pkt.weaponType = WeaponType.bow
        · rw [if_pos bow, if_neg (by rw [bow]; decide)]
          obtain ⟨after, beats, result⟩ := handleBowAttack data v r attacker pkt
          exact ⟨after, told.followed beats, result⟩
        · rw [if_neg bow]
          by_cases staff : pkt.weaponType = WeaponType.staff
          · rw [if_pos staff, if_pos staff, one]
            have beats := handleStaffAttack data v r attacker pkt apart
            refine ⟨(_, v.idGen), told.followed beats, ?_⟩
            simp only [World.bury, World.onScene]
          · rw [if_neg staff, if_neg staff]
            exact ⟨_, told, rfl⟩

end Scene.Beats

end ZeldaServer
