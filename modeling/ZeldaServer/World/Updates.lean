import ZeldaServer.Lib.Lives
import ZeldaServer.World.Conduct

/-! A run as the `Update`s of its monsters and arrows, the births and the shots, each of them
with the scene it finds. -/

namespace ZeldaServer

open Chains (Chain)

variable (data : GameData)

/-- An `Update`, a monster that comes back to a cell, or an arrow that is shot. -/
inductive TurnKind where
  | monster (id : ObjectId)
  | arrow (id : ObjectId)
  | birth (cell : Vec2Int)
  | shot (arrow : Arrow)

structure Turn where
  routing : Routing
  room : RoomRef
  before : Scene
  kind : TurnKind

def Monster.Newborn (m : Monster) : Prop :=
  ∃ id cell aggroRange leashRange templateId,
    m = createMonster data id cell aggroRange leashRange templateId

inductive Scene.Act (a : Scene × ObjectId) : List Turn → Scene × ObjectId → Prop where
  | aside (b : Scene × ObjectId) (same : a.1.SameGround b.1) (later : a.2 ≤ b.2) : Act a [] b
  | monster (routing : Routing) (r : RoomRef) (m : Monster)
      (found : (a.1.fields r).monster m.info.objectId = some m) (known : m.info.objectId < a.2)
      (distinct : (a.1.fields r).Distinct) :
      Act a [⟨routing, r, a.1, .monster m.info.objectId⟩]
        (monsterUpdate routing r a.1 m.info.objectId, a.2)
  | arrow (routing : Routing) (r : RoomRef) (fired : Arrow)
      (found : (a.1.fields r).projectile fired.info.objectId = some fired)
      (known : fired.info.objectId < a.2) (distinct : (a.1.fields r).Distinct)
      (fine : (arrowUpdate data routing r a.1 fired.info.objectId).fault = none) :
      Act a [⟨routing, r, a.1, .arrow fired.info.objectId⟩]
        (arrowUpdate data routing r a.1 fired.info.objectId, a.2)
  | hit (r : RoomRef) (m : Monster) (damage : Int)
      (found : (a.1.fields r).monster m.info.objectId = some m) :
      Act a [] (a.1.setMonster r (m.damaged damage), a.2)
  | removed (r : RoomRef) (m : Monster) : Act a [] (a.1.dropMonster r m, a.2)
  | born (routing : Routing) (r : RoomRef) (cell : Vec2Int)
      (aggroRange leashRange templateId : Int) :
      Act a [⟨routing, r, a.1, .birth cell⟩]
        (a.1.newMonster r (createMonster data a.2 cell aggroRange leashRange templateId), a.2 + 1)
  | fired (routing : Routing) (r : RoomRef) (arrow : Arrow) (named : arrow.info.objectId = a.2)
      (fresh : arrow.spawned = false) (idle : arrow.info.state = .idle) :
      Act a [⟨routing, r, a.1, .shot arrow⟩] (a.1.newArrow r arrow, a.2 + 1)
  | opened (r : RoomRef) (field : Field) (g : ObjectId) (later : a.2 ≤ g)
      (empty : field.projectiles = []) (newborn : ∀ m ∈ field.monsters, m.Newborn data)
      (new : ∀ m ∈ field.monsters, a.2 ≤ m.info.objectId) : Act a [] (a.1.setField r field, g)

abbrev Scene.Acts : Scene × ObjectId → List Turn → Scene × ObjectId → Prop :=
  Chain (Scene.Act data)

namespace Scene.Acts

variable {data}

theorem aside {a b : Scene} {g g' : ObjectId} (same : a.SameGround b) (later : g ≤ g') :
    Scene.Acts data (a, g) [] (b, g') := Chain.single (.aside (b, g') same later)

theorem followed {a b c : Scene × ObjectId} {labels : List Turn}
    (first : Scene.Acts data a [] b) (rest : Scene.Acts data b labels c) :
    Scene.Acts data a labels c := first.append rest

theorem ended {a b c : Scene × ObjectId} {labels : List Turn}
    (first : Scene.Acts data a labels b) (rest : Scene.Acts data b [] c) :
    Scene.Acts data a labels c := by
  have chain := first.append rest
  rwa [List.append_nil] at chain

end Scene.Acts

section Room

variable (routing : Routing) (r : RoomRef)

def monsterTurns : List ObjectId → Scene → List Turn
  | [], _ => []
  | id :: ids, scene =>
      (if ((scene.fields r).monster id).isSome then [⟨routing, r, scene, .monster id⟩] else []) ++
        monsterTurns ids (monsterUpdate routing r scene id)

def arrowTurns : List ObjectId → Scene → List Turn
  | [], _ => []
  | id :: ids, scene =>
      (if ((scene.fields r).projectile id).isSome then [⟨routing, r, scene, .arrow id⟩] else []) ++
        arrowTurns ids (arrowUpdate data routing r scene id)

/-- The cell where `spawnAt` puts a monster. -/
def spawnCell (pos : Vec2Int) (scene : Scene) : Vec2Int :=
  if canGo routing scene r pos then pos
  else (randomEmptyCellPos routing r scene (scene.rand.length + 1)).1

def respawnTurns : List RespawnRequest → Scene × ObjectId → List Turn
  | [], _ => []
  | request :: requests, made =>
      (if made.1.now < request.due then []
      else [⟨routing, r, made.1, .birth (spawnCell routing r request.homePos made.1)⟩]) ++
        respawnTurns requests (respawn data routing r made request)

def spawnTurns (scene : Scene) (idGen : ObjectId) : List Turn :=
  let field := scene.fields r
  if shouldSpawn field then
    respawnTurns data routing r field.respawnQueue
      (scene.setField r { field with respawnQueue := [] }, idGen)
  else []

def stepTurns (scene : Scene) (idGen : ObjectId) : List Turn :=
  let scene := stepPlayers routing r scene
  let monsters := monsterTurns routing r ((scene.fields r).monsters.map (·.info.objectId)) scene
  let scene := stepMonsters routing r scene
  let arrows := arrowTurns data routing r ((scene.fields r).projectiles.map (·.info.objectId)) scene
  let scene := stepArrows data routing r scene
  monsters ++ arrows ++ spawnTurns data routing r scene idGen

theorem monsterTurns_kind (ids : List ObjectId) (scene : Scene) :
    ∀ t ∈ monsterTurns routing r ids scene, ∃ id, t.kind = .monster id := by
  induction ids generalizing scene with
  | nil => exact fun _ member => absurd member List.not_mem_nil
  | cons id ids ih =>
      intro t member
      rcases List.mem_append.mp member with first | later
      · split at first
        · exact ⟨id, by rw [List.mem_singleton.mp first]⟩
        · cases first
      · exact ih _ t later

theorem arrowTurns_kind (ids : List ObjectId) (scene : Scene) :
    ∀ t ∈ arrowTurns data routing r ids scene, ∃ id, t.kind = .arrow id := by
  induction ids generalizing scene with
  | nil => exact fun _ member => absurd member List.not_mem_nil
  | cons id ids ih =>
      intro t member
      rcases List.mem_append.mp member with first | later
      · split at first
        · exact ⟨id, by rw [List.mem_singleton.mp first]⟩
        · cases first
      · exact ih _ t later

theorem respawnTurns_kind (requests : List RespawnRequest) (made : Scene × ObjectId) :
    ∀ t ∈ respawnTurns data routing r requests made, ∃ cell, t.kind = .birth cell := by
  induction requests generalizing made with
  | nil => exact fun _ member => absurd member List.not_mem_nil
  | cons request requests ih =>
      intro t member
      rcases List.mem_append.mp member with first | later
      · split at first
        · cases first
        · exact ⟨_, by rw [List.mem_singleton.mp first]⟩
      · exact ih _ t later

theorem spawnTurns_kind (scene : Scene) (idGen : ObjectId) :
    ∀ t ∈ spawnTurns data routing r scene idGen, ∃ cell, t.kind = .birth cell := by
  unfold spawnTurns
  dsimp only
  split
  · exact respawnTurns_kind data routing r _ _
  · exact fun _ member => absurd member List.not_mem_nil

theorem stepTurns_kind (scene : Scene) (idGen : ObjectId) :
    ∀ t ∈ stepTurns data routing r scene idGen,
      (∃ id, t.kind = .monster id) ∨ (∃ id, t.kind = .arrow id) ∨ ∃ cell, t.kind = .birth cell := by
  intro t member
  rcases List.mem_append.mp member with updates | births
  · rcases List.mem_append.mp updates with monster | arrow
    · exact .inl (monsterTurns_kind routing r _ _ t monster)
    · exact .inr (.inl (arrowTurns_kind data routing r _ _ t arrow))
  · exact .inr (.inr (spawnTurns_kind data routing r _ idGen t births))

namespace Scene.Acts

variable {taken : ObjectId → Prop}

theorem monsters (ids : List ObjectId) (scene : Scene) (g : ObjectId)
    (numbered : scene.Numbered g taken) :
    Scene.Acts data (scene, g) (monsterTurns routing r ids scene)
        (ids.foldl (monsterUpdate routing r) scene, g) ∧
      (ids.foldl (monsterUpdate routing r) scene).Numbered g taken := by
  induction ids generalizing scene with
  | nil => exact ⟨.done _, numbered⟩
  | cons id ids ih =>
      have next := numbered.deeds routing r (.monsterUpdate routing r scene id)
      obtain ⟨later, final⟩ := ih (monsterUpdate routing r scene id) next
      refine ⟨Chain.append ?_ later, final⟩
      cases found : (scene.fields r).monster id with
      | none =>
          have still : monsterUpdate routing r scene id = scene := by
            unfold monsterUpdate
            rw [found]
          rw [still]
          exact .done _
      | some m =>
          have named : m.info.objectId = id := by simpa using List.find?_some found
          have known := (numbered.monsters r m (List.mem_of_find?_eq_some found)).1
          subst named
          exact Chain.single (.monster routing r m found known (numbered.distinct r))

theorem deeds_fault {a b : Scene} {removed : List Monster} (deeds : a.Deeds routing r removed b)
    (fine : b.fault = none) : a.fault = none := by
  apply deeds.relates (fun a _ b => b.fault = none → a.fault = none) _ _ fine
  · exact fun _ fine => fine
  · intro a middle b first rest now later fine
    cases now with
    | quiet middle same => exact same.fault (later fine)
    | _ => exact later fine

theorem spawning_fault :
    Scene.Spawning routing r fun a b => b.fault = none → a.fault = none where
  refl := fun _ fine => fine
  trans := fun first second fine => first (second fine)
  draw := fun scene => (Scene.Quiet.draw scene).fault
  fail := fun scene fault _ => (Scene.Quiet.fail scene fault).fault
  field := fun _ _ fine => fine
  told := fun scene pkt => (Scene.Quiet.broadcast routing r (.addObject pkt) scene).fault

theorem arrowUpdates_fault (ids : List ObjectId) (scene : Scene)
    (fine : (ids.foldl (arrowUpdate data routing r) scene).fault = none) :
    scene.fault = none := by
  induction ids generalizing scene with
  | nil => exact fine
  | cons id ids ih =>
      obtain ⟨removed, chain⟩ := Scene.Deeds.arrowUpdate data routing r scene id
      exact deeds_fault routing r chain (ih _ fine)

theorem arrows (ids : List ObjectId) (scene : Scene) (g : ObjectId)
    (numbered : scene.Numbered g taken)
    (fine : (ids.foldl (arrowUpdate data routing r) scene).fault = none) :
    Scene.Acts data (scene, g) (arrowTurns data routing r ids scene)
        (ids.foldl (arrowUpdate data routing r) scene, g) ∧
      (ids.foldl (arrowUpdate data routing r) scene).Numbered g taken := by
  induction ids generalizing scene with
  | nil => exact ⟨.done _, numbered⟩
  | cons id ids ih =>
      obtain ⟨removed, chain⟩ := Scene.Deeds.arrowUpdate data routing r scene id
      obtain ⟨later, final⟩ := ih (arrowUpdate data routing r scene id)
        (numbered.deeds routing r chain) fine
      have unharmed := arrowUpdates_fault data routing r ids _ fine
      refine ⟨Chain.append ?_ later, final⟩
      cases found : (scene.fields r).projectile id with
      | none =>
          have still : arrowUpdate data routing r scene id = scene := by
            unfold arrowUpdate
            rw [found]
          rw [still]
          exact .done _
      | some fired =>
          have named : fired.info.objectId = id := by simpa using List.find?_some found
          have known := (numbered.arrows r fired (List.mem_of_find?_eq_some found)).1
          subst named
          exact Chain.single (.arrow routing r fired found known (numbered.distinct r) unharmed)

theorem spawnAt (pos : Vec2Int) (aggroRange leashRange templateId : Int) (made : Scene × ObjectId) :
    Scene.Acts data made [⟨routing, r, made.1, .birth (spawnCell routing r pos made.1)⟩]
      (spawnAt data routing r pos aggroRange leashRange templateId made) := by
  obtain ⟨scene, g⟩ := made
  have placed (cell : Vec2Int) (now : Scene) (quiet : scene.Quiet now) :
      Scene.Acts data (scene, g) [⟨routing, r, scene, .birth cell⟩]
        (addMonster routing r (createMonster data g cell aggroRange leashRange templateId) now,
          g + 1) := by
    have new : Scene.Acts data (scene, g) [⟨routing, r, scene, .birth cell⟩]
        (scene.newMonster r (createMonster data g cell aggroRange leashRange templateId), g + 1) :=
      Chain.single (.born routing r cell aggroRange leashRange templateId)
    apply new.ended
    apply aside _ (Nat.le_refl _)
    apply Scene.SameGround.quiet
    have told := Scene.Quiet.broadcast routing r
      (.addObject ⟨[(createMonster data g cell aggroRange leashRange templateId).info]⟩)
      (now.newMonster r (createMonster data g cell aggroRange leashRange templateId))
    apply Scene.Quiet.trans _ told
    refine ⟨⟨quiet.players, ?_⟩, quiet.now, quiet.fault⟩
    unfold Scene.newMonster Scene.setField
    rw [quiet.fields]
  unfold ZeldaServer.spawnAt spawnCell
  dsimp only
  split
  case isTrue => exact placed pos scene (.refl scene)
  case isFalse => exact placed _ _ (randomEmptyCellPos_spec routing r _ scene).1

theorem respawns (requests : List RespawnRequest) (made : Scene × ObjectId) :
    Scene.Acts data made (respawnTurns data routing r requests made)
      (requests.foldl (respawn data routing r) made) := by
  induction requests generalizing made with
  | nil => exact .done made
  | cons request requests ih =>
      apply Chain.append _ (ih (respawn data routing r made request))
      unfold respawn
      dsimp only
      split
      case isTrue => exact aside (.setField made.1 r _ rfl rfl rfl) (Nat.le_refl _)
      case isFalse =>
        exact spawnAt data routing r request.homePos request.aggroRange request.leashRange
          request.templateId made

theorem spawnTick (scene : Scene) (g : ObjectId) :
    Scene.Acts data (scene, g) (spawnTurns data routing r scene g)
      (spawnTick data routing r scene g) := by
  unfold ZeldaServer.spawnTick spawnTurns
  dsimp only
  split
  case isTrue =>
    have drained : Scene.Acts data (scene, g) []
        (scene.setField r { scene.fields r with respawnQueue := [] }, g) :=
      aside (.setField scene r _ rfl rfl rfl) (Nat.le_refl _)
    exact drained.followed (respawns data routing r _ _)
  case isFalse => exact .done _

theorem stepPlayers (scene : Scene) : scene.SameGround (stepPlayers routing r scene) := by
  apply Scene.SameGround.foldl
  intro scene id
  exact .actPlayer routing id _ (Player.update_dir scene.now) scene

theorem gameStep (scene : Scene) (g : ObjectId) (numbered : scene.Numbered g taken)
    (fine : (gameStep data routing r scene g).1.fault = none) :
    Scene.Acts data (scene, g) (stepTurns data routing r scene g)
      (gameStep data routing r scene g) := by
  have played : Scene.Acts data (scene, g) [] (ZeldaServer.stepPlayers routing r scene, g) :=
    aside (stepPlayers routing r scene) (Nat.le_refl g)
  have walking := numbered.deeds routing r (.stepPlayers routing r scene)
  obtain ⟨walked, flying⟩ := monsters data routing r
    (((ZeldaServer.stepPlayers routing r scene).fields r).monsters.map (·.info.objectId)) _ g walking
  rw [gameStep_eq] at fine ⊢
  have unharmed := (spawning_fault routing r).spawnTick data (stepObjects data routing r scene) g fine
  obtain ⟨flown, -⟩ := arrows data routing r _ _ g flying unharmed
  exact played.followed ((walked.append flown).append (spawnTick data routing r _ g))

end Scene.Acts

theorem Field.Distinct.monster {field : Field} (distinct : field.Distinct) (m : Monster)
    (member : m ∈ field.monsters) : field.monster m.info.objectId = some m := by
  cases found : field.monster m.info.objectId with
  | none =>
      have absent := List.find?_eq_none.mp found m member
      simp at absent
  | some other =>
      have named : other.info.objectId = m.info.objectId := by simpa using List.find?_some found
      rw [distinct.same other m (List.mem_of_find?_eq_some found) member named]

namespace Scene.Acts

theorem hitMonster (attackerId : ObjectId) (damage : Int) (m : Monster) (scene : Scene)
    (g : ObjectId) (member : m ∈ (scene.fields r).monsters)
    (distinct : (scene.fields r).Distinct) :
    Scene.Acts data (scene, g) [] ((hitMonster routing r attackerId damage m scene).2, g) := by
  have hit : Scene.Acts data (scene, g) [] (scene.setMonster r (m.damaged damage), g) :=
    Chain.single (.hit r m damage (distinct.monster m member))
  exact hit.followed (aside (.hitMonster routing r attackerId damage m scene) (Nat.le_refl g))

theorem killMonster (killer : ObjectId) (m : Monster) (scene : Scene) (g : ObjectId) :
    Scene.Acts data (scene, g) [] (killMonster data routing r killer m scene, g) := by
  have gone : Scene.Acts data (scene, g) [] (scene.dropMonster r m, g) :=
    Chain.single (.removed r m)
  exact gone.followed (aside (.killMonster data routing r killer m scene) (Nat.le_refl g))

theorem killMonsters (killer : ObjectId) (dead : List Monster) (scene : Scene) (g : ObjectId) :
    Scene.Acts data (scene, g) []
      (dead.foldl (fun scene m => ZeldaServer.killMonster data routing r killer m scene) scene,
        g) := by
  induction dead generalizing scene with
  | nil => exact .done _
  | cons head tail ih => exact (killMonster data routing r killer head scene g).followed (ih _)

theorem staffCells (attacker : ObjectInfo) (cells : List Vec2Int) (now : List Monster × Scene)
    (g : ObjectId) (distinct : (now.2.fields r).Distinct) :
    Scene.Acts data (now.2, g) [] ((cells.foldl (staffCell routing r attacker) now).2, g) := by
  induction cells generalizing now with
  | nil => exact .done _
  | cons cell cells ih =>
      rw [List.foldl_cons]
      cases seen : monsterAt now.2 r cell with
      | none =>
          have same : staffCell routing r attacker now cell = now := by rw [staffCell, seen]
          rw [same]
          exact ih now distinct
      | some target =>
          rw [staffCell_eq routing r attacker now cell target seen]
          generalize max 1 ((attacker.attack - target.info.defence).tdiv 2) = damage
          have member : target ∈ (now.2.fields r).monsters := List.mem_of_find?_eq_some seen
          apply (hitMonster data routing r attacker.objectId damage target now.2 g member
            distinct).followed
          refine ih (_, _) ?_
          unfold Field.Distinct
          rw [hitMonster_fields, setMonster_ids]
          exact distinct

theorem handleStaffAttack (attacker : ObjectId) (pkt : CAttack) (scene : Scene) (g : ObjectId)
    (distinct : (scene.fields r).Distinct) :
    Scene.Acts data (scene, g) [] (handleStaffAttack data routing r attacker pkt scene, g) := by
  rw [handleStaffAttack_eq]
  exact (staffCells data routing r _ _ ([], scene) g distinct).followed
    (killMonsters data routing r attacker _ _ g)

end Scene.Acts

end Room

namespace Scene.Acts

theorem handleSwordAttack (w : World) (r : RoomRef) (attacker : ObjectId)
    (distinct : (w.scene.fields r).Distinct) :
    Scene.Acts data (w.scene, w.idGen) []
      ((handleSwordAttack data w r attacker).scene, w.idGen) := by
  unfold ZeldaServer.handleSwordAttack
  dsimp only
  cases front : gameObjectAt w.routing w.scene r (w.scene.players attacker).info.frontCellPos with
  | none => exact .done _
  | some object =>
      cases object with
      | projectile => exact .done _
      | player target =>
          have hurt := Scene.SameGround.hurtPlayer target
            (max 1 ((w.scene.players attacker).info.attack -
              (w.scene.players target).info.defence)) w.scene
          dsimp only
          split
          · exact aside ((hurt.trans (.broadcast w.routing r _ _)).trans (.broadcast _ r _ _))
              (Nat.le_refl _)
          · exact aside (hurt.trans (.broadcast w.routing r _ _)) (Nat.le_refl _)
      | monster target =>
          have member := gameObjectAt_monster w.routing r w.scene _ target front
          have hit := hitMonster data w.routing r (w.scene.players attacker).info.objectId
            (max 1 ((w.scene.players attacker).info.attack - target.info.defence)) target w.scene
            w.idGen member distinct
          dsimp only
          split
          · exact hit.followed (killMonster data w.routing r attacker _ _ w.idGen)
          · exact hit

end Scene.Acts

/-- The arrow of `HandleBowAttack`. -/
def World.bowArrow (w : World) (attacker : ObjectId) (pkt : CAttack) : Arrow :=
  let start := (w.scene.players attacker).info.cellPos
  { info :=
      { ObjectInfo.default with
        objectId := w.idGen
        objectType := .projectile
        dir := pkt.dir
        posX := start.x
        posY := start.y }
    ownerId := (w.scene.players attacker).info.objectId
    expireTick := 0
    waitUntil := 0
    spawned := false }

/-- The shot of a `C_Attack`, if it is one. -/
def shotTurns (w : World) (r : RoomRef) (s : SessionId) (pkt : CAttack) : List Turn :=
  match lockPlayer w.routing w.scene [] s with
  | none => []
  | some attacker =>
      let id := (w.scene.players attacker).info.objectId
      let w := w.onScene (broadcast w.routing r (.attack id pkt.dir pkt.weaponType))
      if pkt.weaponType = WeaponType.bow then
        [⟨w.routing, r, w.scene, .shot (w.bowArrow attacker pkt)⟩]
      else []

theorem shotTurns_kind (w : World) (r : RoomRef) (s : SessionId) (pkt : CAttack) :
    ∀ t ∈ shotTurns w r s pkt, ∃ arrow, t.kind = .shot arrow := by
  unfold shotTurns
  cases lockPlayer w.routing w.scene [] s with
  | none => exact fun _ member => absurd member List.not_mem_nil
  | some attacker =>
      dsimp only
      split
      · intro t member
        obtain rfl := List.mem_singleton.mp member
        exact ⟨_, rfl⟩
      · exact fun _ member => absurd member List.not_mem_nil

namespace Scene.Acts

theorem handleBowAttack (w : World) (r : RoomRef) (attacker : ObjectId) (pkt : CAttack) :
    Scene.Acts data (w.scene, w.idGen)
      [⟨w.routing, r, w.scene, .shot (w.bowArrow attacker pkt)⟩]
      ((handleBowAttack w r attacker pkt).scene, (handleBowAttack w r attacker pkt).idGen) := by
  have shot : Scene.Acts data (w.scene, w.idGen)
      [⟨w.routing, r, w.scene, .shot (w.bowArrow attacker pkt)⟩]
      (w.scene.newArrow r (w.bowArrow attacker pkt), w.idGen + 1) :=
    Chain.single (.fired w.routing r (w.bowArrow attacker pkt) rfl rfl rfl)
  apply shot.ended
  exact aside (.broadcast w.routing r _ _) (Nat.le_refl _)

theorem handleCAttack (w : World) (r : RoomRef) (s : SessionId) (pkt : CAttack)
    (distinct : (w.scene.fields r).Distinct) :
    Scene.Acts data (w.scene, w.idGen) (shotTurns w r s pkt)
      ((handleCAttack data w r s pkt).scene, (handleCAttack data w r s pkt).idGen) := by
  unfold ZeldaServer.handleCAttack shotTurns
  cases locked : lockPlayer w.routing w.scene [] s with
  | none => exact .done _
  | some attacker =>
      dsimp only
      have told := Scene.Quiet.broadcast w.routing r
        (.attack (w.scene.players attacker).info.objectId pkt.dir pkt.weaponType) w.scene
      generalize broadcast w.routing r
        (.attack (w.scene.players attacker).info.objectId pkt.dir pkt.weaponType) = broadcasts
        at told
      have distinct' : ((w.onScene broadcasts).scene.fields r).Distinct := by
        unfold World.onScene
        rwa [told.fields]
      have heard : Scene.Acts data (w.scene, w.idGen) [] ((w.onScene broadcasts).scene, w.idGen) :=
        aside (.quiet told) (Nat.le_refl _)
      by_cases sword : pkt.weaponType = WeaponType.sword
      · rw [if_pos sword, if_neg (by rw [sword]; decide), handleSwordAttack_idGen]
        exact heard.followed (handleSwordAttack data (w.onScene broadcasts) r attacker distinct')
      · rw [if_neg sword]
        split
        · exact heard.followed (handleBowAttack data (w.onScene broadcasts) r attacker pkt)
        · split
          · have hit := handleStaffAttack data w.routing r attacker pkt (broadcasts w.scene) w.idGen
              distinct'
            simp only [World.onScene] at heard ⊢
            generalize ZeldaServer.handleStaffAttack data w.routing r attacker pkt
              (broadcasts w.scene) = after at hit ⊢
            exact heard.followed hit
          · exact heard

end Scene.Acts

namespace Scene.Acts

theorem births (routing : Routing) (r : RoomRef) (g : ObjectId) {made made' : Scene × ObjectId}
    {born : List Monster} (births : Scene.Births data routing r made born made')
    (empty : (made.1.fields r).monsters = []) (clear : (made.1.fields r).projectiles = [])
    (above : g ≤ made.2) :
    g ≤ made'.2 ∧ (made'.1.fields r).projectiles = [] ∧
      ∀ m ∈ (made'.1.fields r).monsters, m.Newborn data ∧ g ≤ m.info.objectId := by
  apply births.keeps (fun made => g ≤ made.2 ∧ (made.1.fields r).projectiles = [] ∧
    ∀ m ∈ (made.1.fields r).monsters, m.Newborn data ∧ g ≤ m.info.objectId)
  · rintro made labels made' ⟨above, clear, new⟩ birth
    cases birth with
    | waits request =>
        refine ⟨above, ?_, ?_⟩
        · simpa [Scene.waitFor, Scene.setField] using clear
        · intro m member
          exact new m (by simpa [Scene.waitFor, Scene.setField] using member)
    | born cell aggroRange leashRange templateId b next players fields now free =>
        refine ⟨next ▸ Nat.le_succ_of_le above, ?_, ?_⟩
        · rw [fields]
          simpa [Scene.setField] using clear
        · intro m member
          rw [fields] at member
          simp only [Scene.setField, Function.update_self, List.mem_append,
            List.mem_singleton] at member
          rcases member with old | rfl
          · exact new m old
          · exact ⟨⟨_, _, _, _, _, rfl⟩, above⟩
  · refine ⟨above, clear, fun m member => ?_⟩
    rw [empty] at member
    cases member

theorem initFromConfig (routing : Routing) (r : RoomRef) (roomId : RoomName) (scene : Scene)
    (g : ObjectId) (empty : (scene.fields r).monsters = [])
    (clear : (scene.fields r).projectiles = []) :
    Scene.Acts data (scene, g) [] (initFromConfig data routing r roomId scene g) := by
  obtain ⟨born, chain, -⟩ := initFromConfig_births data routing r roomId scene g
  generalize ZeldaServer.initFromConfig data routing r roomId scene g = made at chain ⊢
  have kept : (configured data roomId (scene.fields r)).monsters = (scene.fields r).monsters ∧
      (configured data roomId (scene.fields r)).projectiles = (scene.fields r).projectiles := by
    unfold configured
    cases data.roomConfig roomId <;> exact ⟨rfl, rfl⟩
  have start : (scene.setField r (configured data roomId (scene.fields r))).fields r =
      configured data roomId (scene.fields r) := Function.update_self _ _ _
  obtain ⟨above, projectiles, monsters⟩ := births data routing r g chain
    (by rw [start, kept.1, empty]) (by rw [start, kept.2, clear]) (Nat.le_refl g)
  obtain ⟨now, players, others⟩ := births_keep data routing r chain
  have opened : Scene.Acts data (scene, g) [] (scene.setField r (made.1.fields r), made.2) :=
    Chain.single (.opened r (made.1.fields r) made.2 above projectiles
      (fun m member => (monsters m member).1) (fun m member => (monsters m member).2))
  apply opened.followed
  apply aside (b := made.1) _ (Nat.le_refl _)
  have same (r' : RoomRef) : made.1.fields r' = (scene.setField r (made.1.fields r)).fields r' := by
    by_cases here : r' = r
    · rw [here]
      simp [Scene.setField]
    · rw [others r' here]
      simp [Scene.setField, here]
  constructor
  case monsters => exact fun r' => by rw [same r']
  case projectiles => exact fun r' => by rw [same r']
  case tilemap => exact fun r' => by rw [same r']
  case now => exact Nat.le_of_eq now.symm
  case looks =>
    rw [players]
    exact fun _ valid => valid

theorem createDungeonInstance (w : World) :
    Scene.Acts data (w.scene, w.idGen) []
      ((w.createDungeonInstance data).2.2.scene, (w.createDungeonInstance data).2.2.idGen) := by
  have cleared : Scene.Acts data (w.scene, w.idGen) []
      (w.scene.setField w.routing.roomCount .empty, w.idGen) :=
    Chain.single (.opened w.routing.roomCount .empty w.idGen (Nat.le_refl _) rfl
      (fun _ member => absurd member List.not_mem_nil)
      (fun _ member => absurd member List.not_mem_nil))
  apply cleared.followed
  apply initFromConfig
  · simp [Scene.setField, Field.empty]
  · simp [Scene.setField, Field.empty]

end Scene.Acts

def jobTurns (w : World) (r : RoomRef) : Job → List Turn
  | .attack s pkt => shotTurns w r s pkt
  | _ => []

def World.turns (w : World) : Event → List Turn
  | .job rand =>
      match w.routing.nextJob with
      | some (r, job, rest) => jobTurns (w.forJob r rest rand) r job
      | none => []
  | .step rand =>
      match w.routing.pass with
      | some { current := some ⟨r, some _⟩, .. } =>
          stepTurns data w.routing r { w.scene with rand } w.idGen
      | _ => []
  | _ => []

theorem handleCMove_ground (routing : Routing) (r : RoomRef) (s : SessionId) (pkt : CMove)
    (scene : Scene) : scene.SameGround (handleCMove routing r s pkt scene) := by
  unfold handleCMove
  cases lockPlayer routing scene [] s with
  | none => exact .refl scene
  | some id =>
      dsimp only
      split
      · exact .refl scene
      · split
        · exact .refl scene
        case isFalse valid =>
          split
          · apply Scene.SameGround.trans _ (.broadcast routing r _ _)
            exact .setPlayer scene id _ fun _ => by simpa using valid
          · split
            · apply Scene.SameGround.trans _ (.broadcast routing r _ _)
              exact .setPlayer scene id _ fun valid => valid
            · apply Scene.SameGround.trans _ (.broadcast routing r _ _)
              exact .setPlayer scene id _ fun valid => valid

theorem handleCTurn_ground (routing : Routing) (r : RoomRef) (s : SessionId) (pkt : CTurn)
    (scene : Scene) : scene.SameGround (handleCTurn routing r s pkt scene) := by
  rcases handleCTurn_cases routing r s pkt scene with quiet | ⟨id, -, valid, -, quiet⟩
  · exact .quiet quiet
  · exact .trans (.setPlayer scene id _ fun _ => valid) (.quiet quiet)

theorem runJob_acts (w : World) (r : RoomRef) (job : Job) (distinct : (w.scene.fields r).Distinct) :
    Scene.Acts data (w.scene, w.idGen) (jobTurns w r job)
      ((runJob data w r job).scene, (runJob data w r job).idGen) := by
  have quiet {v : World} (same : w.scene.Quiet v.scene) (idGen : v.idGen = w.idGen) :
      Scene.Acts data (w.scene, w.idGen) [] (v.scene, v.idGen) :=
    .aside (.quiet same) (Nat.le_of_eq idGen.symm)
  have item (s : SessionId) (method : Player → Player × List Emission)
      (dir : ∀ p, (method p).1.info.dir = p.info.dir) :
      Scene.Acts data (w.scene, w.idGen) []
        ((itemJob method w s).scene, (itemJob method w s).idGen) := by
    rw [itemJob_idGen]
    unfold itemJob
    cases lockPlayer w.routing w.scene [] s with
    | none => exact .done _
    | some id => exact .aside (.actPlayer w.routing id method dir w.scene) (Nat.le_refl _)
  cases job with
  | attack s pkt => exact .handleCAttack data w r s pkt distinct
  | move s pkt => exact .aside (handleCMove_ground w.routing r s pkt w.scene) (Nat.le_refl _)
  | turn s pkt => exact .aside (handleCTurn_ground w.routing r s pkt w.scene) (Nat.le_refl _)
  | changeMap s pkt =>
      cases handleCChangeMap_cases data w r s pkt with
      | absent _ result => exact quiet (by rw [runJob, result]; exact .refl _) (by rw [runJob, result])
      | refused _ _ _ result =>
          exact quiet (by rw [runJob, result]; exact .send w.scene s _) (by rw [runJob, result]; rfl)
      | town requester _ _ dest _ result =>
          rw [runJob, result]
          exact quiet (changeMapTo_quiet w r dest s requester pkt 0)
            (changeMapTo_idGen w r dest s requester pkt 0)
      | dungeon requester _ _ _ result =>
          rw [runJob, result, changeMapTo_idGen]
          apply (Scene.Acts.createDungeonInstance data w).followed
          exact .aside (.quiet (changeMapTo_quiet _ r _ s requester pkt _)) (Nat.le_refl _)
  | equipItem s slot => exact item s _ (Player.equipItem_dir data slot)
  | unequipItem s equipType => exact item s _ (Player.unequipItem_dir data equipType)
  | useItem s slot => exact item s _ (Player.useItem_dir data slot)
  | partyInvite s targetId =>
      exact quiet (partyInvite_whispers w r s targetId).quiet (partyInvite_idGen w r s targetId)
  | partyAnswer s inviterId accept =>
      exact quiet (partyAnswer_whispers w r s inviterId accept).quiet
        (partyAnswer_idGen w r s inviterId accept)
  | partyLeave s => exact quiet (partyLeave_whispers w r s).quiet (partyLeave_idGen w r s)
  | enterRoom s player =>
      have entered := Scene.SameGround.setPlayer w.scene player
        (w.scene.players player).atEntrance fun valid => valid
      exact .aside (entered.trans (.quiet (enterRoom_quiet w r s player)))
        (Nat.le_of_eq (enterRoom_idGen w r s player).symm)
  | leaveRoom s => exact quiet (leaveRoom_quiet w [] r s) (leaveRoom_idGen w [] r s)

theorem loginPlayer_looks (store : Store) (account : AccountId) (id : ObjectId)
    (username : Bytes) :
    (loginPlayer data store account id username).1.info.dir.isValid = true := by
  have created : (Player.create data id).info.dir = Dir.up := rfl
  unfold loginPlayer
  cases store.rows account with
  | none => rfl
  | some saved =>
      have kept : (Player.applyFromSaveData data saved (Player.create data id)).info.dir =
          (Player.create data id).info.dir := by
        unfold Player.applyFromSaveData Player.withExtra
        dsimp only
        apply (congrArg Looks.dir (Player.recalcStats_looks data _)).trans
        dsimp only [ObjectInfo.looks]
        cases data.levelData saved.level <;> rfl
      dsimp only
      rw [kept, created]
      rfl

theorem handleCLogin_players (w : World) (s : SessionId) (username : Bytes) (id : ObjectId) :
    (handleCLogin data w s username).scene.players id = w.scene.players id ∨
      ∃ store account, (handleCLogin data w s username).scene.players id =
        (loginPlayer data store account w.idGen username).1 := by
  unfold handleCLogin
  split
  · exact .inl rfl
  · dsimp only
    split
    · exact .inl rfl
    · have told (scene : Scene) (commands : List RedisCommand) :
          scene.Quiet (if scene.redisConnected then commands.foldl Scene.redisCommand scene
            else scene) := by
        split
        · exact .foldl _ Scene.Quiet.redisCommand commands scene
        · exact .refl scene
      generalize made : loginPlayer data (w.routing.store.findOrCreateAccount username).2
        (w.routing.store.findOrCreateAccount username).1 w.idGen username = created
      have quiet := told ((w.scene.setPlayer w.idGen created.1).send s (.enterGame true
        (w.routing.store.findOrCreateAccount username).1))
        [.setLocation username, .rankLevel username created.1.level]
      have kept := congrArg (fun players => players id) quiet.players
      simp only [List.foldl_cons, List.foldl_nil] at kept
      by_cases own : id = w.idGen
      · right
        subst own
        refine ⟨_, _, (kept.trans ?_).trans (congrArg Prod.fst made.symm)⟩
        exact Function.update_self _ _ _
      · left
        apply kept.trans
        exact Function.update_of_ne own _ _

theorem handleCLogin_looks (w : World) (s : SessionId) (username : Bytes) (id : ObjectId)
    (valid : (w.scene.players id).info.dir.isValid = true) :
    ((handleCLogin data w s username).scene.players id).info.dir.isValid = true := by
  rcases handleCLogin_players data w s username id with same | ⟨store, account, created⟩
  · rwa [same]
  · rw [created]
    exact loginPlayer_looks data store account w.idGen username

theorem afterStep_acts (w : World) (r : RoomRef) (rand : List Nat) (orderly : w.Orderly)
    (fine : (w.afterStep data r rand).1.fault = none) :
    Scene.Acts data (w.scene, w.idGen) (stepTurns data w.routing r { w.scene with rand } w.idGen)
      (w.afterStep data r rand) := by
  have supplied : Scene.Acts data (w.scene, w.idGen) [] ({ w.scene with rand }, w.idGen) :=
    .aside (.quiet (.of_same rfl rfl rfl rfl)) (Nat.le_refl _)
  have numbered : { w.scene with rand }.Numbered w.idGen w.routing.LoggedPlayer :=
    orderly.numbered.of_fields rfl (fun _ => rfl) (fun _ => rfl)
  have stepped := Scene.Acts.gameStep data w.routing r { w.scene with rand } w.idGen numbered fine
  apply (supplied.followed stepped).ended
  exact .aside (.setField _ r _ rfl rfl rfl) (Nat.le_refl _)

theorem step_acts (w next : World) (e : Event) (orderly : w.Orderly)
    (stepped : w.step data e = some next) :
    Scene.Acts data (w.scene, w.idGen) (w.turns data e) (next.scene, next.idGen) := by
  have later := step_idGen data w next e stepped
  obtain ⟨acted, fine⟩ := step_act data w next e stepped
  cases step_acted data w next e stepped with
  | still e jobless stepless same =>
      have none : w.turns data e = [] := by
        cases e with
        | job rand => exact absurd rfl (jobless rand)
        | step rand => exact absurd rfl (stepless rand)
        | _ => rfl
      rw [none]
      apply Scene.Acts.aside _ later
      constructor
      case now => exact same.now
      case looks =>
        rw [same.players]
        exact fun _ valid => valid
      all_goals
        intro r
        obtain ⟨nextTick, field⟩ := same.fields r
        rw [field]
  | login s username player named players fields now standing idGen =>
      apply Scene.Acts.aside _ later
      constructor
      case now => exact Nat.le_of_eq now.symm
      case looks =>
        intro id valid
        simp only [World.act] at acted
        split at acted
        · cases acted
          exact handleCLogin_looks data w s username id valid
        · cases acted
      all_goals exact fun r => by rw [fields]
  | ran rand r job rest front result =>
      subst result
      have turns : w.turns data (.job rand) = jobTurns (w.forJob r rest rand) r job := by
        unfold World.turns
        rw [front]
      rw [turns]
      have supplied : Scene.Acts data (w.scene, w.idGen) []
          ((w.forJob r rest rand).scene, (w.forJob r rest rand).idGen) :=
        .aside (.quiet (.of_same rfl rfl rfl rfl)) (Nat.le_refl _)
      exact supplied.followed
        (runJob_acts data (w.forJob r rest rand) r job (orderly.numbered.distinct r))
  | stepped rand pass r steps under_way current scene idGen rooms logins =>
      obtain ⟨passNow, statics, dungeonsFrom, visited, under⟩ := pass
      cases current
      have turns : w.turns data (.step rand) =
          stepTurns data w.routing r { w.scene with rand } w.idGen := by
        unfold World.turns
        rw [under_way]
      rw [scene] at fine
      rw [turns, scene, idGen]
      exact afterStep_acts data w r rand orderly fine

theorem init_acts (store : Store) (redisConnected : Bool) (rand : List Nat) :
    Scene.Acts data ((World.empty data store redisConnected rand).scene, 1) []
      ((World.init data store redisConnected rand).scene,
        (World.init data store redisConnected rand).idGen) := by
  have opened (w : World) (channel : Int) (roomId : RoomName)
      (empty : w.scene.fields w.routing.roomCount = .empty) :
      Scene.Acts data (w.scene, w.idGen) []
        ((w.openTown data channel roomId).scene, (w.openTown data channel roomId).idGen) :=
    .initFromConfig data _ _ roomId w.scene w.idGen (by rw [empty]; rfl) (by rw [empty]; rfl)
  unfold World.init
  dsimp only
  split
  case isTrue =>
    generalize start : World.empty data store redisConnected rand = w
    have rooms : w.routing.roomCount = 0 := by rw [← start]; rfl
    have fields : w.scene.fields = fun _ => .empty := by rw [← start]; rfl
    have ids : w.idGen = 1 := by rw [← start]; rfl
    have first := opened w 1 .town1 (by rw [fields])
    rw [ids] at first
    apply first.followed
    apply opened
    obtain ⟨born, births, -⟩ := initFromConfig_births data
      (w.routing.addRoom (Room.create .town 1 0)) w.routing.roomCount .town1 w.scene w.idGen
    have others := (births_keep data _ _ births).2.2
    have next : (w.openTown data 1 .town1).routing.roomCount = w.routing.roomCount + 1 := rfl
    rw [next]
    apply (others _ (Nat.succ_ne_self _)).trans
    simp [Scene.setField, fields]
  case isFalse => exact .done _

def recordTurns (w : World) (e : Event) (_ : World) (history : List Turn) : List Turn :=
  history ++ w.turns data e

def Unborn (idGen : ObjectId) (id : RoomRef × ObjectId) : Prop := idGen ≤ id.2

theorem everyState_acts (invariant : Scene × ObjectId → List Turn → Prop)
    (start : ∀ scene : Scene, (∀ r, scene.fields r = .empty) → ∀ g, invariant (scene, g) [])
    (act : ∀ a turns b, Scene.Act data a turns b → ∀ history, invariant a history →
      invariant b (history ++ turns))
    (store : Store) (redisConnected : Bool) (rand : List Nat) (events : List Event) :
    Runs.EveryState (Runs.observed (World.step data) (recordTurns data))
      (fun now => invariant (now.1.scene, now.1.idGen) now.2)
      (World.init data store redisConnected rand, []) events := by
  have acts (a b : Scene × ObjectId) (turns : List Turn) (chain : Scene.Acts data a turns b) :
      ∀ history, invariant a history → invariant b (history ++ turns) := by
    refine chain.relates (fun a turns b => ∀ history, invariant a history →
      invariant b (history ++ turns)) ?_ ?_
    · intro a history kept
      rwa [List.append_nil]
    · intro a middle b first rest now later history kept
      rw [← List.append_assoc]
      exact later _ (act a first middle now history kept)
  apply Runs.everyState_invariant (fun _ _ => True)
    (fun now => now.1.Orderly ∧ invariant (now.1.scene, now.1.idGen) now.2)
  · exact fun now kept => kept.2
  · rintro now e after ⟨orderly, kept⟩ - observed
    obtain ⟨stepped, history⟩ := Runs.observed_some _ now after e observed
    refine ⟨step_orderly data now.1 after.1 e orderly stepped, ?_⟩
    rw [history]
    exact acts _ _ _ (step_acts data now.1 after.1 e orderly stepped) now.2 kept
  · refine ⟨init_orderly data store redisConnected rand, ?_⟩
    apply acts _ _ [] (init_acts data store redisConnected rand) []
    exact start _ (fun _ => rfl) 1
  · exact Runs.eachStep_true _ _

def TrackedIn {View Label : Type} (S : Lives.Stage (RoomRef × ObjectId) Scene View Label)
    (label : Turn → Option Label) (at_ : Scene × ObjectId) (turns : List Turn) : Prop :=
  S.Tracked at_.1 (Unborn at_.2) (turns.filterMap label)

end ZeldaServer
