import ZeldaServer.World.Combat

/-! Rooms whose configuration disables skills. `CanUseSkill` reads the flag, but no path from
a `C_Attack` asks it. -/

namespace ZeldaServer

open Chains (Chain)

variable (data : GameData)

/-- `GameRoom::CanUseSkill` -/
def canUseSkill (field : Field) : Bool :=
  match field.config with
  | none => false
  | some config => config.skillEnabled

def skillsDisabled (field : Field) : Bool := field.config.isSome && !canUseSkill field

structure Unharmed (r : RoomRef) (a : Routing) (before : Scene) (b : Routing) (after : Scene) :
    Prop where
  stays : ∀ id ∈ playerIds a r, id ∈ playerIds b r
  players : ∀ id ∈ playerIds a r, (before.players id).info.hp ≤ (after.players id).info.hp
  monsters : ∀ m ∈ (before.fields r).monsters, ∃ m' ∈ (after.fields r).monsters,
    m'.info.objectId = m.info.objectId ∧ m.info.hp ≤ m'.info.hp
  projectiles : ∀ p ∈ (after.fields r).projectiles, ∃ p' ∈ (before.fields r).projectiles,
    p'.info.objectId = p.info.objectId

theorem unharmed_of_same (r : RoomRef) (a b : Routing) (before after : Scene)
    (standing : playerIds b r = playerIds a r)
    (players : ∀ id ∈ playerIds a r, after.players id = before.players id)
    (field : after.fields r = before.fields r) : Unharmed r a before b after where
  stays := fun _ member => standing ▸ member
  players := fun _ member => players _ member ▸ Int.le_refl _
  monsters := fun m member => ⟨m, field ▸ member, rfl, Int.le_refl _⟩
  projectiles := fun p member => ⟨p, field ▸ member, rfl⟩

section Reach

variable (routing : Routing) (r : RoomRef)

theorem actPlayer_players (id other : ObjectId) (apart : other ≠ id)
    (method : Player → Player × List Emission) (scene : Scene) :
    (actPlayer routing id method scene).players other = scene.players other := by
  unfold actPlayer
  dsimp only
  rw [(Scene.Quiet.emissions routing id _ _).players]
  exact Function.update_of_ne apart _ _

theorem killMonster_players (killer other : ObjectId) (apart : other ≠ killer)
    (away : other ∉ playerIds routing r) (m : Monster) (scene : Scene) :
    (killMonster data routing r killer m scene).players other = scene.players other := by
  have granted : ∀ grant ∈ grants data routing r killer m, grant.1 ≠ other := by
    unfold grants
    cases data.monsterTemplate m.templateId with
    | none => exact fun _ none => absurd none List.not_mem_nil
    | some templateData =>
        dsimp only
        split
        · exact fun _ none => absurd none List.not_mem_nil
        · cases killerParty routing killer with
          | none =>
              intro grant member same
              rw [List.mem_singleton.mp member] at same
              exact apart same.symm
          | some party =>
              intro grant member same
              obtain ⟨id, near, rfl⟩ := List.mem_map.mp member
              have present := of_decide_eq_true (List.mem_filter.mp near).2
              exact away (same ▸ present)
  have gained : (distributeExp data routing r killer m scene).players other =
      scene.players other := by
    rw [distributeExp_grants]
    generalize grants data routing r killer m = given at granted
    induction given generalizing scene with
    | nil => rfl
    | cons head tail ih =>
        rw [List.foldl_cons, ih _ fun grant later => granted grant (List.mem_cons_of_mem _ later)]
        exact actPlayer_players routing head.1 other (granted head List.mem_cons_self).symm _ scene
  have dropped (scene : Scene) :
      (processMonsterDrop data routing killer m scene).players other = scene.players other := by
    unfold processMonsterDrop
    cases data.monsterDrops m.templateId with
    | none => rfl
    | some drops =>
        dsimp only
        induction drops generalizing scene with
        | nil => rfl
        | cons drop drops ih =>
            rw [List.foldl_cons, ih]
            have drawn := congrFun (Scene.Quiet.draw scene).players other
            split
            · rw [actPlayer_players routing killer other apart, drawn]
            · exact drawn
  unfold killMonster removeMonster
  dsimp only
  rw [(Scene.SameObjects.broadcast routing r _ _).players]
  exact (dropped _).trans gained

theorem killAll_players (killer other : ObjectId) (apart : other ≠ killer)
    (away : other ∉ playerIds routing r) (dead : List Monster) (scene : Scene) :
    (killAll data routing r killer dead scene).players other = scene.players other := by
  unfold killAll
  induction dead generalizing scene with
  | nil => rfl
  | cons head tail ih =>
      rw [List.foldl_cons, ih, killMonster_players data routing r killer other apart away]

theorem hitMonster_players (attackerId : ObjectId) (damage : Int) (m : Monster) (scene : Scene) :
    (hitMonster routing r attackerId damage m scene).2.players = scene.players :=
  (Scene.SameObjects.broadcast routing r _ _).players

theorem staffCells_players (attacker : ObjectInfo) (cells : List Vec2Int)
    (now : List Monster × Scene) :
    (cells.foldl (staffCell routing r attacker) now).2.players = now.2.players := by
  induction cells generalizing now with
  | nil => rfl
  | cons cell cells ih =>
      rw [List.foldl_cons, ih]
      cases seen : monsterAt now.2 r cell with
      | none => rw [staffCell, seen]
      | some target =>
          rw [staffCell_eq routing r attacker now cell target seen]
          exact hitMonster_players routing r _ _ target now.2

def attackReaches (attacker : ObjectId) (pkt : CAttack) (scene : Scene) : Bool :=
  let info := (scene.players attacker).info
  if pkt.weaponType = WeaponType.sword then (creatureAt routing scene r info.frontCellPos).isSome
  else if pkt.weaponType = WeaponType.staff then
    (staffCells (info.cellPos + staffForward pkt.dir)).any fun cell => (monsterAt scene r cell).isSome
  else false

theorem attackReaches_congr {scene scene' : Scene} (same : scene.SameObjects scene')
    (attacker : ObjectId) (pkt : CAttack) :
    attackReaches routing r attacker pkt scene' = attackReaches routing r attacker pkt scene := by
  unfold attackReaches monsterAt
  rw [same.players, same.fields]
  dsimp only
  rw [creatureAt_congr same]

theorem sword_standing (w : World) (safe : RoomRef) (attacker : ObjectId) (other : safe ≠ r) :
    playerIds (handleSwordAttack data w r attacker).routing safe = playerIds w.routing safe := by
  unfold handleSwordAttack
  dsimp only
  cases gameObjectAt w.routing w.scene r (w.scene.players attacker).info.frontCellPos with
  | none => rfl
  | some object =>
      cases object with
      | projectile a => rfl
      | monster target => rfl
      | player target =>
          dsimp only
          split
          · exact congrArg Room.players (Function.update_of_ne other _ _)
          · rfl

theorem sword_misses (w : World) (attacker : ObjectId)
    (alone : creatureAt w.routing w.scene r (w.scene.players attacker).info.frontCellPos = none) :
    handleSwordAttack data w r attacker = w := by
  unfold handleSwordAttack gameObjectAt
  dsimp only
  rw [alone]
  dsimp only
  cases (w.scene.fields r).projectiles.find? fun a =>
      a.info.cellPos = (w.scene.players attacker).info.frontCellPos with
  | none => rfl
  | some a => rfl

theorem staff_misses (attacker : ObjectId) (pkt : CAttack) (scene : Scene)
    (alone : ∀ cell ∈ staffCells ((scene.players attacker).info.cellPos + staffForward pkt.dir),
      monsterAt scene r cell = none) :
    handleStaffAttack data routing r attacker pkt scene = scene := by
  have missed (cells : List Vec2Int) (empty : ∀ cell ∈ cells, monsterAt scene r cell = none) :
      cells.foldl (staffCell routing r (scene.players attacker).info) ([], scene) = ([], scene) := by
    induction cells with
    | nil => rfl
    | cons cell cells ih =>
        rw [List.foldl_cons, staffCell, empty cell List.mem_cons_self]
        exact ih fun cell later => empty cell (List.mem_cons_of_mem _ later)
  unfold handleStaffAttack
  dsimp only
  rw [missed _ alone]
  rfl

theorem sword_spares (w : World) (attacker other : ObjectId) (apart : other ≠ attacker)
    (away : other ∉ playerIds w.routing r) :
    (handleSwordAttack data w r attacker).scene.players other = w.scene.players other := by
  unfold handleSwordAttack
  dsimp only
  cases front : gameObjectAt w.routing w.scene r (w.scene.players attacker).info.frontCellPos with
  | none => rfl
  | some object =>
      cases object with
      | projectile a => rfl
      | player target =>
          have standing := gameObjectAt_player w.routing w.scene r _ target front
          have different : other ≠ target := fun same => away (same ▸ standing)
          have hurt (scene : Scene) (damage : Int) :
              (scene.hurtPlayer target damage).players other = scene.players other :=
            Function.update_of_ne different _ _
          dsimp only
          split
          · apply (congrFun (Scene.SameObjects.broadcast _ r _ _).players other).trans
            exact (congrFun (Scene.SameObjects.broadcast _ r _ _).players other).trans (hurt _ _)
          · exact (congrFun (Scene.SameObjects.broadcast _ r _ _).players other).trans (hurt _ _)
      | monster target =>
          have struck (id : ObjectId) (damage : Int) :
              (hitMonster w.routing r id damage target w.scene).2.players other =
                w.scene.players other := by rw [hitMonster_players]
          dsimp only
          split
          · rw [killMonster_players data w.routing r attacker other apart away]
            exact struck _ _
          · exact struck _ _

theorem staff_spares (attacker other : ObjectId) (apart : other ≠ attacker)
    (away : other ∉ playerIds routing r) (pkt : CAttack) (scene : Scene) :
    (handleStaffAttack data routing r attacker pkt scene).players other = scene.players other := by
  have killed (now : List Monster × Scene) :
      (now.1.foldl (fun scene m => killMonster data routing r attacker m scene) now.2).players other =
        now.2.players other :=
    killAll_players data routing r attacker other apart away now.1 now.2
  have struck : (staffHits routing r attacker pkt scene).2.players = scene.players := by
    unfold staffHits
    dsimp only
    rw [staffCells_players]
  rw [handleStaffAttack_eq, killed, struck]

end Reach

/-- In a room without skills the attack is not with a bow and reaches nobody; in another room,
if it reaches somebody, those who could be touched are in no room without skills. -/
def AttackSpares (w : World) (r : RoomRef) (s : SessionId) (pkt : CAttack) : Prop :=
  ∀ attacker, lockPlayer w.routing w.scene [] s = some attacker →
    (skillsDisabled (w.scene.fields r) = true → pkt.weaponType ≠ WeaponType.bow ∧
      attackReaches w.routing r attacker pkt w.scene = false) ∧
    (attackReaches w.routing r attacker pkt w.scene = true → ∀ safe,
      skillsDisabled (w.scene.fields safe) = true → ∀ id ∈ playerIds w.routing safe,
        id ≠ attacker ∧ id ∉ playerIds w.routing r)

theorem attack_misses (w : World) (r : RoomRef) (attacker : ObjectId) (pkt : CAttack)
    (misses : attackReaches w.routing r attacker pkt w.scene = false) :
    (pkt.weaponType = WeaponType.sword → handleSwordAttack data w r attacker = w) ∧
      (pkt.weaponType ≠ WeaponType.sword → pkt.weaponType = WeaponType.staff →
        handleStaffAttack data w.routing r attacker pkt w.scene = w.scene) := by
  unfold attackReaches at misses
  constructor
  · intro sword
    dsimp only at misses
    rw [if_pos sword] at misses
    exact sword_misses data r w attacker (Option.isSome_eq_false_iff.mp misses |> Option.isNone_iff_eq_none.mp)
  · intro sword staff
    dsimp only at misses
    rw [if_neg sword, if_pos staff, List.any_eq_false] at misses
    apply staff_misses
    intro cell near
    exact Option.not_isSome_iff_eq_none.mp (misses cell near)

theorem sword_unharmed (w : World) (r : RoomRef) (attacker : ObjectId) (safe : RoomRef)
    (other : safe ≠ r) (apart : ∀ id ∈ playerIds w.routing safe,
      id ≠ attacker ∧ id ∉ playerIds w.routing r) :
    Unharmed safe w.routing w.scene (handleSwordAttack data w r attacker).routing
      (handleSwordAttack data w r attacker).scene := by
  obtain ⟨removed, chain⟩ := handleSwordAttack_deeds data r w attacker
  apply unharmed_of_same
  · exact sword_standing data r w safe attacker other
  · intro id member
    obtain ⟨different, away⟩ := apart id member
    exact sword_spares data r w attacker id different away
  · exact deeds_others w.routing r safe other chain

theorem staff_unharmed (w : World) (r : RoomRef) (attacker : ObjectId) (pkt : CAttack)
    (safe : RoomRef) (distinct : (w.scene.fields r).Distinct) (other : safe ≠ r)
    (apart : ∀ id ∈ playerIds w.routing safe, id ≠ attacker ∧ id ∉ playerIds w.routing r) :
    Unharmed safe w.routing w.scene
      (w.onScene (handleStaffAttack data w.routing r attacker pkt)).routing
      (w.onScene (handleStaffAttack data w.routing r attacker pkt)).scene := by
  have chain := handleStaffAttack_deeds data w.routing r attacker pkt w.scene distinct
  have spared (id : ObjectId) (member : id ∈ playerIds w.routing safe) :=
    staff_spares data w.routing r attacker id (apart id member).1 (apart id member).2 pkt w.scene
  unfold World.onScene
  generalize handleStaffAttack data w.routing r attacker pkt w.scene = after at chain spared ⊢
  exact unharmed_of_same safe _ _ _ _ rfl spared (deeds_others w.routing r safe other chain)

theorem bow_unharmed (w : World) (r : RoomRef) (attacker : ObjectId) (pkt : CAttack)
    (safe : RoomRef) (other : safe ≠ r) :
    Unharmed safe w.routing w.scene (handleBowAttack w r attacker pkt).routing
      (handleBowAttack w r attacker pkt).scene := by
  apply unharmed_of_same
  · rfl
  · intro id _
    exact congrFun (Scene.SameObjects.broadcast w.routing r _ _).players id
  · apply (congrFun (Scene.SameObjects.broadcast w.routing r _ _).fields safe).trans
    exact Function.update_of_ne other _ _

theorem unharmed_congr (safe : RoomRef) (a b : Routing) {before before' after : Scene}
    (same : before.SameObjects before') (unharmed : Unharmed safe a before' b after) :
    Unharmed safe a before b after where
  stays := unharmed.stays
  players := by
    rw [← same.players]
    exact unharmed.players
  monsters := by
    rw [← same.fields]
    exact unharmed.monsters
  projectiles := by
    rw [← same.fields]
    exact unharmed.projectiles

theorem weapons_unharmed (w : World) (r : RoomRef) (attacker : ObjectId) (pkt : CAttack)
    (safe : RoomRef) (distinct : (w.scene.fields r).Distinct)
    (reached : attackReaches w.routing r attacker pkt w.scene = true → safe ≠ r)
    (bowless : pkt.weaponType = WeaponType.bow → safe ≠ r)
    (apart : attackReaches w.routing r attacker pkt w.scene = true →
      ∀ id ∈ playerIds w.routing safe, id ≠ attacker ∧ id ∉ playerIds w.routing r)
    (after : World)
    (result : after =
      if pkt.weaponType = WeaponType.sword then handleSwordAttack data w r attacker
      else if pkt.weaponType = WeaponType.bow then handleBowAttack w r attacker pkt
      else if pkt.weaponType = WeaponType.staff then
        w.onScene (handleStaffAttack data w.routing r attacker pkt)
      else w) :
    Unharmed safe w.routing w.scene after.routing after.scene := by
  have unchanged : Unharmed safe w.routing w.scene w.routing w.scene :=
    unharmed_of_same safe _ _ _ _ rfl (fun _ _ => rfl) rfl
  by_cases sword : pkt.weaponType = WeaponType.sword
  · rw [if_pos sword] at result
    rw [result]
    cases reaches : attackReaches w.routing r attacker pkt w.scene with
    | true =>
        exact sword_unharmed data w r attacker safe (reached reaches) (apart reaches)
    | false =>
        rw [(attack_misses data w r attacker pkt reaches).1 sword]
        exact unchanged
  · rw [if_neg sword] at result
    by_cases bow : pkt.weaponType = WeaponType.bow
    · rw [if_pos bow] at result
      rw [result]
      exact bow_unharmed w r attacker pkt safe (bowless bow)
    · rw [if_neg bow] at result
      by_cases staff : pkt.weaponType = WeaponType.staff
      · rw [if_pos staff] at result
        rw [result]
        cases reaches : attackReaches w.routing r attacker pkt w.scene with
        | true =>
            exact staff_unharmed data w r attacker pkt safe distinct (reached reaches) (apart reaches)
        | false =>
            have idle := (attack_misses data w r attacker pkt reaches).2 sword staff
            unfold World.onScene
            rw [idle]
            exact unchanged
      · rw [if_neg staff] at result
        rw [result]
        exact unchanged

theorem attack_unharmed (w : World) (r : RoomRef) (s : SessionId) (pkt : CAttack)
    (distinct : (w.scene.fields r).Distinct) (spares : AttackSpares w r s pkt) (safe : RoomRef)
    (disabled : skillsDisabled (w.scene.fields safe) = true) :
    Unharmed safe w.routing w.scene (handleCAttack data w r s pkt).routing
      (handleCAttack data w r s pkt).scene := by
  have unchanged (v : World) : Unharmed safe v.routing v.scene v.routing v.scene :=
    unharmed_of_same safe _ _ _ _ rfl (fun _ _ => rfl) rfl
  unfold handleCAttack
  cases locked : lockPlayer w.routing w.scene [] s with
  | none => exact unchanged w
  | some attacker =>
      obtain ⟨peaceful, apart⟩ := spares attacker locked
      have told := Scene.SameObjects.broadcast w.routing r
        (.attack (w.scene.players attacker).info.objectId pkt.dir pkt.weaponType) w.scene
      have missed := attackReaches_congr w.routing r told attacker pkt
      have distinct' := distinct
      rw [← told.fields] at distinct'
      dsimp only
      apply unharmed_congr safe _ _ told
      have reached (reaches : attackReaches w.routing r attacker pkt w.scene = true) : safe ≠ r := by
        intro here
        have idle := (peaceful (here ▸ disabled)).2
        rw [reaches] at idle
        cases idle
      have bowless (bow : pkt.weaponType = WeaponType.bow) : safe ≠ r :=
        fun here => (peaceful (here ▸ disabled)).1 bow
      have apart := fun reaches => apart reaches safe disabled
      rw [← missed] at reached apart
      clear told missed peaceful
      exact weapons_unharmed data (w.onScene (broadcast w.routing r
        (.attack (w.scene.players attacker).info.objectId pkt.dir pkt.weaponType))) r attacker pkt
        safe distinct' reached bowless apart _ rfl

/-- The players of another room are not touched by an arrow that meets a monster, unless they
stand in its room as well. -/
theorem arrow_spares (routing : Routing) (r : RoomRef) (scene : Scene) (id other : ObjectId)
    (away : (arrowMeets r scene id).isSome = true → other ∉ playerIds routing r) :
    (arrowUpdate data routing r scene id).players other = scene.players other := by
  cases meets : arrowMeets r scene id with
  | none => rw [(arrowMeets_none data routing r scene id meets).players]
  | some met =>
      obtain ⟨a, target⟩ := met
      have away := away (meets ▸ rfl)
      obtain ⟨-, -, -, result⟩ := arrowMeets_some data routing r scene id a target meets
      have gone (before : Scene) (same : before.players other = scene.players other) :
          (removeProjectile routing r a.info.objectId before).players other =
            scene.players other :=
        (congrFun (Scene.SameObjects.broadcast routing r _ _).players other).trans same
      have buried (m : Monster) (before : Scene) :
          (removeMonster routing r m before).players = before.players :=
        (Scene.SameObjects.broadcast routing r _ _).players
      rw [result]
      unfold arrowHit
      dsimp only
      apply gone
      unfold findObject
      by_cases present : a.ownerId ∈ playerIds routing r
      · rw [if_pos present]
        have apart : other ≠ a.ownerId := fun same => away (same ▸ present)
        dsimp only
        split
        · rw [killMonster_players data routing r a.ownerId other apart away, hitMonster_players]
          rfl
        · rw [hitMonster_players]
          rfl
      · rw [if_neg present]
        cases ((scene.setProjectile r a).fields r).monster a.ownerId with
        | some m =>
            dsimp only
            split
            · rw [buried, hitMonster_players]
              rfl
            · rw [hitMonster_players]
              rfl
        | none =>
            cases ((scene.setProjectile r a).fields r).projectile a.ownerId with
            | none => rfl
            | some p =>
                dsimp only [Option.map_some]
                split
                · rw [buried, hitMonster_players]
                  rfl
                · rw [hitMonster_players]
                  rfl

/-- The step of the room that comes next updates this arrow in this scene: the players, the
monsters and the arrows before it have had their turn. -/
def World.Flies (w : World) (e : Event) (r : RoomRef) (before : Scene) (id : ObjectId) : Prop :=
  ∃ rand pass steps scene front back, e = .step rand ∧ w.routing.pass = some pass ∧
    pass.current = some ⟨r, some steps⟩ ∧
    scene = stepMonsters w.routing r (stepPlayers w.routing r { w.scene with rand }) ∧
    (scene.fields r).projectiles.map (·.info.objectId) = front ++ id :: back ∧
    before = front.foldl (arrowUpdate data w.routing r) scene

/-- No attack and no arrow harms anybody in a room without skills, or makes an arrow there. -/
def SafeRooms (w : World) (e : Event) : Prop :=
  ∀ safe, skillsDisabled (w.scene.fields safe) = true →
    (∀ rand r s pkt rest, e = .job rand → w.routing.nextJob = some (r, .attack s pkt, rest) →
      Unharmed safe (w.forJob r rest rand).routing (w.forJob r rest rand).scene
        (handleCAttack data (w.forJob r rest rand) r s pkt).routing
        (handleCAttack data (w.forJob r rest rand) r s pkt).scene) ∧
    ∀ r before id, w.Flies data e r before id →
      Unharmed safe w.routing before w.routing (arrowUpdate data w.routing r before id)

/-- The attack that comes next spares rooms without skills; where an arrow meets a monster, no
player of the room stands in a room without skills. -/
def KeepsTruce (w : World) (e : Event) : Prop :=
  (∀ rand r s pkt rest, e = .job rand → w.routing.nextJob = some (r, .attack s pkt, rest) →
    AttackSpares (w.forJob r rest rand) r s pkt) ∧
  ∀ r before id, w.Flies data e r before id → (arrowMeets r before id).isSome = true →
    ∀ safe, skillsDisabled (w.scene.fields safe) = true →
      ∀ player ∈ playerIds w.routing safe, player ∉ playerIds w.routing r

def Scene.Disarmed (scene : Scene) : Prop :=
  ∀ r, skillsDisabled (scene.fields r) = true → (scene.fields r).projectiles = []

structure Scene.Spends (a b : Scene) : Prop where
  config : ∀ r, (b.fields r).config = (a.fields r).config
  arrows : ∀ r, ∀ p ∈ (b.fields r).projectiles, ∃ p' ∈ (a.fields r).projectiles,
    p.info.objectId = p'.info.objectId

namespace Scene.Spends

theorem of_fields {a b : Scene} (config : ∀ r, (b.fields r).config = (a.fields r).config)
    (projectiles : ∀ r, (b.fields r).projectiles = (a.fields r).projectiles) : a.Spends b :=
  ⟨config, fun r p member => ⟨p, projectiles r ▸ member, rfl⟩⟩

theorem trans {a b c : Scene} (first : a.Spends b) (second : b.Spends c) : a.Spends c where
  config := fun r => (second.config r).trans (first.config r)
  arrows := by
    intro r p member
    obtain ⟨middle, between, same⟩ := second.arrows r p member
    obtain ⟨start, before, named⟩ := first.arrows r middle between
    exact ⟨start, before, same.trans named⟩

theorem disarmed {a b : Scene} (spends : a.Spends b) (disarmed : a.Disarmed) : b.Disarmed := by
  intro r disabled
  have before : skillsDisabled (a.fields r) = true := by
    unfold skillsDisabled canUseSkill at disabled ⊢
    rwa [spends.config r] at disabled
  apply List.eq_nil_iff_forall_not_mem.mpr
  intro p member
  obtain ⟨p', old, -⟩ := spends.arrows r p member
  rw [disarmed r before] at old
  cases old

theorem setField (scene : Scene) (r : RoomRef) (field : Field)
    (config : field.config = (scene.fields r).config)
    (arrows : ∀ p ∈ field.projectiles, ∃ p' ∈ (scene.fields r).projectiles,
      p.info.objectId = p'.info.objectId) : scene.Spends (scene.setField r field) where
  config := by
    intro r'
    rcases setField_cases scene r r' field with ⟨rfl, here⟩ | away
    · rw [here, config]
    · rw [away]
  arrows := by
    intro r' p member
    rcases setField_cases scene r r' field with ⟨rfl, here⟩ | away
    · rw [here] at member
      exact arrows p member
    · rw [away] at member
      exact ⟨p, member, rfl⟩

theorem deed (routing : Routing) (r : RoomRef) (a b : Scene) (removed : List Monster)
    (deed : Scene.Deed routing r a removed b) : a.Spends b := by
  have known (p : Arrow) (member : p ∈ (a.fields r).projectiles) :
      ∃ p' ∈ (a.fields r).projectiles, p.info.objectId = p'.info.objectId := ⟨p, member, rfl⟩
  cases deed with
  | quiet b same =>
      exact of_fields (fun r' => by rw [same.fields]) (fun r' => by rw [same.fields])
  | player id p gait => exact of_fields (fun _ => rfl) (fun _ => rfl)
  | tick id => exact of_fields (fun _ => rfl) (fun _ => rfl)
  | monster m m' member tag cell => exact setField a r _ rfl known
  | removed m member =>
      obtain ⟨-, projectiles, -, config⟩ := tryReserve_fields m a.now (a.fields r)
      exact setField a r _ config fun p old => known p (projectiles ▸ old)
  | arrows projectiles old =>
      exact setField a r _ rfl fun p member =>
        (old p member).imp fun _ found => ⟨found.1, found.2.1⟩

theorem deeds (routing : Routing) (r : RoomRef) {a b : Scene} {removed : List Monster}
    (chain : a.Deeds routing r removed b) : a.Spends b := by
  apply chain.relates (fun a _ b => a.Spends b)
  · exact fun a => of_fields (fun _ => rfl) (fun _ => rfl)
  · exact fun a middle b first rest now later => (deed routing r a middle first now).trans later

theorem births (routing : Routing) (r : RoomRef) {made made' : Scene × ObjectId}
    {born : List Monster} (births : Scene.Births data routing r made born made') :
    made.1.Spends made'.1 := by
  apply births.relates (fun made _ made' => made.1.Spends made'.1)
  · exact fun made => of_fields (fun _ => rfl) (fun _ => rfl)
  · intro made middle made' first rest now later
    refine trans ?_ later
    cases now with
    | waits request => exact setField made.1 r _ rfl fun p member => ⟨p, member, rfl⟩
    | born cell aggroRange leashRange templateId b next players fields now free =>
        have added := setField made.1 r
          { made.1.fields r with
            monsters := (made.1.fields r).monsters ++
              [createMonster data made.2 cell aggroRange leashRange templateId] } rfl
          fun p member => ⟨p, member, rfl⟩
        refine ⟨?_, ?_⟩
        · rw [fields]
          exact added.config
        · rw [fields]
          exact added.arrows

end Scene.Spends

theorem flies_elsewhere (w : World) (e : Event) (disarmed : w.scene.Disarmed) (r : RoomRef)
    (before : Scene) (id : ObjectId) (flies : w.Flies data e r before id) :
    skillsDisabled (w.scene.fields r) = false := by
  obtain ⟨rand, pass, steps, scene, front, back, -, -, -, start, ids, -⟩ := flies
  have supplied : w.scene.Spends { w.scene with rand } :=
    .of_fields (fun _ => rfl) (fun _ => rfl)
  have played := Scene.Spends.deeds w.routing r
    (Scene.Deeds.stepPlayers w.routing r { w.scene with rand })
  have hunted := Scene.Spends.deeds w.routing r
    (Scene.Deeds.stepMonsters w.routing r (stepPlayers w.routing r { w.scene with rand }))
  have spends := (supplied.trans played).trans hunted
  rw [← start] at spends
  by_contra enabled
  have disabled : skillsDisabled (scene.fields r) = true := by
    unfold skillsDisabled canUseSkill at enabled ⊢
    rw [spends.config r]
    exact Bool.not_eq_false _ ▸ enabled
  rw [spends.disarmed disarmed r disabled] at ids
  simp at ids

theorem arrow_unharmed (w : World) (r : RoomRef) (before : Scene) (id : ObjectId) (safe : RoomRef)
    (other : safe ≠ r) (apart : (arrowMeets r before id).isSome = true →
      ∀ player ∈ playerIds w.routing safe, player ∉ playerIds w.routing r) :
    Unharmed safe w.routing before w.routing (arrowUpdate data w.routing r before id) := by
  obtain ⟨removed, chain⟩ := Scene.Deeds.arrowUpdate data w.routing r before id
  apply unharmed_of_same
  · rfl
  · intro player member
    exact arrow_spares data w.routing r before id player fun meets => apart meets player member
  · exact deeds_others w.routing r safe other chain

theorem truce_safeRooms (w : World) (e : Event) (orderly : w.Orderly) (disarmed : w.scene.Disarmed)
    (truce : KeepsTruce data w e) : SafeRooms data w e := by
  intro safe disabled
  constructor
  · intro rand r s pkt rest event front
    exact attack_unharmed data (w.forJob r rest rand) r s pkt (orderly.numbered.distinct r)
      (truce.1 rand r s pkt rest event front) safe disabled
  · intro r before id flies
    have other : safe ≠ r := by
      intro here
      have enabled := flies_elsewhere data w e disarmed r before id flies
      rw [← here, disabled] at enabled
      cases enabled
    exact arrow_unharmed data w r before id safe other fun meets =>
      truce.2 r before id flies meets safe disabled

theorem addArrow_disarmed (routing : Routing) (r : RoomRef) (arrow : Arrow) (scene : Scene)
    (disarmed : scene.Disarmed) (enabled : ¬ skillsDisabled (scene.fields r) = true) :
    (addArrow routing r arrow scene).Disarmed := by
  intro r' disabled
  unfold addArrow at disabled ⊢
  dsimp only at disabled ⊢
  rw [(Scene.SameObjects.broadcast _ r _ _).fields] at disabled ⊢
  rcases setField_cases scene r r'
    { scene.fields r with projectiles := (scene.fields r).projectiles ++ [arrow] } with
    ⟨rfl, here⟩ | away
  · rw [here] at disabled
    exact absurd disabled enabled
  · rw [away] at disabled ⊢
    exact disarmed r' disabled

theorem staff_disarmed (w : World) (r : RoomRef) (attacker : ObjectId) (pkt : CAttack)
    (distinct : (w.scene.fields r).Distinct) (disarmed : w.scene.Disarmed) :
    (w.onScene (handleStaffAttack data w.routing r attacker pkt)).scene.Disarmed := by
  have spends := Scene.Spends.deeds w.routing r
    (handleStaffAttack_deeds data w.routing r attacker pkt w.scene distinct)
  unfold World.onScene
  generalize handleStaffAttack data w.routing r attacker pkt w.scene = after at spends ⊢
  exact spends.disarmed disarmed

theorem attack_disarmed (w : World) (r : RoomRef) (s : SessionId) (pkt : CAttack)
    (distinct : (w.scene.fields r).Distinct) (disarmed : w.scene.Disarmed)
    (spares : AttackSpares w r s pkt) : (handleCAttack data w r s pkt).scene.Disarmed := by
  unfold handleCAttack
  cases locked : lockPlayer w.routing w.scene [] s with
  | none => exact disarmed
  | some attacker =>
      have peaceful := (spares attacker locked).1
      have told := Scene.SameObjects.broadcast w.routing r
        (.attack (w.scene.players attacker).info.objectId pkt.dir pkt.weaponType) w.scene
      dsimp only
      generalize broadcast w.routing r
        (.attack (w.scene.players attacker).info.objectId pkt.dir pkt.weaponType) = broadcasts
        at told
      have before : (w.onScene broadcasts).scene.Disarmed := by
        unfold World.onScene Scene.Disarmed
        rw [told.fields]
        exact disarmed
      have distinct' : ((w.onScene broadcasts).scene.fields r).Distinct := by
        unfold World.onScene
        rwa [told.fields]
      by_cases sword : pkt.weaponType = WeaponType.sword
      · rw [if_pos sword]
        obtain ⟨removed, chain⟩ := handleSwordAttack_deeds data r (w.onScene broadcasts) attacker
        exact (Scene.Spends.deeds w.routing r chain).disarmed before
      · rw [if_neg sword]
        by_cases bow : pkt.weaponType = WeaponType.bow
        · rw [if_pos bow]
          apply addArrow_disarmed w.routing r _ _ before
          intro disabled
          unfold World.onScene at disabled
          rw [told.fields] at disabled
          exact (peaceful disabled).1 bow
        · rw [if_neg bow]
          by_cases staff : pkt.weaponType = WeaponType.staff
          · rw [if_pos staff]
            exact staff_disarmed data (w.onScene broadcasts) r attacker pkt distinct' before
          · rw [if_neg staff]
            exact before

theorem initFromConfig_disarmed (routing : Routing) (r : RoomRef) (roomId : RoomName) (scene : Scene)
    (idGen : ObjectId) (disarmed : scene.Disarmed) (empty : (scene.fields r).projectiles = []) :
    (initFromConfig data routing r roomId scene idGen).1.Disarmed := by
  obtain ⟨born, births, -⟩ := initFromConfig_births data routing r roomId scene idGen
  apply (Scene.Spends.births data routing r births).disarmed
  intro r' disabled
  rcases setField_cases scene r r' (configured data roomId (scene.fields r)) with ⟨rfl, here⟩ | away
  · rw [here]
    unfold configured
    cases data.roomConfig roomId <;> exact empty
  · rw [away] at disabled ⊢
    exact disarmed r' disabled

theorem createDungeonInstance_disarmed (w : World) (disarmed : w.scene.Disarmed) :
    (w.createDungeonInstance data).2.2.scene.Disarmed := by
  apply initFromConfig_disarmed
  · intro r disabled
    rcases setField_cases w.scene w.routing.roomCount r .empty with ⟨rfl, here⟩ | away
    · rw [here]
      rfl
    · rw [away] at disabled ⊢
      exact disarmed r disabled
  · simp [Scene.setField, Field.empty]

theorem step_disarmed (w next : World) (e : Event) (orderly : w.Orderly)
    (disarmed : w.scene.Disarmed) (truce : KeepsTruce data w e)
    (stepped : w.step data e = some next) : next.scene.Disarmed := by
  have same (fields : next.scene.fields = w.scene.fields) : next.scene.Disarmed := by
    unfold Scene.Disarmed
    rwa [fields]
  cases step_acted data w next e stepped with
  | still e jobless stepless still =>
      apply Scene.Spends.disarmed _ disarmed
      apply Scene.Spends.of_fields
      · intro r
        obtain ⟨nextTick, field⟩ := still.fields r
        rw [field]
      · intro r
        obtain ⟨nextTick, field⟩ := still.fields r
        rw [field]
  | login s username player named players fields now standing idGen => exact same fields
  | ran rand r job rest front result =>
      subst result
      by_cases attack : ∃ s pkt, job = .attack s pkt
      · obtain ⟨s, pkt, rfl⟩ := attack
        exact attack_disarmed data (w.forJob r rest rand) r s pkt (orderly.numbered.distinct r)
          disarmed (truce.1 rand r s pkt rest rfl front)
      · rcases runJob_peaceful data (w.forJob r rest rand) r job
          (fun s pkt is_attack => attack ⟨s, pkt, is_attack⟩) with fields | ⟨fields, -⟩
        · exact same fields
        · unfold Scene.Disarmed
          rw [fields]
          exact createDungeonInstance_disarmed data (w.forJob r rest rand) disarmed
  | stepped rand pass r steps under_way current scene idGen rooms logins =>
      have supplied : w.scene.Spends { w.scene with rand } :=
        .of_fields (fun _ => rfl) (fun _ => rfl)
      obtain ⟨removed, chain⟩ := Scene.Deeds.stepObjects data w.routing r { w.scene with rand }
      obtain ⟨-, -, -, -, -, projectiles, config, others⟩ :=
        drained_keeps r (stepObjects data w.routing r { w.scene with rand })
      obtain ⟨born, births, -⟩ := spawnTick_births data w.routing r
        (stepObjects data w.routing r { w.scene with rand }) w.idGen
      have drained : (stepObjects data w.routing r { w.scene with rand }).Spends
          ((stepObjects data w.routing r { w.scene with rand }).drained r) := by
        apply Scene.Spends.of_fields
        · intro r'
          by_cases here : r' = r
          · rw [here, config]
          · rw [others r' here]
        · intro r'
          by_cases here : r' = r
          · rw [here, projectiles]
          · rw [others r' here]
      have acted := (supplied.trans (.deeds w.routing r chain)).trans
        (drained.trans (.births data w.routing r births))
      rw [scene]
      unfold World.afterStep
      rw [gameStep_eq]
      refine (acted.trans ?_).disarmed disarmed
      exact .setField _ r _ rfl fun p member => ⟨p, member, rfl⟩

theorem init_disarmed (store : Store) (redisConnected : Bool) (rand : List Nat) :
    (World.init data store redisConnected rand).scene.Disarmed ∧
      ∀ r, ((World.init data store redisConnected rand).scene.fields r).projectiles = [] := by
  have empty : (World.empty data store redisConnected rand).scene.Disarmed ∧
      ∀ r, ((World.empty data store redisConnected rand).scene.fields r).projectiles = [] :=
    ⟨fun _ _ => rfl, fun _ => rfl⟩
  have opened (w : World) (channel : Int) (roomId : RoomName)
      (before : ∀ r, (w.scene.fields r).projectiles = []) (r : RoomRef) :
      ((w.openTown data channel roomId).scene.fields r).projectiles = [] := by
    obtain ⟨born, births, -⟩ := initFromConfig_births data
      (w.routing.addRoom (Room.create .town channel 0)) w.routing.roomCount roomId w.scene w.idGen
    apply List.eq_nil_iff_forall_not_mem.mpr
    intro p member
    obtain ⟨p', old, -⟩ := (Scene.Spends.births data _ _ births).arrows r p member
    rcases setField_cases w.scene w.routing.roomCount r
      (configured data roomId (w.scene.fields w.routing.roomCount)) with ⟨rfl, here⟩ | away
    · rw [here] at old
      unfold configured at old
      cases found : data.roomConfig roomId with
      | none =>
          rw [found] at old
          exact absurd (before _ ▸ old) List.not_mem_nil
      | some config =>
          rw [found] at old
          exact absurd (before _ ▸ old) List.not_mem_nil
    · rw [away, before] at old
      cases old
  have all (r : RoomRef) :
      ((World.init data store redisConnected rand).scene.fields r).projectiles = [] := by
    unfold World.init
    dsimp only
    split
    · exact opened _ 2 .town2 (opened _ 1 .town1 empty.2) r
    · exact empty.2 r
  exact ⟨fun r _ => all r, all⟩

/-- In a run whose attacks and arrows keep the truce, rooms without skills are safe. -/
theorem safe_rooms_kept (store : Store) (redisConnected : Bool) (rand : List Nat)
    (events : List Event)
    (each : Runs.EachStep (World.step data) (KeepsTruce data)
      (World.init data store redisConnected rand) events) :
    Runs.EachStep (World.step data) (SafeRooms data) (World.init data store redisConnected rand)
      events := by
  apply Runs.eachStep_mono (KeepsTruce data) (SafeRooms data)
    (fun w => w.Orderly ∧ w.scene.Disarmed) _ _ _ events _ each
  · rintro w e next ⟨orderly, disarmed⟩ truce stepped
    exact ⟨step_orderly data w next e orderly stepped,
      step_disarmed data w next e orderly disarmed truce stepped⟩
  · rintro w e next ⟨orderly, disarmed⟩ _ truce
    exact truce_safeRooms data w e orderly disarmed truce
  · exact ⟨init_orderly data store redisConnected rand,
      (init_disarmed data store redisConnected rand).1⟩

/-- Skills are disabled in the second town. -/
def peacefulGame : GameData :=
  { smallGame with
    roomConfig := fun roomId => some { smallRoom roomId with skillEnabled := roomId ≠ .town2 } }

def attackInTown2 (weaponType : WeaponType) : List Event :=
  [Event.connect 1, .packet 1 (.login [97])] ++ updateTown 1 ++
    [Event.packet 1 (.changeMap ⟨MapId.town, 2⟩), .update] ++ visit .visitStatic 1 ++
    visit .visitStatic 1 ++
    [Event.loopDungeons, .endUpdate, .packet 1 (.attack ⟨Dir.up, weaponType⟩), .update] ++
    visit .visitStatic 0 ++ [Event.visitStatic]

/-- A check that finds only truces in which nobody is reached and no arrow flies. -/
def keepsTruce (w : World) : Event → Bool
  | .job rand =>
      match w.routing.nextJob with
      | some (r, .attack s pkt, rest) =>
          let v := w.forJob r rest rand
          (lockPlayer v.routing v.scene [] s).all fun attacker =>
            !attackReaches v.routing r attacker pkt v.scene &&
              (!skillsDisabled (v.scene.fields r) || pkt.weaponType ≠ WeaponType.bow)
      | _ => true
  | .step rand =>
      match w.routing.pass with
      | some { current := some ⟨r, some _⟩, .. } =>
          ((stepMonsters w.routing r
            (stepPlayers w.routing r { w.scene with rand })).fields r).projectiles.isEmpty
      | _ => true
  | _ => true

theorem keepsTruce_sound (w : World) (e : Event) (checked : keepsTruce w e = true) :
    KeepsTruce data w e := by
  constructor
  · rintro rand r s pkt rest rfl front attacker locked
    simp only [keepsTruce, front, locked, Option.all_some, Bool.and_eq_true, Bool.not_eq_true',
      Bool.or_eq_true, decide_eq_true_eq] at checked
    obtain ⟨misses, weapon⟩ := checked
    constructor
    · intro disabled
      rw [disabled] at weapon
      exact ⟨weapon.resolve_left Bool.noConfusion, misses⟩
    · intro reaches
      rw [misses] at reaches
      cases reaches
  · rintro r before id ⟨rand, pass, steps, scene, front, back, rfl, under_way, current, rfl, ids, -⟩
    obtain ⟨passNow, statics, dungeonsFrom, visited, under⟩ := pass
    cases current
    simp only [keepsTruce, under_way, List.isEmpty_iff] at checked
    rw [checked] at ids
    simp at ids

set_option maxRecDepth 20000 in
theorem sword_in_town2_harmless :
    (reached peacefulGame newStore false [] (attackInTown2 WeaponType.sword)).any (fun w =>
        (w.step peacefulGame (.job [])).isSome) = true ∧
      Runs.EachStep (World.step peacefulGame) (SafeRooms peacefulGame)
        (World.init peacefulGame newStore false []) (attackInTown2 WeaponType.sword ++ [.job []]) := by
  refine ⟨by decide +kernel, ?_⟩
  apply safe_rooms_kept
  exact Runs.eachStep_of_check keepsTruce _ (keepsTruce_sound peacefulGame) _ _ (by decide +kernel)

/-- The next job is an attack that makes the first arrow of the second town. -/
def shootsInTown2 (w : World) : Bool :=
  match w.routing.nextJob with
  | some (r, .attack s pkt, rest) =>
      let v := w.forJob r rest []
      skillsDisabled (w.scene.fields r) && (v.scene.fields r).projectiles.isEmpty &&
        !((handleCAttack peacefulGame v r s pkt).scene.fields r).projectiles.isEmpty
  | _ => false

theorem shootsInTown2_unsafe (w : World) (checked : shootsInTown2 w = true) :
    ¬ SafeRooms peacefulGame w (.job []) := by
  intro safe
  unfold shootsInTown2 at checked
  split at checked
  case h_1 r s pkt rest front =>
    simp only [Bool.and_eq_true, List.isEmpty_iff, Bool.not_eq_true', List.isEmpty_eq_false_iff]
      at checked
    obtain ⟨⟨disabled, unarmed⟩, shot⟩ := checked
    obtain ⟨p, flies⟩ := List.exists_mem_of_ne_nil _ shot
    obtain ⟨p', old, -⟩ := ((safe r disabled).1 [] r s pkt rest rfl front).projectiles p flies
    rw [unarmed] at old
    cases old
  case h_2 => cases checked

set_option maxRecDepth 20000 in
theorem bow_in_town2_shoots :
    ¬ Runs.EachStep (World.step peacefulGame) (SafeRooms peacefulGame)
      (World.init peacefulGame newStore false []) (attackInTown2 WeaponType.bow ++ [.job []]) := by
  intro each
  have run : (reached peacefulGame newStore false [] (attackInTown2 WeaponType.bow)).any (fun w =>
      (w.step peacefulGame (.job [])).isSome && shootsInTown2 w) = true := by decide +kernel
  obtain ⟨w, reached, checked⟩ := Option.any_eq_true _ _ |>.mp run
  obtain ⟨steps, shoots⟩ := Bool.and_eq_true _ _ |>.mp checked
  obtain ⟨next, stepped⟩ := Option.isSome_iff_exists.mp steps
  have last := Runs.eachStep_append (SafeRooms peacefulGame) _ w (attackInTown2 WeaponType.bow)
    [.job []] reached each
  exact shootsInTown2_unsafe w shoots (last next stepped).1

end ZeldaServer
