import ZeldaServer.World.Events

/-! Moves, turns and attacks of a player that is not in the room any more. The handlers act
on the session's player wherever it is: such a job leaves all objects alone exactly when it
returns early or finds nothing in reach. -/

namespace ZeldaServer

variable (data : GameData)

/-- Which object it is, where it stands and looks, what it does, and its hp. -/
def ObjectInfo.sight (info : ObjectInfo) : ObjectId × Vec2Int × Dir × ObjectState × Int :=
  (info.objectId, info.cellPos, info.dir, info.state, info.hp)

/-- The same players and objects are in the same rooms, and they all look the same. -/
structure World.Untouched (a b : World) : Prop where
  players : ∀ id, (b.scene.players id).info.sight = (a.scene.players id).info.sight
  rooms : ∀ r, (b.routing.rooms r).players = (a.routing.rooms r).players
  monsters : ∀ r, (b.scene.fields r).monsters.map (·.info.sight) =
    (a.scene.fields r).monsters.map (·.info.sight)
  projectiles : ∀ r, (b.scene.fields r).projectiles.map (·.info.sight) =
    (a.scene.fields r).projectiles.map (·.info.sight)

namespace World.Untouched

theorem symm {a b : World} (same : a.Untouched b) : b.Untouched a where
  players := fun id => (same.players id).symm
  rooms := fun r => (same.rooms r).symm
  monsters := fun r => (same.monsters r).symm
  projectiles := fun r => (same.projectiles r).symm

theorem trans {a b c : World} (first : a.Untouched b) (second : b.Untouched c) :
    a.Untouched c where
  players := fun id => (second.players id).trans (first.players id)
  rooms := fun r => (second.rooms r).trans (first.rooms r)
  monsters := fun r => (second.monsters r).trans (first.monsters r)
  projectiles := fun r => (second.projectiles r).trans (first.projectiles r)

theorem congr_left {a b : World} (same : a.Untouched b) (c : World) :
    b.Untouched c ↔ a.Untouched c :=
  ⟨same.trans, same.symm.trans⟩

theorem of_sameObjects {w : World} {scene : Scene} (same : w.scene.SameObjects scene) :
    w.Untouched { w with scene } where
  players := fun id => by rw [same.players]
  rooms := fun _ => rfl
  monsters := fun r => by rw [same.fields]
  projectiles := fun r => by rw [same.fields]

theorem forJob (w : World) (r : RoomRef) (rest : List Job) (rand : List Nat) :
    w.Untouched (w.forJob r rest rand) where
  players := fun _ => rfl
  rooms := fun r' => Routing.players_popJob w.routing r r' rest
  monsters := fun _ => rfl
  projectiles := fun _ => rfl

theorem setPlayer_iff (w : World) (id : ObjectId) (p : Player) (scene : Scene)
    (same : (w.scene.setPlayer id p).SameObjects scene) :
    w.Untouched { w with scene } ↔ p.info.sight = (w.scene.players id).info.sight := by
  have now (id' : ObjectId) : scene.players id' = if id' = id then p else w.scene.players id' := by
    rw [same.players]
    exact Function.update_apply ..
  have fields : scene.fields = w.scene.fields := same.fields
  constructor
  · intro untouched
    have seen := untouched.players id
    dsimp only at seen
    rwa [now, if_pos rfl] at seen
  · intro alike
    constructor
    · intro id'
      dsimp only
      rw [now]
      split
      case isTrue here => rw [here, alike]
      case isFalse => rfl
    · exact fun _ => rfl
    · intro r
      dsimp only
      rw [fields]
    · intro r
      dsimp only
      rw [fields]

end World.Untouched

/-- What lets the job of a player do nothing: it returns early, or there is nothing that it
could hit. -/
def NothingToDo (w : World) (r : RoomRef) (id : ObjectId) (job : Job) : Prop :=
  let info := (w.scene.players id).info
  match job with
  | .move _ pkt =>
      info.state = .move ∨ pkt.dir.isValid = false ∨
        (info.dir = pkt.dir ∧ info.state = .idle ∧
          canGo w.routing w.scene r info.frontCellPos = false)
  | .turn _ pkt => pkt.dir.isValid = false ∨ info.dir = pkt.dir
  | .attack _ pkt =>
      if pkt.weaponType = WeaponType.sword then
        creatureAt w.routing w.scene r info.frontCellPos = none
      else if pkt.weaponType = WeaponType.bow then False
      else pkt.weaponType = WeaponType.staff →
        ∀ cell ∈ staffCells (info.cellPos + staffForward pkt.dir), monsterAt w.scene r cell = none
  | _ => True

theorem untouched_self (w : World) : w.Untouched w := .of_sameObjects (.refl w.scene)

theorem handleCMove_untouched (w : World) (r : RoomRef) (s : SessionId) (pkt : CMove)
    (id : ObjectId) (locked : lockPlayer w.routing w.scene [] s = some id) :
    w.Untouched (w.onScene (handleCMove w.routing r s pkt)) ↔
      NothingToDo w r id (.move s pkt) := by
  unfold World.onScene handleCMove NothingToDo
  rw [locked]
  dsimp only
  split
  case isTrue moving => exact iff_of_true (untouched_self w) (.inl moving)
  case isFalse resting =>
    split
    case isTrue invalid =>
      rw [Bool.not_eq_true'] at invalid
      exact iff_of_true (untouched_self w) (.inr (.inl invalid))
    case isFalse valid =>
      rw [Bool.not_eq_true', Bool.not_eq_false] at valid
      split
      case isTrue turned =>
        rw [World.Untouched.setPlayer_iff w id _ _ (.broadcast w.routing r _ _)]
        apply iff_of_false
        · intro alike
          simp only [ObjectInfo.sight, Prod.mk.injEq] at alike
          exact turned alike.2.2.1.symm
        · rintro (moving | invalid | ⟨facing, -⟩)
          · exact resting moving
          · rw [valid] at invalid
            cases invalid
          · exact turned facing
      case isFalse facing =>
        rw [ne_eq, not_not] at facing
        split
        case isTrue blocked =>
          rw [Bool.not_eq_true'] at blocked
          rw [World.Untouched.setPlayer_iff w id _ _ (.broadcast w.routing r _ _)]
          constructor
          · intro alike
            simp only [ObjectInfo.sight, Prod.mk.injEq] at alike
            exact .inr (.inr ⟨facing, alike.2.2.2.1.symm, blocked⟩)
          · rintro (moving | invalid | ⟨-, idle, -⟩)
            · exact absurd moving resting
            · rw [valid] at invalid
              cases invalid
            · simp only [ObjectInfo.sight, idle, ObjectInfo.cellPos]
        case isFalse free =>
          rw [Bool.not_eq_true', Bool.not_eq_false] at free
          rw [World.Untouched.setPlayer_iff w id _ _ (.broadcast w.routing r _ _)]
          apply iff_of_false
          · intro alike
            simp only [ObjectInfo.sight, ObjectInfo.setCellPos, Prod.mk.injEq] at alike
            exact resting alike.2.2.2.1.symm
          · rintro (moving | invalid | ⟨-, -, blocked⟩)
            · exact resting moving
            · rw [valid] at invalid
              cases invalid
            · rw [free] at blocked
              cases blocked

theorem handleCTurn_untouched (w : World) (r : RoomRef) (s : SessionId) (pkt : CTurn)
    (id : ObjectId) (locked : lockPlayer w.routing w.scene [] s = some id) :
    w.Untouched (w.onScene (handleCTurn w.routing r s pkt)) ↔
      NothingToDo w r id (.turn s pkt) := by
  unfold World.onScene handleCTurn NothingToDo
  rw [locked]
  dsimp only
  split
  case isTrue invalid =>
    rw [Bool.not_eq_true'] at invalid
    exact iff_of_true (untouched_self w) (.inl invalid)
  case isFalse valid =>
    rw [Bool.not_eq_true', Bool.not_eq_false] at valid
    split
    case isTrue facing => exact iff_of_true (untouched_self w) (.inr facing)
    case isFalse turned =>
      rw [World.Untouched.setPlayer_iff w id _ _ (.broadcast w.routing r _ _)]
      apply iff_of_false
      · intro alike
        simp only [ObjectInfo.sight, Prod.mk.injEq] at alike
        exact turned alike.2.2.1.symm
      · rintro (invalid | facing)
        · rw [valid] at invalid
          cases invalid
        · exact turned facing

section Hits

variable (routing : Routing) (r : RoomRef)

theorem fields_foldl {Item : Type} (f : Scene → Item → Scene)
    (step : ∀ (scene : Scene) item, (f scene item).fields = scene.fields) (items : List Item)
    (scene : Scene) : (items.foldl f scene).fields = scene.fields := by
  induction items generalizing scene with
  | nil => rfl
  | cons head tail ih => rw [List.foldl_cons, ih, step]

theorem actPlayer_fields (id : ObjectId) (method : Player → Player × List Emission)
    (scene : Scene) : (actPlayer routing id method scene).fields = scene.fields :=
  (Scene.SameObjects.foldl _ (Scene.SameObjects.emit routing id) _ _).fields

theorem rewards_fields (killer : ObjectId) (m : Monster) (scene : Scene) :
    (processMonsterDrop data routing killer m
      (distributeExp data routing r killer m scene)).fields = scene.fields := by
  have gained : (distributeExp data routing r killer m scene).fields = scene.fields := by
    unfold distributeExp
    dsimp only
    cases data.monsterTemplate m.templateId with
    | none => rfl
    | some templateData =>
        dsimp only
        split
        · rfl
        · split
          · exact actPlayer_fields routing killer _ scene
          · cases routing.parties.parties (routing.parties.partyIdByPlayer killer) with
            | none => exact actPlayer_fields routing killer _ scene
            | some party =>
                apply fields_foldl
                intro now id
                exact actPlayer_fields routing id _ now
  rw [← gained]
  unfold processMonsterDrop
  cases data.monsterDrops m.templateId with
  | none => rfl
  | some drops =>
      apply fields_foldl
      intro now drop
      have drawn : now.draw.2.fields = now.fields := by
        unfold Scene.draw
        cases now.rand <;> rfl
      dsimp only
      split
      · rw [actPlayer_fields, drawn]
      · exact drawn

theorem tryReserve_monsters (m : Monster) (now : Nat) (field : Field) :
    (tryReserve m now field).monsters = field.monsters := by
  unfold tryReserve
  cases field.config with
  | none => rfl
  | some config =>
      dsimp only
      split <;> rfl

theorem killMonster_monsters (killer : ObjectId) (m : Monster) (scene : Scene) :
    ((killMonster data routing r killer m scene).fields r).monsters =
      (scene.fields r).monsters.filter (·.info.objectId ≠ m.info.objectId) := by
  have rewarded := rewards_fields data routing r killer m scene
  unfold killMonster removeMonster
  dsimp only
  rw [(Scene.SameObjects.broadcast routing r _ _).fields]
  simp only [Scene.setField, Function.update_self]
  rw [tryReserve_monsters, rewarded]

theorem hitMonster_monsters (attackerId : ObjectId) (damage : Int) (m : Monster) (scene : Scene) :
    ((hitMonster routing r attackerId damage m scene).2.fields r).monsters =
      (scene.fields r).monsters.map fun old =>
        if old.info.objectId = m.info.objectId then
          { m with info := m.info.onDamaged damage } else old := by
  have named : (m.info.onDamaged damage).objectId = m.info.objectId := by
    unfold ObjectInfo.onDamaged
    split <;> rfl
  unfold hitMonster
  dsimp only
  rw [(Scene.SameObjects.broadcast routing r _ _).fields]
  simp only [Scene.setMonster, Scene.setField, Function.update_self, named]

theorem onDamaged_lower (info : ObjectInfo) (damage : Int) (hurts : 1 ≤ damage) :
    (info.onDamaged damage).hp = 0 ∨ (info.onDamaged damage).hp < info.hp := by
  unfold ObjectInfo.onDamaged
  split
  · omega
  · dsimp only
    omega

/-- All monsters of that id have less hp than `hp`, or one of them is on the list of those
that are about to be removed. -/
def Hurt (id : ObjectId) (hp : Int) (now : List Monster × Scene) : Prop :=
  (∃ m ∈ now.1, m.info.objectId = id) ∨
    ∀ m ∈ (now.2.fields r).monsters, m.info.objectId = id → m.info.hp < hp

theorem hitMonster_hurt (attackerId : ObjectId) (damage : Int) (hurts : 1 ≤ damage)
    (target : Monster) (dead : List Monster) (scene : Scene) (id : ObjectId) (hp : Int)
    (hit : target.info.objectId = id → target.info.hp ≤ hp)
    (before : target.info.objectId ≠ id → Hurt r id hp (dead, scene)) :
    Hurt r id hp
      (if (hitMonster routing r attackerId damage target scene).1.info.hp = 0 then
          dead ++ [(hitMonster routing r attackerId damage target scene).1] else dead,
        (hitMonster routing r attackerId damage target scene).2) := by
  have named : (target.info.onDamaged damage).objectId = target.info.objectId := by
    unfold ObjectInfo.onDamaged
    split <;> rfl
  have lower := onDamaged_lower target.info damage hurts
  have result : (hitMonster routing r attackerId damage target scene).1 =
      { target with info := target.info.onDamaged damage } := rfl
  rw [result]
  by_cases same : target.info.objectId = id
  · by_cases dies : (target.info.onDamaged damage).hp = 0
    · rw [if_pos dies]
      refine .inl ⟨_, List.mem_append_right _ (List.mem_singleton.mpr rfl), ?_⟩
      exact named.trans same
    · right
      intro m member names
      rw [hitMonster_monsters, List.mem_map] at member
      obtain ⟨old, -, rfl⟩ := member
      split at names
      case isTrue replaced =>
        rw [if_pos replaced]
        have less := lower.resolve_left dies
        have bound := hit same
        dsimp only
        omega
      case isFalse apart => exact absurd (names.trans same.symm) apart
  · rcases before same with ⟨m, member, names⟩ | less
    · refine .inl ⟨m, ?_, names⟩
      dsimp only at member ⊢
      split
      · exact List.mem_append_left _ member
      · exact member
    · right
      intro m member names
      rw [hitMonster_monsters, List.mem_map] at member
      obtain ⟨old, old_member, rfl⟩ := member
      split at names
      case isTrue => exact absurd (named.symm.trans names) same
      case isFalse apart =>
        rw [if_neg apart]
        exact less old old_member names

theorem killMonsters_hurt (killer id : ObjectId) (hp : Int) (dead : List Monster) (scene : Scene)
    (hurt : Hurt r id hp (dead, scene)) (m : Monster)
    (member : m ∈ ((dead.foldl (fun scene m => killMonster data routing r killer m scene)
      scene).fields r).monsters) (names : m.info.objectId = id) : m.info.hp < hp := by
  induction dead generalizing scene with
  | nil =>
      rcases hurt with ⟨_, absent, -⟩ | less
      · cases absent
      · exact less m member names
  | cons head tail ih =>
      apply ih (killMonster data routing r killer head scene) _ member
      have left : ∀ m ∈ ((killMonster data routing r killer head scene).fields r).monsters,
          m ∈ (scene.fields r).monsters ∧ m.info.objectId ≠ head.info.objectId := by
        intro m still
        rw [killMonster_monsters, List.mem_filter] at still
        exact ⟨still.1, of_decide_eq_true still.2⟩
      rcases hurt with ⟨m', listed, names'⟩ | less
      · rcases List.mem_cons.mp listed with rfl | later
        · right
          intro m still named
          exact absurd (named.trans names'.symm) (left m still).2
        · exact .inl ⟨m', later, names'⟩
      · right
        intro m still named
        exact less m (left m still).1 named

theorem not_untouched_of_hurt (w v : World) (m : Monster)
    (member : m ∈ (w.scene.fields r).monsters)
    (less : ∀ m' ∈ (v.scene.fields r).monsters,
      m'.info.objectId = m.info.objectId → m'.info.hp < m.info.hp) : ¬ w.Untouched v := by
  intro untouched
  have seen : m.info.sight ∈ (w.scene.fields r).monsters.map (·.info.sight) :=
    List.mem_map.mpr ⟨m, member, rfl⟩
  rw [← untouched.monsters r, List.mem_map] at seen
  obtain ⟨m', member', alike⟩ := seen
  simp only [ObjectInfo.sight, Prod.mk.injEq] at alike
  have lower := less m' member' alike.1
  rw [alike.2.2.2.2] at lower
  exact absurd lower (Int.lt_irrefl _)

end Hits

theorem creatureAt_some (routing : Routing) (scene : Scene) (r : RoomRef) (pos : Vec2Int)
    (creature : ObjectRef) (found : creatureAt routing scene r pos = some creature) :
    (∃ id ∈ playerIds routing r, creature = .player id) ∨
      ∃ m ∈ (scene.fields r).monsters, creature = .monster m := by
  unfold creatureAt at found
  cases standing : playerAt routing scene r pos with
  | some id =>
      rw [standing] at found
      cases found
      exact .inl ⟨id, List.mem_of_find?_eq_some standing, rfl⟩
  | none =>
      rw [standing] at found
      obtain ⟨m, first, rfl⟩ := Option.map_eq_some_iff.mp found
      exact .inr ⟨m, List.mem_of_find?_eq_some first, rfl⟩

theorem swordPlayer_touched (w : World) (r : RoomRef) (target : ObjectId) (damage : Int)
    (hurts : 1 ≤ damage) (standing : target ∈ playerIds w.routing r)
    (pkt : ServerPacket) :
    ¬ w.Untouched
      (if ((w.scene.hurtPlayer target damage).players target).info.hp = 0 then
        World.removePlayer { w with
          scene := broadcast w.routing r pkt (w.scene.hurtPlayer target damage) } r target
      else { w with
        scene := broadcast w.routing r pkt (w.scene.hurtPlayer target damage) }) := by
  have hit : ((w.scene.hurtPlayer target damage).players target).info =
      (w.scene.players target).info.onDamaged damage := by
    simp only [Scene.hurtPlayer, Scene.setPlayer, Function.update_self, Player.onDamaged]
  have lower := onDamaged_lower (w.scene.players target).info damage hurts
  rw [hit]
  intro untouched
  split at untouched
  case isTrue =>
    have gone := untouched.rooms r
    have left : target ∉ (w.routing.erasePlayer r target |>.rooms r).players := by
      rw [Routing.players_erasePlayer, if_pos rfl, List.mem_filter]
      simp
    exact left (gone ▸ standing)
  case isFalse alive =>
    have seen := untouched.players target
    dsimp only at seen
    rw [(Scene.SameObjects.broadcast w.routing r pkt _).players, hit] at seen
    simp only [ObjectInfo.sight, Prod.mk.injEq] at seen
    have less := lower.resolve_left alive
    omega

theorem handleSwordAttack_untouched (w : World) (r : RoomRef) (attacker : ObjectId) :
    w.Untouched (handleSwordAttack data w r attacker) ↔
      creatureAt w.routing w.scene r (w.scene.players attacker).info.frontCellPos = none := by
  unfold handleSwordAttack gameObjectAt
  dsimp only
  cases front : creatureAt w.routing w.scene r (w.scene.players attacker).info.frontCellPos with
  | none =>
      dsimp only
      cases (w.scene.fields r).projectiles.find? (·.info.cellPos =
          (w.scene.players attacker).info.frontCellPos) with
      | none => exact iff_of_true (untouched_self w) rfl
      | some arrow => exact iff_of_true (untouched_self w) rfl
  | some creature =>
      refine iff_of_false ?_ (by simp)
      rcases creatureAt_some w.routing w.scene r _ creature front with
        ⟨target, standing, rfl⟩ | ⟨target, member, rfl⟩
      · exact swordPlayer_touched w r target _ (le_max_left ..) standing _
      · have hurt := hitMonster_hurt w.routing r (w.scene.players attacker).info.objectId
          (max 1 ((w.scene.players attacker).info.attack - target.info.defence)) (le_max_left ..)
          target [] w.scene target.info.objectId target.info.hp (fun _ => Int.le_refl _)
          (fun other => absurd rfl other)
        apply not_untouched_of_hurt r w _ target member
        intro m still names
        dsimp only at still
        split at hurt
        case isTrue dies =>
          rw [if_pos dies] at still
          exact killMonsters_hurt data w.routing r attacker _ _ _ _ hurt m still names
        case isFalse lives =>
          rw [if_neg lives] at still
          exact killMonsters_hurt data w.routing r attacker _ _ [] _ hurt m still names

section Staff

variable (routing : Routing) (r : RoomRef) (attacker : ObjectInfo)

theorem staffCell_eq (now : List Monster × Scene) (cell : Vec2Int) (target : Monster)
    (seen : monsterAt now.2 r cell = some target) :
    staffCell routing r attacker now cell =
      (if (hitMonster routing r attacker.objectId
            (max 1 ((attacker.attack - target.info.defence).tdiv 2)) target now.2).1.info.hp = 0 then
          now.1 ++ [(hitMonster routing r attacker.objectId
            (max 1 ((attacker.attack - target.info.defence).tdiv 2)) target now.2).1] else now.1,
        (hitMonster routing r attacker.objectId
          (max 1 ((attacker.attack - target.info.defence).tdiv 2)) target now.2).2) := by
  rw [staffCell, seen]

theorem staffCell_hurt (now : List Monster × Scene) (cell : Vec2Int) (id : ObjectId) (hp : Int)
    (hurt : Hurt r id hp now) : Hurt r id hp (staffCell routing r attacker now cell) := by
  cases seen : monsterAt now.2 r cell with
  | none =>
      rw [staffCell, seen]
      exact hurt
  | some target =>
      rw [staffCell_eq routing r attacker now cell target seen]
      have member : target ∈ (now.2.fields r).monsters := List.mem_of_find?_eq_some seen
      rcases hurt with ⟨m, listed, names⟩ | less
      · refine .inl ⟨m, ?_, names⟩
        dsimp only
        split
        · exact List.mem_append_left _ listed
        · exact listed
      · apply hitMonster_hurt routing r attacker.objectId _ (le_max_left ..)
        · intro same
          exact Int.le_of_lt (less target member same)
        · intro _
          exact .inr less

theorem staffCells_hurt (cells : List Vec2Int) (now : List Monster × Scene) :
    (∀ cell ∈ cells, monsterAt now.2 r cell = none) ∧
        cells.foldl (staffCell routing r attacker) now = now ∨
      (¬ ∀ cell ∈ cells, monsterAt now.2 r cell = none) ∧
        ∃ m ∈ (now.2.fields r).monsters,
          Hurt r m.info.objectId m.info.hp (cells.foldl (staffCell routing r attacker) now) := by
  induction cells generalizing now with
  | nil => exact .inl ⟨fun cell member => absurd member (List.not_mem_nil), rfl⟩
  | cons head tail ih =>
      rw [List.foldl_cons]
      cases seen : monsterAt now.2 r head with
      | none =>
          have same : staffCell routing r attacker now head = now := by rw [staffCell, seen]
          rw [same, List.forall_mem_cons]
          simpa only [seen, true_and] using ih now
      | some target =>
          right
          have member : target ∈ (now.2.fields r).monsters := List.mem_of_find?_eq_some seen
          refine ⟨fun free => ?_, target, member, ?_⟩
          · have empty := free head List.mem_cons_self
            rw [seen] at empty
            cases empty
          · have first : Hurt r target.info.objectId target.info.hp
                (staffCell routing r attacker now head) := by
              rw [staffCell_eq routing r attacker now head target seen]
              apply hitMonster_hurt routing r attacker.objectId _ (le_max_left ..)
              · exact fun _ => Int.le_refl _
              · exact fun other => absurd rfl other
            generalize staffCell routing r attacker now head = next at first
            clear ih seen
            induction tail generalizing next with
            | nil => exact first
            | cons cell tail ih =>
                rw [List.foldl_cons]
                exact ih _ (staffCell_hurt routing r attacker next cell _ _ first)

end Staff

theorem handleStaffAttack_untouched (w : World) (r : RoomRef) (attacker : ObjectId)
    (pkt : CAttack) :
    w.Untouched (w.onScene (handleStaffAttack data w.routing r attacker pkt)) ↔
      ∀ cell ∈ staffCells ((w.scene.players attacker).info.cellPos + staffForward pkt.dir),
        monsterAt w.scene r cell = none := by
  have searched := staffCells_hurt w.routing r (w.scene.players attacker).info
    (staffCells ((w.scene.players attacker).info.cellPos + staffForward pkt.dir)) ([], w.scene)
  unfold World.onScene handleStaffAttack
  dsimp only
  generalize (staffCells _).foldl (staffCell w.routing r _) _ = hit at searched ⊢
  obtain ⟨dead, scene⟩ := hit
  rcases searched with ⟨free, same⟩ | ⟨taken, m, member, hurt⟩
  · cases same
    exact iff_of_true (untouched_self w) free
  · refine iff_of_false ?_ taken
    apply not_untouched_of_hurt r w _ m member
    intro m' still names
    exact killMonsters_hurt data w.routing r attacker _ _ dead scene hurt m' still names

theorem handleBowAttack_touched (w : World) (r : RoomRef) (attacker : ObjectId) (pkt : CAttack) :
    ¬ w.Untouched (handleBowAttack w r attacker pkt) := by
  intro untouched
  have count := congrArg List.length (untouched.projectiles r)
  unfold handleBowAttack addArrow at count
  dsimp only at count
  rw [(Scene.SameObjects.broadcast w.routing r _ _).fields] at count
  simp [Scene.setField] at count

theorem handleCAttack_untouched (w : World) (r : RoomRef) (s : SessionId) (pkt : CAttack)
    (id : ObjectId) (locked : lockPlayer w.routing w.scene [] s = some id) :
    w.Untouched (handleCAttack data w r s pkt) ↔ NothingToDo w r id (.attack s pkt) := by
  have same := Scene.SameObjects.broadcast w.routing r
    (.attack (w.scene.players id).info.objectId pkt.dir pkt.weaponType) w.scene
  have told := World.Untouched.of_sameObjects same
  unfold handleCAttack NothingToDo
  rw [locked]
  dsimp only
  split
  case isTrue =>
    rw [← told.congr_left, World.onScene, handleSwordAttack_untouched]
    dsimp only
    rw [same.players, creatureAt_congr same]
  case isFalse =>
    split
    case isTrue =>
      rw [← told.congr_left, iff_false]
      exact handleBowAttack_touched _ r id pkt
    case isFalse =>
      split
      case isTrue staff =>
        rw [← told.congr_left]
        refine (handleStaffAttack_untouched data _ r id pkt).trans ?_
        dsimp only
        simp only [same.players, monsterAt, same.fields]
        exact ⟨fun free _ => free, fun free => free staff⟩
      case isFalse other => exact iff_of_true told fun staff => absurd staff other

def Job.actor : Job → Option SessionId
  | .move s _ | .turn s _ | .attack s _ => some s
  | _ => none

theorem runJob_untouched (w : World) (r : RoomRef) (job : Job) (s : SessionId) (id : ObjectId)
    (acts : job.actor = some s) (locked : lockPlayer w.routing w.scene [] s = some id) :
    w.Untouched (runJob data w r job) ↔ NothingToDo w r id job := by
  cases job with
  | move s' pkt =>
      cases acts
      exact handleCMove_untouched w r s pkt id locked
  | turn s' pkt =>
      cases acts
      exact handleCTurn_untouched w r s pkt id locked
  | attack s' pkt =>
      cases acts
      exact handleCAttack_untouched data w r s pkt id locked
  | _ => cases acts

theorem runJob_nobody (w : World) (r : RoomRef) (job : Job) (s : SessionId)
    (acts : job.actor = some s) (locked : lockPlayer w.routing w.scene [] s = none) :
    runJob data w r job = w := by
  cases job with
  | move s' pkt =>
      cases acts
      rw [runJob, World.onScene, handleCMove, locked]
  | turn s' pkt =>
      cases acts
      rw [runJob, World.onScene, handleCTurn, locked]
  | attack s' pkt =>
      cases acts
      rw [runJob, handleCAttack, locked]
  | _ => cases acts

/-- A move, turn or attack acts only for a player of the room that runs it; otherwise it
touches nothing. -/
def Confined (w : World) (e : Event) : Prop :=
  ∀ next r job rest rand s, w.step data e = some next → e = .job rand →
    w.routing.nextJob = some (r, job, rest) → job.actor = some s →
    (∀ id, lockPlayer (w.forJob r rest rand).routing (w.forJob r rest rand).scene [] s = some id →
      id ∉ (w.routing.rooms r).players) →
    w.Untouched next

def StraysIdle (w : World) (e : Event) : Prop :=
  ∀ r job rest rand s id, e = .job rand → w.routing.nextJob = some (r, job, rest) →
    job.actor = some s →
    lockPlayer (w.forJob r rest rand).routing (w.forJob r rest rand).scene [] s = some id →
    id ∉ (w.routing.rooms r).players → NothingToDo (w.forJob r rest rand) r id job

theorem confined_iff (w next : World) (e : Event) (stepped : w.step data e = some next) :
    Confined data w e ↔ StraysIdle w e := by
  obtain ⟨acted, -⟩ := step_act data w next e stepped
  constructor
  · intro confined r job rest rand s id event front acts locked away
    subst event
    have untouched := confined next r job rest rand s stepped rfl front acts (by
      intro other named
      rw [locked] at named
      cases named
      exact away)
    obtain ⟨r', job', rest', front', result⟩ := runNextJob_some data w next rand acted
    rw [front] at front'
    cases front'
    rw [result, ← (World.Untouched.forJob w r rest rand).congr_left] at untouched
    exact (runJob_untouched data _ r job s id acts locked).mp untouched
  · intro idle next' r job rest rand s stepped' event front acts away
    subst event
    rw [stepped] at stepped'
    cases stepped'
    obtain ⟨r', job', rest', front', result⟩ := runNextJob_some data w next rand acted
    rw [front] at front'
    cases front'
    rw [result, ← (World.Untouched.forJob w r rest rand).congr_left]
    cases locked : lockPlayer (w.forJob r rest rand).routing (w.forJob r rest rand).scene [] s with
    | none =>
        rw [runJob_nobody data _ r job s acts locked]
        exact untouched_self _
    | some id =>
        apply (runJob_untouched data _ r job s id acts locked).mpr
        exact idle r job rest rand s id rfl front acts locked (away id locked)

/-- In any run, moves, turns and attacks are confined to the room that runs them exactly
when those of players that are elsewhere find nothing to do. -/
theorem room_confinement_iff (store : Store) (redisConnected : Bool) (rand : List Nat)
    (events : List Event) :
    Runs.EachStep (World.step data) (Confined data) (World.init data store redisConnected rand)
        events ↔
      Runs.EachStep (World.step data) StraysIdle (World.init data store redisConnected rand)
        events := by
  apply Runs.eachStep_congr (Confined data) StraysIdle fun _ => True
  · exact fun _ _ _ _ _ _ => trivial
  · intro w e next _ stepped
    exact confined_iff data w next e stepped
  · trivial

/-- The player leaves the town for a dungeon, with a turn queued behind it. -/
def turnBehindTrip : List Event :=
  [Event.connect 1, .packet 1 (.login [97])] ++ updateTown 1 ++
    [Event.packet 1 (.changeMap ⟨MapId.dungeon, 0⟩), .packet 1 (.turn ⟨Dir.left⟩), .update,
      .visitStatic, .job []]

/-- The next job acts for a player outside of its room, and changes how it looks. -/
def strayActs (w : World) : Bool :=
  match w.routing.nextJob, w.step smallGame (.job []) with
  | some (r, job, rest), some next =>
      job.actor = some 1 ∧
        (lockPlayer (w.forJob r rest []).routing (w.forJob r rest []).scene [] 1).all
          (fun id => id ∉ (w.routing.rooms r).players) ∧
        (next.scene.players 1).info.sight ≠ (w.scene.players 1).info.sight
  | _, _ => false

theorem strayActs_unconfined (w : World) (checked : strayActs w = true) :
    ∃ next, w.step smallGame (.job []) = some next ∧ ¬ Confined smallGame w (.job []) := by
  unfold strayActs at checked
  split at checked
  case h_2 => cases checked
  case h_1 r job rest next front stepped =>
    obtain ⟨acts, away, seen⟩ := of_decide_eq_true checked
    refine ⟨next, stepped, fun confined => seen ?_⟩
    have untouched := confined next r job rest [] 1 stepped rfl front acts (by
      intro id locked
      rw [locked, Option.all_some, decide_eq_true_eq] at away
      exact away)
    exact untouched.players 1

set_option maxRecDepth 20000 in
theorem turn_behind_trip_unconfined :
    ¬ Runs.EachStep (World.step smallGame) (Confined smallGame)
      (World.init smallGame newStore false []) (turnBehindTrip ++ [.job []]) := by
  have run : (reached smallGame newStore false [] turnBehindTrip).any strayActs = true := by
    decide +kernel
  obtain ⟨w, ended, checked⟩ := Option.any_eq_true _ _ |>.mp run
  obtain ⟨next, stepped, unconfined⟩ := strayActs_unconfined w checked
  intro each
  have last := Runs.eachStep_append (Confined smallGame) _ w turnBehindTrip [.job []] ended each
  exact unconfined (last next stepped).1

end ZeldaServer
