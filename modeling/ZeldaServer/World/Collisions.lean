import ZeldaServer.World.Hunters

/-! Where arrows and monsters meet. -/

namespace ZeldaServer

variable (data : GameData)

/-- No arrow that has been updated is on the cell of a monster of its room. -/
def Scene.ArrowsApart (scene : Scene) : Prop :=
  ∀ r, ∀ a ∈ (scene.fields r).projectiles, a.spawned = true →
    ∀ m ∈ (scene.fields r).monsters, m.info.cellPos ≠ a.info.cellPos

def Scene.NoArrowAt (scene : Scene) (r : RoomRef) (cell : Vec2Int) : Prop :=
  ∀ a ∈ (scene.fields r).projectiles, a.spawned = true → a.info.cellPos ≠ cell

/-- A monster or an arrow that goes where the other one is: the monster is hit, or the owner
of the arrow has left, and the arrow is gone. -/
def Turn.MeetingHit (t : Turn) : Prop :=
  match t.kind with
  | .monster id => ∀ m m',
      (t.before.fields t.room).monster id = some m →
      ((monsterUpdate t.routing t.room t.before id).fields t.room).monster id = some m' →
      m'.info.cellPos ≠ m.info.cellPos →
      ∀ a ∈ (t.before.fields t.room).projectiles, a.spawned = true →
        a.info.cellPos = m'.info.cellPos →
        m'.info.hp < m.info.hp ∨
          a ∉ ((monsterUpdate t.routing t.room t.before id).fields t.room).projectiles
  | .arrow id => ∀ a target, arrowMeets t.room t.before id = some (a, target) →
      ((arrowUpdate data t.routing t.room t.before id).fields t.room).projectile id = none ∧
      (a.ownerId ∈ playerIds t.routing t.room →
        let struck := target.damaged
          (max 1 ((t.before.players a.ownerId).info.attack - target.info.defence))
        ((arrowUpdate data t.routing t.room t.before id).fields t.room).monster
          target.info.objectId = if struck.info.hp = 0 then none else some struck)
  | _ => True

def Turn.WalksClear (t : Turn) : Prop :=
  match t.kind with
  | .monster id => ∀ m cell,
      (t.before.fields t.room).monster id = some m →
      monsterStep t.routing t.room m t.before = some cell → t.before.NoArrowAt t.room cell
  | _ => True

def Turn.BirthClear (t : Turn) : Prop :=
  match t.kind with
  | .birth cell => t.before.NoArrowAt t.room cell
  | _ => True

structure Scene.Clear (scene : Scene) : Prop where
  apart : scene.ArrowsApart
  idle : ∀ r, ∀ a ∈ (scene.fields r).projectiles, a.spawned = false → a.info.state = .idle

namespace Scene.Clear

variable {a b : Scene}

theorem fewer (clear : a.Clear)
    (monsters : ∀ r, ∀ m' ∈ (b.fields r).monsters, ∃ m ∈ (a.fields r).monsters,
      m.info.cellPos = m'.info.cellPos)
    (projectiles : ∀ r, ∀ arrow ∈ (b.fields r).projectiles, arrow ∈ (a.fields r).projectiles) :
    b.Clear where
  apart := by
    intro r arrow flies spawned m' member
    obtain ⟨m, stands, same⟩ := monsters r m' member
    rw [← same]
    exact clear.apart r arrow (projectiles r arrow flies) spawned m stands
  idle := fun r arrow flies => clear.idle r arrow (projectiles r arrow flies)

theorem same (clear : a.Clear) (ground : a.SameGround b) : b.Clear := by
  apply clear.fewer
  · intro r m member
    rw [ground.monsters] at member
    exact ⟨m, member, rfl⟩
  · intro r arrow flies
    rwa [ground.projectiles] at flies

theorem setField (clear : a.Clear) (r : RoomRef) (field : Field)
    (apart : ∀ arrow ∈ field.projectiles, arrow.spawned = true → ∀ m ∈ field.monsters,
      m.info.cellPos ≠ arrow.info.cellPos)
    (idle : ∀ arrow ∈ field.projectiles, arrow.spawned = false → arrow.info.state = .idle) :
    (a.setField r field).Clear where
  apart := by
    intro r'
    rcases setField_cases a r r' field with ⟨rfl, here⟩ | away
    · rw [here]
      exact apart
    · rw [away]
      exact clear.apart r'
  idle := by
    intro r'
    rcases setField_cases a r r' field with ⟨rfl, here⟩ | away
    · rw [here]
      exact idle
    · rw [away]
      exact clear.idle r'

theorem setMonster (clear : a.Clear) (r : RoomRef) (m : Monster)
    (free : a.NoArrowAt r m.info.cellPos) : (a.setMonster r m).Clear := by
  apply clear.setField
  · intro arrow flies spawned m' member
    obtain ⟨old, stands, rfl⟩ := List.mem_map.mp member
    split
    · exact (free arrow flies spawned).symm
    · exact clear.apart r arrow flies spawned old stands
  · exact clear.idle r

theorem setProjectile (clear : a.Clear) (r : RoomRef) (arrow : Arrow) (spawned : arrow.spawned = true)
    (alone : ∀ m ∈ (a.fields r).monsters, m.info.cellPos ≠ arrow.info.cellPos) :
    (a.setProjectile r arrow).Clear := by
  apply clear.setField
  · intro arrow' flies spawned' m member
    obtain ⟨old, flew, rfl⟩ := List.mem_map.mp flies
    split
    · exact alone m member
    case isFalse other =>
      rw [if_neg other] at spawned'
      exact clear.apart r old flew spawned' m member
  · intro arrow' flies unspawned
    obtain ⟨old, flew, rfl⟩ := List.mem_map.mp flies
    split at unspawned
    · rw [spawned] at unspawned
      cases unspawned
    case isFalse other =>
      rw [if_neg other]
      exact clear.idle r old flew unspawned

end Scene.Clear

theorem monsterTurn_clear {routing : Routing} {r : RoomRef} {scene after : Scene} {m : Monster}
    (turn : MonsterTurn routing r scene m after) (clear : scene.Clear)
    (member : m ∈ (scene.fields r).monsters)
    (walks : ∀ cell, monsterStep routing r m scene = some cell → scene.NoArrowAt r cell) :
    after.Clear := by
  have stands : scene.NoArrowAt r m.info.cellPos :=
    fun arrow flies spawned same => clear.apart r arrow flies spawned m member same.symm
  cases turn with
  | busy state due result => exact clear.same result
  | wakes state due result =>
      refine (clear.setMonster r _ ?_).same result
      exact stands
  | stays target state still apart result =>
      refine (clear.setMonster r _ ?_).same result
      rwa [(aiming_keeps m target).1]
  | goes nextPos target state steps result =>
      refine (clear.setMonster r _ ?_).same result
      exact walks nextPos steps
  | attacks target state aims near result =>
      refine (clear.setMonster r _ ?_).same result
      have cell : ((m.aiming (some target)).striking (scene.players target).info.cellPos
          (scene.now + 1000)).info.cellPos = m.info.cellPos := by
        simp only [Monster.striking, ObjectInfo.cellPos, (aiming_keeps m (some target)).1]
      rwa [cell]

theorem struck_cells {scene hit : Scene} {r : RoomRef} {target : Monster}
    (struck : scene.Struck r target hit) (met : target ∈ (scene.fields r).monsters) :
    ∀ r', ∀ m' ∈ (hit.fields r').monsters, ∃ m ∈ (scene.fields r').monsters,
      m.info.cellPos = m'.info.cellPos := by
  have hurt (damage : Int) (r' : RoomRef) (m' : Monster)
      (member : m' ∈ ((scene.setMonster r (target.damaged damage)).fields r').monsters) :
      ∃ m ∈ (scene.fields r').monsters, m.info.cellPos = m'.info.cellPos := by
    by_cases here : r' = r
    · subst here
      simp only [Scene.setMonster, Scene.setField, Function.update_self] at member
      obtain ⟨old, stands, rfl⟩ := List.mem_map.mp member
      split
      · exact ⟨target, met, (onDamaged_keeps target.info damage).2.symm⟩
      · exact ⟨old, stands, rfl⟩
    · rw [setMonster_others scene r r' _ here] at member
      exact ⟨m', member, rfl⟩
  intro r' m' member
  cases struck with
  | spared => exact ⟨m', member, rfl⟩
  | hurt damage => exact hurt damage r' m' member
  | killed damage =>
      apply hurt damage r' m'
      by_cases here : r' = r
      · subst here
        rw [(dropMonster_field _ r' _).1] at member
        exact List.mem_of_mem_filter member
      · rwa [dropMonster_others _ r r' _ here] at member

theorem dropArrow_mem {scene hit : Scene} {r : RoomRef} {a : Arrow}
    (projectiles : ∀ r', (hit.fields r').projectiles =
      ((scene.setProjectile r a).fields r').projectiles) :
    ∀ r', ∀ arrow ∈ ((hit.dropArrow r a.info.objectId).fields r').projectiles,
      arrow ∈ (scene.fields r').projectiles := by
  intro r' arrow flies
  by_cases here : r' = r
  · subst here
    rw [Scene.dropArrow_field, projectiles] at flies
    obtain ⟨flies, other⟩ := List.mem_filter.mp flies
    simp only [Scene.setProjectile, Scene.setField, Function.update_self] at flies
    obtain ⟨old, flew, rfl⟩ := List.mem_map.mp flies
    split at other
    · exact absurd rfl (of_decide_eq_true other)
    case isFalse apart =>
      rwa [if_neg apart]
  · have away : (hit.dropArrow r a.info.objectId).fields r' = hit.fields r' :=
      Function.update_of_ne here _ _
    have before : (scene.setProjectile r a).fields r' = scene.fields r' :=
      Function.update_of_ne here _ _
    rwa [away, projectiles, before] at flies

theorem arrowTurn_clear {r : RoomRef} {scene after : Scene} {fired : Arrow}
    (turn : ArrowTurn r scene.now scene fired after) (clear : scene.Clear)
    (flew : fired ∈ (scene.fields r).projectiles) (fine : after.fault = none) : after.Clear := by
  have marks := arrowStart_marks scene.now fired
  have info := (arrowStart_keeps scene.now fired).1
  have stands (spawned : fired.spawned = true) :
      ∀ m ∈ (scene.fields r).monsters, m.info.cellPos ≠ fired.info.cellPos :=
    fun m member => clear.apart r fired flew spawned m member
  have dropped (hit : Scene) (same : (hit.dropArrow r fired.info.objectId).SameGround after)
      (monsters : ∀ r', ∀ m' ∈ (hit.fields r').monsters, ∃ m ∈ (scene.fields r').monsters,
        m.info.cellPos = m'.info.cellPos)
      (projectiles : ∀ r', (hit.fields r').projectiles =
        ((scene.setProjectile r (arrowStart scene.now fired)).fields r').projectiles) :
      after.Clear := by
    refine (clear.fewer (b := hit.dropArrow r fired.info.objectId) ?_ ?_).same same
    · intro r' m' member
      apply monsters
      by_cases here : r' = r
      · subst here
        rwa [Scene.dropArrow_field] at member
      · have away : (hit.dropArrow r fired.info.objectId).fields r' = hit.fields r' :=
          Function.update_of_ne here _ _
        rwa [away] at member
    · rw [← info]
      exact dropArrow_mem projectiles
  have before (r' : RoomRef) :
      ((scene.setProjectile r (arrowStart scene.now fired)).fields r').monsters =
        (scene.fields r').monsters := setProjectile_monsters r r' _ scene
  cases turn with
  | waits fresh due stood result =>
      cases spawned : fired.spawned with
      | true =>
          refine (clear.setProjectile r _ marks ?_).same result
          rw [info]
          exact stands spawned
      | false =>
          simp [arrowStart, spawned] at due
  | rests fresh state due stood result =>
      cases spawned : fired.spawned with
      | true =>
          refine (clear.setProjectile r (arrowStart scene.now fired).rested marks ?_).same result
          simp only [Arrow.rested, info]
          exact stands spawned
      | false => exact absurd (clear.idle r fired flew spawned) state
  | flies fresh delta state due ahead free alone result =>
      refine (clear.setProjectile r ((arrowStart scene.now fired).flown scene.now delta) marks
        ?_).same result
      intro m member there
      simp only [Arrow.flown, ObjectInfo.setCellPos, ObjectInfo.cellPos, info] at there
      have absent := List.find?_eq_none.mp alone m member
      exact absent (decide_eq_true there)
  | removed result =>
      apply dropped _ result _ fun _ => rfl
      intro r' m' member
      rw [before] at member
      exact ⟨m', member, rfl⟩
  | hits target hit met struck result =>
      apply dropped hit result _ fun r' => ((struck_keeps struck).1 r').1
      intro r' m' member
      obtain ⟨m, stood, same⟩ := struck_cells struck (by rwa [before]) r' m' member
      rw [before] at stood
      exact ⟨m, stood, same⟩
  | lost fresh nowhere fault result => exact absurd fine fault

theorem act_clear (a : Scene × ObjectId) (turns : List Turn) (b : Scene × ObjectId)
    (act : Scene.Act data a turns b) (free : ∀ t ∈ turns, t.WalksClear ∧ t.BirthClear)
    (clear : a.1.Clear) : b.1.Clear := by
  cases act with
  | aside b same later => exact clear.same same
  | monster routing r m found known distinct =>
      apply monsterTurn_clear (monsterUpdate_turn routing r a.1 m distinct found) clear
        (List.mem_of_find?_eq_some found)
      intro cell steps
      exact (free _ (List.mem_singleton.mpr rfl)).1 m cell found steps
  | arrow routing r fired found known distinct fine =>
      have turn := arrowUpdateBy_turn data routing r a.1.now a.1 fired.info.objectId fired found
        (Nat.le_refl _)
      exact arrowTurn_clear turn clear (List.mem_of_find?_eq_some found) fine
  | hit r m damage found =>
      apply clear.setMonster
      rw [Monster.damaged, (onDamaged_keeps m.info damage).2]
      intro arrow flies spawned same
      exact clear.apart r arrow flies spawned m (List.mem_of_find?_eq_some found) same.symm
  | removed r m =>
      apply clear.fewer
      · intro r' m' member
        refine ⟨m', ?_, rfl⟩
        by_cases here : r' = r
        · subst here
          rw [(dropMonster_field a.1 r' m).1] at member
          exact List.mem_of_mem_filter member
        · rwa [dropMonster_others a.1 r r' m here] at member
      · intro r' arrow flies
        by_cases here : r' = r
        · subst here
          rwa [(dropMonster_field a.1 r' m).2.1] at flies
        · rwa [dropMonster_others a.1 r r' m here] at flies
  | born routing r cell aggroRange leashRange templateId =>
      have free := (free _ (List.mem_singleton.mpr rfl)).2
      apply clear.setField
      · intro arrow flies spawned m member
        rcases List.mem_append.mp member with old | new
        · exact clear.apart r arrow flies spawned m old
        · rw [List.mem_singleton.mp new]
          exact (free arrow flies spawned).symm
      · exact clear.idle r
  | fired routing r arrow named fresh idle =>
      apply clear.setField
      · intro arrow' flies spawned m member
        rcases List.mem_append.mp flies with old | new
        · exact clear.apart r arrow' old spawned m member
        · rw [List.mem_singleton.mp new, fresh] at spawned
          cases spawned
      · intro arrow' flies unspawned
        rcases List.mem_append.mp flies with old | new
        · exact clear.idle r arrow' old unspawned
        · rwa [List.mem_singleton.mp new]
  | opened r field g later empty newborn new =>
      apply clear.setField
      all_goals
        intro arrow flies
        rw [empty] at flies
        cases flies

section Births

variable (routing : Routing) (r : RoomRef)

theorem spawnAt_field (pos : Vec2Int) (aggroRange leashRange templateId : Int)
    (made : Scene × ObjectId) :
    (spawnAt data routing r pos aggroRange leashRange templateId made).1.fields r =
      { made.1.fields r with
        monsters := (made.1.fields r).monsters ++
          [createMonster data made.2 (spawnCell routing r pos made.1) aggroRange leashRange
            templateId] } := by
  have placed (cell : Vec2Int) (scene : Scene) (same : scene.fields = made.1.fields) :
      (addMonster routing r (createMonster data made.2 cell aggroRange leashRange templateId)
        scene).fields r = { made.1.fields r with
          monsters := (made.1.fields r).monsters ++
            [createMonster data made.2 cell aggroRange leashRange templateId] } := by
    unfold addMonster
    dsimp only
    rw [(Scene.Quiet.broadcast routing r _ _).fields, Scene.setField, same]
    exact Function.update_self _ _ _
  unfold spawnAt spawnCell
  dsimp only
  split
  case isTrue => exact placed pos made.1 rfl
  case isFalse => exact placed _ _ (randomEmptyCellPos_spec routing r _ made.1).1.fields

theorem respawn_grows (made : Scene × ObjectId) (request : RespawnRequest) :
    ((respawn data routing r made request).1.fields r).projectiles =
        (made.1.fields r).projectiles ∧
      ∀ m ∈ (made.1.fields r).monsters,
        m ∈ ((respawn data routing r made request).1.fields r).monsters := by
  unfold respawn
  dsimp only
  split
  case isTrue => simp [Scene.setField]
  case isFalse =>
    rw [spawnAt_field]
    exact ⟨rfl, fun m member => List.mem_append_left _ member⟩

theorem respawns_grow (requests : List RespawnRequest) (made : Scene × ObjectId) :
    ((requests.foldl (respawn data routing r) made).1.fields r).projectiles =
        (made.1.fields r).projectiles ∧
      ∀ m ∈ (made.1.fields r).monsters,
        m ∈ ((requests.foldl (respawn data routing r) made).1.fields r).monsters := by
  induction requests generalizing made with
  | nil => exact ⟨rfl, fun _ member => member⟩
  | cons request requests ih =>
      obtain ⟨projectiles, monsters⟩ := respawn_grows data routing r made request
      obtain ⟨later, stay⟩ := ih (respawn data routing r made request)
      exact ⟨later.trans projectiles, fun m member => stay m (monsters m member)⟩

theorem respawns_land (requests : List RespawnRequest) (made : Scene × ObjectId) (t : Turn)
    (cell : Vec2Int) (member : t ∈ respawnTurns data routing r requests made)
    (born : t.kind = .birth cell) :
    let after := (requests.foldl (respawn data routing r) made).1.fields r
    t.room = r ∧ after.projectiles = (t.before.fields r).projectiles ∧
      ∃ m ∈ after.monsters, m.info.cellPos = cell := by
  induction requests generalizing made with
  | nil => cases member
  | cons request requests ih =>
      rcases List.mem_append.mp member with now | later
      · split at now
        · cases now
        case isFalse due =>
          obtain rfl := List.mem_singleton.mp now
          obtain ⟨projectiles, monsters⟩ := respawns_grow data routing r requests
            (respawn data routing r made request)
          obtain ⟨same, -⟩ := respawn_grows data routing r made request
          have here : ∃ m ∈ ((respawn data routing r made request).1.fields r).monsters,
              m.info.cellPos = cell := by
            cases born
            unfold respawn
            rw [if_neg due, spawnAt_field]
            exact ⟨_, List.mem_append_right _ (List.mem_singleton.mpr rfl), rfl⟩
          obtain ⟨m, stands, there⟩ := here
          exact ⟨rfl, projectiles.trans same, m, monsters m stands, there⟩
      · exact ih _ later

end Births

theorem spawnTick_lands (routing : Routing) (r : RoomRef) (scene : Scene) (idGen : ObjectId)
    (t : Turn) (cell : Vec2Int) (member : t ∈ spawnTurns data routing r scene idGen)
    (born : t.kind = .birth cell) :
    let after := (spawnTick data routing r scene idGen).1.fields r
    t.room = r ∧ after.projectiles = (t.before.fields r).projectiles ∧
      ∃ m ∈ after.monsters, m.info.cellPos = cell := by
  unfold spawnTurns at member
  unfold spawnTick
  dsimp only at member ⊢
  split at member
  case isTrue due =>
    rw [if_pos due]
    exact respawns_land data routing r _ _ t cell member born
  case isFalse => cases member

theorem stepTurns_birth (routing : Routing) (r : RoomRef) (scene : Scene) (idGen : ObjectId)
    (t : Turn) (cell : Vec2Int) (member : t ∈ stepTurns data routing r scene idGen)
    (born : t.kind = .birth cell) :
    t ∈ spawnTurns data routing r (stepObjects data routing r scene) idGen := by
  rcases List.mem_append.mp member with updates | births
  · rcases List.mem_append.mp updates with monster | arrow
    · obtain ⟨id, other⟩ := monsterTurns_kind routing r _ _ t monster
      rw [other] at born
      cases born
    · obtain ⟨id, other⟩ := arrowTurns_kind data routing r _ _ t arrow
      rw [other] at born
      cases born
  · exact births

theorem birth_lands (w next : World) (e : Event) (stepped : w.step data e = some next) (t : Turn)
    (cell : Vec2Int) (member : t ∈ w.turns data e) (born : t.kind = .birth cell) :
    (next.scene.fields t.room).projectiles = (t.before.fields t.room).projectiles ∧
      ∃ m ∈ (next.scene.fields t.room).monsters, m.info.cellPos = cell := by
  cases step_acted data w next e stepped with
  | still e jobless stepless same =>
      cases e with
      | job rand => exact absurd rfl (jobless rand)
      | step rand => exact absurd rfl (stepless rand)
      | _ => cases member
  | login s username player named players fields now standing idGen => cases member
  | ran rand r job rest front result =>
      unfold World.turns at member
      rw [front] at member
      cases job with
      | attack s pkt =>
          obtain ⟨arrow, other⟩ := shotTurns_kind _ r s pkt t member
          rw [other] at born
          cases born
      | _ => cases member
  | stepped rand pass r steps under_way current scene idGen rooms logins =>
      obtain ⟨passNow, statics, dungeonsFrom, visited, under⟩ := pass
      cases current
      have births := stepTurns_birth data w.routing r { w.scene with rand } w.idGen t cell (by
        unfold World.turns at member
        rwa [under_way] at member) born
      obtain ⟨rfl, projectiles, monsters⟩ := spawnTick_lands data w.routing r _ w.idGen t cell
        births born
      have after : next.scene.fields t.room =
          { (spawnTick data w.routing t.room (stepObjects data w.routing t.room
              { w.scene with rand }) w.idGen).1.fields t.room with
            nextTick := ((gameStep data w.routing t.room { w.scene with rand }
              w.idGen).1.fields t.room).nextTick + kTickMs } := by
        rw [scene, World.afterStep]
        exact Function.update_self _ _ _
      rw [after]
      exact ⟨projectiles, monsters⟩

theorem arrowHit_monster (routing : Routing) (r : RoomRef) (a : Arrow) (target : Monster)
    (scene : Scene) (found : (scene.fields r).monster target.info.objectId = some target)
    (owned : a.ownerId ∈ playerIds routing r) :
    let struck := target.damaged
      (max 1 ((scene.players a.ownerId).info.attack - target.info.defence))
    ((arrowHit data routing r a target scene).fields r).monster target.info.objectId =
      if struck.info.hp = 0 then none else some struck := by
  have owner : findObject routing scene r a.ownerId = some (.player a.ownerId) := if_pos owned
  unfold arrowHit
  rw [owner]
  dsimp only [ObjectRef.info]
  rw [hitMonster_fst]
  generalize max 1 ((scene.players a.ownerId).info.attack - target.info.defence) = damage
  have named := (onDamaged_keeps target.info damage).1
  have hit := Scene.SameGround.hitMonster routing r (scene.players a.ownerId).info.objectId damage
    target scene
  have gone (after : Scene) (id : ObjectId) :
      ((removeProjectile routing r a.info.objectId after).fields r).monster id =
        (after.fields r).monster id := by
    unfold Field.monster
    rw [removeProjectile_monsters]
  rw [gone]
  split
  case isTrue dead =>
    have killed := (hit.dropMonster r (target.damaged damage)).trans
      (.killMonster data routing r a.ownerId _ _)
    have dropped := dropMonster_monster (scene.setMonster r (target.damaged damage)) r
      (target.damaged damage) target.info.objectId
    rw [if_pos (show target.info.objectId = (target.damaged damage).info.objectId from
      named.symm)] at dropped
    unfold Field.monster at dropped ⊢
    rwa [killed.monsters]
  case isFalse lives =>
    have set := setMonster_monster scene r (target.damaged damage) target.info.objectId
    rw [if_pos (show target.info.objectId = (target.damaged damage).info.objectId from
      named.symm), found] at set
    unfold Field.monster at set ⊢
    rw [hit.monsters, set]
    rfl

def Turn.Sound (t : Turn) : Prop :=
  (t.before.fields t.room).Distinct ∨ (∃ cell, t.kind = .birth cell) ∨ ∃ arrow, t.kind = .shot arrow

theorem acts_sound {a b : Scene × ObjectId} {turns : List Turn}
    (chain : Scene.Acts data a turns b) : ∀ t ∈ turns, t.Sound := by
  apply chain.relates (fun _ turns _ => ∀ t ∈ turns, t.Sound)
  · exact fun _ _ member => absurd member List.not_mem_nil
  · intro a middle b first rest now later t member
    rcases List.mem_append.mp member with own | other
    · cases now with
      | aside | hit | removed | opened => cases own
      | monster routing r m found known distinct =>
          rw [List.mem_singleton.mp own]
          exact .inl distinct
      | arrow routing r fired found known distinct fine =>
          rw [List.mem_singleton.mp own]
          exact .inl distinct
      | born routing r cell aggroRange leashRange templateId =>
          rw [List.mem_singleton.mp own]
          exact .inr (.inl ⟨cell, rfl⟩)
      | fired routing r arrow named fresh idle =>
          rw [List.mem_singleton.mp own]
          exact .inr (.inr ⟨arrow, rfl⟩)
    · exact later t other

theorem arrowMeets_named (r : RoomRef) (scene : Scene) (id : ObjectId) (a : Arrow) (target : Monster)
    (meets : arrowMeets r scene id = some (a, target)) : a.info.objectId = id := by
  unfold arrowMeets at meets
  obtain ⟨fired, found, meets⟩ := Option.bind_eq_some_iff.mp meets
  have named : fired.info.objectId = id := by simpa using List.find?_some found
  dsimp only at meets
  split at meets
  case isTrue => cases meets
  case isFalse =>
    obtain ⟨delta, -, meets⟩ := Option.bind_eq_some_iff.mp meets
    split at meets
    case isTrue => cases meets
    case isFalse =>
      obtain ⟨m, -, same⟩ := Option.map_eq_some_iff.mp meets
      obtain rfl := congrArg Prod.fst same
      rw [(arrowStart_keeps scene.now fired).1, named]

/-- The walk of a monster onto an arrow is the meeting that hits nobody; an arrow that flies
at a monster hits it. -/
theorem meeting_iff (t : Turn) (sound : t.Sound) : t.MeetingHit data ↔ t.WalksClear := by
  obtain ⟨routing, r, before, kind⟩ := t
  have updates (id : ObjectId) (same : kind = .monster id ∨ kind = .arrow id) :
      (before.fields r).Distinct := by
    rcases sound with distinct | ⟨cell, other⟩ | ⟨arrow, other⟩
    · exact distinct
    all_goals
      dsimp only at other
      rcases same with same | same <;>
      · rw [same] at other
        cases other
  cases kind with
  | birth cell => exact Iff.rfl
  | shot arrow => exact Iff.rfl
  | arrow id =>
      refine ⟨fun _ => trivial, fun _ a target meets => ?_⟩
      have distinct := updates id (.inr rfl)
      obtain ⟨-, met, -, result⟩ := arrowMeets_some data routing r before id a target meets
      have named := arrowMeets_named r before id a target meets
      have monsters := setProjectile_monsters r r a before
      dsimp only
      rw [result]
      constructor
      · unfold arrowHit
        rw [named]
        have gone (after : Scene) :
            ((removeProjectile routing r id after).fields r).projectile id = none := by
          have dropped := projectile_dropArrow after r id id
          rw [if_pos rfl] at dropped
          unfold Field.projectile at dropped ⊢
          rwa [(Scene.SameGround.removeProjectile routing r id after).projectiles]
        exact gone _
      · intro owned
        apply arrowHit_monster data routing r a target (before.setProjectile r a) _ owned
        rw [monsters] at met
        unfold Field.monster
        rw [monsters]
        exact distinct.monster target met
  | monster id =>
      have distinct := updates id (.inl rfl)
      let t : MonsterUpdate := ⟨routing, r, id, before⟩
      constructor
      · intro hit m cell found steps arrow flies spawned same
        obtain ⟨turn, m', left, course⟩ := update_hunt (t := t) found distinct
        obtain ⟨there, hp⟩ := steps_move course steps
        have moved : m'.info.cellPos ≠ m.info.cellPos := by
          rw [there]
          intro stays
          have adjacent := (monsterStep_move cell steps).1
          rw [stays] at adjacent
          simp [Vec2Int.manhattan] at adjacent
        rcases hit m m' found left moved arrow flies spawned (same.trans there.symm) with
          less | gone
        · rw [hp] at less
          exact lt_irrefl _ less
        · apply gone
          have kept := ((monsterTurn_arrows turn).1 r).1
          exact kept ▸ flies
      · intro walks m m' found left moved arrow flies spawned same
        obtain ⟨-, after, stays, course⟩ := update_hunt (t := t) found distinct
        obtain rfl : m' = after := Option.some.inj (left.symm.trans stays)
        have moves := (moves_iff (t := t) found left).mpr moved
        obtain ⟨steps, -⟩ := moves_steps (t := t) found left course moves
        exact absurd same (walks m _ found steps arrow flies spawned)

def MeetingsHit (w : World) (e : Event) : Prop := ∀ t ∈ w.turns data e, t.MeetingHit data

def WalksClear (w : World) (e : Event) : Prop := ∀ t ∈ w.turns data e, t.WalksClear

def BirthsClear (w : World) (e : Event) : Prop := ∀ t ∈ w.turns data e, t.BirthClear

theorem meetings_iff (w next : World) (e : Event) (orderly : w.Orderly)
    (stepped : w.step data e = some next) : MeetingsHit data w e ↔ WalksClear data w e := by
  have sound := acts_sound data (step_acts data w next e orderly stepped)
  exact forall₂_congr fun t member => meeting_iff data t (sound t member)

theorem acts_clear {a b : Scene × ObjectId} {turns : List Turn} (chain : Scene.Acts data a turns b)
    (free : ∀ t ∈ turns, t.WalksClear ∧ t.BirthClear) (clear : a.1.Clear) : b.1.Clear := by
  have relates := chain.relates (fun a turns b => (∀ t ∈ turns, t.WalksClear ∧ t.BirthClear) →
    a.1.Clear → b.1.Clear) (fun _ _ clear => clear) (by
      intro a middle b first rest now later free clear
      obtain ⟨own, others⟩ := List.forall_mem_append.mp free
      exact later others (act_clear data a first middle now own clear))
  exact relates free clear

theorem init_clear (store : Store) (redisConnected : Bool) (rand : List Nat) :
    (World.init data store redisConnected rand).scene.Clear := by
  apply acts_clear data (init_acts data store redisConnected rand)
  · exact fun _ member => absurd member List.not_mem_nil
  · exact ⟨fun _ _ member => absurd member List.not_mem_nil,
      fun _ _ member => absurd member List.not_mem_nil⟩

theorem apart_births (w next : World) (e : Event) (stepped : w.step data e = some next)
    (apart : next.scene.ArrowsApart) : BirthsClear data w e := by
  intro t member
  unfold Turn.BirthClear
  cases born : t.kind with
  | birth cell =>
      obtain ⟨same, m, stands, there⟩ := birth_lands data w next e stepped t cell member born
      intro a flies spawned here
      apply apart t.room a (by rwa [same]) spawned m stands
      rw [there, here]
  | _ => trivial

/-- Whoever meets is hit, and no arrow that has been updated is on a monster's cell, exactly
when no monster walks and none comes back onto such an arrow. -/
theorem arrows_meet_iff (store : Store) (redisConnected : Bool) (rand : List Nat)
    (events : List Event) :
    (Runs.EachStep (World.step data) (MeetingsHit data) (World.init data store redisConnected rand)
        events ∧
      Runs.EveryState (World.step data) (fun w => w.scene.ArrowsApart)
        (World.init data store redisConnected rand) events) ↔
      Runs.EachStep (World.step data) (fun w e => WalksClear data w e ∧ BirthsClear data w e)
        (World.init data store redisConnected rand) events := by
  have orderly := init_orderly data store redisConnected rand
  have hits_iff : Runs.EachStep (World.step data) (MeetingsHit data)
      (World.init data store redisConnected rand) events ↔
        Runs.EachStep (World.step data) (WalksClear data)
          (World.init data store redisConnected rand) events := by
    apply Runs.eachStep_congr _ _ World.Orderly
    · exact fun w e next orderly _ stepped => step_orderly data w next e orderly stepped
    · exact fun w e next orderly stepped => meetings_iff data w next e orderly stepped
    · exact orderly
  have apart_iff (walks : Runs.EachStep (World.step data) (WalksClear data)
      (World.init data store redisConnected rand) events) :
      Runs.EveryState (World.step data) (fun w => w.scene.ArrowsApart)
        (World.init data store redisConnected rand) events ↔
          Runs.EachStep (World.step data) (BirthsClear data)
            (World.init data store redisConnected rand) events := by
    apply Runs.everyState_iff (WalksClear data) (BirthsClear data)
      (fun w => w.Orderly ∧ w.scene.Clear)
    · exact fun w kept => kept.2.apart
    · rintro w e next ⟨orderly, clear⟩ walks stepped births
      refine ⟨step_orderly data w next e orderly stepped, ?_⟩
      apply acts_clear data (step_acts data w next e orderly stepped) _ clear
      exact fun t member => ⟨walks t member, births t member⟩
    · exact fun w e next _ _ stepped apart => apart_births data w next e stepped apart
    · exact ⟨orderly, init_clear data store redisConnected rand⟩
    · exact walks
  constructor
  · rintro ⟨hits, apart⟩
    have walks := hits_iff.mp hits
    exact Runs.eachStep_and _ _ _ _ walks ((apart_iff walks).mp apart)
  · intro each
    have part (right : World → Event → Prop)
        (implies : ∀ w e, WalksClear data w e ∧ BirthsClear data w e → right w e) :
        Runs.EachStep (World.step data) right (World.init data store redisConnected rand) events :=
      Runs.eachStep_mono _ right (fun _ => True) (fun _ _ _ _ _ _ => trivial)
        (fun w e _ _ _ both => implies w e both) _ events trivial each
    have walks := part (WalksClear data) fun _ _ both => both.1
    exact ⟨hits_iff.mpr walks, (apart_iff walks).mpr (part _ fun _ _ both => both.2)⟩

/-- A monster stands three cells from the entrance of the first town. -/
def ambushGame : GameData :=
  { huntGame with
    spawnConfig := fun roomId =>
      if roomId = .town1 then some ⟨[⟨⟨2, 5⟩, [⟨0, 0⟩], [⟨1, 1, 5, 5⟩]⟩]⟩ else none }

/-- The monster comes a cell nearer and rests; when its rest is over, the player shoots at it,
and the room takes two steps: the arrow flies to the cell between them, and the monster walks
there. -/
def walksIntoArrow : List Event :=
  [Event.connect 1, .packet 1 (.login [97])] ++ updateTown 1 ++
    [Event.clock 50, .update, .visitStatic, .endJobs, .step [], .endRoom, .visitStatic, .endJobs,
      .step [], .endRoom, .loopDungeons, .endUpdate,
      .packet 1 (.attack ⟨Dir.left, WeaponType.bow⟩), .clock 1050, .update, .visitStatic, .job [],
      .endJobs, .step [], .step []]

set_option maxRecDepth 20000 in
theorem arrow_passes_monster :
    ¬ (Runs.EachStep (World.step ambushGame) (MeetingsHit ambushGame)
          (World.init ambushGame newStore false []) walksIntoArrow ∧
        Runs.EveryState (World.step ambushGame) (fun w => w.scene.ArrowsApart)
          (World.init ambushGame newStore false []) walksIntoArrow) := by
  rintro ⟨-, every⟩
  have run : (Runs.run (World.step ambushGame) (World.init ambushGame newStore false [])
      walksIntoArrow).any (fun w => (w.scene.fields 0).projectiles.any fun a =>
        a.spawned && (w.scene.fields 0).monsters.any (·.info.cellPos = a.info.cellPos)) = true := by
    decide +kernel
  obtain ⟨w, reached, checked⟩ := (Option.any_eq_true _ _).mp run
  obtain ⟨a, flies, there⟩ := List.any_eq_true.mp checked
  obtain ⟨spawned, there⟩ := Bool.and_eq_true_iff.mp there
  obtain ⟨m, stands, same⟩ := List.any_eq_true.mp there
  exact Runs.everyState_final _ _ w walksIntoArrow every reached 0 a flies spawned m stands
    (of_decide_eq_true same)

end ZeldaServer
