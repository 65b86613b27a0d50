import Mathlib.Algebra.BigOperators.Group.List.Basic
import ZeldaServer.World.Numbers

/-! The calls of the combat code: what they hit, whom they kill, and what the kills are
worth. -/

namespace ZeldaServer

open Chains (Chain)

variable (data : GameData)

/-- The party that `DistributeExp` shares with. -/
def killerParty (routing : Routing) (killer : ObjectId) : Option Party :=
  if routing.parties.partyIdByPlayer killer = 0 then none
  else routing.parties.parties (routing.parties.partyIdByPlayer killer)

def nearbyMembers (routing : Routing) (r : RoomRef) (party : Party) : List ObjectId :=
  party.memberIds.filter (· ∈ playerIds routing r)

/-- The calls of `GainExp` that `DistributeExp` makes. -/
def grants (routing : Routing) (r : RoomRef) (killer : ObjectId) (m : Monster) :
    List (ObjectId × Int) :=
  match data.monsterTemplate m.templateId with
  | none => []
  | some templateData =>
      if templateData.exp ≤ 0 then []
      else
        match killerParty routing killer with
        | none => [(killer, templateData.exp)]
        | some party =>
            (nearbyMembers routing r party).map fun id =>
              (id, max 1 (templateData.exp / (nearbyMembers routing r party).length))

def bounty (routing : Routing) (r : RoomRef) (killer : ObjectId) (exp : Int) : Int :=
  match killerParty routing killer with
  | none => exp
  | some party =>
      (nearbyMembers routing r party).length *
        max 1 (exp / (nearbyMembers routing r party).length)

theorem distributeExp_grants (routing : Routing) (r : RoomRef) (killer : ObjectId) (m : Monster)
    (scene : Scene) :
    distributeExp data routing r killer m scene =
      (grants data routing r killer m).foldl
        (fun scene grant => actPlayer routing grant.1 (Player.gainExp data grant.2) scene) scene := by
  unfold distributeExp grants killerParty
  dsimp only
  cases data.monsterTemplate m.templateId with
  | none => rfl
  | some templateData =>
      dsimp only
      split
      · rfl
      · split
        · rfl
        · cases routing.parties.parties (routing.parties.partyIdByPlayer killer) with
          | none => rfl
          | some party =>
              dsimp only
              rw [List.foldl_map]
              rfl

theorem grants_sum (routing : Routing) (r : RoomRef) (killer : ObjectId) (m : Monster)
    (templateData : MonsterTemplateData)
    (template : data.monsterTemplate m.templateId = some templateData)
    (worth : 0 < templateData.exp) :
    ((grants data routing r killer m).map Prod.snd).sum =
      bounty routing r killer templateData.exp := by
  unfold grants bounty
  rw [template]
  dsimp only
  rw [if_neg (not_le.mpr worth)]
  cases killerParty routing killer with
  | none => simp
  | some party => simp [Function.comp_def]

/-- `DistributeExp` is a row of `GainExp` calls, whose amounts add up to what the monster is
worth. -/
def GrantsAddUp : Prop :=
  ∀ routing r killer m scene,
    distributeExp data routing r killer m scene =
        (grants data routing r killer m).foldl
          (fun scene grant => actPlayer routing grant.1 (Player.gainExp data grant.2) scene) scene ∧
      ∀ templateData, data.monsterTemplate m.templateId = some templateData →
        0 < templateData.exp →
          ((grants data routing r killer m).map Prod.snd).sum =
            bounty routing r killer templateData.exp

namespace Player

def progress (p : Player) : Int × Int := (p.level, p.exp)

/-- What `DistributeExp` and `ProcessMonsterDrop` change of a player: level, exp and inventory. -/
def earnings (p : Player) : (Int × Int) × Storage := (p.progress, p.storage)

end Player

def Scene.SameEarnings (a b : Scene) : Prop :=
  ∀ id, (b.players id).earnings = (a.players id).earnings

theorem setPlayer_same {View : Type} (view : Player → View) (scene : Scene) (id : ObjectId)
    (p : Player) (same : view p = view (scene.players id)) (other : ObjectId) :
    view ((scene.setPlayer id p).players other) = view (scene.players other) := by
  by_cases here : other = id
  · subst here
    simpa [Scene.setPlayer] using same
  · simp [Scene.setPlayer, here]

theorem actPlayer_sets (routing : Routing) (id : ObjectId)
    (method : Player → Player × List Emission) (scene : Scene) :
    (actPlayer routing id method scene).players =
      (scene.setPlayer id (method (scene.players id)).1).players :=
  (Scene.Quiet.emissions routing id _ _).players

namespace Scene.SameEarnings

variable {a b c : Scene}

theorem refl (scene : Scene) : scene.SameEarnings scene := fun _ => rfl

theorem trans (first : a.SameEarnings b) (second : b.SameEarnings c) : a.SameEarnings c :=
  fun id => (second id).trans (first id)

theorem of_players (same : b.players = a.players) : a.SameEarnings b := fun id => by rw [same]

theorem broadcast (routing : Routing) (r : RoomRef) (pkt : ServerPacket) (scene : Scene) :
    scene.SameEarnings (broadcast routing r pkt scene) :=
  of_players (Scene.SameObjects.broadcast routing r pkt scene).players

theorem hurtPlayer (scene : Scene) (id : ObjectId) (damage : Int) :
    scene.SameEarnings (scene.hurtPlayer id damage) :=
  setPlayer_same Player.earnings scene id _ rfl

theorem foldl {Item : Type} (f : Scene → Item → Scene)
    (step : ∀ (scene : Scene) item, scene.SameEarnings (f scene item)) (items : List Item)
    (scene : Scene) : scene.SameEarnings (items.foldl f scene) := by
  induction items generalizing scene with
  | nil => exact refl scene
  | cons head tail ih => exact (step scene head).trans (ih _)

end Scene.SameEarnings

/-- Some monsters of room `r` are gone, the others and the other rooms' are still there, and
nobody who stays is without hp. -/
structure Scene.Fells (r : RoomRef) (a : Scene) (dead : List Monster) (b : Scene) : Prop where
  ids : ((a.fields r).monsters.map (·.info.objectId)).Perm
    (dead.map (·.info.objectId) ++ (b.fields r).monsters.map (·.info.objectId))
  alive : (∀ m ∈ (a.fields r).monsters, 1 ≤ m.info.hp) → ∀ m ∈ (b.fields r).monsters, 1 ≤ m.info.hp
  others : ∀ r', r' ≠ r → (b.fields r').monsters = (a.fields r').monsters

namespace Scene.Fells

variable {r : RoomRef} {a b c : Scene}

theorem of_monsters (same : ∀ r', (b.fields r').monsters = (a.fields r').monsters) :
    a.Fells r [] b where
  ids := by
    rw [same]
    exact .refl _
  alive := by
    rw [same]
    exact fun alive => alive
  others := fun r' _ => same r'

theorem refl (a : Scene) : a.Fells r [] a := of_monsters fun _ => rfl

theorem trans {first second : List Monster} (before : a.Fells r first b)
    (after : b.Fells r second c) : a.Fells r (first ++ second) c where
  ids := by
    rw [List.map_append, List.append_assoc]
    exact before.ids.trans (after.ids.append_left _)
  alive := fun start => after.alive (before.alive start)
  others := fun r' other => (after.others r' other).trans (before.others r' other)

theorem quiet (same : a.Quiet b) : a.Fells r [] b := of_monsters fun r' => by rw [same.fields]

theorem followed {dead : List Monster} (first : a.Fells r [] b) (rest : b.Fells r dead c) :
    a.Fells r dead c := first.trans rest

theorem setMonster (scene : Scene) (m : Monster) (alive : 1 ≤ m.info.hp) :
    scene.Fells r [] (scene.setMonster r m) where
  ids := by
    rw [setMonster_ids]
    exact .refl _
  alive := by
    intro start m' listed
    simp only [Scene.setMonster, Scene.setField, Function.update_self, List.mem_map] at listed
    obtain ⟨old, member, rfl⟩ := listed
    split
    · exact alive
    · exact start old member
  others := fun r' other => by rw [setMonster_others scene r r' m other]

theorem foldl {Item : Type} (f : Scene → Item → Scene)
    (step : ∀ (scene : Scene) item, (∀ m ∈ (scene.fields r).monsters, 1 ≤ m.info.hp) →
      scene.Fells r [] (f scene item)) (items : List Item) (scene : Scene)
    (alive : ∀ m ∈ (scene.fields r).monsters, 1 ≤ m.info.hp) :
    scene.Fells r [] (items.foldl f scene) := by
  induction items generalizing scene with
  | nil => exact refl scene
  | cons head tail ih =>
      have first := step scene head alive
      exact first.followed (ih (f scene head) (first.alive alive))

end Scene.Fells

section Updates

variable (routing : Routing) (r : RoomRef)

namespace Scene.Fells

theorem monsterGo (m : Monster) (nextPos : Vec2Int) (waitUntil : Nat) (scene : Scene)
    (alive : 1 ≤ m.info.hp) : scene.Fells r [] (monsterGo routing r m nextPos waitUntil scene) :=
  (setMonster scene
    { m with
      info :=
        { ({ m.info with dir := m.info.lookAtDir nextPos } : ObjectInfo).setCellPos nextPos with
          state := .move }
      waitUntil } alive).followed (quiet (.broadcast routing r _ _))

theorem monsterGoHome (m : Monster) (scene : Scene) (alive : 1 ≤ m.info.hp) :
    scene.Fells r [] (monsterGoHome routing r m scene) := by
  have first := setMonster (r := r) scene m alive
  unfold ZeldaServer.monsterGoHome
  dsimp only
  split
  · split
    · exact first.followed (monsterGo routing r m _ _ _ alive)
    · exact first
  · exact first

theorem monsterChase (m : Monster) (target : ObjectId) (scene : Scene) (alive : 1 ≤ m.info.hp) :
    scene.Fells r [] (monsterChase routing r m target scene) := by
  have first := setMonster (r := r) scene m alive
  unfold ZeldaServer.monsterChase
  dsimp only
  split
  · split
    · exact first.followed (setMonster _ { m with target := none } alive)
    · split
      · exact first.followed (monsterGo routing r m _ _ _ alive)
      · exact first
  · exact first

theorem monsterAttack (m : Monster) (target : ObjectId) (scene : Scene) (alive : 1 ≤ m.info.hp) :
    scene.Fells r [] (monsterAttack routing r m target scene) := by
  unfold ZeldaServer.monsterAttack
  dsimp only
  refine followed ?_ (quiet (.broadcast routing r _ _))
  refine followed (b := ZeldaServer.broadcast routing r _ (scene.setMonster r _)) ?_
    (of_monsters fun _ => rfl)
  have turned : scene.Fells r [] (scene.setMonster r
      { m with
        info :=
          { m.info with
            dir := m.info.lookAtDir (scene.players target).info.cellPos
            state := .skill }
        waitUntil := scene.now + 1000 }) := setMonster scene _ alive
  exact turned.followed (quiet (.broadcast routing r _ _))

theorem monsterUpdateIdle (m : Monster) (scene : Scene) (alive : 1 ≤ m.info.hp) :
    scene.Fells r [] (monsterUpdateIdle routing r m scene) := by
  unfold ZeldaServer.monsterUpdateIdle
  dsimp only
  generalize housed : (if m.homePos = ⟨-1, -1⟩ then { m with homePos := m.info.cellPos } else m) = m'
  have alive : 1 ≤ m'.info.hp := by
    rw [← housed]
    split <;> exact alive
  split
  · exact monsterGoHome routing r { m' with target := none } scene alive
  · split
    · split
      · exact monsterGoHome routing r m' scene alive
      · exact setMonster scene m' alive
    · rename_i target _
      split
      · split
        · exact monsterGoHome routing r { m' with target := none } scene alive
        · exact setMonster scene { m' with target := none } alive
      · split
        · exact monsterAttack routing r { m' with target := some target } target scene alive
        · exact monsterChase routing r { m' with target := some target } target scene alive

theorem monsterUpdate (scene : Scene) (id : ObjectId)
    (alive : ∀ m ∈ (scene.fields r).monsters, 1 ≤ m.info.hp) :
    scene.Fells r [] (monsterUpdate routing r scene id) := by
  unfold ZeldaServer.monsterUpdate
  cases found : (scene.fields r).monster id with
  | none => exact refl scene
  | some m =>
      have lives := alive m (List.mem_of_find?_eq_some found)
      have rests : scene.Fells r [] (monsterRest r m scene) := by
        unfold monsterRest
        split
        · exact refl scene
        · exact setMonster scene { m with info := { m.info with state := .idle } } lives
      dsimp only
      cases m.info.state with
      | idle => exact monsterUpdateIdle routing r m scene lives
      | move => exact rests
      | skill => exact rests

theorem stepMonsters (scene : Scene) (alive : ∀ m ∈ (scene.fields r).monsters, 1 ≤ m.info.hp) :
    scene.Fells r [] (stepMonsters routing r (stepPlayers routing r scene)) := by
  have played : scene.Fells r [] (stepPlayers routing r scene) := by
    apply foldl _ _ _ _ alive
    exact fun scene id _ => of_monsters fun r' => by rw [actPlayer_fields]
  exact played.followed (foldl _ (monsterUpdate routing r) _ _ (played.alive alive))

end Scene.Fells

end Updates

section Fights

variable (routing : Routing) (r : RoomRef)

/-- `OnDamaged` of one monster of the room; or something else happens, and no monster is
touched. -/
inductive Scene.Hit (a : Scene) : List Monster → Scene → Prop where
  | monster (attackerId : ObjectId) (damage : Int) (m : Monster)
      (member : m ∈ (a.fields r).monsters) (hurts : 1 ≤ damage) :
      Hit a [m.damaged damage] (hitMonster routing r attackerId damage m a).2
  | aside (b : Scene) (monsters : ∀ r', (b.fields r').monsters = (a.fields r').monsters)
      (earned : a.SameEarnings b) : Hit a [] b

abbrev Scene.Hits : Scene → List Monster → Scene → Prop := Chain (Scene.Hit routing r)

def killAll (killer : ObjectId) (dead : List Monster) (scene : Scene) : Scene :=
  dead.foldl (fun scene m => killMonster data routing r killer m scene) scene

theorem killMonster_fells (killer : ObjectId) (m : Monster) (scene : Scene)
    (member : m ∈ (scene.fields r).monsters) (distinct : (scene.fields r).Distinct) :
    (∀ m' ∈ ((killMonster data routing r killer m scene).fields r).monsters,
        m' ∈ (scene.fields r).monsters ∧ m'.info.objectId ≠ m.info.objectId) ∧
      ((scene.fields r).monsters.map (·.info.objectId)).Perm
        (m.info.objectId ::
          ((killMonster data routing r killer m scene).fields r).monsters.map (·.info.objectId)) ∧
      ∀ r', r' ≠ r → ((killMonster data routing r killer m scene).fields r').monsters =
        (scene.fields r').monsters := by
  have left := killMonster_monsters data routing r killer m scene
  have chain := Scene.Deeds.killMonster data routing r killer m scene member
  refine ⟨?_, ?_, ?_⟩
  · intro m' found
    rw [left, List.mem_filter] at found
    exact ⟨found.1, of_decide_eq_true found.2⟩
  · rw [left]
    exact (filter_others_perm _ m member distinct).map (·.info.objectId)
  · intro r' other
    rw [deeds_others routing r r' other chain]

theorem killAll_fells (killer : ObjectId) (dead : List Monster) (scene : Scene)
    (members : ∀ m ∈ dead, m ∈ (scene.fields r).monsters) (distinct : (scene.fields r).Distinct)
    (apart : (dead.map (·.info.objectId)).Nodup) :
    (∀ m' ∈ ((killAll data routing r killer dead scene).fields r).monsters,
        m' ∈ (scene.fields r).monsters ∧ m' ∉ dead) ∧
      ((scene.fields r).monsters.map (·.info.objectId)).Perm
        (dead.map (·.info.objectId) ++
          ((killAll data routing r killer dead scene).fields r).monsters.map (·.info.objectId)) ∧
      ∀ r', r' ≠ r → ((killAll data routing r killer dead scene).fields r').monsters =
        (scene.fields r').monsters := by
  induction dead generalizing scene with
  | nil => exact ⟨fun m' found => ⟨found, List.not_mem_nil⟩, .refl _, fun _ _ => rfl⟩
  | cons head tail ih =>
      rw [List.map_cons, List.nodup_cons] at apart
      have first := members head List.mem_cons_self
      obtain ⟨left, ids, others⟩ :=
        killMonster_fells data routing r killer head scene first distinct
      have monsters := killMonster_monsters data routing r killer head scene
      have distinct' : ((killMonster data routing r killer head scene).fields r).Distinct := by
        have all : (head.info.objectId ::
            ((killMonster data routing r killer head scene).fields r).monsters.map
              (·.info.objectId)).Nodup := ids.nodup_iff.mp distinct
        exact (List.nodup_cons.mp all).2
      have still : ∀ m ∈ tail,
          m ∈ ((killMonster data routing r killer head scene).fields r).monsters := by
        intro m later
        rw [monsters, List.mem_filter]
        refine ⟨members m (List.mem_cons_of_mem _ later), decide_eq_true ?_⟩
        intro same
        exact apart.1 (same ▸ List.mem_map_of_mem later)
      obtain ⟨left', ids', others'⟩ := ih _ still distinct' apart.2
      refine ⟨?_, ?_, fun r' other => (others' r' other).trans (others r' other)⟩
      · intro m' found
        obtain ⟨before, alive⟩ := left' m' found
        obtain ⟨start, other⟩ := left m' before
        refine ⟨start, fun listed => ?_⟩
        rcases List.mem_cons.mp listed with rfl | later
        · exact other rfl
        · exact alive later
      · exact ids.trans (ids'.cons head.info.objectId)

theorem removeProjectile_monsters (r' : RoomRef) (id : ObjectId) (scene : Scene) :
    ((removeProjectile routing r id scene).fields r').monsters = (scene.fields r').monsters := by
  unfold removeProjectile
  dsimp only
  rw [(Scene.SameObjects.broadcast routing r _ _).fields]
  rcases setField_cases scene r r'
    { scene.fields r with
      projectiles := (scene.fields r).projectiles.filter (·.info.objectId ≠ id) } with
    ⟨rfl, here⟩ | away
  · rw [here]
  · rw [away]

theorem setProjectile_monsters (r' : RoomRef) (a : Arrow) (scene : Scene) :
    ((scene.setProjectile r a).fields r').monsters = (scene.fields r').monsters := by
  unfold Scene.setProjectile
  dsimp only
  rcases setField_cases scene r r'
    { scene.fields r with
      projectiles := (scene.fields r).projectiles.map fun old =>
        if old.info.objectId = a.info.objectId then a else old } with ⟨rfl, here⟩ | away
  · rw [here]
  · rw [away]

/-- A call of the combat code in a room: the scene it finds, the monsters it passes to
`DistributeExp` and `ProcessMonsterDrop` for the killer, and the scene it leaves. -/
structure Call where
  routing : Routing
  room : RoomRef
  killer : ObjectId
  before : Scene
  dead : List Monster
  after : Scene

/-- The call hits monsters that have hp, and then rewards and removes those whose hp it
brought to 0, each of them once; whoever is left has hp. An arrow goes with its target. -/
structure Call.Settled (call : Call) : Prop where
  alive : ∀ m ∈ (call.before.fields call.room).monsters, 1 ≤ m.info.hp
  kills : ∃ struck hit, call.before.Hits call.routing call.room struck hit ∧
    call.dead = struck.filter (·.info.hp = 0) ∧
    (∀ m ∈ call.dead, m ∈ (hit.fields call.room).monsters) ∧
    (call.after = killAll data call.routing call.room call.killer call.dead hit ∨
      ∃ arrow, call.after = removeProjectile call.routing call.room arrow
        (killAll data call.routing call.room call.killer call.dead hit))
  once : (call.dead.map (·.info.objectId)).Nodup
  gone : call.before.Fells call.room call.dead call.after

theorem settled_of_hits (killer : ObjectId) (before hit : Scene) (struck dead : List Monster)
    (finish : Scene → Scene)
    (finishes : finish = id ∨ ∃ arrow, finish = removeProjectile routing r arrow)
    (alive : ∀ m ∈ (before.fields r).monsters, 1 ≤ m.info.hp)
    (hits : before.Hits routing r struck hit) (died : dead = struck.filter (·.info.hp = 0))
    (ids : (hit.fields r).monsters.map (·.info.objectId) =
      (before.fields r).monsters.map (·.info.objectId))
    (distinct : (before.fields r).Distinct)
    (others : ∀ r', r' ≠ r → (hit.fields r').monsters = (before.fields r').monsters)
    (members : ∀ m ∈ dead, m ∈ (hit.fields r).monsters)
    (apart : (dead.map (·.info.objectId)).Nodup)
    (survivors : ∀ m ∈ (hit.fields r).monsters, 1 ≤ m.info.hp ∨ m ∈ dead) :
    (Call.mk routing r killer before dead
      (finish (killAll data routing r killer dead hit))).Settled data := by
  have distinct' : (hit.fields r).Distinct := by
    unfold Field.Distinct
    rw [ids]
    exact distinct
  obtain ⟨left, perm, rest⟩ := killAll_fells data routing r killer dead hit members distinct' apart
  have ended : ∀ r', ((finish (killAll data routing r killer dead hit)).fields r').monsters =
      ((killAll data routing r killer dead hit).fields r').monsters := by
    intro r'
    rcases finishes with rfl | ⟨arrow, rfl⟩
    · rfl
    · exact removeProjectile_monsters routing r r' arrow _
  constructor
  case alive => exact alive
  case kills =>
    refine ⟨struck, hit, hits, died, members, ?_⟩
    rcases finishes with rfl | ⟨arrow, rfl⟩
    · exact .inl rfl
    · exact .inr ⟨arrow, rfl⟩
  case once => exact apart
  case gone =>
    constructor
    case ids =>
      dsimp only
      rw [ended r, ← ids]
      exact perm
    case alive =>
      intro _ m found
      dsimp only at found
      rw [ended r] at found
      obtain ⟨member, apart'⟩ := left m found
      exact (survivors m member).resolve_right apart'
    case others =>
      intro r' other
      dsimp only
      rw [ended r', rest r' other, others r' other]

theorem settled_of_none (killer : ObjectId) (before after : Scene)
    (alive : ∀ m ∈ (before.fields r).monsters, 1 ≤ m.info.hp)
    (distinct : (before.fields r).Distinct)
    (same : ∀ r', (after.fields r').monsters = (before.fields r').monsters)
    (earned : before.SameEarnings after) :
    (Call.mk routing r killer before [] after).Settled data := by
  apply settled_of_hits data routing r killer before after [] [] id (.inl rfl) alive
    (Chain.single (.aside after same earned)) rfl
  · rw [same]
  · exact distinct
  · exact fun r' _ => same r'
  · exact fun _ none => absurd none List.not_mem_nil
  · exact .nil
  · intro m member
    rw [same] at member
    exact .inl (alive m member)

theorem killAll_filter (killer : ObjectId) (m : Monster) (scene : Scene) :
    killAll data routing r killer ([m].filter (·.info.hp = 0)) scene =
      if m.info.hp = 0 then killMonster data routing r killer m scene else scene := by
  rw [List.filter_singleton]
  by_cases died : m.info.hp = 0
  · rw [if_pos died, decide_eq_true died]
    rfl
  · rw [if_neg died, decide_eq_false died]
    rfl

theorem settled_of_hit (killer : ObjectId) (before start : Scene) (attackerId : ObjectId)
    (damage : Int) (target : Monster) (finish : Scene → Scene)
    (finishes : finish = id ∨ ∃ arrow, finish = removeProjectile routing r arrow)
    (alive : ∀ m ∈ (before.fields r).monsters, 1 ≤ m.info.hp)
    (distinct : (before.fields r).Distinct)
    (same : ∀ r', (start.fields r').monsters = (before.fields r').monsters)
    (earned : before.SameEarnings start)
    (member : target ∈ (start.fields r).monsters) (hurts : 1 ≤ damage) :
    (Call.mk routing r killer before ([target.damaged damage].filter (·.info.hp = 0))
      (finish (killAll data routing r killer ([target.damaged damage].filter (·.info.hp = 0))
        (hitMonster routing r attackerId damage target start).2))).Settled data := by
  have fields := hitMonster_fields routing r attackerId damage target start
  have named : (target.damaged damage).info.objectId = target.info.objectId :=
    (onDamaged_keeps target.info damage).1
  have listed : (target.damaged damage).info.objectId ∈
      (start.fields r).monsters.map (·.info.objectId) :=
    List.mem_map.mpr ⟨target, member, named.symm⟩
  have hits : before.Hits routing r ([] ++ [target.damaged damage])
      (hitMonster routing r attackerId damage target start).2 :=
    (Chain.single (.aside start same earned)).append
      (Chain.single (.monster attackerId damage target member hurts))
  apply settled_of_hits data routing r killer before _ _ _ finish finishes alive hits rfl
  case ids => rw [fields, setMonster_ids, same]
  case distinct => exact distinct
  case others =>
    intro r' other
    rw [fields, setMonster_others start r r' _ other, same]
  case members =>
    intro m died
    rw [List.mem_singleton.mp (List.mem_filter.mp died).1]
    exact (Scene.Deeds.hitMonster routing r attackerId damage target start member).2
  case apart => exact List.Nodup.sublist (List.Sublist.map _ List.filter_sublist) (List.nodup_singleton _)
  case survivors =>
    intro m found
    rw [fields, mem_setMonster_iff r _ m start listed] at found
    rcases found with rfl | ⟨old, -⟩
    · rcases onDamaged_hp target.info damage hurts with zero | positive
      · exact .inr (List.mem_filter.mpr ⟨List.mem_singleton.mpr rfl, decide_eq_true zero⟩)
      · exact .inl positive
    · rw [same] at old
      exact .inl (alive m old)

def swordDead (attacker : ObjectId) (scene : Scene) : List Monster :=
  let info := (scene.players attacker).info
  match gameObjectAt routing scene r info.frontCellPos with
  | some (.monster target) =>
      [target.damaged (max 1 (info.attack - target.info.defence))].filter (·.info.hp = 0)
  | _ => []

theorem gameObjectAt_monster (scene : Scene) (pos : Vec2Int) (m : Monster)
    (found : gameObjectAt routing scene r pos = some (.monster m)) :
    m ∈ (scene.fields r).monsters := by
  unfold gameObjectAt at found
  cases creature : creatureAt routing scene r pos with
  | none =>
      rw [creature] at found
      obtain ⟨a, -, same⟩ := Option.map_eq_some_iff.mp found
      cases same
  | some object =>
      rw [creature] at found
      cases found
      rcases creatureAt_some _ _ _ _ _ creature with ⟨id, -, same⟩ | ⟨m', member, same⟩
      · cases same
      · cases same
        exact member

theorem sword_settled (w : World) (attacker : ObjectId)
    (alive : ∀ m ∈ (w.scene.fields r).monsters, 1 ≤ m.info.hp)
    (distinct : (w.scene.fields r).Distinct) :
    (Call.mk w.routing r attacker w.scene (swordDead w.routing r attacker w.scene)
      (handleSwordAttack data w r attacker).scene).Settled data := by
  unfold handleSwordAttack swordDead
  dsimp only
  cases front : gameObjectAt w.routing w.scene r (w.scene.players attacker).info.frontCellPos with
  | none =>
      exact settled_of_none data w.routing r attacker _ _ alive distinct (fun _ => rfl) (.refl _)
  | some object =>
      cases object with
      | projectile =>
          exact settled_of_none data w.routing r attacker _ _ alive distinct (fun _ => rfl)
            (.refl _)
      | player target =>
          apply settled_of_none data w.routing r attacker _ _ alive distinct
          · intro r'
            dsimp only
            split
            · apply (congrArg Field.monsters (congrFun (Scene.SameObjects.broadcast _ r _ _).fields
                r')).trans
              exact congrArg Field.monsters (congrFun (Scene.SameObjects.broadcast _ r _ _).fields r')
            · exact congrArg Field.monsters (congrFun (Scene.SameObjects.broadcast _ r _ _).fields r')
          · have hurt := Scene.SameEarnings.hurtPlayer w.scene target
              (max 1 ((w.scene.players attacker).info.attack -
                (w.scene.players target).info.defence))
            dsimp only
            split
            · exact (hurt.trans (.broadcast w.routing r _ _)).trans (.broadcast _ r _ _)
            · exact hurt.trans (.broadcast w.routing r _ _)
      | monster target =>
          have member := gameObjectAt_monster w.routing r w.scene _ target front
          have settled := settled_of_hit data w.routing r attacker w.scene w.scene
            (w.scene.players attacker).info.objectId
            (max 1 ((w.scene.players attacker).info.attack - target.info.defence)) target id (.inl rfl)
            alive distinct (fun _ => rfl) (.refl _) member (le_max_left ..)
          rw [killAll_filter] at settled
          exact settled

theorem staffCells_hits (attacker : ObjectInfo) (cells : List Vec2Int) (dead : List Monster)
    (scene : Scene) :
    ∃ struck, scene.Hits routing r struck (cells.foldl (staffCell routing r attacker) (dead, scene)).2 ∧
      (cells.foldl (staffCell routing r attacker) (dead, scene)).1 =
        dead ++ struck.filter (·.info.hp = 0) := by
  induction cells generalizing dead scene with
  | nil => exact ⟨[], .done scene, (List.append_nil dead).symm⟩
  | cons cell cells ih =>
      rw [List.foldl_cons]
      cases seen : monsterAt scene r cell with
      | none =>
          have same : staffCell routing r attacker (dead, scene) cell = (dead, scene) := by
            rw [staffCell, seen]
          rw [same]
          exact ih dead scene
      | some target =>
          rw [staffCell_eq routing r attacker (dead, scene) cell target seen]
          dsimp only
          have member : target ∈ (scene.fields r).monsters := List.mem_of_find?_eq_some seen
          have now : scene.Hits routing r _ _ := Chain.single (.monster attacker.objectId
            (max 1 ((attacker.attack - target.info.defence).tdiv 2)) target member (le_max_left ..))
          rw [hitMonster_fst]
          obtain ⟨struck, later, died⟩ := ih _ (hitMonster routing r attacker.objectId
            (max 1 ((attacker.attack - target.info.defence).tdiv 2)) target scene).2
          refine ⟨_, now.append later, died.trans ?_⟩
          rw [List.singleton_append, List.filter_cons]
          by_cases zero : (target.damaged
              (max 1 ((attacker.attack - target.info.defence).tdiv 2))).info.hp = 0
          · rw [if_pos zero, if_pos (decide_eq_true zero), List.append_assoc]
            rfl
          · rw [if_neg zero, if_neg (by simpa using zero)]

theorem hits_ids {before hit : Scene} {struck : List Monster}
    (hits : before.Hits routing r struck hit) :
    (hit.fields r).monsters.map (·.info.objectId) =
      (before.fields r).monsters.map (·.info.objectId) := by
  apply hits.relates (fun before _ hit => (hit.fields r).monsters.map (·.info.objectId) =
    (before.fields r).monsters.map (·.info.objectId))
  · exact fun _ => rfl
  · intro before middle hit first rest now later
    refine later.trans ?_
    cases now with
    | monster attackerId damage m member hurts => rw [hitMonster_fields, setMonster_ids]
    | aside b monsters earned => rw [monsters]

theorem staff_settled (attacker : ObjectId) (pkt : CAttack) (scene : Scene)
    (alive : ∀ m ∈ (scene.fields r).monsters, 1 ≤ m.info.hp)
    (distinct : (scene.fields r).Distinct) :
    (Call.mk routing r attacker scene (staffHits routing r attacker pkt scene).1
      (handleStaffAttack data routing r attacker pkt scene)).Settled data := by
  have spec := staffHits_spec routing r attacker pkt scene distinct
  obtain ⟨struck, hits, died⟩ : ∃ struck,
      scene.Hits routing r struck (staffHits routing r attacker pkt scene).2 ∧
        (staffHits routing r attacker pkt scene).1 = struck.filter (·.info.hp = 0) :=
    staffCells_hits routing r (scene.players attacker).info
      (staffCells ((scene.players attacker).info.cellPos + staffForward pkt.dir)) [] scene
  have kept : ((staffHits routing r attacker pkt scene).2.fields r).monsters.map
        (·.info.objectId) = (scene.fields r).monsters.map (·.info.objectId) ∧
      ∀ r', r' ≠ r → ((staffHits routing r attacker pkt scene).2.fields r').monsters =
        (scene.fields r').monsters := by
    refine ⟨hits_ids routing r hits, fun r' other => ?_⟩
    rw [deeds_others routing r r' other spec.deeds]
  rw [handleStaffAttack_eq]
  generalize staffHits routing r attacker pkt scene = now at spec hits died kept ⊢
  apply settled_of_hits data routing r attacker scene now.2 struck now.1 id (.inl rfl) alive hits
    died kept.1 distinct kept.2
  · exact fun m was => (spec.dead m was).1
  · exact List.pairwise_map.mpr spec.apart
  · intro m found
    rcases spec.others m found with before | positive | was
    · exact .inl (alive m before)
    · exact .inl positive
    · exact .inr was

/-- The arrow, started at its first update, and the monster it meets in this one. -/
def arrowMeets (scene : Scene) (id : ObjectId) : Option (Arrow × Monster) :=
  ((scene.fields r).projectile id).bind fun fired =>
    let a := arrowStart scene.now fired
    let scene := scene.setProjectile r a
    if (!fired.spawned && isBlockedByWall scene r a.info.cellPos) || a.expireTick ≤ scene.now ||
        a.info.state ≠ .idle || scene.now < a.waitUntil then none
    else
      (deltaXY a.info.dir).bind fun delta =>
        if isBlockedByWall scene r (a.info.cellPos + delta) then none
        else (monsterAt scene r (a.info.cellPos + delta)).map fun target => (a, target)

/-- The monster that the update of an arrow kills: its owner has to be in the room. -/
def arrowDead (scene : Scene) (id : ObjectId) : List Monster :=
  match arrowMeets r scene id with
  | none => []
  | some (a, target) =>
      if a.ownerId ∈ playerIds routing r then
        [target.damaged
          (max 1 ((scene.players a.ownerId).info.attack - target.info.defence))].filter
            (·.info.hp = 0)
      else []

def arrowOwner (scene : Scene) (id : ObjectId) : ObjectId :=
  (((scene.fields r).projectile id).map (·.ownerId)).getD 0

theorem arrowMeets_some (scene : Scene) (id : ObjectId) (a : Arrow) (target : Monster)
    (meets : arrowMeets r scene id = some (a, target)) :
    a.ownerId = arrowOwner r scene id ∧ target ∈ ((scene.setProjectile r a).fields r).monsters ∧
      (∃ fired ∈ (scene.fields r).projectiles,
        a.info.objectId = fired.info.objectId ∧ a.ownerId = fired.ownerId) ∧
      arrowUpdate data routing r scene id =
        arrowHit data routing r a target (scene.setProjectile r a) := by
  unfold arrowMeets at meets
  unfold arrowOwner arrowUpdate
  cases found : (scene.fields r).projectile id with
  | none =>
      rw [found] at meets
      cases meets
  | some fired =>
      have started : (arrowStart scene.now fired).info.objectId = fired.info.objectId ∧
          (arrowStart scene.now fired).ownerId = fired.ownerId := by
        unfold arrowStart
        split <;> exact ⟨rfl, rfl⟩
      rw [found] at meets
      simp only [Option.bind_some] at meets
      split at meets
      case isTrue => cases meets
      case isFalse flies =>
        simp only [Bool.or_eq_true, not_or, decide_eq_true_eq, not_not] at flies
        obtain ⟨⟨⟨clear, fresh⟩, idle⟩, ready⟩ := flies
        cases delta : deltaXY (arrowStart scene.now fired).info.dir with
        | none => simp [delta] at meets
        | some step =>
            simp only [delta, Option.bind_some] at meets
            split at meets
            case isTrue => cases meets
            case isFalse ahead =>
              obtain ⟨m, met, same⟩ := Option.map_eq_some_iff.mp meets
              cases same
              refine ⟨started.2, List.mem_of_find?_eq_some met,
                ⟨fired, List.mem_of_find?_eq_some found, started⟩, ?_⟩
              dsimp only
              rw [if_neg clear, if_neg fresh, idle]
              dsimp only
              unfold arrowUpdateIdle
              rw [if_neg ready, delta]
              dsimp only
              rw [if_neg ahead, met]

structure Scene.SameCreatures (a b : Scene) : Prop where
  players : b.players = a.players
  monsters : ∀ r', (b.fields r').monsters = (a.fields r').monsters

namespace Scene.SameCreatures

theorem refl (scene : Scene) : scene.SameCreatures scene := ⟨rfl, fun _ => rfl⟩

theorem broadcast (pkt : ServerPacket) {a b : Scene} (same : a.SameCreatures b) :
    a.SameCreatures (broadcast routing r pkt b) where
  players := (Scene.SameObjects.broadcast routing r pkt b).players.trans same.players
  monsters := fun r' => by
    rw [(Scene.SameObjects.broadcast routing r pkt b).fields]
    exact same.monsters r'

theorem setProjectile (arrow : Arrow) {a b : Scene} (same : a.SameCreatures b) :
    a.SameCreatures (b.setProjectile r arrow) :=
  ⟨same.players, fun r' => (setProjectile_monsters r r' arrow b).trans (same.monsters r')⟩

theorem removeProjectile (id : ObjectId) {a b : Scene} (same : a.SameCreatures b) :
    a.SameCreatures (removeProjectile routing r id b) where
  players := (Scene.SameObjects.broadcast routing r _ _).players.trans same.players
  monsters := fun r' => (removeProjectile_monsters routing r r' id b).trans (same.monsters r')

end Scene.SameCreatures

theorem arrowMeets_none (scene : Scene) (id : ObjectId) (alone : arrowMeets r scene id = none) :
    scene.SameCreatures (arrowUpdate data routing r scene id) := by
  unfold arrowMeets at alone
  unfold arrowUpdate
  cases found : (scene.fields r).projectile id with
  | none => exact .refl scene
  | some fired =>
      rw [found] at alone
      simp only [Option.bind_some] at alone
      dsimp only
      generalize arrowStart scene.now fired = a at alone
      have start := (Scene.SameCreatures.refl scene).setProjectile r a
      split
      case isTrue => exact start.removeProjectile routing r _
      case isFalse clear =>
        split
        case isTrue => exact start.removeProjectile routing r _
        case isFalse fresh =>
          cases state : a.info.state with
          | move =>
              dsimp only
              unfold arrowUpdateMove
              split
              · exact start
              · exact ((start.setProjectile r _).broadcast routing r _).broadcast routing r _
          | skill => exact (start.setProjectile r _).broadcast routing r _
          | idle =>
              dsimp only
              unfold arrowUpdateIdle
              split
              case isTrue => exact start
              case isFalse ready =>
                rw [if_neg (by simp [clear, fresh, state, ready])] at alone
                cases delta : deltaXY a.info.dir with
                | none => exact ⟨start.players, start.monsters⟩
                | some step =>
                    simp only [delta, Option.bind_some] at alone
                    dsimp only
                    split
                    case isTrue => exact start.removeProjectile routing r _
                    case isFalse ahead =>
                      rw [if_neg ahead] at alone
                      rw [Option.map_eq_none_iff.mp alone]
                      exact (((start.setProjectile r _).broadcast routing r _).broadcast routing r
                        _).broadcast routing r _

theorem findObject_player (scene : Scene) (idGen : ObjectId) (taken : ObjectId → Prop)
    (numbered : scene.Numbered idGen taken) (owner : ObjectId) (is_taken : taken owner) :
    findObject routing scene r owner =
      if owner ∈ playerIds routing r then some (.player owner) else none := by
  have no_monster : (scene.fields r).monster owner = none := by
    apply List.find?_eq_none.mpr
    intro m member named
    exact (numbered.monsters r m member).2 (of_decide_eq_true named ▸ is_taken)
  have no_arrow : (scene.fields r).projectile owner = none := by
    apply List.find?_eq_none.mpr
    intro a member named
    exact (numbered.arrows r a member).2.1 (of_decide_eq_true named ▸ is_taken)
  unfold findObject
  rw [no_monster, no_arrow]
  rfl

theorem arrow_settled (scene : Scene) (id idGen : ObjectId) (taken : ObjectId → Prop)
    (numbered : scene.Numbered idGen taken)
    (alive : ∀ m ∈ (scene.fields r).monsters, 1 ≤ m.info.hp) :
    (Call.mk routing r (arrowOwner r scene id) scene (arrowDead routing r scene id)
      (arrowUpdate data routing r scene id)).Settled data := by
  have distinct := numbered.distinct r
  unfold arrowDead
  cases meets : arrowMeets r scene id with
  | none =>
      have same := arrowMeets_none data routing r scene id meets
      exact settled_of_none data routing r _ scene _ alive distinct same.monsters
        (.of_players same.players)
  | some met =>
      obtain ⟨a, target⟩ := met
      obtain ⟨owner, member, ⟨fired, flies, named, owned⟩, result⟩ :=
        arrowMeets_some data routing r scene id a target meets
      have started : (scene.setProjectile r a).Numbered idGen taken :=
        numbered.deeds routing r (.setProjectile routing r a fired scene flies ⟨named, owned⟩)
      have is_taken : taken a.ownerId := owned ▸ (numbered.arrows r fired flies).2.2
      have monsters (r' : RoomRef) := setProjectile_monsters r r' a scene
      rw [result]
      unfold arrowHit
      rw [findObject_player routing r _ idGen taken started _ is_taken]
      dsimp only
      by_cases present : a.ownerId ∈ playerIds routing r
      · rw [if_pos present, if_pos present, ← owner]
        have settled := settled_of_hit data routing r a.ownerId scene (scene.setProjectile r a)
          (((scene.setProjectile r a).players a.ownerId).info.objectId)
          (max 1 ((scene.players a.ownerId).info.attack - target.info.defence)) target
          (removeProjectile routing r a.info.objectId) (.inr ⟨_, rfl⟩) alive distinct monsters
          (.of_players rfl) member
          (le_max_left ..)
        rw [killAll_filter] at settled
        exact settled
      · rw [if_neg present, if_neg present]
        apply settled_of_none data routing r _ scene _ alive distinct
        · intro r'
          rw [removeProjectile_monsters, monsters]
        · exact .of_players (((Scene.SameCreatures.refl scene).setProjectile r a).removeProjectile
            routing r _).players

def attackCalls (w : World) (s : SessionId) (pkt : CAttack) : List Call :=
  match lockPlayer w.routing w.scene [] s with
  | none => []
  | some attacker =>
      let id := (w.scene.players attacker).info.objectId
      let w := w.onScene (broadcast w.routing r (.attack id pkt.dir pkt.weaponType))
      if pkt.weaponType = WeaponType.sword then
        [⟨w.routing, r, attacker, w.scene, swordDead w.routing r attacker w.scene,
          (handleSwordAttack data w r attacker).scene⟩]
      else if pkt.weaponType = WeaponType.staff then
        [⟨w.routing, r, attacker, w.scene, (staffHits w.routing r attacker pkt w.scene).1,
          handleStaffAttack data w.routing r attacker pkt w.scene⟩]
      else []

def arrowCalls : List ObjectId → Scene → List Call
  | [], _ => []
  | id :: ids, scene =>
      ⟨routing, r, arrowOwner r scene id, scene, arrowDead routing r scene id,
        arrowUpdate data routing r scene id⟩ ::
          arrowCalls ids (arrowUpdate data routing r scene id)

def killed (calls : List Call) : List Monster := calls.flatMap (·.dead)

/-- From `a` to `b` the calls come one after another, and nobody earns anything but in them. -/
def Scene.EarnsInCalls (a : Scene) : List Call → Scene → Prop
  | [], b => a.SameEarnings b
  | call :: calls, b => a.SameEarnings call.before ∧ call.after.EarnsInCalls calls b

namespace Scene.EarnsInCalls

variable {a b c : Scene} {calls : List Call}

theorem behind (same : a.SameEarnings b) (earns : b.EarnsInCalls calls c) :
    a.EarnsInCalls calls c := by
  cases calls with
  | nil => exact same.trans earns
  | cons call calls => exact ⟨same.trans earns.1, earns.2⟩

theorem ended (earns : a.EarnsInCalls calls b) (same : b.SameEarnings c) :
    a.EarnsInCalls calls c := by
  induction calls generalizing a with
  | nil => exact Scene.SameEarnings.trans earns same
  | cons call calls ih => exact ⟨earns.1, ih earns.2⟩

end Scene.EarnsInCalls

theorem arrowCalls_earn (ids : List ObjectId) (scene : Scene) :
    scene.EarnsInCalls (arrowCalls data routing r ids scene)
      (ids.foldl (arrowUpdate data routing r) scene) := by
  induction ids generalizing scene with
  | nil => exact .refl scene
  | cons id ids ih => exact ⟨.refl scene, ih _⟩

theorem arrowCalls_settled (ids : List ObjectId) (scene : Scene) (idGen : ObjectId)
    (taken : ObjectId → Prop) (numbered : scene.Numbered idGen taken)
    (alive : ∀ m ∈ (scene.fields r).monsters, 1 ≤ m.info.hp) :
    (∀ call ∈ arrowCalls data routing r ids scene, call.Settled data) ∧
      scene.Fells r (killed (arrowCalls data routing r ids scene))
        (ids.foldl (arrowUpdate data routing r) scene) := by
  induction ids generalizing scene with
  | nil => exact ⟨fun _ none => absurd none List.not_mem_nil, .refl scene⟩
  | cons id ids ih =>
      have first := arrow_settled data routing r scene id idGen taken numbered alive
      obtain ⟨removed, chain⟩ := Scene.Deeds.arrowUpdate data routing r scene id
      obtain ⟨later, fells⟩ := ih (arrowUpdate data routing r scene id)
        (numbered.deeds routing r chain) (first.gone.alive alive)
      constructor
      · intro call member
        rcases List.mem_cons.mp member with rfl | listed
        · exact first
        · exact later call listed
      · exact first.gone.trans fells

theorem addArrow_fells (a : Arrow) (scene : Scene) :
    scene.Fells r [] (addArrow routing r a scene) := by
  apply Scene.Fells.of_monsters
  intro r'
  unfold addArrow
  dsimp only
  rw [(Scene.SameObjects.broadcast _ r _ _).fields]
  rcases setField_cases scene r r'
    { scene.fields r with projectiles := (scene.fields r).projectiles ++ [a] } with ⟨rfl, here⟩ | away
  · rw [here]
  · rw [away]

theorem attackCalls_earn (w : World) (s : SessionId) (pkt : CAttack) :
    w.scene.EarnsInCalls (attackCalls data r w s pkt) (handleCAttack data w r s pkt).scene := by
  unfold attackCalls handleCAttack
  cases locked : lockPlayer w.routing w.scene [] s with
  | none => exact .refl w.scene
  | some attacker =>
      dsimp only
      have told := Scene.SameEarnings.broadcast w.routing r
        (.attack (w.scene.players attacker).info.objectId pkt.dir pkt.weaponType) w.scene
      by_cases sword : pkt.weaponType = WeaponType.sword
      · rw [if_pos sword, if_pos sword]
        exact ⟨told, .refl _⟩
      · rw [if_neg sword, if_neg sword]
        by_cases bow : pkt.weaponType = WeaponType.bow
        · rw [if_neg (by rw [bow]; decide), if_pos bow]
          exact told.trans (.broadcast w.routing r _ _)
        · rw [if_neg bow]
          by_cases staff : pkt.weaponType = WeaponType.staff
          · rw [if_pos staff, if_pos staff]
            exact ⟨told, .refl _⟩
          · rw [if_neg staff, if_neg staff]
            exact told

theorem attackCalls_settled (w : World) (s : SessionId) (pkt : CAttack)
    (alive : ∀ m ∈ (w.scene.fields r).monsters, 1 ≤ m.info.hp)
    (distinct : (w.scene.fields r).Distinct) :
    (∀ call ∈ attackCalls data r w s pkt, call.Settled data) ∧
      w.scene.Fells r (killed (attackCalls data r w s pkt)) (handleCAttack data w r s pkt).scene := by
  unfold attackCalls handleCAttack
  cases locked : lockPlayer w.routing w.scene [] s with
  | none => exact ⟨fun _ none => absurd none List.not_mem_nil, .refl w.scene⟩
  | some attacker =>
      dsimp only
      have told := Scene.Quiet.broadcast w.routing r
        (.attack (w.scene.players attacker).info.objectId pkt.dir pkt.weaponType) w.scene
      generalize broadcast w.routing r
        (.attack (w.scene.players attacker).info.objectId pkt.dir pkt.weaponType) = broadcasts
        at told
      have alive' : ∀ m ∈ ((w.onScene broadcasts).scene.fields r).monsters, 1 ≤ m.info.hp := by
        unfold World.onScene
        rwa [told.fields]
      have distinct' : ((w.onScene broadcasts).scene.fields r).Distinct := by
        unfold World.onScene
        rwa [told.fields]
      have one (call : Call) (settled : call.Settled data) (room : call.room = r)
          (before : call.before = broadcasts w.scene) :
          (∀ call' ∈ [call], call'.Settled data) ∧ w.scene.Fells r (killed [call]) call.after := by
        have gone := settled.gone
        rw [room, before] at gone
        refine ⟨fun call' member => List.mem_singleton.mp member ▸ settled, ?_⟩
        unfold killed
        rw [List.flatMap_singleton]
        exact (Scene.Fells.quiet told).followed gone
      by_cases sword : pkt.weaponType = WeaponType.sword
      · rw [if_pos sword, if_pos sword]
        exact one _ (sword_settled data r (w.onScene broadcasts) attacker alive' distinct') rfl rfl
      · rw [if_neg sword, if_neg sword]
        by_cases bow : pkt.weaponType = WeaponType.bow
        · rw [if_neg (by rw [bow]; decide), if_pos bow]
          refine ⟨fun _ none => absurd none List.not_mem_nil, .followed (.quiet told) ?_⟩
          exact addArrow_fells w.routing r _ _
        · rw [if_neg bow]
          by_cases staff : pkt.weaponType = WeaponType.staff
          · rw [if_pos staff, if_pos staff]
            exact one _ (staff_settled data w.routing r attacker pkt _ alive' distinct') rfl rfl
          · rw [if_neg staff, if_neg staff]
            exact ⟨fun _ none => absurd none List.not_mem_nil, .quiet told⟩

end Fights

theorem handleCChangeMap_fields (w : World) (r : RoomRef) (s : SessionId) (pkt : CChangeMap) :
    (handleCChangeMap data w r s pkt).scene.fields = w.scene.fields ∨
      (handleCChangeMap data w r s pkt).scene.fields =
        (w.createDungeonInstance data).2.2.scene.fields ∧
      (handleCChangeMap data w r s pkt).idGen = (w.createDungeonInstance data).2.2.idGen := by
  cases handleCChangeMap_cases data w r s pkt with
  | absent _ result => exact .inl (congrArg (·.scene.fields) result)
  | refused _ _ _ result => exact .inl (congrArg (·.scene.fields) result)
  | town requester _ _ dest _ result =>
      rw [result]
      exact .inl (changeMapTo_quiet w r dest s requester pkt 0).fields
  | dungeon requester _ _ _ result =>
      rw [result]
      right
      exact ⟨(changeMapTo_quiet (w.createDungeonInstance data).2.2 r _ s requester pkt _).fields,
        changeMapTo_idGen (w.createDungeonInstance data).2.2 r _ s requester pkt _⟩

theorem runJob_peaceful (w : World) (r : RoomRef) (job : Job)
    (peaceful : ∀ s pkt, job ≠ .attack s pkt) :
    (runJob data w r job).scene.fields = w.scene.fields ∨
      (runJob data w r job).scene.fields = (w.createDungeonInstance data).2.2.scene.fields ∧
      (runJob data w r job).idGen = (w.createDungeonInstance data).2.2.idGen := by
  have item (s : SessionId) (method : Player → Player × List Emission) :
      (itemJob method w s).scene.fields = w.scene.fields := by
    unfold itemJob
    cases lockPlayer w.routing w.scene [] s with
    | none => rfl
    | some id => exact actPlayer_fields w.routing id method w.scene
  cases job with
  | attack s pkt => exact absurd rfl (peaceful s pkt)
  | changeMap s pkt => exact handleCChangeMap_fields data w r s pkt
  | move s pkt =>
      left
      cases moves : moveTarget w.routing r s pkt w.scene with
      | some target => exact (handleCMove_moves w.routing r s pkt w.scene _ _ moves).fields
      | none =>
          rcases handleCMove_stays w.routing r s pkt w.scene moves with quiet | ⟨id, dir, -, -, quiet⟩
          · exact quiet.fields
          · exact quiet.fields
  | turn s pkt =>
      left
      rcases handleCTurn_cases w.routing r s pkt w.scene with quiet | ⟨id, -, -, -, quiet⟩
      · exact quiet.fields
      · exact quiet.fields
  | equipItem s slot => exact .inl (item s _)
  | unequipItem s equipType => exact .inl (item s _)
  | useItem s slot => exact .inl (item s _)
  | partyInvite s targetId => exact .inl (partyInvite_whispers w r s targetId).quiet.fields
  | partyAnswer s inviterId accept => exact .inl (partyAnswer_whispers w r s inviterId accept).quiet.fields
  | partyLeave s => exact .inl (partyLeave_whispers w r s).quiet.fields
  | enterRoom s player => exact .inl (enterRoom_quiet w r s player).fields
  | leaveRoom s => exact .inl (leaveRoom_quiet w [] r s).fields

end ZeldaServer
