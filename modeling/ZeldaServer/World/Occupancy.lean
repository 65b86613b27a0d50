import ZeldaServer.World.Numbers

/-! Who stands where: the creatures of a room on cells of their own, and on tiles one can
stand on. `CanGo` sees to it in the room of the move; `EnterRoom` does not ask, and a player
may stand in a second room. -/

namespace ZeldaServer

open Chains (Chain)

variable (data : GameData)

def Tilemap.Walkable (map : Tilemap) (pos : Vec2Int) : Prop :=
  ∃ tile, map.getTileAt pos = some tile ∧ tile ≠ 1

/-- No two creatures of the room are on one cell, and all of them are on walkable tiles. -/
structure Scene.Spaced (routing : Routing) (scene : Scene) (r : RoomRef) : Prop where
  players : ∀ id ∈ playerIds routing r, ∀ other ∈ playerIds routing r, id ≠ other →
    (scene.players id).info.cellPos ≠ (scene.players other).info.cellPos
  monsters : ((scene.fields r).monsters.map (·.info.cellPos)).Nodup
  apart : ∀ id ∈ playerIds routing r, ∀ m ∈ (scene.fields r).monsters,
    (scene.players id).info.cellPos ≠ m.info.cellPos
  playerTiles : ∀ id ∈ playerIds routing r,
    (scene.fields r).tilemap.Walkable (scene.players id).info.cellPos
  monsterTiles : ∀ m ∈ (scene.fields r).monsters, (scene.fields r).tilemap.Walkable m.info.cellPos

/-- The cell is one the player could stand on in the room: walkable, and nobody else's. -/
structure Scene.FreeFor (routing : Routing) (scene : Scene) (r : RoomRef) (id : ObjectId)
    (pos : Vec2Int) : Prop where
  tile : (scene.fields r).tilemap.Walkable pos
  players : ∀ other ∈ playerIds routing r, other ≠ id → (scene.players other).info.cellPos ≠ pos
  monsters : ∀ m ∈ (scene.fields r).monsters, m.info.cellPos ≠ pos

theorem canGo_free (routing : Routing) (scene : Scene) (r : RoomRef) (pos : Vec2Int)
    (free : canGo routing scene r pos = true) (id : ObjectId) :
    scene.FreeFor routing r id pos ∧
      ∀ other ∈ playerIds routing r, (scene.players other).info.cellPos ≠ pos := by
  unfold canGo at free
  cases tile : (scene.fields r).tilemap.getTileAt pos with
  | none => simp [tile] at free
  | some value =>
      simp only [tile, Bool.and_eq_true, Option.isNone_iff_eq_none, decide_eq_true_eq] at free
      obtain ⟨empty, floor⟩ := free
      unfold creatureAt at empty
      cases standing : playerAt routing scene r pos with
      | some other => simp [standing] at empty
      | none =>
          simp only [standing, Option.map_eq_none_iff] at empty
          have others (other : ObjectId) (member : other ∈ playerIds routing r) :
              (scene.players other).info.cellPos ≠ pos := by
            simpa using List.find?_eq_none.mp standing other member
          refine ⟨⟨⟨value, tile, floor⟩, fun other member _ => others other member, ?_⟩, others⟩
          intro m member
          simpa using List.find?_eq_none.mp empty m member

namespace Scene.Spaced

variable {routing : Routing} {scene : Scene}

theorem of_same {scene' : Scene} {r : RoomRef} (spaced : scene.Spaced routing r)
    (cells : ∀ id, (scene'.players id).info.cellPos = (scene.players id).info.cellPos)
    (monsters : (scene'.fields r).monsters = (scene.fields r).monsters)
    (tilemap : (scene'.fields r).tilemap = (scene.fields r).tilemap) :
    scene'.Spaced routing r where
  players := fun id member other member' apart => by
    rw [cells, cells]
    exact spaced.players id member other member' apart
  monsters := by
    rw [monsters]
    exact spaced.monsters
  apart := fun id member m found => by
    rw [cells]
    exact spaced.apart id member m (monsters ▸ found)
  playerTiles := fun id member => by
    rw [cells, tilemap]
    exact spaced.playerTiles id member
  monsterTiles := fun m found => by
    rw [tilemap]
    exact spaced.monsterTiles m (monsters ▸ found)

theorem fewer {routing' : Routing} {r : RoomRef} (spaced : scene.Spaced routing r)
    (members : ∀ id, id ∈ playerIds routing' r → id ∈ playerIds routing r) :
    scene.Spaced routing' r where
  players := fun id member other member' apart =>
    spaced.players id (members id member) other (members other member') apart
  monsters := spaced.monsters
  apart := fun id member m found => spaced.apart id (members id member) m found
  playerTiles := fun id member => spaced.playerTiles id (members id member)
  monsterTiles := spaced.monsterTiles

theorem quiet {scene' : Scene} {r : RoomRef} (spaced : scene.Spaced routing r)
    (same : scene.Quiet scene') : scene'.Spaced routing r :=
  spaced.of_same (fun id => by rw [same.players]) (by rw [same.fields]) (by rw [same.fields])

theorem samePlayer {r : RoomRef} (spaced : scene.Spaced routing r) (id : ObjectId) (p : Player)
    (cell : p.info.cellPos = (scene.players id).info.cellPos) :
    (scene.setPlayer id p).Spaced routing r := by
  refine spaced.of_same (fun other => ?_) rfl rfl
  by_cases same : other = id
  · subst same
    simpa [Scene.setPlayer] using cell
  · simp [Scene.setPlayer, same]

theorem setMonster {r : RoomRef} (spaced : scene.Spaced routing r)
    (distinct : (scene.fields r).Distinct) (m m' : Monster) (member : m ∈ (scene.fields r).monsters)
    (named : m'.info.objectId = m.info.objectId)
    (cell : m'.info.cellPos = m.info.cellPos ∨ canGo routing scene r m'.info.cellPos = true) :
    (scene.setMonster r m').Spaced routing r := by
  have listed : m'.info.objectId ∈ (scene.fields r).monsters.map (·.info.objectId) :=
    List.mem_map.mpr ⟨m, member, named.symm⟩
  have found (x : Monster) := mem_setMonster_iff r m' x scene listed
  have tilemap : ((scene.setMonster r m').fields r).tilemap = (scene.fields r).tilemap := by
    simp [Scene.setMonster, Scene.setField]
  -- where the monster is afterwards is a cell of its own
  have others (x : Monster) (old : x ∈ (scene.fields r).monsters)
      (other : x.info.objectId ≠ m'.info.objectId) : x.info.cellPos ≠ m'.info.cellPos := by
    rcases cell with stays | free
    · rw [stays]
      intro same
      have alike := List.inj_on_of_nodup_map spaced.monsters old member same
      rw [alike, named] at other
      exact other rfl
    · exact (canGo_free routing scene r _ free 0).1.monsters x old
  have clear (id : ObjectId) (standing : id ∈ playerIds routing r) :
      (scene.players id).info.cellPos ≠ m'.info.cellPos := by
    rcases cell with stays | free
    · rw [stays]
      exact spaced.apart id standing m member
    · exact (canGo_free routing scene r _ free 0).2 id standing
  have floor : (scene.fields r).tilemap.Walkable m'.info.cellPos := by
    rcases cell with stays | free
    · rw [stays]
      exact spaced.monsterTiles m member
    · exact (canGo_free routing scene r _ free 0).1.tile
  constructor
  case players => exact spaced.players
  case monsters =>
    have ids : (((scene.setMonster r m').fields r).monsters.map (·.info.objectId)).Nodup := by
      rw [setMonster_ids]
      exact distinct
    apply List.Nodup.map_on _ (List.Nodup.of_map _ ids)
    intro x first y second same
    rcases (found x).mp first with rfl | ⟨old, apart⟩
    · rcases (found y).mp second with rfl | ⟨old', apart'⟩
      · rfl
      · exact absurd same.symm (others y old' apart')
    · rcases (found y).mp second with rfl | ⟨old', apart'⟩
      · exact absurd same (others x old apart)
      · exact List.inj_on_of_nodup_map spaced.monsters old old' same
  case apart =>
    intro id standing x first
    rcases (found x).mp first with rfl | ⟨old, -⟩
    · exact clear id standing
    · exact spaced.apart id standing x old
  case playerTiles =>
    rw [tilemap]
    exact spaced.playerTiles
  case monsterTiles =>
    intro x first
    rw [tilemap]
    rcases (found x).mp first with rfl | ⟨old, -⟩
    · exact floor
    · exact spaced.monsterTiles x old

end Scene.Spaced

def Scene.AllSpaced (routing : Routing) (scene : Scene) : Prop := ∀ r, scene.Spaced routing r

namespace Scene.AllSpaced

variable {routing : Routing} {scene : Scene}

theorem quiet {scene' : Scene} (spaced : scene.AllSpaced routing) (same : scene.Quiet scene') :
    scene'.AllSpaced routing := fun r => (spaced r).quiet same

theorem deed (spaced : scene.AllSpaced routing) (distinct : ∀ r, (scene.fields r).Distinct)
    (r : RoomRef) (removed : List Monster) (scene' : Scene)
    (deed : Scene.Deed routing r scene removed scene') : scene'.AllSpaced routing := by
  intro r'
  cases deed with
  | quiet b same => exact (spaced r').quiet same
  | player id p gait =>
      exact (spaced r').samePlayer id p (congrArg (fun gait => gait.2.1) gait)
  | tick id =>
      apply (spaced r').samePlayer id
      unfold Player.update
      split <;> rfl
  | monster m m' member tag cell =>
      by_cases same : r' = r
      · subst same
        exact (spaced r').setMonster (distinct r') m m' member (congrArg Prod.fst tag) cell
      · refine (spaced r').of_same (fun _ => rfl) ?_ ?_ <;>
          rw [setMonster_others scene r r' m' same]
  | removed m member =>
      by_cases same : r' = r
      · subst same
        obtain ⟨monsters, -, tilemap, -⟩ := dropMonster_field scene r' m
        have fewer (x : Monster) (found : x ∈ ((scene.dropMonster r' m).fields r').monsters) :
            x ∈ (scene.fields r').monsters := by
          rw [monsters] at found
          exact List.mem_of_mem_filter found
        constructor
        case players => exact (spaced r').players
        case monsters =>
          rw [monsters]
          exact (spaced r').monsters.sublist (List.filter_sublist.map _)
        case apart => exact fun id standing x found => (spaced r').apart id standing x (fewer x found)
        case playerTiles =>
          rw [tilemap]
          exact (spaced r').playerTiles
        case monsterTiles =>
          intro x found
          rw [tilemap]
          exact (spaced r').monsterTiles x (fewer x found)
      · refine (spaced r').of_same (fun _ => rfl) ?_ ?_ <;>
          rw [dropMonster_others scene r r' m same]
  | arrows projectiles known =>
      rcases setField_cases scene r r' { scene.fields r with projectiles } with ⟨rfl, here⟩ | away
      · refine (spaced r').of_same (fun _ => rfl) ?_ ?_ <;> rw [here]
      · refine (spaced r').of_same (fun _ => rfl) ?_ ?_ <;> rw [away]

theorem deeds (spaced : scene.AllSpaced routing) {idGen : ObjectId} {taken : ObjectId → Prop}
    (numbered : scene.Numbered idGen taken) (r : RoomRef) {removed : List Monster} {scene' : Scene}
    (chain : scene.Deeds routing r removed scene') : scene'.AllSpaced routing :=
  (chain.keeps (fun scene => scene.Numbered idGen taken ∧ scene.AllSpaced routing)
    (fun _ labels after now change =>
      ⟨now.1.deed routing r labels after change, now.2.deed now.1.distinct r labels after change⟩)
    ⟨numbered, spaced⟩).2

theorem birth {made made' : Scene × ObjectId} {born : List Monster} (r : RoomRef)
    (spaced : made.1.AllSpaced routing) (birth : Scene.Birth data routing r made born made')
    (fine : made'.1.fault = none) : made'.1.AllSpaced routing := by
  intro r'
  cases birth with
  | waits request =>
      rcases setField_cases made.1 r r' { made.1.fields r with
        respawnQueue := (made.1.fields r).respawnQueue ++ [request] } with ⟨rfl, here⟩ | away
      · refine (spaced r').of_same (fun _ => rfl) ?_ ?_ <;> rw [Scene.waitFor, here]
      · refine (spaced r').of_same (fun _ => rfl) ?_ ?_ <;> rw [Scene.waitFor, away]
  | born cell aggroRange leashRange templateId b next players fields now free =>
      generalize known : createMonster data made.2 cell aggroRange leashRange templateId = m
      have place : m.info.cellPos = cell := by
        rw [← known]
        rfl
      have empty := canGo_free routing made.1 r cell (free fine).2 0
      have field := setField_cases made.1 r r' { made.1.fields r with
        monsters := (made.1.fields r).monsters ++ [m] }
      rw [known] at fields
      rw [← fields] at field
      rcases field with ⟨rfl, here⟩ | away
      · constructor
        case players =>
          rw [players]
          exact (spaced r').players
        case monsters =>
          rw [here, List.map_append, List.map_singleton]
          apply List.nodup_append.mpr
          refine ⟨(spaced r').monsters, List.nodup_singleton _, ?_⟩
          intro pos old last new same
          obtain ⟨x, member, rfl⟩ := List.mem_map.mp old
          rw [List.mem_singleton.mp new, place] at same
          exact empty.1.monsters x member same
        case apart =>
          intro id standing x found
          rw [players]
          rw [here] at found
          rcases List.mem_append.mp found with old | new
          · exact (spaced r').apart id standing x old
          · rw [List.mem_singleton.mp new, place]
            exact empty.2 id standing
        case playerTiles =>
          intro id standing
          rw [players, here]
          exact (spaced r').playerTiles id standing
        case monsterTiles =>
          intro x found
          rw [here] at found ⊢
          rcases List.mem_append.mp found with old | new
          · exact (spaced r').monsterTiles x old
          · rw [List.mem_singleton.mp new, place]
            exact empty.1.tile
      · refine (spaced r').of_same (fun id => ?_) ?_ ?_
        · rw [players]
        · rw [away]
        · rw [away]

theorem births {made made' : Scene × ObjectId} {born : List Monster} (r : RoomRef)
    (chain : Scene.Births data routing r made born made') (fine : made'.1.fault = none) :
    made.1.fault = none ∧ (made.1.AllSpaced routing → made'.1.AllSpaced routing) := by
  revert fine
  apply chain.relates (fun made _ made' => made'.1.fault = none →
    made.1.fault = none ∧ (made.1.AllSpaced routing → made'.1.AllSpaced routing))
  · exact fun made fine => ⟨fine, fun spaced => spaced⟩
  · intro made middle made' first rest now later fine
    obtain ⟨midway, onward⟩ := later fine
    have before : made.1.fault = none := by
      cases now with
      | waits request => exact midway
      | born cell aggroRange leashRange templateId b next players fields now free =>
          exact (free midway).1
    exact ⟨before, fun spaced => onward (birth data r spaced now midway)⟩

end Scene.AllSpaced

theorem spaced_put_iff (a b : Routing) (scene : Scene) (id : ObjectId) (p : Player)
    (old : ∀ r other, other ∈ playerIds a r → other ∈ playerIds b r)
    (new : ∀ r other, other ∈ playerIds b r → other = id ∨ other ∈ playerIds a r)
    (spaced : scene.AllSpaced a) :
    (scene.setPlayer id p).AllSpaced b ↔
      ∀ r, id ∈ playerIds b r → scene.FreeFor a r id p.info.cellPos := by
  have own : ((scene.setPlayer id p).players id).info.cellPos = p.info.cellPos := by
    simp [Scene.setPlayer]
  have others (other : ObjectId) (apart : other ≠ id) :
      ((scene.setPlayer id p).players other).info.cellPos =
        (scene.players other).info.cellPos := by
    simp [Scene.setPlayer, apart]
  constructor
  · intro after r standing
    constructor
    case tile =>
      have floor := (after r).playerTiles id standing
      rwa [own] at floor
    case players =>
      intro other member apart
      have differ := (after r).players other (old r other member) id standing apart
      rwa [own, others other apart] at differ
    case monsters =>
      intro m found
      have differ := (after r).apart id standing m found
      rw [own] at differ
      exact differ.symm
  · intro free r
    have before (other : ObjectId) (member : other ∈ playerIds b r) (apart : other ≠ id) :
        other ∈ playerIds a r := (new r other member).resolve_left apart
    constructor
    case players =>
      intro first member second member' apart
      by_cases is_first : first = id
      · subst is_first
        rw [own, others second (Ne.symm apart)]
        exact ((free r member).players second (before second member' (Ne.symm apart))
          (Ne.symm apart)).symm
      · rw [others first is_first]
        by_cases is_second : second = id
        · subst is_second
          rw [own]
          exact (free r member').players first (before first member is_first) is_first
        · rw [others second is_second]
          exact (spaced r).players first (before first member is_first) second
            (before second member' is_second) apart
    case monsters => exact (spaced r).monsters
    case apart =>
      intro other member m found
      by_cases same : other = id
      · subst same
        rw [own]
        exact ((free r member).monsters m found).symm
      · rw [others other same]
        exact (spaced r).apart other (before other member same) m found
    case playerTiles =>
      intro other member
      by_cases same : other = id
      · subst same
        rw [own]
        exact (free r member).tile
      · rw [others other same]
        exact (spaced r).playerTiles other (before other member same)
    case monsterTiles => exact (spaced r).monsterTiles

/-- The job puts no player on a cell that is a wall or somebody else's in one of the rooms
the player is in then. -/
def PutsApart (w : World) (r : RoomRef) : Job → Prop
  | .enterRoom _ id => ∀ r', r' = r ∨ id ∈ playerIds w.routing r' →
      w.scene.FreeFor w.routing r' id entrance
  | .move s pkt => ∀ id pos, moveTarget w.routing r s pkt w.scene = some (id, pos) →
      ∀ r', id ∈ playerIds w.routing r' → w.scene.FreeFor w.routing r' id pos
  | _ => True

theorem runJob_players (w : World) (r : RoomRef) (job : Job) (inRange : w.routing.InRange)
    (stays : job.entering = none) (r' : RoomRef) (id : ObjectId)
    (member : id ∈ playerIds (runJob data w r job).routing r') : id ∈ playerIds w.routing r' :=
  (runJob_calm data w r job inRange stays).players r' id member

theorem openDungeon_players (a : Routing) (inRange : a.InRange) (r : RoomRef) (id : ObjectId) :
    id ∈ playerIds a.openDungeon r ↔ id ∈ playerIds a r := by
  have rooms : a.openDungeon.rooms r =
      if r = a.roomCount then Room.create .dungeon 0 a.instanceIdGen else a.rooms r :=
    Routing.rooms_addRoom a r _
  unfold playerIds
  rw [rooms]
  split
  case isTrue same =>
    subst same
    rw [(inRange.unmade a.roomCount (Nat.le_refl _)).1]
    exact Iff.rfl
  case isFalse => exact Iff.rfl

theorem setField_empty_spaced (a : Routing) (scene : Scene) (r : RoomRef) (field : Field)
    (empty : field.monsters = []) (nobody : ∀ id, id ∉ playerIds a r)
    (spaced : scene.AllSpaced a) : (scene.setField r field).AllSpaced a := by
  intro r'
  rcases setField_cases scene r r' field with ⟨rfl, here⟩ | away
  · constructor
    case players => exact fun id member => absurd member (nobody id)
    case monsters =>
      rw [here, empty]
      exact List.nodup_nil
    case apart => exact fun id member => absurd member (nobody id)
    case playerTiles => exact fun id member => absurd member (nobody id)
    case monsterTiles =>
      intro m found
      rw [here, empty] at found
      cases found
  · refine (spaced r').of_same (fun _ => rfl) ?_ ?_ <;> rw [away]

theorem configured_monsters (roomId : RoomName) (field : Field) :
    (configured data roomId field).monsters = field.monsters := by
  unfold configured
  cases data.roomConfig roomId <;> rfl

theorem initFromConfig_spaced (a : Routing) (r : RoomRef) (roomId : RoomName) (scene : Scene)
    (idGen : ObjectId) (empty : (scene.fields r).monsters = []) (nobody : ∀ id, id ∉ playerIds a r)
    (fine : (initFromConfig data a r roomId scene idGen).1.fault = none) :
    scene.fault = none ∧
      (scene.AllSpaced a → (initFromConfig data a r roomId scene idGen).1.AllSpaced a) := by
  obtain ⟨born, births, -⟩ := initFromConfig_births data a r roomId scene idGen
  obtain ⟨before, onward⟩ := Scene.AllSpaced.births data r births fine
  refine ⟨before, fun spaced => onward ?_⟩
  apply setField_empty_spaced a scene r _ _ nobody spaced
  rw [configured_monsters]
  exact empty

theorem setProjectiles_spaced (a : Routing) (scene : Scene) (r : RoomRef)
    (projectiles : List Arrow) (spaced : scene.AllSpaced a) :
    (scene.setField r { scene.fields r with projectiles }).AllSpaced a := by
  intro r'
  rcases setField_cases scene r r' { scene.fields r with projectiles } with ⟨rfl, here⟩ | away
  · refine (spaced r').of_same (fun _ => rfl) ?_ ?_ <;> rw [here]
  · refine (spaced r').of_same (fun _ => rfl) ?_ ?_ <;> rw [away]

theorem halted_spaced (a : Routing) (scene : Scene) (id : ObjectId) (dir : Dir)
    (spaced : scene.AllSpaced a) :
    (scene.setPlayer id ((scene.players id).halted dir)).AllSpaced a :=
  fun r' => (spaced r').samePlayer id _ rfl

theorem quiet_spaced_iff {a b : Scene} (routing : Routing) (quiet : a.Quiet b) :
    b.AllSpaced routing ↔ a.AllSpaced routing := by
  constructor
  · intro after r
    exact (after r).of_same (fun id => by rw [quiet.players]) (by rw [quiet.fields])
      (by rw [quiet.fields])
  · exact fun before => before.quiet quiet

theorem handleCMove_spaced_iff (w : World) (r : RoomRef) (s : SessionId) (pkt : CMove)
    (spaced : w.scene.AllSpaced w.routing) :
    (handleCMove w.routing r s pkt w.scene).AllSpaced w.routing ↔ PutsApart w r (.move s pkt) := by
  cases moves : moveTarget w.routing r s pkt w.scene with
  | some target =>
      obtain ⟨id, pos⟩ := target
      have quiet := handleCMove_moves w.routing r s pkt w.scene id pos moves
      have put := spaced_put_iff w.routing w.routing w.scene id
        ((w.scene.players id).walking w.scene.now pos) (fun _ _ member => member)
        (fun _ _ member => .inr member) spaced
      apply (quiet_spaced_iff w.routing quiet).trans
      apply put.trans
      constructor
      · intro free id' pos' same r' standing
        rw [moves] at same
        cases same
        exact free r' standing
      · exact fun right => right id pos moves
  | none =>
      constructor
      · intro _ id pos same
        rw [moves] at same
        cases same
      · intro _
        rcases handleCMove_stays w.routing r s pkt w.scene moves with
          quiet | ⟨id, dir, -, -, quiet⟩
        · exact spaced.quiet quiet
        · exact Scene.AllSpaced.quiet (halted_spaced w.routing w.scene id _ spaced) quiet

theorem handleCTurn_spaced (w : World) (r : RoomRef) (s : SessionId) (pkt : CTurn)
    (spaced : w.scene.AllSpaced w.routing) :
    (handleCTurn w.routing r s pkt w.scene).AllSpaced w.routing := by
  rcases handleCTurn_cases w.routing r s pkt w.scene with quiet | ⟨id, -, -, -, quiet⟩
  · exact spaced.quiet quiet
  · exact Scene.AllSpaced.quiet (halted_spaced w.routing w.scene id _ spaced) quiet

theorem openDungeon_spaced (w : World) (inRange : w.routing.InRange)
    (spaced : w.scene.AllSpaced w.routing)
    (fine : (initFromConfig data w.routing.openDungeon w.routing.roomCount .dungeonForest
      (w.scene.setField w.routing.roomCount .empty) w.idGen).1.fault = none) :
    (initFromConfig data w.routing.openDungeon w.routing.roomCount .dungeonForest
      (w.scene.setField w.routing.roomCount .empty) w.idGen).1.AllSpaced w.routing := by
  have nobody (id : ObjectId) : id ∉ playerIds w.routing.openDungeon w.routing.roomCount := by
    intro member
    have before := (openDungeon_players w.routing inRange _ id).mp member
    unfold playerIds at before
    rw [(inRange.unmade w.routing.roomCount (Nat.le_refl _)).1] at before
    cases before
  have start : w.scene.AllSpaced w.routing.openDungeon :=
    fun r => (spaced r).fewer fun id => (openDungeon_players w.routing inRange r id).mp
  have emptied := setField_empty_spaced w.routing.openDungeon w.scene w.routing.roomCount .empty
    rfl nobody start
  have opened := (initFromConfig_spaced data w.routing.openDungeon w.routing.roomCount
    .dungeonForest (w.scene.setField w.routing.roomCount .empty) w.idGen
    (by simp [Scene.setField, Field.empty]) nobody fine).2 emptied
  exact fun r => (opened r).fewer fun id => (openDungeon_players w.routing inRange r id).mpr

theorem enterRoom_spaced_iff (w : World) (r : RoomRef) (s : SessionId) (id : ObjectId)
    (spaced : w.scene.AllSpaced w.routing) :
    (w.enterRoom r s id).scene.AllSpaced (w.enterRoom r s id).routing ↔
      PutsApart w r (.enterRoom s id) := by
  rw [enterRoom_routing]
  have members (r' : RoomRef) (other : ObjectId) :
      other ∈ playerIds ((w.routing.bind r s id).addPlayer r id) r' ↔
        other ∈ playerIds w.routing r' ∨ (r' = r ∧ other = id) :=
    Routing.mem_players_addPlayer (w.routing.bind r s id) r r' id other
  have put := spaced_put_iff w.routing ((w.routing.bind r s id).addPlayer r id) w.scene id
    (w.scene.players id).atEntrance
    (fun r' other member => (members r' other).mpr (.inl member))
    (fun r' other member => by
      rcases (members r' other).mp member with old | ⟨-, same⟩
      · exact .inr old
      · exact .inl same)
    spaced
  apply (quiet_spaced_iff _ (enterRoom_quiet w r s id)).trans
  apply put.trans
  constructor
  · intro free r' place
    apply free r' ((members r' id).mpr _)
    rcases place with here | standing
    · exact .inr ⟨here, rfl⟩
    · exact .inl standing
  · intro right r' standing
    apply right r'
    rcases (members r' id).mp standing with old | ⟨here, -⟩
    · exact .inr old
    · exact .inl here

theorem runJob_spaced_iff (w : World) (r : RoomRef) (job : Job) (inRange : w.routing.InRange)
    (numbered : w.Numbered) (spaced : w.scene.AllSpaced w.routing)
    (fine : (runJob data w r job).scene.fault = none) :
    (runJob data w r job).scene.AllSpaced (runJob data w r job).routing ↔ PutsApart w r job := by
  have fewer (scene : Scene) (stays : job.entering = none) (before : scene.AllSpaced w.routing) :
      scene.AllSpaced (runJob data w r job).routing :=
    fun r' => (before r').fewer fun id => runJob_players data w r job inRange stays r' id
  have all (after : (runJob data w r job).scene.AllSpaced (runJob data w r job).routing)
      (right : PutsApart w r job) :
      (runJob data w r job).scene.AllSpaced (runJob data w r job).routing ↔ PutsApart w r job :=
    ⟨fun _ => right, fun _ => after⟩
  have did := runJob_did data w r job (numbered.distinct r)
  generalize made : runJob data w r job = v at did fine fewer all ⊢
  cases did with
  | deeds job removed stays chain idGen =>
      have after := spaced.deeds numbered r chain
      cases job with
      | move | turn | enterRoom => cases stays
      | _ => exact all (fewer _ rfl after) trivial
  | moved s pkt result =>
      subst result
      exact handleCMove_spaced_iff w r s pkt spaced
  | turned s pkt result =>
      subst result
      exact all (handleCTurn_spaced w r s pkt spaced) trivial
  | shot s pkt attacker arrow scene locked named owner quiet result =>
      subst result
      have shot := setProjectiles_spaced w.routing scene r
        ((scene.fields r).projectiles ++ [arrow]) (spaced.quiet quiet)
      exact all (shot.quiet (Scene.Quiet.broadcast w.routing r _ _)) trivial
  | opened s pkt quiet idGen roomCount =>
      have opened := openDungeon_spaced data w inRange spaced (quiet.fault fine)
      exact all (fewer _ rfl (opened.quiet quiet)) trivial
  | entered s id result =>
      subst result
      exact enterRoom_spaced_iff w r s id spaced

theorem still_spaced (w next : World) (same : w.Still next)
    (spaced : w.scene.AllSpaced w.routing) : next.scene.AllSpaced next.routing := by
  intro r
  obtain ⟨nextTick, field⟩ := same.fields r
  have kept : next.scene.Spaced w.routing r :=
    (spaced r).of_same (fun id => by rw [same.players]) (by rw [field]) (by rw [field])
  refine kept.fewer fun id member => ?_
  have standing := same.standing r
  unfold playerIds at member ⊢
  rwa [standing] at member

/-- Where the objects are between two updates of a step: some of the players, then some of
the monsters, some of the projectiles and some of the requests have had their turn. -/
inductive World.Between (w : World) (r : RoomRef) (rand : List Nat) : Scene → Prop where
  | players (front back : List ObjectId) (split : playerIds w.routing r = front ++ back) :
      Between w r rand (front.foldl (fun scene id =>
        actPlayer w.routing id (Player.update scene.now) scene) { w.scene with rand })
  | monsters (front back : List ObjectId)
      (split : ((stepPlayers w.routing r { w.scene with rand }).fields r).monsters.map
        (·.info.objectId) = front ++ back) :
      Between w r rand (front.foldl (monsterUpdate w.routing r)
        (stepPlayers w.routing r { w.scene with rand }))
  | arrows (front back : List ObjectId)
      (split : ((stepMonsters w.routing r (stepPlayers w.routing r { w.scene with rand })).fields
        r).projectiles.map (·.info.objectId) = front ++ back) :
      Between w r rand (front.foldl (arrowUpdate data w.routing r)
        (stepMonsters w.routing r (stepPlayers w.routing r { w.scene with rand })))
  | requests (front back : List RespawnRequest)
      (split : ((stepObjects data w.routing r { w.scene with rand }).fields r).respawnQueue =
        front ++ back) :
      Between w r rand (front.foldl (respawn data w.routing r)
        ((stepObjects data w.routing r { w.scene with rand }).drained r, w.idGen)).1

theorem drained_spaced (a : Routing) (scene : Scene) (r : RoomRef) (spaced : scene.AllSpaced a) :
    (scene.drained r).AllSpaced a := by
  obtain ⟨-, players, -, monsters, tilemap, -, -, others⟩ := drained_keeps r scene
  intro r'
  refine (spaced r').of_same (fun id => by rw [players]) ?_ ?_
  · by_cases same : r' = r
    · rw [same, monsters]
    · rw [others r' same]
  · by_cases same : r' = r
    · rw [same, tilemap]
    · rw [others r' same]

theorem between_spaced (w : World) (r : RoomRef) (rand : List Nat) (scene : Scene)
    (numbered : w.Numbered) (spaced : w.scene.AllSpaced w.routing)
    (between : w.Between data r rand scene) (fine : scene.fault = none) :
    scene.AllSpaced w.routing := by
  have supplied : { w.scene with rand }.Numbered w.idGen w.routing.LoggedPlayer :=
    numbered.of_fields rfl (fun _ => rfl) (fun _ => rfl)
  have start : { w.scene with rand }.AllSpaced w.routing :=
    spaced.quiet (.of_same rfl rfl rfl rfl)
  have played := Scene.Deeds.stepPlayers w.routing r { w.scene with rand }
  have hunted := Scene.Deeds.stepMonsters w.routing r (stepPlayers w.routing r { w.scene with rand })
  cases between with
  | players front back split =>
      have chain := Scene.Deeds.foldl w.routing r _ (Scene.Deeds.playerUpdate w.routing r) front
        { w.scene with rand }
      exact start.deeds supplied r chain
  | monsters front back split =>
      have chain := Scene.Deeds.foldl w.routing r _ (Scene.Deeds.monsterUpdate w.routing r) front
        (stepPlayers w.routing r { w.scene with rand })
      exact (start.deeds supplied r played).deeds (supplied.deeds w.routing r played) r chain
  | arrows front back split =>
      obtain ⟨removed, chain, -⟩ := Chain.foldl (fun _ => True) (arrowUpdate data w.routing r)
        (fun scene id _ => by
          obtain ⟨removed, chain⟩ := Scene.Deeds.arrowUpdate data w.routing r scene id
          exact ⟨removed, chain, trivial⟩) front
        (stepMonsters w.routing r (stepPlayers w.routing r { w.scene with rand })) trivial
      have moved := played.append hunted
      exact (start.deeds supplied r moved).deeds (supplied.deeds w.routing r moved) r chain
  | requests front back split =>
      obtain ⟨removed, chain⟩ := Scene.Deeds.stepObjects data w.routing r { w.scene with rand }
      obtain ⟨born, births, -⟩ := respawns data w.routing r front
        ((stepObjects data w.routing r { w.scene with rand }).drained r, w.idGen)
      apply (Scene.AllSpaced.births data r births fine).2
      exact drained_spaced w.routing _ r (start.deeds supplied r chain)

theorem afterStep_spaced (w : World) (r : RoomRef) (rand : List Nat) (numbered : w.Numbered)
    (spaced : w.scene.AllSpaced w.routing) (fine : (w.afterStep data r rand).1.fault = none) :
    (w.afterStep data r rand).1.AllSpaced w.routing := by
  have supplied : { w.scene with rand }.Numbered w.idGen w.routing.LoggedPlayer :=
    numbered.of_fields rfl (fun _ => rfl) (fun _ => rfl)
  have start : { w.scene with rand }.AllSpaced w.routing :=
    spaced.quiet (.of_same rfl rfl rfl rfl)
  obtain ⟨removed, chain⟩ := Scene.Deeds.stepObjects data w.routing r { w.scene with rand }
  obtain ⟨born, births, -⟩ := spawnTick_births data w.routing r
    (stepObjects data w.routing r { w.scene with rand }) w.idGen
  have moved := drained_spaced w.routing _ r (start.deeds supplied r chain)
  unfold World.afterStep at fine ⊢
  rw [gameStep_eq] at fine ⊢
  dsimp only at fine ⊢
  have spawned := (Scene.AllSpaced.births data r births fine).2 moved
  generalize spawnTick data w.routing r (stepObjects data w.routing r { w.scene with rand })
    w.idGen = made at spawned
  intro r'
  rcases setField_cases made.1 r r' { made.1.fields r with
    nextTick := (made.1.fields r).nextTick + kTickMs } with ⟨rfl, here⟩ | away
  · refine (spawned r').of_same (fun _ => rfl) ?_ ?_ <;> rw [here]
  · refine (spawned r').of_same (fun _ => rfl) ?_ ?_ <;> rw [away]

/-- Between two jobs, and between two updates of a step that might come next, the creatures
of each room are apart and on walkable tiles. -/
def World.Occupied (w : World) : Prop :=
  w.scene.AllSpaced w.routing ∧
    ∀ pass r steps rand scene, w.routing.pass = some pass →
      pass.current = some ⟨r, some steps⟩ → w.Between data r rand scene → scene.fault = none →
        scene.AllSpaced w.routing

def KeepsApart (w : World) (e : Event) : Prop :=
  ∀ rand r job rest, e = .job rand → w.routing.nextJob = some (r, job, rest) →
    PutsApart (w.forJob r rest rand) r job

theorem forJob_spaced (w : World) (r : RoomRef) (rest : List Job) (rand : List Nat)
    (spaced : w.scene.AllSpaced w.routing) :
    (w.forJob r rest rand).scene.AllSpaced (w.forJob r rest rand).routing := by
  intro r'
  have kept : (w.forJob r rest rand).scene.Spaced w.routing r' :=
    (spaced r').quiet (.of_same rfl rfl rfl rfl)
  refine kept.fewer fun id member => ?_
  unfold playerIds World.forJob at member
  rwa [Routing.players_popJob] at member

theorem step_spaced_iff (w next : World) (e : Event) (orderly : w.Orderly)
    (spaced : w.scene.AllSpaced w.routing) (stepped : w.step data e = some next) :
    next.scene.AllSpaced next.routing ↔ KeepsApart w e := by
  have fine := (step_act data w next e stepped).2
  have jobless (after : next.scene.AllSpaced next.routing) (other : ∀ rand, e ≠ .job rand) :
      next.scene.AllSpaced next.routing ↔ KeepsApart w e :=
    ⟨fun _ rand _ _ _ same => absurd same (other rand), fun _ => after⟩
  cases step_acted data w next e stepped with
  | still e other stepless same => exact jobless (still_spaced w next same spaced) other
  | login s username player named players fields now standing idGen =>
      refine jobless (fun r => ?_) (by simp)
      have kept : next.scene.Spaced w.routing r := by
        -- the new player is in no room
        have elsewhere (id : ObjectId) (member : id ∈ playerIds w.routing r) :
            next.scene.players id = w.scene.players id := by
          have apart : id ≠ w.idGen := by
            rintro rfl
            exact orderly.fresh_not_placed ⟨r, .inl member⟩
          rw [players]
          exact Function.update_of_ne apart _ _
        constructor
        case players =>
          intro id member other member' apart
          rw [elsewhere id member, elsewhere other member']
          exact (spaced r).players id member other member' apart
        case monsters =>
          rw [fields]
          exact (spaced r).monsters
        case apart =>
          intro id member m found
          rw [elsewhere id member]
          rw [fields] at found
          exact (spaced r).apart id member m found
        case playerTiles =>
          intro id member
          rw [elsewhere id member, fields]
          exact (spaced r).playerTiles id member
        case monsterTiles =>
          rw [fields]
          exact (spaced r).monsterTiles
      refine kept.fewer fun id member => ?_
      have same := standing r
      unfold playerIds at member ⊢
      rwa [same] at member
  | ran rand r job rest front result =>
      subst result
      have ranged := (forJob_keeps w r job rest rand front).inRange orderly.inRange
      have before : (w.forJob r rest rand).Numbered :=
        orderly.numbered.of_fields rfl (fun _ => rfl) (fun _ => rfl)
      apply (runJob_spaced_iff data (w.forJob r rest rand) r job ranged before
        (forJob_spaced w r rest rand spaced) fine).trans
      constructor
      · intro right rand' r' job' rest' same front'
        cases same
        rw [front] at front'
        cases front'
        exact right
      · exact fun right => right rand r job rest rfl front
  | stepped rand pass r steps under_way current scene idGen rooms logins =>
      refine jobless (fun r' => ?_) (by simp)
      rw [scene] at fine ⊢
      have kept := afterStep_spaced data w r rand orderly.numbered spaced fine r'
      refine kept.fewer fun id member => ?_
      unfold playerIds at member ⊢
      rwa [rooms] at member

theorem empty_spaced (store : Store) (redisConnected : Bool) (rand : List Nat) :
    (World.empty data store redisConnected rand).scene.AllSpaced
      (World.empty data store redisConnected rand).routing := by
  intro r
  constructor
  case players => exact fun id member => absurd member List.not_mem_nil
  case monsters => exact List.nodup_nil
  case apart => exact fun id member => absurd member List.not_mem_nil
  case playerTiles => exact fun id member => absurd member List.not_mem_nil
  case monsterTiles => exact fun m found => absurd found List.not_mem_nil

theorem openTown_fields (w : World) (channel : Int) (roomId : RoomName) (r : RoomRef)
    (other : r ≠ w.routing.roomCount) :
    (w.openTown data channel roomId).scene.fields r = w.scene.fields r := by
  obtain ⟨born, births, -⟩ := initFromConfig_births data
    (w.routing.addRoom (Room.create .town channel 0)) w.routing.roomCount roomId w.scene w.idGen
  have kept := (births_keep data _ _ births).2.2 r other
  exact kept.trans (Function.update_of_ne other _ _)

theorem openTown_spaced (w : World) (channel : Int) (roomId : RoomName)
    (blank : w.routing.Blank) (empty : (w.scene.fields w.routing.roomCount).monsters = [])
    (fine : (w.openTown data channel roomId).scene.fault = none) :
    w.scene.fault = none ∧ (w.scene.AllSpaced w.routing →
      (w.openTown data channel roomId).scene.AllSpaced (w.openTown data channel roomId).routing) := by
  have nobody (r : RoomRef) (id : ObjectId) :
      id ∉ playerIds (w.routing.addRoom (Room.create .town channel 0)) r := by
    intro member
    have before := Routing.players_addRoom w.routing r id .town channel 0 member
    rw [blank.players] at before
    cases before
  obtain ⟨before, onward⟩ := initFromConfig_spaced data
    (w.routing.addRoom (Room.create .town channel 0)) w.routing.roomCount roomId w.scene w.idGen
    empty (nobody _) fine
  refine ⟨before, fun spaced => ?_⟩
  have start : w.scene.AllSpaced (w.routing.addRoom (Room.create .town channel 0)) :=
    fun r => (spaced r).fewer fun id member => absurd member (nobody r id)
  exact fun r => (onward start r).fewer fun id member => member

theorem init_spaced (store : Store) (redisConnected : Bool) (rand : List Nat)
    (started : (World.init data store redisConnected rand).scene.fault = none) :
    (World.init data store redisConnected rand).scene.AllSpaced
      (World.init data store redisConnected rand).routing := by
  have empty := empty_spaced data store redisConnected rand
  have blank := empty_blank data store redisConnected rand
  unfold World.init at started ⊢
  dsimp only at started ⊢
  split at started
  case isFalse unloaded =>
    rw [if_neg unloaded]
    exact empty
  case isTrue loaded =>
    rw [if_pos loaded]
    have blank' := openTown_blank data (World.empty data store redisConnected rand) 1 .town1 blank
    have untouched : (((World.empty data store redisConnected rand).openTown data 1
        .town1).scene.fields 1).monsters = [] := by
      rw [openTown_fields data _ 1 .town1 1 Nat.one_ne_zero]
      rfl
    have second := openTown_spaced data _ 2 .town2 blank' untouched started
    have first := openTown_spaced data (World.empty data store redisConnected rand) 1 .town1 blank
      rfl second.1
    exact second.2 (first.2 empty)

/-- In every run of a server that has found cells for its first monsters, the creatures of
the rooms are apart and on walkable tiles throughout exactly when every job puts its player
where there is room for it, in each room the player is in. -/
theorem occupancy_iff (store : Store) (redisConnected : Bool) (rand : List Nat)
    (events : List Event)
    (started : (World.init data store redisConnected rand).scene.fault = none) :
    Runs.EveryState (World.step data) (World.Occupied data)
        (World.init data store redisConnected rand) events ↔
      Runs.EachStep (World.step data) KeepsApart (World.init data store redisConnected rand)
        events := by
  apply Runs.everyState_iff (fun _ _ => True) KeepsApart
    (fun w => w.Orderly ∧ w.scene.AllSpaced w.routing)
  · rintro w ⟨orderly, spaced⟩
    refine ⟨spaced, fun pass r steps rand scene _ _ between fine => ?_⟩
    exact between_spaced data w r rand scene orderly.numbered spaced between fine
  · rintro w e next ⟨orderly, spaced⟩ _ stepped apart
    exact ⟨step_orderly data w next e orderly stepped,
      (step_spaced_iff data w next e orderly spaced stepped).mpr apart⟩
  · rintro w e next ⟨orderly, spaced⟩ _ stepped occupied
    exact (step_spaced_iff data w next e orderly spaced stepped).mp occupied.1
  · exact ⟨init_orderly data store redisConnected rand,
      init_spaced data store redisConnected rand started⟩
  · exact Runs.eachStep_true _ _

/-- `FreeFor`, computed. -/
def freeFor (routing : Routing) (scene : Scene) (r : RoomRef) (id : ObjectId) (pos : Vec2Int) :
    Bool :=
  ((scene.fields r).tilemap.getTileAt pos).any (· ≠ 1) &&
    (playerIds routing r).all (fun other =>
      other = id ∨ (scene.players other).info.cellPos ≠ pos) &&
    (scene.fields r).monsters.all fun m => m.info.cellPos ≠ pos

theorem freeFor_sound (routing : Routing) (scene : Scene) (r : RoomRef) (id : ObjectId)
    (pos : Vec2Int) (checked : freeFor routing scene r id pos = true) :
    scene.FreeFor routing r id pos := by
  simp only [freeFor, Bool.and_eq_true, List.all_eq_true, decide_eq_true_eq,
    Option.any_eq_true] at checked
  obtain ⟨⟨⟨tile, there, floor⟩, players⟩, monsters⟩ := checked
  refine ⟨⟨tile, there, floor⟩, fun other member apart => ?_, monsters⟩
  exact (players other member).resolve_left apart

/-- There is room for the player of the next job in all rooms that were made. -/
def findsRoom (w : World) : Event → Bool
  | .job rand =>
      match w.routing.nextJob with
      | some (r, .enterRoom _ id, rest) =>
          let v := w.forJob r rest rand
          freeFor v.routing v.scene r id entrance &&
            (List.range v.routing.roomCount).all fun r' =>
              id ∉ playerIds v.routing r' ∨ freeFor v.routing v.scene r' id entrance
      | some (r, .move s pkt, rest) =>
          let v := w.forJob r rest rand
          (moveTarget v.routing r s pkt v.scene).all fun target =>
            (List.range v.routing.roomCount).all fun r' =>
              target.1 ∉ playerIds v.routing r' ∨ freeFor v.routing v.scene r' target.1 target.2
      | _ => true
  | _ => true

theorem findsRoom_apart (w : World) (e : Event) (inRange : w.routing.InRange)
    (checked : findsRoom w e = true) : KeepsApart w e := by
  rintro rand r job rest rfl front
  have ranged := (forJob_keeps w r job rest rand front).inRange inRange
  simp only [findsRoom, front] at checked
  have everywhere (v : World) (inRange : v.routing.InRange) (id : ObjectId) (pos : Vec2Int)
      (all : ∀ r' ∈ List.range v.routing.roomCount,
        id ∉ playerIds v.routing r' ∨ freeFor v.routing v.scene r' id pos = true)
      (r' : RoomRef) (member : id ∈ playerIds v.routing r') :
      v.scene.FreeFor v.routing r' id pos := by
    have made := List.mem_range.mpr (inRange.players r' id member)
    exact freeFor_sound _ _ _ _ _ ((all r' made).resolve_left fun away => away member)
  cases job with
  | enterRoom s id =>
      simp only [Bool.and_eq_true, List.all_eq_true, decide_eq_true_eq] at checked
      rintro r' (rfl | member)
      · exact freeFor_sound _ _ _ _ _ checked.1
      · exact everywhere _ ranged id entrance checked.2 r' member
  | move s pkt =>
      intro id pos moves r' member
      simp only [moves, Option.all_some, List.all_eq_true, decide_eq_true_eq] at checked
      exact everywhere _ ranged id pos checked r' member
  | _ => trivial

/-- The first player steps aside before the second one enters. -/
def stepsAside : List Event :=
  [Event.connect 1, .connect 2, .packet 1 (.login [97])] ++ updateTown 1 ++
    [Event.packet 1 (.move ⟨Dir.left⟩), .packet 1 (.move ⟨Dir.left⟩), .packet 2 (.login [98])] ++
    updateTown 3

set_option maxRecDepth 20000 in
theorem steps_aside_occupied :
    (reached smallGame newStore false [] stepsAside).isSome = true ∧
      Runs.EveryState (World.step smallGame) (World.Occupied smallGame)
        (World.init smallGame newStore false []) stepsAside := by
  have ends : (reached smallGame newStore false [] stepsAside).isSome = true := by decide +kernel
  refine ⟨ends, ?_⟩
  refine (occupancy_iff smallGame newStore false [] stepsAside (by decide +kernel)).mpr ?_
  apply Runs.eachStep_mono (fun w e => findsRoom w e = true) KeepsApart World.Orderly
  · exact fun w e next orderly _ stepped => step_orderly smallGame w next e orderly stepped
  · exact fun w e next orderly _ checked => findsRoom_apart w e orderly.inRange checked
  · exact init_orderly smallGame newStore false []
  · exact Runs.eachStep_of_check findsRoom _ (fun _ _ checked => checked) _ _ (by decide +kernel)

/-- Two players enter the first town one after the other. -/
def enterTogether : List Event :=
  [.connect 1, .connect 2, .packet 1 (.login [97]), .packet 2 (.login [98])] ++ updateTown 2

set_option maxRecDepth 20000 in
theorem enter_together_one_cell :
    (World.init smallGame newStore false []).scene.fault = none ∧
      ¬ Runs.EveryState (World.step smallGame) (World.Occupied smallGame)
        (World.init smallGame newStore false []) enterTogether := by
  refine ⟨by decide +kernel, fun every => ?_⟩
  have run : (reached smallGame newStore false [] enterTogether).any (fun w =>
      1 ∈ playerIds w.routing 0 ∧ 2 ∈ playerIds w.routing 0 ∧
        (w.scene.players 1).info.cellPos = (w.scene.players 2).info.cellPos) = true := by
    decide +kernel
  obtain ⟨w, reached, checked⟩ := Option.any_eq_true _ _ |>.mp run
  obtain ⟨first, second, same⟩ := of_decide_eq_true checked
  have occupied := Runs.everyState_final _ _ w enterTogether every reached
  exact (occupied.1 0).players 1 first 2 second (by decide) same

end ZeldaServer
