import ZeldaServer.World.Births
import ZeldaServer.World.System

/-! Whether `GetRandomEmptyCellPos` can find a cell: how many cells of a room are free, and how
many monsters are to be put into them. -/

namespace ZeldaServer

def Tilemap.cells (map : Tilemap) : List Vec2Int :=
  (List.range map.mapSize.x.toNat).flatMap fun (x : Nat) =>
    (List.range map.mapSize.y.toNat).map fun (y : Nat) => ⟨x, y⟩

theorem Tilemap.mem_cells (map : Tilemap) (pos : Vec2Int) :
    pos ∈ map.cells ↔ (map.getTileAt pos).isSome = true := by
  obtain ⟨x, y⟩ := pos
  have tile : (map.getTileAt ⟨x, y⟩).isSome = true ↔
      ¬ (x < 0 ∨ map.mapSize.x ≤ x ∨ y < 0 ∨ map.mapSize.y ≤ y) := by
    unfold Tilemap.getTileAt
    split
    · simp_all
    · simp_all
  rw [tile]
  simp only [Tilemap.cells, List.mem_flatMap, List.mem_range, List.mem_map, Vec2Int.mk.injEq]
  constructor
  · rintro ⟨column, left, row, below, rfl, rfl⟩
    omega
  · intro inside
    exact ⟨x.toNat, by omega, y.toNat, by omega, by omega, by omega⟩

theorem Tilemap.cells_nodup (map : Tilemap) : map.cells.Nodup := by
  unfold Tilemap.cells
  rw [List.nodup_flatMap]
  constructor
  · intro x _
    refine List.Nodup.map ?_ List.nodup_range
    intro first second same
    have row : (first : Int) = second := congrArg Vec2Int.y same
    omega
  · refine List.Pairwise.imp ?_ List.nodup_range
    intro first second apart cell inFirst inSecond
    simp only [List.mem_map, List.mem_range] at inFirst inSecond
    obtain ⟨_, _, rfl⟩ := inFirst
    obtain ⟨_, _, same⟩ := inSecond
    apply apart
    have column : (second : Int) = first := congrArg Vec2Int.x same
    omega

section Room

variable (routing : Routing) (r : RoomRef)

def freeCells (scene : Scene) : List Vec2Int :=
  (scene.fields r).tilemap.cells.filter (canGo routing scene r)

theorem mem_freeCells (scene : Scene) (pos : Vec2Int) :
    pos ∈ freeCells routing r scene ↔ canGo routing scene r pos = true := by
  unfold freeCells
  rw [List.mem_filter, Tilemap.mem_cells]
  constructor
  · exact And.right
  · intro free
    refine ⟨?_, free⟩
    unfold canGo at free
    cases tile : (scene.fields r).tilemap.getTileAt pos with
    | none => simp [tile] at free
    | some value => rfl

theorem freeCells_nodup (scene : Scene) : (freeCells routing r scene).Nodup :=
  (Tilemap.cells_nodup _).filter _

theorem mapSize_positive (scene : Scene) (pos : Vec2Int)
    (free : canGo routing scene r pos = true) :
    0 < (scene.fields r).tilemap.mapSize.x ∧ 0 < (scene.fields r).tilemap.mapSize.y := by
  unfold canGo at free
  cases tile : (scene.fields r).tilemap.getTileAt pos with
  | none => simp [tile] at free
  | some value =>
      unfold Tilemap.getTileAt at tile
      split at tile
      · cases tile
      · omega

end Room

structure MonsterPlacement where
  pos : Vec2Int
  aggroRange : Int
  leashRange : Int
  templateId : Int
  deriving DecidableEq

section Placing

variable (data : GameData) (routing : Routing) (r : RoomRef)

def MonsterPlacement.spawn (made : Scene × ObjectId) (placement : MonsterPlacement) :
    Scene × ObjectId :=
  spawnAt data routing r placement.pos placement.aggroRange placement.leashRange
    placement.templateId made

def MonsterPlacement.put (made : Scene × ObjectId) (placement : MonsterPlacement)
    (cell : Vec2Int) : Scene × ObjectId :=
  (addMonster routing r (createMonster data made.2 cell placement.aggroRange placement.leashRange
    placement.templateId) made.1, made.2 + 1)

/-- Monsters put one after the other into the cell meant for them, or, where it is not free, into
any free cell: whatever `rand()` returns. -/
inductive Placing : Scene × ObjectId → List MonsterPlacement → Scene × ObjectId → Prop where
  | done (made : Scene × ObjectId) : Placing made [] made
  | next {made after : Scene × ObjectId} {placement : MonsterPlacement}
      {rest : List MonsterPlacement} (cell : Vec2Int) (free : canGo routing made.1 r cell = true)
      (meant : canGo routing made.1 r placement.pos = true → cell = placement.pos)
      (later : Placing (placement.put data routing r made cell) rest after) :
      Placing made (placement :: rest) after

/-- Every call of `GetRandomEmptyCellPos` finds sizes to divide by and a free cell. -/
def AlwaysFinds (made : Scene × ObjectId) (placements : List MonsterPlacement) : Prop :=
  ∀ front placement back, placements = front ++ placement :: back →
    ∀ now, Placing data routing r made front now →
      canGo routing now.1 r placement.pos = false →
      0 < (now.1.fields r).tilemap.mapSize.x ∧ 0 < (now.1.fields r).tilemap.mapSize.y ∧
        ∃ cell, canGo routing now.1 r cell = true

theorem put_fields (made : Scene × ObjectId) (placement : MonsterPlacement) (cell : Vec2Int) :
    ((placement.put data routing r made cell).1.fields r).tilemap = (made.1.fields r).tilemap ∧
      (placement.put data routing r made cell).1.players = made.1.players ∧
      ((placement.put data routing r made cell).1.fields r).monsters =
        (made.1.fields r).monsters ++ [createMonster data made.2 cell placement.aggroRange
          placement.leashRange placement.templateId] := by
  unfold MonsterPlacement.put addMonster
  have said := Scene.Quiet.broadcast routing r
    (.addObject ⟨[(createMonster data made.2 cell placement.aggroRange placement.leashRange
      placement.templateId).info]⟩)
    (made.1.setField r
      { made.1.fields r with
        monsters := (made.1.fields r).monsters ++
          [createMonster data made.2 cell placement.aggroRange placement.leashRange
            placement.templateId] })
  dsimp only
  rw [said.fields, said.players]
  simp [Scene.setField]

theorem canGo_put (made : Scene × ObjectId) (placement : MonsterPlacement) (cell pos : Vec2Int) :
    canGo routing (placement.put data routing r made cell).1 r pos =
      (canGo routing made.1 r pos && decide (pos ≠ cell)) := by
  obtain ⟨tilemap, players, monsters⟩ := put_fields data routing r made placement cell
  have stands : (createMonster data made.2 cell placement.aggroRange placement.leashRange
      placement.templateId).info.cellPos = cell := rfl
  generalize createMonster data made.2 cell placement.aggroRange placement.leashRange
    placement.templateId = m at monsters stands
  unfold canGo
  rw [tilemap]
  cases (made.1.fields r).tilemap.getTileAt pos with
  | none => rfl
  | some tile =>
      unfold creatureAt playerAt monsterAt
      rw [players, monsters, List.find?_append]
      cases (playerIds routing r).find? fun id => (made.1.players id).info.cellPos = pos with
      | some id => simp
      | none =>
          cases (made.1.fields r).monsters.find? (·.info.cellPos = pos) with
          | some m => simp
          | none =>
              by_cases same : cell = pos
              · simp [stands, same]
              · simp [stands, same, Ne.symm same]

theorem freeCells_put (made : Scene × ObjectId) (placement : MonsterPlacement) (cell : Vec2Int)
    (free : canGo routing made.1 r cell = true) :
    (freeCells routing r (placement.put data routing r made cell).1).length + 1 =
      (freeCells routing r made.1).length := by
  have cells : freeCells routing r (placement.put data routing r made cell).1 =
      (freeCells routing r made.1).erase cell := by
    rw [(freeCells_nodup routing r made.1).erase_eq_filter]
    unfold freeCells
    rw [(put_fields data routing r made placement cell).1, List.filter_filter]
    apply List.filter_congr
    intro pos _
    rw [canGo_put, Bool.and_comm]
    congr 1
    by_cases same : pos = cell <;> simp [same]
  have member := (mem_freeCells routing r made.1 cell).mpr free
  rw [cells, List.length_erase_of_mem member]
  have positive := List.length_pos_of_mem member
  omega

theorem Placing.length_freeCells {made after : Scene × ObjectId}
    {placements : List MonsterPlacement} (placing : Placing data routing r made placements after) :
    (freeCells routing r after.1).length + placements.length =
      (freeCells routing r made.1).length := by
  induction placing with
  | done made => rfl
  | @next made after placement rest cell free _ _ ih =>
      have one := freeCells_put data routing r made placement cell free
      rw [List.length_cons]
      omega

theorem Placing.exists_of_room (made : Scene × ObjectId) (placements : List MonsterPlacement)
    (room_left : placements.length ≤ (freeCells routing r made.1).length) :
    ∃ after, Placing data routing r made placements after := by
  induction placements generalizing made with
  | nil => exact ⟨made, .done made⟩
  | cons placement rest ih =>
      rw [List.length_cons] at room_left
      obtain ⟨cell, free, meant⟩ : ∃ cell, canGo routing made.1 r cell = true ∧
          (canGo routing made.1 r placement.pos = true → cell = placement.pos) := by
        by_cases there : canGo routing made.1 r placement.pos = true
        · exact ⟨placement.pos, there, fun _ => rfl⟩
        · obtain ⟨cell, member⟩ := List.exists_mem_of_length_pos
            (show 0 < (freeCells routing r made.1).length by omega)
          exact ⟨cell, (mem_freeCells routing r made.1 cell).mp member,
            fun free => absurd free there⟩
      have one := freeCells_put data routing r made placement cell free
      obtain ⟨after, later⟩ := ih (placement.put data routing r made cell) (by omega)
      exact ⟨after, .next cell free meant later⟩

theorem alwaysFinds_iff (made : Scene × ObjectId) (placements : List MonsterPlacement) :
    AlwaysFinds data routing r made placements ↔
      placements.length ≤ (freeCells routing r made.1).length := by
  constructor
  · intro finds
    by_contra more
    have split : placements = placements.take (freeCells routing r made.1).length ++
        placements.drop (freeCells routing r made.1).length := (List.take_append_drop _ _).symm
    have length : (placements.take (freeCells routing r made.1).length).length =
        (freeCells routing r made.1).length := by
      rw [List.length_take]
      omega
    obtain ⟨now, placing⟩ := Placing.exists_of_room data routing r made _ (le_of_eq length)
    have none_left := placing.length_freeCells
    cases rest : placements.drop (freeCells routing r made.1).length with
    | nil =>
        rw [List.drop_eq_nil_iff] at rest
        omega
    | cons placement back =>
        rw [rest] at split
        have nothing (cell : Vec2Int) : canGo routing now.1 r cell ≠ true := by
          intro free
          have positive := List.length_pos_of_mem ((mem_freeCells routing r now.1 cell).mpr free)
          omega
        obtain ⟨-, -, cell, free⟩ := finds _ placement back split now placing
          (eq_false_of_ne_true (nothing _))
        exact nothing cell free
  · rintro enough front placement back rfl now placing -
    have left := placing.length_freeCells
    rw [List.length_append, List.length_cons] at enough
    obtain ⟨cell, member⟩ := List.exists_mem_of_length_pos
      (show 0 < (freeCells routing r now.1).length by omega)
    have free := (mem_freeCells routing r now.1 cell).mp member
    obtain ⟨columns, rows⟩ := mapSize_positive routing r now.1 cell free
    exact ⟨columns, rows, cell, free⟩

theorem spawn_places (made : Scene × ObjectId) (placement : MonsterPlacement)
    (fine : (placement.spawn data routing r made).1.fault = none) :
    made.1.fault = none ∧ ∃ cell now, made.1.Quiet now ∧
      canGo routing made.1 r cell = true ∧
      (canGo routing made.1 r placement.pos = true → cell = placement.pos) ∧
      placement.spawn data routing r made = placement.put data routing r (now, made.2) cell := by
  have kept (now : Scene) (cell : Vec2Int) (quiet : made.1.Quiet now)
      (ends : (placement.put data routing r (now, made.2) cell).1.fault = none) :
      now.fault = none := by
    unfold MonsterPlacement.put addMonster at ends
    have before := (Scene.Quiet.broadcast routing r _ _).fault ends
    exact before
  by_cases free : canGo routing made.1 r placement.pos = true
  · have same : placement.spawn data routing r made =
        placement.put data routing r (made.1, made.2) placement.pos := by
      unfold MonsterPlacement.spawn spawnAt
      dsimp only
      rw [if_pos free]
      rfl
    rw [same] at fine
    exact ⟨kept _ _ (.refl _) fine, placement.pos, made.1, .refl _, free, fun _ => rfl, same⟩
  · obtain ⟨quiet, found⟩ :=
      randomEmptyCellPos_spec routing r (made.1.rand.length + 1) made.1
    have same : placement.spawn data routing r made =
        placement.put data routing r
          ((randomEmptyCellPos routing r made.1 (made.1.rand.length + 1)).2, made.2)
          (randomEmptyCellPos routing r made.1 (made.1.rand.length + 1)).1 := by
      unfold MonsterPlacement.spawn spawnAt
      dsimp only
      rw [if_neg free]
      rfl
    rw [same] at fine
    obtain ⟨before, there⟩ := found (kept _ _ quiet fine)
    exact ⟨before, _, _, quiet, there, fun meant => absurd meant free, same⟩

theorem put_same {made : Scene × ObjectId} {now : Scene} (same : made.1.SameObjects now)
    (placement : MonsterPlacement) (cell : Vec2Int) :
    (placement.put data routing r made cell).1.SameObjects
      (placement.put data routing r (now, made.2) cell).1 := by
  have first := Scene.Quiet.broadcast routing r
    (.addObject ⟨[(createMonster data made.2 cell placement.aggroRange placement.leashRange
      placement.templateId).info]⟩)
    (made.1.setField r
      { made.1.fields r with
        monsters := (made.1.fields r).monsters ++
          [createMonster data made.2 cell placement.aggroRange placement.leashRange
            placement.templateId] })
  have second := Scene.Quiet.broadcast routing r
    (.addObject ⟨[(createMonster data made.2 cell placement.aggroRange placement.leashRange
      placement.templateId).info]⟩)
    (now.setField r
      { now.fields r with
        monsters := (now.fields r).monsters ++
          [createMonster data made.2 cell placement.aggroRange placement.leashRange
            placement.templateId] })
  constructor
  · exact second.players.trans (same.players.trans first.players.symm)
  · apply second.fields.trans
    rw [Scene.setField, same.fields]
    exact first.fields.symm

theorem spawns_place (placements : List MonsterPlacement) (made : Scene × ObjectId) (now : Scene)
    (same : now.SameObjects made.1)
    (fine : (placements.foldl (MonsterPlacement.spawn data routing r) made).1.fault = none) :
    made.1.fault = none ∧ ∃ after, Placing data routing r (now, made.2) placements after ∧
      after.1.SameObjects (placements.foldl (MonsterPlacement.spawn data routing r) made).1 := by
  induction placements generalizing made now with
  | nil => exact ⟨fine, (now, made.2), .done _, same⟩
  | cons placement rest ih =>
      rw [List.foldl_cons] at fine ⊢
      have middle := (ih (placement.spawn data routing r made) _ (.refl _) fine).1
      obtain ⟨before, cell, drawn, quiet, free, meant, spawned⟩ :=
        spawn_places data routing r made placement middle
      have put : (placement.put data routing r (now, made.2) cell).1.SameObjects
          (placement.spawn data routing r made).1 := by
        have start : (now, made.2).1.SameObjects drawn := same.trans quiet.toSameObjects
        rw [spawned]
        exact put_same data routing r start placement cell
      obtain ⟨-, after, later, final⟩ := ih (placement.spawn data routing r made) _ put fine
      refine ⟨before, after, .next cell ?_ ?_ ?_, final⟩
      · rw [← canGo_congr same]
        exact free
      · rw [← canGo_congr same]
        exact meant
      · have next : (placement.spawn data routing r made).2 = made.2 + 1 := by
          rw [spawned]
          rfl
        rw [next] at later
        exact later

def entryPlacements (anchor : Vec2Int) (entry : MonsterInfo) (offsets : List Vec2Int) :
    List MonsterPlacement × List Vec2Int :=
  match data.monsterTemplate entry.templateId with
  | none => ([], offsets)
  | some _ =>
      ((offsets.take entry.count.toNat).map fun offset =>
        ⟨anchor + offset, entry.aggroRange, entry.leashRange, entry.templateId⟩,
        offsets.drop entry.count.toNat)

def groupPlacements (anchor : Vec2Int) : List MonsterInfo → List Vec2Int → List MonsterPlacement
  | [], _ => []
  | entry :: entries, offsets =>
      let placed := entryPlacements data anchor entry offsets
      placed.1 ++ groupPlacements anchor entries placed.2

/-- What `SpawnMonstersFromData` places; without a configuration nothing. -/
def spawnPlacements (spawnConfig : Option RoomSpawnConfig) : List MonsterPlacement :=
  match spawnConfig with
  | none => []
  | some config =>
      config.spawns.flatMap fun group =>
        groupPlacements data group.anchor group.monsters group.offsets

/-- What `ProcessRespawn` places. -/
def RespawnRequest.placement (request : RespawnRequest) : MonsterPlacement :=
  ⟨request.homePos, request.aggroRange, request.leashRange, request.templateId⟩

def respawnPlacements (scene : Scene) : List MonsterPlacement :=
  ((scene.fields r).respawnQueue.filter (·.due ≤ scene.now)).map (·.placement)

theorem spawnEntry_placements (anchor : Vec2Int) (entry : MonsterInfo)
    (made : (Scene × ObjectId) × List Vec2Int) :
    spawnEntry data routing r anchor entry made =
      ((entryPlacements data anchor entry made.2).1.foldl (MonsterPlacement.spawn data routing r)
        made.1, (entryPlacements data anchor entry made.2).2) := by
  unfold spawnEntry entryPlacements
  cases data.monsterTemplate entry.templateId with
  | none => rfl
  | some templateData =>
      dsimp only
      rw [List.foldl_map]
      rfl

theorem spawnGroup_placements (made : Scene × ObjectId) (group : MonsterSpawnData) :
    spawnGroup data routing r made group =
      (groupPlacements data group.anchor group.monsters group.offsets).foldl
        (MonsterPlacement.spawn data routing r) made := by
  unfold spawnGroup
  generalize group.offsets = offsets
  induction group.monsters generalizing made offsets with
  | nil => rfl
  | cons entry entries ih =>
      rw [List.foldl_cons, groupPlacements, List.foldl_append, spawnEntry_placements]
      exact ih _ _

theorem spawns_placements (made : Scene × ObjectId) (config : RoomSpawnConfig) :
    config.spawns.foldl (spawnGroup data routing r) made =
      (spawnPlacements data (some config)).foldl (MonsterPlacement.spawn data routing r) made := by
  unfold spawnPlacements
  dsimp only
  induction config.spawns generalizing made with
  | nil => rfl
  | cons group groups ih =>
      rw [List.foldl_cons, List.flatMap_cons, List.foldl_append, ih, spawnGroup_placements]

/-- The room has the same free cells: only its queue of respawns may be another. -/
structure Scene.SameSpots (a b : Scene) : Prop where
  players : b.players = a.players
  tilemap : (b.fields r).tilemap = (a.fields r).tilemap
  monsters : (b.fields r).monsters = (a.fields r).monsters

theorem canGo_spots {a b : Scene} (same : a.SameSpots r b) (pos : Vec2Int) :
    canGo routing b r pos = canGo routing a r pos := by
  unfold canGo creatureAt playerAt monsterAt
  rw [same.tilemap, same.players, same.monsters]

theorem put_spots {made : Scene × ObjectId} {now : Scene} (same : made.1.SameSpots r now)
    (placement : MonsterPlacement) (cell : Vec2Int) :
    (placement.put data routing r made cell).1.SameSpots r
      (placement.put data routing r (now, made.2) cell).1 := by
  obtain ⟨tilemap, players, monsters⟩ := put_fields data routing r made placement cell
  obtain ⟨tilemap', players', monsters'⟩ :=
    put_fields data routing r (now, made.2) placement cell
  constructor
  · rw [players', players, same.players]
  · rw [tilemap', tilemap, same.tilemap]
  · rw [monsters', monsters, same.monsters]

theorem spawn_spots (placement : MonsterPlacement) (made : Scene × ObjectId) (now : Scene)
    (same : now.SameSpots r made.1) (fine : (placement.spawn data routing r made).1.fault = none) :
    made.1.fault = none ∧ (placement.spawn data routing r made).1.now = made.1.now ∧
      (placement.spawn data routing r made).2 = made.2 + 1 ∧
      ∃ cell, canGo routing now r cell = true ∧
        (canGo routing now r placement.pos = true → cell = placement.pos) ∧
        (placement.put data routing r (now, made.2) cell).1.SameSpots r
          (placement.spawn data routing r made).1 := by
  obtain ⟨before, cell, drawn, quiet, free, meant, spawned⟩ :=
    spawn_places data routing r made placement fine
  have start : Scene.SameSpots r (now, made.2).1 drawn := by
    constructor
    · rw [quiet.players, same.players]
    · rw [quiet.fields, same.tilemap]
    · rw [quiet.fields, same.monsters]
  rw [canGo_spots routing r same] at free meant
  rw [spawned]
  exact ⟨before, (Scene.Quiet.broadcast routing r _ _).now.trans quiet.now, rfl, cell, free, meant,
    put_spots data routing r start placement cell⟩

/-- The requests that are due are placed, in their order; the others go back into the queue. -/
theorem respawns_place (requests : List RespawnRequest) (made : Scene × ObjectId) (now : Scene)
    (same : now.SameSpots r made.1)
    (fine : (requests.foldl (respawn data routing r) made).1.fault = none) :
    made.1.fault = none ∧ ∃ after,
      Placing data routing r (now, made.2)
        ((requests.filter (·.due ≤ made.1.now)).map (·.placement)) after ∧
      after.1.SameSpots r (requests.foldl (respawn data routing r) made).1 := by
  induction requests generalizing made now with
  | nil => exact ⟨fine, (now, made.2), .done _, same⟩
  | cons request requests ih =>
      rw [List.foldl_cons] at fine ⊢
      by_cases waits : made.1.now < request.due
      · have queued : respawn data routing r made request =
            (made.1.waitFor r request, made.2) := if_pos waits
        have still : now.SameSpots r (made.1.waitFor r request) := by
          constructor
          · exact same.players
          · simpa [Scene.waitFor, Scene.setField] using same.tilemap
          · simpa [Scene.waitFor, Scene.setField] using same.monsters
        rw [queued] at fine ⊢
        rw [List.filter_cons_of_neg (by simpa using waits)]
        exact ih (made.1.waitFor r request, made.2) now still fine
      · have spawns : respawn data routing r made request =
            request.placement.spawn data routing r made := if_neg waits
        rw [spawns] at fine ⊢
        have middle := (ih (request.placement.spawn data routing r made) _ ⟨rfl, rfl, rfl⟩ fine).1
        obtain ⟨before, clock, next, cell, free, meant, put⟩ :=
          spawn_spots data routing r request.placement made now same middle
        obtain ⟨-, after, later, final⟩ :=
          ih (request.placement.spawn data routing r made) _ put fine
        rw [clock, next] at later
        refine ⟨before, after, ?_, final⟩
        rw [List.filter_cons_of_pos (by simpa using waits), List.map_cons]
        exact .next cell free meant later

/-- `Tick` places what `respawnPlacements` says. -/
theorem spawnTick_places (scene : Scene) (idGen : ObjectId)
    (spawns : shouldSpawn (scene.fields r) = true)
    (fine : (spawnTick data routing r scene idGen).1.fault = none) :
    ∃ after, Placing data routing r (scene, idGen) (respawnPlacements r scene) after ∧
      after.1.SameSpots r (spawnTick data routing r scene idGen).1 := by
  have drained : spawnTick data routing r scene idGen =
      (scene.fields r).respawnQueue.foldl (respawn data routing r)
        (scene.setField r { scene.fields r with respawnQueue := [] }, idGen) := if_pos spawns
  rw [drained] at fine ⊢
  have same : scene.SameSpots r (scene.setField r { scene.fields r with respawnQueue := [] }) := by
    constructor
    · rfl
    · simp [Scene.setField]
    · simp [Scene.setField]
  exact (respawns_place data routing r (scene.fields r).respawnQueue _ scene same fine).2

/-- Both find a cell in every call of `GetRandomEmptyCellPos` if and only if the room has a free
cell for every monster that they create. -/
theorem spawning_finds_cells_iff (made : Scene × ObjectId) :
    (∀ spawnConfig, AlwaysFinds data routing r made (spawnPlacements data spawnConfig) ↔
      (spawnPlacements data spawnConfig).length ≤ (freeCells routing r made.1).length) ∧
    (AlwaysFinds data routing r made (respawnPlacements r made.1) ↔
      (respawnPlacements r made.1).length ≤ (freeCells routing r made.1).length) :=
  ⟨fun spawnConfig => alwaysFinds_iff data routing r made (spawnPlacements data spawnConfig),
    alwaysFinds_iff data routing r made (respawnPlacements r made.1)⟩

end Placing

/-- A dungeon without a map, and one monster to be put into it. -/
theorem no_map_divides_by_zero :
    ¬ ∀ (data : GameData) (routing : Routing) (r : RoomRef) (made : Scene × ObjectId)
      (spawnConfig : Option RoomSpawnConfig),
      AlwaysFinds data routing r made (spawnPlacements data spawnConfig) := by
  intro all
  let w := World.empty huntGame newStore false []
  have finds := all huntGame w.routing 0 (w.scene, 1)
    (some ⟨[⟨⟨5, 4⟩, [⟨0, 0⟩], [⟨1, 1, 5, 5⟩]⟩]⟩)
  have columns := (finds [] ⟨⟨5, 4⟩, 5, 5, 1⟩ [] (by decide) (w.scene, 1) (.done _) (by decide)).1
  exact absurd columns (by decide)

end ZeldaServer
