import ZeldaServer.Protocol.Messages

/-! The tables `RoomDataManager` holds once they are loaded, and the tile maps. -/

namespace ZeldaServer

/-- `VectorInt` -/
structure Vec2Int where
  x : Int
  y : Int
  deriving DecidableEq

namespace Vec2Int

instance : Add Vec2Int := ⟨fun a b => ⟨a.x + b.x, a.y + b.y⟩⟩

instance : Sub Vec2Int := ⟨fun a b => ⟨a.x - b.x, a.y - b.y⟩⟩

@[simp] theorem add_x (a b : Vec2Int) : (a + b).x = a.x + b.x := rfl
@[simp] theorem add_y (a b : Vec2Int) : (a + b).y = a.y + b.y := rfl
@[simp] theorem sub_x (a b : Vec2Int) : (a - b).x = a.x - b.x := rfl
@[simp] theorem sub_y (a b : Vec2Int) : (a - b).y = a.y - b.y := rfl

/-- `abs(v.x) + abs(v.y)` -/
def manhattan (v : Vec2Int) : Nat := v.x.natAbs + v.y.natAbs

def lengthSquared (v : Vec2Int) : Int := v.x * v.x + v.y * v.y

/-- `operator<`, the order of the cells in a `map<Vec2Int, _>`. -/
def before (a b : Vec2Int) : Bool := if a.x ≠ b.x then a.x < b.x else a.y < b.y

end Vec2Int

structure Tilemap where
  mapSize : Vec2Int
  tiles : List (List Int)
  deriving DecidableEq

/-- The map of a room whose configuration was not found. -/
def Tilemap.empty : Tilemap := ⟨⟨0, 0⟩, []⟩

/-- `Tilemap::GetTileAt`: the tile's value, `none` outside the map. -/
def Tilemap.getTileAt (map : Tilemap) (pos : Vec2Int) : Option Int :=
  if pos.x < 0 ∨ map.mapSize.x ≤ pos.x ∨ pos.y < 0 ∨ map.mapSize.y ≤ pos.y then none
  else some ((map.tiles.getD pos.y.toNat []).getD pos.x.toNat 0)

/-- The room ids of the code: `"town_1"`, `"town_2"` and `"dungeon_forest"`. -/
inductive RoomName where
  | town1
  | town2
  | dungeonForest
  deriving DecidableEq

structure RoomConfigData where
  skillEnabled : Bool
  monsterSpawnEnabled : Bool
  respawnTimeMs : Nat
  tilemap : Tilemap
  maxPlayers : Int
  deriving DecidableEq

/-- `MonsterSpawnData::MonsterInfo` -/
structure MonsterInfo where
  templateId : Int
  count : Int
  aggroRange : Int
  leashRange : Int
  deriving DecidableEq

structure MonsterSpawnData where
  anchor : Vec2Int
  offsets : List Vec2Int
  monsters : List MonsterInfo
  deriving DecidableEq

structure RoomSpawnConfig where
  spawns : List MonsterSpawnData
  deriving DecidableEq

structure MonsterTemplateData where
  name : Bytes
  maxHp : Int
  attack : Int
  defence : Int
  exp : Int
  deriving DecidableEq

structure LevelData where
  requiredExp : Int
  maxHp : Int
  attack : Int
  defence : Int
  deriving DecidableEq

/-- `"weapon"`, `"armor"`, `"consumable"` or another text. -/
inductive ItemType where
  | weapon
  | armor
  | consumable
  | other
  deriving DecidableEq

structure ItemTemplateData where
  type : ItemType
  value : Int
  maxStack : Int
  deriving DecidableEq

structure MonsterDropData where
  itemId : Int
  dropRate : Int
  deriving DecidableEq

/-- The tables by their keys, as `LoadAllData` leaves them; `loaded` is its result. -/
structure GameData where
  loaded : Bool
  roomConfig : RoomName → Option RoomConfigData
  spawnConfig : RoomName → Option RoomSpawnConfig
  monsterTemplate : Int → Option MonsterTemplateData
  levelData : Int → Option LevelData
  itemTemplate : Int → Option ItemTemplateData
  monsterDrops : Int → Option (List MonsterDropData)

end ZeldaServer
