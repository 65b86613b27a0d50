import ZeldaServer.Datasheets.Endings

/-! The five loaders of tables, and `LoadAllData`. -/

namespace ZeldaServer

namespace RoomDataManager

/-- The files as `fs::exists` and `ifstream` find them. The conversion of a name to a path may
throw, but not for plain ASCII names. -/
structure FileSystem where
  pathExists : Text → Except Exn Bool
  content : Text → Option Text
  plain : ∀ name : Text, (∀ c ∈ name, c.toNat < 128) → ∃ found, pathExists name = .ok found

def firstExisting (fs : FileSystem) (relativePath : Text) : List Text → Except Exn Text
  | [] => .ok relativePath
  | candidate :: candidates => do
      if ← fs.pathExists candidate then return candidate
      firstExisting fs relativePath candidates

def resolveExistingPath (fs : FileSystem) (relativePath : Text) : Except Exn Text :=
  firstExisting fs relativePath
    [relativePath, "../".toList ++ relativePath, "../../".toList ++ relativePath,
      "../../../".toList ++ relativePath]

/-- The lines that `getline(file, line)` gives; there is none behind the last newline. -/
def fileLines (text : Text) : List Text :=
  let pieces := text.splitOn '\n'
  if pieces.getLast? = some [] then pieces.dropLast else pieces

def rowsOf (text : Text) : List Text := (fileLines text).tail.filter (· ≠ [])

/-- `getline(ss, token, ',')`: at the end of the line the token stays as it is. -/
def getField (token : Text) : List Text → Text × List Text
  | [] => (token, [])
  | piece :: pieces => (piece, pieces)

def loadRows {Data Table : Type} (readRow : List Text → Except Exn Data)
    (insert : Table → Data → Table) (table : Table) (file : Option Text) :
    Except Exn (Bool × Table) :=
  match file with
  | none => .ok (false, table)
  | some text => do
      let table ← (rowsOf text).foldlM (fun table line => do
        let data ← readRow (line.splitOn ',')
        return insert table data) table
      return (true, table)

structure RoomConfigData where
  roomId : Text
  roomName : Text
  skillEnabled : Bool
  monsterSpawnEnabled : Bool
  respawnTimeMs : UInt32
  tilemapPath : Text
  maxPlayers : Int32
  isInstance : Bool
  deriving DecidableEq

structure MonsterTemplateData where
  templateId : Int32
  name : Text
  maxHp : Int32
  attack : Int32
  defence : Int32
  exp : Int32
  deriving DecidableEq

structure LevelData where
  level : Int32
  requiredExp : Int32
  maxHp : Int32
  attack : Int32
  defence : Int32
  deriving DecidableEq

structure ItemTemplateData where
  itemId : Int32
  name : Text
  type : Text
  value : Int32
  maxStack : Int32
  deriving DecidableEq

structure MonsterDropData where
  templateId : Int32
  itemId : Int32
  dropRate : Int32
  deriving DecidableEq

def parseBool (value : Text) : Bool :=
  value = "true".toList ∨ value = "TRUE".toList ∨ value = "1".toList

def readRoomConfig (fs : FileSystem) (pieces : List Text) : Except Exn RoomConfigData := do
  let (roomId, pieces) := getField [] pieces
  let (roomName, pieces) := getField [] pieces
  let (token, pieces) := getField [] pieces
  let skillEnabled := parseBool token
  let (token, pieces) := getField token pieces
  let monsterSpawnEnabled := parseBool token
  let (token, pieces) := getField token pieces
  let respawnTimeMs ← parseInt token
  let (token, pieces) := getField token pieces
  let tilemapPath ← resolveExistingPath fs token
  let (token, pieces) := getField token pieces
  let maxPlayers ← parseInt token
  let (token, _) := getField token pieces
  let isInstance := parseBool token
  return { roomId, roomName, skillEnabled, monsterSpawnEnabled,
           respawnTimeMs := respawnTimeMs.toUInt32, tilemapPath, maxPlayers, isInstance }

def readMonsterTemplate (pieces : List Text) : Except Exn MonsterTemplateData := do
  let (token, pieces) := getField [] pieces
  let templateId ← parseInt token
  let (name, pieces) := getField [] pieces
  let (token, pieces) := getField token pieces
  let maxHp ← parseInt token
  let (token, pieces) := getField token pieces
  let attack ← parseInt token
  let (token, pieces) := getField token pieces
  let defence ← parseInt token
  let (token, _) := getField token pieces
  let exp ← parseInt token
  return { templateId, name, maxHp, attack, defence, exp }

def readLevelData (pieces : List Text) : Except Exn LevelData := do
  let (token, pieces) := getField [] pieces
  let level ← parseInt token
  let (token, pieces) := getField token pieces
  let requiredExp ← parseInt token
  let (token, pieces) := getField token pieces
  let maxHp ← parseInt token
  let (token, pieces) := getField token pieces
  let attack ← parseInt token
  let (token, _) := getField token pieces
  let defence ← parseInt token
  return { level, requiredExp, maxHp, attack, defence }

def readItemTemplate (pieces : List Text) : Except Exn ItemTemplateData := do
  let (token, pieces) := getField [] pieces
  let itemId ← parseInt token
  let (name, pieces) := getField [] pieces
  let (type, pieces) := getField [] pieces
  let (token, pieces) := getField token pieces
  let value ← parseInt token
  let (token, _) := getField token pieces
  let maxStack ← parseInt token
  return { itemId, name, type, value, maxStack }

def readMonsterDrop (pieces : List Text) : Except Exn MonsterDropData := do
  let (token, pieces) := getField [] pieces
  let templateId ← parseInt token
  let (token, pieces) := getField token pieces
  let itemId ← parseInt token
  let (token, _) := getField token pieces
  let dropRate ← parseInt token
  return { templateId, itemId, dropRate }

/-- `_roomConfigs`, `_spawnConfigs` and so on. -/
structure Tables where
  roomConfigs : Text → Option RoomConfigData
  monsterTemplates : Int32 → Option MonsterTemplateData
  spawnConfigs : SpawnConfigs
  levelData : Int32 → Option LevelData
  itemTemplates : Int32 → Option ItemTemplateData
  monsterDrops : Int32 → List MonsterDropData

def loadRoomConfigs (fs : FileSystem) (tables : Tables) (csvPath : Text) :
    Except Exn (Bool × Tables) :=
  loadRows (readRoomConfig fs)
    (fun tables data =>
      { tables with roomConfigs := Function.update tables.roomConfigs data.roomId (some data) })
    tables (fs.content csvPath)

def loadMonsterTemplates (fs : FileSystem) (tables : Tables) (csvPath : Text) :
    Except Exn (Bool × Tables) :=
  loadRows readMonsterTemplate
    (fun tables data =>
      { tables with
        monsterTemplates := Function.update tables.monsterTemplates data.templateId (some data) })
    tables (fs.content csvPath)

def loadMonsterSpawns (fs : FileSystem) (tables : Tables) (jsonPath : Text) :
    Code (Bool × Tables) :=
  match fs.content jsonPath with
  | none => return (false, tables)
  | some jsonContent => do
      let (success, spawnConfigs) ← parseMonsterSpawnJson jsonContent tables.spawnConfigs
      return (success, { tables with spawnConfigs })

def loadLevelData (fs : FileSystem) (tables : Tables) (csvPath : Text) :
    Except Exn (Bool × Tables) :=
  loadRows readLevelData
    (fun tables data =>
      { tables with levelData := Function.update tables.levelData data.level (some data) })
    tables (fs.content csvPath)

def loadItemTemplates (fs : FileSystem) (tables : Tables) (csvPath : Text) :
    Except Exn (Bool × Tables) :=
  loadRows readItemTemplate
    (fun tables data =>
      { tables with itemTemplates := Function.update tables.itemTemplates data.itemId (some data) })
    tables (fs.content csvPath)

def loadMonsterDrops (fs : FileSystem) (tables : Tables) (csvPath : Text) :
    Except Exn (Bool × Tables) :=
  loadRows readMonsterDrop
    (fun tables data =>
      { tables with
        monsterDrops := Function.update tables.monsterDrops data.templateId
          (tables.monsterDrops data.templateId ++ [data]) })
    tables (fs.content csvPath)

def roomConfigPath : Text := "../Datasheets/RoomConfig.csv".toList
def monsterTemplatePath : Text := "../Datasheets/MonsterTemplate.csv".toList
def monsterSpawnPath : Text := "../Datasheets/MonsterSpawn.json".toList
def levelDataPath : Text := "../Datasheets/LevelData.csv".toList
def itemTemplatePath : Text := "../Datasheets/ItemTemplate.csv".toList
def monsterDropPath : Text := "../Datasheets/MonsterDrop.csv".toList

def loadAllData (fs : FileSystem) (tables : Tables) : Code (Bool × Tables) := do
  let path ← .ofExcept (resolveExistingPath fs roomConfigPath)
  let (rooms, tables) ← .ofExcept (loadRoomConfigs fs tables path)
  let path ← .ofExcept (resolveExistingPath fs monsterTemplatePath)
  let (templates, tables) ← .ofExcept (loadMonsterTemplates fs tables path)
  let path ← .ofExcept (resolveExistingPath fs monsterSpawnPath)
  let (spawns, tables) ← loadMonsterSpawns fs tables path
  let path ← .ofExcept (resolveExistingPath fs levelDataPath)
  let (levels, tables) ← .ofExcept (loadLevelData fs tables path)
  let path ← .ofExcept (resolveExistingPath fs itemTemplatePath)
  let (items, tables) ← .ofExcept (loadItemTemplates fs tables path)
  let path ← .ofExcept (resolveExistingPath fs monsterDropPath)
  let (drops, tables) ← .ofExcept (loadMonsterDrops fs tables path)
  return (rooms && templates && spawns && levels && items && drops, tables)

inductive Column where
  /-- Read into a string of its own. -/
  | text
  | flag
  | number
  | path
  deriving DecidableEq

/-- The conversions that a row needs, in order; a missing field is read as the one before it. -/
def convertRow (fs : FileSystem) : List Column → Text → List Text → Except Exn Unit
  | [], _, _ => .ok ()
  | .text :: columns, token, pieces => convertRow fs columns token pieces.tail
  | .flag :: columns, token, pieces =>
      convertRow fs columns (getField token pieces).1 pieces.tail
  | .number :: columns, token, pieces => do
      let _ ← parseInt (getField token pieces).1
      convertRow fs columns (getField token pieces).1 pieces.tail
  | .path :: columns, token, pieces => do
      let _ ← resolveExistingPath fs (getField token pieces).1
      convertRow fs columns (getField token pieces).1 pieces.tail

def roomConfigColumns : List Column := [.text, .text, .flag, .flag, .number, .path, .number, .flag]
def monsterTemplateColumns : List Column := [.number, .text, .number, .number, .number, .number]
def levelDataColumns : List Column := [.number, .number, .number, .number, .number]
def itemTemplateColumns : List Column := [.number, .text, .text, .number, .number]
def monsterDropColumns : List Column := [.number, .number, .number]

theorem getField_tail (token : Text) (pieces : List Text) :
    (getField token pieces).2 = pieces.tail := by
  cases pieces with
  | nil => rfl
  | cons piece pieces => rfl

theorem readRoomConfig_converts (fs : FileSystem) (pieces : List Text) :
    (fun _ => ()) <$> readRoomConfig fs pieces = convertRow fs roomConfigColumns [] pieces := by
  simp only [readRoomConfig, roomConfigColumns, convertRow, getField_tail, map_bind, map_pure]
  rfl

theorem readMonsterTemplate_converts (fs : FileSystem) (pieces : List Text) :
    (fun _ => ()) <$> readMonsterTemplate pieces =
      convertRow fs monsterTemplateColumns [] pieces := by
  simp only [readMonsterTemplate, monsterTemplateColumns, convertRow, getField_tail, map_bind,
    map_pure]
  rfl

theorem readLevelData_converts (fs : FileSystem) (pieces : List Text) :
    (fun _ => ()) <$> readLevelData pieces = convertRow fs levelDataColumns [] pieces := by
  simp only [readLevelData, levelDataColumns, convertRow, getField_tail, map_bind, map_pure]
  rfl

theorem readItemTemplate_converts (fs : FileSystem) (pieces : List Text) :
    (fun _ => ()) <$> readItemTemplate pieces = convertRow fs itemTemplateColumns [] pieces := by
  simp only [readItemTemplate, itemTemplateColumns, convertRow, getField_tail, map_bind, map_pure]
  rfl

theorem readMonsterDrop_converts (fs : FileSystem) (pieces : List Text) :
    (fun _ => ()) <$> readMonsterDrop pieces = convertRow fs monsterDropColumns [] pieces := by
  simp only [readMonsterDrop, monsterDropColumns, convertRow, getField_tail, map_bind, map_pure]
  rfl

end RoomDataManager

end ZeldaServer
