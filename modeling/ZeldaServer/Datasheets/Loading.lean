import ZeldaServer.Datasheets.DataTables

/-! When `LoadAllData` reports errors: what each loader comes to, and all of them in turn. -/

namespace ZeldaServer

namespace RoomDataManager

open Program (bind_gives means_bind_gave means_ofExcept means_pure means_unique)
open Outcome (inTurn)

section Rows

variable {Data Table : Type} (readRow : List Text → Except Exn Data)
  (insert : Table → Data → Table)

theorem foldlM_rows_iff (lines : List Text) (table : Table) :
    (∃ after, lines.foldlM (fun table line => do
        let data ← readRow (line.splitOn ',')
        return insert table data) table = .ok after) ↔
      ∀ line ∈ lines, ∃ data, readRow (line.splitOn ',') = .ok data := by
  induction lines generalizing table with
  | nil => simp [pure, Except.pure]
  | cons line lines ih =>
      rw [List.foldlM_cons, List.forall_mem_cons]
      cases read : readRow (line.splitOn ',') with
      | error e => simp [bind, Except.bind]
      | ok data =>
          have later := ih (insert table data)
          simp only [Except.ok.injEq, exists_eq', true_and]
          exact later

theorem loadRows_iff (fs : FileSystem) (columns : List Column)
    (converts : ∀ pieces, (fun _ => ()) <$> readRow pieces = convertRow fs columns [] pieces)
    (table : Table) (file : Option Text) (success : Bool) :
    (∃ after, loadRows readRow insert table file = .ok (success, after)) ↔
      success = file.isSome ∧ ∀ text, file = some text → ∀ line ∈ rowsOf text,
        convertRow fs columns [] (line.splitOn ',') = .ok () := by
  have reads (pieces : List Text) :
      (∃ data, readRow pieces = .ok data) ↔ convertRow fs columns [] pieces = .ok () := by
    rw [← converts]
    cases readRow pieces with
    | error e => simp [Functor.map, Except.map]
    | ok data => simp [Functor.map, Except.map]
  cases file with
  | none => simp [loadRows, eq_comm]
  | some text =>
      have rows := foldlM_rows_iff readRow insert (rowsOf text) table
      simp only [reads] at rows
      simp only [loadRows, Option.isSome_some, Option.some.injEq, forall_eq', ← rows]
      constructor
      · rintro ⟨after, loads⟩
        cases folded : (rowsOf text).foldlM (fun table line => do
            let data ← readRow (line.splitOn ',')
            return insert table data) table with
        | error e =>
            rw [folded] at loads
            cases loads
        | ok table' =>
            rw [folded] at loads
            cases loads
            exact ⟨rfl, _, rfl⟩
      · rintro ⟨rfl, table', folded⟩
        rw [folded]
        exact ⟨table', rfl⟩

end Rows

/-- Where `ResolveExistingPath` leads. -/
def dataPath (fs : FileSystem) (name : Text) : Text :=
  match resolveExistingPath fs name with
  | .ok path => path
  | .error _ => name

theorem resolve_plain (fs : FileSystem) (name : Text) (plain : ∀ c ∈ name, c.toNat < 128) :
    resolveExistingPath fs name = .ok (dataPath fs name) := by
  have found (candidates : List Text)
      (all : ∀ candidate ∈ candidates, ∀ c ∈ candidate, c.toNat < 128) :
      ∃ path, firstExisting fs name candidates = .ok path := by
    induction candidates with
    | nil => exact ⟨name, rfl⟩
    | cons candidate candidates ih =>
        obtain ⟨first, later⟩ := List.forall_mem_cons.mp all
        obtain ⟨there, exists_there⟩ := fs.plain candidate first
        rw [firstExisting, exists_there]
        cases there with
        | true => exact ⟨candidate, rfl⟩
        | false => exact ih later
  have dots (front : Text) (ascii : ∀ c ∈ front, c.toNat < 128) :
      ∀ c ∈ front ++ name, c.toNat < 128 := by
    intro c member
    rcases List.mem_append.mp member with before | behind
    · exact ascii c before
    · exact plain c behind
  obtain ⟨path, resolves⟩ := found
    [name, "../".toList ++ name, "../../".toList ++ name, "../../../".toList ++ name] (by
      simp only [List.forall_mem_cons, List.not_mem_nil, false_implies, implies_true, and_true]
      exact ⟨plain, dots _ (List.all_iff_forall_prop.mp (by decide)),
        dots _ (List.all_iff_forall_prop.mp (by decide)),
        dots _ (List.all_iff_forall_prop.mp (by decide))⟩)
  have same : resolveExistingPath fs name = .ok path := resolves
  rw [dataPath, same]

abbrev CsvFile := List Column × Text

def csvFiles : List CsvFile :=
  [(roomConfigColumns, roomConfigPath), (monsterTemplateColumns, monsterTemplatePath),
    (levelDataColumns, levelDataPath), (itemTemplateColumns, itemTemplatePath),
    (monsterDropColumns, monsterDropPath)]

section Conditions

variable (fs : FileSystem)

def CsvFile.rows (csv : CsvFile) : List Text :=
  ((fs.content (dataPath fs csv.2)).map rowsOf).getD []

def CsvFile.Reads (csv : CsvFile) : Prop :=
  ∀ line ∈ csv.rows fs, convertRow fs csv.1 [] (line.splitOn ',') = .ok ()

def CsvFile.Complete (csv : CsvFile) : Prop :=
  ∀ line ∈ csv.rows fs, csv.1.length ≤ (line.splitOn ',').length

def CsvFile.Converted (csv : CsvFile) : Prop :=
  ∀ line ∈ csv.rows fs, csv.1.length ≤ (line.splitOn ',').length ∧
    convertRow fs csv.1 [] (line.splitOn ',') = .ok ()

/-- Before every foreign character of a pair in the JSON file `stoi` throws at a number. -/
def JsonEnds : Prop :=
  ∀ json, fs.content (dataPath fs monsterSpawnPath) = some json →
    ∀ front back, readings json = front ++ .foreign :: back →
      ∃ text e, .number text ∈ front ∧ parseInt text = .error e

def JsonReads : Prop :=
  ∃ json, fs.content (dataPath fs monsterSpawnPath) = some json ∧
    ∀ reading ∈ readings json, ∃ text value, reading = .number text ∧ parseInt text = .ok value

end Conditions

theorem ofExcept_means {α : Type} {value : Except Exn α} {a : α} (same : value = .ok a) :
    (Program.ofExcept value).Means (.gave a) := by
  subst same
  exact means_pure a

section Loaders

variable (fs : FileSystem) (tables : Tables) (success : Bool)

theorem loader_iff {Data : Type} (readRow : List Text → Except Exn Data)
    (insert : Tables → Data → Tables) (csv : CsvFile)
    (converts : ∀ pieces, (fun _ => ()) <$> readRow pieces = convertRow fs csv.1 [] pieces) :
    (∃ after, loadRows readRow insert tables (fs.content (dataPath fs csv.2)) =
        .ok (success, after)) ↔
      success = (fs.content (dataPath fs csv.2)).isSome ∧ csv.Reads fs := by
  rw [loadRows_iff readRow insert fs csv.1 converts]
  apply and_congr_right
  intro _
  unfold CsvFile.Reads CsvFile.rows
  cases fs.content (dataPath fs csv.2) with
  | none => simp
  | some text => simp

theorem loadRoomConfigs_iff :
    (∃ after, loadRoomConfigs fs tables (dataPath fs roomConfigPath) = .ok (success, after)) ↔
      success = (fs.content (dataPath fs roomConfigPath)).isSome ∧
        CsvFile.Reads fs (roomConfigColumns, roomConfigPath) :=
  loader_iff fs tables success _ _ (roomConfigColumns, roomConfigPath) (readRoomConfig_converts fs)

theorem loadMonsterTemplates_iff :
    (∃ after, loadMonsterTemplates fs tables (dataPath fs monsterTemplatePath) = .ok (success, after)) ↔
      success = (fs.content (dataPath fs monsterTemplatePath)).isSome ∧
        CsvFile.Reads fs (monsterTemplateColumns, monsterTemplatePath) :=
  loader_iff fs tables success _ _ (monsterTemplateColumns, monsterTemplatePath) (readMonsterTemplate_converts fs)

theorem loadLevelData_iff :
    (∃ after, loadLevelData fs tables (dataPath fs levelDataPath) = .ok (success, after)) ↔
      success = (fs.content (dataPath fs levelDataPath)).isSome ∧
        CsvFile.Reads fs (levelDataColumns, levelDataPath) :=
  loader_iff fs tables success _ _ (levelDataColumns, levelDataPath) (readLevelData_converts fs)

theorem loadItemTemplates_iff :
    (∃ after, loadItemTemplates fs tables (dataPath fs itemTemplatePath) = .ok (success, after)) ↔
      success = (fs.content (dataPath fs itemTemplatePath)).isSome ∧
        CsvFile.Reads fs (itemTemplateColumns, itemTemplatePath) :=
  loader_iff fs tables success _ _ (itemTemplateColumns, itemTemplatePath) (readItemTemplate_converts fs)

theorem loadMonsterDrops_iff :
    (∃ after, loadMonsterDrops fs tables (dataPath fs monsterDropPath) = .ok (success, after)) ↔
      success = (fs.content (dataPath fs monsterDropPath)).isSome ∧
        CsvFile.Reads fs (monsterDropColumns, monsterDropPath) :=
  loader_iff fs tables success _ _ (monsterDropColumns, monsterDropPath) (readMonsterDrop_converts fs)

theorem loadMonsterSpawns_ends (ends : JsonEnds fs) :
    ∃ success after, (loadMonsterSpawns fs tables (dataPath fs monsterSpawnPath)).Means
      (.gave (success, after)) := by
  unfold loadMonsterSpawns
  cases file : fs.content (dataPath fs monsterSpawnPath) with
  | none => exact ⟨false, tables, means_pure _⟩
  | some json =>
      obtain ⟨success, configs, parsed⟩ :=
        (parser_returns_iff_ends json tables.spawnConfigs).mpr
          ((comes_ends_iff json).mpr (ends json file))
      exact ⟨success, _, means_bind_gave parsed (means_pure _)⟩

theorem loadMonsterSpawns_gives (after : Tables)
    (gives : (loadMonsterSpawns fs tables (dataPath fs monsterSpawnPath)).Means
      (.gave (success, after))) : JsonEnds fs ∧ (success = true ↔ JsonReads fs) := by
  unfold loadMonsterSpawns at gives
  unfold JsonEnds JsonReads
  cases file : fs.content (dataPath fs monsterSpawnPath) with
  | none =>
      rw [file] at gives
      cases means_unique gives (means_pure _)
      simp
  | some json =>
      rw [file] at gives
      obtain ⟨⟨success', configs⟩, parsed, rest⟩ := bind_gives gives
      cases means_unique rest (means_pure _)
      have ends := (parser_returns_iff_ends json tables.spawnConfigs).mp ⟨success, configs, parsed⟩
      have same := means_unique (means_parseMonsterSpawnJson json tables.spawnConfigs) parsed
      have reads := readRooms_success json (rooms json) tables.spawnConfigs success configs same
      change _ ↔ comes (readings json) = .gave () at reads
      rw [comes_gave_iff] at reads
      simp only [Option.some.injEq, forall_eq', exists_eq_left']
      exact ⟨(comes_ends_iff json).mp ends, reads⟩

end Loaders

theorem csvFiles_iff (property : CsvFile → Prop) :
    (∀ csv ∈ csvFiles, property csv) ↔
      property (roomConfigColumns, roomConfigPath) ∧
        property (monsterTemplateColumns, monsterTemplatePath) ∧
        property (levelDataColumns, levelDataPath) ∧
        property (itemTemplateColumns, itemTemplatePath) ∧
        property (monsterDropColumns, monsterDropPath) := by
  simp [csvFiles]

theorem resolve_bind {α : Type} (fs : FileSystem) (name : Text)
    (plain : (name.all fun c => c.toNat < 128) = true) (rest : Text → Code α) :
    (Program.ofExcept (resolveExistingPath fs name) >>= rest) = rest (dataPath fs name) := by
  rw [resolve_plain fs name (List.all_iff_forall_prop.mp plain)]
  rfl

theorem loadAllData_eq (fs : FileSystem) (tables : Tables) :
    loadAllData fs tables = (do
      let (rooms, tables) ← .ofExcept (loadRoomConfigs fs tables (dataPath fs roomConfigPath))
      let (templates, tables) ←
        .ofExcept (loadMonsterTemplates fs tables (dataPath fs monsterTemplatePath))
      let (spawns, tables) ← loadMonsterSpawns fs tables (dataPath fs monsterSpawnPath)
      let (levels, tables) ← .ofExcept (loadLevelData fs tables (dataPath fs levelDataPath))
      let (items, tables) ← .ofExcept (loadItemTemplates fs tables (dataPath fs itemTemplatePath))
      let (drops, tables) ← .ofExcept (loadMonsterDrops fs tables (dataPath fs monsterDropPath))
      return (rooms && templates && spawns && levels && items && drops, tables)) := by
  unfold loadAllData
  simp only [resolve_bind fs roomConfigPath (by decide),
    resolve_bind fs monsterTemplatePath (by decide), resolve_bind fs monsterSpawnPath (by decide),
    resolve_bind fs levelDataPath (by decide), resolve_bind fs itemTemplatePath (by decide),
    resolve_bind fs monsterDropPath (by decide)]

/-- Where `LoadAllData` returns, every row converts, the JSON parse ends, and the result says
whether all files were there and the JSON file converted. -/
theorem loadAllData_gives (fs : FileSystem) (tables after : Tables) (success : Bool)
    (gives : (loadAllData fs tables).Means (.gave (success, after))) :
    (∀ csv ∈ csvFiles, csv.Reads fs) ∧ JsonEnds fs ∧
      (success = true ↔
        (∀ csv ∈ csvFiles, (fs.content (dataPath fs csv.2)).isSome = true) ∧ JsonReads fs) := by
  rw [loadAllData_eq] at gives
  obtain ⟨⟨rooms, first⟩, loaded, gives⟩ := bind_gives gives
  obtain ⟨room_file, room_rows⟩ := (loadRoomConfigs_iff fs tables rooms).mp
    ⟨first, Program.ofExcept_gives loaded⟩
  obtain ⟨⟨templates, second⟩, loaded, gives⟩ := bind_gives gives
  obtain ⟨template_file, template_rows⟩ := (loadMonsterTemplates_iff fs first templates).mp
    ⟨second, Program.ofExcept_gives loaded⟩
  obtain ⟨⟨spawns, third⟩, loaded, gives⟩ := bind_gives gives
  obtain ⟨ends, spawned⟩ := loadMonsterSpawns_gives fs second spawns third loaded
  obtain ⟨⟨levels, fourth⟩, loaded, gives⟩ := bind_gives gives
  obtain ⟨level_file, level_rows⟩ := (loadLevelData_iff fs third levels).mp
    ⟨fourth, Program.ofExcept_gives loaded⟩
  obtain ⟨⟨items, fifth⟩, loaded, gives⟩ := bind_gives gives
  obtain ⟨item_file, item_rows⟩ := (loadItemTemplates_iff fs fourth items).mp
    ⟨fifth, Program.ofExcept_gives loaded⟩
  obtain ⟨⟨drops, sixth⟩, loaded, gives⟩ := bind_gives gives
  obtain ⟨drop_file, drop_rows⟩ := (loadMonsterDrops_iff fs fifth drops).mp
    ⟨sixth, Program.ofExcept_gives loaded⟩
  obtain ⟨rfl, rfl⟩ := Prod.mk.inj (Outcome.gave.inj (means_unique gives (means_pure _)))
  rw [csvFiles_iff, csvFiles_iff]
  refine ⟨⟨room_rows, template_rows, level_rows, item_rows, drop_rows⟩, ends, ?_⟩
  rw [room_file, template_file, level_file, item_file, drop_file]
  simp only [Bool.and_eq_true, spawned]
  constructor
  · rintro ⟨⟨⟨⟨⟨rooms_there, templates_there⟩, json⟩, levels_there⟩, items_there⟩, drops_there⟩
    exact ⟨⟨rooms_there, templates_there, levels_there, items_there, drops_there⟩, json⟩
  · rintro ⟨⟨rooms_there, templates_there, levels_there, items_there, drops_there⟩, json⟩
    exact ⟨⟨⟨⟨⟨rooms_there, templates_there⟩, json⟩, levels_there⟩, items_there⟩, drops_there⟩

theorem loadAllData_returns (fs : FileSystem) (tables : Tables)
    (reads : ∀ csv ∈ csvFiles, csv.Reads fs) (ends : JsonEnds fs) :
    ∃ success after, (loadAllData fs tables).Means (.gave (success, after)) := by
  rw [csvFiles_iff] at reads
  obtain ⟨room_rows, template_rows, level_rows, item_rows, drop_rows⟩ := reads
  rw [loadAllData_eq]
  obtain ⟨first, rooms⟩ := (loadRoomConfigs_iff fs tables _).mpr ⟨rfl, room_rows⟩
  obtain ⟨second, templates⟩ := (loadMonsterTemplates_iff fs first _).mpr ⟨rfl, template_rows⟩
  obtain ⟨spawned, third, spawns⟩ := loadMonsterSpawns_ends fs second ends
  obtain ⟨fourth, levels⟩ := (loadLevelData_iff fs third _).mpr ⟨rfl, level_rows⟩
  obtain ⟨fifth, items⟩ := (loadItemTemplates_iff fs fourth _).mpr ⟨rfl, item_rows⟩
  obtain ⟨sixth, drops⟩ := (loadMonsterDrops_iff fs fifth _).mpr ⟨rfl, drop_rows⟩
  refine ⟨(fs.content (dataPath fs roomConfigPath)).isSome &&
    (fs.content (dataPath fs monsterTemplatePath)).isSome && spawned &&
    (fs.content (dataPath fs levelDataPath)).isSome &&
    (fs.content (dataPath fs itemTemplatePath)).isSome &&
    (fs.content (dataPath fs monsterDropPath)).isSome, sixth, ?_⟩
  apply means_bind_gave (ofExcept_means rooms)
  apply means_bind_gave (ofExcept_means templates)
  apply means_bind_gave spawns
  apply means_bind_gave (ofExcept_means levels)
  apply means_bind_gave (ofExcept_means items)
  apply means_bind_gave (ofExcept_means drops)
  exact means_pure _

/-- `LoadAllData` returns, and true only if every row was converted, if and only if no conversion
in a CSV file throws, the JSON parse ends, and no row lacks a field unless a file is missing or the
JSON file does not convert. -/
theorem load_all_data_iff (fs : FileSystem) (tables : Tables) :
    (∃ success after, (loadAllData fs tables).Means (.gave (success, after)) ∧
      (success = true → ∀ csv ∈ csvFiles, csv.Converted fs)) ↔
      (∀ csv ∈ csvFiles, csv.Reads fs) ∧ JsonEnds fs ∧
        ((∀ csv ∈ csvFiles, (fs.content (dataPath fs csv.2)).isSome = true) ∧ JsonReads fs →
          ∀ csv ∈ csvFiles, csv.Complete fs) := by
  constructor
  · rintro ⟨success, after, gives, converted⟩
    obtain ⟨reads, ends, succeeds_iff⟩ := loadAllData_gives fs tables after success gives
    refine ⟨reads, ends, fun loaded csv member line inside => ?_⟩
    exact (converted (succeeds_iff.mpr loaded) csv member line inside).1
  · rintro ⟨reads, ends, complete⟩
    obtain ⟨success, after, gives⟩ := loadAllData_returns fs tables reads ends
    refine ⟨success, after, gives, fun succeeds csv member line inside => ?_⟩
    have loaded := (loadAllData_gives fs tables after success gives).2.2.mp succeeds
    exact ⟨complete loaded csv member line inside, reads csv member line inside⟩

/-- Only `LevelData.csv` is there, with a letter for a level. -/
def letterLevel : FileSystem where
  pathExists := fun _ => .ok true
  content := fun path => if path = levelDataPath then some "level\nx".toList else none
  plain := fun _ _ => ⟨true, rfl⟩

theorem letter_level_escapes :
    ¬ ∀ (fs : FileSystem) (tables : Tables), ∃ success after,
      (loadAllData fs tables).Means (.gave (success, after)) ∧
      (success = true → ∀ csv ∈ csvFiles, csv.Converted fs) := by
  intro all
  obtain ⟨success, after, gives, -⟩ := all letterLevel
    ⟨fun _ => none, fun _ => none, fun _ => none, fun _ => none, fun _ => none, fun _ => []⟩
  have reads := (loadAllData_gives letterLevel _ after success gives).1
  rw [csvFiles_iff] at reads
  have row := reads.2.2.1 "x".toList (by decide)
  exact absurd row (by decide)

end RoomDataManager

end ZeldaServer
