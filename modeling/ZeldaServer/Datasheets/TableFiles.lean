import ZeldaServer.Datasheets.Loading
import ZeldaServer.Datasheets.Numerals

/-! The CSV files, written in the layout of the data folder and loaded again. -/

namespace ZeldaServer

namespace RoomDataManager

theorem foldl_part {Row Part Whole : Type} (get : Whole → Part) (set : Whole → Part → Whole)
    (get_set : ∀ whole part, get (set whole part) = part)
    (set_set : ∀ whole part part', set (set whole part) part' = set whole part')
    (set_get : ∀ whole, set whole (get whole) = whole) (step : Part → Row → Part)
    (rows : List Row) (whole : Whole) :
    rows.foldl (fun whole row => set whole (step (get whole) row)) whole =
      set whole (rows.foldl step (get whole)) := by
  induction rows generalizing whole with
  | nil => exact (set_get whole).symm
  | cons row rows ih => rw [List.foldl_cons, ih, get_set, set_set, List.foldl_cons]

def lastOf {Key Row : Type} [DecidableEq Key] (key : Row → Key) (rows : List Row)
    (table : Key → Option Row) (k : Key) : Option Row :=
  ((rows.filter fun row => key row = k).getLast?).or (table k)

theorem foldl_update {Key Row : Type} [DecidableEq Key] (key : Row → Key) (rows : List Row)
    (table : Key → Option Row) :
    rows.foldl (fun table row => Function.update table (key row) (some row)) table =
      lastOf key rows table := by
  induction rows generalizing table with
  | nil => rfl
  | cons row rows ih =>
      funext k
      rw [List.foldl_cons, ih]
      unfold lastOf
      by_cases same : key row = k
      · subst same
        rw [Function.update_self, List.filter_cons_of_pos (by simp), List.getLast?_cons]
        cases (rows.filter fun row' => key row' = key row).getLast? <;> rfl
      · rw [Function.update_of_ne (Ne.symm same), List.filter_cons_of_neg (by simpa using same)]

theorem foldl_append_of_key {Key Row : Type} [DecidableEq Key] (key : Row → Key) (rows : List Row)
    (table : Key → List Row) :
    rows.foldl (fun table row => Function.update table (key row) (table (key row) ++ [row])) table =
      fun k => table k ++ rows.filter fun row => key row = k := by
  induction rows generalizing table with
  | nil => simp
  | cons row rows ih =>
      funext k
      rw [List.foldl_cons, ih]
      dsimp only
      by_cases same : key row = k
      · subst same
        rw [Function.update_self, List.filter_cons_of_pos (by simp), List.append_assoc,
          List.singleton_append]
      · rw [Function.update_of_ne (Ne.symm same), List.filter_cons_of_neg (by simpa using same)]

structure Page where
  header : Text
  oneLine : '\n' ∉ header
  newline : Bool

def Page.text (page : Page) (rows : List (List Text)) : Text :=
  ['\n'].intercalate (page.header :: (rows.map [','].intercalate ++ if page.newline then [[]] else []))

def Plain (text : Text) : Prop := ',' ∉ text ∧ '\n' ∉ text

theorem plain_of_numerals {text : Text} (numerals : ∀ c ∈ text, isNumeral c = true) : Plain text :=
  ⟨fun listed => numeral_ne (numerals _ listed) (by decide) rfl,
    fun listed => numeral_ne (numerals _ listed) (by decide) rfl⟩

theorem plain_number (n : Int32) : Plain (numberText n) :=
  plain_of_numerals (decimal_numeral n.toInt).2

theorem mem_intercalate {separator : Char} {fields : List Text} {c : Char}
    (listed : c ∈ [separator].intercalate fields) :
    c = separator ∨ ∃ field ∈ fields, c ∈ field := by
  induction fields with
  | nil => cases listed
  | cons field fields ih =>
      cases fields with
      | nil => exact .inr ⟨field, List.mem_cons_self, by simpa using listed⟩
      | cons next rest =>
          rw [List.intercalate_cons_cons, List.append_assoc] at listed
          rcases List.mem_append.mp listed with here | behind
          · exact .inr ⟨field, List.mem_cons_self, here⟩
          · rcases List.mem_append.mp behind with mark | later
            · exact .inl (List.mem_singleton.mp mark)
            · rcases ih later with mark | ⟨other, there, inside⟩
              · exact .inl mark
              · exact .inr ⟨other, List.mem_cons_of_mem _ there, inside⟩

theorem splitOn_fields {fields : List Text} (plain : ∀ field ∈ fields, Plain field)
    (several : 2 ≤ fields.length) : ([','].intercalate fields).splitOn ',' = fields := by
  apply List.splitOn_intercalate
  · exact fun field listed => (plain field listed).1
  · rintro rfl
    exact absurd several (by decide)

theorem rowsOf_page (page : Page) (rows : List (List Text))
    (plain : ∀ fields ∈ rows, ∀ field ∈ fields, Plain field)
    (several : ∀ fields ∈ rows, 2 ≤ fields.length) :
    rowsOf (page.text rows) = rows.map [','].intercalate := by
  have oneLine : ∀ line ∈ rows.map [','].intercalate, '\n' ∉ line := by
    intro line listed newline
    obtain ⟨fields, row, rfl⟩ := List.mem_map.mp listed
    rcases mem_intercalate newline with mark | ⟨field, there, inside⟩
    · exact absurd mark (by decide)
    · exact (plain fields row field there).2 inside
  have filled : ∀ line ∈ rows.map [','].intercalate, line ≠ [] := by
    intro line listed
    obtain ⟨fields, row, rfl⟩ := List.mem_map.mp listed
    match fields, several fields row with
    | first :: second :: rest, _ =>
        rw [List.intercalate_cons_cons]
        simp
  have pieces : (page.text rows).splitOn '\n' =
      page.header :: (rows.map [','].intercalate ++ if page.newline then [[]] else []) := by
    apply List.splitOn_intercalate
    · intro line listed
      rcases List.mem_cons.mp listed with rfl | behind
      · exact page.oneLine
      · rcases List.mem_append.mp behind with row | ending
        · exact oneLine line row
        · split at ending
          · rw [List.mem_singleton.mp ending]
            exact List.not_mem_nil
          · cases ending
    · exact List.cons_ne_nil _ _
  have kept : (rows.map [','].intercalate).filter (· ≠ []) = rows.map [','].intercalate :=
    List.filter_eq_self.mpr fun line listed => by simpa using filled line listed
  unfold rowsOf fileLines
  rw [pieces]
  dsimp only
  cases page.newline with
  | true =>
      have whole : (page.header :: (rows.map [','].intercalate ++ if true = true then [[]] else [])) =
          (page.header :: rows.map [','].intercalate) ++ [[]] := by
        simp
      rw [whole, if_pos List.getLast?_concat, List.dropLast_concat, List.tail_cons, kept]
  | false =>
      have whole : (page.header ::
          (rows.map [','].intercalate ++ if false = true then [[]] else [])) =
            page.header :: rows.map [','].intercalate := by
        simp
      rw [whole]
      split
      case isTrue empty =>
        cases written : rows.map [','].intercalate with
        | nil => rfl
        | cons line lines =>
            rw [written, List.getLast?_cons_cons] at empty
            have last : [] ∈ line :: lines := List.mem_of_getLast? empty
            exact absurd rfl (filled [] (written ▸ last))
      case isFalse => rw [List.tail_cons, kept]

theorem loadRows_page {Item Data Table : Type} (readRow : List Text → Except Exn Data)
    (insert : Table → Data → Table) (fields : Item → List Text) (result : Item → Data)
    (items : List Item) (plain : ∀ item ∈ items, ∀ field ∈ fields item, Plain field)
    (several : ∀ item ∈ items, 2 ≤ (fields item).length)
    (reads : ∀ item ∈ items, readRow (fields item) = .ok (result item)) (page : Page)
    (table : Table) :
    loadRows readRow insert table (some (page.text (items.map fields))) =
      .ok (true, (items.map result).foldl insert table) := by
  have lines := rowsOf_page page (items.map fields) (List.forall_mem_map.mpr plain)
    (List.forall_mem_map.mpr several)
  have folded (table : Table) : ((items.map fields).map [','].intercalate).foldlM
      (fun table line => do
        let data ← readRow (line.splitOn ',')
        return insert table data) table = .ok ((items.map result).foldl insert table) := by
    clear lines
    induction items generalizing table with
    | nil => rfl
    | cons item items ih =>
        obtain ⟨plain_here, plain_later⟩ := List.forall_mem_cons.mp plain
        obtain ⟨several_here, several_later⟩ := List.forall_mem_cons.mp several
        obtain ⟨reads_here, reads_later⟩ := List.forall_mem_cons.mp reads
        rw [List.map_cons, List.map_cons, List.foldlM_cons, splitOn_fields plain_here several_here,
          reads_here]
        exact ih plain_later several_later reads_later (insert table (result item))
  unfold loadRows
  dsimp only
  rw [lines, folded table]
  rfl

def flagText (flag : Bool) : Text := if flag then "true".toList else "false".toList

def roomConfigFields (row : RoomConfigData) : List Text :=
  [row.roomId, row.roomName, flagText row.skillEnabled, flagText row.monsterSpawnEnabled,
    decimal row.respawnTimeMs.toNat, row.tilemapPath, numberText row.maxPlayers,
    flagText row.isInstance]

def monsterTemplateFields (row : MonsterTemplateData) : List Text :=
  [numberText row.templateId, row.name, numberText row.maxHp, numberText row.attack,
    numberText row.defence, numberText row.exp]

def levelDataFields (row : LevelData) : List Text :=
  [numberText row.level, numberText row.requiredExp, numberText row.maxHp, numberText row.attack,
    numberText row.defence]

def itemTemplateFields (row : ItemTemplateData) : List Text :=
  [numberText row.itemId, row.name, row.type, numberText row.value, numberText row.maxStack]

def monsterDropFields (row : MonsterDropData) : List Text :=
  [numberText row.templateId, numberText row.itemId, numberText row.dropRate]

structure Sheets where
  roomConfigs : List RoomConfigData
  monsterTemplates : List MonsterTemplateData
  levelData : List LevelData
  itemTemplates : List ItemTemplateData
  monsterDrops : List MonsterDropData
  plainRooms : ∀ row ∈ roomConfigs, Plain row.roomId ∧ Plain row.roomName ∧
    Plain row.tilemapPath ∧ ∀ c ∈ row.tilemapPath, c.toNat < 128
  plainTemplates : ∀ row ∈ monsterTemplates, Plain row.name
  plainItems : ∀ row ∈ itemTemplates, Plain row.name ∧ Plain row.type

theorem plain_flag (flag : Bool) : Plain (flagText flag) := by
  cases flag
  · exact ⟨by decide, by decide⟩
  · exact ⟨by decide, by decide⟩

theorem parseBool_flag (flag : Bool) : parseBool (flagText flag) = flag := by
  cases flag <;> decide

theorem parseInt_respawn (time : UInt32) :
    parseInt (decimal time.toNat) =
      if time.toNat < 2 ^ 31 then .ok time.toInt32 else .error .outOfRange := by
  split
  case isTrue small =>
    have value : time.toInt32.toInt = time.toNat := by
      have double : 2 * time.toBitVec.toNat < 2 ^ 32 := by
        rw [UInt32.toNat_toBitVec]
        omega
      exact BitVec.toInt_eq_toNat_of_lt double
    rw [← value, parseInt_decimal]
  case isFalse large => rw [parseInt_spelt, if_pos (by omega)]

theorem readLevelData_fields (row : LevelData) : readLevelData (levelDataFields row) = .ok row := by
  simp only [readLevelData, levelDataFields, getField, parseInt_number]
  rfl

theorem readMonsterTemplate_fields (row : MonsterTemplateData) :
    readMonsterTemplate (monsterTemplateFields row) = .ok row := by
  simp only [readMonsterTemplate, monsterTemplateFields, getField, parseInt_number]
  rfl

theorem readItemTemplate_fields (row : ItemTemplateData) :
    readItemTemplate (itemTemplateFields row) = .ok row := by
  simp only [readItemTemplate, itemTemplateFields, getField, parseInt_number]
  rfl

theorem readMonsterDrop_fields (row : MonsterDropData) :
    readMonsterDrop (monsterDropFields row) = .ok row := by
  simp only [readMonsterDrop, monsterDropFields, getField, parseInt_number]
  rfl

def resolved (fs : FileSystem) (row : RoomConfigData) : RoomConfigData :=
  { row with tilemapPath := dataPath fs row.tilemapPath }

theorem readRoomConfig_fields (fs : FileSystem) (row : RoomConfigData)
    (plain : ∀ c ∈ row.tilemapPath, c.toNat < 128) :
    readRoomConfig fs (roomConfigFields row) =
      if row.respawnTimeMs.toNat < 2 ^ 31 then .ok (resolved fs row) else .error .outOfRange := by
  simp only [readRoomConfig, roomConfigFields, getField, parseInt_number, parseBool_flag,
    parseInt_respawn, resolve_plain fs _ plain]
  split
  · rfl
  · rfl

def FileSystem.write (fs : FileSystem) (path text : Text) : FileSystem :=
  { fs with content := Function.update fs.content path (some text) }

@[simp] theorem FileSystem.content_write (fs : FileSystem) (path text : Text) :
    (fs.write path text).content path = some text := Function.update_self path _ _

theorem dataPath_write (fs : FileSystem) (path text name : Text) :
    dataPath (fs.write path text) name = dataPath fs name := by
  have same (candidates : List Text) : firstExisting (fs.write path text) name candidates =
      firstExisting fs name candidates := by
    induction candidates with
    | nil => rfl
    | cons candidate candidates ih =>
        rw [firstExisting, firstExisting, ih]
        rfl
  unfold dataPath resolveExistingPath
  rw [same]

theorem loadPart_page {Item Data Part : Type} (readRow : List Text → Except Exn Data)
    (get : Tables → Part) (set : Tables → Part → Tables)
    (get_set : ∀ tables part, get (set tables part) = part)
    (set_set : ∀ tables part part', set (set tables part) part' = set tables part')
    (set_get : ∀ tables, set tables (get tables) = tables) (step : Part → Data → Part)
    (fields : Item → List Text) (result : Item → Data) (items : List Item)
    (plain : ∀ item ∈ items, ∀ field ∈ fields item, Plain field)
    (several : ∀ item, 2 ≤ (fields item).length)
    (reads : ∀ item ∈ items, readRow (fields item) = .ok (result item)) (fs : FileSystem)
    (tables : Tables) (path : Text) (page : Page) :
    loadRows readRow (fun tables data => set tables (step (get tables) data)) tables
        ((fs.write path (page.text (items.map fields))).content path) =
      .ok (true, set tables ((items.map result).foldl step (get tables))) := by
  rw [FileSystem.content_write, loadRows_page readRow _ fields result items plain
    (fun item _ => several item) reads, foldl_part get set get_set set_set set_get]

section RoundTrip

variable (fs : FileSystem) (tables : Tables) (path : Text) (page : Page) (sheets : Sheets)

theorem loadLevelData_page :
    loadLevelData (fs.write path (page.text (sheets.levelData.map levelDataFields))) tables path =
      .ok (true, { tables with
        levelData := lastOf LevelData.level sheets.levelData tables.levelData }) := by
  have plain (row : LevelData) : ∀ field ∈ levelDataFields row, Plain field := by
    simp only [levelDataFields, List.forall_mem_cons, plain_number, true_and]
    exact List.forall_mem_nil _
  have loads := loadPart_page readLevelData (·.levelData)
    (fun tables levelData => { tables with levelData }) (fun _ _ => rfl) (fun _ _ _ => rfl)
    (fun _ => rfl) (fun table row => Function.update table row.level (some row)) levelDataFields id
    sheets.levelData (fun row _ => plain row) (fun _ => Nat.le_of_ble_eq_true rfl)
    (fun row _ => readLevelData_fields row) fs tables path page
  rw [List.map_id, foldl_update LevelData.level] at loads
  exact loads

theorem loadMonsterTemplates_page :
    loadMonsterTemplates
        (fs.write path (page.text (sheets.monsterTemplates.map monsterTemplateFields))) tables path =
      .ok (true, { tables with
        monsterTemplates :=
          lastOf MonsterTemplateData.templateId sheets.monsterTemplates tables.monsterTemplates }) := by
  have plain (row : MonsterTemplateData) (listed : row ∈ sheets.monsterTemplates) :
      ∀ field ∈ monsterTemplateFields row, Plain field := by
    simp only [monsterTemplateFields, List.forall_mem_cons, plain_number, true_and]
    exact ⟨sheets.plainTemplates row listed, List.forall_mem_nil _⟩
  have loads := loadPart_page readMonsterTemplate (·.monsterTemplates)
    (fun tables monsterTemplates => { tables with monsterTemplates }) (fun _ _ => rfl)
    (fun _ _ _ => rfl) (fun _ => rfl)
    (fun table row => Function.update table row.templateId (some row)) monsterTemplateFields id
    sheets.monsterTemplates plain (fun _ => Nat.le_of_ble_eq_true rfl)
    (fun row _ => readMonsterTemplate_fields row) fs tables path page
  rw [List.map_id, foldl_update MonsterTemplateData.templateId] at loads
  exact loads

theorem loadItemTemplates_page :
    loadItemTemplates (fs.write path (page.text (sheets.itemTemplates.map itemTemplateFields)))
        tables path =
      .ok (true, { tables with
        itemTemplates := lastOf ItemTemplateData.itemId sheets.itemTemplates tables.itemTemplates }) := by
  have plain (row : ItemTemplateData) (listed : row ∈ sheets.itemTemplates) :
      ∀ field ∈ itemTemplateFields row, Plain field := by
    obtain ⟨name, type⟩ := sheets.plainItems row listed
    simp only [itemTemplateFields, List.forall_mem_cons, plain_number, true_and]
    exact ⟨name, type, List.forall_mem_nil _⟩
  have loads := loadPart_page readItemTemplate (·.itemTemplates)
    (fun tables itemTemplates => { tables with itemTemplates }) (fun _ _ => rfl)
    (fun _ _ _ => rfl) (fun _ => rfl)
    (fun table row => Function.update table row.itemId (some row)) itemTemplateFields id
    sheets.itemTemplates plain (fun _ => Nat.le_of_ble_eq_true rfl)
    (fun row _ => readItemTemplate_fields row) fs tables path page
  rw [List.map_id, foldl_update ItemTemplateData.itemId] at loads
  exact loads

theorem loadMonsterDrops_page :
    loadMonsterDrops (fs.write path (page.text (sheets.monsterDrops.map monsterDropFields)))
        tables path =
      .ok (true, { tables with
        monsterDrops := fun templateId => tables.monsterDrops templateId ++
          sheets.monsterDrops.filter fun row => row.templateId = templateId }) := by
  have plain (row : MonsterDropData) : ∀ field ∈ monsterDropFields row, Plain field := by
    simp only [monsterDropFields, List.forall_mem_cons, plain_number, true_and]
    exact List.forall_mem_nil _
  have loads := loadPart_page readMonsterDrop (·.monsterDrops)
    (fun tables monsterDrops => { tables with monsterDrops }) (fun _ _ => rfl)
    (fun _ _ _ => rfl) (fun _ => rfl)
    (fun table row => Function.update table row.templateId (table row.templateId ++ [row]))
    monsterDropFields id sheets.monsterDrops (fun row _ => plain row)
    (fun _ => Nat.le_of_ble_eq_true rfl) (fun row _ => readMonsterDrop_fields row) fs tables path page
  rw [List.map_id, foldl_append_of_key MonsterDropData.templateId] at loads
  exact loads

theorem plain_roomConfig (row : RoomConfigData) (listed : row ∈ sheets.roomConfigs) :
    ∀ field ∈ roomConfigFields row, Plain field := by
  obtain ⟨roomId, roomName, tilemapPath, -⟩ := sheets.plainRooms row listed
  have time : Plain (decimal row.respawnTimeMs.toNat) := plain_of_numerals (decimal_numeral _).2
  simp only [roomConfigFields, List.forall_mem_cons, plain_number, plain_flag, true_and]
  exact ⟨roomId, roomName, time, tilemapPath, List.forall_mem_nil _⟩

theorem loadRoomConfigs_page_iff :
    loadRoomConfigs (fs.write path (page.text (sheets.roomConfigs.map roomConfigFields)))
        tables path =
      .ok (true, { tables with
        roomConfigs := lastOf RoomConfigData.roomId (sheets.roomConfigs.map (resolved fs))
          tables.roomConfigs }) ↔
      ∀ row ∈ sheets.roomConfigs, row.respawnTimeMs.toNat < 2 ^ 31 := by
  have written (text : Text) : resolved (fs.write path text) = resolved fs := by
    funext row
    unfold resolved
    rw [dataPath_write]
  have plain := plain_roomConfig sheets
  have several (row : RoomConfigData) : 2 ≤ (roomConfigFields row).length :=
    Nat.le_of_ble_eq_true rfl
  constructor
  · intro loads row listed
    have converted := ((loadRows_iff _ _ _ roomConfigColumns (readRoomConfig_converts _) tables _
      true).mp ⟨_, loads⟩).2 _ (FileSystem.content_write fs path _)
    rw [rowsOf_page page _ (List.forall_mem_map.mpr plain)
      (List.forall_mem_map.mpr fun row _ => several row)] at converted
    have read := converted _ (List.mem_map_of_mem (List.mem_map_of_mem listed))
    rw [splitOn_fields (plain row listed) (several row), ← readRoomConfig_converts,
      readRoomConfig_fields _ row (sheets.plainRooms row listed).2.2.2] at read
    by_contra large
    rw [if_neg large] at read
    cases read
  · intro small
    have loads := loadPart_page
      (readRoomConfig (fs.write path (page.text (sheets.roomConfigs.map roomConfigFields))))
      (·.roomConfigs) (fun tables roomConfigs => { tables with roomConfigs }) (fun _ _ => rfl)
      (fun _ _ _ => rfl) (fun _ => rfl)
      (fun table row => Function.update table row.roomId (some row)) roomConfigFields (resolved fs)
      sheets.roomConfigs plain several
      (fun row listed => by
        rw [readRoomConfig_fields _ row (sheets.plainRooms row listed).2.2.2,
          if_pos (small row listed), written]) fs tables path page
    rw [foldl_update RoomConfigData.roomId] at loads
    exact loads

/-- What is written into the five tables is loaded again, to the last row of each key; of the
drops, every row. -/
theorem tables_round_trip :
    (loadLevelData (fs.write path (page.text (sheets.levelData.map levelDataFields))) tables path =
      .ok (true, { tables with
        levelData := lastOf LevelData.level sheets.levelData tables.levelData })) ∧
    (loadMonsterTemplates
        (fs.write path (page.text (sheets.monsterTemplates.map monsterTemplateFields))) tables path =
      .ok (true, { tables with
        monsterTemplates :=
          lastOf MonsterTemplateData.templateId sheets.monsterTemplates
            tables.monsterTemplates })) ∧
    (loadItemTemplates (fs.write path (page.text (sheets.itemTemplates.map itemTemplateFields)))
        tables path =
      .ok (true, { tables with
        itemTemplates :=
          lastOf ItemTemplateData.itemId sheets.itemTemplates tables.itemTemplates })) ∧
    (loadMonsterDrops (fs.write path (page.text (sheets.monsterDrops.map monsterDropFields)))
        tables path =
      .ok (true, { tables with
        monsterDrops := fun templateId => tables.monsterDrops templateId ++
          sheets.monsterDrops.filter fun row => row.templateId = templateId })) ∧
    (loadRoomConfigs (fs.write path (page.text (sheets.roomConfigs.map roomConfigFields)))
        tables path =
      .ok (true, { tables with
        roomConfigs := lastOf RoomConfigData.roomId (sheets.roomConfigs.map (resolved fs))
          tables.roomConfigs }) ↔
      ∀ row ∈ sheets.roomConfigs, row.respawnTimeMs.toNat < 2 ^ 31) :=
  ⟨loadLevelData_page fs tables path page sheets, loadMonsterTemplates_page fs tables path page sheets,
    loadItemTemplates_page fs tables path page sheets,
    loadMonsterDrops_page fs tables path page sheets,
    loadRoomConfigs_page_iff fs tables path page sheets⟩

end RoundTrip

/-- No file is there but the one that is written. -/
def emptyDisk : FileSystem where
  pathExists := fun _ => .ok false
  content := fun _ => none
  plain := fun _ _ => ⟨false, rfl⟩

def noTables : Tables :=
  ⟨fun _ => none, fun _ => none, fun _ => none, fun _ => none, fun _ => none, fun _ => []⟩

def samplePage : Page := ⟨"header".toList, by decide, true⟩

/-- A monster with two rows, and one with two drops. -/
def sampleSheets : Sheets where
  roomConfigs := [⟨"town".toList, "First town".toList, true, false, 5000, "map.txt".toList, 30, false⟩]
  monsterTemplates := [⟨1, "Slime".toList, 50, 7, 0, 10⟩, ⟨1, "Octoroc".toList, 60, 8, 1, 12⟩]
  levelData := [⟨2, 10, 115, 23, -6⟩]
  itemTemplates := [⟨3, "Potion".toList, "Consumable".toList, 30, 10⟩]
  monsterDrops := [⟨1, 3, 50⟩, ⟨2, 3, 5⟩, ⟨1, 4, 20⟩]
  plainRooms := by
    simp only [List.forall_mem_singleton]
    exact ⟨⟨by decide, by decide⟩, ⟨by decide, by decide⟩, ⟨by decide, by decide⟩, by simp⟩
  plainTemplates := by
    simp only [List.forall_mem_cons, List.not_mem_nil, false_imp_iff, implies_true, and_true]
    exact ⟨⟨by decide, by decide⟩, by decide, by decide⟩
  plainItems := by
    simp only [List.forall_mem_singleton]
    exact ⟨⟨by decide, by decide⟩, by decide, by decide⟩

theorem sample_tables_loaded :
    ∃ levels monsters items drops rooms : Tables,
      loadLevelData (emptyDisk.write [] (samplePage.text (sampleSheets.levelData.map
        levelDataFields))) noTables [] = .ok (true, levels) ∧
      loadMonsterTemplates (emptyDisk.write [] (samplePage.text (sampleSheets.monsterTemplates.map
        monsterTemplateFields))) noTables [] = .ok (true, monsters) ∧
      loadItemTemplates (emptyDisk.write [] (samplePage.text (sampleSheets.itemTemplates.map
        itemTemplateFields))) noTables [] = .ok (true, items) ∧
      loadMonsterDrops (emptyDisk.write [] (samplePage.text (sampleSheets.monsterDrops.map
        monsterDropFields))) noTables [] = .ok (true, drops) ∧
      loadRoomConfigs (emptyDisk.write [] (samplePage.text (sampleSheets.roomConfigs.map
        roomConfigFields))) noTables [] = .ok (true, rooms) ∧
      levels.levelData 2 = some ⟨2, 10, 115, 23, -6⟩ ∧
      monsters.monsterTemplates 1 = some ⟨1, "Octoroc".toList, 60, 8, 1, 12⟩ ∧
      items.itemTemplates 3 = some ⟨3, "Potion".toList, "Consumable".toList, 30, 10⟩ ∧
      drops.monsterDrops 1 = [⟨1, 3, 50⟩, ⟨1, 4, 20⟩] ∧
      rooms.roomConfigs "town".toList = some ⟨"town".toList, "First town".toList, true, false, 5000,
        "map.txt".toList, 30, false⟩ := by
  obtain ⟨levels, monsters, items, drops, rooms⟩ :=
    tables_round_trip emptyDisk noTables [] samplePage sampleSheets
  exact ⟨_, _, _, _, _, levels, monsters, items, drops, rooms.mpr (by decide), by decide, by decide,
    by decide, by decide, by decide⟩

end RoomDataManager

end ZeldaServer
