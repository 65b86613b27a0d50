import ZeldaServer.Datasheets.RoomDataManager
import ZeldaServer.Game.GameData

/-! `Tilemap::LoadFile` over any content of the file: what it allocates, which characters of the
rows it reads, and what `GetTileAt` finds afterwards. -/

namespace ZeldaServer

namespace Tilemap

open RoomDataManager (Text isSpace digitsValue signed)

/-- What is left of the file, and whether the stream has failed. A file that cannot be opened is a
stream that has failed. -/
structure Stream where
  rest : Text
  failed : Bool
  deriving DecidableEq

def openFile (file : Option Text) : Stream :=
  match file with
  | none => ⟨[], true⟩
  | some text => ⟨text, false⟩

/-- `ifs >> number`: a stream that has failed, or ends here, leaves the number as it is. -/
def readInt (stream : Stream) (old : Int) : Int × Stream :=
  let text := stream.rest.dropWhile isSpace
  if stream.failed ∨ text = [] then (old, ⟨text, true⟩)
  else
    let (negative, behind) := signed text
    let digits := behind.takeWhile Char.isDigit
    let rest := behind.dropWhile Char.isDigit
    let value : Int := if negative then -digitsValue digits else digitsValue digits
    if digits = [] then (0, ⟨rest, true⟩)
    else if value < -2 ^ 31 then (-2 ^ 31, ⟨rest, true⟩)
    else if 2 ^ 31 ≤ value then (2 ^ 31 - 1, ⟨rest, true⟩)
    else (value, ⟨rest, false⟩)

def isWordChar (c : Char) : Bool := !isSpace c

/-- `ifs >> line` with an empty `line`. -/
def readWord (stream : Stream) : Text × Stream :=
  if stream.failed then ([], stream)
  else
    let text := stream.rest.dropWhile isSpace
    let word := text.takeWhile isWordChar
    (word, ⟨text.dropWhile isWordChar, word.isEmpty⟩)

/-- A read of `line[x]`. -/
structure Read where
  x : Nat
  lineLength : Nat
  deriving DecidableEq

/-- `line[x] - L'0'`; the character behind the last one is a null, there are none further on. -/
def tileAt (line : Text) (x : Nat) : Int := ((line.getD x '\x00').toNat : Int) - '0'.toNat

def loadRows (width : Nat) (stream : Stream) : Nat → List (List Int) × List Read
  | 0 => ([], [])
  | height + 1 =>
      let (line, stream) := readWord stream
      let row := (List.range width).map (tileAt line)
      let reads := (List.range width).map fun x => ⟨x, line.length⟩
      let later := loadRows width stream height
      (row :: later.1, reads ++ later.2)

/-- `threw` is the `length_error` of a vector of negative size. -/
inductive Loading where
  | threw (mapSize : Vec2Int)
  | loaded (map : Tilemap) (reads : List Read)
  deriving DecidableEq

def readSize (mapSize : Vec2Int) (file : Option Text) : Vec2Int × Stream :=
  let (x, behind) := readInt (openFile file) mapSize.x
  let (y, rest) := readInt behind mapSize.y
  (⟨x, y⟩, rest)

/-- `LoadFile` of a map that has a size before, which is 0 x 0 where the map is new. -/
def loadFile (mapSize : Vec2Int) (file : Option Text) : Loading :=
  let (size, stream) := readSize mapSize file
  if size.x < 0 ∨ size.y < 0 then .threw size
  else
    let rows := loadRows size.x.toNat stream size.y.toNat
    .loaded ⟨size, rows.1⟩ rows.2

/-- The tile at a place of `_tiles`. -/
def tileOf (map : Tilemap) (pos : Vec2Int) : Option Int :=
  (map.tiles[pos.y.toNat]?).bind fun row => row[pos.x.toNat]?

inductive StaysInBounds : Loading → Prop where
  | loaded {map : Tilemap} {reads : List Read} (columns : 0 ≤ map.mapSize.x)
      (rows : 0 ≤ map.mapSize.y) (inside : ∀ read ∈ reads, read.x < read.lineLength)
      (height : (map.tiles.length : Int) = map.mapSize.y)
      (width : ∀ row ∈ map.tiles, (row.length : Int) = map.mapSize.x)
      (tiles : ∀ pos, (map.getTileAt pos).isSome = true → map.getTileAt pos = tileOf map pos) :
      StaysInBounds (.loaded map reads)

/-- The words that the rows are read from; where there are no more they are empty. -/
def lines (stream : Stream) : Nat → List Text
  | 0 => []
  | count + 1 => (readWord stream).1 :: lines (readWord stream).2 count

theorem loadRows_rows (width height : Nat) (stream : Stream) :
    (loadRows width stream height).1.length = height ∧
      ∀ row ∈ (loadRows width stream height).1, row.length = width := by
  induction height generalizing stream with
  | zero => exact ⟨rfl, by simp [loadRows]⟩
  | succ height ih =>
      obtain ⟨length, widths⟩ := ih (readWord stream).2
      rw [loadRows]
      constructor
      · simpa using length
      · rw [List.forall_mem_cons]
        exact ⟨by simp, widths⟩

theorem loadRows_reads_iff (width height : Nat) (stream : Stream) :
    (∀ read ∈ (loadRows width stream height).2, read.x < read.lineLength) ↔
      ∀ line ∈ lines stream height, width ≤ line.length := by
  induction height generalizing stream with
  | zero => simp [loadRows, lines]
  | succ height ih =>
      rw [loadRows, lines, List.forall_mem_cons]
      dsimp only
      rw [List.forall_mem_append, ih]
      apply and_congr_left
      intro _
      simp only [List.forall_mem_map, List.mem_range]
      constructor
      · intro inside
        by_contra short
        exact absurd (inside (readWord stream).1.length (by omega)) (Nat.lt_irrefl _)
      · intro enough x less
        omega

theorem getTileAt_tileOf (map : Tilemap) (height : (map.tiles.length : Int) = map.mapSize.y)
    (width : ∀ row ∈ map.tiles, (row.length : Int) = map.mapSize.x) (pos : Vec2Int)
    (found : (map.getTileAt pos).isSome = true) : map.getTileAt pos = tileOf map pos := by
  unfold getTileAt at found ⊢
  split at found
  case isTrue => cases found
  case isFalse inside =>
    rw [if_neg inside]
    unfold tileOf
    have row : pos.y.toNat < map.tiles.length := by omega
    have length := width _ (List.getElem_mem row)
    have column : pos.x.toNat < (map.tiles[pos.y.toNat]).length := by omega
    rw [List.getElem?_eq_getElem row, List.getD_eq_getElem?_getD, List.getD_eq_getElem?_getD,
      List.getElem?_eq_getElem row, Option.bind_some, Option.getD_some,
      List.getElem?_eq_getElem column, Option.getD_some]

/-- Loading stays in bounds if and only if the declared sizes are not negative and none of the
declared rows is shorter than the declared width. -/
theorem load_in_bounds_iff (mapSize : Vec2Int) (file : Option Text) :
    StaysInBounds (loadFile mapSize file) ↔
      0 ≤ (readSize mapSize file).1.x ∧ 0 ≤ (readSize mapSize file).1.y ∧
        ∀ line ∈ lines (readSize mapSize file).2 (readSize mapSize file).1.y.toNat,
          (readSize mapSize file).1.x ≤ line.length := by
  unfold loadFile
  obtain ⟨size, stream⟩ := readSize mapSize file
  dsimp only
  split
  case isTrue negative =>
    constructor
    · rintro ⟨⟩
    · rintro ⟨columns, rows, -⟩
      omega
  case isFalse positive =>
    obtain ⟨height, widths⟩ := loadRows_rows size.x.toNat size.y.toNat stream
    have lengths : (∀ line ∈ lines stream size.y.toNat, size.x.toNat ≤ line.length) ↔
        ∀ line ∈ lines stream size.y.toNat, size.x ≤ line.length := by
      constructor
      · intro enough line member
        have long := enough line member
        omega
      · intro enough line member
        have long := enough line member
        omega
    rw [← lengths, ← loadRows_reads_iff]
    constructor
    · rintro ⟨columns, rows, inside, -, -, -⟩
      exact ⟨columns, rows, inside⟩
    · rintro ⟨columns, rows, inside⟩
      refine .loaded columns rows inside ?_ ?_ ?_
      · dsimp only
        omega
      · intro row member
        have width := widths row member
        dsimp only
        omega
      · intro pos found
        refine getTileAt_tileOf _ (by dsimp only; omega) (fun row member => ?_) pos found
        have width := widths row member
        dsimp only
        omega

/-- A row that is one tile short. -/
theorem short_row_overread :
    ¬ ∀ (mapSize : Vec2Int) (file : Option Text), StaysInBounds (loadFile mapSize file) := by
  intro all
  have bounds := all ⟨0, 0⟩ (some "3 1\n00".toList)
  have loads : loadFile ⟨0, 0⟩ (some "3 1\n00".toList) =
      .loaded ⟨⟨3, 1⟩, [[0, 0, -48]]⟩ [⟨0, 2⟩, ⟨1, 2⟩, ⟨2, 2⟩] := by decide
  rw [loads] at bounds
  cases bounds with
  | loaded columns rows inside height width tiles =>
      exact absurd (inside ⟨2, 2⟩ (by decide)) (by decide)

end Tilemap

end ZeldaServer
