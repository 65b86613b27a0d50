import ZeldaServer.Datasheets.Numerals
import ZeldaServer.Datasheets.Tilemap
import ZeldaServer.World.Cells

/-! The map editor of the client: `TilemapActor::TilePicking` and `Tilemap::SaveFile`, and what
`Tilemap::LoadFile` of client and server makes of a saved map. -/

namespace ZeldaServer

namespace Tilemap

open RoomDataManager (Text isSpace decimal decimal_numeral numeral_space numeral_ne signed_decimal
  dropWhile_decimal takeWhile_digits natAbs_signed digitsValue_toDigits toDigits_digits digit_range)

/-- `_tiles[y][x].value` -/
def tileValue (map : Tilemap) (x y : Nat) : Int := (map.tiles.getD y []).getD x 0

def saveFile (map : Tilemap) : Text :=
  decimal map.mapSize.x ++ '\n' :: (decimal map.mapSize.y ++ '\n' ::
    (List.range map.mapSize.y.toNat).flatMap fun y =>
      ((List.range map.mapSize.x.toNat).flatMap fun x => decimal (map.tileValue x y)) ++ ['\n'])

/-- `TILE_SIZEX` and `TILE_SIZEY` -/
def tileSize : Int := 48

/-- `GetTileAt({ x, y })->value = 1` where there is a tile. -/
def wallUp (map : Tilemap) (pos : Vec2Int) : Tilemap :=
  if (map.getTileAt pos).isSome then
    { map with tiles := map.tiles.modify pos.y.toNat fun row => row.set pos.x.toNat 1 }
  else map

/-- The cell of a click: both positions are in pixels, `screen` is the corner that the camera
shows. -/
def clickedCell (screen mouse : Vec2Int) : Vec2Int :=
  ⟨(mouse.x + screen.x).tdiv tileSize, (mouse.y + screen.y).tdiv tileSize⟩

def tilePicking (map : Tilemap) (click : Vec2Int × Vec2Int) : Tilemap :=
  map.wallUp (clickedCell click.1 click.2)

/-- A map as `SetMapSize` makes it. -/
structure Filled (map : Tilemap) : Prop where
  columns : 0 ≤ map.mapSize.x ∧ map.mapSize.x < 2 ^ 31
  rows : 0 ≤ map.mapSize.y ∧ map.mapSize.y < 2 ^ 31
  height : map.tiles.length = map.mapSize.y.toNat
  width : ∀ row ∈ map.tiles, row.length = map.mapSize.x.toNat

def rowText (row : List Int) : Text := row.flatMap decimal

theorem flatMap_range_getD {A B : Type} (f : A → List B) (default : A) (items : List A) :
    ((List.range items.length).flatMap fun i => f (items.getD i default)) = items.flatMap f := by
  induction items with
  | nil => rfl
  | cons head tail ih =>
      rw [List.length_cons, List.range_succ_eq_map, List.flatMap_cons, List.flatMap_map,
        List.flatMap_cons, ← ih]
      rfl

theorem Filled.saveFile_eq {map : Tilemap} (filled : map.Filled) :
    map.saveFile = decimal map.mapSize.x ++ '\n' :: (decimal map.mapSize.y ++ '\n' ::
      map.tiles.flatMap fun row => rowText row ++ ['\n']) := by
  have rows : ((List.range map.mapSize.y.toNat).flatMap fun y =>
      ((List.range map.mapSize.x.toNat).flatMap fun x => decimal (map.tileValue x y)) ++ ['\n']) =
        map.tiles.flatMap fun row => rowText row ++ ['\n'] := by
    rw [← filled.height, ← flatMap_range_getD (fun row => rowText row ++ ['\n']) []]
    apply List.flatMap_congr
    intro y listed
    have inside : y < map.tiles.length := List.mem_range.mp listed
    have width := filled.width _ (List.getElem_mem inside)
    unfold tileValue rowText
    rw [List.getD_eq_getElem?_getD, List.getElem?_eq_getElem inside, Option.getD_some, ← width,
      flatMap_range_getD]
  rw [saveFile, rows]

theorem readInt_decimal (gap rest : Text) (n old : Int) (gaps : ∀ c ∈ gap, isSpace c = true)
    (fits : -2 ^ 31 ≤ n ∧ n < 2 ^ 31) (ends : ∀ c ∈ rest.head?, c.isDigit = false) :
    readInt ⟨gap ++ (decimal n ++ rest), false⟩ old = (n, ⟨rest, false⟩) := by
  have whole : (gap ++ (decimal n ++ rest)).dropWhile isSpace = decimal n ++ rest := by
    rw [List.dropWhile_append_of_pos gaps, dropWhile_decimal]
  have some_text : decimal n ++ rest ≠ [] := by
    simp [(decimal_numeral n).1]
  have digits := takeWhile_digits n.natAbs ends
  unfold readInt
  rw [whole]
  dsimp only
  rw [if_neg (by simp [some_text]), signed_decimal]
  dsimp only
  rw [digits.1, digits.2, digitsValue_toDigits, natAbs_signed, if_neg Nat.toDigits_ne_nil,
    if_neg (by omega), if_neg (by omega)]

theorem rowText_word (row : List Int) : ∀ c ∈ rowText row, isWordChar c = true := by
  intro c listed
  obtain ⟨n, -, spelt⟩ := List.mem_flatMap.mp listed
  have space := numeral_space ((decimal_numeral n).2 c spelt)
  simp [isWordChar, space]

theorem rowText_ne_nil {row : List Int} (some_tile : row ≠ []) : rowText row ≠ [] := by
  cases row with
  | nil => exact absurd rfl some_tile
  | cons n row =>
      rw [rowText, List.flatMap_cons]
      exact List.append_ne_nil_of_left_ne_nil (decimal_numeral n).1 _

theorem readWord_row {row : List Int} (some_tile : row ≠ []) (rest : Text) :
    readWord ⟨'\n' :: (rowText row ++ '\n' :: rest), false⟩ = (rowText row, ⟨'\n' :: rest, false⟩) := by
  have word := rowText_word row
  have nonempty := rowText_ne_nil some_tile
  have start : ('\n' :: (rowText row ++ '\n' :: rest)).dropWhile isSpace =
      rowText row ++ '\n' :: rest := by
    cases text : rowText row with
    | nil => exact absurd text nonempty
    | cons c tail =>
        have first : isSpace c = false := by
          simpa [isWordChar] using word c (by simp [text])
        rw [List.dropWhile_cons_of_pos (by decide), List.cons_append,
          List.dropWhile_cons_of_neg (by simp [first])]
  have newline : isWordChar '\n' = false := by decide
  unfold readWord
  rw [if_neg (by simp), start]
  dsimp only
  rw [List.takeWhile_append_of_pos word, List.dropWhile_append_of_pos word]
  simp [newline, nonempty]

def ReadsAs : List Int → Text → Prop
  | [], _ => True
  | v :: row, text => ((text.headD '\x00').toNat : Int) - '0'.toNat = v ∧ ReadsAs row text.tail

theorem map_tileAt_iff (row : List Int) (text : Text) :
    (List.range row.length).map (tileAt text) = row ↔ ReadsAs row text := by
  induction row generalizing text with
  | nil => simp [ReadsAs]
  | cons v row ih =>
      have shifted : tileAt text ∘ Nat.succ = tileAt text.tail := by
        funext x
        cases text <;> simp [tileAt]
      have first : tileAt text 0 = ((text.headD '\x00').toNat : Int) - '0'.toNat := by
        cases text <;> simp [tileAt]
      rw [List.length_cons, List.range_succ_eq_map, List.map_cons, List.map_map, List.cons.injEq,
        shifted, first, ih]
      rfl

/-- Tiles of one digit; behind the first -3 all are 3, as its sign and its digit are taken for
two tiles. -/
def Legible (row : List Int) : Prop :=
  (∀ v ∈ row, 0 ≤ v ∧ v ≤ 9) ∨
    ∃ front count, row = front ++ -3 :: List.replicate count 3 ∧ ∀ v ∈ front, 0 ≤ v ∧ v ≤ 9

theorem digitChar_value {n : Nat} (small : n < 10) : (Nat.digitChar n).toNat = 48 + n := by
  interval_cases n <;> rfl

theorem readsAs_shifted (row : List Int) :
    ReadsAs row ('3' :: rowText row) ↔ row = List.replicate row.length 3 := by
  induction row with
  | nil => simp [ReadsAs]
  | cons v row ih =>
      rw [List.length_cons, List.replicate_succ, List.cons.injEq, ← ih, ReadsAs]
      have three : (('3' :: rowText (v :: row)).headD '\x00').toNat = 51 := rfl
      rw [three]
      constructor
      · rintro ⟨rfl, rest⟩
        exact ⟨rfl, rest⟩
      · rintro ⟨rfl, rest⟩
        exact ⟨rfl, rest⟩

theorem legible_digit {v : Int} (row : List Int) (digit : 0 ≤ v ∧ v ≤ 9) :
    Legible (v :: row) ↔ Legible row := by
  constructor
  · rintro (digits | ⟨front, count, split, digits⟩)
    · exact .inl fun w listed => digits w (List.mem_cons_of_mem v listed)
    · cases front with
      | nil =>
          have same : v = -3 := (List.cons.inj split).1
          omega
      | cons w front =>
          exact .inr ⟨front, count, (List.cons.inj split).2,
            fun u listed => digits u (List.mem_cons_of_mem w listed)⟩
  · rintro (digits | ⟨front, count, rfl, digits⟩)
    · exact .inl (List.forall_mem_cons.mpr ⟨digit, digits⟩)
    · exact .inr ⟨v :: front, count, rfl, List.forall_mem_cons.mpr ⟨digit, digits⟩⟩

theorem legible_other {v : Int} (row : List Int) (other : ¬ (0 ≤ v ∧ v ≤ 9)) :
    Legible (v :: row) ↔ v = -3 ∧ row = List.replicate row.length 3 := by
  constructor
  · rintro (digits | ⟨front, count, split, digits⟩)
    · exact absurd (digits v List.mem_cons_self) other
    · cases front with
      | nil =>
          obtain ⟨rfl, rfl⟩ := List.cons.inj split
          exact ⟨rfl, by rw [List.length_replicate]⟩
      | cons w front =>
          have same : v = w := (List.cons.inj split).1
          exact absurd (digits v (same ▸ List.mem_cons_self)) other
  · rintro ⟨rfl, all⟩
    exact .inr ⟨[], row.length, by rw [← all]; rfl, List.forall_mem_nil _⟩

theorem readsAs_rowText_iff (row : List Int) : ReadsAs row (rowText row) ↔ Legible row := by
  induction row with
  | nil => simp [ReadsAs, Legible]
  | cons v row ih =>
      have split : rowText (v :: row) = decimal v ++ rowText row := List.flatMap_cons
      rw [ReadsAs, split]
      by_cases digit : 0 ≤ v ∧ v ≤ 9
      · have small : v.natAbs < 10 := by omega
        have one : decimal v = [Nat.digitChar v.natAbs] := by
          rw [decimal, if_neg (by omega), Nat.toDigits_of_lt_base small]
        have value := digitChar_value small
        rw [legible_digit row digit, one, List.singleton_append, List.headD_cons, value,
          List.tail_cons, ih]
        have zero : '0'.toNat = 48 := rfl
        constructor
        · exact And.right
        · intro rest
          refine ⟨?_, rest⟩
          omega
      · rw [legible_other row digit]
        by_cases negative : v < 0
        · have sign : decimal v = '-' :: Nat.toDigits 10 v.natAbs := if_pos negative
          rw [sign, List.cons_append, List.headD_cons, List.tail_cons]
          have minus : (('-'.toNat : Int) - '0'.toNat = v) ↔ v = -3 := by
            have code : (('-'.toNat : Int) - '0'.toNat) = -3 := rfl
            rw [code, eq_comm]
          rw [minus]
          apply and_congr_right
          rintro rfl
          exact readsAs_shifted row
        · constructor
          · rintro ⟨first, -⟩
            cases text : decimal v with
            | nil => exact absurd text (decimal_numeral v).1
            | cons c tail =>
                have listed : c ∈ Nat.toDigits 10 v.natAbs := by
                  have whole : decimal v = Nat.toDigits 10 v.natAbs := if_neg negative
                  rw [← whole, text]
                  exact List.mem_cons_self
                have range := digit_range (toDigits_digits _ c listed)
                rw [text, List.cons_append, List.headD_cons] at first
                have zero : '0'.toNat = 48 := rfl
                omega
          · rintro ⟨rfl, -⟩
            omega

theorem loadRows_saved (width : Nat) (rows : List (List Int)) (some_tile : 0 < width)
    (widths : ∀ row ∈ rows, row.length = width) :
    (loadRows width ⟨'\n' :: rows.flatMap fun row => rowText row ++ ['\n'], false⟩
      rows.length).1 = rows.map fun row => (List.range width).map (tileAt (rowText row)) := by
  induction rows with
  | nil => rfl
  | cons row rows ih =>
      have nonempty : row ≠ [] := by
        intro empty
        have length := widths row List.mem_cons_self
        rw [empty] at length
        exact absurd length (Nat.ne_of_lt some_tile)
      have stream : ('\n' :: (row :: rows).flatMap fun row => rowText row ++ ['\n']) =
          '\n' :: (rowText row ++ '\n' :: rows.flatMap fun row => rowText row ++ ['\n']) := by
        simp
      rw [stream, List.length_cons, loadRows, readWord_row nonempty]
      dsimp only
      rw [ih fun row listed => widths row (List.mem_cons_of_mem _ listed), List.map_cons]

theorem loadRows_narrow (height : Nat) (stream : Stream) :
    (loadRows 0 stream height).1 = List.replicate height [] := by
  induction height generalizing stream with
  | zero => rfl
  | succ height ih =>
      rw [loadRows]
      dsimp only
      rw [ih, List.replicate_succ]
      rfl

theorem Filled.readSize_saved {map : Tilemap} (filled : map.Filled) (old : Vec2Int) :
    readSize old (some map.saveFile) =
      (map.mapSize, ⟨'\n' :: map.tiles.flatMap fun row => rowText row ++ ['\n'], false⟩) := by
  obtain ⟨columns, rows⟩ := And.intro filled.columns filled.rows
  have newline : ∀ (rest : Text), ∀ c ∈ ('\n' :: rest).head?, c.isDigit = false := by
    rintro rest c ⟨⟩
    decide
  have white : ∀ c ∈ ['\n'], isSpace c = true := by
    intro c listed
    rw [List.mem_singleton.mp listed]
    decide
  have first := readInt_decimal [] _ map.mapSize.x old.x (List.forall_mem_nil _) (by omega)
    (newline (decimal map.mapSize.y ++ '\n' ::
      map.tiles.flatMap fun row => rowText row ++ ['\n']))
  have second := readInt_decimal ['\n'] _ map.mapSize.y old.y white (by omega)
    (newline (map.tiles.flatMap fun row => rowText row ++ ['\n']))
  rw [List.nil_append] at first
  unfold readSize openFile
  rw [filled.saveFile_eq, first]
  dsimp only
  rw [List.singleton_append] at second
  rw [second]

theorem Filled.loadFile_saved {map : Tilemap} (filled : map.Filled) (old : Vec2Int) :
    ∃ reads, loadFile old (some map.saveFile) = .loaded ⟨map.mapSize,
      map.tiles.map fun row => (List.range map.mapSize.x.toNat).map (tileAt (rowText row))⟩
        reads := by
  obtain ⟨columns, rows⟩ := And.intro filled.columns filled.rows
  unfold loadFile
  rw [filled.readSize_saved old]
  dsimp only
  rw [if_neg (by omega)]
  refine ⟨_, congrArg₂ Loading.loaded (congrArg _ ?_) rfl⟩
  by_cases narrow : map.mapSize.x.toNat = 0
  · rw [narrow, loadRows_narrow, ← filled.height]
    simp
  · rw [← filled.height]
    exact loadRows_saved _ map.tiles (by omega) filled.width

theorem lines_saved (rows : List (List Int)) (some_tile : ∀ row ∈ rows, row ≠ []) :
    lines ⟨'\n' :: rows.flatMap fun row => rowText row ++ ['\n'], false⟩ rows.length =
      rows.map rowText := by
  induction rows with
  | nil => rfl
  | cons row rows ih =>
      have stream : ('\n' :: (row :: rows).flatMap fun row => rowText row ++ ['\n']) =
          '\n' :: (rowText row ++ '\n' :: rows.flatMap fun row => rowText row ++ ['\n']) := by
        simp
      rw [stream, List.length_cons, lines, readWord_row (some_tile row List.mem_cons_self)]
      dsimp only
      rw [ih fun row listed => some_tile row (List.mem_cons_of_mem _ listed), List.map_cons]

theorem length_le_rowText (row : List Int) : row.length ≤ (rowText row).length := by
  induction row with
  | nil => exact Nat.zero_le _
  | cons v row ih =>
      have digits : 0 < (decimal v).length := List.length_pos_iff.mpr (decimal_numeral v).1
      rw [rowText, List.flatMap_cons, List.length_append, List.length_cons]
      have rest : (row.flatMap decimal).length = (rowText row).length := rfl
      omega

/-- Whatever its tiles are, a saved map is loaded in bounds; it is loaded as it was if and only
if its rows are legible. -/
theorem saved_map_loads (map : Tilemap) (filled : map.Filled) (old : Vec2Int) :
    StaysInBounds (loadFile old (some map.saveFile)) ∧
      ((∃ reads, loadFile old (some map.saveFile) = .loaded map reads) ↔
        ∀ row ∈ map.tiles, Legible row) := by
  obtain ⟨reads, loads⟩ := filled.loadFile_saved old
  constructor
  · rw [load_in_bounds_iff, filled.readSize_saved old]
    refine ⟨filled.columns.1, filled.rows.1, ?_⟩
    dsimp only
    by_cases narrow : map.mapSize.x.toNat = 0
    · intro line _
      have columns := filled.columns
      omega
    · have some_tile : ∀ row ∈ map.tiles, row ≠ [] := by
        rintro row listed rfl
        exact narrow (filled.width [] listed).symm
      rw [← filled.height, lines_saved map.tiles some_tile, List.forall_mem_map]
      intro row listed
      have columns := filled.columns
      have width := filled.width row listed
      have text := length_le_rowText row
      omega
  · have rows : (map.tiles.map fun row =>
        (List.range map.mapSize.x.toNat).map (tileAt (rowText row))) = map.tiles ↔
          ∀ row ∈ map.tiles, Legible row := by
      conv_lhs => rhs; rw [← List.map_id map.tiles]
      rw [List.map_inj_left]
      apply forall₂_congr
      intro row listed
      rw [id_eq, ← filled.width row listed, map_tileAt_iff, readsAs_rowText_iff]
    rw [← rows, loads]
    constructor
    · rintro ⟨reads', same⟩
      exact congrArg Tilemap.tiles (Loading.loaded.inj same).1
    · intro same
      exact ⟨reads, by rw [same]⟩

theorem wallUp_cases (map : Tilemap) (pos : Vec2Int) :
    ((map.getTileAt pos).isSome = true ∧ map.wallUp pos =
      ⟨map.mapSize, map.tiles.modify pos.y.toNat fun row => row.set pos.x.toNat 1⟩) ∨
      map.getTileAt pos = none ∧ map.wallUp pos = map := by
  unfold wallUp
  cases found : map.getTileAt pos with
  | none => exact .inr ⟨rfl, rfl⟩
  | some tile => exact .inl ⟨rfl, rfl⟩

theorem Filled.wallUp {map : Tilemap} (filled : map.Filled) (pos : Vec2Int) :
    (map.wallUp pos).Filled := by
  rcases wallUp_cases map pos with ⟨-, changed⟩ | ⟨-, same⟩
  · rw [changed]
    refine ⟨filled.columns, filled.rows, ?_, ?_⟩
    · rw [List.length_modify]
      exact filled.height
    · intro row listed
      obtain ⟨y, inside, found⟩ := List.getElem_of_mem listed
      rw [List.length_modify] at inside
      have width := filled.width _ (List.getElem_mem inside)
      rw [← found, List.getElem_modify]
      split
      · rw [List.length_set, width]
      · exact width
  · rw [same]
    exact filled

def Digits (map : Tilemap) : Prop := ∀ row ∈ map.tiles, ∀ v ∈ row, 0 ≤ v ∧ v ≤ 9

theorem Digits.wallUp {map : Tilemap} (digits : map.Digits) (pos : Vec2Int) :
    (map.wallUp pos).Digits := by
  rcases wallUp_cases map pos with ⟨-, changed⟩ | ⟨-, same⟩
  · rw [changed]
    intro row listed v tile
    obtain ⟨y, inside, rfl⟩ := List.getElem_of_mem listed
    rw [List.length_modify] at inside
    rw [List.getElem_modify] at tile
    split at tile
    · rcases List.mem_or_eq_of_mem_set tile with old | rfl
      · exact digits _ (List.getElem_mem inside) v old
      · decide
    · exact digits _ (List.getElem_mem inside) v tile
  · rw [same]
    exact digits

theorem Filled.getTileAt_wallUp {map : Tilemap} (filled : map.Filled) (pos other : Vec2Int) :
    (map.wallUp pos).getTileAt other =
      if other = pos then (map.getTileAt pos).map fun _ => 1 else map.getTileAt other := by
  rcases wallUp_cases map pos with ⟨found, changed⟩ | ⟨absent, same⟩
  · rw [changed]
    unfold getTileAt at found ⊢
    dsimp only
    split at found
    case isTrue => cases found
    case isFalse inside =>
      have row : pos.y.toNat < map.tiles.length := by
        have height := filled.height
        omega
      have column : pos.x.toNat < (map.tiles[pos.y.toNat]).length := by
        have width := filled.width _ (List.getElem_mem row)
        omega
      split
      case isTrue outside =>
        rw [if_neg]
        rintro rfl
        exact inside outside
      case isFalse within =>
        by_cases here : other = pos
        · subst here
          rw [if_pos rfl, Option.map_some, List.getD_eq_getElem?_getD,
            List.getD_eq_getElem?_getD, List.getElem?_modify_eq, List.getElem?_eq_getElem row]
          dsimp only [Option.map_eq_map, Option.map_some, Option.getD_some]
          rw [List.getElem?_set_self column, Option.getD_some]
        · rw [if_neg here]
          congr 1
          rw [List.getD_eq_getElem?_getD, List.getD_eq_getElem?_getD, List.getD_eq_getElem?_getD,
            List.getD_eq_getElem?_getD]
          by_cases sameRow : pos.y.toNat = other.y.toNat
          · have apart : pos.x.toNat ≠ other.x.toNat := by
              intro sameColumn
              have x : other.x = pos.x := by omega
              have y : other.y = pos.y := by omega
              have cell : other = pos := by
                cases other
                cases pos
                congr
              exact here cell
            rw [← sameRow, List.getElem?_modify_eq, List.getElem?_eq_getElem row]
            dsimp only [Option.map_some, Option.getD_some, Option.map_eq_map]
            rw [List.getElem?_set_ne apart]
          · rw [List.getElem?_modify_ne _ _ sameRow]
  · rw [same]
    split
    case isTrue here => rw [here, absent, Option.map_none]
    case isFalse => rfl

theorem foldl_tilePicking (clicks : List (Vec2Int × Vec2Int)) (map : Tilemap) (filled : map.Filled)
    (digits : map.Digits) :
    (clicks.foldl tilePicking map).Filled ∧ (clicks.foldl tilePicking map).Digits ∧
      (clicks.foldl tilePicking map).mapSize = map.mapSize ∧
      ∀ pos, (clicks.foldl tilePicking map).getTileAt pos =
        if ∃ click ∈ clicks, clickedCell click.1 click.2 = pos then
          (map.getTileAt pos).map fun _ => 1
        else map.getTileAt pos := by
  induction clicks generalizing map with
  | nil =>
      refine ⟨filled, digits, rfl, fun pos => ?_⟩
      simp
  | cons click clicks ih =>
      obtain ⟨filled', digits', size, tiles⟩ := ih (map.tilePicking click) (filled.wallUp _)
        (digits.wallUp _)
      have sameSize : (map.tilePicking click).mapSize = map.mapSize := by
        unfold tilePicking
        rcases wallUp_cases map (clickedCell click.1 click.2) with ⟨-, changed⟩ | ⟨-, same⟩
        · rw [changed]
        · rw [same]
      refine ⟨filled', digits', size.trans sameSize, fun pos => ?_⟩
      have first := filled.getTileAt_wallUp (clickedCell click.1 click.2) pos
      rw [List.foldl_cons, tiles pos]
      unfold tilePicking
      rw [first]
      by_cases here : clickedCell click.1 click.2 = pos
      · subst here
        simp [Option.map_map, Function.comp_def]
      · have apart : pos ≠ clickedCell click.1 click.2 := fun same => here same.symm
        rw [if_neg apart]
        simp only [List.mem_cons, exists_eq_or_imp, here, false_or]

/-- What is edited and saved is what the server loads: the cells of the clicks are walls, and
otherwise the map is the one that was edited. -/
theorem edits_reach_the_server (map : Tilemap) (filled : map.Filled) (digits : map.Digits)
    (clicks : List (Vec2Int × Vec2Int)) (old : Vec2Int) :
    ∃ loaded reads,
      loadFile old (some (clicks.foldl tilePicking map).saveFile) = .loaded loaded reads ∧
        loaded.mapSize = map.mapSize ∧
        ∀ (scene : Scene) (r : RoomRef), (scene.fields r).tilemap = loaded → ∀ pos,
          isBlockedByWall scene r pos = true ↔
            map.getTileAt pos = none ∨ map.getTileAt pos = some 1 ∨
              ∃ click ∈ clicks, clickedCell click.1 click.2 = pos := by
  obtain ⟨edited, tiles, size, picked⟩ := foldl_tilePicking clicks map filled digits
  obtain ⟨reads, loads⟩ := (saved_map_loads _ edited old).2.mpr fun row listed =>
    .inl fun v tile => tiles row listed v tile
  refine ⟨_, reads, loads, size, ?_⟩
  intro scene r loaded pos
  unfold isBlockedByWall
  rw [loaded, picked pos]
  cases map.getTileAt pos with
  | none => simp
  | some tile =>
      by_cases clicked : ∃ click ∈ clicks, clickedCell click.1 click.2 = pos
      · simp [clicked]
      · simp [clicked]

/-- Two clicks on a map of two by two tiles, one of them outside. -/
def smallMap : Tilemap := ⟨⟨2, 2⟩, [[0, 1], [2, 0]]⟩

theorem small_map_edited :
    ∃ loaded reads, loadFile ⟨0, 0⟩ (some ([(⟨0, 0⟩, ⟨50, 60⟩), (⟨0, 0⟩, ⟨500, 0⟩)].foldl
      tilePicking smallMap).saveFile) = .loaded loaded reads ∧ loaded.mapSize = ⟨2, 2⟩ ∧
        ∀ (scene : Scene) (r : RoomRef), (scene.fields r).tilemap = loaded → ∀ pos,
          isBlockedByWall scene r pos = true ↔
            smallMap.getTileAt pos = none ∨ smallMap.getTileAt pos = some 1 ∨
              ∃ click ∈ [((⟨0, 0⟩, ⟨50, 60⟩) : Vec2Int × Vec2Int), (⟨0, 0⟩, ⟨500, 0⟩)],
                clickedCell click.1 click.2 = pos :=
  edits_reach_the_server smallMap ⟨by decide, by decide, rfl, by decide⟩ (by
    unfold Digits
    decide) _ _

theorem small_map_saved :
    StaysInBounds (loadFile ⟨0, 0⟩ (some smallMap.saveFile)) ∧
      ((∃ reads, loadFile ⟨0, 0⟩ (some smallMap.saveFile) = .loaded smallMap reads) ↔
        ∀ row ∈ smallMap.tiles, Legible row) :=
  saved_map_loads smallMap ⟨by decide, by decide, rfl, by decide⟩ ⟨0, 0⟩

end Tilemap

end ZeldaServer
