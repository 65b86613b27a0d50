import ZeldaServer.Datasheets.Readings

/-! When the JSON parser ends. It reads numbers one after the other; it never comes back from a
character in a pair of offsets that is neither a gap nor part of a number. -/

namespace ZeldaServer

namespace RoomDataManager

open Program (means_unique)
open Scanning (runs runs_nil runs_others runs_other runs_run)
open Outcome (void void_bind void_map void_collect void_unit inTurn inTurn_append inTurn_ends_iff inTurn_gave_iff)

/-- What the parser comes to: the text of a number for `stoi`, or a character in a pair that is
neither a gap nor part of a number. -/
inductive Reading where
  | number (text : Text)
  | foreign
  deriving DecidableEq

def isPairChar (c : Char) : Bool := isGap c || isNumeral c

def pairReadings (text : Text) : List Reading :=
  (runs Char.isDigit (text.takeWhile isPairChar)).map .number ++
    if text.all isPairChar then [] else [.foreign]

def monsterKeys : List Text :=
  ["templateId".toList, "count".toList, "level".toList, "aggroRange".toList, "leashRange".toList]

def keyReadings (json key : Text) : List Reading := ((intText json key 0).map .number).toList

def groupReadings (groupJson : Text) : List Reading :=
  (runs isNumeral ((arrayText groupJson "anchor".toList 0).getD [])).map .number ++
    (pairTexts groupJson).flatMap pairReadings ++
    (objectsInArray groupJson "monsters".toList 0).flatMap fun monsterJson =>
      monsterKeys.flatMap (keyReadings monsterJson)

def roomReadings (json : Text) (roomObjStart : Nat) : List Reading :=
  (objectsInArray json "spawns".toList roomObjStart).flatMap groupReadings

def readings (json : Text) : List Reading :=
  (rooms json).flatMap fun (_, roomObjStart) => roomReadings json roomObjStart

def Reading.outcome : Reading → Outcome Exn Unit
  | .number text => (RoomDataManager.number text).void
  | .foreign => .never

def comes (readings : List Reading) : Outcome Exn Unit := inTurn (readings.map Reading.outcome)

theorem comes_append (front back : List Reading) :
    comes (front ++ back) = comes front >>= fun _ => comes back := by
  unfold comes
  rw [List.map_append, inTurn_append]

theorem comes_flatMap {α : Type} (f : α → List Reading) (items : List α) :
    comes (items.flatMap f) = inTurn (items.map fun item => comes (f item)) := by
  induction items with
  | nil => rfl
  | cons item items ih =>
      rw [List.flatMap_cons, comes_append, ih]
      rfl

theorem comes_numbers (texts : List Text) :
    comes (texts.map .number) = (Outcome.collect number texts).void := by
  unfold comes
  rw [void_collect, List.map_map]
  rfl

theorem digit_pairChar {c : Char} (digit : c.isDigit = true) : isPairChar c = true := by
  simp [isPairChar, isNumeral, digit]

theorem gap_pairChar {c : Char} (gap : isGap c = true) : isPairChar c = true := by
  simp [isPairChar, gap]

theorem gap_not_digit {c : Char} (gap : isGap c = true) : c.isDigit = false := by
  have other := gap_not_numeral c gap
  simp only [isNumeral, decide_eq_false_iff_not, not_or] at other
  exact eq_false_of_ne_true other.1

theorem pairReadings_others (front rest : Text) (parts : ∀ c ∈ front, isPairChar c = true)
    (others : ∀ c ∈ front, c.isDigit = false) :
    pairReadings (front ++ rest) = pairReadings rest := by
  unfold pairReadings
  rw [List.takeWhile_append_of_pos parts, runs_others front _ others, List.all_append,
    List.all_eq_true.mpr parts, Bool.true_and]

theorem pairReadings_dropGaps (text : Text) :
    pairReadings (text.dropWhile isGap) = pairReadings text := by
  have gaps : ∀ c ∈ text.takeWhile isGap, isGap c = true := List.all_eq_true.mp List.all_takeWhile
  calc
    pairReadings (text.dropWhile isGap) =
        pairReadings (text.takeWhile isGap ++ text.dropWhile isGap) :=
      (pairReadings_others _ _ (fun c member => gap_pairChar (gaps c member))
        fun c member => gap_not_digit (gaps c member)).symm
    _ = pairReadings text := by rw [List.takeWhile_append_dropWhile]

theorem pairReadings_digits (text : Text) (some_digit : text.takeWhile Char.isDigit ≠ []) :
    pairReadings text =
      .number (text.takeWhile Char.isDigit) :: pairReadings (text.dropWhile Char.isDigit) := by
  have digits : ∀ c ∈ text.takeWhile Char.isDigit, c.isDigit = true :=
    List.all_eq_true.mp List.all_takeWhile
  have parts : ∀ c ∈ text.takeWhile Char.isDigit, isPairChar c = true :=
    fun c member => digit_pairChar (digits c member)
  have ends : ∀ c ∈ ((text.dropWhile Char.isDigit).takeWhile isPairChar).head?,
      c.isDigit = false := by
    intro c first
    have other := List.head?_dropWhile_not Char.isDigit text
    cases rest : text.dropWhile Char.isDigit with
    | nil => simp [rest] at first
    | cons d rest' =>
        rw [rest] at first other
        rw [List.takeWhile_cons] at first
        split at first
        · cases first
          exact other
        · cases first
  calc
    pairReadings text =
        pairReadings (text.takeWhile Char.isDigit ++ text.dropWhile Char.isDigit) := by
      rw [List.takeWhile_append_dropWhile]
    _ = _ := by
      unfold pairReadings
      rw [List.takeWhile_append_of_pos parts, runs_run _ _ some_digit digits ends,
        List.all_append, List.all_eq_true.mpr parts, Bool.true_and]
      rfl

theorem void_pairNumbers (fuel : Nat) (text : Text) (enough : text.length ≤ fuel) :
    (pairNumbers fuel text).void = comes (pairReadings text) := by
  induction fuel generalizing text with
  | zero =>
      obtain rfl : text = [] := List.eq_nil_of_length_eq_zero (Nat.le_zero.mp enough)
      rfl
  | succ fuel ih =>
      rw [← pairReadings_dropGaps, pairNumbers]
      have shorter := (List.dropWhile_suffix isGap (l := text)).length_le
      have other := List.head?_dropWhile_not isGap text
      generalize text.dropWhile isGap = behind at shorter other
      cases behind with
      | nil => rfl
      | cons c tail =>
          rw [List.length_cons] at shorter
          dsimp only
          by_cases minus : c = '-'
          case pos =>
            simp only [if_pos minus]
            have same : pairReadings (c :: tail) = pairReadings tail := by
              subst minus
              exact pairReadings_others ['-'] tail (List.all_eq_true.mp (by decide))
                (List.all_iff_forall_prop.mp (by decide))
            rw [same]
            split
            case isTrue => exact ih tail (by omega)
            case isFalse digits =>
              have less := (List.dropWhile_suffix Char.isDigit (l := tail)).length_le
              rw [pairReadings_digits tail digits, void_bind _ _ _ fun value => void_map _ _,
                ih _ (by omega)]
              rfl
          case neg =>
            simp only [if_neg minus]
            split
            case isTrue none_here =>
              have digit : c.isDigit = false := by
                by_contra digit
                rw [List.takeWhile_cons_of_pos (by simpa using digit)] at none_here
                cases none_here
              have foreign : isPairChar c = false := by
                simp only [List.head?_cons] at other
                simp [isPairChar, isNumeral, other, digit, minus]
              rw [pairReadings, List.takeWhile_cons_of_neg (by simp [foreign]), runs_nil,
                List.all_cons, foreign]
              rfl
            case isFalse digits =>
              have less : ((c :: tail).dropWhile Char.isDigit).length ≤ tail.length := by
                cases digit : c.isDigit with
                | false => simp [digit] at digits
                | true =>
                    rw [List.dropWhile_cons_of_pos digit]
                    exact (List.dropWhile_suffix Char.isDigit).length_le
              rw [pairReadings_digits _ digits, void_bind _ _ _ fun value => void_map _ _,
                ih _ (by omega)]
              rfl

theorem void_pair (text : Text) : (pair text).void = comes (pairReadings text) := by
  unfold pair
  rw [void_map, void_pairNumbers _ _ (Nat.le_refl _)]

theorem void_intValue (json key : Text) :
    (intValue json key 0).void = comes (keyReadings json key) := by
  unfold intValue keyReadings
  cases intText json key 0 with
  | none => rfl
  | some text => exact (bind_pure _).symm

theorem void_monster (monsterJson : Text) :
    (monster monsterJson).void = comes (monsterKeys.flatMap (keyReadings monsterJson)) := by
  unfold monster monsterKeys
  simp only [List.flatMap_cons, List.flatMap_nil, comes_append, ← void_intValue]
  apply void_bind
  intro templateId
  apply void_bind
  intro count
  apply void_bind
  intro level
  apply void_bind
  intro aggroRange
  apply void_bind
  intro leashRange
  rfl

theorem void_group (groupJson : Text) :
    (group groupJson).void = comes (groupReadings groupJson) := by
  unfold group groupReadings
  rw [comes_append, comes_append, comes_numbers, comes_flatMap, comes_flatMap, bind_assoc]
  apply void_bind
  intro anchorArray
  have pairs : (offsets groupJson).void =
      inTurn ((pairTexts groupJson).map fun text => comes (pairReadings text)) := by
    unfold offsets
    rw [void_map, void_collect]
    simp only [void_pair]
  rw [← pairs]
  apply void_bind
  intro offsets
  rw [void_map, void_collect]
  simp only [void_monster]

theorem void_room (json roomId : Text) (roomObjStart : Nat) :
    (room json roomId roomObjStart).void = comes (roomReadings json roomObjStart) := by
  unfold room roomReadings
  rw [void_map, void_collect, comes_flatMap]
  simp only [void_group]

theorem readRooms_never_iff (json : Text) (found : List (Text × Nat)) (spawnConfigs : SpawnConfigs) :
    readRooms json found spawnConfigs = .never ↔
      comes (found.flatMap fun (_, roomObjStart) => roomReadings json roomObjStart) = .never := by
  induction found generalizing spawnConfigs with
  | nil => simp [readRooms, comes, inTurn]
  | cons first found ih =>
      obtain ⟨roomId, roomObjStart⟩ := first
      rw [List.flatMap_cons, comes_append, readRooms, ← void_room json roomId]
      cases room json roomId roomObjStart with
      | never => simp [void]
      | threw e => simp [void]
      | gave config => exact ih _

theorem readRooms_not_threw (json : Text) (found : List (Text × Nat)) (spawnConfigs : SpawnConfigs)
    (e : Exn) : readRooms json found spawnConfigs ≠ .threw e := by
  induction found generalizing spawnConfigs with
  | nil => simp [readRooms]
  | cons first found ih =>
      obtain ⟨roomId, roomObjStart⟩ := first
      rw [readRooms]
      cases room json roomId roomObjStart with
      | never => simp
      | threw e => simp
      | gave config => exact ih _

theorem outcome_number (text : Text) :
    Reading.outcome (.number text) =
      match parseInt text with
      | .error e => .threw e
      | .ok _ => .gave () := by
  change (number text).void = _
  unfold number
  cases parseInt text with
  | error e => rfl
  | ok value => rfl

theorem outcome_threw_iff (text : Text) :
    (∃ e, Reading.outcome (.number text) = .threw e) ↔ ∃ e, parseInt text = .error e := by
  rw [outcome_number]
  cases parseInt text with
  | error e => simp
  | ok value => simp

theorem readRooms_success (json : Text) (found : List (Text × Nat)) (spawnConfigs : SpawnConfigs)
    (success : Bool) (configs : SpawnConfigs)
    (ends : readRooms json found spawnConfigs = .gave (success, configs)) :
    success = true ↔
      comes (found.flatMap fun (_, roomObjStart) => roomReadings json roomObjStart) = .gave () := by
  induction found generalizing spawnConfigs with
  | nil =>
      cases ends
      simp [comes, inTurn]
  | cons first found ih =>
      obtain ⟨roomId, roomObjStart⟩ := first
      rw [List.flatMap_cons, comes_append, ← void_room json roomId]
      rw [readRooms] at ends
      cases read : room json roomId roomObjStart with
      | never =>
          rw [read] at ends
          cases ends
      | threw e =>
          rw [read] at ends
          cases ends
          simp [void]
      | gave config =>
          rw [read] at ends
          exact ih _ ends

theorem comes_gave_iff (found : List Reading) :
    comes found = .gave () ↔
      ∀ reading ∈ found, ∃ text value, reading = .number text ∧ parseInt text = .ok value := by
  unfold comes
  rw [inTurn_gave_iff, List.forall_mem_map]
  apply forall₂_congr
  intro reading _
  cases reading with
  | foreign => simp [Reading.outcome]
  | number text =>
      rw [outcome_number]
      cases parsed : parseInt text with
      | error e => simp [parsed]
      | ok value => simp [parsed]

theorem comes_ends_iff (json : Text) :
    comes (readings json) ≠ .never ↔
      ∀ front back, readings json = front ++ .foreign :: back →
        ∃ text e, .number text ∈ front ∧ parseInt text = .error e := by
  change inTurn ((readings json).map Reading.outcome) ≠ .never ↔ _
  rw [inTurn_ends_iff]
  constructor
  · intro all front back split
    obtain ⟨e, thrown⟩ := all (front.map Reading.outcome) (back.map Reading.outcome)
      (by simp [split, Reading.outcome])
    obtain ⟨reading, member, threw⟩ := List.mem_map.mp thrown
    cases reading with
    | foreign => cases threw
    | number text =>
        obtain ⟨e', fails⟩ := (outcome_threw_iff text).mp ⟨e, threw⟩
        exact ⟨text, e', member, fails⟩
  · intro all front back split
    obtain ⟨before, behind, same, rfl, tail⟩ := List.map_eq_append_iff.mp split
    obtain ⟨reading, behind', rfl, never, rfl⟩ := List.map_eq_cons_iff.mp tail
    cases reading with
    | number text =>
        rw [outcome_number] at never
        cases value : parseInt text with
        | error e => simp [value] at never
        | ok value' => simp [value] at never
    | foreign =>
        obtain ⟨text, e, member, fails⟩ := all before behind' same
        obtain ⟨e', threw⟩ := (outcome_threw_iff text).mpr ⟨e, fails⟩
        exact ⟨e', List.mem_map.mpr ⟨_, member, threw⟩⟩

theorem parser_returns_iff_ends (json : Text) (spawnConfigs : SpawnConfigs) :
    (∃ success configs, (parseMonsterSpawnJson json spawnConfigs).Means (.gave (success, configs))) ↔
      comes (readings json) ≠ .never := by
  have means := means_parseMonsterSpawnJson json spawnConfigs
  rw [ne_eq, readings, ← readRooms_never_iff json (rooms json) spawnConfigs]
  constructor
  · rintro ⟨success, configs, given⟩ never
    cases (means_unique means given).symm.trans never
  · intro ends
    cases result : readRooms json (rooms json) spawnConfigs with
    | never => exact absurd result ends
    | threw e => exact absurd result (readRooms_not_threw json _ _ e)
    | gave value => exact ⟨value.1, value.2, result ▸ means⟩

/-- The parser returns if and only if `stoi` throws at a number before every character in a pair
that is neither a gap nor part of a number. -/
theorem parser_returns_iff (json : Text) (spawnConfigs : SpawnConfigs) :
    (∃ success configs, (parseMonsterSpawnJson json spawnConfigs).Means (.gave (success, configs))) ↔
      ∀ front back, readings json = front ++ .foreign :: back →
        ∃ text e, .number text ∈ front ∧ parseInt text = .error e := by
  rw [parser_returns_iff_ends, comes_ends_iff]

def foreignPair : Text :=
  "\x7b\"r1\":\x7b\"spawns\":[\x7b\"offsets\":[[a,1]]\x7d]\x7d\x7d".toList

/-- A letter in a pair. -/
theorem parser_stuck :
    ¬ ∀ json : Text, ∃ success configs,
      (parseMonsterSpawnJson json fun _ => none).Means (.gave (success, configs)) := by
  intro all
  obtain ⟨success, configs, given⟩ := all foreignPair
  have means := means_parseMonsterSpawnJson foreignPair fun _ => none
  have reads : comes (readings foreignPair) = .never := by decide +kernel
  rw [(readRooms_never_iff foreignPair _ _).mpr reads] at means
  cases means_unique means given

end RoomDataManager

end ZeldaServer
