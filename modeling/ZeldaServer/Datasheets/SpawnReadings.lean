import ZeldaServer.Datasheets.SpawnFiles

/-! What the parser reads in a spawn file in the layout of `MonsterSpawn.json`. -/

namespace ZeldaServer

namespace RoomDataManager

open Scanning (Balanced find find_single segment skipTo substr closing closing_here runs runs_nil
  runs_other runs_others runs_run segment_skip)

theorem key_colon {json : Text} {keyPos : Nat} {k : Key} {back : List Token}
    (begins : Begins (.key k) (.mark .colon :: back) (json.drop keyPos)) :
    ∃ colonPos, find [':'] json keyPos = some colonPos ∧
      Begins (.mark .colon) back (json.drop colonPos) := by
  have spells : Spells ([.key k] ++ .mark .colon :: back) (json.drop keyPos) := begins.spells
  obtain ⟨colonPos, found, -, colon⟩ := find_mark spells (by simp) (by decide)
  exact ⟨colonPos, found, colon⟩

theorem Begins.behind_mark {m : Mark} {back : List Token} {json : Text} {n : Nat}
    (begins : Begins (.mark m) back (json.drop n)) :
    ∃ rest, json.drop n = m.char :: rest ∧ json.drop (n + 1) = rest ∧ Spells back rest := by
  obtain ⟨rest, split, spells⟩ := begins
  refine ⟨rest, split, ?_, spells⟩
  rw [← List.drop_drop, split]
  rfl

theorem Spells.not_numeral {m : Mark} {tokens : List Token} {text : Text}
    (spells : Spells (.mark m :: tokens) text) : ∀ c ∈ text.head?, isNumeral c = false := by
  obtain ⟨gap, rest, rfl, blank, -⟩ := spells.head
  intro c first
  cases gap with
  | nil =>
      cases first
      cases m <;> decide
  | cons d gap =>
      cases first
      exact gap_not_numeral c (blank.gaps c (List.mem_cons_self ..))

theorem segment_all (text : Text) (pos : Nat) :
    Scanning.segment text pos text.length = text.drop pos := by
  rw [Scanning.segment, substr, List.take_of_length_le (by simp)]

theorem blanks_dropWhile {gap rest more : Text} {c : Char} (blank : White gap)
    (shown : rest = c :: more) (other : isBlank c = false) :
    (gap ++ rest).dropWhile isBlank = rest := by
  rw [List.dropWhile_append_of_pos blank.blanks, shown,
    List.dropWhile_cons_of_neg (by simp [other])]

theorem numeral_gap {c : Char} (numeral : isNumeral c = true) : isGap c = false := by
  cases gap : isGap c with
  | false => rfl
  | true =>
      rw [gap_not_numeral c gap] at numeral
      cases numeral

theorem numeral_blank {c : Char} (numeral : isNumeral c = true) : isBlank c = false := by
  have gap := numeral_gap numeral
  simp only [isGap, decide_eq_false_iff_not, not_or] at gap
  exact Bool.eq_false_iff.mpr gap.1

theorem intValue_spelt {json : Text} {k : Key} {n : Int32} {m : Mark} {front back : List Token}
    (spells : Spells (front ++ (entry k [.number n] ++ .mark m :: back)) json)
    (absent : .key k ∉ front) : intValue json k.text 0 = .gave n := by
  have from_start : Spells (front ++ .key k :: .mark .colon :: .number n :: .mark m :: back)
      (json.drop 0) := spells
  obtain ⟨keyPos, key, begins⟩ := find_key from_start absent
  obtain ⟨colonPos, colon, value⟩ := key_colon begins
  obtain ⟨text, -, behind, value⟩ := value.behind_mark
  obtain ⟨gap, rest, rfl, blank, later⟩ := value.head
  obtain ⟨nonempty, numerals⟩ := numberText_numeral n
  obtain ⟨c, more, shown⟩ := List.exists_cons_of_ne_nil nonempty
  have first : isBlank c = false := numeral_blank (numerals c (by simp [shown]))
  have number_behind : segment json (skipTo isBlank json json.length (colonPos + 1)) json.length =
      numberText n ++ rest := by
    rw [segment_skip, segment_all, behind]
    exact blanks_dropWhile blank (congrArg (· ++ rest) shown) first
  have ends := later.not_numeral
  have digits : (numberText n ++ rest).takeWhile isNumeral = numberText n := by
    rw [List.takeWhile_append_of_pos numerals]
    cases rest with
    | nil => simp
    | cons d rest => simp [ends d rfl]
  have text : intText json k.text 0 = some (numberText n) := by
    simp only [intText, key, colon, Option.bind_some, number_behind, digits, if_neg nonempty]
  rw [intValue, text]
  simp only [number, parseInt_number]
  rfl

/-- What comes of a part of a file that is read only when its offsets can be. -/
def readingOf {α : Type} (fits : Prop) [Decidable fits] (value : α) : Outcome Exn α :=
  if fits then .gave value else .threw .outOfRange

theorem readingOf_bind {α β : Type} {fits : Prop} {_ : Decidable fits} {value : α}
    {f : α → Outcome Exn β} {result : β} (goes : f value = .gave result) :
    readingOf fits value >>= f = readingOf fits result := by
  unfold readingOf
  split
  · exact goes
  · rfl

theorem collect_readings {α β : Type} {f : Text → Outcome Exn β} {fits : α → Prop}
    [DecidablePred fits] {value : α → β} {items : List α} {texts : List Text}
    (reads : List.Forall₂ (fun item text => f text = readingOf (fits item) (value item))
      items texts) :
    Outcome.collect f texts = readingOf (∀ item ∈ items, fits item) (items.map value) := by
  induction reads with
  | nil => simp [Outcome.collect, readingOf]
  | @cons item text items texts first _ ih =>
      rw [Outcome.collect, first, ih]
      by_cases fit : fits item
      · rw [readingOf, if_pos fit, Outcome.gave_bind]
        refine (readingOf_bind (f := fun values => .gave (value item :: values)) rfl).trans ?_
        simp only [readingOf, List.forall_mem_cons, fit, true_and, List.map_cons]
      · simp only [readingOf, List.forall_mem_cons, fit, false_and, if_false]
        rfl

/-- The offsets are read without their sign, and the sign is put on later. -/
def Vec2Int.fits (v : Vec2Int) : Prop := v.x.toInt ≠ -2 ^ 31 ∧ v.y.toInt ≠ -2 ^ 31

instance (v : Vec2Int) : Decidable v.fits := inferInstanceAs (Decidable (_ ∧ _))

theorem pair_split {v : Vec2Int} {within : Text} (spells : Spells (pairTokens v) within) :
    ∃ before between after, within = before ++ (numberText v.x ++
        (between ++ (numberText v.y ++ after))) ∧
      (∀ c ∈ before, isGap c = true) ∧ (∀ c ∈ between, isGap c = true) ∧ between ≠ [] ∧
      ∀ c ∈ after, isGap c = true := by
  obtain ⟨before, rest, rfl, blank, spells⟩ := spells.head
  obtain ⟨left, rest, rfl, left_blank, spells⟩ := spells.head
  obtain ⟨right, rest, rfl, right_blank, spells⟩ := spells.head
  cases spells with
  | nil after_blank =>
      refine ⟨before, left ++ ',' :: right, rest, by simp [Token.text, Mark.char],
        blank.gaps, ?_, by simp, after_blank.gaps⟩
      simp only [List.forall_mem_append, List.forall_mem_cons]
      exact ⟨left_blank.gaps, by decide, right_blank.gaps⟩

theorem gaps_not_numeral {gap : Text} (gaps : ∀ c ∈ gap, isGap c = true) :
    ∀ c ∈ gap, isNumeral c = false := fun c listed => gap_not_numeral c (gaps c listed)

theorem gap_ends {gap : Text} (gaps : ∀ c ∈ gap, isGap c = true) (nonempty : gap ≠ [])
    (rest : Text) : ∀ c ∈ (gap ++ rest).head?, isNumeral c = false := by
  obtain ⟨d, more, rfl⟩ := List.exists_cons_of_ne_nil nonempty
  intro c first
  cases first
  exact gap_not_numeral _ (gaps _ (List.mem_cons_self ..))

theorem runs_pair {v : Vec2Int} {within : Text} (spells : Spells (pairTokens v) within) :
    runs isNumeral within = [numberText v.x, numberText v.y] := by
  obtain ⟨before, between, after, rfl, gaps, between_gaps, some_gap, after_gaps⟩ :=
    pair_split spells
  have ends : ∀ c ∈ after.head?, isNumeral c = false :=
    fun c first => gap_not_numeral c (after_gaps c (List.mem_of_mem_head? first))
  have nothing : runs isNumeral after = [] := by
    have all := runs_others after [] (gaps_not_numeral after_gaps)
    rwa [List.append_nil, runs_nil] at all
  obtain ⟨x_some, x_numerals⟩ := numberText_numeral v.x
  obtain ⟨y_some, y_numerals⟩ := numberText_numeral v.y
  rw [runs_others before _ (gaps_not_numeral gaps),
    runs_run _ _ x_some x_numerals (gap_ends between_gaps some_gap _),
    runs_others between _ (gaps_not_numeral between_gaps), runs_run _ _ y_some y_numerals ends,
    nothing]

theorem number_digits (n : Int32) :
    number (Nat.toDigits 10 n.toInt.natAbs) =
      if n.toInt = -2 ^ 31 then .threw .outOfRange
      else .gave (Int32.ofInt n.toInt.natAbs) := by
  have least := n.le_toInt
  have most := n.toInt_lt
  have spelt := parseInt_spelt (n.toInt.natAbs : Int)
  have digits : decimal (n.toInt.natAbs : Int) = Nat.toDigits 10 n.toInt.natAbs := by
    rw [decimal, if_neg (by omega), Int.natAbs_natCast]
  rw [digits] at spelt
  rw [number, spelt]
  by_cases lowest : n.toInt = -2 ^ 31
  · rw [if_pos lowest, if_pos (by omega)]
    rfl
  · rw [if_neg lowest, if_neg (by omega)]
    rfl

theorem negated (n : Int32) (negative : n.toInt < 0) : -Int32.ofInt n.toInt.natAbs = n := by
  have size : (n.toInt.natAbs : Int) = -n.toInt := by omega
  rw [size, Int32.ofInt_neg, Int32.ofInt_toInt, Int32.neg_neg]

theorem unsigned (n : Int32) (positive : ¬ n.toInt < 0) : Int32.ofInt n.toInt.natAbs = n := by
  have size : (n.toInt.natAbs : Int) = n.toInt := by omega
  rw [size, Int32.ofInt_toInt]

theorem pairNumbers_number (n : Int32) {before rest : Text} (gaps : ∀ c ∈ before, isGap c = true)
    (ends : ∀ c ∈ rest.head?, isNumeral c = false) (fuel : Nat) :
    pairNumbers (fuel + 1) (before ++ (numberText n ++ rest)) =
      if n.toInt = -2 ^ 31 then .threw .outOfRange
      else pairNumbers fuel rest >>= fun values => .gave (n :: values) := by
  obtain ⟨nonempty, numerals⟩ := numberText_numeral n
  have no_digit : ∀ c ∈ rest.head?, c.isDigit = false := by
    intro c first
    have other := ends c first
    simp only [isNumeral, decide_eq_false_iff_not, not_or] at other
    exact Bool.eq_false_iff.mpr other.1
  obtain ⟨digits, behind⟩ := takeWhile_digits n.toInt.natAbs no_digit
  have some_digit : Nat.toDigits 10 n.toInt.natAbs ≠ [] := Nat.toDigits_ne_nil
  obtain ⟨c, more, shown⟩ := List.exists_cons_of_ne_nil nonempty
  have start : (before ++ (numberText n ++ rest)).dropWhile isGap = c :: (more ++ rest) := by
    have other : isGap c = false := numeral_gap (numerals c (by simp [shown]))
    rw [List.dropWhile_append_of_pos gaps, shown, List.cons_append,
      List.dropWhile_cons_of_neg (by simp [other])]
  rw [pairNumbers, start]
  by_cases negative : n.toInt < 0
  case pos =>
    rw [numberText, decimal, if_pos negative] at shown
    obtain ⟨rfl, rfl⟩ := List.cons.inj shown
    simp only [if_true, digits, behind, if_neg some_digit, number_digits]
    split
    · rfl
    · rw [Outcome.gave_bind, negated n negative]
  case neg =>
    rw [numberText, decimal, if_neg negative] at shown
    have minus : c ≠ '-' := by
      rintro rfl
      have digit := toDigits_digits n.toInt.natAbs '-' (by simp [shown])
      exact absurd digit (by decide)
    rw [shown] at digits behind some_digit
    have read := number_digits n
    rw [shown] at read
    rw [List.cons_append] at digits behind
    simp only [if_neg minus, digits, behind, if_neg some_digit, read]
    split
    · rfl
    · rw [Outcome.gave_bind, unsigned n negative]

theorem pairNumbers_gaps {gap : Text} (gaps : ∀ c ∈ gap, isGap c = true) (fuel : Nat) :
    pairNumbers fuel gap = .gave [] := by
  cases fuel with
  | zero => rfl
  | succ fuel =>
      have nothing : gap.dropWhile isGap = [] := by
        have all : (gap ++ []).dropWhile isGap = ([] : Text).dropWhile isGap :=
          List.dropWhile_append_of_pos gaps
        simpa using all
      rw [pairNumbers, nothing]

theorem pair_spelt {v : Vec2Int} {within : Text} (spells : Spells (pairTokens v) within) :
    pair within = readingOf v.fits (some v) := by
  obtain ⟨before, between, after, rfl, gaps, between_gaps, some_gap, after_gaps⟩ :=
    pair_split spells
  have x_some := List.length_pos_iff.mpr (numberText_numeral v.x).1
  have y_some := List.length_pos_iff.mpr (numberText_numeral v.y).1
  generalize whole : before ++ (numberText v.x ++ (between ++ (numberText v.y ++ after))) = within
  obtain ⟨fuel, enough⟩ : ∃ fuel, within.length = fuel + 1 + 1 := by
    refine ⟨within.length - 2, ?_⟩
    have length := congrArg List.length whole
    simp only [List.length_append] at length
    omega
  have ends : ∀ c ∈ after.head?, isNumeral c = false :=
    fun c first => gap_not_numeral c (after_gaps c (List.mem_of_mem_head? first))
  rw [pair, enough, ← whole, pairNumbers_number v.x gaps (gap_ends between_gaps some_gap _),
    pairNumbers_number v.y between_gaps ends, pairNumbers_gaps after_gaps]
  by_cases x_fits : v.x.toInt = -2 ^ 31
  · have unfit : ¬ v.fits := fun fits => fits.1 x_fits
    rw [if_pos x_fits, readingOf, if_neg unfit]
    rfl
  · by_cases y_fits : v.y.toInt = -2 ^ 31
    · have unfit : ¬ v.fits := fun fits => fits.2 y_fits
      rw [if_neg x_fits, if_pos y_fits, readingOf, if_neg unfit]
      rfl
    · have fit : v.fits := ⟨x_fits, y_fits⟩
      rw [if_neg x_fits, if_neg y_fits, readingOf, if_pos fit]
      rfl

theorem quoted_at {json front text rest : Text} {pos : Nat}
    (split : json.drop pos = front ++ (quote text ++ rest)) (absent : '"' ∉ front)
    (plain : ∀ c ∈ text, isSpecial c = false) :
    ∃ quoteStart quoteEnd, find ['"'] json pos = some quoteStart ∧
      find ['"'] json (quoteStart + 1) = some quoteEnd ∧
      substr json (quoteStart + 1) (quoteEnd - quoteStart - 1) = text ∧
      json.drop quoteEnd = '"' :: rest ∧ quoteStart < quoteEnd ∧ quoteEnd < json.length := by
  have opening : json.drop pos = front ++ '"' :: (text ++ '"' :: rest) := by
    simpa [quote] using split
  have at_quote : json.drop (pos + front.length) = ['"'] ++ (text ++ '"' :: rest) :=
    drop_behind opening
  have inside : json.drop (pos + front.length + 1) = text ++ '"' :: rest := drop_behind at_quote
  have behind := drop_behind inside
  have within : pos + front.length + 1 + text.length < json.length := by
    by_contra beyond
    rw [List.drop_eq_nil_of_le (by omega)] at behind
    cases behind
  refine ⟨pos + front.length, pos + front.length + 1 + text.length, find_single opening absent,
    find_single inside (no_quote plain), ?_, behind, by omega, within⟩
  have length : pos + front.length + 1 + text.length - (pos + front.length) - 1 = text.length := by
    omega
  rw [substr, inside, length, List.take_left]

theorem getStringValue_spelt {json : Text} {k : Key} {s : Name} {front back : List Token}
    (spells : Spells (front ++ (entry k [.name s] ++ back)) json) (absent : .key k ∉ front) :
    getStringValue json k.text 0 = s.text := by
  have from_start : Spells (front ++ .key k :: .mark .colon :: .name s :: back) (json.drop 0) :=
    spells
  obtain ⟨keyPos, key, begins⟩ := find_key from_start absent
  obtain ⟨colonPos, colon, value⟩ := key_colon begins
  obtain ⟨text, at_colon, -, value⟩ := value.behind_mark
  obtain ⟨gap, rest, rfl, blank, -⟩ := value.head
  have split : json.drop colonPos = (':' :: gap) ++ (quote s.text ++ rest) := at_colon
  have front_plain : '"' ∉ ':' :: gap := by
    rw [List.mem_cons, not_or]
    exact ⟨by decide, blank.no_quote⟩
  obtain ⟨quoteStart, quoteEnd, opening, closes, between, -⟩ :=
    quoted_at split front_plain s.plain
  simp only [getStringValue, key, colon, opening, closes, between]

theorem array_at {json : Text} {pos : Nat} {front inner back : List Token}
    (spells : Spells (front ++ (brackets inner ++ back)) (json.drop pos))
    (absent : .mark .openBracket ∉ front) :
    ∃ arrayStart within rest, find ['['] json pos = some arrayStart ∧
      json.drop (arrayStart + 1) = within ++ ']' :: rest ∧ Spells inner within := by
  have shape : Spells (front ++ .mark .openBracket :: (inner ++ .mark .closeBracket :: back))
      (json.drop pos) := by simpa [brackets] using spells
  obtain ⟨arrayStart, bracket, -, array⟩ := find_mark shape absent (by decide)
  obtain ⟨text, -, behind, array⟩ := array.behind_mark
  obtain ⟨within, later, rfl, spelt, closer⟩ := array.split
  obtain ⟨gap, rest, rfl, blank, -⟩ := closer.head
  refine ⟨arrayStart, within ++ gap, rest, bracket, ?_, spelt.append_blank blank⟩
  rw [behind]
  simp [Token.text, Mark.char]

theorem key_array {json : Text} {pos : Nat} {k : Key} {front inner back : List Token}
    (spells : Spells (front ++ (entry k (brackets inner) ++ back)) (json.drop pos))
    (absent : .key k ∉ front) :
    ∃ keyPos colonPos arrayStart within rest, findKey json k.text pos = some keyPos ∧
      find [':'] json keyPos = some colonPos ∧ find ['['] json colonPos = some arrayStart ∧
      json.drop (arrayStart + 1) = within ++ ']' :: rest ∧ Spells inner within := by
  obtain ⟨keyPos, key, begins⟩ := find_key spells absent
  obtain ⟨colonPos, colon, value⟩ := key_colon begins
  have from_colon : Spells ([.mark .colon] ++ (brackets inner ++ back)) (json.drop colonPos) :=
    value.spells
  obtain ⟨arrayStart, within, rest, bracket, split, spelt⟩ := array_at from_colon (by simp)
  exact ⟨keyPos, colonPos, arrayStart, within, rest, key, colon, bracket, split, spelt⟩

theorem segment_within {json within rest : Text} {pos : Nat}
    (split : json.drop pos = within ++ rest) :
    segment json pos (pos + within.length) = within := by
  have whole : segment json pos json.length = within ++ rest := (segment_all json pos).trans split
  exact Scanning.segment_front whole

theorem pair_no_bracket {v : Vec2Int} {within : Text} (spells : Spells (pairTokens v) within) :
    ']' ∉ within := by
  have absent : Token.mark .closeBracket ∉ pairTokens v := by simp [pairTokens]
  exact (spells.char_mem (m := .closeBracket) (by decide)).not.mpr absent

theorem find_closer {json within rest : Text} {pos arrayStart : Nat}
    (bracket : find ['['] json pos = some arrayStart)
    (split : json.drop (arrayStart + 1) = within ++ ']' :: rest) (absent : ']' ∉ within) :
    find [']'] json arrayStart = some (arrayStart + 1 + within.length) := by
  obtain ⟨-, ⟨text, opens⟩, -⟩ := Scanning.find_spec bracket
  have behind : json.drop (arrayStart + 1) = text := drop_behind opens.symm
  have whole : json.drop arrayStart = ('[' :: within) ++ ']' :: rest := by
    rw [← opens, ← behind, split]
    rfl
  have apart : ']' ∉ '[' :: within := by simp [absent]
  have found := find_single whole apart
  rw [found, List.length_cons, Nat.add_comm within.length 1, Nat.add_assoc]

theorem intArray_spelt {json : Text} {k : Key} {v : Vec2Int} {front back : List Token}
    (spells : Spells (front ++ (entry k (brackets (pairTokens v)) ++ back)) json)
    (absent : .key k ∉ front) : intArray json k.text 0 = .gave [v.x, v.y] := by
  have from_start : Spells (front ++ (entry k (brackets (pairTokens v)) ++ back)) (json.drop 0) :=
    spells
  obtain ⟨keyPos, colonPos, arrayStart, within, rest, key, colon, bracket, split, spelt⟩ :=
    key_array from_start absent
  have closes := find_closer bracket split (pair_no_bracket spelt)
  have text : arrayText json k.text 0 = some within := by
    simp only [arrayText, key, colon, bracket, closes, Option.bind_some, Option.map_some,
      segment_within split]
  rw [intArray, text, Option.getD_some, runs_pair spelt]
  simp only [Outcome.collect, number, parseInt_number]
  rfl

def Closed (tokens : List Token) : Prop :=
  Balanced (.mark .openBrace) (.mark .closeBrace) tokens ∧
    Balanced (.mark .openBracket) (.mark .closeBracket) tokens

theorem Spells.unbracketed {opening closer : Mark} {tokens : List Token} {text : Text}
    (spells : Spells tokens text) (opens : opening ≠ .comma) (closes : closer ≠ .comma)
    (no_opening : .mark opening ∉ tokens) (no_closer : .mark closer ∉ tokens) :
    Balanced opening.char closer.char text := by
  apply Balanced.of_plain
  intro c listed
  constructor
  · rintro rfl
    exact no_opening ((spells.char_mem opens).mp listed)
  · rintro rfl
    exact no_closer ((spells.char_mem closes).mp listed)

theorem Spells.balanced {opening closer : Mark} {tokens : List Token} {text : Text}
    (spells : Spells tokens text)
    (balanced : Balanced (.mark opening) (.mark closer) tokens) (opens : opening ≠ .comma)
    (closes : closer ≠ .comma) : Balanced opening.char closer.char text := by
  induction balanced generalizing text with
  | nil => exact spells.unbracketed opens closes (by simp) (by simp)
  | @plain token tokens not_opening not_closer _ ih =>
      have front : Spells ([token] ++ tokens) text := spells
      obtain ⟨first, second, rfl, spelt, later⟩ := front.split
      refine (spelt.unbracketed opens closes ?_ ?_).append (ih later)
      · exact fun listed => not_opening (List.mem_singleton.mp listed).symm
      · exact fun listed => not_closer (List.mem_singleton.mp listed).symm
  | @wrap inner tokens _ _ inside_ih later_ih =>
      obtain ⟨gap, within, rest, rfl, blank, spelt, later⟩ := spells.inside
      have white : Spells [] gap := .nil blank
      refine (white.unbracketed opens closes (by simp) (by simp)).append ?_
      exact .wrap (inside_ih spelt) (later_ih later)

def Token.flat : Token → Bool
  | mark .colon | mark .comma => true
  | mark _ => false
  | _ => true

/-- What holds of every part of a file, when it is kept by the ways in which they are built. -/
structure Layout (P : List Token → Prop) : Prop where
  nil : P []
  append {front back : List Token} : P front → P back → P (front ++ back)
  cons {token : Token} {tokens : List Token} : token.flat = true → P tokens → P (token :: tokens)
  braced {inner : List Token} {k : Key} : P inner → .key k ∈ inner → P (braces inner)
  bracketed {inner : List Token} : P inner → P (brackets inner)

namespace Layout

variable {P : List Token → Prop} (layout : Layout P)

include layout

theorem separated {items : List (List Token)} (each : ∀ item ∈ items, P item) :
    P (commas items) := by
  induction items with
  | nil => exact layout.nil
  | cons item items ih =>
      obtain ⟨first, later⟩ := List.forall_mem_cons.mp each
      cases items with
      | nil => exact first
      | cons next items => exact layout.append first (layout.cons rfl (ih later))

theorem object {entries : List (Key × List Token)} (each : ∀ e ∈ entries, P e.2) :
    P (fields entries) := by
  apply layout.separated
  simp only [List.forall_mem_map]
  exact fun e listed => layout.cons rfl (layout.cons rfl (each e listed))

theorem pair (v : Vec2Int) : P (pairTokens v) :=
  layout.cons rfl (layout.cons rfl (layout.cons rfl layout.nil))

theorem offsets (pairs : List Vec2Int) :
    P (commas (pairs.map fun v => brackets (pairTokens v))) := by
  apply layout.separated
  simp only [List.forall_mem_map]
  exact fun v _ => layout.bracketed (layout.pair v)

theorem monster (m : MonsterInfo) : P (monsterTokens m) := by
  apply layout.object
  simp only [List.forall_mem_cons]
  have number (n : Int32) : P [.number n] := layout.cons rfl layout.nil
  exact ⟨number _, number _, number _, number _, number _, by simp⟩

theorem objects {items : List (List Token)} (each : ∀ item ∈ items, P item) (k : Key)
    (key : ∀ item ∈ items, .key k ∈ item) :
    P (brackets (commas (items.map braces))) := by
  apply layout.bracketed
  apply layout.separated
  simp only [List.forall_mem_map]
  exact fun item listed => layout.braced (each item listed) (key item listed)

theorem group (g : SpawnGroup) : P (groupTokens g) := by
  apply layout.object
  simp only [List.forall_mem_cons]
  refine ⟨layout.cons rfl layout.nil, layout.bracketed (layout.pair _),
    layout.bracketed (layout.offsets _), layout.objects ?_ .templateId ?_, by simp⟩
  · simp only [List.forall_mem_map]
    exact fun m _ => layout.monster m
  · simp [monsterTokens, fields, commas, entry]

theorem room (r : SpawnRoom) : P (spawnsTokens r) := by
  refine layout.cons rfl (layout.cons rfl (layout.objects ?_ .groupId ?_))
  · simp only [List.forall_mem_map]
    exact fun g _ => layout.group g
  · simp [groupTokens, fields, commas, entry]

end Layout

theorem closed_layout : Layout Closed where
  nil := ⟨.nil, .nil⟩
  append first second := ⟨first.1.append second.1, first.2.append second.2⟩
  cons {token tokens} flat later := by
    have apart (m : Mark) (bracket : (Token.mark m).flat = false) : token ≠ .mark m := by
      rintro rfl
      rw [bracket] at flat
      cases flat
    exact ⟨.plain (apart _ rfl) (apart _ rfl) later.1, .plain (apart _ rfl) (apart _ rfl) later.2⟩
  braced inside _ := by
    refine ⟨inside.1.bracketed, .plain (by simp) (by simp) (inside.2.append ?_)⟩
    exact .plain (by simp) (by simp) .nil
  bracketed inside := by
    refine ⟨.plain (by simp) (by simp) (inside.1.append ?_), inside.2.bracketed⟩
    exact .plain (by simp) (by simp) .nil

theorem commas_split {item : List Token} {items : List (List Token)} {text : Text}
    (spells : Spells (commas (item :: items)) text) :
    ∃ first lead body, text = first ++ (lead ++ body) ∧ Spells item first ∧
      (∀ c ∈ lead, isGap c = true) ∧ Spells (commas items) body := by
  cases items with
  | nil => exact ⟨text, [], [], by simp, spells, by simp, .nil .nil⟩
  | cons next items =>
      obtain ⟨first, second, rfl, spelt, later⟩ := spells.split
      obtain ⟨gap, body, rfl, blank, behind⟩ := later.head
      refine ⟨first, gap ++ [','], body, by simp [Token.text, Mark.char], spelt, ?_, behind⟩
      simp only [List.forall_mem_append, List.forall_mem_singleton]
      exact ⟨blank.gaps, by decide⟩

theorem Spells.braced {inner : List Token} {text : Text} (spells : Spells inner text) :
    Spells (braces inner) ('{' :: (text ++ ['}'])) := by
  have none_behind : Spells [] [] := .nil .nil
  have closer : Spells [.mark .closeBrace] ([] ++ (['}'] ++ [])) := .cons .nil none_behind
  have all : Spells (braces inner) ([] ++ (['{'] ++ (text ++ ['}']))) :=
    .cons .nil (spells.append closer)
  exact all

theorem objects_spelt {items : List (List Token)} (closed : ∀ item ∈ items, Closed item)
    {lead body : Text} (lead_gaps : ∀ c ∈ lead, isGap c = true)
    (spells : Spells (commas (items.map braces)) body) :
    ∃ objects last, lead ++ body = arrayBody objects last ∧
      List.Forall₂ (fun item text => Spells (braces item) text) items
        (objects.map fun (_, object) => object.text) := by
  induction items generalizing lead body with
  | nil =>
      refine ⟨[], ⟨lead ++ body, ?_⟩, rfl, .nil⟩
      exact List.forall_mem_append.mpr ⟨lead_gaps, spells.white.gaps⟩
  | cons item items ih =>
      obtain ⟨this_closed, others_closed⟩ := List.forall_mem_cons.mp closed
      obtain ⟨first, comma, rest, rfl, spelt, comma_gaps, later⟩ := commas_split spells
      have alone : Spells (.mark .openBrace :: (item ++ .mark .closeBrace :: [])) first := spelt
      obtain ⟨gap, within, trail, rfl, blank, inside, trail_spells⟩ := alone.inside
      have front_gaps : ∀ c ∈ lead ++ gap, isGap c = true :=
        List.forall_mem_append.mpr ⟨lead_gaps, blank.gaps⟩
      have between : ∀ c ∈ trail ++ comma, isGap c = true :=
        List.forall_mem_append.mpr ⟨trail_spells.white.gaps, comma_gaps⟩
      obtain ⟨objects, last, body, read⟩ := ih others_closed between later
      obtain ⟨object, rfl⟩ : ∃ object : JsonObject, object.inner = within :=
        ⟨⟨within, inside.balanced this_closed.1 (by decide) (by decide),
          inside.balanced this_closed.2 (by decide) (by decide)⟩, rfl⟩
      refine ⟨(⟨lead ++ gap, front_gaps⟩, object) :: objects, last, ?_, .cons inside.braced read⟩
      have whole : arrayBody objects last = trail ++ comma ++ rest := body.symm
      simp only [arrayBody, List.flatMap_cons, JsonObject.text, List.append_assoc] at whole ⊢
      rw [whole]
      simp [Mark.char]

theorem objectsInArray_spelt {json : Text} {pos : Nat} {k : Key} {front back : List Token}
    {items : List (List Token)}
    (spells : Spells (front ++ (entry k (brackets (commas (items.map braces))) ++ back))
      (json.drop pos))
    (absent : .key k ∉ front) (closed : ∀ item ∈ items, Closed item) :
    List.Forall₂ (fun item text => Spells (braces item) text) items
      (objectsInArray json k.text pos) := by
  obtain ⟨keyPos, colonPos, arrayStart, within, rest, key, colon, bracket, split, spelt⟩ :=
    key_array spells absent
  have no_lead : ∀ c ∈ ([] : Text), isGap c = true := by simp
  obtain ⟨objects, last, body, read⟩ := objects_spelt closed no_lead spelt
  have found : arrayStartOf json k.text pos = some arrayStart := by
    simp only [arrayStartOf, key, colon, bracket, Option.bind_some]
  rw [List.nil_append] at body
  rw [body] at split
  rw [objectsInArray_arrayBody json k.text pos arrayStart objects last rest found split]
  exact read

def leading (entries : List (Key × List Token)) : List Token :=
  entries.flatMap fun (key, value) => entry key value ++ [.mark .comma]

theorem object_split (before after : List (Key × List Token)) (k : Key) (value : List Token) :
    ∃ m back, braces (fields (before ++ (k, value) :: after)) =
      (.mark .openBrace :: leading before) ++ (entry k value ++ .mark m :: back) := by
  suffices split : ∃ m back, fields (before ++ (k, value) :: after) ++ [.mark .closeBrace] =
      leading before ++ (entry k value ++ .mark m :: back) by
    obtain ⟨m, back, split⟩ := split
    exact ⟨m, back, by rw [braces, split]; rfl⟩
  induction before with
  | nil =>
      cases after with
      | nil => exact ⟨.closeBrace, [], rfl⟩
      | cons next after =>
          exact ⟨.comma, fields (next :: after) ++ [.mark .closeBrace],
            List.append_assoc (entry k value) _ _⟩
  | cons first before ih =>
      obtain ⟨m, back, split⟩ := ih
      refine ⟨m, back, ?_⟩
      have shape : fields (first :: before ++ (k, value) :: after) =
          entry first.1 first.2 ++ .mark .comma :: fields (before ++ (k, value) :: after) := by
        cases before <;> rfl
      rw [shape, List.append_assoc, List.cons_append, split]
      simp [leading]

theorem Spells.at_entry {before after : List (Key × List Token)} {k : Key} {value : List Token}
    {text : Text} (spells : Spells (braces (fields (before ++ (k, value) :: after))) text) :
    ∃ m back, Spells ((.mark .openBrace :: leading before) ++ (entry k value ++ .mark m :: back))
      text := by
  obtain ⟨m, back, split⟩ := object_split before after k value
  exact ⟨m, back, split ▸ spells⟩

theorem monster_spelt {m : MonsterInfo} {text : Text}
    (spells : Spells (braces (monsterTokens m)) text) : monster text = .gave m := by
  have read (before after : List (Key × List Token)) (k : Key) (n : Int32)
      (whole : monsterTokens m = fields (before ++ (k, [.number n]) :: after))
      (absent : .key k ∉ .mark .openBrace :: leading before) :
      intValue text k.text 0 = .gave n := by
    rw [whole] at spells
    obtain ⟨_, _, place⟩ := spells.at_entry
    exact intValue_spelt place absent
  have templateId : intValue text "templateId".toList 0 = .gave m.templateId :=
    read [] _ .templateId _ rfl (by simp [leading])
  have count : intValue text "count".toList 0 = .gave m.count :=
    read [_] _ .count _ rfl (by simp [leading, entry])
  have level : intValue text "level".toList 0 = .gave m.level :=
    read [_, _] _ .level _ rfl (by simp [leading, entry])
  have aggroRange : intValue text "aggroRange".toList 0 = .gave m.aggroRange :=
    read [_, _, _] _ .aggroRange _ rfl (by simp [leading, entry])
  have leashRange : intValue text "leashRange".toList 0 = .gave m.leashRange :=
    read [_, _, _, _] _ .leashRange _ rfl (by simp [leading, entry])
  rw [monster, templateId, count, level, aggroRange, leashRange]
  rfl

theorem find_behind {json front rest : Text} {c : Char} {pos n : Nat}
    (split : json.drop pos = front ++ rest) (absent : c ∉ front)
    (found : find [c] json pos = some n) : pos + front.length ≤ n := by
  rw [find_drop (by simp), split, Scanning.indexOf_apart (Scanning.apart_single absent rest),
    Option.map_map] at found
  obtain ⟨more, -, rfl⟩ := Option.map_eq_some_iff.mp found
  simp only [Function.comp_apply]
  omega

theorem Spells.length_le {tokens : List Token} {text : Text} (spells : Spells tokens text) :
    tokens.length ≤ text.length := by
  induction spells with
  | nil => simp
  | @cons gap text token tokens blank rest ih =>
      obtain ⟨c, more, shown, -⟩ := token.begins
      simp only [List.length_append, List.length_cons, shown]
      omega

theorem pairTextsFrom_spelt {groupJson : Text} {pairs : List Vec2Int} {fuel pos arrayEnd : Nat}
    {lead body rest : Text} (enough : body.length ≤ fuel)
    (split : groupJson.drop pos = lead ++ (body ++ ']' :: rest))
    (ends : arrayEnd = pos + (lead.length + body.length) + 1)
    (lead_gaps : ∀ c ∈ lead, isGap c = true)
    (spells : Spells (commas (pairs.map fun v => brackets (pairTokens v))) body) :
    List.Forall₂ (fun v text => Spells (pairTokens v) text) pairs
      (pairTextsFrom groupJson arrayEnd fuel pos) := by
  have lead_bracket : '[' ∉ lead := fun listed => absurd (lead_gaps _ listed) (by decide)
  induction pairs generalizing fuel pos lead body with
  | nil =>
      cases fuel with
      | zero => exact .nil
      | succ fuel =>
          rw [pairTextsFrom]
          cases found : find ['['] groupJson pos with
          | none => exact .nil
          | some pairStart =>
              have body_bracket : '[' ∉ body :=
                (spells.char_mem (m := .openBracket) (by decide)).not.mpr (by simp [commas])
              have front : groupJson.drop pos = (lead ++ body) ++ ']' :: rest := by
                rw [split, List.append_assoc]
              have behind := find_behind front (by simp [lead_bracket, body_bracket]) found
              rw [List.length_append] at behind
              dsimp only
              rw [if_pos (by omega)]
              exact .nil
  | cons v pairs ih =>
      obtain ⟨first, comma, later_body, rfl, spelt, comma_gaps, later⟩ := commas_split spells
      have alone : Spells (.mark .openBracket :: (pairTokens v ++ .mark .closeBracket :: []))
        first := spelt
      obtain ⟨gap, within, trail, rfl, blank, inside, trail_spells⟩ := alone.inside
      obtain ⟨fuel, rfl⟩ : ∃ less, fuel = less + 1 := ⟨fuel - 1, by simp at enough; omega⟩
      have between : ∀ c ∈ trail ++ comma, isGap c = true :=
        List.forall_mem_append.mpr ⟨trail_spells.white.gaps, comma_gaps⟩
      have front : groupJson.drop pos = (lead ++ gap) ++ '[' :: (within ++ ']' ::
          (trail ++ comma ++ (later_body ++ ']' :: rest))) := by
        rw [split]
        simp [Mark.char]
      have no_opening : '[' ∉ lead ++ gap := by
        intro listed
        rcases List.mem_append.mp listed with before | white
        · exact lead_bracket before
        · exact absurd (blank.gaps _ white) (by decide)
      have opens := find_single front no_opening
      have at_bracket : groupJson.drop (pos + (lead ++ gap).length) = ['['] ++ (within ++ ']' ::
          (trail ++ comma ++ (later_body ++ ']' :: rest))) := drop_behind front
      have behind := drop_behind at_bracket
      have closes := find_closer opens behind (pair_no_bracket inside)
      have at_closer := drop_behind behind
      have past : groupJson.drop (pos + (lead ++ gap).length + ['['].length + within.length + 1) =
          trail ++ comma ++ (later_body ++ ']' :: rest) := by
        rw [← List.drop_drop, at_closer]
        rfl
      simp only [List.length_append, List.length_cons, List.length_nil] at *
      have few : later_body.length ≤ fuel := by omega
      have read := ih few past (by rw [List.length_append]; omega) between later
        fun listed => absurd (between _ listed) (by decide)
      rw [pairTextsFrom, opens]
      dsimp only
      rw [if_neg (by omega), closes]
      dsimp only
      rw [if_neg (by omega), segment_within behind]
      exact .cons inside read

theorem offsets_spelt {json : Text} {pairs : List Vec2Int} {front back : List Token}
    (spells : Spells (front ++ (entry .offsets (offsetsTokens pairs) ++ back)) json)
    (absent : .key .offsets ∉ front) :
    offsets json = readingOf (∀ v ∈ pairs, v.fits) pairs := by
  have from_start : Spells (front ++ .key .offsets :: .mark .colon ::
      (offsetsTokens pairs ++ back)) (json.drop 0) := spells
  obtain ⟨keyPos, key, begins⟩ := find_key from_start absent
  have from_key : Spells ([.key .offsets, .mark .colon] ++ (offsetsTokens pairs ++ back))
      (json.drop keyPos) := begins.spells
  obtain ⟨arrayStart, within, rest, bracket, split, spelt⟩ := array_at from_key (by simp)
  have closed := closed_layout.offsets pairs
  have balanced : Balanced '[' ']' within := spelt.balanced closed.2 (by decide) (by decide)
  have ends := closing_here brackets_apart balanced rest
  have few : within.length ≤ json.length := by
    have inside := congrArg List.length split
    simp only [List.length_drop, List.length_append, List.length_cons] at inside
    omega
  have no_lead : ∀ c ∈ ([] : Text), isGap c = true := by simp
  have from_bracket : json.drop (arrayStart + 1) = [] ++ (within ++ ']' :: rest) := split
  have read := pairTextsFrom_spelt few from_bracket rfl no_lead spelt
  have texts : pairTexts json = pairTextsFrom json
      (arrayStart + 1 + (([] : Text).length + within.length) + 1) json.length (arrayStart + 1) := by
    have found : (findKey json "offsets".toList 0).bind (find ['['] json) = some arrayStart := by
      change (findKey json (Key.text .offsets) 0).bind _ = _
      rw [key]
      exact bracket
    rw [pairTexts, found]
    dsimp only
    rw [split, ends, List.length_nil, Nat.zero_add]
    rfl
  have pairs_read : List.Forall₂ (fun v text => pair text = readingOf v.fits (some v)) pairs
      (pairTexts json) := by
    rw [texts]
    exact read.imp fun v text => pair_spelt
  rw [offsets, collect_readings pairs_read]
  apply readingOf_bind
  rw [List.reduceOption, List.filterMap_map, Function.id_comp, List.filterMap_some]

def SpawnGroup.data (g : SpawnGroup) : MonsterSpawnData where
  groupId := g.groupId.text
  anchor := g.anchor
  offsets := g.offsets
  monsters := g.monsters

theorem mem_commas {token : Token} {items : List (List Token)} (listed : token ∈ commas items) :
    token = .mark .comma ∨ ∃ item ∈ items, token ∈ item := by
  induction items with
  | nil => cases listed
  | cons item items ih =>
      cases items with
      | nil => exact .inr ⟨item, by simp, listed⟩
      | cons next items =>
          rcases List.mem_append.mp listed with here | later
          · exact .inr ⟨item, by simp, here⟩
          · rcases List.mem_cons.mp later with comma | further
            · exact .inl comma
            · rcases ih further with comma | ⟨other, among, inside⟩
              · exact .inl comma
              · exact .inr ⟨other, List.mem_cons_of_mem _ among, inside⟩

theorem mem_offsetsTokens {token : Token} {pairs : List Vec2Int}
    (listed : token ∈ offsetsTokens pairs) : (∃ m, token = .mark m) ∨ ∃ n, token = .number n := by
  simp only [offsetsTokens, brackets, List.mem_cons, List.mem_append, List.not_mem_nil,
    or_false] at listed
  rcases listed with rfl | inside | rfl
  · exact .inl ⟨_, rfl⟩
  · rcases mem_commas inside with rfl | ⟨item, among, inside⟩
    · exact .inl ⟨_, rfl⟩
    · obtain ⟨v, -, rfl⟩ := List.mem_map.mp among
      simp only [pairTokens, List.mem_cons, List.mem_append, List.not_mem_nil, or_false] at inside
      rcases inside with rfl | (rfl | rfl | rfl) | rfl <;> simp
  · exact .inl ⟨_, rfl⟩

theorem group_spelt {g : SpawnGroup} {text : Text}
    (spells : Spells (braces (groupTokens g)) text) :
    group text = readingOf (∀ v ∈ g.offsets, v.fits) g.data := by
  have place (before after : List (Key × List Token)) (k : Key) (value : List Token)
      (whole : groupTokens g = fields (before ++ (k, value) :: after)) : ∃ m back,
      Spells ((.mark .openBrace :: leading before) ++ (entry k value ++ .mark m :: back)) text := by
    rw [whole] at spells
    exact spells.at_entry
  obtain ⟨_, _, groupId⟩ := place [] _ .groupId _ rfl
  obtain ⟨_, _, anchor⟩ := place [_] _ .anchor _ rfl
  obtain ⟨_, _, offset_list⟩ := place [_, _] _ .offsets _ rfl
  obtain ⟨_, _, monsters⟩ := place [_, _, _] _ .monsters _ rfl
  have groupId_read : getStringValue text "groupId".toList 0 = g.groupId.text :=
    getStringValue_spelt groupId (by simp [leading])
  have anchor_read : intArray text "anchor".toList 0 = .gave [g.anchor.x, g.anchor.y] :=
    intArray_spelt anchor (by simp [leading, entry])
  have offsets_read : offsets text = readingOf (∀ v ∈ g.offsets, v.fits) g.offsets :=
    offsets_spelt offset_list (by simp [leading, entry, brackets, pairTokens])
  have no_monsters : .key .monsters ∉ offsetsTokens g.offsets := by
    intro listed
    rcases mem_offsetsTokens listed with ⟨m, same⟩ | ⟨n, same⟩ <;> cases same
  have monsters_read : List.Forall₂ (fun item text => Spells (braces item) text)
      (g.monsters.map monsterTokens) (objectsInArray text "monsters".toList 0) := by
    have from_start : Spells (_ ++ (entry .monsters (brackets (commas
        ((g.monsters.map monsterTokens).map braces))) ++ _)) (text.drop 0) := monsters
    refine objectsInArray_spelt from_start ?_ ?_
    · simp [leading, entry, brackets, pairTokens, no_monsters]
    · simp only [List.forall_mem_map]
      exact fun m _ => closed_layout.monster m
  have each : List.Forall₂ (fun m text => monster text = readingOf True m) g.monsters
      (objectsInArray text "monsters".toList 0) :=
    (List.forall₂_map_left_iff.mp monsters_read).imp fun m text => monster_spelt
  have collected := collect_readings each
  rw [readingOf, if_pos fun _ _ => trivial, List.map_id'] at collected
  rw [group, anchor_read, offsets_read, collected, groupId_read]
  exact readingOf_bind rfl

def SpawnGroup.fits (g : SpawnGroup) : Prop := ∀ v ∈ g.offsets, v.fits

instance (g : SpawnGroup) : Decidable g.fits :=
  inferInstanceAs (Decidable (∀ v ∈ g.offsets, v.fits))

def SpawnRoom.fits (r : SpawnRoom) : Prop := ∀ g ∈ r.spawns, g.fits

instance (r : SpawnRoom) : Decidable r.fits :=
  inferInstanceAs (Decidable (∀ g ∈ r.spawns, g.fits))

theorem room_spelt {r : SpawnRoom} {json : Text} {roomObjStart : Nat} {later : List Token}
    (spells : Spells (braces (spawnsTokens r) ++ later) (json.drop roomObjStart)) (roomId : Text) :
    room json roomId roomObjStart =
      readingOf r.fits { roomId, spawns := r.spawns.map SpawnGroup.data } := by
  have shape : Spells ([.mark .openBrace] ++ (spawnsTokens r ++ .mark .closeBrace :: later))
      (json.drop roomObjStart) := by
    rw [braces] at spells
    simpa using spells
  have closed : ∀ item ∈ r.spawns.map groupTokens, Closed item := by
    simp only [List.forall_mem_map]
    exact fun g _ => closed_layout.group g
  have read := objectsInArray_spelt shape (by simp) closed
  have each : List.Forall₂ (fun g text => group text = readingOf g.fits g.data) r.spawns
      (objectsInArray json "spawns".toList roomObjStart) :=
    (List.forall₂_map_left_iff.mp read).imp fun g text => group_spelt
  rw [room, collect_readings each]
  exact readingOf_bind rfl

end RoomDataManager

end ZeldaServer
