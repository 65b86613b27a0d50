import Mathlib.Data.List.Basic

/-! Regular expressions that are matched by backtracking: what a pattern takes from a text, the
matches in the order in which they are tried, and the search that goes on behind each match. -/

namespace Patterns

abbrev Text := List Char

def behind (before : Option Char) (run : Text) : Option Char := run.getLast?.or before

theorem behind_nil (before : Option Char) : behind before [] = before := rfl

theorem behind_cons (before : Option Char) (c : Char) (run : Text) :
    behind before (c :: run) = behind (some c) run := by
  unfold behind
  rw [List.getLast?_cons]
  cases run.getLast? <;> rfl

theorem behind_append (before : Option Char) (front back : Text) :
    behind before (front ++ back) = behind (behind before front) back := by
  unfold behind
  rw [List.getLast?_append, Option.or_assoc]

inductive Pattern where
  | one (kind : Char → Bool)
  /-- `*`, as many as there are first. -/
  | many (kind : Char → Bool)
  | both (first second : Pattern)
  | either (first second : Pattern)
  | nothing
  | group (body : Pattern)
  | wordBoundary (isWord : Char → Bool)
  | lineStart
  | lineEnd

structure Place where
  before : Option Char
  rest : Text
  groups : List Text

def runEnds (kind : Char → Bool) (groups : List Text) (before : Option Char) : Text → List Place
  | [] => [⟨before, [], groups⟩]
  | c :: text =>
      (if kind c then runEnds kind groups (some c) text else []) ++ [⟨before, c :: text, groups⟩]

namespace Pattern

def literal : Text → Pattern
  | [] => nothing
  | c :: text => both (one (· = c)) (literal text)

/-- `+` -/
def plus (kind : Char → Bool) : Pattern := both (one kind) (many kind)

/-- `?` -/
def optional (body : Pattern) : Pattern := either body nothing

/-- The ends of the matches from a place, in the order in which they are tried. -/
def reach : Pattern → Place → List Place
  | one kind, ⟨_, c :: rest, groups⟩ => if kind c then [⟨some c, rest, groups⟩] else []
  | one _, ⟨_, [], _⟩ => []
  | many kind, place => runEnds kind place.groups place.before place.rest
  | both first second, place => (first.reach place).flatMap second.reach
  | either first second, place => first.reach place ++ second.reach place
  | nothing, place => [place]
  | group body, place =>
      (body.reach place).map fun stop =>
        { stop with
          groups := stop.groups ++ [place.rest.take (place.rest.length - stop.rest.length)] }
  | wordBoundary isWord, place =>
      if place.before.any isWord = place.rest.head?.any isWord then [] else [place]
  | lineStart, place => if place.before = none ∨ place.before = some '\n' then [place] else []
  | lineEnd, place =>
      if place.rest.head? = none ∨ place.rest.head? = some '\n' then [place] else []

/-- The pattern takes `run` from a text that goes on with `rest`, and captures the groups. -/
def Takes : Pattern → Option Char → Text → Text → List Text → Prop
  | one kind, _, run, _, groups => ∃ c, run = [c] ∧ kind c = true ∧ groups = []
  | many kind, _, run, _, groups => (∀ c ∈ run, kind c = true) ∧ groups = []
  | both first second, before, run, rest, groups =>
      ∃ front back firsts seconds, run = front ++ back ∧ groups = firsts ++ seconds ∧
        first.Takes before front (back ++ rest) firsts ∧
        second.Takes (behind before front) back rest seconds
  | either first second, before, run, rest, groups =>
      first.Takes before run rest groups ∨ second.Takes before run rest groups
  | nothing, _, run, _, groups => run = [] ∧ groups = []
  | group body, before, run, rest, groups =>
      ∃ inner, groups = inner ++ [run] ∧ body.Takes before run rest inner
  | wordBoundary isWord, before, run, rest, groups =>
      run = [] ∧ groups = [] ∧ before.any isWord ≠ rest.head?.any isWord
  | lineStart, before, run, _, groups =>
      run = [] ∧ groups = [] ∧ (before = none ∨ before = some '\n')
  | lineEnd, _, run, rest, groups =>
      run = [] ∧ groups = [] ∧ (rest.head? = none ∨ rest.head? = some '\n')

end Pattern

theorem mem_runEnds (kind : Char → Bool) (groups : List Text) (before : Option Char) (text : Text)
    (stop : Place) :
    stop ∈ runEnds kind groups before text ↔
      ∃ run, text = run ++ stop.rest ∧ stop.before = behind before run ∧ stop.groups = groups ∧
        ∀ c ∈ run, kind c = true := by
  induction text generalizing before with
  | nil =>
      simp only [runEnds, List.mem_singleton]
      constructor
      · rintro rfl
        exact ⟨[], rfl, rfl, rfl, by simp⟩
      · rintro ⟨run, split, last, kept, -⟩
        obtain ⟨rfl, ends⟩ := List.append_eq_nil_iff.mp split.symm
        obtain ⟨last', rest, groups'⟩ := stop
        rw [Place.mk.injEq]
        exact ⟨last, ends, kept⟩
  | cons c text ih =>
      simp only [runEnds, List.mem_append, List.mem_singleton]
      constructor
      · rintro (longer | rfl)
        · split at longer
          case isTrue fits =>
            obtain ⟨run, rfl, last, kept, all⟩ := (ih (some c)).mp longer
            refine ⟨c :: run, rfl, ?_, kept, List.forall_mem_cons.mpr ⟨fits, all⟩⟩
            rw [behind_cons, last]
          case isFalse => cases longer
        · exact ⟨[], rfl, rfl, rfl, by simp⟩
      · rintro ⟨run, split, last, kept, all⟩
        cases run with
        | nil =>
            right
            cases stop
            simp_all [behind]
        | cons d run =>
            cases split
            obtain ⟨fits, all⟩ := List.forall_mem_cons.mp all
            left
            rw [if_pos fits]
            exact (ih (some c)).mpr ⟨run, rfl, by rw [last, behind_cons], kept, all⟩

namespace Pattern

theorem mem_reach (p : Pattern) (place stop : Place) :
    stop ∈ p.reach place ↔
      ∃ run groups, place.rest = run ++ stop.rest ∧ stop.before = behind place.before run ∧
        stop.groups = place.groups ++ groups ∧ p.Takes place.before run stop.rest groups := by
  induction p generalizing place stop with
  | one kind =>
      obtain ⟨before, rest, groups⟩ := place
      cases rest with
      | nil => simp [reach, Takes]
      | cons c rest =>
          obtain ⟨last, remains, captured⟩ := stop
          unfold reach Takes
          split
          case isTrue fits =>
            simp only [List.mem_singleton, Place.mk.injEq]
            constructor
            · rintro ⟨rfl, rfl, rfl⟩
              exact ⟨[c], [], rfl, rfl, by simp, c, rfl, fits, rfl⟩
            · rintro ⟨run, more, split, last, kept, d, rfl, -, rfl⟩
              cases split
              exact ⟨last, rfl, by simpa using kept⟩
          case isFalse other =>
            simp only [List.not_mem_nil, false_iff]
            rintro ⟨run, more, split, last, kept, d, rfl, fits, rfl⟩
            cases split
            exact other fits
  | many kind =>
      rw [reach, mem_runEnds]
      constructor
      · rintro ⟨run, split, last, kept, all⟩
        exact ⟨run, [], split, last, by simp [kept], all, rfl⟩
      · rintro ⟨run, _, split, last, kept, all, rfl⟩
        exact ⟨run, split, last, by simpa using kept, all⟩
  | both first second first_ih second_ih =>
      simp only [reach, List.mem_flatMap]
      constructor
      · rintro ⟨middle, reached, later⟩
        obtain ⟨front, firsts, split, last, kept, taken⟩ := (first_ih _ _).mp reached
        obtain ⟨back, seconds, split', last', kept', taken'⟩ := (second_ih _ _).mp later
        refine ⟨front ++ back, firsts ++ seconds, ?_, ?_, ?_, front, back, firsts, seconds, rfl, rfl,
          ?_, ?_⟩
        · rw [split, split', List.append_assoc]
        · rw [last', last, behind_append]
        · rw [kept', kept, List.append_assoc]
        · rwa [← split']
        · rwa [← last]
      · rintro ⟨_, _, split, last, kept, front, back, firsts, seconds, rfl, rfl, taken, taken'⟩
        refine ⟨⟨behind place.before front, back ++ stop.rest, place.groups ++ firsts⟩, ?_, ?_⟩
        · exact (first_ih _ _).mpr ⟨front, firsts, by simpa using split, rfl, rfl, taken⟩
        · refine (second_ih _ _).mpr ⟨back, seconds, rfl, ?_, ?_, taken'⟩
          · rw [last, behind_append]
          · rw [kept, List.append_assoc]
  | either first second first_ih second_ih =>
      simp only [reach, List.mem_append, first_ih, second_ih, Takes]
      constructor
      · rintro (⟨run, groups, split, last, kept, taken⟩ | ⟨run, groups, split, last, kept, taken⟩)
        · exact ⟨run, groups, split, last, kept, .inl taken⟩
        · exact ⟨run, groups, split, last, kept, .inr taken⟩
      · rintro ⟨run, groups, split, last, kept, taken | taken⟩
        · exact .inl ⟨run, groups, split, last, kept, taken⟩
        · exact .inr ⟨run, groups, split, last, kept, taken⟩
  | nothing =>
      obtain ⟨last, remains, captured⟩ := stop
      simp only [reach, List.mem_singleton, Takes]
      constructor
      · rintro rfl
        exact ⟨[], [], rfl, rfl, by simp, rfl, rfl⟩
      · rintro ⟨_, _, split, last, kept, rfl, rfl⟩
        cases place
        simp_all [behind]
  | group body ih =>
      simp only [reach, List.mem_map, Takes]
      have consumed {run : Text} {rest : Text} (split : place.rest = run ++ rest) :
          place.rest.take (place.rest.length - rest.length) = run := by
        rw [split, List.length_append, Nat.add_sub_cancel, List.take_left]
      constructor
      · rintro ⟨inner, reached, rfl⟩
        obtain ⟨run, groups, split, last, kept, taken⟩ := (ih _ _).mp reached
        refine ⟨run, groups ++ [run], split, last, ?_, groups, rfl, taken⟩
        rw [consumed split, kept, List.append_assoc]
      · rintro ⟨run, _, split, last, kept, inner, rfl, taken⟩
        refine ⟨⟨stop.before, stop.rest, place.groups ++ inner⟩,
          (ih _ _).mpr ⟨run, inner, split, last, rfl, taken⟩, ?_⟩
        obtain ⟨before, remains, captured⟩ := stop
        simp_all
  | wordBoundary isWord =>
      obtain ⟨before, rest, groups⟩ := place
      obtain ⟨last, remains, captured⟩ := stop
      unfold reach Takes
      split
      case isTrue same =>
        simp only [List.not_mem_nil, false_iff]
        rintro ⟨_, _, split, -, -, rfl, rfl, differ⟩
        exact differ (by rw [same, split]; rfl)
      case isFalse differ =>
        simp only [List.mem_singleton, Place.mk.injEq]
        constructor
        · rintro ⟨rfl, rfl, rfl⟩
          exact ⟨[], [], rfl, rfl, by simp, rfl, rfl, differ⟩
        · rintro ⟨_, _, split, last, kept, rfl, rfl, -⟩
          exact ⟨last, split.symm, by simpa using kept⟩
  | lineStart =>
      obtain ⟨before, rest, groups⟩ := place
      obtain ⟨last, remains, captured⟩ := stop
      unfold reach Takes
      split
      case isTrue starts =>
        simp only [List.mem_singleton, Place.mk.injEq]
        constructor
        · rintro ⟨rfl, rfl, rfl⟩
          exact ⟨[], [], rfl, rfl, by simp, rfl, rfl, starts⟩
        · rintro ⟨_, _, split, last, kept, rfl, rfl, -⟩
          exact ⟨last, split.symm, by simpa using kept⟩
      case isFalse inside =>
        simp only [List.not_mem_nil, false_iff]
        rintro ⟨_, _, -, -, -, rfl, rfl, starts⟩
        exact inside starts
  | lineEnd =>
      obtain ⟨before, rest, groups⟩ := place
      obtain ⟨last, remains, captured⟩ := stop
      unfold reach Takes
      split
      case isTrue stops =>
        simp only [List.mem_singleton, Place.mk.injEq]
        constructor
        · rintro ⟨rfl, rfl, rfl⟩
          exact ⟨[], [], rfl, rfl, by simp, rfl, rfl, stops⟩
        · rintro ⟨_, _, split, last, kept, rfl, rfl, -⟩
          exact ⟨last, split.symm, by simpa using kept⟩
      case isFalse inside =>
        simp only [List.not_mem_nil, false_iff]
        rintro ⟨_, _, split, -, -, rfl, rfl, stops⟩
        cases split
        exact inside stops

theorem takes_literal (text : Text) (before : Option Char) (run rest : Text)
    (groups : List Text) :
    (literal text).Takes before run rest groups ↔ run = text ∧ groups = [] := by
  induction text generalizing before run groups with
  | nil => simp [literal, Takes]
  | cons c text ih =>
      simp only [literal, Takes, ih, decide_eq_true_eq]
      constructor
      · rintro ⟨_, _, _, _, rfl, rfl, ⟨_, rfl, rfl, rfl⟩, rfl, rfl⟩
        exact ⟨rfl, rfl⟩
      · rintro ⟨rfl, rfl⟩
        exact ⟨[c], text, [], [], rfl, rfl, ⟨c, rfl, rfl, rfl⟩, rfl, rfl⟩

theorem takes_plus (kind : Char → Bool) (before : Option Char) (run rest : Text)
    (groups : List Text) :
    (plus kind).Takes before run rest groups ↔
      run ≠ [] ∧ (∀ c ∈ run, kind c = true) ∧ groups = [] := by
  simp only [plus, Takes]
  constructor
  · rintro ⟨_, back, _, _, rfl, rfl, ⟨c, rfl, fits, rfl⟩, all, rfl⟩
    exact ⟨by simp, List.forall_mem_cons.mpr ⟨fits, all⟩, rfl⟩
  · rintro ⟨nonempty, all, rfl⟩
    cases run with
    | nil => exact absurd rfl nonempty
    | cons c back =>
        obtain ⟨fits, all⟩ := List.forall_mem_cons.mp all
        exact ⟨[c], back, [], [], rfl, rfl, ⟨c, rfl, fits, rfl⟩, all, rfl⟩

theorem takes_optional (body : Pattern) (before : Option Char) (run rest : Text)
    (groups : List Text) :
    body.optional.Takes before run rest groups ↔
      body.Takes before run rest groups ∨ run = [] ∧ groups = [] := Iff.rfl

def first (p : Pattern) (before : Option Char) (text : Text) : Option Place :=
  (p.reach ⟨before, text, []⟩).head?

/-- The groups of the matches; `skipped` characters belong to the match before. An empty match is
not looked for. -/
def findFrom (p : Pattern) (skipped : Nat) (before : Option Char) : Text → List (List Text)
  | [] => []
  | c :: text =>
      match skipped with
      | skipped + 1 => findFrom p skipped (some c) text
      | 0 =>
          match p.first before (c :: text) with
          | some stop =>
              stop.groups :: findFrom p (text.length - stop.rest.length) (some c) text
          | none => findFrom p 0 (some c) text

/-- `re.finditer` -/
def finditer (p : Pattern) (text : Text) : List (List Text) := p.findFrom 0 none text

theorem first_none (p : Pattern) (before : Option Char) (text : Text) :
    p.first before text = none ↔
      ∀ run rest groups, text = run ++ rest → ¬ p.Takes before run rest groups := by
  rw [first, List.head?_eq_none_iff, List.eq_nil_iff_forall_not_mem]
  constructor
  · intro nowhere run rest groups split taken
    apply nowhere ⟨behind before run, rest, groups⟩
    exact (p.mem_reach _ _).mpr ⟨run, groups, split, rfl, rfl, taken⟩
  · intro nothing stop reached
    obtain ⟨run, groups, split, -, -, taken⟩ := (p.mem_reach _ _).mp reached
    exact nothing run stop.rest groups split taken

theorem first_some {p : Pattern} {before : Option Char} {text : Text} {stop : Place}
    (found : p.first before text = some stop) :
    ∃ run, text = run ++ stop.rest ∧ stop.before = behind before run ∧
      p.Takes before run stop.rest stop.groups := by
  obtain ⟨run, groups, split, last, kept, taken⟩ :=
    (p.mem_reach _ _).mp (List.mem_of_head? found)
  rw [List.nil_append] at kept
  rw [kept]
  exact ⟨run, split, last, taken⟩

theorem findFrom_skipped (p : Pattern) (run rest : Text) (before : Option Char) :
    p.findFrom run.length before (run ++ rest) = p.findFrom 0 (behind before run) rest := by
  induction run generalizing before with
  | nil => rfl
  | cons c run ih =>
      rw [List.cons_append, List.length_cons, findFrom, ih, behind_cons]

/-- A search that is described by what it finds behind each character and behind each match. -/
structure Finds (p : Pattern) (found : Option Char → Text → List (List Text)) : Prop where
  consumes : ∀ before rest groups, ¬ p.Takes before [] rest groups
  nil : ∀ before, found before [] = []
  pass : ∀ before c text,
    (∀ run rest groups, c :: text = run ++ rest → ¬ p.Takes before run rest groups) →
      found before (c :: text) = found (some c) text
  hit : ∀ before run rest groups, p.Takes before run rest groups →
    found before (run ++ rest) = groups :: found (behind before run) rest

theorem Finds.finditer {p : Pattern} {found : Option Char → Text → List (List Text)}
    (finds : p.Finds found) (text : Text) : p.finditer text = found none text := by
  have all (size : Nat) : ∀ before (text : Text), text.length ≤ size →
      p.findFrom 0 before text = found before text := by
    induction size with
    | zero =>
        intro before text short
        cases List.length_eq_zero_iff.mp (Nat.le_zero.mp short)
        exact (finds.nil before).symm
    | succ size ih =>
        intro before text short
        cases text with
        | nil => exact (finds.nil before).symm
        | cons c text =>
            rw [List.length_cons] at short
            rw [findFrom]
            cases matched : p.first before (c :: text) with
            | none =>
                rw [finds.pass before c text ((p.first_none before _).mp matched)]
                exact ih _ text (by omega)
            | some stop =>
                obtain ⟨run, split, -, taken⟩ := first_some matched
                cases run with
                | nil => exact absurd taken (finds.consumes _ _ _)
                | cons d run =>
                    rw [List.cons_append, List.cons.injEq] at split
                    obtain ⟨rfl, rfl⟩ := split
                    rw [List.length_append] at short
                    have later := ih (behind (some c) run) stop.rest (by omega)
                    have hit := finds.hit before _ _ _ taken
                    rw [List.cons_append, behind_cons] at hit
                    rw [hit, ← later, ← findFrom_skipped]
                    simp
  exact all text.length none text (Nat.le_refl _)

end Pattern

end Patterns
