import ZeldaServer.Lib.Patterns

/-! A text as a row of words, signs and line ends. -/

namespace Lexemes

open Patterns (Text)

structure Alphabet where
  isWord : Char → Bool
  isSpace : Char → Bool
  apart : ∀ c, isSpace c = true → isWord c = false
  newline_space : isSpace '\n' = true

inductive Lexeme where
  | word (letters : Text)
  | sign (c : Char)
  | newline
  deriving DecidableEq

def flush (letters : Text) : List Lexeme := if letters = [] then [] else [.word letters]

variable (a : Alphabet)

def glyph (c : Char) : List Lexeme :=
  if c = '\n' then [.newline] else if a.isSpace c then [] else [.sign c]

/-- `letters` is the word that is under way. -/
def lexFrom (letters : Text) : Text → List Lexeme
  | [] => flush letters
  | c :: text =>
      if a.isWord c then lexFrom (letters ++ [c]) text
      else flush letters ++ (glyph a c ++ lexFrom [] text)

def lex (text : Text) : List Lexeme := lexFrom a [] text

def visible (text : Text) : List Lexeme := (lex a text).filter (· ≠ .newline)

@[simp] theorem lex_nil : lex a [] = [] := rfl

theorem newline_word : a.isWord '\n' = false := a.apart _ a.newline_space

theorem lex_other {c : Char} (other : a.isWord c = false) (text : Text) :
    lex a (c :: text) = glyph a c ++ lex a text := by
  simp [lex, lexFrom, other, flush]

@[simp] theorem lex_newline (text : Text) : lex a ('\n' :: text) = .newline :: lex a text := by
  rw [lex_other a (newline_word a)]
  rfl

theorem lex_sign {c : Char} (other : a.isWord c = false) (ink : a.isSpace c = false)
    (text : Text) : lex a (c :: text) = .sign c :: lex a text := by
  have no_newline : c ≠ '\n' := by
    rintro rfl
    simp [a.newline_space] at ink
  rw [lex_other a other]
  simp [glyph, no_newline, ink]

theorem lexFrom_run (letters run rest : Text) (all : ∀ c ∈ run, a.isWord c = true) :
    lexFrom a letters (run ++ rest) = lexFrom a (letters ++ run) rest := by
  induction run generalizing letters with
  | nil => simp
  | cons c run ih =>
      obtain ⟨first, later⟩ := List.forall_mem_cons.mp all
      rw [List.cons_append, lexFrom, if_pos first, ih _ later, List.append_assoc]
      rfl

def Ends (rest : Text) : Prop := ∀ c ∈ rest.head?, a.isWord c = false

theorem lexFrom_ends (letters rest : Text) (ends : Ends a rest) :
    lexFrom a letters rest = flush letters ++ lex a rest := by
  cases rest with
  | nil => simp [lexFrom, lex, flush]
  | cons c rest =>
      have other : a.isWord c = false := ends c rfl
      rw [lexFrom, if_neg (by simp [other]), lex_other a other, lex]

theorem lex_word {run rest : Text} (nonempty : run ≠ []) (all : ∀ c ∈ run, a.isWord c = true)
    (ends : Ends a rest) : lex a (run ++ rest) = .word run :: lex a rest := by
  rw [lex, lexFrom_run a [] run rest all, lexFrom_ends a _ _ ends, flush, if_neg (by simpa)]
  rfl

theorem Ends.dropWhile (text : Text) : Ends a (text.dropWhile a.isWord) := by
  intro c first
  have other := List.head?_dropWhile_not a.isWord text
  rwa [Option.mem_def.mp first] at other

theorem lex_takeWhile {c : Char} (fits : a.isWord c = true) (text : Text) :
    lex a (c :: text) =
      .word ((c :: text).takeWhile a.isWord) :: lex a ((c :: text).dropWhile a.isWord) := by
  rw [← lex_word a (by simp [fits]) (List.all_eq_true.mp List.all_takeWhile)
    (Ends.dropWhile a (c :: text)), List.takeWhile_append_dropWhile]

theorem lexFrom_append (letters front rest : Text) (ends : Ends a rest) :
    lexFrom a letters (front ++ rest) = lexFrom a letters front ++ lex a rest := by
  induction front generalizing letters with
  | nil => exact lexFrom_ends a letters rest ends
  | cons c front ih =>
      rw [List.cons_append, lexFrom, lexFrom]
      split
      · exact ih _
      · simp [ih]

theorem lex_append (front : Text) {rest : Text} (ends : Ends a rest) :
    lex a (front ++ rest) = lex a front ++ lex a rest := lexFrom_append a [] front rest ends

theorem lex_append_newline (front rest : Text) :
    lex a (front ++ '\n' :: rest) = lex a front ++ .newline :: lex a rest := by
  have ends : Ends a ('\n' :: rest) := by
    intro c first
    cases first
    exact newline_word a
  rw [lex_append a front ends, lex_newline]

theorem Ends.cons {c : Char} (other : a.isWord c = false) (rest : Text) : Ends a (c :: rest) := by
  intro d first
  cases first
  exact other

theorem Ends.nil : Ends a [] := nofun

theorem Ends.spaces {gap rest : Text} (spaces : ∀ c ∈ gap, a.isSpace c = true)
    (ends : Ends a rest) : Ends a (gap ++ rest) := by
  cases gap with
  | nil => exact ends
  | cons c gap => exact .cons a (a.apart c (spaces c List.mem_cons_self)) _

theorem Ends.gap {gap : Text} (nonempty : gap ≠ []) (spaces : ∀ c ∈ gap, a.isSpace c = true)
    (rest : Text) : Ends a (gap ++ rest) := by
  cases gap with
  | nil => exact absurd rfl nonempty
  | cons c gap => exact .cons a (a.apart c (spaces c List.mem_cons_self)) _

theorem lex_spaces {gap : Text} (spaces : ∀ c ∈ gap, a.isSpace c = true) (rest : Text) :
    ∃ n, lex a gap = List.replicate n .newline ∧
      lex a (gap ++ rest) = List.replicate n .newline ++ lex a rest := by
  induction gap with
  | nil => exact ⟨0, rfl, rfl⟩
  | cons c gap ih =>
      obtain ⟨space, spaces⟩ := List.forall_mem_cons.mp spaces
      obtain ⟨n, alone, before⟩ := ih spaces
      have other := a.apart c space
      rw [List.cons_append, lex_other a other, lex_other a other, alone, before]
      by_cases ends : c = '\n'
      · exact ⟨n + 1, by simp [glyph, ends, List.replicate_succ],
          by simp [glyph, ends, List.replicate_succ]⟩
      · exact ⟨n, by simp [glyph, ends, space], by simp [glyph, ends, space]⟩

theorem lex_front (text : Text) :
    ∃ gap rest, text = gap ++ rest ∧ (∀ c ∈ gap, a.isSpace c = true) ∧
      lex a rest = lex a text ∧ ∀ c ∈ rest.head?, a.isSpace c = true → c = '\n' := by
  induction text with
  | nil => exact ⟨[], [], rfl, by simp, rfl, nofun⟩
  | cons c text ih =>
      by_cases blank : a.isSpace c = true ∧ c ≠ '\n'
      · obtain ⟨gap, rest, rfl, spaces, same, first⟩ := ih
        refine ⟨c :: gap, rest, rfl, List.forall_mem_cons.mpr ⟨blank.1, spaces⟩, ?_, first⟩
        rw [same, lex_other a (a.apart c blank.1)]
        simp [glyph, blank]
      · refine ⟨[], c :: text, rfl, by simp, rfl, ?_⟩
        intro d first space
        cases first
        by_contra other
        exact blank ⟨space, other⟩

theorem lex_word_inv {text letters : Text} {later : List Lexeme}
    (row : lex a text = .word letters :: later) :
    ∃ gap rest, text = gap ++ (letters ++ rest) ∧ (∀ c ∈ gap, a.isSpace c = true) ∧
      letters ≠ [] ∧ (∀ c ∈ letters, a.isWord c = true) ∧ Ends a rest ∧ lex a rest = later := by
  obtain ⟨gap, rest, rfl, spaces, same, first⟩ := lex_front a text
  rw [← same] at row
  cases rest with
  | nil => simp at row
  | cons c rest =>
      by_cases fits : a.isWord c = true
      · rw [lex_takeWhile a fits, List.cons.injEq, Lexeme.word.injEq] at row
        obtain ⟨rfl, same_later⟩ := row
        exact ⟨gap, _, by rw [List.takeWhile_append_dropWhile], spaces, by simp [fits],
          List.all_eq_true.mp List.all_takeWhile, Ends.dropWhile a _, same_later⟩
      · have other : a.isWord c = false := by simpa using fits
        rw [lex_other a other] at row
        unfold glyph at row
        split at row
        · cases row
        · split at row
          case isTrue no_newline space => exact absurd (first c rfl space) no_newline
          case isFalse => cases row

theorem lex_glyph_inv {text : Text} {token : Lexeme} {later : List Lexeme}
    (row : lex a text = token :: later) (no_word : ∀ letters, token ≠ .word letters) :
    ∃ gap c rest, text = gap ++ c :: rest ∧ (∀ c ∈ gap, a.isSpace c = true) ∧
      a.isWord c = false ∧ glyph a c = [token] ∧ lex a rest = later := by
  obtain ⟨gap, rest, rfl, spaces, same, first⟩ := lex_front a text
  rw [← same] at row
  cases rest with
  | nil => simp at row
  | cons c rest =>
      by_cases fits : a.isWord c = true
      · rw [lex_takeWhile a fits, List.cons.injEq] at row
        exact absurd row.1.symm (no_word _)
      · have other : a.isWord c = false := by simpa using fits
        have one : glyph a c = [token] ∧ lex a rest = later := by
          rw [lex_other a other] at row
          unfold glyph at row ⊢
          split at row
          case isTrue newline => simpa [newline] using row
          case isFalse no_newline =>
            split at row
            case isTrue space => exact absurd (first c rfl space) no_newline
            case isFalse ink => simpa [no_newline, ink] using row
        exact ⟨gap, c, rest, rfl, spaces, other, one.1, one.2⟩

theorem lex_nil_inv {text : Text} (row : lex a text = []) : ∀ c ∈ text, a.isSpace c = true := by
  obtain ⟨gap, rest, rfl, spaces, same, first⟩ := lex_front a text
  rw [← same] at row
  cases rest with
  | nil => simpa using spaces
  | cons c rest =>
      by_cases fits : a.isWord c = true
      · rw [lex_takeWhile a fits] at row
        cases row
      · rw [lex_other a (by simpa using fits)] at row
        unfold glyph at row
        split at row
        · cases row
        · split at row
          case isTrue no_newline space => exact absurd (first c rfl space) no_newline
          case isFalse => cases row

@[simp] theorem visible_nil : visible a [] = [] := rfl

theorem visible_word {run rest : Text} (nonempty : run ≠ []) (all : ∀ c ∈ run, a.isWord c = true)
    (ends : Ends a rest) : visible a (run ++ rest) = .word run :: visible a rest := by
  rw [visible, lex_word a nonempty all ends]
  rfl

theorem visible_takeWhile {c : Char} (fits : a.isWord c = true) (text : Text) :
    visible a (c :: text) =
      .word ((c :: text).takeWhile a.isWord) :: visible a ((c :: text).dropWhile a.isWord) := by
  rw [visible, lex_takeWhile a fits]
  rfl

theorem visible_sign {c : Char} (other : a.isWord c = false) (ink : a.isSpace c = false)
    (text : Text) : visible a (c :: text) = .sign c :: visible a text := by
  rw [visible, lex_sign a other ink]
  rfl

theorem visible_spaces {gap : Text} (spaces : ∀ c ∈ gap, a.isSpace c = true) (rest : Text) :
    visible a (gap ++ rest) = visible a rest := by
  obtain ⟨n, -, row⟩ := lex_spaces a spaces rest
  rw [visible, row, List.filter_append]
  simp [visible]

theorem visible_space {c : Char} (space : a.isSpace c = true) (rest : Text) :
    visible a (c :: rest) = visible a rest :=
  @visible_spaces a [c] (by simpa using space) rest

theorem visible_append (front : Text) {rest : Text} (ends : Ends a rest) :
    visible a (front ++ rest) = visible a front ++ visible a rest := by
  rw [visible, lex_append a front ends, List.filter_append]
  rfl

theorem visible_front (text : Text) :
    ∃ gap rest, text = gap ++ rest ∧ (∀ c ∈ gap, a.isSpace c = true) ∧
      visible a rest = visible a text ∧ ∀ c ∈ rest.head?, a.isSpace c = false := by
  refine ⟨text.takeWhile a.isSpace, text.dropWhile a.isSpace,
    List.takeWhile_append_dropWhile.symm, List.all_eq_true.mp List.all_takeWhile, ?_, ?_⟩
  · rw [← visible_spaces a (List.all_eq_true.mp List.all_takeWhile),
      List.takeWhile_append_dropWhile]
  · intro c first
    have other := List.head?_dropWhile_not a.isSpace text
    rwa [Option.mem_def.mp first] at other

theorem visible_word_inv {text letters : Text} {later : List Lexeme}
    (row : visible a text = .word letters :: later) :
    ∃ gap rest, text = gap ++ (letters ++ rest) ∧ (∀ c ∈ gap, a.isSpace c = true) ∧
      letters ≠ [] ∧ (∀ c ∈ letters, a.isWord c = true) ∧ Ends a rest ∧
        visible a rest = later := by
  obtain ⟨gap, rest, rfl, spaces, same, first⟩ := visible_front a text
  rw [← same] at row
  cases rest with
  | nil => simp at row
  | cons c rest =>
      by_cases fits : a.isWord c = true
      · rw [visible_takeWhile a fits, List.cons.injEq, Lexeme.word.injEq] at row
        obtain ⟨rfl, later⟩ := row
        exact ⟨gap, _, by rw [List.takeWhile_append_dropWhile], spaces, by simp [fits],
          List.all_eq_true.mp List.all_takeWhile, Ends.dropWhile a _, later⟩
      · rw [visible_sign a (by simpa using fits) (first c rfl)] at row
        cases row

theorem visible_sign_inv {text : Text} {c : Char} {later : List Lexeme}
    (row : visible a text = .sign c :: later) :
    ∃ gap rest, text = gap ++ c :: rest ∧ (∀ c ∈ gap, a.isSpace c = true) ∧
      a.isWord c = false ∧ visible a rest = later := by
  obtain ⟨gap, rest, rfl, spaces, same, first⟩ := visible_front a text
  rw [← same] at row
  cases rest with
  | nil => simp at row
  | cons d rest =>
      by_cases fits : a.isWord d = true
      · rw [visible_takeWhile a fits] at row
        cases row
      · have other : a.isWord d = false := by simpa using fits
        rw [visible_sign a other (first d rfl), List.cons.injEq, Lexeme.sign.injEq] at row
        obtain ⟨rfl, later⟩ := row
        exact ⟨gap, rest, rfl, spaces, other, later⟩

end Lexemes
