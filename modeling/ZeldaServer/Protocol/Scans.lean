import ZeldaServer.Protocol.GenNetworkFunc

/-! What the generator's regular expressions find, on the row of words, signs and line ends that a
text is. -/

namespace ZeldaServer

namespace GenNetworkFunc

open Lexemes
open Patterns (Text Pattern behind behind_cons behind_append)
open Patterns.Pattern (Takes Finds literal plus takes_literal takes_plus takes_optional)

section Labels

variable (isHead isName : Text → Bool) (term : Char)

def labelAt : List Lexeme → Option Text
  | .word head :: .word name :: .sign c :: _ =>
      if isHead head && isName name && c = term then some name else none
  | _ => none

def labels : List Lexeme → List Text
  | [] => []
  | token :: row => (labelAt isHead isName term (token :: row)).toList ++ labels row

theorem labels_cons (token : Lexeme) (row : List Lexeme) :
    labels isHead isName term (token :: row) =
      (labelAt isHead isName term (token :: row)).toList ++ labels isHead isName term row := rfl

@[simp] theorem labels_sign (c : Char) (row : List Lexeme) :
    labels isHead isName term (.sign c :: row) = labels isHead isName term row := rfl

@[simp] theorem labels_three (x y z : Text) (row : List Lexeme) :
    labels isHead isName term (.word x :: .word y :: .word z :: row) =
      labels isHead isName term (.word y :: .word z :: row) := rfl

@[simp] theorem labels_word_sign (x : Text) (c : Char) (row : List Lexeme) :
    labels isHead isName term (.word x :: .sign c :: row) = labels isHead isName term row := rfl

theorem labelAt_words (token : Lexeme) (front row : List Lexeme) (x y : Text) :
    labelAt isHead isName term (token :: (front ++ .word x :: .word y :: row)) =
      labelAt isHead isName term (token :: front) := by
  cases token with
  | word head =>
      rcases front with _ | ⟨second, _ | ⟨third, front⟩⟩
      · rfl
      · cases second <;> rfl
      · cases second <;> cases third <;> rfl
  | sign c => rfl
  | newline => rfl

theorem labels_words (front row : List Lexeme) (x y : Text) :
    labels isHead isName term (front ++ .word x :: .word y :: row) =
      labels isHead isName term front ++ labels isHead isName term (.word x :: .word y :: row) := by
  induction front with
  | nil => rfl
  | cons token front ih =>
      rw [List.cons_append, labels_cons, ih, labelAt_words, labels_cons _ _ _ token,
        List.append_assoc]

theorem labels_cut (front row : List Lexeme) (c : Char) :
    labels isHead isName term (front ++ .sign c :: row) =
      labels isHead isName term (front ++ [.sign c]) ++ labels isHead isName term row := by
  induction front with
  | nil => rfl
  | cons token front ih =>
      have same : labelAt isHead isName term (token :: (front ++ .sign c :: row)) =
          labelAt isHead isName term (token :: (front ++ [.sign c])) := by
        cases token with
        | word head =>
            rcases front with _ | ⟨second, _ | ⟨third, front⟩⟩
            · rfl
            · cases second <;> rfl
            · cases second <;> cases third <;> rfl
        | sign d => rfl
        | newline => rfl
      rw [List.cons_append, List.cons_append, labels_cons, labels_cons, ih, same, List.append_assoc]

theorem labels_subset (front row : List Lexeme) :
    labels isHead isName term front ⊆ labels isHead isName term (front ++ row) := by
  induction front with
  | nil => simp [labels]
  | cons token front ih =>
      have stays (label : Text) (is : labelAt isHead isName term (token :: front) = some label) :
          labelAt isHead isName term (token :: (front ++ row)) = some label := by
        unfold labelAt at is
        split at is
        case h_1 same =>
          cases same
          exact is
        case h_2 => cases is
      intro label listed
      rw [labels_cons, List.mem_append, Option.mem_toList] at listed
      rw [List.cons_append, labels_cons, List.mem_append, Option.mem_toList]
      exact listed.imp (stays label) (ih ·)

theorem labels_without {front : List Lexeme} (absent : .sign term ∉ front) {c : Char}
    (other : c ≠ term) (row : List Lexeme) :
    labels isHead isName term (front ++ .sign c :: row) = labels isHead isName term row := by
  induction front with
  | nil => rfl
  | cons token front ih =>
      rw [List.mem_cons, not_or] at absent
      have nowhere : labelAt isHead isName term (token :: (front ++ .sign c :: row)) = none := by
        obtain ⟨-, behind⟩ := absent
        cases token with
        | sign d => rfl
        | newline => rfl
        | word head =>
            rcases front with _ | ⟨second, _ | ⟨third, front⟩⟩
            · rfl
            · cases second <;> simp [labelAt, other]
            · cases second with
              | sign d => rfl
              | newline => rfl
              | word name =>
                  cases third with
                  | word next => rfl
                  | newline => rfl
                  | sign d =>
                      have apart : d ≠ term := by
                        rintro rfl
                        simp at behind
                      simp [labelAt, apart]
      rw [List.cons_append, labels_cons, nowhere, ih absent.2]
      rfl

end Labels

section Search

variable (a : Alphabet)

structure Heads (start : Pattern) (isHead : Text → Bool) : Prop where
  takes : ∀ before run rest groups, start.Takes before run rest groups → groups = [] ∧
    ∃ lead head, run = lead ++ head ∧ isHead head = true ∧
      (lead = [] ∨ ∃ word gap, lead = word ++ gap ∧ word ≠ [] ∧ (∀ c ∈ word, a.isWord c = true) ∧
        gap ≠ [] ∧ ∀ c ∈ gap, a.isSpace c = true)
  head : ∀ before run rest, isHead run = true → start.Takes before run rest []
  word : ∀ run, isHead run = true → run ≠ [] ∧ ∀ c ∈ run, a.isWord c = true

structure Names (name : Pattern) (isName : Text → Bool) : Prop where
  takes : ∀ before run rest groups,
    name.Takes before run rest groups ↔ isName run = true ∧ groups = []
  word : ∀ run, isName run = true → run ≠ [] ∧ ∀ c ∈ run, a.isWord c = true

def labelRe (start name : Pattern) (term : Char) : Pattern :=
  .both (.wordBoundary a.isWord) <| .both start <| .both (plus a.isSpace) <|
    .both (.group name) <| .both (.many a.isSpace) (literal [term])

variable {a} {start name : Pattern} {isHead isName : Text → Bool} {term : Char}

theorem takes_label (names : Names a name isName) (before : Option Char) (run rest : Text)
    (groups : List Text) :
    (labelRe a start name term).Takes before run rest groups ↔
      before.any a.isWord ≠ (run ++ rest).head?.any a.isWord ∧
        ∃ head gap label gap' heads, run = head ++ (gap ++ (label ++ (gap' ++ [term]))) ∧
          start.Takes before head (gap ++ (label ++ (gap' ++ term :: rest))) heads ∧
          gap ≠ [] ∧ (∀ c ∈ gap, a.isSpace c = true) ∧ isName label = true ∧
          (∀ c ∈ gap', a.isSpace c = true) ∧ groups = heads ++ [label] := by
  simp only [labelRe, Takes, takes_plus, takes_literal, names.takes]
  constructor
  · rintro ⟨_, _, _, _, rfl, rfl, ⟨rfl, rfl, bound⟩, head, _, heads, _, rfl, rfl, started,
      gap, _, _, _, rfl, rfl, ⟨some_gap, spaces, rfl⟩, label, _, _, _, rfl, rfl,
      ⟨_, rfl, named, rfl⟩, gap', _, _, _, rfl, rfl, ⟨spaces', rfl⟩, rfl, rfl⟩
    refine ⟨by simpa using bound, head, gap, label, gap', heads, by simp,
      by simpa [Patterns.behind_nil] using started,
      some_gap, spaces, named, spaces', by simp⟩
  · rintro ⟨bound, head, gap, label, gap', heads, rfl, started, some_gap, spaces, named, spaces',
      rfl⟩
    refine ⟨[], _, [], _, rfl, rfl, ⟨rfl, rfl, by simpa using bound⟩, head, _, heads, _, rfl, rfl,
      by simpa [Patterns.behind_nil] using started, gap, _, [], _, rfl, rfl,
      ⟨some_gap, spaces, rfl⟩, label, _, [label],
      [], rfl, rfl, ⟨[], rfl, named, rfl⟩, gap', _, [], [], rfl, rfl, ⟨spaces', rfl⟩, rfl, rfl⟩

def wordless (a : Alphabet) (before : Option Char) (text : Text) : Text :=
  if before.any a.isWord then text.dropWhile a.isWord else text

theorem wordless_next (a : Alphabet) (before : Option Char) (c : Char) (text : Text)
    (inside : before.any a.isWord = true ∧ a.isWord c = true) :
    wordless a before (c :: text) = wordless a (some c) text := by
  simp [wordless, inside]

def labelsFrom (a : Alphabet) (isHead isName : Text → Bool) (term : Char) (before : Option Char)
    (text : Text) : List (List Text) :=
  (labels isHead isName term (visible a (wordless a before text))).map ([·])

theorem takes_labelAt (heads : Heads a start isHead) (names : Names a name isName)
    (before : Option Char) (c : Char) (text label : Text) (outside : before.any a.isWord = false)
    (fits : a.isWord c = true)
    (front : labelAt isHead isName term (visible a (c :: text)) = some label) :
    ∃ run rest, c :: text = run ++ rest ∧
      (labelRe a start name term).Takes before run rest [label] := by
  have whole := List.takeWhile_append_dropWhile (p := a.isWord) (l := c :: text)
  have stops := Ends.dropWhile a (c :: text)
  rw [visible_takeWhile a fits] at front
  generalize (c :: text).takeWhile a.isWord = word at whole front
  generalize (c :: text).dropWhile a.isWord = behind at whole stops front
  rw [← whole]
  generalize row : visible a behind = tokens at front
  match tokens, front with
  | .word label' :: .sign d :: later, front =>
      simp only [labelAt, Bool.and_eq_true, decide_eq_true_eq, Option.ite_none_right_eq_some,
        Option.some.injEq] at front
      obtain ⟨⟨⟨head, named⟩, rfl⟩, rfl⟩ := front
      obtain ⟨gap, rest, rfl, spaces, nonempty, all, ends, row⟩ := visible_word_inv a row
      obtain ⟨gap', rest', rfl, spaces', -, -⟩ := visible_sign_inv a row
      have some_gap : gap ≠ [] := by
        rintro rfl
        cases label' with
        | nil => exact nonempty rfl
        | cons e label' =>
            have other := stops e rfl
            rw [all e List.mem_cons_self] at other
            cases other
      have same : word ++ (gap ++ (label' ++ (gap' ++ d :: rest'))) =
          word ++ (gap ++ (label' ++ (gap' ++ [d]))) ++ rest' := by simp
      refine ⟨_, rest', same, (takes_label names before _ _ _).mpr ⟨?_, word, gap, label', gap', [],
        rfl, heads.head _ _ _ head, some_gap, spaces, named, spaces', rfl⟩⟩
      rw [← same, whole, outside]
      simp [fits]

theorem finds_labels (heads : Heads a start isHead) (names : Names a name isName)
    (other : a.isWord term = false) (ink : a.isSpace term = false) :
    (labelRe a start name term).Finds (labelsFrom a isHead isName term) where
  consumes before rest groups taken := by
    obtain ⟨-, head, gap, label, gap', more, empty, -⟩ := (takes_label names _ _ _ _).mp taken
    simp at empty
  nil before := by simp [labelsFrom, wordless, labels]
  pass before c text nothing := by
    unfold labelsFrom
    congr 1
    by_cases fits : a.isWord c = true
    · cases inside : before.any a.isWord with
      | true => rw [wordless_next a before c text ⟨inside, fits⟩]
      | false =>
          have nowhere : labelAt isHead isName term (visible a (c :: text)) = none := by
            by_contra somewhere
            obtain ⟨label, front⟩ := Option.ne_none_iff_exists'.mp somewhere
            obtain ⟨run, rest, split, taken⟩ :=
              takes_labelAt heads names before c text label inside fits front
            exact nothing run rest _ split taken
          have row := visible_takeWhile a fits text
          rw [row] at nowhere
          have first : wordless a before (c :: text) = c :: text := by simp [wordless, inside]
          have next : wordless a (some c) text = (c :: text).dropWhile a.isWord := by
            simp [wordless, fits]
          rw [first, next, row, labels_cons, nowhere]
          rfl
    · have outside : a.isWord c = false := by simpa using fits
      have first : wordless a before (c :: text) = c :: text := by simp [wordless, outside]
      have next : wordless a (some c) text = text := by simp [wordless, outside]
      rw [first, next]
      cases space : a.isSpace c with
      | true => rw [visible_space a space]
      | false => rw [visible_sign a outside space, labels_sign]
  hit before run rest groups taken := by
    obtain ⟨bound, start', gap, label, gap', more, rfl, started, some_gap, spaces, named, spaces',
      rfl⟩ := (takes_label names _ _ _ _).mp taken
    obtain ⟨rfl, lead, head, rfl, isHead', led⟩ := heads.takes _ _ _ _ started
    obtain ⟨some_head, head_word⟩ := heads.word head isHead'
    obtain ⟨some_label, label_word⟩ := names.word label named
    have row : visible a (head ++ (gap ++ (label ++ (gap' ++ term :: rest)))) =
        .word head :: .word label :: .sign term :: visible a rest := by
      have ends_label : Ends a (gap' ++ term :: rest) :=
        Ends.spaces a spaces' (Ends.cons a other rest)
      have ends_head := Ends.gap a some_gap spaces (label ++ (gap' ++ term :: rest))
      rw [visible_word a some_head head_word ends_head, visible_spaces a spaces,
        visible_word a some_label label_word ends_label, visible_spaces a spaces',
        visible_sign a other ink]
    have tail : labels isHead isName term
        (.word head :: .word label :: .sign term :: visible a rest) =
          label :: labels isHead isName term (visible a rest) := by
      simp [labels_cons _ _ _ (.word head), labelAt, isHead', named]
    have behind_term (front : Text) : behind before (front ++ [term]) = some term := by
      simp [behind]
    have last :
        behind before (lead ++ head ++ (gap ++ (label ++ (gap' ++ [term])))) = some term := by
      have same : lead ++ head ++ (gap ++ (label ++ (gap' ++ [term]))) =
          (lead ++ head ++ (gap ++ (label ++ gap'))) ++ [term] := by simp
      rw [same, behind_term]
    have whole : lead ++ head ++ (gap ++ (label ++ (gap' ++ [term]))) ++ rest =
        lead ++ (head ++ (gap ++ (label ++ (gap' ++ term :: rest)))) := by simp
    rw [last, whole]
    rw [whole] at bound
    have next : wordless a (some term) rest = rest := by simp [wordless, other]
    have first (word more : Text) (nonempty : word ≠ []) (all : ∀ c ∈ word, a.isWord c = true)
        (bound : before.any a.isWord ≠ (word ++ more).head?.any a.isWord) :
        wordless a before (word ++ more) = word ++ more := by
      cases word with
      | nil => exact absurd rfl nonempty
      | cons c word =>
          have outside : before.any a.isWord = false := by
            simpa [all c List.mem_cons_self] using bound
          simp [wordless, outside]
    unfold labelsFrom
    rw [next]
    rcases led with rfl | ⟨word, space, rfl, some_word, word_all, some_space, space_all⟩
    · rw [List.nil_append] at bound ⊢
      rw [first head _ some_head head_word bound, row, tail]
      rfl
    · have ends := Ends.gap a some_space space_all
      rw [List.append_assoc] at bound ⊢
      rw [first word _ some_word word_all bound, visible_word a some_word word_all (ends _),
        visible_spaces a space_all, row, labels_three, tail]
      rfl

end Search

section Labelled

variable (u : Unicode)

theorem word_of_ascii {text : Text}
    (ascii : (text.all fun c => c.toNat < 128 && (c.isAlphanum || c = '_')) = true) :
    ∀ c ∈ text, u.isWord c = true := by
  intro c listed
  have one := List.all_eq_true.mp ascii c listed
  simp only [Bool.and_eq_true, decide_eq_true_eq] at one
  rw [u.ascii_word c one.1, one.2]

theorem letter_codes {c : Char} (letter : c.isAlpha = true) :
    (65 ≤ c.toNat ∧ c.toNat ≤ 90) ∨ (97 ≤ c.toNat ∧ c.toNat ≤ 122) := by
  have cases : (c.isUpper || c.isLower) = true := letter
  rw [Bool.or_eq_true] at cases
  rcases cases with upper | lower
  · have codes : 'A'.val ≤ c.val ∧ c.val ≤ 'Z'.val := of_decide_eq_true upper
    exact .inl ⟨UInt32.le_iff_toNat_le.mp codes.1, UInt32.le_iff_toNat_le.mp codes.2⟩
  · have codes : (decide ('a'.val ≤ c.val) && decide (c.val ≤ 'z'.val)) = true := lower
    rw [Bool.and_eq_true, decide_eq_true_eq, decide_eq_true_eq] at codes
    exact .inr ⟨UInt32.le_iff_toNat_le.mp codes.1, UInt32.le_iff_toNat_le.mp codes.2⟩

theorem identStart_ascii {c : Char} (start : isIdentStart c = true) :
    c.toNat < 128 ∧ c.isDigit = false ∧ (c.isAlphanum || c = '_') = true := by
  have value : c.val.toNat = c.toNat := rfl
  have letters : ((65 ≤ c.toNat ∧ c.toNat ≤ 90) ∨ (97 ≤ c.toNat ∧ c.toNat ≤ 122)) ∨
      c.toNat = 95 := by
    rw [isIdentStart, Bool.or_eq_true, decide_eq_true_eq] at start
    rcases start with letter | rfl
    · exact .inl (letter_codes letter)
    · exact .inr rfl
  refine ⟨by omega, ?_, ?_⟩
  · simp only [Char.isDigit, Bool.and_eq_false_iff, decide_eq_false_iff_not,
      UInt32.le_iff_toNat_le, ge_iff_le, value]
    change ¬ 48 ≤ c.toNat ∨ ¬ c.toNat ≤ 57
    omega
  · unfold isIdentStart at start
    rw [Bool.or_eq_true] at start ⊢
    rw [Char.isAlphanum, Bool.or_eq_true]
    exact start.imp_left .inl

theorem identStart_word {c : Char} (start : isIdentStart c = true) : u.isWord c = true := by
  obtain ⟨ascii, -, word⟩ := identStart_ascii start
  rw [u.ascii_word c ascii, word]

theorem isIdent_word {text : Text} (named : isIdent u text = true) :
    text ≠ [] ∧ ∀ c ∈ text, u.isWord c = true := by
  cases text with
  | nil => cases named
  | cons c text =>
      simp only [isIdent, Bool.and_eq_true] at named
      exact ⟨by simp, List.forall_mem_cons.mpr
        ⟨identStart_word u named.1, List.all_eq_true.mp named.2⟩⟩

theorem takes_ident (before : Option Char) (run rest : Text) (groups : List Text) :
    (ident u).Takes before run rest groups ↔ isIdent u run = true ∧ groups = [] := by
  simp only [ident, Takes]
  constructor
  · rintro ⟨_, more, _, _, rfl, rfl, ⟨c, rfl, start, rfl⟩, all, rfl⟩
    simp only [List.cons_append, List.nil_append, isIdent, Bool.and_eq_true]
    exact ⟨⟨start, List.all_eq_true.mpr all⟩, trivial⟩
  · rintro ⟨named, rfl⟩
    cases run with
    | nil => cases named
    | cons c more =>
        simp only [isIdent, Bool.and_eq_true] at named
        exact ⟨[c], more, [], [], rfl, rfl, ⟨c, rfl, named.1, rfl⟩,
          List.all_eq_true.mp named.2, rfl⟩

theorem names_ident : Names u.toAlphabet (ident u) (isIdent u) where
  takes := takes_ident u
  word _ := isIdent_word u

def isCase (head : Text) : Bool := head = "case".toList

theorem heads_case : Heads u.toAlphabet (literal "case".toList) isCase where
  takes before run rest groups taken := by
    obtain ⟨rfl, rfl⟩ := (takes_literal _ _ _ _ _).mp taken
    exact ⟨rfl, [], _, rfl, decide_eq_true rfl, .inl rfl⟩
  head before run rest head :=
    (takes_literal _ _ _ _ _).mpr ⟨of_decide_eq_true head, rfl⟩
  word run head := by
    cases of_decide_eq_true head
    exact ⟨by decide, word_of_ascii u (by decide)⟩

def caseLabels (row : List Lexeme) : List Text := labels isCase (isIdent u) ':' row

theorem flatten_singles (texts : List Text) : (texts.map ([·])).flatten = texts := by
  induction texts with
  | nil => rfl
  | cons text texts ih => rw [List.map_cons, List.flatten_cons, ih, List.singleton_append]

theorem sign_ascii {c : Char} (small : c.toNat < 128)
    (other : (c.isAlphanum || c = '_') = false)
    (ink : c.toNat ∉ [9, 10, 11, 12, 13, 28, 29, 30, 31, 32]) :
    u.isWord c = false ∧ u.isSpace c = false := by
  rw [u.ascii_word c small, u.ascii_space c small]
  exact ⟨other, decide_eq_false ink⟩

theorem extractCases_eq (text : Text) :
    extractCases u text = caseLabels u (visible u.toAlphabet text) := by
  have sign := sign_ascii u (c := ':') (by decide) (by decide) (by decide)
  have finds := finds_labels (heads_case u) (names_ident u) sign.1 sign.2
  have found := finds.finditer text
  have first : wordless u.toAlphabet none text = text := rfl
  rw [labelsFrom, first] at found
  have pattern : caseRe u = labelRe u.toAlphabet (literal "case".toList) (ident u) ':' := rfl
  rw [extractCases, pattern, found, flatten_singles]
  rfl

def isReturnType (head : Text) : Bool := head = "void".toList || head = "SendBufferRef".toList

def isFn (name : Text) : Bool :=
  startswith name "Handle_".toList && isIdent u (name.drop 7) ||
    startswith name "Make_".toList && isIdent u (name.drop 5)

theorem startswith_append (front text : Text) : startswith (front ++ text) front = true := by
  rw [startswith, List.isPrefixOf_iff_prefix]
  exact List.prefix_append _ _

theorem startswith_drop {text front : Text} (starts : startswith text front = true) :
    text = front ++ text.drop front.length := by
  rw [startswith, List.isPrefixOf_iff_prefix] at starts
  obtain ⟨rest, rfl⟩ := starts
  rw [List.drop_left]

theorem takes_named (front : Text) (before : Option Char) (run rest : Text) (groups : List Text) :
    (Pattern.both (literal front) (ident u)).Takes before run rest groups ↔
      (startswith run front && isIdent u (run.drop front.length)) = true ∧ groups = [] := by
  simp only [Takes, takes_literal, takes_ident, Bool.and_eq_true]
  constructor
  · rintro ⟨_, name, _, _, rfl, rfl, ⟨rfl, rfl⟩, named, rfl⟩
    rw [List.drop_left]
    exact ⟨⟨startswith_append _ _, named⟩, rfl⟩
  · rintro ⟨⟨starts, named⟩, rfl⟩
    exact ⟨front, run.drop front.length, [], [], startswith_drop starts, rfl, ⟨rfl, rfl⟩, named,
      rfl⟩

theorem names_fn :
    Names u.toAlphabet (.either (.both (literal "Handle_".toList) (ident u))
      (.both (literal "Make_".toList) (ident u))) (isFn u) where
  takes before run rest groups := by
    have each (front : Text) := takes_named u front before run rest groups
    rw [Takes, each, each, isFn, Bool.or_eq_true]
    exact or_and_right.symm
  word run named := by
    have whole (front : Text) (word : ∀ c ∈ front, u.isWord c = true)
        (named : (startswith run front && isIdent u (run.drop front.length)) = true) :
        run ≠ [] ∧ ∀ c ∈ run, u.isWord c = true := by
      rw [Bool.and_eq_true] at named
      obtain ⟨some_char, rest⟩ := isIdent_word u named.2
      rw [startswith_drop named.1]
      refine ⟨fun empty => some_char (List.append_eq_nil_iff.mp empty).2, fun c listed => ?_⟩
      rcases List.mem_append.mp listed with front | rest'
      · exact word c front
      · exact rest c rest'
    rw [isFn, Bool.or_eq_true] at named
    rcases named with handle | make
    · exact whole "Handle_".toList (word_of_ascii u (by decide)) handle
    · exact whole "Make_".toList (word_of_ascii u (by decide)) make

theorem isReturnType_word {head : Text} (type : isReturnType head = true) :
    head ≠ [] ∧ ∀ c ∈ head, u.isWord c = true := by
  rw [isReturnType, Bool.or_eq_true] at type
  rcases type with type | type
  · cases of_decide_eq_true type
    exact ⟨by decide, word_of_ascii u (by decide)⟩
  · cases of_decide_eq_true type
    exact ⟨by decide, word_of_ascii u (by decide)⟩

theorem heads_returnType :
    Heads u.toAlphabet
      (.both (.optional (.both (literal "static".toList) (plus u.isSpace)))
        (.either (literal "void".toList) (literal "SendBufferRef".toList))) isReturnType where
  takes before run rest groups taken := by
    simp only [Takes, takes_optional, takes_literal, takes_plus] at taken
    obtain ⟨lead, head, _, _, rfl, rfl, led, types⟩ := taken
    have type : isReturnType head = true ∧ ∀ more, (head = "void".toList ∧ more = [] ∨
        head = "SendBufferRef".toList ∧ more = []) → more = ([] : List Text) := by
      refine ⟨?_, by rintro more (⟨-, rfl⟩ | ⟨-, rfl⟩) <;> rfl⟩
      rw [isReturnType, Bool.or_eq_true]
      exact types.imp (fun type => decide_eq_true type.1) fun type => decide_eq_true type.1
    obtain rfl := type.2 _ types
    rcases led with ⟨_, gap, _, _, rfl, rfl, ⟨rfl, rfl⟩, some_gap, spaces, rfl⟩ | ⟨rfl, rfl⟩
    · exact ⟨rfl, _, head, rfl, type.1, .inr ⟨_, gap, rfl, by decide, word_of_ascii u (by decide),
        some_gap, spaces⟩⟩
    · exact ⟨rfl, [], head, rfl, type.1, .inl rfl⟩
  head before run rest head := by
    simp only [Takes, takes_optional, takes_literal]
    refine ⟨[], run, [], [], rfl, rfl, .inr ⟨rfl, rfl⟩, ?_⟩
    rw [isReturnType, Bool.or_eq_true] at head
    exact head.imp (fun type => ⟨of_decide_eq_true type, rfl⟩)
      fun type => ⟨of_decide_eq_true type, rfl⟩
  word _ := isReturnType_word u

def fnLabels (row : List Lexeme) : List Text := labels isReturnType (isFn u) '(' row

theorem declaredFunctions_eq (text : Text) :
    declaredFunctions u text = fnLabels u (visible u.toAlphabet text) := by
  have sign := sign_ascii u (c := '(') (by decide) (by decide) (by decide)
  have finds := finds_labels (heads_returnType u) (names_fn u) sign.1 sign.2
  have found := finds.finditer text
  have first : wordless u.toAlphabet none text = text := rfl
  rw [labelsFrom, first] at found
  rw [declaredFunctions, show declFnRe u = labelRe u.toAlphabet _ _ '(' from rfl, found,
    flatten_singles]
  rfl

end Labelled

section Entries

variable (u : Unicode)

def endsLine : List Lexeme → Bool
  | .word _ :: _ => false
  | .sign c :: row => c = ',' && row.head?.all (· = .newline)
  | _ => true

def skipLines (row : List Lexeme) : List Lexeme := row.dropWhile (· = .newline)

def entryAt : List Lexeme → Option (Text × Text)
  | .word name :: row =>
      match skipLines row with
      | .sign c :: row =>
          match skipLines row with
          | .word digits :: row =>
              if isIdent u name && c = '=' && digits.all u.isDecimal && endsLine row then
                some (name, digits)
              else none
          | _ => none
      | _ => none
  | _ => none

/-- The enumerators of a row; `starts` says that a line starts in front. -/
def entries (starts : Bool) : List Lexeme → List (Text × Text)
  | [] => []
  | token :: row =>
      (if starts then entryAt u (token :: row) else none).toList ++ entries (token = .newline) row

@[simp] theorem entries_newline (starts : Bool) (row : List Lexeme) :
    entries u starts (.newline :: row) = entries u true row := by
  cases starts <;> rfl

@[simp] theorem entries_sign (starts : Bool) (c : Char) (row : List Lexeme) :
    entries u starts (.sign c :: row) = entries u false row := by
  cases starts <;> rfl

@[simp] theorem entries_word (letters : Text) (row : List Lexeme) :
    entries u false (.word letters :: row) = entries u false row := rfl

theorem entries_start (letters : Text) (row : List Lexeme) :
    entries u true (.word letters :: row) =
      (entryAt u (.word letters :: row)).toList ++ entries u false row := rfl

theorem entries_lines (starts : Bool) (n : Nat) (row : List Lexeme) :
    entries u starts (List.replicate n .newline ++ row) = entries u (starts || 0 < n) row := by
  induction n generalizing starts with
  | zero => simp
  | succ n ih => simp [List.replicate_succ, ih]

theorem skipLines_lines (n : Nat) (token : Lexeme) (row : List Lexeme) (other : token ≠ .newline) :
    skipLines (List.replicate n .newline ++ token :: row) = token :: row := by
  induction n with
  | zero => simp [skipLines, other]
  | succ n ih => simpa [skipLines, List.replicate_succ] using ih

def Closes (close rest : Text) : Prop :=
  ∃ gap comma gap', close = gap ++ (comma ++ gap') ∧ (∀ c ∈ gap, u.isSpace c = true) ∧
    (comma = [','] ∨ comma = []) ∧ (∀ c ∈ gap', u.isSpace c = true) ∧
    (rest.head? = none ∨ rest.head? = some '\n')

theorem takes_entry (before : Option Char) (run rest : Text) (groups : List Text) :
    (enumEntryRe u).Takes before run rest groups ↔
      (before = none ∨ before = some '\n') ∧
        ∃ gap name gap₁ gap₂ digits close,
          run = gap ++ (name ++ (gap₁ ++ '=' :: (gap₂ ++ (digits ++ close)))) ∧
          (∀ c ∈ gap, u.isSpace c = true) ∧ isIdent u name = true ∧
          (∀ c ∈ gap₁, u.isSpace c = true) ∧ (∀ c ∈ gap₂, u.isSpace c = true) ∧ digits ≠ [] ∧
          (∀ c ∈ digits, u.isDecimal c = true) ∧ Closes u close rest ∧
          groups = [name, digits] := by
  simp only [enumEntryRe, space, Takes, takes_plus, takes_literal, takes_optional, takes_ident]
  constructor
  · rintro ⟨_, _, _, _, rfl, rfl, ⟨rfl, rfl, start⟩, gap, _, _, _, rfl, rfl, ⟨spaces, rfl⟩,
      name, _, _, _, rfl, rfl, ⟨_, rfl, named, rfl⟩, gap₁, _, _, _, rfl, rfl, ⟨spaces₁, rfl⟩,
      _, _, _, _, rfl, rfl, ⟨rfl, rfl⟩, gap₂, _, _, _, rfl, rfl, ⟨spaces₂, rfl⟩,
      digits, _, _, _, rfl, rfl, ⟨_, rfl, some_digit, decimal, rfl⟩,
      gap₃, _, _, _, rfl, rfl, ⟨spaces₃, rfl⟩, comma, _, more, _, rfl, rfl, optional,
      gap₄, _, _, _, rfl, rfl, ⟨spaces₄, rfl⟩, rfl, rfl, stop⟩
    have none_more : more = [] ∧ (comma = [','] ∨ comma = []) := by
      rcases optional with ⟨rfl, rfl⟩ | ⟨rfl, rfl⟩
      · exact ⟨rfl, .inl rfl⟩
      · exact ⟨rfl, .inr rfl⟩
    refine ⟨start, gap, name, gap₁, gap₂, digits, gap₃ ++ (comma ++ gap₄), ?_, spaces, named,
      spaces₁, spaces₂, some_digit, decimal,
      ⟨gap₃, comma, gap₄, rfl, spaces₃, none_more.2, spaces₄, stop⟩, ?_⟩
    · rw [show "=".toList = ['='] from rfl]
      simp
    · simp [none_more.1]
  · rintro ⟨start, gap, name, gap₁, gap₂, digits, _, rfl, spaces, named, spaces₁, spaces₂,
      some_digit, decimal, ⟨gap₃, comma, gap₄, rfl, spaces₃, comma_or, spaces₄, stop⟩, rfl⟩
    refine ⟨[], _, [], _, rfl, rfl, ⟨rfl, rfl, start⟩, gap, _, [], _, rfl, rfl, ⟨spaces, rfl⟩,
      name, _, [name], _, rfl, rfl, ⟨[], rfl, named, rfl⟩, gap₁, _, [], _, rfl, rfl,
      ⟨spaces₁, rfl⟩, ['='], _, [], _, rfl, rfl, ⟨rfl, rfl⟩, gap₂, _, [], _, rfl, rfl,
      ⟨spaces₂, rfl⟩, digits, _, [digits], [], rfl, rfl, ⟨[], rfl, some_digit, decimal, rfl⟩,
      gap₃, _, [], [], rfl, rfl, ⟨spaces₃, rfl⟩, comma, gap₄, [], [], rfl, rfl, ?_,
      gap₄, [], [], [], by simp, rfl, ⟨spaces₄, rfl⟩, rfl, rfl, stop⟩
    rcases comma_or with rfl | rfl
    · exact .inl ⟨rfl, rfl⟩
    · exact .inr ⟨rfl, rfl⟩

theorem entries_stop {rest : Text} (stop : rest.head? = none ∨ rest.head? = some '\n')
    (b c : Bool) : entries u b (lex u.toAlphabet rest) = entries u c (lex u.toAlphabet rest) := by
  cases rest with
  | nil => rfl
  | cons d rest =>
      rcases stop with stop | stop
      · cases stop
      · cases stop
        simp

theorem head_stop {rest : Text} (stop : rest.head? = none ∨ rest.head? = some '\n') :
    (lex u.toAlphabet rest).head?.all (· = .newline) = true := by
  cases rest with
  | nil => rfl
  | cons d rest =>
      rcases stop with stop | stop
      · cases stop
      · cases stop
        simp

theorem head_lines {row : List Lexeme} (n : Nat) (stops : row.head?.all (· = .newline) = true) :
    (List.replicate n Lexeme.newline ++ row).head?.all (· = .newline) = true := by
  cases n with
  | zero => simpa using stops
  | succ n => simp [List.replicate_succ]

theorem endsLine_head {row : List Lexeme} (stops : row.head?.all (· = .newline) = true) :
    endsLine row = true := by
  cases row with
  | nil => rfl
  | cons token row =>
      cases token with
      | newline => rfl
      | word letters => simp at stops
      | sign c => simp at stops

theorem comma_sign : u.isWord ',' = false ∧ u.isSpace ',' = false :=
  sign_ascii u (by decide) (by decide) (by decide)

theorem lex_closes {close rest : Text} (closes : Closes u close rest) :
    Ends u.toAlphabet (close ++ rest) ∧ endsLine (lex u.toAlphabet (close ++ rest)) = true ∧
      ∀ b c, entries u b (lex u.toAlphabet (close ++ rest)) =
        entries u c (lex u.toAlphabet rest) := by
  obtain ⟨gap, comma, gap', rfl, spaces, comma_or, spaces', stop⟩ := closes
  have ends_rest : Ends u.toAlphabet rest := by
    intro c first
    rcases stop with stop | stop
    · rw [stop] at first
      cases first
    · rw [stop] at first
      cases first
      exact newline_word u.toAlphabet
  obtain ⟨n, -, row⟩ := lex_spaces u.toAlphabet spaces (comma ++ (gap' ++ rest))
  obtain ⟨m, -, row'⟩ := lex_spaces u.toAlphabet spaces' rest
  have stops := head_lines m (head_stop u stop)
  rw [List.append_assoc, List.append_assoc, row]
  rcases comma_or with rfl | rfl
  · rw [List.singleton_append, lex_sign u.toAlphabet (comma_sign u).1 (comma_sign u).2, row']
    refine ⟨Ends.spaces _ spaces (Ends.cons _ (comma_sign u).1 _), ?_, fun b c => ?_⟩
    · cases n with
      | zero => simpa [endsLine] using stops
      | succ n => rfl
    · rw [entries_lines, entries_sign, entries_lines]
      exact entries_stop u stop _ _
  · rw [List.nil_append, row']
    refine ⟨Ends.spaces _ spaces (Ends.spaces _ spaces' ends_rest), ?_, fun b c => ?_⟩
    · exact endsLine_head (head_lines n stops)
    · rw [entries_lines, entries_lines]
      exact entries_stop u stop _ _

theorem decimal_ident {digits : Text} (nonempty : digits ≠ [])
    (decimal : ∀ c ∈ digits, u.isDecimal c = true) : isIdent u digits = false := by
  cases digits with
  | nil => rfl
  | cons c digits =>
      have first : isIdentStart c = false := by
        by_contra start
        obtain ⟨ascii, no_digit, -⟩ := identStart_ascii (by simpa using start)
        have digit := decimal c List.mem_cons_self
        rw [u.ascii_decimal c ascii, no_digit] at digit
        cases digit
      simp [isIdent, first]

theorem equals_sign : u.isWord '=' = false ∧ u.isSpace '=' = false :=
  sign_ascii u (by decide) (by decide) (by decide)

theorem entryAt_number {digits : Text} (nonempty : digits ≠ [])
    (decimal : ∀ c ∈ digits, u.isDecimal c = true) (row : List Lexeme) :
    entryAt u (.word digits :: row) = none := by
  unfold entryAt
  dsimp only
  split
  · split
    · simp [decimal_ident u nonempty decimal]
    · rfl
  · rfl

theorem entries_entry {name digits : Text} {n m : Nat} {row : List Lexeme}
    (named : isIdent u name = true) (nonempty : digits ≠ [])
    (decimal : ∀ c ∈ digits, u.isDecimal c = true) (stops : endsLine row = true) :
    entries u true (.word name :: (List.replicate n .newline ++
        .sign '=' :: (List.replicate m .newline ++ .word digits :: row))) =
      (name, digits) :: entries u false row := by
  have here : entryAt u (.word name :: (List.replicate n .newline ++
      .sign '=' :: (List.replicate m .newline ++ .word digits :: row))) = some (name, digits) := by
    simp only [entryAt, skipLines_lines _ (.sign '=') _ (by simp),
      skipLines_lines _ (.word digits) _ (by simp)]
    rw [if_pos]
    simp only [named, stops, Bool.and_eq_true, decide_eq_true_eq, and_true, true_and]
    exact List.all_eq_true.mpr decimal
  rw [entries_start, here, entries_lines, entries_sign, entries_lines, entries,
    entryAt_number u nonempty decimal]
  simp

def entriesFrom (before : Option Char) (text : Text) : List (List Text) :=
  (entries u (before = none ∨ before = some '\n')
    (lex u.toAlphabet (wordless u.toAlphabet before text))).map fun entry => [entry.1, entry.2]

theorem skipLines_inv {row later : List Lexeme} (rest : skipLines row = later) :
    ∃ n, row = List.replicate n .newline ++ later := by
  induction row generalizing later with
  | nil => exact ⟨0, by simpa [skipLines] using rest⟩
  | cons token row ih =>
      by_cases line : token = .newline
      · obtain ⟨n, same⟩ := ih (show skipLines row = later by simpa [skipLines, line] using rest)
        exact ⟨n + 1, by rw [line, same, List.replicate_succ, List.cons_append]⟩
      · exact ⟨0, by simpa [skipLines, line] using rest⟩

theorem lex_lines_inv {text : Text} {n : Nat} {later : List Lexeme}
    (row : lex u.toAlphabet text = List.replicate n .newline ++ later) :
    ∃ gap rest, text = gap ++ rest ∧ (∀ c ∈ gap, u.isSpace c = true) ∧
      lex u.toAlphabet rest = later := by
  induction n generalizing text with
  | zero => exact ⟨[], text, rfl, by simp, by simpa using row⟩
  | succ n ih =>
      rw [List.replicate_succ, List.cons_append] at row
      obtain ⟨gap, c, rest, rfl, spaces, -, glyph_c, behind⟩ :=
        lex_glyph_inv u.toAlphabet row (by simp)
      obtain ⟨gap', rest', rfl, spaces', later⟩ := ih behind
      have space : u.isSpace c = true := by
        unfold glyph at glyph_c
        split at glyph_c
        case isTrue line => rw [line, u.newline_space]
        case isFalse =>
          split at glyph_c
          case isTrue blank => exact blank
          case isFalse => simp at glyph_c
      refine ⟨gap ++ c :: gap', rest', by simp, ?_, later⟩
      intro d listed
      rcases List.mem_append.mp listed with front | back
      · exact spaces d front
      · rcases List.mem_cons.mp back with rfl | back
        · exact space
        · exact spaces' d back

theorem glyph_sign {c d : Char} (row : glyph u.toAlphabet c = [.sign d]) :
    c = d ∧ u.isSpace c = false := by
  unfold glyph at row
  split at row
  · simp at row
  · split at row
    case isTrue => simp at row
    case isFalse ink => simpa [ink] using row

theorem glyph_newline {c : Char} (row : glyph u.toAlphabet c = [.newline]) : c = '\n' := by
  unfold glyph at row
  split at row
  case isTrue line => exact line
  case isFalse =>
    split at row
    · simp at row
    · simp at row

theorem closes_of_row {text : Text} {row : List Lexeme} (is : lex u.toAlphabet text = row)
    (stops : row.head?.all (· = .newline) = true) :
    ∃ gap rest, text = gap ++ rest ∧ (∀ c ∈ gap, u.isSpace c = true) ∧
      (rest.head? = none ∨ rest.head? = some '\n') := by
  cases row with
  | nil => exact ⟨text, [], by simp, lex_nil_inv u.toAlphabet is, .inl rfl⟩
  | cons token row =>
      have line : token = .newline := by simpa using stops
      subst line
      obtain ⟨gap, c, rest, rfl, spaces, -, one, -⟩ := lex_glyph_inv u.toAlphabet is (by simp)
      rw [glyph_newline u one]
      exact ⟨gap, '\n' :: rest, rfl, spaces, .inr rfl⟩

theorem closes_of_endsLine {text : Text} {row : List Lexeme} (is : lex u.toAlphabet text = row)
    (stops : endsLine row = true) :
    ∃ close rest, text = close ++ rest ∧ Closes u close rest := by
  match row, stops with
  | [], _ =>
      obtain ⟨gap, rest, rfl, spaces, stop⟩ := closes_of_row u is rfl
      exact ⟨gap, rest, rfl, gap, [], [], by simp, spaces, .inr rfl, by simp, stop⟩
  | .newline :: _, _ =>
      obtain ⟨gap, rest, rfl, spaces, stop⟩ := closes_of_row u is (by simp)
      exact ⟨gap, rest, rfl, gap, [], [], by simp, spaces, .inr rfl, by simp, stop⟩
  | .sign c :: row, stops =>
      simp only [endsLine, Bool.and_eq_true, decide_eq_true_eq] at stops
      obtain ⟨gap, d, rest, rfl, spaces, -, one, later⟩ :=
        lex_glyph_inv u.toAlphabet is (by simp)
      obtain ⟨rfl, -⟩ := glyph_sign u one
      obtain ⟨gap', rest', rfl, spaces', stop⟩ := closes_of_row u later stops.2
      exact ⟨gap ++ d :: gap', rest', by simp, gap, [d], gap', by simp, spaces,
        .inl (by rw [stops.1]), spaces', stop⟩

theorem takes_entryAt (before : Option Char) (text : Text) (name digits : Text)
    (starts : before = none ∨ before = some '\n')
    (front : entryAt u (lex u.toAlphabet text) = some (name, digits)) :
    ∃ run rest, text = run ++ rest ∧
      (enumEntryRe u).Takes before run rest [name, digits] := by
  unfold entryAt at front
  split at front
  case h_2 => cases front
  case h_1 name' row is =>
    split at front
    case h_2 => cases front
    case h_1 c row₁ is₁ =>
      split at front
      case h_2 => cases front
      case h_1 digits' row₂ is₂ =>
        simp only [Option.ite_none_right_eq_some, Bool.and_eq_true, decide_eq_true_eq,
          Option.some.injEq, Prod.mk.injEq] at front
        obtain ⟨⟨⟨⟨named, rfl⟩, decimal⟩, stops⟩, rfl, rfl⟩ := front
        obtain ⟨gap, rest, rfl, spaces, -, -, -, behind⟩ := lex_word_inv u.toAlphabet is
        obtain ⟨n, rfl⟩ := skipLines_inv is₁
        obtain ⟨gap₁, rest₁, rfl, spaces₁, sign⟩ := lex_lines_inv u behind
        obtain ⟨gap₁', e, rest₂, rfl, spaces₁', -, one, behind₂⟩ :=
          lex_glyph_inv u.toAlphabet sign (by simp)
        obtain ⟨rfl, -⟩ := glyph_sign u one
        obtain ⟨m, rfl⟩ := skipLines_inv is₂
        obtain ⟨gap₂, rest₃, rfl, spaces₂, number⟩ := lex_lines_inv u behind₂
        obtain ⟨gap₂', rest₄, rfl, spaces₂', some_digit, -, -, behind₄⟩ :=
          lex_word_inv u.toAlphabet number
        obtain ⟨close, rest₅, rfl, closes⟩ := closes_of_endsLine u behind₄ stops
        have both {x y : Text} (xs : ∀ c ∈ x, u.isSpace c = true)
            (ys : ∀ c ∈ y, u.isSpace c = true) : ∀ c ∈ x ++ y, u.isSpace c = true := by
          intro c listed
          exact (List.mem_append.mp listed).elim (xs c) (ys c)
        refine ⟨gap ++ (name' ++ ((gap₁ ++ gap₁') ++ '=' :: ((gap₂ ++ gap₂') ++
          (digits' ++ close)))), rest₅, by simp, (takes_entry u _ _ _ _).mpr ⟨starts, gap, name',
          gap₁ ++ gap₁', gap₂ ++ gap₂', digits', close, rfl, spaces, named, both spaces₁ spaces₁',
          both spaces₂ spaces₂', some_digit, List.all_eq_true.mp decimal, closes, rfl⟩⟩

theorem wordless_outside (a : Alphabet) {before : Option Char} (text : Text)
    (outside : before.any a.isWord = false) : wordless a before text = text := by
  simp [wordless, outside]

theorem starts_outside {before : Option Char} (starts : before = none ∨ before = some '\n') :
    before.any u.isWord = false := by
  rcases starts with rfl | rfl
  · rfl
  · exact newline_word u.toAlphabet

theorem finds_entries : (enumEntryRe u).Finds (entriesFrom u) where
  consumes before rest groups taken := by
    obtain ⟨-, gap, name, gap₁, gap₂, digits, close, empty, -⟩ := (takes_entry u _ _ _ _).mp taken
    simp at empty
  nil before := by simp [entriesFrom, wordless, entries]
  pass before c text nothing := by
    -- Where no entry begins, the start of a line makes no difference.
    have nowhere (starts : before = none ∨ before = some '\n') :
        entryAt u (lex u.toAlphabet (c :: text)) = none := by
      by_contra somewhere
      obtain ⟨⟨name, digits⟩, front⟩ := Option.ne_none_iff_exists'.mp somewhere
      obtain ⟨run, rest, split, taken⟩ := takes_entryAt u before _ name digits starts front
      exact nothing run rest _ split taken
    unfold entriesFrom
    congr 1
    by_cases fits : u.isWord c = true
    · have inside : ¬ (some c = none ∨ some c = some '\n') := by
        rintro (same | same)
        · cases same
        · cases same
          rw [newline_word u.toAlphabet] at fits
          cases fits
      rw [decide_eq_false inside]
      cases began : before.any u.isWord with
      | true =>
          have no_start : ¬ (before = none ∨ before = some '\n') := fun starts => by
            rw [starts_outside u starts] at began
            cases began
          rw [decide_eq_false no_start, wordless_next _ before c text ⟨began, fits⟩]
      | false =>
          have next : wordless u.toAlphabet (some c) text = (c :: text).dropWhile u.isWord := by
            simp [wordless, fits]
          have row := lex_takeWhile u.toAlphabet fits text
          rw [wordless_outside _ _ began, next, row]
          by_cases starts : before = none ∨ before = some '\n'
          · have here := nowhere starts
            rw [row] at here
            rw [decide_eq_true starts, entries_start, here]
            rfl
          · rw [decide_eq_false starts, entries_word]
    · have outside : u.isWord c = false := by simpa using fits
      have first : wordless u.toAlphabet before (c :: text) = c :: text := by
        simp [wordless, outside]
      have next : wordless u.toAlphabet (some c) text = text := by simp [wordless, outside]
      rw [first, next]
      by_cases line : c = '\n'
      · subst line
        simp
      · have inside : ¬ (some c = none ∨ some c = some '\n') := by simpa using line
        rw [decide_eq_false inside]
        cases space : u.isSpace c with
        | false => rw [lex_sign u.toAlphabet outside space, entries_sign]
        | true =>
            have blank : lex u.toAlphabet (c :: text) = lex u.toAlphabet text := by
              rw [lex_other u.toAlphabet outside]
              simp [glyph, line, space]
            rw [blank]
            by_cases starts : before = none ∨ before = some '\n'
            · have here := nowhere starts
              rw [blank] at here
              rw [decide_eq_true starts]
              generalize lex u.toAlphabet text = row at here
              cases row with
              | nil => rfl
              | cons token row => simp only [entries, here, ite_self]
            · rw [decide_eq_false starts]
  hit before run rest groups taken := by
    obtain ⟨starts, gap, name, gap₁, gap₂, digits, close, rfl, spaces, named, spaces₁, spaces₂,
      some_digit, decimal, closes, rfl⟩ := (takes_entry u _ _ _ _).mp taken
    obtain ⟨ends_close, stops, later⟩ := lex_closes u closes
    obtain ⟨some_name, name_word⟩ := isIdent_word u named
    have digit_word (c : Char) (listed : c ∈ digits) := u.decimal_word c (decimal c listed)
    obtain ⟨k, -, row⟩ := lex_spaces u.toAlphabet spaces
      (name ++ (gap₁ ++ '=' :: (gap₂ ++ (digits ++ (close ++ rest)))))
    obtain ⟨n, -, row₁⟩ := lex_spaces u.toAlphabet spaces₁
      ('=' :: (gap₂ ++ (digits ++ (close ++ rest))))
    obtain ⟨m, -, row₂⟩ := lex_spaces u.toAlphabet spaces₂ (digits ++ (close ++ rest))
    have ends_name : Ends u.toAlphabet (gap₁ ++ '=' :: (gap₂ ++ (digits ++ (close ++ rest)))) :=
      Ends.spaces _ spaces₁ (Ends.cons _ (equals_sign u).1 _)
    rw [lex_word _ some_name name_word ends_name, row₁,
      lex_sign u.toAlphabet (equals_sign u).1 (equals_sign u).2, row₂,
      lex_word _ some_digit digit_word ends_close] at row
    have whole : gap ++ (name ++ (gap₁ ++ '=' :: (gap₂ ++ (digits ++ close)))) ++ rest =
        gap ++ (name ++ (gap₁ ++ '=' :: (gap₂ ++ (digits ++ (close ++ rest))))) := by simp
    obtain ⟨-, -, -, -, -, -, -, stop⟩ := closes
    have next (before : Option Char) : wordless u.toAlphabet before rest = rest := by
      unfold wordless
      split
      · rcases stop with stop | stop
        · rw [List.head?_eq_none_iff.mp stop]
          rfl
        · obtain ⟨more, rfl⟩ := List.head?_eq_some_iff.mp stop
          rw [List.dropWhile_cons_of_neg (by simp [newline_word u.toAlphabet])]
      · rfl
    unfold entriesFrom
    rw [whole, wordless_outside _ _ (starts_outside u starts), decide_eq_true starts, row, next,
      entries_lines, Bool.true_or, entries_entry u named some_digit decimal stops, List.map_cons,
      later]

theorem entryAt_behind {front : List Lexeme} {entry : Text × Text}
    (lines : front.getLast? = some .newline) (is : entryAt u front = some entry)
    (row : List Lexeme) : entryAt u (front ++ row) = some entry := by
  unfold entryAt at is
  split at is
  case h_2 => cases is
  case h_1 name row₁ =>
    split at is
    case h_2 => cases is
    case h_1 c row₂ is₁ =>
      split at is
      case h_2 => cases is
      case h_1 digits row₃ is₂ =>
        obtain ⟨n, rfl⟩ := skipLines_inv is₁
        obtain ⟨m, rfl⟩ := skipLines_inv is₂
        have last : (Lexeme.word digits :: row₃).getLast? = some .newline := by
          simpa [List.getLast?_append, List.getLast?_cons] using lines
        have stops : endsLine row₃ = true → endsLine (row₃ ++ row) = true := by
          intro stops
          rcases row₃ with _ | ⟨token, _ | ⟨next, row₃⟩⟩
          · cases last
          · cases last
            rfl
          · cases token with
            | word letters => cases stops
            | sign d => exact stops
            | newline => rfl
        simp only [Option.ite_none_right_eq_some, Bool.and_eq_true] at is
        obtain ⟨⟨⟨named, number⟩, stop⟩, same⟩ := is
        have whole : Lexeme.word name :: (List.replicate n .newline ++
            .sign c :: (List.replicate m .newline ++ .word digits :: row₃)) ++ row =
            .word name :: (List.replicate n .newline ++
              .sign c :: (List.replicate m .newline ++ .word digits :: (row₃ ++ row))) := by simp
        rw [whole, ← same]
        simp only [entryAt, skipLines_lines _ (.sign c) _ (by simp),
          skipLines_lines _ (.word digits) _ (by simp)]
        rw [if_pos]
        simp only [Bool.and_eq_true]
        exact ⟨⟨named, number⟩, stops stop⟩

theorem entries_inside (starts : Bool) (front lines row : List Lexeme)
    (ends : lines = [] ∨ lines.getLast? = some .newline) :
    entries u true lines ⊆ entries u starts (front ++ .newline :: (lines ++ row)) := by
  have behind (starts : Bool) : entries u starts lines ⊆ entries u starts (lines ++ row) := by
    induction lines generalizing starts with
    | nil => simp [entries]
    | cons token lines ih =>
        have last : (token :: lines).getLast? = some .newline :=
          ends.resolve_left (by simp)
        have later : lines = [] ∨ lines.getLast? = some .newline := by
          cases lines with
          | nil => exact .inl rfl
          | cons next lines => exact .inr (by simpa using last)
        intro entry listed
        rw [entries, List.mem_append] at listed
        rw [List.cons_append, entries, List.mem_append]
        refine listed.imp (fun here => ?_) fun further => ih later _ further
        cases starts with
        | false => cases here
        | true =>
            have is : entryAt u (token :: lines) = some entry := by simpa using here
            have same := entryAt_behind u last is row
            rw [List.cons_append] at same
            simp [same]
  induction front generalizing starts with
  | nil => simpa using behind true
  | cons token front ih =>
      intro entry listed
      rw [List.cons_append, entries, List.mem_append]
      exact .inr (ih _ listed)

theorem entries_named (starts : Bool) (row : List Lexeme) :
    ∀ entry ∈ entries u starts row, isIdent u entry.1 = true := by
  induction row generalizing starts with
  | nil => simp [entries]
  | cons token row ih =>
      intro entry listed
      rw [entries, List.mem_append] at listed
      rcases listed with here | later
      · have is : entryAt u (token :: row) = some entry := by
          cases starts with
          | false => cases here
          | true => simpa using here
        unfold entryAt at is
        split at is
        case h_2 => cases is
        case h_1 =>
          split at is
          case h_2 => cases is
          case h_1 =>
            split at is
            case h_2 => cases is
            case h_1 =>
              simp only [Option.ite_none_right_eq_some, Bool.and_eq_true] at is
              obtain ⟨⟨⟨⟨named, -⟩, -⟩, -⟩, same⟩ := is
              cases same
              exact named
      · exact ih _ entry later

def idsOf (row : List Lexeme) : List (Text × Nat) :=
  (entries u true row).map fun entry => (entry.1, intOf u entry.2)

theorem enumEntries_eq (text : Text) : enumEntries u text = idsOf u (lex u.toAlphabet text) := by
  have found := (finds_entries u).finditer text
  have first : wordless u.toAlphabet none text = text := rfl
  rw [enumEntries, found, entriesFrom, first, List.filterMap_map, idsOf]
  rw [← List.filterMap_eq_map]
  rfl

end Entries

end GenNetworkFunc

end ZeldaServer
