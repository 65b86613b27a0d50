import ZeldaServer.Protocol.Blocks
import ZeldaServer.Protocol.Scans

/-! What the merged blocks hold: the enumerators, the declared functions and the case labels of
the new lines, and all that the old block held. -/

namespace ZeldaServer

namespace GenNetworkFunc

open Lexemes
open Patterns (Text)

variable (u : Unicode)

theorem isBlank_space {c : Char} (blank : isBlank c = true) : u.isSpace c = true ∧ c ≠ '\n' := by
  rw [isBlank, Bool.or_eq_true, decide_eq_true_eq, decide_eq_true_eq] at blank
  rcases blank with rfl | rfl
  · exact ⟨by rw [u.ascii_space _ (by decide)]; decide, by decide⟩
  · exact ⟨by rw [u.ascii_space _ (by decide)]; decide, by decide⟩

theorem lex_blanks {gap : Text} (blank : ∀ c ∈ gap, isBlank c = true) (rest : Text) :
    lex u.toAlphabet (gap ++ rest) = lex u.toAlphabet rest := by
  induction gap with
  | nil => rfl
  | cons c gap ih =>
      obtain ⟨first, later⟩ := List.forall_mem_cons.mp blank
      obtain ⟨space, no_newline⟩ := isBlank_space u first
      rw [List.cons_append, lex_other _ (u.apart c space), ih later]
      simp [glyph, no_newline, space]

theorem lex_append_blanks (front : Text) {gap : Text} (blank : ∀ c ∈ gap, isBlank c = true) :
    lex u.toAlphabet (front ++ gap) = lex u.toAlphabet front := by
  have ends : Ends u.toAlphabet (gap ++ []) :=
    Ends.spaces _ (fun c listed => (isBlank_space u (blank c listed)).1) (Ends.nil _)
  rw [List.append_nil] at ends
  have alone := lex_blanks u blank []
  rw [List.append_nil] at alone
  rw [lex_append _ front ends, alone, lex_nil, List.append_nil]

theorem lex_block (b : Block) :
    lex u.toAlphabet b.text = .newline :: lex u.toAlphabet b.body := by
  rw [Block.text, lex_blanks u b.blanks_blank, lex_newline, lex_append_blanks u _ b.indent_blank]

theorem lex_splice (front newBlock : Text) (b : Block) :
    lex u.toAlphabet (b.splice u front newBlock).text =
      .newline :: (lex u.toAlphabet (rstrip u newBlock) ++
        .newline :: .newline :: lex u.toAlphabet b.body) := by
  rw [lex_block]
  congr 1
  change lex u.toAlphabet (rstrip u newBlock ++ '\n' :: (b.blanks ++ '\n' :: b.body)) = _
  rw [lex_append_newline, lex_blanks u b.blanks_blank, lex_newline]

theorem visible_of_lex {text : Text} {row : List Lexeme} (is : lex u.toAlphabet text = row) :
    visible u.toAlphabet text = row.filter (· ≠ .newline) := by
  rw [visible, is]

theorem visible_block (b : Block) :
    visible u.toAlphabet b.text = visible u.toAlphabet b.body := by
  rw [visible_of_lex u (lex_block u b)]
  rfl

theorem visible_rdropWhile {kind : Char → Bool} (space : ∀ c, kind c = true → u.isSpace c = true)
    (text : Text) : visible u.toAlphabet (text.rdropWhile kind) = visible u.toAlphabet text := by
  have split : text.rdropWhile kind ++ text.rtakeWhile kind = text := by
    rw [List.rdropWhile, List.rtakeWhile, ← List.reverse_append, List.takeWhile_append_dropWhile,
      List.reverse_reverse]
  have spaces : ∀ c ∈ text.rtakeWhile kind, u.isSpace c = true :=
    fun c listed => space c (List.mem_rtakeWhile_imp listed)
  have ends : Ends u.toAlphabet (text.rtakeWhile kind ++ []) :=
    Ends.spaces _ spaces (Ends.nil _)
  have alone := visible_spaces u.toAlphabet spaces []
  rw [List.append_nil] at ends alone
  conv_rhs => rw [← split]
  rw [visible_append _ _ ends, alone, visible_nil, List.append_nil]

theorem visible_rstrip (text : Text) :
    visible u.toAlphabet (rstrip u text) = visible u.toAlphabet text :=
  visible_rdropWhile u (fun _ space => space) text

theorem visible_splice (front newBlock : Text) (b : Block) :
    visible u.toAlphabet (b.splice u front newBlock).text =
      visible u.toAlphabet newBlock ++ visible u.toAlphabet b.text := by
  rw [visible_of_lex u (lex_splice u front newBlock b), visible_block, ← visible_rstrip u newBlock]
  simp [visible]

theorem join_cons (sep part : Text) {parts : List Text} (nonempty : parts ≠ []) :
    join sep (part :: parts) = part ++ (sep ++ join sep parts) := by
  cases parts with
  | nil => exact absurd rfl nonempty
  | cons next parts => rfl

theorem lex_join {parts : List Text} (nonempty : parts ≠ []) (rest : Text) :
    lex u.toAlphabet (join newline parts ++ '\n' :: rest) =
      (parts.flatMap fun part => lex u.toAlphabet part ++ [.newline]) ++ lex u.toAlphabet rest := by
  induction parts with
  | nil => exact absurd rfl nonempty
  | cons part parts ih =>
      cases parts with
      | nil => simp [join, lex_append_newline]
      | cons next parts =>
          have whole : join newline (part :: next :: parts) ++ '\n' :: rest =
              part ++ '\n' :: (join newline (next :: parts) ++ '\n' :: rest) := by
            simp [join, newline]
          rw [whole, lex_append_newline, ih (by simp), List.flatMap_cons]
          simp

theorem visible_join (parts : List Text) :
    visible u.toAlphabet (join newline parts) = parts.flatMap (visible u.toAlphabet) := by
  induction parts with
  | nil => rfl
  | cons part parts ih =>
      cases parts with
      | nil => simp [join]
      | cons next parts =>
          have row := lex_append_newline u.toAlphabet part (join newline (next :: parts))
          rw [List.flatMap_cons, ← ih]
          change visible u.toAlphabet (part ++ ('\n' :: join newline (next :: parts))) = _
          rw [visible_of_lex u row]
          simp [visible]

theorem visible_splitlines (text : Text) :
    (splitlines text).flatMap (visible u.toAlphabet) = visible u.toAlphabet text := by
  have all (line : Text) : (splitFrom line text).flatMap (visible u.toAlphabet) =
      visible u.toAlphabet (line ++ text) := by
    induction line, text using splitFrom.induct with
    | case1 => simp [splitFrom]
    | case2 line some_char => simp [splitFrom, some_char]
    | case3 line text ih =>
        have space : u.isSpace '\r' = true := u.break_space _ (by decide)
        have ends := Ends.cons u.toAlphabet (u.apart _ space) ('\n' :: text)
        rw [splitFrom, List.flatMap_cons, ih, visible_append _ line ends,
          visible_space _ space, visible_space _ u.newline_space]
        rfl
    | case4 line c text no_pair breaks ih =>
        have space := u.break_space c breaks
        have ends := Ends.cons u.toAlphabet (u.apart _ space) text
        rw [splitFrom, if_pos breaks, List.flatMap_cons, ih, visible_append _ line ends,
          visible_space _ space]
        · rfl
        · exact no_pair
    | case5 line c text no_pair goes_on ih =>
        rw [splitFrom, if_neg goes_on, ih, List.append_assoc]
        · rfl
        · exact no_pair
  exact all []

theorem splitFrom_within (line text : Text) :
    ∀ part ∈ splitFrom line text, part <:+: line ++ text := by
  induction line, text using splitFrom.induct with
  | case1 => simp [splitFrom]
  | case2 line some_char => simp [splitFrom, some_char]
  | case3 line text ih =>
      intro part listed
      rw [splitFrom, List.mem_cons] at listed
      rcases listed with rfl | later
      · exact ⟨[], '\r' :: '\n' :: text, by simp⟩
      · exact (ih part later).trans ⟨line ++ ['\r', '\n'], [], by simp⟩
  | case4 line c text no_pair breaks ih =>
      intro part listed
      rw [splitFrom, if_pos breaks, List.mem_cons] at listed
      · rcases listed with rfl | later
        · exact ⟨[], c :: text, by simp⟩
        · exact (ih part later).trans ⟨line ++ [c], [], by simp⟩
      · exact no_pair
  | case5 line c text no_pair goes_on ih =>
      intro part listed
      rw [splitFrom, if_neg goes_on] at listed
      · simpa using ih part listed
      · exact no_pair

theorem detectIndent_spaces (block : Text) :
    ∀ c ∈ detectIndentFromBlock u block tab, u.isSpace c = true := by
  unfold detectIndentFromBlock
  split
  · exact fun c listed => List.mem_takeWhile_imp listed
  · intro c listed
    rw [List.mem_singleton.mp listed, u.ascii_space _ (by decide)]
    decide

theorem digits_decimal (n : Nat) : ∀ c ∈ Nat.toDigits 10 n, u.isDecimal c = true := by
  intro c listed
  have digit := Nat.isDigit_of_mem_toDigits (by decide) (by decide) listed
  have small : c.toNat < 128 := by
    have value : c.val.toNat = c.toNat := rfl
    simp only [Char.isDigit, Bool.and_eq_true, decide_eq_true_eq, UInt32.le_iff_toNat_le, ge_iff_le,
      value] at digit
    have nine : c.toNat ≤ 57 := digit.2
    omega
  rw [u.ascii_decimal c small, digit]

theorem intOf_toDigits (n : Nat) : intOf u (Nat.toDigits 10 n) = n := by
  have values : intOf u (Nat.toDigits 10 n) = Nat.ofDigitChars 10 (Nat.toDigits 10 n) 0 := by
    rw [Nat.ofDigitChars_eq_foldl, intOf]
    apply List.foldl_ext
    intro sum c listed
    rw [u.ascii_value c (Nat.isDigit_of_mem_toDigits (by decide) (by decide) listed)]
  rw [values, Nat.ofDigitChars_ten_toDigits]

theorem blank_space : u.isWord ' ' = false ∧ u.isSpace ' ' = true := by
  have space : u.isSpace ' ' = true := by
    rw [u.ascii_space _ (by decide)]
    decide
  exact ⟨u.apart _ space, space⟩

theorem lex_blank (rest : Text) : lex u.toAlphabet (' ' :: rest) = lex u.toAlphabet rest :=
  @lex_blanks u [' '] (by simp [isBlank]) rest

theorem lex_enumLine {indent name : Text} (spaces : ∀ c ∈ indent, u.isSpace c = true)
    (named : isIdent u name = true) (id : Nat) :
    ∃ n, lex u.toAlphabet (enumLine indent name id) =
      List.replicate n .newline ++
        [.word name, .sign '=', .word (Nat.toDigits 10 id), .sign ','] := by
  obtain ⟨n, -, row⟩ := lex_spaces u.toAlphabet spaces
    (name ++ (' ' :: '=' :: ' ' :: (Nat.toDigits 10 id ++ [' ', ','])))
  obtain ⟨some_name, name_word⟩ := isIdent_word u named
  have digit_word (c : Char) (listed : c ∈ Nat.toDigits 10 id) :=
    u.decimal_word c (digits_decimal u id c listed)
  refine ⟨n, row.trans ?_⟩
  rw [lex_word _ some_name name_word (Ends.cons _ (blank_space u).1 _), lex_blank,
    lex_sign u.toAlphabet (equals_sign u).1 (equals_sign u).2, lex_blank,
    lex_word _ Nat.toDigits_ne_nil digit_word (Ends.cons _ (blank_space u).1 _), lex_blank,
    lex_sign u.toAlphabet (comma_sign u).1 (comma_sign u).2]
  rfl

theorem entries_enumLines {indent : Text} (spaces : ∀ c ∈ indent, u.isSpace c = true)
    (ids : Text → Nat) (last : Option Text) {ordered : List Text}
    (named : ∀ name ∈ ordered, isIdent u name = true) (row : List Lexeme) :
    entries u true (((enumLines indent ids last ordered).flatMap fun line =>
        lex u.toAlphabet line ++ [.newline]) ++ row) =
      ordered.map (fun name => (name, Nat.toDigits 10 (ids name))) ++ entries u true row := by
  induction ordered generalizing last with
  | nil => rfl
  | cons name ordered ih =>
      obtain ⟨first, later⟩ := List.forall_mem_cons.mp named
      obtain ⟨n, line⟩ := lex_enumLine u spaces first (ids name)
      have one (rest : List Lexeme) : entries u true ((List.replicate n .newline ++
          [.word name, .sign '=', .word (Nat.toDigits 10 (ids name)), .sign ',']) ++
            .newline :: rest) =
          (name, Nat.toDigits 10 (ids name)) :: entries u true rest := by
        have here := @entries_entry u name _ 0 0 (.sign ',' :: .newline :: rest) first
          Nat.toDigits_ne_nil (digits_decimal u (ids name)) rfl
        rw [List.append_assoc, entries_lines, Bool.true_or]
        simpa using here
      have behind := ih (some (prefixOf name)) later
      have lines : ((enumLines indent ids last (name :: ordered)).flatMap fun line =>
          lex u.toAlphabet line ++ [.newline]) ++ row =
          (if last.any (· ≠ prefixOf name) then [.newline] else []) ++
            (lex u.toAlphabet (enumLine indent name (ids name)) ++ .newline ::
              (((enumLines indent ids (some (prefixOf name)) ordered).flatMap fun line =>
                lex u.toAlphabet line ++ [.newline]) ++ row)) := by
        rw [enumLines]
        split <;> simp
      have whole := one (((enumLines indent ids (some (prefixOf name)) ordered).flatMap fun line =>
        lex u.toAlphabet line ++ [.newline]) ++ row)
      rw [lines, line]
      split
      · rw [List.singleton_append, entries_newline, whole, behind]
        rfl
      · rw [List.nil_append, whole, behind]
        rfl

theorem rstrip_enumLines (indent : Text) (ids : Text → Nat) (last : Option Text)
    {ordered : List Text} (nonempty : ordered ≠ []) :
    rstrip u (join newline (enumLines indent ids last ordered)) =
      join newline (enumLines indent ids last ordered) := by
  have ends (front : Text) : rstrip u (front ++ [',']) = front ++ [','] := by
    rw [rstrip, List.rdropWhile_concat_neg]
    simp [(comma_sign u).2]
  have finish (last : Option Text) (ordered : List Text) (nonempty : ordered ≠ []) :
      ∃ front, join newline (enumLines indent ids last ordered) = front ++ [','] := by
    induction ordered generalizing last with
    | nil => exact absurd rfl nonempty
    | cons name ordered ih =>
        have line : enumLine indent name (ids name) =
            (indent ++ (name ++ (" = ".toList ++ (Nat.toDigits 10 (ids name) ++ [' '])))) ++
              [','] := by
          rw [enumLine, show " ,".toList = [' '] ++ [','] from rfl]
          simp
        have tail : ∃ front, join newline (enumLine indent name (ids name) ::
            enumLines indent ids (some (prefixOf name)) ordered) = front ++ [','] := by
          cases ordered with
          | nil => exact ⟨_, line⟩
          | cons next ordered =>
              obtain ⟨front, same⟩ := ih (some (prefixOf name)) (by simp)
              rw [join_cons _ _ (by simp [enumLines]), same]
              exact ⟨_, by rw [← List.append_assoc, ← List.append_assoc]⟩
        obtain ⟨front, same⟩ := tail
        rw [enumLines]
        split
        · exact ⟨newline ++ front, by rw [List.append_assoc, ← same]; rfl⟩
        · exact ⟨front, same⟩
  obtain ⟨front, same⟩ := finish last ordered nonempty
  rw [same, ends]

theorem mergeIds_get (blockIds idMap : Dict Text Nat) (newMsgs : List Text) (name : Text) :
    (mergeIds blockIds idMap newMsgs).get name =
      (blockIds.get name).or (if name ∈ newMsgs then idMap.get name else none) := by
  induction newMsgs generalizing blockIds with
  | nil => simp [mergeIds]
  | cons head tail ih =>
      have unfolded : mergeIds blockIds idMap (head :: tail) =
          mergeIds (mergeId idMap blockIds head) idMap tail := rfl
      rw [unfolded, ih, mergeId]
      cases known : idMap.get head with
      | none =>
          by_cases same : name = head
          · simp [same, known]
          · simp [same]
      | some id =>
          dsimp only
          by_cases present : head ∈ blockIds.keys
          · rw [if_pos present]
            obtain ⟨old, found⟩ := (blockIds.mem_keys head).mp present
            by_cases same : name = head
            · simp [same, found]
            · simp [same]
          · rw [if_neg present, Dict.get_set]
            by_cases same : name = head
            · simp [same, known, (blockIds.get_none head).mpr present]
            · simp [same]

theorem enumEntries_merge (front : Text) (b : Block) (idMap : Dict Text Nat)
    {newMsgs : List Text}
    (named : ∀ name ∈ (mergeIds (extractEnumIdsAnywhere u b.text) idMap newMsgs).keys,
      isIdent u name = true)
    (nonempty : (mergeIds (extractEnumIdsAnywhere u b.text) idMap newMsgs).keys ≠ []) :
    ∃ ordered : List Text,
      ordered.Perm (mergeIds (extractEnumIdsAnywhere u b.text) idMap newMsgs).keys ∧
        enumEntries u (b.splice u front (mergeEnumBlock u b.text idMap newMsgs)).text =
          ordered.map (fun name => (name,
            ((mergeIds (extractEnumIdsAnywhere u b.text) idMap newMsgs).get name).getD 0)) ++
            enumEntries u b.text := by
  have merged : mergeEnumBlock u b.text idMap newMsgs =
      rstrip u (join newline (enumLines (detectIndentFromBlock u b.text tab)
        (fun name => ((mergeIds (extractEnumIdsAnywhere u b.text) idMap newMsgs).get name).getD 0)
        none ((mergeIds (extractEnumIdsAnywhere u b.text) idMap newMsgs).keys.insertionSort
          SortsBefore))) := rfl
  generalize mergeIds (extractEnumIdsAnywhere u b.text) idMap newMsgs = blockIds at *
  have perm := List.perm_insertionSort SortsBefore blockIds.keys
  refine ⟨_, perm, ?_⟩
  generalize blockIds.keys.insertionSort SortsBefore = ordered at *
  have some_name : ordered ≠ [] := by
    rintro rfl
    exact nonempty (List.Perm.nil_eq perm).symm
  have all (name : Text) (listed : name ∈ ordered) : isIdent u name = true :=
    named name (perm.mem_iff.mp listed)
  have spaces := detectIndent_spaces u b.text
  generalize detectIndentFromBlock u b.text tab = indent at *
  have some_line : enumLines indent (fun name => (blockIds.get name).getD 0) none ordered ≠ [] := by
    cases ordered with
    | nil => exact absurd rfl some_name
    | cons name ordered => simp [enumLines]
  rw [rstrip_enumLines u indent _ none some_name] at merged
  have stripped : rstrip u (mergeEnumBlock u b.text idMap newMsgs) =
      mergeEnumBlock u b.text idMap newMsgs := by
    rw [merged, rstrip_enumLines u indent _ none some_name]
  have row := lex_join u some_line ('\n' :: b.body)
  rw [lex_append_newline, lex_newline, ← merged] at row
  rw [enumEntries_eq, enumEntries_eq, idsOf, idsOf, lex_splice, lex_block, entries_newline,
    entries_newline, stripped, row, entries_enumLines u spaces _ none all, entries_newline,
    List.map_append, List.map_map]
  congr 1
  apply List.map_congr_left
  intro name _
  simp [intOf_toDigits]

theorem sign_of_row {c : Char} (letters text : Text)
    (listed : .sign c ∈ lexFrom u.toAlphabet letters text) : c ∈ text := by
  induction text generalizing letters with
  | nil =>
      unfold lexFrom flush at listed
      split at listed <;> simp at listed
  | cons d text ih =>
      unfold lexFrom at listed
      split at listed
      · exact List.mem_cons_of_mem _ (ih _ listed)
      · rcases List.mem_append.mp listed with word | later
        · unfold flush at word
          split at word <;> simp at word
        · rcases List.mem_append.mp later with here | later
          · unfold glyph at here
            split at here
            · simp at here
            · split at here
              · simp at here
              · simp at here
                simp [here]
          · exact List.mem_cons_of_mem _ (ih _ later)

theorem sign_visible {c : Char} {text : Text} (listed : .sign c ∈ visible u.toAlphabet text) :
    c ∈ text := sign_of_row u [] text (List.mem_of_mem_filter listed)

theorem ident_without {name : Text} (named : isIdent u name = true) {c : Char}
    (other : u.isWord c = false) : c ∉ name := by
  intro listed
  rw [(isIdent_word u named).2 c listed] at other
  cases other

theorem parenthesis_sign : u.isWord '(' = false ∧ u.isSpace '(' = false :=
  sign_ascii u (by decide) (by decide) (by decide)

theorem mem_join {c : Char} {sep : Text} {parts : List Text} (listed : c ∈ join sep parts) :
    c ∈ sep ∨ ∃ part ∈ parts, c ∈ part := by
  induction parts with
  | nil => cases listed
  | cons part parts ih =>
      cases parts with
      | nil => exact .inr ⟨part, List.mem_cons_self, listed⟩
      | cons next parts =>
          rw [join_cons _ _ (by simp)] at listed
          rcases List.mem_append.mp listed with here | later
          · exact .inr ⟨part, List.mem_cons_self, here⟩
          · rcases List.mem_append.mp later with here | later
            · exact .inl here
            · exact (ih later).imp_right fun ⟨other, member, inside⟩ =>
                ⟨other, List.mem_cons_of_mem _ member, inside⟩

structure NoParam (c : Char) : Prop where
  other : u.isWord c = false
  signs : c ∉ ":<>& ,".toList

theorem NoParam.fixed {c : Char} (absent : NoParam u c) {text : Text}
    (fixed : (text.all fun d =>
      d ∈ ":<>& ,".toList || (d.toNat < 128 && (d.isAlphanum || d = '_'))) = true) : c ∉ text := by
  intro listed
  have one := List.all_eq_true.mp fixed c listed
  rw [Bool.or_eq_true] at one
  rcases one with sign | word
  · exact absent.signs (by simpa using sign)
  · have inside := @word_of_ascii u [c] (by simpa using word) c (by simp)
    rw [absent.other] at inside
    cases inside

theorem cppTypeForProto_without {c : Char} (absent : NoParam u c) {protoType : Text}
    (named : isIdent u protoType = true) : c ∉ cppTypeForProto protoType := by
  have scalars : ∀ pair ∈ protoScalars, (pair.2.all fun d =>
      d ∈ ":<>& ,".toList || (d.toNat < 128 && (d.isAlphanum || d = '_'))) = true := by decide
  unfold cppTypeForProto
  cases found : protoScalars.lookup protoType with
  | some cpp =>
      obtain ⟨front, back, split, -⟩ := List.lookup_eq_some_iff.mp found
      exact absent.fixed u (scalars (protoType, cpp) (by rw [split]; simp))
  | none =>
      intro listed
      rcases List.mem_append.mp listed with scope | name
      · exact absent.fixed u (by decide) scope
      · exact ident_without u named absent.other name

theorem cppParamForField_without {c : Char} (absent : NoParam u c) (field : Field u) :
    c ∉ cppParamForField field := by
  have type : c ∉ (if isString field.protoType then "string".toList
      else cppTypeForProto field.protoType) := by
    split
    · exact absent.fixed u (by decide)
    · exact cppTypeForProto_without u absent field.protoType_ident
  have name := ident_without u field.name_ident absent.other
  have parts (front middle : Text) (fixed : c ∉ front) (fixed' : c ∉ middle) :
      c ∉ front ++ ((if isString field.protoType then "string".toList
        else cppTypeForProto field.protoType) ++ (middle ++ field.name)) := by
    simp only [List.mem_append, not_or]
    exact ⟨fixed, type, fixed', name⟩
  unfold cppParamForField
  dsimp only
  split
  · exact parts _ _ (absent.fixed u (by decide)) (absent.fixed u (by decide))
  · split
    · exact parts [] _ (by simp) (absent.fixed u (by decide))
    · exact parts _ _ (absent.fixed u (by decide)) (absent.fixed u (by decide))

theorem makeParamList_without {c : Char} (absent : NoParam u c) (fields : List (Field u)) :
    c ∉ makeParamList fields := by
  intro listed
  rcases mem_join listed with sep | ⟨part, member, inside⟩
  · exact absent.fixed u (by decide) sep
  · obtain ⟨field, -, rfl⟩ := List.mem_map.mp member
    exact cppParamForField_without u absent field inside

structure Declares (line fn : Text) : Prop where
  row : ∃ type row, visible u.toAlphabet line =
      .word "static".toList :: .word type :: .word fn :: .sign '(' :: (row ++ [.sign ';']) ∧
    isReturnType type = true ∧ .sign '(' ∉ row
  named : isFn u fn = true
  /-- So it holds no marker. -/
  plain : '/' ∉ line

theorem visible_blank (rest : Text) :
    visible u.toAlphabet (' ' :: rest) = visible u.toAlphabet rest :=
  visible_space _ (blank_space u).2 rest

theorem isFn_append {front msg : Text} (known : front = "Handle_".toList ∨ front = "Make_".toList)
    (named : isIdent u msg = true) : isFn u (front ++ msg) = true := by
  have both : (startswith (front ++ msg) front &&
      isIdent u ((front ++ msg).drop front.length)) = true := by
    rw [List.drop_left, startswith_append, named]
    rfl
  unfold isFn
  rw [Bool.or_eq_true]
  rcases known with rfl | rfl
  · exact .inl both
  · exact .inr both

theorem handleFn_named {msg : Text} (named : isIdent u msg = true) :
    isFn u (handleFn msg) = true := isFn_append u (.inl rfl) named

theorem makeFn_named {msg : Text} (named : isIdent u msg = true) :
    isFn u (makeFn msg) = true := isFn_append u (.inr rfl) named

theorem tab_space : u.isSpace '\t' = true := by
  rw [u.ascii_space _ (by decide)]
  decide

theorem declares_line (lead type fn opens inner close : Text)
    (leads : lead = '\t' :: ("static".toList ++ (' ' :: (type ++ [' ']))))
    (opened : opens = [' ', '(']) (closes : close = [')', ';']) (types : isReturnType type = true)
    (named : isFn u fn = true) (closed : '(' ∉ inner) (plain : '/' ∉ inner) :
    Declares u (lead ++ (fn ++ (opens ++ (inner ++ close)))) fn where
  row := by
    have whole : lead ++ (fn ++ (opens ++ (inner ++ close))) =
        '\t' :: ("static".toList ++ (' ' :: (type ++ (' ' :: (fn ++
          (' ' :: '(' :: (inner ++ [')', ';']))))))) := by
      rw [leads, opened, closes]
      simp only [List.cons_append, List.append_assoc, List.nil_append]
    have close := sign_ascii u (c := ')') (by decide) (by decide) (by decide)
    have semicolon := sign_ascii u (c := ';') (by decide) (by decide) (by decide)
    obtain ⟨some_type, type_word⟩ := isReturnType_word u types
    obtain ⟨some_fn, fn_word⟩ := (names_fn u).word fn named
    have ends (rest : Text) : Ends u.toAlphabet (' ' :: rest) := Ends.cons _ (blank_space u).1 rest
    refine ⟨type, visible u.toAlphabet inner ++ [.sign ')'], ?_, types, ?_⟩
    · rw [whole, visible_space _ (tab_space u),
        visible_word _ (by decide) (word_of_ascii u (by decide)) (ends _), visible_blank,
        visible_word _ some_type type_word (ends _), visible_blank,
        visible_word _ some_fn fn_word (ends _), visible_blank,
        visible_sign _ (parenthesis_sign u).1 (parenthesis_sign u).2,
        visible_append _ inner (Ends.cons _ close.1 _), visible_sign _ close.1 close.2,
        visible_sign _ semicolon.1 semicolon.2]
      simp
    · intro listed
      rcases List.mem_append.mp listed with inside | last
      · exact closed (sign_visible u inside)
      · simp at last
  named := named
  plain := by
    have slash := sign_ascii u (c := '/') (by decide) (by decide) (by decide)
    have word (text : Text) (all : ∀ c ∈ text, u.isWord c = true) : '/' ∉ text := by
      intro listed
      have inside := all _ listed
      rw [slash.1] at inside
      cases inside
    have fixed : '/' ∉ "static".toList := by decide
    have type_plain := word type (isReturnType_word u types).2
    have lead_plain : '/' ∉ lead := by
      rw [leads]
      simp only [List.mem_cons, List.mem_append, not_or]
      exact ⟨by decide, fixed, by decide, type_plain, by decide, by simp⟩
    have fn_plain := word fn ((names_fn u).word fn named).2
    rw [opened, closes]
    simp only [List.mem_append, not_or]
    exact ⟨lead_plain, fn_plain, by decide, plain, by decide⟩

theorem noParam_parenthesis : NoParam u '(' := ⟨(parenthesis_sign u).1, by decide⟩

theorem noParam_slash : NoParam u '/' :=
  ⟨(sign_ascii u (by decide) (by decide) (by decide)).1, by decide⟩

theorem declares_handle {session msg : Text} (closed : '(' ∉ session) (plain : '/' ∉ session)
    (named : isIdent u msg = true) : Declares u (handleDecl session msg) (handleFn msg) := by
  have parts (c : Char) (absent : c ∉ session) (space : c ≠ ' ')
      (fixed : c ∉ " session , BYTE* buffer , int32 len ".toList) :
      c ∉ [' '] ++ (session ++ " session , BYTE* buffer , int32 len ".toList) := by
    simp only [List.mem_append, List.mem_singleton, not_or]
    exact ⟨space, absent, fixed⟩
  have line := declares_line u "\tstatic void ".toList "void".toList _ [' ', '('] _ [')', ';']
    (by decide) rfl rfl (by decide)
    (handleFn_named u named) (parts '(' closed (by decide) (by decide))
    (parts '/' plain (by decide) (by decide))
  have opens : " ( ".toList = [' ', '('] ++ [' '] := by decide
  have close : " session , BYTE* buffer , int32 len );".toList =
      " session , BYTE* buffer , int32 len ".toList ++ [')', ';'] := by decide
  unfold handleDecl
  generalize " ( ".toList = before at opens
  generalize " session , BYTE* buffer , int32 len );".toList = behind at close
  rw [opens, close]
  simpa only [List.append_assoc] using line

theorem declares_make {msg : Text} (fields : List (Field u)) (named : isIdent u msg = true) :
    Declares u (makeDecl msg fields) (makeFn msg) := by
  have line (inner : Text) (closed : '(' ∉ inner) (plain : '/' ∉ inner) :=
    declares_line u "\tstatic SendBufferRef ".toList "SendBufferRef".toList _ [' ', '('] inner
      [')', ';'] (by decide) rfl rfl (by decide)
      (makeFn_named u named) closed plain
  have parts (c : Char) (absent : NoParam u c) (space : c ≠ ' ') :
      c ∉ [' '] ++ (makeParamList fields ++ [' ']) := by
    simp only [List.mem_append, List.mem_singleton, not_or]
    exact ⟨space, makeParamList_without u absent fields, space⟩
  have none : " ( );".toList = [' ', '('] ++ ([' '] ++ [')', ';']) := by decide
  have opens : " ( ".toList = [' ', '('] ++ [' '] := by decide
  have close : " );".toList = [' '] ++ [')', ';'] := by decide
  unfold makeDecl
  dsimp only
  split
  · generalize " ( );".toList = behind at none
    rw [none]
    exact line [' '] (by decide) (by decide)
  · have params := line _ (parts '(' (noParam_parenthesis u) (by decide))
      (parts '/' (noParam_slash u) (by decide))
    generalize " ( ".toList = before at opens
    generalize " );".toList = behind at close
    rw [opens, close]
    simpa only [List.append_assoc] using params

theorem fnLabels_line {line fn : Text} (declares : Declares u line fn) (row : List Lexeme) :
    fnLabels u (visible u.toAlphabet line ++ row) = fn :: fnLabels u row := by
  obtain ⟨type, inner, shown, types, closed⟩ := declares.row
  have late := labels_without isReturnType (isFn u) '(' (c := ';') closed (by decide) row
  rw [shown]
  unfold fnLabels
  simp only [List.cons_append, List.append_assoc, List.nil_append, labels_three]
  rw [labels_cons, labels_word_sign, late]
  simp [labelAt, types, declares.named]

theorem fnLabels_lines {decls fns : List Text} (declare : List.Forall₂ (Declares u) decls fns)
    (row : List Lexeme) :
    fnLabels u (decls.flatMap (visible u.toAlphabet) ++ row) = fns ++ fnLabels u row := by
  induction declare with
  | nil => rfl
  | cons first _ ih => rw [List.flatMap_cons, List.append_assoc, fnLabels_line u first, ih]; rfl

theorem fnLabels_behind {decls fns : List Text} (declare : List.Forall₂ (Declares u) decls fns)
    (nonempty : decls ≠ []) (front row : List Lexeme) :
    fnLabels u (front ++ (decls.flatMap (visible u.toAlphabet) ++ row)) =
      fnLabels u front ++ (fns ++ fnLabels u row) := by
  rw [← fnLabels_lines u declare row]
  cases declare with
  | nil => exact absurd rfl nonempty
  | cons first _ =>
      obtain ⟨type, inner, shown, -⟩ := first.row
      rw [List.flatMap_cons, shown]
      exact labels_words isReturnType (isFn u) '(' front _ _ _

theorem addDecls_fresh (fn decl : Text → Text) (injective : Function.Injective fn)
    {already msgs : List Text} (once : msgs.Nodup) (fresh : ∀ msg ∈ msgs, fn msg ∉ already) :
    addDecls fn decl already msgs = (msgs.map decl, (msgs.map fn).reverse ++ already) := by
  induction msgs generalizing already with
  | nil => rfl
  | cons msg msgs ih =>
      rw [List.nodup_cons] at once
      obtain ⟨first, later⟩ := List.forall_mem_cons.mp fresh
      have next : ∀ other ∈ msgs, fn other ∉ fn msg :: already := by
        intro other listed
        rw [List.mem_cons, not_or]
        refine ⟨fun same => once.1 ?_, later other listed⟩
        rw [← injective same]
        exact listed
      rw [addDecls, if_neg first, ih once.2 next]
      simp

theorem handleFn_injective : Function.Injective handleFn := fun _ _ same =>
  List.append_cancel_left same

theorem makeFn_injective : Function.Injective makeFn := fun _ _ same =>
  List.append_cancel_left same

theorem apart_of_heads {front other x y : Text} {c d : Char} (first : front.head? = some c)
    (first' : other.head? = some d) (apart : c ≠ d) : front ++ x ≠ other ++ y := by
  intro same
  have heads := congrArg List.head? same
  rw [List.head?_append, List.head?_append, first, first'] at heads
  exact apart (Option.some.inj heads)

theorem handleFn_ne_makeFn (x y : Text) : handleFn x ≠ makeFn y :=
  apart_of_heads (c := 'H') (d := 'M') (by decide) (by decide) (by decide)

theorem visible_mergeDecls (block header : Text) (newMsgs : List Text)
    (fieldsMap : Text → List (Field u)) (side : Side)
    (some_line : declsToAdd (declaredFunctions u header) newMsgs fieldsMap side ≠ []) :
    visible u.toAlphabet (mergeDeclsBlock block header newMsgs fieldsMap side) =
      visible u.toAlphabet block ++
        (declsToAdd (declaredFunctions u header) newMsgs fieldsMap side).flatMap
          (visible u.toAlphabet) := by
  have lines : (splitlines (block.rdropWhile (· = '\n'))).flatMap (visible u.toAlphabet) =
      visible u.toAlphabet block := by
    rw [visible_splitlines, visible_rdropWhile]
    intro c line
    rw [of_decide_eq_true line, u.newline_space]
  unfold mergeDeclsBlock
  dsimp only
  rw [if_neg some_line, visible_rstrip, visible_join, List.flatMap_append]
  split
  · rw [lines]
  · rw [List.flatMap_append, lines]
    simp

def caseRow (msg : Text) : List Lexeme :=
  [.word "case".toList, .word msg, .sign ':', .word (handleFn msg), .sign '(',
    .word "session".toList, .sign ',', .word "buffer".toList, .sign ',', .word "len".toList,
    .sign ')', .sign ';', .word "break".toList, .sign ';']

theorem handleFn_word {msg : Text} (named : isIdent u msg = true) :
    handleFn msg ≠ [] ∧ ∀ c ∈ handleFn msg, u.isWord c = true :=
  (names_fn u).word _ (handleFn_named u named)

theorem visible_caseLines {indent msg : Text} (spaces : ∀ c ∈ indent, u.isSpace c = true)
    (named : isIdent u msg = true) :
    (genCaseLines msg indent).flatMap (visible u.toAlphabet) = caseRow msg := by
  have colon := sign_ascii u (c := ':') (by decide) (by decide) (by decide)
  have close := sign_ascii u (c := ')') (by decide) (by decide) (by decide)
  have semicolon := sign_ascii u (c := ';') (by decide) (by decide) (by decide)
  obtain ⟨some_msg, msg_word⟩ := isIdent_word u named
  obtain ⟨some_fn, fn_word⟩ := handleFn_word u named
  have ends (rest : Text) : Ends u.toAlphabet (' ' :: rest) := Ends.cons _ (blank_space u).1 rest
  have inner : ∀ c ∈ indent ++ tab, u.isSpace c = true := by
    intro c listed
    rcases List.mem_append.mp listed with front | back
    · exact spaces c front
    · rw [List.mem_singleton.mp back, tab_space]
  have label : visible u.toAlphabet (indent ++ ("case ".toList ++ (msg ++ ":".toList))) =
      [.word "case".toList, .word msg, .sign ':'] := by
    have case_ : "case ".toList = "case".toList ++ [' '] := by decide
    have term : ":".toList = [':'] := by decide
    generalize "case ".toList = before at case_
    generalize ":".toList = behind at term
    rw [visible_spaces _ spaces, case_, term, List.append_assoc, List.singleton_append,
      visible_word _ (by decide) (word_of_ascii u (by decide)) (ends _), visible_blank,
      visible_word _ some_msg msg_word (Ends.cons _ colon.1 _),
      visible_sign _ colon.1 colon.2, visible_nil]
  have call : visible u.toAlphabet ((indent ++ tab) ++
      (handleFn msg ++ " ( session , buffer , len );".toList)) =
      [.word (handleFn msg), .sign '(', .word "session".toList, .sign ',', .word "buffer".toList,
        .sign ',', .word "len".toList, .sign ')', .sign ';'] := by
    have text : " ( session , buffer , len );".toList =
        ' ' :: '(' :: ' ' :: ("session".toList ++ (' ' :: ',' :: ' ' :: ("buffer".toList ++
          (' ' :: ',' :: ' ' :: ("len".toList ++ (' ' :: [')', ';'])))))) := by decide
    generalize " ( session , buffer , len );".toList = behind at text
    rw [visible_spaces _ inner, text, visible_word _ some_fn fn_word (ends _), visible_blank,
      visible_sign _ (parenthesis_sign u).1 (parenthesis_sign u).2, visible_blank,
      visible_word _ (by decide) (word_of_ascii u (by decide)) (ends _), visible_blank,
      visible_sign _ (comma_sign u).1 (comma_sign u).2, visible_blank,
      visible_word _ (by decide) (word_of_ascii u (by decide)) (ends _), visible_blank,
      visible_sign _ (comma_sign u).1 (comma_sign u).2, visible_blank,
      visible_word _ (by decide) (word_of_ascii u (by decide)) (ends _), visible_blank,
      visible_sign _ close.1 close.2, visible_sign _ semicolon.1 semicolon.2, visible_nil]
  have stop : visible u.toAlphabet ((indent ++ tab) ++ "break;".toList) =
      [.word "break".toList, .sign ';'] := by
    have text : "break;".toList = "break".toList ++ [';'] := by decide
    generalize "break;".toList = behind at text
    rw [visible_spaces _ inner, text,
      visible_word _ (by decide) (word_of_ascii u (by decide)) (Ends.cons _ semicolon.1 _),
      visible_sign _ semicolon.1 semicolon.2, visible_nil]
  unfold genCaseLines
  simp only [List.flatMap_cons, List.flatMap_nil]
  rw [label, call, stop]
  rfl

theorem caseLabels_row {msg : Text} (named : isIdent u msg = true) (row : List Lexeme) :
    caseLabels u (caseRow msg ++ row) = msg :: caseLabels u row := by
  unfold caseLabels caseRow
  simp only [List.cons_append, List.nil_append]
  rw [labels_cons, labels_word_sign, labels_word_sign, labels_word_sign, labels_word_sign,
    labels_word_sign, labels_sign, labels_word_sign]
  simp [labelAt, isCase, named]

theorem visible_newCases {indent : Text} (spaces : ∀ c ∈ indent, u.isSpace c = true)
    (existingCases lines : List Text) {targets : List Text}
    (named : ∀ msg ∈ targets, isIdent u msg = true) (fresh : ∀ msg ∈ targets, msg ∉ existingCases) :
    (caseLines indent existingCases lines targets).flatMap (visible u.toAlphabet) =
      lines.flatMap (visible u.toAlphabet) ++ targets.flatMap caseRow := by
  induction targets generalizing lines with
  | nil => simp [caseLines]
  | cons msg targets ih =>
      obtain ⟨named, later_named⟩ := List.forall_mem_cons.mp named
      obtain ⟨absent, later⟩ := List.forall_mem_cons.mp fresh
      rw [caseLines, if_neg absent, ih _ later_named later, List.flatMap_append,
        List.flatMap_append, visible_caseLines u spaces named, List.flatMap_cons]
      split <;> simp

theorem caseLabels_rows {targets : List Text} (named : ∀ msg ∈ targets, isIdent u msg = true)
    (row : List Lexeme) :
    caseLabels u (targets.flatMap caseRow ++ row) = targets ++ caseLabels u row := by
  induction targets with
  | nil => rfl
  | cons msg targets ih =>
      obtain ⟨first, later⟩ := List.forall_mem_cons.mp named
      rw [List.flatMap_cons, List.append_assoc, caseLabels_row u first, ih later]
      rfl

theorem caseLabels_behind {targets : List Text} (named : ∀ msg ∈ targets, isIdent u msg = true)
    (nonempty : targets ≠ []) (front row : List Lexeme) :
    caseLabels u (front ++ (targets.flatMap caseRow ++ row)) =
      caseLabels u front ++ (targets ++ caseLabels u row) := by
  rw [← caseLabels_rows u named row]
  cases targets with
  | nil => exact absurd rfl nonempty
  | cons msg targets => exact labels_words isCase (isIdent u) ':' front _ _ _

theorem caseLines_nonempty (indent : Text) (existingCases : List Text) {lines : List Text}
    (nonempty : lines ≠ []) (targets : List Text) :
    caseLines indent existingCases lines targets ≠ [] := by
  induction targets generalizing lines with
  | nil => exact nonempty
  | cons msg targets ih =>
      unfold caseLines
      split
      · exact ih nonempty
      · exact ih (by simp [nonempty])

theorem visible_mergeSwitch (block : Text) (newMsgs : List Text) (side : Side)
    (named : ∀ msg ∈ newMsgs, isIdent u msg = true)
    (fresh : ∀ msg ∈ withPrefix side.handles newMsgs, msg ∉ extractCases u block)
    (nonempty : withPrefix side.handles newMsgs ≠ []) :
    visible u.toAlphabet (mergeSwitchBlock u block newMsgs side) =
      visible u.toAlphabet block ++ (withPrefix side.handles newMsgs).flatMap caseRow := by
  have spaces := detectIndent_spaces u block
  have named' : ∀ msg ∈ withPrefix side.handles newMsgs, isIdent u msg = true :=
    fun msg listed => named msg (List.mem_of_mem_filter listed)
  have shown := visible_newCases u spaces (extractCases u block) [] named' fresh
  have some_line : caseLines (detectIndentFromBlock u block tab) (extractCases u block) []
      (withPrefix side.handles newMsgs) ≠ [] := by
    generalize withPrefix side.handles newMsgs = targets at *
    cases targets with
    | nil => exact absurd rfl nonempty
    | cons msg targets =>
        rw [caseLines, if_neg (fresh msg List.mem_cons_self)]
        exact caseLines_nonempty _ _ (by simp [genCaseLines]) _
  have out : visible u.toAlphabet (block.rdropWhile (· = '\n')) = visible u.toAlphabet block := by
    rw [visible_rdropWhile]
    intro c line
    rw [of_decide_eq_true line, u.newline_space]
  unfold mergeSwitchBlock
  dsimp only
  rw [if_neg some_line, visible_rstrip]
  have lines : visible u.toAlphabet (rstrip u (join newline (caseLines
      (detectIndentFromBlock u block tab) (extractCases u block) []
        (withPrefix side.handles newMsgs)))) =
          (withPrefix side.handles newMsgs).flatMap caseRow := by
    rw [visible_rstrip, visible_join, shown]
    rfl
  rw [← out, ← lines]
  split
  case isTrue empty =>
    have spaces := List.all_eq_true.mp empty
    have alone := visible_spaces u.toAlphabet spaces []
    rw [List.append_nil] at alone
    rw [visible_spaces _ spaces, alone]
    rfl
  case isFalse =>
    rw [List.append_assoc, newline, List.singleton_append,
      visible_append _ _ (Ends.cons _ (newline_word u.toAlphabet) _),
      visible_space _ u.newline_space]

theorem rdropWhile_within (kind : Char → Bool) (text : Text) : text.rdropWhile kind <:+: text :=
  (List.rdropWhile_prefix kind text).isInfix

theorem IsMarker.absent {marker text : Text} (is : IsMarker marker) (plain : '/' ∉ text) :
    ¬ marker <:+: text := by
  intro inside
  obtain ⟨rest, rfl⟩ := List.head?_eq_some_iff.mp is.head
  exact plain (inside.subset List.mem_cons_self)

theorem slash_sign : u.isWord '/' = false ∧ u.isSpace '/' = false :=
  sign_ascii u (by decide) (by decide) (by decide)

theorem spaces_plain {text : Text} (spaces : ∀ c ∈ text, u.isSpace c = true) : '/' ∉ text := by
  intro listed
  have space := spaces _ listed
  rw [(slash_sign u).2] at space
  cases space

theorem enumLine_plain {indent name : Text} (spaces : ∀ c ∈ indent, u.isSpace c = true)
    (named : isIdent u name = true) (id : Nat) : '/' ∉ enumLine indent name id := by
  have digits : '/' ∉ Nat.toDigits 10 id := by
    intro listed
    have word := u.decimal_word _ (digits_decimal u id _ listed)
    rw [(slash_sign u).1] at word
    cases word
  simp only [enumLine, List.mem_append, not_or]
  exact ⟨spaces_plain u spaces, ident_without u named (slash_sign u).1, by decide, digits,
    by decide⟩

theorem enumLines_plain {indent : Text} (spaces : ∀ c ∈ indent, u.isSpace c = true)
    (ids : Text → Nat) (last : Option Text) {ordered : List Text}
    (named : ∀ name ∈ ordered, isIdent u name = true) :
    ∀ line ∈ enumLines indent ids last ordered, '/' ∉ line := by
  induction ordered generalizing last with
  | nil => simp [enumLines]
  | cons name ordered ih =>
      obtain ⟨first, later⟩ := List.forall_mem_cons.mp named
      intro line listed
      rw [enumLines, List.mem_append, List.mem_cons] at listed
      rcases listed with empty | rfl | behind
      · split at empty
        · simp at empty
          simp [empty]
        · cases empty
      · exact enumLine_plain u spaces first _
      · exact ih _ later line behind

theorem mergeEnumBlock_plain (block : Text) (idMap : Dict Text Nat) (newMsgs : List Text)
    (named : ∀ name ∈ (mergeIds (extractEnumIdsAnywhere u block) idMap newMsgs).keys,
      isIdent u name = true) : '/' ∉ mergeEnumBlock u block idMap newMsgs := by
  intro listed
  have inside := (rdropWhile_within u.isSpace _).subset listed
  rcases mem_join inside with sep | ⟨line, member, here⟩
  · simp [newline] at sep
  · refine enumLines_plain u (detectIndent_spaces u block) _ none ?_ line member here
    intro name listed
    exact named name ((List.mem_insertionSort SortsBefore).mp listed)

theorem infix_join {marker : Text} (is : IsMarker marker) {parts : List Text}
    (inside : marker <:+: join newline parts) : ∃ part ∈ parts, marker <:+: part := by
  induction parts with
  | nil => exact absurd (List.infix_nil.mp inside) is.ne_nil
  | cons part parts ih =>
      cases parts with
      | nil => exact ⟨part, List.mem_cons_self, inside⟩
      | cons next parts =>
          rw [join_cons _ _ (by simp), newline, List.singleton_append] at inside
          rcases infix_apart is.line inside with here | later
          · exact ⟨part, List.mem_cons_self, here⟩
          · obtain ⟨other, member, here⟩ := ih later
            exact ⟨other, List.mem_cons_of_mem _ member, here⟩

theorem mergeDeclsBlock_absent {marker block header : Text} (is : IsMarker marker)
    (absent : ¬ marker <:+: block) {newMsgs : List Text} {fieldsMap : Text → List (Field u)}
    {side : Side}
    (plain : ∀ line ∈ declsToAdd (declaredFunctions u header) newMsgs fieldsMap side, '/' ∉ line) :
    ¬ marker <:+: mergeDeclsBlock block header newMsgs fieldsMap side := by
  have old {part : Text} (listed : part ∈ splitlines (block.rdropWhile (· = '\n')))
      (here : marker <:+: part) : False := by
    have inside := splitFrom_within [] _ part listed
    exact absent ((here.trans inside).trans (rdropWhile_within _ _))
  intro inside
  unfold mergeDeclsBlock at inside
  dsimp only at inside
  split at inside
  case isTrue => exact absent (inside.trans (rdropWhile_within _ _))
  case isFalse =>
    obtain ⟨part, listed, here⟩ := infix_join is (inside.trans (rdropWhile_within _ _))
    rcases List.mem_append.mp listed with line | new
    · split at line
      · exact old line here
      · rcases List.mem_append.mp line with line | empty
        · exact old line here
        · rw [List.mem_singleton.mp empty] at here
          exact is.ne_nil (List.infix_nil.mp here)
    · exact is.absent (plain part new) here

theorem genCaseLines_plain {indent msg : Text} (spaces : ∀ c ∈ indent, u.isSpace c = true)
    (named : isIdent u msg = true) : ∀ line ∈ genCaseLines msg indent, '/' ∉ line := by
  have front := spaces_plain u spaces
  have name := ident_without u named (slash_sign u).1
  have fn : '/' ∉ handleFn msg := by
    intro listed
    have word := (handleFn_word u named).2 _ listed
    rw [(slash_sign u).1] at word
    cases word
  simp only [genCaseLines, List.forall_mem_cons, List.mem_append, not_or]
  exact ⟨⟨front, by decide, name, by decide⟩, ⟨⟨front, by decide⟩, fn, by decide⟩,
    ⟨⟨front, by decide⟩, by decide⟩, by simp⟩

theorem caseLines_plain {indent : Text} (spaces : ∀ c ∈ indent, u.isSpace c = true)
    (existingCases : List Text) {lines targets : List Text}
    (named : ∀ msg ∈ targets, isIdent u msg = true) (plain : ∀ line ∈ lines, '/' ∉ line) :
    ∀ line ∈ caseLines indent existingCases lines targets, '/' ∉ line := by
  induction targets generalizing lines with
  | nil => exact plain
  | cons msg targets ih =>
      obtain ⟨first, later⟩ := List.forall_mem_cons.mp named
      unfold caseLines
      split
      · exact ih later plain
      · apply ih later
        intro line listed
        rcases List.mem_append.mp listed with old | new
        · exact plain line old
        · rcases List.mem_append.mp new with empty | case_
          · split at empty
            · cases empty
            · rw [List.mem_singleton.mp empty]
              simp
          · exact genCaseLines_plain u spaces first line case_

theorem mergeSwitchBlock_absent {marker block : Text} (is : IsMarker marker)
    (absent : ¬ marker <:+: block) {newMsgs : List Text}
    (named : ∀ msg ∈ newMsgs, isIdent u msg = true) (side : Side) :
    ¬ marker <:+: mergeSwitchBlock u block newMsgs side := by
  have named' : ∀ msg ∈ withPrefix side.handles newMsgs, isIdent u msg = true :=
    fun msg listed => named msg (List.mem_of_mem_filter listed)
  have plain := caseLines_plain u (detectIndent_spaces u block) (extractCases u block) named'
    (List.forall_mem_nil _)
  have lines (inside : marker <:+: rstrip u (join newline (caseLines
      (detectIndentFromBlock u block tab) (extractCases u block) []
        (withPrefix side.handles newMsgs)))) : False := by
    obtain ⟨line, listed, here⟩ := infix_join is (inside.trans (rdropWhile_within _ _))
    exact is.absent (plain line listed) here
  have out := rdropWhile_within (fun c => decide (c = '\n')) block
  intro inside
  unfold mergeSwitchBlock at inside
  dsimp only at inside
  split at inside
  case isTrue => exact absent (inside.trans (rdropWhile_within _ _))
  case isFalse =>
    have within := inside.trans (rdropWhile_within _ _)
    split at within
    case isTrue empty =>
      have other : ∀ c ∈ marker.head?, u.isSpace c = false := by
        rw [is.head]
        rintro c ⟨⟩
        exact (slash_sign u).2
      exact lines (infix_behind other is.ne_nil (List.all_eq_true.mp empty) within)
    case isFalse =>
      rw [List.append_assoc, newline, List.singleton_append] at within
      rcases infix_apart is.line within with old | new
      · exact absent (old.trans out)
      · exact lines new

end GenNetworkFunc

end ZeldaServer
