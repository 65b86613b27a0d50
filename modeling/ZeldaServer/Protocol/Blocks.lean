import ZeldaServer.Protocol.GenNetworkFunc

/-! Blocks on lines of their own between their markers, and what `replace_block` makes of them. -/

namespace ZeldaServer

namespace GenNetworkFunc

open Patterns (Text)
open Scanning (indexOf indexOf_apart indexOf_start Apart segment segment_append)

theorem prefix_before {needle front rest : Text} {c : Char} (absent : c ∉ needle)
    (begins : needle <+: front ++ c :: rest) : needle <+: front := by
  induction front generalizing needle with
  | nil =>
      cases needle with
      | nil => exact List.nil_prefix
      | cons d needle =>
          rw [List.nil_append, List.cons_prefix_cons] at begins
          exact absurd begins.1 fun same => absent (by simp [same])
  | cons e front ih =>
      cases needle with
      | nil => exact List.nil_prefix
      | cons d needle =>
          rw [List.cons_append, List.cons_prefix_cons] at begins
          rw [List.mem_cons, not_or] at absent
          exact List.cons_prefix_cons.mpr ⟨begins.1, ih absent.2 begins.2⟩

theorem infix_apart {needle front rest : Text} {c : Char} (absent : c ∉ needle)
    (inside : needle <:+: front ++ c :: rest) : needle <:+: front ∨ needle <:+: rest := by
  induction front with
  | nil =>
      rcases List.infix_cons_iff.mp inside with begins | later
      · exact .inl (@prefix_before _ [] _ _ absent begins).isInfix
      · exact .inr later
  | cons d front ih =>
      rcases List.infix_cons_iff.mp inside with begins | later
      · exact .inl (@prefix_before _ (d :: front) _ _ absent begins).isInfix
      · exact (ih later).imp_left fun here => here.trans (List.suffix_cons d front).isInfix

theorem infix_behind {needle run rest : Text} {kind : Char → Bool}
    (other : ∀ c ∈ needle.head?, kind c = false) (some_char : needle ≠ [])
    (all : ∀ c ∈ run, kind c = true) (inside : needle <:+: run ++ rest) : needle <:+: rest := by
  induction run with
  | nil => exact inside
  | cons d run ih =>
      obtain ⟨first, all⟩ := List.forall_mem_cons.mp all
      rcases List.infix_cons_iff.mp inside with begins | later
      · cases needle with
        | nil => exact absurd rfl some_char
        | cons e needle =>
            obtain ⟨rfl, -⟩ := List.cons_prefix_cons.mp begins
            rw [other e rfl] at first
            cases first
      · exact ih all later

theorem apart_of_last {needle front : Text} {c : Char} (last : needle.getLast? = some c)
    (once : c ∉ needle.dropLast) (absent : ¬ needle <:+: front) (rest : Text) :
    Apart needle front (needle ++ rest) := by
  obtain ⟨body, rfl⟩ := List.getLast?_eq_some_iff.mp last
  rw [List.dropLast_concat] at once
  intro i less begins
  by_cases before : i + (body ++ [c]).length ≤ front.length
  · apply absent
    have inside : body ++ [c] <+: front.drop i := by
      rw [List.drop_append_of_le_length (by omega)] at begins
      exact List.prefix_of_prefix_length_le begins (List.prefix_append _ _)
        (by rw [List.length_drop]; omega)
    exact inside.isInfix.trans (List.drop_suffix i front).isInfix
  · -- The last character of an occurrence that overlaps would stand inside the body.
    obtain ⟨more, same⟩ := begins
    rw [List.length_append, List.length_singleton] at before
    have here : ((body ++ [c]) ++ more)[body.length]? = some c := by simp
    rw [same, List.getElem?_drop, List.getElem?_append_right (by omega),
      List.getElem?_append_left (by simp; omega), List.getElem?_append_left (by omega)] at here
    exact once (List.mem_of_getElem? here)

structure IsMarker (marker : Text) : Prop where
  head : marker.head? = some '/'
  line : '\n' ∉ marker
  last : marker.getLast? = some ']'
  once : ']' ∉ marker.dropLast

instance (marker : Text) : Decidable (IsMarker marker) :=
  decidable_of_iff
    (marker.head? = some '/' ∧ '\n' ∉ marker ∧ marker.getLast? = some ']' ∧ ']' ∉ marker.dropLast)
    ⟨fun ⟨head, line, last, once⟩ => ⟨head, line, last, once⟩,
      fun marker => ⟨marker.head, marker.line, marker.last, marker.once⟩⟩

theorem IsMarker.ne_nil {marker : Text} (is : IsMarker marker) : marker ≠ [] := by
  rintro rfl
  cases is.head

structure AreMarkers (m : Markers) : Prop where
  begins : IsMarker m.begins
  ends : IsMarker m.ends

theorem autoEnum_markers : AreMarkers autoEnum := ⟨by decide, by decide⟩

theorem autoDecl_markers : AreMarkers autoDecl := ⟨by decide, by decide⟩

theorem autoSwitch_markers : AreMarkers autoSwitch := ⟨by decide, by decide⟩

structure Block where
  /-- Behind the begin marker. -/
  blanks : Text
  body : Text
  /-- In front of the end marker. -/
  indent : Text
  blanks_blank : ∀ c ∈ blanks, isBlank c = true
  body_lines : body = [] ∨ body.getLast? = some '\n'
  indent_blank : ∀ c ∈ indent, isBlank c = true

def Block.text (b : Block) : Text := b.blanks ++ '\n' :: (b.body ++ b.indent)

def Markers.around (m : Markers) (block behind : Text) : Text :=
  m.begins ++ (block ++ (m.ends ++ behind))

structure Clear (m : Markers) (front : Text) (b : Block) : Prop where
  begins : ¬ m.begins <:+: front
  ends : ¬ m.ends <:+: front ++ (m.begins ++ b.text)

variable {m : Markers} {front : Text} {b : Block}

theorem findBlockRange_clear (markers : AreMarkers m) (clear : Clear m front b) (behind : Text) :
    findBlockRange m (front ++ m.around b.text behind) =
      .ok (front.length, front.length + m.begins.length,
        front.length + m.begins.length + b.text.length,
        front.length + m.begins.length + b.text.length + m.ends.length) := by
  have begins : indexOf m.begins (front ++ m.around b.text behind) = some front.length := by
    rw [Markers.around, indexOf_apart (apart_of_last markers.begins.last markers.begins.once
      clear.begins _), indexOf_start]
    rfl
  have ends : indexOf m.ends (front ++ m.around b.text behind) =
      some (front.length + m.begins.length + b.text.length) := by
    have same : front ++ m.around b.text behind =
        (front ++ (m.begins ++ b.text)) ++ (m.ends ++ behind) := by simp [Markers.around]
    rw [same, indexOf_apart (apart_of_last markers.ends.last markers.ends.once clear.ends _),
      indexOf_start]
    simp [Nat.add_assoc]
  rw [findBlockRange, begins, ends]
  dsimp only
  rw [if_neg (by omega)]

theorem getBlock_clear (markers : AreMarkers m) (clear : Clear m front b) (behind : Text) :
    getBlock m (front ++ m.around b.text behind) = .ok b.text := by
  have between := segment_append (front ++ m.begins) b.text (m.ends ++ behind)
  rw [List.append_assoc, List.length_append] at between
  rw [getBlock, findBlockRange_clear markers clear]
  exact congrArg Except.ok between

def indentOf (front : Text) : Text := (front.rtakeWhile (· ≠ '\n')).takeWhile isBlank

theorem takeWhile_front {kind : Char → Bool} {run rest : Text} (all : ∀ c ∈ run, kind c = true)
    (stops : ∀ c ∈ rest.head?, kind c = false) :
    (run ++ rest).takeWhile kind = run ∧ (run ++ rest).dropWhile kind = rest := by
  rw [List.takeWhile_append_of_pos all, List.dropWhile_append_of_pos all]
  cases rest with
  | nil => simp
  | cons c rest => simp [stops c rfl]

theorem rdropWhile_line {front line : Text} (lines : front = [] ∨ front.getLast? = some '\n')
    (inside : '\n' ∉ line) : (front ++ line).rdropWhile (· ≠ '\n') = front := by
  have all : ∀ c ∈ line.reverse, decide (c ≠ '\n') = true := by
    intro c listed
    rw [decide_eq_true_eq]
    rintro rfl
    exact inside (List.mem_reverse.mp listed)
  have stops : ∀ c ∈ front.reverse.head?, decide (c ≠ '\n') = false := by
    intro c first
    rw [List.head?_reverse] at first
    rcases lines with rfl | lines
    · cases first
    · rw [lines] at first
      cases first
      rfl
  rw [List.rdropWhile, List.reverse_append, (takeWhile_front all stops).2, List.reverse_reverse]

theorem segment_indent (front rest : Text) :
    (segment (front ++ rest) (lineStart (front ++ rest) front.length) front.length).takeWhile
      isBlank = indentOf front := by
  have split : front.rdropWhile (· ≠ '\n') ++ front.rtakeWhile (· ≠ '\n') = front := by
    rw [List.rdropWhile, List.rtakeWhile, ← List.reverse_append, List.takeWhile_append_dropWhile,
      List.reverse_reverse]
  have here := segment_append (front.rdropWhile (· ≠ '\n')) (front.rtakeWhile (· ≠ '\n')) rest
  rw [← List.append_assoc, ← List.length_append, split] at here
  rw [lineStart, List.take_left, here, indentOf]

theorem line_split (text : Text) :
    ∃ line rest, text = line ++ rest ∧ '\n' ∉ line ∧ (rest = [] ∨ ∃ more, rest = '\n' :: more) := by
  refine ⟨text.takeWhile (· ≠ '\n'), text.dropWhile (· ≠ '\n'),
    List.takeWhile_append_dropWhile.symm, fun listed => ?_, ?_⟩
  · have fits := List.mem_takeWhile_imp listed
    simp at fits
  · cases rest : text.dropWhile (· ≠ '\n') with
    | nil => exact .inl rfl
    | cons c more =>
        have stops := List.head?_dropWhile_not (· ≠ '\n') text
        rw [rest] at stops
        simp at stops
        exact .inr ⟨more, by rw [stops]⟩

theorem lineEnd_at {front line rest : Text} (inside : '\n' ∉ line)
    (lines : rest = [] ∨ ∃ more, rest = '\n' :: more) :
    lineEnd (front ++ (line ++ rest)) front.length = front.length + line.length := by
  rcases lines with rfl | ⟨more, rfl⟩
  · have nowhere : Scanning.find ['\n'] (front ++ (line ++ [])) front.length = none :=
      Scanning.find_single_none (by simpa using inside)
    rw [lineEnd, newline, nowhere]
    simp
  · have found : Scanning.find ['\n'] (front ++ (line ++ '\n' :: more)) front.length =
        some (front.length + line.length) :=
      Scanning.find_single (by rw [List.drop_left]) inside
    rw [lineEnd, newline, found]
    rfl

section Splicing

variable (u : Unicode)

theorem blank_newline : isBlank '\n' = false := by decide

def Block.splice (front newBlock : Text) (b : Block) : Block where
  blanks := []
  body := rstrip u newBlock ++ '\n' :: (b.blanks ++ '\n' :: b.body)
  indent := indentOf front
  blanks_blank := nofun
  body_lines := by
    right
    rcases b.body_lines with lines | lines
    · simp [List.getLast?_cons, lines]
    · simp [List.getLast?_cons, lines]
  indent_blank _ listed := List.mem_takeWhile_imp listed

theorem replaceBlock_clear (markers : AreMarkers m) (clear : Clear m front b)
    (newBlock behind : Text) :
    replaceBlock u m (front ++ m.around b.text behind) newBlock =
      .ok (front ++ m.around (b.splice u front newBlock).text behind) := by
  obtain ⟨line, rest, rfl, inside, lines⟩ := line_split behind
  have no_newline : '\n' ∉ b.indent := fun listed => by
    have blank := b.indent_blank _ listed
    rw [blank_newline] at blank
    cases blank
  generalize whole : front ++ m.around b.text (line ++ rest) = text
  have at_begin : text = front ++ m.around b.text (line ++ rest) := whole.symm
  have at_block : text = (front ++ m.begins) ++
      ((b.blanks ++ '\n' :: b.body) ++ (b.indent ++ (m.ends ++ (line ++ rest)))) := by
    simp [at_begin, Markers.around, Block.text]
  have at_line : text = (front ++ (m.begins ++ (b.blanks ++ '\n' :: b.body))) ++
      ((b.indent ++ (m.ends ++ line)) ++ rest) := by
    simp [at_begin, Markers.around, Block.text]
  have at_end : text = (front ++ (m.begins ++ b.text)) ++ ((m.ends ++ line) ++ rest) := by
    simp [at_begin, Markers.around]
  have range := findBlockRange_clear markers clear (line ++ rest)
  have beginIndent := segment_indent front (m.around b.text (line ++ rest))
  have end_length : (front ++ (m.begins ++ b.text)).length =
      front.length + m.begins.length + b.text.length := by simp [Nat.add_assoc]
  have line_start : lineStart text (front.length + m.begins.length + b.text.length) =
      (front ++ (m.begins ++ (b.blanks ++ '\n' :: b.body))).length := by
    have lines : (front ++ (m.begins ++ (b.blanks ++ '\n' :: b.body))).getLast? = some '\n' := by
      rcases b.body_lines with lines | lines
      · simp [lines, List.getLast?_cons]
      · simp [lines, List.getLast?_cons]
    have taken : text.take (front.length + m.begins.length + b.text.length) =
        (front ++ (m.begins ++ (b.blanks ++ '\n' :: b.body))) ++ b.indent := by
      rw [at_end, ← end_length, List.take_left]
      simp [Block.text]
    rw [lineStart, taken, rdropWhile_line (.inr lines) no_newline]
  have line_end : lineEnd text (front.length + m.begins.length + b.text.length) =
      front.length + m.begins.length + b.text.length + (m.ends ++ line).length := by
    have no_newline : '\n' ∉ m.ends ++ line := by
      rw [List.mem_append, not_or]
      exact ⟨markers.ends.line, inside⟩
    rw [at_end, ← end_length, lineEnd_at no_newline lines]
  have endLine : segment text (front ++ (m.begins ++ (b.blanks ++ '\n' :: b.body))).length
      (front.length + m.begins.length + b.text.length + (m.ends ++ line).length) =
        b.indent ++ (m.ends ++ line) := by
    have here := segment_append (front ++ (m.begins ++ (b.blanks ++ '\n' :: b.body)))
      (b.indent ++ (m.ends ++ line)) rest
    rw [← at_line] at here
    rw [← here]
    congr 1
    simp only [Block.text, List.length_append, List.length_cons]
    omega
  have fixed : (b.indent ++ (m.ends ++ line)).dropWhile isBlank = m.ends ++ line := by
    refine (takeWhile_front b.indent_blank ?_).2
    rw [List.head?_append, markers.ends.head]
    rintro c ⟨⟩
    decide
  have body : segment text (front.length + m.begins.length)
      (front ++ (m.begins ++ (b.blanks ++ '\n' :: b.body))).length =
        b.blanks ++ '\n' :: b.body := by
    have here := segment_append (front ++ m.begins) (b.blanks ++ '\n' :: b.body)
      (b.indent ++ (m.ends ++ (line ++ rest)))
    rw [← at_block] at here
    simpa [Nat.add_assoc] using here
  have taken : text.take (front.length + m.begins.length) = front ++ m.begins := by
    rw [at_block, ← List.length_append, List.take_left]
  have dropped : text.drop (front.length + m.begins.length + b.text.length +
      (m.ends ++ line).length) = rest := by
    have whole : text = (front ++ (m.begins ++ b.text)) ++ (m.ends ++ line) ++ rest := by
      rw [at_end, List.append_assoc _ (m.ends ++ line)]
    rw [whole, ← end_length, ← List.length_append, List.drop_left]
  rw [← at_begin] at range beginIndent
  rw [replaceBlock, range]
  refine congrArg Except.ok ?_
  rw [beginIndent, line_start, line_end, endLine, fixed, body, taken, dropped]
  simp [Markers.around, Block.text, Block.splice, newline]

theorem absent_splice {marker : Text} (is : IsMarker marker) (front : Text) (b : Block)
    {newBlock : Text} (before behind : Text)
    (new : ¬ marker <:+: rstrip u newBlock)
    (absent : ¬ marker <:+: before ++ (b.text ++ behind)) :
    ¬ marker <:+: before ++ ((b.splice u front newBlock).text ++ behind) := by
  have other : ∀ c ∈ marker.head?, isBlank c = false := by
    rw [is.head]
    rintro c ⟨⟩
    decide
  have inside {part : Text} (part_of : part <:+: before ++ (b.text ++ behind))
      (here : marker <:+: part) : False := absent (here.trans part_of)
  intro somewhere
  have whole : before ++ ((b.splice u front newBlock).text ++ behind) =
      before ++ '\n' :: (rstrip u newBlock ++ '\n' :: (b.blanks ++ '\n' ::
        (b.body ++ (indentOf front ++ behind)))) := by
    simp [Block.text, Block.splice]
  rw [whole] at somewhere
  rcases infix_apart is.line somewhere with here | somewhere
  · exact inside ⟨[], b.text ++ behind, by simp⟩ here
  rcases infix_apart is.line somewhere with here | somewhere
  · exact new here
  rcases infix_apart is.line somewhere with here | somewhere
  · exact inside ⟨before, '\n' :: (b.body ++ (b.indent ++ behind)), by simp [Block.text]⟩ here
  -- The old body ends with a line, the new indentation holds no marker.
  have late (here : marker <:+: indentOf front ++ behind) : False :=
    @inside behind ⟨before ++ b.text, [], by simp⟩
      (infix_behind other is.ne_nil (fun c listed => List.mem_takeWhile_imp listed) here)
  rcases b.body_lines with empty | lines
  · rw [empty] at somewhere
    exact late somewhere
  · obtain ⟨body, same⟩ := List.getLast?_eq_some_iff.mp lines
    rw [same, List.append_assoc] at somewhere
    rcases infix_apart is.line somewhere with here | here
    · refine inside ⟨before ++ (b.blanks ++ ['\n']), '\n' :: (b.indent ++ behind), ?_⟩ here
      simp [Block.text, same]
    · exact late here

theorem Clear.splice (markers : AreMarkers m) (clear : Clear m front b) {newBlock : Text}
    (new : ¬ m.ends <:+: rstrip u newBlock) : Clear m front (b.splice u front newBlock) where
  begins := clear.begins
  ends := by
    have absent := absent_splice u markers.ends front b (front ++ m.begins) [] new
      (by simpa using clear.ends)
    simpa using absent

end Splicing

end GenNetworkFunc

end ZeldaServer
