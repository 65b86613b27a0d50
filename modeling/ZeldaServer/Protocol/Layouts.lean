import ZeldaServer.Protocol.MergedBlocks

/-! Headers with their two blocks and sources with their one, and a run on one file. -/

namespace ZeldaServer

namespace GenNetworkFunc

open Lexemes
open Patterns (Text)

structure Layout where
  first : Markers
  second : Markers
  front : Text
  mid : Text
  behind : Text
  block₁ : Block
  block₂ : Block
  order : first = autoEnum ∧ second = autoDecl ∨ first = autoDecl ∧ second = autoEnum
  clear₁ : Clear first front block₁
  clear₂ : Clear second (front ++ first.around block₁.text mid) block₂

namespace Layout

def text (l : Layout) : Text :=
  l.front ++ l.first.around l.block₁.text (l.mid ++ l.second.around l.block₂.text l.behind)

structure Same (l l' : Layout) : Prop where
  first : l'.first = l.first
  second : l'.second = l.second
  front : l'.front = l.front
  mid : l'.mid = l.mid
  behind : l'.behind = l.behind

theorem Same.refl (l : Layout) : l.Same l := ⟨rfl, rfl, rfl, rfl, rfl⟩

theorem Same.trans {l l' l'' : Layout} (same : l.Same l') (next : l'.Same l'') : l.Same l'' where
  first := next.first.trans same.first
  second := next.second.trans same.second
  front := next.front.trans same.front
  mid := next.mid.trans same.mid
  behind := next.behind.trans same.behind

def frontOf (l : Layout) (m : Markers) : Text :=
  if m = l.first then l.front else l.front ++ l.first.around l.block₁.text l.mid

def blockOf (l : Layout) (m : Markers) : Block := if m = l.first then l.block₁ else l.block₂

def behindOf (l : Layout) (m : Markers) : Text :=
  if m = l.first then l.mid ++ l.second.around l.block₂.text l.behind else l.behind

def Has (l : Layout) (m : Markers) : Prop := m = l.first ∨ m = l.second

variable (l : Layout)

theorem has_enum : l.Has autoEnum := l.order.imp (·.1.symm) (·.2.symm)

theorem has_decl : l.Has autoDecl := l.order.elim (.inr ·.2.symm) (.inl ·.1.symm)

theorem apart : l.second ≠ l.first := by
  rcases l.order with ⟨first, second⟩ | ⟨first, second⟩ <;> rw [first, second] <;> decide

variable {l} {m : Markers}

theorem Has.markers (has : l.Has m) : AreMarkers m := by
  rcases has with rfl | rfl
  · rcases l.order with ⟨first, -⟩ | ⟨first, -⟩
    · rw [first]
      exact autoEnum_markers
    · rw [first]
      exact autoDecl_markers
  · rcases l.order with ⟨-, second⟩ | ⟨-, second⟩
    · rw [second]
      exact autoDecl_markers
    · rw [second]
      exact autoEnum_markers

theorem Has.clear (has : l.Has m) : Clear m (l.frontOf m) (l.blockOf m) := by
  rcases has with rfl | rfl
  · simpa [frontOf, blockOf] using l.clear₁
  · simpa [frontOf, blockOf, l.apart] using l.clear₂

theorem Has.split (has : l.Has m) :
    l.text = l.frontOf m ++ m.around (l.blockOf m).text (l.behindOf m) := by
  rcases has with rfl | rfl
  · simp [text, frontOf, blockOf, behindOf]
  · simp [text, frontOf, blockOf, behindOf, l.apart, Markers.around]

theorem Has.getBlock (has : l.Has m) : getBlock m l.text = .ok (l.blockOf m).text := by
  rw [has.split]
  exact getBlock_clear has.markers has.clear _

structure Keeps (l : Layout) (m : Markers) (text : Text) : Prop where
  own : ¬ m.ends <:+: text
  second : m = l.first → ¬ l.second.begins <:+: text ∧ ¬ l.second.ends <:+: text

theorem Has.keeps (has : l.Has m) : l.Keeps m (l.blockOf m).text where
  own inside := has.clear.ends (inside.trans ⟨l.frontOf m ++ m.begins, [], by simp⟩)
  second first := by
    subst first
    have block : (l.blockOf l.first).text = l.block₁.text := by simp [blockOf]
    rw [block]
    exact ⟨fun inside => l.clear₂.begins (inside.trans
      ⟨l.front ++ l.first.begins, l.first.ends ++ l.mid, by simp [Markers.around]⟩),
      fun inside => l.clear₂.ends (inside.trans ⟨l.front ++ l.first.begins,
        l.first.ends ++ (l.mid ++ (l.second.begins ++ l.block₂.text)), by
          simp [Markers.around]⟩)⟩

theorem Keeps.of {text text' : Text} (keeps : l.Keeps m text)
    (markers : ∀ marker, IsMarker marker → marker <:+: text' → marker <:+: text)
    (has : l.Has m) : l.Keeps m text' where
  own inside := keeps.own (markers _ has.markers.ends inside)
  second first :=
    have second : AreMarkers l.second := Has.markers (.inr rfl)
    ⟨fun inside => (keeps.second first).1 (markers _ second.begins inside),
      fun inside => (keeps.second first).2 (markers _ second.ends inside)⟩

variable (u : Unicode)

theorem Has.replace (has : l.Has m) {newBlock : Text}
    (keeps : l.Keeps m (rstrip u newBlock)) :
    ∃ l' : Layout, l.Same l' ∧ replaceBlock u m l.text newBlock = .ok l'.text ∧
      l'.text = l.frontOf m ++ m.around
        ((l.blockOf m).splice u (l.frontOf m) newBlock).text (l.behindOf m) ∧
      l'.blockOf m = (l.blockOf m).splice u (l.frontOf m) newBlock ∧
      ∀ m', l.Has m' → m' ≠ m → l'.blockOf m' = l.blockOf m' := by
  have replaced := replaceBlock_clear u has.markers has.clear newBlock (l.behindOf m)
  rw [← has.split] at replaced
  have own := has.clear.splice u has.markers keeps.own
  rcases has with rfl | rfl
  · -- The second block stays clear, as the new lines hold none of its markers.
    obtain ⟨begins, ends⟩ := keeps.second rfl
    have markers : AreMarkers l.second := Has.markers (.inr rfl)
    have old := l.clear₂
    have clear₂ : Clear l.second (l.front ++
        l.first.around (l.block₁.splice u l.front newBlock).text l.mid) l.block₂ := {
      begins := by
        have absent := absent_splice u markers.begins l.front l.block₁
          (l.front ++ l.first.begins) (l.first.ends ++ l.mid) begins
          (by simpa [Markers.around] using old.begins)
        simpa [Markers.around] using absent
      ends := by
        have absent := absent_splice u markers.ends l.front l.block₁ (l.front ++ l.first.begins)
          (l.first.ends ++ (l.mid ++ (l.second.begins ++ l.block₂.text))) ends
          (by simpa [Markers.around] using old.ends)
        simpa [Markers.around] using absent }
    have clear₁ : Clear l.first l.front (l.block₁.splice u l.front newBlock) := by
      simpa [frontOf, blockOf] using own
    have whole : { l with block₁ := l.block₁.splice u l.front newBlock, clear₁, clear₂ }.text =
        l.frontOf l.first ++ l.first.around
          ((l.blockOf l.first).splice u (l.frontOf l.first) newBlock).text
            (l.behindOf l.first) := by
      simp [text, frontOf, blockOf, behindOf]
    refine ⟨{ l with block₁ := l.block₁.splice u l.front newBlock, clear₁, clear₂ },
      ⟨rfl, rfl, rfl, rfl, rfl⟩, replaced.trans (congrArg _ whole.symm), whole, ?_, ?_⟩
    · simp [blockOf, frontOf]
    · intro m' _ other
      simp [blockOf, other]
  · have clear₂ : Clear l.second (l.front ++ l.first.around l.block₁.text l.mid)
        (l.block₂.splice u (l.front ++ l.first.around l.block₁.text l.mid) newBlock) := by
      simpa [frontOf, blockOf, l.apart] using own
    have whole : { l with block₂ := l.block₂.splice u _ newBlock, clear₂ }.text =
        l.frontOf l.second ++ l.second.around
          ((l.blockOf l.second).splice u (l.frontOf l.second) newBlock).text
            (l.behindOf l.second) := by
      simp [text, frontOf, blockOf, behindOf, l.apart, Markers.around]
    refine ⟨{ l with block₂ := l.block₂.splice u _ newBlock, clear₂ },
      ⟨rfl, rfl, rfl, rfl, rfl⟩, replaced.trans (congrArg _ whole.symm), whole, ?_, ?_⟩
    · simp [blockOf, frontOf, l.apart]
    · intro m' has other
      have same := has.resolve_right other
      simp [blockOf, same]

end Layout

section Enumerators

variable (u : Unicode)

def enumRow (ids : Text → Nat) (name : Text) : List Lexeme :=
  [.word name, .sign '=', .word (Nat.toDigits 10 (ids name)), .sign ',']

theorem visible_enumLines {indent : Text} (spaces : ∀ c ∈ indent, u.isSpace c = true)
    (ids : Text → Nat) (last : Option Text) {ordered : List Text}
    (named : ∀ name ∈ ordered, isIdent u name = true) :
    (enumLines indent ids last ordered).flatMap (visible u.toAlphabet) =
      ordered.flatMap (enumRow ids) := by
  induction ordered generalizing last with
  | nil => rfl
  | cons name ordered ih =>
      obtain ⟨first, later⟩ := List.forall_mem_cons.mp named
      obtain ⟨n, row⟩ := lex_enumLine u spaces first (ids name)
      have line : visible u.toAlphabet (enumLine indent name (ids name)) = enumRow ids name := by
        rw [visible_of_lex u row, List.filter_append]
        simp [enumRow]
      rw [enumLines, List.flatMap_append, List.flatMap_cons, List.flatMap_cons, line, ih _ later]
      split <;> simp

theorem fnLabels_enumRows (ids : Text → Nat) (ordered : List Text) (row : List Lexeme) :
    fnLabels u (ordered.flatMap (enumRow ids) ++ row) = fnLabels u row := by
  induction ordered with
  | nil => rfl
  | cons name ordered ih => simpa [fnLabels, enumRow] using ih

theorem visible_behind (b : Block) (rest : Text) :
    visible u.toAlphabet (b.text ++ rest) =
      visible u.toAlphabet b.text ++ visible u.toAlphabet rest := by
  have blanks {gap : Text} (blank : ∀ c ∈ gap, isBlank c = true) (rest : Text) :
      visible u.toAlphabet (gap ++ rest) = visible u.toAlphabet rest :=
    visible_spaces _ (fun c listed => (isBlank_space u (blank c listed)).1) rest
  have whole : b.text ++ rest = b.blanks ++ '\n' :: (b.body ++ (b.indent ++ rest)) := by
    simp [Block.text]
  rw [visible_block, whole, blanks b.blanks_blank, visible_space _ u.newline_space]
  rcases b.body_lines with empty | lines
  · rw [empty, List.nil_append, blanks b.indent_blank]
    rfl
  · obtain ⟨body, same⟩ := List.getLast?_eq_some_iff.mp lines
    have ends (rest : Text) : Ends u.toAlphabet ('\n' :: rest) :=
      Ends.cons _ (newline_word u.toAlphabet) rest
    rw [same, List.append_assoc, List.singleton_append, visible_append _ _ (ends _),
      visible_append _ _ (ends []), visible_space _ u.newline_space,
      visible_space _ u.newline_space, blanks b.indent_blank, visible_nil, List.append_nil]

theorem visible_begins {m : Markers} (markers : AreMarkers m) (front : Text) :
    ∃ before, ∀ rest, visible u.toAlphabet (front ++ (m.begins ++ rest)) =
      before ++ .sign ']' :: visible u.toAlphabet rest := by
  obtain ⟨begins, last⟩ := List.getLast?_eq_some_iff.mp markers.begins.last
  have bracket := sign_ascii u (c := ']') (by decide) (by decide) (by decide)
  refine ⟨visible u.toAlphabet (front ++ begins), fun rest => ?_⟩
  rw [last, List.append_assoc, ← List.append_assoc, List.singleton_append,
    visible_append _ _ (Ends.cons _ bracket.1 _), visible_sign _ bracket.1 bracket.2]

theorem declaredFunctions_splice {m : Markers} (markers : AreMarkers m) (front : Text) (b : Block)
    (idMap : Dict Text Nat) (newMsgs : List Text)
    (named : ∀ name ∈ (mergeIds (extractEnumIdsAnywhere u b.text) idMap newMsgs).keys,
      isIdent u name = true) (behind : Text) :
    declaredFunctions u (front ++ m.around
        (b.splice u front (mergeEnumBlock u b.text idMap newMsgs)).text behind) =
      declaredFunctions u (front ++ m.around b.text behind) := by
  have merged : ∃ ids ordered, visible u.toAlphabet (mergeEnumBlock u b.text idMap newMsgs) =
      List.flatMap (enumRow ids) ordered := by
    unfold mergeEnumBlock
    dsimp only
    rw [visible_rstrip, visible_join]
    refine ⟨_, _, visible_enumLines u (detectIndent_spaces u b.text) _ none ?_⟩
    intro name listed
    exact named name ((List.mem_insertionSort SortsBefore).mp listed)
  obtain ⟨ids, ordered, rows⟩ := merged
  obtain ⟨before, cut⟩ := visible_begins u markers front
  rw [declaredFunctions_eq, declaredFunctions_eq, Markers.around, Markers.around, cut, cut,
    visible_behind, visible_behind, visible_splice, rows]
  unfold fnLabels
  rw [labels_cut, labels_cut _ _ _ _ (visible u.toAlphabet b.text ++ _), List.append_assoc]
  exact congrArg _ (fnLabels_enumRows u ids ordered _)

theorem declaredFunctions_block {m : Markers} (markers : AreMarkers m) (front : Text) (b : Block)
    (behind : Text) :
    declaredFunctions u b.text ⊆ declaredFunctions u (front ++ m.around b.text behind) := by
  obtain ⟨before, cut⟩ := visible_begins u markers front
  rw [declaredFunctions_eq, declaredFunctions_eq, Markers.around, cut, visible_behind]
  unfold fnLabels
  rw [labels_cut]
  exact fun fn listed => List.mem_append_right _ (labels_subset _ _ _ _ _ listed)

theorem enumEntries_named (text : Text) :
    ∀ entry ∈ enumEntries u text, isIdent u entry.1 = true := by
  intro entry listed
  rw [enumEntries_eq, idsOf, List.mem_map] at listed
  obtain ⟨found, member, rfl⟩ := listed
  exact entries_named u true _ found member

theorem enumEntries_block {m : Markers} (markers : AreMarkers m) (front : Text) (b : Block)
    (behind : Text) : enumEntries u b.text ⊆ enumEntries u (front ++ m.around b.text behind) := by
  obtain ⟨rest, marker⟩ := List.head?_eq_some_iff.mp markers.ends.head
  have ends : Ends u.toAlphabet (b.indent ++ (m.ends ++ behind)) := by
    rw [marker]
    exact Ends.spaces _ (fun c listed => (isBlank_space u (b.indent_blank c listed)).1)
      (Ends.cons _ (slash_sign u).1 _)
  have whole : front ++ m.around b.text behind =
      (front ++ (m.begins ++ b.blanks)) ++
        '\n' :: (b.body ++ (b.indent ++ (m.ends ++ behind))) := by
    simp [Markers.around, Block.text]
  have lines : lex u.toAlphabet b.body = [] ∨
      (lex u.toAlphabet b.body).getLast? = some .newline := by
    rcases b.body_lines with empty | lines
    · exact .inl (by rw [empty, lex_nil])
    · obtain ⟨body, same⟩ := List.getLast?_eq_some_iff.mp lines
      right
      rw [same, lex_append_newline, lex_nil, List.getLast?_concat]
  have inside := entries_inside u true (lex u.toAlphabet (front ++ (m.begins ++ b.blanks))) _
    (lex u.toAlphabet (b.indent ++ (m.ends ++ behind))) lines
  rw [enumEntries_eq, enumEntries_eq, idsOf, idsOf, lex_block, entries_newline, whole,
    lex_append_newline, lex_append _ _ ends]
  exact List.map_subset _ inside

end Enumerators

section Declarations

variable {u : Unicode}

def newFns (side : Side) (newMsgs : List Text) : List Text :=
  (withPrefix side.handles newMsgs).map handleFn ++ (withPrefix side.makes newMsgs).map makeFn

theorem declares_all {fn decl : Text → Text} {msgs : List Text}
    (declares : ∀ msg ∈ msgs, Declares u (decl msg) (fn msg)) :
    List.Forall₂ (Declares u) (msgs.map decl) (msgs.map fn) := by
  induction msgs with
  | nil => exact .nil
  | cons msg msgs ih =>
      obtain ⟨first, later⟩ := List.forall_mem_cons.mp declares
      exact .cons first (ih later)

theorem declares_declsToAdd (already : List Text) (run : Run u) (side : Side)
    (once : run.newMsgs.Nodup) (fresh : ∀ fn ∈ newFns side run.newMsgs, fn ∉ already) :
    List.Forall₂ (Declares u) (declsToAdd already run.newMsgs run.fieldsMap side)
      (newFns side run.newMsgs) := by
  have named {front : Text} : ∀ msg ∈ withPrefix front run.newMsgs, isIdent u msg = true :=
    fun msg listed => (run.messages msg (List.mem_of_mem_filter listed)).1
  have once {front : Text} : (withPrefix front run.newMsgs).Nodup := once.filter _
  have fresh_handles : ∀ msg ∈ withPrefix side.handles run.newMsgs, handleFn msg ∉ already :=
    fun msg listed => fresh _ (List.mem_append_left _ (List.mem_map_of_mem listed))
  have fresh_makes : ∀ msg ∈ withPrefix side.makes run.newMsgs,
      makeFn msg ∉ ((withPrefix side.handles run.newMsgs).map handleFn).reverse ++ already := by
    intro msg listed
    rw [List.mem_append, not_or, List.mem_reverse]
    refine ⟨fun known => ?_, fresh _ (List.mem_append_right _ (List.mem_map_of_mem listed))⟩
    obtain ⟨other, -, same⟩ := List.mem_map.mp known
    exact handleFn_ne_makeFn other msg same
  have both (handleOf makeOf : Text → Text)
      (handle : ∀ msg, isIdent u msg = true → Declares u (handleOf msg) (handleFn msg))
      (make : ∀ msg, isIdent u msg = true → Declares u (makeOf msg) (makeFn msg)) :
      List.Forall₂ (Declares u)
        ((addDecls handleFn handleOf already (withPrefix side.handles run.newMsgs)).1 ++
          (addDecls makeFn makeOf
            (addDecls handleFn handleOf already (withPrefix side.handles run.newMsgs)).2
              (withPrefix side.makes run.newMsgs)).1)
        (newFns side run.newMsgs) := by
    rw [addDecls_fresh handleFn handleOf handleFn_injective once fresh_handles,
      addDecls_fresh makeFn makeOf makeFn_injective once fresh_makes]
    exact List.rel_append (declares_all fun msg listed => handle msg (named msg listed))
      (declares_all fun msg listed => make msg (named msg listed))
  cases side with
  | client =>
      exact both _ _ (fun _ => declares_handle u (by decide) (by decide))
        fun msg => declares_make u (run.fieldsMap msg)
  | server =>
      exact both _ _ (fun _ => declares_handle u (by decide) (by decide))
        fun msg => declares_make u (run.fieldsMap msg)

theorem newFns_nonempty (run : Run u) (side : Side) (news : run.newMsgs ≠ []) :
    newFns side run.newMsgs ≠ [] := by
  obtain ⟨msg, listed⟩ := List.exists_mem_of_ne_nil _ news
  have known : startswith msg side.handles = true ∨ startswith msg side.makes = true := by
    cases side with
    | client => exact (run.messages msg listed).2.symm
    | server => exact (run.messages msg listed).2
  intro empty
  obtain ⟨handled, made⟩ := List.append_eq_nil_iff.mp empty
  rcases known with starts | starts
  · have here := List.mem_map_of_mem (f := handleFn) (List.mem_filter.mpr ⟨listed, starts⟩)
    exact List.ne_nil_of_mem here handled
  · have here := List.mem_map_of_mem (f := makeFn) (List.mem_filter.mpr ⟨listed, starts⟩)
    exact List.ne_nil_of_mem here made

theorem declaredFunctions_merge (front header : Text) (b : Block) (run : Run u) (side : Side)
    (news : run.newMsgs ≠ []) (once : run.newMsgs.Nodup)
    (fresh : ∀ fn ∈ newFns side run.newMsgs, fn ∉ declaredFunctions u header) :
    declaredFunctions u (b.splice u front
        (mergeDeclsBlock b.text header run.newMsgs run.fieldsMap side)).text =
      declaredFunctions u b.text ++ (newFns side run.newMsgs ++ declaredFunctions u b.text) := by
  have declare := declares_declsToAdd (declaredFunctions u header) run side once fresh
  have some_decl : declsToAdd (declaredFunctions u header) run.newMsgs run.fieldsMap side ≠ [] := by
    intro empty
    rw [empty] at declare
    generalize none_new : newFns side run.newMsgs = fns at declare
    cases declare
    exact newFns_nonempty run side news none_new
  rw [declaredFunctions_eq, declaredFunctions_eq, visible_splice,
    visible_mergeDecls u b.text header _ _ side some_decl, List.append_assoc]
  exact fnLabels_behind u declare some_decl _ _

theorem declsToAdd_plain (already : List Text) (run : Run u) (side : Side)
    (once : run.newMsgs.Nodup) (fresh : ∀ fn ∈ newFns side run.newMsgs, fn ∉ already) :
    ∀ line ∈ declsToAdd already run.newMsgs run.fieldsMap side, '/' ∉ line := by
  have declare := declares_declsToAdd already run side once fresh
  generalize declsToAdd already run.newMsgs run.fieldsMap side = decls at declare
  generalize newFns side run.newMsgs = fns at declare
  induction declare with
  | nil => simp
  | cons first _ ih => exact List.forall_mem_cons.mpr ⟨first.plain, ih⟩

end Declarations

structure SourceLayout where
  front : Text
  block : Block
  behind : Text
  clear : Clear autoSwitch front block

namespace SourceLayout

def text (l : SourceLayout) : Text := l.front ++ autoSwitch.around l.block.text l.behind

structure Same (l l' : SourceLayout) : Prop where
  front : l'.front = l.front
  behind : l'.behind = l.behind

theorem Same.refl (l : SourceLayout) : l.Same l := ⟨rfl, rfl⟩

theorem block_read (l : SourceLayout) : getBlock autoSwitch l.text = .ok l.block.text :=
  getBlock_clear autoSwitch_markers l.clear _

end SourceLayout

section Switch

variable {u : Unicode} (run : Run u) (side : Side)

theorem named_handles : ∀ msg ∈ run.newMsgs, isIdent u msg = true :=
  fun msg listed => (run.messages msg listed).1

theorem extractCases_merge (front : Text) (b : Block)
    (fresh : ∀ msg ∈ withPrefix side.handles run.newMsgs, msg ∉ extractCases u b.text)
    (news : withPrefix side.handles run.newMsgs ≠ []) :
    extractCases u (b.splice u front (mergeSwitchBlock u b.text run.newMsgs side)).text =
      extractCases u b.text ++
        (withPrefix side.handles run.newMsgs ++ extractCases u b.text) := by
  have named : ∀ msg ∈ withPrefix side.handles run.newMsgs, isIdent u msg = true :=
    fun msg listed => named_handles run msg (List.mem_of_mem_filter listed)
  have shown := visible_mergeSwitch u b.text run.newMsgs side (named_handles run) fresh news
  rw [extractCases_eq, extractCases_eq, visible_splice, shown, List.append_assoc]
  exact caseLabels_behind u named news _ _

theorem visible_blank_text {text : Text} (blank : isEmpty u text = true) :
    visible u.toAlphabet text = [] := by
  have spaces := visible_spaces u.toAlphabet (List.all_eq_true.mp blank) []
  rwa [List.append_nil] at spaces

theorem extractCases_blank (front : Text) (b : Block) (blank : isEmpty u b.text = true) :
    extractCases u (b.splice u front (mergeSwitchBlock u b.text run.newMsgs side)).text =
      withPrefix side.handles run.newMsgs := by
  have old := visible_blank_text blank
  have none_old : extractCases u b.text = [] := by
    rw [extractCases_eq, old]
    rfl
  cases news : withPrefix side.handles run.newMsgs with
  | nil =>
      have same : mergeSwitchBlock u b.text run.newMsgs side = rstrip u b.text := by
        unfold mergeSwitchBlock
        rw [news]
        rfl
      rw [extractCases_eq, visible_splice, same, visible_rstrip, old]
      rfl
  | cons msg targets =>
      have merged := extractCases_merge run side front b (by simp [none_old]) (by simp [news])
      rw [merged, none_old, news, List.append_nil, List.nil_append]

end Switch

section Files

variable {u : Unicode} (run : Run u) (side : Side)

theorem mergeSource_spec (l : SourceLayout) :
    ∃ l' : SourceLayout, l.Same l' ∧ mergeSource run side l.text = .ok l'.text ∧
      l'.block = l.block.splice u l.front
        (mergeSwitchBlock u l.block.text run.newMsgs side) := by
  have old : ¬ autoSwitch.ends <:+: l.block.text := fun inside =>
    l.clear.ends (inside.trans ⟨l.front ++ autoSwitch.begins, [], by simp⟩)
  have new : ¬ autoSwitch.ends <:+:
      rstrip u (mergeSwitchBlock u l.block.text run.newMsgs side) := fun inside =>
    mergeSwitchBlock_absent u autoSwitch_markers.ends old (named_handles run) side
      (inside.trans (rdropWhile_within _ _))
  refine ⟨⟨l.front, _, l.behind, l.clear.splice u autoSwitch_markers new⟩, ⟨rfl, rfl⟩, ?_, rfl⟩
  unfold mergeSource
  rw [l.block_read]
  exact replaceBlock_clear u autoSwitch_markers l.clear _ _

theorem mergeIds_named (b : Block) (idMap : Dict Text Nat) :
    ∀ name ∈ (mergeIds (extractEnumIdsAnywhere u b.text) idMap run.newMsgs).keys,
      isIdent u name = true := by
  intro name listed
  obtain ⟨id, found⟩ := (Dict.mem_keys _ _).mp listed
  rw [mergeIds_get] at found
  cases old : (extractEnumIdsAnywhere u b.text).get name with
  | some id =>
      rcases Dict.get_setAll_some old with member | empty
      · exact enumEntries_named u _ _ member
      · cases empty
  | none =>
      rw [old, Option.none_or, Option.ite_none_right_eq_some] at found
      exact named_handles run name found.1

structure Merges (b : Block) (idMap : Dict Text Nat) (new : List (Text × Nat)) : Prop where
  once : (new.map Prod.fst).Nodup
  items : ∀ name id, (name, id) ∈ new ↔
    (mergeIds (extractEnumIdsAnywhere u b.text) idMap run.newMsgs).get name = some id

theorem enumEntries_spec (front : Text) (b : Block) (idMap : Dict Text Nat)
    (news : run.newMsgs ≠ []) (ids : ∀ msg ∈ run.newMsgs, msg ∈ idMap.keys) :
    ∃ new, Merges run b idMap new ∧
      enumEntries u (b.splice u front (mergeEnumBlock u b.text idMap run.newMsgs)).text =
        new ++ enumEntries u b.text := by
  have nonempty : (mergeIds (extractEnumIdsAnywhere u b.text) idMap run.newMsgs).keys ≠ [] := by
    obtain ⟨msg, listed⟩ := List.exists_mem_of_ne_nil _ news
    obtain ⟨id, known⟩ := (Dict.mem_keys _ _).mp (ids msg listed)
    apply List.ne_nil_of_mem (a := msg)
    rw [Dict.mem_keys, mergeIds_get, if_pos listed, known]
    cases (extractEnumIdsAnywhere u b.text).get msg with
    | some old => exact ⟨old, rfl⟩
    | none => exact ⟨id, rfl⟩
  obtain ⟨ordered, perm, merged⟩ :=
    enumEntries_merge u front b idMap (mergeIds_named run b idMap) nonempty
  refine ⟨_, ⟨?_, fun name id => ?_⟩, merged⟩
  · have same : ordered.map (Prod.fst ∘ fun name => (name,
        ((mergeIds (extractEnumIdsAnywhere u b.text) idMap run.newMsgs).get name).getD 0)) =
        ordered := List.map_id _
    rw [List.map_map, same]
    exact perm.nodup_iff.mpr (Dict.keys_nodup _)
  · rw [List.mem_map]
    constructor
    · rintro ⟨other, listed, same⟩
      obtain ⟨id', found⟩ := (Dict.mem_keys _ _).mp (perm.mem_iff.mp listed)
      cases same
      rw [found]
      rfl
    · intro found
      refine ⟨name, perm.mem_iff.mpr ((Dict.mem_keys _ _).mpr ⟨id, found⟩), ?_⟩
      rw [found]
      rfl

theorem mergeHeader_spec (l : Layout) (idMap : Dict Text Nat) (news : run.newMsgs ≠ [])
    (once : run.newMsgs.Nodup) (ids : ∀ msg ∈ run.newMsgs, msg ∈ idMap.keys)
    (fresh : ∀ fn ∈ newFns side run.newMsgs, fn ∉ declaredFunctions u l.text) :
    ∃ l' : Layout, l.Same l' ∧ mergeHeader run idMap side l.text = .ok l'.text ∧
      (∃ new, Merges run (l.blockOf autoEnum) idMap new ∧
        enumEntries u (l'.blockOf autoEnum).text =
          new ++ enumEntries u (l.blockOf autoEnum).text) ∧
      declaredFunctions u (l'.blockOf autoDecl).text =
        declaredFunctions u (l.blockOf autoDecl).text ++
          (newFns side run.newMsgs ++ declaredFunctions u (l.blockOf autoDecl).text) := by
  have named := mergeIds_named run (l.blockOf autoEnum) idMap
  have plain := mergeEnumBlock_plain u (l.blockOf autoEnum).text idMap run.newMsgs named
  obtain ⟨middle, same, enums, whole, enum_block, others⟩ := l.has_enum.replace u
    (l.has_enum.keeps.of (fun marker is inside =>
      absurd (inside.trans (rdropWhile_within _ _)) (is.absent plain)) l.has_enum)
  have decl_block := others autoDecl l.has_decl (by decide)
  have declared : declaredFunctions u middle.text = declaredFunctions u l.text := by
    rw [whole, l.has_enum.split]
    exact declaredFunctions_splice u l.has_enum.markers _ _ idMap run.newMsgs named _
  rw [← declared] at fresh
  have lines := declsToAdd_plain (declaredFunctions u middle.text) run side once fresh
  obtain ⟨l', same', decls, -, decl_block', others'⟩ := middle.has_decl.replace u
    (middle.has_decl.keeps.of (fun marker is inside => by
      by_contra outside
      exact mergeDeclsBlock_absent u is outside lines (inside.trans (rdropWhile_within _ _)))
      middle.has_decl)
  have enum_block' := others' autoEnum middle.has_enum (by decide)
  refine ⟨l', same.trans same', ?_, ?_, ?_⟩
  · simp only [mergeHeader, l.has_enum.getBlock, enums, middle.has_decl.getBlock, decls, bind,
      Except.bind]
  · rw [enum_block', enum_block]
    exact enumEntries_spec run _ _ idMap news ids
  · rw [decl_block', ← decl_block]
    exact declaredFunctions_merge _ _ _ run side news once fresh

end Files

end GenNetworkFunc

end ZeldaServer
