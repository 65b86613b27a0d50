import ZeldaServer.Protocol.Layouts

/-! Runs of the generator: which names and declarations the blocks hold afterwards. -/

namespace ZeldaServer

namespace GenNetworkFunc

open Lexemes
open Patterns (Text)

theorem nextFree_free (used : List Nat) (nid : Nat) : nextFree used nid ∉ used := by
  unfold nextFree
  cases found : (List.range' nid (used.length + 1)).find? (· ∉ used) with
  | some id => simpa using List.find?_some found
  | none =>
      -- More ids than are in use cannot all be in use.
      have all : List.range' nid (used.length + 1) ⊆ used := by
        intro id listed
        simpa using List.find?_eq_none.mp found id listed
      have once : (List.range' nid (used.length + 1)).Nodup := List.nodup_range'
      have short := once.length_le_of_subset all
      rw [List.length_range'] at short
      omega

structure Assigned (existing : Dict Text Nat) (st : Assigning) : Prop where
  used : ∀ name id, st.out.get name = some id → id ∈ st.used
  distinct : ∀ name other id, st.out.get name = some id → st.out.get other = some id → name = other
  kept : ∀ name id, existing.get name = some id → st.out.get name = some id

theorem Assigned.add {existing : Dict Text Nat} {st : Assigning} (assigned : Assigned existing st)
    {name : Text} (absent : name ∉ st.out.keys) {nid : Nat} (free : nid ∉ st.used) (c s : Nat) :
    Assigned existing ⟨st.out.set name nid, nid :: st.used, c, s⟩ where
  used other id found := by
    rw [Dict.get_set] at found
    split at found
    · cases found
      exact List.mem_cons_self
    · exact List.mem_cons_of_mem _ (assigned.used other id found)
  distinct first second id found found' := by
    rw [Dict.get_set] at found found'
    split at found
    case isTrue same =>
      cases found
      split at found'
      case isTrue same' => rw [same, same']
      case isFalse => exact absurd (assigned.used second _ found') free
    case isFalse =>
      split at found'
      case isTrue =>
        cases found'
        exact absurd (assigned.used first _ found) free
      case isFalse => exact assigned.distinct first second id found found'
  kept other id found := by
    have before := assigned.kept other id found
    rw [Dict.get_set]
    split
    case isTrue same =>
      rw [same] at before
      exact absurd ((st.out.mem_keys name).mpr ⟨id, before⟩) absent
    case isFalse => exact before

theorem Assigned.assign {existing : Dict Text Nat} {st : Assigning}
    (assigned : Assigned existing st) (name : Text) : Assigned existing (assignId st name) := by
  unfold assignId
  split
  case isTrue => exact assigned
  case isFalse absent =>
    split
    · exact assigned.add absent (nextFree_free _ _) _ _
    · split
      · exact assigned.add absent (nextFree_free _ _) _ _
      · exact assigned

theorem keys_assign (st : Assigning) (name other : Text) (known : other ∈ st.out.keys ∨
    other = name ∧ (startswith name clientToServer = true ∨
      startswith name serverToClient = true)) : other ∈ (assignId st name).out.keys := by
  have set_keys (nid : Nat) (known : other ∈ st.out.keys ∨ other = name) :
      other ∈ (st.out.set name nid).keys := by
    rw [Dict.mem_keys, Dict.get_set]
    by_cases same : other = name
    · simp [same]
    · simpa [same] using (st.out.mem_keys other).mp (known.resolve_right same)
  unfold assignId
  split
  case isTrue present => exact known.elim id fun both => both.1 ▸ present
  case isFalse absent =>
    split
    case isTrue => exact set_keys _ (known.imp_right And.left)
    case isFalse not_c =>
      split
      case isTrue => exact set_keys _ (known.imp_right And.left)
      case isFalse not_s =>
        exact known.elim id fun both => both.2.elim (fun is => absurd is not_c)
          fun is => absurd is not_s

theorem assignIds_spec (existing : Dict Text Nat) (newMsgs : List Text) (cStart sStart : Nat)
    (distinct : ∀ name other id, existing.get name = some id → existing.get other = some id →
      name = other)
    (messages : ∀ msg ∈ newMsgs,
      startswith msg clientToServer = true ∨ startswith msg serverToClient = true) :
    let idMap := assignIdsForNewMessages existing newMsgs cStart sStart
    (∀ msg ∈ newMsgs, msg ∈ idMap.keys) ∧
      (∀ name other id, idMap.get name = some id → idMap.get other = some id → name = other) ∧
      ∀ name id, existing.get name = some id → idMap.get name = some id := by
  have all (st : Assigning) (assigned : Assigned existing st) :
      Assigned existing (newMsgs.foldl assignId st) ∧
        ∀ name, name ∈ st.out.keys ∨ name ∈ newMsgs →
          name ∈ (newMsgs.foldl assignId st).out.keys := by
    induction newMsgs generalizing st with
    | nil => exact ⟨assigned, fun name known => known.elim id (absurd · (by simp))⟩
    | cons msg newMsgs ih =>
        obtain ⟨first, later⟩ := List.forall_mem_cons.mp messages
        obtain ⟨result, keys⟩ := ih later (assignId st msg) (assigned.assign msg)
        refine ⟨result, fun name known => keys name ?_⟩
        rcases known with known | listed
        · exact .inl (keys_assign st msg name (.inl known))
        · rcases List.mem_cons.mp listed with rfl | listed
          · exact .inl (keys_assign st name name (.inr ⟨rfl, first⟩))
          · exact .inr listed
  obtain ⟨result, keys⟩ := all
    { out := existing
      used := existing.items.map Prod.snd
      cNext := nextIdForPrefix existing clientToServer cStart
      sNext := nextIdForPrefix existing serverToClient sStart }
    { used := fun name id found => by
        obtain ⟨item, first, rfl⟩ := Option.map_eq_some_iff.mp found
        exact List.mem_map_of_mem (List.mem_of_find?_eq_some first)
      distinct := distinct
      kept := fun _ _ found => found }
  exact ⟨fun msg listed => keys msg (.inr listed), result.distinct, result.kept⟩

section Projects

def Project.header (p : Project) : Side → Text
  | .client => p.clientH
  | .server => p.serverH

def Project.source (p : Project) : Side → Text
  | .client => p.clientCpp
  | .server => p.serverCpp

def blockText (m : Markers) (text : Text) : Text := (getBlock m text).toOption.getD []

variable (u : Unicode)

def enumerators (header : Text) : List (Text × Nat) := enumEntries u (blockText autoEnum header)

def declarations (header : Text) : List Text :=
  declaredFunctions u (blockText autoDecl header)

def switchLabels (source : Text) : List Text := extractCases u (blockText autoSwitch source)

/-- The markers are valid: each stands on a line of its own, and is the first of its kind. -/
structure Project.Valid (p : Project) : Prop where
  header : ∀ side, ∃ l : Layout, l.text = p.header side
  source : ∀ side, ∃ l : SourceLayout, l.text = p.source side

def Project.existing (p : Project) : List (Text × Nat) :=
  enumEntries u p.clientH ++ enumEntries u p.serverH

def Distinct (items : List (Text × Nat)) : Prop :=
  ∀ x ∈ items, ∀ y ∈ items, x.1 = y.1 ↔ x.2 = y.2

variable {u}

/-- A run lists no name twice, and none that the blocks hold or that the header declares. -/
structure Fresh (p : Project) (run : Run u) : Prop where
  once : run.newMsgs.Nodup
  enumerator : ∀ side, ∀ msg ∈ run.newMsgs, msg ∉ (enumerators u (p.header side)).map Prod.fst
  declared : ∀ side, ∀ fn ∈ newFns side run.newMsgs, fn ∉ declaredFunctions u (p.header side)
  label : ∀ side, ∀ msg ∈ withPrefix side.handles run.newMsgs,
    msg ∉ switchLabels u (p.source side)

variable (u)

structure BlankBlocks (header source : Text) : Prop where
  enum : isEmpty u (blockText autoEnum header) = true
  decl : isEmpty u (blockText autoDecl header) = true
  switch : isEmpty u (blockText autoSwitch source) = true

structure MergedSide (generated : List Text) (side : Side)
    (header source header' source' : Text) : Prop where
  enumerator : ∀ msg ∈ generated, ((enumerators u header').map Prod.fst).count msg = 1
  handled : ∀ msg ∈ withPrefix side.handles generated,
    (declarations u header').count (handleFn msg) = 1 ∧ (switchLabels u source').count msg = 1
  made : ∀ msg ∈ withPrefix side.makes generated,
    (declarations u header').count (makeFn msg) = 1
  single : BlankBlocks u header source → ((enumerators u header').map Prod.fst).Nodup ∧
    (declarations u header').Nodup ∧ (switchLabels u source').Nodup
  headerAround : ∃ l l' : Layout, l.text = header ∧ l'.text = header' ∧ l.Same l'
  sourceAround : ∃ l l' : SourceLayout, l.text = source ∧ l'.text = source' ∧ l.Same l'

end Projects

section Steps

variable {u : Unicode}

theorem blockText_header {l : Layout} {m : Markers} (has : l.Has m) :
    blockText m l.text = (l.blockOf m).text := by
  rw [blockText, has.getBlock]
  rfl

theorem blockText_source (l : SourceLayout) : blockText autoSwitch l.text = l.block.text := by
  rw [blockText, l.block_read]
  rfl

theorem newFns_nodup (side : Side) {newMsgs : List Text} (once : newMsgs.Nodup) :
    (newFns side newMsgs).Nodup := by
  refine ((once.filter _).map handleFn_injective).append
    ((once.filter _).map makeFn_injective) fun fn handled made => ?_
  obtain ⟨msg, -, rfl⟩ := List.mem_map.mp handled
  obtain ⟨other, -, same⟩ := List.mem_map.mp made
  exact handleFn_ne_makeFn msg other same.symm

theorem count_between {α : Type} [BEq α] [LawfulBEq α] {old new : List α} (once : new.Nodup) {x : α}
    (listed : x ∈ new) (absent : x ∉ old) : (old ++ (new ++ old)).count x = 1 := by
  rw [List.count_append, List.count_append, List.count_eq_zero_of_not_mem absent,
    List.count_eq_one_of_mem once listed]

variable {run : Run u} {side : Side} {idMap : Dict Text Nat}

theorem enumEntries_blank {text : Text} (blank : isEmpty u text = true) :
    enumEntries u text = [] := by
  obtain ⟨n, row, -⟩ := lex_spaces u.toAlphabet (List.all_eq_true.mp blank) []
  have none_listed := entries_lines u true n []
  rw [List.append_nil] at none_listed
  rw [enumEntries_eq, idsOf, row, none_listed]
  rfl

theorem Merges.ids {b : Block} {new : List (Text × Nat)} (merges : Merges run b idMap new)
    (kept : ∀ item ∈ enumEntries u b.text, idMap.get item.1 = some item.2) :
    ∀ item ∈ new, idMap.get item.1 = some item.2 := by
  rintro ⟨name, id⟩ listed
  have found := (merges.items name id).mp listed
  rw [mergeIds_get] at found
  cases old : (extractEnumIdsAnywhere u b.text).get name with
  | some id' =>
      rw [old, Option.some_or] at found
      cases found
      rcases Dict.get_setAll_some old with member | empty
      · exact kept _ member
      · cases empty
  | none =>
      rw [old, Option.none_or, Option.ite_none_right_eq_some] at found
      exact found.2

theorem Merges.lists {b : Block} {new : List (Text × Nat)} (merges : Merges run b idMap new)
    {msg : Text} (listed : msg ∈ run.newMsgs) (known : msg ∈ idMap.keys) :
    msg ∈ new.map Prod.fst := by
  obtain ⟨id, found⟩ := (Dict.mem_keys _ _).mp known
  have got : ∃ id, (mergeIds (extractEnumIdsAnywhere u b.text) idMap run.newMsgs).get msg =
      some id := by
    rw [mergeIds_get, if_pos listed, found]
    cases (extractEnumIdsAnywhere u b.text).get msg with
    | some old => exact ⟨old, rfl⟩
    | none => exact ⟨id, rfl⟩
  obtain ⟨id', got⟩ := got
  exact List.mem_map.mpr ⟨(msg, id'), (merges.items msg id').mpr got, rfl⟩

theorem side_merges {header source : Text} (news : run.newMsgs ≠ [])
    (l : Layout) (l_text : l.text = header) (k : SourceLayout) (k_text : k.text = source)
    (once : run.newMsgs.Nodup)
    (absent : ∀ msg ∈ run.newMsgs, msg ∉ (enumerators u header).map Prod.fst)
    (declared : ∀ fn ∈ newFns side run.newMsgs, fn ∉ declaredFunctions u header)
    (label : ∀ msg ∈ withPrefix side.handles run.newMsgs, msg ∉ switchLabels u source)
    (ids : ∀ msg ∈ run.newMsgs, msg ∈ idMap.keys)
    (kept : ∀ item ∈ enumEntries u header, idMap.get item.1 = some item.2) :
    ∃ header' source', mergeHeader run idMap side header = .ok header' ∧
      mergeSource run side source = .ok source' ∧
      MergedSide u run.newMsgs side header source header' source' ∧
      enumerators u header ⊆ enumerators u header' ∧
      ∀ item ∈ enumerators u header', idMap.get item.1 = some item.2 := by
  subst l_text k_text
  obtain ⟨l', same, headers, ⟨new, merges, enums⟩, decls⟩ :=
    mergeHeader_spec run side l idMap news once ids declared
  obtain ⟨k', same', sources, switch⟩ := mergeSource_spec run side k
  have old_items : enumEntries u (l.blockOf autoEnum).text ⊆ enumEntries u l.text := by
    rw [l.has_enum.split]
    exact enumEntries_block u l.has_enum.markers _ _ _
  have old_fns : declaredFunctions u (l.blockOf autoDecl).text ⊆ declaredFunctions u l.text := by
    rw [l.has_decl.split]
    exact declaredFunctions_block u l.has_decl.markers _ _ _
  have enumerators' : enumerators u l'.text = new ++ enumerators u l.text := by
    rw [enumerators, enumerators, blockText_header l.has_enum, blockText_header l'.has_enum, enums]
  have declarations' : declarations u l'.text =
      declarations u l.text ++ (newFns side run.newMsgs ++ declarations u l.text) := by
    rw [declarations, declarations, blockText_header l.has_decl, blockText_header l'.has_decl,
      decls]
  have item_ids : ∀ item ∈ enumerators u l.text, idMap.get item.1 = some item.2 := by
    rw [enumerators, blockText_header l.has_enum]
    exact fun item listed => kept item (old_items listed)
  have new_ids := merges.ids fun item listed => kept item (old_items listed)
  have declared_once : ∀ fn ∈ newFns side run.newMsgs, (declarations u l'.text).count fn = 1 := by
    intro fn listed
    rw [declarations']
    refine count_between (newFns_nodup side once) listed fun old => declared fn listed ?_
    rw [declarations, blockText_header l.has_decl] at old
    exact old_fns old
  have labels_once : ∀ msg ∈ withPrefix side.handles run.newMsgs,
      (switchLabels u k'.text).count msg = 1 := by
    intro msg listed
    have fresh : ∀ msg ∈ withPrefix side.handles run.newMsgs,
        msg ∉ extractCases u k.block.text := by
      rwa [switchLabels, blockText_source] at label
    rw [switchLabels, blockText_source, switch,
      extractCases_merge run side k.front k.block fresh (List.ne_nil_of_mem listed)]
    exact count_between (once.filter _) listed (fresh msg listed)
  refine ⟨l'.text, k'.text, headers, sources, ⟨?_, ?_, ?_, ?_, ⟨l, l', rfl, rfl, same⟩,
    ⟨k, k', rfl, rfl, same'⟩⟩, ?_, ?_⟩
  · intro msg listed
    rw [enumerators', List.map_append, List.count_append,
      List.count_eq_one_of_mem merges.once (merges.lists listed (ids msg listed)),
      List.count_eq_zero_of_not_mem (absent msg listed)]
  · intro msg listed
    exact ⟨declared_once _ (List.mem_append_left _ (List.mem_map_of_mem listed)),
      labels_once msg listed⟩
  · intro msg listed
    exact declared_once _ (List.mem_append_right _ (List.mem_map_of_mem listed))
  · intro blank
    have none_listed : enumerators u l.text = [] := enumEntries_blank blank.enum
    have none_declared : declarations u l.text = [] := by
      rw [declarations, declaredFunctions_eq, visible_blank_text blank.decl]
      rfl
    have switch_blank : isEmpty u k.block.text = true := by
      have blank := blank.switch
      rwa [blockText_source] at blank
    refine ⟨?_, ?_, ?_⟩
    · rw [enumerators', none_listed, List.append_nil]
      exact merges.once
    · rw [declarations', none_declared, List.append_nil, List.nil_append]
      exact newFns_nodup side once
    · rw [switchLabels, blockText_source, switch, extractCases_blank run side _ _ switch_blank]
      exact once.filter _
  · rw [enumerators']
    exact List.subset_append_right _ _
  · intro item listed
    rw [enumerators', List.mem_append] at listed
    exact listed.elim (new_ids item) (item_ids item)

def after (p : Project) (runs : List (Run u)) : Project :=
  runs.foldl (fun p run => ((main run).run.run p).2) p

def generated (runs : List (Run u)) : List Text := runs.flatMap Run.newMsgs

/-- A project once the messages are generated: each stands once in its blocks, the ids are
distinct, what had an id `before` keeps it, and the text around the blocks is that of the
`start`. -/
structure Merged (u : Unicode) (start before p : Project) (generated : List Text) : Prop where
  side : ∀ side, MergedSide u generated side (start.header side) (start.source side)
    (p.header side) (p.source side)
  kept : ∀ side, enumerators u (before.header side) ⊆ enumerators u (p.header side)
  distinct : Distinct (start.existing u ++
    (enumerators u p.clientH ++ enumerators u p.serverH))

def existingIds (u : Unicode) (p : Project) : Dict Text Nat :=
  (extractEnumIdsAnywhere u p.clientH).update (extractEnumIdsAnywhere u p.serverH)

theorem existing_of_get {p : Project} {name : Text} {id : Nat}
    (found : (existingIds u p).get name = some id) : (name, id) ∈ p.existing u := by
  have listed {text : Text} (found : (extractEnumIdsAnywhere u text).get name = some id) :
      (name, id) ∈ enumEntries u text := by
    rcases Dict.get_setAll_some found with member | empty
    · exact member
    · cases empty
  rcases Dict.get_setAll_some found with member | found
  · exact List.mem_append_right _ (listed (Dict.mem_items _ _ _ member))
  · exact List.mem_append_left _ (listed found)

theorem get_of_existing {p : Project} (distinct : Distinct (p.existing u)) :
    ∀ item ∈ p.existing u, (existingIds u p).get item.1 = some item.2 := by
  intro item listed
  have keys (text : Text) (name : Text) (member : name ∈ (enumEntries u text).map Prod.fst) :
      name ∈ (extractEnumIdsAnywhere u text).keys := (Dict.keys_setAll _ _ _).mpr (.inr member)
  have known : item.1 ∈ (existingIds u p).keys := by
    refine (Dict.keys_setAll _ _ _).mpr ?_
    exact (List.mem_append.mp listed).imp
      (fun here => keys _ _ (List.mem_map_of_mem here))
      fun here => keys _ _ (List.mem_map_of_mem here)
  obtain ⟨id, found⟩ := (Dict.mem_keys _ _).mp known
  have same := (distinct _ (existing_of_get found) _ listed).mp rfl
  rw [found, ← same]

theorem files_written (f₁ f₂ f₃ f₄ : Project → Except RuntimeError Text) {p p' : Project}
    (first : f₁ p = .ok p'.clientH) (second : f₂ p = .ok p'.clientCpp)
    (third : f₃ p = .ok p'.serverH) (fourth : f₄ p = .ok p'.serverCpp) :
    (do
      let files ← get
      let clientH ← f₁ files
      modify ({ · with clientH })
      let clientCpp ← f₂ files
      modify ({ · with clientCpp })
      let serverH ← f₃ files
      modify ({ · with serverH })
      let serverCpp ← f₄ files
      modify ({ · with serverCpp }) : ExceptT RuntimeError (StateM Project) Unit).run.run p =
      (.ok (), p') := by
  simp only [bind, ExceptT.bind, ExceptT.bindCont, ExceptT.run, ExceptT.mk, StateT.bind,
    StateT.run, get, getThe, MonadStateOf.get, liftM, monadLift, MonadLift.monadLift, ExceptT.lift,
    StateT.get, pure, modify, modifyGet, MonadStateOf.modifyGet, Functor.map, StateT.map, first,
    second, third, fourth]
  rfl

theorem main_files {run : Run u} {p p' : Project} (news : run.newMsgs ≠ [])
    (headers : ∀ side, mergeHeader run
      (assignIdsForNewMessages (existingIds u p) run.newMsgs 101 201) side (p.header side) =
        .ok (p'.header side))
    (sources : ∀ side, mergeSource run side (p.source side) = .ok (p'.source side)) :
    (main run).run.run p = (.ok (), p') := by
  unfold main
  rw [if_neg news]
  exact files_written
    (fun files => mergeHeader run
      (assignIdsForNewMessages (existingIds u files) run.newMsgs 101 201) .client files.clientH)
    (fun files => mergeSource run .client files.clientCpp)
    (fun files => mergeHeader run
      (assignIdsForNewMessages (existingIds u files) run.newMsgs 101 201) .server files.serverH)
    (fun files => mergeSource run .server files.serverCpp)
    (headers .client) (sources .client) (headers .server) (sources .server)

theorem main_idle {run : Run u} (idle : run.newMsgs = []) (p : Project) :
    (main run).run.run p = (.ok (), p) := by
  unfold main
  rw [if_pos idle]
  rfl

theorem existing_header (p : Project) (side : Side) :
    enumEntries u (p.header side) ⊆ p.existing u := by
  cases side with
  | client => exact List.subset_append_left _ _
  | server => exact List.subset_append_right _ _

theorem distinct_of_get {idMap : Dict Text Nat} {items : List (Text × Nat)}
    (apart : ∀ name other id, idMap.get name = some id → idMap.get other = some id → name = other)
    (ids : ∀ item ∈ items, idMap.get item.1 = some item.2) : Distinct items := by
  intro x x_listed y y_listed
  have x_id := ids x x_listed
  have y_id := ids y y_listed
  constructor
  · intro same
    rw [same, y_id] at x_id
    exact (Option.some.inj x_id).symm
  · intro same
    rw [same] at x_id
    exact apart _ _ _ x_id y_id

theorem run_merges {start : Project} (valid : start.Valid)
    (distinct : Distinct (start.existing u)) {run : Run u} (news : run.newMsgs ≠ [])
    (fresh : Fresh start run) : Merged u start start (after start [run]) run.newMsgs := by
  have known := get_of_existing distinct
  obtain ⟨ids, apart, kept⟩ := assignIds_spec (existingIds u start) run.newMsgs 101 201
    (fun name other id found found' => (distinct _ (existing_of_get found) _
      (existing_of_get found')).mpr rfl)
    fun msg listed => (run.messages msg listed).2
  have existing_ids : ∀ item ∈ start.existing u,
      (assignIdsForNewMessages (existingIds u start) run.newMsgs 101 201).get item.1 =
        some item.2 := fun item listed => kept _ _ (known item listed)
  have each (side : Side) : ∃ header' source', mergeHeader run
      (assignIdsForNewMessages (existingIds u start) run.newMsgs 101 201) side
        (start.header side) = .ok header' ∧ mergeSource run side (start.source side) = .ok source' ∧
      MergedSide u run.newMsgs side (start.header side) (start.source side) header' source' ∧
      enumerators u (start.header side) ⊆ enumerators u header' ∧
      ∀ item ∈ enumerators u header', (assignIdsForNewMessages (existingIds u start) run.newMsgs
        101 201).get item.1 = some item.2 := by
    obtain ⟨l, l_text⟩ := valid.header side
    obtain ⟨k, k_text⟩ := valid.source side
    exact side_merges news l l_text k k_text fresh.once (fresh.enumerator side)
      (fresh.declared side) (fresh.label side) ids
      fun item listed => existing_ids item (existing_header start side listed)
  choose header' source' headers sources merged before item_ids using each
  let p' : Project := ⟨header' .client, source' .client, header' .server, source' .server⟩
  have header (side : Side) : p'.header side = header' side := by cases side <;> rfl
  have source (side : Side) : p'.source side = source' side := by cases side <;> rfl
  have files : (main run).run.run start = (.ok (), p') := by
    apply main_files news
    · exact fun side => (header side).symm ▸ headers side
    · exact fun side => (source side).symm ▸ sources side
  have result : after start [run] = p' := congrArg Prod.snd files
  rw [result]
  refine ⟨fun side => ?_, fun side => ?_, distinct_of_get apart fun item listed => ?_⟩
  · rw [header, source]
    exact merged side
  · rw [header]
    exact before side
  · rcases List.mem_append.mp listed with old | new
    · exact existing_ids item old
    · exact (List.mem_append.mp new).elim (item_ids .client item) (item_ids .server item)

theorem start_merged {start : Project} (valid : start.Valid)
    (distinct : Distinct (start.existing u)) : Merged u start start start [] where
  side side := {
    enumerator := by simp
    handled := by simp [withPrefix]
    made := by simp [withPrefix]
    single := fun blank => by
      have none_listed : enumerators u (start.header side) = [] := enumEntries_blank blank.enum
      have none_declared : declarations u (start.header side) = [] := by
        rw [declarations, declaredFunctions_eq, visible_blank_text blank.decl]
        rfl
      have no_label : switchLabels u (start.source side) = [] := by
        rw [switchLabels, extractCases_eq, visible_blank_text blank.switch]
        rfl
      simp [none_listed, none_declared, no_label]
    headerAround := by
      obtain ⟨l, l_text⟩ := valid.header side
      exact ⟨l, l, l_text, l_text, .refl l⟩
    sourceAround := by
      obtain ⟨l, l_text⟩ := valid.source side
      exact ⟨l, l, l_text, l_text, .refl l⟩ }
  kept _ := List.Subset.refl _
  distinct := by
    have inside (side : Side) : enumerators u (start.header side) ⊆ start.existing u := by
      obtain ⟨l, l_text⟩ := valid.header side
      have block : enumerators u l.text ⊆ enumEntries u l.text := by
        rw [enumerators, blockText_header l.has_enum]
        rw [l.has_enum.split]
        exact enumEntries_block u l.has_enum.markers _ _ _
      rw [l_text] at block
      exact fun item listed => existing_header start side (block listed)
    have all : start.existing u ++ (enumerators u start.clientH ++ enumerators u start.serverH) ⊆
        start.existing u :=
      List.append_subset.mpr ⟨List.Subset.refl _,
        List.append_subset.mpr ⟨inside .client, inside .server⟩⟩
    exact fun x x_listed y y_listed => distinct x (all x_listed) y (all y_listed)

theorem after_append (p : Project) (earlier later : List (Run u)) :
    after p (earlier ++ later) = after (after p earlier) later := List.foldl_append

theorem after_idle {runs : List (Run u)} (idle : ∀ run ∈ runs, run.newMsgs = []) (p : Project) :
    after p runs = p ∧ generated runs = [] := by
  induction runs generalizing p with
  | nil => exact ⟨rfl, rfl⟩
  | cons run runs ih =>
      obtain ⟨first, later⟩ := List.forall_mem_cons.mp idle
      obtain ⟨files, none_new⟩ := ih later p
      have still : after p (run :: runs) = after p runs := by
        unfold after
        rw [List.foldl_cons, main_idle first]
      rw [still]
      exact ⟨files, by rw [generated, List.flatMap_cons, first, List.nil_append]; exact none_new⟩

/-- At most one of the runs lists messages, and finds none of them in the files. -/
structure Meets (start : Project) (runs : List (Run u)) : Prop where
  once : (runs.filter (·.newMsgs ≠ [])).length ≤ 1
  fresh : ∀ run ∈ runs, Fresh start run

theorem idle_of_filter {runs : List (Run u)}
    (none_new : (runs.filter (·.newMsgs ≠ [])).length = 0) : ∀ run ∈ runs, run.newMsgs = [] := by
  intro run listed
  have empty := List.filter_eq_nil_iff.mp (List.length_eq_zero_iff.mp none_new) run listed
  simpa using empty

theorem runs_merge {start : Project} (valid : start.Valid)
    (distinct : Distinct (start.existing u)) {runs : List (Run u)} (meets : Meets start runs) :
    Merged u start start (after start runs) (generated runs) := by
  induction runs with
  | nil => exact start_merged valid distinct
  | cons run runs ih =>
      obtain ⟨fresh, later⟩ := List.forall_mem_cons.mp meets.fresh
      have once := meets.once
      by_cases idle : run.newMsgs = []
      · have same := @after_idle u [run] (by simpa using idle) start
        have rest : after start (run :: runs) = after start runs := by
          rw [← List.singleton_append, after_append, same.1]
        have names : generated (run :: runs) = generated runs := by
          rw [generated, List.flatMap_cons, idle, List.nil_append]
          rfl
        rw [rest, names]
        rw [List.filter_cons_of_neg (by simpa using idle)] at once
        exact ih ⟨once, later⟩
      · rw [List.filter_cons_of_pos (by simpa using idle), List.length_cons] at once
        have still := after_idle (@idle_of_filter u runs (by omega)) (after start [run])
        have names : generated (run :: runs) = run.newMsgs := by
          have none_new := still.2
          rw [generated] at none_new ⊢
          rw [List.flatMap_cons, none_new, List.append_nil]
        rw [← List.singleton_append, after_append, still.1, List.singleton_append, names]
        exact run_merges valid distinct idle fresh

/-- The generator merges without duplication as long as the splice, which keeps the old block
behind the new one, keeps nothing that was generated. -/
theorem generator_merges {start : Project} (valid : start.Valid)
    (distinct : Distinct (start.existing u)) (earlier later : List (Run u))
    (meets : Meets start (earlier ++ later)) :
    Merged u start (after start earlier) (after start (earlier ++ later))
      (generated (earlier ++ later)) := by
  have merged := runs_merge valid distinct meets
  have once := meets.once
  rw [List.filter_append, List.length_append] at once
  by_cases before : (earlier.filter (·.newMsgs ≠ [])).length = 0
  · rw [(after_idle (idle_of_filter before) start).1]
    exact merged
  · have still := (after_idle (@idle_of_filter u later (by omega)) (after start earlier)).1
    rw [after_append, still] at merged ⊢
    exact ⟨merged.side, fun side => List.Subset.refl _, merged.distinct⟩

end Steps

section Sample

def isAsciiSpace (c : Char) : Bool :=
  c.toNat ∈ [9, 10, 11, 12, 13, 28, 29, 30, 31, 32, 0x85, 0x2028, 0x2029]

theorem asciiSpace_apart (c : Char) (space : isAsciiSpace c = true) :
    (c.isAlphanum || c = '_') = false := by
  simp only [isAsciiSpace, decide_eq_true_eq, List.mem_cons, List.not_mem_nil, or_false] at space
  by_contra word
  rw [Bool.not_eq_false, Bool.or_eq_true, Char.isAlphanum, Bool.or_eq_true,
    decide_eq_true_eq] at word
  rcases word with (letter | digit) | rfl
  · have codes := letter_codes letter
    omega
  · have codes : (decide ('0'.val ≤ c.val) && decide (c.val ≤ '9'.val)) = true := digit
    rw [Bool.and_eq_true, decide_eq_true_eq, decide_eq_true_eq, UInt32.le_iff_toNat_le,
      UInt32.le_iff_toNat_le] at codes
    have first : 48 ≤ c.toNat := codes.1
    have last : c.toNat ≤ 57 := codes.2
    omega
  · revert space
    decide

theorem asciiSpace_break (c : Char) (line : isLineBreak c = true) : isAsciiSpace c = true := by
  simp only [isLineBreak, isAsciiSpace, decide_eq_true_eq, List.mem_cons, List.not_mem_nil,
    or_false] at line ⊢
  omega

theorem asciiSpace_small (c : Char) (small : c.toNat < 128) :
    isAsciiSpace c = decide (c.toNat ∈ [9, 10, 11, 12, 13, 28, 29, 30, 31, 32]) := by
  simp only [isAsciiSpace, decide_eq_decide, List.mem_cons, List.not_mem_nil, or_false]
  omega

theorem digit_alphanum (c : Char) (digit : c.isDigit = true) :
    (c.isAlphanum || c = '_') = true := by
  simp [Char.isAlphanum, digit]

/-- No letters and digits but those of ASCII. -/
def ascii : Unicode where
  isWord c := c.isAlphanum || c = '_'
  isSpace := isAsciiSpace
  apart := asciiSpace_apart
  newline_space := by decide
  isDecimal := Char.isDigit
  decimal c := c.toNat - '0'.toNat
  decimal_word := digit_alphanum
  break_space := asciiSpace_break
  ascii_word c _ := rfl
  ascii_space := asciiSpace_small
  ascii_decimal c _ := rfl
  ascii_value c _ := rfl

def emptyBlock : Block where
  blanks := []
  body := newline
  indent := tab
  blanks_blank := by simp
  body_lines := .inr rfl
  indent_blank := by simp [tab, isBlank]

/-- A header with one enumerator in front of the blocks. -/
def sampleHeader : Layout where
  first := autoEnum
  second := autoDecl
  front := "enum\n\x7b\n\tS_ENTER = 200,\n\t".toList
  mid := "\n\x7d;\n\n\t".toList
  behind := newline
  block₁ := emptyBlock
  block₂ := emptyBlock
  order := .inl ⟨rfl, rfl⟩
  clear₁ := ⟨by decide +kernel, by decide +kernel⟩
  clear₂ := ⟨by decide +kernel, by decide +kernel⟩

def sampleSource : SourceLayout where
  front := "\tswitch (id)\n\t\x7b\n\t".toList
  block := emptyBlock
  behind := "\n\t\x7d\n".toList
  clear := ⟨by decide +kernel, by decide +kernel⟩

def sampleProject : Project :=
  ⟨sampleHeader.text, sampleSource.text, sampleHeader.text, sampleSource.text⟩

theorem sampleProject_valid : sampleProject.Valid where
  header side := ⟨sampleHeader, by cases side <;> rfl⟩
  source side := ⟨sampleSource, by cases side <;> rfl⟩

theorem sampleProject_distinct : Distinct (sampleProject.existing ascii) := by
  unfold Distinct
  decide +kernel

def attackRun : Run ascii where
  newMsgs := ["C_ATTACK".toList]
  fieldsMap _ := [⟨false, "int32".toList, "dir".toList, by decide, by decide⟩]
  messages := by decide

def chatRun : Run ascii where
  newMsgs := ["C_CHAT".toList, "S_CHAT".toList]
  fieldsMap _ := [⟨false, "string".toList, "text".toList, by decide, by decide⟩]
  messages := by decide

theorem chatRun_meets : Meets sampleProject ([] ++ [chatRun]) where
  once := by decide
  fresh run listed := by
    rw [List.nil_append, List.mem_singleton] at listed
    subst listed
    exact {
      once := by decide
      enumerator := fun side => by cases side <;> decide +kernel
      declared := fun side => by cases side <;> decide +kernel
      label := fun side => by cases side <;> decide +kernel }

theorem generator_merges_chat :
    Merged ascii sampleProject sampleProject (after sampleProject [chatRun])
      ["C_CHAT".toList, "S_CHAT".toList] :=
  generator_merges sampleProject_valid sampleProject_distinct [] [chatRun] chatRun_meets

theorem second_run_enumerators :
    ((enumerators ascii (after sampleProject [attackRun, chatRun]).clientH).map Prod.fst).count
      "C_ATTACK".toList = 2 := by decide +kernel

/-- After a second run the message of the first one stands twice in the enum block. -/
theorem second_run_doubles : sampleProject.Valid ∧ Distinct (sampleProject.existing ascii) ∧
    ¬ Merged ascii sampleProject sampleProject (after sampleProject [attackRun, chatRun])
      (generated [attackRun, chatRun]) := by
  refine ⟨sampleProject_valid, sampleProject_distinct, fun merged => ?_⟩
  have once := (merged.side .client).enumerator "C_ATTACK".toList (by decide)
  have twice := second_run_enumerators
  rw [show (after sampleProject [attackRun, chatRun]).clientH =
    (after sampleProject [attackRun, chatRun]).header .client from rfl, once] at twice
  cases twice

end Sample

end GenNetworkFunc

end ZeldaServer
