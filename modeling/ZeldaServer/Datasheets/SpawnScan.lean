import ZeldaServer.Datasheets.SpawnReadings

/-! What the scan for rooms takes for rooms in a spawn file, and what the file is loaded as. -/

namespace ZeldaServer

namespace RoomDataManager

open Scanning (Apart find find_single find_single_none indexOf_apart substr)

theorem find_within {json front rest : Text} {c : Char} {pos : Nat}
    (split : json.drop pos = front ++ rest) (listed : c ∈ front) :
    ∃ n, find [c] json pos = some n ∧ n < pos + front.length := by
  obtain ⟨before, behind, rfl, absent⟩ := List.eq_append_cons_of_mem listed
  have first : json.drop pos = before ++ c :: (behind ++ rest) := by simpa using split
  refine ⟨pos + before.length, find_single first absent, ?_⟩
  simp only [List.length_append, List.length_cons]
  omega

theorem key_behind {json : Text} {pos : Nat} {k : Key} {front back : List Token}
    (spells : Spells (front ++ back) (json.drop pos)) (absent : .key k ∉ front) :
    ∃ first second, json.drop pos = first ++ second ∧ Spells front first ∧ Spells back second ∧
      ∀ n, findKey json k.text pos = some n → pos + first.length ≤ n := by
  obtain ⟨first, second, split, spelt, behind⟩ := spells.split
  refine ⟨first, second, split, spelt, behind, fun n found => ?_⟩
  have apart := spelt.key_apart behind absent
  rw [findKey, find_drop (by simp), split] at found
  change (Scanning.indexOf (quote k.text) _).map _ = _ at found
  rw [indexOf_apart apart, Option.map_map] at found
  obtain ⟨more, -, rfl⟩ := Option.map_eq_some_iff.mp found
  simp only [Function.comp_apply]
  omega

/-- Whether the key `"spawns"` comes before a closing brace. -/
def spawnsFirst : List Token → Bool
  | [] => false
  | .key .spawns :: _ => true
  | .mark .closeBrace :: _ => false
  | _ :: tokens => spawnsFirst tokens

def nextObject : List Token → List Token
  | [] => []
  | .mark .openBrace :: tokens => .mark .openBrace :: tokens
  | _ :: tokens => nextObject tokens

/-- The strings that are taken for names of rooms, each with the object that is taken for it. -/
def scan : List Token → List (Text × List Token)
  | [] => []
  | token :: tokens =>
      match token.quoted with
      | none => scan tokens
      | some text =>
          if spawnsFirst (nextObject tokens) then (text, nextObject tokens) :: scan tokens
          else scan tokens

theorem spawnsFirst_cons {token : Token} (tokens : List Token) (no_key : token ≠ .key .spawns)
    (no_brace : token ≠ .mark .closeBrace) :
    spawnsFirst (token :: tokens) = spawnsFirst tokens := by
  conv_lhs => unfold spawnsFirst
  split <;> simp_all

theorem nextObject_cons {token : Token} (tokens : List Token)
    (no_brace : token ≠ .mark .openBrace) : nextObject (token :: tokens) = nextObject tokens := by
  conv_lhs => unfold nextObject
  split <;> simp_all

theorem nextObject_cases (tokens : List Token) :
    nextObject tokens = [] ∧ .mark .openBrace ∉ tokens ∨
      ∃ front later, tokens = front ++ .mark .openBrace :: later ∧ .mark .openBrace ∉ front ∧
        nextObject tokens = .mark .openBrace :: later := by
  induction tokens with
  | nil => exact .inl ⟨rfl, by simp⟩
  | cons token tokens ih =>
      by_cases brace : token = .mark .openBrace
      · subst brace
        exact .inr ⟨[], tokens, rfl, by simp, rfl⟩
      · rw [nextObject_cons tokens brace]
        rcases ih with ⟨nothing, absent⟩ | ⟨front, later, rfl, absent, next⟩
        · exact .inl ⟨nothing, by simp [absent, Ne.symm brace]⟩
        · exact .inr ⟨token :: front, later, rfl, by simp [absent, Ne.symm brace], next⟩

theorem spawnsFirst_true {tokens : List Token} (first : spawnsFirst tokens = true) :
    ∃ front later, tokens = front ++ .key .spawns :: later ∧ .key .spawns ∉ front ∧
      .mark .closeBrace ∉ front := by
  induction tokens with
  | nil => cases first
  | cons token tokens ih =>
      by_cases key : token = .key .spawns
      · subst key
        exact ⟨[], tokens, rfl, by simp, by simp⟩
      · have no_brace : token ≠ .mark .closeBrace := by
          rintro rfl
          cases first
        rw [spawnsFirst_cons tokens key no_brace] at first
        obtain ⟨front, later, rfl, no_key, apart⟩ := ih first
        exact ⟨token :: front, later, rfl, by simp [no_key, Ne.symm key],
          by simp [apart, Ne.symm no_brace]⟩

theorem spawnsFirst_false {tokens : List Token} (other : spawnsFirst tokens = false) :
    .key .spawns ∉ tokens ∨
      ∃ front later, tokens = (front ++ [.mark .closeBrace]) ++ later ∧ .key .spawns ∉ front := by
  induction tokens with
  | nil => exact .inl (by simp)
  | cons token tokens ih =>
      by_cases brace : token = .mark .closeBrace
      · subst brace
        exact .inr ⟨[], tokens, rfl, by simp⟩
      · have no_key : token ≠ .key .spawns := by
          rintro rfl
          cases other
        rw [spawnsFirst_cons tokens no_key brace] at other
        rcases ih other with absent | ⟨front, later, rfl, absent⟩
        · exact .inl (by simp [absent, Ne.symm no_key])
        · exact .inr ⟨token :: front, later, rfl, by simp [absent, Ne.symm no_key]⟩

theorem nextQuoted_spelt {json front text rest : Text} {pos : Nat} {tokens : List Token}
    (split : json.drop pos = front ++ (quote text ++ rest)) (absent : '"' ∉ front)
    (plain : ∀ c ∈ text, isSpecial c = false) (spells : Spells tokens rest) :
    ∃ quoteEnd, json.drop (quoteEnd + 1) = rest ∧
      ((nextObject tokens = [] ∧ nextQuoted json pos = .done) ∨
        (spawnsFirst (nextObject tokens) = false ∧ nextQuoted json pos = .skipped quoteEnd) ∨
        spawnsFirst (nextObject tokens) = true ∧ ∃ roomObjStart,
          nextQuoted json pos = .room text quoteEnd roomObjStart ∧
            Spells (nextObject tokens) (json.drop roomObjStart)) := by
  obtain ⟨quoteStart, quoteEnd, opening, closes, between, at_quote, before, inside⟩ :=
    quoted_at split absent plain
  have behind : json.drop (quoteEnd + 1) = rest := by
    rw [← List.drop_drop, at_quote]
    rfl
  have in_front : ¬ json.length - 1 ≤ quoteStart := by omega
  refine ⟨quoteEnd, behind, ?_⟩
  rcases nextObject_cases tokens with
    ⟨nothing, no_brace⟩ | ⟨before_brace, later, rfl, no_brace, next⟩
  · refine .inl ⟨nothing, ?_⟩
    have no_object : '{' ∉ json.drop quoteEnd := by
      rw [at_quote, List.mem_cons, not_or]
      exact ⟨by decide, (spells.char_mem (m := .openBrace) (by decide)).not.mpr no_brace⟩
    simp only [nextQuoted, opening, if_neg in_front, closes, find_single_none no_object]
  · obtain ⟨first, second, rfl, spelt, rest, rfl, later_spells⟩ := spells.at_token
    have to_brace : json.drop quoteEnd = ('"' :: first) ++ '{' :: rest := at_quote
    have no_object : '{' ∉ '"' :: first := by
      rw [List.mem_cons, not_or]
      exact ⟨by decide, (spelt.char_mem (m := .openBrace) (by decide)).not.mpr no_brace⟩
    have object := find_single to_brace no_object
    have at_brace : json.drop (quoteEnd + ('"' :: first).length) = '{' :: rest :=
      drop_behind to_brace
    generalize quoteEnd + ('"' :: first).length = roomObjStart at object at_brace
    have object_spells : Spells (.mark .openBrace :: later) (json.drop roomObjStart) := by
      rw [at_brace]
      exact Begins.spells ⟨rest, rfl, later_spells⟩
    rw [next]
    cases decided : spawnsFirst (.mark .openBrace :: later) with
    | true =>
        refine .inr (.inr ⟨rfl, roomObjStart, ?_, object_spells⟩)
        obtain ⟨part, back, shape, no_key, no_closer⟩ := spawnsFirst_true decided
        rw [shape] at object_spells
        obtain ⟨part_text, key_text, part_split, part_spells, -, key⟩ :=
          key_place object_spells no_key
        have no_closer_text : '}' ∉ part_text :=
          (part_spells.char_mem (m := .closeBrace) (by decide)).not.mpr no_closer
        have not_before :
            ¬ (find ['}'] json roomObjStart).any (· < roomObjStart + part_text.length) = true := by
          cases found : find ['}'] json roomObjStart with
          | none => simp
          | some closer =>
              have far := find_behind part_split no_closer_text found
              simpa using far
        change findKey json "spawns".toList roomObjStart = _ at key
        simp only [nextQuoted, opening, if_neg in_front, closes, object, key, between,
          if_neg not_before]
    | false =>
        refine .inr (.inl ⟨rfl, ?_⟩)
        rcases spawnsFirst_false decided with no_spawns | ⟨part, back, shape, no_spawns⟩
        · have key : findKey json "spawns".toList roomObjStart = none :=
            no_key object_spells no_spawns
          simp only [nextQuoted, opening, if_neg in_front, closes, object, key]
        · rw [shape] at object_spells
          obtain ⟨part_text, back_text, part_split, part_spells, -, far⟩ :=
            key_behind object_spells (k := .spawns) (by simp [no_spawns])
          have closer_listed : '}' ∈ part_text :=
            (part_spells.char_mem (m := .closeBrace) (by decide)).mpr (by simp)
          obtain ⟨closer, closer_found, near⟩ := find_within part_split closer_listed
          simp only [nextQuoted, opening, if_neg in_front, closes, object]
          cases key : findKey json "spawns".toList roomObjStart with
          | none => rfl
          | some keyPos =>
              have further := far keyPos key
              have earlier : (find ['}'] json roomObjStart).any (· < keyPos) = true := by
                rw [closer_found, Option.any_some, decide_eq_true_eq]
                omega
              simp only [if_pos earlier]

theorem scan_nil {tokens : List Token} (no_brace : .mark .openBrace ∉ tokens) :
    scan tokens = [] := by
  induction tokens with
  | nil => rfl
  | cons token tokens ih =>
      rw [List.mem_cons, not_or] at no_brace
      have nothing : nextObject tokens = [] := by
        rcases nextObject_cases tokens with ⟨nothing, -⟩ | ⟨front, later, rfl, -, -⟩
        · exact nothing
        · simp at no_brace
      rw [scan, ih no_brace.2, nothing]
      split <;> rfl

theorem roomsFrom_scan {json : Text} {tokens : List Token} {front text : Text} {pos fuel : Nat}
    (split : json.drop pos = front ++ text) (absent : '"' ∉ front) (spells : Spells tokens text)
    (enough : tokens.length < fuel) :
    List.Forall₂ (fun (name, object) (roomId, roomObjStart) =>
        roomId = name ∧ Spells object (json.drop roomObjStart))
      (scan tokens) (roomsFrom json fuel pos) := by
  obtain ⟨fuel, rfl⟩ : ∃ less, fuel = less + 1 := ⟨fuel - 1, by omega⟩
  induction tokens generalizing front text pos fuel with
  | nil =>
      have no_quote : '"' ∉ json.drop pos := by
        rw [split, List.mem_append, not_or]
        exact ⟨absent, spells.white.no_quote⟩
      rw [roomsFrom, nextQuoted, find_single_none no_quote]
      exact .nil
  | cons token tokens ih =>
      obtain ⟨gap, rest, rfl, blank, later⟩ := spells.head
      have front_quote : '"' ∉ front ++ gap := by simp [absent, blank.no_quote]
      rw [List.length_cons] at enough
      cases quoted : token.quoted with
      | none =>
          have past : json.drop pos = (front ++ gap ++ token.text) ++ rest := by
            rw [split]
            simp
          have past_quote : '"' ∉ front ++ gap ++ token.text := by
            rw [List.mem_append, not_or]
            exact ⟨front_quote, (unquoted_text quoted).1⟩
          rw [scan, quoted]
          exact ih past past_quote later fuel (by omega)
      | some name =>
          obtain ⟨shown, plain⟩ := quoted_text quoted
          have at_quote : json.drop pos = (front ++ gap) ++ (quote name ++ rest) := by
            rw [split, shown]
            simp
          obtain ⟨quoteEnd, behind, taken⟩ := nextQuoted_spelt at_quote front_quote plain later
          obtain ⟨less, rfl⟩ : ∃ less, fuel = less + 1 := ⟨fuel - 1, by omega⟩
          have from_here : json.drop (quoteEnd + 1) = [] ++ rest := behind
          have read := ih from_here (by simp) later less (by omega)
          rw [scan, quoted, roomsFrom]
          dsimp only
          rcases taken with ⟨nothing, done⟩ | ⟨other, skipped⟩ | ⟨taken, start, found, object⟩
          · have no_brace : .mark .openBrace ∉ tokens := by
              rcases nextObject_cases tokens with ⟨-, absent⟩ | ⟨_, _, -, -, next⟩
              · exact absent
              · rw [nothing] at next
                cases next
            rw [nothing, done, scan_nil no_brace]
            exact .nil
          · rw [other, skipped]
            exact read
          · rw [if_pos taken, found]
            exact .cons ⟨rfl, object⟩ read

theorem spawnsFirst_brace {tokens : List Token} (more : List Token)
    (no_spawns : .key .spawns ∉ tokens) :
    spawnsFirst (tokens ++ .mark .closeBrace :: more) = false := by
  induction tokens with
  | nil => rfl
  | cons token tokens ih =>
      rw [List.mem_cons, not_or] at no_spawns
      by_cases brace : token = .mark .closeBrace
      · subst brace
        rfl
      · rw [List.cons_append, spawnsFirst_cons _ (Ne.symm no_spawns.1) brace]
        exact ih no_spawns.2

theorem next_inside {tokens : List Token} (more : List Token)
    (brace : .mark .openBrace ∈ tokens) (no_spawns : .key .spawns ∉ tokens) :
    spawnsFirst (nextObject (tokens ++ .mark .closeBrace :: more)) = false := by
  induction tokens with
  | nil => cases brace
  | cons token tokens ih =>
      have later_no_spawns : .key .spawns ∉ tokens := fun listed =>
        no_spawns (List.mem_cons_of_mem _ listed)
      by_cases here : token = .mark .openBrace
      · subst here
        exact spawnsFirst_brace more later_no_spawns
      · rw [List.cons_append, nextObject_cons _ here]
        exact ih ((List.mem_cons.mp brace).resolve_left (Ne.symm here)) later_no_spawns

theorem next_past {tokens : List Token} (more : List Token)
    (no_brace : .mark .openBrace ∉ tokens) :
    nextObject (tokens ++ .mark .closeBrace :: more) = nextObject more := by
  induction tokens with
  | nil => rfl
  | cons token tokens ih =>
      rw [List.mem_cons, not_or] at no_brace
      rw [List.cons_append, nextObject_cons _ (Ne.symm no_brace.1), ih no_brace.2]

theorem scan_unquoted {token : Token} (tokens : List Token) (unquoted : token.quoted = none) :
    scan (token :: tokens) = scan tokens := by rw [scan, unquoted]

theorem scan_quoted {token : Token} {text : Text} (tokens : List Token)
    (quoted : token.quoted = some text) :
    scan (token :: tokens) =
      if spawnsFirst (nextObject tokens) then (text, nextObject tokens) :: scan tokens
      else scan tokens := by rw [scan, quoted]

def strays : List Token → List Text
  | [] => []
  | token :: tokens =>
      if .mark .openBrace ∈ tokens then strays tokens else token.quoted.toList ++ strays tokens

theorem scan_inside {inner : List Token} (more : List Token)
    (no_spawns : .key .spawns ∉ inner.tail) :
    scan (inner ++ .mark .closeBrace :: more) =
      (if spawnsFirst (nextObject more) then
        (strays inner).map (fun text => (text, nextObject more)) else []) ++ scan more := by
  induction inner with
  | nil => split <;> rfl
  | cons token inner ih =>
      have fewer : .key .spawns ∉ inner.tail := fun listed =>
        no_spawns (List.mem_of_mem_tail listed)
      rw [List.cons_append, strays]
      cases quoted : token.quoted with
      | none =>
          rw [scan_unquoted _ quoted, ih fewer, Option.toList_none, List.nil_append, ite_self]
      | some name =>
          rw [scan_quoted _ quoted, ih fewer]
          by_cases brace : .mark .openBrace ∈ inner
          · rw [next_inside more brace no_spawns, if_pos brace]
            rfl
          · rw [next_past more brace, if_neg brace]
            split <;> rfl

theorem strays_quoted {inner : List Token} {text : Text} (listed : text ∈ strays inner) :
    ∃ token ∈ inner, token.quoted = some text := by
  induction inner with
  | nil => cases listed
  | cons token inner ih =>
      have later (listed : text ∈ strays inner) :
          ∃ other ∈ token :: inner, other.quoted = some text := by
        obtain ⟨other, there, quoted⟩ := ih listed
        exact ⟨other, List.mem_cons_of_mem _ there, quoted⟩
      rw [strays] at listed
      split at listed
      · exact later listed
      · rcases List.mem_append.mp listed with here | behind
        · exact ⟨token, by simp, by simpa using here⟩
        · exact later behind

def KeysBehind : List Token → Prop
  | [] => True
  | token :: tokens => (token = .mark .openBrace → ∃ k, .key k ∈ tokens) ∧ KeysBehind tokens

theorem KeysBehind.append {front back : List Token} (first : KeysBehind front)
    (second : KeysBehind back) : KeysBehind (front ++ back) := by
  induction front with
  | nil => exact second
  | cons token front ih =>
      refine ⟨fun brace => ?_, ih first.2⟩
      obtain ⟨k, listed⟩ := first.1 brace
      exact ⟨k, List.mem_append_left _ listed⟩

theorem KeysBehind.cons {token : Token} {tokens : List Token} (other : token ≠ .mark .openBrace)
    (later : KeysBehind tokens) : KeysBehind (token :: tokens) :=
  ⟨fun brace => absurd brace other, later⟩

theorem keysBehind_layout : Layout KeysBehind where
  nil := trivial
  append := KeysBehind.append
  cons flat := KeysBehind.cons (by rintro rfl; cases flat)
  braced {inner k} inside listed :=
    ⟨fun _ => ⟨k, List.mem_append_left _ listed⟩, inside.append (.cons (by simp) trivial)⟩
  bracketed inside := .cons (by simp) (inside.append (.cons (by simp) trivial))

theorem KeysBehind.of_brace {tokens : List Token} (behind : KeysBehind tokens)
    (brace : .mark .openBrace ∈ tokens) : ∃ k, .key k ∈ tokens := by
  induction tokens with
  | nil => cases brace
  | cons token tokens ih =>
      rcases List.mem_cons.mp brace with here | later
      · obtain ⟨k, listed⟩ := behind.1 here.symm
        exact ⟨k, List.mem_cons_of_mem _ listed⟩
      · obtain ⟨k, listed⟩ := ih behind.2 later
        exact ⟨k, List.mem_cons_of_mem _ listed⟩

theorem KeysBehind.stray {tokens : List Token} (behind : KeysBehind tokens) {k : Key}
    (listed : .key k ∈ tokens) : ∃ k, Key.text k ∈ strays tokens := by
  induction tokens generalizing k with
  | nil => cases listed
  | cons token tokens ih =>
      rw [strays]
      by_cases more : ∃ k, .key k ∈ tokens
      · obtain ⟨k, later⟩ := more
        obtain ⟨last, stray⟩ := ih behind.2 later
        refine ⟨last, ?_⟩
        split
        · exact stray
        · exact List.mem_append_right _ stray
      · have here : token = .key k := by
          rcases List.mem_cons.mp listed with here | later
          · exact here.symm
          · exact absurd ⟨k, later⟩ more
        refine ⟨k, ?_⟩
        rw [if_neg fun brace => more (behind.2.of_brace brace), here]
        exact List.mem_cons_self ..

theorem mem_monstersTokens {token : Token} {monsters : List MonsterInfo}
    (listed : token ∈ monstersTokens monsters) :
    token ≠ .key .spawns ∧ ∀ s, token ≠ .name s := by
  simp only [monstersTokens, brackets, List.mem_cons, List.mem_append, List.not_mem_nil,
    or_false] at listed
  rcases listed with rfl | inside | rfl
  · simp
  · rcases mem_commas inside with rfl | ⟨item, among, inside⟩
    · simp
    · simp only [List.mem_map, exists_exists_and_eq_and] at among
      obtain ⟨m, -, rfl⟩ := among
      simp only [braces, monsterTokens, fields, List.map_cons, List.map_nil, commas, entry,
        List.mem_append, List.mem_cons, List.not_mem_nil, or_false] at inside
      grind
  · simp

theorem groupTokens_plain (g : SpawnGroup) :
    ∀ token ∈ groupTokens g, token ≠ .key .spawns ∧ ∀ s, token = .name s → s = g.groupId := by
  have offsets : ∀ token ∈ offsetsTokens g.offsets,
      token ≠ .key .spawns ∧ ∀ s, token = .name s → s = g.groupId := by
    intro token listed
    rcases mem_offsetsTokens listed with ⟨m, rfl⟩ | ⟨n, rfl⟩ <;> simp
  have monsters : ∀ token ∈ monstersTokens g.monsters,
      token ≠ .key .spawns ∧ ∀ s, token = .name s → s = g.groupId := by
    intro token listed
    obtain ⟨no_spawns, no_name⟩ := mem_monstersTokens listed
    exact ⟨no_spawns, fun s same => absurd same (no_name s)⟩
  rw [groupTokens]
  generalize offsetsTokens g.offsets = offsetList at offsets ⊢
  generalize monstersTokens g.monsters = monsterList at monsters ⊢
  intro token listed
  simp only [fields, List.map_cons, List.map_nil, commas, entry, brackets, pairTokens,
    List.mem_append, List.mem_cons, List.not_mem_nil, or_false] at listed
  grind

theorem spawnsTokens_plain (r : SpawnRoom) :
    .key .spawns ∉ (spawnsTokens r).tail ∧
      ∀ token ∈ spawnsTokens r, ∀ text, token.quoted = some text →
        (∃ k, text = Key.text k) ∨ ∃ g ∈ r.spawns, text = g.groupId.text := by
  have groups : ∀ token ∈ commas ((r.spawns.map groupTokens).map braces),
      token ≠ .key .spawns ∧ ∀ s, token = .name s → ∃ g ∈ r.spawns, s = g.groupId := by
    intro token listed
    rcases mem_commas listed with rfl | ⟨item, among, inside⟩
    · simp
    · simp only [List.mem_map, exists_exists_and_eq_and] at among
      obtain ⟨g, here, rfl⟩ := among
      simp only [braces, List.mem_cons, List.mem_append, List.not_mem_nil, or_false] at inside
      rcases inside with rfl | listed | rfl
      · simp
      · obtain ⟨no_spawns, own⟩ := groupTokens_plain g token listed
        exact ⟨no_spawns, fun s same => ⟨g, here, own s same⟩⟩
      · simp
  simp only [spawnsTokens, entry, brackets]
  generalize commas ((r.spawns.map groupTokens).map braces) = groupList at groups ⊢
  simp only [List.tail_cons, List.mem_cons, List.mem_append, List.not_mem_nil, or_false]
  refine ⟨by grind, fun token listed text quoted => ?_⟩
  cases token with
  | key k => exact .inl ⟨k, (Option.some.inj quoted).symm⟩
  | name s =>
      cases quoted
      have inside : .name s ∈ groupList := by simpa using listed
      obtain ⟨g, here, rfl⟩ := (groups _ inside).2 s rfl
      exact .inr ⟨g, here, rfl⟩
  | mark m => cases quoted
  | number n => cases quoted

theorem next_room (r : SpawnRoom) (more : List Token) :
    nextObject (.mark .colon :: (braces (spawnsTokens r) ++ more)) =
        braces (spawnsTokens r) ++ more ∧
      spawnsFirst (braces (spawnsTokens r) ++ more) = true := ⟨rfl, rfl⟩

theorem scan_room (r : SpawnRoom) (more : List Token) :
    scan (roomTokens r ++ more) = (r.roomId.text, braces (spawnsTokens r) ++ more) ::
      ((if spawnsFirst (nextObject more) then
        (strays (spawnsTokens r)).map (fun text => (text, nextObject more)) else []) ++
          scan more) := by
  obtain ⟨next, first⟩ := next_room r more
  have shape : roomTokens r ++ more =
      .name r.roomId :: (.mark .colon :: (braces (spawnsTokens r) ++ more)) := rfl
  have object : braces (spawnsTokens r) ++ more =
      .mark .openBrace :: (spawnsTokens r ++ .mark .closeBrace :: more) := by simp [braces]
  rw [shape, scan_quoted _ rfl, next, if_pos first, scan_unquoted _ rfl, object,
    scan_unquoted _ rfl, scan_inside more (spawnsTokens_plain r).1]

/-- What is taken for rooms: the rooms, and in front of each but the first strings of the room
before it, a key among them. -/
inductive Taken : List SpawnRoom → List (Text × SpawnRoom) → Prop where
  | nil : Taken [] []
  | last (r : SpawnRoom) : Taken [r] [(r.roomId.text, r)]
  | cons {r next : SpawnRoom} {rooms : List SpawnRoom} {extras : List Text}
      {taken : List (Text × SpawnRoom)}
      (strays : ∀ text ∈ extras, (∃ k, text = Key.text k) ∨ ∃ g ∈ r.spawns, text = g.groupId.text)
      (key : ∃ k, Key.text k ∈ extras) (rest : Taken (next :: rooms) taken) :
      Taken (r :: next :: rooms)
        ((r.roomId.text, r) :: (extras.map (fun text => (text, next)) ++ taken))

theorem scan_rooms (rooms : List SpawnRoom) :
    ∃ taken, Taken rooms taken ∧
      List.Forall₂ (fun (name, r) (text, object) =>
          text = name ∧ ∃ later, object = braces (spawnsTokens r) ++ later)
        taken (scan (commas (rooms.map roomTokens) ++ [.mark .closeBrace])) := by
  induction rooms with
  | nil => exact ⟨[], .nil, .nil⟩
  | cons r rooms ih =>
      cases rooms with
      | nil =>
          have shape : commas ([r].map roomTokens) ++ [.mark .closeBrace] =
              roomTokens r ++ [.mark .closeBrace] := rfl
          refine ⟨_, .last r, ?_⟩
          rw [shape, scan_room]
          exact .cons ⟨rfl, _, rfl⟩ .nil
      | cons next rooms =>
          obtain ⟨taken, whole, reads⟩ := ih
          obtain ⟨later, others⟩ : ∃ later, commas ((next :: rooms).map roomTokens) ++
              [.mark .closeBrace] = roomTokens next ++ later := by
            cases rooms with
            | nil => exact ⟨_, rfl⟩
            | cons third rooms => exact ⟨_, List.append_assoc (roomTokens next) _ _⟩
          have shape : commas ((r :: next :: rooms).map roomTokens) ++ [.mark .closeBrace] =
              roomTokens r ++ .mark .comma :: (roomTokens next ++ later) := by
            rw [← others]
            exact List.append_assoc (roomTokens r) _ _
          have next_object : nextObject (.mark .comma :: (roomTokens next ++ later)) =
              braces (spawnsTokens next) ++ later := rfl
          have some_key : .key .spawns ∈ spawnsTokens r := List.mem_cons_self ..
          have strays_plain : ∀ text ∈ strays (spawnsTokens r),
              (∃ k, text = Key.text k) ∨ ∃ g ∈ r.spawns, text = g.groupId.text := by
            intro text listed
            obtain ⟨token, there, quoted⟩ := strays_quoted listed
            exact (spawnsTokens_plain r).2 token there text quoted
          refine ⟨_, .cons strays_plain ((keysBehind_layout.room r).stray some_key) whole, ?_⟩
          rw [shape, scan_room, next_object, if_pos (next_room next later).2, scan_unquoted _ rfl,
            ← others]
          refine .cons ⟨rfl, _, rfl⟩ (List.rel_append ?_ reads)
          rw [List.forall₂_map_left_iff, List.forall₂_map_right_iff, List.forall₂_same]
          exact fun text _ => ⟨rfl, later, rfl⟩

def SpawnRoom.under (r : SpawnRoom) (roomId : Text) : RoomSpawnConfig where
  roomId
  spawns := r.spawns.map SpawnGroup.data

def named (rooms : List SpawnRoom) (roomId : Text) : Option RoomSpawnConfig :=
  (rooms.find? fun r => r.roomId.text = roomId).map fun r => r.under roomId

def SpawnFile.configs (file : SpawnFile) : SpawnConfigs := named file.rooms

def record (configs : SpawnConfigs) : List (Text × SpawnRoom) → SpawnConfigs
  | [] => configs
  | (name, r) :: taken => record (Function.update configs name (some (r.under name))) taken

theorem record_append (configs : SpawnConfigs) (front back : List (Text × SpawnRoom)) :
    record configs (front ++ back) = record (record configs front) back := by
  induction front generalizing configs with
  | nil => rfl
  | cons item front ih => exact ih _

theorem readRooms_taken {json : Text} {taken : List (Text × SpawnRoom)}
    {found : List (Text × Nat)}
    (reads : List.Forall₂ (fun (name, r) (roomId, roomObjStart) => roomId = name ∧
      room json roomId roomObjStart =
        readingOf r.fits (r.under roomId)) taken found)
    (configs : SpawnConfigs) :
    ∃ read result, readRooms json found configs = .gave (read, result) ∧
      (read = true ↔ ∀ item ∈ taken, item.2.fits) ∧
        (read = true → result = record configs taken) := by
  induction reads generalizing configs with
  | nil => exact ⟨true, configs, rfl, by simp, fun _ => rfl⟩
  | @cons item place taken found first _ ih =>
      obtain ⟨name, r⟩ := item
      obtain ⟨roomId, roomObjStart⟩ := place
      obtain ⟨rfl, reading⟩ := first
      by_cases fit : r.fits
      · obtain ⟨read, result, gave, all, recorded⟩ := ih (Function.update configs roomId
          (some (r.under roomId)))
        refine ⟨read, result, ?_, ?_, recorded⟩
        · rw [readRooms, reading, readingOf, if_pos fit]
          exact gave
        · rw [all, List.forall_mem_cons]
          exact ⟨fun later => ⟨fit, later⟩, fun both => both.2⟩
      · refine ⟨false, configs, ?_, ?_, by simp⟩
        · rw [readRooms, reading, readingOf, if_neg fit]
        · simp [fit]

theorem record_other {configs : SpawnConfigs} {taken : List (Text × SpawnRoom)} {roomId : Text}
    (other : ∀ item ∈ taken, item.1 ≠ roomId) : record configs taken roomId = configs roomId := by
  induction taken generalizing configs with
  | nil => rfl
  | cons item taken ih =>
      obtain ⟨first, later⟩ := List.forall_mem_cons.mp other
      rw [record, ih later, Function.update_of_ne (Ne.symm first)]

theorem record_some {configs : SpawnConfigs} {taken : List (Text × SpawnRoom)} {roomId : Text}
    (named : (configs roomId).isSome = true ∨ ∃ item ∈ taken, item.1 = roomId) :
    (record configs taken roomId).isSome = true := by
  induction taken generalizing configs with
  | nil =>
      rcases named with before | ⟨item, listed, -⟩
      · exact before
      · cases listed
  | cons item taken ih =>
      obtain ⟨name, r⟩ := item
      rw [record]
      apply ih
      by_cases here : name = roomId
      · left
        rw [← here, Function.update_self]
        rfl
      · rw [Function.update_of_ne (Ne.symm here)]
        rcases named with before | ⟨other, listed, same⟩
        · exact .inl before
        · rcases List.mem_cons.mp listed with rfl | later
          · exact absurd same here
          · exact .inr ⟨other, later, same⟩

theorem Taken.rooms {rooms : List SpawnRoom} {taken : List (Text × SpawnRoom)}
    (scanned : Taken rooms taken) : ∀ P : SpawnRoom → Prop,
      (∀ item ∈ taken, P item.2) ↔ ∀ r ∈ rooms, P r := by
  intro P
  induction scanned with
  | nil => simp
  | last r => simp
  | @cons r next rooms extras taken strays key rest ih =>
      simp only [List.forall_mem_cons, List.forall_mem_append, List.forall_mem_map, ih]
      constructor
      · exact fun all => ⟨all.1, all.2.2⟩
      · exact fun all => ⟨all.1, fun _ _ => all.2.1, all.2⟩

theorem named_cons (r : SpawnRoom) (rooms : List SpawnRoom) (roomId : Text) :
    named (r :: rooms) roomId =
      if r.roomId.text = roomId then some (r.under roomId) else named rooms roomId := by
  unfold named
  rw [List.find?_cons]
  by_cases same : r.roomId.text = roomId
  · simp [same]
  · simp [same]

theorem named_none {rooms : List SpawnRoom} {roomId : Text}
    (other : ∀ r ∈ rooms, r.roomId.text ≠ roomId) : named rooms roomId = none := by
  rw [named, List.find?_eq_none.mpr fun r listed => by simpa using other r listed]
  rfl

theorem Taken.record_named {rooms : List SpawnRoom} {taken : List (Text × SpawnRoom)}
    (scanned : Taken rooms taken) (distinct : (rooms.map fun r => r.roomId.text).Nodup)
    {roomId : Text} (no_key : ∀ k : Key, roomId ≠ k.text)
    (no_group : ∀ r ∈ rooms, ∀ g ∈ r.spawns, roomId ≠ g.groupId.text) (configs : SpawnConfigs) :
    record configs taken roomId = (named rooms roomId).or (configs roomId) := by
  induction scanned generalizing configs with
  | nil => rfl
  | last r =>
      rw [record, record, named_cons, named_none (by simp)]
      by_cases same : r.roomId.text = roomId
      · subst same
        simp
      · rw [Function.update_of_ne (Ne.symm same), if_neg same]
        rfl
  | @cons r next rooms extras taken strays key rest ih =>
      obtain ⟨fresh, later_distinct⟩ := List.nodup_cons.mp distinct
      obtain ⟨this_group, later_groups⟩ := List.forall_mem_cons.mp no_group
      have other : ∀ item ∈ extras.map fun text => (text, next), item.1 ≠ roomId := by
        rw [List.forall_mem_map]
        rintro text listed rfl
        rcases strays _ listed with ⟨k, same⟩ | ⟨g, here, same⟩
        · exact no_key k same
        · exact this_group g here same
      rw [record, record_append, ih later_distinct later_groups, record_other other,
        named_cons r (next :: rooms)]
      by_cases same : r.roomId.text = roomId
      · have later : named (next :: rooms) roomId = none := by
          apply named_none
          rintro other listed twice
          exact fresh (List.mem_map.mpr ⟨other, listed, twice.trans same.symm⟩)
        subst same
        rw [later, Function.update_self, if_pos rfl]
        rfl
      · rw [Function.update_of_ne (Ne.symm same), if_neg same]

theorem Taken.record_exact {rooms : List SpawnRoom} {taken : List (Text × SpawnRoom)}
    (scanned : Taken rooms taken) :
    record (fun _ => none) taken = named rooms ↔ rooms.length ≤ 1 := by
  constructor
  · intro same
    cases scanned with
    | nil => simp
    | last r => simp
    | @cons r next rooms extras taken strays key rest =>
        obtain ⟨k, listed⟩ := key
        have recorded : (record (fun _ => none)
            ((r.roomId.text, r) :: (extras.map (fun text => (text, next)) ++ taken))
            k.text).isSome = true := by
          apply record_some
          refine .inr ⟨(k.text, next), ?_, rfl⟩
          simp [listed]
        have absent : named (r :: next :: rooms) k.text = none :=
          named_none fun r _ => r.roomId.no_key k
        rw [same, absent] at recorded
        cases recorded
  · intro few
    cases scanned with
    | nil => rfl
    | last r =>
        funext roomId
        rw [record, record, named_cons, named_none (by simp)]
        by_cases same : r.roomId.text = roomId
        · subst same
          simp
        · rw [Function.update_of_ne (Ne.symm same), if_neg same]
    | cons strays key rest =>
        simp only [List.length_cons] at few
        omega

theorem reads_chain {α β γ : Type} {R : α → β → Prop} {S : β → γ → Prop} {T : α → γ → Prop}
    {items : List α} {middle : List β} {results : List γ} (first : List.Forall₂ R items middle)
    (second : List.Forall₂ S middle results) (chain : ∀ a b c, R a b → S b c → T a c) :
    List.Forall₂ T items results := by
  induction first generalizing results with
  | nil =>
      cases second
      exact .nil
  | cons one _ ih =>
      cases second with
      | cons two later => exact .cons (chain _ _ _ one two) (ih later)

def SpawnFile.fits (file : SpawnFile) : Prop := ∀ r ∈ file.rooms, r.fits

/-- A spawn file is read whenever no offset is the least number. Every room is then found under its
name, unless a group is called the same, but a file of several rooms leaves further entries. -/
theorem spawn_files_read (file : SpawnFile) (gaps : Nat → Blanks) :
    ∃ read configs,
      (parseMonsterSpawnJson (spell gaps (fileTokens file)) (fun _ => none)).Means
        (.gave (read, configs)) ∧
      (read = true ↔ file.fits) ∧
      (file.fits →
        (∀ roomId, (∀ k : Key, roomId ≠ k.text) →
          (∀ r ∈ file.rooms, ∀ g ∈ r.spawns, roomId ≠ g.groupId.text) →
          configs roomId = file.configs roomId) ∧
        (configs = file.configs ↔ file.rooms.length ≤ 1)) := by
  generalize text : spell gaps (fileTokens file) = json
  have spells : Spells (fileTokens file) json := text ▸ spells_spell gaps (fileTokens file)
  obtain ⟨taken, scanned, objects⟩ := scan_rooms file.rooms
  have same_scan : scan (fileTokens file) =
      scan (commas (file.rooms.map roomTokens) ++ [.mark .closeBrace]) := scan_unquoted _ rfl
  have length := spells.length_le
  have start : json.drop 0 = [] ++ json := rfl
  have places := roomsFrom_scan start (by simp) spells (Nat.lt_succ_of_le length)
  rw [same_scan] at places
  have reads : List.Forall₂ (fun (name, r) (roomId, roomObjStart) => roomId = name ∧
      room json roomId roomObjStart = readingOf r.fits (r.under roomId)) taken (rooms json) := by
    refine reads_chain objects places ?_
    rintro ⟨name, r⟩ ⟨text, object⟩ ⟨roomId, roomObjStart⟩ ⟨rfl, later, rfl⟩ ⟨rfl, at_object⟩
    exact ⟨rfl, room_spelt at_object roomId⟩
  obtain ⟨read, configs, gave, all, recorded⟩ := readRooms_taken reads fun _ => none
  have fits : read = true ↔ file.fits := all.trans (scanned.rooms SpawnRoom.fits)
  have means := means_parseMonsterSpawnJson json fun _ => none
  rw [gave] at means
  refine ⟨read, configs, means, fits, fun fit => ?_⟩
  obtain rfl := recorded (fits.mpr fit)
  refine ⟨fun roomId no_key no_group => ?_, scanned.record_exact⟩
  rw [scanned.record_named file.distinct no_key no_group, Option.or_none]
  rfl

def otherLetter : Name := ⟨['b'], List.all_iff_forall_prop.mp (by decide), by rintro ⟨⟩ <;> decide⟩

def groupLetter : Name := ⟨['g'], List.all_iff_forall_prop.mp (by decide), by rintro ⟨⟩ <;> decide⟩

/-- A room with a group of two monsters, and one without. -/
def sampleFile : SpawnFile where
  rooms := [⟨oneLetter, [⟨groupLetter, ⟨5, 4⟩, [⟨0, 0⟩, ⟨-1, 2⟩], [⟨1, 2, 1, 5, 8⟩]⟩]⟩,
    ⟨otherLetter, []⟩]
  distinct := by decide

theorem sample_file_read :
    ∃ configs, (parseMonsterSpawnJson (spell (fun _ => noBlanks) (fileTokens sampleFile))
        (fun _ => none)).Means (.gave (true, configs)) ∧
      configs "a".toList = sampleFile.configs "a".toList ∧
      configs "b".toList = sampleFile.configs "b".toList ∧ configs ≠ sampleFile.configs := by
  obtain ⟨read, configs, means, fits, reads⟩ := spawn_files_read sampleFile fun _ => noBlanks
  have fit : sampleFile.fits := by
    unfold SpawnFile.fits
    decide
  obtain ⟨named, whole⟩ := reads fit
  rw [fits.mpr fit] at means
  have found (roomId : Text) (room : roomId = ['a'] ∨ roomId = ['b']) :
      configs roomId = sampleFile.configs roomId := by
    apply named
    · rcases room with rfl | rfl
      · exact oneLetter.no_key
      · exact otherLetter.no_key
    · simp only [sampleFile, List.forall_mem_cons, List.not_mem_nil, false_imp_iff, implies_true,
        and_true]
      rcases room with rfl | rfl <;> decide
  exact ⟨configs, means, found _ (.inl rfl), found _ (.inr rfl),
    fun same => absurd (whole.mp same) (by decide)⟩

end RoomDataManager

end ZeldaServer
