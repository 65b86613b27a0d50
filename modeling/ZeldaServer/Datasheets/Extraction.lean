import ZeldaServer.Datasheets.Readings
import ZeldaServer.Lib.Balance

/-! What `GetObjectBlock` and `GetObjectsInArray` cut out of a text, on the server and in the
client's copy of them. -/

namespace ZeldaServer

/-- The copies in `DevSceneResourceLoader.cpp`, the same code. -/
def DevSceneResourceLoader.getObjectBlock (json : RoomDataManager.Text) (startPos outEndPos : Nat) :
    RoomDataManager.Code (RoomDataManager.Text × Nat) :=
  RoomDataManager.getObjectBlock json startPos outEndPos

def DevSceneResourceLoader.getObjectsInArray (json arrayKey : RoomDataManager.Text)
    (startPos : Nat) : RoomDataManager.Code (List RoomDataManager.Text) :=
  RoomDataManager.getObjectsInArray json arrayKey startPos

namespace RoomDataManager

open Scanning (find find_single find_single_none substr segment skipTo skipTo_run Balanced closing
  closing_balanced closing_here closing_zero closing_unique)

/-- The shortest text with balanced braces from the first `{` at or behind the start on, and where
it ends. -/
structure ShortestObject (json : Text) (startPos : Nat) (block : Text) (endPos : Nat) : Prop where
  first : ∃ front rest, json.drop startPos = front ++ (block ++ rest) ∧ '{' ∉ front ∧
    endPos = startPos + front.length + block.length
  opens : block.head? = some '{'
  balanced : Balanced '{' '}' block
  shortest : ∀ shorter, shorter <+: block → shorter ≠ [] → Balanced '{' '}' shorter →
    shorter = block

theorem braces_apart : '{' ≠ '}' := by decide

theorem brackets_apart : '[' ≠ ']' := by decide

theorem shortestObject_iff (json : Text) (startPos : Nat) (block : Text) (endPos : Nat) :
    ShortestObject json startPos block endPos ↔
      ∃ front inner rest, json.drop startPos = front ++ '{' :: (inner ++ '}' :: rest) ∧
        '{' ∉ front ∧ Balanced '{' '}' inner ∧ block = '{' :: (inner ++ ['}']) ∧
        endPos = startPos + front.length + (inner.length + 2) := by
  constructor
  · rintro ⟨⟨front, rest, split, absent, ends⟩, opens, balanced, shortest⟩
    obtain ⟨tail, rfl⟩ : ∃ tail, block = '{' :: tail := by
      cases block with
      | nil => cases opens
      | cons c tail =>
          cases opens
          exact ⟨tail, rfl⟩
    obtain ⟨inner, behind, inside, rfl⟩ := balanced.opens
    have whole : '{' :: (inner ++ ['}']) = '{' :: (inner ++ '}' :: behind) := by
      apply shortest _ _ (by simp) inside.bracketed
      exact ⟨behind, by simp⟩
    have none_behind : behind = [] := by simpa using whole
    subst none_behind
    refine ⟨front, inner, rest, by simpa using split, absent, inside, rfl, ?_⟩
    simpa using ends
  · rintro ⟨front, inner, rest, split, absent, inside, rfl, rfl⟩
    refine ⟨⟨front, rest, by simpa using split, absent, by simp⟩, rfl, inside.bracketed, ?_⟩
    rintro shorter ⟨behind, whole⟩ nonempty balanced
    cases shorter with
    | nil => exact absurd rfl nonempty
    | cons c tail =>
        obtain ⟨rfl, same⟩ := List.cons.inj whole
        obtain ⟨inner', more, inside', rfl⟩ := balanced.opens
        have length : inner'.length = inner.length := by
          apply closing_unique braces_apart inside' inside
          have flat : inner' ++ '}' :: (more ++ behind) = inner ++ '}' :: [] := by
            simpa using same
          exact flat
        have total := congrArg List.length whole
        simp only [List.length_append, List.length_cons, List.length_nil] at total
        have nothing : more = [] := List.eq_nil_of_length_eq_zero (by omega)
        have behind_nothing : behind = [] := List.eq_nil_of_length_eq_zero (by omega)
        subst nothing behind_nothing
        simpa using whole

theorem objectBlock_iff (json : Text) (startPos : Nat) (block : Text) (endPos : Nat) :
    objectBlock json startPos = some (block, endPos) ↔ ShortestObject json startPos block endPos := by
  rw [shortestObject_iff]
  by_cases brace : '{' ∈ json.drop startPos
  case neg =>
    unfold objectBlock
    rw [find_single_none brace]
    constructor
    · rintro ⟨⟩
    · rintro ⟨front, inner, rest, split, -⟩
      exact absurd (by simp [split]) brace
  case pos =>
    obtain ⟨front, tail, split, absent⟩ := List.eq_append_cons_of_mem brace
    have from_brace : json.drop (startPos + front.length) = '{' :: tail := by
      rw [← List.drop_drop, split, List.drop_left]
    have behind_brace : json.drop (startPos + front.length + 1) = tail := by
      rw [← List.drop_drop, from_brace]
      rfl
    have result (inner rest : Text) (closes : tail = inner ++ '}' :: rest)
        (inside : Balanced '{' '}' inner) :
        objectBlock json startPos = some ('{' :: (inner ++ ['}']),
          startPos + front.length + (inner.length + 2)) := by
      unfold objectBlock
      rw [find_single split absent]
      dsimp only [Option.bind_some]
      rw [behind_brace, closes, closing_here braces_apart inside rest]
      simp only [if_true, substr, from_brace, closes]
      congr 2
      · rw [List.take_succ_cons, List.take_append, List.take_of_length_le (by omega)]
        simp
      · omega
    constructor
    · intro found
      have depth : (closing '{' '}' tail 1).2 = 0 := by
        by_contra open_brace
        unfold objectBlock at found
        rw [find_single split absent] at found
        dsimp only [Option.bind_some] at found
        rw [behind_brace, if_neg open_brace] at found
        cases found
      obtain ⟨inner, rest, inside, closes, -⟩ := closing_zero braces_apart tail 0 depth
      rw [result inner rest closes inside] at found
      obtain ⟨rfl, rfl⟩ := Prod.mk.inj (Option.some.inj found)
      exact ⟨front, inner, rest, closes ▸ split, absent, inside, rfl, rfl⟩
    · rintro ⟨front', inner, rest, split', absent', inside, rfl, rfl⟩
      have same : front = front' ∧ '{' :: tail = '{' :: (inner ++ '}' :: rest) := by
        have found := find_single split absent
        rw [find_single split' absent'] at found
        have length := Option.some.inj found
        exact List.append_inj (split.symm.trans split') (by omega)
      obtain ⟨rfl, closes⟩ := same
      exact result inner rest (List.cons.inj closes).2 inside

structure Gap where
  text : Text
  gaps : ∀ c ∈ text, isGap c = true

structure JsonObject where
  inner : Text
  braces : Balanced '{' '}' inner
  brackets : Balanced '[' ']' inner

def JsonObject.text (object : JsonObject) : Text := '{' :: (object.inner ++ ['}'])

/-- The text of an array behind its opening bracket, up to its closing one. -/
def arrayBody (objects : List (Gap × JsonObject)) (last : Gap) : Text :=
  objects.flatMap (fun (gap, object) => gap.text ++ object.text) ++ last.text

theorem Gap.brackets (gap : Gap) : Balanced '[' ']' gap.text := by
  apply Balanced.of_plain
  intro c member
  have kind := gap.gaps c member
  constructor
  · rintro rfl
    exact absurd kind (by decide)
  · rintro rfl
    exact absurd kind (by decide)

theorem JsonObject.text_brackets (object : JsonObject) : Balanced '[' ']' object.text := by
  have tail : Balanced '[' ']' ['}'] := .plain (by decide) (by decide) .nil
  exact .plain (by decide) (by decide) (object.brackets.append tail)

theorem arrayBody_brackets (objects : List (Gap × JsonObject)) (last : Gap) :
    Balanced '[' ']' (arrayBody objects last) := by
  apply Balanced.append _ last.brackets
  apply Balanced.flatMap
  rintro ⟨gap, object⟩ _
  exact gap.brackets.append object.text_brackets

theorem length_le_arrayBody (objects : List (Gap × JsonObject)) (last : Gap) :
    objects.length ≤ (arrayBody objects last).length := by
  unfold arrayBody
  rw [List.length_append]
  induction objects with
  | nil => exact Nat.zero_le _
  | cons first objects ih =>
      have some_text : 0 < first.2.text.length := Nat.succ_pos _
      rw [List.flatMap_cons, List.length_append, List.length_append, List.length_cons]
      omega

theorem objectsFrom_arrayBody (json : Text) (objects : List (Gap × JsonObject)) (last : Gap)
    (rest : Text) (fuel pos : Nat) (enough : objects.length < fuel)
    (here : json.drop pos = arrayBody objects last ++ ']' :: rest) :
    objectsFrom json (pos + (arrayBody objects last).length + 1) fuel pos =
      objects.map fun (_, object) => object.text := by
  induction objects generalizing fuel pos with
  | nil =>
      obtain ⟨fuel, rfl⟩ : ∃ less, fuel = less + 1 := ⟨fuel - 1, by omega⟩
      have body : arrayBody [] last = last.text := rfl
      rw [body] at here ⊢
      have start := skipTo_run here last.gaps (by decide) (Nat.lt_succ_self _)
      have closer : json[pos + last.text.length]? = some ']' := by
        rw [← List.head?_drop, ← List.drop_drop, here, List.drop_left]
        rfl
      rw [objectsFrom, start, if_pos (.inr closer)]
      rfl
  | cons first objects ih =>
      obtain ⟨fuel, rfl⟩ : ∃ less, fuel = less + 1 := ⟨fuel - 1, by omega⟩
      obtain ⟨gap, object⟩ := first
      have body : arrayBody ((gap, object) :: objects) last =
          gap.text ++ (object.text ++ arrayBody objects last) := by
        simp [arrayBody, List.append_assoc]
      rw [body] at here ⊢
      have at_object : json.drop (pos + gap.text.length) =
          object.text ++ (arrayBody objects last ++ ']' :: rest) := by
        rw [← List.drop_drop, here, List.append_assoc, List.drop_left, List.append_assoc]
      have behind : json.drop (pos + gap.text.length + object.text.length) =
          arrayBody objects last ++ ']' :: rest := by
        rw [← List.drop_drop, at_object, List.drop_left]
      have brace : json.drop pos = gap.text ++ '{' ::
          (object.inner ++ '}' :: (arrayBody objects last ++ ']' :: rest)) := by
        rw [here]
        simp [JsonObject.text]
      simp only [List.length_append] at *
      have start := skipTo_run brace gap.gaps (by decide)
        (show pos + gap.text.length <
          pos + (gap.text.length + (object.text.length + (arrayBody objects last).length)) + 1 by
            omega)
      have opens : json[pos + gap.text.length]? = some '{' := by
        rw [← List.head?_drop, at_object]
        rfl
      have block : objectBlock json (pos + gap.text.length) =
          some (object.text, pos + gap.text.length + object.text.length) := by
        rw [objectBlock_iff, shortestObject_iff]
        refine ⟨[], object.inner, arrayBody objects last ++ ']' :: rest, ?_, by simp,
          object.braces, rfl, ?_⟩
        · rw [at_object]
          simp [JsonObject.text]
        · simp [JsonObject.text]
      rw [objectsFrom, start, if_neg, block]
      · dsimp only
        rw [List.map_cons, ← ih fuel _ (by simpa using enough) behind]
        congr 2
        omega
      · rw [opens, not_or]
        exact ⟨by omega, by decide⟩

def arrayStartOf (json arrayKey : Text) (startPos : Nat) : Option Nat :=
  (findKey json arrayKey startPos).bind fun keyPos =>
    (find [':'] json keyPos).bind fun colonPos => find ['['] json colonPos

theorem objectsInArray_arrayBody (json arrayKey : Text) (startPos arrayStart : Nat)
    (objects : List (Gap × JsonObject)) (last : Gap) (rest : Text)
    (found : arrayStartOf json arrayKey startPos = some arrayStart)
    (here : json.drop (arrayStart + 1) = arrayBody objects last ++ ']' :: rest) :
    objectsInArray json arrayKey startPos = objects.map fun (_, object) => object.text := by
  have ends := closing_here brackets_apart (arrayBody_brackets objects last) rest
  have few : objects.length < json.length := by
    have length := congrArg List.length here
    have each := length_le_arrayBody objects last
    simp only [List.length_drop, List.length_append, List.length_cons] at length
    omega
  have all := objectsFrom_arrayBody json objects last rest json.length (arrayStart + 1) few here
  unfold arrayStartOf at found
  unfold objectsInArray
  rw [found]
  dsimp only
  rw [here, ends]
  exact all

def CutsObject (json : Text) (startPos outEndPos : Nat) (cut : Code (Text × Nat)) : Prop :=
  (∃ block endPos, ShortestObject json startPos block endPos ∧ cut.Means (.gave (block, endPos))) ∨
    (¬ ∃ block endPos, ShortestObject json startPos block endPos) ∧
      cut.Means (.gave ([], outEndPos))

/-- Both copies cut out the shortest balanced object, and the objects of an array one by one. -/
theorem object_extraction :
    (∀ json startPos outEndPos,
      CutsObject json startPos outEndPos (getObjectBlock json startPos outEndPos) ∧
      CutsObject json startPos outEndPos
        (DevSceneResourceLoader.getObjectBlock json startPos outEndPos)) ∧
    ∀ (json arrayKey : Text) (startPos arrayStart : Nat) (objects : List (Gap × JsonObject))
      (last : Gap) (rest : Text), arrayStartOf json arrayKey startPos = some arrayStart →
      json.drop (arrayStart + 1) = arrayBody objects last ++ ']' :: rest →
      (getObjectsInArray json arrayKey startPos).Means
        (.gave (objects.map fun (_, object) => object.text)) ∧
      (DevSceneResourceLoader.getObjectsInArray json arrayKey startPos).Means
        (.gave (objects.map fun (_, object) => object.text)) := by
  constructor
  · intro json startPos outEndPos
    have means := means_getObjectBlock json startPos outEndPos
    have cuts : CutsObject json startPos outEndPos (getObjectBlock json startPos outEndPos) := by
      cases found : objectBlock json startPos with
      | none =>
          rw [found] at means
          refine .inr ⟨?_, means⟩
          rintro ⟨block, endPos, object⟩
          rw [← objectBlock_iff, found] at object
          cases object
      | some cut =>
          rw [found] at means
          exact .inl ⟨cut.1, cut.2, (objectBlock_iff ..).mp found, means⟩
    exact ⟨cuts, cuts⟩
  · intro json arrayKey startPos arrayStart objects last rest found here
    have means := means_getObjectsInArray json arrayKey startPos
    rw [objectsInArray_arrayBody json arrayKey startPos arrayStart objects last rest found here]
      at means
    exact ⟨means, means⟩

def noGap : Gap := ⟨[], by simp⟩

def oneComma : Gap := ⟨[','], List.all_eq_true.mp (by decide)⟩

def someNumber : JsonObject :=
  ⟨"\"n\":1".toList, .of_plain (List.all_iff_forall_prop.mp (by decide)),
    .of_plain (List.all_iff_forall_prop.mp (by decide))⟩

def noNumber : JsonObject := ⟨[], .nil, .nil⟩

theorem two_objects_extracted :
    (getObjectsInArray "\"a\":[\x7b\"n\":1\x7d,\x7b\x7d]".toList "a".toList 0).Means
      (.gave ["\x7b\"n\":1\x7d".toList, "\x7b\x7d".toList]) :=
  (object_extraction.2 _ _ _ 4 [(noGap, someNumber), (oneComma, noNumber)] noGap []
    (by decide) (by decide)).1

end RoomDataManager

end ZeldaServer
