import ZeldaServer.Lib.Scanning

/-! Texts whose brackets are balanced, and what counting brackets finds in any text. -/

namespace Scanning

variable {α : Type}

inductive Balanced (opening closer : α) : List α → Prop where
  | nil : Balanced opening closer []
  | plain {c : α} {text : List α} (not_opening : c ≠ opening) (not_closer : c ≠ closer)
      (rest : Balanced opening closer text) : Balanced opening closer (c :: text)
  | wrap {inner text : List α} (inside : Balanced opening closer inner)
      (rest : Balanced opening closer text) :
      Balanced opening closer (opening :: (inner ++ closer :: text))

namespace Balanced

variable {opening closer : α}

theorem append {front rest : List α} (first : Balanced opening closer front)
    (second : Balanced opening closer rest) : Balanced opening closer (front ++ rest) := by
  induction first with
  | nil => exact second
  | plain not_opening not_closer _ ih => exact .plain not_opening not_closer ih
  | wrap inside _ _ ih =>
      rw [List.cons_append, List.append_assoc, List.cons_append]
      exact .wrap inside ih

theorem bracketed {inner : List α} (inside : Balanced opening closer inner) :
    Balanced opening closer (opening :: (inner ++ [closer])) := .wrap inside .nil

theorem of_plain {text : List α} (plain : ∀ c ∈ text, c ≠ opening ∧ c ≠ closer) :
    Balanced opening closer text := by
  induction text with
  | nil => exact .nil
  | cons c text ih =>
      obtain ⟨first, later⟩ := List.forall_mem_cons.mp plain
      exact .plain first.1 first.2 (ih later)

theorem flatMap {β : Type} (f : β → List α) (items : List β)
    (each : ∀ item ∈ items, Balanced opening closer (f item)) :
    Balanced opening closer (items.flatMap f) := by
  induction items with
  | nil => exact .nil
  | cons item items ih =>
      obtain ⟨first, later⟩ := List.forall_mem_cons.mp each
      exact first.append (ih later)

theorem opens {text : List α}
    (balanced : Balanced opening closer (opening :: text)) :
    ∃ inner rest, Balanced opening closer inner ∧ text = inner ++ closer :: rest := by
  generalize whole : opening :: text = all at balanced
  cases balanced with
  | nil => cases whole
  | plain not_opening => exact absurd (List.cons.inj whole).1.symm not_opening
  | wrap inside _ => exact ⟨_, _, inside, (List.cons.inj whole).2⟩

end Balanced

section Closing

variable [DecidableEq α] {opening closer : α}

theorem closing_balanced (apart : opening ≠ closer) {text : List α}
    (balanced : Balanced opening closer text) (rest : List α) (depth : Int) (deep : 0 < depth) :
    closing opening closer (text ++ rest) depth =
      (text.length + (closing opening closer rest depth).1,
        (closing opening closer rest depth).2) := by
  induction balanced generalizing rest depth with
  | nil => simp
  | @plain c text not_opening not_closer _ ih =>
      have same : deepen opening closer depth c = depth := by
        simp [deepen, not_opening, not_closer]
      rw [List.cons_append, closing, if_pos deep, same, ih rest depth deep]
      simp only [List.length_cons]
      rw [Nat.add_right_comm]
  | @wrap inner text _ _ inside later =>
      have up : deepen opening closer depth opening = depth + 1 := by simp [deepen]
      have down : deepen opening closer (depth + 1) closer = depth := by
        simp [deepen, Ne.symm apart]
      rw [List.cons_append, closing, if_pos deep, up, List.append_assoc,
        inside _ _ (by omega), List.cons_append, closing, if_pos (by omega), down,
        later rest depth deep]
      simp only [List.length_cons, List.length_append]
      congr 1
      omega

theorem closing_here (apart : opening ≠ closer) {text : List α}
    (balanced : Balanced opening closer text) (rest : List α) :
    closing opening closer (text ++ closer :: rest) 1 = (text.length + 1, 0) := by
  have down : deepen opening closer 1 closer = 0 := by simp [deepen, Ne.symm apart]
  rw [closing_balanced apart balanced _ 1 (by omega), closing, if_pos (by omega), down]
  cases rest <;> simp [closing]

theorem closing_zero (apart : opening ≠ closer) (text : List α) (depth : Nat)
    (closed : (closing opening closer text (depth + 1)).2 = 0) :
    ∃ inner rest, Balanced opening closer inner ∧ text = inner ++ closer :: rest ∧
      (closing opening closer rest depth).2 = 0 := by
  induction length : text.length using Nat.strongRecOn generalizing text depth with
  | ind n ih =>
      cases text with
      | nil =>
          simp only [closing] at closed
          omega
      | cons c text =>
          rw [closing, if_pos (by omega)] at closed
          rw [List.length_cons] at length
          by_cases is_opening : c = opening
          · subst is_opening
            have up : deepen c closer (depth + 1) c = (depth + 1 : Nat) + 1 := by simp [deepen]
            rw [up] at closed
            obtain ⟨inner, behind, inside, rfl, deeper⟩ :=
              ih text.length (by omega) text (depth + 1) closed rfl
            rw [List.length_append, List.length_cons] at length
            push_cast at deeper
            obtain ⟨inner', rest, inside', rfl, outside⟩ :=
              ih behind.length (by omega) behind depth deeper rfl
            exact ⟨c :: (inner ++ closer :: inner'), rest, .wrap inside inside', by simp, outside⟩
          · by_cases is_closer : c = closer
            · subst is_closer
              have down : deepen opening c (depth + 1) c = depth := by
                simp [deepen, is_opening]
              rw [down] at closed
              exact ⟨[], text, .nil, rfl, closed⟩
            · have same : deepen opening closer ((depth : Int) + 1) c = depth + 1 := by
                simp [deepen, is_opening, is_closer]
              rw [same] at closed
              obtain ⟨inner, rest, inside, rfl, outside⟩ :=
                ih text.length (by omega) text depth closed rfl
              exact ⟨c :: inner, rest, .plain is_opening is_closer inside, by simp, outside⟩

theorem closing_unique (apart : opening ≠ closer) {inner inner' rest rest' : List α}
    (first : Balanced opening closer inner) (second : Balanced opening closer inner')
    (same : inner ++ closer :: rest = inner' ++ closer :: rest') :
    inner.length = inner'.length := by
  have one := closing_here apart first rest
  rw [same, closing_here apart second rest'] at one
  have length := (Prod.mk.inj one).1
  omega

end Closing

end Scanning
