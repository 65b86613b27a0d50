import Mathlib.Data.List.Nodup
import Mathlib.Logic.Function.Basic

/-! Relational tables: every row has a rowid and a unique key. An `INTEGER PRIMARY KEY` column
is its row's rowid. -/

structure Table {Row Key : Type} (rowid : Row → Int) (key : Row → Key) where
  rows : List Row
  rowids_nodup : (rows.map rowid).Nodup
  keys_nodup : (rows.map key).Nodup

namespace Table

variable {Row Key : Type} {rowid : Row → Int} {key : Row → Key}

def empty : Table rowid key := ⟨[], List.nodup_nil, List.nodup_nil⟩

/-- `DELETE`, of the rows that are not to be kept -/
def keep (t : Table rowid key) (kept : Row → Bool) : Table rowid key where
  rows := t.rows.filter kept
  rowids_nodup := t.rowids_nodup.sublist (List.filter_sublist.map rowid)
  keys_nodup := t.keys_nodup.sublist (List.filter_sublist.map key)

def maxRowid (t : Table rowid key) : Option Int := (t.rows.map rowid).max?

def nextRowid (t : Table rowid key) : Int :=
  match t.maxRowid with
  | none => 1
  | some last => last + 1

theorem le_maxRowid (t : Table rowid key) (row : Row) (member : row ∈ t.rows) :
    ∃ last, t.maxRowid = some last ∧ rowid row ≤ last := by
  have listed : rowid row ∈ t.rows.map rowid := List.mem_map_of_mem member
  cases found : (t.rows.map rowid).max? with
  | none =>
      rw [List.max?_eq_none_iff] at found
      rw [found] at listed
      cases listed
  | some last =>
      exact ⟨last, found, (List.max?_eq_some_iff.mp found).2 _ listed⟩

theorem lt_nextRowid (t : Table rowid key) (row : Row) (member : row ∈ t.rows) :
    rowid row < t.nextRowid := by
  obtain ⟨last, found, le⟩ := t.le_maxRowid row member
  simp only [nextRowid, found]
  omega

variable [DecidableEq Key]

def find (t : Table rowid key) (k : Key) : Option Row := t.rows.find? fun row => key row = k

def Collides (t : Table rowid key) (row : Row) : Prop :=
  ∃ old ∈ t.rows, rowid old = rowid row ∨ key old = key row

instance (t : Table rowid key) (row : Row) : Decidable (t.Collides row) :=
  inferInstanceAs (Decidable (∃ old ∈ t.rows, _))

/-- `INSERT`; a row that collides is a constraint error. -/
def insert (t : Table rowid key) (row : Row) : Option (Table rowid key) :=
  if collides : t.Collides row then none
  else
    some
      { rows := row :: t.rows
        rowids_nodup := by
          rw [List.map_cons, List.nodup_cons]
          refine ⟨fun listed => ?_, t.rowids_nodup⟩
          obtain ⟨old, member, same⟩ := List.mem_map.mp listed
          exact collides ⟨old, member, .inl same⟩
        keys_nodup := by
          rw [List.map_cons, List.nodup_cons]
          refine ⟨fun listed => ?_, t.keys_nodup⟩
          obtain ⟨old, member, same⟩ := List.mem_map.mp listed
          exact collides ⟨old, member, .inr same⟩ }

/-- `INSERT OR REPLACE`: the rows in the way go first. -/
def replace (t : Table rowid key) (row : Row) : Table rowid key :=
  let cleared := t.keep fun old => rowid old ≠ rowid row ∧ key old ≠ key row
  (cleared.insert row).getD cleared

section

variable (t : Table rowid key) (row : Row) (k : Key)

theorem find_eq_some_iff : t.find k = some row ↔ row ∈ t.rows ∧ key row = k := by
  constructor
  · intro found
    exact ⟨List.mem_of_find?_eq_some found, by simpa using List.find?_some found⟩
  · rintro ⟨member, rfl⟩
    cases found : t.find (key row) with
    | none =>
        have missing := List.find?_eq_none.mp found row member
        simp at missing
    | some other =>
        have same : key other = key row := by simpa using List.find?_some found
        rw [List.inj_on_of_nodup_map t.keys_nodup (List.mem_of_find?_eq_some found) member same]

theorem find_eq_none_iff : t.find k = none ↔ ∀ row ∈ t.rows, key row ≠ k := by
  simp [find, List.find?_eq_none]

theorem find_congr (t' : Table rowid key)
    (same : ∀ row, key row = k → (row ∈ t'.rows ↔ row ∈ t.rows)) : t'.find k = t.find k := by
  apply Option.ext
  intro row
  simp only [find_eq_some_iff]
  constructor
  · rintro ⟨member, at_k⟩
    exact ⟨(same row at_k).mp member, at_k⟩
  · rintro ⟨member, at_k⟩
    exact ⟨(same row at_k).mpr member, at_k⟩

theorem insert_rows (t' : Table rowid key) (inserted : t.insert row = some t') :
    t'.rows = row :: t.rows := by
  unfold insert at inserted
  split at inserted
  · cases inserted
  · cases inserted
    rfl

theorem insert_eq_none_iff : t.insert row = none ↔ t.Collides row := by
  unfold insert
  split <;> simp [*]

theorem collides_next (next : t.nextRowid ≤ rowid row) :
    t.Collides row ↔ t.find (key row) ≠ none := by
  rw [ne_eq, find_eq_none_iff, not_forall]
  constructor
  · rintro ⟨old, member, same | same⟩
    · have := t.lt_nextRowid old member
      omega
    · exact ⟨old, by simp [member, same]⟩
  · rintro ⟨old, found⟩
    obtain ⟨member, same⟩ := Classical.not_imp.mp found
    exact ⟨old, member, .inr (not_not.mp same)⟩

theorem find_insert (t' : Table rowid key) (inserted : t.insert row = some t') :
    t'.find k = if key row = k then some row else t.find k := by
  rw [find, t.insert_rows row t' inserted, List.find?_cons]
  by_cases same : key row = k <;> simp [same, find]

theorem find_keep (kept : Row → Bool) : (t.keep kept).find k = (t.find k).filter kept := by
  apply Option.ext
  intro row
  simp only [find_eq_some_iff, keep, List.mem_filter, Option.filter_eq_some_iff]
  tauto

theorem replace_rows : (t.replace row).rows =
    row :: t.rows.filter fun old => rowid old ≠ rowid row ∧ key old ≠ key row := by
  unfold replace
  dsimp only
  cases inserted : (t.keep fun old => rowid old ≠ rowid row ∧ key old ≠ key row).insert row with
  | some t' => exact insert_rows _ _ _ inserted
  | none =>
      obtain ⟨old, member, same⟩ := (insert_eq_none_iff _ _).mp inserted
      simp only [keep, List.mem_filter, decide_eq_true_eq] at member
      rcases same with same | same
      · exact absurd same member.2.1
      · exact absurd same member.2.2

end

def put {Place Value : Type} [DecidableEq Place] (f : Place → Value) (place : Option Place)
    (value : Value) : Place → Value :=
  match place with
  | none => f
  | some j => Function.update f j value

theorem foldl_put {Place Value : Type} [DecidableEq Place] (place : Row → Option Place)
    (value : Row → Value) (rows : List Row)
    (apart : rows.Pairwise fun a b => ∀ i, place a = some i → place b ≠ some i)
    (start : Place → Value) (i : Place) :
    (rows.foldl (fun f row => put f (place row) (value row)) start) i =
      ((rows.find? fun row => place row = some i).map value).getD (start i) := by
  induction rows generalizing start with
  | nil => rfl
  | cons row rows ih =>
      obtain ⟨first, apart⟩ := List.pairwise_cons.mp apart
      rw [List.foldl_cons, ih apart, List.find?_cons]
      cases placed : place row with
      | none => simp [put]
      | some j =>
          by_cases same : j = i
          · subst same
            have later : rows.find? (fun row => place row = some j) = none := by
              rw [List.find?_eq_none]
              intro other member
              simpa using first other member j placed
            simp [later, put]
          · simp [same, put, Function.update_of_ne (Ne.symm same)]

end Table
