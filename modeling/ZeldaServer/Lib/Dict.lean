import Mathlib.Data.List.Nodup
import Mathlib.Tactic.Common

/-! Lists of items with keys, searched for a key, and dictionaries that keep the order in which
their keys came. -/

namespace Keyed

variable {Item Key : Type} [DecidableEq Key] (key : Item → Key)

theorem find_replace (items : List Item) (new : Item) (k : Key) :
    (items.map fun old => if key old = key new then new else old).find? (key · = k) =
      if k = key new then (items.find? (key · = k)).map fun _ => new
      else items.find? (key · = k) := by
  induction items with
  | nil => simp
  | cons head tail ih =>
      rw [List.map_cons]
      by_cases old : key head = key new
      · by_cases sought : k = key new
        · simp [old, sought]
        · have other : ¬ key new = k := fun same => sought same.symm
          rw [if_neg sought] at ih ⊢
          simp [old, other, ih]
      · by_cases found : key head = k
        · have other : ¬ k = key new := fun same => old (found.trans same)
          simp [found, other]
        · simp only [if_neg old]
          rw [List.find?_cons_of_neg (by simpa using found),
            List.find?_cons_of_neg (by simpa using found), ih]

theorem find_drop (items : List Item) (gone k : Key) :
    (items.filter (key · ≠ gone)).find? (key · = k) =
      if k = gone then none else items.find? (key · = k) := by
  rw [List.find?_filter]
  split
  case isTrue same =>
    apply List.find?_eq_none.mpr
    intro item _
    simp [same]
  case isFalse other =>
    congr 1
    funext item
    by_cases sought : key item = k <;> simp [sought, other]

theorem find_append (items : List Item) (new : Item) (k : Key) :
    (items ++ [new]).find? (key · = k) =
      (items.find? (key · = k)).or (if key new = k then some new else none) := by
  rw [List.find?_append]
  by_cases sought : key new = k <;> simp [sought]

end Keyed

structure Dict (Key Value : Type) where
  items : List (Key × Value)
  keys_nodup : (items.map Prod.fst).Nodup

namespace Dict

variable {Key Value : Type} [DecidableEq Key]

def empty : Dict Key Value := ⟨[], List.nodup_nil⟩

def keys (d : Dict Key Value) : List Key := d.items.map Prod.fst

def get (d : Dict Key Value) (key : Key) : Option Value :=
  (d.items.find? (·.1 = key)).map Prod.snd

/-- `d[key] = value` -/
def set (d : Dict Key Value) (key : Key) (value : Value) : Dict Key Value :=
  if present : key ∈ d.items.map Prod.fst then
    { items := d.items.map fun old => if old.1 = key then (key, value) else old
      keys_nodup := by
        have same :
            (Prod.fst ∘ fun old : Key × Value => if old.1 = key then (key, value) else old) =
              Prod.fst := by
          funext old
          by_cases replaced : old.1 = key <;> simp [replaced]
        rw [List.map_map, same]
        exact d.keys_nodup }
  else
    { items := d.items ++ [(key, value)]
      keys_nodup := by
        rw [List.map_append]
        exact d.keys_nodup.append (List.nodup_singleton _) (by simpa using present) }

def setAll (d : Dict Key Value) (items : List (Key × Value)) : Dict Key Value :=
  items.foldl (fun d item => d.set item.1 item.2) d

/-- `d.update(other)` -/
def update (d other : Dict Key Value) : Dict Key Value := d.setAll other.items

@[simp] theorem get_empty (key : Key) : (empty : Dict Key Value).get key = none := rfl

theorem mem_keys (d : Dict Key Value) (key : Key) :
    key ∈ d.keys ↔ ∃ value, d.get key = some value := by
  unfold keys get
  rw [List.mem_map]
  constructor
  · rintro ⟨item, listed, rfl⟩
    cases found : d.items.find? (·.1 = item.1) with
    | none => exact absurd (List.find?_eq_none.mp found item listed) (by simp)
    | some other => exact ⟨other.2, rfl⟩
  · rintro ⟨value, found⟩
    obtain ⟨item, found, -⟩ := Option.map_eq_some_iff.mp found
    exact ⟨item, List.mem_of_find?_eq_some found, by simpa using List.find?_some found⟩

theorem get_none (d : Dict Key Value) (key : Key) : d.get key = none ↔ key ∉ d.keys := by
  rw [mem_keys]
  cases d.get key <;> simp

theorem mem_items (d : Dict Key Value) (key : Key) (value : Value)
    (listed : (key, value) ∈ d.items) : d.get key = some value := by
  have all (items : List (Key × Value)) (nodup : (items.map Prod.fst).Nodup)
      (listed : (key, value) ∈ items) : items.find? (·.1 = key) = some (key, value) := by
    induction items with
    | nil => cases listed
    | cons head tail ih =>
        rw [List.map_cons, List.nodup_cons] at nodup
        rcases List.mem_cons.mp listed with rfl | later
        · simp
        · have other : head.1 ≠ key := by
            rintro rfl
            exact nodup.1 (List.mem_map.mpr ⟨_, later, rfl⟩)
          rw [List.find?_cons_of_neg (by simpa using other)]
          exact ih nodup.2 later
  rw [get, all d.items d.keys_nodup listed]
  rfl

theorem get_set (d : Dict Key Value) (key other : Key) (value : Value) :
    (d.set key value).get other = if other = key then some value else d.get other := by
  unfold set get
  split
  case isTrue present =>
    have replaced := Keyed.find_replace Prod.fst d.items (key, value) other
    rw [replaced]
    split
    case isTrue same =>
      obtain ⟨old, found⟩ := (d.mem_keys key).mp present
      obtain ⟨item, found, -⟩ := Option.map_eq_some_iff.mp found
      simp [same, found]
    case isFalse => rfl
  case isFalse absent =>
    have appended := Keyed.find_append Prod.fst d.items (key, value) other
    dsimp only at appended ⊢
    rw [appended]
    by_cases same : other = key
    · have nowhere := (d.get_none key).mpr absent
      unfold get at nowhere
      rw [Option.map_eq_none_iff] at nowhere
      simp [same, nowhere]
    · rw [if_neg same, if_neg fun back => same back.symm, Option.or_none]

theorem get_setAll_some {d : Dict Key Value} {items : List (Key × Value)} {key : Key}
    {value : Value} (found : (d.setAll items).get key = some value) :
    (key, value) ∈ items ∨ d.get key = some value := by
  induction items generalizing d with
  | nil => exact .inr found
  | cons item items ih =>
      rcases ih (d := d.set item.1 item.2) found with later | before
      · exact .inl (List.mem_cons_of_mem _ later)
      · rw [get_set] at before
        split at before
        case isTrue same =>
          cases before
          exact .inl (by simp [same])
        case isFalse => exact .inr before

theorem keys_setAll (d : Dict Key Value) (items : List (Key × Value)) (key : Key) :
    key ∈ (d.setAll items).keys ↔ key ∈ d.keys ∨ key ∈ items.map Prod.fst := by
  induction items generalizing d with
  | nil => simp [setAll]
  | cons item items ih =>
      have first : key ∈ (d.set item.1 item.2).keys ↔ key ∈ d.keys ∨ key = item.1 := by
        rw [mem_keys, mem_keys, get_set]
        split
        case isTrue same => simp [same]
        case isFalse other => simp [other]
      have later : key ∈ (d.setAll (item :: items)).keys ↔
          key ∈ (d.set item.1 item.2).keys ∨ key ∈ items.map Prod.fst := ih _
      rw [later, first, List.map_cons, List.mem_cons, or_assoc]

end Dict
