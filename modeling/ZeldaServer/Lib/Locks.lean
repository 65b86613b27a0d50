import Mathlib.Data.List.Basic
import Mathlib.Logic.Relation

/-! Locks that are held for a scope. What a thread does with them is a forest of scopes, which
is run as a sequence of operations; what is acquired under what can be read off the forest. -/

namespace Locks

variable {Mutex : Type}

inductive Op (Mutex : Type) where
  | acquire (mutex : Mutex)
  | release (mutex : Mutex)

def holding [DecidableEq Mutex] (held : List Mutex) : List (Op Mutex) → List Mutex
  | [] => held
  | .acquire mutex :: ops => holding (mutex :: held) ops
  | .release mutex :: ops => holding (held.erase mutex) ops

/-- `inner` is acquired while `outer` is held. -/
def AcquiredUnder [DecidableEq Mutex] (outer inner : Mutex) (held : List Mutex) :
    List (Op Mutex) → Prop
  | [] => False
  | .acquire mutex :: ops =>
      (mutex = inner ∧ outer ∈ held) ∨ AcquiredUnder outer inner (mutex :: held) ops
  | .release mutex :: ops => AcquiredUnder outer inner (held.erase mutex) ops

/-- Scopes one after the other: the mutex of the first, what happens inside it, and the rest. -/
inductive Sections (Mutex : Type) where
  | done
  | locked (mutex : Mutex) (inside rest : Sections Mutex)

namespace Sections

def append : Sections Mutex → Sections Mutex → Sections Mutex
  | done, after => after
  | locked mutex inside rest, after => locked mutex inside (rest.append after)

instance : Append (Sections Mutex) := ⟨append⟩

def lock (mutex : Mutex) (inside : Sections Mutex) : Sections Mutex := locked mutex inside done

def each {Item : Type} (scope : Item → Sections Mutex) : List Item → Sections Mutex
  | [] => done
  | item :: items => scope item ++ each scope items

def ops : Sections Mutex → List (Op Mutex)
  | done => []
  | locked mutex inside rest => .acquire mutex :: (inside.ops ++ .release mutex :: rest.ops)

def mutexes : Sections Mutex → List Mutex
  | done => []
  | locked mutex inside rest => mutex :: (inside.mutexes ++ rest.mutexes)

/-- The scope of `inner` is inside one of `outer`. -/
def Nested (outer inner : Mutex) : Sections Mutex → Prop
  | done => False
  | locked mutex inside rest =>
      (mutex = outer ∧ inner ∈ inside.mutexes) ∨ inside.Nested outer inner ∨
        rest.Nested outer inner

def Fresh (sections : Sections Mutex) : Prop := ∀ mutex, ¬ sections.Nested mutex mutex

@[simp] theorem done_append (after : Sections Mutex) : done ++ after = after := rfl

@[simp] theorem locked_append (mutex : Mutex) (inside rest after : Sections Mutex) :
    locked mutex inside rest ++ after = locked mutex inside (rest ++ after) := rfl

@[simp] theorem mutexes_append (before after : Sections Mutex) :
    (before ++ after).mutexes = before.mutexes ++ after.mutexes := by
  induction before with
  | done => rfl
  | locked mutex inside rest _ ih => simp [mutexes, ih]

@[simp] theorem nested_append (outer inner : Mutex) (before after : Sections Mutex) :
    (before ++ after).Nested outer inner ↔
      before.Nested outer inner ∨ after.Nested outer inner := by
  induction before with
  | done => simp [Nested]
  | locked mutex inside rest _ ih => simp [Nested, ih, or_assoc]

@[simp] theorem mutexes_lock (mutex : Mutex) (inside : Sections Mutex) :
    (lock mutex inside).mutexes = mutex :: inside.mutexes := by
  simp [lock, mutexes]

@[simp] theorem nested_lock (outer inner mutex : Mutex) (inside : Sections Mutex) :
    (lock mutex inside).Nested outer inner ↔
      (mutex = outer ∧ inner ∈ inside.mutexes) ∨ inside.Nested outer inner := by
  simp [lock, Nested]

theorem nested_each {Item : Type} (scope : Item → Sections Mutex) (outer inner : Mutex)
    (items : List Item) :
    (each scope items).Nested outer inner ↔ ∃ item ∈ items, (scope item).Nested outer inner := by
  induction items with
  | nil => simp [each, Nested]
  | cons item items ih => simp [each, ih]

theorem fresh_append (before after : Sections Mutex) :
    (before ++ after).Fresh ↔ before.Fresh ∧ after.Fresh := by
  simp only [Fresh, nested_append, not_or, forall_and]

theorem fresh_each {Item : Type} (scope : Item → Sections Mutex) (items : List Item) :
    (each scope items).Fresh ↔ ∀ item ∈ items, (scope item).Fresh := by
  simp only [Fresh, nested_each, not_exists, not_and]
  exact ⟨fun fresh item member mutex => fresh mutex item member,
    fun fresh mutex item member => fresh item member mutex⟩

theorem fresh_lock (mutex : Mutex) (inside : Sections Mutex) :
    (lock mutex inside).Fresh ↔ mutex ∉ inside.mutexes ∧ inside.Fresh := by
  simp only [Fresh, nested_lock, not_or, not_and, forall_and, forall_eq']

variable [DecidableEq Mutex]

theorem holding_append (held : List Mutex) (before after : List (Op Mutex)) :
    holding held (before ++ after) = holding (holding held before) after := by
  induction before generalizing held with
  | nil => rfl
  | cons op before ih =>
      cases op with
      | acquire mutex => exact ih (mutex :: held)
      | release mutex => exact ih (held.erase mutex)

theorem acquiredUnder_append (outer inner : Mutex) (held : List Mutex)
    (before after : List (Op Mutex)) :
    AcquiredUnder outer inner held (before ++ after) ↔
      AcquiredUnder outer inner held before ∨
        AcquiredUnder outer inner (holding held before) after := by
  induction before generalizing held with
  | nil => simp [AcquiredUnder, holding]
  | cons op before ih =>
      cases op with
      | acquire mutex => simp only [List.cons_append, AcquiredUnder, holding, ih, or_assoc]
      | release mutex => simp only [List.cons_append, AcquiredUnder, holding, ih]

theorem holding_ops (held : List Mutex) (sections : Sections Mutex) :
    holding held sections.ops = held := by
  induction sections generalizing held with
  | done => rfl
  | locked mutex inside rest insideIh restIh =>
      simp only [ops, holding, holding_append, insideIh, List.erase_cons_head]
      exact restIh held

theorem acquiredUnder_ops (outer inner : Mutex) (held : List Mutex) (sections : Sections Mutex) :
    AcquiredUnder outer inner held sections.ops ↔
      (outer ∈ held ∧ inner ∈ sections.mutexes) ∨ sections.Nested outer inner := by
  induction sections generalizing held with
  | done => simp [ops, AcquiredUnder, mutexes, Nested]
  | locked mutex inside rest insideIh restIh =>
      simp only [ops, AcquiredUnder, acquiredUnder_append, holding_ops, List.erase_cons_head,
        insideIh, restIh, mutexes, Nested, List.mem_cons, List.mem_append]
      grind

/-- Run with nothing held, a forest acquires one mutex under another where a scope of the one
is inside a scope of the other. -/
theorem acquiredUnder_iff_nested (outer inner : Mutex) (sections : Sections Mutex) :
    AcquiredUnder outer inner [] sections.ops ↔ sections.Nested outer inner := by
  rw [acquiredUnder_ops]
  simp

end Sections

def Acyclic (relation : Mutex → Mutex → Prop) : Prop :=
  ∀ mutex, ¬ Relation.TransGen relation mutex mutex

theorem acyclic_of_rank (relation : Mutex → Mutex → Prop) (rank : Mutex → Nat)
    (rises : ∀ outer inner, relation outer inner → rank outer < rank inner) :
    Acyclic relation := by
  have chain (first last : Mutex) (path : Relation.TransGen relation first last) :
      rank first < rank last := by
    induction path with
    | single step => exact rises _ _ step
    | tail _ step ih => exact Nat.lt_trans ih (rises _ _ step)
  intro mutex cycle
  exact Nat.lt_irrefl _ (chain mutex mutex cycle)

end Locks
