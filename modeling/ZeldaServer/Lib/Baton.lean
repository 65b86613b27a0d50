import Mathlib.Logic.Function.Basic

/-! A baton among threads. Each thread is at a point of its program, and at some of the points
it holds the baton; a thread hands the baton to nobody, or to the system outside, or takes
it over. -/

namespace Baton

variable {Thread Point : Type}

inductive Owner (Thread : Type) where
  | nobody
  | thread (t : Thread)
  | outside
  deriving DecidableEq

variable (holds : Point → Bool)

/-- The owner of the baton is the only thread at a point where it is held. -/
def Carried (threads : Thread → Point) (owner : Owner Thread) : Prop :=
  ∀ t, holds (threads t) = true ↔ owner = .thread t

variable {holds} {threads : Thread → Point} {owner : Owner Thread}

theorem Carried.owner_of_holds (carried : Carried holds threads owner) (t : Thread)
    (held : holds (threads t) = true) : owner = .thread t :=
  (carried t).mp held

theorem Carried.unique (carried : Carried holds threads owner) (t t' : Thread)
    (held : holds (threads t) = true) (held' : holds (threads t') = true) : t = t' := by
  have first := carried.owner_of_holds t held
  rw [carried.owner_of_holds t' held'] at first
  cases first
  rfl

theorem Carried.hand_over (carried : Carried holds threads owner) (free : ∀ t, owner ≠ .thread t)
    (next : Owner Thread) (away : ∀ t, next ≠ .thread t) : Carried holds threads next := by
  intro t
  exact iff_of_false (fun held => free t (carried.owner_of_holds t held)) (away t)

variable [DecidableEq Thread]

theorem Carried.pass_by (carried : Carried holds threads owner) (t : Thread) (p : Point)
    (without : holds (threads t) = false) (still : holds p = false) :
    Carried holds (Function.update threads t p) owner := by
  intro t'
  rw [Function.update_apply]
  split
  case isTrue same =>
    rw [still, same, ← carried t, without]
  case isFalse => exact carried t'

theorem Carried.keep (carried : Carried holds threads owner) (t : Thread) (p : Point)
    (held : holds (threads t) = true) (still : holds p = true) :
    Carried holds (Function.update threads t p) owner := by
  intro t'
  rw [Function.update_apply]
  split
  case isTrue same =>
    rw [still, same, ← carried t, held]
  case isFalse => exact carried t'

theorem Carried.take (carried : Carried holds threads owner) (t : Thread) (p : Point)
    (free : ∀ t', owner ≠ .thread t') (takes : holds p = true) :
    Carried holds (Function.update threads t p) (.thread t) := by
  intro t'
  rw [Function.update_apply]
  split
  case isTrue same =>
    rw [same]
    exact iff_of_true takes rfl
  case isFalse apart =>
    apply iff_of_false
    · intro held
      exact free t' (carried.owner_of_holds t' held)
    · intro same
      cases same
      exact apart rfl

theorem Carried.give (carried : Carried holds threads (.thread t)) (p : Point)
    (without : holds p = false) (next : Owner Thread) (away : ∀ t', next ≠ .thread t') :
    Carried holds (Function.update threads t p) next := by
  intro t'
  apply iff_of_false _ (away t')
  rw [Function.update_apply]
  split
  · rw [without]
    exact Bool.false_ne_true
  case isFalse apart =>
    intro held
    have same := carried.owner_of_holds t' held
    cases same
    exact apart rfl

end Baton
