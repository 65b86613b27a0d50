import Mathlib.Data.List.Chain
import Mathlib.Tactic.Common

/-! Objects that act by turns. Between its turns nothing changes what is seen of an object,
except that it may vanish; then it does not come back. -/

namespace Lives

structure Stage (Id State View Label : Type) where
  view : State → Id → Option View
  clock : State → Nat
  who : Label → Option Id
  before : Label → State
  after : Label → State
  /-- the clock in the course of a turn -/
  begins : Label → Nat
  ends : Label → Nat
  newborn : View → Prop

namespace Stage

variable {Id State View Label : Type} (S : Stage Id State View Label)

def turnsOf [DecidableEq Id] (id : Id) (labels : List Label) : List Label := labels.filter (S.who · = some id)

structure Follows (id : Id) (last next : Label) : Prop where
  view : S.view (S.before next) id = S.view (S.after last) id
  clock : S.ends last ≤ S.begins next

structure Life (id : Id) (turns : List Label) : Prop where
  named : ∀ t ∈ turns, S.who t = some id
  present : ∀ t ∈ turns, (S.view (S.before t) id).isSome = true
  passes : ∀ t ∈ turns, S.begins t ≤ S.ends t
  starts : ∀ t ∈ turns.head?, ∀ v, S.view (S.before t) id = some v → S.newborn v
  goesOn : turns.IsChain (S.Follows id)

structure Tracked [DecidableEq Id] (s : State) (unborn : Id → Prop) (history : List Label) : Prop where
  lives : ∀ id, S.Life id (S.turnsOf id history)
  first : ∀ id v, S.turnsOf id history = [] → S.view s id = some v → S.newborn v
  last : ∀ id, ∀ t ∈ (S.turnsOf id history).getLast?, ∀ v, S.view s id = some v →
    S.view (S.after t) id = some v
  clock : ∀ id, ∀ t ∈ S.turnsOf id history, S.ends t ≤ S.clock s
  fresh : ∀ id, unborn id → S.turnsOf id history = []

theorem turnsOf_append [DecidableEq Id] (id : Id) (front back : List Label) :
    S.turnsOf id (front ++ back) = S.turnsOf id front ++ S.turnsOf id back :=
  List.filter_append ..

theorem turnsOf_other [DecidableEq Id] (id : Id) (labels : List Label) (other : ∀ t ∈ labels, S.who t ≠ some id) :
    S.turnsOf id labels = [] :=
  List.filter_eq_nil_iff.mpr fun t member same => other t member (of_decide_eq_true same)

variable {S}

theorem Life.nil (id : Id) : S.Life id [] where
  named := fun _ member => absurd member List.not_mem_nil
  present := fun _ member => absurd member List.not_mem_nil
  passes := fun _ member => absurd member List.not_mem_nil
  starts := fun _ member => by cases member
  goesOn := .nil

namespace Tracked

variable [DecidableEq Id] {s s' : State} {unborn unborn' : Id → Prop} {history : List Label}

theorem start (newborn : ∀ id v, S.view s id = some v → S.newborn v) :
    S.Tracked s unborn [] where
  lives := fun id => .nil id
  first := fun id v _ seen => newborn id v seen
  last := fun _ _ member => by cases member
  clock := fun _ _ member => absurd member List.not_mem_nil
  fresh := fun _ _ => rfl

theorem quiet (tracked : S.Tracked s unborn history) (labels : List Label)
    (silent : ∀ t ∈ labels, S.who t = none) (clock : S.clock s ≤ S.clock s')
    (unborn_yet : ∀ id, unborn' id → unborn id)
    (kept : ∀ id v, S.view s' id = some v →
      S.view s id = some v ∨ unborn id ∧ S.newborn v) :
    S.Tracked s' unborn' (history ++ labels) := by
  have same (id : Id) : S.turnsOf id (history ++ labels) = S.turnsOf id history := by
    have none : S.turnsOf id labels = [] := by
      apply S.turnsOf_other
      intro t member is
      rw [silent t member] at is
      cases is
    rw [S.turnsOf_append, none, List.append_nil]
  constructor
  case lives => exact fun id => same id ▸ tracked.lives id
  case first =>
    intro id v none seen
    rw [same] at none
    rcases kept id v seen with old | ⟨-, newborn⟩
    · exact tracked.first id v none old
    · exact newborn
  case last =>
    intro id t final v seen
    rw [same] at final
    rcases kept id v seen with old | ⟨new, -⟩
    · exact tracked.last id t final v old
    · rw [tracked.fresh id new] at final
      cases final
  case clock =>
    intro id t member
    rw [same] at member
    exact (tracked.clock id t member).trans clock
  case fresh =>
    intro id new
    rw [same]
    exact tracked.fresh id (unborn_yet id new)

theorem turn (tracked : S.Tracked s unborn history) (id : Id) (t : Label)
    (named : S.who t = some id) (before : S.before t = s) (after : S.after t = s')
    (present : (S.view s id).isSome = true) (born : ¬ unborn' id) (begins : S.clock s ≤ S.begins t)
    (passes : S.begins t ≤ S.ends t) (ends : S.ends t ≤ S.clock s')
    (unborn_yet : ∀ id, unborn' id → unborn id)
    (others : ∀ other, other ≠ id → ∀ v, S.view s' other = some v → S.view s other = some v) :
    S.Tracked s' unborn' (history ++ [t]) := by
  have own : S.turnsOf id (history ++ [t]) = S.turnsOf id history ++ [t] := by
    rw [S.turnsOf_append]
    simp [turnsOf, named]
  have other_turns (other : Id) (apart : other ≠ id) :
      S.turnsOf other (history ++ [t]) = S.turnsOf other history := by
    have none : S.turnsOf other [t] = [] := by
      apply S.turnsOf_other
      intro t' member is
      rw [List.mem_singleton.mp member, named] at is
      exact apart (Option.some.inj is).symm
    rw [S.turnsOf_append, none, List.append_nil]
  obtain ⟨now, seen⟩ := Option.isSome_iff_exists.mp present
  constructor
  case lives =>
    intro other
    by_cases apart : other = id
    · subst apart
      rw [own]
      have life := tracked.lives other
      constructor
      case named =>
        intro t' member
        rcases List.mem_append.mp member with old | new
        · exact life.named t' old
        · rwa [List.mem_singleton.mp new]
      case present =>
        intro t' member
        rcases List.mem_append.mp member with old | new
        · exact life.present t' old
        · rwa [List.mem_singleton.mp new, before]
      case passes =>
        intro t' member
        rcases List.mem_append.mp member with old | new
        · exact life.passes t' old
        · rwa [List.mem_singleton.mp new]
      case starts =>
        intro t' head v stands
        cases turns : S.turnsOf other history with
        | nil =>
            rw [turns] at head
            obtain rfl : t = t' := by simpa using head
            rw [before] at stands
            exact tracked.first other v turns stands
        | cons first rest =>
            rw [turns] at head
            have starts := life.starts
            rw [turns] at starts
            exact starts t' (by simpa using head) v stands
      case goesOn =>
        rw [List.isChain_append]
        refine ⟨life.goesOn, .singleton t, ?_⟩
        intro last final head first
        obtain rfl : t = head := by simpa using first
        constructor
        case view =>
          rw [before, seen]
          exact (tracked.last other last final now seen).symm
        case clock =>
          exact (tracked.clock other last (List.mem_of_getLast? final)).trans begins
    · rw [other_turns other apart]
      exact tracked.lives other
  case first =>
    intro other v none stands
    by_cases apart : other = id
    · subst apart
      rw [own] at none
      simp at none
    · rw [other_turns other apart] at none
      exact tracked.first other v none (others other apart v stands)
  case last =>
    intro other last final v stands
    by_cases apart : other = id
    · subst apart
      rw [own] at final
      obtain rfl : t = last := by simpa using final
      rwa [after]
    · rw [other_turns other apart] at final
      exact tracked.last other last final v (others other apart v stands)
  case clock =>
    intro other t' member
    by_cases apart : other = id
    · subst apart
      rw [own] at member
      rcases List.mem_append.mp member with old | new
      · exact (tracked.clock other t' old).trans (begins.trans (passes.trans ends))
      · rwa [List.mem_singleton.mp new]
    · rw [other_turns other apart] at member
      exact (tracked.clock other t' member).trans (begins.trans (passes.trans ends))
  case fresh =>
    intro other new
    have apart : other ≠ id := fun same => born (same ▸ new)
    rw [other_turns other apart]
    exact tracked.fresh other (unborn_yet other new)

end Tracked

structure Goes (id : Id) (t : Label) (v v' : View) : Prop where
  named : S.who t = some id
  before : S.view (S.before t) id = some v
  after : S.view (S.after t) id = some v'
  passes : S.begins t ≤ S.ends t

/-- A promise that holds after one turn, that time does not break and every turn keeps, holds
going into each of the turns that follow. -/
theorem promised (id : Id) (promise : View → Nat → Prop) (last : Label) (turns : List Label)
    (chain : (last :: turns).IsChain (S.Follows id))
    (named : ∀ t ∈ turns, S.who t = some id)
    (present : ∀ t ∈ turns, (S.view (S.before t) id).isSome = true)
    (passes : ∀ t ∈ turns, S.begins t ≤ S.ends t)
    (lasts : ∀ v now later, now ≤ later → promise v now → promise v later)
    (kept : ∀ t ∈ turns, ∀ v v', S.Goes id t v v' → promise v (S.begins t) →
      promise v' (S.ends t))
    (given : ∀ v, S.view (S.after last) id = some v → promise v (S.ends last)) :
    ∀ t ∈ turns, ∃ v, S.view (S.before t) id = some v ∧ promise v (S.begins t) := by
  induction turns generalizing last with
  | nil => exact fun _ member => absurd member List.not_mem_nil
  | cons head tail ih =>
      rw [List.isChain_cons_cons] at chain
      obtain ⟨follows, rest⟩ := chain
      obtain ⟨own, names⟩ := List.forall_mem_cons.mp named
      obtain ⟨seen, presents⟩ := List.forall_mem_cons.mp present
      obtain ⟨onward, onwards⟩ := List.forall_mem_cons.mp passes
      obtain ⟨keeps_now, keeps⟩ := List.forall_mem_cons.mp kept
      obtain ⟨now, seen⟩ := Option.isSome_iff_exists.mp seen
      have into : promise now (S.begins head) := by
        apply lasts now _ _ follows.clock
        apply given
        rw [← follows.view, seen]
      intro t member
      rcases List.mem_cons.mp member with rfl | later
      · exact ⟨now, seen, into⟩
      · apply ih head rest names presents onwards keeps _ t later
        intro v' stands
        exact keeps_now now v' ⟨own, seen, stands, onward⟩ into

namespace Life

variable {id : Id} {turns : List Label}

/-- What a newborn object has, what time does not break and every turn keeps, an object has
going into each of its turns. -/
theorem throughout (promise : View → Nat → Prop) (life : S.Life id turns)
    (lasts : ∀ v now later, now ≤ later → promise v now → promise v later)
    (kept : ∀ t ∈ turns, ∀ v v', S.Goes id t v v' → promise v (S.begins t) →
      promise v' (S.ends t))
    (given : ∀ t ∈ turns.head?, ∀ v, S.view (S.before t) id = some v → S.newborn v →
      promise v (S.begins t)) :
    ∀ t ∈ turns, ∃ v, S.view (S.before t) id = some v ∧ promise v (S.begins t) := by
  cases turns with
  | nil => exact fun _ member => absurd member List.not_mem_nil
  | cons first rest =>
      obtain ⟨own, named⟩ := List.forall_mem_cons.mp life.named
      obtain ⟨seen, present⟩ := List.forall_mem_cons.mp life.present
      obtain ⟨onward, passes⟩ := List.forall_mem_cons.mp life.passes
      obtain ⟨now, seen⟩ := Option.isSome_iff_exists.mp seen
      have into := given first rfl now seen (life.starts first rfl now seen)
      intro t member
      rcases List.mem_cons.mp member with rfl | later
      · exact ⟨now, seen, into⟩
      · obtain ⟨keeps_now, keeps⟩ := List.forall_mem_cons.mp kept
        apply promised id promise first rest life.goesOn named present passes lasts keeps _ t later
        intro v' stands
        exact keeps_now now v' ⟨own, seen, stands, onward⟩ into

theorem since (life : S.Life id turns) :
    ∀ first ∈ turns.head?, ∀ t ∈ turns, S.begins first ≤ S.begins t := by
  intro first head t member
  obtain ⟨-, -, later⟩ := life.throughout (fun _ now => S.begins first ≤ now)
    (fun _ _ _ passes since => since.trans passes) (fun _ _ _ _ goes since => since.trans goes.passes)
    (fun t head' _ _ _ => by
      obtain rfl : first = t := Option.some.inj (head.symm.trans head')
      exact Nat.le_refl _) t member
  exact later

theorem pairwise (relation : Label → Label → Prop) (promise : Label → View → Nat → Prop)
    (life : S.Life id turns)
    (made : ∀ t ∈ turns, ∀ v v', S.Goes id t v v' → promise t v' (S.ends t))
    (lasts : ∀ first v now later, now ≤ later → promise first v now → promise first v later)
    (kept : ∀ first, ∀ t ∈ turns, ∀ v v', S.Goes id t v v' → promise first v (S.begins t) →
      promise first v' (S.ends t))
    (pays : ∀ first, ∀ t ∈ turns, ∀ v, S.who t = some id → S.view (S.before t) id = some v →
      S.begins t ≤ S.ends t → promise first v (S.begins t) → relation first t) :
    turns.Pairwise relation := by
  obtain ⟨named, present, passes, -, chain⟩ := life
  induction turns with
  | nil => exact .nil
  | cons first rest ih =>
      obtain ⟨seen, presents⟩ := List.forall_mem_cons.mp present
      obtain ⟨own, names⟩ := List.forall_mem_cons.mp named
      obtain ⟨onward, onwards⟩ := List.forall_mem_cons.mp passes
      obtain ⟨made_now, makes⟩ := List.forall_mem_cons.mp made
      have keeps (last t : Label) (member : t ∈ rest) := kept last t (List.mem_cons_of_mem _ member)
      have paid (last t : Label) (member : t ∈ rest) := pays last t (List.mem_cons_of_mem _ member)
      rw [List.pairwise_cons]
      refine ⟨fun t member => ?_, ih makes keeps paid names presents onwards chain.tail⟩
      obtain ⟨now, stands⟩ := Option.isSome_iff_exists.mp seen
      have given (v' : View) (leaves : S.view (S.after first) id = some v') :
          promise first v' (S.ends first) := made_now now v' ⟨own, stands, leaves, onward⟩
      obtain ⟨v, goes, into⟩ := promised id (promise first) first rest chain names presents
        onwards (lasts first) (keeps first) given t member
      exact paid first t member v (names t member) goes (onwards t member) into

end Life

end Stage

theorem length_of_spaced (times : List Nat) (gap low high : Nat)
    (spaced : times.Pairwise fun first second => first + gap ≤ second)
    (above : ∀ time ∈ times, low ≤ time) (below : ∀ time ∈ times, time < high) :
    times = [] ∨ low + gap * (times.length - 1) < high := by
  induction times generalizing low with
  | nil => exact .inl rfl
  | cons first rest ih =>
      right
      obtain ⟨later, spaced'⟩ := List.pairwise_cons.mp spaced
      have from_ : low ≤ first := above first List.mem_cons_self
      have until_ : first < high := below first List.mem_cons_self
      cases rest with
      | nil => simpa using Nat.lt_of_le_of_lt from_ until_
      | cons second others =>
          have next := ih (first + gap) spaced' later
            (fun time member => below time (List.mem_cons_of_mem _ member))
          have within := next.resolve_left (List.cons_ne_nil _ _)
          simp only [List.length_cons, Nat.add_sub_cancel, Nat.mul_succ] at within ⊢
          omega

end Lives
