import Mathlib.Data.List.Sublists
import Mathlib.Logic.Function.Basic

/-! A server that visits rooms in rounds, and a client whose numbered letters wait in several
of them. If any two rooms are always visited in the same order, and the client changes its
room only while the new room is being served, no letter overtakes another one. -/

namespace Rounds

variable {Room : Type}

structure Tour (Room : Type) where
  round : List Room
  past : List (List Room)
  deriving DecidableEq

namespace Tour

def start : Tour Room := ⟨[], []⟩

def rounds (tour : Tour Room) : List (List Room) := tour.round :: tour.past

def visit (tour : Tour Room) (r : Room) : Tour Room := { tour with round := tour.round ++ [r] }

def finish (tour : Tour Room) : Tour Room := ⟨[], tour.rounds⟩

def Visited (tour : Tour Room) (r : Room) : Prop := ∃ round ∈ tour.rounds, r ∈ round

/-- Some round visits `a`, and `b` after it. -/
def Before (tour : Tour Room) (a b : Room) : Prop := ∃ round ∈ tour.rounds, [a, b].Sublist round

def Stable (tour : Tour Room) : Prop :=
  ∀ round ∈ tour.rounds, ∀ round' ∈ tour.rounds, ∀ a ∈ round, ∀ b ∈ round, a ≠ b →
    [a, b].Sublist round → ¬ [b, a].Sublist round'

instance [DecidableEq Room] (tour : Tour Room) : Decidable tour.Stable :=
  inferInstanceAs (Decidable (∀ round ∈ tour.rounds, ∀ round' ∈ tour.rounds, ∀ a ∈ round,
    ∀ b ∈ round, a ≠ b → [a, b].Sublist round → ¬ [b, a].Sublist round'))

theorem not_before {tour : Tour Room} (stable : tour.Stable) (a b : Room) (apart : a ≠ b)
    (first : tour.Before a b) : ¬ tour.Before b a := by
  rintro ⟨round', member', other⟩
  obtain ⟨round, member, order⟩ := first
  have front : a ∈ round := order.subset (by simp)
  have back : b ∈ round := order.subset (by simp)
  exact stable round member round' member' a front b back apart order other

theorem visited_visit (tour : Tour Room) (r r' : Room) :
    (tour.visit r).Visited r' ↔ tour.Visited r' ∨ r' = r := by
  simp only [Visited, rounds, visit, List.mem_cons, exists_eq_or_imp, List.mem_append,
    List.not_mem_nil, or_false]
  constructor
  · rintro ((seen | same) | past)
    · exact .inl (.inl seen)
    · exact .inr same
    · exact .inl (.inr past)
  · rintro ((seen | past) | same)
    · exact .inl (.inl seen)
    · exact .inr past
    · exact .inl (.inr same)

theorem visited_finish (tour : Tour Room) (r : Room) : tour.finish.Visited r ↔ tour.Visited r := by
  simp [Visited, rounds, finish]

theorem before_visit (tour : Tour Room) (a b r : Room) (first : tour.Before a b) :
    (tour.visit r).Before a b := by
  obtain ⟨round, member, order⟩ := first
  rcases List.mem_cons.mp member with rfl | past
  · exact ⟨tour.round ++ [r], List.mem_cons_self, order.trans (List.sublist_append_left _ _)⟩
  · exact ⟨round, List.mem_cons_of_mem _ past, order⟩

theorem before_visit_new (tour : Tour Room) (a r : Room) (seen : a ∈ tour.round) :
    (tour.visit r).Before a r := by
  refine ⟨tour.round ++ [r], List.mem_cons_self, ?_⟩
  exact (List.singleton_sublist.mpr seen).append (List.Sublist.refl [r])

theorem before_finish (tour : Tour Room) (a b : Room) :
    tour.finish.Before a b ↔ tour.Before a b := by
  simp [Before, rounds, finish]

theorem stable_of_before {tour later : Tour Room} (stable : later.Stable)
    (kept : ∀ a b, tour.Before a b → later.Before a b) : tour.Stable := by
  intro round member round' member' a _ b _ apart order other
  exact not_before stable a b apart (kept a b ⟨round, member, order⟩)
    (kept b a ⟨round', member', other⟩)

/-- The next visit of `a` comes before the next one of `b`, if `a` is visited again. -/
def Due (tour : Tour Room) (a b : Room) : Prop :=
  (a ∉ tour.round ∧ b ∈ tour.round) ∨ (tour.Before a b ∧ (a ∈ tour.round → b ∈ tour.round))

/-- This round has missed the room: it went past it in the order of an earlier one. -/
def Overdue (tour : Tour Room) (r : Room) : Prop :=
  r ∉ tour.round ∧ ∃ x ∈ tour.round, tour.Before r x

def Barred (tour : Tour Room) (closed : Room → Prop) (r : Room) : Prop :=
  closed r ∨ tour.Overdue r

theorem not_barred_of_visit {tour : Tour Room} {closed : Room → Prop} (r : Room)
    (stable : (tour.visit r).Stable) (unseen : r ∉ tour.round) (opened : ¬ closed r) :
    ¬ tour.Barred closed r := by
  rintro (shut | ⟨-, x, seen, order⟩)
  · exact opened shut
  · have apart : r ≠ x := fun same => unseen (same ▸ seen)
    exact not_before stable r x apart (before_visit tour r x r order) (before_visit_new tour x r seen)

theorem barred_visit {tour : Tour Room} {closed : Room → Prop} (r a : Room) (apart : a ≠ r)
    (barred : tour.Barred closed a) : (tour.visit r).Barred closed a := by
  rcases barred with shut | ⟨unseen, x, seen, order⟩
  · exact .inl shut
  · refine .inr ⟨?_, x, List.mem_append_left _ seen, before_visit tour a x r order⟩
    simp [visit, unseen, apart]

theorem due_visit {tour : Tour Room} (r a b : Room) (apart : a ≠ r) (due : tour.Due a b) :
    (tour.visit r).Due a b := by
  simp only [Due, visit, List.mem_append, List.mem_singleton]
  rcases due with ⟨unseen, seen⟩ | ⟨order, after⟩
  · exact .inl ⟨by simp [unseen, apart], .inl seen⟩
  · refine .inr ⟨before_visit tour a b r order, ?_⟩
    rintro (seen | same)
    · exact .inl (after seen)
    · exact absurd same apart

theorem overdue_of_due {tour : Tour Room} (r a : Room) (apart : a ≠ r) (unseen : r ∉ tour.round)
    (due : tour.Due a r) : (tour.visit r).Overdue a := by
  rcases due with ⟨-, seen⟩ | ⟨order, after⟩
  · exact absurd seen unseen
  · have missed : a ∉ tour.round := fun seen => unseen (after seen)
    refine ⟨?_, r, ?_, before_visit tour a r r order⟩
    · simp [visit, missed, apart]
    · simp [visit]

theorem due_last {tour : Tour Room} (before : List Room) (r a : Room) (apart : a ≠ r)
    (last : tour.round = before ++ [r]) : tour.Due a r := by
  have seen : r ∈ tour.round := by simp [last]
  by_cases first : a ∈ tour.round
  · have front : a ∈ before := by simpa [last, apart] using first
    refine .inr ⟨⟨tour.round, List.mem_cons_self, ?_⟩, fun _ => seen⟩
    rw [last]
    exact (List.singleton_sublist.mpr front).append (List.Sublist.refl [r])
  · exact .inl ⟨first, seen⟩

end Tour

/-- The room the client's letters go to, the letters that wait in the rooms, those of a
visit under way, and those that were served. -/
@[ext]
structure Mail (Room : Type) where
  home : Option Room
  waits : Room → List Nat
  runs : Room → List Nat
  ran : List Nat

namespace Mail

def post [DecidableEq Room] (mail : Mail Room) (r : Room) (n : Nat) : Mail Room :=
  { mail with waits := Function.update mail.waits r (mail.waits r ++ [n]) }

def collect [DecidableEq Room] (mail : Mail Room) (r : Room) : Mail Room :=
  { mail with
    runs := Function.update mail.runs r (mail.runs r ++ mail.waits r)
    waits := Function.update mail.waits r [] }

def serve [DecidableEq Room] (mail : Mail Room) (r : Room) (n : Nat) (rest : List Nat) :
    Mail Room :=
  { mail with runs := Function.update mail.runs r rest, ran := mail.ran ++ [n] }

def move (mail : Mail Room) (r : Room) : Mail Room := { mail with home := some r }

structure Below (mail : Mail Room) (n : Nat) : Prop where
  waits : ∀ r, ∀ m ∈ mail.waits r, m < n
  runs : ∀ r, ∀ m ∈ mail.runs r, m < n
  ran : ∀ m ∈ mail.ran, m < n

/-- A letter that waits while a later one is ahead of it waits in a room that is not
visited any more, or that is visited before the other letter's room. -/
structure InOrder (tour : Tour Room) (closed : Room → Prop) (mail : Mail Room) : Prop where
  waiting : ∀ r, (mail.waits r).Pairwise (· < ·)
  running : ∀ r, (mail.runs r).Pairwise (· < ·)
  served : mail.ran.Pairwise (· < ·)
  homeward : ∀ r home, mail.home = some home → r ≠ home → mail.waits r ≠ [] →
    tour.Barred closed r ∨ tour.Due r home
  across : ∀ r r' m n, m ∈ mail.waits r → n ∈ mail.waits r' → m ≤ n → r ≠ r' →
    tour.Barred closed r ∨ tour.Due r r'
  behind : ∀ r r' m n, m ∈ mail.waits r → n ∈ mail.runs r' → m ≤ n → tour.Barred closed r
  missed : ∀ r m n, m ∈ mail.waits r → n ∈ mail.ran → m ≤ n → tour.Barred closed r
  ahead : ∀ r m n, n ∈ mail.ran → m ∈ mail.runs r → n < m

namespace InOrder

variable {tour : Tour Room} {closed : Room → Prop} {mail : Mail Room}

theorem of_empty (waits : ∀ r, mail.waits r = []) (runs : ∀ r, mail.runs r = [])
    (ran : mail.ran = []) : mail.InOrder tour closed := by
  constructor
  all_goals simp [waits, runs, ran]

theorem mono {closed' : Room → Prop} (ordered : mail.InOrder tour closed)
    (shut : ∀ r, closed r → closed' r) : mail.InOrder tour closed' := by
  have barred (r : Room) (known : tour.Barred closed r) : tour.Barred closed' r :=
    known.imp_left (shut r)
  constructor
  · exact ordered.waiting
  · exact ordered.running
  · exact ordered.served
  · intro a home there apart left
    exact (ordered.homeward a home there apart left).imp_left (barred a)
  · intro a b m n first second less apart
    exact (ordered.across a b m n first second less apart).imp_left (barred a)
  · intro a b m n first second less
    exact barred a (ordered.behind a b m n first second less)
  · intro a m n first second less
    exact barred a (ordered.missed a m n first second less)
  · exact ordered.ahead

theorem post [DecidableEq Room] (ordered : mail.InOrder tour closed) (r : Room) (n : Nat)
    (home : mail.home = some r) (latest : mail.Below n) : (mail.post r n).InOrder tour closed := by
  have waits (r' : Room) (m : Nat) (member : m ∈ (mail.post r n).waits r') :
      m ∈ mail.waits r' ∨ (r' = r ∧ m = n) := by
    simp only [Mail.post, Function.update_apply] at member
    split at member
    case isTrue same =>
      rcases List.mem_append.mp member with before | new
      · exact .inl (same ▸ before)
      · exact .inr ⟨same, List.mem_singleton.mp new⟩
    case isFalse => exact .inl member
  constructor
  · intro r'
    simp only [Mail.post, Function.update_apply]
    split
    · apply List.pairwise_append.mpr
      refine ⟨ordered.waiting r, List.pairwise_singleton _ _, ?_⟩
      intro m before m' new
      rw [List.mem_singleton.mp new]
      exact latest.waits r m before
    · exact ordered.waiting r'
  · exact ordered.running
  · exact ordered.served
  · intro r' home' there apart left
    have same : home' = r := Option.some.inj (there.symm.trans home)
    apply ordered.homeward r' home' there apart
    simpa only [Mail.post, Function.update_of_ne (same ▸ apart)] using left
  · intro a b m m' first second less apart
    rcases waits a m first with before | ⟨rfl, rfl⟩
    · rcases waits b m' second with before' | ⟨rfl, rfl⟩
      · exact ordered.across a b m m' before before' less apart
      · exact ordered.homeward a b home apart (List.ne_nil_of_mem before)
    · rcases waits b m' second with before' | ⟨same, -⟩
      · exact absurd less (Nat.not_le.mpr (latest.waits b m' before'))
      · exact absurd same.symm apart
  · intro a b m m' first second less
    rcases waits a m first with before | ⟨rfl, rfl⟩
    · exact ordered.behind a b m m' before second less
    · exact absurd less (Nat.not_le.mpr (latest.runs b m' second))
  · intro a m m' first second less
    rcases waits a m first with before | ⟨rfl, rfl⟩
    · exact ordered.missed a m m' before second less
    · exact absurd less (Nat.not_le.mpr (latest.ran m' second))
  · exact ordered.ahead

theorem collect [DecidableEq Room] (ordered : mail.InOrder tour closed) (r : Room)
    (unseen : r ∉ tour.round) (opened : ¬ closed r) (idle : ∀ r', mail.runs r' = [])
    (stable : (tour.visit r).Stable) :
    (mail.collect r).InOrder (tour.visit r) closed := by
  have free := Tour.not_barred_of_visit r stable unseen opened
  have waits (r' : Room) (m : Nat) (member : m ∈ (mail.collect r).waits r') :
      r' ≠ r ∧ m ∈ mail.waits r' := by
    simp only [Mail.collect, Function.update_apply] at member
    split at member
    · cases member
    case isFalse apart => exact ⟨apart, member⟩
  have runs (r' : Room) (m : Nat) (member : m ∈ (mail.collect r).runs r') : m ∈ mail.waits r := by
    simp only [Mail.collect, Function.update_apply, idle, List.nil_append] at member
    split at member
    · exact member
    · cases member
  have later (a b : Room) (apart : a ≠ r) (known : tour.Barred closed a ∨ tour.Due a b) :
      (tour.visit r).Barred closed a ∨ (tour.visit r).Due a b :=
    known.imp (Tour.barred_visit r a apart) (Tour.due_visit r a b apart)
  constructor
  · intro r'
    simp only [Mail.collect, Function.update_apply]
    split
    · exact List.Pairwise.nil
    · exact ordered.waiting r'
  · intro r'
    simp only [Mail.collect, Function.update_apply, idle, List.nil_append]
    split
    · exact ordered.waiting r
    · exact List.Pairwise.nil
  · exact ordered.served
  · intro a home there apart left
    obtain ⟨m, member⟩ := List.exists_mem_of_ne_nil _ left
    obtain ⟨away, before⟩ := waits a m member
    exact later a home away (ordered.homeward a home there apart (List.ne_nil_of_mem before))
  · intro a b m n first second less apart
    obtain ⟨away, before⟩ := waits a m first
    exact later a b away (ordered.across a b m n before (waits b n second).2 less apart)
  · intro a b m n first second less
    obtain ⟨away, before⟩ := waits a m first
    rcases ordered.across a r m n before (runs b n second) less away with barred | due
    · exact Tour.barred_visit r a away barred
    · exact .inr (Tour.overdue_of_due r a away unseen due)
  · intro a m n first second less
    obtain ⟨away, before⟩ := waits a m first
    exact Tour.barred_visit r a away (ordered.missed a m n before second less)
  · intro b m n second first
    by_contra more
    exact free (ordered.missed r m n (runs b m first) second (Nat.not_lt.mp more))

theorem serve [DecidableEq Room] (ordered : mail.InOrder tour closed) (r : Room) (n : Nat)
    (rest : List Nat) (front : mail.runs r = n :: rest) (alone : ∀ r', r' ≠ r → mail.runs r' = []) :
    (mail.serve r n rest).InOrder tour closed := by
  have sorted := List.pairwise_cons.mp (front ▸ ordered.running r)
  have runs (r' : Room) (m : Nat) (member : m ∈ (mail.serve r n rest).runs r') :
      r' = r ∧ m ∈ rest := by
    simp only [Mail.serve, Function.update_apply] at member
    split at member
    case isTrue same => exact ⟨same, member⟩
    case isFalse apart =>
      rw [alone r' apart] at member
      cases member
  have kept (r' : Room) (m : Nat) (member : m ∈ (mail.serve r n rest).runs r') :
      m ∈ mail.runs r' := by
    obtain ⟨rfl, later⟩ := runs r' m member
    rw [front]
    exact List.mem_cons_of_mem n later
  constructor
  · exact ordered.waiting
  · intro r'
    simp only [Mail.serve, Function.update_apply]
    split
    · exact sorted.2
    · exact ordered.running r'
  · apply List.pairwise_append.mpr
    refine ⟨ordered.served, List.pairwise_singleton _ _, ?_⟩
    intro m before m' new
    rw [List.mem_singleton.mp new]
    apply ordered.ahead r n m before
    simp [front]
  · exact ordered.homeward
  · exact ordered.across
  · intro a b m m' first second less
    exact ordered.behind a b m m' first (kept b m' second) less
  · intro a m m' first second less
    rcases List.mem_append.mp second with before | new
    · exact ordered.missed a m m' first before less
    · apply ordered.behind a r m m' first _ less
      rw [List.mem_singleton.mp new, front]
      exact List.mem_cons_self
  · intro b m m' second first
    obtain ⟨rfl, later⟩ := runs b m first
    rcases List.mem_append.mp second with before | new
    · exact ordered.ahead b m m' before (kept b m first)
    · rw [List.mem_singleton.mp new]
      exact sorted.1 m later

theorem move (ordered : mail.InOrder tour closed) (before : List Room) (r : Room)
    (last : tour.round = before ++ [r]) : (mail.move r).InOrder tour closed where
  waiting := ordered.waiting
  running := ordered.running
  served := ordered.served
  homeward := by
    intro a home there apart _
    cases there
    exact .inr (Tour.due_last before r a apart last)
  across := ordered.across
  behind := ordered.behind
  missed := ordered.missed
  ahead := ordered.ahead

theorem finish {closed' : Room → Prop} (ordered : mail.InOrder tour closed)
    (shut : ∀ r, closed r → closed' r)
    (complete : ∀ r, mail.waits r ≠ [] → ¬ closed' r → r ∈ tour.round) :
    mail.InOrder tour.finish closed' := by
  have barred (a : Room) (left : mail.waits a ≠ []) (known : tour.Barred closed a) :
      tour.finish.Barred closed' a := by
    rcases known with before | ⟨unseen, -⟩
    · exact .inl (shut a before)
    · exact .inl (by_contra fun opened => unseen (complete a left opened))
  have due (a b : Room) (left : mail.waits a ≠ [])
      (known : tour.Barred closed a ∨ tour.Due a b) :
      tour.finish.Barred closed' a ∨ tour.finish.Due a b := by
    rcases known with before | ⟨unseen, -⟩ | ⟨order, -⟩
    · exact .inl (barred a left before)
    · exact .inl (.inl (by_contra fun opened => unseen (complete a left opened)))
    · exact .inr (.inr ⟨(Tour.before_finish tour a b).mpr order, fun seen => by cases seen⟩)
  constructor
  · exact ordered.waiting
  · exact ordered.running
  · exact ordered.served
  · intro a home there apart left
    exact due a home left (ordered.homeward a home there apart left)
  · intro a b m n first second less apart
    exact due a b (List.ne_nil_of_mem first) (ordered.across a b m n first second less apart)
  · intro a b m n first second less
    exact barred a (List.ne_nil_of_mem first) (ordered.behind a b m n first second less)
  · intro a m n first second less
    exact barred a (List.ne_nil_of_mem first) (ordered.missed a m n first second less)
  · exact ordered.ahead

end InOrder

end Mail

end Rounds
