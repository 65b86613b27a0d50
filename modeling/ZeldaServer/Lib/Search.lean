import Mathlib.Logic.Relation
import Mathlib.Logic.Function.Basic
import Mathlib.Data.List.Chain
import Mathlib.Data.List.Nodup
import Mathlib.Tactic.Common

/-! Searches of a graph from a source, in any order. Each node that is found has a parent among
the nodes that were expanded before it, and may get another one until it is expanded itself. -/

namespace GraphSearch

variable {Node : Type}

inductive Trail (parent : Node → Option Node) (source : Node) : List Node → Node → Prop where
  | source (root : parent source = some source) : Trail parent source [source] source
  | next (cells : List Node) (before after : Node) (trail : Trail parent source cells before)
      (link : parent after = some before) (fresh : after ∉ cells) :
      Trail parent source (cells ++ [after]) after

/-- The parents of the nodes found so far, with the nodes expanded so far, the last one first. -/
structure Tree (step : Node → Node → Prop) (source : Node) (parent : Node → Option Node)
    (closed : List Node) : Prop where
  root : parent source = some source
  link : ∀ a p, parent a = some p → a ≠ source → p ∈ closed ∧ step p a
  found : ∀ a ∈ closed, (parent a).isSome
  older : ∀ front a back p, closed = front ++ a :: back → parent a = some p → a ≠ source →
    p ∈ back
  distinct : closed.Nodup
  begun : closed = [] ∨ source ∈ closed

def Sealed (step : Node → Node → Prop) (parent : Node → Option Node) (a : Node) : Prop :=
  ∀ b, step a b → (parent b).isSome

variable {step : Node → Node → Prop} {source : Node} {parent : Node → Option Node}
  {closed cells : List Node} {a b : Node}

namespace Trail

theorem mem_last (trail : Trail parent source cells a) : a ∈ cells := by
  cases trail with
  | source => exact List.mem_singleton_self _
  | next => exact List.mem_append_right _ (List.mem_singleton_self _)

theorem head (trail : Trail parent source cells a) : cells.head? = some source := by
  induction trail with
  | source => rfl
  | next cells before after trail _ _ ih =>
      rw [List.head?_append, ih]
      rfl

theorem last (trail : Trail parent source cells a) : cells.getLast? = some a := by
  cases trail with
  | source => rfl
  | next => exact List.getLast?_concat

theorem distinct (trail : Trail parent source cells a) : cells.Nodup := by
  induction trail with
  | source => exact List.nodup_singleton _
  | next cells before after _ _ fresh ih =>
      exact List.nodup_append.mpr ⟨ih, List.nodup_singleton _, by
        intro c member d last same
        rw [List.mem_singleton.mp last] at same
        exact fresh (same ▸ member)⟩

theorem found (trail : Trail parent source cells a) : ∀ c ∈ cells, (parent c).isSome := by
  induction trail with
  | source root =>
      intro c member
      rw [List.mem_singleton.mp member, root]
      rfl
  | next cells before after _ link _ ih =>
      intro c member
      rcases List.mem_append.mp member with earlier | last
      · exact ih c earlier
      · rw [List.mem_singleton.mp last, link]
        rfl

end Trail

namespace Tree

theorem chain (tree : Tree step source parent closed) (trail : Trail parent source cells a) :
    cells.IsChain step := by
  induction trail with
  | source => exact List.isChain_singleton _
  | next cells before after trail link fresh ih =>
      have other : after ≠ source := by
        rintro rfl
        exact fresh (List.mem_of_mem_head? trail.head)
      apply ih.append (List.isChain_singleton _)
      intro last isLast first isFirst
      rw [trail.last] at isLast
      cases isLast
      cases isFirst
      exact (tree.link after before link other).2

theorem reached (tree : Tree step source parent closed) (trail : Trail parent source cells a) :
    Relation.ReflTransGen step source a := by
  induction trail with
  | source => exact .refl
  | next cells before after trail link fresh ih =>
      have other : after ≠ source := by
        rintro rfl
        exact fresh (List.mem_of_mem_head? trail.head)
      exact ih.tail (tree.link after before link other).2

/-- The parents of an expanded node were expanded before it: by induction on the nodes expanded,
the oldest ones first. -/
theorem trail_closed (tree : Tree step source parent closed) (front back : List Node)
    (split : closed = front ++ back) (member : a ∈ back) :
    ∃ cells, Trail parent source cells a ∧ cells ⊆ back := by
  induction back generalizing front a with
  | nil => cases member
  | cons b back ih =>
      have split' : closed = (front ++ [b]) ++ back := by simpa using split
      rcases List.mem_cons.mp member with rfl | later
      · by_cases same : a = source
        · subst same
          exact ⟨[a], .source tree.root, by simp⟩
        · obtain ⟨p, link⟩ := Option.isSome_iff_exists.mp (tree.found a (by simp [split]))
          have earlier := tree.older front a back p split link same
          obtain ⟨cells, trail, inside⟩ := ih (front ++ [a]) split' earlier
          have fresh : a ∉ back := by
            have distinct := tree.distinct
            rw [split] at distinct
            exact (List.nodup_cons.mp (List.nodup_append.mp distinct).2.1).1
          refine ⟨cells ++ [a], .next cells p a trail link fun again => fresh (inside again), ?_⟩
          intro c listed
          rcases List.mem_append.mp listed with old | new
          · exact List.mem_cons_of_mem a (inside old)
          · exact List.mem_singleton.mp new ▸ List.mem_cons_self
      · obtain ⟨cells, trail, inside⟩ := ih (front ++ [b]) split' later
        exact ⟨cells, trail, fun c listed => List.mem_cons_of_mem b (inside listed)⟩

theorem trail (tree : Tree step source parent closed) (found : (parent a).isSome) :
    ∃ cells, Trail parent source cells a := by
  by_cases expanded : a ∈ closed
  · obtain ⟨cells, trail, -⟩ := tree.trail_closed [] closed rfl expanded
    exact ⟨cells, trail⟩
  · by_cases same : a = source
    · subst same
      exact ⟨[a], .source tree.root⟩
    · obtain ⟨p, link⟩ := Option.isSome_iff_exists.mp found
      obtain ⟨cells, trail, inside⟩ :=
        tree.trail_closed [] closed rfl (tree.link a p link same).1
      exact ⟨cells ++ [a], .next cells p a trail link fun again => expanded (inside again)⟩

theorem sound (tree : Tree step source parent closed) (found : (parent a).isSome) :
    Relation.ReflTransGen step source a := by
  obtain ⟨cells, trail⟩ := tree.trail found
  exact tree.reached trail

theorem complete (tree : Tree step source parent closed)
    (exhausted : ∀ a, (parent a).isSome → Sealed step parent a)
    (reached : Relation.ReflTransGen step source a) : (parent a).isSome := by
  induction reached with
  | refl =>
      rw [tree.root]
      rfl
  | tail _ moved ih => exact exhausted _ ih _ moved

theorem start (root : parent source = some source)
    (others : ∀ a, a ≠ source → parent a = none) : Tree step source parent [] where
  root := root
  link := by
    intro a p link other
    rw [others a other] at link
    cases link
  found := fun _ member => nomatch member
  older := by
    intro front a back p split
    simp at split
  distinct := List.nodup_nil
  begun := .inl rfl

theorem close (tree : Tree step source parent closed) (found : (parent a).isSome)
    (fresh : a ∉ closed) : Tree step source parent (a :: closed) where
  root := tree.root
  link := by
    intro b p link other
    obtain ⟨member, moved⟩ := tree.link b p link other
    exact ⟨List.mem_cons_of_mem a member, moved⟩
  found := by
    intro b member
    rcases List.mem_cons.mp member with rfl | earlier
    · exact found
    · exact tree.found b earlier
  older := by
    intro front b back p split link other
    rcases List.cons_eq_append_iff.mp split with ⟨-, same⟩ | ⟨rest, -, split⟩
    · obtain ⟨-, rest⟩ := List.cons.inj same
      exact rest ▸ (tree.link b p link other).1
    · exact tree.older rest b back p split link other
  distinct := List.nodup_cons.mpr ⟨fresh, tree.distinct⟩
  begun := by
    rcases tree.begun with none | begun
    · by_cases same : a = source
      · exact .inr (same ▸ List.mem_cons_self)
      · obtain ⟨p, link⟩ := Option.isSome_iff_exists.mp found
        have member := (tree.link a p link same).1
        rw [none] at member
        cases member
    · exact .inr (List.mem_cons_of_mem a begun)

theorem adopt [DecidableEq Node] (tree : Tree step source parent closed) (expanded : a ∈ closed)
    (moved : step a b) (open_ : b ∉ closed) :
    Tree step source (Function.update parent b (some a)) closed := by
  have begun : source ∈ closed :=
    tree.begun.resolve_left (List.ne_nil_of_mem expanded)
  have source_ne : source ≠ b := by
    rintro rfl
    exact open_ begun
  exact {
    root := by rw [Function.update_of_ne source_ne, tree.root]
    link := by
      intro c p link other
      by_cases same : c = b
      · subst same
        rw [Function.update_self] at link
        cases link
        exact ⟨expanded, moved⟩
      · rw [Function.update_of_ne same] at link
        exact tree.link c p link other
    found := by
      intro c member
      by_cases same : c = b
      · subst same
        rw [Function.update_self]
        rfl
      · rw [Function.update_of_ne same]
        exact tree.found c member
    older := by
      intro front c back p split link other
      have same : c ≠ b := by
        rintro rfl
        exact open_ (by simp [split])
      rw [Function.update_of_ne same] at link
      exact tree.older front c back p split link other
    distinct := tree.distinct
    begun := tree.begun }

end Tree

end GraphSearch
