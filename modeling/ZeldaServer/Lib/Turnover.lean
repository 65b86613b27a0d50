import Mathlib.Algebra.BigOperators.Fin
import Mathlib.Algebra.BigOperators.Pi
import Mathlib.Data.Fintype.BigOperators
import Mathlib.Data.List.Basic
import Mathlib.Data.Multiset.Basic
import Mathlib.Tactic.Abel

/-! What is conserved while things change places: the stock of finitely many places, and a
population that renews itself, whose items leave it for a queue of requests, and whose requests
that are due come back as items. -/

namespace Stock

variable {Place Item Amount : Type} [Fintype Place] [AddCommGroup Amount]

def total (amount : Item → Amount) (held : Place → Item) : Amount := ∑ place, amount (held place)

variable (amount : Item → Amount) (held : Place → Item)

theorem total_moved (moved : Equiv.Perm Place) : total amount (held ∘ moved) = total amount held :=
  Equiv.sum_comp moved fun place => amount (held place)

theorem total_put [DecidableEq Place] (place : Place) (item : Item) :
    total amount (Function.update held place item) + amount (held place) =
      total amount held + amount item := by
  have put : (fun other => amount (Function.update held place item other)) =
      Function.update (fun other => amount (held other)) place (amount item) := by
    funext other
    by_cases same : other = place
    · subst same
      simp
    · simp [same]
  have kept := Finset.add_sum_erase Finset.univ (fun other => amount (held other))
    (Finset.mem_univ place)
  unfold total
  rw [put, Finset.sum_update_of_mem (Finset.mem_univ place), ← kept,
    Finset.sdiff_singleton_eq_erase]
  abel

end Stock

namespace Turnover

variable {Item Request Tag Kind : Type}

/-- Items leave, and each of them leaves one request at the end of the queue. What stays may
change, but not its tag. -/
structure Leave (tag : Item → Tag) (request : Item → Request) (live live' : List Item)
    (queue queue' : List Request) (removed : List Item) : Prop where
  items : (live.map tag).Perm (removed.map tag ++ live'.map tag)
  requests : queue' = queue ++ removed.map request

namespace Leave

variable {tag : Item → Tag} {request : Item → Request}

theorem refl (live : List Item) (queue : List Request) :
    Leave tag request live live queue queue [] := ⟨.refl _, (List.append_nil queue).symm⟩

theorem of_tags {live live' : List Item} (queue : List Request)
    (tags : live'.map tag = live.map tag) : Leave tag request live live' queue queue [] :=
  ⟨by rw [tags]; exact .refl _, (List.append_nil queue).symm⟩

theorem trans {live middle live' : List Item} {queue between queue' : List Request}
    {first second : List Item} (before : Leave tag request live middle queue between first)
    (after : Leave tag request middle live' between queue' second) :
    Leave tag request live live' queue queue' (first ++ second) where
  items := by
    rw [List.map_append, List.append_assoc]
    exact before.items.trans (after.items.append_left _)
  requests := by
    rw [after.requests, before.requests, List.append_assoc, List.map_append]

end Leave

/-- Items leave, then the requests that are due, of those items included, become one item
each, of the kind that was asked for; the other requests go on waiting. -/
structure Renewal (tag : Item → Tag) (kind : Item → Kind) (request : Item → Request)
    (asks : Request → Kind) (due : Request → Bool) (live live' : List Item)
    (queue queue' : List Request) (removed kept born : List Item) : Prop where
  left : (live.map tag).Perm ((removed ++ kept).map tag)
  stayed : live'.map tag = (kept ++ born).map tag
  came : born.map kind = ((queue ++ removed.map request).filter due).map asks
  waits : queue' = (queue ++ removed.map request).filter fun asked => !due asked

theorem filter_partition {Entry : Type} (due : Entry → Bool) (entries : List Entry) :
    (entries.filter due ++ entries.filter fun entry => !due entry).Perm entries := by
  induction entries with
  | nil => exact .refl _
  | cons head tail ih =>
      cases is_due : due head with
      | true =>
          simp only [List.filter_cons_of_pos is_due, List.filter_cons, is_due, Bool.not_true,
            Bool.false_eq_true, if_false]
          exact ih.cons head
      | false =>
          simp only [List.filter_cons, is_due, Bool.false_eq_true, if_false, Bool.not_false,
            if_true]
          exact List.perm_middle.trans (ih.cons head)

namespace Renewal

variable {tag : Item → Tag} {kind : Item → Kind} {request : Item → Request}
  {asks : Request → Kind} {due : Request → Bool}

theorem of_leave {live live' : List Item} {queue queue' : List Request} {removed : List Item}
    (left : Leave tag request live live' queue queue' removed)
    (none_due : ∀ asked ∈ queue', due asked = false) :
    Renewal tag kind request asks due live live' queue queue' removed live' [] where
  left := by
    rw [List.map_append]
    exact left.items
  stayed := by rw [List.append_nil]
  came := by
    rw [← left.requests, List.filter_eq_nil_iff.mpr]
    · rfl
    · intro asked member
      rw [none_due asked member]
      exact Bool.false_ne_true
  waits := by
    rw [← left.requests]
    apply Eq.symm
    apply List.filter_eq_self.mpr
    intro asked member
    rw [none_due asked member]
    rfl

theorem population {live live' : List Item} {queue queue' : List Request}
    {removed kept born : List Item} (ofTag : Tag → Kind)
    (renewal : Renewal tag kind request asks due live live' queue queue' removed kept born)
    (tagged : ∀ item, ofTag (tag item) = kind item)
    (asked : ∀ item, asks (request item) = kind item) :
    (live'.map kind ++ queue'.map asks).Perm (live.map kind ++ queue.map asks) := by
  have kinds (items : List Item) : items.map kind = (items.map tag).map ofTag := by
    rw [List.map_map]
    exact List.map_congr_left fun item _ => (tagged item).symm
  have left : (live.map kind).Perm (removed.map kind ++ kept.map kind) := by
    rw [kinds live, ← List.map_append, kinds (removed ++ kept)]
    exact renewal.left.map ofTag
  have stayed : live'.map kind = kept.map kind ++ born.map kind := by
    rw [kinds live', renewal.stayed, ← kinds, List.map_append]
  have requests : (removed.map request).map asks = removed.map kind := by
    rw [List.map_map]
    exact List.map_congr_left fun item _ => asked item
  have queued := (filter_partition due (queue ++ removed.map request)).map asks
  rw [List.map_append, List.map_append, requests, ← renewal.came, ← renewal.waits] at queued
  calc live'.map kind ++ queue'.map asks
      = kept.map kind ++ (born.map kind ++ queue'.map asks) := by
        rw [stayed, List.append_assoc]
    List.Perm _ (kept.map kind ++ (queue.map asks ++ removed.map kind)) := queued.append_left _
    List.Perm _ ((removed.map kind ++ kept.map kind) ++ queue.map asks) := by
        rw [List.append_assoc]
        refine List.perm_append_comm.trans ?_
        rw [List.append_assoc]
        refine List.perm_append_comm.trans ?_
        rw [List.append_assoc]
    List.Perm _ (live.map kind ++ queue.map asks) := left.symm.append_right _

end Renewal

end Turnover
