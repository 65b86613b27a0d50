import Mathlib.Algebra.BigOperators.Group.List.Basic
import Mathlib.Algebra.Ring.Int.Defs
import Mathlib.Data.Int.Init
import Mathlib.Data.Int.Order.Basic
import Mathlib.Tactic.Common

/-! Counters that carry over: each level has a threshold of its own, and a position is a level
with what is left towards the next. -/

namespace Thresholds

def spent (required : Int → Int) (level : Int) : Int :=
  ((List.range (level - 1).toNat).map fun k : Nat => required (k + 2)).sum

def total (required : Int → Int) (level rest : Int) : Int := spent required level + rest

def Settled (required : Int → Int) (level rest : Int) : Prop :=
  0 ≤ rest ∧ rest < required (level + 1)

variable (required : Int → Int)

theorem spent_succ (level : Int) (low : 1 ≤ level) :
    spent required (level + 1) = spent required level + required (level + 1) := by
  have count : (level + 1 - 1).toNat = (level - 1).toNat + 1 := by omega
  have last : ((level - 1).toNat : Int) + 2 = level + 1 := by omega
  unfold spent
  rw [count, List.range_succ, List.map_append, List.sum_append, List.map_singleton,
    List.sum_singleton, last]

theorem total_succ (level rest : Int) (low : 1 ≤ level) :
    total required (level + 1) (rest - required (level + 1)) = total required level rest := by
  unfold total
  rw [spent_succ required level low]
  omega

variable (top : Int) (rising : ∀ k, 2 ≤ k → k ≤ top → 0 < required k)
include rising

theorem spent_mono (low high : Int) (first : 1 ≤ low) (le : low ≤ high) (le_top : high ≤ top) :
    spent required low ≤ spent required high := by
  induction high, le using Int.leInduction with
  | base => exact Int.le_refl _
  | succ high le ih =>
      have before := ih (by omega)
      have cost := rising (high + 1) (by omega) le_top
      rw [spent_succ required high (by omega)]
      omega

theorem total_lt (level higher rest : Int) (low : 1 ≤ level) (less : level < higher)
    (le_top : higher ≤ top) (settled : Settled required level rest) :
    total required level rest < spent required higher := by
  calc
    total required level rest < spent required level + required (level + 1) := by
      have := settled.2
      unfold total
      omega
    _ = spent required (level + 1) := (spent_succ required level low).symm
    _ ≤ spent required higher := spent_mono required top rising _ _ (by omega) less le_top

theorem settled_unique (level level' rest rest' : Int) (low : 1 ≤ level) (low' : 1 ≤ level')
    (le_top : level ≤ top) (le_top' : level' ≤ top) (settled : Settled required level rest)
    (settled' : Settled required level' rest')
    (same : total required level rest = total required level' rest') :
    level = level' ∧ rest = rest' := by
  have nonneg := settled.1
  have nonneg' := settled'.1
  have level_eq : level = level' := by
    rcases lt_trichotomy level level' with less | equal | greater
    · have below := total_lt required top rising level level' rest low less le_top' settled
      unfold total at same below
      omega
    · exact equal
    · have below := total_lt required top rising level' level rest' low' greater le_top settled'
      unfold total at same below
      omega
  refine ⟨level_eq, ?_⟩
  unfold total at same
  rw [level_eq] at same
  omega

end Thresholds
