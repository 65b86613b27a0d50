import Mathlib.Algebra.Order.Ring.Nat
import Mathlib.Tactic.Common

/-! Natural numbers with a bounded number of binary digits, as in a floating point format:
rounding to nearest, ties to even. -/

namespace Rounding

/-- The multiple of `unit` nearest to the value, the even one of two. -/
def roundTo (unit value : Nat) : Nat :=
  let rest := value % unit
  if 2 * rest < unit ∨ 2 * rest = unit ∧ value / unit % 2 = 0 then value / unit * unit
  else (value / unit + 1) * unit

def keepBits (bits value : Nat) : Nat := roundTo (2 ^ (value.log2 - bits)) value

theorem le_roundTo (unit value : Nat) : value / unit * unit ≤ roundTo unit value := by
  unfold roundTo
  dsimp only
  split
  · exact Nat.le_refl _
  · exact Nat.mul_le_mul_right unit (Nat.le_succ _)

theorem roundTo_le (unit value : Nat) : roundTo unit value ≤ (value / unit + 1) * unit := by
  unfold roundTo
  dsimp only
  split
  · exact Nat.mul_le_mul_right unit (Nat.le_succ _)
  · exact Nat.le_refl _

theorem roundTo_mono (unit low high : Nat) (le : low ≤ high) :
    roundTo unit low ≤ roundTo unit high := by
  have quotients : low / unit ≤ high / unit := Nat.div_le_div_right le
  rcases Nat.lt_or_eq_of_le quotients with less | same
  · calc
      roundTo unit low ≤ (low / unit + 1) * unit := roundTo_le unit low
      _ ≤ high / unit * unit := Nat.mul_le_mul_right unit less
      _ ≤ roundTo unit high := le_roundTo unit high
  · have low_rest := Nat.div_add_mod low unit
    have high_rest := Nat.div_add_mod high unit
    rw [same] at low_rest
    have rests : low % unit ≤ high % unit := by omega
    unfold roundTo
    dsimp only
    rw [same]
    split
    · split
      · exact Nat.le_refl _
      · exact Nat.mul_le_mul_right unit (Nat.le_succ _)
    · rw [if_neg (by omega)]

theorem keepBits_bounds (bits value : Nat) (positive : value ≠ 0) :
    2 ^ value.log2 ≤ keepBits bits value ∧ keepBits bits value ≤ 2 ^ (value.log2 + 1) := by
  have unit_pos : 0 < 2 ^ (value.log2 - bits) := Nat.two_pow_pos _
  have split : 2 ^ value.log2 = 2 ^ (value.log2 - (value.log2 - bits)) * 2 ^ (value.log2 - bits) := by
    rw [← Nat.pow_add]
    congr 1
    omega
  have double : 2 ^ (value.log2 + 1) =
      2 ^ (value.log2 + 1 - (value.log2 - bits)) * 2 ^ (value.log2 - bits) := by
    rw [← Nat.pow_add]
    congr 1
    omega
  have low := Nat.log2_self_le positive
  have high : value < 2 ^ (value.log2 + 1) := Nat.lt_log2_self
  constructor
  · rw [split] at low
    calc
      2 ^ value.log2 = _ := split
      _ ≤ value / 2 ^ (value.log2 - bits) * 2 ^ (value.log2 - bits) :=
        Nat.mul_le_mul_right _ ((Nat.le_div_iff_mul_le unit_pos).mpr low)
      _ ≤ keepBits bits value := le_roundTo _ value
  · rw [double] at high
    calc
      keepBits bits value ≤ (value / 2 ^ (value.log2 - bits) + 1) * 2 ^ (value.log2 - bits) :=
        roundTo_le _ value
      _ ≤ 2 ^ (value.log2 + 1 - (value.log2 - bits)) * 2 ^ (value.log2 - bits) :=
        Nat.mul_le_mul_right _ ((Nat.div_lt_iff_lt_mul unit_pos).mpr high)
      _ = 2 ^ (value.log2 + 1) := double.symm

theorem keepBits_small {bits value : Nat} (small : value < 2 ^ (bits + 1)) :
    keepBits bits value = value := by
  have unit : value.log2 - bits = 0 := by
    by_cases zero : value = 0
    · simp [zero]
    · have := (Nat.log2_lt zero).mpr small
      omega
  simp [keepBits, roundTo, unit, Nat.mod_one]

theorem keepBits_mono (bits : Nat) {low high : Nat} (le : low ≤ high) :
    keepBits bits low ≤ keepBits bits high := by
  by_cases zero : low = 0
  · rw [zero, keepBits_small (Nat.two_pow_pos _)]
    exact Nat.zero_le _
  have logs : low.log2 ≤ high.log2 := by
    by_contra greater
    have below := (Nat.log2_lt (by omega : high ≠ 0)).mp (by omega : high.log2 < low.log2)
    have := Nat.log2_self_le zero
    omega
  rcases Nat.lt_or_eq_of_le logs with less | same
  · calc
      keepBits bits low ≤ 2 ^ (low.log2 + 1) := (keepBits_bounds bits low zero).2
      _ ≤ 2 ^ high.log2 := Nat.pow_le_pow_right (by decide) less
      _ ≤ keepBits bits high := (keepBits_bounds bits high (by omega)).1
  · unfold keepBits
    rw [same]
    exact roundTo_mono _ low high le

theorem keepBits_exact {bits value small : Nat} (bound : small < 2 ^ (bits + 1))
    (same : keepBits bits value = keepBits bits small) : value = small := by
  rw [keepBits_small bound] at same
  by_cases also : value < 2 ^ (bits + 1)
  · exact (keepBits_small also).symm.trans same
  · have log : bits + 1 ≤ value.log2 := by
      by_contra less
      exact also ((Nat.log2_lt (by omega : value ≠ 0)).mp (by omega))
    have := (keepBits_bounds bits value (by omega)).1
    have := Nat.pow_le_pow_right (by decide : 0 < 2) log
    omega

end Rounding
