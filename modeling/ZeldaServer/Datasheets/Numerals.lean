import Mathlib.Data.Nat.Digits.Lemmas
import ZeldaServer.Datasheets.RoomDataManager

/-! Whole numbers as the files spell them, and what `stoi` and the searches of the loaders make of
such a spelling. -/

namespace ZeldaServer

namespace RoomDataManager

def decimal (n : Int) : Text :=
  if n < 0 then '-' :: Nat.toDigits 10 n.natAbs else Nat.toDigits 10 n.natAbs

theorem digitsValue_toDigits (n : Nat) : digitsValue (Nat.toDigits 10 n) = n := by
  have same : digitsValue (Nat.toDigits 10 n) = Nat.ofDigitChars 10 (Nat.toDigits 10 n) 0 := by
    rw [Nat.ofDigitChars_eq_foldl, digitsValue]
  rw [same, Nat.ofDigitChars_ten_toDigits]

theorem toDigits_digits (n : Nat) : ∀ c ∈ Nat.toDigits 10 n, c.isDigit = true :=
  fun _ listed => Nat.isDigit_of_mem_toDigits (by decide) (by decide) listed

theorem takeWhile_digits (n : Nat) {rest : Text} (ends : ∀ c ∈ rest.head?, c.isDigit = false) :
    (Nat.toDigits 10 n ++ rest).takeWhile Char.isDigit = Nat.toDigits 10 n ∧
      (Nat.toDigits 10 n ++ rest).dropWhile Char.isDigit = rest := by
  rw [List.takeWhile_append_of_pos (toDigits_digits n),
    List.dropWhile_append_of_pos (toDigits_digits n)]
  cases rest with
  | nil => simp
  | cons c rest => simp [ends c rfl]

theorem digit_range {c : Char} (digit : c.isDigit = true) : 48 ≤ c.toNat ∧ c.toNat ≤ 57 := by
  simp only [Char.isDigit, Bool.and_eq_true, decide_eq_true_eq] at digit
  exact digit

theorem numeral_ne {c other : Char} (numeral : isNumeral c = true)
    (apart : other.isDigit = false ∧ other ≠ '-') : c ≠ other := by
  rintro rfl
  simp [isNumeral, apart.1, apart.2] at numeral

theorem numeral_space {c : Char} (numeral : isNumeral c = true) : isSpace c = false := by
  have apart (other : Char) (kind : other.isDigit = false ∧ other ≠ '-') : (c = other) = False :=
    eq_false (numeral_ne numeral kind)
  simp only [isSpace, apart ' ' (by decide), apart '\t' (by decide), apart '\n' (by decide),
    apart '\x0b' (by decide), apart '\x0c' (by decide), apart '\r' (by decide)]
  decide

theorem decimal_numeral (n : Int) : decimal n ≠ [] ∧ ∀ c ∈ decimal n, isNumeral c = true := by
  have digits : ∀ c ∈ Nat.toDigits 10 n.natAbs, isNumeral c = true := by
    intro c listed
    simp [isNumeral, toDigits_digits _ c listed]
  unfold decimal
  split
  · exact ⟨by simp, List.forall_mem_cons.mpr ⟨by decide, digits⟩⟩
  · exact ⟨Nat.toDigits_ne_nil, digits⟩

theorem dropWhile_decimal (n : Int) (rest : Text) :
    (decimal n ++ rest).dropWhile isSpace = decimal n ++ rest := by
  obtain ⟨nonempty, numerals⟩ := decimal_numeral n
  cases text : decimal n with
  | nil => exact absurd text nonempty
  | cons c tail =>
      have first := numeral_space (numerals c (by simp [text]))
      simp [first]

theorem signed_decimal (n : Int) (rest : Text) :
    signed (decimal n ++ rest) = (decide (n < 0), Nat.toDigits 10 n.natAbs ++ rest) := by
  unfold decimal
  split
  case isTrue negative => simp [signed, negative]
  case isFalse positive =>
    cases digits : Nat.toDigits 10 n.natAbs with
    | nil => exact absurd digits Nat.toDigits_ne_nil
    | cons c tail =>
        have digit := toDigits_digits n.natAbs c (by simp [digits])
        have minus : c ≠ '-' := by
          rintro rfl
          exact absurd digit (by decide)
        have plus : c ≠ '+' := by
          rintro rfl
          exact absurd digit (by decide)
        simp [signed, minus, plus, positive]

theorem natAbs_signed (n : Int) : (if decide (n < 0) then -(n.natAbs : Int) else n.natAbs) = n := by
  by_cases negative : n < 0
  · rw [if_pos (by simpa using negative)]
    omega
  · rw [if_neg (by simpa using negative)]
    omega

theorem parseInt_spelt (n : Int) :
    parseInt (decimal n) =
      if n < -2 ^ 31 ∨ 2 ^ 31 ≤ n then .error .outOfRange else .ok (Int32.ofInt n) := by
  have whole := dropWhile_decimal n []
  have sign := signed_decimal n []
  have ends : ∀ c ∈ ([] : Text).head?, c.isDigit = false := by simp
  have digits := takeWhile_digits n.natAbs ends
  rw [List.append_nil] at whole sign
  rw [List.append_nil] at sign digits
  unfold parseInt
  rw [whole, sign]
  dsimp only
  rw [digits.1, digitsValue_toDigits, natAbs_signed, if_neg Nat.toDigits_ne_nil]

theorem parseInt_decimal (n : Int32) : parseInt (decimal n.toInt) = .ok n := by
  have least := n.le_toInt
  have most := n.toInt_lt
  rw [parseInt_spelt, if_neg (by omega), Int32.ofInt_toInt]

def numberText (n : Int32) : Text := decimal n.toInt

theorem numberText_numeral (n : Int32) :
    numberText n ≠ [] ∧ ∀ c ∈ numberText n, isNumeral c = true := decimal_numeral n.toInt

theorem parseInt_number (n : Int32) : parseInt (numberText n) = .ok n := parseInt_decimal n

end RoomDataManager

end ZeldaServer
