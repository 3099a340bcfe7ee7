import Mathlib.Algebra.Order.Ring.Nat

/-!
# Ones' complement sums

Sums modulo `modulus = 2 ^ width - 1` whose carry is added back in.  Of the
two representatives of 0 such a sum gives 0 only if all its terms are 0.
-/

namespace OnesComplement

/-- What a sum of the value `total` is after all carries are added in. -/
def canonical (modulus total : Nat) : Nat :=
  if total = 0 then 0 else (total - 1) % modulus + 1

/-- A sum of two numbers below `2 ^ width`, its carry added back in. -/
def endAround (width first second : Nat) : Nat :=
  (first + second) % 2 ^ width + (first + second) / 2 ^ width

section Canonical

variable {modulus : Nat}

theorem canonical_zero : canonical modulus 0 = 0 :=
  rfl

theorem canonical_le (positive : 0 < modulus) (total : Nat) :
    canonical modulus total ≤ modulus := by
  rw [canonical]
  split
  · exact Nat.zero_le _
  · exact Nat.mod_lt _ positive

theorem canonical_of_le {total : Nat} (small : total ≤ modulus) :
    canonical modulus total = total := by
  rw [canonical]
  split
  · rename_i zero
    exact zero.symm
  · rw [Nat.mod_eq_of_lt (by omega)]
    omega

/-- Of two terms one may be reduced first. -/
theorem canonical_add (first second : Nat) :
    canonical modulus (canonical modulus first + second) =
      canonical modulus (first + second) := by
  by_cases zero : first = 0
  · rw [zero, canonical_zero]
  · have reduced :
        canonical modulus first = (first - 1) % modulus + 1 := by
      rw [canonical, if_neg zero]
    rw [reduced, canonical, canonical, if_neg (by omega),
      if_neg (by omega)]
    have left :
        (first - 1) % modulus + 1 + second - 1 =
          (first - 1) % modulus + second := by
      omega
    have right : first + second - 1 = first - 1 + second := by
      omega
    rw [left, right, Nat.mod_add_mod]

theorem canonical_add_canonical (first second : Nat) :
    canonical modulus
        (canonical modulus first + canonical modulus second) =
      canonical modulus (first + second) := by
  rw [canonical_add, Nat.add_comm, canonical_add, Nat.add_comm]

/-- A sum and its complement are the largest number. -/
theorem canonical_add_complement (positive : 0 < modulus) (total : Nat) :
    canonical modulus (total + (modulus - canonical modulus total)) =
      modulus := by
  have bound := canonical_le positive total
  rw [← canonical_add, Nat.add_sub_cancel' bound]
  exact canonical_of_le (Nat.le_refl modulus)

end Canonical

/-- The carry is added in at once. -/
theorem endAround_canonical
    {width : Nat} (positive : 0 < width) (first second : Nat) :
    endAround width (canonical (2 ^ width - 1) first)
        (canonical (2 ^ width - 1) second) =
      canonical (2 ^ width - 1) (first + second) := by
  have power : 2 ≤ 2 ^ width :=
    Nat.le_self_pow (Nat.ne_of_gt positive) 2
  have firstBound :=
    canonical_le (by omega : 0 < 2 ^ width - 1) first
  have secondBound :=
    canonical_le (by omega : 0 < 2 ^ width - 1) second
  rw [← canonical_add_canonical first second, endAround]
  generalize canonical (2 ^ width - 1) first = left at firstBound
  generalize canonical (2 ^ width - 1) second = right at secondBound
  generalize 2 ^ width = size at power firstBound secondBound
  by_cases carries : left + right < size
  · rw [Nat.mod_eq_of_lt carries, Nat.div_eq_of_lt carries,
      canonical_of_le (by omega), Nat.add_zero]
  · have quotient : (left + right) / size = 1 :=
      Nat.div_eq_of_lt_le (by omega) (by omega)
    have remainder : (left + right) % size = left + right - size := by
      rw [Nat.mod_eq_sub_mod (by omega), Nat.mod_eq_of_lt (by omega)]
    rw [quotient, remainder, canonical, if_neg (by omega),
      Nat.mod_eq_sub_mod (by omega), Nat.mod_eq_of_lt (by omega)]
    omega

/-- The digits of a sum of two digits add up to what the sum is with its
carries added in. -/
theorem endAround_digits
    {width total : Nat} (positive : 0 < width)
    (small : total < 2 ^ width * 2 ^ width) :
    endAround width (total % 2 ^ width) (total / 2 ^ width) =
      canonical (2 ^ width - 1) total := by
  have power : 2 ≤ 2 ^ width :=
    Nat.le_self_pow (Nat.ne_of_gt positive) 2
  have upper : total / 2 ^ width < 2 ^ width :=
    Nat.div_lt_of_lt_mul small
  have lower : total % 2 ^ width < 2 ^ width :=
    Nat.mod_lt _ (by omega)
  have digits := Nat.mod_add_div total (2 ^ width)
  have sum :
      canonical (2 ^ width - 1)
          (total % 2 ^ width + total / 2 ^ width) =
        canonical (2 ^ width - 1) total := by
    generalize total % 2 ^ width = low at digits lower
    generalize total / 2 ^ width = high at digits upper
    by_cases zero : low + high = 0
    · have both : low = 0 ∧ high = 0 := by
        omega
      rw [← digits, both.1, both.2, Nat.mul_zero]
    · have split :
          total - 1 = low + high - 1 + (2 ^ width - 1) * high := by
        rw [← digits, Nat.sub_mul, Nat.one_mul]
        have notLess : high ≤ 2 ^ width * high :=
          Nat.le_mul_of_pos_left high (by omega)
        omega
      have some : total ≠ 0 := by
        intro none
        rw [none] at digits
        have noHigh : high = 0 := by
          have product : 2 ^ width * high = 0 := by
            omega
          rcases Nat.mul_eq_zero.1 product with absent | absent
          · omega
          · exact absent
        omega
      rw [canonical, canonical, if_neg zero, if_neg some, split,
        Nat.add_mul_mod_self_left]
  rw [← sum]
  have added :=
    endAround_canonical positive (total % 2 ^ width)
      (total / 2 ^ width)
  rw [canonical_of_le (by omega), canonical_of_le (by omega)] at added
  exact added

end OnesComplement
