import Mathlib.Data.Nat.ModEq

/-!
# Cyclic order on machine words

Sequence numbers and ring pointers live on the circle of `2 ^ width` points.
The distance from `origin` to `point` walked upwards is the machine
difference, and all order notions below compare such distances.
-/

namespace Cyclic

variable {width : Nat}

/-- The number of upward steps from `origin` to `point`. -/
def distance (origin point : BitVec width) : Nat :=
  (point - origin).toNat

/-- `point` lies on the arc from `low` to `high`, both ends included. -/
def Between (low point high : BitVec width) : Prop :=
  distance low point ≤ distance low high

/-- `point` lies on the arc from `low` to `high`, the end `high` excluded. -/
def Inside (low point high : BitVec width) : Prop :=
  distance low point < distance low high

instance (low point high : BitVec width) :
    Decidable (Between low point high) :=
  inferInstanceAs (Decidable (_ ≤ _))

instance (low point high : BitVec width) :
    Decidable (Inside low point high) :=
  inferInstanceAs (Decidable (_ < _))

theorem distance_lt (origin point : BitVec width) :
    distance origin point < 2 ^ width :=
  (point - origin).isLt

theorem distance_eq (origin point : BitVec width) :
    distance origin point =
      if origin.toNat ≤ point.toNat then
        point.toNat - origin.toNat
      else
        2 ^ width + point.toNat - origin.toNat := by
  have originBound := origin.isLt
  have pointBound := point.isLt
  rw [distance, BitVec.toNat_sub]
  split
  · rename_i ordered
    have wrapped :
        2 ^ width - origin.toNat + point.toNat =
          (point.toNat - origin.toNat) + 2 ^ width := by
      omega
    rw [wrapped, Nat.add_mod_right, Nat.mod_eq_of_lt (by omega)]
  · rename_i crossed
    rw [Nat.mod_eq_of_lt (by omega)]
    omega

@[simp]
theorem distance_self (origin : BitVec width) :
    distance origin origin = 0 := by
  simp [distance]

/-- The wrap-aware window test on plain comparisons decides membership of the
closed arc. -/
theorem between_iff_compare (low point high : BitVec width) :
    Between low point high ↔
      (low ≤ point ∧ point ≤ high) ∨
        ((low ≤ point ∨ point ≤ high) ∧ high < low) := by
  have lowBound := low.isLt
  have pointBound := point.isLt
  have highBound := high.isLt
  simp only [Between, distance_eq, BitVec.le_def, BitVec.lt_def]
  split <;> split <;> omega

theorem between_left (low high : BitVec width) :
    Between low low high := by
  simp [Between]

theorem between_right (low high : BitVec width) :
    Between low high high :=
  Nat.le_refl _

/-- Moving the upper end further up keeps the points of the arc. -/
theorem Between.extend
    {low point high further : BitVec width}
    (between : Between low point high)
    (moved : Between low high further) :
    Between low point further :=
  Nat.le_trans between moved

/-- Two positions of an unbounded counter, less than one turn apart, are as
far apart on the circle. -/
theorem distance_ofNat
    {origin point : Nat} (ordered : origin ≤ point)
    (short : point - origin < 2 ^ width) :
    distance (BitVec.ofNat width origin) (BitVec.ofNat width point) =
      point - origin := by
  obtain ⟨gap, rfl⟩ := Nat.exists_eq_add_of_le ordered
  have gapBound : gap < 2 ^ width := by
    omega
  have difference :
      BitVec.ofNat width (origin + gap) - BitVec.ofNat width origin =
        BitVec.ofNat width gap := by
    rw [BitVec.ofNat_add, BitVec.add_comm, BitVec.add_sub_cancel]
  rw [distance, difference, BitVec.toNat_ofNat,
    Nat.mod_eq_of_lt gapBound]
  omega

/-- A point is its distance away from any origin. -/
theorem eq_ofNat_add_distance
    {origin : Nat} (point : BitVec width) :
    point =
      BitVec.ofNat width
        (origin + distance (BitVec.ofNat width origin) point) := by
  rw [BitVec.ofNat_add, distance, BitVec.ofNat_toNat, BitVec.setWidth_eq,
    BitVec.add_comm, BitVec.sub_add_cancel]

/-- Moving the point up lengthens the way to it, short of a full turn. -/
theorem distance_add
    {origin point : BitVec width} (length : BitVec width)
    (short : distance origin point + length.toNat < 2 ^ width) :
    distance origin (point + length) =
      distance origin point + length.toNat := by
  have rearranged :
      point + length - origin = point - origin + length := by
    rw [BitVec.sub_eq_add_neg, BitVec.sub_eq_add_neg, BitVec.add_assoc,
      BitVec.add_comm length, ← BitVec.add_assoc]
  rw [distance, rearranged, BitVec.toNat_add]
  exact Nat.mod_eq_of_lt short

/-- Moving the origin up, not past the point, shortens the way. -/
theorem distance_advance
    {origin point : BitVec width} (length : BitVec width)
    (inside : length.toNat ≤ distance origin point) :
    distance (origin + length) point =
      distance origin point - length.toNat := by
  have rearranged :
      point - (origin + length) = point - origin - length := by
    rw [BitVec.sub_eq_add_neg, BitVec.sub_eq_add_neg,
      BitVec.sub_eq_add_neg, BitVec.neg_add, BitVec.sub_eq_add_neg,
      BitVec.add_assoc]
  rw [distance, rearranged]
  exact BitVec.toNat_sub_of_le (BitVec.le_def.2 inside)

/-- A point of the arc splits it. -/
theorem Between.distance_add_distance
    {low point high : BitVec width} (between : Between low point high) :
    distance low point + distance point high = distance low high := by
  have step : low + (point - low) = point := by
    rw [BitVec.add_comm, BitVec.sub_add_cancel]
  have shortened := distance_advance (point - low) between
  rw [step] at shortened
  rw [shortened]
  exact Nat.add_sub_cancel' between

theorem between_add
    {low high : BitVec width} (length : BitVec width)
    (inside : length.toNat ≤ distance low high) :
    Between low (low + length) high := by
  have reached : distance low (low + length) = length.toNat := by
    rw [distance, BitVec.add_comm, BitVec.add_sub_cancel]
  rw [Between, reached]
  exact inside

/-- Points from the upper end on lie outside the arc. -/
theorem not_inside_add
    {low high : BitVec width} {length : BitVec width}
    (short : distance low high + length.toNat < 2 ^ width) :
    ¬ Inside low (high + length) high := by
  rw [Inside, distance_add length short]
  omega

end Cyclic
