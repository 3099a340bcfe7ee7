import Mathlib.Algebra.Order.Ring.Nat
import Mathlib.Data.List.Basic

/-!
# Queues of advancing positions

A queue carries updates of a position that only moves forward.  The reader
has seen the position `low`, the writer stands at `high`, and the items in
flight show values in between, in order.
-/

namespace Ascending

universe u

variable {Item : Type u}

/-- The items show ascending values between `low` and `high`. -/
def Ascends (shows : Item → Nat → Prop) :
    Nat → Nat → List Item → Prop
  | low, high, [] => low ≤ high
  | low, high, item :: later =>
      ∃ value,
        low ≤ value ∧ shows item value ∧ Ascends shows value high later

variable {shows : Item → Nat → Prop} {low high : Nat} {items : List Item}

theorem Ascends.le
    (ascends : Ascends shows low high items) :
    low ≤ high := by
  induction items generalizing low with
  | nil =>
      exact ascends
  | cons item later inductionHypothesis =>
      obtain ⟨value, above, _, rest⟩ := ascends
      exact Nat.le_trans above (inductionHypothesis rest)

/-- The reader may know less. -/
theorem Ascends.lower
    {below : Nat} (ascends : Ascends shows low high items)
    (isBelow : below ≤ low) :
    Ascends shows below high items := by
  cases items with
  | nil =>
      exact Nat.le_trans isBelow ascends
  | cons item later =>
      obtain ⟨value, above, shown, rest⟩ := ascends
      exact ⟨value, Nat.le_trans isBelow above, shown, rest⟩

/-- The writer moves on and puts its new position into the queue. -/
theorem Ascends.push
    {further : Nat} {item : Item}
    (ascends : Ascends shows low high items)
    (moved : high ≤ further) (shown : shows item further) :
    Ascends shows low further (items ++ [item]) := by
  induction items generalizing low with
  | nil =>
      exact
        ⟨further, Nat.le_trans ascends moved, shown, Nat.le_refl further⟩
  | cons first later inductionHypothesis =>
      obtain ⟨value, above, firstShown, rest⟩ := ascends
      exact ⟨value, above, firstShown, inductionHypothesis rest⟩

/-- The writer moves on without a message. -/
theorem Ascends.advance
    {further : Nat} (ascends : Ascends shows low high items)
    (moved : high ≤ further) :
    Ascends shows low further items := by
  induction items generalizing low with
  | nil =>
      exact Nat.le_trans ascends moved
  | cons first later inductionHypothesis =>
      obtain ⟨value, above, firstShown, rest⟩ := ascends
      exact ⟨value, above, firstShown, inductionHypothesis rest⟩

/-- The reader takes the first item, or drops it. -/
theorem Ascends.tail
    {item : Item} (ascends : Ascends shows low high (item :: items)) :
    ∃ value,
      low ≤ value ∧ value ≤ high ∧ shows item value ∧
        Ascends shows value high items := by
  obtain ⟨value, above, shown, rest⟩ := ascends
  exact ⟨value, above, rest.le, shown, rest⟩

end Ascending
