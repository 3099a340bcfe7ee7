import Mathlib.Data.List.Nodup
import Mathlib.Data.Nat.ModEq

/-!
# Segments of a ring

The positions that an access of `length` cells touches in a ring of `size`
cells, from `offset` on, in order.  An access that passes the end of the ring
is a block up to the end followed by a block from position 0.
-/

namespace RingSegment

def segment (size offset length : Nat) : List Nat :=
  (List.range length).map fun index => (offset + index) % size

variable {size offset length : Nat}

@[simp]
theorem length_segment : (segment size offset length).length = length := by
  simp [segment]

theorem getElem_segment
    {index : Nat} (inside : index < (segment size offset length).length) :
    (segment size offset length)[index] = (offset + index) % size := by
  simp [segment]

theorem lt_of_mem_segment
    (positive : 0 < size) {position : Nat}
    (member : position ∈ segment size offset length) :
    position < size := by
  obtain ⟨index, _, rfl⟩ := List.mem_map.1 member
  exact Nat.mod_lt _ positive

/-- No position is touched twice by an access of at most the whole ring. -/
theorem nodup_segment (fits : length ≤ size) :
    (segment size offset length).Nodup := by
  refine List.Nodup.map_on ?_ List.nodup_range
  intro first firstMember second secondMember same
  rw [List.mem_range] at firstMember secondMember
  have congruent : (offset + first) ≡ (offset + second) [MOD size] := same
  have sameIndex := Nat.ModEq.add_left_cancel' offset congruent
  exact Nat.ModEq.eq_of_lt_of_lt sameIndex
    (Nat.lt_of_lt_of_le firstMember fits)
    (Nat.lt_of_lt_of_le secondMember fits)

theorem segment_add (first second : Nat) :
    segment size offset (first + second) =
      segment size offset first ++
        segment size (offset + first) second := by
  simp only [segment, List.range_add, List.map_append, List.map_map,
    List.append_cancel_left_eq]
  apply List.map_congr_left
  intro index _
  simp only [Function.comp_apply, Nat.add_assoc]

theorem segment_mod (length : Nat) :
    segment size (offset % size) length = segment size offset length := by
  apply List.map_congr_left
  intro index _
  exact Nat.mod_add_mod offset size index

/-- Where two segments are the same, they start at the same place. -/
theorem mod_eq_of_segment_eq
    {other : Nat} (some : 0 < length)
    (same : segment size offset length = segment size other length) :
    offset % size = other % size := by
  obtain ⟨rest, rfl⟩ := Nat.exists_eq_add_of_lt some
  rw [Nat.zero_add, Nat.add_comm, segment_add, segment_add] at same
  exact (List.cons.inj same).1

theorem segment_of_le (inside : offset + length ≤ size) :
    segment size offset length =
      (List.range length).map (offset + ·) := by
  apply List.map_congr_left
  intro index member
  rw [List.mem_range] at member
  exact Nat.mod_eq_of_lt (by omega)

theorem segment_from_size :
    segment size size length = segment size 0 length := by
  apply List.map_congr_left
  intro index _
  rw [Nat.add_mod_left, Nat.zero_add]

/-- The two blocks of an access that reaches the end of the ring. -/
theorem segment_of_reaches_end
    (inRing : offset ≤ size) (reaches : size - offset ≤ length)
    (fits : length ≤ size) :
    segment size offset length =
      (List.range (size - offset)).map (offset + ·) ++
        List.range (length - (size - offset)) := by
  have lengthSplit :
      length = (size - offset) + (length - (size - offset)) := by
    omega
  have atEnd : offset + (size - offset) = size := by
    omega
  conv_lhs => rw [lengthSplit]
  rw [segment_add, atEnd, segment_from_size,
    segment_of_le (by omega), segment_of_le (by omega)]
  simp

end RingSegment
