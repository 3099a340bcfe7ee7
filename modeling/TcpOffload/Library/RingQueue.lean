import TcpOffload.Library.CellStore
import TcpOffload.Library.RingSegment

/-!
# Queues in a ring

A queue of cells that lies in a ring of `size` cells from a place on, and goes
on at the start of the ring where it passes the end.  Storing behind it
appends, as long as the ring has room; reading at its place takes from its
front.
-/

namespace RingQueue

open CellStore RingSegment

universe u

variable {Cell : Type u}

/-- The queue lies in the ring from `place` on. -/
structure Holds
    (size : Nat) (ring : Nat → Cell) (place : Nat) (queue : List Cell) :
    Prop where
  fits : queue.length ≤ size
  cells : (segment size place queue.length).map ring = queue

variable {size place : Nat} {ring : Nat → Cell}

theorem Holds.nil : Holds size ring place [] :=
  ⟨Nat.zero_le size, rfl⟩

/-- Two segments one behind the other do not meet within one turn. -/
theorem segment_disjoint {first second : Nat}
    (fits : first + second ≤ size) :
    (segment size place first).Disjoint
      (segment size (place + first) second) := by
  have once : (segment size place (first + second)).Nodup :=
    nodup_segment fits
  rw [segment_add] at once
  exact List.disjoint_of_nodup_append once

/-- Storing behind the queue. -/
theorem Holds.push
    {queue more : List Cell} (holds : Holds size ring place queue)
    (room : queue.length + more.length ≤ size) :
    Holds size
      (store ring (segment size (place + queue.length) more.length) more)
      place (queue ++ more) := by
  refine ⟨?_, ?_⟩
  · rw [List.length_append]
    exact room
  · rw [List.length_append, segment_add, List.map_append,
      map_store_of_disjoint (segment_disjoint room), holds.cells,
      map_store (nodup_segment (by omega)) length_segment]

/-- Reading at the front of the queue, and what is left of it. -/
theorem Holds.pop
    {front queue : List Cell}
    (holds : Holds size ring place (front ++ queue)) :
    (segment size place front.length).map ring = front ∧
      Holds size ring (place + front.length) queue := by
  have fits := holds.fits
  have cells := holds.cells
  rw [List.length_append, segment_add, List.map_append] at cells
  rw [List.length_append] at fits
  obtain ⟨read, left⟩ :=
    List.append_inj cells (by rw [List.length_map, length_segment])
  exact ⟨read, by omega, left⟩

/-- A cell of the queue, at its place. -/
theorem Holds.getElem?
    {queue : List Cell} (holds : Holds size ring place queue)
    {index : Nat} (inside : index < queue.length) :
    queue[index]? = some (ring ((place + index) % size)) := by
  have bound : index < (segment size place queue.length).length := by
    rw [length_segment]
    exact inside
  have cell := congrArg (fun cells => cells[index]?) holds.cells
  rw [← cell, List.getElem?_map, List.getElem?_eq_getElem bound,
    getElem_segment bound]
  rfl

/-- Storing elsewhere changes nothing. -/
theorem Holds.congr
    {other : Nat → Cell} {queue : List Cell}
    (holds : Holds size ring place queue)
    (same : ∀ position, other position = ring position) :
    Holds size other place queue := by
  refine ⟨holds.fits, ?_⟩
  rw [funext same]
  exact holds.cells

end RingQueue
