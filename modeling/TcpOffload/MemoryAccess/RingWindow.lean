import TcpOffload.MemoryAccess.RingStream

/-!
# A ring as a window

A session's ring that is written where the bytes written so far end, and of
which the first bytes are given up from time to time.  As long as there is
room, what was written and not given up is what a read of it delivers, however
often it is read.
-/

namespace TcpOffload

open CellStore Framing RingQueue RingSegment

namespace RingAccess

/-- A write to the given ring. -/
def Writes (direction : RingDirection) (id : TcpSessionID) :
    RingAccess → Prop
  | .write other stored _ => other = direction ∧ stored.id = id
  | .read _ _ => False

variable {direction : RingDirection} {id : TcpSessionID}

theorem bytesWritten_of_not_writes {access : RingAccess}
    (not : ¬ access.Writes direction id) :
    bytesWritten direction id [access] = [] := by
  rw [bytesWritten, List.flatMap_singleton]
  cases access with
  | read other asked =>
      exact ite_self _
  | write other stored words =>
      exact if_neg not

theorem apply_of_not_writes {access : RingAccess}
    (not : ¬ access.Writes direction id) (rings : Rings) :
    access.apply rings direction id = rings direction id := by
  cases access with
  | read other asked =>
      rfl
  | write other stored words =>
      change Rings.write _ other stored direction id = _
      rw [Rings.write]
      by_cases sameDirection : direction = other
      · rw [← sameDirection, Function.update_self, Function.update_of_ne]
        exact fun sameId => not ⟨sameDirection.symm, sameId.symm⟩
      · rw [Function.update_of_ne sameDirection]

end RingAccess

/-- Of what was written to the ring from `first` on, everything behind the
first `gone` bytes lies in it. -/
structure HeldFrom
    (direction : RingDirection) (id : TcpSessionID) (first : Nat)
    (rings : Rings) (gone : Nat) (accesses : List RingAccess) :
    Prop where
  within : gone ≤ (bytesWritten direction id accesses).length
  holds :
    Holds bufferSize
      ((accesses.foldl RingAccess.apply rings) direction id)
      (first + gone) ((bytesWritten direction id accesses).drop gone)

namespace HeldFrom

variable {direction : RingDirection} {id : TcpSessionID}
variable {first gone : Nat} {rings : Rings} {accesses : List RingAccess}

theorem start : HeldFrom direction id first rings 0 [] :=
  ⟨Nat.le_refl 0, Holds.nil⟩

theorem other {access : RingAccess}
    (held : HeldFrom direction id first rings gone accesses)
    (not : ¬ access.Writes direction id) :
    HeldFrom direction id first rings gone (accesses ++ [access]) := by
  have same :
      bytesWritten direction id (accesses ++ [access]) =
        bytesWritten direction id accesses := by
    rw [bytesWritten_append, RingAccess.bytesWritten_of_not_writes not,
      List.append_nil]
  refine ⟨?_, ?_⟩
  · rw [same]
    exact held.within
  · rw [same, List.foldl_append]
    refine held.holds.congr fun position => ?_
    exact congrFun (RingAccess.apply_of_not_writes not _) position

/-- Accesses that write other rings, or only read. -/
theorem others {more : List RingAccess}
    (held : HeldFrom direction id first rings gone accesses)
    (not : ∀ access ∈ more, ¬ access.Writes direction id) :
    HeldFrom direction id first rings gone (accesses ++ more) ∧
      bytesWritten direction id (accesses ++ more) =
        bytesWritten direction id accesses := by
  induction more generalizing accesses with
  | nil =>
      rw [List.append_nil]
      exact ⟨held, rfl⟩
  | cons access rest inductionHypothesis =>
      obtain ⟨notHere, notLater⟩ := List.forall_mem_cons.1 not
      obtain ⟨further, same⟩ :=
        inductionHypothesis (held.other notHere) notLater
      rw [List.append_assoc] at further same
      refine ⟨further, same.trans ?_⟩
      rw [bytesWritten_append,
        RingAccess.bytesWritten_of_not_writes notHere, List.append_nil]

/-- A write behind what was written. -/
theorem write {stored : SessionWrite} {words : List NetAXISWord}
    (held : HeldFrom direction id first rings gone accesses)
    (own : stored.id = id)
    (offset :
      stored.offset.toNat =
        (first + (bytesWritten direction id accesses).length) %
          bufferSize)
    (room :
      (bytesWritten direction id accesses).length + stored.bytes.length ≤
        gone + bufferSize) :
    HeldFrom direction id first rings gone
        (accesses ++ [.write direction stored words]) ∧
      bytesWritten direction id
          (accesses ++ [.write direction stored words]) =
        bytesWritten direction id accesses ++ stored.bytes := by
  have isOf :
      RingAccess.IsOf direction id (.write direction stored words) :=
    ⟨rfl, own⟩
  have grown :
      bytesWritten direction id
          (accesses ++ [.write direction stored words]) =
        bytesWritten direction id accesses ++ stored.bytes := by
    rw [bytesWritten_append]
    refine congrArg (_ ++ ·) ?_
    rw [bytesWritten, List.flatMap_singleton, if_pos isOf]
    rfl
  have within := held.within
  have left :
      ((bytesWritten direction id accesses).drop gone).length =
        (bytesWritten direction id accesses).length - gone :=
    List.length_drop
  have positions :
      stored.positions =
        segment bufferSize
          (first + gone +
            ((bytesWritten direction id accesses).drop gone).length)
          stored.bytes.length := by
    rw [SessionWrite.positions, offset, segment_mod, left, Nat.add_assoc,
      Nat.add_sub_cancel' within]
  refine ⟨⟨?_, ?_⟩, grown⟩
  · rw [grown, List.length_append]
    exact Nat.le_add_right_of_le within
  · rw [grown, List.drop_append_of_le_length within, List.foldl_append]
    have pushed :=
      @Holds.push _ _ _ _ _ stored.bytes held.holds (by omega)
    rw [← positions] at pushed
    refine pushed.congr fun position => ?_
    change Rings.write _ direction stored direction id position = _
    rw [Rings.write, Function.update_self, ← own, Function.update_self]

/-- Further bytes are given up. -/
theorem giveUp {more : Nat}
    (held : HeldFrom direction id first rings gone accesses)
    (within :
      gone + more ≤ (bytesWritten direction id accesses).length) :
    HeldFrom direction id first rings (gone + more) accesses := by
  refine ⟨within, ?_⟩
  have holds := held.holds
  have front :
      (((bytesWritten direction id accesses).drop gone).take
          more).length =
        more := by
    rw [List.length_take, List.length_drop]
    omega
  rw [← List.take_append_drop more
    ((bytesWritten direction id accesses).drop gone)] at holds
  have left := holds.pop.2
  rw [front, List.drop_drop, Nat.add_assoc] at left
  exact left

/-- What the processes of a memory deliver of the window. -/
theorem delivers
    (held : HeldFrom direction id first rings gone accesses)
    (wellFormed : ∀ access ∈ accesses, access.WellFormed)
    {system atRead final : MemorySystem} (ready : system.Ready)
    (represents : Represents system.memory rings)
    {earlier out : List NetAXISWord}
    (ran : AccessRun system accesses earlier atRead)
    {asked : RingRead} (own : asked.id = id)
    (isRead : RingAccess.WellFormed (.read direction asked))
    (answered : AccessRun atRead [.read direction asked] out final) :
    ∃ frame,
      AxiFrames [frame] out ∧
        frame.length = asked.length.toNat ∧
        ∀ index < asked.length.toNat,
          ∀ place,
            gone ≤ place →
              place < (bytesWritten direction id accesses).length →
                (asked.offset.toNat + index) % bufferSize =
                    (first + place) % bufferSize →
                  frame[index]? =
                    (bytesWritten direction id accesses)[place]? := by
  obtain ⟨stillReady, stillRepresents⟩ :=
    ran.rests ready represents wellFormed
  obtain ⟨frames, -⟩ :=
    (MemorySystem.run_refines stillReady stillRepresents
      (List.forall_mem_singleton.2 isRead)).2 out final answered
  refine ⟨_, frames, ?_, ?_⟩
  · rw [Rings.read, List.length_map, RingRead.positions, length_segment]
  · intro index inside place notGone isWritten samePlace
    have bound :
        place - gone <
          ((bytesWritten direction id accesses).drop gone).length := by
      rw [List.length_drop]
      omega
    have cell := held.holds.getElem? bound
    rw [List.getElem?_drop, Nat.add_sub_cancel' notGone, Nat.add_assoc,
      Nat.add_sub_cancel' notGone, ← samePlace] at cell
    have isIn :
        index <
          (segment bufferSize asked.offset.toNat
            asked.length.toNat).length := by
      rw [length_segment]
      exact inside
    rw [cell, Rings.read, List.getElem?_map, RingRead.positions,
      List.getElem?_eq_getElem isIn, getElem_segment isIn, own]
    rfl

end HeldFrom

end TcpOffload
