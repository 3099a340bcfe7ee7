import TcpOffload.Library.RingQueue
import TcpOffload.MemoryAccess.RingStore

/-!
# A ring as a stream

A session's ring that is written where the bytes written so far end, and read
where the bytes read so far end, with never more bytes between the two than it
has room for, delivers what was written.
-/

namespace TcpOffload

open CellStore Framing RingQueue RingSegment

namespace RingAccess

/-- An access of the given ring. -/
def IsOf (direction : RingDirection) (id : TcpSessionID) :
    RingAccess → Prop
  | .write other stored _ => other = direction ∧ stored.id = id
  | .read other asked => other = direction ∧ asked.id = id

instance (direction : RingDirection) (id : TcpSessionID)
    (access : RingAccess) : Decidable (access.IsOf direction id) :=
  match access with
  | .write other stored _ =>
      inferInstanceAs (Decidable (other = direction ∧ stored.id = id))
  | .read other asked =>
      inferInstanceAs (Decidable (other = direction ∧ asked.id = id))

/-- The bytes that an access writes, if it writes. -/
def bytes : RingAccess → List (BitVec 8)
  | .write _ stored _ => stored.bytes
  | .read _ _ => []

end RingAccess

/-- The bytes written to a ring. -/
def bytesWritten
    (direction : RingDirection) (id : TcpSessionID)
    (accesses : List RingAccess) : List (BitVec 8) :=
  accesses.flatMap fun access =>
    if access.IsOf direction id then access.bytes else []

/-- The bytes of a ring in the frames that accesses deliver: each read takes
one frame. -/
def bytesDelivered
    (direction : RingDirection) (id : TcpSessionID) :
    List RingAccess → List (List (BitVec 8)) → List (BitVec 8)
  | .write _ _ _ :: rest, frames =>
      bytesDelivered direction id rest frames
  | .read other asked :: rest, frame :: frames =>
      (if RingAccess.IsOf direction id (.read other asked) then
        frame
      else
        []) ++
        bytesDelivered direction id rest frames
  | .read _ _ :: _, [] => []
  | [], _ => []

/-- A system that is at rest before accesses is at rest behind them. -/
theorem AccessRun.rests
    {system final : MemorySystem} {accesses : List RingAccess}
    {out : List NetAXISWord} {rings : Rings} (ready : system.Ready)
    (represents : Represents system.memory rings)
    (wellFormed : ∀ access ∈ accesses, access.WellFormed)
    (run : AccessRun system accesses out final) :
    final.Ready ∧
      Represents final.memory
        (accesses.foldl RingAccess.apply rings) := by
  induction run generalizing rings with
  | refl _ =>
      exact ⟨ready, represents⟩
  | head stepped _ inductionHypothesis =>
      obtain ⟨wellFormedHere, wellFormedLater⟩ :=
        List.forall_mem_cons.1 wellFormed
      have refines :=
        (MemorySystem.step_refines ready represents wellFormedHere).2 _ _
          stepped
      exact
        inductionHypothesis refines.ready refines.represents
          wellFormedLater

section Streams

variable {direction : RingDirection} {id : TcpSessionID}

/-- Accesses of other rings write nothing to this one. -/
theorem bytesWritten_others {accesses : List RingAccess}
    (notOf : ∀ access ∈ accesses, ¬ access.IsOf direction id) :
    bytesWritten direction id accesses = [] := by
  rw [bytesWritten, List.flatMap_eq_nil_iff]
  exact fun access isIn => if_neg (notOf access isIn)

theorem bytesWritten_append (accesses later : List RingAccess) :
    bytesWritten direction id (accesses ++ later) =
      bytesWritten direction id accesses ++
        bytesWritten direction id later :=
  List.flatMap_append

theorem bytesDelivered_append
    (rings : Rings) (accesses later : List RingAccess) :
    bytesDelivered direction id (accesses ++ later)
        (framesOf rings (accesses ++ later)) =
      bytesDelivered direction id accesses (framesOf rings accesses) ++
        bytesDelivered direction id later
          (framesOf (accesses.foldl RingAccess.apply rings) later) := by
  induction accesses generalizing rings with
  | nil =>
      rfl
  | cons access rest inductionHypothesis =>
      cases access with
      | write other stored words =>
          exact inductionHypothesis _
      | read other asked =>
          change _ ++ bytesDelivered _ _ (rest ++ later) _ = _ ++ _ ++ _
          rw [List.append_assoc]
          exact congrArg _ (inductionHypothesis rings)

/-- What was written to the ring from `first` on is delivered up to `count`
bytes, and the rest lies in the ring. -/
def StreamsThrough
    (direction : RingDirection) (id : TcpSessionID) (first count : Nat)
    (accesses : List RingAccess) : Prop :=
  ∀ rings,
    ∃ held,
      bytesDelivered direction id accesses (framesOf rings accesses) ++
          held =
        bytesWritten direction id accesses ∧
      (bytesDelivered direction id accesses
          (framesOf rings accesses)).length = count ∧
      Holds bufferSize
        ((accesses.foldl RingAccess.apply rings) direction id)
        (first + count) held

namespace StreamsThrough

variable {first count : Nat} {accesses : List RingAccess}

theorem nil : StreamsThrough direction id first 0 [] :=
  fun _ => ⟨[], rfl, rfl, Holds.nil⟩

/-- An access of another ring. -/
theorem other {access : RingAccess}
    (through : StreamsThrough direction id first count accesses)
    (notOf : ¬ access.IsOf direction id) :
    StreamsThrough direction id first count (accesses ++ [access]) := by
  intro rings
  obtain ⟨held, conserved, counted, holds⟩ := through rings
  have noBytes : bytesWritten direction id [access] = [] := by
    rw [bytesWritten, List.flatMap_singleton, if_neg notOf]
  have noFrame (others : Rings) :
      bytesDelivered direction id [access] (framesOf others [access]) =
        [] := by
    cases access with
    | write =>
        rfl
    | read other asked =>
        change (if _ then _ else _) ++ [] = _
        rw [if_neg notOf]
        rfl
  refine ⟨held, ?_, ?_, ?_⟩
  · rw [bytesDelivered_append, bytesWritten_append, noBytes, noFrame,
      List.append_nil, List.append_nil]
    exact conserved
  · rw [bytesDelivered_append, noFrame, List.append_nil]
    exact counted
  · rw [List.foldl_append]
    refine holds.congr fun position => ?_
    cases access with
    | read =>
        rfl
    | write other stored words =>
        change Rings.write _ other stored direction id position = _
        rw [Rings.write]
        by_cases sameDirection : direction = other
        · rw [← sameDirection, Function.update_self,
            Function.update_of_ne]
          exact fun sameId => notOf ⟨sameDirection.symm, sameId.symm⟩
        · rw [Function.update_of_ne sameDirection]

/-- A write behind what was written. -/
theorem write {stored : SessionWrite} {words : List NetAXISWord}
    (through : StreamsThrough direction id first count accesses)
    (own : stored.id = id)
    (offset :
      stored.offset.toNat =
        (first + (bytesWritten direction id accesses).length) %
          bufferSize)
    (room :
      (bytesWritten direction id accesses).length + stored.bytes.length ≤
        count + bufferSize) :
    StreamsThrough direction id first count
      (accesses ++ [.write direction stored words]) := by
  intro rings
  obtain ⟨held, conserved, counted, holds⟩ := through rings
  have isOf :
      RingAccess.IsOf direction id (.write direction stored words) :=
    ⟨rfl, own⟩
  have more :
      bytesWritten direction id [.write direction stored words] =
        stored.bytes := by
    rw [bytesWritten, List.flatMap_singleton, if_pos isOf]
    rfl
  have noFrame (others : Rings) :
      bytesDelivered direction id [.write direction stored words]
          (framesOf others [.write direction stored words]) =
        [] :=
    rfl
  have lengths := congrArg List.length conserved
  rw [List.length_append, counted] at lengths
  have positions :
      stored.positions =
        segment bufferSize (first + count + held.length)
          stored.bytes.length := by
    rw [SessionWrite.positions, offset, segment_mod, ← lengths,
      Nat.add_assoc]
  refine ⟨held ++ stored.bytes, ?_, ?_, ?_⟩
  · rw [bytesDelivered_append, bytesWritten_append, more, noFrame,
      List.append_nil, ← List.append_assoc, conserved]
  · rw [bytesDelivered_append, noFrame, List.append_nil]
    exact counted
  · rw [List.foldl_append]
    have pushed :=
      @Holds.push _ _ _ _ held stored.bytes holds (by omega)
    rw [← positions] at pushed
    refine pushed.congr fun position => ?_
    change Rings.write _ direction stored direction id position = _
    rw [Rings.write, Function.update_self, ← own, Function.update_self]

/-- A read where the last one ended, of bytes that were written. -/
theorem read {asked : RingRead}
    (through : StreamsThrough direction id first count accesses)
    (own : asked.id = id)
    (offset : asked.offset.toNat = (first + count) % bufferSize)
    (inside :
      count + asked.length.toNat ≤
        (bytesWritten direction id accesses).length) :
    StreamsThrough direction id first (count + asked.length.toNat)
      (accesses ++ [.read direction asked]) := by
  intro rings
  obtain ⟨held, conserved, counted, holds⟩ := through rings
  have isOf : RingAccess.IsOf direction id (.read direction asked) :=
    ⟨rfl, own⟩
  have lengths := congrArg List.length conserved
  rw [List.length_append, counted] at lengths
  have front :
      (held.take asked.length.toNat).length = asked.length.toNat := by
    rw [List.length_take]
    omega
  rw [← List.take_append_drop asked.length.toNat held] at holds conserved
  obtain ⟨taken, left⟩ := holds.pop
  rw [front] at taken left
  have positions :
      asked.positions =
        segment bufferSize (first + count) asked.length.toNat := by
    rw [RingRead.positions, offset, segment_mod]
  have frame :
      bytesDelivered direction id [.read direction asked]
          (framesOf (accesses.foldl RingAccess.apply rings)
            [.read direction asked]) =
        held.take asked.length.toNat := by
    change (if _ then Rings.read _ direction asked else _) ++ [] = _
    rw [if_pos isOf, List.append_nil, Rings.read, positions, own]
    exact taken
  have noBytes :
      bytesWritten direction id [.read direction asked] = [] := by
    rw [bytesWritten, List.flatMap_singleton, if_pos isOf]
    rfl
  refine ⟨held.drop asked.length.toNat, ?_, ?_, ?_⟩
  · rw [bytesDelivered_append, frame, bytesWritten_append, noBytes,
      List.append_nil, List.append_assoc]
    exact conserved
  · rw [bytesDelivered_append, frame, List.length_append, counted, front]
  · rw [List.foldl_append, ← Nat.add_assoc]
    exact left

/-- Accesses of other rings. -/
theorem others {more : List RingAccess}
    (through : StreamsThrough direction id first count accesses)
    (notOf : ∀ access ∈ more, ¬ access.IsOf direction id) :
    StreamsThrough direction id first count (accesses ++ more) := by
  induction more generalizing accesses with
  | nil =>
      rw [List.append_nil]
      exact through
  | cons access rest inductionHypothesis =>
      obtain ⟨notHere, notLater⟩ := List.forall_mem_cons.1 notOf
      have further := inductionHypothesis (through.other notHere) notLater
      rw [List.append_assoc] at further
      exact further

/-- What the processes of a memory deliver of the ring. -/
theorem delivers
    (through : StreamsThrough direction id first count accesses)
    (wellFormed : ∀ access ∈ accesses, access.WellFormed)
    {system final : MemorySystem} {rings : Rings} (ready : system.Ready)
    (represents : Represents system.memory rings)
    {out : List NetAXISWord} {frames : List (List (BitVec 8))}
    (run : AccessRun system accesses out final)
    (isFrames : AxiFrames frames out) :
    bytesDelivered direction id accesses frames =
      (bytesWritten direction id accesses).take count := by
  obtain ⟨sameFrames, -⟩ :=
    (MemorySystem.run_refines ready represents wellFormed).2 out final run
  rw [isFrames.unique NetAXISWord.holds_unique sameFrames]
  obtain ⟨held, conserved, counted, -⟩ := through rings
  rw [← conserved, ← counted, List.take_left]

end StreamsThrough

end Streams

end TcpOffload
