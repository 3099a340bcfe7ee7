import TcpOffload.Library.Process
import TcpOffload.MemoryAccess.SessionRing

/-!
# Realigning the data of a split read

Runs of `ReadDataFromMem`.  The data of an access that stays in the ring is
forwarded as it comes.  For a split access the beats of the first transfer
up to its last one are only stored; the last one is joined with the data of
the second transfer.
-/

namespace TcpOffload

open Clocked
open Framing (IsFrame)

/-- `ReadDataFromMem` finishes an access: it writes one frame of `bytes` and
leaves the tokens and the beats `later`. -/
def Delivers
    (state : ReadDataState) (bytes : List (BitVec 8))
    (later : List NetAXISWord) : Prop :=
  ∃ out final,
    Runs readDataFromMem state out final ∧
    IsAxiFrame bytes out ∧
    final.fsmState = .readAccess ∧
    final.doubleAccess = state.doubleAccess ∧
    final.moverData = later

namespace Delivers

theorem silent
    {state next : ReadDataState} {bytes : List (BitVec 8)}
    {later : List NetAXISWord}
    (called : readDataFromMem state = (next, []))
    (sameQueue : next.doubleAccess = state.doubleAccess)
    (rest : Delivers next bytes later) :
    Delivers state bytes later := by
  obtain ⟨out, final, run, frame, ready, queue, data⟩ := rest
  exact ⟨out, final, Runs.silent called run, frame, ready,
    queue.trans sameQueue, data⟩

/-- A full beat is written and the frame goes on. -/
theorem more
    {state next : ReadDataState} {chunk bytes : List (BitVec 8)}
    {word : NetAXISWord} {later : List NetAXISWord}
    (called : readDataFromMem state = (next, [word]))
    (sameQueue : next.doubleAccess = state.doubleAccess)
    (holds : word.Holds chunk)
    (full : chunk.length = 64)
    (notLast : word.last = false)
    (rest : Delivers next bytes later) :
    Delivers state (chunk ++ bytes) later := by
  obtain ⟨out, final, run, frame, ready, queue, data⟩ := rest
  exact ⟨word :: out, final, Runs.head called run,
    IsFrame.more holds full notLast frame, ready,
    queue.trans sameQueue, data⟩

/-- The final beat is written. -/
theorem final
    {state next : ReadDataState} {bytes : List (BitVec 8)}
    {word : NetAXISWord} {later : List NetAXISWord}
    (called : readDataFromMem state = (next, [word]))
    (ready : next.fsmState = .readAccess)
    (sameQueue : next.doubleAccess = state.doubleAccess)
    (data : next.moverData = later)
    (holds : word.Holds bytes)
    (nonempty : bytes ≠ [])
    (isLast : word.last = true) :
    Delivers state bytes later :=
  ⟨[word], next, Runs.head called (Runs.refl next),
    IsFrame.final holds nonempty holds.fits isLast, ready, sameQueue, data⟩

end Delivers

/-! ## Data that is forwarded as it comes -/

theorem readDataFromMem_forward
    {state : ReadDataState} {cur : NetAXISWord}
    {later : List NetAXISWord}
    (forwarding :
      state.fsmState = .noBreakdown ∨
        state.fsmState = .breakdownAligned)
    (queued : state.moverData = cur :: later) :
    readDataFromMem state =
      ({ state with
          fsmState := if cur.last then .readAccess else state.fsmState
          moverData := later },
        [cur]) := by
  rcases forwarding with whole | aligned
  · simp only [readDataFromMem, whole, queued]
  · simp only [readDataFromMem, aligned, queued]

theorem readDataFromMem_delivers_forward
    {state : ReadDataState} {bytes : List (BitVec 8)}
    {beats later : List NetAXISWord}
    (frame : IsAxiFrame bytes beats)
    (forwarding :
      state.fsmState = .noBreakdown ∨
        state.fsmState = .breakdownAligned)
    (queued : state.moverData = beats ++ later) :
    Delivers state bytes later := by
  induction frame generalizing state with
  | final holds nonempty _ isLast =>
      have call := readDataFromMem_forward forwarding queued
      refine Delivers.final call ?_ rfl rfl holds nonempty isLast
      simp only [isLast, if_true]
  | more holds full notLast _ inductionHypothesis =>
      have call := readDataFromMem_forward forwarding queued
      refine Delivers.more call rfl holds full notLast
        (inductionHypothesis ?_ rfl)
      simpa only [notLast, Bool.false_eq_true, if_false] using forwarding

/-! ## Data behind an unaligned first transfer -/

/-- The bytes `pending` of the stored beat still have to be written: all of
it after the first transfer, and later the lanes from `offsetBlock1` on. -/
structure Pending
    (state : ReadDataState) (pending : List (BitVec 8)) : Prop where
  unaligned : state.offsetBlock0 ≠ 0
  offsets : state.offsetBlock1 = BitVec.ofNat 6 64 - state.offsetBlock0
  length : pending.length = state.offsetBlock0.toNat
  stored :
    (state.fsmState = .firstMerge ∧
        state.prevBeatWord.Holds pending) ∨
      ∃ chunk,
        state.fsmState = .breakdownBlock1 ∧
        state.prevBeatWord.Holds chunk ∧
        chunk.length = 64 ∧
        chunk.drop state.offsetBlock1.toNat = pending

theorem offsetBlock1_toNat
    {offsetBlock0 offsetBlock1 : BitVec 6}
    (unaligned : offsetBlock0 ≠ 0)
    (offsets : offsetBlock1 = BitVec.ofNat 6 64 - offsetBlock0) :
    offsetBlock1.toNat = 64 - offsetBlock0.toNat ∧
      0 < offsetBlock0.toNat := by
  have bound := offsetBlock0.isLt
  have positive : 0 < offsetBlock0.toNat := by
    refine Nat.pos_of_ne_zero fun zero => unaligned ?_
    exact BitVec.eq_of_toNat_eq zero
  refine ⟨?_, positive⟩
  rw [offsets, BitVec.toNat_sub, BitVec.toNat_ofNat]
  omega

/-- One beat behind the stored one: the joined beat starts with the pending
bytes. -/
theorem readDataFromMem_join
    {state : ReadDataState} {pending chunk : List (BitVec 8)}
    {cur : NetAXISWord} {later : List NetAXISWord}
    (waiting : Pending state pending)
    (holds : cur.Holds chunk)
    (queued : state.moverData = cur :: later) :
    ∃ joined : NetAXISWord,
      readDataFromMem state =
        ({ state with
            fsmState :=
              if cur.last then
                if cur.keep.getLsbD state.offsetBlock1.toNat then
                  .extraData
                else
                  .readAccess
              else
                .breakdownBlock1
            prevBeatWord := cur
            moverData := later },
          [{ joined with
            last :=
              cur.last &&
                !cur.keep.getLsbD state.offsetBlock1.toNat }]) ∧
      joined.Holds (pending ++ chunk.take state.offsetBlock1.toNat) := by
  obtain ⟨offset1, positive⟩ :=
    offsetBlock1_toNat waiting.unaligned waiting.offsets
  have pendingLength := waiting.length
  rcases waiting.stored with
    ⟨merging, pendingHolds⟩ | ⟨stored, joining, storedHolds, full, rest⟩
  · have joinedHolds :
        (mergeTwoWordsHead cur state.prevBeatWord state.offsetBlock0
          NetAXISWord.empty).Holds ((pending ++ chunk).take 64) :=
      NetAXISWord.holds_merge waiting.unaligned pendingLength
        pendingHolds holds
    refine ⟨mergeTwoWordsHead cur state.prevBeatWord state.offsetBlock0
      NetAXISWord.empty, ?_, ?_⟩
    · simp only [readDataFromMem, merging, queued]
    · rwa [List.take_append, List.take_of_length_le (by omega),
        pendingLength, ← offset1] at joinedHolds
  · have shifted : state.offsetBlock1 ≠ 0 := by
      intro zero
      rw [zero] at offset1
      have bound := state.offsetBlock0.isLt
      simp only [BitVec.toNat_ofNat, BitVec.ofNat_eq_ofNat] at offset1
      omega
    have joinedHolds :
        (concatTwoWords cur state.prevBeatWord state.offsetBlock1
          NetAXISWord.empty).Holds
            (stored.drop state.offsetBlock1.toNat ++
              chunk.take state.offsetBlock1.toNat) :=
      NetAXISWord.holds_concat shifted storedHolds holds (Or.inl full)
    refine ⟨concatTwoWords cur state.prevBeatWord state.offsetBlock1
      NetAXISWord.empty, ?_, ?_⟩
    · simp only [readDataFromMem, joining, queued]
    · rwa [rest] at joinedHolds

/-- The bytes of the final beat that did not fit into the joined one. -/
theorem readDataFromMem_delivers_extra
    {state : ReadDataState} {chunk : List (BitVec 8)}
    {later : List NetAXISWord}
    (extra : state.fsmState = .extraData)
    (shifted : state.offsetBlock1 ≠ 0)
    (holds : state.prevBeatWord.Holds chunk)
    (left : state.offsetBlock1.toNat < chunk.length)
    (queued : state.moverData = later) :
    Delivers state (chunk.drop state.offsetBlock1.toNat) later := by
  have joinedHolds :
      (concatTwoWords NetAXISWord.empty state.prevBeatWord
        state.offsetBlock1 NetAXISWord.empty).Holds
          (chunk.drop state.offsetBlock1.toNat ++
            ([] : List (BitVec 8)).take state.offsetBlock1.toNat) :=
    NetAXISWord.holds_concat shifted holds NetAXISWord.holds_empty
      (Or.inr rfl)
  rw [List.take_nil, List.append_nil] at joinedHolds
  have call :
      readDataFromMem state =
        ({ state with fsmState := .readAccess },
          [{ concatTwoWords NetAXISWord.empty state.prevBeatWord
              state.offsetBlock1 NetAXISWord.empty with
            last := true }]) := by
    simp only [readDataFromMem, extra]
  refine Delivers.final call rfl rfl queued
    (joinedHolds.congr rfl rfl) ?_ rfl
  intro empty
  have noneLeft := congrArg List.length empty
  rw [List.length_drop, List.length_nil] at noneLeft
  omega

theorem Pending.offsetBlock1_toNat
    {state : ReadDataState} {pending : List (BitVec 8)}
    (waiting : Pending state pending) :
    state.offsetBlock1.toNat + pending.length = 64 ∧
      0 < pending.length ∧ state.offsetBlock1 ≠ 0 := by
  have bound := state.offsetBlock0.isLt
  obtain ⟨offset1, positive⟩ :=
    TcpOffload.offsetBlock1_toNat waiting.unaligned waiting.offsets
  rw [← waiting.length] at offset1 positive bound
  refine ⟨by omega, positive, fun zero => ?_⟩
  have zeroNat := congrArg BitVec.toNat zero
  rw [offset1] at zeroNat
  simp only [BitVec.toNat_ofNat, BitVec.ofNat_eq_ofNat] at zeroNat
  omega

/-- The data of the second transfer is written behind the pending bytes. -/
theorem readDataFromMem_delivers_joined
    {state : ReadDataState} {pending bytes : List (BitVec 8)}
    {beats later : List NetAXISWord}
    (frame : IsAxiFrame bytes beats)
    (waiting : Pending state pending)
    (queued : state.moverData = beats ++ later) :
    Delivers state (pending ++ bytes) later := by
  obtain ⟨offset1, positive, shifted⟩ := waiting.offsetBlock1_toNat
  induction frame generalizing state pending with
  | @final bytes cur holds nonempty short isLast =>
      obtain ⟨joined, call, joinedHolds⟩ :=
        readDataFromMem_join waiting holds queued
      have extraBit := holds.keep state.offsetBlock1.toNat (by omega)
      by_cases fits : bytes.length ≤ state.offsetBlock1.toNat
      · rw [List.take_of_length_le fits] at joinedHolds
        have noExtra :
            cur.keep.getLsbD state.offsetBlock1.toNat = false := by
          rw [extraBit]
          exact decide_eq_false (Nat.not_lt.2 fits)
        refine Delivers.final call ?_ rfl rfl
          (joinedHolds.congr rfl rfl) (by simp [nonempty]) ?_
        · simp only [isLast, noExtra, Bool.false_eq_true, if_true,
            if_false]
        · simp only [isLast, noExtra, Bool.not_false, Bool.and_true]
      · have left : state.offsetBlock1.toNat < bytes.length := by
          omega
        have extra :
            cur.keep.getLsbD state.offsetBlock1.toNat = true := by
          rw [extraBit]
          exact decide_eq_true left
        have split :
            pending ++ bytes =
              (pending ++ bytes.take state.offsetBlock1.toNat) ++
                bytes.drop state.offsetBlock1.toNat := by
          rw [List.append_assoc, List.take_append_drop]
        rw [split]
        refine Delivers.more call rfl (joinedHolds.congr rfl rfl) ?_ ?_
          (readDataFromMem_delivers_extra ?_ shifted holds left rfl)
        · rw [List.length_append, List.length_take]
          omega
        · simp only [isLast, extra, Bool.not_true, Bool.and_false]
        · simp only [isLast, extra, if_true]
  | @more chunk bytes cur beats holds full notLast _ inductionHypothesis =>
      obtain ⟨joined, call, joinedHolds⟩ :=
        readDataFromMem_join waiting holds queued
      have restLength :
          (chunk.drop state.offsetBlock1.toNat).length =
            pending.length := by
        rw [List.length_drop]
        omega
      have split :
          pending ++ (chunk ++ bytes) =
            (pending ++ chunk.take state.offsetBlock1.toNat) ++
              (chunk.drop state.offsetBlock1.toNat ++ bytes) := by
        simp only [List.append_assoc]
        rw [← List.append_assoc (List.take _ _), List.take_append_drop]
      rw [split]
      refine Delivers.more call rfl (joinedHolds.congr rfl rfl) ?_ ?_
        (inductionHypothesis ⟨waiting.unaligned, waiting.offsets, ?_, ?_⟩
          rfl ?_ ?_ shifted)
      · rw [List.length_append, List.length_take]
        omega
      · simp only [notLast, Bool.false_and]
      · rw [restLength, waiting.length]
      · refine Or.inr ⟨chunk, ?_, holds, full, rfl⟩
        simp only [notLast, Bool.false_eq_true, if_false]
      · rw [restLength]
        exact offset1
      · rw [restLength]
        exact positive

/-! ## The first transfer of a split access -/

theorem readDataFromMem_store
    {state : ReadDataState} {cur : NetAXISWord}
    {later : List NetAXISWord}
    (breaking : state.fsmState = .breakdownBlock0)
    (notLast : cur.last = false)
    (queued : state.moverData = cur :: later) :
    readDataFromMem state =
      ({ state with prevBeatWord := cur, moverData := later }, []) := by
  simp only [readDataFromMem, breaking, queued, notLast,
    Bool.false_eq_true, if_false]

theorem readDataFromMem_last_aligned
    {state : ReadDataState} {cur : NetAXISWord}
    {later : List NetAXISWord}
    (breaking : state.fsmState = .breakdownBlock0)
    (isLast : cur.last = true)
    (aligned : state.offsetBlock0 = 0)
    (queued : state.moverData = cur :: later) :
    readDataFromMem state =
      ({ state with
          fsmState := .breakdownAligned
          prevBeatWord := cur
          moverData := later },
        [{ NetAXISWord.empty with data := cur.data, keep := cur.keep }]) := by
  simp only [readDataFromMem, breaking, queued, isLast, aligned, if_true]

theorem readDataFromMem_last_unaligned
    {state : ReadDataState} {cur : NetAXISWord}
    {later : List NetAXISWord}
    (breaking : state.fsmState = .breakdownBlock0)
    (isLast : cur.last = true)
    (unaligned : state.offsetBlock0 ≠ 0)
    (queued : state.moverData = cur :: later) :
    readDataFromMem state =
      ({ state with
          fsmState := .firstMerge
          prevBeatWord := cur
          moverData := later },
        []) := by
  simp only [readDataFromMem, breaking, queued, isLast, if_true,
    if_neg unaligned]

/-- Of the first transfer only the final beat is written. -/
theorem readDataFromMem_delivers_split
    {state : ReadDataState} {firstBytes secondBytes : List (BitVec 8)}
    {first second later : List NetAXISWord}
    (firstFrame : IsAxiFrame firstBytes first)
    (secondFrame : IsAxiFrame secondBytes second)
    (breaking : state.fsmState = .breakdownBlock0)
    (offset0 : state.offsetBlock0 = BitVec.ofNat 6 firstBytes.length)
    (offsets : state.offsetBlock1 = BitVec.ofNat 6 64 - state.offsetBlock0)
    (queued : state.moverData = first ++ (second ++ later)) :
    Delivers state (Framing.lastChunk 64 firstBytes ++ secondBytes)
      later := by
  induction firstFrame generalizing state with
  | @final bytes cur holds nonempty short isLast =>
      have positive := List.length_pos_of_ne_nil nonempty
      have offsetNat : state.offsetBlock0.toNat = bytes.length % 64 := by
        rw [offset0, BitVec.toNat_ofNat]
      rw [Framing.lastChunk_of_short nonempty short]
      by_cases aligned : state.offsetBlock0 = 0
      · have call :=
          readDataFromMem_last_aligned breaking isLast aligned queued
        have full : bytes.length = 64 := by
          rw [aligned] at offsetNat
          simp only [BitVec.toNat_ofNat, BitVec.ofNat_eq_ofNat]
            at offsetNat
          omega
        exact Delivers.more call rfl (holds.congr rfl rfl) full rfl
          (readDataFromMem_delivers_forward secondFrame (Or.inr rfl) rfl)
      · have call :=
          readDataFromMem_last_unaligned breaking isLast aligned queued
        have offsetPositive :=
          (offsetBlock1_toNat aligned offsets).2
        have waiting :
            Pending (readDataFromMem state).1 bytes := by
          rw [call]
          refine ⟨aligned, offsets, ?_, Or.inl ⟨rfl, holds⟩⟩
          change bytes.length = state.offsetBlock0.toNat
          omega
        rw [call] at waiting
        exact Delivers.silent call rfl
          (readDataFromMem_delivers_joined secondFrame waiting rfl)
  | @more chunk bytes cur beats holds full notLast rest
      inductionHypothesis =>
      have call := readDataFromMem_store breaking notLast queued
      have sameOffset :
          BitVec.ofNat 6 (chunk ++ bytes).length =
            BitVec.ofNat 6 bytes.length := by
        apply BitVec.eq_of_toNat_eq
        rw [BitVec.toNat_ofNat, BitVec.toNat_ofNat, List.length_append,
          full]
        omega
      rw [Framing.lastChunk_append full (by decide) rest.bytes_ne_nil]
      exact Delivers.silent call rfl
        (inductionHypothesis breaking (offset0.trans sameOffset) offsets
          rfl)

end TcpOffload
