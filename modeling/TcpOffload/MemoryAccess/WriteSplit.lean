import TcpOffload.Library.Process
import TcpOffload.MemoryAccess.SessionRing
import TcpOffload.Realign

/-!
# The write splitter

`WriteDataToMem` sends the first DataMover command of a queued command when
it reads it and the second one while it forwards the beat that completes the
first transfer.  That beat is cut, and what is behind the cut is realigned.
-/

namespace TcpOffload

open Clocked
open Framing (Delimited)

/-! ## `WriteDataToMem` -/

def WriteDataMsg.moverCmd : WriteDataMsg → Option DataMoverCmd
  | .moverWriteCmd cmd => some cmd
  | .doubleAccessFlag _ => none
  | .moverWriteData _ => none

def moverWriteCmds (msgs : List WriteDataMsg) : List DataMoverCmd :=
  msgs.filterMap WriteDataMsg.moverCmd

def WriteDataMsg.moverWord : WriteDataMsg → Option NetAXISWord
  | .moverWriteData word => some word
  | .doubleAccessFlag _ => none
  | .moverWriteCmd _ => none

def moverWriteWords (msgs : List WriteDataMsg) : List NetAXISWord :=
  msgs.filterMap WriteDataMsg.moverWord

/-- The beats of the first transfer of a split access. -/
def MemBufferRWCmd.firstBeats (cmd : MemBufferRWCmd) : Nat :=
  (cmd.firstBlock + 63) / 64

/-- The registers between reading a split command and sending its second
DataMover command, with `remaining` beats to forward before that. -/
structure WritingFirst
    (state : WriteDataState) (cmd : MemBufferRWCmd)
    (remaining : Nat) : Prop where
  fsmState : state.fsmState = .fwdBreakdown0
  innerCmd : state.innerCmd = cmd
  firstCmdBbt : state.firstCmdBbt = BitVec.ofNat 23 cmd.firstBlock
  dataMverCmd : state.dataMverCmd = cmd.firstCommand
  transBeats :
    state.firstCmdTransBeats =
      state.firstCmdTransBeatsCnt + BitVec.ofNat 10 remaining
  remainingBound : remaining < 1024

theorem writeDataToMem_whole
    {state : WriteDataState} {cmd : MemBufferRWCmd}
    {later : List MemBufferRWCmd}
    (waiting : state.fsmState = .waitCmd)
    (queued : state.memWriteCmd = cmd :: later)
    (inside : cmd.overflows = false) :
    writeDataToMem state =
      ({ state with
          fsmState := .fwdNoBreakdown
          innerCmd := cmd
          dataMverCmd := cmd.wholeCommand
          memWriteCmd := later },
        [.doubleAccessFlag false, .moverWriteCmd cmd.wholeCommand]) := by
  simp [writeDataToMem, waiting, queued, inside,
    MemBufferRWCmd.wholeCommand]

/-- The beat count of the first transfer, as the source rounds it up. -/
theorem firstBeats_rounded
    {block : Nat} (blockBound : block ≤ bufferSize) :
    (if (BitVec.ofNat 23 block).setWidth 6 ≠ 0 then
        ((BitVec.ofNat 23 block).extractLsb' 6 12).setWidth 10 +
          (1 : BitVec 10)
      else
        ((BitVec.ofNat 23 block).extractLsb' 6 12).setWidth 10) =
      BitVec.ofNat 10 ((block + 63) / 64) := by
  have small : block % 2 ^ 23 = block := by
    rw [bufferSize_eq] at blockBound
    omega
  have lowBits :
      (BitVec.ofNat 23 block).setWidth 6 = 0 ↔ block % 64 = 0 := by
    rw [← BitVec.toNat_inj]
    simp only [BitVec.toNat_setWidth, BitVec.toNat_ofNat, small]
    exact Iff.rfl
  apply BitVec.eq_of_toNat_eq
  by_cases aligned : block % 64 = 0
  · rw [if_neg (not_not_intro (lowBits.2 aligned))]
    simp only [BitVec.toNat_setWidth, BitVec.extractLsb'_toNat,
      BitVec.toNat_ofNat, small, Nat.shiftRight_eq_div_pow]
    omega
  · rw [if_pos (fun low => aligned (lowBits.1 low))]
    simp only [BitVec.toNat_add, BitVec.toNat_setWidth,
      BitVec.extractLsb'_toNat, BitVec.toNat_ofNat, small,
      Nat.shiftRight_eq_div_pow]
    rw [show (1 : BitVec 10).toNat = 1 from rfl]
    omega

theorem writeDataToMem_first
    {state : WriteDataState} {cmd : MemBufferRWCmd}
    {later : List MemBufferRWCmd}
    (waiting : state.fsmState = .waitCmd)
    (queued : state.memWriteCmd = cmd :: later)
    (overflows : cmd.overflows = true) :
    writeDataToMem state =
      ({ state with
          fsmState := .fwdBreakdown0
          firstCmdBbt := BitVec.ofNat 23 cmd.firstBlock
          byteOffset := BitVec.ofNat 6 cmd.firstBlock
          firstCmdLastBeatKeep :=
            dataLengthToAxisKeep (BitVec.ofNat 6 cmd.firstBlock)
          firstCmdTransBeats := BitVec.ofNat 10 cmd.firstBeats
          firstCmdTransBeatsCnt := 1
          innerCmd := cmd
          dataMverCmd := cmd.firstCommand
          memWriteCmd := later },
        [.doubleAccessFlag true, .moverWriteCmd cmd.firstCommand]) := by
  have offset :
      (BitVec.ofNat 23 cmd.firstBlock).setWidth 6 =
        BitVec.ofNat 6 cmd.firstBlock :=
    BitVec.setWidth_ofNat_of_le (by decide) _
  have rounded := firstBeats_rounded cmd.firstBlock_le
  rw [offset] at rounded
  simp only [writeDataToMem, waiting, queued, overflows, if_true,
    cmd.bufferSize_sub_offset, offset, rounded,
    MemBufferRWCmd.firstCommand, MemBufferRWCmd.firstBeats,
    DataMoverCmd.ofAddr]

/-- The command register of the writer keeps the upper address bits; the
second command starts where the reader's does. -/
theorem secondAddress (addr : BitVec 32) (length : BitVec 23) :
    ((DataMoverCmd.ofAddr addr length).saddr.extractLsb' 32 8 ++
        addr.extractLsb' 18 14) ++ (0 : BitVec 18) =
      (DataMoverCmd.ofAddr
        (addr.extractLsb' 18 14 ++ (0 : BitVec 18)) length).saddr := by
  rw [DataMoverCmd.ofAddr_saddr, DataMoverCmd.ofAddr_saddr,
    BitVec.extractLsb'_append_eq_left, BitVec.append_assoc]
  rfl

theorem writeDataToMem_second
    {state : WriteDataState} {cmd : MemBufferRWCmd}
    {cur : NetAXISWord} {later : List NetAXISWord}
    (first : WritingFirst state cmd 0)
    (fits : cmd.firstBlock ≤ cmd.length.toNat)
    (queued : state.memWriteData = cur :: later) :
    writeDataToMem state =
      ({ state with
          fsmState := if cur.last then .fwdExtra else .fwdBreakdown1
          firstCmdTransBeatsCnt := state.firstCmdTransBeatsCnt + 1
          dataMverCmd := cmd.secondCommand
          prevBeatWord := cur
          memWriteData := later },
        [.moverWriteCmd cmd.secondCommand,
          .moverWriteData
            { NetAXISWord.empty with
              data := cur.data
              keep := state.firstCmdLastBeatKeep
              last := true }]) := by
  have lastBeat :
      state.firstCmdTransBeatsCnt = state.firstCmdTransBeats := by
    rw [first.transBeats]
    simp
  have second :
      (⟨cmd.length.setWidth 23 - BitVec.ofNat 23 cmd.firstBlock,
        (cmd.firstCommand.saddr.extractLsb' 32 8 ++
          cmd.addr.extractLsb' 18 14) ++
            (0 : BitVec 18)⟩ : DataMoverCmd) =
        cmd.secondCommand := by
    rw [MemBufferRWCmd.firstCommand, secondAddress,
      cmd.secondBlock_length fits]
    rfl
  simp only [writeDataToMem, first.fsmState, queued, if_pos lastBeat,
    first.innerCmd, first.firstCmdBbt, first.dataMverCmd, second]

theorem writeDataToMem_forward
    {state : WriteDataState} {cmd : MemBufferRWCmd} {remaining : Nat}
    {cur : NetAXISWord} {later : List NetAXISWord}
    (first : WritingFirst state cmd (remaining + 1))
    (queued : state.memWriteData = cur :: later) :
    writeDataToMem state =
      ({ state with
          firstCmdTransBeatsCnt := state.firstCmdTransBeatsCnt + 1
          prevBeatWord := cur
          memWriteData := later },
        [.moverWriteData cur]) := by
  have bound := first.remainingBound
  have notLastBeat :
      state.firstCmdTransBeatsCnt ≠ state.firstCmdTransBeats := by
    rw [first.transBeats]
    intro same
    have zero := BitVec.self_eq_add_right.1 same
    have zeroNat := congrArg BitVec.toNat zero
    simp only [BitVec.toNat_ofNat] at zeroNat
    omega
  simp only [writeDataToMem, first.fsmState, queued, if_neg notLastBeat]

theorem WritingFirst.next
    {state next : WriteDataState} {cmd : MemBufferRWCmd} {remaining : Nat}
    (first : WritingFirst state cmd (remaining + 1))
    (sameState : next.fsmState = state.fsmState)
    (sameCmd : next.innerCmd = state.innerCmd)
    (sameBlock : next.firstCmdBbt = state.firstCmdBbt)
    (sameMover : next.dataMverCmd = state.dataMverCmd)
    (sameBeats : next.firstCmdTransBeats = state.firstCmdTransBeats)
    (counted :
      next.firstCmdTransBeatsCnt = state.firstCmdTransBeatsCnt + 1) :
    WritingFirst next cmd remaining where
  fsmState := sameState.trans first.fsmState
  innerCmd := sameCmd.trans first.innerCmd
  firstCmdBbt := sameBlock.trans first.firstCmdBbt
  dataMverCmd := sameMover.trans first.dataMverCmd
  transBeats := by
    rw [sameBeats, counted, first.transBeats, BitVec.add_assoc,
      BitVec.add_comm 1, BitVec.ofNat_add]
    rfl
  remainingBound := Nat.lt_of_succ_lt first.remainingBound

/-- From `state` the writer sends the DataMover commands `cmds` and the beats
`words`, and then waits for its next command, with the queue of commands
untouched and the payload beats `later` left. -/
def Serves
    (state : WriteDataState) (cmds : List DataMoverCmd)
    (words later : List NetAXISWord) : Prop :=
  ∃ msgs final,
    Runs writeDataToMem state msgs final ∧
    moverWriteCmds msgs = cmds ∧
    moverWriteWords msgs = words ∧
    final.fsmState = .waitCmd ∧
    final.memWriteCmd = state.memWriteCmd ∧
    final.memWriteData = later

theorem Serves.done
    {state : WriteDataState} {later : List NetAXISWord}
    (waiting : state.fsmState = .waitCmd)
    (queued : state.memWriteData = later) :
    Serves state [] [] later :=
  ⟨[], state, Runs.refl _, rfl, rfl, waiting, rfl, queued⟩

theorem Serves.head
    {state next : WriteDataState} {first : List WriteDataMsg}
    {cmds : List DataMoverCmd} {words later : List NetAXISWord}
    (called : writeDataToMem state = (next, first))
    (sameQueue : next.memWriteCmd = state.memWriteCmd)
    (rest : Serves next cmds words later) :
    Serves state (moverWriteCmds first ++ cmds)
      (moverWriteWords first ++ words) later := by
  obtain ⟨msgs, final, run, commands, sent, waiting, queue, data⟩ := rest
  refine ⟨first ++ msgs, final, Runs.head called run, ?_, ?_, waiting,
    queue.trans sameQueue, data⟩
  · rw [moverWriteCmds, List.filterMap_append, ← commands]
    rfl
  · rw [moverWriteWords, List.filterMap_append, ← sent]
    rfl

theorem writeDataToMem_noBreakdown
    {state : WriteDataState} {cur : NetAXISWord}
    {later : List NetAXISWord}
    (forwarding : state.fsmState = .fwdNoBreakdown)
    (queued : state.memWriteData = cur :: later) :
    writeDataToMem state =
      ({ state with
          fsmState := if cur.last then .waitCmd else .fwdNoBreakdown
          memWriteData := later },
        [.moverWriteData cur]) := by
  simp only [writeDataToMem, forwarding, queued]

/-- Bytes of the final beat do not fit behind the rest of the one before. -/
def NetAXISWord.leavesExtra
    (word : NetAXISWord) (byteOffset : BitVec 6) : Bool :=
  word.keep.getLsbD byteOffset.toNat && decide (byteOffset ≠ 0)

/-- What is left of `prevWord` behind the cut, followed by `curWord`. -/
def behindCut
    (byteOffset : BitVec 6) (prevWord curWord : NetAXISWord) :
    NetAXISWord :=
  concatTwoWords curWord prevWord byteOffset NetAXISWord.empty

/-- The beats of the second transfer, once `prevWord` is held. -/
def restWords (byteOffset : BitVec 6) :
    NetAXISWord → List NetAXISWord → List NetAXISWord
  | prevWord, [] =>
      [(behindCut byteOffset prevWord NetAXISWord.empty).withLast true]
  | prevWord, curWord :: words =>
      if curWord.last && !curWord.leavesExtra byteOffset then
        [(behindCut byteOffset prevWord curWord).withLast true]
      else
        (behindCut byteOffset prevWord curWord).withLast false ::
          restWords byteOffset curWord words

/-- The beats of a split access: the first transfer ends in the beat behind
`remaining` others. -/
def cutWords (lastKeep : BitVec 64) (byteOffset : BitVec 6) :
    Nat → List NetAXISWord → List NetAXISWord
  | _, [] => []
  | 0, curWord :: words =>
      { NetAXISWord.empty with
        data := curWord.data
        keep := lastKeep
        last := true } ::
        restWords byteOffset curWord words
  | remaining + 1, curWord :: words =>
      curWord :: cutWords lastKeep byteOffset remaining words

theorem writeDataToMem_breakdown1
    {state : WriteDataState} {cur : NetAXISWord}
    {later : List NetAXISWord}
    (forwarding : state.fsmState = .fwdBreakdown1)
    (queued : state.memWriteData = cur :: later) :
    writeDataToMem state =
      ({ state with
          fsmState :=
            if cur.last then
              if cur.leavesExtra state.byteOffset then
                .fwdExtra
              else
                .waitCmd
            else
              .fwdBreakdown1
          prevBeatWord := cur
          memWriteData := later },
        [.moverWriteData
          { concatTwoWords cur state.prevBeatWord state.byteOffset
              NetAXISWord.empty with
            last := cur.last && !cur.leavesExtra state.byteOffset }]) := by
  simp only [writeDataToMem, forwarding, queued, NetAXISWord.leavesExtra]
  rfl

theorem writeDataToMem_extra
    {state : WriteDataState} (extra : state.fsmState = .fwdExtra) :
    writeDataToMem state =
      ({ state with fsmState := .waitCmd },
        [.moverWriteData
          { concatTwoWords NetAXISWord.empty state.prevBeatWord
              state.byteOffset NetAXISWord.empty with
            last := true }]) := by
  simp only [writeDataToMem, extra]

theorem Serves.extra
    {state : WriteDataState} {later : List NetAXISWord}
    (extra : state.fsmState = .fwdExtra)
    (queued : state.memWriteData = later) :
    Serves state [] (restWords state.byteOffset state.prevBeatWord [])
      later :=
  Serves.head (writeDataToMem_extra extra) rfl (Serves.done rfl queued)

/-- An access that is not split is forwarded. -/
theorem Serves.forward
    {state : WriteDataState} {beats later : List NetAXISWord}
    (frame : Delimited NetAXISWord.last beats)
    (forwarding : state.fsmState = .fwdNoBreakdown)
    (queued : state.memWriteData = beats ++ later) :
    Serves state [] beats later := by
  induction frame generalizing state with
  | @final beat raised =>
      have call := writeDataToMem_noBreakdown forwarding queued
      refine Serves.head call rfl (Serves.done ?_ rfl)
      simp only [raised, if_true]
  | @more beat beats notRaised _ inductionHypothesis =>
      have call := writeDataToMem_noBreakdown forwarding queued
      refine Serves.head call rfl (inductionHypothesis ?_ rfl)
      simp only [notRaised, Bool.false_eq_true, if_false]

/-- The rest of a split access: no more command, up to its final beat. -/
theorem Serves.rest
    {state : WriteDataState} {beats later : List NetAXISWord}
    (frame : Delimited NetAXISWord.last beats)
    (forwarding : state.fsmState = .fwdBreakdown1)
    (queued : state.memWriteData = beats ++ later) :
    Serves state []
      (restWords state.byteOffset state.prevBeatWord beats) later := by
  induction frame generalizing state with
  | @final beat raised =>
      have call := writeDataToMem_breakdown1 forwarding queued
      rw [restWords, raised, Bool.true_and]
      by_cases extra : beat.leavesExtra state.byteOffset = true
      · rw [raised, extra] at call
        rw [extra]
        exact Serves.head call rfl (Serves.extra rfl rfl)
      · have ended := Bool.eq_false_iff.2 extra
        rw [raised, ended] at call
        rw [ended]
        exact Serves.head call rfl (Serves.done rfl rfl)
  | @more beat beats notRaised _ inductionHypothesis =>
      have call := writeDataToMem_breakdown1 forwarding queued
      rw [restWords, notRaised, Bool.false_and]
      rw [notRaised] at call
      refine Serves.head call rfl (inductionHypothesis ?_ rfl)
      rfl

/-- The first transfer of a split access, up to and including the beat that
completes it, and then the rest. -/
theorem Serves.first
    {state : WriteDataState} {cmd : MemBufferRWCmd} {remaining : Nat}
    {beats later : List NetAXISWord}
    (first : WritingFirst state cmd remaining)
    (fits : cmd.firstBlock ≤ cmd.length.toNat)
    (frame : Delimited NetAXISWord.last beats)
    (enough : remaining < beats.length)
    (queued : state.memWriteData = beats ++ later) :
    Serves state [cmd.secondCommand]
      (cutWords state.firstCmdLastBeatKeep state.byteOffset remaining
        beats)
      later := by
  induction frame generalizing state remaining with
  | @final beat raised =>
      have noneLeft : remaining = 0 := by
        simpa using enough
      subst noneLeft
      have call := writeDataToMem_second first fits queued
      rw [raised] at call
      exact Serves.head call rfl (Serves.extra rfl rfl)
  | @more beat beats notRaised rest inductionHypothesis =>
      cases remaining with
      | zero =>
          have call := writeDataToMem_second first fits queued
          rw [notRaised] at call
          exact Serves.head call rfl (Serves.rest rest rfl rfl)
      | succ remaining =>
          have call := writeDataToMem_forward first queued
          have next :
              WritingFirst (writeDataToMem state).1 cmd remaining := by
            rw [call]
            exact first.next rfl rfl rfl rfl rfl rfl
          rw [call] at next
          refine Serves.head call rfl (inductionHypothesis next ?_ rfl)
          simpa using enough

theorem WritingFirst.start
    {state : WriteDataState} {cmd : MemBufferRWCmd}
    {later : List MemBufferRWCmd}
    (waiting : state.fsmState = .waitCmd)
    (queued : state.memWriteCmd = cmd :: later)
    (overflows : cmd.overflows = true)
    (fits : cmd.firstBlock ≤ cmd.length.toNat) :
    WritingFirst (writeDataToMem state).1 cmd (cmd.firstBeats - 1) := by
  have lengthBound := cmd.length.isLt
  have positive := cmd.firstBlock_pos
  have oneMore : 1 + (cmd.firstBeats - 1) = cmd.firstBeats := by
    simp only [MemBufferRWCmd.firstBeats]
    omega
  have beats :
      BitVec.ofNat 10 cmd.firstBeats =
        1 + BitVec.ofNat 10 (cmd.firstBeats - 1) :=
    (congrArg (BitVec.ofNat 10) oneMore.symm).trans
      (BitVec.ofNat_add 1 (cmd.firstBeats - 1))
  rw [writeDataToMem_first waiting queued overflows]
  refine ⟨rfl, rfl, rfl, rfl, beats, ?_⟩
  simp only [MemBufferRWCmd.firstBeats]
  omega

/-- The beats written for a command with the payload `beats`. -/
def MemBufferRWCmd.writtenWords
    (cmd : MemBufferRWCmd) (beats : List NetAXISWord) :
    List NetAXISWord :=
  if cmd.overflows then
    cutWords (dataLengthToAxisKeep (BitVec.ofNat 6 cmd.firstBlock))
      (BitVec.ofNat 6 cmd.firstBlock) (cmd.firstBeats - 1) beats
  else
    beats

/-- One internal command with its payload, from the queues to the outputs. -/
theorem writeDataToMem_words
    {state : WriteDataState} {cmd : MemBufferRWCmd}
    {laterCmds : List MemBufferRWCmd} {bytes : List (BitVec 8)}
    {beats later : List NetAXISWord}
    (waiting : state.fsmState = .waitCmd)
    (queued : state.memWriteCmd = cmd :: laterCmds)
    (fits : cmd.overflows = true → cmd.firstBlock ≤ cmd.length.toNat)
    (payload : IsAxiFrame bytes beats)
    (payloadLength : bytes.length = cmd.length.toNat)
    (data : state.memWriteData = beats ++ later) :
    ∃ msgs final,
      Runs writeDataToMem state msgs final ∧
      moverWriteCmds msgs = cmd.splitCommands ∧
      moverWriteWords msgs = cmd.writtenWords beats ∧
      final.fsmState = .waitCmd ∧
      final.memWriteCmd = laterCmds ∧
      final.memWriteData = later := by
  have afterCommand :
      ∀ (next : WriteDataState) (sent : List WriteDataMsg)
        (cmds : List DataMoverCmd) (words : List NetAXISWord),
        writeDataToMem state = (next, sent) →
        next.memWriteCmd = laterCmds →
        Serves next cmds words later →
        moverWriteCmds sent ++ cmds = cmd.splitCommands →
        moverWriteWords sent = [] →
        words = cmd.writtenWords beats →
        ∃ msgs final,
          Runs writeDataToMem state msgs final ∧
          moverWriteCmds msgs = cmd.splitCommands ∧
          moverWriteWords msgs = cmd.writtenWords beats ∧
          final.fsmState = .waitCmd ∧
          final.memWriteCmd = laterCmds ∧
          final.memWriteData = later := by
    intro next sent cmds words called queue serves split noWords written
    obtain ⟨msgs, final, run, commands, words, ready, sameQueue, left⟩ :=
      serves
    refine ⟨sent ++ msgs, final, Runs.head called run, ?_, ?_, ready,
      sameQueue.trans queue, left⟩
    · rw [← split, ← commands]
      exact List.filterMap_append
    · rw [← written, ← words, moverWriteWords, List.filterMap_append]
      exact (congrArg (· ++ moverWriteWords msgs) noWords).trans
        (List.nil_append _)
  by_cases overflows : cmd.overflows = true
  · have call := writeDataToMem_first waiting queued overflows
    have first :=
      WritingFirst.start waiting queued overflows (fits overflows)
    have blockFits := fits overflows
    have beatsBound := payload.beats_bound
    have positive := cmd.firstBlock_pos
    have enough : cmd.firstBeats - 1 < beats.length := by
      simp only [MemBufferRWCmd.firstBeats]
      omega
    rw [call] at first
    have serves :=
      Serves.first first blockFits payload.delimited enough data
    refine afterCommand _ _ _ _ call rfl serves ?_ rfl ?_
    · rw [MemBufferRWCmd.splitCommands, if_pos overflows]
      rfl
    · rw [MemBufferRWCmd.writtenWords, if_pos overflows]
  · have inside : cmd.overflows = false := by
      simpa using overflows
    have call := writeDataToMem_whole waiting queued inside
    refine afterCommand _ _ [] _ call rfl
      (Serves.forward payload.delimited rfl data) ?_ rfl ?_
    · rw [MemBufferRWCmd.splitCommands, if_neg overflows]
      rfl
    · rw [MemBufferRWCmd.writtenWords, if_neg overflows]

theorem writeDataToMem_idle
    {state : WriteDataState}
    (waiting : state.fsmState = .waitCmd)
    (empty : state.memWriteCmd = []) :
    Idle writeDataToMem state := by
  simp [Idle, writeDataToMem, waiting, empty]

end TcpOffload
