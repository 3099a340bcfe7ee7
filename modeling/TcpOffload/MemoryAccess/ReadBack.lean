import TcpOffload.MemoryAccess.ReadSplit
import TcpOffload.MemoryAccess.ReadData

/-!
# Reading back from a ring

The read splitter and the realignment together, over a memory that answers
each DataMover command with one frame of the bytes at its addresses.
-/

namespace TcpOffload

open Clocked
open Framing (Frames)

/-- A read of a session's ring that does not end exactly at its end. -/
structure RingRead where
  id : TcpSessionID
  offset : TcpSessionBuffer
  length : BitVec 16
  idBound : id.toNat < 2 ^ 13
  someBytes : length ≠ 0
  notAtEnd : offset.toNat + length.toNat ≠ bufferSize

namespace RingRead

def cmd (direction : RingDirection) (read : RingRead) : MemBufferRWCmd :=
  sessionCmd direction read.id read.offset read.length

/-- The bytes of the ring the read asks for, in order. -/
def ringBytes
    (direction : RingDirection) (memory : Nat → BitVec 8)
    (read : RingRead) : List (BitVec 8) :=
  (sessionAddresses direction read.id.toNat read.offset.toNat
    read.length.toNat).map memory

end RingRead

/-- The bytes a DataMover command transfers from `memory`. -/
def DataMoverCmd.contents
    (memory : Nat → BitVec 8) (cmd : DataMoverCmd) : List (BitVec 8) :=
  cmd.addresses.map memory

/-- The DataMover answers each command, in order, with exactly its bytes as
one frame. -/
def MoverAnswers
    (memory : Nat → BitVec 8) (cmds : List DataMoverCmd)
    (beats : List NetAXISWord) : Prop :=
  AxiFrames (cmds.map (DataMoverCmd.contents memory)) beats

/-- What `ReadDataFromMem` makes of the data of one command. -/
def MemBufferRWCmd.delivered
    (memory : Nat → BitVec 8) (cmd : MemBufferRWCmd) :
    List (BitVec 8) :=
  if cmd.overflows then
    Framing.lastChunk 64 (cmd.firstCommand.contents memory) ++
      cmd.secondCommand.contents memory
  else
    cmd.wholeCommand.contents memory

/-! ## Runs over all queued commands -/

theorem readDataSendCmd_all
    {cmds : List MemBufferRWCmd} {state : ReadCmdState}
    (fits :
      ∀ cmd ∈ cmds,
        cmd.overflows = true → cmd.firstBlock ≤ cmd.length.toNat)
    (ready : state.readCmdIsBreakdown = false)
    (queued : state.memReadCmd = cmds) :
    ∃ final,
      Yields readDataSendCmd state
        (cmds.flatMap MemBufferRWCmd.readMsgs) final := by
  induction cmds generalizing state with
  | nil =>
      exact ⟨state, Runs.refl state, readDataSendCmd_idle ready queued⟩
  | cons cmd cmds inductionHypothesis =>
      obtain ⟨next, run, nextReady, nextQueued⟩ :=
        readDataSendCmd_one ready queued
          (fits cmd List.mem_cons_self)
      obtain ⟨final, rest⟩ :=
        inductionHypothesis
          (fun later member =>
            fits later (List.mem_cons_of_mem cmd member))
          nextReady nextQueued
      rw [List.flatMap_cons]
      exact ⟨final, Yields.prepend run rest⟩

theorem moverReadCmds_all (cmds : List MemBufferRWCmd) :
    moverReadCmds (cmds.flatMap MemBufferRWCmd.readMsgs) =
      cmds.flatMap MemBufferRWCmd.splitCommands := by
  induction cmds with
  | nil =>
      rfl
  | cons cmd cmds inductionHypothesis =>
      rw [List.flatMap_cons, List.flatMap_cons, ← inductionHypothesis,
        ← cmd.moverReadCmds_readMsgs]
      exact List.filterMap_append

theorem doubleAccesses_all (cmds : List MemBufferRWCmd) :
    doubleAccesses (cmds.flatMap MemBufferRWCmd.readMsgs) =
      cmds.map MemBufferRWCmd.accessToken := by
  induction cmds with
  | nil =>
      rfl
  | cons cmd cmds inductionHypothesis =>
      rw [List.flatMap_cons, List.map_cons, ← inductionHypothesis,
        ← List.singleton_append, ← cmd.doubleAccesses_readMsgs]
      exact List.filterMap_append

theorem readDataFromMem_idle
    {state : ReadDataState}
    (ready : state.fsmState = .readAccess)
    (empty : state.doubleAccess = []) :
    Idle readDataFromMem state := by
  simp [Idle, readDataFromMem, ready, empty]

theorem readDataFromMem_token
    {state : ReadDataState} {token : MemBufferRWCmdDoubleAccess}
    {tokens : List MemBufferRWCmdDoubleAccess}
    (ready : state.fsmState = .readAccess)
    (queued : state.doubleAccess = token :: tokens) :
    readDataFromMem state =
      ({ state with
          fsmState :=
            if token.doubleAccess then .breakdownBlock0 else .noBreakdown
          offsetBlock0 := token.byteOffset
          offsetBlock1 := BitVec.ofNat 6 64 - token.byteOffset
          doubleAccess := tokens },
        []) := by
  simp only [readDataFromMem, ready, queued]

theorem contents_firstCommand_length
    (memory : Nat → BitVec 8) (cmd : MemBufferRWCmd) :
    (cmd.firstCommand.contents memory).length = cmd.firstBlock := by
  have blockBound : cmd.firstBlock < 2 ^ 23 :=
    Nat.lt_of_le_of_lt cmd.firstBlock_le (by decide)
  rw [MemBufferRWCmd.firstCommand, DataMoverCmd.contents,
    DataMoverCmd.addresses_ofAddr _ blockBound]
  simp only [List.length_map, List.length_range]

/-- One command: its token and the frames of its transfers. -/
theorem readDataFromMem_one
    {memory : Nat → BitVec 8} {cmd : MemBufferRWCmd}
    {rest : List DataMoverCmd} {state : ReadDataState}
    {tokens : List MemBufferRWCmdDoubleAccess}
    (ready : state.fsmState = .readAccess)
    (queued : state.doubleAccess = cmd.accessToken :: tokens)
    (answered :
      MoverAnswers memory (cmd.splitCommands ++ rest) state.moverData) :
    ∃ out final later,
      Runs readDataFromMem state out final ∧
      IsAxiFrame (cmd.delivered memory) out ∧
      final.fsmState = .readAccess ∧
      final.doubleAccess = tokens ∧
      final.moverData = later ∧
      MoverAnswers memory rest later := by
  have token := readDataFromMem_token ready queued
  have finish :
      ∀ later next,
        readDataFromMem state = (next, []) →
        next.doubleAccess = tokens →
        MoverAnswers memory rest later →
        Delivers next (cmd.delivered memory) later →
        ∃ out final later,
          Runs readDataFromMem state out final ∧
          IsAxiFrame (cmd.delivered memory) out ∧
          final.fsmState = .readAccess ∧
          final.doubleAccess = tokens ∧
          final.moverData = later ∧
          MoverAnswers memory rest later := by
    intro later next called sameTokens answers delivers
    obtain ⟨out, final, run, frame, done, queue, data⟩ := delivers
    exact ⟨out, final, later, Runs.silent called run, frame, done,
      queue.trans sameTokens, data, answers⟩
  rw [MoverAnswers, List.map_append] at answered
  by_cases overflows : cmd.overflows = true
  · rw [MemBufferRWCmd.splitCommands, if_pos overflows] at answered
    obtain ⟨first, afterFirst, firstData, firstFrame, answered⟩ :=
      answered.split_first
    obtain ⟨second, later, secondData, secondFrame, answered⟩ :=
      answered.split_first
    have split :
        cmd.accessToken = ⟨true, BitVec.ofNat 6 cmd.firstBlock⟩ := by
      rw [MemBufferRWCmd.accessToken, if_pos overflows]
    refine finish later _ token rfl answered ?_
    rw [MemBufferRWCmd.delivered, if_pos overflows]
    refine readDataFromMem_delivers_split firstFrame secondFrame ?_ ?_
      rfl ?_
    · rw [split]
      rfl
    · rw [split, contents_firstCommand_length]
    · rw [← secondData, ← firstData]
  · rw [MemBufferRWCmd.splitCommands, if_neg overflows] at answered
    obtain ⟨whole, later, wholeData, wholeFrame, answered⟩ :=
      answered.split_first
    have forwarded : cmd.accessToken = ⟨false, 0⟩ := by
      rw [MemBufferRWCmd.accessToken, if_neg overflows]
    refine finish later _ token rfl answered ?_
    rw [MemBufferRWCmd.delivered, if_neg overflows]
    refine readDataFromMem_delivers_forward wholeFrame (Or.inl ?_)
      wholeData
    rw [forwarded]
    rfl

theorem readDataFromMem_all
    {memory : Nat → BitVec 8} {cmds : List MemBufferRWCmd}
    {state : ReadDataState}
    (ready : state.fsmState = .readAccess)
    (queued : state.doubleAccess = cmds.map MemBufferRWCmd.accessToken)
    (answered :
      MoverAnswers memory (cmds.flatMap MemBufferRWCmd.splitCommands)
        state.moverData) :
    ∃ out final,
      Yields readDataFromMem state out final ∧
      AxiFrames (cmds.map (MemBufferRWCmd.delivered memory)) out := by
  induction cmds generalizing state with
  | nil =>
      exact ⟨[], state,
        ⟨Runs.refl state, readDataFromMem_idle ready queued⟩,
        Frames.nil⟩
  | cons cmd cmds inductionHypothesis =>
      rw [List.flatMap_cons] at answered
      obtain ⟨out, next, later, run, frame, nextReady, nextQueued, data,
          nextAnswered⟩ :=
        readDataFromMem_one ready queued answered
      rw [← data] at nextAnswered
      obtain ⟨rest, final, restYields, restFrames⟩ :=
        inductionHypothesis nextReady nextQueued nextAnswered
      exact ⟨out ++ rest, final, Yields.prepend run restYields,
        Frames.cons frame restFrames⟩

/-! ## What is delivered for a read of a session's ring -/

namespace RingRead

theorem fits (direction : RingDirection) (read : RingRead)
    (overflows : (read.cmd direction).overflows = true) :
    (read.cmd direction).firstBlock ≤
      (read.cmd direction).length.toNat :=
  sessionCmd_fits direction read.id read.offset read.length overflows

/-- The bytes asked for are those of the read's DataMover commands. -/
theorem ringBytes_eq
    (direction : RingDirection) (memory : Nat → BitVec 8)
    (read : RingRead) :
    read.ringBytes direction memory =
      (read.cmd direction).splitCommands.flatMap
        (DataMoverCmd.contents memory) := by
  rw [ringBytes,
    ← splitCommands_addresses direction read.offset read.length
      read.idBound,
    List.map_flatMap]
  rfl

/-- The read is delivered as it should exactly when the part before the end
of the ring is no more than one beat. -/
theorem delivered_eq_iff
    (direction : RingDirection) (memory : Nat → BitVec 8)
    (read : RingRead) :
    (read.cmd direction).delivered memory =
        read.ringBytes direction memory ↔
      read.offset.toNat + read.length.toNat < bufferSize ∨
        bufferSize - read.offset.toNat ≤ 64 := by
  have reaches :
      (read.cmd direction).overflows = true ↔
        bufferSize ≤ read.offset.toNat + read.length.toNat :=
    sessionCmd_overflows direction read.id read.offset read.length
  by_cases overflows : (read.cmd direction).overflows = true
  · have blockLength :
        ((read.cmd direction).firstCommand.contents memory).length =
          bufferSize - read.offset.toNat := by
      rw [contents_firstCommand_length]
      exact firstBlock_sessionCmd direction read.offset read.length
    have nonempty :
        (read.cmd direction).firstCommand.contents memory ≠ [] := by
      intro empty
      have positive := (read.cmd direction).firstBlock_pos
      rw [← contents_firstCommand_length memory, empty] at positive
      exact Nat.lt_irrefl 0 positive
    have pastEnd := reaches.1 overflows
    rw [ringBytes_eq, MemBufferRWCmd.splitCommands, if_pos overflows,
      MemBufferRWCmd.delivered, if_pos overflows]
    simp only [List.flatMap_cons, List.flatMap_nil, List.append_nil]
    rw [List.append_left_inj,
      Framing.lastChunk_eq_self_iff nonempty (by decide), blockLength]
    constructor
    · exact Or.inr
    · rintro (inside | short)
      · exact absurd inside (Nat.not_lt.2 pastEnd)
      · exact short
  · rw [ringBytes_eq, MemBufferRWCmd.splitCommands, if_neg overflows,
      MemBufferRWCmd.delivered, if_neg overflows]
    simp only [List.flatMap_cons, List.flatMap_nil, List.append_nil,
      true_iff]
    exact Or.inl (Nat.not_le.1 (mt reaches.2 overflows))

end RingRead

/-- For every memory and every answer of the DataMover, the two processes
deliver exactly one frame of the right ring bytes for each of the reads. -/
def ReadsBack
    (direction : RingDirection) (reads : List RingRead) : Prop :=
  ∀ (memory : Nat → BitVec 8) (beats : List NetAXISWord),
    ∃ msgs cmdFinal,
      Yields readDataSendCmd
        (ReadCmdState.start (reads.map (RingRead.cmd direction)))
        msgs cmdFinal ∧
      (MoverAnswers memory (moverReadCmds msgs) beats →
        ∃ out final,
          Yields readDataFromMem
            (ReadDataState.start (doubleAccesses msgs) beats)
            out final ∧
          AxiFrames (reads.map (RingRead.ringBytes direction memory)) out)

/-- What the two processes deliver for the reads, whatever they are. -/
theorem reads_delivered
    (direction : RingDirection) (reads : List RingRead) :
    ∃ msgs cmdFinal,
      Yields readDataSendCmd
        (ReadCmdState.start (reads.map (RingRead.cmd direction)))
        msgs cmdFinal ∧
      moverReadCmds msgs =
        (reads.map (RingRead.cmd direction)).flatMap
          MemBufferRWCmd.splitCommands ∧
      ∀ (memory : Nat → BitVec 8) (beats : List NetAXISWord),
        MoverAnswers memory (moverReadCmds msgs) beats →
        ∃ out final,
          Yields readDataFromMem
            (ReadDataState.start (doubleAccesses msgs) beats)
            out final ∧
          AxiFrames
            (reads.map fun read =>
              (read.cmd direction).delivered memory)
            out := by
  obtain ⟨cmdFinal, cmdYields⟩ :=
    @readDataSendCmd_all (reads.map (RingRead.cmd direction))
      (ReadCmdState.start (reads.map (RingRead.cmd direction)))
      (by
        intro cmd member
        obtain ⟨read, _, rfl⟩ := List.mem_map.1 member
        exact read.fits direction)
      rfl rfl
  refine ⟨_, cmdFinal, cmdYields, moverReadCmds_all _, ?_⟩
  intro memory beats answered
  rw [moverReadCmds_all] at answered
  obtain ⟨out, final, yields, frames⟩ :=
    @readDataFromMem_all memory (reads.map (RingRead.cmd direction))
      (ReadDataState.start (doubleAccesses _) beats)
      rfl (doubleAccesses_all _) answered
  rw [List.map_map] at frames
  exact ⟨out, final, yields, frames⟩

/-- The DataMover can answer the commands of the reads from any memory. -/
theorem exists_moverAnswers
    (direction : RingDirection) (memory : Nat → BitVec 8)
    (reads : List RingRead) :
    ∃ beats,
      MoverAnswers memory
        ((reads.map (RingRead.cmd direction)).flatMap
          MemBufferRWCmd.splitCommands) beats := by
  refine Frames.exists_of_frames ?_
  intro bytes member
  obtain ⟨cmd, cmdMember, rfl⟩ := List.mem_map.1 member
  obtain ⟨access, accessMember, inAccess⟩ := List.mem_flatMap.1 cmdMember
  obtain ⟨read, _, rfl⟩ := List.mem_map.1 accessMember
  have someBytes :=
    (splitCommands_nonempty_iff read.someBytes).2 read.notAtEnd cmd
      inAccess
  refine exists_axiFrame _ ?_
  intro empty
  have noBytes := congrArg List.length empty
  simp only [DataMoverCmd.contents, DataMoverCmd.addresses,
    List.length_map, List.length_range, List.length_nil] at noBytes
  omega

theorem delivered_of_readsBack
    {direction : RingDirection} {reads : List RingRead}
    (readsBack : ReadsBack direction reads)
    {read : RingRead} (member : read ∈ reads) :
    (read.cmd direction).delivered (fun _ => 0) =
      read.ringBytes direction fun _ => 0 := by
  obtain ⟨msgs, cmdFinal, cmdYields, cmds, delivers⟩ :=
    reads_delivered direction reads
  obtain ⟨beats, answered⟩ :=
    exists_moverAnswers direction (fun _ => 0) reads
  rw [← cmds] at answered
  obtain ⟨out, final, yields, frames⟩ := delivers _ beats answered
  obtain ⟨sameMsgs, _, sameYields, readsRight⟩ :=
    readsBack (fun _ => 0) beats
  rw [(sameYields.unique cmdYields).1] at readsRight
  obtain ⟨sameOut, _, outYields, rightFrames⟩ := readsRight answered
  rw [(outYields.unique yields).1] at rightFrames
  have same := frames.unique NetAXISWord.holds_unique rightFrames
  exact List.map_inj_left.1 same read member

/-- The reads are delivered as they should be exactly when none of them has
more than one beat before the end of the ring and bytes behind it. -/
theorem readsBack_iff
    (direction : RingDirection) (reads : List RingRead) :
    ReadsBack direction reads ↔
      ∀ read ∈ reads,
        read.offset.toNat + read.length.toNat < bufferSize ∨
          bufferSize - read.offset.toNat ≤ 64 := by
  constructor
  · intro readsBack read member
    exact (read.delivered_eq_iff direction _).1
      (delivered_of_readsBack readsBack member)
  · intro inOneBeat memory beats
    obtain ⟨msgs, cmdFinal, cmdYields, _, delivers⟩ :=
      reads_delivered direction reads
    refine ⟨msgs, cmdFinal, cmdYields, ?_⟩
    intro answered
    obtain ⟨out, final, yields, frames⟩ :=
      delivers memory beats answered
    have same :
        (reads.map fun read => (read.cmd direction).delivered memory) =
          reads.map (RingRead.ringBytes direction memory) :=
      List.map_congr_left fun read member =>
        (read.delivered_eq_iff direction memory).2 (inOneBeat read member)
    rw [same] at frames
    exact ⟨out, final, yields, frames⟩

/-- 512 bytes from 256 bytes before the end of the ring. -/
def wrappingRead : RingRead where
  id := 0
  offset := 0x3FF00
  length := 512
  idBound := by decide
  someBytes := by decide
  notAtEnd := by decide

theorem not_readsBack_wrappingRead : ¬ ReadsBack .tx [wrappingRead] := by
  intro readsBack
  have delivered :=
    delivered_of_readsBack readsBack (List.mem_singleton.2 rfl)
  rw [wrappingRead.delivered_eq_iff] at delivered
  exact absurd delivered (by decide)

end TcpOffload
