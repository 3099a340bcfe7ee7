import TcpOffload.MemoryAccess.ReadSplit
import TcpOffload.MemoryAccess.WriteSplit

/-!
# The two splitters agree

For one access of a session's ring the read splitter and the write splitter,
fed with the access and its payload, send the same DataMover commands.
-/

namespace TcpOffload

open Clocked

/-- Fed with one access (and its payload), both splitters run until they are
idle and their commands are exact. -/
def SplitsExactly
    (direction : RingDirection) (id : TcpSessionID)
    (offset : TcpSessionBuffer) (length : BitVec 16) : Prop :=
  ∀ (readState : ReadCmdState) (writeState : WriteDataState)
    (bytes : List (BitVec 8)),
    readState.readCmdIsBreakdown = false →
    readState.memReadCmd = [sessionCmd direction id offset length] →
    writeState.fsmState = .waitCmd →
    writeState.memWriteCmd = [sessionCmd direction id offset length] →
    bytes.length = length.toNat →
    IsAxiFrame bytes writeState.memWriteData →
    ∃ reads readFinal writes writeFinal,
      Yields readDataSendCmd readState reads readFinal ∧
      Yields writeDataToMem writeState writes writeFinal ∧
      CommandsExact direction id.toNat offset.toNat length.toNat
        (moverReadCmds reads) (moverWriteCmds writes)

/-- Both splitters finish an access with `splitCommands`. -/
theorem splitters_yield
    {readState : ReadCmdState} {writeState : WriteDataState}
    {cmd : MemBufferRWCmd} {bytes : List (BitVec 8)}
    (fits : cmd.overflows = true → cmd.firstBlock ≤ cmd.length.toNat)
    (readReady : readState.readCmdIsBreakdown = false)
    (readQueued : readState.memReadCmd = [cmd])
    (writeReady : writeState.fsmState = .waitCmd)
    (writeQueued : writeState.memWriteCmd = [cmd])
    (payloadLength : bytes.length = cmd.length.toNat)
    (payload : IsAxiFrame bytes writeState.memWriteData) :
    ∃ reads readFinal writes writeFinal,
      Yields readDataSendCmd readState reads readFinal ∧
      Yields writeDataToMem writeState writes writeFinal ∧
      moverReadCmds reads = cmd.splitCommands ∧
      moverWriteCmds writes = cmd.splitCommands := by
  obtain ⟨readFinal, readRun, readDone, readEmpty⟩ :=
    readDataSendCmd_one readReady readQueued fits
  obtain ⟨writes, writeFinal, writeRun, writeCmds, -, writeDone,
      writeEmpty, -⟩ :=
    writeDataToMem_words writeReady writeQueued fits payload payloadLength
      (List.append_nil _).symm
  exact ⟨cmd.readMsgs, readFinal, writes, writeFinal,
    ⟨readRun, readDataSendCmd_idle readDone readEmpty⟩,
    ⟨writeRun, writeDataToMem_idle writeDone writeEmpty⟩,
    cmd.moverReadCmds_readMsgs, writeCmds⟩

theorem splitCommands_of_splitsExactly
    {direction : RingDirection} {id : TcpSessionID}
    {offset : TcpSessionBuffer} {length : BitVec 16}
    (someBytes : length ≠ 0)
    (splits : SplitsExactly direction id offset length) :
    CommandsExact direction id.toNat offset.toNat length.toNat
      (sessionCmd direction id offset length).splitCommands
      (sessionCmd direction id offset length).splitCommands := by
  have fits := sessionCmd_fits direction id offset length
  let bytes : List (BitVec 8) := List.replicate length.toNat 0
  have bytesLength : bytes.length = length.toNat :=
    List.length_replicate
  have bytesNonempty : bytes ≠ [] := by
    intro empty
    rw [empty] at bytesLength
    exact someBytes (BitVec.eq_of_toNat_eq bytesLength.symm)
  obtain ⟨beats, payload⟩ := exists_axiFrame bytes bytesNonempty
  let readState :=
    ReadCmdState.start [sessionCmd direction id offset length]
  let writeState :=
    WriteDataState.start [sessionCmd direction id offset length] beats
  obtain ⟨reads, readFinal, writes, writeFinal, readYields, writeYields,
      exact⟩ :=
    splits readState writeState bytes rfl rfl rfl rfl bytesLength payload
  obtain ⟨sameReads, _, sameWrites, _, readAgain, writeAgain, readCmds,
      writeCmds⟩ :=
    @splitters_yield readState writeState _ _ fits rfl rfl rfl rfl
      bytesLength payload
  rw [(readYields.unique readAgain).1, (writeYields.unique writeAgain).1,
    readCmds, writeCmds] at exact
  exact exact

/-- The commands of an access are exact unless it ends exactly at the end of
the ring: both splitters then take it for one that wraps and follow it with
a command of no bytes. -/
theorem splitsExactly_iff
    (direction : RingDirection) (id : TcpSessionID)
    (offset : TcpSessionBuffer) (length : BitVec 16)
    (idBound : id.toNat < 2 ^ 13) (someBytes : length ≠ 0) :
    SplitsExactly direction id offset length ↔
      offset.toNat + length.toNat ≠ bufferSize := by
  have exactIff :
      CommandsExact direction id.toNat offset.toNat length.toNat
          (sessionCmd direction id offset length).splitCommands
          (sessionCmd direction id offset length).splitCommands ↔
        offset.toNat + length.toNat ≠ bufferSize :=
    splitCommands_exact_iff idBound someBytes
  rw [← exactIff]
  constructor
  · exact splitCommands_of_splitsExactly someBytes
  · intro exact readState writeState bytes readReady readQueued
      writeReady writeQueued payloadLength payload
    obtain ⟨reads, readFinal, writes, writeFinal, readYields, writeYields,
        readCmds, writeCmds⟩ :=
      splitters_yield (sessionCmd_fits direction id offset length)
        readReady readQueued writeReady writeQueued payloadLength payload
    refine ⟨reads, readFinal, writes, writeFinal, readYields,
      writeYields, ?_⟩
    rw [readCmds, writeCmds]
    exact exact

theorem splitsExactly_wrapped_access :
    (3 : TcpSessionID).toNat < 2 ^ 13 ∧ (128 : BitVec 16) ≠ 0 ∧
      (SplitsExactly .tx 3 0x3FFC0 128 ↔
        (0x3FFC0 : TcpSessionBuffer).toNat + (128 : BitVec 16).toNat ≠
          bufferSize) :=
  ⟨by decide, by decide,
    splitsExactly_iff .tx 3 0x3FFC0 128 (by decide) (by decide)⟩

/-- The last 64 bytes of a ring: the second command transfers nothing. -/
theorem not_splitsExactly_ring_end : ¬ SplitsExactly .rx 0 0x3FFC0 64 := by
  intro splits
  have exact := splitCommands_of_splitsExactly (by decide) splits
  have secondEmpty :
      ((sessionCmd .rx 0 0x3FFC0 64).secondCommand).bbt.toNat = 0 := by
    decide
  have member :
      (sessionCmd .rx 0 0x3FFC0 64).secondCommand ∈
        (sessionCmd .rx 0 0x3FFC0 64).splitCommands := by
    decide
  have someBytes := exact.nonempty _ member
  rw [secondEmpty] at someBytes
  exact Nat.not_succ_le_zero 0 someBytes

end TcpOffload
