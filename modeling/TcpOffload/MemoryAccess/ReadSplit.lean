import TcpOffload.Library.Process
import TcpOffload.MemoryAccess.SessionRing

/-!
# The read splitter

`ReadDataSendCmd` sends the DataMover commands of each queued command and
one token that tells `ReadDataFromMem` how the data will arrive.
-/

namespace TcpOffload

open Clocked

/-! ## `ReadDataSendCmd` -/

namespace ReadCmdMsg

def moverCmd : ReadCmdMsg → Option DataMoverCmd
  | .moverReadCmd cmd => some cmd
  | .doubleAccess _ => none

def access : ReadCmdMsg → Option MemBufferRWCmdDoubleAccess
  | .moverReadCmd _ => none
  | .doubleAccess access => some access

end ReadCmdMsg

def moverReadCmds (msgs : List ReadCmdMsg) : List DataMoverCmd :=
  msgs.filterMap ReadCmdMsg.moverCmd

def doubleAccesses
    (msgs : List ReadCmdMsg) : List MemBufferRWCmdDoubleAccess :=
  msgs.filterMap ReadCmdMsg.access

/-- What tells `ReadDataFromMem` how the data of an access arrives. -/
def MemBufferRWCmd.accessToken
    (cmd : MemBufferRWCmd) : MemBufferRWCmdDoubleAccess :=
  if cmd.overflows then
    ⟨true, BitVec.ofNat 6 cmd.firstBlock⟩
  else
    ⟨false, 0⟩

/-- What one internal command makes `ReadDataSendCmd` write. -/
def MemBufferRWCmd.readMsgs (cmd : MemBufferRWCmd) : List ReadCmdMsg :=
  if cmd.overflows then
    [.moverReadCmd cmd.firstCommand, .doubleAccess cmd.accessToken,
      .moverReadCmd cmd.secondCommand]
  else
    [.moverReadCmd cmd.wholeCommand, .doubleAccess cmd.accessToken]

theorem MemBufferRWCmd.moverReadCmds_readMsgs (cmd : MemBufferRWCmd) :
    moverReadCmds cmd.readMsgs = cmd.splitCommands := by
  rw [readMsgs, splitCommands]
  split <;> rfl

theorem MemBufferRWCmd.doubleAccesses_readMsgs (cmd : MemBufferRWCmd) :
    doubleAccesses cmd.readMsgs = [cmd.accessToken] := by
  rw [readMsgs]
  split <;> rfl

theorem readDataSendCmd_whole
    {state : ReadCmdState} {cmd : MemBufferRWCmd}
    {later : List MemBufferRWCmd}
    (ready : state.readCmdIsBreakdown = false)
    (queued : state.memReadCmd = cmd :: later)
    (inside : cmd.overflows = false) :
    readDataSendCmd state =
      ({ state with innerCmd := cmd, memReadCmd := later },
        [.moverReadCmd cmd.wholeCommand,
          .doubleAccess cmd.accessToken]) := by
  simp [readDataSendCmd, ready, queued, inside,
    MemBufferRWCmd.wholeCommand, MemBufferRWCmd.accessToken]

theorem readDataSendCmd_first
    {state : ReadCmdState} {cmd : MemBufferRWCmd}
    {later : List MemBufferRWCmd}
    (ready : state.readCmdIsBreakdown = false)
    (queued : state.memReadCmd = cmd :: later)
    (overflows : cmd.overflows = true)
    (fits : cmd.firstBlock ≤ cmd.length.toNat) :
    readDataSendCmd state =
      ({ state with
          readCmdIsBreakdown := true
          innerCmd := cmd
          firstCmdBbt := BitVec.ofNat 16 cmd.firstBlock
          memReadCmd := later },
        [.moverReadCmd cmd.firstCommand,
          .doubleAccess cmd.accessToken]) := by
  have lengthBound := cmd.length.isLt
  have firstWidth :
      (BitVec.ofNat 16 cmd.firstBlock).setWidth 23 =
        BitVec.ofNat 23 cmd.firstBlock :=
    BitVec.setWidth_ofNat_of_le_of_lt (by decide) (by omega)
  have firstOffset :
      (BitVec.ofNat 16 cmd.firstBlock).setWidth 6 =
        BitVec.ofNat 6 cmd.firstBlock :=
    BitVec.setWidth_ofNat_of_le (by decide) _
  simp [readDataSendCmd, ready, queued, overflows,
    -bufferSize_eq, cmd.bufferSize_sub_offset, firstWidth, firstOffset,
    MemBufferRWCmd.firstCommand, MemBufferRWCmd.accessToken]

theorem readDataSendCmd_second
    {state : ReadCmdState} {cmd : MemBufferRWCmd}
    (busy : state.readCmdIsBreakdown = true)
    (inner : state.innerCmd = cmd)
    (first : state.firstCmdBbt = BitVec.ofNat 16 cmd.firstBlock)
    (fits : cmd.firstBlock ≤ cmd.length.toNat) :
    ∃ addr,
      readDataSendCmd state =
        ({ state with
            readCmdIsBreakdown := false
            innerCmd := { cmd with addr := addr } },
          [.moverReadCmd cmd.secondCommand]) := by
  have lengthBound := cmd.length.isLt
  have firstWidth :
      (BitVec.ofNat 16 cmd.firstBlock).setWidth 23 =
        BitVec.ofNat 23 cmd.firstBlock :=
    BitVec.setWidth_ofNat_of_le_of_lt (by decide) (by omega)
  refine ⟨cmd.addr.extractLsb' 18 14 ++ (0 : BitVec 18), ?_⟩
  simp [readDataSendCmd, busy, inner, first, firstWidth,
    cmd.secondBlock_length fits, MemBufferRWCmd.secondCommand]

/-- One internal command, from the queue to the two outputs. -/
theorem readDataSendCmd_one
    {state : ReadCmdState} {cmd : MemBufferRWCmd}
    {later : List MemBufferRWCmd}
    (ready : state.readCmdIsBreakdown = false)
    (queued : state.memReadCmd = cmd :: later)
    (fits : cmd.overflows = true → cmd.firstBlock ≤ cmd.length.toNat) :
    ∃ final,
      Runs readDataSendCmd state cmd.readMsgs final ∧
      final.readCmdIsBreakdown = false ∧
      final.memReadCmd = later := by
  by_cases overflows : cmd.overflows = true
  · have first :=
      readDataSendCmd_first ready queued overflows (fits overflows)
    have second :
        ∃ addr,
          readDataSendCmd (readDataSendCmd state).1 =
            ({ (readDataSendCmd state).1 with
                readCmdIsBreakdown := false
                innerCmd := { cmd with addr := addr } },
              [.moverReadCmd cmd.secondCommand]) :=
      readDataSendCmd_second (by rw [first]) (by rw [first])
        (by rw [first]) (fits overflows)
    rw [first] at second
    obtain ⟨addr, second⟩ := second
    have run := Runs.head first (Runs.head second (Runs.refl _))
    rw [MemBufferRWCmd.readMsgs, if_pos overflows]
    exact ⟨_, run, rfl, rfl⟩
  · have inside : cmd.overflows = false := by
      simpa using overflows
    have whole := readDataSendCmd_whole ready queued inside
    have run := Runs.head whole (Runs.refl _)
    rw [MemBufferRWCmd.readMsgs, if_neg overflows]
    exact ⟨_, run, ready, rfl⟩

theorem readDataSendCmd_idle
    {state : ReadCmdState}
    (ready : state.readCmdIsBreakdown = false)
    (empty : state.memReadCmd = []) :
    Idle readDataSendCmd state := by
  simp [Idle, readDataSendCmd, ready, empty]

end TcpOffload
