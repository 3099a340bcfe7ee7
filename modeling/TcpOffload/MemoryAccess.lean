import TcpOffload.Conn
import TcpOffload.AxiWord

/-!
# Buffer memory access

The functions of `memory_access.hpp`: the address of a session's ring, the
splitting of one internal command into DataMover commands at the end of the
ring, and the re-alignment of the data of a split access.  A stream is a
list; a call that finds the stream it polls empty does nothing.  Output
streams are never full, a full one only repeats a call later.
-/

namespace TcpOffload

/-- The instance of the memory templates: `is_rx` is 1 for the receive ring
and 0 for the transmit ring. -/
inductive RingDirection where
  | rx
  | tx
deriving DecidableEq, Repr

/-- `GetSessionMemAddr`: direction bit, low 13 bits of the session, pointer
into the ring. -/
def getSessionMemAddr
    (direction : RingDirection) (id : TcpSessionID)
    (appRw : TcpSessionBuffer) : BitVec 32 :=
  let directionBit :=
    match direction with
    | .rx => false
    | .tx => !tcpRxDdrBypass
  (BitVec.ofBool directionBit ++ id.setWidth 13) ++ appRw

structure MemBufferRWCmd where
  addr : BitVec 32
  length : BitVec 16
  nextAddr : BitVec 19
deriving DecidableEq, Repr

namespace MemBufferRWCmd

/-- The two-argument constructor: bit `WINDOW_BITS` of `next_addr` tells that
the access runs over the end of the ring. -/
def ofAddr (addr : BitVec 32) (length : BitVec 16) : MemBufferRWCmd :=
  ⟨addr, length,
    (addr.setWidth 18).setWidth 19 + length.setWidth 19⟩

/-- The pointer into the ring at which the access starts. -/
def offset (cmd : MemBufferRWCmd) : TcpSessionBuffer :=
  cmd.addr.setWidth 18

/-- `next_addr.bit(WINDOW_BITS)`. -/
def overflows (cmd : MemBufferRWCmd) : Bool :=
  cmd.nextAddr.getLsbD windowBits

end MemBufferRWCmd

structure MemBufferRWCmdDoubleAccess where
  doubleAccess : Bool
  byteOffset : BitVec 6
deriving DecidableEq, Repr

/-- A DataMover command: bytes to transfer and start address.  The remaining
fields are the same constants in every command. -/
structure DataMoverCmd where
  bbt : BitVec 23
  saddr : BitVec 40
deriving DecidableEq, Repr

namespace DataMoverCmd

def ofAddr (addr : BitVec 32) (length : BitVec 23) : DataMoverCmd :=
  ⟨length, addr.setWidth 40 + BitVec.ofNat 40 tcpDdrBaseAddr⟩

/-- The byte addresses the command transfers, in order. -/
def addresses (cmd : DataMoverCmd) : List Nat :=
  (List.range cmd.bbt.toNat).map (cmd.saddr.toNat + ·)

end DataMoverCmd

/-! ## Read commands -/

structure ReadCmdState where
  readCmdIsBreakdown : Bool
  innerCmd : MemBufferRWCmd
  firstCmdBbt : BitVec 16
  memReadCmd : List MemBufferRWCmd
deriving DecidableEq, Repr

/-- The registers as they are initialised, with a queue of commands. -/
def ReadCmdState.start (memReadCmd : List MemBufferRWCmd) : ReadCmdState :=
  ⟨false, ⟨0, 0, 0⟩, 0, memReadCmd⟩

inductive ReadCmdMsg where
  | moverReadCmd (cmd : DataMoverCmd)
  | doubleAccess (access : MemBufferRWCmdDoubleAccess)
deriving DecidableEq, Repr

/-- `ReadDataSendCmd`. -/
def readDataSendCmd (state : ReadCmdState) :
    ReadCmdState × List ReadCmdMsg :=
  if state.readCmdIsBreakdown then
    -- the second command starts at the beginning of the ring
    let addr := state.innerCmd.addr.extractLsb' 18 14 ++ (0 : BitVec 18)
    let rest :=
      state.innerCmd.length.setWidth 23 - state.firstCmdBbt.setWidth 23
    ({ state with
        readCmdIsBreakdown := false
        innerCmd := { state.innerCmd with addr := addr } },
      [.moverReadCmd (DataMoverCmd.ofAddr addr rest)])
  else
    match state.memReadCmd with
    | [] => (state, [])
    | cmd :: later =>
        if cmd.overflows then
          let first :=
            (BitVec.ofNat 32 bufferSize -
              cmd.offset.setWidth 32).setWidth 16
          ({ state with
              readCmdIsBreakdown := true
              innerCmd := cmd
              firstCmdBbt := first
              memReadCmd := later },
            [.moverReadCmd
                (DataMoverCmd.ofAddr cmd.addr (first.setWidth 23)),
              .doubleAccess ⟨true, first.setWidth 6⟩])
        else
          ({ state with innerCmd := cmd, memReadCmd := later },
            [.moverReadCmd
                (DataMoverCmd.ofAddr cmd.addr (cmd.length.setWidth 23)),
              .doubleAccess ⟨false, 0⟩])

/-! ## Read data -/

inductive ReadDataFsmState where
  | readAccess
  | noBreakdown
  | breakdownBlock0
  | breakdownAligned
  | firstMerge
  | breakdownBlock1
  | extraData
deriving DecidableEq, Repr

structure ReadDataState where
  fsmState : ReadDataFsmState
  offsetBlock0 : BitVec 6
  offsetBlock1 : BitVec 6
  prevBeatWord : NetAXISWord
  doubleAccess : List MemBufferRWCmdDoubleAccess
  moverData : List NetAXISWord
deriving DecidableEq, Repr

def ReadDataState.start
    (doubleAccess : List MemBufferRWCmdDoubleAccess)
    (moverData : List NetAXISWord) : ReadDataState where
  fsmState := .readAccess
  offsetBlock0 := 0
  offsetBlock1 := 0
  prevBeatWord := NetAXISWord.empty
  doubleAccess := doubleAccess
  moverData := moverData

/-- `ReadDataFromMem`. -/
def readDataFromMem (state : ReadDataState) :
    ReadDataState × List NetAXISWord :=
  match state.fsmState with
  | .readAccess =>
      match state.doubleAccess with
      | [] => (state, [])
      | access :: later =>
          ({ state with
              fsmState :=
                if access.doubleAccess then .breakdownBlock0
                else .noBreakdown
              offsetBlock0 := access.byteOffset
              offsetBlock1 := BitVec.ofNat 6 64 - access.byteOffset
              doubleAccess := later },
            [])
  | .noBreakdown
  | .breakdownAligned =>
      match state.moverData with
      | [] => (state, [])
      | cur :: later =>
          ({ state with
              fsmState :=
                if cur.last then .readAccess else state.fsmState
              moverData := later },
            [cur])
  | .breakdownBlock0 =>
      match state.moverData with
      | [] => (state, [])
      | cur :: later =>
          let send :=
            { NetAXISWord.empty with data := cur.data, keep := cur.keep }
          if cur.last then
            if state.offsetBlock0 = 0 then
              ({ state with
                  fsmState := .breakdownAligned
                  prevBeatWord := cur
                  moverData := later },
                [send])
            else
              ({ state with
                  fsmState := .firstMerge
                  prevBeatWord := cur
                  moverData := later },
                [])
          else
            -- `to_rx_or_tx_word_need_to_align` is true from its initialiser
            ({ state with prevBeatWord := cur, moverData := later }, [])
  | .firstMerge =>
      match state.moverData with
      | [] => (state, [])
      | cur :: later =>
          let merged :=
            mergeTwoWordsHead cur state.prevBeatWord state.offsetBlock0
              NetAXISWord.empty
          let finished :=
            cur.last && !cur.keep.getLsbD state.offsetBlock1.toNat
          ({ state with
              fsmState :=
                if cur.last then
                  if cur.keep.getLsbD state.offsetBlock1.toNat then
                    .extraData
                  else
                    .readAccess
                else
                  .breakdownBlock1
              prevBeatWord := cur
              moverData := later },
            [{ merged with last := finished }])
  | .breakdownBlock1 =>
      match state.moverData with
      | [] => (state, [])
      | cur :: later =>
          let joined :=
            concatTwoWords cur state.prevBeatWord state.offsetBlock1
              NetAXISWord.empty
          let finished :=
            cur.last && !cur.keep.getLsbD state.offsetBlock1.toNat
          ({ state with
              fsmState :=
                if cur.last then
                  if cur.keep.getLsbD state.offsetBlock1.toNat then
                    .extraData
                  else
                    .readAccess
                else
                  .breakdownBlock1
              prevBeatWord := cur
              moverData := later },
            [{ joined with last := finished }])
  | .extraData =>
      let joined :=
        concatTwoWords NetAXISWord.empty state.prevBeatWord
          state.offsetBlock1 NetAXISWord.empty
      ({ state with fsmState := .readAccess },
        [{ joined with last := true }])

/-! ## Write commands and data -/

inductive WriteDataFsmState where
  | waitCmd
  | fwdNoBreakdown
  | fwdBreakdown0
  | fwdBreakdown1
  | fwdExtra
deriving DecidableEq, Repr

structure WriteDataState where
  fsmState : WriteDataFsmState
  firstCmdBbt : BitVec 23
  byteOffset : BitVec 6
  firstCmdLastBeatKeep : BitVec 64
  firstCmdTransBeats : BitVec 10
  firstCmdTransBeatsCnt : BitVec 10
  innerCmd : MemBufferRWCmd
  dataMverCmd : DataMoverCmd
  prevBeatWord : NetAXISWord
  memWriteCmd : List MemBufferRWCmd
  memWriteData : List NetAXISWord
deriving DecidableEq, Repr

def WriteDataState.start
    (memWriteCmd : List MemBufferRWCmd)
    (memWriteData : List NetAXISWord) : WriteDataState where
  fsmState := .waitCmd
  firstCmdBbt := 0
  byteOffset := 0
  firstCmdLastBeatKeep := 0
  firstCmdTransBeats := 0
  firstCmdTransBeatsCnt := 1
  innerCmd := ⟨0, 0, 0⟩
  dataMverCmd := ⟨0, 0⟩
  prevBeatWord := NetAXISWord.empty
  memWriteCmd := memWriteCmd
  memWriteData := memWriteData

inductive WriteDataMsg where
  | doubleAccessFlag (flag : Bool)
  | moverWriteCmd (cmd : DataMoverCmd)
  | moverWriteData (word : NetAXISWord)
deriving DecidableEq, Repr

/-- `WriteDataToMem`. -/
def writeDataToMem (state : WriteDataState) :
    WriteDataState × List WriteDataMsg :=
  match state.fsmState with
  | .waitCmd =>
      match state.memWriteCmd with
      | [] => (state, [])
      | cmd :: later =>
          let whole :=
            DataMoverCmd.ofAddr cmd.addr (cmd.length.setWidth 23)
          if cmd.overflows then
            let first :=
              (BitVec.ofNat 32 bufferSize -
                cmd.offset.setWidth 32).setWidth 23
            let offset : BitVec 6 := first.setWidth 6
            let beats : BitVec 10 := (first.extractLsb' 6 12).setWidth 10
            ({ state with
                fsmState := .fwdBreakdown0
                firstCmdBbt := first
                byteOffset := offset
                firstCmdLastBeatKeep := dataLengthToAxisKeep offset
                firstCmdTransBeats :=
                  if offset ≠ 0 then beats + 1 else beats
                firstCmdTransBeatsCnt := 1
                innerCmd := cmd
                dataMverCmd := { whole with bbt := first }
                memWriteCmd := later },
              [.doubleAccessFlag true,
                .moverWriteCmd { whole with bbt := first }])
          else
            ({ state with
                fsmState := .fwdNoBreakdown
                innerCmd := cmd
                dataMverCmd := whole
                memWriteCmd := later },
              [.doubleAccessFlag false, .moverWriteCmd whole])
  | .fwdNoBreakdown =>
      match state.memWriteData with
      | [] => (state, [])
      | cur :: later =>
          ({ state with
              fsmState := if cur.last then .waitCmd else .fwdNoBreakdown
              memWriteData := later },
            [.moverWriteData cur])
  | .fwdBreakdown0 =>
      match state.memWriteData with
      | [] => (state, [])
      | cur :: later =>
          if state.firstCmdTransBeatsCnt = state.firstCmdTransBeats then
            let send : NetAXISWord :=
              { NetAXISWord.empty with
                data := cur.data
                keep := state.firstCmdLastBeatKeep
                last := true }
            -- bits 31 to 18 of the address are kept, the pointer restarts
            let second : DataMoverCmd :=
              { bbt :=
                  state.innerCmd.length.setWidth 23 - state.firstCmdBbt
                saddr :=
                  (state.dataMverCmd.saddr.extractLsb' 32 8 ++
                    state.innerCmd.addr.extractLsb' 18 14) ++
                    (0 : BitVec 18) }
            ({ state with
                fsmState :=
                  if cur.last then .fwdExtra else .fwdBreakdown1
                firstCmdTransBeatsCnt := state.firstCmdTransBeatsCnt + 1
                dataMverCmd := second
                prevBeatWord := cur
                memWriteData := later },
              [.moverWriteCmd second, .moverWriteData send])
          else
            ({ state with
                firstCmdTransBeatsCnt := state.firstCmdTransBeatsCnt + 1
                prevBeatWord := cur
                memWriteData := later },
              [.moverWriteData cur])
  | .fwdBreakdown1 =>
      match state.memWriteData with
      | [] => (state, [])
      | cur :: later =>
          let joined :=
            concatTwoWords cur state.prevBeatWord state.byteOffset
              NetAXISWord.empty
          let extra :=
            cur.keep.getLsbD state.byteOffset.toNat &&
              decide (state.byteOffset ≠ 0)
          ({ state with
              fsmState :=
                if cur.last then
                  if extra then .fwdExtra else .waitCmd
                else
                  .fwdBreakdown1
              prevBeatWord := cur
              memWriteData := later },
            [.moverWriteData { joined with last := cur.last && !extra }])
  | .fwdExtra =>
      let joined :=
        concatTwoWords NetAXISWord.empty state.prevBeatWord
          state.byteOffset NetAXISWord.empty
      ({ state with fsmState := .waitCmd },
        [.moverWriteData { joined with last := true }])

end TcpOffload
