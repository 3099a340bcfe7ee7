import Mathlib.Logic.Function.Basic
import TcpOffload.Conn

/-!
# The port table

`port_table.cpp`: the lower half of the ports are opened by listening
applications, the upper half are handed out for active opens.  The two
multiplexers keep the RX engine's checks of both halves in order.
-/

namespace TcpOffload

/-- A port's place in its half of the table. -/
abbrev PortIndex := BitVec 15

structure PortTableEntry where
  isOpen : Bool
  roleId : NetAXISDest
deriving DecidableEq, Repr

structure ListenPortReq where
  data : TcpPortNumber
  dest : NetAXISDest
deriving DecidableEq, Repr

structure ListenPortRsp where
  portNumber : TcpPortNumber
  openSuccessfully : Bool
  wrongPortNumber : Bool
  alreadyOpen : Bool
  dest : NetAXISDest
deriving DecidableEq, Repr

structure PtableToRxEngRsp where
  isOpen : Bool
  roleId : NetAXISDest
deriving DecidableEq, Repr

/-- The half of the table a check has gone to. -/
inductive CheckDst where
  | listeningTable
  | freeTable
deriving DecidableEq, Repr

inductive CmFsmState where
  | readDst
  | readListening
  | readUsed
deriving DecidableEq, Repr

structure PortTableState where
  listeningPortTable : PortIndex → PortTableEntry
  freePortTable : PortIndex → PortTableEntry
  ptCursor : PortIndex
  cmFsmState : CmFsmState
  checkListeningReqs : List PortIndex
  checkUsedReqs : List PortIndex
  checkListeningRsps : List PtableToRxEngRsp
  checkUsedRsps : List PtableToRxEngRsp
  checkDsts : List CheckDst
  slookupReleasePortReqs : List TcpPortNumber
  rxAppListenPortReqs : List ListenPortReq
  rxEngCheckReqs : List TcpPortNumber
  txAppReqs : List NetAXISDest

inductive PortTableMsg where
  | rxAppListenPortRsp (rsp : ListenPortRsp)
  | rxEngCheckRsp (rsp : PtableToRxEngRsp)
  | txAppRsp (port : TcpPortNumber)
deriving DecidableEq, Repr

namespace PortTableState

def start : PortTableState where
  listeningPortTable := fun _ => ⟨false, 0⟩
  freePortTable := fun _ => ⟨false, 0⟩
  ptCursor := 0
  cmFsmState := .readDst
  checkListeningReqs := []
  checkUsedReqs := []
  checkListeningRsps := []
  checkUsedRsps := []
  checkDsts := []
  slookupReleasePortReqs := []
  rxAppListenPortReqs := []
  rxEngCheckReqs := []
  txAppReqs := []

end PortTableState

/-- The ports of the upper half. -/
def isFreePort (port : TcpPortNumber) : Bool :=
  port.getLsbD 15

def portIndex (port : TcpPortNumber) : PortIndex :=
  port.setWidth 15

def freePort (index : PortIndex) : TcpPortNumber :=
  0x8000 ||| index.setWidth 16

/-- `ListeningPortTable`. -/
def listeningPortTable (state : PortTableState) :
    PortTableState × List PortTableMsg :=
  match state.rxAppListenPortReqs with
  | req :: later =>
      let taken := { state with rxAppListenPortReqs := later }
      let wrong := isFreePort req.data
      if !(state.listeningPortTable (portIndex req.data)).isOpen &&
          !wrong then
        ({ taken with
            listeningPortTable :=
              Function.update state.listeningPortTable
                (portIndex req.data) ⟨true, req.dest⟩ },
          [.rxAppListenPortRsp ⟨req.data, true, wrong, false, req.dest⟩])
      else
        (taken,
          [.rxAppListenPortRsp ⟨req.data, false, wrong, true, req.dest⟩])
  | [] =>
      match state.checkListeningReqs with
      | index :: later =>
          let entry := state.listeningPortTable index
          ({ state with
              checkListeningReqs := later
              checkListeningRsps :=
                state.checkListeningRsps ++
                  [⟨entry.isOpen, entry.roleId⟩] },
            [])
      | [] => (state, [])

/-- `FreePortTable`, with `full` for a full FIFO to the TX application.  The
cursor moves on whether or not its port is free. -/
def freePortTable (full : Bool) (state : PortTableState) :
    PortTableState × List PortTableMsg :=
  match state.slookupReleasePortReqs, state.checkUsedReqs,
    state.txAppReqs with
  | port :: later, _, _ =>
      let taken := { state with slookupReleasePortReqs := later }
      if isFreePort port then
        ({ taken with
            freePortTable :=
              Function.update state.freePortTable (portIndex port)
                { state.freePortTable (portIndex port) with
                  isOpen := false } },
          [])
      else
        (taken, [])
  | [], index :: later, _ =>
      let entry := state.freePortTable index
      ({ state with
          checkUsedReqs := later
          checkUsedRsps :=
            state.checkUsedRsps ++ [⟨entry.isOpen, entry.roleId⟩] },
        [])
  | [], [], tdest :: later =>
      let taken :=
        { state with txAppReqs := later, ptCursor := state.ptCursor + 1 }
      if !(state.freePortTable state.ptCursor).isOpen && !full then
        ({ taken with
            freePortTable :=
              Function.update state.freePortTable state.ptCursor
                ⟨true, tdest⟩ },
          [.txAppRsp (freePort state.ptCursor)])
      else
        (taken, [])
  | [], [], [] => (state, [])

/-- `CheckInMultiplexer`. -/
def checkInMultiplexer (state : PortTableState) : PortTableState :=
  match state.rxEngCheckReqs with
  | port :: later =>
      if isFreePort port then
        { state with
          rxEngCheckReqs := later
          checkUsedReqs := state.checkUsedReqs ++ [portIndex port]
          checkDsts := state.checkDsts ++ [.freeTable] }
      else
        { state with
          rxEngCheckReqs := later
          checkListeningReqs :=
            state.checkListeningReqs ++ [portIndex port]
          checkDsts := state.checkDsts ++ [.listeningTable] }
  | [] => state

/-- `CheckOutMultiplexer`. -/
def checkOutMultiplexer (state : PortTableState) :
    PortTableState × List PortTableMsg :=
  match state.cmFsmState with
  | .readDst =>
      match state.checkDsts with
      | dst :: later =>
          ({ state with
              checkDsts := later
              cmFsmState :=
                match dst with
                | .listeningTable => .readListening
                | .freeTable => .readUsed },
            [])
      | [] => (state, [])
  | .readListening =>
      match state.checkListeningRsps with
      | rsp :: later =>
          ({ state with
              checkListeningRsps := later, cmFsmState := .readDst },
            [.rxEngCheckRsp rsp])
      | [] => (state, [])
  | .readUsed =>
      match state.checkUsedRsps with
      | rsp :: later =>
          ({ state with
              checkUsedRsps := later, cmFsmState := .readDst },
            [.rxEngCheckRsp rsp])
      | [] => (state, [])

/-- The processes of `port_table`. -/
inductive PtableProcess where
  | listeningPortTable
  | freePortTable (full : Bool)
  | checkInMultiplexer
  | checkOutMultiplexer
deriving DecidableEq, Repr

def PtableProcess.call (state : PortTableState) :
    PtableProcess → PortTableState × List PortTableMsg
  | .listeningPortTable => TcpOffload.listeningPortTable state
  | .freePortTable full => TcpOffload.freePortTable full state
  | .checkInMultiplexer => (TcpOffload.checkInMultiplexer state, [])
  | .checkOutMultiplexer => TcpOffload.checkOutMultiplexer state

def PortTableMsg.toRxEng : PortTableMsg → Option PtableToRxEngRsp
  | .rxEngCheckRsp rsp => some rsp
  | _ => none

/-! ## Ports and their places -/

/-- Below its top bit the lowest free port is zero. -/
theorem getLsbD_freePort_zero {bit : Nat} (below : bit < 15) :
    (BitVec.ofNat 16 0x8000).getLsbD bit = false := by
  have all :
      ∀ bit : Fin 15, (BitVec.ofNat 16 0x8000).getLsbD bit = false := by
    decide
  exact all ⟨bit, below⟩

@[simp]
theorem isFreePort_freePort (index : PortIndex) :
    isFreePort (freePort index) = true := by
  simp [isFreePort, freePort]

@[simp]
theorem portIndex_freePort (index : PortIndex) :
    portIndex (freePort index) = index := by
  apply BitVec.eq_of_getLsbD_eq
  intro bit inRange
  simp [portIndex, freePort, inRange]

theorem freePort_portIndex {port : TcpPortNumber}
    (isFree : isFreePort port = true) : freePort (portIndex port) = port := by
  apply BitVec.eq_of_getLsbD_eq
  intro bit inRange
  by_cases isTop : bit = 15
  · rw [isTop]
    simpa [portIndex, freePort, isFreePort] using isFree.symm
  · have below : bit < 15 := by
      omega
    have notTop : (0x8000 : BitVec 16).getLsbD bit = false :=
      getLsbD_freePort_zero below
    simp only [portIndex, freePort, BitVec.getLsbD_or,
      BitVec.getLsbD_setWidth, below, inRange, notTop, decide_true,
      Bool.true_and, Bool.false_or]

/-- Two ports of the upper half have two places. -/
theorem portIndex_ne {port other : TcpPortNumber}
    (isFree : isFreePort port = true) (otherFree : isFreePort other = true)
    (different : port ≠ other) : portIndex port ≠ portIndex other := by
  intro same
  apply different
  rw [← freePort_portIndex isFree, ← freePort_portIndex otherFree, same]

end TcpOffload
