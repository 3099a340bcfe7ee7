import TcpOffload.Config

/-!
# Messages and table entries

The records of `toe_conn.hpp` and `tcp_header.hpp` that the engines, the
tables and the timers exchange.  An `ap_uint<w>` is a `BitVec w`; flags of
one bit are `Bool`.  A member that a C++ constructor leaves unset, and that
no reader of that message looks at, is given its zero value here.
-/

namespace TcpOffload

abbrev TcpSessionID := BitVec 16
abbrev TcpPortNumber := BitVec 16
abbrev IpAddr := BitVec 32

/-- The application that an AXI stream word belongs to. -/
abbrev NetAXISDest := BitVec 4

/-- A pointer into, or a length within, one session's ring buffer. -/
abbrev TcpSessionBuffer := BitVec 18

abbrev TcpSessionBufferScale := BitVec 2

inductive SessionState where
  | closed
  | synSent
  | synReceived
  | established
  | finWait1
  | finWait2
  | closing
  | timeWait
  | lastAck
deriving DecidableEq, Repr

structure FourTuple where
  srcIpAddr : IpAddr
  dstIpAddr : IpAddr
  srcTcpPort : TcpPortNumber
  dstTcpPort : TcpPortNumber
deriving DecidableEq, Repr

/-- A state-table request: a lookup, or with `write` an update. -/
structure StateTableReq where
  sessionId : TcpSessionID
  state : SessionState
  write : Bool
deriving DecidableEq, Repr

namespace StateTableReq

def lookup (id : TcpSessionID) : StateTableReq :=
  ⟨id, .closed, false⟩

def update (id : TcpSessionID) (state : SessionState) : StateTableReq :=
  ⟨id, state, true⟩

end StateTableReq

/-! ## Receive window -/

structure RxSarTableEntry where
  recvd : BitVec 32
  appRead : TcpSessionBuffer
  winShift : TcpSessionBufferScale
deriving DecidableEq, Repr

structure RxSarLookupRsp where
  recvd : BitVec 32
  winShift : TcpSessionBufferScale
  winSize : BitVec 16
deriving DecidableEq, Repr

structure RxEngToRxSarReq where
  recvd : BitVec 32
  sessionId : TcpSessionID
  winShift : TcpSessionBufferScale
  write : Bool
  init : Bool
deriving DecidableEq, Repr

namespace RxEngToRxSarReq

def lookup (id : TcpSessionID) : RxEngToRxSarReq :=
  ⟨0, id, 0, false, false⟩

def update (id : TcpSessionID) (recvd : BitVec 32) : RxEngToRxSarReq :=
  ⟨recvd, id, 0, true, false⟩

def initialise
    (id : TcpSessionID) (recvd : BitVec 32) (wsopt : BitVec 4) :
    RxEngToRxSarReq :=
  ⟨recvd, id, wsopt.setWidth 2, true, true⟩

end RxEngToRxSarReq

structure RxSarAppReqRsp where
  sessionId : TcpSessionID
  appRead : TcpSessionBuffer
  write : Bool
deriving DecidableEq, Repr

/-! ## Send window -/

structure TxSarTableEntry where
  ackd : BitVec 32
  notAckd : BitVec 32
  recvWindow : BitVec 16
  appWritten : TcpSessionBuffer
  congWindow : TcpSessionBuffer
  slowstartThreshold : TcpSessionBuffer
  winShift : TcpSessionBufferScale
  retransCount : BitVec 2
  fastRetrans : Bool
  finIsReady : Bool
  finIsSent : Bool
deriving DecidableEq, Repr

structure RxEngToTxSarReq where
  sessionId : TcpSessionID
  ackd : BitVec 32
  recvWindow : BitVec 16
  retransCount : BitVec 2
  fastRetrans : Bool
  winShift : TcpSessionBufferScale
  winShiftWrite : Bool
  congWindow : TcpSessionBuffer
  write : Bool
deriving DecidableEq, Repr

namespace RxEngToTxSarReq

def lookup (id : TcpSessionID) : RxEngToTxSarReq :=
  ⟨id, 0, 0, 0, false, 0, false, 0, false⟩

/-- The update constructor that leaves the stored window scale alone. -/
def update
    (id : TcpSessionID) (ackd : BitVec 32) (recvWin : BitVec 16)
    (congWin : TcpSessionBuffer) (count : BitVec 2) (fastRetrans : Bool)
    (winShift : TcpSessionBufferScale) : RxEngToTxSarReq :=
  ⟨id, ackd, recvWin, count, fastRetrans, winShift, false, congWin, true⟩

/-- The update constructor with `win_shift_write`. -/
def updateWithShift
    (id : TcpSessionID) (ackd : BitVec 32) (recvWin : BitVec 16)
    (congWin : TcpSessionBuffer) (count : BitVec 2) (fastRetrans : Bool)
    (winShiftWrite : Bool) (winShift : BitVec 4) : RxEngToTxSarReq :=
  ⟨id, ackd, recvWin, count, fastRetrans, winShift.setWidth 2,
    winShiftWrite, congWin, true⟩

end RxEngToTxSarReq

structure TxSarToRxEngRsp where
  pervAck : BitVec 32
  nextByte : BitVec 32
  congWindow : TcpSessionBuffer
  slowstartThreshold : TcpSessionBuffer
  retransCount : BitVec 2
  fastRetrans : Bool
  winShift : TcpSessionBufferScale
deriving DecidableEq, Repr

structure TxEngToTxSarReq where
  sessionId : TcpSessionID
  notAckd : BitVec 32
  write : Bool
  init : Bool
  finIsReady : Bool
  finIsSent : Bool
  retransReq : Bool
deriving DecidableEq, Repr

namespace TxEngToTxSarReq

def lookup (id : TcpSessionID) : TxEngToTxSarReq :=
  ⟨id, 0, false, false, false, false, false⟩

def update (id : TcpSessionID) (notAckd : BitVec 32) : TxEngToTxSarReq :=
  ⟨id, notAckd, true, false, false, false, false⟩

def initialise
    (id : TcpSessionID) (notAckd : BitVec 32) : TxEngToTxSarReq :=
  ⟨id, notAckd, true, true, false, false, false⟩

def updateFin
    (id : TcpSessionID) (notAckd : BitVec 32)
    (finIsReady finIsSent : Bool) : TxEngToTxSarReq :=
  ⟨id, notAckd, true, false, finIsReady, finIsSent, false⟩

/-- `TxEngToTxSarRetransReq`: the threshold travels in the low bits of
`not_ackd`. -/
def retrans
    (id : TcpSessionID) (ssthresh : TcpSessionBuffer) : TxEngToTxSarReq :=
  ⟨id, ssthresh.setWidth 32, true, false, false, false, true⟩

def getThreshold (req : TxEngToTxSarReq) : TcpSessionBuffer :=
  req.notAckd.setWidth 18

end TxEngToTxSarReq

structure TxSarToTxEngRsp where
  ackd : BitVec 32
  notAckd : BitVec 32
  minWindow : TcpSessionBuffer
  appWritten : TcpSessionBuffer
  finIsReady : Bool
  finIsSent : Bool
  currLength : TcpSessionBuffer
  usedLength : TcpSessionBuffer
  usedLengthRst : TcpSessionBuffer
  usableWindow : TcpSessionBuffer
  ackdEqNotAckd : Bool
  notAckdShort : BitVec 32
  notAckdPlusMss : BitVec 32
  winShift : BitVec 4
deriving DecidableEq, Repr

structure TxAppToTxSarReq where
  sessionId : TcpSessionID
  appWritten : TcpSessionBuffer
deriving DecidableEq, Repr

structure TxSarToTxAppReq where
  sessionId : TcpSessionID
  ackd : TcpSessionBuffer
  init : Bool
deriving DecidableEq, Repr

/-! ## Notifications -/

structure AppNotificationNoTDEST where
  sessionId : TcpSessionID
  length : BitVec 16
  ipAddr : IpAddr
  dstTcpPort : TcpPortNumber
  closed : Bool
deriving DecidableEq, Repr

structure OpenConnRspNoTDEST where
  sessionId : TcpSessionID
  success : Bool
deriving DecidableEq, Repr

structure NewClientNotificationNoTDEST where
  sessionId : TcpSessionID
  buffersize : BitVec 8
  maxSegmentSize : BitVec 11
  tcpNodelay : Bool
  tcpBufferIsEmpty : Bool
deriving DecidableEq, Repr

/-! ## Events -/

inductive EventType where
  | tx
  | rt
  | ack
  | syn
  | synAck
  | fin
  | rst
  | ackNodelay
  | rtCont
deriving DecidableEq, Repr

structure Event where
  type : EventType
  sessionId : TcpSessionID
  bufAddr : TcpSessionBuffer
  length : BitVec 16
  retransCnt : BitVec 3
deriving DecidableEq, Repr

namespace Event

def plain (type : EventType) (id : TcpSessionID) : Event :=
  ⟨type, id, 0, 0, 0⟩

def retry
    (type : EventType) (id : TcpSessionID) (retransCnt : BitVec 3) :
    Event :=
  ⟨type, id, 0, 0, retransCnt⟩

/-- `RstEvent(id, seq)`: the acknowledgement number of the reset is split
over the address and length members. -/
def rst (id : TcpSessionID) (seq : BitVec 32) : Event :=
  ⟨.rst, id, (seq.extractLsb' 16 16).setWidth 18,
    seq.extractLsb' 0 16, 1⟩

/-- `RstEvent::get_ack_number`. -/
def getAckNumber (event : Event) : BitVec 32 :=
  event.bufAddr.setWidth 16 ++ event.length

/-- `RstEvent::has_session_id`. -/
def hasSessionId (event : Event) : Bool :=
  event.retransCnt != 0

end Event

structure EventWithTuple extends Event where
  fourTuple : FourTuple
deriving DecidableEq, Repr

structure RxEngToRetransTimerReq where
  sessionId : TcpSessionID
  stop : Bool
deriving DecidableEq, Repr

structure TxEngToRetransTimerReq where
  sessionId : TcpSessionID
  type : EventType
deriving DecidableEq, Repr

/-! ## Segment metadata -/

/-- The header fields of a received segment that `RxEngTcpFsm` reads. -/
structure TcpHeaderMeta where
  seqNumber : BitVec 32
  ackNumber : BitVec 32
  winSize : BitVec 16
  ack : Bool
  rst : Bool
  syn : Bool
  fin : Bool
  winScale : TcpSessionBufferScale
  payloadLength : BitVec 16
deriving DecidableEq, Repr

structure RxEngFsmMetaData where
  sessionId : TcpSessionID
  srcIp : IpAddr
  dstPort : TcpPortNumber
  header : TcpHeaderMeta
deriving DecidableEq, Repr

/-- What the TX engine hands to header construction.  `length` counts the
payload and, on a SYN or SYN-ACK, the option bytes. -/
structure TxEngFsmMetaData where
  seqNumber : BitVec 32
  ackNumber : BitVec 32
  winSize : BitVec 16
  winScale : BitVec 4
  length : BitVec 16
  ack : Bool
  rst : Bool
  syn : Bool
  fin : Bool
deriving DecidableEq, Repr

end TcpOffload
