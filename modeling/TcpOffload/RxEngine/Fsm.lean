import TcpOffload.MemoryAccess

/-!
# `RxEngTcpFsm`

The receive state machine of `rx_engine.cpp`.  A segment takes two calls that
do something: `LOAD` asks the state table and the SAR tables, `TRANSITION`
handles the segment once they have answered.  Everything written in a call is
one list in program order.
-/

namespace TcpOffload

inductive RxEngFsmState where
  | load
  | transition
deriving DecidableEq, Repr

/-- `txWinScale` is the local `tx_win_scale`, which the FIN+ACK case reads
without having assigned it. -/
structure RxEngState where
  fsmState : RxEngFsmState
  tcpRxMetaReg : RxEngFsmMetaData
  rxEngSentTxSarReq : Bool
  rxEngCtrlBits : BitVec 4
  sessionStateReg : SessionState
  rxSarReg : RxSarTableEntry
  txSarReg : TxSarToRxEngRsp
  txWinScale : BitVec 4
  metaDatas : List RxEngFsmMetaData
  sttableRsps : List SessionState
  rxSarRsps : List RxSarTableEntry
  txSarRsps : List TxSarToRxEngRsp
deriving DecidableEq, Repr

/-- The registers as the design starts. -/
def RxEngState.start : RxEngState where
  fsmState := .load
  tcpRxMetaReg := ⟨0, 0, 0, ⟨0, 0, 0, false, false, false, false, 0, 0⟩⟩
  rxEngSentTxSarReq := false
  rxEngCtrlBits := 0
  sessionStateReg := .closed
  rxSarReg := ⟨0, 0, 0⟩
  txSarReg := ⟨0, 0, 0, 0, 0, false, 0⟩
  txWinScale := 0
  metaDatas := []
  sttableRsps := []
  rxSarRsps := []
  txSarRsps := []

inductive RxEngMsg where
  | sttableReq (req : StateTableReq)
  | rxSarReq (req : RxEngToRxSarReq)
  | txSarReq (req : RxEngToTxSarReq)
  | clearRtimer (req : RxEngToRetransTimerReq)
  | clearPtimer (id : TcpSessionID)
  | setCtimer (id : TcpSessionID)
  | setEvent (event : Event)
  | openConnNotify (rsp : OpenConnRspNoTDEST)
  | newClientNotify (client : NewClientNotificationNoTDEST)
  | rxAppNotify (notification : AppNotificationNoTDEST)
  | memCmd (cmd : MemBufferRWCmd)
  | droppedByRxFsm (drop : Bool)
deriving DecidableEq, Repr

/-! ## `LOAD` -/

/-- `rx_eng_ctrl_bits`: ACK, SYN, FIN and RST from bit 0 up. -/
def TcpHeaderMeta.ctrlBits (header : TcpHeaderMeta) : BitVec 4 :=
  BitVec.ofBool header.rst ++ BitVec.ofBool header.fin ++
    BitVec.ofBool header.syn ++ BitVec.ofBool header.ack

/-- The register `rx_eng_sent_tx_sar_req` is only ever set here. -/
def rxEngLoad (state : RxEngState) : RxEngState × List RxEngMsg :=
  match state.metaDatas with
  | [] => (state, [])
  | segment :: later =>
      ({ state with
          fsmState := .transition
          tcpRxMetaReg := segment
          rxEngSentTxSarReq :=
            segment.header.ack || state.rxEngSentTxSarReq
          rxEngCtrlBits := segment.header.ctrlBits
          metaDatas := later },
        [.sttableReq (StateTableReq.lookup segment.sessionId),
            .rxSarReq (RxEngToRxSarReq.lookup segment.sessionId)] ++
          if segment.header.ack then
            [.txSarReq (RxEngToTxSarReq.lookup segment.sessionId)]
          else
            [])

/-! ## ACK -/

/-- The states whose ACKs are looked at. -/
def SessionState.takesAck : SessionState → Bool
  | .established | .synReceived | .finWait1 | .closing | .lastAck => true
  | .closed | .synSent | .finWait2 | .timeWait => false

namespace TxSarToRxEngRsp

/-- The window test on the acknowledgement number. -/
def acceptsAck
    (rsp : TxSarToRxEngRsp) (ackNumber : BitVec 32) : Bool :=
  (decide (rsp.pervAck ≤ ackNumber) &&
      decide (ackNumber ≤ rsp.nextByte)) ||
    ((decide (rsp.pervAck ≤ ackNumber) ||
        decide (ackNumber ≤ rsp.nextByte)) &&
      decide (rsp.nextByte < rsp.pervAck))

/-- An old ACK: nothing new is acknowledged and something is in flight. -/
def isOldAck (rsp : TxSarToRxEngRsp) (ackNumber : BitVec 32) : Bool :=
  ackNumber == rsp.pervAck && rsp.pervAck != rsp.nextByte

/-- Slow start below the threshold, one byte an ACK above it.  The threshold
minus a segment is a signed number. -/
def grownCongWindow (rsp : TxSarToRxEngRsp) : TcpSessionBuffer :=
  if (rsp.congWindow.toNat : Int) ≤
      (rsp.slowstartThreshold.toNat : Int) - (tcpMss : Int) then
    rsp.congWindow + BitVec.ofNat 18 tcpMss
  else if rsp.congWindow.toNat ≤ congestionWindowMax then
    rsp.congWindow + 1
  else
    rsp.congWindow

/-- `tx_sar_reg` after the ACK was counted. -/
def afterAck
    (rsp : TxSarToRxEngRsp) (header : TcpHeaderMeta) : TxSarToRxEngRsp :=
  if rsp.isOldAck header.ackNumber then
    if header.payloadLength = 0 then
      { rsp with retransCount := rsp.retransCount + 1 }
    else
      rsp
  else
    { rsp with
      congWindow := rsp.grownCongWindow
      retransCount := 0
      fastRetrans := false }

end TxSarToRxEngRsp

namespace RxSarTableEntry

/-- `free_space`. -/
def freeSpace (entry : RxSarTableEntry) : TcpSessionBuffer :=
  entry.appRead - entry.recvd.setWidth 18 - 1

/-- The segment is in order and its payload fits. -/
def acceptsPayload
    (entry : RxSarTableEntry) (header : TcpHeaderMeta) : Bool :=
  header.seqNumber == entry.recvd &&
    decide (header.payloadLength.setWidth 18 < entry.freeSpace)

end RxSarTableEntry

namespace RxEngFsmMetaData

variable (segment : RxEngFsmMetaData)

/-- The write command that puts the payload where the receive ring stores
its sequence numbers. -/
def payloadCmd : MemBufferRWCmd :=
  MemBufferRWCmd.ofAddr
    (getSessionMemAddr .rx segment.sessionId
      (segment.header.seqNumber.setWidth 18))
    segment.header.payloadLength

/-- The writes for payload that is taken into the receive ring. -/
def takePayload (closed : Bool) : List RxEngMsg :=
  [.memCmd segment.payloadCmd,
    .rxAppNotify
      ⟨segment.sessionId, segment.header.payloadLength, segment.srcIp,
        segment.dstPort, closed⟩,
    .droppedByRxFsm false]

/-- Payload in the pipe that is not taken has to be dropped. -/
def dropPayload : List RxEngMsg :=
  if segment.header.payloadLength ≠ 0 then [.droppedByRxFsm true] else []

/-- A notification without data that the connection is closed. -/
def closeNotification : RxEngMsg :=
  .rxAppNotify
    ⟨segment.sessionId, 0, segment.srcIp, segment.dstPort, true⟩

def updateState (state : SessionState) : RxEngMsg :=
  .sttableReq (StateTableReq.update segment.sessionId state)

def clearRtimer (stop : Bool) : RxEngMsg :=
  .clearRtimer ⟨segment.sessionId, stop⟩

end RxEngFsmMetaData

/-- The state update of an ACK that acknowledges everything sent. -/
def rxEngAckedAll
    (segment : RxEngFsmMetaData) (sessionState : SessionState) :
    List RxEngMsg :=
  match sessionState with
  | .synReceived =>
      [.newClientNotify ⟨segment.sessionId, 0, 1460, false, true⟩,
        segment.updateState .established]
  | .closing =>
      [.setCtimer segment.sessionId, segment.updateState .timeWait]
  | .lastAck => [segment.updateState .closed]
  | other => [segment.updateState other]

/-- What an ACK inside the send window writes, with the counted
`tx_sar_reg`. -/
def rxEngAckAccepted
    (segment : RxEngFsmMetaData) (sessionState : SessionState)
    (rxSar : RxSarTableEntry) (txSar : TxSarToRxEngRsp) :
    List RxEngMsg :=
  let header := segment.header
  let id := segment.sessionId
  let newRecvd := header.seqNumber + header.payloadLength.setWidth 32
  let event :=
    if txSar.retransCount = 3 ∧ txSar.fastRetrans = false then
      Event.plain .rt id
    else
      Event.plain .ack id
  [.txSarReq
      (RxEngToTxSarReq.update id header.ackNumber header.winSize
        txSar.congWindow txSar.retransCount
        (txSar.retransCount == 3 || txSar.fastRetrans) txSar.winShift)] ++
    (if header.payloadLength ≠ 0 then
      if rxSar.acceptsPayload header then
        .rxSarReq (RxEngToRxSarReq.update id newRecvd) ::
          segment.takePayload false
      else
        [.droppedByRxFsm true]
    else
      []) ++
    (if header.payloadLength ≠ 0 then [.setEvent event] else []) ++
    if header.ackNumber = txSar.nextByte then
      rxEngAckedAll segment sessionState
    else
      [segment.updateState sessionState]

/-- An ACK outside the send window ends here without a write to the state
table and without a decision on its payload. -/
def rxEngAck (state : RxEngState) : RxEngState × List RxEngMsg :=
  let segment := state.tcpRxMetaReg
  let header := segment.header
  let rtimer :=
    segment.clearRtimer (header.ackNumber == state.txSarReg.nextByte)
  if state.sessionStateReg.takesAck then
    let txSarReg := state.txSarReg.afterAck header
    ({ state with txSarReg := txSarReg },
      rtimer ::
        (if state.txSarReg.isOldAck header.ackNumber then
          []
        else
          [.clearPtimer segment.sessionId]) ++
        if state.txSarReg.acceptsAck header.ackNumber then
          rxEngAckAccepted segment state.sessionStateReg state.rxSarReg
            txSarReg
        else
          [])
  else
    (state,
      rtimer ::
        .setEvent
          (Event.rst segment.sessionId
            (header.seqNumber + header.payloadLength.setWidth 32)) ::
        (segment.dropPayload ++
          [segment.updateState state.sessionStateReg]))

/-! ## SYN and SYN+ACK -/

/-- `rx_win_scale`: our shift, if the peer announces the option. -/
def TcpHeaderMeta.rxWinScale (header : TcpHeaderMeta) : BitVec 4 :=
  if header.winScale = 0 then 0 else BitVec.ofNat 4 windowScaleBits

/-- The sum `seq_number + 1` is compared with all its 33 bits. -/
def rxEngSyn (state : RxEngState) : RxEngState × List RxEngMsg :=
  let segment := state.tcpRxMetaReg
  let header := segment.header
  let id := segment.sessionId
  match state.sessionStateReg with
  | .closed | .synSent =>
      ({ state with txWinScale := header.winScale.setWidth 4 },
        [.rxSarReq
            (RxEngToRxSarReq.initialise id (header.seqNumber + 1)
              header.rxWinScale),
          .txSarReq
            (RxEngToTxSarReq.updateWithShift id 0 header.winSize
              state.txSarReg.congWindow 0 false true header.rxWinScale),
          segment.updateState .synReceived,
          .setEvent (Event.plain .synAck id)])
  | .synReceived =>
      if header.seqNumber.toNat + 1 = state.rxSarReg.recvd.toNat then
        (state,
          [segment.updateState .synReceived,
            .setEvent (Event.retry .synAck id 1)])
      else
        (state,
          [segment.updateState .closed,
            .setEvent (Event.rst id (header.seqNumber + 1))])
  | other =>
      (state,
        [segment.updateState other, .setEvent (Event.plain .ackNodelay id)])

def rxEngSynAck (state : RxEngState) : RxEngState × List RxEngMsg :=
  let segment := state.tcpRxMetaReg
  let header := segment.header
  let id := segment.sessionId
  let rtimer :=
    segment.clearRtimer (header.ackNumber == state.txSarReg.nextByte)
  match state.sessionStateReg with
  | .synSent =>
      if header.ackNumber = state.txSarReg.nextByte then
        ({ state with txWinScale := header.winScale.setWidth 4 },
          [rtimer,
            .rxSarReq
              (RxEngToRxSarReq.initialise id (header.seqNumber + 1)
                header.rxWinScale),
            .txSarReq
              (RxEngToTxSarReq.updateWithShift id header.ackNumber
                header.winSize state.txSarReg.congWindow 0 false true
                (header.winScale.setWidth 4)),
            .openConnNotify ⟨id, true⟩,
            segment.updateState .established,
            .setEvent (Event.plain .ackNodelay id)])
      else
        (state,
          [rtimer,
            segment.updateState .closed,
            .setEvent
              (Event.rst id
                (header.seqNumber + header.payloadLength.setWidth 32 +
                  1))])
  | other =>
      (state,
        [rtimer, segment.updateState other,
          .setEvent (Event.plain .ackNodelay id)])

/-! ## FIN+ACK -/

/-- The states in which the peer's FIN is taken. -/
def SessionState.takesFin : SessionState → Bool
  | .established | .finWait1 | .finWait2 => true
  | .closed | .synSent | .synReceived | .closing | .timeWait
  | .lastAck => false

/-- The state after a FIN that was taken, with the writes that go with it. -/
def rxEngFinState (state : RxEngState) : List RxEngMsg :=
  let segment := state.tcpRxMetaReg
  let id := segment.sessionId
  if state.sessionStateReg = .established then
    [segment.updateState .lastAck, .setEvent (Event.plain .fin id)]
  else
    (if segment.header.ackNumber = state.txSarReg.nextByte then
      [.setCtimer id, segment.updateState .timeWait]
    else
      [segment.updateState .closing]) ++
      [.setEvent (Event.plain .ack id)]

/-- The only test on the segment is that it is in order: neither the
acknowledgement number nor the free space is looked at. -/
def rxEngFinAck (state : RxEngState) : RxEngState × List RxEngMsg :=
  let segment := state.tcpRxMetaReg
  let header := segment.header
  let id := segment.sessionId
  let rtimer :=
    segment.clearRtimer (header.ackNumber == state.txSarReg.nextByte)
  if state.sessionStateReg.takesFin &&
      state.rxSarReg.recvd == header.seqNumber then
    (state,
      [rtimer,
          .txSarReq
            (RxEngToTxSarReq.update id header.ackNumber header.winSize
              state.txSarReg.congWindow state.txSarReg.retransCount
              state.txSarReg.fastRetrans (state.txWinScale.setWidth 2)),
          .rxSarReq
            (RxEngToRxSarReq.update id
              (header.seqNumber + header.payloadLength.setWidth 32 + 1)),
          .clearPtimer id] ++
        (if header.payloadLength ≠ 0 then
          segment.takePayload true
        else if state.sessionStateReg = .established then
          [segment.closeNotification]
        else
          []) ++
        rxEngFinState state)
  else
    (state,
      rtimer :: segment.dropPayload ++
        [segment.updateState state.sessionStateReg,
          .setEvent (Event.plain .ack id)])

/-! ## Everything else -/

/-- RST, and flag combinations without a case of their own. -/
def rxEngDefault (state : RxEngState) : RxEngState × List RxEngMsg :=
  let segment := state.tcpRxMetaReg
  let header := segment.header
  let release := segment.updateState state.sessionStateReg
  (state,
    if header.rst then
      if state.sessionStateReg = .synSent then
        if header.ackNumber = state.txSarReg.nextByte then
          [.openConnNotify ⟨segment.sessionId, false⟩,
            segment.clearRtimer true, segment.updateState .closed]
        else
          [release]
      else
        if header.seqNumber = state.rxSarReg.recvd then
          [segment.closeNotification, segment.clearRtimer true,
            segment.updateState .closed]
        else
          [release]
    else
      [release])

/-! ## The machine -/

/-- The cases on the flags. -/
def rxEngHandle (state : RxEngState) : RxEngState × List RxEngMsg :=
  if state.rxEngCtrlBits = 1 then
    rxEngAck state
  else if state.rxEngCtrlBits = 2 then
    rxEngSyn state
  else if state.rxEngCtrlBits = 3 then
    rxEngSynAck state
  else if state.rxEngCtrlBits = 5 then
    rxEngFinAck state
  else
    rxEngDefault state

/-- The registers once every table that was asked has answered. -/
def RxEngState.takeAnswers (state : RxEngState) : Option RxEngState :=
  match state.sttableRsps, state.rxSarRsps with
  | sessionState :: sttableLater, rxSar :: rxSarLater =>
      let loaded :=
        { state with
          fsmState := .load
          rxEngSentTxSarReq := false
          sessionStateReg := sessionState
          rxSarReg := rxSar
          sttableRsps := sttableLater
          rxSarRsps := rxSarLater }
      if state.rxEngSentTxSarReq then
        match state.txSarRsps with
        | txSar :: txSarLater =>
            some { loaded with txSarReg := txSar, txSarRsps := txSarLater }
        | [] => none
      else
        some loaded
  | _, _ => none

def rxEngTransition (state : RxEngState) : RxEngState × List RxEngMsg :=
  match state.takeAnswers with
  | some loaded => rxEngHandle loaded
  | none => (state, [])

/-- `RxEngTcpFsm`. -/
def rxEngTcpFsm (state : RxEngState) : RxEngState × List RxEngMsg :=
  match state.fsmState with
  | .load => rxEngLoad state
  | .transition => rxEngTransition state

end TcpOffload
