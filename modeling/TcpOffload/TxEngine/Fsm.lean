import TcpOffload.MemoryAccess

/-!
# `TxEngTcpFsm`

The send state machine of `tx_engine.cpp`.  One call is one clock; the input
streams are the queues in the state and everything written in a call is one
list in program order.  The registers `ackd_eq_not_ackd` and `usable_window`
are written and never read and are left out, and so is `role_id`.
-/

namespace TcpOffload

inductive TxEngFsmState where
  | load
  | transition
deriving DecidableEq, Repr

structure TxEngState where
  fsmState : TxEngFsmState
  txRxSarLoaded : Bool
  txEngEventReg : EventWithTuple
  retransSegCnt : BitVec 2
  rxSarRspReg : RxSarLookupRsp
  txSarRspReg : TxSarToTxEngRsp
  tcpTxMetaReg : TxEngFsmMetaData
  currLength : TcpSessionBuffer
  usedLength : TcpSessionBuffer
  remainingWindow : BitVec 19
  randomVal : BitVec 32
  events : List EventWithTuple
  rxSarRsps : List RxSarLookupRsp
  txSarRsps : List TxSarToTxEngRsp
deriving DecidableEq, Repr

/-- The registers as the design starts. -/
def TxEngState.start : TxEngState where
  fsmState := .load
  txRxSarLoaded := false
  txEngEventReg := ⟨Event.plain .tx 0, ⟨0, 0, 0, 0⟩⟩
  retransSegCnt := 0
  rxSarRspReg := ⟨0, 0, 0⟩
  txSarRspReg := ⟨0, 0, 0, 0, false, false, 0, 0, 0, 0, false, 0, 0, 0⟩
  tcpTxMetaReg := ⟨0, 0, 0, 0, 0, false, false, false, false⟩
  currLength := 0
  usedLength := 0
  remainingWindow := 0
  randomVal := 0x562301AF
  events := []
  rxSarRsps := []
  txSarRsps := []

inductive TxEngMsg where
  | readCount
  | rxSarLupReq (id : TcpSessionID)
  | txSarReq (req : TxEngToTxSarReq)
  | setRtimer (req : TxEngToRetransTimerReq)
  | setPtimer (id : TcpSessionID)
  | slookupReq (id : TcpSessionID)
  | payloadLength (length : BitVec 16)
  | metaData (metaData : TxEngFsmMetaData)
  | memReadCmd (cmd : MemBufferRWCmd)
  | fourTupleSource (fromSlookup : Bool)
  | fourTuple (tuple : FourTuple)
deriving DecidableEq, Repr

/-- The default constructor of the response, as the per-call local
`tx_sar_rsp` starts out. -/
def TxSarToTxEngRsp.empty : TxSarToTxEngRsp :=
  ⟨0, 0, 0, 0, false, false, 0, 0, 0, 0, false, 0, 0, 0⟩

/-- `RandomVal` of the synthesised design. -/
def nextRandomVal (randomVal : BitVec 32) : BitVec 32 :=
  (randomVal * 8) ^^^ randomVal

namespace TxEngState

def sessionId (state : TxEngState) : TcpSessionID :=
  state.txEngEventReg.sessionId

def setEventType (state : TxEngState) (type : EventType) : TxEngState :=
  { state with txEngEventReg := { state.txEngEventReg with type := type } }

end TxEngState

/-- The writes of a segment without payload whose tuple the session lookup
delivers. -/
def headerMsgs
    (id : TcpSessionID) (segment : TxEngFsmMetaData) : List TxEngMsg :=
  [.payloadLength segment.length, .metaData segment,
    .fourTupleSource true, .slookupReq id]

/-- The block at the end of `TX`, `RT` and `RT_CONT`: a segment leaves only
when it carries payload. -/
def payloadMsgs
    (id : TcpSessionID) (addr : BitVec 32) (segment : TxEngFsmMetaData) :
    List TxEngMsg :=
  if segment.length ≠ 0 then
    [.memReadCmd (MemBufferRWCmd.ofAddr addr segment.length)] ++
      headerMsgs id segment ++
      [.setRtimer ⟨id, .rt⟩]
  else
    []

/-! ## `LOAD` -/

/-- Event types that look up both windows. -/
def EventType.looksUpBoth : EventType → Bool
  | .rt | .tx | .synAck | .fin | .ackNodelay | .ack => true
  | .syn | .rst | .rtCont => false

def Event.looksUpRxSar (event : Event) : Bool :=
  event.type.looksUpBoth

def Event.looksUpTxSar (event : Event) : Bool :=
  match event.type with
  | .rst => event.hasSessionId
  | .syn => event.retransCnt != 0
  | other => other.looksUpBoth

def txEngLoad (state : TxEngState) : TxEngState × List TxEngMsg :=
  match state.events with
  | [] => ({ state with retransSegCnt := 0 }, [])
  | event :: later =>
      ({ state with
          fsmState := .transition
          txRxSarLoaded := false
          txEngEventReg := event
          retransSegCnt := 0
          events := later },
        [.readCount] ++
          (if event.looksUpRxSar then
            [.rxSarLupReq event.sessionId]
          else
            []) ++
          (if event.looksUpTxSar then
            [.txSarReq (TxEngToTxSarReq.lookup event.sessionId)]
          else
            []))

/-! ## `TX` -/

/-- What one call of the `TX` case decides: the segment, the pointer behind
it, the lengths for a further call and where the machine goes. -/
structure TxIteration where
  length : BitVec 16
  notAckd : BitVec 32
  nextCurrLength : BitVec 16
  nextUsedLength : BitVec 16
  fsmState : TxEngFsmState
  type : EventType
  writes : List TxEngMsg
deriving DecidableEq, Repr

/-- A full segment; the machine stays in `TX`. -/
def txFullSegment
    (currLength usedLength : TcpSessionBuffer) (rsp : TxSarToTxEngRsp) :
    TxIteration where
  length := BitVec.ofNat 16 tcpMss
  notAckd := rsp.notAckd + BitVec.ofNat 32 tcpMss
  nextCurrLength := (currLength - BitVec.ofNat 18 tcpMss).setWidth 16
  nextUsedLength := (usedLength + BitVec.ofNat 18 tcpMss).setWidth 16
  fsmState := .transition
  type := .tx
  writes := []

/-- All remaining data fits one small segment.  The lengths for a further
call are assigned on one path only, and not read again: the machine goes to
`LOAD` or to `FIN`. -/
def txShortSegment
    (id : TcpSessionID) (currLength : TcpSessionBuffer)
    (rsp : TxSarToTxEngRsp) : TxIteration :=
  let finFollows :=
    rsp.finIsReady && (rsp.ackdEqNotAckd || currLength == 0)
  let notAckd :=
    if rsp.ackdEqNotAckd then
      rsp.notAckdShort
    else
      rsp.notAckd + currLength.setWidth 32
  { length := currLength.setWidth 16
    notAckd := notAckd
    nextCurrLength :=
      if rsp.ackdEqNotAckd then
        (rsp.notAckd.setWidth 18 - currLength).setWidth 16
      else
        0
    nextUsedLength :=
      if rsp.ackdEqNotAckd then
        (rsp.notAckd.setWidth 18 + currLength).setWidth 16
      else
        0
    fsmState := if finFollows then .transition else .load
    type := if finFollows then .fin else .tx
    writes :=
      (if rsp.ackdEqNotAckd then [] else [.setPtimer id]) ++
        [.txSarReq (TxEngToTxSarReq.update id notAckd)] }

/-- The window ends within the next segment. -/
def txWindowSegment
    (id : TcpSessionID) (currLength usedLength usableWindow :
      TcpSessionBuffer)
    (rsp : TxSarToTxEngRsp) : TxIteration :=
  let notAckd := rsp.notAckd + usableWindow.setWidth 32
  { length := usableWindow.setWidth 16
    notAckd := notAckd
    nextCurrLength := (currLength - usableWindow).setWidth 16
    nextUsedLength := (usedLength + usableWindow).setWidth 16
    fsmState := .load
    type := .tx
    writes :=
      [.setPtimer id, .txSarReq (TxEngToTxSarReq.update id notAckd)] }

def txIteration
    (id : TcpSessionID) (currLength usedLength usableWindow :
      TcpSessionBuffer)
    (rsp : TxSarToTxEngRsp) : TxIteration :=
  if currLength ≤ usableWindow then
    if BitVec.ofNat 18 tcpMss ≤ currLength then
      txFullSegment currLength usedLength rsp
    else
      txShortSegment id currLength rsp
  else
    if BitVec.ofNat 18 tcpMss ≤ usableWindow then
      txFullSegment currLength usedLength rsp
    else
      txWindowSegment id currLength usedLength usableWindow rsp

/-- `remaining_window = min_window - next_used_length` with a sign bit. -/
def remainingWindowAfter
    (minWindow : TcpSessionBuffer) (nextUsedLength : BitVec 16) :
    BitVec 19 :=
  minWindow.setWidth 19 - nextUsedLength.setWidth 19

/-- The `TX` case once the response, fresh or registered, is at hand. -/
def txSend
    (state : TxEngState) (rsp : TxSarToTxEngRsp)
    (usableWindow : TcpSessionBuffer) : TxEngState × List TxEngMsg :=
  let step :=
    txIteration state.sessionId state.currLength state.usedLength
      usableWindow rsp
  let segment :=
    { state.tcpTxMetaReg with
      seqNumber := rsp.notAckd
      length := step.length }
  let addr :=
    getSessionMemAddr .tx state.sessionId (rsp.notAckd.setWidth 18)
  ({ state.setEventType step.type with
      fsmState := step.fsmState
      txRxSarLoaded := true
      txSarRspReg := { rsp with notAckd := step.notAckd }
      tcpTxMetaReg := segment
      currLength := step.nextCurrLength.setWidth 18
      usedLength := step.nextUsedLength.setWidth 18
      remainingWindow :=
        remainingWindowAfter rsp.minWindow step.nextUsedLength },
    step.writes ++ payloadMsgs state.sessionId addr segment)

def txEngTx (state : TxEngState) : TxEngState × List TxEngMsg :=
  if state.txRxSarLoaded then
    let usableWindow :=
      if !state.remainingWindow.getLsbD windowBits then
        state.remainingWindow.setWidth 18
      else
        0
    txSend state state.txSarRspReg usableWindow
  else
    match state.rxSarRsps, state.txSarRsps with
    | rxRsp :: rxLater, txRsp :: txLater =>
        txSend
          { state with
            rxSarRspReg := rxRsp
            currLength := txRsp.currLength
            usedLength := txRsp.usedLength
            tcpTxMetaReg :=
              { state.tcpTxMetaReg with
                winSize := rxRsp.winSize
                rst := false
                syn := false
                fin := false
                length := 0
                ack := true
                ackNumber := rxRsp.recvd }
            rxSarRsps := rxLater
            txSarRsps := txLater }
          txRsp txRsp.usableWindow
    | _, _ => (state, [])

/-! ## `RT` and `RT_CONT` -/

/-- `max(FlightSize / 2, 2 * TCP_MSS)` in a 16-bit register. -/
def slowstartThresholdFor (currLength : TcpSessionBuffer) : BitVec 16 :=
  if BitVec.ofNat 18 (4 * tcpMss) < currLength then
    (currLength / 2).setWidth 16
  else
    BitVec.ofNat 16 (2 * tcpMss)

def retransThresholdMsgs
    (state : TxEngState) (currLength : TcpSessionBuffer) :
    List TxEngMsg :=
  if !state.txRxSarLoaded && state.txEngEventReg.retransCnt == 1 then
    [.txSarReq
      (TxEngToTxSarReq.retrans state.sessionId
        ((slowstartThresholdFor currLength).setWidth 18))]
  else
    []

/-- One retransmitted segment.  `rsp` is the copy of the response whose
`ackd` and `used_length_rst` move on, `addrAckd` the `ackd` the payload
address is made from. -/
def rtSend
    (state : TxEngState) (rsp : TxSarToTxEngRsp) (addrAckd : BitVec 32) :
    TxEngState × List TxEngMsg :=
  let currLength := rsp.usedLengthRst
  let addr :=
    getSessionMemAddr .tx state.sessionId (addrAckd.setWidth 18)
  let header :=
    { state.tcpTxMetaReg with
      ackNumber := state.rxSarRspReg.recvd
      seqNumber := rsp.ackd
      winSize := state.rxSarRspReg.winSize
      ack := true
      rst := false
      syn := false
      fin := false }
  let threshold := retransThresholdMsgs state currLength
  if BitVec.ofNat 18 tcpMss < currLength then
    let segment := { header with length := BitVec.ofNat 16 tcpMss }
    ({ state.setEventType .rtCont with
        fsmState := if state.retransSegCnt = 3 then .load else .transition
        retransSegCnt := state.retransSegCnt + 1
        txSarRspReg :=
          { rsp with
            ackd := rsp.ackd + BitVec.ofNat 32 tcpMss
            usedLengthRst := rsp.usedLengthRst - BitVec.ofNat 18 tcpMss }
        tcpTxMetaReg := segment
        currLength := currLength },
      threshold ++ payloadMsgs state.sessionId addr segment)
  else
    let segment := { header with length := currLength.setWidth 16 }
    ({ state.setEventType
          (if rsp.finIsSent then .fin else state.txEngEventReg.type) with
        fsmState := if rsp.finIsSent then .transition else .load
        txSarRspReg := rsp
        tcpTxMetaReg := segment
        currLength := currLength },
      threshold ++ payloadMsgs state.sessionId addr segment)

def txEngRt (state : TxEngState) : TxEngState × List TxEngMsg :=
  match state.rxSarRsps, state.txSarRsps with
  | rxRsp :: rxLater, txRsp :: txLater =>
      let sent :=
        rtSend
          { state with
            rxSarRspReg := rxRsp
            rxSarRsps := rxLater
            txSarRsps := txLater }
          txRsp txRsp.ackd
      ({ sent.1 with txRxSarLoaded := true }, sent.2)
  | _, _ => (state, [])

/-- The address comes from the local `tx_sar_rsp`, which this case never
assigns, while everything else comes from the register. -/
def txEngRtCont (state : TxEngState) : TxEngState × List TxEngMsg :=
  rtSend state state.txSarRspReg TxSarToTxEngRsp.empty.ackd

/-! ## Segments without payload -/

def txEngAck (state : TxEngState) : TxEngState × List TxEngMsg :=
  match state.rxSarRsps, state.txSarRsps with
  | rxRsp :: rxLater, txRsp :: txLater =>
      let segment :=
        { state.tcpTxMetaReg with
          ackNumber := rxRsp.recvd
          seqNumber := txRsp.notAckd
          winSize := rxRsp.winSize
          length := 0
          ack := true
          rst := false
          syn := false
          fin := false }
      ({ state with
          fsmState := .load
          rxSarRspReg := rxRsp
          tcpTxMetaReg := segment
          rxSarRsps := rxLater
          txSarRsps := txLater },
        headerMsgs state.sessionId segment)
  | _, _ => (state, [])

def txEngSyn (state : TxEngState) : TxEngState × List TxEngMsg :=
  let send (state : TxEngState) (seqNumber : BitVec 32)
      (writes : List TxEngMsg) : TxEngState × List TxEngMsg :=
    let segment : TxEngFsmMetaData :=
      { seqNumber := seqNumber
        ackNumber := 0
        winSize := 0xFFFF
        winScale := BitVec.ofNat 4 windowScaleBits
        length := 8
        ack := false
        rst := false
        syn := true
        fin := false }
    ({ state with fsmState := .load, tcpTxMetaReg := segment },
      writes ++ headerMsgs state.sessionId segment ++
        [.setRtimer ⟨state.sessionId, .syn⟩])
  if state.txEngEventReg.retransCnt ≠ 0 then
    match state.txSarRsps with
    | txRsp :: txLater =>
        send { state with txSarRsps := txLater } txRsp.ackd []
    | [] => (state, [])
  else
    let seqNumber := nextRandomVal state.randomVal
    send { state with randomVal := seqNumber } seqNumber
      [.txSarReq
        (TxEngToTxSarReq.initialise state.sessionId (seqNumber + 1))]

def txEngSynAck (state : TxEngState) : TxEngState × List TxEngMsg :=
  match state.rxSarRsps, state.txSarRsps with
  | rxRsp :: rxLater, txRsp :: txLater =>
      let repeated := state.txEngEventReg.retransCnt ≠ 0
      let randomVal := nextRandomVal state.randomVal
      let seqNumber := if repeated then txRsp.ackd else randomVal
      let writes :=
        if repeated then
          []
        else
          [TxEngMsg.txSarReq
            (TxEngToTxSarReq.initialise state.sessionId (randomVal + 1))]
      let segment : TxEngFsmMetaData :=
        { seqNumber := seqNumber
          ackNumber := rxRsp.recvd
          winSize := 0xFFFF
          winScale := rxRsp.winShift.setWidth 4
          length := if rxRsp.winShift ≠ 0 then 8 else 4
          ack := true
          rst := false
          syn := true
          fin := false }
      ({ state with
          fsmState := .load
          rxSarRspReg := rxRsp
          tcpTxMetaReg := segment
          randomVal := if repeated then state.randomVal else randomVal
          rxSarRsps := rxLater
          txSarRsps := txLater },
        writes ++
          [.metaData segment, .payloadLength segment.length,
            .fourTupleSource true, .slookupReq state.sessionId,
            .setRtimer ⟨state.sessionId, .synAck⟩])
  | _, _ => (state, [])

/-- The `FIN` case once the response is at hand. -/
def finSend
    (state : TxEngState) (rsp : TxSarToTxEngRsp) :
    TxEngState × List TxEngMsg :=
  let repeated := state.txEngEventReg.retransCnt ≠ 0
  let segment :=
    { state.tcpTxMetaReg with
      ackNumber := state.rxSarRspReg.recvd
      winSize := state.rxSarRspReg.winSize
      length := 0
      ack := true
      rst := false
      syn := false
      fin := true
      seqNumber := if repeated then rsp.notAckd - 1 else rsp.notAckd }
  let writes :=
    if repeated then
      []
    else if rsp.appWritten = rsp.notAckd.setWidth 18 then
      [TxEngMsg.txSarReq
        (TxEngToTxSarReq.updateFin state.sessionId (rsp.notAckd + 1)
          true true)]
    else
      -- data is left, the FIN is announced to the probe timer's next TX
      [TxEngMsg.txSarReq
        (TxEngToTxSarReq.updateFin state.sessionId rsp.notAckd
          true false)]
  ({ state with fsmState := .load, tcpTxMetaReg := segment },
    writes ++
      if segment.seqNumber.setWidth 18 = rsp.appWritten then
        [.metaData segment, .payloadLength segment.length,
          .fourTupleSource true, .slookupReq state.sessionId,
          .setRtimer ⟨state.sessionId, .rt⟩]
      else
        [])

def txEngFin (state : TxEngState) : TxEngState × List TxEngMsg :=
  if state.txRxSarLoaded then
    finSend state state.txSarRspReg
  else
    match state.rxSarRsps, state.txSarRsps with
    | rxRsp :: rxLater, txRsp :: txLater =>
        finSend
          { state with
            rxSarRspReg := rxRsp
            rxSarRsps := rxLater
            txSarRsps := txLater }
          txRsp
    | _, _ => (state, [])

/-- The header of a reset: acknowledgement and reset flag only. -/
def rstMetaData (seqNumber ackNumber : BitVec 32) : TxEngFsmMetaData :=
  ⟨seqNumber, ackNumber, 0, 0, 0, true, true, false, false⟩

/-- The machine returns to `LOAD` even when the response is not there. -/
def txEngRst (state : TxEngState) : TxEngState × List TxEngMsg :=
  let event := state.txEngEventReg
  if event.hasSessionId then
    match state.txSarRsps with
    | txRsp :: txLater =>
        ({ state with fsmState := .load, txSarRsps := txLater },
          [.payloadLength 0,
            .metaData (rstMetaData txRsp.notAckd event.getAckNumber),
            .fourTupleSource true, .slookupReq event.sessionId])
    | [] => ({ state with fsmState := .load }, [])
  else
    ({ state with fsmState := .load },
      [.payloadLength 0, .metaData (rstMetaData 0 event.getAckNumber),
        .fourTupleSource false, .fourTuple event.fourTuple])

/-- `TxEngTcpFsm`. -/
def txEngTcpFsm (state : TxEngState) : TxEngState × List TxEngMsg :=
  match state.fsmState with
  | .load => txEngLoad state
  | .transition =>
      match state.txEngEventReg.type with
      | .tx => txEngTx state
      | .rt => txEngRt state
      | .rtCont => txEngRtCont state
      | .ack
      | .ackNodelay => txEngAck state
      | .syn => txEngSyn state
      | .synAck => txEngSynAck state
      | .fin => txEngFin state
      | .rst => txEngRst state

end TcpOffload
