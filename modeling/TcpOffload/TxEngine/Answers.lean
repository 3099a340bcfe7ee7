import TcpOffload.TxEngine.Events

/-!
# Answers taken by `TxEngTcpFsm`

Which answers the current event still waits for, and what one call in
`TRANSITION` takes from the two streams of answers.
-/

namespace TcpOffload

/-! ## Requests written in a call -/

namespace TxEngMsg

def toTxSar : TxEngMsg → Option TxEngToTxSarReq
  | .txSarReq req => some req
  | _ => none

def toRxSar : TxEngMsg → Option TcpSessionID
  | .rxSarLupReq id => some id
  | _ => none

end TxEngMsg

/-- All requests to the TX SAR table. -/
def reqsToTxSar (msgs : List TxEngMsg) : List TxEngToTxSarReq :=
  msgs.filterMap TxEngMsg.toTxSar

/-- All lookups in the RX SAR table. -/
def lupsToRxSar (msgs : List TxEngMsg) : List TcpSessionID :=
  msgs.filterMap TxEngMsg.toRxSar

/-- No lookup is among the messages. -/
structure WritesOnly (msgs : List TxEngMsg) : Prop where
  txSar : ∀ req ∈ reqsToTxSar msgs, req.write = true
  rxSar : lupsToRxSar msgs = []

namespace WritesOnly

theorem nil : WritesOnly [] :=
  ⟨fun _ member => (by cases member), rfl⟩

theorem append
    {first second : List TxEngMsg}
    (left : WritesOnly first) (right : WritesOnly second) :
    WritesOnly (first ++ second) := by
  refine ⟨fun req member => ?_, ?_⟩
  · rw [reqsToTxSar, List.filterMap_append] at member
    rcases List.mem_append.1 member with inFirst | inSecond
    · exact left.txSar req inFirst
    · exact right.txSar req inSecond
  · rw [lupsToRxSar, List.filterMap_append]
    exact List.append_eq_nil_iff.2 ⟨left.rxSar, right.rxSar⟩

theorem ite
    {first second : List TxEngMsg} {test : Prop} [Decidable test]
    (left : WritesOnly first) (right : WritesOnly second) :
    WritesOnly (if test then first else second) := by
  split
  · exact left
  · exact right

/-- One write to the TX SAR table. -/
theorem write
    {req : TxEngToTxSarReq} (isWrite : req.write = true) :
    WritesOnly [.txSarReq req] := by
  refine ⟨fun other member => ?_, rfl⟩
  rw [List.mem_singleton.1 member]
  exact isWrite

/-- Messages to neither table. -/
theorem of_none
    {msgs : List TxEngMsg}
    (noTxSar : reqsToTxSar msgs = []) (noRxSar : lupsToRxSar msgs = []) :
    WritesOnly msgs := by
  refine ⟨fun req member => ?_, noRxSar⟩
  rw [noTxSar] at member
  cases member

theorem header (id : TcpSessionID) (segment : TxEngFsmMetaData) :
    WritesOnly (headerMsgs id segment) :=
  of_none rfl rfl

theorem payload
    (id : TcpSessionID) (addr : BitVec 32) (segment : TxEngFsmMetaData) :
    WritesOnly (payloadMsgs id addr segment) :=
  ite (of_none rfl rfl) nil

end WritesOnly

/-! ## What an event waits for -/

namespace TxEngState

def awaitsTxSar (state : TxEngState) : Bool :=
  match state.txEngEventReg.type with
  | .tx | .fin => !state.txRxSarLoaded
  | .rt | .ack | .ackNodelay | .synAck => true
  | .syn => state.txEngEventReg.retransCnt != 0
  | .rst => state.txEngEventReg.hasSessionId
  | .rtCont => false

def awaitsRxSar (state : TxEngState) : Bool :=
  match state.txEngEventReg.type with
  | .tx | .fin => !state.txRxSarLoaded
  | .rt | .ack | .ackNodelay | .synAck => true
  | .syn | .rst | .rtCont => false

end TxEngState

/-- The requests of a `LOAD` call are the lookups of its event. -/
theorem reqsToTxSar_lookups (event : EventWithTuple) :
    reqsToTxSar
        ([.readCount] ++
          (if event.looksUpRxSar then
            [.rxSarLupReq event.sessionId]
          else
            []) ++
          (if event.looksUpTxSar then
            [.txSarReq (TxEngToTxSarReq.lookup event.sessionId)]
          else
            [])) =
      if event.looksUpTxSar then
        [TxEngToTxSarReq.lookup event.sessionId]
      else
        [] := by
  cases event.looksUpRxSar <;> cases event.looksUpTxSar <;> rfl

theorem lupsToRxSar_lookups (event : EventWithTuple) :
    lupsToRxSar
        ([.readCount] ++
          (if event.looksUpRxSar then
            [.rxSarLupReq event.sessionId]
          else
            []) ++
          (if event.looksUpTxSar then
            [.txSarReq (TxEngToTxSarReq.lookup event.sessionId)]
          else
            [])) =
      if event.looksUpRxSar then [event.sessionId] else [] := by
  cases event.looksUpRxSar <;> cases event.looksUpTxSar <;> rfl

theorem segments_lookups (event : EventWithTuple) :
    segments
        ([.readCount] ++
          (if event.looksUpRxSar then
            [.rxSarLupReq event.sessionId]
          else
            []) ++
          (if event.looksUpTxSar then
            [.txSarReq (TxEngToTxSarReq.lookup event.sessionId)]
          else
            [])) = [] := by
  cases event.looksUpRxSar <;> cases event.looksUpTxSar <;> rfl

/-- An event just loaded awaits what it has looked up. -/
theorem TxEngState.awaits_of_loaded
    {state : TxEngState} (notTaken : state.txRxSarLoaded = false) :
    state.awaitsTxSar = state.txEngEventReg.looksUpTxSar ∧
      state.awaitsRxSar = state.txEngEventReg.looksUpRxSar := by
  rw [awaitsTxSar, awaitsRxSar, Event.looksUpTxSar, Event.looksUpRxSar,
    notTaken]
  cases state.txEngEventReg.type <;> exact ⟨rfl, rfl⟩

/-- A call that takes the answers its event waits for. -/
structure TakesAwaited
    (state next : TxEngState) (msgs : List TxEngMsg) : Prop where
  rxSarRsps :
    ∃ taken,
      state.rxSarRsps = taken ++ next.rxSarRsps ∧
      taken.length = state.awaitsRxSar.toNat
  txSarRsps :
    ∃ taken,
      state.txSarRsps = taken ++ next.txSarRsps ∧
      taken.length = state.awaitsTxSar.toNat
  events : next.events = state.events
  writesOnly : WritesOnly msgs

/-- What a call in `TRANSITION` can do. -/
inductive TransitionCall (state : TxEngState) :
    TxEngState → List TxEngMsg → Prop
  | waits : TransitionCall state state []
  | takes {next : TxEngState} {msgs : List TxEngMsg} :
      TakesAwaited state next msgs →
      TransitionCall state next msgs
  | givesUp :
      state.txEngEventReg.type = .rst →
      state.txEngEventReg.hasSessionId = true →
      state.txSarRsps = [] →
      TransitionCall state { state with fsmState := .load } []

/-! ## One call in `TRANSITION` -/

theorem txIteration_writesOnly
    (id : TcpSessionID)
    (currLength usedLength usableWindow : TcpSessionBuffer)
    (rsp : TxSarToTxEngRsp) :
    WritesOnly
      (txIteration id currLength usedLength usableWindow rsp).writes := by
  rw [txIteration]
  split
  · split
    · exact WritesOnly.nil
    · refine WritesOnly.append (WritesOnly.ite WritesOnly.nil ?_) ?_
      · exact WritesOnly.of_none rfl rfl
      · exact WritesOnly.write rfl
  · split
    · exact WritesOnly.nil
    · refine @WritesOnly.append [_] [_] ?_ ?_
      · exact WritesOnly.of_none rfl rfl
      · exact WritesOnly.write rfl

section Calls

variable {state : TxEngState}

/-- Nothing is awaited, nothing is taken. -/
theorem takesAwaited_of_none
    {next : TxEngState} {msgs : List TxEngMsg}
    (noRx : state.awaitsRxSar = false) (noTx : state.awaitsTxSar = false)
    (sameRx : next.rxSarRsps = state.rxSarRsps)
    (sameTx : next.txSarRsps = state.txSarRsps)
    (sameEvents : next.events = state.events)
    (writesOnly : WritesOnly msgs) :
    TakesAwaited state next msgs where
  rxSarRsps := ⟨[], sameRx.symm, by rw [noRx]; rfl⟩
  txSarRsps := ⟨[], sameTx.symm, by rw [noTx]; rfl⟩
  events := sameEvents
  writesOnly := writesOnly

/-- Both answers are awaited and taken. -/
theorem takesAwaited_of_both
    {next : TxEngState} {msgs : List TxEngMsg}
    {rxRsp : RxSarLookupRsp} {txRsp : TxSarToTxEngRsp}
    (rx : state.awaitsRxSar = true) (tx : state.awaitsTxSar = true)
    (rxRsps : state.rxSarRsps = rxRsp :: next.rxSarRsps)
    (txRsps : state.txSarRsps = txRsp :: next.txSarRsps)
    (sameEvents : next.events = state.events)
    (writesOnly : WritesOnly msgs) :
    TakesAwaited state next msgs where
  rxSarRsps := ⟨[rxRsp], rxRsps, by rw [rx]; rfl⟩
  txSarRsps := ⟨[txRsp], txRsps, by rw [tx]; rfl⟩
  events := sameEvents
  writesOnly := writesOnly

/-- Only the answer of the TX SAR table is awaited and taken. -/
theorem takesAwaited_of_tx
    {next : TxEngState} {msgs : List TxEngMsg} {txRsp : TxSarToTxEngRsp}
    (noRx : state.awaitsRxSar = false) (tx : state.awaitsTxSar = true)
    (sameRx : next.rxSarRsps = state.rxSarRsps)
    (txRsps : state.txSarRsps = txRsp :: next.txSarRsps)
    (sameEvents : next.events = state.events)
    (writesOnly : WritesOnly msgs) :
    TakesAwaited state next msgs where
  rxSarRsps := ⟨[], sameRx.symm, by rw [noRx]; rfl⟩
  txSarRsps := ⟨[txRsp], txRsps, by rw [tx]; rfl⟩
  events := sameEvents
  writesOnly := writesOnly

theorem txEngTx_call (type : state.txEngEventReg.type = .tx) :
    TransitionCall state (txEngTx state).1 (txEngTx state).2 := by
  have rx : state.awaitsRxSar = !state.txRxSarLoaded := by
    rw [TxEngState.awaitsRxSar, type]
  have tx : state.awaitsTxSar = !state.txRxSarLoaded := by
    rw [TxEngState.awaitsTxSar, type]
  rw [txEngTx]
  split
  · rename_i loaded
    rw [loaded] at rx tx
    refine
      TransitionCall.takes
        (takesAwaited_of_none rx tx rfl rfl rfl ?_)
    exact
      (txIteration_writesOnly _ _ _ _ _).append (WritesOnly.payload _ _ _)
  · rename_i notLoaded
    rw [Bool.eq_false_iff.2 notLoaded] at rx tx
    split
    · rename_i rxRsp rxLater txRsp txLater rxRsps txRsps
      refine
        TransitionCall.takes
          (takesAwaited_of_both rx tx rxRsps txRsps rfl ?_)
      exact
        (txIteration_writesOnly _ _ _ _ _).append
          (WritesOnly.payload _ _ _)
    · exact TransitionCall.waits

theorem rtSend_writesOnly
    (rsp : TxSarToTxEngRsp) (addrAckd : BitVec 32) :
    WritesOnly (rtSend state rsp addrAckd).2 := by
  have threshold (currLength : TcpSessionBuffer) :
      WritesOnly (retransThresholdMsgs state currLength) :=
    WritesOnly.ite (WritesOnly.write rfl) WritesOnly.nil
  rw [rtSend]
  simp only []
  split
  · exact (threshold _).append (WritesOnly.payload _ _ _)
  · exact (threshold _).append (WritesOnly.payload _ _ _)

/-- Retransmission leaves the input streams alone. -/
theorem rtSend_streams
    (rsp : TxSarToTxEngRsp) (addrAckd : BitVec 32) :
    (rtSend state rsp addrAckd).1.rxSarRsps = state.rxSarRsps ∧
      (rtSend state rsp addrAckd).1.txSarRsps = state.txSarRsps ∧
      (rtSend state rsp addrAckd).1.events = state.events := by
  rw [rtSend]
  simp only []
  split
  · exact ⟨rfl, rfl, rfl⟩
  · exact ⟨rfl, rfl, rfl⟩

theorem txEngRt_call (type : state.txEngEventReg.type = .rt) :
    TransitionCall state (txEngRt state).1 (txEngRt state).2 := by
  have rx : state.awaitsRxSar = true := by
    rw [TxEngState.awaitsRxSar, type]
  have tx : state.awaitsTxSar = true := by
    rw [TxEngState.awaitsTxSar, type]
  rw [txEngRt]
  split
  · rename_i rxRsp rxLater txRsp txLater rxRsps txRsps
    obtain ⟨sameRx, sameTx, sameEvents⟩ :=
      @rtSend_streams
        { state with
          rxSarRspReg := rxRsp
          rxSarRsps := rxLater
          txSarRsps := txLater } txRsp txRsp.ackd
    have rxTaken := rxRsps.trans (congrArg (rxRsp :: ·) sameRx.symm)
    have txTaken := txRsps.trans (congrArg (txRsp :: ·) sameTx.symm)
    exact
      TransitionCall.takes
        (takesAwaited_of_both rx tx rxTaken txTaken sameEvents
          (rtSend_writesOnly _ _))
  · exact TransitionCall.waits

theorem txEngRtCont_call (type : state.txEngEventReg.type = .rtCont) :
    TransitionCall state (txEngRtCont state).1 (txEngRtCont state).2 := by
  have rx : state.awaitsRxSar = false := by
    rw [TxEngState.awaitsRxSar, type]
  have tx : state.awaitsTxSar = false := by
    rw [TxEngState.awaitsTxSar, type]
  obtain ⟨sameRx, sameTx, sameEvents⟩ :=
    @rtSend_streams state state.txSarRspReg TxSarToTxEngRsp.empty.ackd
  exact
    TransitionCall.takes
      (takesAwaited_of_none rx tx sameRx sameTx sameEvents
        (rtSend_writesOnly _ _))

theorem txEngAck_call
    (rx : state.awaitsRxSar = true) (tx : state.awaitsTxSar = true) :
    TransitionCall state (txEngAck state).1 (txEngAck state).2 := by
  rw [txEngAck]
  split
  · rename_i rxRsp rxLater txRsp txLater rxRsps txRsps
    exact
      TransitionCall.takes
        (takesAwaited_of_both rx tx rxRsps txRsps rfl
          (WritesOnly.header _ _))
  · exact TransitionCall.waits

theorem txEngSyn_call (type : state.txEngEventReg.type = .syn) :
    TransitionCall state (txEngSyn state).1 (txEngSyn state).2 := by
  have rx : state.awaitsRxSar = false := by
    rw [TxEngState.awaitsRxSar, type]
  have tx :
      state.awaitsTxSar = (state.txEngEventReg.retransCnt != 0) := by
    rw [TxEngState.awaitsTxSar, type]
  have timer (seqMsgs : List TxEngMsg) (segment : TxEngFsmMetaData)
      (writes : WritesOnly seqMsgs) :
      WritesOnly
        (seqMsgs ++ headerMsgs state.sessionId segment ++
          [.setRtimer ⟨state.sessionId, .syn⟩]) :=
    (writes.append (WritesOnly.header _ _)).append
      (WritesOnly.of_none rfl rfl)
  rw [txEngSyn]
  simp only []
  split
  · rename_i repeated
    rw [bne_iff_ne.2 repeated] at tx
    split
    · rename_i txRsp txLater txRsps
      exact
        TransitionCall.takes
          (takesAwaited_of_tx rx tx rfl txRsps rfl
            (timer [] _ WritesOnly.nil))
    · exact TransitionCall.waits
  · rename_i notRepeated
    rw [Bool.eq_false_iff.2 (mt bne_iff_ne.1 notRepeated)] at tx
    exact
      TransitionCall.takes
        (takesAwaited_of_none rx tx rfl rfl rfl
          (timer _ _ (WritesOnly.write rfl)))

theorem txEngSynAck_call (type : state.txEngEventReg.type = .synAck) :
    TransitionCall state (txEngSynAck state).1 (txEngSynAck state).2 := by
  have rx : state.awaitsRxSar = true := by
    rw [TxEngState.awaitsRxSar, type]
  have tx : state.awaitsTxSar = true := by
    rw [TxEngState.awaitsTxSar, type]
  rw [txEngSynAck]
  split
  · rename_i rxRsp rxLater txRsp txLater rxRsps txRsps
    refine
      TransitionCall.takes
        (takesAwaited_of_both rx tx rxRsps txRsps rfl ?_)
    exact
      (WritesOnly.ite WritesOnly.nil (WritesOnly.write rfl)).append
        (WritesOnly.of_none rfl rfl)
  · exact TransitionCall.waits

theorem finSend_writesOnly (rsp : TxSarToTxEngRsp) :
    WritesOnly (finSend state rsp).2 := by
  refine
    (WritesOnly.ite WritesOnly.nil
      (WritesOnly.ite (WritesOnly.write rfl)
        (WritesOnly.write rfl))).append
      (WritesOnly.ite (WritesOnly.of_none rfl rfl) WritesOnly.nil)

theorem txEngFin_call (type : state.txEngEventReg.type = .fin) :
    TransitionCall state (txEngFin state).1 (txEngFin state).2 := by
  have rx : state.awaitsRxSar = !state.txRxSarLoaded := by
    rw [TxEngState.awaitsRxSar, type]
  have tx : state.awaitsTxSar = !state.txRxSarLoaded := by
    rw [TxEngState.awaitsTxSar, type]
  rw [txEngFin]
  split
  · rename_i loaded
    rw [loaded] at rx tx
    exact
      TransitionCall.takes
        (takesAwaited_of_none rx tx rfl rfl rfl (finSend_writesOnly _))
  · rename_i notLoaded
    rw [Bool.eq_false_iff.2 notLoaded] at rx tx
    split
    · rename_i rxRsp rxLater txRsp txLater rxRsps txRsps
      exact
        TransitionCall.takes
          (takesAwaited_of_both rx tx rxRsps txRsps rfl
            (finSend_writesOnly _))
    · exact TransitionCall.waits

theorem txEngRst_call (type : state.txEngEventReg.type = .rst) :
    TransitionCall state (txEngRst state).1 (txEngRst state).2 := by
  have rx : state.awaitsRxSar = false := by
    rw [TxEngState.awaitsRxSar, type]
  have tx :
      state.awaitsTxSar = state.txEngEventReg.hasSessionId := by
    rw [TxEngState.awaitsTxSar, type]
  rw [txEngRst]
  split
  · rename_i withSession
    rw [withSession] at tx
    split
    · rename_i txRsp txLater txRsps
      exact
        TransitionCall.takes
          (takesAwaited_of_tx rx tx rfl txRsps rfl
            (WritesOnly.of_none rfl rfl))
    · rename_i noRsp
      exact TransitionCall.givesUp type withSession noRsp
  · rename_i noSession
    rw [Bool.eq_false_iff.2 noSession] at tx
    exact
      TransitionCall.takes
        (takesAwaited_of_none rx tx rfl rfl rfl
          (WritesOnly.of_none rfl rfl))

/-- One call in `TRANSITION` waits, takes exactly the answers its event
awaits, or gives up on the answer to a reset. -/
theorem transition_call (transition : state.fsmState = .transition) :
    TransitionCall state (txEngTcpFsm state).1 (txEngTcpFsm state).2 := by
  rw [txEngTcpFsm, transition]
  simp only []
  split
  · rename_i type
    exact txEngTx_call type
  · rename_i type
    exact txEngRt_call type
  · rename_i type
    exact txEngRtCont_call type
  · rename_i type
    exact
      txEngAck_call (by rw [TxEngState.awaitsRxSar, type])
        (by rw [TxEngState.awaitsTxSar, type])
  · rename_i type
    exact
      txEngAck_call (by rw [TxEngState.awaitsRxSar, type])
        (by rw [TxEngState.awaitsTxSar, type])
  · rename_i type
    exact txEngSyn_call type
  · rename_i type
    exact txEngSynAck_call type
  · rename_i type
    exact txEngFin_call type
  · rename_i type
    exact txEngRst_call type

/-- A reset whose answer is there is one segment. -/
theorem resets
    (transition : state.fsmState = .transition)
    (type : state.txEngEventReg.type = .rst)
    (answered :
      state.txEngEventReg.hasSessionId = true → state.txSarRsps ≠ []) :
    ∃ segment,
      segments (txEngTcpFsm state).2 = [segment] ∧
      segment.rst = true ∧
      (txEngTcpFsm state).1.fsmState = .load := by
  have isReset : txEngTcpFsm state = txEngRst state := by
    simp only [txEngTcpFsm, transition, type]
  rw [isReset, txEngRst]
  split
  · rename_i withSession
    split
    · exact ⟨_, rfl, rfl, rfl⟩
    · rename_i noRsp
      exact absurd noRsp (answered withSession)
  · exact ⟨_, rfl, rfl, rfl⟩

/-- A reset that gives up is no segment. -/
theorem segments_of_givesUp
    (transition : state.fsmState = .transition)
    (type : state.txEngEventReg.type = .rst)
    (withSession : state.txEngEventReg.hasSessionId = true)
    (noRsp : state.txSarRsps = []) :
    segments (txEngTcpFsm state).2 = [] := by
  have isReset : txEngTcpFsm state = txEngRst state := by
    simp only [txEngTcpFsm, transition, type]
  rw [isReset, txEngRst, if_pos withSession, noRsp]
  rfl

end Calls

end TcpOffload
