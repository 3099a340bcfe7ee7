import TcpOffload.TxEngine.Acknowledges
import TcpOffload.TxSarTable.Settled

/-!
# What one call of `TxEngTcpFsm` asks of its session

The requests to `tx_sar_table` and to the two timers, for each way in which a
call in `TRANSITION` can go on.
-/

namespace TcpOffload

namespace TxEngMsg

def toRtimer : TxEngMsg → Option TxEngToRetransTimerReq
  | .setRtimer req => some req
  | _ => none

def toPtimer : TxEngMsg → Option TcpSessionID
  | .setPtimer id => some id
  | _ => none

end TxEngMsg

/-- The requests by destination, each in the order written. -/
structure TxAsks where
  txSarReqs : List TxEngToTxSarReq
  rtimerSets : List TxEngToRetransTimerReq
  ptimerSets : List TcpSessionID

def txAsks (msgs : List TxEngMsg) : TxAsks where
  txSarReqs := reqsToTxSar msgs
  rtimerSets := msgs.filterMap TxEngMsg.toRtimer
  ptimerSets := msgs.filterMap TxEngMsg.toPtimer

namespace TxAsks

def none : TxAsks :=
  ⟨[], [], []⟩

/-- One list of requests behind another. -/
def append (first second : TxAsks) : TxAsks where
  txSarReqs := first.txSarReqs ++ second.txSarReqs
  rtimerSets := first.rtimerSets ++ second.rtimerSets
  ptimerSets := first.ptimerSets ++ second.ptimerSets

end TxAsks

theorem txAsks_append (first second : List TxEngMsg) :
    txAsks (first ++ second) = (txAsks first).append (txAsks second) := by
  simp only [txAsks, TxAsks.append, reqsToTxSar, List.filterMap_append]

theorem txAsks_payloadMsgs
    (id : TcpSessionID) (addr : BitVec 32) (segment : TxEngFsmMetaData) :
    txAsks (payloadMsgs id addr segment) =
      ⟨[], if segment.length = 0 then [] else [⟨id, .rt⟩], []⟩ := by
  rw [payloadMsgs]
  by_cases empty : segment.length = 0
  · rw [if_neg (not_not_intro empty), if_pos empty]
    rfl
  · rw [if_pos empty, if_neg empty]
    rfl

/-! ## What the call works with -/

namespace TxEngState

/-- The answer of `tx_sar_table` that is next, if both tables have
answered. -/
def freshRsp (state : TxEngState) : Option TxSarToTxEngRsp :=
  match state.rxSarRsps, state.txSarRsps with
  | _ :: _, rsp :: _ => some rsp
  | _, _ => none

/-- The answer a call that sends data or a FIN works with. -/
def workingRsp (state : TxEngState) : Option TxSarToTxEngRsp :=
  match state.txEngEventReg.type with
  | .tx | .fin =>
      if state.txRxSarLoaded then
        some state.txSarRspReg
      else
        state.freshRsp
  | .rt => state.freshRsp
  | .rtCont => some state.txSarRspReg
  | .ack | .ackNodelay | .syn | .synAck | .rst => none

/-- `curr_length` of the call. -/
def dataLeft (state : TxEngState) (rsp : TxSarToTxEngRsp) :
    TcpSessionBuffer :=
  if state.txRxSarLoaded then state.currLength else rsp.currLength

/-- `usable_window` of the call. -/
def windowLeft (state : TxEngState) (rsp : TxSarToTxEngRsp) :
    TcpSessionBuffer :=
  if state.txRxSarLoaded then state.remaining else rsp.usableWindow

/-- Where the machine goes, and as what it goes on with its event. -/
structure GoesTo
    (state : TxEngState) (fsmState : TxEngFsmState) (type : EventType)
    (next : TxEngState) : Prop where
  fsmState : next.fsmState = fsmState
  eventReg :
    next.txEngEventReg = { state.txEngEventReg with type := type }

end TxEngState

namespace TxSarToTxEngRsp

/-- The pointer behind the last data of a `TX` event. -/
def pointerBehind
    (rsp : TxSarToTxEngRsp) (dataLeft : TcpSessionBuffer) : BitVec 32 :=
  if rsp.ackdEqNotAckd then
    rsp.notAckdShort
  else
    rsp.notAckd + dataLeft.setWidth 32

end TxSarToTxEngRsp

/-- The ways in which a call in `TRANSITION` can go on. -/
inductive SendCall (state : TxEngState) : TxEngState → TxAsks → Prop
  | waits : SendCall state state TxAsks.none
  | txFull {next : TxEngState} {rsp : TxSarToTxEngRsp} :
      state.txEngEventReg.type = .tx →
      state.workingRsp = some rsp →
      state.GoesTo .transition .tx next →
      SendCall state next ⟨[], [⟨state.sessionId, .rt⟩], []⟩
  | txShort
      {next : TxEngState} {rsp : TxSarToTxEngRsp} {type : EventType} :
      state.txEngEventReg.type = .tx →
      state.workingRsp = some rsp →
      next.txEngEventReg = { state.txEngEventReg with type := type } →
      (next.fsmState = .transition → type = .fin) →
      SendCall state next
        ⟨[TxEngToTxSarReq.update state.sessionId
            (rsp.pointerBehind (state.dataLeft rsp))],
          if state.dataLeft rsp = 0 then
            []
          else
            [⟨state.sessionId, .rt⟩],
          if rsp.ackdEqNotAckd then [] else [state.sessionId]⟩
  | txWindow {next : TxEngState} {rsp : TxSarToTxEngRsp} :
      state.txEngEventReg.type = .tx →
      state.workingRsp = some rsp →
      state.dataLeft rsp ≠ 0 →
      state.GoesTo .load .tx next →
      SendCall state next
        ⟨[TxEngToTxSarReq.update state.sessionId
            (rsp.notAckd + (state.windowLeft rsp).setWidth 32)],
          if state.windowLeft rsp = 0 then
            []
          else
            [⟨state.sessionId, .rt⟩],
          [state.sessionId]⟩
  | rt
      {next : TxEngState} {rsp : TxSarToTxEngRsp} {type : EventType}
      {reqs : List TxEngToTxSarReq} :
      state.txEngEventReg.type = .rt ∨
        state.txEngEventReg.type = .rtCont →
      state.workingRsp = some rsp →
      (∀ req ∈ reqs, req.retransReq = true) →
      next.txEngEventReg = { state.txEngEventReg with type := type } →
      (next.fsmState = .transition → type = .rtCont ∨ type = .fin) →
      (rsp.finIsSent = true →
        rsp.usedLengthRst = 0 → state.GoesTo .transition .fin next) →
      SendCall state next
        ⟨reqs,
          if rsp.usedLengthRst = 0 then [] else [⟨state.sessionId, .rt⟩],
          []⟩
  | finLeaves {next : TxEngState} {rsp : TxSarToTxEngRsp} :
      state.txEngEventReg.type = .fin →
      state.workingRsp = some rsp →
      state.txEngEventReg.retransCnt = 0 →
      rsp.finLeaves 0 = true →
      state.GoesTo .load .fin next →
      SendCall state next
        ⟨[TxEngToTxSarReq.updateFin state.sessionId (rsp.notAckd + 1)
            true true],
          [⟨state.sessionId, .rt⟩], []⟩
  | finStays {next : TxEngState} {rsp : TxSarToTxEngRsp} :
      state.txEngEventReg.type = .fin →
      state.workingRsp = some rsp →
      state.txEngEventReg.retransCnt = 0 →
      rsp.finLeaves 0 = false →
      state.GoesTo .load .fin next →
      SendCall state next
        ⟨[TxEngToTxSarReq.updateFin state.sessionId rsp.notAckd
            true false],
          [], []⟩
  | finRepeats {next : TxEngState} {rsp : TxSarToTxEngRsp} :
      state.txEngEventReg.type = .fin →
      state.workingRsp = some rsp →
      state.txEngEventReg.retransCnt ≠ 0 →
      state.GoesTo .load .fin next →
      SendCall state next
        ⟨[],
          if rsp.finLeaves state.txEngEventReg.retransCnt then
            [⟨state.sessionId, .rt⟩]
          else
            [],
          []⟩
  | opens {next : TxEngState} {type : EventType} {iss : BitVec 32} :
      type = .syn ∨ type = .synAck →
      state.txEngEventReg.type = type →
      state.txEngEventReg.retransCnt = 0 →
      state.GoesTo .load type next →
      SendCall state next
        ⟨[TxEngToTxSarReq.initialise state.sessionId (iss + 1)],
          [⟨state.sessionId, type⟩], []⟩
  | reopens {next : TxEngState} {type : EventType} :
      type = .syn ∨ type = .synAck →
      state.txEngEventReg.type = type →
      state.txEngEventReg.retransCnt ≠ 0 →
      state.GoesTo .load type next →
      SendCall state next ⟨[], [⟨state.sessionId, type⟩], []⟩
  | answers {next : TxEngState} {type : EventType} :
      type = .ack ∨ type = .ackNodelay ∨ type = .rst →
      state.txEngEventReg.type = type →
      state.GoesTo .load type next →
      SendCall state next TxAsks.none

section Cases

variable {state : TxEngState}

theorem mss_ne_zero : BitVec.ofNat 16 tcpMss ≠ 0 := by
  decide

/-- A length below that of a full segment keeps its value in 16 bits. -/
theorem setWidth_eq_zero_iff
    {length : TcpSessionBuffer} (below : length.toNat ≤ tcpMss) :
    length.setWidth 16 = 0 ↔ length = 0 := by
  have zero : (0 : TcpSessionBuffer).toNat = 0 := rfl
  have shortZero : (0 : BitVec 16).toNat = 0 := rfl
  rw [tcpMss_eq] at below
  rw [← BitVec.toNat_inj, ← BitVec.toNat_inj, BitVec.toNat_setWidth, zero,
    shortZero]
  omega

theorem txAsks_txShortSegment
    (id : TcpSessionID) (currLength : TcpSessionBuffer)
    (rsp : TxSarToTxEngRsp) :
    txAsks (txShortSegment id currLength rsp).writes =
      ⟨[TxEngToTxSarReq.update id (rsp.pointerBehind currLength)], [],
        if rsp.ackdEqNotAckd then [] else [id]⟩ := by
  rw [txShortSegment, TxSarToTxEngRsp.pointerBehind]
  cases rsp.ackdEqNotAckd <;> rfl

/-- One `TX` call with the registers it works with. -/
theorem txSend_call
    {loaded : TxEngState} {rsp : TxSarToTxEngRsp}
    {window : TcpSessionBuffer}
    (type : state.txEngEventReg.type = .tx)
    (working : state.workingRsp = some rsp)
    (sameEvent : loaded.txEngEventReg = state.txEngEventReg)
    (dataLeft : loaded.currLength = state.dataLeft rsp)
    (windowLeft : window = state.windowLeft rsp) :
    SendCall state (txSend loaded rsp window).1
      (txAsks (txSend loaded rsp window).2) := by
  have sameId : loaded.sessionId = state.sessionId := by
    rw [TxEngState.sessionId, sameEvent]
    rfl
  have eventReg :
      (txSend loaded rsp window).1.txEngEventReg =
        { state.txEngEventReg with
          type :=
            (txIteration loaded.sessionId loaded.currLength
              loaded.usedLength window rsp).type } := by
    rw [← sameEvent]
    rfl
  have fsmState :
      (txSend loaded rsp window).1.fsmState =
        (txIteration loaded.sessionId loaded.currLength
          loaded.usedLength window rsp).fsmState :=
    rfl
  have asks :
      txAsks (txSend loaded rsp window).2 =
        (txAsks
          (txIteration loaded.sessionId loaded.currLength
            loaded.usedLength window rsp).writes).append
          ⟨[],
            if
                (txIteration loaded.sessionId loaded.currLength
                  loaded.usedLength window rsp).length = 0 then
              []
            else
              [⟨loaded.sessionId, .rt⟩],
            []⟩ := by
    rw [txSend]
    simp only []
    rw [txAsks_append, txAsks_payloadMsgs]
  generalize (txSend loaded rsp window).1 = next at eventReg fsmState ⊢
  generalize (txSend loaded rsp window).2 = msgs at asks ⊢
  rw [asks]
  rw [sameId] at eventReg fsmState ⊢
  by_cases isFull :
      tcpMss ≤ loaded.currLength.toNat ∧ tcpMss ≤ window.toNat
  · rw [txIteration_full isFull.1 isFull.2] at eventReg fsmState ⊢
    exact SendCall.txFull type working ⟨fsmState, eventReg⟩
  · by_cases fits : loaded.currLength.toNat ≤ window.toNat
    · have below : loaded.currLength.toNat < tcpMss := by
        omega
      have isEmpty := setWidth_eq_zero_iff (Nat.le_of_lt below)
      have goesOn :
          (txShortSegment state.sessionId loaded.currLength rsp).fsmState =
              .transition →
            (txShortSegment state.sessionId loaded.currLength rsp).type =
              .fin := by
        simp only [txShortSegment]
        split
        · exact fun _ => rfl
        · intro stays
          cases stays
      rw [txIteration_short fits below] at eventReg fsmState ⊢
      rw [txAsks_txShortSegment]
      have call :=
        SendCall.txShort type working eventReg
          fun stays => goesOn (fsmState.symm.trans stays)
      simp only [TxAsks.append, txShortSegment, isEmpty, List.append_nil,
        List.nil_append]
      rw [dataLeft]
      exact call
    · have below : window.toNat < tcpMss := by
        omega
      have isEmpty := setWidth_eq_zero_iff (Nat.le_of_lt below)
      rw [txIteration_window (by omega) below] at eventReg fsmState ⊢
      have some : state.dataLeft rsp ≠ 0 := by
        intro none
        rw [dataLeft, none] at fits
        exact fits (Nat.zero_le _)
      have call :=
        SendCall.txWindow type working some ⟨fsmState, eventReg⟩
      rw [← windowLeft] at call
      simp only [← isEmpty] at call
      exact call

theorem txEngTx_sends (type : state.txEngEventReg.type = .tx) :
    SendCall state (txEngTx state).1 (txAsks (txEngTx state).2) := by
  have working :
      state.workingRsp =
        if state.txRxSarLoaded then
          some state.txSarRspReg
        else
          state.freshRsp := by
    rw [TxEngState.workingRsp, type]
  rw [txEngTx]
  split
  · rename_i isLoaded
    rw [if_pos isLoaded] at working
    refine txSend_call type working rfl ?_ ?_
    · exact (if_pos isLoaded).symm
    · exact (if_pos isLoaded).symm
  · rename_i notLoaded
    rw [if_neg notLoaded] at working
    split
    · rename_i rxRsp rxLater txRsp txLater rxRsps txRsps
      have answered : state.workingRsp = some txRsp := by
        rw [working, TxEngState.freshRsp, rxRsps, txRsps]
      refine txSend_call type answered rfl ?_ ?_
      · exact (if_neg notLoaded).symm
      · exact (if_neg notLoaded).symm
    · exact SendCall.waits

/-! ### `RT` and `RT_CONT` -/

theorem retransThresholdMsgs_asks
    (loaded : TxEngState) (currLength : TcpSessionBuffer) :
    ∃ reqs,
      txAsks (retransThresholdMsgs loaded currLength) = ⟨reqs, [], []⟩ ∧
        ∀ req ∈ reqs, req.retransReq = true := by
  rw [retransThresholdMsgs]
  split
  · refine ⟨_, rfl, fun req member => ?_⟩
    rw [List.mem_singleton.1 member]
    rfl
  · refine ⟨[], rfl, fun req member => ?_⟩
    cases member

theorem rtSend_call
    {loaded next : TxEngState} {rsp : TxSarToTxEngRsp}
    {addrAckd : BitVec 32}
    (type :
      state.txEngEventReg.type = .rt ∨
        state.txEngEventReg.type = .rtCont)
    (working : state.workingRsp = some rsp)
    (sameEvent : loaded.txEngEventReg = state.txEngEventReg)
    (nextEvent :
      next.txEngEventReg = (rtSend loaded rsp addrAckd).1.txEngEventReg)
    (nextState :
      next.fsmState = (rtSend loaded rsp addrAckd).1.fsmState) :
    SendCall state next (txAsks (rtSend loaded rsp addrAckd).2) := by
  have sameId : loaded.sessionId = state.sessionId := by
    rw [TxEngState.sessionId, sameEvent]
    rfl
  obtain ⟨reqs, threshold, thresholds⟩ :=
    retransThresholdMsgs_asks loaded rsp.usedLengthRst
  by_cases long : BitVec.ofNat 18 tcpMss < rsp.usedLengthRst
  · have isSome : rsp.usedLengthRst ≠ 0 := by
      intro none
      rw [none] at long
      exact absurd long (by decide)
    simp only [rtSend, if_pos long] at nextEvent nextState ⊢
    rw [txAsks_append, threshold, txAsks_payloadMsgs,
      if_neg mss_ne_zero, sameId]
    have eventReg :
        next.txEngEventReg =
          { state.txEngEventReg with type := .rtCont } := by
      rw [nextEvent, ← sameEvent]
      rfl
    have call :=
      SendCall.rt type working thresholds eventReg
        (fun _ => Or.inl rfl) fun _ none => absurd none isSome
    rw [if_neg isSome] at call
    simpa only [TxAsks.append, List.append_nil, List.nil_append] using call
  · have below : rsp.usedLengthRst.toNat ≤ tcpMss := by
      rw [BitVec.lt_def] at long
      exact Nat.le_of_not_lt long
    have isEmpty := setWidth_eq_zero_iff below
    simp only [rtSend, if_neg long] at nextEvent nextState ⊢
    rw [txAsks_append, threshold, txAsks_payloadMsgs, sameId]
    have eventReg :
        next.txEngEventReg =
          { state.txEngEventReg with
            type :=
              if rsp.finIsSent then
                .fin
              else
                state.txEngEventReg.type } := by
      rw [nextEvent, ← sameEvent]
      rfl
    have call :=
      @SendCall.rt state next rsp _ reqs type working thresholds eventReg
        ?_ ?_
    · simpa only [TxAsks.append, List.append_nil, List.nil_append,
        isEmpty] using call
    · intro goesOn
      rw [nextState] at goesOn
      split at goesOn
      · rename_i finIsSent
        rw [if_pos finIsSent]
        exact Or.inr rfl
      · cases goesOn
    · intro finIsSent _
      rw [if_pos finIsSent] at eventReg nextState
      exact ⟨nextState, eventReg⟩

theorem txEngRt_sends (type : state.txEngEventReg.type = .rt) :
    SendCall state (txEngRt state).1 (txAsks (txEngRt state).2) := by
  rw [txEngRt]
  split
  · rename_i rxRsp rxLater txRsp txLater rxRsps txRsps
    have working : state.workingRsp = some txRsp := by
      rw [TxEngState.workingRsp, type]
      simp only [TxEngState.freshRsp, rxRsps, txRsps]
    exact rtSend_call (Or.inl type) working rfl rfl rfl
  · exact SendCall.waits

theorem txEngRtCont_sends (type : state.txEngEventReg.type = .rtCont) :
    SendCall state (txEngRtCont state).1
      (txAsks (txEngRtCont state).2) := by
  have working : state.workingRsp = some state.txSarRspReg := by
    rw [TxEngState.workingRsp, type]
  exact rtSend_call (Or.inr type) working rfl rfl rfl

/-! ### Segments without payload -/

theorem txEngAck_sends
    (type :
      state.txEngEventReg.type = .ack ∨
        state.txEngEventReg.type = .ackNodelay) :
    SendCall state (txEngAck state).1 (txAsks (txEngAck state).2) := by
  have isAnswer :
      state.txEngEventReg.type = .ack ∨
        state.txEngEventReg.type = .ackNodelay ∨
          state.txEngEventReg.type = .rst :=
    type.imp id Or.inl
  rw [txEngAck]
  split
  · exact SendCall.answers isAnswer rfl ⟨rfl, rfl⟩
  · exact SendCall.waits

theorem txEngRst_sends (type : state.txEngEventReg.type = .rst) :
    SendCall state (txEngRst state).1 (txAsks (txEngRst state).2) := by
  have isAnswer :
      state.txEngEventReg.type = .ack ∨
        state.txEngEventReg.type = .ackNodelay ∨
          state.txEngEventReg.type = .rst :=
    Or.inr (Or.inr type)
  rw [txEngRst]
  split
  · split
    · exact SendCall.answers isAnswer rfl ⟨rfl, rfl⟩
    · exact SendCall.answers isAnswer rfl ⟨rfl, rfl⟩
  · exact SendCall.answers isAnswer rfl ⟨rfl, rfl⟩

theorem txEngSyn_sends (type : state.txEngEventReg.type = .syn) :
    SendCall state (txEngSyn state).1 (txAsks (txEngSyn state).2) := by
  have goesTo {next : TxEngState} (isLoad : next.fsmState = .load)
      (sameEvent : next.txEngEventReg = state.txEngEventReg) :
      state.GoesTo .load .syn next := by
    refine ⟨isLoad, ?_⟩
    rw [sameEvent, ← type]
  rw [txEngSyn]
  simp only []
  split
  · rename_i repeated
    split
    · exact SendCall.reopens (Or.inl rfl) type repeated (goesTo rfl rfl)
    · exact SendCall.waits
  · rename_i fresh
    exact
      SendCall.opens (Or.inl rfl) type (not_not.1 fresh) (goesTo rfl rfl)

theorem txEngSynAck_sends (type : state.txEngEventReg.type = .synAck) :
    SendCall state (txEngSynAck state).1
      (txAsks (txEngSynAck state).2) := by
  have goesTo {next : TxEngState} (isLoad : next.fsmState = .load)
      (sameEvent : next.txEngEventReg = state.txEngEventReg) :
      state.GoesTo .load .synAck next := by
    refine ⟨isLoad, ?_⟩
    rw [sameEvent, ← type]
  rw [txEngSynAck]
  split
  · by_cases repeated : state.txEngEventReg.retransCnt ≠ 0
    · simp only [if_pos repeated]
      exact SendCall.reopens (Or.inr rfl) type repeated (goesTo rfl rfl)
    · simp only [if_neg repeated]
      exact
        SendCall.opens (Or.inr rfl) type (not_not.1 repeated)
          (goesTo rfl rfl)
  · exact SendCall.waits

theorem finSend_call
    {loaded : TxEngState} {rsp : TxSarToTxEngRsp}
    (type : state.txEngEventReg.type = .fin)
    (working : state.workingRsp = some rsp)
    (sameEvent : loaded.txEngEventReg = state.txEngEventReg) :
    SendCall state (finSend loaded rsp).1
      (txAsks (finSend loaded rsp).2) := by
  have goesTo :
      state.GoesTo .load .fin (finSend loaded rsp).1 := by
    refine ⟨rfl, ?_⟩
    rw [← type, ← sameEvent]
    rfl
  have sameId : loaded.sessionId = state.sessionId := by
    rw [TxEngState.sessionId, sameEvent]
    rfl
  have sent (test : Prop) [Decidable test] (segment : TxEngFsmMetaData) :
      txAsks
          (if test then
            [.metaData segment, .payloadLength segment.length,
              .fourTupleSource true, .slookupReq state.sessionId,
              .setRtimer ⟨state.sessionId, .rt⟩]
          else
            []) =
        ⟨[], if test then [⟨state.sessionId, .rt⟩] else [], []⟩ := by
    split <;> rfl
  by_cases repeated : state.txEngEventReg.retransCnt ≠ 0
  · have call := SendCall.finRepeats type working repeated goesTo
    have asks :
        txAsks (finSend loaded rsp).2 =
          ⟨[],
            if rsp.finLeaves state.txEngEventReg.retransCnt then
              [⟨state.sessionId, .rt⟩]
            else
              [],
            []⟩ := by
      rw [finSend]
      simp only [sameEvent, if_pos repeated, sameId, List.nil_append]
      rw [sent, TxSarToTxEngRsp.finLeaves, if_pos repeated]
      simp only [beq_iff_eq]
    rw [asks]
    exact call
  · have fresh : state.txEngEventReg.retransCnt = 0 :=
      not_not.1 repeated
    have leaves :
        rsp.finLeaves 0 =
          decide (rsp.notAckd.setWidth 18 = rsp.appWritten) :=
      rfl
    by_cases isNext : rsp.notAckd.setWidth 18 = rsp.appWritten
    · rw [decide_eq_true isNext] at leaves
      have call := SendCall.finLeaves type working fresh leaves goesTo
      have asks :
          txAsks (finSend loaded rsp).2 =
            ⟨[TxEngToTxSarReq.updateFin state.sessionId
                (rsp.notAckd + 1) true true],
              [⟨state.sessionId, .rt⟩], []⟩ := by
        rw [finSend]
        simp only [sameEvent, if_neg repeated, sameId,
          if_pos isNext.symm, if_pos isNext]
        rfl
      rw [asks]
      exact call
    · rw [decide_eq_false isNext] at leaves
      have call := SendCall.finStays type working fresh leaves goesTo
      have asks :
          txAsks (finSend loaded rsp).2 =
            ⟨[TxEngToTxSarReq.updateFin state.sessionId rsp.notAckd
                true false],
              [], []⟩ := by
        rw [finSend]
        simp only [sameEvent, if_neg repeated, sameId,
          if_neg (Ne.symm isNext), if_neg isNext]
        rfl
      rw [asks]
      exact call

theorem txEngFin_sends (type : state.txEngEventReg.type = .fin) :
    SendCall state (txEngFin state).1 (txAsks (txEngFin state).2) := by
  have working :
      state.workingRsp =
        if state.txRxSarLoaded then
          some state.txSarRspReg
        else
          state.freshRsp := by
    rw [TxEngState.workingRsp, type]
  rw [txEngFin]
  split
  · rename_i isLoaded
    rw [if_pos isLoaded] at working
    exact finSend_call type working rfl
  · rename_i notLoaded
    rw [if_neg notLoaded] at working
    split
    · rename_i rxRsp rxLater txRsp txLater rxRsps txRsps
      have answered : state.workingRsp = some txRsp := by
        rw [working, TxEngState.freshRsp, rxRsps, txRsps]
      exact finSend_call type answered rfl
    · exact SendCall.waits

/-- What a call in `TRANSITION` asks for. -/
theorem txEngTcpFsm_sends (isTransition : state.fsmState = .transition) :
    SendCall state (txEngTcpFsm state).1
      (txAsks (txEngTcpFsm state).2) := by
  rw [txEngTcpFsm, isTransition]
  simp only []
  split
  · exact txEngTx_sends (by assumption)
  · exact txEngRt_sends (by assumption)
  · exact txEngRtCont_sends (by assumption)
  · exact txEngAck_sends (Or.inl (by assumption))
  · exact txEngAck_sends (Or.inr (by assumption))
  · exact txEngSyn_sends (by assumption)
  · exact txEngSynAck_sends (by assumption)
  · exact txEngFin_sends (by assumption)
  · exact txEngRst_sends (by assumption)

end Cases

/-- The lookups of an event, which ask for nothing else. -/
theorem txAsks_lookups (event : EventWithTuple) :
    txAsks
        ([.readCount] ++
          (if event.looksUpRxSar then
            [.rxSarLupReq event.sessionId]
          else
            []) ++
          (if event.looksUpTxSar then
            [.txSarReq (TxEngToTxSarReq.lookup event.sessionId)]
          else
            [])) =
      ⟨if event.looksUpTxSar then
          [TxEngToTxSarReq.lookup event.sessionId]
        else
          [],
        [], []⟩ := by
  cases event.looksUpRxSar <;> cases event.looksUpTxSar <;> rfl

namespace SendCall

variable {state next : TxEngState} {asks : TxAsks}
variable {id : TcpSessionID}

/-- The pointers of other sessions stay. -/
theorem keepsPointers (call : SendCall state next asks)
    (isOther : state.sessionId ≠ id) :
    KeepsPointers id asks.txSarReqs := by
  have none : KeepsPointers id [] := by
    intro req member
    cases member
  have one {req : TxEngToTxSarReq} (own : req.sessionId = state.sessionId) :
      KeepsPointers id [req] := by
    intro other member isId
    rw [List.mem_singleton.1 member, own] at isId
    exact absurd isId isOther
  cases call with
  | waits | txFull | finRepeats | reopens | answers =>
      exact none
  | txShort | txWindow | finLeaves | finStays | opens =>
      exact one rfl
  | rt _ _ thresholds =>
      intro req member _ _
      exact thresholds req member

/-- The session in hand stays the same. -/
theorem sessionId (call : SendCall state next asks) :
    next.sessionId = state.sessionId := by
  have same {type : EventType}
      (eventReg :
        next.txEngEventReg = { state.txEngEventReg with type := type }) :
      next.sessionId = state.sessionId := by
    rw [TxEngState.sessionId, eventReg]
    rfl
  cases call with
  | waits =>
      rfl
  | txShort _ _ eventReg =>
      exact same eventReg
  | rt _ _ _ eventReg =>
      exact same eventReg
  | txFull _ _ goesTo | txWindow _ _ _ goesTo
  | finLeaves _ _ _ _ goesTo | finStays _ _ _ _ goesTo
  | finRepeats _ _ _ goesTo | opens _ _ _ goesTo
  | reopens _ _ _ goesTo | answers _ _ goesTo =>
      exact same goesTo.eventReg

end SendCall

/-- Only `LOAD` takes an event. -/
theorem events_of_transition
    {state : TxEngState} (isTransition : state.fsmState = .transition) :
    (txEngTcpFsm state).1.events = state.events := by
  have call := transition_call isTransition
  generalize (txEngTcpFsm state).1 = next at call
  generalize (txEngTcpFsm state).2 = msgs at call
  cases call with
  | waits | givesUp =>
      rfl
  | takes taken =>
      exact taken.events

end TcpOffload
