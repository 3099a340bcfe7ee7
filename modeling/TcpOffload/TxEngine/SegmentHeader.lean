import TcpOffload.TxEngine.Events

/-!
# The headers of an event's segments

All segments that one event sends are of one kind: a SYN, a SYN_ACK, a reset,
or a segment that acknowledges with the answer of `rx_sar_table`.
-/

namespace TcpOffload

open Clocked

/-- The fields that the answer of `rx_sar_table` gives to a segment. -/
structure TxEngFsmMetaData.Acknowledges
    (rxRsp : RxSarLookupRsp) (segment : TxEngFsmMetaData) : Prop where
  syn : segment.syn = false
  ack : segment.ack = true
  ackNumber : segment.ackNumber = rxRsp.recvd
  winSize : segment.winSize = rxRsp.winSize

/-- The queued events that send with the answer of `rx_sar_table`. -/
def EventType.acknowledges : EventType → Bool
  | .tx | .rt | .ack | .ackNodelay | .fin => true
  | .rtCont | .syn | .synAck | .rst => false

/-- The header of a segment, by the event that sends it. -/
inductive SegmentHeader
    (event : EventWithTuple) (rxRsp : RxSarLookupRsp)
    (segment : TxEngFsmMetaData) : Prop
  | syn :
      event.type = .syn →
      segment.syn = true →
      segment.ack = false →
      segment.winSize = 0xFFFF →
      segment.winScale = BitVec.ofNat 4 windowScaleBits →
      SegmentHeader event rxRsp segment
  | synAck :
      event.type = .synAck →
      segment.syn = true →
      segment.ack = true →
      segment.winSize = 0xFFFF →
      segment.winScale = rxRsp.winShift.setWidth 4 →
      SegmentHeader event rxRsp segment
  | reset :
      event.type = .rst →
      segment.syn = false →
      segment.ack = true →
      segment.winSize = 0 →
      SegmentHeader event rxRsp segment
  | acknowledges :
      event.type.acknowledges = true →
      segment.Acknowledges rxRsp →
      SegmentHeader event rxRsp segment

/-- Where the machine is while it handles an event. -/
inductive TxEngState.Handling
    (event : EventWithTuple) (rxRsp : RxSarLookupRsp)
    (state : TxEngState) : Prop
  | queued :
      state.fsmState = .load →
      state.events = [event] →
      (event.looksUpRxSar = true → state.rxSarRsps = [rxRsp]) →
      TxEngState.Handling event rxRsp state
  | waiting :
      state.fsmState = .transition →
      state.events = [] →
      state.txEngEventReg = event →
      state.txRxSarLoaded = false →
      (event.looksUpRxSar = true → state.rxSarRsps = [rxRsp]) →
      TxEngState.Handling event rxRsp state
  | transmits :
      event.type.acknowledges = true →
      state.events = [] →
      state.txEngEventReg.type = .tx →
      state.txRxSarLoaded = true →
      state.rxSarRspReg = rxRsp →
      state.tcpTxMetaReg.Acknowledges rxRsp →
      TxEngState.Handling event rxRsp state
  | retransmits :
      event.type.acknowledges = true →
      state.events = [] →
      state.txEngEventReg.type = .rtCont ∨
        state.txEngEventReg.type = .fin →
      state.txRxSarLoaded = true →
      state.rxSarRspReg = rxRsp →
      TxEngState.Handling event rxRsp state
  | done :
      state.fsmState = .load →
      state.events = [] →
      TxEngState.Handling event rxRsp state

/-- Every segment among the messages has its event's header. -/
def HeadersOf
    (event : EventWithTuple) (rxRsp : RxSarLookupRsp)
    (msgs : List TxEngMsg) : Prop :=
  ∀ segment ∈ segments msgs, SegmentHeader event rxRsp segment

/-- What a call leaves and writes while an event is handled. -/
def KeepsHandling
    (event : EventWithTuple) (rxRsp : RxSarLookupRsp)
    (call : TxEngState × List TxEngMsg) : Prop :=
  call.1.Handling event rxRsp ∧ HeadersOf event rxRsp call.2

section Calls

variable {event : EventWithTuple} {rxRsp : RxSarLookupRsp}
variable {state : TxEngState}

theorem HeadersOf.withPayload
    {writes : List TxEngMsg} (silent : segments writes = [])
    {segment : TxEngFsmMetaData} (id : TcpSessionID) (addr : BitVec 32)
    (header : SegmentHeader event rxRsp segment) :
    HeadersOf event rxRsp (writes ++ payloadMsgs id addr segment) := by
  intro sent member
  rw [segments_append, silent, List.nil_append,
    segments_payloadMsgs] at member
  split at member
  · rw [List.mem_singleton.1 member]
    exact header
  · cases member

theorem HeadersOf.optional
    {condition : Prop} [Decidable condition] {msgs other : List TxEngMsg}
    (first : HeadersOf event rxRsp msgs)
    (second : HeadersOf event rxRsp other) :
    HeadersOf event rxRsp (if condition then msgs else other) := by
  split
  · exact first
  · exact second

theorem HeadersOf.append
    {msgs later : List TxEngMsg} (first : HeadersOf event rxRsp msgs)
    (second : HeadersOf event rxRsp later) :
    HeadersOf event rxRsp (msgs ++ later) := by
  intro sent member
  rw [segments_append, List.mem_append] at member
  rcases member with inFirst | inSecond
  · exact first sent inFirst
  · exact second sent inSecond

/-- A block with one segment, whatever else it writes. -/
theorem HeadersOf.of_one
    {msgs : List TxEngMsg} {segment : TxEngFsmMetaData}
    (one : segments msgs = [segment])
    (header : SegmentHeader event rxRsp segment) :
    HeadersOf event rxRsp msgs := by
  intro sent member
  rw [one] at member
  rw [List.mem_singleton.1 member]
  exact header

theorem HeadersOf.of_silent
    {msgs : List TxEngMsg} (silent : segments msgs = []) :
    HeadersOf event rxRsp msgs := by
  intro sent member
  rw [silent] at member
  cases member

/-- A call of `TX` goes on with `TX` or with `FIN`, or is the last one. -/
theorem txIteration_next
    (id : TcpSessionID)
    (currLength usedLength usableWindow : TcpSessionBuffer)
    (rsp : TxSarToTxEngRsp) :
    segments
        (txIteration id currLength usedLength usableWindow rsp).writes =
      [] ∧
    ((txIteration id currLength usedLength usableWindow rsp).type = .tx ∨
      (txIteration id currLength usedLength usableWindow rsp).type =
        .fin) := by
  rw [txIteration]
  split
  · split
    · exact ⟨rfl, Or.inl rfl⟩
    · rw [txShortSegment]
      refine ⟨?_, ?_⟩
      · simp only []
        split <;> rfl
      · simp only []
        split
        · exact Or.inr rfl
        · exact Or.inl rfl
  · split
    · exact ⟨rfl, Or.inl rfl⟩
    · exact ⟨rfl, Or.inl rfl⟩

theorem txSend_keepsHandling
    {rsp : TxSarToTxEngRsp} {usableWindow : TcpSessionBuffer}
    (acknowledges : event.type.acknowledges = true)
    (noEvents : state.events = [])
    (answer : state.rxSarRspReg = rxRsp)
    (header : state.tcpTxMetaReg.Acknowledges rxRsp) :
    KeepsHandling event rxRsp (txSend state rsp usableWindow) := by
  obtain ⟨silent, next⟩ :=
    txIteration_next state.sessionId state.currLength state.usedLength
      usableWindow rsp
  rw [txSend]
  constructor
  · rcases next with isTx | isFin
    · exact
        TxEngState.Handling.transmits acknowledges noEvents isTx rfl answer
          ⟨header.syn, header.ack, header.ackNumber, header.winSize⟩
    · exact
        TxEngState.Handling.retransmits acknowledges noEvents
          (Or.inr isFin) rfl answer
  · exact
      HeadersOf.withPayload silent _ _
        (SegmentHeader.acknowledges acknowledges
          ⟨header.syn, header.ack, header.ackNumber, header.winSize⟩)

theorem rtSend_loaded
    (state : TxEngState) (rsp : TxSarToTxEngRsp) (addrAckd : BitVec 32) :
    (rtSend state rsp addrAckd).1.txRxSarLoaded =
      state.txRxSarLoaded := by
  rw [rtSend]
  simp only []
  split <;> rfl

theorem rtSend_keepsHandling
    {rsp : TxSarToTxEngRsp} {addrAckd : BitVec 32}
    (acknowledges : event.type.acknowledges = true)
    (noEvents : state.events = [])
    (answer : state.rxSarRspReg = rxRsp) :
    KeepsHandling event rxRsp
      ({ (rtSend state rsp addrAckd).1 with txRxSarLoaded := true },
        (rtSend state rsp addrAckd).2) := by
  have silent (length : TcpSessionBuffer) :
      segments (retransThresholdMsgs state length) = [] := by
    rw [retransThresholdMsgs]
    split <;> rfl
  have header (length : BitVec 16) :
      ({ state.tcpTxMetaReg with
          ackNumber := state.rxSarRspReg.recvd
          seqNumber := rsp.ackd
          winSize := state.rxSarRspReg.winSize
          ack := true
          rst := false
          syn := false
          fin := false
          length := length } : TxEngFsmMetaData).Acknowledges rxRsp := by
    rw [answer]
    exact ⟨rfl, rfl, rfl, rfl⟩
  rw [rtSend]
  simp only []
  split
  · constructor
    · exact
        TxEngState.Handling.retransmits acknowledges noEvents
          (Or.inl rfl) rfl answer
    · exact
        HeadersOf.withPayload (silent _) _ _
          (SegmentHeader.acknowledges acknowledges (header _))
  · constructor
    · by_cases finIsSent : rsp.finIsSent = true
      · refine
          TxEngState.Handling.retransmits acknowledges noEvents
            (Or.inr ?_) rfl answer
        simp [TxEngState.setEventType, finIsSent]
      · refine TxEngState.Handling.done ?_ noEvents
        simp [finIsSent]
    · exact
        HeadersOf.withPayload (silent _) _ _
          (SegmentHeader.acknowledges acknowledges (header _))

theorem finSend_keepsHandling
    {rsp : TxSarToTxEngRsp}
    (acknowledges : event.type.acknowledges = true)
    (noEvents : state.events = [])
    (answer : state.rxSarRspReg = rxRsp) :
    KeepsHandling event rxRsp (finSend state rsp) := by
  rw [finSend]
  refine ⟨TxEngState.Handling.done rfl noEvents, ?_⟩
  refine HeadersOf.append (HeadersOf.of_silent ?_) ?_
  · split
    · rfl
    · split <;> rfl
  · refine
      HeadersOf.optional
        (HeadersOf.of_one rfl
          (SegmentHeader.acknowledges acknowledges ?_))
        (HeadersOf.of_silent rfl)
    rw [answer]
    exact ⟨rfl, rfl, rfl, rfl⟩

/-- The case of an event with its answers still to be read. -/
theorem waiting_keepsHandling
    (queued : event.type ≠ .rtCont)
    (fsmState : state.fsmState = .transition)
    (noEvents : state.events = [])
    (isEvent : state.txEngEventReg = event)
    (notLoaded : state.txRxSarLoaded = false)
    (answers : event.looksUpRxSar = true → state.rxSarRsps = [rxRsp]) :
    KeepsHandling event rxRsp (txEngTcpFsm state) := by
  have stillWaiting : KeepsHandling event rxRsp (state, []) :=
    ⟨TxEngState.Handling.waiting fsmState noEvents isEvent notLoaded
      answers, HeadersOf.of_silent rfl⟩
  rw [txEngTcpFsm, fsmState]
  simp only [isEvent]
  cases type : event.type with
  | tx =>
      have acknowledges : event.type.acknowledges = true := by
        rw [type]
        rfl
      have answer : state.rxSarRsps = [rxRsp] :=
        answers (by rw [Event.looksUpRxSar, type]; rfl)
      simp only [txEngTx, notLoaded, answer]
      cases txRsps : state.txSarRsps with
      | nil =>
          exact stillWaiting
      | cons txRsp later =>
          refine txSend_keepsHandling acknowledges noEvents rfl ?_
          exact ⟨rfl, rfl, rfl, rfl⟩
  | rt =>
      have acknowledges : event.type.acknowledges = true := by
        rw [type]
        rfl
      have answer : state.rxSarRsps = [rxRsp] :=
        answers (by rw [Event.looksUpRxSar, type]; rfl)
      simp only [txEngRt, answer]
      cases txRsps : state.txSarRsps with
      | nil =>
          exact stillWaiting
      | cons txRsp later =>
          exact rtSend_keepsHandling acknowledges noEvents rfl
  | rtCont =>
      exact absurd type queued
  | ack | ackNodelay =>
      have acknowledges : event.type.acknowledges = true := by
        rw [type]
        rfl
      have answer : state.rxSarRsps = [rxRsp] :=
        answers (by rw [Event.looksUpRxSar, type]; rfl)
      simp only [txEngAck, answer]
      cases txRsps : state.txSarRsps with
      | nil =>
          exact stillWaiting
      | cons txRsp later =>
          refine ⟨TxEngState.Handling.done rfl noEvents, ?_⟩
          refine
            HeadersOf.of_one rfl
              (SegmentHeader.acknowledges acknowledges ?_)
          exact ⟨rfl, rfl, rfl, rfl⟩
  | syn =>
      have sends (seqNumber : BitVec 32) :
          SegmentHeader event rxRsp
            ⟨seqNumber, 0, 0xFFFF, BitVec.ofNat 4 windowScaleBits, 8,
              false, false, true, false⟩ :=
        SegmentHeader.syn type rfl rfl rfl rfl
      simp only [txEngSyn, isEvent]
      by_cases repeated : event.retransCnt ≠ 0
      · rw [if_pos repeated]
        cases txRsps : state.txSarRsps with
        | nil =>
            exact stillWaiting
        | cons txRsp later =>
            exact
              ⟨TxEngState.Handling.done rfl noEvents,
                HeadersOf.of_one rfl (sends _)⟩
      · rw [if_neg repeated]
        exact
          ⟨TxEngState.Handling.done rfl noEvents,
            HeadersOf.of_one rfl (sends _)⟩
  | synAck =>
      have answer : state.rxSarRsps = [rxRsp] :=
        answers (by rw [Event.looksUpRxSar, type]; rfl)
      simp only [txEngSynAck, isEvent, answer]
      cases txRsps : state.txSarRsps with
      | nil =>
          exact stillWaiting
      | cons txRsp later =>
          refine
            ⟨TxEngState.Handling.done rfl noEvents,
              HeadersOf.append (HeadersOf.of_silent ?_)
                (HeadersOf.of_one rfl
                  (SegmentHeader.synAck type rfl rfl rfl rfl))⟩
          split <;> rfl
  | fin =>
      have acknowledges : event.type.acknowledges = true := by
        rw [type]
        rfl
      have answer : state.rxSarRsps = [rxRsp] :=
        answers (by rw [Event.looksUpRxSar, type]; rfl)
      simp only [txEngFin, notLoaded, answer]
      cases txRsps : state.txSarRsps with
      | nil =>
          exact stillWaiting
      | cons txRsp later =>
          exact finSend_keepsHandling acknowledges noEvents rfl
  | rst =>
      have sends (seqNumber : BitVec 32) :
          SegmentHeader event rxRsp
            (rstMetaData seqNumber event.getAckNumber) :=
        SegmentHeader.reset type rfl rfl rfl
      simp only [txEngRst, isEvent]
      split
      · cases txRsps : state.txSarRsps with
        | nil =>
            exact
              ⟨TxEngState.Handling.done rfl noEvents,
                HeadersOf.of_silent rfl⟩
        | cons txRsp later =>
            exact
              ⟨TxEngState.Handling.done rfl noEvents,
                HeadersOf.of_one rfl (sends _)⟩
      · exact
          ⟨TxEngState.Handling.done rfl noEvents,
            HeadersOf.of_one rfl (sends _)⟩

theorem txEngTcpFsm_keepsHandling
    (queued : event.type ≠ .rtCont)
    (handling : state.Handling event rxRsp) :
    KeepsHandling event rxRsp (txEngTcpFsm state) := by
  cases handling with
  | queued fsmState events answers =>
      simp only [txEngTcpFsm, fsmState, txEngLoad, events]
      refine
        ⟨TxEngState.Handling.waiting rfl rfl rfl rfl answers,
          HeadersOf.of_silent ?_⟩
      cases event.looksUpRxSar <;> cases event.looksUpTxSar <;> rfl
  | waiting fsmState noEvents isEvent notLoaded answers =>
      exact
        waiting_keepsHandling queued fsmState noEvents isEvent notLoaded
          answers
  | transmits acknowledges noEvents isTx loaded answer header =>
      cases fsmState : state.fsmState with
      | load =>
          simp only [txEngTcpFsm, fsmState, txEngLoad, noEvents]
          exact
            ⟨TxEngState.Handling.done rfl rfl,
              HeadersOf.of_silent rfl⟩
      | transition =>
          simp only [txEngTcpFsm, fsmState, isTx, txEngTx, loaded]
          exact txSend_keepsHandling acknowledges noEvents answer header
  | retransmits acknowledges noEvents isLater loaded answer =>
      cases fsmState : state.fsmState with
      | load =>
          simp only [txEngTcpFsm, fsmState, txEngLoad, noEvents]
          exact
            ⟨TxEngState.Handling.done rfl rfl,
              HeadersOf.of_silent rfl⟩
      | transition =>
          rcases isLater with isRtCont | isFin
          · have kept :=
              @rtSend_keepsHandling event rxRsp state state.txSarRspReg
                TxSarToTxEngRsp.empty.ackd acknowledges noEvents answer
            have stillLoaded :=
              rtSend_loaded state state.txSarRspReg
                TxSarToTxEngRsp.empty.ackd
            simp only [txEngTcpFsm, fsmState, isRtCont, txEngRtCont]
            rw [loaded] at stillLoaded
            rwa [← stillLoaded] at kept
          · simp only [txEngTcpFsm, fsmState, isFin, txEngFin, loaded]
            exact finSend_keepsHandling acknowledges noEvents answer
  | done fsmState noEvents =>
      simp only [txEngTcpFsm, fsmState, txEngLoad, noEvents]
      exact
        ⟨TxEngState.Handling.done rfl rfl,
          HeadersOf.of_silent rfl⟩

/-- Every segment that leaves for an event has the event's header. -/
theorem HandlesEvent.headersOf
    {regs final : TxEngState} {txRsp : TxSarToTxEngRsp}
    {msgs : List TxEngMsg}
    (handles : HandlesEvent regs event rxRsp txRsp msgs final)
    (queued : event.type ≠ .rtCont) : HeadersOf event rxRsp msgs := by
  have initially : (regs.feed event rxRsp txRsp).Handling event rxRsp := by
    refine TxEngState.Handling.queued rfl rfl fun looksUp => ?_
    rw [TxEngState.feed, looksUp]
    rfl
  have written :=
    handles.1.written_of_invariant
      (fun state handling =>
        (txEngTcpFsm_keepsHandling queued handling).1)
      (fun state handling msg member segment isSegment =>
        (txEngTcpFsm_keepsHandling queued handling).2 segment
          (List.mem_filterMap.2 ⟨msg, member, isSegment⟩))
      initially
  intro segment member
  obtain ⟨msg, inMsgs, isSegment⟩ := List.mem_filterMap.1 member
  exact written.2 msg inMsgs segment isSegment

end Calls

end TcpOffload
