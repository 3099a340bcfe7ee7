import TcpOffload.Timers.ProbeCover

/-!
# Runs that keep a probe behind unsent data

What each module does to the unsent data of a session and to what is to come
for it, and from it that a guarded run never leaves data without either.
-/

namespace TcpOffload

open Guarded

/-! ## Calls of the TX engine -/

namespace TxEngState

/-- The answer that the event in hand goes on with, once it is there. -/
def answerInHand (state : TxEngState) : Option TxSarToTxEngRsp :=
  if state.txRxSarLoaded = true ∧ state.txEngEventReg.type ≠ .rt then
    some state.txSarRspReg
  else
    state.txSarRsps.head?

theorem answerInHand_of_loaded
    {state : TxEngState} (isLoaded : state.txRxSarLoaded = true)
    (notRt : state.txEngEventReg.type ≠ .rt) :
    state.answerInHand = some state.txSarRspReg :=
  if_pos ⟨isLoaded, notRt⟩

theorem answerInHand_of_not_loaded
    {state : TxEngState} (notLoaded : ¬ state.txRxSarLoaded = true) :
    state.answerInHand = state.txSarRsps.head? :=
  if_neg fun both => notLoaded both.1

end TxEngState

/-- What a call does with a `TX` event in hand. -/
inductive TransmitCall (state next : TxEngState) (asks : TxAsks) : Prop
  | waits :
      next = state →
      asks = TxAsks.none →
      TransmitCall state next asks
  | goesOn {rsp nextRsp : TxSarToTxEngRsp} :
      state.answerInHand = some rsp →
      next.Transmits state.sessionId →
      next.answerInHand = some nextRsp →
      nextRsp.ackdEqNotAckd = rsp.ackdEqNotAckd →
      nextRsp.notAckdShort = rsp.notAckdShort →
      asks.txSarReqs = [] →
      TransmitCall state next asks
  | ends {rsp : TxSarToTxEngRsp} {pointer : BitVec 32} :
      state.answerInHand = some rsp →
      asks.txSarReqs =
        [TxEngToTxSarReq.update state.sessionId pointer] →
      asks.ptimerSets = [state.sessionId] ∨
        rsp.ackdEqNotAckd = true ∧ pointer = rsp.notAckdShort →
      (next.fsmState = .transition →
        next.txEngEventReg.type = .fin ∧
          ∀ nextRsp ∈ next.answerInHand, nextRsp.notAckd = pointer) →
      TransmitCall state next asks

section TransmitCalls

variable {state : TxEngState}

theorem txSend_transmits
    {loaded : TxEngState} {rsp : TxSarToTxEngRsp}
    {window : TcpSessionBuffer}
    (inHand : state.answerInHand = some rsp)
    (sameEvent : loaded.txEngEventReg = state.txEngEventReg) :
    TransmitCall state (txSend loaded rsp window).1
      (txAsks (txSend loaded rsp window).2) := by
  have sameId : loaded.sessionId = state.sessionId :=
    congrArg (fun event => event.sessionId) sameEvent
  have nextId :
      (txSend loaded rsp window).1.sessionId = loaded.sessionId :=
    rfl
  have isType :
      (txSend loaded rsp window).1.txEngEventReg.type =
        (txIteration loaded.sessionId loaded.currLength
          loaded.usedLength window rsp).type :=
    rfl
  have isState :
      (txSend loaded rsp window).1.fsmState =
        (txIteration loaded.sessionId loaded.currLength
          loaded.usedLength window rsp).fsmState :=
    rfl
  have isLoaded : (txSend loaded rsp window).1.txRxSarLoaded = true :=
    rfl
  have register :
      (txSend loaded rsp window).1.txSarRspReg =
        { rsp with
          notAckd :=
            (txIteration loaded.sessionId loaded.currLength
              loaded.usedLength window rsp).notAckd } :=
    rfl
  have asks :
      txAsks (txSend loaded rsp window).2 =
        (txAsks
          (txIteration loaded.sessionId loaded.currLength
            loaded.usedLength window rsp).writes).append
          ⟨[],
            if
                (txIteration loaded.sessionId loaded.currLength
                  loaded.usedLength window rsp).length = 0 then
              []
            else
              [⟨loaded.sessionId, .rt⟩],
            []⟩ := by
    rw [txSend]
    simp only []
    rw [txAsks_append, txAsks_payloadMsgs]
  generalize (txSend loaded rsp window).1 = next
    at nextId isType isState isLoaded register ⊢
  generalize (txSend loaded rsp window).2 = msgs at asks ⊢
  rw [sameId] at nextId isType isState register asks
  by_cases isFull :
      tcpMss ≤ loaded.currLength.toNat ∧ tcpMss ≤ window.toNat
  · rw [txIteration_full isFull.1 isFull.2] at isType isState register asks
    refine
      TransmitCall.goesOn inHand ⟨isState, isType, nextId⟩
        (TxEngState.answerInHand_of_loaded isLoaded ?_) ?_ ?_ ?_
    · rw [isType]
      exact EventType.noConfusion
    · rw [register]
    · rw [register]
    · rw [asks]
      rfl
  · by_cases fits : loaded.currLength.toNat ≤ window.toNat
    · have below : loaded.currLength.toNat < tcpMss := by
        omega
      rw [txIteration_short fits below] at isType isState register asks
      rw [txAsks_txShortSegment] at asks
      refine TransmitCall.ends inHand (by rw [asks]; rfl) ?_ ?_
      · cases allAcked : rsp.ackdEqNotAckd with
        | true =>
            rw [TxSarToTxEngRsp.pointerBehind, allAcked]
            exact Or.inr ⟨rfl, rfl⟩
        | false =>
            rw [asks, allAcked]
            exact Or.inl rfl
      · intro stays
        have isFin : next.txEngEventReg.type = .fin := by
          rw [isState] at stays
          rw [isType]
          simp only [txShortSegment] at stays ⊢
          split at stays
          · rename_i follows
            rw [if_pos follows]
          · cases stays
        refine ⟨isFin, fun nextRsp member => ?_⟩
        rw [TxEngState.answerInHand_of_loaded isLoaded
          (by rw [isFin]; exact EventType.noConfusion)] at member
        rw [← Option.some.inj member, register]
        rfl
    · have below : window.toNat < tcpMss := by
        omega
      rw [txIteration_window (by omega) below]
        at isType isState register asks
      refine
        TransmitCall.ends inHand (by rw [asks]; rfl)
          (Or.inl (by rw [asks]; rfl)) fun stays => ?_
      rw [isState] at stays
      cases stays

/-- The cases of a `TX` event. -/
theorem txEngTcpFsm_transmits
    (isTransition : state.fsmState = .transition)
    (isTx : state.txEngEventReg.type = .tx) :
    TransmitCall state (txEngTcpFsm state).1
      (txAsks (txEngTcpFsm state).2) := by
  rw [txEngTcpFsm, isTransition]
  simp only [isTx]
  rw [txEngTx]
  split
  · rename_i isLoaded
    refine txSend_transmits ?_ rfl
    apply TxEngState.answerInHand_of_loaded isLoaded
    rw [isTx]
    exact EventType.noConfusion
  · rename_i notLoaded
    split
    · rename_i rxRsp rxLater txRsp txLater rxRsps txRsps
      refine txSend_transmits ?_ rfl
      rw [TxEngState.answerInHand_of_not_loaded notLoaded, txRsps]
      rfl
    · exact TransmitCall.waits rfl rfl

end TransmitCalls

/-! ### The other events -/

section OtherCalls

variable {state : TxEngState}

/-- A retransmission does not move `not_ackd` of the register. -/
theorem rtSend_register
    (loaded : TxEngState) (rsp : TxSarToTxEngRsp) (addrAckd : BitVec 32) :
    (rtSend loaded rsp addrAckd).1.txSarRspReg.notAckd = rsp.notAckd ∧
      (rtSend loaded rsp addrAckd).1.txRxSarLoaded =
        loaded.txRxSarLoaded ∧
      ((rtSend loaded rsp addrAckd).1.fsmState = .transition →
        (rtSend loaded rsp addrAckd).1.txEngEventReg.type ≠ .rt) := by
  by_cases long : BitVec.ofNat 18 tcpMss < rsp.usedLengthRst
  · simp only [rtSend, if_pos long, true_and]
    exact ⟨rfl, fun _ => EventType.noConfusion⟩
  · simp only [rtSend, if_neg long, true_and]
    refine ⟨rfl, fun stays => ?_⟩
    split at stays
    · rename_i finIsSent
      simp only [TxEngState.setEventType, if_pos finIsSent]
      exact EventType.noConfusion
    · cases stays

/-- The answer keeps its `not_ackd` as long as the event is in hand. -/
def KeepsAnswer (state next : TxEngState) : Prop :=
  next.fsmState = .transition →
    ∀ nextRsp ∈ next.answerInHand,
      ∃ rsp ∈ state.answerInHand, nextRsp.notAckd = rsp.notAckd

theorem keepsAnswer_same : KeepsAnswer state state :=
  fun _ rsp member => ⟨rsp, member, rfl⟩

theorem keepsAnswer_rt (isRt : state.txEngEventReg.type = .rt) :
    KeepsAnswer state (txEngRt state).1 := by
  rw [txEngRt]
  split
  · rename_i rxRsp rxLater txRsp txLater rxRsps txRsps
    let taken :=
      { state with
        rxSarRspReg := rxRsp
        rxSarRsps := rxLater
        txSarRsps := txLater }
    obtain ⟨notAckd, _, notRt⟩ :=
      rtSend_register taken txRsp txRsp.ackd
    intro stays nextRsp member
    refine ⟨txRsp, ?_, ?_⟩
    · rw [TxEngState.answerInHand, if_neg fun both => both.2 isRt,
        txRsps]
      rfl
    · have inHand :=
        @TxEngState.answerInHand_of_loaded
          { (rtSend taken txRsp txRsp.ackd).1 with
            txRxSarLoaded := true }
          rfl (notRt stays)
      rw [← Option.some.inj (inHand.symm.trans member)]
      exact notAckd
  · exact keepsAnswer_same

theorem keepsAnswer_rtCont (isRtCont : state.txEngEventReg.type = .rtCont) :
    KeepsAnswer state (txEngRtCont state).1 := by
  rw [txEngRtCont]
  obtain ⟨notAckd, sameLoaded, notRt⟩ :=
    rtSend_register state state.txSarRspReg TxSarToTxEngRsp.empty.ackd
  obtain ⟨_, sameRsps, _⟩ :=
    @rtSend_streams state state.txSarRspReg TxSarToTxEngRsp.empty.ackd
  intro stays nextRsp member
  by_cases isLoaded : state.txRxSarLoaded = true
  · refine ⟨state.txSarRspReg, ?_, ?_⟩
    · apply TxEngState.answerInHand_of_loaded isLoaded
      rw [isRtCont]
      exact EventType.noConfusion
    · rw [TxEngState.answerInHand_of_loaded
        (sameLoaded.trans isLoaded) (notRt stays)] at member
      rw [← Option.some.inj member]
      exact notAckd
  · refine ⟨nextRsp, ?_, rfl⟩
    rw [TxEngState.answerInHand_of_not_loaded (by
      rw [sameLoaded]
      exact isLoaded), sameRsps] at member
    rw [TxEngState.answerInHand_of_not_loaded isLoaded]
    exact member

theorem txEngTcpFsm_keepsAnswer
    (isTransition : state.fsmState = .transition)
    (notTx : state.txEngEventReg.type ≠ .tx) :
    KeepsAnswer state (txEngTcpFsm state).1 := by
  by_cases isRt : state.txEngEventReg.type = .rt
  · rw [txEngTcpFsm, isTransition]
    simp only [isRt]
    exact keepsAnswer_rt isRt
  by_cases isRtCont : state.txEngEventReg.type = .rtCont
  · rw [txEngTcpFsm, isTransition]
    simp only [isRtCont]
    exact keepsAnswer_rtCont isRtCont
  have ends {next : TxEngState} {type : EventType}
      (goesTo : state.GoesTo .load type next) : KeepsAnswer state next := by
    intro stays
    rw [goesTo.fsmState] at stays
    cases stays
  have call := txEngTcpFsm_sends isTransition
  generalize (txEngTcpFsm state).1 = next at call ⊢
  generalize txAsks (txEngTcpFsm state).2 = asks at call
  cases call with
  | waits =>
      exact keepsAnswer_same
  | txFull isTx | txShort isTx | txWindow isTx =>
      exact absurd isTx notTx
  | rt resends =>
      rcases resends with resends | resends
      · exact absurd resends isRt
      · exact absurd resends isRtCont
  | finLeaves _ _ _ _ goesTo | finStays _ _ _ _ goesTo
  | finRepeats _ _ _ goesTo | opens _ _ _ goesTo
  | reopens _ _ _ goesTo | answers _ _ goesTo =>
      exact ends goesTo

/-- An event of another kind does not turn into a `TX` event. -/
theorem SendCall.not_transmits
    {next : TxEngState} {asks : TxAsks} {id : TcpSessionID}
    (call : SendCall state next asks)
    (notTx : state.txEngEventReg.type ≠ .tx) : ¬ next.Transmits id := by
  rintro ⟨stays, isTx, _⟩
  cases call with
  | waits =>
      exact notTx isTx
  | txFull before | txShort before | txWindow before =>
      exact notTx before
  | rt _ _ _ eventReg goesOn =>
      rw [eventReg] at isTx
      rcases goesOn stays with isRtCont | isFin
      · rw [isRtCont] at isTx
        cases isTx
      · rw [isFin] at isTx
        cases isTx
  | finLeaves _ _ _ _ goesTo | finStays _ _ _ _ goesTo
  | finRepeats _ _ _ goesTo | opens _ _ _ goesTo
  | reopens _ _ _ goesTo | answers _ _ goesTo =>
      rw [goesTo.fsmState] at stays
      cases stays

end OtherCalls

/-! ## What every step keeps -/

namespace ProbeSystem

/-- Something will look at the data of the session again: a `TX` event, a
probe, or the event in hand, which sets one. -/
def Awaited (system : ProbeSystem) (id : TcpSessionID) : Prop :=
  system.Expected id ∨
    system.tx.Transmits id ∧
      ∀ rsp ∈ system.tx.answerInHand, rsp.ackdEqNotAckd = false

/-- Where the data ends that the TX engine has sent or is about to send. -/
def sentTo (system : ProbeSystem) (id : TcpSessionID) :
    TcpSessionBuffer :=
  (if system.tx.Transmits id then
      system.tx.answerInHand.elim (system.txSar.settled id).notAckd
        TxSarToTxEngRsp.notAckdShort
    else
      (system.txSar.settled id).notAckd).setWidth 18

def AllSent (system : ProbeSystem) (id : TcpSessionID) : Prop :=
  system.sentTo id = (system.txSar.settled id).appWritten

variable {system : ProbeSystem} {id : TcpSessionID}

theorem sentTo_of_not_transmits (notTransmits : ¬ system.tx.Transmits id) :
    system.sentTo id = (system.txSar.settled id).notAckd.setWidth 18 := by
  rw [sentTo, if_neg notTransmits]

theorem sentTo_of_no_answer (noAnswer : system.tx.answerInHand = none) :
    system.sentTo id = (system.txSar.settled id).notAckd.setWidth 18 := by
  rw [sentTo, noAnswer]
  split <;> rfl

theorem sentTo_of_answer
    {rsp : TxSarToTxEngRsp} (transmits : system.tx.Transmits id)
    (inHand : system.tx.answerInHand = some rsp) :
    system.sentTo id = rsp.notAckdShort.setWidth 18 := by
  rw [sentTo, if_pos transmits, inHand]
  rfl

/-- What is on its way to the TX engine, or is scheduled, stays so. -/
theorem Expected.mono
    {next : ProbeSystem} (expected : system.Expected id)
    (events : ∀ event ∈ system.eventsOnWay, event ∈ next.eventsOnWay)
    (scheduled :
      system.ptimer.Scheduled id → next.ptimer.Scheduled id) :
    next.Expected id := by
  rcases expected with ⟨event, onWay, isOwn⟩ | isScheduled
  · exact Or.inl ⟨event, events event onWay, isOwn⟩
  · exact Or.inr (scheduled isScheduled)

end ProbeSystem

/-- The invariant. -/
structure KeptProbed (id : TcpSessionID) (system : ProbeSystem) :
    Prop where
  held :
    system.rspHandler.fsmStatus ≠ .readEv →
      system.rspHandler.curEvent.type = .tx
  looksUp : system.tx.LooksUpOnce system.txSar.txEngReqs
  answer :
    system.tx.fsmState = .transition →
      system.tx.sessionId = id →
        system.tx.txEngEventReg.type ≠ .tx →
          ∀ rsp ∈ system.tx.answerInHand,
            rsp.notAckd = (system.txSar.settled id).notAckd
  writes : system.WriteWaits id → system.Awaited id
  sent :
    system.Awaited id ∨ system.AllSent id ∨
      (system.txSar.settled id).finIsSent = true
  noFin :
    system.sessionState = .established →
      (system.txSar.settled id).finIsSent = false

namespace KeptProbed

variable {time50ms : BitVec 32} {id : TcpSessionID}
variable {system : ProbeSystem}

theorem start : KeptProbed id ProbeSystem.start where
  held notReadEv := absurd rfl notReadEv
  looksUp := TxEngState.LooksUpOnce.start
  answer isTransition := by
    cases isTransition
  writes := by
    rintro ⟨req, member, _⟩
    cases member
  sent := Or.inr (Or.inl rfl)
  noFin established := by
    cases established

/-! ### The surroundings -/

/-- What loses no event and touches neither the table nor the event in
hand. -/
theorem transport {next : ProbeSystem}
    (kept : KeptProbed id system)
    (held :
      next.rspHandler.fsmStatus ≠ .readEv →
        next.rspHandler.curEvent.type = .tx)
    (sameTable : next.txSar = system.txSar)
    (noFin :
      next.sessionState = .established →
        (system.txSar.settled id).finIsSent = false)
    (fsmState : next.tx.fsmState = system.tx.fsmState)
    (event : next.tx.txEngEventReg = system.tx.txEngEventReg)
    (loaded : next.tx.txRxSarLoaded = system.tx.txRxSarLoaded)
    (register : next.tx.txSarRspReg = system.tx.txSarRspReg)
    (txSarRsps : next.tx.txSarRsps = system.tx.txSarRsps)
    (expected : system.Expected id → next.Expected id) :
    KeptProbed id next := by
  have sameId : next.tx.sessionId = system.tx.sessionId := by
    rw [TxEngState.sessionId, event]
    rfl
  have sameAnswer :
      next.tx.answerInHand = system.tx.answerInHand := by
    rw [TxEngState.answerInHand, event, loaded, register, txSarRsps]
    rfl
  have sameTransmits :
      next.tx.Transmits id ↔ system.tx.Transmits id := by
    rw [TxEngState.Transmits, TxEngState.Transmits, fsmState, event,
      sameId]
  have awaited (before : system.Awaited id) : next.Awaited id := by
    refine before.imp expected ?_
    rw [sameTransmits, sameAnswer]
    exact fun inHand => inHand
  refine ⟨held, ?_, ?_, ?_, ?_, ?_⟩
  · obtain ⟨sent, phase, waits⟩ := kept.looksUp
    refine ⟨sent, ?_, ?_⟩
    · rw [TxEngState.LookupSent, sameId, txSarRsps, sameTable]
      exact phase
    · rw [fsmState, TxEngState.awaitsTxSar, event, loaded]
      exact waits
  · rw [fsmState, sameId, event, sameAnswer, sameTable]
    exact kept.answer
  · intro waits
    rw [ProbeSystem.WriteWaits, sameTable] at waits
    exact awaited (kept.writes waits)
  · refine kept.sent.imp awaited ?_
    rw [ProbeSystem.AllSent, ProbeSystem.AllSent, ProbeSystem.sentTo,
      ProbeSystem.sentTo, sameTable, sameAnswer]
    simp only [sameTransmits]
    exact fun sent => sent
  · rw [sameTable]
    exact noFin

/-- An event that moves on to the TX engine. -/
theorem deliver {next : ProbeSystem} {event : EventWithTuple}
    (kept : KeptProbed id system)
    (moved :
      next =
        { system with
          appEvents := next.appEvents
          probeEvents := next.probeEvents }.queueEvent event)
    (onWay :
      ∀ other ∈ system.appEvents ++ system.probeEvents,
        other ∈ next.appEvents ++ next.probeEvents ∨
          other = event.toEvent) :
    KeptProbed id next := by
  have queued : next.tx.events = system.tx.events ++ [event] := by
    rw [moved]
    rfl
  have events :
      ∀ other ∈ system.eventsOnWay, other ∈ next.eventsOnWay := by
    intro other member
    rw [ProbeSystem.eventsOnWay, queued, List.map_append,
      ← List.append_assoc]
    rcases List.mem_append.1 member with outside | inQueue
    · rcases onWay other outside with stays | isMoved
      · exact List.mem_append_left _ (List.mem_append_left _ stays)
      · rw [isMoved]
        exact List.mem_append_right _ List.mem_cons_self
    · exact
        List.mem_append_left _ (List.mem_append_right _ inQueue)
  have samePtimer : next.ptimer = system.ptimer := by
    rw [moved]
    rfl
  have expected (before : system.Expected id) : next.Expected id :=
    before.mono events fun scheduled => by
      rw [samePtimer]
      exact scheduled
  refine
    kept.transport ?_ ?_ ?_ ?_ ?_ ?_ ?_ ?_ expected
  · rw [moved]
    exact kept.held
  · rw [moved]
    rfl
  · rw [moved]
    exact kept.noFin
  · rw [moved]
    rfl
  · rw [moved]
    rfl
  · rw [moved]
    rfl
  · rw [moved]
    rfl
  · rw [moved]
    rfl

theorem callTimer {full : Bool} (kept : KeptProbed id system) :
    KeptProbed id (system.act time50ms (.probeTimer full)) := by
  refine
    kept.transport kept.held rfl kept.noFin rfl rfl rfl rfl rfl ?_
  rintro (⟨event, onWay, isOwn⟩ | scheduled)
  · refine Or.inl ⟨event, ?_, isOwn⟩
    rcases List.mem_append.1 onWay with outside | inQueue
    · refine List.mem_append_left _ ?_
      rcases List.mem_append.1 outside with isApp | isProbe
      · exact List.mem_append_left _ isApp
      · exact List.mem_append_right _ (List.mem_append_left _ isProbe)
    · exact List.mem_append_right _ inQueue
  · rcases @probeTimer_keeps time50ms full _ _ scheduled with
      stays | ⟨event, written, isOwn⟩
    · exact Or.inr stays
    · refine Or.inl ⟨event, List.mem_append_left _ ?_, isOwn⟩
      exact List.mem_append_right _ (List.mem_append_right _ written)

/-- Updates of the application come with their events. -/
theorem afterRsp {rspHandler : TxAppRspState} {msgs : List TxAppRspMsg}
    (kept : KeptProbed id system)
    (held :
      rspHandler.fsmStatus ≠ .readEv → rspHandler.curEvent.type = .tx)
    (announced :
      ∀ req ∈ msgs.filterMap TxAppRspMsg.toTxSarUpd,
        ∃ event ∈ msgs.filterMap TxAppRspMsg.toEventEng,
          event.type = .tx ∧ event.sessionId = req.sessionId) :
    KeptProbed id (system.afterRsp rspHandler msgs) := by
  let next := system.afterRsp rspHandler msgs
  have notAckd :
      (next.txSar.settled id).notAckd =
        (system.txSar.settled id).notAckd :=
    TxSarTableState.settled_queueTxApp_notAckd _
  have finIsSent :
      (next.txSar.settled id).finIsSent =
        (system.txSar.settled id).finIsSent :=
    TxSarTableState.settled_queueTxApp_finIsSent _
  have events :
      ∀ event ∈ system.eventsOnWay, event ∈ next.eventsOnWay := by
    intro event onWay
    rcases List.mem_append.1 onWay with outside | inQueue
    · refine List.mem_append_left _ ?_
      rcases List.mem_append.1 outside with isApp | isProbe
      · exact List.mem_append_left _ (List.mem_append_left _ isApp)
      · exact List.mem_append_right _ isProbe
    · exact List.mem_append_right _ inQueue
  have awaited (before : system.Awaited id) : next.Awaited id :=
    before.imp
      (fun expected => expected.mono events fun scheduled => scheduled)
      fun inHand => inHand
  have announcedOwn {req : TxAppToTxSarReq}
      (written : req ∈ msgs.filterMap TxAppRspMsg.toTxSarUpd)
      (isOwn : req.sessionId = id) : next.Awaited id := by
    obtain ⟨event, isWritten, isTx, isSession⟩ := announced req written
    refine
      Or.inl (Or.inl ⟨event, ?_, isTx, isSession.trans isOwn⟩)
    exact
      List.mem_append_left _
        (List.mem_append_left _ (List.mem_append_right _ isWritten))
  refine ⟨held, kept.looksUp, ?_, ?_, ?_, ?_⟩
  · rw [notAckd]
    exact kept.answer
  · rintro ⟨req, waits, isOwn⟩
    rcases List.mem_append.1 waits with earlier | written
    · exact awaited (kept.writes ⟨req, earlier, isOwn⟩)
    · exact announcedOwn written isOwn
  · by_cases own :
        ∃ req ∈ msgs.filterMap TxAppRspMsg.toTxSarUpd,
          req.sessionId = id
    · obtain ⟨req, written, isOwn⟩ := own
      exact Or.inl (announcedOwn written isOwn)
    · have appWritten :
          (next.txSar.settled id).appWritten =
            (system.txSar.settled id).appWritten :=
        TxSarTableState.settled_queueTxApp_other
          fun req written isOwn => own ⟨req, written, isOwn⟩
      refine kept.sent.imp awaited ?_
      rw [ProbeSystem.AllSent, ProbeSystem.AllSent, ProbeSystem.sentTo,
        ProbeSystem.sentTo, finIsSent, appWritten, notAckd]
      exact fun sent => sent
  · rw [finIsSent]
    exact kept.noFin

theorem callRsp (kept : KeptProbed id system) :
    KeptProbed id (system.act time50ms .txAppRspHandler) := by
  have call := txAppRspHandler_call system.rspHandler
  change
    KeptProbed id
      (system.afterRsp (txAppRspHandler system.rspHandler).1
        (txAppRspHandler system.rspHandler).2)
  generalize (txAppRspHandler system.rspHandler).1 = next at call ⊢
  generalize (txAppRspHandler system.rspHandler).2 = msgs at call ⊢
  have none :
      ∀ req ∈ ([] : List TxAppRspMsg).filterMap TxAppRspMsg.toTxSarUpd,
        ∃ event ∈ ([] : List TxAppRspMsg).filterMap
            TxAppRspMsg.toEventEng,
          event.type = .tx ∧ event.sessionId = req.sessionId := by
    intro req member
    cases member
  have written (isTx : system.rspHandler.curEvent.type = .tx)
      (okay : Bool) :
      ∀ req ∈ (if okay then
            system.rspHandler.curEvent.writtenMsgs
          else
            []).filterMap TxAppRspMsg.toTxSarUpd,
        ∃ event ∈ (if okay then
              system.rspHandler.curEvent.writtenMsgs
            else
              []).filterMap TxAppRspMsg.toEventEng,
          event.type = .tx ∧ event.sessionId = req.sessionId := by
    cases okay with
    | false =>
        exact none
    | true =>
        intro req member
        rw [List.mem_singleton.1 member]
        exact ⟨_, List.mem_cons_self, isTx, rfl⟩
  cases call with
  | idle =>
      exact kept.afterRsp kept.held none
  | pass isReadEv _ _ =>
      refine kept.afterRsp (fun notReadEv => ?_) ?_
      · exact absurd isReadEv notReadEv
      · intro req member
        cases member
  | hold _ _ isTx =>
      exact kept.afterRsp (fun _ => isTx) none
  | whole isReading =>
      have isTx := kept.held (by rw [isReading]; decide)
      exact
        kept.afterRsp (fun notReadEv => absurd rfl notReadEv)
          (written isTx _)
  | first isReading =>
      have isTx := kept.held (by rw [isReading]; decide)
      exact kept.afterRsp (fun _ => isTx) none
  | second isReading =>
      have isTx := kept.held (by rw [isReading]; decide)
      exact
        kept.afterRsp (fun notReadEv => absurd rfl notReadEv)
          (written isTx _)

/-! ### The table -/

/-- A call of the table that answers no lookup of the TX engine. -/
theorem afterTable_silent
    {next : TxSarTableState} {msgs : List TxSarTableMsg}
    (kept : KeptProbed id system)
    (settled : next.settled id = system.txSar.settled id)
    (noAnswer : txSarAnswers msgs = [])
    (looksUp : system.tx.LooksUpOnce next.txEngReqs)
    (waits : ∀ req ∈ next.txAppReqs, req ∈ system.txSar.txAppReqs) :
    KeptProbed id (system.afterTable next msgs) := by
  have same :
      system.afterTable next msgs = { system with txSar := next } := by
    rw [ProbeSystem.afterTable, noAnswer, List.append_nil]
  rw [same]
  refine ⟨kept.held, looksUp, ?_, ?_, ?_, ?_⟩
  · simp only [settled]
    exact kept.answer
  · rintro ⟨req, member, isOwn⟩
    exact kept.writes ⟨req, waits req member, isOwn⟩
  · have sent := kept.sent
    rw [ProbeSystem.AllSent, ProbeSystem.sentTo] at sent ⊢
    simp only [settled]
    exact sent
  · simp only [settled]
    exact kept.noFin

/-- The pointer of an answer without bytes in flight is behind the written
data. -/
theorem txEngRead_short (entry : TxSarTableEntry) :
    entry.txEngRead.notAckdShort.setWidth 18 = entry.appWritten := by
  rw [TxSarTableEntry.txEngRead, TxSarTableEntry.currLength]
  simp only []
  bv_omega

/-- The table answers the event in hand. -/
theorem afterTable_answers
    {req : TxEngToTxSarReq} {later : List TxEngToTxSarReq}
    {next : TxSarTableState} {rsp : TxSarToTxEngRsp}
    (kept : KeptProbed id system)
    (guarded : KeepsExpected id system .txSarTable)
    (queued : system.txSar.txEngReqs = req :: later)
    (isLookup : req.write = false)
    (nextReqs : next.txEngReqs = later)
    (sameWrites : next.txAppReqs = system.txSar.txAppReqs)
    (sameTable : next.table = system.txSar.table)
    (settled : next.settled id = system.txSar.settled id)
    (isRead :
      rsp = (system.txSar.table req.sessionId).txEngRead) :
    KeptProbed id (system.afterTable next [.txEngRsp rsp]) := by
  have looksUp := kept.looksUp
  rw [queued] at looksUp
  have served := looksUp.lookupServed isLookup
  have noneLater : next.txEngReqs = [] :=
    nextReqs.trans served.noneLater
  have notAckd :=
    @TxSarTableState.settled_notAckd_of_served next id noneLater
  have appWritten :=
    @TxSarTableState.settled_appWritten_of_served next id noneLater
  rw [sameTable, settled] at notAckd appWritten
  rw [sameWrites] at appWritten
  have isCurrent : req.sessionId = system.tx.sessionId := by
    rw [served.isLookup]
    rfl
  rw [isCurrent] at isRead
  have looksUpNext := looksUp.serveLookup isLookup rsp
  rw [← nextReqs] at looksUpNext
  let tx := { system.tx with txSarRsps := system.tx.txSarRsps ++ [rsp] }
  have fresh
      (notLoaded :
        ¬ (system.tx.txRxSarLoaded = true ∧
          system.tx.txEngEventReg.type ≠ .rt)) :
      tx.answerInHand = some rsp := by
    have isHead :
        tx.answerInHand = (system.tx.txSarRsps ++ [rsp]).head? :=
      if_neg notLoaded
    rw [isHead, served.noRsp]
    rfl
  have answer (inHand : system.tx.Transmits id) :
      tx.answerInHand = some rsp := by
    refine fresh fun both => ?_
    have awaits := served.awaits
    rw [TxEngState.awaitsTxSar, inHand.2.1, both.1] at awaits
    cases awaits
  have transmits (inHand : system.tx.Transmits id) :
      (system.afterTable next [.txEngRsp rsp]).Awaited id ∨
        ¬ system.WriteWaits id ∧
          rsp.notAckdShort.setWidth 18 =
            (system.txSar.settled id).appWritten := by
    rw [inHand.2.2] at isRead
    by_cases allAcked :
        (system.txSar.table id).ackd = (system.txSar.table id).notAckd
    · by_cases expected : system.Expected id
      · exact Or.inl (Or.inl expected)
      · have isFirst :
            system.txSar.txEngReqs.head? =
              some (TxEngToTxSarReq.lookup id) := by
          rw [queued, served.isLookup, inHand.2.2]
          rfl
        have noneWaits : ¬ system.WriteWaits id :=
          guarded ⟨isFirst, inHand, allAcked, expected⟩
        refine Or.inr ⟨noneWaits, ?_⟩
        rw [appWritten fun other member isOwn =>
          noneWaits ⟨other, member, isOwn⟩, isRead]
        exact txEngRead_short _
    · refine Or.inl (Or.inr ⟨inHand, fun other member => ?_⟩)
      rw [← Option.some.inj ((answer inHand).symm.trans member),
        isRead]
      exact decide_eq_false allAcked
  have awaited (notInHand : ¬ system.tx.Transmits id)
      (before : system.Awaited id) :
      (system.afterTable next [.txEngRsp rsp]).Awaited id :=
    Or.inl (before.resolve_right fun inHand => notInHand inHand.1)
  have writes (waits : (system.afterTable next
      [.txEngRsp rsp]).WriteWaits id) : system.WriteWaits id := by
    obtain ⟨other, member, isOwn⟩ := waits
    refine ⟨other, ?_, isOwn⟩
    rw [← sameWrites]
    exact member
  refine ⟨kept.held, looksUpNext, ?_, ?_, ?_, ?_⟩
  · intro isTransition isOwn notTx other member
    change other.notAckd = (next.settled id).notAckd
    rw [settled]
    by_cases register :
        system.tx.txRxSarLoaded = true ∧
          system.tx.txEngEventReg.type ≠ .rt
    · have inRegister :=
        @TxEngState.answerInHand_of_loaded tx register.1 register.2
      refine kept.answer isTransition isOwn notTx other ?_
      rw [TxEngState.answerInHand_of_loaded register.1 register.2]
      exact inRegister.symm.trans member
    · have isFresh := (fresh register).symm.trans member
      change system.tx.sessionId = id at isOwn
      rw [← Option.some.inj isFresh, isRead, isOwn, notAckd]
      rfl
  · intro waits
    by_cases inHand : system.tx.Transmits id
    · rcases transmits inHand with awaits | ⟨noneWaits, _⟩
      · exact awaits
      · exact absurd (writes waits) noneWaits
    · exact awaited inHand (kept.writes (writes waits))
  · by_cases inHand : system.tx.Transmits id
    · rcases transmits inHand with awaits | ⟨_, sent⟩
      · exact Or.inl awaits
      · refine Or.inr (Or.inl ?_)
        have isSent :
            (system.afterTable next [.txEngRsp rsp]).sentTo id =
              rsp.notAckdShort.setWidth 18 :=
          ProbeSystem.sentTo_of_answer inHand (answer inHand)
        rw [ProbeSystem.AllSent, isSent, sent]
        exact congrArg TxSarTableEntry.appWritten settled.symm
    · refine kept.sent.imp (awaited inHand) ?_
      have isSent :
          (system.afterTable next [.txEngRsp rsp]).sentTo id =
            (next.settled id).notAckd.setWidth 18 :=
        ProbeSystem.sentTo_of_not_transmits inHand
      rw [ProbeSystem.AllSent, ProbeSystem.AllSent, isSent,
        ProbeSystem.sentTo_of_not_transmits inHand]
      change
        _ →
          (next.settled id).notAckd.setWidth 18 =
              (next.settled id).appWritten ∨
            (next.settled id).finIsSent = true
      rw [settled]
      exact fun sent => sent
  · change _ → (next.settled id).finIsSent = false
    rw [settled]
    exact kept.noFin

theorem callTable
    (kept : KeptProbed id system)
    (guarded : KeepsExpected id system .txSarTable) :
    KeptProbed id (system.act time50ms .txSarTable) := by
  have settled := system.txSar.settled_txSarTable id
  have call := txSarTable_call system.txSar
  change
    KeptProbed id
      (system.afterTable (txSarTable system.txSar).1
        (txSarTable system.txSar).2)
  generalize (txSarTable system.txSar).1 = next at call settled ⊢
  generalize (txSarTable system.txSar).2 = msgs at call ⊢
  cases call with
  | idle =>
      exact
        kept.afterTable_silent settled rfl kept.looksUp
          fun _ member => member
  | @txEngWrite req later queued isWrite =>
      have looksUp := kept.looksUp
      rw [queued] at looksUp
      refine
        kept.afterTable_silent settled ?_ (looksUp.serveWrite isWrite)
          fun _ member => member
      split <;> rfl
  | @txEngLookup req later queued isLookup =>
      exact
        kept.afterTable_answers guarded queued isLookup rfl rfl rfl
          settled rfl
  | @txAppWrite req later _ queued =>
      refine
        kept.afterTable_silent settled rfl kept.looksUp
          fun other member => ?_
      rw [queued]
      exact List.mem_cons_of_mem req member
  | rxEngWrite | rxEngLookup =>
      exact
        kept.afterTable_silent settled rfl kept.looksUp
          fun _ member => member

/-! ### The TX engine -/

theorem expected_afterTx
    {tx : TxEngState} {asks : TxAsks}
    (sameEvents : tx.events = system.tx.events)
    (expected : system.Expected id) :
    (system.afterTx tx asks).Expected id := by
  refine expected.mono (fun event onWay => ?_) ?_
  · change
      event ∈
        system.appEvents ++ system.probeEvents ++
          tx.events.map EventWithTuple.toEvent
    rw [sameEvents]
    exact onWay
  · rintro (asked | registered | active)
    · exact Or.inl (List.mem_append_left _ asked)
    · exact Or.inr (Or.inl registered)
    · exact Or.inr (Or.inr active)

/-- A call that writes no pointer of the session, and neither takes up nor
ends a `TX` event of it. -/
theorem afterTx_keeps
    {tx : TxEngState} {asks : TxAsks}
    (kept : KeptProbed id system)
    (looksUp : tx.LooksUpOnce (system.txSar.txEngReqs ++ asks.txSarReqs))
    (keeps : KeepsPointers id asks.txSarReqs)
    (answer :
      tx.fsmState = .transition →
        tx.sessionId = id →
          tx.txEngEventReg.type ≠ .tx →
            ∀ rsp ∈ tx.answerInHand,
              rsp.notAckd = (system.txSar.settled id).notAckd)
    (awaited :
      system.Awaited id → (system.afterTx tx asks).Awaited id)
    (sameSent :
      (system.afterTx tx asks).sentTo id = system.sentTo id) :
    KeptProbed id (system.afterTx tx asks) := by
  have same :=
    @TxSarTableState.settled_queueTxEng_keeps system.txSar id
      asks.txSarReqs keeps
  have sameFin :=
    @TxSarTableState.settled_queueTxEng_keepsFin system.txSar id
      asks.txSarReqs keeps
  refine
    ⟨kept.held, looksUp, ?_, fun waits => awaited (kept.writes waits),
      ?_, ?_⟩
  · change
      _ → _ → _ → ∀ rsp ∈ tx.answerInHand,
        rsp.notAckd =
          ((system.txSar.queueTxEng asks.txSarReqs).settled id).notAckd
    rw [same.notAckd]
    exact answer
  · refine kept.sent.imp awaited ?_
    rw [ProbeSystem.AllSent, ProbeSystem.AllSent, sameSent]
    change
      _ →
        system.sentTo id =
            ((system.txSar.queueTxEng asks.txSarReqs).settled
              id).appWritten ∨
          ((system.txSar.queueTxEng asks.txSarReqs).settled
            id).finIsSent = true
    rw [same.appWritten, sameFin]
    exact fun sent => sent
  · change
      _ →
        ((system.txSar.queueTxEng asks.txSarReqs).settled
          id).finIsSent = false
    rw [sameFin]
    exact kept.noFin

/-- Neither before nor after the call is a `TX` event of the session in
hand. -/
theorem sentTo_afterTx
    {tx : TxEngState} {asks : TxAsks}
    (keeps : KeepsPointers id asks.txSarReqs)
    (notBefore : ¬ system.tx.Transmits id)
    (notAfter : ¬ tx.Transmits id) :
    (system.afterTx tx asks).sentTo id = system.sentTo id := by
  have after :
      (system.afterTx tx asks).sentTo id =
        ((system.txSar.queueTxEng asks.txSarReqs).settled
          id).notAckd.setWidth 18 :=
    ProbeSystem.sentTo_of_not_transmits notAfter
  rw [after, ProbeSystem.sentTo_of_not_transmits notBefore,
    (TxSarTableState.settled_queueTxEng_keeps keeps).notAckd]

theorem not_transmits_of_load
    {tx : TxEngState} (isLoad : tx.fsmState = .load) :
    ¬ tx.Transmits id := by
  rintro ⟨isTransition, _⟩
  rw [isLoad] at isTransition
  cases isTransition

/-- Without a `TX` event in hand something is on its way. -/
theorem expected_of_awaited
    (notTransmits : ¬ system.tx.Transmits id)
    (awaited : system.Awaited id) : system.Expected id :=
  awaited.resolve_right fun inHand => notTransmits inHand.1

/-- A call that takes up an event, or none. -/
theorem callTx_load
    (kept : KeptProbed id system)
    (isLoad : system.tx.fsmState = .load)
    (looksUp :
      (txEngLoad system.tx).1.LooksUpOnce
        (system.txSar.txEngReqs ++
          (txAsks (txEngLoad system.tx).2).txSarReqs)) :
    KeptProbed id
      (system.afterTx (txEngLoad system.tx).1
        (txAsks (txEngLoad system.tx).2)) := by
  obtain ⟨noRsp, _⟩ := kept.looksUp.in_load isLoad
  have notBefore : ¬ system.tx.Transmits id :=
    not_transmits_of_load isLoad
  rw [txEngLoad] at looksUp ⊢
  split at looksUp
  · have none : KeepsPointers id (txAsks []).txSarReqs := by
      intro req member
      cases member
    have notAfter :
        ¬ TxEngState.Transmits { system.tx with retransSegCnt := 0 } id :=
      not_transmits_of_load isLoad
    refine
      kept.afterTx_keeps looksUp none ?_ ?_
        (sentTo_afterTx none notBefore notAfter)
    · intro isTransition
      rw [isLoad] at isTransition
      cases isTransition
    · intro awaited
      exact
        Or.inl (expected_afterTx rfl (expected_of_awaited notBefore awaited))
  · rename_i event later queued
    rw [txAsks_lookups] at looksUp ⊢
    have keeps :
        KeepsPointers id
          (if event.looksUpTxSar then
            [TxEngToTxSarReq.lookup event.sessionId]
          else
            []) := by
      intro req member _ isWrite
      split at member
      · rw [List.mem_singleton.1 member] at isWrite
        cases isWrite
      · cases member
    let tx :=
      { system.tx with
        fsmState := .transition
        txRxSarLoaded := false
        txEngEventReg := event
        retransSegCnt := 0
        events := later }
    have noAnswer : tx.answerInHand = none := by
      have isHead : tx.answerInHand = system.tx.txSarRsps.head? :=
        TxEngState.answerInHand_of_not_loaded Bool.false_ne_true
      rw [isHead, noRsp]
      rfl
    refine kept.afterTx_keeps looksUp keeps ?_ ?_ ?_
    · intro _ _ _ rsp member
      cases noAnswer.symm.trans member
    · intro awaited
      rcases expected_of_awaited notBefore awaited with
        ⟨other, onWay, isTx, isOwn⟩ | scheduled
      · rcases List.mem_append.1 onWay with outside | inQueue
        · exact
            Or.inl
              (Or.inl ⟨other, List.mem_append_left _ outside, isTx, isOwn⟩)
        · rw [queued, List.map_cons] at inQueue
          rcases List.mem_cons.1 inQueue with isFirst | isLater
          · rw [isFirst] at isTx isOwn
            refine Or.inr ⟨⟨rfl, isTx, isOwn⟩, fun rsp member => ?_⟩
            cases noAnswer.symm.trans member
          · exact
              Or.inl
                (Or.inl
                  ⟨other, List.mem_append_right _ isLater, isTx, isOwn⟩)
      · refine Or.inl (Or.inr ?_)
        rcases scheduled with asked | registered | active
        · exact Or.inl (List.mem_append_left _ asked)
        · exact Or.inr (Or.inl registered)
        · exact Or.inr (Or.inr active)
    · rw [@ProbeSystem.sentTo_of_no_answer (system.afterTx tx _) id
          noAnswer,
        ProbeSystem.sentTo_of_not_transmits notBefore]
      exact
        congrArg (fun pointer : BitVec 32 => pointer.setWidth 18)
          (TxSarTableState.settled_queueTxEng_keeps keeps).notAckd

/-- A call for another session. -/
theorem callTx_other
    {tx : TxEngState} {asks : TxAsks}
    (kept : KeptProbed id system)
    (looksUp : tx.LooksUpOnce (system.txSar.txEngReqs ++ asks.txSarReqs))
    (call : SendCall system.tx tx asks)
    (sameEvents : tx.events = system.tx.events)
    (isOther : system.tx.sessionId ≠ id) :
    KeptProbed id (system.afterTx tx asks) := by
  have keeps := call.keepsPointers isOther
  have otherAfter : tx.sessionId ≠ id := by
    rw [call.sessionId]
    exact isOther
  have notBefore : ¬ system.tx.Transmits id :=
    fun inHand => isOther inHand.2.2
  refine
    kept.afterTx_keeps looksUp keeps
      (fun _ isOwn => absurd isOwn otherAfter) ?_ ?_
  · intro awaited
    exact
      Or.inl
        (expected_afterTx sameEvents
          (expected_of_awaited notBefore awaited))
  · exact
      sentTo_afterTx keeps notBefore
        fun inHand => otherAfter inHand.2.2

/-- A call with a `TX` event of the session in hand. -/
theorem callTx_transmits
    {tx : TxEngState} {asks : TxAsks}
    (kept : KeptProbed id system)
    (looksUp : tx.LooksUpOnce (system.txSar.txEngReqs ++ asks.txSarReqs))
    (call : TransmitCall system.tx tx asks)
    (sameEvents : tx.events = system.tx.events)
    (inHand : system.tx.Transmits id) :
    KeptProbed id (system.afterTx tx asks) := by
  cases call with
  | waits isSame noAsks =>
      rw [isSame, noAsks] at looksUp ⊢
      have same : system.afterTx system.tx TxAsks.none = system := by
        rw [ProbeSystem.afterTx, TxAsks.none,
          TxSarTableState.queueTxEng, List.append_nil, List.append_nil]
      rw [same]
      exact kept
  | @goesOn rsp nextRsp answer transmits nextAnswer sameFlag sameShort
      noReqs =>
      rw [inHand.2.2] at transmits
      have keeps : KeepsPointers id asks.txSarReqs := by
        intro req member
        rw [noReqs] at member
        cases member
      refine kept.afterTx_keeps looksUp keeps ?_ ?_ ?_
      · exact fun _ _ notTx => absurd transmits.2.1 notTx
      · rintro (expected | ⟨_, unacked⟩)
        · exact Or.inl (expected_afterTx sameEvents expected)
        · refine Or.inr ⟨transmits, fun other member => ?_⟩
          rw [← Option.some.inj (nextAnswer.symm.trans member), sameFlag]
          exact unacked rsp answer
      · rw [ProbeSystem.sentTo_of_answer inHand answer, ← sameShort]
        exact
          @ProbeSystem.sentTo_of_answer (system.afterTx tx asks) id
            nextRsp transmits nextAnswer
  | @ends rsp pointer answer isWrite probes fin =>
      rw [inHand.2.2] at isWrite probes
      obtain ⟨_, notAckd, appWritten⟩ :=
        @TxSarTableState.settled_queueTxEng_moves system.txSar id
          (TxEngToTxSarReq.update id pointer) rfl rfl rfl rfl
      have finIsSent :=
        @TxSarTableState.settled_queueTxEng_movesFin system.txSar id
          (TxEngToTxSarReq.update id pointer) rfl rfl rfl rfl
      have sameTable :
          (system.afterTx tx asks).txSar =
            system.txSar.queueTxEng
              [TxEngToTxSarReq.update id pointer] := by
        rw [← isWrite]
        rfl
      rw [← sameTable] at notAckd appWritten finIsSent
      have notAfter : ¬ tx.Transmits id := by
        intro transmits
        have isTx := transmits.2.1
        rw [(fin transmits.1).1] at isTx
        cases isTx
      have awaited (before : system.Awaited id) :
          (system.afterTx tx asks).Awaited id := by
        rcases before with expected | ⟨_, unacked⟩
        · exact Or.inl (expected_afterTx sameEvents expected)
        · rcases probes with isSet | ⟨allAcked, _⟩
          · refine Or.inl (Or.inr (Or.inl ?_))
            change id ∈ system.ptimer.setReqs ++ asks.ptimerSets
            rw [isSet]
            exact List.mem_append_right _ List.mem_cons_self
          · rw [unacked rsp answer] at allAcked
            cases allAcked
      refine
        ⟨kept.held, looksUp, ?_, fun waits => awaited (kept.writes waits),
          ?_, ?_⟩
      · intro isTransition _ _ other member
        rw [notAckd]
        exact (fin isTransition).2 other member
      · rcases kept.sent with before | sent | isSent
        · exact Or.inl (awaited before)
        · rcases probes with isSet | ⟨_, isShort⟩
          · refine Or.inl (Or.inl (Or.inr (Or.inl ?_)))
            change id ∈ system.ptimer.setReqs ++ asks.ptimerSets
            rw [isSet]
            exact List.mem_append_right _ List.mem_cons_self
          · refine Or.inr (Or.inl ?_)
            rw [ProbeSystem.AllSent,
              ProbeSystem.sentTo_of_answer inHand answer] at sent
            rw [ProbeSystem.AllSent,
              @ProbeSystem.sentTo_of_not_transmits
                (system.afterTx tx asks) id notAfter,
              notAckd, appWritten, isShort]
            exact sent
        · refine Or.inr (Or.inr ?_)
          rw [finIsSent]
          exact isSent
      · rw [finIsSent]
        exact kept.noFin

/-- A write that moves the pointers of the session or opens it, behind which
the machine is in `LOAD`. -/
theorem afterTx_writes
    {tx : TxEngState} {asks : TxAsks} {req : TxEngToTxSarReq}
    (kept : KeptProbed id system)
    (looksUp : tx.LooksUpOnce (system.txSar.txEngReqs ++ asks.txSarReqs))
    (sameEvents : tx.events = system.tx.events)
    (notTransmits : ¬ system.tx.Transmits id)
    (isLoad : tx.fsmState = .load)
    (isWrite : asks.txSarReqs = [req])
    (sent :
      ¬ system.Awaited id →
        ((system.txSar.queueTxEng [req]).settled id).finIsSent = true ∨
          ((system.txSar.queueTxEng [req]).settled
              id).notAckd.setWidth 18 =
            ((system.txSar.queueTxEng [req]).settled id).appWritten)
    (noFin :
      system.sessionState = .established →
        ((system.txSar.queueTxEng [req]).settled id).finIsSent =
          false) :
    KeptProbed id (system.afterTx tx asks) := by
  have sameTable :
      (system.afterTx tx asks).txSar = system.txSar.queueTxEng [req] := by
    rw [← isWrite]
    rfl
  rw [← sameTable] at sent noFin
  have awaited (before : system.Awaited id) :
      (system.afterTx tx asks).Awaited id :=
    Or.inl
      (expected_afterTx sameEvents
        (expected_of_awaited notTransmits before))
  refine
    ⟨kept.held, looksUp, ?_, fun waits => awaited (kept.writes waits), ?_,
      noFin⟩
  · intro isTransition
    change tx.fsmState = .transition at isTransition
    rw [isLoad] at isTransition
    cases isTransition
  · by_cases before : system.Awaited id
    · exact Or.inl (awaited before)
    · rcases sent before with isSent | allSent
      · exact Or.inr (Or.inr isSent)
      · refine Or.inr (Or.inl ?_)
        rw [ProbeSystem.AllSent,
          @ProbeSystem.sentTo_of_not_transmits (system.afterTx tx asks) id
            (not_transmits_of_load isLoad)]
        exact allSent

/-- A call with another event of the session in hand. -/
theorem callTx_own
    {tx : TxEngState} {asks : TxAsks}
    (kept : KeptProbed id system)
    (guarded : KeepsExpected id system .txEngTcpFsm)
    (looksUp : tx.LooksUpOnce (system.txSar.txEngReqs ++ asks.txSarReqs))
    (call : SendCall system.tx tx asks)
    (sameEvents : tx.events = system.tx.events)
    (keepsAnswer : KeepsAnswer system.tx tx)
    (isTransition : system.tx.fsmState = .transition)
    (notTx : system.tx.txEngEventReg.type ≠ .tx)
    (isOwn : system.tx.sessionId = id) :
    KeptProbed id (system.afterTx tx asks) := by
  have notBefore : ¬ system.tx.Transmits id :=
    fun inHand => notTx inHand.2.1
  have notAfter : ¬ tx.Transmits id := call.not_transmits notTx
  have keepsWhere (keeps : KeepsPointers id asks.txSarReqs) :
      KeptProbed id (system.afterTx tx asks) := by
    refine
      kept.afterTx_keeps looksUp keeps ?_ ?_
        (sentTo_afterTx keeps notBefore notAfter)
    · intro stays _ _ nextRsp member
      obtain ⟨rsp, inHand, same⟩ := keepsAnswer stays nextRsp member
      rw [same]
      exact kept.answer isTransition isOwn notTx rsp inHand
    · intro awaited
      exact
        Or.inl
          (expected_afterTx sameEvents
            (expected_of_awaited notBefore awaited))
  have nothing : KeepsPointers id [] := by
    intro req member
    cases member
  cases call with
  | waits | finRepeats | reopens | answers =>
      exact keepsWhere nothing
  | txFull isTx | txShort isTx | txWindow isTx =>
      exact absurd isTx notTx
  | rt _ _ thresholds =>
      exact keepsWhere fun req member _ _ => thresholds req member
  | @finLeaves _ rsp isFin working first leaves goesTo =>
      have finIsSent :=
        @TxSarTableState.settled_queueTxEng_movesFin system.txSar id
          (TxEngToTxSarReq.updateFin system.tx.sessionId
            (rsp.notAckd + 1) true true)
          isOwn rfl rfl rfl
      refine
        kept.afterTx_writes looksUp sameEvents notBefore goesTo.fsmState
          rfl (fun _ => Or.inl finIsSent) fun established => ?_
      exact
        absurd established
          (guarded.2
            ⟨isTransition, isFin, isOwn, first, rsp, working, leaves⟩)
  | @finStays _ rsp isFin working _ _ goesTo =>
      have isCurrent :
          rsp.notAckd = (system.txSar.settled id).notAckd := by
        refine kept.answer isTransition isOwn notTx rsp ?_
        rw [TxEngState.workingRsp, isFin] at working
        simp only [] at working
        split at working
        · rename_i isLoaded
          rw [TxEngState.answerInHand_of_loaded isLoaded
            (by rw [isFin]; exact EventType.noConfusion)]
          exact working
        · rename_i notLoaded
          rw [TxEngState.answerInHand_of_not_loaded notLoaded]
          rw [TxEngState.freshRsp] at working
          split at working
          · rename_i txRsps
            rw [txRsps]
            exact working
          · cases working
      obtain ⟨_, notAckd, appWritten⟩ :=
        @TxSarTableState.settled_queueTxEng_moves system.txSar id
          (TxEngToTxSarReq.updateFin system.tx.sessionId rsp.notAckd
            true false)
          isOwn rfl rfl rfl
      have finIsSent :=
        @TxSarTableState.settled_queueTxEng_movesFin system.txSar id
          (TxEngToTxSarReq.updateFin system.tx.sessionId rsp.notAckd
            true false)
          isOwn rfl rfl rfl
      refine
        kept.afterTx_writes looksUp sameEvents notBefore goesTo.fsmState
          rfl (fun notAwaited => ?_) fun established => ?_
      · rw [finIsSent, notAckd, appWritten]
        rcases kept.sent with before | sent | isSent
        · exact absurd before notAwaited
        · refine Or.inr ?_
          rw [ProbeSystem.AllSent,
            ProbeSystem.sentTo_of_not_transmits notBefore,
            ← isCurrent] at sent
          exact sent
        · exact Or.inl isSent
      · rw [finIsSent]
        exact kept.noFin established
  | @opens _ _ iss _ _ _ goesTo =>
      rw [isOwn] at looksUp ⊢
      obtain ⟨notAckd, finIsSent, appWritten⟩ :=
        @TxSarTableState.settled_queueTxEng_opens system.txSar id (iss + 1)
      refine
        kept.afterTx_writes looksUp sameEvents notBefore goesTo.fsmState
          rfl (fun notAwaited => Or.inr ?_) fun _ => finIsSent
      rw [notAckd, appWritten]
      intro req member isSession
      exact notAwaited (kept.writes ⟨req, member, isSession⟩)

theorem callTx
    (kept : KeptProbed id system)
    (guarded : KeepsExpected id system .txEngTcpFsm) :
    KeptProbed id (system.act time50ms .txEngTcpFsm) := by
  have looksUp := kept.looksUp.call guarded.1
  change
    KeptProbed id
      (system.afterTx (txEngTcpFsm system.tx).1
        (txAsks (txEngTcpFsm system.tx).2))
  cases fsmState : system.tx.fsmState with
  | load =>
      have called : txEngTcpFsm system.tx = txEngLoad system.tx := by
        rw [txEngTcpFsm, fsmState]
      rw [called] at looksUp ⊢
      exact kept.callTx_load fsmState looksUp
  | transition =>
      have sameEvents := events_of_transition fsmState
      have call := txEngTcpFsm_sends fsmState
      by_cases isOwn : system.tx.sessionId = id
      · by_cases isTx : system.tx.txEngEventReg.type = .tx
        · exact
            kept.callTx_transmits looksUp
              (txEngTcpFsm_transmits fsmState isTx) sameEvents
              ⟨fsmState, isTx, isOwn⟩
        · exact
            kept.callTx_own guarded looksUp call sameEvents
              (txEngTcpFsm_keepsAnswer fsmState isTx) fsmState isTx isOwn
      · exact kept.callTx_other looksUp call sameEvents isOwn

/-! ### Every step -/

theorem step
    (kept : KeptProbed id system) {action : ProbeAction}
    (guarded : KeepsExpected id system action) :
    KeptProbed id (system.act time50ms action) := by
  have same (expected : system.Expected id) : system.Expected id :=
    expected
  cases action with
  | txAppRspHandler =>
      exact kept.callRsp
  | txEngTcpFsm =>
      exact kept.callTx guarded
  | txSarTable =>
      exact kept.callTable guarded
  | probeTimer full =>
      exact kept.callTimer
  | appEvent =>
      rw [ProbeSystem.act]
      split
      · rename_i event later queued
        refine @deliver id system _ ⟨event, ⟨0, 0, 0, 0⟩⟩ kept rfl ?_
        rw [queued]
        intro other member
        rcases List.mem_append.1 member with isApp | isProbe
        · rcases List.mem_cons.1 isApp with isFirst | isLater
          · exact Or.inr isFirst
          · exact Or.inl (List.mem_append_left _ isLater)
        · exact Or.inl (List.mem_append_right _ isProbe)
      · exact kept
  | probeEvent =>
      rw [ProbeSystem.act]
      split
      · rename_i event later queued
        refine @deliver id system _ ⟨event, ⟨0, 0, 0, 0⟩⟩ kept rfl ?_
        rw [queued]
        intro other member
        rcases List.mem_append.1 member with isApp | isProbe
        · exact Or.inl (List.mem_append_left _ isApp)
        · rcases List.mem_cons.1 isProbe with isFirst | isLater
          · exact Or.inr isFirst
          · exact Or.inl (List.mem_append_right _ isLater)
      · exact kept
  | cachedEvent | doubleAccessFlag | writeStatus | rxSarRsp =>
      exact
        kept.transport kept.held rfl kept.noFin rfl rfl rfl rfl rfl same
  | event event =>
      exact
        @deliver id system _ event kept rfl fun _ member => Or.inl member
  | rxEngToTxSar req =>
      have notAckd :=
        @TxSarTableState.settled_queueRxEng_notAckd system.txSar id [req]
      have appWritten :=
        @TxSarTableState.settled_queueRxEng_appWritten system.txSar id
          [req]
      have finIsSent :=
        @TxSarTableState.settled_queueRxEng_finIsSent system.txSar id
          [req]
      refine ⟨kept.held, kept.looksUp, ?_, kept.writes, ?_, ?_⟩
      · simp only [ProbeSystem.act, notAckd]
        exact kept.answer
      · have sent := kept.sent
        simp only [ProbeSystem.AllSent, ProbeSystem.sentTo] at sent ⊢
        simp only [ProbeSystem.act, notAckd, appWritten, finIsSent]
        exact sent
      · simp only [ProbeSystem.act, finIsSent]
        exact kept.noFin
  | clearProbe =>
      exact
        kept.transport kept.held rfl kept.noFin rfl rfl rfl rfl rfl same
  | sttable state =>
      exact kept.transport kept.held rfl guarded rfl rfl rfl rfl rfl same

/-- With nothing on its way the probe is in the table. -/
theorem probesUnsent (kept : KeptProbed id system) :
    system.ProbesUnsent id := by
  intro quiet established unsent
  have notTransmits : ¬ system.tx.Transmits id :=
    not_transmits_of_load quiet.tx
  rcases kept.sent with awaited | sent | isSent
  · rcases expected_of_awaited notTransmits awaited with
      ⟨event, onWay, _⟩ | asked | ⟨waits, _⟩ | active
    · rw [ProbeSystem.eventsOnWay, quiet.appEvents, quiet.probeEvents,
        quiet.events] at onWay
      cases onWay
    · rw [quiet.setReqs] at asked
      cases asked
    · rw [quiet.setTaken] at waits
      cases waits
    · exact active
  · have noWrites :
        ∀ req ∈ system.txSar.txAppReqs, req.sessionId ≠ id := by
      intro req member
      rw [quiet.txAppReqs] at member
      cases member
    rw [ProbeSystem.AllSent,
      ProbeSystem.sentTo_of_not_transmits notTransmits,
      TxSarTableState.settled_notAckd_of_served quiet.txEngReqs,
      TxSarTableState.settled_appWritten_of_served quiet.txEngReqs
        noWrites] at sent
    exact absurd sent unsent
  · rw [kept.noFin established] at isSent
    cases isSent

end KeptProbed

/-- In a guarded run unsent data always has something to send it. -/
theorem unsentData_probed
    {time50ms : BitVec 32} {id : TcpSessionID}
    {actions : List ProbeAction} {final : ProbeSystem}
    (guarded :
      Along (ProbeStep time50ms) (KeepsExpected id) ProbeSystem.start
        actions)
    (run : Run (ProbeStep time50ms) ProbeSystem.start actions final) :
    final.ProbesUnsent id := by
  have kept : KeptProbed id final := by
    refine invariant_of_run ?_ KeptProbed.start guarded run
    intro system action next here guard stepped
    rw [stepped]
    exact here.step guard
  exact kept.probesUnsent

/-! ## Two runs of one connection -/

/-- Session 7 opens, and its SYN is acknowledged with a window. -/
def openedActions
    (recvWindow : BitVec 16) (iss : BitVec 32) : List ProbeAction :=
  [.event ⟨Event.plain .syn 7, ⟨0, 0, 0, 0⟩⟩, .txEngTcpFsm, .txEngTcpFsm,
    .txSarTable,
    .rxEngToTxSar
      (RxEngToTxSarReq.update 7 (iss + 1) recvWindow 0x39D0 0 false 0),
    .txSarTable, .sttable .established]

/-- 100 bytes of the application are in the buffer, and their `TX` event is
in hand or about to be. -/
def writtenActions (iss : BitVec 32) : List ProbeAction :=
  [.cachedEvent ⟨.tx, 7, (iss + 1).setWidth 18, 100, 0⟩,
    .doubleAccessFlag false, .writeStatus ⟨0, false, false, false, true⟩,
    .txAppRspHandler, .txAppRspHandler, .appEvent]

/-- The table takes `app_written` before or behind the lookup; then the
event is handled. -/
def handledActions (first : List ProbeAction) : List ProbeAction :=
  first ++
    [.txSarTable, .rxSarRsp ⟨1001, 0xFFFF, 0⟩, .txEngTcpFsm, .txSarTable]

def probeActions
    (recvWindow : BitVec 16) (first : List ProbeAction) :
    List ProbeAction :=
  openedActions recvWindow (nextRandomVal TxEngState.start.randomVal) ++
    writtenActions (nextRandomVal TxEngState.start.randomVal) ++
    handledActions first

/-- The event finds a closed window and asks for the probe. -/
def closedWindow : List ProbeAction :=
  probeActions 0 [.txSarTable, .txEngTcpFsm] ++
    [.probeTimer false, .probeTimer false]

def lookedUpFirst : List ProbeAction :=
  probeActions 0xFFFF [.txEngTcpFsm, .txSarTable]

theorem probeRun (time50ms : BitVec 32) (actions : List ProbeAction) :
    Run (ProbeStep time50ms) ProbeSystem.start actions
      (actions.foldl (ProbeSystem.act time50ms) ProbeSystem.start) :=
  @Run.of_act _ _ (ProbeStep time50ms) (ProbeSystem.act time50ms)
    (fun _ _ => rfl) _ actions

/-- The 100 bytes wait behind the closed window, and the probe runs. -/
theorem unsentData_probed_closedWindow :
    let final :=
      closedWindow.foldl (ProbeSystem.act 50) ProbeSystem.start
    final.Quiet ∧ final.sessionState = .established ∧
      (final.txSar.table 7).appWritten =
        (final.txSar.table 7).notAckd.setWidth 18 + 100 ∧
      (final.ptimer.table 7).active = true := by
  intro final
  have quiet : final.Quiet := by
    constructor <;> decide +kernel
  have established : final.sessionState = .established := by
    decide +kernel
  refine ⟨quiet, established, by decide +kernel, ?_⟩
  refine
    unsentData_probed ?_ (probeRun 50 closedWindow) quiet established
      (by decide +kernel)
  exact along_iff_enabled.2 (by decide +kernel)

/-- The event finds nothing to send, and nothing looks at the 100 bytes
again. -/
theorem not_probesUnsent_lookedUpFirst :
    ∃ final,
      Run (ProbeStep 50) ProbeSystem.start lookedUpFirst final ∧
        ¬ final.ProbesUnsent 7 := by
  refine ⟨_, probeRun 50 lookedUpFirst, fun probes => ?_⟩
  have active :=
    probes (by constructor <;> decide +kernel) (by decide +kernel)
      (by decide +kernel)
  revert active
  decide +kernel

end TcpOffload
