import TcpOffload.Timers.SendCover

/-!
# Runs that keep the data covered

What each module does to the cover of a session, and from it that a guarded
run keeps the session covered.
-/

namespace TcpOffload

open Guarded

/-! ## The timer -/

namespace RetransmitTimerEntry

/-- An entry that runs goes on, asks for a repetition or gives up. -/
theorem tick_covers
    (full : Bool) {entry : RetransmitTimerEntry} (id : TcpSessionID)
    (active : entry.active = true) (resends : entry.type.resends = true) :
    (entry.tick full id).1.active = true ∨
      (∃ event ∈
          (entry.tick full id).2.filterMap RetransmitTimerMsg.toEventEng,
        event.sessionId = id ∧ event.isTimeout = true) ∨
      id ∈ (entry.tick full id).2.filterMap
        RetransmitTimerMsg.toSttable := by
  rw [tick, if_pos active]
  split
  · exact Or.inl active
  split
  · exact Or.inl active
  split
  · rename_i attemptsLeft
    refine Or.inr (Or.inl ⟨_, List.mem_cons_self, rfl, ?_⟩)
    have counted : entry.retries + 1 ≠ 0 := by
      intro wraps
      have value := congrArg BitVec.toNat wraps
      rw [BitVec.toNat_add] at value
      change (entry.retries.toNat + 1) % 8 = 0 at value
      change entry.retries.toNat < 4 at attemptsLeft
      omega
    change (entry.retries + 1 != 0 && entry.type.resends) = true
    rw [bne_iff_ne.2 counted, resends]
    rfl
  · exact Or.inr (Or.inr List.mem_cons_self)

theorem active_tick {full : Bool} {entry : RetransmitTimerEntry}
    {id : TcpSessionID}
    (active : (entry.tick full id).1.active = true) :
    entry.active = true := by
  by_contra notActive
  rw [tick_inactive (Bool.eq_false_iff.2 notActive)] at active
  exact notActive active

theorem tick_type
    (full : Bool) (entry : RetransmitTimerEntry) (id : TcpSessionID) :
    (entry.tick full id).1.type = entry.type := by
  rw [tick]
  split
  · split
    · rfl
    split
    · rfl
    split <;> rfl
  · rfl

end RetransmitTimerEntry

namespace RetransmitTimerState

/-- What the timer repeats for the session, now or later. -/
structure Resends (state : RetransmitTimerState) (id : TcpSessionID) :
    Prop where
  entry :
    (state.table id).active = true →
      (state.table id).type.resends = true
  setReqs :
    ∀ req ∈ state.setReqs,
      req.sessionId = id → req.type.resends = true

/-- The entry runs, or is asked to. -/
def Runs (state : RetransmitTimerState) (id : TcpSessionID) : Prop :=
  (state.table id).active = true ∨
    ∃ req ∈ state.setReqs, req.sessionId = id

/-- A call does not lose a timer that runs. -/
inductive Holds
    (id : TcpSessionID) (next : RetransmitTimerState)
    (msgs : List RetransmitTimerMsg) : Prop
  | runs : next.Runs id → Holds id next msgs
  | timesOut {event : Event} :
      event ∈ msgs.filterMap RetransmitTimerMsg.toEventEng →
      event.sessionId = id →
      event.isTimeout = true →
      Holds id next msgs
  | releases :
      id ∈ msgs.filterMap RetransmitTimerMsg.toSttable →
      Holds id next msgs

end RetransmitTimerState

section Timer

variable {times : TimerTimes} {full : Bool}
variable {state : RetransmitTimerState} {id : TcpSessionID}

theorem RetransmitTimerState.stops_of_applied
    (applies : state.event full = .applied ⟨id, true⟩) : state.Stops id := by
  have spec := retransmitTimer_spec TimerTimes.simulation full state
  obtain ⟨waits, isReq⟩ := spec.moves.waits_of_applied applies
  refine ⟨waits, ?_, isReq⟩
  intro isPrev
  rw [event, waits] at applies
  simp only [isPrev, ne_eq, not_true_eq_false, if_false,
    setOrSweepEvent] at applies
  split at applies
  · cases applies
  · cases applies

open RetransmitTimerState in
/-- A call that does not stop the timer of the session does not lose it. -/
theorem retransmitTimer_holds
    (inTable : (state.event full).InTable)
    (isSession : id.toNat < tcpMaxSessions)
    (resends : state.Resends id) (runs : state.Runs id)
    (notStops : ¬ state.Stops id) :
    Holds id (retransmitTimer times full state).1
      (retransmitTimer times full state).2 := by
  have spec := retransmitTimer_spec times full state
  have entry := spec.entries inTable id isSession
  rw [spec.msgs]
  rcases runs with active | ⟨waiting, isQueued, isId⟩
  · rcases
      spec.moves.active_or active fun stops =>
        notStops (stops_of_applied stops) with
      stays | written
    · refine Holds.runs (Or.inl ?_)
      rw [entry]
      exact stays
    · have moves := spec.moves
      generalize state.event full = event at moves entry written ⊢
      cases moves with
      | readClear | applied | readSet =>
          cases written
      | swept =>
          simp only [RtimerEvent.outputs, Bool.and_eq_true,
            decide_eq_true_eq] at written
          rw [RtimerEvent.onEntry, if_pos written.1] at entry
          have covers :=
            (state.table id).tick_covers full id active
              (resends.entry active)
          rw [RtimerEvent.msgs, written.1]
          rcases covers with
            stays | ⟨event, isMsg, isId, isTimeout⟩ | isReleased
          · refine Holds.runs (Or.inl ?_)
            rw [entry]
            exact stays
          · exact Holds.timesOut isMsg isId isTimeout
          · exact Holds.releases isReleased
  · have takes := retransmitTimer_takes times full state
    generalize state.event full = event at takes entry
    cases takes with
    | none sameReqs =>
        refine Holds.runs (Or.inr ⟨waiting, ?_, isId⟩)
        rw [sameReqs]
        exact isQueued
    | @first req later queued isLater =>
        rw [queued] at isQueued
        rcases List.mem_cons.1 isQueued with isFirst | isLeft
        · refine Holds.runs (Or.inl ?_)
          rw [entry, RtimerEvent.onEntry, ← isFirst, if_pos isId]
          rfl
        · refine Holds.runs (Or.inr ⟨waiting, ?_, isId⟩)
          rw [isLater]
          exact isLeft

/-- The call that stops a timer takes no request for one. -/
theorem retransmitTimer_stops (stops : state.Stops id) :
    (retransmitTimer times full state).1.setReqs = state.setReqs := by
  rw [retransmitTimer, stops.1]
  simp only []
  rw [if_pos stops.2.1]
  rfl

theorem retransmitTimer_resends
    (inTable : (state.event full).InTable)
    (isSession : id.toNat < tcpMaxSessions)
    (resends : state.Resends id) :
    (retransmitTimer times full state).1.Resends id := by
  have spec := retransmitTimer_spec times full state
  constructor
  · rw [spec.entries inTable id isSession]
    have moves := spec.moves
    generalize state.event full = event at moves
    cases moves with
    | readClear =>
        exact resends.entry
    | applied =>
        rw [RtimerEvent.onEntry]
        split
        · exact fun active => resends.entry (Bool.and_eq_true_iff.1 active).1
        · exact resends.entry
    | @readSet req later _ queued =>
        rw [RtimerEvent.onEntry]
        split
        · rename_i isOwn
          have isFirst : req ∈ state.setReqs := by
            rw [queued]
            exact List.mem_cons_self
          exact fun _ => resends.setReqs req isFirst isOwn
        · exact resends.entry
    | swept =>
        rw [RtimerEvent.onEntry]
        split
        · intro active
          rw [RetransmitTimerEntry.tick_type]
          exact resends.entry (RetransmitTimerEntry.active_tick active)
        · exact resends.entry
  · exact fun req member => resends.setReqs req (spec.setsLeft member)

end Timer

/-! ## Calls of the TX engine -/

namespace SendCall

variable {state next : TxEngState} {asks : TxAsks}
variable {id : TcpSessionID}

/-- The timer is asked for the session in hand, and for a repetition. -/
theorem rtimerSets (call : SendCall state next asks) :
    ∀ req ∈ asks.rtimerSets,
      req.sessionId = state.sessionId ∧ req.type.resends = true := by
  have one {type : EventType} (resends : type.resends = true) :
      ∀ req ∈ [TxEngToRetransTimerReq.mk state.sessionId type],
        req.sessionId = state.sessionId ∧ req.type.resends = true := by
    intro req member
    rw [List.mem_singleton.1 member]
    exact ⟨rfl, resends⟩
  have none :
      ∀ req ∈ ([] : List TxEngToRetransTimerReq),
        req.sessionId = state.sessionId ∧ req.type.resends = true := by
    intro req member
    cases member
  cases call with
  | waits | finStays | answers =>
      exact none
  | txFull | finLeaves =>
      exact one rfl
  | txShort | txWindow | rt =>
      simp only []
      split
      · exact none
      · exact one rfl
  | finRepeats =>
      simp only []
      split
      · exact one rfl
      · exact none
  | opens isOpen | reopens isOpen =>
      refine one ?_
      rcases isOpen with isSyn | isSynAck
      · rw [isSyn]
        rfl
      · rw [isSynAck]
        rfl

end SendCall

namespace TxEngState

variable {state next : TxEngState} {id : TcpSessionID}

theorem not_looping_of_load (isLoad : next.fsmState = .load) :
    ¬ next.looping id := by
  rintro ⟨isTransition, _⟩
  rw [isLoad] at isTransition
  cases isTransition

theorem not_looping_of_type
    (otherType : next.txEngEventReg.type ≠ .tx) : ¬ next.looping id :=
  fun loops => otherType loops.2.1

theorem not_looping_of_other (isOther : next.sessionId ≠ id) :
    ¬ next.looping id :=
  fun loops => isOther loops.2.2.2

end TxEngState

namespace CoverSystem

variable {system : CoverSystem} {id : TcpSessionID}

theorem sentTo_of_not_looping (notLooping : ¬ system.tx.looping id) :
    system.sentTo id = (system.txSar.settled id).notAckd :=
  if_neg notLooping

/-- The TX engine asked for the timer. -/
theorem covered_of_asked
    {tx : TxEngState} {asks : TxAsks} {req : TxEngToRetransTimerReq}
    (asked : req ∈ asks.rtimerSets) (isOwn : req.sessionId = id) :
    (system.afterTx tx asks).Covered id :=
  Or.inr
    (Or.inr (Or.inl ⟨req, List.mem_append_right _ asked, isOwn⟩))

/-- What does not depend on the TX engine covers as before. -/
theorem covered_of_elsewhere
    {tx : TxEngState} {asks : TxAsks}
    (sameEvents : tx.events = system.tx.events)
    (elsewhere :
      (system.rtimer.table id).active = true ∨ system.Requested id) :
    (system.afterTx tx asks).Covered id := by
  rcases elsewhere with active | ⟨req, queued, isOwn⟩ | pending | released
  · exact Or.inl active
  · exact
      Or.inr
        (Or.inr (Or.inl ⟨req, List.mem_append_left _ queued, isOwn⟩))
  · refine Or.inr (Or.inr (Or.inr (Or.inl ?_)))
    obtain ⟨event, member, isPending⟩ := pending
    refine ⟨event, ?_, isPending⟩
    change
      event ∈ system.timeouts ++ tx.events.map EventWithTuple.toEvent
    rw [sameEvents]
    exact member
  · exact Or.inr (Or.inr (Or.inr (Or.inr released)))

/-- The pointers stay, and the machine was in no loop and is in none. -/
theorem allAcked_of_keeps
    {tx : TxEngState} {asks : TxAsks}
    (acked : system.AllAcked id)
    (keeps : KeepsPointers id asks.txSarReqs)
    (notBefore : ¬ system.tx.looping id) (notAfter : ¬ tx.looping id) :
    (system.afterTx tx asks).AllAcked id := by
  have same := @TxSarTableState.settled_queueTxEng_keeps system.txSar id
    asks.txSarReqs keeps
  rw [AllAcked, sentTo_of_not_looping notBefore] at acked
  rw [AllAcked, sentTo_of_not_looping notAfter]
  exact (same.ackd.trans acked).trans same.notAckd.symm

/-- The pointer that is written is the one behind all that was sent. -/
theorem allAcked_of_pointer
    {tx : TxEngState} {asks : TxAsks} {req : TxEngToTxSarReq}
    (acked : system.AllAcked id) (only : asks.txSarReqs = [req])
    (isOwn : req.sessionId = id) (isWrite : req.write = true)
    (noThreshold : req.retransReq = false) (noInit : req.init = false)
    (isCurrent : req.notAckd = system.sentTo id)
    (notAfter : ¬ tx.looping id) :
    (system.afterTx tx asks).AllAcked id := by
  obtain ⟨ackd, notAckd, _⟩ :=
    @TxSarTableState.settled_queueTxEng_moves system.txSar id req isOwn
      isWrite noThreshold noInit
  rw [AllAcked, sentTo_of_not_looping notAfter]
  change
    ((system.txSar.queueTxEng asks.txSarReqs).settled id).ackd =
      ((system.txSar.queueTxEng asks.txSarReqs).settled id).notAckd
  rw [only, ackd, notAckd, isCurrent]
  exact acked

theorem noTimeout_of_type
    {event : Event} {type : EventType} (isType : event.type = type)
    (noResend : type.resends = false) : event.isTimeout = false := by
  rw [Event.isTimeout, isType, noResend, Bool.and_false]

theorem noTimeout_of_first
    {event : Event} (first : event.retransCnt = 0) :
    event.isTimeout = false := by
  rw [Event.isTimeout, first]
  rfl

/-- A call for the session in hand. -/
theorem callTx_own
    {next : TxEngState} {asks : TxAsks}
    (call : SendCall system.tx next asks)
    (sameEvents : next.events = system.tx.events)
    (isTransition : system.tx.fsmState = .transition)
    (isOwn : system.tx.sessionId = id)
    (established : system.sessionState = .established)
    (before : system.AllAcked id ∨ system.Covered id)
    (guarded : KeepsCover id system .txEngTcpFsm) :
    (system.afterTx next asks).AllAcked id ∨
      (system.afterTx next asks).Covered id := by
  by_cases elsewhere :
      (system.rtimer.table id).active = true ∨ system.Requested id
  · exact Or.inr (covered_of_elsewhere sameEvents elsewhere)
  have guard := guarded established isTransition isOwn elsewhere
  have here : system.AllAcked id ∨ system.tx.Resending id := by
    rcases before with acked | active | resending | requested
    · exact Or.inl acked
    · exact absurd (Or.inl active) elsewhere
    · exact Or.inr resending
    · exact absurd (Or.inr requested) elsewhere
  have ackedUnless (noTimeout : system.tx.txEngEventReg.isTimeout = false) :
      system.AllAcked id :=
    here.resolve_right fun resending =>
      Bool.false_ne_true (noTimeout.symm.trans resending.2.2)
  have asked {type : EventType}
      (sets : asks.rtimerSets = [⟨system.tx.sessionId, type⟩]) :
      (system.afterTx next asks).AllAcked id ∨
        (system.afterTx next asks).Covered id :=
    Or.inr
      (covered_of_asked (by rw [sets]; exact List.mem_cons_self) isOwn)
  cases call with
  | waits =>
      refine here.imp (fun acked => ?_) fun resending => Or.inr (Or.inl ?_)
      · have same :
            system.afterTx system.tx TxAsks.none = system := by
          rw [afterTx, TxAsks.none, TxSarTableState.queueTxEng,
            List.append_nil, List.append_nil]
        rw [same]
        exact acked
      · exact resending
  | txFull =>
      exact asked rfl
  | @txShort _ rsp type isTx working eventReg goesOn =>
      by_cases none : system.tx.dataLeft rsp = 0
      · have isCurrent :
            rsp.pointerBehind (system.tx.dataLeft rsp) =
              system.sentTo id := by
          apply (guard rsp working).2
          rw [TxEngState.silentPointer, isTx]
          simp only [none, if_true]
        have notAfter : ¬ next.looping id := by
          rintro ⟨stays, isTxAfter, _⟩
          rw [eventReg, goesOn stays] at isTxAfter
          cases isTxAfter
        exact
          Or.inl
            (allAcked_of_pointer (ackedUnless (noTimeout_of_type isTx rfl))
              rfl isOwn rfl rfl rfl isCurrent notAfter)
      · exact asked (if_neg none)
  | @txWindow _ rsp isTx working some goesTo =>
      by_cases closed : system.tx.windowLeft rsp = 0
      · have isCurrent :
            rsp.notAckd + (system.tx.windowLeft rsp).setWidth 32 =
              system.sentTo id := by
          apply (guard rsp working).2
          rw [TxEngState.silentPointer, isTx]
          simp only [if_neg some, closed, if_true]
          exact congrArg Option.some (BitVec.add_zero _).symm
        have notAfter : ¬ next.looping id :=
          TxEngState.not_looping_of_load goesTo.fsmState
        exact
          Or.inl
            (allAcked_of_pointer (ackedUnless (noTimeout_of_type isTx rfl))
              rfl isOwn rfl rfl rfl isCurrent notAfter)
      · exact asked (if_neg closed)
  | @rt _ rsp type reqs isRt working thresholds eventReg goesOn follows =>
      have keeps : KeepsPointers id reqs :=
        fun req member _ _ => thresholds req member
      have notBefore : ¬ system.tx.looping id := by
        apply TxEngState.not_looping_of_type
        rcases isRt with isRt | isRtCont
        · rw [isRt]
          decide
        · rw [isRtCont]
          decide
      have notAfter : ¬ next.looping id := by
        rintro ⟨stays, isTx, _⟩
        rw [eventReg] at isTx
        rcases goesOn stays with isRtCont | isFin
        · rw [isRtCont] at isTx
          cases isTx
        · rw [isFin] at isTx
          cases isTx
      have stillAcked (acked : system.AllAcked id) :=
        @allAcked_of_keeps system id next
          ⟨reqs,
            if rsp.usedLengthRst = 0 then
              []
            else
              [⟨system.tx.sessionId, .rt⟩],
            []⟩
          acked keeps notBefore notAfter
      by_cases none : rsp.usedLengthRst = 0
      · cases finIsSent : rsp.finIsSent with
        | true =>
            obtain ⟨stays, asFin⟩ := follows finIsSent none
            refine here.imp stillAcked fun resending => Or.inr (Or.inl ?_)
            have timeout := resending.2.2
            rw [Event.isTimeout, Bool.and_eq_true] at timeout
            refine ⟨stays, ?_, ?_⟩
            · change next.txEngEventReg.sessionId = id
              rw [asFin]
              exact isOwn
            · change next.txEngEventReg.isTimeout = true
              rw [asFin, Event.isTimeout, Bool.and_eq_true]
              exact ⟨timeout.1, rfl⟩
        | false =>
            refine Or.inl (stillAcked ((guard rsp working).1 ?_))
            rw [TxEngState.resendsNothing]
            rcases isRt with isRt | isRtCont
            · simp [isRt, none, finIsSent]
            · simp [isRtCont, none, finIsSent]
      · exact asked (if_neg none)
  | finLeaves =>
      exact asked rfl
  | @finStays _ rsp isFin working first notNext goesTo =>
      have isCurrent : rsp.notAckd = system.sentTo id := by
        apply (guard rsp working).2
        rw [TxEngState.silentPointer, isFin]
        exact if_pos ⟨first, notNext⟩
      have notAfter : ¬ next.looping id :=
        TxEngState.not_looping_of_load goesTo.fsmState
      exact
        Or.inl
          (allAcked_of_pointer (ackedUnless (noTimeout_of_first first)) rfl
            isOwn rfl rfl rfl isCurrent notAfter)
  | @finRepeats _ rsp isFin working repeated goesTo =>
      by_cases leaves :
          rsp.finLeaves system.tx.txEngEventReg.retransCnt = true
      · exact asked (if_pos leaves)
      · have acked : system.AllAcked id := by
          apply (guard rsp working).1
          rw [TxEngState.resendsNothing, isFin]
          simp only [Bool.eq_false_iff.2 leaves, bne_iff_ne.2 repeated]
          rfl
        refine Or.inl (allAcked_of_keeps acked ?_ ?_ ?_)
        · intro req member
          cases member
        · exact TxEngState.not_looping_of_type (by rw [isFin]; decide)
        · exact TxEngState.not_looping_of_load goesTo.fsmState
  | opens | reopens =>
      exact asked rfl
  | @answers _ type isAnswer isType goesTo =>
      have noResend : type.resends = false ∧ type ≠ .tx := by
        rcases isAnswer with isAck | isAckNodelay | isRst
        · rw [isAck]
          exact ⟨rfl, by decide⟩
        · rw [isAckNodelay]
          exact ⟨rfl, by decide⟩
        · rw [isRst]
          exact ⟨rfl, by decide⟩
      refine
        Or.inl
          (allAcked_of_keeps
            (ackedUnless (noTimeout_of_type isType noResend.1)) ?_ ?_ ?_)
      · intro req member
        cases member
      · exact TxEngState.not_looping_of_type (by rw [isType]; exact noResend.2)
      · exact TxEngState.not_looping_of_load goesTo.fsmState

end CoverSystem

/-! ## What every step keeps -/

/-- The answer of the state table, once it is there, is the state of the
session. -/
inductive StateAnswer
    (id : TcpSessionID) (rx : RxEngState) (sessionState : SessionState) :
    Prop
  | idle :
      rx.fsmState = .load →
      rx.sttableRsps = [] →
      StateAnswer id rx sessionState
  | asked :
      rx.fsmState = .transition →
      rx.sttableRsps = [] →
      StateAnswer id rx sessionState
  | answered {state : SessionState} :
      rx.fsmState = .transition →
      rx.sttableRsps = [state] →
      (rx.tcpRxMetaReg.sessionId = id → state = sessionState) →
      StateAnswer id rx sessionState

theorem StateAnswer.transport
    {id : TcpSessionID} {rx next : RxEngState}
    {sessionState : SessionState}
    (answer : StateAnswer id rx sessionState)
    (fsmState : next.fsmState = rx.fsmState)
    (sttableRsps : next.sttableRsps = rx.sttableRsps)
    (segment : next.tcpRxMetaReg = rx.tcpRxMetaReg) :
    StateAnswer id next sessionState := by
  cases answer with
  | idle isLoad none =>
      exact idle (fsmState.trans isLoad) (sttableRsps.trans none)
  | asked isTransition none =>
      exact asked (fsmState.trans isTransition) (sttableRsps.trans none)
  | answered isTransition one isState =>
      refine
        answered (fsmState.trans isTransition) (sttableRsps.trans one) ?_
      rw [segment]
      exact isState

/-- The invariant. -/
structure KeptCovered (id : TcpSessionID) (system : CoverSystem) :
    Prop where
  covered :
    system.sessionState = .established →
      system.AllAcked id ∨ system.Covered id
  answer : StateAnswer id system.rx system.sessionState
  resends : system.rtimer.Resends id

namespace KeptCovered

variable {times : TimerTimes} {id : TcpSessionID}
variable {system : CoverSystem}

theorem start (table : TcpSessionID → TxSarTableEntry) :
    KeptCovered id (CoverSystem.start table) := by
  refine ⟨fun established => ?_, StateAnswer.idle rfl rfl, ?_, ?_⟩
  · cases established
  · intro active
    cases active
  · intro req member
    cases member

/-- The RX engine moves `ackd` and the state, and nothing else of the
cover. -/
theorem allAcked_afterRx
    {rx : RxEngState} {msgs : List RxEngMsg} :
    (system.afterRx id rx msgs).AllAcked id ↔
      ackdBehind id (system.txSar.settled id).ackd msgs =
        system.sentTo id := by
  have ackd :
      ((system.afterRx id rx msgs).txSar.settled id).ackd =
        ackdBehind id (system.txSar.settled id).ackd msgs :=
    TxSarTableState.settled_queueRxEng_ackd _
  have notAckd :
      ((system.afterRx id rx msgs).txSar.settled id).notAckd =
        (system.txSar.settled id).notAckd :=
    TxSarTableState.settled_queueRxEng_notAckd _
  have sameSent :
      (system.afterRx id rx msgs).sentTo id = system.sentTo id := by
    rw [CoverSystem.sentTo, CoverSystem.sentTo, notAckd]
    rfl
  rw [CoverSystem.AllAcked, ackd, sameSent]

theorem callRx
    (kept : KeptCovered id system)
    (guarded : KeepsCover id system .rxEngTcpFsm) :
    KeptCovered id (system.act times id .rxEngTcpFsm) := by
  have call := rxEngTcpFsm_call system.rx
  change
    KeptCovered id
      (system.afterRx id (rxEngTcpFsm system.rx).1
        (rxEngTcpFsm system.rx).2)
  generalize (rxEngTcpFsm system.rx).1 = next at call
  generalize (rxEngTcpFsm system.rx).2 = msgs at call
  have silent
      (sameState : stateBehind id system.sessionState msgs =
        system.sessionState)
      (sameAckd :
        ackdBehind id (system.txSar.settled id).ackd msgs =
          (system.txSar.settled id).ackd) :
      (system.afterRx id next msgs).sessionState = .established →
        (system.afterRx id next msgs).AllAcked id ∨
          (system.afterRx id next msgs).Covered id := by
    intro established
    rw [allAcked_afterRx, sameAckd]
    exact kept.covered (sameState.symm.trans established)
  cases call with
  | rests =>
      exact
        ⟨silent rfl rfl, kept.answer, kept.resends.entry,
          kept.resends.setReqs⟩
  | @loads segment later isLoad metaDatas =>
      have noAnswer : system.rx.sttableRsps = [] := by
        cases kept.answer with
        | idle _ none =>
            exact none
        | asked isTransition | answered isTransition =>
            rw [isLoad] at isTransition
            cases isTransition
      exact
        ⟨silent (stateBehind_rxLookups id _ segment)
            (ackdBehind_rxLookups id _ segment),
          StateAnswer.asked rfl noAnswer, kept.resends.entry,
          kept.resends.setReqs⟩
  | @handles loaded isTransition answers =>
      have took := takesAnswers answers
      have own := rxEngHandle_ownWrites loaded
      obtain ⟨txSarReg, txWinScale, final⟩ := rxEngHandle_regs loaded
      obtain ⟨noneLeft, isState⟩ :
          loaded.sttableRsps = [] ∧
            (loaded.tcpRxMetaReg.sessionId = id →
              loaded.sessionStateReg = system.sessionState) := by
        have rsps := took.sttableRsps
        cases kept.answer with
        | idle isLoad =>
            rw [isLoad] at isTransition
            cases isTransition
        | asked _ none =>
            rw [none] at rsps
            cases rsps
        | answered _ one isState =>
            rw [one, List.cons.injEq] at rsps
            rw [took.segment, ← rsps.1]
            exact ⟨rsps.2.symm, isState⟩
      refine ⟨?_, ?_, kept.resends.entry, kept.resends.setReqs⟩
      · by_cases isOwn : loaded.tcpRxMetaReg.sessionId = id
        · intro established
          change
            stateBehind id system.sessionState (rxEngHandle loaded).2 =
              .established at established
          rw [← isState isOwn] at established
          rw [allAcked_afterRx]
          cases rxEngHandle_established isOwn established with
          | keeps isLast same =>
              rw [same]
              exact kept.covered ((isState isOwn).symm.trans isLast)
          | acknowledges isAck moved =>
              rw [moved]
              by_cases covered : system.Covered id
              · exact Or.inr covered
              · exact
                  Or.inl
                    (guarded isTransition loaded answers isOwn isAck
                      covered)
        · exact
            silent (own.stateBehind_other isOwn _)
              (own.ackdBehind_other isOwn _)
      · refine StateAnswer.idle ?_ ?_
        · change (rxEngHandle loaded).1.fsmState = .load
          rw [final]
          exact took.fsmState
        · change (rxEngHandle loaded).1.sttableRsps = []
          rw [final]
          exact noneLeft

/-! ### The TX engine -/

/-- An event that is taken in hand still covers. -/
theorem covered_of_loaded
    {tx : TxEngState} {asks : TxAsks} {event : EventWithTuple}
    {later : List EventWithTuple}
    (isLoad : system.tx.fsmState = .load)
    (queued : system.tx.events = event :: later)
    (isTransition : tx.fsmState = .transition)
    (inHand : tx.txEngEventReg = event) (events : tx.events = later)
    (covered : system.Covered id) :
    (system.afterTx tx asks).Covered id := by
  rcases covered with active | resending | isSet | pending | released
  · exact Or.inl active
  · have notLoad := resending.1
    rw [isLoad] at notLoad
    cases notLoad
  · obtain ⟨req, isQueued, isOwn⟩ := isSet
    exact
      Or.inr
        (Or.inr (Or.inl ⟨req, List.mem_append_left _ isQueued, isOwn⟩))
  · obtain ⟨timeout, member, isOwn, isTimeout⟩ := pending
    have stillPending
        (isThere :
          timeout ∈
            system.timeouts ++ tx.events.map EventWithTuple.toEvent) :
        (system.afterTx tx asks).Covered id :=
      Or.inr
        (Or.inr
          (Or.inr (Or.inl ⟨timeout, isThere, isOwn, isTimeout⟩)))
    rw [queued] at member
    rcases List.mem_append.1 member with onTheWay | inQueue
    · exact stillPending (List.mem_append_left _ onTheWay)
    · rw [List.map_cons] at inQueue
      rcases List.mem_cons.1 inQueue with isFirst | isLater
      · rw [isFirst] at isOwn isTimeout
        refine Or.inr (Or.inl ⟨isTransition, ?_, ?_⟩)
        · change tx.txEngEventReg.sessionId = id
          rw [inHand]
          exact isOwn
        · change tx.txEngEventReg.isTimeout = true
          rw [inHand]
          exact isTimeout
      · apply stillPending
        rw [events]
        exact List.mem_append_right _ isLater
  · exact Or.inr (Or.inr (Or.inr (Or.inr released)))

/-- A call that takes up an event, or none. -/
theorem callTx_load
    (isLoad : system.tx.fsmState = .load)
    (before : system.AllAcked id ∨ system.Covered id) :
    (system.afterTx (txEngLoad system.tx).1
        (txAsks (txEngLoad system.tx).2)).AllAcked id ∨
      (system.afterTx (txEngLoad system.tx).1
        (txAsks (txEngLoad system.tx).2)).Covered id := by
  have notBefore : ¬ system.tx.looping id :=
    TxEngState.not_looping_of_load isLoad
  rw [txEngLoad]
  split
  · refine before.imp (fun acked => ?_) fun covered => ?_
    · refine CoverSystem.allAcked_of_keeps acked ?_ notBefore ?_
      · intro req member
        cases member
      · exact TxEngState.not_looping_of_load isLoad
    · rcases covered with active | resending | requested
      · exact Or.inl active
      · exact Or.inr (Or.inl resending)
      · exact
          CoverSystem.covered_of_elsewhere rfl (Or.inr requested)
  · rename_i event later queued
    rw [txAsks_lookups]
    refine before.imp (fun acked => ?_) fun covered => ?_
    · refine CoverSystem.allAcked_of_keeps acked ?_ notBefore ?_
      · intro req member _ isWrite
        simp only [] at member
        split at member
        · rw [List.mem_singleton.1 member] at isWrite
          cases isWrite
        · cases member
      · rintro ⟨_, _, isLoaded, _⟩
        cases isLoaded
    · exact covered_of_loaded isLoad queued rfl rfl rfl covered

/-- A call for another session. -/
theorem callTx_other
    {next : TxEngState} {asks : TxAsks}
    (call : SendCall system.tx next asks)
    (sameEvents : next.events = system.tx.events)
    (isOther : system.tx.sessionId ≠ id)
    (before : system.AllAcked id ∨ system.Covered id) :
    (system.afterTx next asks).AllAcked id ∨
      (system.afterTx next asks).Covered id := by
  refine before.imp (fun acked => ?_) fun covered => ?_
  · refine
      CoverSystem.allAcked_of_keeps acked (call.keepsPointers isOther)
        ?_ ?_
    · exact TxEngState.not_looping_of_other isOther
    · apply TxEngState.not_looping_of_other
      rw [call.sessionId]
      exact isOther
  · rcases covered with active | resending | requested
    · exact Or.inl active
    · exact absurd resending.2.1 isOther
    · exact
        CoverSystem.covered_of_elsewhere sameEvents (Or.inr requested)

theorem callTx
    (kept : KeptCovered id system)
    (guarded : KeepsCover id system .txEngTcpFsm) :
    KeptCovered id (system.act times id .txEngTcpFsm) := by
  change
    KeptCovered id
      (system.afterTx (txEngTcpFsm system.tx).1
        (txAsks (txEngTcpFsm system.tx).2))
  cases fsmState : system.tx.fsmState with
  | load =>
      have called : txEngTcpFsm system.tx = txEngLoad system.tx := by
        rw [txEngTcpFsm, fsmState]
      rw [called]
      refine
        ⟨fun established =>
            callTx_load fsmState (kept.covered established),
          kept.answer, kept.resends.entry, ?_⟩
      have noSets :
          (txAsks (txEngLoad system.tx).2).rtimerSets = [] := by
        rw [txEngLoad]
        split
        · rfl
        · rw [txAsks_lookups]
      rw [CoverSystem.afterTx, noSets, List.append_nil]
      exact kept.resends.setReqs
  | transition =>
      have call := txEngTcpFsm_sends fsmState
      have sameEvents := events_of_transition fsmState
      refine
        ⟨fun established => ?_, kept.answer, kept.resends.entry, ?_⟩
      · have before := kept.covered established
        by_cases isOwn : system.tx.sessionId = id
        · exact
            CoverSystem.callTx_own call sameEvents fsmState isOwn
              established before guarded
        · exact callTx_other call sameEvents isOwn before
      · intro req member
        rcases List.mem_append.1 member with waiting | asked
        · exact kept.resends.setReqs req waiting
        · exact fun _ => (call.rtimerSets req asked).2

/-! ### The table and the timer -/

theorem callTable (kept : KeptCovered id system) :
    KeptCovered id (system.act times id .txSarTable) := by
  have settled := system.txSar.settled_txSarTable id
  refine ⟨fun established => ?_, ?_, kept.resends⟩
  · refine (kept.covered established).imp (fun acked => ?_) fun covered => ?_
    · rw [CoverSystem.AllAcked, CoverSystem.sentTo] at acked ⊢
      change
        ((txSarTable system.txSar).1.settled id).ackd =
          if system.tx.looping id then
            system.tx.txSarRspReg.notAckd
          else
            ((txSarTable system.txSar).1.settled id).notAckd
      rw [settled]
      exact acked
    · exact covered
  · exact kept.answer.transport rfl rfl rfl

theorem callTimer {full : Bool}
    (isSession : id.toNat < tcpMaxSessions)
    (kept : KeptCovered id system)
    (guarded : KeepsCover id system (.retransmitTimer full)) :
    KeptCovered id (system.act times id (.retransmitTimer full)) := by
  change
    KeptCovered id
      (system.afterTimer (retransmitTimer times full system.rtimer).1
        (retransmitTimer times full system.rtimer).2)
  have resends :=
    @retransmitTimer_resends times full system.rtimer id guarded.1
      isSession kept.resends
  have holds :=
    @retransmitTimer_holds times full system.rtimer id guarded.1
      isSession kept.resends
  have setsStay :=
    @retransmitTimer_stops times full system.rtimer id
  generalize (retransmitTimer times full system.rtimer).1 = next
    at resends holds setsStay
  generalize (retransmitTimer times full system.rtimer).2 = msgs at holds
  refine ⟨fun established => ?_, kept.answer, resends⟩
  have pendingStays (pending : system.TimeoutPending id) :
      (system.afterTimer next msgs).Covered id := by
    obtain ⟨event, member, isPending⟩ := pending
    refine Or.inr (Or.inr (Or.inr (Or.inl ⟨event, ?_, isPending⟩)))
    rcases List.mem_append.1 member with onTheWay | inQueue
    · exact List.mem_append_left _ (List.mem_append_left _ onTheWay)
    · exact List.mem_append_right _ inQueue
  have releaseStays (released : id ∈ system.releases) :
      (system.afterTimer next msgs).Covered id :=
    Or.inr
      (Or.inr (Or.inr (Or.inr (List.mem_append_left _ released))))
  have stillRuns (notStops : ¬ system.rtimer.Stops id)
      (runs : system.rtimer.Runs id) :
      (system.afterTimer next msgs).Covered id := by
    cases holds runs notStops with
    | runs runsOn =>
        rcases runsOn with active | isSet
        · exact Or.inl active
        · exact Or.inr (Or.inr (Or.inl isSet))
    | @timesOut event isMsg isOwn isTimeout =>
        refine
          Or.inr
            (Or.inr (Or.inr (Or.inl ⟨event, ?_, isOwn, isTimeout⟩)))
        exact List.mem_append_left _ (List.mem_append_right _ isMsg)
    | releases isReleased =>
        exact
          Or.inr
            (Or.inr
              (Or.inr (Or.inr (List.mem_append_right _ isReleased))))
  rcases kept.covered established with acked | covered
  · exact Or.inl acked
  by_cases stops : system.rtimer.Stops id
  · by_cases other : system.tx.Resending id ∨ system.Requested id
    · refine Or.inr ?_
      rcases other with resending | ⟨req, queued, isOwn⟩ | pending |
        released
      · exact Or.inr (Or.inl resending)
      · rw [← setsStay stops] at queued
        exact Or.inr (Or.inr (Or.inl ⟨req, queued, isOwn⟩))
      · exact pendingStays pending
      · exact releaseStays released
    · exact Or.inl (guarded.2 established stops other)
  · refine Or.inr ?_
    rcases covered with active | resending | isSet | pending | released
    · exact stillRuns stops (Or.inl active)
    · exact Or.inr (Or.inl resending)
    · exact stillRuns stops (Or.inr isSet)
    · exact pendingStays pending
    · exact releaseStays released

/-! ### The surroundings -/

/-- An event is queued, and no timeout is lost on the way. -/
theorem queueEvent
    (kept : KeptCovered id system) {timeouts : List Event}
    (event : EventWithTuple)
    (onTheWay :
      system.timeouts ⊆ timeouts ++ [event.toEvent]) :
    KeptCovered id
      ({ system with timeouts := timeouts }.queueEvent event) := by
  refine ⟨fun established => ?_, kept.answer, kept.resends⟩
  refine (kept.covered established).imp (fun acked => acked) ?_
  rintro (active | resending | isSet | pending | released)
  · exact Or.inl active
  · exact Or.inr (Or.inl resending)
  · exact Or.inr (Or.inr (Or.inl isSet))
  · obtain ⟨timeout, member, isPending⟩ := pending
    refine Or.inr (Or.inr (Or.inr (Or.inl ⟨timeout, ?_, isPending⟩)))
    change
      timeout ∈
        timeouts ++
          (system.tx.events ++ [event]).map EventWithTuple.toEvent
    rw [List.map_append, List.mem_append, List.mem_append]
    rcases List.mem_append.1 member with written | inQueue
    · rcases List.mem_append.1 (onTheWay written) with still | isQueued
      · exact Or.inl still
      · exact Or.inr (Or.inr isQueued)
    · exact Or.inr (Or.inl inQueue)
  · exact Or.inr (Or.inr (Or.inr (Or.inr released)))

/-- The timeout event that was written first reaches the TX engine. -/
theorem deliver
    (kept : KeptCovered id system) {event : Event} {later : List Event}
    (waiting : system.timeouts = event :: later)
    (fourTuple : FourTuple) :
    KeptCovered id
      ({ system with timeouts := later }.queueEvent
        ⟨event, fourTuple⟩) := by
  refine kept.queueEvent _ ?_
  rw [waiting]
  exact
    List.cons_subset.2
      ⟨List.mem_append_right _ (List.mem_singleton_self event),
        List.subset_append_left _ _⟩

/-- A state that is not locked may change. -/
theorem answer_of_unlocked
    (kept : KeptCovered id system) (unlocked : ¬ system.locked id)
    (state : SessionState) : StateAnswer id system.rx state := by
  cases kept.answer with
  | idle isLoad none =>
      exact StateAnswer.idle isLoad none
  | asked isTransition none =>
      exact StateAnswer.asked isTransition none
  | answered isTransition one =>
      have isLocked (isOwn : system.rx.tcpRxMetaReg.sessionId = id) :
          system.locked id := by
        refine ⟨isTransition, isOwn, ?_⟩
        rw [one]
        exact List.cons_ne_nil _ _
      exact
        StateAnswer.answered isTransition one fun isOwn =>
          absurd (isLocked isOwn) unlocked

theorem release
    (kept : KeptCovered id system) (unlocked : ¬ system.locked id)
    {released : TcpSessionID} {later : List TcpSessionID}
    (waiting : system.releases = released :: later) :
    KeptCovered id
      { system with
        releases := later
        sessionState :=
          if released = id then .closed else system.sessionState } := by
  refine
    ⟨fun established => ?_, kept.answer_of_unlocked unlocked _,
      kept.resends⟩
  by_cases isOwn : released = id
  · simp only [if_pos isOwn] at established
    cases established
  · simp only [if_neg isOwn] at established
    refine (kept.covered established).imp (fun acked => acked) ?_
    rintro (active | resending | isSet | pending | isReleased)
    · exact Or.inl active
    · exact Or.inr (Or.inl resending)
    · exact Or.inr (Or.inr (Or.inl isSet))
    · exact Or.inr (Or.inr (Or.inr (Or.inl pending)))
    · rw [waiting] at isReleased
      rcases List.mem_cons.1 isReleased with isFirst | isLater
      · exact absurd isFirst.symm isOwn
      · exact Or.inr (Or.inr (Or.inr (Or.inr isLater)))

/-- An update of the application moves neither pointer. -/
theorem queueTxApp
    (kept : KeptCovered id system) (req : TxAppToTxSarReq) :
    KeptCovered id
      { system with txSar := system.txSar.queueTxApp [req] } := by
  refine ⟨fun established => ?_, kept.answer, kept.resends⟩
  refine
    (kept.covered established).imp (fun acked => ?_) fun covered => covered
  have ackd :=
    @TxSarTableState.settled_queueTxApp_ackd system.txSar id [req]
  have notAckd :=
    @TxSarTableState.settled_queueTxApp_notAckd system.txSar id [req]
  rw [CoverSystem.AllAcked, CoverSystem.sentTo] at acked ⊢
  rw [ackd, notAckd]
  exact acked

theorem step
    (isSession : id.toNat < tcpMaxSessions)
    (kept : KeptCovered id system) {action : CoverAction}
    (guarded : KeepsCover id system action)
    (allowed : system.Allows id action) :
    KeptCovered id (system.act times id action) := by
  cases action with
  | rxEngTcpFsm =>
      exact kept.callRx guarded
  | txEngTcpFsm =>
      exact kept.callTx guarded
  | txSarTable =>
      exact kept.callTable
  | retransmitTimer full =>
      exact kept.callTimer isSession guarded
  | timeout =>
      rw [CoverSystem.act]
      split
      · rename_i event later waiting
        exact kept.deliver waiting _
      · exact kept
  | release =>
      rw [CoverSystem.act]
      split
      · rename_i released later waiting
        exact kept.release allowed waiting
      · exact kept
  | sttable state =>
      refine
        ⟨fun established => absurd established allowed.1,
          kept.answer_of_unlocked allowed.2 state, kept.resends⟩
  | segment segment =>
      exact
        ⟨kept.covered, kept.answer.transport rfl rfl rfl, kept.resends⟩
  | sttableRsp state =>
      obtain ⟨isTransition, none, isState⟩ := allowed
      refine ⟨kept.covered, ?_, kept.resends⟩
      refine StateAnswer.answered isTransition ?_ isState
      change system.rx.sttableRsps ++ [state] = [state]
      rw [none, List.nil_append]
  | rxEngRxSarRsp entry =>
      exact
        ⟨kept.covered, kept.answer.transport rfl rfl rfl, kept.resends⟩
  | txEngRxSarRsp rsp =>
      exact ⟨kept.covered, kept.answer, kept.resends⟩
  | txAppReq req =>
      exact kept.queueTxApp req
  | event event =>
      exact kept.queueEvent event (List.subset_append_left _ _)

/-- With nothing in flight the cover is the timer or its event. -/
theorem sendCovered (kept : KeptCovered id system) :
    system.SendCovered id := by
  intro quiet established unacked
  have settled : system.txSar.settled id = system.txSar.table id := by
    rw [TxSarTableState.settled, TxSarTableState.sent, quiet.txEngReqs,
      quiet.txAppReqs, quiet.rxEngReqs]
    rfl
  rcases kept.covered established with acked | covered
  · rw [CoverSystem.AllAcked,
      CoverSystem.sentTo_of_not_looping
        (TxEngState.not_looping_of_load quiet.tx),
      settled] at acked
    exact absurd acked unacked
  · rcases covered with active | resending | isSet | pending | released
    · exact Or.inl active
    · have notLoad := resending.1
      rw [quiet.tx] at notLoad
      cases notLoad
    · obtain ⟨req, queued, _⟩ := isSet
      rw [quiet.setReqs] at queued
      cases queued
    · exact Or.inr pending
    · rw [quiet.releases] at released
      cases released

end KeptCovered

/-- In a guarded run sent data is always covered by a timer until it is
acknowledged. -/
theorem sentData_covered
    {times : TimerTimes} {id : TcpSessionID}
    {table : TcpSessionID → TxSarTableEntry}
    {actions : List CoverAction} {final : CoverSystem}
    (isSession : id.toNat < tcpMaxSessions)
    (guarded :
      Along (CoverStep times id) (KeepsCover id)
        (CoverSystem.start table) actions)
    (run :
      Run (CoverStep times id) (CoverSystem.start table) actions final) :
    final.SendCovered id := by
  have kept : KeptCovered id final := by
    refine invariant_of_run ?_ (KeptCovered.start table) guarded run
    intro system action next here guard stepped
    rw [stepped.1]
    exact here.step isSession guard stepped.2
  exact kept.sendCovered

/-! ## Two runs of one connection -/

/-- Session 7 opens passively, is acknowledged, and its timer stops. -/
def openingActions (iss : BitVec 32) : List CoverAction :=
  [.segment ⟨7, 0, 0, ⟨1000, 0, 2000, false, false, true, false, 0, 0⟩⟩,
    .rxEngTcpFsm, .sttableRsp .closed, .rxEngRxSarRsp ⟨0, 0, 0⟩,
    .rxEngTcpFsm, .txSarTable,
    .event ⟨Event.plain .synAck 7, ⟨0, 0, 0, 0⟩⟩, .txEngTcpFsm,
    .txSarTable, .txEngRxSarRsp ⟨1001, 0xFFFF, 0⟩, .txEngTcpFsm,
    .txSarTable, .retransmitTimer false,
    .segment
      ⟨7, 0, 0, ⟨1001, iss + 1, 2000, true, false, false, false, 0, 0⟩⟩,
    .rxEngTcpFsm, .txSarTable, .sttableRsp .synReceived,
    .rxEngRxSarRsp ⟨1001, 0, 0⟩, .rxEngTcpFsm, .txSarTable,
    .retransmitTimer false, .retransmitTimer false,
    .retransmitTimer false]

/-- An ACK has looked the window up when the first 100 bytes are sent. -/
def sendingActions (iss : BitVec 32) : List CoverAction :=
  [.txAppReq ⟨7, (iss + 101).setWidth 18⟩, .txSarTable,
    .segment
      ⟨7, 0, 0, ⟨1001, iss + 1, 2000, true, false, false, false, 0, 0⟩⟩,
    .rxEngTcpFsm, .txSarTable,
    .event ⟨Event.plain .tx 7, ⟨0, 0, 0, 0⟩⟩, .txEngTcpFsm, .txSarTable,
    .txEngRxSarRsp ⟨1001, 0xFFFF, 0⟩, .txEngTcpFsm, .txSarTable,
    .retransmitTimer false]

/-- The ACK is handled and stops the timer of the data it knows nothing
about. -/
def stoppingActions : List CoverAction :=
  [.sttableRsp .established, .rxEngRxSarRsp ⟨1001, 0, 0⟩, .rxEngTcpFsm,
    .txSarTable, .retransmitTimer false, .retransmitTimer false,
    .retransmitTimer false]

def emptyTxSar : TcpSessionID → TxSarTableEntry :=
  fun _ => ⟨0, 0, 0, 0, 0, 0, 0, 0, false, false, false⟩

/-- The initial sequence number that the first connection gets. -/
def firstIss : BitVec 32 :=
  nextRandomVal TxEngState.start.randomVal

theorem sendRun_of_allowed
    {times : TimerTimes} {id : TcpSessionID} {system : CoverSystem}
    {actions : List CoverAction}
    (allowed :
      Enabled (CoverSystem.act times id)
        (fun system action => system.Allows id action) system actions) :
    Run (CoverStep times id) system actions
      (actions.foldl (CoverSystem.act times id) system) :=
  allowed.run fun _ _ allows => ⟨rfl, allows⟩

theorem keepsCover_along
    {times : TimerTimes} {id : TcpSessionID} {system : CoverSystem}
    {actions : List CoverAction}
    (keeps :
      Enabled (CoverSystem.act times id) (KeepsCover id) system actions) :
    Along (CoverStep times id) (KeepsCover id) system actions :=
  keeps.along fun _ _ _ stepped => stepped.1

def sentSystem : CoverSystem :=
  (openingActions firstIss ++ sendingActions firstIss).foldl
    (CoverSystem.act TimerTimes.simulation 7)
    (CoverSystem.start emptyTxSar)

theorem sentData_covered_of_opening : sentSystem.SendCovered 7 := by
  refine
    @sentData_covered TimerTimes.simulation 7 emptyTxSar
      (openingActions firstIss ++ sendingActions firstIss) sentSystem
      (by decide) (keepsCover_along ?_) (sendRun_of_allowed ?_)
  · decide +kernel
  · decide +kernel

def stoppedSystem : CoverSystem :=
  stoppingActions.foldl (CoverSystem.act TimerTimes.simulation 7)
    sentSystem

/-- After the run 100 bytes are in flight and no timer runs. -/
theorem not_sendCovered_stopped :
    ∃ actions,
      Run (CoverStep TimerTimes.simulation 7)
          (CoverSystem.start emptyTxSar) actions stoppedSystem ∧
        ¬ stoppedSystem.SendCovered 7 := by
  refine
    ⟨openingActions firstIss ++ sendingActions firstIss ++
        stoppingActions, ?_, ?_⟩
  · have run :=
      @sendRun_of_allowed TimerTimes.simulation 7
        (CoverSystem.start emptyTxSar)
        (openingActions firstIss ++ sendingActions firstIss ++
          stoppingActions)
        (by decide +kernel)
    rw [List.foldl_append] at run
    exact run
  · intro covered
    have uncovered :=
      covered
        ⟨by decide +kernel, by decide +kernel, by decide +kernel,
          by decide +kernel, by decide +kernel, by decide +kernel,
          by decide +kernel, by decide +kernel, by decide +kernel⟩
        (by decide +kernel) (by decide +kernel)
    revert uncovered
    decide +kernel

end TcpOffload
