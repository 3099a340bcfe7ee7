import TcpOffload.Library.Guarded
import TcpOffload.Library.Lookup
import TcpOffload.Library.Tagged
import TcpOffload.RxSarTable
import TcpOffload.TxEngine.Answers
import TcpOffload.TxSarTable

/-!
# Every event takes its own answers

`TxEngTcpFsm` between `tx_sar_table` and `rx_sar_table`.  The messages on the
four channels are numbered by the event they were written for; the machine
and the tables do not see the numbers.
-/

namespace TcpOffload

open Guarded Lookup Tagged

/-- `fsm`, `txSar` and `rxSar` with the channels between them outside.  The
queues they have for these channels are filled from the channels before a
call. -/
structure AnswerSystem where
  fsm : TxEngState
  loadedEvents : Nat
  txSar : TxSarTableState
  rxSar : RxSarTableState
  txSarReqs : List (Nat × TxEngToTxSarReq)
  txSarRsps : List (Nat × TxSarToTxEngRsp)
  rxSarLups : List (Nat × TcpSessionID)
  rxSarRsps : List (Nat × RxSarLookupRsp)

inductive AnswerAction where
  | event (event : EventWithTuple)
  | txEngTcpFsm
  | txSarTable
  | rxSarTable
  | txAppToTxSar (req : TxAppToTxSarReq)
  | rxEngToTxSar (req : RxEngToTxSarReq)
  | rxAppToRxSar (req : RxSarAppReqRsp)
  | rxEngToRxSar (req : RxEngToRxSarReq)

/-- The answers of the TX SAR table to the TX engine. -/
def txSarAnswers (msgs : List TxSarTableMsg) : List TxSarToTxEngRsp :=
  msgs.filterMap fun msg =>
    match msg with
    | .txEngRsp rsp => some rsp
    | _ => none

/-- The answers of the RX SAR table to the TX engine. -/
def rxSarAnswers (msgs : List RxSarTableMsg) : List RxSarLookupRsp :=
  msgs.filterMap fun msg =>
    match msg with
    | .txEngRsp rsp => some rsp
    | _ => none

namespace AnswerSystem

/-- Nothing loaded, nothing on the way, any entries in the tables. -/
def start
    (txTable : TcpSessionID → TxSarTableEntry)
    (rxTable : TcpSessionID → RxSarTableEntry) : AnswerSystem where
  fsm := TxEngState.start
  loadedEvents := 0
  txSar := ⟨txTable, [], [], []⟩
  rxSar := ⟨rxTable, [], [], []⟩
  txSarReqs := []
  txSarRsps := []
  rxSarLups := []
  rxSarRsps := []

/-- The machine with the answers that have arrived. -/
def fed (system : AnswerSystem) : TxEngState :=
  { system.fsm with
    rxSarRsps := erase system.rxSarRsps
    txSarRsps := erase system.txSarRsps }

/-- An event is loaded in the next call. -/
def Loads (system : AnswerSystem) : Prop :=
  system.fsm.fsmState = .load ∧ system.fsm.events ≠ []

instance (system : AnswerSystem) : Decidable system.Loads :=
  inferInstanceAs (Decidable (_ ∧ _))

/-- The number of the event that the next call is about. -/
def currentEvent (system : AnswerSystem) : Nat :=
  if system.Loads then system.loadedEvents + 1 else system.loadedEvents

def callFsm (system : AnswerSystem) : AnswerSystem :=
  let called := txEngTcpFsm system.fed
  { system with
    fsm := called.1
    loadedEvents := system.currentEvent
    txSarReqs :=
      system.txSarReqs ++
        send system.currentEvent (reqsToTxSar called.2)
    txSarRsps := unread system.txSarRsps called.1.txSarRsps
    rxSarLups :=
      system.rxSarLups ++
        send system.currentEvent (lupsToRxSar called.2)
    rxSarRsps := unread system.rxSarRsps called.1.rxSarRsps }

def callTxSar (system : AnswerSystem) : AnswerSystem :=
  let called :=
    txSarTable { system.txSar with txEngReqs := erase system.txSarReqs }
  { system with
    txSar := called.1
    txSarReqs := unread system.txSarReqs called.1.txEngReqs
    txSarRsps :=
      system.txSarRsps ++
        answers (taken system.txSarReqs called.1.txEngReqs)
          (txSarAnswers called.2) }

def callRxSar (system : AnswerSystem) : AnswerSystem :=
  let called :=
    rxSarTable { system.rxSar with txEngLups := erase system.rxSarLups }
  { system with
    rxSar := called.1
    rxSarLups := unread system.rxSarLups called.1.txEngLups
    rxSarRsps :=
      system.rxSarRsps ++
        answers (taken system.rxSarLups called.1.txEngLups)
          (rxSarAnswers called.2) }

def act (system : AnswerSystem) : AnswerAction → AnswerSystem
  | .event event =>
      { system with
        fsm := { system.fsm with events := system.fsm.events ++ [event] } }
  | .txEngTcpFsm => system.callFsm
  | .txSarTable => system.callTxSar
  | .rxSarTable => system.callRxSar
  | .txAppToTxSar req =>
      { system with
        txSar :=
          { system.txSar with
            txAppReqs := system.txSar.txAppReqs ++ [req] } }
  | .rxEngToTxSar req =>
      { system with
        txSar :=
          { system.txSar with
            rxEngReqs := system.txSar.rxEngReqs ++ [req] } }
  | .rxAppToRxSar req =>
      { system with
        rxSar :=
          { system.rxSar with
            rxAppReqs := system.rxSar.rxAppReqs ++ [req] } }
  | .rxEngToRxSar req =>
      { system with
        rxSar :=
          { system.rxSar with
            rxEngReqs := system.rxSar.rxEngReqs ++ [req] } }

end AnswerSystem

def AnswerStep
    (system : AnswerSystem) (action : AnswerAction) (next : AnswerSystem) :
    Prop :=
  next = system.act action

/-- What a call of the machine does with the answers: those it takes were
asked for by the current event, none is left when an event is loaded, and a
reset is one segment. -/
structure OwnAnswers (system : AnswerSystem) : Prop where
  txSarOwn :
    ∀ rsp ∈
        taken system.txSarRsps (txEngTcpFsm system.fed).1.txSarRsps,
      rsp.1 = system.loadedEvents
  rxSarOwn :
    ∀ rsp ∈
        taken system.rxSarRsps (txEngTcpFsm system.fed).1.rxSarRsps,
      rsp.1 = system.loadedEvents
  noneLeft :
    system.Loads → system.txSarRsps = [] ∧ system.rxSarRsps = []
  noSegment :
    system.fsm.fsmState = .load →
      segments (txEngTcpFsm system.fed).2 = []
  oneReset :
    system.fsm.fsmState = .transition →
      system.fsm.txEngEventReg.type = .rst →
      ∃ segment,
        segments (txEngTcpFsm system.fed).2 = [segment] ∧
        segment.rst = true ∧
        (txEngTcpFsm system.fed).1.fsmState = .load

/-- The property of a step. -/
def TakesOwn (system : AnswerSystem) (action : AnswerAction) : Prop :=
  match action with
  | .txEngTcpFsm => OwnAnswers system
  | _ => True

/-- A reset of a session is handled when its answer has arrived. -/
def ResetAnswered (system : AnswerSystem) (action : AnswerAction) : Prop :=
  match action with
  | .txEngTcpFsm =>
      system.fsm.fsmState = .transition →
        system.fsm.txEngEventReg.type = .rst →
        system.fsm.txEngEventReg.hasSessionId = true →
        system.txSarRsps ≠ []
  | _ => True

/-! ## The invariant -/

/-- On the way to the TX SAR table: writes, and behind them the lookup of
the current event as long as the machine waits for its answer. -/
def TxSarPhase (system : AnswerSystem) (sent : Bool) : Prop :=
  Phase (fun writes => ∀ req ∈ writes, req.2.write = true)
    (fun rsp => rsp.1 = system.loadedEvents)
    (system.loadedEvents, TxEngToTxSarReq.lookup system.fsm.sessionId)
    sent system.txSarRsps system.txSarReqs

/-- On the way to the RX SAR table: the lookup of the current event. -/
def RxSarPhase (system : AnswerSystem) (sent : Bool) : Prop :=
  Phase (fun writes => writes = [])
    (fun rsp => rsp.1 = system.loadedEvents)
    (system.loadedEvents, system.fsm.sessionId) sent system.rxSarRsps
    system.rxSarLups

/-- Who takes just what it awaits takes its own answer, and no lookup is out
afterwards. -/
theorem take_own
    {Req Rsp : Type} {pending : List Req → Prop} {own : Nat} {lookup : Req}
    {sent awaits : Bool} {rsps : List (Nat × Rsp)} {reqs : List Req}
    (phase :
      Phase pending (fun rsp : Nat × Rsp => rsp.1 = own) lookup sent rsps
        reqs)
    (noWrites : pending []) (waits : sent = true → awaits = true)
    {left : List Rsp}
    (takes :
      ∃ first, erase rsps = first ++ left ∧ first.length = awaits.toNat) :
    (∀ rsp ∈ taken rsps left, rsp.1 = own) ∧
      unread rsps left = [] ∧ pending reqs := by
  obtain ⟨first, split, count⟩ := takes
  cases awaits with
  | false =>
      rw [List.eq_nil_of_length_eq_zero count, List.nil_append] at split
      have notSent : sent = false := by
        apply Bool.eq_false_iff.2
        intro isSent
        cases waits isSent
      rw [notSent] at phase
      obtain ⟨noRsp, known⟩ := phase.of_idle
      rw [← split, taken_erase, unread_erase, noRsp]
      exact ⟨fun _ member => (by cases member), rfl, known⟩
  | true =>
      obtain ⟨rsp, rfl⟩ := List.length_eq_one_iff.1 count
      obtain ⟨tag, rest, channel, takenEq, unreadEq⟩ :=
        @of_erase_cons _ _ _ rsp left split
      rw [takenEq, unreadEq]
      rw [channel] at phase
      obtain ⟨_, isOwn, noMore, noReqs⟩ := phase.of_answered
      rw [noMore, noReqs]
      refine ⟨fun other member => ?_, rfl, noWrites⟩
      rw [List.mem_singleton.1 member]
      exact isOwn

/-- Only the answers that the current event awaits are out. -/
structure AnswersInStep (system : AnswerSystem) : Prop where
  txSar :
    ∃ sent,
      TxSarPhase system sent ∧
      (sent = true →
        system.fsm.fsmState = .transition ∧
        system.fsm.awaitsTxSar = true)
  rxSar :
    ∃ sent,
      RxSarPhase system sent ∧
      (sent = true →
        system.fsm.fsmState = .transition ∧
        system.fsm.awaitsRxSar = true)

theorem answersInStep_start
    (txTable : TcpSessionID → TxSarTableEntry)
    (rxTable : TcpSessionID → RxSarTableEntry) :
    AnswersInStep (AnswerSystem.start txTable rxTable) where
  txSar :=
    ⟨false, Phase.idle fun _ member => (by cases member),
      fun sent => (by cases sent)⟩
  rxSar := ⟨false, Phase.idle rfl, fun sent => (by cases sent)⟩

namespace AnswersInStep

variable {system : AnswerSystem}

/-- A call behind which nothing is out. -/
theorem of_idle
    (noTxRsp : system.txSarRsps = [])
    (writes : ∀ req ∈ system.txSarReqs, req.2.write = true)
    (noRxRsp : system.rxSarRsps = []) (noLup : system.rxSarLups = []) :
    AnswersInStep system := by
  refine ⟨⟨false, ?_, ?_⟩, ⟨false, ?_, ?_⟩⟩
  · rw [TxSarPhase, noTxRsp]
    exact Phase.idle writes
  · intro sent
    cases sent
  · rw [RxSarPhase, noRxRsp]
    exact Phase.idle noLup
  · intro sent
    cases sent

/-- Nothing is out while the machine is in `LOAD`. -/
theorem in_load
    (inStep : AnswersInStep system) (load : system.fsm.fsmState = .load) :
    system.txSarRsps = [] ∧
      (∀ req ∈ system.txSarReqs, req.2.write = true) ∧
      system.rxSarRsps = [] ∧ system.rxSarLups = [] := by
  obtain ⟨txSent, txPhase, txWaits⟩ := inStep.txSar
  obtain ⟨rxSent, rxPhase, rxWaits⟩ := inStep.rxSar
  have txIdle : txSent = false := by
    apply Bool.eq_false_iff.2
    intro sent
    rw [(txWaits sent).1] at load
    cases load
  have rxIdle : rxSent = false := by
    apply Bool.eq_false_iff.2
    intro sent
    rw [(rxWaits sent).1] at load
    cases load
  rw [txIdle] at txPhase
  rw [rxIdle] at rxPhase
  exact
    ⟨txPhase.of_idle.1, txPhase.of_idle.2, rxPhase.of_idle.1,
      rxPhase.of_idle.2⟩

/-! ### Calls of the machine -/

/-- A call in `LOAD` takes no answer and writes no segment. -/
theorem ownAnswers_in_load
    (inStep : AnswersInStep system) (load : system.fsm.fsmState = .load)
    (noSegment : segments (txEngTcpFsm system.fed).2 = []) :
    OwnAnswers system := by
  obtain ⟨noTxRsp, _, noRxRsp, _⟩ := inStep.in_load load
  refine
    ⟨?_, ?_, fun _ => ⟨noTxRsp, noRxRsp⟩, fun _ => noSegment, ?_⟩
  · intro rsp member
    rw [noTxRsp, taken_nil] at member
    cases member
  · intro rsp member
    rw [noRxRsp, taken_nil] at member
    cases member
  · intro transition
    rw [load] at transition
    cases transition

/-- `LOAD` with no event queued. -/
theorem fsm_rests
    (inStep : AnswersInStep system) (load : system.fsm.fsmState = .load)
    (noEvent : system.fsm.events = []) :
    OwnAnswers system ∧ AnswersInStep system.callFsm := by
  obtain ⟨noTxRsp, writes, noRxRsp, noLup⟩ := inStep.in_load load
  have called :
      txEngTcpFsm system.fed =
        ({ system.fed with retransSegCnt := 0 }, []) := by
    simp only [txEngTcpFsm, AnswerSystem.fed, load, txEngLoad, noEvent]
  have unreadTx := @unread_erase _ _ system.txSarRsps
  have unreadRx := @unread_erase _ _ system.rxSarRsps
  refine
    ⟨inStep.ownAnswers_in_load load (by rw [called]; rfl),
      of_idle ?_ ?_ ?_ ?_⟩
  · rw [AnswerSystem.callFsm, called]
    exact unreadTx.trans noTxRsp
  · rw [AnswerSystem.callFsm, called]
    intro req member
    rw [List.mem_append] at member
    rcases member with earlier | new
    · exact writes req earlier
    · cases new
  · rw [AnswerSystem.callFsm, called]
    exact unreadRx.trans noRxRsp
  · rw [AnswerSystem.callFsm, called, noLup]
    rfl

/-- `LOAD` with an event queued: what it looks up is out afterwards. -/
theorem fsm_loads
    (inStep : AnswersInStep system) (load : system.fsm.fsmState = .load)
    {event : EventWithTuple} {later : List EventWithTuple}
    (queued : system.fsm.events = event :: later) :
    OwnAnswers system ∧ AnswersInStep system.callFsm := by
  obtain ⟨noTxRsp, writes, noRxRsp, noLup⟩ := inStep.in_load load
  have called :
      txEngTcpFsm system.fed =
        ({ system.fed with
            fsmState := .transition
            txRxSarLoaded := false
            txEngEventReg := event
            retransSegCnt := 0
            events := later },
          [.readCount] ++
            (if event.looksUpRxSar then
              [.rxSarLupReq event.sessionId]
            else
              []) ++
            (if event.looksUpTxSar then
              [.txSarReq (TxEngToTxSarReq.lookup event.sessionId)]
            else
              [])) := by
    simp only [txEngTcpFsm, AnswerSystem.fed, load, txEngLoad, queued]
  refine ⟨inStep.ownAnswers_in_load load ?_, ?_⟩
  · rw [called]
    exact segments_lookups event
  · have awaits :=
      @TxEngState.awaits_of_loaded (txEngTcpFsm system.fed).1
        (by rw [called])
    have isEvent :
        (txEngTcpFsm system.fed).1.txEngEventReg = event := by
      rw [called]
    have inTransition :
        (txEngTcpFsm system.fed).1.fsmState = .transition := by
      rw [called]
    have txRsps :
        unread system.txSarRsps (txEngTcpFsm system.fed).1.txSarRsps =
          [] := by
      rw [noTxRsp, unread_nil]
    have rxRsps :
        unread system.rxSarRsps (txEngTcpFsm system.fed).1.rxSarRsps =
          [] := by
      rw [noRxRsp, unread_nil]
    have txLookup := reqsToTxSar_lookups event
    have rxLookup := lupsToRxSar_lookups event
    rw [isEvent] at awaits
    refine
      ⟨⟨event.looksUpTxSar, ?_, fun sent =>
          ⟨inTransition, awaits.1.trans sent⟩⟩,
        ⟨event.looksUpRxSar, ?_, fun sent =>
          ⟨inTransition, awaits.2.trans sent⟩⟩⟩
    · rw [TxSarPhase, AnswerSystem.callFsm]
      simp only []
      rw [txRsps, TxEngState.sessionId, isEvent, called, txLookup]
      cases event.looksUpTxSar with
      | false =>
          rw [if_neg Bool.false_ne_true]
          exact Phase.idle (by simpa [send] using writes)
      | true =>
          exact Phase.asked writes
    · rw [RxSarPhase, AnswerSystem.callFsm]
      simp only []
      rw [rxRsps, TxEngState.sessionId, isEvent, called, rxLookup, noLup]
      cases event.looksUpRxSar with
      | false =>
          exact Phase.idle rfl
      | true =>
          exact @Phase.asked _ _ _ _ _ [] rfl

/-- The registers of the event are not the queues. -/
theorem after_transition
    {next : TxEngState} {msgs : List TxEngMsg}
    (inStep : AnswersInStep system)
    (transition : system.fsm.fsmState = .transition)
    (answered : ResetAnswered system .txEngTcpFsm)
    (call : TransitionCall system.fed next msgs) :
    (∀ rsp ∈ taken system.txSarRsps next.txSarRsps,
        rsp.1 = system.loadedEvents) ∧
      (∀ rsp ∈ taken system.rxSarRsps next.rxSarRsps,
        rsp.1 = system.loadedEvents) ∧
      AnswersInStep
        { system with
          fsm := next
          txSarReqs :=
            system.txSarReqs ++
              send system.loadedEvents (reqsToTxSar msgs)
          txSarRsps := unread system.txSarRsps next.txSarRsps
          rxSarLups :=
            system.rxSarLups ++
              send system.loadedEvents (lupsToRxSar msgs)
          rxSarRsps := unread system.rxSarRsps next.rxSarRsps } := by
  cases call with
  | waits =>
      have takenTx : taken system.txSarRsps system.fed.txSarRsps = [] :=
        taken_erase
      have takenRx : taken system.rxSarRsps system.fed.rxSarRsps = [] :=
        taken_erase
      have leftTx :
          unread system.txSarRsps system.fed.txSarRsps =
            system.txSarRsps :=
        unread_erase
      have leftRx :
          unread system.rxSarRsps system.fed.rxSarRsps =
            system.rxSarRsps :=
        unread_erase
      rw [takenTx, takenRx, leftTx, leftRx]
      refine
        ⟨fun _ member => (by cases member),
          fun _ member => (by cases member), ⟨?_, ?_⟩⟩
      · obtain ⟨sent, phase, waits⟩ := inStep.txSar
        refine ⟨sent, ?_, waits⟩
        change
          Phase _ _ _ sent system.txSarRsps (system.txSarReqs ++ [])
        rw [List.append_nil]
        exact phase
      · obtain ⟨sent, phase, waits⟩ := inStep.rxSar
        refine ⟨sent, ?_, waits⟩
        change
          Phase _ _ _ sent system.rxSarRsps (system.rxSarLups ++ [])
        rw [List.append_nil]
        exact phase
  | takes takes =>
      obtain ⟨txSent, txPhase, txWaits⟩ := inStep.txSar
      obtain ⟨rxSent, rxPhase, rxWaits⟩ := inStep.rxSar
      obtain ⟨ownTx, noTxRsp, writes⟩ :=
        take_own txPhase (fun _ member => (by cases member))
          (fun sent => (txWaits sent).2) takes.txSarRsps
      obtain ⟨ownRx, noRxRsp, noLup⟩ :=
        take_own rxPhase rfl (fun sent => (rxWaits sent).2)
          takes.rxSarRsps
      refine ⟨ownTx, ownRx, of_idle noTxRsp ?_ noRxRsp ?_⟩
      · intro req member
        rcases List.mem_append.1 member with earlier | new
        · exact writes req earlier
        · exact takes.writesOnly.txSar req.2 (mem_send new)
      · rw [noLup, takes.writesOnly.rxSar]
        rfl
  | givesUp type withSession noRsp =>
      exact
        absurd (eq_nil_of_erase noRsp)
          (answered transition type withSession)

theorem fsm_transition
    (inStep : AnswersInStep system)
    (transition : system.fsm.fsmState = .transition)
    (answered : ResetAnswered system .txEngTcpFsm) :
    OwnAnswers system ∧ AnswersInStep system.callFsm := by
  have notLoad : system.fsm.fsmState ≠ .load := by
    rw [transition]
    exact TxEngFsmState.noConfusion
  have sameEvent : system.currentEvent = system.loadedEvents := by
    rw [AnswerSystem.currentEvent, if_neg fun loads => notLoad loads.1]
  obtain ⟨ownTx, ownRx, next⟩ :=
    inStep.after_transition transition answered
      (@transition_call system.fed transition)
  refine ⟨⟨ownTx, ownRx, ?_, ?_, ?_⟩, ?_⟩
  · intro loads
    exact absurd loads.1 notLoad
  · intro load
    exact absurd load notLoad
  · intro _ type
    refine resets transition type fun withSession noRsp => ?_
    exact answered transition type withSession (eq_nil_of_erase noRsp)
  · rw [AnswerSystem.callFsm, sameEvent]
    exact next

theorem fsm_call
    (inStep : AnswersInStep system)
    (answered : ResetAnswered system .txEngTcpFsm) :
    OwnAnswers system ∧ AnswersInStep system.callFsm := by
  cases fsmState : system.fsm.fsmState with
  | transition =>
      exact inStep.fsm_transition fsmState answered
  | load =>
      cases queued : system.fsm.events with
      | nil =>
          exact inStep.fsm_rests fsmState queued
      | cons event later =>
          exact inStep.fsm_loads fsmState queued

/-! ### Calls of the tables -/

theorem after_txSarTable
    {next : TxSarTableState} {msgs : List TxSarTableMsg}
    (inStep : AnswersInStep system)
    (call :
      TxSarCall
        { system.txSar with txEngReqs := erase system.txSarReqs } next
        msgs) :
    AnswersInStep
      { system with
        txSar := next
        txSarReqs := unread system.txSarReqs next.txEngReqs
        txSarRsps :=
          system.txSarRsps ++
            answers (taken system.txSarReqs next.txEngReqs)
              (txSarAnswers msgs) } := by
  by_cases untouched : next.txEngReqs = erase system.txSarReqs
  · rw [untouched, taken_erase, unread_erase, answers_nil, List.append_nil]
    exact ⟨inStep.txSar, inStep.rxSar⟩
  cases call with
  | idle | txAppWrite | rxEngWrite | rxEngLookup =>
      exact absurd rfl untouched
  | @txEngWrite req later queued isWrite =>
      obtain ⟨tag, rest, channel, takenEq, unreadEq⟩ :=
        of_erase_cons queued
      have noAnswer :
          txSarAnswers
              (if req.init && !req.retransReq then
                [.txAppUpd ⟨req.sessionId, req.notAckd.setWidth 18, true⟩]
              else
                []) = [] := by
        split <;> rfl
      obtain ⟨sent, phase, waits⟩ := inStep.txSar
      refine ⟨⟨sent, ?_, waits⟩, inStep.rxSar⟩
      rw [noAnswer, answers_none, List.append_nil]
      rw [TxSarPhase, channel] at phase
      change Phase _ _ _ sent _ (unread system.txSarReqs later)
      rw [unreadEq]
      refine phase.serveWrite ?_ ?_
      · intro isLookup
        rw [(Prod.mk.inj isLookup).2] at isWrite
        cases isWrite
      · intro writes areWrites other member
        exact areWrites other (List.mem_cons_of_mem _ member)
  | @txEngLookup req later queued isLookup =>
      obtain ⟨tag, rest, channel, takenEq, unreadEq⟩ :=
        of_erase_cons queued
      obtain ⟨sent, phase, waits⟩ := inStep.txSar
      rw [TxSarPhase, channel] at phase
      obtain ⟨isOwn, _, answered⟩ :=
        phase.serveLookup (fun writes areWrites member => by
          have isWrite := areWrites _ member
          rw [isLookup] at isWrite
          cases isWrite)
      refine ⟨⟨sent, ?_, waits⟩, inStep.rxSar⟩
      change
        Phase _ _ _ sent
          (system.txSarRsps ++ answers (taken system.txSarReqs later) [_])
          (unread system.txSarReqs later)
      rw [takenEq, unreadEq, answers_one]
      exact answered _ (Prod.mk.inj isOwn).1

theorem after_rxSarTable
    {next : RxSarTableState} {msgs : List RxSarTableMsg}
    (inStep : AnswersInStep system)
    (call :
      RxSarCall
        { system.rxSar with txEngLups := erase system.rxSarLups } next
        msgs) :
    AnswersInStep
      { system with
        rxSar := next
        rxSarLups := unread system.rxSarLups next.txEngLups
        rxSarRsps :=
          system.rxSarRsps ++
            answers (taken system.rxSarLups next.txEngLups)
              (rxSarAnswers msgs) } := by
  by_cases untouched : next.txEngLups = erase system.rxSarLups
  · rw [untouched, taken_erase, unread_erase, answers_nil, List.append_nil]
    exact ⟨inStep.txSar, inStep.rxSar⟩
  cases call with
  | idle | rxAppWrite | rxAppLookup | rxEngWrite | rxEngLookup =>
      exact absurd rfl untouched
  | @txEngLookup id later queued =>
      obtain ⟨tag, rest, channel, takenEq, unreadEq⟩ :=
        of_erase_cons queued
      obtain ⟨sent, phase, waits⟩ := inStep.rxSar
      rw [RxSarPhase, channel] at phase
      obtain ⟨isOwn, _, answered⟩ :=
        phase.serveLookup (fun writes noWrite member => by
          rw [noWrite] at member
          cases member)
      refine ⟨inStep.txSar, ⟨sent, ?_, waits⟩⟩
      change
        Phase _ _ _ sent
          (system.rxSarRsps ++ answers (taken system.rxSarLups later) [_])
          (unread system.rxSarLups later)
      rw [takenEq, unreadEq, answers_one]
      exact answered _ (Prod.mk.inj isOwn).1

theorem step {action : AnswerAction}
    (inStep : AnswersInStep system)
    (answered : ResetAnswered system action) :
    AnswersInStep (system.act action) := by
  cases action with
  | txEngTcpFsm =>
      exact (inStep.fsm_call answered).2
  | txSarTable =>
      exact inStep.after_txSarTable (txSarTable_call _)
  | rxSarTable =>
      exact inStep.after_rxSarTable (rxSarTable_call _)
  | event | txAppToTxSar | rxEngToTxSar | rxAppToRxSar | rxEngToRxSar =>
      exact ⟨inStep.txSar, inStep.rxSar⟩

theorem takesOwn {action : AnswerAction}
    (inStep : AnswersInStep system)
    (answered : ResetAnswered system action) :
    TakesOwn system action := by
  cases action with
  | txEngTcpFsm =>
      exact (inStep.fsm_call answered).1
  | event | txSarTable | rxSarTable | txAppToTxSar | rxEngToTxSar
  | rxAppToRxSar | rxEngToRxSar =>
      trivial

end AnswersInStep

/-- A reset without an answer is no segment. -/
theorem TakesOwn.resetAnswered
    {system : AnswerSystem} {action : AnswerAction}
    (own : TakesOwn system action) : ResetAnswered system action := by
  cases action with
  | txEngTcpFsm =>
      intro transition type withSession noRsp
      obtain ⟨segment, segments, _⟩ := own.oneReset transition type
      have noSegment :=
        @segments_of_givesUp system.fed transition type withSession
          (by rw [AnswerSystem.fed, noRsp]; rfl)
      rw [noSegment] at segments
      cases segments
  | event | txSarTable | rxSarTable | txAppToTxSar | rxEngToTxSar
  | rxAppToRxSar | rxEngToRxSar =>
      trivial

/-! ## Runs -/

/-- In a run every event takes its own answers and every reset is a segment
exactly when no reset of a session is handled before its answer is there. -/
theorem takesOwn_iff
    (txTable : TcpSessionID → TxSarTableEntry)
    (rxTable : TcpSessionID → RxSarTableEntry)
    (actions : List AnswerAction) :
    Along AnswerStep TakesOwn (AnswerSystem.start txTable rxTable)
        actions ↔
      Along AnswerStep ResetAnswered
        (AnswerSystem.start txTable rxTable) actions := by
  constructor
  · intro takesOwn
    exact takesOwn.map fun _ _ own => own.resetAnswered
  · intro answered
    exact
      along_of_invariant
        (fun _ _ _ inStep answeredHere stepped => by
          rw [stepped]
          exact inStep.step answeredHere)
        (fun _ _ _ inStep answeredHere _ =>
          inStep.takesOwn answeredHere)
        (answersInStep_start txTable rxTable) answered

/-! ## An early reset -/

/-- A reset of session 1, handled before its answer is there, and an ACK of
session 2 behind it. -/
def earlyReset : List AnswerAction :=
  [.event ⟨Event.rst 1 5000, ⟨0, 0, 0, 0⟩⟩,
    .event ⟨Event.plain .ack 2, ⟨0, 0, 0, 0⟩⟩, .txEngTcpFsm, .txEngTcpFsm,
    .txSarTable, .txEngTcpFsm, .rxSarTable]

def emptyTables : AnswerSystem :=
  AnswerSystem.start (fun _ => ⟨0, 0, 0, 0, 0, 0, 0, 0, false, false, false⟩)
    (fun _ => ⟨0, 0, 0⟩)

theorem run_earlyReset :
    Run AnswerStep emptyTables earlyReset
      (earlyReset.foldl AnswerSystem.act emptyTables) := by
  repeat refine Run.head rfl ?_
  exact Run.refl _

/-- The ACK takes the answer to the lookup of the reset. -/
theorem not_takesOwn_earlyReset :
    ¬ Along AnswerStep TakesOwn emptyTables
      (earlyReset ++ [.txEngTcpFsm]) := by
  intro takesOwn
  have own := takesOwn.of_run run_earlyReset rfl
  have sameEvent := own.txSarOwn _ List.mem_cons_self
  cases sameEvent

end TcpOffload
