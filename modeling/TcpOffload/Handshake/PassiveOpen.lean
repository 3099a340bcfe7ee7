import TcpOffload.Library.Guarded
import TcpOffload.RxEngine.OwnSession
import TcpOffload.TxEngine.OwnAnswers

/-!
# The two writers of a passive open

A SYN that opens a connection makes `RxEngTcpFsm` write the session's entry
in `tx_sar_table` and raise the SYN-ACK event, for which `TxEngTcpFsm`
initialises the same entry.  The requests wait in queues of their own, next
to requests for other sessions, and the calls come in any order.
-/

namespace TcpOffload

open Clocked Guarded

def RxEngMsg.toEventEng : RxEngMsg → Option Event
  | .setEvent event => some event
  | _ => none

/-! ## The machine and the table -/

/-- `sent` are the headers of the segments that have left. -/
structure PassiveOpen where
  txEng : TxEngState
  txSar : TxSarTableState
  sent : List TxEngFsmMetaData

inductive PassiveOpenAction where
  | txEngTcpFsm
  | txSarTable
  | rxSarRsp (rsp : RxSarLookupRsp)
  | txEngReq (req : TxEngToTxSarReq)
  | txAppReq (req : TxAppToTxSarReq)
  | rxEngReq (req : RxEngToTxSarReq)

def TxEngMsg.toMetaData : TxEngMsg → Option TxEngFsmMetaData
  | .metaData segment => some segment
  | _ => none

namespace PassiveOpen

/-- The machine waits for events, and the messages of a SYN have just been
written. -/
def start
    (txEng : TxEngState) (txSar : TxSarTableState)
    (msgs : List RxEngMsg) : PassiveOpen where
  txEng :=
    { txEng with
      fsmState := .load
      events :=
        (msgs.filterMap RxEngMsg.toEventEng).map fun event =>
          ⟨event, ⟨0, 0, 0, 0⟩⟩
      rxSarRsps := []
      txSarRsps := [] }
  txSar :=
    { txSar with
      rxEngReqs := txSar.rxEngReqs ++ msgs.filterMap RxEngMsg.toTxSar }
  sent := []

def callTxEng (system : PassiveOpen) : PassiveOpen :=
  let called := txEngTcpFsm system.txEng
  { txEng := called.1
    txSar :=
      { system.txSar with
        txEngReqs := system.txSar.txEngReqs ++ reqsToTxSar called.2 }
    sent := system.sent ++ called.2.filterMap TxEngMsg.toMetaData }

/-- The table has moved on, and these are the answers for the machine. -/
def afterTxSar
    (system : PassiveOpen) (txSar : TxSarTableState)
    (rsps : List TxSarToTxEngRsp) : PassiveOpen :=
  { system with
    txEng := { system.txEng with txSarRsps := rsps }
    txSar := txSar }

def callTxSar (system : PassiveOpen) : PassiveOpen :=
  let called := txSarTable system.txSar
  system.afterTxSar called.1
    (system.txEng.txSarRsps ++ txSarAnswers called.2)

end PassiveOpen

/-- The calls, the answer of the RX SAR table, and requests for sessions
other than `id`. -/
inductive PassiveOpenStep (id : TcpSessionID) (system : PassiveOpen) :
    PassiveOpenAction → PassiveOpen → Prop
  | txEngTcpFsm :
      PassiveOpenStep id system .txEngTcpFsm system.callTxEng
  | txSarTable :
      PassiveOpenStep id system .txSarTable system.callTxSar
  | rxSarRsp (rsp : RxSarLookupRsp) :
      PassiveOpenStep id system (.rxSarRsp rsp)
        { system with
          txEng :=
            { system.txEng with
              rxSarRsps := system.txEng.rxSarRsps ++ [rsp] } }
  | txEngReq {req : TxEngToTxSarReq} :
      req.sessionId ≠ id →
      PassiveOpenStep id system (.txEngReq req)
        { system with
          txSar :=
            { system.txSar with
              txEngReqs := system.txSar.txEngReqs ++ [req] } }
  | txAppReq {req : TxAppToTxSarReq} :
      req.sessionId ≠ id →
      PassiveOpenStep id system (.txAppReq req)
        { system with
          txSar :=
            { system.txSar with
              txAppReqs := system.txSar.txAppReqs ++ [req] } }
  | rxEngReq {req : RxEngToTxSarReq} :
      req.sessionId ≠ id →
      PassiveOpenStep id system (.rxEngReq req)
        { system with
          txSar :=
            { system.txSar with
              rxEngReqs := system.txSar.rxEngReqs ++ [req] } }

theorem PassiveOpenStep.oneOutcome
    (id : TcpSessionID) (system : PassiveOpen)
    (action : PassiveOpenAction) (next other : PassiveOpen)
    (stepped : PassiveOpenStep id system action next)
    (otherStepped : PassiveOpenStep id system action other) :
    other = next := by
  cases stepped <;> cases otherStepped <;> rfl

/-! ## The requests of one session -/

/-- The writes of the TX engine to the session's entry, as they wait. -/
def txEngWritesOf
    (id : TcpSessionID) (reqs : List TxEngToTxSarReq) :
    List TxEngToTxSarReq :=
  reqs.filter fun req => req.sessionId == id && req.write

/-- The requests of the RX engine for the session, as they wait. -/
def rxEngReqsOf
    (id : TcpSessionID) (reqs : List RxEngToTxSarReq) :
    List RxEngToTxSarReq :=
  reqs.filter fun req => req.sessionId == id

/-- Nothing is on its way to the session's entry. -/
structure TxSarTableState.Quiet
    (txSar : TxSarTableState) (id : TcpSessionID) : Prop where
  txEngReqs : txEngWritesOf id txSar.txEngReqs = []
  txAppReqs : ∀ req ∈ txSar.txAppReqs, req.sessionId ≠ id
  rxEngReqs : rxEngReqsOf id txSar.rxEngReqs = []

/-- The SYN-ACK has left and both writes have been served. -/
structure PassiveOpen.Served
    (id : TcpSessionID) (system : PassiveOpen) : Prop where
  sent : system.sent ≠ []
  quiet : system.txSar.Quiet id

/-- The entry that a passive open is to leave. -/
def TxSarTableEntry.passivelyOpened
    (header : TcpHeaderMeta) (iss : BitVec 32) : TxSarTableEntry where
  ackd := iss
  notAckd := iss + 1
  recvWindow := header.winSize
  appWritten := (iss + 1).setWidth 18
  congWindow := BitVec.ofNat 18 tcpMssTenTimes
  slowstartThreshold := BitVec.ofNat 18 (bufferSize - 1)
  winShift := header.rxWinScale.setWidth 2
  retransCount := 0
  fastRetrans := false
  finIsReady := false
  finIsSent := false

/-- One SYN-ACK has left, and the session's entry is initialised with its
sequence number and the SYN. -/
def PassiveOpen.OpenedFor
    (arrival : RxArrival) (system : PassiveOpen) : Prop :=
  ∃ synAck,
    system.sent = [synAck] ∧
      system.txSar.table arrival.segment.sessionId =
        TxSarTableEntry.passivelyOpened arrival.segment.header
          synAck.seqNumber

/-- The write of the TX engine is not served before the one of the RX
engine. -/
def SynWriteFirst (id : TcpSessionID) (system : PassiveOpen) :
    PassiveOpenAction → Prop
  | .txSarTable =>
      ∀ req later,
        system.txSar.txEngReqs = req :: later →
          req.write = true →
            req.sessionId = id →
              rxEngReqsOf id system.txSar.rxEngReqs = []
  | _ => True

/-! ## How far the SYN-ACK has come -/

def synAckEvent (id : TcpSessionID) : EventWithTuple :=
  ⟨Event.plain .synAck id, ⟨0, 0, 0, 0⟩⟩

/-- The initialisation of the entry for a SYN-ACK. -/
def synAckWrite (id : TcpSessionID) (iss : BitVec 32) : TxEngToTxSarReq :=
  TxEngToTxSarReq.initialise id (iss + 1)

/-- The event is handled once; the initialisation is served in the end. -/
inductive SynAckPhase
    (id : TcpSessionID) (iss : BitVec 32) (system : PassiveOpen) :
    Bool → Prop
  | queued :
      system.txEng.fsmState = .load →
      system.txEng.events = [synAckEvent id] →
      nextRandomVal system.txEng.randomVal = iss →
      system.sent = [] →
      txEngWritesOf id system.txSar.txEngReqs = [] →
      SynAckPhase id iss system false
  | loaded :
      system.txEng.fsmState = .transition →
      system.txEng.txEngEventReg = synAckEvent id →
      system.txEng.events = [] →
      nextRandomVal system.txEng.randomVal = iss →
      system.sent = [] →
      txEngWritesOf id system.txSar.txEngReqs = [] →
      SynAckPhase id iss system false
  | written {synAck : TxEngFsmMetaData} :
      system.txEng.fsmState = .load →
      system.txEng.events = [] →
      system.sent = [synAck] →
      synAck.seqNumber = iss →
      txEngWritesOf id system.txSar.txEngReqs = [synAckWrite id iss] →
      SynAckPhase id iss system false
  | served {synAck : TxEngFsmMetaData} :
      system.txEng.fsmState = .load →
      system.txEng.events = [] →
      system.sent = [synAck] →
      synAck.seqNumber = iss →
      txEngWritesOf id system.txSar.txEngReqs = [] →
      SynAckPhase id iss system true

theorem txEngWritesOf_append
    (id : TcpSessionID) (reqs later : List TxEngToTxSarReq) :
    txEngWritesOf id (reqs ++ later) =
      txEngWritesOf id reqs ++ txEngWritesOf id later :=
  List.filter_append reqs later

theorem txEngWritesOf_other
    {id : TcpSessionID} {req : TxEngToTxSarReq}
    (isOther : req.sessionId ≠ id) (later : List TxEngToTxSarReq) :
    txEngWritesOf id (req :: later) = txEngWritesOf id later := by
  simp [txEngWritesOf, isOther]

theorem txEngWritesOf_lookup
    {id : TcpSessionID} {req : TxEngToTxSarReq}
    (isLookup : req.write = false) (later : List TxEngToTxSarReq) :
    txEngWritesOf id (req :: later) = txEngWritesOf id later := by
  simp [txEngWritesOf, isLookup]

theorem txEngWritesOf_own
    {id : TcpSessionID} {req : TxEngToTxSarReq}
    (isOwn : req.sessionId = id) (isWrite : req.write = true)
    (later : List TxEngToTxSarReq) :
    txEngWritesOf id (req :: later) = req :: txEngWritesOf id later := by
  simp [txEngWritesOf, isOwn, isWrite]

theorem rxEngReqsOf_other
    {id : TcpSessionID} {req : RxEngToTxSarReq}
    (isOther : req.sessionId ≠ id) (later : List RxEngToTxSarReq) :
    rxEngReqsOf id (req :: later) = rxEngReqsOf id later := by
  simp [rxEngReqsOf, isOther]

theorem rxEngReqsOf_own
    {id : TcpSessionID} {req : RxEngToTxSarReq}
    (isOwn : req.sessionId = id) (later : List RxEngToTxSarReq) :
    rxEngReqsOf id (req :: later) = req :: rxEngReqsOf id later := by
  simp [rxEngReqsOf, isOwn]

/-- Without an event the machine only clears its segment count. -/
theorem txEngTcpFsm_noEvents
    {state : TxEngState} (isLoad : state.fsmState = .load)
    (noEvents : state.events = []) :
    txEngTcpFsm state = ({ state with retransSegCnt := 0 }, []) := by
  rw [txEngTcpFsm, isLoad]
  simp only [txEngLoad, noEvents]
  rw [← isLoad, ← noEvents]

namespace SynAckPhase

variable {id : TcpSessionID} {iss : BitVec 32}
variable {system next : PassiveOpen} {served : Bool}

/-- The phase is about the machine's own registers and the waiting writes. -/
theorem transport
    (phase : SynAckPhase id iss system served)
    (fsmState : next.txEng.fsmState = system.txEng.fsmState)
    (eventReg : next.txEng.txEngEventReg = system.txEng.txEngEventReg)
    (events : next.txEng.events = system.txEng.events)
    (randomVal : next.txEng.randomVal = system.txEng.randomVal)
    (sent : next.sent = system.sent)
    (writes :
      txEngWritesOf id next.txSar.txEngReqs =
        txEngWritesOf id system.txSar.txEngReqs) :
    SynAckPhase id iss next served := by
  cases phase with
  | queued isLoad event value noSent noWrites =>
      exact
        queued (fsmState.trans isLoad) (events.trans event)
          ((congrArg nextRandomVal randomVal).trans value)
          (sent.trans noSent) (writes.trans noWrites)
  | loaded isTransition event noEvents value noSent noWrites =>
      exact
        loaded (fsmState.trans isTransition) (eventReg.trans event)
          (events.trans noEvents)
          ((congrArg nextRandomVal randomVal).trans value)
          (sent.trans noSent) (writes.trans noWrites)
  | written isLoad noEvents isSent isIss waits =>
      exact
        written (fsmState.trans isLoad) (events.trans noEvents)
          (sent.trans isSent) isIss (writes.trans waits)
  | served isLoad noEvents isSent isIss noWrites =>
      exact
        SynAckPhase.served (fsmState.trans isLoad)
          (events.trans noEvents) (sent.trans isSent) isIss
          (writes.trans noWrites)

/-- A call of the machine moves the SYN-ACK on, but not the table. -/
theorem callTxEng (phase : SynAckPhase id iss system served) :
    SynAckPhase id iss system.callTxEng served := by
  cases phase with
  | queued isLoad event value noSent noWrites =>
      have called :
          txEngTcpFsm system.txEng =
            ({ system.txEng with
                fsmState := .transition
                txRxSarLoaded := false
                txEngEventReg := synAckEvent id
                retransSegCnt := 0
                events := [] },
              [.readCount, .rxSarLupReq id,
                .txSarReq (TxEngToTxSarReq.lookup id)]) := by
        rw [txEngTcpFsm, isLoad]
        simp only [txEngLoad, event]
        rfl
      rw [PassiveOpen.callTxEng, called]
      refine loaded rfl rfl rfl value ?_ ?_
      · simp [noSent, TxEngMsg.toMetaData]
      · change
          txEngWritesOf id
              (system.txSar.txEngReqs ++ [TxEngToTxSarReq.lookup id]) =
            []
        rw [txEngWritesOf_append, noWrites, txEngWritesOf_lookup rfl]
        rfl
  | loaded isTransition event noEvents value noSent noWrites =>
      have called :
          txEngTcpFsm system.txEng = txEngSynAck system.txEng := by
        rw [txEngTcpFsm, isTransition, event]
        rfl
      have noRetry : system.txEng.txEngEventReg.retransCnt = 0 := by
        rw [event]
        rfl
      have ownId : system.txEng.sessionId = id := by
        rw [TxEngState.sessionId, event]
        rfl
      rw [txEngSynAck] at called
      split at called
      · simp only [noRetry, ne_eq, not_true_eq_false, if_false, value,
          ownId] at called
        rw [PassiveOpen.callTxEng, called]
        have isSent (segment : TxEngFsmMetaData) :
            system.sent ++ [segment] = [segment] := by
          rw [noSent, List.nil_append]
        refine written rfl noEvents (isSent _) rfl ?_
        · change
            txEngWritesOf id
                (system.txSar.txEngReqs ++ [synAckWrite id iss]) =
              [synAckWrite id iss]
          rw [txEngWritesOf_append, noWrites,
            @txEngWritesOf_own id (synAckWrite id iss) rfl rfl []]
          rfl
      · rw [PassiveOpen.callTxEng, called]
        refine
          loaded isTransition event noEvents value
            ((List.append_nil _).trans noSent) ?_
        change txEngWritesOf id (system.txSar.txEngReqs ++ []) = []
        rw [List.append_nil, noWrites]
  | written isLoad noEvents isSent isIss waits =>
      have called := txEngTcpFsm_noEvents isLoad noEvents
      rw [PassiveOpen.callTxEng, called]
      refine
        written isLoad noEvents ((List.append_nil _).trans isSent) isIss ?_
      change
        txEngWritesOf id (system.txSar.txEngReqs ++ []) =
          [synAckWrite id iss]
      rw [List.append_nil, waits]
  | served isLoad noEvents isSent isIss noWrites =>
      have called := txEngTcpFsm_noEvents isLoad noEvents
      rw [PassiveOpen.callTxEng, called]
      refine
        SynAckPhase.served isLoad noEvents
          ((List.append_nil _).trans isSent) isIss ?_
      change txEngWritesOf id (system.txSar.txEngReqs ++ []) = []
      rw [List.append_nil, noWrites]

end SynAckPhase

/-- A call of the table that leaves it as it is found no request of the TX
engine. -/
theorem txSarTable_rests
    {state : TxSarTableState} {msgs : List TxSarTableMsg}
    (rests : txSarTable state = (state, msgs)) : state.txEngReqs = [] := by
  cases reqs : state.txEngReqs with
  | nil =>
      rfl
  | cons req later =>
      have left : (txSarTable state).1.txEngReqs = later := by
        rw [txSarTable, reqs]
        simp only []
        split <;> rfl
      rw [rests] at left
      exact absurd (reqs.symm.trans left) (List.cons_ne_self req later)

/-! ## How far the entry has come -/

/-- The SYN-ACK, the requests of the RX engine that still wait, and the
session's entry. -/
structure Opening
    (id : TcpSessionID) (iss : BitVec 32) (system : PassiveOpen)
    (served : Bool) (rxEngReqs : List RxEngToTxSarReq)
    (entry : TxSarTableEntry) : Prop where
  phase : SynAckPhase id iss system served
  rxEngReqs : rxEngReqsOf id system.txSar.rxEngReqs = rxEngReqs
  txAppReqs : ∀ req ∈ system.txSar.txAppReqs, req.sessionId ≠ id
  entry : system.txSar.table id = entry

/-- What one step can do to the session: nothing, serve the write of the TX
engine or serve one of the RX engine. -/
inductive OpeningStep
    (id : TcpSessionID) (iss : BitVec 32) (system next : PassiveOpen)
    (action : PassiveOpenAction) (served : Bool)
    (rxEngReqs : List RxEngToTxSarReq) (entry : TxSarTableEntry) : Prop
  | other :
      SynWriteFirst id system action →
      Opening id iss next served rxEngReqs entry →
      OpeningStep id iss system next action served rxEngReqs entry
  | txEngWrite :
      served = false →
      (SynWriteFirst id system action ↔ rxEngReqs = []) →
      Opening id iss next true rxEngReqs
        (entry.txEngWrite (synAckWrite id iss)) →
      OpeningStep id iss system next action served rxEngReqs entry
  | rxEngWrite {req : RxEngToTxSarReq} {later : List RxEngToTxSarReq} :
      SynWriteFirst id system action →
      rxEngReqs = req :: later →
      Opening id iss next served later (entry.rxEngWrite req) →
      OpeningStep id iss system next action served rxEngReqs entry

namespace Opening

variable {id : TcpSessionID} {iss : BitVec 32}
variable {system next : PassiveOpen} {served : Bool}
variable {rxEngReqs : List RxEngToTxSarReq} {entry : TxSarTableEntry}

/-- A step that serves nothing of the session. -/
theorem transport
    (opening : Opening id iss system served rxEngReqs entry)
    (phase : SynAckPhase id iss next served)
    (rxReqs :
      rxEngReqsOf id next.txSar.rxEngReqs =
        rxEngReqsOf id system.txSar.rxEngReqs)
    (txAppReqs : ∀ req ∈ next.txSar.txAppReqs, req.sessionId ≠ id)
    (sameEntry : next.txSar.table id = system.txSar.table id) :
    Opening id iss next served rxEngReqs entry where
  phase := phase
  rxEngReqs := rxReqs.trans opening.rxEngReqs
  txAppReqs := txAppReqs
  entry := sameEntry.trans opening.entry

/-- A call of the table that serves nothing of the session. -/
theorem afterTxSar
    (opening : Opening id iss system served rxEngReqs entry)
    {txSar : TxSarTableState} (rsps : List TxSarToTxEngRsp)
    (writes :
      txEngWritesOf id txSar.txEngReqs =
        txEngWritesOf id system.txSar.txEngReqs)
    (rxReqs :
      rxEngReqsOf id txSar.rxEngReqs =
        rxEngReqsOf id system.txSar.rxEngReqs)
    (txAppReqs : ∀ req ∈ txSar.txAppReqs, req ∈ system.txSar.txAppReqs)
    (sameEntry : txSar.table id = system.txSar.table id) :
    Opening id iss (system.afterTxSar txSar rsps) served rxEngReqs entry :=
  opening.transport (opening.phase.transport rfl rfl rfl rfl rfl writes)
    rxReqs (fun req member => opening.txAppReqs req (txAppReqs req member))
    sameEntry

/-- Serving the write of the TX engine. -/
theorem txEngWrite
    (opening : Opening id iss system served rxEngReqs entry)
    {req : TxEngToTxSarReq} {later : List TxEngToTxSarReq}
    (waits : system.txSar.txEngReqs = req :: later)
    (isWrite : req.write = true) (isOwn : req.sessionId = id)
    (rsps : List TxSarToTxEngRsp) :
    served = false ∧
      Opening id iss
        (system.afterTxSar
          ({ system.txSar with txEngReqs := later }.setEntry
            req.sessionId
            ((system.txSar.table req.sessionId).txEngWrite req))
          rsps)
        true rxEngReqs (entry.txEngWrite (synAckWrite id iss)) := by
  have ownWrites : txEngWritesOf id system.txSar.txEngReqs ≠ [] := by
    rw [waits, txEngWritesOf_own isOwn isWrite]
    exact List.cons_ne_nil _ _
  have phase := opening.phase
  cases phase with
  | queued _ _ _ _ noWrites | loaded _ _ _ _ _ noWrites
  | served _ _ _ _ noWrites =>
      exact absurd noWrites ownWrites
  | written isLoad noEvents isSent isIss isWaiting =>
      rw [waits, txEngWritesOf_own isOwn isWrite, List.cons.injEq]
        at isWaiting
      refine ⟨rfl, ?_, opening.rxEngReqs, opening.txAppReqs, ?_⟩
      · exact
          SynAckPhase.served isLoad noEvents isSent isIss isWaiting.2
      · rw [← isWaiting.1, ← opening.entry, ← isOwn]
        exact Function.update_self _ _ _

/-- Serving the write of the RX engine. -/
theorem rxEngWrite
    (opening : Opening id iss system served rxEngReqs entry)
    {req : RxEngToTxSarReq} {later : List RxEngToTxSarReq}
    (waits : system.txSar.rxEngReqs = req :: later)
    (isOwn : req.sessionId = id) (rsps : List TxSarToTxEngRsp) :
    rxEngReqs = req :: rxEngReqsOf id later ∧
      Opening id iss
        (system.afterTxSar
          ({ system.txSar with rxEngReqs := later }.setEntry
            req.sessionId
            ((system.txSar.table req.sessionId).rxEngWrite req))
          rsps)
        served (rxEngReqsOf id later) (entry.rxEngWrite req) := by
  have ownReqs := opening.rxEngReqs
  rw [waits, rxEngReqsOf_own isOwn] at ownReqs
  refine
    ⟨ownReqs.symm, opening.phase.transport rfl rfl rfl rfl rfl rfl, rfl,
      opening.txAppReqs, ?_⟩
  rw [← opening.entry, ← isOwn]
  exact Function.update_self _ _ _

theorem txSarTable
    (opening : Opening id iss system served rxEngReqs entry)
    (onlyWrites : ∀ req ∈ rxEngReqs, req.write = true) :
    OpeningStep id iss system system.callTxSar .txSarTable served
      rxEngReqs entry := by
  have call := txSarTable_call system.txSar
  rw [PassiveOpen.callTxSar]
  generalize calledIs : TcpOffload.txSarTable system.txSar = called
    at call ⊢
  obtain ⟨txSar, msgs⟩ := called
  simp only [] at call ⊢
  generalize system.txEng.txSarRsps ++ txSarAnswers msgs = rsps
  have firstIs (other : TxEngToTxSarReq) (reqs : List TxEngToTxSarReq)
      (waits : system.txSar.txEngReqs = other :: reqs)
      (notOwn : ¬ (other.write = true ∧ other.sessionId = id)) :
      SynWriteFirst id system .txSarTable := by
    intro req later isFirst isWrite isOwn
    rw [waits] at isFirst
    cases isFirst
    exact absurd ⟨isWrite, isOwn⟩ notOwn
  have noneIs (noTxEng : system.txSar.txEngReqs = []) :
      SynWriteFirst id system .txSarTable := by
    intro req later isFirst
    rw [noTxEng] at isFirst
    cases isFirst
  cases call with
  | idle =>
      exact
        OpeningStep.other (noneIs (txSarTable_rests calledIs))
          (opening.afterTxSar rsps rfl rfl (fun _ member => member) rfl)
  | @txEngWrite req later waits isWrite =>
      by_cases isOwn : req.sessionId = id
      · obtain ⟨notServed, opened⟩ :=
          opening.txEngWrite waits isWrite isOwn rsps
        refine OpeningStep.txEngWrite notServed ?_ opened
        rw [← opening.rxEngReqs]
        constructor
        · intro synFirst
          exact synFirst req later waits isWrite isOwn
        · intro noReqs _ _ _ _ _
          exact noReqs
      · refine
          OpeningStep.other (firstIs req later waits fun own => isOwn own.2)
            (opening.afterTxSar rsps ?_ rfl (fun _ member => member) ?_)
        · rw [waits]
          exact (txEngWritesOf_other isOwn later).symm
        · exact Function.update_of_ne (Ne.symm isOwn) _ _
  | @txEngLookup req later waits isLookup =>
      refine
        OpeningStep.other
          (firstIs req later waits fun own => by
            rw [isLookup] at own
            cases own.1)
          (opening.afterTxSar rsps ?_ rfl (fun _ member => member) rfl)
      rw [waits]
      exact (txEngWritesOf_lookup isLookup later).symm
  | @txAppWrite req later noTxEng waits =>
      have isOther : req.sessionId ≠ id :=
        opening.txAppReqs req (by rw [waits]; exact List.mem_cons_self)
      refine
        OpeningStep.other (noneIs noTxEng)
          (opening.afterTxSar rsps rfl rfl (fun other member => ?_) ?_)
      · rw [waits]
        exact List.mem_cons_of_mem req member
      · exact Function.update_of_ne (Ne.symm isOther) _ _
  | @rxEngWrite req later noTxEng waits isWrite =>
      by_cases isOwn : req.sessionId = id
      · obtain ⟨isFirst, opened⟩ := opening.rxEngWrite waits isOwn rsps
        exact OpeningStep.rxEngWrite (noneIs noTxEng) isFirst opened
      · refine
          OpeningStep.other (noneIs noTxEng)
            (opening.afterTxSar rsps rfl ?_ (fun _ member => member) ?_)
        · rw [waits]
          exact (rxEngReqsOf_other isOwn later).symm
        · exact Function.update_of_ne (Ne.symm isOwn) _ _
  | @rxEngLookup req later noTxEng waits isLookup =>
      have isOther : req.sessionId ≠ id := by
        intro isOwn
        obtain ⟨isFirst, _⟩ := opening.rxEngWrite waits isOwn rsps
        have isWrite :=
          onlyWrites req (by rw [isFirst]; exact List.mem_cons_self)
        rw [isLookup] at isWrite
        cases isWrite
      refine
        OpeningStep.other (noneIs noTxEng)
          (opening.afterTxSar rsps rfl ?_ (fun _ member => member) rfl)
      rw [waits]
      exact (rxEngReqsOf_other isOther later).symm

/-- What is not the table leaves the entry and the requests for it. -/
theorem step
    (opening : Opening id iss system served rxEngReqs entry)
    (onlyWrites : ∀ req ∈ rxEngReqs, req.write = true)
    {action : PassiveOpenAction}
    (stepped : PassiveOpenStep id system action next) :
    OpeningStep id iss system next action served rxEngReqs entry := by
  cases stepped with
  | txEngTcpFsm =>
      exact
        OpeningStep.other trivial
          (opening.transport opening.phase.callTxEng rfl opening.txAppReqs
            rfl)
  | txSarTable =>
      exact opening.txSarTable onlyWrites
  | rxSarRsp rsp =>
      exact
        OpeningStep.other trivial
          (opening.transport
            (opening.phase.transport rfl rfl rfl rfl rfl rfl) rfl
            opening.txAppReqs rfl)
  | @txEngReq req isOther =>
      refine
        OpeningStep.other trivial
          (opening.transport
            (opening.phase.transport rfl rfl rfl rfl rfl ?_) rfl
            opening.txAppReqs rfl)
      rw [txEngWritesOf_append, txEngWritesOf_other isOther]
      exact List.append_nil _
  | @txAppReq req isOther =>
      refine
        OpeningStep.other trivial
          (opening.transport
            (opening.phase.transport rfl rfl rfl rfl rfl rfl) rfl ?_ rfl)
      intro other member
      rcases List.mem_append.1 member with waiting | isNew
      · exact opening.txAppReqs other waiting
      · rw [List.mem_singleton.1 isNew]
        exact isOther
  | @rxEngReq req isOther =>
      refine
        OpeningStep.other trivial
          (opening.transport
            (opening.phase.transport rfl rfl rfl rfl rfl rfl) ?_
            opening.txAppReqs rfl)
      change
        rxEngReqsOf id (system.txSar.rxEngReqs ++ [req]) =
          rxEngReqsOf id system.txSar.rxEngReqs
      rw [rxEngReqsOf, List.filter_append]
      change _ ++ rxEngReqsOf id [req] = _
      rw [rxEngReqsOf_other isOther]
      exact List.append_nil _

end Opening

/-! ## The two orders -/

section Orders

variable (id : TcpSessionID) (iss : BitVec 32)
variable (before : TxSarTableEntry) (syn : RxEngToTxSarReq)

/-- The SYN's write is served before the one for the SYN-ACK. -/
inductive SynFirst (system : PassiveOpen) : Prop
  | asked :
      Opening id iss system false [syn] before → SynFirst system
  | opened :
      Opening id iss system false [] (before.rxEngWrite syn) →
      SynFirst system
  | initialised :
      Opening id iss system true []
        ((before.rxEngWrite syn).txEngWrite (synAckWrite id iss)) →
      SynFirst system

/-- The SYN's write is left for behind the one for the SYN-ACK. -/
inductive SynLast (system : PassiveOpen) : Prop
  | initialised :
      Opening id iss system true [syn]
        (before.txEngWrite (synAckWrite id iss)) →
      SynLast system
  | opened :
      Opening id iss system true []
        ((before.txEngWrite (synAckWrite id iss)).rxEngWrite syn) →
      SynLast system

variable {id iss before syn}

theorem SynFirst.step
    (isWrite : syn.write = true)
    (system : PassiveOpen) (action : PassiveOpenAction)
    (next : PassiveOpen)
    (synFirst : SynFirst id iss before syn system)
    (stepped : PassiveOpenStep id system action next) :
    SynWriteFirst id system action ∧ SynFirst id iss before syn next ∨
      ¬ SynWriteFirst id system action ∧
        SynLast id iss before syn next := by
  have onlySyn : ∀ req ∈ [syn], req.write = true := by
    intro req member
    rw [List.mem_singleton.1 member]
    exact isWrite
  have noReqs : ∀ req ∈ ([] : List RxEngToTxSarReq), req.write = true :=
    fun req member => by cases member
  cases synFirst with
  | asked opening =>
      cases opening.step onlySyn stepped with
      | other here opening =>
          exact Or.inl ⟨here, SynFirst.asked opening⟩
      | txEngWrite _ notFirst opening =>
          exact
            Or.inr
              ⟨fun first => List.cons_ne_nil _ _ (notFirst.1 first),
                SynLast.initialised opening⟩
      | rxEngWrite here isSyn opening =>
          cases isSyn
          exact Or.inl ⟨here, SynFirst.opened opening⟩
  | opened opening =>
      cases opening.step noReqs stepped with
      | other here opening =>
          exact Or.inl ⟨here, SynFirst.opened opening⟩
      | txEngWrite _ first opening =>
          exact Or.inl ⟨first.2 rfl, SynFirst.initialised opening⟩
      | rxEngWrite _ isSyn _ =>
          cases isSyn
  | initialised opening =>
      cases opening.step noReqs stepped with
      | other here opening =>
          exact Or.inl ⟨here, SynFirst.initialised opening⟩
      | txEngWrite notServed _ _ =>
          cases notServed
      | rxEngWrite _ isSyn _ =>
          cases isSyn

theorem SynLast.step
    (isWrite : syn.write = true)
    (system : PassiveOpen) (action : PassiveOpenAction)
    (next : PassiveOpen)
    (synLast : SynLast id iss before syn system)
    (stepped : PassiveOpenStep id system action next) :
    SynLast id iss before syn next := by
  have onlySyn : ∀ req ∈ [syn], req.write = true := by
    intro req member
    rw [List.mem_singleton.1 member]
    exact isWrite
  cases synLast with
  | initialised opening =>
      cases opening.step onlySyn stepped with
      | other _ opening =>
          exact SynLast.initialised opening
      | txEngWrite notServed _ _ =>
          cases notServed
      | rxEngWrite _ isSyn opening =>
          cases isSyn
          exact SynLast.opened opening
  | opened opening =>
      cases opening.step (fun req member => by cases member) stepped with
      | other _ opening =>
          exact SynLast.opened opening
      | txEngWrite notServed _ _ =>
          cases notServed
      | rxEngWrite _ isSyn _ =>
          cases isSyn

end Orders

/-! ## A SYN and its SYN-ACK -/

/-- The write of the RX engine for a SYN that opens a connection. -/
def synWrite
    (arrival : RxArrival) (congWindow : TcpSessionBuffer) :
    RxEngToTxSarReq :=
  RxEngToTxSarReq.updateWithShift arrival.segment.sessionId 0
    arrival.segment.header.winSize congWindow 0 false true
    arrival.segment.header.rxWinScale

/-- The SYN's write and the SYN-ACK event are all of its messages that the
table and the machine hear of. -/
theorem opensBySyn_msgs
    {arrival : RxArrival} (opens : arrival.opensBySyn = true)
    {regs final : RxEngState} {msgs : List RxEngMsg}
    (handles : HandlesSegment regs arrival msgs final) :
    msgs.filterMap RxEngMsg.toTxSar =
        [synWrite arrival regs.txSarReg.congWindow] ∧
      msgs.filterMap RxEngMsg.toEventEng =
        [Event.plain .synAck arrival.segment.sessionId] := by
  rw [RxArrival.opensBySyn, Bool.and_eq_true, Bool.or_eq_true] at opens
  obtain ⟨isSyn, opening⟩ := opens
  have isSyn := eq_of_beq isSyn
  have noAck : arrival.segment.header.ack = false := by
    rw [← TcpHeaderMeta.ctrlBits_ack, isSyn]
    rfl
  have answered :
      (regs.answered arrival).txSarReg = regs.txSarReg :=
    if_neg (Bool.eq_false_iff.1 noAck)
  have isSynBits : (regs.answered arrival).rxEngCtrlBits = 2 := isSyn
  have handled :
      (rxEngHandle (regs.answered arrival)).2 =
        [.rxSarReq
            (RxEngToRxSarReq.initialise arrival.segment.sessionId
              (arrival.segment.header.seqNumber + 1)
              arrival.segment.header.rxWinScale),
          .txSarReq (synWrite arrival regs.txSarReg.congWindow),
          arrival.segment.updateState .synReceived,
          .setEvent
            (Event.plain .synAck arrival.segment.sessionId)] := by
    rw [rxEngHandle_opens isSynBits
        (opening.imp eq_of_beq eq_of_beq), answered]
    rfl
  have lookups :
      rxLookups arrival.segment =
        [.sttableReq (StateTableReq.lookup arrival.segment.sessionId),
          .rxSarReq
            (RxEngToRxSarReq.lookup arrival.segment.sessionId)] := by
    rw [rxLookups, noAck]
    rfl
  rw [(handles.unique (handlesSegment regs arrival)).1, handled, lookups]
  exact ⟨rfl, rfl⟩

/-- Served in the right order, the two writes leave the entry of a passive
open. -/
theorem synFirst_entry
    (before : TxSarTableEntry) (arrival : RxArrival)
    (congWindow : TcpSessionBuffer) (id : TcpSessionID)
    (iss : BitVec 32) :
    (before.rxEngWrite (synWrite arrival congWindow)).txEngWrite
        (synAckWrite id iss) =
      TxSarTableEntry.passivelyOpened arrival.segment.header iss := by
  have ackd : iss + 1 - 1 = iss := by bv_omega
  simp only [TxSarTableEntry.rxEngWrite, TxSarTableEntry.txEngWrite,
    synWrite, synAckWrite, RxEngToTxSarReq.updateWithShift,
    TxEngToTxSarReq.initialise, TxSarTableEntry.passivelyOpened, ackd]
  rfl

/-- Served the other way round, `ackd` and `cong_window` are the ones of the
SYN. -/
theorem synLast_entry
    (before : TxSarTableEntry) (arrival : RxArrival)
    (congWindow : TcpSessionBuffer) (id : TcpSessionID)
    (iss : BitVec 32) :
    (before.txEngWrite (synAckWrite id iss)).rxEngWrite
        (synWrite arrival congWindow) =
      { TxSarTableEntry.passivelyOpened arrival.segment.header iss with
        ackd := 0
        congWindow := congWindow } := by
  simp [TxSarTableEntry.rxEngWrite, TxSarTableEntry.txEngWrite, synWrite,
    synAckWrite, RxEngToTxSarReq.updateWithShift,
    TxEngToTxSarReq.initialise, TxSarTableEntry.passivelyOpened]

namespace PassiveOpen

variable {arrival : RxArrival} {iss : BitVec 32}

/-- The session's part of a system in which both writes have been served. -/
theorem Served.opening
    {system : PassiveOpen} {rxEngReqs : List RxEngToTxSarReq}
    {entry : TxSarTableEntry} {servedBy : Bool} {id : TcpSessionID}
    (served : system.Served id)
    (opening : Opening id iss system servedBy rxEngReqs entry) :
    servedBy = true ∧ rxEngReqs = [] ∧
      ∃ synAck, system.sent = [synAck] ∧ synAck.seqNumber = iss := by
  have phase := opening.phase
  have noReqs := opening.rxEngReqs.symm.trans served.quiet.rxEngReqs
  cases phase with
  | queued _ _ _ noSent _ | loaded _ _ _ _ noSent _ =>
      exact absurd noSent served.sent
  | written _ _ _ _ waits =>
      rw [served.quiet.txEngReqs] at waits
      cases waits
  | @served synAck _ _ isSent isIss _ =>
      exact ⟨rfl, noReqs, synAck, isSent, isIss⟩

/-- The two requests have just been written. -/
theorem synFirst_start
    (opens : arrival.opensBySyn = true)
    {regs final : RxEngState} {msgs : List RxEngMsg}
    (handles : HandlesSegment regs arrival msgs final)
    (txEng : TxEngState) {txSar : TxSarTableState}
    (quiet : txSar.Quiet arrival.segment.sessionId) :
    SynFirst arrival.segment.sessionId (nextRandomVal txEng.randomVal)
      (txSar.table arrival.segment.sessionId)
      (synWrite arrival regs.txSarReg.congWindow)
      (start txEng txSar msgs) := by
  obtain ⟨toTxSar, toEventEng⟩ := opensBySyn_msgs opens handles
  refine SynFirst.asked ⟨?_, ?_, quiet.txAppReqs, rfl⟩
  · refine
      SynAckPhase.queued rfl ?_ rfl rfl quiet.txEngReqs
    rw [start, toEventEng]
    rfl
  · rw [start, toTxSar, rxEngReqsOf, List.filter_append]
    change rxEngReqsOf _ txSar.rxEngReqs ++ rxEngReqsOf _ [_] = _
    rw [quiet.rxEngReqs]
    exact rxEngReqsOf_own rfl []

/-- When the writes of the SYN and of its SYN-ACK have been served, the entry
is the one of a passive open exactly if the SYN's write came first, or if its
values happen to be those of the other. -/
theorem openedFor_iff
    (opens : arrival.opensBySyn = true)
    {regs final : RxEngState} {msgs : List RxEngMsg}
    (handles : HandlesSegment regs arrival msgs final)
    {txEng : TxEngState} {txSar : TxSarTableState}
    (quiet : txSar.Quiet arrival.segment.sessionId)
    {actions : List PassiveOpenAction} {done : PassiveOpen}
    (run :
      Run (PassiveOpenStep arrival.segment.sessionId)
        (start txEng txSar msgs) actions done)
    (served : done.Served arrival.segment.sessionId) :
    done.OpenedFor arrival ↔
      Along (PassiveOpenStep arrival.segment.sessionId)
          (SynWriteFirst arrival.segment.sessionId)
          (start txEng txSar msgs) actions ∨
        nextRandomVal txEng.randomVal = 0 ∧
          regs.txSarReg.congWindow = BitVec.ofNat 18 tcpMssTenTimes := by
  have isWrite :
      (synWrite arrival regs.txSarReg.congWindow).write = true :=
    rfl
  rcases
      run.along_or_not (PassiveOpenStep.oneOutcome _)
        (SynFirst.step isWrite) (SynLast.step isWrite)
        (synFirst_start opens handles txEng quiet) with
    ⟨along, synFirst⟩ | ⟨notAlong, synLast⟩
  · refine ⟨fun _ => Or.inl along, fun _ => ?_⟩
    cases synFirst with
    | asked opening | opened opening =>
        cases (served.opening opening).1
    | initialised opening =>
        obtain ⟨_, _, synAck, sent, isIss⟩ := served.opening opening
        refine ⟨synAck, sent, ?_⟩
        rw [opening.entry, synFirst_entry, isIss]
  · have late :
        ∃ synAck,
          done.sent = [synAck] ∧
            synAck.seqNumber = nextRandomVal txEng.randomVal ∧
            done.txSar.table arrival.segment.sessionId =
              { TxSarTableEntry.passivelyOpened arrival.segment.header
                  (nextRandomVal txEng.randomVal) with
                ackd := 0
                congWindow := regs.txSarReg.congWindow } := by
      cases synLast with
      | initialised opening =>
          cases (served.opening opening).2.1
      | opened opening =>
          obtain ⟨_, _, synAck, sent, isIss⟩ := served.opening opening
          exact
            ⟨synAck, sent, isIss,
              opening.entry.trans (synLast_entry _ _ _ _ _)⟩
    obtain ⟨synAck, sent, isIss, entry⟩ := late
    constructor
    · rintro ⟨other, otherSent, opened⟩
      rw [sent] at otherSent
      cases otherSent
      rw [entry, isIss] at opened
      have ackd := congrArg TxSarTableEntry.ackd opened
      have congWindow := congrArg TxSarTableEntry.congWindow opened
      exact Or.inr ⟨ackd.symm, congWindow⟩
    · rintro (along | ⟨noIss, tenSegments⟩)
      · exact absurd along notAlong
      · refine ⟨synAck, sent, ?_⟩
        rw [entry, isIss, noIss, tenSegments]
        rfl

/-! ## Both orders on one SYN -/

/-- A SYN without options to a closed session. -/
def plainSyn : RxArrival where
  segment := ⟨0, 0, 0, ⟨7, 0, 8000, false, false, true, false, 0, 0⟩⟩
  sessionState := .closed
  rxSar := ⟨0, 0, 0⟩
  txSar := ⟨0, 0, 0, 0, 0, false, 0⟩

def plainSynMsgs : List RxEngMsg :=
  rxLookups plainSyn.segment ++
    (rxEngHandle (RxEngState.start.answered plainSyn)).2

/-- A table with no request for any session. -/
def restingTxSar : TxSarTableState :=
  ⟨fun _ => ⟨0, 0, 0, 0, 0, 0, 0, 0, false, false, false⟩, [], [], []⟩

/-- The design at its start, with the messages of the SYN. -/
def afterPlainSyn : PassiveOpen :=
  start TxEngState.start restingTxSar plainSynMsgs

theorem restingTxSar_quiet : restingTxSar.Quiet 0 where
  txEngReqs := rfl
  txAppReqs := fun req member => by cases member
  rxEngReqs := rfl

def synServedFirst : List PassiveOpenAction :=
  [.txSarTable, .txEngTcpFsm, .txSarTable, .rxSarRsp ⟨8, 0, 0xFFFF⟩,
    .txEngTcpFsm, .txSarTable]

theorem run_synServedFirst :
    ∃ done,
      Run (PassiveOpenStep 0) afterPlainSyn synServedFirst done ∧
        done.Served 0 := by
  apply Exists.intro
  apply And.intro
  · apply Run.head PassiveOpenStep.txSarTable
    apply Run.head PassiveOpenStep.txEngTcpFsm
    apply Run.head PassiveOpenStep.txSarTable
    apply Run.head (PassiveOpenStep.rxSarRsp _)
    apply Run.head PassiveOpenStep.txEngTcpFsm
    apply Run.head PassiveOpenStep.txSarTable
    exact Run.refl _
  · refine ⟨?_, ?_, fun req member => ?_, ?_⟩
    · decide
    · decide
    · cases member
    · decide

theorem openedFor_synServedFirst :
    ∃ done,
      Run (PassiveOpenStep 0) afterPlainSyn synServedFirst done ∧
        (done.OpenedFor plainSyn ↔
          Along (PassiveOpenStep 0) (SynWriteFirst 0) afterPlainSyn
              synServedFirst ∨
            nextRandomVal TxEngState.start.randomVal = 0 ∧
              RxEngState.start.txSarReg.congWindow =
                BitVec.ofNat 18 tcpMssTenTimes) := by
  obtain ⟨done, run, served⟩ := run_synServedFirst
  exact
    ⟨done, run,
      openedFor_iff (by decide) (handlesSegment RxEngState.start plainSyn)
        restingTxSar_quiet run served⟩

/-- Served behind the initialisation, the SYN leaves an acknowledgement
window that starts at zero. -/
theorem not_openedFor_synServedLast :
    ¬ ∀ actions done,
        Run (PassiveOpenStep 0) afterPlainSyn actions done →
          done.Served 0 → done.OpenedFor plainSyn := by
  intro always
  have late :
      ∃ done,
        Run (PassiveOpenStep 0) afterPlainSyn
            [.txEngTcpFsm, .txSarTable, .rxSarRsp ⟨8, 0, 0xFFFF⟩,
              .txEngTcpFsm, .txSarTable, .txSarTable]
            done ∧
          done.Served 0 ∧ (done.txSar.table 0).ackd = 0 ∧
            (done.txSar.table 0).notAckd ≠ 1 := by
    apply Exists.intro
    apply And.intro
    · apply Run.head PassiveOpenStep.txEngTcpFsm
      apply Run.head PassiveOpenStep.txSarTable
      apply Run.head (PassiveOpenStep.rxSarRsp _)
      apply Run.head PassiveOpenStep.txEngTcpFsm
      apply Run.head PassiveOpenStep.txSarTable
      apply Run.head PassiveOpenStep.txSarTable
      exact Run.refl _
    · refine ⟨⟨?_, ?_, fun req member => ?_, ?_⟩, ?_, ?_⟩
      · decide
      · decide
      · cases member
      · decide
      · decide
      · decide
  obtain ⟨done, run, served, noAckd, notAckd⟩ := late
  obtain ⟨synAck, _, entry⟩ := always _ done run served
  change done.txSar.table 0 = _ at entry
  rw [entry] at noAckd notAckd
  exact notAckd (congrArg (fun ackd => ackd + 1) noAckd)

end PassiveOpen

end TcpOffload
