import TcpOffload.Library.Guarded
import TcpOffload.RxEngine.AckWindow
import TcpOffload.RxEngine.Calls
import TcpOffload.Timers.OwnReleases
import TcpOffload.TxEngine.Calls
import TcpOffload.TxEngine.OwnAnswers

/-!
# The timer behind unacknowledged data

`RxEngTcpFsm`, `TxEngTcpFsm`, `tx_sar_table` and `retransmit_timer` with the
queues between them, and the state of one session.  Clears and sets reach the
timer through different queues.
-/

namespace TcpOffload

open Guarded

def RetransmitTimerMsg.toEventEng : RetransmitTimerMsg → Option Event
  | .setEvent event => some event
  | _ => none

/-- `timeouts` and `releases` are what the timer has written and nobody has
taken yet.  `sessionState` is the entry of the session in the state table,
with the updates of the RX engine as soon as they are written. -/
structure CoverSystem where
  rx : RxEngState
  tx : TxEngState
  txSar : TxSarTableState
  rtimer : RetransmitTimerState
  timeouts : List Event
  releases : List TcpSessionID
  sessionState : SessionState

inductive CoverAction where
  | rxEngTcpFsm
  | txEngTcpFsm
  | txSarTable
  | retransmitTimer (full : Bool)
  | timeout
  | release
  | sttable (state : SessionState)
  | segment (segment : RxEngFsmMetaData)
  | sttableRsp (state : SessionState)
  | rxEngRxSarRsp (entry : RxSarTableEntry)
  | txEngRxSarRsp (rsp : RxSarLookupRsp)
  | txAppReq (req : TxAppToTxSarReq)
  | event (event : EventWithTuple)

namespace CoverSystem

def start (table : TcpSessionID → TxSarTableEntry) : CoverSystem where
  rx := RxEngState.start
  tx := TxEngState.start
  txSar := ⟨table, [], [], []⟩
  rtimer := RetransmitTimerState.start
  timeouts := []
  releases := []
  sessionState := .closed

/-- `msgs` of the RX engine reach the table, the timer and the state. -/
def afterRx
    (system : CoverSystem) (id : TcpSessionID) (rx : RxEngState)
    (msgs : List RxEngMsg) : CoverSystem :=
  { system with
    rx := rx
    txSar := system.txSar.queueRxEng (msgs.filterMap RxEngMsg.toTxSar)
    rtimer :=
      { system.rtimer with
        clearReqs :=
          system.rtimer.clearReqs ++ msgs.filterMap RxEngMsg.toRtimer }
    sessionState := stateBehind id system.sessionState msgs }

/-- What the TX engine asks for reaches the table and the timer. -/
def afterTx (system : CoverSystem) (tx : TxEngState) (asks : TxAsks) :
    CoverSystem :=
  { system with
    tx := tx
    txSar := system.txSar.queueTxEng asks.txSarReqs
    rtimer :=
      { system.rtimer with
        setReqs := system.rtimer.setReqs ++ asks.rtimerSets } }

/-- `msgs` of the table reach the two engines. -/
def afterTable
    (system : CoverSystem) (txSar : TxSarTableState)
    (msgs : List TxSarTableMsg) : CoverSystem :=
  { system with
    rx :=
      { system.rx with
        txSarRsps :=
          system.rx.txSarRsps ++ msgs.filterMap TxSarTableMsg.toRxEng }
    tx :=
      { system.tx with
        txSarRsps := system.tx.txSarRsps ++ txSarAnswers msgs }
    txSar := txSar }

/-- `msgs` of the timer are on their way. -/
def afterTimer
    (system : CoverSystem) (rtimer : RetransmitTimerState)
    (msgs : List RetransmitTimerMsg) : CoverSystem :=
  { system with
    rtimer := rtimer
    timeouts :=
      system.timeouts ++ msgs.filterMap RetransmitTimerMsg.toEventEng
    releases :=
      system.releases ++ msgs.filterMap RetransmitTimerMsg.toSttable }

def queueEvent (system : CoverSystem) (event : EventWithTuple) :
    CoverSystem :=
  { system with
    tx := { system.tx with events := system.tx.events ++ [event] } }

def act
    (times : TimerTimes) (id : TcpSessionID) (system : CoverSystem) :
    CoverAction → CoverSystem
  | .rxEngTcpFsm =>
      let called := TcpOffload.rxEngTcpFsm system.rx
      system.afterRx id called.1 called.2
  | .txEngTcpFsm =>
      let called := TcpOffload.txEngTcpFsm system.tx
      system.afterTx called.1 (txAsks called.2)
  | .txSarTable =>
      let called := TcpOffload.txSarTable system.txSar
      system.afterTable called.1 called.2
  | .retransmitTimer full =>
      let called :=
        TcpOffload.retransmitTimer times full system.rtimer
      system.afterTimer called.1 called.2
  | .timeout =>
      match system.timeouts with
      | event :: later =>
          { system with timeouts := later }.queueEvent
            ⟨event, ⟨0, 0, 0, 0⟩⟩
      | [] => system
  | .release =>
      match system.releases with
      | released :: later =>
          { system with
            releases := later
            sessionState :=
              if released = id then .closed else system.sessionState }
      | [] => system
  | .sttable state => { system with sessionState := state }
  | .segment segment =>
      { system with
        rx :=
          { system.rx with
            metaDatas := system.rx.metaDatas ++ [segment] } }
  | .sttableRsp state =>
      { system with
        rx :=
          { system.rx with
            sttableRsps := system.rx.sttableRsps ++ [state] } }
  | .rxEngRxSarRsp entry =>
      { system with
        rx :=
          { system.rx with
            rxSarRsps := system.rx.rxSarRsps ++ [entry] } }
  | .txEngRxSarRsp rsp =>
      { system with
        tx :=
          { system.tx with rxSarRsps := system.tx.rxSarRsps ++ [rsp] } }
  | .txAppReq req =>
      { system with txSar := system.txSar.queueTxApp [req] }
  | .event event => system.queueEvent event

/-- A segment of the session is in hand and its state was looked up: the
state table keeps the state locked. -/
def locked (system : CoverSystem) (id : TcpSessionID) : Prop :=
  system.rx.fsmState = .transition ∧
    system.rx.tcpRxMetaReg.sessionId = id ∧ system.rx.sttableRsps ≠ []

instance (system : CoverSystem) (id : TcpSessionID) :
    Decidable (system.locked id) :=
  inferInstanceAs (Decidable (_ ∧ _ ∧ _))

/-- What the state table allows: it answers each lookup once, with the state
of the session, and lets nobody change a locked state.  Nobody but the RX
engine establishes a connection. -/
def Allows (system : CoverSystem) (id : TcpSessionID) :
    CoverAction → Prop
  | .sttableRsp state =>
      system.rx.fsmState = .transition ∧ system.rx.sttableRsps = [] ∧
        (system.rx.tcpRxMetaReg.sessionId = id →
          state = system.sessionState)
  | .sttable state => state ≠ .established ∧ ¬ system.locked id
  | .release => ¬ system.locked id
  | _ => True

instance (system : CoverSystem) (id : TcpSessionID) :
    ∀ action : CoverAction, Decidable (system.Allows id action)
  | .sttableRsp _ => inferInstanceAs (Decidable (_ ∧ _ ∧ (_ → _)))
  | .sttable _ => inferInstanceAs (Decidable (_ ∧ ¬ _))
  | .release => inferInstanceAs (Decidable (¬ _))
  | .rxEngTcpFsm | .txEngTcpFsm | .txSarTable | .retransmitTimer _
  | .timeout | .segment _ | .rxEngRxSarRsp _ | .txEngRxSarRsp _
  | .txAppReq _ | .event _ => isTrue trivial

end CoverSystem

/-- One step of the four modules, or of what surrounds them. -/
def CoverStep
    (times : TimerTimes) (id : TcpSessionID) (system : CoverSystem)
    (action : CoverAction) (next : CoverSystem) : Prop :=
  next = system.act times id action ∧ system.Allows id action

/-! ## The claim about a state -/

/-- The types of a timeout event, and those it goes on with. -/
def EventType.resends : EventType → Bool
  | .rt | .rtCont | .syn | .synAck | .fin => true
  | .tx | .ack | .ackNodelay | .rst => false

def Event.isTimeout (event : Event) : Bool :=
  event.retransCnt != 0 && event.type.resends

namespace CoverSystem

/-- A timeout event of the session is on its way to the TX engine. -/
def TimeoutPending (system : CoverSystem) (id : TcpSessionID) : Prop :=
  ∃ event ∈
      system.timeouts ++ system.tx.events.map EventWithTuple.toEvent,
    event.sessionId = id ∧ event.isTimeout = true

instance (system : CoverSystem) (id : TcpSessionID) :
    Decidable (system.TimeoutPending id) :=
  inferInstanceAs (Decidable (∃ event ∈ _, _ ∧ _))

/-- No message is in flight between the modules and both machines are
idle. -/
structure Quiet (system : CoverSystem) : Prop where
  rx : system.rx.fsmState = .load
  tx : system.tx.fsmState = .load
  txEngReqs : system.txSar.txEngReqs = []
  txAppReqs : system.txSar.txAppReqs = []
  rxEngReqs : system.txSar.rxEngReqs = []
  clearReqs : system.rtimer.clearReqs = []
  clearTaken : system.rtimer.waitForWrite = false
  setReqs : system.rtimer.setReqs = []
  releases : system.releases = []

/-- Sent data that is not yet acknowledged is covered by a timer. -/
def SendCovered (system : CoverSystem) (id : TcpSessionID) : Prop :=
  system.Quiet → system.sessionState = .established →
    (system.txSar.table id).ackd ≠ (system.txSar.table id).notAckd →
      (system.rtimer.table id).active = true ∨ system.TimeoutPending id

end CoverSystem

/-! ## When the data stays covered -/

namespace TxEngState

/-- In the middle of a `TX` event the register is ahead of the table. -/
def looping (state : TxEngState) (id : TcpSessionID) : Prop :=
  state.fsmState = .transition ∧ state.txEngEventReg.type = .tx ∧
    state.txRxSarLoaded = true ∧ state.sessionId = id

instance (state : TxEngState) (id : TcpSessionID) :
    Decidable (state.looping id) :=
  inferInstanceAs (Decidable (_ ∧ _ ∧ _ ∧ _))

/-- A timeout of the session is being handled. -/
def Resending (state : TxEngState) (id : TcpSessionID) : Prop :=
  state.fsmState = .transition ∧ state.sessionId = id ∧
    state.txEngEventReg.isTimeout = true

instance (state : TxEngState) (id : TcpSessionID) :
    Decidable (state.Resending id) :=
  inferInstanceAs (Decidable (_ ∧ _ ∧ _))

/-- The pointer that a call writes which sends nothing. -/
def silentPointer (state : TxEngState) (rsp : TxSarToTxEngRsp) :
    Option (BitVec 32) :=
  match state.txEngEventReg.type with
  | .tx =>
      if state.dataLeft rsp = 0 then
        some (rsp.pointerBehind 0)
      else if state.windowLeft rsp = 0 then
        some rsp.notAckd
      else
        none
  | .fin =>
      if state.txEngEventReg.retransCnt = 0 ∧ rsp.finLeaves 0 = false then
        some rsp.notAckd
      else
        none
  | _ => none

/-- A repetition ends with this answer without a segment. -/
def resendsNothing (state : TxEngState) (rsp : TxSarToTxEngRsp) : Bool :=
  match state.txEngEventReg.type with
  | .rt | .rtCont => rsp.usedLengthRst == 0 && !rsp.finIsSent
  | .fin =>
      state.txEngEventReg.retransCnt != 0 &&
        !rsp.finLeaves state.txEngEventReg.retransCnt
  | _ => false

end TxEngState

/-- The registered request that the next call executes stops the timer of
the session. -/
def RetransmitTimerState.Stops
    (state : RetransmitTimerState) (id : TcpSessionID) : Prop :=
  state.waitForWrite = true ∧
    state.rxEngReq.sessionId ≠ state.prevSessionId ∧
      state.rxEngReq = ⟨id, true⟩

instance (state : RetransmitTimerState) (id : TcpSessionID) :
    Decidable (state.Stops id) :=
  inferInstanceAs (Decidable (_ ∧ _ ∧ _))

namespace CoverSystem

/-- `not_ackd` of the session with all that was sent. -/
def sentTo (system : CoverSystem) (id : TcpSessionID) : BitVec 32 :=
  if system.tx.looping id then
    system.tx.txSarRspReg.notAckd
  else
    (system.txSar.settled id).notAckd

/-- Everything sent is acknowledged, with the writes on their way. -/
def AllAcked (system : CoverSystem) (id : TcpSessionID) : Prop :=
  (system.txSar.settled id).ackd = system.sentTo id

instance (system : CoverSystem) (id : TcpSessionID) :
    Decidable (system.AllAcked id) :=
  inferInstanceAs (Decidable (_ = _))

/-- The timer is asked for, has just run out, or gives the session up. -/
def Requested (system : CoverSystem) (id : TcpSessionID) : Prop :=
  (∃ req ∈ system.rtimer.setReqs, req.sessionId = id) ∨
    system.TimeoutPending id ∨ id ∈ system.releases

instance (system : CoverSystem) (id : TcpSessionID) :
    Decidable (system.Requested id) :=
  inferInstanceAs (Decidable ((∃ req ∈ _, _) ∨ _ ∨ _))

def Covered (system : CoverSystem) (id : TcpSessionID) : Prop :=
  (system.rtimer.table id).active = true ∨ system.tx.Resending id ∨
    system.Requested id

instance (system : CoverSystem) (id : TcpSessionID) :
    Decidable (system.Covered id) :=
  inferInstanceAs (Decidable (_ ∨ _ ∨ _))

end CoverSystem

/-- The timer stays within its table.  While the session is established and
nothing else covers it: the timer
is not stopped before everything is acknowledged, a repetition without a
segment finds everything acknowledged, a call that sends nothing writes the
pointer that is current, and an acknowledgement is one of all that was
sent. -/
def KeepsCover (id : TcpSessionID) (system : CoverSystem) :
    CoverAction → Prop
  | .retransmitTimer full =>
      (system.rtimer.event full).InTable ∧
        (system.sessionState = .established →
          system.rtimer.Stops id →
            ¬ (system.tx.Resending id ∨ system.Requested id) →
              system.AllAcked id)
  | .txEngTcpFsm =>
      system.sessionState = .established →
        system.tx.fsmState = .transition →
          system.tx.sessionId = id →
            ¬ ((system.rtimer.table id).active = true ∨
                system.Requested id) →
              ∀ rsp,
                system.tx.workingRsp = some rsp →
                  (system.tx.resendsNothing rsp = true →
                    system.AllAcked id) ∧
                  ∀ pointer,
                    system.tx.silentPointer rsp = some pointer →
                      pointer = system.sentTo id
  | .rxEngTcpFsm =>
      system.rx.fsmState = .transition →
        ∀ loaded,
          system.rx.takeAnswers = some loaded →
            loaded.tcpRxMetaReg.sessionId = id →
              loaded.acknowledges = true →
                ¬ system.Covered id →
                  loaded.tcpRxMetaReg.header.ackNumber =
                    system.sentTo id
  | _ => True

-- by the one pointer there is, and not by all the pointers there are
instance (system : CoverSystem) (id : TcpSessionID)
    (rsp : TxSarToTxEngRsp) :
    Decidable
      (∀ pointer,
        system.tx.silentPointer rsp = some pointer →
          pointer = system.sentTo id) :=
  Option.decidableForallMem (system.tx.silentPointer rsp)

instance (id : TcpSessionID) (system : CoverSystem) :
    ∀ action : CoverAction, Decidable (KeepsCover id system action)
  | .retransmitTimer _ =>
      inferInstanceAs (Decidable (_ ∧ (_ → _ → _ → _)))
  | .txEngTcpFsm =>
      inferInstanceAs
        (Decidable
          (_ → _ → _ → _ → ∀ rsp ∈ system.tx.workingRsp, (_ → _) ∧ _))
  | .rxEngTcpFsm =>
      inferInstanceAs
        (Decidable
          (_ → ∀ loaded ∈ system.rx.takeAnswers, _ → _ → _ → _))
  | .txSarTable | .timeout | .release | .sttable _ | .segment _
  | .sttableRsp _ | .rxEngRxSarRsp _ | .txEngRxSarRsp _ | .txAppReq _
  | .event _ => isTrue trivial

end TcpOffload
