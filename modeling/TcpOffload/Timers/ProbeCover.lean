import TcpOffload.Library.Guarded
import TcpOffload.Timers.ProbeTimer
import TcpOffload.TxAppIntf.Transfers
import TcpOffload.TxEngine.Calls
import TcpOffload.TxEngine.LookupPhase
import TcpOffload.TxEngine.OwnAnswers

/-!
# The probe behind unsent data

`TxAppRspHandler`, `tx_sar_table`, `TxEngTcpFsm` and `probe_timer` with the
queues between them, and the state of one session.  The `TX` event of written
data and its `app_written` travel through different queues.
-/

namespace TcpOffload

open Guarded

def TxAppRspMsg.toEventEng : TxAppRspMsg → Option Event
  | .setEvent event => some event
  | .txSarUpdReq _ => none

/-- `appEvents` and `probeEvents` are what the handler and the timer have
written and the event engine has not taken yet.  `sessionState` is the state
of the session under study. -/
structure ProbeSystem where
  rspHandler : TxAppRspState
  tx : TxEngState
  txSar : TxSarTableState
  ptimer : ProbeTimerState
  appEvents : List Event
  probeEvents : List Event
  sessionState : SessionState

/-- A call of one of the modules, an event that moves on, or an input. -/
inductive ProbeAction where
  | txAppRspHandler
  | txEngTcpFsm
  | txSarTable
  | probeTimer (full : Bool)
  | appEvent
  | probeEvent
  | cachedEvent (event : Event)
  | doubleAccessFlag (flag : Bool)
  | writeStatus (status : DataMoverStatus)
  | event (event : EventWithTuple)
  | rxSarRsp (rsp : RxSarLookupRsp)
  | rxEngToTxSar (req : RxEngToTxSarReq)
  | clearProbe (id : TcpSessionID)
  | sttable (state : SessionState)

/-- An entry as the design starts. -/
def TxSarTableEntry.start : TxSarTableEntry :=
  ⟨0, 0, 0, 0, 0, 0, 0, 0, false, false, false⟩

namespace ProbeSystem

def start : ProbeSystem where
  rspHandler := TxAppRspState.start []
  tx := TxEngState.start
  txSar := ⟨fun _ => TxSarTableEntry.start, [], [], []⟩
  ptimer := ProbeTimerState.start
  appEvents := []
  probeEvents := []
  sessionState := .closed

/-- `msgs` of `TxAppRspHandler` reach the table and the event engine. -/
def afterRsp
    (system : ProbeSystem) (rspHandler : TxAppRspState)
    (msgs : List TxAppRspMsg) : ProbeSystem :=
  { system with
    rspHandler := rspHandler
    txSar := system.txSar.queueTxApp (msgs.filterMap TxAppRspMsg.toTxSarUpd)
    appEvents :=
      system.appEvents ++ msgs.filterMap TxAppRspMsg.toEventEng }

/-- What the TX engine asks for reaches the table and the timer. -/
def afterTx (system : ProbeSystem) (tx : TxEngState) (asks : TxAsks) :
    ProbeSystem :=
  { system with
    tx := tx
    txSar := system.txSar.queueTxEng asks.txSarReqs
    ptimer :=
      { system.ptimer with
        setReqs := system.ptimer.setReqs ++ asks.ptimerSets } }

/-- The answers of the table reach the TX engine. -/
def afterTable
    (system : ProbeSystem) (txSar : TxSarTableState)
    (msgs : List TxSarTableMsg) : ProbeSystem :=
  { system with
    tx :=
      { system.tx with
        txSarRsps := system.tx.txSarRsps ++ txSarAnswers msgs }
    txSar := txSar }

def queueEvent (system : ProbeSystem) (event : EventWithTuple) :
    ProbeSystem :=
  { system with
    tx := { system.tx with events := system.tx.events ++ [event] } }

def act (time50ms : BitVec 32) (system : ProbeSystem) :
    ProbeAction → ProbeSystem
  | .txAppRspHandler =>
      let called := TcpOffload.txAppRspHandler system.rspHandler
      system.afterRsp called.1 called.2
  | .txEngTcpFsm =>
      let called := TcpOffload.txEngTcpFsm system.tx
      system.afterTx called.1 (txAsks called.2)
  | .txSarTable =>
      let called := TcpOffload.txSarTable system.txSar
      system.afterTable called.1 called.2
  | .probeTimer full =>
      let called := TcpOffload.probeTimer time50ms full system.ptimer
      { system with
        ptimer := called.1
        probeEvents := system.probeEvents ++ called.2 }
  | .appEvent =>
      match system.appEvents with
      | event :: later =>
          { system with appEvents := later }.queueEvent
            ⟨event, ⟨0, 0, 0, 0⟩⟩
      | [] => system
  | .probeEvent =>
      match system.probeEvents with
      | event :: later =>
          { system with probeEvents := later }.queueEvent
            ⟨event, ⟨0, 0, 0, 0⟩⟩
      | [] => system
  | .cachedEvent event =>
      { system with
        rspHandler :=
          { system.rspHandler with
            eventCache := system.rspHandler.eventCache ++ [event] } }
  | .doubleAccessFlag flag =>
      { system with
        rspHandler :=
          { system.rspHandler with
            doubleAccessFlag :=
              system.rspHandler.doubleAccessFlag ++ [flag] } }
  | .writeStatus status =>
      { system with
        rspHandler :=
          { system.rspHandler with
            writeStatus := system.rspHandler.writeStatus ++ [status] } }
  | .event event => system.queueEvent event
  | .rxSarRsp rsp =>
      { system with
        tx :=
          { system.tx with rxSarRsps := system.tx.rxSarRsps ++ [rsp] } }
  | .rxEngToTxSar req =>
      { system with txSar := system.txSar.queueRxEng [req] }
  | .clearProbe id =>
      { system with
        ptimer :=
          { system.ptimer with
            clearReqs := system.ptimer.clearReqs ++ [id] } }
  | .sttable state => { system with sessionState := state }

/-- No event and no request is on its way, and the machines are idle. -/
structure Quiet (system : ProbeSystem) : Prop where
  eventCache : system.rspHandler.eventCache = []
  eventHeld : system.rspHandler.fsmStatus = .readEv
  appEvents : system.appEvents = []
  probeEvents : system.probeEvents = []
  events : system.tx.events = []
  tx : system.tx.fsmState = .load
  txEngReqs : system.txSar.txEngReqs = []
  txAppReqs : system.txSar.txAppReqs = []
  rxEngReqs : system.txSar.rxEngReqs = []
  clearReqs : system.ptimer.clearReqs = []
  setReqs : system.ptimer.setReqs = []
  setTaken : system.ptimer.waitForWrite = false

/-- Unsent data of the session has its probe. -/
def ProbesUnsent (system : ProbeSystem) (id : TcpSessionID) : Prop :=
  system.Quiet → system.sessionState = .established →
    (system.txSar.table id).notAckd.setWidth 18 ≠
        (system.txSar.table id).appWritten →
      (system.ptimer.table id).active = true

end ProbeSystem

/-- One step of the four modules, or of what surrounds them. -/
def ProbeStep
    (time50ms : BitVec 32) (system : ProbeSystem) (action : ProbeAction)
    (next : ProbeSystem) : Prop :=
  next = system.act time50ms action

/-! ## When the probe is there -/

namespace TxEngState

/-- A `TX` event of the session is in hand. -/
def Transmits (state : TxEngState) (id : TcpSessionID) : Prop :=
  state.fsmState = .transition ∧ state.txEngEventReg.type = .tx ∧
    state.sessionId = id

instance (state : TxEngState) (id : TcpSessionID) :
    Decidable (state.Transmits id) :=
  inferInstanceAs (Decidable (_ ∧ _ ∧ _))

/-- The next call sends the first FIN of the session. -/
def SendsFin (state : TxEngState) (id : TcpSessionID) : Prop :=
  state.fsmState = .transition ∧ state.txEngEventReg.type = .fin ∧
    state.sessionId = id ∧ state.txEngEventReg.retransCnt = 0 ∧
    ∃ rsp ∈ state.workingRsp, rsp.finLeaves 0 = true

instance (state : TxEngState) (id : TcpSessionID) :
    Decidable (state.SendsFin id) :=
  inferInstanceAs (Decidable (_ ∧ _ ∧ _ ∧ _ ∧ ∃ rsp ∈ _, _))

end TxEngState

namespace ProbeSystem

/-- The events on the way to the TX engine. -/
def eventsOnWay (system : ProbeSystem) : List Event :=
  system.appEvents ++ system.probeEvents ++
    system.tx.events.map EventWithTuple.toEvent

/-- A `TX` event or a probe of the session is still to come. -/
def Expected (system : ProbeSystem) (id : TcpSessionID) : Prop :=
  (∃ event ∈ system.eventsOnWay,
      event.type = .tx ∧ event.sessionId = id) ∨
    system.ptimer.Scheduled id

instance (system : ProbeSystem) (id : TcpSessionID) :
    Decidable (system.Expected id) :=
  inferInstanceAs (Decidable ((∃ event ∈ _, _ ∧ _) ∨ _))

/-- The next call of the table answers a `TX` event of the session behind
which nothing sends or probes: nothing is in flight. -/
def AnswersLast (system : ProbeSystem) (id : TcpSessionID) : Prop :=
  system.txSar.txEngReqs.head? = some (TxEngToTxSarReq.lookup id) ∧
    system.tx.Transmits id ∧
    (system.txSar.table id).ackd = (system.txSar.table id).notAckd ∧
    ¬ system.Expected id

instance (system : ProbeSystem) (id : TcpSessionID) :
    Decidable (system.AnswersLast id) :=
  inferInstanceAs (Decidable (_ ∧ _ ∧ _ ∧ ¬ _))

/-- An `app_written` of the session has not reached the table. -/
def WriteWaits (system : ProbeSystem) (id : TcpSessionID) : Prop :=
  ∃ req ∈ system.txSar.txAppReqs, req.sessionId = id

instance (system : ProbeSystem) (id : TcpSessionID) :
    Decidable (system.WriteWaits id) :=
  inferInstanceAs (Decidable (∃ req ∈ _, _))

end ProbeSystem

/-- No `app_written` waits when the table answers the last `TX` event, a
reset is handled with its answer, and the session is not established with a
FIN that was sent. -/
def KeepsExpected (id : TcpSessionID) (system : ProbeSystem) :
    ProbeAction → Prop
  | .txSarTable => system.AnswersLast id → ¬ system.WriteWaits id
  | .txEngTcpFsm =>
      system.tx.ResetsAnswered ∧
        (system.tx.SendsFin id → system.sessionState ≠ .established)
  | .sttable state =>
      state = .established → (system.txSar.settled id).finIsSent = false
  | _ => True

instance (id : TcpSessionID) (system : ProbeSystem) :
    ∀ action : ProbeAction, Decidable (KeepsExpected id system action)
  | .txSarTable => inferInstanceAs (Decidable (_ → ¬ _))
  | .txEngTcpFsm => inferInstanceAs (Decidable (_ ∧ (_ → _)))
  | .sttable _ => inferInstanceAs (Decidable (_ → _))
  | .txAppRspHandler | .probeTimer _ | .appEvent | .probeEvent
  | .cachedEvent _ | .doubleAccessFlag _ | .writeStatus _ | .event _
  | .rxSarRsp _ | .rxEngToTxSar _ | .clearProbe _ => isTrue trivial

end TcpOffload
