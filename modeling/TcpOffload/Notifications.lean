import TcpOffload.MemoryAccess.StatusHandlers
import TcpOffload.RxEngine.Exits
import TcpOffload.Timers.OwnReleases
import TcpOffload.TxAppIntf.ConnectionHandler

/-!
# The notifications of a session

`RxEngTcpFsm` and the retransmission timer notify the application.  They know
a session by its ID alone; the role that a notification goes to is looked up
when it is forwarded.  The modules of the timers run here beside the two
interfaces of the application.  Every notification has the role that owned
its session when it was made; the modules do not see it.
-/

namespace TcpOffload

open Guarded Tagged

/-! ## `NetAppNotificationTdestHandler` -/

structure TdestHandlerState where
  tdestReqLock : Bool
  notifyReg : AppNotificationNoTDEST
  notifications : List AppNotificationNoTDEST
  tdestRsps : List NetAXISDest
deriving DecidableEq, Repr

inductive TdestHandlerMsg where
  | tdestReq (id : TcpSessionID)
  | netAppNotification
      (data : AppNotificationNoTDEST) (dest : NetAXISDest)
deriving DecidableEq, Repr

def TdestHandlerState.start : TdestHandlerState where
  tdestReqLock := false
  notifyReg := ⟨0, 0, 0, 0, false⟩
  notifications := []
  tdestRsps := []

/-- `NetAppNotificationTdestHandler`: one notification waits for its role at
a time. -/
def netAppNotificationTdestHandler (state : TdestHandlerState) :
    TdestHandlerState × List TdestHandlerMsg :=
  match state.tdestReqLock, state.notifications, state.tdestRsps with
  | false, notification :: later, _ =>
      ({ state with
          notifyReg := notification
          notifications := later
          tdestReqLock := true },
        [.tdestReq notification.sessionId])
  | true, _, dest :: later =>
      ({ state with tdestRsps := later, tdestReqLock := false },
        [.netAppNotification state.notifyReg dest])
  | _, _, _ => (state, [])

/-! ## The modules and the channels between them -/

/-- The role of the connection that has the ID: the reverse table has it, or
will have it when it has executed the insertions on their way. -/
def SlookupState.ownerOf
    (state : SlookupState) (id : TcpSessionID) : Option NetAXISDest :=
  state.reverseTableInsertReqs.foldl
    (fun owner req => if req.key = id then some req.roleValue else owner)
    (if state.validTuple id then
      some (state.slookupRevTable id).roleId
    else
      none)

/-- The messages with the owners of their sessions. -/
def SlookupState.owned {Msg : Type}
    (state : SlookupState) (idOf : Msg → TcpSessionID)
    (msgs : List Msg) : List (Option NetAXISDest × Msg) :=
  msgs.map fun msg => (state.ownerOf (idOf msg), msg)

/-- The queues that the interfaces have for notifications are filled from the
channels before a call, and so is the queue of `RxEngNotificaionHandler`. -/
structure NotifySystem where
  timers : TimerSystem
  dataHandler : NotificaionHandlerState
  tdestHandler : TdestHandlerState
  connHandler : ConnectionHandlerState
  cache : List (Option NetAXISDest × AppNotificationNoTDEST)
  reg1Owner : Option NetAXISDest
  reg2Owner : Option NetAXISDest
  rxEngNotifies : List (Option NetAXISDest × AppNotificationNoTDEST)
  rtimerNotifies : List (Option NetAXISDest × AppNotificationNoTDEST)
  merged : List (Option NetAXISDest × AppNotificationNoTDEST)
  tdestOwner : Option NetAXISDest
  openConns : List (Option NetAXISDest × OpenConnRspNoTDEST)
  openFailures : List (Option NetAXISDest × OpenConnRspNoTDEST)
  newClients : List (Option NetAXISDest × NewClientNotificationNoTDEST)
  connOwner : Option NetAXISDest

/-- What comes from the application, the DataMover and the port table. -/
inductive NotifyInput where
  | writeStatus (status : DataMoverStatus)
  | doubleAccessFlag (flag : Bool)
  | openConn (req : AppOpenConnReq)
  | closeConn (id : TcpSessionID)
  | freePort (port : TcpPortNumber)

inductive NotifyAction where
  | timers (action : TimerAction)
  | rxEngNotificaionHandler
  | axiStreamMerger
  | netAppNotificationTdestHandler
  | txAppConnectionHandler
  | input (input : NotifyInput)

/-- The requests of the interfaces come from the interfaces. -/
def TimerAction.isOpen : TimerAction → Bool
  | .input (.txAppReq _) | .input (.txAppLookup _)
  | .input (.rxAppTdestReq _) | .input (.txAppTdestReq _) => false
  | _ => true

def RxEngMsg.toOpenConn : RxEngMsg → Option OpenConnRspNoTDEST
  | .openConnNotify rsp => some rsp
  | _ => none

def RxEngMsg.toNewClient :
    RxEngMsg → Option NewClientNotificationNoTDEST
  | .newClientNotify client => some client
  | _ => none

def RetransmitTimerMsg.toRxApp :
    RetransmitTimerMsg → Option AppNotificationNoTDEST
  | .rxAppNotify notification => some notification
  | _ => none

def RetransmitTimerMsg.toTxApp :
    RetransmitTimerMsg → Option OpenConnRspNoTDEST
  | .txAppNotify rsp => some rsp
  | _ => none

def StateTableMsg.toConnHandler : StateTableMsg → Option SessionState
  | .txAppRsp state => some state
  | _ => none

def SlookupMsg.toRxAppTdest : SlookupMsg → Option NetAXISDest
  | .rxAppTdestRsp roleId => some roleId
  | _ => none

def TdestHandlerMsg.toTimers : TdestHandlerMsg → Option TimerInput
  | .tdestReq id => some (.rxAppTdestReq id)
  | .netAppNotification _ _ => none

def ConnectionHandlerMsg.toTimers :
    ConnectionHandlerMsg → Option TimerInput
  | .slookupReq req => some (.txAppLookup req)
  | .checkTdestReq id => some (.txAppTdestReq id)
  | .sttableReq req => some (.txAppReq req)
  | _ => none

namespace NotifySystem

def start (table : TcpSessionID → RevTableEntry) : NotifySystem where
  timers := TimerSystem.start table
  dataHandler :=
    ⟨.readNotify, ⟨0, 0, 0, 0, false⟩, ⟨0, 0, 0, 0, false⟩, [], [], []⟩
  tdestHandler := TdestHandlerState.start
  connHandler := ConnectionHandlerState.start
  cache := []
  reg1Owner := none
  reg2Owner := none
  rxEngNotifies := []
  rtimerNotifies := []
  merged := []
  tdestOwner := none
  openConns := []
  openFailures := []
  newClients := []
  connOwner := none

def slookup (system : NotifySystem) : SlookupState :=
  system.timers.slookup

/-- What a step of the timers' modules to `next` sends to the interfaces. -/
def afterTimers
    (times : TimerTimes) (system : NotifySystem) (next : TimerSystem) :
    TimerAction → NotifySystem
  | .rxEngTcpFsm =>
      let msgs := (TcpOffload.rxEngTcpFsm system.timers.rxEng).2
      { system with
        timers := next
        cache :=
          system.cache ++
            system.slookup.owned AppNotificationNoTDEST.sessionId
              (msgs.filterMap RxEngMsg.toRxApp)
        openConns :=
          system.openConns ++
            system.slookup.owned OpenConnRspNoTDEST.sessionId
              (msgs.filterMap RxEngMsg.toOpenConn)
        newClients :=
          system.newClients ++
            system.slookup.owned NewClientNotificationNoTDEST.sessionId
              (msgs.filterMap RxEngMsg.toNewClient) }
  | .retransmitTimer full =>
      let msgs :=
        (TcpOffload.retransmitTimer times full system.timers.fedRtimer).2
      { system with
        timers := next
        rtimerNotifies :=
          system.rtimerNotifies ++
            system.slookup.owned AppNotificationNoTDEST.sessionId
              (msgs.filterMap RetransmitTimerMsg.toRxApp)
        openFailures :=
          system.openFailures ++
            system.slookup.owned OpenConnRspNoTDEST.sessionId
              (msgs.filterMap RetransmitTimerMsg.toTxApp) }
  | .stateTable =>
      let msgs := (TcpOffload.stateTable system.timers.fedSttable).2
      { system with
        timers := next
        connHandler :=
          { system.connHandler with
            sttableRsps :=
              system.connHandler.sttableRsps ++
                msgs.filterMap StateTableMsg.toConnHandler } }
  | .slookup process =>
      let msgs := (process.call system.timers.fedSlookup).2
      { system with
        timers := next
        tdestHandler :=
          { system.tdestHandler with
            tdestRsps :=
              system.tdestHandler.tdestRsps ++
                msgs.filterMap SlookupMsg.toRxAppTdest }
        connHandler :=
          { system.connHandler with
            slookupRsps :=
              system.connHandler.slookupRsps ++
                msgs.filterMap SlookupMsg.toTxApp
            checkTdestRsps :=
              system.connHandler.checkTdestRsps ++
                msgs.filterMap SlookupMsg.toTxAppTdest } }
  | _ => { system with timers := next }

/-! ### The interfaces -/

def fedDataHandler (system : NotifySystem) : NotificaionHandlerState :=
  { system.dataHandler with notificationCache := erase system.cache }

/-- The first register keeps the owner of what is read into it, and the
second one that of the first. -/
def callDataHandler (system : NotifySystem) : NotifySystem :=
  let called := rxEngNotificaionHandler system.fedDataHandler
  let reg1Owner :=
    readTag system.reg1Owner
      (taken system.cache called.1.notificationCache)
  { system with
    dataHandler := called.1
    cache := unread system.cache called.1.notificationCache
    reg1Owner := reg1Owner
    reg2Owner :=
      if system.dataHandler.fsmState = .readStatus1 then
        system.reg1Owner
      else
        system.reg2Owner
    rxEngNotifies :=
      system.rxEngNotifies ++
        send
          (if system.dataHandler.fsmState = .readStatus2 then
            system.reg2Owner
          else
            reg1Owner)
          called.2 }

def callMerger (system : NotifySystem) : NotifySystem :=
  let next :=
    TcpOffload.axiStreamMerger system.rxEngNotifies
      system.rtimerNotifies system.merged
  { system with
    rxEngNotifies := next.1
    rtimerNotifies := next.2.1
    merged := next.2.2 }

def fedTdestHandler (system : NotifySystem) : TdestHandlerState :=
  { system.tdestHandler with notifications := erase system.merged }

def callTdestHandler (system : NotifySystem) : NotifySystem :=
  let called := netAppNotificationTdestHandler system.fedTdestHandler
  { system with
    timers :=
      (called.2.filterMap TdestHandlerMsg.toTimers).foldl
        TimerSystem.receive system.timers
    tdestHandler := called.1
    merged := unread system.merged called.1.notifications
    tdestOwner :=
      readTag system.tdestOwner
        (taken system.merged called.1.notifications) }

def fedConnHandler (system : NotifySystem) : ConnectionHandlerState :=
  { system.connHandler with
    rxEngNotifications := erase system.openConns
    rtimerNotifications := erase system.openFailures
    newClientNotifications := erase system.newClients }

/-- At most one of the three channels is read. -/
def callConnHandler (system : NotifySystem) : NotifySystem :=
  let called := txAppConnectionHandler system.fedConnHandler
  { system with
    timers :=
      (called.2.filterMap ConnectionHandlerMsg.toTimers).foldl
        TimerSystem.receive system.timers
    connHandler := called.1
    openConns := unread system.openConns called.1.rxEngNotifications
    openFailures :=
      unread system.openFailures called.1.rtimerNotifications
    newClients :=
      unread system.newClients called.1.newClientNotifications
    connOwner :=
      readTag
        (readTag
          (readTag system.connOwner
            (taken system.openConns called.1.rxEngNotifications))
          (taken system.openFailures called.1.rtimerNotifications))
        (taken system.newClients called.1.newClientNotifications) }

def receive (system : NotifySystem) : NotifyInput → NotifySystem
  | .writeStatus status =>
      { system with
        dataHandler :=
          { system.dataHandler with
            writeStatus := system.dataHandler.writeStatus ++ [status] } }
  | .doubleAccessFlag flag =>
      { system with
        dataHandler :=
          { system.dataHandler with
            doubleAccessFlag :=
              system.dataHandler.doubleAccessFlag ++ [flag] } }
  | .openConn req =>
      { system with
        connHandler :=
          { system.connHandler with
            openConnReqs := system.connHandler.openConnReqs ++ [req] } }
  | .closeConn id =>
      { system with
        connHandler :=
          { system.connHandler with
            closeConnReqs := system.connHandler.closeConnReqs ++ [id] } }
  | .freePort port =>
      { system with
        connHandler :=
          { system.connHandler with
            ptableRsps := system.connHandler.ptableRsps ++ [port] } }

end NotifySystem

inductive NotifyStep (times : TimerTimes) :
    NotifySystem → NotifyAction → NotifySystem → Prop
  | timers {system : NotifySystem} {action : TimerAction}
      {next : TimerSystem} :
      TimerStep times system.timers action next →
      action.isOpen = true →
      NotifyStep times system (.timers action)
        (system.afterTimers times next action)
  | rxEngNotificaionHandler {system : NotifySystem} :
      NotifyStep times system .rxEngNotificaionHandler
        system.callDataHandler
  | axiStreamMerger {system : NotifySystem} :
      NotifyStep times system .axiStreamMerger system.callMerger
  | netAppNotificationTdestHandler {system : NotifySystem} :
      NotifyStep times system .netAppNotificationTdestHandler
        system.callTdestHandler
  | txAppConnectionHandler {system : NotifySystem} :
      NotifyStep times system .txAppConnectionHandler
        system.callConnHandler
  | input {system : NotifySystem} (input : NotifyInput) :
      NotifyStep times system (.input input) (system.receive input)

/-! ## Who gets a notification -/

/-- The handler waits for the role of a notification. -/
def ConnectionHandlerState.waitsForTdest
    (state : ConnectionHandlerState) : Bool :=
  state.fsmState == .waitForTdestActiveOpen ||
    state.fsmState == .waitForTdestPassiveOpen

def TdestHandlerMsg.dest : TdestHandlerMsg → Option NetAXISDest
  | .tdestReq _ => none
  | .netAppNotification _ dest => some dest

def ConnectionHandlerMsg.dest :
    ConnectionHandlerMsg → Option NetAXISDest
  | .openConnRsp _ dest => some dest
  | .newClient _ dest => some dest
  | _ => none

/-- A notification goes to the role that owned its session when it was
made.  The answers to an open that gets no session are no notifications of a
session. -/
def DeliversToOwner (system : NotifySystem) : NotifyAction → Prop
  | .netAppNotificationTdestHandler =>
      ∀ dest ∈
          (netAppNotificationTdestHandler
            system.fedTdestHandler).2.filterMap TdestHandlerMsg.dest,
        dest ≠ invalidTdest ∧ system.tdestOwner = some dest
  | .txAppConnectionHandler =>
      system.connHandler.waitsForTdest = true →
        ∀ dest ∈
            (txAppConnectionHandler
              system.fedConnHandler).2.filterMap
              ConnectionHandlerMsg.dest,
          dest ≠ invalidTdest ∧ system.connOwner = some dest
  | _ => True

namespace NotifySystem

/-- A notification of the session, made when `owner` owned it, that waits for
its turn to have its role looked up. -/
inductive Waits (system : NotifySystem) :
    Option NetAXISDest → TcpSessionID → Prop
  | cached {owner : Option NetAXISDest}
      {notification : AppNotificationNoTDEST} :
      (owner, notification) ∈ system.cache →
      Waits system owner notification.sessionId
  | reg1 :
      system.dataHandler.fsmState = .readStatus1 →
      Waits system system.reg1Owner
        system.dataHandler.appNotificaionReg1.sessionId
  | reg2 :
      system.dataHandler.fsmState = .readStatus2 →
      Waits system system.reg2Owner
        system.dataHandler.appNotificaionReg2.sessionId
  | rxEng {owner : Option NetAXISDest}
      {notification : AppNotificationNoTDEST} :
      (owner, notification) ∈ system.rxEngNotifies →
      Waits system owner notification.sessionId
  | rtimer {owner : Option NetAXISDest}
      {notification : AppNotificationNoTDEST} :
      (owner, notification) ∈ system.rtimerNotifies →
      Waits system owner notification.sessionId
  | merged {owner : Option NetAXISDest}
      {notification : AppNotificationNoTDEST} :
      (owner, notification) ∈ system.merged →
      Waits system owner notification.sessionId
  | openConn {owner : Option NetAXISDest}
      {rsp : OpenConnRspNoTDEST} :
      (owner, rsp) ∈ system.openConns →
      Waits system owner rsp.sessionId
  | openFailure {owner : Option NetAXISDest}
      {rsp : OpenConnRspNoTDEST} :
      (owner, rsp) ∈ system.openFailures →
      Waits system owner rsp.sessionId
  | newClient {owner : Option NetAXISDest}
      {client : NewClientNotificationNoTDEST} :
      (owner, client) ∈ system.newClients →
      Waits system owner client.sessionId

end NotifySystem

/-- The sessions that a message of the RX engine notifies of. -/
def RxEngMsg.notifies : RxEngMsg → Option TcpSessionID
  | .rxAppNotify notification => some notification.sessionId
  | .openConnNotify rsp => some rsp.sessionId
  | .newClientNotify client => some client.sessionId
  | _ => none

/-- A role has the session. -/
def SlookupState.HasOwner
    (state : SlookupState) (id : TcpSessionID) : Prop :=
  ∃ role, role ≠ invalidTdest ∧ state.ownerOf id = some role

/-- A notification is made of a session that has an owner, and the reverse
table releases no session of which a notification waits. -/
def KeepsOwners (system : NotifySystem) : NotifyAction → Prop
  | .timers .rxEngTcpFsm =>
      ∀ id ∈
          (rxEngTcpFsm system.timers.rxEng).2.filterMap RxEngMsg.notifies,
        system.slookup.HasOwner id
  | .timers (.retransmitTimer full) =>
      ∀ id ∈ system.timers.fedRtimer.givesUp full,
        system.slookup.HasOwner id
  | .timers (.slookup .slookupReverseTableInterface) =>
      ∀ id ∈ system.timers.fedSlookup.nextRelease,
        ∀ owner, ¬ system.Waits owner id
  | _ => True

end TcpOffload
