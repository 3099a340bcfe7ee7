import TcpOffload.PortTable
import TcpOffload.SessionLookup

/-!
# `TxAppConnectionHandler`

The state machine of `tx_app_intf.cpp` that opens and closes connections for
the application.  One call first asks for a free port, or for the session of
the port that it got, and then takes one of its other inputs.
-/

namespace TcpOffload

structure AppOpenConnReq where
  myIpAddr : IpAddr
  ipAddr : IpAddr
  tcpPort : TcpPortNumber
  dest : NetAXISDest
deriving DecidableEq, Repr

inductive TxAppConnFsmState where
  | idle
  | closeConn
  | waitForTdestActiveOpen
  | waitForTdestPassiveOpen
deriving DecidableEq, Repr

structure ConnectionHandlerState where
  appOpenReqReg : AppOpenConnReq
  waitForFreePortLock : Bool
  fsmState : TxAppConnFsmState
  passiveOpenSessionReg : NewClientNotificationNoTDEST
  openSessionReg : OpenConnRspNoTDEST
  appCloseSessionReg : TcpSessionID
  openConnReqs : List AppOpenConnReq
  closeConnReqs : List TcpSessionID
  newClientNotifications : List NewClientNotificationNoTDEST
  rxEngNotifications : List OpenConnRspNoTDEST
  rtimerNotifications : List OpenConnRspNoTDEST
  slookupRsps : List SessionLookupRsp
  checkTdestRsps : List NetAXISDest
  ptableRsps : List TcpPortNumber
  sttableRsps : List SessionState
deriving DecidableEq, Repr

inductive ConnectionHandlerMsg where
  | ptableReq (dest : NetAXISDest)
  | slookupReq (req : TxAppToSlookupReq)
  | checkTdestReq (id : TcpSessionID)
  | sttableReq (req : StateTableReq)
  | setEvent (event : Event)
  | openConnRsp (rsp : OpenConnRspNoTDEST) (dest : NetAXISDest)
  | newClient
      (notification : NewClientNotificationNoTDEST) (dest : NetAXISDest)
deriving DecidableEq, Repr

/-- The session lookup of an active open.  The tuple has its ports in network
order. -/
def AppOpenConnReq.slookupReq
    (req : AppOpenConnReq) (freePort : TcpPortNumber) :
    TxAppToSlookupReq :=
  ⟨⟨req.myIpAddr, req.ipAddr, swapByte freePort, req.tcpPort⟩, req.dest⟩

namespace ConnectionHandlerState

def start : ConnectionHandlerState where
  appOpenReqReg := ⟨0, 0, 0, 0⟩
  waitForFreePortLock := false
  fsmState := .idle
  passiveOpenSessionReg := ⟨0, 0, 0, false, false⟩
  openSessionReg := ⟨0, false⟩
  appCloseSessionReg := 0
  openConnReqs := []
  closeConnReqs := []
  newClientNotifications := []
  rxEngNotifications := []
  rtimerNotifications := []
  slookupRsps := []
  checkTdestRsps := []
  ptableRsps := []
  sttableRsps := []

/-- The first part of a call: one active open waits for its port at a
time. -/
def requestFreePort (state : ConnectionHandlerState) :
    ConnectionHandlerState × List ConnectionHandlerMsg :=
  match state.waitForFreePortLock, state.openConnReqs,
    state.ptableRsps with
  | false, req :: later, _ =>
      ({ state with
          appOpenReqReg := req
          waitForFreePortLock := true
          openConnReqs := later },
        [.ptableReq req.dest])
  | true, _, freePort :: later =>
      ({ state with waitForFreePortLock := false, ptableRsps := later },
        [.slookupReq (state.appOpenReqReg.slookupReq freePort)])
  | _, _, _ => (state, [])

/-- `IDLE`. -/
def takeIdle (state : ConnectionHandlerState) :
    ConnectionHandlerState × List ConnectionHandlerMsg :=
  match state.slookupRsps, state.rxEngNotifications,
    state.rtimerNotifications, state.newClientNotifications,
    state.closeConnReqs with
  | rsp :: later, _, _, _, _ =>
      ({ state with slookupRsps := later },
        if rsp.hit then
          [.setEvent (Event.plain .syn rsp.sessionId),
            .sttableReq (StateTableReq.update rsp.sessionId .synSent)]
        else
          [.openConnRsp ⟨rsp.sessionId, false⟩ rsp.roleId])
  | [], notification :: later, _, _, _ =>
      ({ state with
          fsmState := .waitForTdestActiveOpen
          openSessionReg := notification
          rxEngNotifications := later },
        [.checkTdestReq notification.sessionId])
  | [], [], notification :: later, _, _ =>
      ({ state with
          fsmState := .waitForTdestActiveOpen
          openSessionReg := notification
          rtimerNotifications := later },
        [.checkTdestReq notification.sessionId])
  | [], [], [], notification :: later, _ =>
      ({ state with
          fsmState := .waitForTdestPassiveOpen
          passiveOpenSessionReg := notification
          newClientNotifications := later },
        [.checkTdestReq notification.sessionId])
  | [], [], [], [], id :: later =>
      ({ state with
          fsmState := .closeConn
          appCloseSessionReg := id
          closeConnReqs := later },
        [.sttableReq (StateTableReq.lookup id)])
  | [], [], [], [], [] => (state, [])

/-- `WAIT_FOR_TDEST_ACTIVE_OPEN`. -/
def takeTdestActiveOpen (state : ConnectionHandlerState) :
    ConnectionHandlerState × List ConnectionHandlerMsg :=
  match state.checkTdestRsps with
  | dest :: later =>
      ({ state with fsmState := .idle, checkTdestRsps := later },
        [.openConnRsp state.openSessionReg dest])
  | [] => (state, [])

/-- `WAIT_FOR_TDEST_PASSIVE_OPEN`. -/
def takeTdestPassiveOpen (state : ConnectionHandlerState) :
    ConnectionHandlerState × List ConnectionHandlerMsg :=
  match state.checkTdestRsps with
  | dest :: later =>
      ({ state with fsmState := .idle, checkTdestRsps := later },
        [.newClient state.passiveOpenSessionReg dest])
  | [] => (state, [])

/-- `CLOSE_CONN`.  The write gives the lock of the lookup back. -/
def takeCloseConn (state : ConnectionHandlerState) :
    ConnectionHandlerState × List ConnectionHandlerMsg :=
  let id := state.appCloseSessionReg
  match state.sttableRsps with
  | rsp :: later =>
      ({ state with fsmState := .idle, sttableRsps := later },
        if rsp = .established ∨ rsp = .finWait1 then
          [.setEvent (Event.plain .fin id),
            .sttableReq (StateTableReq.update id .finWait1)]
        else
          [.sttableReq (StateTableReq.update id rsp)])
  | [] => (state, [])

/-- The second part of a call. -/
def takeNext (state : ConnectionHandlerState) :
    ConnectionHandlerState × List ConnectionHandlerMsg :=
  match state.fsmState with
  | .idle => state.takeIdle
  | .waitForTdestActiveOpen => state.takeTdestActiveOpen
  | .waitForTdestPassiveOpen => state.takeTdestPassiveOpen
  | .closeConn => state.takeCloseConn

end ConnectionHandlerState

def txAppConnectionHandler (state : ConnectionHandlerState) :
    ConnectionHandlerState × List ConnectionHandlerMsg :=
  let opened := state.requestFreePort
  let taken := opened.1.takeNext
  (taken.1, opened.2 ++ taken.2)

def SlookupMsg.toTxApp : SlookupMsg → Option SessionLookupRsp
  | .txAppRsp rsp => some rsp
  | _ => none

def SlookupMsg.toTxAppTdest : SlookupMsg → Option NetAXISDest
  | .txAppTdestRsp roleId => some roleId
  | _ => none

end TcpOffload
