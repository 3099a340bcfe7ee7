import Mathlib.Logic.Function.Basic
import TcpOffload.AxiWord
import TcpOffload.Conn

/-!
# The session lookup controller

`session_lookup_controller.cpp`: five processes that ask the CAM for the
session of a four-tuple, create a session for a new one, and give the session
ID back when the session is released.  The configured build has
`MULTI_IP_ADDR` on, so that a CAM key is a four-tuple.
-/

namespace TcpOffload

def invalidTdest : NetAXISDest := 0xF

/-- The session IDs of the free list, `ap_uint<14>`. -/
abbrev FreeSessionID := BitVec 14

abbrev CamTuple := FourTuple

inductive SlookupSource where
  | rx
  | txApp
deriving DecidableEq, Repr

inductive SlookupOp where
  | insert
  | delete
deriving DecidableEq, Repr

structure RtlSlookupToCamLupReq where
  key : CamTuple
  source : SlookupSource
deriving DecidableEq, Repr

structure RtlSlookupToCamUpdReq where
  op : SlookupOp
  key : CamTuple
  value : TcpSessionID
  source : SlookupSource
deriving DecidableEq, Repr

structure RtlCamToSlookupLupRsp where
  key : CamTuple
  sessionId : TcpSessionID
  hit : Bool
  source : SlookupSource
deriving DecidableEq, Repr

structure RtlCamToSlookupUpdRsp where
  op : SlookupOp
  key : CamTuple
  sessionId : TcpSessionID
  success : Bool
  source : SlookupSource
deriving DecidableEq, Repr

structure RxEngToSlookupReq where
  fourTuple : FourTuple
  allowCreation : Bool
  roleId : NetAXISDest
deriving DecidableEq, Repr

structure TxAppToSlookupReq where
  fourTuple : FourTuple
  roleId : NetAXISDest
deriving DecidableEq, Repr

structure SessionLookupRsp where
  sessionId : TcpSessionID
  hit : Bool
  roleId : NetAXISDest
deriving DecidableEq, Repr

structure ReverseTableToTxEngRsp where
  fourTuple : FourTuple
  roleId : NetAXISDest
deriving DecidableEq, Repr

structure RevTableEntry where
  tuple : CamTuple
  roleId : NetAXISDest
deriving DecidableEq, Repr

structure SlookupReqInternal where
  tuple : CamTuple
  allowCreation : Bool
  source : SlookupSource
  roleId : NetAXISDest
deriving DecidableEq, Repr

structure SlookupToRevTableUpdReq where
  key : TcpSessionID
  tupleValue : CamTuple
  roleValue : NetAXISDest
deriving DecidableEq, Repr

inductive SlookupFsmState where
  | lupReq
  | lupRsp
  | updRsp
deriving DecidableEq, Repr

/-- The registers and tables of the five processes and the FIFOs between
them, and behind these the FIFOs that come from other modules. -/
structure SlookupState where
  curSessionId : FreeSessionID
  toCamReqCache : SlookupReqInternal
  toCamReqCacheValid : Bool
  toRevTableReqCache : RevTableEntry
  toRevTableReqCacheValid : Bool
  slcFsmState : SlookupFsmState
  usedSessionIdCnt : BitVec 16
  regSessionCnt : BitVec 16
  slookupRevTable : TcpSessionID → RevTableEntry
  validTuple : TcpSessionID → Bool
  availableIds : List FreeSessionID
  releasedIds : List FreeSessionID
  camInsertReqs : List RtlSlookupToCamUpdReq
  camDeleteReqs : List RtlSlookupToCamUpdReq
  camInsertRsps : List RtlCamToSlookupUpdRsp
  reverseTableInsertReqs : List SlookupToRevTableUpdReq
  rxEngReqs : List RxEngToSlookupReq
  txAppReqs : List TxAppToSlookupReq
  camLupRsps : List RtlCamToSlookupLupRsp
  camUpdRsps : List RtlCamToSlookupUpdRsp
  sttableReleaseReqs : List TcpSessionID
  rxAppTdestReqs : List TcpSessionID
  txAppTdestReqs : List TcpSessionID
  txEngRevTableReqs : List TcpSessionID

inductive SlookupMsg where
  | rxEngRsp (rsp : SessionLookupRsp)
  | txAppRsp (rsp : SessionLookupRsp)
  | camLupReq (req : RtlSlookupToCamLupReq)
  | camUpdReq (req : RtlSlookupToCamUpdReq)
  | txEngRsp (rsp : ReverseTableToTxEngRsp)
  | rxAppTdestRsp (roleId : NetAXISDest)
  | txAppTdestRsp (roleId : NetAXISDest)
  | releasePort (port : TcpPortNumber)
deriving DecidableEq, Repr

namespace SlookupState

/-- The controller as the design starts, over any contents of the reverse
table. -/
def start (table : TcpSessionID → RevTableEntry) : SlookupState where
  curSessionId := 0
  toCamReqCache := ⟨⟨0, 0, 0, 0⟩, false, .rx, invalidTdest⟩
  toCamReqCacheValid := false
  toRevTableReqCache := ⟨⟨0, 0, 0, 0⟩, invalidTdest⟩
  toRevTableReqCacheValid := false
  slcFsmState := .lupReq
  usedSessionIdCnt := 0
  regSessionCnt := 0
  slookupRevTable := table
  validTuple := fun _ => false
  availableIds := []
  releasedIds := []
  camInsertReqs := []
  camDeleteReqs := []
  camInsertRsps := []
  reverseTableInsertReqs := []
  rxEngReqs := []
  txAppReqs := []
  camLupRsps := []
  camUpdRsps := []
  sttableReleaseReqs := []
  rxAppTdestReqs := []
  txAppTdestReqs := []
  txEngRevTableReqs := []

end SlookupState

/-- `GetNewAvailableSessionId`. -/
def getNewAvailableSessionId (state : SlookupState) : SlookupState :=
  match state.releasedIds with
  | id :: later =>
      { state with
        releasedIds := later
        availableIds := state.availableIds ++ [id] }
  | [] =>
      if state.curSessionId.toNat < tcpMaxSessions then
        { state with
          availableIds := state.availableIds ++ [state.curSessionId]
          curSessionId := state.curSessionId + 1 }
      else
        state

/-- An answer goes to whom the CAM's answer names. -/
def rspTo (source : SlookupSource) (rsp : SessionLookupRsp) : SlookupMsg :=
  match source with
  | .rx => .rxEngRsp rsp
  | .txApp => .txAppRsp rsp

namespace SlookupState

/-- The lookup in the CAM of a request that has been taken. -/
def lookUp (state : SlookupState) (req : SlookupReqInternal) :
    SlookupState × List SlookupMsg :=
  ({ state with
      toCamReqCache := req
      toCamReqCacheValid := true
      slcFsmState := .lupRsp },
    [.camLupReq ⟨req.tuple, req.source⟩])

/-- `LUP_REQ`. -/
def takeLupReq (state : SlookupState) : SlookupState × List SlookupMsg :=
  match state.txAppReqs with
  | req :: later =>
      { state with txAppReqs := later }.lookUp
        ⟨req.fourTuple, true, .txApp, req.roleId⟩
  | [] =>
      match state.rxEngReqs with
      | req :: later =>
          -- The source of a segment is the destination of its session.
          { state with rxEngReqs := later }.lookUp
            ⟨⟨req.fourTuple.dstIpAddr, req.fourTuple.srcIpAddr,
                req.fourTuple.dstTcpPort, req.fourTuple.srcTcpPort⟩,
              req.allowCreation, .rx, req.roleId⟩
      | [] => (state, [])

/-- `LUP_RSP`: a session for a tuple without one, if the request allows it
and an ID is free. -/
def takeLupRsp (state : SlookupState) : SlookupState × List SlookupMsg :=
  match state.camLupRsps, state.toCamReqCacheValid with
  | rsp :: later, true =>
      let cache := state.toCamReqCache
      let taken :=
        { state with camLupRsps := later, toCamReqCacheValid := false }
      match !rsp.hit && cache.allowCreation, state.availableIds with
      | true, id :: ids =>
          ({ taken with
              availableIds := ids
              camInsertReqs :=
                state.camInsertReqs ++
                  [⟨.insert, cache.tuple, id.setWidth 16, rsp.source⟩]
              toRevTableReqCache := ⟨cache.tuple, cache.roleId⟩
              toRevTableReqCacheValid := true
              slcFsmState := .updRsp },
            [])
      | _, _ =>
          ({ taken with slcFsmState := .lupReq },
            [rspTo rsp.source ⟨rsp.sessionId, rsp.hit, cache.roleId⟩])
  | _, _ => (state, [])

/-- `UPD_RSP`. -/
def takeUpdRsp (state : SlookupState) : SlookupState × List SlookupMsg :=
  match state.camInsertRsps, state.toRevTableReqCacheValid with
  | rsp :: later, true =>
      let cache := state.toRevTableReqCache
      ({ state with
          camInsertRsps := later
          toRevTableReqCacheValid := false
          reverseTableInsertReqs :=
            state.reverseTableInsertReqs ++
              [⟨rsp.sessionId, cache.tuple, cache.roleId⟩]
          slcFsmState := .lupReq },
        [rspTo rsp.source ⟨rsp.sessionId, true, cache.roleId⟩])
  | _, _ => (state, [])

end SlookupState

/-- `CamLookupRspHandler`. -/
def camLookupRspHandler (state : SlookupState) :
    SlookupState × List SlookupMsg :=
  match state.slcFsmState with
  | .lupReq => state.takeLupReq
  | .lupRsp => state.takeLupRsp
  | .updRsp => state.takeUpdRsp

/-- `CamUpdateReqSender`. -/
def camUpdateReqSender (state : SlookupState) :
    SlookupState × List SlookupMsg :=
  match state.camInsertReqs with
  | req :: later =>
      ({ state with
          camInsertReqs := later
          usedSessionIdCnt := state.usedSessionIdCnt + 1
          regSessionCnt := state.usedSessionIdCnt + 1 },
        [.camUpdReq req])
  | [] =>
      match state.camDeleteReqs with
      | req :: later =>
          ({ state with
              camDeleteReqs := later
              releasedIds := state.releasedIds ++ [req.value.setWidth 14]
              usedSessionIdCnt := state.usedSessionIdCnt - 1
              regSessionCnt := state.usedSessionIdCnt - 1 },
            [.camUpdReq req])
      | [] => (state, [])

/-- `CamUpdateRspHandler`. -/
def camUpdateRspHandler (state : SlookupState) : SlookupState :=
  match state.camUpdRsps with
  | rsp :: later =>
      if rsp.op = .insert then
        { state with
          camUpdRsps := later
          camInsertRsps := state.camInsertRsps ++ [rsp] }
      else
        { state with camUpdRsps := later }
  | [] => state

namespace SlookupState

/-- The role of a session that is valid. -/
def tdestOf (state : SlookupState) (id : TcpSessionID) : NetAXISDest :=
  if state.validTuple id then
    (state.slookupRevTable id).roleId
  else
    invalidTdest

/-- A session is released once; later requests for it have no effect. -/
def release (state : SlookupState) (id : TcpSessionID) :
    SlookupState × List SlookupMsg :=
  let tuple := (state.slookupRevTable id).tuple
  let invalid :=
    { state with validTuple := Function.update state.validTuple id false }
  if state.validTuple id then
    ({ invalid with
        camDeleteReqs :=
          state.camDeleteReqs ++ [⟨.delete, tuple, id, .rx⟩] },
      [.releasePort (swapByte tuple.srcTcpPort)])
  else
    (invalid, [])

end SlookupState

/-- `SlookupReverseTableInterface`. -/
def slookupReverseTableInterface (state : SlookupState) :
    SlookupState × List SlookupMsg :=
  match state.reverseTableInsertReqs, state.txEngRevTableReqs,
    state.rxAppTdestReqs, state.txAppTdestReqs,
    state.sttableReleaseReqs with
  | req :: later, _, _, _, _ =>
      ({ state with
          reverseTableInsertReqs := later
          slookupRevTable :=
            Function.update state.slookupRevTable req.key
              ⟨req.tupleValue, req.roleValue⟩
          validTuple := Function.update state.validTuple req.key true },
        [])
  | [], id :: later, _, _, _ =>
      let entry := state.slookupRevTable id
      ({ state with txEngRevTableReqs := later },
        [.txEngRsp ⟨entry.tuple, entry.roleId⟩])
  | [], [], id :: later, _, _ =>
      ({ state with rxAppTdestReqs := later },
        [.rxAppTdestRsp (state.tdestOf id)])
  | [], [], [], id :: later, _ =>
      ({ state with txAppTdestReqs := later },
        [.txAppTdestRsp (state.tdestOf id)])
  | [], [], [], [], id :: later =>
      { state with sttableReleaseReqs := later }.release id
  | [], [], [], [], [] => (state, [])

end TcpOffload
