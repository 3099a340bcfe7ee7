import TcpOffload.PortTable
import TcpOffload.RxEngine.ParseHeader
import TcpOffload.SessionLookup

/-!
# `RxEngTcpMetaHandler`

The state machine of `rx_engine.cpp` that asks for the session of a segment
when the port is open, and resets the peer when it is closed.
-/

namespace TcpOffload

inductive RxTcpMetaFsmState where
  | metaState
  | lookup
deriving DecidableEq, Repr

structure MetaHandlerState where
  fsmState : RxTcpMetaFsmState
  tcpMetaReg : TcpPseudoHeaderMeta
  ptableRspReg : PtableToRxEngRsp
  tcpMetaDataIn : List TcpPseudoHeaderMeta
  ptableRsps : List PtableToRxEngRsp
  slookupRsps : List SessionLookupRsp
deriving DecidableEq, Repr

/-- The role stands beside the record for `RxEngTcpFsm`, which does not read
it. -/
inductive MetaHandlerMsg where
  | slookupReq (req : RxEngToSlookupReq)
  | fsmMetaData (metaData : RxEngFsmMetaData) (roleId : NetAXISDest)
  | payloadDropped (drop : Bool)
  | payloadTdest (tdest : NetAXISDest)
  | setEvent (event : EventWithTuple)
deriving DecidableEq, Repr

def MetaHandlerMsg.toSlookup : MetaHandlerMsg → Option RxEngToSlookupReq
  | .slookupReq req => some req
  | _ => none

namespace TcpPseudoHeaderMeta

variable (segMeta : TcpPseudoHeaderMeta)

/-- `get_payload_length`: a SYN and a FIN take a sequence number each. -/
def getPayloadLength : BitVec 16 :=
  segMeta.header.payloadLength +
    (BitVec.ofBool segMeta.header.fin).setWidth 16 +
    (BitVec.ofBool segMeta.header.syn).setWidth 16

/-- The reset of a segment to a closed port, `RstEvent(seq)`, which belongs
to no session. -/
def rstEvent : EventWithTuple where
  toEvent :=
    { Event.rst 0
        (segMeta.header.seqNumber +
          segMeta.getPayloadLength.setWidth 32) with
      retransCnt := 0 }
  fourTuple :=
    ⟨segMeta.destIp, segMeta.srcIp, segMeta.destPort, segMeta.srcPort⟩

/-- Only a SYN, with or without ACK, may create a session. -/
def slookupReq (roleId : NetAXISDest) : RxEngToSlookupReq where
  fourTuple :=
    ⟨segMeta.srcIp, segMeta.destIp, segMeta.srcPort, segMeta.destPort⟩
  allowCreation :=
    segMeta.header.syn && !segMeta.header.rst && !segMeta.header.fin
  roleId := roleId

/-- What happens to the payload, if there is any. -/
def payloadMsgs (drop : Bool) (roleId : NetAXISDest) :
    List MetaHandlerMsg :=
  if segMeta.header.payloadLength = 0 then
    []
  else
    [.payloadDropped drop, .payloadTdest roleId]

end TcpPseudoHeaderMeta

namespace MetaHandlerState

def start (segMeta : TcpPseudoHeaderMeta) : MetaHandlerState where
  fsmState := .metaState
  tcpMetaReg := segMeta
  ptableRspReg := ⟨false, 0⟩
  tcpMetaDataIn := []
  ptableRsps := []
  slookupRsps := []

/-- `META`. -/
def takeMeta (state : MetaHandlerState) :
    MetaHandlerState × List MetaHandlerMsg :=
  match state.tcpMetaDataIn, state.ptableRsps with
  | segMeta :: metas, rsp :: rsps =>
      let taken :=
        { state with
          tcpMetaReg := segMeta
          ptableRspReg := rsp
          tcpMetaDataIn := metas
          ptableRsps := rsps }
      if rsp.isOpen then
        ({ taken with fsmState := .lookup },
          [.slookupReq (segMeta.slookupReq rsp.roleId)])
      else
        (taken,
          (if segMeta.header.rst then [] else [.setEvent segMeta.rstEvent]) ++
            segMeta.payloadMsgs true rsp.roleId)
  | _, _ => (state, [])

/-- `LOOKUP`. -/
def takeLookup (state : MetaHandlerState) :
    MetaHandlerState × List MetaHandlerMsg :=
  match state.slookupRsps with
  | rsp :: later =>
      let segMeta := state.tcpMetaReg
      ({ state with fsmState := .metaState, slookupRsps := later },
        (if rsp.hit then
          [.fsmMetaData
            ⟨rsp.sessionId, segMeta.srcIp, segMeta.destPort,
              segMeta.header⟩
            state.ptableRspReg.roleId]
        else
          []) ++
          segMeta.payloadMsgs (!rsp.hit) state.ptableRspReg.roleId)
  | [] => (state, [])

end MetaHandlerState

def rxEngTcpMetaHandler (state : MetaHandlerState) :
    MetaHandlerState × List MetaHandlerMsg :=
  match state.fsmState with
  | .metaState => state.takeMeta
  | .lookup => state.takeLookup

end TcpOffload
