import TcpOffload.AxiWord
import TcpOffload.MemoryAccess
import TcpOffload.RxSarTable

/-!
# The RX application interface

`RxAppDataHandler` of `rx_app_intf.cpp`: a read request of the application is
looked up in the RX SAR table, moves `app_read`, and is answered with the
data from memory.  One request is served at a time.
-/

namespace TcpOffload

structure AppReadReq where
  sessionId : TcpSessionID
  readLength : BitVec 16
  dest : BitVec 4
deriving DecidableEq, Repr

inductive RxAppDataFsmState where
  | waitNetAppDataReq
  | waitSarRsp
  | waitData
deriving DecidableEq, Repr

structure RxAppDataState where
  fsmState : RxAppDataFsmState
  rxAppReadLength : BitVec 16
  rxAppRoleId : BitVec 4
  recvDataReqs : List AppReadReq
  rxSarRsps : List RxSarAppReqRsp
  readData : List NetAXISWord
deriving DecidableEq, Repr

/-- The registers as the design starts. -/
def RxAppDataState.start : RxAppDataState where
  fsmState := .waitNetAppDataReq
  rxAppReadLength := 0
  rxAppRoleId := 0
  recvDataReqs := []
  rxSarRsps := []
  readData := []

inductive RxAppDataMsg where
  | rxSarReq (req : RxSarAppReqRsp)
  | recvDataRsp (id : TcpSessionID) (dest : BitVec 4)
  | memReadCmd (cmd : MemBufferRWCmd)
  | recvData (word : NetAXISWord)
deriving DecidableEq, Repr

/-- `RxAppDataHandler`.  A request for no bytes is dropped. -/
def rxAppDataHandler (state : RxAppDataState) :
    RxAppDataState × List RxAppDataMsg :=
  match state.fsmState with
  | .waitNetAppDataReq =>
      match state.recvDataReqs with
      | req :: later =>
          if req.readLength ≠ 0 then
            ({ state with
                fsmState := .waitSarRsp
                rxAppReadLength := req.readLength
                rxAppRoleId := req.dest
                recvDataReqs := later },
              [.rxSarReq (RxSarAppReqRsp.lookup req.sessionId)])
          else
            ({ state with recvDataReqs := later }, [])
      | [] => (state, [])
  | .waitSarRsp =>
      match state.rxSarRsps with
      | rsp :: later =>
          ({ state with fsmState := .waitData, rxSarRsps := later },
            [.recvDataRsp rsp.sessionId state.rxAppRoleId,
              .rxSarReq
                (RxSarAppReqRsp.update rsp.sessionId
                  (rsp.appRead + state.rxAppReadLength.setWidth 18)),
              .memReadCmd
                (MemBufferRWCmd.ofAddr
                  (getSessionMemAddr .rx rsp.sessionId rsp.appRead)
                  state.rxAppReadLength)])
      | [] => (state, [])
  | .waitData =>
      match state.readData with
      | word :: later =>
          ({ state with
              fsmState :=
                if word.last then .waitNetAppDataReq else .waitData
              readData := later },
            [.recvData { word with dest := state.rxAppRoleId }])
      | [] => (state, [])

end TcpOffload
