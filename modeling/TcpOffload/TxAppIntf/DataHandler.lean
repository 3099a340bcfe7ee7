import Mathlib.Logic.Function.Basic
import TcpOffload.MemoryAccess.SessionRing
import TcpOffload.TxAppIntf

/-!
# `TxAppDataHandler` and `TxAppTableInterface`

The state machine of `tx_app_intf.cpp` that grants or refuses a transfer
request, and the table that it asks for the free space.  It takes the next
request when the last beat of the data of the granted one has passed.
-/

namespace TcpOffload

/-! ## `TxAppTableInterface` -/

structure TxAppToTxAppTableReq where
  sessionId : TcpSessionID
  appWrittenIdeal : TcpSessionBuffer
  write : Bool
deriving DecidableEq, Repr

namespace TxAppToTxAppTableReq

def lookup (id : TcpSessionID) : TxAppToTxAppTableReq :=
  ⟨id, 0, false⟩

def update
    (id : TcpSessionID) (appWrittenIdeal : TcpSessionBuffer) :
    TxAppToTxAppTableReq :=
  ⟨id, appWrittenIdeal, true⟩

end TxAppToTxAppTableReq

structure TxAppTableToTxAppRsp where
  sessionId : TcpSessionID
  ackd : TcpSessionBuffer
  appWrittenIdeal : TcpSessionBuffer
deriving DecidableEq, Repr

/-- The entry as it was when the lookup was answered. -/
def TxAppTableToTxAppRsp.entry
    (rsp : TxAppTableToTxAppRsp) : TxAppTableEntry :=
  ⟨rsp.ackd, rsp.appWrittenIdeal⟩

structure TxAppTableState where
  table : TcpSessionID → TxAppTableEntry
  txSarUpdReqs : List TxSarToTxAppReq
  tableReqs : List TxAppToTxAppTableReq

/-- `TxAppTableInterface`: an update from the TX SAR table goes first. -/
def txAppTableInterface (state : TxAppTableState) :
    TxAppTableState × List TxAppTableToTxAppRsp :=
  match state.txSarUpdReqs, state.tableReqs with
  | req :: later, _ =>
      ({ state with
          table :=
            Function.update state.table req.sessionId
              ((state.table req.sessionId).txSarUpdate req)
          txSarUpdReqs := later }, [])
  | [], req :: later =>
      let entry := state.table req.sessionId
      if req.write then
        ({ state with
            table :=
              Function.update state.table req.sessionId
                { entry with appWrittenIdeal := req.appWrittenIdeal }
            tableReqs := later }, [])
      else
        ({ state with tableReqs := later },
          [⟨req.sessionId, entry.ackd, entry.appWrittenIdeal⟩])
  | [], [] => (state, [])

/-- What one call of the table does. -/
inductive TxAppTableCall (state : TxAppTableState) :
    TxAppTableState → List TxAppTableToTxAppRsp → Prop
  | idle : TxAppTableCall state state []
  | txSarUpdate {req : TxSarToTxAppReq} {later : List TxSarToTxAppReq} :
      state.txSarUpdReqs = req :: later →
      TxAppTableCall state
        { state with
          table :=
            Function.update state.table req.sessionId
              ((state.table req.sessionId).txSarUpdate req)
          txSarUpdReqs := later }
        []
  | write {req : TxAppToTxAppTableReq}
      {later : List TxAppToTxAppTableReq} :
      state.tableReqs = req :: later →
      req.write = true →
      TxAppTableCall state
        { state with
          table :=
            Function.update state.table req.sessionId
              { state.table req.sessionId with
                appWrittenIdeal := req.appWrittenIdeal }
          tableReqs := later }
        []
  | lookup {req : TxAppToTxAppTableReq}
      {later : List TxAppToTxAppTableReq} :
      state.tableReqs = req :: later →
      req.write = false →
      TxAppTableCall state
        { state with tableReqs := later }
        [⟨req.sessionId, (state.table req.sessionId).ackd,
          (state.table req.sessionId).appWrittenIdeal⟩]

theorem txAppTableInterface_call (state : TxAppTableState) :
    TxAppTableCall state (txAppTableInterface state).1
      (txAppTableInterface state).2 := by
  rw [txAppTableInterface]
  split
  · rename_i req later updates
    exact TxAppTableCall.txSarUpdate updates
  · rename_i req later _ requests
    cases isWrite : req.write with
    | true =>
        exact TxAppTableCall.write requests isWrite
    | false =>
        exact TxAppTableCall.lookup requests isWrite
  · exact TxAppTableCall.idle

/-! ## `TxAppDataHandler` -/

structure AppTransDataReq where
  data : TcpSessionBuffer
  id : TcpSessionID
  dest : NetAXISDest
deriving DecidableEq, Repr

inductive TxAppTransDataError where
  | noError
  | errorNoconnection
  | errorNospace
  | errorWindow
deriving DecidableEq, Repr

structure AppTransDataRspNoTDEST where
  error : TxAppTransDataError
  remainingSpace : TcpSessionBuffer
  length : BitVec 16
deriving DecidableEq, Repr

structure AppTransDataRsp where
  data : AppTransDataRspNoTDEST
  dest : NetAXISDest
deriving DecidableEq, Repr

/-- The response to a request; its length member has 16 bits. -/
def AppTransDataReq.rsp
    (req : AppTransDataReq) (error : TxAppTransDataError)
    (remainingSpace : TcpSessionBuffer) : AppTransDataRsp :=
  ⟨⟨error, remainingSpace, req.data.setWidth 16⟩, req.dest⟩

inductive TxAppDataFsmState where
  | readRequest
  | readMeta
  | readData
deriving DecidableEq, Repr

structure TxAppDataState where
  fsmState : TxAppDataFsmState
  transDataLock : Bool
  transDataReq : AppTransDataReq
  txAppTableRsp : TxAppTableToTxAppRsp
  maxWriteLength : TcpSessionBuffer
  transDataReqs : List AppTransDataReq
  transData : List NetAXISWord
  tableRsps : List TxAppTableToTxAppRsp
  sttableRsps : List SessionState
deriving DecidableEq, Repr

inductive TxAppDataMsg where
  | sttableLupReq (id : TcpSessionID)
  | tableReq (req : TxAppToTxAppTableReq)
  | transDataRsp (rsp : AppTransDataRsp)
  | moverWriteCmd (cmd : MemBufferRWCmd)
  | setEvent (event : Event)
  | moverWriteData (word : NetAXISWord)
deriving DecidableEq, Repr

/-- What is written for a request that is granted on the entry `entry`. -/
def AppTransDataReq.grantMsgs
    (req : AppTransDataReq) (entry : TxAppTableEntry) :
    List TxAppDataMsg :=
  [.moverWriteCmd
      (sessionCmd .tx req.id entry.appWrittenIdeal
        (req.data.setWidth 16)),
    .setEvent (entry.txEvent req.id req.data),
    .tableReq
      (TxAppToTxAppTableReq.update req.id
        (entry.appWrittenIdeal + req.data)),
    .transDataRsp (req.rsp .noError entry.maxWriteLength)]

/-- `TxAppDataHandler`, compiled without `TCP_NODELAY`. -/
def txAppDataHandler (state : TxAppDataState) :
    TxAppDataState × List TxAppDataMsg :=
  match state.fsmState with
  | .readRequest =>
      match state.transDataReqs with
      | [] => (state, [])
      | req :: later =>
          if state.transDataLock then
            (state, [])
          else
            ({ state with
                transDataReq := req
                transDataReqs := later
                transDataLock := true
                fsmState := .readMeta },
              [.sttableLupReq req.id,
                .tableReq (TxAppToTxAppTableReq.lookup req.id)])
  | .readMeta =>
      match state.sttableRsps, state.tableRsps with
      | curSessionState :: laterStates, rsp :: laterRsps =>
          if state.transDataLock then
            let req := state.transDataReq
            let maxWriteLength := rsp.entry.maxWriteLength
            let next :=
              { state with
                sttableRsps := laterStates
                tableRsps := laterRsps
                txAppTableRsp := rsp
                maxWriteLength := maxWriteLength }
            let refused :=
              { next with
                fsmState := .readRequest
                transDataLock := false }
            if curSessionState ≠ .established then
              (refused,
                [.transDataRsp
                  (req.rsp .errorNoconnection maxWriteLength)])
            else if maxWriteLength < req.data then
              (refused,
                [.transDataRsp (req.rsp .errorNospace maxWriteLength)])
            else
              ({ next with fsmState := .readData },
                req.grantMsgs rsp.entry)
          else
            (state, [])
      | _, _ => (state, [])
  | .readData =>
      match state.transData with
      | [] => (state, [])
      | word :: later =>
          if state.transDataLock then
            ({ state with
                transData := later
                fsmState := if word.last then .readRequest else .readData
                transDataLock := !word.last },
              [.moverWriteData word])
          else
            (state, [])

/-- The handler is about to answer its request on the entry `entry`. -/
structure TxAppDataState.Answers
    (state : TxAppDataState) (curSessionState : SessionState)
    (laterStates : List SessionState) (rsp : TxAppTableToTxAppRsp)
    (laterRsps : List TxAppTableToTxAppRsp) : Prop where
  fsmState : state.fsmState = .readMeta
  sttableRsps : state.sttableRsps = curSessionState :: laterStates
  tableRsps : state.tableRsps = rsp :: laterRsps

/-- What one call of the handler does. -/
inductive TxAppDataCall (state : TxAppDataState) :
    TxAppDataState → List TxAppDataMsg → Prop
  | idle : TxAppDataCall state state []
  | request {req : AppTransDataReq} {later : List AppTransDataReq} :
      state.fsmState = .readRequest →
      state.transDataReqs = req :: later →
      TxAppDataCall state
        { state with
          transDataReq := req
          transDataReqs := later
          transDataLock := true
          fsmState := .readMeta }
        [.sttableLupReq req.id,
          .tableReq (TxAppToTxAppTableReq.lookup req.id)]
  | refuse {curSessionState : SessionState}
      {laterStates : List SessionState} {rsp : TxAppTableToTxAppRsp}
      {laterRsps : List TxAppTableToTxAppRsp}
      {error : TxAppTransDataError} :
      state.Answers curSessionState laterStates rsp laterRsps →
      error ≠ .noError →
      TxAppDataCall state
        { state with
          sttableRsps := laterStates
          tableRsps := laterRsps
          txAppTableRsp := rsp
          maxWriteLength := rsp.entry.maxWriteLength
          fsmState := .readRequest
          transDataLock := false }
        [.transDataRsp
          (state.transDataReq.rsp error rsp.entry.maxWriteLength)]
  | grant {laterStates : List SessionState} {rsp : TxAppTableToTxAppRsp}
      {laterRsps : List TxAppTableToTxAppRsp} :
      state.Answers .established laterStates rsp laterRsps →
      state.transDataReq.data ≤ rsp.entry.maxWriteLength →
      TxAppDataCall state
        { state with
          sttableRsps := laterStates
          tableRsps := laterRsps
          txAppTableRsp := rsp
          maxWriteLength := rsp.entry.maxWriteLength
          fsmState := .readData }
        (state.transDataReq.grantMsgs rsp.entry)
  | forward {word : NetAXISWord} {later : List NetAXISWord} :
      state.fsmState = .readData →
      state.transData = word :: later →
      TxAppDataCall state
        { state with
          transData := later
          fsmState := if word.last then .readRequest else .readData
          transDataLock := !word.last }
        [.moverWriteData word]

theorem txAppDataHandler_call (state : TxAppDataState) :
    TxAppDataCall state (txAppDataHandler state).1
      (txAppDataHandler state).2 := by
  cases fsmState : state.fsmState with
  | readRequest =>
      cases queued : state.transDataReqs with
      | nil =>
          simp only [txAppDataHandler, fsmState, queued]
          exact TxAppDataCall.idle
      | cons req later =>
          cases locked : state.transDataLock with
          | true =>
              simp only [txAppDataHandler, fsmState, queued, locked,
                if_true]
              exact TxAppDataCall.idle
          | false =>
              simp only [txAppDataHandler, fsmState, queued, locked,
                Bool.false_eq_true, if_false]
              exact TxAppDataCall.request fsmState queued
  | readMeta =>
      cases states : state.sttableRsps with
      | nil =>
          simp only [txAppDataHandler, fsmState, states]
          exact TxAppDataCall.idle
      | cons curSessionState laterStates =>
          cases rsps : state.tableRsps with
          | nil =>
              simp only [txAppDataHandler, fsmState, states, rsps]
              exact TxAppDataCall.idle
          | cons rsp laterRsps =>
              have answers :
                  state.Answers curSessionState laterStates rsp
                    laterRsps :=
                ⟨fsmState, states, rsps⟩
              cases locked : state.transDataLock with
              | false =>
                  simp only [txAppDataHandler, fsmState, states, rsps,
                    locked, Bool.false_eq_true, if_false]
                  exact TxAppDataCall.idle
              | true =>
                  simp only [txAppDataHandler, fsmState, states, rsps,
                    locked, if_true]
                  by_cases connected : curSessionState = .established
                  · subst connected
                    rw [if_neg (not_not_intro rfl)]
                    by_cases noSpace :
                        rsp.entry.maxWriteLength <
                          state.transDataReq.data
                    · rw [if_pos noSpace]
                      exact TxAppDataCall.refuse answers (by decide)
                    · rw [if_neg noSpace]
                      have grants :=
                        TxAppDataCall.grant answers
                          (BitVec.not_lt.1 noSpace)
                      rw [locked] at grants
                      exact grants
                  · rw [if_pos connected]
                    exact TxAppDataCall.refuse answers (by decide)
  | readData =>
      cases queued : state.transData with
      | nil =>
          simp only [txAppDataHandler, fsmState, queued]
          exact TxAppDataCall.idle
      | cons word later =>
          cases locked : state.transDataLock with
          | false =>
              simp only [txAppDataHandler, fsmState, queued, locked,
                Bool.false_eq_true, if_false]
              exact TxAppDataCall.idle
          | true =>
              simp only [txAppDataHandler, fsmState, queued, locked,
                if_true]
              exact TxAppDataCall.forward fsmState queued

end TcpOffload
