import Mathlib.Logic.Function.Basic
import TcpOffload.Conn

/-!
# The RX SAR table

`rx_sar_table.cpp`: the receive window of each session.  The accesses of the
three users of the table are functions on one entry; `rxSarTable` serves at
most one request a call, the TX engine first and the RX engine last.
-/

namespace TcpOffload

namespace RxSarTableEntry

/-- The write access of the RX engine. -/
def rxEngWrite
    (entry : RxSarTableEntry) (req : RxEngToRxSarReq) : RxSarTableEntry :=
  let moved := { entry with recvd := req.recvd }
  if req.init then
    { moved with
      appRead := req.recvd.setWidth 18
      winShift := req.winShift }
  else
    moved

/-- The write access of the RX application interface. -/
def rxAppWrite
    (entry : RxSarTableEntry) (req : RxSarAppReqRsp) : RxSarTableEntry :=
  { entry with appRead := req.appRead }

/-- `session_actual_win_size`. -/
def actualWinSize (entry : RxSarTableEntry) : TcpSessionBuffer :=
  (entry.appRead - entry.recvd.setWidth 18) - 1

/-- The read access of the TX engine: the window as it goes into the TCP
header. -/
def txEngRead (entry : RxSarTableEntry) : RxSarLookupRsp where
  recvd := entry.recvd
  winShift := entry.winShift
  winSize := (entry.actualWinSize >>> entry.winShift.toNat).setWidth 16

end RxSarTableEntry

namespace RxSarAppReqRsp

def lookup (id : TcpSessionID) : RxSarAppReqRsp :=
  ⟨id, 0, false⟩

def update (id : TcpSessionID) (appd : TcpSessionBuffer) :
    RxSarAppReqRsp :=
  ⟨id, appd, true⟩

end RxSarAppReqRsp

/-! ## The table process -/

structure RxSarTableState where
  table : TcpSessionID → RxSarTableEntry
  txEngLups : List TcpSessionID
  rxAppReqs : List RxSarAppReqRsp
  rxEngReqs : List RxEngToRxSarReq

inductive RxSarTableMsg where
  | txEngRsp (rsp : RxSarLookupRsp)
  | rxAppRsp (rsp : RxSarAppReqRsp)
  | rxEngRsp (entry : RxSarTableEntry)
deriving DecidableEq, Repr

namespace RxSarTableState

def setEntry
    (state : RxSarTableState) (id : TcpSessionID)
    (entry : RxSarTableEntry) : RxSarTableState :=
  { state with table := Function.update state.table id entry }

end RxSarTableState

/-- `rx_sar_table`. -/
def rxSarTable (state : RxSarTableState) :
    RxSarTableState × List RxSarTableMsg :=
  match state.txEngLups, state.rxAppReqs, state.rxEngReqs with
  | id :: later, _, _ =>
      ({ state with txEngLups := later },
        [.txEngRsp (state.table id).txEngRead])
  | [], req :: later, _ =>
      let entry := state.table req.sessionId
      let next := { state with rxAppReqs := later }
      if req.write then
        (next.setEntry req.sessionId (entry.rxAppWrite req), [])
      else
        (next,
          [.rxAppRsp (RxSarAppReqRsp.update req.sessionId entry.appRead)])
  | [], [], req :: later =>
      let entry := state.table req.sessionId
      let next := { state with rxEngReqs := later }
      if req.write then
        (next.setEntry req.sessionId (entry.rxEngWrite req), [])
      else
        (next, [.rxEngRsp entry])
  | [], [], [] => (state, [])

/-- What one call of the table can do. -/
inductive RxSarCall (state : RxSarTableState) :
    RxSarTableState → List RxSarTableMsg → Prop
  | idle : RxSarCall state state []
  | txEngLookup {id : TcpSessionID} {later : List TcpSessionID} :
      state.txEngLups = id :: later →
      RxSarCall state { state with txEngLups := later }
        [.txEngRsp (state.table id).txEngRead]
  | rxAppWrite {req : RxSarAppReqRsp} {later : List RxSarAppReqRsp} :
      state.rxAppReqs = req :: later →
      req.write = true →
      RxSarCall state
        ({ state with rxAppReqs := later }.setEntry req.sessionId
          ((state.table req.sessionId).rxAppWrite req))
        []
  | rxAppLookup {req : RxSarAppReqRsp} {later : List RxSarAppReqRsp} :
      state.rxAppReqs = req :: later →
      req.write = false →
      RxSarCall state { state with rxAppReqs := later }
        [.rxAppRsp
          (RxSarAppReqRsp.update req.sessionId
            (state.table req.sessionId).appRead)]
  | rxEngWrite {req : RxEngToRxSarReq} {later : List RxEngToRxSarReq} :
      state.rxEngReqs = req :: later →
      req.write = true →
      RxSarCall state
        ({ state with rxEngReqs := later }.setEntry req.sessionId
          ((state.table req.sessionId).rxEngWrite req))
        []
  | rxEngLookup {req : RxEngToRxSarReq} {later : List RxEngToRxSarReq} :
      state.rxEngReqs = req :: later →
      req.write = false →
      RxSarCall state { state with rxEngReqs := later }
        [.rxEngRsp (state.table req.sessionId)]

theorem rxSarTable_call (state : RxSarTableState) :
    RxSarCall state (rxSarTable state).1 (rxSarTable state).2 := by
  rw [rxSarTable]
  split
  · rename_i id later txEngLups
    exact RxSarCall.txEngLookup txEngLups
  · rename_i req later _ rxAppReqs
    simp only []
    by_cases isWrite : req.write = true
    · rw [if_pos isWrite]
      exact RxSarCall.rxAppWrite rxAppReqs isWrite
    · rw [if_neg isWrite]
      exact RxSarCall.rxAppLookup rxAppReqs (Bool.eq_false_iff.2 isWrite)
  · rename_i req later _ _ rxEngReqs
    simp only []
    by_cases isWrite : req.write = true
    · rw [if_pos isWrite]
      exact RxSarCall.rxEngWrite rxEngReqs isWrite
    · rw [if_neg isWrite]
      exact RxSarCall.rxEngLookup rxEngReqs (Bool.eq_false_iff.2 isWrite)
  · exact RxSarCall.idle

end TcpOffload
