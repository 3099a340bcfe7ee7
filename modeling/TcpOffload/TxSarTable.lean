import Mathlib.Logic.Function.Basic
import TcpOffload.Conn

/-!
# The TX SAR table

`tx_sar_table.cpp`: the send window of each session.  The accesses of the
three users of the table are functions on one entry; `txSarTable` serves at
most one request a call, the TX engine first and the RX engine last.
-/

namespace TcpOffload

namespace TxSarTableEntry

/-- The write access of the TX engine. -/
def txEngWrite
    (entry : TxSarTableEntry) (req : TxEngToTxSarReq) : TxSarTableEntry :=
  if req.retransReq then
    { entry with
      slowstartThreshold := req.getThreshold
      congWindow := BitVec.ofNat 18 tcpMssTenTimes }
  else
    let moved := { entry with notAckd := req.notAckd }
    let initialised :=
      if req.init then
        { moved with
          appWritten := req.notAckd.setWidth 18
          ackd := req.notAckd - 1
          congWindow := BitVec.ofNat 18 tcpMssTenTimes
          slowstartThreshold := BitVec.ofNat 18 (bufferSize - 1)
          finIsReady := req.finIsReady
          finIsSent := req.finIsSent }
      else
        moved
    { initialised with
      finIsReady := req.finIsReady || initialised.finIsReady
      finIsSent := req.finIsSent || initialised.finIsSent }

/-- The receive window placed at bit `win_shift` of a window register. -/
def scaledRecvWindow (entry : TxSarTableEntry) : TcpSessionBuffer :=
  entry.recvWindow.setWidth 18 <<< entry.winShift.toNat

/-- `tx_sar_min_win`. -/
def minWindow (entry : TxSarTableEntry) : TcpSessionBuffer :=
  if entry.congWindow < entry.scaledRecvWindow then
    entry.congWindow
  else
    entry.scaledRecvWindow

def currLength (entry : TxSarTableEntry) : TcpSessionBuffer :=
  entry.appWritten - entry.notAckd.setWidth 18

def usedLength (entry : TxSarTableEntry) : TcpSessionBuffer :=
  entry.notAckd.setWidth 18 - entry.ackd.setWidth 18

def usableWindow (entry : TxSarTableEntry) : TcpSessionBuffer :=
  if entry.usedLength < entry.minWindow then
    entry.minWindow - entry.usedLength
  else
    0

/-- The read access of the TX engine. -/
def txEngRead (entry : TxSarTableEntry) : TxSarToTxEngRsp where
  ackd := entry.ackd
  notAckd := entry.notAckd
  minWindow := entry.minWindow
  appWritten := entry.appWritten
  finIsReady := entry.finIsReady
  finIsSent := entry.finIsSent
  currLength := entry.currLength
  usedLength := entry.usedLength
  usedLengthRst :=
    entry.usedLength - (BitVec.ofBool entry.finIsSent).setWidth 18
  usableWindow := entry.usableWindow
  ackdEqNotAckd := decide (entry.ackd = entry.notAckd)
  notAckdShort := entry.notAckd + entry.currLength.setWidth 32
  notAckdPlusMss := entry.notAckd + BitVec.ofNat 32 tcpMss
  winShift := entry.winShift.setWidth 4

/-- The write access of the TX application interface. -/
def txAppWrite
    (entry : TxSarTableEntry) (req : TxAppToTxSarReq) : TxSarTableEntry :=
  { entry with appWritten := req.appWritten }

/-- The write access of the RX engine. -/
def rxEngWrite
    (entry : TxSarTableEntry) (req : RxEngToTxSarReq) : TxSarTableEntry :=
  { entry with
    winShift := if req.winShiftWrite then req.winShift else entry.winShift
    ackd := req.ackd
    recvWindow := req.recvWindow
    congWindow := req.congWindow
    retransCount := req.retransCount
    fastRetrans := req.fastRetrans }

/-- The read access of the RX engine. -/
def rxEngRead (entry : TxSarTableEntry) : TxSarToRxEngRsp where
  pervAck := entry.ackd
  nextByte := entry.notAckd
  congWindow := entry.congWindow
  slowstartThreshold := entry.slowstartThreshold
  retransCount := entry.retransCount
  fastRetrans := entry.fastRetrans
  winShift := entry.winShift

/-- A threshold write leaves the pointers alone. -/
theorem txEngWrite_threshold
    (entry : TxSarTableEntry) {req : TxEngToTxSarReq}
    (isThreshold : req.retransReq = true) :
    entry.txEngWrite req =
      { entry with
        slowstartThreshold := req.getThreshold
        congWindow := BitVec.ofNat 18 tcpMssTenTimes } := by
  rw [txEngWrite, if_pos isThreshold]

/-- A pointer write moves `not_ackd` and adds its flags. -/
theorem txEngWrite_pointer
    (entry : TxSarTableEntry) {req : TxEngToTxSarReq}
    (noThreshold : req.retransReq = false) (noInit : req.init = false) :
    entry.txEngWrite req =
      { entry with
        notAckd := req.notAckd
        finIsReady := req.finIsReady || entry.finIsReady
        finIsSent := req.finIsSent || entry.finIsSent } := by
  simp only [txEngWrite, noThreshold, noInit, Bool.false_eq_true, if_false]

/-- The usable window is what the looked-up minimum leaves over the bytes in
flight. -/
theorem usableWindow_toNat (entry : TxSarTableEntry) :
    entry.usableWindow.toNat =
      entry.minWindow.toNat - entry.usedLength.toNat := by
  rw [usableWindow]
  split
  · rename_i smaller
    rw [BitVec.lt_def] at smaller
    exact BitVec.toNat_sub_of_le (BitVec.le_def.2 (Nat.le_of_lt smaller))
  · rename_i notSmaller
    rw [BitVec.lt_def] at notSmaller
    have zero : (0 : TcpSessionBuffer).toNat = 0 := rfl
    omega

end TxSarTableEntry

/-! ## The table process -/

structure TxSarTableState where
  table : TcpSessionID → TxSarTableEntry
  txEngReqs : List TxEngToTxSarReq
  txAppReqs : List TxAppToTxSarReq
  rxEngReqs : List RxEngToTxSarReq

inductive TxSarTableMsg where
  | txEngRsp (rsp : TxSarToTxEngRsp)
  | rxEngRsp (rsp : TxSarToRxEngRsp)
  | txAppUpd (req : TxSarToTxAppReq)
deriving DecidableEq, Repr

namespace TxSarTableState

def setEntry
    (state : TxSarTableState) (id : TcpSessionID)
    (entry : TxSarTableEntry) : TxSarTableState :=
  { state with table := Function.update state.table id entry }

end TxSarTableState

/-- `tx_sar_table`. -/
def txSarTable (state : TxSarTableState) :
    TxSarTableState × List TxSarTableMsg :=
  match state.txEngReqs, state.txAppReqs, state.rxEngReqs with
  | req :: later, _, _ =>
      let entry := state.table req.sessionId
      let next := { state with txEngReqs := later }
      if req.write then
        (next.setEntry req.sessionId (entry.txEngWrite req),
          if req.init && !req.retransReq then
            [.txAppUpd ⟨req.sessionId, req.notAckd.setWidth 18, true⟩]
          else
            [])
      else
        (next, [.txEngRsp entry.txEngRead])
  | [], req :: later, _ =>
      let entry := state.table req.sessionId
      let next := { state with txAppReqs := later }
      (next.setEntry req.sessionId (entry.txAppWrite req), [])
  | [], [], req :: later =>
      let entry := state.table req.sessionId
      let next := { state with rxEngReqs := later }
      if req.write then
        (next.setEntry req.sessionId (entry.rxEngWrite req),
          [.txAppUpd ⟨req.sessionId, req.ackd.setWidth 18, false⟩])
      else
        (next, [.rxEngRsp entry.rxEngRead])
  | [], [], [] => (state, [])

/-- What one call of the table can do. -/
inductive TxSarCall (state : TxSarTableState) :
    TxSarTableState → List TxSarTableMsg → Prop
  | idle : TxSarCall state state []
  | txEngWrite {req : TxEngToTxSarReq} {later : List TxEngToTxSarReq} :
      state.txEngReqs = req :: later →
      req.write = true →
      TxSarCall state
        ({ state with txEngReqs := later }.setEntry req.sessionId
          ((state.table req.sessionId).txEngWrite req))
        (if req.init && !req.retransReq then
          [.txAppUpd ⟨req.sessionId, req.notAckd.setWidth 18, true⟩]
        else
          [])
  | txEngLookup {req : TxEngToTxSarReq} {later : List TxEngToTxSarReq} :
      state.txEngReqs = req :: later →
      req.write = false →
      TxSarCall state
        { state with txEngReqs := later }
        [.txEngRsp (state.table req.sessionId).txEngRead]
  | txAppWrite {req : TxAppToTxSarReq} {later : List TxAppToTxSarReq} :
      state.txEngReqs = [] →
      state.txAppReqs = req :: later →
      TxSarCall state
        ({ state with txAppReqs := later }.setEntry req.sessionId
          ((state.table req.sessionId).txAppWrite req))
        []
  | rxEngWrite {req : RxEngToTxSarReq} {later : List RxEngToTxSarReq} :
      state.txEngReqs = [] →
      state.rxEngReqs = req :: later →
      req.write = true →
      TxSarCall state
        ({ state with rxEngReqs := later }.setEntry req.sessionId
          ((state.table req.sessionId).rxEngWrite req))
        [.txAppUpd ⟨req.sessionId, req.ackd.setWidth 18, false⟩]
  | rxEngLookup {req : RxEngToTxSarReq} {later : List RxEngToTxSarReq} :
      state.txEngReqs = [] →
      state.rxEngReqs = req :: later →
      req.write = false →
      TxSarCall state
        { state with rxEngReqs := later }
        [.rxEngRsp (state.table req.sessionId).rxEngRead]

theorem txSarTable_call (state : TxSarTableState) :
    TxSarCall state (txSarTable state).1 (txSarTable state).2 := by
  rw [txSarTable]
  split
  · rename_i req later txEngReqs
    simp only []
    by_cases isWrite : req.write = true
    · rw [if_pos isWrite]
      exact TxSarCall.txEngWrite txEngReqs isWrite
    · rw [if_neg isWrite]
      exact TxSarCall.txEngLookup txEngReqs (Bool.eq_false_iff.2 isWrite)
  · rename_i req later noTxEng txAppReqs
    exact TxSarCall.txAppWrite noTxEng txAppReqs
  · rename_i req later noTxEng _ rxEngReqs
    simp only []
    by_cases isWrite : req.write = true
    · rw [if_pos isWrite]
      exact TxSarCall.rxEngWrite noTxEng rxEngReqs isWrite
    · rw [if_neg isWrite]
      exact
        TxSarCall.rxEngLookup noTxEng rxEngReqs
          (Bool.eq_false_iff.2 isWrite)
  · exact TxSarCall.idle

end TcpOffload
