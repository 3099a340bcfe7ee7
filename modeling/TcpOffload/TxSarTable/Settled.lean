import TcpOffload.TxEngine.Answers
import TcpOffload.TxSarTable

/-!
# The entry behind the requests on their way

What the queued writes make of a session's entry in `tx_sar_table`, in the
order in which the table serves them: first the TX engine, then the
application, and the RX engine last.
-/

namespace TcpOffload

namespace TxSarTableEntry

/-- The entry of session `id` behind a request of the TX engine. -/
def servedTxEng
    (id : TcpSessionID) (entry : TxSarTableEntry)
    (req : TxEngToTxSarReq) : TxSarTableEntry :=
  if req.sessionId = id ∧ req.write = true then
    entry.txEngWrite req
  else
    entry

/-- The entry behind an update of the application. -/
def servedTxApp
    (id : TcpSessionID) (entry : TxSarTableEntry)
    (req : TxAppToTxSarReq) : TxSarTableEntry :=
  if req.sessionId = id then entry.txAppWrite req else entry

/-- The entry behind a request of the RX engine. -/
def servedRxEng
    (id : TcpSessionID) (entry : TxSarTableEntry)
    (req : RxEngToTxSarReq) : TxSarTableEntry :=
  if req.sessionId = id ∧ req.write = true then
    entry.rxEngWrite req
  else
    entry

end TxSarTableEntry

namespace TxSarTableState

/-- The entry behind the requests of the TX engine. -/
def sent (state : TxSarTableState) (id : TcpSessionID) :
    TxSarTableEntry :=
  state.txEngReqs.foldl (TxSarTableEntry.servedTxEng id) (state.table id)

/-- The entry behind all requests on their way. -/
def settled (state : TxSarTableState) (id : TcpSessionID) :
    TxSarTableEntry :=
  state.rxEngReqs.foldl (TxSarTableEntry.servedRxEng id)
    (state.txAppReqs.foldl (TxSarTableEntry.servedTxApp id)
      (state.sent id))

/-- A table with one entry written anew, seen from session `id`. -/
theorem update_written
    (table : TcpSessionID → TxSarTableEntry) (id other : TcpSessionID)
    (write : TxSarTableEntry → TxSarTableEntry) :
    Function.update table other (write (table other)) id =
      if other = id then write (table id) else table id := by
  by_cases isOwn : other = id
  · rw [if_pos isOwn, isOwn, Function.update_self]
  · rw [if_neg isOwn, Function.update_of_ne (Ne.symm isOwn)]

/-- A call of the table serves what was on its way. -/
theorem settled_txSarTable (state : TxSarTableState) (id : TcpSessionID) :
    (txSarTable state).1.settled id = state.settled id := by
  rw [txSarTable, settled, settled, sent, sent]
  split
  · rename_i req later txEngReqs
    have served :
        (if req.write then
              Function.update state.table req.sessionId
                ((state.table req.sessionId).txEngWrite req)
            else
              state.table) id =
          (state.table id).servedTxEng id req := by
      rw [TxSarTableEntry.servedTxEng]
      by_cases isWrite : req.write = true
      · simp only [isWrite, if_true, and_true]
        exact
          update_written state.table id req.sessionId fun entry =>
            entry.txEngWrite req
      · rw [if_neg isWrite, if_neg fun own => isWrite own.2]
    rw [txEngReqs, List.foldl_cons, ← served]
    simp only []
    split <;> rfl
  · rename_i req later noTxEng txAppReqs
    have served :=
      update_written state.table id req.sessionId fun entry =>
        entry.txAppWrite req
    rw [noTxEng, txAppReqs, List.foldl_cons,
      TxSarTableEntry.servedTxApp]
    simp only [setEntry, List.foldl_nil, served]
  · rename_i req later noTxEng noTxApp rxEngReqs
    have served :
        (if req.write then
              Function.update state.table req.sessionId
                ((state.table req.sessionId).rxEngWrite req)
            else
              state.table) id =
          (state.table id).servedRxEng id req := by
      rw [TxSarTableEntry.servedRxEng]
      by_cases isWrite : req.write = true
      · simp only [isWrite, if_true, and_true]
        exact
          update_written state.table id req.sessionId fun entry =>
            entry.rxEngWrite req
      · rw [if_neg isWrite, if_neg fun own => isWrite own.2]
    rw [noTxEng, noTxApp, rxEngReqs, List.foldl_cons, List.foldl_nil,
      List.foldl_nil, ← served]
    simp only []
    split <;> simp only [setEntry, List.foldl_nil]
  · rfl

/-! ## Requests that join the queues -/

def queueTxEng (state : TxSarTableState) (reqs : List TxEngToTxSarReq) :
    TxSarTableState :=
  { state with txEngReqs := state.txEngReqs ++ reqs }

def queueTxApp (state : TxSarTableState) (reqs : List TxAppToTxSarReq) :
    TxSarTableState :=
  { state with txAppReqs := state.txAppReqs ++ reqs }

def queueRxEng (state : TxSarTableState) (reqs : List RxEngToTxSarReq) :
    TxSarTableState :=
  { state with rxEngReqs := state.rxEngReqs ++ reqs }

end TxSarTableState

/-! ## The pointers of the entry -/

/-- `ackd` behind a request of the RX engine. -/
def RxEngToTxSarReq.ackdBehind
    (id : TcpSessionID) (ackd : BitVec 32) (req : RxEngToTxSarReq) :
    BitVec 32 :=
  if req.sessionId = id ∧ req.write = true then req.ackd else ackd

/-- `app_written` behind an update of the application. -/
def TxAppToTxSarReq.writtenBehind
    (id : TcpSessionID) (appWritten : TcpSessionBuffer)
    (req : TxAppToTxSarReq) : TcpSessionBuffer :=
  if req.sessionId = id then req.appWritten else appWritten

/-- The requests of the TX engine write no pointer of the session. -/
def KeepsPointers
    (id : TcpSessionID) (reqs : List TxEngToTxSarReq) : Prop :=
  ∀ req ∈ reqs,
    req.sessionId = id → req.write = true → req.retransReq = true

structure SamePointers (first second : TxSarTableEntry) : Prop where
  ackd : second.ackd = first.ackd
  notAckd : second.notAckd = first.notAckd
  appWritten : second.appWritten = first.appWritten

namespace TxSarTableEntry

variable {id : TcpSessionID}

theorem foldl_servedTxApp
    (entry : TxSarTableEntry) (reqs : List TxAppToTxSarReq) :
    reqs.foldl (servedTxApp id) entry =
      { entry with
        appWritten :=
          reqs.foldl (TxAppToTxSarReq.writtenBehind id)
            entry.appWritten } := by
  induction reqs generalizing entry with
  | nil =>
      rfl
  | cons req later inductionHypothesis =>
      rw [List.foldl_cons, inductionHypothesis, List.foldl_cons,
        servedTxApp, TxAppToTxSarReq.writtenBehind]
      split <;> rfl

/-- The RX engine leaves the pointers of the TX engine alone. -/
theorem foldl_servedRxEng
    (entry : TxSarTableEntry) (reqs : List RxEngToTxSarReq) :
    (reqs.foldl (servedRxEng id) entry).ackd =
        reqs.foldl (RxEngToTxSarReq.ackdBehind id) entry.ackd ∧
      (reqs.foldl (servedRxEng id) entry).notAckd = entry.notAckd ∧
      (reqs.foldl (servedRxEng id) entry).appWritten =
        entry.appWritten := by
  induction reqs generalizing entry with
  | nil =>
      exact ⟨rfl, rfl, rfl⟩
  | cons req later inductionHypothesis =>
      rw [List.foldl_cons, List.foldl_cons, servedRxEng,
        RxEngToTxSarReq.ackdBehind]
      split
      · exact inductionHypothesis (entry.rxEngWrite req)
      · exact inductionHypothesis entry

theorem foldl_servedTxEng
    (entry : TxSarTableEntry) {reqs : List TxEngToTxSarReq}
    (keeps : KeepsPointers id reqs) :
    SamePointers entry (reqs.foldl (servedTxEng id) entry) := by
  induction reqs generalizing entry with
  | nil =>
      exact ⟨rfl, rfl, rfl⟩
  | cons req later inductionHypothesis =>
      have keepsLater : KeepsPointers id later :=
        fun other member => keeps other (List.mem_cons_of_mem req member)
      have rest :=
        inductionHypothesis (entry.servedTxEng id req) keepsLater
      have first : SamePointers entry (entry.servedTxEng id req) := by
        rw [servedTxEng]
        split
        · rename_i own
          have isThreshold := keeps req List.mem_cons_self own.1 own.2
          rw [txEngWrite_threshold entry isThreshold]
          exact ⟨rfl, rfl, rfl⟩
        · exact ⟨rfl, rfl, rfl⟩
      exact
        ⟨rest.ackd.trans first.ackd, rest.notAckd.trans first.notAckd,
          rest.appWritten.trans first.appWritten⟩

/-- Neither does it send a FIN. -/
theorem foldl_servedRxEng_finIsSent
    (entry : TxSarTableEntry) (reqs : List RxEngToTxSarReq) :
    (reqs.foldl (servedRxEng id) entry).finIsSent = entry.finIsSent := by
  induction reqs generalizing entry with
  | nil =>
      rfl
  | cons req later inductionHypothesis =>
      rw [List.foldl_cons, inductionHypothesis, servedRxEng]
      split <;> rfl

theorem foldl_servedTxEng_finIsSent
    (entry : TxSarTableEntry) {reqs : List TxEngToTxSarReq}
    (keeps : KeepsPointers id reqs) :
    (reqs.foldl (servedTxEng id) entry).finIsSent = entry.finIsSent := by
  induction reqs generalizing entry with
  | nil =>
      rfl
  | cons req later inductionHypothesis =>
      have keepsLater : KeepsPointers id later :=
        fun other member => keeps other (List.mem_cons_of_mem req member)
      rw [List.foldl_cons, inductionHypothesis _ keepsLater, servedTxEng]
      split
      · rename_i own
        rw [txEngWrite_threshold entry
          (keeps req List.mem_cons_self own.1 own.2)]
      · rfl

end TxSarTableEntry

/-- Updates of other sessions leave `app_written` alone. -/
theorem foldl_writtenBehind_other
    {id : TcpSessionID} {reqs : List TxAppToTxSarReq}
    {appWritten : TcpSessionBuffer}
    (others : ∀ req ∈ reqs, req.sessionId ≠ id) :
    reqs.foldl (TxAppToTxSarReq.writtenBehind id) appWritten =
      appWritten := by
  induction reqs generalizing appWritten with
  | nil =>
      rfl
  | cons req later inductionHypothesis =>
      rw [List.foldl_cons, TxAppToTxSarReq.writtenBehind,
        if_neg (others req List.mem_cons_self)]
      exact
        inductionHypothesis fun other member =>
          others other (List.mem_cons_of_mem req member)

namespace TxSarTableState

variable (state : TxSarTableState) (id : TcpSessionID)

theorem settled_ackd :
    (state.settled id).ackd =
      state.rxEngReqs.foldl (RxEngToTxSarReq.ackdBehind id)
        (state.sent id).ackd := by
  rw [settled, (TxSarTableEntry.foldl_servedRxEng _ _).1,
    TxSarTableEntry.foldl_servedTxApp]

theorem settled_notAckd :
    (state.settled id).notAckd = (state.sent id).notAckd := by
  rw [settled, (TxSarTableEntry.foldl_servedRxEng _ _).2.1,
    TxSarTableEntry.foldl_servedTxApp]

theorem settled_appWritten :
    (state.settled id).appWritten =
      state.txAppReqs.foldl (TxAppToTxSarReq.writtenBehind id)
        (state.sent id).appWritten := by
  rw [settled, (TxSarTableEntry.foldl_servedRxEng _ _).2.2,
    TxSarTableEntry.foldl_servedTxApp]

theorem settled_finIsSent :
    (state.settled id).finIsSent = (state.sent id).finIsSent := by
  rw [settled, TxSarTableEntry.foldl_servedRxEng_finIsSent,
    TxSarTableEntry.foldl_servedTxApp]

variable {state} {id}

theorem sent_queueTxEng (reqs : List TxEngToTxSarReq) :
    (state.queueTxEng reqs).sent id =
      reqs.foldl (TxSarTableEntry.servedTxEng id) (state.sent id) :=
  List.foldl_append

/-- Where the TX engine keeps the pointers, so does the settled entry. -/
theorem settled_queueTxEng_keeps
    {reqs : List TxEngToTxSarReq} (keeps : KeepsPointers id reqs) :
    SamePointers (state.settled id)
      ((state.queueTxEng reqs).settled id) := by
  have same :=
    TxSarTableEntry.foldl_servedTxEng (state.sent id) keeps
  rw [← sent_queueTxEng] at same
  constructor
  · rw [settled_ackd, settled_ackd, same.ackd]
    rfl
  · rw [settled_notAckd, settled_notAckd, same.notAckd]
  · rw [settled_appWritten, settled_appWritten, same.appWritten]
    rfl

theorem settled_queueTxEng_keepsFin
    {reqs : List TxEngToTxSarReq} (keeps : KeepsPointers id reqs) :
    ((state.queueTxEng reqs).settled id).finIsSent =
      (state.settled id).finIsSent := by
  rw [settled_finIsSent, settled_finIsSent, sent_queueTxEng,
    TxSarTableEntry.foldl_servedTxEng_finIsSent _ keeps]

/-- A pointer write that joins the queue. -/
theorem settled_queueTxEng_moves
    {req : TxEngToTxSarReq} (isOwn : req.sessionId = id)
    (isWrite : req.write = true) (noThreshold : req.retransReq = false)
    (noInit : req.init = false) :
    ((state.queueTxEng [req]).settled id).ackd =
        (state.settled id).ackd ∧
      ((state.queueTxEng [req]).settled id).notAckd = req.notAckd ∧
      ((state.queueTxEng [req]).settled id).appWritten =
        (state.settled id).appWritten := by
  have served :
      (state.queueTxEng [req]).sent id =
        (state.sent id).txEngWrite req := by
    rw [sent_queueTxEng]
    exact if_pos ⟨isOwn, isWrite⟩
  rw [TxSarTableEntry.txEngWrite_pointer _ noThreshold noInit] at served
  refine ⟨?_, ?_, ?_⟩
  · rw [settled_ackd, settled_ackd, served]
    rfl
  · rw [settled_notAckd, served]
  · rw [settled_appWritten, settled_appWritten, served]
    rfl

theorem settled_queueTxEng_movesFin
    {req : TxEngToTxSarReq} (isOwn : req.sessionId = id)
    (isWrite : req.write = true) (noThreshold : req.retransReq = false)
    (noInit : req.init = false) :
    ((state.queueTxEng [req]).settled id).finIsSent =
      (req.finIsSent || (state.settled id).finIsSent) := by
  have served :
      (state.queueTxEng [req]).sent id =
        (state.sent id).txEngWrite req := by
    rw [sent_queueTxEng]
    exact if_pos ⟨isOwn, isWrite⟩
  rw [TxSarTableEntry.txEngWrite_pointer _ noThreshold noInit] at served
  rw [settled_finIsSent, settled_finIsSent, served]

/-- The entry of a session that the TX engine opens anew. -/
theorem settled_queueTxEng_opens (pointer : BitVec 32) :
    ((state.queueTxEng
            [TxEngToTxSarReq.initialise id pointer]).settled id).notAckd =
        pointer ∧
      ((state.queueTxEng
            [TxEngToTxSarReq.initialise id pointer]).settled id).finIsSent =
        false ∧
      ((∀ req ∈ state.txAppReqs, req.sessionId ≠ id) →
        ((state.queueTxEng
              [TxEngToTxSarReq.initialise id pointer]).settled
            id).appWritten =
          pointer.setWidth 18) := by
  have served :
      (state.queueTxEng [TxEngToTxSarReq.initialise id pointer]).sent id =
        (state.sent id).txEngWrite
          (TxEngToTxSarReq.initialise id pointer) := by
    rw [sent_queueTxEng]
    exact if_pos ⟨rfl, rfl⟩
  refine ⟨?_, ?_, fun noneWaits => ?_⟩
  · rw [settled_notAckd, served]
    rfl
  · rw [settled_finIsSent, served]
    rfl
  · rw [settled_appWritten, served]
    exact foldl_writtenBehind_other noneWaits

theorem settled_queueRxEng_ackd (reqs : List RxEngToTxSarReq) :
    ((state.queueRxEng reqs).settled id).ackd =
      reqs.foldl (RxEngToTxSarReq.ackdBehind id)
        (state.settled id).ackd := by
  rw [settled_ackd, settled_ackd]
  exact List.foldl_append

theorem settled_queueRxEng_notAckd (reqs : List RxEngToTxSarReq) :
    ((state.queueRxEng reqs).settled id).notAckd =
      (state.settled id).notAckd := by
  rw [settled_notAckd, settled_notAckd]
  rfl

theorem settled_queueTxApp_ackd (reqs : List TxAppToTxSarReq) :
    ((state.queueTxApp reqs).settled id).ackd =
      (state.settled id).ackd := by
  rw [settled_ackd, settled_ackd]
  rfl

theorem settled_queueTxApp_notAckd (reqs : List TxAppToTxSarReq) :
    ((state.queueTxApp reqs).settled id).notAckd =
      (state.settled id).notAckd := by
  rw [settled_notAckd, settled_notAckd]
  rfl

theorem settled_queueRxEng_appWritten (reqs : List RxEngToTxSarReq) :
    ((state.queueRxEng reqs).settled id).appWritten =
      (state.settled id).appWritten := by
  rw [settled_appWritten, settled_appWritten]
  rfl

theorem settled_queueRxEng_finIsSent (reqs : List RxEngToTxSarReq) :
    ((state.queueRxEng reqs).settled id).finIsSent =
      (state.settled id).finIsSent := by
  rw [settled_finIsSent, settled_finIsSent]
  rfl

theorem settled_queueTxApp_finIsSent (reqs : List TxAppToTxSarReq) :
    ((state.queueTxApp reqs).settled id).finIsSent =
      (state.settled id).finIsSent := by
  rw [settled_finIsSent, settled_finIsSent]
  rfl

/-- Updates of other sessions on their way. -/
theorem settled_queueTxApp_other
    {reqs : List TxAppToTxSarReq}
    (others : ∀ req ∈ reqs, req.sessionId ≠ id) :
    ((state.queueTxApp reqs).settled id).appWritten =
      (state.settled id).appWritten := by
  rw [settled_appWritten, settled_appWritten, queueTxApp,
    List.foldl_append, foldl_writtenBehind_other others]
  rfl

/-- Without requests of the TX engine its pointer is settled. -/
theorem settled_notAckd_of_served (noTxEng : state.txEngReqs = []) :
    (state.settled id).notAckd = (state.table id).notAckd := by
  rw [settled_notAckd, TxSarTableState.sent, noTxEng]
  rfl

theorem settled_appWritten_of_served
    (noTxEng : state.txEngReqs = [])
    (noTxApp : ∀ req ∈ state.txAppReqs, req.sessionId ≠ id) :
    (state.settled id).appWritten = (state.table id).appWritten := by
  rw [settled_appWritten, TxSarTableState.sent, noTxEng,
    foldl_writtenBehind_other noTxApp]
  rfl

end TxSarTableState

end TcpOffload
