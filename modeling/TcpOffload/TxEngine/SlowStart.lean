import TcpOffload.TxEngine.Answers
import TcpOffload.TxEngine.PayloadReads

/-!
# The slow start threshold after a timeout

The first timeout of a segment halves the threshold.  It is computed in 16
bits, one less than half of a full window needs.
-/

namespace TcpOffload

open Clocked

/-! ## The writes of the TX engine to the table -/

/-- The table after all write requests of the TX engine. -/
def writeAll (table : TcpSessionID → TxSarTableEntry)
    (reqs : List TxEngToTxSarReq) : TcpSessionID → TxSarTableEntry :=
  reqs.foldl
    (fun table req =>
      Function.update table req.sessionId
        ((table req.sessionId).txEngWrite req))
    table

/-- The requests of the TX engine are served before all others. -/
theorem runs_txEngReqs
    (reqs : List TxEngToTxSarReq) (state : TxSarTableState) :
    ∃ written,
      Runs txSarTable { state with txEngReqs := reqs } written
        { state with
          txEngReqs := []
          table :=
            writeAll state.table
              (reqs.filter TxEngToTxSarReq.write) } := by
  induction reqs generalizing state with
  | nil =>
      exact ⟨[], Runs.refl _⟩
  | cons req later inductionHypothesis =>
      cases isWrite : req.write with
      | true =>
          let next :=
            state.setEntry req.sessionId
              ((state.table req.sessionId).txEngWrite req)
          obtain ⟨written, run⟩ := inductionHypothesis next
          have called :
              txSarTable { state with txEngReqs := req :: later } =
                ({ next with txEngReqs := later },
                  if req.init && !req.retransReq then
                    [.txAppUpd
                      ⟨req.sessionId, req.notAckd.setWidth 18, true⟩]
                  else
                    []) := by
            simp only [txSarTable, isWrite, if_true]
            rfl
          rw [List.filter_cons_of_pos isWrite]
          exact ⟨_, Runs.head called run⟩
      | false =>
          obtain ⟨written, run⟩ := inductionHypothesis state
          have called :
              txSarTable { state with txEngReqs := req :: later } =
                ({ state with txEngReqs := later },
                  [.txEngRsp (state.table req.sessionId).txEngRead]) := by
            simp only [txSarTable, isWrite, Bool.false_eq_true, if_false]
          rw [List.filter_cons_of_neg (Bool.eq_false_iff.1 isWrite)]
          exact ⟨_, Runs.head called run⟩

theorem filter_reqsToTxSar (msgs : List TxEngMsg) :
    (reqsToTxSar msgs).filter TxEngToTxSarReq.write = sarWrites msgs := by
  induction msgs with
  | nil =>
      rfl
  | cons msg later inductionHypothesis =>
      rw [reqsToTxSar] at inductionHypothesis ⊢
      rw [sarWrites] at inductionHypothesis ⊢
      cases msg with
      | txSarReq req =>
          rw [List.filterMap_cons_some
            (rfl : (TxEngMsg.txSarReq req).toTxSar = some req)]
          cases isWrite : req.write with
          | true =>
              have written :
                  (TxEngMsg.txSarReq req).sarWrite = some req :=
                if_pos isWrite
              rw [List.filter_cons_of_pos isWrite,
                List.filterMap_cons_some written, inductionHypothesis]
          | false =>
              have notWritten :
                  (TxEngMsg.txSarReq req).sarWrite = none :=
                if_neg (Bool.eq_false_iff.1 isWrite)
              rw [List.filter_cons_of_neg (Bool.eq_false_iff.1 isWrite),
                List.filterMap_cons_none notWritten, inductionHypothesis]
      | _ =>
          exact inductionHypothesis

/-! ## Behind the first segment -/

/-- What is left of the handling of a timeout: the responses are loaded. -/
structure Resends (state : TxEngState) : Prop where
  noEvents : state.events = []
  isTimeout : state.txEngEventReg.retransCnt ≠ 0
  loaded :
    state.fsmState = .transition →
      state.txRxSarLoaded = true ∧
        (state.txEngEventReg.type = .rtCont ∨
          state.txEngEventReg.type = .fin)

theorem retransThresholdMsgs_of_loaded
    {state : TxEngState} (loaded : state.txRxSarLoaded = true)
    (currLength : TcpSessionBuffer) :
    retransThresholdMsgs state currLength = [] := by
  rw [retransThresholdMsgs, loaded]
  rfl

theorem reqsToTxSar_payloadMsgs
    (id : TcpSessionID) (addr : BitVec 32) (segment : TxEngFsmMetaData) :
    reqsToTxSar (payloadMsgs id addr segment) = [] := by
  rw [payloadMsgs]
  split <;> rfl

/-- A segment of a timeout, after which more may follow or the FIN. -/
theorem resends_rtSend
    {state : TxEngState} (rsp : TxSarToTxEngRsp) (addrAckd : BitVec 32)
    (noEvents : state.events = [])
    (isTimeout : state.txEngEventReg.retransCnt ≠ 0) :
    Resends
        { (rtSend state rsp addrAckd).1 with txRxSarLoaded := true } ∧
      reqsToTxSar (rtSend state rsp addrAckd).2 =
        reqsToTxSar (retransThresholdMsgs state rsp.usedLengthRst) := by
  have noneAppended (first : List TxEngMsg) (id : TcpSessionID)
      (addr : BitVec 32) (segment : TxEngFsmMetaData) :
      reqsToTxSar (first ++ payloadMsgs id addr segment) =
        reqsToTxSar first := by
    rw [reqsToTxSar, List.filterMap_append]
    change _ ++ reqsToTxSar (payloadMsgs id addr segment) = _
    rw [reqsToTxSar_payloadMsgs, List.append_nil, reqsToTxSar]
  rcases Nat.lt_or_ge tcpMss rsp.usedLengthRst.toNat with more | rest
  · rw [rtSend_more _ _ _ more]
    exact
      ⟨⟨noEvents, isTimeout, fun _ => ⟨rfl, Or.inl rfl⟩⟩,
        noneAppended _ _ _ _⟩
  · rw [rtSend_last _ _ _ rest]
    refine ⟨⟨noEvents, isTimeout, ?_⟩, noneAppended _ _ _ _⟩
    cases rsp.finIsSent with
    | true =>
        exact fun _ => ⟨rfl, Or.inr rfl⟩
    | false =>
        rintro ⟨⟩

/-- No further request goes to the TX SAR table. -/
theorem Resends.call {state : TxEngState} (resends : Resends state) :
    Resends (txEngTcpFsm state).1 ∧
      reqsToTxSar (txEngTcpFsm state).2 = [] := by
  cases isLoad : state.fsmState with
  | load =>
      have called :
          txEngTcpFsm state = ({ state with retransSegCnt := 0 }, []) := by
        simp only [txEngTcpFsm, isLoad, txEngLoad, resends.noEvents]
      rw [called]
      exact ⟨⟨resends.noEvents, resends.isTimeout, resends.loaded⟩, rfl⟩
  | transition =>
      obtain ⟨loaded, isCont | isFin⟩ := resends.loaded isLoad
      · have called :
            txEngTcpFsm state =
              rtSend state state.txSarRspReg
                TxSarToTxEngRsp.empty.ackd := by
          simp only [txEngTcpFsm, isLoad, isCont, txEngRtCont]
        obtain ⟨next, reqs⟩ :=
          resends_rtSend state.txSarRspReg TxSarToTxEngRsp.empty.ackd
            resends.noEvents resends.isTimeout
        rw [retransThresholdMsgs_of_loaded loaded] at reqs
        have stillLoaded :
            (rtSend state state.txSarRspReg
                TxSarToTxEngRsp.empty.ackd).1.txRxSarLoaded = true := by
          rw [rtSend]
          split <;> exact loaded
        rw [called]
        refine ⟨?_, reqs⟩
        rw [← stillLoaded] at next
        exact next
      · have called :
            txEngTcpFsm state = finSend state state.txSarRspReg := by
          simp only [txEngTcpFsm, isLoad, isFin, txEngFin, loaded, if_true]
        rw [called]
        refine ⟨⟨resends.noEvents, resends.isTimeout, ?_⟩, ?_⟩
        · rintro ⟨⟩
        · simp only [finSend, resends.isTimeout, ne_eq, not_false_eq_true,
            if_true, List.nil_append]
          split <;> rfl

theorem Resends.runs
    {state final : TxEngState} {msgs : List TxEngMsg}
    (resends : Resends state) (run : Runs txEngTcpFsm state msgs final) :
    sarWrites msgs = [] := by
  have none :=
    (@Runs.written_of_invariant _ _ txEngTcpFsm Resends
      (fun msg => msg.toTxSar = none)
      (fun state resends => resends.call.1)
      (fun state resends =>
        List.filterMap_eq_nil_iff.1 resends.call.2)
      _ _ _ run resends).2
  rw [← filter_reqsToTxSar, reqsToTxSar, List.filterMap_eq_nil_iff.2 none]
  rfl

/-! ## The threshold -/

/-- The writes of the threshold when a timeout is handled. -/
def thresholdReqs (event : EventWithTuple) (unacked : TcpSessionBuffer) :
    List TxEngToTxSarReq :=
  if event.retransCnt = 1 then
    [TxEngToTxSarReq.retrans event.sessionId
      ((slowstartThresholdFor unacked).setWidth 18)]
  else
    []

/-- A timeout writes nothing else to the TX SAR table. -/
theorem handlesEvent_timeout
    (regs : TxEngState) (event : EventWithTuple)
    (rxRsp : RxSarLookupRsp) (txRsp : TxSarToTxEngRsp)
    (typeRt : event.type = .rt) (isTimeout : event.retransCnt ≠ 0) :
    ∃ msgs final,
      HandlesEvent regs event rxRsp txRsp msgs final ∧
        sarWrites msgs = thresholdReqs event txRsp.usedLengthRst := by
  let start := regs.rtStart event rxRsp txRsp
  have call := txEngTcpFsm_rt regs event rxRsp txRsp typeRt
  obtain ⟨resends, reqs⟩ :=
    @resends_rtSend start txRsp txRsp.ackd rfl isTimeout
  obtain ⟨fin, later, final, _, run, inLoad, noEvents, _⟩ :=
    rtSend_runs 3 start txRsp txRsp.ackd rfl
  obtain ⟨lookups, idle, handles, _, _, noWrites⟩ :=
    handlesEvent_of_loaded (Runs.head call run) ⟨inLoad, noEvents⟩
  refine ⟨_, idle, handles, ?_⟩
  rw [sarWrites_append, sarWrites_append, noWrites, resends.runs run,
    List.append_nil, List.nil_append, ← filter_reqsToTxSar, reqs,
    filter_reqsToTxSar, retransThresholdMsgs, thresholdReqs]
  have notLoaded : start.txRxSarLoaded = false := rfl
  have isEvent : start.txEngEventReg = event := rfl
  have ofEvent : start.sessionId = event.sessionId := rfl
  rw [notLoaded, isEvent, ofEvent, Bool.not_false, Bool.true_and]
  by_cases first : event.retransCnt = 1
  · rw [if_pos first, if_pos (beq_iff_eq.2 first)]
    rfl
  · rw [if_neg first, if_neg (mt beq_iff_eq.1 first)]
    rfl

/-- The value that is stored. -/
theorem slowstartThresholdFor_toNat (unacked : TcpSessionBuffer) :
    ((slowstartThresholdFor unacked).setWidth 18).toNat =
      if 4 * tcpMss < unacked.toNat then
        unacked.toNat / 2 % 65536
      else
        2 * tcpMss := by
  have more :
      BitVec.ofNat 18 (4 * tcpMss) < unacked ↔
        4 * tcpMss < unacked.toNat := by
    rw [BitVec.lt_def]
    rfl
  rw [slowstartThresholdFor]
  simp only [more]
  split
  · have half : (unacked / 2).toNat = unacked.toNat / 2 := BitVec.toNat_udiv
    rw [BitVec.toNat_setWidth, BitVec.toNat_setWidth, half]
    omega
  · rfl

/-- It is the value demanded for flights below 2 ^ 17 bytes. -/
theorem slowstartThresholdFor_eq_iff (unacked : TcpSessionBuffer) :
    ((slowstartThresholdFor unacked).setWidth 18).toNat =
        max (unacked.toNat / 2) (2 * tcpMss) ↔
      unacked.toNat < 2 ^ 17 := by
  have bound := unacked.isLt
  rw [slowstartThresholdFor_toNat, tcpMss_eq]
  split <;> omega

/-- What is demanded of the threshold: the first timeout sets it to half of
the bytes that are not acknowledged, at least two segments, and later timeouts
keep it. -/
structure HalvesThreshold
    (event : EventWithTuple) (unacked : TcpSessionBuffer)
    (before after : TxSarTableEntry) : Prop where
  first :
    event.retransCnt = 1 →
      after.slowstartThreshold.toNat =
        max (unacked.toNat / 2) (2 * tcpMss)
  later :
    1 < event.retransCnt →
      after.slowstartThreshold = before.slowstartThreshold

/-- The entry of the session after the writes. -/
theorem threshold_writeAll
    (table : TcpSessionID → TxSarTableEntry) (event : EventWithTuple)
    (unacked : TcpSessionBuffer) :
    (writeAll table (thresholdReqs event unacked)
        event.sessionId).slowstartThreshold =
      if event.retransCnt = 1 then
        (slowstartThresholdFor unacked).setWidth 18
      else
        (table event.sessionId).slowstartThreshold := by
  rw [thresholdReqs]
  split
  · let req :=
      TxEngToTxSarReq.retrans event.sessionId
        ((slowstartThresholdFor unacked).setWidth 18)
    have carried :
        req.getThreshold = (slowstartThresholdFor unacked).setWidth 18 := by
      apply BitVec.eq_of_toNat_eq
      have bound := (slowstartThresholdFor unacked).isLt
      simp only [req, TxEngToTxSarReq.getThreshold,
        TxEngToTxSarReq.retrans, BitVec.toNat_setWidth]
      omega
    change
      (Function.update table event.sessionId
        ((table event.sessionId).txEngWrite req)
        event.sessionId).slowstartThreshold = _
    rw [Function.update_self, TxSarTableEntry.txEngWrite_threshold _ rfl]
    exact carried
  · rfl

theorem halvesThreshold_iff
    (table : TcpSessionID → TxSarTableEntry) (event : EventWithTuple)
    (unacked : TcpSessionBuffer) :
    HalvesThreshold event unacked (table event.sessionId)
        (writeAll table (thresholdReqs event unacked) event.sessionId) ↔
      (event.retransCnt = 1 → unacked.toNat < 2 ^ 17) := by
  have stored := threshold_writeAll table event unacked
  constructor
  · intro halves isFirst
    have value := halves.first isFirst
    rw [stored, if_pos isFirst] at value
    exact (slowstartThresholdFor_eq_iff unacked).1 value
  · intro small
    refine ⟨fun isFirst => ?_, fun isLater => ?_⟩
    · rw [stored, if_pos isFirst]
      exact (slowstartThresholdFor_eq_iff unacked).2 (small isFirst)
    · have notFirst : event.retransCnt ≠ 1 := by
        intro isFirst
        rw [isFirst] at isLater
        exact absurd isLater (by decide)
      rw [stored, if_neg notFirst]

/-- The engine handles a retransmission and the table serves its requests:
the threshold is as demanded exactly when the first timeout does not find
2 ^ 17 bytes or more in flight. -/
theorem timeout_halvesThreshold_iff
    (regs : TxEngState) (event : EventWithTuple) (rxRsp : RxSarLookupRsp)
    (txRsp : TxSarToTxEngRsp) (table : TxSarTableState) :
    ∃ msgs final written served,
      HandlesEvent regs { event with type := .rt } rxRsp txRsp msgs
        final ∧
      Runs txSarTable { table with txEngReqs := reqsToTxSar msgs } written
        served ∧
      served.txEngReqs = [] ∧
      (HalvesThreshold { event with type := .rt } txRsp.usedLengthRst
          (table.table event.sessionId) (served.table event.sessionId) ↔
        (event.retransCnt = 1 → txRsp.usedLengthRst.toNat < 2 ^ 17)) := by
  let timeout : EventWithTuple := { event with type := .rt }
  by_cases noTimeout : event.retransCnt = 0
  · obtain ⟨_, msgs, ⟨final, handles⟩, _, _⟩ :=
      handlesEvent_rt regs timeout rxRsp txRsp rfl
    obtain ⟨written, run⟩ := runs_txEngReqs (reqsToTxSar msgs) table
    refine ⟨msgs, final, written, _, handles, run, rfl, ?_⟩
    have notFirst : event.retransCnt ≠ 1 := by
      rw [noTimeout]
      decide
    have notLater : ¬ 1 < event.retransCnt := by
      rw [noTimeout]
      decide
    exact
      iff_of_true
        ⟨fun isFirst => absurd isFirst notFirst,
          fun isLater => absurd isLater notLater⟩
        fun isFirst => absurd isFirst notFirst
  · obtain ⟨msgs, final, handles, writes⟩ :=
      handlesEvent_timeout regs timeout rxRsp txRsp rfl noTimeout
    obtain ⟨written, run⟩ := runs_txEngReqs (reqsToTxSar msgs) table
    refine ⟨msgs, final, written, _, handles, run, rfl, ?_⟩
    rw [filter_reqsToTxSar, writes]
    exact halvesThreshold_iff table.table timeout txRsp.usedLengthRst

/-- A first timeout of a session. -/
def firstTimeout : EventWithTuple where
  type := .rt
  sessionId := 0
  bufAddr := 0
  length := 0
  retransCnt := 1
  fourTuple := ⟨0, 0, 0, 0⟩

/-- Half of a full window in flight. -/
def halfWindow : TxSarToTxEngRsp :=
  { TxSarToTxEngRsp.empty with usedLengthRst := 0x20000 }

/-- The threshold becomes 0 and not 65536. -/
theorem not_timeout_halvesThreshold :
    ¬ ∀ (regs final : TxEngState) (event : EventWithTuple)
        (rxRsp : RxSarLookupRsp) (txRsp : TxSarToTxEngRsp)
        (table served : TxSarTableState) (msgs : List TxEngMsg)
        (written : List TxSarTableMsg),
        event.type = .rt →
        HandlesEvent regs event rxRsp txRsp msgs final →
        Runs txSarTable { table with txEngReqs := reqsToTxSar msgs }
          written served →
        served.txEngReqs = [] →
        HalvesThreshold event txRsp.usedLengthRst
          (table.table event.sessionId)
          (served.table event.sessionId) := by
  intro all
  obtain ⟨msgs, final, handles, writes⟩ :=
    handlesEvent_timeout TxEngState.start firstTimeout ⟨0, 0, 0⟩
      halfWindow rfl (by decide)
  let table : TxSarTableState :=
    ⟨fun _ => threeSegmentsInFlight, [], [], []⟩
  obtain ⟨written, run⟩ := runs_txEngReqs (reqsToTxSar msgs) table
  have halves := all _ _ _ _ _ _ _ _ _ rfl handles run rfl
  rw [filter_reqsToTxSar, writes] at halves
  have small :=
    (halvesThreshold_iff table.table firstTimeout 0x20000).1 halves rfl
  exact absurd small (by decide)

end TcpOffload
