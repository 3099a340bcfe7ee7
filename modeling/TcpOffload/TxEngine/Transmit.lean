import TcpOffload.TxEngine.Events
import TcpOffload.TxEngine.Plan

/-!
# Runs of a `TX` event

The registers of the `TX` loop follow `TxPlan`; the outputs of the whole
event are a function of the plan.
-/

namespace TcpOffload

open Clocked

/-- The segments of the given lengths, each starting where the one before
ends; a segment of no bytes is not sent. -/
def segmentList
    (header : TxEngFsmMetaData) (seqNumber : BitVec 32) :
    List Nat → List TxEngFsmMetaData
  | [] => []
  | length :: later =>
      (if length = 0 then
        []
      else
        [{ header with
          seqNumber := seqNumber
          length := BitVec.ofNat 16 length }]) ++
        segmentList header (seqNumber + BitVec.ofNat 32 length) later

/-- The pointer written behind the last segment of a plan. -/
def pointerAfter
    (rsp : TxSarToTxEngRsp) (lengths : List Nat) (short : Bool) :
    BitVec 32 :=
  if short && rsp.ackdEqNotAckd then
    rsp.notAckdShort
  else
    rsp.notAckd + BitVec.ofNat 32 lengths.sum

/-- What the `FIN` case adds when the last data goes out and the application
has closed: nothing, or the writes of one `FIN` call behind the pointer. -/
inductive FinFollows
    (id : TcpSessionID) (retransCnt : BitVec 3)
    (rsp : TxSarToTxEngRsp) (lengths : List Nat) (short : Bool) :
    List TxEngMsg → Prop
  | none : FinFollows id retransCnt rsp lengths short []
  | fin {state : TxEngState} :
      short = true →
      rsp.finIsReady = true →
      state.sessionId = id →
      state.txEngEventReg.retransCnt = retransCnt →
      FinFollows id retransCnt rsp lengths short
        (finSend state
          { rsp with notAckd := pointerAfter rsp lengths short }).2

/-- The outputs of the `TX` case for a plan, with those of a following `FIN`
case. -/
structure TxOutputs
    (id : TcpSessionID) (header : TxEngFsmMetaData)
    (rsp : TxSarToTxEngRsp) (lengths : List Nat) (short : Bool)
    (fin msgs : List TxEngMsg) : Prop where
  sent :
    segments msgs = segmentList header rsp.notAckd lengths ++ segments fin
  read :
    memReadCmds msgs =
      (segmentList header rsp.notAckd lengths).map
        (TxEngFsmMetaData.readCmd id)
  written :
    sarWrites msgs =
      TxEngToTxSarReq.update id (pointerAfter rsp lengths short) ::
        sarWrites fin

/-! ## The registers of the loop -/

theorem nextCurrLength_toNat
    {currLength : TcpSessionBuffer} (enough : tcpMss ≤ currLength.toNat) :
    ((currLength - BitVec.ofNat 18 tcpMss).setWidth 16).toNat =
      (currLength.toNat - tcpMss) % 2 ^ 16 := by
  have bound := currLength.isLt
  rw [tcpMss_eq] at enough ⊢
  have difference :
      (currLength - BitVec.ofNat 18 1460).toNat =
        currLength.toNat - 1460 := by
    rw [BitVec.toNat_sub_of_le]
    · rfl
    · exact BitVec.le_def.2 enough
  rw [BitVec.toNat_setWidth, difference]

theorem nextUsedLength_toNat (usedLength : TcpSessionBuffer) :
    ((usedLength + BitVec.ofNat 18 tcpMss).setWidth 16).toNat =
      (usedLength.toNat + tcpMss) % 2 ^ 16 := by
  rw [BitVec.toNat_setWidth, BitVec.toNat_add, BitVec.toNat_ofNat,
    tcpMss_eq]
  omega

/-- The window a loaded `TX` call works with. -/
def TxEngState.remaining (state : TxEngState) : TcpSessionBuffer :=
  if !state.remainingWindow.getLsbD windowBits then
    state.remainingWindow.setWidth 18
  else
    0

theorem remaining_toNat
    {state : TxEngState} {minWindow : TcpSessionBuffer}
    {usedLength : BitVec 16}
    (computed :
      state.remainingWindow = remainingWindowAfter minWindow usedLength) :
    state.remaining.toNat = minWindow.toNat - usedLength.toNat := by
  have minBound := minWindow.isLt
  have usedBound := usedLength.isLt
  have topBit := BitVec.msb_eq_getLsbD_last state.remainingWindow
  have topBitValue := BitVec.msb_eq_decide state.remainingWindow
  have value :
      state.remainingWindow.toNat =
        (2 ^ 19 - usedLength.toNat + minWindow.toNat) % 2 ^ 19 := by
    rw [computed, remainingWindowAfter, BitVec.toNat_sub,
      BitVec.toNat_setWidth, BitVec.toNat_setWidth]
    omega
  have signBit :
      state.remainingWindow.getLsbD windowBits =
        decide (minWindow.toNat < usedLength.toNat) := by
    change state.remainingWindow.getLsbD (19 - 1) = _
    rw [← topBit, topBitValue, value]
    apply decide_eq_decide.2
    omega
  rw [TxEngState.remaining, signBit]
  by_cases negative : minWindow.toNat < usedLength.toNat
  · have zero : (0 : TcpSessionBuffer).toNat = 0 := rfl
    rw [decide_eq_true negative]
    simp only [Bool.not_true, Bool.false_eq_true, if_false, zero]
    omega
  · rw [decide_eq_false negative]
    simp only [Bool.not_false, if_true]
    rw [BitVec.toNat_setWidth, value]
    omega

/-! ## One call -/

section Iteration

variable {id : TcpSessionID}
variable {currLength usedLength usableWindow : TcpSessionBuffer}
variable {rsp : TxSarToTxEngRsp}

theorem mss_le_iff (length : TcpSessionBuffer) :
    BitVec.ofNat 18 tcpMss ≤ length ↔ tcpMss ≤ length.toNat := by
  rw [BitVec.le_def]
  exact Iff.rfl

theorem txIteration_full
    (enough : tcpMss ≤ currLength.toNat)
    (room : tcpMss ≤ usableWindow.toNat) :
    txIteration id currLength usedLength usableWindow rsp =
      txFullSegment currLength usedLength rsp := by
  have enoughWord := (mss_le_iff currLength).2 enough
  have roomWord := (mss_le_iff usableWindow).2 room
  rw [txIteration, if_pos enoughWord, if_pos roomWord]
  split <;> rfl

theorem txIteration_short
    (fits : currLength.toNat ≤ usableWindow.toNat)
    (below : currLength.toNat < tcpMss) :
    txIteration id currLength usedLength usableWindow rsp =
      txShortSegment id currLength rsp := by
  have small : ¬ BitVec.ofNat 18 tcpMss ≤ currLength := by
    rw [mss_le_iff]
    exact Nat.not_le.2 below
  rw [txIteration, if_pos (BitVec.le_def.2 fits), if_neg small]

theorem txIteration_window
    (closes : usableWindow.toNat < currLength.toNat)
    (below : usableWindow.toNat < tcpMss) :
    txIteration id currLength usedLength usableWindow rsp =
      txWindowSegment id currLength usedLength usableWindow rsp := by
  have beyond : ¬ currLength ≤ usableWindow := by
    rw [BitVec.le_def]
    exact Nat.not_le.2 closes
  have small : ¬ BitVec.ofNat 18 tcpMss ≤ usableWindow := by
    rw [mss_le_iff]
    exact Nat.not_le.2 below
  rw [txIteration, if_neg beyond, if_neg small]

end Iteration

/-! ## The outputs along a plan -/

@[simp]
theorem segmentList_header
    (header : TxEngFsmMetaData) (seqNumber start : BitVec 32)
    (length : BitVec 16) (lengths : List Nat) :
    segmentList
        { header with seqNumber := seqNumber, length := length }
        start lengths =
      segmentList header start lengths := by
  induction lengths generalizing start with
  | nil =>
      rfl
  | cons first later inductionHypothesis =>
      rw [segmentList, segmentList, inductionHypothesis]

theorem pointerAfter_full
    (rsp : TxSarToTxEngRsp) (lengths : List Nat) (short : Bool) :
    pointerAfter
        { rsp with notAckd := rsp.notAckd + BitVec.ofNat 32 tcpMss }
        lengths short =
      pointerAfter rsp (tcpMss :: lengths) short := by
  rw [pointerAfter, pointerAfter, List.sum_cons, BitVec.ofNat_add,
    BitVec.add_assoc]

theorem FinFollows.full
    {id : TcpSessionID} {retransCnt : BitVec 3} {rsp : TxSarToTxEngRsp}
    {lengths : List Nat} {short : Bool} {fin : List TxEngMsg}
    (follows :
      FinFollows id retransCnt
        { rsp with notAckd := rsp.notAckd + BitVec.ofNat 32 tcpMss }
        lengths short fin) :
    FinFollows id retransCnt rsp (tcpMss :: lengths) short fin := by
  cases follows with
  | none =>
      exact FinFollows.none
  | @fin state isShort ready sameId sameCnt =>
      have same :=
        @FinFollows.fin id retransCnt rsp (tcpMss :: lengths) short state
          isShort ready sameId sameCnt
      rw [← pointerAfter_full] at same
      exact same

theorem TxOutputs.sameHeader
    {id : TcpSessionID} {header : TxEngFsmMetaData}
    {seqNumber : BitVec 32} {length : BitVec 16}
    {rsp : TxSarToTxEngRsp} {lengths : List Nat} {short : Bool}
    {fin msgs : List TxEngMsg}
    (outputs :
      TxOutputs id
        { header with seqNumber := seqNumber, length := length }
        rsp lengths short fin msgs) :
    TxOutputs id header rsp lengths short fin msgs := by
  refine ⟨?_, ?_, outputs.written⟩
  · rw [outputs.sent, segmentList_header]
  · rw [outputs.read, segmentList_header]

/-- One more full segment in front of the outputs of the rest. -/
theorem TxOutputs.full
    {id : TcpSessionID} {header : TxEngFsmMetaData}
    {rsp : TxSarToTxEngRsp} {lengths : List Nat} {short : Bool}
    {fin msgs : List TxEngMsg}
    (outputs :
      TxOutputs id header
        { rsp with notAckd := rsp.notAckd + BitVec.ofNat 32 tcpMss }
        lengths short fin msgs) :
    TxOutputs id header rsp (tcpMss :: lengths) short fin
      (payloadMsgs id
          (getSessionMemAddr .tx id (rsp.notAckd.setWidth 18))
          { header with
            seqNumber := rsp.notAckd
            length := BitVec.ofNat 16 tcpMss } ++
        msgs) := by
  have sends : BitVec.ofNat 16 tcpMss ≠ 0 := by
    decide
  have notEmpty : tcpMss ≠ 0 := by
    decide
  refine ⟨?_, ?_, ?_⟩
  · rw [segments_append, outputs.sent, segments_payloadMsgs,
      if_pos sends, segmentList, if_neg notEmpty, List.append_assoc]
  · rw [memReadCmds_append, outputs.read, memReadCmds_payloadMsgs,
      if_pos sends, segmentList, if_neg notEmpty, List.map_append]
    rfl
  · rw [sarWrites_append, outputs.written, sarWrites_payloadMsgs,
      pointerAfter_full]
    rfl

/-- The final segment, with the pointer written behind it. -/
theorem TxOutputs.last
    {id : TcpSessionID} {header : TxEngFsmMetaData}
    {rsp : TxSarToTxEngRsp} {short : Bool}
    {length : TcpSessionBuffer} {timer fin : List TxEngMsg}
    {pointer : BitVec 32}
    (below : length.toNat < tcpMss)
    (behind : pointer = pointerAfter rsp [length.toNat] short)
    (noSegments : segments timer = [])
    (noCmds : memReadCmds timer = [])
    (noWrites : sarWrites timer = [])
    (finReads : memReadCmds fin = []) :
    TxOutputs id header rsp [length.toNat] short fin
      ((timer ++ [.txSarReq (TxEngToTxSarReq.update id pointer)]) ++
        payloadMsgs id
          (getSessionMemAddr .tx id (rsp.notAckd.setWidth 18))
          { header with
            seqNumber := rsp.notAckd
            length := length.setWidth 16 } ++
        fin) := by
  have smallLength : length.toNat < 1460 := below
  have width : length.setWidth 16 = BitVec.ofNat 16 length.toNat :=
    BitVec.eq_of_toNat_eq (by simp)
  have emptyIff :
      BitVec.ofNat 16 length.toNat = 0 ↔ length.toNat = 0 := by
    rw [← BitVec.toNat_inj, BitVec.toNat_ofNat,
      show (0 : BitVec 16).toNat = 0 from rfl]
    omega
  rw [behind, width]
  by_cases empty : length.toNat = 0
  · refine ⟨?_, ?_, ?_⟩
    · simp only [segments_append, noSegments, segments_payloadMsgs,
        segmentList, empty, if_true, List.append_nil, List.nil_append]
      rfl
    · simp only [memReadCmds_append, noCmds, memReadCmds_payloadMsgs,
        segmentList, empty, if_true, List.append_nil, List.nil_append,
        finReads]
      rfl
    · simp only [sarWrites_append, noWrites, sarWrites_payloadMsgs,
        List.nil_append, List.append_assoc]
      rfl
  · have notEmptyWord : BitVec.ofNat 16 length.toNat ≠ 0 :=
      mt emptyIff.1 empty
    refine ⟨?_, ?_, ?_⟩
    · simp only [segments_append, noSegments, segments_payloadMsgs,
        if_pos notEmptyWord, segmentList, if_neg empty, List.append_nil,
        List.nil_append]
      rfl
    · simp only [memReadCmds_append, noCmds, memReadCmds_payloadMsgs,
        if_pos notEmptyWord, segmentList, if_neg empty, List.append_nil,
        List.nil_append, finReads]
      rfl
    · simp only [sarWrites_append, noWrites, sarWrites_payloadMsgs,
        List.nil_append, List.append_assoc]
      rfl

theorem memReadCmds_finSend (state : TxEngState) (rsp : TxSarToTxEngRsp) :
    memReadCmds (finSend state rsp).2 = [] := by
  simp only [finSend, memReadCmds_append]
  split <;> split <;> (try split) <;> rfl

theorem FinFollows.reads
    {id : TcpSessionID} {retransCnt : BitVec 3} {rsp : TxSarToTxEngRsp}
    {lengths : List Nat} {short : Bool} {fin : List TxEngMsg}
    (follows : FinFollows id retransCnt rsp lengths short fin) :
    memReadCmds fin = [] := by
  cases follows with
  | none =>
      rfl
  | fin _ _ _ _ =>
      exact memReadCmds_finSend _ _

/-- A loaded `TX` call goes on with the registered response. -/
theorem txEngTcpFsm_loaded
    {state : TxEngState}
    (inTransition : state.fsmState = .transition)
    (typeTx : state.txEngEventReg.type = .tx)
    (isLoaded : state.txRxSarLoaded = true) :
    txEngTcpFsm state =
      txSend state state.txSarRspReg state.remaining := by
  simp only [txEngTcpFsm, inTransition, typeTx, txEngTx, isLoaded, if_true]
  rfl

/-- From a `TX` call on, the machine sends a plan for the registered lengths
and the given window and returns to `LOAD`. -/
def SendsPlan
    (state : TxEngState) (rsp : TxSarToTxEngRsp)
    (window : TcpSessionBuffer) : Prop :=
  ∃ lengths short fin later final,
    TxPlan rsp.minWindow.toNat state.currLength.toNat
      state.usedLength.toNat window.toNat lengths short ∧
    FinFollows state.sessionId state.txEngEventReg.retransCnt rsp
      lengths short fin ∧
    Runs txEngTcpFsm (txSend state rsp window).1 later final ∧
    final.fsmState = .load ∧
    final.events = state.events ∧
    TxOutputs state.sessionId state.tcpTxMetaReg rsp lengths short fin
      ((txSend state rsp window).2 ++ later)

/-- A call that sends a full segment and stays in `TX`. -/
theorem txSend_full
    (state : TxEngState) (rsp : TxSarToTxEngRsp)
    {window : TcpSessionBuffer}
    (enough : tcpMss ≤ state.currLength.toNat)
    (room : tcpMss ≤ window.toNat) :
    txSend state rsp window =
      ({ state.setEventType .tx with
          fsmState := .transition
          txRxSarLoaded := true
          txSarRspReg :=
            { rsp with notAckd := rsp.notAckd + BitVec.ofNat 32 tcpMss }
          tcpTxMetaReg :=
            { state.tcpTxMetaReg with
              seqNumber := rsp.notAckd
              length := BitVec.ofNat 16 tcpMss }
          currLength :=
            ((state.currLength - BitVec.ofNat 18 tcpMss).setWidth
              16).setWidth 18
          usedLength :=
            ((state.usedLength + BitVec.ofNat 18 tcpMss).setWidth
              16).setWidth 18
          remainingWindow :=
            remainingWindowAfter rsp.minWindow
              ((state.usedLength + BitVec.ofNat 18 tcpMss).setWidth 16) },
        payloadMsgs state.sessionId
          (getSessionMemAddr .tx state.sessionId
            (rsp.notAckd.setWidth 18))
          { state.tcpTxMetaReg with
            seqNumber := rsp.notAckd
            length := BitVec.ofNat 16 tcpMss }) := by
  have iteration :
      txIteration state.sessionId state.currLength state.usedLength window
          rsp =
        txFullSegment state.currLength state.usedLength rsp :=
    txIteration_full enough room
  rw [txSend, iteration]
  rfl

/-- A call that sends the last segment. -/
theorem txSend_runs_final
    (state : TxEngState) (rsp : TxSarToTxEngRsp)
    (window : TcpSessionBuffer)
    (notFull : min state.currLength.toNat window.toNat < tcpMss) :
    SendsPlan state rsp window := by
  rcases Nat.lt_or_ge window.toNat state.currLength.toNat
    with closes | fits
  · have below : window.toNat < tcpMss := by
      omega
    have iteration :
        txIteration state.sessionId state.currLength state.usedLength
            window rsp =
          txWindowSegment state.sessionId state.currLength
            state.usedLength window rsp :=
      txIteration_window closes below
    have send :
        (txSend state rsp window).2 =
          ([.setPtimer state.sessionId] ++
            [.txSarReq
              (TxEngToTxSarReq.update state.sessionId
                (rsp.notAckd + window.setWidth 32))]) ++
            payloadMsgs state.sessionId
              (getSessionMemAddr .tx state.sessionId
                (rsp.notAckd.setWidth 18))
              { state.tcpTxMetaReg with
                seqNumber := rsp.notAckd
                length := window.setWidth 16 } ++
            [] := by
      rw [txSend, iteration, List.append_nil]
      rfl
    have behind :
        rsp.notAckd + window.setWidth 32 =
          pointerAfter rsp [window.toNat] false := by
      rw [pointerAfter, Bool.false_and, if_neg Bool.false_ne_true,
        List.sum_singleton, BitVec.ofNat_toNat]
    refine ⟨[window.toNat], false, [], [], (txSend state rsp window).1,
      TxPlan.window closes below, FinFollows.none, Runs.refl _, ?_, ?_,
      ?_⟩
    · rw [txSend, iteration]
      rfl
    · rw [txSend, iteration]
      rfl
    · rw [send, List.append_nil]
      exact TxOutputs.last below behind rfl rfl rfl rfl
  · have below : state.currLength.toNat < tcpMss := by
      omega
    have iteration :
        txIteration state.sessionId state.currLength state.usedLength
            window rsp =
          txShortSegment state.sessionId state.currLength rsp :=
      txIteration_short fits below
    let pointer :=
      if rsp.ackdEqNotAckd then
        rsp.notAckdShort
      else
        rsp.notAckd + state.currLength.setWidth 32
    let timer : List TxEngMsg :=
      if rsp.ackdEqNotAckd then [] else [.setPtimer state.sessionId]
    have send :
        (txSend state rsp window).2 =
          (timer ++
            [.txSarReq
              (TxEngToTxSarReq.update state.sessionId pointer)]) ++
            payloadMsgs state.sessionId
              (getSessionMemAddr .tx state.sessionId
                (rsp.notAckd.setWidth 18))
              { state.tcpTxMetaReg with
                seqNumber := rsp.notAckd
                length := state.currLength.setWidth 16 } := by
      rw [txSend, iteration]
      rfl
    have behind :
        pointer = pointerAfter rsp [state.currLength.toNat] true := by
      rw [pointerAfter, Bool.true_and, List.sum_singleton,
        BitVec.ofNat_toNat]
    have timerKinds :
        segments timer = [] ∧ memReadCmds timer = [] ∧
          sarWrites timer = [] := by
      cases eq : rsp.ackdEqNotAckd <;> simp only [timer, eq] <;>
        exact ⟨rfl, rfl, rfl⟩
    obtain ⟨noSegments, noCmds, noWrites⟩ := timerKinds
    have outputs :
        ∀ fin,
          memReadCmds fin = [] →
          TxOutputs state.sessionId state.tcpTxMetaReg rsp
            [state.currLength.toNat] true fin
            ((txSend state rsp window).2 ++ fin) := by
      intro fin finReads
      rw [send]
      exact TxOutputs.last below behind noSegments noCmds noWrites finReads
    have plan :
        TxPlan rsp.minWindow.toNat state.currLength.toNat
          state.usedLength.toNat window.toNat [state.currLength.toNat]
          true :=
      TxPlan.short fits below
    by_cases finFollows :
        (rsp.finIsReady && (rsp.ackdEqNotAckd || state.currLength == 0)) =
          true
    · let next := (txSend state rsp window).1
      have nextFields :
          next.fsmState = .transition ∧
            next.txEngEventReg.type = .fin ∧
            next.txRxSarLoaded = true ∧
            next.txSarRspReg = { rsp with notAckd := pointer } ∧
            next.sessionId = state.sessionId ∧
            next.txEngEventReg.retransCnt =
              state.txEngEventReg.retransCnt ∧
            next.events = state.events := by
        refine ⟨?_, ?_, ?_, ?_, ?_, ?_, ?_⟩ <;>
          simp only [next, txSend, iteration, txShortSegment,
            if_pos finFollows] <;>
          rfl
      obtain ⟨inTransition, typeFin, isLoaded, nextRsp, nextId, nextCnt,
          nextEvents⟩ := nextFields
      have call :
          txEngTcpFsm next =
            finSend next { rsp with notAckd := pointer } := by
        simp only [txEngTcpFsm, inTransition, typeFin, txEngFin, isLoaded,
          if_true, nextRsp]
      rw [behind] at call
      rw [Bool.and_eq_true] at finFollows
      have follows :=
        @FinFollows.fin state.sessionId state.txEngEventReg.retransCnt rsp
          [state.currLength.toNat] true next rfl finFollows.1 nextId nextCnt
      have run := Runs.head call (Runs.refl _)
      rw [List.append_nil] at run
      refine ⟨[state.currLength.toNat], true, _, _, _, plan, follows, run,
        rfl, ?_, outputs _ follows.reads⟩
      exact nextEvents
    · refine ⟨[state.currLength.toNat], true, [], [],
        (txSend state rsp window).1, plan, FinFollows.none, Runs.refl _,
        ?_, ?_, outputs [] rfl⟩
      · rw [txSend, iteration]
        simp only [txShortSegment, if_neg finFollows]
      · rw [txSend, iteration]
        rfl

/-- The `TX` case with a response at hand, up to `LOAD`. -/
theorem txSend_runs
    (state : TxEngState) (rsp : TxSarToTxEngRsp)
    (window : TcpSessionBuffer)
    (typeTx : state.txEngEventReg.type = .tx) :
    SendsPlan state rsp window := by
  induction measure : state.currLength.toNat using Nat.strongRecOn
    generalizing state rsp window with
  | ind size inductionHypothesis =>
      rcases Nat.lt_or_ge (min state.currLength.toNat window.toNat) tcpMss
        with final | full
      · exact txSend_runs_final state rsp window final
      · have enough : tcpMss ≤ state.currLength.toNat := by
          omega
        have room : tcpMss ≤ window.toNat := by
          omega
        let next := (txSend state rsp window).1
        have send := txSend_full state rsp enough room
        have loaded :
            txEngTcpFsm next =
              txSend next next.txSarRspReg next.remaining := by
          refine txEngTcpFsm_loaded ?_ ?_ ?_
          all_goals simp only [next, send, TxEngState.setEventType]
        have nextCurr :
            next.currLength.toNat =
              (state.currLength.toNat - tcpMss) % 2 ^ 16 := by
          simp only [next, send]
          rw [BitVec.toNat_setWidth_of_le (by decide),
            nextCurrLength_toNat enough]
        have nextUsed :
            next.usedLength.toNat =
              (state.usedLength.toNat + tcpMss) % 2 ^ 16 := by
          simp only [next, send]
          rw [BitVec.toNat_setWidth_of_le (by decide),
            nextUsedLength_toNat]
        have nextWindow :
            next.remaining.toNat =
              rsp.minWindow.toNat -
                (state.usedLength.toNat + tcpMss) % 2 ^ 16 := by
          rw [← nextUsedLength_toNat]
          refine remaining_toNat ?_
          simp only [next, send]
        have smaller : next.currLength.toNat < size := by
          have truncated :=
            Nat.mod_le (state.currLength.toNat - tcpMss) (2 ^ 16)
          rw [nextCurr, ← measure]
          simp only [tcpMss_eq] at enough truncated ⊢
          omega
        have nextType : next.txEngEventReg.type = .tx := by
          simp only [next, send, TxEngState.setEventType]
        have nextRsp :
            next.txSarRspReg =
              { rsp with
                notAckd := rsp.notAckd + BitVec.ofNat 32 tcpMss } := by
          simp only [next, send]
        have nextHeader :
            next.tcpTxMetaReg =
              { state.tcpTxMetaReg with
                seqNumber := rsp.notAckd
                length := BitVec.ofNat 16 tcpMss } := by
          simp only [next, send]
        have nextId : next.sessionId = state.sessionId := by
          simp only [next, send]
          rfl
        have nextCnt :
            next.txEngEventReg.retransCnt =
              state.txEngEventReg.retransCnt := by
          simp only [next, send, TxEngState.setEventType]
        have nextEvents : next.events = state.events := by
          simp only [next, send]
          rfl
        obtain ⟨lengths, short, fin, later, final, plan, follows, run,
            inLoad, sameEvents, outputs⟩ :=
          inductionHypothesis next.currLength.toNat smaller next
            next.txSarRspReg next.remaining nextType rfl
        rw [nextCurr, nextUsed, nextWindow, nextRsp] at plan
        rw [nextRsp, nextId, nextCnt] at follows
        rw [nextHeader, nextId, nextRsp] at outputs
        rw [nextRsp] at loaded run
        refine ⟨tcpMss :: lengths, short, fin,
          (txSend next
            { rsp with notAckd := rsp.notAckd + BitVec.ofNat 32 tcpMss }
            next.remaining).2 ++ later,
          final, TxPlan.full enough room plan, follows.full,
          Runs.head loaded run, inLoad, sameEvents.trans nextEvents, ?_⟩
        rw [send]
        exact outputs.sameHeader.full

/-- A `TX` event with its responses, from `LOAD` to `LOAD`. -/
theorem handlesEvent_tx
    (regs : TxEngState) (event : EventWithTuple)
    (rxRsp : RxSarLookupRsp) (txRsp : TxSarToTxEngRsp)
    (typeTx : event.type = .tx) :
    ∃ header lengths short fin msgs final,
      HandlesEvent regs event rxRsp txRsp msgs final ∧
      TxPlan txRsp.minWindow.toNat txRsp.currLength.toNat
        txRsp.usedLength.toNat txRsp.usableWindow.toNat lengths short ∧
      FinFollows event.sessionId event.retransCnt txRsp lengths short
        fin ∧
      TxOutputs event.sessionId header txRsp lengths short fin msgs ∧
      header.syn = false ∧ header.fin = false := by
  have looksUpRx : event.looksUpRxSar = true := by
    rw [Event.looksUpRxSar, typeTx]
    rfl
  have looksUpTx : event.looksUpTxSar = true := by
    rw [Event.looksUpTxSar, typeTx]
    rfl
  let loaded := regs.loaded event rxRsp txRsp
  let start : TxEngState :=
    { loaded with
      rxSarRspReg := rxRsp
      currLength := txRsp.currLength
      usedLength := txRsp.usedLength
      tcpTxMetaReg :=
        { loaded.tcpTxMetaReg with
          winSize := rxRsp.winSize
          rst := false
          syn := false
          fin := false
          length := 0
          ack := true
          ackNumber := rxRsp.recvd }
      rxSarRsps := []
      txSarRsps := [] }
  have call :
      txEngTcpFsm loaded = txSend start txRsp txRsp.usableWindow := by
    simp only [txEngTcpFsm, loaded, TxEngState.loaded, typeTx, txEngTx,
      TxEngState.feed, looksUpRx, looksUpTx, if_true, Bool.false_eq_true,
      if_false, start]
  have startType : start.txEngEventReg.type = .tx := typeTx
  obtain ⟨lengths, short, fin, later, final, plan, follows, run, inLoad,
      noEvents, outputs⟩ :=
    txSend_runs start txRsp txRsp.usableWindow startType
  have wholeRun :
      Runs txEngTcpFsm loaded
        ((txSend start txRsp txRsp.usableWindow).2 ++ later) final :=
    Runs.head call run
  obtain ⟨lookups, idle, handles, noSegments, noCmds, noWrites⟩ :=
    handlesEvent_of_loaded wholeRun ⟨inLoad, noEvents⟩
  refine ⟨start.tcpTxMetaReg, lengths, short, fin, _, idle, handles, plan,
    follows, ⟨?_, ?_, ?_⟩, rfl, rfl⟩
  · rw [segments_append, noSegments, outputs.sent]
    rfl
  · rw [memReadCmds_append, noCmds, outputs.read]
    rfl
  · rw [sarWrites_append, noWrites, outputs.written]
    rfl

end TcpOffload
