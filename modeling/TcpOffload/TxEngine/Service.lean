import TcpOffload.Library.Countdown
import TcpOffload.TxEngine.Answers
import TcpOffload.TxEngine.Retransmit

/-!
# Every event is finished

However long the send buffer and whatever the tables answer, `TxEngTcpFsm`
leaves an event after a bounded number of calls that do something.  A `TX`
event takes the most: the length it works with shrinks to 16 bits in its
first call, and from then on by one segment in every call.
-/

namespace TcpOffload

open Countdown

namespace TxEngState

/-- A call has nothing to work on: there is no event, or an answer that the
event in hand needs is not there. -/
def waits (state : TxEngState) : Bool :=
  match state.fsmState with
  | .load => state.events.isEmpty
  | .transition =>
      state.txEngEventReg.type != .rst &&
        (state.awaitsRxSar && state.rxSarRsps.isEmpty ||
          state.awaitsTxSar && state.txSarRsps.isEmpty)

/-- The calls that the event in hand can still take. -/
def callsLeft (state : TxEngState) : Nat :=
  match state.fsmState with
  | .load => 0
  | .transition =>
      match state.txEngEventReg.type with
      | .tx =>
          if state.txRxSarLoaded && state.currLength.toNat < 2 ^ 16 then
            state.currLength.toNat / tcpMss + 2
          else
            47
      | .rt | .rtCont => 5 - state.retransSegCnt.toNat
      | .ack | .ackNodelay | .syn | .synAck | .fin | .rst => 1

variable {state : TxEngState}

theorem callsLeft_load (isLoad : state.fsmState = .load) :
    state.callsLeft = 0 := by
  rw [callsLeft, isLoad]

theorem callsLeft_fin (type : state.txEngEventReg.type = .fin) :
    state.callsLeft ≤ 1 := by
  rw [callsLeft, type]
  split
  · exact Nat.zero_le 1
  · exact Nat.le_refl 1

/-- A loaded `TX` event whose length fits the registers. -/
theorem callsLeft_loaded
    (isTransition : state.fsmState = .transition)
    (type : state.txEngEventReg.type = .tx)
    (isLoaded : state.txRxSarLoaded = true)
    (fits : state.currLength.toNat < 2 ^ 16) :
    state.callsLeft = state.currLength.toNat / tcpMss + 2 := by
  rw [callsLeft, isTransition, type, isLoaded, decide_eq_true fits]
  rfl

theorem callsLeft_le (state : TxEngState) : state.callsLeft ≤ 47 := by
  rw [callsLeft]
  split
  · exact Nat.zero_le _
  · split
    · split
      · rename_i fits
        rw [Bool.and_eq_true, decide_eq_true_eq] at fits
        have bound := fits.2
        rw [tcpMss_eq]
        omega
      · exact Nat.le_refl _
    · omega
    · omega
    all_goals exact Nat.le_of_ble_eq_true rfl

end TxEngState

/-- A call that works has the answers that its event needs. -/
theorem TxEngState.answered
    {state : TxEngState} (isTransition : state.fsmState = .transition)
    (notReset : state.txEngEventReg.type ≠ .rst)
    (works : state.waits = false) :
    (state.awaitsRxSar = true → state.rxSarRsps ≠ []) ∧
      (state.awaitsTxSar = true → state.txSarRsps ≠ []) := by
  have notResetTest : (state.txEngEventReg.type != .rst) = true :=
    bne_iff_ne.2 notReset
  rw [waits, isTransition] at works
  simp only [notResetTest, Bool.true_and, Bool.or_eq_false_iff,
    Bool.and_eq_false_imp] at works
  constructor
  · intro awaits none
    have absent := works.1 awaits
    rw [none] at absent
    cases absent
  · intro awaits none
    have absent := works.2 awaits
    rw [none] at absent
    cases absent

/-! ## One call -/

section Calls

variable {state : TxEngState}

/-- Where both answers are awaited, the branch without them is not taken. -/
theorem not_missing
    (isTransition : state.fsmState = .transition)
    (notReset : state.txEngEventReg.type ≠ .rst)
    (awaitsRx : state.awaitsRxSar = true)
    (awaitsTx : state.awaitsTxSar = true)
    (works : state.waits = false) :
    ¬ ∀ (rxRsp : RxSarLookupRsp) (rxLater : List RxSarLookupRsp)
        (txRsp : TxSarToTxEngRsp) (txLater : List TxSarToTxEngRsp),
        state.rxSarRsps = rxRsp :: rxLater →
        state.txSarRsps = txRsp :: txLater →
        False := by
  intro missing
  obtain ⟨rxThere, txThere⟩ :=
    TxEngState.answered isTransition notReset works
  obtain ⟨rxRsp, rxLater, rxRsps⟩ :=
    List.exists_cons_of_ne_nil (rxThere awaitsRx)
  obtain ⟨txRsp, txLater, txRsps⟩ :=
    List.exists_cons_of_ne_nil (txThere awaitsTx)
  exact missing rxRsp rxLater txRsp txLater rxRsps txRsps

/-- A `TX` call leaves two calls at least for the last data and a `FIN`, and
one less than the length needs where it fits the registers. -/
theorem txSend_callsLeft
    (sending : TxEngState) (rsp : TxSarToTxEngRsp)
    (window : TcpSessionBuffer) :
    (txSend sending rsp window).1.callsLeft ≤ 46 ∧
      (txSend sending rsp window).1.callsLeft + 1 ≤
        sending.currLength.toNat / tcpMss + 2 := by
  by_cases full :
      tcpMss ≤ sending.currLength.toNat ∧ tcpMss ≤ window.toNat
  · obtain ⟨enough, room⟩ := full
    have narrow := nextCurrLength_toNat enough
    have bound := sending.currLength.isLt
    rw [txSend_full sending rsp enough room]
    rw [TxEngState.callsLeft_loaded rfl rfl rfl]
    · simp only [BitVec.toNat_setWidth, narrow]
      rw [tcpMss_eq] at enough ⊢
      constructor
      · omega
      · omega
    · simp only [BitVec.toNat_setWidth, narrow]
      omega
  · have final :
        (txSend sending rsp window).1.callsLeft ≤ 1 := by
      by_cases fits : sending.currLength.toNat ≤ window.toNat
      · have below : sending.currLength.toNat < tcpMss := by
          omega
        rw [txSend, txIteration_short fits below]
        by_cases finFollows :
            (rsp.finIsReady &&
              (rsp.ackdEqNotAckd || sending.currLength == 0)) = true
        · apply TxEngState.callsLeft_fin
          simp only [txShortSegment, finFollows]
          rfl
        · rw [TxEngState.callsLeft_load]
          · exact Nat.zero_le 1
          · simp only [txShortSegment, finFollows]
            rfl
      · have below : window.toNat < tcpMss := by
          omega
        rw [txSend, txIteration_window (by omega) below,
          TxEngState.callsLeft_load rfl]
        exact Nat.zero_le 1
    constructor
    · omega
    · exact Nat.le_add_left_of_le (Nat.succ_le_succ final)

theorem txEngTx_callsLeft
    (isTransition : state.fsmState = .transition)
    (type : state.txEngEventReg.type = .tx)
    (works : state.waits = false) :
    (txEngTx state).1.callsLeft + 1 ≤ state.callsLeft := by
  have whole
      (wide :
        ¬ (state.txRxSarLoaded && state.currLength.toNat < 2 ^ 16)) :
      state.callsLeft = 47 := by
    rw [TxEngState.callsLeft, isTransition, type]
    exact if_neg wide
  rw [txEngTx]
  split
  · rename_i isLoaded
    have left := txSend_callsLeft state state.txSarRspReg state.remaining
    by_cases fits : state.currLength.toNat < 2 ^ 16
    · rw [TxEngState.callsLeft_loaded isTransition type isLoaded fits]
      exact left.2
    · have wide :
          (state.txRxSarLoaded && state.currLength.toNat < 2 ^ 16) =
            false := by
        rw [decide_eq_false fits, Bool.and_false]
      rw [whole (ne_true_of_eq_false wide)]
      exact Nat.succ_le_succ left.1
  · rename_i notLoaded
    rw [Bool.not_eq_true] at notLoaded
    have wide :
        (state.txRxSarLoaded && state.currLength.toNat < 2 ^ 16) =
          false := by
      rw [notLoaded, Bool.false_and]
    rw [whole (ne_true_of_eq_false wide)]
    split
    · exact Nat.succ_le_succ (txSend_callsLeft _ _ _).1
    · rename_i missing
      have awaits : (!state.txRxSarLoaded) = true := by
        rw [notLoaded, Bool.not_false]
      refine absurd missing (not_missing isTransition ?_ ?_ ?_ works)
      · rw [type]
        exact EventType.noConfusion
      · rw [TxEngState.awaitsRxSar, type]
        exact awaits
      · rw [TxEngState.awaitsTxSar, type]
        exact awaits

/-- A segment sent again leaves one segment less to come, or a `FIN`. -/
theorem rtSend_callsLeft
    (sending : TxEngState) (rsp : TxSarToTxEngRsp) (addrAckd : BitVec 32)
    (loaded : Bool) :
    { (rtSend sending rsp addrAckd).1 with
          txRxSarLoaded := loaded : TxEngState }.callsLeft + 1 ≤
      5 - sending.retransSegCnt.toNat := by
  have counted := sending.retransSegCnt.isLt
  by_cases more : tcpMss < rsp.usedLengthRst.toNat
  · rw [rtSend_more sending rsp addrAckd more]
    by_cases isLast : sending.retransSegCnt = 3
    · rw [TxEngState.callsLeft_load (if_pos isLast)]
      omega
    · have notLast : sending.retransSegCnt.toNat ≠ 3 :=
        fun same => isLast (BitVec.eq_of_toNat_eq same)
      have next :
          (sending.retransSegCnt + 1).toNat =
            sending.retransSegCnt.toNat + 1 := by
        rw [BitVec.toNat_add]
        exact Nat.mod_eq_of_lt (by change _ + 1 < 4; omega)
      simp only [TxEngState.callsLeft, if_neg isLast,
        TxEngState.setEventType, next]
      omega
  · rw [rtSend_last sending rsp addrAckd (Nat.le_of_not_lt more)]
    by_cases finIsSent : rsp.finIsSent = true
    · have final :=
        @TxEngState.callsLeft_fin
          { sending.setEventType
              (if rsp.finIsSent then
                .fin
              else
                sending.txEngEventReg.type) with
            fsmState := if rsp.finIsSent then .transition else .load
            txRxSarLoaded := loaded
            txSarRspReg := rsp
            tcpTxMetaReg :=
              { rtHeader sending with
                seqNumber := rsp.ackd
                length := rsp.usedLengthRst.setWidth 16 }
            currLength := rsp.usedLengthRst }
          (if_pos finIsSent)
      refine Nat.le_trans (Nat.succ_le_succ final) ?_
      omega
    · rw [TxEngState.callsLeft_load (if_neg finIsSent)]
      omega

theorem txEngRt_callsLeft
    (isTransition : state.fsmState = .transition)
    (type : state.txEngEventReg.type = .rt)
    (works : state.waits = false) :
    (txEngRt state).1.callsLeft + 1 ≤ state.callsLeft := by
  have whole : state.callsLeft = 5 - state.retransSegCnt.toNat := by
    rw [TxEngState.callsLeft, isTransition, type]
  rw [whole, txEngRt]
  split
  · exact rtSend_callsLeft _ _ _ true
  · rename_i missing
    refine absurd missing (not_missing isTransition ?_ ?_ ?_ works)
    · rw [type]
      exact EventType.noConfusion
    · rw [TxEngState.awaitsRxSar, type]
    · rw [TxEngState.awaitsTxSar, type]

theorem txEngRtCont_callsLeft
    (isTransition : state.fsmState = .transition)
    (type : state.txEngEventReg.type = .rtCont) :
    (txEngRtCont state).1.callsLeft + 1 ≤ state.callsLeft := by
  have whole : state.callsLeft = 5 - state.retransSegCnt.toNat := by
    rw [TxEngState.callsLeft, isTransition, type]
  rw [whole]
  exact rtSend_callsLeft state state.txSarRspReg _ _

/-! ### Segments without payload -/

theorem txEngAck_load
    (isTransition : state.fsmState = .transition)
    (type :
      state.txEngEventReg.type = .ack ∨
        state.txEngEventReg.type = .ackNodelay)
    (works : state.waits = false) :
    (txEngAck state).1.fsmState = .load := by
  rw [txEngAck]
  split
  · rfl
  · rename_i missing
    refine absurd missing (not_missing isTransition ?_ ?_ ?_ works)
    · rcases type with type | type
      · rw [type]
        exact EventType.noConfusion
      · rw [type]
        exact EventType.noConfusion
    · rcases type with type | type
      · rw [TxEngState.awaitsRxSar, type]
      · rw [TxEngState.awaitsRxSar, type]
    · rcases type with type | type
      · rw [TxEngState.awaitsTxSar, type]
      · rw [TxEngState.awaitsTxSar, type]

theorem txEngSyn_load
    (isTransition : state.fsmState = .transition)
    (type : state.txEngEventReg.type = .syn)
    (works : state.waits = false) :
    (txEngSyn state).1.fsmState = .load := by
  rw [txEngSyn]
  simp only []
  split
  · rename_i repeated
    split
    · rfl
    · rename_i missing
      have notReset : state.txEngEventReg.type ≠ .rst := by
        rw [type]
        exact EventType.noConfusion
      have awaits : state.awaitsTxSar = true := by
        rw [TxEngState.awaitsTxSar, type]
        exact bne_iff_ne.2 repeated
      exact
        absurd missing
          ((TxEngState.answered isTransition notReset works).2 awaits)
  · rfl

theorem txEngSynAck_load
    (isTransition : state.fsmState = .transition)
    (type : state.txEngEventReg.type = .synAck)
    (works : state.waits = false) :
    (txEngSynAck state).1.fsmState = .load := by
  rw [txEngSynAck]
  split
  · rfl
  · rename_i missing
    refine absurd missing (not_missing isTransition ?_ ?_ ?_ works)
    · rw [type]
      exact EventType.noConfusion
    · rw [TxEngState.awaitsRxSar, type]
    · rw [TxEngState.awaitsTxSar, type]

theorem txEngFin_load
    (isTransition : state.fsmState = .transition)
    (type : state.txEngEventReg.type = .fin)
    (works : state.waits = false) :
    (txEngFin state).1.fsmState = .load := by
  rw [txEngFin]
  split
  · rfl
  · rename_i notLoaded
    split
    · rfl
    · rename_i missing
      have awaits : (!state.txRxSarLoaded) = true := by
        rw [eq_false_of_ne_true notLoaded, Bool.not_false]
      refine absurd missing (not_missing isTransition ?_ ?_ ?_ works)
      · rw [type]
        exact EventType.noConfusion
      · rw [TxEngState.awaitsRxSar, type]
        exact awaits
      · rw [TxEngState.awaitsTxSar, type]
        exact awaits

theorem txEngRst_load : (txEngRst state).1.fsmState = .load := by
  rw [txEngRst]
  split
  · split
    · rfl
    · rfl
  · rfl

/-- A call that works takes the event one call closer to its end. -/
theorem transition_callsLeft
    (isTransition : state.fsmState = .transition)
    (works : state.waits = false) :
    (txEngTcpFsm state).1.callsLeft + 1 ≤ state.callsLeft := by
  have ends {next : TxEngState} (isLoad : next.fsmState = .load)
      (one : state.callsLeft = 1) :
      next.callsLeft + 1 ≤ state.callsLeft := by
    rw [TxEngState.callsLeft_load isLoad, one]
  have one {type : EventType} (isType : state.txEngEventReg.type = type)
      (isShort : type ≠ .tx ∧ type ≠ .rt ∧ type ≠ .rtCont) :
      state.callsLeft = 1 := by
    rw [TxEngState.callsLeft, isTransition, isType]
    cases type
    all_goals first | rfl | exact absurd rfl isShort.1 |
      exact absurd rfl isShort.2.1 | exact absurd rfl isShort.2.2
  rw [txEngTcpFsm, isTransition]
  simp only []
  split
  · exact txEngTx_callsLeft isTransition (by assumption) works
  · exact txEngRt_callsLeft isTransition (by assumption) works
  · exact txEngRtCont_callsLeft isTransition (by assumption)
  · rename_i type
    exact ends (txEngAck_load isTransition (Or.inl type) works)
      (one type (by decide))
  · rename_i type
    exact ends (txEngAck_load isTransition (Or.inr type) works)
      (one type (by decide))
  · rename_i type
    exact ends (txEngSyn_load isTransition type works)
      (one type (by decide))
  · rename_i type
    exact ends (txEngSynAck_load isTransition type works)
      (one type (by decide))
  · rename_i type
    exact ends (txEngFin_load isTransition type works)
      (one type (by decide))
  · rename_i type
    exact ends txEngRst_load (one type (by decide))

theorem txEngTcpFsm_rests
    (isLoad : state.fsmState = .load) (noEvents : state.events = []) :
    txEngTcpFsm state = ({ state with retransSegCnt := 0 }, []) := by
  simp only [txEngTcpFsm, isLoad, txEngLoad, noEvents]

/-- While an answer is missing nothing happens. -/
theorem txEngTcpFsm_waits
    (isTransition : state.fsmState = .transition)
    (waits : state.waits = true) : txEngTcpFsm state = (state, []) := by
  rw [TxEngState.waits, isTransition] at waits
  obtain ⟨notReset, missing⟩ := Bool.and_eq_true_iff.1 waits
  have isThere {awaits : Bool} {Rsp : Type} {taken left rsps : List Rsp}
      (absent : (awaits && rsps.isEmpty) = true)
      (split : rsps = taken ++ left)
      (count : taken.length = awaits.toNat) : False := by
    obtain ⟨isAwaited, isEmpty⟩ := Bool.and_eq_true_iff.1 absent
    rw [List.isEmpty_iff.1 isEmpty] at split
    rw [isAwaited, (List.append_eq_nil_iff.1 split.symm).1] at count
    cases count
  have call := transition_call isTransition
  rw [← @Prod.mk.eta _ _ (txEngTcpFsm state)]
  generalize (txEngTcpFsm state).1 = next at call ⊢
  generalize (txEngTcpFsm state).2 = msgs at call ⊢
  cases call with
  | waits =>
      rfl
  | givesUp isReset _ _ =>
      exact absurd isReset (bne_iff_ne.1 notReset)
  | takes takes =>
      obtain ⟨rxTaken, rxSplit, rxCount⟩ := takes.rxSarRsps
      obtain ⟨txTaken, txSplit, txCount⟩ := takes.txSarRsps
      rcases Bool.or_eq_true_iff.1 missing with noRx | noTx
      · exact (isThere noRx rxSplit rxCount).elim
      · exact (isThere noTx txSplit txCount).elim

end Calls

/-! ## Whole runs -/

/-- What reaches the machine, one thing at a time. -/
inductive TxEngInput where
  | call
  | event (event : EventWithTuple)
  | rxSarRsp (rsp : RxSarLookupRsp)
  | txSarRsp (rsp : TxSarToTxEngRsp)
deriving DecidableEq, Repr

namespace TxEngState

def respond (state : TxEngState) :
    TxEngInput → TxEngState × List TxEngMsg
  | .call => txEngTcpFsm state
  | .event event => ({ state with events := state.events ++ [event] }, [])
  | .rxSarRsp rsp =>
      ({ state with rxSarRsps := state.rxSarRsps ++ [rsp] }, [])
  | .txSarRsp rsp =>
      ({ state with txSarRsps := state.txSarRsps ++ [rsp] }, [])

/-- One for a call that finds something to work on. -/
def work (state : TxEngState) : TxEngInput → Nat
  | .call => (!state.waits).toNat
  | .event _ | .rxSarRsp _ | .txSarRsp _ => 0

variable {state : TxEngState}

theorem call_pays (state : TxEngState) :
    (!state.waits).toNat + (txEngTcpFsm state).1.callsLeft ≤
      48 * (txEngTcpFsm state).2.count .readCount + state.callsLeft := by
  cases fsmState : state.fsmState with
  | load =>
      cases queued : state.events with
      | nil =>
          have rests : state.waits = true := by
            rw [waits, fsmState]
            exact List.isEmpty_iff.2 queued
          have nextLeft :
              { state with retransSegCnt := 0 }.callsLeft = 0 :=
            callsLeft_load fsmState
          rw [txEngTcpFsm_rests fsmState queued, rests, nextLeft]
          exact Nat.zero_le _
      | cons event later =>
          have left := callsLeft_le (txEngTcpFsm state).1
          have taken : 0 < (txEngTcpFsm state).2.count .readCount := by
            rw [List.count_pos_iff]
            simp only [txEngTcpFsm, fsmState, txEngLoad, queued]
            exact List.mem_cons_self
          have one := Bool.toNat_le (!state.waits)
          omega
  | transition =>
      cases waits : state.waits with
      | true =>
          rw [txEngTcpFsm_waits fsmState waits]
          exact Nat.add_le_add_right (Nat.zero_le _) _
      | false =>
          have left := transition_callsLeft fsmState waits
          change 1 + _ ≤ _
          omega

theorem respond_pays (state : TxEngState) (input : TxEngInput) :
    state.work input + (state.respond input).1.callsLeft ≤
      48 * (state.respond input).2.count .readCount + state.callsLeft := by
  cases input with
  | call =>
      exact call_pays state
  | event | rxSarRsp | txSarRsp =>
      exact Nat.add_le_add (Nat.zero_le _) (Nat.le_refl _)

end TxEngState

/-- Whatever arrives and in whatever order, the calls that do something are
at most 48 for each event taken, and what is left of the event in hand. -/
theorem events_take_bounded_calls
    (state : TxEngState) (inputs : List TxEngInput) :
    total TxEngState.respond TxEngState.work state inputs ≤
      48 * (outputs TxEngState.respond state inputs).count .readCount +
        state.callsLeft := by
  have bounded :=
    @total_le _ _ _ _ TxEngState.work _ TxEngState.callsLeft
      TxEngState.respond_pays state inputs
  have granted :=
    @total_countP _ _ _ TxEngState.respond (· == .readCount) 48 state
      inputs
  exact Nat.le_trans bounded (Nat.add_le_add_right (Nat.le_of_eq granted) _)

end TcpOffload
