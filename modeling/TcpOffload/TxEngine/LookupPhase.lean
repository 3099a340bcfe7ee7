import TcpOffload.Library.Lookup
import TcpOffload.TxEngine.Answers

/-!
# The lookup of the current event

`TxEngTcpFsm` asks `tx_sar_table` once for an event and writes only behind
the answer.  What is on its way to the table is thus writes, and behind them
at most the lookup.
-/

namespace TcpOffload

open Lookup

namespace TxEngState

/-- A reset of a session that is handled has its answer. -/
def ResetsAnswered (state : TxEngState) : Prop :=
  state.fsmState = .transition → state.txEngEventReg.type = .rst →
    state.txEngEventReg.hasSessionId = true → state.txSarRsps ≠ []

instance (state : TxEngState) : Decidable state.ResetsAnswered :=
  inferInstanceAs (Decidable (_ → _ → _ → _))

/-- `reqs` are the requests on their way to the table. -/
def LookupSent
    (state : TxEngState) (reqs : List TxEngToTxSarReq) (sent : Bool) :
    Prop :=
  Phase (fun writes => ∀ req ∈ writes, req.write = true)
    (fun _ => True) (TxEngToTxSarReq.lookup state.sessionId) sent
    state.txSarRsps reqs

/-- Only the lookup that the current event awaits is out. -/
def LooksUpOnce
    (state : TxEngState) (reqs : List TxEngToTxSarReq) : Prop :=
  ∃ sent, state.LookupSent reqs sent ∧
    (sent = true →
      state.fsmState = .transition ∧ state.awaitsTxSar = true)

/-- What is known when the table serves the lookup. -/
structure LookupServed
    (state : TxEngState) (req : TxEngToTxSarReq)
    (later : List TxEngToTxSarReq) : Prop where
  isLookup : req = TxEngToTxSarReq.lookup state.sessionId
  noneLater : later = []
  noRsp : state.txSarRsps = []
  inHand : state.fsmState = .transition
  awaits : state.awaitsTxSar = true

namespace LooksUpOnce

variable {state : TxEngState} {reqs later : List TxEngToTxSarReq}
variable {req : TxEngToTxSarReq}

theorem start : LooksUpOnce TxEngState.start [] :=
  ⟨false, Phase.idle fun _ member => (by cases member),
    fun sent => (by cases sent)⟩

/-- Nothing is out but writes. -/
theorem of_writes (noRsp : state.txSarRsps = [])
    (writes : ∀ req ∈ reqs, req.write = true) :
    state.LooksUpOnce reqs := by
  refine ⟨false, ?_, fun sent => (by cases sent)⟩
  rw [LookupSent, noRsp]
  exact Phase.idle writes

theorem of_not_sent (inStep : state.LooksUpOnce reqs)
    (notSent :
      ¬ (state.fsmState = .transition ∧ state.awaitsTxSar = true)) :
    state.txSarRsps = [] ∧ ∀ req ∈ reqs, req.write = true := by
  obtain ⟨sent, phase, waits⟩ := inStep
  have idle : sent = false :=
    Bool.eq_false_iff.2 fun isSent => notSent (waits isSent)
  rw [LookupSent, idle] at phase
  exact phase.of_idle

theorem in_load (inStep : state.LooksUpOnce reqs)
    (isLoad : state.fsmState = .load) :
    state.txSarRsps = [] ∧ ∀ req ∈ reqs, req.write = true := by
  refine inStep.of_not_sent fun both => ?_
  rw [isLoad] at both
  cases both.1

/-- With an answer there nothing else is out. -/
theorem of_answered {rsp : TxSarToTxEngRsp} {rest : List TxSarToTxEngRsp}
    (inStep : state.LooksUpOnce reqs)
    (answered : state.txSarRsps = rsp :: rest) :
    rest = [] ∧ reqs = [] := by
  obtain ⟨sent, phase, _⟩ := inStep
  rw [LookupSent, answered] at phase
  exact ⟨phase.of_answered.2.2.1, phase.of_answered.2.2.2⟩

/-! ### Calls of the machine -/

theorem call_load (inStep : state.LooksUpOnce reqs)
    (isLoad : state.fsmState = .load) :
    (txEngTcpFsm state).1.LooksUpOnce
      (reqs ++ reqsToTxSar (txEngTcpFsm state).2) := by
  obtain ⟨noRsp, writes⟩ := inStep.in_load isLoad
  have called : txEngTcpFsm state = txEngLoad state := by
    rw [txEngTcpFsm, isLoad]
  rw [called, txEngLoad]
  split
  · refine of_writes noRsp fun req member => ?_
    rcases List.mem_append.1 member with earlier | new
    · exact writes req earlier
    · cases new
  · rename_i event later queued
    have awaits :=
      @TxEngState.awaits_of_loaded
        { state with
          fsmState := .transition
          txRxSarLoaded := false
          txEngEventReg := event
          retransSegCnt := 0
          events := later } rfl
    simp only []
    rw [reqsToTxSar_lookups]
    cases looksUp : event.looksUpTxSar with
    | false =>
        refine of_writes noRsp fun req member => ?_
        rw [if_neg Bool.false_ne_true, List.append_nil] at member
        exact writes req member
    | true =>
        refine ⟨true, ?_, fun _ => ⟨rfl, awaits.1.trans looksUp⟩⟩
        rw [LookupSent]
        simp only [noRsp]
        exact Phase.asked writes

theorem call_transition (inStep : state.LooksUpOnce reqs)
    (isTransition : state.fsmState = .transition)
    (answered : state.ResetsAnswered) :
    (txEngTcpFsm state).1.LooksUpOnce
      (reqs ++ reqsToTxSar (txEngTcpFsm state).2) := by
  have call := transition_call isTransition
  generalize (txEngTcpFsm state).1 = next at call
  generalize (txEngTcpFsm state).2 = msgs at call
  cases call with
  | waits =>
      change state.LooksUpOnce (reqs ++ [])
      rw [List.append_nil]
      exact inStep
  | givesUp isRst withSession noRsp =>
      exact absurd noRsp (answered isTransition isRst withSession)
  | takes takes =>
      obtain ⟨taken, split, count⟩ := takes.txSarRsps
      have left : next.txSarRsps = [] ∧ ∀ req ∈ reqs, req.write = true := by
        cases awaits : state.awaitsTxSar with
        | false =>
            obtain ⟨noRsp, writes⟩ :=
              inStep.of_not_sent fun both =>
                Bool.false_ne_true (awaits.symm.trans both.2)
            rw [noRsp] at split
            exact ⟨(List.append_eq_nil_iff.1 split.symm).2, writes⟩
        | true =>
            rw [awaits] at count
            obtain ⟨rsp, rfl⟩ := List.length_eq_one_iff.1 count
            obtain ⟨noMore, noReqs⟩ := inStep.of_answered split
            rw [noReqs]
            exact ⟨noMore, fun req member => (by cases member)⟩
      refine of_writes left.1 fun req member => ?_
      rcases List.mem_append.1 member with earlier | new
      · exact left.2 req earlier
      · exact takes.writesOnly.txSar req new

theorem call (inStep : state.LooksUpOnce reqs)
    (answered : state.ResetsAnswered) :
    (txEngTcpFsm state).1.LooksUpOnce
      (reqs ++ reqsToTxSar (txEngTcpFsm state).2) := by
  cases fsmState : state.fsmState with
  | load =>
      exact inStep.call_load fsmState
  | transition =>
      exact inStep.call_transition fsmState answered

/-! ### Calls of the table -/

theorem serveWrite (inStep : state.LooksUpOnce (req :: later))
    (isWrite : req.write = true) : state.LooksUpOnce later := by
  obtain ⟨sent, phase, waits⟩ := inStep
  refine ⟨sent, phase.serveWrite ?_ ?_, waits⟩
  · intro isLookup
    rw [isLookup] at isWrite
    cases isWrite
  · exact fun rest writes other member =>
      writes other (List.mem_cons_of_mem req member)

theorem lookupServed (inStep : state.LooksUpOnce (req :: later))
    (isLookup : req.write = false) : state.LookupServed req later := by
  obtain ⟨sent, phase, waits⟩ := inStep
  obtain ⟨isAsked, isSent, noRsp, noneLater, _⟩ :=
    phase.of_lookup fun writes all member =>
      Bool.false_ne_true (isLookup.symm.trans (all req member))
  exact
    ⟨isAsked, noneLater, noRsp, (waits isSent).1, (waits isSent).2⟩

theorem serveLookup (inStep : state.LooksUpOnce (req :: later))
    (isLookup : req.write = false) (rsp : TxSarToTxEngRsp) :
    LooksUpOnce { state with txSarRsps := state.txSarRsps ++ [rsp] }
      later := by
  obtain ⟨sent, phase, waits⟩ := inStep
  refine ⟨sent, ?_, waits⟩
  exact
    (phase.serveLookup fun writes all member =>
      Bool.false_ne_true (isLookup.symm.trans (all req member))).2.2 rsp
        trivial

end LooksUpOnce

end TxEngState

end TcpOffload
