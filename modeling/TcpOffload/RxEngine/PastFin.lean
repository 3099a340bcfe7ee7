import TcpOffload.Library.LastingValue
import TcpOffload.RxEngine.StreamRecord
import TcpOffload.StateTable.Clients
import TcpOffload.TxAppIntf.ConnectionHandler

/-!
# Payload behind the peer's FIN

`RxEngTcpFsm`, the state table with its three writers and the RX SAR table
side by side.  Once the machine has taken the FIN of a session's peer, the
session's state is past it until the session is opened again; of the states
past it, two still take payload.
-/

namespace TcpOffload

open Clocked Guarded KeyedLock Lookup

/-! ## States past the FIN -/

/-- The states a session can be in when its peer has sent a FIN. -/
def SessionState.pastFin : SessionState → Bool
  | .closing | .lastAck | .timeWait | .closed | .synSent => true
  | .synReceived | .established | .finWait1 | .finWait2 => false

namespace SessionState

variable {state : SessionState}

/-- Two of the states past the FIN are states whose ACKs are looked at. -/
theorem takesAck_of_pastFin (past : state.pastFin = true) :
    state.takesAck = true ↔ state = .closing ∨ state = .lastAck := by
  revert past
  cases state <;> decide

theorem not_takesFin_of_pastFin (past : state.pastFin = true) :
    state.takesFin = false := by
  revert past
  cases state <;> decide

end SessionState

/-- The payload and the FIN of a segment leave no trace: nothing is stored,
announced or let through, and `recvd` only moves where a connection starts. -/
structure TakesNoPayload (msgs : List RxEngMsg) : Prop where
  nothing : WritesNothing msgs
  recvd : ∀ req ∈ (rxWrites msgs).rxSarWrites, req.init = true

/-- The segment is a FIN that is taken. -/
def RxEngState.isTakenFin (state : RxEngState) : Bool :=
  state.rxEngCtrlBits == 5 && state.takesFin

/-- Payload of an ACK that the machine takes in CLOSING or LAST_ACK. -/
structure RxEngState.IsLatePayload (state : RxEngState) : Prop where
  isAck : state.rxEngCtrlBits = 1
  sessionState :
    state.sessionStateReg = .closing ∨ state.sessionStateReg = .lastAck
  inside :
    state.txSarReg.acceptsAck state.tcpRxMetaReg.header.ackNumber = true
  some : state.tcpRxMetaReg.header.payloadLength ≠ 0
  inOrder :
    state.rxSarReg.acceptsPayload state.tcpRxMetaReg.header = true

namespace RxEngState

variable {state : RxEngState}

theorem takesNoPayload_iff
    (flags :
      state.rxEngCtrlBits = state.tcpRxMetaReg.header.ctrlBits) :
    TakesNoPayload (rxEngHandle state).2 ↔
      state.arrival.accepted = false := by
  have moves {req : RxEngToRxSarReq}
      (only : (rxWrites (rxEngHandle state).2).rxSarWrites = [req])
      (notInit : req.init = false) :
      ¬ TakesNoPayload (rxEngHandle state).2 := by
    intro none
    have isInit := none.recvd req (by rw [only]; exact List.mem_cons_self)
    rw [notInit] at isInit
    cases isInit
  cases rxEngHandle_stream state flags with
  | kept refused nothing noWrites =>
      refine iff_of_true ⟨nothing, fun req member => ?_⟩ refused
      rw [noWrites] at member
      cases member
  | opened refused nothing one isInit =>
      refine iff_of_true ⟨nothing, fun req member => ?_⟩ refused
      rw [one] at member
      rw [List.mem_singleton.1 member]
      exact isInit
  | taken accepted _ _ _ one =>
      exact iff_of_false (moves one rfl) (by rw [accepted]; decide)
  | finished accepted _ _ _ one =>
      exact iff_of_false (moves one rfl) (by rw [accepted]; decide)

/-- Past the FIN only the ACKs of two states have their payload taken. -/
theorem accepted_iff
    (flags :
      state.rxEngCtrlBits = state.tcpRxMetaReg.header.ctrlBits)
    (past : state.sessionStateReg.pastFin = true) :
    state.arrival.accepted = true ↔ state.IsLatePayload := by
  by_cases isAck : state.rxEngCtrlBits = 1
  · have headerAck : state.arrival.segment.header.ctrlBits = 1 :=
      flags.symm.trans isAck
    rw [RxArrival.accepted_of_ack headerAck]
    simp only [arrival, Bool.and_eq_true,
      SessionState.takesAck_of_pastFin past]
    constructor
    · rintro ⟨⟨⟨sessionState, inside⟩, inOrder⟩, hasPayload⟩
      refine ⟨isAck, sessionState, inside, ?_, inOrder⟩
      intro empty
      rw [TcpHeaderMeta.hasPayload_of_zero empty] at hasPayload
      cases hasPayload
    · rintro ⟨-, sessionState, inside, some, inOrder⟩
      exact
        ⟨⟨⟨sessionState, inside⟩, inOrder⟩,
          TcpHeaderMeta.hasPayload_of_ne_zero some⟩
  · have noLate : ¬ state.IsLatePayload := fun late => isAck late.isAck
    refine iff_of_false ?_ noLate
    rw [Bool.not_eq_true]
    by_cases isFin : state.rxEngCtrlBits = 5
    · have headerFin : state.arrival.segment.header.ctrlBits = 5 :=
        flags.symm.trans isFin
      have refuses : state.arrival.sessionState.takesFin = false :=
        SessionState.not_takesFin_of_pastFin past
      rw [RxArrival.accepted_of_fin headerFin, refuses]
      rfl
    · have notAck : state.arrival.segment.header.ctrlBits ≠ 1 :=
        fun headerAck => isAck (flags.trans headerAck)
      have notFin : state.arrival.segment.header.ctrlBits ≠ 5 :=
        fun headerFin => isFin (flags.trans headerFin)
      exact RxArrival.accepted_of_other notAck notFin

/-- What an accepted ACK makes of a state past the FIN is past it. -/
theorem pastFin_ackedState
    (past : state.sessionStateReg.pastFin = true) :
    state.ackedState.pastFin = true := by
  rw [ackedState]
  revert past
  cases state.sessionStateReg <;> split <;> decide

theorem pastFin_finState : state.finState.pastFin = true := by
  rw [finState]
  split
  · rfl
  · split <;> rfl

end RxEngState

/-- What handling a segment does to a state past the FIN. -/
inductive PastExit (state : RxEngState) : Prop
  | silent :
      (rxWrites (rxEngHandle state).2).stateReqs = [] →
      state.isTakenFin = false →
      PastExit state
  | opens {next : SessionState} :
      (rxWrites (rxEngHandle state).2).stateReqs =
        [state.updateReq next] →
      opensSession state.tcpRxMetaReg.sessionId (rxEngHandle state).2 =
        true →
      PastExit state
  | moves {next : SessionState} :
      (rxWrites (rxEngHandle state).2).stateReqs =
        [state.updateReq next] →
      (state.sessionStateReg.pastFin = true ∨ state.isTakenFin = true →
        next.pastFin = true) →
      PastExit state

theorem rxEngHandle_past (state : RxEngState) : PastExit state := by
  have exit := rxEngHandle_exit state
  have own := rxEngHandle_ownWrites state
  generalize isWrites : rxWrites (rxEngHandle state).2 = writes at exit
  have opens {rxReq : RxEngToRxSarReq} {next : SessionState}
      (one : writes.rxSarWrites = [rxReq]) (isInit : rxReq.init = true)
      (updates : writes.stateReqs = [state.updateReq next]) :
      PastExit state := by
    have member :
        rxReq ∈ (rxWrites (rxEngHandle state).2).rxSarWrites := by
      rw [isWrites, one]
      exact List.mem_cons_self
    refine PastExit.opens (isWrites ▸ updates) ?_
    rw [opensSession, own.rxSarReqs, isWrites, one, List.any_cons, isInit,
      (own.of_rxSarWrites member).2, beq_self_eq_true]
    rfl
  have notFin {bits : BitVec 4} (flags : state.rxEngCtrlBits = bits)
      (isOther : bits ≠ 5) : state.isTakenFin = false := by
    rw [RxEngState.isTakenFin, flags, beq_eq_false_iff_ne.2 isOther]
    rfl
  have moves {next : SessionState}
      (noFin : state.isTakenFin = false)
      (updates : writes.stateReqs = [state.updateReq next])
      (past :
        state.sessionStateReg.pastFin = true → next.pastFin = true) :
      PastExit state := by
    refine PastExit.moves (isWrites ▸ updates) fun either => ?_
    rcases either with before | isFin
    · exact past before
    · rw [noFin] at isFin
      cases isFin
  cases exit with
  | ackOutside isAck =>
      exact
        PastExit.silent (by rw [isWrites]) (notFin isAck (by decide))
  | ackInside isAck | ackDropped isAck | ackTaken isAck =>
      exact
        moves (notFin isAck (by decide)) rfl
          RxEngState.pastFin_ackedState
  | ackRefused isAck =>
      exact moves (notFin isAck (by decide)) rfl id
  | synTaken _ _ isInit =>
      exact opens rfl isInit rfl
  | synAckTaken _ _ isInit =>
      exact opens rfl isInit rfl
  | finTaken =>
      exact
        PastExit.moves (by rw [isWrites])
          fun _ => RxEngState.pastFin_finState
  | finRefused isFin refuses =>
      refine moves ?_ rfl id
      rw [RxEngState.isTakenFin, refuses, Bool.and_false]
  | releases _ otherFlags leads =>
      refine moves ?_ rfl fun past => ?_
      · rw [RxEngState.isTakenFin, beq_eq_false_iff_ne.2 otherFlags]
        rfl
      · rcases leads with same | closed
        · rw [same]
          exact past
        · rw [closed]
          rfl

end TcpOffload
