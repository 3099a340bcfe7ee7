import TcpOffload.Library.Process
import TcpOffload.RxEngine.Fsm

/-!
# The exits of `RxEngTcpFsm`

A segment with the answers to its lookups, the outputs by kind, and one list
of all the ways in which handling a segment can end.
-/

namespace TcpOffload

open Clocked

/-! ## Outputs by kind -/

namespace RxEngMsg

def stateReq : RxEngMsg → Option StateTableReq
  | .sttableReq req => some req
  | _ => none

def decision : RxEngMsg → Option Bool
  | .droppedByRxFsm drop => some drop
  | _ => none

def memWrite : RxEngMsg → Option MemBufferRWCmd
  | .memCmd cmd => some cmd
  | _ => none

def rxSarWrite : RxEngMsg → Option RxEngToRxSarReq
  | .rxSarReq req => if req.write then some req else none
  | _ => none

def txSarWrite : RxEngMsg → Option RxEngToTxSarReq
  | .txSarReq req => if req.write then some req else none
  | _ => none

end RxEngMsg

/-- What goes to the tables, to the memory and to the payload dropper, each
in the order written. -/
structure RxWrites where
  stateReqs : List StateTableReq
  decisions : List Bool
  memCmds : List MemBufferRWCmd
  rxSarWrites : List RxEngToRxSarReq
  txSarWrites : List RxEngToTxSarReq
deriving DecidableEq, Repr

def rxWrites (msgs : List RxEngMsg) : RxWrites where
  stateReqs := msgs.filterMap RxEngMsg.stateReq
  decisions := msgs.filterMap RxEngMsg.decision
  memCmds := msgs.filterMap RxEngMsg.memWrite
  rxSarWrites := msgs.filterMap RxEngMsg.rxSarWrite
  txSarWrites := msgs.filterMap RxEngMsg.txSarWrite

namespace RxWrites

/-- One list of writes behind another. -/
def append (first second : RxWrites) : RxWrites where
  stateReqs := first.stateReqs ++ second.stateReqs
  decisions := first.decisions ++ second.decisions
  memCmds := first.memCmds ++ second.memCmds
  rxSarWrites := first.rxSarWrites ++ second.rxSarWrites
  txSarWrites := first.txSarWrites ++ second.txSarWrites

end RxWrites

theorem rxWrites_append (first second : List RxEngMsg) :
    rxWrites (first ++ second) =
      (rxWrites first).append (rxWrites second) := by
  simp only [rxWrites, RxWrites.append, List.filterMap_append]

/-! ## A segment and its answers -/

/-- A segment together with what the tables answer for it.  The TX SAR table
is asked only about segments with the ACK flag. -/
structure RxArrival where
  segment : RxEngFsmMetaData
  sessionState : SessionState
  rxSar : RxSarTableEntry
  txSar : TxSarToRxEngRsp
deriving DecidableEq, Repr

namespace RxEngState

/-- The machine in `LOAD` with one segment queued and its answers at hand. -/
def feed (regs : RxEngState) (arrival : RxArrival) : RxEngState :=
  { regs with
    fsmState := .load
    rxEngSentTxSarReq := false
    metaDatas := [arrival.segment]
    sttableRsps := [arrival.sessionState]
    rxSarRsps := [arrival.rxSar]
    txSarRsps :=
      if arrival.segment.header.ack then [arrival.txSar] else [] }

/-- The registers with which the cases on the flags are entered.  Without the
ACK flag `tx_sar_reg` is the one of an earlier segment. -/
def answered (regs : RxEngState) (arrival : RxArrival) : RxEngState :=
  { regs with
    fsmState := .load
    tcpRxMetaReg := arrival.segment
    rxEngSentTxSarReq := false
    rxEngCtrlBits := arrival.segment.header.ctrlBits
    sessionStateReg := arrival.sessionState
    rxSarReg := arrival.rxSar
    txSarReg :=
      if arrival.segment.header.ack then
        arrival.txSar
      else
        regs.txSarReg
    metaDatas := []
    sttableRsps := []
    rxSarRsps := []
    txSarRsps := [] }

end RxEngState

/-- The machine handles the segment: it writes `msgs` and comes to rest. -/
def HandlesSegment
    (regs : RxEngState) (arrival : RxArrival)
    (msgs : List RxEngMsg) (final : RxEngState) : Prop :=
  Yields rxEngTcpFsm (regs.feed arrival) msgs final

theorem HandlesSegment.unique
    {regs first second : RxEngState} {arrival : RxArrival}
    {msgs other : List RxEngMsg}
    (left : HandlesSegment regs arrival msgs first)
    (right : HandlesSegment regs arrival other second) :
    msgs = other ∧ first = second :=
  Yields.unique left right

/-- The lookups of a segment. -/
def rxLookups (segment : RxEngFsmMetaData) : List RxEngMsg :=
  [.sttableReq (StateTableReq.lookup segment.sessionId),
      .rxSarReq (RxEngToRxSarReq.lookup segment.sessionId)] ++
    if segment.header.ack then
      [.txSarReq (RxEngToTxSarReq.lookup segment.sessionId)]
    else
      []

theorem rxWrites_rxLookups (segment : RxEngFsmMetaData) :
    rxWrites (rxLookups segment) =
      ⟨[StateTableReq.lookup segment.sessionId], [], [], [], []⟩ := by
  rw [rxLookups]
  split <;> rfl

/-- The cases change no more than two registers. -/
theorem rxEngHandle_regs (state : RxEngState) :
    ∃ txSarReg txWinScale,
      (rxEngHandle state).1 =
        { state with txSarReg := txSarReg, txWinScale := txWinScale } := by
  have unchanged : state =
      { state with
        txSarReg := state.txSarReg, txWinScale := state.txWinScale } :=
    rfl
  rw [rxEngHandle]
  split
  · rw [rxEngAck]
    split
    · exact ⟨_, state.txWinScale, rfl⟩
    · exact ⟨_, _, unchanged⟩
  split
  · rw [rxEngSyn]
    split
    · exact ⟨state.txSarReg, _, rfl⟩
    · exact ⟨state.txSarReg, _, rfl⟩
    · split <;> exact ⟨_, _, unchanged⟩
    · exact ⟨_, _, unchanged⟩
  split
  · rw [rxEngSynAck]
    split
    · split
      · exact ⟨state.txSarReg, _, rfl⟩
      · exact ⟨_, _, unchanged⟩
    · exact ⟨_, _, unchanged⟩
  split
  · rw [rxEngFinAck]
    split <;> exact ⟨_, _, unchanged⟩
  · exact ⟨_, _, unchanged⟩

/-- A segment takes the lookups and then its case. -/
theorem handlesSegment (regs : RxEngState) (arrival : RxArrival) :
    HandlesSegment regs arrival
      (rxLookups arrival.segment ++
        (rxEngHandle (regs.answered arrival)).2)
      (rxEngHandle (regs.answered arrival)).1 := by
  have load :
      rxEngTcpFsm (regs.feed arrival) =
        ({ regs.feed arrival with
            fsmState := .transition
            tcpRxMetaReg := arrival.segment
            rxEngSentTxSarReq := arrival.segment.header.ack
            rxEngCtrlBits := arrival.segment.header.ctrlBits
            metaDatas := [] },
          rxLookups arrival.segment) := by
    simp only [rxEngTcpFsm, RxEngState.feed, rxEngLoad, Bool.or_false]
    rfl
  have transition :
      rxEngTcpFsm
          { regs.feed arrival with
            fsmState := .transition
            tcpRxMetaReg := arrival.segment
            rxEngSentTxSarReq := arrival.segment.header.ack
            rxEngCtrlBits := arrival.segment.header.ctrlBits
            metaDatas := [] } =
        rxEngHandle (regs.answered arrival) := by
    cases withAck : arrival.segment.header.ack with
    | true =>
        simp only [rxEngTcpFsm, RxEngState.feed, rxEngTransition,
          RxEngState.takeAnswers, RxEngState.answered, withAck, if_true]
    | false =>
        simp only [rxEngTcpFsm, RxEngState.feed, rxEngTransition,
          RxEngState.takeAnswers, RxEngState.answered, withAck,
          Bool.false_eq_true, if_false]
  have run :=
    Runs.head load
      (Runs.head transition
        (Runs.refl (rxEngHandle (regs.answered arrival)).1))
  rw [List.append_nil] at run
  refine ⟨run, ?_⟩
  obtain ⟨txSarReg, txWinScale, final⟩ :=
    rxEngHandle_regs (regs.answered arrival)
  rw [Idle, final]
  rfl

theorem TcpHeaderMeta.ctrlBits_ack (header : TcpHeaderMeta) :
    header.ctrlBits.getLsbD 0 = header.ack := by
  have flags :
      ∀ rst fin syn ack : Bool,
        (BitVec.ofBool rst ++ BitVec.ofBool fin ++ BitVec.ofBool syn ++
            BitVec.ofBool ack).getLsbD 0 =
          ack := by
    decide
  exact flags header.rst header.fin header.syn header.ack

theorem TcpHeaderMeta.ack_of_ctrlBits
    {header : TcpHeaderMeta}
    (withAck : header.ctrlBits = 1 ∨ header.ctrlBits = 5) :
    header.ack = true := by
  rw [← header.ctrlBits_ack]
  rcases withAck with isAck | isFin
  · rw [isAck]
    rfl
  · rw [isFin]
    rfl

/-- With the ACK flag the machine works with the table's answer. -/
theorem RxEngState.answered_txSarReg
    (regs : RxEngState) {arrival : RxArrival}
    (withAck :
      arrival.segment.header.ctrlBits = 1 ∨
        arrival.segment.header.ctrlBits = 5) :
    (regs.answered arrival).txSarReg = arrival.txSar :=
  if_pos (TcpHeaderMeta.ack_of_ctrlBits withAck)

/-- With the answers the machine goes back to `LOAD`, and the segment stays
the one in hand. -/
structure TakesAnswers (state loaded : RxEngState) : Prop where
  fsmState : loaded.fsmState = .load
  segment : loaded.tcpRxMetaReg = state.tcpRxMetaReg
  ctrlBits : loaded.rxEngCtrlBits = state.rxEngCtrlBits
  sentCleared : loaded.rxEngSentTxSarReq = false
  sttableRsps :
    state.sttableRsps = loaded.sessionStateReg :: loaded.sttableRsps
  rxSarRsps : state.rxSarRsps = loaded.rxSarReg :: loaded.rxSarRsps
  txSarRsps :
    state.rxEngSentTxSarReq = true →
      state.txSarRsps = loaded.txSarReg :: loaded.txSarRsps
  txSarRspsKept :
    state.rxEngSentTxSarReq = false →
      loaded.txSarRsps = state.txSarRsps

theorem takesAnswers
    {state loaded : RxEngState}
    (answers : state.takeAnswers = some loaded) :
    TakesAnswers state loaded := by
  rw [RxEngState.takeAnswers] at answers
  split at answers
  · rename_i sttableEq rxSarEq
    cases sent : state.rxEngSentTxSarReq with
    | true =>
        rw [sent, if_pos rfl] at answers
        split at answers
        · rename_i txSarEq
          cases answers
          exact
            ⟨rfl, rfl, rfl, rfl, sttableEq, rxSarEq, fun _ => txSarEq,
              fun notSent => absurd (sent.symm.trans notSent) (by decide)⟩
        · cases answers
    | false =>
        rw [sent, if_neg Bool.false_ne_true] at answers
        cases answers
        exact
          ⟨rfl, rfl, rfl, rfl, sttableEq, rxSarEq,
            fun isSent => absurd (sent.symm.trans isSent) (by decide),
            fun _ => rfl⟩
  · cases answers

/-! ## The exits -/

/-- Where acknowledging everything leads. -/
def SessionState.afterAckedAll : SessionState → SessionState
  | .synReceived => .established
  | .closing => .timeWait
  | .lastAck => .closed
  | other => other

namespace RxEngState

/-- The state an ACK inside the send window leads to. -/
def ackedState (state : RxEngState) : SessionState :=
  if state.tcpRxMetaReg.header.ackNumber = state.txSarReg.nextByte then
    state.sessionStateReg.afterAckedAll
  else
    state.sessionStateReg

/-- The state a FIN that was taken leads to. -/
def finState (state : RxEngState) : SessionState :=
  if state.sessionStateReg = .established then
    .lastAck
  else if
      state.tcpRxMetaReg.header.ackNumber = state.txSarReg.nextByte then
    .timeWait
  else
    .closing

/-- The test of the FIN+ACK case. -/
def takesFin (state : RxEngState) : Bool :=
  state.sessionStateReg.takesFin &&
    state.rxSarReg.recvd == state.tcpRxMetaReg.header.seqNumber

def updateReq (state : RxEngState) (next : SessionState) : StateTableReq :=
  StateTableReq.update state.tcpRxMetaReg.sessionId next

/-- The sequence number behind the segment's payload. -/
def payloadEnd (state : RxEngState) : BitVec 32 :=
  state.tcpRxMetaReg.header.seqNumber +
    state.tcpRxMetaReg.header.payloadLength.setWidth 32

end RxEngState

/-- The ways in which handling a segment can end, with all it writes. -/
inductive RxExit (state : RxEngState) : RxWrites → Prop
  | ackOutside :
      state.rxEngCtrlBits = 1 →
      state.sessionStateReg.takesAck = true →
      state.txSarReg.acceptsAck state.tcpRxMetaReg.header.ackNumber =
        false →
      RxExit state ⟨[], [], [], [], []⟩
  | ackInside {req : RxEngToTxSarReq} :
      state.rxEngCtrlBits = 1 →
      state.sessionStateReg.takesAck = true →
      state.txSarReg.acceptsAck state.tcpRxMetaReg.header.ackNumber =
        true →
      req.ackd = state.tcpRxMetaReg.header.ackNumber →
      state.tcpRxMetaReg.header.payloadLength = 0 →
      RxExit state
        ⟨[state.updateReq state.ackedState], [], [], [], [req]⟩
  | ackDropped {req : RxEngToTxSarReq} :
      state.rxEngCtrlBits = 1 →
      state.sessionStateReg.takesAck = true →
      state.txSarReg.acceptsAck state.tcpRxMetaReg.header.ackNumber =
        true →
      req.ackd = state.tcpRxMetaReg.header.ackNumber →
      state.tcpRxMetaReg.header.payloadLength ≠ 0 →
      state.rxSarReg.acceptsPayload state.tcpRxMetaReg.header = false →
      RxExit state
        ⟨[state.updateReq state.ackedState], [true], [], [], [req]⟩
  | ackTaken {req : RxEngToTxSarReq} :
      state.rxEngCtrlBits = 1 →
      state.sessionStateReg.takesAck = true →
      state.txSarReg.acceptsAck state.tcpRxMetaReg.header.ackNumber =
        true →
      req.ackd = state.tcpRxMetaReg.header.ackNumber →
      state.tcpRxMetaReg.header.payloadLength ≠ 0 →
      state.rxSarReg.acceptsPayload state.tcpRxMetaReg.header = true →
      RxExit state
        ⟨[state.updateReq state.ackedState], [false],
          [state.tcpRxMetaReg.payloadCmd],
          [RxEngToRxSarReq.update state.tcpRxMetaReg.sessionId
            state.payloadEnd],
          [req]⟩
  | ackRefused :
      state.rxEngCtrlBits = 1 →
      state.sessionStateReg.takesAck = false →
      RxExit state
        ⟨[state.updateReq state.sessionStateReg],
          if state.tcpRxMetaReg.header.payloadLength ≠ 0 then
            [true]
          else
            [],
          [], [], []⟩
  | synTaken {rxReq : RxEngToRxSarReq} {req : RxEngToTxSarReq} :
      state.rxEngCtrlBits = 2 →
      state.sessionStateReg = .closed ∨
        state.sessionStateReg = .synSent →
      rxReq.init = true →
      rxReq.recvd = state.tcpRxMetaReg.header.seqNumber + 1 →
      RxExit state
        ⟨[state.updateReq .synReceived], [], [], [rxReq], [req]⟩
  | synAckTaken {rxReq : RxEngToRxSarReq} {req : RxEngToTxSarReq} :
      state.rxEngCtrlBits = 3 →
      state.sessionStateReg = .synSent →
      rxReq.init = true →
      rxReq.recvd = state.tcpRxMetaReg.header.seqNumber + 1 →
      RxExit state
        ⟨[state.updateReq .established], [], [], [rxReq], [req]⟩
  | finTaken {req : RxEngToTxSarReq} :
      state.rxEngCtrlBits = 5 →
      state.takesFin = true →
      req.ackd = state.tcpRxMetaReg.header.ackNumber →
      RxExit state
        ⟨[state.updateReq state.finState],
          if state.tcpRxMetaReg.header.payloadLength ≠ 0 then
            [false]
          else
            [],
          if state.tcpRxMetaReg.header.payloadLength ≠ 0 then
            [state.tcpRxMetaReg.payloadCmd]
          else
            [],
          [RxEngToRxSarReq.update state.tcpRxMetaReg.sessionId
            (state.payloadEnd + 1)],
          [req]⟩
  | finRefused :
      state.rxEngCtrlBits = 5 →
      state.takesFin = false →
      RxExit state
        ⟨[state.updateReq state.sessionStateReg],
          if state.tcpRxMetaReg.header.payloadLength ≠ 0 then
            [true]
          else
            [],
          [], [], []⟩
  | releases {next : SessionState} :
      state.rxEngCtrlBits ≠ 1 →
      state.rxEngCtrlBits ≠ 5 →
      next = state.sessionStateReg ∨ next = .closed →
      RxExit state ⟨[state.updateReq next], [], [], [], []⟩

section Cases

variable (state : RxEngState)

theorem rxWrites_dropPayload (segment : RxEngFsmMetaData) :
    rxWrites segment.dropPayload =
      ⟨[],
        if segment.header.payloadLength ≠ 0 then [true] else [],
        [], [], []⟩ := by
  rw [RxEngFsmMetaData.dropPayload]
  split <;> rfl

theorem rxWrites_ackedState :
    rxWrites
        (if
            state.tcpRxMetaReg.header.ackNumber =
              state.txSarReg.nextByte then
          rxEngAckedAll state.tcpRxMetaReg state.sessionStateReg
        else
          [state.tcpRxMetaReg.updateState state.sessionStateReg]) =
      ⟨[state.updateReq state.ackedState], [], [], [], []⟩ := by
  rw [RxEngState.ackedState]
  split
  · cases state.sessionStateReg <;> rfl
  · rfl

/-- Counting an ACK leaves the pointers alone. -/
theorem TxSarToRxEngRsp.afterAck_nextByte
    (rsp : TxSarToRxEngRsp) (header : TcpHeaderMeta) :
    (rsp.afterAck header).nextByte = rsp.nextByte := by
  rw [afterAck]
  split
  · split <;> rfl
  · rfl

theorem rxEngAckAccepted_exit
    (isAck : state.rxEngCtrlBits = 1)
    (takes : state.sessionStateReg.takesAck = true)
    (inside :
      state.txSarReg.acceptsAck state.tcpRxMetaReg.header.ackNumber =
        true) :
    RxExit state
      (rxWrites
        (rxEngAckAccepted state.tcpRxMetaReg state.sessionStateReg
          state.rxSarReg
          (state.txSarReg.afterAck state.tcpRxMetaReg.header))) := by
  have update := rxWrites_ackedState state
  rw [rxEngAckAccepted, TxSarToRxEngRsp.afterAck_nextByte,
    rxWrites_append, update]
  by_cases empty : state.tcpRxMetaReg.header.payloadLength = 0
  · rw [if_neg (not_not_intro empty), if_neg (not_not_intro empty)]
    exact RxExit.ackInside isAck takes inside rfl empty
  · rw [if_pos empty, if_pos empty]
    cases accepts :
        state.rxSarReg.acceptsPayload state.tcpRxMetaReg.header with
    | true =>
        rw [if_pos rfl]
        exact RxExit.ackTaken isAck takes inside rfl empty accepts
    | false =>
        rw [if_neg Bool.false_ne_true]
        exact RxExit.ackDropped isAck takes inside rfl empty accepts

/-- An ACK's requests to the timers are none to the tables. -/
theorem rxWrites_ackTimers :
    rxWrites
        (state.tcpRxMetaReg.clearRtimer
            (state.tcpRxMetaReg.header.ackNumber ==
              state.txSarReg.nextByte) ::
          if
              state.txSarReg.isOldAck
                state.tcpRxMetaReg.header.ackNumber then
            []
          else
            [.clearPtimer state.tcpRxMetaReg.sessionId]) =
      ⟨[], [], [], [], []⟩ := by
  split <;> rfl

theorem rxEngAck_exit (isAck : state.rxEngCtrlBits = 1) :
    RxExit state (rxWrites (rxEngAck state).2) := by
  rw [rxEngAck]
  cases takes : state.sessionStateReg.takesAck with
  | true =>
      rw [if_pos rfl]
      change RxExit state (rxWrites (_ ++ _))
      rw [rxWrites_append, rxWrites_ackTimers]
      cases inside :
          state.txSarReg.acceptsAck
            state.tcpRxMetaReg.header.ackNumber with
      | true =>
          exact rxEngAckAccepted_exit state isAck takes inside
      | false =>
          exact RxExit.ackOutside isAck takes inside
  | false =>
      rw [if_neg Bool.false_ne_true]
      have silent :
          rxWrites
            [state.tcpRxMetaReg.clearRtimer
                (state.tcpRxMetaReg.header.ackNumber ==
                  state.txSarReg.nextByte),
              .setEvent
                (Event.rst state.tcpRxMetaReg.sessionId
                  state.payloadEnd)] =
            ⟨[], [], [], [], []⟩ :=
        rfl
      change
        RxExit state
          (rxWrites
            ([state.tcpRxMetaReg.clearRtimer
                  (state.tcpRxMetaReg.header.ackNumber ==
                    state.txSarReg.nextByte),
                .setEvent
                  (Event.rst state.tcpRxMetaReg.sessionId
                    state.payloadEnd)] ++
              (state.tcpRxMetaReg.dropPayload ++
                [state.tcpRxMetaReg.updateState
                  state.sessionStateReg])))
      rw [rxWrites_append, rxWrites_append, silent, rxWrites_dropPayload]
      have exit := RxExit.ackRefused isAck takes
      split at exit
      · rw [if_pos (by assumption)]
        exact exit
      · rw [if_neg (by assumption)]
        exact exit

theorem rxEngSyn_exit (isSyn : state.rxEngCtrlBits = 2) :
    RxExit state (rxWrites (rxEngSyn state).2) := by
  have notAck : state.rxEngCtrlBits ≠ 1 := by
    rw [isSyn]
    decide
  have notFin : state.rxEngCtrlBits ≠ 5 := by
    rw [isSyn]
    decide
  rw [rxEngSyn]
  cases stateEq : state.sessionStateReg with
  | closed =>
      exact RxExit.synTaken isSyn (Or.inl stateEq) rfl rfl
  | synSent =>
      exact RxExit.synTaken isSyn (Or.inr stateEq) rfl rfl
  | synReceived =>
      simp only []
      split
      · exact RxExit.releases notAck notFin (Or.inl stateEq.symm)
      · exact RxExit.releases notAck notFin (Or.inr rfl)
  | established | finWait1 | finWait2 | closing | timeWait | lastAck =>
      exact RxExit.releases notAck notFin (Or.inl stateEq.symm)

theorem rxEngSynAck_exit (isSynAck : state.rxEngCtrlBits = 3) :
    RxExit state (rxWrites (rxEngSynAck state).2) := by
  have notAck : state.rxEngCtrlBits ≠ 1 := by
    rw [isSynAck]
    decide
  have notFin : state.rxEngCtrlBits ≠ 5 := by
    rw [isSynAck]
    decide
  rw [rxEngSynAck]
  cases stateEq : state.sessionStateReg with
  | synSent =>
      simp only []
      split
      · exact RxExit.synAckTaken isSynAck stateEq rfl rfl
      · exact RxExit.releases notAck notFin (Or.inr rfl)
  | closed | synReceived | established | finWait1 | finWait2 | closing
  | timeWait | lastAck =>
      exact RxExit.releases notAck notFin (Or.inl stateEq.symm)

theorem rxWrites_rxEngFinState :
    rxWrites (rxEngFinState state) =
      ⟨[state.updateReq state.finState], [], [], [], []⟩ := by
  rw [rxEngFinState, RxEngState.finState]
  split
  · rfl
  · split <;> rfl

theorem rxEngFinAck_exit (isFin : state.rxEngCtrlBits = 5) :
    RxExit state (rxWrites (rxEngFinAck state).2) := by
  rw [rxEngFinAck]
  cases takes : state.takesFin with
  | true =>
      have taken :
          (state.sessionStateReg.takesFin &&
              state.rxSarReg.recvd ==
                state.tcpRxMetaReg.header.seqNumber) =
            true :=
        takes
      rw [if_pos taken]
      have exit :=
        @RxExit.finTaken state
          (RxEngToTxSarReq.update state.tcpRxMetaReg.sessionId
            state.tcpRxMetaReg.header.ackNumber
            state.tcpRxMetaReg.header.winSize state.txSarReg.congWindow
            state.txSarReg.retransCount state.txSarReg.fastRetrans
            (state.txWinScale.setWidth 2))
          isFin takes rfl
      simp only [rxWrites_append, rxWrites_rxEngFinState]
      by_cases empty : state.tcpRxMetaReg.header.payloadLength = 0
      · have isEmpty := not_not_intro empty
        rw [if_neg isEmpty, if_neg isEmpty] at exit
        rw [if_neg isEmpty]
        split <;> exact exit
      · rw [if_pos empty, if_pos empty] at exit
        rw [if_pos empty]
        exact exit
  | false =>
      have refused :
          ¬ (state.sessionStateReg.takesFin &&
                state.rxSarReg.recvd ==
                  state.tcpRxMetaReg.header.seqNumber) =
              true := by
        change ¬ state.takesFin = true
        rw [takes]
        exact Bool.false_ne_true
      rw [if_neg refused]
      have exit := RxExit.finRefused isFin takes
      have drop := rxWrites_dropPayload state.tcpRxMetaReg
      change
        RxExit state
          (rxWrites
            ([state.tcpRxMetaReg.clearRtimer
                  (state.tcpRxMetaReg.header.ackNumber ==
                    state.txSarReg.nextByte)] ++
                state.tcpRxMetaReg.dropPayload ++
              [state.tcpRxMetaReg.updateState state.sessionStateReg,
                .setEvent
                  (Event.plain .ack state.tcpRxMetaReg.sessionId)]))
      rw [rxWrites_append, rxWrites_append, drop]
      split at exit
      · rw [if_pos (by assumption)]
        exact exit
      · rw [if_neg (by assumption)]
        exact exit

theorem rxEngDefault_exit
    (notAck : state.rxEngCtrlBits ≠ 1)
    (notFin : state.rxEngCtrlBits ≠ 5) :
    RxExit state (rxWrites (rxEngDefault state).2) := by
  have release :=
    @RxExit.releases state state.sessionStateReg notAck notFin
      (Or.inl rfl)
  have close :=
    @RxExit.releases state .closed notAck notFin (Or.inr rfl)
  rw [rxEngDefault]
  simp only []
  split
  · split
    · split
      · exact close
      · exact release
    · split
      · exact close
      · exact release
  · exact release

/-- Handling a segment ends in one of the exits. -/
theorem rxEngHandle_exit : RxExit state (rxWrites (rxEngHandle state).2) := by
  rw [rxEngHandle]
  by_cases isAck : state.rxEngCtrlBits = 1
  · rw [if_pos isAck]
    exact rxEngAck_exit state isAck
  rw [if_neg isAck]
  by_cases isSyn : state.rxEngCtrlBits = 2
  · rw [if_pos isSyn]
    exact rxEngSyn_exit state isSyn
  rw [if_neg isSyn]
  by_cases isSynAck : state.rxEngCtrlBits = 3
  · rw [if_pos isSynAck]
    exact rxEngSynAck_exit state isSynAck
  rw [if_neg isSynAck]
  by_cases isFin : state.rxEngCtrlBits = 5
  · rw [if_pos isFin]
    exact rxEngFinAck_exit state isFin
  · rw [if_neg isFin]
    exact rxEngDefault_exit state isAck isFin

end Cases

/-! ## Only writes, and only for the segment's session -/

namespace RxEngMsg

/-- The message asks nothing of a table and is about the given session. -/
def IsOwnWrite (id : TcpSessionID) : RxEngMsg → Prop
  | .sttableReq req => req.write = true ∧ req.sessionId = id
  | .rxSarReq req => req.write = true ∧ req.sessionId = id
  | .txSarReq req => req.write = true ∧ req.sessionId = id
  | .clearRtimer req => req.sessionId = id
  | .clearPtimer other | .setCtimer other => other = id
  | .setEvent event => event.sessionId = id
  | .openConnNotify rsp => rsp.sessionId = id
  | .newClientNotify client => client.sessionId = id
  | .rxAppNotify notification => notification.sessionId = id
  | .memCmd _ | .droppedByRxFsm _ => True

def toTxSar : RxEngMsg → Option RxEngToTxSarReq
  | .txSarReq req => some req
  | _ => none

def toRxSar : RxEngMsg → Option RxEngToRxSarReq
  | .rxSarReq req => some req
  | _ => none

def toRxApp : RxEngMsg → Option AppNotificationNoTDEST
  | .rxAppNotify notification => some notification
  | _ => none

end RxEngMsg

/-- A list of writes for one session. -/
inductive OwnWrites (id : TcpSessionID) : List RxEngMsg → Prop
  | nil : OwnWrites id []
  | cons {msg : RxEngMsg} {later : List RxEngMsg} :
      msg.IsOwnWrite id →
      OwnWrites id later →
      OwnWrites id (msg :: later)

namespace OwnWrites

variable {id : TcpSessionID} {first second : List RxEngMsg}

theorem append
    (left : OwnWrites id first) (right : OwnWrites id second) :
    OwnWrites id (first ++ second) := by
  induction left with
  | nil =>
      exact right
  | cons isOwn _ inductionHypothesis =>
      exact cons isOwn inductionHypothesis

theorem ite {condition : Prop} [Decidable condition]
    (left : OwnWrites id first) (right : OwnWrites id second) :
    OwnWrites id (if condition then first else second) := by
  split
  · exact left
  · exact right

theorem single {msg : RxEngMsg} (isOwn : msg.IsOwnWrite id) :
    OwnWrites id [msg] :=
  cons isOwn nil

theorem of_mem {msgs : List RxEngMsg} (own : OwnWrites id msgs)
    {msg : RxEngMsg} (member : msg ∈ msgs) : msg.IsOwnWrite id := by
  induction own with
  | nil =>
      cases member
  | cons isOwn _ inductionHypothesis =>
      cases member with
      | head =>
          exact isOwn
      | tail _ later =>
          exact inductionHypothesis later
/-- Then the requests to the TX SAR table are its writes. -/
theorem txSarReqs {msgs : List RxEngMsg} (own : OwnWrites id msgs) :
    msgs.filterMap RxEngMsg.toTxSar = (rxWrites msgs).txSarWrites := by
  change
    msgs.filterMap RxEngMsg.toTxSar = msgs.filterMap RxEngMsg.txSarWrite
  refine List.filterMap_congr fun msg member => ?_
  have isOwn := own.of_mem member
  cases msg with
  | txSarReq req =>
      exact (if_pos isOwn.1).symm
  | _ =>
      rfl

theorem rxSarReqs {msgs : List RxEngMsg} (own : OwnWrites id msgs) :
    msgs.filterMap RxEngMsg.toRxSar = (rxWrites msgs).rxSarWrites := by
  change
    msgs.filterMap RxEngMsg.toRxSar = msgs.filterMap RxEngMsg.rxSarWrite
  refine List.filterMap_congr fun msg member => ?_
  have isOwn := own.of_mem member
  cases msg with
  | rxSarReq req =>
      exact (if_pos isOwn.1).symm
  | _ =>
      rfl

theorem of_txSarWrites
    {msgs : List RxEngMsg} {req : RxEngToTxSarReq}
    (own : OwnWrites id msgs)
    (member : req ∈ (rxWrites msgs).txSarWrites) :
    req.write = true ∧ req.sessionId = id := by
  rw [← own.txSarReqs] at member
  obtain ⟨msg, inMsgs, isReq⟩ := List.mem_filterMap.1 member
  have isOwn := own.of_mem inMsgs
  cases msg with
  | txSarReq other =>
      cases isReq
      exact isOwn
  | _ =>
      cases isReq

theorem of_rxSarWrites
    {msgs : List RxEngMsg} {req : RxEngToRxSarReq}
    (own : OwnWrites id msgs)
    (member : req ∈ (rxWrites msgs).rxSarWrites) :
    req.write = true ∧ req.sessionId = id := by
  rw [← own.rxSarReqs] at member
  obtain ⟨msg, inMsgs, isReq⟩ := List.mem_filterMap.1 member
  have isOwn := own.of_mem inMsgs
  cases msg with
  | rxSarReq other =>
      cases isReq
      exact isOwn
  | _ =>
      cases isReq

theorem of_notification
    {msgs : List RxEngMsg} {notification : AppNotificationNoTDEST}
    (own : OwnWrites id msgs)
    (member : notification ∈ msgs.filterMap RxEngMsg.toRxApp) :
    notification.sessionId = id := by
  obtain ⟨msg, inMsgs, isNotification⟩ := List.mem_filterMap.1 member
  have isOwn := own.of_mem inMsgs
  cases msg with
  | rxAppNotify other =>
      cases isNotification
      exact isOwn
  | _ =>
      cases isNotification

end OwnWrites

/-- The cases on the flags only write, and only for the segment's session. -/
theorem rxEngHandle_ownWrites (state : RxEngState) :
    OwnWrites state.tcpRxMetaReg.sessionId (rxEngHandle state).2 := by
  have dropPayload (segment : RxEngFsmMetaData) :
      OwnWrites segment.sessionId segment.dropPayload :=
    OwnWrites.ite (OwnWrites.single trivial) OwnWrites.nil
  have ackedAll
      (segment : RxEngFsmMetaData) (sessionState : SessionState) :
      OwnWrites segment.sessionId (rxEngAckedAll segment sessionState) := by
    cases sessionState with
    | synReceived =>
        exact OwnWrites.cons rfl (OwnWrites.single ⟨rfl, rfl⟩)
    | closing =>
        exact OwnWrites.cons rfl (OwnWrites.single ⟨rfl, rfl⟩)
    | _ =>
        exact OwnWrites.single ⟨rfl, rfl⟩
  rw [rxEngHandle, rxEngAck, rxEngSyn, rxEngSynAck, rxEngFinAck,
    rxEngDefault]
  simp only [rxEngAckAccepted, rxEngFinState]
  repeat' first
    | exact OwnWrites.nil
    | exact dropPayload _
    | exact ackedAll _ _
    | refine OwnWrites.append ?_ ?_
    | refine OwnWrites.ite ?_ ?_
    | refine OwnWrites.cons rfl ?_
    | refine OwnWrites.cons ⟨rfl, rfl⟩ ?_
    | refine OwnWrites.cons trivial ?_
    | split
end TcpOffload
