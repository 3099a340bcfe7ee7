import TcpOffload.RxEngine.Exits
import TcpOffload.TxSarTable.Settled

/-!
# What one call of `RxEngTcpFsm` makes of its session

The ways in which a call can go on, the session's state behind the updates it
writes, and the acknowledgements of an established session.
-/

namespace TcpOffload

/-- The ways in which a call can go on. -/
inductive RxCall (state : RxEngState) :
    RxEngState → List RxEngMsg → Prop
  | rests : RxCall state state []
  | loads {segment : RxEngFsmMetaData} {later : List RxEngFsmMetaData} :
      state.fsmState = .load →
      state.metaDatas = segment :: later →
      RxCall state
        { state with
          fsmState := .transition
          tcpRxMetaReg := segment
          rxEngSentTxSarReq :=
            segment.header.ack || state.rxEngSentTxSarReq
          rxEngCtrlBits := segment.header.ctrlBits
          metaDatas := later }
        (rxLookups segment)
  | handles {loaded : RxEngState} :
      state.fsmState = .transition →
      state.takeAnswers = some loaded →
      RxCall state (rxEngHandle loaded).1 (rxEngHandle loaded).2

theorem rxEngTcpFsm_call (state : RxEngState) :
    RxCall state (rxEngTcpFsm state).1 (rxEngTcpFsm state).2 := by
  rw [rxEngTcpFsm]
  split
  · rename_i isLoad
    rw [rxEngLoad]
    split
    · exact RxCall.rests
    · rename_i segment later metaDatas
      exact RxCall.loads isLoad metaDatas
  · rename_i isTransition
    rw [rxEngTransition]
    split
    · rename_i loaded answers
      exact RxCall.handles isTransition answers
    · exact RxCall.rests

/-! ## The state of the session -/

/-- The state of session `id` behind a request of the RX engine. -/
def StateTableReq.stateBehind
    (id : TcpSessionID) (state : SessionState) (req : StateTableReq) :
    SessionState :=
  if req.sessionId = id ∧ req.write = true then req.state else state

/-- The state of session `id` behind the messages. -/
def stateBehind
    (id : TcpSessionID) (state : SessionState) (msgs : List RxEngMsg) :
    SessionState :=
  (rxWrites msgs).stateReqs.foldl (StateTableReq.stateBehind id) state

/-- `ackd` of session `id` behind the messages. -/
def ackdBehind
    (id : TcpSessionID) (ackd : BitVec 32) (msgs : List RxEngMsg) :
    BitVec 32 :=
  (msgs.filterMap RxEngMsg.toTxSar).foldl (RxEngToTxSarReq.ackdBehind id)
    ackd

theorem stateBehind_rxLookups
    (id : TcpSessionID) (state : SessionState)
    (segment : RxEngFsmMetaData) :
    stateBehind id state (rxLookups segment) = state := by
  rw [stateBehind, rxWrites_rxLookups]
  exact if_neg fun own => Bool.false_ne_true own.2

theorem ackdBehind_rxLookups
    (id : TcpSessionID) (ackd : BitVec 32) (segment : RxEngFsmMetaData) :
    ackdBehind id ackd (rxLookups segment) = ackd := by
  rw [ackdBehind, rxLookups]
  split
  · exact if_neg fun own => Bool.false_ne_true own.2
  · rfl

namespace OwnWrites

variable {id own : TcpSessionID} {msgs : List RxEngMsg}

theorem ackdBehind_other
    (writes : OwnWrites own msgs) (isOther : own ≠ id)
    (ackd : BitVec 32) : ackdBehind id ackd msgs = ackd := by
  rw [ackdBehind]
  induction writes with
  | nil =>
      rfl
  | @cons msg later isOwn _ inductionHypothesis =>
      cases msg with
      | txSarReq req =>
          have noWrite :
              RxEngToTxSarReq.ackdBehind id ackd req = ackd :=
            if_neg fun both => isOther (isOwn.2.symm.trans both.1)
          change
            (later.filterMap RxEngMsg.toTxSar).foldl
                (RxEngToTxSarReq.ackdBehind id)
                (RxEngToTxSarReq.ackdBehind id ackd req) =
              ackd
          rw [noWrite, inductionHypothesis]
      | _ =>
          exact inductionHypothesis

theorem stateBehind_other
    (writes : OwnWrites own msgs) (isOther : own ≠ id)
    (state : SessionState) : stateBehind id state msgs = state := by
  rw [stateBehind, rxWrites]
  simp only []
  induction writes with
  | nil =>
      rfl
  | @cons msg later isOwn _ inductionHypothesis =>
      cases msg with
      | sttableReq req =>
          have noWrite :
              StateTableReq.stateBehind id state req = state :=
            if_neg fun both => isOther (isOwn.2.symm.trans both.1)
          change
            (later.filterMap RxEngMsg.stateReq).foldl
                (StateTableReq.stateBehind id)
                (StateTableReq.stateBehind id state req) =
              state
          rw [noWrite, inductionHypothesis]
      | _ =>
          exact inductionHypothesis

end OwnWrites

/-! ## Acknowledgements of an established session -/

/-- The segment moves `ackd` of a session that is then established. -/
def RxEngState.acknowledges (state : RxEngState) : Bool :=
  (state.rxEngCtrlBits == 1 && state.sessionStateReg.takesAck &&
        state.txSarReg.acceptsAck state.tcpRxMetaReg.header.ackNumber &&
      state.ackedState == .established) ||
    (state.rxEngCtrlBits == 3 && state.sessionStateReg == .synSent &&
      state.tcpRxMetaReg.header.ackNumber == state.txSarReg.nextByte)

/-- What handling a segment of session `id` does to its state and to its
`ackd`, where it leaves the session established. -/
inductive EstablishedExit
    (id : TcpSessionID) (state : RxEngState) : Prop
  | keeps :
      state.sessionStateReg = .established →
      (∀ ackd, ackdBehind id ackd (rxEngHandle state).2 = ackd) →
      EstablishedExit id state
  | acknowledges :
      state.acknowledges = true →
      (∀ ackd,
        ackdBehind id ackd (rxEngHandle state).2 =
          state.tcpRxMetaReg.header.ackNumber) →
      EstablishedExit id state

section Established

variable {state : RxEngState} {id : TcpSessionID}

theorem ackdBehind_of_none
    (none : (rxWrites (rxEngHandle state).2).txSarWrites = [])
    (ackd : BitVec 32) :
    ackdBehind id ackd (rxEngHandle state).2 = ackd := by
  rw [ackdBehind, (rxEngHandle_ownWrites state).txSarReqs, none]
  rfl

theorem ackdBehind_of_one
    (isOwn : state.tcpRxMetaReg.sessionId = id)
    {req : RxEngToTxSarReq}
    (one : (rxWrites (rxEngHandle state).2).txSarWrites = [req])
    (ackd : BitVec 32) :
    ackdBehind id ackd (rxEngHandle state).2 = req.ackd := by
  have own :=
    (rxEngHandle_ownWrites state).of_txSarWrites
      (by rw [one]; exact List.mem_cons_self)
  rw [ackdBehind, (rxEngHandle_ownWrites state).txSarReqs, one]
  exact if_pos ⟨own.2.trans isOwn, own.1⟩

/-- A SYN+ACK completes the opening that it answers. -/
theorem rxEngSynAck_established
    (isOwn : state.tcpRxMetaReg.sessionId = id)
    (isSynAck : state.rxEngCtrlBits = 3)
    (established :
      stateBehind id state.sessionStateReg (rxEngHandle state).2 =
        .established) :
    EstablishedExit id state := by
  have handled : rxEngHandle state = rxEngSynAck state := by
    rw [rxEngHandle, isSynAck]
    rfl
  have updated (next : SessionState) :
      StateTableReq.stateBehind id state.sessionStateReg
          (state.updateReq next) =
        next :=
    if_pos ⟨isOwn, rfl⟩
  cases opening : state.sessionStateReg with
  | synSent =>
      by_cases matching :
          state.tcpRxMetaReg.header.ackNumber = state.txSarReg.nextByte
      · refine EstablishedExit.acknowledges ?_ ?_
        · rw [RxEngState.acknowledges, isSynAck, opening, matching]
          simp
        · have one :
              (rxWrites (rxEngHandle state).2).txSarWrites =
                [RxEngToTxSarReq.updateWithShift
                  state.tcpRxMetaReg.sessionId
                  state.tcpRxMetaReg.header.ackNumber
                  state.tcpRxMetaReg.header.winSize
                  state.txSarReg.congWindow 0 false true
                  (state.tcpRxMetaReg.header.winScale.setWidth 4)] := by
            rw [handled, rxEngSynAck]
            simp only [opening]
            rw [if_pos matching]
            rfl
          exact ackdBehind_of_one isOwn one
      · have closes :
            stateBehind id state.sessionStateReg (rxEngHandle state).2 =
              .closed := by
          rw [← updated .closed, handled, rxEngSynAck]
          simp only [opening]
          rw [if_neg matching]
          rfl
        rw [closes] at established
        cases established
  | closed | synReceived | established | finWait1 | finWait2 | closing
  | timeWait | lastAck =>
      have writes :
          rxWrites (rxEngHandle state).2 =
            ⟨[state.updateReq state.sessionStateReg], [], [], [],
              []⟩ := by
        rw [handled, rxEngSynAck]
        simp only [opening]
        rfl
      refine EstablishedExit.keeps ?_ ?_
      · rw [← established, stateBehind, writes]
        exact (updated _).symm
      · exact ackdBehind_of_none (by rw [writes])

theorem rxEngHandle_established
    (isOwn : state.tcpRxMetaReg.sessionId = id)
    (established :
      stateBehind id state.sessionStateReg (rxEngHandle state).2 =
        .established) :
    EstablishedExit id state := by
  by_cases isSynAck : state.rxEngCtrlBits = 3
  · exact rxEngSynAck_established isOwn isSynAck established
  have exit := rxEngHandle_exit state
  have none := @ackdBehind_of_none state id
  have one := @ackdBehind_of_one state id isOwn
  rw [stateBehind] at established
  generalize rxWrites (rxEngHandle state).2 = writes
    at exit established none one
  have updated (next : SessionState) :
      StateTableReq.stateBehind id state.sessionStateReg
          (state.updateReq next) =
        next :=
    if_pos ⟨isOwn, rfl⟩
  have acked {req : RxEngToTxSarReq}
      (isAck : state.rxEngCtrlBits = 1)
      (takes : state.sessionStateReg.takesAck = true)
      (inside :
        state.txSarReg.acceptsAck state.tcpRxMetaReg.header.ackNumber =
          true)
      (ackd : req.ackd = state.tcpRxMetaReg.header.ackNumber)
      (leads : state.ackedState = .established)
      (written :
        ∀ before,
          ackdBehind id before (rxEngHandle state).2 = req.ackd) :
      EstablishedExit id state := by
    refine
      EstablishedExit.acknowledges ?_
        fun before => (written before).trans ackd
    rw [RxEngState.acknowledges, isAck, takes, inside, leads]
    rfl
  have kept (isLast : state.sessionStateReg = .established)
      (silent : writes.txSarWrites = []) : EstablishedExit id state :=
    EstablishedExit.keeps isLast (none silent)
  cases exit with
  | ackOutside =>
      exact kept established rfl
  | ackInside isAck takes inside ackd =>
      exact
        acked isAck takes inside ackd
          ((updated _).symm.trans established) (one rfl)
  | ackDropped isAck takes inside ackd =>
      exact
        acked isAck takes inside ackd
          ((updated _).symm.trans established) (one rfl)
  | ackTaken isAck takes inside ackd =>
      exact
        acked isAck takes inside ackd
          ((updated _).symm.trans established) (one rfl)
  | ackRefused | finRefused =>
      exact kept ((updated _).symm.trans established) rfl
  | synTaken =>
      cases (updated _).symm.trans established
  | synAckTaken flags =>
      exact absurd flags isSynAck
  | finTaken =>
      have leads := (updated _).symm.trans established
      rw [RxEngState.finState] at leads
      split at leads
      · cases leads
      · split at leads <;> cases leads
  | releases _ _ leads =>
      rcases leads with same | closed
      · exact kept (same ▸ (updated _).symm.trans established) rfl
      · rw [closed] at established
        cases (updated _).symm.trans established

end Established

end TcpOffload
