import TcpOffload.RxEngine.Fsm

/-!
# The retransmission timer of a session that is closed

The cases of `RxEngTcpFsm` close a session in different ways, each with its
own request to the retransmission timer or with none.
-/

namespace TcpOffload

/-- Whoever is closed is also stopped. -/
def StopsWhomItCloses (msgs : List RxEngMsg) : Prop :=
  ∀ id,
    .sttableReq (StateTableReq.update id .closed) ∈ msgs →
    .clearRtimer ⟨id, true⟩ ∈ msgs

/-- The handshake fails: another SYN than the one that opened the session,
or a SYN+ACK of another SYN than ours. -/
def RxEngState.BreaksHandshake (state : RxEngState) : Prop :=
  state.rxEngCtrlBits = 2 ∧ state.sessionStateReg = .synReceived ∧
      state.tcpRxMetaReg.header.seqNumber.toNat + 1 ≠
        state.rxSarReg.recvd.toNat ∨
    state.rxEngCtrlBits = 3 ∧ state.sessionStateReg = .synSent ∧
      state.tcpRxMetaReg.header.ackNumber ≠ state.txSarReg.nextByte

namespace RxEngFsmMetaData

variable {segment : RxEngFsmMetaData} {id : TcpSessionID}

/-- An update is one that closes the session of the segment. -/
theorem closes_iff {state : SessionState} :
    RxEngMsg.sttableReq (StateTableReq.update id .closed) =
        segment.updateState state ↔
      id = segment.sessionId ∧ state = .closed := by
  rw [updateState, RxEngMsg.sttableReq.injEq, StateTableReq.update,
    StateTableReq.update, StateTableReq.mk.injEq]
  exact
    ⟨fun same => ⟨same.1, same.2.1.symm⟩,
      fun same => ⟨same.1, same.2.symm, rfl⟩⟩

theorem not_closes_takePayload {closed : Bool} :
    RxEngMsg.sttableReq (StateTableReq.update id .closed) ∉
      segment.takePayload closed := by
  simp [takePayload]

theorem not_closes_dropPayload :
    RxEngMsg.sttableReq (StateTableReq.update id .closed) ∉
      segment.dropPayload := by
  rw [dropPayload]
  split
  · simp
  · simp

end RxEngFsmMetaData

section Cases

variable {state : RxEngState} {id : TcpSessionID}

/-- An accepted ACK closes a session when it acknowledges everything
sent. -/
theorem acked_of_closes {segment : RxEngFsmMetaData}
    {sessionState : SessionState} {rxSar : RxSarTableEntry}
    {txSar : TxSarToRxEngRsp} (isOpen : sessionState ≠ .closed)
    (closes :
      .sttableReq (StateTableReq.update id .closed) ∈
        rxEngAckAccepted segment sessionState rxSar txSar) :
    id = segment.sessionId ∧
      segment.header.ackNumber = txSar.nextByte := by
  simp only [rxEngAckAccepted, List.mem_append] at closes
  rcases closes with ((isTxSar | isPayload) | isEvent) | isUpdate
  · simp at isTxSar
  · exfalso
    split at isPayload
    · split at isPayload
      · rcases List.mem_cons.1 isPayload with isRxSar | taken
        · cases isRxSar
        · exact RxEngFsmMetaData.not_closes_takePayload taken
      · simp at isPayload
    · cases isPayload
  · split at isEvent
    · simp at isEvent
    · cases isEvent
  · split at isUpdate
    · rename_i ackedAll
      refine ⟨?_, ackedAll⟩
      cases sessionState with
      | closed =>
          exact absurd rfl isOpen
      | lastAck =>
          simpa [rxEngAckedAll, RxEngFsmMetaData.closes_iff]
            using isUpdate
      | synSent | synReceived | established | finWait1 | finWait2
      | closing | timeWait =>
          simp [rxEngAckedAll, RxEngFsmMetaData.closes_iff] at isUpdate
    · rw [List.mem_singleton, RxEngFsmMetaData.closes_iff] at isUpdate
      exact absurd isUpdate.2 isOpen

theorem nextByte_afterAck (rsp : TxSarToRxEngRsp)
    (header : TcpHeaderMeta) :
    (rsp.afterAck header).nextByte = rsp.nextByte := by
  rw [TxSarToRxEngRsp.afterAck]
  split
  · split
    · rfl
    · rfl
  · rfl

/-- An ACK that closes a session stops its timer. -/
theorem rxEngAck_stops (isOpen : state.sessionStateReg ≠ .closed) :
    StopsWhomItCloses (rxEngAck state).2 := by
  intro id closes
  rw [rxEngAck] at closes ⊢
  simp only [] at closes ⊢
  split at closes
  · rename_i takes
    rw [if_pos takes]
    rcases List.mem_cons.1 closes with isTimer | later
    · cases isTimer
    rcases List.mem_append.1 later with isProbe | accepted
    · split at isProbe
      · cases isProbe
      · simp at isProbe
    · split at accepted
      · obtain ⟨isOwn, ackedAll⟩ := acked_of_closes isOpen accepted
        rw [nextByte_afterAck] at ackedAll
        rw [isOwn, RxEngFsmMetaData.clearRtimer, ackedAll,
          beq_self_eq_true]
        exact List.mem_cons_self
      · cases accepted
  · simp [RxEngFsmMetaData.closes_iff, isOpen,
      RxEngFsmMetaData.clearRtimer,
      RxEngFsmMetaData.not_closes_dropPayload] at closes

theorem rxEngSyn_stops_iff (isOpen : state.sessionStateReg ≠ .closed) :
    StopsWhomItCloses (rxEngSyn state).2 ↔
      ¬ (state.sessionStateReg = .synReceived ∧
        state.tcpRxMetaReg.header.seqNumber.toNat + 1 ≠
          state.rxSarReg.recvd.toNat) := by
  rw [rxEngSyn]
  cases isState : state.sessionStateReg with
  | closed =>
      exact absurd isState isOpen
  | synReceived =>
      by_cases same :
          state.tcpRxMetaReg.header.seqNumber.toNat + 1 =
            state.rxSarReg.recvd.toNat
      · simp [StopsWhomItCloses, same, RxEngFsmMetaData.closes_iff]
      · simp only [if_neg same]
        refine
          iff_of_false (fun stops => ?_)
            (fun both => both ⟨trivial, same⟩)
        have stopped :=
          stops state.tcpRxMetaReg.sessionId List.mem_cons_self
        simp [RxEngFsmMetaData.updateState] at stopped
  | synSent | established | finWait1 | finWait2 | closing | timeWait
  | lastAck =>
      simp [StopsWhomItCloses, RxEngFsmMetaData.closes_iff]

theorem rxEngSynAck_stops_iff
    (isOpen : state.sessionStateReg ≠ .closed) :
    StopsWhomItCloses (rxEngSynAck state).2 ↔
      ¬ (state.sessionStateReg = .synSent ∧
        state.tcpRxMetaReg.header.ackNumber ≠
          state.txSarReg.nextByte) := by
  rw [rxEngSynAck]
  cases isState : state.sessionStateReg with
  | closed =>
      exact absurd isState isOpen
  | synSent =>
      by_cases same :
          state.tcpRxMetaReg.header.ackNumber = state.txSarReg.nextByte
      · simp [StopsWhomItCloses, same, RxEngFsmMetaData.closes_iff,
          RxEngFsmMetaData.clearRtimer]
      · simp only [if_neg same]
        refine
          iff_of_false (fun stops => ?_)
            (fun both => both ⟨trivial, same⟩)
        have stopped :=
          stops state.tcpRxMetaReg.sessionId
            (List.mem_cons_of_mem _ List.mem_cons_self)
        simp [RxEngFsmMetaData.clearRtimer,
          RxEngFsmMetaData.updateState, same] at stopped
  | synReceived | established | finWait1 | finWait2 | closing | timeWait
  | lastAck =>
      simp [StopsWhomItCloses, RxEngFsmMetaData.closes_iff,
        RxEngFsmMetaData.clearRtimer]

/-- A FIN that is taken leaves the session open. -/
theorem rxEngFinAck_stops (isOpen : state.sessionStateReg ≠ .closed) :
    StopsWhomItCloses (rxEngFinAck state).2 := by
  intro id closes
  exfalso
  rw [rxEngFinAck] at closes
  split at closes
  · rcases List.mem_append.1 closes with first | isState
    · rcases List.mem_append.1 first with isTable | isPayload
      · simp [RxEngFsmMetaData.clearRtimer] at isTable
      · split at isPayload
        · exact RxEngFsmMetaData.not_closes_takePayload isPayload
        · split at isPayload
          · simp [RxEngFsmMetaData.closeNotification] at isPayload
          · cases isPayload
    · rw [rxEngFinState] at isState
      split at isState
      · simp [RxEngFsmMetaData.closes_iff] at isState
      · split at isState
        · simp [RxEngFsmMetaData.closes_iff] at isState
        · simp [RxEngFsmMetaData.closes_iff] at isState
  · simp [RxEngFsmMetaData.closes_iff, isOpen,
      RxEngFsmMetaData.clearRtimer,
      RxEngFsmMetaData.not_closes_dropPayload] at closes

/-- A reset that closes a session stops its timer. -/
theorem rxEngDefault_stops (isOpen : state.sessionStateReg ≠ .closed) :
    StopsWhomItCloses (rxEngDefault state).2 := by
  intro id closes
  rw [rxEngDefault] at closes ⊢
  simp only [] at closes ⊢
  split
  · rename_i reset
    rw [if_pos reset] at closes
    split
    · rename_i opening
      rw [if_pos opening] at closes
      split
      · rename_i matching
        rw [if_pos matching] at closes
        have isOwn : id = state.tcpRxMetaReg.sessionId := by
          simpa [RxEngFsmMetaData.closes_iff,
            RxEngFsmMetaData.clearRtimer] using closes
        rw [isOwn]
        exact List.mem_cons_of_mem _ List.mem_cons_self
      · rename_i other
        rw [if_neg other] at closes
        simp [RxEngFsmMetaData.closes_iff, isOpen] at closes
    · rename_i notOpening
      rw [if_neg notOpening] at closes
      split
      · rename_i inOrder
        rw [if_pos inOrder] at closes
        have isOwn : id = state.tcpRxMetaReg.sessionId := by
          simpa [RxEngFsmMetaData.closes_iff,
            RxEngFsmMetaData.clearRtimer,
            RxEngFsmMetaData.closeNotification] using closes
        rw [isOwn]
        exact List.mem_cons_of_mem _ List.mem_cons_self
      · rename_i other
        rw [if_neg other] at closes
        simp [RxEngFsmMetaData.closes_iff, isOpen] at closes
  · rename_i noReset
    rw [if_neg noReset] at closes
    simp [RxEngFsmMetaData.closes_iff, isOpen] at closes

theorem rxEngHandle_stops_iff
    (isOpen : state.sessionStateReg ≠ .closed) :
    StopsWhomItCloses (rxEngHandle state).2 ↔
      ¬ state.BreaksHandshake := by
  rw [rxEngHandle, RxEngState.BreaksHandshake]
  by_cases isAck : state.rxEngCtrlBits = 1
  · rw [if_pos isAck, isAck]
    exact iff_of_true (rxEngAck_stops isOpen) (by simp)
  rw [if_neg isAck]
  by_cases isSyn : state.rxEngCtrlBits = 2
  · rw [if_pos isSyn, rxEngSyn_stops_iff isOpen, isSyn]
    simp
  rw [if_neg isSyn]
  by_cases isSynAck : state.rxEngCtrlBits = 3
  · rw [if_pos isSynAck, rxEngSynAck_stops_iff isOpen, isSynAck]
    simp
  rw [if_neg isSynAck]
  have neither :
      ¬ (state.rxEngCtrlBits = 2 ∧ state.sessionStateReg = .synReceived ∧
            state.tcpRxMetaReg.header.seqNumber.toNat + 1 ≠
              state.rxSarReg.recvd.toNat ∨
          state.rxEngCtrlBits = 3 ∧ state.sessionStateReg = .synSent ∧
            state.tcpRxMetaReg.header.ackNumber ≠
              state.txSarReg.nextByte) := by
    rintro (⟨syn, -⟩ | ⟨synAck, -⟩)
    · exact isSyn syn
    · exact isSynAck synAck
  by_cases isFin : state.rxEngCtrlBits = 5
  · rw [if_pos isFin]
    exact iff_of_true (rxEngFinAck_stops isOpen) neither
  · rw [if_neg isFin]
    exact iff_of_true (rxEngDefault_stops isOpen) neither

end Cases

/-- A call that finds a session open stops the timer of the session if it
closes it, except where a handshake is broken. -/
theorem rxEng_stops_iff
    (state loaded : RxEngState)
    (handles : state.fsmState = .transition)
    (answers : state.takeAnswers = some loaded)
    (isOpen : loaded.sessionStateReg ≠ .closed) :
    StopsWhomItCloses (rxEngTcpFsm state).2 ↔
      ¬ loaded.BreaksHandshake := by
  have handled : rxEngTcpFsm state = rxEngHandle loaded := by
    rw [rxEngTcpFsm, handles, rxEngTransition, answers]
  rw [handled]
  exact rxEngHandle_stops_iff isOpen

/-- An acknowledgement in LAST_ACK, with its answers. -/
def lastAckArrives : RxEngState :=
  { RxEngState.start with
    fsmState := .transition
    rxEngSentTxSarReq := true
    rxEngCtrlBits := 1
    sttableRsps := [.lastAck]
    rxSarRsps := [⟨0, 0, 0⟩]
    txSarRsps := [⟨0, 0, 0, 0, 0, false, 0⟩] }

theorem rxEng_stops_iff_lastAck :
    StopsWhomItCloses (rxEngTcpFsm lastAckArrives).2 ↔
      ¬ RxEngState.BreaksHandshake
        { lastAckArrives with
          fsmState := .load
          rxEngSentTxSarReq := false
          sessionStateReg := .lastAck
          sttableRsps := []
          rxSarRsps := []
          txSarRsps := [] } :=
  rxEng_stops_iff lastAckArrives _ rfl rfl (by decide)

/-- Another SYN in SYN_RECEIVED, with its answers. -/
def otherSynArrives : RxEngState :=
  { RxEngState.start with
    fsmState := .transition
    rxEngCtrlBits := 2
    sttableRsps := [.synReceived]
    rxSarRsps := [⟨2, 0, 0⟩] }

/-- The session is closed, and its timer runs on. -/
theorem not_rxEng_stops :
    ¬ ∀ state loaded : RxEngState,
      state.fsmState = .transition →
      state.takeAnswers = some loaded →
      loaded.sessionStateReg ≠ .closed →
      StopsWhomItCloses (rxEngTcpFsm state).2 := by
  intro allStop
  have stops :=
    allStop otherSynArrives _ rfl rfl (by decide) 0 (by decide)
  revert stops
  decide

end TcpOffload
