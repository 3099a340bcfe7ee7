import TcpOffload.RxEngine.Exits

/-!
# What the machine writes of the send window

The updates of `tx_sar_table` that handling a segment can write, one for each
case on the flags, and the one update of a segment at most.
-/

namespace TcpOffload

/-- The updates of the send window, with the register `tx_sar_reg` and the
segment they are computed from. -/
inductive TxSarWrite (state : RxEngState) : RxEngToTxSarReq → Prop
  | ack :
      state.rxEngCtrlBits = 1 →
      state.sessionStateReg.takesAck = true →
      state.txSarReg.acceptsAck state.tcpRxMetaReg.header.ackNumber =
        true →
      TxSarWrite state
        (let txSar := state.txSarReg.afterAck state.tcpRxMetaReg.header
        RxEngToTxSarReq.update state.tcpRxMetaReg.sessionId
          state.tcpRxMetaReg.header.ackNumber
          state.tcpRxMetaReg.header.winSize txSar.congWindow
          txSar.retransCount
          (txSar.retransCount == 3 || txSar.fastRetrans) txSar.winShift)
  | syn :
      state.rxEngCtrlBits = 2 →
      (state.sessionStateReg = .closed ∨
        state.sessionStateReg = .synSent) →
      TxSarWrite state
        (RxEngToTxSarReq.updateWithShift state.tcpRxMetaReg.sessionId 0
          state.tcpRxMetaReg.header.winSize state.txSarReg.congWindow 0
          false true state.tcpRxMetaReg.header.rxWinScale)
  | synAck :
      state.rxEngCtrlBits = 3 →
      state.sessionStateReg = .synSent →
      state.tcpRxMetaReg.header.ackNumber = state.txSarReg.nextByte →
      TxSarWrite state
        (RxEngToTxSarReq.updateWithShift state.tcpRxMetaReg.sessionId
          state.tcpRxMetaReg.header.ackNumber
          state.tcpRxMetaReg.header.winSize state.txSarReg.congWindow 0
          false true (state.tcpRxMetaReg.header.winScale.setWidth 4))
  | fin :
      state.rxEngCtrlBits = 5 →
      state.takesFin = true →
      TxSarWrite state
        (RxEngToTxSarReq.update state.tcpRxMetaReg.sessionId
          state.tcpRxMetaReg.header.ackNumber
          state.tcpRxMetaReg.header.winSize state.txSarReg.congWindow
          state.txSarReg.retransCount state.txSarReg.fastRetrans
          (state.txWinScale.setWidth 2))

section Handled

variable {state : RxEngState} {req : RxEngToTxSarReq}

theorem not_mem_dropPayload (segment : RxEngFsmMetaData) :
    .txSarReq req ∉ segment.dropPayload := by
  rw [RxEngFsmMetaData.dropPayload]
  split <;> simp

theorem not_mem_rxEngAckedAll
    (segment : RxEngFsmMetaData) (sessionState : SessionState) :
    .txSarReq req ∉ rxEngAckedAll segment sessionState := by
  cases sessionState <;>
    simp [rxEngAckedAll, RxEngFsmMetaData.updateState]

theorem mem_rxEngAckAccepted
    {segment : RxEngFsmMetaData} {sessionState : SessionState}
    {rxSar : RxSarTableEntry} {txSar : TxSarToRxEngRsp}
    (member :
      .txSarReq req ∈ rxEngAckAccepted segment sessionState rxSar txSar) :
    req =
      RxEngToTxSarReq.update segment.sessionId segment.header.ackNumber
        segment.header.winSize txSar.congWindow txSar.retransCount
        (txSar.retransCount == 3 || txSar.fastRetrans)
        txSar.winShift := by
  rw [rxEngAckAccepted] at member
  simp only [List.mem_append, List.mem_singleton] at member
  rcases member with ((isUpdate | payload) | event) | settled
  · exact RxEngMsg.txSarReq.inj isUpdate
  · split at payload
    · split at payload <;> simp [RxEngFsmMetaData.takePayload] at payload
    · cases payload
  · split at event <;> simp at event
  · split at settled
    · exact absurd settled (not_mem_rxEngAckedAll segment sessionState)
    · simp [RxEngFsmMetaData.updateState] at settled

theorem txSarWrite_rxEngAck
    (isAck : state.rxEngCtrlBits = 1)
    (member : .txSarReq req ∈ (rxEngAck state).2) :
    TxSarWrite state req := by
  rw [rxEngAck] at member
  split at member
  · rename_i takes
    simp only [List.mem_append, List.mem_cons] at member
    rcases member with (isTimer | isTimer) | accepted
    · simp [RxEngFsmMetaData.clearRtimer] at isTimer
    · split at isTimer <;> simp at isTimer
    · split at accepted
      · rename_i inside
        rw [mem_rxEngAckAccepted accepted]
        exact TxSarWrite.ack isAck takes inside
      · cases accepted
  · simp [RxEngFsmMetaData.clearRtimer, RxEngFsmMetaData.updateState,
      not_mem_dropPayload] at member

theorem txSarWrite_rxEngSyn
    (isSyn : state.rxEngCtrlBits = 2)
    (member : .txSarReq req ∈ (rxEngSyn state).2) :
    TxSarWrite state req := by
  rw [rxEngSyn] at member
  split at member
  · rename_i closed
    simp [RxEngFsmMetaData.updateState] at member
    rw [member]
    exact TxSarWrite.syn isSyn (Or.inl closed)
  · rename_i synSent
    simp [RxEngFsmMetaData.updateState] at member
    rw [member]
    exact TxSarWrite.syn isSyn (Or.inr synSent)
  · split at member <;>
      simp [RxEngFsmMetaData.updateState] at member
  · simp [RxEngFsmMetaData.updateState] at member

theorem txSarWrite_rxEngSynAck
    (isSynAck : state.rxEngCtrlBits = 3)
    (member : .txSarReq req ∈ (rxEngSynAck state).2) :
    TxSarWrite state req := by
  rw [rxEngSynAck] at member
  split at member
  · rename_i synSent
    split at member
    · rename_i matching
      simp [RxEngFsmMetaData.updateState,
        RxEngFsmMetaData.clearRtimer] at member
      rw [member]
      exact TxSarWrite.synAck isSynAck synSent matching
    · simp [RxEngFsmMetaData.updateState,
        RxEngFsmMetaData.clearRtimer] at member
  · simp [RxEngFsmMetaData.updateState,
      RxEngFsmMetaData.clearRtimer] at member

theorem txSarWrite_rxEngFinAck
    (isFin : state.rxEngCtrlBits = 5)
    (member : .txSarReq req ∈ (rxEngFinAck state).2) :
    TxSarWrite state req := by
  have noLater : .txSarReq req ∉ rxEngFinState state := by
    rw [rxEngFinState]
    split
    · simp [RxEngFsmMetaData.updateState]
    · split <;> simp [RxEngFsmMetaData.updateState]
  rw [rxEngFinAck] at member
  split at member
  · rename_i takes
    simp only [List.mem_append, List.mem_cons, List.not_mem_nil,
      noLater, or_false] at member
    rcases member with (isTimer | isUpdate | isRxSar | isTimer) | payload
    · cases isTimer
    · rw [RxEngMsg.txSarReq.inj isUpdate]
      exact TxSarWrite.fin isFin takes
    · cases isRxSar
    · cases isTimer
    · split at payload
      · simp [RxEngFsmMetaData.takePayload] at payload
      · split at payload <;>
          simp [RxEngFsmMetaData.closeNotification] at payload
  · simp [RxEngFsmMetaData.clearRtimer, RxEngFsmMetaData.updateState,
      not_mem_dropPayload] at member

theorem txSarWrite_rxEngHandle
    (member : .txSarReq req ∈ (rxEngHandle state).2) :
    TxSarWrite state req := by
  rw [rxEngHandle] at member
  split at member
  · rename_i isAck
    exact txSarWrite_rxEngAck isAck member
  split at member
  · rename_i isSyn
    exact txSarWrite_rxEngSyn isSyn member
  split at member
  · rename_i isSynAck
    exact txSarWrite_rxEngSynAck isSynAck member
  split at member
  · rename_i isFin
    exact txSarWrite_rxEngFinAck isFin member
  · rw [rxEngDefault] at member
    split at member
    · split at member
      · split at member <;>
          simp [RxEngFsmMetaData.updateState,
            RxEngFsmMetaData.clearRtimer] at member
      · split at member <;>
          simp [RxEngFsmMetaData.updateState,
            RxEngFsmMetaData.clearRtimer,
            RxEngFsmMetaData.closeNotification] at member
    · simp [RxEngFsmMetaData.updateState] at member

/-- At most one write goes to the table. -/
theorem txSarWrites_cases (state : RxEngState) :
    (rxWrites (rxEngHandle state).2).txSarWrites = [] ∨
      ∃ req,
        (rxWrites (rxEngHandle state).2).txSarWrites = [req] ∧
          TxSarWrite state req := by
  have atMostOne :
      (rxWrites (rxEngHandle state).2).txSarWrites = [] ∨
        ∃ req, (rxWrites (rxEngHandle state).2).txSarWrites = [req] := by
    have exit := rxEngHandle_exit state
    generalize rxWrites (rxEngHandle state).2 = writes at exit ⊢
    cases exit <;> simp
  rcases atMostOne with none | ⟨req, one⟩
  · exact Or.inl none
  · have member :
        req ∈ (rxWrites (rxEngHandle state).2).txSarWrites := by
      rw [one]
      exact List.mem_cons_self
    rw [← (rxEngHandle_ownWrites state).txSarReqs] at member
    obtain ⟨msg, msgMember, isReq⟩ := List.mem_filterMap.1 member
    have written : .txSarReq req ∈ (rxEngHandle state).2 := by
      cases msg with
      | txSarReq other =>
          cases isReq
          exact msgMember
      | _ =>
          cases isReq
    exact Or.inr ⟨req, one, txSarWrite_rxEngHandle written⟩

/-- The write is one for the segment's own session. -/
theorem TxSarWrite.own (write : TxSarWrite state req) :
    req.write = true ∧ req.sessionId = state.tcpRxMetaReg.sessionId := by
  cases write <;> exact ⟨rfl, rfl⟩

end Handled

end TcpOffload
