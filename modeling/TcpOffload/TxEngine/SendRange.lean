import TcpOffload.TxEngine.SendBuffer

/-!
# Which bytes of the send buffer leave

The steps of the send buffer keep its positions in order, and an event in a
well-ordered buffer sends only bytes that are written and not acknowledged.
-/

namespace TcpOffload

open Ascending Cyclic

/-! ## The outputs of an event -/

/-- Each segment of a list lies within the bytes of the list. -/
theorem segmentList_within
    {header : TxEngFsmMetaData} {lengths : List Nat} (start : Nat)
    {segment : TxEngFsmMetaData}
    (member :
      segment ∈
        segmentList header (BitVec.ofNat 32 start) lengths) :
    ∃ first,
      start ≤ first ∧
      segment.seqNumber = BitVec.ofNat 32 first ∧
      first + segment.length.toNat ≤ start + lengths.sum := by
  induction lengths generalizing start with
  | nil =>
      cases member
  | cons length later inductionHypothesis =>
      rw [segmentList, ← BitVec.ofNat_add] at member
      rw [List.sum_cons]
      rcases List.mem_append.1 member with here | further
      · by_cases empty : length = 0
        · rw [if_pos empty] at here
          cases here
        · rw [if_neg empty, List.mem_singleton] at here
          have truncated := Nat.mod_le length (2 ^ 16)
          refine ⟨start, Nat.le_refl start, ?_, ?_⟩
          · rw [here]
          · rw [here, BitVec.toNat_ofNat]
            omega
      · obtain ⟨first, notBefore, shown, inside⟩ :=
          inductionHypothesis (start + length) further
        exact ⟨first, by omega, shown, by omega⟩

/-- The payload segments of a list that starts at or after `ackd` and ends
with the written data, and the reads that go with them. -/
theorem SendSession.Placed.keepsToWritten
    {session : SendSession} {positions : SendPositions}
    {id : TcpSessionID} {header : TxEngFsmMetaData}
    {seqNumber : BitVec 32} {start : Nat} {lengths : List Nat}
    {msgs : List TxEngMsg}
    (placed : session.Placed positions)
    (payload :
      (segments msgs).filter TxEngFsmMetaData.carriesPayload =
        segmentList header seqNumber lengths)
    (starts : seqNumber = BitVec.ofNat 32 start)
    (reads : ReadsSegments id msgs)
    (notBefore : positions.ackd ≤ start)
    (inside :
      0 < lengths.sum → start + lengths.sum ≤ positions.written) :
    KeepsToWritten session msgs := by
  have sent :
      ∀ segment ∈
          (segments msgs).filter TxEngFsmMetaData.carriesPayload,
        ∀ index < segment.length.toNat,
          session.InSendBuffer
            (segment.seqNumber + BitVec.ofNat 32 index) := by
    intro segment member index below
    rw [payload, starts] at member
    obtain ⟨first, behind, shown, within⟩ :=
      segmentList_within start member
    have ends := inside (by omega)
    rw [shown, ← BitVec.ofNat_add]
    exact placed.inSendBuffer (by omega) (by omega)
  refine ⟨sent, ?_⟩
  intro cmd member index below
  rw [reads] at member
  obtain ⟨segment, segmentMember, rfl⟩ := List.mem_map.1 member
  refine ⟨_, sent segment segmentMember index below, ?_⟩
  have offset :
      (segment.readCmd id).offset = segment.seqNumber.setWidth 18 :=
    getSessionMemAddr_offset .tx id (segment.seqNumber.setWidth 18)
  rw [offset, BitVec.setWidth_add _ _ (by decide),
    BitVec.setWidth_ofNat_of_le (by decide)]

/-- An event without payload keeps to the written data. -/
theorem Quiet.keepsToWritten
    {msgs : List TxEngMsg} (quiet : Quiet msgs) (session : SendSession) :
    KeepsToWritten session msgs := by
  refine ⟨?_, ?_⟩
  · rw [quiet.noPayload]
    intro segment member
    cases member
  · rw [quiet.noReads]
    intro cmd member
    cases member

/-- The write of a `FIN` case behind a pointer at `value`. -/
theorem engineWrites_finSend
    {written value : Nat} {finIsSent : Bool}
    (state : TxEngState) {rsp : TxSarToTxEngRsp}
    (pointer : rsp.notAckd = BitVec.ofNat 32 value)
    (appWritten : rsp.appWritten = BitVec.ofNat 18 written)
    (inside : value ≤ written + finIsSent.toNat)
    (near : written < value + 2 ^ 18) :
    EngineWrites written value finIsSent
      (sarWrites (finSend state rsp).2) := by
  rw [sarWrites_finSend]
  by_cases repeated : state.txEngEventReg.retransCnt ≠ 0
  · rw [if_pos repeated]
    exact EngineWrites.nil
  · rw [if_neg repeated]
    by_cases atEnd : rsp.appWritten = rsp.notAckd.setWidth 18
    · rw [if_pos atEnd]
      have finBound : finIsSent.toNat ≤ 1 := Bool.toNat_le finIsSent
      have same : value = written := by
        have sameNat := congrArg BitVec.toNat atEnd
        rw [appWritten, pointer, BitVec.setWidth_ofNat_of_le (by decide),
          BitVec.toNat_ofNat, BitVec.toNat_ofNat] at sameNat
        omega
      refine
        @EngineWrites.pointer written value (value + 1) finIsSent _ []
          (Nat.le_succ value) (Nat.le_of_eq ?_) ?_ rfl rfl
          EngineWrites.nil
      · rw [same]
        rfl
      · change rsp.notAckd + 1 = _
        rw [pointer, BitVec.ofNat_add]
        rfl
    · rw [if_neg atEnd]
      exact
        EngineWrites.pointer (Nat.le_refl value) inside pointer rfl rfl
          EngineWrites.nil

/-- Where a `TX` event leaves the pointer, and how far it sends. -/
theorem SendSession.Placed.exists_pointer
    {session : SendSession} {positions : SendPositions}
    {lengths : List Nat} {short : Bool} {used : Nat}
    (placed : session.Placed positions)
    (closed :
      session.entry.notAckd = session.firstUnwritten + 1 →
        session.entry.usableWindow = 0)
    (plan :
      TxPlan session.entry.minWindow.toNat session.entry.currLength.toNat
        used session.entry.usableWindow.toNat lengths short) :
    ∃ value,
      pointerAfter session.entry.txEngRead lengths short =
        BitVec.ofNat 32 value ∧
      positions.notAckd ≤ value ∧
      value ≤ positions.written + session.entry.finIsSent.toNat ∧
      (0 < lengths.sum →
        positions.notAckd + lengths.sum ≤ positions.written) := by
  have finBound := Bool.toNat_le session.entry.finIsSent
  have sentWritten := placed.sentWritten
  have sumBound := plan.sum_le_curr
  have wholeRest :
      session.entry.txEngRead.notAckdShort =
        BitVec.ofNat 32
          (positions.notAckd + session.entry.currLength.toNat) := by
    rw [BitVec.ofNat_add, BitVec.ofNat_toNat, ← placed.notAckd]
    rfl
  have behindSum :
      session.entry.txEngRead.notAckd + BitVec.ofNat 32 lengths.sum =
        BitVec.ofNat 32 (positions.notAckd + lengths.sum) := by
    rw [BitVec.ofNat_add, ← placed.notAckd]
    rfl
  by_cases unsent : positions.notAckd ≤ positions.written
  · have curr := placed.currLength unsent
    by_cases early :
        (short && session.entry.txEngRead.ackdEqNotAckd) = true
    · refine ⟨_, (if_pos early).trans wholeRest, ?_, ?_, ?_⟩
      · omega
      · omega
      · omega
    · refine ⟨_, (if_neg early).trans behindSum, ?_, ?_, ?_⟩
      · omega
      · omega
      · omega
  · have phantom : positions.notAckd = positions.written + 1 := by
      omega
    have noWindow : session.entry.usableWindow.toNat = 0 := by
      have zero := closed (by
        rw [placed.notAckd, placed.firstUnwritten, phantom,
          BitVec.ofNat_add]
        rfl)
      rw [zero]
      rfl
    have nothing : lengths.sum = 0 := by
      rw [noWindow] at plan
      cases plan with
      | short fits _ =>
          rw [List.sum_singleton]
          exact Nat.le_zero.1 fits
      | window _ _ =>
          rfl
      | full _ room _ =>
          exact absurd room (by decide)
    by_cases early :
        (short && session.entry.txEngRead.ackdEqNotAckd) = true
    · have isShort : short = true := (Bool.and_eq_true_iff.1 early).1
      have noRest := plan.curr_eq_zero isShort nothing
      refine ⟨_, (if_pos early).trans wholeRest, ?_, ?_, ?_⟩
      · omega
      · omega
      · omega
    · refine ⟨_, (if_neg early).trans behindSum, ?_, ?_, ?_⟩
      · omega
      · omega
      · omega

/-- What handling an event in a well-ordered session amounts to. -/
structure EventKeeps
    (session : SendSession) (positions : SendPositions)
    (msgs : List TxEngMsg) : Prop where
  keeps : KeepsToWritten session msgs
  writes :
    EngineWrites positions.written positions.notAckd
      session.entry.finIsSent (sarWrites msgs)

section Events

variable {session : SendSession} {positions : SendPositions}
variable {regs : TxEngState} {event : EventWithTuple}
variable {rxRsp : RxSarLookupRsp}

theorem SendSession.Placed.eventKeeps_tx
    (placed : session.Placed positions) (typeTx : event.type = .tx)
    (closed :
      session.entry.notAckd = session.firstUnwritten + 1 →
        session.entry.usableWindow = 0) :
    ∃ msgs final,
      HandlesEvent regs event rxRsp session.entry.txEngRead msgs final ∧
      EventKeeps session positions msgs := by
  obtain ⟨header, lengths, short, fin, msgs, final, handles, plan,
      follows, outputs, noSyn, _⟩ :=
    handlesEvent_tx regs event rxRsp session.entry.txEngRead typeTx
  obtain ⟨value, pointer, forward, inside, sends⟩ :=
    placed.exists_pointer closed plan
  have payload := outputs.payload_eq plan follows noSyn
  have reads : ReadsSegments event.sessionId msgs := by
    rw [ReadsSegments, outputs.read, payload]
  refine ⟨msgs, final, handles, ?_, ?_⟩
  · exact
      placed.keepsToWritten payload placed.notAckd reads placed.ordered
        sends
  · have near : positions.written < value + 2 ^ 18 := by
      have bound := placed.written_lt
      have ordered := placed.ordered
      omega
    have finWrites :
        EngineWrites positions.written value session.entry.finIsSent
          (sarWrites fin) := by
      cases follows with
      | none =>
          exact EngineWrites.nil
      | @fin state _ _ _ _ =>
          exact
            engineWrites_finSend state pointer placed.appWritten inside
              near
    rw [outputs.written]
    exact
      EngineWrites.pointer forward inside pointer rfl rfl finWrites

theorem SendSession.Placed.eventKeeps_rt
    (placed : session.Placed positions) (typeRt : event.type = .rt)
    (notAcked :
      session.entry.finIsSent = true →
        session.entry.ackd ≠ session.entry.notAckd)
    (readsRing : RetransmissionReadsRing session.entry.txEngRead) :
    ∃ msgs final,
      HandlesEvent regs event rxRsp session.entry.txEngRead msgs final ∧
      EventKeeps session positions msgs := by
  obtain ⟨fin, msgs, handled⟩ :=
    handlesEvent_rt regs event rxRsp session.entry.txEngRead typeRt
  obtain ⟨final, handles⟩ := handled.handles
  obtain ⟨header, noSyn, outputs⟩ := handled.outputs
  have payload := outputs.payload_eq handled.follows noSyn
  have reads :=
    (outputs.reads_iff noSyn handled.follows).2 readsRing
  have unacked := placed.usedLengthRst notAcked
  have total :=
    rtLengths_sum_le 4 session.entry.txEngRead.usedLengthRst.toNat
  refine ⟨msgs, final, handles, ?_, ?_⟩
  · exact
      placed.keepsToWritten payload placed.ackd reads
        (Nat.le_refl positions.ackd) fun _ => by omega
  · obtain ⟨thresholds, written, onlyThresholds⟩ := outputs.written
    have near : positions.written < positions.notAckd + 2 ^ 18 := by
      have bound := placed.written_lt
      have ordered := placed.ordered
      omega
    have finWrites :
        EngineWrites positions.written positions.notAckd
          session.entry.finIsSent (sarWrites fin) := by
      cases handled.follows with
      | none =>
          exact EngineWrites.nil
      | fin state samePointer sameWritten =>
          exact
            engineWrites_finSend state
              (samePointer.trans placed.notAckd)
              (sameWritten.trans placed.appWritten) placed.sentWritten
              near
    rw [written]
    exact engineWrites_append_thresholds onlyThresholds finWrites

theorem SendSession.Placed.eventKeeps_fin
    (placed : session.Placed positions) (typeFin : event.type = .fin) :
    ∃ msgs final,
      HandlesEvent regs event rxRsp session.entry.txEngRead msgs final ∧
      EventKeeps session positions msgs := by
  obtain ⟨msgs, final, handles, quiet, written⟩ :=
    handlesEvent_quiet regs event rxRsp session.entry.txEngRead
      (by rw [typeFin]; rfl)
  have near : positions.written < positions.notAckd + 2 ^ 18 := by
    have bound := placed.written_lt
    have ordered := placed.ordered
    omega
  refine ⟨msgs, final, handles, quiet.keepsToWritten session, ?_⟩
  rw [written, txEngTcpFsm_fin regs event rxRsp _ typeFin]
  exact
    engineWrites_finSend _ placed.notAckd placed.appWritten
      placed.sentWritten near

end Events

/-! ## The steps of the other writers -/

section Steps

variable {session : SendSession} {positions : SendPositions}

theorem SendSession.Placed.engineWrite
    {req : TxEngToTxSarReq} {later : List TxEngToTxSarReq}
    (placed : session.Placed positions)
    (queued : session.engineWrites = req :: later) :
    SendInvariant
      { session with
        entry := session.entry.txEngWrite req
        engineWrites := later } := by
  have pending := placed.engineWrites
  rw [queued] at pending
  cases pending with
  | threshold isThreshold rest =>
      rw [session.entry.txEngWrite_threshold isThreshold]
      exact ⟨positions, { placed with engineWrites := rest }⟩
  | @pointer _ value _ _ _ forward inside shown noThreshold noInit rest =>
      rw [session.entry.txEngWrite_pointer noThreshold noInit]
      exact
        ⟨{ positions with notAckd := value },
          { placed with
            notAckd := shown
            ordered := Nat.le_trans placed.ordered forward
            sentWritten := inside
            engineWrites := rest }⟩

theorem SendSession.Placed.ack
    (id : TcpSessionID) {req : RxEngToTxSarReq}
    (placed : session.Placed positions)
    (inWindow :
      Between session.entry.ackd req.ackd session.entry.notAckd) :
    SendInvariant
      { session with
        entry := session.entry.rxEngWrite req
        ackUpdates :=
          session.ackUpdates ++ [⟨id, req.ackd.setWidth 18, false⟩] } := by
  have bound := placed.written_lt
  have finBound := Bool.toNat_le session.entry.finIsSent
  have ordered := placed.ordered
  have sentWritten := placed.sentWritten
  rw [placed.ackd, placed.notAckd, Between,
    distance_ofNat placed.ordered (by omega)] at inWindow
  let value :=
    positions.ackd +
      distance (BitVec.ofNat 32 positions.ackd) req.ackd
  have shown : req.ackd = BitVec.ofNat 32 value :=
    eq_ofNat_add_distance req.ackd
  have forward : positions.ackd ≤ value :=
    Nat.le_add_right _ _
  refine
    ⟨{ positions with ackd := value },
      { placed with
        ackd := shown
        ordered := ?_
        ackUpdates := ?_ }⟩
  · change
      positions.ackd +
          distance (BitVec.ofNat 32 positions.ackd) req.ackd ≤
        positions.notAckd
    omega
  · refine placed.ackUpdates.push forward ⟨rfl, ?_⟩
    rw [shown, BitVec.setWidth_ofNat_of_le (by decide)]

theorem SendSession.Placed.ackUpdate
    {req : TxSarToTxAppReq} {later : List TxSarToTxAppReq}
    (placed : session.Placed positions)
    (queued : session.ackUpdates = req :: later) :
    SendInvariant
      { session with
        appTable := session.appTable.txSarUpdate req
        ackUpdates := later } := by
  have updates := placed.ackUpdates
  rw [queued] at updates
  obtain ⟨value, forward, _, ⟨noInit, shown⟩, rest⟩ := updates.tail
  have room := placed.room
  have updated :
      session.appTable.txSarUpdate req =
        { session.appTable with ackd := req.ackd } := by
    rw [TxAppTableEntry.txSarUpdate, noInit, if_neg Bool.false_ne_true]
  rw [updated]
  exact
    ⟨{ positions with appAckd := value },
      { placed with
        appAckd := shown
        ackUpdates := rest
        room := Nat.lt_of_lt_of_le room (Nat.add_le_add_right forward _) }⟩

/-- The free space of the application's table, with the data behind it. -/
theorem SendSession.Placed.granted
    {length : TcpSessionBuffer} (placed : session.Placed positions)
    (fits : length ≤ session.appTable.maxWriteLength) :
    positions.granted + length.toNat <
      positions.appAckd + bufferSize := by
  have seen := placed.ackUpdates.le
  have ordered := placed.ordered
  have sentWritten := placed.sentWritten
  have finBound := Bool.toNat_le session.entry.finIsSent
  have granted := placed.appWrites.le
  have room := placed.room
  rw [BitVec.le_def, TxAppTableEntry.maxWriteLength, placed.appAckd,
    placed.appWrittenIdeal] at fits
  rw [bufferSize_eq] at room ⊢
  have one : (1 : TcpSessionBuffer).toNat = 1 := rfl
  rw [BitVec.toNat_sub, BitVec.toNat_sub, one, BitVec.toNat_ofNat,
    BitVec.toNat_ofNat] at fits
  omega

theorem SendSession.Placed.appRequest
    (id : TcpSessionID) {length : TcpSessionBuffer}
    (placed : session.Placed positions)
    (fits : length ≤ session.appTable.maxWriteLength) :
    SendInvariant
      { session with
        appTable := session.appTable.grant length
        appWrites := session.appWrites ++ [session.appWrite id length]
        grantedTo := session.grantedTo + length.setWidth 32 } := by
  have lengthBound := length.isLt
  have wide (width : Nat) :
      length.setWidth width = BitVec.ofNat width length.toNat :=
    (BitVec.ofNat_toNat width length).symm
  have told (width : Nat) :
      (length.setWidth 16).setWidth width =
        BitVec.ofNat width (length.toNat % 2 ^ 16) := by
    rw [← BitVec.toNat_setWidth]
    exact (BitVec.ofNat_toNat width (length.setWidth 16)).symm
  have toldBound := Nat.mod_le length.toNat (2 ^ 16)
  refine
    ⟨{ positions with granted := positions.granted + length.toNat },
      { placed with
        appWrittenIdeal := ?_
        grantedTo := ?_
        appWrites := ?_
        room := placed.granted fits }⟩
  · change session.appTable.appWrittenIdeal + length = _
    rw [BitVec.ofNat_add, placed.appWrittenIdeal, BitVec.ofNat_toNat,
      BitVec.setWidth_eq]
  · change session.grantedTo + length.setWidth 32 = _
    rw [BitVec.ofNat_add, placed.grantedTo, wide]
  · have pushed :=
      @Ascends.push _ _ _ _ _
        (positions.granted + length.toNat % 2 ^ 16)
        (session.appWrite id length) placed.appWrites
        (Nat.le_add_right _ _) ⟨?_, ?_⟩
    · exact pushed.advance (Nat.add_le_add_left toldBound _)
    · change
        session.grantedTo + (length.setWidth 16).setWidth 32 = _
      rw [BitVec.ofNat_add, placed.grantedTo, told]
    · change
        session.appTable.appWrittenIdeal +
            (length.setWidth 16).setWidth 18 =
          _
      rw [BitVec.ofNat_add, placed.appWrittenIdeal, told]

theorem SendSession.Placed.appStatus
    {write : AppWrite} {later : List AppWrite}
    (placed : session.Placed positions)
    (queued : session.appWrites = write :: later) :
    SendInvariant
        { session with
          entry :=
            session.entry.txAppWrite
              (TxAppToTxSarReq.ofEvent write.event)
          appWrites := later
          firstUnwritten := write.position } ∧
      SendInvariant { session with appWrites := later } := by
  have writes := placed.appWrites
  rw [queued] at writes
  obtain ⟨value, forward, _, ⟨position, shown⟩, rest⟩ := writes.tail
  refine ⟨⟨{ positions with written := value }, ?_⟩,
    ⟨positions, { placed with appWrites := rest.lower forward }⟩⟩
  exact
    { placed with
      appWritten := shown
      firstUnwritten := position
      sentWritten :=
        Nat.le_trans placed.sentWritten
          (Nat.add_le_add_right forward _)
      engineWrites := placed.engineWrites.written_le forward
      appWrites := rest }

end Steps

theorem sendInvariant_start
    (old : TxSarTableEntry) (oldApp : TxAppTableEntry)
    (id : TcpSessionID) (isn : BitVec 32) :
    SendInvariant (SendSession.start old oldApp id isn) := by
  have here : BitVec.ofNat 32 isn.toNat = isn := by
    rw [BitVec.ofNat_toNat, BitVec.setWidth_eq]
  have next : isn + 1 = BitVec.ofNat 32 (isn.toNat + 1) := by
    rw [BitVec.ofNat_add, here]
    rfl
  have nextPointer :
      (isn + 1).setWidth 18 = BitVec.ofNat 18 (isn.toNat + 1) := by
    rw [next, BitVec.setWidth_ofNat_of_le (by decide)]
  refine
    ⟨⟨isn.toNat, isn.toNat + 1, isn.toNat + 1, isn.toNat + 1, isn.toNat⟩,
      { ackd := ?_
        notAckd := next
        appWritten := nextPointer
        firstUnwritten := next
        appWrittenIdeal := nextPointer
        grantedTo := next
        appAckd := ?_
        ordered := Nat.le_succ _
        sentWritten := Nat.le_add_right _ _
        engineWrites := EngineWrites.nil
        ackUpdates := Nat.le_refl _
        appWrites := Nat.le_refl _
        room := ?_ }⟩
  · change isn + 1 - 1 = BitVec.ofNat 32 isn.toNat
    rw [here]
    exact BitVec.add_sub_cancel isn 1
  · change (isn + 1).setWidth 18 - 1 = BitVec.ofNat 18 isn.toNat
    rw [nextPointer, BitVec.ofNat_add]
    exact BitVec.add_sub_cancel _ _
  · rw [bufferSize_eq]
    exact Nat.add_lt_add_left (by decide) _

/-! ## Every run -/

theorem sendStep_keeps
    (id : TcpSessionID) (session : SendSession) (action : SendAction)
    (next : SendSession) (invariant : SendInvariant session)
    (guard : SendGuard session action)
    (stepped : SendStep id session action next) :
    SendInvariant next ∧ SendsWritten session action := by
  obtain ⟨positions, placed⟩ := invariant
  cases stepped with
  | @event regs event rxRsp msgs final done movesData sameId handles =>
      obtain ⟨otherMsgs, otherFinal, otherHandles, keeps⟩ :
          ∃ otherMsgs otherFinal,
            HandlesEvent regs event rxRsp session.entry.txEngRead
                otherMsgs otherFinal ∧
              EventKeeps session positions otherMsgs := by
        cases typeEq : event.type with
        | tx =>
            exact placed.eventKeeps_tx typeEq (guard.1 typeEq)
        | rt =>
            exact
              placed.eventKeeps_rt typeEq (guard.2 typeEq).1
                (guard.2 typeEq).2
        | fin =>
            exact placed.eventKeeps_fin typeEq
        | ack | syn | synAck | rst | ackNodelay | rtCont =>
            rw [typeEq] at movesData
            cases movesData
      rw [HandlesEvent.unique otherHandles handles] at keeps
      refine
        ⟨⟨positions, { placed with engineWrites := keeps.writes }⟩, ?_⟩
      intro anyMsgs anyFinal anyHandles
      rw [HandlesEvent.unique anyHandles handles]
      exact keeps.keeps
  | engineWrite queued =>
      exact ⟨placed.engineWrite queued, trivial⟩
  | ack =>
      exact ⟨placed.ack id guard, trivial⟩
  | ackUpdate queued =>
      exact ⟨placed.ackUpdate queued, trivial⟩
  | appRequest fits =>
      exact ⟨placed.appRequest id fits, trivial⟩
  | appStatusOkay queued =>
      exact ⟨(placed.appStatus queued).1, trivial⟩
  | appStatusFailed queued =>
      exact ⟨(placed.appStatus queued).2, trivial⟩

/-- In a run whose steps all keep the guard, every event sends and reads only
bytes of the send buffer. -/
theorem sendsWritten_of_guarded
    (old : TxSarTableEntry) (oldApp : TxAppTableEntry)
    (id : TcpSessionID) (isn : BitVec 32) (actions : List SendAction)
    (guarded :
      Guarded.Along (SendStep id) SendGuard
        (SendSession.start old oldApp id isn) actions) :
    Guarded.Along (SendStep id) SendsWritten
      (SendSession.start old oldApp id isn) actions :=
  Guarded.along_of_invariant
    (fun session action next invariant guard stepped =>
      (sendStep_keeps id session action next invariant guard stepped).1)
    (fun session action next invariant guard stepped =>
      (sendStep_keeps id session action next invariant guard stepped).2)
    (sendInvariant_start old oldApp id isn) guarded

/-! ## A probe after the FIN -/

/-- The acknowledgement that ends the handshake. -/
def handshakeAck : RxEngToTxSarReq :=
  RxEngToTxSarReq.update 0 1 0xFFFF 14600 0 false 0

def freshSession : SendSession :=
  SendSession.start wideFlightEntry ⟨0, 0⟩ 0 0

def txAction : SendAction :=
  .event TxEngState.start (txEventOf 0) ⟨0, 0, 0⟩

def finAction : SendAction :=
  .event TxEngState.start ⟨Event.plain .fin 0, ⟨0, 0, 0, 0⟩⟩ ⟨0, 0, 0⟩

theorem sendsWritten_of_first_write :
    Guarded.Along (SendStep 0) SendsWritten freshSession
      [.ack handshakeAck, .appRequest 100, .appStatus true, txAction] := by
  refine sendsWritten_of_guarded wideFlightEntry ⟨0, 0⟩ 0 0 _ ?_
  intro acked stepped
  cases stepped
  have inWindow : Between (0 : BitVec 32) 1 1 := by
    decide
  refine ⟨inWindow, ?_⟩
  intro granted stepped
  cases stepped
  refine ⟨trivial, ?_⟩
  intro written stepped
  cases stepped with
  | appStatusOkay queued =>
      cases queued
      refine ⟨trivial, fun sent _ => ⟨⟨fun _ atFin => ?_, ?_⟩, trivial⟩⟩
      · exact absurd atFin (by decide)
      · intro isRt
        cases isRt

/-- Two writes of 100 bytes, each sent by its event, and the close.  The
second event finds bytes in flight and sets the probe timer. -/
def closingActions : List SendAction :=
  [.ack handshakeAck, .appRequest 100, .appStatus true, txAction,
    .engineWrite, .appRequest 100, .appStatus true, txAction,
    .engineWrite, finAction, .engineWrite]

def closedSession : SendSession where
  entry :=
    { ackd := 1
      notAckd := 202
      recvWindow := 0xFFFF
      appWritten := 201
      congWindow := 14600
      slowstartThreshold := 0x3FFFF
      winShift := 2
      retransCount := 0
      fastRetrans := false
      finIsReady := true
      finIsSent := true }
  engineWrites := []
  appTable := ⟨0, 201⟩
  ackUpdates := [⟨0, 1, false⟩]
  appWrites := []
  firstUnwritten := 201
  grantedTo := 201

theorem run_closingActions :
    Guarded.Run (SendStep 0) freshSession closingActions
      closedSession := by
  refine Guarded.Run.head .ack ?_
  refine Guarded.Run.head (.appRequest (by decide)) ?_
  refine Guarded.Run.head (.appStatusOkay rfl) ?_
  refine Guarded.Run.head (.event rfl rfl rfl ⟨⟨2, rfl⟩, rfl⟩) ?_
  refine Guarded.Run.head (.engineWrite rfl) ?_
  refine Guarded.Run.head (.appRequest (by decide)) ?_
  refine Guarded.Run.head (.appStatusOkay rfl) ?_
  refine Guarded.Run.head (.event rfl rfl rfl ⟨⟨2, rfl⟩, rfl⟩) ?_
  refine Guarded.Run.head (.engineWrite rfl) ?_
  refine Guarded.Run.head (.event rfl rfl rfl ⟨⟨2, rfl⟩, rfl⟩) ?_
  refine Guarded.Run.head (.engineWrite rfl) ?_
  exact Guarded.Run.refl _

/-- The probe's `TX` event finds `not_ackd` one past the written data, takes
the difference for a full buffer and sends from there. -/
theorem not_sendsWritten_probe :
    ¬ Guarded.Along (SendStep 0) SendsWritten freshSession
      (closingActions ++ [txAction]) := by
  intro along
  obtain ⟨header, lengths, short, fin, msgs, final, handles, plan,
      follows, outputs, noSyn, _⟩ :=
    handlesEvent_tx TxEngState.start (txEventOf 0) ⟨0, 0, 0⟩
      closedSession.entry.txEngRead rfl
  have probe :=
    along.of_run run_closingActions
      (SendStep.event rfl rfl rfl handles)
  have payload := outputs.payload_eq plan follows noSyn
  obtain ⟨first, later, lengthsEq, notEmpty⟩ :=
    plan.exists_first (by decide) (by decide)
  obtain ⟨segment, member, atPointer⟩ :=
    exists_first_segment header closedSession.entry.notAckd later notEmpty
  have sends :
      segment ∈
        (segments msgs).filter TxEngFsmMetaData.carriesPayload := by
    rw [payload, lengthsEq]
    exact member
  have carries : 0 < segment.length.toNat := by
    have notZero :=
      (Bool.and_eq_true_iff.1 (List.mem_filter.1 sends).2).1
    rw [bne_iff_ne, ne_eq, ← BitVec.toNat_inj] at notZero
    exact Nat.pos_of_ne_zero notZero
  have inside := (probe msgs final handles).sent segment sends 0 carries
  rw [atPointer] at inside
  exact absurd inside.2 (by decide)

end TcpOffload
