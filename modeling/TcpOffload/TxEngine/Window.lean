import TcpOffload.TxEngine.Transmit
import TcpOffload.TxSarTable

/-!
# Window and pointer of a `TX` event

How many bytes a `TX` event sends, and where the pointer it writes back
stands behind them.
-/

namespace TcpOffload

/-! ## Totals -/

namespace TxEngFsmMetaData

/-- The sequence numbers a segment takes: its payload, and one for a FIN. -/
def seqLength (segment : TxEngFsmMetaData) : Nat :=
  segment.length.toNat + segment.fin.toNat

end TxEngFsmMetaData

/-- Each segment starts where the one before ends, the first at `start`. -/
def Contiguous : BitVec 32 → List TxEngFsmMetaData → Prop
  | _, [] => True
  | start, segment :: later =>
      segment.seqNumber = start ∧
        Contiguous (start + BitVec.ofNat 32 segment.seqLength) later

def totalSeqLength (sent : List TxEngFsmMetaData) : Nat :=
  (sent.map TxEngFsmMetaData.seqLength).sum

def payloadBytes (sent : List TxEngFsmMetaData) : Nat :=
  (sent.map fun segment => segment.length.toNat).sum

/-- The `not_ackd` of the last write that moves it. -/
def finalPointer (writes : List TxEngToTxSarReq) : Option (BitVec 32) :=
  ((writes.filter fun req => !req.retransReq).getLast?).map
    TxEngToTxSarReq.notAckd

theorem contiguous_append
    (start : BitVec 32) (first second : List TxEngFsmMetaData) :
    Contiguous start (first ++ second) ↔
      Contiguous start first ∧
        Contiguous (start + BitVec.ofNat 32 (totalSeqLength first))
          second := by
  induction first generalizing start with
  | nil =>
      simp [Contiguous, totalSeqLength]
  | cons segment later inductionHypothesis =>
      have moved :
          start + BitVec.ofNat 32 segment.seqLength +
              BitVec.ofNat 32 (totalSeqLength later) =
            start +
              BitVec.ofNat 32 (totalSeqLength (segment :: later)) := by
        rw [BitVec.add_assoc, ← BitVec.ofNat_add]
        rfl
      rw [List.cons_append, Contiguous, Contiguous, inductionHypothesis,
        moved, and_assoc]

section SegmentList

variable {header : TxEngFsmMetaData} {lengths : List Nat}

theorem payloadBytes_segmentList
    (start : BitVec 32) (short : ∀ length ∈ lengths, length ≤ tcpMss) :
    payloadBytes (segmentList header start lengths) = lengths.sum := by
  induction lengths generalizing start with
  | nil =>
      rfl
  | cons length later inductionHypothesis =>
      have lengthShort := short length List.mem_cons_self
      have rest :=
        inductionHypothesis (start + BitVec.ofNat 32 length)
          fun other member =>
            short other (List.mem_cons_of_mem length member)
      rw [payloadBytes] at rest
      rw [tcpMss_eq] at lengthShort
      rw [segmentList, payloadBytes, List.map_append, List.sum_append,
        rest, List.sum_cons]
      by_cases empty : length = 0
      · rw [if_pos empty, empty]
        rfl
      · rw [if_neg empty, List.map_singleton, List.sum_singleton,
          BitVec.toNat_ofNat, Nat.mod_eq_of_lt (by omega)]

theorem totalSeqLength_segmentList
    (start : BitVec 32) (noFin : header.fin = false) :
    totalSeqLength (segmentList header start lengths) =
      payloadBytes (segmentList header start lengths) := by
  induction lengths generalizing start with
  | nil =>
      rfl
  | cons length later inductionHypothesis =>
      have rest := inductionHypothesis (start + BitVec.ofNat 32 length)
      rw [totalSeqLength, payloadBytes] at rest
      rw [segmentList, totalSeqLength, payloadBytes, List.map_append,
        List.map_append, List.sum_append, List.sum_append, rest]
      by_cases empty : length = 0
      · rw [if_pos empty]
        rfl
      · rw [if_neg empty]
        simp only [List.map_singleton, List.sum_singleton,
          TxEngFsmMetaData.seqLength, noFin, Bool.toNat_false,
          Nat.add_zero]

theorem contiguous_segmentList
    (start : BitVec 32) (noFin : header.fin = false)
    (short : ∀ length ∈ lengths, length ≤ tcpMss) :
    Contiguous start (segmentList header start lengths) := by
  induction lengths generalizing start with
  | nil =>
      exact True.intro
  | cons length later inductionHypothesis =>
      have lengthShort := short length List.mem_cons_self
      have rest :=
        inductionHypothesis (start + BitVec.ofNat 32 length)
          fun other member =>
            short other (List.mem_cons_of_mem length member)
      rw [tcpMss_eq] at lengthShort
      rw [segmentList]
      by_cases empty : length = 0
      · have unmoved : start + BitVec.ofNat 32 length = start := by
          rw [empty]
          exact BitVec.add_zero start
        rw [unmoved] at rest ⊢
        rw [if_pos empty, List.nil_append]
        exact rest
      · have exact : (BitVec.ofNat 16 length).toNat = length := by
          rw [BitVec.toNat_ofNat]
          omega
        rw [if_neg empty, List.singleton_append, Contiguous]
        refine ⟨rfl, ?_⟩
        simp only [TxEngFsmMetaData.seqLength, exact, noFin,
          Bool.toNat_false, Nat.add_zero]
        exact rest

end SegmentList

/-! ## A following `FIN` -/

section Fin

variable (state : TxEngState) (rsp : TxSarToTxEngRsp)

/-- The header of the FIN, whether it is sent or not. -/
def finSegment : TxEngFsmMetaData :=
  (finSend state rsp).1.tcpTxMetaReg

theorem finSegment_seqNumber :
    (finSegment state rsp).seqNumber =
      if state.txEngEventReg.retransCnt ≠ 0 then
        rsp.notAckd - 1
      else
        rsp.notAckd :=
  rfl

theorem segments_finSend :
    segments (finSend state rsp).2 =
      if
        (finSegment state rsp).seqNumber.setWidth 18 = rsp.appWritten
      then
        [finSegment state rsp]
      else
        [] := by
  have sendEq : (finSend state rsp).2 =
      _ ++ _ := rfl
  rw [sendEq, segments_append]
  have noSegments :
      segments
        (if state.txEngEventReg.retransCnt ≠ 0 then
          []
        else if rsp.appWritten = rsp.notAckd.setWidth 18 then
          [TxEngMsg.txSarReq
            (TxEngToTxSarReq.updateFin state.sessionId
              (rsp.notAckd + 1) true true)]
        else
          [TxEngMsg.txSarReq
            (TxEngToTxSarReq.updateFin state.sessionId rsp.notAckd
              true false)]) = [] := by
    split
    · rfl
    · split <;> rfl
  rw [noSegments, List.nil_append]
  by_cases sent :
      (finSegment state rsp).seqNumber.setWidth 18 = rsp.appWritten
  · rw [if_pos sent]
    exact congrArg segments (if_pos sent)
  · rw [if_neg sent]
    exact congrArg segments (if_neg sent)

theorem sarWrites_finSend :
    sarWrites (finSend state rsp).2 =
      if state.txEngEventReg.retransCnt ≠ 0 then
        []
      else if rsp.appWritten = rsp.notAckd.setWidth 18 then
        [TxEngToTxSarReq.updateFin state.sessionId (rsp.notAckd + 1)
          true true]
      else
        [TxEngToTxSarReq.updateFin state.sessionId rsp.notAckd
          true false] := by
  have noWrites :
      sarWrites
        (if (finSegment state rsp).seqNumber.setWidth 18 =
            rsp.appWritten then
          [.metaData (finSegment state rsp),
            .payloadLength (finSegment state rsp).length,
            .fourTupleSource true, .slookupReq state.sessionId,
            .setRtimer ⟨state.sessionId, .rt⟩]
        else
          []) = [] := by
    split <;> rfl
  have sendEq : (finSend state rsp).2 =
      _ ++ _ := rfl
  rw [sendEq, sarWrites_append]
  refine (congrArg (sarWrites _ ++ ·) noWrites).trans ?_
  rw [List.append_nil]
  split
  · rfl
  · split <;> rfl

end Fin

/-- The bytes of `TX` segments a plan leaves unsent are behind its pointer,
so a repeated FIN never finds itself at the end of the data. -/
theorem pointer_sub_one_ne_appWritten
    {entry : TxSarTableEntry} {lengths : List Nat} {used window : Nat}
    (plan :
      TxPlan entry.minWindow.toNat entry.currLength.toNat used window
        lengths true) :
    (pointerAfter entry.txEngRead lengths true - 1).setWidth 18 ≠
      entry.appWritten := by
  have sumBound := plan.sum_le_curr
  have emptyPlan := plan.curr_eq_zero rfl
  have currBound := entry.currLength.isLt
  have pointerBound := entry.notAckd.isLt
  have writtenBound := entry.appWritten.isLt
  have currValue :
      entry.currLength.toNat =
        (2 ^ 18 - entry.notAckd.toNat % 2 ^ 18 +
          entry.appWritten.toNat) % 2 ^ 18 := by
    rw [TxSarTableEntry.currLength, BitVec.toNat_sub,
      BitVec.toNat_setWidth]
  have one : (1 : BitVec 32).toNat = 1 := rfl
  intro same
  have sameNat := congrArg BitVec.toNat same
  rw [BitVec.toNat_setWidth, BitVec.toNat_sub, one] at sameNat
  rw [pointerAfter, Bool.true_and] at sameNat
  by_cases nothingInFlight : entry.txEngRead.ackdEqNotAckd = true
  · have pointer :
        entry.txEngRead.notAckdShort.toNat =
          (entry.notAckd.toNat + entry.currLength.toNat) % 2 ^ 32 := by
      change (entry.notAckd + entry.currLength.setWidth 32).toNat = _
      rw [BitVec.toNat_add, BitVec.toNat_setWidth_of_le (by decide)]
    rw [if_pos nothingInFlight, pointer] at sameNat
    omega
  · have pointer :
        (entry.txEngRead.notAckd +
            BitVec.ofNat 32 lengths.sum).toNat =
          (entry.notAckd.toNat + lengths.sum) % 2 ^ 32 := by
      change (entry.notAckd + BitVec.ofNat 32 lengths.sum).toNat = _
      rw [BitVec.toNat_add, BitVec.toNat_ofNat]
      omega
    rw [if_neg nothingInFlight, pointer] at sameNat
    omega

/-- What a list of writes and segments behind a pointer amounts to. -/
structure MovesPointer
    (pointer : BitVec 32) (writes : List TxEngToTxSarReq)
    (sent : List TxEngFsmMetaData) : Prop where
  final :
    finalPointer writes =
      some (pointer + BitVec.ofNat 32 (totalSeqLength sent))
  noPayload : payloadBytes sent = 0
  atMostOne : totalSeqLength sent ≤ 1
  contiguous : Contiguous pointer sent

theorem movesPointer_nil
    {pointer : BitVec 32} {writes : List TxEngToTxSarReq}
    (final : finalPointer writes = some pointer) :
    MovesPointer pointer writes [] where
  final := final.trans (congrArg some (BitVec.add_zero pointer).symm)
  noPayload := rfl
  atMostOne := Nat.zero_le 1
  contiguous := True.intro

/-- A FIN takes the sequence number at the pointer and moves it by one. -/
theorem movesPointer_finSend
    (id : TcpSessionID) (state : TxEngState) (rsp : TxSarToTxEngRsp)
    (unsent : (rsp.notAckd - 1).setWidth 18 ≠ rsp.appWritten) :
    MovesPointer rsp.notAckd
      (TxEngToTxSarReq.update id rsp.notAckd ::
        sarWrites (finSend state rsp).2)
      (segments (finSend state rsp).2) := by
  rw [sarWrites_finSend, segments_finSend]
  by_cases repeated : state.txEngEventReg.retransCnt ≠ 0
  · have notAtEnd :
        (finSegment state rsp).seqNumber.setWidth 18 ≠ rsp.appWritten := by
      rw [finSegment_seqNumber, if_pos repeated]
      exact unsent
    rw [if_pos repeated, if_neg notAtEnd]
    exact movesPointer_nil rfl
  · have atPointer : (finSegment state rsp).seqNumber = rsp.notAckd := by
      rw [finSegment_seqNumber, if_neg repeated]
    rw [if_neg repeated, atPointer]
    by_cases atEnd : rsp.notAckd.setWidth 18 = rsp.appWritten
    · rw [if_pos atEnd, if_pos atEnd.symm]
      exact ⟨rfl, rfl, Nat.le_refl 1, atPointer, True.intro⟩
    · rw [if_neg atEnd, if_neg (Ne.symm atEnd)]
      exact movesPointer_nil rfl

theorem FinFollows.movesPointer
    {id : TcpSessionID} {retransCnt : BitVec 3}
    {entry : TxSarTableEntry} {lengths : List Nat} {short : Bool}
    {used window : Nat} {fin : List TxEngMsg}
    (plan :
      TxPlan entry.minWindow.toNat entry.currLength.toNat used window
        lengths short)
    (follows :
      FinFollows id retransCnt entry.txEngRead lengths short fin) :
    MovesPointer (pointerAfter entry.txEngRead lengths short)
      (TxEngToTxSarReq.update id
        (pointerAfter entry.txEngRead lengths short) :: sarWrites fin)
      (segments fin) := by
  cases follows with
  | none =>
      exact movesPointer_nil rfl
  | @fin state isShort ready sameId sameCnt =>
      subst isShort
      exact movesPointer_finSend id state
        { entry.txEngRead with
          notAckd := pointerAfter entry.txEngRead lengths true }
        (pointer_sub_one_ne_appWritten plan)

/-! ## The window -/

/-- Handling the event sends at most what the window leaves over the bytes in
flight. -/
def StaysInWindow
    (regs : TxEngState) (event : EventWithTuple)
    (rxRsp : RxSarLookupRsp) (txRsp : TxSarToTxEngRsp) : Prop :=
  ∃ msgs final,
    HandlesEvent regs event rxRsp txRsp msgs final ∧
    payloadBytes (segments msgs) ≤
      txRsp.minWindow.toNat - txRsp.usedLength.toNat

/-! ## The pointer -/

/-- Handling the event sends adjacent segments from the looked-up `not_ackd`
on, and moves the pointer by exactly what they take. -/
structure MarksSent
    (notAckd : BitVec 32) (msgs : List TxEngMsg) : Prop where
  contiguous : Contiguous notAckd (segments msgs)
  noOverlap : totalSeqLength (segments msgs) < 2 ^ 32
  pointer :
    finalPointer (sarWrites msgs) =
      some (notAckd + BitVec.ofNat 32 (totalSeqLength (segments msgs)))

theorem FinFollows.noPayload
    {id : TcpSessionID} {retransCnt : BitVec 3} {rsp : TxSarToTxEngRsp}
    {lengths : List Nat} {short : Bool} {fin : List TxEngMsg}
    (follows : FinFollows id retransCnt rsp lengths short fin) :
    payloadBytes (segments fin) = 0 := by
  cases follows with
  | none =>
      rfl
  | fin _ _ _ _ =>
      rw [segments_finSend]
      split <;> rfl

theorem payloadBytes_append (first second : List TxEngFsmMetaData) :
    payloadBytes (first ++ second) =
      payloadBytes first + payloadBytes second := by
  rw [payloadBytes, List.map_append, List.sum_append]
  rfl

theorem totalSeqLength_append (first second : List TxEngFsmMetaData) :
    totalSeqLength (first ++ second) =
      totalSeqLength first + totalSeqLength second := by
  rw [totalSeqLength, List.map_append, List.sum_append]
  rfl

theorem TxOutputs.payloadBytes_eq
    {id : TcpSessionID} {header : TxEngFsmMetaData}
    {rsp : TxSarToTxEngRsp} {minWindow curr used window : Nat}
    {lengths : List Nat} {short : Bool} {retransCnt : BitVec 3}
    {fin msgs : List TxEngMsg}
    (outputs : TxOutputs id header rsp lengths short fin msgs)
    (plan : TxPlan minWindow curr used window lengths short)
    (follows : FinFollows id retransCnt rsp lengths short fin) :
    payloadBytes (segments msgs) = lengths.sum := by
  rw [outputs.sent, payloadBytes_append, follows.noPayload,
    payloadBytes_segmentList _ fun _ => plan.length_le_mss, Nat.add_zero]

/-- A `TX` event stays in its window unless the used length wraps while the
window is open. -/
theorem staysInWindow_iff
    (regs : TxEngState) (event : EventWithTuple)
    (rxRsp : RxSarLookupRsp) (txRsp : TxSarToTxEngRsp)
    (typeTx : event.type = .tx)
    (usable :
      txRsp.usableWindow.toNat =
        txRsp.minWindow.toNat - txRsp.usedLength.toNat) :
    StaysInWindow regs event rxRsp txRsp ↔
      ¬ OverrunsWindow txRsp.currLength.toNat txRsp.usedLength.toNat
        (txRsp.minWindow.toNat - txRsp.usedLength.toNat) := by
  obtain ⟨header, lengths, short, fin, msgs, final, handles, plan,
      follows, outputs, _, _⟩ :=
    handlesEvent_tx regs event rxRsp txRsp typeTx
  have total := outputs.payloadBytes_eq plan follows
  have bound := plan.sum_le_window_iff usable
  rw [← usable, ← bound]
  constructor
  · rintro ⟨otherMsgs, otherFinal, otherHandles, inWindow⟩
    rw [HandlesEvent.unique otherHandles handles, total, ← usable]
      at inWindow
    exact inWindow
  · intro inWindow
    refine ⟨msgs, final, handles, ?_⟩
    rw [total, ← usable]
    exact inWindow

/-- A session with 64100 bytes in flight, 60000 more to send and a window of
70000 bytes. -/
def wideFlightEntry : TxSarTableEntry where
  ackd := 0
  notAckd := 64100
  recvWindow := 0xFFFF
  appWritten := 124100
  congWindow := 70000
  slowstartThreshold := 0x3FFFF
  winShift := 2
  retransCount := 0
  fastRetrans := false
  finIsReady := false
  finIsSent := false

def txEventOf (id : TcpSessionID) : EventWithTuple :=
  ⟨Event.plain .tx id, ⟨0, 0, 0, 0⟩⟩

theorem staysInWindow_of_small_flight :
    (txEventOf 0).type = .tx ∧
      (StaysInWindow TxEngState.start (txEventOf 0) ⟨0, 0, 0⟩
          { wideFlightEntry with ackd := 60000 }.txEngRead ↔
        ¬ OverrunsWindow 60000 4100 65900) :=
  ⟨rfl,
    staysInWindow_iff TxEngState.start (txEventOf 0) ⟨0, 0, 0⟩
      { wideFlightEntry with ackd := 60000 }.txEngRead rfl (by decide)⟩

/-- After one segment the used length has wrapped to 24, and all 60000 bytes
go out into a window of 5900. -/
theorem not_staysInWindow_wide_flight :
    ¬ StaysInWindow TxEngState.start (txEventOf 0) ⟨0, 0, 0⟩
      wideFlightEntry.txEngRead := by
  rintro ⟨msgs, final, handles, inWindow⟩
  obtain ⟨header, lengths, short, fin, otherMsgs, otherFinal, otherHandles,
      plan, follows, outputs, _, _⟩ :=
    handlesEvent_tx TxEngState.start (txEventOf 0) ⟨0, 0, 0⟩
      wideFlightEntry.txEngRead rfl
  have bound := plan.sum_le_window_iff (by decide)
  rw [HandlesEvent.unique handles otherHandles,
    outputs.payloadBytes_eq plan follows] at inWindow
  exact bound.1 inWindow (by decide)

/-- The pointer of a plan stands behind its segments unless the plan loses
length. -/
theorem pointerAfter_eq_iff
    {entry : TxSarTableEntry} {lengths : List Nat} {short : Bool}
    (plan :
      TxPlan entry.minWindow.toNat entry.currLength.toNat
        entry.usedLength.toNat entry.usableWindow.toNat lengths short) :
    pointerAfter entry.txEngRead lengths short =
        entry.notAckd + BitVec.ofNat 32 lengths.sum ↔
      ¬ (entry.ackd = entry.notAckd ∧
        LosesLength entry.currLength.toNat entry.minWindow.toNat) := by
  have sumBound := plan.sum_le_curr
  have currBound := entry.currLength.isLt
  by_cases nothingInFlight : entry.ackd = entry.notAckd
  · have noneUsed : entry.usedLength.toNat = 0 := by
      rw [TxSarTableEntry.usedLength, nothingInFlight, BitVec.sub_self]
      rfl
    have wholeWindow :
        entry.usableWindow.toNat = entry.minWindow.toNat := by
      rw [entry.usableWindow_toNat, noneUsed, Nat.sub_zero]
    rw [noneUsed, wholeWindow] at plan
    have loses := plan.short_loses_iff
    have flag : entry.txEngRead.ackdEqNotAckd = true :=
      decide_eq_true nothingInFlight
    have atShort :
        entry.txEngRead.notAckdShort =
          entry.notAckd + BitVec.ofNat 32 entry.currLength.toNat := by
      rw [BitVec.ofNat_toNat]
      rfl
    rw [← loses, pointerAfter, flag, Bool.and_true]
    by_cases isShort : short = true
    · have sameIff :
          BitVec.ofNat 32 entry.currLength.toNat =
              BitVec.ofNat 32 lengths.sum ↔
            lengths.sum = entry.currLength.toNat := by
        rw [← BitVec.toNat_inj, BitVec.toNat_ofNat, BitVec.toNat_ofNat]
        omega
      rw [if_pos isShort, atShort, BitVec.add_right_inj, sameIff]
      simp only [nothingInFlight, isShort, true_and, ne_eq, not_not]
    · rw [if_neg isShort]
      simp only [nothingInFlight, isShort, Bool.false_eq_true, false_and,
        and_false, not_false_eq_true, iff_true]
      rfl
  · have flag : entry.txEngRead.ackdEqNotAckd = false :=
      decide_eq_false nothingInFlight
    rw [pointerAfter, flag, Bool.and_false, if_neg Bool.false_ne_true]
    simp only [nothingInFlight, false_and, not_false_eq_true, iff_true]
    rfl

theorem TxOutputs.marks_iff
    {id : TcpSessionID} {header : TxEngFsmMetaData}
    {entry : TxSarTableEntry} {lengths : List Nat} {short : Bool}
    {retransCnt : BitVec 3} {fin msgs : List TxEngMsg}
    (outputs : TxOutputs id header entry.txEngRead lengths short fin msgs)
    (noFin : header.fin = false)
    (plan :
      TxPlan entry.minWindow.toNat entry.currLength.toNat
        entry.usedLength.toNat entry.usableWindow.toNat lengths short)
    (follows :
      FinFollows id retransCnt entry.txEngRead lengths short fin) :
    MarksSent entry.notAckd msgs ↔
      pointerAfter entry.txEngRead lengths short =
        entry.notAckd + BitVec.ofNat 32 lengths.sum := by
  have sumBound := plan.sum_le_curr
  have currBound := entry.currLength.isLt
  have moves := follows.movesPointer plan
  have atMostOne := moves.atMostOne
  have listTotal :
      totalSeqLength (segmentList header entry.notAckd lengths) =
        lengths.sum := by
    rw [totalSeqLength_segmentList _ noFin,
      payloadBytes_segmentList _ fun _ => plan.length_le_mss]
  have total :
      totalSeqLength (segments msgs) =
        lengths.sum + totalSeqLength (segments fin) := by
    rw [outputs.sent, totalSeqLength_append]
    exact congrArg (· + _) listTotal
  constructor
  · intro marks
    have written := marks.pointer
    rw [outputs.written, moves.final, total, BitVec.ofNat_add,
      ← BitVec.add_assoc] at written
    exact (BitVec.add_left_inj _).1 (Option.some.inj written)
  · intro behind
    refine ⟨?_, ?_, ?_⟩
    · rw [outputs.sent, contiguous_append]
      refine ⟨contiguous_segmentList entry.notAckd noFin
        fun _ => plan.length_le_mss, ?_⟩
      have moved := moves.contiguous
      rw [behind] at moved
      change Contiguous
        (entry.notAckd +
          BitVec.ofNat 32
            (totalSeqLength (segmentList header entry.notAckd lengths)))
        (segments fin)
      rw [listTotal]
      exact moved
    · rw [total]
      omega
    · rw [outputs.written, moves.final, total, behind, BitVec.ofNat_add,
        ← BitVec.add_assoc]

/-- A `TX` event marks as sent exactly what it sends, unless nothing is in
flight and the length it has to send is cut to 16 bits. -/
theorem marksSent_iff
    (regs : TxEngState) (event : EventWithTuple)
    (rxRsp : RxSarLookupRsp) (entry : TxSarTableEntry)
    (typeTx : event.type = .tx) :
    (∃ msgs final,
        HandlesEvent regs event rxRsp entry.txEngRead msgs final ∧
        MarksSent entry.notAckd msgs) ↔
      ¬ (entry.ackd = entry.notAckd ∧
        LosesLength entry.currLength.toNat entry.minWindow.toNat) := by
  obtain ⟨header, lengths, short, fin, msgs, final, handles, plan,
      follows, outputs, _, noFin⟩ :=
    handlesEvent_tx regs event rxRsp entry.txEngRead typeTx
  have marksIff := outputs.marks_iff noFin plan follows
  have pointerIff := pointerAfter_eq_iff plan
  rw [← pointerIff, ← marksIff]
  constructor
  · rintro ⟨otherMsgs, otherFinal, otherHandles, marks⟩
    rw [HandlesEvent.unique otherHandles handles] at marks
    exact marks
  · intro marks
    exact ⟨msgs, final, handles, marks⟩

/-- A session with nothing in flight, 100000 bytes to send and a window of
200000 bytes. -/
def longWriteEntry : TxSarTableEntry where
  ackd := 0x1000
  notAckd := 0x1000
  recvWindow := 0xFFFF
  appWritten := 104096
  congWindow := 200000
  slowstartThreshold := 0x3FFFF
  winShift := 2
  retransCount := 0
  fastRetrans := false
  finIsReady := false
  finIsSent := false

theorem marksSent_of_short_write :
    (txEventOf 0).type = .tx ∧
      ((∃ msgs final,
          HandlesEvent TxEngState.start (txEventOf 0) ⟨0, 0, 0⟩
              { longWriteEntry with appWritten := 0x5000 }.txEngRead msgs
              final ∧
            MarksSent 0x1000 msgs) ↔
        ¬ ((0x1000 : BitVec 32) = 0x1000 ∧
          LosesLength 0x4000 200000)) :=
  ⟨rfl,
    marksSent_iff TxEngState.start (txEventOf 0) ⟨0, 0, 0⟩
      { longWriteEntry with appWritten := 0x5000 } rfl⟩

/-- 34464 bytes are sent and the pointer moves by 100000. -/
theorem not_marksSent_long_write :
    ¬ ∃ msgs final,
      HandlesEvent TxEngState.start (txEventOf 0) ⟨0, 0, 0⟩
        longWriteEntry.txEngRead msgs final ∧
      MarksSent 0x1000 msgs := by
  rintro ⟨msgs, final, handles, marks⟩
  obtain ⟨header, lengths, short, fin, otherMsgs, otherFinal, otherHandles,
      plan, follows, outputs, _, noFin⟩ :=
    handlesEvent_tx TxEngState.start (txEventOf 0) ⟨0, 0, 0⟩
      longWriteEntry.txEngRead rfl
  rw [HandlesEvent.unique handles otherHandles] at marks
  have behind := (outputs.marks_iff noFin plan follows).1 marks
  exact (pointerAfter_eq_iff plan).1 behind (by decide)

end TcpOffload
