import TcpOffload.RxEngine.Exits

/-!
# What the messages for a segment depend on

`RxEngTcpFsm` keeps its working values in registers from one segment to the
next.  Two histories of segments are compared by what is written for the
segment behind them.
-/

namespace TcpOffload

open Clocked

/-- The machine handles the segments one by one. -/
inductive HandlesHistory :
    RxEngState → List RxArrival → RxEngState → Prop
  | nil (regs : RxEngState) : HandlesHistory regs [] regs
  | cons {regs next final : RxEngState} {arrival : RxArrival}
      {msgs : List RxEngMsg} {rest : List RxArrival} :
      HandlesSegment regs arrival msgs next →
      HandlesHistory next rest final →
      HandlesHistory regs (arrival :: rest) final

/-- What a history has of one session. -/
def ofSession (id : TcpSessionID) (history : List RxArrival) :
    List RxArrival :=
  history.filter fun arrival => arrival.segment.sessionId == id

/-- The segment and the answers for it determine what is written. -/
def DeterminedBySegment (arrival : RxArrival) : Prop :=
  ∀ first second regs other msgs otherMsgs final otherFinal,
    HandlesHistory RxEngState.start first regs →
    HandlesHistory RxEngState.start second other →
    HandlesSegment regs arrival msgs final →
    HandlesSegment other arrival otherMsgs otherFinal →
    msgs = otherMsgs

/-- The segments of other sessions make no difference to what is written. -/
def NotInterferedWith (arrival : RxArrival) : Prop :=
  ∀ first second regs other msgs otherMsgs final otherFinal,
    ofSession arrival.segment.sessionId first =
      ofSession arrival.segment.sessionId second →
    HandlesHistory RxEngState.start first regs →
    HandlesHistory RxEngState.start second other →
    HandlesSegment regs arrival msgs final →
    HandlesSegment other arrival otherMsgs otherFinal →
    msgs = otherMsgs

theorem DeterminedBySegment.notInterferedWith
    {arrival : RxArrival} (determined : DeterminedBySegment arrival) :
    NotInterferedWith arrival :=
  fun first second regs other msgs otherMsgs final otherFinal _ =>
    determined first second regs other msgs otherMsgs final otherFinal

namespace RxArrival

/-- A SYN that opens a connection: `tx_sar_reg` was not loaded for it. -/
def opensBySyn (arrival : RxArrival) : Bool :=
  arrival.segment.header.ctrlBits == 2 &&
    (arrival.sessionState == .closed || arrival.sessionState == .synSent)

/-- A FIN+ACK that is taken: the local `tx_win_scale` was not assigned. -/
def takesFin (arrival : RxArrival) : Bool :=
  arrival.segment.header.ctrlBits == 5 &&
    (arrival.sessionState.takesFin &&
      arrival.rxSar.recvd == arrival.segment.header.seqNumber)

/-- A reset without the ACK flag of a connection that is being opened:
`tx_sar_reg` was not loaded for it. -/
def resetsOpening (arrival : RxArrival) : Bool :=
  arrival.segment.header.rst && !arrival.segment.header.ack &&
    arrival.sessionState == .synSent

/-- The segments handled with a value that none of the answers brought. -/
def readsEarlier (arrival : RxArrival) : Bool :=
  arrival.opensBySyn || arrival.takesFin || arrival.resetsOpening

end RxArrival

/-! ## The registers a segment is handled with -/

/-- With the ACK flag only `tx_win_scale` is left of what was before. -/
theorem RxEngState.answered_of_ack
    (regs other : RxEngState) {arrival : RxArrival}
    (withAck : arrival.segment.header.ack = true) :
    other.answered arrival =
      { regs.answered arrival with txWinScale := other.txWinScale } := by
  simp only [answered, withAck, if_true]

/-- Without it `tx_sar_reg` is left as well. -/
theorem RxEngState.answered_eq
    (regs other : RxEngState) (arrival : RxArrival) :
    other.answered arrival =
      { regs.answered arrival with
        txSarReg := (other.answered arrival).txSarReg
        txWinScale := other.txWinScale } :=
  rfl

section Unread

variable (state : RxEngState) (txSarReg : TxSarToRxEngRsp)
variable (txWinScale : BitVec 4)

theorem rxEngAck_txWinScale :
    (rxEngAck { state with txWinScale := txWinScale }).2 =
      (rxEngAck state).2 := by
  rw [rxEngAck, rxEngAck]
  by_cases takes : state.sessionStateReg.takesAck = true
  · simp only [takes, if_true]
  · simp only [takes, if_false, Bool.false_eq_true]

theorem rxEngSyn_txWinScale :
    (rxEngSyn { state with txWinScale := txWinScale }).2 =
      (rxEngSyn state).2 := by
  rw [rxEngSyn, rxEngSyn]
  cases state.sessionStateReg with
  | closed | synSent | established | finWait1 | finWait2 | closing
  | timeWait | lastAck =>
      rfl
  | synReceived =>
      simp only []
      split <;> rfl

theorem rxEngSynAck_txWinScale :
    (rxEngSynAck { state with txWinScale := txWinScale }).2 =
      (rxEngSynAck state).2 := by
  rw [rxEngSynAck, rxEngSynAck]
  cases state.sessionStateReg with
  | synSent =>
      simp only []
      split <;> rfl
  | closed | synReceived | established | finWait1 | finWait2 | closing
  | timeWait | lastAck =>
      rfl

theorem rxEngFinAck_txWinScale (refuses : state.takesFin = false) :
    (rxEngFinAck { state with txWinScale := txWinScale }).2 =
      (rxEngFinAck state).2 := by
  rw [RxEngState.takesFin] at refuses
  rw [rxEngFinAck, rxEngFinAck]
  simp only [refuses, if_false, Bool.false_eq_true]

/-- All that `tx_win_scale` is read for is a FIN that is taken. -/
theorem rxEngHandle_txWinScale
    (noFin : state.rxEngCtrlBits = 5 → state.takesFin = false) :
    (rxEngHandle { state with txWinScale := txWinScale }).2 =
      (rxEngHandle state).2 := by
  rw [rxEngHandle, rxEngHandle]
  simp only []
  by_cases isAck : state.rxEngCtrlBits = 1
  · rw [if_pos isAck, if_pos isAck, rxEngAck_txWinScale]
  rw [if_neg isAck, if_neg isAck]
  by_cases isSyn : state.rxEngCtrlBits = 2
  · rw [if_pos isSyn, if_pos isSyn, rxEngSyn_txWinScale]
  rw [if_neg isSyn, if_neg isSyn]
  by_cases isSynAck : state.rxEngCtrlBits = 3
  · rw [if_pos isSynAck, if_pos isSynAck, rxEngSynAck_txWinScale]
  rw [if_neg isSynAck, if_neg isSynAck]
  by_cases isFin : state.rxEngCtrlBits = 5
  · rw [if_pos isFin, if_pos isFin,
      rxEngFinAck_txWinScale state txWinScale (noFin isFin)]
  · rw [if_neg isFin, if_neg isFin]
    rfl

theorem rxEngSyn_txSarReg
    (notClosed : state.sessionStateReg ≠ .closed)
    (notSent : state.sessionStateReg ≠ .synSent) :
    (rxEngSyn { state with txSarReg := txSarReg }).2 =
      (rxEngSyn state).2 := by
  rw [rxEngSyn, rxEngSyn]
  cases sessionState : state.sessionStateReg with
  | closed =>
      exact absurd sessionState notClosed
  | synSent =>
      exact absurd sessionState notSent
  | synReceived =>
      simp only []
      split <;> rfl
  | established | finWait1 | finWait2 | closing | timeWait | lastAck =>
      rfl

theorem rxEngDefault_txSarReg
    (noReset :
      state.tcpRxMetaReg.header.rst = true →
        state.sessionStateReg ≠ .synSent) :
    (rxEngDefault { state with txSarReg := txSarReg }).2 =
      (rxEngDefault state).2 := by
  rw [rxEngDefault, rxEngDefault]
  by_cases isRst : state.tcpRxMetaReg.header.rst = true
  · simp only [isRst, if_true, noReset isRst, if_false]
  · simp only [isRst, if_false, Bool.false_eq_true]

/-- Without the ACK flag `tx_sar_reg` is read for a SYN that opens a
connection and for the reset of one that is being opened. -/
theorem rxEngHandle_txSarReg
    (noAck : state.rxEngCtrlBits.getLsbD 0 = false)
    (noSyn :
      state.rxEngCtrlBits = 2 →
        state.sessionStateReg ≠ .closed ∧
          state.sessionStateReg ≠ .synSent)
    (noReset :
      state.tcpRxMetaReg.header.rst = true →
        state.sessionStateReg ≠ .synSent) :
    (rxEngHandle { state with txSarReg := txSarReg }).2 =
      (rxEngHandle state).2 := by
  have notFlags (bits : BitVec 4) (withAck : bits.getLsbD 0 = true) :
      state.rxEngCtrlBits ≠ bits := by
    intro isBits
    rw [isBits, withAck] at noAck
    cases noAck
  have notAck := notFlags 1 rfl
  have notSynAck := notFlags 3 rfl
  have notFin := notFlags 5 rfl
  rw [rxEngHandle, rxEngHandle]
  simp only []
  rw [if_neg notAck, if_neg notAck]
  by_cases isSyn : state.rxEngCtrlBits = 2
  · obtain ⟨notClosed, notSent⟩ := noSyn isSyn
    rw [if_pos isSyn, if_pos isSyn,
      rxEngSyn_txSarReg state txSarReg notClosed notSent]
  · rw [if_neg isSyn, if_neg isSyn, if_neg notSynAck, if_neg notSynAck,
      if_neg notFin, if_neg notFin,
      rxEngDefault_txSarReg state txSarReg noReset]

end Unread

/-! ## Segments that need nothing from before -/

namespace RxArrival

variable {arrival : RxArrival}

theorem sameMsgs
    (fresh : arrival.readsEarlier = false) (regs other : RxEngState) :
    (rxEngHandle (other.answered arrival)).2 =
      (rxEngHandle (regs.answered arrival)).2 := by
  simp only [readsEarlier, Bool.or_eq_false_iff] at fresh
  obtain ⟨⟨noSyn, noFin⟩, noReset⟩ := fresh
  have finRefused :
      ∀ own : RxEngState,
        own.rxEngCtrlBits = arrival.segment.header.ctrlBits →
        own.tcpRxMetaReg = arrival.segment →
        own.sessionStateReg = arrival.sessionState →
        own.rxSarReg = arrival.rxSar →
        own.rxEngCtrlBits = 5 → own.takesFin = false := by
    intro own flags segment sessionState rxSar isFin
    rw [takesFin, ← flags, isFin] at noFin
    rw [RxEngState.takesFin, segment, sessionState, rxSar]
    exact noFin
  by_cases withAck : arrival.segment.header.ack = true
  · rw [RxEngState.answered_of_ack regs other withAck]
    exact rxEngHandle_txWinScale _ _ (finRefused _ rfl rfl rfl rfl)
  · rw [RxEngState.answered_eq regs other arrival]
    have noAck : arrival.segment.header.ctrlBits.getLsbD 0 = false := by
      rw [TcpHeaderMeta.ctrlBits_ack]
      exact Bool.eq_false_iff.2 withAck
    have scaleUnread :=
      rxEngHandle_txWinScale
        { regs.answered arrival with
          txSarReg := (other.answered arrival).txSarReg }
        other.txWinScale (finRefused _ rfl rfl rfl rfl)
    refine scaleUnread.trans (rxEngHandle_txSarReg _ _ noAck ?_ ?_)
    · intro isSyn
      change arrival.segment.header.ctrlBits = 2 at isSyn
      change
        arrival.sessionState ≠ .closed ∧ arrival.sessionState ≠ .synSent
      rw [opensBySyn, isSyn] at noSyn
      simpa using noSyn
    · intro isRst
      change arrival.segment.header.rst = true at isRst
      change arrival.sessionState ≠ .synSent
      rw [resetsOpening, isRst, Bool.eq_false_iff.2 withAck] at noReset
      simpa using noReset

theorem determinedBySegment (fresh : arrival.readsEarlier = false) :
    DeterminedBySegment arrival := by
  intro first second regs other msgs otherMsgs final otherFinal
    _ _ handles otherHandles
  rw [(handles.unique (handlesSegment regs arrival)).1,
    (otherHandles.unique (handlesSegment other arrival)).1,
    sameMsgs fresh regs other]

end RxArrival

/-! ## Segments that another session interferes with -/

/-- An ACK of another session, which is closed: its answer stays in
`tx_sar_reg`. -/
def strayAck (id : TcpSessionID) (txSar : TxSarToRxEngRsp) : RxArrival where
  segment := ⟨id + 1, 0, 0, ⟨0, 0, 0, true, false, false, false, 0, 0⟩⟩
  sessionState := .closed
  rxSar := ⟨0, 0, 0⟩
  txSar := txSar

/-- A SYN of another session with a window scale: it stays in
`tx_win_scale`. -/
def straySyn (id : TcpSessionID) : RxArrival where
  segment := ⟨id + 1, 0, 0, ⟨0, 0, 0, false, false, true, false, 1, 0⟩⟩
  sessionState := .closed
  rxSar := ⟨0, 0, 0⟩
  txSar := ⟨0, 0, 0, 0, 0, false, 0⟩

theorem handlesHistory_single (arrival : RxArrival) :
    HandlesHistory RxEngState.start [arrival]
      (rxEngHandle (RxEngState.start.answered arrival)).1 :=
  HandlesHistory.cons (handlesSegment _ arrival) (HandlesHistory.nil _)

theorem ofSession_other
    {id : TcpSessionID} {arrival : RxArrival}
    (isOther : arrival.segment.sessionId = id + 1) :
    ofSession id [] = ofSession id [arrival] := by
  have different : (arrival.segment.sessionId == id) = false := by
    rw [isOther]
    exact beq_eq_false_iff_ne.2 (by bv_omega)
  simp [ofSession, different]

theorem afterStrayAck (id : TcpSessionID) (txSar : TxSarToRxEngRsp) :
    (rxEngHandle
        (RxEngState.start.answered (strayAck id txSar))).1.txSarReg =
      txSar := by
  have isAck :
      (RxEngState.start.answered (strayAck id txSar)).rxEngCtrlBits =
        1 := by
    change
      TcpHeaderMeta.ctrlBits ⟨0, 0, 0, true, false, false, false, 0, 0⟩ = 1
    decide
  rw [rxEngHandle, if_pos isAck]
  rfl

theorem afterStraySyn (id : TcpSessionID) :
    (rxEngHandle
        (RxEngState.start.answered (straySyn id))).1.txWinScale = 1 := by
  have isSyn :
      (RxEngState.start.answered (straySyn id)).rxEngCtrlBits = 2 := by
    change
      TcpHeaderMeta.ctrlBits ⟨0, 0, 0, false, false, true, false, 1, 0⟩ = 2
    decide
  rw [rxEngHandle, isSyn, if_neg (by decide), if_pos rfl]
  rfl

/-- All a SYN writes that opens a connection. -/
theorem rxEngHandle_opens
    {state : RxEngState} (isSyn : state.rxEngCtrlBits = 2)
    (opening :
      state.sessionStateReg = .closed ∨ state.sessionStateReg = .synSent) :
    (rxEngHandle state).2 =
      [.rxSarReq
          (RxEngToRxSarReq.initialise state.tcpRxMetaReg.sessionId
            (state.tcpRxMetaReg.header.seqNumber + 1)
            state.tcpRxMetaReg.header.rxWinScale),
        .txSarReq
          (RxEngToTxSarReq.updateWithShift state.tcpRxMetaReg.sessionId 0
            state.tcpRxMetaReg.header.winSize state.txSarReg.congWindow 0
            false true state.tcpRxMetaReg.header.rxWinScale),
        state.tcpRxMetaReg.updateState .synReceived,
        .setEvent
          (Event.plain .synAck state.tcpRxMetaReg.sessionId)] := by
  rw [rxEngHandle, isSyn, if_neg (by decide), if_pos rfl, rxEngSyn]
  rcases opening with closed | synSent
  · rw [closed]
  · rw [synSent]

/-- The second message for a FIN that is taken carries `tx_win_scale`. -/
theorem rxEngHandle_takesFin
    {state : RxEngState} (isFin : state.rxEngCtrlBits = 5)
    (takes : state.takesFin = true) :
    (rxEngHandle state).2[1]? =
      some
        (.txSarReq
          (RxEngToTxSarReq.update state.tcpRxMetaReg.sessionId
            state.tcpRxMetaReg.header.ackNumber
            state.tcpRxMetaReg.header.winSize state.txSarReg.congWindow
            state.txSarReg.retransCount state.txSarReg.fastRetrans
            (state.txWinScale.setWidth 2))) := by
  rw [RxEngState.takesFin] at takes
  rw [rxEngHandle, isFin, if_neg (by decide), if_neg (by decide),
    if_neg (by decide), if_pos rfl, rxEngFinAck, if_pos takes]
  rfl

theorem TcpHeaderMeta.ctrlBits_syn (header : TcpHeaderMeta) :
    header.ctrlBits.getLsbD 1 = header.syn := by
  have flags :
      ∀ rst fin syn ack : Bool,
        (BitVec.ofBool rst ++ BitVec.ofBool fin ++ BitVec.ofBool syn ++
            BitVec.ofBool ack).getLsbD 1 =
          syn := by
    decide
  exact flags header.rst header.fin header.syn header.ack

theorem TcpHeaderMeta.ctrlBits_rst (header : TcpHeaderMeta) :
    header.ctrlBits.getLsbD 3 = header.rst := by
  have flags :
      ∀ rst fin syn ack : Bool,
        (BitVec.ofBool rst ++ BitVec.ofBool fin ++ BitVec.ofBool syn ++
            BitVec.ofBool ack).getLsbD 3 =
          rst := by
    decide
  exact flags header.rst header.fin header.syn header.ack

/-- The reset of a connection that is being opened is about the register
`next_byte`. -/
theorem rxEngHandle_resetsOpening
    {state : RxEngState} (noAck : state.rxEngCtrlBits.getLsbD 0 = false)
    (notSyn : state.rxEngCtrlBits ≠ 2)
    (isRst : state.tcpRxMetaReg.header.rst = true)
    (opening : state.sessionStateReg = .synSent) :
    (rxEngHandle state).2.length =
      if
          state.tcpRxMetaReg.header.ackNumber =
            state.txSarReg.nextByte then
        3
      else
        1 := by
  have notFlags (bits : BitVec 4) (withAck : bits.getLsbD 0 = true) :
      state.rxEngCtrlBits ≠ bits := by
    intro isBits
    rw [isBits, withAck] at noAck
    cases noAck
  rw [rxEngHandle, if_neg (notFlags 1 rfl), if_neg notSyn,
    if_neg (notFlags 3 rfl), if_neg (notFlags 5 rfl), rxEngDefault]
  simp only [isRst, opening, if_true]
  split <;> rfl

namespace NotInterferedWith

variable {arrival : RxArrival}

/-- What is written behind one segment of another session is what is written
at the start. -/
theorem afterOne
    (notInterfered : NotInterferedWith arrival) (other : RxArrival)
    (isOther :
      other.segment.sessionId = arrival.segment.sessionId + 1) :
    (rxEngHandle (RxEngState.start.answered arrival)).2 =
      (rxEngHandle
        ((rxEngHandle (RxEngState.start.answered other)).1.answered
          arrival)).2 := by
  have sameWrites :=
    notInterfered [] [other] _ _ _ _ _ _ (ofSession_other isOther)
      (HandlesHistory.nil _) (handlesHistory_single other)
      (handlesSegment _ arrival) (handlesSegment _ arrival)
  exact List.append_cancel_left sameWrites

/-- Any `tx_sar_reg` of another session gives the same. -/
theorem afterTxSar
    (notInterfered : NotInterferedWith arrival)
    (txSar : TxSarToRxEngRsp) :
    ∃ regs : RxEngState,
      regs.txSarReg = txSar ∧
        (rxEngHandle (RxEngState.start.answered arrival)).2 =
          (rxEngHandle (regs.answered arrival)).2 :=
  ⟨_, afterStrayAck arrival.segment.sessionId txSar,
    notInterfered.afterOne (strayAck _ txSar) rfl⟩

theorem not_opensBySyn (notInterfered : NotInterferedWith arrival) :
    arrival.opensBySyn = false := by
  by_contra opens
  rw [Bool.not_eq_false, RxArrival.opensBySyn, Bool.and_eq_true,
    Bool.or_eq_true] at opens
  obtain ⟨isSyn, opening⟩ := opens
  have isSyn := eq_of_beq isSyn
  have opening := opening.imp eq_of_beq eq_of_beq
  have noAck : ¬ arrival.segment.header.ack = true := by
    rw [← TcpHeaderMeta.ctrlBits_ack, isSyn]
    decide
  obtain ⟨regs, txSar, sameMsgs⟩ :=
    notInterfered.afterTxSar ⟨0, 0, 1, 0, 0, false, 0⟩
  rw [rxEngHandle_opens isSyn opening, rxEngHandle_opens isSyn opening]
    at sameMsgs
  simp only [List.cons.injEq, RxEngMsg.txSarReq.injEq] at sameMsgs
  have sameCongWindow :=
    congrArg RxEngToTxSarReq.congWindow sameMsgs.2.1
  change
    (RxEngState.start.answered arrival).txSarReg.congWindow =
      (regs.answered arrival).txSarReg.congWindow at sameCongWindow
  simp only [RxEngState.answered, noAck] at sameCongWindow
  rw [txSar] at sameCongWindow
  cases sameCongWindow

/-- The shift that a FIN that is taken hands to the table is
`tx_win_scale`. -/
theorem not_takesFin (notInterfered : NotInterferedWith arrival) :
    arrival.takesFin = false := by
  by_contra takes
  rw [Bool.not_eq_false, RxArrival.takesFin, Bool.and_eq_true] at takes
  obtain ⟨isFin, takes⟩ := takes
  have isFin := eq_of_beq isFin
  have finMsg (regs : RxEngState) :=
    @rxEngHandle_takesFin (regs.answered arrival) isFin takes
  have sameMsg :=
    congrArg (fun msgs : List RxEngMsg => msgs[1]?)
      (notInterfered.afterOne (straySyn _) rfl)
  simp only [finMsg, Option.some.injEq, RxEngMsg.txSarReq.injEq]
    at sameMsg
  have sameShift := congrArg RxEngToTxSarReq.winShift sameMsg
  change
    RxEngState.start.txWinScale.setWidth 2 =
      (rxEngHandle
        (RxEngState.start.answered
          (straySyn arrival.segment.sessionId))).1.txWinScale.setWidth 2
      at sameShift
  rw [afterStraySyn] at sameShift
  cases sameShift

theorem not_resetsOpening (notInterfered : NotInterferedWith arrival) :
    arrival.resetsOpening = false := by
  by_contra resets
  rw [Bool.not_eq_false, RxArrival.resetsOpening, Bool.and_eq_true,
    Bool.and_eq_true] at resets
  obtain ⟨⟨isRst, noAck⟩, opening⟩ := resets
  rw [Bool.not_eq_true'] at noAck
  have noAckBit : arrival.segment.header.ctrlBits.getLsbD 0 = false := by
    rw [TcpHeaderMeta.ctrlBits_ack, noAck]
  have notSyn : arrival.segment.header.ctrlBits ≠ 2 := by
    intro isSyn
    have rstBit := arrival.segment.header.ctrlBits_rst
    rw [isSyn, isRst] at rstBit
    cases rstBit
  have count (regs : RxEngState) :=
    @rxEngHandle_resetsOpening (regs.answered arrival) noAckBit notSyn
      isRst (eq_of_beq opening)
  have reads (regs : RxEngState) :
      (regs.answered arrival).txSarReg = regs.txSarReg :=
    if_neg (Bool.eq_false_iff.1 noAck)
  obtain ⟨matching, matchingReg, likeStart⟩ :=
    notInterfered.afterTxSar
      ⟨0, arrival.segment.header.ackNumber, 0, 0, 0, false, 0⟩
  obtain ⟨differing, differingReg, alsoLikeStart⟩ :=
    notInterfered.afterTxSar
      ⟨0, arrival.segment.header.ackNumber + 1, 0, 0, 0, false, 0⟩
  have sameCount :=
    congrArg List.length (likeStart.symm.trans alsoLikeStart)
  rw [count, count, reads, reads, matchingReg, differingReg] at sameCount
  change
    (if
          arrival.segment.header.ackNumber =
            arrival.segment.header.ackNumber then
        3
      else
        1) =
      if
          arrival.segment.header.ackNumber =
            arrival.segment.header.ackNumber + 1 then
        3
      else
        1 at sameCount
  rw [if_pos rfl, if_neg (by bv_omega)] at sameCount
  cases sameCount

end NotInterferedWith

/-! ## The segments that are handled on their own -/

/-- What is written for a segment is determined by it and its answers, and
is the same behind any segments of other sessions, exactly if the segment is
none of the three that read an earlier value. -/
theorem notInterferedWith_iff (arrival : RxArrival) :
    (DeterminedBySegment arrival ↔ arrival.readsEarlier = false) ∧
      (NotInterferedWith arrival ↔ arrival.readsEarlier = false) := by
  have onlyFresh (notInterfered : NotInterferedWith arrival) :
      arrival.readsEarlier = false := by
    rw [RxArrival.readsEarlier, notInterfered.not_opensBySyn,
      notInterfered.not_takesFin, notInterfered.not_resetsOpening]
    rfl
  constructor
  · exact
      ⟨fun determined => onlyFresh determined.notInterferedWith,
        RxArrival.determinedBySegment⟩
  · exact
      ⟨onlyFresh,
        fun fresh =>
          (RxArrival.determinedBySegment fresh).notInterferedWith⟩

/-- A SYN to a closed session behind an ACK of another one. -/
def synAfterStranger : RxArrival where
  segment := ⟨0, 0, 0, ⟨0, 0, 0, false, false, true, false, 0, 0⟩⟩
  sessionState := .closed
  rxSar := ⟨0, 0, 0⟩
  txSar := ⟨0, 0, 0, 0, 0, false, 0⟩

theorem not_notInterferedWith_synAfterStranger :
    ¬ NotInterferedWith synAfterStranger := by
  intro notInterfered
  have fresh := notInterfered.not_opensBySyn
  revert fresh
  decide

end TcpOffload
