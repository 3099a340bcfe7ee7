import TcpOffload.MemoryAccess.SessionRing
import TcpOffload.TxEngine.Retransmit
import TcpOffload.TxEngine.Window

/-!
# Which bytes an event reads from the TX ring

The read commands of an event against the segments that carry payload.
-/

namespace TcpOffload

open Clocked

/-! ## Retransmission events -/

/-- The outputs of the case of a retransmission, between `LOAD` and `LOAD`. -/
structure HandlesRetransmission
    (regs : TxEngState) (event : EventWithTuple)
    (rxRsp : RxSarLookupRsp) (txRsp : TxSarToTxEngRsp)
    (ackd addrAckd : BitVec 32) (unacked : Nat)
    (fin msgs : List TxEngMsg) : Prop where
  handles : ∃ final, HandlesEvent regs event rxRsp txRsp msgs final
  follows : MaybeFin txRsp.notAckd txRsp.appWritten fin
  outputs :
    ∃ header : TxEngFsmMetaData,
      header.syn = false ∧
        RtOutputs event.sessionId header ackd addrAckd
          (rtLengths 4 unacked) fin msgs

theorem RtOutputs.behindLookups
    {id : TcpSessionID} {header : TxEngFsmMetaData}
    {ackd addrAckd : BitVec 32} {lengths : List Nat}
    {fin msgs lookups : List TxEngMsg}
    (outputs : RtOutputs id header ackd addrAckd lengths fin msgs)
    (noSegments : segments lookups = [])
    (noCmds : memReadCmds lookups = [])
    (noWrites : sarWrites lookups = []) :
    RtOutputs id header ackd addrAckd lengths fin (lookups ++ msgs) := by
  obtain ⟨thresholds, written, onlyThresholds⟩ := outputs.written
  refine ⟨?_, ?_, thresholds, ?_, onlyThresholds⟩
  · rw [segments_append, noSegments, outputs.sent, List.nil_append]
  · rw [memReadCmds_append, noCmds, outputs.read, List.nil_append]
  · rw [sarWrites_append, noWrites, written, List.nil_append]

/-- The registers with which an `RT` event is handled. -/
def TxEngState.rtStart
    (regs : TxEngState) (event : EventWithTuple)
    (rxRsp : RxSarLookupRsp) (txRsp : TxSarToTxEngRsp) : TxEngState :=
  { regs.loaded event rxRsp txRsp with
    rxSarRspReg := rxRsp
    rxSarRsps := []
    txSarRsps := [] }

theorem txEngTcpFsm_rt
    (regs : TxEngState) (event : EventWithTuple)
    (rxRsp : RxSarLookupRsp) (txRsp : TxSarToTxEngRsp)
    (typeRt : event.type = .rt) :
    let start := regs.rtStart event rxRsp txRsp
    txEngTcpFsm (regs.loaded event rxRsp txRsp) =
      ({ (rtSend start txRsp txRsp.ackd).1 with txRxSarLoaded := true },
        (rtSend start txRsp txRsp.ackd).2) := by
  have looksUpRx : event.looksUpRxSar = true := by
    rw [Event.looksUpRxSar, typeRt]
    rfl
  have looksUpTx : event.looksUpTxSar = true := by
    rw [Event.looksUpTxSar, typeRt]
    rfl
  simp only [txEngTcpFsm, TxEngState.rtStart, TxEngState.loaded, typeRt,
    txEngRt, TxEngState.feed, looksUpRx, looksUpTx, if_true]

/-- An `RT` event retransmits from the looked-up `ackd` on. -/
theorem handlesEvent_rt
    (regs : TxEngState) (event : EventWithTuple)
    (rxRsp : RxSarLookupRsp) (txRsp : TxSarToTxEngRsp)
    (typeRt : event.type = .rt) :
    ∃ fin msgs,
      HandlesRetransmission regs event rxRsp txRsp txRsp.ackd txRsp.ackd
        txRsp.usedLengthRst.toNat fin msgs := by
  let start := regs.rtStart event rxRsp txRsp
  have call := txEngTcpFsm_rt regs event rxRsp txRsp typeRt
  obtain ⟨fin, later, final, follows, run, inLoad, noEvents, outputs⟩ :=
    rtSend_runs 3 start txRsp txRsp.ackd rfl
  obtain ⟨lookups, idle, handles, noSegments, noCmds, noWrites⟩ :=
    handlesEvent_of_loaded (Runs.head call run) ⟨inLoad, noEvents⟩
  exact
    ⟨fin, _, ⟨idle, handles⟩, follows, rtHeader start, rfl,
      outputs.behindLookups noSegments noCmds noWrites⟩

/-! ## Events without payload -/

/-- Nothing is read from the ring and no segment carries payload. -/
structure Quiet (msgs : List TxEngMsg) : Prop where
  noReads : memReadCmds msgs = []
  noPayload :
    (segments msgs).filter TxEngFsmMetaData.carriesPayload = []

theorem quiet_finSend (state : TxEngState) (rsp : TxSarToTxEngRsp) :
    Quiet (finSend state rsp).2 := by
  refine ⟨memReadCmds_finSend state rsp, ?_⟩
  rw [segments_finSend]
  split <;> rfl

theorem MaybeFin.quiet
    {notAckd : BitVec 32} {appWritten : TcpSessionBuffer}
    {fin : List TxEngMsg} (follows : MaybeFin notAckd appWritten fin) :
    Quiet fin := by
  cases follows with
  | none =>
      exact ⟨rfl, rfl⟩
  | fin state _ _ =>
      exact quiet_finSend state _

theorem FinFollows.quiet
    {id : TcpSessionID} {retransCnt : BitVec 3} {rsp : TxSarToTxEngRsp}
    {lengths : List Nat} {short : Bool} {fin : List TxEngMsg}
    (follows : FinFollows id retransCnt rsp lengths short fin) :
    Quiet fin := by
  cases follows with
  | none =>
      exact ⟨rfl, rfl⟩
  | fin _ _ _ _ =>
      exact quiet_finSend _ _

theorem filter_carriesPayload_syn
    {segment : TxEngFsmMetaData} (isSyn : segment.syn = true) :
    [segment].filter TxEngFsmMetaData.carriesPayload = [] := by
  rw [List.filter_cons_of_neg, List.filter_nil]
  rw [TxEngFsmMetaData.carriesPayload, isSyn, Bool.not_true,
    Bool.and_false]
  exact Bool.false_ne_true

/-- The event types whose case sends payload. -/
def EventType.sendsPayload : EventType → Bool
  | .tx | .rt | .rtCont => true
  | .ack | .syn | .synAck | .fin | .rst | .ackNodelay => false

/-- The call of a `FIN` event. -/
theorem txEngTcpFsm_fin
    (regs : TxEngState) (event : EventWithTuple)
    (rxRsp : RxSarLookupRsp) (txRsp : TxSarToTxEngRsp)
    (typeFin : event.type = .fin) :
    txEngTcpFsm (regs.loaded event rxRsp txRsp) =
      finSend
        { regs.loaded event rxRsp txRsp with
          rxSarRspReg := rxRsp
          rxSarRsps := []
          txSarRsps := [] }
        txRsp := by
  have rx : event.looksUpRxSar = true := by
    simp only [Event.looksUpRxSar, typeFin, EventType.looksUpBoth]
  have tx : event.looksUpTxSar = true := by
    simp only [Event.looksUpTxSar, typeFin, EventType.looksUpBoth]
  simp only [txEngTcpFsm, TxEngState.loaded, TxEngState.feed, typeFin,
    txEngFin, rx, tx, if_true, Bool.false_eq_true, if_false]

/-- The call of every other case writes its messages and goes to `LOAD`. -/
theorem txEngTcpFsm_quiet
    (regs : TxEngState) (event : EventWithTuple)
    (rxRsp : RxSarLookupRsp) (txRsp : TxSarToTxEngRsp)
    (noPayload : event.type.sendsPayload = false) :
    (txEngTcpFsm (regs.loaded event rxRsp txRsp)).1.AtRest ∧
      Quiet (txEngTcpFsm (regs.loaded event rxRsp txRsp)).2 := by
  cases typeEq : event.type with
  | tx | rt | rtCont =>
      rw [typeEq] at noPayload
      cases noPayload
  | ack | ackNodelay =>
      have rx : event.looksUpRxSar = true := by
        simp only [Event.looksUpRxSar, typeEq, EventType.looksUpBoth]
      have tx : event.looksUpTxSar = true := by
        simp only [Event.looksUpTxSar, typeEq, EventType.looksUpBoth]
      simp only [txEngTcpFsm, TxEngState.loaded, TxEngState.feed, typeEq,
        txEngAck, rx, tx, if_true]
      exact ⟨⟨rfl, rfl⟩, ⟨rfl, rfl⟩⟩
  | syn =>
      simp only [txEngTcpFsm, TxEngState.loaded, TxEngState.feed, typeEq,
        txEngSyn, Event.looksUpTxSar]
      by_cases repeated : event.retransCnt = 0
      · simp only [repeated, ne_eq, not_true_eq_false, if_false]
        exact ⟨⟨rfl, rfl⟩, ⟨rfl, rfl⟩⟩
      · simp only [repeated, ne_eq, not_false_eq_true, if_true, bne_iff_ne]
        exact ⟨⟨rfl, rfl⟩, ⟨rfl, rfl⟩⟩
  | synAck =>
      have rx : event.looksUpRxSar = true := by
        simp only [Event.looksUpRxSar, typeEq, EventType.looksUpBoth]
      have tx : event.looksUpTxSar = true := by
        simp only [Event.looksUpTxSar, typeEq, EventType.looksUpBoth]
      simp only [txEngTcpFsm, TxEngState.loaded, TxEngState.feed, typeEq,
        txEngSynAck, rx, tx, if_true]
      refine ⟨⟨rfl, rfl⟩, ?_⟩
      by_cases repeated : event.retransCnt = 0
      · simp only [repeated, ne_eq, not_true_eq_false, if_false]
        exact ⟨rfl, filter_carriesPayload_syn rfl⟩
      · simp only [repeated, ne_eq, not_false_eq_true, if_true]
        exact ⟨rfl, filter_carriesPayload_syn rfl⟩
  | fin =>
      rw [txEngTcpFsm_fin regs event rxRsp txRsp typeEq]
      exact ⟨⟨rfl, rfl⟩, quiet_finSend _ txRsp⟩
  | rst =>
      simp only [txEngTcpFsm, TxEngState.loaded, TxEngState.feed, typeEq,
        txEngRst, Event.looksUpTxSar]
      by_cases known : event.hasSessionId = true
      · simp only [known, if_true]
        exact ⟨⟨rfl, rfl⟩, ⟨rfl, rfl⟩⟩
      · simp only [known]
        exact ⟨⟨rfl, rfl⟩, ⟨rfl, rfl⟩⟩

theorem handlesEvent_quiet
    (regs : TxEngState) (event : EventWithTuple)
    (rxRsp : RxSarLookupRsp) (txRsp : TxSarToTxEngRsp)
    (noPayload : event.type.sendsPayload = false) :
    ∃ msgs final,
      HandlesEvent regs event rxRsp txRsp msgs final ∧
      Quiet msgs ∧
      sarWrites msgs =
        sarWrites (txEngTcpFsm (regs.loaded event rxRsp txRsp)).2 := by
  obtain ⟨rest, quiet⟩ :=
    txEngTcpFsm_quiet regs event rxRsp txRsp noPayload
  have run :
      Runs txEngTcpFsm (regs.loaded event rxRsp txRsp)
        ((txEngTcpFsm (regs.loaded event rxRsp txRsp)).2 ++ [])
        (txEngTcpFsm (regs.loaded event rxRsp txRsp)).1 :=
    Runs.head rfl (Runs.refl _)
  rw [List.append_nil] at run
  obtain ⟨lookups, idle, handles, noSegments, noCmds, noWrites⟩ :=
    handlesEvent_of_loaded run rest
  refine ⟨_, idle, handles, ⟨?_, ?_⟩, ?_⟩
  · rw [memReadCmds_append, noCmds, quiet.noReads]
    rfl
  · rw [segments_append, noSegments, List.nil_append]
    exact quiet.noPayload
  · rw [sarWrites_append, noWrites, List.nil_append]

/-! ## Commands against segments -/

/-- Each segment that carries payload has one read command, of its length and
at the place of its sequence number in the ring, in the order sent. -/
def ReadsSegments (id : TcpSessionID) (msgs : List TxEngMsg) : Prop :=
  memReadCmds msgs =
    ((segments msgs).filter TxEngFsmMetaData.carriesPayload).map
      (TxEngFsmMetaData.readCmd id)

theorem Quiet.readsSegments
    {msgs : List TxEngMsg} (quiet : Quiet msgs) (id : TcpSessionID) :
    ReadsSegments id msgs := by
  rw [ReadsSegments, quiet.noReads, quiet.noPayload]
  rfl

/-- Every segment of a segment list carries payload. -/
theorem filter_carriesPayload_segmentList
    {header : TxEngFsmMetaData} (start : BitVec 32) {lengths : List Nat}
    (noSyn : header.syn = false)
    (short : ∀ length ∈ lengths, length ≤ tcpMss) :
    (segmentList header start lengths).filter
        TxEngFsmMetaData.carriesPayload =
      segmentList header start lengths := by
  induction lengths generalizing start with
  | nil =>
      rfl
  | cons length later inductionHypothesis =>
      have lengthShort := short length List.mem_cons_self
      rw [tcpMss_eq] at lengthShort
      rw [segmentList, List.filter_append,
        inductionHypothesis _ fun other member =>
          short other (List.mem_cons_of_mem length member)]
      by_cases empty : length = 0
      · rw [if_pos empty]
        rfl
      · have notEmptyWord : BitVec.ofNat 16 length ≠ 0 := by
          rw [ne_eq, ← BitVec.toNat_inj, BitVec.toNat_ofNat,
            show (0 : BitVec 16).toNat = 0 from rfl]
          omega
        rw [if_neg empty, List.filter_cons_of_pos, List.filter_nil]
        simp only [TxEngFsmMetaData.carriesPayload, noSyn, Bool.not_false,
          Bool.and_true]
        exact bne_iff_ne.2 notEmptyWord

theorem rtLengths_le_mss
    (rounds unacked : Nat) {length : Nat}
    (member : length ∈ rtLengths rounds unacked) :
    length ≤ tcpMss := by
  induction rounds generalizing unacked with
  | zero =>
      cases member
  | succ rounds inductionHypothesis =>
      rw [rtLengths] at member
      by_cases more : tcpMss < unacked
      · rw [if_pos more] at member
        rcases List.mem_cons.1 member with first | later
        · exact Nat.le_of_eq first
        · exact inductionHypothesis _ later
      · rw [if_neg more] at member
        rw [List.mem_singleton.1 member]
        exact Nat.le_of_not_lt more

/-- The segments of a retransmission are read from the start of the ring in
the place of their sequence numbers when there is no segment, or one that
belongs there. -/
def AtRingStart (ackd : BitVec 32) (unacked : Nat) : Prop :=
  unacked = 0 ∨ unacked ≤ tcpMss ∧ ackd.setWidth 18 = 0

/-- The condition on a table response under which all segments of its
retransmission are read from the right place. -/
def RetransmissionReadsRing (rsp : TxSarToTxEngRsp) : Prop :=
  rsp.usedLengthRst.toNat ≤ tcpMss ∨
    AtRingStart (rsp.ackd + BitVec.ofNat 32 tcpMss)
      (rsp.usedLengthRst.toNat - tcpMss)

instance (ackd : BitVec 32) (unacked : Nat) :
    Decidable (AtRingStart ackd unacked) :=
  inferInstanceAs (Decidable (_ ∨ _ ∧ _))

instance (rsp : TxSarToTxEngRsp) :
    Decidable (RetransmissionReadsRing rsp) :=
  inferInstanceAs (Decidable (_ ∨ _))

theorem readCmd_eq_contReadCmd_iff
    (id : TcpSessionID) (segment : TxEngFsmMetaData) :
    segment.readCmd id = contReadCmd id segment ↔
      segment.seqNumber.setWidth 18 = 0 := by
  constructor
  · intro same
    have sameOffset := congrArg MemBufferRWCmd.offset same
    have left :
        (segment.readCmd id).offset = segment.seqNumber.setWidth 18 :=
      getSessionMemAddr_offset .tx id (segment.seqNumber.setWidth 18)
    have right : (contReadCmd id segment).offset = 0 :=
      getSessionMemAddr_offset .tx id 0
    rwa [left, right] at sameOffset
  · intro atStart
    rw [TxEngFsmMetaData.readCmd, atStart, contReadCmd]

theorem rtLengths_sum_le (rounds unacked : Nat) :
    (rtLengths rounds unacked).sum ≤ unacked := by
  induction rounds generalizing unacked with
  | zero =>
      exact Nat.zero_le unacked
  | succ rounds inductionHypothesis =>
      rw [rtLengths]
      by_cases more : tcpMss < unacked
      · have rest := inductionHypothesis (unacked - tcpMss)
        rw [if_pos more, List.sum_cons]
        omega
      · rw [if_neg more, List.sum_singleton]

/-- A segment that is not empty appears where its list starts. -/
theorem exists_first_segment
    (header : TxEngFsmMetaData) (start : BitVec 32)
    {first : Nat} (later : List Nat) (notEmpty : first ≠ 0) :
    ∃ segment ∈ segmentList header start (first :: later),
      segment.seqNumber = start := by
  rw [segmentList, if_neg notEmpty]
  exact ⟨_, List.mem_cons_self, rfl⟩

/-- Two rounds of `RT_CONT` cannot both belong at the start of the ring. -/
theorem contReads_iff
    (id : TcpSessionID) (header : TxEngFsmMetaData) (ackd : BitVec 32)
    (rounds unacked : Nat) :
    (segmentList header ackd (rtLengths (rounds + 2) unacked)).map
          (contReadCmd id) =
        (segmentList header ackd (rtLengths (rounds + 2) unacked)).map
          (TxEngFsmMetaData.readCmd id) ↔
      AtRingStart ackd unacked := by
  have allAtStart :
      (segmentList header ackd (rtLengths (rounds + 2) unacked)).map
            (contReadCmd id) =
          (segmentList header ackd (rtLengths (rounds + 2) unacked)).map
            (TxEngFsmMetaData.readCmd id) ↔
        ∀ segment ∈
            segmentList header ackd (rtLengths (rounds + 2) unacked),
          segment.seqNumber.setWidth 18 = 0 := by
    rw [List.map_inj_left]
    simp only [eq_comm, ← readCmd_eq_contReadCmd_iff id]
  rw [allAtStart, rtLengths, AtRingStart]
  by_cases more : tcpMss < unacked
  · have notEmpty : tcpMss ≠ 0 := by
      decide
    have restNotEmpty :
        ∃ first later,
          rtLengths (rounds + 1) (unacked - tcpMss) = first :: later ∧
            first ≠ 0 := by
      rw [rtLengths]
      split
      · exact ⟨_, _, rfl, notEmpty⟩
      · exact ⟨_, _, rfl, Nat.sub_ne_zero_of_lt more⟩
    obtain ⟨first, later, restEq, firstNotEmpty⟩ := restNotEmpty
    rw [if_pos more, restEq]
    constructor
    · intro atStart
      obtain ⟨one, oneMember, oneStart⟩ :=
        exists_first_segment header ackd (first :: later) notEmpty
      obtain ⟨two, twoMember, twoStart⟩ :=
        exists_first_segment header (ackd + BitVec.ofNat 32 tcpMss) later
          firstNotEmpty
      have oneAtStart := atStart one oneMember
      have twoAtStart :=
        atStart two (List.mem_append_right _ twoMember)
      rw [oneStart] at oneAtStart
      rw [twoStart, BitVec.setWidth_add _ _ (by decide), oneAtStart]
        at twoAtStart
      exact absurd twoAtStart (by decide)
    · rintro (nothing | ⟨fits, _⟩)
      · rw [nothing] at more
        exact absurd more (Nat.not_lt_zero tcpMss)
      · exact absurd fits (Nat.not_le.2 more)
  · have fits : unacked ≤ tcpMss := Nat.le_of_not_lt more
    rw [if_neg more, segmentList, segmentList, List.append_nil]
    by_cases nothing : unacked = 0
    · rw [if_pos nothing]
      simp only [List.not_mem_nil, false_imp_iff, implies_true, true_iff]
      exact Or.inl nothing
    · rw [if_neg nothing]
      simp only [List.mem_singleton, forall_eq, nothing, fits, true_and,
        false_or]

/-- The payload segments of a `TX` event are those of its plan. -/
theorem TxOutputs.payload_eq
    {id : TcpSessionID} {header : TxEngFsmMetaData}
    {rsp : TxSarToTxEngRsp} {minWindow curr used window : Nat}
    {lengths : List Nat} {short : Bool} {retransCnt : BitVec 3}
    {fin msgs : List TxEngMsg}
    (outputs : TxOutputs id header rsp lengths short fin msgs)
    (plan : TxPlan minWindow curr used window lengths short)
    (follows : FinFollows id retransCnt rsp lengths short fin)
    (noSyn : header.syn = false) :
    (segments msgs).filter TxEngFsmMetaData.carriesPayload =
      segmentList header rsp.notAckd lengths := by
  rw [outputs.sent, List.filter_append,
    filter_carriesPayload_segmentList _ noSyn fun _ => plan.length_le_mss,
    follows.quiet.noPayload, List.append_nil]

theorem RtOutputs.payload_eq
    {id : TcpSessionID} {header : TxEngFsmMetaData}
    {ackd addrAckd notAckd : BitVec 32} {appWritten : TcpSessionBuffer}
    {rounds unacked : Nat} {fin msgs : List TxEngMsg}
    (outputs :
      RtOutputs id header ackd addrAckd (rtLengths rounds unacked) fin
        msgs)
    (follows : MaybeFin notAckd appWritten fin)
    (noSyn : header.syn = false) :
    (segments msgs).filter TxEngFsmMetaData.carriesPayload =
      segmentList header ackd (rtLengths rounds unacked) := by
  rw [outputs.sent, List.filter_append,
    filter_carriesPayload_segmentList ackd noSyn
      fun _ => rtLengths_le_mss rounds unacked,
    follows.quiet.noPayload, List.append_nil]

/-- The outputs of a retransmission, in terms of its first segment and the
rest. -/
theorem RtOutputs.reads_iff
    {id : TcpSessionID} {header : TxEngFsmMetaData} {ackd : BitVec 32}
    {unacked : Nat} {notAckd : BitVec 32}
    {appWritten : TcpSessionBuffer} {fin msgs : List TxEngMsg}
    (outputs :
      RtOutputs id header ackd ackd (rtLengths 4 unacked) fin msgs)
    (noSyn : header.syn = false)
    (follows : MaybeFin notAckd appWritten fin) :
    ReadsSegments id msgs ↔
      unacked ≤ tcpMss ∨
        AtRingStart (ackd + BitVec.ofNat 32 tcpMss)
          (unacked - tcpMss) := by
  have firstReads :
      ∀ lengths : List Nat,
        (segmentList header ackd (lengths.take 1)).map
            (fun segment =>
              MemBufferRWCmd.ofAddr
                (getSessionMemAddr .tx id (ackd.setWidth 18))
                segment.length) =
          (segmentList header ackd (lengths.take 1)).map
            (TxEngFsmMetaData.readCmd id) := by
    intro lengths
    cases lengths with
    | nil =>
        rfl
    | cons first later =>
        rw [List.take_succ_cons, List.take_zero, segmentList, segmentList,
          List.append_nil]
        split <;> rfl
  rw [ReadsSegments, outputs.read, outputs.payload_eq follows noSyn,
    ← segmentList_split header ackd (rtLengths 4 unacked),
    List.map_append, firstReads, List.append_cancel_left_eq]
  rw [rtLengths]
  by_cases more : tcpMss < unacked
  · rw [if_pos more, List.take_succ_cons, List.take_zero,
      List.sum_singleton, List.drop_succ_cons, List.drop_zero]
    have notFits : ¬ unacked ≤ tcpMss := Nat.not_le.2 more
    have cont :=
      contReads_iff id header (ackd + BitVec.ofNat 32 tcpMss) 1
        (unacked - tcpMss)
    rw [cont]
    simp only [notFits, false_or]
  · have fits : unacked ≤ tcpMss := Nat.le_of_not_lt more
    rw [if_neg more, List.drop_succ_cons, List.drop_nil]
    simp only [segmentList, List.map_nil, fits, true_or]

/-! ## Every event -/

/-- Handling an event reads each payload segment from where the ring stores
its sequence numbers, unless it retransmits further segments. -/
theorem readsSegments_iff
    (regs : TxEngState) (event : EventWithTuple)
    (rxRsp : RxSarLookupRsp) (txRsp : TxSarToTxEngRsp)
    (queued : event.type ≠ .rtCont) :
    (∃ msgs final,
        HandlesEvent regs event rxRsp txRsp msgs final ∧
        ReadsSegments event.sessionId msgs) ↔
      (event.type = .rt → RetransmissionReadsRing txRsp) := by
  by_cases typeRt : event.type = .rt
  · obtain ⟨fin, msgs, handled⟩ :=
      handlesEvent_rt regs event rxRsp txRsp typeRt
    obtain ⟨final, handles⟩ := handled.handles
    obtain ⟨header, noSyn, outputs⟩ := handled.outputs
    have readsIff := outputs.reads_iff noSyn handled.follows
    constructor
    · rintro ⟨otherMsgs, otherFinal, otherHandles, reads⟩ _
      rw [HandlesEvent.unique otherHandles handles] at reads
      exact readsIff.1 reads
    · intro condition
      exact ⟨msgs, final, handles, readsIff.2 (condition typeRt)⟩
  · refine ⟨fun _ isRt => absurd isRt typeRt, fun _ => ?_⟩
    by_cases typeTx : event.type = .tx
    · obtain ⟨header, lengths, short, fin, msgs, final, handles, plan,
          follows, outputs, noSyn, _⟩ :=
        handlesEvent_tx regs event rxRsp txRsp typeTx
      refine ⟨msgs, final, handles, ?_⟩
      rw [ReadsSegments, outputs.read,
        outputs.payload_eq plan follows noSyn]
    · have noPayload : event.type.sendsPayload = false := by
        cases typeEq : event.type <;> simp_all [EventType.sendsPayload]
      obtain ⟨msgs, final, handles, quiet, _⟩ :=
        handlesEvent_quiet regs event rxRsp txRsp noPayload
      exact ⟨msgs, final, handles, quiet.readsSegments event.sessionId⟩

/-- A session with 3000 bytes in flight from ring offset `0x39CB4` on. -/
def threeSegmentsInFlight : TxSarTableEntry where
  ackd := 0x7C579CB4
  notAckd := 0x7C57A86C
  recvWindow := 0xFFFF
  appWritten := 0x3A86C
  congWindow := 14600
  slowstartThreshold := 0x3FFFF
  winShift := 2
  retransCount := 0
  fastRetrans := false
  finIsReady := false
  finIsSent := false

def rtEventOf (id : TcpSessionID) : EventWithTuple :=
  ⟨Event.retry .rt id 1, ⟨0, 0, 0, 0⟩⟩

theorem readsSegments_of_one_segment :
    (rtEventOf 0).type ≠ .rtCont ∧
      ((∃ msgs final,
          HandlesEvent TxEngState.start (rtEventOf 0) ⟨0, 0, 0⟩
              { threeSegmentsInFlight with
                notAckd := 0x7C579CB5 }.txEngRead msgs final ∧
            ReadsSegments 0 msgs) ↔
        ((rtEventOf 0).type = .rt →
          RetransmissionReadsRing
            { threeSegmentsInFlight with
              notAckd := 0x7C579CB5 }.txEngRead)) :=
  ⟨by decide,
    readsSegments_iff TxEngState.start (rtEventOf 0) ⟨0, 0, 0⟩
      { threeSegmentsInFlight with notAckd := 0x7C579CB5 }.txEngRead
      (by decide)⟩

/-- The second and the third segment are read from the start of the ring. -/
theorem not_readsSegments_three_segments :
    ¬ ∃ msgs final,
      HandlesEvent TxEngState.start (rtEventOf 0) ⟨0, 0, 0⟩
          threeSegmentsInFlight.txEngRead msgs final ∧
        ReadsSegments 0 msgs := by
  rintro ⟨msgs, final, handles, reads⟩
  obtain ⟨fin, otherMsgs, handled⟩ :=
    handlesEvent_rt TxEngState.start (rtEventOf 0) ⟨0, 0, 0⟩
      threeSegmentsInFlight.txEngRead rfl
  obtain ⟨otherFinal, otherHandles⟩ := handled.handles
  obtain ⟨header, noSyn, outputs⟩ := handled.outputs
  rw [HandlesEvent.unique handles otherHandles] at reads
  exact
    absurd ((outputs.reads_iff noSyn handled.follows).1 reads)
      (by decide)

end TcpOffload
