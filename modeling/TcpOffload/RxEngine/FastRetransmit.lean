import TcpOffload.RxEngine.AckWindow
import TcpOffload.RxEngine.Calls
import TcpOffload.RxEngine.SendWindowWrites
import TcpOffload.RxEngine.StreamRecord

/-!
# Fast retransmit

Duplicate acknowledgements of a session, counted in `retrans_count`, and the
RT events of `RxEngTcpFsm`.  The third duplicate sets `fast_retrans` in the
update that stores its count, and the event is only written for a segment
with payload, which is no duplicate.
-/

namespace TcpOffload

open Clocked Guarded

/-! ## The count and its mark -/

/-- A count of three comes with the mark that it has been acted on. -/
def retransMarked (retransCount : BitVec 2) (fastRetrans : Bool) : Bool :=
  retransCount != 3 || fastRetrans

theorem retransMarked_counted
    (retransCount : BitVec 2) (fastRetrans : Bool) :
    retransMarked retransCount (retransCount == 3 || fastRetrans) =
      true := by
  rw [retransMarked]
  by_cases three : retransCount = 3
  · rw [three]
    rfl
  · rw [bne_iff_ne.2 three]
    rfl

def TxSarTableEntry.marked (entry : TxSarTableEntry) : Bool :=
  retransMarked entry.retransCount entry.fastRetrans

def TxSarToRxEngRsp.marked (rsp : TxSarToRxEngRsp) : Bool :=
  retransMarked rsp.retransCount rsp.fastRetrans

def RxEngToTxSarReq.marked (req : RxEngToTxSarReq) : Bool :=
  retransMarked req.retransCount req.fastRetrans

/-- All updates are marked, but for a FIN's, which stores what was read. -/
theorem TxSarWrite.marked
    {state : RxEngState} {req : RxEngToTxSarReq}
    (write : TxSarWrite state req)
    (read : state.rxEngCtrlBits = 5 → state.txSarReg.marked = true) :
    req.marked = true := by
  cases write with
  | ack =>
      exact retransMarked_counted _ _
  | syn | synAck =>
      rfl
  | fin isFin =>
      exact read isFin

/-! ## RT events -/

def RxEngMsg.isRt (id : TcpSessionID) : RxEngMsg → Bool
  | .setEvent event => event.type == .rt && event.sessionId == id
  | _ => false

/-- The RT events of a session. -/
def rtEvents (id : TcpSessionID) (msgs : List RxEngMsg) : Nat :=
  msgs.countP (RxEngMsg.isRt id)

section Events

variable {id : TcpSessionID} {first second : List RxEngMsg}

theorem rtEvents_nil : rtEvents id [] = 0 :=
  rfl

theorem rtEvents_append
    (noneFirst : rtEvents id first = 0)
    (noneSecond : rtEvents id second = 0) :
    rtEvents id (first ++ second) = 0 := by
  rw [rtEvents, List.countP_append]
  exact Nat.add_eq_zero_iff.2 ⟨noneFirst, noneSecond⟩

theorem rtEvents_ite {condition : Prop} [Decidable condition]
    (noneFirst : condition → rtEvents id first = 0)
    (noneSecond : rtEvents id second = 0) :
    rtEvents id (if condition then first else second) = 0 := by
  split
  · rename_i holds
    exact noneFirst holds
  · exact noneSecond

theorem rtEvents_cons {msg : RxEngMsg} (notRt : msg.isRt id = false)
    (rest : rtEvents id second = 0) :
    rtEvents id (msg :: second) = 0 := by
  rw [rtEvents, List.countP_cons_of_neg]
  · exact rest
  · rw [notRt]
    exact Bool.false_ne_true

/-- A segment with payload that finds a count of three finds its mark, too:
then nothing is asked to be sent again. -/
theorem rtEvents_rxEngHandle (state : RxEngState)
    (quiet :
      state.rxEngCtrlBits = 1 →
        state.txSarReg.isOldAck state.tcpRxMetaReg.header.ackNumber =
            true →
          state.txSarReg.marked = true) :
    rtEvents id (rxEngHandle state).2 = 0 := by
  have dropPayload (segment : RxEngFsmMetaData) :
      rtEvents id segment.dropPayload = 0 :=
    rtEvents_ite (fun _ => rtEvents_cons rfl rtEvents_nil) rtEvents_nil
  have ackedAll
      (segment : RxEngFsmMetaData) (sessionState : SessionState) :
      rtEvents id (rxEngAckedAll segment sessionState) = 0 := by
    cases sessionState <;> rfl
  have event
      (isAck : state.rxEngCtrlBits = 1)
      (some : state.tcpRxMetaReg.header.payloadLength ≠ 0) :
      ¬ ((state.txSarReg.afterAck
              state.tcpRxMetaReg.header).retransCount = 3 ∧
          (state.txSarReg.afterAck
              state.tcpRxMetaReg.header).fastRetrans = false) := by
    rw [TxSarToRxEngRsp.afterAck]
    split
    · rename_i isOld
      rintro ⟨three, notFast⟩
      have marked := quiet isAck isOld
      rw [TxSarToRxEngRsp.marked, three, notFast] at marked
      cases marked
    · rintro ⟨three, -⟩
      cases three
  rw [rxEngHandle]
  split
  · rename_i isAck
    rw [rxEngAck]
    simp only [rxEngAckAccepted]
    split
    · refine rtEvents_append (rtEvents_cons rfl ?_) ?_
      · exact
          rtEvents_ite (fun _ => rtEvents_nil)
            (rtEvents_cons rfl rtEvents_nil)
      · refine rtEvents_ite (fun _ => ?_) rtEvents_nil
        refine rtEvents_append (rtEvents_append ?_ ?_) ?_
        · refine rtEvents_cons rfl (rtEvents_ite (fun _ => ?_) rtEvents_nil)
          exact
            rtEvents_ite (fun _ => rtEvents_cons rfl rfl)
              (rtEvents_cons rfl rtEvents_nil)
        · refine rtEvents_ite (fun some => ?_) rtEvents_nil
          rw [if_neg (event isAck some)]
          exact rtEvents_cons rfl rtEvents_nil
        · exact
            rtEvents_ite (fun _ => ackedAll _ _)
              (rtEvents_cons rfl rtEvents_nil)
    · refine rtEvents_cons rfl (rtEvents_cons rfl ?_)
      exact
        rtEvents_append (dropPayload _) (rtEvents_cons rfl rtEvents_nil)
  · rw [rxEngSyn, rxEngSynAck, rxEngFinAck, rxEngDefault]
    simp only [rxEngFinState]
    repeat' first
      | exact rtEvents_nil
      | exact dropPayload _
      | exact rtEvents_cons rfl rfl
      | refine rtEvents_append ?_ ?_
      | refine rtEvents_ite (fun _ => ?_) ?_
      | refine rtEvents_cons rfl ?_
      | split

end Events

/-! ## Duplicates in a row -/

namespace RxEngState

/-- An ACK without payload that acknowledges nothing new of an established
session with bytes in flight. -/
def isDuplicate (state : RxEngState) : Bool :=
  state.rxEngCtrlBits == 1 && state.sessionStateReg == .established &&
    state.tcpRxMetaReg.header.payloadLength == 0 &&
    state.txSarReg.isOldAck state.tcpRxMetaReg.header.ackNumber

/-- The segment advances `ackd` of a session that is then established. -/
def isNewAck (state : RxEngState) : Bool :=
  state.acknowledges &&
    state.tcpRxMetaReg.header.ackNumber != state.txSarReg.pervAck

end RxEngState

/-- Since the last new ACK of a session: the duplicates that came last, one
right behind the other, whether there have been three in a row, and the RT
events. -/
structure DuplicateRow where
  inARow : Nat
  due : Bool
  events : Nat
deriving DecidableEq, Repr

def DuplicateRow.handle
    (row : DuplicateRow) (id : TcpSessionID) (loaded : RxEngState) :
    DuplicateRow where
  inARow := if loaded.isDuplicate then row.inARow + 1 else 0
  due := row.due || (loaded.isDuplicate && decide (2 ≤ row.inARow))
  events := row.events + rtEvents id (rxEngHandle loaded).2

/-- The row behind a call of the machine; there is none before the first new
ACK, and none for a session that is not established. -/
def RxEngState.rowBehind
    (state : RxEngState) (id : TcpSessionID)
    (row : Option DuplicateRow) : Option DuplicateRow :=
  match state.handling id with
  | none => row
  | some loaded =>
      if loaded.isNewAck then
        some ⟨0, false, rtEvents id (rxEngHandle loaded).2⟩
      else if loaded.sessionStateReg = .established then
        row.map fun before => before.handle id loaded
      else
        none

/-- The machine and `tx_sar_table`, with the duplicates of one session. -/
structure DuplicateSystem where
  ack : AckSystem
  row : Option DuplicateRow

namespace DuplicateSystem

def start (table : TcpSessionID → TxSarTableEntry) : DuplicateSystem where
  ack := AckSystem.start table
  row := none

def act (id : TcpSessionID) (system : DuplicateSystem)
    (action : AckAction) : DuplicateSystem where
  ack := system.ack.act action
  row :=
    match action with
    | .rxEngTcpFsm => system.ack.fsm.rowBehind id system.row
    | _ => system.row

end DuplicateSystem

def DuplicateStep
    (id : TcpSessionID) (system : DuplicateSystem) (action : AckAction)
    (next : DuplicateSystem) : Prop :=
  next = system.act id action

/-- Once three duplicates have come in a row there is one RT event, and no
other until the next new ACK. -/
def FastRetransmits (id : TcpSessionID) (system : DuplicateSystem)
    (action : AckAction) : Prop :=
  ∀ row ∈ (system.act id action).row, row.due = true → row.events = 1

/-- No duplicate comes right behind two others. -/
def NoThirdDuplicate (id : TcpSessionID) (system : DuplicateSystem) :
    AckAction → Prop
  | .rxEngTcpFsm =>
      ∀ loaded ∈ system.ack.fsm.handling id,
        ∀ row ∈ system.row, 2 ≤ row.inARow → loaded.isDuplicate = false
  | _ => True

/-! ## The mark of the session's entry -/

/-- The mark behind a request of the machine. -/
def RxEngToTxSarReq.markedBehind
    (id : TcpSessionID) (marked : Bool) (req : RxEngToTxSarReq) : Bool :=
  if req.sessionId = id ∧ req.write = true then req.marked else marked

/-- Writes behind which the entry is marked, once a row has begun. -/
structure MarkedWrites
    (id : TcpSessionID) (begun : Bool) (entry : TxSarTableEntry)
    (writes : List RxEngToTxSarReq) : Prop where
  areWrites : ∀ req ∈ writes, req.write = true
  marked :
    begun = true →
      writes.foldl (RxEngToTxSarReq.markedBehind id) entry.marked = true

/-- A marked entry, and an answer about it. -/
def MarkedRead
    (id : TcpSessionID) (begun : Bool) (entry : TxSarTableEntry)
    (inHand : TcpSessionID) (rsp : TxSarToRxEngRsp) : Prop :=
  begun = true →
    entry.marked = true ∧ (inHand = id → rsp.marked = true)

structure DuplicateInvariant
    (id : TcpSessionID) (system : DuplicateSystem) : Prop where
  asks :
    AsksTxSar
      (MarkedWrites id system.row.isSome (system.ack.entry id))
      (MarkedRead id system.row.isSome (system.ack.entry id))
      system.ack.fsm system.ack.table.rxEngReqs
  noEvents : ∀ row ∈ system.row, row.events = 0

theorem duplicateInvariant_start
    (id : TcpSessionID) (table : TcpSessionID → TxSarTableEntry) :
    DuplicateInvariant id (DuplicateSystem.start table) where
  asks := by
    refine
      AsksTxSar.mk (Lookup.Phase.idle ⟨?_, ?_⟩) (fun _ => rfl)
        (fun transition => by cases transition)
    · exact fun req member => by cases member
    · exact fun begun => by cases begun
  noEvents := fun row member => by cases member

section Handles

variable {id : TcpSessionID} {loaded : RxEngState}

/-- A new ACK of the session is written to its entry. -/
theorem one_of_isNewAck (isNew : loaded.isNewAck = true) :
    ∃ req, (rxWrites (rxEngHandle loaded).2).txSarWrites = [req] := by
  rw [RxEngState.isNewAck, RxEngState.acknowledges, Bool.and_eq_true,
    Bool.or_eq_true] at isNew
  rcases isNew.1 with isAck | isSynAck
  · simp only [Bool.and_eq_true, beq_iff_eq] at isAck
    obtain ⟨⟨⟨flags, takes⟩, inside⟩, -⟩ := isAck
    have exit := rxEngHandle_exit loaded
    generalize rxWrites (rxEngHandle loaded).2 = writes at exit ⊢
    cases exit with
    | ackInside | ackDropped | ackTaken =>
        exact ⟨_, rfl⟩
    | ackOutside _ _ outside =>
        rw [inside] at outside
        cases outside
    | ackRefused _ refuses =>
        rw [takes] at refuses
        cases refuses
    | synTaken | synAckTaken | finTaken =>
        exact ⟨_, rfl⟩
    | finRefused isFin =>
        rw [flags] at isFin
        cases isFin
    | releases notAck =>
        exact absurd flags notAck
  · simp only [Bool.and_eq_true, beq_iff_eq] at isSynAck
    obtain ⟨⟨flags, opening⟩, matching⟩ := isSynAck
    refine
      ⟨RxEngToTxSarReq.updateWithShift loaded.tcpRxMetaReg.sessionId
        loaded.tcpRxMetaReg.header.ackNumber
        loaded.tcpRxMetaReg.header.winSize loaded.txSarReg.congWindow 0
        false true (loaded.tcpRxMetaReg.header.winScale.setWidth 4), ?_⟩
    rw [rxEngHandle, flags]
    change (rxWrites (rxEngSynAck loaded).2).txSarWrites = _
    rw [rxEngSynAck]
    simp only [opening]
    rw [if_pos matching]
    rfl

/-- A new ACK has the ACK flag, and its session is asked for. -/
theorem ack_of_isNewAck (isNew : loaded.isNewAck = true) :
    loaded.rxEngCtrlBits.getLsbD 0 = true := by
  rw [RxEngState.isNewAck, RxEngState.acknowledges, Bool.and_eq_true,
    Bool.or_eq_true] at isNew
  rcases isNew.1 with isAck | isSynAck
  · simp only [Bool.and_eq_true, beq_iff_eq] at isAck
    rw [isAck.1.1.1]
    rfl
  · simp only [Bool.and_eq_true, beq_iff_eq] at isSynAck
    rw [isSynAck.1.1]
    rfl

/-- A new ACK is no old one. -/
theorem not_isOldAck_of_isNewAck (isNew : loaded.isNewAck = true) :
    loaded.txSarReg.isOldAck loaded.tcpRxMetaReg.header.ackNumber =
      false := by
  rw [RxEngState.isNewAck, Bool.and_eq_true, bne_iff_ne] at isNew
  rw [TxSarToRxEngRsp.isOldAck, beq_eq_false_iff_ne.2 isNew.2]
  rfl

end Handles

namespace DuplicateInvariant

variable {id : TcpSessionID} {system : DuplicateSystem}

/-- The row goes on only where one has begun, or at a new ACK. -/
theorem begun_of_rowBehind {loaded : RxEngState}
    (handling : system.ack.fsm.handling id = some loaded)
    (begun : (system.ack.fsm.rowBehind id system.row).isSome = true) :
    system.row.isSome = true ∨ loaded.isNewAck = true := by
  rw [RxEngState.rowBehind, handling] at begun
  simp only [] at begun
  split at begun
  · rename_i isNew
    exact Or.inr isNew
  · split at begun
    · rw [Option.isSome_map] at begun
      exact Or.inl begun
    · cases begun

/-- The call handles a segment of another session. -/
theorem rowBehind_of_none
    (handling : system.ack.fsm.handling id = none) :
    system.ack.fsm.rowBehind id system.row = system.row := by
  rw [RxEngState.rowBehind, handling]

theorem handling_of_own {fsm loaded : RxEngState}
    (transition : fsm.fsmState = .transition)
    (answers : fsm.takeAnswers = some loaded)
    (isOwn : loaded.tcpRxMetaReg.sessionId = id) :
    fsm.handling id = some loaded := by
  rw [RxEngState.handling, transition]
  simp only []
  rw [answers, Option.filter_some, if_pos (beq_iff_eq.2 isOwn)]

theorem handling_of_other {fsm loaded : RxEngState}
    (transition : fsm.fsmState = .transition)
    (answers : fsm.takeAnswers = some loaded)
    (isOther : loaded.tcpRxMetaReg.sessionId ≠ id) :
    fsm.handling id = none := by
  rw [RxEngState.handling, transition]
  simp only []
  rw [answers, Option.filter_some,
    if_neg fun same => isOther (beq_iff_eq.1 same)]

/-- What the machine has read of the session is marked, once a row has
begun. -/
theorem loaded_marked {loaded : RxEngState}
    (invariant : DuplicateInvariant id system)
    (answers : system.ack.fsm.takeAnswers = some loaded)
    (sent : system.ack.fsm.rxEngSentTxSarReq = true) :
    MarkedRead id system.row.isSome (system.ack.entry id)
      loaded.tcpRxMetaReg.sessionId loaded.txSarReg := by
  have took := takesAnswers answers
  have phase := invariant.asks.phase
  rw [took.txSarRsps sent] at phase
  rw [took.segment]
  exact phase.of_answered.2.1

/-- The segment was asked for exactly if it has the ACK flag. -/
theorem sent_eq {loaded : RxEngState}
    (invariant : DuplicateInvariant id system)
    (transition : system.ack.fsm.fsmState = .transition)
    (answers : system.ack.fsm.takeAnswers = some loaded) :
    system.ack.fsm.rxEngSentTxSarReq =
      loaded.rxEngCtrlBits.getLsbD 0 := by
  obtain ⟨flags, sent⟩ := invariant.asks.flags transition
  rw [sent, (takesAnswers answers).ctrlBits, flags,
    TcpHeaderMeta.ctrlBits_ack]

/-- No RT event while a row goes on, nor where one begins. -/
theorem noEvents_handle {loaded : RxEngState}
    (invariant : DuplicateInvariant id system)
    (transition : system.ack.fsm.fsmState = .transition)
    (answers : system.ack.fsm.takeAnswers = some loaded)
    (isOwn : loaded.tcpRxMetaReg.sessionId = id)
    (begun : system.row.isSome = true ∨ loaded.isNewAck = true) :
    rtEvents id (rxEngHandle loaded).2 = 0 := by
  refine rtEvents_rxEngHandle loaded fun isAck isOld => ?_
  rcases begun with before | isNew
  · have sent : system.ack.fsm.rxEngSentTxSarReq = true := by
      rw [invariant.sent_eq transition answers, isAck]
      rfl
    exact (invariant.loaded_marked answers sent before).2 isOwn
  · rw [not_isOldAck_of_isNewAck isNew] at isOld
    cases isOld

/-- The machine handles a segment. -/
theorem asks_handle {loaded : RxEngState}
    (invariant : DuplicateInvariant id system)
    (transition : system.ack.fsm.fsmState = .transition)
    (answers : system.ack.fsm.takeAnswers = some loaded)
    {begun : Bool}
    (begins :
      begun = true →
        system.row.isSome = true ∨
          loaded.isNewAck = true ∧
            loaded.tcpRxMetaReg.sessionId = id) :
    AsksTxSar (MarkedWrites id begun (system.ack.entry id))
      (MarkedRead id begun (system.ack.entry id)) (rxEngHandle loaded).1
      (system.ack.table.rxEngReqs ++
        (rxEngHandle loaded).2.filterMap RxEngMsg.toTxSar) := by
  have sentEq := invariant.sent_eq transition answers
  have read := invariant.loaded_marked answers
  refine invariant.asks.handle answers ?_ ?_
  · rintro notSent ⟨areWrites, marked⟩
    rw [notSent] at sentEq
    have begunBefore (isBegun : begun = true) :
        system.row.isSome = true := by
      rcases begins isBegun with before | ⟨isNew, -⟩
      · exact before
      · rw [ack_of_isNewAck isNew] at sentEq
        cases sentEq
    rcases txSarWrites_cases loaded with none | ⟨req, one, write⟩
    · rw [none, List.append_nil]
      exact ⟨areWrites, fun isBegun => marked (begunBefore isBegun)⟩
    · rw [one]
      refine ⟨fun other member => ?_, fun isBegun => ?_⟩
      · rcases List.mem_append.1 member with earlier | last
        · exact areWrites other earlier
        · rw [List.mem_singleton.1 last]
          exact write.own.1
      · have isMarked : req.marked = true := by
          refine write.marked fun isFin => ?_
          rw [isFin] at sentEq
          cases sentEq
        rw [List.foldl_append, marked (begunBefore isBegun)]
        change RxEngToTxSarReq.markedBehind id true req = true
        rw [RxEngToTxSarReq.markedBehind, isMarked, ite_self]
  · intro sent _ _
    rcases txSarWrites_cases loaded with none | ⟨req, one, write⟩
    · rw [none]
      refine ⟨fun _ member => (by cases member), fun isBegun => ?_⟩
      rcases begins isBegun with before | ⟨isNew, -⟩
      · exact (read sent before).1
      · obtain ⟨req, one⟩ := one_of_isNewAck isNew
        rw [none] at one
        cases one
    · rw [one]
      refine ⟨fun other member => ?_, fun isBegun => ?_⟩
      · rw [List.mem_singleton.1 member]
        exact write.own.1
      · change
          RxEngToTxSarReq.markedBehind id (system.ack.entry id).marked
              req =
            true
        rw [RxEngToTxSarReq.markedBehind]
        rcases begins isBegun with before | ⟨isNew, isOwn⟩
        · by_cases isOwn : req.sessionId = id
          · rw [if_pos ⟨isOwn, write.own.1⟩]
            refine write.marked fun _ => ?_
            exact
              (read sent before).2 (write.own.2.symm.trans isOwn)
          · rw [if_neg fun both => isOwn both.1]
            exact (read sent before).1
        · rw [if_pos ⟨write.own.2.trans isOwn, write.own.1⟩]
          refine write.marked fun isFin => ?_
          rw [RxEngState.isNewAck, RxEngState.acknowledges, isFin]
            at isNew
          cases isNew

theorem invariant_rxEngTcpFsm (invariant : DuplicateInvariant id system) :
    DuplicateInvariant id (system.act id .rxEngTcpFsm) := by
  have rests (handling : system.ack.fsm.handling id = none)
      {fsm : RxEngState} {msgs : List RxEngMsg}
      (asks :
        AsksTxSar
          (MarkedWrites id system.row.isSome (system.ack.entry id))
          (MarkedRead id system.row.isSome (system.ack.entry id)) fsm
          (system.ack.table.rxEngReqs ++
            msgs.filterMap RxEngMsg.toTxSar)) :
      DuplicateInvariant id
        ⟨system.ack.afterFsm fsm msgs,
          system.ack.fsm.rowBehind id system.row⟩ := by
    rw [rowBehind_of_none handling]
    exact ⟨asks, invariant.noEvents⟩
  change
    DuplicateInvariant id
      ⟨system.ack.afterFsm (rxEngTcpFsm system.ack.fsm).1
          (rxEngTcpFsm system.ack.fsm).2,
        system.ack.fsm.rowBehind id system.row⟩
  rw [rxEngTcpFsm]
  cases fsmState : system.ack.fsm.fsmState with
  | load =>
      have idle : system.ack.fsm.handling id = none := by
        rw [RxEngState.handling, fsmState]
      exact rests idle (invariant.asks.load fsmState)
  | transition =>
      simp only []
      rw [rxEngTransition]
      cases answers : system.ack.fsm.takeAnswers with
      | none =>
          have idle : system.ack.fsm.handling id = none := by
            rw [RxEngState.handling, fsmState]
            simp only []
            rw [answers]
            rfl
          refine rests idle ?_
          rw [List.filterMap_nil, List.append_nil]
          exact invariant.asks
      | some loaded =>
          by_cases isOwn : loaded.tcpRxMetaReg.sessionId = id
          · have handling := handling_of_own fsmState answers isOwn
            have begins := @begun_of_rowBehind id system loaded handling
            refine
              ⟨invariant.asks_handle fsmState answers fun isBegun =>
                (begins isBegun).imp_right fun isNew => ⟨isNew, isOwn⟩, ?_⟩
            intro row isRow
            have noEvents :
                rtEvents id (rxEngHandle loaded).2 = 0 :=
              invariant.noEvents_handle fsmState answers isOwn
                (begins (Option.isSome_iff_exists.2 ⟨row, isRow⟩))
            change row ∈ system.ack.fsm.rowBehind id system.row at isRow
            rw [RxEngState.rowBehind, handling] at isRow
            simp only [] at isRow
            split at isRow
            · rw [← Option.some.inj isRow]
              exact noEvents
            · split at isRow
              · obtain ⟨before, isBefore, rfl⟩ := Option.map_eq_some_iff.1 isRow
                rw [DuplicateRow.handle, noEvents,
                  invariant.noEvents before isBefore]
              · cases isRow
          · have handling := handling_of_other fsmState answers isOwn
            refine rests handling ?_
            exact
              invariant.asks_handle fsmState answers fun isBegun =>
                Or.inl isBegun

/-! ### The table -/

theorem marked_txEngWrite
    (entry : TxSarTableEntry) (req : TxEngToTxSarReq) :
    (entry.txEngWrite req).marked = entry.marked := by
  rw [TxSarTableEntry.txEngWrite]
  split
  · rfl
  · simp only []
    split <;> rfl

theorem marked_update
    {table : TcpSessionID → TxSarTableEntry} {written : TcpSessionID}
    {entry : TxSarTableEntry}
    (same : entry.marked = (table written).marked) :
    (Function.update table written entry id).marked =
      (table id).marked := by
  by_cases isOwn : id = written
  · rw [isOwn, Function.update_self, same]
  · rw [Function.update_of_ne isOwn]

/-- A call of the table that leaves the mark and the machine's requests
alone. -/
theorem afterOther {table : TxSarTableState} {msgs : List TxSarTableMsg}
    (invariant : DuplicateInvariant id system)
    (sameReqs : table.rxEngReqs = system.ack.table.rxEngReqs)
    (noRsp : msgs.filterMap TxSarTableMsg.toRxEng = [])
    (sameMark :
      (table.table id).marked = (system.ack.entry id).marked) :
    DuplicateInvariant id
      { system with ack := system.ack.afterTable table msgs } := by
  refine ⟨?_, invariant.noEvents⟩
  change AsksTxSar _ _ (system.ack.afterTable table msgs).fsm
    table.rxEngReqs
  rw [AckSystem.afterTable, noRsp, List.append_nil, sameReqs]
  refine invariant.asks.map ?_ ?_
  · rintro list _ _ ⟨areWrites, marked⟩
    refine ⟨areWrites, fun begun => ?_⟩
    change
      list.foldl (RxEngToTxSarReq.markedBehind id)
          (table.table id).marked =
        true
    rw [sameMark]
    exact marked begun
  · intro rsp read begun
    obtain ⟨entryMarked, rspMarked⟩ := read begun
    exact ⟨sameMark.trans entryMarked, rspMarked⟩

/-- The table serves a write of the machine. -/
theorem afterRxWrite
    {req : RxEngToTxSarReq} {later : List RxEngToTxSarReq}
    {msgs : List TxSarTableMsg}
    (invariant : DuplicateInvariant id system)
    (rxEngReqs : system.ack.table.rxEngReqs = req :: later)
    (isWrite : req.write = true)
    (noRsp : msgs.filterMap TxSarTableMsg.toRxEng = []) :
    DuplicateInvariant id
      { system with
        ack :=
          system.ack.afterTable
            ({ system.ack.table with rxEngReqs := later }.setEntry
              req.sessionId
              ((system.ack.entry req.sessionId).rxEngWrite req))
            msgs } := by
  have asks := invariant.asks
  rw [rxEngReqs] at asks
  have written :
      (Function.update system.ack.table.table req.sessionId
          ((system.ack.entry req.sessionId).rxEngWrite req) id).marked =
        RxEngToTxSarReq.markedBehind id (system.ack.entry id).marked
          req := by
    rw [RxEngToTxSarReq.markedBehind]
    by_cases isOwn : req.sessionId = id
    · rw [if_pos ⟨isOwn, isWrite⟩, isOwn, Function.update_self]
      rfl
    · rw [if_neg fun both => isOwn both.1,
        Function.update_of_ne (Ne.symm isOwn)]
      rfl
  refine ⟨?_, invariant.noEvents⟩
  change AsksTxSar _ _ (system.ack.afterTable _ msgs).fsm later
  rw [AckSystem.afterTable, noRsp, List.append_nil]
  refine asks.serveWrite isWrite ?_
  rintro rest ⟨areWrites, marked⟩
  refine
    ⟨fun other member =>
      areWrites other (List.mem_cons_of_mem req member), fun begun => ?_⟩
  change
    rest.foldl (RxEngToTxSarReq.markedBehind id)
        (Function.update system.ack.table.table _ _ id).marked =
      true
  rw [written]
  exact marked begun

/-- The table answers the lookup of the machine. -/
theorem afterRxLookup
    {req : RxEngToTxSarReq} {later : List RxEngToTxSarReq}
    (invariant : DuplicateInvariant id system)
    (rxEngReqs : system.ack.table.rxEngReqs = req :: later)
    (isLookup : req.write = false) :
    DuplicateInvariant id
      { system with
        ack :=
          system.ack.afterTable
            { system.ack.table with rxEngReqs := later }
            [.rxEngRsp (system.ack.entry req.sessionId).rxEngRead] } := by
  have asks := invariant.asks
  rw [rxEngReqs] at asks
  refine ⟨?_, invariant.noEvents⟩
  refine
    (asks.serveLookup isLookup (fun list known => known.areWrites)
      fun known begun => ?_).2
  have marked := known.marked begun
  exact ⟨marked, fun isOwn => isOwn ▸ marked⟩

theorem invariant_txSarTable (invariant : DuplicateInvariant id system) :
    DuplicateInvariant id (system.act id .txSarTable) := by
  have call := txSarTable_call system.ack.table
  change
    DuplicateInvariant id
      { system with
        ack :=
          system.ack.afterTable (txSarTable system.ack.table).1
            (txSarTable system.ack.table).2 }
  generalize txSarTable system.ack.table = called at call ⊢
  obtain ⟨table, msgs⟩ := called
  cases call with
  | idle =>
      exact invariant.afterOther rfl rfl rfl
  | @txEngWrite req =>
      exact
        invariant.afterOther rfl (toRxEng_txAppUpd _ _)
          (marked_update (marked_txEngWrite _ _))
  | txEngLookup =>
      exact invariant.afterOther rfl rfl rfl
  | txAppWrite =>
      exact invariant.afterOther rfl rfl (marked_update rfl)
  | rxEngWrite _ rxEngReqs isWrite =>
      exact invariant.afterRxWrite rxEngReqs isWrite rfl
  | rxEngLookup _ rxEngReqs isLookup =>
      exact invariant.afterRxLookup rxEngReqs isLookup

theorem invariant_act (invariant : DuplicateInvariant id system)
    (action : AckAction) :
    DuplicateInvariant id (system.act id action) := by
  cases action with
  | rxEngTcpFsm =>
      exact invariant.invariant_rxEngTcpFsm
  | txSarTable =>
      exact invariant.invariant_txSarTable
  | segment | sttableRsp | rxSarRsp | txEngReq | txAppReq =>
      exact
        ⟨⟨invariant.asks.phase, invariant.asks.loads,
          invariant.asks.flags⟩, invariant.noEvents⟩

end DuplicateInvariant

/-! ## The result -/

/-- No row of the session has come to its third duplicate. -/
def NoneDue (system : DuplicateSystem) : Prop :=
  ∀ row ∈ system.row, row.due = false

section Due

variable {id : TcpSessionID} {system : DuplicateSystem}
variable {action : AckAction}

/-- What is due after a step is due for the duplicate it handles. -/
theorem NoneDue.act (noneDue : NoneDue system)
    (notThird : NoThirdDuplicate id system action) :
    NoneDue (system.act id action) := by
  cases action with
  | rxEngTcpFsm =>
      intro row isRow
      change row ∈ system.ack.fsm.rowBehind id system.row at isRow
      rw [RxEngState.rowBehind] at isRow
      cases handling : system.ack.fsm.handling id with
      | none =>
          rw [handling] at isRow
          exact noneDue row isRow
      | some loaded =>
          rw [handling] at isRow
          simp only [] at isRow
          split at isRow
          · rw [← Option.some.inj isRow]
          · split at isRow
            · obtain ⟨before, isBefore, rfl⟩ :=
                Option.map_eq_some_iff.1 isRow
              rw [DuplicateRow.handle, noneDue before isBefore,
                Bool.false_or]
              by_cases third : 2 ≤ before.inARow
              · rw [notThird loaded handling before isBefore third]
                rfl
              · rw [decide_eq_false third, Bool.and_false]
            · cases isRow
  | txSarTable | segment | sttableRsp | rxSarRsp | txEngReq | txAppReq =>
      exact noneDue

/-- A third duplicate that is handled makes an RT event due. -/
theorem noThirdDuplicate_of_noneDue
    (noneDue : NoneDue (system.act id action)) :
    NoThirdDuplicate id system action := by
  cases action with
  | rxEngTcpFsm =>
      intro loaded handling row isRow third
      by_contra isDuplicate
      rw [Bool.not_eq_false] at isDuplicate
      have flags := isDuplicate
      simp only [RxEngState.isDuplicate, Bool.and_eq_true, beq_iff_eq]
        at flags
      have notNew : ¬ loaded.isNewAck = true := by
        intro isNew
        rw [not_isOldAck_of_isNewAck isNew] at flags
        cases flags.2
      have goesOn :
          row.handle id loaded ∈
            system.ack.fsm.rowBehind id system.row := by
        rw [RxEngState.rowBehind, handling]
        simp only []
        rw [if_neg notNew, if_pos flags.1.1.2, isRow]
        rfl
      have notDue := noneDue _ goesOn
      rw [DuplicateRow.handle, isDuplicate, decide_eq_true third,
        Bool.and_self, Bool.or_true] at notDue
      cases notDue
  | txSarTable | segment | sttableRsp | rxSarRsp | txEngReq | txAppReq =>
      trivial

end Due

/-- Along every run the third duplicate in a row since a new ACK has its one
RT event exactly as long as no such duplicate is handled. -/
theorem fastRetransmits_iff
    (id : TcpSessionID) (table : TcpSessionID → TxSarTableEntry)
    (actions : List AckAction) :
    Along (DuplicateStep id) (FastRetransmits id)
        (DuplicateSystem.start table) actions ↔
      Along (DuplicateStep id) (NoThirdDuplicate id)
        (DuplicateSystem.start table) actions := by
  have initially :
      DuplicateInvariant id (DuplicateSystem.start table) ∧
        NoneDue (DuplicateSystem.start table) :=
    ⟨duplicateInvariant_start id table, fun row isRow => by cases isRow⟩
  -- Under the invariant a row that is due has no RT event at all.
  have notDue {system : DuplicateSystem} {action : AckAction}
      (invariant : DuplicateInvariant id system)
      (retransmits : FastRetransmits id system action) :
      NoneDue (system.act id action) := by
    intro row isRow
    by_contra due
    rw [Bool.not_eq_false] at due
    have one := retransmits row isRow due
    rw [(invariant.invariant_act action).noEvents row isRow] at one
    cases one
  constructor
  · refine
      @along_of_invariant _ _ (DuplicateStep id)
        (fun system => DuplicateInvariant id system ∧ NoneDue system)
        (FastRetransmits id) (NoThirdDuplicate id) ?_ ?_ _ _ initially
    · intro system action next both retransmits stepped
      rw [show next = system.act id action from stepped]
      exact ⟨both.1.invariant_act action, notDue both.1 retransmits⟩
    · intro system action next both retransmits _
      exact noThirdDuplicate_of_noneDue (notDue both.1 retransmits)
  · refine
      @along_of_invariant _ _ (DuplicateStep id)
        (fun system => DuplicateInvariant id system ∧ NoneDue system)
        (NoThirdDuplicate id) (FastRetransmits id) ?_ ?_ _ _ initially
    · intro system action next both notThird stepped
      rw [show next = system.act id action from stepped]
      exact ⟨both.1.invariant_act action, both.2.act notThird⟩
    · intro system action next both notThird _ row isRow due
      rw [both.2.act notThird row isRow] at due
      cases due

/-- An ACK of byte `ackNumber` of an established session, with all its
processing. -/
def acksByte (ackNumber : BitVec 32) : List AckAction :=
  [.segment ⟨0, 0, 0, ⟨1, ackNumber, 0xFFFF, true, false, false, false, 0,
      0⟩⟩,
    .rxEngTcpFsm, .sttableRsp .established, .rxSarRsp ⟨1, 1, 0⟩,
    .txSarTable, .rxEngTcpFsm, .txSarTable]

/-- The bytes from 1000 to 5000 are in flight: an ACK of byte 2000, and then
three duplicates of it. -/
def threeDuplicates : List AckAction :=
  acksByte 2000 ++ acksByte 2000 ++ acksByte 2000 ++ acksByte 2000

/-- Three duplicates in a row, and no RT event. -/
theorem not_fastRetransmits :
    ¬ ∀ (id : TcpSessionID) (table : TcpSessionID → TxSarTableEntry)
        (actions : List AckAction),
      Along (DuplicateStep id) (FastRetransmits id)
        (DuplicateSystem.start table) actions := by
  intro allRetransmit
  let entry : TxSarTableEntry :=
    { ackd := 1000
      notAckd := 5000
      recvWindow := 0xFFFF
      congWindow := 14600
      slowstartThreshold := 0x3FFFF
      appWritten := 5000
      retransCount := 0
      fastRetrans := false
      finIsReady := false
      finIsSent := false
      winShift := 0 }
  let start := DuplicateSystem.start fun _ => entry
  let before := threeDuplicates.dropLast.foldl (DuplicateSystem.act 0) start
  have along :=
    allRetransmit 0 (fun _ => entry)
      (threeDuplicates.dropLast ++ [.txSarTable])
  have run : Run (DuplicateStep 0) start threeDuplicates.dropLast before :=
    @Run.of_act _ _ (DuplicateStep 0) (DuplicateSystem.act 0)
      (fun _ _ => rfl) start threeDuplicates.dropLast
  have retransmits : FastRetransmits 0 before .txSarTable :=
    along.of_run run rfl
  have due : (before.act 0 .txSarTable).row = some ⟨3, true, 0⟩ := by
    decide +kernel
  have one := retransmits _ due rfl
  cases one

end TcpOffload
