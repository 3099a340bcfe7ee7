import TcpOffload.RxEngine.AckWindow
import TcpOffload.RxEngine.SendWindowWrites

/-!
# The congestion window of a session

`RxEngTcpFsm` reads `cong_window` with the lookup of a segment and writes it
back when it handles the segment.  In between the TX engine may set it anew,
on a retransmission or when it initialises the entry.
-/

namespace TcpOffload

open Clocked Guarded

/-! ## The window written for one segment -/

/-- What one segment may make of a congestion window. -/
def Grown (before after : TcpSessionBuffer) : Prop :=
  after = before ∨ after = before + 1 ∨
    after = before + BitVec.ofNat 18 tcpMss

instance (before after : TcpSessionBuffer) :
    Decidable (Grown before after) :=
  inferInstanceAs (Decidable (_ ∨ _ ∨ _))

theorem Grown.refl (window : TcpSessionBuffer) : Grown window window :=
  Or.inl rfl

theorem grown_afterAck (rsp : TxSarToRxEngRsp) (header : TcpHeaderMeta) :
    Grown rsp.congWindow (rsp.afterAck header).congWindow := by
  rw [TxSarToRxEngRsp.afterAck]
  split
  · split <;> exact Grown.refl _
  · change Grown rsp.congWindow rsp.grownCongWindow
    rw [TxSarToRxEngRsp.grownCongWindow]
    split
    · exact Or.inr (Or.inr rfl)
    · split
      · exact Or.inr (Or.inl rfl)
      · exact Grown.refl _

/-- The segments for which the send window is written. -/
def RxEngState.writesTxSar (state : RxEngState) : Bool :=
  if state.rxEngCtrlBits = 1 then
    state.sessionStateReg.takesAck &&
      state.txSarReg.acceptsAck state.tcpRxMetaReg.header.ackNumber
  else if state.rxEngCtrlBits = 2 then
    state.sessionStateReg == .closed || state.sessionStateReg == .synSent
  else if state.rxEngCtrlBits = 3 then
    state.sessionStateReg == .synSent &&
      state.tcpRxMetaReg.header.ackNumber == state.txSarReg.nextByte
  else
    state.rxEngCtrlBits == 5 && state.takesFin

/-- The window written is the one in the register, grown for an ACK. -/
structure WritesWindow
    (state : RxEngState) (req : RxEngToTxSarReq) : Prop where
  writes : state.writesTxSar = true
  grown : Grown state.txSarReg.congWindow req.congWindow

section Handled

variable {state : RxEngState} {req : RxEngToTxSarReq}

theorem TxSarWrite.window (write : TxSarWrite state req) :
    WritesWindow state req := by
  cases write with
  | ack isAck takes inside =>
      refine ⟨?_, grown_afterAck _ _⟩
      rw [RxEngState.writesTxSar, if_pos isAck, takes, inside]
      rfl
  | syn isSyn opens =>
      refine ⟨?_, Grown.refl _⟩
      rw [RxEngState.writesTxSar, isSyn]
      rcases opens with closed | synSent
      · rw [closed]
        rfl
      · rw [synSent]
        rfl
  | synAck isSynAck synSent matching =>
      refine ⟨?_, Grown.refl _⟩
      rw [RxEngState.writesTxSar, isSynAck, synSent, matching]
      simp
  | fin isFin takes =>
      refine ⟨?_, Grown.refl _⟩
      rw [RxEngState.writesTxSar, isFin, takes]
      rfl

/-- A SYN is handled without a lookup: it writes the register as it is. -/
theorem TxSarWrite.same_of_syn (write : TxSarWrite state req)
    (isSyn : state.rxEngCtrlBits = 2) :
    req.congWindow = state.txSarReg.congWindow := by
  cases write with
  | ack isAck =>
      rw [isSyn] at isAck
      cases isAck
  | syn | synAck | fin =>
      rfl

/-- At most one write goes to the table, and it is the segment's own. -/
theorem txSarWrites_window (state : RxEngState) :
    (rxWrites (rxEngHandle state).2).txSarWrites = [] ∨
      ∃ req,
        (rxWrites (rxEngHandle state).2).txSarWrites = [req] ∧
          req.write = true ∧
          req.sessionId = state.tcpRxMetaReg.sessionId ∧
          WritesWindow state req ∧
          (state.rxEngCtrlBits = 2 →
            req.congWindow = state.txSarReg.congWindow) := by
  rcases txSarWrites_cases state with none | ⟨req, one, write⟩
  · exact Or.inl none
  · obtain ⟨isWrite, isOwn⟩ := write.own
    exact
      Or.inr
        ⟨req, one, isWrite, isOwn, write.window, write.same_of_syn⟩

/-- Of the segments without the ACK flag only a SYN is written for. -/
theorem isSyn_of_writesTxSar
    (writes : state.writesTxSar = true)
    (noAck : state.rxEngCtrlBits.getLsbD 0 = false) :
    state.rxEngCtrlBits = 2 := by
  have differs {bits : BitVec 4} (withAck : bits.getLsbD 0 = true) :
      state.rxEngCtrlBits ≠ bits := by
    intro same
    rw [same, withAck] at noAck
    cases noAck
  rw [RxEngState.writesTxSar, if_neg (differs rfl)] at writes
  split at writes
  · assumption
  · rw [if_neg (differs rfl), beq_eq_false_iff_ne.2 (differs rfl)] at writes
    cases writes

end Handled

/-! ## Windows on their way to the table -/

/-- `cong_window` of session `id` behind a request of the RX engine. -/
def RxEngToTxSarReq.windowBehind
    (id : TcpSessionID) (window : TcpSessionBuffer)
    (req : RxEngToTxSarReq) : TcpSessionBuffer :=
  if req.sessionId = id ∧ req.write = true then req.congWindow else window

/-- Each write to session `id` carries a window grown from the one before. -/
def GrownChain (id : TcpSessionID) :
    TcpSessionBuffer → List RxEngToTxSarReq → Prop
  | _, [] => True
  | window, req :: later =>
      (req.sessionId = id ∧ req.write = true →
          Grown window req.congWindow) ∧
        GrownChain id (RxEngToTxSarReq.windowBehind id window req) later

instance GrownChain.decidable (id : TcpSessionID) :
    ∀ (window : TcpSessionBuffer) (reqs : List RxEngToTxSarReq),
      Decidable (GrownChain id window reqs)
  | _, [] => isTrue trivial
  | _, _ :: later =>
      @instDecidableAnd _ _ _ (GrownChain.decidable id _ later)

/-- No write to session `id` is among the requests. -/
def NoWrites (id : TcpSessionID) (reqs : List RxEngToTxSarReq) : Prop :=
  ∀ req ∈ reqs, req.write = true → req.sessionId ≠ id

instance (id : TcpSessionID) (reqs : List RxEngToTxSarReq) :
    Decidable (NoWrites id reqs) :=
  inferInstanceAs (Decidable (∀ req ∈ reqs, _))

section Chains

variable {id : TcpSessionID} {window : TcpSessionBuffer}
variable {first second : List RxEngToTxSarReq}

theorem grownChain_append :
    GrownChain id window (first ++ second) ↔
      GrownChain id window first ∧
        GrownChain id
          (first.foldl (RxEngToTxSarReq.windowBehind id) window)
          second := by
  induction first generalizing window with
  | nil =>
      exact (and_iff_right trivial).symm
  | cons req later inductionHypothesis =>
      rw [List.cons_append, GrownChain, inductionHypothesis, GrownChain,
        and_assoc, List.foldl_cons]

theorem noWrites_append (noFirst : NoWrites id first)
    (noSecond : NoWrites id second) : NoWrites id (first ++ second) := by
  intro req member
  rcases List.mem_append.1 member with isFirst | isSecond
  · exact noFirst req isFirst
  · exact noSecond req isSecond

theorem NoWrites.tail {req : RxEngToTxSarReq}
    (none : NoWrites id (req :: first)) : NoWrites id first :=
  fun other member => none other (List.mem_cons_of_mem req member)

end Chains

/-! ## Reads of a window and what happens to it since -/

theorem TxSarTableEntry.txEngWrite_congWindow
    (entry : TxSarTableEntry) (req : TxEngToTxSarReq) :
    (entry.txEngWrite req).congWindow =
      if (req.retransReq || req.init) = true then
        BitVec.ofNat 18 tcpMssTenTimes
      else
        entry.congWindow := by
  rw [txEngWrite]
  cases req.retransReq <;> cases req.init <;> rfl

namespace TxSarTableState

/-- The write of the RX engine that the next call serves. -/
def nextRxWrite (table : TxSarTableState) : Option RxEngToTxSarReq :=
  if table.txEngReqs = [] ∧ table.txAppReqs = [] then
    table.rxEngReqs.head?.filter RxEngToTxSarReq.write
  else
    none

end TxSarTableState

/-- A write of the TX engine that sets `cong_window` anew: for a
retransmission, or for a new connection. -/
def TxEngToTxSarReq.setsWindow (req : TxEngToTxSarReq) : Bool :=
  req.write && (req.retransReq || req.init)

/-- Beside the machine and the table: the session whose window the machine
read last, and whether the TX engine has set that window since. -/
structure CongSystem where
  ack : AckSystem
  lastRead : Option TcpSessionID
  overtaken : Bool

namespace CongSystem

def start (table : TcpSessionID → TxSarTableEntry) : CongSystem where
  ack := AckSystem.start table
  lastRead := none
  overtaken := false

/-- What the next call of the table does to a window or its reader. -/
def record (system : CongSystem) : CongSystem :=
  match system.ack.table.txEngReqs, system.ack.table.txAppReqs,
    system.ack.table.rxEngReqs with
  | req :: _, _, _ =>
      if req.setsWindow && system.lastRead == some req.sessionId then
        { system with overtaken := true }
      else
        system
  | [], [], req :: _ =>
      if req.write then
        system
      else
        { system with lastRead := some req.sessionId, overtaken := false }
  | _, _, _ => system

def act (system : CongSystem) : AckAction → CongSystem
  | .txSarTable =>
      { system.record with ack := system.ack.act .txSarTable }
  | action => { system with ack := system.ack.act action }

/-- The window of session `id` was read before the TX engine set it. -/
def ReadIsOld (system : CongSystem) (id : TcpSessionID) : Prop :=
  system.lastRead = some id ∧ system.overtaken = true

instance (system : CongSystem) (id : TcpSessionID) :
    Decidable (system.ReadIsOld id) :=
  inferInstanceAs (Decidable (_ ∧ _))

/-- `cong_window` of a session behind the writes of the machine. -/
def windowBehind (system : CongSystem) (id : TcpSessionID) :
    TcpSessionBuffer :=
  system.ack.table.rxEngReqs.foldl (RxEngToTxSarReq.windowBehind id)
    (system.ack.entry id).congWindow

end CongSystem

def CongStep
    (system : CongSystem) (action : AckAction) (next : CongSystem) :
    Prop :=
  next = system.act action

/-- What the RX engine stores in the entry of a session: a window that was
not computed from one that the TX engine has set since, and that is the
stored one plus 0, 1 or a segment. -/
structure StoresWindow
    (system : CongSystem) (req : RxEngToTxSarReq)
    (entry : TxSarTableEntry) : Prop where
  notOld : ¬ system.ReadIsOld req.sessionId
  grown : Grown entry.congWindow (entry.rxEngWrite req).congWindow
  sameThreshold :
    (entry.rxEngWrite req).slowstartThreshold = entry.slowstartThreshold

theorem storesWindow_iff
    (system : CongSystem) (req : RxEngToTxSarReq)
    (entry : TxSarTableEntry) :
    ¬ system.ReadIsOld req.sessionId ∧
        Grown entry.congWindow req.congWindow ↔
      StoresWindow system req entry :=
  ⟨fun stores => ⟨stores.1, stores.2, rfl⟩,
    fun stores => ⟨stores.notOld, stores.grown⟩⟩

instance (system : CongSystem) (req : RxEngToTxSarReq)
    (entry : TxSarTableEntry) :
    Decidable (StoresWindow system req entry) :=
  decidable_of_iff _ (storesWindow_iff system req entry)

def StoresGrown (system : CongSystem) : AckAction → Prop
  | .txSarTable =>
      ∀ req ∈ system.ack.table.nextRxWrite,
        StoresWindow system req (system.ack.entry req.sessionId)
  | _ => True

instance (system : CongSystem) :
    ∀ action, Decidable (StoresGrown system action)
  | .txSarTable => inferInstanceAs (Decidable (∀ req ∈ _, _))
  | .rxEngTcpFsm | .segment _ | .sttableRsp _ | .rxSarRsp _
  | .txEngReq _ | .txAppReq _ => isTrue trivial

/-- What keeps the windows.  When a segment is handled for which the send
window is written, the TX engine has not set the window since it was read; a
SYN, for which it is not read, finds a register that fits.  When the TX
engine sets a window, no write computed from the old one is on its way. -/
def WindowSettled (system : CongSystem) : AckAction → Prop
  | .rxEngTcpFsm =>
      system.ack.fsm.fsmState = .transition →
        ∀ loaded ∈ system.ack.fsm.takeAnswers,
          loaded.writesTxSar = true →
            ¬ system.ReadIsOld loaded.tcpRxMetaReg.sessionId ∧
              (loaded.rxEngCtrlBits = 2 →
                Grown
                  (system.windowBehind loaded.tcpRxMetaReg.sessionId)
                  loaded.txSarReg.congWindow)
  | .txSarTable =>
      ∀ req ∈ system.ack.table.txEngReqs.head?,
        req.setsWindow = true →
          GrownChain req.sessionId (BitVec.ofNat 18 tcpMssTenTimes)
              system.ack.table.rxEngReqs ∧
            (system.lastRead = some req.sessionId →
              NoWrites req.sessionId system.ack.table.rxEngReqs)
  | _ => True

instance (system : CongSystem) :
    ∀ action, Decidable (WindowSettled system action)
  | .rxEngTcpFsm =>
      inferInstanceAs (Decidable (_ = _ → ∀ loaded ∈ _, _ = _ → _ ∧ _))
  | .txSarTable =>
      inferInstanceAs (Decidable (∀ req ∈ _, _ = _ → _ ∧ _))
  | .segment _ | .sttableRsp _ | .rxSarRsp _ | .txEngReq _
  | .txAppReq _ => isTrue trivial

/-! ## The invariant -/

/-- Writes whose windows grow one from the other, in every session. -/
def GrowingWrites
    (table : TcpSessionID → TxSarTableEntry)
    (writes : List RxEngToTxSarReq) : Prop :=
  (∀ req ∈ writes, req.write = true) ∧
    ∀ id, GrownChain id (table id).congWindow writes

/-- An answer is the last window read, and still the one in the table unless
the TX engine has set it. -/
def WindowRead (system : CongSystem)
    (inHand : TcpSessionID) (rsp : TxSarToRxEngRsp) : Prop :=
  system.lastRead = some inHand ∧
    (system.overtaken = false →
      rsp.congWindow = (system.ack.entry inHand).congWindow)

structure CongInvariant (system : CongSystem) : Prop where
  asks :
    AsksTxSar (GrowingWrites system.ack.table.table) (WindowRead system)
      system.ack.fsm system.ack.table.rxEngReqs
  noOldWrites :
    ∀ id, system.ReadIsOld id → NoWrites id system.ack.table.rxEngReqs

theorem congInvariant_start (table : TcpSessionID → TxSarTableEntry) :
    CongInvariant (CongSystem.start table) where
  asks :=
    AsksTxSar.mk
      (Lookup.Phase.idle ⟨fun req member => (by cases member), fun _ =>
        trivial⟩)
      (fun _ => rfl) (fun transition => by cases transition)
  noOldWrites := fun _ old => by cases old.1

/-- An entry written with the same window. -/
theorem congWindow_update
    {table : TcpSessionID → TxSarTableEntry} {written : TcpSessionID}
    {entry : TxSarTableEntry}
    (same : entry.congWindow = (table written).congWindow)
    (id : TcpSessionID) :
    (Function.update table written entry id).congWindow =
      (table id).congWindow := by
  by_cases isOwn : id = written
  · rw [isOwn, Function.update_self, same]
  · rw [Function.update_of_ne isOwn]

namespace CongInvariant

variable {system : CongSystem}

/-- Handling a segment adds what it writes. -/
theorem handle {loaded : RxEngState}
    (invariant : CongInvariant system)
    (transition : system.ack.fsm.fsmState = .transition)
    (answers : system.ack.fsm.takeAnswers = some loaded)
    (guarded : WindowSettled system .rxEngTcpFsm) :
    CongInvariant
      { system with
        ack :=
          system.ack.afterFsm (rxEngHandle loaded).1
            (rxEngHandle loaded).2 } := by
  have settled := guarded transition loaded answers
  have took := takesAnswers answers
  obtain ⟨flags, sentEq⟩ := invariant.asks.flags transition
  have own {req : RxEngToTxSarReq} {id : TcpSessionID}
      (isOwn : req.sessionId = loaded.tcpRxMetaReg.sessionId)
      {window : TcpSessionBuffer}
      (fits :
        loaded.tcpRxMetaReg.sessionId = id →
          Grown window req.congWindow) :
      GrownChain id window [req] :=
    ⟨fun both => fits (isOwn.symm.trans both.1), trivial⟩
  constructor
  · refine invariant.asks.handle answers ?_ ?_
    · rintro sent ⟨writesOnly, growing⟩
      rcases txSarWrites_window loaded with
        none | ⟨req, one, isWrite, isOwn, window, same⟩
      · rw [none, List.append_nil]
        exact ⟨writesOnly, growing⟩
      · have noAck : loaded.rxEngCtrlBits.getLsbD 0 = false := by
          rw [took.ctrlBits, flags, TcpHeaderMeta.ctrlBits_ack, ← sentEq,
            sent]
        have isSyn := isSyn_of_writesTxSar window.writes noAck
        have fits := (settled window.writes).2 isSyn
        rw [← same isSyn] at fits
        rw [one]
        refine ⟨fun write member => ?_, fun id => ?_⟩
        · rcases List.mem_append.1 member with earlier | last
          · exact writesOnly write earlier
          · rw [List.mem_singleton.1 last]
            exact isWrite
        · refine grownChain_append.2 ⟨growing id, own isOwn ?_⟩
          rintro rfl
          exact fits
    · rintro sent noReqs ⟨read, stillThere⟩
      rcases txSarWrites_window loaded with
        none | ⟨req, one, isWrite, isOwn, window, _⟩
      · rw [none]
        exact ⟨fun write member => (by cases member), fun _ => trivial⟩
      · rw [one]
        refine ⟨fun write member => ?_, fun id => own isOwn ?_⟩
        · rw [List.mem_singleton.1 member]
          exact isWrite
        · rintro rfl
          have notOld := (settled window.writes).1
          have current : system.overtaken = false :=
            Bool.eq_false_iff.2 fun overtaken => notOld ⟨read, overtaken⟩
          have grown := window.grown
          rw [stillThere current] at grown
          exact grown
  · intro id old
    have written :
        NoWrites id
          ((rxEngHandle loaded).2.filterMap RxEngMsg.toTxSar) := by
      rw [(rxEngHandle_ownWrites loaded).txSarReqs]
      rcases txSarWrites_window loaded with
        none | ⟨req, one, _, isOwn, window, _⟩
      · rw [none]
        exact fun write member => by cases member
      · rw [one]
        intro write member _ isId
        rw [List.mem_singleton.1 member, isOwn] at isId
        rw [isId] at settled
        exact (settled window.writes).1 old
    exact noWrites_append (invariant.noOldWrites id old) written

/-- A call of the table after which the windows and what is known of their
readers are as before. -/
theorem afterOther
    {table : TxSarTableState} {msgs : List TxSarTableMsg}
    (invariant : CongInvariant system)
    (sameReqs : table.rxEngReqs = system.ack.table.rxEngReqs)
    (noRsp : msgs.filterMap TxSarTableMsg.toRxEng = [])
    (sameWindows :
      ∀ id,
        (table.table id).congWindow = (system.ack.entry id).congWindow) :
    CongInvariant
      { system with ack := system.ack.afterTable table msgs } := by
  have sameFsm :
      (system.ack.afterTable table msgs).fsm = system.ack.fsm := by
    rw [AckSystem.afterTable, noRsp, List.append_nil]
  constructor
  · change AsksTxSar _ _ (system.ack.afterTable table msgs).fsm
      table.rxEngReqs
    rw [sameFsm, sameReqs]
    refine invariant.asks.map ?_ ?_
    · rintro list _ _ ⟨writesOnly, growing⟩
      refine ⟨writesOnly, fun id => ?_⟩
      change GrownChain id (table.table id).congWindow list
      rw [sameWindows]
      exact growing id
    · rintro rsp ⟨read, stillThere⟩
      refine ⟨read, fun current => ?_⟩
      change rsp.congWindow = (table.table _).congWindow
      rw [sameWindows]
      exact stillThere current
  · intro id old
    change NoWrites id table.rxEngReqs
    rw [sameReqs]
    exact invariant.noOldWrites id old

/-- The TX engine sets a window. -/
theorem afterSetsWindow
    {req : TxEngToTxSarReq} {later : List TxEngToTxSarReq}
    {msgs : List TxSarTableMsg}
    (invariant : CongInvariant system)
    (txEngReqs : system.ack.table.txEngReqs = req :: later)
    (sets : req.setsWindow = true)
    (guarded : WindowSettled system .txSarTable)
    (noRsp : msgs.filterMap TxSarTableMsg.toRxEng = []) :
    CongInvariant
      { system.record with
        ack :=
          system.ack.afterTable
            ({ system.ack.table with txEngReqs := later }.setEntry
              req.sessionId
              ((system.ack.entry req.sessionId).txEngWrite req))
            msgs } := by
  obtain ⟨growingAnew, noOld⟩ :=
    guarded req (by rw [txEngReqs]; rfl) sets
  have recorded :
      system.record =
        if system.lastRead == some req.sessionId then
          { system with overtaken := true }
        else
          system := by
    rw [CongSystem.record]
    simp only [txEngReqs, sets, Bool.true_and]
  have setHere :
      ((system.ack.entry req.sessionId).txEngWrite req).congWindow =
        BitVec.ofNat 18 tcpMssTenTimes := by
    rw [TxEngToTxSarReq.setsWindow, Bool.and_eq_true] at sets
    rw [TxSarTableEntry.txEngWrite_congWindow, if_pos sets.2]
  have windows (id : TcpSessionID) :
      (Function.update system.ack.table.table req.sessionId
          ((system.ack.entry req.sessionId).txEngWrite req)
            id).congWindow =
        if id = req.sessionId then
          BitVec.ofNat 18 tcpMssTenTimes
        else
          (system.ack.entry id).congWindow := by
    by_cases isOwn : id = req.sessionId
    · rw [if_pos isOwn, isOwn, Function.update_self, setHere]
    · rw [if_neg isOwn, Function.update_of_ne isOwn]
      rfl
  have readers :
      system.record.lastRead = system.lastRead ∧
        system.record.overtaken =
          (system.overtaken ||
            system.lastRead == some req.sessionId) := by
    rw [recorded]
    cases system.lastRead == some req.sessionId <;> simp
  obtain ⟨sameRead, overtaken⟩ := readers
  constructor
  · change
      AsksTxSar _ _ (system.ack.afterTable _ msgs).fsm
        system.ack.table.rxEngReqs
    rw [AckSystem.afterTable, noRsp, List.append_nil]
    refine invariant.asks.map ?_ ?_
    · rintro list rest all ⟨writesOnly, growing⟩
      refine ⟨writesOnly, fun id => ?_⟩
      change
        GrownChain id
          (Function.update system.ack.table.table _ _ id).congWindow list
      rw [windows]
      split
      · rename_i isOwn
        rw [all, ← isOwn] at growingAnew
        exact (grownChain_append.1 growingAnew).1
      · exact growing id
    · rintro rsp ⟨read, stillThere⟩
      refine ⟨sameRead.trans read, fun current => ?_⟩
      change system.record.overtaken = false at current
      rw [overtaken, Bool.or_eq_false_iff, beq_eq_false_iff_ne]
        at current
      have notOwn :
          ¬ system.ack.fsm.tcpRxMetaReg.sessionId = req.sessionId := by
        intro isOwn
        rw [read, isOwn] at current
        exact current.2 rfl
      change
        rsp.congWindow =
          (Function.update system.ack.table.table _ _ _).congWindow
      rw [windows, if_neg notOwn]
      exact stillThere current.1
  · rintro id ⟨read, old⟩
    change system.record.lastRead = some id at read
    change system.record.overtaken = true at old
    rw [sameRead] at read
    rw [overtaken, Bool.or_eq_true, beq_iff_eq] at old
    change NoWrites id system.ack.table.rxEngReqs
    rcases old with earlier | isOwn
    · exact invariant.noOldWrites id ⟨read, earlier⟩
    · have same : id = req.sessionId :=
        Option.some.inj (read.symm.trans isOwn)
      rw [same]
      exact noOld isOwn

/-- The table serves a write of the machine. -/
theorem afterRxWrite
    {req : RxEngToTxSarReq} {later : List RxEngToTxSarReq}
    {msgs : List TxSarTableMsg}
    (invariant : CongInvariant system)
    (rxEngReqs : system.ack.table.rxEngReqs = req :: later)
    (isWrite : req.write = true)
    (noRsp : msgs.filterMap TxSarTableMsg.toRxEng = []) :
    CongInvariant
        { system with
          ack :=
            system.ack.afterTable
              ({ system.ack.table with rxEngReqs := later }.setEntry
                req.sessionId
                ((system.ack.entry req.sessionId).rxEngWrite req))
              msgs } ∧
      StoresWindow system req (system.ack.entry req.sessionId) := by
  have asks := invariant.asks
  have noOldWrites := invariant.noOldWrites
  rw [rxEngReqs] at asks noOldWrites
  have windows (id : TcpSessionID) :
      (Function.update system.ack.table.table req.sessionId
          ((system.ack.entry req.sessionId).rxEngWrite req)
            id).congWindow =
        RxEngToTxSarReq.windowBehind id (system.ack.entry id).congWindow
          req := by
    rw [RxEngToTxSarReq.windowBehind]
    by_cases isOwn : req.sessionId = id
    · rw [if_pos ⟨isOwn, isWrite⟩, isOwn, Function.update_self]
      rfl
    · rw [if_neg fun both => isOwn both.1,
        Function.update_of_ne (Ne.symm isOwn)]
      rfl
  refine
    ⟨⟨?_, fun id old => (noOldWrites id old).tail⟩, ?_, ?_, rfl⟩
  · change
      AsksTxSar _ _ (system.ack.afterTable _ msgs).fsm later
    rw [AckSystem.afterTable, noRsp, List.append_nil]
    refine asks.serveWrite isWrite ?_
    rintro rest ⟨writesOnly, growing⟩
    refine
      ⟨fun write member =>
        writesOnly write (List.mem_cons_of_mem req member), fun id => ?_⟩
    change
      GrownChain id
        (Function.update system.ack.table.table _ _ id).congWindow rest
    rw [windows]
    exact (growing id).2
  · intro old
    exact noOldWrites _ old req List.mem_cons_self isWrite rfl
  · obtain ⟨rest, _, growing⟩ := asks.phase.of_write fun isLookup => by
      rw [isLookup] at isWrite
      cases isWrite
    exact (growing req.sessionId).1 ⟨rfl, isWrite⟩

/-- The table answers the lookup of the machine. -/
theorem afterRxLookup
    {req : RxEngToTxSarReq} {later : List RxEngToTxSarReq}
    (invariant : CongInvariant system)
    (rxEngReqs : system.ack.table.rxEngReqs = req :: later)
    (isLookup : req.write = false) :
    CongInvariant
      { ack :=
          system.ack.afterTable
            { system.ack.table with rxEngReqs := later }
            [.rxEngRsp (system.ack.entry req.sessionId).rxEngRead]
        lastRead := some req.sessionId
        overtaken := false } := by
  have asks := invariant.asks
  rw [rxEngReqs] at asks
  have answered :
      later = [] ∧
        AsksTxSar (GrowingWrites system.ack.table.table)
          (WindowRead
            { ack :=
                system.ack.afterTable
                  { system.ack.table with rxEngReqs := later }
                  [.rxEngRsp
                    (system.ack.entry req.sessionId).rxEngRead]
              lastRead := some req.sessionId
              overtaken := false })
          { system.ack.fsm with
            txSarRsps :=
              system.ack.fsm.txSarRsps ++
                [(system.ack.entry req.sessionId).rxEngRead] }
          later :=
    asks.serveLookup isLookup (fun list known => known.1)
      fun _ => ⟨rfl, fun _ => rfl⟩
  exact ⟨answered.2, fun id old => by cases old.2⟩

/-- A call of the table keeps the invariant and stores only windows grown
from those it holds. -/
theorem txSarTable
    (invariant : CongInvariant system)
    (guarded : WindowSettled system .txSarTable) :
    CongInvariant (system.act .txSarTable) ∧
      StoresGrown system .txSarTable := by
  change
    CongInvariant
        { system.record with
          ack :=
            system.ack.afterTable
              (TcpOffload.txSarTable system.ack.table).1
              (TcpOffload.txSarTable system.ack.table).2 } ∧
      _
  cases txEngReqs : system.ack.table.txEngReqs with
  | cons req later =>
      have stores : StoresGrown system .txSarTable := by
        intro write isNext
        rw [TxSarTableState.nextRxWrite, txEngReqs] at isNext
        cases isNext
      refine ⟨?_, stores⟩
      by_cases sets : req.setsWindow = true
      · have isWrite : req.write = true := by
          rw [TxEngToTxSarReq.setsWindow, Bool.and_eq_true] at sets
          exact sets.1
        simp only [TcpOffload.txSarTable, txEngReqs, isWrite, if_true]
        exact
          invariant.afterSetsWindow txEngReqs sets guarded
            (toRxEng_txAppUpd _ _)
      · have recorded : system.record = system := by
          rw [CongSystem.record]
          simp only [txEngReqs, sets, Bool.false_and]
          rfl
        rw [recorded]
        simp only [TcpOffload.txSarTable, txEngReqs]
        by_cases isWrite : req.write = true
        · rw [if_pos isWrite]
          refine invariant.afterOther rfl (toRxEng_txAppUpd _ _) fun id => ?_
          have keeps : ¬ (req.retransReq || req.init) = true := by
            intro either
            rw [TxEngToTxSarReq.setsWindow, isWrite, either] at sets
            exact sets rfl
          have kept :
              ((system.ack.entry req.sessionId).txEngWrite
                req).congWindow =
                (system.ack.entry req.sessionId).congWindow := by
            rw [TxSarTableEntry.txEngWrite_congWindow, if_neg keeps]
          exact congWindow_update kept id
        · rw [if_neg isWrite]
          exact invariant.afterOther rfl rfl fun _ => rfl
  | nil =>
      cases txAppReqs : system.ack.table.txAppReqs with
      | cons req later =>
          have recorded : system.record = system := by
            rw [CongSystem.record]
            simp only [txEngReqs, txAppReqs]
          rw [recorded]
          simp only [TcpOffload.txSarTable, txEngReqs, txAppReqs]
          have kept :
              ((system.ack.entry req.sessionId).txAppWrite
                req).congWindow =
                (system.ack.entry req.sessionId).congWindow :=
            rfl
          refine
            ⟨invariant.afterOther rfl rfl fun id =>
              congWindow_update kept id, ?_⟩
          intro write isNext
          rw [TxSarTableState.nextRxWrite, txAppReqs] at isNext
          simp at isNext
      | nil =>
          have next :
              system.ack.table.nextRxWrite =
                system.ack.table.rxEngReqs.head?.filter
                  RxEngToTxSarReq.write :=
            if_pos ⟨txEngReqs, txAppReqs⟩
          cases rxEngReqs : system.ack.table.rxEngReqs with
          | nil =>
              have recorded : system.record = system := by
                rw [CongSystem.record]
                simp only [txEngReqs, txAppReqs, rxEngReqs]
              rw [recorded]
              simp only [TcpOffload.txSarTable, txEngReqs, txAppReqs,
                rxEngReqs]
              refine
                ⟨invariant.afterOther rfl rfl fun _ => rfl, ?_⟩
              intro write isNext
              rw [next, rxEngReqs] at isNext
              cases isNext
          | cons req later =>
              rw [rxEngReqs, List.head?_cons, Option.filter] at next
              by_cases isWrite : req.write = true
              · have recorded : system.record = system := by
                  rw [CongSystem.record]
                  simp only [txEngReqs, txAppReqs, rxEngReqs, isWrite,
                    if_true]
                rw [recorded]
                simp only [TcpOffload.txSarTable, txEngReqs, txAppReqs,
                  rxEngReqs, isWrite, if_true]
                obtain ⟨kept, stores⟩ :=
                  @afterRxWrite _ _ _
                    [.txAppUpd
                      ⟨req.sessionId, req.ackd.setWidth 18, false⟩]
                    invariant rxEngReqs isWrite rfl
                simp only [txEngReqs, txAppReqs] at kept
                refine ⟨kept, ?_⟩
                intro write isNext
                rw [next, if_pos isWrite] at isNext
                cases isNext
                exact stores
              · have isLookup := Bool.eq_false_iff.2 isWrite
                have recorded :
                    system.record =
                      { system with
                        lastRead := some req.sessionId
                        overtaken := false } := by
                  rw [CongSystem.record]
                  simp only [txEngReqs, txAppReqs, rxEngReqs, isLookup,
                    Bool.false_eq_true, if_false]
                rw [recorded]
                simp only [TcpOffload.txSarTable, txEngReqs, txAppReqs,
                  rxEngReqs, isLookup, Bool.false_eq_true, if_false]
                have answered :=
                  invariant.afterRxLookup rxEngReqs isLookup
                simp only [txEngReqs, txAppReqs] at answered
                refine ⟨answered, ?_⟩
                intro write isNext
                rw [next, if_neg isWrite] at isNext
                cases isNext

/-- A step keeps the invariant and stores only windows grown from those in
the table. -/
theorem step {next : CongSystem} {action : AckAction}
    (invariant : CongInvariant system)
    (guarded : WindowSettled system action)
    (stepped : CongStep system action next) :
    CongInvariant next ∧ StoresGrown system action := by
  obtain rfl := stepped
  cases action with
  | rxEngTcpFsm =>
      refine ⟨?_, trivial⟩
      change
        CongInvariant
          { system with
            ack :=
              system.ack.afterFsm (rxEngTcpFsm system.ack.fsm).1
                (rxEngTcpFsm system.ack.fsm).2 }
      cases fsmState : system.ack.fsm.fsmState with
      | load =>
          have loads :
              rxEngTcpFsm system.ack.fsm = rxEngLoad system.ack.fsm := by
            rw [rxEngTcpFsm, fsmState]
          rw [loads]
          refine ⟨invariant.asks.load fsmState, fun id old => ?_⟩
          refine noWrites_append (invariant.noOldWrites id old) ?_
          rw [rxEngLoad]
          cases system.ack.fsm.metaDatas with
          | nil =>
              exact fun req member => by cases member
          | cons segment later =>
              intro req member isWrite
              have asked :
                  req = RxEngToTxSarReq.lookup segment.sessionId := by
                change
                  req ∈
                    (rxLookups segment).filterMap RxEngMsg.toTxSar
                  at member
                rw [rxLookups] at member
                split at member
                · exact List.mem_singleton.1 member
                · cases member
              rw [asked] at isWrite
              cases isWrite
      | transition =>
          have handles :
              rxEngTcpFsm system.ack.fsm =
                rxEngTransition system.ack.fsm := by
            rw [rxEngTcpFsm, fsmState]
          rw [handles, rxEngTransition]
          cases answers : system.ack.fsm.takeAnswers with
          | none =>
              simp only [AckSystem.afterFsm, List.filterMap_nil,
                List.append_nil]
              exact ⟨invariant.asks, invariant.noOldWrites⟩
          | some loaded =>
              exact invariant.handle fsmState answers guarded
  | txSarTable =>
      exact invariant.txSarTable guarded
  | segment | sttableRsp | rxSarRsp | txEngReq | txAppReq =>
      exact
        ⟨⟨⟨invariant.asks.phase, invariant.asks.loads,
          invariant.asks.flags⟩, invariant.noOldWrites⟩, trivial⟩

end CongInvariant

/-- In every run in which no window is set between its read and the write
computed from it, and no SYN stores a register that does not fit, the RX
engine stores only windows grown from the ones in the table. -/
theorem congWindow_stored
    (table : TcpSessionID → TxSarTableEntry) (actions : List AckAction)
    (settled :
      Along CongStep WindowSettled (CongSystem.start table) actions) :
    Along CongStep StoresGrown (CongSystem.start table) actions :=
  @along_of_invariant _ _ CongStep CongInvariant WindowSettled StoresGrown
    (fun _ _ _ invariant guarded stepped =>
      (invariant.step guarded stepped).1)
    (fun _ _ _ invariant guarded stepped =>
      (invariant.step guarded stepped).2)
    _ _ (congInvariant_start table) settled

/-- A session with a grown window and 1000 bytes in flight. -/
def grownEntry : TxSarTableEntry :=
  { sendingEntry with congWindow := 30000 }

def newAck : RxEngFsmMetaData :=
  ⟨0, 0, 0, ⟨7000, 2000, 0xFFFF, true, false, false, false, 0, 0⟩⟩

/-- An ACK is looked up; the retransmission request of the TX engine is
served either before the lookup or behind it. -/
def ackExchange (resetFirst : Bool) : List AckAction :=
  let reset : List AckAction :=
    [.txEngReq (TxEngToTxSarReq.retrans 0 2920), .txSarTable]
  let lookup : List AckAction :=
    [.segment newAck, .rxEngTcpFsm, .txSarTable]
  (if resetFirst then reset ++ lookup else lookup ++ reset) ++
    [.sttableRsp .established, .rxSarRsp ⟨7000, 7000, 2⟩, .rxEngTcpFsm,
      .txSarTable]

theorem congWindow_stored_resetFirst :
    Along CongStep StoresGrown (CongSystem.start fun _ => grownEntry)
      (ackExchange true) :=
  congWindow_stored (fun _ => grownEntry) (ackExchange true)
    (along_iff_enabled.2 (by decide +kernel))

/-- The window read before the reset is stored over it. -/
theorem not_storesGrown_overtaken :
    ¬ Along CongStep StoresGrown
        (CongSystem.start fun _ => grownEntry) (ackExchange false) := by
  intro along
  have enabled := along_iff_enabled.1 along
  revert enabled
  decide +kernel

end TcpOffload
