import TcpOffload.RxEngine.CongWindow

/-!
# Growing the congestion window

The window that `RxEngTcpFsm` writes for an ACK is computed from the window
and the threshold that it read for this ACK.  The sums are those of the
natural numbers: no register wraps.
-/

namespace TcpOffload

open Clocked Guarded

/-! ## One ACK -/

namespace TxSarTableEntry

/-- An ACK that is not a duplicate: its number is not `ackd`, or nothing is
in flight. -/
def IsNewAck (entry : TxSarTableEntry) (header : TcpHeaderMeta) : Prop :=
  header.ctrlBits = 1 ∧
    (header.ackNumber = entry.ackd → entry.ackd = entry.notAckd)

/-- A segment in slow start; in congestion avoidance a byte, up to the limit
of the window. -/
def growth (entry : TxSarTableEntry) : Nat :=
  if entry.congWindow.toNat + tcpMss ≤ entry.slowstartThreshold.toNat then
    tcpMss
  else if entry.congWindow.toNat ≤ congestionWindowMax then
    1
  else
    0

/-- The grown window fits the register. -/
theorem growth_fits (entry : TxSarTableEntry) :
    entry.congWindow.toNat + entry.growth ≤ 2 ^ 18 - 1 := by
  have threshold := entry.slowstartThreshold.isLt
  have window := entry.congWindow.isLt
  have limit : congestionWindowMax = 260096 := rfl
  rw [growth]
  split
  · omega
  · split <;> omega

/-- The signed comparison of the machine is the one of `growth`. -/
theorem grownCongWindow_toNat (entry : TxSarTableEntry) :
    entry.rxEngRead.grownCongWindow.toNat =
      entry.congWindow.toNat + entry.growth := by
  have fits := entry.growth_fits
  have inSlowStart :
      (entry.congWindow.toNat : Int) ≤
          (entry.slowstartThreshold.toNat : Int) - (tcpMss : Int) ↔
        entry.congWindow.toNat + tcpMss ≤
          entry.slowstartThreshold.toNat := by
    omega
  change
    (if (entry.congWindow.toNat : Int) ≤
        (entry.slowstartThreshold.toNat : Int) - (tcpMss : Int) then
      entry.congWindow + BitVec.ofNat 18 tcpMss
    else if entry.congWindow.toNat ≤ congestionWindowMax then
      entry.congWindow + 1
    else
      entry.congWindow).toNat = _
  simp only [inSlowStart]
  rw [growth] at fits ⊢
  split
  · rename_i slowStart
    rw [if_pos slowStart] at fits
    rw [BitVec.toNat_add]
    exact Nat.mod_eq_of_lt (Nat.lt_of_le_pred (by decide) fits)
  · rename_i noSlowStart
    rw [if_neg noSlowStart] at fits
    split
    · rename_i belowLimit
      rw [if_pos belowLimit] at fits
      rw [BitVec.toNat_add]
      exact Nat.mod_eq_of_lt (Nat.lt_of_le_pred (by decide) fits)
    · rfl

end TxSarTableEntry

/-- The window written for a segment with the ACK flag, by the entry read
for it. -/
structure GrowsWithin
    (header : TcpHeaderMeta) (read : TxSarTableEntry)
    (written : TcpSessionBuffer) : Prop where
  notLess : read.congWindow.toNat ≤ written.toNat
  noWrap : read.congWindow.toNat + read.growth ≤ 2 ^ 18 - 1
  newAck :
    read.IsNewAck header →
      written.toNat = read.congWindow.toNat + read.growth
  otherAck : ¬ read.IsNewAck header → written = read.congWindow

section Handled

variable {state : RxEngState} {req : RxEngToTxSarReq}
variable {read : TxSarTableEntry}

theorem growsWithin_same {header : TcpHeaderMeta}
    (notNew : ¬ read.IsNewAck header) :
    GrowsWithin header read read.congWindow where
  notLess := Nat.le_refl _
  noWrap := read.growth_fits
  newAck := fun isNew => absurd isNew notNew
  otherAck := fun _ => rfl

/-- What an ACK makes of the window in `tx_sar_reg`. -/
theorem growsWithin_afterAck {header : TcpHeaderMeta}
    (isAck : header.ctrlBits = 1) :
    GrowsWithin header read (read.rxEngRead.afterAck header).congWindow := by
  rw [TxSarToRxEngRsp.afterAck]
  by_cases isOld : read.rxEngRead.isOldAck header.ackNumber = true
  · have same :
        (if header.payloadLength = 0 then
          { read.rxEngRead with
            retransCount := read.rxEngRead.retransCount + 1 }
        else
          read.rxEngRead).congWindow =
          read.congWindow := by
      split <;> rfl
    rw [if_pos isOld, same]
    refine growsWithin_same fun isNew => ?_
    rw [TxSarToRxEngRsp.isOldAck, Bool.and_eq_true, beq_iff_eq,
      bne_iff_ne] at isOld
    exact isOld.2 (isNew.2 isOld.1)
  · rw [if_neg isOld]
    have isNew : read.IsNewAck header := by
      refine ⟨isAck, fun sameNumber => ?_⟩
      by_contra inFlight
      refine isOld ?_
      rw [TxSarToRxEngRsp.isOldAck, Bool.and_eq_true, beq_iff_eq,
        bne_iff_ne]
      exact ⟨sameNumber, inFlight⟩
    have sum := read.grownCongWindow_toNat
    change GrowsWithin header read read.rxEngRead.grownCongWindow
    exact
      { notLess := by
          rw [sum]
          exact Nat.le_add_right _ _
        noWrap := read.growth_fits
        newAck := fun _ => sum
        otherAck := fun notNew => absurd isNew notNew }

/-- A write for a segment that was looked up. -/
theorem TxSarWrite.growsWithin (write : TxSarWrite state req)
    (flags : state.rxEngCtrlBits = state.tcpRxMetaReg.header.ctrlBits)
    (withAck : state.tcpRxMetaReg.header.ack = true)
    (isRead : state.txSarReg = read.rxEngRead) :
    GrowsWithin state.tcpRxMetaReg.header read req.congWindow := by
  have otherFlags (notAck : state.rxEngCtrlBits ≠ 1) :
      ¬ read.IsNewAck state.tcpRxMetaReg.header := by
    intro isNew
    rw [flags] at notAck
    exact notAck isNew.1
  cases write with
  | ack isAck =>
      rw [isRead]
      exact growsWithin_afterAck (flags.symm.trans isAck)
  | syn isSyn =>
      rw [← TcpHeaderMeta.ctrlBits_ack, ← flags, isSyn] at withAck
      cases withAck
  | synAck isSynAck =>
      rw [isRead]
      exact growsWithin_same (otherFlags (by rw [isSynAck]; decide))
  | fin isFin =>
      rw [isRead]
      exact growsWithin_same (otherFlags (by rw [isFin]; decide))

end Handled

/-! ## What was read -/

/-- Beside the machine and the table: the session and the entry that the
table read last for the machine. -/
structure GrowthSystem where
  ack : AckSystem
  lastRead : Option (TcpSessionID × TxSarTableEntry)

/-- The entry behind the answer of a call of the table to the machine. -/
def AckSystem.answered
    (system : AckSystem) (msgs : List TxSarTableMsg) :
    Option (TcpSessionID × TxSarTableEntry) :=
  if msgs.filterMap TxSarTableMsg.toRxEng = [] then
    none
  else
    system.table.rxEngReqs.head?.map fun req =>
      (req.sessionId, system.entry req.sessionId)

namespace GrowthSystem

def start (table : TcpSessionID → TxSarTableEntry) : GrowthSystem where
  ack := AckSystem.start table
  lastRead := none

def act (system : GrowthSystem) : AckAction → GrowthSystem
  | .txSarTable =>
      { ack := system.ack.act .txSarTable
        lastRead :=
          (system.ack.answered (txSarTable system.ack.table).2).or
            system.lastRead }
  | action => { system with ack := system.ack.act action }

end GrowthSystem

def GrowthStep
    (system : GrowthSystem) (action : AckAction) (next : GrowthSystem) :
    Prop :=
  next = system.act action

/-- Every window that the machine writes for a segment with the ACK flag is
grown from the entry that the table read for this segment. -/
def WritesGrown (system : GrowthSystem) : AckAction → Prop
  | .rxEngTcpFsm =>
      ∀ req ∈
          (rxEngTcpFsm system.ack.fsm).2.filterMap RxEngMsg.toTxSar,
        req.write = true →
          system.ack.fsm.tcpRxMetaReg.header.ack = true →
            ∃ read,
              system.lastRead = some (req.sessionId, read) ∧
                GrowsWithin system.ack.fsm.tcpRxMetaReg.header read
                  req.congWindow
  | _ => True

/-! ## The invariant -/

/-- An answer is the last entry read, which is one of the session asked
for. -/
def EntryRead (system : GrowthSystem)
    (id : TcpSessionID) (rsp : TxSarToRxEngRsp) : Prop :=
  ∃ read, system.lastRead = some (id, read) ∧ rsp = read.rxEngRead

def OnlyWrites (reqs : List RxEngToTxSarReq) : Prop :=
  ∀ req ∈ reqs, req.write = true

structure GrowthInvariant (system : GrowthSystem) : Prop where
  asks :
    AsksTxSar OnlyWrites (EntryRead system) system.ack.fsm
      system.ack.table.rxEngReqs

theorem growthInvariant_start (table : TcpSessionID → TxSarTableEntry) :
    GrowthInvariant (GrowthSystem.start table) where
  asks :=
    AsksTxSar.mk (Lookup.Phase.idle fun req member => by cases member)
      (fun _ => rfl) (fun transition => by cases transition)

/-- The machine asks for nothing but writes when it handles a segment. -/
theorem onlyWrites_handle (state : RxEngState) :
    OnlyWrites (rxWrites (rxEngHandle state).2).txSarWrites := by
  rcases txSarWrites_cases state with none | ⟨req, one, write⟩
  · rw [none]
    exact fun other member => by cases member
  · rw [one]
    intro other member
    rw [List.mem_singleton.1 member]
    exact write.own.1

namespace GrowthInvariant

variable {system : GrowthSystem}

theorem handle {loaded : RxEngState}
    (invariant : GrowthInvariant system)
    (answers : system.ack.fsm.takeAnswers = some loaded) :
    GrowthInvariant
      { system with
        ack :=
          system.ack.afterFsm (rxEngHandle loaded).1
            (rxEngHandle loaded).2 } := by
  refine ⟨invariant.asks.handle answers ?_ ?_⟩
  · intro _ earlier req member
    rcases List.mem_append.1 member with isEarlier | isOwn
    · exact earlier req isEarlier
    · exact onlyWrites_handle loaded req isOwn
  · exact fun _ _ _ => onlyWrites_handle loaded

/-- The answer to a segment with the ACK flag is the entry read for it. -/
theorem writesGrown_handle {loaded : RxEngState}
    (invariant : GrowthInvariant system)
    (transition : system.ack.fsm.fsmState = .transition)
    (answers : system.ack.fsm.takeAnswers = some loaded)
    {req : RxEngToTxSarReq}
    (member :
      req ∈ (rxEngHandle loaded).2.filterMap RxEngMsg.toTxSar)
    (withAck : system.ack.fsm.tcpRxMetaReg.header.ack = true) :
    ∃ read,
      system.lastRead = some (req.sessionId, read) ∧
        GrowsWithin system.ack.fsm.tcpRxMetaReg.header read
          req.congWindow := by
  have took := takesAnswers answers
  obtain ⟨flags, sentEq⟩ := invariant.asks.flags transition
  have phase := invariant.asks.phase
  have sent := sentEq.trans withAck
  rw [sent, took.txSarRsps sent] at phase
  obtain ⟨_, ⟨read, isRead, isAnswer⟩, _⟩ := phase.of_answered
  rw [(rxEngHandle_ownWrites loaded).txSarReqs] at member
  rcases txSarWrites_cases loaded with none | ⟨own, one, write⟩
  · rw [none] at member
    cases member
  · rw [one] at member
    obtain rfl := List.mem_singleton.1 member
    rw [← took.segment] at flags withAck isRead ⊢
    refine ⟨read, ?_, ?_⟩
    · rw [isRead, write.own.2]
    · exact
        write.growsWithin (took.ctrlBits.trans flags) withAck isAnswer

theorem rxEngTcpFsm (invariant : GrowthInvariant system) :
    GrowthInvariant (system.act .rxEngTcpFsm) ∧
      WritesGrown system .rxEngTcpFsm := by
  change
    GrowthInvariant
        { system with
          ack :=
            system.ack.afterFsm (TcpOffload.rxEngTcpFsm system.ack.fsm).1
              (TcpOffload.rxEngTcpFsm system.ack.fsm).2 } ∧
      ∀ req ∈
          (TcpOffload.rxEngTcpFsm system.ack.fsm).2.filterMap
            RxEngMsg.toTxSar,
        _
  rw [TcpOffload.rxEngTcpFsm]
  cases fsmState : system.ack.fsm.fsmState with
  | load =>
      refine ⟨⟨invariant.asks.load fsmState⟩, ?_⟩
      rw [rxEngLoad]
      cases system.ack.fsm.metaDatas with
      | nil =>
          exact fun req member => by cases member
      | cons segment later =>
          intro req member isWrite
          change
            req ∈ (rxLookups segment).filterMap RxEngMsg.toTxSar at member
          rw [rxLookups] at member
          split at member
          · rw [List.mem_singleton.1 member] at isWrite
            cases isWrite
          · cases member
  | transition =>
      simp only []
      rw [rxEngTransition]
      cases answers : system.ack.fsm.takeAnswers with
      | none =>
          simp only [AckSystem.afterFsm, List.filterMap_nil,
            List.append_nil]
          exact ⟨⟨invariant.asks⟩, fun req member => by cases member⟩
      | some loaded =>
          refine ⟨invariant.handle answers, fun req member _ => ?_⟩
          exact invariant.writesGrown_handle fsmState answers member

/-! ### The table -/

/-- A call of the table that does not answer the machine. -/
theorem afterOther {table : TxSarTableState} {msgs : List TxSarTableMsg}
    (asks :
      AsksTxSar OnlyWrites (EntryRead system) system.ack.fsm
        table.rxEngReqs)
    (noRsp : msgs.filterMap TxSarTableMsg.toRxEng = []) :
    GrowthInvariant
      { ack := system.ack.afterTable table msgs
        lastRead :=
          (system.ack.answered msgs).or system.lastRead } := by
  constructor
  rw [AckSystem.answered, if_pos noRsp, Option.none_or]
  change AsksTxSar _ _ (system.ack.afterTable table msgs).fsm _
  rw [AckSystem.afterTable, noRsp, List.append_nil]
  exact asks

/-- The table answers the lookup of the machine. -/
theorem afterRxLookup
    {req : RxEngToTxSarReq} {later : List RxEngToTxSarReq}
    (invariant : GrowthInvariant system)
    (rxEngReqs : system.ack.table.rxEngReqs = req :: later)
    (isLookup : req.write = false) :
    GrowthInvariant
      { ack :=
          system.ack.afterTable
            { system.ack.table with rxEngReqs := later }
            [.rxEngRsp (system.ack.entry req.sessionId).rxEngRead]
        lastRead :=
          some (req.sessionId, system.ack.entry req.sessionId) } := by
  have asks := invariant.asks
  rw [rxEngReqs] at asks
  refine ⟨?_⟩
  exact
    (asks.serveLookup isLookup (fun list writes => writes)
      fun _ => ⟨_, rfl, rfl⟩).2

theorem txSarTable (invariant : GrowthInvariant system) :
    GrowthInvariant (system.act .txSarTable) := by
  have call := txSarTable_call system.ack.table
  change
    GrowthInvariant
      { ack :=
          system.ack.afterTable (TcpOffload.txSarTable system.ack.table).1
            (TcpOffload.txSarTable system.ack.table).2
        lastRead :=
          (system.ack.answered
            (TcpOffload.txSarTable system.ack.table).2).or
            system.lastRead }
  generalize TcpOffload.txSarTable system.ack.table = called at call ⊢
  obtain ⟨table, msgs⟩ := called
  cases call with
  | idle =>
      exact afterOther invariant.asks rfl
  | @txEngWrite req =>
      exact afterOther invariant.asks (toRxEng_txAppUpd _ _)
  | txEngLookup =>
      exact afterOther invariant.asks rfl
  | txAppWrite =>
      exact afterOther invariant.asks rfl
  | @rxEngWrite req later _ rxEngReqs isWrite =>
      have asks := invariant.asks
      rw [rxEngReqs] at asks
      refine afterOther ?_ rfl
      exact
        asks.serveWrite isWrite fun rest writes other member =>
          writes other (List.mem_cons_of_mem req member)
  | @rxEngLookup req later _ rxEngReqs isLookup =>
      have answered := invariant.afterRxLookup rxEngReqs isLookup
      simp only [AckSystem.answered, rxEngReqs]
      exact answered

theorem step {next : GrowthSystem} {action : AckAction}
    (invariant : GrowthInvariant system)
    (stepped : GrowthStep system action next) :
    GrowthInvariant next ∧ WritesGrown system action := by
  obtain rfl := stepped
  cases action with
  | rxEngTcpFsm =>
      exact invariant.rxEngTcpFsm
  | txSarTable =>
      exact ⟨invariant.txSarTable, trivial⟩
  | segment | sttableRsp | rxSarRsp | txEngReq | txAppReq =>
      exact
        ⟨⟨⟨invariant.asks.phase, invariant.asks.loads,
          invariant.asks.flags⟩⟩, trivial⟩

end GrowthInvariant

/-- In every run, from any table and with any requests of the others to it,
the windows written for ACKs are grown without a wrap from those read. -/
theorem congWindow_neverWraps
    (table : TcpSessionID → TxSarTableEntry) (actions : List AckAction) :
    Along GrowthStep WritesGrown (GrowthSystem.start table) actions :=
  @along_of_keeps _ _ GrowthStep GrowthInvariant WritesGrown
    (fun _ _ _ invariant stepped => (invariant.step stepped).1)
    (fun _ _ _ invariant stepped => (invariant.step stepped).2)
    _ (growthInvariant_start table) actions

end TcpOffload
