import TcpOffload.Library.Cyclic
import TcpOffload.Library.Guarded
import TcpOffload.Library.Lookup
import TcpOffload.RxEngine.Exits
import TcpOffload.TxSarTable

/-!
# The acknowledged bytes of a session

`RxEngTcpFsm` reads the send window of a session from `tx_sar_table` and
writes `ackd` back.  The two run side by side here, with the TX engine and
the TX application free to send in between.
-/

namespace TcpOffload

open Clocked Cyclic Guarded

/-- The window test is membership of the arc from `perv_ack` to
`next_byte`. -/
theorem TxSarToRxEngRsp.acceptsAck_iff
    (rsp : TxSarToRxEngRsp) (ackNumber : BitVec 32) :
    rsp.acceptsAck ackNumber = true ↔
      Between rsp.pervAck ackNumber rsp.nextByte := by
  rw [between_iff_compare]
  simp only [acceptsAck, Bool.or_eq_true, Bool.and_eq_true,
    decide_eq_true_iff]

/-! ## One segment -/

/-- The states behind the handshake of a connection. -/
def SessionState.pastHandshake : SessionState → Bool
  | .established | .finWait1 | .finWait2 | .closing | .timeWait
  | .lastAck => true
  | .closed | .synSent | .synReceived => false

/-- A FIN+ACK that is taken with an acknowledgement number outside the send
window. -/
def RxEngState.finIsOutside (state : RxEngState) : Bool :=
  state.rxEngCtrlBits == 5 && state.takesFin &&
    !state.txSarReg.acceptsAck state.tcpRxMetaReg.header.ackNumber

def RxArrival.finIsOutside (arrival : RxArrival) : Bool :=
  arrival.segment.header.ctrlBits == 5 &&
    (arrival.sessionState.takesFin &&
      arrival.rxSar.recvd == arrival.segment.header.seqNumber) &&
    !arrival.txSar.acceptsAck arrival.segment.header.ackNumber

/-- Every `ackd` written lies between the looked-up `ackd` and `not_ackd`. -/
def AcksInside (arrival : RxArrival) (msgs : List RxEngMsg) : Prop :=
  ∀ req ∈ (rxWrites msgs).txSarWrites,
    Between arrival.txSar.pervAck req.ackd arrival.txSar.nextByte

/-- In a session past the handshake `ackd` is written for the ACKs inside the
send window and for each FIN+ACK that is taken. -/
theorem txSarWrites_rxEngHandle
    (state : RxEngState)
    (past : state.sessionStateReg.pastHandshake = true) :
    (rxWrites (rxEngHandle state).2).txSarWrites = [] ∧
        state.finIsOutside = false ∨
      ∃ req,
        (rxWrites (rxEngHandle state).2).txSarWrites = [req] ∧
          req.ackd = state.tcpRxMetaReg.header.ackNumber ∧
          (state.rxEngCtrlBits = 1 ∨ state.rxEngCtrlBits = 5) ∧
          (state.txSarReg.acceptsAck
              state.tcpRxMetaReg.header.ackNumber =
            !state.finIsOutside) := by
  have exit := rxEngHandle_exit state
  generalize rxWrites (rxEngHandle state).2 = writes at exit ⊢
  have otherFlags (notFin : state.rxEngCtrlBits ≠ 5) :
      state.finIsOutside = false := by
    rw [RxEngState.finIsOutside, beq_eq_false_iff_ne.2 notFin]
    rfl
  cases exit with
  | ackOutside isAck | ackRefused isAck =>
      exact Or.inl ⟨rfl, otherFlags (by rw [isAck]; decide)⟩
  | ackInside isAck _ inside ackd | ackDropped isAck _ inside ackd
  | ackTaken isAck _ inside ackd =>
      refine Or.inr ⟨_, rfl, ackd, Or.inl isAck, ?_⟩
      rw [inside, otherFlags (by rw [isAck]; decide)]
      rfl
  | synTaken _ opens =>
      rcases opens with closed | synSent
      · rw [closed] at past
        cases past
      · rw [synSent] at past
        cases past
  | synAckTaken _ synSent =>
      rw [synSent] at past
      cases past
  | finTaken isFin takes ackd =>
      refine Or.inr ⟨_, rfl, ackd, Or.inr isFin, ?_⟩
      rw [RxEngState.finIsOutside, isFin, takes]
      exact (Bool.not_not _).symm
  | finRefused _ refuses =>
      refine Or.inl ⟨rfl, ?_⟩
      rw [RxEngState.finIsOutside, refuses, Bool.and_false]
      rfl
  | releases _ notFin =>
      exact Or.inl ⟨rfl, otherFlags notFin⟩

theorem RxEngState.answered_finIsOutside
    (regs : RxEngState) (arrival : RxArrival) :
    (regs.answered arrival).finIsOutside = arrival.finIsOutside := by
  by_cases isFin : arrival.segment.header.ctrlBits = 5
  · rw [finIsOutside, regs.answered_txSarReg (Or.inr isFin)]
    rfl
  · have otherFlags : (arrival.segment.header.ctrlBits == 5) = false :=
      beq_eq_false_iff_ne.2 isFin
    rw [RxArrival.finIsOutside, otherFlags]
    change (arrival.segment.header.ctrlBits == 5 && _ && _) = _
    rw [otherFlags]
    rfl

/-- The segments whose `ackd` stays inside are all but the FIN+ACKs taken
with a number outside the send window. -/
theorem acksInside_iff
    (regs : RxEngState) (arrival : RxArrival)
    (past : arrival.sessionState.pastHandshake = true) :
    (∃ msgs final,
        HandlesSegment regs arrival msgs final ∧
        AcksInside arrival msgs) ↔
      arrival.finIsOutside = false := by
  have handles := handlesSegment regs arrival
  have noLookup :
      (rxWrites
          (rxLookups arrival.segment ++
            (rxEngHandle (regs.answered arrival)).2)).txSarWrites =
        (rxWrites
          (rxEngHandle (regs.answered arrival)).2).txSarWrites := by
    rw [rxWrites_append, rxWrites_rxLookups]
    rfl
  have written := txSarWrites_rxEngHandle (regs.answered arrival) past
  rw [regs.answered_finIsOutside] at written
  constructor
  · rintro ⟨msgs, final, otherHandles, inside⟩
    rw [(otherHandles.unique handles).1, AcksInside, noLookup] at inside
    rcases written with ⟨_, notOutside⟩ | ⟨req, only, ackd, flags, test⟩
    · exact notOutside
    · have isInside := inside req (by rw [only]; exact List.mem_cons_self)
      rw [ackd, ← TxSarToRxEngRsp.acceptsAck_iff] at isInside
      rw [regs.answered_txSarReg flags] at test
      change
        arrival.txSar.acceptsAck arrival.segment.header.ackNumber = true
          at isInside
      change
        arrival.txSar.acceptsAck arrival.segment.header.ackNumber = _
          at test
      rw [isInside] at test
      exact Bool.eq_false_iff.2 fun outside => by
        rw [outside] at test
        cases test
  · intro notOutside
    refine ⟨_, _, handles, ?_⟩
    rw [AcksInside, noLookup]
    intro req member
    rcases written with ⟨none, _⟩ | ⟨own, only, ackd, flags, test⟩
    · rw [none] at member
      cases member
    · rw [only] at member
      rw [List.mem_singleton.1 member, ackd,
        ← TxSarToRxEngRsp.acceptsAck_iff]
      rw [regs.answered_txSarReg flags, notOutside] at test
      exact test

/-! ## The machine and the table side by side -/

structure AckSystem where
  fsm : RxEngState
  table : TxSarTableState

/-- Calls of the two processes, and what reaches them from elsewhere. -/
inductive AckAction where
  | rxEngTcpFsm
  | txSarTable
  | segment (segment : RxEngFsmMetaData)
  | sttableRsp (state : SessionState)
  | rxSarRsp (entry : RxSarTableEntry)
  | txEngReq (req : TxEngToTxSarReq)
  | txAppReq (req : TxAppToTxSarReq)

def TxSarTableMsg.toRxEng : TxSarTableMsg → Option TxSarToRxEngRsp
  | .rxEngRsp rsp => some rsp
  | _ => none

/-- What the table tells the application is no answer to the machine. -/
theorem toRxEng_txAppUpd (initialised : Bool) (upd : TxSarToTxAppReq) :
    (if initialised then
        [TxSarTableMsg.txAppUpd upd]
      else
        []).filterMap TxSarTableMsg.toRxEng =
      [] := by
  cases initialised <;> rfl

namespace AckSystem

def start (table : TcpSessionID → TxSarTableEntry) : AckSystem where
  fsm := RxEngState.start
  table := ⟨table, [], [], []⟩

/-- `msgs` of the machine reach the table. -/
def afterFsm
    (system : AckSystem) (fsm : RxEngState) (msgs : List RxEngMsg) :
    AckSystem where
  fsm := fsm
  table :=
    { system.table with
      rxEngReqs :=
        system.table.rxEngReqs ++ msgs.filterMap RxEngMsg.toTxSar }

/-- `msgs` of the table reach the machine. -/
def afterTable
    (system : AckSystem) (table : TxSarTableState)
    (msgs : List TxSarTableMsg) : AckSystem where
  fsm :=
    { system.fsm with
      txSarRsps :=
        system.fsm.txSarRsps ++ msgs.filterMap TxSarTableMsg.toRxEng }
  table := table

def act (system : AckSystem) : AckAction → AckSystem
  | .rxEngTcpFsm =>
      let called := TcpOffload.rxEngTcpFsm system.fsm
      system.afterFsm called.1 called.2
  | .txSarTable =>
      let called := TcpOffload.txSarTable system.table
      system.afterTable called.1 called.2
  | .segment segment =>
      { system with
        fsm :=
          { system.fsm with
            metaDatas := system.fsm.metaDatas ++ [segment] } }
  | .sttableRsp state =>
      { system with
        fsm :=
          { system.fsm with
            sttableRsps := system.fsm.sttableRsps ++ [state] } }
  | .rxSarRsp entry =>
      { system with
        fsm :=
          { system.fsm with
            rxSarRsps := system.fsm.rxSarRsps ++ [entry] } }
  | .txEngReq req =>
      { system with
        table :=
          { system.table with
            txEngReqs := system.table.txEngReqs ++ [req] } }
  | .txAppReq req =>
      { system with
        table :=
          { system.table with
            txAppReqs := system.table.txAppReqs ++ [req] } }

def entry (system : AckSystem) (id : TcpSessionID) : TxSarTableEntry :=
  system.table.table id

end AckSystem

/-- A pointer write of the TX engine to an open session sends further bytes:
it moves `not_ackd` up, and not past `ackd` again. -/
def TxSarTableEntry.SendsOn
    (entry : TxSarTableEntry) (req : TxEngToTxSarReq) : Prop :=
  req.retransReq = false →
    req.init = false ∧ Between entry.ackd entry.notAckd req.notAckd

/-- The session is past the handshake: so is its state whenever a segment of
it is handled, and the TX engine only sends on. -/
def SessionIsOpen (id : TcpSessionID) (system : AckSystem) :
    AckAction → Prop
  | .rxEngTcpFsm =>
      system.fsm.fsmState = .transition →
        ∀ loaded,
          system.fsm.takeAnswers = some loaded →
            loaded.tcpRxMetaReg.sessionId = id →
              loaded.sessionStateReg.pastHandshake = true
  | .txSarTable =>
      ∀ req later,
        system.table.txEngReqs = req :: later →
          req.write = true →
            req.sessionId = id → (system.entry id).SendsOn req
  | _ => True

/-- One step of a run in which session `id` is past the handshake. -/
def AckStep
    (id : TcpSessionID) (system : AckSystem) (action : AckAction)
    (next : AckSystem) : Prop :=
  next = system.act action ∧ SessionIsOpen id system action

/-- No call takes a FIN+ACK of the session with an acknowledgement number
outside the send window. -/
def NoFinOutside (id : TcpSessionID) (system : AckSystem) :
    AckAction → Prop
  | .rxEngTcpFsm =>
      system.fsm.fsmState = .transition →
        ∀ loaded,
          system.fsm.takeAnswers = some loaded →
            loaded.tcpRxMetaReg.sessionId = id →
              loaded.finIsOutside = false
  | _ => True

/-- Every `ackd` on its way to the session's entry lies between the entry's
`ackd` and `not_ackd`, and so does the entry's `ackd` after any step. -/
structure AckdKept (id : TcpSessionID) (system : AckSystem) : Prop where
  written :
    ∀ req ∈ system.table.rxEngReqs,
      req.write = true →
        req.sessionId = id →
          Between (system.entry id).ackd req.ackd
            (system.entry id).notAckd
  moved :
    ∀ action next,
      AckStep id system action next →
        Between (system.entry id).ackd (next.entry id).ackd
          (system.entry id).notAckd

/-! ## The lookup of a segment -/

/-- The machine has at most one lookup in `tx_sar_table`: `pending` is known
of the requests before it, `answer` of what is answered about a session. -/
structure AsksTxSar
    (pending : List RxEngToTxSarReq → Prop)
    (answer : TcpSessionID → TxSarToRxEngRsp → Prop)
    (fsm : RxEngState) (reqs : List RxEngToTxSarReq) : Prop where
  phase :
    Lookup.Phase pending (answer fsm.tcpRxMetaReg.sessionId)
      (RxEngToTxSarReq.lookup fsm.tcpRxMetaReg.sessionId)
      fsm.rxEngSentTxSarReq fsm.txSarRsps reqs
  loads : fsm.fsmState = .load → fsm.rxEngSentTxSarReq = false
  flags :
    fsm.fsmState = .transition →
      fsm.rxEngCtrlBits = fsm.tcpRxMetaReg.header.ctrlBits ∧
        fsm.rxEngSentTxSarReq = fsm.tcpRxMetaReg.header.ack

namespace AsksTxSar

variable {pending further : List RxEngToTxSarReq → Prop}
variable {answer later : TcpSessionID → TxSarToRxEngRsp → Prop}
variable {fsm : RxEngState} {reqs : List RxEngToTxSarReq}

theorem load
    (asks : AsksTxSar pending answer fsm reqs)
    (isLoad : fsm.fsmState = .load) :
    AsksTxSar pending answer (rxEngLoad fsm).1
      (reqs ++ (rxEngLoad fsm).2.filterMap RxEngMsg.toTxSar) := by
  have notSent := asks.loads isLoad
  have phase := asks.phase
  rw [notSent] at phase
  rw [rxEngLoad]
  cases segments : fsm.metaDatas with
  | nil =>
      refine AsksTxSar.mk ?_ asks.loads asks.flags
      change
        Lookup.Phase _ _ _ fsm.rxEngSentTxSarReq fsm.txSarRsps (reqs ++ [])
      rw [List.append_nil, notSent]
      exact phase
  | cons segment rest =>
      have sentEq :
          (segment.header.ack || fsm.rxEngSentTxSarReq) =
            segment.header.ack := by
        rw [notSent, Bool.or_false]
      refine
        AsksTxSar.mk ?_ (fun isLoad => by cases isLoad)
          (fun _ => ⟨rfl, sentEq⟩)
      change
        Lookup.Phase _ (answer segment.sessionId) _
          (segment.header.ack || fsm.rxEngSentTxSarReq) fsm.txSarRsps
          (reqs ++ (rxLookups segment).filterMap RxEngMsg.toTxSar)
      obtain ⟨noRsps, known⟩ := phase.of_idle
      rw [sentEq, noRsps, rxLookups]
      cases segment.header.ack with
      | true =>
          exact Lookup.Phase.asked known
      | false =>
          change Lookup.Phase _ _ _ false [] (reqs ++ [])
          rw [List.append_nil]
          exact Lookup.Phase.idle known

/-- A segment handled without a lookup writes behind what is pending; behind
a lookup nothing is pending any more. -/
theorem handle {loaded : RxEngState}
    (asks : AsksTxSar pending answer fsm reqs)
    (answers : fsm.takeAnswers = some loaded)
    (unasked :
      fsm.rxEngSentTxSarReq = false →
        pending reqs →
          further
            (reqs ++ (rxWrites (rxEngHandle loaded).2).txSarWrites))
    (asked :
      fsm.rxEngSentTxSarReq = true →
        reqs = [] →
          answer loaded.tcpRxMetaReg.sessionId loaded.txSarReg →
            further (rxWrites (rxEngHandle loaded).2).txSarWrites) :
    AsksTxSar further later (rxEngHandle loaded).1
      (reqs ++ (rxEngHandle loaded).2.filterMap RxEngMsg.toTxSar) := by
  have took := takesAnswers answers
  obtain ⟨txSarReg, txWinScale, final⟩ := rxEngHandle_regs loaded
  have phase := asks.phase
  rw [(rxEngHandle_ownWrites loaded).txSarReqs, final]
  refine
    ⟨?_, fun _ => took.sentCleared, fun isTransition =>
      absurd (took.fsmState.symm.trans isTransition) (by decide)⟩
  change
    Lookup.Phase _ _ _ loaded.rxEngSentTxSarReq loaded.txSarRsps _
  rw [took.sentCleared]
  cases sent : fsm.rxEngSentTxSarReq with
  | false =>
      rw [sent] at phase
      obtain ⟨noRsps, known⟩ := phase.of_idle
      rw [took.txSarRspsKept sent, noRsps]
      exact Lookup.Phase.idle (unasked sent known)
  | true =>
      rw [took.txSarRsps sent] at phase
      obtain ⟨_, known, noRsps, noReqs⟩ := phase.of_answered
      rw [← took.segment] at known
      rw [noRsps, noReqs, List.nil_append]
      exact Lookup.Phase.idle (asked sent noReqs known)

/-- What others do to the table. -/
theorem map
    (asks : AsksTxSar pending answer fsm reqs)
    (writes :
      ∀ list rest, reqs = list ++ rest → pending list → further list)
    (answers : ∀ rsp,
      answer fsm.tcpRxMetaReg.sessionId rsp →
        later fsm.tcpRxMetaReg.sessionId rsp) :
    AsksTxSar further later fsm reqs :=
  ⟨asks.phase.mapPrefix writes answers, asks.loads, asks.flags⟩

theorem serveWrite {req : RxEngToTxSarReq}
    (asks : AsksTxSar pending answer fsm (req :: reqs))
    (isWrite : req.write = true)
    (served : ∀ rest, pending (req :: rest) → further rest) :
    AsksTxSar further later fsm reqs := by
  refine ⟨asks.phase.serveWrite ?_ served, asks.loads, asks.flags⟩
  intro isLookup
  rw [isLookup] at isWrite
  cases isWrite

/-- The lookup is answered once nothing is pending any more. -/
theorem serveLookup
    {req : RxEngToTxSarReq} {rsp : TxSarToRxEngRsp}
    (asks : AsksTxSar pending answer fsm (req :: reqs))
    (isLookup : req.write = false)
    (writesOnly :
      ∀ list, pending list → ∀ write ∈ list, write.write = true)
    (answers : pending [] → later req.sessionId rsp) :
    reqs = [] ∧
      AsksTxSar pending later
        { fsm with txSarRsps := fsm.txSarRsps ++ [rsp] } reqs := by
  obtain ⟨isAsked, sent, noRsps, noReqs, none⟩ :=
    asks.phase.of_lookup fun list known member => by
      have isWrite := writesOnly list known req member
      rw [isLookup] at isWrite
      cases isWrite
  have known := answers none
  rw [isAsked] at known
  refine ⟨noReqs, ⟨?_, asks.loads, asks.flags⟩⟩
  change
    Lookup.Phase _ _ _ fsm.rxEngSentTxSarReq (fsm.txSarRsps ++ [rsp]) _
  rw [noReqs, sent, noRsps]
  exact Lookup.Phase.answered known

end AsksTxSar

/-! ## The invariant -/

/-- A write for another session. -/
def OtherWrite (id : TcpSessionID) (req : RxEngToTxSarReq) : Prop :=
  req.write = true ∧ req.sessionId ≠ id

/-- A write for the session that lies between the pointers of its entry. -/
def InsideWrite
    (id : TcpSessionID) (entry : TxSarTableEntry)
    (req : RxEngToTxSarReq) : Prop :=
  req.write = true ∧ req.sessionId = id ∧
    Between entry.ackd req.ackd entry.notAckd

/-- Writes on their way to the table.  One at most is for the session. -/
abbrev AckWrites (id : TcpSessionID) (entry : TxSarTableEntry) :
    List RxEngToTxSarReq → Prop :=
  Lookup.Writes True (OtherWrite id) (InsideWrite id entry)

/-- How far the lookup of the segment in hand has come.  What is answered for
the session is still borne out by its entry. -/
abbrev AckPhase
    (id : TcpSessionID) (entry : TxSarTableEntry)
    (inHand : TcpSessionID) :
    Bool → List TxSarToRxEngRsp → List RxEngToTxSarReq → Prop :=
  Lookup.Phase (AckWrites id entry)
    (fun rsp =>
      inHand = id →
        rsp.pervAck = entry.ackd ∧
          Between rsp.pervAck rsp.nextByte entry.notAckd)
    (RxEngToTxSarReq.lookup inHand)

theorem AckWrites.isWrite
    {id : TcpSessionID} {entry : TxSarTableEntry}
    {writes : List RxEngToTxSarReq} {req : RxEngToTxSarReq}
    (pending : AckWrites id entry writes) (member : req ∈ writes) :
    req.write = true := by
  rcases pending.of_mem member with isOther | isInside
  · exact isOther.1
  · exact isInside.1

/-- Sending on keeps what is on its way inside. -/
theorem AckPhase.sendsOn
    {id inHand : TcpSessionID} {entry further : TxSarTableEntry}
    {sent : Bool} {rsps : List TxSarToRxEngRsp}
    {reqs : List RxEngToTxSarReq}
    (phase : AckPhase id entry inHand sent rsps reqs)
    (sameAckd : further.ackd = entry.ackd)
    (moved : Between entry.ackd entry.notAckd further.notAckd) :
    AckPhase id further inHand sent rsps reqs := by
  refine phase.map (fun writes pending => ?_) (fun rsp borneOut own => ?_)
  · refine pending.map (fun _ => trivial) ?_
    rintro req ⟨isWrite, isOwn, inside⟩
    refine ⟨isWrite, isOwn, ?_⟩
    rw [sameAckd]
    exact inside.extend moved
  · obtain ⟨pervAck, nextByte⟩ := borneOut own
    rw [pervAck] at nextByte ⊢
    exact ⟨sameAckd.symm, nextByte.extend moved⟩

/-- What is answered for the session is still borne out by its entry. -/
abbrev AckBorneOut
    (id : TcpSessionID) (entry : TxSarTableEntry)
    (inHand : TcpSessionID) (rsp : TxSarToRxEngRsp) : Prop :=
  inHand = id →
    rsp.pervAck = entry.ackd ∧
      Between rsp.pervAck rsp.nextByte entry.notAckd

structure AckInvariant (id : TcpSessionID) (system : AckSystem) : Prop where
  phase :
    AckPhase id (system.entry id) system.fsm.tcpRxMetaReg.sessionId
      system.fsm.rxEngSentTxSarReq system.fsm.txSarRsps
      system.table.rxEngReqs
  loads :
    system.fsm.fsmState = .load → system.fsm.rxEngSentTxSarReq = false
  flags :
    system.fsm.fsmState = .transition →
      system.fsm.rxEngCtrlBits =
          system.fsm.tcpRxMetaReg.header.ctrlBits ∧
        system.fsm.rxEngSentTxSarReq =
          system.fsm.tcpRxMetaReg.header.ack

theorem ackInvariant_start
    (id : TcpSessionID) (table : TcpSessionID → TxSarTableEntry) :
    AckInvariant id (AckSystem.start table) where
  phase :=
    Lookup.Phase.idle
      (Lookup.Writes.settled trivial fun req member => by cases member)
  loads := fun _ => rfl
  flags := fun transition => by cases transition

namespace AckInvariant

variable {id : TcpSessionID} {system : AckSystem}

theorem asks (invariant : AckInvariant id system) :
    AsksTxSar (AckWrites id (system.entry id))
      (AckBorneOut id (system.entry id)) system.fsm
      system.table.rxEngReqs :=
  ⟨invariant.phase, invariant.loads, invariant.flags⟩

theorem load
    (invariant : AckInvariant id system)
    (loads : system.fsm.fsmState = .load) :
    AckInvariant id
      (system.afterFsm (rxEngLoad system.fsm).1
        (rxEngLoad system.fsm).2) := by
  have asks := invariant.asks.load loads
  exact ⟨asks.phase, asks.loads, asks.flags⟩

/-- Handling a segment adds what it writes to the pending writes. -/
theorem handle {loaded : RxEngState}
    (invariant : AckInvariant id system)
    (transition : system.fsm.fsmState = .transition)
    (answers : system.fsm.takeAnswers = some loaded)
    (isOpen : SessionIsOpen id system .rxEngTcpFsm)
    (guarded : NoFinOutside id system .rxEngTcpFsm) :
    AckInvariant id
      (system.afterFsm (rxEngHandle loaded).1 (rxEngHandle loaded).2) := by
  have took := takesAnswers answers
  have past := isOpen transition loaded answers
  have notOutside := guarded transition loaded answers
  obtain ⟨flags, sentEq⟩ := invariant.flags transition
  have others (notOwn : loaded.tcpRxMetaReg.sessionId ≠ id) :
      ∀ req ∈ (rxWrites (rxEngHandle loaded).2).txSarWrites,
        OtherWrite id req := by
    intro req member
    obtain ⟨isWrite, ownSession⟩ :=
      (rxEngHandle_ownWrites loaded).of_txSarWrites member
    rw [OtherWrite, ownSession]
    exact ⟨isWrite, notOwn⟩
  have handled :
      AsksTxSar (AckWrites id (system.entry id))
        (AckBorneOut id (system.entry id)) (rxEngHandle loaded).1
        (system.table.rxEngReqs ++
          (rxEngHandle loaded).2.filterMap RxEngMsg.toTxSar) := by
    refine invariant.asks.handle answers ?_ ?_
    · intro sent pending
      by_cases own : loaded.tcpRxMetaReg.sessionId = id
      · rcases txSarWrites_rxEngHandle loaded (past own) with
          ⟨none, _⟩ | ⟨_, _, _, withAck, _⟩
        · rw [none, List.append_nil]
          exact pending
        · -- without the ACK flag there is no such case
          rw [took.ctrlBits, flags] at withAck
          have ackFlag := TcpHeaderMeta.ack_of_ctrlBits withAck
          rw [← sentEq, sent] at ackFlag
          cases ackFlag
      · exact pending.append_others (others own)
    · intro _ _ borneOut
      by_cases own : loaded.tcpRxMetaReg.sessionId = id
      · obtain ⟨pervAck, nextByte⟩ := borneOut own
        rcases txSarWrites_rxEngHandle loaded (past own) with
          ⟨none, _⟩ | ⟨req, only, ackd, _, test⟩
        · rw [none]
          exact
            Lookup.Writes.settled trivial fun req member => by
              cases member
        · have member :
              req ∈ (rxWrites (rxEngHandle loaded).2).txSarWrites := by
            rw [only]
            exact List.mem_cons_self
          obtain ⟨isWrite, ownSession⟩ :=
            (rxEngHandle_ownWrites loaded).of_txSarWrites member
          rw [notOutside own] at test
          have inside := (TxSarToRxEngRsp.acceptsAck_iff _ _).1 test
          rw [← ackd] at inside
          have extended := inside.extend nextByte
          rw [pervAck] at extended
          rw [only]
          exact
            Lookup.Writes.first ⟨isWrite, ownSession.trans own, extended⟩
              fun later member => by cases member
      · exact Lookup.Writes.settled trivial (others own)
  exact ⟨handled.phase, handled.loads, handled.flags⟩

/-- The table call after which the session is as before but for further bytes
sent. -/
theorem afterSendsOn
    {table : TxSarTableState} {msgs : List TxSarTableMsg}
    (invariant : AckInvariant id system)
    (sameReqs : table.rxEngReqs = system.table.rxEngReqs)
    (noRsp : msgs.filterMap TxSarTableMsg.toRxEng = [])
    (sameAckd : (table.table id).ackd = (system.entry id).ackd)
    (moved :
      Between (system.entry id).ackd (system.entry id).notAckd
        (table.table id).notAckd) :
    AckInvariant id (system.afterTable table msgs) ∧
      Between (system.entry id).ackd (table.table id).ackd
        (system.entry id).notAckd := by
  refine ⟨⟨?_, invariant.loads, invariant.flags⟩, ?_⟩
  · change
      AckPhase id (table.table id) _ _
        (system.fsm.txSarRsps ++ msgs.filterMap TxSarTableMsg.toRxEng)
        table.rxEngReqs
    rw [noRsp, List.append_nil, sameReqs]
    exact invariant.phase.sendsOn sameAckd moved
  · rw [sameAckd]
    exact between_left _ _

/-- The oldest request of the machine, when it is a write. -/
theorem afterRxEngWrite
    {req : RxEngToTxSarReq} {later : List RxEngToTxSarReq}
    (invariant : AckInvariant id system)
    (reqs : system.table.rxEngReqs = req :: later)
    (isWrite : req.write = true) :
    let table :=
      { system.table with rxEngReqs := later }.setEntry req.sessionId
        ((system.entry req.sessionId).rxEngWrite req)
    AckPhase id (table.table id) system.fsm.tcpRxMetaReg.sessionId
        system.fsm.rxEngSentTxSarReq system.fsm.txSarRsps later ∧
      Between (system.entry id).ackd (table.table id).ackd
        (system.entry id).notAckd := by
  intro table
  have phase := invariant.phase
  rw [reqs] at phase
  have notLookup :
      req ≠ RxEngToTxSarReq.lookup system.fsm.tcpRxMetaReg.sessionId := by
    intro isLookup
    rw [isLookup] at isWrite
    cases isWrite
  by_cases isOwn : req.sessionId = id
  · have written : (table.table id).ackd = req.ackd := by
      change
        (Function.update system.table.table req.sessionId _ id).ackd = _
      rw [isOwn, Function.update_self]
      rfl
    rw [written]
    refine ⟨?_, ?_⟩
    · refine phase.serveWrite notLookup fun rest pending => ?_
      rcases pending.served with ⟨isOther, _⟩ | ⟨_, others⟩
      · exact absurd isOwn isOther.2
      · exact Lookup.Writes.settled trivial others
    · obtain ⟨writes, pending, member⟩ :=
        phase.mem_pending List.mem_cons_self notLookup
      rcases pending.of_mem member with isOther | isInside
      · exact absurd isOwn isOther.2
      · exact isInside.2.2
  · have kept : table.table id = system.entry id :=
      Function.update_of_ne (Ne.symm isOwn) _ _
    rw [kept]
    refine ⟨?_, between_left _ _⟩
    refine phase.serveWrite notLookup fun rest pending => ?_
    rcases pending.served with ⟨_, later⟩ | ⟨isInside, _⟩
    · exact later
    · exact absurd isInside.2.1 isOwn

/-- The oldest request of the machine, when it is its lookup. -/
theorem afterRxEngLookup
    {req : RxEngToTxSarReq} {later : List RxEngToTxSarReq}
    (invariant : AckInvariant id system)
    (reqs : system.table.rxEngReqs = req :: later)
    (isLookup : req.write = false) :
    AckPhase id (system.entry id) system.fsm.tcpRxMetaReg.sessionId
      system.fsm.rxEngSentTxSarReq
      (system.fsm.txSarRsps ++ [(system.entry req.sessionId).rxEngRead])
      later := by
  have phase := invariant.phase
  rw [reqs] at phase
  obtain ⟨isAsked, _, answers⟩ :=
    phase.serveLookup fun writes pending member => by
      have isWrite := pending.isWrite member
      rw [isLookup] at isWrite
      cases isWrite
  refine answers _ fun own => ?_
  rw [isAsked]
  change
    (system.entry system.fsm.tcpRxMetaReg.sessionId).rxEngRead.pervAck =
        _ ∧
      Between _ _ _
  rw [own]
  exact ⟨rfl, between_right _ _⟩

/-- A call of the table keeps the invariant, and moves the session's `ackd`
no further than `not_ackd`. -/
theorem txSarTable
    (invariant : AckInvariant id system)
    (isOpen : SessionIsOpen id system .txSarTable) :
    AckInvariant id (system.act .txSarTable) ∧
      Between (system.entry id).ackd
        ((system.act .txSarTable).entry id).ackd
        (system.entry id).notAckd := by
  have call := txSarTable_call system.table
  change
    AckInvariant id (system.afterTable (TcpOffload.txSarTable _).1 _) ∧
      Between _ ((TcpOffload.txSarTable _).1.table id).ackd _
  generalize (TcpOffload.txSarTable system.table).1 = table at call ⊢
  generalize (TcpOffload.txSarTable system.table).2 = msgs at call ⊢
  cases call with
  | idle | txEngLookup =>
      exact
        invariant.afterSendsOn rfl rfl rfl (between_right _ _)
  | @txEngWrite req later txEngReqs isWrite =>
      have sendsOn := isOpen req later txEngReqs isWrite
      by_cases own : req.sessionId = id
      · have written :
            ({ system.table with txEngReqs := later }.setEntry
                req.sessionId
                ((system.table.table req.sessionId).txEngWrite
                  req)).table id =
              (system.entry id).txEngWrite req := by
          rw [own]
          exact Function.update_self _ _ _
        cases threshold : req.retransReq with
        | true =>
            refine invariant.afterSendsOn rfl (toRxEng_txAppUpd _ _) ?_ ?_
            · rw [written,
                TxSarTableEntry.txEngWrite_threshold _ threshold]
            · rw [written,
                TxSarTableEntry.txEngWrite_threshold _ threshold]
              exact between_right _ _
        | false =>
            obtain ⟨noInit, moved⟩ := sendsOn own threshold
            refine invariant.afterSendsOn rfl (toRxEng_txAppUpd _ _) ?_ ?_
            · rw [written,
                TxSarTableEntry.txEngWrite_pointer _ threshold noInit]
            · rw [written,
                TxSarTableEntry.txEngWrite_pointer _ threshold noInit]
              exact moved
      · have kept :
            ({ system.table with txEngReqs := later }.setEntry
                req.sessionId
                ((system.table.table req.sessionId).txEngWrite
                  req)).table id =
              system.entry id :=
          Function.update_of_ne (Ne.symm own) _ _
        refine invariant.afterSendsOn rfl (toRxEng_txAppUpd _ _) ?_ ?_
        · rw [kept]
        · rw [kept]
          exact between_right _ _
  | @txAppWrite req later =>
      have samePointers :
          (({ system.table with txAppReqs := later }.setEntry
                req.sessionId
                ((system.table.table req.sessionId).txAppWrite
                  req)).table id).ackd =
              (system.entry id).ackd ∧
            (({ system.table with txAppReqs := later }.setEntry
                req.sessionId
                ((system.table.table req.sessionId).txAppWrite
                  req)).table id).notAckd =
              (system.entry id).notAckd := by
        by_cases own : id = req.sessionId
        · subst own
          change
            (Function.update system.table.table _ _ _).ackd = _ ∧
              (Function.update system.table.table _ _ _).notAckd = _
          rw [Function.update_self]
          exact ⟨rfl, rfl⟩
        · change
            (Function.update system.table.table _ _ _).ackd = _ ∧
              (Function.update system.table.table _ _ _).notAckd = _
          rw [Function.update_of_ne own]
          exact ⟨rfl, rfl⟩
      refine invariant.afterSendsOn rfl rfl samePointers.1 ?_
      rw [samePointers.2]
      exact between_right _ _
  | rxEngWrite _ rxEngReqs isWrite =>
      obtain ⟨phase, moved⟩ := invariant.afterRxEngWrite rxEngReqs isWrite
      refine ⟨⟨?_, invariant.loads, invariant.flags⟩, moved⟩
      change AckPhase _ _ _ _ (system.fsm.txSarRsps ++ []) _
      rw [List.append_nil]
      exact phase
  | rxEngLookup _ rxEngReqs isLookup =>
      exact
        ⟨⟨invariant.afterRxEngLookup rxEngReqs isLookup,
            invariant.loads, invariant.flags⟩,
          between_left _ _⟩

/-- A step keeps the invariant. -/
theorem step {next : AckSystem} {action : AckAction}
    (invariant : AckInvariant id system)
    (guarded : NoFinOutside id system action)
    (stepped : AckStep id system action next) :
    AckInvariant id next := by
  obtain ⟨rfl, isOpen⟩ := stepped
  cases action with
  | rxEngTcpFsm =>
      change
        AckInvariant id
          (system.afterFsm (rxEngTcpFsm system.fsm).1
            (rxEngTcpFsm system.fsm).2)
      cases fsmState : system.fsm.fsmState with
      | load =>
          have loads : rxEngTcpFsm system.fsm = rxEngLoad system.fsm := by
            rw [rxEngTcpFsm, fsmState]
          rw [loads]
          exact invariant.load fsmState
      | transition =>
          have handles :
              rxEngTcpFsm system.fsm = rxEngTransition system.fsm := by
            rw [rxEngTcpFsm, fsmState]
          rw [handles, rxEngTransition]
          cases answers : system.fsm.takeAnswers with
          | none =>
              refine ⟨?_, invariant.loads, invariant.flags⟩
              change
                AckPhase _ _ _ _ _ (system.table.rxEngReqs ++ [])
              rw [List.append_nil]
              exact invariant.phase
          | some loaded =>
              exact invariant.handle fsmState answers isOpen guarded
  | txSarTable =>
      exact (invariant.txSarTable isOpen).1
  | segment | sttableRsp | rxSarRsp | txEngReq | txAppReq =>
      exact ⟨invariant.phase, invariant.loads, invariant.flags⟩

theorem ackdKept (invariant : AckInvariant id system) :
    AckdKept id system where
  written := by
    intro req member isWrite own
    obtain ⟨writes, pending, pendingMember⟩ :=
      invariant.phase.mem_pending member (by
        intro isLookup
        rw [isLookup] at isWrite
        cases isWrite)
    rcases pending.of_mem pendingMember with isOther | isInside
    · exact absurd own isOther.2
    · exact isInside.2.2
  moved := by
    rintro action next ⟨rfl, isOpen⟩
    cases action with
    | txSarTable =>
        exact (invariant.txSarTable isOpen).2
    | rxEngTcpFsm | segment | sttableRsp | rxSarRsp | txEngReq
    | txAppReq =>
        exact between_left _ _

end AckInvariant

/-- A segment of a session past the handshake writes only `ackd` inside the
send window exactly when it is not a FIN+ACK taken with a number outside;
and in every run without such FIN+ACKs, however the processes take turns,
`ackd` never moves back and never passes `not_ackd`. -/
theorem ackd_stays_between
    {id : TcpSessionID} {table : TcpSessionID → TxSarTableEntry}
    {actions : List AckAction} {system : AckSystem}
    (run : Run (AckStep id) (AckSystem.start table) actions system) :
    (∀ (regs : RxEngState) (arrival : RxArrival),
      arrival.sessionState.pastHandshake = true →
        ((∃ msgs final,
            HandlesSegment regs arrival msgs final ∧
            AcksInside arrival msgs) ↔
          arrival.finIsOutside = false)) ∧
    (Along (AckStep id) (NoFinOutside id) (AckSystem.start table)
        actions →
      AckdKept id system) := by
  refine ⟨acksInside_iff, ?_⟩
  intro guarded
  have invariant : AckInvariant id system :=
    invariant_of_run
      (fun _ _ _ invariant guardHere stepped =>
        invariant.step guardHere stepped)
      (ackInvariant_start id table) guarded run
  exact invariant.ackdKept

/-- An in-order FIN+ACK, in an established session with the bytes from 1000 to
2000 in flight. -/
def finAck (ackNumber : BitVec 32) : RxArrival where
  segment :=
    ⟨0, 0, 0, ⟨7000, ackNumber, 0xFFFF, true, false, false, true, 0, 0⟩⟩
  sessionState := .established
  rxSar := ⟨7000, 7000, 2⟩
  txSar := ⟨1000, 2000, 14600, 0x3FFFF, 0, false, 2⟩

def sendingEntry : TxSarTableEntry where
  ackd := 1000
  notAckd := 2000
  recvWindow := 0xFFFF
  appWritten := 2000
  congWindow := 14600
  slowstartThreshold := 0x3FFFF
  winShift := 2
  retransCount := 0
  fastRetrans := false
  finIsReady := false
  finIsSent := false

/-- The segment arrives, is answered and is handled. -/
def finExchange (arrival : RxArrival) : List AckAction :=
  [.segment arrival.segment, .rxEngTcpFsm, .txSarTable,
    .sttableRsp arrival.sessionState, .rxSarRsp arrival.rxSar,
    .rxEngTcpFsm]

def afterFinExchange (arrival : RxArrival) : AckSystem :=
  (finExchange arrival).foldl AckSystem.act
    (AckSystem.start fun _ => sendingEntry)

theorem run_finExchange (ackNumber : BitVec 32) :
    Run (AckStep 0) (AckSystem.start fun _ => sendingEntry)
      (finExchange (finAck ackNumber))
      (afterFinExchange (finAck ackNumber)) := by
  refine Run.head ⟨rfl, trivial⟩ ?_
  refine Run.head ⟨rfl, fun transition => (by cases transition)⟩ ?_
  refine Run.head ⟨rfl, fun _ _ requests => (by cases requests)⟩ ?_
  refine Run.head ⟨rfl, trivial⟩ ?_
  refine Run.head ⟨rfl, trivial⟩ ?_
  refine Run.head ⟨rfl, fun _ loaded answers => ?_⟩ (Run.refl _)
  cases answers
  exact fun _ => rfl

theorem ackd_stays_between_of_finAck :
    AckdKept 0 (afterFinExchange (finAck 2000)) :=
  (ackd_stays_between (run_finExchange 2000)).2
    (by
      rintro _ ⟨rfl, _⟩
      refine ⟨trivial, ?_⟩
      rintro _ ⟨rfl, _⟩
      refine ⟨fun transition => (by cases transition), ?_⟩
      rintro _ ⟨rfl, _⟩
      refine ⟨trivial, ?_⟩
      rintro _ ⟨rfl, _⟩
      refine ⟨trivial, ?_⟩
      rintro _ ⟨rfl, _⟩
      refine ⟨trivial, ?_⟩
      rintro _ ⟨rfl, _⟩
      refine ⟨fun _ loaded answers => ?_, trivial⟩
      cases answers
      exact fun _ => rfl)

/-- A FIN+ACK that acknowledges bytes never sent moves `ackd` past
`not_ackd`. -/
theorem not_ackdKept_finAck :
    (¬ ∃ msgs final,
      HandlesSegment RxEngState.start (finAck 3000) msgs final ∧
      AcksInside (finAck 3000) msgs) ∧
    ∃ system,
      Run (AckStep 0) (AckSystem.start fun _ => sendingEntry)
        (finExchange (finAck 3000)) system ∧
      ¬ AckdKept 0 system := by
  refine ⟨fun inside => ?_, _, run_finExchange 3000, fun kept => ?_⟩
  · have notOutside :=
      (acksInside_iff RxEngState.start (finAck 3000) rfl).1 inside
    exact absurd notOutside (by decide)
  · have between := kept.written _ List.mem_cons_self rfl rfl
    exact absurd between (by decide)

end TcpOffload
