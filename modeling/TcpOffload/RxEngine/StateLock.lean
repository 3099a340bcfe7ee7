import TcpOffload.Library.Guarded
import TcpOffload.RxEngine.Exits
import TcpOffload.StateTable

/-!
# The lock on a session's state

The lookup of a segment locks its session in the state table, and the
segment's update is what unlocks it.  `RxEngTcpFsm` and `state_table` run side
by side here, with every other process free to act in between.
-/

namespace TcpOffload

open Clocked Guarded

/-! ## One segment -/

/-- One lookup of the segment's session and behind it one update. -/
def LocksOnce (arrival : RxArrival) (msgs : List RxEngMsg) : Prop :=
  ∃ next,
    (rxWrites msgs).stateReqs =
      [StateTableReq.lookup arrival.segment.sessionId,
        StateTableReq.update arrival.segment.sessionId next]

/-- An ACK that is looked at and is outside the send window. -/
def RxEngState.ackIsOutside (state : RxEngState) : Bool :=
  state.rxEngCtrlBits == 1 && state.sessionStateReg.takesAck &&
    !state.txSarReg.acceptsAck state.tcpRxMetaReg.header.ackNumber

def RxArrival.ackIsOutside (arrival : RxArrival) : Bool :=
  arrival.segment.header.ctrlBits == 1 && arrival.sessionState.takesAck &&
    !arrival.txSar.acceptsAck arrival.segment.header.ackNumber

theorem RxEngState.answered_ackIsOutside
    (regs : RxEngState) (arrival : RxArrival) :
    (regs.answered arrival).ackIsOutside = arrival.ackIsOutside := by
  by_cases isAck : arrival.segment.header.ctrlBits = 1
  · rw [ackIsOutside, regs.answered_txSarReg (Or.inl isAck)]
    rfl
  · have otherFlags : (arrival.segment.header.ctrlBits == 1) = false :=
      beq_eq_false_iff_ne.2 isAck
    rw [RxArrival.ackIsOutside, otherFlags]
    change (arrival.segment.header.ctrlBits == 1 && _ && _) = _
    rw [otherFlags]
    rfl

/-- Every exit updates the session's state once, but for the ACK outside the
send window, which writes nothing. -/
theorem stateReqs_rxEngHandle (state : RxEngState) :
    (state.ackIsOutside = true →
      (rxWrites (rxEngHandle state).2).stateReqs = []) ∧
    (state.ackIsOutside = false →
      ∃ next,
        (rxWrites (rxEngHandle state).2).stateReqs =
          [state.updateReq next]) := by
  have exit := rxEngHandle_exit state
  generalize rxWrites (rxEngHandle state).2 = writes at exit ⊢
  have noAck (notAck : state.rxEngCtrlBits ≠ 1) :
      state.ackIsOutside = false := by
    rw [RxEngState.ackIsOutside, beq_eq_false_iff_ne.2 notAck]
    rfl
  have updated {reqs : List StateTableReq}
      (inside : state.ackIsOutside = false)
      (update : ∃ next, reqs = [state.updateReq next]) :
      (state.ackIsOutside = true → reqs = []) ∧
        (state.ackIsOutside = false →
          ∃ next, reqs = [state.updateReq next]) := by
    refine ⟨fun outside => ?_, fun _ => update⟩
    rw [inside] at outside
    cases outside
  cases exit with
  | ackOutside isAck takes outside =>
      refine ⟨fun _ => rfl, fun inside => ?_⟩
      rw [RxEngState.ackIsOutside, isAck, takes, outside] at inside
      cases inside
  | ackInside _ _ inside | ackDropped _ _ inside | ackTaken _ _ inside =>
      refine updated ?_ ⟨_, rfl⟩
      rw [RxEngState.ackIsOutside, inside]
      exact Bool.and_false _
  | ackRefused _ refuses =>
      refine updated ?_ ⟨_, rfl⟩
      rw [RxEngState.ackIsOutside, refuses, Bool.and_false]
      rfl
  | synTaken isSyn =>
      exact updated (noAck (by rw [isSyn]; decide)) ⟨_, rfl⟩
  | synAckTaken isSynAck =>
      exact updated (noAck (by rw [isSynAck]; decide)) ⟨_, rfl⟩
  | finTaken isFin | finRefused isFin =>
      exact updated (noAck (by rw [isFin]; decide)) ⟨_, rfl⟩
  | releases notAck =>
      exact updated (noAck notAck) ⟨_, rfl⟩

/-- The segments that lock once are all but the ACKs outside the send
window. -/
theorem locksOnce_iff (regs : RxEngState) (arrival : RxArrival) :
    (∃ msgs final,
        HandlesSegment regs arrival msgs final ∧ LocksOnce arrival msgs) ↔
      arrival.ackIsOutside = false := by
  have handles := handlesSegment regs arrival
  have withLookup :
      (rxWrites
          (rxLookups arrival.segment ++
            (rxEngHandle (regs.answered arrival)).2)).stateReqs =
        StateTableReq.lookup arrival.segment.sessionId ::
          (rxWrites (rxEngHandle (regs.answered arrival)).2).stateReqs := by
    rw [rxWrites_append, rxWrites_rxLookups]
    rfl
  obtain ⟨outside, inside⟩ :=
    stateReqs_rxEngHandle (regs.answered arrival)
  rw [regs.answered_ackIsOutside] at outside inside
  constructor
  · rintro ⟨msgs, final, otherHandles, next, once⟩
    rw [(otherHandles.unique handles).1, withLookup] at once
    apply Bool.eq_false_iff.2
    intro isOutside
    rw [outside isOutside] at once
    cases once
  · intro isInside
    obtain ⟨next, update⟩ := inside isInside
    refine ⟨_, _, handles, next, ?_⟩
    rw [withLookup, update]
    rfl

/-! ## The machine and the table side by side -/

/-- `sent` are all requests the machine has made so far. -/
structure LockSystem where
  fsm : RxEngState
  table : StateTableState
  sent : List StateTableReq

/-- Calls of the two processes, and what reaches them from elsewhere. -/
inductive LockAction where
  | rxEngTcpFsm
  | stateTable
  | segment (segment : RxEngFsmMetaData)
  | rxSarRsp (entry : RxSarTableEntry)
  | txSarRsp (rsp : TxSarToRxEngRsp)
  | txAppLupReq (id : TcpSessionID)
  | txAppReq (req : StateTableReq)
  | timerRelease (id : TcpSessionID)

namespace LockSystem

def start (table : TcpSessionID → SessionState) : LockSystem where
  fsm := RxEngState.start
  table := StateTableState.start table
  sent := []

/-- `msgs` of the machine reach the table. -/
def afterFsm
    (system : LockSystem) (fsm : RxEngState) (msgs : List RxEngMsg) :
    LockSystem :=
  let reqs := (rxWrites msgs).stateReqs
  { fsm := fsm
    table :=
      { system.table with rxEngReqs := system.table.rxEngReqs ++ reqs }
    sent := system.sent ++ reqs }

/-- `msgs` of the table reach the machine. -/
def afterTable
    (system : LockSystem) (table : StateTableState)
    (msgs : List StateTableMsg) : LockSystem :=
  { system with
    fsm :=
      { system.fsm with
        sttableRsps :=
          system.fsm.sttableRsps ++ msgs.filterMap StateTableMsg.toRxEng }
    table := table }

def act (system : LockSystem) : LockAction → LockSystem
  | .rxEngTcpFsm =>
      let called := TcpOffload.rxEngTcpFsm system.fsm
      system.afterFsm called.1 called.2
  | .stateTable =>
      let called := TcpOffload.stateTable system.table
      system.afterTable called.1 called.2
  | .segment segment =>
      { system with
        fsm :=
          { system.fsm with
            metaDatas := system.fsm.metaDatas ++ [segment] } }
  | .rxSarRsp entry =>
      { system with
        fsm :=
          { system.fsm with
            rxSarRsps := system.fsm.rxSarRsps ++ [entry] } }
  | .txSarRsp rsp =>
      { system with
        fsm :=
          { system.fsm with
            txSarRsps := system.fsm.txSarRsps ++ [rsp] } }
  | .txAppLupReq id =>
      { system with
        table :=
          { system.table with
            txAppLupReqs := system.table.txAppLupReqs ++ [id] } }
  | .txAppReq req =>
      { system with
        table :=
          { system.table with
            txAppReqs := system.table.txAppReqs ++ [req] } }
  | .timerRelease id =>
      { system with
        table :=
          { system.table with
            timerReleases := system.table.timerReleases ++ [id] } }

end LockSystem

def LockStep
    (system : LockSystem) (action : LockAction) (next : LockSystem) :
    Prop :=
  next = system.act action

/-- No call handles an ACK that is outside the send window. -/
def NoAckOutside (system : LockSystem) : LockAction → Prop
  | .rxEngTcpFsm =>
      system.fsm.fsmState = .transition →
        ∀ loaded,
          system.fsm.takeAnswers = some loaded →
            loaded.ackIsOutside = false
  | _ => True

/-! ## Requests in turn -/

/-- From one holder of the lock to another: a lookup finds the lock free, and
an update comes from the holder. -/
inductive LockTrace :
    Option TcpSessionID → List StateTableReq → Option TcpSessionID → Prop
  | done (holder : Option TcpSessionID) : LockTrace holder [] holder
  | lookup {id : TcpSessionID} {later : List StateTableReq}
      {last : Option TcpSessionID} :
      LockTrace (some id) later last →
      LockTrace none (StateTableReq.lookup id :: later) last
  | update {id : TcpSessionID} {next : SessionState}
      {later : List StateTableReq} {last : Option TcpSessionID} :
      LockTrace none later last →
      LockTrace (some id) (StateTableReq.update id next :: later) last

namespace LockTrace

variable {first middle last : Option TcpSessionID}
variable {reqs : List StateTableReq}

theorem append {more : List StateTableReq}
    (before : LockTrace first reqs middle)
    (after : LockTrace middle more last) :
    LockTrace first (reqs ++ more) last := by
  induction before with
  | done holder =>
      exact after
  | lookup _ inductionHypothesis =>
      exact lookup (inductionHypothesis after)
  | update _ inductionHypothesis =>
      exact update (inductionHypothesis after)

/-- Serving the first request moves the lock along. -/
theorem served {req : StateTableReq}
    (trace : LockTrace first (req :: reqs) last) :
    LockTrace (if req.write then none else some req.sessionId) reqs
      last := by
  cases trace with
  | lookup rest =>
      exact rest
  | update rest =>
      exact rest

/-- A lock that is held, and is not to stay held, is released by the first
request to come. -/
theorem holder_releases {id : TcpSessionID}
    (trace : LockTrace (some id) reqs last) :
    (reqs = [] ∧ last = some id) ∨
      ∃ next later, reqs = StateTableReq.update id next :: later := by
  cases trace with
  | done =>
      exact Or.inl ⟨rfl, rfl⟩
  | update _ =>
      exact Or.inr ⟨_, _, rfl⟩

end LockTrace

/-! ## The invariant -/

/-- The session of the segment the machine is handling. -/
def RxEngState.inHand (state : RxEngState) : Option TcpSessionID :=
  match state.fsmState with
  | .load => none
  | .transition => some state.tcpRxMetaReg.sessionId

namespace LockSystem

/-- The lock and the requests on their way end with the segment in hand as
the holder, and so do all requests made so far. -/
structure InTurn (system : LockSystem) : Prop where
  outstanding :
    LockTrace system.table.rxEngHolder system.table.rxEngOutstanding
      system.fsm.inHand
  sent : LockTrace none system.sent system.fsm.inHand

/-- Every segment locks once and unlocks, and a lock is held only while its
segment is handled or its update is on the way. -/
structure ReleasesLock (system : LockSystem) : Prop where
  alternates : LockTrace none system.sent system.fsm.inHand
  free :
    system.fsm.fsmState = .load →
      system.table.rxEngOutstanding = [] →
        system.table.rxEngHolder = none
  held :
    ∀ id, system.table.rxEngHolder = some id →
      (system.table.rxEngOutstanding = [] ∧
          system.fsm.inHand = some id) ∨
        ∃ next later,
          system.table.rxEngOutstanding =
            StateTableReq.update id next :: later

theorem InTurn.releasesLock {system : LockSystem}
    (inTurn : system.InTurn) : system.ReleasesLock where
  alternates := inTurn.sent
  free := by
    intro loads none
    have trace := inTurn.outstanding
    rw [none, RxEngState.inHand, loads] at trace
    generalize system.table.rxEngHolder = holder at trace
    cases trace
    rfl
  held := by
    intro id holds
    have trace := inTurn.outstanding
    rw [holds] at trace
    exact trace.holder_releases

theorem inTurn_start (table : TcpSessionID → SessionState) :
    (start table).InTurn :=
  ⟨LockTrace.done none, LockTrace.done none⟩

/-- Requests of the machine that move its segment in hand along keep the
turn. -/
theorem InTurn.afterFsm
    {system : LockSystem} {fsm : RxEngState} {msgs : List RxEngMsg}
    (inTurn : system.InTurn)
    (trace :
      LockTrace system.fsm.inHand (rxWrites msgs).stateReqs fsm.inHand) :
    (system.afterFsm fsm msgs).InTurn where
  outstanding := by
    have appended := inTurn.outstanding.append trace
    rw [StateTableState.rxEngOutstanding, List.append_assoc] at appended
    exact appended
  sent := inTurn.sent.append trace

/-- What a call of the machine asks of the state table. -/
theorem rxEngTcpFsm_trace
    {system : LockSystem}
    (guarded : NoAckOutside system .rxEngTcpFsm) :
    LockTrace system.fsm.inHand
      (rxWrites (rxEngTcpFsm system.fsm).2).stateReqs
      (rxEngTcpFsm system.fsm).1.inHand := by
  rw [rxEngTcpFsm]
  cases fsmState : system.fsm.fsmState with
  | load =>
      have noneInHand : system.fsm.inHand = none := by
        rw [RxEngState.inHand, fsmState]
      simp only [rxEngLoad]
      cases system.fsm.metaDatas with
      | nil =>
          exact LockTrace.done _
      | cons segment later =>
          have lookups := rxWrites_rxLookups segment
          rw [rxLookups] at lookups
          simp only [lookups, noneInHand]
          exact LockTrace.lookup (LockTrace.done _)
  | transition =>
      simp only [rxEngTransition]
      cases answers : system.fsm.takeAnswers with
      | none =>
          exact LockTrace.done _
      | some loaded =>
          have inside := guarded fsmState loaded answers
          have taken := takesAnswers answers
          obtain ⟨next, update⟩ := (stateReqs_rxEngHandle loaded).2 inside
          obtain ⟨txSarReg, txWinScale, handled⟩ := rxEngHandle_regs loaded
          have inHand :
              system.fsm.inHand = some loaded.tcpRxMetaReg.sessionId := by
            rw [RxEngState.inHand, fsmState, taken.segment]
          have noneInHand : (rxEngHandle loaded).1.inHand = none := by
            rw [handled, RxEngState.inHand]
            simp only [taken.fsmState]
          simp only [update, inHand, noneInHand]
          exact LockTrace.update (LockTrace.done _)

theorem InTurn.stateTable {system : LockSystem}
    (inTurn : system.InTurn) :
    (system.act .stateTable).InTurn where
  outstanding := by
    have trace := inTurn.outstanding
    change
      LockTrace (TcpOffload.stateTable system.table).1.rxEngHolder
        (TcpOffload.stateTable system.table).1.rxEngOutstanding
        system.fsm.inHand
    rcases stateTable_rxEng system.table with
      ⟨sameHolder, sameOutstanding⟩ |
      ⟨req, later, outstanding, served, holder⟩
    · rw [sameHolder, sameOutstanding]
      exact trace
    · rw [outstanding] at trace
      rw [served, holder]
      exact trace.served
  sent := inTurn.sent

/-- A step keeps the turn. -/
theorem InTurn.step
    {system next : LockSystem} {action : LockAction}
    (inTurn : system.InTurn)
    (guarded : NoAckOutside system action)
    (stepped : LockStep system action next) :
    next.InTurn := by
  cases stepped
  cases action with
  | rxEngTcpFsm =>
      exact inTurn.afterFsm (rxEngTcpFsm_trace guarded)
  | stateTable =>
      exact inTurn.stateTable
  | segment | rxSarRsp | txSarRsp | txAppLupReq | txAppReq
  | timerRelease =>
      exact ⟨inTurn.outstanding, inTurn.sent⟩

end LockSystem

/-- A segment locks and unlocks its session exactly when it is not an ACK
outside the send window; and in every run without such ACKs, however the
processes take turns, no segment leaves its session locked. -/
theorem segment_releases_lock
    {table : TcpSessionID → SessionState} {actions : List LockAction}
    {system : LockSystem}
    (run : Run LockStep (LockSystem.start table) actions system) :
    (∀ (regs : RxEngState) (arrival : RxArrival),
      (∃ msgs final,
          HandlesSegment regs arrival msgs final ∧
          LocksOnce arrival msgs) ↔
        arrival.ackIsOutside = false) ∧
    (Along LockStep NoAckOutside (LockSystem.start table) actions →
      system.ReleasesLock) := by
  refine ⟨locksOnce_iff, ?_⟩
  intro guarded
  have inTurn : system.InTurn :=
    invariant_of_run
      (fun _ _ _ inTurn guardHere stepped =>
        inTurn.step guardHere stepped)
      (LockSystem.inTurn_start table) guarded run
  exact inTurn.releasesLock

/-- An ACK without payload, in a session with the bytes from 1000 to 2000 in
flight. -/
def bareAck (ackNumber : BitVec 32) : RxArrival where
  segment :=
    ⟨0, 0, 0,
      ⟨7000, ackNumber, 0xFFFF, true, false, false, false, 0, 0⟩⟩
  sessionState := .established
  rxSar := ⟨7000, 7000, 2⟩
  txSar := ⟨1000, 2000, 14600, 0x3FFFF, 0, false, 2⟩

/-- The segment arrives, and everything asked is answered. -/
def exchange (arrival : RxArrival) : List LockAction :=
  [.segment arrival.segment, .rxEngTcpFsm, .stateTable,
    .rxSarRsp arrival.rxSar, .txSarRsp arrival.txSar, .rxEngTcpFsm,
    .stateTable]

def establishedSystem : LockSystem :=
  LockSystem.start fun _ => .established

theorem run_exchange (arrival : RxArrival) :
    Run LockStep establishedSystem (exchange arrival)
      ((exchange arrival).foldl LockSystem.act establishedSystem) := by
  repeat refine Run.head rfl ?_
  exact Run.refl _

theorem segment_releases_lock_of_bareAck :
    ((exchange (bareAck 1500)).foldl LockSystem.act
      establishedSystem).ReleasesLock :=
  (segment_releases_lock (run_exchange (bareAck 1500))).2
    (by
      rintro _ rfl
      refine ⟨trivial, ?_⟩
      rintro _ rfl
      refine ⟨fun transition => (by cases transition), ?_⟩
      rintro _ rfl
      refine ⟨trivial, ?_⟩
      rintro _ rfl
      refine ⟨trivial, ?_⟩
      rintro _ rfl
      refine ⟨trivial, ?_⟩
      rintro _ rfl
      refine ⟨fun _ loaded answers => ?_, ?_⟩
      · cases answers
        rfl
      rintro _ rfl
      exact ⟨trivial, trivial⟩)

/-- A duplicate of an old ACK leaves its session locked: the machine waits
for the next segment, and no request is on the way. -/
theorem not_releasesLock_oldAck :
    (¬ ∃ msgs final,
      HandlesSegment RxEngState.start (bareAck 500) msgs final ∧
      LocksOnce (bareAck 500) msgs) ∧
    ∃ system,
      Run LockStep establishedSystem (exchange (bareAck 500)) system ∧
      ¬ system.ReleasesLock := by
  refine
    ⟨fun locks => ?_, _, run_exchange (bareAck 500), fun releases => ?_⟩
  · have inside := (locksOnce_iff RxEngState.start (bareAck 500)).1 locks
    exact absurd inside (by decide)
  · have free := releases.free rfl rfl
    cases free

end TcpOffload
