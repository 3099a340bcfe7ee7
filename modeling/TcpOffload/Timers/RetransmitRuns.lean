import TcpOffload.Library.Guarded
import TcpOffload.Timers.RetransmitTimer

/-!
# Runs of the retransmission timer

Requests arrive in any order between the calls of `retransmit_timer`.  What
each call does with an entry of the table is recorded, the latest call first.
Nothing is said of the table once a call has used an index past it.
-/

namespace TcpOffload

open Guarded

/-! ## What a call does -/

/-- A call reads a request of the RX engine, executes it, takes a request of
the TX engine, or looks at an entry in the sweep and writes `msgs`. -/
inductive RtimerEvent where
  | readClear (req : RxEngToRetransTimerReq)
  | applied (req : RxEngToRetransTimerReq)
  | readSet (req : TxEngToRetransTimerReq)
  | swept (id : TcpSessionID) (msgs : List RetransmitTimerMsg)
deriving DecidableEq, Repr

namespace RtimerEvent

/-- The index into `retrans_timer_table`. -/
def index : RtimerEvent → Option TcpSessionID
  | .readClear _ => none
  | .applied req => some req.sessionId
  | .readSet req => some req.sessionId
  | .swept id _ => some id

/-- The index is one of an entry. -/
def InTable (event : RtimerEvent) : Prop :=
  ∀ id ∈ event.index, id.toNat < tcpMaxSessions

instance : DecidablePred InTable :=
  fun event => Option.decidableForallMem event.index

def msgs : RtimerEvent → List RetransmitTimerMsg
  | .swept _ msgs => msgs
  | _ => []

/-- Something is written for the session. -/
def outputs (event : RtimerEvent) (id : TcpSessionID) : Bool :=
  match event with
  | .swept current msgs => decide (current = id) && decide (msgs ≠ [])
  | _ => false

/-- What becomes of the entry of a session. -/
def onEntry
    (times : TimerTimes) (full : Bool) (event : RtimerEvent)
    (id : TcpSessionID) (entry : RetransmitTimerEntry) :
    RetransmitTimerEntry :=
  match event with
  | .readClear _ => entry
  | .applied req =>
      if req.sessionId = id then entry.clear times req.stop else entry
  | .readSet req =>
      if req.sessionId = id then entry.set times req.type else entry
  | .swept current _ =>
      if current = id then (entry.tick full id).1 else entry

end RtimerEvent

namespace RetransmitTimerState

/-- The request that is taken, or the look of the sweep. -/
def setOrSweepEvent (full : Bool) (state : RetransmitTimerState) :
    RtimerEvent :=
  match state.setReqs with
  | req :: _ => .readSet req
  | [] =>
      .swept state.curSessionId
        ((state.table state.curSessionId).tick full
          state.curSessionId).2

/-- What the next call does. -/
def event (full : Bool) (state : RetransmitTimerState) : RtimerEvent :=
  match state.waitForWrite, state.clearReqs with
  | true, _ =>
      if state.rxEngReq.sessionId ≠ state.prevSessionId then
        .applied state.rxEngReq
      else
        state.setOrSweepEvent full
  | false, req :: _ => .readClear req
  | false, [] => state.setOrSweepEvent full

/-- A request of the RX engine for the session was read and not yet
executed. -/
def Waits (state : RetransmitTimerState) (id : TcpSessionID) : Prop :=
  state.waitForWrite = true ∧ state.rxEngReq.sessionId = id

/-- The sweep stands so closely before the entry to be set that its jump
leads past the table. -/
def JumpsPast (state : RetransmitTimerState) : Prop :=
  state.passesClears = true ∧
    ∃ req ∈ state.setReqs.head?,
      (req.sessionId.toNat : Int) - 3 < state.curSessionId.toNat ∧
      state.curSessionId.toNat ≤ req.sessionId.toNat ∧
      tcpMaxSessions ≤ state.curSessionId.toNat + 5

/-- A request of the TX engine for the session is taken while the session
has yet to be stopped. -/
def SetsBeforeStop (state : RetransmitTimerState) (id : TcpSessionID) :
    Prop :=
  state.waitForWrite = true ∧
    state.rxEngReq = ⟨id, true⟩ ∧
    state.prevSessionId = id ∧
    ∃ req ∈ state.setReqs.head?, req.sessionId = id

instance (state : RetransmitTimerState) (id : TcpSessionID) :
    Decidable (state.Waits id) :=
  inferInstanceAs (Decidable (_ ∧ _))

instance (state : RetransmitTimerState) : Decidable state.JumpsPast :=
  inferInstanceAs (Decidable (_ ∧ _))

instance (state : RetransmitTimerState) (id : TcpSessionID) :
    Decidable (state.SetsBeforeStop id) :=
  inferInstanceAs (Decidable (_ ∧ _))

end RetransmitTimerState

/-- The session that is given up is the one looked at. -/
theorem RetransmitTimerState.lt_of_givesUp
    {full : Bool} {state : RetransmitTimerState} {id : TcpSessionID}
    (inTable : (state.event full).InTable)
    (givesUp : state.givesUp full = some id) :
    id.toNat < tcpMaxSessions := by
  rw [RetransmitTimerState.givesUp] at givesUp
  split at givesUp
  · rename_i conditions
    obtain ⟨passes, noSet, -⟩ := conditions
    rw [← Option.some.inj givesUp]
    have isSweep :
        state.event full =
          .swept state.curSessionId
            ((state.table state.curSessionId).tick full
              state.curSessionId).2 := by
      rw [passesClears] at passes
      rw [event, setOrSweepEvent, noSet]
      split at passes
      · rename_i waits
        rw [waits]
        exact if_neg (not_not.2 (beq_iff_eq.1 passes))
      · rename_i notWaits
        rw [Bool.eq_false_iff.2 notWaits, beq_iff_eq.1 passes]
    rw [isSweep] at inTable
    exact inTable _ rfl
  · cases givesUp

section Call

variable {times : TimerTimes} {full : Bool}
variable {state : RetransmitTimerState}

/-- The effect of a call on the registers other than the table. -/
inductive RetransmitTimerState.Moves
    (full : Bool) (state next : RetransmitTimerState) :
    RtimerEvent → Prop
  | readClear {req : RxEngToRetransTimerReq} :
      state.waitForWrite = false →
      req ∈ state.clearReqs →
      next.waitForWrite = true →
      next.rxEngReq = req →
      next.curSessionId = state.curSessionId →
      Moves full state next (.readClear req)
  | applied :
      state.waitForWrite = true →
      next.waitForWrite = false →
      next.rxEngReq = state.rxEngReq →
      next.curSessionId = state.curSessionId →
      Moves full state next (.applied state.rxEngReq)
  | readSet {req : TxEngToRetransTimerReq}
      {later : List TxEngToRetransTimerReq} :
      state.passesClears = true →
      state.setReqs = req :: later →
      next.waitForWrite = state.waitForWrite →
      next.rxEngReq = state.rxEngReq →
      next.curSessionId = state.cursorAfterSet req.sessionId →
      Moves full state next (.readSet req)
  | swept :
      state.passesClears = true →
      state.setReqs = [] →
      next.waitForWrite = state.waitForWrite →
      next.rxEngReq = state.rxEngReq →
      next.curSessionId.toNat < tcpMaxSessions →
      Moves full state next
        (.swept state.curSessionId
          ((state.table state.curSessionId).tick full
            state.curSessionId).2)

/-- A call takes the first request of the TX engine, or none. -/
inductive RetransmitTimerState.Takes
    (state next : RetransmitTimerState) : RtimerEvent → Prop
  | first {req : TxEngToRetransTimerReq}
      {later : List TxEngToRetransTimerReq} :
      state.setReqs = req :: later →
      next.setReqs = later →
      Takes state next (.readSet req)
  | none {event : RtimerEvent} :
      next.setReqs = state.setReqs →
      (∀ req, event ≠ .readSet req) →
      Takes state next event

theorem RetransmitTimerState.setOrSweep_takes
    (times : TimerTimes) (full : Bool) (state : RetransmitTimerState) :
    state.Takes (state.setOrSweep times full).1
      (state.setOrSweepEvent full) := by
  rw [setOrSweep, setOrSweepEvent]
  cases queued : state.setReqs with
  | cons req later =>
      exact Takes.first queued rfl
  | nil =>
      exact Takes.none rfl fun _ same => by cases same

theorem retransmitTimer_takes
    (times : TimerTimes) (full : Bool) (state : RetransmitTimerState) :
    state.Takes (retransmitTimer times full state).1
      (state.event full) := by
  rw [retransmitTimer, RetransmitTimerState.event]
  cases state.waitForWrite with
  | true =>
      by_cases other : state.rxEngReq.sessionId ≠ state.prevSessionId
      · simp only [if_pos other]
        exact
          RetransmitTimerState.Takes.none rfl fun _ same => by cases same
      · simp only [if_neg other]
        exact state.setOrSweep_takes times full
  | false =>
      cases state.clearReqs with
      | cons =>
          exact
            RetransmitTimerState.Takes.none rfl fun _ same => by cases same
      | nil =>
          exact state.setOrSweep_takes times full

/-- What a call writes, and what it does to the table and the registers, the
table as long as the index is one of an entry. -/
structure RetransmitTimerState.CallSpec
    (times : TimerTimes) (full : Bool) (state next : RetransmitTimerState)
    (msgs : List RetransmitTimerMsg) (event : RtimerEvent) : Prop where
  msgs : msgs = event.msgs
  moves : state.Moves full next event
  clearsLeft : next.clearReqs ⊆ state.clearReqs
  setsLeft : next.setReqs ⊆ state.setReqs
  entries :
    event.InTable →
      ∀ id, id.toNat < tcpMaxSessions →
        next.table id = event.onEntry times full id (state.table id)

/-- In the table another index is one of another entry. -/
theorem RetransmitTimerState.table_writeEntry_inTable
    {id other : TcpSessionID} {entry : RetransmitTimerEntry}
    (inTable : id.toNat < tcpMaxSessions)
    (otherInTable : other.toNat < tcpMaxSessions) :
    (state.writeEntry id entry).table other =
      if id = other then entry else state.table other := by
  rw [table_writeEntry]
  by_cases same : id = other
  · rw [if_pos same, same, if_pos rfl]
  · rw [if_neg same,
      if_neg (place_ne inTable otherInTable (Ne.symm same))]

theorem RetransmitTimerState.setOrSweep_spec
    (passes : state.passesClears = true) :
    state.CallSpec times full (state.setOrSweep times full).1
      (state.setOrSweep times full).2 (state.setOrSweepEvent full) := by
  rw [setOrSweep, setOrSweepEvent]
  cases queued : state.setReqs with
  | cons req later =>
      have left : later ⊆ state.setReqs := by
        rw [queued]
        exact List.subset_cons_self req later
      refine
        ⟨rfl, Moves.readSet passes queued rfl rfl rfl, List.Subset.refl _,
          left, fun inTable id isSession => ?_⟩
      refine
        (table_writeEntry_inTable (inTable _ rfl) isSession).trans ?_
      by_cases same : req.sessionId = id
      · subst same
        simp only [RtimerEvent.onEntry, if_true]
      · simp only [RtimerEvent.onEntry, if_neg same]
  | nil =>
      refine
        ⟨rfl, Moves.swept passes queued rfl rfl ?_, List.Subset.refl _,
          List.Subset.refl state.setReqs, fun inTable id isSession => ?_⟩
      · simp only []
        split
        · decide
        · omega
      · refine
          (table_writeEntry_inTable (inTable _ rfl) isSession).trans ?_
        by_cases same : state.curSessionId = id
        · subst same
          simp only [RtimerEvent.onEntry, if_true]
        · simp only [RtimerEvent.onEntry, if_neg same]

theorem retransmitTimer_spec
    (times : TimerTimes) (full : Bool) (state : RetransmitTimerState) :
    state.CallSpec times full (retransmitTimer times full state).1
      (retransmitTimer times full state).2 (state.event full) := by
  rw [retransmitTimer, RetransmitTimerState.event]
  cases waits : state.waitForWrite with
  | true =>
      by_cases other : state.rxEngReq.sessionId ≠ state.prevSessionId
      · simp only [if_pos other]
        refine
          ⟨rfl, RetransmitTimerState.Moves.applied waits rfl rfl rfl,
            List.Subset.refl _, List.Subset.refl _,
            fun inTable id isSession => ?_⟩
        refine
          (RetransmitTimerState.table_writeEntry_inTable
            (inTable _ rfl) isSession).trans ?_
        by_cases same : state.rxEngReq.sessionId = id
        · subst same
          simp only [RtimerEvent.onEntry, if_true]
        · simp only [RtimerEvent.onEntry, if_neg same]
      · simp only [if_neg other]
        apply RetransmitTimerState.setOrSweep_spec
        rw [RetransmitTimerState.passesClears, if_pos waits]
        exact beq_iff_eq.2 (not_not.1 other)
  | false =>
      cases clears : state.clearReqs with
      | cons req later =>
          have read : req ∈ state.clearReqs := by
            rw [clears]
            exact List.mem_cons_self
          have left : later ⊆ state.clearReqs := by
            rw [clears]
            exact List.subset_cons_self req later
          exact
            ⟨rfl,
              RetransmitTimerState.Moves.readClear waits read rfl rfl rfl,
              left, List.Subset.refl _, fun _ _ _ => rfl⟩
      | nil =>
          apply RetransmitTimerState.setOrSweep_spec
          rw [RetransmitTimerState.passesClears, waits, clears]
          rfl

end Call

/-! ## Runs -/

/-- The timer and what its calls have done, the latest one first. -/
structure RtimerSystem where
  timer : RetransmitTimerState
  log : List RtimerEvent

inductive RtimerAction where
  | clearArrives (req : RxEngToRetransTimerReq)
  | setArrives (req : TxEngToRetransTimerReq)
  | call (full : Bool)
deriving DecidableEq, Repr

/-- Requests are made for sessions of the table. -/
def RtimerAction.Valid : RtimerAction → Prop
  | .clearArrives req => req.sessionId.toNat < tcpMaxSessions
  | .setArrives req => req.sessionId.toNat < tcpMaxSessions
  | .call _ => True

instance : DecidablePred RtimerAction.Valid
  | .clearArrives _ => inferInstanceAs (Decidable (_ < _))
  | .setArrives _ => inferInstanceAs (Decidable (_ < _))
  | .call _ => isTrue trivial

namespace RtimerSystem

def start : RtimerSystem :=
  ⟨RetransmitTimerState.start, []⟩

def act (times : TimerTimes) (system : RtimerSystem) :
    RtimerAction → RtimerSystem
  | .clearArrives req =>
      { system with
        timer :=
          { system.timer with
            clearReqs := system.timer.clearReqs ++ [req] } }
  | .setArrives req =>
      { system with
        timer :=
          { system.timer with setReqs := system.timer.setReqs ++ [req] } }
  | .call full =>
      ⟨(retransmitTimer times full system.timer).1,
        system.timer.event full :: system.log⟩

end RtimerSystem

def RtimerStep (times : TimerTimes)
    (system : RtimerSystem) (action : RtimerAction)
    (next : RtimerSystem) : Prop :=
  next = system.act times action

/-- The call jumps past the table. -/
def RtimerSystem.JumpsPast (system : RtimerSystem) :
    RtimerAction → Prop
  | .call _ => system.timer.JumpsPast
  | _ => False

/-- The call takes a request of the TX engine for a session that has yet to
be stopped. -/
def RtimerSystem.SetsBeforeStop
    (id : TcpSessionID) (system : RtimerSystem) : RtimerAction → Prop
  | .call _ => system.timer.SetsBeforeStop id
  | _ => False

instance (system : RtimerSystem) : DecidablePred system.JumpsPast
  | .clearArrives _ => isFalse id
  | .setArrives _ => isFalse id
  | .call _ => inferInstanceAs (Decidable system.timer.JumpsPast)

instance (id : TcpSessionID) (system : RtimerSystem) :
    DecidablePred (system.SetsBeforeStop id)
  | .clearArrives _ => isFalse fun impossible => impossible
  | .setArrives _ => isFalse fun impossible => impossible
  | .call _ =>
      inferInstanceAs (Decidable (system.timer.SetsBeforeStop id))

theorem RtimerSystem.run_act
    (times : TimerTimes) (actions : List RtimerAction) :
    Run (RtimerStep times) RtimerSystem.start actions
      (actions.foldl (RtimerSystem.act times) RtimerSystem.start) :=
  @Run.of_act _ _ (RtimerStep times) (RtimerSystem.act times)
    (fun _ _ => rfl) RtimerSystem.start actions

/-! ## The index into the table -/

/-- The sweep and the requests stay within the table. -/
structure RtimerSystem.InTable (system : RtimerSystem) : Prop where
  position : system.timer.curSessionId.toNat < tcpMaxSessions
  waiting : system.timer.rxEngReq.sessionId.toNat < tcpMaxSessions
  clears :
    ∀ req ∈ system.timer.clearReqs, req.sessionId.toNat < tcpMaxSessions
  sets :
    ∀ req ∈ system.timer.setReqs, req.sessionId.toNat < tcpMaxSessions
  indices : ∀ event ∈ system.log, event.InTable
  reads :
    ∀ req, .readClear req ∈ system.log →
      req.sessionId.toNat < tcpMaxSessions

/-- The jump is the only move that can lead past the table. -/
theorem RetransmitTimerState.cursorAfterSet_lt
    {state : RetransmitTimerState} {req : TxEngToRetransTimerReq}
    (passes : state.passesClears = true)
    (first : req ∈ state.setReqs.head?)
    (inTable : state.curSessionId.toNat < tcpMaxSessions)
    (noJump : ¬ state.JumpsPast) :
    (state.cursorAfterSet req.sessionId).toNat < tcpMaxSessions := by
  rw [cursorAfterSet]
  split
  · rename_i isNear
    have staysIn : state.curSessionId.toNat + 5 < tcpMaxSessions := by
      by_contra leaves
      exact
        noJump
          ⟨passes, req, first, isNear.1, isNear.2, Nat.not_lt.1 leaves⟩
    have noWrap : state.curSessionId.toNat + 5 < 2 ^ 16 :=
      Nat.lt_trans staysIn (by decide)
    rw [BitVec.toNat_add_of_lt noWrap]
    exact staysIn
  · exact inTable

theorem RetransmitTimerState.Moves.index_lt
    {full : Bool} {state next : RetransmitTimerState}
    {event : RtimerEvent} (moves : state.Moves full next event)
    (position : state.curSessionId.toNat < tcpMaxSessions)
    (waiting : state.rxEngReq.sessionId.toNat < tcpMaxSessions)
    (sets :
      ∀ req ∈ state.setReqs, req.sessionId.toNat < tcpMaxSessions) :
    event.InTable := by
  cases moves with
  | readClear =>
      rintro id ⟨⟩
  | applied =>
      rintro id ⟨⟩
      exact waiting
  | readSet _ queued =>
      rintro id ⟨⟩
      apply sets
      rw [queued]
      exact List.mem_cons_self
  | swept =>
      rintro id ⟨⟩
      exact position

theorem RtimerSystem.InTable.next {system : RtimerSystem}
    (inTable : system.InTable) (full : Bool) :
    (system.timer.event full).InTable :=
  (retransmitTimer_spec TimerTimes.simulation full
    system.timer).moves.index_lt inTable.position inTable.waiting
      inTable.sets

theorem RtimerSystem.inTable_step
    {times : TimerTimes} {system next : RtimerSystem}
    {action : RtimerAction} (inTable : system.InTable)
    (guard : action.Valid ∧ ¬ system.JumpsPast action)
    (stepped : RtimerStep times system action next) :
    next.InTable := by
  obtain ⟨valid, noJump⟩ := guard
  subst stepped
  cases action with
  | clearArrives req =>
      refine { inTable with clears := ?_ }
      intro other member
      rcases List.mem_append.1 member with earlier | isNew
      · exact inTable.clears other earlier
      · rw [List.mem_singleton.1 isNew]
        exact valid
  | setArrives req =>
      refine { inTable with sets := ?_ }
      intro other member
      rcases List.mem_append.1 member with earlier | isNew
      · exact inTable.sets other earlier
      · rw [List.mem_singleton.1 isNew]
        exact valid
  | call full =>
      have spec := retransmitTimer_spec times full system.timer
      have clears :
          ∀ req ∈ (retransmitTimer times full system.timer).1.clearReqs,
            req.sessionId.toNat < tcpMaxSessions :=
        fun req member => inTable.clears req (spec.clearsLeft member)
      have sets :
          ∀ req ∈ (retransmitTimer times full system.timer).1.setReqs,
            req.sessionId.toNat < tcpMaxSessions :=
        fun req member => inTable.sets req (spec.setsLeft member)
      have indices :
          ∀ event ∈ system.timer.event full :: system.log,
            event.InTable := by
        intro event member
        rcases List.mem_cons.1 member with isNew | earlier
        · rw [isNew]
          exact inTable.next full
        · exact inTable.indices event earlier
      have reads :
          ∀ req, .readClear req ∈ system.timer.event full :: system.log →
            req.sessionId.toNat < tcpMaxSessions := by
        intro req member
        rcases List.mem_cons.1 member with isNew | earlier
        · rw [← isNew] at spec
          cases spec.moves with
          | readClear _ read =>
              exact inTable.clears req read
        · exact inTable.reads req earlier
      have registers :
          (retransmitTimer times full
              system.timer).1.curSessionId.toNat < tcpMaxSessions ∧
            (retransmitTimer times full
              system.timer).1.rxEngReq.sessionId.toNat
                < tcpMaxSessions := by
        generalize system.timer.event full = event at spec
        cases spec.moves with
        | readClear _ read _ isReq sameCur =>
            rw [sameCur, isReq]
            exact ⟨inTable.position, inTable.clears _ read⟩
        | applied _ _ sameReq sameCur =>
            rw [sameCur, sameReq]
            exact ⟨inTable.position, inTable.waiting⟩
        | readSet passes queued _ sameReq isCur =>
            rw [isCur, sameReq]
            refine ⟨?_, inTable.waiting⟩
            exact
              RetransmitTimerState.cursorAfterSet_lt passes
                (by rw [queued]; rfl) inTable.position noJump
        | swept _ _ _ sameReq isIn =>
            rw [sameReq]
            exact ⟨isIn, inTable.waiting⟩
      exact ⟨registers.1, registers.2, clears, sets, indices, reads⟩

theorem RtimerSystem.inTable_start : RtimerSystem.start.InTable where
  position := by decide
  waiting := by decide
  clears := fun _ member => by cases member
  sets := fun _ member => by cases member
  indices := fun _ member => by cases member
  reads := fun _ member => by cases member

/-- As long as no jump leads past it, the table is read and written at the
indices of its entries. -/
theorem rtimer_index_in_table
    (times : TimerTimes) (actions : List RtimerAction)
    (final : RtimerSystem)
    (guarded :
      Along (RtimerStep times)
        (fun system action =>
          action.Valid ∧ ¬ system.JumpsPast action)
        RtimerSystem.start actions)
    (run : Run (RtimerStep times) RtimerSystem.start actions final) :
    ∀ event ∈ final.log, ∀ id ∈ event.index,
      id.toNat < tcpMaxSessions :=
  (invariant_of_run
    (fun system action next (inTable : system.InTable)
        (guard : action.Valid ∧ ¬ system.JumpsPast action)
        (stepped : RtimerStep times system action next) =>
      RtimerSystem.inTable_step inTable guard stepped)
    RtimerSystem.inTable_start guarded run).indices

def jumpsInTable : List RtimerAction :=
  [.setArrives ⟨0, .tx⟩, .call false, .call false]

/-- A request for the first session makes the sweep jump within the
table. -/
theorem rtimer_index_in_table_jump :
    (jumpsInTable.foldl (RtimerSystem.act TimerTimes.simulation)
        RtimerSystem.start).timer.curSessionId = 6 ∧
      ∀ event ∈
          (jumpsInTable.foldl (RtimerSystem.act TimerTimes.simulation)
            RtimerSystem.start).log,
        ∀ id ∈ event.index, id.toNat < tcpMaxSessions :=
  ⟨by decide,
    rtimer_index_in_table TimerTimes.simulation jumpsInTable _
      (along_iff_enabled.2 (by decide))
      (RtimerSystem.run_act TimerTimes.simulation _)⟩

/-- The sweep reaches entry 125 when the last session is set. -/
def jumpingActions : List RtimerAction :=
  List.replicate 125 (.call false) ++
    [.setArrives ⟨127, .tx⟩, .call false, .call false]

/-- The sweep then looks at entry 130. -/
theorem not_rtimer_index_in_table :
    ¬ ∀ (times : TimerTimes) (actions : List RtimerAction)
      (final : RtimerSystem),
      (∀ action ∈ actions, action.Valid) →
      Run (RtimerStep times) RtimerSystem.start actions final →
      ∀ event ∈ final.log, ∀ id ∈ event.index,
        id.toNat < tcpMaxSessions := by
  intro allInTable
  have valid : ∀ action ∈ jumpingActions, action.Valid := by
    decide +kernel
  have inTable :=
    allInTable TimerTimes.simulation jumpingActions _ valid
      (RtimerSystem.run_act TimerTimes.simulation jumpingActions)
  have looksPast :
      .swept 130 [] ∈
        (jumpingActions.foldl (RtimerSystem.act TimerTimes.simulation)
          RtimerSystem.start).log := by
    decide +kernel
  exact absurd (inTable _ looksPast 130 rfl) (by decide)

end TcpOffload
