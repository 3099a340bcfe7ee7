import TcpOffload.Timers.RetransmitOrder

/-!
# The budget of retransmissions

What is written for a session between two of its clears is numbered from 0.
`TCP_MAX_RETX_ATTEMPTS` timeouts and the release of the session follow each
other, unless a request for another session makes the sweep jump past the
table.
-/

namespace TcpOffload

open Guarded

/-! ## The history of a session -/

/-- What was written for the session since its last clear. -/
def outputsSinceClear (id : TcpSessionID) : List RtimerEvent → Nat
  | [] => 0
  | .readClear _ :: earlier => outputsSinceClear id earlier
  | .applied req :: earlier =>
      if req.sessionId = id then 0 else outputsSinceClear id earlier
  | .readSet _ :: earlier => outputsSinceClear id earlier
  | .swept current msgs :: earlier =>
      if current = id ∧ msgs ≠ [] then
        outputsSinceClear id earlier + 1
      else
        outputsSinceClear id earlier

/-- The type of the last request of the TX engine since something was
written for the session. -/
def setSinceOutput (id : TcpSessionID) :
    List RtimerEvent → Option EventType
  | [] => none
  | .readClear _ :: earlier => setSinceOutput id earlier
  | .applied _ :: earlier => setSinceOutput id earlier
  | .readSet req :: earlier =>
      if req.sessionId = id then
        some req.type
      else
        setSinceOutput id earlier
  | .swept current msgs :: earlier =>
      if current = id ∧ msgs ≠ [] then
        none
      else
        setSinceOutput id earlier

/-- What is written for a session the `count`-th time. -/
def rtimerOutput
    (id : TcpSessionID) (type : EventType) (count : Nat) :
    List RetransmitTimerMsg :=
  let attempt := count % (tcpMaxRetxAttempts + 1)
  if attempt < tcpMaxRetxAttempts then
    [.setEvent (Event.retry type id (BitVec.ofNat 3 (attempt + 1)))]
  else
    [.release id,
      if type = .syn then
        .txAppNotify ⟨id, false⟩
      else
        .rxAppNotify ⟨id, 0, 0, 0, true⟩]

theorem rtimerOutput_ne_nil
    (id : TcpSessionID) (type : EventType) (count : Nat) :
    rtimerOutput id type count ≠ [] := by
  simp only [rtimerOutput]
  split
  · exact List.cons_ne_nil _ _
  · exact List.cons_ne_nil _ _

namespace RetransmitTimerEntry

variable {full : Bool} {entry : RetransmitTimerEntry}
variable {id : TcpSessionID} {count : Nat}

/-- The sweep leaves the retries and the type of an entry, or writes what
the retries stand for and counts it. -/
theorem tick_cases
    (isCount : entry.retries.toNat = count % (tcpMaxRetxAttempts + 1)) :
    (entry.tick full id).2 = [] ∧
        (entry.tick full id).1.retries = entry.retries ∧
        (entry.tick full id).1.type = entry.type ∧
        (entry.tick full id).1.active = entry.active ∨
      entry.active = true ∧
        (entry.tick full id).2 = rtimerOutput id entry.type count ∧
        (entry.tick full id).1.retries.toNat =
          (count + 1) % (tcpMaxRetxAttempts + 1) ∧
        (entry.tick full id).1.active = false := by
  rw [tick]
  by_cases active : entry.active = true
  · rw [if_pos active]
    by_cases runs : entry.time ≠ 0
    · rw [if_pos runs]
      exact Or.inl ⟨rfl, rfl, rfl, rfl⟩
    rw [if_neg runs]
    by_cases isFull : full = true
    · rw [if_pos isFull]
      exact Or.inl ⟨rfl, rfl, rfl, rfl⟩
    rw [if_neg isFull]
    right
    by_cases another : entry.retries.toNat < tcpMaxRetxAttempts
    · rw [if_pos another]
      have small : count % 5 < 4 := by
        rw [isCount] at another
        exact another
      have noWrap : entry.retries.toNat + (1 : BitVec 3).toNat < 2 ^ 3 :=
        Nat.lt_of_lt_of_le (Nat.succ_lt_succ another) (by decide)
      have counted :
          (entry.retries + 1).toNat = count % 5 + 1 := by
        rw [BitVec.toNat_add_of_lt noWrap, isCount]
        rfl
      have asNumber :
          entry.retries + 1 = BitVec.ofNat 3 (count % 5 + 1) := by
        rw [← counted, BitVec.ofNat_toNat, BitVec.setWidth_eq]
      refine ⟨active, ?_, ?_, rfl⟩
      · rw [rtimerOutput, asNumber]
        exact (if_pos small).symm
      · change (entry.retries + 1).toNat = (count + 1) % 5
        omega
    · rw [if_neg another]
      have isLast : count % 5 = 4 := by
        rw [isCount] at another
        have below := Nat.mod_lt count (by decide : 0 < 5)
        simp only [tcpMaxRetxAttempts] at another
        omega
      refine ⟨active, ?_, ?_, rfl⟩
      · rw [rtimerOutput, giveUp]
        exact (if_neg (by simp [tcpMaxRetxAttempts, isLast])).symm
      · change 0 = (count + 1) % 5
        omega
  · rw [if_neg active]
    exact Or.inl ⟨rfl, rfl, rfl, rfl⟩

end RetransmitTimerEntry

/-! ## The invariant -/

/-- The entry of a session agrees with the history of the session. -/
structure RetransmitTimerEntry.Recorded
    (entry : RetransmitTimerEntry) (id : TcpSessionID)
    (log : List RtimerEvent) : Prop where
  retries :
    entry.retries.toNat =
      outputsSinceClear id log % (tcpMaxRetxAttempts + 1)
  type :
    entry.active = true → setSinceOutput id log = some entry.type

/-- What was written for the session was due. -/
def OutputsDue (id : TcpSessionID) (log : List RtimerEvent) : Prop :=
  ∀ later msgs earlier,
    log = later ++ .swept id msgs :: earlier →
    msgs ≠ [] →
    ∃ type,
      setSinceOutput id earlier = some type ∧
      msgs = rtimerOutput id type (outputsSinceClear id earlier)

section Step

variable {times : TimerTimes} {full : Bool} {id : TcpSessionID}
variable {log : List RtimerEvent}

theorem OutputsDue.cons {event : RtimerEvent}
    (due : OutputsDue id log)
    (isDue :
      ∀ msgs, event = .swept id msgs → msgs ≠ [] →
        ∃ type,
          setSinceOutput id log = some type ∧
          msgs = rtimerOutput id type (outputsSinceClear id log)) :
    OutputsDue id (event :: log) := by
  intro later msgs earlier isLog written
  rcases List.cons_eq_append_iff.1 isLog with
    ⟨noLater, isFirst⟩ | ⟨rest, isLater, isRest⟩
  · obtain ⟨isSwept, isEarlier⟩ := List.cons.inj isFirst
    rw [isEarlier]
    exact isDue msgs isSwept.symm written
  · exact due rest msgs earlier isRest written

variable {state next : RetransmitTimerState} {event : RtimerEvent}

theorem RetransmitTimerState.Moves.recorded
    (moves : state.Moves full next event)
    (recorded : (state.table id).Recorded id log) :
    (event.onEntry times full id (state.table id)).Recorded id
      (event :: log) := by
  obtain ⟨retries, type⟩ := recorded
  cases moves with
  | readClear =>
      exact ⟨retries, type⟩
  | applied =>
      rw [RtimerEvent.onEntry]
      split
      · rename_i same
        refine ⟨?_, ?_⟩
        · rw [outputsSinceClear, if_pos same]
          rfl
        · intro active
          simp only [RetransmitTimerEntry.clear, Bool.and_eq_true]
            at active
          exact type active.1
      · rename_i other
        refine ⟨?_, type⟩
        rw [outputsSinceClear, if_neg other]
        exact retries
  | readSet =>
      rw [RtimerEvent.onEntry]
      split
      · rename_i same
        refine ⟨retries, fun _ => ?_⟩
        rw [setSinceOutput, if_pos same]
        rfl
      · rename_i other
        refine ⟨retries, fun active => ?_⟩
        rw [setSinceOutput, if_neg other]
        exact type active
  | swept =>
      rw [RtimerEvent.onEntry]
      split
      · rename_i same
        subst same
        rcases RetransmitTimerEntry.tick_cases retries with
          ⟨silent, sameRetries, sameType, sameActive⟩ |
            ⟨active, isOutput, counted, inactive⟩
        · have notWritten :
              ¬ (state.curSessionId = state.curSessionId ∧
                ((state.table state.curSessionId).tick full
                  state.curSessionId).2 ≠ []) :=
            fun written => written.2 silent
          refine ⟨?_, ?_⟩
          · rw [outputsSinceClear, if_neg notWritten, sameRetries]
            exact retries
          · rw [setSinceOutput, if_neg notWritten, sameActive, sameType]
            exact type
        · have written :
              ((state.table state.curSessionId).tick full
                state.curSessionId).2 ≠ [] := by
            rw [isOutput]
            exact rtimerOutput_ne_nil _ _ _
          refine ⟨?_, fun isActive => ?_⟩
          · rw [outputsSinceClear, if_pos ⟨rfl, written⟩]
            exact counted
          · rw [inactive] at isActive
            cases isActive
      · rename_i other
        refine ⟨?_, fun active => ?_⟩
        · rw [outputsSinceClear, if_neg fun written => other written.1]
          exact retries
        · rw [setSinceOutput, if_neg fun written => other written.1]
          exact type active

theorem RetransmitTimerState.Moves.due
    (moves : state.Moves full next event)
    (recorded : (state.table id).Recorded id log)
    (due : OutputsDue id log) :
    OutputsDue id (event :: log) := by
  apply due.cons
  intro msgs isSwept written
  cases moves with
  | readClear | applied | readSet =>
      cases isSwept
  | swept =>
      obtain ⟨isId, isMsgs⟩ := RtimerEvent.swept.inj isSwept
      subst isId
      rcases RetransmitTimerEntry.tick_cases recorded.retries with
        ⟨silent, -⟩ | ⟨active, isOutput, -⟩
      · rw [isMsgs] at silent
        exact absurd silent written
      · exact
          ⟨_, recorded.type active, isMsgs.symm.trans isOutput⟩

/-- Something is written for a session only when its entry runs. -/
theorem RetransmitTimerState.Moves.active_of_output
    (moves : state.Moves full next event)
    (outputs : event.outputs id = true) :
    (state.table id).active = true := by
  cases moves with
  | readClear | applied | readSet =>
      cases outputs
  | swept =>
      simp only [RtimerEvent.outputs, Bool.and_eq_true,
        decide_eq_true_eq] at outputs
      obtain ⟨same, written⟩ := outputs
      subst same
      by_contra notActive
      rw [RetransmitTimerEntry.tick_inactive
        (Bool.eq_false_iff.2 notActive)] at written
      exact written rfl

end Step

def RtimerSystem.Budgeted
    (id : TcpSessionID) (system : RtimerSystem) : Prop :=
  (system.timer.table id).Recorded id system.log ∧
    OutputsDue id system.log

theorem RtimerSystem.budgeted_step
    {times : TimerTimes} {id : TcpSessionID}
    {system next : RtimerSystem} {action : RtimerAction}
    (inTable : system.InTable) (isSession : id.toNat < tcpMaxSessions)
    (budgeted : system.Budgeted id)
    (stepped : RtimerStep times system action next) :
    next.Budgeted id := by
  subst stepped
  cases action with
  | clearArrives | setArrives =>
      exact budgeted
  | call full =>
      obtain ⟨recorded, due⟩ := budgeted
      have spec := retransmitTimer_spec times full system.timer
      refine ⟨?_, spec.moves.due recorded due⟩
      simp only [act]
      rw [spec.entries (inTable.next full) id isSession]
      exact spec.moves.recorded recorded

theorem RtimerSystem.budgeted_start (id : TcpSessionID) :
    RtimerSystem.start.Budgeted id := by
  refine ⟨⟨rfl, fun active => by cases active⟩, ?_⟩
  intro later msgs earlier isLog
  cases later with
  | nil =>
      cases isLog
  | cons =>
      cases isLog

/-- Between two clears of a session, four timeouts and its release follow
each other, each after a request of the TX engine of its own, as long as no
jump leads past the table; a call writes for the sessions whose entries
run. -/
theorem rtimer_budget
    (times : TimerTimes) (id : TcpSessionID)
    (actions : List RtimerAction) (final : RtimerSystem)
    (guarded :
      Along (RtimerStep times)
        (fun system action =>
          action.Valid ∧ ¬ system.JumpsPast action)
        RtimerSystem.start actions)
    (run : Run (RtimerStep times) RtimerSystem.start actions final) :
    (∀ later msgs earlier,
        final.log = later ++ .swept id msgs :: earlier →
        msgs ≠ [] →
        ∃ type,
          setSinceOutput id earlier = some type ∧
          msgs = rtimerOutput id type (outputsSinceClear id earlier)) ∧
      ∀ full,
        (retransmitTimer times full final.timer).2 =
            (final.timer.event full).msgs ∧
          ((final.timer.event full).outputs id = true →
            (final.timer.table id).active = true) := by
  constructor
  · intro later msgs earlier isLog
    have inTable : final.InTable :=
      invariant_of_run
        (fun system action next (inTable : system.InTable)
            (guard : action.Valid ∧ ¬ system.JumpsPast action)
            (stepped : RtimerStep times system action next) =>
          RtimerSystem.inTable_step inTable guard stepped)
        RtimerSystem.inTable_start guarded run
    have isSession : id.toNat < tcpMaxSessions := by
      refine inTable.indices (.swept id msgs) ?_ id rfl
      rw [isLog]
      exact List.mem_append_right _ List.mem_cons_self
    have budgeted : final.InTable ∧ final.Budgeted id :=
      invariant_of_run
        (fun (system : RtimerSystem) action next
            (known : system.InTable ∧ system.Budgeted id)
            (guard : action.Valid ∧ ¬ system.JumpsPast action)
            (stepped : RtimerStep times system action next) =>
          ⟨RtimerSystem.inTable_step known.1 guard stepped,
            RtimerSystem.budgeted_step known.1 isSession known.2 stepped⟩)
        ⟨RtimerSystem.inTable_start, RtimerSystem.budgeted_start id⟩
        guarded run
    exact budgeted.2.2 later msgs earlier isLog
  · intro full
    have spec := retransmitTimer_spec times full final.timer
    exact ⟨spec.msgs, spec.moves.active_of_output⟩

/-- Entry 4 is set, and looked at twice. -/
def timeoutActions : List RtimerAction :=
  .setArrives ⟨4, .tx⟩ :: List.replicate 134 (.call false)

def timeoutLog : List RtimerEvent :=
  (timeoutActions.foldl (RtimerSystem.act TimerTimes.simulation)
    RtimerSystem.start).log

theorem rtimer_budget_first :
    ∃ type,
      setSinceOutput 4 timeoutLog.tail = some type ∧
      [.setEvent (Event.retry .tx 4 1)] =
        rtimerOutput 4 type (outputsSinceClear 4 timeoutLog.tail) :=
  (rtimer_budget TimerTimes.simulation 4 timeoutActions _
    (along_iff_enabled.2 (by decide +kernel))
    (RtimerSystem.run_act TimerTimes.simulation timeoutActions)).1
    [] [.setEvent (Event.retry .tx 4 1)] timeoutLog.tail
    (by decide +kernel) (List.cons_ne_nil _ _)

/-! ## A jump past the table -/

namespace RtimerSystem

/-- No request waits and the sweep stands at `cursor`; session 2 has the
entry `entry`, and nothing was written for it. -/
structure Sweeping
    (cursor : Nat) (entry : RetransmitTimerEntry) (system : RtimerSystem) :
    Prop where
  notWaits : system.timer.waitForWrite = false
  noClears : system.timer.clearReqs = []
  noSets : system.timer.setReqs = []
  atCursor : system.timer.curSessionId = BitVec.ofNat 16 cursor
  isEntry : system.timer.table 2 = entry
  silent : outputsSinceClear 2 system.log = 0

def sweep (times : TimerTimes) (system : RtimerSystem) (count : Nat) :
    RtimerSystem :=
  (List.replicate count (.call false)).foldl (act times) system

variable (times : TimerTimes) {system : RtimerSystem}
variable {cursor : Nat} {entry : RetransmitTimerEntry}

/-- A look of the sweep, at entry 2 or at another one. -/
theorem Sweeping.look
    (sweeping : system.Sweeping cursor entry) (next : Nat)
    (isNext :
      (if (BitVec.ofNat 16 cursor + 1).toNat ≥ tcpMaxSessions then
          0
        else
          BitVec.ofNat 16 cursor + 1) =
        BitVec.ofNat 16 next)
    (quiet :
      BitVec.ofNat 16 cursor = 2 → (entry.tick false 2).2 = []) :
    (system.act times (.call false)).Sweeping next
      (if RetransmitTimerState.place 2 =
          RetransmitTimerState.place (BitVec.ofNat 16 cursor) then
        (entry.tick false (BitVec.ofNat 16 cursor)).1
      else
        entry) := by
  obtain ⟨notWaits, noClears, noSets, atCursor, isEntry, silent⟩ := sweeping
  rw [act, retransmitTimer, RetransmitTimerState.event, notWaits, noClears]
  simp only [RetransmitTimerState.setOrSweep,
    RetransmitTimerState.setOrSweepEvent, noSets, atCursor]
  refine ⟨notWaits, noClears, noSets, isNext, ?_, ?_⟩
  · refine RetransmitTimerState.table_writeEntry.trans ?_
    split
    · rename_i isPlace
      rw [← RetransmitTimerState.table_of_place isPlace, isEntry]
    · exact isEntry
  · rw [outputsSinceClear, if_neg]
    · exact silent
    · rintro ⟨isTwo, written⟩
      rw [isTwo, isEntry] at written
      exact written (quiet isTwo)

theorem Sweeping.writes (sweeping : system.Sweeping 2 entry) :
    (system.act times (.call false)).log =
      .swept 2 (entry.tick false 2).2 :: system.log := by
  obtain ⟨notWaits, noClears, noSets, atCursor, isEntry, -⟩ := sweeping
  rw [act, RetransmitTimerState.event, notWaits, noClears, ← isEntry]
  simp only [RetransmitTimerState.setOrSweepEvent, noSets, atCursor]
  rfl

/-- The sweep goes on over other entries. -/
theorem Sweeping.sweeps
    (sweeping : system.Sweeping cursor entry) (count : Nat)
    (others : 2 < cursor ∨ cursor + count ≤ 2)
    (inTable : cursor + count < tcpMaxSessions) :
    (system.sweep times count).Sweeping (cursor + count) entry := by
  induction count generalizing system cursor with
  | zero =>
      exact sweeping
  | succ count inductionHypothesis =>
      have next : cursor + 1 < tcpMaxSessions := by
        omega
      rw [tcpMaxSessions] at next inTable
      have looked :=
        sweeping.look times (cursor + 1)
          (by rw [if_neg (by rw [tcpMaxSessions]; bv_omega)]; bv_omega)
          (by bv_omega)
      rw [if_neg] at looked
      · have isSum : cursor + (count + 1) = cursor + 1 + count := by
          omega
        rw [isSum]
        exact
          inductionHypothesis looked (by omega)
            (by rw [tcpMaxSessions]; omega)
      · apply RetransmitTimerState.place_ne
        · rw [tcpMaxSessions]
          bv_omega
        · decide
        · bv_omega

/-- A request for a session is executed. -/
theorem Sweeping.sets
    (sweeping : system.Sweeping cursor entry)
    (req : TxEngToRetransTimerReq) (next : Nat)
    (isNext :
      ({ system.timer with
          curSessionId := BitVec.ofNat 16 cursor }).cursorAfterSet
          req.sessionId =
        BitVec.ofNat 16 next) :
    ((system.act times (.setArrives req)).act times
        (.call false)).Sweeping next
      (if RetransmitTimerState.place 2 =
          RetransmitTimerState.place req.sessionId then
        entry.set times req.type
      else
        entry) := by
  obtain ⟨notWaits, noClears, noSets, atCursor, isEntry, silent⟩ := sweeping
  rw [act, act, retransmitTimer, RetransmitTimerState.event]
  simp only [notWaits, noClears, noSets, List.nil_append,
    RetransmitTimerState.setOrSweep, RetransmitTimerState.setOrSweepEvent]
  refine ⟨rfl, rfl, rfl, ?_, ?_, silent⟩
  · rw [← isNext, ← atCursor]
    rfl
  · refine RetransmitTimerState.table_writeEntry.trans ?_
    split
    · rename_i isPlace
      rw [← isEntry, RetransmitTimerState.table_of_place isPlace]
      rfl
    · exact isEntry

theorem foldl_replicate (count : Nat) :
    (List.replicate count (.call false)).foldl (act times) system =
      system.sweep times count :=
  rfl

theorem sweep_add (first second : Nat) :
    system.sweep times (first + second) =
      (system.sweep times first).sweep times second := by
  rw [sweep, ← List.replicate_append_replicate, List.foldl_append]
  rfl

/-- The sweep comes to entry 2 again. -/
theorem Sweeping.turns (sweeping : system.Sweeping 3 entry) :
    (system.sweep times 127).Sweeping 2 entry := by
  have toLast : (system.sweep times 124).Sweeping 127 entry :=
    sweeping.sweeps times 124 (by decide) (by decide)
  have toFirst : ((system.sweep times 124).sweep times 1).Sweeping 0 entry :=
    toLast.look times 0 (by decide) fun isTwo =>
      absurd isTwo (by decide)
  have isSum : 127 = 124 + 1 + 2 := rfl
  rw [isSum, sweep_add, sweep_add]
  exact toFirst.sweeps times 2 (by decide) (by decide)

theorem Sweeping.counts
    (sweeping : system.Sweeping 3 entry) (active : entry.active = true)
    (runs : entry.time ≠ 0) :
    (system.sweep times 128).Sweeping 3
      { entry with time := entry.time - 1 } := by
  have counted :
      entry.tick false 2 = ({ entry with time := entry.time - 1 }, []) := by
    rw [RetransmitTimerEntry.tick, if_pos active, if_pos runs]
  have looked :
      (((system.sweep times 127).sweep times 1)).Sweeping 3
        (entry.tick false 2).1 :=
    (sweeping.turns times).look times 3 (by decide) fun _ =>
      congrArg Prod.snd counted
  rw [counted] at looked
  have isSum : 128 = 127 + 1 := rfl
  rw [isSum, sweep_add]
  exact looked

end RtimerSystem

/-- Session 2 is set, its time passes, and the last session is set when the
sweep stands at entry 125; then session 2 is set again. -/
def jumpsOverActions : List RtimerAction :=
  List.replicate 3 (.call false) ++
    .setArrives ⟨2, .tx⟩ :: .call false ::
      (List.replicate 250 (.call false) ++
        .setArrives ⟨127, .tx⟩ :: .call false :: .call false ::
          (List.replicate 2 (.call false) ++
            .call false :: .setArrives ⟨2, .tx⟩ :: .call false ::
              List.replicate 767 (.call false)))

theorem RtimerSystem.sweeping_jumpsOver :
    (jumpsOverActions.foldl (act TimerTimes.simulation) start).Sweeping 2
      ⟨0, 1, true, .tx⟩ := by
  let times := TimerTimes.simulation
  have starts :
      (start.sweep TimerTimes.simulation 3).Sweeping 3
        ⟨0, 0, false, .tx⟩ :=
    ⟨rfl, rfl, rfl, rfl, rfl, rfl⟩
  have isSet : Sweeping 3 ⟨1, 0, true, .tx⟩ _ :=
    starts.sets times ⟨2, .tx⟩ 3 (by decide)
  have ranOut : Sweeping 3 ⟨0, 0, true, .tx⟩ _ :=
    isSet.counts times rfl (by decide)
  have before := ranOut.sweeps times 122 (by decide) (by decide)
  have jumped : Sweeping 130 ⟨0, 0, true, .tx⟩ _ :=
    before.sets times ⟨127, .tx⟩ 130 (by decide)
  have past : Sweeping 0 ⟨0, 1, false, .tx⟩ _ :=
    jumped.look times 0 (by decide) (by decide)
  have first := past.sweeps times 2 (by decide) (by decide)
  have third : Sweeping 3 ⟨0, 1, false, .tx⟩ _ :=
    first.look times 3 (by decide) (by decide)
  have again : Sweeping 3 ⟨5, 1, true, .tx⟩ _ :=
    third.sets times ⟨2, .tx⟩ 3 (by decide)
  have once : Sweeping 3 ⟨4, 1, true, .tx⟩ _ :=
    again.counts times rfl (by decide)
  have twice : Sweeping 3 ⟨3, 1, true, .tx⟩ _ :=
    once.counts times rfl (by decide)
  have thrice : Sweeping 3 ⟨2, 1, true, .tx⟩ _ :=
    twice.counts times rfl (by decide)
  have fourTimes : Sweeping 3 ⟨1, 1, true, .tx⟩ _ :=
    thrice.counts times rfl (by decide)
  have fiveTimes : Sweeping 3 ⟨0, 1, true, .tx⟩ _ :=
    fourTimes.counts times rfl (by decide)
  have turned := fiveTimes.turns times
  have toJump : 250 = 128 + 122 := rfl
  have toTimeout : 767 = 128 + 128 + 128 + 128 + 128 + 127 := rfl
  rw [jumpsOverActions]
  simp only [List.foldl_append, List.foldl_cons,
    foldl_replicate]
  rw [toJump, toTimeout]
  simp only [sweep_add]
  exact turned

/-- The first timeout of session 2 is written for session 130, and the next
one is numbered 2. -/
theorem not_rtimer_budget :
    ¬ ∀ (times : TimerTimes) (id : TcpSessionID)
      (actions : List RtimerAction) (final : RtimerSystem),
      id.toNat < tcpMaxSessions →
      (∀ action ∈ actions, action.Valid) →
      Run (RtimerStep times) RtimerSystem.start actions final →
      ∀ later msgs earlier,
        final.log = later ++ .swept id msgs :: earlier →
        msgs ≠ [] →
        ∃ type,
          setSinceOutput id earlier = some type ∧
          msgs = rtimerOutput id type (outputsSinceClear id earlier) := by
  intro budgeted
  have valid : ∀ action ∈ jumpsOverActions ++ [.call false],
      action.Valid := by
    decide +kernel
  have sweeping := RtimerSystem.sweeping_jumpsOver
  obtain ⟨type, -, isOutput⟩ :=
    budgeted TimerTimes.simulation 2 (jumpsOverActions ++ [.call false]) _
      (by decide) valid (RtimerSystem.run_act TimerTimes.simulation _)
      [] [.setEvent (Event.retry .tx 2 2)] _
      (by
        rw [List.foldl_append]
        exact sweeping.writes TimerTimes.simulation)
      (List.cons_ne_nil _ _)
  rw [sweeping.silent] at isOutput
  cases type <;> exact absurd isOutput (by decide)

end TcpOffload
