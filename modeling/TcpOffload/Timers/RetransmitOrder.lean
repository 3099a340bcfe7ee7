import TcpOffload.Timers.RetransmitRuns

/-!
# The order of the requests to the retransmission timer

A request of the RX engine is registered when it is read, and executed once
another session has been looked at.  A request of the TX engine for the same
session can be executed in between.
-/

namespace TcpOffload

open Guarded

namespace RtimerEvent

/-- A request of the RX engine for the session is read. -/
def ReadsClear (id : TcpSessionID) : RtimerEvent → Prop
  | .readClear req => req.sessionId = id
  | _ => False

/-- A request of the TX engine for the session is read. -/
def ReadsSet (id : TcpSessionID) : RtimerEvent → Prop
  | .readSet req => req.sessionId = id
  | _ => False

instance (id : TcpSessionID) : DecidablePred (ReadsClear id)
  | .readClear req => inferInstanceAs (Decidable (req.sessionId = id))
  | .applied _ => isFalse fun impossible => impossible
  | .readSet _ => isFalse fun impossible => impossible
  | .swept _ _ => isFalse fun impossible => impossible

end RtimerEvent

section Entry

variable {times : TimerTimes} {full : Bool}
variable {state next : RetransmitTimerState}
variable {event : RtimerEvent} {id : TcpSessionID}

theorem RetransmitTimerEntry.tick_active_or
    {entry : RetransmitTimerEntry} (active : entry.active = true) :
    (entry.tick full id).1.active = true ∨
      (entry.tick full id).2 ≠ [] := by
  rw [tick, if_pos active]
  by_cases runs : entry.time ≠ 0
  · rw [if_pos runs]
    exact Or.inl active
  · rw [if_neg runs]
    by_cases isFull : full = true
    · rw [if_pos isFull]
      exact Or.inl active
    · rw [if_neg isFull]
      right
      split
      · exact List.cons_ne_nil _ _
      · exact List.cons_ne_nil _ _

theorem RetransmitTimerEntry.tick_inactive
    {entry : RetransmitTimerEntry} (inactive : entry.active = false) :
    entry.tick full id = (entry, []) := by
  rw [tick, if_neg (Bool.eq_false_iff.1 inactive)]

/-- An entry that runs goes on unless the session is stopped or something is
written for it. -/
theorem RetransmitTimerState.Moves.active_or
    (moves : state.Moves full next event)
    (active : (state.table id).active = true)
    (goesOn : event ≠ .applied ⟨id, true⟩) :
    (event.onEntry times full id (state.table id)).active = true ∨
      event.outputs id = true := by
  cases moves with
  | readClear =>
      exact Or.inl active
  | applied =>
      left
      rw [RtimerEvent.onEntry]
      split
      · rename_i same
        have noStop : state.rxEngReq.stop = false := by
          refine Bool.eq_false_iff.2 fun stop => goesOn ?_
          rw [← same, ← stop]
        rw [RetransmitTimerEntry.clear, noStop]
        simpa only [Bool.not_false, Bool.and_true] using active
      · exact active
  | readSet =>
      left
      rw [RtimerEvent.onEntry]
      split
      · rfl
      · exact active
  | swept =>
      rw [RtimerEvent.onEntry, RtimerEvent.outputs]
      split
      · rename_i same
        subst same
        rcases RetransmitTimerEntry.tick_active_or active with
          stays | written
        · exact Or.inl stays
        · right
          simpa only [decide_true, Bool.true_and, decide_eq_true_eq]
            using written
      · exact Or.inl active

theorem RetransmitTimerState.Moves.waits_of_applied
    {req : RxEngToRetransTimerReq}
    (moves : state.Moves full next event) (applies : event = .applied req) :
    state.waitForWrite = true ∧ state.rxEngReq = req := by
  cases moves with
  | readClear | readSet | swept =>
      cases applies
  | applied waits =>
      exact ⟨waits, RtimerEvent.applied.inj applies⟩

/-- An entry that does not run is started by a request of the TX engine
only. -/
theorem RetransmitTimerState.Moves.stays_inactive
    (moves : state.Moves full next event)
    (inactive : (state.table id).active = false)
    (noSet : ¬ event.ReadsSet id) :
    (event.onEntry times full id (state.table id)).active = false := by
  cases moves with
  | readClear =>
      exact inactive
  | applied =>
      rw [RtimerEvent.onEntry]
      split
      · rw [RetransmitTimerEntry.clear, inactive, Bool.false_and]
      · exact inactive
  | readSet =>
      rw [RtimerEvent.onEntry]
      split
      · rename_i same
        exact absurd same noSet
      · exact inactive
  | swept =>
      rw [RtimerEvent.onEntry]
      split
      · rw [RetransmitTimerEntry.tick_inactive inactive]
        exact inactive
      · exact inactive

/-- A session starts to wait when a request of the RX engine is read for
it. -/
theorem RetransmitTimerState.Moves.waited
    (moves : state.Moves full next event)
    (noClear : ¬ event.ReadsClear id) (waits : next.Waits id) :
    state.Waits id ∧ next.rxEngReq = state.rxEngReq := by
  obtain ⟨isWaiting, isId⟩ := waits
  cases moves with
  | readClear _ _ _ isReq =>
      rw [isReq] at isId
      exact absurd isId noClear
  | applied _ notWaiting =>
      rw [notWaiting] at isWaiting
      cases isWaiting
  | readSet _ _ sameWait sameReq =>
      rw [sameWait] at isWaiting
      rw [sameReq] at isId
      exact ⟨⟨isWaiting, isId⟩, sameReq⟩
  | swept _ _ sameWait sameReq =>
      rw [sameWait] at isWaiting
      rw [sameReq] at isId
      exact ⟨⟨isWaiting, isId⟩, sameReq⟩

/-- The session waits until its request is executed, which stops the
entry. -/
theorem RetransmitTimerState.Moves.waits_or_stopped
    (moves : state.Moves full next event)
    (stops : state.waitForWrite = true ∧ state.rxEngReq = ⟨id, true⟩) :
    next.waitForWrite = true ∧ next.rxEngReq = ⟨id, true⟩ ∨
      (event.onEntry times full id (state.table id)).active = false := by
  obtain ⟨waits, isStop⟩ := stops
  cases moves with
  | readClear notWaiting =>
      rw [waits] at notWaiting
      cases notWaiting
  | applied =>
      right
      rw [isStop, RtimerEvent.onEntry, if_pos rfl]
      exact Bool.and_false _
  | readSet _ _ sameWait sameReq =>
      rw [sameWait, sameReq]
      exact Or.inl ⟨waits, isStop⟩
  | swept _ _ sameWait sameReq =>
      rw [sameWait, sameReq]
      exact Or.inl ⟨waits, isStop⟩

end Entry

namespace RtimerSystem

/-- An entry set after the last request of the RX engine runs, or has run
out since, and is not to be stopped. -/
def SetLasts (id : TcpSessionID) (system : RtimerSystem) : Prop :=
  ∀ later req earlier,
    system.log = later ++ .readSet req :: earlier →
    req.sessionId = id →
    (∀ event ∈ later, ¬ event.ReadsClear id) →
    ((system.timer.table id).active = true ∨
        ∃ event ∈ later, event.outputs id = true) ∧
      (system.timer.Waits id → system.timer.rxEngReq.stop = false)

/-- An entry stopped after the last request of the TX engine does not run,
or is to be stopped. -/
def StopLasts (id : TcpSessionID) (system : RtimerSystem) : Prop :=
  ∀ later earlier,
    system.log = later ++ .readClear ⟨id, true⟩ :: earlier →
    (∀ event ∈ later, ¬ event.ReadsSet id) →
    system.timer.waitForWrite = true ∧
        system.timer.rxEngReq = ⟨id, true⟩ ∨
      (system.timer.table id).active = false

variable {times : TimerTimes} {id : TcpSessionID}
variable {system next : RtimerSystem} {action : RtimerAction}

/-- A request that is taken meanwhile is not lost, unless the session is to
be stopped. -/
theorem not_stop_of_set {full : Bool} {timer : RetransmitTimerState}
    {req : TxEngToRetransTimerReq}
    {next : RetransmitTimerState}
    (moves : timer.Moves full next (.readSet req))
    (same : req.sessionId = id)
    (noOvertaking : ¬ timer.SetsBeforeStop id)
    (waits : next.Waits id) :
    next.rxEngReq.stop = false := by
  cases moves with
  | readSet passes queued sameWait sameReq =>
      obtain ⟨isWaiting, isId⟩ := waits
      rw [sameWait] at isWaiting
      rw [sameReq] at isId ⊢
      by_contra stops
      refine noOvertaking ⟨isWaiting, ?_, ?_, req, ?_, same⟩
      · rw [← isId, ← Bool.eq_true_of_not_eq_false stops]
      · rw [RetransmitTimerState.passesClears, if_pos isWaiting]
          at passes
        rw [← isId]
        exact (beq_iff_eq.1 passes).symm
      · rw [queued]
        rfl

theorem setLasts_step
    (inTable : system.InTable) (isSession : id.toNat < tcpMaxSessions)
    (lasts : system.SetLasts id)
    (noOvertaking : ¬ system.SetsBeforeStop id action)
    (stepped : RtimerStep times system action next) :
    next.SetLasts id := by
  subst stepped
  cases action with
  | clearArrives | setArrives =>
      exact lasts
  | call full =>
      have spec := retransmitTimer_spec times full system.timer
      intro later req earlier isLog same noClear
      simp only [act] at isLog ⊢
      rw [spec.entries (inTable.next full) id isSession]
      rcases List.cons_eq_append_iff.1 isLog with
        ⟨noLater, isFirst⟩ | ⟨rest, isLater, isRest⟩
      · obtain ⟨isSet, -⟩ := List.cons.inj isFirst
        rw [← isSet] at spec ⊢
        refine ⟨Or.inl ?_, ?_⟩
        · rw [RtimerEvent.onEntry, if_pos same]
          rfl
        · exact not_stop_of_set spec.moves same noOvertaking
      · subst isLater
        have noClearHere := noClear _ List.mem_cons_self
        have noClearRest :
            ∀ event ∈ rest, ¬ event.ReadsClear id :=
          fun event member =>
            noClear event (List.mem_cons_of_mem _ member)
        obtain ⟨running, notStopped⟩ :=
          lasts rest req earlier isRest same noClearRest
        constructor
        · rcases running with active | ⟨event, member, written⟩
          · have goesOn :
                system.timer.event full ≠ .applied ⟨id, true⟩ := by
              intro stops
              obtain ⟨waits, isReq⟩ := spec.moves.waits_of_applied stops
              have noStop := notStopped ⟨waits, by rw [isReq]⟩
              rw [isReq] at noStop
              cases noStop
            rcases spec.moves.active_or active goesOn with
              stays | written
            · exact Or.inl stays
            · exact Or.inr ⟨_, List.mem_cons_self, written⟩
          · exact
              Or.inr
                ⟨event, List.mem_cons_of_mem _ member, written⟩
        · intro waits
          obtain ⟨waited, sameReq⟩ :=
            spec.moves.waited noClearHere waits
          rw [sameReq]
          exact notStopped waited

theorem stopLasts_step
    (inTable : system.InTable) (isSession : id.toNat < tcpMaxSessions)
    (lasts : system.StopLasts id)
    (stepped : RtimerStep times system action next) :
    next.StopLasts id := by
  subst stepped
  cases action with
  | clearArrives | setArrives =>
      exact lasts
  | call full =>
      have spec := retransmitTimer_spec times full system.timer
      intro later earlier isLog noSet
      simp only [act] at isLog ⊢
      rw [spec.entries (inTable.next full) id isSession]
      rcases List.cons_eq_append_iff.1 isLog with
        ⟨noLater, isFirst⟩ | ⟨rest, isLater, isRest⟩
      · obtain ⟨isClear, -⟩ := List.cons.inj isFirst
        rw [← isClear] at spec
        cases spec.moves with
        | readClear _ _ waits isReq =>
            exact Or.inl ⟨waits, isReq⟩
      · subst isLater
        have noSetRest :
            ∀ event ∈ rest, ¬ event.ReadsSet id :=
          fun event member =>
            noSet event (List.mem_cons_of_mem _ member)
        rcases lasts rest earlier isRest noSetRest with
          stops | inactive
        · exact spec.moves.waits_or_stopped stops
        · right
          exact
            spec.moves.stays_inactive inactive
              (noSet _ List.mem_cons_self)

theorem setLasts_start : RtimerSystem.start.SetLasts id := by
  intro later req earlier isLog
  cases later with
  | nil =>
      cases isLog
  | cons =>
      cases isLog

theorem stopLasts_start : RtimerSystem.start.StopLasts id := by
  intro later earlier isLog
  cases later with
  | nil =>
      cases isLog
  | cons =>
      cases isLog

end RtimerSystem

/-- No jump leads past the table, and no request of the TX engine is taken
while the session has yet to be stopped. -/
def RtimerSystem.InOrder
    (id : TcpSessionID) (system : RtimerSystem) (action : RtimerAction) :
    Prop :=
  (action.Valid ∧ ¬ system.JumpsPast action) ∧
    ¬ system.SetsBeforeStop id action

instance (id : TcpSessionID) (system : RtimerSystem) :
    DecidablePred (system.InOrder id) :=
  fun _ => inferInstanceAs (Decidable ((_ ∧ _) ∧ _))

/-- What a run keeps of the order of a session of the table. -/
theorem RtimerSystem.lasts_of_run
    {times : TimerTimes} {id : TcpSessionID}
    {actions : List RtimerAction} {final : RtimerSystem}
    (isSession : id.toNat < tcpMaxSessions)
    (guarded :
      Along (RtimerStep times) (InOrder id) RtimerSystem.start actions)
    (run : Run (RtimerStep times) RtimerSystem.start actions final) :
    final.SetLasts id ∧ final.StopLasts id := by
  have lasts : final.InTable ∧ final.SetLasts id ∧ final.StopLasts id :=
    invariant_of_run
      (fun (system : RtimerSystem) action next
          (known :
            system.InTable ∧ system.SetLasts id ∧ system.StopLasts id)
          (guard : system.InOrder id action)
          (stepped : RtimerStep times system action next) =>
        ⟨inTable_step known.1 guard.1 stepped,
          setLasts_step known.1 isSession known.2.1 guard.2 stepped,
          stopLasts_step known.1 isSession known.2.2 stepped⟩)
      ⟨inTable_start, setLasts_start, stopLasts_start⟩ guarded run
  exact lasts.2

/-- The requests for a session take effect in the order in which they are
read, in every run where no jump leads past the table and no request of the
TX engine is taken while the session has yet to be stopped. -/
theorem rtimer_keeps_order
    (times : TimerTimes) (id : TcpSessionID)
    (actions : List RtimerAction) (final : RtimerSystem)
    (guarded :
      Along (RtimerStep times) (RtimerSystem.InOrder id)
        RtimerSystem.start actions)
    (run : Run (RtimerStep times) RtimerSystem.start actions final)
    (executed : ¬ final.timer.Waits id) :
    (∀ later req earlier,
        final.log = later ++ .readSet req :: earlier →
        req.sessionId = id →
        (∀ event ∈ later, ¬ event.ReadsClear id) →
        (final.timer.table id).active = true ∨
          ∃ event ∈ later, event.outputs id = true) ∧
      ∀ later earlier,
        final.log = later ++ .readClear ⟨id, true⟩ :: earlier →
        (∀ event ∈ later, ¬ event.ReadsSet id) →
        (final.timer.table id).active = false := by
  have inTable : final.InTable :=
    invariant_of_run
      (fun (system : RtimerSystem) action next
          (inTable : system.InTable) (guard : system.InOrder id action)
          (stepped : RtimerStep times system action next) =>
        RtimerSystem.inTable_step inTable guard.1 stepped)
      RtimerSystem.inTable_start guarded run
  constructor
  · intro later req earlier isLog same noClear
    have isSession : id.toNat < tcpMaxSessions := by
      rw [← same]
      refine inTable.indices (.readSet req) ?_ _ rfl
      rw [isLog]
      exact List.mem_append_right _ List.mem_cons_self
    have lasts := (RtimerSystem.lasts_of_run isSession guarded run).1
    exact (lasts later req earlier isLog same noClear).1
  · intro later earlier isLog noSet
    have isSession : id.toNat < tcpMaxSessions := by
      refine inTable.reads ⟨id, true⟩ ?_
      rw [isLog]
      exact List.mem_append_right _ List.mem_cons_self
    have lasts := (RtimerSystem.lasts_of_run isSession guarded run).2
    rcases lasts later earlier isLog noSet with
      ⟨waits, isStop⟩ | inactive
    · exact absurd ⟨waits, by rw [isStop]⟩ executed
    · exact inactive

/-- A session is set, cleared, and set again after the sweep has looked at
another one. -/
def setAfterClearActions : List RtimerAction :=
  [.setArrives ⟨5, .tx⟩, .call false, .clearArrives ⟨5, true⟩,
    .call false, .setArrives ⟨6, .tx⟩, .call false, .call false,
    .setArrives ⟨5, .tx⟩, .call false]

theorem rtimer_keeps_order_setAfterClear :
    ((setAfterClearActions.foldl
        (RtimerSystem.act TimerTimes.simulation)
        RtimerSystem.start).timer.table 5).active = true ∨
      ∃ event ∈ ([] : List RtimerEvent), event.outputs 5 = true :=
  (rtimer_keeps_order TimerTimes.simulation 5 setAfterClearActions _
    (along_iff_enabled.2 (by decide))
    (RtimerSystem.run_act TimerTimes.simulation _)
    (by decide)).1 [] ⟨5, .tx⟩ _ rfl rfl (by decide)

/-- The session is set again while it is the last one looked at. -/
def setBeforeStopActions : List RtimerAction :=
  [.setArrives ⟨5, .tx⟩, .call false, .clearArrives ⟨5, true⟩,
    .call false, .setArrives ⟨5, .tx⟩, .call false,
    .setArrives ⟨6, .tx⟩, .call false, .call false]

/-- The request that is read last is the one that is lost. -/
theorem not_rtimer_keeps_order :
    ¬ ∀ (times : TimerTimes) (id : TcpSessionID)
      (actions : List RtimerAction) (final : RtimerSystem),
      Run (RtimerStep times) RtimerSystem.start actions final →
      ¬ final.timer.Waits id →
      ∀ later req earlier,
        final.log = later ++ .readSet req :: earlier →
        req.sessionId = id →
        (∃ event ∈ earlier, event.ReadsClear id) →
        (∀ event ∈ later, ¬ event.ReadsClear id) →
        (final.timer.table id).active = true ∨
          ∃ event ∈ later, event.outputs id = true := by
  intro keepsOrder
  have lost :=
    keepsOrder TimerTimes.simulation 5 setBeforeStopActions _
      (RtimerSystem.run_act TimerTimes.simulation _) (by decide)
      [.applied ⟨5, true⟩, .readSet ⟨6, .tx⟩] ⟨5, .tx⟩
      [.readClear ⟨5, true⟩, .readSet ⟨5, .tx⟩] (by decide) rfl
      ⟨.readClear ⟨5, true⟩, List.mem_cons_self, rfl⟩
      (by decide)
  revert lost
  decide

end TcpOffload
