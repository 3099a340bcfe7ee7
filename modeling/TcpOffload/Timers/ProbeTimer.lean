import Mathlib.Logic.Function.Basic
import TcpOffload.Conn

/-!
# The probe timer

`probe_timer.cpp`, compiled without `TCP_NODELAY`: an entry that runs out, or
is cleared, asks for a `TX` event.  A request of the TX engine is registered
in one call and written in a later one; otherwise a call looks at one entry.
-/

namespace TcpOffload

structure ProbeTimerEntry where
  time : BitVec 32
  active : Bool
deriving DecidableEq, Repr

structure ProbeTimerState where
  table : TcpSessionID → ProbeTimerEntry
  curCheckSessionId : TcpSessionID
  setSessionId : TcpSessionID
  prevSessionId : TcpSessionID
  waitForWrite : Bool
  clearReqs : List TcpSessionID
  setReqs : List TcpSessionID

/-- The look at an entry, with `full` for a full FIFO to the event engine;
`toBeClear` says that the RX engine has asked for it. -/
def ProbeTimerEntry.tick
    (full toBeClear : Bool) (entry : ProbeTimerEntry)
    (id : TcpSessionID) : ProbeTimerEntry × List Event :=
  if entry.active = true ∧ full = false then
    if entry.time = 0 ∨ toBeClear = true then
      (⟨0, false⟩, [Event.plain .tx id])
    else
      ({ entry with time := entry.time - 1 }, [])
  else
    (entry, [])

namespace ProbeTimerState

def start : ProbeTimerState where
  table := fun _ => ⟨0, false⟩
  curCheckSessionId := 0
  setSessionId := 0
  prevSessionId := 0
  waitForWrite := false
  clearReqs := []
  setReqs := []

/-- The registered session is written unless the entry was just looked
at. -/
def writeSet (time50ms : BitVec 32) (state : ProbeTimerState) :
    ProbeTimerState :=
  { state with
    table :=
      if state.setSessionId ≠ state.prevSessionId then
        Function.update state.table state.setSessionId ⟨time50ms, true⟩
      else
        state.table
    prevSessionId := state.prevSessionId - 1
    waitForWrite := state.setSessionId == state.prevSessionId }

def tickAt
    (full toBeClear : Bool) (id : TcpSessionID)
    (state : ProbeTimerState) : ProbeTimerState × List Event :=
  let ticked := (state.table id).tick full toBeClear id
  ({ state with table := Function.update state.table id ticked.1 },
    ticked.2)

/-- The entry that the RX engine clears, or else the next one in turn. -/
def check (full : Bool) (state : ProbeTimerState) :
    ProbeTimerState × List Event :=
  let cur := state.curCheckSessionId
  match state.clearReqs with
  | id :: later =>
      { state with
        prevSessionId := cur
        clearReqs := later }.tickAt full true id
  | [] =>
      let next := cur + 1
      { state with
        prevSessionId := cur
        curCheckSessionId :=
          if next.toNat = tcpMaxSessions then 0 else next }.tickAt full
        false cur

end ProbeTimerState

/-- `probe_timer`, with `TIME_50ms` as a parameter. -/
def probeTimer
    (time50ms : BitVec 32) (full : Bool) (state : ProbeTimerState) :
    ProbeTimerState × List Event :=
  if state.waitForWrite then
    (state.writeSet time50ms, [])
  else
    match state.setReqs with
    | id :: later =>
        ({ state with
            setSessionId := id, waitForWrite := true, setReqs := later },
          [])
    | [] => state.check full

/-! ## A probe is not lost -/

namespace ProbeTimerState

/-- A probe of the session is asked for, registered or running. -/
def Scheduled (state : ProbeTimerState) (id : TcpSessionID) : Prop :=
  id ∈ state.setReqs ∨
    state.waitForWrite = true ∧ state.setSessionId = id ∨
    (state.table id).active = true

instance (state : ProbeTimerState) (id : TcpSessionID) :
    Decidable (state.Scheduled id) :=
  inferInstanceAs (Decidable (_ ∨ _ ∧ _ ∨ _))

/-- The probe is still scheduled, or its `TX` event was written. -/
def KeepsProbe
    (id : TcpSessionID) (next : ProbeTimerState) (events : List Event) :
    Prop :=
  next.Scheduled id ∨ ∃ event ∈ events,
    event.type = .tx ∧ event.sessionId = id

variable {time50ms : BitVec 32} {full toBeClear : Bool}
variable {state : ProbeTimerState} {id other : TcpSessionID}

theorem writeSet_keeps (scheduled : state.Scheduled id) :
    (state.writeSet time50ms).Scheduled id := by
  by_cases isPrev : state.setSessionId = state.prevSessionId
  · rcases scheduled with asked | ⟨_, isOwn⟩ | active
    · exact Or.inl asked
    · exact Or.inr (Or.inl ⟨beq_iff_eq.2 isPrev, isOwn⟩)
    · refine Or.inr (Or.inr ?_)
      simp only [writeSet, isPrev, ne_eq, not_true_eq_false, if_false]
      exact active
  · have written (setId : state.setSessionId = id) :
        (state.writeSet time50ms).Scheduled id := by
      refine Or.inr (Or.inr ?_)
      rw [writeSet]
      simp only []
      rw [if_pos isPrev, setId, Function.update_self]
    rcases scheduled with asked | ⟨_, isOwn⟩ | active
    · exact Or.inl asked
    · exact written isOwn
    · by_cases isOwn : state.setSessionId = id
      · exact written isOwn
      · refine Or.inr (Or.inr ?_)
        simp only [writeSet, if_pos isPrev,
          Function.update_of_ne (Ne.symm isOwn)]
        exact active

/-- An entry that runs goes on or asks for its event. -/
theorem tickAt_keeps (active : (state.table id).active = true) :
    KeepsProbe id (state.tickAt full toBeClear other).1
      (state.tickAt full toBeClear other).2 := by
  by_cases isOther : other = id
  · rw [isOther]
    cases full with
    | true =>
        refine Or.inl (Or.inr (Or.inr ?_))
        simp only [tickAt, Function.update_self, ProbeTimerEntry.tick,
          Bool.true_eq_false, and_false, if_false]
        exact active
    | false =>
        by_cases runsOut :
            (state.table id).time = 0 ∨ toBeClear = true
        · refine Or.inr ⟨Event.plain .tx id, ?_, rfl, rfl⟩
          simp only [tickAt, ProbeTimerEntry.tick, active, and_self,
            if_true, if_pos runsOut]
          exact List.mem_cons_self
        · refine Or.inl (Or.inr (Or.inr ?_))
          simp only [tickAt, Function.update_self,
            ProbeTimerEntry.tick, active, and_self, if_true,
            if_neg runsOut]
  · refine Or.inl (Or.inr (Or.inr ?_))
    simp only [tickAt, Function.update_of_ne (Ne.symm isOther)]
    exact active

end ProbeTimerState

open ProbeTimerState in
/-- A scheduled probe stays scheduled until its event is written. -/
theorem probeTimer_keeps
    {time50ms : BitVec 32} {full : Bool} {state : ProbeTimerState}
    {id : TcpSessionID} (scheduled : state.Scheduled id) :
    KeepsProbe id (probeTimer time50ms full state).1
      (probeTimer time50ms full state).2 := by
  rw [probeTimer]
  split
  · exact Or.inl (writeSet_keeps scheduled)
  · rename_i notWaits
    split
    · rename_i first later queued
      refine Or.inl ?_
      rcases scheduled with asked | ⟨waits, _⟩ | active
      · rw [queued] at asked
        rcases List.mem_cons.1 asked with isFirst | isLater
        · exact Or.inr (Or.inl ⟨rfl, isFirst.symm⟩)
        · exact Or.inl isLater
      · exact absurd waits notWaits
      · exact Or.inr (Or.inr active)
    · rename_i noSet
      have active : (state.table id).active = true := by
        rcases scheduled with asked | ⟨waits, _⟩ | active
        · rw [noSet] at asked
          cases asked
        · exact absurd waits notWaits
        · exact active
      rw [check]
      split
      · exact tickAt_keeps active
      · exact tickAt_keeps active

end TcpOffload
