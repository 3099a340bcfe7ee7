import Mathlib.Logic.Function.Basic
import TcpOffload.Conn

/-!
# The close timer

`close_timer.cpp`: a session in `TIME_WAIT` is released when its entry has
run out.  One call looks at one entry; nothing ever stops an entry.
-/

namespace TcpOffload

structure CloseTimerEntry where
  time : BitVec 32
  active : Bool
deriving DecidableEq, Repr

structure CloseTimerState where
  table : TcpSessionID → CloseTimerEntry
  curSessionId : TcpSessionID
  setSessionId : TcpSessionID
  prevSessionId : TcpSessionID
  waitForWrite : Bool
  setReqs : List TcpSessionID

namespace CloseTimerState

def start : CloseTimerState where
  table := fun _ => ⟨0, false⟩
  curSessionId := 0
  setSessionId := 0
  prevSessionId := 0
  waitForWrite := false
  setReqs := []

/-- The registered session is written unless the entry was just looked
at. -/
def writeSet (times : TimerTimes) (state : CloseTimerState) :
    CloseTimerState :=
  { state with
    table :=
      if state.setSessionId ≠ state.prevSessionId then
        Function.update state.table state.setSessionId
          ⟨times.time60s, true⟩
      else
        state.table
    prevSessionId := state.prevSessionId - 1
    waitForWrite := state.setSessionId == state.prevSessionId }

/-- The look at the current entry. -/
def sweep (state : CloseTimerState) :
    CloseTimerState × List TcpSessionID :=
  let cur := state.curSessionId
  let entry := state.table cur
  let next := cur + 1
  let moved :=
    { state with
      prevSessionId := cur
      curSessionId := if next.toNat = tcpMaxSessions then 0 else next }
  if entry.active then
    if entry.time = 0 then
      ({ moved with
          table := Function.update state.table cur ⟨0, false⟩ },
        [cur])
    else
      ({ moved with
          table :=
            Function.update state.table cur
              { entry with time := entry.time - 1 } },
        [])
  else
    (moved, [])

end CloseTimerState

/-- `close_timer`, with the sessions that it releases. -/
def closeTimer (times : TimerTimes) (state : CloseTimerState) :
    CloseTimerState × List TcpSessionID :=
  if state.waitForWrite then
    (state.writeSet times, [])
  else
    match state.setReqs with
    | id :: later =>
        ({ state with
            setSessionId := id, waitForWrite := true, setReqs := later },
          [])
    | [] => state.sweep

namespace CloseTimerState

/-- The session whose entry runs out in the next call. -/
def runsOut (state : CloseTimerState) : Option TcpSessionID :=
  let entry := state.table state.curSessionId
  if state.waitForWrite = false ∧ state.setReqs = [] ∧
      entry.active = true ∧ entry.time = 0 then
    some state.curSessionId
  else
    none

theorem active_sweep {state : CloseTimerState} {id : TcpSessionID}
    (active : (state.sweep.1.table id).active = true) :
    (state.table id).active = true := by
  rw [sweep] at active
  simp only [] at active
  split at active
  · rename_i running
    by_cases isCur : id = state.curSessionId
    · rw [isCur]
      exact running
    · split at active
      · simpa only [Function.update_of_ne isCur] using active
      · simpa only [Function.update_of_ne isCur] using active
  · exact active

end CloseTimerState

/-- Where the register of a set request comes from. -/
theorem closeTimer_waits {times : TimerTimes} {state : CloseTimerState}
    (waits : (closeTimer times state).1.waitForWrite = true) :
    (state.waitForWrite = true ∧
        (closeTimer times state).1.setSessionId = state.setSessionId ∧
        (closeTimer times state).1.setReqs = state.setReqs) ∨
      ∃ id later, state.setReqs = id :: later ∧
        (closeTimer times state).1.setSessionId = id ∧
        (closeTimer times state).1.setReqs = later := by
  rw [closeTimer] at waits ⊢
  split at waits
  · rename_i waited
    rw [if_pos waited]
    exact Or.inl ⟨waited, rfl, rfl⟩
  · rename_i notWaited
    rw [if_neg notWaited]
    split at waits
    · rename_i id later queued
      exact Or.inr ⟨id, later, queued, rfl, rfl⟩
    · rw [CloseTimerState.sweep] at waits
      simp only [] at waits
      split at waits
      · split at waits <;> exact absurd waits notWaited
      · exact absurd waits notWaited

/-- An entry that runs ran before, or the registered request was written to
it. -/
theorem closeTimer_active {times : TimerTimes} {state : CloseTimerState}
    {id : TcpSessionID}
    (active : ((closeTimer times state).1.table id).active = true) :
    if state.waitForWrite = true ∧
        ¬(closeTimer times state).1.waitForWrite = true then
      id ≠ state.setSessionId → (state.table id).active = true
    else
      (state.table id).active = true := by
  rw [closeTimer] at active ⊢
  split at active
  · rename_i waited
    rw [if_pos waited]
    by_cases isPrev : state.setSessionId = state.prevSessionId
    · rw [if_neg (by simp [CloseTimerState.writeSet, isPrev])]
      simpa [CloseTimerState.writeSet, isPrev] using active
    · rw [if_pos (by simp [CloseTimerState.writeSet, isPrev, waited])]
      intro isOther
      simpa [CloseTimerState.writeSet, isPrev, isOther] using active
  · rename_i notWaited
    rw [if_neg fun both => notWaited both.1]
    split at active
    · exact active
    · exact CloseTimerState.active_sweep active

/-- A session is released when its entry runs out. -/
theorem closeTimer_releases {times : TimerTimes}
    {state : CloseTimerState} {id : TcpSessionID}
    (released : id ∈ (closeTimer times state).2) :
    state.runsOut = some id ∧ (state.table id).active = true := by
  rw [closeTimer] at released
  split at released
  · cases released
  · rename_i notWaited
    split at released
    · cases released
    · rename_i noSet
      rw [CloseTimerState.sweep] at released
      simp only [] at released
      split at released
      · rename_i running
        split at released
        · rename_i atZero
          rw [List.mem_singleton.1 released]
          refine ⟨?_, running⟩
          rw [CloseTimerState.runsOut]
          exact
            if_pos
              ⟨Bool.eq_false_iff.2 notWaited, noSet, running, atZero⟩
        · cases released
      · cases released

end TcpOffload
