import TcpOffload.Conn

/-!
# The event engine

`event_engine.cpp`: events of the RX engine pass at once, those of the timers
and of the TX application only while its counters say that every event before
them was read, by `ack_delay` and by the TX engine.
-/

namespace TcpOffload

/-- The streams of counts carry nothing but their length. -/
structure EventEngineState where
  writeEventCount : BitVec 8
  ackDelayReadCount : BitVec 8
  ackDelayWriteCount : BitVec 8
  txEngReadCount : BitVec 8
  rxEngEvents : List EventWithTuple
  timerEvents : List Event
  txAppEvents : List Event
  ackDelayReads : Nat
  ackDelayWrites : Nat
  txEngReads : Nat
deriving DecidableEq, Repr

/-- `EventWithTuple(ev)`. -/
def Event.withoutTuple (event : Event) : EventWithTuple :=
  ⟨event, ⟨0, 0, 0, 0⟩⟩

namespace EventEngineState

def start : EventEngineState where
  writeEventCount := 0
  ackDelayReadCount := 0
  ackDelayWriteCount := 0
  txEngReadCount := 0
  rxEngEvents := []
  timerEvents := []
  txAppEvents := []
  ackDelayReads := 0
  ackDelayWrites := 0
  txEngReads := 0

/-- The counters say that no event is on its way. -/
def CountersMatch (state : EventEngineState) : Prop :=
  state.writeEventCount = state.ackDelayReadCount ∧
    state.ackDelayWriteCount = state.txEngReadCount

instance (state : EventEngineState) : Decidable state.CountersMatch :=
  inferInstanceAs (Decidable (_ ∧ _))

/-- The event that passes in this call. -/
def pass (state : EventEngineState) :
    EventEngineState × List EventWithTuple :=
  match state.rxEngEvents with
  | event :: later =>
      ({ state with
          rxEngEvents := later
          writeEventCount := state.writeEventCount + 1 },
        [event])
  | [] =>
      if state.CountersMatch then
        match state.timerEvents with
        | event :: later =>
            ({ state with
                timerEvents := later
                writeEventCount := state.writeEventCount + 1 },
              [event.withoutTuple])
        | [] =>
            match state.txAppEvents with
            | event :: later =>
                ({ state with
                    txAppEvents := later
                    writeEventCount := state.writeEventCount + 1 },
                  [event.withoutTuple])
            | [] => (state, [])
      else
        (state, [])

/-- One count is read from each stream that has one. -/
def readCounts (state : EventEngineState) : EventEngineState :=
  { state with
    ackDelayReadCount :=
      if state.ackDelayReads = 0 then
        state.ackDelayReadCount
      else
        state.ackDelayReadCount + 1
    ackDelayReads := state.ackDelayReads - 1
    ackDelayWriteCount :=
      if state.ackDelayWrites = 0 then
        state.ackDelayWriteCount
      else
        state.ackDelayWriteCount + 1
    ackDelayWrites := state.ackDelayWrites - 1
    txEngReadCount :=
      if state.txEngReads = 0 then
        state.txEngReadCount
      else
        state.txEngReadCount + 1
    txEngReads := state.txEngReads - 1 }

end EventEngineState

/-- `event_engine`. -/
def eventEngine (state : EventEngineState) :
    EventEngineState × List EventWithTuple :=
  (state.pass.1.readCounts, state.pass.2)

/-- Where an event comes from. -/
inductive EventSource where
  | rxEng
  | timer
  | txApp
deriving DecidableEq, Repr

namespace EventEngineState

/-- The events that wait, as they are passed on. -/
def waiting (state : EventEngineState) : EventSource → List EventWithTuple
  | .rxEng => state.rxEngEvents
  | .timer => state.timerEvents.map Event.withoutTuple
  | .txApp => state.txAppEvents.map Event.withoutTuple

/-- The source that is served in this call. -/
def served (state : EventEngineState) : Option EventSource :=
  if state.rxEngEvents ≠ [] then
    some .rxEng
  else if state.CountersMatch then
    if state.timerEvents ≠ [] then
      some .timer
    else if state.txAppEvents ≠ [] then
      some .txApp
    else
      none
  else
    none

/-- An event is counted, and nothing else. -/
structure CountsEvent (state next : EventEngineState) : Prop where
  write : next.writeEventCount = state.writeEventCount + 1
  read : next.ackDelayReadCount = state.ackDelayReadCount
  delayed : next.ackDelayWriteCount = state.ackDelayWriteCount
  handled : next.txEngReadCount = state.txEngReadCount
  reads : next.ackDelayReads = state.ackDelayReads
  writes : next.ackDelayWrites = state.ackDelayWrites
  txEngReads : next.txEngReads = state.txEngReads

/-- What one call does: at most the first event of one source passes. -/
inductive Pass (state : EventEngineState) :
    EventEngineState → List EventWithTuple → Prop
  | passes {source : EventSource} {event : EventWithTuple}
      {next : EventEngineState} :
      state.served = some source →
      state.waiting source = event :: next.waiting source →
      (∀ other, other ≠ source → next.waiting other = state.waiting other) →
      CountsEvent state next →
      Pass state next [event]
  | holds :
      state.served = none →
      Pass state state []

theorem pass_cases (state : EventEngineState) :
    Pass state state.pass.1 state.pass.2 := by
  rw [pass]
  split
  · rename_i event later queued
    refine
      @Pass.passes state .rxEng event _ ?_ queued ?_
        ⟨rfl, rfl, rfl, rfl, rfl, rfl, rfl⟩
    · rw [served, queued, if_pos (List.cons_ne_nil _ _)]
    intro other isOther
    cases other with
    | rxEng =>
        exact absurd rfl isOther
    | timer =>
        rfl
    | txApp =>
        rfl
  · rename_i noRx
    have notRx : ¬state.rxEngEvents ≠ [] := fun some => some noRx
    split
    · rename_i counters
      split
      · rename_i event later queued
        refine
          @Pass.passes state .timer event.withoutTuple _ ?_ ?_ ?_
            ⟨rfl, rfl, rfl, rfl, rfl, rfl, rfl⟩
        · rw [served, if_neg notRx, if_pos counters, queued,
            if_pos (List.cons_ne_nil _ _)]
        · rw [waiting, queued]
          rfl
        · intro other isOther
          cases other with
          | rxEng =>
              rfl
          | timer =>
              exact absurd rfl isOther
          | txApp =>
              rfl
      · rename_i noTimer
        have notTimer : ¬state.timerEvents ≠ [] := fun some => some noTimer
        split
        · rename_i event later queued
          refine
            @Pass.passes state .txApp event.withoutTuple _ ?_ ?_ ?_
              ⟨rfl, rfl, rfl, rfl, rfl, rfl, rfl⟩
          · rw [served, if_neg notRx, if_pos counters, if_neg notTimer,
              queued, if_pos (List.cons_ne_nil _ _)]
          · rw [waiting, queued]
            rfl
          · intro other isOther
            cases other with
            | rxEng =>
                rfl
            | timer =>
                rfl
            | txApp =>
                exact absurd rfl isOther
        · rename_i noTxApp
          refine Pass.holds ?_
          rw [served, if_neg notRx, if_pos counters, if_neg notTimer,
            if_neg (fun some => some noTxApp)]
    · rename_i noMatch
      refine Pass.holds ?_
      rw [served, if_neg notRx, if_neg noMatch]

end EventEngineState

end TcpOffload
