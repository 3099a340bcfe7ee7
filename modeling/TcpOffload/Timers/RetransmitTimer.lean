import Mathlib.Logic.Function.Basic
import TcpOffload.Conn

/-!
# The retransmission timer

`retransmit_timer.cpp`: an entry that runs out asks for a retransmission,
and after `TCP_MAX_RETX_ATTEMPTS` of them it releases the session.  Requests
of the RX engine come first, then those of the TX engine, then the sweep over
the table.
-/

namespace TcpOffload

structure RetransmitTimerEntry where
  time : BitVec 32
  retries : BitVec 3
  active : Bool
  type : EventType
deriving DecidableEq, Repr

structure RetransmitTimerState where
  retransTimerTable : Fin tcpMaxSessions → RetransmitTimerEntry
  curSessionId : TcpSessionID
  waitForWrite : Bool
  prevSessionId : TcpSessionID
  rxEngReq : RxEngToRetransTimerReq
  clearReqs : List RxEngToRetransTimerReq
  setReqs : List TxEngToRetransTimerReq

inductive RetransmitTimerMsg where
  | setEvent (event : Event)
  | release (id : TcpSessionID)
  | rxAppNotify (notification : AppNotificationNoTDEST)
  | txAppNotify (rsp : OpenConnRspNoTDEST)
deriving DecidableEq, Repr

namespace RetransmitTimerEntry

/-- The timeout of an entry that is started. -/
def timeout
    (times : TimerTimes) (entry : RetransmitTimerEntry) : BitVec 32 :=
  match entry.retries.toNat with
  | 0 => times.time1s
  | 1 => times.time5s
  | 2 => times.time10s
  | 3 => times.time15s
  | _ => times.time30s

/-- A request of the TX engine; an entry that runs keeps its time. -/
def set
    (times : TimerTimes) (entry : RetransmitTimerEntry)
    (type : EventType) : RetransmitTimerEntry where
  time := if entry.active then entry.time else entry.timeout times
  retries := entry.retries
  active := true
  type := type

/-- A request of the RX engine. -/
def clear
    (times : TimerTimes) (entry : RetransmitTimerEntry) (stop : Bool) :
    RetransmitTimerEntry where
  time := if stop then 0 else times.time1s
  retries := 0
  active := entry.active && !stop
  type := entry.type

/-- The messages of a session that is given up. -/
def giveUp (entry : RetransmitTimerEntry) (id : TcpSessionID) :
    List RetransmitTimerMsg :=
  [.release id,
    if entry.type = .syn then
      .txAppNotify ⟨id, false⟩
    else
      .rxAppNotify ⟨id, 0, 0, 0, true⟩]

/-- The look of the sweep at an entry, with `full` for a full FIFO to the
event engine. -/
def tick
    (full : Bool) (entry : RetransmitTimerEntry) (id : TcpSessionID) :
    RetransmitTimerEntry × List RetransmitTimerMsg :=
  if entry.active then
    if entry.time ≠ 0 then
      ({ entry with time := entry.time - 1 }, [])
    else if full then
      (entry, [])
    else if entry.retries.toNat < tcpMaxRetxAttempts then
      ({ entry with
          time := 0, retries := entry.retries + 1, active := false },
        [.setEvent (Event.retry entry.type id (entry.retries + 1))])
    else
      ({ entry with time := 0, retries := 0, active := false },
        entry.giveUp id)
  else
    (entry, [])

end RetransmitTimerEntry

namespace RetransmitTimerState

def start : RetransmitTimerState where
  retransTimerTable := fun _ => ⟨0, 0, false, .tx⟩
  curSessionId := 0
  waitForWrite := false
  prevSessionId := 0
  rxEngReq := ⟨0, false⟩
  clearReqs := []
  setReqs := []

theorem tcpMaxSessions_pos : 0 < tcpMaxSessions := by
  decide

/-- The entry at an index.  What the code does at an index past the table is
undefined; here the index is cut to the width of the table's address. -/
def place (id : TcpSessionID) : Fin tcpMaxSessions :=
  ⟨id.toNat % tcpMaxSessions, Nat.mod_lt _ tcpMaxSessions_pos⟩

def table (state : RetransmitTimerState) (id : TcpSessionID) :
    RetransmitTimerEntry :=
  state.retransTimerTable (place id)

def writeEntry
    (state : RetransmitTimerState) (id : TcpSessionID)
    (entry : RetransmitTimerEntry) : RetransmitTimerState :=
  { state with
    retransTimerTable :=
      Function.update state.retransTimerTable (place id) entry }

/-- The registered request of the RX engine is executed. -/
def writeClear (times : TimerTimes) (state : RetransmitTimerState) :
    RetransmitTimerState :=
  let req := state.rxEngReq
  { state.writeEntry req.sessionId
      ((state.table req.sessionId).clear times req.stop) with
    waitForWrite := false }

/-- The sweep jumps ahead of an entry that is about to be set.  The bounds
are compared as numbers, so that a small ID has no entry before it. -/
def cursorAfterSet
    (state : RetransmitTimerState) (id : TcpSessionID) : TcpSessionID :=
  if (id.toNat : Int) - 3 < state.curSessionId.toNat ∧
      state.curSessionId.toNat ≤ id.toNat then
    state.curSessionId + 5
  else
    state.curSessionId

/-- A request of the TX engine, or else the sweep. -/
def setOrSweep
    (times : TimerTimes) (full : Bool) (state : RetransmitTimerState) :
    RetransmitTimerState × List RetransmitTimerMsg :=
  match state.setReqs with
  | req :: later =>
      ({ state.writeEntry req.sessionId
            ((state.table req.sessionId).set times req.type) with
          curSessionId := state.cursorAfterSet req.sessionId
          prevSessionId := req.sessionId
          setReqs := later },
        [])
  | [] =>
      let cur := state.curSessionId
      let next := cur + 1
      let ticked := (state.table cur).tick full cur
      ({ state.writeEntry cur ticked.1 with
          curSessionId :=
            if next.toNat ≥ tcpMaxSessions then 0 else next
          prevSessionId := cur },
        ticked.2)

end RetransmitTimerState

/-- `retransmit_timer`, with `full` for a full FIFO to the event engine. -/
def retransmitTimer
    (times : TimerTimes) (full : Bool) (state : RetransmitTimerState) :
    RetransmitTimerState × List RetransmitTimerMsg :=
  match state.waitForWrite, state.clearReqs with
  | true, _ =>
      if state.rxEngReq.sessionId ≠ state.prevSessionId then
        (state.writeClear times, [])
      else
        state.setOrSweep times full
  | false, req :: later =>
      ({ state with
          rxEngReq := req, waitForWrite := true, clearReqs := later },
        [])
  | false, [] => state.setOrSweep times full

def RetransmitTimerMsg.toSttable :
    RetransmitTimerMsg → Option TcpSessionID
  | .release id => some id
  | _ => none

namespace RetransmitTimerState

/-- The next call takes no request of the RX engine. -/
def passesClears (state : RetransmitTimerState) : Bool :=
  if state.waitForWrite then
    state.rxEngReq.sessionId == state.prevSessionId
  else
    state.clearReqs == []

/-- The session that the next call gives up. -/
def givesUp (full : Bool) (state : RetransmitTimerState) :
    Option TcpSessionID :=
  let entry := state.table state.curSessionId
  if state.passesClears = true ∧ state.setReqs = [] ∧
      entry.active = true ∧ entry.time = 0 ∧ full = false ∧
        tcpMaxRetxAttempts ≤ entry.retries.toNat then
    some state.curSessionId
  else
    none

end RetransmitTimerState

namespace RetransmitTimerEntry

/-- The sweep gives a session up only when its last attempt has run out. -/
theorem release_tick {full : Bool} {entry : RetransmitTimerEntry}
    {id released : TcpSessionID}
    (isReleased :
      released ∈
        (entry.tick full id).2.filterMap RetransmitTimerMsg.toSttable) :
    released = id ∧ entry.active = true ∧ entry.time = 0 ∧
      full = false ∧ tcpMaxRetxAttempts ≤ entry.retries.toNat := by
  rw [tick] at isReleased
  split at isReleased
  · rename_i active
    split at isReleased
    · cases isReleased
    · rename_i atZero
      split at isReleased
      · cases isReleased
      · rename_i notFull
        split at isReleased
        · cases isReleased
        · rename_i lastAttempt
          have isId : released = id := by
            rw [giveUp] at isReleased
            split at isReleased
            · exact List.mem_singleton.1 isReleased
            · exact List.mem_singleton.1 isReleased
          exact
            ⟨isId, active, not_not.1 atZero, Bool.eq_false_iff.2 notFull,
              Nat.not_lt.1 lastAttempt⟩
  · cases isReleased

end RetransmitTimerEntry

namespace RetransmitTimerState

section Entries

variable {state : RetransmitTimerState} {id other : TcpSessionID}
variable {entry : RetransmitTimerEntry}

theorem table_of_place (same : place other = place id) :
    state.table other = state.table id :=
  congrArg state.retransTimerTable same

theorem place_ne
    (inTable : id.toNat < tcpMaxSessions)
    (otherInTable : other.toNat < tcpMaxSessions) (isOther : other ≠ id) :
    place other ≠ place id := by
  intro same
  have sameIndex := congrArg Fin.val same
  simp only [place, Nat.mod_eq_of_lt inTable,
    Nat.mod_eq_of_lt otherInTable] at sameIndex
  exact isOther (BitVec.eq_of_toNat_eq sameIndex)

theorem table_writeEntry :
    (state.writeEntry id entry).table other =
      if place other = place id then entry else state.table other :=
  Function.update_apply _ _ _ _

end Entries

theorem release_setOrSweep {times : TimerTimes} {full : Bool}
    {state : RetransmitTimerState} {id : TcpSessionID}
    (passes : state.passesClears = true)
    (released :
      id ∈
        (state.setOrSweep times full).2.filterMap
          RetransmitTimerMsg.toSttable) :
    state.givesUp full = some id ∧ (state.table id).active = true := by
  rw [setOrSweep] at released
  split at released
  · cases released
  · rename_i noSet
    obtain ⟨isCur, active, atZero, notFull, lastAttempt⟩ :=
      RetransmitTimerEntry.release_tick released
    rw [isCur]
    refine ⟨?_, active⟩
    rw [givesUp]
    exact if_pos ⟨passes, noSet, active, atZero, notFull, lastAttempt⟩

end RetransmitTimerState

/-- A session is released when its last attempt has run out. -/
theorem retransmitTimer_releases {times : TimerTimes} {full : Bool}
    {state : RetransmitTimerState} {id : TcpSessionID}
    (released :
      id ∈
        (retransmitTimer times full state).2.filterMap
          RetransmitTimerMsg.toSttable) :
    state.givesUp full = some id ∧ (state.table id).active = true := by
  rw [retransmitTimer] at released
  split at released
  · rename_i waits
    split at released
    · cases released
    · rename_i isPrev
      apply RetransmitTimerState.release_setOrSweep _ released
      rw [RetransmitTimerState.passesClears, if_pos waits]
      simpa using isPrev
  · cases released
  · rename_i notWaits noClear
    apply RetransmitTimerState.release_setOrSweep _ released
    rw [RetransmitTimerState.passesClears, notWaits, noClear]
    rfl

end TcpOffload
