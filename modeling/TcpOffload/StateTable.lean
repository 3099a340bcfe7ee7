import Mathlib.Logic.Function.Basic
import TcpOffload.Conn

/-!
# The state table

`state_table.cpp`: the TCP state of each session.  A read by the RX engine or
by the TX application's connection handler locks the session for the other
two writers until its next write; a request for a locked session waits in a
register.
-/

namespace TcpOffload

structure StateTableState where
  table : TcpSessionID → SessionState
  txAppRwReqSessionId : TcpSessionID
  rxEngRwReqSessionId : TcpSessionID
  rxEngRwReqSessionIdLocked : Bool
  txAppRwReqSessionIdLocked : Bool
  txAppRwReq : StateTableReq
  rxEngRwReq : StateTableReq
  txAppRwLocked : Bool
  rxEngRwLocked : Bool
  timerReleaseReqSessionId : TcpSessionID
  timerReleaseLocked : Bool
  timerReleases : List TcpSessionID
  rxEngReqs : List StateTableReq
  txAppLupReqs : List TcpSessionID
  txAppReqs : List StateTableReq

inductive StateTableMsg where
  | rxEngRsp (state : SessionState)
  | txAppLupRsp (state : SessionState)
  | txAppRsp (state : SessionState)
  | slookupReleaseReq (id : TcpSessionID)
deriving DecidableEq, Repr

namespace StateTableState

/-- The registers as the design starts, over any contents of the table. -/
def start (table : TcpSessionID → SessionState) : StateTableState where
  table := table
  txAppRwReqSessionId := 0
  rxEngRwReqSessionId := 0
  rxEngRwReqSessionIdLocked := false
  txAppRwReqSessionIdLocked := false
  txAppRwReq := ⟨0, .closed, false⟩
  rxEngRwReq := ⟨0, .closed, false⟩
  txAppRwLocked := false
  rxEngRwLocked := false
  timerReleaseReqSessionId := 0
  timerReleaseLocked := false
  timerReleases := []
  rxEngReqs := []
  txAppLupReqs := []
  txAppReqs := []

/-- The RX engine has the session locked. -/
def lockedByRxEng (state : StateTableState) (id : TcpSessionID) : Bool :=
  id == state.rxEngRwReqSessionId && state.rxEngRwReqSessionIdLocked

/-- The TX application has the session locked. -/
def lockedByTxApp (state : StateTableState) (id : TcpSessionID) : Bool :=
  id == state.txAppRwReqSessionId && state.txAppRwReqSessionIdLocked

def setState
    (state : StateTableState) (id : TcpSessionID)
    (sessionState : SessionState) : StateTableState :=
  { state with table := Function.update state.table id sessionState }

/-- The access of the registered request of the TX application. -/
def serveTxApp (state : StateTableState) :
    StateTableState × List StateTableMsg :=
  let req := state.txAppRwReq
  if req.write then
    ({ state.setState req.sessionId req.state with
        txAppRwReqSessionIdLocked := false },
      [])
  else
    ({ state with
        txAppRwReqSessionId := req.sessionId
        txAppRwReqSessionIdLocked := true },
      [.txAppRsp (state.table req.sessionId)])

/-- The access of the registered request of the RX engine. -/
def serveRxEng (state : StateTableState) :
    StateTableState × List StateTableMsg :=
  let req := state.rxEngRwReq
  if req.write then
    ({ state.setState req.sessionId req.state with
        rxEngRwReqSessionIdLocked := false },
      if req.state = .closed then
        [.slookupReleaseReq req.sessionId]
      else
        [])
  else
    ({ state with
        rxEngRwReqSessionId := req.sessionId
        rxEngRwReqSessionIdLocked := true },
      [.rxEngRsp (state.table req.sessionId)])

/-- The release of the registered session of a timer. -/
def serveTimer (state : StateTableState) :
    StateTableState × List StateTableMsg :=
  (state.setState state.timerReleaseReqSessionId .closed,
    [.slookupReleaseReq state.timerReleaseReqSessionId])

def timerBlocked (state : StateTableState) : Bool :=
  state.lockedByRxEng state.timerReleaseReqSessionId ||
    state.lockedByTxApp state.timerReleaseReqSessionId

/-- The requests that wait in registers, served when nothing new can be. -/
def serveWaiting (state : StateTableState) :
    StateTableState × List StateTableMsg :=
  if state.txAppRwLocked then
    if state.lockedByRxEng state.txAppRwReq.sessionId then
      (state, [])
    else
      let served := state.serveTxApp
      ({ served.1 with txAppRwLocked := false }, served.2)
  else if state.rxEngRwLocked then
    if state.lockedByTxApp state.rxEngRwReq.sessionId then
      (state, [])
    else
      let served := state.serveRxEng
      ({ served.1 with rxEngRwLocked := false }, served.2)
  else if state.timerReleaseLocked then
    if state.timerBlocked then
      (state, [])
    else
      let served := state.serveTimer
      ({ served.1 with timerReleaseLocked := false }, served.2)
  else
    (state, [])

/-- A new release of a timer, or else a waiting request. -/
def takeTimer (state : StateTableState) :
    StateTableState × List StateTableMsg :=
  match state.timerReleases, state.timerReleaseLocked with
  | id :: later, false =>
      let taken :=
        { state with
          timerReleaseReqSessionId := id, timerReleases := later }
      if taken.timerBlocked then
        ({ taken with timerReleaseLocked := true }, [])
      else
        taken.serveTimer
  | _, _ => state.serveWaiting

/-- A new request of the RX engine, or else what comes behind it. -/
def takeRxEng (state : StateTableState) :
    StateTableState × List StateTableMsg :=
  match state.rxEngReqs, state.rxEngRwLocked with
  | req :: later, false =>
      let taken := { state with rxEngRwReq := req, rxEngReqs := later }
      if taken.lockedByTxApp req.sessionId then
        ({ taken with rxEngRwLocked := true }, [])
      else
        taken.serveRxEng
  | _, _ => state.takeTimer

/-- A lookup of the TX application, which no lock stops, or else what comes
behind it. -/
def takeTxAppLup (state : StateTableState) :
    StateTableState × List StateTableMsg :=
  match state.txAppLupReqs with
  | id :: later =>
      ({ state with txAppLupReqs := later },
        [.txAppLupRsp (state.table id)])
  | [] => state.takeRxEng

end StateTableState

/-- `state_table`. -/
def stateTable (state : StateTableState) :
    StateTableState × List StateTableMsg :=
  match state.txAppReqs, state.txAppRwLocked with
  | req :: later, false =>
      let taken := { state with txAppRwReq := req, txAppReqs := later }
      if taken.lockedByRxEng req.sessionId then
        ({ taken with txAppRwLocked := true }, [])
      else
        taken.serveTxApp
  | _, _ => state.takeTxAppLup

/-! ## The RX engine's side -/

def StateTableMsg.toRxEng : StateTableMsg → Option SessionState
  | .rxEngRsp state => some state
  | _ => none

namespace StateTableState

/-- The session the RX engine has locked. -/
def rxEngHolder (state : StateTableState) : Option TcpSessionID :=
  if state.rxEngRwReqSessionIdLocked then
    some state.rxEngRwReqSessionId
  else
    none

/-- The RX engine's requests that have not been served. -/
def rxEngOutstanding (state : StateTableState) : List StateTableReq :=
  (if state.rxEngRwLocked then [state.rxEngRwReq] else []) ++
    state.rxEngReqs

/-- The call leaves the RX engine's lock and requests alone. -/
def RxEngSame (state next : StateTableState) : Prop :=
  next.rxEngHolder = state.rxEngHolder ∧
    next.rxEngOutstanding = state.rxEngOutstanding

/-- The call serves the RX engine's oldest request. -/
def RxEngServed (state next : StateTableState) : Prop :=
  ∃ req later,
    state.rxEngOutstanding = req :: later ∧
      next.rxEngOutstanding = later ∧
      next.rxEngHolder =
        if req.write then none else some req.sessionId

theorem serveTxApp_rxEng (state : StateTableState) :
    RxEngSame state state.serveTxApp.1 := by
  rw [serveTxApp]
  split <;> exact ⟨rfl, rfl⟩

theorem serveRxEng_holder (state : StateTableState) :
    state.serveRxEng.1.rxEngHolder =
      if state.rxEngRwReq.write then
        none
      else
        some state.rxEngRwReq.sessionId := by
  rw [serveRxEng]
  split <;> rfl

theorem serveRxEng_queue (state : StateTableState) :
    state.serveRxEng.1.rxEngRwLocked = state.rxEngRwLocked ∧
      state.serveRxEng.1.rxEngReqs = state.rxEngReqs := by
  rw [serveRxEng]
  split <;> exact ⟨rfl, rfl⟩

theorem serveWaiting_rxEng (state : StateTableState) :
    RxEngSame state state.serveWaiting.1 ∨
      RxEngServed state state.serveWaiting.1 := by
  rw [serveWaiting]
  split
  · split
    · exact Or.inl ⟨rfl, rfl⟩
    · exact Or.inl state.serveTxApp_rxEng
  split
  · rename_i waits
    split
    · exact Or.inl ⟨rfl, rfl⟩
    · obtain ⟨_, queue⟩ := state.serveRxEng_queue
      refine
        Or.inr
          ⟨state.rxEngRwReq, state.rxEngReqs, ?_, ?_,
            state.serveRxEng_holder⟩
      · rw [rxEngOutstanding, waits]
        rfl
      · exact queue
  split
  · split <;> exact Or.inl ⟨rfl, rfl⟩
  · exact Or.inl ⟨rfl, rfl⟩

theorem takeTimer_rxEng (state : StateTableState) :
    RxEngSame state state.takeTimer.1 ∨
      RxEngServed state state.takeTimer.1 := by
  rw [takeTimer]
  split
  · simp only []
    split <;> exact Or.inl ⟨rfl, rfl⟩
  · exact state.serveWaiting_rxEng

theorem takeRxEng_rxEng (state : StateTableState) :
    RxEngSame state state.takeRxEng.1 ∨
      RxEngServed state state.takeRxEng.1 := by
  rw [takeRxEng]
  split
  · rename_i req later queued notWaiting
    have outstanding : state.rxEngOutstanding = req :: later := by
      rw [rxEngOutstanding, queued, notWaiting]
      rfl
    simp only []
    split
    · exact Or.inl ⟨rfl, outstanding.symm⟩
    · let taken := { state with rxEngRwReq := req, rxEngReqs := later }
      obtain ⟨waiting, queue⟩ := taken.serveRxEng_queue
      refine
        Or.inr ⟨req, later, outstanding, ?_, taken.serveRxEng_holder⟩
      rw [rxEngOutstanding, waiting, queue]
      change (if state.rxEngRwLocked then _ else _) ++ later = later
      rw [notWaiting]
      rfl
  · exact state.takeTimer_rxEng

end StateTableState

/-- A call of the table touches the RX engine's lock only to serve the RX
engine's oldest request. -/
theorem stateTable_rxEng (state : StateTableState) :
    StateTableState.RxEngSame state (stateTable state).1 ∨
      StateTableState.RxEngServed state (stateTable state).1 := by
  rw [stateTable]
  split
  · simp only []
    split
    · exact Or.inl ⟨rfl, rfl⟩
    · exact Or.inl (StateTableState.serveTxApp_rxEng _)
  · rw [StateTableState.takeTxAppLup]
    split
    · exact Or.inl ⟨rfl, rfl⟩
    · exact state.takeRxEng_rxEng

/-! ## The timers' side -/

def StateTableMsg.toSlookup : StateTableMsg → Option TcpSessionID
  | .slookupReleaseReq id => some id
  | _ => none

namespace StateTableState

/-- What a call does with the releases of the timers: nothing, or it takes
one, or it executes the one it took before. -/
inductive TimerCall
    (state : StateTableState) :
    StateTableState × List StateTableMsg → Prop
  | same {next : StateTableState} {msgs : List StateTableMsg} :
      next.timerReleases = state.timerReleases →
      next.timerReleaseLocked = state.timerReleaseLocked →
      next.timerReleaseReqSessionId = state.timerReleaseReqSessionId →
      TimerCall state (next, msgs)
  | blocks {next : StateTableState} {id : TcpSessionID} :
      state.timerReleases = id :: next.timerReleases →
      next.timerReleaseReqSessionId = id →
      TimerCall state (next, [])
  | executes {next : StateTableState} {id : TcpSessionID} :
      state.timerReleases = id :: next.timerReleases →
      next.timerReleaseLocked = false →
      TimerCall state (next, [.slookupReleaseReq id])
  | executesBlocked {next : StateTableState} :
      state.timerReleaseLocked = true →
      next.timerReleases = state.timerReleases →
      next.timerReleaseLocked = false →
      TimerCall state
        (next, [.slookupReleaseReq state.timerReleaseReqSessionId])

/-- The call leaves the releases of the timers alone. -/
structure TimerSame (state next : StateTableState) : Prop where
  releases : next.timerReleases = state.timerReleases
  locked : next.timerReleaseLocked = state.timerReleaseLocked
  req : next.timerReleaseReqSessionId = state.timerReleaseReqSessionId

theorem timerSame_serveTxApp (state : StateTableState) :
    TimerSame state state.serveTxApp.1 := by
  rw [serveTxApp]
  split <;> exact ⟨rfl, rfl, rfl⟩

theorem timerSame_serveRxEng (state : StateTableState) :
    TimerSame state state.serveRxEng.1 := by
  rw [serveRxEng]
  split <;> exact ⟨rfl, rfl, rfl⟩

theorem timerCall_serveWaiting (state : StateTableState) :
    TimerCall state state.serveWaiting := by
  rw [serveWaiting]
  split
  · split
    · exact TimerCall.same rfl rfl rfl
    · have same := state.timerSame_serveTxApp
      exact TimerCall.same same.releases same.locked same.req
  · split
    · split
      · exact TimerCall.same rfl rfl rfl
      · have same := state.timerSame_serveRxEng
        exact TimerCall.same same.releases same.locked same.req
    · split
      · rename_i waits
        split
        · exact TimerCall.same rfl rfl rfl
        · exact TimerCall.executesBlocked waits rfl rfl
      · exact TimerCall.same rfl rfl rfl

theorem timerCall_takeTimer (state : StateTableState) :
    TimerCall state state.takeTimer := by
  rw [takeTimer]
  split
  · rename_i id later queued notLocked
    simp only []
    split
    · exact TimerCall.blocks queued rfl
    · exact TimerCall.executes queued notLocked
  · exact state.timerCall_serveWaiting

end StateTableState

theorem stateTable_timer (state : StateTableState) :
    state.TimerCall (stateTable state) := by
  rw [stateTable]
  split
  · simp only []
    split
    · exact StateTableState.TimerCall.same rfl rfl rfl
    · rename_i req later _ _ _
      let taken := { state with txAppRwReq := req, txAppReqs := later }
      have same := taken.timerSame_serveTxApp
      exact
        StateTableState.TimerCall.same same.releases same.locked same.req
  · rw [StateTableState.takeTxAppLup]
    split
    · exact StateTableState.TimerCall.same rfl rfl rfl
    · rw [StateTableState.takeRxEng]
      split
      · simp only []
        split
        · exact StateTableState.TimerCall.same rfl rfl rfl
        · rename_i req later _ _ _
          let taken := { state with rxEngRwReq := req, rxEngReqs := later }
          have same := taken.timerSame_serveRxEng
          exact
            StateTableState.TimerCall.same same.releases same.locked
              same.req
      · exact state.timerCall_takeTimer

end TcpOffload
