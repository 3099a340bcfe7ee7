import TcpOffload.Library.KeyedLock
import TcpOffload.StateTable

/-!
# The clients of the state table

The RX engine, the connection handler of the TX application and the timers as
clients of a store with a lock on each session: what each of them holds and
waits for, and the one request that a call of the table serves.
-/

namespace TcpOffload

open KeyedLock

inductive TableClient where
  | rxEng
  | txApp
  | timer
deriving DecidableEq, Repr

abbrev TableRequest : Type :=
  Request TcpSessionID SessionState

def StateTableReq.request (req : StateTableReq) : TableRequest :=
  if req.write then
    .write req.sessionId req.state
  else
    .read req.sessionId

theorem StateTableReq.request_key (req : StateTableReq) :
    req.request.key = req.sessionId := by
  rw [request]
  split <;> rfl

def StateTableMsg.answersTo :
    TableClient → StateTableMsg → Option SessionState
  | .rxEng, .rxEngRsp state => some state
  | .txApp, .txAppRsp state => some state
  | _, _ => none

/-- The answers to a client's reads. -/
def rspsTo
    (client : TableClient) (msgs : List StateTableMsg) :
    List SessionState :=
  msgs.filterMap (StateTableMsg.answersTo client)

namespace StateTableState

def txAppHolder (state : StateTableState) : Option TcpSessionID :=
  if state.txAppRwReqSessionIdLocked then
    some state.txAppRwReqSessionId
  else
    none

def txAppOutstanding (state : StateTableState) : List StateTableReq :=
  (if state.txAppRwLocked then [state.txAppRwReq] else []) ++
    state.txAppReqs

def timerOutstanding (state : StateTableState) : List TcpSessionID :=
  (if state.timerReleaseLocked then
      [state.timerReleaseReqSessionId]
    else
      []) ++
    state.timerReleases

/-- The session a client has locked. -/
def holder (state : StateTableState) : TableClient → Option TcpSessionID
  | .rxEng => state.rxEngHolder
  | .txApp => state.txAppHolder
  | .timer => none

/-- A timer's release is a write alone. -/
def releaseRequest (id : TcpSessionID) : TableRequest :=
  .write id .closed

/-- The requests of a client that have not been served: in its register and
in its FIFO. -/
def outstanding (state : StateTableState) :
    TableClient → List TableRequest
  | .rxEng => state.rxEngOutstanding.map StateTableReq.request
  | .txApp => state.txAppOutstanding.map StateTableReq.request
  | .timer => state.timerOutstanding.map releaseRequest

theorem rxEng_waiting {state : StateTableState}
    (waiting : state.rxEngRwLocked = true) :
    state.outstanding .rxEng =
      state.rxEngRwReq.request ::
        state.rxEngReqs.map StateTableReq.request := by
  rw [outstanding, rxEngOutstanding, if_pos waiting]
  rfl

theorem rxEng_queued {state : StateTableState}
    (notWaiting : state.rxEngRwLocked = false) :
    state.outstanding .rxEng =
      state.rxEngReqs.map StateTableReq.request := by
  rw [outstanding, rxEngOutstanding, notWaiting]
  rfl

theorem txApp_waiting {state : StateTableState}
    (waiting : state.txAppRwLocked = true) :
    state.outstanding .txApp =
      state.txAppRwReq.request ::
        state.txAppReqs.map StateTableReq.request := by
  rw [outstanding, txAppOutstanding, if_pos waiting]
  rfl

theorem txApp_queued {state : StateTableState}
    (notWaiting : state.txAppRwLocked = false) :
    state.outstanding .txApp =
      state.txAppReqs.map StateTableReq.request := by
  rw [outstanding, txAppOutstanding, notWaiting]
  rfl

theorem timer_waiting {state : StateTableState}
    (waiting : state.timerReleaseLocked = true) :
    state.outstanding .timer =
      releaseRequest state.timerReleaseReqSessionId ::
        state.timerReleases.map releaseRequest := by
  rw [outstanding, timerOutstanding, if_pos waiting]
  rfl

theorem timer_queued {state : StateTableState}
    (notWaiting : state.timerReleaseLocked = false) :
    state.outstanding .timer = state.timerReleases.map releaseRequest := by
  rw [outstanding, timerOutstanding, notWaiting]
  rfl

theorem locked_iff (id held : TcpSessionID) (locked : Bool) :
    (id == held && locked) = true ↔
      (if locked then some held else none) = some id := by
  cases locked with
  | false =>
      simp
  | true =>
      rw [Bool.and_true, beq_iff_eq, if_pos rfl, Option.some_inj]
      exact eq_comm

theorem lockedByRxEng_iff (state : StateTableState) (id : TcpSessionID) :
    state.lockedByRxEng id = true ↔ state.holder .rxEng = some id :=
  locked_iff _ _ _

theorem lockedByTxApp_iff (state : StateTableState) (id : TcpSessionID) :
    state.lockedByTxApp id = true ↔ state.holder .txApp = some id :=
  locked_iff _ _ _

theorem timerBlocked_iff (state : StateTableState) :
    state.timerBlocked = true ↔
      state.holder .rxEng = some state.timerReleaseReqSessionId ∨
        state.holder .txApp = some state.timerReleaseReqSessionId := by
  rw [timerBlocked, Bool.or_eq_true, lockedByRxEng_iff, lockedByTxApp_iff]

/-- A request of the client waits in its register. -/
def waits (state : StateTableState) : TableClient → Bool
  | .rxEng => state.rxEngRwLocked
  | .txApp => state.txAppRwLocked
  | .timer => state.timerReleaseLocked

/-- A request is read from its FIFO and served, or it waits in between. -/
def pending (state : StateTableState) : Nat :=
  2 * state.txAppReqs.length + state.txAppRwLocked.toNat +
    state.txAppLupReqs.length +
    (2 * state.rxEngReqs.length + state.rxEngRwLocked.toNat) +
    (2 * state.timerReleases.length + state.timerReleaseLocked.toNat)

/-! ## Serving one client -/

/-- `next` and `msgs` come from serving `request`, as far as the table, the
locks and the answers are concerned. -/
structure Access
    (state : StateTableState) (client : TableClient)
    (request : TableRequest) (next : StateTableState)
    (msgs : List StateTableMsg) : Prop where
  table : next.table = written state.table request
  holder :
    next.holder = Function.update state.holder client request.locks
  rsps :
    ∀ other,
      rspsTo other msgs =
        if other = client then answer state.table request else []

/-- `request` has been taken before, and only the access is left to do. -/
structure AccessOnly
    (state : StateTableState) (client : TableClient)
    (request : TableRequest) (next : StateTableState)
    (msgs : List StateTableMsg) : Prop extends
    Access state client request next msgs where
  outstanding : next.outstanding = state.outstanding
  waits : next.waits = state.waits
  pending : next.pending = state.pending

theorem serveTxApp_access (state : StateTableState) :
    state.AccessOnly .txApp state.txAppRwReq.request state.serveTxApp.1
      state.serveTxApp.2 := by
  have holder :
      state.serveTxApp.1.holder =
        Function.update state.holder .txApp
          state.txAppRwReq.request.locks := by
    rw [serveTxApp, StateTableReq.request]
    funext client
    split <;> cases client <;> rfl
  have rsps (other : TableClient) :
      rspsTo other state.serveTxApp.2 =
        if other = .txApp then
          answer state.table state.txAppRwReq.request
        else
          [] := by
    rw [serveTxApp, StateTableReq.request]
    split <;> cases other <;> rfl
  refine ⟨⟨?_, holder, rsps⟩, ?_, ?_, ?_⟩
  · rw [serveTxApp, StateTableReq.request]
    split <;> rfl
  · rw [serveTxApp]
    funext client
    split <;> cases client <;> rfl
  · rw [serveTxApp]
    funext client
    split <;> cases client <;> rfl
  · rw [serveTxApp]
    split <;> rfl

theorem serveRxEng_access (state : StateTableState) :
    state.AccessOnly .rxEng state.rxEngRwReq.request state.serveRxEng.1
      state.serveRxEng.2 := by
  have holder :
      state.serveRxEng.1.holder =
        Function.update state.holder .rxEng
          state.rxEngRwReq.request.locks := by
    rw [serveRxEng, StateTableReq.request]
    funext client
    split <;> cases client <;> rfl
  have rsps (other : TableClient) :
      rspsTo other state.serveRxEng.2 =
        if other = .rxEng then
          answer state.table state.rxEngRwReq.request
        else
          [] := by
    rw [serveRxEng, StateTableReq.request]
    by_cases closes : state.rxEngRwReq.state = .closed
    · rw [if_pos closes]
      split <;> cases other <;> rfl
    · rw [if_neg closes]
      split <;> cases other <;> rfl
  refine ⟨⟨?_, holder, rsps⟩, ?_, ?_, ?_⟩
  · rw [serveRxEng, StateTableReq.request]
    split <;> rfl
  · rw [serveRxEng]
    funext client
    split <;> cases client <;> rfl
  · rw [serveRxEng]
    funext client
    split <;> cases client <;> rfl
  · rw [serveRxEng]
    split <;> rfl

theorem serveTimer_access (state : StateTableState) :
    state.AccessOnly .timer
      (releaseRequest state.timerReleaseReqSessionId)
      state.serveTimer.1 state.serveTimer.2 := by
  refine ⟨⟨rfl, ?_, ?_⟩, ?_, ?_, rfl⟩
  · funext client
    cases client <;> rfl
  · intro other
    cases other <;> rfl
  · funext client
    cases client <;> rfl
  · funext client
    cases client <;> rfl

/-- A register that is emptied is emptied before it is served. -/
theorem serveTxApp_register (state : StateTableState) :
    ({ state.serveTxApp.1 with txAppRwLocked := false },
        state.serveTxApp.2) =
      { state with txAppRwLocked := false }.serveTxApp := by
  rw [serveTxApp, serveTxApp]
  change _ = if state.txAppRwReq.write then _ else _
  split <;> rfl

theorem serveRxEng_register (state : StateTableState) :
    ({ state.serveRxEng.1 with rxEngRwLocked := false },
        state.serveRxEng.2) =
      { state with rxEngRwLocked := false }.serveRxEng := by
  rw [serveRxEng, serveRxEng]
  change _ = if state.rxEngRwReq.write then _ else _
  split <;> rfl

theorem free_txApp {state : StateTableState} {req : StateTableReq}
    (free : state.lockedByRxEng req.sessionId = false) :
    ∀ other, other ≠ TableClient.txApp →
      state.holder other ≠ some req.request.key := by
  rw [req.request_key]
  intro other isOther held
  cases other with
  | rxEng =>
      rw [(state.lockedByRxEng_iff _).2 held] at free
      cases free
  | txApp =>
      exact isOther rfl
  | timer =>
      cases held

theorem free_rxEng {state : StateTableState} {req : StateTableReq}
    (free : state.lockedByTxApp req.sessionId = false) :
    ∀ other, other ≠ TableClient.rxEng →
      state.holder other ≠ some req.request.key := by
  rw [req.request_key]
  intro other isOther held
  cases other with
  | rxEng =>
      exact isOther rfl
  | txApp =>
      rw [(state.lockedByTxApp_iff _).2 held] at free
      cases free
  | timer =>
      cases held

theorem free_timer {state : StateTableState}
    (free : state.timerBlocked = false) :
    ∀ other, other ≠ TableClient.timer →
      state.holder other ≠
        some (releaseRequest state.timerReleaseReqSessionId).key := by
  intro other isOther held
  have blocked : state.timerBlocked = true := by
    apply state.timerBlocked_iff.2
    cases other with
    | rxEng =>
        exact Or.inl held
    | txApp =>
        exact Or.inr held
    | timer =>
        cases held
  rw [blocked] at free
  cases free

/-! ## One call of the table -/

structure Same (state next : StateTableState) : Prop where
  table : next.table = state.table
  holder : next.holder = state.holder
  outstanding : next.outstanding = state.outstanding

/-- All that a call can do.  It serves the oldest request of one client, whose
session no other client has locked; it puts a request for a locked session
into its register; it answers a lookup; or there is nothing it can do, for
want of requests or of the request that gives a lock back. -/
inductive Call (state next : StateTableState) (msgs : List StateTableMsg) :
    Prop
  | serves (client : TableClient) (request : TableRequest)
      (later : List TableRequest) :
      state.outstanding client = request :: later →
      (∀ other, other ≠ client →
        state.holder other ≠ some request.key) →
      state.Access client request next msgs →
      next.outstanding =
        Function.update state.outstanding client later →
      (∀ other, next.waits other = true →
        other ≠ client ∧ state.waits other = true) →
      next.pending < state.pending →
      Call state next msgs
  | defers (client other : TableClient) (request : TableRequest)
      (later : List TableRequest) :
      state.outstanding client = request :: later →
      other ≠ client →
      state.holder other = some request.key →
      Same state next →
      (∀ waiter, next.waits waiter = true →
        waiter = client ∨ state.waits waiter = true) →
      (∀ client, rspsTo client msgs = []) →
      next.pending < state.pending →
      Call state next msgs
  | looksUp :
      Same state next →
      next.waits = state.waits →
      (∀ client, rspsTo client msgs = []) →
      next.pending < state.pending →
      Call state next msgs
  | idle :
      next = state →
      msgs = [] →
      (state.pending = 0 ∨
        ∃ other key,
          state.holder other = some key ∧
            (state.waits other = true ∨ state.outstanding other = [])) →
      Call state next msgs

/-- Nothing new can be taken: the FIFOs are empty, but for clients with a
request in their register. -/
structure NothingNew (state : StateTableState) : Prop where
  txApp : state.txAppRwLocked = false → state.txAppReqs = []
  txAppLup : state.txAppLupReqs = []
  rxEng : state.rxEngRwLocked = false → state.rxEngReqs = []
  timer : state.timerReleaseLocked = false → state.timerReleases = []

theorem NothingNew.rxEng_waits {state : StateTableState}
    (nothingNew : state.NothingNew) :
    state.waits .rxEng = true ∨ state.outstanding .rxEng = [] := by
  by_cases waiting : state.rxEngRwLocked = true
  · exact Or.inl waiting
  · have notWaiting := Bool.eq_false_iff.2 waiting
    right
    rw [rxEng_queued notWaiting, nothingNew.rxEng notWaiting, List.map_nil]

theorem NothingNew.txApp_waits {state : StateTableState}
    (nothingNew : state.NothingNew) :
    state.waits .txApp = true ∨ state.outstanding .txApp = [] := by
  by_cases waiting : state.txAppRwLocked = true
  · exact Or.inl waiting
  · have notWaiting := Bool.eq_false_iff.2 waiting
    right
    rw [txApp_queued notWaiting, nothingNew.txApp notWaiting, List.map_nil]

theorem timer_blocked {state : StateTableState}
    (blocked : state.timerBlocked = true) :
    ∃ other,
      other ≠ TableClient.timer ∧
        state.holder other = some state.timerReleaseReqSessionId := by
  rcases state.timerBlocked_iff.1 blocked with byRxEng | byTxApp
  · exact ⟨.rxEng, by decide, byRxEng⟩
  · exact ⟨.txApp, by decide, byTxApp⟩

theorem lockedByRxEng_holder {state : StateTableState}
    {req : StateTableReq}
    (locked : state.lockedByRxEng req.sessionId = true) :
    state.holder .rxEng = some req.request.key := by
  rw [req.request_key]
  exact (state.lockedByRxEng_iff _).1 locked

theorem lockedByTxApp_holder {state : StateTableState}
    {req : StateTableReq}
    (locked : state.lockedByTxApp req.sessionId = true) :
    state.holder .txApp = some req.request.key := by
  rw [req.request_key]
  exact (state.lockedByTxApp_iff _).1 locked

/-- A request that has been taken is served. -/
theorem Call.of_taken
    {state taken next : StateTableState} {msgs : List StateTableMsg}
    {client : TableClient} {request : TableRequest}
    {later : List TableRequest}
    (oldest : state.outstanding client = request :: later)
    (free :
      ∀ other, other ≠ client →
        state.holder other ≠ some request.key)
    (access : taken.AccessOnly client request next msgs)
    (table : taken.table = state.table)
    (holder : taken.holder = state.holder)
    (left :
      taken.outstanding =
        Function.update state.outstanding client later)
    (waits :
      ∀ other, taken.waits other = true →
        other ≠ client ∧ state.waits other = true)
    (pending : taken.pending < state.pending) :
    state.Call next msgs := by
  rw [← access.waits] at waits
  rw [← access.pending] at pending
  rw [← access.outstanding] at left
  refine
    Call.serves client request later oldest free ?_ left waits pending
  constructor
  · rw [access.table, table]
  · rw [access.holder, holder]
  · intro other
    rw [access.rsps, table]

/-- The registers, when nothing new can be taken. -/
theorem serveWaiting_call
    {state : StateTableState} (nothingNew : state.NothingNew) :
    state.Call state.serveWaiting.1 state.serveWaiting.2 := by
  rw [serveWaiting]
  split
  · rename_i waiting
    split
    · rename_i locked
      exact
        Call.idle rfl rfl
          (Or.inr
            ⟨.rxEng, _, lockedByRxEng_holder locked,
              nothingNew.rxEng_waits⟩)
    · rename_i free
      change
        state.Call
          ({ state.serveTxApp.1 with txAppRwLocked := false },
            state.serveTxApp.2).1
          ({ state.serveTxApp.1 with txAppRwLocked := false },
            state.serveTxApp.2).2
      rw [serveTxApp_register]
      refine
        Call.of_taken (txApp_waiting waiting)
          (free_txApp (Bool.eq_false_iff.2 free))
          (serveTxApp_access { state with txAppRwLocked := false })
          rfl ?_ ?_ ?_ ?_
      · funext client
        cases client <;> rfl
      · funext client
        cases client <;> rfl
      · intro other waits
        cases other with
        | txApp =>
            cases waits
        | rxEng | timer =>
            exact ⟨by decide, waits⟩
      · simp only [pending, waiting, Bool.toNat_true, Bool.toNat_false]
        omega
  split
  · rename_i notWaiting waiting
    split
    · rename_i locked
      exact
        Call.idle rfl rfl
          (Or.inr
            ⟨.txApp, _, lockedByTxApp_holder locked,
              nothingNew.txApp_waits⟩)
    · rename_i free
      change
        state.Call
          ({ state.serveRxEng.1 with rxEngRwLocked := false },
            state.serveRxEng.2).1
          ({ state.serveRxEng.1 with rxEngRwLocked := false },
            state.serveRxEng.2).2
      rw [serveRxEng_register]
      refine
        Call.of_taken (rxEng_waiting waiting)
          (free_rxEng (Bool.eq_false_iff.2 free))
          (serveRxEng_access { state with rxEngRwLocked := false })
          rfl ?_ ?_ ?_ ?_
      · funext client
        cases client <;> rfl
      · funext client
        cases client <;> rfl
      · intro other waits
        cases other with
        | rxEng =>
            cases waits
        | txApp | timer =>
            exact ⟨by decide, waits⟩
      · simp only [pending, waiting, Bool.toNat_true, Bool.toNat_false]
        omega
  split
  · rename_i waiting
    split
    · rename_i blocked
      rcases state.timerBlocked_iff.1 blocked with byRxEng | byTxApp
      · exact
          Call.idle rfl rfl
            (Or.inr ⟨.rxEng, _, byRxEng, nothingNew.rxEng_waits⟩)
      · exact
          Call.idle rfl rfl
            (Or.inr ⟨.txApp, _, byTxApp, nothingNew.txApp_waits⟩)
    · rename_i free
      refine
        Call.of_taken (timer_waiting waiting)
          (free_timer (Bool.eq_false_iff.2 free))
          (serveTimer_access { state with timerReleaseLocked := false })
          rfl ?_ ?_ ?_ ?_
      · funext client
        cases client <;> rfl
      · funext client
        cases client <;> rfl
      · intro other waits
        cases other with
        | timer =>
            cases waits
        | rxEng | txApp =>
            exact ⟨by decide, waits⟩
      · simp only [pending, waiting, Bool.toNat_true, Bool.toNat_false]
        omega
  · rename_i txApp rxEng timer
    have none (flag : Bool) (notSet : ¬flag = true) : flag = false :=
      Bool.eq_false_iff.2 notSet
    refine Call.idle rfl rfl (Or.inl ?_)
    rw [pending, none _ txApp, none _ rxEng, none _ timer,
      nothingNew.txApp (none _ txApp), nothingNew.txAppLup,
      nothingNew.rxEng (none _ rxEng), nothingNew.timer (none _ timer)]
    rfl

/-- A release is read, unless the registers' turn has come. -/
theorem takeTimer_call
    {state : StateTableState}
    (txApp : state.txAppRwLocked = false → state.txAppReqs = [])
    (txAppLup : state.txAppLupReqs = [])
    (rxEng : state.rxEngRwLocked = false → state.rxEngReqs = []) :
    state.Call state.takeTimer.1 state.takeTimer.2 := by
  rw [takeTimer]
  split
  · rename_i id later queued notWaiting
    have oldest :
        state.outstanding .timer =
          releaseRequest id :: later.map releaseRequest := by
      rw [timer_queued notWaiting, queued, List.map_cons]
    simp only []
    split
    · rename_i blocked
      obtain ⟨other, isOther, held⟩ := timer_blocked blocked
      refine
        Call.defers .timer other (releaseRequest id) _ oldest isOther
          held ⟨rfl, rfl, ?_⟩ ?_ (fun _ => rfl) ?_
      · funext client
        cases client with
        | timer =>
            rw [oldest]
            rfl
        | rxEng | txApp =>
            rfl
      · intro waiter waits
        cases waiter with
        | timer =>
            exact Or.inl rfl
        | rxEng | txApp =>
            exact Or.inr waits
      · simp only [pending, queued, notWaiting, List.length_cons,
          Bool.toNat_true, Bool.toNat_false]
        omega
    · rename_i free
      refine
        Call.of_taken oldest (free_timer (Bool.eq_false_iff.2 free))
          (serveTimer_access
            { state with
              timerReleaseReqSessionId := id, timerReleases := later })
          rfl rfl ?_ ?_ ?_
      · funext client
        cases client with
        | timer =>
            exact timer_queued notWaiting
        | rxEng | txApp =>
            rfl
      · intro other waits
        cases other with
        | timer =>
            exact absurd waits (Bool.eq_false_iff.1 notWaiting)
        | rxEng | txApp =>
            exact ⟨by decide, waits⟩
      · simp only [pending, queued, List.length_cons]
        omega
  · rename_i notTaken
    refine serveWaiting_call ⟨txApp, txAppLup, rxEng, ?_⟩
    intro notWaiting
    cases queued : state.timerReleases with
    | nil =>
        rfl
    | cons id later =>
        exact absurd notWaiting (notTaken id later queued)

/-- A request of the RX engine is read, unless what is behind it has its
turn. -/
theorem takeRxEng_call
    {state : StateTableState}
    (txApp : state.txAppRwLocked = false → state.txAppReqs = [])
    (txAppLup : state.txAppLupReqs = []) :
    state.Call state.takeRxEng.1 state.takeRxEng.2 := by
  rw [takeRxEng]
  split
  · rename_i req later queued notWaiting
    have oldest :
        state.outstanding .rxEng =
          req.request :: later.map StateTableReq.request := by
      rw [rxEng_queued notWaiting, queued, List.map_cons]
    simp only []
    split
    · rename_i locked
      refine
        Call.defers .rxEng .txApp req.request _ oldest (by decide)
          (lockedByTxApp_holder locked) ⟨rfl, rfl, ?_⟩ ?_ (fun _ => rfl) ?_
      · funext client
        cases client with
        | rxEng =>
            rw [oldest]
            rfl
        | txApp | timer =>
            rfl
      · intro waiter waits
        cases waiter with
        | rxEng =>
            exact Or.inl rfl
        | txApp | timer =>
            exact Or.inr waits
      · simp only [pending, queued, notWaiting, List.length_cons,
          Bool.toNat_true, Bool.toNat_false]
        omega
    · rename_i free
      refine
        Call.of_taken oldest (free_rxEng (Bool.eq_false_iff.2 free))
          (serveRxEng_access
            { state with rxEngRwReq := req, rxEngReqs := later })
          rfl rfl ?_ ?_ ?_
      · funext client
        cases client with
        | rxEng =>
            exact rxEng_queued notWaiting
        | txApp | timer =>
            rfl
      · intro other waits
        cases other with
        | rxEng =>
            exact absurd waits (Bool.eq_false_iff.1 notWaiting)
        | txApp | timer =>
            exact ⟨by decide, waits⟩
      · simp only [pending, queued, List.length_cons]
        omega
  · rename_i notTaken
    refine takeTimer_call txApp txAppLup ?_
    intro notWaiting
    cases queued : state.rxEngReqs with
    | nil =>
        rfl
    | cons req later =>
        exact absurd notWaiting (notTaken req later queued)

/-- A lookup of the TX application is answered, unless what is behind it has
its turn. -/
theorem takeTxAppLup_call
    {state : StateTableState}
    (txApp : state.txAppRwLocked = false → state.txAppReqs = []) :
    state.Call state.takeTxAppLup.1 state.takeTxAppLup.2 := by
  rw [takeTxAppLup]
  split
  · rename_i id later queued
    refine Call.looksUp ⟨rfl, rfl, rfl⟩ rfl ?_ ?_
    · intro client
      cases client <;> rfl
    · simp only [pending, queued, List.length_cons]
      omega
  · rename_i noLup
    exact takeRxEng_call txApp noLup

end StateTableState

/-- What a call of the table does for its clients. -/
theorem stateTable_call (state : StateTableState) :
    state.Call (stateTable state).1 (stateTable state).2 := by
  rw [stateTable]
  split
  · rename_i req later queued notWaiting
    have oldest :
        state.outstanding .txApp =
          req.request :: later.map StateTableReq.request := by
      rw [StateTableState.txApp_queued notWaiting, queued, List.map_cons]
    simp only []
    split
    · rename_i locked
      refine
        StateTableState.Call.defers .txApp .rxEng req.request _ oldest
          (by decide) (StateTableState.lockedByRxEng_holder locked)
          ⟨rfl, rfl, ?_⟩ ?_ (fun _ => rfl) ?_
      · funext client
        cases client with
        | txApp =>
            rw [oldest]
            rfl
        | rxEng | timer =>
            rfl
      · intro waiter waits
        cases waiter with
        | txApp =>
            exact Or.inl rfl
        | rxEng | timer =>
            exact Or.inr waits
      · simp only [StateTableState.pending, queued, notWaiting,
          List.length_cons, Bool.toNat_true, Bool.toNat_false]
        omega
    · rename_i free
      refine
        StateTableState.Call.of_taken oldest
          (StateTableState.free_txApp (Bool.eq_false_iff.2 free))
          (StateTableState.serveTxApp_access
            { state with txAppRwReq := req, txAppReqs := later })
          rfl rfl ?_ ?_ ?_
      · funext client
        cases client with
        | txApp =>
            exact StateTableState.txApp_queued notWaiting
        | rxEng | timer =>
            rfl
      · intro other waits
        cases other with
        | txApp =>
            exact absurd waits (Bool.eq_false_iff.1 notWaiting)
        | rxEng | timer =>
            exact ⟨by decide, waits⟩
      · simp only [StateTableState.pending, queued, List.length_cons]
        omega
  · rename_i notTaken
    refine StateTableState.takeTxAppLup_call ?_
    intro notWaiting
    cases queued : state.txAppReqs with
    | nil =>
        rfl
    | cons req later =>
        exact absurd notWaiting (notTaken req later queued)

end TcpOffload
