import TcpOffload.Library.Guarded
import TcpOffload.StateTable.Clients

/-!
# Read-modify-writes of a session's state

The state table with requests that reach it in any order: a client's read of
a session and its write are one atomic access, and every request is served
once and in its turn.
-/

namespace TcpOffload

open KeyedLock Guarded

/-- The table with a record of what it was asked, of its answers, and of the
requests it served. -/
structure TableSystem where
  table : StateTableState
  sent : TableClient → List TableRequest
  rsps : TableClient → List SessionState
  log : List (Access TableClient TcpSessionID SessionState)

/-- A call of the table, or a request that reaches one of its FIFOs. -/
inductive TableAction where
  | stateTable
  | rxEngReq (req : StateTableReq)
  | txAppReq (req : StateTableReq)
  | txAppLupReq (id : TcpSessionID)
  | timerRelease (id : TcpSessionID)

/-- The requests that left the FIFO and register of their client from one
state of the table to another. -/
def servedBetween
    (before after : StateTableState) :
    List (Access TableClient TcpSessionID SessionState) :=
  [TableClient.txApp, .rxEng, .timer].flatMap fun client =>
    ((before.outstanding client).take
        ((before.outstanding client).length -
          (after.outstanding client).length)).map
      fun request => (client, request)

namespace TableSystem

/-- The table as the design starts, over any contents. -/
def start (table : TcpSessionID → SessionState) : TableSystem where
  table := StateTableState.start table
  sent := fun _ => []
  rsps := fun _ => []
  log := []

def sends
    (system : TableSystem) (client : TableClient)
    (request : TableRequest) (table : StateTableState) : TableSystem :=
  { system with
    table := table
    sent :=
      Function.update system.sent client
        (system.sent client ++ [request]) }

def act (system : TableSystem) : TableAction → TableSystem
  | .stateTable =>
      let called := TcpOffload.stateTable system.table
      { table := called.1
        sent := system.sent
        rsps := fun client =>
          system.rsps client ++ rspsTo client called.2
        log := system.log ++ servedBetween system.table called.1 }
  | .rxEngReq req =>
      system.sends .rxEng req.request
        { system.table with rxEngReqs := system.table.rxEngReqs ++ [req] }
  | .txAppReq req =>
      system.sends .txApp req.request
        { system.table with txAppReqs := system.table.txAppReqs ++ [req] }
  | .txAppLupReq id =>
      { system with
        table :=
          { system.table with
            txAppLupReqs := system.table.txAppLupReqs ++ [id] } }
  | .timerRelease id =>
      system.sends .timer (StateTableState.releaseRequest id)
        { system.table with
          timerReleases := system.table.timerReleases ++ [id] }

/-- The system as a store with a lock on each session. -/
def store (system : TableSystem) :
    Store TableClient TcpSessionID SessionState where
  table := system.table.table
  holder := system.table.holder
  waiting := system.table.outstanding
  sent := system.sent
  rsps := system.rsps
  log := system.log

end TableSystem

def TableStep
    (system : TableSystem) (action : TableAction) (next : TableSystem) :
    Prop :=
  next = system.act action

/-- The request that an action sends, and whose it is. -/
def TableAction.request : TableAction → Option (TableClient × TableRequest)
  | .stateTable => none
  | .rxEngReq req => some (.rxEng, req.request)
  | .txAppReq req => some (.txApp, req.request)
  | .txAppLupReq _ => none
  | .timerRelease id => some (.timer, StateTableState.releaseRequest id)

/-- The requests of one client in a run. -/
def requestsOf (client : TableClient) (actions : List TableAction) :
    List TableRequest :=
  ((actions.filterMap TableAction.request).filter fun access =>
      access.1 = client).map
    Prod.snd

namespace TableSystem

theorem servedBetween_same {state next : StateTableState}
    (same : next.outstanding = state.outstanding) :
    servedBetween state next = [] := by
  rw [servedBetween, same]
  simp

theorem servedBetween_serves
    {state next : StateTableState} {client : TableClient}
    {request : TableRequest} {later : List TableRequest}
    (oldest : state.outstanding client = request :: later)
    (left :
      next.outstanding =
        Function.update state.outstanding client later) :
    servedBetween state next = [(client, request)] := by
  have taken (other : TableClient) :
      (state.outstanding other).take
          ((state.outstanding other).length -
            (next.outstanding other).length) =
        if other = client then [request] else [] := by
    rw [left]
    by_cases isClient : other = client
    · rw [if_pos isClient, isClient, Function.update_self, oldest,
        List.length_cons, Nat.add_sub_cancel_left]
      rfl
    · rw [if_neg isClient, Function.update_of_ne isClient, Nat.sub_self,
        List.take_zero]
  simp only [servedBetween, taken]
  cases client <;> rfl

theorem sound_start (initial : TcpSessionID → SessionState) :
    Store.Sound initial (fun _ => none) (start initial).store := by
  have same : (start initial).store = Store.start initial := by
    rw [store, Store.start]
    congr
    · funext client
      cases client <;> rfl
    · funext client
      cases client <;> rfl
  rw [same]
  exact Store.Sound.start

/-- A call of the table refines a step of the store. -/
theorem store_stateTable (system : TableSystem) :
    (system.act .stateTable).store = system.store ∨
      ∃ client request later,
        system.store.waiting client = request :: later ∧
          system.store.Free client request.key ∧
            (system.act .stateTable).store =
              system.store.serve client request later := by
  have call := stateTable_call system.table
  rw [act, store]
  generalize stateTable system.table = called at call
  have unchanged
      (same : system.table.Same called.1)
      (none : ∀ client, rspsTo client called.2 = []) :
      (Store.mk called.1.table called.1.holder called.1.outstanding
          system.sent
          (fun client => system.rsps client ++ rspsTo client called.2)
          (system.log ++ servedBetween system.table called.1)) =
        system.store := by
    rw [same.table, same.holder, same.outstanding,
      servedBetween_same same.outstanding, List.append_nil]
    simp only [none, List.append_nil]
    rfl
  cases call with
  | serves client request later oldest free access left =>
      refine Or.inr ⟨client, request, later, oldest, free, ?_⟩
      simp only [servedBetween_serves oldest left, access.table,
        access.holder, left, access.rsps]
      rw [Store.serve]
      congr
      funext other
      by_cases isClient : other = client
      · rw [isClient, if_pos rfl, Function.update_self]
        rfl
      · rw [if_neg isClient, Function.update_of_ne isClient,
          List.append_nil]
        rfl
  | defers _ _ _ _ _ _ _ same _ none =>
      exact Or.inl (unchanged same none)
  | looksUp same _ none =>
      exact Or.inl (unchanged same none)
  | idle same nothing =>
      have none (client : TableClient) : rspsTo client called.2 = [] := by
        rw [nothing]
        rfl
      have unmoved : system.table.Same called.1 := by
        rw [same]
        exact ⟨rfl, rfl, rfl⟩
      exact Or.inl (unchanged unmoved none)

/-- A request that reaches the table reaches the store. -/
theorem store_sends
    (system : TableSystem) {client : TableClient}
    {request : TableRequest} {table : StateTableState}
    (sameTable : table.table = system.table.table)
    (holder : table.holder = system.table.holder)
    (arrives :
      table.outstanding =
        Function.update system.table.outstanding client
          (system.table.outstanding client ++ [request])) :
    (system.sends client request table).store =
      system.store.send client request := by
  rw [sends, store, Store.send]
  simp only [sameTable, holder, arrives]
  rfl

theorem store_act
    (system : TableSystem) {action : TableAction}
    {client : TableClient} {request : TableRequest}
    (sent : action.request = some (client, request)) :
    (system.act action).store = system.store.send client request := by
  cases action with
  | stateTable | txAppLupReq =>
      cases sent
  | rxEngReq req =>
      cases sent
      refine system.store_sends rfl ?_ ?_
      · funext client
        cases client <;> rfl
      · funext client
        cases client with
        | rxEng =>
            simp [StateTableState.outstanding,
              StateTableState.rxEngOutstanding]
        | txApp | timer =>
            rfl
  | txAppReq req =>
      cases sent
      refine system.store_sends rfl ?_ ?_
      · funext client
        cases client <;> rfl
      · funext client
        cases client with
        | txApp =>
            simp [StateTableState.outstanding,
              StateTableState.txAppOutstanding]
        | rxEng | timer =>
            rfl
  | timerRelease id =>
      cases sent
      refine system.store_sends rfl ?_ ?_
      · funext client
        cases client <;> rfl
      · funext client
        cases client with
        | timer =>
            simp [StateTableState.outstanding,
              StateTableState.timerOutstanding]
        | rxEng | txApp =>
            rfl

/-! ## Runs -/

/-- What the store needs holds along every run in which the clients' requests
are exchanges. -/
theorem sound_act
    {initial : TcpSessionID → SessionState}
    {opened : TableClient → Option TcpSessionID}
    {system : TableSystem} {action : TableAction}
    {later : List TableAction}
    {last : TableClient → Option TcpSessionID}
    (sound : Store.Sound initial opened system.store)
    (inTurn :
      ∀ client,
        Exchanges (opened client) (requestsOf client (action :: later))
          (last client)) :
    ∃ further,
      Store.Sound initial further (system.act action).store ∧
        ∀ client,
          Exchanges (further client) (requestsOf client later)
            (last client) := by
  cases sent : action.request with
  | none =>
      refine ⟨opened, ?_, ?_⟩
      · cases action with
        | stateTable =>
            rcases system.store_stateTable with same | served
            · rw [same]
              exact sound
            · obtain ⟨client, request, later, oldest, free, isServed⟩ :=
                served
              rw [isServed]
              exact sound.serve oldest free
        | txAppLupReq id =>
            exact sound
        | rxEngReq | txAppReq | timerRelease =>
            cases sent
      · intro client
        have exchanges := inTurn client
        rw [requestsOf, List.filterMap_cons_none sent] at exchanges
        exact exchanges
  | some access =>
      obtain ⟨client, request⟩ := access
      have own :
          requestsOf client (action :: later) =
            request :: requestsOf client later := by
        rw [requestsOf, List.filterMap_cons_some sent]
        simp [requestsOf]
      have exchange := inTurn client
      rw [own] at exchange
      refine
        ⟨Function.update opened client request.locks, ?_, ?_⟩
      · rw [system.store_act sent]
        exact sound.send exchange.head
      · intro other
        by_cases isClient : other = client
        · rw [isClient, Function.update_self]
          exact exchange.tail
        · rw [Function.update_of_ne isClient]
          have exchanges := inTurn other
          rw [requestsOf, List.filterMap_cons_some sent] at exchanges
          rw [requestsOf]
          simpa [Ne.symm isClient] using exchanges

theorem sound_run
    {initial : TcpSessionID → SessionState}
    {opened last : TableClient → Option TcpSessionID}
    {system final : TableSystem} {actions : List TableAction}
    (sound : Store.Sound initial opened system.store)
    (inTurn :
      ∀ client,
        Exchanges (opened client) (requestsOf client actions)
          (last client))
    (run : Run TableStep system actions final) :
    Store.Sound initial last final.store := by
  induction run generalizing opened with
  | refl system =>
      have same : opened = last := by
        funext client
        exact (inTurn client).of_nil
      rw [← same]
      exact sound
  | head stepped _ inductionHypothesis =>
      obtain ⟨further, soundThere, inTurnThere⟩ := sound_act sound inTurn
      rw [← stepped] at soundThere
      exact inductionHypothesis soundThere inTurnThere

/-! ## Requests in registers -/

/-- A client with a request in its register has nothing locked. -/
def HoldsOrWaits (state : StateTableState) : Prop :=
  ∀ client, state.waits client = true → state.holder client = none

theorem holdsOrWaits_call
    {initial : TcpSessionID → SessionState}
    {opened : TableClient → Option TcpSessionID}
    {system : TableSystem}
    (sound : Store.Sound initial opened system.store)
    (holdsOrWaits : HoldsOrWaits system.table) :
    HoldsOrWaits (stateTable system.table).1 := by
  have call := stateTable_call system.table
  generalize stateTable system.table = called at call
  intro waiter waits
  cases call with
  | serves client request later _ _ access _ waitsBefore =>
      obtain ⟨isOther, waited⟩ := waitsBefore waiter waits
      rw [access.holder, Function.update_of_ne isOther]
      exact holdsOrWaits waiter waited
  | defers client other request later oldest isOther held same newWaits =>
      rw [same.holder]
      rcases newWaits waiter waits with isClient | waited
      · rw [isClient]
        -- A client with a lock asks to write what no other client has.
        cases own : system.table.holder client with
        | none =>
            rfl
        | some key =>
            obtain ⟨value, isWrite⟩ := sound.closes oldest own
            rw [isWrite] at held
            exact absurd held (sound.exclusive client key own other isOther)
      · exact holdsOrWaits waiter waited
  | looksUp same sameWaits =>
      rw [sameWaits] at waits
      rw [same.holder]
      exact holdsOrWaits waiter waits
  | idle same =>
      rw [same] at waits ⊢
      exact holdsOrWaits waiter waits

theorem holdsOrWaits_act
    {initial : TcpSessionID → SessionState}
    {opened : TableClient → Option TcpSessionID}
    {system : TableSystem} (action : TableAction)
    (sound : Store.Sound initial opened system.store)
    (holdsOrWaits : HoldsOrWaits system.table) :
    HoldsOrWaits (system.act action).table := by
  cases action with
  | stateTable =>
      exact holdsOrWaits_call sound holdsOrWaits
  | rxEngReq | txAppReq | txAppLupReq | timerRelease =>
      intro client waits
      cases client with
      | rxEng =>
          exact holdsOrWaits .rxEng waits
      | txApp =>
          exact holdsOrWaits .txApp waits
      | timer =>
          cases waited : system.table.waits .timer <;> rfl

theorem holdsOrWaits_run
    {initial : TcpSessionID → SessionState}
    {opened last : TableClient → Option TcpSessionID}
    {system final : TableSystem} {actions : List TableAction}
    (sound : Store.Sound initial opened system.store)
    (inTurn :
      ∀ client,
        Exchanges (opened client) (requestsOf client actions)
          (last client))
    (holdsOrWaits : HoldsOrWaits system.table)
    (run : Run TableStep system actions final) :
    HoldsOrWaits final.table := by
  induction run generalizing opened with
  | refl =>
      exact holdsOrWaits
  | @head _ _ _ action _ stepped _ inductionHypothesis =>
      have waitsThere := holdsOrWaits_act action sound holdsOrWaits
      obtain ⟨further, soundThere, inTurnThere⟩ := sound_act sound inTurn
      rw [← stepped] at soundThere waitsThere
      exact inductionHypothesis soundThere inTurnThere waitsThere

/-- Without open reads the table always has something it can do, until no
request is left. -/
theorem pending_decreases
    {initial : TcpSessionID → SessionState} {system : TableSystem}
    (sound : Store.Sound initial (fun _ => none) system.store)
    (holdsOrWaits : HoldsOrWaits system.table)
    (some : system.table.pending ≠ 0) :
    (stateTable system.table).1.pending < system.table.pending := by
  have call := stateTable_call system.table
  generalize stateTable system.table = called at call
  cases call with
  | serves _ _ _ _ _ _ _ _ fewer =>
      exact fewer
  | defers _ _ _ _ _ _ _ _ _ _ fewer =>
      exact fewer
  | looksUp _ _ _ fewer =>
      exact fewer
  | idle _ _ stuck =>
      rcases stuck with none | ⟨other, key, held, waits | nothing⟩
      · exact absurd none some
      · have free := holdsOrWaits other waits
        rw [held] at free
        cases free
      · have exchanges := sound.inTurn other
        change
          Exchanges (system.table.holder other)
            (system.table.outstanding other) none at exchanges
        rw [held, nothing] at exchanges
        cases exchanges.of_nil

theorem outstanding_of_pending {state : StateTableState}
    (none : state.pending = 0) (client : TableClient) :
    state.outstanding client = [] := by
  simp only [StateTableState.pending, Nat.add_eq_zero_iff,
    Nat.mul_eq_zero, List.length_eq_zero_iff, Bool.toNat_eq_zero,
    OfNat.ofNat_ne_zero, false_or] at none
  obtain ⟨⟨⟨⟨txApp, txAppFlag⟩, -⟩, rxEng, rxEngFlag⟩, timer, timerFlag⟩ :=
    none
  cases client with
  | rxEng =>
      rw [StateTableState.rxEng_queued rxEngFlag, rxEng, List.map_nil]
  | txApp =>
      rw [StateTableState.txApp_queued txAppFlag, txApp, List.map_nil]
  | timer =>
      rw [StateTableState.timer_queued timerFlag, timer, List.map_nil]

/-- Calls alone serve all that is outstanding. -/
theorem drains
    {initial : TcpSessionID → SessionState} {system : TableSystem}
    (sound : Store.Sound initial (fun _ => none) system.store)
    (holdsOrWaits : HoldsOrWaits system.table) :
    ∃ calls final,
      Run TableStep system (List.replicate calls .stateTable) final ∧
        ∀ client, final.table.outstanding client = [] := by
  induction pending : system.table.pending using Nat.strong_induction_on
    generalizing system with
  | h bound inductionHypothesis =>
      by_cases empty : bound = 0
      · rw [empty] at pending
        exact
          ⟨0, system, Run.refl system, outstanding_of_pending pending⟩
      · rw [← pending] at empty
        have fewer := pending_decreases sound holdsOrWaits empty
        have waitsThere := holdsOrWaits_call sound holdsOrWaits
        have called :
            Run TableStep system [.stateTable] (system.act .stateTable) :=
          Run.head rfl (Run.refl _)
        have noRequest (client : TableClient) :
            Exchanges none (requestsOf client [.stateTable]) none :=
          Exchanges.done none
        have soundThere := sound_run sound noRequest called
        rw [pending] at fewer
        obtain ⟨calls, final, run, nothing⟩ :=
          inductionHypothesis _ fewer soundThere waitsThere rfl
        exact ⟨calls + 1, final, Run.head rfl run, nothing⟩

theorem requestsOf_append
    (client : TableClient) (actions more : List TableAction) :
    requestsOf client (actions ++ more) =
      requestsOf client actions ++ requestsOf client more := by
  rw [requestsOf, List.filterMap_append, List.filter_append,
    List.map_append]
  rfl

theorem requestsOf_calls (client : TableClient) (calls : Nat) :
    requestsOf client (List.replicate calls .stateTable) = [] := by
  rw [requestsOf, List.filterMap_replicate_of_none rfl]
  rfl

theorem sent_act
    (system : TableSystem) (action : TableAction)
    (client : TableClient) :
    (system.act action).sent client =
      system.sent client ++ requestsOf client [action] := by
  have sends {own : TableClient} {request : TableRequest}
      (sent : action.request = some (own, request)) :
      (system.act action).sent client =
        system.sent client ++ requestsOf client [action] := by
    change (system.act action).store.sent client = _
    rw [system.store_act sent, requestsOf,
      List.filterMap_cons_some sent]
    by_cases isOwn : client = own
    · rw [isOwn, Store.send_sent_self]
      simp [store]
    · rw [Store.send_sent_of_ne isOwn]
      simp [store, Ne.symm isOwn]
  cases action with
  | stateTable | txAppLupReq =>
      exact (List.append_nil _).symm
  | rxEngReq | txAppReq | timerRelease =>
      exact sends rfl

theorem sent_run
    {system final : TableSystem} {actions : List TableAction}
    (run : Run TableStep system actions final) (client : TableClient) :
    final.sent client =
      system.sent client ++ requestsOf client actions := by
  induction run with
  | refl system =>
      exact (List.append_nil _).symm
  | @head system next final action rest stepped _ inductionHypothesis =>
      rw [inductionHypothesis, stepped, system.sent_act, List.append_assoc,
        ← requestsOf_append]
      rfl

/-- Releases are writes alone. -/
theorem timer_exchanges (actions : List TableAction) :
    Exchanges none (requestsOf .timer actions) none := by
  apply Exchanges.of_writes
  intro request member
  obtain ⟨⟨client, _⟩, filtered, rfl⟩ := List.mem_map.1 member
  obtain ⟨requested, isTimer⟩ := List.mem_filter.1 filtered
  obtain ⟨action, -, sent⟩ := List.mem_filterMap.1 requested
  obtain rfl : client = .timer := of_decide_eq_true isTimer
  cases action with
  | timerRelease id =>
      cases sent
      exact ⟨id, .closed, rfl⟩
  | stateTable | rxEngReq | txAppReq | txAppLupReq =>
      cases sent

/-! ## The result -/

/-- Reads and writes of a session are atomic, writes and answers are those of
the requests served, and each client's requests are served once and in
order. -/
structure ReadModifyWrites
    (initial : TcpSessionID → SessionState)
    (actions : List TableAction) (system : TableSystem) : Prop where
  atomic : Atomic system.log
  applied : system.table.table = tableAfter initial system.log
  answered :
    ∀ client, system.rsps client = answers client initial system.log
  served :
    ∀ client,
      requestsOf client actions =
        servedTo client system.log ++ system.table.outstanding client

end TableSystem

/-- The reads that are left without their writes; a timer leaves none. -/
def TableClient.opened
    (rxEng txApp : Option TcpSessionID) :
    TableClient → Option TcpSessionID
  | .rxEng => rxEng
  | .txApp => txApp
  | .timer => none

/-- With the RX engine and the TX application asking in exchanges, and all
requests coming in any order, reads of a session and the writes behind them
are atomic; and when no read is left without its write, calls of the table
serve everything that was asked. -/
theorem stateTable_readModifyWrites
    (initial : TcpSessionID → SessionState)
    (actions : List TableAction) (system : TableSystem)
    (rxEngOpened txAppOpened : Option TcpSessionID)
    (rxEng :
      Exchanges none (requestsOf .rxEng actions) rxEngOpened)
    (txApp :
      Exchanges none (requestsOf .txApp actions) txAppOpened)
    (run : Run TableStep (TableSystem.start initial) actions system) :
    system.ReadModifyWrites initial actions ∧
      (rxEngOpened = none → txAppOpened = none →
        ∃ calls final,
          Run TableStep system (List.replicate calls .stateTable) final ∧
            ∀ client,
              servedTo client final.log = requestsOf client actions) := by
  have inTurn (client : TableClient) :
      Exchanges none (requestsOf client actions)
        (TableClient.opened rxEngOpened txAppOpened client) := by
    cases client with
    | rxEng =>
        exact rxEng
    | txApp =>
        exact txApp
    | timer =>
        exact TableSystem.timer_exchanges actions
  have sound :=
    TableSystem.sound_run (TableSystem.sound_start initial) inTurn run
  have sent := TableSystem.sent_run run
  constructor
  · refine ⟨sound.atomic, sound.table, sound.rsps, ?_⟩
    intro client
    exact (sent client).symm.trans (sound.sent client)
  · intro rxEngClosed txAppClosed
    have closed :
        TableClient.opened rxEngOpened txAppOpened = fun _ => none := by
      funext client
      cases client with
      | rxEng =>
          exact rxEngClosed
      | txApp =>
          exact txAppClosed
      | timer =>
          rfl
    rw [closed] at inTurn sound
    have holdsOrWaits :=
      TableSystem.holdsOrWaits_run (TableSystem.sound_start initial) inTurn
        (fun client waits => by cases client <;> cases waits) run
    obtain ⟨calls, final, called, nothing⟩ :=
      TableSystem.drains sound holdsOrWaits
    refine ⟨calls, final, called, ?_⟩
    intro client
    have noRequest (other : TableClient) :
        Exchanges none
          (requestsOf other (List.replicate calls .stateTable)) none := by
      rw [TableSystem.requestsOf_calls]
      exact Exchanges.done none
    have soundThere := TableSystem.sound_run sound noRequest called
    have allServed := soundThere.sent client
    have sentThere := TableSystem.sent_run called client
    change
      final.sent client =
        servedTo client final.log ++ final.table.outstanding client
      at allServed
    rw [nothing, List.append_nil] at allServed
    rw [← allServed, sentThere, TableSystem.requestsOf_calls,
      List.append_nil]
    exact sent client

/-- The TX application's read of a session that the RX engine has locked, and
a timer's release of it. -/
def contendedActions : List TableAction :=
  [.rxEngReq (StateTableReq.lookup 1), .stateTable,
    .txAppReq (StateTableReq.lookup 1), .stateTable, .timerRelease 1,
    .stateTable, .rxEngReq (StateTableReq.update 1 .established),
    .stateTable, .stateTable, .txAppReq (StateTableReq.update 1 .finWait1),
    .stateTable, .stateTable]

def contendedSystem : TableSystem :=
  contendedActions.foldl TableSystem.act
    (TableSystem.start fun _ => .closed)

theorem stateTable_readModifyWrites_contended :
    contendedSystem.ReadModifyWrites (fun _ => .closed) contendedActions ∧
      contendedSystem.log =
        [(.rxEng, .read 1), (.rxEng, .write 1 .established),
          (.txApp, .read 1), (.txApp, .write 1 .finWait1),
          (.timer, .write 1 .closed)] := by
  constructor
  · refine
      (stateTable_readModifyWrites _ contendedActions contendedSystem none
          none ?_ ?_ ?_).1
    · exact Exchanges.read (Exchanges.write (Exchanges.done none))
    · exact Exchanges.read (Exchanges.write (Exchanges.done none))
    · repeat refine Run.head rfl ?_
      exact Run.refl _
  · rfl

end TcpOffload
