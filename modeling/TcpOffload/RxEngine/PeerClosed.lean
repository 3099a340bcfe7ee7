import TcpOffload.RxEngine.PastFin

/-!
# Sessions whose peer has closed

The state of a session under the machine, the connection handler of the TX
application and the timers, from the time that the machine takes the peer's
FIN until the session is opened again.
-/

namespace TcpOffload

open Clocked Guarded KeyedLock Lookup

/-! ## The connection handler as a client of the state table -/

/-- What reaches the connection handler from elsewhere. -/
inductive ConnectionHandlerInput where
  | openConnReq (req : AppOpenConnReq)
  | closeConnReq (id : TcpSessionID)
  | newClient (notification : NewClientNotificationNoTDEST)
  | rxEngNotification (rsp : OpenConnRspNoTDEST)
  | rtimerNotification (rsp : OpenConnRspNoTDEST)
  | slookupRsp (rsp : SessionLookupRsp)
  | checkTdestRsp (dest : NetAXISDest)
  | ptableRsp (port : TcpPortNumber)

def ConnectionHandlerMsg.stateReq :
    ConnectionHandlerMsg → Option StateTableReq
  | .sttableReq req => some req
  | _ => none

namespace ConnectionHandlerState

def arrive (state : ConnectionHandlerState) :
    ConnectionHandlerInput → ConnectionHandlerState
  | .openConnReq req =>
      { state with openConnReqs := state.openConnReqs ++ [req] }
  | .closeConnReq id =>
      { state with closeConnReqs := state.closeConnReqs ++ [id] }
  | .newClient notification =>
      { state with
        newClientNotifications :=
          state.newClientNotifications ++ [notification] }
  | .rxEngNotification rsp =>
      { state with
        rxEngNotifications := state.rxEngNotifications ++ [rsp] }
  | .rtimerNotification rsp =>
      { state with
        rtimerNotifications := state.rtimerNotifications ++ [rsp] }
  | .slookupRsp rsp =>
      { state with slookupRsps := state.slookupRsps ++ [rsp] }
  | .checkTdestRsp dest =>
      { state with checkTdestRsps := state.checkTdestRsps ++ [dest] }
  | .ptableRsp port =>
      { state with ptableRsps := state.ptableRsps ++ [port] }

/-- The handler has asked for the state of the session it closes. -/
def asksTable (state : ConnectionHandlerState) : Bool :=
  state.fsmState == .closeConn

/-- What the state table sees of the handler is the same. -/
structure SameClient (state next : ConnectionHandlerState) : Prop where
  asksTable : next.asksTable = state.asksTable
  appCloseSessionReg : next.appCloseSessionReg = state.appCloseSessionReg
  sttableRsps : next.sttableRsps = state.sttableRsps

/-- The state that closing a session writes back. -/
def closedState (state : SessionState) : SessionState :=
  if state = .established ∨ state = .finWait1 then .finWait1 else state

/-- What a call of the handler asks the state table. -/
inductive TableUse (state : ConnectionHandlerState) :
    ConnectionHandlerState → List StateTableReq → Prop
  | nothing {next : ConnectionHandlerState} :
      SameClient state next →
      TableUse state next []
  | opens {next : ConnectionHandlerState} {id : TcpSessionID} :
      SameClient state next →
      state.asksTable = false →
      TableUse state next [StateTableReq.update id .synSent]
  | asks {next : ConnectionHandlerState} {id : TcpSessionID} :
      state.asksTable = false →
      next.asksTable = true →
      next.appCloseSessionReg = id →
      next.sttableRsps = state.sttableRsps →
      TableUse state next [StateTableReq.lookup id]
  | closes {next : ConnectionHandlerState} {rsp : SessionState} :
      state.sttableRsps = rsp :: next.sttableRsps →
      next.asksTable = false →
      next.appCloseSessionReg = state.appCloseSessionReg →
      TableUse state next
        [StateTableReq.update state.appCloseSessionReg (closedState rsp)]

theorem sameClient_arrive
    (state : ConnectionHandlerState) (input : ConnectionHandlerInput) :
    SameClient state (state.arrive input) := by
  cases input <;> exact ⟨rfl, rfl, rfl⟩

theorem requestFreePort_client (state : ConnectionHandlerState) :
    SameClient state state.requestFreePort.1 ∧
      state.requestFreePort.2.filterMap ConnectionHandlerMsg.stateReq =
        [] := by
  rw [requestFreePort]
  split <;> exact ⟨⟨rfl, rfl, rfl⟩, rfl⟩

theorem takeIdle_use {state : ConnectionHandlerState}
    (isIdle : state.fsmState = .idle) :
    TableUse state state.takeIdle.1
      (state.takeIdle.2.filterMap ConnectionHandlerMsg.stateReq) := by
  have notAsked : state.asksTable = false := by
    rw [asksTable, isIdle]
    rfl
  rw [takeIdle]
  split
  · simp only []
    split
    · exact TableUse.opens ⟨rfl, rfl, rfl⟩ notAsked
    · exact TableUse.nothing ⟨rfl, rfl, rfl⟩
  · exact TableUse.nothing ⟨notAsked.symm, rfl, rfl⟩
  · exact TableUse.nothing ⟨notAsked.symm, rfl, rfl⟩
  · exact TableUse.nothing ⟨notAsked.symm, rfl, rfl⟩
  · exact TableUse.asks notAsked rfl rfl rfl
  · exact TableUse.nothing ⟨rfl, rfl, rfl⟩

theorem takeCloseConn_use (state : ConnectionHandlerState) :
    TableUse state state.takeCloseConn.1
      (state.takeCloseConn.2.filterMap
        ConnectionHandlerMsg.stateReq) := by
  rw [takeCloseConn]
  split
  · rename_i rsp later rsps
    have closes :=
      @TableUse.closes state
        { state with fsmState := .idle, sttableRsps := later } rsp rsps
        rfl rfl
    rw [closedState] at closes
    by_cases finishes : rsp = .established ∨ rsp = .finWait1
    · rw [if_pos finishes] at closes ⊢
      exact closes
    · rw [if_neg finishes] at closes ⊢
      exact closes
  · exact TableUse.nothing ⟨rfl, rfl, rfl⟩

theorem takeNext_use (state : ConnectionHandlerState) :
    TableUse state state.takeNext.1
      (state.takeNext.2.filterMap ConnectionHandlerMsg.stateReq) := by
  have waits {dest : TxAppConnFsmState}
      (isWaiting : state.fsmState = dest) (isOther : dest ≠ .closeConn) :
      state.asksTable = false := by
    rw [asksTable, isWaiting]
    exact beq_eq_false_iff_ne.2 isOther
  rw [takeNext]
  cases fsmState : state.fsmState with
  | idle =>
      exact takeIdle_use fsmState
  | waitForTdestActiveOpen =>
      have notAsked := waits fsmState (by decide)
      simp only []
      rw [takeTdestActiveOpen]
      split
      · exact TableUse.nothing ⟨notAsked.symm, rfl, rfl⟩
      · exact TableUse.nothing ⟨rfl, rfl, rfl⟩
  | waitForTdestPassiveOpen =>
      have notAsked := waits fsmState (by decide)
      simp only []
      rw [takeTdestPassiveOpen]
      split
      · exact TableUse.nothing ⟨notAsked.symm, rfl, rfl⟩
      · exact TableUse.nothing ⟨rfl, rfl, rfl⟩
  | closeConn =>
      exact state.takeCloseConn_use

/-- A use by a state that looks the same to the table. -/
theorem TableUse.of_same
    {state same next : ConnectionHandlerState} {reqs : List StateTableReq}
    (use : TableUse same next reqs) (isSame : SameClient state same) :
    TableUse state next reqs := by
  cases use with
  | nothing kept =>
      exact
        nothing
          ⟨kept.asksTable.trans isSame.asksTable,
            kept.appCloseSessionReg.trans isSame.appCloseSessionReg,
            kept.sttableRsps.trans isSame.sttableRsps⟩
  | opens kept notAsked =>
      exact
        opens
          ⟨kept.asksTable.trans isSame.asksTable,
            kept.appCloseSessionReg.trans isSame.appCloseSessionReg,
            kept.sttableRsps.trans isSame.sttableRsps⟩
          (isSame.asksTable.symm.trans notAsked)
  | asks notAsked asked isId rsps =>
      exact
        asks (isSame.asksTable.symm.trans notAsked) asked isId
          (rsps.trans isSame.sttableRsps)
  | closes rsps notAsked isId =>
      rw [isSame.appCloseSessionReg]
      exact
        closes (isSame.sttableRsps.symm.trans rsps) notAsked
          (isId.trans isSame.appCloseSessionReg)

end ConnectionHandlerState

theorem txAppConnectionHandler_use (state : ConnectionHandlerState) :
    state.TableUse (txAppConnectionHandler state).1
      ((txAppConnectionHandler state).2.filterMap
        ConnectionHandlerMsg.stateReq) := by
  obtain ⟨same, noReqs⟩ := state.requestFreePort_client
  rw [txAppConnectionHandler]
  simp only []
  rw [List.filterMap_append, noReqs, List.nil_append]
  exact state.requestFreePort.1.takeNext_use.of_same same

/-! ## The system -/

/-- `finTaken` says that the machine has taken a FIN of the session in
question since it last opened it. -/
structure FinSystem where
  fsm : RxEngState
  table : StateTableState
  rxSar : RxSarTableState
  conn : ConnectionHandlerState
  finTaken : Bool

/-- Calls of the processes, and what reaches them from elsewhere. -/
inductive FinAction where
  | rxEngTcpFsm
  | stateTable
  | rxSarTable
  | txAppConnectionHandler
  | segment (segment : RxEngFsmMetaData)
  | txSarRsp (rsp : TxSarToRxEngRsp)
  | connInput (input : ConnectionHandlerInput)
  | txAppLupReq (id : TcpSessionID)
  | timerRelease (id : TcpSessionID)
  | txEngLup (id : TcpSessionID)
  | rxAppReq (req : RxSarAppReqRsp)

/-- What a call of the machine makes of `finTaken`. -/
def RxEngState.finTakenBehind
    (state : RxEngState) (id : TcpSessionID) (finTaken : Bool) : Bool :=
  match state.handling id with
  | none => finTaken
  | some loaded =>
      if opensSession id (rxEngHandle loaded).2 then
        false
      else
        finTaken || loaded.isTakenFin

namespace FinSystem

def start
    (table : TcpSessionID → SessionState)
    (rxSar : TcpSessionID → RxSarTableEntry) : FinSystem where
  fsm := RxEngState.start
  table := StateTableState.start table
  rxSar := ⟨rxSar, [], [], []⟩
  conn := ConnectionHandlerState.start
  finTaken := false

/-- `msgs` of the machine reach the two tables. -/
def afterFsm
    (system : FinSystem) (fsm : RxEngState) (msgs : List RxEngMsg)
    (finTaken : Bool) : FinSystem :=
  { system with
    fsm := fsm
    table :=
      { system.table with
        rxEngReqs :=
          system.table.rxEngReqs ++ (rxWrites msgs).stateReqs }
    rxSar :=
      { system.rxSar with
        rxEngReqs :=
          system.rxSar.rxEngReqs ++ msgs.filterMap RxEngMsg.toRxSar }
    finTaken := finTaken }

/-- `msgs` of the state table reach the machine and the connection
handler. -/
def afterTable
    (system : FinSystem) (table : StateTableState)
    (msgs : List StateTableMsg) : FinSystem :=
  { system with
    fsm :=
      { system.fsm with
        sttableRsps := system.fsm.sttableRsps ++ rspsTo .rxEng msgs }
    table := table
    conn :=
      { system.conn with
        sttableRsps := system.conn.sttableRsps ++ rspsTo .txApp msgs } }

def act (id : TcpSessionID) (system : FinSystem) : FinAction → FinSystem
  | .rxEngTcpFsm =>
      let called := TcpOffload.rxEngTcpFsm system.fsm
      system.afterFsm called.1 called.2
        (system.fsm.finTakenBehind id system.finTaken)
  | .stateTable =>
      let called := TcpOffload.stateTable system.table
      system.afterTable called.1 called.2
  | .rxSarTable =>
      let called := TcpOffload.rxSarTable system.rxSar
      { system with
        fsm :=
          { system.fsm with
            rxSarRsps :=
              system.fsm.rxSarRsps ++
                called.2.filterMap RxSarTableMsg.toRxEng }
        rxSar := called.1 }
  | .txAppConnectionHandler =>
      let called := TcpOffload.txAppConnectionHandler system.conn
      { system with
        table :=
          { system.table with
            txAppReqs :=
              system.table.txAppReqs ++
                called.2.filterMap ConnectionHandlerMsg.stateReq }
        conn := called.1 }
  | .segment segment =>
      { system with
        fsm :=
          { system.fsm with
            metaDatas := system.fsm.metaDatas ++ [segment] } }
  | .txSarRsp rsp =>
      { system with
        fsm :=
          { system.fsm with
            txSarRsps := system.fsm.txSarRsps ++ [rsp] } }
  | .connInput input => { system with conn := system.conn.arrive input }
  | .txAppLupReq lookup =>
      { system with
        table :=
          { system.table with
            txAppLupReqs := system.table.txAppLupReqs ++ [lookup] } }
  | .timerRelease released =>
      { system with
        table :=
          { system.table with
            timerReleases := system.table.timerReleases ++ [released] } }
  | .txEngLup lookup =>
      { system with
        rxSar :=
          { system.rxSar with
            txEngLups := system.rxSar.txEngLups ++ [lookup] } }
  | .rxAppReq req =>
      { system with
        rxSar :=
          { system.rxSar with
            rxAppReqs := system.rxSar.rxAppReqs ++ [req] } }

end FinSystem

def FinStep
    (id : TcpSessionID) (system : FinSystem) (action : FinAction)
    (next : FinSystem) : Prop :=
  next = system.act id action

/-- Behind the peer's FIN no payload of the session is taken. -/
def KeepsClosed (id : TcpSessionID) (system : FinSystem) :
    FinAction → Prop
  | .rxEngTcpFsm =>
      system.finTaken = true →
        ∀ loaded ∈ system.fsm.handling id,
          TakesNoPayload (rxEngTcpFsm system.fsm).2
  | _ => True

/-- Behind the peer's FIN no ACK finds the session in CLOSING or in LAST_ACK
and brings payload that the machine takes. -/
def NoLatePayload (id : TcpSessionID) (system : FinSystem) :
    FinAction → Prop
  | .rxEngTcpFsm =>
      system.finTaken = true →
        ∀ loaded ∈ system.fsm.handling id, ¬ loaded.IsLatePayload
  | _ => True

/-! ## The session's state -/

namespace FinSystem

def tableRsps (system : FinSystem) : TableClient → List SessionState
  | .rxEng => system.fsm.sttableRsps
  | .txApp => system.conn.sttableRsps
  | .timer => []

/-- The session a client has last asked for. -/
def asked (system : FinSystem) : TableClient → TcpSessionID
  | .rxEng => system.fsm.tcpRxMetaReg.sessionId
  | .txApp => system.conn.appCloseSessionReg
  | .timer => 0

def asks (system : FinSystem) : TableClient → Bool
  | .rxEng => system.fsm.fsmState == .transition
  | .txApp => system.conn.asksTable
  | .timer => false

/-- The state table with what its clients ask for. -/
def asking (system : FinSystem) :
    Asking TableClient TcpSessionID SessionState where
  table := system.table.table
  holder := system.table.holder
  waiting := system.table.outstanding
  rsps := system.tableRsps
  asked := system.asked
  asks := system.asks

/-- Behind the FIN the session's state is past it, and the machine handles
a segment by the segment's own flags. -/
structure Invariant (id : TcpSessionID) (system : FinSystem) : Prop where
  kept :
    Asking.Kept id (fun state => state.pastFin = true)
      (system.finTaken = true) system.asking
  flags :
    system.fsm.fsmState = .transition →
      system.fsm.rxEngCtrlBits = system.fsm.tcpRxMetaReg.header.ctrlBits

theorem invariant_start
    (id : TcpSessionID) (table : TcpSessionID → SessionState)
    (rxSar : TcpSessionID → RxSarTableEntry) :
    Invariant id (start table rxSar) := by
  refine ⟨⟨?_, ?_, ?_⟩, ?_⟩
  · intro client other held
    cases client <;> cases held
  · intro client
    cases client <;> exact Phase.idle Pending.nil
  · intro finTaken
    cases finTaken
  · intro isTransition
    cases isTransition

/-! ### Requests on their way -/

theorem outstanding_rxEngReqs
    (table : StateTableState) (reqs : List StateTableReq) :
    { table with
        rxEngReqs := table.rxEngReqs ++ reqs }.outstanding =
      Function.update table.outstanding .rxEng
        (table.outstanding .rxEng ++ reqs.map StateTableReq.request) := by
  funext client
  cases client with
  | rxEng =>
      simp [StateTableState.outstanding, StateTableState.rxEngOutstanding]
  | txApp | timer =>
      rfl

theorem outstanding_txAppReqs
    (table : StateTableState) (reqs : List StateTableReq) :
    { table with
        txAppReqs := table.txAppReqs ++ reqs }.outstanding =
      Function.update table.outstanding .txApp
        (table.outstanding .txApp ++ reqs.map StateTableReq.request) := by
  funext client
  cases client with
  | txApp =>
      simp [StateTableState.outstanding, StateTableState.txAppOutstanding]
  | rxEng | timer =>
      rfl

theorem outstanding_timerReleases
    (table : StateTableState) (released : TcpSessionID) :
    { table with
        timerReleases :=
          table.timerReleases ++ [released] }.outstanding =
      Function.update table.outstanding .timer
        (table.outstanding .timer ++
          [StateTableState.releaseRequest released]) := by
  funext client
  cases client with
  | timer =>
      simp [StateTableState.outstanding, StateTableState.timerOutstanding]
  | rxEng | txApp =>
      rfl

/-! ### Steps -/

section Steps

variable {id : TcpSessionID} {system next : FinSystem}

theorem asking_eq {asking : Asking TableClient TcpSessionID SessionState}
    (table : next.table.table = asking.table)
    (holder : next.table.holder = asking.holder)
    (waiting : next.table.outstanding = asking.waiting)
    (rsps : ∀ client, next.tableRsps client = asking.rsps client)
    (asked : ∀ client, next.asked client = asking.asked client)
    (asks : ∀ client, next.asks client = asking.asks client) :
    next.asking = asking := by
  rw [FinSystem.asking, table, holder, waiting, funext rsps, funext asked,
    funext asks]

/-- What the state table sees of the machine is the same, and so is the
segment in hand. -/
structure SameMachine (state next : RxEngState) : Prop where
  fsmState : next.fsmState = state.fsmState
  segment : next.tcpRxMetaReg = state.tcpRxMetaReg
  ctrlBits : next.rxEngCtrlBits = state.rxEngCtrlBits
  sttableRsps : next.sttableRsps = state.sttableRsps

/-- What neither the table nor a client of it does is not seen. -/
theorem asking_same
    (table : next.table.Same system.table)
    (fsm : SameMachine system.fsm next.fsm)
    (conn : ConnectionHandlerState.SameClient system.conn next.conn) :
    next.asking = system.asking := by
  refine
    asking_eq table.table.symm table.holder.symm table.outstanding.symm
      ?_ ?_ ?_
  · intro client
    cases client with
    | rxEng =>
        exact fsm.sttableRsps
    | txApp =>
        exact conn.sttableRsps
    | timer =>
        rfl
  · intro client
    cases client with
    | rxEng =>
        exact congrArg RxEngFsmMetaData.sessionId fsm.segment
    | txApp =>
        exact conn.appCloseSessionReg
    | timer =>
        rfl
  · intro client
    cases client with
    | rxEng =>
        exact congrArg (fun state => state == .transition) fsm.fsmState
    | txApp =>
        exact conn.asksTable
    | timer =>
        rfl

theorem Invariant.same (invariant : Invariant id system)
    (table : next.table.Same system.table)
    (fsm : SameMachine system.fsm next.fsm)
    (conn : ConnectionHandlerState.SameClient system.conn next.conn)
    (finTaken : next.finTaken = system.finTaken) :
    Invariant id next := by
  refine ⟨?_, ?_⟩
  · rw [asking_same table fsm conn, finTaken]
    exact invariant.kept
  · rw [fsm.fsmState, fsm.ctrlBits, fsm.segment]
    exact invariant.flags

/-- The answers of the table reach its clients. -/
theorem tableRsps_afterTable
    (table : StateTableState) (msgs : List StateTableMsg)
    (client : TableClient) :
    (system.afterTable table msgs).tableRsps client =
      system.tableRsps client ++ rspsTo client msgs := by
  cases client with
  | rxEng | txApp =>
      rfl
  | timer =>
      have none : rspsTo .timer msgs = [] := by
        apply List.filterMap_eq_nil_iff.2
        intro msg _
        cases msg <;> rfl
      rw [none]
      rfl

theorem asking_afterTable
    {table : StateTableState} {msgs : List StateTableMsg}
    {asking : Asking TableClient TcpSessionID SessionState}
    (contents : table.table = asking.table)
    (holder : table.holder = asking.holder)
    (waiting : table.outstanding = asking.waiting)
    (rsps :
      ∀ client,
        system.tableRsps client ++ rspsTo client msgs =
          asking.rsps client)
    (asked : ∀ client, system.asked client = asking.asked client)
    (asks : ∀ client, system.asks client = asking.asks client) :
    (system.afterTable table msgs).asking = asking := by
  refine asking_eq contents holder waiting ?_ ?_ ?_
  · intro client
    rw [tableRsps_afterTable, rsps]
  · intro client
    rw [← asked]
    cases client <;> rfl
  · intro client
    rw [← asks]
    cases client <;> rfl

/-- A call of the table serves the oldest request of a client that no lock
stops, or nothing is seen of it. -/
theorem asking_stateTable :
    (system.act id .stateTable).asking = system.asking ∨
      ∃ client request later,
        system.asking.waiting client = request :: later ∧
          (∀ other, other ≠ client →
            system.asking.holder other ≠ some request.key) ∧
          (system.act id .stateTable).asking =
            system.asking.serve client request later := by
  have call := stateTable_call system.table
  rw [act]
  generalize stateTable system.table = called at call
  have unchanged (same : system.table.Same called.1)
      (none : ∀ client, rspsTo client called.2 = []) :
      (system.afterTable called.1 called.2).asking = system.asking := by
    refine
      asking_afterTable same.table same.holder same.outstanding ?_
        (fun _ => rfl) fun _ => rfl
    intro client
    rw [none, List.append_nil]
    rfl
  cases call with
  | serves client request later oldest free access left =>
      refine Or.inr ⟨client, request, later, oldest, free, ?_⟩
      refine
        asking_afterTable access.table access.holder left ?_
          (fun _ => rfl) fun _ => rfl
      intro other
      rw [access.rsps, Asking.serve_rsps]
      rfl
  | defers _ _ _ _ _ _ _ same _ none =>
      exact Or.inl (unchanged same none)
  | looksUp same _ none =>
      exact Or.inl (unchanged same none)
  | idle same nothing =>
      have none (client : TableClient) : rspsTo client called.2 = [] := by
        rw [nothing]
        rfl
      have unmoved : system.table.Same called.1 := by
        rw [same]
        exact ⟨rfl, rfl, rfl⟩
      exact Or.inl (unchanged unmoved none)

theorem invariant_stateTable (invariant : Invariant id system) :
    Invariant id (system.act id .stateTable) := by
  refine ⟨?_, invariant.flags⟩
  rcases @asking_stateTable id system with
    same | ⟨client, request, later, oldest, free, served⟩
  · rw [same]
    exact invariant.kept
  · rw [served]
    exact invariant.kept.serve oldest free

theorem asking_timerRelease (released : TcpSessionID) :
    (system.act id (.timerRelease released)).asking =
      system.asking.send .timer
        (StateTableState.releaseRequest released) := by
  refine
    asking_eq rfl ?_ (outstanding_timerReleases _ _) ?_ ?_ ?_
  · funext client
    cases client <;> rfl
  · intro client
    cases client <;> rfl
  · intro client
    cases client <;> rfl
  · intro client
    cases client <;> rfl

theorem invariant_timerRelease (invariant : Invariant id system)
    (released : TcpSessionID) :
    Invariant id (system.act id (.timerRelease released)) := by
  refine ⟨?_, invariant.flags⟩
  rw [asking_timerRelease]
  exact invariant.kept.send rfl trivial fun _ => rfl

/-- The requests of the connection handler reach the table. -/
theorem asking_afterConn
    {conn : ConnectionHandlerState} {reqs : List StateTableReq}
    {asking : Asking TableClient TcpSessionID SessionState}
    (table : system.asking.table = asking.table)
    (holder : system.asking.holder = asking.holder)
    (waiting :
      Function.update system.asking.waiting .txApp
          (system.asking.waiting .txApp ++
            reqs.map StateTableReq.request) =
        asking.waiting)
    (rsps :
      Function.update system.tableRsps .txApp conn.sttableRsps =
        asking.rsps)
    (asked :
      Function.update system.asked .txApp conn.appCloseSessionReg =
        asking.asked)
    (asks :
      Function.update system.asks .txApp conn.asksTable = asking.asks) :
    { system with
        table :=
          { system.table with
            txAppReqs := system.table.txAppReqs ++ reqs }
        conn := conn }.asking =
      asking := by
  refine
    asking_eq table (Eq.trans ?_ holder)
      ((outstanding_txAppReqs _ _).trans waiting) ?_ ?_ ?_
  · funext client
    cases client <;> rfl
  · intro client
    rw [← rsps]
    cases client <;> rfl
  · intro client
    rw [← asked]
    cases client <;> rfl
  · intro client
    rw [← asks]
    cases client <;> rfl

/-- Closing a session leaves it past the FIN. -/
theorem pastFin_closedState {rsp : SessionState}
    (past : rsp.pastFin = true) :
    (ConnectionHandlerState.closedState rsp).pastFin = true := by
  revert past
  cases rsp <;> decide

/-- What is seen of a call of the connection handler: it opens a session,
asks for the state of the one to close, or closes it. -/
inductive ConnAsks
    (asking : Asking TableClient TcpSessionID SessionState) :
    Asking TableClient TcpSessionID SessionState → Prop
  | same : ConnAsks asking asking
  | opens (opened : TcpSessionID) :
      asking.asks .txApp = false →
      ConnAsks asking (asking.send .txApp (.write opened .synSent))
  | asks (closed : TcpSessionID) :
      asking.asks .txApp = false →
      ConnAsks asking (asking.ask .txApp closed)
  | closes {rsp : SessionState} {later : List SessionState} :
      asking.rsps .txApp = rsp :: later →
      ConnAsks asking
        (asking.reply .txApp
          [.write (asking.asked .txApp)
            (ConnectionHandlerState.closedState rsp)])

theorem asking_txAppConnectionHandler :
    ConnAsks system.asking
      (system.act id .txAppConnectionHandler).asking := by
  have use := txAppConnectionHandler_use system.conn
  rw [act]
  generalize txAppConnectionHandler system.conn = called at use ⊢
  obtain ⟨conn, msgs⟩ := called
  simp only [] at use ⊢
  generalize
    msgs.filterMap ConnectionHandlerMsg.stateReq = reqs at use ⊢
  have unmoved (same : ConnectionHandlerState.SameClient system.conn conn) :
      Function.update system.tableRsps .txApp conn.sttableRsps =
          system.tableRsps ∧
        Function.update system.asked .txApp conn.appCloseSessionReg =
          system.asked ∧
        Function.update system.asks .txApp conn.asksTable =
          system.asks := by
    rw [same.sttableRsps, same.appCloseSessionReg, same.asksTable]
    exact
      ⟨Function.update_eq_self TableClient.txApp system.tableRsps,
        Function.update_eq_self TableClient.txApp system.asked,
        Function.update_eq_self TableClient.txApp system.asks⟩
  cases use with
  | nothing same =>
      obtain ⟨rsps, asked, asks⟩ := unmoved same
      rw [asking_afterConn rfl rfl ?_ rsps asked asks]
      · exact ConnAsks.same
      · rw [List.map_nil, List.append_nil]
        exact Function.update_eq_self _ _
  | @opens opened same notAsked =>
      obtain ⟨rsps, asked, asks⟩ := unmoved same
      have sent :
          { system with
              table :=
                { system.table with
                  txAppReqs :=
                    system.table.txAppReqs ++
                      [StateTableReq.update opened .synSent] }
              conn := conn }.asking =
            system.asking.send .txApp (.write opened .synSent) :=
        asking_afterConn rfl rfl rfl rsps asked asks
      rw [sent]
      exact ConnAsks.opens opened notAsked
  | @asks closed notAsked isAsked isId sameRsps =>
      have sent :
          { system with
              table :=
                { system.table with
                  txAppReqs :=
                    system.table.txAppReqs ++
                      [StateTableReq.lookup closed] }
              conn := conn }.asking =
            system.asking.ask .txApp closed := by
        refine asking_afterConn rfl rfl rfl ?_ ?_ ?_
        · rw [sameRsps]
          exact Function.update_eq_self TableClient.txApp system.tableRsps
        · rw [isId]
          rfl
        · rw [isAsked]
          rfl
      rw [sent]
      exact ConnAsks.asks closed notAsked
  | @closes rsp rsps notAsked sameId =>
      have answered : system.asking.rsps .txApp = rsp :: conn.sttableRsps :=
        rsps
      have sent :
          { system with
              table :=
                { system.table with
                  txAppReqs :=
                    system.table.txAppReqs ++
                      [StateTableReq.update system.conn.appCloseSessionReg
                        (ConnectionHandlerState.closedState rsp)] }
              conn := conn }.asking =
            system.asking.reply .txApp
              [.write system.conn.appCloseSessionReg
                (ConnectionHandlerState.closedState rsp)] := by
        refine asking_afterConn rfl rfl rfl ?_ ?_ ?_
        · rw [Asking.reply, answered]
          rfl
        · rw [sameId]
          exact Function.update_eq_self TableClient.txApp system.asked
        · rw [notAsked]
          rfl
      rw [sent]
      exact ConnAsks.closes answered

theorem invariant_txAppConnectionHandler
    (invariant : Invariant id system) :
    Invariant id (system.act id .txAppConnectionHandler) := by
  refine ⟨?_, invariant.flags⟩
  have kept := invariant.kept
  have finTaken :
      (system.act id .txAppConnectionHandler).finTaken =
        system.finTaken :=
    rfl
  rw [finTaken]
  have seen := @asking_txAppConnectionHandler id system
  generalize (system.act id .txAppConnectionHandler).asking = asking
    at seen ⊢
  cases seen with
  | same =>
      exact kept
  | opens opened notAsking =>
      exact kept.send notAsking trivial fun _ => rfl
  | asks closed notAsking =>
      exact kept.ask notAsking closed
  | @closes rsp later answered =>
      obtain ⟨-, known, -⟩ := kept.of_answer answered
      refine
        kept.reply answered
          (Or.inr ⟨_, rfl, Or.inl, fun finTaken isId => ?_⟩)
      exact pastFin_closedState ((known isId).2 finTaken)

/-- The requests of the machine reach the table. -/
theorem asking_afterFsm
    {fsm : RxEngState} {msgs : List RxEngMsg} {finTaken : Bool}
    {asking : Asking TableClient TcpSessionID SessionState}
    (table : system.asking.table = asking.table)
    (holder : system.asking.holder = asking.holder)
    (waiting :
      Function.update system.asking.waiting .rxEng
          (system.asking.waiting .rxEng ++
            (rxWrites msgs).stateReqs.map StateTableReq.request) =
        asking.waiting)
    (rsps :
      Function.update system.tableRsps .rxEng fsm.sttableRsps =
        asking.rsps)
    (asked :
      Function.update system.asked .rxEng fsm.tcpRxMetaReg.sessionId =
        asking.asked)
    (asks :
      Function.update system.asks .rxEng (fsm.fsmState == .transition) =
        asking.asks) :
    (system.afterFsm fsm msgs finTaken).asking = asking := by
  refine
    asking_eq table (Eq.trans ?_ holder)
      ((outstanding_rxEngReqs _ _).trans waiting) ?_ ?_ ?_
  · funext client
    cases client <;> rfl
  · intro client
    rw [← rsps]
    cases client <;> rfl
  · intro client
    rw [← asked]
    cases client <;> rfl
  · intro client
    rw [← asks]
    cases client <;> rfl

/-- A call of the machine that does nothing. -/
theorem asking_rests (finTaken : Bool) :
    (system.afterFsm system.fsm [] finTaken).asking = system.asking := by
  refine asking_afterFsm rfl rfl ?_ ?_ ?_ ?_
  · rw [show (rxWrites []).stateReqs = [] from rfl, List.map_nil,
      List.append_nil]
    exact Function.update_eq_self TableClient.rxEng system.asking.waiting
  · exact Function.update_eq_self TableClient.rxEng system.tableRsps
  · exact Function.update_eq_self TableClient.rxEng system.asked
  · exact Function.update_eq_self TableClient.rxEng system.asks

/-- The machine asks for the state of the next segment's session. -/
theorem asking_loads
    (segment : RxEngFsmMetaData) (later : List RxEngFsmMetaData)
    (finTaken : Bool) :
    (system.afterFsm
        { system.fsm with
          fsmState := .transition
          tcpRxMetaReg := segment
          rxEngSentTxSarReq :=
            segment.header.ack || system.fsm.rxEngSentTxSarReq
          rxEngCtrlBits := segment.header.ctrlBits
          metaDatas := later }
        (rxLookups segment) finTaken).asking =
      system.asking.ask .rxEng segment.sessionId := by
  refine asking_afterFsm rfl rfl ?_ ?_ rfl rfl
  · rw [rxWrites_rxLookups]
    rfl
  · exact Function.update_eq_self TableClient.rxEng system.tableRsps

theorem notAsking_of_load (isLoad : system.fsm.fsmState = .load) :
    system.asking.asks .rxEng = false := by
  change (system.fsm.fsmState == .transition) = false
  rw [isLoad]
  rfl

theorem Invariant.afterFsm_rests (invariant : Invariant id system) :
    Invariant id (system.afterFsm system.fsm [] system.finTaken) := by
  refine ⟨?_, invariant.flags⟩
  rw [asking_rests]
  exact invariant.kept

theorem Invariant.afterFsm_loads (invariant : Invariant id system)
    (isLoad : system.fsm.fsmState = .load) (finTaken : Bool)
    (isSame : finTaken = system.finTaken) :
    Invariant id
      (system.afterFsm (rxEngLoad system.fsm).1 (rxEngLoad system.fsm).2
        finTaken) := by
  rw [isSame, rxEngLoad]
  split
  · exact invariant.afterFsm_rests
  · rename_i segment later metaDatas
    refine ⟨?_, fun _ => rfl⟩
    have kept :=
      invariant.kept.ask (notAsking_of_load isLoad) segment.sessionId
    rw [← asking_loads segment later system.finTaken] at kept
    exact kept

section Handles

variable {loaded : RxEngState}

/-- The state that the machine has read is past the FIN, if the session is
the one whose FIN was taken. -/
theorem Invariant.loaded_past (invariant : Invariant id system)
    (answers : system.fsm.takeAnswers = some loaded)
    (isOwn : loaded.tcpRxMetaReg.sessionId = id)
    (finTaken : system.finTaken = true) :
    loaded.sessionStateReg.pastFin = true := by
  have taken := takesAnswers answers
  have answered :
      system.asking.rsps .rxEng =
        loaded.sessionStateReg :: loaded.sttableRsps :=
    taken.sttableRsps
  obtain ⟨-, known, -⟩ := invariant.kept.of_answer answered
  have isAsked : system.asking.asked .rxEng = id := by
    rw [← isOwn, taken.segment]
    rfl
  exact (known isAsked).2 finTaken

theorem asked_of_takeAnswers
    (answers : system.fsm.takeAnswers = some loaded) :
    system.asking.asked .rxEng = loaded.tcpRxMetaReg.sessionId := by
  rw [(takesAnswers answers).segment]
  rfl

theorem isLoad_rxEngHandle
    (answers : system.fsm.takeAnswers = some loaded) :
    (rxEngHandle loaded).1.fsmState = .load := by
  obtain ⟨txSarReg, txWinScale, regs⟩ := rxEngHandle_regs loaded
  rw [regs]
  exact (takesAnswers answers).fsmState

/-- The machine handles a segment. -/
theorem asking_handles
    (answers : system.fsm.takeAnswers = some loaded) (finTaken : Bool) :
    (system.afterFsm (rxEngHandle loaded).1 (rxEngHandle loaded).2
        finTaken).asking =
      system.asking.reply .rxEng
        ((rxWrites (rxEngHandle loaded).2).stateReqs.map
          StateTableReq.request) := by
  have answered :
      system.asking.rsps .rxEng =
        loaded.sessionStateReg :: loaded.sttableRsps :=
    (takesAnswers answers).sttableRsps
  obtain ⟨txSarReg, txWinScale, regs⟩ := rxEngHandle_regs loaded
  refine asking_afterFsm rfl rfl rfl ?_ ?_ ?_
  · rw [regs, Asking.reply, answered]
    rfl
  · have sameSession :
        (rxEngHandle loaded).1.tcpRxMetaReg.sessionId =
          system.asking.asked .rxEng := by
      rw [regs, asked_of_takeAnswers answers]
    rw [sameSession]
    exact Function.update_eq_self TableClient.rxEng system.asked
  · rw [isLoad_rxEngHandle answers]
    rfl

theorem Invariant.afterFsm_handles (invariant : Invariant id system)
    (answers : system.fsm.takeAnswers = some loaded) (finTaken : Bool)
    (other :
      loaded.tcpRxMetaReg.sessionId ≠ id → finTaken = system.finTaken)
    (own :
      loaded.tcpRxMetaReg.sessionId = id →
        finTaken =
          (!opensSession id (rxEngHandle loaded).2 &&
            (system.finTaken || loaded.isTakenFin))) :
    Invariant id
      (system.afterFsm (rxEngHandle loaded).1 (rxEngHandle loaded).2
        finTaken) := by
  have past := invariant.loaded_past answers
  have answered :
      system.asking.rsps .rxEng =
        loaded.sessionStateReg :: loaded.sttableRsps :=
    (takesAnswers answers).sttableRsps
  refine ⟨?_, fun isTransition => ?_⟩
  · rw [asking_handles answers]
    apply invariant.kept.reply answered
    rw [asked_of_takeAnswers answers]
    cases rxEngHandle_past loaded with
    | silent none noFin =>
        refine Or.inl ⟨by rw [none]; rfl, fun later => ?_⟩
        by_cases isOwn : loaded.tcpRxMetaReg.sessionId = id
        · change finTaken = true at later
          rw [own isOwn, noFin, Bool.or_false, Bool.and_eq_true] at later
          exact later.2
        · rw [← other isOwn]
          exact later
    | @opens next one opens =>
        refine Or.inr ⟨next, by rw [one]; rfl, fun later => ?_, ?_⟩
        · by_cases isOwn : loaded.tcpRxMetaReg.sessionId = id
          · exact Or.inr isOwn
          · rw [← other isOwn]
            exact Or.inl later
        · intro later isOwn
          change finTaken = true at later
          rw [isOwn] at opens
          rw [own isOwn, opens] at later
          cases later
    | @moves next one moves =>
        refine Or.inr ⟨next, by rw [one]; rfl, fun later => ?_, ?_⟩
        · by_cases isOwn : loaded.tcpRxMetaReg.sessionId = id
          · exact Or.inr isOwn
          · rw [← other isOwn]
            exact Or.inl later
        · intro later isOwn
          change finTaken = true at later
          rw [own isOwn, Bool.and_eq_true, Bool.or_eq_true] at later
          exact moves (later.2.imp_left (past isOwn))
  · change (rxEngHandle loaded).1.fsmState = .transition at isTransition
    rw [isLoad_rxEngHandle answers] at isTransition
    cases isTransition

end Handles

theorem invariant_rxEngTcpFsm (invariant : Invariant id system) :
    Invariant id (system.act id .rxEngTcpFsm) := by
  rw [act, RxEngState.finTakenBehind, RxEngState.handling]
  cases fsmState : system.fsm.fsmState with
  | load =>
      simp only []
      rw [rxEngTcpFsm, fsmState]
      exact invariant.afterFsm_loads fsmState _ rfl
  | transition =>
      simp only []
      rw [rxEngTcpFsm, fsmState]
      simp only []
      rw [rxEngTransition]
      cases answers : system.fsm.takeAnswers with
      | none =>
          exact invariant.afterFsm_rests
      | some loaded =>
          refine invariant.afterFsm_handles answers _ ?_ ?_
          · intro isOther
            rw [Option.filter_some, if_neg (by simpa using isOther)]
          · intro isOwn
            rw [Option.filter_some, if_pos (by simpa using isOwn)]
            simp only []
            cases opensSession id (rxEngHandle loaded).2 with
            | true =>
                rfl
            | false =>
                rfl

theorem invariant_act (invariant : Invariant id system)
    (action : FinAction) : Invariant id (system.act id action) := by
  have sameTable : system.table.Same system.table := ⟨rfl, rfl, rfl⟩
  have sameFsm : SameMachine system.fsm system.fsm :=
    ⟨rfl, rfl, rfl, rfl⟩
  have sameConn :
      ConnectionHandlerState.SameClient system.conn system.conn :=
    ⟨rfl, rfl, rfl⟩
  cases action with
  | rxEngTcpFsm =>
      exact invariant_rxEngTcpFsm invariant
  | stateTable =>
      exact invariant_stateTable invariant
  | txAppConnectionHandler =>
      exact invariant_txAppConnectionHandler invariant
  | timerRelease released =>
      exact invariant_timerRelease invariant released
  | rxSarTable | segment | txSarRsp =>
      exact invariant.same sameTable ⟨rfl, rfl, rfl, rfl⟩ sameConn rfl
  | txEngLup | rxAppReq =>
      exact invariant.same sameTable sameFsm sameConn rfl
  | connInput input =>
      exact
        invariant.same sameTable sameFsm
          (ConnectionHandlerState.sameClient_arrive _ input) rfl
  | txAppLupReq lookup =>
      refine invariant.same ⟨rfl, ?_, ?_⟩ sameFsm sameConn rfl
      · funext client
        cases client <;> rfl
      · funext client
        cases client <;> rfl

end Steps

/-- At each call the two properties agree. -/
theorem Invariant.keepsClosed_iff
    {id : TcpSessionID} {system : FinSystem}
    (invariant : Invariant id system) (action : FinAction) :
    KeepsClosed id system action ↔ NoLatePayload id system action := by
  cases action with
  | rxEngTcpFsm =>
      refine forall_congr' fun finTaken => ?_
      refine forall₂_congr fun loaded handles => ?_
      rw [RxEngState.handling] at handles
      cases fsmState : system.fsm.fsmState with
      | load =>
          rw [fsmState] at handles
          cases handles
      | transition =>
          rw [fsmState] at handles
          obtain ⟨answers, isOwn⟩ := Option.mem_filter_iff.1 handles
          have called :
              rxEngTcpFsm system.fsm = rxEngHandle loaded := by
            rw [rxEngTcpFsm, fsmState]
            simp only []
            rw [rxEngTransition, answers]
          have taken := takesAnswers answers
          have flags :
              loaded.rxEngCtrlBits =
                loaded.tcpRxMetaReg.header.ctrlBits := by
            rw [taken.ctrlBits, taken.segment]
            exact invariant.flags fsmState
          have past :=
            invariant.loaded_past answers (beq_iff_eq.1 isOwn) finTaken
          rw [called, RxEngState.takesNoPayload_iff flags,
            ← RxEngState.accepted_iff flags past, Bool.not_eq_true]
  | stateTable | rxSarTable | txAppConnectionHandler | segment | txSarRsp
  | connInput | txAppLupReq | timerRelease | txEngLup | rxAppReq =>
      exact Iff.rfl

end FinSystem

/-! ## The result -/

/-- Along every run the payload behind the peer's FIN is refused exactly as
long as no ACK brings payload, in order and within the window, to a session
in CLOSING or in LAST_ACK. -/
theorem peerClosed_iff
    (id : TcpSessionID) (table : TcpSessionID → SessionState)
    (rxSar : TcpSessionID → RxSarTableEntry)
    (actions : List FinAction) :
    Along (FinStep id) (KeepsClosed id) (FinSystem.start table rxSar)
        actions ↔
      Along (FinStep id) (NoLatePayload id) (FinSystem.start table rxSar)
        actions := by
  have preserved (system : FinSystem) (action : FinAction)
      (next : FinSystem) (invariant : system.Invariant id)
      (stepped : FinStep id system action next) : next.Invariant id := by
    rw [show next = system.act id action from stepped]
    exact FinSystem.invariant_act invariant action
  exact
    along_iff_of_invariant preserved
      (fun _ action _ invariant _ => invariant.keepsClosed_iff action)
      (FinSystem.invariant_start id table rxSar)

/-- A segment of the peer with all its processing: `nextByte` is how far we
have sent by then. -/
def processes (header : TcpHeaderMeta) (nextByte : BitVec 32) :
    List FinAction :=
  [.segment ⟨0, 0, 0, header⟩, .rxEngTcpFsm, .stateTable, .rxSarTable,
    .txSarRsp ⟨5000, nextByte, 0x2DA0, 0x3FFFF, 0, false, 0⟩,
    .rxEngTcpFsm]

/-- The peer's FIN reaches an established session, and its writes the tables;
behind our own FIN comes an ACK with ten bytes. -/
def lateData : List FinAction :=
  processes ⟨1000, 5000, 0xFFFF, true, false, false, true, 0, 0⟩ 5000 ++
    [.stateTable, .rxSarTable] ++
    processes ⟨1001, 5000, 0xFFFF, true, false, false, false, 0, 10⟩ 5001

/-- The session is in LAST_ACK, and its ten bytes go into the receive
ring. -/
theorem not_peerClosed :
    ¬ ∀ (id : TcpSessionID) (table : TcpSessionID → SessionState)
        (rxSar : TcpSessionID → RxSarTableEntry)
        (actions : List FinAction),
      Along (FinStep id) (KeepsClosed id) (FinSystem.start table rxSar)
        actions := by
  intro allKeep
  let start :=
    FinSystem.start (fun _ => .established) fun _ => ⟨1000, 1000, 0⟩
  let before := lateData.dropLast.foldl (FinSystem.act 0) start
  have along := allKeep 0 (fun _ => .established)
    (fun _ => ⟨1000, 1000, 0⟩) (lateData.dropLast ++ [.rxEngTcpFsm])
  have run : Run (FinStep 0) start lateData.dropLast before :=
    @Run.of_act _ _ (FinStep 0) (FinSystem.act 0) (fun _ _ => rfl) start
      lateData.dropLast
  have keeps : KeepsClosed 0 before .rxEngTcpFsm :=
    along.of_run run rfl
  have finTaken : before.finTaken = true := by
    decide +kernel
  have handles : (before.fsm.handling 0).isSome = true := by
    decide +kernel
  obtain ⟨loaded, isLoaded⟩ := Option.isSome_iff_exists.1 handles
  have stored :
      (rxWrites (rxEngTcpFsm before.fsm).2).memCmds.length = 1 := by
    decide +kernel
  rw [(keeps finTaken loaded isLoaded).nothing.memCmds] at stored
  cases stored

end TcpOffload
