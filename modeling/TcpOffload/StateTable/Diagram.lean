import TcpOffload.Library.LockedUpdates
import TcpOffload.RxEngine.PeerClosed

/-!
# The state diagram of a session

The states that the RX engine, the connection handler and the timers give a
session, as the arcs of a diagram.  Each client computes the next state from
an answer of the table that may be old when the write is served; with the
locks of the table every change is an arc from the state that the session is
in at that time.
-/

namespace TcpOffload

open Guarded KeyedLock

/-- The arcs, with who takes them.  The arcs from FIN_WAIT_2 are in the code
of the RX engine, and none leads there. -/
inductive StateArc : TableClient → SessionState → SessionState → Prop
  | passiveOpen : StateArc .rxEng .closed .synReceived
  | simultaneousOpen : StateArc .rxEng .synSent .synReceived
  | activeOpened : StateArc .rxEng .synSent .established
  | passiveOpened : StateArc .rxEng .synReceived .established
  | peerCloses : StateArc .rxEng .established .lastAck
  | crosses {state : SessionState} :
      state = .finWait1 ∨ state = .finWait2 →
      StateArc .rxEng state .closing
  | waits {state : SessionState} :
      state = .finWait1 ∨ state = .finWait2 ∨ state = .closing →
      StateArc .rxEng state .timeWait
  | resets (state : SessionState) : StateArc .rxEng state .closed
  | opens (state : SessionState) : StateArc .txApp state .synSent
  | appCloses : StateArc .txApp .established .finWait1
  | expires (state : SessionState) : StateArc .timer state .closed

/-- A write may also give a session back its state. -/
def StateMove
    (client : TableClient) (state next : SessionState) : Prop :=
  next = state ∨ StateArc client state next

/-! ## The moves of the clients -/

theorem ackedState_moves (state : RxEngState) :
    StateMove .rxEng state.sessionStateReg state.ackedState := by
  rw [RxEngState.ackedState]
  split
  · cases state.sessionStateReg with
    | synReceived =>
        exact Or.inr StateArc.passiveOpened
    | closing =>
        exact Or.inr (StateArc.waits (Or.inr (Or.inr rfl)))
    | lastAck =>
        exact Or.inr (StateArc.resets _)
    | closed | synSent | established | finWait1 | finWait2 | timeWait =>
        exact Or.inl rfl
  · exact Or.inl rfl

theorem finState_moves {state : RxEngState}
    (takes : state.takesFin = true) :
    StateMove .rxEng state.sessionStateReg state.finState := by
  rw [RxEngState.takesFin, Bool.and_eq_true] at takes
  have fromState := takes.1
  rw [RxEngState.finState]
  split
  · rename_i isEstablished
    rw [isEstablished]
    exact Or.inr StateArc.peerCloses
  · rename_i notEstablished
    have waits :
        state.sessionStateReg = .finWait1 ∨
          state.sessionStateReg = .finWait2 := by
      generalize state.sessionStateReg = session at *
      cases session with
      | established =>
          exact absurd rfl notEstablished
      | finWait1 =>
          exact Or.inl rfl
      | finWait2 =>
          exact Or.inr rfl
      | closed | synSent | synReceived | closing | timeWait | lastAck =>
          cases fromState
    split
    · exact
        Or.inr (StateArc.waits (waits.imp_right fun isWait => Or.inl isWait))
    · exact Or.inr (StateArc.crosses waits)

/-- The machine writes at most one state, which the answer moves to. -/
theorem rxEngHandle_moves (state : RxEngState) :
    (rxWrites (rxEngHandle state).2).stateReqs = [] ∨
      ∃ next,
        (rxWrites (rxEngHandle state).2).stateReqs =
            [state.updateReq next] ∧
          StateMove .rxEng state.sessionStateReg next := by
  have exit := rxEngHandle_exit state
  generalize rxWrites (rxEngHandle state).2 = writes at exit ⊢
  cases exit with
  | ackOutside =>
      exact Or.inl rfl
  | ackInside | ackDropped | ackTaken =>
      exact Or.inr ⟨_, rfl, ackedState_moves state⟩
  | ackRefused | finRefused =>
      exact Or.inr ⟨_, rfl, Or.inl rfl⟩
  | synTaken _ opened =>
      refine Or.inr ⟨_, rfl, Or.inr ?_⟩
      rcases opened with isClosed | isSynSent
      · rw [isClosed]
        exact StateArc.passiveOpen
      · rw [isSynSent]
        exact StateArc.simultaneousOpen
  | synAckTaken _ isSynSent =>
      refine Or.inr ⟨_, rfl, Or.inr ?_⟩
      rw [isSynSent]
      exact StateArc.activeOpened
  | finTaken _ takes =>
      exact Or.inr ⟨_, rfl, finState_moves takes⟩
  | releases _ _ keepsOrCloses =>
      refine Or.inr ⟨_, rfl, ?_⟩
      rcases keepsOrCloses with keeps | closes
      · exact Or.inl keeps
      · rw [closes]
        exact Or.inr (StateArc.resets _)

theorem closedState_moves (state : SessionState) :
    StateMove .txApp state
      (ConnectionHandlerState.closedState state) := by
  cases state with
  | established =>
      exact Or.inr StateArc.appCloses
  | closed | synSent | synReceived | finWait1 | finWait2 | closing
  | timeWait | lastAck =>
      exact Or.inl rfl

/-! ## The system as a store with locks -/

namespace FinSystem

section Steps

variable {id : TcpSessionID} {system : FinSystem}

theorem step_stateTable :
    system.asking.Step StateMove (system.act id .stateTable).asking := by
  rcases @asking_stateTable id system with
    same | ⟨client, request, later, oldest, free, served⟩
  · rw [same]
    exact Asking.Step.same
  · rw [served]
    exact Asking.Step.serve oldest free

theorem step_timerRelease (released : TcpSessionID) :
    system.asking.Step StateMove
      (system.act id (.timerRelease released)).asking := by
  rw [asking_timerRelease]
  exact
    Asking.Step.send rfl fun old => Or.inr (StateArc.expires old)

theorem step_txAppConnectionHandler :
    system.asking.Step StateMove
      (system.act id .txAppConnectionHandler).asking := by
  have seen := @asking_txAppConnectionHandler id system
  generalize (system.act id .txAppConnectionHandler).asking = asking
    at seen ⊢
  cases seen with
  | same =>
      exact Asking.Step.same
  | opens opened notAsking =>
      exact
        Asking.Step.send notAsking fun old =>
          Or.inr (StateArc.opens old)
  | asks closed notAsking =>
      exact Asking.Step.ask closed notAsking
  | closes answered =>
      exact
        Asking.Step.reply answered
          (Or.inr ⟨_, rfl, closedState_moves _⟩)

theorem step_loads
    (isLoad : system.fsm.fsmState = .load) (finTaken : Bool) :
    system.asking.Step StateMove
      (system.afterFsm (rxEngLoad system.fsm).1 (rxEngLoad system.fsm).2
        finTaken).asking := by
  rw [rxEngLoad]
  split
  · rw [asking_rests]
    exact Asking.Step.same
  · rename_i segment later metaDatas
    have sent := @asking_loads system segment later finTaken
    rw [rxLookups] at sent
    rw [sent]
    exact Asking.Step.ask segment.sessionId (notAsking_of_load isLoad)

/-- The machine answers with a move from the state that it was told. -/
theorem step_handles {loaded : RxEngState}
    (answers : system.fsm.takeAnswers = some loaded) (finTaken : Bool) :
    system.asking.Step StateMove
      (system.afterFsm (rxEngHandle loaded).1 (rxEngHandle loaded).2
        finTaken).asking := by
  have answered :
      system.asking.rsps .rxEng =
        loaded.sessionStateReg :: loaded.sttableRsps :=
    (takesAnswers answers).sttableRsps
  rw [asking_handles answers]
  refine Asking.Step.reply answered ?_
  rw [asked_of_takeAnswers answers]
  rcases rxEngHandle_moves loaded with none | ⟨next, one, moved⟩
  · rw [none]
    exact Or.inl rfl
  · rw [one]
    exact Or.inr ⟨next, rfl, moved⟩

theorem step_rxEngTcpFsm :
    system.asking.Step StateMove
      (system.act id .rxEngTcpFsm).asking := by
  rw [act, rxEngTcpFsm]
  cases fsmState : system.fsm.fsmState with
  | load =>
      exact step_loads fsmState _
  | transition =>
      simp only []
      rw [rxEngTransition]
      cases answers : system.fsm.takeAnswers with
      | none =>
          simp only []
          rw [asking_rests]
          exact Asking.Step.same
      | some loaded =>
          exact step_handles answers _

/-- The processes are a store with locks whose clients move along the
diagram. -/
theorem step_act (action : FinAction) :
    system.asking.Step StateMove (system.act id action).asking := by
  have sameTable : system.table.Same system.table := ⟨rfl, rfl, rfl⟩
  have sameFsm : SameMachine system.fsm system.fsm :=
    ⟨rfl, rfl, rfl, rfl⟩
  have sameConn :
      ConnectionHandlerState.SameClient system.conn system.conn :=
    ⟨rfl, rfl, rfl⟩
  have unseen {next : FinSystem} (same : next.asking = system.asking) :
      system.asking.Step StateMove next.asking := by
    rw [same]
    exact Asking.Step.same
  cases action with
  | rxEngTcpFsm =>
      exact step_rxEngTcpFsm
  | stateTable =>
      exact step_stateTable
  | txAppConnectionHandler =>
      exact step_txAppConnectionHandler
  | timerRelease released =>
      exact step_timerRelease released
  | rxSarTable | segment | txSarRsp =>
      exact unseen (asking_same sameTable ⟨rfl, rfl, rfl, rfl⟩ sameConn)
  | txEngLup | rxAppReq =>
      exact unseen (asking_same sameTable sameFsm sameConn)
  | connInput input =>
      exact
        unseen
          (asking_same sameTable sameFsm
            (ConnectionHandlerState.sameClient_arrive _ input))
  | txAppLupReq lookup =>
      refine unseen (asking_same ⟨rfl, ?_, ?_⟩ sameFsm sameConn)
      · funext client
        cases client <;> rfl
      · funext client
        cases client <;> rfl

end Steps

theorem coherent_start
    (table : TcpSessionID → SessionState)
    (rxSar : TcpSessionID → RxSarTableEntry) :
    Asking.Coherent StateMove (start table rxSar).asking := by
  apply Asking.Coherent.start
  · intro client
    cases client <;> rfl
  · intro client
    cases client <;> rfl
  · intro client
    cases client <;> rfl
  · intro client
    cases client <;> rfl

end FinSystem

/-! ## The result -/

/-- Each session keeps its state, or the step serves the write of a client
who takes an arc of the diagram. -/
def FollowsDiagram
    (id : TcpSessionID) (system : FinSystem) (action : FinAction) : Prop :=
  ∀ session,
    let state := system.table.table session
    let next := (system.act id action).table.table session
    next = state ∨
      ∃ client later,
        system.table.outstanding client = .write session next :: later ∧
          (system.act id action).table.outstanding client = later ∧
          StateArc client state next

theorem FinSystem.followsDiagram
    {id : TcpSessionID} {system : FinSystem}
    (coherent : Asking.Coherent StateMove system.asking)
    (action : FinAction) : FollowsDiagram id system action := by
  intro session
  rcases coherent.step_moves (step_act action) session with
    same | ⟨client, later, oldest, served, same | arc⟩
  · exact Or.inl same
  · exact Or.inl same
  · exact Or.inr ⟨client, later, oldest, served, arc⟩

/-- No arc leads to FIN_WAIT_2. -/
theorem StateArc.not_finWait2 {client : TableClient} {state : SessionState} :
    ¬ StateArc client state .finWait2 := by
  intro arc
  cases arc

theorem FollowsDiagram.not_finWait2
    {id : TcpSessionID} {system : FinSystem} {action : FinAction}
    (follows : FollowsDiagram id system action) {session : TcpSessionID}
    (notThere : system.table.table session ≠ .finWait2) :
    (system.act id action).table.table session ≠ .finWait2 := by
  intro isThere
  rcases follows session with same | ⟨client, later, -, -, arc⟩
  · exact notThere (same.symm.trans isThere)
  · rw [isThere] at arc
    exact arc.not_finWait2

theorem FinSystem.follows_run
    {id : TcpSessionID} {system : FinSystem}
    (coherent : Asking.Coherent StateMove system.asking)
    (actions : List FinAction) :
    Along (FinStep id) (FollowsDiagram id) system actions ∧
      ∀ session,
        system.table.table session ≠ .finWait2 →
          (actions.foldl (FinSystem.act id) system).table.table session ≠
            .finWait2 := by
  induction actions generalizing system with
  | nil =>
      exact ⟨trivial, fun _ notThere => notThere⟩
  | cons action rest inductionHypothesis =>
      have follows : FollowsDiagram id system action :=
        FinSystem.followsDiagram coherent action
      obtain ⟨along, never⟩ :=
        inductionHypothesis
          (coherent.step (@FinSystem.step_act id system action))
      constructor
      · rintro next rfl
        exact ⟨follows, along⟩
      · intro session notThere
        exact never session (follows.not_finWait2 notThere)

/-- In every run of the processes, in whatever order requests and answers
pass between them, each change of a session's state is an arc of the client
whose write the table serves; and a session that does not start in FIN_WAIT_2
is never there. -/
theorem sessions_follow_diagram
    (id : TcpSessionID) (table : TcpSessionID → SessionState)
    (rxSar : TcpSessionID → RxSarTableEntry)
    (actions : List FinAction) :
    Along (FinStep id) (FollowsDiagram id) (FinSystem.start table rxSar)
        actions ∧
      ∀ session,
        table session ≠ .finWait2 →
          (actions.foldl (FinSystem.act id)
              (FinSystem.start table rxSar)).table.table session ≠
            .finWait2 :=
  FinSystem.follows_run (FinSystem.coherent_start table rxSar) actions

end TcpOffload
