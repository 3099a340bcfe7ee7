import TcpOffload.TxAppIntf.Transfers

/-!
# The two write pointers

`app_written_ideal` moves when a transfer is granted, `app_written` when its
data is in the buffer.  The way from the one to the other is through the
event of the transfer, whose length member has 16 bits.
-/

namespace TcpOffload

open Guarded PendingWrites

/-! ## Updates on their way -/

/-- The event whose statuses are awaited. -/
def TxAppRspState.heldEvents (state : TxAppRspState) : List Event :=
  match state.fsmStatus with
  | .readEv => []
  | .readStatus1 => [state.curEvent]
  | .readStatus2 => [state.curEvent]

/-- The TX events that are not released or dropped. -/
def TxAppRspState.openEvents (state : TxAppRspState) : List Event :=
  state.heldEvents ++ state.eventCache.filter Event.isTx

namespace TransferSystem

/-- The updates of `app_written` that are queued, or to be expected. -/
def pendingUpdates (system : TransferSystem) : List TxAppToTxSarReq :=
  system.txSarUpdates ++
    system.rspHandler.openEvents.map TxAppToTxSarReq.ofEvent

/-- `app_written`, once all of these are done. -/
def written (system : TransferSystem) : TcpSessionID → TcpSessionBuffer :=
  settle (fun id => (system.txSar id).appWritten)
    (system.pendingUpdates.map fun req =>
      (req.sessionId, req.appWritten))

/-- Neither the table nor `app_written` waits for a transfer of the
session. -/
structure NoneInFlight
    (system : TransferSystem) (id : TcpSessionID) : Prop where
  tableReqs :
    ∀ req ∈ system.tableInterface.tableReqs, req.sessionId ≠ id
  updates : ∀ req ∈ system.pendingUpdates, req.sessionId ≠ id

/-! ## What is to hold -/

/-- The request of the session that is granted in this step is for `n` bytes:
so are its command and its event, and `app_written` will be moved to the
pointer `n` bytes further. -/
def AccountsExactly
    (id : TcpSessionID) (system : TransferSystem)
    (action : TransferAction) : Prop :=
  ∀ req,
    system.granted action = some req →
      req.id = id →
        ∃ cmd event,
          (system.act action).writeCmds = system.writeCmds ++ [cmd] ∧
          (system.act action).rspHandler.eventCache =
            system.rspHandler.eventCache ++ [event] ∧
          cmd.length.toNat = req.data.toNat ∧
          event.length.toNat = req.data.toNat ∧
          TxAppToTxSarReq.ofEvent event =
            ⟨id, system.ideal id + req.data⟩

/-- With nothing in flight the pointers of the session are the same. -/
def PointersAgree
    (id : TcpSessionID) (system : TransferSystem) : Prop :=
  system.NoneInFlight id →
    (system.txSar id).appWritten =
      (system.tableInterface.table id).appWrittenIdeal

/-- A request of the session that is granted is for less than `2 ^ 16`
bytes. -/
def GrantsShort
    (id : TcpSessionID) (system : TransferSystem)
    (action : TransferAction) : Prop :=
  ∀ req,
    system.granted action = some req →
      req.id = id → req.data.toNat < 2 ^ 16

instance (id : TcpSessionID) (system : TransferSystem)
    (action : TransferAction) :
    Decidable (GrantsShort id system action) :=
  match granted : system.granted action with
  | none =>
      isTrue fun req isGranted => by
        rw [granted] at isGranted
        cases isGranted
  | some req =>
      decidable_of_iff (req.id = id → req.data.toNat < 2 ^ 16)
        ⟨fun short other isGranted => by
          rw [granted] at isGranted
          exact Option.some.inj isGranted ▸ short,
        fun short => short req granted⟩

end TransferSystem

def TransferAction.StatusOkay : TransferAction → Prop
  | .status answer => answer.okay = true
  | _ => True

namespace TransferSystem

variable {system : TransferSystem} {id : TcpSessionID}

/-! ## A grant -/

theorem setWidth16_toNat
    {length : TcpSessionBuffer} (short : length.toNat < 2 ^ 16) :
    (length.setWidth 16).toNat = length.toNat := by
  rw [BitVec.toNat_setWidth]
  exact Nat.mod_eq_of_lt short

/-- A short length comes through the event unchanged. -/
theorem ofEvent_txEvent
    (entry : TxAppTableEntry) (id : TcpSessionID)
    {length : TcpSessionBuffer} (short : length.toNat < 2 ^ 16) :
    TxAppToTxSarReq.ofEvent (entry.txEvent id length) =
      ⟨id, entry.appWrittenIdeal + length⟩ := by
  have widened : (length.setWidth 16).setWidth 18 = length := by
    apply BitVec.eq_of_toNat_eq
    rw [BitVec.toNat_setWidth, setWidth16_toNat short]
    exact Nat.mod_eq_of_lt length.isLt
  simp only [TxAppToTxSarReq.ofEvent, TxAppTableEntry.txEvent, widened]

theorem accountsExactly_iff
    (serves : system.Serves) (action : TransferAction) :
    AccountsExactly id system action ↔ GrantsShort id system action := by
  constructor
  · intro accounts req granted ofSession
    obtain ⟨cmd, _, _, _, length, _⟩ := accounts req granted ofSession
    rw [← length]
    exact cmd.length.isLt
  · intro short req granted ofSession
    by_cases isHandler : action = .dataHandler
    · subst isHandler
      have shortReq := short req granted ofSession
      have step := serves.dataHandlerStep
      rw [granted] at step
      generalize system.act .dataHandler = next at step ⊢
      cases step with
      | @grant _ rsp _ _ _ current _ _ _ =>
          subst ofSession
          refine
            ⟨_, _, congrArg (system.writeCmds ++ ·) (grantMsgs_cmds _ _),
              congrArg (system.rspHandler.eventCache ++ ·)
                (grantMsgs_events _ _),
              setWidth16_toNat shortReq, setWidth16_toNat shortReq, ?_⟩
          rw [ofEvent_txEvent _ _ shortReq, ← current]
          rfl
    · rw [granted_eq_none isHandler] at granted
      cases granted

/-! ## The pointers, once everything is done -/

/-- The pointers of the session agree up to what is on its way, and no status
in the queue is an error. -/
structure PointerInvariant
    (id : TcpSessionID) (system : TransferSystem) : Prop where
  serves : system.Serves
  pointers : system.written id = system.ideal id
  okay : ∀ status ∈ system.rspHandler.writeStatus, status.okay = true

theorem PointerInvariant.pointersAgree
    (invariant : PointerInvariant id system) :
    PointersAgree id system := by
  intro noneInFlight
  have pointers := invariant.pointers
  have noWrites :
      ∀ write ∈
        system.tableInterface.tableReqs.filterMap
          TxAppToTxAppTableReq.pointer,
        write.1 ≠ id := by
    intro write member
    obtain ⟨req, queued, shown⟩ := List.mem_filterMap.1 member
    rw [TxAppToTxAppTableReq.pointer] at shown
    split at shown
    · rw [← Option.some.inj shown]
      exact noneInFlight.tableReqs req queued
    · cases shown
  have noUpdates :
      ∀ write ∈
        system.pendingUpdates.map fun req =>
          (req.sessionId, req.appWritten),
        write.1 ≠ id := by
    intro write member
    obtain ⟨req, queued, rfl⟩ := List.mem_map.1 member
    exact noneInFlight.updates req queued
  rw [written, settle_of_noWrite _ noUpdates, ideal,
    settle_of_noWrite _ noWrites] at pointers
  exact pointers

theorem heldEvents_readEv
    {state : TxAppRspState} (ready : state.fsmStatus = .readEv) :
    state.heldEvents = [] := by
  rw [TxAppRspState.heldEvents, ready]

theorem heldEvents_waiting
    {state : TxAppRspState} (waits : state.fsmStatus ≠ .readEv) :
    state.heldEvents = [state.curEvent] := by
  cases fsmStatus : state.fsmStatus with
  | readEv =>
      exact absurd fsmStatus waits
  | readStatus1 =>
      rw [TxAppRspState.heldEvents, fsmStatus]
  | readStatus2 =>
      rw [TxAppRspState.heldEvents, fsmStatus]

/-- A call of `TxAppRspHandler` that reads no error only moves updates on. -/
theorem pendingUpdates_rspHandler
    (okay : ∀ status ∈ system.rspHandler.writeStatus, status.okay = true)
    {next : TxAppRspState} {msgs : List TxAppRspMsg}
    (call : TxAppRspCall system.rspHandler next msgs) :
    (system.afterRspHandler next msgs).pendingUpdates =
      system.pendingUpdates := by
  have released
      (waits : system.rspHandler.fsmStatus ≠ .readEv)
      (ready : next.fsmStatus = .readEv)
      (sameCache : next.eventCache = system.rspHandler.eventCache)
      (sent : msgs = system.rspHandler.curEvent.writtenMsgs) :
      (system.afterRspHandler next msgs).pendingUpdates =
        system.pendingUpdates := by
    subst sent
    simp only [pendingUpdates, afterRspHandler,
      TxAppRspState.openEvents, heldEvents_readEv ready,
      heldEvents_waiting waits, sameCache, List.append_assoc]
    rfl
  cases call with
  | idle =>
      simp only [pendingUpdates, afterRspHandler, List.filterMap_nil,
        List.append_nil]
  | @pass event later ready cache notTx =>
      have dropped : event.isTx = false := by
        rw [Event.isTx, beq_eq_false_iff_ne]
        exact notTx
      simp only [pendingUpdates, afterRspHandler,
        TxAppRspState.openEvents, TxAppRspState.heldEvents, ready, cache,
        List.filter_cons, dropped]
      simp [TxAppRspMsg.toTxSarUpd]
  | @hold event later ready cache isTx =>
      have kept : event.isTx = true := by
        rw [Event.isTx, beq_iff_eq]
        exact isTx
      simp only [pendingUpdates, afterRspHandler,
        TxAppRspState.openEvents, TxAppRspState.heldEvents, ready, cache,
        List.filter_cons, kept]
      simp
  | @whole status laterFlags later waits _ statuses =>
      have isOkay := okay status (statuses ▸ List.mem_cons_self)
      refine released (by rw [waits]; decide) rfl rfl ?_
      rw [isOkay]
      rfl
  | @first status laterFlags later waits _ statuses =>
      have isOkay := okay status (statuses ▸ List.mem_cons_self)
      simp only [pendingUpdates, afterRspHandler,
        TxAppRspState.openEvents, TxAppRspState.heldEvents, waits,
        isOkay, if_true, List.filterMap_nil, List.append_nil]
  | @second status later waits statuses =>
      have isOkay := okay status (statuses ▸ List.mem_cons_self)
      refine released (by rw [waits]; decide) rfl rfl ?_
      rw [isOkay]
      rfl

theorem statuses_rspHandler
    {state next : TxAppRspState} {msgs : List TxAppRspMsg}
    (call : TxAppRspCall state next msgs) :
    ∀ status ∈ next.writeStatus, status ∈ state.writeStatus := by
  intro status member
  cases call with
  | idle =>
      exact member
  | pass _ _ _ =>
      exact member
  | hold _ _ _ =>
      exact member
  | whole _ _ statuses =>
      rw [statuses]
      exact List.mem_cons_of_mem _ member
  | first _ _ statuses =>
      rw [statuses]
      exact List.mem_cons_of_mem _ member
  | second _ statuses =>
      rw [statuses]
      exact List.mem_cons_of_mem _ member

/-- A new event of the session puts its update behind the others. -/
theorem written_afterDataHandler
    (next : TxAppDataState) (req : AppTransDataReq)
    (entry : TxAppTableEntry) :
    (system.afterDataHandler next (req.grantMsgs entry)).written =
      Function.update system.written req.id
        (TxAppToTxSarReq.ofEvent
          (entry.txEvent req.id req.data)).appWritten := by
  have pushed :
      (system.afterDataHandler next (req.grantMsgs entry)).pendingUpdates =
        system.pendingUpdates ++
          [TxAppToTxSarReq.ofEvent (entry.txEvent req.id req.data)] := by
    simp only [pendingUpdates, afterDataHandler, grantMsgs_events,
      TxAppRspState.openEvents, List.filter_append]
    simp [TxAppRspState.heldEvents, Event.isTx, TxAppTableEntry.txEvent]
  rw [written, pushed, List.map_append]
  exact settle_push _ _ _ _

/-- With okay statuses the pending value of `app_written` changes with the
grants only. -/
theorem written_act
    (okay : ∀ status ∈ system.rspHandler.writeStatus, status.okay = true)
    {action : TransferAction} (other : action ≠ .dataHandler) :
    (system.act action).written = system.written := by
  cases action with
  | dataHandler =>
      exact absurd rfl other
  | request _ =>
      rfl
  | payload _ =>
      rfl
  | sttableRsp _ =>
      rfl
  | tableInterface =>
      rfl
  | connEvent event notTx =>
      have dropped : event.isTx = false := by
        rw [Event.isTx, beq_eq_false_iff_ne]
        exact notTx
      have sameUpdates :
          (system.act (.connEvent event notTx)).pendingUpdates =
            system.pendingUpdates := by
        simp only [pendingUpdates, act, TxAppRspState.openEvents,
          List.filter_append, List.filter_cons, dropped]
        simp [TxAppRspState.heldEvents]
      rw [written, sameUpdates]
      rfl
  | writer =>
      simp only [act, writer]
      split <;> rfl
  | status _ =>
      simp only [act, answered]
      split <;> rfl
  | rspHandler =>
      have sameUpdates :=
        pendingUpdates_rspHandler okay
          (txAppRspHandler_call system.rspHandler)
      simp only [act]
      rw [written, sameUpdates]
      rfl
  | appWritten =>
      simp only [act, appWritten]
      split
      · rfl
      · rename_i req later queued
        simp only [written, pendingUpdates, queued, List.cons_append,
          List.map_cons, settle_cons]
        congr 1
        funext key
        by_cases same : key = req.sessionId
        · subst same
          rw [Function.update_self, Function.update_self]
          rfl
        · rw [Function.update_of_ne same, Function.update_of_ne same]
  | ackd req =>
      simp only [written, act, acknowledged]
      congr 1
      funext key
      by_cases same : key = req.sessionId
      · subst same
        rw [Function.update_self]
        rfl
      · rw [Function.update_of_ne same]

theorem PointerInvariant.step
    (invariant : PointerInvariant id system) {action : TransferAction}
    (statusOkay : action.StatusOkay)
    (short : GrantsShort id system action) :
    PointerInvariant id (system.act action) where
  serves := invariant.serves.step action
  pointers := by
    have idealAct := invariant.serves.ideal_act action
    by_cases isHandler : action = .dataHandler
    · subst isHandler
      have step := invariant.serves.dataHandlerStep
      rw [idealAct]
      cases granted : system.granted .dataHandler with
      | none =>
          rw [granted] at step
          generalize system.act .dataHandler = next at step ⊢
          cases step with
          | quiet _ _ =>
              exact invariant.pointers
      | some req =>
          have shortReq := short req granted
          rw [granted] at step
          generalize system.act .dataHandler = next at step ⊢
          cases step with
          | @grant _ rsp _ _ _ current _ _ _ =>
              rw [written_afterDataHandler]
              dsimp only
              by_cases ofSession : id = system.dataHandler.transDataReq.id
              · rw [ofEvent_txEvent _ _ (shortReq ofSession.symm),
                  ofSession, Function.update_self, Function.update_self]
                exact
                  congrArg (· + system.dataHandler.transDataReq.data)
                    current
              · rw [Function.update_of_ne ofSession,
                  Function.update_of_ne ofSession]
                exact invariant.pointers
    · rw [idealAct, granted_eq_none isHandler,
        written_act invariant.okay isHandler]
      exact invariant.pointers
  okay := by
    have okay := invariant.okay
    cases action with
    | writer =>
        simp only [act, writer]
        split <;> exact okay
    | status status =>
        simp only [act, answered]
        split
        · exact okay
        · exact
            List.forall_mem_append.2
              ⟨okay, List.forall_mem_singleton.2 statusOkay⟩
    | appWritten =>
        simp only [act, appWritten]
        split <;> exact okay
    | rspHandler =>
        intro status member
        exact
          okay status
            (statuses_rspHandler (txAppRspHandler_call system.rspHandler)
              status member)
    | request _ =>
        exact okay
    | payload _ =>
        exact okay
    | sttableRsp _ =>
        exact okay
    | connEvent _ _ =>
        exact okay
    | dataHandler =>
        exact okay
    | tableInterface =>
        exact okay
    | ackd _ =>
        exact okay

/-! ## Runs -/

theorem Rests.pendingUpdates (rests : system.Rests) :
    system.pendingUpdates = [] := by
  rw [TransferSystem.pendingUpdates, TxAppRspState.openEvents,
    heldEvents_readEv rests.fsmStatus, rests.cache, rests.updates]
  rfl

theorem Rests.pointerInvariant
    (rests : system.Rests)
    (same :
      (system.txSar id).appWritten =
        (system.tableInterface.table id).appWrittenIdeal) :
    PointerInvariant id system where
  serves := rests.serves
  pointers := by
    rw [written, rests.pendingUpdates, ideal_of_noReqs rests.tableReqs]
    exact same
  okay := by
    rw [rests.statuses]
    nofun

end TransferSystem

open TransferSystem

/-- In every run without failing writes, of transfers and anything else on
every session, each granted transfer of the session is accounted for and the
pointers agree, exactly when no more than 65535 bytes are granted at a
time. -/
theorem writePointers_agree_iff
    {id : TcpSessionID} {start final : TransferSystem}
    {actions : List TransferAction}
    (rests : start.Rests)
    (same :
      (start.txSar id).appWritten =
        (start.tableInterface.table id).appWrittenIdeal)
    (okay : ∀ action ∈ actions, action.StatusOkay)
    (run : Run TransferStep start actions final) :
    (Along TransferStep
          (fun system action =>
            AccountsExactly id system action ∧ PointersAgree id system)
          start actions ∧
        PointersAgree id final) ↔
      Along TransferStep (GrantsShort id) start actions := by
  have initially := rests.pointerInvariant same
  clear rests same
  induction run with
  | refl state =>
      exact ⟨fun _ => trivial, fun _ => ⟨trivial, initially.pointersAgree⟩⟩
  | @head state next final action rest stepped _ inductionHypothesis =>
      subst stepped
      rw [List.forall_mem_cons] at okay
      constructor
      · rintro ⟨along, atEnd⟩ next rfl
        obtain ⟨⟨accounts, _⟩, later⟩ := along _ rfl
        have short :=
          (accountsExactly_iff initially.serves action).1 accounts
        exact
          ⟨short,
            (inductionHypothesis okay.2
              (initially.step okay.1 short)).1 ⟨later, atEnd⟩⟩
      · intro along
        obtain ⟨short, later⟩ := along _ rfl
        obtain ⟨laterHolds, atEnd⟩ :=
          (inductionHypothesis okay.2 (initially.step okay.1 short)).2
            later
        refine ⟨?_, atEnd⟩
        rintro next rfl
        exact
          ⟨⟨(accountsExactly_iff initially.serves action).2 short,
              initially.pointersAgree⟩,
            laterHolds⟩

theorem writePointers_agree_fourBytes :
    ∃ final,
      Run TransferStep (start 0) (wholeTransfer ⟨4, 3, 0⟩ okayStatus)
          final ∧
      ((Along TransferStep
            (fun system action =>
              AccountsExactly 3 system action ∧ PointersAgree 3 system)
            (start 0) (wholeTransfer ⟨4, 3, 0⟩ okayStatus) ∧
          PointersAgree 3 final) ↔
        Along TransferStep (GrantsShort 3) (start 0)
          (wholeTransfer ⟨4, 3, 0⟩ okayStatus)) :=
  ⟨_, run_act _ _,
    writePointers_agree_iff (rests_start 0) rfl
      (by simp [wholeTransfer, TransferAction.StatusOkay, okayStatus])
      (run_act _ _)⟩

/-- 65540 bytes are granted, four of them written: `app_written` moves by
four. -/
theorem not_writePointers_agree :
    ¬ ∀ (id : TcpSessionID) (start final : TransferSystem)
        (actions : List TransferAction),
      start.Rests →
      (start.txSar id).appWritten =
        (start.tableInterface.table id).appWrittenIdeal →
      (∀ action ∈ actions, action.StatusOkay) →
      Run TransferStep start actions final →
      Along TransferStep
          (fun system action =>
            AccountsExactly id system action ∧ PointersAgree id system)
          start actions ∧
        PointersAgree id final := by
  intro agree
  have atEnd :=
    (agree 3 (start 0) _ (wholeTransfer ⟨65540, 3, 0⟩ okayStatus)
      (rests_start 0) rfl
      (by simp [wholeTransfer, TransferAction.StatusOkay, okayStatus])
      (run_act _ _)).2
  exact absurd (atEnd ⟨by decide, by decide⟩) (by decide)

end TcpOffload
