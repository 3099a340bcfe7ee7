import TcpOffload.Library.Guarded
import TcpOffload.Library.PendingWrites
import TcpOffload.MemoryAccess.StatusHandlers
import TcpOffload.TxAppIntf.DataHandler
import TcpOffload.TxSarTable

/-!
# Application transfers

The TX application interface with its FIFOs, between the application, the
state table, the DataMover, the TX SAR table and the event engine.  Every
module is called in any order and any number of times, and every message may
be delayed.
-/

namespace TcpOffload

open Guarded PendingWrites

/-! ## The system -/

def TxAppDataMsg.toTableReq : TxAppDataMsg → Option TxAppToTxAppTableReq
  | .tableReq req => some req
  | _ => none

def TxAppToTxAppTableReq.pointer
    (req : TxAppToTxAppTableReq) :
    Option (TcpSessionID × TcpSessionBuffer) :=
  if req.write then some (req.sessionId, req.appWrittenIdeal) else none

def TxAppDataMsg.toWriteCmd : TxAppDataMsg → Option MemBufferRWCmd
  | .moverWriteCmd cmd => some cmd
  | _ => none

def TxAppDataMsg.toEventCache : TxAppDataMsg → Option Event
  | .setEvent event => some event
  | _ => none

def TxAppRspMsg.toTxSarUpd : TxAppRspMsg → Option TxAppToTxSarReq
  | .txSarUpdReq req => some req
  | .setEvent _ => none

/-- `moverCmds` are the commands that `WriteDataToMem` has sent and the
DataMover has not answered. -/
structure TransferSystem where
  dataHandler : TxAppDataState
  tableInterface : TxAppTableState
  writeCmds : List MemBufferRWCmd
  moverCmds : List DataMoverCmd
  rspHandler : TxAppRspState
  txSarUpdates : List TxAppToTxSarReq
  txSar : TcpSessionID → TxSarTableEntry

/-- A call of one of the modules, or an input from outside: a request and the
data of the application, an answer of the state table, an event of
`TxAppConnectionHandler` and an acknowledgement from the RX engine. -/
inductive TransferAction where
  | request (req : AppTransDataReq)
  | payload (word : NetAXISWord)
  | sttableRsp (state : SessionState)
  | connEvent (event : Event) (notTx : event.type ≠ .tx)
  | dataHandler
  | tableInterface
  | writer
  | status (status : DataMoverStatus)
  | rspHandler
  | appWritten
  | ackd (req : RxEngToTxSarReq)

namespace TransferSystem

/-- The messages of `TxAppDataHandler` go into their FIFOs. -/
def afterDataHandler
    (system : TransferSystem) (next : TxAppDataState)
    (msgs : List TxAppDataMsg) : TransferSystem :=
  { system with
    dataHandler := next
    tableInterface :=
      { system.tableInterface with
        tableReqs :=
          system.tableInterface.tableReqs ++
            msgs.filterMap TxAppDataMsg.toTableReq }
    writeCmds :=
      system.writeCmds ++ msgs.filterMap TxAppDataMsg.toWriteCmd
    rspHandler :=
      { system.rspHandler with
        eventCache :=
          system.rspHandler.eventCache ++
            msgs.filterMap TxAppDataMsg.toEventCache } }

def afterTableInterface
    (system : TransferSystem) (next : TxAppTableState)
    (rsps : List TxAppTableToTxAppRsp) : TransferSystem :=
  { system with
    tableInterface := next
    dataHandler :=
      { system.dataHandler with
        tableRsps := system.dataHandler.tableRsps ++ rsps } }

def afterRspHandler
    (system : TransferSystem) (next : TxAppRspState)
    (msgs : List TxAppRspMsg) : TransferSystem :=
  { system with
    rspHandler := next
    txSarUpdates :=
      system.txSarUpdates ++ msgs.filterMap TxAppRspMsg.toTxSarUpd }

/-- `WriteDataToMem` reads a command: one flag, and the DataMover commands of
the access. -/
def writer (system : TransferSystem) : TransferSystem :=
  match system.writeCmds with
  | [] => system
  | cmd :: later =>
      { system with
        writeCmds := later
        moverCmds := system.moverCmds ++ cmd.splitCommands
        rspHandler :=
          { system.rspHandler with
            doubleAccessFlag :=
              system.rspHandler.doubleAccessFlag ++ [cmd.overflows] } }

/-- The DataMover answers its first command. -/
def answered
    (system : TransferSystem) (status : DataMoverStatus) :
    TransferSystem :=
  match system.moverCmds with
  | [] => system
  | _ :: later =>
      { system with
        moverCmds := later
        rspHandler :=
          { system.rspHandler with
            writeStatus := system.rspHandler.writeStatus ++ [status] } }

/-- The TX SAR table takes an update of `app_written`. -/
def appWritten (system : TransferSystem) : TransferSystem :=
  match system.txSarUpdates with
  | [] => system
  | req :: later =>
      { system with
        txSarUpdates := later
        txSar :=
          Function.update system.txSar req.sessionId
            ((system.txSar req.sessionId).txAppWrite req) }

/-- The TX SAR table takes a write of the RX engine, and tells the TX
application table about it. -/
def acknowledged
    (system : TransferSystem) (req : RxEngToTxSarReq) : TransferSystem :=
  { system with
    txSar :=
      Function.update system.txSar req.sessionId
        ((system.txSar req.sessionId).rxEngWrite req)
    tableInterface :=
      { system.tableInterface with
        txSarUpdReqs :=
          system.tableInterface.txSarUpdReqs ++
            [⟨req.sessionId, req.ackd.setWidth 18, false⟩] } }

def act (system : TransferSystem) : TransferAction → TransferSystem
  | .request req =>
      { system with
        dataHandler :=
          { system.dataHandler with
            transDataReqs := system.dataHandler.transDataReqs ++ [req] } }
  | .payload word =>
      { system with
        dataHandler :=
          { system.dataHandler with
            transData := system.dataHandler.transData ++ [word] } }
  | .sttableRsp state =>
      { system with
        dataHandler :=
          { system.dataHandler with
            sttableRsps := system.dataHandler.sttableRsps ++ [state] } }
  | .connEvent event _ =>
      { system with
        rspHandler :=
          { system.rspHandler with
            eventCache := system.rspHandler.eventCache ++ [event] } }
  | .dataHandler =>
      system.afterDataHandler (txAppDataHandler system.dataHandler).1
        (txAppDataHandler system.dataHandler).2
  | .tableInterface =>
      system.afterTableInterface
        (txAppTableInterface system.tableInterface).1
        (txAppTableInterface system.tableInterface).2
  | .writer => system.writer
  | .status status => system.answered status
  | .rspHandler =>
      system.afterRspHandler (txAppRspHandler system.rspHandler).1
        (txAppRspHandler system.rspHandler).2
  | .appWritten => system.appWritten
  | .ackd req => system.acknowledged req

end TransferSystem

/-- One step of the system. -/
def TransferStep
    (system : TransferSystem) (action : TransferAction)
    (next : TransferSystem) : Prop :=
  next = system.act action

/-! ## Grants -/

/-- A response without an error. -/
def TxAppDataMsg.grants : TxAppDataMsg → Bool
  | .transDataRsp rsp => rsp.data.error == .noError
  | _ => false

/-- The request that a step answers with `NO_ERROR`. -/
def TransferSystem.granted
    (system : TransferSystem) : TransferAction → Option AppTransDataReq
  | .dataHandler =>
      if (txAppDataHandler system.dataHandler).2.any
          TxAppDataMsg.grants then
        some system.dataHandler.transDataReq
      else
        none
  | _ => none

/-! ## Lookups of the table -/

/-- The handler and the table take turns: a lookup is queued behind the
writes of earlier grants, and its answer is the entry of the session, where
acknowledgements may be missing. -/
inductive TransferSystem.TableTurn (system : TransferSystem) : Prop
  | free :
      system.dataHandler.fsmState ≠ .readMeta →
      (∀ req ∈ system.tableInterface.tableReqs, req.write = true) →
      system.dataHandler.tableRsps = [] →
      system.TableTurn
  | asked {writes : List TxAppToTxAppTableReq} :
      system.dataHandler.fsmState = .readMeta →
      system.tableInterface.tableReqs =
        writes ++
          [TxAppToTxAppTableReq.lookup
            system.dataHandler.transDataReq.id] →
      (∀ req ∈ writes, req.write = true) →
      system.dataHandler.tableRsps = [] →
      system.TableTurn
  | answered {rsp : TxAppTableToTxAppRsp} :
      system.dataHandler.fsmState = .readMeta →
      system.tableInterface.tableReqs = [] →
      system.dataHandler.tableRsps = [rsp] →
      rsp.sessionId = system.dataHandler.transDataReq.id →
      rsp.appWrittenIdeal =
        (system.tableInterface.table rsp.sessionId).appWrittenIdeal →
      system.TableTurn

theorem TransferSystem.TableTurn.congr
    {system next : TransferSystem} (turn : system.TableTurn)
    (fsmState :
      next.dataHandler.fsmState = system.dataHandler.fsmState)
    (transDataReq :
      next.dataHandler.transDataReq = system.dataHandler.transDataReq)
    (tableRsps :
      next.dataHandler.tableRsps = system.dataHandler.tableRsps)
    (tableReqs :
      next.tableInterface.tableReqs = system.tableInterface.tableReqs)
    (table :
      ∀ id,
        (next.tableInterface.table id).appWrittenIdeal =
          (system.tableInterface.table id).appWrittenIdeal) :
    next.TableTurn := by
  cases turn with
  | free notAsking writes noRsp =>
      exact
        TableTurn.free (fsmState ▸ notAsking) (tableReqs ▸ writes)
          (tableRsps ▸ noRsp)
  | asked asking queued writes noRsp =>
      rw [← fsmState] at asking
      rw [← tableReqs, ← transDataReq] at queued
      exact TableTurn.asked asking queued writes (tableRsps ▸ noRsp)
  | answered asking noReqs queued ofRequest current =>
      rw [← fsmState] at asking
      rw [← tableReqs] at noReqs
      rw [← tableRsps] at queued
      rw [← transDataReq] at ofRequest
      exact
        TableTurn.answered asking noReqs queued ofRequest
          (current.trans (table _).symm)

namespace TransferSystem

/-- What holds in every run: no update of the table is an initialisation. -/
structure Serves (system : TransferSystem) : Prop where
  turn : system.TableTurn
  noInit :
    ∀ req ∈ system.tableInterface.txSarUpdReqs, req.init = false

variable {system : TransferSystem}

/-- A system in which no transfer is in flight. -/
structure Rests (system : TransferSystem) : Prop where
  fsmState : system.dataHandler.fsmState = .readRequest
  tableRsps : system.dataHandler.tableRsps = []
  tableReqs : system.tableInterface.tableReqs = []
  noInit :
    ∀ req ∈ system.tableInterface.txSarUpdReqs, req.init = false
  writeCmds : system.writeCmds = []
  moverCmds : system.moverCmds = []
  fsmStatus : system.rspHandler.fsmStatus = .readEv
  flags : system.rspHandler.doubleAccessFlag = []
  statuses : system.rspHandler.writeStatus = []
  cache : system.rspHandler.eventCache = []
  updates : system.txSarUpdates = []

theorem Rests.serves (rests : system.Rests) : system.Serves where
  turn :=
    TableTurn.free (by rw [rests.fsmState]; decide)
      (by rw [rests.tableReqs]; nofun) rests.tableRsps
  noInit := rests.noInit

/-- The modules after the reset, between connections that all stand at
`pointer`. -/
def start (pointer : TcpSessionBuffer) : TransferSystem where
  dataHandler :=
    ⟨.readRequest, false, ⟨0, 0, 0⟩, ⟨0, 0, 0⟩, 0, [], [], [], []⟩
  tableInterface := ⟨fun _ => ⟨pointer, pointer⟩, [], []⟩
  writeCmds := []
  moverCmds := []
  rspHandler := ⟨.readEv, Event.plain .tx 0, [], [], []⟩
  txSarUpdates := []
  txSar := fun _ =>
    ⟨pointer.setWidth 32, pointer.setWidth 32, 0, pointer, 0, 0, 0, 0,
      false, false, false⟩

theorem rests_start (pointer : TcpSessionBuffer) : (start pointer).Rests :=
  ⟨rfl, rfl, rfl, nofun, rfl, rfl, rfl, rfl, rfl, rfl, rfl⟩

theorem run_act (system : TransferSystem) (actions : List TransferAction) :
    Run TransferStep system actions (actions.foldl act system) := by
  induction actions generalizing system with
  | nil =>
      exact Run.refl system
  | cons action rest inductionHypothesis =>
      exact Run.head rfl (inductionHypothesis _)

theorem TableTurn.free_of_ne
    (turn : system.TableTurn)
    (notAsking : system.dataHandler.fsmState ≠ .readMeta) :
    (∀ req ∈ system.tableInterface.tableReqs, req.write = true) ∧
      system.dataHandler.tableRsps = [] := by
  cases turn with
  | free _ writes noRsp =>
      exact ⟨writes, noRsp⟩
  | asked asking _ _ _ =>
      exact absurd asking notAsking
  | answered asking _ _ _ _ =>
      exact absurd asking notAsking

/-- The answer that the handler reads. -/
theorem TableTurn.answer
    (turn : system.TableTurn) {curSessionState : SessionState}
    {laterStates : List SessionState} {rsp : TxAppTableToTxAppRsp}
    {laterRsps : List TxAppTableToTxAppRsp}
    (answers :
      system.dataHandler.Answers curSessionState laterStates rsp
        laterRsps) :
    laterRsps = [] ∧ system.tableInterface.tableReqs = [] ∧
      rsp.sessionId = system.dataHandler.transDataReq.id ∧
      rsp.appWrittenIdeal =
        (system.tableInterface.table rsp.sessionId).appWrittenIdeal := by
  cases turn with
  | free notAsking _ _ =>
      exact absurd answers.fsmState notAsking
  | asked _ _ _ noRsp =>
      rw [answers.tableRsps] at noRsp
      cases noRsp
  | answered _ noReqs queued ofRequest current =>
      rw [answers.tableRsps] at queued
      obtain ⟨rfl, rfl⟩ := List.cons.inj queued
      exact ⟨rfl, noReqs, ofRequest, current⟩

theorem TableTurn.dataHandler
    (turn : system.TableTurn) {next : TxAppDataState}
    {msgs : List TxAppDataMsg}
    (call : TxAppDataCall system.dataHandler next msgs) :
    (system.afterDataHandler next msgs).TableTurn := by
  cases call with
  | idle =>
      exact turn.congr rfl rfl rfl (List.append_nil _) (fun _ => rfl)
  | request atRequest queued =>
      obtain ⟨writes, noRsp⟩ :=
        turn.free_of_ne (by rw [atRequest]; decide)
      exact TableTurn.asked rfl rfl writes noRsp
  | refuse answers _ =>
      obtain ⟨rfl, noReqs, _, _⟩ := turn.answer answers
      refine TableTurn.free nofun ?_ rfl
      exact List.forall_mem_append.2 ⟨by rw [noReqs]; nofun, nofun⟩
  | grant answers _ =>
      obtain ⟨rfl, noReqs, _, _⟩ := turn.answer answers
      refine TableTurn.free nofun ?_ rfl
      exact
        List.forall_mem_append.2
          ⟨by rw [noReqs]; nofun, List.forall_mem_singleton.2 rfl⟩
  | @forward word later atData queued =>
      obtain ⟨writes, noRsp⟩ :=
        turn.free_of_ne (by rw [atData]; decide)
      refine
        TableTurn.free ?_ (List.forall_mem_append.2 ⟨writes, nofun⟩) noRsp
      simp only [afterDataHandler]
      split <;> nofun

theorem TableTurn.tableInterface
    (serves : system.Serves) {next : TxAppTableState}
    {rsps : List TxAppTableToTxAppRsp}
    (call : TxAppTableCall system.tableInterface next rsps) :
    (system.afterTableInterface next rsps).TableTurn := by
  have turn := serves.turn
  cases call with
  | idle =>
      exact turn.congr rfl rfl (List.append_nil _) rfl (fun _ => rfl)
  | @txSarUpdate req later queued =>
      have noInit := serves.noInit req (queued ▸ List.mem_cons_self)
      refine
        turn.congr rfl rfl (List.append_nil _) rfl fun id => ?_
      simp only [afterTableInterface]
      by_cases same : id = req.sessionId
      · subst same
        rw [Function.update_self, TxAppTableEntry.txSarUpdate, noInit]
        rfl
      · rw [Function.update_of_ne same]
  | @write req later queued isWrite =>
      cases turn with
      | free notAsking writes noRsp =>
          rw [queued, List.forall_mem_cons] at writes
          exact
            TableTurn.free notAsking writes.2
              (congrArg (· ++ []) noRsp)
      | @asked writes asking reqs areWrites noRsp =>
          rw [queued] at reqs
          cases writes with
          | nil =>
              obtain ⟨rfl, _⟩ := List.cons.inj reqs
              cases isWrite
          | cons first writes =>
              obtain ⟨rfl, rest⟩ := List.cons.inj reqs
              rw [List.forall_mem_cons] at areWrites
              exact
                TableTurn.asked asking rest areWrites.2
                  (congrArg (· ++ []) noRsp)
      | answered _ noReqs _ _ _ =>
          rw [queued] at noReqs
          cases noReqs
  | @lookup req later queued isLookup =>
      cases turn with
      | free notAsking writes noRsp =>
          rw [queued, List.forall_mem_cons, isLookup] at writes
          cases writes.1
      | @asked writes asking reqs areWrites noRsp =>
          rw [queued] at reqs
          cases writes with
          | nil =>
              obtain ⟨rfl, rfl⟩ := List.cons.inj reqs
              exact
                TableTurn.answered asking rfl
                  (congrArg (· ++ [_]) noRsp) rfl rfl
          | cons first writes =>
              obtain ⟨rfl, _⟩ := List.cons.inj reqs
              rw [List.forall_mem_cons, isLookup] at areWrites
              cases areWrites.1
      | answered _ noReqs _ _ _ =>
          rw [queued] at noReqs
          cases noReqs

/-- Every step keeps the turns. -/
theorem Serves.step (serves : system.Serves) (action : TransferAction) :
    (system.act action).Serves := by
  have same
      (next : TransferSystem)
      (dataHandler : next.dataHandler = system.dataHandler)
      (tableInterface : next.tableInterface = system.tableInterface) :
      next.Serves := by
    refine ⟨?_, by rw [tableInterface]; exact serves.noInit⟩
    exact
      serves.turn.congr (by rw [dataHandler]) (by rw [dataHandler])
        (by rw [dataHandler]) (by rw [tableInterface])
        (fun _ => by rw [tableInterface])
  cases action with
  | request req =>
      exact
        ⟨serves.turn.congr rfl rfl rfl rfl fun _ => rfl, serves.noInit⟩
  | payload word =>
      exact
        ⟨serves.turn.congr rfl rfl rfl rfl fun _ => rfl, serves.noInit⟩
  | sttableRsp state =>
      exact
        ⟨serves.turn.congr rfl rfl rfl rfl fun _ => rfl, serves.noInit⟩
  | connEvent event notTx =>
      exact same _ rfl rfl
  | dataHandler =>
      exact
        ⟨serves.turn.dataHandler
            (txAppDataHandler_call system.dataHandler),
          serves.noInit⟩
  | tableInterface =>
      have call := txAppTableInterface_call system.tableInterface
      refine ⟨TableTurn.tableInterface serves call, ?_⟩
      change
        ∀ req ∈
          (txAppTableInterface system.tableInterface).1.txSarUpdReqs, _
      intro req member
      refine serves.noInit req ?_
      generalize (txAppTableInterface system.tableInterface).1 = next,
        (txAppTableInterface system.tableInterface).2 = rsps at call member
      cases call with
      | idle =>
          exact member
      | txSarUpdate queued =>
          rw [queued]
          exact List.mem_cons_of_mem _ member
      | write _ _ =>
          exact member
      | lookup _ _ =>
          exact member
  | writer =>
      simp only [act, writer]
      split
      · exact serves
      · exact same _ rfl rfl
  | status status =>
      simp only [act, answered]
      split
      · exact serves
      · exact same _ rfl rfl
  | rspHandler =>
      exact same _ rfl rfl
  | appWritten =>
      simp only [act, appWritten]
      split
      · exact serves
      · exact same _ rfl rfl
  | ackd req =>
      exact
        ⟨serves.turn.congr rfl rfl rfl rfl fun _ => rfl,
          List.forall_mem_append.2
            ⟨serves.noInit, List.forall_mem_singleton.2 rfl⟩⟩

theorem grantMsgs_cmds (req : AppTransDataReq) (entry : TxAppTableEntry) :
    (req.grantMsgs entry).filterMap TxAppDataMsg.toWriteCmd =
      [sessionCmd .tx req.id entry.appWrittenIdeal
        (req.data.setWidth 16)] :=
  rfl

theorem grantMsgs_events
    (req : AppTransDataReq) (entry : TxAppTableEntry) :
    (req.grantMsgs entry).filterMap TxAppDataMsg.toEventCache =
      [entry.txEvent req.id req.data] :=
  rfl

theorem granted_eq_none
    {action : TransferAction} (other : action ≠ .dataHandler) :
    system.granted action = none := by
  cases action with
  | dataHandler =>
      exact absurd rfl other
  | request _ =>
      rfl
  | payload _ =>
      rfl
  | sttableRsp _ =>
      rfl
  | connEvent _ _ =>
      rfl
  | tableInterface =>
      rfl
  | writer =>
      rfl
  | status _ =>
      rfl
  | rspHandler =>
      rfl
  | appWritten =>
      rfl
  | ackd _ =>
      rfl

/-! ## The pointer behind the granted data -/

/-- `app_written_ideal`, once the writes queued for the table are done. -/
def ideal (system : TransferSystem) : TcpSessionID → TcpSessionBuffer :=
  settle
    (fun id => (system.tableInterface.table id).appWrittenIdeal)
    (system.tableInterface.tableReqs.filterMap
      TxAppToTxAppTableReq.pointer)

theorem ideal_of_noReqs
    (noReqs : system.tableInterface.tableReqs = [])
    (id : TcpSessionID) :
    system.ideal id =
      (system.tableInterface.table id).appWrittenIdeal := by
  rw [ideal, noReqs]
  rfl

theorem ideal_tableInterface
    (serves : system.Serves) {next : TxAppTableState}
    {rsps : List TxAppTableToTxAppRsp}
    (call : TxAppTableCall system.tableInterface next rsps) :
    (system.afterTableInterface next rsps).ideal = system.ideal := by
  cases call with
  | idle =>
      rfl
  | @txSarUpdate req later queued =>
      have noInit := serves.noInit req (queued ▸ List.mem_cons_self)
      simp only [ideal, afterTableInterface]
      congr 1
      funext id
      by_cases same : id = req.sessionId
      · subst same
        rw [Function.update_self, TxAppTableEntry.txSarUpdate, noInit]
        rfl
      · rw [Function.update_of_ne same]
  | @write req later queued isWrite =>
      have shown :
          req.pointer = some (req.sessionId, req.appWrittenIdeal) :=
        if_pos isWrite
      simp only [ideal, afterTableInterface, queued,
        List.filterMap_cons_some shown, settle_cons]
      congr 1
      funext id
      by_cases same : id = req.sessionId
      · subst same
        rw [Function.update_self, Function.update_self]
      · rw [Function.update_of_ne same, Function.update_of_ne same]
  | @lookup req later queued isLookup =>
      have noPointer : req.pointer = none :=
        if_neg (by rw [isLookup]; decide)
      simp only [ideal, afterTableInterface, queued,
        List.filterMap_cons_none noPointer]

/-- What a call of `TxAppDataHandler` means to the other modules: either it
grants its request on the current pointer, or it sends them no more than a
lookup. -/
inductive DataHandlerStep (system : TransferSystem) :
    Option AppTransDataReq → TransferSystem → Prop
  | quiet {next : TxAppDataState} {lookups : List TxAppToTxAppTableReq} :
      (∀ req ∈ lookups, req.write = false) →
      (∀ rsp ∈ next.tableRsps, rsp ∈ system.dataHandler.tableRsps) →
      DataHandlerStep system none
        { system with
          dataHandler := next
          tableInterface :=
            { system.tableInterface with
              tableReqs := system.tableInterface.tableReqs ++ lookups } }
  | grant {next : TxAppDataState} {rsp : TxAppTableToTxAppRsp} :
      system.tableInterface.tableReqs = [] →
      system.dataHandler.tableRsps = [rsp] →
      rsp.sessionId = system.dataHandler.transDataReq.id →
      rsp.appWrittenIdeal = system.ideal system.dataHandler.transDataReq.id →
      system.dataHandler.transDataReq.data ≤ rsp.entry.maxWriteLength →
      next.tableRsps = [] →
      next.fsmState = .readData →
      DataHandlerStep system (some system.dataHandler.transDataReq)
        (system.afterDataHandler next
          (system.dataHandler.transDataReq.grantMsgs rsp.entry))

theorem Serves.dataHandlerStep (serves : system.Serves) :
    DataHandlerStep system (system.granted .dataHandler)
      (system.act .dataHandler) := by
  have call := txAppDataHandler_call system.dataHandler
  simp only [granted, act]
  generalize (txAppDataHandler system.dataHandler).1 = next,
    (txAppDataHandler system.dataHandler).2 = msgs at call
  have quiet (lookups : List TxAppToTxAppTableReq)
      (areLookups : ∀ req ∈ lookups, req.write = false)
      (noGrant : msgs.any TxAppDataMsg.grants = false)
      (noCmd : msgs.filterMap TxAppDataMsg.toWriteCmd = [])
      (noEvent : msgs.filterMap TxAppDataMsg.toEventCache = [])
      (onlyLookups : msgs.filterMap TxAppDataMsg.toTableReq = lookups)
      (noNewRsp :
        ∀ rsp ∈ next.tableRsps, rsp ∈ system.dataHandler.tableRsps) :
      DataHandlerStep system
        (if msgs.any TxAppDataMsg.grants then
          some system.dataHandler.transDataReq
        else
          none)
        (system.afterDataHandler next msgs) := by
    rw [noGrant, afterDataHandler, noCmd, noEvent, onlyLookups,
      List.append_nil, List.append_nil]
    exact DataHandlerStep.quiet areLookups noNewRsp
  cases call with
  | idle =>
      exact quiet [] nofun rfl rfl rfl rfl fun _ member => member
  | request _ _ =>
      exact
        quiet [_] (List.forall_mem_singleton.2 rfl) rfl rfl rfl rfl
          fun _ member => member
  | @refuse _ _ _ _ error answers isError =>
      have behind :
          ∀ {rsp : TxAppTableToTxAppRsp} {later},
            system.dataHandler.tableRsps = rsp :: later →
              ∀ other ∈ later, other ∈ system.dataHandler.tableRsps := by
        intro rsp later queued other member
        rw [queued]
        exact List.mem_cons_of_mem _ member
      refine quiet [] nofun ?_ rfl rfl rfl (behind answers.tableRsps)
      cases error with
      | noError =>
          exact absurd rfl isError
      | errorNoconnection =>
          rfl
      | errorNospace =>
          rfl
      | errorWindow =>
          rfl
  | @grant _ rsp laterRsps answers fits =>
      obtain ⟨rfl, noReqs, ofRequest, current⟩ := serves.turn.answer answers
      refine
        DataHandlerStep.grant noReqs answers.tableRsps ofRequest ?_ fits
          rfl rfl
      rw [current, ofRequest, ideal_of_noReqs noReqs]
  | forward _ _ =>
      exact quiet [] nofun rfl rfl rfl rfl fun _ member => member

theorem filterMap_lookups
    {lookups : List TxAppToTxAppTableReq}
    (areLookups : ∀ req ∈ lookups, req.write = false) :
    lookups.filterMap TxAppToTxAppTableReq.pointer = [] := by
  rw [List.filterMap_eq_nil_iff]
  intro req member
  exact if_neg (by rw [areLookups req member]; decide)

/-- The pointer moves with the grants only. -/
theorem Serves.ideal_act (serves : system.Serves) (action : TransferAction) :
    (system.act action).ideal =
      match system.granted action with
      | none => system.ideal
      | some req =>
          Function.update system.ideal req.id
            (system.ideal req.id + req.data) := by
  cases action with
  | dataHandler =>
      have step := serves.dataHandlerStep
      generalize system.granted .dataHandler = granted,
        system.act .dataHandler = next at step ⊢
      cases step with
      | quiet areLookups _ =>
          simp only [ideal, List.filterMap_append,
            filterMap_lookups areLookups, List.append_nil]
      | @grant _ rsp noReqs _ _ current _ _ _ =>
          have pushed :
              (system.tableInterface.tableReqs ++
                  [TxAppToTxAppTableReq.update
                    system.dataHandler.transDataReq.id
                    (rsp.entry.appWrittenIdeal +
                      system.dataHandler.transDataReq.data)]).filterMap
                  TxAppToTxAppTableReq.pointer =
                system.tableInterface.tableReqs.filterMap
                    TxAppToTxAppTableReq.pointer ++
                  [(system.dataHandler.transDataReq.id,
                    rsp.entry.appWrittenIdeal +
                      system.dataHandler.transDataReq.data)] :=
            List.filterMap_append
          refine (congrArg (settle _) pushed).trans ?_
          rw [settle_push]
          exact
            congrArg
              (fun pointer =>
                Function.update system.ideal
                  system.dataHandler.transDataReq.id
                  (pointer + system.dataHandler.transDataReq.data))
              current
  | tableInterface =>
      exact
        ideal_tableInterface serves
          (txAppTableInterface_call system.tableInterface)
  | writer =>
      simp only [act, granted, writer]
      split <;> rfl
  | status status =>
      simp only [act, granted, answered]
      split <;> rfl
  | appWritten =>
      simp only [act, granted, appWritten]
      split <;> rfl
  | request _ =>
      rfl
  | payload _ =>
      rfl
  | sttableRsp _ =>
      rfl
  | connEvent _ _ =>
      rfl
  | rspHandler =>
      rfl
  | ackd _ =>
      rfl

end TransferSystem

def okayStatus : DataMoverStatus :=
  ⟨0, false, false, false, true⟩

def errorStatus : DataMoverStatus :=
  ⟨0, false, false, true, false⟩

/-- One request of an established session, from the application to the TX SAR
table. -/
def wholeTransfer
    (req : AppTransDataReq) (status : DataMoverStatus) :
    List TransferAction :=
  [.request req, .dataHandler, .sttableRsp .established, .tableInterface,
    .dataHandler, .payload (NetAXISWord.empty.withLast true),
    .dataHandler, .tableInterface, .writer, .status status,
    .rspHandler, .rspHandler, .appWritten]

end TcpOffload
