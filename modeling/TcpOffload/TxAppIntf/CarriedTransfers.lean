import TcpOffload.MemoryAccess.RingWindow
import TcpOffload.TxAppIntf.FailedWrites
import TcpOffload.TxAppIntf.RingSpace

/-!
# Transfers with their accesses

The write commands of `TxAppDataHandler`, for all sessions, are carried out by
the processes of `memory_access.hpp` with the words that the handler passes
on.  Here is what such a run does to the log of the transfers and to
`app_written`.
-/

namespace TcpOffload

open AnswerLog Cyclic Framing Guarded

/-! ## The system -/

namespace RingAccess

/-- The command of a write to a TX ring. -/
def txCommand : RingAccess → Option MemBufferRWCmd
  | .write .tx stored _ => some (stored.cmd .tx)
  | .write .rx _ _ => none
  | .read _ _ => none

/-- The words of a write to a TX ring. -/
def txWords : RingAccess → List NetAXISWord
  | .write .tx _ words => words
  | .write .rx _ _ => []
  | .read _ _ => []

end RingAccess

def TxAppDataMsg.toWriteData : TxAppDataMsg → Option NetAXISWord
  | .moverWriteData word => some word
  | _ => none

/-- The words that `TxAppDataHandler` passes on in a step. -/
def TransferSystem.forwarded
    (system : TransferSystem) : TransferAction → List NetAXISWord
  | .dataHandler =>
      (txAppDataHandler system.dataHandler).2.filterMap
        TxAppDataMsg.toWriteData
  | _ => []

/-- The command that `WriteDataToMem` reads in a step. -/
def TransferSystem.writing
    (system : TransferSystem) : TransferAction → List MemBufferRWCmd
  | .writer => system.writeCmds.take 1
  | _ => []

/-- The transfers, with the bytes of the session that are acknowledged, the
words between `TxAppDataHandler` and `WriteDataToMem`, and the accesses that
were carried out. -/
structure CarriedTransfers where
  logged : LoggedTransfers
  acked : Nat
  writeData : List NetAXISWord
  accesses : List RingAccess

namespace CarriedTransfers

def start (system : TransferSystem) : CarriedTransfers where
  logged := ⟨system, []⟩
  acked := 0
  writeData := []
  accesses := []

/-- A call, with the accesses of any ring that are carried out in it. -/
def act
    (system : CarriedTransfers) (id : TcpSessionID)
    (call : TransferAction × List RingAccess) : CarriedTransfers where
  logged := system.logged.act call.1
  acked :=
    system.acked +
      TransferSystem.ackedIn id system.logged.system call.1
  writeData :=
    (system.writeData ++ system.logged.system.forwarded call.1).drop
      (call.2.flatMap RingAccess.txWords).length
  accesses := system.accesses ++ call.2

end CarriedTransfers

/-- An acknowledgement of the session moves `ackd` forward, and not past
`app_written`. -/
def AckdWritten
    (id : TcpSessionID) (system : TransferSystem) :
    TransferAction → Prop
  | .ackd req =>
      req.sessionId = id →
        Between (system.ringAckd id) (req.ackd.setWidth 18)
          (system.txSar id).appWritten
  | _ => True

/-- A request that is granted is for a session that the memory has a ring
for. -/
def GrantsInMemory
    (system : TransferSystem) (action : TransferAction) : Prop :=
  ∀ req, system.granted action = some req → req.id.toNat < 2 ^ 13

/-- One step of a run in which every write is okay, grants are for less than
`2 ^ 16` bytes, and every command is carried out by an access that the
processes of the memory are made for, with the words next in the FIFO. -/
structure CarriedStep
    (id : TcpSessionID) (system : CarriedTransfers)
    (call : TransferAction × List RingAccess) (next : CarriedTransfers) :
    Prop where
  next : next = system.act id call
  acknowledged : AckdWritten id system.logged.system call.1
  okay : call.1.StatusOkay
  short : TransferSystem.GrantsShort id system.logged.system call.1
  inMemory : GrantsInMemory system.logged.system call.1
  carriedOut :
    call.2.filterMap RingAccess.txCommand =
      system.logged.system.writing call.1
  takesData : call.2.flatMap RingAccess.txWords <+: system.writeData
  wellFormed : ∀ access ∈ call.2, access.WellFormed

/-! ## Accesses of the TX rings -/

section Accesses

variable {id : TcpSessionID} {accesses : List RingAccess}

theorem txCommand_of_writes {access : RingAccess}
    (writes : access.Writes .tx id) : access.txCommand ≠ none := by
  cases access with
  | read direction asked =>
      exact writes.elim
  | write direction stored words =>
      obtain ⟨rfl, -⟩ := writes
      exact Option.some_ne_none _

/-- Without a command no TX ring is written. -/
theorem not_writes_of_noCommand
    (noCommand : accesses.filterMap RingAccess.txCommand = []) :
    ∀ access ∈ accesses, ¬ access.Writes .tx id :=
  fun access isIn writes =>
    txCommand_of_writes writes
      (List.filterMap_eq_nil_iff.1 noCommand access isIn)

/-- One command is one write, among accesses of other rings. -/
theorem write_of_command {cmd : MemBufferRWCmd}
    (isCommand : accesses.filterMap RingAccess.txCommand = [cmd]) :
    ∃ before stored words behind,
      accesses = before ++ .write .tx stored words :: behind ∧
        stored.cmd .tx = cmd ∧
        (∀ access ∈ before, ¬ access.Writes .tx id) ∧
        ∀ access ∈ behind, ¬ access.Writes .tx id := by
  obtain ⟨before, access, behind, rfl, noneBefore, isHere, noneBehind⟩ :=
    List.filterMap_eq_cons_iff.1 isCommand
  refine
    match access, isHere with
    | .write .tx stored words, isHere =>
        ⟨before, stored, words, behind, rfl, Option.some.inj isHere,
          fun other isIn writes =>
            txCommand_of_writes writes (noneBefore other isIn),
          not_writes_of_noCommand noneBehind⟩

end Accesses

/-! ## Where the transfers lie -/

/-- The bytes of a session's transfers. -/
def ownBytes (id : TcpSessionID) (transfers : List Transfer) : Nat :=
  (transfers.map fun transfer =>
    if transfer.event.sessionId = id then
      transfer.length.toNat
    else
      0).sum

/-- A transfer of the session starts at `place`. -/
structure Transfer.LiesAt
    (id : TcpSessionID) (place : Nat) (transfer : Transfer) : Prop where
  idBound : transfer.event.sessionId.toNat < 2 ^ 13
  cmd :
    ∃ offset,
      transfer.cmd =
          sessionCmd .tx transfer.event.sessionId offset
            (transfer.length.setWidth 16) ∧
        (transfer.event.sessionId = id → offset = BitVec.ofNat 18 place)
  short :
    transfer.event.sessionId = id → transfer.length.toNat < 2 ^ 16
  ends :
    transfer.event.sessionId = id →
      TxAppToTxSarReq.ofEvent transfer.event =
        ⟨id, BitVec.ofNat 18 (place + transfer.length.toNat)⟩

/-- The transfers of the session lie one behind the other from `first`
on. -/
def LaidOut
    (id : TcpSessionID) (first : Nat) (transfers : List Transfer) :
    Prop :=
  ∀ before transfer,
    before ++ [transfer] <+: transfers →
      transfer.LiesAt id (first + ownBytes id before)

section Places

variable {id : TcpSessionID} {first : Nat}

theorem ownBytes_append (before behind : List Transfer) :
    ownBytes id (before ++ behind) =
      ownBytes id before + ownBytes id behind := by
  rw [ownBytes, List.map_append, List.sum_append]
  rfl

theorem ownBytes_own {transfer : Transfer}
    (own : transfer.event.sessionId = id) :
    ownBytes id [transfer] = transfer.length.toNat :=
  if_pos own

theorem ownBytes_other {transfer : Transfer}
    (other : transfer.event.sessionId ≠ id) :
    ownBytes id [transfer] = 0 :=
  if_neg other

theorem ownBytes_le_of_isPrefix {part whole : List Transfer}
    (isPart : part <+: whole) :
    ownBytes id part ≤ ownBytes id whole := by
  obtain ⟨rest, rfl⟩ := isPart
  rw [ownBytes_append]
  exact Nat.le_add_right _ _

theorem LaidOut.push {transfers : List Transfer} {transfer : Transfer}
    (laidOut : LaidOut id first transfers)
    (lies : transfer.LiesAt id (first + ownBytes id transfers)) :
    LaidOut id first (transfers ++ [transfer]) := by
  intro before other isPrefix
  rw [List.prefix_concat_iff] at isPrefix
  rcases isPrefix with whole | earlier
  · obtain ⟨rfl, last⟩ := List.append_inj' whole rfl
    obtain rfl := List.singleton_inj.1 last
    exact lies
  · exact laidOut before other earlier

/-- What a grant adds to the bytes of the session. -/
theorem ownBytes_granted
    (system : TransferSystem) (action : TransferAction) :
    ownBytes id
        ((system.granted action).toList.map system.transferOf) =
      TransferSystem.acceptedIn id system action := by
  rw [TransferSystem.acceptedIn]
  cases system.granted action with
  | none =>
      rfl
  | some req =>
      rfl

end Places

/-! ## The log -/

section Log

variable {id : TcpSessionID} {logged : LoggedTransfers}
variable {action : TransferAction}

theorem LoggedTransfers.jobs_record
    (logged : LoggedTransfers) (action : TransferAction) :
    jobs (logged.record action) =
      jobs logged.log ++
        (logged.system.granted action).toList.map
          logged.system.transferOf := by
  have pushed :
      jobs
          (logged.log ++
            (logged.system.granted action).toList.map fun req =>
              ⟨logged.system.transferOf req, []⟩) =
        jobs logged.log ++
          (logged.system.granted action).toList.map
            logged.system.transferOf := by
    rw [jobs, List.map_append, List.map_map]
    rfl
  cases action with
  | status answer =>
      rw [LoggedTransfers.record]
      split
      · exact (List.append_nil _).symm
      · exact
          (AnswerLog.jobs_record _ _).trans (List.append_nil _).symm
  | request | payload | sttableRsp | connEvent | dataHandler
  | tableInterface | writer | rspHandler | appWritten | ackd =>
      exact pushed

/-- The answers of a log are okay. -/
def AllAnswersOkay (log : List (Entry Transfer)) : Prop :=
  ∀ entry ∈ log, ∀ answer ∈ entry.answers, answer = true

theorem AllAnswersOkay.record
    (allOkay : AllAnswersOkay logged.log) (isOkay : action.StatusOkay) :
    AllAnswersOkay (logged.record action) := by
  have pushed :
      AllAnswersOkay
        (logged.log ++
          (logged.system.granted action).toList.map fun req =>
            ⟨logged.system.transferOf req, []⟩) := by
    refine List.forall_mem_append.2 ⟨allOkay, ?_⟩
    rintro entry isIn answer isAnswer
    obtain ⟨req, -, rfl⟩ := List.mem_map.1 isIn
    cases isAnswer
  cases action with
  | status answer =>
      have okay : answer.okay = true := isOkay
      rw [LoggedTransfers.record, okay]
      split
      · exact allOkay
      · exact record_okay allOkay
  | request | payload | sttableRsp | connEvent | dataHandler
  | tableInterface | writer | rspHandler | appWritten | ackd =>
      exact pushed

theorem AllAnswersOkay.not_firstHalfFailed
    (allOkay : AllAnswersOkay logged.log)
    {closed opened : List (Entry Transfer)}
    (parts : logged.log = closed ++ opened) :
    ∀ entry ∈ opened, ¬ FirstHalfFailed entry := by
  rintro entry isIn ⟨-, failed⟩
  have inLog : entry ∈ logged.log := by
    rw [parts]
    exact List.mem_append_right closed isIn
  exact
    absurd (allOkay entry inLog false (List.mem_of_head? failed))
      (by decide)

/-- The statuses that `TxAppRspHandler` has not read are okay. -/
theorem InStep.statuses_okay
    {closed opened : List (Entry Transfer)}
    (inStep : InStep logged closed opened)
    (allOkay : AllAnswersOkay logged.log) :
    ∀ status ∈ logged.system.rspHandler.writeStatus,
      status.okay = true := by
  intro status isIn
  have isAhead : status.okay ∈ logged.system.okaysAhead :=
    List.mem_map.2 ⟨status, isIn, rfl⟩
  have isAnswer : status.okay ∈ answers opened := by
    cases inStep.takes with
    | whole _ _ sameOkays =>
        exact sameOkays ▸ isAhead
    | half _ _ _ _ sameOkays =>
        exact sameOkays ▸ List.mem_cons_of_mem true isAhead
  obtain ⟨entry, isEntry, isOkay⟩ := List.mem_flatMap.1 isAnswer
  refine allOkay entry ?_ status.okay isOkay
  rw [inStep.parts]
  exact List.mem_append_right closed isEntry

/-- The queues stay in step with the log. -/
theorem InStep.act
    {closed opened : List (Entry Transfer)}
    (inStep : InStep logged closed opened)
    (allOkay : AllAnswersOkay logged.log) (action : TransferAction) :
    ∃ nowClosed stillOpened,
      InStep (logged.act action) nowClosed stillOpened := by
  have serves := inStep.serves.step action
  cases action with
  | request | payload | sttableRsp | tableInterface | ackd =>
      exact
        ⟨closed, opened,
          inStep.congr serves (List.append_nil _) rfl rfl rfl⟩
  | connEvent event notTx =>
      exact ⟨closed, opened, inStep.connEvent event notTx⟩
  | dataHandler =>
      exact ⟨closed, _, inStep.dataHandler⟩
  | writer =>
      exact ⟨closed, opened, inStep.writer⟩
  | rspHandler =>
      obtain ⟨nowClosed, stillOpened, next, -⟩ :=
        inStep.rspHandler (allOkay.not_firstHalfFailed inStep.parts)
      exact ⟨nowClosed, stillOpened, next⟩
  | appWritten =>
      refine
        ⟨closed, opened,
          inStep.congr serves (List.append_nil _) ?_ ?_ ?_⟩
      all_goals
        simp only [LoggedTransfers.act, TransferSystem.act,
          TransferSystem.appWritten]
        split
        · rfl
        · rfl
  | status answer =>
      cases queued : logged.system.moverCmds with
      | nil =>
          have sameLog : logged.record (.status answer) = logged.log := by
            rw [LoggedTransfers.record, queued]
            rfl
          have same :
              logged.system.act (.status answer) = logged.system := by
            simp only [TransferSystem.act, TransferSystem.answered, queued]
          rw [LoggedTransfers.act, sameLog, same]
          exact ⟨closed, opened, inStep⟩
      | cons first later =>
          exact ⟨closed, _, (inStep.status answer queued).2⟩

end Log

/-! ## `app_written` -/

/-- The update that a transfer is released with. -/
def Transfer.update (transfer : Transfer) : TxAppToTxSarReq :=
  TxAppToTxSarReq.ofEvent transfer.event

/-- The TX SAR table has taken the updates of the first transfers; those of
the others are queued, or to be expected. -/
structure UpdatesPass
    (id : TcpSessionID) (first acked : Nat) (system : TransferSystem)
    (transfers taken passing : List Transfer) : Prop where
  parts : transfers = taken ++ passing
  pending : system.pendingUpdates = passing.map Transfer.update
  appWritten :
    (system.txSar id).appWritten =
      BitVec.ofNat 18 (first + ownBytes id taken)
  acknowledged : acked ≤ ownBytes id taken

namespace UpdatesPass

variable {id : TcpSessionID} {first acked : Nat}
variable {system next : TransferSystem}
variable {transfers taken passing : List Transfer}

theorem congr
    (passes : UpdatesPass id first acked system transfers taken passing)
    (pending : next.pendingUpdates = system.pendingUpdates)
    (appWritten :
      (next.txSar id).appWritten = (system.txSar id).appWritten) :
    UpdatesPass id first acked next transfers taken passing where
  parts := passes.parts
  pending := pending.trans passes.pending
  appWritten := appWritten.trans passes.appWritten
  acknowledged := passes.acknowledged

/-- A granted transfer is the last one to be expected. -/
theorem dataHandler (serves : system.Serves)
    (passes : UpdatesPass id first acked system transfers taken passing) :
    ∃ more,
      UpdatesPass id first acked (system.act .dataHandler)
        (transfers ++
          (system.granted .dataHandler).toList.map system.transferOf)
        taken more := by
  have step := serves.dataHandlerStep
  generalize system.granted .dataHandler = granted,
    system.act .dataHandler = after at step ⊢
  cases step with
  | quiet _ _ =>
      refine ⟨passing, ?_⟩
      rw [Option.toList_none, List.map_nil, List.append_nil]
      exact passes.congr rfl rfl
  | @grant _ rsp _ _ _ current _ _ _ =>
      let transfer :=
        system.transferOf system.dataHandler.transDataReq
      have sameEvent :
          rsp.entry.txEvent system.dataHandler.transDataReq.id
              system.dataHandler.transDataReq.data =
            transfer.event := by
        simp only [transfer, TransferSystem.transferOf, ← current]
        rfl
      refine ⟨passing ++ [transfer], ?_⟩
      exact
        { parts := by
            rw [passes.parts, List.append_assoc]
            rfl
          pending := by
            have grown :
                (passing ++ [transfer]).map Transfer.update =
                  system.pendingUpdates ++ [transfer.update] := by
              rw [List.map_append, ← passes.pending]
              rfl
            have oneTx : [transfer.event].filter Event.isTx =
                [transfer.event] :=
              rfl
            rw [grown]
            simp only [TransferSystem.pendingUpdates,
              TransferSystem.afterDataHandler,
              TransferSystem.grantMsgs_events, sameEvent,
              TxAppRspState.openEvents, List.filter_append, oneTx,
              List.map_append, List.append_assoc]
            rfl
          appWritten := passes.appWritten
          acknowledged := passes.acknowledged }

/-- The TX SAR table takes an update. -/
theorem takeUpdate (laidOut : LaidOut id first transfers)
    (passes : UpdatesPass id first acked system transfers taken passing) :
    ∃ nowTaken stillPassing,
      UpdatesPass id first acked system.appWritten transfers nowTaken
        stillPassing := by
  rw [TransferSystem.appWritten]
  split
  · exact ⟨taken, passing, passes⟩
  · rename_i req later queued
    have pending := passes.pending
    rw [TransferSystem.pendingUpdates, queued, List.cons_append] at pending
    cases passing with
    | nil =>
        cases pending
    | cons transfer stillPassing =>
        obtain ⟨isUpdate, rest⟩ := List.cons.inj pending
        have parts : transfers = taken ++ [transfer] ++ stillPassing := by
          rw [List.append_assoc]
          exact passes.parts
        have sameId : req.sessionId = transfer.event.sessionId := by
          rw [isUpdate]
          rfl
        refine
          ⟨taken ++ [transfer], stillPassing,
            { parts := parts
              pending := rest
              appWritten := ?_
              acknowledged := ?_ }⟩
        · by_cases own : transfer.event.sessionId = id
          · have ends :=
              (laidOut taken transfer ⟨stillPassing, parts.symm⟩).ends own
            dsimp only
            rw [sameId, own, Function.update_self]
            change req.appWritten = _
            rw [isUpdate, Transfer.update, ends, ownBytes_append,
              ownBytes_own own, Nat.add_assoc]
          · have here : id ≠ req.sessionId := by
              rw [sameId]
              exact Ne.symm own
            dsimp only
            rw [Function.update_of_ne here, passes.appWritten,
              ownBytes_append, ownBytes_other own, Nat.add_zero]
        · rw [ownBytes_append]
          exact Nat.le_add_right_of_le passes.acknowledged

/-- How far `app_written` is from `ackd`. -/
theorem distance_appWritten
    (passes : UpdatesPass id first acked system transfers taken passing)
    {seen ideal : Nat}
    (placed : system.Placed id ⟨seen, first + acked, ideal⟩)
    (inside : first + ownBytes id taken ≤ ideal) :
    distance (system.ringAckd id) (system.txSar id).appWritten =
      ownBytes id taken - acked := by
  have acknowledged := passes.acknowledged
  have seenFirst : seen ≤ first + acked := placed.seen_le
  have room : ideal < seen + 2 ^ 18 := placed.room
  have ackd : system.ringAckd id = BitVec.ofNat 18 (first + acked) :=
    placed.ackd
  rw [passes.appWritten, ackd, distance_ofNat (by omega) (by omega)]
  omega

/-- An acknowledgement of bytes up to `app_written`. -/
theorem acknowledge
    (passes : UpdatesPass id first acked system transfers taken passing)
    {seen ideal : Nat}
    (placed : system.Placed id ⟨seen, first + acked, ideal⟩)
    (inside : first + ownBytes id taken ≤ ideal)
    {action : TransferAction} (within : AckdWritten id system action) :
    TransferSystem.AckdForward id system action ∧
      acked + TransferSystem.ackedIn id system action ≤
        ownBytes id taken := by
  have acknowledged := passes.acknowledged
  have toWritten := passes.distance_appWritten placed inside
  have toIdeal :
      distance (system.ringAckd id) (system.ideal id) =
        ideal - (first + acked) :=
    placed.distance_ideal
  cases action with
  | ackd req =>
      refine ⟨fun own => ?_, ?_⟩
      · have notPast := within own
        rw [Between, toWritten] at notPast
        rw [Between, toIdeal]
        omega
      · rw [TransferSystem.ackedIn]
        split
        · rename_i own
          have notPast := within own
          rw [Between, toWritten] at notPast
          omega
        · exact acknowledged
  | request | payload | sttableRsp | connEvent | dataHandler
  | tableInterface | writer | status | rspHandler | appWritten =>
      exact ⟨trivial, acknowledged⟩

/-- One step of the modules, with every status okay. -/
theorem act
    (passes : UpdatesPass id first acked system transfers taken passing)
    (serves : system.Serves) (laidOut : LaidOut id first transfers)
    (okay : ∀ status ∈ system.rspHandler.writeStatus, status.okay = true)
    (action : TransferAction)
    (acknowledged :
      acked + TransferSystem.ackedIn id system action ≤
        ownBytes id taken) :
    ∃ nowTaken stillPassing,
      UpdatesPass id first (acked + TransferSystem.ackedIn id system action)
        (system.act action)
        (transfers ++
          (system.granted action).toList.map system.transferOf)
        nowTaken stillPassing := by
  have moved
      (noGrant : system.granted action = none)
      (pending :
        (system.act action).pendingUpdates = system.pendingUpdates)
      (appWritten :
        ((system.act action).txSar id).appWritten =
          (system.txSar id).appWritten) :
      UpdatesPass id first (acked + TransferSystem.ackedIn id system action)
        (system.act action)
        (transfers ++
          (system.granted action).toList.map system.transferOf)
        taken passing := by
    rw [noGrant, Option.toList_none, List.map_nil, List.append_nil]
    exact
      ⟨passes.parts, pending.trans passes.pending,
        appWritten.trans passes.appWritten, acknowledged⟩
  cases action with
  | dataHandler =>
      obtain ⟨more, next⟩ := passes.dataHandler serves
      exact ⟨taken, more, next⟩
  | appWritten =>
      obtain ⟨nowTaken, stillPassing, next⟩ := passes.takeUpdate laidOut
      rw [← List.append_nil transfers] at next
      exact ⟨nowTaken, stillPassing, next⟩
  | request | payload | sttableRsp | tableInterface =>
      exact ⟨taken, passing, moved rfl rfl rfl⟩
  | ackd req =>
      exact
        ⟨taken, passing, moved rfl rfl (appWritten_acknowledged _ req)⟩
  | connEvent event notTx =>
      refine ⟨taken, passing, moved rfl ?_ rfl⟩
      have dropped : [event].filter Event.isTx = [] := by
        rw [List.filter_cons_of_neg]
        · rfl
        · rw [Event.isTx, beq_iff_eq]
          exact notTx
      simp only [TransferSystem.pendingUpdates, TransferSystem.act,
        TxAppRspState.openEvents, List.filter_append, dropped,
        List.append_nil]
      rfl
  | rspHandler =>
      exact
        ⟨taken, passing,
          moved rfl
            (TransferSystem.pendingUpdates_rspHandler okay
              (txAppRspHandler_call system.rspHandler))
            rfl⟩
  | writer =>
      refine ⟨taken, passing, moved rfl ?_ ?_⟩
      all_goals
        simp only [TransferSystem.act, TransferSystem.writer]
        split
        · rfl
        · rfl
  | status answer =>
      refine ⟨taken, passing, moved rfl ?_ ?_⟩
      all_goals
        simp only [TransferSystem.act, TransferSystem.answered]
        split
        · rfl
        · rfl

end UpdatesPass

end TcpOffload
