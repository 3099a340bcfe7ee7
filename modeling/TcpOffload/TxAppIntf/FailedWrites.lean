import TcpOffload.Library.AnswerLog
import TcpOffload.TxAppIntf.WritePointers

/-!
# Failed writes

A transfer whose write fails is not released, but `app_written_ideal` is
already behind it: the next transfer that is released moves `app_written`
over it.
-/

namespace TcpOffload

open AnswerLog Guarded

/-! ## The transfers and their answers -/

/-- A granted transfer: what is written for it, and the length of its
request. -/
structure Transfer where
  event : Event
  cmd : MemBufferRWCmd
  length : TcpSessionBuffer
deriving DecidableEq, Repr

/-- The number of its DataMover commands. -/
def Transfer.commands (transfer : Transfer) : Nat :=
  transfer.cmd.splitCommands.length

/-- What a grant on the current pointer writes. -/
def TransferSystem.transferOf
    (system : TransferSystem) (req : AppTransDataReq) : Transfer where
  event := ⟨.tx, req.id, system.ideal req.id, req.data.setWidth 16, 0⟩
  cmd :=
    sessionCmd .tx req.id (system.ideal req.id) (req.data.setWidth 16)
  length := req.data

/-- The system with the log of the transfers granted so far. -/
structure LoggedTransfers where
  system : TransferSystem
  log : List (Entry Transfer)

namespace LoggedTransfers

/-- The DataMover answers its commands in order. -/
def record
    (logged : LoggedTransfers) : TransferAction → List (Entry Transfer)
  | .status answer =>
      if logged.system.moverCmds.isEmpty then
        logged.log
      else
        AnswerLog.record Transfer.commands answer.okay logged.log
  | action =>
      logged.log ++
        (logged.system.granted action).toList.map fun req =>
          ⟨logged.system.transferOf req, []⟩

def act
    (logged : LoggedTransfers) (action : TransferAction) :
    LoggedTransfers :=
  ⟨logged.system.act action, logged.record action⟩

end LoggedTransfers

def LoggedStep
    (logged : LoggedTransfers) (action : TransferAction)
    (next : LoggedTransfers) : Prop :=
  next = logged.act action

/-! ## What is to hold -/

/-- The bytes that a list of transfers moves the pointer of a session by. -/
def bytesOf (id : TcpSessionID) : List Transfer → TcpSessionBuffer
  | [] => 0
  | transfer :: later =>
      if transfer.event.sessionId = id then
        transfer.length + bytesOf id later
      else
        bytesOf id later

/-- From `origin` the pointer has moved over the first transfers of the
session, and each of them is written. -/
def BehindWritten
    (id : TcpSessionID) (origin : TcpSessionBuffer)
    (log : List (Entry Transfer)) (pointer : TcpSessionBuffer) : Prop :=
  ∃ passed rest,
    log = passed ++ rest ∧
    (∀ entry ∈ passed,
      entry.job.event.sessionId = id →
        entry.AllOkay Transfer.commands) ∧
    pointer = origin + bytesOf id (jobs passed)

/-- `app_written` of the session is past no byte whose write was not answered
okay. -/
def LoggedTransfers.PassesNoFailure
    (id : TcpSessionID) (origin : TcpSessionBuffer)
    (logged : LoggedTransfers) : Prop :=
  BehindWritten id origin logged.log (logged.system.txSar id).appWritten

/-- The write is split and its first half failed. -/
def FirstHalfFailed (entry : Entry Transfer) : Prop :=
  entry.job.cmd.overflows = true ∧ entry.answers.head? = some false

/-- No first half of a split write failed, and behind a transfer of the
session that is not written there is none that is. -/
structure GoodAnswers
    (id : TcpSessionID) (log : List (Entry Transfer)) : Prop where
  firstHalves : ∀ entry ∈ log, ¬ FirstHalfFailed entry
  inOrder :
    log.Pairwise fun earlier later =>
      earlier.job.event.sessionId = id →
        later.job.event.sessionId = id →
          later.AllOkay Transfer.commands →
            earlier.AllOkay Transfer.commands

/-- The answers are good after the step, and a grant of the session is for
less than `2 ^ 16` bytes. -/
def WritesFine
    (id : TcpSessionID) (logged : LoggedTransfers)
    (action : TransferAction) : Prop :=
  GoodAnswers id (logged.record action) ∧
    TransferSystem.GrantsShort id logged.system action

/-! ## Matching the queues with the log -/

/-- The flags of the writes that `TxAppRspHandler` has not taken. -/
def TransferSystem.flagsAhead (system : TransferSystem) : List Bool :=
  system.rspHandler.doubleAccessFlag ++
    system.writeCmds.map MemBufferRWCmd.overflows

def TransferSystem.okaysAhead (system : TransferSystem) : List Bool :=
  system.rspHandler.writeStatus.map DataMoverStatus.okay

def overflowsOf (log : List (Entry Transfer)) : List Bool :=
  log.map fun entry => entry.job.cmd.overflows

/-- What the flags and statuses are for: with the first half of a split write
taken, its okay status is no longer in the queue. -/
inductive TakesInStep
    (system : TransferSystem) (opened : List (Entry Transfer)) : Prop
  | whole :
      system.rspHandler.fsmStatus ≠ .readStatus2 →
      system.flagsAhead = overflowsOf opened →
      system.okaysAhead = answers opened →
      TakesInStep system opened
  | half {entry : Entry Transfer} {later : List (Entry Transfer)} :
      system.rspHandler.fsmStatus = .readStatus2 →
      opened = entry :: later →
      entry.job.cmd.overflows = true →
      system.flagsAhead = overflowsOf later →
      true :: system.okaysAhead = answers opened →
      TakesInStep system opened

/-- The log is the transfers that `TxAppRspHandler` is done with, all of them
answered, and those still open. -/
structure InStep
    (logged : LoggedTransfers)
    (closed opened : List (Entry Transfer)) : Prop where
  serves : logged.system.Serves
  parts : logged.log = closed ++ opened
  closedFull : ∀ entry ∈ closed, entry.Full Transfer.commands
  filling : Filling Transfer.commands opened
  events :
    logged.system.rspHandler.openEvents =
      (jobs opened).map Transfer.event
  commands :
    logged.system.moverCmds.length +
        (logged.system.writeCmds.map fun cmd =>
          cmd.splitCommands.length).sum +
        (answers opened).length =
      total Transfer.commands (jobs opened)
  takes : TakesInStep logged.system opened

theorem Transfer.commands_eq (transfer : Transfer) :
    transfer.commands = if transfer.cmd.overflows then 2 else 1 := by
  rw [commands, MemBufferRWCmd.splitCommands]
  split <;> rfl

theorem Transfer.commands_pos (transfer : Transfer) :
    0 < transfer.commands := by
  rw [commands_eq]
  split <;> decide

/-- The flag and the status that are read next are those of the first open
transfer. -/
theorem TakesInStep.first
    {system : TransferSystem} {opened : List (Entry Transfer)}
    (takes : TakesInStep system opened)
    (waits : system.rspHandler.fsmStatus = .readStatus1)
    {flag : Bool} {laterFlags : List Bool}
    (flags : system.rspHandler.doubleAccessFlag = flag :: laterFlags)
    {status : DataMoverStatus} {later : List DataMoverStatus}
    (statuses : system.rspHandler.writeStatus = status :: later) :
    ∃ entry rest,
      opened = entry :: rest ∧
      entry.job.cmd.overflows = flag ∧
      laterFlags ++ system.writeCmds.map MemBufferRWCmd.overflows =
        overflowsOf rest ∧
      answers opened =
        status.okay :: later.map DataMoverStatus.okay := by
  cases takes with
  | half isHalf _ _ _ _ =>
      rw [waits] at isHalf
      cases isHalf
  | whole _ sameFlags sameOkays =>
      rw [TransferSystem.flagsAhead, flags, List.cons_append] at sameFlags
      rw [TransferSystem.okaysAhead, statuses, List.map_cons] at sameOkays
      cases opened with
      | nil =>
          cases sameFlags
      | cons entry rest =>
          obtain ⟨sameFlag, flagsRest⟩ := List.cons.inj sameFlags
          exact
            ⟨entry, rest, rfl, sameFlag.symm, flagsRest, sameOkays.symm⟩

namespace InStep

variable {logged next : LoggedTransfers}
variable {closed opened : List (Entry Transfer)}

/-- A step that leaves the writes and their answers alone. -/
theorem congr
    (inStep : InStep logged closed opened)
    (serves : next.system.Serves) (log : next.log = logged.log)
    (rspHandler :
      next.system.rspHandler = logged.system.rspHandler)
    (moverCmds : next.system.moverCmds = logged.system.moverCmds)
    (writeCmds : next.system.writeCmds = logged.system.writeCmds) :
    InStep next closed opened where
  serves := serves
  parts := log.trans inStep.parts
  closedFull := inStep.closedFull
  filling := inStep.filling
  events := by
    rw [rspHandler]
    exact inStep.events
  commands := by
    rw [moverCmds, writeCmds]
    exact inStep.commands
  takes := by
    have flags :
        next.system.flagsAhead = logged.system.flagsAhead := by
      rw [TransferSystem.flagsAhead, rspHandler, writeCmds]
      rfl
    have okays :
        next.system.okaysAhead = logged.system.okaysAhead := by
      rw [TransferSystem.okaysAhead, rspHandler]
      rfl
    cases inStep.takes with
    | whole notHalf sameFlags sameOkays =>
        exact
          TakesInStep.whole (rspHandler ▸ notHalf)
            (flags.trans sameFlags) (okays.trans sameOkays)
    | half isHalf parts isSplit sameFlags sameOkays =>
        exact
          TakesInStep.half (rspHandler ▸ isHalf) parts isSplit
            (flags.trans sameFlags)
            ((congrArg (true :: ·) okays).trans sameOkays)

/-- `WriteDataToMem` passes a command on. -/
theorem writer (inStep : InStep logged closed opened) :
    InStep (logged.act .writer) closed opened := by
  have serves := inStep.serves.step .writer
  have sameLog : logged.record .writer = logged.log :=
    List.append_nil _
  change (logged.system.writer).Serves at serves
  change InStep ⟨logged.system.writer, logged.record .writer⟩ closed opened
  rw [sameLog]
  rw [TransferSystem.writer] at serves ⊢
  split at serves
  · exact inStep.congr inStep.serves rfl rfl rfl rfl
  · rename_i cmd later queued
    have flags :
        (logged.system.rspHandler.doubleAccessFlag ++ [cmd.overflows]) ++
            later.map MemBufferRWCmd.overflows =
          logged.system.flagsAhead := by
      rw [TransferSystem.flagsAhead, queued, List.append_assoc]
      rfl
    exact
      { inStep with
        serves := serves
        commands := by
          have commands := inStep.commands
          rw [queued, List.map_cons, List.sum_cons] at commands
          rw [← commands]
          simp only [List.length_append]
          omega
        takes := by
          cases inStep.takes with
          | whole notHalf sameFlags sameOkays =>
              exact
                TakesInStep.whole notHalf (flags.trans sameFlags) sameOkays
          | half isHalf parts isSplit sameFlags sameOkays =>
              exact
                TakesInStep.half isHalf parts isSplit
                  (flags.trans sameFlags) sameOkays }

theorem overflowsOf_record (okay : Bool) (log : List (Entry Transfer)) :
    overflowsOf (AnswerLog.record Transfer.commands okay log) =
      overflowsOf log := by
  have sameJobs := @jobs_record _ Transfer.commands okay log
  have overflows (log : List (Entry Transfer)) :
      overflowsOf log =
        (jobs log).map fun transfer => transfer.cmd.overflows := by
    rw [overflowsOf, jobs, List.map_map]
    rfl
  rw [overflows, sameJobs, ← overflows]

/-- The DataMover answers the next command. -/
theorem status
    (inStep : InStep logged closed opened) (answer : DataMoverStatus)
    {first : DataMoverCmd} {later : List DataMoverCmd}
    (queued : logged.system.moverCmds = first :: later) :
    logged.record (.status answer) =
        AnswerLog.record Transfer.commands answer.okay logged.log ∧
      InStep (logged.act (.status answer)) closed
        (AnswerLog.record Transfer.commands answer.okay opened) := by
  have serves := inStep.serves.step (.status answer)
  have recorded :
      logged.record (.status answer) =
        AnswerLog.record Transfer.commands answer.okay logged.log := by
    rw [LoggedTransfers.record, queued]
    rfl
  refine ⟨recorded, ?_⟩
  change
    InStep
      ⟨logged.system.answered answer, logged.record (.status answer)⟩
      closed _
  change (logged.system.answered answer).Serves at serves
  rw [recorded]
  rw [TransferSystem.answered, queued] at serves ⊢
  have missing :
      (answers opened).length <
        total Transfer.commands (jobs opened) := by
    have commands := inStep.commands
    rw [queued, List.length_cons] at commands
    omega
  have answered := inStep.filling.answers_record answer.okay missing
  exact
    { serves := serves
      parts := by
        rw [inStep.parts]
        exact
          record_append_of_full inStep.closedFull answer.okay opened
      closedFull := inStep.closedFull
      filling := inStep.filling.record answer.okay
      events := by
        rw [jobs_record]
        exact inStep.events
      commands := by
        have commands := inStep.commands
        rw [queued, List.length_cons] at commands
        rw [jobs_record, answered, List.length_append,
          List.length_singleton]
        dsimp only
        omega
      takes := by
        have okays :
            (logged.system.rspHandler.writeStatus ++ [answer]).map
                DataMoverStatus.okay =
              logged.system.okaysAhead ++ [answer.okay] :=
          List.map_append
        cases inStep.takes with
        | whole notHalf sameFlags sameOkays =>
            refine
              TakesInStep.whole notHalf
                (sameFlags.trans (overflowsOf_record _ _).symm) ?_
            rw [answered, ← sameOkays]
            exact okays
        | @half entry after isHalf parts isSplit sameFlags sameOkays =>
            subst parts
            have goOn :
                true ::
                    (logged.system.rspHandler.writeStatus ++
                      [answer]).map DataMoverStatus.okay =
                  answers
                    (AnswerLog.record Transfer.commands answer.okay
                      (entry :: after)) := by
              rw [answered, ← sameOkays, okays]
              rfl
            rw [AnswerLog.record] at goOn ⊢
            split at goOn
            · rename_i lacks
              rw [if_pos lacks]
              exact
                TakesInStep.half isHalf rfl isSplit sameFlags goOn
            · rename_i noLack
              rw [if_neg noLack]
              exact
                TakesInStep.half isHalf rfl isSplit
                  (sameFlags.trans (overflowsOf_record _ _).symm)
                  goOn }

/-- A granted transfer is the last open one. -/
theorem dataHandler (inStep : InStep logged closed opened) :
    InStep (logged.act .dataHandler) closed
      (opened ++
        (logged.system.granted .dataHandler).toList.map fun req =>
          ⟨logged.system.transferOf req, []⟩) := by
  have serves := inStep.serves.step .dataHandler
  have step := inStep.serves.dataHandlerStep
  change
    InStep
      ⟨logged.system.act .dataHandler,
        logged.log ++
          (logged.system.granted .dataHandler).toList.map fun req =>
            ⟨logged.system.transferOf req, []⟩⟩
      closed _
  generalize logged.system.granted .dataHandler = granted,
    logged.system.act .dataHandler = after at step serves ⊢
  cases step with
  | quiet _ _ =>
      rw [Option.toList_none, List.map_nil, List.append_nil,
        List.append_nil]
      exact inStep.congr serves rfl rfl rfl rfl
  | @grant _ rsp _ _ _ current _ _ _ =>
      let transfer :=
        logged.system.transferOf logged.system.dataHandler.transDataReq
      have msgs :
          logged.system.dataHandler.transDataReq.grantMsgs rsp.entry =
            [.moverWriteCmd transfer.cmd, .setEvent transfer.event,
              .tableReq
                (TxAppToTxAppTableReq.update
                  logged.system.dataHandler.transDataReq.id
                  (rsp.entry.appWrittenIdeal +
                    logged.system.dataHandler.transDataReq.data)),
              .transDataRsp
                (logged.system.dataHandler.transDataReq.rsp .noError
                  rsp.entry.maxWriteLength)] := by
        simp only [transfer, TransferSystem.transferOf, ← current]
        rfl
      rw [msgs] at serves ⊢
      have opensOne :
          jobs (opened ++ [⟨transfer, []⟩]) =
            jobs opened ++ [transfer] :=
        List.map_append
      have noAnswer :
          answers (opened ++ [⟨transfer, []⟩]) = answers opened := by
        simp only [answers, List.flatMap_append, List.flatMap_singleton,
          List.append_nil]
      have flags :
          logged.system.rspHandler.doubleAccessFlag ++
              (logged.system.writeCmds ++ [transfer.cmd]).map
                MemBufferRWCmd.overflows =
            logged.system.flagsAhead ++ [transfer.cmd.overflows] := by
        rw [List.map_append, ← List.append_assoc]
        rfl
      have overflowsOne (log : List (Entry Transfer)) :
          overflowsOf (log ++ [⟨transfer, []⟩]) =
            overflowsOf log ++ [transfer.cmd.overflows] :=
        List.map_append
      exact
        { serves := serves
          parts := by
            change _ ++ [_] = _ ++ (_ ++ [_])
            rw [inStep.parts, List.append_assoc]
          closedFull := inStep.closedFull
          filling := inStep.filling.push transfer
          events := by
            change _ = (jobs (opened ++ [⟨transfer, []⟩])).map _
            rw [opensOne, List.map_append, ← inStep.events]
            change
              _ ++ (logged.system.rspHandler.eventCache ++
                  [transfer.event]).filter Event.isTx =
                _
            rw [List.filter_append, ← List.append_assoc]
            rfl
          commands := by
            change
              _ + ((logged.system.writeCmds ++ [transfer.cmd]).map _).sum +
                  (answers (opened ++ [⟨transfer, []⟩])).length =
                total _ (jobs (opened ++ [⟨transfer, []⟩]))
            have commands := inStep.commands
            rw [total] at commands
            rw [opensOne, noAnswer, total, List.map_append,
              List.map_append, List.sum_append, List.sum_append,
              ← commands]
            simp only [List.map_cons, List.map_nil, List.sum_cons,
              List.sum_nil]
            rw [Transfer.commands]
            dsimp only [TransferSystem.afterDataHandler]
            omega
          takes := by
            cases inStep.takes with
            | whole notHalf sameFlags sameOkays =>
                exact
                  TakesInStep.whole notHalf
                    (flags.trans
                      ((congrArg (· ++ [_]) sameFlags).trans
                        (overflowsOne opened).symm))
                    (sameOkays.trans noAnswer.symm)
            | @half _ later isHalf parts isSplit sameFlags sameOkays =>
                exact
                  TakesInStep.half isHalf (congrArg (· ++ [_]) parts)
                    isSplit
                    (flags.trans
                      ((congrArg (· ++ [_]) sameFlags).trans
                        (overflowsOne later).symm))
                    (sameOkays.trans noAnswer.symm) }

/-- An event that moves no data is not logged. -/
theorem connEvent
    (inStep : InStep logged closed opened) (event : Event)
    (notTx : event.type ≠ .tx) :
    InStep (logged.act (.connEvent event notTx)) closed opened where
  serves := inStep.serves.step (.connEvent event notTx)
  parts := (List.append_nil _).trans inStep.parts
  closedFull := inStep.closedFull
  filling := inStep.filling
  events := by
    have dropped : event.isTx = false := by
      rw [Event.isTx, beq_eq_false_iff_ne]
      exact notTx
    have kept :
        (logged.system.rspHandler.eventCache ++ [event]).filter
            Event.isTx =
          logged.system.rspHandler.eventCache.filter Event.isTx := by
      rw [List.filter_append, List.filter_cons_of_neg (by simp [dropped])]
      exact List.append_nil _
    exact (congrArg (_ ++ ·) kept).trans inStep.events
  commands := inStep.commands
  takes := by
    cases inStep.takes with
    | whole notHalf sameFlags sameOkays =>
        exact TakesInStep.whole notHalf sameFlags sameOkays
    | half isHalf parts isSplit sameFlags sameOkays =>
        exact TakesInStep.half isHalf parts isSplit sameFlags sameOkays

/-- The handler is done with the first open transfer. -/
theorem close
    (inStep : InStep logged closed opened)
    {entry : Entry Transfer} {later : List (Entry Transfer)}
    (parts : opened = entry :: later)
    (isFull : entry.Full Transfer.commands)
    {after : TransferSystem} (serves : after.Serves)
    (moverCmds : after.moverCmds = logged.system.moverCmds)
    (writeCmds : after.writeCmds = logged.system.writeCmds)
    (waits : logged.system.rspHandler.fsmStatus ≠ .readEv)
    (ready : after.rspHandler.fsmStatus = .readEv)
    (sameCache :
      after.rspHandler.eventCache = logged.system.rspHandler.eventCache)
    (flags : after.flagsAhead = overflowsOf later)
    (okays : after.okaysAhead = answers later) :
    logged.system.rspHandler.curEvent = entry.job.event ∧
      InStep ⟨after, logged.log⟩ (closed ++ [entry]) later := by
  subst parts
  have events := inStep.events
  rw [TxAppRspState.openEvents, TransferSystem.heldEvents_waiting waits,
    jobs, List.map_cons, List.map_cons, List.singleton_append] at events
  obtain ⟨current, rest⟩ := List.cons.inj events
  refine ⟨current, ?_⟩
  exact
    { serves := serves
      parts := by
        rw [List.append_assoc]
        exact inStep.parts
      closedFull :=
        List.forall_mem_append.2
          ⟨inStep.closedFull, List.forall_mem_singleton.2 isFull⟩
      filling := inStep.filling.tail
      events := by
        rw [TxAppRspState.openEvents,
          TransferSystem.heldEvents_readEv ready, sameCache]
        exact rest
      commands := by
        have commands := inStep.commands
        rw [Entry.Full] at isFull
        simp only [answers, total, jobs, List.flatMap_cons,
          List.map_cons, List.sum_cons, List.length_append] at commands ⊢
        rw [moverCmds, writeCmds]
        omega
      takes := TakesInStep.whole (by rw [ready]; decide) flags okays }

/-- The handler reads an event, but no status. -/
theorem reads
    (inStep : InStep logged closed opened) {after : TransferSystem}
    (serves : after.Serves)
    (events :
      after.rspHandler.openEvents = logged.system.rspHandler.openEvents)
    (ready : logged.system.rspHandler.fsmStatus = .readEv)
    (notHalf : after.rspHandler.fsmStatus ≠ .readStatus2)
    (flags : after.flagsAhead = logged.system.flagsAhead)
    (okays : after.okaysAhead = logged.system.okaysAhead)
    (moverCmds : after.moverCmds = logged.system.moverCmds)
    (writeCmds : after.writeCmds = logged.system.writeCmds) :
    InStep ⟨after, logged.log⟩ closed opened where
  serves := serves
  parts := inStep.parts
  closedFull := inStep.closedFull
  filling := inStep.filling
  events := events.trans inStep.events
  commands := by
    rw [moverCmds, writeCmds]
    exact inStep.commands
  takes := by
    cases inStep.takes with
    | whole _ sameFlags sameOkays =>
        exact
          TakesInStep.whole notHalf (flags.trans sameFlags)
            (okays.trans sameOkays)
    | half isHalf _ _ _ _ =>
        rw [ready] at isHalf
        cases isHalf

/-- A call of `TxAppRspHandler` moves at most one transfer to the closed
ones.  With an update it was one whose answers are all okay. -/
theorem rspHandler
    (inStep : InStep logged closed opened)
    (firstHalves : ∀ entry ∈ opened, ¬ FirstHalfFailed entry) :
    ∃ nowClosed stillOpened,
      InStep (logged.act .rspHandler) nowClosed stillOpened ∧
      ((logged.act .rspHandler).system.txSarUpdates =
          logged.system.txSarUpdates ∨
        ∃ entry,
          nowClosed = closed ++ [entry] ∧
          entry.AllOkay Transfer.commands ∧
          (logged.act .rspHandler).system.txSarUpdates =
            logged.system.txSarUpdates ++
              [TxAppToTxSarReq.ofEvent entry.job.event]) := by
  have serves := inStep.serves.step .rspHandler
  have call := txAppRspHandler_call logged.system.rspHandler
  have sameLog : logged.record .rspHandler = logged.log :=
    List.append_nil _
  change
    ∃ nowClosed stillOpened,
      InStep
          ⟨logged.system.afterRspHandler _ _, logged.record .rspHandler⟩
          nowClosed stillOpened ∧
        (logged.system.txSarUpdates ++ _ = _ ∨
          ∃ entry,
            _ ∧ _ ∧ logged.system.txSarUpdates ++ _ = _)
  rw [sameLog]
  simp only [TransferSystem.act] at serves
  generalize (txAppRspHandler logged.system.rspHandler).1 = next,
    (txAppRspHandler logged.system.rspHandler).2 = msgs at call serves ⊢
  cases call with
  | idle =>
      exact
        ⟨closed, opened, inStep.congr serves rfl rfl rfl rfl,
          Or.inl (List.append_nil _)⟩
  | @pass event later ready cache notTx =>
      have dropped : event.isTx = false := by
        rw [Event.isTx, beq_eq_false_iff_ne]
        exact notTx
      refine
        ⟨closed, opened, inStep.reads serves ?_ ready ?_ rfl rfl rfl rfl,
          Or.inl (List.append_nil _)⟩
      · simp only [TransferSystem.afterRspHandler,
          TxAppRspState.openEvents, TxAppRspState.heldEvents, ready, cache]
        rw [List.filter_cons_of_neg (by simp [dropped])]
      · simp only [TransferSystem.afterRspHandler, ready]
        rintro ⟨⟩
  | @hold event later ready cache isTx =>
      have kept : event.isTx = true := by
        rw [Event.isTx, beq_iff_eq]
        exact isTx
      refine
        ⟨closed, opened,
          inStep.reads serves ?_ ready (by rintro ⟨⟩) rfl rfl rfl rfl,
          Or.inl (List.append_nil _)⟩
      simp only [TransferSystem.afterRspHandler,
        TxAppRspState.openEvents, TxAppRspState.heldEvents, ready, cache]
      rw [List.filter_cons_of_pos kept]
      rfl
  | @whole status laterFlags later waits flags statuses =>
      obtain ⟨entry, rest, parts, notSplit, flagsRest, okaysAre⟩ :=
        inStep.takes.first waits flags statuses
      subst parts
      have one : entry.job.commands = 1 := by
        rw [Transfer.commands_eq, notSplit]
        rfl
      have isFull : entry.Full Transfer.commands := by
        refine inStep.filling.head_full_of_length ?_
        rw [one, okaysAre, List.length_cons]
        omega
      obtain ⟨answer, answered⟩ :=
        List.length_eq_one_iff.1 (isFull.trans one)
      rw [answers, List.flatMap_cons, answered, List.singleton_append]
        at okaysAre
      obtain ⟨rfl, okaysRest⟩ := List.cons.inj okaysAre
      obtain ⟨current, closes⟩ :=
        inStep.close rfl isFull serves rfl rfl (by rw [waits]; decide)
          rfl rfl flagsRest okaysRest.symm
      refine ⟨closed ++ [entry], rest, closes, ?_⟩
      cases okay : status.okay with
      | false =>
          exact Or.inl (List.append_nil _)
      | true =>
          refine Or.inr ⟨entry, rfl, ?_, ?_⟩
          · rw [Entry.AllOkay, one, answered, okay]
            rfl
          · rw [← current]
            rfl
  | @first status laterFlags later waits flags statuses =>
      obtain ⟨entry, rest, parts, isSplit, flagsRest, okaysAre⟩ :=
        inStep.takes.first waits flags statuses
      subst parts
      have isOkay : status.okay = true := by
        cases answersAre : entry.answers with
        | nil =>
            have isFull : entry.Full Transfer.commands := by
              refine inStep.filling.head_full ?_
              rw [answers, List.flatMap_cons, answersAre,
                List.nil_append] at okaysAre
              rw [answers, okaysAre]
              exact List.cons_ne_nil _ _
            have some := Transfer.commands_pos entry.job
            rw [Entry.Full, answersAre] at isFull
            exact absurd isFull (Nat.ne_of_lt some)
        | cons answer more =>
            rw [answers, List.flatMap_cons, answersAre,
              List.cons_append] at okaysAre
            obtain ⟨rfl, _⟩ := List.cons.inj okaysAre
            by_contra notOkay
            refine firstHalves entry List.mem_cons_self ⟨isSplit, ?_⟩
            rw [answersAre, Bool.eq_false_iff.2 notOkay]
            rfl
      rw [if_pos isOkay] at serves ⊢
      rw [isOkay] at okaysAre
      refine
        ⟨closed, entry :: rest,
          { inStep with
            serves := serves
            events := ?_
            takes :=
              TakesInStep.half rfl rfl isSplit flagsRest okaysAre.symm },
          Or.inl (List.append_nil _)⟩
      have events := inStep.events
      rw [TxAppRspState.openEvents,
        TransferSystem.heldEvents_waiting (by rw [waits]; decide)] at events
      exact events
  | @second status later waits statuses =>
      cases inStep.takes with
      | whole notHalf _ _ =>
          exact absurd waits notHalf
      | @half entry rest _ parts isSplit flagsRest okaysAre =>
          subst parts
          rw [TransferSystem.okaysAhead, statuses, List.map_cons]
            at okaysAre
          have two : entry.job.commands = 2 := by
            rw [Transfer.commands_eq, isSplit]
            rfl
          have isFull : entry.Full Transfer.commands := by
            refine inStep.filling.head_full_of_length ?_
            rw [two, ← okaysAre, List.length_cons, List.length_cons]
            omega
          obtain ⟨first, answer, answered⟩ :=
            List.length_eq_two.1 (isFull.trans two)
          rw [answers, List.flatMap_cons, answered, List.cons_append,
            List.singleton_append] at okaysAre
          obtain ⟨rfl, behind⟩ := List.cons.inj okaysAre
          obtain ⟨rfl, okaysRest⟩ := List.cons.inj behind
          obtain ⟨current, closes⟩ :=
            inStep.close rfl isFull serves rfl rfl (by rw [waits]; decide)
              rfl rfl flagsRest okaysRest
          refine ⟨closed ++ [entry], rest, closes, ?_⟩
          cases okay : status.okay with
          | false =>
              exact Or.inl (List.append_nil _)
          | true =>
              refine Or.inr ⟨entry, rfl, ?_, ?_⟩
              · rw [Entry.AllOkay, two, answered, okay]
                rfl
              · rw [← current]
                rfl

end InStep

/-! ## The pointers of a session -/

section Pointers

variable {id : TcpSessionID} {origin : TcpSessionBuffer}

theorem bytesOf_append (first second : List Transfer) :
    bytesOf id (first ++ second) = bytesOf id first + bytesOf id second := by
  induction first with
  | nil =>
      exact (BitVec.zero_add _).symm
  | cons transfer first inductionHypothesis =>
      rw [List.cons_append, bytesOf, bytesOf, inductionHypothesis]
      split
      · exact (BitVec.add_assoc _ _ _).symm
      · rfl

theorem bytesOf_other
    {transfer : Transfer} (other : transfer.event.sessionId ≠ id) :
    bytesOf id [transfer] = 0 :=
  if_neg other

theorem bytesOf_own
    {transfer : Transfer} (own : transfer.event.sessionId = id) :
    bytesOf id [transfer] = transfer.length :=
  (if_pos own).trans (BitVec.add_zero _)

variable {log : List (Entry Transfer)} {pointer : TcpSessionBuffer}

theorem BehindWritten.push
    (behind : BehindWritten id origin log pointer)
    (more : List (Entry Transfer)) :
    BehindWritten id origin (log ++ more) pointer := by
  obtain ⟨passed, rest, rfl, allOkay, stands⟩ := behind
  exact
    ⟨passed, rest ++ more, List.append_assoc _ _ _, allOkay, stands⟩

theorem BehindWritten.record
    (behind : BehindWritten id origin log pointer) (okay : Bool) :
    BehindWritten id origin
      (AnswerLog.record Transfer.commands okay log) pointer := by
  obtain ⟨passed, rest, rfl, allOkay, stands⟩ := behind
  obtain ⟨stillPassed, stillRest, parts, sameJobs, stillOkay⟩ :=
    @record_keepsOkay _ Transfer.commands passed rest
      (fun transfer => transfer.event.sessionId = id) allOkay okay
  refine ⟨stillPassed, stillRest, parts, stillOkay, ?_⟩
  rw [sameJobs]
  exact stands

/-- Without a failure among the transfers before it, an okay transfer ends
behind written ones. -/
theorem behindWritten_of_okay
    {closed later : List (Entry Transfer)} {entry : Entry Transfer}
    (good : GoodAnswers id (closed ++ entry :: later))
    (own : entry.job.event.sessionId = id)
    (allOkay : entry.AllOkay Transfer.commands) :
    BehindWritten id origin (closed ++ entry :: later)
      (origin + bytesOf id (jobs (closed ++ [entry]))) := by
  refine
    ⟨closed ++ [entry], later, List.append_cons _ _ _,
      List.forall_mem_append.2
        ⟨fun earlier member ownEarlier => ?_,
          List.forall_mem_singleton.2 fun _ => allOkay⟩,
      rfl⟩
  have inOrder := good.inOrder
  rw [List.pairwise_append] at inOrder
  exact
    inOrder.2.2 earlier member entry List.mem_cons_self ownEarlier own
      allOkay

/-- The pointers of the session, as far as the log tells. -/
structure PointersBehind
    (id : TcpSessionID) (origin : TcpSessionBuffer)
    (logged : LoggedTransfers) : Prop where
  ideal :
    logged.system.ideal id = origin + bytesOf id (jobs logged.log)
  ends :
    ∀ before transfer,
      before ++ [transfer] <+: jobs logged.log →
        transfer.event.sessionId = id →
          TxAppToTxSarReq.ofEvent transfer.event =
            ⟨id, origin + bytesOf id (before ++ [transfer])⟩
  updates :
    ∀ req ∈ logged.system.txSarUpdates,
      req.sessionId = id →
        BehindWritten id origin logged.log req.appWritten
  written : logged.PassesNoFailure id origin

structure FailureInvariant
    (id : TcpSessionID) (origin : TcpSessionBuffer)
    (logged : LoggedTransfers) : Prop where
  inStep : ∃ closed opened, InStep logged closed opened
  good : GoodAnswers id logged.log
  pointers : PointersBehind id origin logged

variable {logged : LoggedTransfers}

/-- A grant puts a transfer behind the others. -/
theorem PointersBehind.push
    (pointers : PointersBehind id origin logged)
    {after : TransferSystem} {req : AppTransDataReq}
    (short : req.id = id → req.data.toNat < 2 ^ 16)
    (ideal :
      after.ideal =
        Function.update logged.system.ideal req.id
          (logged.system.ideal req.id + req.data))
    (updates : after.txSarUpdates = logged.system.txSarUpdates)
    (txSar : after.txSar = logged.system.txSar) :
    PointersBehind id origin
      ⟨after, logged.log ++ [⟨logged.system.transferOf req, []⟩]⟩ := by
  have grown :
      jobs (logged.log ++ [⟨logged.system.transferOf req, []⟩]) =
        jobs logged.log ++ [logged.system.transferOf req] :=
    List.map_append
  have moved :
      after.ideal id =
        origin +
          bytesOf id
            (jobs logged.log ++ [logged.system.transferOf req]) := by
    rw [ideal, bytesOf_append, ← BitVec.add_assoc, ← pointers.ideal]
    by_cases own : req.id = id
    · rw [bytesOf_own own, own, Function.update_self]
      rfl
    · rw [bytesOf_other own, Function.update_of_ne (Ne.symm own)]
      exact (BitVec.add_zero _).symm
  exact
    { ideal := moved.trans (by rw [grown])
      ends := by
        intro before transfer isPrefix own
        rw [grown, List.prefix_concat_iff] at isPrefix
        rcases isPrefix with whole | earlier
        · obtain ⟨rfl, last⟩ := List.append_inj' whole rfl
          obtain rfl := List.singleton_inj.1 last
          have ownReq : req.id = id := own
          rw [← moved, ideal, ← ownReq, Function.update_self]
          exact
            TransferSystem.ofEvent_txEvent
              ⟨0, logged.system.ideal req.id⟩ req.id (short ownReq)
        · exact pointers.ends before transfer earlier own
      updates := by
        intro req member own
        rw [updates] at member
        exact (pointers.updates req member own).push _
      written := by
        rw [LoggedTransfers.PassesNoFailure, txSar]
        exact BehindWritten.push pointers.written _ }

/-- A step that leaves the pointers and their updates alone. -/
theorem PointersBehind.congr
    (pointers : PointersBehind id origin logged)
    {after : TransferSystem}
    (ideal : after.ideal id = logged.system.ideal id)
    (updates :
      ∀ req ∈ after.txSarUpdates, req ∈ logged.system.txSarUpdates)
    (txSar :
      (after.txSar id).appWritten = (logged.system.txSar id).appWritten) :
    PointersBehind id origin ⟨after, logged.log⟩ where
  ideal := ideal.trans pointers.ideal
  ends := pointers.ends
  updates := fun req member => pointers.updates req (updates req member)
  written := by
    rw [LoggedTransfers.PassesNoFailure, txSar]
    exact pointers.written

/-- An answer is put down in the log. -/
theorem PointersBehind.record
    (pointers : PointersBehind id origin logged) (okay : Bool) :
    PointersBehind id origin
      ⟨logged.system,
        AnswerLog.record Transfer.commands okay logged.log⟩ where
  ideal := by
    rw [jobs_record]
    exact pointers.ideal
  ends := by
    intro before transfer isPrefix own
    rw [jobs_record] at isPrefix
    exact pointers.ends before transfer isPrefix own
  updates := fun req member own =>
    (pointers.updates req member own).record okay
  written := BehindWritten.record pointers.written okay

/-- The TX SAR table takes an update. -/
theorem PointersBehind.appWritten
    (pointers : PointersBehind id origin logged) :
    PointersBehind id origin ⟨logged.system.appWritten, logged.log⟩ := by
  rw [TransferSystem.appWritten]
  split
  · exact pointers
  · rename_i req later queued
    exact
      { ideal := pointers.ideal
        ends := pointers.ends
        updates := fun other member =>
          pointers.updates other
            (queued ▸ List.mem_cons_of_mem req member)
        written := by
          rw [LoggedTransfers.PassesNoFailure]
          by_cases own : req.sessionId = id
          · subst own
            dsimp only
            rw [Function.update_self]
            exact
              pointers.updates req (queued ▸ List.mem_cons_self) rfl
          · dsimp only
            rw [Function.update_of_ne (Ne.symm own)]
            exact pointers.written }

/-- `TxAppRspHandler` releases a transfer. -/
theorem PointersBehind.release
    (pointers : PointersBehind id origin logged)
    (good : GoodAnswers id logged.log) {after : TransferSystem}
    {closed later : List (Entry Transfer)} {entry : Entry Transfer}
    (parts : logged.log = closed ++ entry :: later)
    (allOkay : entry.AllOkay Transfer.commands)
    (ideal : after.ideal = logged.system.ideal)
    (updates :
      after.txSarUpdates =
        logged.system.txSarUpdates ++
          [TxAppToTxSarReq.ofEvent entry.job.event])
    (txSar : after.txSar = logged.system.txSar) :
    PointersBehind id origin ⟨after, logged.log⟩ where
  ideal := by
    dsimp only
    rw [ideal]
    exact pointers.ideal
  ends := pointers.ends
  updates := by
    dsimp only
    rw [updates]
    refine
      List.forall_mem_append.2
        ⟨pointers.updates, List.forall_mem_singleton.2 fun own => ?_⟩
    have isPrefix :
        jobs closed ++ [entry.job] <+: jobs logged.log := by
      refine ⟨jobs later, ?_⟩
      simp only [parts, jobs, List.map_append, List.map_cons,
        List.append_assoc, List.singleton_append]
    have ends := pointers.ends (jobs closed) entry.job isPrefix own
    have together :
        jobs (closed ++ [entry]) = jobs closed ++ [entry.job] :=
      List.map_append
    rw [ends, ← together, parts]
    rw [parts] at good
    exact behindWritten_of_okay good own allOkay
  written := by
    rw [LoggedTransfers.PassesNoFailure, txSar]
    exact pointers.written

theorem appWritten_acknowledged
    (system : TransferSystem) (req : RxEngToTxSarReq) :
    ((system.acknowledged req).txSar id).appWritten =
      (system.txSar id).appWritten := by
  simp only [TransferSystem.acknowledged]
  by_cases own : id = req.sessionId
  · subst own
    rw [Function.update_self]
    rfl
  · rw [Function.update_of_ne own]

/-- A step that is fine keeps the queues in step with the log and every
pointer of the session behind written transfers. -/
theorem FailureInvariant.step
    (invariant : FailureInvariant id origin logged)
    {action : TransferAction} (fine : WritesFine id logged action) :
    FailureInvariant id origin (logged.act action) := by
  obtain ⟨⟨closed, opened, inStep⟩, good, pointers⟩ := invariant
  have serves := inStep.serves.step action
  have idealAct := inStep.serves.ideal_act action
  have unlogged
      (sameLog : logged.record action = logged.log)
      (nextInStep : InStep (logged.act action) closed opened)
      (nextPointers :
        PointersBehind id origin ⟨logged.system.act action, logged.log⟩) :
      FailureInvariant id origin (logged.act action) := by
    rw [LoggedTransfers.act, sameLog] at nextInStep ⊢
    exact ⟨⟨closed, opened, nextInStep⟩, good, nextPointers⟩
  cases action with
  | request req =>
      exact
        unlogged (List.append_nil _)
          (inStep.congr serves (List.append_nil _) rfl rfl rfl)
          (pointers.congr rfl (fun _ member => member) rfl)
  | payload word =>
      exact
        unlogged (List.append_nil _)
          (inStep.congr serves (List.append_nil _) rfl rfl rfl)
          (pointers.congr rfl (fun _ member => member) rfl)
  | sttableRsp state =>
      exact
        unlogged (List.append_nil _)
          (inStep.congr serves (List.append_nil _) rfl rfl rfl)
          (pointers.congr rfl (fun _ member => member) rfl)
  | tableInterface =>
      exact
        unlogged (List.append_nil _)
          (inStep.congr serves (List.append_nil _) rfl rfl rfl)
          (pointers.congr (congrFun idealAct id)
            (fun _ member => member) rfl)
  | ackd req =>
      exact
        unlogged (List.append_nil _)
          (inStep.congr serves (List.append_nil _) rfl rfl rfl)
          (pointers.congr rfl (fun _ member => member)
            (appWritten_acknowledged _ req))
  | connEvent event notTx =>
      exact
        unlogged (List.append_nil _) (inStep.connEvent event notTx)
          (pointers.congr rfl (fun _ member => member) rfl)
  | appWritten =>
      refine unlogged (List.append_nil _) ?_ pointers.appWritten
      refine inStep.congr serves (List.append_nil _) ?_ ?_ ?_
      all_goals
        simp only [LoggedTransfers.act, TransferSystem.act,
          TransferSystem.appWritten]
        split <;> rfl
  | writer =>
      refine
        unlogged (List.append_nil _) inStep.writer
          (pointers.congr (congrFun idealAct id) ?_ ?_)
      all_goals
        simp only [TransferSystem.act, TransferSystem.writer]
        split
      · exact fun _ member => member
      · exact fun _ member => member
      · rfl
      · rfl
  | status answer =>
      cases queued : logged.system.moverCmds with
      | nil =>
          have sameLog : logged.record (.status answer) = logged.log := by
            rw [LoggedTransfers.record, queued]
            rfl
          have same : logged.system.act (.status answer) = logged.system := by
            simp only [TransferSystem.act, TransferSystem.answered, queued]
          refine unlogged sameLog ?_ ?_
          · rw [LoggedTransfers.act, sameLog, same]
            exact inStep
          · rw [same]
            exact pointers
      | cons first later =>
          obtain ⟨recorded, nextInStep⟩ := inStep.status answer queued
          refine ⟨⟨closed, _, nextInStep⟩, fine.1, ?_⟩
          have nextPointers := pointers.record answer.okay
          rw [LoggedTransfers.act, recorded]
          refine nextPointers.congr (congrFun idealAct id) ?_ ?_
          · simp only [TransferSystem.act, TransferSystem.answered, queued]
            exact fun _ member => member
          · simp only [TransferSystem.act, TransferSystem.answered, queued]
  | dataHandler =>
      have nextInStep := inStep.dataHandler
      have recorded :
          logged.record .dataHandler =
            logged.log ++
              (logged.system.granted .dataHandler).toList.map fun req =>
                ⟨logged.system.transferOf req, []⟩ :=
        rfl
      cases granted : logged.system.granted .dataHandler with
      | none =>
          rw [granted, Option.toList_none, List.map_nil, List.append_nil]
            at nextInStep
          rw [granted] at idealAct recorded
          exact
            unlogged (recorded.trans (List.append_nil _)) nextInStep
              (pointers.congr (congrFun idealAct id)
                (fun _ member => member) rfl)
      | some req =>
          rw [granted] at idealAct recorded
          refine ⟨⟨closed, _, nextInStep⟩, fine.1, ?_⟩
          rw [LoggedTransfers.act, recorded]
          exact pointers.push (fine.2 req granted) idealAct rfl rfl
  | rspHandler =>
      have inLog : ∀ entry ∈ opened, ¬ FirstHalfFailed entry := by
        intro entry member
        refine good.firstHalves entry ?_
        rw [inStep.parts]
        exact List.mem_append_right closed member
      obtain ⟨nowClosed, stillOpened, nextInStep, released⟩ :=
        inStep.rspHandler inLog
      have sameLog : logged.record .rspHandler = logged.log :=
        List.append_nil _
      have parts : logged.log = nowClosed ++ stillOpened :=
        sameLog.symm.trans nextInStep.parts
      rcases released with noUpdate | ⟨entry, closes, allOkay, update⟩
      · rw [LoggedTransfers.act, sameLog] at nextInStep ⊢
        refine ⟨⟨nowClosed, stillOpened, nextInStep⟩, good, ?_⟩
        exact
          pointers.congr rfl
            (fun req member => noUpdate ▸ member) rfl
      · subst closes
        rw [List.append_assoc] at parts
        rw [LoggedTransfers.act, sameLog] at nextInStep ⊢
        exact
          ⟨⟨_, stillOpened, nextInStep⟩, good,
            pointers.release good parts allOkay rfl update rfl⟩

/-- Before the first transfer. -/
theorem FailureInvariant.atRest
    {start : TransferSystem} (rests : start.Rests)
    (same :
      (start.txSar id).appWritten =
        (start.tableInterface.table id).appWrittenIdeal) :
    FailureInvariant id (start.txSar id).appWritten ⟨start, []⟩ where
  inStep := by
    have flags : start.flagsAhead = [] := by
      rw [TransferSystem.flagsAhead, rests.flags, rests.writeCmds]
      rfl
    have okays : start.okaysAhead = [] := by
      rw [TransferSystem.okaysAhead, rests.statuses]
      rfl
    refine
      ⟨[], [],
        { serves := rests.serves
          parts := rfl
          closedFull := nofun
          filling := Filling.nil
          events := ?_
          commands := ?_
          takes :=
            TakesInStep.whole (by rw [rests.fsmStatus]; decide)
              flags okays }⟩
    · rw [TxAppRspState.openEvents,
        TransferSystem.heldEvents_readEv rests.fsmStatus, rests.cache]
      rfl
    · rw [rests.moverCmds, rests.writeCmds]
      rfl
  good := ⟨nofun, List.Pairwise.nil⟩
  pointers :=
    { ideal := by
        rw [TransferSystem.ideal_of_noReqs rests.tableReqs, ← same]
        exact (BitVec.add_zero _).symm
      ends := by
        intro before transfer isPrefix
        have noJob := List.prefix_nil.1 isPrefix
        exact absurd noJob (List.concat_ne_nil _ _)
      updates := by
        rw [rests.updates]
        exact fun _ member => absurd member List.not_mem_nil
      written := ⟨[], [], rfl, nofun, (BitVec.add_zero _).symm⟩ }

end Pointers

/-! ## Runs -/

/-- While no first half of a split write fails, no transfer of the session is
okay behind one that is not, and its grants are for less than `2 ^ 16` bytes:
`app_written` stands behind written transfers only. -/
theorem appWritten_passesNoFailure
    {id : TcpSessionID} {start : TransferSystem} {final : LoggedTransfers}
    {actions : List TransferAction}
    (rests : start.Rests)
    (same :
      (start.txSar id).appWritten =
        (start.tableInterface.table id).appWrittenIdeal)
    (fine : Along LoggedStep (WritesFine id) ⟨start, []⟩ actions)
    (run : Run LoggedStep ⟨start, []⟩ actions final) :
    final.PassesNoFailure id (start.txSar id).appWritten := by
  have atEnd :
      FailureInvariant id (start.txSar id).appWritten final := by
    refine
      invariant_of_run ?_ (FailureInvariant.atRest rests same) fine run
    intro logged action next invariant fineHere stepped
    rw [stepped]
    exact invariant.step fineHere
  exact atEnd.pointers.written

instance (entry : Entry Transfer) : Decidable (FirstHalfFailed entry) :=
  inferInstanceAs (Decidable (_ ∧ _))

instance (id : TcpSessionID) (log : List (Entry Transfer)) :
    Decidable (GoodAnswers id log) :=
  decidable_of_iff
    ((∀ entry ∈ log, ¬ FirstHalfFailed entry) ∧
      log.Pairwise fun earlier later =>
        earlier.job.event.sessionId = id →
          later.job.event.sessionId = id →
            later.AllOkay Transfer.commands →
              earlier.AllOkay Transfer.commands)
    ⟨fun good => ⟨good.1, good.2⟩, fun good => ⟨good.1, good.2⟩⟩

instance (id : TcpSessionID) (logged : LoggedTransfers)
    (action : TransferAction) : Decidable (WritesFine id logged action) :=
  inferInstanceAs (Decidable (_ ∧ _))

theorem LoggedTransfers.run_act
    (logged : LoggedTransfers) (actions : List TransferAction) :
    Run LoggedStep logged actions (actions.foldl act logged) := by
  induction actions generalizing logged with
  | nil =>
      exact Run.refl logged
  | cons action rest inductionHypothesis =>
      exact Run.head rfl (inductionHypothesis _)

/-- A transfer is written, the next one fails. -/
theorem appWritten_passesNoFailure_okayError :
    ∃ final,
      Run LoggedStep ⟨TransferSystem.start 0, []⟩
          (wholeTransfer ⟨4, 3, 0⟩ okayStatus ++
            wholeTransfer ⟨4, 3, 0⟩ errorStatus)
          final ∧
        final.PassesNoFailure 3 0 :=
  ⟨_, LoggedTransfers.run_act _ _,
    appWritten_passesNoFailure (TransferSystem.rests_start 0) rfl
      (along_iff_enabled.2 (by decide)) (LoggedTransfers.run_act _ _)⟩

/-- The first transfer fails, and the next one moves `app_written` over
it. -/
theorem not_appWritten_passesNoFailure :
    ¬ ∀ (id : TcpSessionID) (start : TransferSystem)
        (final : LoggedTransfers) (actions : List TransferAction),
      start.Rests →
      (start.txSar id).appWritten =
        (start.tableInterface.table id).appWrittenIdeal →
      Run LoggedStep ⟨start, []⟩ actions final →
      final.PassesNoFailure id (start.txSar id).appWritten := by
  intro passes
  obtain ⟨passed, rest, parts, allOkay, pointer⟩ :=
    passes 3 (TransferSystem.start 0) _
      (wholeTransfer ⟨4, 3, 0⟩ errorStatus ++
        wholeTransfer ⟨4, 3, 0⟩ okayStatus)
      (TransferSystem.rests_start 0) rfl (LoggedTransfers.run_act _ _)
  cases passed with
  | nil =>
      exact absurd pointer (by decide)
  | cons entry passed =>
      obtain ⟨rfl, _⟩ := List.cons.inj parts
      exact absurd (allOkay _ List.mem_cons_self rfl) (by decide)

end TcpOffload
