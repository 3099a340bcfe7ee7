import TcpOffload.TxAppIntf.CarriedTransfers

/-!
# The sent bytes

Between `ackd` and `app_written` the TX ring holds what the application wrote,
for the TX engine to send as often as it has to.
-/

namespace TcpOffload

open AnswerLog Cyclic Framing Guarded

/-! ## The bytes in the ring -/

/-- The writes of the first transfers are carried out; the commands of the
others wait for `WriteDataToMem`. -/
structure StoredLog
    (id : TcpSessionID) (first : Nat) (rings : Rings)
    (system : CarriedTransfers) (stored waiting : List (Entry Transfer)) :
    Prop where
  parts : system.logged.log = stored ++ waiting
  commands :
    waiting.map (fun entry => entry.job.cmd) =
      system.logged.system.writeCmds
  unanswered : ∀ entry ∈ waiting, entry.answers = []
  written :
    (bytesWritten .tx id system.accesses).length =
      ownBytes id (jobs stored)
  held : HeldFrom .tx id first rings system.acked system.accesses

namespace StoredLog

variable {id : TcpSessionID} {first : Nat} {rings : Rings}
variable {system : CarriedTransfers} {stored waiting : List (Entry Transfer)}

/-- The DataMover has no more to answer than the stored writes. -/
theorem missing
    (storedLog : StoredLog id first rings system stored waiting)
    {closed opened : List (Entry Transfer)}
    (inStep : InStep system.logged closed opened)
    {cmd : DataMoverCmd} {later : List DataMoverCmd}
    (queued : system.logged.system.moverCmds = cmd :: later) :
    (answers stored).length < total Transfer.commands (jobs stored) := by
  have commands := inStep.commands
  have closedFull :
      (answers closed).length = total Transfer.commands (jobs closed) := by
    have full := inStep.closedFull
    clear * - full
    induction closed with
    | nil =>
        rfl
    | cons entry closed inductionHypothesis =>
        rw [List.forall_mem_cons, Entry.Full] at full
        have rest := inductionHypothesis full.2
        simp only [answers, total, jobs] at rest ⊢
        rw [List.flatMap_cons, List.length_append, List.map_cons,
          List.map_cons, List.sum_cons, full.1, rest]
  have waitingCommands :
      (system.logged.system.writeCmds.map fun cmd =>
          cmd.splitCommands.length).sum =
        total Transfer.commands (jobs waiting) := by
    rw [← storedLog.commands, List.map_map, total, jobs, List.map_map]
    rfl
  have noAnswers := answers_of_none storedLog.unanswered
  have sameLog := storedLog.parts.symm.trans inStep.parts
  have sameAnswers := congrArg (fun log => (answers log).length) sameLog
  have sameTotal :=
    congrArg (fun log => total Transfer.commands (jobs log)) sameLog
  simp only [answers, List.flatMap_append, List.length_append]
    at sameAnswers noAnswers closedFull commands
  simp only [total, jobs, List.map_append, List.sum_append] at *
  rw [queued, List.length_cons] at commands
  rw [noAnswers, List.length_nil] at sameAnswers
  rw [answers]
  omega

/-- The write of the next transfer is carried out. -/
theorem write
    (storedLog : StoredLog id first rings system stored waiting)
    {entry : Entry Transfer}
    (lies : entry.job.LiesAt id (first + ownBytes id (jobs stored)))
    (room :
      entry.job.event.sessionId = id →
        ownBytes id (jobs stored) + entry.job.length.toNat ≤
          system.acked + bufferSize)
    {accesses : List RingAccess}
    (carriedOut :
      accesses.filterMap RingAccess.txCommand = [entry.job.cmd]) :
    HeldFrom .tx id first rings system.acked
        (system.accesses ++ accesses) ∧
      (bytesWritten .tx id (system.accesses ++ accesses)).length =
        ownBytes id (jobs (stored ++ [entry])) := by
  obtain
      ⟨before, written, words, behind, rfl, isCmd, notBefore, notBehind⟩ :=
    @write_of_command id accesses _ carriedOut
  obtain ⟨offset, isSession, atPlace⟩ := lies.cmd
  have isOwn : written.id = entry.job.event.sessionId :=
    SessionWrite.id_of_cmd lies.idBound (isCmd.trans isSession)
  obtain ⟨sameOffset, sameLength⟩ := SessionWrite.of_cmd isCmd
  obtain ⟨heldBefore, sameBefore⟩ := storedLog.held.others notBefore
  have isWritten := storedLog.written
  rw [← sameBefore] at isWritten
  have together :
      system.accesses ++
          (before ++ .write .tx written words :: behind) =
        system.accesses ++ before ++ [.write .tx written words] ++
          behind := by
    simp only [List.append_assoc, List.singleton_append]
  have jobsGrown :
      jobs (stored ++ [entry]) = jobs stored ++ [entry.job] :=
    List.map_append
  rw [together, jobsGrown, ownBytes_append]
  by_cases own : entry.job.event.sessionId = id
  · have short := lies.short own
    have bytes : written.bytes.length = entry.job.length.toNat := by
      rw [sameLength, isSession]
      exact TransferSystem.setWidth16_toNat short
    have place :
        written.offset.toNat =
          (first +
              (bytesWritten .tx id (system.accesses ++ before)).length) %
            bufferSize := by
      rw [sameOffset, isSession, sessionCmd_offset, atPlace own,
        BitVec.toNat_ofNat, isWritten, bufferSize_eq]
    obtain ⟨heldWrite, grown⟩ :=
      @HeldFrom.write _ _ _ _ _ _ _ words heldBefore (isOwn.trans own)
        place
        (by
          rw [isWritten, bytes]
          exact room own)
    obtain ⟨held, same⟩ := heldWrite.others notBehind
    refine ⟨held, ?_⟩
    rw [same, grown, List.length_append, isWritten, bytes,
      ownBytes_own own]
  · have notOwn :
        ¬ RingAccess.Writes .tx id (.write .tx written words) :=
      fun writes => own (isOwn.symm.trans writes.2)
    obtain ⟨heldWrite, sameWrite⟩ :=
      heldBefore.others (List.forall_mem_singleton.2 notOwn)
    obtain ⟨held, same⟩ := heldWrite.others notBehind
    refine ⟨held, ?_⟩
    rw [same, sameWrite, isWritten, ownBytes_other own, Nat.add_zero]

/-- Accesses that write no TX ring, in a step that leaves the log and the
commands alone. -/
theorem quiet
    (storedLog : StoredLog id first rings system stored waiting)
    {call : TransferAction × List RingAccess}
    (noCommand : call.2.filterMap RingAccess.txCommand = [])
    (acknowledged :
      (system.act id call).acked ≤ ownBytes id (jobs stored))
    {nowStored stillWaiting : List (Entry Transfer)}
    (sameJobs : jobs nowStored = jobs stored)
    (parts : system.logged.record call.1 = nowStored ++ stillWaiting)
    (commands :
      stillWaiting.map (fun entry => entry.job.cmd) =
        (system.logged.system.act call.1).writeCmds)
    (unanswered : ∀ entry ∈ stillWaiting, entry.answers = []) :
    StoredLog id first rings (system.act id call) nowStored
      stillWaiting := by
  obtain ⟨held, same⟩ :=
    storedLog.held.others (not_writes_of_noCommand noCommand)
  have written := storedLog.written
  rw [← same] at written
  refine ⟨parts, commands, unanswered, ?_, ?_⟩
  · rw [sameJobs]
    exact written
  · refine held.giveUp ?_
    rw [written]
    exact acknowledged

end StoredLog

/-! ## The invariant -/

namespace CarriedTransfers

variable {id : TcpSessionID} {first : Nat} {rings : Rings}
variable {system next : CarriedTransfers}

structure Kept
    (id : TcpSessionID) (first : Nat) (rings : Rings)
    (system : CarriedTransfers) : Prop where
  inStep : ∃ closed opened, InStep system.logged closed opened
  allOkay : AllAnswersOkay system.logged.log
  placed :
    ∃ seen,
      system.logged.system.Placed id
        ⟨seen, first + system.acked,
          first + ownBytes id (jobs system.logged.log)⟩
  laidOut : LaidOut id first (jobs system.logged.log)
  passes :
    ∃ taken passing,
      UpdatesPass id first system.acked system.logged.system
        (jobs system.logged.log) taken passing
  stored :
    ∃ stored waiting, StoredLog id first rings system stored waiting
  wellFormed : ∀ access ∈ system.accesses, access.WellFormed

/-- What the TX SAR table has been told of is stored: a transfer is released
after its write is answered. -/
theorem taken_isPrefix
    {closed opened stored waiting : List (Entry Transfer)}
    {taken passing : List Transfer}
    (inStep : InStep system.logged closed opened)
    (passes :
      UpdatesPass id first system.acked system.logged.system
        (jobs system.logged.log) taken passing)
    (storedLog : StoredLog id first rings system stored waiting) :
    taken <+: jobs stored := by
  have sameLog := inStep.parts.symm.trans storedLog.parts
  have inLog : jobs stored <+: jobs system.logged.log := by
    rw [storedLog.parts, jobs, jobs, List.map_append]
    exact List.prefix_append _ _
  have takenInLog : taken <+: jobs system.logged.log :=
    ⟨passing, passes.parts.symm⟩
  have closedShort : closed.length ≤ stored.length := by
    rcases List.append_eq_append_iff.1 sameLog with
      ⟨rest, isStored, -⟩ | ⟨rest, isClosed, isWaiting⟩
    · rw [isStored, List.length_append]
      exact Nat.le_add_right _ _
    · cases rest with
      | nil =>
          rw [isClosed, List.append_nil]
      | cons entry rest =>
          have isFull : entry.Full Transfer.commands :=
            inStep.closedFull entry (by
              rw [isClosed]
              exact List.mem_append_right _ List.mem_cons_self)
          have none : entry.answers = [] :=
            storedLog.unanswered entry (by
              rw [isWaiting]
              exact List.mem_cons_self)
          rw [Entry.Full, none] at isFull
          exact absurd isFull.symm entry.job.commands_pos.ne'
  refine List.prefix_of_prefix_length_le takenInLog inLog ?_
  have pending := congrArg List.length passes.pending
  have events := congrArg List.length inStep.events
  have parts := congrArg List.length passes.parts
  have logLength := congrArg List.length inStep.parts
  simp only [TransferSystem.pendingUpdates, jobs, List.length_append,
    List.length_map] at pending events parts logLength ⊢
  omega

/-- A grant lies behind the transfers before it. -/
theorem laidOut_act {transfers : List Transfer}
    {modules : TransferSystem} {action : TransferAction}
    (laidOut : LaidOut id first transfers)
    (ideal :
      modules.ideal id = BitVec.ofNat 18 (first + ownBytes id transfers))
    (short : TransferSystem.GrantsShort id modules action)
    (inMemory : GrantsInMemory modules action) :
    LaidOut id first
      (transfers ++
        (modules.granted action).toList.map modules.transferOf) := by
  cases granted : modules.granted action with
  | none =>
      rw [Option.toList_none, List.map_nil, List.append_nil]
      exact laidOut
  | some req =>
      refine
        laidOut.push
          { idBound := inMemory req granted
            cmd := ⟨modules.ideal req.id, rfl, fun own => ?_⟩
            short := short req granted
            ends := fun own => ?_ }
      · rw [← ideal]
        exact congrArg modules.ideal own
      · have ownReq : req.id = id := own
        have ends :=
          TransferSystem.ofEvent_txEvent ⟨0, modules.ideal req.id⟩
            req.id (short req granted ownReq)
        refine ends.trans ?_
        rw [ownReq, ideal]
        refine congrArg (TxAppToTxSarReq.mk id) ?_
        change
          _ + req.data =
            BitVec.ofNat 18
              (first + ownBytes id transfers + req.data.toNat)
        rw [BitVec.ofNat_add (first + ownBytes id transfers),
          BitVec.ofNat_toNat, BitVec.setWidth_eq]

/-- The writes stay with the log. -/
theorem Kept.stored_act
    (kept : system.Kept id first rings)
    {call : TransferAction × List RingAccess}
    (carriedOut :
      call.2.filterMap RingAccess.txCommand =
        system.logged.system.writing call.1)
    {stored waiting : List (Entry Transfer)}
    (storedLog : StoredLog id first rings system stored waiting)
    (acknowledged :
      (system.act id call).acked ≤ ownBytes id (jobs stored)) :
    ∃ nowStored stillWaiting,
      StoredLog id first rings (system.act id call) nowStored
        stillWaiting := by
  obtain ⟨action, accesses⟩ := call
  have quiet
      (noCommand : system.logged.system.writing action = [])
      (sameLog : system.logged.record action = system.logged.log)
      (sameCmds :
        (system.logged.system.act action).writeCmds =
          system.logged.system.writeCmds) :
      StoredLog id first rings (system.act id (action, accesses)) stored
        waiting :=
    storedLog.quiet (carriedOut.trans noCommand) acknowledged rfl
      (sameLog.trans storedLog.parts)
      (storedLog.commands.trans sameCmds.symm) storedLog.unanswered
  cases action with
  | request | payload | sttableRsp | connEvent | tableInterface
  | rspHandler | ackd =>
      exact ⟨stored, waiting, quiet rfl (List.append_nil _) rfl⟩
  | appWritten =>
      refine ⟨stored, waiting, quiet rfl (List.append_nil _) ?_⟩
      simp only [TransferSystem.act, TransferSystem.appWritten]
      split
      · rfl
      · rfl
  | status answer =>
      have sameCmds :
          (system.logged.system.act (.status answer)).writeCmds =
            system.logged.system.writeCmds := by
        simp only [TransferSystem.act, TransferSystem.answered]
        split
        · rfl
        · rfl
      cases queued : system.logged.system.moverCmds with
      | nil =>
          refine ⟨stored, waiting, quiet rfl ?_ sameCmds⟩
          rw [LoggedTransfers.record, queued]
          rfl
      | cons cmd later =>
          obtain ⟨closed, opened, inStep⟩ := kept.inStep
          refine
            ⟨AnswerLog.record Transfer.commands answer.okay stored,
              waiting,
              storedLog.quiet carriedOut acknowledged
                (AnswerLog.jobs_record _ _) ?_
                (storedLog.commands.trans sameCmds.symm)
                storedLog.unanswered⟩
          rw [LoggedTransfers.record, queued, storedLog.parts]
          exact
            record_append_of_missing (storedLog.missing inStep queued)
              answer.okay waiting
  | dataHandler =>
      obtain ⟨closed, opened, inStep⟩ := kept.inStep
      have step := inStep.serves.dataHandlerStep
      have recorded :
          system.logged.record .dataHandler =
            system.logged.log ++
              (system.logged.system.granted .dataHandler).toList.map
                fun req => ⟨system.logged.system.transferOf req, []⟩ :=
        rfl
      have pushed
          (more : List (Entry Transfer))
          (isMore :
            system.logged.record .dataHandler =
              system.logged.log ++ more)
          (cmds :
            (system.logged.system.act .dataHandler).writeCmds =
              system.logged.system.writeCmds ++
                more.map fun entry => entry.job.cmd)
          (unanswered : ∀ entry ∈ more, entry.answers = []) :
          StoredLog id first rings
            (system.act id (.dataHandler, accesses)) stored
            (waiting ++ more) := by
        refine
          storedLog.quiet carriedOut acknowledged rfl ?_ ?_
            (List.forall_mem_append.2
              ⟨storedLog.unanswered, unanswered⟩)
        · rw [isMore, storedLog.parts, List.append_assoc]
        · rw [List.map_append, storedLog.commands]
          exact cmds.symm
      generalize system.logged.system.granted .dataHandler = granted,
        isAfter : system.logged.system.act .dataHandler = after
        at step recorded
      cases step with
      | quiet _ _ =>
          refine ⟨stored, _, pushed [] recorded ?_ (List.forall_mem_nil _)⟩
          rw [isAfter]
          exact (List.append_nil _).symm
      | @grant _ rsp _ _ _ current _ _ _ =>
          refine
            ⟨stored, _,
              pushed [_] recorded ?_ (List.forall_mem_singleton.2 rfl)⟩
          rw [isAfter]
          refine congrArg (_ ++ ·) ?_
          rw [TransferSystem.grantMsgs_cmds]
          change
            [sessionCmd .tx _ rsp.appWrittenIdeal _] =
              [sessionCmd .tx _ (system.logged.system.ideal _) _]
          rw [current]
  | writer =>
      cases waiting with
      | nil =>
          have noCmds := storedLog.commands
          refine ⟨stored, [], quiet ?_ (List.append_nil _) ?_⟩
          · rw [TransferSystem.writing, ← noCmds]
            rfl
          · rw [TransferSystem.act, TransferSystem.writer, ← noCmds]
            exact noCmds.symm
      | cons entry rest =>
          have cmds := storedLog.commands.symm
          rw [List.map_cons] at cmds
          have written :
              accesses.filterMap RingAccess.txCommand =
                [entry.job.cmd] := by
            rw [carriedOut, TransferSystem.writing, cmds]
            rfl
          have inLog :
              jobs stored ++ [entry.job] <+: jobs system.logged.log := by
            refine ⟨jobs rest, ?_⟩
            simp only [storedLog.parts, jobs, List.map_append,
              List.map_cons, List.append_assoc, List.singleton_append]
          have lies := kept.laidOut _ _ inLog
          obtain ⟨seen, placed⟩ := kept.placed
          have notAhead : seen ≤ first + system.acked := placed.seen_le
          have room :
              first + ownBytes id (jobs system.logged.log) <
                seen + 2 ^ 18 :=
            placed.room
          have whole := @ownBytes_le_of_isPrefix id _ _ inLog
          rw [ownBytes_append] at whole
          obtain ⟨held, length⟩ :=
            storedLog.write lies
              (by
                intro own
                rw [ownBytes_own own] at whole
                rw [bufferSize_eq]
                omega)
              written
          refine
            ⟨stored ++ [entry], rest,
              { parts := ?_
                commands := ?_
                unanswered := fun other isIn =>
                  storedLog.unanswered other
                    (List.mem_cons_of_mem entry isIn)
                written := length
                held := held }⟩
          · refine (List.append_nil _).trans (storedLog.parts.trans ?_)
            rw [List.append_assoc]
            rfl
          · simp only [act, LoggedTransfers.act, TransferSystem.act,
              TransferSystem.writer, cmds]

theorem Kept.step
    (kept : system.Kept id first rings)
    {call : TransferAction × List RingAccess}
    (stepped : CarriedStep id system call next) :
    next.Kept id first rings := by
  obtain
    ⟨rfl, acknowledged, okay, short, inMemory, carriedOut, -,
      wellFormed⟩ := stepped
  obtain ⟨closed, opened, inStep⟩ := kept.inStep
  obtain ⟨seen, placed⟩ := kept.placed
  obtain ⟨taken, passing, passes⟩ := kept.passes
  obtain ⟨stored, waiting, storedLog⟩ := kept.stored
  have inside :
      ownBytes id taken ≤ ownBytes id (jobs system.logged.log) :=
    ownBytes_le_of_isPrefix ⟨passing, passes.parts.symm⟩
  obtain ⟨forward, within⟩ :=
    passes.acknowledge placed (Nat.add_le_add_left inside first)
      acknowledged
  have behind :
      ownBytes id taken ≤ ownBytes id (jobs stored) :=
    ownBytes_le_of_isPrefix (taken_isPrefix inStep passes storedLog)
  have recorded := system.logged.jobs_record call.1
  refine
    { inStep := inStep.act kept.allOkay call.1
      allOkay := kept.allOkay.record okay
      placed := ?_
      laidOut := ?_
      passes := ?_
      stored :=
        kept.stored_act carriedOut storedLog
          (Nat.le_trans within behind)
      wellFormed :=
        List.forall_mem_append.2 ⟨kept.wellFormed, wellFormed⟩ }
  · obtain ⟨seenNext, placedNext⟩ := placed.step forward
    refine ⟨seenNext, ?_⟩
    change
      (system.logged.system.act call.1).Placed id
        ⟨seenNext,
          first +
            (system.acked +
              TransferSystem.ackedIn id system.logged.system call.1),
          first + ownBytes id (jobs (system.logged.record call.1))⟩
    rw [recorded, ownBytes_append, ownBytes_granted, ← Nat.add_assoc,
      ← Nat.add_assoc]
    exact placedNext
  · change LaidOut id first (jobs (system.logged.record call.1))
    rw [recorded]
    exact laidOut_act kept.laidOut placed.ideal short inMemory
  · change
      ∃ nowTaken stillPassing,
        UpdatesPass id first _ _ (jobs (system.logged.record call.1)) nowTaken
          stillPassing
    rw [recorded]
    exact
      passes.act inStep.serves kept.laidOut
        (inStep.statuses_okay kept.allOkay) call.1 within

/-- Before the first transfer. -/
theorem kept_start
    {modules : TransferSystem} (rests : modules.Rests)
    (established : modules.Established id)
    (same :
      (modules.txSar id).appWritten = modules.ringAckd id)
    (rings : Rings) :
    ∃ first, (CarriedTransfers.start modules).Kept id first rings := by
  obtain ⟨positions, placed, noData⟩ := established.placed rests
  have noTransfer : ownBytes id [] = 0 := rfl
  obtain ⟨seen, ackd, ideal⟩ := positions
  have together : ackd = ideal := noData
  subst together
  refine
    ⟨ackd,
      { inStep :=
          (FailureInvariant.atRest rests
            (same.trans established.acknowledged)).inStep
        allOkay := nofun
        placed := ⟨seen, placed⟩
        laidOut := ?_
        passes := ⟨[], [], ?_⟩
        stored := ⟨[], [], ?_⟩
        wellFormed := nofun }⟩
  · intro before transfer isPrefix
    exact absurd (List.prefix_nil.1 isPrefix) (List.concat_ne_nil _ _)
  · exact
      { parts := rfl
        pending := rests.pendingUpdates
        appWritten := same.trans placed.ackd
        acknowledged := Nat.le_refl 0 }
  · exact
      { parts := rfl
        commands := rests.writeCmds.symm
        unanswered := nofun
        written := rfl
        held := HeldFrom.start }

/-! ### The words of the application -/

/-- The words that the application hands over in a step. -/
def payload : TransferAction → List NetAXISWord
  | .payload word => [word]
  | _ => []

/-- No word is lost on the way to `WriteDataToMem`. -/
theorem forwarded_conserves
    (modules : TransferSystem) (action : TransferAction) :
    modules.forwarded action ++
        (modules.act action).dataHandler.transData =
      modules.dataHandler.transData ++ payload action := by
  cases action with
  | request | sttableRsp | connEvent | rspHandler | ackd =>
      exact (List.append_nil _).symm
  | payload word =>
      rfl
  | dataHandler =>
      have call := txAppDataHandler_call modules.dataHandler
      simp only [TransferSystem.forwarded, TransferSystem.act,
        TransferSystem.afterDataHandler, payload, List.append_nil]
      generalize (txAppDataHandler modules.dataHandler).1 = after,
        (txAppDataHandler modules.dataHandler).2 = msgs at call ⊢
      cases call with
      | idle | request | refuse | grant =>
          rfl
      | forward _ queued =>
          exact queued.symm
  | tableInterface =>
      exact (List.append_nil _).symm
  | writer =>
      simp only [TransferSystem.forwarded, TransferSystem.act,
        TransferSystem.writer, payload, List.append_nil,
        List.nil_append]
      split
      · rfl
      · rfl
  | status answer =>
      simp only [TransferSystem.forwarded, TransferSystem.act,
        TransferSystem.answered, payload, List.append_nil,
        List.nil_append]
      split
      · rfl
      · rfl
  | appWritten =>
      simp only [TransferSystem.forwarded, TransferSystem.act,
        TransferSystem.appWritten, payload, List.append_nil,
        List.nil_append]
      split
      · rfl
      · rfl

/-- The words written, those on their way and those still to be read, in
order. -/
def words (system : CarriedTransfers) : List NetAXISWord :=
  system.accesses.flatMap RingAccess.txWords ++ system.writeData ++
    system.logged.system.dataHandler.transData

theorem words_step {call : TransferAction × List RingAccess}
    (stepped : CarriedStep id system call next) :
    next.words = system.words ++ payload call.1 := by
  obtain ⟨rfl, -, -, -, -, -, ⟨behind, isData⟩, -⟩ := stepped
  have conserved := forwarded_conserves system.logged.system call.1
  have left :
      (system.act id call).writeData =
        behind ++ system.logged.system.forwarded call.1 := by
    rw [act, ← isData, List.append_assoc, List.drop_left]
  have both :
      (system.act id call).accesses.flatMap RingAccess.txWords =
        system.accesses.flatMap RingAccess.txWords ++
          call.2.flatMap RingAccess.txWords :=
    List.flatMap_append
  rw [words, words, both, left, ← isData]
  simp only [List.append_assoc]
  exact
    congrArg (fun rest => _ ++ (_ ++ (behind ++ rest))) conserved

/-- Every word that the application handed over was written, in order, or is
still on its way. -/
theorem words_conserved
    {calls : List (TransferAction × List RingAccess)}
    (run : Run (CarriedStep id) system calls next) :
    next.words =
      system.words ++ calls.flatMap fun call => payload call.1 := by
  induction run with
  | refl _ =>
      exact (List.append_nil _).symm
  | head stepped _ inductionHypothesis =>
      rw [inductionHypothesis, words_step stepped, List.flatMap_cons,
        List.append_assoc]

end CarriedTransfers

/-- In every run with okay statuses, a read of the TX ring delivers between
`ackd` and `app_written` the bytes that the application wrote there: the byte
that is `n` places behind `ackd` is the one that was written `n` bytes behind
those that are acknowledged.  And the words written are those that the
application handed over, in order. -/
theorem sentBytes_read_back
    {id : TcpSessionID} {start : TransferSystem} {final : CarriedTransfers}
    {calls : List (TransferAction × List RingAccess)}
    (rests : start.Rests) (established : start.Established id)
    (same : (start.txSar id).appWritten = start.ringAckd id)
    (run : Run (CarriedStep id) (CarriedTransfers.start start) calls final)
    (memory : Nat → BitVec 8) {earlier out : List NetAXISWord}
    {atRead atEnd : MemorySystem}
    (ran :
      AccessRun (MemorySystem.start memory) final.accesses earlier atRead)
    {asked : RingRead} (own : asked.id = id)
    (isRead : RingAccess.WellFormed (.read .tx asked))
    (answered : AccessRun atRead [.read .tx asked] out atEnd) :
    final.words =
        start.dataHandler.transData ++
          calls.flatMap (fun call => CarriedTransfers.payload call.1) ∧
      ∃ frame,
        AxiFrames [frame] out ∧
          frame.length = asked.length.toNat ∧
          ∀ index < asked.length.toNat,
            let place := asked.offset + BitVec.ofNat 18 index
            Inside (final.logged.system.ringAckd id) place
                (final.logged.system.txSar id).appWritten →
              ∃ byte,
                frame[index]? = some byte ∧
                  (bytesWritten .tx id final.accesses)[final.acked +
                      distance (final.logged.system.ringAckd id)
                        place]? =
                    some byte := by
  obtain ⟨first, atStart⟩ :=
    CarriedTransfers.kept_start rests established same (Rings.ofMemory memory)
  have kept : final.Kept id first (Rings.ofMemory memory) :=
    run.keeps (fun _ _ _ before stepped => before.step stepped) atStart
  refine ⟨CarriedTransfers.words_conserved run, ?_⟩
  obtain ⟨closed, opened, inStep⟩ := kept.inStep
  obtain ⟨seen, placed⟩ := kept.placed
  obtain ⟨taken, passing, passes⟩ := kept.passes
  obtain ⟨stored, waiting, storedLog⟩ := kept.stored
  obtain ⟨frame, isFrame, length, cells⟩ :=
    storedLog.held.delivers kept.wellFormed
      (MemorySystem.ready_start memory) (represents_ofMemory memory) ran
      own isRead answered
  refine ⟨frame, isFrame, length, ?_⟩
  intro index inFrame place inside
  have inLog :
      ownBytes id taken ≤ ownBytes id (jobs final.logged.log) :=
    ownBytes_le_of_isPrefix ⟨passing, passes.parts.symm⟩
  have behind :
      ownBytes id taken ≤ ownBytes id (jobs stored) :=
    ownBytes_le_of_isPrefix
      (CarriedTransfers.taken_isPrefix inStep passes storedLog)
  rw [Inside,
    passes.distance_appWritten placed (Nat.add_le_add_left inLog first)]
    at inside
  have acknowledged := passes.acknowledged
  have written := storedLog.written
  have ackd :
      final.logged.system.ringAckd id =
        BitVec.ofNat 18 (first + final.acked) :=
    placed.ackd
  have samePlace :
      (asked.offset.toNat + index) % bufferSize =
        (first +
            (final.acked +
              distance (final.logged.system.ringAckd id) place)) %
          bufferSize := by
    have shown := @eq_ofNat_add_distance 18 (first + final.acked) place
    rw [← ackd, Nat.add_assoc] at shown
    have values := congrArg BitVec.toNat shown
    rw [BitVec.toNat_add, BitVec.toNat_ofNat, BitVec.toNat_ofNat,
      Nat.add_mod_mod] at values
    rw [bufferSize_eq]
    exact values
  have cell :=
    cells index inFrame _ (Nat.le_add_right _ _) (by omega) samePlace
  have isIn : index < frame.length := length.symm ▸ inFrame
  rw [← cell, List.getElem?_eq_getElem isIn]
  exact ⟨_, rfl, rfl⟩

/-! ## Four bytes, one of them acknowledged -/

def sentWord : NetAXISWord :=
  NetAXISWord.ofBytes [1, 2, 3, 4] true

theorem three_isId : (3 : TcpSessionID).toNat < 2 ^ 13 := by
  decide

theorem threeBytes_pass_end :
    (0x3FFFE : TcpSessionBuffer).toNat + (3 : BitVec 16).toNat ≠
      bufferSize := by
  decide

/-- Two bytes before the end of the ring and two at its start. -/
def sentWrite : SessionWrite where
  id := 3
  offset := 0x3FFFE
  bytes := [1, 2, 3, 4]
  idBound := three_isId
  nonempty := fourBytes_ne_nil
  short := fourBytes_short
  notAtEnd := fourBytes_pass_end

def sentRead : RingRead where
  id := 3
  offset := 0x3FFFE
  length := 3
  idBound := three_isId
  someBytes := threeLength_ne_zero
  notAtEnd := threeBytes_pass_end

def fourBytesSent : List (TransferAction × List RingAccess) :=
  [(.request ⟨4, 3, 0⟩, []), (.dataHandler, []),
    (.sttableRsp .established, []), (.tableInterface, []),
    (.dataHandler, []), (.payload sentWord, []), (.dataHandler, []),
    (.tableInterface, []),
    (.writer, [.write .tx sentWrite [sentWord]]),
    (.status okayStatus, []), (.rspHandler, []), (.status okayStatus, []),
    (.rspHandler, []), (.rspHandler, []), (.appWritten, []),
    (.ackd ⟨3, 0x3FFFF, 0, 0, false, 0, false, 0, true⟩, [])]

def afterFourBytesSent : CarriedTransfers :=
  fourBytesSent.foldl (CarriedTransfers.act · 3)
    (CarriedTransfers.start (TransferSystem.start 0x3FFFE))

theorem run_fourBytesSent :
    Run (CarriedStep 3) (CarriedTransfers.start (TransferSystem.start 0x3FFFE))
      fourBytesSent afterFourBytesSent := by
  have noGrant {modules : TransferSystem} {action : TransferAction}
      (none : modules.granted action = none) :
      TransferSystem.GrantsShort 3 modules action ∧
        GrantsInMemory modules action := by
    refine ⟨fun req granted => ?_, fun req granted => ?_⟩
    · rw [none] at granted
      cases granted
    · rw [none] at granted
      cases granted
  have grant {modules : TransferSystem}
      (granted : modules.granted .dataHandler = some ⟨4, 3, 0⟩) :
      TransferSystem.GrantsShort 3 modules .dataHandler ∧
        GrantsInMemory modules .dataHandler := by
    refine ⟨fun req isGranted => ?_, fun req isGranted => ?_⟩
    · rw [granted] at isGranted
      obtain rfl := Option.some.inj isGranted
      decide
    · rw [granted] at isGranted
      obtain rfl := Option.some.inj isGranted
      decide
  have noAccess :
      ∀ access ∈ ([] : List RingAccess), access.WellFormed :=
    nofun
  have written :
      ∀ access ∈ [RingAccess.write .tx sentWrite [sentWord]],
        access.WellFormed := by
    refine List.forall_mem_singleton.2 ?_
    exact
      IsFrame.final (NetAXISWord.holds_ofBytes true (by decide))
        (by decide) (by decide) rfl
  repeat' first
    | exact Run.refl _
    | refine
        Run.head
          ⟨rfl, trivial, trivial, (noGrant rfl).1, (noGrant rfl).2, rfl,
            List.nil_prefix, noAccess⟩ ?_
    | refine
        Run.head
          ⟨rfl, trivial, trivial, (grant rfl).1, (grant rfl).2, rfl,
            List.nil_prefix, noAccess⟩ ?_
    | refine
        Run.head
          ⟨rfl, trivial, trivial, (noGrant rfl).1, (noGrant rfl).2,
            rfl, ⟨[], rfl⟩, written⟩ ?_
    | refine
        Run.head
          ⟨rfl, trivial, rfl, (noGrant rfl).1, (noGrant rfl).2, rfl,
            List.nil_prefix, noAccess⟩ ?_
    | refine
        Run.head
          ⟨rfl, fun _ => (by decide +kernel), trivial, (noGrant rfl).1,
            (noGrant rfl).2, rfl, List.nil_prefix, noAccess⟩ ?_

/-- The second and the third byte come back from the other end of the
ring. -/
theorem sentBytes_read_back_fourBytes :
    ∃ earlier out atRead atEnd frame,
      AccessRun (MemorySystem.start fun _ => 0)
          afterFourBytesSent.accesses earlier atRead ∧
        AccessRun atRead [.read .tx sentRead] out atEnd ∧
        AxiFrames [frame] out ∧
        frame[1]? = some 2 ∧ frame[2]? = some 3 := by
  have wellFormed :
      ∀ access ∈ afterFourBytesSent.accesses, access.WellFormed :=
    List.forall_mem_singleton.2
      (IsFrame.final (NetAXISWord.holds_ofBytes true (by decide))
        (by decide) (by decide) rfl)
  have isRead : RingAccess.WellFormed (.read .tx sentRead) :=
    Or.inr (by decide)
  have ready : (MemorySystem.start fun _ => 0).Ready :=
    MemorySystem.ready_start _
  obtain ⟨earlier, atRead, ran⟩ :=
    (MemorySystem.run_refines ready (represents_ofMemory _)
      wellFormed).1
  obtain ⟨stillReady, represents⟩ :=
    ran.rests ready (represents_ofMemory _) wellFormed
  obtain ⟨out, atEnd, answered⟩ :=
    (MemorySystem.run_refines stillReady represents
      (List.forall_mem_singleton.2 isRead)).1
  obtain ⟨-, frame, isFrame, -, cells⟩ :=
    sentBytes_read_back (TransferSystem.rests_start 0x3FFFE)
      (established_start 0x3FFFE 3) rfl
      run_fourBytesSent (fun _ => 0) ran rfl isRead answered
  obtain ⟨second, isSecond, wroteSecond⟩ :=
    cells 1 (by decide) (by decide +kernel)
  obtain ⟨third, isThird, wroteThird⟩ :=
    cells 2 (by decide) (by decide +kernel)
  have sameSecond : some 2 = some second :=
    Eq.trans (by decide +kernel) wroteSecond
  have sameThird : some 3 = some third :=
    Eq.trans (by decide +kernel) wroteThird
  exact
    ⟨earlier, out, atRead, atEnd, frame, ran, answered, isFrame,
      isSecond.trans sameSecond.symm, isThird.trans sameThird.symm⟩

end TcpOffload
