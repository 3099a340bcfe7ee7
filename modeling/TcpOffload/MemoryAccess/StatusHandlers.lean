import TcpOffload.Library.Completions
import TcpOffload.MemoryAccess.WriteSplit
import TcpOffload.TxAppIntf

/-!
# The status handlers

`RxEngNotificaionHandler` of `rx_engine.cpp` and `TxAppRspHandler` of
`tx_app_intf.cpp` hold a notification, or a TX event, until the DataMover has
answered the write of its data.  `WriteDataToMem` tells them with one flag a
write whether there are two answers.
-/

namespace TcpOffload

open Clocked Completions

structure DataMoverStatus where
  tag : BitVec 4
  interr : Bool
  decerr : Bool
  slverr : Bool
  okay : Bool
deriving DecidableEq, Repr

/-! ## The flags -/

def WriteDataMsg.flag : WriteDataMsg → Option Bool
  | .doubleAccessFlag flag => some flag
  | .moverWriteCmd _ => none
  | .moverWriteData _ => none

def doubleAccessFlags (msgs : List WriteDataMsg) : List Bool :=
  msgs.filterMap WriteDataMsg.flag

theorem writeDataToMem_flags (state : WriteDataState) :
    doubleAccessFlags (writeDataToMem state).2 ++
        (writeDataToMem state).1.memWriteCmd.map
          MemBufferRWCmd.overflows =
      state.memWriteCmd.map MemBufferRWCmd.overflows := by
  cases fsmState : state.fsmState with
  | waitCmd =>
      cases queued : state.memWriteCmd with
      | nil =>
          rw [writeDataToMem_idle fsmState queued, queued]
          rfl
      | cons cmd later =>
          cases overflows : cmd.overflows with
          | true =>
              rw [writeDataToMem_first fsmState queued overflows,
                List.map_cons, overflows]
              rfl
          | false =>
              rw [writeDataToMem_whole fsmState queued overflows,
                List.map_cons, overflows]
              rfl
  | fwdNoBreakdown =>
      cases queued : state.memWriteData <;>
        simp [writeDataToMem, fsmState, queued, doubleAccessFlags,
          WriteDataMsg.flag]
  | fwdBreakdown0 =>
      cases queued : state.memWriteData with
      | nil =>
          simp [writeDataToMem, fsmState, queued, doubleAccessFlags]
      | cons cur later =>
          by_cases lastBeat :
              state.firstCmdTransBeatsCnt = state.firstCmdTransBeats <;>
            simp [writeDataToMem, fsmState, queued, lastBeat,
              doubleAccessFlags, WriteDataMsg.flag]
  | fwdBreakdown1 =>
      cases queued : state.memWriteData <;>
        simp [writeDataToMem, fsmState, queued, doubleAccessFlags,
          WriteDataMsg.flag]
  | fwdExtra =>
      rw [writeDataToMem_extra fsmState]
      rfl

/-- The flags of the commands read so far are sent, in order. -/
theorem runs_writeDataToMem_flags
    {state final : WriteDataState} {msgs : List WriteDataMsg}
    (run : Runs writeDataToMem state msgs final) :
    doubleAccessFlags msgs ++
        final.memWriteCmd.map MemBufferRWCmd.overflows =
      state.memWriteCmd.map MemBufferRWCmd.overflows := by
  obtain ⟨count, reached⟩ := run
  induction count generalizing state msgs with
  | zero =>
      rw [calls_zero, Prod.mk.injEq] at reached
      rw [← reached.1, ← reached.2]
      rfl
  | succ count inductionHypothesis =>
      rw [calls_succ, Prod.mk.injEq] at reached
      have later := inductionHypothesis (Prod.ext reached.1 rfl)
      rw [← reached.2, doubleAccessFlags, List.filterMap_append,
        List.append_assoc]
      exact
        (congrArg (_ ++ ·) later).trans (writeDataToMem_flags state)

/-- The answers to the DataMover commands of a write. -/
def MemBufferRWCmd.AnsweredBy
    (cmd : MemBufferRWCmd) (answer : Answer DataMoverStatus) : Prop :=
  answer.statuses.length = cmd.splitCommands.length

theorem MemBufferRWCmd.AnsweredBy.isSplit
    {cmd : MemBufferRWCmd} {answer : Answer DataMoverStatus}
    (answered : cmd.AnsweredBy answer) :
    cmd.overflows = answer.isSplit := by
  rw [AnsweredBy, splitCommands] at answered
  cases overflows : cmd.overflows <;> cases answer <;>
    simp [overflows, Answer.statuses, Answer.isSplit] at answered ⊢

/-- With one status for each DataMover command, the flags say which answers
have two. -/
theorem doubleAccessFlags_answers
    {state final : WriteDataState} {msgs : List WriteDataMsg}
    {answers : List (Answer DataMoverStatus)}
    (run : Runs writeDataToMem state msgs final)
    (allRead : final.memWriteCmd = [])
    (answered :
      List.Forall₂ MemBufferRWCmd.AnsweredBy state.memWriteCmd answers) :
    doubleAccessFlags msgs = answers.map Answer.isSplit := by
  have flags := runs_writeDataToMem_flags run
  rw [allRead, List.map_nil, List.append_nil] at flags
  rw [flags]
  generalize state.memWriteCmd = cmds at answered
  induction answered with
  | nil =>
      rfl
  | cons here _ inductionHypothesis =>
      rw [List.map_cons, List.map_cons, here.isSplit, inductionHypothesis]

/-! ## `RxEngNotificaionHandler` -/

inductive NotificaionHandlerFsmState where
  | readNotify
  | readStatus1
  | readStatus2
deriving DecidableEq, Repr

structure NotificaionHandlerState where
  fsmState : NotificaionHandlerFsmState
  appNotificaionReg1 : AppNotificationNoTDEST
  appNotificaionReg2 : AppNotificationNoTDEST
  writeStatus : List DataMoverStatus
  doubleAccessFlag : List Bool
  notificationCache : List AppNotificationNoTDEST
deriving DecidableEq, Repr

/-- `RxEngNotificaionHandler`. -/
def rxEngNotificaionHandler (state : NotificaionHandlerState) :
    NotificaionHandlerState × List AppNotificationNoTDEST :=
  match state.fsmState with
  | .readNotify =>
      match state.notificationCache with
      | [] => (state, [])
      | notification :: later =>
          let next :=
            { state with
              appNotificaionReg1 := notification
              notificationCache := later }
          if notification.length ≠ 0 then
            ({ next with fsmState := .readStatus1 }, [])
          else
            (next, [notification])
  | .readStatus1 =>
      match state.doubleAccessFlag, state.writeStatus with
      | flag :: laterFlags, status :: later =>
          let next :=
            { state with
              doubleAccessFlag := laterFlags
              writeStatus := later }
          if status.okay then
            if flag then
              ({ next with
                  appNotificaionReg2 := state.appNotificaionReg1
                  fsmState := .readStatus2 }, [])
            else
              ({ next with fsmState := .readNotify },
                [state.appNotificaionReg1])
          else
            ({ next with fsmState := .readNotify }, [])
      | _, _ => (state, [])
  | .readStatus2 =>
      match state.writeStatus with
      | [] => (state, [])
      | status :: later =>
          ({ state with fsmState := .readNotify, writeStatus := later },
            if status.okay then [state.appNotificaionReg2] else [])

def AppNotificationNoTDEST.hasData
    (notification : AppNotificationNoTDEST) : Bool :=
  notification.length != 0

namespace NotificaionHandlerState

def phase (state : NotificaionHandlerState) :
    Phase AppNotificationNoTDEST :=
  match state.fsmState with
  | .readNotify => .idle
  | .readStatus1 => .first state.appNotificaionReg1
  | .readStatus2 => .second state.appNotificaionReg2

/-- The handler as one that counts completions. -/
def handler (state : NotificaionHandlerState) :
    Handler AppNotificationNoTDEST DataMoverStatus where
  phase := state.phase
  entries := state.notificationCache
  flags := state.doubleAccessFlag
  statuses := state.writeStatus

end NotificaionHandlerState

theorem rxEngNotificaionHandler_isView :
    IsView rxEngNotificaionHandler (fun _ => True)
      NotificaionHandlerState.handler
      (handle AppNotificationNoTDEST.hasData DataMoverStatus.okay)
      (fun notification => [notification]) := by
  rintro ⟨fsmState, reg1, reg2, statuses, flags, cache⟩ _
  refine ⟨trivial, ?_⟩
  cases fsmState with
  | readNotify =>
      cases cache with
      | nil =>
          exact ⟨rfl, rfl⟩
      | cons notification later =>
          by_cases empty : notification.length = BitVec.ofNat 16 0 <;>
            simp [rxEngNotificaionHandler, handle,
              NotificaionHandlerState.handler,
              NotificaionHandlerState.phase,
              AppNotificationNoTDEST.hasData, empty]
  | readStatus1 =>
      cases flags with
      | nil =>
          exact ⟨rfl, rfl⟩
      | cons flag laterFlags =>
          cases statuses with
          | nil =>
              exact ⟨rfl, rfl⟩
          | cons status later =>
              by_cases fine : status.okay = true <;> cases flag <;>
                simp [rxEngNotificaionHandler, handle,
                  NotificaionHandlerState.handler,
                  NotificaionHandlerState.phase, fine]
  | readStatus2 =>
      cases statuses with
      | nil =>
          exact ⟨rfl, rfl⟩
      | cons status later =>
          by_cases fine : status.okay = true <;>
            simp [rxEngNotificaionHandler, handle,
              NotificaionHandlerState.handler,
              NotificaionHandlerState.phase, fine]

/-! ## `TxAppRspHandler` -/

inductive StatusHandlerFsmState where
  | readEv
  | readStatus1
  | readStatus2
deriving DecidableEq, Repr

structure TxAppRspState where
  fsmStatus : StatusHandlerFsmState
  curEvent : Event
  doubleAccessFlag : List Bool
  writeStatus : List DataMoverStatus
  eventCache : List Event
deriving DecidableEq, Repr

inductive TxAppRspMsg where
  | txSarUpdReq (req : TxAppToTxSarReq)
  | setEvent (event : Event)
deriving DecidableEq, Repr

/-- What is written for an event whose data is in the buffer. -/
def Event.writtenMsgs (event : Event) : List TxAppRspMsg :=
  [.txSarUpdReq (TxAppToTxSarReq.ofEvent event), .setEvent event]

/-- `TxAppRspHandler`. -/
def txAppRspHandler (state : TxAppRspState) :
    TxAppRspState × List TxAppRspMsg :=
  match state.fsmStatus with
  | .readEv =>
      match state.eventCache with
      | [] => (state, [])
      | event :: later =>
          let next := { state with curEvent := event, eventCache := later }
          if event.type = .tx then
            ({ next with fsmStatus := .readStatus1 }, [])
          else
            (next, [.setEvent event])
  | .readStatus1 =>
      match state.doubleAccessFlag, state.writeStatus with
      | flag :: laterFlags, status :: later =>
          let next :=
            { state with
              doubleAccessFlag := laterFlags
              writeStatus := later }
          if status.okay then
            if flag then
              ({ next with fsmStatus := .readStatus2 }, [])
            else
              ({ next with fsmStatus := .readEv },
                state.curEvent.writtenMsgs)
          else
            ({ next with fsmStatus := .readEv }, [])
      | _, _ => (state, [])
  | .readStatus2 =>
      match state.writeStatus with
      | [] => (state, [])
      | status :: later =>
          ({ state with fsmStatus := .readEv, writeStatus := later },
            if status.okay then state.curEvent.writtenMsgs else [])

/-- What one call of the handler does. -/
inductive TxAppRspCall (state : TxAppRspState) :
    TxAppRspState → List TxAppRspMsg → Prop
  | idle : TxAppRspCall state state []
  | pass {event : Event} {later : List Event} :
      state.fsmStatus = .readEv →
      state.eventCache = event :: later →
      event.type ≠ .tx →
      TxAppRspCall state
        { state with curEvent := event, eventCache := later }
        [.setEvent event]
  | hold {event : Event} {later : List Event} :
      state.fsmStatus = .readEv →
      state.eventCache = event :: later →
      event.type = .tx →
      TxAppRspCall state
        { state with
          curEvent := event
          eventCache := later
          fsmStatus := .readStatus1 }
        []
  | whole {status : DataMoverStatus} {laterFlags : List Bool}
      {later : List DataMoverStatus} :
      state.fsmStatus = .readStatus1 →
      state.doubleAccessFlag = false :: laterFlags →
      state.writeStatus = status :: later →
      TxAppRspCall state
        { state with
          doubleAccessFlag := laterFlags
          writeStatus := later
          fsmStatus := .readEv }
        (if status.okay then state.curEvent.writtenMsgs else [])
  | first {status : DataMoverStatus} {laterFlags : List Bool}
      {later : List DataMoverStatus} :
      state.fsmStatus = .readStatus1 →
      state.doubleAccessFlag = true :: laterFlags →
      state.writeStatus = status :: later →
      TxAppRspCall state
        { state with
          doubleAccessFlag := laterFlags
          writeStatus := later
          fsmStatus := if status.okay then .readStatus2 else .readEv }
        []
  | second {status : DataMoverStatus} {later : List DataMoverStatus} :
      state.fsmStatus = .readStatus2 →
      state.writeStatus = status :: later →
      TxAppRspCall state
        { state with fsmStatus := .readEv, writeStatus := later }
        (if status.okay then state.curEvent.writtenMsgs else [])

theorem txAppRspHandler_call (state : TxAppRspState) :
    TxAppRspCall state (txAppRspHandler state).1
      (txAppRspHandler state).2 := by
  cases fsmStatus : state.fsmStatus with
  | readEv =>
      cases cache : state.eventCache with
      | nil =>
          simp only [txAppRspHandler, fsmStatus, cache]
          exact TxAppRspCall.idle
      | cons event later =>
          simp only [txAppRspHandler, fsmStatus, cache]
          by_cases isTx : event.type = .tx
          · rw [if_pos isTx]
            exact TxAppRspCall.hold fsmStatus cache isTx
          · rw [if_neg isTx]
            have passes := TxAppRspCall.pass fsmStatus cache isTx
            rw [fsmStatus] at passes
            exact passes
  | readStatus1 =>
      cases flags : state.doubleAccessFlag with
      | nil =>
          simp only [txAppRspHandler, fsmStatus, flags]
          exact TxAppRspCall.idle
      | cons flag laterFlags =>
          cases statuses : state.writeStatus with
          | nil =>
              simp only [txAppRspHandler, fsmStatus, flags, statuses]
              exact TxAppRspCall.idle
          | cons status later =>
              simp only [txAppRspHandler, fsmStatus, flags, statuses]
              cases flag with
              | false =>
                  have call :=
                    TxAppRspCall.whole fsmStatus flags statuses
                  cases okay : status.okay with
                  | true =>
                      rw [okay] at call
                      exact call
                  | false =>
                      rw [okay] at call
                      exact call
              | true =>
                  have call :=
                    TxAppRspCall.first fsmStatus flags statuses
                  cases okay : status.okay with
                  | true =>
                      rw [okay] at call
                      exact call
                  | false =>
                      rw [okay] at call
                      exact call
  | readStatus2 =>
      cases statuses : state.writeStatus with
      | nil =>
          simp only [txAppRspHandler, fsmStatus, statuses]
          exact TxAppRspCall.idle
      | cons status later =>
          simp only [txAppRspHandler, fsmStatus, statuses]
          exact TxAppRspCall.second fsmStatus statuses

def Event.isTx (event : Event) : Bool :=
  event.type == .tx

namespace TxAppRspState

/-- The event is in the register only while its statuses are awaited. -/
def phase (state : TxAppRspState) : Phase Event :=
  match state.fsmStatus with
  | .readEv => .idle
  | .readStatus1 => .first state.curEvent
  | .readStatus2 => .second state.curEvent

def handler (state : TxAppRspState) : Handler Event DataMoverStatus where
  phase := state.phase
  entries := state.eventCache
  flags := state.doubleAccessFlag
  statuses := state.writeStatus

end TxAppRspState

def Event.releasedMsgs (event : Event) : List TxAppRspMsg :=
  if event.type = .tx then event.writtenMsgs else [.setEvent event]

/-- Only a TX event waits for statuses. -/
def TxAppRspState.HoldsTx (state : TxAppRspState) : Prop :=
  state.fsmStatus ≠ .readEv → state.curEvent.type = .tx

theorem txAppRspHandler_isView :
    IsView txAppRspHandler TxAppRspState.HoldsTx TxAppRspState.handler
      (handle Event.isTx DataMoverStatus.okay) Event.releasedMsgs := by
  rintro ⟨fsmStatus, curEvent, flags, statuses, cache⟩ holdsTx
  cases fsmStatus with
  | readEv =>
      cases cache with
      | nil =>
          exact ⟨holdsTx, rfl, rfl⟩
      | cons event later =>
          by_cases isTx : event.type = .tx <;>
            simp [txAppRspHandler, handle, TxAppRspState.HoldsTx,
              TxAppRspState.handler, TxAppRspState.phase, Event.isTx,
              Event.releasedMsgs, isTx]
  | readStatus1 =>
      have isTx : curEvent.type = .tx := holdsTx (by rintro ⟨⟩)
      cases flags with
      | nil =>
          exact ⟨holdsTx, rfl, rfl⟩
      | cons flag laterFlags =>
          cases statuses with
          | nil =>
              exact ⟨holdsTx, rfl, rfl⟩
          | cons status later =>
              by_cases fine : status.okay = true <;> cases flag <;>
                simp [txAppRspHandler, handle, TxAppRspState.HoldsTx,
                  TxAppRspState.handler, TxAppRspState.phase,
                  Event.releasedMsgs, isTx, fine]
  | readStatus2 =>
      have isTx : curEvent.type = .tx := holdsTx (by rintro ⟨⟩)
      cases statuses with
      | nil =>
          exact ⟨holdsTx, rfl, rfl⟩
      | cons status later =>
          by_cases fine : status.okay = true <;>
            simp [txAppRspHandler, handle, TxAppRspState.HoldsTx,
              TxAppRspState.handler, TxAppRspState.phase,
              Event.releasedMsgs, isTx, fine]

/-! ## The statuses of the writes -/

/-- Data notifications with the answers to their writes, among notifications
without data. -/
abbrev NotifiedWrites :=
  List (Item AppNotificationNoTDEST.hasData DataMoverStatus)

/-- TX events with the answers to their writes, among other events. -/
abbrev TransferredWrites := List (Item Event.isTx DataMoverStatus)

/-- After the items of each part, `RxEngNotificaionHandler` has taken their
statuses, and no others, and forwarded the notifications of those without an
error. -/
def RxEngMatchesStatuses (items : NotifiedWrites) : Prop :=
  ∀ state : NotificaionHandlerState,
    state.fsmState = .readNotify →
      state.handler = Handler.waiting items →
        ∀ before after,
          items = before ++ after →
            ∃ final,
              Runs rxEngNotificaionHandler state
                (before.flatMap (Item.forwarded DataMoverStatus.okay))
                final ∧
              final.handler = Handler.waiting after

/-- After the items of each part, `TxAppRspHandler` has taken their statuses,
and no others, and released the events of those without an error. -/
def TxAppMatchesStatuses (items : TransferredWrites) : Prop :=
  ∀ state : TxAppRspState,
    state.fsmStatus = .readEv →
      state.handler = Handler.waiting items →
        ∀ before after,
          items = before ++ after →
            ∃ final,
              Runs txAppRspHandler state
                ((before.flatMap
                  (Item.forwarded DataMoverStatus.okay)).flatMap
                    Event.releasedMsgs)
                final ∧
              final.handler = Handler.waiting after

/-- No split write comes back with an error of its first half. -/
def NoFirstErrors
    {Entry : Type} {hasWrite : Entry → Bool}
    (items : List (Item hasWrite DataMoverStatus)) : Prop :=
  ∀ item ∈ items, item.firstFails DataMoverStatus.okay = false

def NotificaionHandlerState.start (items : NotifiedWrites) :
    NotificaionHandlerState where
  fsmState := .readNotify
  appNotificaionReg1 := ⟨0, 0, 0, 0, false⟩
  appNotificaionReg2 := ⟨0, 0, 0, 0, false⟩
  writeStatus := items.flatMap Item.statuses
  doubleAccessFlag := items.flatMap Item.flags
  notificationCache := items.map Item.entry

def TxAppRspState.start (items : TransferredWrites) :
    TxAppRspState where
  fsmStatus := .readEv
  curEvent := Event.plain .tx 0
  doubleAccessFlag := items.flatMap Item.flags
  writeStatus := items.flatMap Item.statuses
  eventCache := items.map Item.entry

theorem rxEngMatchesStatuses_iff (items : NotifiedWrites) :
    RxEngMatchesStatuses items ↔ NoFirstErrors items := by
  constructor
  · intro isMatched
    refine noFirstErrors_of_reaches fun before after parts => ?_
    obtain ⟨final, run, waits⟩ :=
      isMatched (NotificaionHandlerState.start items) rfl rfl before after
        parts
    obtain ⟨seen, seenRun, _⟩ :=
      rxEngNotificaionHandler_isView.viewRuns trivial run
    rw [waits] at seenRun
    exact ⟨seen, seenRun⟩
  · intro noFirstErrors state _ queued before after parts
    have run := (matched_iff items).2 noFirstErrors before after parts
    rw [← queued] at run
    obtain ⟨final, runHandler, waits⟩ :=
      rxEngNotificaionHandler_isView.runs trivial run
    rw [List.flatMap_singleton'] at runHandler
    exact ⟨final, runHandler, waits⟩

theorem txAppMatchesStatuses_iff (items : TransferredWrites) :
    TxAppMatchesStatuses items ↔ NoFirstErrors items := by
  have idle {state : TxAppRspState} (ready : state.fsmStatus = .readEv) :
      state.HoldsTx :=
    fun notReady => absurd ready notReady
  constructor
  · intro isMatched
    refine noFirstErrors_of_reaches fun before after parts => ?_
    obtain ⟨final, run, waits⟩ :=
      isMatched (TxAppRspState.start items) rfl rfl before after parts
    obtain ⟨seen, seenRun, _⟩ :=
      txAppRspHandler_isView.viewRuns (idle rfl) run
    rw [waits] at seenRun
    exact ⟨seen, seenRun⟩
  · intro noFirstErrors state ready queued before after parts
    have run := (matched_iff items).2 noFirstErrors before after parts
    rw [← queued] at run
    exact txAppRspHandler_isView.runs (idle ready) run

/-- For every sequence of writes and answers, both handlers match the statuses
with their writes exactly when the first half of no split write fails. -/
theorem handlers_matchStatuses_iff
    (notified : NotifiedWrites) (transferred : TransferredWrites) :
    RxEngMatchesStatuses notified ∧ TxAppMatchesStatuses transferred ↔
      NoFirstErrors notified ∧ NoFirstErrors transferred := by
  rw [rxEngMatchesStatuses_iff, txAppMatchesStatuses_iff]

/-- A split write whose first half fails, before one that is written. -/
def failedFirstHalf : TransferredWrites :=
  [.written ⟨.tx, 0, 0x3FFFE, 4, 0⟩ rfl
      (.split ⟨0, false, false, true, false⟩ ⟨0, false, false, false, true⟩),
    .written ⟨.tx, 0, 2, 4, 0⟩ rfl (.whole ⟨0, false, false, true, false⟩)]

theorem not_handlers_matchStatuses :
    ¬ ∀ (notified : NotifiedWrites) (transferred : TransferredWrites),
      RxEngMatchesStatuses notified ∧
        TxAppMatchesStatuses transferred := by
  intro isMatched
  have noFirstErrors :=
    (txAppMatchesStatuses_iff failedFirstHalf).1
      (isMatched [] failedFirstHalf).2
  exact
    absurd (noFirstErrors _ List.mem_cons_self) (by decide)

end TcpOffload
