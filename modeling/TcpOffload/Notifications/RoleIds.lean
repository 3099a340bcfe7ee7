import TcpOffload.Notifications
import TcpOffload.SessionLookup.Calls

/-!
# The role a notification is delivered with

A session keeps its owner until the reverse table releases it: its ID is on
no other way into the table.  Thus a role that is looked up is the one that
owned the session when the notification was made, as long as no release
overtakes a notification.  A reset that refuses an active open does overtake
its notification.
-/

namespace TcpOffload

open Custody Guarded Tagged

/-! ## The owner of a session -/

/-- The owner that the reverse table will have, over what it has. -/
def ownerAfter
    (id : TcpSessionID) (owner : Option NetAXISDest)
    (reqs : List SlookupToRevTableUpdReq) : Option NetAXISDest :=
  reqs.foldl
    (fun owner req => if req.key = id then some req.roleValue else owner)
    owner

theorem ownerAfter_cases {id : TcpSessionID}
    {owner : Option NetAXISDest} {reqs : List SlookupToRevTableUpdReq}
    {role : NetAXISDest} (isOwner : ownerAfter id owner reqs = some role) :
    owner = some role ∨ ∃ req ∈ reqs, req.key = id := by
  induction reqs generalizing owner with
  | nil =>
      exact Or.inl isOwner
  | cons req later inductionHypothesis =>
      by_cases isKey : req.key = id
      · exact Or.inr ⟨req, List.mem_cons_self, isKey⟩
      · rw [ownerAfter, List.foldl_cons, if_neg isKey] at isOwner
        rcases inductionHypothesis isOwner with before | ⟨other, member, same⟩
        · exact Or.inl before
        · exact Or.inr ⟨other, List.mem_cons_of_mem req member, same⟩

namespace SlookupState

/-- What the reverse table has for the ID. -/
def entryOwner
    (state : SlookupState) (id : TcpSessionID) : Option NetAXISDest :=
  if state.validTuple id then
    some (state.slookupRevTable id).roleId
  else
    none

theorem ownerOf_eq (state : SlookupState) (id : TcpSessionID) :
    state.ownerOf id =
      ownerAfter id (state.entryOwner id) state.reverseTableInsertReqs :=
  rfl

/-- With no insertion on its way the table answers with the owner. -/
theorem tdestOf_eq {state : SlookupState} {id : TcpSessionID}
    {role : NetAXISDest} (allInserted : state.reverseTableInsertReqs = [])
    (isOwner : state.ownerOf id = some role) :
    state.tdestOf id = role := by
  rw [ownerOf_eq, allInserted] at isOwner
  change state.entryOwner id = some role at isOwner
  rw [entryOwner] at isOwner
  rw [tdestOf]
  split at isOwner
  · rename_i valid
    rw [if_pos valid]
    exact Option.some.inj isOwner
  · cases isOwner

/-- The session has the owner, and that is a role. -/
def OwnedBy
    (state : SlookupState) (owner : Option NetAXISDest)
    (id : TcpSessionID) : Prop :=
  ∃ role,
    role ≠ invalidTdest ∧ owner = some role ∧ state.ownerOf id = some role

theorem HasOwner.ownedBy {state : SlookupState} {id : TcpSessionID}
    (hasOwner : state.HasOwner id) :
    state.OwnedBy (state.ownerOf id) id := by
  obtain ⟨role, isRole, isOwner⟩ := hasOwner
  exact ⟨role, isRole, isOwner, isOwner⟩

theorem OwnedBy.keeps {state next : SlookupState}
    {owner : Option NetAXISDest} {id : TcpSessionID}
    (ownedBy : state.OwnedBy owner id)
    (keeps :
      ∀ role, state.ownerOf id = some role →
        next.ownerOf id = some role) :
    next.OwnedBy owner id := by
  obtain ⟨role, isRole, isOwner, owns⟩ := ownedBy
  exact ⟨role, isRole, isOwner, keeps role owns⟩

/-- The table inserts what it will have anyway. -/
theorem ownerOf_inserts {state : SlookupState}
    {req : SlookupToRevTableUpdReq} {later : List SlookupToRevTableUpdReq}
    (queued : state.reverseTableInsertReqs = req :: later)
    (id : TcpSessionID) :
    SlookupState.ownerOf
        { state with
          reverseTableInsertReqs := later
          slookupRevTable :=
            Function.update state.slookupRevTable req.key
              ⟨req.tupleValue, req.roleValue⟩
          validTuple := Function.update state.validTuple req.key true }
        id =
      state.ownerOf id := by
  rw [ownerOf_eq, ownerOf_eq, queued]
  change
    ownerAfter id _ later =
      ownerAfter id
        (if req.key = id then
          some req.roleValue
        else
          state.entryOwner id)
        later
  congr 1
  change
    (if Function.update state.validTuple req.key true id then
        some
          (Function.update state.slookupRevTable req.key
            ⟨req.tupleValue, req.roleValue⟩ id).roleId
      else
        none) =
      _
  by_cases isKey : req.key = id
  · rw [if_pos isKey, ← isKey, Function.update_self, if_pos rfl,
      Function.update_self]
  · rw [if_neg isKey, Function.update_of_ne (Ne.symm isKey),
      Function.update_of_ne (Ne.symm isKey), entryOwner]

/-- The release of another session. -/
theorem ownerOf_release {state : SlookupState}
    {released id : TcpSessionID} (isOther : id ≠ released) :
    (state.release released).1.ownerOf id = state.ownerOf id := by
  rw [CamSystem.release_same]
  simp only [ownerOf_eq, entryOwner, Function.update_of_ne isOther]

end SlookupState

/-- A session with an owner is valid or being inserted; the insertion of a
new session is for another ID. -/
theorem IdSystem.InCustody.isOther_of_inserted {system : IdSystem}
    {rsp : RtlCamToSlookupUpdRsp} {later : List RtlCamToSlookupUpdRsp}
    {id : TcpSessionID} {role : NetAXISDest}
    (inCustody : system.InCustody)
    (inserted : system.slookup.camInsertRsps = rsp :: later)
    (isOwner : system.slookup.ownerOf id = some role) :
    rsp.sessionId ≠ id := by
  intro isId
  have once := inCustody.once id.toNat
  have inserting :
      id.toNat ∈
        system.slookup.camInsertRsps.map fun rsp =>
          rsp.sessionId.toNat := by
    rw [inserted, ← isId]
    exact List.mem_cons_self
  have pending : id.toNat ∈ system.ids .pendingInsert := by
    exact
      List.mem_append_left _ (List.mem_append_right _ inserting)
  have isSession := inCustody.lt_of_mem pending
  rw [if_pos isSession] at once
  rw [SlookupState.ownerOf_eq] at isOwner
  rcases ownerAfter_cases isOwner with valid | ⟨req, member, isKey⟩
  · have notValid :=
      not_mem_of_mem (Nat.le_of_eq once) pending
        (show IdPlace.valid ≠ .pendingInsert by decide)
    rw [SlookupState.entryOwner] at valid
    split at valid
    · rename_i isValid
      apply notValid
      simpa [ids, isSession] using isValid
    · cases valid
  · have queued :
        id.toNat ∈
          system.slookup.reverseTableInsertReqs.map fun req =>
            req.key.toNat := by
      rw [← isKey]
      exact List.mem_map_of_mem member
    have first := List.count_pos_iff.2 inserting
    have second := List.count_pos_iff.2 queued
    have atMost :
        (system.ids .pendingInsert).count id.toNat ≤
          copies system.ids id.toNat :=
      Finset.single_le_sum
        (fun place _ => Nat.zero_le ((system.ids place).count id.toNat))
        (Finset.mem_univ IdPlace.pendingInsert)
    rw [once, ids, List.count_append, List.count_append] at atMost
    omega

namespace SlookupState

theorem ownerOf_slookupReverseTableInterface {state : SlookupState}
    {id : TcpSessionID} (notReleased : state.nextRelease ≠ some id) :
    (slookupReverseTableInterface state).1.ownerOf id =
      state.ownerOf id := by
  rw [slookupReverseTableInterface]
  split
  · rename_i queued
    exact ownerOf_inserts queued id
  · rfl
  · rfl
  · rfl
  · rename_i released later noInsert noTxEng noRxApp noTxApp queued
    have isNext : state.nextRelease = some released := by
      rw [nextRelease, noInsert, noTxEng, noRxApp, noTxApp, queued]
      rfl
    have isOther : id ≠ released := by
      intro isReleased
      rw [isNext, isReleased] at notReleased
      exact notReleased rfl
    exact ownerOf_release isOther
  · rfl

/-- While a role is asked for, no session is released. -/
theorem nextRelease_asked {state : SlookupState}
    (asked : state.rxAppTdestReqs ≠ [] ∨ state.txAppTdestReqs ≠ []) :
    state.nextRelease = none := by
  rw [nextRelease]
  split
  · rename_i noRxApp noTxApp
    rcases asked with someRxApp | someTxApp
    · exact absurd noRxApp someRxApp
    · exact absurd noTxApp someTxApp
  · rfl

end SlookupState

/-- A session keeps its owner in every call that does not release it. -/
theorem IdSystem.InCustody.ownerOf_call {system : IdSystem}
    {id : TcpSessionID} {role : NetAXISDest} (process : SlookupProcess)
    (inCustody : system.InCustody)
    (notReleased :
      process = .slookupReverseTableInterface →
        system.slookup.nextRelease ≠ some id)
    (isOwner : system.slookup.ownerOf id = some role) :
    (process.call system.slookup).1.ownerOf id = some role := by
  by_cases isTable : process = .slookupReverseTableInterface
  · rw [← isOwner, isTable]
    exact
      SlookupState.ownerOf_slookupReverseTableInterface
        (notReleased isTable)
  · have call := process.call_cases system.slookup
    generalize process.call system.slookup = called at call ⊢
    obtain ⟨next, msgs⟩ := called
    cases call with
    | waits =>
        exact isOwner
    | frees _ _ _ written | asks _ _ _ _ written
    | creates _ _ _ _ written | answers _ _ written
    | sendsInsert _ written | sendsDelete _ _ written
    | keeps _ _ written | drops _ _ written =>
        rw [written]
        exact isOwner
    | created _ inserted _ written =>
        have isOther := inCustody.isOther_of_inserted inserted isOwner
        rw [written, SlookupState.ownerOf_eq, ownerAfter,
          List.foldl_append, List.foldl_cons, List.foldl_nil,
          if_neg isOther]
        exact isOwner
    | inserts | tells | releases | ignores =>
        exact absurd rfl isTable

/-! ## The answers of the controller -/

/-- What a call of the controller does for those that ask for a role. -/
inductive TdestCall (state : SlookupState) :
    SlookupState → List SlookupMsg → Prop
  | others {next : SlookupState} {msgs : List SlookupMsg} :
      next.rxAppTdestReqs = state.rxAppTdestReqs →
      next.txAppTdestReqs = state.txAppTdestReqs →
      msgs.filterMap SlookupMsg.toRxAppTdest = [] →
      msgs.filterMap SlookupMsg.toTxAppTdest = [] →
      TdestCall state next msgs
  | rxApp {id : TcpSessionID} {later : List TcpSessionID} :
      state.reverseTableInsertReqs = [] →
      state.rxAppTdestReqs = id :: later →
      TdestCall state { state with rxAppTdestReqs := later }
        [.rxAppTdestRsp (state.tdestOf id)]
  | txApp {id : TcpSessionID} {later : List TcpSessionID} :
      state.reverseTableInsertReqs = [] →
      state.txAppTdestReqs = id :: later →
      TdestCall state { state with txAppTdestReqs := later }
        [.txAppTdestRsp (state.tdestOf id)]

theorem slookupReverseTableInterface_tdest (state : SlookupState) :
    TdestCall state (slookupReverseTableInterface state).1
      (slookupReverseTableInterface state).2 := by
  rw [slookupReverseTableInterface]
  split
  · exact TdestCall.others rfl rfl rfl rfl
  · exact TdestCall.others rfl rfl rfl rfl
  · rename_i id later noInsert _ queued
    exact TdestCall.rxApp noInsert queued
  · rename_i id later noInsert _ _ queued
    exact TdestCall.txApp noInsert queued
  · rw [SlookupState.release]
    split
    · exact TdestCall.others rfl rfl rfl rfl
    · exact TdestCall.others rfl rfl rfl rfl
  · exact TdestCall.others rfl rfl rfl rfl

theorem noTdest_rspTo (source : SlookupSource) (rsp : SessionLookupRsp) :
    [rspTo source rsp].filterMap SlookupMsg.toRxAppTdest = [] ∧
      [rspTo source rsp].filterMap SlookupMsg.toTxAppTdest = [] := by
  cases source <;> exact ⟨rfl, rfl⟩

theorem SlookupProcess.call_tdest (state : SlookupState)
    (process : SlookupProcess) :
    TdestCall state (process.call state).1 (process.call state).2 := by
  by_cases isTable : process = .slookupReverseTableInterface
  · rw [isTable]
    exact slookupReverseTableInterface_tdest state
  · have call := process.call_cases state
    generalize process.call state = called at call ⊢
    obtain ⟨next, msgs⟩ := called
    cases call with
    | waits =>
        exact TdestCall.others rfl rfl rfl rfl
    | frees _ _ _ written | asks _ _ _ _ written
    | creates _ _ _ _ written | sendsInsert _ written
    | sendsDelete _ _ written | keeps _ _ written
    | drops _ _ written =>
        rw [written]
        exact TdestCall.others rfl rfl rfl rfl
    | answers _ _ written | created _ _ _ written =>
        rw [written]
        exact
          TdestCall.others rfl rfl (noTdest_rspTo _ _).1
            (noTdest_rspTo _ _).2
    | inserts | tells | releases | ignores =>
        exact absurd rfl isTable

/-! ## One role is asked for at a time -/

/-- Whether the role for the session is asked for, and how far the question
has come. -/
inductive RolePhase
    (state : SlookupState) (owner : Option NetAXISDest)
    (id : TcpSessionID) :
    Bool → List TcpSessionID → List NetAXISDest → Prop
  | idle : RolePhase state owner id false [] []
  | asked :
      state.OwnedBy owner id → RolePhase state owner id true [id] []
  | answered {dest : NetAXISDest} :
      dest ≠ invalidTdest → owner = some dest →
      RolePhase state owner id true [] [dest]

namespace RolePhase

variable {state next : SlookupState} {owner : Option NetAXISDest}
variable {id : TcpSessionID} {waits : Bool}
variable {reqs : List TcpSessionID} {rsps : List NetAXISDest}

theorem map (phase : RolePhase state owner id waits reqs rsps)
    (keeps :
      reqs ≠ [] →
        ∀ id role, state.ownerOf id = some role →
          next.ownerOf id = some role) :
    RolePhase next owner id waits reqs rsps := by
  cases phase with
  | idle =>
      exact idle
  | asked ownedBy =>
      exact asked (ownedBy.keeps (keeps (List.cons_ne_nil _ _) id))
  | answered isRole isOwner =>
      exact answered isRole isOwner

/-- The table answers. -/
theorem serve {served : TcpSessionID} {later : List TcpSessionID}
    (phase : RolePhase state owner id waits (served :: later) rsps)
    (allInserted : state.reverseTableInsertReqs = []) :
    RolePhase next owner id waits later
      (rsps ++ [state.tdestOf served]) := by
  cases phase with
  | asked ownedBy =>
      obtain ⟨role, isRole, isOwner, owns⟩ := ownedBy
      rw [SlookupState.tdestOf_eq allInserted owns]
      exact answered isRole isOwner

theorem of_idle (phase : RolePhase state owner id false reqs rsps) :
    reqs = [] ∧ rsps = [] := by
  cases phase with
  | idle =>
      exact ⟨rfl, rfl⟩

theorem of_answer {dest : NetAXISDest} {later : List NetAXISDest}
    (phase : RolePhase state owner id waits reqs (dest :: later)) :
    dest ≠ invalidTdest ∧ owner = some dest ∧ reqs = [] ∧ later = [] := by
  cases phase with
  | answered isRole isOwner =>
      exact ⟨isRole, isOwner, rfl, rfl⟩

end RolePhase

/-! ## Sessions that the retransmission timer gives up -/

/-- The sessions that a message of the retransmission timer notifies of. -/
def RetransmitTimerMsg.notifies :
    RetransmitTimerMsg → Option TcpSessionID
  | .rxAppNotify notification => some notification.sessionId
  | .txAppNotify rsp => some rsp.sessionId
  | _ => none

/-- The timer notifies of the sessions it releases. -/
theorem retransmitTimer_notifies
    (times : TimerTimes) (full : Bool) (state : RetransmitTimerState) :
    (retransmitTimer times full state).2.filterMap
        RetransmitTimerMsg.notifies =
      (retransmitTimer times full state).2.filterMap
        RetransmitTimerMsg.toSttable := by
  have ticked (entry : RetransmitTimerEntry) (id : TcpSessionID) :
      (entry.tick full id).2.filterMap RetransmitTimerMsg.notifies =
        (entry.tick full id).2.filterMap
          RetransmitTimerMsg.toSttable := by
    rw [RetransmitTimerEntry.tick, RetransmitTimerEntry.giveUp]
    repeat' split
    all_goals rfl
  have swept :
      (state.setOrSweep times full).2.filterMap
          RetransmitTimerMsg.notifies =
        (state.setOrSweep times full).2.filterMap
          RetransmitTimerMsg.toSttable := by
    rw [RetransmitTimerState.setOrSweep]
    split
    · rfl
    · exact ticked _ _
  rw [retransmitTimer]
  split
  · split
    · rfl
    · exact swept
  · rfl
  · exact swept

/-! ## The interfaces of the application -/

/-- What a call of `RxEngNotificaionHandler` does with notifications. -/
inductive NotificaionCall (state : NotificaionHandlerState) :
    NotificaionHandlerState → List AppNotificationNoTDEST → Prop
  | waits : NotificaionCall state state []
  | forwards {next : NotificaionHandlerState}
      {notification : AppNotificationNoTDEST}
      {later : List AppNotificationNoTDEST} :
      state.fsmState = .readNotify →
      state.notificationCache = notification :: later →
      next.fsmState = .readNotify →
      next.notificationCache = later →
      NotificaionCall state next [notification]
  | holds {next : NotificaionHandlerState}
      {notification : AppNotificationNoTDEST}
      {later : List AppNotificationNoTDEST} :
      state.fsmState = .readNotify →
      state.notificationCache = notification :: later →
      next.fsmState = .readStatus1 →
      next.appNotificaionReg1 = notification →
      next.notificationCache = later →
      NotificaionCall state next []
  | holdsOn {next : NotificaionHandlerState} :
      state.fsmState = .readStatus1 →
      next.fsmState = .readStatus2 →
      next.appNotificaionReg2 = state.appNotificaionReg1 →
      next.notificationCache = state.notificationCache →
      NotificaionCall state next []
  | decides {next : NotificaionHandlerState}
      {notifications : List AppNotificationNoTDEST} :
      state.fsmState ≠ .readNotify →
      next.fsmState = .readNotify →
      next.notificationCache = state.notificationCache →
      (∀ notification ∈ notifications,
        notification =
          if state.fsmState = .readStatus2 then
            state.appNotificaionReg2
          else
            state.appNotificaionReg1) →
      NotificaionCall state next notifications

theorem rxEngNotificaionHandler_call (state : NotificaionHandlerState) :
    NotificaionCall state (rxEngNotificaionHandler state).1
      (rxEngNotificaionHandler state).2 := by
  rw [rxEngNotificaionHandler]
  split
  next isIdle =>
    split
    · exact NotificaionCall.waits
    next notification later queued =>
      dsimp only
      split
      · exact NotificaionCall.holds isIdle queued rfl rfl rfl
      · exact NotificaionCall.forwards isIdle queued isIdle rfl
  next isFirst =>
    have notIdle : state.fsmState ≠ .readNotify := by
      rw [isFirst]
      decide
    split
    next flag laterFlags status later =>
      dsimp only
      split
      · split
        · exact NotificaionCall.holdsOn isFirst rfl rfl rfl
        · refine NotificaionCall.decides notIdle rfl rfl ?_
          intro notification member
          rw [List.mem_singleton.1 member, isFirst]
          rfl
      · refine NotificaionCall.decides notIdle rfl rfl ?_
        intro notification member
        cases member
    · exact NotificaionCall.waits
  next isSecond =>
    have notIdle : state.fsmState ≠ .readNotify := by
      rw [isSecond]
      decide
    split
    · exact NotificaionCall.waits
    next status later =>
      refine NotificaionCall.decides notIdle rfl rfl ?_
      intro notification member
      rw [isSecond, if_pos rfl]
      split at member
      · exact List.mem_singleton.1 member
      · cases member

/-- What a call of `NetAppNotificationTdestHandler` does. -/
inductive TdestHandlerCall (state : TdestHandlerState) :
    TdestHandlerState → List TdestHandlerMsg → Prop
  | waits : TdestHandlerCall state state []
  | asks {notification : AppNotificationNoTDEST}
      {later : List AppNotificationNoTDEST} :
      state.tdestReqLock = false →
      state.notifications = notification :: later →
      TdestHandlerCall state
        { state with
          notifyReg := notification
          notifications := later
          tdestReqLock := true }
        [.tdestReq notification.sessionId]
  | delivers {dest : NetAXISDest} {later : List NetAXISDest} :
      state.tdestReqLock = true →
      state.tdestRsps = dest :: later →
      TdestHandlerCall state
        { state with tdestRsps := later, tdestReqLock := false }
        [.netAppNotification state.notifyReg dest]

theorem netAppNotificationTdestHandler_call (state : TdestHandlerState) :
    TdestHandlerCall state (netAppNotificationTdestHandler state).1
      (netAppNotificationTdestHandler state).2 := by
  rw [netAppNotificationTdestHandler]
  split
  next notification later _ notLocked queued =>
    exact TdestHandlerCall.asks notLocked queued
  next dest later locked answered =>
    exact TdestHandlerCall.delivers locked answered
  · exact TdestHandlerCall.waits

def ConnectionHandlerMsg.tdestReq :
    ConnectionHandlerMsg → Option TcpSessionID
  | .checkTdestReq id => some id
  | _ => none

namespace ConnectionHandlerState

/-- The session whose role the handler asks for. -/
def askedId (state : ConnectionHandlerState) : TcpSessionID :=
  if state.fsmState = .waitForTdestActiveOpen then
    state.openSessionReg.sessionId
  else
    state.passiveOpenSessionReg.sessionId

/-- No notification is read. -/
structure SameNotifications
    (state next : ConnectionHandlerState) : Prop where
  rxEng : next.rxEngNotifications = state.rxEngNotifications
  rtimer : next.rtimerNotifications = state.rtimerNotifications
  newClients : next.newClientNotifications = state.newClientNotifications

end ConnectionHandlerState

/-- What a call of `TxAppConnectionHandler` does with notifications. -/
inductive ConnNotifyCall (state : ConnectionHandlerState) :
    ConnectionHandlerState → List ConnectionHandlerMsg → Prop
  | others {next : ConnectionHandlerState}
      {msgs : List ConnectionHandlerMsg} :
      state.SameNotifications next →
      next.waitsForTdest = state.waitsForTdest →
      next.askedId = state.askedId →
      next.checkTdestRsps = state.checkTdestRsps →
      msgs.filterMap ConnectionHandlerMsg.tdestReq = [] →
      (state.waitsForTdest = true →
        msgs.filterMap ConnectionHandlerMsg.dest = []) →
      ConnNotifyCall state next msgs
  | asks {next : ConnectionHandlerState}
      {msgs : List ConnectionHandlerMsg} {id : TcpSessionID} :
      state.waitsForTdest = false →
      ((∃ rsp later,
          state.rxEngNotifications = rsp :: later ∧
            rsp.sessionId = id ∧
            { state with rxEngNotifications := later }.SameNotifications
              next) ∨
        (∃ rsp later,
          state.rtimerNotifications = rsp :: later ∧
            rsp.sessionId = id ∧
            { state with rtimerNotifications := later }.SameNotifications
              next) ∨
        ∃ client later,
          state.newClientNotifications = client :: later ∧
            client.sessionId = id ∧
            { state with newClientNotifications :=
                later }.SameNotifications next) →
      next.waitsForTdest = true →
      next.askedId = id →
      next.checkTdestRsps = state.checkTdestRsps →
      msgs.filterMap ConnectionHandlerMsg.tdestReq = [id] →
      ConnNotifyCall state next msgs
  | delivers {next : ConnectionHandlerState}
      {msgs : List ConnectionHandlerMsg} {dest : NetAXISDest}
      {later : List NetAXISDest} :
      state.SameNotifications next →
      state.waitsForTdest = true →
      state.checkTdestRsps = dest :: later →
      next.waitsForTdest = false →
      next.checkTdestRsps = later →
      msgs.filterMap ConnectionHandlerMsg.tdestReq = [] →
      msgs.filterMap ConnectionHandlerMsg.dest = [dest] →
      ConnNotifyCall state next msgs

theorem takeIdle_notifies {state : ConnectionHandlerState}
    (isIdle : state.fsmState = .idle) :
    ConnNotifyCall state state.takeIdle.1 state.takeIdle.2 := by
  have notWaits : state.waitsForTdest = false := by
    rw [ConnectionHandlerState.waitsForTdest, isIdle]
    rfl
  have noDest {msgs : List ConnectionHandlerMsg}
      (waits : state.waitsForTdest = true) :
      msgs.filterMap ConnectionHandlerMsg.dest = [] := by
    rw [notWaits] at waits
    cases waits
  rw [ConnectionHandlerState.takeIdle]
  split
  next rsp later _ =>
    refine
      ConnNotifyCall.others ⟨rfl, rfl, rfl⟩ rfl rfl rfl ?_ noDest
    dsimp only
    split <;> rfl
  next rsp later _ queued =>
    exact
      ConnNotifyCall.asks notWaits
        (Or.inl ⟨rsp, later, queued, rfl, rfl, rfl, rfl⟩) rfl rfl rfl rfl
  next rsp later _ _ queued =>
    exact
      ConnNotifyCall.asks notWaits
        (Or.inr (Or.inl ⟨rsp, later, queued, rfl, rfl, rfl, rfl⟩)) rfl
        rfl rfl rfl
  next client later _ _ _ queued =>
    exact
      ConnNotifyCall.asks notWaits
        (Or.inr (Or.inr ⟨client, later, queued, rfl, rfl, rfl, rfl⟩)) rfl
        rfl rfl rfl
  next id later _ _ _ _ _ =>
    refine
      ConnNotifyCall.others ⟨rfl, rfl, rfl⟩ notWaits.symm ?_ rfl rfl
        noDest
    rw [ConnectionHandlerState.askedId, ConnectionHandlerState.askedId,
      isIdle]
    rfl
  next =>
    exact
      ConnNotifyCall.others ⟨rfl, rfl, rfl⟩ rfl rfl rfl rfl noDest

theorem takeNext_notifies (state : ConnectionHandlerState) :
    ConnNotifyCall state state.takeNext.1 state.takeNext.2 := by
  rw [ConnectionHandlerState.takeNext]
  split
  next isIdle =>
    exact takeIdle_notifies isIdle
  next isActive =>
    have waits : state.waitsForTdest = true := by
      rw [ConnectionHandlerState.waitsForTdest, isActive]
      rfl
    rw [ConnectionHandlerState.takeTdestActiveOpen]
    split
    next dest later answered =>
      exact
        ConnNotifyCall.delivers ⟨rfl, rfl, rfl⟩ waits answered rfl rfl rfl
          rfl
    next =>
      exact
        ConnNotifyCall.others ⟨rfl, rfl, rfl⟩ rfl rfl rfl rfl fun _ => rfl
  next isPassive =>
    have waits : state.waitsForTdest = true := by
      rw [ConnectionHandlerState.waitsForTdest, isPassive]
      rfl
    rw [ConnectionHandlerState.takeTdestPassiveOpen]
    split
    next dest later answered =>
      exact
        ConnNotifyCall.delivers ⟨rfl, rfl, rfl⟩ waits answered rfl rfl rfl
          rfl
    next =>
      exact
        ConnNotifyCall.others ⟨rfl, rfl, rfl⟩ rfl rfl rfl rfl fun _ => rfl
  next isClose =>
    have notWaits : state.waitsForTdest = false := by
      rw [ConnectionHandlerState.waitsForTdest, isClose]
      rfl
    rw [ConnectionHandlerState.takeCloseConn]
    split
    next rsp later _ =>
      refine
        ConnNotifyCall.others ⟨rfl, rfl, rfl⟩ notWaits.symm ?_ rfl ?_ ?_
      · rw [ConnectionHandlerState.askedId,
          ConnectionHandlerState.askedId, isClose]
        rfl
      · dsimp only
        split <;> rfl
      · intro waits
        rw [notWaits] at waits
        cases waits
    next =>
      exact
        ConnNotifyCall.others ⟨rfl, rfl, rfl⟩ rfl rfl rfl rfl fun _ => rfl

/-- The first part of a call does not touch what the second part reads. -/
theorem ConnNotifyCall.opened {state next : ConnectionHandlerState}
    {openReq : AppOpenConnReq} {lock : Bool}
    {openReqs : List AppOpenConnReq} {ports : List TcpPortNumber}
    {first msgs : List ConnectionHandlerMsg}
    (call :
      ConnNotifyCall
        { state with
          appOpenReqReg := openReq
          waitForFreePortLock := lock
          openConnReqs := openReqs
          ptableRsps := ports }
        next msgs)
    (noReq : first.filterMap ConnectionHandlerMsg.tdestReq = [])
    (noDest : first.filterMap ConnectionHandlerMsg.dest = []) :
    ConnNotifyCall state next (first ++ msgs) := by
  cases call with
  | others same waits asked rsps reqs dests =>
      refine
        ConnNotifyCall.others ⟨same.1, same.2, same.3⟩ waits asked rsps
          ?_ ?_
      · rw [List.filterMap_append, noReq, reqs]
        rfl
      · intro waiting
        rw [List.filterMap_append, noDest, dests waiting]
        rfl
  | asks notWaits read waits asked rsps reqs =>
      refine ConnNotifyCall.asks notWaits ?_ waits asked rsps ?_
      · rcases read with
          ⟨rsp, later, queued, isId, same⟩ |
            ⟨rsp, later, queued, isId, same⟩ |
            ⟨client, later, queued, isId, same⟩
        · exact
            Or.inl ⟨rsp, later, queued, isId, same.1, same.2, same.3⟩
        · exact
            Or.inr
              (Or.inl
                ⟨rsp, later, queued, isId, same.1, same.2, same.3⟩)
        · exact
            Or.inr
              (Or.inr
                ⟨client, later, queued, isId, same.1, same.2, same.3⟩)
      · rw [List.filterMap_append, noReq, reqs]
        rfl
  | delivers same waits answered notWaits rsps reqs dests =>
      refine
        ConnNotifyCall.delivers ⟨same.1, same.2, same.3⟩ waits answered
          notWaits rsps ?_ ?_
      · rw [List.filterMap_append, noReq, reqs]
        rfl
      · rw [List.filterMap_append, noDest, dests]
        rfl

theorem txAppConnectionHandler_notifies (state : ConnectionHandlerState) :
    ConnNotifyCall state (txAppConnectionHandler state).1
      (txAppConnectionHandler state).2 := by
  have opened :
      ∀ next msgs,
        ConnNotifyCall state.requestFreePort.1 next msgs →
          ConnNotifyCall state next (state.requestFreePort.2 ++ msgs) := by
    intro next msgs call
    rw [ConnectionHandlerState.requestFreePort] at call ⊢
    split at call
    · exact call.opened rfl rfl
    · exact call.opened rfl rfl
    · exact call.opened rfl rfl
  exact opened _ _ (takeNext_notifies state.requestFreePort.1)

/-! ## Requests for the controller -/

def TimerInput.rxAppTdest : TimerInput → Option TcpSessionID
  | .rxAppTdestReq id => some id
  | _ => none

def TimerInput.txAppTdest : TimerInput → Option TcpSessionID
  | .txAppTdestReq id => some id
  | _ => none

/-- What comes in asks for the roles of the sessions, and no session gets
another owner. -/
structure TimerSystem.Received
    (system next : TimerSystem) (rxApp txApp : List TcpSessionID) :
    Prop where
  inCustody :
    system.lookup.ids.InCustody → next.lookup.ids.InCustody
  owners : ∀ id, next.slookup.ownerOf id = system.slookup.ownerOf id
  rxAppReqs :
    next.slookup.rxAppTdestReqs = system.slookup.rxAppTdestReqs ++ rxApp
  txAppReqs :
    next.slookup.txAppTdestReqs = system.slookup.txAppTdestReqs ++ txApp

theorem TimerSystem.received_receive
    (system : TimerSystem) (input : TimerInput) :
    system.Received (system.receive input) input.rxAppTdest.toList
      input.txAppTdest.toList := by
  have looked (asked : SlookupInput)
      (inCustody : system.lookup.ids.InCustody) :
      (system.withSlookup
        (system.slookup.receive asked)).lookup.ids.InCustody :=
    IdSystem.inCustody_step inCustody (IdStep.input asked)
  have none (reqs : List TcpSessionID) : reqs = reqs ++ [] :=
    (List.append_nil reqs).symm
  cases input with
  | rxEngLookup | txAppLookup | txEngRevTableReq =>
      exact ⟨looked _, fun _ => rfl, none _, none _⟩
  | rxAppTdestReq =>
      exact ⟨looked _, fun _ => rfl, rfl, none _⟩
  | txAppTdestReq =>
      exact ⟨looked _, fun _ => rfl, none _, rfl⟩
  | segment | rxSarRsp | txSarRsp | txAppReq | txAppLup | setRtimer =>
      exact ⟨id, fun _ => rfl, none _, none _⟩

theorem TimerSystem.received_foldl
    (system : TimerSystem) (inputs : List TimerInput) :
    system.Received (inputs.foldl TimerSystem.receive system)
      (inputs.filterMap TimerInput.rxAppTdest)
      (inputs.filterMap TimerInput.txAppTdest) := by
  induction inputs generalizing system with
  | nil =>
      exact
        ⟨id, fun _ => rfl, (List.append_nil _).symm,
          (List.append_nil _).symm⟩
  | cons input later inductionHypothesis =>
      have first := system.received_receive input
      have rest := inductionHypothesis (system.receive input)
      constructor
      · exact fun inCustody => rest.inCustody (first.inCustody inCustody)
      · exact fun id => (rest.owners id).trans (first.owners id)
      · rw [List.foldl_cons, rest.rxAppReqs, first.rxAppReqs,
          List.append_assoc]
        cases isAsked : input.rxAppTdest <;>
          simp [isAsked]
      · rw [List.foldl_cons, rest.txAppReqs, first.txAppReqs,
          List.append_assoc]
        cases isAsked : input.txAppTdest <;>
          simp [isAsked]

/-! ## The invariant -/

namespace NotifySystem

/-- Every notification that waits has its owner, and each interface asks for
one role at a time. -/
structure AllOwned (system : NotifySystem) : Prop where
  inCustody : system.timers.lookup.ids.InCustody
  waiting :
    ∀ owner id, system.Waits owner id → system.slookup.OwnedBy owner id
  tdest :
    RolePhase system.slookup system.tdestOwner
      system.tdestHandler.notifyReg.sessionId
      system.tdestHandler.tdestReqLock system.slookup.rxAppTdestReqs
      system.tdestHandler.tdestRsps
  conn :
    RolePhase system.slookup system.connOwner system.connHandler.askedId
      system.connHandler.waitsForTdest system.slookup.txAppTdestReqs
      system.connHandler.checkTdestRsps

/-- What the timers and the interfaces do is no notification that waits. -/
theorem Waits.of_same {system : NotifySystem} {timers : TimerSystem}
    {tdestHandler : TdestHandlerState}
    {connHandler : ConnectionHandlerState}
    {tdestOwner connOwner owner : Option NetAXISDest} {id : TcpSessionID}
    (waits :
      Waits
        { system with
          timers := timers
          tdestHandler := tdestHandler
          connHandler := connHandler
          tdestOwner := tdestOwner
          connOwner := connOwner }
        owner id) :
    system.Waits owner id := by
  cases waits with
  | cached member =>
      exact Waits.cached member
  | reg1 isFirst =>
      exact Waits.reg1 isFirst
  | reg2 isSecond =>
      exact Waits.reg2 isSecond
  | rxEng member =>
      exact Waits.rxEng member
  | rtimer member =>
      exact Waits.rtimer member
  | merged member =>
      exact Waits.merged member
  | openConn member =>
      exact Waits.openConn member
  | openFailure member =>
      exact Waits.openFailure member
  | newClient member =>
      exact Waits.newClient member

/-! ### The modules that notify -/

theorem mem_owned {Msg : Type} {state : SlookupState}
    {idOf : Msg → TcpSessionID} {msgs : List Msg}
    {owner : Option NetAXISDest} {msg : Msg}
    (member : (owner, msg) ∈ state.owned idOf msgs) :
    owner = state.ownerOf (idOf msg) ∧ msg ∈ msgs := by
  obtain ⟨sent, isSent, same⟩ := List.mem_map.1 member
  obtain ⟨isOwner, isMsg⟩ := Prod.mk.inj same
  rw [← isOwner, ← isMsg]
  exact ⟨rfl, isSent⟩

/-- A new notification has its owner. -/
theorem ownedBy_new {Msg Sent : Type} {state : SlookupState}
    {notifies : Msg → Option TcpSessionID} {toSent : Msg → Option Sent}
    {idOf : Sent → TcpSessionID} {msgs : List Msg}
    {owner : Option NetAXISDest} {sent : Sent}
    (isNotified :
      ∀ msg sent, toSent msg = some sent →
        notifies msg = some (idOf sent))
    (hasOwner : ∀ id ∈ msgs.filterMap notifies, state.HasOwner id)
    (member : (owner, sent) ∈ state.owned idOf (msgs.filterMap toSent)) :
    state.OwnedBy owner (idOf sent) := by
  obtain ⟨isOwner, isSent⟩ := mem_owned member
  obtain ⟨msg, inMsgs, isMsg⟩ := List.mem_filterMap.1 isSent
  have notified : idOf sent ∈ msgs.filterMap notifies :=
    List.mem_filterMap.2 ⟨msg, inMsgs, isNotified msg sent isMsg⟩
  rw [isOwner]
  exact (hasOwner _ notified).ownedBy

variable {times : TimerTimes} {system : NotifySystem}

theorem allOwned_rxEngTcpFsm (allOwned : system.AllOwned)
    (hasOwner :
      ∀ id ∈
          (rxEngTcpFsm system.timers.rxEng).2.filterMap
            RxEngMsg.notifies,
        system.slookup.HasOwner id) :
    (system.afterTimers times system.timers.callRxEng
      .rxEngTcpFsm).AllOwned where
  inCustody := allOwned.inCustody
  tdest := allOwned.tdest
  conn := allOwned.conn
  waiting := by
    have newOne {Sent : Type} {toSent : RxEngMsg → Option Sent}
        {idOf : Sent → TcpSessionID} {owner : Option NetAXISDest}
        {sent : Sent}
        (isNotified :
          ∀ msg sent, toSent msg = some sent →
            msg.notifies = some (idOf sent))
        (member :
          (owner, sent) ∈
            system.slookup.owned idOf
              ((rxEngTcpFsm system.timers.rxEng).2.filterMap toSent)) :
        system.slookup.OwnedBy owner (idOf sent) :=
      ownedBy_new isNotified hasOwner member
    intro owner id waits
    cases waits with
    | cached member =>
        rcases List.mem_append.1 member with before | isNew
        · exact allOwned.waiting _ _ (Waits.cached before)
        · refine newOne ?_ isNew
          intro msg sent isMsg
          cases msg <;> cases isMsg
          rfl
    | openConn member =>
        rcases List.mem_append.1 member with before | isNew
        · exact allOwned.waiting _ _ (Waits.openConn before)
        · refine newOne ?_ isNew
          intro msg sent isMsg
          cases msg <;> cases isMsg
          rfl
    | newClient member =>
        rcases List.mem_append.1 member with before | isNew
        · exact allOwned.waiting _ _ (Waits.newClient before)
        · refine newOne ?_ isNew
          intro msg sent isMsg
          cases msg <;> cases isMsg
          rfl
    | reg1 isFirst =>
        exact allOwned.waiting _ _ (Waits.reg1 isFirst)
    | reg2 isSecond =>
        exact allOwned.waiting _ _ (Waits.reg2 isSecond)
    | rxEng member =>
        exact allOwned.waiting _ _ (Waits.rxEng member)
    | rtimer member =>
        exact allOwned.waiting _ _ (Waits.rtimer member)
    | merged member =>
        exact allOwned.waiting _ _ (Waits.merged member)
    | openFailure member =>
        exact allOwned.waiting _ _ (Waits.openFailure member)

theorem allOwned_retransmitTimer (full : Bool)
    (allOwned : system.AllOwned)
    (hasOwner :
      ∀ id ∈ system.timers.fedRtimer.givesUp full,
        system.slookup.HasOwner id) :
    (system.afterTimers times (system.timers.callRtimer times full)
      (.retransmitTimer full)).AllOwned where
  inCustody := allOwned.inCustody
  tdest := allOwned.tdest
  conn := allOwned.conn
  waiting := by
    have notified :
        ∀ id ∈
            (retransmitTimer times full
              system.timers.fedRtimer).2.filterMap
              RetransmitTimerMsg.notifies,
          system.slookup.HasOwner id := by
      intro id member
      rw [retransmitTimer_notifies] at member
      exact hasOwner id (retransmitTimer_releases member).1
    intro owner id waits
    cases waits with
    | rtimer member =>
        rcases List.mem_append.1 member with before | isNew
        · exact allOwned.waiting _ _ (Waits.rtimer before)
        · refine ownedBy_new ?_ notified isNew
          intro msg sent isMsg
          cases msg <;> cases isMsg
          rfl
    | openFailure member =>
        rcases List.mem_append.1 member with before | isNew
        · exact allOwned.waiting _ _ (Waits.openFailure before)
        · refine ownedBy_new ?_ notified isNew
          intro msg sent isMsg
          cases msg <;> cases isMsg
          rfl
    | cached member =>
        exact allOwned.waiting _ _ (Waits.cached member)
    | reg1 isFirst =>
        exact allOwned.waiting _ _ (Waits.reg1 isFirst)
    | reg2 isSecond =>
        exact allOwned.waiting _ _ (Waits.reg2 isSecond)
    | rxEng member =>
        exact allOwned.waiting _ _ (Waits.rxEng member)
    | merged member =>
        exact allOwned.waiting _ _ (Waits.merged member)
    | openConn member =>
        exact allOwned.waiting _ _ (Waits.openConn member)
    | newClient member =>
        exact allOwned.waiting _ _ (Waits.newClient member)

/-! ### The controller -/

theorem inCustody_fedSlookup {system : TimerSystem}
    (inCustody : system.lookup.ids.InCustody) :
    (system.withSlookup system.fedSlookup).lookup.ids.InCustody := by
  refine inCustody.same ?_ rfl rfl rfl rfl rfl rfl
  funext place
  cases place <;> rfl

theorem allOwned_slookup (process : SlookupProcess)
    (allOwned : system.AllOwned)
    (keepsOwners : KeepsOwners system (.timers (.slookup process))) :
    (system.afterTimers times (system.timers.callSlookup process)
      (.slookup process)).AllOwned := by
  have inCustody := inCustody_fedSlookup allOwned.inCustody
  have keeps (id : TcpSessionID) (role : NetAXISDest)
      (notReleased :
        process = .slookupReverseTableInterface →
          system.timers.fedSlookup.nextRelease ≠ some id)
      (isOwner : system.slookup.ownerOf id = some role) :
      (process.call system.timers.fedSlookup).1.ownerOf id =
        some role :=
    inCustody.ownerOf_call process notReleased isOwner
  have tdest := allOwned.tdest
  have conn := allOwned.conn
  have call := process.call_tdest system.timers.fedSlookup
  have keepsAsked
      (asked :
        system.timers.fedSlookup.rxAppTdestReqs ≠ [] ∨
          system.timers.fedSlookup.txAppTdestReqs ≠ [])
      (id : TcpSessionID) (role : NetAXISDest)
      (isOwner : system.slookup.ownerOf id = some role) :
      (process.call system.timers.fedSlookup).1.ownerOf id =
        some role := by
    apply keeps id role _ isOwner
    intro _ released
    rw [SlookupState.nextRelease_asked asked] at released
    cases released
  have tdestNext :=
    tdest.map fun someReq => keepsAsked (Or.inl someReq)
  have connNext :=
    conn.map fun someReq => keepsAsked (Or.inr someReq)
  constructor
  · exact IdSystem.inCustody_call process inCustody
  · intro owner id waits
    have before : system.Waits owner id := Waits.of_same waits
    apply (allOwned.waiting owner id before).keeps
    intro role isOwner
    apply keeps id role _ isOwner
    intro isTable released
    rw [isTable] at keepsOwners
    exact keepsOwners id released owner before
  · change
      RolePhase (process.call system.timers.fedSlookup).1 _ _ _
        (process.call system.timers.fedSlookup).1.rxAppTdestReqs
        (system.tdestHandler.tdestRsps ++
          (process.call system.timers.fedSlookup).2.filterMap
            SlookupMsg.toRxAppTdest)
    generalize process.call system.timers.fedSlookup = called
      at call tdestNext ⊢
    obtain ⟨next, msgs⟩ := called
    cases call with
    | others sameRxApp _ noRxApp _ =>
        rw [sameRxApp, noRxApp, List.append_nil]
        exact tdestNext
    | rxApp allInserted queued =>
        have asked : system.slookup.rxAppTdestReqs = _ := queued
        rw [asked] at tdest
        exact tdest.serve allInserted
    | txApp =>
        exact List.append_nil _ ▸ tdestNext
  · change
      RolePhase (process.call system.timers.fedSlookup).1 _ _ _
        (process.call system.timers.fedSlookup).1.txAppTdestReqs
        (system.connHandler.checkTdestRsps ++
          (process.call system.timers.fedSlookup).2.filterMap
            SlookupMsg.toTxAppTdest)
    generalize process.call system.timers.fedSlookup = called
      at call connNext ⊢
    obtain ⟨next, msgs⟩ := called
    cases call with
    | others _ sameTxApp _ noTxApp =>
        rw [sameTxApp, noTxApp, List.append_nil]
        exact connNext
    | rxApp =>
        exact List.append_nil _ ▸ connNext
    | txApp allInserted queued =>
        have asked : system.slookup.txAppTdestReqs = _ := queued
        rw [asked] at conn
        exact conn.serve allInserted

/-! ### Every step -/

/-- No session gets another owner. -/
theorem AllOwned.sameOwners {next : NotifySystem}
    (allOwned : system.AllOwned)
    (inCustody : next.timers.lookup.ids.InCustody)
    (owners :
      ∀ id, next.slookup.ownerOf id = system.slookup.ownerOf id)
    (waits : ∀ owner id, next.Waits owner id → system.Waits owner id)
    (tdest :
      RolePhase system.slookup next.tdestOwner
        next.tdestHandler.notifyReg.sessionId
        next.tdestHandler.tdestReqLock next.slookup.rxAppTdestReqs
        next.tdestHandler.tdestRsps)
    (conn :
      RolePhase system.slookup next.connOwner next.connHandler.askedId
        next.connHandler.waitsForTdest next.slookup.txAppTdestReqs
        next.connHandler.checkTdestRsps) :
    next.AllOwned where
  inCustody := inCustody
  waiting := by
    intro owner id waitsNext
    apply (allOwned.waiting owner id (waits owner id waitsNext)).keeps
    intro role isOwner
    rw [owners, isOwner]
  tdest := by
    apply tdest.map
    intro _ id role isOwner
    rw [owners, isOwner]
  conn := by
    apply conn.map
    intro _ id role isOwner
    rw [owners, isOwner]

theorem allOwned_timers {action : TimerAction} {next : TimerSystem}
    (allOwned : system.AllOwned)
    (keepsOwners : KeepsOwners system (.timers action))
    (stepped : TimerStep times system.timers action next)
    (isOpen : action.isOpen = true) :
    (system.afterTimers times next action).AllOwned := by
  have same {later : TimerSystem} {tdestHandler : TdestHandlerState}
      {connHandler : ConnectionHandlerState}
      (owner : Option NetAXISDest) (id : TcpSessionID)
      (waits :
        Waits
          { system with
            timers := later
            tdestHandler := tdestHandler
            connHandler := connHandler }
          owner id) :
      system.Waits owner id :=
    Waits.of_same waits
  cases stepped with
  | rxEngTcpFsm =>
      exact allOwned_rxEngTcpFsm allOwned keepsOwners
  | retransmitTimer full =>
      exact allOwned_retransmitTimer full allOwned keepsOwners
  | slookup process =>
      exact allOwned_slookup process allOwned keepsOwners
  | stateTable =>
      exact
        allOwned.sameOwners allOwned.inCustody (fun _ => rfl) same
          allOwned.tdest allOwned.conn
  | closeTimer | axiStreamMerger =>
      exact
        allOwned.sameOwners allOwned.inCustody (fun _ => rfl) same
          allOwned.tdest allOwned.conn
  | camLookup camStep =>
      have inCustody :=
        CamSystem.inCustody_step allOwned.inCustody camStep
      cases camStep
      exact
        allOwned.sameOwners inCustody (fun _ => rfl) same allOwned.tdest
          allOwned.conn
  | camUpdate camStep =>
      have inCustody :=
        CamSystem.inCustody_step allOwned.inCustody camStep
      cases camStep
      exact
        allOwned.sameOwners inCustody (fun _ => rfl) same allOwned.tdest
          allOwned.conn
  | input input =>
      have received := system.timers.received_receive input
      have noRxApp : input.rxAppTdest.toList = [] := by
        cases input <;> first | rfl | cases isOpen
      have noTxApp : input.txAppTdest.toList = [] := by
        cases input <;> first | rfl | cases isOpen
      have rxAppReqs := received.rxAppReqs
      have txAppReqs := received.txAppReqs
      rw [noRxApp, List.append_nil] at rxAppReqs
      rw [noTxApp, List.append_nil] at txAppReqs
      refine
        allOwned.sameOwners (received.inCustody allOwned.inCustody)
          received.owners same ?_ ?_
      · change
          RolePhase _ _ _ _
            (system.timers.receive input).slookup.rxAppTdestReqs _
        rw [rxAppReqs]
        exact allOwned.tdest
      · change
          RolePhase _ _ _ _
            (system.timers.receive input).slookup.txAppTdestReqs _
        rw [txAppReqs]
        exact allOwned.conn

theorem waits_callDataHandler {owner : Option NetAXISDest}
    {id : TcpSessionID} (waits : system.callDataHandler.Waits owner id) :
    system.Waits owner id := by
  have call := rxEngNotificaionHandler_call system.fedDataHandler
  cases waits with
  | cached member =>
      exact Waits.cached (mem_of_unread member)
  | reg1 isFirst =>
      rw [callDataHandler] at isFirst ⊢
      simp only [] at isFirst ⊢
      generalize rxEngNotificaionHandler system.fedDataHandler = called
        at call isFirst ⊢
      obtain ⟨next, sent⟩ := called
      cases call with
      | waits =>
          change
            system.Waits
              (readTag _ (taken system.cache (erase system.cache))) _
          rw [taken_erase]
          exact Waits.reg1 isFirst
      | forwards _ _ isIdle _ =>
          rw [isIdle] at isFirst
          cases isFirst
      | holds _ queued _ isReg isLater =>
          obtain ⟨before, rest, isCache, isTaken, -⟩ :=
            of_erase_cons queued
          rw [isReg, isLater, isTaken]
          apply Waits.cached
          rw [isCache]
          exact List.mem_cons_self
      | holdsOn _ isSecond _ _ =>
          rw [isSecond] at isFirst
          cases isFirst
      | decides _ isIdle _ _ =>
          rw [isIdle] at isFirst
          cases isFirst
  | reg2 isSecond =>
      rw [callDataHandler] at isSecond ⊢
      simp only [] at isSecond ⊢
      generalize rxEngNotificaionHandler system.fedDataHandler = called
        at call isSecond ⊢
      obtain ⟨next, sent⟩ := called
      cases call with
      | waits =>
          have notFirst : system.dataHandler.fsmState ≠ .readStatus1 := by
            intro isFirst
            have wasSecond :
                system.dataHandler.fsmState = .readStatus2 :=
              isSecond
            rw [isFirst] at wasSecond
            cases wasSecond
          rw [if_neg notFirst]
          exact Waits.reg2 isSecond
      | forwards _ _ isIdle _ =>
          rw [isIdle] at isSecond
          cases isSecond
      | holds _ _ isFirst _ _ =>
          rw [isFirst] at isSecond
          cases isSecond
      | holdsOn isFirst _ isReg _ =>
          have wasFirst : system.dataHandler.fsmState = .readStatus1 :=
            isFirst
          rw [if_pos wasFirst, isReg]
          exact Waits.reg1 wasFirst
      | decides _ isIdle _ _ =>
          rw [isIdle] at isSecond
          cases isSecond
  | rxEng member =>
      rcases List.mem_append.1 member with before | isNew
      · exact Waits.rxEng before
      · obtain ⟨notification, isSent, same⟩ := List.mem_map.1 isNew
        obtain ⟨rfl, rfl⟩ := Prod.mk.inj same
        generalize rxEngNotificaionHandler system.fedDataHandler = called
          at call isSent ⊢
        obtain ⟨next, sent⟩ := called
        cases call with
        | waits | holds | holdsOn =>
            cases isSent
        | forwards wasIdle queued _ isLater =>
            have isIdle : system.dataHandler.fsmState = .readNotify :=
              wasIdle
            obtain ⟨before, rest, isCache, isTaken, -⟩ :=
              of_erase_cons queued
            rw [List.mem_singleton.1 isSent, isLater, isTaken, isIdle]
            apply Waits.cached
            rw [isCache]
            exact List.mem_cons_self
        | decides notIdle _ sameCache isReg =>
            have isHeld := isReg notification isSent
            rw [isHeld, sameCache]
            change
              system.Waits
                (if system.dataHandler.fsmState = .readStatus2 then
                  system.reg2Owner
                else
                  readTag _ (taken system.cache (erase system.cache)))
                _
            rw [taken_erase]
            by_cases isSecond :
                system.dataHandler.fsmState = .readStatus2
            · have wasSecond :
                  system.fedDataHandler.fsmState = .readStatus2 :=
                isSecond
              rw [if_pos isSecond, if_pos wasSecond]
              exact Waits.reg2 isSecond
            · have notSecond :
                  ¬system.fedDataHandler.fsmState = .readStatus2 :=
                isSecond
              rw [if_neg isSecond, if_neg notSecond]
              apply Waits.reg1
              cases isFirst : system.dataHandler.fsmState with
              | readStatus1 =>
                  rfl
              | readNotify =>
                  exact absurd isFirst notIdle
              | readStatus2 =>
                  exact absurd isFirst isSecond
  | rtimer member =>
      exact Waits.rtimer member
  | merged member =>
      exact Waits.merged member
  | openConn member =>
      exact Waits.openConn member
  | openFailure member =>
      exact Waits.openFailure member
  | newClient member =>
      exact Waits.newClient member

theorem waits_callMerger {owner : Option NetAXISDest}
    {id : TcpSessionID} (waits : system.callMerger.Waits owner id) :
    system.Waits owner id := by
  have moved {word : Option NetAXISDest × AppNotificationNoTDEST} :=
    @TimerSystem.mem_axiStreamMerger _ system.rxEngNotifies
      system.rtimerNotifies system.merged word
  cases waits with
  | rxEng member =>
      exact Waits.rxEng (moved.1 member)
  | rtimer member =>
      exact Waits.rtimer (moved.2.1 member)
  | merged member =>
      rcases moved.2.2 member with ofRxEng | ofRtimer | before
      · exact Waits.rxEng ofRxEng
      · exact Waits.rtimer ofRtimer
      · exact Waits.merged before
  | cached member =>
      exact Waits.cached member
  | reg1 isFirst =>
      exact Waits.reg1 isFirst
  | reg2 isSecond =>
      exact Waits.reg2 isSecond
  | openConn member =>
      exact Waits.openConn member
  | openFailure member =>
      exact Waits.openFailure member
  | newClient member =>
      exact Waits.newClient member

theorem allOwned_callTdestHandler (allOwned : system.AllOwned) :
    system.callTdestHandler.AllOwned := by
  have call := netAppNotificationTdestHandler_call system.fedTdestHandler
  have tdest := allOwned.tdest
  have received :=
    system.timers.received_foldl
      ((netAppNotificationTdestHandler
        system.fedTdestHandler).2.filterMap TdestHandlerMsg.toTimers)
  have waits (owner : Option NetAXISDest) (id : TcpSessionID)
      (waits : system.callTdestHandler.Waits owner id) :
      system.Waits owner id := by
    cases waits with
    | merged member =>
        exact Waits.merged (mem_of_unread member)
    | cached member =>
        exact Waits.cached member
    | reg1 isFirst =>
        exact Waits.reg1 isFirst
    | reg2 isSecond =>
        exact Waits.reg2 isSecond
    | rxEng member =>
        exact Waits.rxEng member
    | rtimer member =>
        exact Waits.rtimer member
    | openConn member =>
        exact Waits.openConn member
    | openFailure member =>
        exact Waits.openFailure member
    | newClient member =>
        exact Waits.newClient member
  have txAppReqs := received.txAppReqs
  have rxAppReqs := received.rxAppReqs
  refine
    allOwned.sameOwners (received.inCustody allOwned.inCustody)
      received.owners waits ?_ ?_
  · change
      RolePhase _
        (readTag system.tdestOwner
          (taken system.merged
            (netAppNotificationTdestHandler
              system.fedTdestHandler).1.notifications))
        _ _
        ((List.filterMap TdestHandlerMsg.toTimers
          (netAppNotificationTdestHandler
            system.fedTdestHandler).2).foldl
          TimerSystem.receive system.timers).slookup.rxAppTdestReqs
        _
    rw [rxAppReqs, callTdestHandler]
    simp only []
    generalize netAppNotificationTdestHandler system.fedTdestHandler =
      called at call ⊢
    obtain ⟨next, msgs⟩ := called
    cases call with
    | waits =>
        change
          RolePhase _
            (readTag _ (taken system.merged (erase system.merged))) _ _
            (system.slookup.rxAppTdestReqs ++ []) _
        rw [taken_erase, List.append_nil]
        exact tdest
    | @asks notification later notLocked queued =>
        have isIdle : system.tdestHandler.tdestReqLock = false :=
          notLocked
        rw [isIdle] at tdest
        obtain ⟨noReq, noRsp⟩ := tdest.of_idle
        obtain ⟨owner, rest, isMerged, isTaken, -⟩ :=
          of_erase_cons queued
        have ownedBy :=
          allOwned.waiting owner notification.sessionId
            (Waits.merged (isMerged ▸ List.mem_cons_self))
        change
          RolePhase _ (readTag _ (taken system.merged later)) _ _
            (system.slookup.rxAppTdestReqs ++ [notification.sessionId])
            system.tdestHandler.tdestRsps
        rw [isTaken, noReq, noRsp]
        exact RolePhase.asked ownedBy
    | @delivers dest later locked answered =>
        have isAnswer : system.tdestHandler.tdestRsps = dest :: later :=
          answered
        rw [isAnswer] at tdest
        obtain ⟨-, -, noReq, noRsp⟩ := tdest.of_answer
        change
          RolePhase _ _ _ _ (system.slookup.rxAppTdestReqs ++ []) later
        rw [noReq, noRsp]
        exact RolePhase.idle
  · change
      RolePhase _ _ _ _
        ((List.filterMap TdestHandlerMsg.toTimers
          (netAppNotificationTdestHandler
            system.fedTdestHandler).2).foldl
          TimerSystem.receive system.timers).slookup.txAppTdestReqs
        _
    have noTxApp :
        ((netAppNotificationTdestHandler
            system.fedTdestHandler).2.filterMap
          TdestHandlerMsg.toTimers).filterMap TimerInput.txAppTdest =
          [] := by
      generalize netAppNotificationTdestHandler system.fedTdestHandler =
        called at call ⊢
      obtain ⟨next, msgs⟩ := called
      cases call <;> rfl
    rw [txAppReqs, noTxApp, List.append_nil]
    exact allOwned.conn

theorem deliversToOwner_tdestHandler (allOwned : system.AllOwned) :
    DeliversToOwner system .netAppNotificationTdestHandler := by
  intro dest delivered
  have call := netAppNotificationTdestHandler_call system.fedTdestHandler
  have tdest := allOwned.tdest
  generalize netAppNotificationTdestHandler system.fedTdestHandler =
    called at call delivered
  obtain ⟨next, msgs⟩ := called
  cases call with
  | waits =>
      cases delivered
  | asks =>
      cases delivered
  | @delivers dest later locked answered =>
      have isAnswer : system.tdestHandler.tdestRsps = dest :: later :=
        answered
      rw [isAnswer] at tdest
      obtain ⟨isRole, isOwner, -, -⟩ := tdest.of_answer
      rw [List.mem_singleton.1 delivered]
      exact ⟨isRole, isOwner⟩

theorem waits_callConnHandler {owner : Option NetAXISDest}
    {id : TcpSessionID} (waits : system.callConnHandler.Waits owner id) :
    system.Waits owner id := by
  cases waits with
  | openConn member =>
      exact Waits.openConn (mem_of_unread member)
  | openFailure member =>
      exact Waits.openFailure (mem_of_unread member)
  | newClient member =>
      exact Waits.newClient (mem_of_unread member)
  | cached member =>
      exact Waits.cached member
  | reg1 isFirst =>
      exact Waits.reg1 isFirst
  | reg2 isSecond =>
      exact Waits.reg2 isSecond
  | rxEng member =>
      exact Waits.rxEng member
  | rtimer member =>
      exact Waits.rtimer member
  | merged member =>
      exact Waits.merged member

/-- The owner of the notification that a call of the handler reads. -/
def readOwner
    (system : NotifySystem) (next : ConnectionHandlerState) :
    Option NetAXISDest :=
  readTag
    (readTag
      (readTag system.connOwner
        (taken system.openConns next.rxEngNotifications))
      (taken system.openFailures next.rtimerNotifications))
    (taken system.newClients next.newClientNotifications)

theorem readOwner_same {next : ConnectionHandlerState}
    (same : system.fedConnHandler.SameNotifications next) :
    system.readOwner next = system.connOwner := by
  rw [readOwner, same.rxEng, same.rtimer, same.newClients]
  change
    readTag
        (readTag
          (readTag system.connOwner
            (taken system.openConns (erase system.openConns)))
          (taken system.openFailures (erase system.openFailures)))
        (taken system.newClients (erase system.newClients)) =
      system.connOwner
  rw [taken_erase, taken_erase, taken_erase]
  rfl

/-- The notification that is read waited with its owner. -/
theorem waits_readOwner {next : ConnectionHandlerState}
    {id : TcpSessionID}
    (read :
      (∃ rsp later,
          system.fedConnHandler.rxEngNotifications = rsp :: later ∧
            rsp.sessionId = id ∧
            { system.fedConnHandler with
              rxEngNotifications := later }.SameNotifications next) ∨
        (∃ rsp later,
          system.fedConnHandler.rtimerNotifications = rsp :: later ∧
            rsp.sessionId = id ∧
            { system.fedConnHandler with
              rtimerNotifications := later }.SameNotifications next) ∨
        ∃ client later,
          system.fedConnHandler.newClientNotifications =
              client :: later ∧
            client.sessionId = id ∧
            { system.fedConnHandler with
              newClientNotifications := later }.SameNotifications
                next) :
    system.Waits (system.readOwner next) id := by
  rcases read with
    ⟨rsp, later, queued, isId, same⟩ | ⟨rsp, later, queued, isId, same⟩ |
      ⟨client, later, queued, isId, same⟩
  · obtain ⟨owner, rest, isChannel, isTaken, -⟩ := of_erase_cons queued
    rw [readOwner, same.rxEng, same.rtimer, same.newClients]
    change
      system.Waits
        (readTag
          (readTag
            (readTag system.connOwner (taken system.openConns later))
            (taken system.openFailures (erase system.openFailures)))
          (taken system.newClients (erase system.newClients)))
        id
    rw [isTaken, taken_erase, taken_erase, ← isId]
    apply Waits.openConn
    rw [isChannel]
    exact List.mem_cons_self
  · obtain ⟨owner, rest, isChannel, isTaken, -⟩ := of_erase_cons queued
    rw [readOwner, same.rxEng, same.rtimer, same.newClients]
    change
      system.Waits
        (readTag
          (readTag _ (taken system.openFailures later))
          (taken system.newClients (erase system.newClients)))
        id
    rw [isTaken, taken_erase, ← isId]
    apply Waits.openFailure
    rw [isChannel]
    exact List.mem_cons_self
  · obtain ⟨owner, rest, isChannel, isTaken, -⟩ := of_erase_cons queued
    rw [readOwner, same.rxEng, same.rtimer, same.newClients]
    change
      system.Waits
        (readTag _ (taken system.newClients later))
        id
    rw [isTaken, ← isId]
    apply Waits.newClient
    rw [isChannel]
    exact List.mem_cons_self

theorem noRxAppTdest (msgs : List ConnectionHandlerMsg) :
    (msgs.filterMap ConnectionHandlerMsg.toTimers).filterMap
      TimerInput.rxAppTdest = [] := by
  rw [List.filterMap_filterMap, List.filterMap_eq_nil_iff]
  intro msg _
  cases msg <;> rfl

theorem txAppTdest_eq (msgs : List ConnectionHandlerMsg) :
    (msgs.filterMap ConnectionHandlerMsg.toTimers).filterMap
        TimerInput.txAppTdest =
      msgs.filterMap ConnectionHandlerMsg.tdestReq := by
  rw [List.filterMap_filterMap]
  apply List.filterMap_congr
  intro msg _
  cases msg <;> rfl

theorem allOwned_callConnHandler (allOwned : system.AllOwned) :
    system.callConnHandler.AllOwned := by
  have call := txAppConnectionHandler_notifies system.fedConnHandler
  have conn := allOwned.conn
  have received :=
    system.timers.received_foldl
      ((txAppConnectionHandler
        system.fedConnHandler).2.filterMap
        ConnectionHandlerMsg.toTimers)
  have rxAppReqs := received.rxAppReqs
  have txAppReqs := received.txAppReqs
  rw [noRxAppTdest, List.append_nil] at rxAppReqs
  rw [txAppTdest_eq] at txAppReqs
  refine
    allOwned.sameOwners (received.inCustody allOwned.inCustody)
      received.owners (fun _ _ => waits_callConnHandler) ?_ ?_
  · change
      RolePhase _ _ _ _
        ((List.filterMap ConnectionHandlerMsg.toTimers
          (txAppConnectionHandler system.fedConnHandler).2).foldl
          TimerSystem.receive system.timers).slookup.rxAppTdestReqs
        _
    rw [rxAppReqs]
    exact allOwned.tdest
  · change
      RolePhase _
        (system.readOwner
          (txAppConnectionHandler system.fedConnHandler).1)
        (txAppConnectionHandler system.fedConnHandler).1.askedId
        (txAppConnectionHandler system.fedConnHandler).1.waitsForTdest
        ((List.filterMap ConnectionHandlerMsg.toTimers
          (txAppConnectionHandler system.fedConnHandler).2).foldl
          TimerSystem.receive system.timers).slookup.txAppTdestReqs
        (txAppConnectionHandler system.fedConnHandler).1.checkTdestRsps
    rw [txAppReqs]
    generalize txAppConnectionHandler system.fedConnHandler = called
      at call ⊢
    obtain ⟨next, msgs⟩ := called
    cases call with
    | others same waits asked rsps reqs _ =>
        rw [readOwner_same same, asked, waits, rsps, reqs,
          List.append_nil]
        exact conn
    | asks notWaits read waits asked rsps reqs =>
        have isIdle : system.connHandler.waitsForTdest = false :=
          notWaits
        rw [isIdle] at conn
        obtain ⟨noReq, noRsp⟩ := conn.of_idle
        have ownedBy := allOwned.waiting _ _ (waits_readOwner read)
        have noAnswer : system.fedConnHandler.checkTdestRsps = [] :=
          noRsp
        have noAsked :
            system.timers.slookup.txAppTdestReqs = [] :=
          noReq
        rw [waits, asked, rsps, reqs, noAsked, noAnswer]
        exact RolePhase.asked ownedBy
    | @delivers dest later same waits answered notWaits rsps reqs _ =>
        have isAnswer :
            system.connHandler.checkTdestRsps = dest :: later :=
          answered
        rw [isAnswer] at conn
        obtain ⟨-, -, noReq, noRsp⟩ := conn.of_answer
        have noAsked :
            system.timers.slookup.txAppTdestReqs = [] :=
          noReq
        rw [notWaits, rsps, reqs, noAsked, noRsp]
        exact RolePhase.idle

theorem deliversToOwner_connHandler (allOwned : system.AllOwned) :
    DeliversToOwner system .txAppConnectionHandler := by
  intro waits dest delivered
  have call := txAppConnectionHandler_notifies system.fedConnHandler
  have conn := allOwned.conn
  generalize txAppConnectionHandler system.fedConnHandler = called
    at call delivered
  obtain ⟨next, msgs⟩ := called
  cases call with
  | others _ _ _ _ _ noDest =>
      rw [noDest waits] at delivered
      cases delivered
  | asks notWaits =>
      have isIdle : system.connHandler.waitsForTdest = false :=
        notWaits
      rw [isIdle] at waits
      cases waits
  | @delivers sent later _ _ answered _ _ _ dests =>
      have isAnswer :
          system.connHandler.checkTdestRsps = sent :: later :=
        answered
      rw [isAnswer] at conn
      obtain ⟨isRole, isOwner, -, -⟩ := conn.of_answer
      rw [dests] at delivered
      rw [List.mem_singleton.1 delivered]
      exact ⟨isRole, isOwner⟩

theorem waits_receive {input : NotifyInput} {owner : Option NetAXISDest}
    {id : TcpSessionID} (waits : (system.receive input).Waits owner id) :
    system.Waits owner id := by
  cases input with
  | openConn | closeConn | freePort =>
      exact Waits.of_same waits
  | writeStatus | doubleAccessFlag =>
      cases waits with
      | cached member =>
          exact Waits.cached member
      | reg1 isFirst =>
          exact @Waits.reg1 system isFirst
      | reg2 isSecond =>
          exact @Waits.reg2 system isSecond
      | rxEng member =>
          exact Waits.rxEng member
      | rtimer member =>
          exact Waits.rtimer member
      | merged member =>
          exact Waits.merged member
      | openConn member =>
          exact Waits.openConn member
      | openFailure member =>
          exact Waits.openFailure member
      | newClient member =>
          exact Waits.newClient member

theorem allOwned_step {action : NotifyAction} {next : NotifySystem}
    (allOwned : system.AllOwned)
    (keepsOwners : KeepsOwners system action)
    (stepped : NotifyStep times system action next) : next.AllOwned := by
  cases stepped with
  | timers stepped isOpen =>
      exact allOwned_timers allOwned keepsOwners stepped isOpen
  | rxEngNotificaionHandler =>
      exact
        allOwned.sameOwners allOwned.inCustody (fun _ => rfl)
          (fun _ _ => waits_callDataHandler) allOwned.tdest allOwned.conn
  | axiStreamMerger =>
      exact
        allOwned.sameOwners allOwned.inCustody (fun _ => rfl)
          (fun _ _ => waits_callMerger) allOwned.tdest allOwned.conn
  | netAppNotificationTdestHandler =>
      exact allOwned_callTdestHandler allOwned
  | txAppConnectionHandler =>
      exact allOwned_callConnHandler allOwned
  | input input =>
      have tdest :
          RolePhase system.slookup (system.receive input).tdestOwner
            (system.receive input).tdestHandler.notifyReg.sessionId
            (system.receive input).tdestHandler.tdestReqLock
            (system.receive input).slookup.rxAppTdestReqs
            (system.receive input).tdestHandler.tdestRsps := by
        cases input <;> exact allOwned.tdest
      have conn :
          RolePhase system.slookup (system.receive input).connOwner
            (system.receive input).connHandler.askedId
            (system.receive input).connHandler.waitsForTdest
            (system.receive input).slookup.txAppTdestReqs
            (system.receive input).connHandler.checkTdestRsps := by
        cases input <;> exact allOwned.conn
      have inCustody :
          (system.receive input).timers.lookup.ids.InCustody := by
        cases input <;> exact allOwned.inCustody
      have owners (id : TcpSessionID) :
          (system.receive input).slookup.ownerOf id =
            system.slookup.ownerOf id := by
        cases input <;> rfl
      exact
        allOwned.sameOwners inCustody owners (fun _ _ => waits_receive)
          tdest conn

theorem allOwned_start (table : TcpSessionID → RevTableEntry) :
    (start table).AllOwned where
  inCustody := IdSystem.inCustody_start table
  waiting := by
    intro owner id waits
    cases waits with
    | cached member | rxEng member | rtimer member | merged member
    | openConn member | openFailure member | newClient member =>
        cases member
    | reg1 isFirst =>
        cases isFirst
    | reg2 isSecond =>
        cases isSecond
  tdest := RolePhase.idle
  conn := RolePhase.idle

end NotifySystem

/-- In every run in which sessions that are notified of have owners, and are
not released before the roles of their notifications are looked up, every
notification is delivered to the owner. -/
theorem deliversToOwner_run
    (times : TimerTimes) (table : TcpSessionID → RevTableEntry)
    (actions : List NotifyAction)
    (keepsOwners :
      Along (NotifyStep times) KeepsOwners (NotifySystem.start table)
        actions) :
    Along (NotifyStep times) DeliversToOwner (NotifySystem.start table)
      actions := by
  refine
    along_of_invariant ?_ ?_ (NotifySystem.allOwned_start table)
      keepsOwners
  · intro system action next allOwned keepsHere stepped
    exact NotifySystem.allOwned_step allOwned keepsHere stepped
  · intro system action next allOwned _ _
    cases action with
    | netAppNotificationTdestHandler =>
        exact NotifySystem.deliversToOwner_tdestHandler allOwned
    | txAppConnectionHandler =>
        exact NotifySystem.deliversToOwner_connHandler allOwned
    | timers | rxEngNotificaionHandler | axiStreamMerger | input =>
        trivial

theorem NotifyStep.oneOutcome {times : TimerTimes}
    (system : NotifySystem) (action : NotifyAction)
    (next other : NotifySystem)
    (stepped : NotifyStep times system action next)
    (otherStep : NotifyStep times system action other) :
    other = next := by
  cases stepped with
  | timers timed =>
      cases otherStep with
      | timers otherTimed =>
          rw [timed.oneOutcome _ _ _ _ otherTimed]
  | rxEngNotificaionHandler | axiStreamMerger |
      netAppNotificationTdestHandler | txAppConnectionHandler | input =>
      cases otherStep
      rfl

/-- The application of role 5 opens a connection, and the peer refuses it: the
reset closes the session. -/
def openRefused : List NotifyAction :=
  [.timers (.slookup .getNewAvailableSessionId),
    .input (.openConn ⟨1, 2, 3, 5⟩), .txAppConnectionHandler,
    .input (.freePort 0x8000), .txAppConnectionHandler,
    .timers (.slookup .camLookupRspHandler),
    .timers (.camLookup ⟨⟨1, 2, 0x0080, 3⟩, 0, false, .txApp⟩),
    .timers (.slookup .camLookupRspHandler),
    .timers (.slookup .camUpdateReqSender), .timers .camUpdate,
    .timers (.slookup .camUpdateRspHandler),
    .timers (.slookup .camLookupRspHandler),
    .timers (.slookup .slookupReverseTableInterface),
    -- SYN_SENT
    .txAppConnectionHandler, .timers .stateTable,
    -- the peer's RST+ACK
    .timers
      (.input
        (.segment
          ⟨0, 2, 0x0080,
            ⟨0, 1001, 0, true, true, false, false, 0, 0⟩⟩)),
    .timers .rxEngTcpFsm, .timers .stateTable,
    .timers (.input (.rxSarRsp ⟨0, 0, 0⟩)),
    .timers
      (.input (.txSarRsp ⟨1000, 1001, 14600, 65535, 0, false, 0⟩)),
    .timers .rxEngTcpFsm, .timers .stateTable]

/-- The refusal is forwarded before the session is released. -/
theorem deliversToOwner_run_openRefused :
    Along (NotifyStep TimerTimes.simulation) DeliversToOwner
      (NotifySystem.start fun _ => ⟨⟨0, 0, 0, 0⟩, 0⟩)
      (openRefused ++
        [.txAppConnectionHandler,
          .timers (.slookup .slookupReverseTableInterface),
          .txAppConnectionHandler]) := by
  apply deliversToOwner_run
  apply Along.head NotifyStep.oneOutcome
    (NotifyStep.timers (TimerStep.slookup _) rfl) trivial
  apply Along.head NotifyStep.oneOutcome (NotifyStep.input _) trivial
  apply Along.head NotifyStep.oneOutcome
    NotifyStep.txAppConnectionHandler trivial
  apply Along.head NotifyStep.oneOutcome (NotifyStep.input _) trivial
  apply Along.head NotifyStep.oneOutcome
    NotifyStep.txAppConnectionHandler trivial
  apply Along.head NotifyStep.oneOutcome
    (NotifyStep.timers (TimerStep.slookup _) rfl) trivial
  apply Along.head NotifyStep.oneOutcome
    (NotifyStep.timers
      (TimerStep.camLookup (CamStep.camLookup rfl rfl rfl)) rfl) trivial
  apply Along.head NotifyStep.oneOutcome
    (NotifyStep.timers (TimerStep.slookup _) rfl) trivial
  apply Along.head NotifyStep.oneOutcome
    (NotifyStep.timers (TimerStep.slookup _) rfl) trivial
  apply Along.head NotifyStep.oneOutcome
    (NotifyStep.timers (TimerStep.camUpdate (CamStep.camUpdate rfl)) rfl)
    trivial
  apply Along.head NotifyStep.oneOutcome
    (NotifyStep.timers (TimerStep.slookup _) rfl) trivial
  apply Along.head NotifyStep.oneOutcome
    (NotifyStep.timers (TimerStep.slookup _) rfl) trivial
  apply Along.head NotifyStep.oneOutcome
    (NotifyStep.timers (TimerStep.slookup _) rfl)
  · intro id released
    cases released
  apply Along.head NotifyStep.oneOutcome
    NotifyStep.txAppConnectionHandler trivial
  apply Along.head NotifyStep.oneOutcome
    (NotifyStep.timers TimerStep.stateTable rfl) trivial
  apply Along.head NotifyStep.oneOutcome
    (NotifyStep.timers (TimerStep.input _) rfl) trivial
  apply Along.head NotifyStep.oneOutcome
    (NotifyStep.timers TimerStep.rxEngTcpFsm rfl)
  · exact fun id notified => absurd notified List.not_mem_nil
  apply Along.head NotifyStep.oneOutcome
    (NotifyStep.timers TimerStep.stateTable rfl) trivial
  apply Along.head NotifyStep.oneOutcome
    (NotifyStep.timers (TimerStep.input _) rfl) trivial
  apply Along.head NotifyStep.oneOutcome
    (NotifyStep.timers (TimerStep.input _) rfl) trivial
  apply Along.head NotifyStep.oneOutcome
    (NotifyStep.timers TimerStep.rxEngTcpFsm rfl)
  · intro id notified
    have isFirst : id = 0 := List.mem_singleton.1 notified
    rw [isFirst]
    exact ⟨5, by decide, rfl⟩
  apply Along.head NotifyStep.oneOutcome
    (NotifyStep.timers TimerStep.stateTable rfl) trivial
  apply Along.head NotifyStep.oneOutcome
    NotifyStep.txAppConnectionHandler trivial
  apply Along.head NotifyStep.oneOutcome
    (NotifyStep.timers (TimerStep.slookup _) rfl)
  · intro id released
    cases released
  apply Along.head NotifyStep.oneOutcome
    NotifyStep.txAppConnectionHandler trivial
  trivial

/-- The refusal is forwarded when the session is released: it goes to no
role. -/
theorem not_deliversToOwner_openRefused :
    ¬∀ times table actions,
        Along (NotifyStep times) DeliversToOwner
          (NotifySystem.start table) actions := by
  intro allDeliver
  have run :
      ∃ system,
        Run (NotifyStep TimerTimes.simulation)
            (NotifySystem.start fun _ => ⟨⟨0, 0, 0, 0⟩, 0⟩)
            (openRefused ++
              [.timers (.slookup .slookupReverseTableInterface),
                .txAppConnectionHandler,
                .timers (.slookup .slookupReverseTableInterface)])
            system ∧
          system.connHandler.waitsForTdest = true ∧
            (txAppConnectionHandler system.fedConnHandler).2.filterMap
                ConnectionHandlerMsg.dest =
              [invalidTdest] := by
    apply Exists.intro
    apply And.intro
    · apply Run.head (NotifyStep.timers (TimerStep.slookup _) rfl)
      apply Run.head (NotifyStep.input _)
      apply Run.head NotifyStep.txAppConnectionHandler
      apply Run.head (NotifyStep.input _)
      apply Run.head NotifyStep.txAppConnectionHandler
      apply Run.head (NotifyStep.timers (TimerStep.slookup _) rfl)
      apply Run.head
        (NotifyStep.timers
          (TimerStep.camLookup (CamStep.camLookup rfl rfl rfl)) rfl)
      apply Run.head (NotifyStep.timers (TimerStep.slookup _) rfl)
      apply Run.head (NotifyStep.timers (TimerStep.slookup _) rfl)
      apply Run.head
        (NotifyStep.timers
          (TimerStep.camUpdate (CamStep.camUpdate rfl)) rfl)
      apply Run.head (NotifyStep.timers (TimerStep.slookup _) rfl)
      apply Run.head (NotifyStep.timers (TimerStep.slookup _) rfl)
      apply Run.head (NotifyStep.timers (TimerStep.slookup _) rfl)
      apply Run.head NotifyStep.txAppConnectionHandler
      apply Run.head (NotifyStep.timers TimerStep.stateTable rfl)
      apply Run.head (NotifyStep.timers (TimerStep.input _) rfl)
      apply Run.head (NotifyStep.timers TimerStep.rxEngTcpFsm rfl)
      apply Run.head (NotifyStep.timers TimerStep.stateTable rfl)
      apply Run.head (NotifyStep.timers (TimerStep.input _) rfl)
      apply Run.head (NotifyStep.timers (TimerStep.input _) rfl)
      apply Run.head (NotifyStep.timers TimerStep.rxEngTcpFsm rfl)
      apply Run.head (NotifyStep.timers TimerStep.stateTable rfl)
      apply Run.head (NotifyStep.timers (TimerStep.slookup _) rfl)
      apply Run.head NotifyStep.txAppConnectionHandler
      apply Run.head (NotifyStep.timers (TimerStep.slookup _) rfl)
      exact Run.refl _
    · exact ⟨rfl, rfl⟩
  obtain ⟨system, steps, waits, delivered⟩ := run
  have along :=
    allDeliver TimerTimes.simulation (fun _ => ⟨⟨0, 0, 0, 0⟩, 0⟩)
      ((openRefused ++
          [.timers (.slookup .slookupReverseTableInterface),
            .txAppConnectionHandler,
            .timers (.slookup .slookupReverseTableInterface)]) ++
        [.txAppConnectionHandler])
  have toOwner := along.of_run steps NotifyStep.txAppConnectionHandler
  have isRole :=
    (toOwner waits invalidTdest
      (delivered ▸ List.mem_singleton_self _)).1
  exact isRole rfl

end TcpOffload
