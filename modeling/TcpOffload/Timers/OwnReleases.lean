import TcpOffload.Library.Tagged
import TcpOffload.RxEngine.Fsm
import TcpOffload.SessionLookup.Hits
import TcpOffload.StateTable
import TcpOffload.Timers.CloseTimer
import TcpOffload.Timers.RetransmitOrder

/-!
# Whose timer releases a session

`RxEngTcpFsm`, the state table, the two timers that release sessions and the
session lookup controller beside its CAM.  Timers know a connection by its
session ID alone.  The connections on an ID are numbered here, and every
request, running entry and release of a timer has the number of the
connection that it was made for; the modules do not see the numbers.
-/

namespace TcpOffload

open Guarded Tagged

/-! ## The modules and the channels between them -/

/-- `AxiStreamMerger`. -/
def axiStreamMerger {Word : Type} (first second out : List Word) :
    List Word × List Word × List Word :=
  match first, second with
  | word :: later, _ => (later, second, out ++ [word])
  | [], word :: later => ([], later, out ++ [word])
  | [], [] => ([], [], out)

/-- The queues that the modules have for the channels of the timers are
filled from the channels before a call.  A release of the state table has the
number of the connection of the timer it comes from, if it comes from
one. -/
structure TimerSystem where
  rxEng : RxEngState
  sttable : StateTableState
  lookup : CamSystem
  ctimer : CloseTimerState
  rtimer : RetransmitTimerState
  ctimerSets : List (Nat × TcpSessionID)
  rtimerSets : List (Nat × TxEngToRetransTimerReq)
  ctimerReleases : List (Nat × TcpSessionID)
  rtimerReleases : List (Nat × TcpSessionID)
  timerReleases : List (Nat × TcpSessionID)
  sttableReleases : List (Option Nat × TcpSessionID)
  ctimerSetBy : Nat
  ctimerArmedBy : TcpSessionID → Nat
  rtimerArmedBy : TcpSessionID → Nat
  timerReleaseBy : Nat
  connection : TcpSessionID → Nat

/-- What reaches these modules from others.  The answers of the SAR tables
and what the TX engine and the application ask for are left open. -/
inductive TimerInput where
  | segment (segment : RxEngFsmMetaData)
  | rxSarRsp (rsp : RxSarTableEntry)
  | txSarRsp (rsp : TxSarToRxEngRsp)
  | txAppReq (req : StateTableReq)
  | txAppLup (id : TcpSessionID)
  | setRtimer (req : TxEngToRetransTimerReq)
  | rxEngLookup (req : RxEngToSlookupReq)
  | txAppLookup (req : TxAppToSlookupReq)
  | rxAppTdestReq (id : TcpSessionID)
  | txAppTdestReq (id : TcpSessionID)
  | txEngRevTableReq (id : TcpSessionID)

inductive TimerAction where
  | rxEngTcpFsm
  | stateTable
  | closeTimer
  | retransmitTimer (full : Bool)
  | axiStreamMerger
  | slookup (process : SlookupProcess)
  | camLookup (rsp : RtlCamToSlookupLupRsp)
  | camUpdate
  | input (input : TimerInput)

def RxEngMsg.toSttable : RxEngMsg → Option StateTableReq
  | .sttableReq req => some req
  | _ => none

def RxEngMsg.toCtimer : RxEngMsg → Option TcpSessionID
  | .setCtimer id => some id
  | _ => none

def RxEngMsg.toRtimer : RxEngMsg → Option RxEngToRetransTimerReq
  | .clearRtimer req => some req
  | _ => none

/-- The ID of the session that the next call of the handler creates. -/
def SlookupState.newId (state : SlookupState) : Option TcpSessionID :=
  match state.slcFsmState, state.camLupRsps, state.toCamReqCacheValid,
    state.availableIds with
  | .lupRsp, rsp :: _, true, id :: _ =>
      if !rsp.hit && state.toCamReqCache.allowCreation then
        some (id.setWidth 16)
      else
        none
  | _, _, _, _ => none

namespace TimerSystem

def start (table : TcpSessionID → RevTableEntry) : TimerSystem where
  rxEng := RxEngState.start
  sttable := StateTableState.start fun _ => .closed
  lookup := CamSystem.start table
  ctimer := CloseTimerState.start
  rtimer := RetransmitTimerState.start
  ctimerSets := []
  rtimerSets := []
  ctimerReleases := []
  rtimerReleases := []
  timerReleases := []
  sttableReleases := []
  ctimerSetBy := 0
  ctimerArmedBy := fun _ => 0
  rtimerArmedBy := fun _ => 0
  timerReleaseBy := 0
  connection := fun _ => 0

def callRxEng (system : TimerSystem) : TimerSystem :=
  let called := TcpOffload.rxEngTcpFsm system.rxEng
  { system with
    rxEng := called.1
    sttable :=
      { system.sttable with
        rxEngReqs :=
          system.sttable.rxEngReqs ++
            called.2.filterMap RxEngMsg.toSttable }
    ctimerSets :=
      system.ctimerSets ++
        (called.2.filterMap RxEngMsg.toCtimer).map fun id =>
          (system.connection id, id)
    rtimer :=
      { system.rtimer with
        clearReqs :=
          system.rtimer.clearReqs ++
            called.2.filterMap RxEngMsg.toRtimer } }

/-! ### The timers -/

def fedCtimer (system : TimerSystem) : CloseTimerState :=
  { system.ctimer with setReqs := erase system.ctimerSets }

def fedRtimer (system : TimerSystem) : RetransmitTimerState :=
  { system.rtimer with setReqs := erase system.rtimerSets }

/-- An entry is armed when the registered request is written. -/
def callCtimer (times : TimerTimes) (system : TimerSystem) :
    TimerSystem :=
  let called := TcpOffload.closeTimer times system.fedCtimer
  { system with
    ctimer := called.1
    ctimerSets := unread system.ctimerSets called.1.setReqs
    ctimerReleases :=
      system.ctimerReleases ++
        called.2.map fun id => (system.ctimerArmedBy id, id)
    ctimerSetBy :=
      readTag system.ctimerSetBy
        (taken system.ctimerSets called.1.setReqs)
    ctimerArmedBy :=
      if system.ctimer.waitForWrite ∧ ¬called.1.waitForWrite then
        Function.update system.ctimerArmedBy system.ctimer.setSessionId
          system.ctimerSetBy
      else
        system.ctimerArmedBy }

/-- A request for an entry that runs does not arm it anew. -/
def callRtimer (times : TimerTimes) (full : Bool) (system : TimerSystem) :
    TimerSystem :=
  let called := TcpOffload.retransmitTimer times full system.fedRtimer
  { system with
    rtimer := called.1
    rtimerSets := unread system.rtimerSets called.1.setReqs
    rtimerReleases :=
      system.rtimerReleases ++
        (called.2.filterMap RetransmitTimerMsg.toSttable).map fun id =>
          (system.rtimerArmedBy id, id)
    rtimerArmedBy :=
      match taken system.rtimerSets called.1.setReqs with
      | (owner, req) :: _ =>
          if (system.rtimer.table req.sessionId).active then
            system.rtimerArmedBy
          else
            Function.update system.rtimerArmedBy req.sessionId owner
      | [] => system.rtimerArmedBy }

def callMerger (system : TimerSystem) : TimerSystem :=
  let merged :=
    TcpOffload.axiStreamMerger system.ctimerReleases
      system.rtimerReleases system.timerReleases
  { system with
    ctimerReleases := merged.1
    rtimerReleases := merged.2.1
    timerReleases := merged.2.2 }

/-! ### The state table and the controller -/

def fedSttable (system : TimerSystem) : StateTableState :=
  { system.sttable with timerReleases := erase system.timerReleases }

/-- The connection of the timer that the next call of the state table
releases a session for, if it does so for a timer. -/
def releasesFor (system : TimerSystem) : Option Nat :=
  let next := (TcpOffload.stateTable system.fedSttable).1
  match taken system.timerReleases next.timerReleases with
  | (owner, _) :: _ => some owner
  | [] =>
      if system.sttable.timerReleaseLocked ∧ ¬next.timerReleaseLocked then
        some system.timerReleaseBy
      else
        none

/-- The releases that the next call of the state table sends. -/
def releasesNow (system : TimerSystem) :
    List (Option Nat × TcpSessionID) :=
  send system.releasesFor
    ((TcpOffload.stateTable system.fedSttable).2.filterMap
      StateTableMsg.toSlookup)

def callSttable (system : TimerSystem) : TimerSystem :=
  let called := TcpOffload.stateTable system.fedSttable
  { system with
    sttable := called.1
    timerReleases := unread system.timerReleases called.1.timerReleases
    timerReleaseBy :=
      readTag system.timerReleaseBy
        (taken system.timerReleases called.1.timerReleases)
    sttableReleases := system.sttableReleases ++ system.releasesNow
    rxEng :=
      { system.rxEng with
        sttableRsps :=
          system.rxEng.sttableRsps ++
            called.2.filterMap StateTableMsg.toRxEng } }

def slookup (system : TimerSystem) : SlookupState :=
  system.lookup.ids.slookup

def withSlookup (system : TimerSystem) (state : SlookupState) :
    TimerSystem :=
  { system with
    lookup :=
      { system.lookup with
        ids := { system.lookup.ids with slookup := state } } }

def fedSlookup (system : TimerSystem) : SlookupState :=
  { system.slookup with
    sttableReleaseReqs := erase system.sttableReleases }

/-- A session that is created is the next connection on its ID. -/
def callSlookup (system : TimerSystem) (process : SlookupProcess) :
    TimerSystem :=
  let next := (system.withSlookup system.fedSlookup).lookup.call process
  { system with
    lookup := next
    sttableReleases :=
      unread system.sttableReleases next.ids.slookup.sttableReleaseReqs
    connection :=
      match process, system.slookup.newId with
      | .camLookupRspHandler, some id =>
          Function.update system.connection id (system.connection id + 1)
      | _, _ => system.connection }

def receive (system : TimerSystem) : TimerInput → TimerSystem
  | .segment segment =>
      { system with
        rxEng :=
          { system.rxEng with
            metaDatas := system.rxEng.metaDatas ++ [segment] } }
  | .rxSarRsp rsp =>
      { system with
        rxEng :=
          { system.rxEng with
            rxSarRsps := system.rxEng.rxSarRsps ++ [rsp] } }
  | .txSarRsp rsp =>
      { system with
        rxEng :=
          { system.rxEng with
            txSarRsps := system.rxEng.txSarRsps ++ [rsp] } }
  | .txAppReq req =>
      { system with
        sttable :=
          { system.sttable with
            txAppReqs := system.sttable.txAppReqs ++ [req] } }
  | .txAppLup id =>
      { system with
        sttable :=
          { system.sttable with
            txAppLupReqs := system.sttable.txAppLupReqs ++ [id] } }
  | .setRtimer req =>
      { system with
        rtimerSets :=
          system.rtimerSets ++ [(system.connection req.sessionId, req)] }
  | .rxEngLookup req =>
      system.withSlookup (system.slookup.receive (.rxEngReq req))
  | .txAppLookup req =>
      system.withSlookup (system.slookup.receive (.txAppReq req))
  | .rxAppTdestReq id =>
      system.withSlookup (system.slookup.receive (.rxAppTdestReq id))
  | .txAppTdestReq id =>
      system.withSlookup (system.slookup.receive (.txAppTdestReq id))
  | .txEngRevTableReq id =>
      system.withSlookup (system.slookup.receive (.txEngRevTableReq id))

end TimerSystem

inductive TimerStep (times : TimerTimes) :
    TimerSystem → TimerAction → TimerSystem → Prop
  | rxEngTcpFsm {system : TimerSystem} :
      TimerStep times system .rxEngTcpFsm system.callRxEng
  | stateTable {system : TimerSystem} :
      TimerStep times system .stateTable system.callSttable
  | closeTimer {system : TimerSystem} :
      TimerStep times system .closeTimer (system.callCtimer times)
  | retransmitTimer {system : TimerSystem} (full : Bool) :
      TimerStep times system (.retransmitTimer full)
        (system.callRtimer times full)
  | axiStreamMerger {system : TimerSystem} :
      TimerStep times system .axiStreamMerger system.callMerger
  | slookup {system : TimerSystem} (process : SlookupProcess) :
      TimerStep times system (.slookup process)
        (system.callSlookup process)
  | camLookup {system : TimerSystem} {rsp : RtlCamToSlookupLupRsp}
      {next : CamSystem} :
      CamStep system.lookup (.camLookup rsp) next →
      TimerStep times system (.camLookup rsp)
        { system with lookup := next }
  | camUpdate {system : TimerSystem} {next : CamSystem} :
      CamStep system.lookup .camUpdate next →
      TimerStep times system .camUpdate { system with lookup := next }
  | input {system : TimerSystem} (input : TimerInput) :
      TimerStep times system (.input input) (system.receive input)

theorem TimerStep.oneOutcome {times : TimerTimes}
    (system : TimerSystem) (action : TimerAction)
    (next other : TimerSystem)
    (stepped : TimerStep times system action next)
    (otherStep : TimerStep times system action other) :
    other = next := by
  cases stepped with
  | rxEngTcpFsm | stateTable | closeTimer | retransmitTimer |
      axiStreamMerger | slookup | input =>
      cases otherStep
      rfl
  | camLookup looksUp =>
      cases otherStep with
      | camLookup otherLooksUp =>
          rw [looksUp.oneOutcome otherLooksUp]
  | camUpdate updates =>
      cases otherStep with
      | camUpdate otherUpdates =>
          rw [updates.oneOutcome otherUpdates]

/-! ## Whose a release is -/

/-- A connection has the ID: it is valid, or being inserted. -/
def IdSystem.Held (system : IdSystem) (id : TcpSessionID) : Prop :=
  id.toNat ∈ system.ids .valid ∨ id.toNat ∈ system.ids .pendingInsert

namespace TimerSystem

/-- A request, a running entry or a release of the close timer. -/
def CtimerOf
    (system : TimerSystem) (owner : Nat) (id : TcpSessionID) : Prop :=
  (owner, id) ∈ system.ctimerSets ∨
    (system.ctimer.waitForWrite = true ∧
      system.ctimer.setSessionId = id ∧ system.ctimerSetBy = owner) ∨
    ((system.ctimer.table id).active = true ∧
      system.ctimerArmedBy id = owner) ∨
    (owner, id) ∈ system.ctimerReleases

/-- A request, a running entry or a release of the retransmission timer. -/
def RtimerOf
    (system : TimerSystem) (owner : Nat) (id : TcpSessionID) : Prop :=
  (∃ req, (owner, req) ∈ system.rtimerSets ∧ req.sessionId = id) ∨
    (id.toNat < tcpMaxSessions ∧
      (system.rtimer.table id).active = true ∧
        system.rtimerArmedBy id = owner) ∨
    (owner, id) ∈ system.rtimerReleases

/-- A release of either timer before, in or behind the state table. -/
def ReleaseOf
    (system : TimerSystem) (owner : Nat) (id : TcpSessionID) : Prop :=
  (owner, id) ∈ system.timerReleases ∨
    (system.sttable.timerReleaseLocked = true ∧
      system.sttable.timerReleaseReqSessionId = id ∧
      system.timerReleaseBy = owner) ∨
    (some owner, id) ∈ system.sttableReleases

/-- What there is of timers for the ID, made for the connection with the
number `owner`. -/
inductive TimerOf
    (system : TimerSystem) (owner : Nat) (id : TcpSessionID) : Prop
  | ctimer : system.CtimerOf owner id → TimerOf system owner id
  | rtimer : system.RtimerOf owner id → TimerOf system owner id
  | release : system.ReleaseOf owner id → TimerOf system owner id

/-- The connection that has the ID armed the timer. -/
structure OwnTimer
    (system : TimerSystem) (owner : Nat) (id : TcpSessionID) : Prop where
  held : system.lookup.ids.Held id
  isOwn : owner = system.connection id

end TimerSystem

/-- A timer that releases a session was armed by the connection that has it.
A release that closes a session in the state table, or frees its ID in the
reverse table, is never one of an earlier connection's timer. -/
def ReleasesOwn (times : TimerTimes) (system : TimerSystem) :
    TimerAction → Prop
  | .closeTimer =>
      ∀ id ∈ (TcpOffload.closeTimer times system.fedCtimer).2,
        system.OwnTimer (system.ctimerArmedBy id) id
  | .retransmitTimer full =>
      ∀ id ∈
          (TcpOffload.retransmitTimer times full
            system.fedRtimer).2.filterMap RetransmitTimerMsg.toSttable,
        system.OwnTimer (system.rtimerArmedBy id) id
  | .stateTable =>
      ∀ owner id, (some owner, id) ∈ system.releasesNow →
        owner = system.connection id
  | .slookup .slookupReverseTableInterface =>
      ∀ owner id,
        system.sttableReleases.head? = some (some owner, id) →
          system.fedSlookup.nextRelease = some id →
            owner = system.connection id
  | _ => True

/-- An ID gets a new connection when no timer of the ID is left, and a timer
runs out for an ID that a connection has; the retransmission timer stays
within its table. -/
def LeavesNoTimer (system : TimerSystem) : TimerAction → Prop
  | .slookup .camLookupRspHandler =>
      ∀ id, system.slookup.newId = some id →
        ∀ owner, ¬system.TimerOf owner id
  | .closeTimer =>
      ∀ id, system.fedCtimer.runsOut = some id →
        system.lookup.ids.Held id
  | .retransmitTimer full =>
      (system.fedRtimer.event full).InTable ∧
        ∀ id, system.fedRtimer.givesUp full = some id →
          system.lookup.ids.Held id
  | _ => True

/-! ## Every step -/

namespace TimerSystem

/-- The invariant: every timer of an ID is one of its latest connection. -/
def AllOwn (system : TimerSystem) : Prop :=
  ∀ owner id, system.TimerOf owner id → owner = system.connection id

/-! ### The timers -/

theorem mem_axiStreamMerger {Word : Type} {first second out : List Word}
    {word : Word} :
    (word ∈ (axiStreamMerger first second out).1 → word ∈ first) ∧
      (word ∈ (axiStreamMerger first second out).2.1 →
        word ∈ second) ∧
      (word ∈ (axiStreamMerger first second out).2.2 →
        word ∈ first ∨ word ∈ second ∨ word ∈ out) := by
  cases first with
  | cons head later =>
      simp only [axiStreamMerger, List.mem_cons, List.mem_append]
      tauto
  | nil =>
      cases second with
      | cons head later =>
          simp only [axiStreamMerger, List.mem_cons, List.mem_append]
          tauto
      | nil =>
          simp only [axiStreamMerger]
          tauto

theorem ctimerOf_waits {times : TimerTimes} {system : TimerSystem}
    (waits : (system.callCtimer times).ctimer.waitForWrite = true) :
    system.CtimerOf (system.callCtimer times).ctimerSetBy
      (system.callCtimer times).ctimer.setSessionId := by
  rcases closeTimer_waits waits with
    ⟨waited, sameId, sameReqs⟩ | ⟨id, later, queued, isId, isLater⟩
  · right
    left
    refine ⟨waited, sameId.symm, ?_⟩
    rw [callCtimer]
    simp only []
    rw [sameReqs]
    change _ = readTag _ (taken system.ctimerSets (erase system.ctimerSets))
    rw [taken_erase]
    rfl
  · left
    obtain ⟨owner, rest, isFirst, isTaken, -⟩ := of_erase_cons queued
    rw [callCtimer]
    simp only []
    rw [isLater, isTaken, isId, isFirst]
    exact List.mem_cons_self

theorem ctimerOf_runs {times : TimerTimes} {system : TimerSystem}
    {id : TcpSessionID}
    (active :
      ((system.callCtimer times).ctimer.table id).active = true) :
    system.CtimerOf ((system.callCtimer times).ctimerArmedBy id) id := by
  have ran := closeTimer_active active
  rw [callCtimer]
  simp only []
  change
    if system.ctimer.waitForWrite = true ∧
        ¬(closeTimer times system.fedCtimer).1.waitForWrite = true then
      id ≠ system.ctimer.setSessionId →
        (system.ctimer.table id).active = true
    else
      (system.ctimer.table id).active = true at ran
  split at ran
  · rename_i writes
    rw [if_pos writes]
    by_cases isSet : id = system.ctimer.setSessionId
    · rw [isSet, Function.update_self]
      exact Or.inr (Or.inl ⟨writes.1, rfl, rfl⟩)
    · rw [Function.update_of_ne isSet]
      exact Or.inr (Or.inr (Or.inl ⟨ran isSet, rfl⟩))
  · rename_i notWrites
    rw [if_neg notWrites]
    exact Or.inr (Or.inr (Or.inl ⟨ran, rfl⟩))

theorem ctimerOf_callCtimer {times : TimerTimes} {system : TimerSystem}
    {owner : Nat} {id : TcpSessionID}
    (timer : (system.callCtimer times).CtimerOf owner id) :
    system.CtimerOf owner id := by
  rcases timer with
    asked | ⟨waits, rfl, rfl⟩ | ⟨active, rfl⟩ | released
  · exact Or.inl (mem_of_unread asked)
  · exact ctimerOf_waits waits
  · exact ctimerOf_runs active
  · rcases List.mem_append.1 released with before | isNew
    · exact Or.inr (Or.inr (Or.inr before))
    · obtain ⟨_, isReleased, same⟩ := List.mem_map.1 isNew
      obtain ⟨rfl, rfl⟩ := Prod.mk.inj same
      have active := (closeTimer_releases isReleased).2
      exact Or.inr (Or.inr (Or.inl ⟨active, rfl⟩))

theorem rtimerOf_runs {times : TimerTimes} {full : Bool}
    {system : TimerSystem} {id : TcpSessionID}
    (inTable : (system.fedRtimer.event full).InTable)
    (isSession : id.toNat < tcpMaxSessions)
    (active :
      ((system.callRtimer times full).rtimer.table id).active = true) :
    system.RtimerOf ((system.callRtimer times full).rtimerArmedBy id)
      id := by
  have spec := retransmitTimer_spec times full system.fedRtimer
  have ran (noSet : ¬ (system.fedRtimer.event full).ReadsSet id) :
      (system.rtimer.table id).active = true := by
    by_contra notActive
    have stays :=
      @RetransmitTimerState.Moves.stays_inactive times _ _ _ _ _
        spec.moves (Bool.eq_false_iff.2 notActive) noSet
    rw [← spec.entries inTable id isSession] at stays
    exact absurd active (Bool.eq_false_iff.1 stays)
  have takes := retransmitTimer_takes times full system.fedRtimer
  rw [callRtimer]
  simp only []
  generalize (retransmitTimer times full system.fedRtimer).1 = next
    at takes ⊢
  generalize system.fedRtimer.event full = event at takes ran
  cases takes with
  | none sameReqs notSet =>
      have noSet : ¬ event.ReadsSet id := by
        cases event with
        | readSet req =>
            exact absurd rfl (notSet req)
        | readClear | applied | swept =>
            exact fun impossible => impossible
      rw [sameReqs]
      change
        system.RtimerOf
          ((match taken system.rtimerSets (erase system.rtimerSets) with
            | (owner, req) :: _ =>
                if (system.rtimer.table req.sessionId).active then
                  system.rtimerArmedBy
                else
                  Function.update system.rtimerArmedBy req.sessionId owner
            | [] => system.rtimerArmedBy)
            id)
          id
      rw [taken_erase]
      exact Or.inr (Or.inl ⟨isSession, ran noSet, rfl⟩)
  | @first req later queued isLater =>
      obtain ⟨owner, rest, isFirst, isTaken, -⟩ := of_erase_cons queued
      rw [isLater, isTaken]
      simp only []
      by_cases isReq : req.sessionId = id
      · rw [isReq]
        split
        · rename_i running
          exact Or.inr (Or.inl ⟨isSession, running, rfl⟩)
        · rw [Function.update_self]
          left
          refine ⟨req, ?_, isReq⟩
          rw [isFirst]
          exact List.mem_cons_self
      · have running := ran isReq
        split
        · exact Or.inr (Or.inl ⟨isSession, running, rfl⟩)
        · rw [Function.update_of_ne (Ne.symm isReq)]
          exact Or.inr (Or.inl ⟨isSession, running, rfl⟩)

/-- A session that is given up has an entry that runs. -/
theorem rtimerOf_released {times : TimerTimes} {full : Bool}
    {system : TimerSystem} {id : TcpSessionID}
    (inTable : (system.fedRtimer.event full).InTable)
    (released :
      id ∈
        (retransmitTimer times full system.fedRtimer).2.filterMap
          RetransmitTimerMsg.toSttable) :
    system.RtimerOf (system.rtimerArmedBy id) id := by
  obtain ⟨givesUp, active⟩ := retransmitTimer_releases released
  have isSession := RetransmitTimerState.lt_of_givesUp inTable givesUp
  exact Or.inr (Or.inl ⟨isSession, active, rfl⟩)

theorem rtimerOf_callRtimer {times : TimerTimes} {full : Bool}
    {system : TimerSystem} {owner : Nat} {id : TcpSessionID}
    (inTable : (system.fedRtimer.event full).InTable)
    (timer : (system.callRtimer times full).RtimerOf owner id) :
    system.RtimerOf owner id := by
  rcases timer with
    ⟨req, asked, isId⟩ | ⟨isSession, active, rfl⟩ | released
  · exact Or.inl ⟨req, mem_of_unread asked, isId⟩
  · exact rtimerOf_runs inTable isSession active
  · rcases List.mem_append.1 released with before | isNew
    · exact Or.inr (Or.inr before)
    · obtain ⟨_, isReleased, same⟩ := List.mem_map.1 isNew
      obtain ⟨rfl, rfl⟩ := Prod.mk.inj same
      exact rtimerOf_released inTable isReleased

theorem timerOf_callMerger {system : TimerSystem} {owner : Nat}
    {id : TcpSessionID} (timer : system.callMerger.TimerOf owner id) :
    system.TimerOf owner id := by
  have moved {word : Nat × TcpSessionID} :=
    @mem_axiStreamMerger _ system.ctimerReleases system.rtimerReleases
      system.timerReleases word
  cases timer with
  | ctimer timer =>
      rcases timer with asked | waits | runs | released
      · exact TimerOf.ctimer (Or.inl asked)
      · exact TimerOf.ctimer (Or.inr (Or.inl waits))
      · exact TimerOf.ctimer (Or.inr (Or.inr (Or.inl runs)))
      · exact
          TimerOf.ctimer (Or.inr (Or.inr (Or.inr (moved.1 released))))
  | rtimer timer =>
      rcases timer with asked | runs | released
      · exact TimerOf.rtimer (Or.inl asked)
      · exact TimerOf.rtimer (Or.inr (Or.inl runs))
      · exact TimerOf.rtimer (Or.inr (Or.inr (moved.2.1 released)))
  | release timer =>
      rcases timer with released | behind
      · rcases moved.2.2 released with fromCtimer | fromRtimer | before
        · exact TimerOf.ctimer (Or.inr (Or.inr (Or.inr fromCtimer)))
        · exact TimerOf.rtimer (Or.inr (Or.inr fromRtimer))
        · exact TimerOf.release (Or.inl before)
      · exact TimerOf.release (Or.inr behind)

/-! ### The state table and the controller -/

/-- A release that the state table executes for a timer is one that it
got. -/
theorem releaseOf_releasesNow {system : TimerSystem} {owner : Nat}
    {id : TcpSessionID}
    (released : (some owner, id) ∈ system.releasesNow) :
    system.ReleaseOf owner id := by
  have call := stateTable_timer system.fedSttable
  rw [releasesNow, releasesFor] at released
  generalize stateTable system.fedSttable = called at call released
  obtain ⟨message, inMsgs, isRelease⟩ := List.mem_map.1 released
  obtain ⟨isOwner, isId⟩ := Prod.mk.inj isRelease
  cases call with
  | same releases locked _ =>
      rw [releases, locked] at isOwner
      change
        (match taken system.timerReleases (erase system.timerReleases) with
          | (owner, _) :: _ => some owner
          | [] =>
              if system.sttable.timerReleaseLocked = true ∧
                  ¬system.sttable.timerReleaseLocked = true then
                some system.timerReleaseBy
              else
                none) =
          some owner at isOwner
      rw [taken_erase] at isOwner
      simp at isOwner
  | blocks _ _ =>
      cases inMsgs
  | executes queued _ =>
      obtain ⟨first, rest, isFirst, isTaken, -⟩ := of_erase_cons queued
      rw [isTaken] at isOwner
      rw [← isId, List.mem_singleton.1 inMsgs, ← Option.some.inj isOwner]
      left
      rw [isFirst]
      exact List.mem_cons_self
  | executesBlocked waited releases unlocked =>
      rw [releases, unlocked] at isOwner
      change
        (match taken system.timerReleases (erase system.timerReleases) with
          | (owner, _) :: _ => some owner
          | [] =>
              if system.sttable.timerReleaseLocked = true ∧
                  ¬false = true then
                some system.timerReleaseBy
              else
                none) =
          some owner at isOwner
      have locked : system.sttable.timerReleaseLocked = true :=
        waited
      rw [taken_erase] at isOwner
      simp only [locked, Bool.false_eq_true, not_false_eq_true, and_true,
        if_true] at isOwner
      rw [← isId, List.mem_singleton.1 inMsgs]
      exact Or.inr (Or.inl ⟨locked, rfl, Option.some.inj isOwner⟩)

theorem releaseOf_waits {system : TimerSystem}
    (waits : system.callSttable.sttable.timerReleaseLocked = true) :
    system.ReleaseOf system.callSttable.timerReleaseBy
      system.callSttable.sttable.timerReleaseReqSessionId := by
  have call := stateTable_timer system.fedSttable
  rw [callSttable] at waits ⊢
  simp only [] at waits ⊢
  generalize stateTable system.fedSttable = called at call waits ⊢
  cases call with
  | same releases locked req =>
      rw [locked] at waits
      rw [releases, req]
      refine Or.inr (Or.inl ⟨waits, rfl, ?_⟩)
      change
        _ =
          readTag _
            (taken system.timerReleases (erase system.timerReleases))
      rw [taken_erase]
      rfl
  | blocks queued isId =>
      obtain ⟨first, rest, isFirst, isTaken, -⟩ := of_erase_cons queued
      rw [isTaken, isId]
      left
      rw [isFirst]
      exact List.mem_cons_self
  | executes _ unlocked =>
      rw [unlocked] at waits
      cases waits
  | executesBlocked _ _ unlocked =>
      rw [unlocked] at waits
      cases waits

theorem releaseOf_callSttable {system : TimerSystem} {owner : Nat}
    {id : TcpSessionID} (timer : system.callSttable.ReleaseOf owner id) :
    system.ReleaseOf owner id := by
  rcases timer with released | ⟨waits, rfl, rfl⟩ | executed
  · exact Or.inl (mem_of_unread released)
  · exact releaseOf_waits waits
  · rcases List.mem_append.1 executed with before | isNew
    · exact Or.inr (Or.inr before)
    · exact releaseOf_releasesNow isNew

theorem releaseOf_callSlookup {system : TimerSystem}
    {process : SlookupProcess} {owner : Nat} {id : TcpSessionID}
    (timer : (system.callSlookup process).ReleaseOf owner id) :
    system.ReleaseOf owner id := by
  rcases timer with released | waits | executed
  · exact Or.inl released
  · exact Or.inr (Or.inl waits)
  · exact Or.inr (Or.inr (mem_of_unread executed))

theorem timerOf_callSlookup {system : TimerSystem}
    {process : SlookupProcess} {owner : Nat} {id : TcpSessionID}
    (timer : (system.callSlookup process).TimerOf owner id) :
    system.TimerOf owner id := by
  rcases timer with timer | timer | timer
  · exact TimerOf.ctimer timer
  · exact TimerOf.rtimer timer
  · exact TimerOf.release (releaseOf_callSlookup timer)

/-! ### The invariant -/

/-- A timer was there before, or the connection that has the ID now asks for
it. -/
theorem timerOf_step {times : TimerTimes} {system next : TimerSystem}
    {action : TimerAction} {owner : Nat} {id : TcpSessionID}
    (leavesNoTimer : LeavesNoTimer system action)
    (stepped : TimerStep times system action next)
    (timer : next.TimerOf owner id) :
    system.TimerOf owner id ∨ owner = system.connection id := by
  cases stepped with
  | rxEngTcpFsm =>
      rcases timer with (asked | others) | timer | timer
      · rcases List.mem_append.1 asked with before | isNew
        · exact Or.inl (TimerOf.ctimer (Or.inl before))
        · obtain ⟨_, _, same⟩ := List.mem_map.1 isNew
          obtain ⟨isOwner, isId⟩ := Prod.mk.inj same
          rw [← isOwner, ← isId]
          exact Or.inr rfl
      · exact Or.inl (TimerOf.ctimer (Or.inr others))
      · exact Or.inl (TimerOf.rtimer timer)
      · exact Or.inl (TimerOf.release timer)
  | stateTable =>
      rcases timer with timer | timer | timer
      · exact Or.inl (TimerOf.ctimer timer)
      · exact Or.inl (TimerOf.rtimer timer)
      · exact Or.inl (TimerOf.release (releaseOf_callSttable timer))
  | closeTimer =>
      rcases timer with timer | timer | timer
      · exact Or.inl (TimerOf.ctimer (ctimerOf_callCtimer timer))
      · exact Or.inl (TimerOf.rtimer timer)
      · exact Or.inl (TimerOf.release timer)
  | retransmitTimer full =>
      rcases timer with timer | timer | timer
      · exact Or.inl (TimerOf.ctimer timer)
      · exact
          Or.inl (TimerOf.rtimer (rtimerOf_callRtimer leavesNoTimer.1 timer))
      · exact Or.inl (TimerOf.release timer)
  | axiStreamMerger =>
      exact Or.inl (timerOf_callMerger timer)
  | slookup process =>
      exact Or.inl (timerOf_callSlookup timer)
  | camLookup | camUpdate =>
      rcases timer with timer | timer | timer
      · exact Or.inl (TimerOf.ctimer timer)
      · exact Or.inl (TimerOf.rtimer timer)
      · exact Or.inl (TimerOf.release timer)
  | input input =>
      cases input with
      | setRtimer req =>
          rcases timer with timer | (⟨asked, member, isId⟩ | others) | timer
          · exact Or.inl (TimerOf.ctimer timer)
          · rcases List.mem_append.1 member with before | isNew
            · exact Or.inl (TimerOf.rtimer (Or.inl ⟨_, before, isId⟩))
            · obtain ⟨isOwner, isReq⟩ :=
                Prod.mk.inj (List.mem_singleton.1 isNew)
              rw [isReq] at isId
              rw [isOwner, isId]
              exact Or.inr rfl
          · exact Or.inl (TimerOf.rtimer (Or.inr others))
          · exact Or.inl (TimerOf.release timer)
      | segment | rxSarRsp | txSarRsp | txAppReq | txAppLup |
          rxEngLookup | txAppLookup | rxAppTdestReq | txAppTdestReq |
          txEngRevTableReq =>
          rcases timer with timer | timer | timer
          · exact Or.inl (TimerOf.ctimer timer)
          · exact Or.inl (TimerOf.rtimer timer)
          · exact Or.inl (TimerOf.release timer)

/-- Only the creation of a session is a new connection. -/
theorem connection_step {times : TimerTimes} {system next : TimerSystem}
    {action : TimerAction}
    (stepped : TimerStep times system action next)
    (notCreates : action ≠ .slookup .camLookupRspHandler) :
    next.connection = system.connection := by
  cases stepped with
  | slookup process =>
      cases process with
      | camLookupRspHandler =>
          exact absurd rfl notCreates
      | getNewAvailableSessionId | camUpdateReqSender |
          camUpdateRspHandler | slookupReverseTableInterface =>
          rfl
  | input input =>
      cases input <;> rfl
  | rxEngTcpFsm | stateTable | closeTimer | retransmitTimer |
      axiStreamMerger | camLookup | camUpdate =>
      rfl

theorem allOwn_step {times : TimerTimes} {system next : TimerSystem}
    {action : TimerAction}
    (allOwn : system.AllOwn) (leavesNoTimer : LeavesNoTimer system action)
    (stepped : TimerStep times system action next) : next.AllOwn := by
  intro owner id timer
  by_cases creates : action = .slookup .camLookupRspHandler
  · rw [creates] at stepped leavesNoTimer
    cases stepped
    have before := timerOf_callSlookup timer
    rw [allOwn owner id before]
    cases isNew : system.slookup.newId with
    | none =>
        simp only [callSlookup, isNew]
    | some newId =>
        have isOther : id ≠ newId := by
          intro isId
          rw [← isId] at isNew
          exact leavesNoTimer id isNew owner before
        simp only [callSlookup, isNew, Function.update_of_ne isOther]
  · rw [connection_step stepped creates]
    rcases timerOf_step leavesNoTimer stepped timer with before | isOwn
    · exact allOwn owner id before
    · exact isOwn

/-- Without requests, running entries and releases there is no timer. -/
theorem not_timerOf {system : TimerSystem}
    (ctimer : system.ctimer = CloseTimerState.start)
    (rtimer : system.rtimer = RetransmitTimerState.start)
    (ctimerSets : system.ctimerSets = [])
    (rtimerSets : system.rtimerSets = [])
    (ctimerReleases : system.ctimerReleases = [])
    (rtimerReleases : system.rtimerReleases = [])
    (timerReleases : system.timerReleases = [])
    (notLocked : system.sttable.timerReleaseLocked = false)
    (sttableReleases : system.sttableReleases = [])
    (id : TcpSessionID) (owner : Nat) : ¬system.TimerOf owner id := by
  rintro (timer | timer | timer)
  · rw [CtimerOf, ctimer, ctimerSets, ctimerReleases] at timer
    rcases timer with asked | ⟨waits, -⟩ | ⟨active, -⟩ | released
    · cases asked
    · cases waits
    · cases active
    · cases released
  · rw [RtimerOf, rtimer, rtimerSets, rtimerReleases] at timer
    rcases timer with ⟨_, asked, -⟩ | ⟨-, active, -⟩ | released
    · cases asked
    · cases active
    · cases released
  · rw [ReleaseOf, timerReleases, notLocked, sttableReleases] at timer
    rcases timer with released | ⟨waits, -⟩ | executed
    · cases released
    · cases waits
    · cases executed

theorem allOwn_start (table : TcpSessionID → RevTableEntry) :
    (start table).AllOwn := fun owner id timer =>
  absurd timer (not_timerOf rfl rfl rfl rfl rfl rfl rfl rfl rfl id owner)

theorem releasesOwn_of_allOwn {times : TimerTimes}
    {system : TimerSystem} {action : TimerAction}
    (allOwn : system.AllOwn)
    (leavesNoTimer : LeavesNoTimer system action) :
    ReleasesOwn times system action := by
  cases action with
  | closeTimer =>
      intro id released
      obtain ⟨runsOut, active⟩ := closeTimer_releases released
      have timer :=
        TimerOf.ctimer (Or.inr (Or.inr (Or.inl ⟨active, rfl⟩)))
      exact ⟨leavesNoTimer id runsOut, allOwn _ id timer⟩
  | retransmitTimer full =>
      intro id released
      have givesUp := (retransmitTimer_releases released).1
      have timer :=
        TimerOf.rtimer (rtimerOf_released leavesNoTimer.1 released)
      exact ⟨leavesNoTimer.2 id givesUp, allOwn _ id timer⟩
  | stateTable =>
      intro owner id released
      exact
        allOwn owner id (TimerOf.release (releaseOf_releasesNow released))
  | slookup process =>
      cases process with
      | slookupReverseTableInterface =>
          intro owner id isFirst _
          have member := List.mem_of_mem_head? isFirst
          exact
            allOwn owner id (TimerOf.release (Or.inr (Or.inr member)))
      | getNewAvailableSessionId | camLookupRspHandler |
          camUpdateReqSender | camUpdateRspHandler =>
          trivial
  | rxEngTcpFsm | axiStreamMerger | camLookup | camUpdate | input =>
      trivial

end TimerSystem

/-- In every run in which an ID gets a new connection only when no timer of
the ID is left, and a timer runs out only for an ID that a connection has,
every timer releases its own connection. -/
theorem releasesOwn_run
    (times : TimerTimes) (table : TcpSessionID → RevTableEntry)
    (actions : List TimerAction)
    (leavesNoTimer :
      Along (TimerStep times) LeavesNoTimer (TimerSystem.start table)
        actions) :
    Along (TimerStep times) (ReleasesOwn times) (TimerSystem.start table)
      actions := by
  have preserved (system : TimerSystem) (action : TimerAction)
      (next : TimerSystem) (allOwn : system.AllOwn)
      (leavesHere : LeavesNoTimer system action)
      (stepped : TimerStep times system action next) : next.AllOwn :=
    TimerSystem.allOwn_step allOwn leavesHere stepped
  have enough (system : TimerSystem) (action : TimerAction)
      (next : TimerSystem) (allOwn : system.AllOwn)
      (leavesHere : LeavesNoTimer system action)
      (_ : TimerStep times system action next) :
      ReleasesOwn times system action :=
    TimerSystem.releasesOwn_of_allOwn allOwn leavesHere
  exact
    along_of_invariant preserved enough (TimerSystem.allOwn_start table)
      leavesNoTimer

/-! ## A timer that outlives its connection -/

theorem TimerStep.reaches {times : TimerTimes}
    {system next final : TimerSystem} {action : TimerAction}
    {rest : List TimerAction}
    (stepped : TimerStep times system action next)
    (leaves : LeavesNoTimer system action)
    (later : Reaches (TimerStep times) LeavesNoTimer next rest final) :
    Reaches (TimerStep times) LeavesNoTimer system (action :: rest) final :=
  Reaches.head TimerStep.oneOutcome stepped leaves later

namespace TimerSystem

/-- The close timer sweeps with the cursor at `cursor`; only the entry of
session 0 runs, and nothing else has changed since `before`. -/
structure Sweeping
    (system before : TimerSystem) (cursor : Nat) (time : BitVec 32) :
    Prop where
  noSets : before.ctimerSets = []
  notWaits : system.ctimer.waitForWrite = false
  atCursor : system.ctimer.curSessionId = BitVec.ofNat 16 cursor
  running : system.ctimer.table 0 = ⟨time, true⟩
  others : ∀ id, id ≠ 0 → (system.ctimer.table id).active = false
  same : system = { before with ctimer := system.ctimer }

variable {times : TimerTimes} {before system : TimerSystem}

theorem Sweeping.of_now {cursor : Nat} {time : BitVec 32}
    (noSets : system.ctimerSets = [])
    (notWaits : system.ctimer.waitForWrite = false)
    (atCursor : system.ctimer.curSessionId = BitVec.ofNat 16 cursor)
    (running : system.ctimer.table 0 = ⟨time, true⟩)
    (others : ∀ id, id ≠ 0 → (system.ctimer.table id).active = false) :
    system.Sweeping system cursor time :=
  ⟨noSets, notWaits, atCursor, running, others, rfl⟩

theorem Sweeping.fed {cursor : Nat} {time : BitVec 32}
    (sweeping : system.Sweeping before cursor time) :
    system.fedCtimer.setReqs = [] := by
  rw [fedCtimer, sweeping.same, sweeping.noSets]
  rfl

theorem Sweeping.sweeps {cursor : Nat} {time : BitVec 32}
    (sweeping : system.Sweeping before cursor time) :
    closeTimer times system.fedCtimer = system.fedCtimer.sweep := by
  have notWaits : system.fedCtimer.waitForWrite = false :=
    sweeping.notWaits
  rw [closeTimer, notWaits, sweeping.fed]
  rfl

/-- A call that releases no session. -/
theorem Sweeping.silent {cursor : Nat} {time : BitVec 32}
    (sweeping : system.Sweeping before cursor time)
    {next : CloseTimerState}
    (called : closeTimer times system.fedCtimer = (next, [])) :
    system.callCtimer times = { before with ctimer := next } := by
  have onlyTimer :
      system.callCtimer times = { system with ctimer := next } := by
    have none : system.ctimerSets = [] :=
      (congrArg ctimerSets sweeping.same).trans sweeping.noSets
    rw [callCtimer, called]
    simp [none, sweeping.notWaits, readTag]
  rw [onlyTimer]
  exact congrArg ({ · with ctimer := next }) sweeping.same


/-- Session 0 alone can run out. -/
theorem Sweeping.leavesNoTimer {cursor : Nat} {time : BitVec 32}
    (sweeping : system.Sweeping before cursor time)
    (held : before.lookup.ids.Held 0) :
    LeavesNoTimer system .closeTimer := by
  intro id ranOut
  have active : (system.ctimer.table id).active = true := by
    rw [CloseTimerState.runsOut] at ranOut
    split at ranOut
    · rename_i conditions
      rw [← Option.some.inj ranOut]
      exact conditions.2.2.1
    · cases ranOut
  have isFirst : id = 0 := by
    by_contra isOther
    rw [sweeping.others id isOther] at active
    cases active
  rw [isFirst, sweeping.same]
  exact held

/-- The call at the entry that runs. -/
theorem Sweeping.first {time : BitVec 32}
    (sweeping : system.Sweeping before 0 time) (left : time ≠ 0) :
    (system.callCtimer times).Sweeping before 1 (time - 1) := by
  have atFirst : system.ctimer.curSessionId = 0 :=
    sweeping.atCursor
  have called :
      closeTimer times system.fedCtimer =
        ({ system.fedCtimer with
            prevSessionId := 0
            curSessionId := 1
            table :=
              Function.update system.ctimer.table 0 ⟨time - 1, true⟩ },
          []) := by
    rw [sweeping.sweeps, CloseTimerState.sweep]
    simp only [fedCtimer, atFirst, sweeping.running, if_true,
      if_neg left]
    rfl
  rw [sweeping.silent called]
  constructor
  · exact sweeping.noSets
  · exact sweeping.notWaits
  · rfl
  · exact
      Function.update_self (0 : TcpSessionID)
        (⟨time - 1, true⟩ : CloseTimerEntry) system.ctimer.table
  · intro id isOther
    change
      (Function.update system.ctimer.table 0 _ id).active = false
    rw [Function.update_of_ne isOther]
    exact sweeping.others id isOther
  · rfl

/-- A call at another entry. -/
theorem Sweeping.next {cursor : Nat} {time : BitVec 32}
    (sweeping : system.Sweeping before cursor time)
    (isOther : 0 < cursor) (inTable : cursor < tcpMaxSessions) :
    (system.callCtimer times).Sweeping before
      (if cursor + 1 = tcpMaxSessions then 0 else cursor + 1) time := by
  have notFirst : BitVec.ofNat 16 cursor ≠ 0 := by
    rw [tcpMaxSessions] at inTable
    bv_omega
  have isNext :
      (BitVec.ofNat 16 cursor + 1).toNat = cursor + 1 := by
    rw [tcpMaxSessions] at inTable
    bv_omega
  have called :
      closeTimer times system.fedCtimer =
        ({ system.fedCtimer with
            prevSessionId := BitVec.ofNat 16 cursor
            curSessionId :=
              if cursor + 1 = tcpMaxSessions then
                0
              else
                BitVec.ofNat 16 cursor + 1 },
          []) := by
    rw [sweeping.sweeps, CloseTimerState.sweep]
    simp only [fedCtimer, sweeping.atCursor, isNext,
      sweeping.others _ notFirst, Bool.false_eq_true, if_false]
  rw [sweeping.silent called]
  constructor
  · exact sweeping.noSets
  · exact sweeping.notWaits
  · simp only []
    split
    · rfl
    · bv_omega
  · exact sweeping.running
  · exact sweeping.others
  · rfl

/-- A call of the close timer that leaves no timer behind. -/
theorem Sweeping.reaches {cursor calls : Nat} {time : BitVec 32}
    {final : TimerSystem}
    (sweeping : system.Sweeping before cursor time)
    (held : before.lookup.ids.Held 0)
    (later :
      Reaches (TimerStep times) LeavesNoTimer (system.callCtimer times)
        (List.replicate calls .closeTimer) final) :
    Reaches (TimerStep times) LeavesNoTimer system
      (List.replicate (calls + 1) .closeTimer) final :=
  TimerStep.closeTimer.reaches (sweeping.leavesNoTimer held) later

/-- The rest of a sweep. -/
theorem Sweeping.finish {cursor : Nat} {time : BitVec 32}
    (left : Nat) (sweeping : system.Sweeping before cursor time)
    (held : before.lookup.ids.Held 0)
    (isOther : 0 < cursor) (isLeft : cursor + left = tcpMaxSessions)
    (notDone : 0 < left) :
    ∃ final,
      Reaches (TimerStep times) LeavesNoTimer system
          (List.replicate left .closeTimer) final ∧
        final.Sweeping before 0 time := by
  induction left generalizing system cursor with
  | zero =>
      omega
  | succ left inductionHypothesis =>
      have moved :=
        @Sweeping.next times before system cursor time sweeping isOther
          (by omega)
      by_cases atEnd : cursor + 1 = tcpMaxSessions
      · rw [if_pos atEnd] at moved
        have isLast : left = 0 := by
          omega
        rw [isLast]
        exact ⟨_, sweeping.reaches held (Reaches.refl _), moved⟩
      · rw [if_neg atEnd] at moved
        obtain ⟨final, rest, done⟩ :=
          inductionHypothesis moved (by omega) (by omega) (by omega)
        exact ⟨final, sweeping.reaches held rest, done⟩

/-- Sweep after sweep the entry runs out. -/
theorem Sweeping.runsOut
    (left : Nat) (inRange : left < 2 ^ 32)
    (sweeping : system.Sweeping before 0 (BitVec.ofNat 32 left))
    (held : before.lookup.ids.Held 0) :
    ∃ final,
      Reaches (TimerStep times) LeavesNoTimer system
          (List.replicate (tcpMaxSessions * left) .closeTimer) final ∧
        final.Sweeping before 0 0 := by
  induction left generalizing system with
  | zero =>
      exact ⟨system, Reaches.refl _, sweeping⟩
  | succ left inductionHypothesis =>
      have notZero : BitVec.ofNat 32 (left + 1) ≠ 0 := by
        bv_omega
      have less :
          BitVec.ofNat 32 (left + 1) - 1 = BitVec.ofNat 32 left := by
        bv_omega
      have moved :=
        @Sweeping.first times before system _ sweeping notZero
      rw [less] at moved
      obtain ⟨middle, rest, swept⟩ :=
        @Sweeping.finish times before _ _ _ 127 moved held (by decide)
          rfl (by decide)
      obtain ⟨final, later, done⟩ :=
        inductionHypothesis (by omega) swept
      have isSum :
          tcpMaxSessions * (left + 1) =
            127 + 1 + tcpMaxSessions * left := by
        rw [tcpMaxSessions]
        omega
      rw [isSum, ← List.replicate_append_replicate]
      exact ⟨final, (sweeping.reaches held rest).append later, done⟩

/-- Then the session is released. -/
theorem Sweeping.released (sweeping : system.Sweeping before 0 0) :
    (closeTimer times system.fedCtimer).2 = [0] := by
  have atFirst : system.ctimer.curSessionId = 0 :=
    sweeping.atCursor
  rw [sweeping.sweeps, CloseTimerState.sweep]
  simp only [fedCtimer, atFirst, sweeping.running, if_true]

end TimerSystem

/-- The application opens a connection and both sides close it: the close
timer is armed. -/
def closedByBoth : List TimerAction :=
  [.slookup .getNewAvailableSessionId,
    .input (.txAppLookup ⟨⟨1, 2, 0x0080, 3⟩, 0⟩),
    .slookup .camLookupRspHandler,
    .camLookup ⟨⟨1, 2, 0x0080, 3⟩, 0, false, .txApp⟩,
    .slookup .camLookupRspHandler, .slookup .camUpdateReqSender,
    .camUpdate, .slookup .camUpdateRspHandler,
    .slookup .camLookupRspHandler, .slookup .slookupReverseTableInterface,
    -- SYN_SENT, and the peer's SYN+ACK
    .input (.txAppReq (StateTableReq.update 0 .synSent)), .stateTable,
    .input
      (.segment
        ⟨0, 2, 0x0080,
          ⟨500, 1001, 1000, true, false, true, false, 0, 0⟩⟩),
    .rxEngTcpFsm, .stateTable, .input (.rxSarRsp ⟨0, 0, 0⟩),
    .input (.txSarRsp ⟨1000, 1001, 14600, 65535, 0, false, 0⟩),
    .rxEngTcpFsm, .stateTable,
    -- the application's close
    .input (.txAppReq (StateTableReq.lookup 0)), .stateTable,
    .input (.txAppReq (StateTableReq.update 0 .finWait1)), .stateTable,
    -- the peer's FIN+ACK
    .input
      (.segment
        ⟨0, 2, 0x0080,
          ⟨501, 1002, 1000, true, false, false, true, 0, 0⟩⟩),
    .rxEngTcpFsm, .stateTable, .input (.rxSarRsp ⟨501, 0, 0⟩),
    .input (.txSarRsp ⟨1001, 1002, 14600, 65535, 0, false, 0⟩),
    .rxEngTcpFsm, .stateTable, .closeTimer, .closeTimer, .closeTimer]

/-- The connection waits, and is released when its time is over. -/
def timeWaitEnds : List TimerAction :=
  closedByBoth ++
    (List.replicate (tcpMaxSessions * 60) .closeTimer ++
      [.closeTimer, .axiStreamMerger, .stateTable])

/-- The peer resets the connection in `TIME_WAIT`, and the ID goes to the
application's next connection. -/
def resetInTimeWait : List TimerAction :=
  [.input
      (.segment
        ⟨0, 2, 0x0080, ⟨502, 0, 0, false, true, false, false, 0, 0⟩⟩),
    .rxEngTcpFsm, .stateTable, .input (.rxSarRsp ⟨502, 0, 0⟩),
    .rxEngTcpFsm, .stateTable, .slookup .slookupReverseTableInterface,
    .slookup .camUpdateReqSender, .camUpdate,
    .slookup .camUpdateRspHandler, .slookup .getNewAvailableSessionId,
    -- the next connection
    .input (.txAppLookup ⟨⟨1, 2, 0x0180, 3⟩, 0⟩),
    .slookup .camLookupRspHandler,
    .camLookup ⟨⟨1, 2, 0x0180, 3⟩, 0, false, .txApp⟩,
    .slookup .camLookupRspHandler, .slookup .camUpdateReqSender,
    .camUpdate, .slookup .camUpdateRspHandler,
    .slookup .camLookupRspHandler, .slookup .slookupReverseTableInterface]

/-- No timer is left when the session is created, and its close timer is
armed; it still is when the next connection has the ID. -/
theorem closedByBoth_reaches :
    ∃ system,
      Reaches (TimerStep TimerTimes.simulation) LeavesNoTimer
          (TimerSystem.start fun _ => ⟨⟨0, 0, 0, 0⟩, 0⟩) closedByBoth
          system ∧
        system.Sweeping system 0 60 ∧ system.lookup.ids.Held 0 ∧
          (∀ final : TimerSystem,
            final = { system with ctimer := final.ctimer } →
              (closeTimer TimerTimes.simulation final.fedCtimer).2 = [0] →
                let released :=
                  (final.callCtimer
                    TimerTimes.simulation).callMerger.callSttable
                released.sttableReleases = [(some 1, 0)] ∧
                  released.fedSlookup.nextRelease = some 0) ∧
          ∃ next,
            Run (TimerStep TimerTimes.simulation) system resetInTimeWait
                next ∧
              next.Sweeping next 0 60 ∧ next.lookup.ids.Held 0 ∧
                next.ctimerArmedBy 0 ≠ next.connection 0 := by
  have onlyFirst (id : TcpSessionID) (isOther : id ≠ 0) :
      (Function.update (fun _ => (⟨0, false⟩ : CloseTimerEntry))
        (0 : TcpSessionID) ⟨60, true⟩ id).active = false := by
    rw [Function.update_of_ne isOther]
  apply Exists.intro
  apply And.intro
  · apply (TimerStep.slookup .getNewAvailableSessionId).reaches trivial
    apply (TimerStep.input _).reaches trivial
    apply (TimerStep.slookup _).reaches
    · intro id creates
      cases creates
    apply (TimerStep.camLookup (CamStep.camLookup rfl rfl rfl)).reaches
      trivial
    apply (TimerStep.slookup _).reaches
    · exact fun id _ =>
        TimerSystem.not_timerOf rfl rfl rfl rfl rfl rfl rfl rfl rfl id
    apply (TimerStep.slookup .camUpdateReqSender).reaches trivial
    apply (TimerStep.camUpdate (CamStep.camUpdate rfl)).reaches trivial
    apply (TimerStep.slookup .camUpdateRspHandler).reaches trivial
    apply (TimerStep.slookup _).reaches
    · intro id creates
      cases creates
    apply
      (TimerStep.slookup .slookupReverseTableInterface).reaches trivial
    apply (TimerStep.input _).reaches trivial
    apply TimerStep.stateTable.reaches trivial
    apply (TimerStep.input _).reaches trivial
    apply TimerStep.rxEngTcpFsm.reaches trivial
    apply TimerStep.stateTable.reaches trivial
    apply (TimerStep.input _).reaches trivial
    apply (TimerStep.input _).reaches trivial
    apply TimerStep.rxEngTcpFsm.reaches trivial
    apply TimerStep.stateTable.reaches trivial
    apply (TimerStep.input _).reaches trivial
    apply TimerStep.stateTable.reaches trivial
    apply (TimerStep.input _).reaches trivial
    apply TimerStep.stateTable.reaches trivial
    apply (TimerStep.input _).reaches trivial
    apply TimerStep.rxEngTcpFsm.reaches trivial
    apply TimerStep.stateTable.reaches trivial
    apply (TimerStep.input _).reaches trivial
    apply (TimerStep.input _).reaches trivial
    apply TimerStep.rxEngTcpFsm.reaches trivial
    apply TimerStep.stateTable.reaches trivial
    apply TimerStep.closeTimer.reaches
    · intro id ranOut
      cases ranOut
    apply TimerStep.closeTimer.reaches
    · intro id ranOut
      cases ranOut
    apply TimerStep.closeTimer.reaches
    · intro id ranOut
      cases ranOut
    exact Reaches.refl _
  · refine
      ⟨TimerSystem.Sweeping.of_now rfl rfl rfl rfl onlyFirst, Or.inl ?_,
        ?_, ?_⟩
    · exact List.mem_filter.2 ⟨List.mem_range.2 (by decide), rfl⟩
    · intro final same released
      rw [TimerSystem.callCtimer, released]
      rw [same]
      exact ⟨rfl, rfl⟩
    apply Exists.intro
    apply And.intro
    · apply Run.head (TimerStep.input _)
      apply Run.head TimerStep.rxEngTcpFsm
      apply Run.head TimerStep.stateTable
      apply Run.head (TimerStep.input _)
      apply Run.head TimerStep.rxEngTcpFsm
      apply Run.head TimerStep.stateTable
      apply Run.head (TimerStep.slookup _)
      apply Run.head (TimerStep.slookup _)
      apply Run.head (TimerStep.camUpdate (CamStep.camUpdate rfl))
      apply Run.head (TimerStep.slookup _)
      apply Run.head (TimerStep.slookup _)
      apply Run.head (TimerStep.input _)
      apply Run.head (TimerStep.slookup _)
      apply Run.head (TimerStep.camLookup (CamStep.camLookup rfl rfl rfl))
      apply Run.head (TimerStep.slookup _)
      apply Run.head (TimerStep.slookup _)
      apply Run.head (TimerStep.camUpdate (CamStep.camUpdate rfl))
      apply Run.head (TimerStep.slookup _)
      apply Run.head (TimerStep.slookup _)
      apply Run.head (TimerStep.slookup _)
      exact Run.refl _
    · exact
        ⟨TimerSystem.Sweeping.of_now rfl rfl rfl rfl onlyFirst,
          Or.inl
            (List.mem_filter.2 ⟨List.mem_range.2 (by decide), rfl⟩),
          by decide⟩

theorem releasesOwn_run_timeWait :
    Along (TimerStep TimerTimes.simulation)
        (ReleasesOwn TimerTimes.simulation)
        (TimerSystem.start fun _ => ⟨⟨0, 0, 0, 0⟩, 0⟩)
        (timeWaitEnds ++ [.slookup .slookupReverseTableInterface]) ∧
      ∃ system,
        Run (TimerStep TimerTimes.simulation)
            (TimerSystem.start fun _ => ⟨⟨0, 0, 0, 0⟩, 0⟩)
            timeWaitEnds system ∧
          system.sttableReleases = [(some 1, 0)] ∧
            system.fedSlookup.nextRelease = some 0 := by
  obtain ⟨armed, closed, sweeping, held, releases, -⟩ :=
    closedByBoth_reaches
  obtain ⟨final, sweeps, atEnd⟩ :=
    @TimerSystem.Sweeping.runsOut TimerTimes.simulation _ _ 60 (by decide)
      sweeping held
  have last :
      Reaches (TimerStep TimerTimes.simulation) LeavesNoTimer final
        [.closeTimer, .axiStreamMerger, .stateTable] _ :=
    TimerStep.closeTimer.reaches (atEnd.leavesNoTimer held)
      (TimerStep.axiStreamMerger.reaches trivial
        (TimerStep.stateTable.reaches trivial (Reaches.refl _)))
  have whole := closed.append (sweeps.append last)
  constructor
  · apply releasesOwn_run
    exact whole.2 _ fun _ _ => ⟨trivial, trivial⟩
  · exact ⟨_, whole.1, releases final atEnd.same atEnd.released⟩

/-- The close timer of the first connection releases the next one. -/
theorem not_releasesOwn_resetInTimeWait :
    ¬∀ times table actions,
        Along (TimerStep times) (ReleasesOwn times)
          (TimerSystem.start table) actions := by
  intro allOwn
  obtain ⟨armed, closed, -, -, -, system, reset, sweeping, held, stale⟩ :=
    closedByBoth_reaches
  have steps := closed.1.append reset
  obtain ⟨final, sweeps, ranOut⟩ :=
    @TimerSystem.Sweeping.runsOut TimerTimes.simulation _ _ 60 (by decide)
      sweeping held
  have along :=
    allOwn TimerTimes.simulation (fun _ => ⟨⟨0, 0, 0, 0⟩, 0⟩)
      (((closedByBoth ++ resetInTimeWait) ++
          List.replicate (tcpMaxSessions * 60) .closeTimer) ++
        [.closeTimer])
  have own :=
    along.of_run (steps.append sweeps.1) TimerStep.closeTimer 0
      (ranOut.released ▸ List.mem_singleton_self _)
  have isOwn := own.isOwn
  rw [ranOut.same] at isOwn
  exact stale isOwn

end TcpOffload
