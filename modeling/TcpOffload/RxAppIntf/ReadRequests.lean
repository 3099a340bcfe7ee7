import TcpOffload.RxEngine.ReceiveRing

/-!
# The read requests of the applications

`RxAppDataHandler` moves `app_read` by the length of every request it serves,
whatever has been received.  Here it runs beside `rx_sar_table`, with any
requests of the applications and of the two engines; the bytes received and
read since the session was opened are counted when the table is written.
-/

namespace TcpOffload

open Cyclic Guarded Lookup

/-! ## The handler -/

/-- The message moves `app_read` or reads the memory. -/
def RxAppDataMsg.IsRead : RxAppDataMsg → Prop
  | .rxSarReq req => req.write = true
  | .memReadCmd _ => True
  | .recvDataRsp _ _ => False
  | .recvData _ => False

/-- The session of the request that the next call serves. -/
def RxAppDataState.served (state : RxAppDataState) :
    Option TcpSessionID :=
  if state.fsmState = .waitSarRsp then
    state.rxSarRsps.head?.map RxSarAppReqRsp.sessionId
  else
    none

/-- What one call of the handler can do. -/
inductive RxAppDataCall (state : RxAppDataState) :
    RxAppDataState → List RxAppDataMsg → Prop
  | rests : RxAppDataCall state state []
  | drops {req : AppReadReq} {later : List AppReadReq} :
      state.fsmState = .waitNetAppDataReq →
      RxAppDataCall state { state with recvDataReqs := later } []
  | asks {req : AppReadReq} {later : List AppReadReq} :
      state.fsmState = .waitNetAppDataReq →
      RxAppDataCall state
        { state with
          fsmState := .waitSarRsp
          rxAppReadLength := req.readLength
          rxAppRoleId := req.dest
          recvDataReqs := later }
        [.rxSarReq (RxSarAppReqRsp.lookup req.sessionId)]
  | serves {rsp : RxSarAppReqRsp} {later : List RxSarAppReqRsp} :
      state.fsmState = .waitSarRsp →
      state.rxSarRsps = rsp :: later →
      RxAppDataCall state
        { state with fsmState := .waitData, rxSarRsps := later }
        [.recvDataRsp rsp.sessionId state.rxAppRoleId,
          .rxSarReq
            (RxSarAppReqRsp.update rsp.sessionId
              (rsp.appRead + state.rxAppReadLength.setWidth 18)),
          .memReadCmd
            (MemBufferRWCmd.ofAddr
              (getSessionMemAddr .rx rsp.sessionId rsp.appRead)
              state.rxAppReadLength)]
  | forwards {fsmState : RxAppDataFsmState} {word : NetAXISWord}
      {later : List NetAXISWord} :
      state.fsmState = .waitData →
      fsmState ≠ .waitSarRsp →
      RxAppDataCall state
        { state with fsmState := fsmState, readData := later }
        [.recvData { word with dest := state.rxAppRoleId }]

theorem rxAppDataHandler_call (state : RxAppDataState) :
    RxAppDataCall state (rxAppDataHandler state).1
      (rxAppDataHandler state).2 := by
  rw [rxAppDataHandler]
  split
  · rename_i waits
    split
    · rename_i req later reqs
      split
      · exact RxAppDataCall.asks waits
      · exact @RxAppDataCall.drops _ req later waits
    · exact RxAppDataCall.rests
  · rename_i waits
    split
    · rename_i rsp later rsps
      exact RxAppDataCall.serves waits rsps
    · exact RxAppDataCall.rests
  · rename_i waits
    split
    · rename_i word later words
      refine RxAppDataCall.forwards waits ?_
      split
      · exact RxAppDataFsmState.noConfusion
      · exact RxAppDataFsmState.noConfusion
    · exact RxAppDataCall.rests

/-! ## Runs -/

/-- The handler and the table, with the bytes of one session that were
received and read since it was opened. -/
structure ReadSystem where
  table : RxSarTableState
  app : RxAppDataState
  received : Nat
  read : Nat

inductive ReadAction where
  | rxSarTable
  | rxAppDataHandler
  | recvDataReq (req : AppReadReq)
  | readData (word : NetAXISWord)
  | txEngLup (id : TcpSessionID)
  | rxEngReq (req : RxEngToRxSarReq)
deriving DecidableEq, Repr

namespace ReadSystem

def entry (system : ReadSystem) (id : TcpSessionID) : RxSarTableEntry :=
  system.table.table id

/-- The bytes received and not read, as the pointers of the table say. -/
def unread (system : ReadSystem) (id : TcpSessionID) : Nat :=
  distance (system.entry id).appRead
    ((system.entry id).recvd.setWidth 18)

/-- The write of the applications that the table serves next. -/
def appWrite (system : ReadSystem) : Option RxSarAppReqRsp :=
  match system.table.txEngLups, system.table.rxAppReqs with
  | [], req :: _ => if req.write then some req else none
  | _, _ => none

/-- The write of the RX engine that the table serves next. -/
def engWrite (system : ReadSystem) : Option RxEngToRxSarReq :=
  match system.table.txEngLups, system.table.rxAppReqs,
      system.table.rxEngReqs with
  | [], [], req :: _ => if req.write then some req else none
  | _, _, _ => none

/-- The bytes received once the table has served its next request. -/
def receivedNext (system : ReadSystem) (id : TcpSessionID) : Nat :=
  match system.engWrite with
  | some req =>
      if req.sessionId = id then
        if req.init then
          0
        else
          system.received + distance (system.entry id).recvd req.recvd
      else
        system.received
  | none => system.received

/-- The bytes read once the table has served its next request. -/
def readNext (system : ReadSystem) (id : TcpSessionID) : Nat :=
  match system.appWrite, system.engWrite with
  | some req, _ =>
      if req.sessionId = id then
        system.read + distance (system.entry id).appRead req.appRead
      else
        system.read
  | none, some req =>
      if req.sessionId = id ∧ req.init = true then 0 else system.read
  | none, none => system.read

/-- The table as it starts, with what is received and not read in it. -/
def start
    (table : TcpSessionID → RxSarTableEntry) (id : TcpSessionID) :
    ReadSystem where
  table := ⟨table, [], [], []⟩
  app := RxAppDataState.start
  received :=
    distance (table id).appRead ((table id).recvd.setWidth 18)
  read := 0

def act (id : TcpSessionID) (system : ReadSystem) :
    ReadAction → ReadSystem
  | .rxSarTable =>
      let called := TcpOffload.rxSarTable system.table
      { table := called.1
        app :=
          { system.app with
            rxSarRsps :=
              system.app.rxSarRsps ++
                called.2.filterMap RxSarTableMsg.toRxApp }
        received := system.receivedNext id
        read := system.readNext id }
  | .rxAppDataHandler =>
      let called := TcpOffload.rxAppDataHandler system.app
      { system with
        table :=
          { system.table with
            rxAppReqs :=
              system.table.rxAppReqs ++
                called.2.filterMap RxAppDataMsg.toRxSar }
        app := called.1 }
  | .recvDataReq req =>
      { system with
        app :=
          { system.app with
            recvDataReqs := system.app.recvDataReqs ++ [req] } }
  | .readData word =>
      { system with
        app :=
          { system.app with
            readData := system.app.readData ++ [word] } }
  | .txEngLup other =>
      { system with
        table :=
          { system.table with
            txEngLups := system.table.txEngLups ++ [other] } }
  | .rxEngReq req =>
      { system with
        table :=
          { system.table with
            rxEngReqs := system.table.rxEngReqs ++ [req] } }

end ReadSystem

def ReadStep (id : TcpSessionID) (system : ReadSystem)
    (action : ReadAction) (next : ReadSystem) : Prop :=
  next = system.act id action

/-- A read of the session moves `app_read` and reads the memory only within
the bytes that are received and not read. -/
def ReadsReceived
    (id : TcpSessionID) (system : ReadSystem) : ReadAction → Prop
  | .rxAppDataHandler =>
      system.app.served = some id →
      (∃ msg ∈ (rxAppDataHandler system.app).2, msg.IsRead) →
      system.app.rxAppReadLength.toNat ≤ system.unread id
  | _ => True

/-- The request that is served asks for no more than the bytes received and
not read. -/
def AsksReceived
    (id : TcpSessionID) (system : ReadSystem) : ReadAction → Prop
  | .rxAppDataHandler =>
      system.app.served = some id →
      system.app.rxAppReadLength.toNat ≤ system.unread id
  | _ => True

/-- The session is not opened anew while an answer to a read of it waits. -/
def OpensUnasked
    (id : TcpSessionID) (system : ReadSystem) : ReadAction → Prop
  | .rxSarTable =>
      ∀ req ∈ system.engWrite,
        req.sessionId = id →
        req.init = true →
        ∀ rsp ∈ system.app.rxSarRsps, rsp.sessionId ≠ id
  | _ => True

instance (id : TcpSessionID) (system : ReadSystem) :
    ∀ action : ReadAction, Decidable (AsksReceived id system action)
  | .rxAppDataHandler => inferInstanceAs (Decidable (_ → _ ≤ _))
  | .rxSarTable | .recvDataReq _ | .readData _ | .txEngLup _
  | .rxEngReq _ => isTrue trivial

instance (id : TcpSessionID) (system : ReadSystem) :
    ∀ action : ReadAction, Decidable (OpensUnasked id system action)
  | .rxSarTable =>
      inferInstanceAs (Decidable (∀ req ∈ system.engWrite, _ → _ → _))
  | .rxAppDataHandler | .recvDataReq _ | .readData _ | .txEngLup _
  | .rxEngReq _ => isTrue trivial

/-- A request that is served moves `app_read` and reads the memory. -/
theorem RxAppDataState.isRead_of_served
    {state : RxAppDataState} {id : TcpSessionID}
    (served : state.served = some id) :
    ∃ msg ∈ (TcpOffload.rxAppDataHandler state).2, msg.IsRead := by
  rw [RxAppDataState.served] at served
  split at served
  · rename_i waits
    cases rsps : state.rxSarRsps with
    | nil =>
        rw [rsps] at served
        cases served
    | cons rsp later =>
        rw [TcpOffload.rxAppDataHandler, waits]
        simp only [rsps]
        exact
          ⟨_, List.mem_cons_of_mem _ List.mem_cons_self, rfl⟩
  · cases served

/-- The handler does not look at what has been received. -/
theorem readsReceived_iff {id : TcpSessionID} (system : ReadSystem)
    (action : ReadAction) :
    ReadsReceived id system action ↔ AsksReceived id system action := by
  cases action with
  | rxAppDataHandler =>
      constructor
      · intro reads served
        exact reads served (RxAppDataState.isRead_of_served served)
      · intro asks served _
        exact asks served
  | rxSarTable | recvDataReq | readData | txEngLup | rxEngReq =>
      exact Iff.rfl

/-! ## The invariant -/

/-- A write on its way moves `app_read` no further than what has been
received. -/
structure PendingRead
    (id : TcpSessionID) (appRead : TcpSessionBuffer) (room : Nat)
    (req : RxSarAppReqRsp) : Prop where
  isWrite : req.write = true
  isOwn : req.sessionId = id
  short : distance appRead req.appRead ≤ room

structure CurrentRead
    (id reading : TcpSessionID) (appRead : TcpSessionBuffer)
    (rsp : RxSarAppReqRsp) : Prop where
  session : rsp.sessionId = reading
  appRead : reading = id → rsp.appRead = appRead

abbrev ReadAccess
    (id reading : TcpSessionID) (appRead : TcpSessionBuffer)
    (room : Nat) :
    Bool → List RxSarAppReqRsp → List RxSarAppReqRsp → Prop :=
  Phase
    (Writes True (fun req => req.write = true ∧ req.sessionId ≠ id)
      (PendingRead id appRead room))
    (CurrentRead id reading appRead)
    (RxSarAppReqRsp.lookup reading)

/-- The pointers of the table are those of the counted bytes, of which no
more are read than received. -/
structure CountedBytes
    (entry : RxSarTableEntry) (received read : Nat) : Prop where
  behind : read ≤ received
  pointers :
    ∃ base : TcpSessionBuffer,
      entry.recvd.setWidth 18 = base + BitVec.ofNat 18 received ∧
        entry.appRead = base + BitVec.ofNat 18 read

namespace CountedBytes

variable {entry : RxSarTableEntry} {received read : Nat}

theorem unread_le (counted : CountedBytes entry received read) :
    distance entry.appRead (entry.recvd.setWidth 18) ≤
      received - read := by
  obtain ⟨base, isRecvd, isRead⟩ := counted.pointers
  have total : received = read + (received - read) := by
    have behind := counted.behind
    omega
  have reached :
      base + BitVec.ofNat 18 received =
        base + BitVec.ofNat 18 read +
          BitVec.ofNat 18 (received - read) := by
    rw [BitVec.add_assoc, ← BitVec.ofNat_add, ← total]
  rw [isRecvd, isRead, distance, reached, BitVec.add_comm,
    BitVec.add_sub_cancel, BitVec.toNat_ofNat]
  exact Nat.mod_le _ _

/-- `app_read` moves within the bytes that are received. -/
theorem moveRead (counted : CountedBytes entry received read)
    {req : RxSarAppReqRsp}
    (short : distance entry.appRead req.appRead ≤ received - read) :
    CountedBytes (entry.rxAppWrite req) received
      (read + distance entry.appRead req.appRead) := by
  obtain ⟨base, isRecvd, isRead⟩ := counted.pointers
  have behind := counted.behind
  refine ⟨by omega, base, isRecvd, ?_⟩
  change req.appRead = _
  rw [BitVec.ofNat_add, ← BitVec.add_assoc, ← isRead, distance,
    BitVec.ofNat_toNat, BitVec.setWidth_eq, BitVec.add_comm,
    BitVec.sub_add_cancel]

/-- `recvd` moves up. -/
theorem moveRecvd (counted : CountedBytes entry received read)
    {req : RxEngToRxSarReq} (keeps : req.init = false) :
    CountedBytes (entry.rxEngWrite req)
      (received + distance entry.recvd req.recvd) read := by
  obtain ⟨base, isRecvd, isRead⟩ := counted.pointers
  have behind := counted.behind
  have written :
      entry.rxEngWrite req = { entry with recvd := req.recvd } := by
    rw [RxSarTableEntry.rxEngWrite, if_neg (Bool.eq_false_iff.1 keeps)]
  rw [written]
  refine ⟨by omega, base, ?_, isRead⟩
  change req.recvd.setWidth 18 = _
  rw [BitVec.ofNat_add, ← BitVec.add_assoc, ← isRecvd, distance,
    BitVec.ofNat_toNat, ← BitVec.setWidth_add _ _ (by decide),
    BitVec.add_comm, BitVec.sub_add_cancel]

/-- Nothing is left to read of a session that is opened. -/
theorem opened {req : RxEngToRxSarReq} (opens : req.init = true) :
    CountedBytes (entry.rxEngWrite req) 0 0 := by
  rw [RxSarTableEntry.rxEngWrite, if_pos opens]
  exact
    ⟨Nat.le_refl _, req.recvd.setWidth 18, (BitVec.add_zero _).symm,
      (BitVec.add_zero _).symm⟩

end CountedBytes

structure ReadInvariant
    (id reading : TcpSessionID) (system : ReadSystem) : Prop where
  access :
    ReadAccess id reading (system.entry id).appRead
      (system.received - system.read)
      (decide (system.app.fsmState = .waitSarRsp))
      system.app.rxSarRsps system.table.rxAppReqs
  counted : CountedBytes (system.entry id) system.received system.read

namespace ReadInvariant

variable {id reading : TcpSessionID} {system : ReadSystem}

theorem start
    (table : TcpSessionID → RxSarTableEntry) (id : TcpSessionID) :
    ReadInvariant id id (ReadSystem.start table id) where
  access :=
    Phase.idle (Writes.settled trivial fun _ member => by cases member)
  counted := by
    refine
      ⟨Nat.zero_le _, (table id).appRead, ?_, (BitVec.add_zero _).symm⟩
    change (table id).recvd.setWidth 18 = _
    rw [ReadSystem.start, distance, BitVec.ofNat_toNat,
      BitVec.setWidth_eq, BitVec.add_comm, BitVec.sub_add_cancel]

/-! ## Calls of the table -/

/-- The table writes for an application. -/
theorem appWrite {req : RxSarAppReqRsp} {later : List RxSarAppReqRsp}
    {next : ReadSystem}
    (invariant : ReadInvariant id reading system)
    (reqs : system.table.rxAppReqs = req :: later)
    (isWrite : req.write = true)
    (sameApp : next.app = system.app)
    (table :
      next.table =
        { system.table with rxAppReqs := later }.setEntry req.sessionId
          ((system.entry req.sessionId).rxAppWrite req))
    (sameReceived : next.received = system.received)
    (read :
      next.read =
        if req.sessionId = id then
          system.read + distance (system.entry id).appRead req.appRead
        else
          system.read) :
    ReadInvariant id reading next := by
  have access := invariant.access
  rw [reqs] at access
  have notLookup : req ≠ RxSarAppReqRsp.lookup reading := by
    intro isLookup
    rw [isLookup] at isWrite
    cases isWrite
  obtain ⟨writes, pending, member⟩ :=
    access.mem_pending List.mem_cons_self notLookup
  by_cases isOwn : req.sessionId = id
  · have entryNext :
        next.entry id = (system.entry id).rxAppWrite req := by
      rw [ReadSystem.entry, table, isOwn]
      exact Function.update_self _ _ _
    have own : PendingRead id (system.entry id).appRead
        (system.received - system.read) req := by
      rcases pending.of_mem member with isOther | own
      · exact absurd isOwn isOther.2
      · exact own
    refine ⟨?_, ?_⟩
    · rw [sameApp, table]
      refine access.serveWrite notLookup fun rest known => ?_
      rcases known.served with ⟨isOther, _⟩ | ⟨_, others⟩
      · exact absurd isOwn isOther.2
      · exact Writes.settled trivial others
    · rw [entryNext, sameReceived, read, if_pos isOwn]
      exact invariant.counted.moveRead own.short
  · have entryNext : next.entry id = system.entry id := by
      rw [ReadSystem.entry, table]
      exact Function.update_of_ne (Ne.symm isOwn) _ _
    refine ⟨?_, ?_⟩
    · rw [sameApp, table, entryNext, sameReceived, read, if_neg isOwn]
      refine access.serveWrite notLookup fun rest known => ?_
      rcases known.served with ⟨_, laterWrites⟩ | ⟨own, _⟩
      · exact laterWrites
      · exact absurd own.isOwn isOwn
    · rw [entryNext, sameReceived, read, if_neg isOwn]
      exact invariant.counted

/-- The table answers the handler. -/
theorem appLookup {req : RxSarAppReqRsp} {later : List RxSarAppReqRsp}
    {next : ReadSystem}
    (invariant : ReadInvariant id reading system)
    (reqs : system.table.rxAppReqs = req :: later)
    (isLookup : req.write = false)
    (app :
      next.app =
        { system.app with
          rxSarRsps :=
            system.app.rxSarRsps ++
              [RxSarAppReqRsp.update req.sessionId
                (system.entry req.sessionId).appRead] })
    (table : next.table = { system.table with rxAppReqs := later })
    (sameReceived : next.received = system.received)
    (sameRead : next.read = system.read) :
    ReadInvariant id reading next := by
  have access := invariant.access
  rw [reqs] at access
  obtain ⟨isAsked, _, answers⟩ :=
    access.serveLookup fun writes pending member => by
      have isWrite : req.write = true := by
        rcases pending.of_mem member with isOther | own
        · exact isOther.1
        · exact own.isWrite
      rw [isLookup] at isWrite
      cases isWrite
  have entryNext : next.entry id = system.entry id := by
    rw [ReadSystem.entry, table]
    rfl
  refine ⟨?_, ?_⟩
  · rw [app, table, entryNext, sameReceived, sameRead]
    refine answers _ ⟨?_, fun own => ?_⟩
    · rw [isAsked]
      rfl
    · rw [isAsked]
      exact congrArg (fun other => (system.entry other).appRead) own
  · rw [entryNext, sameReceived, sameRead]
    exact invariant.counted

/-- The table writes for the RX engine, with no access of the applications
before it. -/
theorem engWrite {req : RxEngToRxSarReq} {later : List RxEngToRxSarReq}
    {next : ReadSystem}
    (invariant : ReadInvariant id reading system)
    (noReqs : system.table.rxAppReqs = [])
    (unasked :
      req.sessionId = id →
      req.init = true →
      ∀ rsp ∈ system.app.rxSarRsps, rsp.sessionId ≠ id)
    (sameApp : next.app = system.app)
    (table :
      next.table =
        { system.table with rxEngReqs := later }.setEntry req.sessionId
          ((system.entry req.sessionId).rxEngWrite req))
    (received :
      next.received =
        if req.sessionId = id then
          if req.init then
            0
          else
            system.received + distance (system.entry id).recvd req.recvd
        else
          system.received)
    (read :
      next.read =
        if req.sessionId = id ∧ req.init = true then
          0
        else
          system.read) :
    ReadInvariant id reading next := by
  have access := invariant.access
  have noNext : next.table.rxAppReqs = [] := by
    rw [table]
    exact noReqs
  -- No write is on its way, so only an answer says something of the entry.
  have moved
      (answers :
        ∀ rsp ∈ system.app.rxSarRsps,
          rsp.sessionId = id →
          (next.entry id).appRead = (system.entry id).appRead) :
      ReadAccess id reading (next.entry id).appRead
        (next.received - next.read)
        (decide (next.app.fsmState = .waitSarRsp))
        next.app.rxSarRsps next.table.rxAppReqs := by
    rw [sameApp, noNext]
    rw [noReqs] at access
    rcases access.of_empty with
      ⟨notSent, noRsps⟩ | ⟨rsp, sent, isRsp, current⟩
    · rw [notSent, noRsps]
      exact
        Phase.idle
          (Writes.settled trivial fun _ member => by cases member)
    · rw [sent, isRsp]
      refine Phase.answered ⟨current.session, fun own => ?_⟩
      have same :=
        answers rsp (by rw [isRsp]; exact List.mem_cons_self)
          (current.session.trans own)
      rw [same]
      exact current.appRead own
  by_cases isOwn : req.sessionId = id
  · have entryNext :
        next.entry id = (system.entry id).rxEngWrite req := by
      rw [ReadSystem.entry, table, isOwn]
      exact Function.update_self _ _ _
    by_cases opens : req.init = true
    · refine ⟨moved fun rsp member own => ?_, ?_⟩
      · exact absurd own (unasked isOwn opens rsp member)
      · rw [entryNext, received, read, if_pos isOwn, if_pos opens,
          if_pos ⟨isOwn, opens⟩]
        exact CountedBytes.opened opens
    · refine ⟨moved fun rsp member own => ?_, ?_⟩
      · rw [entryNext, RxSarTableEntry.rxEngWrite, if_neg opens]
      · rw [entryNext, received, read, if_pos isOwn, if_neg opens,
          if_neg fun both => opens both.2]
        exact
          invariant.counted.moveRecvd (Bool.eq_false_iff.2 opens)
  · have entryNext : next.entry id = system.entry id := by
      rw [ReadSystem.entry, table]
      exact Function.update_of_ne (Ne.symm isOwn) _ _
    refine ⟨moved fun rsp member own => by rw [entryNext], ?_⟩
    rw [entryNext, received, read, if_neg isOwn,
      if_neg fun both => isOwn both.1]
    exact invariant.counted

theorem rxSarTable (invariant : ReadInvariant id reading system)
    (unasked : OpensUnasked id system .rxSarTable) :
    ReadInvariant id reading (system.act id .rxSarTable) := by
  obtain ⟨⟨table, lups, appReqs, engReqs⟩, app, received, read⟩ := system
  have noAnswer :
      ({ app with rxSarRsps := app.rxSarRsps ++ [] } : RxAppDataState) =
        app := by
    rw [List.append_nil]
  cases lups with
  | cons lup later =>
      refine ⟨?_, invariant.counted⟩
      change
        ReadAccess _ _ _ _ _ (app.rxSarRsps ++ []) _
      rw [List.append_nil]
      exact invariant.access
  | nil =>
      cases appReqs with
      | cons req later =>
          cases isWrite : req.write with
          | true =>
              refine
                invariant.appWrite rfl isWrite ?_ ?_ rfl ?_
              · simp only [ReadSystem.act, TcpOffload.rxSarTable, isWrite,
                  if_true, List.filterMap_nil, noAnswer]
              · simp only [ReadSystem.act, TcpOffload.rxSarTable, isWrite,
                  if_true]
                rfl
              · simp only [ReadSystem.act, ReadSystem.readNext,
                  ReadSystem.appWrite, isWrite, if_true]
          | false =>
              refine
                invariant.appLookup rfl isWrite ?_ ?_ rfl ?_
              · simp only [ReadSystem.act, TcpOffload.rxSarTable, isWrite,
                  Bool.false_eq_true, if_false]
                rfl
              · simp only [ReadSystem.act, TcpOffload.rxSarTable, isWrite,
                  Bool.false_eq_true, if_false]
              · simp only [ReadSystem.act, ReadSystem.readNext,
                  ReadSystem.appWrite, ReadSystem.engWrite, isWrite,
                  Bool.false_eq_true, if_false]
      | nil =>
          cases engReqs with
          | cons req later =>
              cases isWrite : req.write with
              | true =>
                  have isNext :
                      ReadSystem.engWrite
                          ⟨⟨table, [], [], req :: later⟩, app, received,
                            read⟩ =
                        some req :=
                    if_pos isWrite
                  refine
                    @ReadInvariant.engWrite _ _ _ req later _ invariant rfl
                      (unasked req isNext) ?_ ?_ ?_ ?_
                  · simp only [ReadSystem.act, TcpOffload.rxSarTable,
                      isWrite, if_true, List.filterMap_nil, noAnswer]
                  · simp only [ReadSystem.act, TcpOffload.rxSarTable,
                      isWrite, if_true]
                    rfl
                  · simp only [ReadSystem.act, ReadSystem.receivedNext,
                      isNext]
                  · simp only [ReadSystem.act, ReadSystem.readNext,
                      ReadSystem.appWrite, isNext]
              | false =>
                  have noWrite :
                      ReadSystem.engWrite
                          ⟨⟨table, [], [], req :: later⟩, app, received,
                            read⟩ =
                        none :=
                    if_neg (Bool.eq_false_iff.1 isWrite)
                  have next :
                      ReadSystem.act id
                          ⟨⟨table, [], [], req :: later⟩, app, received,
                            read⟩
                          .rxSarTable =
                        ⟨⟨table, [], [], later⟩, app, received, read⟩ := by
                    simp only [ReadSystem.act, TcpOffload.rxSarTable,
                      isWrite, Bool.false_eq_true, if_false,
                      ReadSystem.receivedNext, ReadSystem.readNext,
                      ReadSystem.appWrite, noWrite]
                    exact
                      congrArg
                        (fun app =>
                          (⟨⟨table, [], [], later⟩, app, received, read⟩ :
                            ReadSystem))
                        noAnswer
                  rw [next]
                  exact ⟨invariant.access, invariant.counted⟩
          | nil =>
              refine ⟨?_, invariant.counted⟩
              change
                ReadAccess _ _ _ _ _ (app.rxSarRsps ++ []) _
              rw [List.append_nil]
              exact invariant.access

/-! ## Calls of the handler -/

theorem rxAppDataHandler (invariant : ReadInvariant id reading system)
    (asks : AsksReceived id system .rxAppDataHandler) :
    ∃ nextReading,
      ReadInvariant id nextReading
        (system.act id .rxAppDataHandler) := by
  have call := rxAppDataHandler_call system.app
  have counted :
      CountedBytes ((system.act id .rxAppDataHandler).entry id)
        (system.act id .rxAppDataHandler).received
        (system.act id .rxAppDataHandler).read :=
    invariant.counted
  have access := invariant.access
  -- The pointers stay; the access is what a call changes.
  have next {nextReading : TcpSessionID} {app : RxAppDataState}
      {msgs : List RxAppDataMsg}
      (called : TcpOffload.rxAppDataHandler system.app = (app, msgs))
      (after :
        ReadAccess id nextReading (system.entry id).appRead
          (system.received - system.read)
          (decide (app.fsmState = .waitSarRsp)) app.rxSarRsps
          (system.table.rxAppReqs ++
            msgs.filterMap RxAppDataMsg.toRxSar)) :
      ∃ nextReading,
        ReadInvariant id nextReading
          (system.act id .rxAppDataHandler) := by
    refine ⟨nextReading, ?_, counted⟩
    simp only [ReadSystem.act, called]
    exact after
  generalize called : TcpOffload.rxAppDataHandler system.app = result
    at call
  obtain ⟨app, msgs⟩ := result
  cases call with
  | rests =>
      refine @next reading _ _ called ?_
      rw [List.filterMap_nil, List.append_nil]
      exact access
  | drops waits =>
      refine @next reading _ _ called ?_
      rw [List.filterMap_nil, List.append_nil]
      exact access
  | @asks req later waits =>
      have notSent : decide (system.app.fsmState = .waitSarRsp) = false := by
        rw [waits]
        rfl
      rw [notSent] at access
      obtain ⟨noRsps, pending⟩ := access.of_idle
      refine @next req.sessionId _ _ called ?_
      change ReadAccess _ _ _ _ true system.app.rxSarRsps _
      rw [noRsps]
      exact Phase.asked pending
  | @serves rsp later waits rsps =>
      rw [rsps] at access
      obtain ⟨_, current, noRsps, noReqs⟩ := access.of_answered
      refine @next reading _ _ called ?_
      rw [noReqs, noRsps]
      refine Phase.idle ?_
      by_cases own : reading = id
      · refine
          Writes.first ⟨rfl, current.session.trans own, ?_⟩
            fun _ member => by cases member
        have served : system.app.served = some id := by
          rw [RxAppDataState.served, if_pos waits, rsps]
          exact congrArg some (current.session.trans own)
        have short := asks served
        have within := invariant.counted.unread_le
        change
          distance (system.entry id).appRead
              (rsp.appRead + system.app.rxAppReadLength.setWidth 18) ≤ _
        rw [current.appRead own, distance, BitVec.add_comm,
          BitVec.add_sub_cancel, BitVec.toNat_setWidth,
          Nat.mod_eq_of_lt
            (Nat.lt_trans (BitVec.isLt _) (by decide))]
        exact Nat.le_trans short within
      · refine Writes.settled trivial fun req member => ?_
        rw [List.mem_singleton.1 member]
        exact ⟨rfl, fun same => own (current.session.symm.trans same)⟩
  | @forwards fsmState word later waits notWaits =>
      refine @next reading _ _ called ?_
      have notSent : decide (system.app.fsmState = .waitSarRsp) = false := by
        rw [waits]
        rfl
      rw [notSent] at access
      change
        ReadAccess _ _ _ _ (decide (fsmState = .waitSarRsp))
          system.app.rxSarRsps (system.table.rxAppReqs ++ [])
      rw [List.append_nil, decide_eq_false notWaits]
      exact access

theorem act (invariant : ReadInvariant id reading system)
    {action : ReadAction}
    (asks : AsksReceived id system action)
    (unasked : OpensUnasked id system action) :
    ∃ nextReading,
      ReadInvariant id nextReading (system.act id action) := by
  cases action with
  | rxSarTable =>
      exact ⟨reading, invariant.rxSarTable unasked⟩
  | rxAppDataHandler =>
      exact invariant.rxAppDataHandler asks
  | recvDataReq | readData | txEngLup | rxEngReq =>
      exact ⟨reading, invariant.access, invariant.counted⟩

end ReadInvariant

/-- The reads stay within what is received in exactly the runs whose
requests ask for no more, and then no more is read than received. -/
theorem readRequests_checked
    (id : TcpSessionID) (table : TcpSessionID → RxSarTableEntry)
    (actions : List ReadAction) (final : ReadSystem) :
    (Along (ReadStep id) (ReadsReceived id) (ReadSystem.start table id)
        actions ↔
      Along (ReadStep id) (AsksReceived id) (ReadSystem.start table id)
        actions) ∧
      (Along (ReadStep id)
          (fun system action =>
            AsksReceived id system action ∧
              OpensUnasked id system action)
          (ReadSystem.start table id) actions →
        Run (ReadStep id) (ReadSystem.start table id) actions final →
        final.read ≤ final.received) := by
  refine ⟨⟨fun along => ?_, fun along => ?_⟩, fun along run => ?_⟩
  · exact along.map fun system action => (readsReceived_iff system action).1
  · exact along.map fun system action => (readsReceived_iff system action).2
  · obtain ⟨reading, invariant⟩ :
        ∃ reading, ReadInvariant id reading final := by
      refine
        invariant_of_run
          (fun (system : ReadSystem) action next
              (known : ∃ reading, ReadInvariant id reading system)
              (guarded :
                AsksReceived id system action ∧
                  OpensUnasked id system action)
              (stepped : ReadStep id system action next) => ?_)
          ⟨id, ReadInvariant.start table id⟩ along run
      obtain ⟨reading, invariant⟩ := known
      rw [show next = system.act id action from stepped]
      exact invariant.act guarded.1 guarded.2
    exact invariant.counted.behind

/-- Session 1 is opened, receives 100 bytes, and 60 are read. -/
def readsSixty : List ReadAction :=
  [.rxEngReq ⟨1000, 1, 2, true, true⟩, .rxSarTable,
    .rxEngReq ⟨1100, 1, 0, true, false⟩, .rxSarTable,
    .recvDataReq ⟨1, 60, 0⟩, .rxAppDataHandler, .rxSarTable,
    .rxAppDataHandler, .rxSarTable]

def noBytes (_ : TcpSessionID) : RxSarTableEntry :=
  ⟨0, 0, 0⟩

theorem readRequests_checked_sixty :
    (readsSixty.foldl (ReadSystem.act 1)
        (ReadSystem.start noBytes 1)).read ≤
      (readsSixty.foldl (ReadSystem.act 1)
        (ReadSystem.start noBytes 1)).received := by
  refine
    (readRequests_checked 1 noBytes readsSixty _).2
      (along_iff_enabled.2 ?_)
      (@Run.of_act _ _ (ReadStep 1) (ReadSystem.act 1)
        (fun _ _ => rfl) _ _)
  decide +kernel

/-- A byte of session 0, which has received nothing, is read. -/
def readsUnreceived : List ReadAction :=
  [.recvDataReq ⟨0, 1, 0⟩, .rxAppDataHandler, .rxSarTable,
    .rxAppDataHandler, .rxSarTable]

/-- The memory is read and `app_read` moved for a byte that was never
received. -/
theorem not_readRequests_checked :
    ¬ ∀ (id : TcpSessionID) (table : TcpSessionID → RxSarTableEntry)
        (actions : List ReadAction) (final : ReadSystem),
      Run (ReadStep id) (ReadSystem.start table id) actions final →
      Along (ReadStep id) (ReadsReceived id) (ReadSystem.start table id)
          actions ∧
        final.read ≤ final.received := by
  intro all
  have behind :=
    (all 0 noBytes readsUnreceived _
      (@Run.of_act _ _ (ReadStep 0) (ReadSystem.act 0)
        (fun _ _ => rfl) _ _)).2
  revert behind
  decide +kernel

end TcpOffload
