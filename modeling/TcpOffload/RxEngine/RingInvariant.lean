import TcpOffload.RxEngine.ReceiveRing

/-!
# The invariant of the receive ring

Seen from `app_read`, the bytes the application may still read end at
`recvd`, wherever the requests that move the two pointers are.  The calls of
the machine keep it so.
-/

namespace TcpOffload

open Cyclic Guarded Lookup

/-! ## Requests on their way -/

/-- What is on its way from the machine ends with `received` as the pointer.
A write that opens the session finds no read of it under way. -/
structure RecvdWrite
    (id : TcpSessionID) (received : TcpSessionBuffer) (quiet : Prop)
    (req : RxEngToRxSarReq) : Prop where
  isWrite : req.write = true
  isOwn : req.sessionId = id
  recvd : req.recvd.setWidth 18 = received
  opens : req.init = true → quiet

/-- An answer that still bounds the free space from below. -/
structure RecvdAnswer
    (id : TcpSessionID) (entry : RxSarTableEntry)
    (received : TcpSessionBuffer) (inHand : TcpSessionID)
    (rsp : RxSarTableEntry) : Prop where
  settled : entry.recvd.setWidth 18 = received
  recvd : inHand = id → rsp.recvd.setWidth 18 = received
  freed :
    inHand = id →
      distance entry.appRead received ≤ distance rsp.appRead received

abbrev RecvdPhase
    (id : TcpSessionID) (entry : RxSarTableEntry)
    (received : TcpSessionBuffer) (quiet : Prop)
    (inHand : TcpSessionID) :
    Bool → List RxSarTableEntry → List RxEngToRxSarReq → Prop :=
  Phase
    (Writes (entry.recvd.setWidth 18 = received)
      (fun req => req.write = true ∧ req.sessionId ≠ id)
      (RecvdWrite id received quiet))
    (RecvdAnswer id entry received inHand)
    (RxEngToRxSarReq.lookup inHand)

/-- A write of the read handler moves `app_read` up to a point from which the
bytes still claimed reach to `received`. -/
structure ReadWrite
    (id : TcpSessionID) (appRead received : TcpSessionBuffer)
    (claimed : Nat) (req : RxSarAppReqRsp) : Prop where
  isWrite : req.write = true
  isOwn : req.sessionId = id
  inside : Between appRead req.appRead received
  claimed : claimed ≤ distance req.appRead received

structure ReadAnswer
    (id : TcpSessionID) (appRead received : TcpSessionBuffer)
    (claimed : Nat) (inHand : TcpSessionID) (rsp : RxSarAppReqRsp) :
    Prop where
  session : rsp.sessionId = inHand
  claimed : claimed ≤ distance appRead received
  appRead : inHand = id → rsp.appRead = appRead

abbrev ReadPhase
    (id : TcpSessionID) (appRead received : TcpSessionBuffer)
    (claimed : Nat) (inHand : TcpSessionID) :
    Bool → List RxSarAppReqRsp → List RxSarAppReqRsp → Prop :=
  Phase
    (Writes (claimed ≤ distance appRead received)
      (fun req => req.write = true ∧ req.sessionId ≠ id)
      (ReadWrite id appRead received claimed))
    (ReadAnswer id appRead received claimed inHand)
    (RxSarAppReqRsp.lookup inHand)

section ReadPhase

variable {id inHand : TcpSessionID}
variable {appRead received : TcpSessionBuffer} {claimed : Nat}
variable {sent : Bool} {rsps reqs : List RxSarAppReqRsp}

/-- The bytes claimed lie between the entry's `app_read` and `received`. -/
theorem ReadPhase.claimed_le
    (phase : ReadPhase id appRead received claimed inHand sent rsps reqs) :
    claimed ≤ distance appRead received := by
  have ofWrites {writes : List RxSarAppReqRsp}
      (pending :
        Writes (claimed ≤ distance appRead received)
          (fun req => req.write = true ∧ req.sessionId ≠ id)
          (ReadWrite id appRead received claimed) writes) :
      claimed ≤ distance appRead received := by
    induction pending with
    | settled isSettled _ =>
        exact isSettled
    | first isOwn _ =>
        have total := isOwn.inside.distance_add_distance
        have reached := isOwn.claimed
        omega
    | behind _ _ inductionHypothesis =>
        exact inductionHypothesis
  cases phase with
  | idle pending | asked pending =>
      exact ofWrites pending
  | answered answer =>
      exact answer.claimed

/-- More bytes received, of which the application may claim some. -/
theorem ReadPhase.moreReceived
    (phase : ReadPhase id appRead received claimed inHand sent rsps reqs)
    {length : TcpSessionBuffer} {further : Nat}
    (some : further ≤ claimed + length.toNat)
    (short : distance appRead received + length.toNat < 2 ^ 18) :
    ReadPhase id appRead (received + length) further inHand sent rsps
      reqs := by
  have total := distance_add length short
  refine phase.map (fun writes pending => ?_) (fun rsp answer => ?_)
  · refine pending.map (fun isSettled => by omega) (fun req isOwn => ?_)
    have split := isOwn.inside.distance_add_distance
    have reached :=
      @distance_add _ req.appRead received length (by omega)
    have enough := isOwn.claimed
    exact
      ⟨isOwn.isWrite, isOwn.isOwn,
        isOwn.inside.extend (by rw [Between, total]; omega), by omega⟩
  · have enough := answer.claimed
    exact ⟨answer.session, by omega, answer.appRead⟩

/-- Fewer bytes claimed. -/
theorem ReadPhase.fewerClaimed {further : Nat}
    (phase : ReadPhase id appRead received claimed inHand sent rsps reqs)
    (fewer : further ≤ claimed) :
    ReadPhase id appRead received further inHand sent rsps reqs := by
  refine phase.map (fun writes pending => ?_) (fun rsp answer => ?_)
  · exact
      pending.map (Nat.le_trans fewer) fun req isOwn =>
        ⟨isOwn.isWrite, isOwn.isOwn, isOwn.inside,
          Nat.le_trans fewer isOwn.claimed⟩
  · exact
      ⟨answer.session, Nat.le_trans fewer answer.claimed, answer.appRead⟩

/-- With no access of the session on its way the pointers may change, if
nothing is claimed. -/
theorem ReadPhase.reopen {newRead newReceived : TcpSessionBuffer}
    (phase : ReadPhase id appRead received claimed inHand sent rsps reqs)
    (accesses : ∀ req ∈ reqs, req.sessionId ≠ id)
    (answers : ∀ rsp ∈ rsps, rsp.sessionId ≠ id) :
    ReadPhase id newRead newReceived 0 inHand sent rsps reqs := by
  have others {writes : List RxSarAppReqRsp}
      (pending :
        Writes (claimed ≤ distance appRead received)
          (fun req => req.write = true ∧ req.sessionId ≠ id)
          (ReadWrite id appRead received claimed) writes)
      (inReqs : ∀ req ∈ writes, req ∈ reqs) :
      ∀ req ∈ writes, req.write = true ∧ req.sessionId ≠ id := by
    intro req member
    rcases pending.of_mem member with isOther | isOwn
    · exact isOther
    · exact absurd isOwn.isOwn (accesses req (inReqs req member))
  cases phase with
  | idle pending =>
      exact
        Phase.idle
          (Writes.settled (Nat.zero_le _)
            (others pending fun _ member => member))
  | asked pending =>
      exact
        Phase.asked
          (Writes.settled (Nat.zero_le _)
            (others pending fun _ member =>
              List.mem_append_left _ member))
  | @answered rsp answer =>
      refine
        Phase.answered
          ⟨answer.session, Nat.zero_le _, fun own => ?_⟩
      exact
        absurd (answer.session.trans own)
          (answers rsp List.mem_cons_self)

/-- No lookup of the session is on its way or answered, so the handler is
not waiting for one. -/
theorem ReadPhase.inHand_ne
    (phase : ReadPhase id appRead received claimed inHand sent rsps reqs)
    (accesses : ∀ req ∈ reqs, req.sessionId ≠ id)
    (answers : ∀ rsp ∈ rsps, rsp.sessionId ≠ id)
    (waits : sent = true) : inHand ≠ id := by
  cases phase with
  | idle =>
      cases waits
  | asked =>
      exact
        accesses (RxSarAppReqRsp.lookup inHand)
          (List.mem_append_right _ List.mem_cons_self)
  | @answered rsp answer =>
      rw [← answer.session]
      exact answers rsp List.mem_cons_self

end ReadPhase

/-! ## The invariant -/

/-- The bytes of the session that queued requests ask for. -/
def requestedBytes (id : TcpSessionID) (reqs : List AppReadReq) : Nat :=
  (reqs.map fun req =>
      if req.sessionId = id then req.readLength.toNat else 0).sum

theorem requestedBytes_append
    (id : TcpSessionID) (first second : List AppReadReq) :
    requestedBytes id (first ++ second) =
      requestedBytes id first + requestedBytes id second := by
  rw [requestedBytes, List.map_append, List.sum_append]
  rfl

theorem requestedBytes_cons
    (id : TcpSessionID) (req : AppReadReq) (later : List AppReadReq) :
    requestedBytes id (req :: later) =
      (if req.sessionId = id then req.readLength.toNat else 0) +
        requestedBytes id later :=
  List.sum_cons

theorem requestedBytes_eq_zero
    {id : TcpSessionID} {reqs : List AppReadReq}
    (empty : ∀ req ∈ reqs, req.sessionId = id → req.readLength = 0) :
    requestedBytes id reqs = 0 := by
  induction reqs with
  | nil =>
      rfl
  | cons req later inductionHypothesis =>
      rw [requestedBytes_cons,
        inductionHypothesis fun other member =>
          empty other (List.mem_cons_of_mem req member)]
      split
      · rename_i own
        rw [empty req List.mem_cons_self own]
        rfl
      · rfl

/-! ## What a call of the machine announces and opens -/

section OwnMessages

variable {id : TcpSessionID} {loaded : RxEngState}

theorem sessionNotified_rxLookups (segment : RxEngFsmMetaData) :
    sessionNotified id (rxLookups segment) = 0 := by
  have noNotice :
      (rxLookups segment).filterMap RxEngMsg.toRxApp = [] := by
    rw [rxLookups]
    split <;> rfl
  rw [sessionNotified, noNotice]
  rfl

theorem rxLookups_toRxSar (segment : RxEngFsmMetaData) :
    (rxLookups segment).filterMap RxEngMsg.toRxSar =
      [RxEngToRxSarReq.lookup segment.sessionId] := by
  rw [rxLookups]
  split <;> rfl

theorem opensSession_rxLookups (segment : RxEngFsmMetaData) :
    opensSession id (rxLookups segment) = false := by
  rw [opensSession, rxLookups_toRxSar]
  rfl

theorem sessionNotified_own
    (own : loaded.tcpRxMetaReg.sessionId = id) :
    sessionNotified id (rxEngHandle loaded).2 =
      storedBytes (rxWrites (rxEngHandle loaded).2).memCmds := by
  rw [sessionNotified, ← (rxEngHandle_balanced loaded).bytes]
  refine congrArg notifiedBytes ?_
  rw [List.filter_eq_self]
  intro notification member
  exact
    beq_iff_eq.2
      (((rxEngHandle_ownWrites loaded).of_notification member).trans own)

theorem sessionNotified_other
    (notOwn : loaded.tcpRxMetaReg.sessionId ≠ id) :
    sessionNotified id (rxEngHandle loaded).2 = 0 := by
  have nothing :
      ((rxEngHandle loaded).2.filterMap RxEngMsg.toRxApp).filter
          (fun notification => notification.sessionId == id) =
        [] := by
    rw [List.filter_eq_nil_iff]
    intro notification member
    rw [(rxEngHandle_ownWrites loaded).of_notification member,
      beq_eq_false_iff_ne.2 notOwn]
    exact Bool.false_ne_true
  rw [sessionNotified, nothing]
  rfl

theorem opensSession_writes (id : TcpSessionID) (loaded : RxEngState) :
    opensSession id (rxEngHandle loaded).2 =
      (rxWrites (rxEngHandle loaded).2).rxSarWrites.any fun req =>
        req.init && req.sessionId == id := by
  rw [opensSession, (rxEngHandle_ownWrites loaded).rxSarReqs]

theorem opensSession_other
    (notOwn : loaded.tcpRxMetaReg.sessionId ≠ id) :
    opensSession id (rxEngHandle loaded).2 = false := by
  rw [opensSession_writes, List.any_eq_false]
  intro req member
  rw [((rxEngHandle_ownWrites loaded).of_rxSarWrites member).2,
    beq_eq_false_iff_ne.2 notOwn, Bool.and_false]
  exact Bool.false_ne_true

end OwnMessages

namespace RingSystem

/-- The bytes of the read that waits for its lookup. -/
def underWay
    (system : RingSystem) (id inHand : TcpSessionID) : Nat :=
  if system.app.fsmState = .waitSarRsp ∧ inHand = id then
    system.app.rxAppReadLength.toNat
  else
    0

/-- All bytes before `received` that the application may still read. -/
def claimed (system : RingSystem) (id inHand : TcpSessionID) : Nat :=
  system.unread + requestedBytes id system.app.recvDataReqs +
    system.underWay id inHand

theorem ReadsDone.afterFsm
    {system : RingSystem} {id : TcpSessionID} {fsm : RxEngState}
    {msgs : List RxEngMsg} (done : system.ReadsDone id) :
    (system.afterFsm id fsm msgs).ReadsDone id :=
  ⟨done.requests, done.accesses, done.answers⟩

section ReadsDone

variable {system : RingSystem} {id : TcpSessionID}

theorem ReadsDone.afterRequest
    {req : AppReadReq} {later : List AppReadReq}
    (done : system.ReadsDone id)
    (reqs : system.app.recvDataReqs = req :: later)
    (isRead : req.readLength ≠ 0) :
    (system.afterApp
      { system.app with
        fsmState := .waitSarRsp
        rxAppReadLength := req.readLength
        rxAppRoleId := req.dest
        recvDataReqs := later }
      [.rxSarReq
        (RxSarAppReqRsp.lookup req.sessionId)]).ReadsDone id := by
  have requests := done.requests
  rw [reqs] at requests
  refine
    ⟨fun other member =>
        requests other (List.mem_cons_of_mem req member),
      fun other member => ?_, done.answers⟩
  rcases List.mem_append.1 member with earlier | last
  · exact done.accesses other earlier
  · rw [List.mem_singleton.1 last]
    exact fun own => isRead (requests req List.mem_cons_self own)

/-- The handler asks for nothing new. -/
theorem ReadsDone.afterFewer
    {app : RxAppDataState} {msgs : List RxAppDataMsg}
    (done : system.ReadsDone id)
    (requests :
      ∀ req ∈ app.recvDataReqs, req ∈ system.app.recvDataReqs)
    (sameRsps : app.rxSarRsps = system.app.rxSarRsps)
    (noAccess : msgs.filterMap RxAppDataMsg.toRxSar = []) :
    (system.afterApp app msgs).ReadsDone id := by
  refine ⟨fun req member => ?_, ?_, ?_⟩
  · exact done.requests req (requests req member)
  · change ∀ req ∈ system.table.rxAppReqs ++ _, _
    rw [noAccess, List.append_nil]
    exact done.accesses
  · change ∀ rsp ∈ app.rxSarRsps, _
    rw [sameRsps]
    exact done.answers

theorem ReadsDone.afterAnswer
    {rsp : RxSarAppReqRsp} {later : List RxSarAppReqRsp}
    (done : system.ReadsDone id)
    (rsps : system.app.rxSarRsps = rsp :: later) :
    (system.afterApp
      { system.app with fsmState := .waitData, rxSarRsps := later }
      [.recvDataRsp rsp.sessionId system.app.rxAppRoleId,
        .rxSarReq
          (RxSarAppReqRsp.update rsp.sessionId
            (rsp.appRead +
              system.app.rxAppReadLength.setWidth 18)),
        .memReadCmd
          (MemBufferRWCmd.ofAddr
            (getSessionMemAddr .rx rsp.sessionId rsp.appRead)
            system.app.rxAppReadLength)]).ReadsDone id := by
  have answers := done.answers
  rw [rsps] at answers
  refine
    ⟨done.requests, fun other member => ?_,
      fun other member => answers other (List.mem_cons_of_mem rsp member)⟩
  rcases List.mem_append.1 member with earlier | last
  · exact done.accesses other earlier
  · rw [List.mem_singleton.1 last]
    exact answers rsp List.mem_cons_self

end ReadsDone

/-- Nothing of the session is left to read. -/
structure Quiet (system : RingSystem) (id : TcpSessionID) : Prop where
  unread : system.unread = 0
  reads : system.ReadsDone id

/-- The table serves a request or nobody. -/
theorem Quiet.afterTable
    {system : RingSystem} {id : TcpSessionID} {table : RxSarTableState}
    {msgs : List RxSarTableMsg} (quiet : system.Quiet id)
    (accesses :
      ∀ req ∈ table.rxAppReqs, req ∈ system.table.rxAppReqs)
    (answers :
      ∀ rsp ∈ msgs.filterMap RxSarTableMsg.toRxApp,
        rsp.sessionId ≠ id) :
    (system.afterTable table msgs).Quiet id := by
  refine
    ⟨quiet.unread, quiet.reads.requests,
      fun req member => quiet.reads.accesses req (accesses req member),
      fun rsp member => ?_⟩
  rcases List.mem_append.1 member with earlier | last
  · exact quiet.reads.answers rsp earlier
  · exact answers rsp last

end RingSystem

/-- The machine handles a segment with session `inHand.1`, the read handler
serves a request of session `inHand.2`, and all bytes received so far end at
`received`. -/
structure RingInvariant
    (id reading : TcpSessionID) (received : TcpSessionBuffer)
    (system : RingSystem) : Prop where
  recvd :
    RecvdPhase id (system.entry id) received (system.Quiet id)
      system.fsm.tcpRxMetaReg.sessionId
      (decide (system.fsm.fsmState = .transition))
      system.fsm.rxSarRsps system.table.rxEngReqs
  read :
    ReadPhase id (system.entry id).appRead received
      (system.claimed id reading) reading
      (decide (system.app.fsmState = .waitSarRsp))
      system.app.rxSarRsps system.table.rxAppReqs

def RingSystem.Kept (id : TcpSessionID) (system : RingSystem) : Prop :=
  ∃ reading received, RingInvariant id reading received system

theorem ringKept_start
    (id : TcpSessionID) (table : TcpSessionID → RxSarTableEntry) :
    (RingSystem.start table).Kept id :=
  ⟨id, (table id).recvd.setWidth 18,
    Phase.idle (Writes.settled rfl fun _ member => by cases member),
    Phase.idle
      (Writes.settled (Nat.zero_le _) fun _ member => by cases member)⟩

/-- Nothing is claimed when nothing is left to read. -/
theorem RingInvariant.claimed_eq_zero
    {id reading : TcpSessionID} {received : TcpSessionBuffer}
    {system : RingSystem}
    (invariant : RingInvariant id reading received system)
    (noneUnread : system.unread = 0) (done : system.ReadsDone id) :
    system.claimed id reading = 0 := by
  have noRead : system.underWay id reading = 0 := by
    refine if_neg ?_
    rintro ⟨waits, own⟩
    exact
      invariant.read.inHand_ne done.accesses done.answers
        (decide_eq_true waits) own
  rw [RingSystem.claimed, noneUnread, noRead,
    requestedBytes_eq_zero done.requests]

/-! ## Calls of the machine -/

namespace RingInvariant

variable {id reading : TcpSessionID} {received : TcpSessionBuffer}
variable {system : RingSystem}

theorem load
    (invariant : RingInvariant id reading received system)
    (loads : system.fsm.fsmState = .load) :
    RingInvariant id reading received
      (system.afterFsm id (rxEngLoad system.fsm).1
        (rxEngLoad system.fsm).2) := by
  have phase := invariant.recvd
  rw [loads] at phase
  obtain ⟨noRsps, pending⟩ := phase.of_idle
  rw [rxEngLoad]
  cases segments : system.fsm.metaDatas with
  | nil =>
      have same : system.afterFsm id system.fsm [] = system := by
        simp only [RingSystem.afterFsm, List.filterMap_nil,
          List.append_nil]
        rfl
      rw [same]
      exact invariant
  | cons segment later =>
      have sameUnread :
          (if opensSession id (rxLookups segment) then
              0
            else
              system.unread + sessionNotified id (rxLookups segment)) =
            system.unread := by
        rw [opensSession_rxLookups, sessionNotified_rxLookups]
        rfl
      refine ⟨?_, ?_⟩
      · change
          RecvdPhase id (system.entry id) received
            ((system.afterFsm id _ (rxLookups segment)).Quiet id)
            segment.sessionId true system.fsm.rxSarRsps
            (system.table.rxEngReqs ++
              (rxLookups segment).filterMap RxEngMsg.toRxSar)
        rw [rxLookups_toRxSar, noRsps]
        refine
          Phase.asked
            (pending.map (fun settled => settled) fun req isOwn => ?_)
        refine
          ⟨isOwn.isWrite, isOwn.isOwn, isOwn.recvd, fun opens => ?_⟩
        have quiet := isOwn.opens opens
        exact ⟨sameUnread.trans quiet.unread, quiet.reads.afterFsm⟩
      · refine invariant.read.fewerClaimed (Nat.le_of_eq ?_)
        change _ + _ + system.underWay id reading = system.unread + _ + _
        exact congrArg (· + _ + _) sameUnread

/-- After a segment of another session. -/
theorem handleOther {loaded : RxEngState}
    (invariant : RingInvariant id reading received system)
    (answers : system.fsm.takeAnswers = some loaded)
    (notOwn : loaded.tcpRxMetaReg.sessionId ≠ id) :
    RingInvariant id reading received
      (system.afterFsm id (rxEngHandle loaded).1
        (rxEngHandle loaded).2) := by
  have took := takesAnswers answers
  have own := rxEngHandle_ownWrites loaded
  obtain ⟨txSarReg, txWinScale, final⟩ := rxEngHandle_regs loaded
  have phase := invariant.recvd
  rw [took.rxSarRsps] at phase
  obtain ⟨_, answer, noRsps, noReqs⟩ := phase.of_answered
  have others :
      ∀ req ∈ (rxWrites (rxEngHandle loaded).2).rxSarWrites,
        req.write = true ∧ req.sessionId ≠ id := by
    intro req member
    obtain ⟨isWrite, session⟩ := own.of_rxSarWrites member
    rw [session]
    exact ⟨isWrite, notOwn⟩
  have sameUnread :
      (if opensSession id (rxEngHandle loaded).2 then
          0
        else
          system.unread + sessionNotified id (rxEngHandle loaded).2) =
        system.unread := by
    rw [opensSession_other notOwn, sessionNotified_other notOwn]
    rfl
  refine ⟨?_, ?_⟩
  · change
      RecvdPhase id (system.entry id) received _ _
        (decide ((rxEngHandle loaded).1.fsmState = .transition))
        (rxEngHandle loaded).1.rxSarRsps
        (system.table.rxEngReqs ++
          (rxEngHandle loaded).2.filterMap RxEngMsg.toRxSar)
    rw [own.rxSarReqs, noReqs, final]
    simp only [took.fsmState, noRsps, List.nil_append]
    exact Phase.idle (Writes.settled answer.settled others)
  · refine invariant.read.fewerClaimed (Nat.le_of_eq ?_)
    change _ + _ + system.underWay id reading = system.unread + _ + _
    exact congrArg (· + _ + _) sameUnread

/-- After a segment of the session: its write is on its way, and the bytes
the application is told about are among those received. -/
theorem handleOwn {loaded : RxEngState}
    {further : TcpSessionBuffer}
    (invariant : RingInvariant id reading received system)
    (answers : system.fsm.takeAnswers = some loaded)
    (writes :
      (system.entry id).recvd.setWidth 18 = further ∧
          (rxWrites (rxEngHandle loaded).2).rxSarWrites = [] ∨
        ∃ req,
          (rxWrites (rxEngHandle loaded).2).rxSarWrites = [req] ∧
            RecvdWrite id further
              ((system.afterFsm id (rxEngHandle loaded).1
                (rxEngHandle loaded).2).Quiet id) req)
    (read :
      ReadPhase id (system.entry id).appRead further
        ((system.afterFsm id (rxEngHandle loaded).1
          (rxEngHandle loaded).2).claimed id reading) reading
        (decide (system.app.fsmState = .waitSarRsp))
        system.app.rxSarRsps system.table.rxAppReqs) :
    RingInvariant id reading further
      (system.afterFsm id (rxEngHandle loaded).1
        (rxEngHandle loaded).2) := by
  have took := takesAnswers answers
  have own := rxEngHandle_ownWrites loaded
  obtain ⟨txSarReg, txWinScale, final⟩ := rxEngHandle_regs loaded
  have phase := invariant.recvd
  rw [took.rxSarRsps] at phase
  obtain ⟨_, _, noRsps, noReqs⟩ := phase.of_answered
  refine ⟨?_, read⟩
  have load :
      decide ((rxEngHandle loaded).1.fsmState = .transition) = false := by
    rw [final]
    simp only [took.fsmState]
    rfl
  have emptied : (rxEngHandle loaded).1.rxSarRsps = [] := by
    rw [final]
    exact noRsps
  change
    RecvdPhase id (system.entry id) further _ _
      (decide ((rxEngHandle loaded).1.fsmState = .transition))
      (rxEngHandle loaded).1.rxSarRsps
      (system.table.rxEngReqs ++
        (rxEngHandle loaded).2.filterMap RxEngMsg.toRxSar)
  rw [own.rxSarReqs, noReqs, load, emptied, List.nil_append]
  rcases writes with ⟨settled, none⟩ | ⟨req, only, isOwn⟩
  · rw [none]
    exact
      Phase.idle (Writes.settled settled fun _ member => by cases member)
  · rw [only]
    exact
      Phase.idle (Writes.first isOwn fun _ member => by cases member)

/-- Payload that fits the answered free space fits the ring. -/
theorem short_of_fits {inHand : TcpSessionID} {rsp : RxSarTableEntry}
    (answer :
      RecvdAnswer id (system.entry id) received inHand rsp)
    (own : inHand = id) {length : Nat}
    (fits : length < rsp.freeSpace.toNat) :
    distance (system.entry id).appRead received + (length + 1) <
      2 ^ 18 := by
  have total := rsp.freeSpace_toNat
  have freed := answer.freed own
  rw [answer.recvd own, bufferSize_eq] at total
  omega

theorem handle {loaded : RxEngState}
    (invariant : RingInvariant id reading received system)
    (transition : system.fsm.fsmState = .transition)
    (answers : system.fsm.takeAnswers = some loaded)
    (finsFit : FinsFit id system .rxEngTcpFsm)
    (notified : ReadsNotified id system .rxEngTcpFsm) :
    ∃ further,
      RingInvariant id reading further
        (system.afterFsm id (rxEngHandle loaded).1
          (rxEngHandle loaded).2) := by
  by_cases own : loaded.tcpRxMetaReg.sessionId = id
  case neg =>
    exact ⟨received, invariant.handleOther answers own⟩
  have took := takesAnswers answers
  have ownWrites := rxEngHandle_ownWrites loaded
  have phase := invariant.recvd
  rw [took.rxSarRsps] at phase
  obtain ⟨_, answer, _, _⟩ := phase.of_answered
  have ownInHand := own
  rw [took.segment] at ownInHand
  have opensEq :
      opensSession id (rxEngHandle loaded).2 =
        (rxWrites (rxEngHandle loaded).2).rxSarWrites.any fun req =>
          req.init && req.sessionId == id :=
    opensSession_writes id loaded
  have unreadEq :
      (system.afterFsm id (rxEngHandle loaded).1
            (rxEngHandle loaded).2).unread =
        if opensSession id (rxEngHandle loaded).2 then
          0
        else
          system.unread +
            storedBytes (rxWrites (rxEngHandle loaded).2).memCmds := by
    rw [← sessionNotified_own own]
    rfl
  have claimedEq :
      (system.afterFsm id (rxEngHandle loaded).1
            (rxEngHandle loaded).2).claimed id reading =
        (system.afterFsm id (rxEngHandle loaded).1
              (rxEngHandle loaded).2).unread +
            requestedBytes id system.app.recvDataReqs +
          system.underWay id reading :=
    rfl
  have exit := rxEngHandle_ring loaded
  cases exit with
  | untouched noCmds noWrites =>
      refine
        ⟨received,
          invariant.handleOwn answers
            (Or.inl ⟨answer.settled, noWrites⟩)
            (invariant.read.fewerClaimed (Nat.le_of_eq ?_))⟩
      rw [claimedEq, unreadEq, opensEq, noWrites, noCmds]
      rfl
  | @opened req noCmds only isInit =>
      have member :
          req ∈ (rxWrites (rxEngHandle loaded).2).rxSarWrites := by
        rw [only]
        exact List.mem_cons_self
      obtain ⟨isWrite, session⟩ := ownWrites.of_rxSarWrites member
      have opens : opensSession id (rxEngHandle loaded).2 = true := by
        rw [opensEq, only, List.any_cons, isInit, session, own,
          beq_self_eq_true]
        rfl
      have done : system.ReadsDone id := by
        refine notified ?_
        rw [rxEngTcpFsm, transition]
        simp only [rxEngTransition, answers]
        exact opens
      have nothingUnread :
          (system.afterFsm id (rxEngHandle loaded).1
              (rxEngHandle loaded).2).unread =
            0 := by
        rw [unreadEq, opens]
        rfl
      refine
        ⟨req.recvd.setWidth 18,
          invariant.handleOwn answers
            (Or.inr
              ⟨req, only, isWrite, session.trans own, rfl, fun _ =>
                ⟨nothingUnread, done.afterFsm⟩⟩)
            ?_⟩
      have noRead : system.underWay id reading = 0 := by
        refine if_neg ?_
        rintro ⟨waits, isReading⟩
        exact
          invariant.read.inHand_ne done.accesses done.answers
            (decide_eq_true waits) isReading
      rw [claimedEq, nothingUnread, requestedBytes_eq_zero done.requests,
        noRead]
      exact invariant.read.reopen done.accesses done.answers
  | stored cmds writes inOrder fits =>
      have short := short_of_fits answer ownInHand fits
      have lengthEq := payloadLength_toNat loaded.tcpRxMetaReg.header
      refine
        ⟨received +
            loaded.tcpRxMetaReg.header.payloadLength.setWidth 18,
          invariant.handleOwn answers
            (Or.inr
              ⟨_, writes, rfl, own, ?_, fun opens => by cases opens⟩)
            (invariant.read.moreReceived ?_ ?_)⟩
      · change loaded.payloadEnd.setWidth 18 = _
        rw [RxEngState.payloadEnd, ← inOrder,
          BitVec.setWidth_add _ _ (by decide), answer.recvd ownInHand,
          BitVec.setWidth_setWidth_of_le _ (by decide)]
      · rw [claimedEq, unreadEq, opensEq, writes, cmds, lengthEq]
        change
          system.unread +
                  (loaded.tcpRxMetaReg.header.payloadLength.toNat + 0) +
                _ +
              _ ≤
            system.unread + _ + _ + _
        omega
      · omega
  | closed cmds writes inOrder takes isFin =>
      have fits := finsFit transition loaded answers own isFin takes
      have short := short_of_fits answer ownInHand fits
      have lengthEq := payloadLength_toNat loaded.tcpRxMetaReg.header
      have lengthBound :=
        loaded.tcpRxMetaReg.header.payloadLength.isLt
      have one : (1 : BitVec 18).toNat = 1 := rfl
      have phantomEq :
          (loaded.tcpRxMetaReg.header.payloadLength.setWidth 18 +
                (1 : BitVec 18)).toNat =
            loaded.tcpRxMetaReg.header.payloadLength.toNat + 1 := by
        rw [BitVec.toNat_add, lengthEq, one]
        exact Nat.mod_eq_of_lt (by omega)
      have storedLe :
          storedBytes
              (if
                  loaded.tcpRxMetaReg.header.payloadLength ≠ 0 then
                [loaded.tcpRxMetaReg.payloadCmd]
              else
                []) ≤
            loaded.tcpRxMetaReg.header.payloadLength.toNat := by
        split
        · exact Nat.le_refl _
        · exact Nat.zero_le _
      refine
        ⟨received +
            (loaded.tcpRxMetaReg.header.payloadLength.setWidth 18 + 1),
          invariant.handleOwn answers
            (Or.inr
              ⟨_, writes, rfl, own, ?_, fun opens => by cases opens⟩)
            (invariant.read.moreReceived ?_ ?_)⟩
      · change (loaded.payloadEnd + 1).setWidth 18 = _
        rw [RxEngState.payloadEnd, ← inOrder,
          BitVec.setWidth_add _ _ (by decide),
          BitVec.setWidth_add _ _ (by decide), answer.recvd ownInHand,
          BitVec.setWidth_setWidth_of_le _ (by decide), BitVec.add_assoc]
        rfl
      · rw [claimedEq, unreadEq, opensEq, writes, cmds, phantomEq]
        change
          system.unread + storedBytes _ + _ + _ ≤
            system.unread + _ + _ + _
        omega
      · rw [phantomEq]
        exact short

/-- Nothing that matters to the ring has changed. -/
theorem congr {next : RingSystem}
    (invariant : RingInvariant id reading received system)
    (quiet : system.Quiet id → next.Quiet id)
    (recvd :
      next.entry id = system.entry id ∧
        next.fsm.tcpRxMetaReg = system.fsm.tcpRxMetaReg ∧
        next.fsm.fsmState = system.fsm.fsmState ∧
        next.fsm.rxSarRsps = system.fsm.rxSarRsps ∧
        next.table.rxEngReqs = system.table.rxEngReqs)
    (read :
      next.claimed id reading = system.claimed id reading ∧
        next.app.fsmState = system.app.fsmState ∧
        next.app.rxSarRsps = system.app.rxSarRsps ∧
        next.table.rxAppReqs = system.table.rxAppReqs) :
    RingInvariant id reading received next := by
  obtain ⟨entry, segment, fsmState, rsps, reqs⟩ := recvd
  obtain ⟨claimed, appState, answers, accesses⟩ := read
  refine ⟨?_, ?_⟩
  · rw [entry, segment, fsmState, rsps, reqs]
    exact
      invariant.recvd.map
        (fun list pending =>
          pending.map (fun settled => settled) fun other own =>
            ⟨own.isWrite, own.isOwn, own.recvd, fun opens =>
              quiet (own.opens opens)⟩)
        (fun rsp answer => answer)
  · rw [entry, claimed, appState, answers, accesses]
    exact invariant.read

end RingInvariant

end TcpOffload
