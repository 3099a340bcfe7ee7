import TcpOffload.RxEngine.StreamRecord

/-!
# The invariant of a receive stream

`recvd` and `app_read` count the accepted and the read bytes of a connection,
wherever the requests that move them are.  The calls of the machine keep the
counts.
-/

namespace TcpOffload

open Guarded Lookup RingSegment

/-! ## Requests on their way -/

/-- A write of the machine.  One that initialises the entry leaves `recvd` as
it is until it is served. -/
structure StreamWrite
    (id : TcpSessionID) (entered received : BitVec 32)
    (req : RxEngToRxSarReq) : Prop where
  isWrite : req.write = true
  isOwn : req.sessionId = id
  recvd : (if req.init then entered else req.recvd) = received

structure StreamAnswer
    (id : TcpSessionID) (entered received : BitVec 32)
    (inHand : TcpSessionID) (rsp : RxSarTableEntry) : Prop where
  settled : entered = received
  recvd : inHand = id → rsp.recvd = received

abbrev StreamWrites
    (id : TcpSessionID) (entered received : BitVec 32) :
    List RxEngToRxSarReq → Prop :=
  Writes (entered = received)
    (fun req => req.write = true ∧ req.sessionId ≠ id)
    (StreamWrite id entered received)

abbrev StreamPhase
    (id : TcpSessionID) (entered received : BitVec 32)
    (inHand : TcpSessionID) :
    Bool → List RxSarTableEntry → List RxEngToRxSarReq → Prop :=
  Phase (StreamWrites id entered received)
    (StreamAnswer id entered received inHand)
    (RxEngToRxSarReq.lookup inHand)

/-- A write of the read handler. -/
structure ReaderWrite
    (id : TcpSessionID) (read : TcpSessionBuffer)
    (req : RxSarAppReqRsp) : Prop where
  isWrite : req.write = true
  isOwn : req.sessionId = id
  appRead : req.appRead = read

structure ReaderAnswer
    (id : TcpSessionID) (entered read : TcpSessionBuffer)
    (inHand : TcpSessionID) (rsp : RxSarAppReqRsp) : Prop where
  session : rsp.sessionId = inHand
  settled : entered = read
  appRead : inHand = id → rsp.appRead = read

abbrev ReaderPhase
    (id : TcpSessionID) (entered read : TcpSessionBuffer)
    (inHand : TcpSessionID) :
    Bool → List RxSarAppReqRsp → List RxSarAppReqRsp → Prop :=
  Phase
    (Writes (entered = read)
      (fun req => req.write = true ∧ req.sessionId ≠ id)
      (ReaderWrite id read))
    (ReaderAnswer id entered read inHand)
    (RxSarAppReqRsp.lookup inHand)

theorem RxEngToRxSarReq.foldl_moves_others
    {id : TcpSessionID} {reqs : List RxEngToRxSarReq}
    (others : ∀ req ∈ reqs, req.sessionId ≠ id) (recvd : BitVec 32) :
    reqs.foldl (RxEngToRxSarReq.moves id) recvd = recvd := by
  induction reqs with
  | nil =>
      rfl
  | cons req later inductionHypothesis =>
      have stays : RxEngToRxSarReq.moves id recvd req = recvd := by
        rw [moves, beq_eq_false_iff_ne.2 (others req List.mem_cons_self),
          Bool.and_false]
        rfl
      rw [List.foldl_cons, stays]
      exact
        inductionHypothesis fun other member =>
          others other (List.mem_cons_of_mem req member)

section Phases

variable {id inHand : TcpSessionID} {entered received : BitVec 32}
variable {sent : Bool}

theorem StreamWrites.foldl_moves
    {reqs : List RxEngToRxSarReq}
    (pending : StreamWrites id entered received reqs) :
    reqs.foldl (RxEngToRxSarReq.moves id) entered = received := by
  induction pending with
  | settled isSettled others =>
      rw [RxEngToRxSarReq.foldl_moves_others
        (fun req member => (others req member).2), isSettled]
  | @first req later own others =>
      have moved : RxEngToRxSarReq.moves id entered req = received := by
        have recvd := own.recvd
        rw [RxEngToRxSarReq.moves, own.isWrite, own.isOwn, beq_self_eq_true,
          Bool.and_true, Bool.true_and]
        cases isInit : req.init with
        | true =>
            rw [isInit] at recvd
            exact recvd
        | false =>
            rw [isInit] at recvd
            exact recvd
      rw [List.foldl_cons, moved]
      exact
        RxEngToRxSarReq.foldl_moves_others
          (fun other member => (others other member).2) received
  | @behind req later other _ inductionHypothesis =>
      have stays : RxEngToRxSarReq.moves id entered req = entered :=
        @RxEngToRxSarReq.foldl_moves_others id [req]
          (fun further member => by
            rw [List.mem_singleton.1 member]
            exact other.2)
          entered
      rw [List.foldl_cons, stays]
      exact inductionHypothesis

/-- All that is known of `recvd`, wherever its last write is. -/
theorem StreamPhase.foldl_moves
    {rsps : List RxSarTableEntry} {reqs : List RxEngToRxSarReq}
    (phase : StreamPhase id entered received inHand sent rsps reqs) :
    reqs.foldl (RxEngToRxSarReq.moves id) entered = received := by
  cases phase with
  | idle pending =>
      exact StreamWrites.foldl_moves pending
  | asked pending =>
      rw [List.foldl_append, StreamWrites.foldl_moves pending]
      rfl
  | answered answer =>
      exact answer.settled

/-- With no access of the session on its way the pointer may change. -/
theorem ReaderPhase.reopen
    {appRead read other : TcpSessionBuffer}
    {rsps reqs : List RxSarAppReqRsp}
    (phase : ReaderPhase id appRead read inHand sent rsps reqs)
    (accesses : ∀ req ∈ reqs, req.sessionId ≠ id)
    (answers : ∀ rsp ∈ rsps, rsp.sessionId ≠ id) :
    ReaderPhase id other other inHand sent rsps reqs := by
  have others {writes : List RxSarAppReqRsp}
      (pending :
        Writes (appRead = read)
          (fun req => req.write = true ∧ req.sessionId ≠ id)
          (ReaderWrite id read) writes)
      (inReqs : ∀ req ∈ writes, req ∈ reqs) :
      ∀ req ∈ writes, req.write = true ∧ req.sessionId ≠ id := by
    intro req member
    rcases pending.of_mem member with isOther | isOwn
    · exact isOther
    · exact absurd isOwn.isOwn (accesses req (inReqs req member))
  cases phase with
  | idle pending =>
      exact
        Phase.idle
          (Writes.settled rfl (others pending fun _ member => member))
  | asked pending =>
      exact
        Phase.asked
          (Writes.settled rfl
            (others pending fun _ member =>
              List.mem_append_left _ member))
  | @answered rsp answer =>
      refine Phase.answered ⟨answer.session, rfl, fun own => ?_⟩
      exact
        absurd (answer.session.trans own)
          (answers rsp List.mem_cons_self)

/-- The handler is not waiting for an answer about the session. -/
theorem ReaderPhase.inHand_ne
    {appRead read : TcpSessionBuffer} {rsps reqs : List RxSarAppReqRsp}
    (phase : ReaderPhase id appRead read inHand sent rsps reqs)
    (accesses : ∀ req ∈ reqs, req.sessionId ≠ id)
    (answers : ∀ rsp ∈ rsps, rsp.sessionId ≠ id)
    (waits : sent = true) : inHand ≠ id := by
  cases phase with
  | idle =>
      cases waits
  | asked =>
      exact
        accesses (RxSarAppReqRsp.lookup inHand)
          (List.mem_append_right _ List.mem_cons_self)
  | @answered rsp answer =>
      rw [← answer.session]
      exact answers rsp List.mem_cons_self

end Phases

/-! ## The pointers -/

/-- The machine handles a segment, the read handler a request of session
`reading`, and the two pointers have come to `received` and `read`. -/
structure Streaming
    (id reading : TcpSessionID) (received : BitVec 32)
    (read : TcpSessionBuffer) (system : RingSystem) : Prop where
  recvd :
    StreamPhase id (system.entry id).recvd received
      system.fsm.tcpRxMetaReg.sessionId
      (decide (system.fsm.fsmState = .transition))
      system.fsm.rxSarRsps system.table.rxEngReqs
  appRead :
    ReaderPhase id (system.entry id).appRead read reading
      (decide (system.app.fsmState = .waitSarRsp))
      system.app.rxSarRsps system.table.rxAppReqs
  opening :
    ∀ req ∈ system.table.rxEngReqs,
      req.init = true → req.sessionId = id → system.Quiet id
  flags :
    system.fsm.fsmState = .transition →
      system.fsm.rxEngCtrlBits =
        system.fsm.tcpRxMetaReg.header.ctrlBits

/-- The accounts of the record. -/
structure Delivery.Follows
    (id : TcpSessionID) (received : BitVec 32) (read : TcpSessionBuffer)
    (waiting : List (BitVec 16)) (unread : Nat) (stream : Delivery) :
    Prop where
  recvd :
    received =
      stream.first +
        BitVec.ofNat 32 (stream.total + stream.finished.toNat)
  appRead :
    read = BitVec.ofNat 18 (stream.first.toNat + stream.bytesRead)
  handled : ∀ handled ∈ stream.handled, handled.Sound id
  written :
    ringOffsets stream.writes =
      segment bufferSize stream.first.toNat stream.total
  read :
    ringOffsets stream.reads =
      segment bufferSize stream.first.toNat stream.bytesRead
  asked :
    stream.asked = stream.reads.map (fun cmd => cmd.length) ++ waiting
  unread :
    unread + (stream.asked.map BitVec.toNat).sum ≤ stream.total
  rings :
    ∀ cmd ∈ stream.writes ++ stream.reads,
      cmd = sessionCmd .rx id cmd.offset cmd.length

/-- The lengths of the session's requests that are queued. -/
def queuedLengths (id : TcpSessionID) (reqs : List AppReadReq) :
    List (BitVec 16) :=
  (reqs.filter fun req =>
      req.sessionId == id && req.readLength != 0).map
    fun req => req.readLength

theorem queuedLengths_append
    (id : TcpSessionID) (first second : List AppReadReq) :
    queuedLengths id (first ++ second) =
      queuedLengths id first ++ queuedLengths id second := by
  rw [queuedLengths, List.filter_append, List.map_append]
  rfl

theorem queuedLengths_own
    {id : TcpSessionID} {req : AppReadReq}
    (own : req.sessionId = id) (isRead : req.readLength ≠ 0) :
    queuedLengths id [req] = [req.readLength] := by
  rw [queuedLengths, List.filter_cons_of_pos]
  · rfl
  · rw [beq_iff_eq.2 own, bne_iff_ne.2 isRead]
    rfl

theorem queuedLengths_other
    {id : TcpSessionID} {req : AppReadReq}
    (other : ¬ (req.sessionId = id ∧ req.readLength ≠ 0)) :
    queuedLengths id [req] = [] := by
  rw [queuedLengths, List.filter_cons_of_neg]
  · rfl
  · rw [Bool.and_eq_true, beq_iff_eq, bne_iff_ne]
    exact other

/-- The lengths asked for that no read command was written for. -/
def RingSystem.waiting (system : RingSystem) (id reading : TcpSessionID) :
    List (BitVec 16) :=
  (if system.app.fsmState = .waitSarRsp ∧ reading = id then
      [system.app.rxAppReadLength]
    else
      []) ++
    queuedLengths id system.app.recvDataReqs

theorem RingSystem.waiting_of_not
    {system : RingSystem} {id reading : TcpSessionID}
    (notWaits :
      ¬ (system.app.fsmState = .waitSarRsp ∧ reading = id)) :
    system.waiting id reading =
      queuedLengths id system.app.recvDataReqs := by
  rw [waiting, if_neg notWaits]
  rfl

def StreamSystem.Kept (id : TcpSessionID) (system : StreamSystem) : Prop :=
  ∃ reading received read,
    Streaming id reading received read system.ring ∧
      ∀ stream,
        system.stream = some stream →
          stream.Follows id received read
            (system.ring.waiting id reading) system.ring.unread

theorem streamKept_start
    (id : TcpSessionID) (table : TcpSessionID → RxSarTableEntry) :
    (StreamSystem.start table).Kept id := by
  refine
    ⟨id, (table id).recvd, (table id).appRead, ⟨?_, ?_, ?_, ?_⟩,
      fun _ none => by cases none⟩
  · exact
      Phase.idle (Writes.settled rfl fun _ member => by cases member)
  · exact
      Phase.idle (Writes.settled rfl fun _ member => by cases member)
  · intro _ member
    cases member
  · intro transition
    cases transition

/-! ## The accounts -/

namespace Delivery.Follows

variable {id : TcpSessionID} {received : BitVec 32}
variable {read : TcpSessionBuffer} {waiting : List (BitVec 16)}
variable {unread : Nat} {stream : Delivery}

/-- Fewer bytes are left unread. -/
theorem fewerUnread {fewer : Nat}
    (follows : stream.Follows id received read waiting unread)
    (le : fewer ≤ unread) :
    stream.Follows id received read waiting fewer :=
  { follows with
    unread := Nat.le_trans (Nat.add_le_add_right le _) follows.unread }

theorem start (id : TcpSessionID) (first : BitVec 32) :
    (Delivery.start first).Follows id first (first.setWidth 18) [] 0 where
  recvd := (BitVec.add_zero first).symm
  appRead := by
    apply BitVec.eq_of_toNat_eq
    rw [BitVec.toNat_setWidth, BitVec.toNat_ofNat]
    rfl
  handled := fun _ member => by cases member
  written := rfl
  read := rfl
  asked := rfl
  unread := Nat.le_refl 0
  rings := fun _ member => by cases member

/-- After a segment that is not accepted. -/
theorem keep {handled : Handled}
    (follows : stream.Follows id received read waiting unread)
    (sound : handled.Sound id)
    (refused : handled.arrival.accepted = false) :
    (stream.handle handled).Follows id received read waiting unread := by
  have noPayload : handled.payload = 0 := by
    rw [Handled.payload, refused]
    rfl
  have sameTotal : (stream.handle handled).total = stream.total := by
    rw [total, handle, List.map_append, List.sum_append]
    change stream.total + (handled.payload + 0) = _
    rw [noPayload]
    rfl
  have sameFin : (stream.handle handled).finished = stream.finished := by
    rw [finished, handle, List.any_append]
    change (stream.finished || (handled.isFin || false)) = _
    rw [Handled.isFin, refused]
    exact Bool.or_false _
  have sameWrites : (stream.handle handled).writes = stream.writes := by
    rw [writes, handle, List.flatMap_append]
    change stream.writes ++ ((rxWrites handled.msgs).memCmds ++ []) = _
    rw [(sound.nothing (Or.inl refused)).memCmds]
    exact List.append_nil _
  refine
    ⟨?_, follows.appRead, ?_, ?_, follows.read, follows.asked, ?_, ?_⟩
  · rw [sameTotal, sameFin]
    exact follows.recvd
  · intro other member
    rcases List.mem_append.1 member with earlier | last
    · exact follows.handled other earlier
    · rw [List.mem_singleton.1 last]
      exact sound
  · rw [sameTotal, sameWrites]
    exact follows.written
  · rw [sameTotal]
    exact follows.unread
  · rw [sameWrites]
    exact follows.rings

/-- After a segment that is accepted, if no FIN was before it. -/
theorem accept {handled : Handled}
    (follows : stream.Follows id received read waiting unread)
    (sound : handled.Sound id)
    (takes : handled.arrival.accepted = true)
    (inOrder : handled.arrival.segment.header.seqNumber = received)
    (noFin : stream.finished = false) :
    (stream.handle handled).Follows id handled.arrival.next read waiting
      (unread + storedBytes (rxWrites handled.msgs).memCmds) := by
  have bytes :
      handled.payload =
        handled.arrival.segment.header.payloadLength.toNat := by
    rw [Handled.payload, if_pos takes]
  have grown :
      (stream.handle handled).total =
        stream.total +
          handled.arrival.segment.header.payloadLength.toNat := by
    rw [total, handle, List.map_append, List.sum_append]
    change stream.total + (handled.payload + 0) = _
    rw [bytes]
    rfl
  have isFin :
      (stream.handle handled).finished =
        (handled.arrival.segment.header.ctrlBits == 5) := by
    rw [finished, handle, List.any_append]
    change (stream.finished || (handled.isFin || false)) = _
    rw [Handled.isFin, noFin, takes, Bool.false_or, Bool.or_false,
      Bool.true_and]
  have start :
      handled.arrival.segment.header.seqNumber =
        stream.first + BitVec.ofNat 32 stream.total := by
    have recvd := follows.recvd
    rw [noFin] at recvd
    exact inOrder.trans recvd
  have writesEq :
      (stream.handle handled).writes =
        stream.writes ++ (rxWrites handled.msgs).memCmds := by
    rw [writes, handle, List.flatMap_append]
    change stream.writes ++ ((rxWrites handled.msgs).memCmds ++ []) = _
    rw [List.append_nil]
  -- the write, if there is one, is of the payload at the next offset
  have written :
      ringOffsets (rxWrites handled.msgs).memCmds =
          segment bufferSize (stream.first.toNat + stream.total)
            handled.arrival.segment.header.payloadLength.toNat ∧
        storedBytes (rxWrites handled.msgs).memCmds =
          handled.arrival.segment.header.payloadLength.toNat ∧
        ∀ cmd ∈ (rxWrites handled.msgs).memCmds,
          cmd = sessionCmd .rx id cmd.offset cmd.length := by
    cases some : handled.arrival.segment.header.hasPayload with
    | false =>
        have empty :
            handled.arrival.segment.header.payloadLength = 0 := by
          have notSome :
              ¬ handled.arrival.segment.header.payloadLength ≠ 0 := by
            rw [← bne_iff_ne]
            exact Bool.eq_false_iff.1 some
          exact not_not.1 notSome
        rw [(sound.nothing (Or.inr some)).memCmds, empty]
        exact ⟨rfl, rfl, fun _ member => by cases member⟩
    | true =>
        rw [(sound.payload takes some).memCmds]
        have offset :
            handled.arrival.segment.payloadCmd.offset.toNat =
              (stream.first.toNat + stream.total) % bufferSize := by
          rw [RxEngFsmMetaData.payloadCmd_offset, start,
            BitVec.toNat_setWidth, BitVec.toNat_add, BitVec.toNat_ofNat,
            Nat.add_mod_mod, bufferSize_eq]
          exact Nat.mod_mod_of_dvd _ (by decide)
        refine ⟨?_, rfl, fun cmd member => ?_⟩
        · rw [ringOffsets, List.flatMap_singleton, offset, segment_mod]
          rfl
        · rw [List.mem_singleton.1 member,
            RxEngFsmMetaData.payloadCmd_offset, ← sound.own]
          rfl
  obtain ⟨offsets, stored, ring⟩ := written
  refine
    ⟨?_, follows.appRead, ?_, ?_, follows.read, follows.asked, ?_, ?_⟩
  · rw [grown, isFin, Nat.add_assoc, BitVec.ofNat_add, BitVec.ofNat_add,
      RxArrival.next, start]
    have length :
        BitVec.ofNat 32
            handled.arrival.segment.header.payloadLength.toNat =
          handled.arrival.segment.header.payloadLength.setWidth 32 := by
      exact BitVec.ofNat_toNat 32 _
    rw [length]
    by_cases closes : handled.arrival.segment.header.ctrlBits = 5
    · rw [closes, if_pos rfl, BitVec.add_assoc, BitVec.add_assoc]
      rfl
    · rw [if_neg closes, beq_eq_false_iff_ne.2 closes, BitVec.add_assoc,
        BitVec.add_assoc]
      rfl
  · intro other member
    rcases List.mem_append.1 member with earlier | last
    · exact follows.handled other earlier
    · rw [List.mem_singleton.1 last]
      exact sound
  · rw [grown, writesEq, ringOffsets, List.flatMap_append, segment_add]
    exact congrArg₂ (· ++ ·) follows.written offsets
  · rw [grown, stored]
    have before := follows.unread
    change _ + _ + (stream.asked.map BitVec.toNat).sum ≤ _
    omega
  · intro cmd member
    rw [writesEq, List.append_assoc] at member
    rcases List.mem_append.1 member with earlier | later
    · exact follows.rings cmd (List.mem_append_left _ earlier)
    · rcases List.mem_append.1 later with now | reads
      · exact ring cmd now
      · exact follows.rings cmd (List.mem_append_right _ reads)

/-- After a request of the application. -/
theorem ask {req : AppReadReq}
    (follows : stream.Follows id received read waiting unread)
    (notified :
      req.sessionId = id → req.readLength.toNat ≤ unread) :
    (stream.ask id req).Follows id received read
      (waiting ++ queuedLengths id [req])
      (if req.sessionId = id then
        unread - req.readLength.toNat
      else
        unread) := by
  have before := follows.unread
  by_cases counts : req.sessionId = id ∧ req.readLength ≠ 0
  · have asked :
        (stream.ask id req).asked = stream.asked ++ [req.readLength] := by
      rw [Delivery.ask, if_pos counts]
    have queued := queuedLengths_own counts.1 counts.2
    refine
      ⟨follows.recvd, follows.appRead, follows.handled, follows.written,
        follows.read, ?_, ?_, follows.rings⟩
    · rw [asked, follows.asked, queued, List.append_assoc]
      rfl
    · rw [asked, List.map_append, List.sum_append, if_pos counts.1]
      have enough := notified counts.1
      change _ + (_ + (req.readLength.toNat + 0)) ≤ stream.total
      omega
  · have same : stream.ask id req = stream := by
      rw [Delivery.ask, if_neg counts, List.append_nil]
    rw [same, queuedLengths_other counts, List.append_nil]
    refine follows.fewerUnread ?_
    split
    · exact Nat.sub_le _ _
    · exact Nat.le_refl _

/-- After the read command of the oldest request. -/
theorem answer {length : BitVec 16} {later : List (BitVec 16)}
    (follows : stream.Follows id received read (length :: later) unread) :
    (stream.read [sessionCmd .rx id read length]).Follows id received
      (read + length.setWidth 18) later unread := by
  have more :
      (stream.read [sessionCmd .rx id read length]).bytesRead =
        stream.bytesRead + length.toNat := by
    rw [bytesRead, Delivery.read, storedBytes, List.map_append,
      List.sum_append]
    rfl
  have offset :
      (sessionCmd .rx id read length).offset.toNat =
        (stream.first.toNat + stream.bytesRead) % bufferSize := by
    rw [sessionCmd_offset, follows.appRead, BitVec.toNat_ofNat,
      bufferSize_eq]
  refine
    ⟨follows.recvd, ?_, follows.handled, follows.written, ?_, ?_,
      follows.unread, ?_⟩
  · rw [more]
    change
      _ =
        BitVec.ofNat 18
          (stream.first.toNat + (stream.bytesRead + length.toNat))
    rw [← Nat.add_assoc, BitVec.ofNat_add, ← follows.appRead,
      BitVec.ofNat_toNat]
  · rw [more, segment_add, ringOffsets, Delivery.read,
      List.flatMap_append]
    refine congrArg₂ (· ++ ·) follows.read ?_
    rw [List.flatMap_singleton, offset, segment_mod]
    rfl
  · rw [Delivery.read, List.map_append, List.append_assoc]
    exact follows.asked
  · intro cmd member
    rw [Delivery.read, ← List.append_assoc] at member
    rcases List.mem_append.1 member with earlier | now
    · exact follows.rings cmd earlier
    · rw [List.mem_singleton.1 now, sessionCmd_offset]
      rfl

end Delivery.Follows

/-! ## Calls of the machine -/

namespace Streaming

variable {id reading : TcpSessionID} {received : BitVec 32}
variable {read : TcpSessionBuffer} {system : RingSystem}

theorem load
    (streaming : Streaming id reading received read system)
    (loads : system.fsm.fsmState = .load) :
    Streaming id reading received read
        (system.afterFsm id (rxEngLoad system.fsm).1
          (rxEngLoad system.fsm).2) ∧
      (system.afterFsm id (rxEngLoad system.fsm).1
          (rxEngLoad system.fsm).2).unread =
        system.unread := by
  have phase := streaming.recvd
  rw [loads] at phase
  obtain ⟨noRsps, pending⟩ := phase.of_idle
  rw [rxEngLoad]
  cases segments : system.fsm.metaDatas with
  | nil =>
      have same : system.afterFsm id system.fsm [] = system := by
        simp only [RingSystem.afterFsm, List.filterMap_nil,
          List.append_nil]
        rfl
      rw [same]
      exact ⟨streaming, rfl⟩
  | cons segment later =>
      have sameUnread :
          (if opensSession id (rxLookups segment) then
              0
            else
              system.unread + sessionNotified id (rxLookups segment)) =
            system.unread := by
        rw [opensSession_rxLookups, sessionNotified_rxLookups]
        rfl
      refine ⟨⟨?_, streaming.appRead, ?_, fun _ => rfl⟩, sameUnread⟩
      · change
          StreamPhase id (system.entry id).recvd received
            segment.sessionId true system.fsm.rxSarRsps
            (system.table.rxEngReqs ++
              (rxLookups segment).filterMap RxEngMsg.toRxSar)
        rw [rxLookups_toRxSar, noRsps]
        exact Phase.asked pending
      · intro req member isInit own
        change
          req ∈ system.table.rxEngReqs ++
            (rxLookups segment).filterMap RxEngMsg.toRxSar at member
        rw [rxLookups_toRxSar] at member
        rcases List.mem_append.1 member with earlier | last
        · have quiet := streaming.opening req earlier isInit own
          exact ⟨sameUnread.trans quiet.unread, quiet.reads.afterFsm⟩
        · rw [List.mem_singleton.1 last] at isInit
          cases isInit

/-- The machine has the answer it waited for, and nothing is on its way. -/
theorem answered {loaded : RxEngState}
    (streaming : Streaming id reading received read system)
    (answers : system.fsm.takeAnswers = some loaded) :
    StreamAnswer id (system.entry id).recvd received
        loaded.tcpRxMetaReg.sessionId loaded.rxSarReg ∧
      loaded.rxSarRsps = [] ∧ system.table.rxEngReqs = [] := by
  have took := takesAnswers answers
  have phase := streaming.recvd
  rw [took.rxSarRsps, ← took.segment] at phase
  obtain ⟨_, answer, noRsps, noReqs⟩ := phase.of_answered
  exact ⟨answer, noRsps, noReqs⟩

/-- The writes of the segment are on their way. -/
theorem handle {loaded : RxEngState} {further : BitVec 32}
    (streaming : Streaming id reading received read system)
    (answers : system.fsm.takeAnswers = some loaded)
    (pending :
      StreamWrites id (system.entry id).recvd further
        (rxWrites (rxEngHandle loaded).2).rxSarWrites)
    (opens :
      opensSession id (rxEngHandle loaded).2 = true →
        system.ReadsDone id) :
    Streaming id reading further read
      (system.afterFsm id (rxEngHandle loaded).1
        (rxEngHandle loaded).2) := by
  have took := takesAnswers answers
  have own := rxEngHandle_ownWrites loaded
  obtain ⟨txSarReg, txWinScale, final⟩ := rxEngHandle_regs loaded
  obtain ⟨_, noRsps, noReqs⟩ := streaming.answered answers
  have load : (rxEngHandle loaded).1.fsmState = .load := by
    rw [final]
    exact took.fsmState
  have emptied : (rxEngHandle loaded).1.rxSarRsps = [] := by
    rw [final]
    exact noRsps
  have onTheirWay :
      system.table.rxEngReqs ++
          (rxEngHandle loaded).2.filterMap RxEngMsg.toRxSar =
        (rxWrites (rxEngHandle loaded).2).rxSarWrites := by
    rw [noReqs, own.rxSarReqs, List.nil_append]
  refine ⟨?_, streaming.appRead, ?_, ?_⟩
  · change
      StreamPhase id (system.entry id).recvd further _
        (decide ((rxEngHandle loaded).1.fsmState = .transition))
        (rxEngHandle loaded).1.rxSarRsps
        (system.table.rxEngReqs ++
          (rxEngHandle loaded).2.filterMap RxEngMsg.toRxSar)
    rw [onTheirWay, load, emptied]
    exact Phase.idle pending
  · intro req member isInit isOwn
    change
      req ∈ system.table.rxEngReqs ++
        (rxEngHandle loaded).2.filterMap RxEngMsg.toRxSar at member
    rw [onTheirWay] at member
    have isOpen : opensSession id (rxEngHandle loaded).2 = true := by
      rw [opensSession_writes]
      refine List.any_eq_true.2 ⟨req, member, ?_⟩
      rw [isInit, isOwn, beq_self_eq_true]
      rfl
    exact ⟨if_pos isOpen, (opens isOpen).afterFsm⟩
  · intro transition
    exact absurd (load.symm.trans transition) (by decide)

end Streaming

/-- What the table answers for the session in hand is its `recvd`. -/
theorem Streaming.recvd_eq
    {id reading : TcpSessionID} {received : BitVec 32}
    {read : TcpSessionBuffer} {system : RingSystem}
    (streaming : Streaming id reading received read system) :
    system.recvd id = received :=
  streaming.recvd.foldl_moves

/-- A segment that was handled as its exit says is recorded soundly. -/
theorem StreamExit.sound
    {id : TcpSessionID} {arrival : RxArrival} {recvd : BitVec 32}
    {msgs : List RxEngMsg}
    (exit : StreamExit arrival msgs)
    (own : arrival.segment.sessionId = id)
    (current : arrival.rxSar.recvd = recvd) :
    Handled.Sound id ⟨arrival, recvd, msgs⟩ := by
  cases exit with
  | kept refused nothing | opened refused nothing =>
      refine
        ⟨own, fun takes => ?_, fun takes => ?_, fun _ => nothing⟩
      · exact absurd (refused.symm.trans takes) (by decide)
      · exact absurd (refused.symm.trans takes) (by decide)
  | taken takes inOrder some payload =>
      refine
        ⟨own, fun _ => inOrder.symm.trans current,
          fun _ _ => payload, fun none => ?_⟩
      rcases none with refused | empty
      · exact absurd (refused.symm.trans takes) (by decide)
      · exact absurd (empty.symm.trans some) (by decide)
  | finished takes inOrder empty nothing =>
      refine
        ⟨own, fun _ => inOrder.symm.trans current, fun _ some => ?_,
          fun _ => nothing⟩
      have none := TcpHeaderMeta.hasPayload_of_zero empty
      exact absurd (none.symm.trans some) (by decide)

section Machine

variable {id reading : TcpSessionID} {received : BitVec 32}
variable {read : TcpSessionBuffer} {system : RingSystem}
variable {loaded : RxEngState}

/-- After a segment of another session. -/
theorem Streaming.handleOther
    (streaming : Streaming id reading received read system)
    (answers : system.fsm.takeAnswers = some loaded)
    (notOwn : loaded.tcpRxMetaReg.sessionId ≠ id) :
    Streaming id reading received read
        (system.afterFsm id (rxEngHandle loaded).1
          (rxEngHandle loaded).2) ∧
      (system.afterFsm id (rxEngHandle loaded).1
          (rxEngHandle loaded).2).unread =
        system.unread := by
  obtain ⟨answer, _, _⟩ := streaming.answered answers
  have noOpen := opensSession_other notOwn
  refine ⟨streaming.handle answers ?_ fun opens => ?_, ?_⟩
  · refine Writes.settled answer.settled fun req member => ?_
    obtain ⟨isWrite, session⟩ :=
      (rxEngHandle_ownWrites loaded).of_rxSarWrites member
    rw [session]
    exact ⟨isWrite, notOwn⟩
  · exact absurd (noOpen.symm.trans opens) (by decide)
  · change (if opensSession id _ then 0 else _) = _
    rw [noOpen, sessionNotified_other notOwn]
    rfl

/-- After a segment of the session. -/
theorem Streaming.handleOwn
    (streaming : Streaming id reading received read system)
    (answers : system.fsm.takeAnswers = some loaded)
    (own : loaded.tcpRxMetaReg.sessionId = id)
    (flags : loaded.rxEngCtrlBits = loaded.tcpRxMetaReg.header.ctrlBits)
    (opens :
      opensSession id (rxEngHandle loaded).2 = true →
        system.ReadsDone id) :
    Streaming id reading
        (if loaded.arrival.accepted then
          loaded.arrival.next
        else
          received)
        read
        (system.afterFsm id (rxEngHandle loaded).1
          (rxEngHandle loaded).2) ∧
      (system.afterFsm id (rxEngHandle loaded).1
          (rxEngHandle loaded).2).unread ≤
        system.unread +
          storedBytes (rxWrites (rxEngHandle loaded).2).memCmds := by
  obtain ⟨answer, _, _⟩ := streaming.answered answers
  refine ⟨streaming.handle answers ?_ opens, ?_⟩
  · have isWrite (req : RxEngToRxSarReq)
        (only : (rxWrites (rxEngHandle loaded).2).rxSarWrites = [req]) :
        req.write = true ∧ req.sessionId = id := by
      rw [← own]
      refine (rxEngHandle_ownWrites loaded).of_rxSarWrites ?_
      rw [only]
      exact List.mem_cons_self
    have noneElse :
        ∀ further ∈ ([] : List RxEngToRxSarReq),
          further.write = true ∧ further.sessionId ≠ id :=
      fun _ member => by cases member
    cases rxEngHandle_stream loaded flags with
    | kept refused _ none =>
        rw [none, refused]
        exact
          Writes.settled answer.settled fun _ member => by cases member
    | @opened req refused _ only isInit =>
        obtain ⟨writes, isOwn⟩ := isWrite req only
        rw [only, refused]
        refine Writes.first ⟨writes, isOwn, ?_⟩ noneElse
        rw [isInit]
        exact answer.settled
    | taken takes _ _ _ only | finished takes _ _ _ only =>
        obtain ⟨writes, isOwn⟩ := isWrite _ only
        rw [only, takes]
        exact Writes.first ⟨writes, isOwn, rfl⟩ noneElse
  · change (if opensSession id _ then 0 else _) ≤ _
    rw [sessionNotified_own own]
    split
    · exact Nat.zero_le _
    · exact Nat.le_refl _

end Machine

namespace StreamSystem

variable {id : TcpSessionID} {system : StreamSystem}

/-- Nothing of the session happens. -/
theorem Kept.sameStream {next : StreamSystem}
    {reading : TcpSessionID} {received : BitVec 32}
    {read : TcpSessionBuffer}
    (follows :
      ∀ stream,
        system.stream = some stream →
          stream.Follows id received read
            (system.ring.waiting id reading) system.ring.unread)
    (streaming : Streaming id reading received read next.ring)
    (sameStream : next.stream = system.stream)
    (sameWaiting :
      next.ring.waiting id reading = system.ring.waiting id reading)
    (sameUnread : next.ring.unread = system.ring.unread) :
    next.Kept id := by
  refine ⟨reading, received, read, streaming, fun stream isStream => ?_⟩
  rw [sameWaiting, sameUnread]
  exact follows stream (sameStream.symm.trans isStream)

theorem Kept.rxEngTcpFsm
    (kept : system.Kept id)
    (notified : ReadsNotified id system.ring .rxEngTcpFsm)
    (upToFin : UpToFin id system .rxEngTcpFsm) :
    (system.act id .rxEngTcpFsm).Kept id := by
  obtain ⟨reading, received, read, streaming, follows⟩ := kept
  cases fsmState : system.ring.fsm.fsmState with
  | load =>
      have called :
          (system.act id .rxEngTcpFsm).ring =
            system.ring.afterFsm id (rxEngLoad system.ring.fsm).1
              (rxEngLoad system.ring.fsm).2 := by
        change system.ring.afterFsm id _ _ = _
        rw [TcpOffload.rxEngTcpFsm, fsmState]
      have idle : system.ring.fsm.handling id = none := by
        rw [RxEngState.handling, fsmState]
      obtain ⟨after, sameUnread⟩ := streaming.load fsmState
      rw [← called] at after sameUnread
      refine Kept.sameStream follows after ?_ rfl sameUnread
      change recorded system id .rxEngTcpFsm = _
      rw [recorded, idle]
  | transition =>
      have called :
          (system.act id .rxEngTcpFsm).ring =
            system.ring.afterFsm id
              (rxEngTransition system.ring.fsm).1
              (rxEngTransition system.ring.fsm).2 := by
        change system.ring.afterFsm id _ _ = _
        rw [TcpOffload.rxEngTcpFsm, fsmState]
      have transitions :
          TcpOffload.rxEngTcpFsm system.ring.fsm =
            rxEngTransition system.ring.fsm := by
        rw [TcpOffload.rxEngTcpFsm, fsmState]
      have handling :
          system.ring.fsm.handling id =
            system.ring.fsm.takeAnswers.filter fun loaded =>
              loaded.tcpRxMetaReg.sessionId == id := by
        rw [RxEngState.handling, fsmState]
      rw [rxEngTransition] at called transitions
      cases answers : system.ring.fsm.takeAnswers with
      | none =>
          rw [answers] at called handling
          have same :
              system.ring.afterFsm id system.ring.fsm [] =
                system.ring := by
            simp only [RingSystem.afterFsm, List.filterMap_nil,
              List.append_nil]
            rfl
          rw [same] at called
          refine Kept.sameStream follows ?_ ?_ rfl ?_
          · rw [called]
            exact streaming
          · change recorded system id .rxEngTcpFsm = _
            rw [recorded, handling]
            rfl
          · rw [called]
      | some loaded =>
          rw [answers] at called handling transitions
          have took := takesAnswers answers
          have flags :
              loaded.rxEngCtrlBits =
                loaded.tcpRxMetaReg.header.ctrlBits := by
            rw [took.ctrlBits, took.segment]
            exact streaming.flags fsmState
          by_cases own : loaded.tcpRxMetaReg.sessionId = id
          case neg =>
            rw [Option.filter_some, if_neg (by simpa using own)]
              at handling
            obtain ⟨after, sameUnread⟩ :=
              streaming.handleOther answers own
            rw [← called] at after sameUnread
            refine Kept.sameStream follows after ?_ rfl sameUnread
            change recorded system id .rxEngTcpFsm = _
            rw [recorded, handling]
          rw [Option.filter_some, if_pos (beq_iff_eq.2 own)] at handling
          have opens
              (isOpen : opensSession id (rxEngHandle loaded).2 = true) :
              system.ring.ReadsDone id := by
            refine notified ?_
            rw [transitions]
            exact isOpen
          obtain ⟨after, unread⟩ :=
            streaming.handleOwn answers own flags opens
          obtain ⟨answer, _, _⟩ := streaming.answered answers
          have sameWaiting :
              (system.act id .rxEngTcpFsm).ring.waiting id reading =
                system.ring.waiting id reading := by
            rw [called]
            rfl
          rw [← called] at after unread
          refine ⟨reading, _, read, after, fun stream isStream => ?_⟩
          change recorded system id .rxEngTcpFsm = some stream at isStream
          rw [recorded, handling] at isStream
          obtain ⟨before, isBefore, rfl⟩ :=
            Option.map_eq_some_iff.1 isStream
          have beforeFollows := follows before isBefore
          have exit := rxEngHandle_stream loaded flags
          have sound :
              Handled.Sound id
                ⟨loaded.arrival, system.ring.recvd id,
                  (rxEngHandle loaded).2⟩ :=
            exit.sound own
              ((answer.recvd own).trans streaming.recvd_eq.symm)
          rw [sameWaiting]
          refine Delivery.Follows.fewerUnread ?_ unread
          generalize (rxEngHandle loaded).2 = msgs at sound ⊢
          cases takes : loaded.arrival.accepted with
          | true =>
              rw [if_pos rfl]
              have noFin : before.finished = false := by
                cases isFin : before.finished with
                | false =>
                    rfl
                | true =>
                    have refused :=
                      upToFin before isBefore isFin loaded handling
                    exact absurd (takes.symm.trans refused) (by decide)
              have after :=
                beforeFollows.accept sound takes
                  ((sound.inOrder takes).trans streaming.recvd_eq) noFin
              exact after
          | false =>
              have nothing := sound.nothing (Or.inl takes)
              rw [if_neg Bool.false_ne_true, nothing.memCmds]
              have after := beforeFollows.keep sound takes
              exact after

end StreamSystem

end TcpOffload
