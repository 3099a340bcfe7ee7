import TcpOffload.MemoryAccess.RingStream
import TcpOffload.RxEngine.ReadAhead

/-!
# The received bytes

The memory commands of `RxEngTcpFsm` and of `RxAppDataHandler`, for all
sessions and in the order in which they are written, are carried out by the
processes of `memory_access.hpp`.  What the reads of a connection deliver is
what its accepted segments carried.
-/

namespace TcpOffload

open CellStore Framing Guarded RingSegment

/-! ## Commands and the accesses that carry them out -/

/-- A command of a process, with the session it is written for. -/
structure AskedAccess where
  isWrite : Bool
  id : TcpSessionID
  cmd : MemBufferRWCmd
deriving DecidableEq

/-- The command that an access carries out. -/
def RingAccess.asked : RingAccess → RingDirection × AskedAccess
  | .write direction stored _ =>
      (direction, ⟨true, stored.id, stored.cmd direction⟩)
  | .read direction request =>
      (direction, ⟨false, request.id, request.cmd direction⟩)

/-- The commands of a call. -/
def RingSystem.asks (system : RingSystem) : RingAction → List AskedAccess
  | .rxEngTcpFsm =>
      (rxWrites (rxEngTcpFsm system.fsm).2).memCmds.map fun cmd =>
        ⟨true, system.fsm.tcpRxMetaReg.sessionId, cmd⟩
  | .rxAppDataHandler =>
      match system.app.rxSarRsps with
      | rsp :: _ =>
          ((rxAppDataHandler system.app).2.filterMap
              RxAppDataMsg.readCmd).map fun cmd =>
            ⟨false, rsp.sessionId, cmd⟩
      | [] => []
  | _ => []

/-- The streams of the receive path, and the accesses that were carried out
before the entry of the session was initialised and since. -/
structure ReceiveSystem where
  streaming : StreamSystem
  before : List RingAccess
  since : List RingAccess

namespace ReceiveSystem

def start (table : TcpSessionID → RxSarTableEntry) : ReceiveSystem where
  streaming := StreamSystem.start table
  before := []
  since := []

/-- A call, with the accesses that carry out its commands. -/
def act
    (system : ReceiveSystem) (id : TcpSessionID)
    (call : RingAction × List RingAccess) : ReceiveSystem :=
  let streaming := system.streaming.act id call.1
  match call.1, system.streaming.ring.table.opening id with
  | .rxSarTable, some _ =>
      ⟨streaming, system.before ++ system.since, []⟩
  | _, _ => ⟨streaming, system.before, system.since ++ call.2⟩

end ReceiveSystem

/-- One step of a run in which the application reads what it was told about,
FIN+ACKs are taken with room for their payload, and every command is carried
out by an access that the processes of the memory are made for. -/
structure ReceiveStep
    (id : TcpSessionID) (system : ReceiveSystem)
    (call : RingAction × List RingAccess) (next : ReceiveSystem) :
    Prop where
  next : next = system.act id call
  streams :
    StreamStep id system.streaming call.1
      (system.streaming.act id call.1)
  finsFit : FinsFit id system.streaming.ring call.1
  carriedOut :
    call.2.map RingAccess.asked =
      (system.streaming.ring.asks call.1).map fun asked => (.rx, asked)
  wellFormed : ∀ access ∈ call.2, access.WellFormed

section Accesses

variable {id : TcpSessionID} {accesses : List RingAccess}
variable {asks : List AskedAccess}

/-- Commands of other sessions are carried out in other rings. -/
theorem notOf_of_asked
    (carriedOut :
      accesses.map RingAccess.asked = asks.map fun asked => (.rx, asked))
    (others : ∀ asked ∈ asks, asked.id ≠ id) :
    ∀ access ∈ accesses, ¬ access.IsOf .rx id := by
  intro access isIn isOf
  have isAsked : access.asked ∈ accesses.map RingAccess.asked :=
    List.mem_map.2 ⟨access, isIn, rfl⟩
  rw [carriedOut] at isAsked
  obtain ⟨asked, isInAsks, isAccess⟩ := List.mem_map.1 isAsked
  have sameId := others asked isInAsks
  cases access with
  | write direction stored words =>
      rw [(Prod.mk.inj isAccess).2] at sameId
      exact sameId isOf.2
  | read direction read =>
      rw [(Prod.mk.inj isAccess).2] at sameId
      exact sameId isOf.2

/-- One write command. -/
theorem write_of_asked {cmd : MemBufferRWCmd}
    (carriedOut :
      accesses.map RingAccess.asked = [(.rx, ⟨true, id, cmd⟩)]) :
    ∃ stored words,
      accesses = [.write .rx stored words] ∧ stored.id = id ∧
        stored.cmd .rx = cmd := by
  obtain ⟨access, rfl, isAsked⟩ := List.map_eq_singleton_iff.1 carriedOut
  cases access with
  | write direction stored words =>
      obtain ⟨rfl, same⟩ := Prod.mk.inj isAsked
      obtain ⟨-, sameId, sameCmd⟩ := AskedAccess.mk.inj same
      exact ⟨stored, words, rfl, sameId, sameCmd⟩
  | read direction read =>
      cases (AskedAccess.mk.inj (Prod.mk.inj isAsked).2).1

theorem read_of_asked {cmd : MemBufferRWCmd}
    (carriedOut :
      accesses.map RingAccess.asked = [(.rx, ⟨false, id, cmd⟩)]) :
    ∃ read,
      accesses = [.read .rx read] ∧ read.id = id ∧ read.cmd .rx = cmd := by
  obtain ⟨access, rfl, isAsked⟩ := List.map_eq_singleton_iff.1 carriedOut
  cases access with
  | write direction stored words =>
      cases (AskedAccess.mk.inj (Prod.mk.inj isAsked).2).1
  | read direction read =>
      obtain ⟨rfl, same⟩ := Prod.mk.inj isAsked
      obtain ⟨-, sameId, sameCmd⟩ := AskedAccess.mk.inj same
      exact ⟨read, rfl, sameId, sameCmd⟩

theorem RingRead.of_cmd
    {read : RingRead} {cmd : MemBufferRWCmd}
    (isCmd : read.cmd .rx = cmd) :
    read.offset = cmd.offset ∧ read.length = cmd.length := by
  rw [← isCmd, RingRead.cmd, sessionCmd_offset]
  exact ⟨rfl, rfl⟩

/-- The command behind others starts where they end. -/
theorem offset_behind
    {cmds : List MemBufferRWCmd} {cmd : MemBufferRWCmd}
    {first count : Nat} (some : 0 < cmd.length.toNat)
    (before : ringOffsets cmds = segment bufferSize first count)
    (behind :
      ringOffsets (cmds ++ [cmd]) =
        segment bufferSize first (count + cmd.length.toNat)) :
    cmd.offset.toNat = (first + count) % bufferSize := by
  rw [ringOffsets, List.flatMap_append, List.flatMap_singleton,
    segment_add] at behind
  have same :=
    mod_eq_of_segment_eq some
      (List.append_cancel_left
        ((congrArg (· ++ _) before.symm).trans behind))
  rw [← same]
  exact (Nat.mod_eq_of_lt cmd.offset.isLt).symm

end Accesses

/-! ## The invariant -/

/-- The accesses since the entry was initialised stream the accepted bytes
through the session's ring. -/
structure StreamedThrough
    (id : TcpSessionID) (stream : Delivery) (accesses : List RingAccess) :
    Prop where
  written : (bytesWritten .rx id accesses).length = stream.total
  through :
    StreamsThrough .rx id stream.first.toNat stream.bytesRead accesses

namespace StreamedThrough

variable {id : TcpSessionID} {stream : Delivery}
variable {accesses more : List RingAccess}

theorem start (first : BitVec 32) :
    StreamedThrough id (Delivery.start first) [] :=
  ⟨rfl, StreamsThrough.nil⟩

theorem others (streamed : StreamedThrough id stream accesses)
    (notOf : ∀ access ∈ more, ¬ access.IsOf .rx id) :
    StreamedThrough id stream (accesses ++ more) := by
  refine ⟨?_, streamed.through.others notOf⟩
  rw [bytesWritten_append, bytesWritten_others notOf, List.append_nil]
  exact streamed.written

/-- A payload that was accepted and is stored. -/
theorem store {handled : Handled} {stored : SessionWrite}
    {words : List NetAXISWord} {cmd : MemBufferRWCmd}
    (streamed : StreamedThrough id stream accesses)
    (own : stored.id = id) (isCmd : stored.cmd .rx = cmd)
    (only : (rxWrites handled.msgs).memCmds = [cmd])
    (length : handled.payload = cmd.length.toNat)
    (before :
      ringOffsets stream.writes =
        segment bufferSize stream.first.toNat stream.total)
    (behind :
      ringOffsets (stream.handle handled).writes =
        segment bufferSize stream.first.toNat
          (stream.handle handled).total)
    (room :
      (stream.handle handled).total ≤ stream.bytesRead + bufferSize) :
    StreamedThrough id (stream.handle handled)
      (accesses ++ [.write .rx stored words]) := by
  obtain ⟨sameOffset, sameLength⟩ := SessionWrite.of_cmd isCmd
  have some : 0 < cmd.length.toNat := by
    rw [← sameLength]
    exact List.length_pos_iff.2 stored.nonempty
  have grown := stream.total_handle handled
  have writes :
      (stream.handle handled).writes = stream.writes ++ [cmd] := by
    rw [Delivery.writes, Delivery.handle, List.flatMap_append,
      List.flatMap_singleton, only]
    rfl
  rw [writes, grown, length] at behind
  rw [grown, length] at room
  have offset := offset_behind some before behind
  rw [← sameOffset, ← streamed.written] at offset
  have isOf : RingAccess.IsOf .rx id (.write .rx stored words) :=
    ⟨rfl, own⟩
  refine ⟨?_, streamed.through.write own offset ?_⟩
  · rw [bytesWritten_append, List.length_append, streamed.written,
      bytesWritten, List.flatMap_singleton, if_pos isOf, grown, length,
      ← sameLength]
    rfl
  · rw [streamed.written, sameLength]
    exact room

/-- A read of the application. -/
theorem read {request : RingRead} {cmd : MemBufferRWCmd}
    (streamed : StreamedThrough id stream accesses)
    (own : request.id = id) (isCmd : request.cmd .rx = cmd)
    (before :
      ringOffsets stream.reads =
        segment bufferSize stream.first.toNat stream.bytesRead)
    (behind :
      ringOffsets (stream.read [cmd]).reads =
        segment bufferSize stream.first.toNat
          (stream.read [cmd]).bytesRead)
    (inside : (stream.read [cmd]).bytesRead ≤ stream.total) :
    StreamedThrough id (stream.read [cmd])
      (accesses ++ [.read .rx request]) := by
  obtain ⟨sameOffset, sameLength⟩ := RingRead.of_cmd isCmd
  have some : 0 < cmd.length.toNat := by
    rw [← sameLength]
    refine Nat.pos_of_ne_zero fun none => request.someBytes ?_
    exact BitVec.eq_of_toNat_eq none
  have more :
      (stream.read [cmd]).bytesRead =
        stream.bytesRead + cmd.length.toNat := by
    rw [Delivery.bytesRead, Delivery.read, storedBytes, List.map_append,
      List.sum_append]
    rfl
  rw [more] at behind inside
  have offset := offset_behind some before behind
  rw [← sameOffset] at offset
  refine ⟨?_, ?_⟩
  · have noBytes : bytesWritten .rx id [.read .rx request] = [] := by
      rw [bytesWritten, List.flatMap_singleton, if_pos ⟨rfl, own⟩]
      rfl
    rw [bytesWritten_append, noBytes, List.append_nil]
    exact streamed.written
  · rw [more, ← sameLength]
    refine streamed.through.read own offset ?_
    rw [sameLength, streamed.written]
    exact inside

end StreamedThrough

namespace ReceiveSystem

variable {id : TcpSessionID} {system next : ReceiveSystem}

structure Kept (id : TcpSessionID) (system : ReceiveSystem) : Prop where
  stream : system.streaming.Kept id
  ring : system.streaming.ring.Kept id
  inOneTurn : system.streaming.InOneTurn id
  wellFormed :
    ∀ access ∈ system.before ++ system.since, access.WellFormed
  streamed :
    ∀ stream,
      system.streaming.stream = some stream →
        StreamedThrough id stream system.since

theorem kept_start
    (id : TcpSessionID) (table : TcpSessionID → RxSarTableEntry) :
    (start table).Kept id where
  stream := streamKept_start id table
  ring := ringKept_start id table
  inOneTurn := fun _ none => by cases none
  wellFormed := fun _ isIn => by cases isIn
  streamed := fun _ none => by cases none

/-! ### Calls of the machine -/

/-- A call that handles no segment of the session stores none. -/
theorem asks_of_not_handling
    {ring : RingSystem} (handles : ring.fsm.handling id = none) :
    ∀ asked ∈ ring.asks .rxEngTcpFsm, asked.id ≠ id := by
  intro asked isIn own
  obtain ⟨cmd, isCmd, rfl⟩ := List.mem_map.1 isIn
  rw [RxEngState.handling] at handles
  cases fsmState : ring.fsm.fsmState with
  | load =>
      rw [rxEngTcpFsm, fsmState] at isCmd
      simp only [rxEngLoad] at isCmd
      split at isCmd
      · cases isCmd
      · change cmd ∈ (rxWrites (rxLookups _)).memCmds at isCmd
        rw [rxWrites_rxLookups] at isCmd
        cases isCmd
  | transition =>
      rw [rxEngTcpFsm, fsmState] at isCmd
      simp only [rxEngTransition] at isCmd
      rw [fsmState] at handles
      cases answers : ring.fsm.takeAnswers with
      | none =>
          rw [answers] at isCmd
          cases isCmd
      | some loaded =>
          rw [answers] at handles
          have notOwn := Option.filter_eq_none_iff.1 handles loaded rfl
          rw [(takesAnswers answers).segment] at notOwn
          exact notOwn (beq_iff_eq.2 own)

theorem Kept.afterFsm (kept : system.Kept id)
    (streamKept : (system.streaming.act id .rxEngTcpFsm).Kept id)
    (inOneTurn : (system.streaming.act id .rxEngTcpFsm).InOneTurn id)
    {accesses : List RingAccess}
    (carriedOut :
      accesses.map RingAccess.asked =
        (system.streaming.ring.asks .rxEngTcpFsm).map
          fun asked => (.rx, asked))
    {stream : Delivery}
    (isStream :
      (system.streaming.act id .rxEngTcpFsm).stream = some stream) :
    StreamedThrough id stream (system.since ++ accesses) := by
  have delivered := streamKept.delivered isStream
  have fits := inOneTurn stream isStream
  change
    StreamSystem.recorded system.streaming id .rxEngTcpFsm = some stream
      at isStream
  rw [StreamSystem.recorded] at isStream
  cases handles : system.streaming.ring.fsm.handling id with
  | none =>
      rw [handles] at isStream
      exact
        (kept.streamed stream isStream).others
          (notOf_of_asked carriedOut (asks_of_not_handling handles))
  | some loaded =>
      rw [handles] at isStream
      obtain ⟨before, isBefore, rfl⟩ := Option.map_eq_some_iff.1 isStream
      obtain ⟨transition, answers, own⟩ := RxEngState.of_handling handles
      have streamed := kept.streamed before isBefore
      have sound :=
        delivered.handled _ (List.mem_append_right _ List.mem_cons_self)
      have asks :
          system.streaming.ring.asks .rxEngTcpFsm =
            (rxWrites (rxEngHandle loaded).2).memCmds.map fun cmd =>
              ⟨true, id, cmd⟩ := by
        rw [RingSystem.asks, rxEngTcpFsm, transition]
        simp only [rxEngTransition, answers]
        rw [← (takesAnswers answers).segment, own]
      rw [asks] at carriedOut
      by_cases stores :
          loaded.arrival.accepted = true ∧
            loaded.arrival.segment.header.hasPayload = true
      · have only := (sound.payload stores.1 stores.2).memCmds
        change (rxWrites (rxEngHandle loaded).2).memCmds = _ at only
        rw [only] at carriedOut
        obtain ⟨stored, words, rfl, isOwn, isCmd⟩ :=
          write_of_asked carriedOut
        refine
          streamed.store isOwn isCmd only (if_pos stores.1)
            (kept.stream.delivered isBefore).written delivered.written ?_
        have short := fits.short
        rw [bufferSize_eq]
        exact
          Nat.le_of_lt
            (Nat.lt_of_le_of_lt (Nat.le_add_right _ _) short)
      · have nothing := sound.nothing (by
          rw [not_and_or, Bool.not_eq_true, Bool.not_eq_true] at stores
          exact stores)
        have noCmds := nothing.memCmds
        change (rxWrites (rxEngHandle loaded).2).memCmds = _ at noCmds
        rw [noCmds] at carriedOut
        rw [List.map_eq_nil_iff.1 carriedOut, List.append_nil]
        refine ⟨?_, streamed.through⟩
        rw [streamed.written, Delivery.total_handle, Handled.payload]
        split
        · rename_i takes
          have noPayload :
              ¬ loaded.arrival.segment.header.payloadLength ≠ 0 :=
            fun some => stores ⟨takes, bne_iff_ne.2 some⟩
          change _ = _ + BitVec.toNat _
          rw [not_not.1 noPayload]
          rfl
        · rfl

/-! ### Calls of the read handler and of the table -/

theorem readCmds_of_not_waiting {app : RxAppDataState}
    (notWaits : app.fsmState ≠ .waitSarRsp) :
    (rxAppDataHandler app).2.filterMap RxAppDataMsg.readCmd = [] := by
  rw [rxAppDataHandler]
  split
  · split
    · split
      · rfl
      · rfl
    · rfl
  · rename_i waits
    exact absurd waits notWaits
  · split
    · rfl
    · rfl

theorem readCmds_of_waiting {app : RxAppDataState}
    (waits : app.fsmState = .waitSarRsp) {rsp : RxSarAppReqRsp}
    {later : List RxSarAppReqRsp} (rsps : app.rxSarRsps = rsp :: later) :
    (rxAppDataHandler app).2.filterMap RxAppDataMsg.readCmd =
      [sessionCmd .rx rsp.sessionId rsp.appRead app.rxAppReadLength] := by
  rw [rxAppDataHandler, waits, rsps]
  rfl

theorem Kept.afterHandler (kept : system.Kept id)
    (streamKept : (system.streaming.act id .rxAppDataHandler).Kept id)
    {accesses : List RingAccess}
    (carriedOut :
      accesses.map RingAccess.asked =
        (system.streaming.ring.asks .rxAppDataHandler).map
          fun asked => (.rx, asked))
    {stream : Delivery}
    (isStream :
      (system.streaming.act id .rxAppDataHandler).stream = some stream) :
    StreamedThrough id stream (system.since ++ accesses) := by
  have delivered := streamKept.delivered isStream
  obtain ⟨before, isBefore, rfl⟩ := Option.map_eq_some_iff.1 isStream
  have streamed := kept.streamed before isBefore
  have noRead : before.read [] = before := by
    rw [Delivery.read, List.append_nil]
  rw [RingSystem.asks] at carriedOut
  rw [RxAppDataState.sessionReads] at delivered ⊢
  by_cases waits : system.streaming.ring.app.fsmState = .waitSarRsp
  · cases rsps : system.streaming.ring.app.rxSarRsps with
    | nil =>
        rw [rsps] at carriedOut
        rw [waits]
        simp only [noRead]
        rw [List.map_eq_nil_iff.1 carriedOut, List.append_nil]
        exact streamed
    | cons rsp later =>
        have cmds := readCmds_of_waiting waits rsps
        rw [rsps] at carriedOut delivered
        simp only [waits, cmds] at carriedOut delivered ⊢
        by_cases own : rsp.sessionId = id
        · simp only [if_pos own] at delivered ⊢
          rw [own] at carriedOut delivered ⊢
          obtain ⟨request, rfl, isOwn, isCmd⟩ := read_of_asked carriedOut
          exact
            streamed.read isOwn isCmd
              (kept.stream.delivered isBefore).read delivered.read
              delivered.inside
        · simp only [if_neg own, noRead]
          refine streamed.others (notOf_of_asked carriedOut ?_)
          intro asked isIn
          rw [List.mem_singleton.1 isIn]
          exact own
  · have noCmds := readCmds_of_not_waiting waits
    have noAsks : accesses = [] := by
      rw [noCmds] at carriedOut
      split at carriedOut
      · exact List.map_eq_nil_iff.1 carriedOut
      · exact List.map_eq_nil_iff.1 carriedOut
    rw [noAsks, List.append_nil]
    split
    · rename_i isWaiting _
      exact absurd isWaiting waits
    · rw [noRead]
      exact streamed

theorem act_streaming (id : TcpSessionID)
    (call : RingAction × List RingAccess) :
    (system.act id call).streaming = system.streaming.act id call.1 := by
  rw [act]
  split
  · rfl
  · rfl

theorem act_accesses (id : TcpSessionID)
    (call : RingAction × List RingAccess)
    {access : RingAccess}
    (isIn :
      access ∈ (system.act id call).before ++ (system.act id call).since) :
    access ∈ system.before ++ system.since ∨ access ∈ call.2 := by
  rw [act] at isIn
  split at isIn
  · rw [List.append_nil] at isIn
    exact Or.inl isIn
  · rw [← List.append_assoc] at isIn
    exact List.mem_append.1 isIn

theorem Kept.step {call : RingAction × List RingAccess}
    (kept : system.Kept id) (stepped : ReceiveStep id system call next) :
    next.Kept id := by
  obtain ⟨rfl, streams, finsFit, carriedOut, wellFormed⟩ := stepped
  have streamKept := kept.stream.step streams
  have ringKept : (system.streaming.act id call.1).ring.Kept id :=
    kept.ring.step finsFit ⟨rfl, streams.2.1⟩
  have inOneTurn :=
    kept.inOneTurn.step kept.stream kept.ring finsFit streams
  rw [← act_streaming] at streamKept ringKept inOneTurn
  refine ⟨streamKept, ringKept, inOneTurn, ?_, ?_⟩
  · intro access isIn
    rcases act_accesses id call isIn with earlier | new
    · exact kept.wellFormed access earlier
    · exact wellFormed access new
  · intro stream isStream
    rw [act_streaming] at streamKept inOneTurn isStream
    obtain ⟨action, accesses⟩ := call
    have noAccess
        (isNext :
          (system.act id (action, accesses)).since =
            system.since ++ accesses)
        (noAsks : system.streaming.ring.asks action = [])
        (same : StreamedThrough id stream system.since) :
        StreamedThrough id stream
          (system.act id (action, accesses)).since := by
      rw [noAsks] at carriedOut
      have none : accesses = [] := List.map_eq_nil_iff.1 carriedOut
      rw [isNext, none, List.append_nil]
      exact same
    cases action with
    | rxEngTcpFsm =>
        exact kept.afterFsm streamKept inOneTurn carriedOut isStream
    | rxAppDataHandler =>
        exact kept.afterHandler streamKept carriedOut isStream
    | rxSarTable =>
        change
          StreamSystem.recorded system.streaming id .rxSarTable =
            some stream at isStream
        rw [StreamSystem.recorded] at isStream
        cases opening : system.streaming.ring.table.opening id with
        | some first =>
            rw [opening] at isStream
            cases isStream
            have anew :
                (system.act id (.rxSarTable, accesses)).since = [] := by
              simp only [act, opening]
            rw [anew]
            exact StreamedThrough.start first
        | none =>
            rw [opening] at isStream
            refine noAccess ?_ rfl (kept.streamed stream isStream)
            simp only [act, opening]
    | recvDataReq req =>
        obtain ⟨before, isBefore, rfl⟩ :=
          Option.map_eq_some_iff.1 isStream
        have streamed := kept.streamed before isBefore
        exact noAccess rfl rfl ⟨streamed.written, streamed.through⟩
    | segment | sttableRsp | txSarRsp | readData | txEngLup =>
        exact noAccess rfl rfl (kept.streamed stream isStream)

end ReceiveSystem

/-- In every run in which the application reads what it was told about, the
reads of a connection deliver, in order and without a gap, the bytes of its
accepted segments: whatever the memory held before, whatever other sessions
store and read in between, and wherever the payloads pass the end of the
ring. -/
theorem reads_deliver_accepted_bytes
    (id : TcpSessionID) (table : TcpSessionID → RxSarTableEntry)
    {calls : List (RingAction × List RingAccess)} {final : ReceiveSystem}
    (run :
      Run (ReceiveStep id) (ReceiveSystem.start table) calls final)
    (memory : Nat → BitVec 8)
    {earlier out : List NetAXISWord} {atStart atEnd : MemorySystem}
    {frames : List (List (BitVec 8))}
    (ranBefore :
      AccessRun (MemorySystem.start memory) final.before earlier atStart)
    (ranSince : AccessRun atStart final.since out atEnd)
    (isFrames : AxiFrames frames out) :
    ∀ stream,
      final.streaming.stream = some stream →
        (bytesWritten .rx id final.since).length = stream.total ∧
          bytesDelivered .rx id final.since frames =
            (bytesWritten .rx id final.since).take stream.bytesRead := by
  have kept : final.Kept id :=
    run.keeps (fun _ _ _ before stepped => before.step stepped)
      (ReceiveSystem.kept_start id table)
  have wellFormed (access : RingAccess) (isIn : access ∈ final.before) :
      access.WellFormed :=
    kept.wellFormed access (List.mem_append_left _ isIn)
  obtain ⟨ready, represents⟩ :=
    ranBefore.rests (MemorySystem.ready_start memory)
      (represents_ofMemory memory) wellFormed
  intro stream isStream
  have streamed := kept.streamed stream isStream
  exact
    ⟨streamed.written,
      streamed.through.delivers
        (fun access isIn =>
          kept.wellFormed access (List.mem_append_right _ isIn))
        ready represents ranSince isFrames⟩

/-! ## A payload that is read in part -/

theorem zero_isId : (0 : TcpSessionID).toNat < 2 ^ 13 := by
  decide

theorem fourBytes_inside :
    (7000 : TcpSessionBuffer).toNat +
        ([1, 2, 3, 4] : List (BitVec 8)).length ≠
      bufferSize := by
  decide

theorem threeBytes_inside :
    (7000 : TcpSessionBuffer).toNat + (3 : BitVec 16).toNat ≠
      bufferSize := by
  decide

def fourBytesWrite : SessionWrite where
  id := 0
  offset := 7000
  bytes := [1, 2, 3, 4]
  idBound := zero_isId
  nonempty := fourBytes_ne_nil
  short := fourBytes_short
  notAtEnd := fourBytes_inside

def threeBytesRead : RingRead where
  id := 0
  offset := 7000
  length := 3
  idBound := zero_isId
  someBytes := threeLength_ne_zero
  notAtEnd := threeBytes_inside

/-- A SYN, and four bytes of which the application reads three. -/
def fourBytesReceived : List (RingAction × List RingAccess) :=
  [(.segment (streamSegment 6999 false true false 0), []),
    (.rxEngTcpFsm, []), (.sttableRsp .closed, []), (.rxSarTable, []),
    (.rxEngTcpFsm, []), (.rxSarTable, []),
    (.segment (streamSegment 7000 true false false 4), []),
    (.rxEngTcpFsm, []), (.sttableRsp .established, []),
    (.txSarRsp streamTxSar, []), (.rxSarTable, []),
    (.rxEngTcpFsm,
      [.write .rx fourBytesWrite
        [NetAXISWord.ofBytes [1, 2, 3, 4] true]]),
    (.rxSarTable, []), (.recvDataReq ⟨0, 3, 0⟩, []),
    (.rxAppDataHandler, []), (.rxSarTable, []),
    (.rxAppDataHandler, [.read .rx threeBytesRead])]

def afterFourBytes : ReceiveSystem :=
  fourBytesReceived.foldl (ReceiveSystem.act · 0)
    (ReceiveSystem.start fun _ => ⟨0, 0, 0⟩)

theorem run_fourBytesReceived :
    Run (ReceiveStep 0) (ReceiveSystem.start fun _ => ⟨0, 0, 0⟩)
      fourBytesReceived afterFourBytes := by
  have notFin {system : RingSystem}
      (plain :
        system.fsm.takeAnswers.all (·.rxEngCtrlBits != 5) = true) :
      FinsFit 0 system .rxEngTcpFsm := by
    intro _ loaded answers _ isFin
    rw [answers, Option.all_some, isFin] at plain
    exact absurd plain (by decide)
  have noAccess :
      ∀ access ∈ ([] : List RingAccess), access.WellFormed :=
    fun _ isIn => by cases isIn
  have stored :
      IsAxiFrame fourBytesWrite.bytes
        [NetAXISWord.ofBytes [1, 2, 3, 4] true] :=
    IsFrame.final (NetAXISWord.holds_ofBytes true (by decide)) (by decide)
      (by decide) rfl
  have oneAccess {access : RingAccess} (wellFormed : access.WellFormed) :
      ∀ other ∈ [access], other.WellFormed := by
    intro other isIn
    rw [List.mem_singleton.1 isIn]
    exact wellFormed
  have inOneBeat :
      RingAccess.WellFormed (.read .rx threeBytesRead) :=
    Or.inl (by decide)
  repeat' first
    | exact Run.refl _
    | refine
        Run.head
          ⟨rfl, ⟨rfl, trivial, trivial⟩, trivial, rfl, noAccess⟩ ?_
    | refine
        Run.head
          ⟨rfl, ⟨rfl, trivial, trivial⟩, trivial, rfl,
            oneAccess inOneBeat⟩ ?_
    | refine
        Run.head
          ⟨rfl, ⟨rfl, .of_noReads ⟨rfl, rfl, rfl⟩, .of_noStream rfl⟩,
            notFin (by decide +kernel), rfl, noAccess⟩ ?_
    | refine
        Run.head
          ⟨rfl, ⟨rfl, .of_noOpening rfl, .of_early rfl⟩,
            notFin (by decide +kernel), rfl, noAccess⟩ ?_
    | refine
        Run.head
          ⟨rfl, ⟨rfl, .of_noOpening rfl, .of_early rfl⟩,
            notFin (by decide +kernel), rfl, oneAccess stored⟩ ?_
    | refine
        Run.head
          ⟨rfl, ⟨rfl, fun _ => (by decide +kernel), trivial⟩, trivial,
            rfl, noAccess⟩ ?_

theorem reads_deliver_accepted_bytes_fourBytes :
    ∃ earlier out atStart atEnd,
      AccessRun (MemorySystem.start fun _ => 0) afterFourBytes.before
          earlier atStart ∧
        AccessRun atStart afterFourBytes.since out atEnd ∧
        ∀ frames,
          AxiFrames frames out →
            bytesDelivered .rx 0 afterFourBytes.since frames =
              [1, 2, 3] := by
  have kept : afterFourBytes.Kept 0 :=
    run_fourBytesReceived.keeps
      (fun _ _ _ before stepped => before.step stepped)
      (ReceiveSystem.kept_start 0 _)
  have ready : (MemorySystem.start fun _ => 0).Ready :=
    MemorySystem.ready_start _
  have wellFormed (access : RingAccess)
      (isIn : access ∈ afterFourBytes.before) : access.WellFormed :=
    kept.wellFormed access (List.mem_append_left _ isIn)
  obtain ⟨earlier, atStart, ranBefore⟩ :=
    (MemorySystem.run_refines ready (represents_ofMemory _) wellFormed).1
  obtain ⟨stillReady, represents⟩ :=
    ranBefore.rests ready (represents_ofMemory _) wellFormed
  obtain ⟨out, atEnd, ranSince⟩ :=
    (MemorySystem.run_refines stillReady represents fun access isIn =>
      kept.wellFormed access (List.mem_append_right _ isIn)).1
  refine
    ⟨earlier, out, atStart, atEnd, ranBefore, ranSince, ?_⟩
  intro frames isFrames
  have recorded :
      (afterFourBytes.streaming.stream.any fun stream =>
          (bytesWritten .rx 0 afterFourBytes.since).take
              stream.bytesRead ==
            [1, 2, 3]) =
        true := by
    decide +kernel
  cases isStream : afterFourBytes.streaming.stream with
  | none =>
      rw [isStream] at recorded
      cases recorded
  | some stream =>
      rw [isStream] at recorded
      have delivered :=
        reads_deliver_accepted_bytes 0 (fun _ => ⟨0, 0, 0⟩)
          run_fourBytesReceived (fun _ => 0) ranBefore ranSince isFrames
          stream isStream
      exact delivered.2.trans (eq_of_beq recorded)

end TcpOffload
