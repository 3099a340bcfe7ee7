import TcpOffload.MemoryAccess.SessionRing
import TcpOffload.RxEngine.Dropper
import TcpOffload.RxEngine.RingInvariant

/-!
# The record of a receive stream

What happened to the payload of one connection since its RX SAR entry was
initialised: the segments the machine handled, with all they wrote, and the
read commands of the application.
-/

namespace TcpOffload

open Guarded RingSegment

/-! ## Accepted segments -/

/-- The segment in hand with the answers to its lookups. -/
def RxEngState.arrival (state : RxEngState) : RxArrival where
  segment := state.tcpRxMetaReg
  sessionState := state.sessionStateReg
  rxSar := state.rxSarReg
  txSar := state.txSarReg

/-- The segment moves `recvd`: payload is taken, or a FIN is. -/
def RxArrival.accepted (arrival : RxArrival) : Bool :=
  arrival.takesPayload &&
    (arrival.segment.header.hasPayload ||
      arrival.segment.header.ctrlBits == 5)

namespace RxArrival

variable {arrival : RxArrival}

theorem accepted_of_ack
    (isAck : arrival.segment.header.ctrlBits = 1) :
    arrival.accepted =
      (arrival.sessionState.takesAck &&
            arrival.txSar.acceptsAck arrival.segment.header.ackNumber &&
          arrival.rxSar.acceptsPayload arrival.segment.header &&
        arrival.segment.header.hasPayload) := by
  simp only [accepted, takesPayload, isAck]
  simp

theorem accepted_of_fin
    (isFin : arrival.segment.header.ctrlBits = 5) :
    arrival.accepted =
      (arrival.sessionState.takesFin &&
        arrival.rxSar.recvd == arrival.segment.header.seqNumber) := by
  simp only [accepted, takesPayload, isFin]
  simp

theorem accepted_of_other
    (notAck : arrival.segment.header.ctrlBits ≠ 1)
    (notFin : arrival.segment.header.ctrlBits ≠ 5) :
    arrival.accepted = false := by
  rw [accepted, takesPayload, beq_eq_false_iff_ne.2 notAck,
    beq_eq_false_iff_ne.2 notFin]
  rfl

/-- The sequence number after the segment, a FIN counting as one byte. -/
def next (arrival : RxArrival) : BitVec 32 :=
  arrival.segment.header.seqNumber +
      arrival.segment.header.payloadLength.setWidth 32 +
    if arrival.segment.header.ctrlBits = 5 then 1 else 0

theorem next_of_fin (isFin : arrival.segment.header.ctrlBits = 5) :
    arrival.next =
      arrival.segment.header.seqNumber +
          arrival.segment.header.payloadLength.setWidth 32 +
        1 := by
  rw [next, if_pos isFin]

theorem next_of_notFin (notFin : arrival.segment.header.ctrlBits ≠ 5) :
    arrival.next =
      arrival.segment.header.seqNumber +
        arrival.segment.header.payloadLength.setWidth 32 := by
  rw [next, if_neg notFin]
  exact BitVec.add_zero _

end RxArrival

/-- The notifications that announce data. -/
def dataNotices (msgs : List RxEngMsg) : List AppNotificationNoTDEST :=
  (msgs.filterMap RxEngMsg.toRxApp).filter fun notification =>
    notification.length != 0

/-- One write command, one notification of the same length and one false
drop flag. -/
structure WritesPayload
    (segment : RxEngFsmMetaData) (msgs : List RxEngMsg) : Prop where
  memCmds : (rxWrites msgs).memCmds = [segment.payloadCmd]
  notices :
    ∃ notice,
      dataNotices msgs = [notice] ∧
        notice.sessionId = segment.sessionId ∧
        notice.length = segment.header.payloadLength
  decisions : (rxWrites msgs).decisions = [false]

/-- No payload is written, announced or let through. -/
structure WritesNothing (msgs : List RxEngMsg) : Prop where
  memCmds : (rxWrites msgs).memCmds = []
  notices : dataNotices msgs = []
  decisions : false ∉ (rxWrites msgs).decisions

/-! ## Data is announced as it is written -/

/-- The announced lengths are those of the writes. -/
structure Announced (msgs : List RxEngMsg) : Prop where
  lengths :
    (dataNotices msgs).map (fun notice => notice.length) =
      (rxWrites msgs).memCmds.map fun cmd => cmd.length

namespace Announced

variable {first second : List RxEngMsg}

theorem append (left : Announced first) (right : Announced second) :
    Announced (first ++ second) := by
  constructor
  change
    (((first ++ second).filterMap RxEngMsg.toRxApp).filter _).map _ =
      ((first ++ second).filterMap RxEngMsg.memWrite).map _
  rw [List.filterMap_append, List.filterMap_append, List.filter_append,
    List.map_append, List.map_append]
  exact congrArg₂ (· ++ ·) left.lengths right.lengths

theorem ite {condition : Prop} [Decidable condition]
    (left : condition → Announced first) (right : Announced second) :
    Announced (if condition then first else second) := by
  split
  · rename_i holds
    exact left holds
  · exact right

theorem takePayload {segment : RxEngFsmMetaData}
    (closed : Bool) (some : segment.header.payloadLength ≠ 0) :
    Announced (segment.takePayload closed) := by
  have announced :
      dataNotices (segment.takePayload closed) =
        [⟨segment.sessionId, segment.header.payloadLength, segment.srcIp,
          segment.dstPort, closed⟩] :=
    List.filter_cons_of_pos (bne_iff_ne.2 some)
  constructor
  rw [announced]
  rfl

theorem cons {msg : RxEngMsg} {later : List RxEngMsg}
    (noBytes : msg.isSilent = true) (rest : Announced later) :
    Announced (msg :: later) := by
  have alone : Announced [msg] := by
    cases msg with
    | memCmd cmd =>
        cases noBytes
    | rxAppNotify notification =>
        have empty : notification.length = 0 := eq_of_beq noBytes
        refine ⟨?_⟩
        change
          ([notification].filter fun notice =>
              notice.length != 0).map _ =
            []
        rw [List.filter_cons_of_neg]
        · rfl
        · rw [empty]
          decide
    | _ =>
        exact ⟨rfl⟩
  exact append alone rest

end Announced

theorem rxEngHandle_announced (state : RxEngState) :
    Announced (rxEngHandle state).2 := by
  have nil : Announced [] := ⟨rfl⟩
  have dropPayload (segment : RxEngFsmMetaData) :
      Announced segment.dropPayload :=
    Announced.ite (fun _ => Announced.cons rfl nil) nil
  have ackedAll
      (segment : RxEngFsmMetaData) (sessionState : SessionState) :
      Announced (rxEngAckedAll segment sessionState) := by
    cases sessionState <;> exact ⟨rfl⟩
  rw [rxEngHandle, rxEngAck, rxEngSyn, rxEngSynAck, rxEngFinAck,
    rxEngDefault]
  simp only [rxEngAckAccepted, rxEngFinState]
  repeat' first
    | exact nil
    | exact dropPayload _
    | exact ackedAll _ _
    | exact Announced.takePayload _ ‹_›
    | refine Announced.append ?_ ?_
    | refine Announced.ite (fun _ => ?_) ?_
    | refine Announced.cons rfl ?_
    | split

/-- Without a write nothing is announced. -/
theorem dataNotices_of_memCmds
    {state : RxEngState}
    (none : (rxWrites (rxEngHandle state).2).memCmds = []) :
    dataNotices (rxEngHandle state).2 = [] := by
  have lengths := (rxEngHandle_announced state).lengths
  rw [none] at lengths
  exact List.map_eq_nil_iff.1 lengths

/-- With one write one notification announces it. -/
theorem dataNotices_of_memCmd
    {state : RxEngState} {cmd : MemBufferRWCmd}
    (only : (rxWrites (rxEngHandle state).2).memCmds = [cmd]) :
    ∃ notice,
      dataNotices (rxEngHandle state).2 = [notice] ∧
        notice.sessionId = state.tcpRxMetaReg.sessionId ∧
        notice.length = cmd.length := by
  have lengths := (rxEngHandle_announced state).lengths
  rw [only] at lengths
  obtain ⟨notice, notices, isLength⟩ := List.map_eq_singleton_iff.1 lengths
  have member : notice ∈ dataNotices (rxEngHandle state).2 := by
    rw [notices]
    exact List.mem_cons_self
  exact
    ⟨notice, notices,
      (rxEngHandle_ownWrites state).of_notification
        (List.mem_filter.1 member).1,
      isLength⟩

/-! ## One segment of the stream -/

/-- What handling a segment does to the stream. -/
inductive StreamExit (arrival : RxArrival) : List RxEngMsg → Prop
  | kept {msgs : List RxEngMsg} :
      arrival.accepted = false →
      WritesNothing msgs →
      (rxWrites msgs).rxSarWrites = [] →
      StreamExit arrival msgs
  | opened {msgs : List RxEngMsg} {req : RxEngToRxSarReq} :
      arrival.accepted = false →
      WritesNothing msgs →
      (rxWrites msgs).rxSarWrites = [req] →
      req.init = true →
      StreamExit arrival msgs
  | taken {msgs : List RxEngMsg} :
      arrival.accepted = true →
      arrival.rxSar.recvd = arrival.segment.header.seqNumber →
      arrival.segment.header.hasPayload = true →
      WritesPayload arrival.segment msgs →
      (rxWrites msgs).rxSarWrites =
        [RxEngToRxSarReq.update arrival.segment.sessionId
          arrival.next] →
      StreamExit arrival msgs
  | finished {msgs : List RxEngMsg} :
      arrival.accepted = true →
      arrival.rxSar.recvd = arrival.segment.header.seqNumber →
      arrival.segment.header.payloadLength = 0 →
      WritesNothing msgs →
      (rxWrites msgs).rxSarWrites =
        [RxEngToRxSarReq.update arrival.segment.sessionId
          arrival.next] →
      StreamExit arrival msgs

theorem rxEngHandle_stream
    (state : RxEngState)
    (flags :
      state.rxEngCtrlBits = state.tcpRxMetaReg.header.ctrlBits) :
    StreamExit state.arrival (rxEngHandle state).2 := by
  have exit := rxEngHandle_exit state
  have none := @dataNotices_of_memCmds state
  have one := @dataNotices_of_memCmd state
  generalize isWrites : rxWrites (rxEngHandle state).2 = writes
    at exit none one
  have nothing
      (noCmds : writes.memCmds = [])
      (noFalse : false ∉ writes.decisions) :
      WritesNothing (rxEngHandle state).2 := by
    refine ⟨?_, none noCmds, ?_⟩
    · rw [isWrites, noCmds]
    · rw [isWrites]
      exact noFalse
  have payload
      (cmds : writes.memCmds = [state.tcpRxMetaReg.payloadCmd])
      (decisions : writes.decisions = [false]) :
      WritesPayload state.arrival.segment (rxEngHandle state).2 := by
    refine ⟨?_, one cmds, ?_⟩
    · rw [isWrites, cmds]
      rfl
    · rw [isWrites, decisions]
  have noDrop {condition : Prop} [Decidable condition] :
      false ∉ (if condition then [true] else []) := by
    split <;> decide
  have oneDrop : false ∉ [true] := by
    decide
  have kept
      (refused : state.arrival.accepted = false)
      (noCmds : writes.memCmds = [])
      (noFalse : false ∉ writes.decisions)
      (noWrites : writes.rxSarWrites = []) :
      StreamExit state.arrival (rxEngHandle state).2 := by
    refine StreamExit.kept refused (nothing noCmds noFalse) ?_
    rw [isWrites, noWrites]
  have headerBits {bits : BitVec 4} (is : state.rxEngCtrlBits = bits) :
      state.arrival.segment.header.ctrlBits = bits :=
    flags.symm.trans is
  have otherBits {bits : BitVec 4}
      (is : state.rxEngCtrlBits = bits)
      (notAck : bits ≠ 1) (notFin : bits ≠ 5) :
      state.arrival.accepted = false :=
    RxArrival.accepted_of_other (ne_of_eq_of_ne (headerBits is) notAck)
      (ne_of_eq_of_ne (headerBits is) notFin)
  cases exit with
  | ackOutside isAck takes outside =>
      refine kept ?_ rfl List.not_mem_nil rfl
      rw [RxArrival.accepted_of_ack (headerBits isAck)]
      simp only [RxEngState.arrival, outside, Bool.and_false,
        Bool.false_and]
  | ackInside isAck _ _ _ empty =>
      refine kept ?_ rfl List.not_mem_nil rfl
      rw [RxArrival.accepted_of_ack (headerBits isAck)]
      simp only [RxEngState.arrival,
        TcpHeaderMeta.hasPayload_of_zero empty, Bool.and_false]
  | ackDropped isAck _ _ _ _ refuses =>
      refine kept ?_ rfl oneDrop rfl
      rw [RxArrival.accepted_of_ack (headerBits isAck)]
      simp only [RxEngState.arrival, refuses, Bool.and_false,
        Bool.false_and]
  | ackTaken isAck takes inside _ some accepts =>
      have inOrder := accepts
      rw [RxSarTableEntry.acceptsPayload, Bool.and_eq_true,
        beq_iff_eq] at inOrder
      have hasPayload := TcpHeaderMeta.hasPayload_of_ne_zero some
      refine
        StreamExit.taken ?_ inOrder.1.symm hasPayload (payload rfl rfl) ?_
      · rw [RxArrival.accepted_of_ack (headerBits isAck)]
        simp only [RxEngState.arrival, takes, inside, accepts, hasPayload,
          Bool.and_true]
      · have notFin : state.arrival.segment.header.ctrlBits ≠ 5 :=
          ne_of_eq_of_ne (headerBits isAck) (by decide)
        rw [isWrites, RxArrival.next_of_notFin notFin]
        rfl
  | ackRefused isAck refuses =>
      refine kept ?_ rfl noDrop rfl
      rw [RxArrival.accepted_of_ack (headerBits isAck)]
      simp only [RxEngState.arrival, refuses, Bool.false_and]
  | synTaken isSyn _ isInit =>
      refine
        StreamExit.opened (otherBits isSyn (by decide) (by decide))
          (nothing rfl List.not_mem_nil) ?_ isInit
      rw [isWrites]
  | synAckTaken isSynAck _ isInit =>
      refine
        StreamExit.opened (otherBits isSynAck (by decide) (by decide))
          (nothing rfl List.not_mem_nil) ?_ isInit
      rw [isWrites]
  | finTaken isFin takes =>
      have headerFin := headerBits isFin
      have accepted : state.arrival.accepted = true :=
        (RxArrival.accepted_of_fin headerFin).trans takes
      have inOrder := takes
      rw [RxEngState.takesFin, Bool.and_eq_true, beq_iff_eq] at inOrder
      have moved :
          (rxWrites (rxEngHandle state).2).rxSarWrites =
            [RxEngToRxSarReq.update state.arrival.segment.sessionId
              state.arrival.next] := by
        rw [isWrites, RxArrival.next_of_fin headerFin]
        rfl
      by_cases empty : state.tcpRxMetaReg.header.payloadLength = 0
      · exact
          StreamExit.finished accepted inOrder.2 empty
            (nothing (if_neg (not_not_intro empty))
              (by simp only [if_neg (not_not_intro empty)]; decide))
            moved
      · exact
          StreamExit.taken accepted inOrder.2
            (TcpHeaderMeta.hasPayload_of_ne_zero empty)
            (payload (if_pos empty) (if_pos empty)) moved
  | finRefused isFin refuses =>
      refine kept ?_ rfl noDrop rfl
      exact
        (RxArrival.accepted_of_fin (headerBits isFin)).trans refuses
  | releases notAck notFin =>
      refine
        kept (RxArrival.accepted_of_other ?_ ?_) rfl List.not_mem_nil rfl
      · exact fun isAck => notAck (flags.trans isAck)
      · exact fun isFin => notFin (flags.trans isFin)

/-! ## The record of a connection -/

/-- A segment that was handled, with the `recvd` of its session at that
moment and all that was written. -/
structure Handled where
  arrival : RxArrival
  recvd : BitVec 32
  msgs : List RxEngMsg

namespace Handled

/-- The bytes of payload that were accepted. -/
def payload (handled : Handled) : Nat :=
  if handled.arrival.accepted then
    handled.arrival.segment.header.payloadLength.toNat
  else
    0

/-- The segment is a FIN that was accepted. -/
def isFin (handled : Handled) : Bool :=
  handled.arrival.accepted &&
    handled.arrival.segment.header.ctrlBits == 5

/-- An accepted segment is in order, and its payload is written, announced
and let through once; nothing is written for any other. -/
structure Sound (id : TcpSessionID) (handled : Handled) : Prop where
  own : handled.arrival.segment.sessionId = id
  inOrder :
    handled.arrival.accepted = true →
      handled.arrival.segment.header.seqNumber = handled.recvd
  payload :
    handled.arrival.accepted = true →
      handled.arrival.segment.header.hasPayload = true →
        WritesPayload handled.arrival.segment handled.msgs
  nothing :
    handled.arrival.accepted = false ∨
        handled.arrival.segment.header.hasPayload = false →
      WritesNothing handled.msgs

end Handled

/-- What happened to a session since its RX SAR entry was initialised with
`first`: the segments that were handled, the lengths the application asked
for, and the read commands. -/
structure Delivery where
  first : BitVec 32
  handled : List Handled
  asked : List (BitVec 16)
  reads : List MemBufferRWCmd

/-- The ring offsets the bytes of the commands are addressed at, in order. -/
def ringOffsets (cmds : List MemBufferRWCmd) : List Nat :=
  cmds.flatMap fun cmd =>
    segment bufferSize cmd.offset.toNat cmd.length.toNat

namespace Delivery

def start (first : BitVec 32) : Delivery where
  first := first
  handled := []
  asked := []
  reads := []

/-- The bytes of payload accepted so far. -/
def total (stream : Delivery) : Nat :=
  (stream.handled.map Handled.payload).sum

/-- A FIN has been accepted. -/
def finished (stream : Delivery) : Bool :=
  stream.handled.any Handled.isFin

/-- The memory write commands, in order. -/
def writes (stream : Delivery) : List MemBufferRWCmd :=
  stream.handled.flatMap fun handled => (rxWrites handled.msgs).memCmds

def bytesRead (stream : Delivery) : Nat :=
  storedBytes stream.reads

def handle (stream : Delivery) (handled : Handled) : Delivery :=
  { stream with handled := stream.handled ++ [handled] }

def ask (stream : Delivery) (id : TcpSessionID) (req : AppReadReq) :
    Delivery :=
  { stream with
    asked :=
      stream.asked ++
        if req.sessionId = id ∧ req.readLength ≠ 0 then
          [req.readLength]
        else
          [] }

def read (stream : Delivery) (cmds : List MemBufferRWCmd) : Delivery :=
  { stream with reads := stream.reads ++ cmds }

end Delivery

/-! ## The ring with the record of one session -/

/-- What a request on its way makes of `recvd`, if it does not initialise
the entry. -/
def RxEngToRxSarReq.moves
    (id : TcpSessionID) (recvd : BitVec 32) (req : RxEngToRxSarReq) :
    BitVec 32 :=
  if req.write && !req.init && req.sessionId == id then
    req.recvd
  else
    recvd

/-- The `recvd` of the session, with the writes on their way. -/
def RingSystem.recvd (system : RingSystem) (id : TcpSessionID) :
    BitVec 32 :=
  system.table.rxEngReqs.foldl (RxEngToRxSarReq.moves id)
    (system.entry id).recvd

/-- The registers with which this call handles a segment of the session. -/
def RxEngState.handling (state : RxEngState) (id : TcpSessionID) :
    Option RxEngState :=
  match state.fsmState with
  | .load => none
  | .transition =>
      state.takeAnswers.filter fun loaded =>
        loaded.tcpRxMetaReg.sessionId == id

/-- The first expected sequence number, when this call initialises the entry
of the session. -/
def RxSarTableState.opening (state : RxSarTableState) (id : TcpSessionID) :
    Option (BitVec 32) :=
  match state.txEngLups, state.rxAppReqs, state.rxEngReqs with
  | [], [], req :: _ =>
      if req.write && req.init && req.sessionId == id then
        some req.recvd
      else
        none
  | _, _, _ => none

def RxAppDataMsg.readCmd : RxAppDataMsg → Option MemBufferRWCmd
  | .memReadCmd cmd => some cmd
  | _ => none

/-- The read commands of the session that this call writes. -/
def RxAppDataState.sessionReads
    (state : RxAppDataState) (id : TcpSessionID) : List MemBufferRWCmd :=
  match state.fsmState, state.rxSarRsps with
  | .waitSarRsp, rsp :: _ =>
      if rsp.sessionId = id then
        (rxAppDataHandler state).2.filterMap RxAppDataMsg.readCmd
      else
        []
  | _, _ => []

/-- `stream` is there once the entry of the session was initialised. -/
structure StreamSystem where
  ring : RingSystem
  stream : Option Delivery

namespace StreamSystem

def start (table : TcpSessionID → RxSarTableEntry) : StreamSystem where
  ring := RingSystem.start table
  stream := none

/-- The record after an action. -/
def recorded (system : StreamSystem) (id : TcpSessionID) :
    RingAction → Option Delivery
  | .rxEngTcpFsm =>
      match system.ring.fsm.handling id with
      | some loaded =>
          system.stream.map fun stream =>
            stream.handle
              ⟨loaded.arrival, system.ring.recvd id,
                (rxEngHandle loaded).2⟩
      | none => system.stream
  | .rxSarTable =>
      match system.ring.table.opening id with
      | some first => some (Delivery.start first)
      | none => system.stream
  | .rxAppDataHandler =>
      system.stream.map fun stream =>
        stream.read (system.ring.app.sessionReads id)
  | .recvDataReq req =>
      system.stream.map fun stream => stream.ask id req
  | _ => system.stream

def act (system : StreamSystem) (id : TcpSessionID) (action : RingAction) :
    StreamSystem where
  ring := system.ring.act id action
  stream := system.recorded id action

end StreamSystem

/-- No segment of the session is accepted after its FIN. -/
def UpToFin (id : TcpSessionID) (system : StreamSystem) :
    RingAction → Prop
  | .rxEngTcpFsm =>
      ∀ stream,
        system.stream = some stream →
          stream.finished = true →
            ∀ loaded,
              system.ring.fsm.handling id = some loaded →
                loaded.arrival.accepted = false
  | _ => True

/-- One step of a run in which the application reads what it was told about,
up to and including the acceptance of a FIN. -/
def StreamStep
    (id : TcpSessionID) (system : StreamSystem) (action : RingAction)
    (next : StreamSystem) : Prop :=
  next = system.act id action ∧ ReadsNotified id system.ring action ∧
    UpToFin id system action

/-- The stream from the wire to the application. -/
structure Delivered
    (id : TcpSessionID) (system : RingSystem) (stream : Delivery) :
    Prop where
  recvd :
    system.recvd id =
      stream.first +
        BitVec.ofNat 32 (stream.total + stream.finished.toNat)
  handled : ∀ handled ∈ stream.handled, handled.Sound id
  written :
    ringOffsets stream.writes =
      segment bufferSize stream.first.toNat stream.total
  read :
    ringOffsets stream.reads =
      segment bufferSize stream.first.toNat stream.bytesRead
  inside : stream.bytesRead ≤ stream.total
  asked : stream.reads.map (fun cmd => cmd.length) <+: stream.asked
  rings :
    ∀ cmd ∈ stream.writes ++ stream.reads,
      cmd = sessionCmd .rx id cmd.offset cmd.length

end TcpOffload
