import TcpOffload.AxiWord
import TcpOffload.RxEngine.Exits

/-!
# Decisions on payload

`RxEngTcpPayloadDropper` reads one decision of `RxEngTcpFsm` for each payload
frame of a known session.  The two stay in step when every segment that
carries payload gets exactly one decision.
-/

namespace TcpOffload

open Clocked Framing

/-! ## `RxEngTcpPayloadDropper` -/

inductive RxDropperFsmState where
  | rdVerifyChecksum
  | rdMetaHandler
  | rdFsmDrop
  | fwd
  | drop
deriving DecidableEq, Repr

structure RxDropperState where
  fsmState : RxDropperFsmState
  tcpPayloadRoleId : BitVec 4
  tcpPayloadIn : List NetAXISWord
  droppedByChecksum : List Bool
  droppedByPortOrSession : List Bool
  tcpPayloadTdest : List (BitVec 4)
  droppedByRxFsm : List Bool
deriving DecidableEq, Repr

/-- `RxEngTcpPayloadDropper`. -/
def rxEngTcpPayloadDropper (state : RxDropperState) :
    RxDropperState × List NetAXISWord :=
  match state.fsmState with
  | .rdVerifyChecksum =>
      match state.droppedByChecksum with
      | dropped :: later =>
          ({ state with
              fsmState := if dropped then .drop else .rdMetaHandler
              droppedByChecksum := later },
            [])
      | [] => (state, [])
  | .rdMetaHandler =>
      match state.droppedByPortOrSession, state.tcpPayloadTdest with
      | dropped :: later, roleId :: roleIds =>
          ({ state with
              fsmState := if dropped then .drop else .rdFsmDrop
              tcpPayloadRoleId := roleId
              droppedByPortOrSession := later
              tcpPayloadTdest := roleIds },
            [])
      | _, _ => (state, [])
  | .rdFsmDrop =>
      match state.droppedByRxFsm with
      | dropped :: later =>
          ({ state with
              fsmState := if dropped then .drop else .fwd
              droppedByRxFsm := later },
            [])
      | [] => (state, [])
  | .fwd =>
      match state.tcpPayloadIn with
      | word :: later =>
          ({ state with
              fsmState := if word.last then .rdVerifyChecksum else .fwd
              tcpPayloadIn := later },
            [{ word with dest := state.tcpPayloadRoleId }])
      | [] => (state, [])
  | .drop =>
      match state.tcpPayloadIn with
      | word :: later =>
          ({ state with
              fsmState := if word.last then .rdVerifyChecksum else .drop
              tcpPayloadIn := later },
            [])
      | [] => (state, [])

section Frames

variable (state : RxDropperState) (later : List NetAXISWord)
variable {frame : List NetAXISWord}

theorem dropper_drops (delimited : Delimited NetAXISWord.last frame) :
    Runs rxEngTcpPayloadDropper
      { state with fsmState := .drop, tcpPayloadIn := frame ++ later }
      []
      { state with
        fsmState := .rdVerifyChecksum, tcpPayloadIn := later } := by
  induction delimited with
  | final isLast =>
      refine Runs.silent ?_ (Runs.refl _)
      simp only [rxEngTcpPayloadDropper, List.cons_append, List.nil_append,
        isLast, if_true]
  | more notLast _ inductionHypothesis =>
      refine Runs.silent ?_ inductionHypothesis
      simp only [rxEngTcpPayloadDropper, List.cons_append, notLast,
        Bool.false_eq_true, if_false]

theorem dropper_forwards (delimited : Delimited NetAXISWord.last frame) :
    Runs rxEngTcpPayloadDropper
      { state with fsmState := .fwd, tcpPayloadIn := frame ++ later }
      (frame.map fun word =>
        { word with dest := state.tcpPayloadRoleId })
      { state with
        fsmState := .rdVerifyChecksum, tcpPayloadIn := later } := by
  induction delimited with
  | @final word isLast =>
      have call :
          rxEngTcpPayloadDropper
              { state with
                fsmState := .fwd, tcpPayloadIn := [word] ++ later } =
            ({ state with
                fsmState := .rdVerifyChecksum, tcpPayloadIn := later },
              [{ word with dest := state.tcpPayloadRoleId }]) := by
        simp only [rxEngTcpPayloadDropper, List.cons_append,
          List.nil_append, isLast, if_true]
      exact Runs.head call (Runs.refl _)
  | @more word rest notLast _ inductionHypothesis =>
      have call :
          rxEngTcpPayloadDropper
              { state with
                fsmState := .fwd
                tcpPayloadIn := word :: rest ++ later } =
            ({ state with
                fsmState := .fwd, tcpPayloadIn := rest ++ later },
              [{ word with dest := state.tcpPayloadRoleId }]) := by
        simp only [rxEngTcpPayloadDropper, List.cons_append, notLast,
          Bool.false_eq_true, if_false]
      exact Runs.head call inductionHypothesis

end Frames

/-! ## One decision for each segment with payload -/

def TcpHeaderMeta.hasPayload (header : TcpHeaderMeta) : Bool :=
  header.payloadLength != 0

/-- Exactly one decision if the segment carries payload, and none if not. -/
def DecidesOnce (arrival : RxArrival) (msgs : List RxEngMsg) : Prop :=
  (rxWrites msgs).decisions.length =
    arrival.segment.header.hasPayload.toNat

namespace RxArrival

/-- The segment's payload goes into the receive ring. -/
def takesPayload (arrival : RxArrival) : Bool :=
  let header := arrival.segment.header
  (header.ctrlBits == 1 && arrival.sessionState.takesAck &&
      arrival.txSar.acceptsAck header.ackNumber &&
      arrival.rxSar.acceptsPayload header) ||
    (header.ctrlBits == 5 && arrival.sessionState.takesFin &&
      arrival.rxSar.recvd == header.seqNumber)

/-- The flags and tables for which the machine decides on payload: FIN+ACK,
and an ACK that is not one outside the send window. -/
def Decides (arrival : RxArrival) : Prop :=
  arrival.segment.header.hasPayload = true →
    arrival.segment.header.ctrlBits = 5 ∨
      arrival.segment.header.ctrlBits = 1 ∧
        (arrival.sessionState.takesAck = true →
          arrival.txSar.acceptsAck arrival.segment.header.ackNumber =
            true)

instance (arrival : RxArrival) : Decidable arrival.Decides :=
  inferInstanceAs (Decidable (_ → _))

end RxArrival

section HasPayload

variable {header : TcpHeaderMeta}

theorem TcpHeaderMeta.hasPayload_of_zero
    (none : header.payloadLength = 0) :
    header.hasPayload = false := by
  rw [hasPayload, none]
  rfl

theorem TcpHeaderMeta.hasPayload_of_ne_zero
    (some : header.payloadLength ≠ 0) :
    header.hasPayload = true :=
  bne_iff_ne.2 some

theorem TcpHeaderMeta.decision_if_hasPayload (value : Bool) :
    (if header.payloadLength ≠ 0 then [value] else []) =
      if header.hasPayload then [value] else [] := by
  by_cases none : header.payloadLength = 0
  · rw [if_neg (not_not_intro none), hasPayload_of_zero none]
    rfl
  · rw [if_pos none, hasPayload_of_ne_zero none]
    rfl

end HasPayload

/-- The decisions of one segment. -/
theorem decisions_rxEngHandle
    (regs : RxEngState) (arrival : RxArrival) :
    (arrival.Decides →
      (rxWrites (rxEngHandle (regs.answered arrival)).2).decisions =
        if arrival.segment.header.hasPayload then
          [!arrival.takesPayload]
        else
          []) ∧
    (¬ arrival.Decides →
      (rxWrites (rxEngHandle (regs.answered arrival)).2).decisions =
        []) := by
  have exit := rxEngHandle_exit (regs.answered arrival)
  generalize
    rxWrites (rxEngHandle (regs.answered arrival)).2 = writes at exit ⊢
  have sameAck (isAck : arrival.segment.header.ctrlBits = 1) :=
    regs.answered_txSarReg (Or.inl isAck)
  have undecided
      (notAck : arrival.segment.header.ctrlBits ≠ 1)
      (notFin : arrival.segment.header.ctrlBits ≠ 5) :
      (arrival.Decides →
        ([] : List Bool) =
          if arrival.segment.header.hasPayload then
            [!arrival.takesPayload]
          else
            []) ∧
      (¬ arrival.Decides → ([] : List Bool) = []) := by
    refine ⟨fun decides => ?_, fun _ => rfl⟩
    have noPayload : arrival.segment.header.hasPayload ≠ true := by
      intro hasPayload
      rcases decides hasPayload with isFin | ⟨isAck, _⟩
      · exact notFin isFin
      · exact notAck isAck
    rw [if_neg noPayload]
  cases exit with
  | ackOutside isAck takes outside =>
      change arrival.segment.header.ctrlBits = 1 at isAck
      change arrival.sessionState.takesAck = true at takes
      rw [sameAck isAck] at outside
      change
        arrival.txSar.acceptsAck arrival.segment.header.ackNumber =
          false at outside
      refine ⟨fun decides => ?_, fun _ => rfl⟩
      have noPayload : arrival.segment.header.hasPayload ≠ true := by
        intro hasPayload
        rcases decides hasPayload with isFin | ⟨_, inside⟩
        · rw [isAck] at isFin
          exact absurd isFin (by decide)
        · rw [inside takes] at outside
          cases outside
      rw [if_neg noPayload]
  | ackInside isAck takes inside _ none =>
      change arrival.segment.header.payloadLength = 0 at none
      rw [TcpHeaderMeta.hasPayload_of_zero none]
      exact ⟨fun _ => rfl, fun _ => rfl⟩
  | ackDropped isAck takes inside _ some rejects =>
      change arrival.segment.header.ctrlBits = 1 at isAck
      rw [sameAck isAck] at inside
      change arrival.segment.header.payloadLength ≠ 0 at some
      change
        arrival.rxSar.acceptsPayload arrival.segment.header = false
          at rejects
      have refused : arrival.takesPayload = false := by
        simp only [RxArrival.takesPayload, isAck, rejects, Bool.and_false,
          Bool.false_or]
        rfl
      refine ⟨fun _ => ?_, fun undecided => ?_⟩
      · rw [TcpHeaderMeta.hasPayload_of_ne_zero some, refused]
        rfl
      · exact absurd (fun _ => Or.inr ⟨isAck, fun _ => inside⟩) undecided
  | ackTaken isAck takes inside _ some accepts =>
      change arrival.segment.header.ctrlBits = 1 at isAck
      rw [sameAck isAck] at inside
      change
        arrival.txSar.acceptsAck arrival.segment.header.ackNumber =
          true at inside
      change arrival.sessionState.takesAck = true at takes
      change arrival.segment.header.payloadLength ≠ 0 at some
      change
        arrival.rxSar.acceptsPayload arrival.segment.header = true
          at accepts
      have taken : arrival.takesPayload = true := by
        simp only [RxArrival.takesPayload, isAck, takes, inside, accepts]
        rfl
      refine ⟨fun _ => ?_, fun undecided => ?_⟩
      · rw [TcpHeaderMeta.hasPayload_of_ne_zero some, taken]
        rfl
      · exact absurd (fun _ => Or.inr ⟨isAck, fun _ => inside⟩) undecided
  | ackRefused isAck refuses =>
      change arrival.segment.header.ctrlBits = 1 at isAck
      change arrival.sessionState.takesAck = false at refuses
      have refused : arrival.takesPayload = false := by
        simp only [RxArrival.takesPayload, isAck, refuses, Bool.and_false,
          Bool.false_and, Bool.false_or]
        rfl
      refine ⟨fun _ => ?_, fun undecided => ?_⟩
      · rw [refused]
        exact TcpHeaderMeta.decision_if_hasPayload _
      · refine absurd (fun _ => Or.inr ⟨isAck, fun takes => ?_⟩) undecided
        rw [refuses] at takes
        cases takes
  | synTaken isSyn _ _ _ =>
      change arrival.segment.header.ctrlBits = 2 at isSyn
      exact undecided (by rw [isSyn]; decide) (by rw [isSyn]; decide)
  | synAckTaken isSynAck _ _ _ =>
      change arrival.segment.header.ctrlBits = 3 at isSynAck
      exact
        undecided (by rw [isSynAck]; decide) (by rw [isSynAck]; decide)
  | finTaken isFin takes _ =>
      change arrival.segment.header.ctrlBits = 5 at isFin
      change
        (arrival.sessionState.takesFin &&
            arrival.rxSar.recvd == arrival.segment.header.seqNumber) =
          true at takes
      have taken : arrival.takesPayload = true := by
        simp only [RxArrival.takesPayload, isFin, takes, beq_self_eq_true,
          Bool.true_and, Bool.or_true]
      refine ⟨fun _ => ?_, fun undecided => ?_⟩
      · rw [taken]
        exact TcpHeaderMeta.decision_if_hasPayload _
      · exact absurd (fun _ => Or.inl isFin) undecided
  | finRefused isFin refuses =>
      change arrival.segment.header.ctrlBits = 5 at isFin
      change
        (arrival.sessionState.takesFin &&
            arrival.rxSar.recvd == arrival.segment.header.seqNumber) =
          false at refuses
      have refused : arrival.takesPayload = false := by
        simp only [RxArrival.takesPayload, isFin, refuses,
          beq_self_eq_true, Bool.true_and, Bool.or_false]
        rfl
      refine ⟨fun _ => ?_, fun undecided => ?_⟩
      · rw [refused]
        exact TcpHeaderMeta.decision_if_hasPayload _
      · exact absurd (fun _ => Or.inl isFin) undecided
  | releases notAck notFin _ =>
      exact undecided notAck notFin

/-- A segment gets exactly one decision on its payload, unless it is one of
the kinds without a decision. -/
theorem decidesOnce_iff_decides (regs : RxEngState) (arrival : RxArrival) :
    (∃ msgs final,
        HandlesSegment regs arrival msgs final ∧
        DecidesOnce arrival msgs) ↔
      arrival.Decides := by
  have handles := handlesSegment regs arrival
  have noLookup :
      (rxWrites
          (rxLookups arrival.segment ++
            (rxEngHandle (regs.answered arrival)).2)).decisions =
        (rxWrites (rxEngHandle (regs.answered arrival)).2).decisions := by
    rw [rxWrites_append, rxWrites_rxLookups]
    rfl
  obtain ⟨decided, undecided⟩ := decisions_rxEngHandle regs arrival
  constructor
  · rintro ⟨msgs, final, otherHandles, once⟩
    by_contra notDecides
    rw [(otherHandles.unique handles).1, DecidesOnce, noLookup,
      undecided notDecides] at once
    refine notDecides fun hasPayload => ?_
    rw [hasPayload] at once
    cases once
  · intro decides
    refine ⟨_, _, handles, ?_⟩
    rw [DecidesOnce, noLookup, decided decides]
    cases arrival.segment.header.hasPayload <;> rfl

/-! ## Runs over many segments -/

/-- The machine handles the segments one after another. -/
inductive HandlesSegments :
    RxEngState → List RxArrival → List RxEngMsg → Prop
  | nil (regs : RxEngState) : HandlesSegments regs [] []
  | cons {regs next : RxEngState} {arrival : RxArrival}
      {later : List RxArrival} {msgs rest : List RxEngMsg} :
      HandlesSegment regs arrival msgs next →
      HandlesSegments next later rest →
      HandlesSegments regs (arrival :: later) (msgs ++ rest)

/-- The `n`-th decision of a run is the one for the `n`-th segment with
payload. -/
theorem HandlesSegments.decisions
    {regs : RxEngState} {arrivals : List RxArrival}
    {msgs : List RxEngMsg} (handles : HandlesSegments regs arrivals msgs)
    (decide : ∀ arrival ∈ arrivals, arrival.Decides) :
    (rxWrites msgs).decisions =
      (arrivals.filter fun arrival =>
          arrival.segment.header.hasPayload).map
        fun arrival => !arrival.takesPayload := by
  induction handles with
  | nil =>
      rfl
  | @cons regs next arrival later msgs rest first _ inductionHypothesis =>
      have here :
          (rxWrites msgs).decisions =
            if arrival.segment.header.hasPayload then
              [!arrival.takesPayload]
            else
              [] := by
        rw [(first.unique (handlesSegment regs arrival)).1,
          rxWrites_append, rxWrites_rxLookups]
        exact
          (decisions_rxEngHandle regs arrival).1
            (decide arrival List.mem_cons_self)
      have behind :=
        inductionHypothesis fun other member =>
          decide other (List.mem_cons_of_mem arrival member)
      rw [rxWrites_append]
      change (rxWrites msgs).decisions ++ (rxWrites rest).decisions = _
      rw [here, behind, List.filter_cons]
      cases arrival.segment.header.hasPayload <;> rfl

/-! ## Packets through the dropper -/

/-- A packet behind the checksum and session checks: their results, the role
of its port, and the payload words, which are one frame when there is
payload.  `arrival` matters only when the packet reaches the machine. -/
structure RxPacket where
  checksumIsValid : Bool
  hit : Bool
  roleId : BitVec 4
  arrival : RxArrival
  payload : List NetAXISWord
  framed :
    arrival.segment.header.hasPayload = true →
      Delimited NetAXISWord.last payload
  empty : arrival.segment.header.hasPayload = false → payload = []

namespace RxPacket

def hasPayload (packet : RxPacket) : Bool :=
  packet.arrival.segment.header.hasPayload

/-- The packet's metadata is handed to `RxEngTcpFsm`. -/
def reachesFsm (packet : RxPacket) : Bool :=
  packet.checksumIsValid && packet.hit

/-- What the dropper is to let through of the packet. -/
def forwarded (packet : RxPacket) : List NetAXISWord :=
  if packet.reachesFsm && packet.arrival.takesPayload then
    packet.payload.map fun word => { word with dest := packet.roleId }
  else
    []

end RxPacket

/-- The segments that reach the machine. -/
def fsmArrivals (packets : List RxPacket) : List RxArrival :=
  (packets.filter RxPacket.reachesFsm).map RxPacket.arrival

/-- The dropper with the streams of the packets and the machine's
decisions. -/
def dropperInput
    (roleId : BitVec 4) (packets : List RxPacket)
    (decisions : List Bool) : RxDropperState where
  fsmState := .rdVerifyChecksum
  tcpPayloadRoleId := roleId
  tcpPayloadIn := packets.flatMap RxPacket.payload
  droppedByChecksum :=
    (packets.filter RxPacket.hasPayload).map fun packet =>
      !packet.checksumIsValid
  droppedByPortOrSession :=
    (packets.filter fun packet =>
        packet.hasPayload && packet.checksumIsValid).map
      fun packet => !packet.hit
  tcpPayloadTdest :=
    (packets.filter fun packet =>
        packet.hasPayload && packet.checksumIsValid).map
      RxPacket.roleId
  droppedByRxFsm := decisions

/-- The decisions that belong to the payload frames of known sessions. -/
def frameDecisions (packets : List RxPacket) : List Bool :=
  ((fsmArrivals packets).filter fun arrival =>
      arrival.segment.header.hasPayload).map
    fun arrival => !arrival.takesPayload

section Packet

variable (roleId : BitVec 4) {packet : RxPacket} (later : List RxPacket)

/-- A packet without payload has no entry in any stream. -/
theorem dropperInput_empty (noPayload : packet.hasPayload = false) :
    dropperInput roleId (packet :: later)
        (frameDecisions (packet :: later)) =
      dropperInput roleId later (frameDecisions later) := by
  have noWords : packet.payload = [] :=
    packet.empty noPayload
  have arrivalPayload :
      packet.arrival.segment.header.hasPayload = false :=
    noPayload
  have noDecision :
      frameDecisions (packet :: later) = frameDecisions later := by
    simp only [frameDecisions, fsmArrivals, List.filter_cons]
    cases packet.reachesFsm with
    | true =>
        simp only [if_true, List.map_cons, List.filter_cons,
          arrivalPayload, Bool.false_eq_true, if_false]
    | false =>
        rfl
  simp only [dropperInput, noDecision, noWords, noPayload,
    List.flatMap_cons, List.nil_append, List.filter_cons, Bool.false_and,
    Bool.false_eq_true, if_false]

/-- The streams of a packet with payload: a checksum result always, a session
result behind a valid checksum, a decision behind a hit. -/
theorem dropperInput_payload (hasPayload : packet.hasPayload = true) :
    dropperInput roleId (packet :: later)
        (frameDecisions (packet :: later)) =
      { dropperInput roleId later (frameDecisions later) with
        tcpPayloadIn :=
          packet.payload ++ later.flatMap RxPacket.payload
        droppedByChecksum :=
          (!packet.checksumIsValid) ::
            (dropperInput roleId later []).droppedByChecksum
        droppedByPortOrSession :=
          (if packet.checksumIsValid then [!packet.hit] else []) ++
            (dropperInput roleId later []).droppedByPortOrSession
        tcpPayloadTdest :=
          (if packet.checksumIsValid then [packet.roleId] else []) ++
            (dropperInput roleId later []).tcpPayloadTdest
        droppedByRxFsm :=
          (if packet.reachesFsm then
            [!packet.arrival.takesPayload]
          else
            []) ++ frameDecisions later } := by
  have decision :
      frameDecisions (packet :: later) =
        (if packet.reachesFsm then
          [!packet.arrival.takesPayload]
        else
          []) ++ frameDecisions later := by
    have arrivalPayload :
        packet.arrival.segment.header.hasPayload = true :=
      hasPayload
    simp only [frameDecisions, fsmArrivals, List.filter_cons]
    cases packet.reachesFsm with
    | true =>
        simp only [if_true, List.map_cons, List.filter_cons,
          arrivalPayload]
        rfl
    | false =>
        rfl
  simp only [dropperInput, decision, hasPayload, List.flatMap_cons,
    List.filter_cons, Bool.true_and, if_true, List.map_cons]
  cases packet.checksumIsValid <;> rfl

/-- The dropper lets a packet through or drops it, and is ready for the
next. -/
theorem dropper_packet :
    ∃ next,
      Runs rxEngTcpPayloadDropper
        (dropperInput roleId (packet :: later)
          (frameDecisions (packet :: later)))
        packet.forwarded
        (dropperInput next later (frameDecisions later)) := by
  cases hasPayload : packet.hasPayload with
  | false =>
      have nothing : packet.forwarded = [] := by
        rw [RxPacket.forwarded, packet.empty hasPayload]
        exact ite_self []
      rw [dropperInput_empty roleId later hasPayload, nothing]
      exact ⟨roleId, Runs.refl _⟩
  | true =>
      have framed := packet.framed hasPayload
      rw [dropperInput_payload roleId later hasPayload,
        RxPacket.forwarded, RxPacket.reachesFsm]
      cases packet.checksumIsValid with
      | false =>
          refine ⟨roleId, Runs.silent rfl ?_⟩
          exact
            dropper_drops
              (dropperInput roleId later (frameDecisions later))
              (later.flatMap RxPacket.payload) framed
      | true =>
          refine ⟨packet.roleId, Runs.silent rfl ?_⟩
          cases packet.hit with
          | false =>
              refine Runs.silent rfl ?_
              exact
                dropper_drops
                  (dropperInput packet.roleId later
                    (frameDecisions later))
                  (later.flatMap RxPacket.payload) framed
          | true =>
              refine Runs.silent rfl ?_
              cases packet.arrival.takesPayload with
              | false =>
                  refine Runs.silent rfl ?_
                  exact
                    dropper_drops
                      (dropperInput packet.roleId later
                        (frameDecisions later))
                      (later.flatMap RxPacket.payload) framed
              | true =>
                  refine Runs.silent rfl ?_
                  exact
                    dropper_forwards
                      (dropperInput packet.roleId later
                        (frameDecisions later))
                      (later.flatMap RxPacket.payload) framed

end Packet

/-- With the decisions in step the dropper lets through exactly the frames
whose own segments were accepted. -/
theorem dropper_yields (roleId : BitVec 4) (packets : List RxPacket) :
    ∃ final,
      Yields rxEngTcpPayloadDropper
        (dropperInput roleId packets (frameDecisions packets))
        (packets.flatMap RxPacket.forwarded)
        (dropperInput final [] []) := by
  induction packets generalizing roleId with
  | nil =>
      exact ⟨roleId, Runs.refl _, rfl⟩
  | cons packet later inductionHypothesis =>
      obtain ⟨next, first⟩ := @dropper_packet roleId packet later
      obtain ⟨final, rest⟩ := inductionHypothesis next
      exact ⟨final, Yields.prepend first rest⟩

/-- Each segment has its decision, or none without payload, exactly when it
is not one of the kinds without a decision.  When all segments of a run have
theirs, the dropper lets through exactly the frames whose own segments were
accepted, and every stream is read to its end. -/
theorem decisions_in_step
    {regs : RxEngState} {packets : List RxPacket} {msgs : List RxEngMsg}
    (roleId : BitVec 4)
    (handles : HandlesSegments regs (fsmArrivals packets) msgs) :
    (∀ (start : RxEngState) (arrival : RxArrival),
      (∃ written final,
          HandlesSegment start arrival written final ∧
          DecidesOnce arrival written) ↔
        arrival.Decides) ∧
    ((∀ arrival ∈ fsmArrivals packets, arrival.Decides) →
      ∃ final,
        Yields rxEngTcpPayloadDropper
          (dropperInput roleId packets (rxWrites msgs).decisions)
          (packets.flatMap RxPacket.forwarded)
          (dropperInput final [] [])) := by
  refine ⟨decidesOnce_iff_decides, ?_⟩
  intro decide
  have inStep : (rxWrites msgs).decisions = frameDecisions packets :=
    handles.decisions decide
  rw [inStep]
  exact dropper_yields roleId packets

/-- An in-order segment with 100 bytes of payload and the given
acknowledgement number, in a session with the bytes from 1000 to 2000 in
flight. -/
def dataAck (ackNumber : BitVec 32) : RxArrival where
  segment :=
    ⟨0, 0, 0,
      ⟨7000, ackNumber, 0xFFFF, true, false, false, false, 0, 100⟩⟩
  sessionState := .established
  rxSar := ⟨7000, 7000, 2⟩
  txSar := ⟨1000, 2000, 14600, 0x3FFFF, 0, false, 2⟩

def dataPacket : RxPacket where
  checksumIsValid := true
  hit := true
  roleId := 3
  arrival := dataAck 1500
  payload := [⟨0, 0, 0, false⟩, ⟨0, 0, 0, true⟩]
  framed := fun _ => Delimited.more rfl (Delimited.final rfl)
  empty := fun noPayload => absurd noPayload (by decide)

theorem decisions_in_step_of_dataAck :
    ∃ final,
      Yields rxEngTcpPayloadDropper
        (dropperInput 0 [dataPacket] [false])
        [⟨0, 3, 0, false⟩, ⟨0, 3, 0, true⟩]
        (dropperInput final [] []) :=
  (@decisions_in_step RxEngState.start [dataPacket] _ 0
    (HandlesSegments.cons
      (handlesSegment RxEngState.start dataPacket.arrival)
      (HandlesSegments.nil _))).2
    (by
      intro arrival member
      rw [List.mem_singleton.1 member]
      decide)

/-- A duplicate with an old acknowledgement number leaves its payload without
a decision. -/
theorem not_decidesOnce_oldAck :
    ¬ ∃ msgs final,
      HandlesSegment RxEngState.start (dataAck 500) msgs final ∧
      DecidesOnce (dataAck 500) msgs := by
  intro decided
  have decides :=
    (decidesOnce_iff_decides RxEngState.start (dataAck 500)).1 decided
  exact absurd decides (by decide)

end TcpOffload
