import TcpOffload.Handshake.PeerWindow
import TcpOffload.RxEngine.AdvertisedWindow
import TcpOffload.TxEngine.SegmentHeader

/-!
# The window we advertise

Our SYN always carries the window scale option, our SYN_ACK only if the peer
announced a shift other than zero, and the window is stored with a shift in
that case only.  The two state machines and the entry of the session in
`rx_sar_table` are followed from event to event, next to the factor a peer
applies to our window.
-/

namespace TcpOffload

open Clocked Guarded

/-- `TxEngPseudoFullHeaderConstruct` inserts the window scale option. -/
def TxEngFsmMetaData.carriesWinScale (segment : TxEngFsmMetaData) : Bool :=
  segment.syn && segment.winScale != 0

/-- `ours` tells whether our side has carried the option, `theirs` what the
peer's side announced once it is in, and `sent` lists the segments of the
last step. -/
structure OfferSystem where
  rxEng : RxEngState
  entry : RxSarTableEntry
  txEng : TxEngState
  ours : Bool
  theirs : Option (Option (BitVec 8))
  sent : List TxEngFsmMetaData
deriving DecidableEq

inductive OfferAction where
  | segment (segment : PeerSegment)
  | otherSegment (arrival : RxArrival)
  | event (event : EventWithTuple)
  | otherEvent (event : EventWithTuple)
  | rxAppWrite (req : RxSarAppReqRsp)

/-- A first SYN starts an active open. -/
def Event.opensActively (event : Event) : Bool :=
  event.type == .syn && event.retransCnt == 0

namespace OfferSystem

variable (system : OfferSystem)

/-- A SYN to a closed session starts a passive open. -/
def oursAfterSegment (segment : PeerSegment) : Bool :=
  system.ours &&
    !(segment.arrival.opensBySyn &&
      segment.arrival.sessionState == .closed)

def theirsAfterSegment (segment : PeerSegment) :
    Option (Option (BitVec 8)) :=
  if segment.shakesHands then
    some segment.announced
  else
    system.theirs

def theirsAfterEvent (event : Event) : Option (Option (BitVec 8)) :=
  if event.opensActively then none else system.theirs

/-- The factor that a peer applies to our window. -/
def factor : Nat :=
  match system.theirs with
  | some (some _) => if system.ours then 2 ^ windowScaleBits else 1
  | _ => 1

/-- From the handshake on, the windows sent are within the free space. -/
def WithinFree : Prop :=
  system.theirs ≠ none →
    ∀ segment ∈ system.sent,
      segment.winSize.toNat * system.factor ≤
        system.entry.freeSpace.toNat

end OfferSystem

/-- Segments and events of the session and of others, and the application
that reads the ring of the session. -/
inductive OfferStep (id : TcpSessionID) (system : OfferSystem) :
    OfferAction → OfferSystem → Prop
  | segment {segment : PeerSegment} {msgs : List RxEngMsg}
      {final : RxEngState} :
      segment.arrival.segment.sessionId = id →
      segment.Received →
      segment.arrival.rxSar = system.entry →
      HandlesSegment system.rxEng segment.arrival msgs final →
      OfferStep id system (.segment segment)
        { system with
          rxEng := final
          entry :=
            (rxWrites msgs).rxSarWrites.foldl RxSarTableEntry.rxEngWrite
              system.entry
          ours := system.oursAfterSegment segment
          theirs := system.theirsAfterSegment segment
          sent := [] }
  | otherSegment {arrival : RxArrival} {msgs : List RxEngMsg}
      {final : RxEngState} :
      arrival.segment.sessionId ≠ id →
      HandlesSegment system.rxEng arrival msgs final →
      OfferStep id system (.otherSegment arrival)
        { system with rxEng := final, sent := [] }
  | event {event : EventWithTuple} {txRsp : TxSarToTxEngRsp}
      {msgs : List TxEngMsg} {final : TxEngState} :
      event.sessionId = id →
      event.type ≠ .rtCont →
      HandlesEvent system.txEng event system.entry.txEngRead txRsp msgs
        final →
      OfferStep id system (.event event)
        { system with
          txEng := final
          ours :=
            system.ours ||
              (segments msgs).any TxEngFsmMetaData.carriesWinScale
          theirs := system.theirsAfterEvent event.toEvent
          sent := segments msgs }
  | otherEvent {event : EventWithTuple} {rxRsp : RxSarLookupRsp}
      {txRsp : TxSarToTxEngRsp} {msgs : List TxEngMsg}
      {final : TxEngState} :
      event.sessionId ≠ id →
      HandlesEvent system.txEng event rxRsp txRsp msgs final →
      OfferStep id system (.otherEvent event)
        { system with txEng := final, sent := [] }
  | rxAppWrite (req : RxSarAppReqRsp) :
      OfferStep id system (.rxAppWrite req)
        { system with entry := system.entry.rxAppWrite req, sent := [] }

/-- The peer announced a shift of zero and our side carried the option. -/
def OfferSystem.Overscales (system : OfferSystem) : Prop :=
  system.theirs = some (some 0) ∧ system.ours = true

/-- Whether the segments of an event carry the option. -/
def EventType.offers
    (type : EventType) (winShift : TcpSessionBufferScale) : Bool :=
  match type with
  | .syn => true
  | .synAck => winShift != 0
  | _ => false

/-- The session once the segments of an event are out. -/
def OfferSystem.offering
    (system : OfferSystem) (type : EventType) : OfferSystem :=
  { system with ours := system.ours || type.offers system.entry.winShift }

/-- What is left of the free space in the window field of an unscaled session
fits four times.  A SYN or a SYN_ACK that is sent after the handshake finds
room for its fixed window. -/
def FieldFits (system : OfferSystem) (type : EventType) : Prop :=
  match type with
  | .syn | .synAck =>
      0xFFFF * (system.offering type).factor ≤
        system.entry.freeSpace.toNat
  | .rst => True
  | _ =>
      system.Overscales →
        3 * (system.entry.freeSpace.toNat % 2 ^ 16) ≤
          system.entry.freeSpace.toNat / 2 ^ 16 * 2 ^ 16

/-- The events of a connection find room for the window they send. -/
def FitsRing (system : OfferSystem) : OfferAction → Prop
  | .event event =>
      system.theirsAfterEvent event.toEvent ≠ none →
        FieldFits system event.type
  | _ => True

/-- Every state that the action leads to is within the free space. -/
def StaysWithinFree
    (id : TcpSessionID) (system : OfferSystem) (action : OfferAction) :
    Prop :=
  ∀ next, OfferStep id system action next → next.WithinFree

/-! ## The stored shift -/

/-- The shift we use with a peer that announced this one. -/
def shiftFor : Option (BitVec 8) → TcpSessionBufferScale
  | none => 0
  | some shift => if shift = 0 then 0 else 2

theorem PeerSegment.Received.rxWinScale
    {segment : PeerSegment} (received : segment.Received) :
    segment.header.rxWinScale.setWidth 2 = shiftFor segment.announced := by
  have winScale := received.winScale
  have two : windowScaleBits = 2 := rfl
  have noScale :
      segment.header.winScale = 0 ↔ segment.shift = 0 := by
    rw [← BitVec.toNat_inj, winScale]
    change min segment.shift windowScaleBits = 0 ↔ _
    omega
  rw [PeerSegment.shift] at noScale
  rw [TcpHeaderMeta.rxWinScale]
  cases announced : segment.announced with
  | none =>
      rw [announced] at noScale
      rw [if_pos (noScale.2 rfl)]
      rfl
  | some shift =>
      rw [announced] at noScale
      have isZero : shift.toNat = 0 ↔ shift = 0 := by
        rw [← BitVec.toNat_inj]
        rfl
      change segment.header.winScale = 0 ↔ shift.toNat = 0 at noScale
      rw [shiftFor]
      by_cases none : shift = 0
      · rw [if_pos (noScale.2 (isZero.2 none)), if_pos none]
        rfl
      · rw [if_neg fun zero => none (isZero.1 (noScale.1 zero)),
          if_neg none]
        rfl

namespace OfferSystem

/-- The entry is shifted as the peer's announcement asks for. -/
def ShiftAgrees (system : OfferSystem) : Prop :=
  ∀ shift, system.theirs = some shift →
    system.entry.winShift = shiftFor shift

end OfferSystem

/-- A handshake stores the shift, every other segment keeps it. -/
theorem SarWrites.winShift
    {segment : PeerSegment} {rxReqs : List RxEngToRxSarReq}
    {reqs : List RxEngToTxSarReq}
    (writes : SarWrites segment.arrival rxReqs reqs)
    (received : segment.Received) (entry : RxSarTableEntry) :
    (rxReqs.foldl RxSarTableEntry.rxEngWrite entry).winShift =
      if segment.shakesHands then
        shiftFor segment.announced
      else
        entry.winShift := by
  have rxWinScale := received.rxWinScale
  rw [PeerSegment.shakesHands]
  cases writes with
  | ignores notOpen notConnect notAck notFin =>
      rw [notOpen, notConnect]
      rfl
  | opens congWindow opens =>
      rw [opens, Bool.true_or, if_pos rfl, ← rxWinScale]
      rfl
  | connects congWindow connects =>
      rw [connects, Bool.or_true, if_pos rfl, ← rxWinScale]
      rfl
  | takesAck takes _ update =>
      have notHands :=
        PeerSegment.shakesHands_of_movesWindow
          (by rw [PeerSegment.movesWindow, takes, Bool.true_or])
      rw [PeerSegment.shakesHands] at notHands
      rw [notHands]
      rfl
  | takesPayload takes update =>
      have notHands :=
        PeerSegment.shakesHands_of_movesWindow
          (by
            rw [PeerSegment.movesWindow, (Bool.and_eq_true_iff.1 takes).1,
              Bool.true_or])
      rw [PeerSegment.shakesHands] at notHands
      rw [notHands]
      rfl
  | takesFin takes update =>
      have notHands :=
        PeerSegment.shakesHands_of_movesWindow
          (by rw [PeerSegment.movesWindow, takes, Bool.or_true])
      rw [PeerSegment.shakesHands] at notHands
      rw [notHands]
      rfl

theorem OfferStep.shiftAgrees
    {id : TcpSessionID} {system next : OfferSystem} {action : OfferAction}
    (stepped : OfferStep id system action next)
    (agrees : system.ShiftAgrees) : next.ShiftAgrees := by
  cases stepped with
  | @segment segment msgs final isOwn received rxSar handles =>
      intro shift isShift
      have winShift := handles.sarWrites.winShift received system.entry
      change system.theirsAfterSegment segment = some shift at isShift
      rw [OfferSystem.theirsAfterSegment] at isShift
      refine winShift.trans ?_
      by_cases hands : segment.shakesHands = true
      · rw [if_pos hands, Option.some.injEq] at isShift
        rw [if_pos hands, isShift]
      · rw [if_neg hands] at isShift
        rw [if_neg hands]
        exact agrees shift isShift
  | otherSegment isOther handles =>
      exact agrees
  | @event event _ _ _ isOwn queued handles =>
      intro shift isShift
      change system.theirsAfterEvent event.toEvent = some shift at isShift
      rw [OfferSystem.theirsAfterEvent] at isShift
      split at isShift
      · cases isShift
      · exact agrees shift isShift
  | otherEvent isOther handles =>
      exact agrees
  | rxAppWrite req =>
      exact agrees

/-! ## The windows of one event -/

/-- An answer of `tx_sar_table` with one byte to send, one to retransmit and
none between the last one sent and a FIN. -/
def oneByteLeft (repeated : Bool) : TxSarToTxEngRsp :=
  { TxSarToTxEngRsp.empty with
    notAckd := if repeated then 1 else 0
    currLength := 1
    usedLengthRst := 1
    usableWindow := 1 }

/-- With that answer every event sends a segment. -/
theorem handlesEvent_sends
    (regs : TxEngState) {event : EventWithTuple} (rxRsp : RxSarLookupRsp)
    (queued : event.type ≠ .rtCont) :
    ∃ txRsp msgs final,
      HandlesEvent regs event rxRsp txRsp msgs final ∧
        segments msgs ≠ [] := by
  have enough :
      ∀ txRsp,
        (txEngTcpFsm (regs.loaded event rxRsp txRsp)).1.AtRest →
          segments (txEngTcpFsm (regs.loaded event rxRsp txRsp)).2 ≠ [] →
            ∃ txRsp msgs final,
              HandlesEvent regs event rxRsp txRsp msgs final ∧
                segments msgs ≠ [] := by
    intro txRsp rest sends
    generalize
      called : txEngTcpFsm (regs.loaded event rxRsp txRsp) = outcome
        at rest sends
    obtain ⟨lookups, idle, handles, _⟩ :=
      handlesEvent_of_loaded (Runs.head called (Runs.refl _)) rest
    refine ⟨txRsp, _, idle, handles, ?_⟩
    rw [segments_append, segments_append]
    simp [sends]
  obtain ⟨⟨type, sessionId, length, size, retransCnt⟩, tuple⟩ := event
  by_cases first : retransCnt = 0
  · rw [first] at enough ⊢
    cases type with
    | rtCont =>
        exact absurd rfl queued
    | tx | rt | ack | ackNodelay | syn | synAck | fin | rst =>
        exact
          enough (oneByteLeft false) ⟨rfl, rfl⟩ (List.cons_ne_nil _ _)
  · have repeated : ¬ retransCnt = BitVec.ofNat 3 0 := first
    cases type with
    | rtCont =>
        exact absurd rfl queued
    | tx | ack | ackNodelay =>
        exact
          enough (oneByteLeft false) ⟨rfl, rfl⟩ (List.cons_ne_nil _ _)
    | rt =>
        refine enough (oneByteLeft false) ⟨rfl, rfl⟩ ?_
        change segments (retransThresholdMsgs _ _ ++ _ :: _) ≠ []
        rw [segments_append]
        exact List.append_ne_nil_of_right_ne_nil _ (List.cons_ne_nil _ _)
    | synAck =>
        refine enough (oneByteLeft true) ⟨rfl, rfl⟩ ?_
        change segments (_ ++ _ :: _) ≠ []
        rw [segments_append]
        exact List.append_ne_nil_of_right_ne_nil _ (List.cons_ne_nil _ _)
    | syn =>
        refine enough (oneByteLeft true) ⟨?_, ?_⟩ ?_ <;>
          simp [txEngTcpFsm, TxEngState.loaded, TxEngState.feed, txEngSyn,
            Event.looksUpTxSar, repeated, headerMsgs, segments,
            TxEngMsg.segment]
    | fin =>
        refine enough (oneByteLeft true) ⟨rfl, rfl⟩ ?_
        simp [txEngTcpFsm, TxEngState.loaded, TxEngState.feed, txEngFin,
          Event.looksUpRxSar, Event.looksUpTxSar, EventType.looksUpBoth,
          finSend, repeated, oneByteLeft, TxSarToTxEngRsp.empty, segments,
          TxEngMsg.segment]
    | rst =>
        refine enough (oneByteLeft true) ⟨?_, ?_⟩ ?_ <;>
          simp [txEngTcpFsm, TxEngState.loaded, TxEngState.feed, txEngRst,
            Event.looksUpTxSar, Event.hasSessionId, repeated, segments,
            TxEngMsg.segment]

section Field

variable {system : OfferSystem} {event : EventWithTuple}
variable {segment : TxEngFsmMetaData}

theorem SegmentHeader.carriesWinScale
    (header : SegmentHeader event system.entry.txEngRead segment) :
    segment.carriesWinScale = event.type.offers system.entry.winShift := by
  rw [TxEngFsmMetaData.carriesWinScale]
  cases header with
  | syn type syn _ _ winScale =>
      rw [type, syn, winScale]
      rfl
  | synAck type syn _ _ winScale =>
      have sameZero :
          ∀ shift : TcpSessionBufferScale,
            (shift.setWidth 4 != 0) = (shift != 0) := by decide
      rw [type, syn, winScale, Bool.true_and]
      exact sameZero _
  | reset type syn _ _ =>
      rw [type, syn]
      rfl
  | acknowledges acknowledges fields =>
      rw [fields.syn, Bool.false_and]
      revert acknowledges
      cases event.type <;> simp [EventType.acknowledges, EventType.offers]

theorem field_fits_iff
    (agrees : system.ShiftAgrees) (handshake : system.theirs ≠ none) :
    system.entry.txEngRead.winSize.toNat * system.factor ≤
        system.entry.freeSpace.toNat ↔
      (system.Overscales →
        3 * (system.entry.freeSpace.toNat % 2 ^ 16) ≤
          system.entry.freeSpace.toNat / 2 ^ 16 * 2 ^ 16) := by
  have field := system.entry.txEngRead_winSize_toNat
  have bound := system.entry.freeSpace.isLt
  rw [OfferSystem.factor, OfferSystem.Overscales, field]
  cases theirs : system.theirs with
  | none =>
      exact absurd theirs handshake
  | some announced =>
      rw [agrees announced theirs]
      cases announced with
      | none =>
          simp [shiftFor]
          omega
      | some shift =>
          by_cases isZero : shift = 0
          · by_cases ours : system.ours = true
            · simp [shiftFor, isZero, ours, windowScaleBits]
              omega
            · simp [shiftFor, isZero, ours]
              omega
          · have notZero : ¬ shift = BitVec.ofNat 8 0 := isZero
            by_cases ours : system.ours = true
            · simp [shiftFor, notZero, ours, windowScaleBits]
              omega
            · simp [shiftFor, notZero, ours]
              omega

theorem SegmentHeader.fits_iff
    (agrees : system.ShiftAgrees) (handshake : system.theirs ≠ none)
    (header : SegmentHeader event system.entry.txEngRead segment) :
    segment.winSize.toNat * (system.offering event.type).factor ≤
        system.entry.freeSpace.toNat ↔
      FieldFits system event.type := by
  cases header with
  | syn type _ _ winSize _ | synAck type _ _ winSize _ =>
      rw [type, winSize]
      rfl
  | reset type _ _ winSize =>
      rw [type, winSize]
      simp [FieldFits]
  | acknowledges acknowledges fields =>
      have noOffer :
          system.offering event.type = system ∧
            (FieldFits system event.type ↔
              (system.Overscales →
                3 * (system.entry.freeSpace.toNat % 2 ^ 16) ≤
                  system.entry.freeSpace.toNat / 2 ^ 16 * 2 ^ 16)) := by
        revert acknowledges
        cases event.type <;>
          simp [EventType.acknowledges, EventType.offers, FieldFits,
            OfferSystem.offering]
      rw [noOffer.1, noOffer.2, fields.winSize]
      exact field_fits_iff agrees handshake

end Field

/-! ## Runs -/

/-- What one event sends is within the free space exactly if it fits. -/
theorem HandlesEvent.withinFree_iff
    {system : OfferSystem} {event : EventWithTuple}
    {txRsp : TxSarToTxEngRsp} {msgs : List TxEngMsg} {final : TxEngState}
    (handles :
      HandlesEvent system.txEng event system.entry.txEngRead txRsp msgs
        final)
    (queued : event.type ≠ .rtCont) (agrees : system.ShiftAgrees)
    (sends : segments msgs ≠ []) :
    OfferSystem.WithinFree
        { system with
          txEng := final
          ours :=
            system.ours ||
              (segments msgs).any TxEngFsmMetaData.carriesWinScale
          theirs := system.theirsAfterEvent event.toEvent
          sent := segments msgs } ↔
      FitsRing system (.event event) := by
  have headers := handles.headersOf queued
  have offers :
      (segments msgs).any TxEngFsmMetaData.carriesWinScale =
        event.type.offers system.entry.winShift := by
    obtain ⟨segment, isSent⟩ := List.exists_mem_of_ne_nil _ sends
    have same (other : TxEngFsmMetaData) (isOther : other ∈ segments msgs) :
        other.carriesWinScale =
          event.type.offers system.entry.winShift :=
      (headers other isOther).carriesWinScale
    rw [Bool.eq_iff_iff, List.any_eq_true]
    constructor
    · rintro ⟨other, isOther, carries⟩
      rw [← same other isOther]
      exact carries
    · intro offered
      exact ⟨segment, isSent, (same segment isSent).trans offered⟩
  rw [OfferSystem.WithinFree, FitsRing, offers]
  refine imp_congr_right fun handshake => ?_
  change
    (∀ segment ∈ segments msgs,
        segment.winSize.toNat *
            OfferSystem.factor
              { system.offering event.type with
                theirs := system.theirsAfterEvent event.toEvent } ≤
          system.entry.freeSpace.toNat) ↔ _
  have sameTheirs :
      system.theirsAfterEvent event.toEvent = system.theirs := by
    rw [OfferSystem.theirsAfterEvent] at handshake ⊢
    split at handshake
    · exact absurd rfl handshake
    · rename_i notOpening
      rw [if_neg notOpening]
  rw [sameTheirs] at handshake ⊢
  constructor
  · intro within
    obtain ⟨segment, isSent⟩ := List.exists_mem_of_ne_nil _ sends
    exact
      ((headers segment isSent).fits_iff agrees handshake).1
        (within segment isSent)
  · intro fits segment isSent
    exact ((headers segment isSent).fits_iff agrees handshake).2 fits

theorem OfferStep.stays_iff_fits
    {id : TcpSessionID} {system next : OfferSystem} {action : OfferAction}
    (stepped : OfferStep id system action next)
    (agrees : system.ShiftAgrees) :
    StaysWithinFree id system action ↔ FitsRing system action := by
  have nothingSent {other : OfferSystem} (none : other.sent = []) :
      other.WithinFree := by
    intro _ segment isSent
    rw [none] at isSent
    cases isSent
  cases stepped with
  | segment isOwn received rxSar handles =>
      refine iff_of_true (fun other otherStep => ?_) trivial
      cases otherStep
      exact nothingSent rfl
  | otherSegment isOther handles =>
      refine iff_of_true (fun other otherStep => ?_) trivial
      cases otherStep
      exact nothingSent rfl
  | @event event _ _ _ isOwn queued handles =>
      constructor
      · intro stays
        obtain ⟨txRsp, msgs, final, sending, sends⟩ :=
          handlesEvent_sends system.txEng system.entry.txEngRead queued
        exact
          (sending.withinFree_iff queued agrees sends).1
            (stays _ (OfferStep.event isOwn queued sending))
      · intro fits other otherStep
        cases otherStep with
        | @event _ _ msgs _ _ _ otherHandles =>
            by_cases sends : segments msgs = []
            · exact nothingSent sends
            · exact
                (otherHandles.withinFree_iff queued agrees sends).2 fits
  | otherEvent isOther handles =>
      refine iff_of_true (fun other otherStep => ?_) trivial
      cases otherStep
      exact nothingSent rfl
  | rxAppWrite req =>
      refine iff_of_true (fun other otherStep => ?_) trivial
      cases otherStep
      exact nothingSent rfl

namespace OfferSystem

/-- A session before its handshake, with any registers and any entry. -/
def start
    (rxEng : RxEngState) (entry : RxSarTableEntry) (txEng : TxEngState) :
    OfferSystem :=
  ⟨rxEng, entry, txEng, false, none, []⟩

/-- The windows of a run are within the free space exactly if every event of
the run fits the ring. -/
theorem staysWithinFree_iff
    (id : TcpSessionID) (rxEng : RxEngState) (entry : RxSarTableEntry)
    (txEng : TxEngState) (actions : List OfferAction) :
    Along (OfferStep id) (StaysWithinFree id) (start rxEng entry txEng)
        actions ↔
      Along (OfferStep id) FitsRing (start rxEng entry txEng)
        actions := by
  have initially : (start rxEng entry txEng).ShiftAgrees :=
    fun shift isShift => by cases isShift
  exact
    along_iff_of_invariant
      (fun _ _ _ agrees stepped => stepped.shiftAgrees agrees)
      (fun _ _ _ agrees stepped => stepped.stays_iff_fits agrees)
      initially

/-! ## A SYN_ACK with a shift of zero -/

/-- A record with the options `03 03 00 01`, or with none. -/
def zeroShiftRecord (header : TcpHeaderMeta) : TcpPseudoHeaderMeta where
  srcIp := 0
  destIp := 0
  srcPort := 0
  destPort := 0
  dataOffset := if header.syn then 6 else 5
  cwr := false
  ecn := false
  urg := false
  psh := false
  header := header
  tcpOptions := 0x01000303

/-- The SYN_ACK for our first SYN. -/
def zeroShiftSynAck : PeerSegment where
  arrival :=
    { segment :=
        ⟨0, 0, 0,
          ⟨6999, nextRandomVal 0x562301AF + 1, 8000, true, false, true,
            false, 0, 0⟩⟩
      sessionState := .synSent
      rxSar := ⟨0, 0, 0⟩
      txSar :=
        ⟨nextRandomVal 0x562301AF + 1, nextRandomVal 0x562301AF + 1, 0, 0,
          0, false, 0⟩ }
  options := [.windowScale 0, .nop]

/-- 33000 bytes in order. -/
def bulkData (seqNumber : BitVec 32) : PeerSegment where
  arrival :=
    { segment :=
        ⟨0, 0, 0,
          ⟨seqNumber, nextRandomVal 0x562301AF + 1, 8000, true, false,
            false, false, 0, 33000⟩⟩
      sessionState := .established
      rxSar := ⟨seqNumber, 7000, 0⟩
      txSar :=
        ⟨nextRandomVal 0x562301AF + 1, nextRandomVal 0x562301AF + 1, 0, 0,
          0, false, 0⟩ }
  options := []

theorem zeroShiftSynAck_received : zeroShiftSynAck.Received := by
  have holds :
      (zeroShiftRecord zeroShiftSynAck.header).HoldsOptions
        zeroShiftSynAck.options := by
    refine ⟨?_, by decide, by decide +kernel⟩
    intro option member
    rcases List.mem_cons.1 member with isFirst | isLater
    · rw [isFirst]
      exact Nat.le_of_ble_eq_true rfl
    · rw [List.mem_singleton.1 isLater]
      trivial
  obtain ⟨final, yields⟩ :=
    TcpPseudoHeaderMeta.yields_options holds
      ⟨.readMeta, zeroShiftRecord zeroShiftSynAck.header, 0, 0, []⟩ rfl
  exact ⟨_, _, holds, rfl, ⟨_, final, rfl, yields⟩, by decide⟩

theorem bulkData_received (seqNumber : BitVec 32) :
    (bulkData seqNumber).Received := by
  have holds :
      (zeroShiftRecord (bulkData seqNumber).header).HoldsOptions
        (bulkData seqNumber).options := by
    refine ⟨?_, rfl, ?_⟩
    · intro option member
      cases member
    · intro index inside
      exact absurd inside (Nat.not_lt_zero index)
  obtain ⟨final, yields⟩ :=
    TcpPseudoHeaderMeta.yields_options holds
      ⟨.readMeta, zeroShiftRecord (bulkData seqNumber).header, 0, 0, []⟩
      rfl
  exact ⟨_, _, holds, rfl, ⟨_, final, rfl, yields⟩, rfl⟩

/-- The design at its start. -/
def resting : OfferSystem :=
  start RxEngState.start ⟨0, 0, 0⟩ TxEngState.start

def plainEvent (type : EventType) : EventWithTuple :=
  ⟨Event.plain type 0, ⟨0, 0, 0, 0⟩⟩

/-- After an active open with a shift of zero and 66000 bytes, 260284 bytes
are advertised where 196143 are free. -/
theorem not_staysWithinFree_zeroShift :
    ¬ ∀ actions,
        Along (OfferStep 0) (StaysWithinFree 0) resting actions := by
  intro always
  have opened : ∃ state next,
      Run (OfferStep 0) resting
        [.event (plainEvent .syn), .segment zeroShiftSynAck,
          .segment (bulkData 7000), .segment (bulkData 40000)] state ∧
      OfferStep 0 state (.event (plainEvent .ack)) next ∧
      ¬ next.WithinFree := by
    apply Exists.intro
    apply Exists.intro
    apply And.intro
    · apply Run.head
      · exact
          OfferStep.event rfl (by decide)
            (handlesEvent_of_calls _ _ _ TxSarToTxEngRsp.empty rfl)
      apply Run.head
      · exact
          OfferStep.segment rfl zeroShiftSynAck_received (by decide)
            (handlesSegment _ _)
      apply Run.head
      · exact
          OfferStep.segment rfl (bulkData_received 7000) (by decide)
            (handlesSegment _ _)
      apply Run.head
      · exact
          OfferStep.segment rfl (bulkData_received 40000) (by decide)
            (handlesSegment _ _)
      exact Run.refl _
    apply And.intro
    · exact
        OfferStep.event rfl (by decide)
          (handlesEvent_of_calls _ _ _ TxSarToTxEngRsp.empty rfl)
    · intro within
      revert within
      rw [WithinFree]
      decide
  obtain ⟨state, next, run, stepped, notWithin⟩ := opened
  exact
    notWithin (((always (_ ++ [_])).of_run run stepped) next stepped)

end OfferSystem

end TcpOffload
