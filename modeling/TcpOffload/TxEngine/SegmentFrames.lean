import TcpOffload.TxEngine.SegmentRoute

/-!
# The frames of the segments

What has been written in a run is the start of the packets of the emissions,
one after the other, and all of them once everything has gone through.
-/

namespace TcpOffload

open Framing Guarded
open Queues

/-! ## What is sent for a segment -/

namespace TxSegment

/-- The pseudo header and the TCP header of a segment with payload. -/
def headerBytes (txSegment : TxSegment) : List (BitVec 8) :=
  (List.range 32).map txSegment.header.byte

/-- `words` is the frame of the segment: its header alone, or its header with
all bytes of its payload behind. -/
def IsFramedBy (txSegment : TxSegment) (words : List NetAXISWord) : Prop :=
  match txSegment.payload with
  | some payload =>
      IsAxiFrame (txSegment.headerBytes ++ payload.bytes) words
  | none => words = [txSegment.header]

/-- The payload, if any, has only beats with equal halves before its final
one. -/
def Repeats (txSegment : TxSegment) : Prop :=
  match txSegment.payload with
  | some payload => HalvesRepeat payload.bytes
  | none => True

end TxSegment

/-- The frames of the segments one after the other, up to a part of a frame
or the end. -/
inductive SegmentFrames : List TxSegment → List NetAXISWord → Prop
  | part {txSegments : List TxSegment} {words : List NetAXISWord} :
      (∀ word ∈ words, word.last = false) →
      SegmentFrames txSegments words
  | next {txSegment : TxSegment} {later : List TxSegment}
      {frame words : List NetAXISWord} :
      txSegment.IsFramedBy frame →
      SegmentFrames later words →
      SegmentFrames (txSegment :: later) (frame ++ words)

theorem whole_resolve
    (answers : TxAnswers) (lookups reads : Nat)
    {emissions : List TxEmission}
    (whole : ∀ emission ∈ emissions, emission.Whole) :
    ∀ txSegment ∈ resolve answers lookups reads emissions,
      txSegment.Whole := by
  induction emissions generalizing lookups reads with
  | nil =>
      exact fun _ member => (by cases member)
  | cons first later inductionHypothesis =>
      rw [List.forall_mem_cons] at whole
      rw [resolve, List.forall_mem_cons]
      exact
        ⟨whole_resolveNext whole.1, inductionHypothesis _ _ whole.2⟩

section Frames

variable {txSegment : TxSegment} {txSegments : List TxSegment}

/-- A header with payload behind it has no options. -/
theorem holds_header (contains : txSegment.containsPayload = true) :
    txSegment.header.Holds txSegment.headerBytes where
  fits := by
    rw [TxSegment.headerBytes, List.length_map, List.length_range]
    decide
  keep := by
    have notSyn : txSegment.metaData.syn = false := by
      have both := contains
      rw [TxSegment.containsPayload,
        TxEngFsmMetaData.packetContainsPayload] at both
      simp only [Bool.not_eq_true', Bool.or_eq_false_iff] at both
      exact both.2
    have keep : txSegment.header.keep = 0xFFFFFFFF := by
      rw [TxSegment.header, TxEngFsmMetaData.pseudoFullHeader, notSyn]
      rfl
    rw [keep, TxSegment.headerBytes, List.length_map, List.length_range]
    decide
  data := by
    intro lane inBytes
    rw [TxSegment.headerBytes] at inBytes
    simp only [TxSegment.headerBytes, List.getElem_map,
      List.getElem_range]

/-- The segment as an input of `TxEngConstructPseudoPacket`. -/
theorem TxSegment.Whole.exists_packet (whole : txSegment.Whole) :
    ∃ packet : TxPseudoPacket,
      packet.header = txSegment.header ∧
      packet.written = txSegment.packet ∧
      (∀ words,
        packet.IsFramedBy words ↔ txSegment.IsFramedBy words) ∧
      (packet.Repeats ↔ txSegment.Repeats) := by
  have sameFlag : txSegment.payload.isSome = txSegment.containsPayload := by
    rw [whole.payload, whole.contains]
  cases payloadEq : txSegment.payload with
  | none =>
      refine ⟨.single txSegment.header, rfl, ?_, fun words => ?_, ?_⟩
      · rw [TxSegment.packet, payloadEq]
        rfl
      · rw [TxSegment.IsFramedBy, payloadEq]
        exact Iff.rfl
      · rw [TxSegment.Repeats, payloadEq]
        exact Iff.rfl
  | some payload =>
      rw [payloadEq] at sameFlag
      have headerLength : txSegment.headerBytes.length = 32 := by
        rw [TxSegment.headerBytes, List.length_map, List.length_range]
      refine
        ⟨.withPayload txSegment.header txSegment.headerBytes payload.bytes
          payload.words (holds_header sameFlag.symm) headerLength
          payload.framed, rfl, ?_, fun words => ?_, ?_⟩
      · rw [TxSegment.packet, payloadEq]
        rfl
      · rw [TxSegment.IsFramedBy, payloadEq]
        exact Iff.rfl
      · rw [TxSegment.Repeats, payloadEq]
        exact Iff.rfl

theorem TxSegment.Whole.delimited (whole : txSegment.Whole) :
    Delimited NetAXISWord.last txSegment.packet := by
  obtain ⟨packet, header, written, _, _⟩ := whole.exists_packet
  have raised : packet.header.last = true := by
    rw [header]
    rfl
  rw [← written]
  cases packet with
  | single header =>
      exact Delimited.final raised
  | withPayload header headerBytes payload words holdsHeader headerLength
      frame =>
      obtain ⟨sent, sentFrame, _⟩ :=
        headedWords_isFrame (Nat.le_of_eq headerLength.symm) holdsHeader
          frame
      exact sentFrame.delimited

/-- What is sent is the frame of the segment when the halves of the beats of
its payload are equal. -/
theorem TxSegment.Whole.isFramedBy_iff (whole : txSegment.Whole) :
    txSegment.IsFramedBy txSegment.packet ↔ txSegment.Repeats := by
  obtain ⟨packet, _, written, framed, repeats⟩ := whole.exists_packet
  rw [← framed, ← repeats, ← written]
  exact written_isFramedBy_iff packet

theorem segmentFrames_of_prefix
    (whole : ∀ other ∈ txSegments, other.Whole)
    (repeats : ∀ other ∈ txSegments, other.Repeats)
    {words : List NetAXISWord}
    (start : words <+: txSegments.flatMap TxSegment.packet) :
    SegmentFrames txSegments words := by
  induction txSegments generalizing words with
  | nil =>
      rw [List.prefix_nil.1 start]
      exact SegmentFrames.part fun word member => (by cases member)
  | cons first later inductionHypothesis =>
      rw [List.forall_mem_cons] at whole repeats
      rw [List.flatMap_cons] at start
      rcases whole.1.delimited.prefix_cases start with
        part | ⟨behind, rfl, inLater⟩
      · exact SegmentFrames.part part
      · exact
          SegmentFrames.next (whole.1.isFramedBy_iff.2 repeats.1)
            (inductionHypothesis whole.2 repeats.2 inLater)

theorem repeats_of_segmentFrames
    (whole : ∀ other ∈ txSegments, other.Whole)
    (frames :
      SegmentFrames txSegments (txSegments.flatMap TxSegment.packet)) :
    ∀ other ∈ txSegments, other.Repeats := by
  induction txSegments with
  | nil =>
      exact fun other member => (by cases member)
  | cons first later inductionHypothesis =>
      rw [List.forall_mem_cons] at whole ⊢
      rw [List.flatMap_cons] at frames
      obtain ⟨packet, header, written, framedIff, _⟩ :=
        whole.1.exists_packet
      generalize wordsEq :
        first.packet ++ later.flatMap TxSegment.packet = words at frames
      cases frames with
      | part noneLast =>
          obtain ⟨word, member, raised⟩ := whole.1.delimited.exists_last
          have lowered :=
            noneLast word (wordsEq ▸ List.mem_append_left _ member)
          rw [raised] at lowered
          cases lowered
      | next framed behind =>
          rw [← written] at wordsEq
          obtain ⟨rfl, rfl⟩ :=
            isFramedBy_written_append ((framedIff _).2 framed)
              wordsEq.symm
          rw [written] at framed
          exact
            ⟨whole.1.isFramedBy_iff.1 framed,
              inductionHypothesis whole.2 behind⟩

end Frames

/-! ## When all has gone through -/

section Settled

variable {answers : TxAnswers} {system : SegmentSystem}
variable {stages : SegmentStages}

theorem SegmentSystem.Settled.asked (settled : system.Settled answers) :
    system.slookupReqs = [] ∧ system.memReadCmds = [] ∧
      system.words = [] := by
  refine ⟨?_, ?_, ?_⟩
  · cases reqs : system.slookupReqs with
    | nil =>
        rfl
    | cons first later =>
        have same :=
          congrArg SegmentSystem.slookupReqs (settled .slookup (by decide))
        simp only [SegmentSystem.act, SegmentSystem.answerLookup, reqs]
          at same
        exact absurd same (List.cons_ne_self first later).symm
  · cases cmds : system.memReadCmds with
    | nil =>
        rfl
    | cons first later =>
        have same :=
          congrArg SegmentSystem.memReadCmds
            (settled .readDataFromMem (by decide))
        simp only [SegmentSystem.act, SegmentSystem.readMem, cmds] at same
        exact absurd same (List.cons_ne_self first later).symm
  · cases words : system.words with
    | nil =>
        rfl
    | cons first later =>
        have same :=
          congrArg SegmentSystem.words (settled .passWord (by decide))
        simp only [SegmentSystem.act, words] at same
        exact absurd same (List.cons_ne_self first later).symm

theorem InRoute.untupled_eq_nil
    (inRoute : InRoute answers system stages)
    (settled : system.Settled answers) : stages.untupled = [] := by
  have phase := inRoute.tuple.phase
  have sources := inRoute.tuple.sources
  have reqs := inRoute.tuple.reqs
  have rsps := inRoute.tuple.rsps
  have own := inRoute.tuple.own
  rw [settled.asked.1] at reqs
  rw [reqs.rest_eq_nil] at rsps
  have same :=
    congrArg (fun next => next.tupleHandler.fsmState)
      (settled .txEngFourTupleHandler (by decide))
  change
    (TcpOffload.txEngFourTupleHandler system.tupleHandler).1.fsmState =
      system.tupleHandler.fsmState at same
  rw [TcpOffload.txEngFourTupleHandler] at same
  generalize fsmStateEq : system.tupleHandler.fsmState = fsmState
    at phase same
  generalize untupledEq : stages.untupled = untupled at phase
  generalize unsourcedEq : stages.unsourced = unsourced at phase
  rw [unsourcedEq] at sources
  cases phase with
  | loadTupleSrc =>
      cases untupled with
      | nil =>
          rfl
      | cons first later =>
          obtain ⟨source, rest, queued⟩ := sources.exists_cons
          simp only [queued] at same
          split at same <;> cases same
  | @readTupleFromSlupCtrl txSegment _ isLooked =>
      rw [untupledEq, List.filter_cons, if_pos isLooked] at rsps
      obtain ⟨rsp, rest, queued⟩ := rsps.exists_cons
      obtain ⟨first, later, queue, _⟩ := List.map_eq_cons_iff.1 queued
      simp only [queue] at same
      cases same
  | @readTupleFromTxEng txSegment _ notLooked =>
      rw [untupledEq, List.filter_cons, if_pos (by rw [notLooked]; rfl)]
        at own
      obtain ⟨tuple, rest, queued⟩ := own.exists_cons
      simp only [queued] at same
      cases same

theorem InRoute.unheaded_eq_nil
    (inRoute : InRoute answers system stages)
    (settled : system.Settled answers) : stages.unheaded = [] := by
  have tuples := inRoute.header.tuples
  have metaData := inRoute.header.metaData
  rw [inRoute.untupled_eq_nil settled] at tuples
  have same :=
    congrArg (fun next => next.fullHeader)
      (settled .txEngPseudoFullHeaderConstruct (by decide))
  change
    (TcpOffload.txEngPseudoFullHeaderConstruct system.fullHeader).1 =
      system.fullHeader at same
  rw [TcpOffload.txEngPseudoFullHeaderConstruct] at same
  cases front : stages.unheaded with
  | nil =>
      rfl
  | cons first later =>
      rw [front] at tuples metaData
      obtain ⟨tuple, tuplesLater, queuedTuples⟩ := tuples.exists_cons
      obtain ⟨segment, metaLater, queuedMeta⟩ := metaData.exists_cons
      simp only [queuedTuples, queuedMeta] at same
      have shorter := congrArg FullHeaderState.txEngFsmMetaData same
      rw [queuedMeta] at shorter
      exact absurd shorter (List.cons_ne_self _ _).symm

theorem InRoute.unaddressed_eq_nil
    (inRoute : InRoute answers system stages)
    (settled : system.Settled answers) : stages.unaddressed = [] := by
  have pairs := inRoute.header.pairs
  have lengths := inRoute.header.lengths
  rw [inRoute.untupled_eq_nil settled] at pairs
  have same :=
    congrArg SegmentSystem.ipv4Header
      (settled .txEngConstructIpv4Header (by decide))
  change
    (TcpOffload.txEngConstructIpv4Header system.ipv4Header).1 =
      system.ipv4Header at same
  rw [TcpOffload.txEngConstructIpv4Header] at same
  cases front : stages.unaddressed with
  | nil =>
      rfl
  | cons first later =>
      rw [front] at pairs lengths
      obtain ⟨pair, pairsLater, queuedPairs⟩ := pairs.exists_cons
      obtain ⟨length, lengthsLater, queuedLengths⟩ := lengths.exists_cons
      simp only [queuedPairs, queuedLengths] at same
      have shorter := congrArg Ipv4HeaderState.txTcpIpPair same
      rw [queuedPairs] at shorter
      exact absurd shorter (List.cons_ne_self _ _).symm

theorem InRoute.packed
    (inRoute : InRoute answers system stages)
    (settled : system.Settled answers) :
    stages.unpacked = [] ∧ stages.held = [] := by
  have headers := inRoute.packet.headers
  have contains := inRoute.packet.contains
  have cmds := inRoute.packet.cmds
  have words := inRoute.packet.words
  have phase := inRoute.packet.phase
  rw [inRoute.unheaded_eq_nil settled] at headers contains
  rw [settled.asked.2.1] at cmds
  rw [settled.asked.2.2, cmds.rest_eq_nil, List.flatMap_nil,
    List.append_nil, List.append_nil] at words
  have called := settled .txEngConstructPseudoPacket (by decide)
  have sameState :
      (TcpOffload.txEngConstructPseudoPacket system.pseudoPkt).1 =
        system.pseudoPkt :=
    congrArg SegmentSystem.pseudoPkt called
  have silent :
      (TcpOffload.txEngConstructPseudoPacket system.pseudoPkt).2 = [] :=
    List.append_right_eq_self.1 (congrArg SegmentSystem.packetWords called)
  rw [TcpOffload.txEngConstructPseudoPacket] at sameState silent
  generalize fsmStateEq : system.pseudoPkt.fsmState = fsmState
    at phase sameState silent
  generalize prevEq : system.pseudoPkt.prevWord = prevWord
    at phase sameState silent
  generalize heldEq : stages.held = held at phase ⊢
  generalize restEq : stages.rest = rest at phase words
  cases phase with
  | readPseudo =>
      refine ⟨?_, rfl⟩
      cases front : stages.unpacked with
      | nil =>
          rfl
      | cons first later =>
          rw [front] at headers contains
          obtain ⟨header, headersLater, queuedHeaders⟩ :=
            headers.exists_cons
          obtain ⟨flag, flagsLater, queuedFlags⟩ := contains.exists_cons
          simp only [queuedHeaders, queuedFlags] at sameState
          have shorter :=
            congrArg TxPseudoPktState.txTcpPacketContainsPayload sameState
          rw [queuedFlags] at shorter
          split at shorter <;>
            exact absurd shorter (List.cons_ne_self _ _).symm
  | readPayload _ delimited =>
      cases delimited with
      | final | more =>
          simp only [words, List.cons_append] at silent
          cases silent
  | extraWord =>
      cases silent

/-- Everything that was emitted has been written. -/
theorem InRoute.finished
    (inRoute : InRoute answers system stages)
    (settled : system.Settled answers) :
    system.ipv4Headers =
        (system.segments answers).map TxSegment.ipv4Header ∧
      system.packetWords =
        (system.segments answers).flatMap TxSegment.packet := by
  have headers := inRoute.header.written
  have packets := inRoute.packet.written
  rw [inRoute.unaddressed_eq_nil settled] at headers
  rw [(inRoute.packed settled).1, (inRoute.packed settled).2,
    List.flatMap_nil, List.append_nil, List.append_nil] at packets
  refine ⟨?_, packets⟩
  rw [Feeds, List.map_nil, List.append_nil] at headers
  exact headers

/-- The header and the frame number `k` are those of emission number `k`. -/
structure SegmentSystem.CarriesOwn
    (answers : TxAnswers) (system : SegmentSystem) : Prop where
  headers :
    system.ipv4Headers <+:
      (system.segments answers).map TxSegment.ipv4Header
  frames :
    SegmentFrames (system.segments answers) system.packetWords

theorem InRoute.ipv4Headers_prefix
    (inRoute : InRoute answers system stages) :
    system.ipv4Headers <+:
      (system.segments answers).map TxSegment.ipv4Header :=
  ⟨_, inRoute.header.written⟩

theorem InRoute.packetWords_prefix
    (inRoute : InRoute answers system stages) :
    system.packetWords <+:
      (system.segments answers).flatMap TxSegment.packet :=
  ⟨_, inRoute.packet.written⟩

theorem InRoute.carriesOwn
    (inRoute : InRoute answers system stages)
    (repeats :
      ∀ txSegment ∈ system.segments answers, txSegment.Repeats) :
    system.CarriesOwn answers where
  headers := inRoute.ipv4Headers_prefix
  frames :=
    segmentFrames_of_prefix (whole_resolve answers 0 0 inRoute.emitted)
      repeats inRoute.packetWords_prefix

theorem InRoute.carriesOwn_iff
    (inRoute : InRoute answers system stages)
    (settled : system.Settled answers) :
    system.CarriesOwn answers ↔
      ∀ txSegment ∈ system.segments answers, txSegment.Repeats := by
  refine ⟨fun own => ?_, inRoute.carriesOwn⟩
  have frames := own.frames
  rw [(inRoute.finished settled).2] at frames
  exact
    repeats_of_segmentFrames (whole_resolve answers 0 0 inRoute.emitted)
      frames

end Settled

theorem SegmentSystem.exists_inRoute
    {answers : TxAnswers} {actions : List SegmentAction}
    {system : SegmentSystem}
    (run :
      Run (SegmentStep answers) SegmentSystem.start actions system) :
    ∃ stages, InRoute answers system stages := by
  refine
    @Run.keeps _ _ _ (fun state => ∃ stages, InRoute answers state stages)
      ?_ _ _ _ run ⟨_, inRoute_start answers⟩
  rintro state action next ⟨stages, inRoute⟩ stepped
  rw [SegmentStep] at stepped
  rw [stepped]
  exact inRoute.step action

/-- In every run, every header and every word of a packet is made from the
pieces, the tuple and the payload of one emission, in the order of the
emissions.  Each emission leaves as its own frame if the payloads have only
beats with equal halves before the final one; and once all has gone through,
only then. -/
theorem segments_carriesOwn
    (answers : TxAnswers) (actions : List SegmentAction)
    (system : SegmentSystem)
    (run :
      Run (SegmentStep answers) SegmentSystem.start actions system) :
    (system.ipv4Headers <+:
        (system.segments answers).map TxSegment.ipv4Header ∧
      system.packetWords <+:
        (system.segments answers).flatMap TxSegment.packet) ∧
    ((∀ txSegment ∈ system.segments answers, txSegment.Repeats) →
      system.CarriesOwn answers) ∧
    (system.Settled answers →
      (system.CarriesOwn answers ↔
        ∀ txSegment ∈ system.segments answers, txSegment.Repeats)) := by
  obtain ⟨stages, inRoute⟩ := system.exists_inRoute run
  exact
    ⟨⟨inRoute.ipv4Headers_prefix, inRoute.packetWords_prefix⟩,
      inRoute.carriesOwn, inRoute.carriesOwn_iff⟩

/-! ## One segment -/

theorem repeats_resolve
    {answers : TxAnswers}
    (repeats :
      ∀ count cmd, HalvesRepeat (answers.readData count cmd).bytes)
    (lookups reads : Nat) (emissions : List TxEmission) :
    ∀ txSegment ∈ resolve answers lookups reads emissions,
      txSegment.Repeats := by
  induction emissions generalizing lookups reads with
  | nil =>
      exact fun _ member => (by cases member)
  | cons first later inductionHypothesis =>
      rw [resolve, List.forall_mem_cons]
      refine ⟨?_, inductionHypothesis _ _⟩
      rw [TxSegment.Repeats, resolveNext]
      cases first.readCmd with
      | none =>
          trivial
      | some cmd =>
          exact repeats _ cmd

/-- All payloads are the same one. -/
def samePayload (payload : TxPayload) : TxAnswers where
  slookup := fun _ _ => ⟨⟨0x0A0A0A0A, 0x050A0A0A, 0x5000, 0x1500⟩, 0⟩
  readData := fun _ _ => payload

/-- A `TX` event with `length` bytes to be sent goes through all modules. -/
def oneSegmentRound (length : TcpSessionBuffer) : List SegmentAction :=
  [.event ⟨Event.plain .tx 0, ⟨0, 0, 0, 0⟩⟩, .txEngTcpFsm,
    .rxSarRsp ⟨0, 0, 0x1000⟩,
    .txSarRsp
      ⟨0, 0, 0x1000, length, false, false, length, 0, 0, 0x1000, true,
        length.setWidth 32, 1460, 0⟩,
    .txEngTcpFsm, .slookup, .readDataFromMem, .passWord, .passWord,
    .txEngFourTupleHandler, .txEngFourTupleHandler,
    .txEngPseudoFullHeaderConstruct, .txEngConstructIpv4Header,
    .txEngConstructPseudoPacket, .txEngConstructPseudoPacket,
    .txEngConstructPseudoPacket]

def afterRound (length : TcpSessionBuffer) (payload : TxPayload) :
    SegmentSystem :=
  (oneSegmentRound length).foldl
    (SegmentSystem.act (samePayload payload)) SegmentSystem.start

/-- Ten bytes. -/
def shortPayload : TxPayload where
  bytes := List.replicate 10 7
  words := [NetAXISWord.ofBytes (List.replicate 10 7) true]
  framed :=
    IsFrame.final (NetAXISWord.holds_ofBytes true (by decide)) (by decide)
      (by decide) rfl

def longPayload : TxPayload :=
  ⟨_, _, twoBeatPayload_isFrame⟩

theorem run_afterRound
    (length : TcpSessionBuffer) (payload : TxPayload) :
    Run (SegmentStep (samePayload payload)) SegmentSystem.start
      (oneSegmentRound length) (afterRound length payload) :=
  @Run.of_act _ _ (SegmentStep (samePayload payload))
    (SegmentSystem.act (samePayload payload)) (fun _ _ => rfl)
    SegmentSystem.start (oneSegmentRound length)

theorem segments_carriesOwn_shortPayload :
    (afterRound 10 shortPayload).CarriesOwn (samePayload shortPayload) :=
  (segments_carriesOwn (samePayload shortPayload) (oneSegmentRound 10)
    (afterRound 10 shortPayload)
    (run_afterRound 10 shortPayload)).2.1
      (repeats_resolve
        (fun _ _ => halvesRepeat_of_short
          (show shortPayload.bytes.length ≤ 64 by decide)) _ _ _)

/-- Of 65 bytes the second half of the first 64 is lost. -/
theorem not_carriesOwn_longPayload :
    ¬ ∀ answers actions system,
        Run (SegmentStep answers) SegmentSystem.start actions system →
          system.CarriesOwn answers := by
  intro allOwn
  have run := run_afterRound 65 longPayload
  obtain ⟨stages, inRoute⟩ := SegmentSystem.exists_inRoute run
  have outcome :
      (afterRound 65 longPayload).Settled (samePayload longPayload) ∧
        (afterRound 65 longPayload).emissions.map TxEmission.readCmd =
          [some ⟨0x80000000, 65, 65⟩] := by
    rw [SegmentSystem.Settled]
    decide +kernel
  obtain ⟨settled, emitted⟩ := outcome
  have repeats :=
    (inRoute.carriesOwn_iff settled).1 (allOwn _ _ _ run)
  obtain ⟨emission, rest, emissions, isRead, _⟩ :=
    List.map_eq_cons_iff.1 emitted
  rw [SegmentSystem.segments, emissions, resolve,
    List.forall_mem_cons] at repeats
  have halves : HalvesRepeat twoBeatPayload := by
    have first := repeats.1
    rw [TxSegment.Repeats, resolveNext, isRead] at first
    exact first
  exact absurd (halves 0 (by decide)) (by decide)

end TcpOffload
