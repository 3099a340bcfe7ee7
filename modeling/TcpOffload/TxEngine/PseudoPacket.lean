import TcpOffload.Library.Process
import TcpOffload.Realign

/-!
# `TxEngConstructPseudoPacket`

The state machine of `tx_engine.cpp` that puts the payload of a segment
behind its pseudo header and TCP header.  The header takes the lower half of
a beat, so every payload beat is split between two beats of the packet.
-/

namespace TcpOffload

open Clocked Framing

inductive TxPseudoPktFsmState where
  | readPseudo
  | readPayload
  | extraWord
deriving DecidableEq, Repr

structure TxPseudoPktState where
  fsmState : TxPseudoPktFsmState
  prevWord : NetAXISWord
  txTcpPseudoFullHeader : List NetAXISWord
  txTcpPacketContainsPayload : List Bool
  txTcpPacketPayload : List NetAXISWord
deriving DecidableEq, Repr

/-- The two halves of what is sent for `curWord` while `prevWord` is held. -/
def pseudoPacketWord (curWord prevWord : NetAXISWord) : NetAXISWord :=
  mergeTwoWordsHead curWord prevWord 32 NetAXISWord.empty

/-- The word that carries what the final payload beat has behind its first 32
bytes. -/
def pseudoPacketExtra (prevWord : NetAXISWord) : NetAXISWord :=
  (concatTwoWords NetAXISWord.empty prevWord 32 NetAXISWord.empty).withLast
    true

/-- `TxEngConstructPseudoPacket`.  Every word goes to both outputs; one list
stands for the two.  The register keeps the payload beat as it was read: the
line that would shift it down is commented out in the source. -/
def txEngConstructPseudoPacket (state : TxPseudoPktState) :
    TxPseudoPktState × List NetAXISWord :=
  match state.fsmState with
  | .readPseudo =>
      match state.txTcpPseudoFullHeader,
        state.txTcpPacketContainsPayload with
      | curWord :: headers, packetContainsPayload :: contains =>
          let read :=
            { state with
              txTcpPseudoFullHeader := headers
              txTcpPacketContainsPayload := contains }
          if !packetContainsPayload then
            (read, [curWord])
          else
            ({ read with fsmState := .readPayload, prevWord := curWord },
              [])
      | _, _ => (state, [])
  | .readPayload =>
      match state.txTcpPacketPayload with
      | [] => (state, [])
      | curWord :: later =>
          let extra := curWord.keep.getLsbD 32
          ({ state with
              fsmState :=
                if curWord.last then
                  if extra then .extraWord else .readPseudo
                else
                  .readPayload
              prevWord := curWord
              txTcpPacketPayload := later },
            [(pseudoPacketWord curWord state.prevWord).withLast
              (curWord.last && !extra)])
  | .extraWord =>
      ({ state with fsmState := .readPseudo },
        [pseudoPacketExtra state.prevWord])

/-! ## The words of one packet -/

/-- The words sent once `prevWord` is held and the payload beats `words` are
still to come. -/
def headedWords : NetAXISWord → List NetAXISWord → List NetAXISWord
  | _, [] => []
  | prevWord, curWord :: words =>
      if curWord.last then
        if curWord.keep.getLsbD 32 then
          [(pseudoPacketWord curWord prevWord).withLast false,
            pseudoPacketExtra curWord]
        else
          [(pseudoPacketWord curWord prevWord).withLast true]
      else
        (pseudoPacketWord curWord prevWord).withLast false ::
          headedWords curWord words

/-- In every payload beat but the final one the two halves are equal. -/
def HalvesRepeat (payload : List (BitVec 8)) : Prop :=
  ∀ beat, 64 * (beat + 1) < payload.length →
    (payload.drop (64 * beat)).take 32 =
      (payload.drop (64 * beat + 32)).take 32

section HalvesRepeat

variable {chunk payload : List (BitVec 8)}

theorem halvesRepeat_of_short (short : payload.length ≤ 64) :
    HalvesRepeat payload := by
  intro beat before
  omega

theorem halvesRepeat_append
    (full : chunk.length = 64) (nonempty : payload ≠ []) :
    HalvesRepeat (chunk ++ payload) ↔
      chunk.drop 32 = chunk.take 32 ∧ HalvesRepeat payload := by
  have positive := List.length_pos_of_ne_nil nonempty
  have upperLength : (chunk.drop 32).length = 32 := by
    rw [List.length_drop, full]
  have firstBeat :
      ((chunk ++ payload).drop (64 * 0)).take 32 =
          ((chunk ++ payload).drop (64 * 0 + 32)).take 32 ↔
        chunk.drop 32 = chunk.take 32 := by
    rw [Nat.mul_zero, Nat.zero_add, List.drop_zero,
      List.take_append_of_le_length (by omega),
      List.drop_append_of_le_length (by omega),
      List.take_append_of_le_length (by omega),
      List.take_of_length_le (Nat.le_of_eq upperLength)]
    exact eq_comm
  have laterBeat (beat : Nat) (behind : Nat) :
      (chunk ++ payload).drop (64 * (beat + 1) + behind) =
        payload.drop (64 * beat + behind) := by
    rw [show 64 * (beat + 1) + behind = 64 + (64 * beat + behind) by omega,
      ← List.drop_drop, ← full, List.drop_left]
  constructor
  · intro repeats
    refine ⟨firstBeat.1 (repeats 0 ?_), fun beat before => ?_⟩
    · rw [List.length_append, full]
      omega
    · have same := repeats (beat + 1) (by
        rw [List.length_append, full]
        omega)
      rw [laterBeat beat 32, ← Nat.add_zero (64 * (beat + 1)),
        laterBeat beat 0] at same
      exact same
  · rintro ⟨halves, repeats⟩ beat before
    cases beat with
    | zero =>
        exact firstBeat.2 halves
    | succ beat =>
        rw [List.length_append, full] at before
        rw [laterBeat beat 32, ← Nat.add_zero (64 * (beat + 1)),
          laterBeat beat 0]
        exact repeats beat (by omega)

end HalvesRepeat

/-- What is sent behind the lower half of a beat starts with that half, in
place of the upper half. -/
theorem append_half_iff
    {chunk sent payload : List (BitVec 8)} (full : chunk.length = 64)
    (sentHead : sent.take 32 = chunk.take 32) :
    chunk.take 32 ++ sent = chunk ++ payload ↔
      chunk.drop 32 = chunk.take 32 ∧ sent = chunk.take 32 ++ payload := by
  have upperLength : (chunk.drop 32).length = 32 := by
    rw [List.length_drop, full]
  have halves : chunk.take 32 ++ chunk.drop 32 = chunk :=
    List.take_append_drop 32 chunk
  have behindLower :
      chunk.take 32 ++ sent = chunk ++ payload ↔
        sent = chunk.drop 32 ++ payload := by
    conv_lhs => rw [← halves]
    rw [List.append_assoc, List.take_left' (by
      rw [List.length_take, full]
      omega), List.append_cancel_left_eq]
  rw [behindLower]
  constructor
  · intro same
    have upper : chunk.drop 32 = chunk.take 32 := by
      rw [← sentHead, same, List.take_left' upperLength]
    exact ⟨upper, by rw [← upper]; exact same⟩
  · rintro ⟨upper, same⟩
    rw [upper]
    exact same

section HeadedWords

variable {prevWord : NetAXISWord} {words : List NetAXISWord}
variable {prevBytes payload : List (BitVec 8)}

theorem holds_pseudoPacketWord
    {curWord : NetAXISWord} {curBytes : List (BitVec 8)}
    (inPrev : 32 ≤ prevBytes.length)
    (prevHolds : prevWord.Holds prevBytes)
    (curHolds : curWord.Holds curBytes) :
    (pseudoPacketWord curWord prevWord).Holds
      (prevBytes.take 32 ++ curBytes.take 32) := by
  have merged :=
    @NetAXISWord.holds_mergeHead curWord prevWord NetAXISWord.empty 32
      prevBytes curBytes (by decide) inPrev prevHolds curHolds
  have headLength : (prevBytes.take 32).length = 32 := by
    rw [List.length_take]
    omega
  change (pseudoPacketWord curWord prevWord).Holds
    ((prevBytes.take 32 ++ curBytes).take 64) at merged
  rw [List.take_append, headLength,
    List.take_of_length_le (by omega)] at merged
  exact merged

theorem holds_pseudoPacketExtra
    (prevHolds : prevWord.Holds prevBytes) :
    (pseudoPacketExtra prevWord).Holds (prevBytes.drop 32) := by
  have dropped :=
    @NetAXISWord.holds_concat NetAXISWord.empty prevWord NetAXISWord.empty
      32 prevBytes [] (by decide) prevHolds NetAXISWord.holds_empty
      (Or.inr rfl)
  rw [List.take_nil, List.append_nil] at dropped
  exact dropped.withLast true

/-- The words of a packet are always one frame, which starts with the header;
it carries the payload exactly when the halves of its beats repeat. -/
theorem headedWords_isFrame
    (inPrev : 32 ≤ prevBytes.length)
    (prevHolds : prevWord.Holds prevBytes)
    (frame : IsAxiFrame payload words) :
    ∃ sent,
      IsAxiFrame sent (headedWords prevWord words) ∧
      sent.take 32 = prevBytes.take 32 ∧
      sent.length = 32 + payload.length ∧
      (sent = prevBytes.take 32 ++ payload ↔ HalvesRepeat payload) := by
  have headLength : (prevBytes.take 32).length = 32 := by
    rw [List.length_take]
    omega
  induction frame generalizing prevWord prevBytes with
  | @final bytes curWord curHolds nonempty short raised =>
      have kept := curHolds.keep 32 (by omega)
      have positive := List.length_pos_of_ne_nil nonempty
      have merged := holds_pseudoPacketWord inPrev prevHolds curHolds
      refine ⟨prevBytes.take 32 ++ bytes, ?_, ?_, ?_, ?_⟩
      · by_cases past : 32 < bytes.length
        · have left : bytes.drop 32 ≠ [] := by
            intro none
            have noBytes := congrArg List.length none
            rw [List.length_drop, List.length_nil] at noBytes
            omega
          have extra := holds_pseudoPacketExtra curHolds
          have joined :=
            IsFrame.more (merged.withLast false)
              (by
                rw [List.length_append, List.length_take,
                  List.length_take]
                omega)
              (NetAXISWord.withLast_last _ false)
              (IsFrame.final extra left extra.fits
                (NetAXISWord.withLast_last _ true))
          rw [List.append_assoc, List.take_append_drop] at joined
          rw [headedWords, if_pos raised,
            if_pos (kept.trans (decide_eq_true past))]
          exact joined
        · rw [List.take_of_length_le (by omega : bytes.length ≤ 32)]
            at merged
          rw [headedWords, if_pos raised,
            if_neg (by rw [kept]; simpa using past)]
          refine
            IsFrame.final (merged.withLast true) ?_ merged.fits rfl
          intro none
          exact nonempty (List.append_eq_nil_iff.1 none).2
      · rw [List.take_append_of_le_length (by omega),
          List.take_of_length_le (Nat.le_of_eq headLength)]
      · rw [List.length_append, headLength]
      · exact ⟨fun _ => halvesRepeat_of_short short, fun _ => rfl⟩
  | @more chunk bytes curWord words curHolds full notRaised rest
      inductionHypothesis =>
      have merged := holds_pseudoPacketWord inPrev prevHolds curHolds
      have chunkHead : (chunk.take 32).length = 32 := by
        rw [List.length_take, full]
        omega
      obtain ⟨sent, sentFrame, sentHead, sentLength, carries⟩ :=
        inductionHypothesis (by omega) curHolds chunkHead
      refine
        ⟨(prevBytes.take 32 ++ chunk.take 32) ++ sent, ?_, ?_, ?_, ?_⟩
      · rw [headedWords, if_neg (by rw [notRaised]; decide)]
        refine
          IsFrame.more (merged.withLast false) ?_ rfl sentFrame
        rw [List.length_append, headLength, chunkHead]
      · rw [List.append_assoc,
          List.take_append_of_le_length (by omega),
          List.take_of_length_le (Nat.le_of_eq headLength)]
      · simp only [List.length_append, headLength, chunkHead, sentLength,
          full]
        omega
      · rw [halvesRepeat_append full rest.bytes_ne_nil, ← carries,
          List.append_assoc, List.append_cancel_left_eq]
        exact append_half_iff full sentHead

end HeadedWords

/-! ## Runs over a sequence of packets -/

/-- What is fed to the machine for one packet. -/
inductive TxPseudoPacket where
  | single (header : NetAXISWord)
  | withPayload (header : NetAXISWord)
      (headerBytes payload : List (BitVec 8)) (words : List NetAXISWord)
      (holdsHeader : header.Holds headerBytes)
      (headerLength : headerBytes.length = 32)
      (frame : IsAxiFrame payload words)

namespace TxPseudoPacket

def header : TxPseudoPacket → NetAXISWord
  | .single header => header
  | .withPayload header _ _ _ _ _ _ => header

def containsPayload : TxPseudoPacket → Bool
  | .single _ => false
  | .withPayload _ _ _ _ _ _ _ => true

def payloadWords : TxPseudoPacket → List NetAXISWord
  | .single _ => []
  | .withPayload _ _ _ words _ _ _ => words

/-- What the machine writes for the packet. -/
def written : TxPseudoPacket → List NetAXISWord
  | .single header => [header]
  | .withPayload header _ _ words _ _ _ => headedWords header words

/-- `words` is the frame that the packet calls for. -/
def IsFramedBy (words : List NetAXISWord) : TxPseudoPacket → Prop
  | .single header => words = [header]
  | .withPayload _ headerBytes payload _ _ _ _ =>
      IsAxiFrame (headerBytes ++ payload) words

/-- The payload, if any, has only beats with equal halves before its final
one. -/
def Repeats : TxPseudoPacket → Prop
  | .single _ => True
  | .withPayload _ _ payload _ _ _ _ => HalvesRepeat payload

end TxPseudoPacket

/-- `words` has one frame after the other, one for each packet. -/
inductive PacketFrames : List TxPseudoPacket → List NetAXISWord → Prop
  | nil : PacketFrames [] []
  | cons {packet : TxPseudoPacket} {packets : List TxPseudoPacket}
      {words later : List NetAXISWord} :
      packet.IsFramedBy words →
      PacketFrames packets later →
      PacketFrames (packet :: packets) (words ++ later)

/-- Between two packets, with any word left in the register. -/
def TxPseudoPktState.feed
    (prevWord : NetAXISWord) (packets : List TxPseudoPacket) :
    TxPseudoPktState where
  fsmState := .readPseudo
  prevWord := prevWord
  txTcpPseudoFullHeader := packets.map TxPseudoPacket.header
  txTcpPacketContainsPayload :=
    packets.map TxPseudoPacket.containsPayload
  txTcpPacketPayload := packets.flatMap TxPseudoPacket.payloadWords

/-- Behind a header, with payload beats to be read. -/
def TxPseudoPktState.behindHeader
    (prevWord : NetAXISWord) (words : List NetAXISWord)
    (packets : List TxPseudoPacket) : TxPseudoPktState :=
  { TxPseudoPktState.feed prevWord packets with
    fsmState := .readPayload
    txTcpPacketPayload :=
      words ++ packets.flatMap TxPseudoPacket.payloadWords }

/-- The payload of a packet is read up to its final beat. -/
theorem runs_headedWords
    {words : List NetAXISWord} (frame : Delimited NetAXISWord.last words)
    (prevWord : NetAXISWord) (packets : List TxPseudoPacket) :
    ∃ lastWord,
      Runs txEngConstructPseudoPacket
        (TxPseudoPktState.behindHeader prevWord words packets)
        (headedWords prevWord words)
        (TxPseudoPktState.feed lastWord packets) := by
  induction frame generalizing prevWord with
  | @final curWord raised =>
      refine ⟨curWord, ?_⟩
      have called :
          txEngConstructPseudoPacket
              (TxPseudoPktState.behindHeader prevWord [curWord] packets) =
            ({ TxPseudoPktState.feed curWord packets with
                fsmState :=
                  if curWord.keep.getLsbD 32 then .extraWord
                  else .readPseudo },
              [(pseudoPacketWord curWord prevWord).withLast
                (!curWord.keep.getLsbD 32)]) := by
        simp only [txEngConstructPseudoPacket,
          TxPseudoPktState.behindHeader, TxPseudoPktState.feed,
          List.singleton_append, raised, if_true, Bool.true_and]
      rw [headedWords, if_pos raised]
      by_cases extra : curWord.keep.getLsbD 32 = true
      · rw [extra] at called
        rw [if_pos extra]
        have sentExtra :
            txEngConstructPseudoPacket
                { TxPseudoPktState.feed curWord packets with
                  fsmState := .extraWord } =
              (TxPseudoPktState.feed curWord packets,
                [pseudoPacketExtra curWord]) :=
          rfl
        exact Runs.head called (Runs.head sentExtra (Runs.refl _))
      · have ended := Bool.eq_false_iff.2 extra
        rw [ended] at called
        rw [if_neg extra]
        exact Runs.head called (Runs.refl _)
  | @more curWord words notRaised _ inductionHypothesis =>
      obtain ⟨lastWord, rest⟩ := inductionHypothesis curWord
      have called :
          txEngConstructPseudoPacket
              (TxPseudoPktState.behindHeader prevWord (curWord :: words)
                packets) =
            (TxPseudoPktState.behindHeader curWord words packets,
              [(pseudoPacketWord curWord prevWord).withLast false]) := by
        simp only [txEngConstructPseudoPacket,
          TxPseudoPktState.behindHeader, TxPseudoPktState.feed,
          List.cons_append, notRaised, Bool.false_eq_true, if_false,
          Bool.false_and]
      rw [headedWords, if_neg (by rw [notRaised]; decide)]
      exact ⟨lastWord, Runs.head called rest⟩

theorem runs_packets
    (prevWord : NetAXISWord) (packets : List TxPseudoPacket) :
    ∃ lastWord,
      Runs txEngConstructPseudoPacket
        (TxPseudoPktState.feed prevWord packets)
        (packets.flatMap TxPseudoPacket.written)
        (TxPseudoPktState.feed lastWord []) := by
  induction packets generalizing prevWord with
  | nil =>
      exact ⟨prevWord, Runs.refl _⟩
  | cons packet packets inductionHypothesis =>
      rw [List.flatMap_cons]
      cases packet with
      | single header =>
          obtain ⟨lastWord, rest⟩ := inductionHypothesis prevWord
          exact ⟨lastWord, Runs.head rfl rest⟩
      | withPayload header headerBytes payload words _ _ frame =>
          obtain ⟨middleWord, first⟩ :=
            runs_headedWords frame.delimited header packets
          obtain ⟨lastWord, rest⟩ := inductionHypothesis middleWord
          refine ⟨lastWord, Runs.trans ?_ rest⟩
          refine Runs.silent ?_ first
          simp only [txEngConstructPseudoPacket, TxPseudoPktState.feed,
            TxPseudoPktState.behindHeader, List.map_cons,
            List.flatMap_cons]
          rfl

theorem written_isFramedBy_iff (packet : TxPseudoPacket) :
    packet.IsFramedBy packet.written ↔ packet.Repeats := by
  cases packet with
  | single header =>
      exact ⟨fun _ => trivial, fun _ => rfl⟩
  | withPayload header headerBytes payload words holdsHeader headerLength
      frame =>
      obtain ⟨sent, sentFrame, _, _, carries⟩ :=
        headedWords_isFrame (Nat.le_of_eq headerLength.symm) holdsHeader
          frame
      rw [List.take_of_length_le (Nat.le_of_eq headerLength)] at carries
      change IsAxiFrame (headerBytes ++ payload) (headedWords header words)
        ↔ HalvesRepeat payload
      rw [← carries]
      constructor
      · intro whole
        have same :=
          sentFrame.prefix_unique NetAXISWord.holds_unique whole
            (rfl : _ ++ [] = _ ++ [])
        exact same.1
      · intro same
        rw [← same]
        exact sentFrame

/-- A frame at the start of what is written for a packet is all that is
written for it. -/
theorem isFramedBy_written_append
    {packet : TxPseudoPacket} {words rest later : List NetAXISWord}
    (framed : packet.IsFramedBy words)
    (same : words ++ rest = packet.written ++ later) :
    words = packet.written ∧ rest = later := by
  cases packet with
  | single header =>
      rw [TxPseudoPacket.IsFramedBy] at framed
      rw [framed] at same ⊢
      exact ⟨rfl, List.append_cancel_left same⟩
  | withPayload header headerBytes payload beats holdsHeader headerLength
      frame =>
      obtain ⟨sent, sentFrame, _, _, _⟩ :=
        headedWords_isFrame (Nat.le_of_eq headerLength.symm) holdsHeader
          frame
      have apart :=
        framed.prefix_unique NetAXISWord.holds_unique sentFrame same
      rw [apart.2] at same
      exact ⟨List.append_cancel_right same, apart.2⟩

theorem packetFrames_written_iff (packets : List TxPseudoPacket) :
    PacketFrames packets (packets.flatMap TxPseudoPacket.written) ↔
      ∀ packet ∈ packets, packet.Repeats := by
  induction packets with
  | nil =>
      exact ⟨fun _ _ member => (by cases member), fun _ => PacketFrames.nil⟩
  | cons packet packets inductionHypothesis =>
      rw [List.forall_mem_cons, ← inductionHypothesis,
        ← written_isFramedBy_iff, List.flatMap_cons]
      constructor
      · intro frames
        generalize writtenEq :
          packet.written ++ packets.flatMap TxPseudoPacket.written =
            stream at frames
        cases frames with
        | cons framed later =>
            obtain ⟨rfl, rfl⟩ :=
              isFramedBy_written_append framed writtenEq.symm
            exact ⟨framed, later⟩
      · rintro ⟨framed, later⟩
        exact PacketFrames.cons framed later

/-- Every packet leaves as the frame it calls for exactly when in the
payloads each beat before the final one has two equal halves; else bytes 0 to
31 of a beat are sent in place of bytes 32 to 63. -/
theorem packetFrames_iff
    (prevWord : NetAXISWord) (packets : List TxPseudoPacket) :
    (∃ written final,
        Yields txEngConstructPseudoPacket
          (TxPseudoPktState.feed prevWord packets) written final ∧
        PacketFrames packets written) ↔
      ∀ packet ∈ packets, packet.Repeats := by
  obtain ⟨lastWord, run⟩ := runs_packets prevWord packets
  rw [← packetFrames_written_iff]
  constructor
  · rintro ⟨written, final, yields, frames⟩
    rw [(yields.unique ⟨run, rfl⟩).1] at frames
    exact frames
  · intro frames
    exact ⟨_, _, ⟨run, rfl⟩, frames⟩

/-! ## A payload of two beats -/

/-- 65 bytes, of which the upper half of the first beat is not zero. -/
def twoBeatPayload : List (BitVec 8) :=
  List.replicate 32 0 ++ List.replicate 33 1

theorem twoBeatPayload_isFrame :
    IsAxiFrame twoBeatPayload
      [NetAXISWord.ofBytes (twoBeatPayload.take 64) false,
        NetAXISWord.ofBytes (twoBeatPayload.drop 64) true] := by
  have frame : IsAxiFrame
      (twoBeatPayload.take 64 ++ twoBeatPayload.drop 64) _ :=
    IsFrame.more (NetAXISWord.holds_ofBytes false (by decide)) (by decide)
      rfl
      (IsFrame.final (NetAXISWord.holds_ofBytes true (by decide))
        (by decide) (by decide) rfl)
  rw [List.take_append_drop] at frame
  exact frame

def twoBeatPacket : TxPseudoPacket :=
  .withPayload (NetAXISWord.ofBytes (List.replicate 32 0) true)
    (List.replicate 32 0) twoBeatPayload
    [NetAXISWord.ofBytes (twoBeatPayload.take 64) false,
      NetAXISWord.ofBytes (twoBeatPayload.drop 64) true]
    (NetAXISWord.holds_ofBytes true (by decide)) (by decide)
    twoBeatPayload_isFrame

theorem not_packetFrames_twoBeatPacket :
    ¬ ∃ written final,
        Yields txEngConstructPseudoPacket
          (TxPseudoPktState.feed NetAXISWord.empty [twoBeatPacket]) written
          final ∧
        PacketFrames [twoBeatPacket] written := by
  rintro ⟨written, final, yields, frames⟩
  obtain ⟨lastWord, run⟩ :=
    runs_packets NetAXISWord.empty [twoBeatPacket]
  rw [(yields.unique ⟨run, rfl⟩).1] at frames
  have repeats : HalvesRepeat twoBeatPayload :=
    (packetFrames_written_iff [twoBeatPacket]).1 frames twoBeatPacket
      List.mem_cons_self
  have halves := repeats 0 (by decide)
  exact absurd halves (by decide)

end TcpOffload
