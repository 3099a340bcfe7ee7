import TcpOffload.Checksum
import TcpOffload.RxEngine.ParseHeader

/-!
# Header records and checksums in step

`RxEngVerifyChecksumAndPort` pairs the records of `RxEngParseTcpHeader` with
the checksums of the same packets by counting: the `n`-th record with the
`n`-th checksum.
-/

namespace TcpOffload

open Clocked Framing

/-! ## `RxEngVerifyChecksumAndPort` -/

inductive RxVerifyFsmState where
  | readMetaInfo
  | readChecksum
deriving DecidableEq, Repr

structure VerifyState where
  fsmState : RxVerifyFsmState
  tcpMetaReg : TcpPseudoHeaderMeta
  tcpChecksumIn : List (BitVec 16)
  tcpMetaDataIn : List TcpPseudoHeaderMeta
deriving DecidableEq, Repr

inductive VerifyMsg where
  | metaDataOut (segMeta : TcpPseudoHeaderMeta)
  | checkReq (port : TcpPortNumber)
  | droppedByChecksum (drop : Bool)
deriving DecidableEq, Repr

def VerifyMsg.toMeta : VerifyMsg → Option TcpPseudoHeaderMeta
  | .metaDataOut segMeta => some segMeta
  | _ => none

def VerifyMsg.toCheckReq : VerifyMsg → Option TcpPortNumber
  | .checkReq port => some port
  | _ => none

/-- What the case `READ_CHECKSUM` writes. -/
def verdict (segMeta : TcpPseudoHeaderMeta) (checksum : BitVec 16) :
    List VerifyMsg :=
  (if checksum = 0 then
    [.metaDataOut segMeta, .checkReq (swapByte segMeta.destPort)]
  else
    []) ++
  if segMeta.header.payloadLength = 0 then
    []
  else
    [.droppedByChecksum (decide (checksum ≠ 0))]

def rxEngVerifyChecksumAndPort (state : VerifyState) :
    VerifyState × List VerifyMsg :=
  match state.fsmState with
  | .readMetaInfo =>
      match state.tcpMetaDataIn with
      | [] => (state, [])
      | segMeta :: later =>
          ({ state with
              fsmState := .readChecksum
              tcpMetaReg := segMeta
              tcpMetaDataIn := later }, [])
  | .readChecksum =>
      match state.tcpChecksumIn with
      | [] => (state, [])
      | checksum :: later =>
          ({ state with
              fsmState := .readMetaInfo
              tcpChecksumIn := later },
            verdict state.tcpMetaReg checksum)

/-- Records and checksums are paired in order. -/
theorem yields_verify
    (pairs : List (TcpPseudoHeaderMeta × BitVec 16))
    (reg : TcpPseudoHeaderMeta) :
    ∃ lastReg,
      Yields rxEngVerifyChecksumAndPort
        ⟨.readMetaInfo, reg, pairs.map Prod.snd, pairs.map Prod.fst⟩
        (pairs.flatMap fun pair => verdict pair.1 pair.2)
        ⟨.readMetaInfo, lastReg, [], []⟩ := by
  induction pairs generalizing reg with
  | nil =>
      exact ⟨reg, Runs.refl _, rfl⟩
  | cons pair pairs inductionHypothesis =>
      obtain ⟨segMeta, checksum⟩ := pair
      obtain ⟨lastReg, rest⟩ := inductionHypothesis segMeta
      have exchange :
          Runs rxEngVerifyChecksumAndPort
            ⟨.readMetaInfo, reg, checksum :: pairs.map Prod.snd,
              segMeta :: pairs.map Prod.fst⟩
            (verdict segMeta checksum ++ [])
            ⟨.readMetaInfo, segMeta, pairs.map Prod.snd,
              pairs.map Prod.fst⟩ := by
        refine Runs.silent rfl ?_
        exact Runs.head rfl (Runs.refl _)
      rw [List.append_nil] at exchange
      exact ⟨lastReg, Yields.prepend exchange rest⟩

/-! ## Sequences of packets -/

/-- A segment behind its pseudo header: at least one beat, `last` on the
final beat only. -/
structure PseudoPacket where
  first : NetAXISWord
  rest : List NetAXISWord
  delimited : Delimited NetAXISWord.last (first :: rest)

namespace PseudoPacket

def words (packet : PseudoPacket) : List NetAXISWord :=
  packet.first :: packet.rest

/-- The checksum of the packet's own beats. -/
def checksum (packet : PseudoPacket) : BitVec 16 :=
  checkChecksum (frameSubChecksum packet.words)

/-- The packet does not continue behind a first beat that announces no
payload. -/
def EndsWithHeader (packet : PseudoPacket) : Prop :=
  packet.first.tcpPayloadLength = 0 → packet.rest = []

end PseudoPacket

/-- One frame for each packet with payload, in the order of the packets. -/
inductive PayloadFrames : List PseudoPacket → List NetAXISWord → Prop
  | nil : PayloadFrames [] []
  | withPayload
      {packet : PseudoPacket} {packets : List PseudoPacket}
      {frame later : List NetAXISWord} :
      packet.first.tcpPayloadLength ≠ 0 →
      Delimited NetAXISWord.last frame →
      PayloadFrames packets later →
      PayloadFrames (packet :: packets) (frame ++ later)
  | withoutPayload
      {packet : PseudoPacket} {packets : List PseudoPacket}
      {later : List NetAXISWord} :
      packet.first.tcpPayloadLength = 0 →
      PayloadFrames packets later →
      PayloadFrames (packet :: packets) later

/-- One record for each packet, one frame for each payload, and every record
meets the checksum of its own packet.  On the way to the checksums
`RxEngParseTcpHeaderOptions` replaces a record by one that it computes from
that record alone; any such replacement is allowed. -/
structure ParsesInStep
    (packets : List PseudoPacket) (msgs : List ParseMsg) : Prop where
  oneRecord :
    segMetas msgs = packets.map fun packet => packet.first.tcpSegMeta
  oneFrame : PayloadFrames packets (payloadWords msgs)
  ownChecksum :
    ∀ (parseOptions : TcpPseudoHeaderMeta → TcpPseudoHeaderMeta)
      (reg : TcpPseudoHeaderMeta),
      ∃ sums lastReg,
        Yields computeSubChecksum
          ⟨SubChecksum.zero, packets.flatMap PseudoPacket.words⟩ sums
          ⟨SubChecksum.zero, []⟩ ∧
        Yields rxEngVerifyChecksumAndPort
          ⟨.readMetaInfo, reg, sums.map checkChecksum,
            (segMetas msgs).map parseOptions⟩
          (packets.flatMap fun packet =>
            verdict (parseOptions packet.first.tcpSegMeta)
              packet.checksum)
          ⟨.readMetaInfo, lastReg, [], []⟩

theorem yields_packets
    (packets : List PseudoPacket)
    (prevWord : NetAXISWord) (offset : BitVec 6) :
    ∃ lastWord lastOffset,
      Yields rxEngParseTcpHeader
        (ParseState.idle prevWord offset
          (packets.flatMap PseudoPacket.words))
        (packets.flatMap fun packet => parsedMsgs packet.words)
        (ParseState.idle lastWord lastOffset []) := by
  induction packets generalizing prevWord offset with
  | nil =>
      exact ⟨prevWord, offset, Runs.refl _, rfl⟩
  | cons packet packets inductionHypothesis =>
      obtain ⟨nextWord, nextOffset, first⟩ :=
        @runs_packet prevWord offset packet.words
          (packets.flatMap PseudoPacket.words) packet.delimited
      obtain ⟨lastWord, lastOffset, rest⟩ :=
        inductionHypothesis nextWord nextOffset
      exact ⟨lastWord, lastOffset, Yields.prepend first rest⟩

theorem segMetas_packets_cons
    (packet : PseudoPacket) (packets : List PseudoPacket) :
    segMetas
        ((packet :: packets).flatMap fun each => parsedMsgs each.words) =
      segMetas (parsedMsgs packet.words) ++
        segMetas (packets.flatMap fun each => parsedMsgs each.words) := by
  rw [List.flatMap_cons, segMetas_append]

/-- A packet is never without a record. -/
theorem packets_length_le (packets : List PseudoPacket) :
    packets.length ≤
      (segMetas
        (packets.flatMap fun packet => parsedMsgs packet.words)).length := by
  induction packets with
  | nil =>
      exact Nat.le_refl _
  | cons packet packets inductionHypothesis =>
      rw [segMetas_packets_cons, PseudoPacket.words, segMetas_parsedMsgs,
        List.length_append, List.length_cons, List.length_cons]
      omega

/-- The records are those of the first beats exactly when no packet goes on
behind a header without payload. -/
theorem segMetas_packets_iff (packets : List PseudoPacket) :
    segMetas (packets.flatMap fun packet => parsedMsgs packet.words) =
        packets.map (fun packet => packet.first.tcpSegMeta) ↔
      ∀ packet ∈ packets, packet.EndsWithHeader := by
  induction packets with
  | nil =>
      exact ⟨fun _ _ member => (by cases member), fun _ => rfl⟩
  | cons packet packets inductionHypothesis =>
      rw [segMetas_packets_cons, List.forall_mem_cons,
        ← inductionHypothesis, PseudoPacket.EndsWithHeader,
        ← segMetas_parsedMsgs_eq_single_iff, PseudoPacket.words,
        List.map_cons]
      constructor
      · intro same
        have atLeast := packets_length_le packets
        rw [segMetas_parsedMsgs] at same ⊢
        generalize (if packet.first.tcpPayloadLength = 0 then
          segMetas (parsedMsgs packet.rest) else []) = more at same ⊢
        rw [List.cons_append, List.cons.injEq] at same
        have counts := congrArg List.length same.2
        rw [List.length_append, List.length_map] at counts
        have noMore : more = [] :=
          List.eq_nil_of_length_eq_zero (by omega)
        rw [noMore] at same ⊢
        exact ⟨rfl, same.2⟩
      · rintro ⟨single, rest⟩
        rw [single, rest]
        rfl

theorem payloadFrames_packets
    {packets : List PseudoPacket}
    (endWithHeader : ∀ packet ∈ packets, packet.EndsWithHeader) :
    PayloadFrames packets
      (payloadWords
        (packets.flatMap fun packet => parsedMsgs packet.words)) := by
  induction packets with
  | nil =>
      exact PayloadFrames.nil
  | cons packet packets inductionHypothesis =>
      have rest :=
        inductionHypothesis fun other member =>
          endWithHeader other (List.mem_cons_of_mem packet member)
      rw [List.flatMap_cons, payloadWords_append, PseudoPacket.words,
        payloadWords_parsedMsgs (endWithHeader packet List.mem_cons_self)]
      by_cases none : packet.first.tcpPayloadLength = 0
      · rw [if_pos none]
        exact PayloadFrames.withoutPayload none rest
      · rw [if_neg none]
        exact PayloadFrames.withPayload none realign_delimited rest

/-- With one record for each packet, every record meets its checksum. -/
theorem verify_packets
    (packets : List PseudoPacket)
    (parseOptions : TcpPseudoHeaderMeta → TcpPseudoHeaderMeta)
    (reg : TcpPseudoHeaderMeta) :
    ∃ sums lastReg,
      Yields computeSubChecksum
        ⟨SubChecksum.zero, packets.flatMap PseudoPacket.words⟩ sums
        ⟨SubChecksum.zero, []⟩ ∧
      Yields rxEngVerifyChecksumAndPort
        ⟨.readMetaInfo, reg, sums.map checkChecksum,
          (packets.map fun packet => packet.first.tcpSegMeta).map
            parseOptions⟩
        (packets.flatMap fun packet =>
          verdict (parseOptions packet.first.tcpSegMeta) packet.checksum)
        ⟨.readMetaInfo, lastReg, [], []⟩ := by
  have delimited :
      ∀ words ∈ packets.map PseudoPacket.words,
        Delimited NetAXISWord.last words := by
    intro words member
    obtain ⟨packet, _, rfl⟩ := List.mem_map.1 member
    exact packet.delimited
  have summed := yields_computeSubChecksum delimited
  obtain ⟨lastReg, paired⟩ :=
    yields_verify
      (packets.map fun packet =>
        (parseOptions packet.first.tcpSegMeta, packet.checksum)) reg
  rw [List.flatMap_map] at paired
  refine
    ⟨(packets.map PseudoPacket.words).map frameSubChecksum, lastReg, ?_,
      ?_⟩
  · rw [List.flatMap_def]
    exact summed
  · simpa [Function.comp_def, PseudoPacket.checksum] using paired

/-- Records, payload frames and checksums of a sequence of packets keep in
step exactly when every packet without payload is a single beat. -/
theorem parsesInStep_iff
    (packets : List PseudoPacket)
    (prevWord : NetAXISWord) (offset : BitVec 6) :
    (∃ msgs final,
        Yields rxEngParseTcpHeader
          (ParseState.idle prevWord offset
            (packets.flatMap PseudoPacket.words)) msgs final ∧
        ParsesInStep packets msgs) ↔
      ∀ packet ∈ packets, packet.EndsWithHeader := by
  obtain ⟨lastWord, lastOffset, yields⟩ :=
    yields_packets packets prevWord offset
  constructor
  · rintro ⟨msgs, final, run, inStep⟩
    have records := inStep.oneRecord
    rw [(run.unique yields).1] at records
    exact (segMetas_packets_iff packets).1 records
  · intro endWithHeader
    have records := (segMetas_packets_iff packets).2 endWithHeader
    refine ⟨_, _, yields, records, payloadFrames_packets endWithHeader, ?_⟩
    rw [records]
    exact verify_packets packets

/-! ## A header of two beats -/

/-- A TCP header of 56 bytes, no payload: behind the pseudo header it takes
68 bytes. -/
def longHeader : PseudoPacket where
  first :=
    ⟨0x38 <<< 88 ||| 0xE <<< 196, 0, BitVec.allOnes 64, false⟩
  rest := [⟨0, 0, 0xF, true⟩]
  delimited := Delimited.more rfl (Delimited.final rfl)

theorem not_parsesInStep_longHeader :
    ¬ ∃ msgs final,
        Yields rxEngParseTcpHeader
          (ParseState.idle NetAXISWord.empty 0 longHeader.words) msgs
          final ∧
        ParsesInStep [longHeader] msgs := by
  rintro ⟨msgs, final, run, inStep⟩
  obtain ⟨lastWord, lastOffset, yields⟩ :=
    yields_packets [longHeader] NetAXISWord.empty 0
  have records := inStep.oneRecord
  rw [(run.unique yields).1] at records
  have ends :=
    (segMetas_packets_iff [longHeader]).1 records longHeader
      List.mem_cons_self (by decide +kernel)
  cases ends

end TcpOffload
