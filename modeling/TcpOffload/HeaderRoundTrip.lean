import TcpOffload.HeaderRoundTrip.HeaderBytes
import TcpOffload.RxEngine.VerifyChecksum
import TcpOffload.TxEngine.PseudoHeaderRemover
import TcpOffload.TxEngine.SegmentFrames

/-!
# The headers of segments without payload, sent and received

Segments without payload on their way from `TxEngPseudoFullHeaderConstruct` to
`TxEngConstructIpv4Packet`, and back from `RxEngTcpPseudoHeaderInsert` to
`RxEngParseTcpHeaderOptions`.
-/

namespace TcpOffload

open Clocked Framing Guarded

namespace HeaderItem

variable (item : HeaderItem)

/-! ## The packet of a segment -/

/-- What `TxEngConstructIpv4Header` writes. -/
def ipv4Word : NetAXISWord :=
  ipv4Header item.segment.length item.tuple.ipPair

theorem ipv4Word_field {start width : Nat} (inside : start + width ≤ 512) :
    item.ipv4Word.data.extractLsb' start width =
      (item.tuple.dstIpAddr ++ item.tuple.srcIpAddr ++ (0 : BitVec 16) ++
        (0x06 : BitVec 8) ++ (0x40 : BitVec 8) ++ (0 : BitVec 32) ++
        swapByte (item.segment.length + 40) ++ (0 : BitVec 8) ++
        (0x45 : BitVec 8)).extractLsb' start width := by
  simp only [ipv4Word, ipv4Header]
  rw [BitVec.extractLsb'_setWidth_of_le inside]
  rfl

theorem ipv4Word_version : item.ipv4Word.byte 0 = 0x45 := by
  rw [NetAXISWord.byte, ipv4Word_field item (by decide)]
  simp (disch := decide) only [BitVec.extractLsb'_append_eq_of_add_le,
    BitVec.extractLsb'_eq_self, Nat.mul_zero]

theorem ipv4Word_length :
    item.ipv4Word.byte 2 ++ item.ipv4Word.byte 3 =
      item.segment.length + 40 := by
  have field :
      item.ipv4Word.data.extractLsb' (8 * 2) 16 =
        swapByte (item.segment.length + 40) := by
    rw [ipv4Word_field item (by decide)]
    simp (disch := decide) only [BitVec.extractLsb'_append_eq_of_le,
      BitVec.extractLsb'_append_eq_of_add_le, Nat.reduceMul, Nat.reduceSub,
      BitVec.extractLsb'_eq_self]
  rw [← NetAXISWord.swapByte_lanes, field, swapByte_swapByte_sixteen]

theorem ipv4Word_srcIp :
    item.ipv4Word.data.extractLsb' 96 32 = item.tuple.srcIpAddr := by
  rw [ipv4Word_field item (by decide)]
  simp (disch := decide) only [BitVec.extractLsb'_append_eq_of_le,
    BitVec.extractLsb'_append_eq_of_add_le, Nat.reduceSub,
    BitVec.extractLsb'_eq_self]

theorem ipv4Word_destIp :
    item.ipv4Word.data.extractLsb' 128 32 = item.tuple.dstIpAddr := by
  rw [ipv4Word_field item (by decide)]
  simp (disch := decide) only [BitVec.extractLsb'_append_eq_of_le,
    Nat.reduceSub, BitVec.extractLsb'_eq_self]

theorem ipv4Word_holds :
    item.ipv4Word.Holds (item.ipv4Word.firstBytes 20) := by
  have keep : item.ipv4Word.keep = 0xFFFFF := rfl
  refine NetAXISWord.holds_firstBytes (by decide) ?_
  rw [keep]
  decide

/-- What `TxEngConstructIpv4Packet` reads for the segment. -/
def ipv4Segment : Ipv4Segment where
  header := item.ipv4Word.firstBytes 20
  checksum := internetChecksum item.bytes
  tcpBytes := item.bytes.drop 12
  headerLength := item.ipv4Word.length_firstBytes 20
  atLeastTcpHeader := by
    rw [List.length_drop, length_bytes]
    omega

theorem ipv4Segment_kept : item.ipv4Segment.Kept := by
  have short := length_le item
  have length := item.length_bytes
  constructor
  · have urgent : item.bytes.getD 30 0 = 0 := by
      rw [List.getD_eq_getElem?_getD,
        List.getElem?_eq_getElem (by omega), Option.getD_some]
      exact
        (item.header.getElem_firstBytes _).trans
          (header_byte_zero item (by decide) (by decide))
    have behind :
        (item.bytes.drop 12).getD 18 0 = item.bytes.getD 30 0 := by
      rw [List.getD_eq_getElem?_getD, List.getElem?_drop,
        ← List.getD_eq_getElem?_getD]
    rw [ipv4Segment, behind, urgent]
    rfl
  · left
    rw [ipv4Segment, List.length_drop]
    omega

/-- The bytes of the IP packet. -/
def ipBytes : List (BitVec 8) :=
  item.ipv4Segment.packet

theorem ipBytes_eq :
    item.ipBytes =
      item.ipv4Word.firstBytes 20 ++
        setField (item.bytes.drop 12) 8 (internetChecksum item.bytes) :=
  rfl

theorem length_ipBytes :
    item.ipBytes.length = 40 + item.segment.length.toNat := by
  rw [ipBytes_eq, List.length_append, NetAXISWord.length_firstBytes,
    length_setField, List.length_drop, length_bytes]
  omega

theorem getD_ipBytes {lane : Nat} (inHeader : lane < 20) :
    item.ipBytes.getD lane 0 = item.ipv4Word.byte lane := by
  have inside : lane < (item.ipv4Word.firstBytes 20).length := by
    rw [NetAXISWord.length_firstBytes]
    exact inHeader
  rw [ipBytes_eq, List.getD_eq_getElem?_getD,
    List.getElem?_append_left inside, List.getElem?_eq_getElem inside,
    Option.getD_some, NetAXISWord.getElem_firstBytes]

theorem ipBytes_headerLength :
    (item.ipBytes.getD 0 0).extractLsb' 0 4 = 5 := by
  rw [getD_ipBytes item (by decide), ipv4Word_version]
  decide

/-- What `RxEngTcpPseudoHeaderInsert` reads for the segment. -/
def rxPacket : RxIpPacket where
  bytes := item.ipBytes
  atLeastFive := by
    rw [ipBytes_headerLength]
    decide
  holdsHeader := by
    rw [ipBytes_headerLength, length_ipBytes]
    exact Nat.le_trans (by decide) (Nat.le_add_right 40 _)
  delivered := by
    have short := length_le item
    have forty : (40 : BitVec 16).toNat = 40 := rfl
    rw [getD_ipBytes item (by decide), getD_ipBytes item (by decide),
      ipv4Word_length, length_ipBytes, BitVec.toNat_add]
    omega

theorem rxPacket_headerLength : item.rxPacket.headerLength = 5 :=
  item.ipBytes_headerLength

theorem rxPacket_aligned : item.rxPacket.Aligned := by
  intro nine
  rw [rxPacket_headerLength] at nine
  cases nine

theorem rxPacket_segmentLength :
    item.rxPacket.segmentLength = item.segment.length + 0x14 := by
  have short := length_le item
  have length : item.rxPacket.bytes.length = 40 + item.segment.length.toNat :=
    item.length_ipBytes
  rw [RxIpPacket.segmentLength, rxPacket_headerLength, length]
  apply BitVec.eq_of_toNat_eq
  have five : (5 : BitVec 4).toNat = 5 := rfl
  have twenty : (0x14 : BitVec 16).toNat = 20 := rfl
  rw [BitVec.toNat_ofNat, BitVec.toNat_add, five, twenty]
  omega

/-- The pseudo header that the TX engine has written. -/
theorem bytes_take :
    item.bytes.take 12 =
      pseudoHeaderBytes item.tuple.srcIpAddr item.tuple.dstIpAddr
        (item.segment.length + 0x14) := by
  apply List.ext_getElem
  · rw [List.length_take, length_bytes, length_pseudoHeaderBytes]
    omega
  · intro lane inTaken inPseudo
    rw [length_pseudoHeaderBytes] at inPseudo
    have isByte :
        (item.bytes.take 12)[lane] = item.header.byte lane := by
      rw [List.getElem_take]
      exact item.header.getElem_firstBytes _
    rw [isByte, NetAXISWord.byte, header_pseudoField item (by omega)]
    simp only [pseudoHeaderBytes, List.getElem_map, List.getElem_range]

theorem addressBytes_word (word : NetAXISWord) (start : Nat) :
    addressBytes (word.data.extractLsb' (8 * start) 32) =
      [word.byte start, word.byte (start + 1), word.byte (start + 2),
        word.byte (start + 3)] := by
  have four : List.range 4 = [0, 1, 2, 3] := rfl
  have lane (offset : Nat) (inside : 8 * offset + 8 ≤ 32) :
      (word.data.extractLsb' (8 * start) 32).extractLsb' (8 * offset) 8 =
        word.byte (start + offset) := by
    rw [extractLsb'_extractLsb' _ inside, NetAXISWord.byte, Nat.mul_add]
  rw [addressBytes, four]
  simp only [List.map_cons, List.map_nil, lane 0 (by decide),
    lane 1 (by decide), lane 2 (by decide), lane 3 (by decide),
    Nat.add_zero]

/-- The addresses of the IPv4 header. -/
theorem ipBytes_addresses :
    (item.ipBytes.drop 12).take 8 =
      addressBytes item.tuple.srcIpAddr ++
        addressBytes item.tuple.dstIpAddr := by
  have src := addressBytes_word item.ipv4Word 12
  have dest := addressBytes_word item.ipv4Word 16
  have length := item.ipv4Word.length_firstBytes 20
  rw [ipv4Word_srcIp] at src
  rw [ipv4Word_destIp] at dest
  rw [src, dest, ipBytes_eq, List.drop_append_of_le_length (by omega),
    List.take_left' (by rw [List.length_drop, length])]
  rfl

/-- Behind the IP header the packet is the segment with its checksum. -/
theorem rxPacket_pseudoPacket : item.rxPacket.pseudoPacket = item.sent := by
  have length := item.length_bytes
  have headLength : (item.bytes.take 12).length = 2 * 6 := by
    rw [List.length_take]
    omega
  have segment :
      item.ipBytes.drop (4 * (5 : BitVec 4).toNat) =
        setField (item.bytes.drop 12) 8 (internetChecksum item.bytes) := by
    rw [ipBytes_eq]
    exact List.drop_left' (item.ipv4Word.length_firstBytes 20)
  have sentIs :
      item.sent =
        item.bytes.take 12 ++
          setField (item.bytes.drop 12) 8
            (internetChecksum item.bytes) := by
    have split :=
      setField_append headLength (item.bytes.drop 12) 8
        (internetChecksum item.bytes)
    rw [List.take_append_drop] at split
    exact split
  have isBytes : item.rxPacket.bytes = item.ipBytes := rfl
  rw [RxIpPacket.pseudoPacket, rxPacket_headerLength,
    rxPacket_segmentLength, isBytes, ipBytes_addresses, segment, sentIs,
    bytes_take, pseudoHeaderBytes_eq]

end HeaderItem
/-! ## The whole way -/

/-- What the modules write one after the other. -/
structure HeaderTrip where
  headers : List (NetAXISWord × Bool)
  pseudoPackets : List NetAXISWord
  subChecksums : List SubChecksum
  tcpPackets : List NetAXISWord
  ipv4Headers : List NetAXISWord
  ipPackets : List NetAXISWord
  rxPseudoPackets : List NetAXISWord
  rxSubChecksums : List SubChecksum
  parsed : List ParseMsg
  records : List TcpPseudoHeaderMeta

/-- Each module is fed with what the ones before it write, until it is idle;
its registers hold anything from earlier packets. -/
structure HeaderTrip.Carries
    (trip : HeaderTrip) (items : List HeaderItem) : Prop where
  headers :
    ∃ final,
      Yields txEngPseudoFullHeaderConstruct
        ⟨items.map HeaderItem.segment, items.map HeaderItem.tuple⟩
        trip.headers final
  pseudoPackets :
    ∃ prevWord payload final,
      Yields txEngConstructPseudoPacket
        ⟨.readPseudo, prevWord, trip.headers.map Prod.fst,
          trip.headers.map Prod.snd, payload⟩
        trip.pseudoPackets final
  subChecksums :
    ∃ final,
      Yields computeSubChecksum ⟨SubChecksum.zero, trip.pseudoPackets⟩
        trip.subChecksums final
  tcpPackets :
    ∃ prevWord final,
      Yields txEngRemovePseudoHeader
        ⟨.read, prevWord, trip.pseudoPackets⟩ trip.tcpPackets final
  ipv4Headers :
    ∃ final,
      Yields txEngConstructIpv4Header
        ⟨items.map fun item => item.segment.length,
          items.map fun item => item.tuple.ipPair⟩
        trip.ipv4Headers final
  ipPackets :
    ∃ prevWord final,
      Yields txEngConstructIpv4Packet
        ⟨.readFirst, prevWord, trip.ipv4Headers,
          trip.subChecksums.map checkChecksum, trip.tcpPackets⟩
        trip.ipPackets final
  rxPseudoPackets :
    ∃ (regs : InsertState) (final : InsertState),
      Yields rxEngTcpPseudoHeaderInsert (regs.idle trip.ipPackets)
        trip.rxPseudoPackets final
  rxSubChecksums :
    ∃ final,
      Yields computeSubChecksum ⟨SubChecksum.zero, trip.rxPseudoPackets⟩
        trip.rxSubChecksums final
  parsed :
    ∃ prevWord offset final,
      Yields rxEngParseTcpHeader
        (ParseState.idle prevWord offset trip.rxPseudoPackets)
        trip.parsed final
  records :
    ∃ regs final : ParseOptionsState,
      regs.fsmState = .readMeta ∧
        Yields rxEngParseTcpHeaderOptions
          { regs with tcpMetaDataIn := segMetas trip.parsed }
          trip.records final

section Trip

theorem yields_fullHeaders (items : List HeaderItem) :
    Yields txEngPseudoFullHeaderConstruct
      ⟨items.map HeaderItem.segment, items.map HeaderItem.tuple⟩
      (items.map fun item => (item.header, false)) ⟨[], []⟩ := by
  induction items with
  | nil =>
      exact ⟨Runs.refl _, rfl⟩
  | cons item items inductionHypothesis =>
      have called :
          txEngPseudoFullHeaderConstruct
              ⟨(item :: items).map HeaderItem.segment,
                (item :: items).map HeaderItem.tuple⟩ =
            (⟨items.map HeaderItem.segment, items.map HeaderItem.tuple⟩,
              [(item.header, false)]) := by
        simp only [txEngPseudoFullHeaderConstruct, List.map_cons,
          HeaderItem.noPayload, HeaderItem.header]
      exact Yields.prepend (Runs.single called) inductionHypothesis

theorem yields_ipv4Headers (items : List HeaderItem) :
    Yields txEngConstructIpv4Header
      ⟨items.map fun item => item.segment.length,
        items.map fun item => item.tuple.ipPair⟩
      (items.map HeaderItem.ipv4Word) ⟨[], []⟩ := by
  induction items with
  | nil =>
      exact ⟨Runs.refl _, rfl⟩
  | cons item items inductionHypothesis =>
      have called :
          txEngConstructIpv4Header
              ⟨(item :: items).map fun item => item.segment.length,
                (item :: items).map fun item => item.tuple.ipPair⟩ =
            (⟨items.map fun item => item.segment.length,
                items.map fun item => item.tuple.ipPair⟩,
              [item.ipv4Word]) :=
        rfl
      exact Yields.prepend (Runs.single called) inductionHypothesis

/-- Headers without payload pass unchanged. -/
theorem yields_pseudoPackets
    (items : List HeaderItem) (prevWord : NetAXISWord)
    (payload : List NetAXISWord) :
    Yields txEngConstructPseudoPacket
      ⟨.readPseudo, prevWord, items.map HeaderItem.header,
        items.map fun _ => false, payload⟩
      (items.map HeaderItem.header)
      ⟨.readPseudo, prevWord, [], [], payload⟩ := by
  induction items with
  | nil =>
      exact ⟨Runs.refl _, rfl⟩
  | cons item items inductionHypothesis =>
      have called :
          txEngConstructPseudoPacket
              ⟨.readPseudo, prevWord, (item :: items).map HeaderItem.header,
                (item :: items).map fun _ => false, payload⟩ =
            (⟨.readPseudo, prevWord, items.map HeaderItem.header,
                items.map fun _ => false, payload⟩,
              [item.header]) :=
        rfl
      exact Yields.prepend (Runs.single called) inductionHypothesis

theorem headers_frames (items : List HeaderItem) :
    AxiFrames (items.map HeaderItem.bytes)
      (items.map HeaderItem.header) := by
  induction items with
  | nil =>
      exact Frames.nil
  | cons item items inductionHypothesis =>
      have nonempty : item.bytes ≠ [] := by
        intro none
        have noBytes := congrArg List.length none
        rw [HeaderItem.length_bytes, List.length_nil] at noBytes
        omega
      have holds := item.header_holds
      exact
        Frames.cons (IsFrame.final holds nonempty holds.fits rfl)
          inductionHypothesis

/-- Single beats without payload are parsed one after the other. -/
theorem yields_parsedHeaders
    {words : List NetAXISWord}
    (headers :
      ∀ word ∈ words, word.last = true ∧ word.tcpPayloadLength = 0)
    (prevWord : NetAXISWord) (offset : BitVec 6) :
    ∃ final,
      Yields rxEngParseTcpHeader (ParseState.idle prevWord offset words)
        (words.map fun word => ParseMsg.metaData word.tcpSegMeta)
        final := by
  induction words generalizing prevWord offset with
  | nil =>
      exact ⟨_, Runs.refl _, rfl⟩
  | cons word words inductionHypothesis =>
      obtain ⟨⟨raised, noPayload⟩, others⟩ :=
        List.forall_mem_cons.1 headers
      obtain ⟨lastWord, lastOffset, run⟩ :=
        @runs_packet prevWord offset [word] words
          (Delimited.final raised)
      obtain ⟨final, yields⟩ :=
        inductionHypothesis others lastWord lastOffset
      rw [parsedMsgs, if_pos noPayload] at run
      exact ⟨final, Yields.prepend run yields⟩

/-- Each record is parsed with the options of its own segment. -/
theorem yields_records
    {items : List HeaderItem} {words : List NetAXISWord}
    (holds :
      List.Forall₂ (fun item word => word.Holds (HeaderItem.sent item))
        items words)
    (regs : ParseOptionsState) (reads : regs.fsmState = .readMeta) :
    ∃ records final,
      Yields rxEngParseTcpHeaderOptions
          { regs with
            tcpMetaDataIn := words.map NetAXISWord.tcpSegMeta }
          records final ∧
        List.Forall₂
          (fun item record => item.Restored item.announced record) items
          records := by
  induction holds generalizing regs with
  | nil =>
      exact
        ⟨[], _, ⟨Runs.refl _, TcpPseudoHeaderMeta.idle_options reads rfl⟩,
          List.Forall₂.nil⟩
  | @cons item word items words wordHolds _ inductionHypothesis =>
      obtain ⟨next, run, isRead, sameIn⟩ :=
        TcpPseudoHeaderMeta.runs_segMeta
          (item.holdsOptions wordHolds).lists regs reads
          (words.map NetAXISWord.tcpSegMeta)
      obtain ⟨records, final, yields, restored⟩ :=
        inductionHypothesis next isRead
      rw [← sameIn] at yields
      exact
        ⟨_, final, Yields.prepend run yields,
          List.Forall₂.cons (item.restored_record wordHolds) restored⟩

theorem yields_tcpPackets
    (items : List HeaderItem) (prevWord : NetAXISWord) :
    ∃ out final,
      Yields txEngRemovePseudoHeader
        ⟨.read, prevWord, items.map HeaderItem.header⟩ out final ∧
      AxiFrames (items.map fun item => item.ipv4Segment.tcpBytes)
        out := by
  have longer :
      ∀ bytes ∈ items.map HeaderItem.bytes, 12 < bytes.length := by
    intro bytes member
    obtain ⟨item, _, rfl⟩ := List.mem_map.1 member
    rw [HeaderItem.length_bytes]
    omega
  obtain ⟨out, final, yields, frames⟩ :=
    yields_removePseudoHeader (headers_frames items) longer prevWord
  rw [List.map_map] at frames
  exact ⟨out, final, yields, frames⟩

theorem yields_ipPackets
    {items : List HeaderItem} {tcpPackets : List NetAXISWord}
    (frames :
      AxiFrames (items.map fun item => item.ipv4Segment.tcpBytes)
        tcpPackets)
    (prevWord : NetAXISWord) :
    ∃ out final,
      Yields txEngConstructIpv4Packet
        ⟨.readFirst, prevWord, items.map HeaderItem.ipv4Word,
          items.map fun item => internetChecksum item.bytes, tcpPackets⟩
        out final ∧
      AxiFrames (items.map HeaderItem.ipBytes) out := by
  have holds :
      List.Forall₂
        (fun word segment => word.Holds (Ipv4Segment.header segment))
        (items.map HeaderItem.ipv4Word)
        (items.map HeaderItem.ipv4Segment) := by
    rw [List.forall₂_map_left_iff, List.forall₂_map_right_iff,
      List.forall₂_same]
    exact fun item _ => item.ipv4Word_holds
  rw [← Function.comp_def Ipv4Segment.tcpBytes, ← List.map_map] at frames
  obtain ⟨out, final, yields, whole⟩ :=
    ipv4Packets_frames_iff holds frames prevWord
  have kept :
      ∀ segment ∈ items.map HeaderItem.ipv4Segment, segment.Kept := by
    intro segment member
    obtain ⟨item, _, rfl⟩ := List.mem_map.1 member
    exact item.ipv4Segment_kept
  have packets := whole.2 kept
  rw [List.map_map] at yields packets
  exact ⟨out, final, yields, packets⟩

theorem yields_rxPseudoPackets
    {items : List HeaderItem} {ipPackets : List NetAXISWord}
    (frames : AxiFrames (items.map HeaderItem.ipBytes) ipPackets)
    (regs : InsertState) :
    ∃ out final,
      Yields rxEngTcpPseudoHeaderInsert (regs.idle ipPackets) out final ∧
      AxiFrames (items.map HeaderItem.sent) out := by
  have isBytes :
      items.map HeaderItem.ipBytes =
        (items.map HeaderItem.rxPacket).map RxIpPacket.bytes := by
    rw [List.map_map]
    rfl
  rw [isBytes] at frames
  obtain ⟨out, final, yields, whole⟩ := pseudoPackets_frames_iff frames regs
  have aligned :
      ∀ packet ∈ items.map HeaderItem.rxPacket, packet.Aligned := by
    intro packet member
    obtain ⟨item, _, rfl⟩ := List.mem_map.1 member
    exact item.rxPacket_aligned
  have packets := whole.2 aligned
  have isSent :
      (items.map HeaderItem.rxPacket).map RxIpPacket.pseudoPacket =
        items.map HeaderItem.sent := by
    rw [List.map_map]
    exact List.map_congr_left fun item _ => item.rxPacket_pseudoPacket
  rw [isSent] at packets
  exact ⟨out, final, yields, packets⟩

/-- The words that reach the parser. -/
theorem words_of_sent
    {items : List HeaderItem} {words : List NetAXISWord}
    (frames : AxiFrames (items.map HeaderItem.sent) words) :
    List.Forall₂ (fun item word => word.Holds (HeaderItem.sent item)) items
        words ∧
      ∀ word ∈ words, word.last = true ∧ word.tcpPayloadLength = 0 := by
  have short :
      ∀ bytes ∈ items.map HeaderItem.sent, bytes.length ≤ 64 := by
    intro bytes member
    obtain ⟨item, _, rfl⟩ := List.mem_map.1 member
    have atMost := item.length_le
    rw [HeaderItem.length_sent]
    omega
  have each := frames.beats_of_short short
  rw [List.forall₂_map_left_iff] at each
  refine ⟨each.imp fun _ _ both => both.1, ?_⟩
  clear frames short
  induction each with
  | nil =>
      exact fun word member => by cases member
  | cons both _ inductionHypothesis =>
      have received := HeaderItem.tcpSegMeta_received both.1
      have noPayload :=
        congrArg (fun segMeta => segMeta.header.payloadLength) received
      exact
        List.forall_mem_cons.2
          ⟨⟨both.2, noPayload.trans (HeaderItem.header_payloadLength _)⟩,
            inductionHypothesis⟩

theorem segMetas_parsedHeaders (words : List NetAXISWord) :
    segMetas (words.map fun word => ParseMsg.metaData word.tcpSegMeta) =
      words.map NetAXISWord.tcpSegMeta := by
  induction words with
  | nil =>
      rfl
  | cons word words inductionHypothesis =>
      exact congrArg (word.tcpSegMeta :: ·) inductionHypothesis

theorem payloadWords_parsedHeaders (words : List NetAXISWord) :
    payloadWords
        (words.map fun word => ParseMsg.metaData word.tcpSegMeta) =
      [] := by
  induction words with
  | nil =>
      rfl
  | cons word words inductionHypothesis =>
      exact inductionHypothesis

end Trip

/-- The checksums of the received segments are 0, and the records are those of
the segments, with the window scale that the header of each announces. -/
structure HeaderTrip.Restores
    (trip : HeaderTrip) (items : List HeaderItem) : Prop where
  checksums :
    trip.rxSubChecksums.map checkChecksum = items.map fun _ => 0
  records :
    List.Forall₂ (fun item record => item.Restored item.announced record)
      items trip.records
  noPayload : payloadWords trip.parsed = []

theorem exists_trip (items : List HeaderItem) :
    ∃ trip : HeaderTrip, trip.Carries items := by
  obtain ⟨sums, summed, checksums⟩ :=
    yields_frameChecksums (headers_frames items)
  obtain ⟨tcpPackets, _, removed, tcpFrames⟩ :=
    yields_tcpPackets items NetAXISWord.empty
  obtain ⟨ipPackets, _, packed, ipFrames⟩ :=
    yields_ipPackets tcpFrames NetAXISWord.empty
  obtain ⟨rxPackets, _, inserted, rxFrames⟩ :=
    yields_rxPseudoPackets ipFrames InsertState.start
  obtain ⟨rxSums, rxSummed, _⟩ := yields_frameChecksums rxFrames
  obtain ⟨holds, single⟩ := words_of_sent rxFrames
  obtain ⟨_, parsed⟩ := yields_parsedHeaders single NetAXISWord.empty 0
  obtain ⟨records, _, recorded, _⟩ :=
    yields_records holds
      ⟨.readMeta, NetAXISWord.empty.tcpSegMeta, 0, 0, []⟩ rfl
  have tcpChecksums :
      sums.map checkChecksum =
        items.map fun item => internetChecksum item.bytes := by
    rw [checksums, List.map_map]
    rfl
  rw [← tcpChecksums] at packed
  rw [← segMetas_parsedHeaders rxPackets] at recorded
  refine
    ⟨⟨_, _, sums, tcpPackets, _, ipPackets, rxPackets, rxSums, _,
        records⟩,
      ⟨⟨_, yields_fullHeaders items⟩,
        ⟨NetAXISWord.empty, [],
          ⟨.readPseudo, NetAXISWord.empty, [], [], []⟩, ?_⟩,
        ⟨_, summed⟩, ⟨_, _, removed⟩,
        ⟨_, yields_ipv4Headers items⟩, ⟨_, _, packed⟩, ⟨_, _, inserted⟩,
        ⟨_, rxSummed⟩, ⟨_, _, _, parsed⟩, ⟨_, _, rfl, recorded⟩⟩⟩
  rw [List.map_map, List.map_map]
  exact yields_pseudoPackets items NetAXISWord.empty []

theorem HeaderTrip.Carries.restores
    {trip : HeaderTrip} {items : List HeaderItem}
    (carries : trip.Carries items) : trip.Restores items := by
  obtain ⟨_, headers⟩ := carries.headers
  have headersAre := (headers.unique (yields_fullHeaders items)).1
  obtain ⟨prevWord, payload, _, pseudoPackets⟩ := carries.pseudoPackets
  rw [headersAre, List.map_map, List.map_map] at pseudoPackets
  have pseudoPacketsAre :=
    (pseudoPackets.unique
      (yields_pseudoPackets items prevWord payload)).1
  obtain ⟨_, subChecksums⟩ := carries.subChecksums
  rw [pseudoPacketsAre] at subChecksums
  obtain ⟨sums, summed, checksums⟩ :=
    yields_frameChecksums (headers_frames items)
  have sumsAre := (subChecksums.unique summed).1
  obtain ⟨heldWord, _, tcpPackets⟩ := carries.tcpPackets
  rw [pseudoPacketsAre] at tcpPackets
  obtain ⟨_, _, removed, tcpFrames⟩ := yields_tcpPackets items heldWord
  rw [← (tcpPackets.unique removed).1] at tcpFrames
  obtain ⟨_, ipv4Headers⟩ := carries.ipv4Headers
  have ipv4HeadersAre :=
    (ipv4Headers.unique (yields_ipv4Headers items)).1
  obtain ⟨packetWord, _, ipPackets⟩ := carries.ipPackets
  rw [ipv4HeadersAre, sumsAre, checksums, List.map_map] at ipPackets
  obtain ⟨_, _, packed, ipFrames⟩ :=
    yields_ipPackets tcpFrames packetWord
  rw [← (ipPackets.unique packed).1] at ipFrames
  obtain ⟨regs, _, rxPseudoPackets⟩ := carries.rxPseudoPackets
  obtain ⟨_, _, inserted, rxFrames⟩ :=
    yields_rxPseudoPackets ipFrames regs
  rw [← (rxPseudoPackets.unique inserted).1] at rxFrames
  obtain ⟨_, rxSubChecksums⟩ := carries.rxSubChecksums
  obtain ⟨rxSums, rxSummed, rxChecksums⟩ := yields_frameChecksums rxFrames
  obtain ⟨holds, single⟩ := words_of_sent rxFrames
  obtain ⟨parserWord, offset, _, parsed⟩ := carries.parsed
  obtain ⟨_, parses⟩ := yields_parsedHeaders single parserWord offset
  have parsedAre := (parsed.unique parses).1
  obtain ⟨optionRegs, _, reads, records⟩ := carries.records
  rw [parsedAre, segMetas_parsedHeaders] at records
  obtain ⟨_, _, recorded, restored⟩ :=
    yields_records holds optionRegs reads
  refine ⟨?_, ?_, ?_⟩
  · rw [(rxSubChecksums.unique rxSummed).1, rxChecksums, List.map_map]
    exact List.map_congr_left fun item _ => item.internetChecksum_sent
  · rw [(records.unique recorded).1]
    exact restored
  · rw [parsedAre, payloadWords_parsedHeaders]

/-- Every sequence of segments without payload goes through, and comes back
with checksums 0, all fields and the window scales that the headers
announce. -/
theorem headers_restored (items : List HeaderItem) :
    (∃ trip : HeaderTrip, trip.Carries items) ∧
      ∀ trip : HeaderTrip, trip.Carries items → trip.Restores items :=
  ⟨exists_trip items, fun _ carries => carries.restores⟩

/-! ## An ACK behind a SYN -/

/-- A SYN and then an ACK are sent. -/
def synThenAck : List SegmentAction :=
  [.event ⟨Event.plain .syn 0, ⟨0, 0, 0, 0⟩⟩, .txEngTcpFsm, .txEngTcpFsm,
    .event ⟨Event.plain .ack 0, ⟨0, 0, 0, 0⟩⟩, .txEngTcpFsm,
    .rxSarRsp ⟨0, 0, 0x1000⟩,
    .txSarRsp
      ⟨0, 0, 0x1000, 0, false, false, 0, 0, 0, 0x1000, true, 0, 1460, 0⟩,
    .txEngTcpFsm]

def afterSynThenAck : SegmentSystem :=
  synThenAck.foldl (SegmentSystem.act (samePayload shortPayload))
    SegmentSystem.start

/-- The ACK still has the window scale of the SYN in its metadata, but not in
its header. -/
theorem not_headers_restored :
    ¬ ∀ (answers : TxAnswers) (actions : List SegmentAction)
        (system : SegmentSystem) (items : List HeaderItem)
        (trip : HeaderTrip),
        Run (SegmentStep answers) SegmentSystem.start actions system →
        items.map HeaderItem.segment =
          system.emissions.map TxEmission.segment →
        trip.Carries items →
        List.Forall₂
          (fun item record => item.Restored item.segment.winScale record)
          items trip.records := by
  intro claimed
  have emitted :
      afterSynThenAck.emissions.map TxEmission.segment =
        [⟨0xE73B0CD7, 0, 0xFFFF, 2, 8, false, false, true, false⟩,
          ⟨0, 0, 0x1000, 2, 0, true, false, false, false⟩] := by
    decide +kernel
  let tuple : FourTuple := ⟨0x0A0A0A0A, 0x050A0A0A, 0x5000, 0x1500⟩
  let syn : HeaderItem :=
    ⟨⟨0xE73B0CD7, 0, 0xFFFF, 2, 8, false, false, true, false⟩, tuple,
      .scaled rfl rfl (by decide) (by decide)⟩
  let ack : HeaderItem :=
    ⟨⟨0, 0, 0x1000, 2, 0, true, false, false, false⟩, tuple,
      .noOptions rfl rfl⟩
  obtain ⟨trip, carries⟩ := exists_trip [syn, ack]
  have run :=
    @Run.of_act _ _ (SegmentStep (samePayload shortPayload))
      (SegmentSystem.act (samePayload shortPayload)) (fun _ _ => rfl)
      SegmentSystem.start synThenAck
  have restored :=
    claimed (samePayload shortPayload) synThenAck afterSynThenAck
      [syn, ack] trip run emitted.symm carries
  have announced := carries.restores.records
  generalize trip.records = records at restored announced
  cases restored with
  | cons _ later =>
      cases later with
      | cons scale _ =>
          cases announced with
          | cons _ later =>
              cases later with
              | cons none _ =>
                  have same := none.winScale.symm.trans scale.winScale
                  revert same
                  decide

end TcpOffload
