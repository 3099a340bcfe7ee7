import Mathlib.Data.List.Forall2
import TcpOffload.RxEngine.PayloadBytes

/-!
# The frames of `RxEngTcpPseudoHeaderInsert`

Every packet comes out as one frame behind its pseudo header, whatever its
beats, unless its IP header has nine words: then `RemoveIpHeader` shifts the
valid lanes by the bytes of another header length.
-/

namespace TcpOffload

open Clocked Framing

/-- A packet whose IP total length is the number of bytes delivered. -/
structure RxIpPacket where
  bytes : List (BitVec 8)
  atLeastFive : 5 ≤ (bytes.getD 0 0).extractLsb' 0 4
  holdsHeader :
    4 * ((bytes.getD 0 0).extractLsb' 0 4).toNat ≤ bytes.length
  delivered : (bytes.getD 2 0 ++ bytes.getD 3 0).toNat = bytes.length

namespace RxIpPacket

/-- The header length field, in 32-bit words. -/
def headerLength (packet : RxIpPacket) : BitVec 4 :=
  (packet.bytes.getD 0 0).extractLsb' 0 4

/-- The length of the segment, as the pseudo header has it. -/
def segmentLength (packet : RxIpPacket) : BitVec 16 :=
  BitVec.ofNat 16 (packet.bytes.length - 4 * packet.headerLength.toNat)

/-- The two addresses, the protocol and the length of the segment, then the
segment. -/
def pseudoPacket (packet : RxIpPacket) : List (BitVec 8) :=
  (packet.bytes.drop 12).take 8 ++
    [0, 6, packet.segmentLength.extractLsb' 8 8,
      packet.segmentLength.extractLsb' 0 8] ++
    packet.bytes.drop (4 * packet.headerLength.toNat)

/-- The header does not have nine words, or there is nothing behind it. -/
def Aligned (packet : RxIpPacket) : Prop :=
  packet.headerLength = 9 → packet.bytes.length = 36

theorem twenty_le (packet : RxIpPacket) : 20 ≤ packet.bytes.length := by
  have five := BitVec.le_def.1 packet.atLeastFive
  have five' : (5 : BitVec 4).toNat = 5 := rfl
  have holds := packet.holdsHeader
  omega

theorem length_lt (packet : RxIpPacket) :
    packet.bytes.length < 65536 := by
  rw [← packet.delivered]
  exact BitVec.isLt _

end RxIpPacket

/-! ## The bytes of the pseudo header -/

/-- The bytes of an address, in network order. -/
def addressBytes (address : IpAddr) : List (BitVec 8) :=
  (List.range 4).map fun lane => address.extractLsb' (8 * lane) 8

theorem extractLsb'_extractLsb'
    {width : Nat} (word : BitVec width) {offset size start length : Nat}
    (inside : start + length ≤ size) :
    (word.extractLsb' offset size).extractLsb' start length =
      word.extractLsb' (offset + start) length := by
  apply BitVec.eq_of_getLsbD_eq
  intro bit inField
  have inOuter : start + bit < size := by
    omega
  simp only [BitVec.getLsbD_extractLsb', inField, inOuter, decide_true,
    Bool.true_and, Nat.add_assoc]

theorem pseudoHeaderBytes_eq
    (srcIpAddr destIpAddr : IpAddr) (tcpSegmentLength : BitVec 16) :
    pseudoHeaderBytes srcIpAddr destIpAddr tcpSegmentLength =
      addressBytes srcIpAddr ++ addressBytes destIpAddr ++
        [0, 6, tcpSegmentLength.extractLsb' 8 8,
          tcpSegmentLength.extractLsb' 0 8] := by
  have twelve : List.range 12 = [0, 1, 2, 3, 4, 5, 6, 7, 8, 9, 10, 11] :=
    rfl
  have four : List.range 4 = [0, 1, 2, 3] := rfl
  have below {lane : Nat} (inSrc : 8 * lane + 8 ≤ 32) :
      (swapByte tcpSegmentLength ++ (0x0600 : BitVec 16) ++ destIpAddr ++
          srcIpAddr).extractLsb' (8 * lane) 8 =
        srcIpAddr.extractLsb' (8 * lane) 8 :=
    BitVec.extractLsb'_append_eq_of_add_le inSrc
  have above {lane : Nat} (inDest : 8 * lane + 8 ≤ 32) :
      (swapByte tcpSegmentLength ++ (0x0600 : BitVec 16) ++ destIpAddr ++
          srcIpAddr).extractLsb' (8 * (4 + lane)) 8 =
        destIpAddr.extractLsb' (8 * lane) 8 := by
    rw [BitVec.extractLsb'_append_eq_of_le (by omega),
      BitVec.extractLsb'_append_eq_of_add_le (by omega)]
    congr 1
    omega
  have protocol {lane : Nat} (inField : 8 * lane + 8 ≤ 16) :
      (swapByte tcpSegmentLength ++ (0x0600 : BitVec 16) ++ destIpAddr ++
          srcIpAddr).extractLsb' (8 * (8 + lane)) 8 =
        (0x0600 : BitVec 16).extractLsb' (8 * lane) 8 := by
    rw [BitVec.extractLsb'_append_eq_of_le (by omega),
      BitVec.extractLsb'_append_eq_of_le (by omega),
      BitVec.extractLsb'_append_eq_of_add_le (by omega)]
    congr 1
    omega
  have length {lane : Nat} :
      (swapByte tcpSegmentLength ++ (0x0600 : BitVec 16) ++ destIpAddr ++
          srcIpAddr).extractLsb' (8 * (10 + lane)) 8 =
        (swapByte tcpSegmentLength).extractLsb' (8 * lane) 8 := by
    rw [BitVec.extractLsb'_append_eq_of_le (by omega),
      BitVec.extractLsb'_append_eq_of_le (by omega),
      BitVec.extractLsb'_append_eq_of_le (by omega)]
    congr 1
    omega
  have upper :
      (swapByte tcpSegmentLength).extractLsb' (8 * 0) 8 =
        tcpSegmentLength.extractLsb' 8 8 := by
    rw [swapByte_sixteen, BitVec.extractLsb'_append_eq_of_add_le
      (by decide)]
    exact BitVec.extractLsb'_eq_self
  have lower :
      (swapByte tcpSegmentLength).extractLsb' (8 * 1) 8 =
        tcpSegmentLength.extractLsb' 0 8 := by
    rw [swapByte_sixteen, BitVec.extractLsb'_append_eq_of_le (by decide)]
    exact BitVec.extractLsb'_eq_self
  rw [pseudoHeaderBytes, twelve, addressBytes, addressBytes, four]
  simp only [List.map_cons, List.map_nil, List.cons_append,
    List.nil_append, List.cons.injEq, and_true]
  exact
    ⟨below (by decide), below (by decide), below (by decide),
      below (by decide), @above 0 (by decide), @above 1 (by decide),
      @above 2 (by decide), @above 3 (by decide), @protocol 0 (by decide),
      @protocol 1 (by decide), (@length 0).trans upper,
      (@length 1).trans lower⟩

/-! ## The registers behind the first beat -/

section Registers

variable {packet : RxIpPacket} {first : NetAXISWord}
variable {rest : List NetAXISWord}

theorem byte_of_frame
    (frame : IsAxiFrame packet.bytes (first :: rest))
    {lane : Nat} (inHeader : lane < 20) :
    first.byte lane = packet.bytes.getD lane 0 := by
  have atLeast := packet.twenty_le
  have holds := frame.holds_head
  have inChunk : lane < (packet.bytes.take 64).length := by
    rw [List.length_take]
    omega
  rw [holds.data lane inChunk, List.getElem_take,
    List.getD_eq_getElem?_getD, List.getElem?_eq_getElem (by omega),
    Option.getD_some]

theorem readIpHeader_headerLength
    (frame : IsAxiFrame packet.bytes (first :: rest))
    (state : InsertState) :
    (state.readIpHeader first).ipHeaderLength = packet.headerLength := by
  have byte := byte_of_frame frame (by decide : 0 < 20)
  rw [RxIpPacket.headerLength, ← byte]
  apply BitVec.eq_of_getLsbD_eq
  intro bit inside
  simp [InsertState.readIpHeader, NetAXISWord.byte, inside]

theorem readIpHeader_packetLength
    (frame : IsAxiFrame packet.bytes (first :: rest))
    (state : InsertState) :
    (state.readIpHeader first).ipPacketLength =
      BitVec.ofNat 16 packet.bytes.length := by
  have upper := byte_of_frame frame (by decide : 2 < 20)
  have lower := byte_of_frame frame (by decide : 3 < 20)
  have lanes := first.swapByte_lanes 2
  rw [upper, lower] at lanes
  rw [← packet.delivered, BitVec.ofNat_toNat, BitVec.setWidth_eq, ← lanes]
  rfl

theorem readIpHeader_segmentLength
    (frame : IsAxiFrame packet.bytes (first :: rest))
    (state : InsertState) :
    (state.readIpHeader first).tcpSegmentLength = packet.segmentLength := by
  have atLeast : 4 * packet.headerLength.toNat ≤ packet.bytes.length :=
    packet.holdsHeader
  have bound := packet.length_lt
  have headerBound := packet.headerLength.isLt
  rw [InsertState.tcpSegmentLength, readIpHeader_headerLength frame,
    readIpHeader_packetLength frame, RxIpPacket.segmentLength]
  apply BitVec.eq_of_toNat_eq
  have four : (4 : BitVec 16).toNat = 4 := rfl
  rw [BitVec.toNat_sub, BitVec.toNat_mul, BitVec.toNat_setWidth, four,
    BitVec.toNat_ofNat, BitVec.toNat_ofNat]
  omega

/-- An address of the header as its bytes. -/
theorem address_bytes
    (frame : IsAxiFrame packet.bytes (first :: rest))
    {start : Nat} (inHeader : start + 4 ≤ 20) :
    addressBytes (first.data.extractLsb' (8 * start) 32) =
      (packet.bytes.drop start).take 4 := by
  have atLeast := packet.twenty_le
  apply List.ext_getElem
  · rw [addressBytes, List.length_map, List.length_range,
      List.length_take, List.length_drop]
    omega
  · intro lane inRange inBytes
    rw [addressBytes, List.length_map, List.length_range] at inRange
    have byte :=
      byte_of_frame frame (by omega : start + lane < 20)
    rw [List.getD_eq_getElem?_getD, List.getElem?_eq_getElem (by omega),
      Option.getD_some, NetAXISWord.byte, Nat.mul_add] at byte
    simp only [addressBytes, List.getElem_map, List.getElem_range,
      List.getElem_take, List.getElem_drop]
    rw [extractLsb'_extractLsb' first.data (by omega), byte]

theorem pseudoPacket_eq
    (frame : IsAxiFrame packet.bytes (first :: rest))
    {state read : InsertState}
    (reads : state.readIpHeader first = read) :
    packet.pseudoPacket =
      pseudoHeaderBytes read.srcIpAddr read.destIpAddr
          read.tcpSegmentLength ++
        packet.bytes.drop (4 * read.ipHeaderLength.toNat) := by
  have addresses :
      addressBytes read.srcIpAddr ++ addressBytes read.destIpAddr =
        (packet.bytes.drop 12).take 8 := by
    have src := address_bytes frame (by decide : 12 + 4 ≤ 20)
    have dest := address_bytes frame (by decide : 16 + 4 ≤ 20)
    have split :
        (packet.bytes.drop 12).take (4 + 4) =
          (packet.bytes.drop 12).take 4 ++
            ((packet.bytes.drop 12).drop 4).take 4 :=
      List.take_add
    rw [split, List.drop_drop, ← src, ← dest, ← reads]
    rfl
  rw [RxIpPacket.pseudoPacket, pseudoHeaderBytes_eq, addresses, ← reads,
    readIpHeader_segmentLength frame, readIpHeader_headerLength frame]

theorem length_pseudoPacket (packet : RxIpPacket) :
    packet.pseudoPacket.length =
      12 + (packet.bytes.length - 4 * packet.headerLength.toNat) := by
  have atLeast := packet.twenty_le
  rw [RxIpPacket.pseudoPacket, List.length_append, List.length_append,
    List.length_take, List.length_drop, List.length_drop]
  simp only [List.length_cons, List.length_nil]
  omega

end Registers

/-! ## Headers of nine words -/

section Packet

variable {packet : RxIpPacket} {first : NetAXISWord}
variable {rest : List NetAXISWord}

theorem getLsbD_0xFFF (lane : Nat) :
    (0xFFF : BitVec 64).getLsbD lane = decide (lane < 12) := by
  by_cases inWord : lane < 64
  · revert lane
    decide
  · rw [BitVec.getLsbD_of_ge _ _ (by omega), decide_eq_false (by omega)]

/-- The valid lanes behind the pseudo header are 36 lanes down from those of
the beat. -/
theorem keep_nine
    (frame : IsAxiFrame packet.bytes (first :: rest))
    (state : InsertState) (curWord : NetAXISWord)
    {lane : Nat} (behind : 12 ≤ lane) (inTail : lane < 40) :
    (state.insertHeader (removeIpHeader curWord first 9
        NetAXISWord.empty)).keep.getLsbD lane =
      decide (36 + lane < min packet.bytes.length 64) := by
  have holds := frame.holds_head
  have shifted :
      first.keep.getLsbD (36 + lane) =
        decide (36 + lane < min packet.bytes.length 64) := by
    by_cases inWord : 36 + lane < 64
    · rw [holds.keep _ inWord, List.length_take, Nat.min_comm]
    · rw [BitVec.getLsbD_of_ge _ _ (by omega),
        decide_eq_false (by omega)]
  have written :
      (state.insertHeader (removeIpHeader curWord first 9
          NetAXISWord.empty)).keep =
        (first.keep >>> 36 ||| curWord.keep <<< 40) ||| 0xFFF :=
    rfl
  rw [written, BitVec.getLsbD_or, BitVec.getLsbD_or,
    BitVec.getLsbD_ushiftRight, BitVec.getLsbD_shiftLeft, shifted,
    getLsbD_0xFFF, decide_eq_false (by omega : ¬ lane < 12),
    decide_eq_true inTail]
  simp

theorem not_isFrame_nine
    (frame : IsAxiFrame packet.bytes (first :: rest))
    (nine : packet.headerLength = 9) (longer : packet.bytes.length ≠ 36)
    (state : InsertState) :
    ¬ IsAxiFrame packet.pseudoPacket (insertWords state first rest) := by
  intro isFrame
  have atLeast := packet.holdsHeader
  have length := length_pseudoPacket packet
  have nineWords : (9 : BitVec 4).toNat = 9 := rfl
  rw [nine, nineWords] at length
  have header : 4 * packet.headerLength.toNat ≤ packet.bytes.length :=
    atLeast
  rw [nine, nineWords] at header
  obtain ⟨curWord, last, later, words⟩ :=
    removeWords_head 9 first rest
  rw [insertWords, readIpHeader_headerLength frame, nine, words,
    List.modifyHead_cons] at isFrame
  have holds := isFrame.holds_head
  -- the first lane that the beat does not fill 36 lanes further up
  have lane : ∃ lane, lane = max 12 (min packet.bytes.length 64 - 36) :=
    ⟨_, rfl⟩
  obtain ⟨lane, laneIs⟩ := lane
  have valid := holds.keep lane (by omega)
  have invalid :=
    keep_nine frame (state.readIpHeader first) curWord
      (by omega : 12 ≤ lane) (by omega)
  rw [decide_eq_false (by omega)] at invalid
  rw [List.length_take, length, decide_eq_true (by omega)] at valid
  have same := valid.symm.trans invalid
  cases same

/-- With nothing behind the header the valid lanes are those of the pseudo
header either way. -/
theorem insertWords_headerOnly
    (frame : IsAxiFrame packet.bytes [first])
    (nine : packet.headerLength = 9) (short : packet.bytes.length = 36)
    (state : InsertState) :
    insertWords state first [] = pseudoWords state first [] := by
  have holds := frame.holds_head
  have kept (shift lane : Nat) (enough : 24 ≤ shift) :
      (first.keep.getLsbD (shift + lane) || decide (lane < 12)) =
        decide (lane < 12) := by
    by_cases inHeader : lane < 12
    · rw [decide_eq_true inHeader, Bool.or_true]
    · have clear : first.keep.getLsbD (shift + lane) = false := by
        by_cases inWord : shift + lane < 64
        · rw [holds.keep _ inWord, List.length_take, short,
            decide_eq_false (by omega)]
        · exact BitVec.getLsbD_of_ge _ _ (by omega)
      rw [clear, Bool.false_or]
  have sameKeep :
      (first.keep >>> 36 ||| NetAXISWord.empty.keep <<< 40) |||
          (0xFFF : BitVec 64) =
        (first.keep >>> 24 ||| NetAXISWord.empty.keep <<< 40) |||
          (0xFFF : BitVec 64) := by
    have none (lane : Nat) :
        (NetAXISWord.empty.keep <<< 40).getLsbD lane = false := by
      simp [NetAXISWord.empty]
    apply BitVec.eq_of_getLsbD_eq
    intro lane _
    simp only [BitVec.getLsbD_or, BitVec.getLsbD_ushiftRight, none,
      Bool.or_false, getLsbD_0xFFF, kept 36 lane (by decide),
      kept 24 lane (by decide)]
  rw [insertWords, pseudoWords]
  simp only [readIpHeader_headerLength frame, nine, removeWords, realign,
    List.modifyHead_cons, InsertState.insertHeader, insertPseudoHeader]
  have sameWord :
      ((removeIpHeader NetAXISWord.empty first 9
          NetAXISWord.empty).withLast true).keep ||| 0xFFF =
        ((joinWords NetAXISWord.dest NetAXISWord.empty first
          (keepExtra 9)).withLast true).keep ||| 0xFFF :=
    sameKeep
  rw [sameWord]
  rfl

theorem isFrame_aligned
    (frame : IsAxiFrame packet.bytes (first :: rest))
    (aligned : packet.Aligned) (state : InsertState) :
    IsAxiFrame packet.pseudoPacket (insertWords state first rest) := by
  have headerIs := readIpHeader_headerLength frame state
  have atLeastFive :
      5 ≤ (state.readIpHeader first).ipHeaderLength := by
    rw [headerIs]
    exact packet.atLeastFive
  have isFrame :=
    @pseudoWords_frame state _ first rest packet.bytes rfl atLeastFive
      frame
      (by
        rw [headerIs]
        exact packet.holdsHeader)
  rw [← pseudoPacket_eq frame rfl] at isFrame
  by_cases nine : packet.headerLength = 9
  · have short := aligned nine
    have bounds := frame.beats_bound
    cases rest with
    | cons second rest =>
        rw [List.length_cons, List.length_cons] at bounds
        omega
    | nil =>
        rw [insertWords_headerOnly frame nine short]
        exact isFrame
  · rw [insertWords_eq atLeastFive (by rwa [headerIs])]
    exact isFrame

/-- A packet comes out whole exactly when it is aligned. -/
theorem insertWords_isFrame_iff
    (frame : IsAxiFrame packet.bytes (first :: rest))
    (state : InsertState) :
    IsAxiFrame packet.pseudoPacket (insertWords state first rest) ↔
      packet.Aligned := by
  constructor
  · intro isFrame nine
    by_contra longer
    exact not_isFrame_nine frame nine longer state isFrame
  · intro aligned
    exact isFrame_aligned frame aligned state

end Packet

/-! ## Sequences of packets -/

theorem insertWords_delimited
    (state : InsertState) (first : NetAXISWord)
    (rest : List NetAXISWord) :
    Delimited NetAXISWord.last (insertWords state first rest) := by
  have frame :=
    removeWords_delimited (state.readIpHeader first).ipHeaderLength first
      rest
  rw [insertWords]
  generalize removeWords _ first rest = words at frame
  cases frame with
  | final raised =>
      exact Delimited.final raised
  | more notRaised rest =>
      exact Delimited.more notRaised rest

/-- Every packet is written as one frame, and as its pseudo packet exactly
when it is aligned. -/
theorem yields_pseudoPieces
    {packets : List RxIpPacket} {stream : List NetAXISWord}
    (frames : AxiFrames (packets.map RxIpPacket.bytes) stream)
    (state : InsertState) :
    ∃ pieces final,
      Yields rxEngTcpPseudoHeaderInsert (state.idle stream)
        pieces.flatten final ∧
      (∀ piece ∈ pieces, Delimited NetAXISWord.last piece) ∧
      pieces.length = packets.length ∧
      (List.Forall₂
          (fun packet => IsAxiFrame (RxIpPacket.pseudoPacket packet))
          packets pieces ↔
        ∀ packet ∈ packets, packet.Aligned) := by
  induction packets generalizing state stream with
  | nil =>
      rw [List.map_nil] at frames
      rw [frames.eq_nil]
      refine
        ⟨[], state.idle [], ⟨Runs.refl _, rfl⟩, ?_, rfl, ?_⟩
      · exact fun piece member => by cases member
      · simp
  | cons packet packets inductionHypothesis =>
      rw [List.map_cons] at frames
      obtain ⟨words, later, rfl, frame, rest⟩ := frames.split_first
      cases words with
      | nil =>
          exact absurd rfl frame.beats_ne_nil
      | cons first words =>
          obtain ⟨held, run⟩ :=
            @runs_insertWords state words later first frame.delimited
          obtain ⟨pieces, final, yields, delimited, sameLength, whole⟩ :=
            inductionHypothesis rest held
          refine
            ⟨insertWords state first words :: pieces, final,
              Yields.prepend run yields, ?_, ?_, ?_⟩
          · exact
              List.forall_mem_cons.2
                ⟨insertWords_delimited state first words, delimited⟩
          · rw [List.length_cons, List.length_cons, sameLength]
          · rw [List.forall₂_cons, insertWords_isFrame_iff frame, whole,
              List.forall_mem_cons]

/-- The output is one frame for each packet, the pseudo header and the
segment, exactly when no packet has something behind a header of nine
words. -/
theorem pseudoPackets_frames_iff
    {packets : List RxIpPacket} {stream : List NetAXISWord}
    (frames : AxiFrames (packets.map RxIpPacket.bytes) stream)
    (state : InsertState) :
    ∃ out final,
      Yields rxEngTcpPseudoHeaderInsert (state.idle stream) out final ∧
      (AxiFrames (packets.map RxIpPacket.pseudoPacket) out ↔
        ∀ packet ∈ packets, packet.Aligned) := by
  obtain ⟨pieces, final, yields, delimited, sameLength, whole⟩ :=
    yields_pseudoPieces frames state
  refine ⟨pieces.flatten, final, yields, ?_⟩
  rw [AxiFrames,
    Frames.iff_pieces (fun piece member => Or.inl (delimited piece member))
      (by rw [List.length_map, sameLength]),
    List.forall₂_map_left_iff, whole]

/-- A packet of zeros with a header of `headerWords` words and 20 bytes of
TCP header. -/
def zeroPacketBytes (headerWords : BitVec 4) : List (BitVec 8) :=
  [(4 : BitVec 4) ++ headerWords, 0, 0,
    BitVec.ofNat 8 (4 * headerWords.toNat + 20)] ++
    List.replicate (4 * headerWords.toNat + 16) 0

def zeroPacket (headerWords : BitVec 4) (atLeast : 5 ≤ headerWords) :
    RxIpPacket where
  bytes := zeroPacketBytes headerWords
  atLeastFive := by
    revert headerWords
    decide
  holdsHeader := by
    revert headerWords
    decide
  delivered := by
    revert headerWords
    decide

/-- The longest header, in one frame of 80 bytes. -/
theorem pseudoPackets_frames_fifteen :
    ∃ stream out final,
      AxiFrames [zeroPacketBytes 15] stream ∧
      Yields rxEngTcpPseudoHeaderInsert (InsertState.start.idle stream) out
        final ∧
      AxiFrames [(zeroPacket 15 (by decide)).pseudoPacket] out := by
  obtain ⟨stream, frame⟩ :=
    exists_axiFrame (zeroPacketBytes 15) (by decide)
  have frames := Frames.single frame
  obtain ⟨out, final, yields, whole⟩ :=
    @pseudoPackets_frames_iff [zeroPacket 15 (by decide)] stream frames
      InsertState.start
  refine ⟨stream, out, final, frames, yields, whole.2 ?_⟩
  intro packet member
  rw [List.mem_singleton.1 member]
  intro nine
  cases nine

/-- A packet with a header of nine words loses twelve of its 20 bytes. -/
theorem not_pseudoPackets_frames :
    ¬ ∀ (packets : List RxIpPacket) (stream : List NetAXISWord)
        (state : InsertState),
        AxiFrames (packets.map RxIpPacket.bytes) stream →
        ∃ out final,
          Yields rxEngTcpPseudoHeaderInsert (state.idle stream) out
            final ∧
          AxiFrames (packets.map RxIpPacket.pseudoPacket) out := by
  intro claimed
  obtain ⟨stream, frame⟩ :=
    exists_axiFrame (zeroPacketBytes 9) (by decide)
  have frames := Frames.single frame
  obtain ⟨out, final, yields, isFrames⟩ :=
    claimed [zeroPacket 9 (by decide)] stream InsertState.start frames
  obtain ⟨pieces, other, others, delimited, sameLength, whole⟩ :=
    @yields_pseudoPieces [zeroPacket 9 (by decide)] stream frames
      InsertState.start
  have same := (yields.unique others).1
  subst same
  rw [AxiFrames,
    Frames.iff_pieces (fun piece member => Or.inl (delimited piece member))
      (by rw [List.length_map, sameLength]),
    List.forall₂_map_left_iff, whole] at isFrames
  have aligned := isFrames _ List.mem_cons_self (by decide)
  revert aligned
  decide

end TcpOffload
