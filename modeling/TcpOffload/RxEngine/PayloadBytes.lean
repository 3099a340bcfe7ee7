import TcpOffload.RxEngine.ParseHeader
import TcpOffload.RxEngine.PseudoHeader

/-!
# The payload bytes of a packet

The length of a payload comes from the IP header, its bytes from the valid
lanes of the frame.  The two agree as long as the frame ends with the packet.
-/

namespace TcpOffload

open Clocked Framing

/-! ## Header fields as bytes -/

theorem swapByte_sixteen (word : BitVec 16) :
    swapByte word = word.extractLsb' 0 8 ++ word.extractLsb' 8 8 := by
  apply BitVec.eq_of_getLsbD_eq
  intro bit inWord
  have steps : List.range (16 / 8) = [0, 1] := by
    decide
  simp only [swapByte, steps, List.foldl_cons, List.foldl_nil,
    BitVec.getLsbD_or, BitVec.getLsbD_shiftLeft, BitVec.getLsbD_setWidth,
    BitVec.getLsbD_extractLsb', BitVec.getLsbD_append, inWord]
  by_cases low : bit < 8
  · simp [low]
    intro _
    omega
  · simp [low]
    intro inHigh _
    omega

theorem swapByte_swapByte_sixteen (word : BitVec 16) :
    swapByte (swapByte word) = word := by
  rw [swapByte_sixteen (swapByte word), swapByte_sixteen]
  apply BitVec.eq_of_getLsbD_eq
  intro bit inWord
  simp only [BitVec.getLsbD_append, BitVec.getLsbD_extractLsb']
  by_cases low : bit < 8
  · simp [low]
  · have inHigh : bit - 8 < 8 := by
      omega
    simp [low, inHigh]
    congr 1
    omega

namespace NetAXISWord

theorem swapByte_lanes (word : NetAXISWord) (lane : Nat) :
    swapByte (word.data.extractLsb' (8 * lane) 16) =
      word.byte lane ++ word.byte (lane + 1) := by
  rw [swapByte_sixteen, byte, byte, Nat.mul_add_one]
  apply BitVec.eq_of_getLsbD_eq
  intro bit inWord
  simp only [BitVec.getLsbD_append, BitVec.getLsbD_extractLsb']
  by_cases low : bit < 8
  · have inWord : 8 + bit < 16 := by
      omega
    simp [low, inWord, Nat.add_assoc]
  · have inHigh : bit - 8 < 8 := by
      omega
    have inLow : bit - 8 < 16 := by
      omega
    simp [low, inHigh, inLow]

/-- `tcp_payload_length` as it would be read eight bytes further on. -/
def paddingLength (word : NetAXISWord) : BitVec 16 :=
  swapByte (word.data.extractLsb' 144 16) -
    (word.data.extractLsb' 260 4).setWidth 16 * 4

/-- A field that lies in the tail of the previous beat. -/
theorem extractLsb'_joinWords
    (dest : NetAXISWord → BitVec 4) (curWord prevWord : NetAXISWord)
    {start width : Nat} (inPrev : start + width ≤ 448) :
    (joinWords dest curWord prevWord 8).data.extractLsb' start width =
      prevWord.data.extractLsb' (start + 64) width := by
  apply BitVec.eq_of_getLsbD_eq
  intro bit inField
  have eight : (8 : BitVec 6).toNat = 8 := by
    decide
  have notCur : start + bit < 512 - 8 * 8 := by
    omega
  simp only [joinWords, eight, BitVec.getLsbD_extractLsb',
    BitVec.getLsbD_or, BitVec.getLsbD_ushiftRight,
    BitVec.getLsbD_shiftLeft, inField, notCur, decide_true,
    Bool.true_and, Bool.not_true, Bool.and_false, Bool.false_and,
    Bool.or_false]
  congr 1
  omega

theorem tcpPayloadLength_joinWords
    (dest : NetAXISWord → BitVec 4) (curWord prevWord : NetAXISWord) :
    (joinWords dest curWord prevWord 8).tcpPayloadLength =
      prevWord.paddingLength := by
  rw [tcpPayloadLength, tcpDataOffset,
    extractLsb'_joinWords dest curWord prevWord (by omega),
    extractLsb'_joinWords dest curWord prevWord (by omega)]
  rfl

end NetAXISWord

section Inserted

variable {srcIpAddr destIpAddr : IpAddr} {tcpSegmentLength : BitVec 16}
variable {sendWord : NetAXISWord}

/-- A field behind the pseudo header. -/
theorem extractLsb'_insert
    {start width : Nat}
    (behind : 96 ≤ start) (inWord : start + width ≤ 512) :
    (insertPseudoHeader srcIpAddr destIpAddr tcpSegmentLength
        sendWord).data.extractLsb' start width =
      sendWord.data.extractLsb' start width := by
  apply BitVec.eq_of_getLsbD_eq
  intro bit inField
  simp only [insertPseudoHeader, BitVec.getLsbD_extractLsb', inField,
    decide_true, Bool.true_and]
  rw [BitVec.getLsbD_append, if_neg (by omega),
    BitVec.getLsbD_extractLsb', decide_eq_true (by omega),
    Bool.true_and]
  congr 1
  omega

/-- A field of the pseudo header. -/
theorem extractLsb'_insert_header
    {start width : Nat} (inHeader : start + width ≤ 96) :
    (insertPseudoHeader srcIpAddr destIpAddr tcpSegmentLength
        sendWord).data.extractLsb' start width =
      (swapByte tcpSegmentLength ++ (0x0600 : BitVec 16) ++ destIpAddr ++
        srcIpAddr).extractLsb' start width := by
  apply BitVec.eq_of_getLsbD_eq
  intro bit inField
  have below : start + bit < 96 := by
    omega
  simp only [insertPseudoHeader, BitVec.getLsbD_extractLsb', inField,
    decide_true, Bool.true_and]
  rw [BitVec.getLsbD_append, if_pos (by omega)]

theorem tcpDataOffset_insert :
    (insertPseudoHeader srcIpAddr destIpAddr tcpSegmentLength
        sendWord).tcpDataOffset =
      sendWord.tcpDataOffset :=
  extractLsb'_insert (by omega) (by omega)

theorem tcpPayloadLength_insert :
    (insertPseudoHeader srcIpAddr destIpAddr tcpSegmentLength
        sendWord).tcpPayloadLength =
      tcpSegmentLength - sendWord.tcpDataOffset.setWidth 16 * 4 := by
  have lengthField :
      (swapByte tcpSegmentLength ++ (0x0600 : BitVec 16) ++ destIpAddr ++
          srcIpAddr).extractLsb' 80 16 =
        swapByte tcpSegmentLength := by
    apply BitVec.eq_of_getLsbD_eq
    intro bit inField
    simp only [BitVec.getLsbD_extractLsb', inField, decide_true,
      Bool.true_and, BitVec.getLsbD_append]
    rw [if_neg (by omega), if_neg (by omega), if_neg (by omega)]
    congr 1
    omega
  rw [NetAXISWord.tcpPayloadLength, tcpDataOffset_insert,
    extractLsb'_insert_header (by omega), lengthField,
    swapByte_swapByte_sixteen]

/-- The twelve bytes of the pseudo header. -/
def pseudoHeaderBytes
    (srcIpAddr destIpAddr : IpAddr) (tcpSegmentLength : BitVec 16) :
    List (BitVec 8) :=
  (List.range 12).map fun lane =>
    (swapByte tcpSegmentLength ++ (0x0600 : BitVec 16) ++ destIpAddr ++
      srcIpAddr).extractLsb' (8 * lane) 8

@[simp]
theorem length_pseudoHeaderBytes :
    (pseudoHeaderBytes srcIpAddr destIpAddr tcpSegmentLength).length =
      12 := by
  rw [pseudoHeaderBytes, List.length_map, List.length_range]

theorem holds_insert
    {bytes : List (BitVec 8)}
    (holds : sendWord.Holds bytes) (atLeast : 12 ≤ bytes.length) :
    (insertPseudoHeader srcIpAddr destIpAddr tcpSegmentLength
        sendWord).Holds
      (pseudoHeaderBytes srcIpAddr destIpAddr tcpSegmentLength ++
        bytes.drop 12) where
  fits := by
    have fits := holds.fits
    rw [List.length_append, length_pseudoHeaderBytes, List.length_drop]
    omega
  keep := by
    intro lane laneBound
    have sameLength : 12 + (bytes.length - 12) = bytes.length := by
      omega
    rw [List.length_append, length_pseudoHeaderBytes, List.length_drop,
      sameLength, insertPseudoHeader, BitVec.getLsbD_or,
      holds.keep lane laneBound]
    by_cases inHeader : lane < 12
    · have valid : lane < bytes.length := by
        omega
      simp [valid]
    · have notMarked : (0xFFF : BitVec 64).getLsbD lane = false := by
        revert laneBound inHeader
        revert lane
        decide
      rw [notMarked, Bool.or_false]
  data := by
    intro lane inBytes
    have fits := holds.fits
    rw [List.length_append, length_pseudoHeaderBytes,
      List.length_drop] at inBytes
    by_cases inHeader : lane < 12
    · rw [List.getElem_append_left (by simpa using inHeader),
        NetAXISWord.byte, extractLsb'_insert_header (by omega)]
      simp [pseudoHeaderBytes]
    · rw [List.getElem_append_right (by simpa using inHeader),
        NetAXISWord.byte, extractLsb'_insert (by omega) (by omega)]
      have sameLane : 12 + (lane - 12) = lane := by
        omega
      simp only [length_pseudoHeaderBytes, List.getElem_drop, sameLane]
      exact holds.data lane (by omega)

/-- The frame of a packet behind its pseudo header. -/
theorem pseudoWords_frame
    {state read : InsertState} {first : NetAXISWord}
    {rest : List NetAXISWord} {bytes : List (BitVec 8)}
    (reads : state.readIpHeader first = read)
    (atLeastFive : 5 ≤ read.ipHeaderLength)
    (frame :
      IsFrame NetAXISWord.Holds NetAXISWord.last 64 bytes (first :: rest))
    (holdsHeader : 4 * read.ipHeaderLength.toNat ≤ bytes.length) :
    IsFrame NetAXISWord.Holds NetAXISWord.last 64
      (pseudoHeaderBytes read.srcIpAddr read.destIpAddr
          read.tcpSegmentLength ++
        bytes.drop (4 * read.ipHeaderLength.toNat))
      (pseudoWords state first rest) := by
  have offset : (keepExtra read.ipHeaderLength).toNat + 12 =
      4 * read.ipHeaderLength.toNat :=
    keepExtra_toNat atLeastFive
  have some : bytes.drop (keepExtra read.ipHeaderLength).toNat ≠ [] := by
    intro none
    have noBytes := congrArg List.length none
    rw [List.length_drop, List.length_nil] at noBytes
    omega
  have shifted :=
    @realign_isFrame NetAXISWord.dest (keepExtra read.ipHeaderLength)
      first rest bytes (keepExtra_ne_zero atLeastFive) frame some
  have written :
      pseudoWords state first rest =
        (realign NetAXISWord.dest (keepExtra read.ipHeaderLength) first
          rest).modifyHead read.insertHeader := by
    rw [← reads]
    rfl
  rw [written]
  generalize realign NetAXISWord.dest (keepExtra read.ipHeaderLength)
    first rest = words at shifted
  cases words with
  | nil =>
      exact absurd rfl shifted.beats_ne_nil
  | cons word words =>
      obtain ⟨chunk, later, split, holdsChunk, full, replace⟩ :=
        shifted.replace_head
      have total := congrArg List.length split
      rw [List.length_append, List.length_drop] at total
      have enough : 12 ≤ chunk.length := by
        rcases full with rfl | full
        · rw [List.length_nil] at total
          omega
        · omega
      have behind :
          bytes.drop (4 * read.ipHeaderLength.toNat) =
            chunk.drop 12 ++ later := by
        rw [← List.drop_append_of_le_length enough, ← split,
          List.drop_drop, offset]
      rw [behind, ← List.append_assoc]
      refine replace _ _ (holds_insert holdsChunk enough) ?_ rfl
      rw [List.length_append, length_pseudoHeaderBytes, List.length_drop]
      omega

theorem pseudoWords_isFrame
    {state : InsertState} {first : NetAXISWord} {rest : List NetAXISWord}
    {bytes : List (BitVec 8)}
    (five : (state.readIpHeader first).ipHeaderLength = 5)
    (frame :
      IsFrame NetAXISWord.Holds NetAXISWord.last 64 bytes (first :: rest))
    (atLeast : 20 ≤ bytes.length) :
    ∃ header : List (BitVec 8),
      header.length = 12 ∧
      IsFrame NetAXISWord.Holds NetAXISWord.last 64
        (header ++ bytes.drop 20) (pseudoWords state first rest) := by
  have isFrame :=
    @pseudoWords_frame state _ first rest bytes rfl
      (by rw [five]; decide) frame (by rw [five]; exact atLeast)
  rw [five] at isFrame
  exact ⟨_, length_pseudoHeaderBytes, isFrame⟩

end Inserted

/-! ## Packets as delivered -/

/-- A TCP packet with a 20-byte IP header in a frame that may go on behind
the packet. -/
structure IpPacket where
  bytes : List (BitVec 8)
  words : List NetAXISWord
  frame : IsFrame NetAXISWord.Holds NetAXISWord.last 64 bytes words
  headerLength : (bytes.getD 0 0).extractLsb' 0 4 = 5
  dataOffset_ge : 5 ≤ ((bytes.getD 32 0).extractLsb' 4 4).toNat
  dataOffset_le : ((bytes.getD 32 0).extractLsb' 4 4).toNat ≤ 12
  holdsHeaders :
    20 + 4 * ((bytes.getD 32 0).extractLsb' 4 4).toNat ≤
      (bytes.getD 2 0 ++ bytes.getD 3 0).toNat
  delivered : (bytes.getD 2 0 ++ bytes.getD 3 0).toNat ≤ bytes.length

namespace IpPacket

/-- The IP total length. -/
def totalLength (packet : IpPacket) : Nat :=
  (packet.bytes.getD 2 0 ++ packet.bytes.getD 3 0).toNat

/-- The TCP data offset, in 32-bit words. -/
def dataOffset (packet : IpPacket) : Nat :=
  ((packet.bytes.getD 32 0).extractLsb' 4 4).toNat

/-- The payload of the packet. -/
def payload (packet : IpPacket) : List (BitVec 8) :=
  (packet.bytes.take packet.totalLength).drop (20 + 4 * packet.dataOffset)

theorem length_payload (packet : IpPacket) :
    packet.payload.length =
      packet.totalLength - 20 - 4 * packet.dataOffset := by
  have delivered : packet.totalLength ≤ packet.bytes.length :=
    packet.delivered
  rw [payload, List.length_drop, List.length_take]
  omega

theorem twenty_le (packet : IpPacket) : 20 ≤ packet.bytes.length :=
  Nat.le_trans (Nat.le_trans (Nat.le_add_right _ _) packet.holdsHeaders)
    packet.delivered

theorem byte_first
    (packet : IpPacket) {first : NetAXISWord} {rest : List NetAXISWord}
    (split : packet.words = first :: rest) {lane : Nat} (low : lane < 40) :
    first.byte lane = packet.bytes.getD lane 0 := by
  have frame := packet.frame
  rw [split] at frame
  have headers := packet.holdsHeaders
  have delivered := packet.delivered
  have atLeast := packet.dataOffset_ge
  rw [frame.holds_head.data lane (by rw [List.length_take]; omega),
    List.getElem_take, List.getElem_eq_getD]

theorem ipHeaderLength_first
    (packet : IpPacket) {first : NetAXISWord} {rest : List NetAXISWord}
    (split : packet.words = first :: rest) (state : InsertState) :
    (state.readIpHeader first).ipHeaderLength = 5 := by
  have lane := packet.byte_first split (by omega : 0 < 40)
  have nibble := packet.headerLength
  rw [← lane] at nibble
  rw [← nibble, NetAXISWord.byte, InsertState.readIpHeader]
  apply BitVec.eq_of_getLsbD_eq
  intro bit inNibble
  simp [inNibble]

/-- Behind the pseudo header the first beat has the lengths of the packet. -/
theorem pseudoWords_first
    (packet : IpPacket) {first : NetAXISWord} {rest : List NetAXISWord}
    (split : packet.words = first :: rest) (state : InsertState) :
    ∃ header later,
      pseudoWords state first rest = header :: later ∧
      later = (realign NetAXISWord.dest 8 first rest).tail ∧
      header.tcpPayloadLength.toNat = packet.payload.length ∧
      header.tcpDataOffset.toNat = packet.dataOffset := by
  have five := packet.ipHeaderLength_first split state
  have eight : keepExtra 5 = 8 := by
    decide
  obtain ⟨curWord, last, later, words⟩ :=
    @realign_head NetAXISWord.dest 8 first rest
  have offsetField :
      (joinWords NetAXISWord.dest curWord first 8).tcpDataOffset =
        (packet.bytes.getD 32 0).extractLsb' 4 4 := by
    rw [← packet.byte_first split (by omega : 32 < 40),
      NetAXISWord.tcpDataOffset,
      NetAXISWord.extractLsb'_joinWords _ _ _ (by omega),
      NetAXISWord.byte]
    apply BitVec.eq_of_getLsbD_eq
    intro bit inNibble
    have inByte : 4 + bit < 8 := by
      omega
    simp only [BitVec.getLsbD_extractLsb', inNibble, inByte, decide_true,
      Bool.true_and]
    congr 1
    omega
  have lengthField :
      (state.readIpHeader first).ipPacketLength =
        packet.bytes.getD 2 0 ++ packet.bytes.getD 3 0 := by
    rw [← packet.byte_first split (by omega : 2 < 40),
      ← packet.byte_first split (by omega : 3 < 40),
      ← NetAXISWord.swapByte_lanes]
    rfl
  refine
    ⟨(state.readIpHeader first).insertHeader
      ((joinWords NetAXISWord.dest curWord first 8).withLast last), later,
      ?_, ?_, ?_, ?_⟩
  · rw [pseudoWords, five, eight, words]
    rfl
  · rw [words]
    rfl
  · rw [InsertState.insertHeader, tcpPayloadLength_insert,
      InsertState.tcpSegmentLength, five, lengthField]
    change (_ - _ - BitVec.setWidth 16
      (joinWords NetAXISWord.dest curWord first 8).tcpDataOffset * 4).toNat
        = _
    rw [offsetField, packet.length_payload]
    have headers := packet.holdsHeaders
    have atMost := packet.dataOffset_le
    have lengthBound :=
      (packet.bytes.getD 2 0 ++ packet.bytes.getD 3 0).isLt
    rw [totalLength, dataOffset]
    generalize packet.bytes.getD 2 0 ++ packet.bytes.getD 3 0 = length
      at headers lengthBound ⊢
    generalize (packet.bytes.getD 32 0).extractLsb' 4 4 = offset
      at headers atMost ⊢
    have offsetWide : (offset.setWidth 16).toNat = offset.toNat := by
      rw [BitVec.toNat_setWidth]
      exact Nat.mod_eq_of_lt (by omega)
    have headerBytes : ((5 : BitVec 4).setWidth 16 * 4).toNat = 20 := by
      decide
    have optionBytes :
        (offset.setWidth 16 * 4).toNat = 4 * offset.toNat := by
      rw [BitVec.toNat_mul, offsetWide]
      change offset.toNat * 4 % 65536 = _
      omega
    rw [BitVec.toNat_sub, BitVec.toNat_sub, headerBytes, optionBytes]
    omega
  · rw [InsertState.insertHeader, tcpDataOffset_insert, dataOffset,
      ← offsetField]
    rfl

/-- The words behind the first one that reach past their eighth byte read as
headers without payload. -/
def PaddingIsSilent (packet : IpPacket) : Prop :=
  ∀ word ∈ packet.words.tail,
    word.keep.getLsbD 8 = true → word.paddingLength = 0

/-- The frame ends with the packet, or there is no payload and nothing
behind the packet passes for one. -/
def EndsClean (packet : IpPacket) : Prop :=
  if packet.payload = [] then
    packet.PaddingIsSilent
  else
    packet.bytes.length = packet.totalLength

/-- The record reports the length of the payload, and the payload frame, if
any, consists of the payload. -/
structure Delivers (packet : IpPacket) (msgs : List ParseMsg) : Prop where
  reported :
    (segMetas msgs).head?.map
        (fun segMeta => segMeta.header.payloadLength.toNat) =
      some packet.payload.length
  framed :
    Frames NetAXISWord.Holds NetAXISWord.last 64
      (if packet.payload = [] then [] else [packet.payload])
      (payloadWords msgs)

end IpPacket

/-! ## Words behind a header without payload -/

section Padding

variable {first : NetAXISWord} {words : List NetAXISWord}

theorem payloadWords_parsedMsgs_eq_nil_iff :
    payloadWords (parsedMsgs words) = [] ↔
      ∀ word ∈ words, word.tcpPayloadLength = 0 := by
  induction words with
  | nil =>
      exact ⟨fun _ _ member => (by cases member), fun _ => rfl⟩
  | cons first words inductionHypothesis =>
      rw [List.forall_mem_cons]
      by_cases none : first.tcpPayloadLength = 0
      · rw [parsedMsgs, if_pos none, ← inductionHypothesis]
        exact (and_iff_right none).symm
      · have frame :=
          @payloadWords_parsedMsgs words first
            (fun isNone => absurd isNone none)
        rw [frame, if_neg none]
        constructor
        · intro empty
          exact absurd empty realign_delimited.beats_ne_nil
        · intro silent
          exact absurd silent.1 none

/-- A word behind the first one of a frame: the final one may leave nothing
for a word of its own. -/
theorem realign_cases
    {curWord : NetAXISWord} {bytes : List (BitVec 8)}
    (frame :
      IsFrame NetAXISWord.Holds NetAXISWord.last 64 bytes
        (curWord :: words)) :
    (curWord.keep.getLsbD 8 = false ∧ words = [] ∧
      realign NetAXISWord.dest 8 first (curWord :: words) =
        [(joinWords NetAXISWord.dest curWord first 8).withLast true]) ∨
    (curWord.keep.getLsbD 8 = true ∧
      realign NetAXISWord.dest 8 first (curWord :: words) =
        (joinWords NetAXISWord.dest curWord first 8).withLast false ::
          realign NetAXISWord.dest 8 curWord words) := by
  cases extra : curWord.keep.getLsbD 8 with
  | true =>
      exact Or.inr ⟨rfl, realign_of_extra extra⟩
  | false =>
      left
      cases frame with
      | final _ _ _ raised =>
          exact ⟨rfl, rfl, realign_of_ended raised extra⟩
      | more holds full _ _ =>
          have kept := holds.keep 8 (by omega)
          rw [full, extra] at kept
          cases kept

theorem realign_silent_iff
    {bytes : List (BitVec 8)}
    (frame :
      IsFrame NetAXISWord.Holds NetAXISWord.last 64 bytes
        (first :: words)) :
    (∀ word ∈ realign NetAXISWord.dest 8 first words,
        word.tcpPayloadLength = 0) ↔
      first.paddingLength = 0 ∧
        ∀ word ∈ words,
          word.keep.getLsbD 8 = true → word.paddingLength = 0 := by
  induction words generalizing first bytes with
  | nil =>
      rw [realign, List.forall_mem_singleton,
        ← NetAXISWord.tcpPayloadLength_joinWords NetAXISWord.dest
          NetAXISWord.empty]
      exact
        ⟨fun silent => ⟨silent, fun _ member => (by cases member)⟩,
          fun silent => silent.1⟩
  | cons curWord words inductionHypothesis =>
      rw [List.forall_mem_cons,
        ← NetAXISWord.tcpPayloadLength_joinWords NetAXISWord.dest curWord]
      cases frame with
      | more _ _ _ rest =>
          rcases @realign_cases first words curWord _ rest with
            ⟨ended, rfl, written⟩ | ⟨extra, written⟩
          · rw [written, List.forall_mem_singleton, ended]
            refine ⟨fun silent => ⟨silent, ?_⟩, fun silent => silent.1⟩
            exact
              ⟨fun isExtra => (by cases isExtra),
                fun _ member => (by cases member)⟩
          · rw [written, List.forall_mem_cons, inductionHypothesis rest,
              extra]
            refine and_congr_right fun _ => and_congr_left fun _ => ?_
            exact ⟨fun silent _ => silent, fun silent => silent rfl⟩

theorem realign_tail_silent_iff
    {bytes : List (BitVec 8)}
    (frame :
      IsFrame NetAXISWord.Holds NetAXISWord.last 64 bytes
        (first :: words)) :
    (∀ word ∈ (realign NetAXISWord.dest 8 first words).tail,
        word.tcpPayloadLength = 0) ↔
      ∀ word ∈ words,
        word.keep.getLsbD 8 = true → word.paddingLength = 0 := by
  cases frame with
  | final _ _ _ _ =>
      exact
        ⟨fun _ _ member => (by cases member),
          fun _ _ member => (by cases member)⟩
  | more _ _ _ rest =>
      cases words with
      | nil =>
          exact absurd rfl rest.beats_ne_nil
      | cons curWord words =>
          rw [List.forall_mem_cons]
          rcases @realign_cases first words curWord _ rest with
            ⟨ended, rfl, written⟩ | ⟨extra, written⟩
          · rw [written, ended]
            refine ⟨fun _ => ?_, fun _ _ member => (by cases member)⟩
            exact
              ⟨fun isExtra => (by cases isExtra),
                fun _ member => (by cases member)⟩
          · rw [written, List.tail_cons, realign_silent_iff rest, extra]
            refine and_congr_left fun _ => ?_
            exact ⟨fun silent _ => silent, fun silent => silent rfl⟩

end Padding

/-- Without the pseudo header and the TCP header the payload is left. -/
theorem payload_isFrame
    {header : NetAXISWord} {later : List NetAXISWord}
    {headerBytes bytes : List (BitVec 8)} {dataOffset : Nat}
    (offset : header.tcpDataOffset.toNat = dataOffset)
    (atMost : dataOffset ≤ 12) (twelve : headerBytes.length = 12)
    (frame :
      IsFrame NetAXISWord.Holds NetAXISWord.last 64
        (headerBytes ++ bytes.drop 20) (header :: later))
    (left : bytes.drop (20 + 4 * dataOffset) ≠ []) :
    IsFrame NetAXISWord.Holds NetAXISWord.last 64
      (bytes.drop (20 + 4 * dataOffset))
      (realign noDest header.tcpPayloadOffsetBytes header later) := by
  have start :
      header.tcpPayloadOffsetBytes.toNat = 4 * dataOffset + 12 := by
    rw [NetAXISWord.tcpPayloadOffsetBytes, BitVec.toNat_add,
      BitVec.toNat_mul, BitVec.toNat_setWidth, offset]
    change (dataOffset % 64 * 4 % 64 + 12) % 64 = _
    omega
  have behind :
      (headerBytes ++ bytes.drop 20).drop
          header.tcpPayloadOffsetBytes.toNat =
        bytes.drop (20 + 4 * dataOffset) := by
    rw [start, Nat.add_comm (4 * dataOffset), ← List.drop_drop,
      ← twelve, List.drop_left, List.drop_drop]
  rw [← behind] at left ⊢
  refine realign_isFrame ?_ frame left
  intro zero
  rw [zero] at start
  change 0 = _ at start
  omega

/-- What is delivered for a packet in the idle state of both machines. -/
theorem delivers_parsed_iff
    (packet : IpPacket) {first : NetAXISWord} {rest : List NetAXISWord}
    (split : packet.words = first :: rest) (state : InsertState) :
    packet.Delivers (parsedMsgs (pseudoWords state first rest)) ↔
      packet.EndsClean := by
  have frame := packet.frame
  rw [split] at frame
  obtain ⟨header, later, words, laterEq, length, offset⟩ :=
    packet.pseudoWords_first split state
  have reported :
      (segMetas (parsedMsgs (header :: later))).head?.map
          (fun segMeta => segMeta.header.payloadLength.toNat) =
        some packet.payload.length := by
    rw [segMetas_parsedMsgs, List.head?_cons, Option.map_some, ← length]
    rfl
  rw [words, IpPacket.EndsClean]
  by_cases none : packet.payload = []
  · have noLength : header.tcpPayloadLength = 0 := by
      rw [none, List.length_nil] at length
      exact BitVec.eq_of_toNat_eq length
    have noFrame :
        payloadWords (parsedMsgs (header :: later)) =
          payloadWords (parsedMsgs later) := by
      rw [parsedMsgs, if_pos noLength]
      rfl
    rw [if_pos none, IpPacket.PaddingIsSilent, split, List.tail_cons,
      ← realign_tail_silent_iff frame, ← laterEq,
      ← payloadWords_parsedMsgs_eq_nil_iff, ← noFrame]
    constructor
    · intro delivers
      have framed := delivers.framed
      rw [if_pos none] at framed
      exact framed.eq_nil
    · intro empty
      refine ⟨reported, ?_⟩
      rw [if_pos none, empty]
      exact Frames.nil
  · have someLength : header.tcpPayloadLength ≠ 0 := by
      intro isNone
      rw [isNone] at length
      exact none (List.eq_nil_of_length_eq_zero length.symm)
    have written :=
      @payloadWords_parsedMsgs later header
        (fun isNone => absurd isNone someLength)
    rw [if_neg someLength] at written
    have left :
        packet.bytes.drop (20 + 4 * packet.dataOffset) ≠ [] := by
      intro noBytes
      apply none
      rw [IpPacket.payload, List.drop_take, noBytes, List.take_nil]
    have headerFrame :=
      pseudoWords_isFrame (packet.ipHeaderLength_first split state) frame
        packet.twenty_le
    rw [words] at headerFrame
    obtain ⟨headerBytes, twelve, behind⟩ := headerFrame
    have payloadFrame :=
      payload_isFrame offset packet.dataOffset_le twelve behind left
    rw [← written] at payloadFrame
    rw [if_neg none]
    constructor
    · intro delivers
      have framed := delivers.framed
      rw [if_neg none] at framed
      have same :=
        framed.unique NetAXISWord.holds_unique
          (Frames.single payloadFrame)
      have lengths := congrArg List.length (List.cons.inj same).1
      have positive := List.length_pos_of_ne_nil none
      rw [List.length_drop, packet.length_payload] at lengths
      rw [packet.length_payload] at positive
      omega
    · intro ends
      refine ⟨reported, ?_⟩
      have whole :
          packet.payload =
            packet.bytes.drop (20 + 4 * packet.dataOffset) := by
        rw [IpPacket.payload, ← ends, List.take_length]
      rw [if_neg none, whole]
      exact Frames.single payloadFrame

theorem yields_packet
    (packet : IpPacket) (state : InsertState) (prevWord : NetAXISWord)
    (offset : BitVec 6) :
    ∃ pseudo msgs insertFinal parseFinal,
      Yields rxEngTcpPseudoHeaderInsert (state.idle packet.words) pseudo
        insertFinal ∧
      Yields rxEngParseTcpHeader
        (ParseState.idle prevWord offset pseudo) msgs parseFinal ∧
      (packet.Delivers msgs ↔ packet.EndsClean) := by
  cases split : packet.words with
  | nil =>
      exact absurd split packet.frame.beats_ne_nil
  | cons first rest =>
      have frame := packet.frame.delimited
      rw [split] at frame
      have five := packet.ipHeaderLength_first split state
      obtain ⟨insertFinal, inserts⟩ :=
        @runs_insert state rest [] first (by rw [five]; decide)
          (by rw [five]; decide) frame
      obtain ⟨lastWord, lastOffset, parses⟩ :=
        @runs_packet prevWord offset (pseudoWords state first rest) []
          (pseudoWords_delimited state first rest)
      rw [List.append_nil] at inserts parses
      exact
        ⟨_, _, _, _, ⟨inserts, rfl⟩, ⟨parses, rfl⟩,
          delivers_parsed_iff packet split state⟩

/-- The two machines deliver the payload of a packet exactly when the frame
ends with the packet, or when there is no payload and the padding does not
read as one. -/
theorem delivers_iff
    (packet : IpPacket) (state : InsertState) (prevWord : NetAXISWord)
    (offset : BitVec 6) :
    (∃ pseudo msgs insertFinal parseFinal,
        Yields rxEngTcpPseudoHeaderInsert (state.idle packet.words) pseudo
          insertFinal ∧
        Yields rxEngParseTcpHeader
          (ParseState.idle prevWord offset pseudo) msgs parseFinal ∧
        packet.Delivers msgs) ↔
      packet.EndsClean := by
  obtain ⟨pseudo, msgs, insertFinal, parseFinal, inserts, parses, meets⟩ :=
    yields_packet packet state prevWord offset
  constructor
  · rintro ⟨otherPseudo, otherMsgs, _, _, inserted, parsed, delivers⟩
    rw [(inserted.unique inserts).1] at parsed
    rw [(parsed.unique parses).1] at delivers
    exact meets.1 delivers
  · intro endsClean
    exact
      ⟨pseudo, msgs, insertFinal, parseFinal, inserts, parses,
        meets.2 endsClean⟩

/-! ## A padded frame -/

/-- An IP header of 20 bytes, a TCP header of 20 bytes, 4 bytes of payload,
and the 2 bytes of padding that make a shortest Ethernet frame. -/
def paddedBytes : List (BitVec 8) :=
  [0x45, 0, 0, 44] ++ List.replicate 28 0 ++ [0x50] ++ List.replicate 13 0

def paddedPacket : IpPacket where
  bytes := paddedBytes
  words := [NetAXISWord.ofBytes paddedBytes true]
  frame :=
    IsFrame.final (NetAXISWord.holds_ofBytes true (by decide)) (by decide)
      (by decide) rfl
  headerLength := by decide
  dataOffset_ge := by decide
  dataOffset_le := by decide
  holdsHeaders := by decide
  delivered := by decide

theorem not_delivers_paddedPacket :
    ¬ ∃ pseudo msgs insertFinal parseFinal,
        Yields rxEngTcpPseudoHeaderInsert
          (InsertState.start.idle paddedPacket.words) pseudo insertFinal ∧
        Yields rxEngParseTcpHeader
          (ParseState.idle NetAXISWord.empty 0 pseudo) msgs parseFinal ∧
        paddedPacket.Delivers msgs := by
  rintro ⟨otherPseudo, otherMsgs, _, _, inserted, parsed, delivers⟩
  obtain ⟨pseudo, msgs, _, _, inserts, parses, meets⟩ :=
    yields_packet paddedPacket InsertState.start NetAXISWord.empty 0
  rw [(inserted.unique inserts).1] at parsed
  rw [(parsed.unique parses).1] at delivers
  have clean := meets.1 delivers
  rw [IpPacket.EndsClean, if_neg (by decide)] at clean
  exact absurd clean (by decide)

end TcpOffload
