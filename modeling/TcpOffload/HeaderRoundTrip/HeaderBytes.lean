import TcpOffload.RxEngine.ParseOptions
import TcpOffload.RxEngine.PseudoFrames
import TcpOffload.TxEngine.FullHeader
import TcpOffload.TxEngine.Ipv4Frames

/-!
# The bytes of a segment without payload

What `TxEngPseudoFullHeaderConstruct` writes for such a segment, byte by byte,
and what `RxEngParseTcpHeader` reads in a word with these bytes.
-/

namespace TcpOffload

open Clocked Framing

/-! ## Bytes in the opposite order -/

theorem swapByte_thirtyTwo (word : BitVec 32) :
    swapByte word =
      word.extractLsb' 0 8 ++ word.extractLsb' 8 8 ++
        word.extractLsb' 16 8 ++ word.extractLsb' 24 8 := by
  apply BitVec.eq_of_getLsbD_eq
  intro bit inWord
  have steps : List.range (32 / 8) = [0, 1, 2, 3] := by
    decide
  simp only [swapByte, steps, List.foldl_cons, List.foldl_nil,
    BitVec.getLsbD_or, BitVec.getLsbD_shiftLeft, BitVec.getLsbD_setWidth,
    BitVec.getLsbD_extractLsb', BitVec.getLsbD_append, inWord]
  by_cases first : bit < 8
  · simp [first]
    grind
  · by_cases second : bit < 16
    · simp [first]
      grind
    · by_cases third : bit < 24
      · simp [first]
        grind
      · simp [first]
        grind

theorem swapByte_swapByte_thirtyTwo (word : BitVec 32) :
    swapByte (swapByte word) = word := by
  rw [swapByte_thirtyTwo (swapByte word), swapByte_thirtyTwo]
  simp (disch := decide) only [BitVec.extractLsb'_append_eq_of_le,
    BitVec.extractLsb'_append_eq_of_add_le]
  simp only [Nat.sub_self, Nat.reduceSub, BitVec.extractLsb'_eq_self]
  rw [BitVec.extractLsb'_append_extractLsb'_eq_extractLsb' (by decide),
    BitVec.extractLsb'_append_extractLsb'_eq_extractLsb' (by decide),
    BitVec.extractLsb'_append_extractLsb'_eq_extractLsb' (by decide)]
  exact BitVec.extractLsb'_eq_self

/-! ## Words with the same bytes -/

namespace NetAXISWord

/-- The bytes of the first lanes. -/
def firstBytes (word : NetAXISWord) (count : Nat) : List (BitVec 8) :=
  (List.range count).map word.byte

theorem length_firstBytes (word : NetAXISWord) (count : Nat) :
    (word.firstBytes count).length = count := by
  rw [firstBytes, List.length_map, List.length_range]

theorem getElem_firstBytes
    (word : NetAXISWord) {count lane : Nat}
    (inside : lane < (word.firstBytes count).length) :
    (word.firstBytes count)[lane] = word.byte lane := by
  simp only [firstBytes, List.getElem_map, List.getElem_range]

theorem holds_firstBytes
    {word : NetAXISWord} {count : Nat} (fits : count ≤ 64)
    (keep :
      ∀ lane, lane < 64 →
        word.keep.getLsbD lane = decide (lane < count)) :
    word.Holds (word.firstBytes count) where
  fits := by
    rw [length_firstBytes]
    exact fits
  keep := by
    rw [length_firstBytes]
    exact keep
  data := fun _ inBytes => (word.getElem_firstBytes inBytes).symm

theorem getLsbD_byte (word : NetAXISWord) (bit : Nat) :
    word.data.getLsbD bit = (word.byte (bit / 8)).getLsbD (bit % 8) := by
  have inByte : bit % 8 < 8 := Nat.mod_lt _ (by decide)
  have position : 8 * (bit / 8) + bit % 8 = bit := Nat.div_add_mod bit 8
  rw [byte, BitVec.getLsbD_extractLsb', decide_eq_true inByte,
    Bool.true_and, position]

section Same

variable {word other : NetAXISWord} {count : Nat}

theorem getLsbD_of_same
    (same : ∀ lane, lane < count → word.byte lane = other.byte lane)
    {bit : Nat} (inside : bit < 8 * count) :
    word.data.getLsbD bit = other.data.getLsbD bit := by
  rw [getLsbD_byte, getLsbD_byte, same (bit / 8) (by omega)]

theorem extractLsb'_of_same
    (same : ∀ lane, lane < count → word.byte lane = other.byte lane)
    {start width : Nat} (inside : start + width ≤ 8 * count) :
    word.data.extractLsb' start width =
      other.data.extractLsb' start width := by
  apply BitVec.eq_of_getLsbD_eq
  intro bit inField
  rw [BitVec.getLsbD_extractLsb', BitVec.getLsbD_extractLsb',
    getLsbD_of_same same (by omega)]

/-- All fields but the options come from the bytes in front of the
checksum. -/
theorem tcpSegMeta_of_same
    (same : ∀ lane, lane < 28 → word.byte lane = other.byte lane) :
    word.tcpSegMeta =
      { other.tcpSegMeta with
        tcpOptions := word.tcpSegMeta.tcpOptions } := by
  have field {start width : Nat} (inside : start + width ≤ 224) :
      word.data.extractLsb' start width =
        other.data.extractLsb' start width :=
    extractLsb'_of_same same inside
  have flag {bit : Nat} (inside : bit < 224) :
      word.data.getLsbD bit = other.data.getLsbD bit :=
    getLsbD_of_same same inside
  have dataOffset : word.tcpDataOffset = other.tcpDataOffset :=
    field (by decide)
  have payloadLength : word.tcpPayloadLength = other.tcpPayloadLength := by
    rw [tcpPayloadLength, tcpPayloadLength, dataOffset,
      field (by decide : 80 + 16 ≤ 224)]
  simp only [tcpSegMeta, dataOffset, payloadLength,
    field (by decide : 0 + 32 ≤ 224), field (by decide : 32 + 32 ≤ 224),
    field (by decide : 96 + 16 ≤ 224), field (by decide : 112 + 16 ≤ 224),
    field (by decide : 128 + 32 ≤ 224), field (by decide : 160 + 32 ≤ 224),
    field (by decide : 208 + 16 ≤ 224), flag (by decide : 207 < 224),
    flag (by decide : 206 < 224), flag (by decide : 205 < 224),
    flag (by decide : 204 < 224), flag (by decide : 203 < 224),
    flag (by decide : 202 < 224), flag (by decide : 201 < 224),
    flag (by decide : 200 < 224)]

end Same

/-- The options are the bytes behind the urgent pointer. -/
theorem optionByte_tcpSegMeta
    (word : NetAXISWord) {index : Nat} (inside : index < 32) :
    word.tcpSegMeta.optionByte index = word.byte (32 + index) := by
  rw [TcpPseudoHeaderMeta.optionByte, tcpSegMeta,
    BitVec.extractLsb'_setWidth_of_le (by omega),
    extractLsb'_extractLsb' _ (by omega), byte, Nat.mul_add]

end NetAXISWord

/-! ## Segments without payload -/

/-- A SYN or SYN_ACK has the length of its options, another segment without
payload has the length 0. -/
inductive TxEngFsmMetaData.IsPayloadless
    (segment : TxEngFsmMetaData) : Prop
  | scaled :
      segment.syn = true →
      segment.length = 8 →
      segment.winScale ≠ 0 →
      segment.winScale.toNat ≤ windowScaleBits →
      IsPayloadless segment
  | unscaled :
      segment.syn = true →
      segment.length = 4 →
      segment.winScale = 0 →
      IsPayloadless segment
  | noOptions :
      segment.syn = false →
      segment.length = 0 →
      IsPayloadless segment

/-- A segment without payload and the tuple it is sent with. -/
structure HeaderItem where
  segment : TxEngFsmMetaData
  tuple : FourTuple
  payloadless : segment.IsPayloadless
deriving DecidableEq, Repr

namespace HeaderItem

variable (item : HeaderItem)

/-- What `TxEngPseudoFullHeaderConstruct` writes. -/
def header : NetAXISWord :=
  item.segment.pseudoFullHeader item.tuple

/-- The pseudo header, the TCP header and the options. -/
def bytes : List (BitVec 8) :=
  item.header.firstBytes (32 + item.segment.length.toNat)

theorem length_bytes :
    item.bytes.length = 32 + item.segment.length.toNat :=
  item.header.length_firstBytes _

theorem header_field {start width : Nat} (inside : start + width ≤ 512) :
    item.header.data.extractLsb' start width =
      (item.segment.tcpOptions ++
        (item.segment.tcpFields ++
          (item.tuple.dstTcpPort ++ item.tuple.srcTcpPort ++
            swapByte (item.segment.length + 0x14) ++
            (0x0600 : BitVec 16) ++ item.tuple.dstIpAddr ++
            item.tuple.srcIpAddr))).extractLsb' start width := by
  simp only [header, TxEngFsmMetaData.pseudoFullHeader]
  rw [BitVec.extractLsb'_setWidth_of_le inside]

/-- The lowest fields, up to the length. -/
theorem header_pseudoField
    {start width : Nat} (inside : start + width ≤ 96) :
    item.header.data.extractLsb' start width =
      (swapByte (item.segment.length + 0x14) ++ (0x0600 : BitVec 16) ++
        item.tuple.dstIpAddr ++ item.tuple.srcIpAddr).extractLsb' start
          width := by
  rw [header_field item (by omega),
    BitVec.extractLsb'_append_eq_of_add_le (by omega),
    BitVec.extractLsb'_append_eq_of_add_le (by omega)]
  apply BitVec.eq_of_getLsbD_eq
  intro bit inField
  simp only [BitVec.getLsbD_extractLsb', BitVec.getLsbD_append]
  split
  · rfl
  · split
    · rfl
    · split
      · rfl
      · rw [if_pos (by omega)]

theorem header_flag {bit : Nat} (inside : bit < 128) :
    item.header.data.getLsbD (128 + bit) =
      item.segment.tcpFields.getLsbD bit := by
  rw [header, TxEngFsmMetaData.pseudoFullHeader, BitVec.getLsbD_setWidth,
    BitVec.getLsbD_append, BitVec.getLsbD_append,
    if_pos (by omega), if_neg (by omega), decide_eq_true (by omega),
    Bool.true_and]
  have position :
      128 + bit - (16 + 16 + 16 + 16 + 32 + 32) = bit := by
    omega
  rw [position]

theorem header_tcpField
    {start width : Nat} (inside : start + width ≤ 128) :
    item.header.data.extractLsb' (128 + start) width =
      item.segment.tcpFields.extractLsb' start width := by
  apply BitVec.eq_of_getLsbD_eq
  intro bit inField
  rw [BitVec.getLsbD_extractLsb', BitVec.getLsbD_extractLsb',
    Nat.add_assoc, header_flag item (by omega)]

theorem header_options
    {start width : Nat} (inside : start + width ≤ 64) :
    item.header.data.extractLsb' (256 + start) width =
      item.segment.tcpOptions.extractLsb' start width := by
  rw [header_field item (by omega),
    BitVec.extractLsb'_append_eq_of_le (by omega)]
  have position :
      256 + start - (128 + (16 + 16 + 16 + 16 + 32 + 32)) = start := by
    omega
  rw [position]

/-- The checksum and the urgent pointer. -/
theorem header_byte_zero
    {lane : Nat} (behind : 28 ≤ lane) (inside : lane < 32) :
    item.header.byte lane = 0 := by
  have position : 8 * lane = 128 + (96 + 8 * (lane - 28)) := by
    omega
  apply BitVec.eq_of_getLsbD_eq
  intro bit inByte
  rw [NetAXISWord.byte, position, header_tcpField item (by omega),
    BitVec.getLsbD_extractLsb', TxEngFsmMetaData.tcpFields,
    BitVec.getLsbD_append, if_neg (by omega), BitVec.getLsbD_append,
    if_neg (by omega), BitVec.getLsbD_append, if_neg (by omega),
    BitVec.getLsbD_append, if_neg (by omega), BitVec.getLsbD_append,
    if_neg (by omega), BitVec.ofNat_eq_ofNat, BitVec.getLsbD_zero,
    Bool.and_false, BitVec.ofNat_eq_ofNat, BitVec.getLsbD_zero]

theorem header_srcIp :
    item.header.data.extractLsb' 0 32 = item.tuple.srcIpAddr := by
  rw [header_field item (by decide)]
  simp (disch := decide) only [BitVec.extractLsb'_append_eq_of_add_le,
    BitVec.extractLsb'_eq_self]

theorem header_destIp :
    item.header.data.extractLsb' 32 32 = item.tuple.dstIpAddr := by
  rw [header_field item (by decide)]
  simp (disch := decide) only [BitVec.extractLsb'_append_eq_of_le,
    BitVec.extractLsb'_append_eq_of_add_le, Nat.sub_self,
    BitVec.extractLsb'_eq_self]

theorem header_length :
    swapByte (item.header.data.extractLsb' 80 16) =
      item.segment.length + 0x14 := by
  rw [header_field item (by decide)]
  simp (disch := decide) only [BitVec.extractLsb'_append_eq_of_le,
    BitVec.extractLsb'_append_eq_of_add_le, Nat.reduceSub,
    BitVec.extractLsb'_eq_self, swapByte_swapByte_sixteen]

theorem header_srcPort :
    item.header.data.extractLsb' 96 16 = item.tuple.srcTcpPort := by
  rw [header_field item (by decide)]
  simp (disch := decide) only [BitVec.extractLsb'_append_eq_of_le,
    BitVec.extractLsb'_append_eq_of_add_le, Nat.reduceSub,
    BitVec.extractLsb'_eq_self]

theorem header_destPort :
    item.header.data.extractLsb' 112 16 = item.tuple.dstTcpPort := by
  rw [header_field item (by decide)]
  simp (disch := decide) only [BitVec.extractLsb'_append_eq_of_le,
    BitVec.extractLsb'_append_eq_of_add_le, Nat.reduceSub,
    BitVec.extractLsb'_eq_self]

theorem header_seqNumber :
    swapByte (item.header.data.extractLsb' 128 32) =
      item.segment.seqNumber := by
  rw [header_tcpField item (by decide : 0 + 32 ≤ 128),
    TxEngFsmMetaData.tcpFields]
  simp (disch := decide) only [BitVec.extractLsb'_append_eq_of_add_le,
    BitVec.extractLsb'_eq_self, swapByte_swapByte_thirtyTwo]

theorem header_ackNumber :
    swapByte (item.header.data.extractLsb' 160 32) =
      item.segment.ackNumber := by
  rw [header_tcpField item (by decide : 32 + 32 ≤ 128),
    TxEngFsmMetaData.tcpFields]
  simp (disch := decide) only [BitVec.extractLsb'_append_eq_of_le,
    BitVec.extractLsb'_append_eq_of_add_le, Nat.sub_self,
    BitVec.extractLsb'_eq_self, swapByte_swapByte_thirtyTwo]

theorem header_dataOffset :
    item.header.tcpDataOffset =
      if item.segment.syn then
        if item.segment.winScale ≠ 0 then 7 else 6
      else
        5 := by
  rw [NetAXISWord.tcpDataOffset,
    header_tcpField item (by decide : 68 + 4 ≤ 128),
    TxEngFsmMetaData.tcpFields]
  simp (disch := decide) only [BitVec.extractLsb'_append_eq_of_le,
    BitVec.extractLsb'_append_eq_of_add_le, Nat.reduceSub,
    BitVec.extractLsb'_eq_self]

theorem header_winSize :
    swapByte (item.header.data.extractLsb' 208 16) =
      item.segment.winSize := by
  have field :
      item.header.data.extractLsb' 208 16 =
        (swapByte item.segment.winSize).extractLsb' 0 16 := by
    rw [header_tcpField item (by decide : 80 + 16 ≤ 128),
      TxEngFsmMetaData.tcpFields]
    simp (disch := decide) only [BitVec.extractLsb'_append_eq_of_le,
      BitVec.extractLsb'_append_eq_of_add_le, Nat.reduceSub]
  rw [field, BitVec.extractLsb'_eq_self, swapByte_swapByte_sixteen]

/-- The flags, from FIN up. -/
theorem header_flags :
    item.header.data.extractLsb' 200 8 =
      (0 : BitVec 3) ++ BitVec.ofBool item.segment.ack ++
        (0 : BitVec 1) ++ BitVec.ofBool item.segment.rst ++
        BitVec.ofBool item.segment.syn ++
        BitVec.ofBool item.segment.fin := by
  have field :
      item.header.data.extractLsb' 200 8 =
        ((0 : BitVec 3) ++ BitVec.ofBool item.segment.ack ++
          (0 : BitVec 1) ++ BitVec.ofBool item.segment.rst ++
          BitVec.ofBool item.segment.syn ++
          BitVec.ofBool item.segment.fin).extractLsb' 0 8 := by
    rw [header_tcpField item (by decide : 72 + 8 ≤ 128),
      TxEngFsmMetaData.tcpFields]
    simp (disch := decide) only [BitVec.extractLsb'_append_eq_of_le,
      BitVec.extractLsb'_append_eq_of_add_le, Nat.reduceSub]
  rw [field]
  exact BitVec.extractLsb'_eq_self

/-! ## The fields of a record -/

section Payloadless

variable {item : HeaderItem}

theorem header_keep :
    item.header.keep =
      if item.segment.syn then
        if item.segment.winScale ≠ 0 then 0xFFFFFFFFFF else 0xFFFFFFFFF
      else
        0xFFFFFFFF :=
  rfl

theorem header_holds (item : HeaderItem) :
    item.header.Holds item.bytes := by
  cases item.payloadless with
  | scaled isSyn length scaled _ =>
      rw [bytes, length]
      refine NetAXISWord.holds_firstBytes (by decide) ?_
      rw [header_keep, isSyn, if_pos rfl, if_pos scaled]
      decide
  | unscaled isSyn length unscaled =>
      rw [bytes, length]
      refine NetAXISWord.holds_firstBytes (by decide) ?_
      rw [header_keep, isSyn, if_pos rfl, if_neg (not_not.2 unscaled)]
      decide
  | noOptions notSyn length =>
      rw [bytes, length]
      refine NetAXISWord.holds_firstBytes (by decide) ?_
      rw [header_keep, notSyn, if_neg Bool.false_ne_true]
      decide

theorem length_le (item : HeaderItem) :
    item.segment.length.toNat ≤ 8 := by
  cases item.payloadless with
  | scaled _ length _ _ | unscaled _ length _ | noOptions _ length =>
      rw [length]
      decide

theorem noPayload (item : HeaderItem) :
    item.segment.packetContainsPayload = false := by
  rw [TxEngFsmMetaData.packetContainsPayload]
  cases item.payloadless with
  | scaled isSyn _ _ _ | unscaled isSyn _ _ =>
      rw [isSyn, Bool.or_true, Bool.not_true]
  | noOptions _ length =>
      rw [length, beq_self_eq_true, Bool.true_or, Bool.not_true]

theorem header_payloadLength (item : HeaderItem) :
    item.header.tcpPayloadLength = 0 := by
  rw [NetAXISWord.tcpPayloadLength, header_length, header_dataOffset]
  cases item.payloadless with
  | scaled isSyn length scaled _ =>
      rw [isSyn, length, if_pos rfl, if_pos scaled]
      decide
  | unscaled isSyn length unscaled =>
      rw [isSyn, length, if_pos rfl, if_neg (not_not.2 unscaled)]
      decide
  | noOptions notSyn length =>
      rw [notSyn, length, if_neg Bool.false_ne_true]
      decide

end Payloadless

/-- The options of a SYN. -/
def options : List TcpOption :=
  if item.segment.syn then
    .other 2 [(BitVec.ofNat 16 tcpMss).extractLsb' 8 8,
        (BitVec.ofNat 16 tcpMss).extractLsb' 0 8] ::
      if item.segment.winScale ≠ 0 then
        [.windowScale (item.segment.winScale.setWidth 8), .endOfList]
      else
        []
  else
    []

/-- With a window scale the options end with one byte of padding. -/
theorem scaledOptions_byte :
    ∀ winScale : BitVec 4,
      ∀ index : Fin 8,
        ((0x00 : BitVec 8) ++ winScale.setWidth 8 ++ (0x03 : BitVec 8) ++
            (0x03 : BitVec 8) ++ swapByte (BitVec.ofNat 16 tcpMss) ++
            (0x04 : BitVec 8) ++ (0x02 : BitVec 8)).extractLsb'
              (8 * index.val) 8 =
          [2, 4, (BitVec.ofNat 16 tcpMss).extractLsb' 8 8,
            (BitVec.ofNat 16 tcpMss).extractLsb' 0 8, 3, 3,
            winScale.setWidth 8, 0].get index := by
  decide

theorem unscaledOptions_byte :
    ∀ index : Fin 4,
      ((0 : BitVec 32) ++ swapByte (BitVec.ofNat 16 tcpMss) ++
          (0x04 : BitVec 8) ++ (0x02 : BitVec 8)).extractLsb'
            (8 * index.val) 8 =
        [2, 4, (BitVec.ofNat 16 tcpMss).extractLsb' 8 8,
          (BitVec.ofNat 16 tcpMss).extractLsb' 0 8].get index := by
  decide

theorem header_optionByte
    {item : HeaderItem} {index : Nat}
    (inside : index < (item.options.flatMap TcpOption.bytes).length) :
    item.header.byte (32 + index) =
      (item.options.flatMap TcpOption.bytes).get ⟨index, inside⟩ := by
  have byte (short : index < 8) :
      item.header.byte (32 + index) =
        item.segment.tcpOptions.extractLsb' (8 * index) 8 := by
    rw [NetAXISWord.byte, Nat.mul_add]
    exact item.header_options (by omega)
  cases isSyn : item.segment.syn with
  | false =>
      have none : item.options = [] := by
        rw [options, isSyn, if_neg Bool.false_ne_true]
      simp only [none, List.flatMap_nil, List.length_nil] at inside
      cases inside
  | true =>
      by_cases unscaled : item.segment.winScale = 0
      · have isOptions :
            item.options.flatMap TcpOption.bytes =
              [2, 4, (BitVec.ofNat 16 tcpMss).extractLsb' 8 8,
                (BitVec.ofNat 16 tcpMss).extractLsb' 0 8] := by
          rw [options, isSyn, if_pos rfl, if_neg (not_not.2 unscaled)]
          rfl
        have inFour : index < 4 := by
          rw [isOptions] at inside
          exact inside
        have read := unscaledOptions_byte ⟨index, inFour⟩
        simp only [List.get_eq_getElem, isOptions]
        rw [byte (by omega), TxEngFsmMetaData.tcpOptions, isSyn,
          if_pos rfl, if_neg (not_not.2 unscaled)]
        exact read
      · have isOptions :
            item.options.flatMap TcpOption.bytes =
              [2, 4, (BitVec.ofNat 16 tcpMss).extractLsb' 8 8,
                (BitVec.ofNat 16 tcpMss).extractLsb' 0 8, 3, 3,
                item.segment.winScale.setWidth 8, 0] := by
          rw [options, isSyn, if_pos rfl, if_pos unscaled]
          rfl
        have inEight : index < 8 := by
          rw [isOptions] at inside
          exact inside
        have read :=
          scaledOptions_byte item.segment.winScale ⟨index, inEight⟩
        simp only [List.get_eq_getElem, isOptions]
        rw [byte inEight, TxEngFsmMetaData.tcpOptions, isSyn, if_pos rfl,
          if_pos unscaled]
        exact read

/-! ## Records of the received segment -/

/-- The bytes with the checksum over them in its field. -/
def sent : List (BitVec 8) :=
  setField item.bytes 14 (internetChecksum item.bytes)

theorem length_sent :
    item.sent.length = 32 + item.segment.length.toNat := by
  rw [sent, length_setField, length_bytes]

/-- Around the checksum the bytes are those of the header. -/
theorem getElem_sent
    {lane : Nat} (inside : lane < item.sent.length)
    (notField : lane < 28 ∨ 30 ≤ lane) :
    item.sent[lane] = item.header.byte lane := by
  have notUpper : 2 * 14 ≠ lane := by
    omega
  have notLower : 2 * 14 + 1 ≠ lane := by
    omega
  simp only [sent, setField]
  rw [List.getElem_set_ne notLower, List.getElem_set_ne notUpper]
  exact item.header.getElem_firstBytes _

theorem setField_zero : setField item.bytes 14 0 = item.bytes := by
  apply List.ext_getElem (length_setField _ _ _)
  intro lane inSet inBytes
  have isByte : item.bytes[lane] = item.header.byte lane :=
    item.header.getElem_firstBytes inBytes
  rw [isByte]
  simp only [setField, List.getElem_set]
  split
  · rename_i lower
    rw [header_byte_zero item (by omega) (by omega)]
    rfl
  · split
    · rename_i upper
      rw [header_byte_zero item (by omega) (by omega)]
      rfl
    · exact isByte

theorem internetChecksum_sent : internetChecksum item.sent = 0 := by
  have inside : 2 * 14 + 1 < item.bytes.length := by
    rw [length_bytes]
    omega
  have correct := internetChecksum_setField inside
  rw [setField_zero] at correct
  exact correct

section Received

variable {item : HeaderItem} {word : NetAXISWord}

theorem byte_received
    (holds : word.Holds item.sent) {lane : Nat}
    (inside : lane < 32 + item.segment.length.toNat)
    (notField : lane < 28 ∨ 30 ≤ lane) :
    word.byte lane = item.header.byte lane := by
  have inSent : lane < item.sent.length := by
    rw [length_sent]
    exact inside
  rw [holds.data lane inSent, getElem_sent item inSent notField]

theorem tcpSegMeta_received (holds : word.Holds item.sent) :
    word.tcpSegMeta =
      { item.header.tcpSegMeta with
        tcpOptions := word.tcpSegMeta.tcpOptions } := by
  apply NetAXISWord.tcpSegMeta_of_same
  intro lane inFront
  exact byte_received holds (by omega) (Or.inl inFront)

end Received

/-- The window scale that a header announces: only a SYN has one. -/
def announced : BitVec 4 :=
  if item.segment.syn then item.segment.winScale else 0

/-- The record has the fields of the segment, with `winScale` for the window
scale, and no payload. -/
structure Restored
    (item : HeaderItem) (winScale : BitVec 4)
    (record : TcpPseudoHeaderMeta) : Prop where
  srcIp : record.srcIp = item.tuple.srcIpAddr
  destIp : record.destIp = item.tuple.dstIpAddr
  srcPort : record.srcPort = item.tuple.srcTcpPort
  destPort : record.destPort = item.tuple.dstTcpPort
  seqNumber : record.header.seqNumber = item.segment.seqNumber
  ackNumber : record.header.ackNumber = item.segment.ackNumber
  winSize : record.header.winSize = item.segment.winSize
  syn : record.header.syn = item.segment.syn
  ack : record.header.ack = item.segment.ack
  fin : record.header.fin = item.segment.fin
  rst : record.header.rst = item.segment.rst
  winScale : record.header.winScale.setWidth 4 = winScale
  payloadLength : record.header.payloadLength = 0

section Parsed

variable {item : HeaderItem} {word : NetAXISWord}

theorem length_options (item : HeaderItem) :
    (item.options.flatMap TcpOption.bytes).length =
      item.segment.length.toNat := by
  cases item.payloadless with
  | scaled isSyn length scaled _ =>
      rw [options, isSyn, length, if_pos rfl, if_pos scaled]
      rfl
  | unscaled isSyn length unscaled =>
      rw [options, isSyn, length, if_pos rfl, if_neg (not_not.2 unscaled)]
      rfl
  | noOptions notSyn length =>
      rw [options, notSyn, length, if_neg Bool.false_ne_true]
      rfl

theorem header_optionsLength (item : HeaderItem) :
    (item.header.tcpDataOffset.toNat - 5) * 4 =
      item.segment.length.toNat := by
  rw [header_dataOffset]
  cases item.payloadless with
  | scaled isSyn length scaled _ =>
      rw [isSyn, length, if_pos rfl, if_pos scaled]
      decide
  | unscaled isSyn length unscaled =>
      rw [isSyn, length, if_pos rfl, if_neg (not_not.2 unscaled)]
      decide
  | noOptions notSyn length =>
      rw [notSyn, length, if_neg Bool.false_ne_true]
      decide

theorem wellFormed_options (item : HeaderItem) :
    ∀ option ∈ item.options, option.WellFormed := by
  have mss :
      (TcpOption.other 2 [(BitVec.ofNat 16 tcpMss).extractLsb' 8 8,
        (BitVec.ofNat 16 tcpMss).extractLsb' 0 8]).WellFormed := by
    exact ⟨by decide, by decide, by decide⟩
  cases item.payloadless with
  | scaled isSyn _ scaled small =>
      have shift :
          (TcpOption.windowScale
            (item.segment.winScale.setWidth 8)).WellFormed := by
        have wide := item.segment.winScale.isLt
        have bits : windowScaleBits = 2 := rfl
        rw [TcpOption.WellFormed, BitVec.toNat_setWidth]
        omega
      rw [options, isSyn, if_pos rfl, if_pos scaled]
      simp only [List.forall_mem_cons]
      exact ⟨mss, shift, trivial, fun _ member => by cases member⟩
  | unscaled isSyn _ unscaled =>
      rw [options, isSyn, if_pos rfl, if_neg (not_not.2 unscaled)]
      exact List.forall_mem_singleton.2 mss
  | noOptions notSyn _ =>
      rw [options, notSyn, if_neg Bool.false_ne_true]
      exact fun _ member => by cases member

theorem holdsOptions
    (holds : word.Holds item.sent) :
    word.tcpSegMeta.HoldsOptions item.options where
  wellFormed := wellFormed_options item
  length := by
    rw [length_options item, tcpSegMeta_received holds]
    exact (header_optionsLength item).symm
  byte := by
    intro index inside
    have length := length_options item
    have short := length_le item
    rw [word.optionByte_tcpSegMeta (by omega),
      byte_received holds (by omega) (Or.inr (by omega)),
      header_optionByte inside]

/-- What the parser of the options makes of the word. -/
def record (item : HeaderItem) (word : NetAXISWord) :
    TcpPseudoHeaderMeta :=
  (word.tcpSegMeta.withShift
    (word.tcpSegMeta.parsedShift item.options)).clearOptions

theorem withShift_winScale
    (segMeta : TcpPseudoHeaderMeta) (shift : Option (BitVec 8)) :
    (segMeta.withShift shift).clearOptions =
      { segMeta with
        header :=
          { segMeta.header with
            winScale := (segMeta.withShift shift).header.winScale }
        tcpOptions := 0 } := by
  cases shift <;> rfl

theorem header_flag_values :
    item.header.data.getLsbD 204 = item.segment.ack ∧
      item.header.data.getLsbD 202 = item.segment.rst ∧
      item.header.data.getLsbD 201 = item.segment.syn ∧
      item.header.data.getLsbD 200 = item.segment.fin := by
  have bit (position : Nat) (inByte : position < 8) :
      item.header.data.getLsbD (200 + position) =
        (item.header.data.extractLsb' 200 8).getLsbD position := by
    rw [BitVec.getLsbD_extractLsb', decide_eq_true inByte, Bool.true_and]
  have flags :
      ∀ ack rst syn fin : Bool,
        let byte : BitVec 8 :=
          (0 : BitVec 3) ++ BitVec.ofBool ack ++ (0 : BitVec 1) ++
            BitVec.ofBool rst ++ BitVec.ofBool syn ++ BitVec.ofBool fin
        byte.getLsbD 4 = ack ∧ byte.getLsbD 2 = rst ∧
          byte.getLsbD 1 = syn ∧ byte.getLsbD 0 = fin := by
    decide
  rw [bit 4 (by decide), bit 2 (by decide), bit 1 (by decide),
    bit 0 (by decide), header_flags]
  exact flags _ _ _ _

theorem winScale_withShift
    (holds : word.Holds item.sent) :
    (word.tcpSegMeta.withShift
        (word.tcpSegMeta.parsedShift
          item.options)).header.winScale.setWidth 4 =
      item.announced := by
  have isSyn : word.tcpSegMeta.header.syn = item.segment.syn := by
    rw [tcpSegMeta_received holds]
    exact header_flag_values.2.2.1
  have noShift : (word.tcpSegMeta.withShift none).header.winScale = 0 :=
    rfl
  rw [TcpPseudoHeaderMeta.parsedShift, isSyn, announced]
  cases item.payloadless with
  | scaled isSyn _ scaled small =>
      have kept :
          ∀ winScale : BitVec 4,
            winScale.toNat ≤ windowScaleBits →
              (if BitVec.ofNat 4 windowScaleBits <
                    (winScale.setWidth 8).setWidth 4 then
                  BitVec.ofNat 2 windowScaleBits
                else
                  (winScale.setWidth 8).setWidth 2).setWidth 4 =
                winScale := by
        decide
      rw [isSyn, if_pos rfl, if_pos rfl, options, isSyn, if_pos rfl,
        if_pos scaled]
      exact kept _ small
  | unscaled isSyn _ unscaled =>
      rw [isSyn, if_pos rfl, if_pos rfl, options, isSyn, if_pos rfl,
        if_neg (not_not.2 unscaled), unscaled]
      exact congrArg (BitVec.setWidth 4) noShift
  | noOptions notSyn _ =>
      rw [notSyn, if_neg Bool.false_ne_true, if_neg Bool.false_ne_true]
      exact congrArg (BitVec.setWidth 4) noShift

theorem restored_record
    (holds : word.Holds item.sent) :
    item.Restored item.announced (item.record word) := by
  have winScale := winScale_withShift holds
  rw [record, withShift_winScale]
  generalize word.tcpSegMeta.withShift
    (word.tcpSegMeta.parsedShift item.options) = shifted at winScale
  rw [tcpSegMeta_received holds]
  obtain ⟨ack, rst, syn, fin⟩ := @header_flag_values item
  exact
    ⟨item.header_srcIp, item.header_destIp, item.header_srcPort,
      item.header_destPort, item.header_seqNumber, item.header_ackNumber,
      item.header_winSize, syn, ack, fin, rst, winScale,
      header_payloadLength item⟩

end Parsed
end HeaderItem
end TcpOffload
