import TcpOffload.EthernetHeaderInserter.Frames
import TcpOffload.HeaderRoundTrip.HeaderBytes
import TcpOffload.IcmpServer

/-!
# The checksums of IPv4 headers

Three adder trees compute the checksum of an IPv4 header: one masks what is
behind a header with options, one is left out of the synthesised design and
one checks a header without options that is turned around.  All of them are
the Internet checksum of the bytes.
-/

namespace TcpOffload

open OnesComplement

/-! ## The checksum of the simulation -/

/-- The checksum that `TxEngConstructIpv4Header` computes in a simulation. -/
def simulationChecksum (sendWord : NetAXISWord) : BitVec 16 :=
  let firstSum : BitVec 21 :=
    (List.range 10).foldl
      (fun firstSum i =>
        firstSum +
          (swapByte (sendWord.data.extractLsb' (16 * i) 16)).setWidth 21)
      0
  let folded : BitVec 21 :=
    (firstSum.extractLsb' 0 16).setWidth 21 +
      (firstSum.extractLsb' 16 5).setWidth 21
  let carried : BitVec 21 :=
    (folded.extractLsb' 0 16).setWidth 21 +
      (folded.extractLsb' 16 1).setWidth 21
  ~~~carried.extractLsb' 0 16

/-- The header that a simulation sends. -/
def simulatedIpv4Header (tcpPayloadLength : BitVec 16)
    (pair : IpAddrPair) : NetAXISWord :=
  let sendWord := ipv4Header tcpPayloadLength pair
  let checksum := simulationChecksum sendWord
  { sendWord with
    data :=
      sendWord.data.extractLsb' 96 416 ++ checksum.extractLsb' 0 8 ++
        checksum.extractLsb' 8 8 ++ sendWord.data.extractLsb' 0 80 }

/-! ## The words of a header -/

namespace NetAXISWord

/-- The length of the header in the word, in bytes. -/
def ipHeaderBytes (word : NetAXISWord) : Nat :=
  4 * (word.data.extractLsb' 0 4).toNat

/-- A 16-bit word in network order. -/
def headerWord (word : NetAXISWord) (i : Nat) : BitVec 16 :=
  word.byte (2 * i) ++ word.byte (2 * i + 1)

theorem swapByte_headerWord (word : NetAXISWord) (i : Nat) :
    swapByte (word.data.extractLsb' (16 * i) 16) = word.headerWord i := by
  have lane : 16 * i = 8 * (2 * i) := by
    omega
  rw [lane, word.swapByte_lanes, headerWord]

theorem bigEndianWords_firstBytes (word : NetAXISWord) (count : Nat) :
    bigEndianWords (word.firstBytes (2 * count)) =
      (List.range count).map word.headerWord := by
  induction count with
  | zero =>
      rfl
  | succ count inductionHypothesis =>
      have even : (word.firstBytes (2 * count)).length % 2 = 0 := by
        rw [length_firstBytes]
        omega
      have split :
          word.firstBytes (2 * (count + 1)) =
            word.firstBytes (2 * count) ++
              [word.byte (2 * count), word.byte (2 * count + 1)] := by
        rw [firstBytes, firstBytes, Nat.mul_add_one, List.range_succ,
          List.range_succ, List.append_assoc, List.map_append]
        rfl
      rw [split, bigEndianWords_append even, inductionHypothesis,
        List.range_succ, List.map_append]
      rfl

end NetAXISWord

theorem wordTotal_append (first second : List (BitVec 16)) :
    wordTotal (first ++ second) = wordTotal first + wordTotal second := by
  rw [wordTotal, List.map_append, List.sum_append, wordTotal, wordTotal]

/-- No more than the largest word for each of them. -/
theorem wordTotal_le (words : List (BitVec 16)) :
    wordTotal words ≤ words.length * 65535 := by
  induction words with
  | nil =>
      exact Nat.le_refl 0
  | cons word later inductionHypothesis =>
      have bound := word.isLt
      rw [wordTotal] at inductionHypothesis ⊢
      rw [List.map_cons, List.sum_cons, List.length_cons]
      omega

/-- The complement of a sum whose carries are added in twice. -/
theorem complement_of_sum
    {total folded : Nat} (small : total < 2 ^ 32)
    (isFolded : folded = total % 65536 + total / 65536) :
    65535 - (folded % 65536 + folded / 65536) =
      65535 - canonical 65535 total := by
  have digits :=
    @endAround_digits 16 total (by decide) small
  rw [endAround] at digits
  rw [isFolded]
  exact congrArg (65535 - ·) digits

/-! ## The tree of the header inserter -/

/-- A sum that is one bit wider has no carry. -/
theorem toNat_wideAdd {width : Nat} (first second : BitVec width) :
    (first.setWidth (width + 1) + second.setWidth (width + 1)).toNat =
      first.toNat + second.toNat := by
  have firstBound := first.isLt
  have secondBound := second.isLt
  rw [BitVec.toNat_add, BitVec.toNat_setWidth, BitVec.toNat_setWidth,
    Nat.mod_eq_of_lt (by omega : first.toNat < 2 ^ (width + 1)),
    Nat.mod_eq_of_lt (by omega : second.toNat < 2 ^ (width + 1))]
  exact Nat.mod_eq_of_lt (by omega)

/-- A level of the tree keeps the sum. -/
theorem sum_pairSums {width : Nat} (sums : List (BitVec width)) :
    ((pairSums sums).map BitVec.toNat).sum =
      (sums.map BitVec.toNat).sum := by
  induction sums using pairSums.induct with
  | case1 first second later inductionHypothesis =>
      rw [pairSums, List.map_cons, List.sum_cons, toNat_wideAdd,
        inductionHypothesis, List.map_cons, List.sum_cons, List.map_cons,
        List.sum_cons, Nat.add_assoc]
  | case2 single =>
      have bound := single.isLt
      rw [pairSums, List.map_singleton, List.map_singleton,
        BitVec.toNat_setWidth,
        Nat.mod_eq_of_lt (by omega : single.toNat < 2 ^ (width + 1))]
  | case3 =>
      rfl

theorem length_pairSums {width : Nat} (sums : List (BitVec width)) :
    (pairSums sums).length = (sums.length + 1) / 2 := by
  induction sums using pairSums.induct with
  | case1 first second later inductionHypothesis =>
      rw [pairSums, List.length_cons, inductionHypothesis,
        List.length_cons, List.length_cons]
      omega
  | case2 single =>
      rw [pairSums, List.length_singleton, List.length_singleton]
  | case3 =>
      rw [pairSums, List.length_nil, List.length_nil]

/-- The only sum that is left. -/
theorem headD_of_length_one
    {width : Nat} {sums : List (BitVec width)}
    (isOne : sums.length = 1) :
    (sums.headD 0).toNat = (sums.map BitVec.toNat).sum := by
  obtain ⟨sum, rfl⟩ := List.length_eq_one_iff.1 isOne
  exact (Nat.add_zero _).symm

theorem length_ipOps (word : NetAXISWord) : (ipOps word).length = 30 := by
  simp [ipOps]

theorem ipChecksum_toNat (word : NetAXISWord) :
    (ipChecksum word).toNat =
      65535 - canonical 65535 (wordTotal (ipOps word)) := by
  have atMost := wordTotal_le (ipOps word)
  rw [length_ipOps] at atMost
  have isTotal :
      ((pairSums (pairSums (pairSums (pairSums (pairSums
        (ipOps word)))))).headD 0).toNat = wordTotal (ipOps word) := by
    rw [headD_of_length_one (by simp only [length_pairSums, length_ipOps]),
      sum_pairSums, sum_pairSums, sum_pairSums, sum_pairSums,
      sum_pairSums, wordTotal]
  rw [← complement_of_sum (by omega) rfl, ← isTotal, ipChecksum]
  rw [← isTotal] at atMost
  generalize
    (pairSums (pairSums (pairSums (pairSums (pairSums
      (ipOps word)))))).headD 0 = ipSumsL5 at atMost
  have finalSum :
      ((ipSumsL5.extractLsb' 0 16).setWidth 17 +
          (ipSumsL5.extractLsb' 16 5).setWidth 17).toNat =
        ipSumsL5.toNat % 65536 + ipSumsL5.toNat / 65536 := by
    simp only [BitVec.extractLsb'_toNat, BitVec.toNat_add,
      BitVec.toNat_setWidth, Nat.shiftRight_eq_div_pow, Nat.reducePow,
      Nat.div_one]
    simp (disch := omega) only [Nat.mod_eq_of_lt]
  generalize
    (ipSumsL5.extractLsb' 0 16).setWidth 17 +
      (ipSumsL5.extractLsb' 16 5).setWidth 17 = sum at finalSum
  rw [← finalSum]
  have sumBound : sum.toNat < 131071 := by
    omega
  simp only [BitVec.toNat_not, BitVec.extractLsb'_toNat,
    BitVec.toNat_add, BitVec.toNat_setWidth, Nat.shiftRight_eq_div_pow,
    Nat.reducePow, Nat.div_one]
  rcases Nat.lt_or_ge sum.toNat 65536 with small | large <;> omega

/-- Zeros behind the words add nothing. -/
theorem wordTotal_zeros
    (words : List (BitVec 16)) (count field : Nat) :
    wordTotal ((words ++ List.replicate count 0).set field 0) =
      wordTotal (words.set field 0) := by
  have zeros : wordTotal (List.replicate count 0) = 0 := by
    rw [wordTotal, List.map_replicate, List.sum_replicate]
    exact Nat.mul_zero count
  rcases Nat.lt_or_ge field words.length with inside | behind
  · rw [List.set_append_left _ _ inside, wordTotal_append, zeros,
      Nat.add_zero]
  · rw [List.set_append_right _ _ behind, List.set_replicate_self,
      wordTotal_append, zeros, Nat.add_zero,
      List.set_eq_of_length_le behind]

/-- A field that is not in the header changes nothing. -/
theorem bigEndianWords_zeroField
    (word : NetAXISWord) (count field : Nat) :
    bigEndianWords (setField (word.firstBytes (2 * count)) field 0) =
      ((List.range count).map word.headerWord).set field 0 := by
  rw [← word.bigEndianWords_firstBytes]
  rcases Nat.lt_or_ge field count with inside | outside
  · rw [bigEndianWords_setField]
    rw [word.length_firstBytes]
    omega
  · have noWord :
        (bigEndianWords (word.firstBytes (2 * count))).length ≤ field := by
      rw [length_bigEndianWords, word.length_firstBytes]
      omega
    have noByte : (word.firstBytes (2 * count)).length ≤ 2 * field := by
      rw [word.length_firstBytes]
      omega
    rw [List.set_eq_of_length_le noWord, setField,
      List.set_eq_of_length_le noByte,
      List.set_eq_of_length_le (Nat.le_succ_of_le noByte)]

/-- The words behind the header and that of the checksum count as 0. -/
theorem wordTotal_ipOps (word : NetAXISWord) :
    wordTotal (ipOps word) =
      wordTotal
        (bigEndianWords
          (setField (word.firstBytes word.ipHeaderBytes) 5 0)) := by
  have headerLen := (word.data.extractLsb' 0 4).isLt
  rw [NetAXISWord.ipHeaderBytes, ipOps]
  generalize (word.data.extractLsb' 0 4).toNat = ipHeaderLen at headerLen ⊢
  obtain ⟨behind, isThirty⟩ : ∃ behind, 30 = ipHeaderLen * 2 + behind :=
    ⟨30 - ipHeaderLen * 2, by omega⟩
  have bytes : 4 * ipHeaderLen = 2 * (ipHeaderLen * 2) := by
    omega
  have masked :
      ((List.range 30).map fun i =>
          if i < ipHeaderLen * 2 then
            swapByte (word.data.extractLsb' (16 * i) 16)
          else
            0) =
        (List.range (ipHeaderLen * 2)).map word.headerWord ++
          List.replicate behind 0 := by
    rw [isThirty, List.range_add, List.map_append, List.map_map]
    congr 1
    · refine List.map_congr_left fun i member => ?_
      rw [if_pos (List.mem_range.1 member), word.swapByte_headerWord]
    · rw [List.eq_replicate_iff]
      refine ⟨by simp, fun value member => ?_⟩
      obtain ⟨i, _, rfl⟩ := List.mem_map.1 member
      exact if_neg (Nat.not_lt.2 (Nat.le_add_right _ i))
  rw [masked, wordTotal_zeros, bytes, bigEndianWords_zeroField]

/-- `ComputeAndInsertIpv4Checksum` inserts the checksum of the header. -/
theorem ipChecksum_eq (word : NetAXISWord) :
    ipChecksum word =
      internetChecksum
        (setField (word.firstBytes word.ipHeaderBytes) 5 0) := by
  apply BitVec.eq_of_toNat_eq
  rw [ipChecksum_toNat, wordTotal_ipOps, internetChecksum_toNat]

/-- The checksum is stored in its field, and all other bytes stay. -/
theorem firstBytes_insertIpChecksum (word : NetAXISWord) :
    (insertIpChecksum word).firstBytes 64 =
      setField (word.firstBytes 64) 5 (ipChecksum word) := by
  refine List.ext_getElem ?_ fun lane inside _ => ?_
  · rw [length_setField, NetAXISWord.length_firstBytes,
      NetAXISWord.length_firstBytes]
  · rw [NetAXISWord.length_firstBytes] at inside
    simp only [setField, List.getElem_set, NetAXISWord.firstBytes,
      List.getElem_map, List.getElem_range,
      insertIpChecksum_byte word inside, eq_comm]

/-! ## The sum of the simulation -/

theorem foldl_wideSum
    (words : List (BitVec 16)) {start : BitVec 21}
    (fits : start.toNat + wordTotal words < 2 ^ 21) :
    (words.foldl (fun sum word => sum + word.setWidth 21) start).toNat =
      start.toNat + wordTotal words := by
  induction words generalizing start with
  | nil =>
      rfl
  | cons word later inductionHypothesis =>
      have total :
          wordTotal (word :: later) = word.toNat + wordTotal later := by
        rw [wordTotal, List.map_cons, List.sum_cons, wordTotal]
      have bound := word.isLt
      have added :
          (start + word.setWidth 21).toNat =
            start.toNat + word.toNat := by
        rw [BitVec.toNat_add, BitVec.toNat_setWidth,
          Nat.mod_eq_of_lt (by omega : word.toNat < 2 ^ 21),
          Nat.mod_eq_of_lt (by omega)]
      rw [List.foldl_cons, inductionHypothesis (by omega), added, total,
        Nat.add_assoc]

/-- The sum of `TxEngConstructIpv4Header` is the checksum of its header. -/
theorem simulationChecksum_eq (word : NetAXISWord) :
    simulationChecksum word = internetChecksum (word.firstBytes 20) := by
  have words :
      bigEndianWords (word.firstBytes 20) =
        (List.range 10).map word.headerWord :=
    word.bigEndianWords_firstBytes 10
  have atMost := wordTotal_le ((List.range 10).map word.headerWord)
  rw [List.length_map, List.length_range] at atMost
  have zero : (0 : BitVec 21).toNat = 0 := rfl
  have firstSum :
      ((List.range 10).foldl
          (fun (firstSum : BitVec 21) i =>
            firstSum +
              (swapByte (word.data.extractLsb' (16 * i) 16)).setWidth 21)
          0).toNat =
        wordTotal ((List.range 10).map word.headerWord) := by
    have sum :=
      @foldl_wideSum ((List.range 10).map word.headerWord) 0
        (by rw [zero]; omega)
    rw [List.foldl_map, zero, Nat.zero_add] at sum
    simp only [word.swapByte_headerWord]
    exact sum
  apply BitVec.eq_of_toNat_eq
  rw [internetChecksum_toNat, words, ← complement_of_sum (by omega) rfl,
    ← firstSum, simulationChecksum]
  rw [← firstSum] at atMost
  generalize (List.range 10).foldl
    (fun (firstSum : BitVec 21) i =>
      firstSum +
        (swapByte (word.data.extractLsb' (16 * i) 16)).setWidth 21)
    0 = sum at atMost
  have folded :
      ((sum.extractLsb' 0 16).setWidth 21 +
          (sum.extractLsb' 16 5).setWidth 21).toNat =
        sum.toNat % 65536 + sum.toNat / 65536 := by
    simp only [BitVec.extractLsb'_toNat, BitVec.toNat_add,
      BitVec.toNat_setWidth, Nat.shiftRight_eq_div_pow, Nat.reducePow,
      Nat.div_one]
    simp (disch := omega) only [Nat.mod_eq_of_lt]
  generalize
    (sum.extractLsb' 0 16).setWidth 21 +
      (sum.extractLsb' 16 5).setWidth 21 = once at folded
  rw [← folded]
  have onceBound : once.toNat < 131071 := by
    omega
  simp only [BitVec.toNat_not, BitVec.extractLsb'_toNat,
    BitVec.toNat_add, BitVec.toNat_setWidth, Nat.shiftRight_eq_div_pow,
    Nat.reducePow, Nat.div_one]
  rcases Nat.lt_or_ge once.toNat 65536 with small | large <;> omega

/-! ## The check of the ICMP server -/

/-- The bit of the byte that is as far from the other end. -/
theorem getLsbD_swapByte
    {count : Nat} (word : BitVec (8 * count)) {bit : Nat}
    (inside : bit < 8 * count) :
    (swapByte word).getLsbD bit =
      word.getLsbD (8 * count - 8 * (bit / 8) - 8 + bit % 8) := by
  have lanesBits (lanes : Nat) :
      ((List.range lanes).foldl
          (fun temp i =>
            temp |||
              ((word.extractLsb' (8 * count - 8 * i - 8) 8).setWidth
                (8 * count) <<< (8 * i)))
          0).getLsbD bit =
        (decide (bit / 8 < lanes) &&
          word.getLsbD (8 * count - 8 * (bit / 8) - 8 + bit % 8)) := by
    induction lanes with
    | zero =>
        simp
    | succ lanes inductionHypothesis =>
        rw [List.range_succ, List.foldl_append, List.foldl_cons,
          List.foldl_nil, BitVec.getLsbD_or, inductionHypothesis,
          BitVec.getLsbD_shiftLeft, BitVec.getLsbD_setWidth,
          BitVec.getLsbD_extractLsb']
        by_cases own : bit / 8 = lanes
        · have inLane : bit - 8 * lanes = bit % 8 := by
            omega
          rw [own, inLane, decide_eq_false (Nat.lt_irrefl lanes),
            Bool.false_and, Bool.false_or, decide_eq_true inside,
            decide_eq_false (by omega : ¬ bit < 8 * lanes),
            decide_eq_true (by omega : bit % 8 < 8 * count),
            decide_eq_true (by omega : bit % 8 < 8),
            decide_eq_true (Nat.lt_succ_self lanes)]
          simp only [Bool.not_false, Bool.true_and]
        · have outside :
              bit < 8 * lanes ∨ ¬ bit - 8 * lanes < 8 := by
            omega
          have next : bit / 8 < lanes + 1 ↔ bit / 8 < lanes := by
            omega
          rcases outside with below | above <;> simp [*]
  have lanes : 8 * count / 8 = count :=
    Nat.mul_div_cancel_left count (by decide)
  rw [swapByte, lanes, lanesBits, decide_eq_true (by omega),
    Bool.true_and]

theorem auxIpHeader_word
    (word : NetAXISWord) {m : Nat} (inside : m < 10) :
    (auxIpHeader word).extractLsb' (16 * m) 16 =
      word.headerWord (9 - m) := by
  apply BitVec.eq_of_getLsbD_eq
  intro bit inWord
  rw [BitVec.getLsbD_extractLsb', decide_eq_true inWord, Bool.true_and,
    auxIpHeader]
  rw [@getLsbD_swapByte 20 _ (16 * m + bit) (by omega),
    BitVec.getLsbD_extractLsb', NetAXISWord.headerWord,
    BitVec.getLsbD_append, NetAXISWord.byte, NetAXISWord.byte,
    BitVec.getLsbD_extractLsb', BitVec.getLsbD_extractLsb',
    decide_eq_true (by omega), Bool.true_and, Nat.zero_add]
  split
  · rename_i low
    rw [decide_eq_true low, Bool.true_and]
    congr 1
    omega
  · rw [decide_eq_true (by omega), Bool.true_and]
    congr 1
    omega

/-- The sum of all ten words. -/
theorem checksumL3_toNat (ipHeader : BitVec 160) :
    (checksumL3 ipHeader).toNat =
      wordTotal
        ((List.range 10).map fun m =>
          ipHeader.extractLsb' (16 * m) 16) := by
  have level1 (m : Nat) :
      (checksumL1 ipHeader m).toNat =
        (ipHeader.extractLsb' (16 * (2 * m)) 16).toNat +
          (ipHeader.extractLsb' (16 * (2 * m + 1)) 16).toNat :=
    toNat_wideAdd _ _
  have level2 (m : Nat) :
      (checksumL2 ipHeader m).toNat =
        (checksumL1 ipHeader (2 * m)).toNat +
          (checksumL1 ipHeader (2 * m + 1)).toNat :=
    toNat_wideAdd _ _
  have first := (checksumL2 ipHeader 0).isLt
  have second := (checksumL2 ipHeader 1).isLt
  have third := (checksumL1 ipHeader 4).isLt
  have total :
      (checksumL3 ipHeader).toNat =
        (checksumL2 ipHeader 0).toNat + (checksumL2 ipHeader 1).toNat +
          (checksumL1 ipHeader 4).toNat := by
    simp only [checksumL3, BitVec.toNat_add, BitVec.toNat_setWidth]
    simp (disch := omega) only [Nat.mod_eq_of_lt]
  rw [total, level2, level2, level1, level1, level1, level1, level1]
  simp [wordTotal, List.range_succ]
  omega

theorem computeChechkSum20B_toNat (ipHeader : BitVec 160) :
    (computeChechkSum20B ipHeader).toNat =
      65535 -
        canonical 65535
          (wordTotal
            ((List.range 10).map fun m =>
              ipHeader.extractLsb' (16 * m) 16)) := by
  have bound := (checksumL3 ipHeader).isLt
  rw [← checksumL3_toNat, ← complement_of_sum (by omega) rfl,
    computeChechkSum20B]
  generalize checksumL3 ipHeader = sum at bound
  have folded :
      ((sum.extractLsb' 0 16).setWidth 17 +
          (sum.extractLsb' 16 4).setWidth 17).toNat =
        sum.toNat % 65536 + sum.toNat / 65536 := by
    simp only [BitVec.extractLsb'_toNat, BitVec.toNat_add,
      BitVec.toNat_setWidth, Nat.shiftRight_eq_div_pow, Nat.reducePow,
      Nat.div_one]
    simp (disch := omega) only [Nat.mod_eq_of_lt]
  generalize
    (sum.extractLsb' 0 16).setWidth 17 +
      (sum.extractLsb' 16 4).setWidth 17 = once at folded
  rw [← folded]
  have onceBound : once.toNat < 131071 := by
    omega
  have carries : once.getLsbD 16 = decide (once.toNat / 65536 % 2 = 1) :=
    Nat.testBit_eq_decide_div_mod_eq
  rw [carries]
  rcases Nat.lt_or_ge once.toNat 65536 with small | large
  · rw [decide_eq_false (by omega), if_neg Bool.false_ne_true]
    simp only [BitVec.toNat_not, BitVec.extractLsb'_toNat,
      Nat.shiftRight_eq_div_pow, Nat.reducePow, Nat.div_one]
    omega
  · have one : (1 : BitVec 17).toNat = 1 := rfl
    rw [decide_eq_true (by omega), if_pos rfl]
    simp only [BitVec.toNat_not, BitVec.extractLsb'_toNat,
      BitVec.toNat_add, Nat.shiftRight_eq_div_pow, Nat.reducePow,
      Nat.div_one, one]
    omega

/-- `ComputeChechkSum20B` is the checksum of the header that is turned
around. -/
theorem computeChechkSum20B_eq (word : NetAXISWord) :
    computeChechkSum20B (auxIpHeader word) =
      internetChecksum (word.firstBytes 20) := by
  have words :
      bigEndianWords (word.firstBytes 20) =
        (List.range 10).map word.headerWord :=
    word.bigEndianWords_firstBytes 10
  have turned :
      ((List.range 10).map fun m =>
          (auxIpHeader word).extractLsb' (16 * m) 16) =
        ((List.range 10).map word.headerWord).reverse := by
    rw [← List.map_reverse]
    refine List.ext_getElem (by simp) fun m inside _ => ?_
    rw [List.length_map, List.length_range] at inside
    simp only [List.getElem_map, List.getElem_range,
      List.getElem_reverse, List.length_range]
    exact auxIpHeader_word word inside
  apply BitVec.eq_of_toNat_eq
  rw [computeChechkSum20B_toNat, internetChecksum_toNat, words, turned,
    wordTotal, List.map_reverse, List.sum_reverse, wordTotal]

/-- A checksum is 0 when the sum of all words is the largest one. -/
theorem internetChecksum_eq_zero_iff (bytes : List (BitVec 8)) :
    internetChecksum bytes = 0 ↔
      (bigEndianWords bytes).foldl endAroundAdd 0 = 0xFFFF := by
  rw [internetChecksum]
  generalize (bigEndianWords bytes).foldl endAroundAdd 0 = sum
  constructor
  · intro zero
    rw [← @BitVec.not_not 16 sum, zero]
    rfl
  · intro full
    rw [full]
    rfl

/-! ## All three -/

section Ipv4Header

variable (tcpPayloadLength : BitVec 16) (pair : IpAddrPair)

theorem ipv4Header_ipHeaderBytes :
    (ipv4Header tcpPayloadLength pair).ipHeaderBytes = 20 := by
  have headerLen :
      (ipv4Header tcpPayloadLength pair).data.extractLsb' 0 4 = 5 := by
    simp (disch := decide) only [ipv4Header,
      BitVec.extractLsb'_setWidth_of_le,
      BitVec.extractLsb'_append_eq_of_add_le]
    decide
  rw [NetAXISWord.ipHeaderBytes, headerLen]
  rfl

/-- The checksum is 0 before it is computed. -/
theorem ipv4Header_checksumBytes :
    (ipv4Header tcpPayloadLength pair).byte 10 = 0 ∧
      (ipv4Header tcpPayloadLength pair).byte 11 = 0 := by
  rw [NetAXISWord.byte, NetAXISWord.byte]
  constructor <;>
    simp (disch := decide) only [ipv4Header,
      BitVec.extractLsb'_setWidth_of_le,
      BitVec.extractLsb'_append_eq_of_le,
      BitVec.extractLsb'_append_eq_of_add_le, Nat.reduceMul,
      Nat.reduceSub] <;>
    decide

theorem setField_ipv4Header :
    setField ((ipv4Header tcpPayloadLength pair).firstBytes 20) 5 0 =
      (ipv4Header tcpPayloadLength pair).firstBytes 20 := by
  obtain ⟨upper, lower⟩ := ipv4Header_checksumBytes tcpPayloadLength pair
  refine List.ext_getElem (length_setField _ _ _) fun i _ inside => ?_
  rw [NetAXISWord.length_firstBytes] at inside
  simp only [setField, List.getElem_set, NetAXISWord.firstBytes,
    List.getElem_map, List.getElem_range]
  split
  · rename_i isLower
    rw [← isLower, lower]
    rfl
  · split
    · rename_i isUpper
      rw [← isUpper, upper]
      rfl
    · rfl

end Ipv4Header

/-- The header inserter stores the checksum of the header, of whatever length,
the simulation that of its own header, and the ICMP server finds 0 exactly
for a valid one. -/
theorem headerChecksums :
    (∀ word : NetAXISWord,
      (insertIpChecksum word).firstBytes 64 =
        setField (word.firstBytes 64) 5
          (internetChecksum
            (setField (word.firstBytes word.ipHeaderBytes) 5 0))) ∧
      (∀ (tcpPayloadLength : BitVec 16) (pair : IpAddrPair),
        simulatedIpv4Header tcpPayloadLength pair =
          insertIpChecksum (ipv4Header tcpPayloadLength pair)) ∧
      (∀ word : NetAXISWord,
        computeChechkSum20B (auxIpHeader word) = 0 ↔
          (bigEndianWords (word.firstBytes 20)).foldl endAroundAdd 0 =
            0xFFFF) := by
  refine
    ⟨fun word => ?_, fun tcpPayloadLength pair => ?_, fun word => ?_⟩
  · rw [firstBytes_insertIpChecksum, ipChecksum_eq]
  · have same :
        simulationChecksum (ipv4Header tcpPayloadLength pair) =
          ipChecksum (ipv4Header tcpPayloadLength pair) := by
      rw [simulationChecksum_eq, ipChecksum_eq, ipv4Header_ipHeaderBytes,
        setField_ipv4Header]
    rw [simulatedIpv4Header, insertIpChecksum, same]
  · rw [computeChechkSum20B_eq, internetChecksum_eq_zero_iff]

end TcpOffload
