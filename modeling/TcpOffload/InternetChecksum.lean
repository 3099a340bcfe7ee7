import Mathlib.Algebra.BigOperators.Fin
import TcpOffload.Checksum
import TcpOffload.Library.OnesComplement

/-!
# The Internet checksum

The checksum of a string of bytes, and that `ComputeSubChecksum` followed by
`CheckChecksum` computes it: the 32 lanes and the tree that adds them up only
change the order of the words.
-/

namespace TcpOffload

open Clocked Framing OnesComplement

/-! ## The checksum of a string of bytes -/

/-- The 16-bit words, the first byte at the upper end; an odd last byte is
followed by 0. -/
def bigEndianWords : List (BitVec 8) → List (BitVec 16)
  | [] => []
  | [upper] => [upper ++ (0 : BitVec 8)]
  | upper :: lower :: later => (upper ++ lower) :: bigEndianWords later

/-- The sum with its carry added back in. -/
def endAroundAdd (first second : BitVec 16) : BitVec 16 :=
  let sum : BitVec 17 := first.setWidth 17 + second.setWidth 17
  sum.setWidth 16 + (sum >>> 16).setWidth 16

/-- The complement of the sum of all words. -/
def internetChecksum (bytes : List (BitVec 8)) : BitVec 16 :=
  ~~~(bigEndianWords bytes).foldl endAroundAdd 0

/-- The word number `field` replaced, its upper byte first. -/
def setField
    (bytes : List (BitVec 8)) (field : Nat) (word : BitVec 16) :
    List (BitVec 8) :=
  (bytes.set (2 * field) (word.extractLsb' 8 8)).set (2 * field + 1)
    (word.extractLsb' 0 8)

theorem length_setField
    (bytes : List (BitVec 8)) (field : Nat) (word : BitVec 16) :
    (setField bytes field word).length = bytes.length := by
  rw [setField, List.length_set, List.length_set]

theorem setField_append
    {head : List (BitVec 8)} {half : Nat} (even : head.length = 2 * half)
    (tail : List (BitVec 8)) (field : Nat) (word : BitVec 16) :
    setField (head ++ tail) (half + field) word =
      head ++ setField tail field word := by
  have upper : 2 * (half + field) - head.length = 2 * field := by
    omega
  have lower : 2 * (half + field) + 1 - head.length = 2 * field + 1 := by
    omega
  rw [setField, List.set_append_right _ _ (by omega), upper,
    List.set_append_right _ _ (by omega), lower, setField]

/-- The value of all words together. -/
def wordTotal (words : List (BitVec 16)) : Nat :=
  (words.map BitVec.toNat).sum

theorem endAroundAdd_toNat (first second : BitVec 16) :
    (endAroundAdd first second).toNat =
      endAround 16 first.toNat second.toNat := by
  have firstBound := first.isLt
  have secondBound := second.isLt
  rw [endAroundAdd, endAround]
  simp only [BitVec.toNat_add, BitVec.toNat_setWidth,
    BitVec.toNat_ushiftRight, Nat.shiftRight_eq_div_pow]
  omega

theorem foldl_endAroundAdd
    (words : List (BitVec 16)) {start : BitVec 16} {total : Nat}
    (startsWith : start.toNat = canonical 65535 total) :
    (words.foldl endAroundAdd start).toNat =
      canonical 65535 (total + wordTotal words) := by
  induction words generalizing start total with
  | nil =>
      exact startsWith
  | cons word later inductionHypothesis =>
      have wordBound : word.toNat ≤ 65535 :=
        Nat.le_of_lt_succ word.isLt
      have added :
          (endAroundAdd start word).toNat =
            canonical 65535 (total + word.toNat) := by
        rw [endAroundAdd_toNat, startsWith]
        conv_lhs => rw [← canonical_of_le wordBound]
        exact endAround_canonical (by decide) total word.toNat
      rw [List.foldl_cons, inductionHypothesis added, wordTotal,
        wordTotal, List.map_cons, List.sum_cons, Nat.add_assoc]

theorem internetChecksum_toNat (bytes : List (BitVec 8)) :
    (internetChecksum bytes).toNat =
      65535 - canonical 65535 (wordTotal (bigEndianWords bytes)) := by
  have sum :=
    @foldl_endAroundAdd (bigEndianWords bytes) 0 0 rfl
  rw [Nat.zero_add] at sum
  rw [internetChecksum, BitVec.toNat_not, sum]

/-! ## A field with the checksum -/

theorem bigEndianWords_append
    {first : List (BitVec 8)} (even : first.length % 2 = 0)
    (second : List (BitVec 8)) :
    bigEndianWords (first ++ second) =
      bigEndianWords first ++ bigEndianWords second := by
  induction first using bigEndianWords.induct with
  | case1 =>
      rfl
  | case2 upper =>
      cases even
  | case3 upper lower later inductionHypothesis =>
      have laterEven : later.length % 2 = 0 := by
        rw [List.length_cons, List.length_cons] at even
        omega
      rw [List.cons_append, List.cons_append, bigEndianWords,
        inductionHypothesis laterEven, bigEndianWords, List.cons_append]

theorem bigEndianWords_setField
    {bytes : List (BitVec 8)} {field : Nat}
    (inside : 2 * field + 1 < bytes.length) (word : BitVec 16) :
    bigEndianWords (setField bytes field word) =
      (bigEndianWords bytes).set field word := by
  induction bytes using bigEndianWords.induct generalizing field with
  | case1 =>
      cases inside
  | case2 upper =>
      rw [List.length_singleton] at inside
      omega
  | case3 upper lower later inductionHypothesis =>
      cases field with
      | zero =>
          rw [setField, bigEndianWords]
          simp only [List.set_cons_zero, Nat.mul_zero, Nat.zero_add,
            List.set_cons_succ, bigEndianWords,
            BitVec.extractLsb'_append_extractLsb']
      | succ field =>
          rw [List.length_cons, List.length_cons] at inside
          have behind :
              setField (upper :: lower :: later) (field + 1) word =
                upper :: lower :: setField later field word :=
            rfl
          rw [behind, bigEndianWords, bigEndianWords,
            inductionHypothesis (by omega), List.set_cons_succ]

theorem length_bigEndianWords (bytes : List (BitVec 8)) :
    (bigEndianWords bytes).length = (bytes.length + 1) / 2 := by
  induction bytes using bigEndianWords.induct with
  | case1 =>
      rfl
  | case2 upper =>
      rw [bigEndianWords, List.length_singleton, List.length_singleton]
  | case3 upper lower later inductionHypothesis =>
      rw [bigEndianWords, List.length_cons, inductionHypothesis,
        List.length_cons, List.length_cons]
      omega

/-- A word that was 0 adds its value. -/
theorem wordTotal_set
    {words : List (BitVec 16)} {field : Nat} (inside : field < words.length)
    (word : BitVec 16) :
    wordTotal (words.set field word) =
      wordTotal (words.set field 0) + word.toNat := by
  induction words generalizing field with
  | nil =>
      cases inside
  | cons first later inductionHypothesis =>
      cases field with
      | zero =>
          have zero : (0 : BitVec 16).toNat = 0 := rfl
          simp only [wordTotal, List.set_cons_zero, List.map_cons,
            List.sum_cons, zero]
          omega
      | succ field =>
          have behind :=
            inductionHypothesis (Nat.lt_of_succ_lt_succ inside)
          simp only [wordTotal, List.set_cons_succ, List.map_cons,
            List.sum_cons] at behind ⊢
          omega

/-- With the checksum over the other words in its field, a string has the
checksum 0. -/
theorem internetChecksum_setField
    {bytes : List (BitVec 8)} {field : Nat}
    (inside : 2 * field + 1 < bytes.length) :
    internetChecksum
        (setField bytes field
          (internetChecksum (setField bytes field 0))) =
      0 := by
  have inWords : field < (bigEndianWords bytes).length := by
    rw [length_bigEndianWords]
    omega
  apply BitVec.eq_of_toNat_eq
  rw [internetChecksum_toNat, bigEndianWords_setField inside,
    wordTotal_set inWords, internetChecksum_toNat,
    bigEndianWords_setField inside,
    canonical_add_complement (by decide)]
  rfl

/-! ## The sums of the lanes -/

theorem getElem?_bigEndianWords_pair
    {bytes : List (BitVec 8)} {lane : Nat}
    (inside : 2 * lane + 1 < bytes.length) :
    (bigEndianWords bytes)[lane]? =
      some (bytes[2 * lane] ++ bytes[2 * lane + 1]) := by
  induction bytes using bigEndianWords.induct generalizing lane with
  | case1 =>
      cases inside
  | case2 upper =>
      rw [List.length_singleton] at inside
      omega
  | case3 upper lower later inductionHypothesis =>
      rw [bigEndianWords]
      cases lane with
      | zero =>
          rfl
      | succ lane =>
          rw [List.length_cons, List.length_cons] at inside
          rw [List.getElem?_cons_succ, inductionHypothesis (by omega)]
          rfl

theorem getElem?_bigEndianWords_odd
    {bytes : List (BitVec 8)} {lane : Nat}
    (final : 2 * lane + 1 = bytes.length) :
    (bigEndianWords bytes)[lane]? =
      some (bytes[2 * lane] ++ (0 : BitVec 8)) := by
  induction bytes using bigEndianWords.induct generalizing lane with
  | case1 =>
      cases final
  | case2 upper =>
      rw [List.length_singleton] at final
      have zero : lane = 0 := by
        omega
      subst zero
      rw [bigEndianWords]
      rfl
  | case3 upper lower later inductionHypothesis =>
      rw [bigEndianWords]
      cases lane with
      | zero =>
          rw [List.length_cons, List.length_cons] at final
          omega
      | succ lane =>
          rw [List.length_cons, List.length_cons] at final
          rw [List.getElem?_cons_succ, inductionHypothesis (by omega)]
          rfl

/-- The value that a beat of `bytes` adds to a lane. -/
def laneValue (bytes : List (BitVec 8)) (lane : Fin 32) : Nat :=
  ((bigEndianWords bytes)[lane.val]?.getD 0).toNat

theorem sum_getD
    {size : Nat} (words : List (BitVec 16)) (fits : words.length ≤ size) :
    ∑ lane : Fin size, (words[lane.val]?.getD 0).toNat =
      wordTotal words := by
  induction words generalizing size with
  | nil =>
      simp [wordTotal]
  | cons word later inductionHypothesis =>
      cases size with
      | zero =>
          cases fits
      | succ size =>
          have behind :=
            inductionHypothesis (Nat.le_of_succ_le_succ fits)
          rw [Fin.sum_univ_succ, wordTotal, List.map_cons, List.sum_cons]
          simp only [Fin.val_zero, Fin.val_succ, List.getElem?_cons_zero,
            List.getElem?_cons_succ, Option.getD_some]
          rw [behind, wordTotal]

theorem sum_laneValue
    {bytes : List (BitVec 8)} (fits : bytes.length ≤ 64) :
    ∑ lane, laneValue bytes lane = wordTotal (bigEndianWords bytes) := by
  apply sum_getD
  rw [length_bigEndianWords]
  omega

theorem foldCarry_toNat
    {first second : BitVec 17} {left right : Nat}
    (firstIs : first.toNat = canonical 65535 left)
    (secondIs : second.toNat = canonical 65535 right) :
    (foldCarry (first + second)).toNat =
      canonical 65535 (left + right) := by
  have firstBound : first.toNat ≤ 65535 :=
    firstIs ▸ canonical_le (by decide) left
  have secondBound : second.toNat ≤ 65535 :=
    secondIs ▸ canonical_le (by decide) right
  have added :
      endAround 16 first.toNat second.toNat =
        canonical 65535 (left + right) := by
    rw [firstIs, secondIs]
    exact endAround_canonical (by decide) left right
  have mask : (0xFFFF : BitVec 17).toNat = 2 ^ 16 - 1 := rfl
  rw [← added, foldCarry, endAround, BitVec.toNat_and, mask,
    Nat.and_two_pow_sub_one_eq_mod]
  simp only [BitVec.toNat_add, BitVec.toNat_ushiftRight,
    Nat.shiftRight_eq_div_pow]
  omega

/-- A beat adds to each lane its word of the beat. -/
theorem addWord_toNat
    {sums : SubChecksum} {word : NetAXISWord} {bytes : List (BitVec 8)}
    {lane : Fin 32} {total : Nat}
    (holds : word.Holds bytes)
    (sumIs : (sums lane).toNat = canonical 65535 total) :
    (sums.addWord word lane).toNat =
      canonical 65535 (total + laneValue bytes lane) := by
  have laneBound := lane.isLt
  have upperKeep := holds.keep (2 * lane) (by omega)
  have lowerKeep := holds.keep (2 * lane + 1) (by omega)
  have added (value : BitVec 16) :
      (foldCarry (sums lane + value.setWidth 17)).toNat =
        canonical 65535 (total + value.toNat) := by
    have bound := value.isLt
    apply foldCarry_toNat sumIs
    rw [BitVec.toNat_setWidth, Nat.mod_eq_of_lt (by omega),
      canonical_of_le (by omega)]
  rw [SubChecksum.addWord, upperKeep, lowerKeep, laneValue]
  by_cases pair : 2 * lane.val + 1 < bytes.length
  · have upper : 2 * lane.val < bytes.length := by
      omega
    rw [decide_eq_true upper, decide_eq_true pair,
      getElem?_bigEndianWords_pair pair, holds.data _ upper,
      holds.data _ pair]
    exact added _
  · rw [decide_eq_false pair, Bool.and_false]
    by_cases upper : 2 * lane.val < bytes.length
    · rw [decide_eq_true upper,
        getElem?_bigEndianWords_odd (by omega), holds.data _ upper]
      exact added _
    · have outside : (bigEndianWords bytes)[lane.val]? = none := by
        rw [List.getElem?_eq_none_iff, length_bigEndianWords]
        omega
      rw [decide_eq_false upper, outside]
      exact sumIs

/-- Over a frame the lanes together take the value of all its words. -/
theorem foldl_addWord
    {bytes : List (BitVec 8)} {words : List NetAXISWord}
    (frame : IsAxiFrame bytes words)
    {sums : SubChecksum} {totals : Fin 32 → Nat}
    (sumsAre : ∀ lane, (sums lane).toNat = canonical 65535 (totals lane)) :
    ∃ newTotals : Fin 32 → Nat,
      (∀ lane,
        (words.foldl SubChecksum.addWord sums lane).toNat =
          canonical 65535 (newTotals lane)) ∧
      ∑ lane, newTotals lane =
        ∑ lane, totals lane + wordTotal (bigEndianWords bytes) := by
  induction frame generalizing sums totals with
  | @final bytes word holds nonempty short raised =>
      refine ⟨fun lane => totals lane + laneValue bytes lane, ?_, ?_⟩
      · intro lane
        exact addWord_toNat holds (sumsAre lane)
      · rw [Finset.sum_add_distrib, sum_laneValue short]
  | @more chunk bytes word words holds full _ _ inductionHypothesis =>
      have one (lane : Fin 32) :=
        addWord_toNat holds (sumsAre lane)
      obtain ⟨newTotals, newSums, sum⟩ := inductionHypothesis one
      refine ⟨newTotals, newSums, ?_⟩
      have even : chunk.length % 2 = 0 := by
        rw [full]
      rw [sum, Finset.sum_add_distrib, sum_laneValue (Nat.le_of_eq full),
        bigEndianWords_append even, wordTotal, wordTotal, wordTotal,
        List.map_append, List.sum_append, Nat.add_assoc]

/-- The lanes of the upper half added to those of the lower one. -/
def halve {half : Nat} (totals : Fin (half + half) → Nat)
    (lane : Fin half) : Nat :=
  totals (lane.castAdd half) + totals (lane.natAdd half)

theorem sum_halve {half : Nat} (totals : Fin (half + half) → Nat) :
    ∑ lane, halve totals lane = ∑ lane, totals lane := by
  simp only [halve, Fin.sum_univ_add, Finset.sum_add_distrib]

theorem checkChecksum_toNat
    {sums : SubChecksum} {totals : Fin 32 → Nat}
    (sumsAre : ∀ lane, (sums lane).toNat = canonical 65535 (totals lane)) :
    (checkChecksum sums).toNat =
      65535 - canonical 65535 (∑ lane, totals lane) := by
  let sixteen : Fin 16 → Nat := @halve 16 totals
  let eight : Fin 8 → Nat := @halve 8 sixteen
  let four : Fin 4 → Nat := @halve 4 eight
  have sixteenSums (lane : Fin 16) :=
    foldCarry_toNat (sumsAre (lane.castAdd 16)) (sumsAre (lane.natAdd 16))
  have eightSums (lane : Fin 8) :=
    foldCarry_toNat (sixteenSums (lane.castAdd 8))
      (sixteenSums (lane.natAdd 8))
  have fourSums (lane : Fin 4) :
      _ = canonical 65535 (four lane) :=
    foldCarry_toNat (eightSums (lane.castAdd 4))
      (eightSums (lane.natAdd 4))
  have all :=
    foldCarry_toNat (foldCarry_toNat (fourSums 0) (fourSums 2))
      (foldCarry_toNat (fourSums 1) (fourSums 3))
  have total :
      ∑ lane, totals lane = four 0 + four 2 + (four 1 + four 3) := by
    have sum : ∑ lane, four lane = ∑ lane, totals lane :=
      (@sum_halve 4 eight).trans
        ((@sum_halve 8 sixteen).trans (@sum_halve 16 totals))
    rw [← sum, Fin.sum_univ_four]
    omega
  have bound :=
    canonical_le (by decide : 0 < 65535) (∑ lane, totals lane)
  rw [total] at bound ⊢
  rw [checkChecksum, BitVec.toNat_setWidth, BitVec.toNat_not, all]
  omega

/-- The sums of the lanes of a frame give its checksum. -/
theorem checkChecksum_frame
    {bytes : List (BitVec 8)} {words : List NetAXISWord}
    (frame : IsAxiFrame bytes words) :
    checkChecksum (frameSubChecksum words) = internetChecksum bytes := by
  have zero (lane : Fin 32) :
      (SubChecksum.zero lane).toNat = canonical 65535 0 :=
    rfl
  obtain ⟨totals, sums, total⟩ := foldl_addWord frame zero
  apply BitVec.eq_of_toNat_eq
  rw [frameSubChecksum, checkChecksum_toNat sums, total,
    Finset.sum_const_zero, Nat.zero_add, internetChecksum_toNat]

/-- A word that is the checksum over the others makes the checksum 0. -/
theorem internetChecksum_of_correct
    {bytes : List (BitVec 8)} {field : Nat}
    (inside : 2 * field + 1 < bytes.length)
    (correct :
      setField bytes field (internetChecksum (setField bytes field 0)) =
        bytes) :
    internetChecksum bytes = 0 := by
  have zero := internetChecksum_setField inside
  rwa [correct] at zero

/-- Every frame of a stream gets its own checksum. -/
theorem yields_frameChecksums
    {strings : List (List (BitVec 8))} {stream : List NetAXISWord}
    (frames : AxiFrames strings stream) :
    ∃ sums,
      Yields computeSubChecksum ⟨SubChecksum.zero, stream⟩ sums
        ⟨SubChecksum.zero, []⟩ ∧
      sums.map checkChecksum = strings.map internetChecksum := by
  induction frames with
  | nil =>
      exact ⟨[], ⟨Runs.refl _, rfl⟩, rfl⟩
  | @cons bytes words _ later frame _ inductionHypothesis =>
      obtain ⟨sums, rest, checksums⟩ := inductionHypothesis
      have first :=
        runs_computeSubChecksum frame.delimited SubChecksum.zero later
      refine ⟨_, Yields.prepend first rest, ?_⟩
      have own := checkChecksum_frame frame
      rw [frameSubChecksum] at own
      rw [List.map_append, List.map_singleton, own, checksums,
        List.map_cons, List.singleton_append]

/-- `ComputeSubChecksum` and `CheckChecksum` give the checksum of every frame
of a stream.  Of a frame with its own checksum in one of its words they give
0, and the word may be the one that they give when it is 0. -/
theorem outputs_internetChecksum
    {strings : List (List (BitVec 8))} {stream : List NetAXISWord}
    (frames : AxiFrames strings stream) :
    (∃ sums,
      Yields computeSubChecksum ⟨SubChecksum.zero, stream⟩ sums
        ⟨SubChecksum.zero, []⟩ ∧
      sums.map checkChecksum = strings.map internetChecksum) ∧
    ∀ bytes field, 2 * field + 1 < bytes.length →
      (setField bytes field (internetChecksum (setField bytes field 0)) =
          bytes →
        ∀ words, IsAxiFrame bytes words →
          checkChecksum (frameSubChecksum words) = 0) ∧
      ∀ zeroed filled,
        IsAxiFrame (setField bytes field 0) zeroed →
        IsAxiFrame
          (setField bytes field (checkChecksum (frameSubChecksum zeroed)))
          filled →
        checkChecksum (frameSubChecksum filled) = 0 := by
  refine ⟨yields_frameChecksums frames, ?_⟩
  intro bytes field inside
  refine ⟨?_, ?_⟩
  · intro correct words frame
    rw [checkChecksum_frame frame]
    exact internetChecksum_of_correct inside correct
  · intro zeroed filled zeroedFrame filledFrame
    rw [checkChecksum_frame zeroedFrame] at filledFrame
    rw [checkChecksum_frame filledFrame]
    exact internetChecksum_setField inside

/-- A frame of three bytes and one of two. -/
theorem outputs_internetChecksum_odd :
    ∃ sums,
      Yields computeSubChecksum
        ⟨SubChecksum.zero,
          [NetAXISWord.ofBytes [1, 2, 3] true,
            NetAXISWord.ofBytes [0xFF, 0xFF] true]⟩ sums
        ⟨SubChecksum.zero, []⟩ ∧
      sums.map checkChecksum = [0xFBFD, 0] := by
  have single (bytes : List (BitVec 8)) (some : bytes ≠ [])
      (short : bytes.length ≤ 64) :
      IsAxiFrame bytes [NetAXISWord.ofBytes bytes true] :=
    IsFrame.final (NetAXISWord.holds_ofBytes true short) some short rfl
  have frames :=
    Frames.cons (single [1, 2, 3] (by decide) (by decide))
      (Frames.single (single [0xFF, 0xFF] (by decide) (by decide)))
  obtain ⟨sums, run, checksums⟩ := (outputs_internetChecksum frames).1
  exact ⟨sums, run, checksums.trans (by decide)⟩

end TcpOffload
