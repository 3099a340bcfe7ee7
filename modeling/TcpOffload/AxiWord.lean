import TcpOffload.Library.Framing

/-!
# AXI stream words

The 64-byte beats of `axi_intf.hpp` and the word operations of
`axi_utils.cpp`, with the byte-lane lemmas that the users of the operations
need: byte `i` of a beat is bits `8 * i + 7` down to `8 * i` of its data, and
it is valid when bit `i` of `keep` is set.
-/

namespace TcpOffload

structure NetAXISWord where
  data : BitVec 512
  dest : BitVec 4
  keep : BitVec 64
  last : Bool
deriving DecidableEq, Repr

namespace NetAXISWord

/-- The default constructor. -/
def empty : NetAXISWord :=
  ⟨0, 0, 0, false⟩

/-- The byte in lane `lane`. -/
def byte (word : NetAXISWord) (lane : Nat) : BitVec 8 :=
  word.data.extractLsb' (8 * lane) 8

/-- The valid lanes of `word` are its first `bytes.length` ones, and they
carry `bytes`. -/
structure Holds (word : NetAXISWord) (bytes : List (BitVec 8)) : Prop where
  fits : bytes.length ≤ 64
  keep :
    ∀ lane, lane < 64 →
      word.keep.getLsbD lane = decide (lane < bytes.length)
  data :
    ∀ lane, (inBytes : lane < bytes.length) →
      word.byte lane = bytes[lane]

end NetAXISWord

/-- `SwapByte`: the bytes in the opposite order. -/
def swapByte {width : Nat} (word : BitVec width) : BitVec width :=
  (List.range (width / 8)).foldl
    (fun temp i =>
      temp ||| ((word.extractLsb' (width - 8 * i - 8) 8).setWidth width
        <<< (8 * i)))
    0

/-- `DataLengthToAxisKeep`: the length 0 stands for a full beat. -/
def dataLengthToAxisKeep (length : BitVec 6) : BitVec 64 :=
  if length = 0 then
    BitVec.allOnes 64
  else
    BitVec.allOnes 64 >>> (64 - length.toNat)

/-- `ConcatTwoWords`: the tail of `prevWord` from byte `byteOffset` on,
followed by the head of `curWord`.  The 64 cases of the source are one shift
by the offset; offset 0 selects `curWord` alone.  Only data and keep are
assigned. -/
def concatTwoWords
    (curWord prevWord : NetAXISWord) (byteOffset : BitVec 6)
    (sendWord : NetAXISWord) : NetAXISWord :=
  if byteOffset = 0 then
    { sendWord with data := curWord.data, keep := curWord.keep }
  else
    { sendWord with
      data :=
        (prevWord.data >>> (8 * byteOffset.toNat)) |||
          (curWord.data <<< (512 - 8 * byteOffset.toNat))
      keep :=
        (prevWord.keep >>> byteOffset.toNat) |||
          (curWord.keep <<< (64 - byteOffset.toNat)) }

/-- `MergeTwoWordsHead`: the first `byteOffset` bytes of `prevWord`, followed
by the head of `curWord`. -/
def mergeTwoWordsHead
    (curWord prevWord : NetAXISWord) (byteOffset : BitVec 6)
    (sendWord : NetAXISWord) : NetAXISWord :=
  if byteOffset = 0 then
    { sendWord with data := curWord.data, keep := curWord.keep }
  else
    { sendWord with
      data :=
        (prevWord.data &&&
            (BitVec.allOnes 512 >>> (512 - 8 * byteOffset.toNat))) |||
          (curWord.data <<< (8 * byteOffset.toNat))
      keep :=
        (prevWord.keep &&&
            (BitVec.allOnes 64 >>> (64 - byteOffset.toNat))) |||
          (curWord.keep <<< byteOffset.toNat) }

/-! ## Byte lanes of the word operations -/

section Lanes

variable {curWord prevWord sendWord : NetAXISWord} {byteOffset : BitVec 6}
variable {lane : Nat}

theorem concatTwoWords_byte
    (shifted : byteOffset ≠ 0) (laneBound : lane < 64) :
    (concatTwoWords curWord prevWord byteOffset sendWord).byte lane =
      if lane + byteOffset.toNat < 64 then
        prevWord.byte (lane + byteOffset.toNat)
      else
        curWord.byte (lane + byteOffset.toNat - 64) := by
  have offsetBound := byteOffset.isLt
  apply BitVec.eq_of_getLsbD_eq
  intro bit bitBound
  simp only [NetAXISWord.byte, concatTwoWords, if_neg shifted,
    BitVec.getLsbD_extractLsb', BitVec.getLsbD_or,
    BitVec.getLsbD_ushiftRight, BitVec.getLsbD_shiftLeft, bitBound,
    decide_true, Bool.true_and]
  split
  · rename_i inPrev
    have notCur :
        8 * lane + bit < 512 - 8 * byteOffset.toNat := by
      omega
    simp only [notCur, decide_true, Bool.not_true, Bool.and_false,
      Bool.false_and, Bool.or_false, BitVec.getLsbD_extractLsb',
      bitBound, Bool.true_and]
    congr 1
    omega
  · rename_i inCur
    have pastPrev :
        512 ≤ 8 * byteOffset.toNat + (8 * lane + bit) := by
      omega
    have inWord : 8 * lane + bit < 512 := by
      omega
    have notLow :
        ¬ 8 * lane + bit < 512 - 8 * byteOffset.toNat := by
      omega
    simp only [BitVec.getLsbD_of_ge _ _ pastPrev, Bool.false_or, inWord,
      notLow, decide_true, decide_false, Bool.not_false, Bool.true_and,
      BitVec.getLsbD_extractLsb', bitBound]
    congr 1
    omega

theorem concatTwoWords_keep
    (shifted : byteOffset ≠ 0) (laneBound : lane < 64) :
    (concatTwoWords curWord prevWord byteOffset sendWord).keep.getLsbD
        lane =
      if lane + byteOffset.toNat < 64 then
        prevWord.keep.getLsbD (lane + byteOffset.toNat)
      else
        curWord.keep.getLsbD (lane + byteOffset.toNat - 64) := by
  have offsetBound := byteOffset.isLt
  simp only [concatTwoWords, if_neg shifted, BitVec.getLsbD_or,
    BitVec.getLsbD_ushiftRight, BitVec.getLsbD_shiftLeft]
  split
  · rename_i inPrev
    have notCur : lane < 64 - byteOffset.toNat := by
      omega
    simp [notCur, Nat.add_comm]
  · rename_i inCur
    have pastPrev : 64 ≤ byteOffset.toNat + lane := by
      omega
    have notLow : ¬ lane < 64 - byteOffset.toNat := by
      omega
    simp only [BitVec.getLsbD_of_ge _ _ pastPrev, Bool.false_or,
      laneBound, notLow, decide_true, decide_false, Bool.not_false,
      Bool.true_and]
    congr 1
    omega

theorem mergeTwoWordsHead_byte
    (shifted : byteOffset ≠ 0) (laneBound : lane < 64) :
    (mergeTwoWordsHead curWord prevWord byteOffset sendWord).byte lane =
      if lane < byteOffset.toNat then
        prevWord.byte lane
      else
        curWord.byte (lane - byteOffset.toNat) := by
  have offsetBound := byteOffset.isLt
  apply BitVec.eq_of_getLsbD_eq
  intro bit bitBound
  have inWord : 8 * lane + bit < 512 := by
    omega
  simp only [NetAXISWord.byte, mergeTwoWordsHead, if_neg shifted,
    BitVec.getLsbD_extractLsb', BitVec.getLsbD_or, BitVec.getLsbD_and,
    BitVec.getLsbD_ushiftRight, BitVec.getLsbD_shiftLeft,
    BitVec.getLsbD_allOnes, bitBound, inWord, decide_true, Bool.true_and]
  split
  · rename_i inPrev
    have inMask :
        512 - 8 * byteOffset.toNat + (8 * lane + bit) < 512 := by
      omega
    have notCur : 8 * lane + bit < 8 * byteOffset.toNat := by
      omega
    simp [inMask, notCur, bitBound]
  · rename_i inCur
    have pastMask :
        ¬ 512 - 8 * byteOffset.toNat + (8 * lane + bit) < 512 := by
      omega
    have notLow : ¬ 8 * lane + bit < 8 * byteOffset.toNat := by
      omega
    simp only [pastMask, notLow, decide_false, Bool.and_false,
      Bool.false_or, Bool.not_false, Bool.true_and,
      BitVec.getLsbD_extractLsb', bitBound, decide_true]
    congr 1
    omega

theorem mergeTwoWordsHead_keep
    (shifted : byteOffset ≠ 0) (laneBound : lane < 64) :
    (mergeTwoWordsHead curWord prevWord byteOffset sendWord).keep.getLsbD
        lane =
      if lane < byteOffset.toNat then
        prevWord.keep.getLsbD lane
      else
        curWord.keep.getLsbD (lane - byteOffset.toNat) := by
  have offsetBound := byteOffset.isLt
  simp only [mergeTwoWordsHead, if_neg shifted, BitVec.getLsbD_or,
    BitVec.getLsbD_and, BitVec.getLsbD_ushiftRight,
    BitVec.getLsbD_shiftLeft, BitVec.getLsbD_allOnes, laneBound,
    decide_true, Bool.true_and]
  split
  · rename_i inPrev
    have inMask : 64 - byteOffset.toNat + lane < 64 := by
      omega
    simp [inMask, inPrev]
  · rename_i inCur
    have pastMask : ¬ 64 - byteOffset.toNat + lane < 64 := by
      omega
    simp [pastMask, inCur]

end Lanes

namespace NetAXISWord

/-! ## Bytes held by a beat -/

theorem holds_unique
    (word : NetAXISWord) (first second : List (BitVec 8))
    (left : word.Holds first) (right : word.Holds second) :
    first = second := by
  have sameValid :
      ∀ lane, lane < 64 →
        (lane < first.length ↔ lane < second.length) := by
    intro lane laneBound
    have sameBit := (left.keep lane laneBound).symm.trans
      (right.keep lane laneBound)
    simpa using sameBit
  have sameLength : first.length = second.length := by
    have leftFits := left.fits
    have rightFits := right.fits
    rcases Nat.lt_trichotomy first.length second.length with
      shorter | equal | longer
    · have crossed := sameValid first.length (by omega)
      omega
    · exact equal
    · have crossed := sameValid second.length (by omega)
      omega
  apply List.ext_getElem sameLength
  intro lane inFirst inSecond
  rw [← left.data lane inFirst, ← right.data lane inSecond]

theorem holds_empty : empty.Holds [] where
  fits := by simp
  keep := by simp [empty]
  data := by simp

theorem Holds.congr
    {word other : NetAXISWord} {bytes : List (BitVec 8)}
    (holds : word.Holds bytes)
    (sameData : other.data = word.data)
    (sameKeep : other.keep = word.keep) :
    other.Holds bytes where
  fits := holds.fits
  keep := by
    rw [sameKeep]
    exact holds.keep
  data := by
    intro lane inBytes
    rw [byte, sameData]
    exact holds.data lane inBytes

/-- Merging keeps the first `byteOffset` bytes of `prevWord` and appends the
bytes of `curWord`, as far as they fit. -/
theorem holds_mergeHead
    {curWord prevWord sendWord : NetAXISWord} {byteOffset : BitVec 6}
    {head tail : List (BitVec 8)}
    (shifted : byteOffset ≠ 0)
    (inHead : byteOffset.toNat ≤ head.length)
    (prevHolds : prevWord.Holds head)
    (curHolds : curWord.Holds tail) :
    (mergeTwoWordsHead curWord prevWord byteOffset sendWord).Holds
      ((head.take byteOffset.toNat ++ tail).take 64) where
  fits := by
    simp only [List.length_take]
    omega
  keep := by
    intro lane laneBound
    rw [mergeTwoWordsHead_keep shifted laneBound]
    simp only [List.length_take, List.length_append,
      Nat.min_eq_left inHead]
    split
    · rename_i inPrev
      rw [prevHolds.keep lane laneBound]
      have valid : lane < min 64 (byteOffset.toNat + tail.length) := by
        omega
      have heldLane : lane < head.length := by
        omega
      simp [heldLane, valid]
    · rename_i inTail
      rw [curHolds.keep _ (by omega)]
      have shiftedBound :
          lane - byteOffset.toNat < tail.length ↔
            lane < min 64 (byteOffset.toNat + tail.length) := by
        omega
      simp only [shiftedBound]
  data := by
    intro lane inBytes
    simp only [List.length_take, List.length_append,
      Nat.min_eq_left inHead] at inBytes
    have headLength :
        (head.take byteOffset.toNat).length = byteOffset.toNat := by
      rw [List.length_take, Nat.min_eq_left inHead]
    rw [mergeTwoWordsHead_byte shifted (by omega)]
    simp only [List.getElem_take]
    split
    · rename_i inPrev
      rw [prevHolds.data lane (by omega),
        List.getElem_append_left (by omega), List.getElem_take]
    · rename_i inTail
      rw [curHolds.data (lane - byteOffset.toNat) (by omega),
        List.getElem_append_right (by omega)]
      simp only [headLength]

/-- Merging behind the `byteOffset` bytes of `prevWord` appends the bytes of
`curWord`, as far as they fit. -/
theorem holds_merge
    {curWord prevWord sendWord : NetAXISWord} {byteOffset : BitVec 6}
    {head tail : List (BitVec 8)}
    (shifted : byteOffset ≠ 0)
    (headLength : head.length = byteOffset.toNat)
    (prevHolds : prevWord.Holds head)
    (curHolds : curWord.Holds tail) :
    (mergeTwoWordsHead curWord prevWord byteOffset sendWord).Holds
      ((head ++ tail).take 64) := by
  have merged :=
    @holds_mergeHead curWord prevWord sendWord byteOffset head tail
      shifted (Nat.le_of_eq headLength.symm) prevHolds curHolds
  rwa [List.take_of_length_le (Nat.le_of_eq headLength)] at merged

/-- Concatenation drops the first `byteOffset` bytes of `prevWord` and
appends the first bytes of `curWord`; it needs `prevWord` to be full unless
`curWord` is empty. -/
theorem holds_concat
    {curWord prevWord sendWord : NetAXISWord} {byteOffset : BitVec 6}
    {head tail : List (BitVec 8)}
    (shifted : byteOffset ≠ 0)
    (prevHolds : prevWord.Holds head)
    (curHolds : curWord.Holds tail)
    (joined : head.length = 64 ∨ tail = []) :
    (concatTwoWords curWord prevWord byteOffset sendWord).Holds
      (head.drop byteOffset.toNat ++ tail.take byteOffset.toNat) where
  fits := by
    have offsetBound := byteOffset.isLt
    have headFits := prevHolds.fits
    rw [List.length_append, List.length_drop, List.length_take]
    omega
  keep := by
    intro lane laneBound
    have offsetBound := byteOffset.isLt
    rw [concatTwoWords_keep shifted laneBound]
    simp only [List.length_append, List.length_drop, List.length_take]
    split
    · rename_i inHead
      rw [prevHolds.keep _ inHead]
      rcases joined with full | rfl
      · simp only [full, inHead, decide_true]
        have valid :
            lane <
              64 - byteOffset.toNat +
                min byteOffset.toNat tail.length := by
          omega
        simp [valid]
      · have sameBound :
            lane + byteOffset.toNat < head.length ↔
              lane < head.length - byteOffset.toNat := by
          omega
        simp [sameBound]
    · rename_i inTail
      rw [curHolds.keep _ (by omega)]
      rcases joined with full | rfl
      · have sameBound :
            lane + byteOffset.toNat - 64 < tail.length ↔
              lane <
                head.length - byteOffset.toNat +
                  min byteOffset.toNat tail.length := by
          omega
        simp only [sameBound]
      · have headFits := prevHolds.fits
        have outside : ¬ lane < head.length - byteOffset.toNat := by
          omega
        simp [outside]
  data := by
    intro lane inBytes
    have offsetBound := byteOffset.isLt
    have headFits := prevHolds.fits
    rw [List.length_append, List.length_drop,
      List.length_take] at inBytes
    rw [concatTwoWords_byte shifted (by omega)]
    split
    · rename_i inHead
      have headBound : lane + byteOffset.toNat < head.length := by
        rcases joined with full | rfl
        · omega
        · simp only [List.length_nil, Nat.min_zero] at inBytes
          omega
      rw [prevHolds.data _ headBound,
        List.getElem_append_left (by rw [List.length_drop]; omega),
        List.getElem_drop]
      simp only [Nat.add_comm]
    · rename_i inTail
      have full : head.length = 64 := by
        rcases joined with full | rfl
        · exact full
        · simp only [List.length_nil, Nat.min_zero] at inBytes
          omega
      rw [curHolds.data _ (by omega),
        List.getElem_append_right (by rw [List.length_drop]; omega),
        List.getElem_take]
      simp only [List.length_drop, full]
      congr 1
      omega

end NetAXISWord

/-! ## Building a beat -/

namespace NetAXISWord

/-- The bytes of a list in the low lanes. -/
def packBytes : List (BitVec 8) → BitVec 512
  | [] => 0
  | first :: rest => first.setWidth 512 ||| (packBytes rest <<< 8)

theorem packBytes_lane
    {bytes : List (BitVec 8)} {lane : Nat}
    (inBytes : lane < bytes.length) (inWord : lane < 64) :
    (packBytes bytes).extractLsb' (8 * lane) 8 = bytes[lane] := by
  induction bytes generalizing lane with
  | nil =>
      simp at inBytes
  | cons first rest inductionHypothesis =>
      apply BitVec.eq_of_getLsbD_eq
      intro bit bitBound
      cases lane with
      | zero =>
          have inFirst : bit < 512 := by
            omega
          simp [packBytes, bitBound, inFirst]
      | succ lane =>
          have shifted : ¬ 8 * (lane + 1) + bit < 8 := by
            omega
          have outside : 8 ≤ 8 * (lane + 1) + bit := by
            omega
          have inData : 8 * (lane + 1) + bit < 512 := by
            omega
          have position :
              8 * (lane + 1) + bit - 8 = 8 * lane + bit := by
            omega
          have below := inductionHypothesis
            (by simpa using inBytes) (by omega : lane < 64)
          have sameBit :=
            congrArg (fun byte => byte.getLsbD bit) below
          simp only [BitVec.getLsbD_extractLsb', bitBound, decide_true,
            Bool.true_and] at sameBit
          simp only [packBytes, BitVec.getLsbD_extractLsb', bitBound,
            decide_true, Bool.true_and, BitVec.getLsbD_or,
            BitVec.getLsbD_setWidth, BitVec.getLsbD_shiftLeft, shifted,
            decide_false, Bool.not_false, inData, position, sameBit,
            BitVec.getLsbD_of_ge _ _ outside, Bool.and_false,
            Bool.false_or, List.getElem_cons_succ]

/-- A beat of at most 64 bytes. -/
def ofBytes (bytes : List (BitVec 8)) (last : Bool) : NetAXISWord :=
  { data := packBytes bytes
    dest := 0
    keep := BitVec.ofNat 64 (2 ^ bytes.length - 1)
    last := last }

theorem holds_ofBytes
    {bytes : List (BitVec 8)} (last : Bool) (short : bytes.length ≤ 64) :
    (ofBytes bytes last).Holds bytes where
  fits := short
  keep := by
    intro lane laneBound
    simp only [ofBytes, BitVec.getLsbD_ofNat, laneBound, decide_true,
      Bool.true_and, Nat.testBit_two_pow_sub_one]
  data := by
    intro lane inBytes
    exact packBytes_lane inBytes (by omega)

end NetAXISWord

/-! ## Frames of words -/

/-- One AXI stream frame of 64-byte beats with contiguous keep and `last` on
its final beat only. -/
abbrev IsAxiFrame : List (BitVec 8) → List NetAXISWord → Prop :=
  Framing.IsFrame NetAXISWord.Holds NetAXISWord.last 64

/-- A stream that is one frame for each of the byte strings. -/
abbrev AxiFrames : List (List (BitVec 8)) → List NetAXISWord → Prop :=
  Framing.Frames NetAXISWord.Holds NetAXISWord.last 64

theorem exists_axiFrame
    (bytes : List (BitVec 8)) (nonempty : bytes ≠ []) :
    ∃ beats, IsAxiFrame bytes beats := by
  refine Framing.IsFrame.exists_of_beats (by decide) ?_ bytes nonempty
  intro chunk raised short
  exact ⟨NetAXISWord.ofBytes chunk raised,
    NetAXISWord.holds_ofBytes raised short, rfl⟩

end TcpOffload
