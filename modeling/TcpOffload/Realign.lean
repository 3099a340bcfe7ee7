import TcpOffload.AxiWord

/-!
# Dropping bytes at the head of a frame

The state machines that shave a header off a frame keep the previous beat and
write its tail together with the head of the current one.  When bytes are
left after the final beat, one more beat carries them.
-/

namespace TcpOffload

open Framing

/-- `(cur_word(k - 1, 0), prev_word(511, k))`: the tail of `prevWord` from
byte `byteOffset` on, with the head of `curWord` above it.  Some machines set
the destination from `prevWord`, some not at all. -/
def joinWords
    (dest : NetAXISWord → BitVec 4) (curWord prevWord : NetAXISWord)
    (byteOffset : BitVec 6) : NetAXISWord :=
  { data :=
      (prevWord.data >>> (8 * byteOffset.toNat)) |||
        (curWord.data <<< (512 - 8 * byteOffset.toNat))
    dest := dest prevWord
    keep :=
      (prevWord.keep >>> byteOffset.toNat) |||
        (curWord.keep <<< (64 - byteOffset.toNat))
    last := false }

/-- The destination of a word that was never assigned one. -/
def noDest (_ : NetAXISWord) : BitVec 4 :=
  0

theorem joinWords_eq_concat
    {dest : NetAXISWord → BitVec 4} {curWord prevWord : NetAXISWord}
    {byteOffset : BitVec 6} (shifted : byteOffset ≠ 0) :
    joinWords dest curWord prevWord byteOffset =
      concatTwoWords curWord prevWord byteOffset
        ⟨0, dest prevWord, 0, false⟩ := by
  rw [joinWords, concatTwoWords, if_neg shifted]

section Bits

variable {dest : NetAXISWord → BitVec 4} {curWord prevWord : NetAXISWord}
variable {byteOffset : BitVec 6} {bit : Nat}

theorem joinWords_data (inside : bit < 512) :
    (joinWords dest curWord prevWord byteOffset).data.getLsbD bit =
      if bit < 512 - 8 * byteOffset.toNat then
        prevWord.data.getLsbD (8 * byteOffset.toNat + bit)
      else
        curWord.data.getLsbD (bit - (512 - 8 * byteOffset.toNat)) := by
  rw [joinWords, BitVec.getLsbD_or, BitVec.getLsbD_ushiftRight,
    BitVec.getLsbD_shiftLeft]
  split
  · rename_i low
    simp [low]
  · rename_i high
    simp [high, inside,
      BitVec.getLsbD_of_ge _ _
        (by omega : 512 ≤ 8 * byteOffset.toNat + bit)]

theorem joinWords_keep (inside : bit < 64) :
    (joinWords dest curWord prevWord byteOffset).keep.getLsbD bit =
      if bit < 64 - byteOffset.toNat then
        prevWord.keep.getLsbD (byteOffset.toNat + bit)
      else
        curWord.keep.getLsbD (bit - (64 - byteOffset.toNat)) := by
  rw [joinWords, BitVec.getLsbD_or, BitVec.getLsbD_ushiftRight,
    BitVec.getLsbD_shiftLeft]
  split
  · rename_i low
    simp [low]
  · rename_i high
    simp [high, inside,
      BitVec.getLsbD_of_ge _ _ (by omega : 64 ≤ byteOffset.toNat + bit)]

end Bits

namespace NetAXISWord

def withLast (word : NetAXISWord) (last : Bool) : NetAXISWord :=
  { word with last := last }

@[simp]
theorem withLast_last (word : NetAXISWord) (last : Bool) :
    (word.withLast last).last = last :=
  rfl

theorem Holds.withLast
    {word : NetAXISWord} {bytes : List (BitVec 8)}
    (holds : word.Holds bytes) (last : Bool) :
    (word.withLast last).Holds bytes :=
  holds.congr rfl rfl

end NetAXISWord

/-- The beats written once `prevWord` is held and `words` are still to come.
The final word leaves bytes for a beat of its own when its byte `byteOffset`
is valid. -/
def realign (dest : NetAXISWord → BitVec 4) (byteOffset : BitVec 6) :
    NetAXISWord → List NetAXISWord → List NetAXISWord
  | prevWord, [] =>
      [(joinWords dest NetAXISWord.empty prevWord byteOffset).withLast true]
  | prevWord, curWord :: words =>
      if curWord.last && !curWord.keep.getLsbD byteOffset.toNat then
        [(joinWords dest curWord prevWord byteOffset).withLast true]
      else
        (joinWords dest curWord prevWord byteOffset).withLast false ::
          realign dest byteOffset curWord words

section Realign

variable {dest : NetAXISWord → BitVec 4} {byteOffset : BitVec 6}
variable {prevWord : NetAXISWord} {words : List NetAXISWord}

theorem realign_of_ended
    {curWord : NetAXISWord}
    (raised : curWord.last = true)
    (ended : curWord.keep.getLsbD byteOffset.toNat = false) :
    realign dest byteOffset prevWord (curWord :: words) =
      [(joinWords dest curWord prevWord byteOffset).withLast true] := by
  rw [realign, raised, ended]
  rfl

theorem realign_of_extra
    {curWord : NetAXISWord}
    (extra : curWord.keep.getLsbD byteOffset.toNat = true) :
    realign dest byteOffset prevWord (curWord :: words) =
      (joinWords dest curWord prevWord byteOffset).withLast false ::
        realign dest byteOffset curWord words := by
  conv_lhs => rw [realign, extra, Bool.not_true, Bool.and_false]
  rfl

theorem realign_of_more
    {curWord : NetAXISWord} (notRaised : curWord.last = false) :
    realign dest byteOffset prevWord (curWord :: words) =
      (joinWords dest curWord prevWord byteOffset).withLast false ::
        realign dest byteOffset curWord words := by
  conv_lhs => rw [realign, notRaised, Bool.false_and]
  rfl

/-- The first word written has the tail of the word held. -/
theorem realign_head :
    ∃ curWord last later,
      realign dest byteOffset prevWord words =
        (joinWords dest curWord prevWord byteOffset).withLast last ::
          later := by
  cases words with
  | nil =>
      exact ⟨_, _, _, rfl⟩
  | cons curWord words =>
      rw [realign]
      split
      · exact ⟨_, _, _, rfl⟩
      · exact ⟨_, _, _, rfl⟩

theorem realign_delimited :
    Delimited NetAXISWord.last (realign dest byteOffset prevWord words) := by
  induction words generalizing prevWord with
  | nil =>
      exact Delimited.final rfl
  | cons curWord words inductionHypothesis =>
      rw [realign]
      split
      · exact Delimited.final rfl
      · exact Delimited.more rfl inductionHypothesis

theorem holds_joinWords_empty
    {bytes : List (BitVec 8)}
    (shifted : byteOffset ≠ 0) (holds : prevWord.Holds bytes) :
    (joinWords dest NetAXISWord.empty prevWord byteOffset).Holds
      (bytes.drop byteOffset.toNat) := by
  have joined :=
    @NetAXISWord.holds_concat NetAXISWord.empty prevWord
      ⟨0, dest prevWord, 0, false⟩ byteOffset bytes [] shifted holds
      NetAXISWord.holds_empty (Or.inr rfl)
  rw [joinWords_eq_concat shifted]
  simpa using joined

theorem holds_joinWords_full
    {curWord : NetAXISWord} {chunk bytes : List (BitVec 8)}
    (shifted : byteOffset ≠ 0)
    (prevHolds : prevWord.Holds chunk) (full : chunk.length = 64)
    (curHolds : curWord.Holds bytes) :
    (joinWords dest curWord prevWord byteOffset).Holds
      (chunk.drop byteOffset.toNat ++ bytes.take byteOffset.toNat) := by
  rw [joinWords_eq_concat shifted]
  exact NetAXISWord.holds_concat shifted prevHolds curHolds (Or.inl full)

/-- A full beat shifted down takes as many bytes of the next beat as it
loses. -/
theorem drop_append_full
    {chunk : List (BitVec 8)} (full : chunk.length = 64)
    (bytes : List (BitVec 8)) :
    (chunk ++ bytes).drop byteOffset.toNat =
      (chunk.drop byteOffset.toNat ++ bytes.take byteOffset.toNat) ++
        bytes.drop byteOffset.toNat := by
  have inChunk : byteOffset.toNat ≤ chunk.length := by
    omega
  rw [List.append_assoc, List.take_append_drop,
    List.drop_append_of_le_length inChunk]

/-- Realigning a frame by `byteOffset` gives the frame of the bytes from
`byteOffset` on. -/
theorem realign_isFrame
    {bytes : List (BitVec 8)}
    (shifted : byteOffset ≠ 0)
    (frame :
      IsFrame NetAXISWord.Holds NetAXISWord.last 64 bytes
        (prevWord :: words))
    (some : bytes.drop byteOffset.toNat ≠ []) :
    IsFrame NetAXISWord.Holds NetAXISWord.last 64
      (bytes.drop byteOffset.toNat)
      (realign dest byteOffset prevWord words) := by
  induction words generalizing prevWord bytes with
  | nil =>
      cases frame with
      | final holds nonempty short raised =>
          have dropped :=
            @holds_joinWords_empty dest byteOffset prevWord bytes shifted
              holds
          exact
            IsFrame.final (dropped.withLast true) some dropped.fits rfl
      | more _ _ _ rest =>
          exact absurd rfl rest.beats_ne_nil
  | cons curWord words inductionHypothesis =>
      cases frame with
      | @more chunk bytes _ _ prevHolds full _ rest =>
          have joined (curBytes : List (BitVec 8))
              (curHolds : curWord.Holds curBytes) :=
            @holds_joinWords_full dest byteOffset prevWord curWord chunk
              curBytes shifted prevHolds full curHolds
          rw [drop_append_full full]
          cases rest with
          | final curHolds nonempty short raised =>
              have kept := curHolds.keep byteOffset.toNat byteOffset.isLt
              by_cases past : byteOffset.toNat < bytes.length
              · have left : bytes.drop byteOffset.toNat ≠ [] := by
                  intro none
                  have noBytes := congrArg List.length none
                  rw [List.length_drop, List.length_nil] at noBytes
                  omega
                have later :=
                  inductionHypothesis
                    (IsFrame.final curHolds nonempty short raised) left
                rw [realign_of_extra (kept.trans (decide_eq_true past))]
                refine
                  IsFrame.more ((joined bytes curHolds).withLast false)
                    ?_ rfl later
                rw [List.length_append, List.length_drop, full,
                  List.length_take]
                omega
              · have noneLeft : bytes.drop byteOffset.toNat = [] :=
                  List.drop_eq_nil_of_le (by omega)
                rw [realign_of_ended raised
                  (kept.trans (decide_eq_false past)), noneLeft,
                  List.append_nil]
                have ends := joined bytes curHolds
                refine
                  IsFrame.final (ends.withLast true) ?_ ends.fits rfl
                intro none
                have noBytes := congrArg List.length none
                rw [List.length_append, List.length_drop, full,
                  List.length_nil] at noBytes
                omega
          | @more curChunk later _ _ curHolds curFull notRaised rest =>
              have headBytes :
                  (curChunk ++ later).take byteOffset.toNat =
                    curChunk.take byteOffset.toNat :=
                List.take_append_of_le_length (by omega)
              have left :
                  (curChunk ++ later).drop byteOffset.toNat ≠ [] := by
                intro none
                have noBytes := congrArg List.length none
                rw [List.length_drop, List.length_append, curFull,
                  List.length_nil] at noBytes
                omega
              have frame :=
                inductionHypothesis
                  (IsFrame.more curHolds curFull notRaised rest) left
              rw [realign_of_more notRaised, headBytes]
              refine
                IsFrame.more ((joined curChunk curHolds).withLast false)
                  ?_ rfl frame
              rw [List.length_append, List.length_drop, full,
                List.length_take]
              omega

end Realign

/-! ## Bytes in front of a frame -/

section TailWord

variable {byteOffset : BitVec 6} {word : NetAXISWord}
variable {head : List (BitVec 8)}

/-- The word that ends with the bytes of `word`. -/
def tailWord (byteOffset : BitVec 6) (word : NetAXISWord) : NetAXISWord :=
  { data := word.data <<< (8 * byteOffset.toNat)
    dest := 0
    keep := BitVec.allOnes 64
    last := false }

theorem tailWord_byte {lane : Nat} (laneBound : lane < 64) :
    (tailWord byteOffset word).byte lane =
      if lane < byteOffset.toNat then
        0
      else
        word.byte (lane - byteOffset.toNat) := by
  apply BitVec.eq_of_getLsbD_eq
  intro bit inByte
  have inWord : 8 * lane + bit < 512 := by
    omega
  rw [NetAXISWord.byte, tailWord, BitVec.getLsbD_extractLsb',
    BitVec.getLsbD_shiftLeft]
  by_cases low : lane < byteOffset.toNat
  · have below : 8 * lane + bit < 8 * byteOffset.toNat := by
      omega
    simp [low, below]
  · have above : ¬ 8 * lane + bit < 8 * byteOffset.toNat := by
      omega
    have position :
        8 * lane + bit - 8 * byteOffset.toNat =
          8 * (lane - byteOffset.toNat) + bit := by
      omega
    simp [low, above, inWord, NetAXISWord.byte, position]

theorem length_tailWord
    (fills : byteOffset.toNat + head.length = 64) :
    (List.replicate byteOffset.toNat (0 : BitVec 8) ++ head).length =
      64 := by
  rw [List.length_append, List.length_replicate]
  exact fills

theorem holds_tailWord
    (holds : word.Holds head)
    (fills : byteOffset.toNat + head.length = 64) :
    (tailWord byteOffset word).Holds
      (List.replicate byteOffset.toNat 0 ++ head) := by
  have length := length_tailWord fills
  refine ⟨Nat.le_of_eq length, ?_, ?_⟩
  · intro lane laneBound
    rw [length, tailWord, BitVec.getLsbD_allOnes]
  · intro lane inBytes
    rw [length] at inBytes
    rw [tailWord_byte inBytes, List.getElem_append]
    simp only [List.length_replicate, List.getElem_replicate]
    split
    · rfl
    · rw [holds.data]

/-- Realigning behind a tail puts its bytes in front of the frame. -/
theorem realign_tailWord_isFrame
    {dest : NetAXISWord → BitVec 4} {bytes : List (BitVec 8)}
    {words : List NetAXISWord}
    (shifted : byteOffset ≠ 0) (holds : word.Holds head)
    (fills : byteOffset.toNat + head.length = 64)
    (frame : IsAxiFrame bytes words) :
    IsAxiFrame (head ++ bytes)
      (realign dest byteOffset (tailWord byteOffset word) words) := by
  have joined :=
    IsFrame.more (holds_tailWord holds fills) (length_tailWord fills)
      (rfl : (tailWord byteOffset word).last = false) frame
  have dropped :
      (List.replicate byteOffset.toNat 0 ++ head ++ bytes).drop
          byteOffset.toNat =
        head ++ bytes := by
    rw [List.append_assoc]
    exact List.drop_left' List.length_replicate
  have some : head ++ bytes ≠ [] :=
    List.append_ne_nil_of_right_ne_nil head frame.bytes_ne_nil
  have realigned :=
    @realign_isFrame dest byteOffset (tailWord byteOffset word) words _
      shifted joined (by rwa [dropped])
  rwa [dropped] at realigned

end TailWord

end TcpOffload
