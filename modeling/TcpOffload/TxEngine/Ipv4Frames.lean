import TcpOffload.InternetChecksum
import TcpOffload.RxEngine.PayloadBytes
import TcpOffload.TxEngine.Ipv4Packet

/-!
# The frames of `TxEngConstructIpv4Packet`

Without its slips the state machine would realign the segment behind the 20
bytes of the IPv4 header.  It leaves out the beat behind a segment of several
beats whose final one has more than 44 bytes, and clears a bit behind the
checksum.
-/

namespace TcpOffload

open Clocked Framing

/-! ## Segments -/

/-- What the state machine reads for one packet. -/
structure Ipv4Segment where
  header : List (BitVec 8)
  checksum : BitVec 16
  tcpBytes : List (BitVec 8)
  headerLength : header.length = 20
  atLeastTcpHeader : 20 ≤ tcpBytes.length

namespace Ipv4Segment

/-- The packet of a segment: the checksum is the word 8 of the segment. -/
def packet (segment : Ipv4Segment) : List (BitVec 8) :=
  segment.header ++ setField segment.tcpBytes 8 segment.checksum

/-- The upper byte of the urgent pointer is even, and no beat is needed
behind several ones. -/
def Kept (segment : Ipv4Segment) : Prop :=
  (segment.tcpBytes.getD 18 0).getLsbD 0 = false ∧
    (segment.tcpBytes.length ≤ 64 ∨
      (lastChunk 64 segment.tcpBytes).length ≤ 44)

/-- The bytes with the bit that the 17-bit range of the checksum clears. -/
def written (segment : Ipv4Segment) : List (BitVec 8) :=
  segment.header ++
    (setField segment.tcpBytes 8 segment.checksum).set 18
      (segment.tcpBytes.getD 18 0 &&& 0xFE)

end Ipv4Segment

/-! ## The first word -/

/-- The tail of a word whose last 20 bytes are the header. -/
def headerTail (ipv4Header : NetAXISWord) : NetAXISWord :=
  { data := ipv4Header.data <<< 352
    dest := 0
    keep := BitVec.allOnes 64
    last := false }

/-- The checksum written over the bits 288 to 304. -/
def insertTcpChecksum (tcpChecksum : BitVec 16) (word : NetAXISWord) :
    NetAXISWord :=
  { word with
    data :=
      word.data.extractLsb' 305 207 ++
        (swapByte tcpChecksum).setWidth 17 ++ word.data.extractLsb' 0 288 }

theorem joinWords_headerTail_data (ipv4Header curWord : NetAXISWord) :
    (joinWords noDest curWord (headerTail ipv4Header) 44).data =
      (curWord.data.extractLsb' 0 352 ++
        ipv4Header.data.extractLsb' 0 160 : BitVec 512) := by
  apply BitVec.eq_of_getLsbD_eq
  intro bit inside
  have inHead : bit - 160 < 352 := by
    omega
  rw [joinWords_data inside, headerTail, BitVec.getLsbD_append,
    BitVec.getLsbD_extractLsb', BitVec.getLsbD_extractLsb',
    BitVec.getLsbD_shiftLeft, decide_eq_true inHead]
  by_cases low : bit < 160
  · have inTail : 352 + bit < 512 := by
      omega
    simp [low, inTail]
  · simp [low]

theorem joinWords_headerTail_keep (ipv4Header curWord : NetAXISWord) :
    (joinWords noDest curWord (headerTail ipv4Header) 44).keep =
      (curWord.keep.extractLsb' 0 44 ++ (0xFFFFF : BitVec 20) :
        BitVec 64) := by
  have ones : (0xFFFFF : BitVec 20) = BitVec.allOnes 20 := rfl
  apply BitVec.eq_of_getLsbD_eq
  intro bit inside
  have inHead : bit - 20 < 44 := by
    omega
  rw [joinWords_keep inside, headerTail, ones, BitVec.getLsbD_append,
    BitVec.getLsbD_extractLsb', BitVec.getLsbD_allOnes,
    BitVec.getLsbD_allOnes, decide_eq_true inHead]
  by_cases low : bit < 20
  · have inTail : 44 + bit < 64 := by
      omega
    simp [low, inTail]
  · simp [low]

theorem firstIpv4Word_eq
    (ipv4Header : NetAXISWord) (tcpChecksum : BitVec 16)
    (curWord : NetAXISWord) :
    firstIpv4Word ipv4Header tcpChecksum curWord =
      insertTcpChecksum tcpChecksum
        (joinWords noDest curWord (headerTail ipv4Header) 44) := by
  rw [firstIpv4Word, ← joinWords_headerTail_data,
    ← joinWords_headerTail_keep ipv4Header]
  rfl

theorem insertTcpChecksum_withLast
    (tcpChecksum : BitVec 16) (word : NetAXISWord) (last : Bool) :
    (insertTcpChecksum tcpChecksum word).withLast last =
      insertTcpChecksum tcpChecksum (word.withLast last) :=
  rfl

theorem insertTcpChecksum_bit
    (tcpChecksum : BitVec 16) (word : NetAXISWord)
    {lane bit : Nat} (laneBound : lane < 64) (inByte : bit < 8) :
    ((insertTcpChecksum tcpChecksum word).byte lane).getLsbD bit =
      if 8 * lane + bit < 288 then
        word.data.getLsbD (8 * lane + bit)
      else if 8 * lane + bit < 305 then
        ((swapByte tcpChecksum).setWidth 17).getLsbD
          (8 * lane + bit - 288)
      else
        word.data.getLsbD (8 * lane + bit) := by
  simp only [insertTcpChecksum, NetAXISWord.byte,
    BitVec.getLsbD_extractLsb', BitVec.getLsbD_append, inByte,
    decide_true, Bool.true_and]
  by_cases low : 8 * lane + bit < 288
  · simp [low]
  · by_cases middle : 8 * lane + bit < 305
    · have inRange : 8 * lane + bit - 288 < 17 := by
        omega
      rw [if_neg low, if_pos inRange, if_neg low, if_pos middle]
    · have pastRange : ¬ 8 * lane + bit - 288 < 17 := by
        omega
      have inWord : 8 * lane + bit - 288 - 17 < 207 := by
        omega
      have position :
          305 + (8 * lane + bit - 288 - 17) = 8 * lane + bit := by
        omega
      rw [if_neg low, if_neg pastRange, if_neg low, if_neg middle,
        decide_eq_true inWord, Bool.true_and, position]

theorem insertTcpChecksum_byte
    (tcpChecksum : BitVec 16) (word : NetAXISWord)
    {lane : Nat} (laneBound : lane < 64) :
    (insertTcpChecksum tcpChecksum word).byte lane =
      if lane = 38 then
        word.byte 38 &&& 0xFE
      else if lane = 37 then
        tcpChecksum.extractLsb' 0 8
      else if lane = 36 then
        tcpChecksum.extractLsb' 8 8
      else
        word.byte lane := by
  have mask (bit : Nat) :
      (0xFE : BitVec 8).getLsbD bit = decide (1 ≤ bit ∧ bit < 8) := by
    by_cases inside : bit < 8
    · revert bit
      decide
    · rw [BitVec.getLsbD_of_ge _ _ (by omega), decide_eq_false (by omega)]
  have byteOf (lane bit : Nat) :
      (word.byte lane).getLsbD bit =
        (decide (bit < 8) && word.data.getLsbD (8 * lane + bit)) := by
    rw [NetAXISWord.byte, BitVec.getLsbD_extractLsb']
  apply BitVec.eq_of_getLsbD_eq
  intro bit inByte
  have left := insertTcpChecksum_bit tcpChecksum word laneBound inByte
  rw [left, swapByte_sixteen, BitVec.getLsbD_setWidth,
    BitVec.getLsbD_append, BitVec.getLsbD_extractLsb',
    BitVec.getLsbD_extractLsb']
  by_cases urgent : lane = 38
  · subst urgent
    rw [if_pos rfl, BitVec.getLsbD_and, mask, byteOf]
    by_cases zero : bit = 0
    · subst zero
      simp
    · have past : ¬ 8 * 38 + bit < 305 := by
        omega
      have above : ¬ 8 * 38 + bit < 288 := by
        omega
      have positive : 1 ≤ bit := by
        omega
      simp [past, above, inByte, positive]
  · rw [if_neg urgent]
    by_cases lower : lane = 37
    · subst lower
      have above : ¬ 8 * 37 + bit < 288 := by
        omega
      have inside : 8 * 37 + bit < 305 := by
        omega
      have upperByte : ¬ 8 * 37 + bit - 288 < 8 := by
        omega
      have position : 8 * 37 + bit - 288 - 8 = bit := by
        omega
      have inRange : 8 * 37 + bit - 288 < 17 := by
        omega
      rw [if_neg above, if_pos inside, if_neg upperByte, if_pos rfl,
        position, BitVec.getLsbD_extractLsb', decide_eq_true inRange,
        Bool.true_and]
    · rw [if_neg lower]
      by_cases upper : lane = 36
      · subst upper
        have above : ¬ 8 * 36 + bit < 288 := by
          omega
        have inside : 8 * 36 + bit < 305 := by
          omega
        have position : 8 * 36 + bit - 288 = bit := by
          omega
        have inRange : bit < 17 := by
          omega
        rw [if_neg above, if_pos inside, if_pos rfl, position,
          if_pos inByte, BitVec.getLsbD_extractLsb',
          decide_eq_true inRange, Bool.true_and]
      · rw [if_neg upper, byteOf, decide_eq_true inByte, Bool.true_and]
        by_cases below : 8 * lane + bit < 288
        · rw [if_pos below]
        · have past : ¬ 8 * lane + bit < 305 := by
            omega
          rw [if_neg below, if_neg past]

/-- The bytes of a word or of a packet with the checksum in them. -/
def withTcpChecksum
    (tcpChecksum : BitVec 16) (bytes : List (BitVec 8)) :
    List (BitVec 8) :=
  (setField bytes 18 tcpChecksum).set 38 (bytes.getD 38 0 &&& 0xFE)

theorem length_withTcpChecksum
    (tcpChecksum : BitVec 16) (bytes : List (BitVec 8)) :
    (withTcpChecksum tcpChecksum bytes).length = bytes.length := by
  rw [withTcpChecksum, List.length_set, length_setField]

theorem withTcpChecksum_append
    (tcpChecksum : BitVec 16) {first : List (BitVec 8)}
    (inside : 38 < first.length) (second : List (BitVec 8)) :
    withTcpChecksum tcpChecksum (first ++ second) =
      withTcpChecksum tcpChecksum first ++ second := by
  have urgent : (first ++ second).getD 38 0 = first.getD 38 0 := by
    rw [List.getD_eq_getElem?_getD, List.getD_eq_getElem?_getD,
      List.getElem?_append_left inside]
  rw [withTcpChecksum, withTcpChecksum, urgent, setField, setField,
    List.set_append_left _ _ (by omega),
    List.set_append_left _ _ (by rw [List.length_set]; omega),
    List.set_append_left _ _
      (by rw [List.length_set, List.length_set]; omega)]

theorem Ipv4Segment.written_eq (segment : Ipv4Segment) :
    withTcpChecksum segment.checksum (segment.header ++ segment.tcpBytes) =
      segment.written := by
  have behind (bytes : List (BitVec 8)) (offset : Nat) (byte : BitVec 8) :
      (segment.header ++ bytes).set (20 + offset) byte =
        segment.header ++ bytes.set offset byte := by
    rw [List.set_append_right _ _ (by rw [segment.headerLength]; omega),
      segment.headerLength, Nat.add_sub_cancel_left]
  have urgent :
      (segment.header ++ segment.tcpBytes).getD 38 0 =
        segment.tcpBytes.getD 18 0 := by
    rw [List.getD_eq_getElem?_getD, List.getD_eq_getElem?_getD,
      List.getElem?_append_right (by rw [segment.headerLength]; omega),
      segment.headerLength]
  rw [withTcpChecksum, urgent, setField, behind _ 16, behind _ 17,
    behind _ 18]
  rfl

theorem Holds.insertTcpChecksum
    {word : NetAXISWord} {bytes : List (BitVec 8)}
    (holds : word.Holds bytes) (inside : 38 < bytes.length)
    (tcpChecksum : BitVec 16) :
    (insertTcpChecksum tcpChecksum word).Holds
      (withTcpChecksum tcpChecksum bytes) where
  fits := by
    rw [length_withTcpChecksum]
    exact holds.fits
  keep := by
    rw [length_withTcpChecksum]
    exact holds.keep
  data := by
    intro lane inBytes
    rw [length_withTcpChecksum] at inBytes
    have fits := holds.fits
    have urgent : bytes.getD 38 0 = word.byte 38 := by
      rw [List.getD_eq_getElem?_getD, List.getElem?_eq_getElem inside,
        Option.getD_some, holds.data 38 inside]
    have inWhole : lane < (withTcpChecksum tcpChecksum bytes).length := by
      rwa [length_withTcpChecksum]
    have right :
        (withTcpChecksum tcpChecksum bytes)[lane] =
          if 38 = lane then
            word.byte 38 &&& 0xFE
          else if 37 = lane then
            tcpChecksum.extractLsb' 0 8
          else if 36 = lane then
            tcpChecksum.extractLsb' 8 8
          else
            bytes[lane] := by
      simp only [withTcpChecksum, setField, List.getElem_set, ← urgent]
    rw [insertTcpChecksum_byte tcpChecksum word (by omega), right,
      holds.data lane inBytes]
    simp only [eq_comm]

/-! ## The words of one packet -/

/-- What the case `READ_PAYLOAD` writes. -/
def readPayloadWords : NetAXISWord → List NetAXISWord → List NetAXISWord
  | _, [] => []
  | prevWord, curWord :: words =>
      (joinWords noDest curWord prevWord 44).withLast
          (curWord.last && !curWord.keep.getLsbD 44) ::
        readPayloadWords curWord words

/-- A final beat of more than 44 bytes is written without `last`. -/
theorem readPayloadWords_cases
    {bytes : List (BitVec 8)} {words : List NetAXISWord}
    (frame : IsAxiFrame bytes words) (prevWord : NetAXISWord) :
    if (lastChunk 64 bytes).length ≤ 44 then
      readPayloadWords prevWord words = realign noDest 44 prevWord words
    else
      ∀ word ∈ readPayloadWords prevWord words, word.last = false := by
  induction frame generalizing prevWord with
  | @final bytes curWord holds nonempty short raised =>
      have kept := holds.keep 44 (by decide)
      rw [lastChunk_of_short nonempty short, readPayloadWords, readPayloadWords]
      by_cases ends : bytes.length ≤ 44
      · have clear : curWord.keep.getLsbD 44 = false :=
          kept.trans (decide_eq_false (by omega))
        rw [if_pos ends, raised, clear,
          @realign_of_ended noDest 44 prevWord [] curWord raised clear]
        rfl
      · have set : curWord.keep.getLsbD 44 = true :=
          kept.trans (decide_eq_true (by omega))
        rw [if_neg ends, set, Bool.not_true, Bool.and_false]
        intro word member
        rw [List.mem_singleton.1 member]
        rfl
  | @more chunk bytes curWord words holds full notRaised rest
      inductionHypothesis =>
      have behind := inductionHypothesis curWord
      rw [lastChunk_append full (by decide) rest.bytes_ne_nil,
        readPayloadWords, realign_of_more notRaised, notRaised,
        Bool.false_and]
      split
      · rename_i ends
        rw [if_pos ends] at behind
        rw [behind]
      · rename_i long
        rw [if_neg long] at behind
        intro word member
        rcases List.mem_cons.1 member with rfl | inRest
        · rfl
        · exact behind word inRest

/-- The words of a packet as the states write them. -/
def packetWords
    (ipv4Header : NetAXISWord) (tcpChecksum : BitVec 16)
    (first : NetAXISWord) : List NetAXISWord → List NetAXISWord
  | [] =>
      (realign noDest 44 (headerTail ipv4Header) [first]).modifyHead
        (insertTcpChecksum tcpChecksum)
  | second :: rest =>
      insertTcpChecksum tcpChecksum
          ((joinWords noDest first (headerTail ipv4Header) 44).withLast
            false) ::
        readPayloadWords first (second :: rest)

section Packet

variable {ipv4Header : NetAXISWord} {segment : Ipv4Segment}
variable {first : NetAXISWord} {rest : List NetAXISWord}

theorem headerTail_eq (ipv4Header : NetAXISWord) :
    headerTail ipv4Header = tailWord 44 ipv4Header :=
  rfl

/-- With all its words a packet would have only the bit cleared. -/
theorem realign_header_isFrame
    (holds : ipv4Header.Holds segment.header)
    {words : List NetAXISWord}
    (frame : IsAxiFrame segment.tcpBytes words) :
    IsAxiFrame segment.written
      ((realign noDest 44 (headerTail ipv4Header) words).modifyHead
        (insertTcpChecksum segment.checksum)) := by
  have atLeast := segment.atLeastTcpHeader
  have length := segment.headerLength
  have realigned :=
    @realign_tailWord_isFrame 44 ipv4Header segment.header noDest
      segment.tcpBytes words (by decide) holds (by rw [length]; rfl) frame
  rw [← headerTail_eq] at realigned
  generalize realign noDest 44 (headerTail ipv4Header) words = out
    at realigned
  cases out with
  | nil =>
      exact absurd rfl realigned.beats_ne_nil
  | cons word later =>
      obtain ⟨chunk, behind, split, wordHolds, full, replace⟩ :=
        realigned.replace_head
      have inside : 38 < chunk.length := by
        rcases full with none | full
        · have total := congrArg List.length split
          rw [none, List.append_nil, List.length_append] at total
          omega
        · omega
      rw [← segment.written_eq, split, withTcpChecksum_append _ inside]
      exact
        replace _ _ (Holds.insertTcpChecksum wordHolds inside _)
          (length_withTcpChecksum _ _) rfl

/-- The words of a packet are its frame, with the bit cleared, unless they
end without `last`. -/
theorem packetWords_cases
    (holds : ipv4Header.Holds segment.header)
    (frame : IsAxiFrame segment.tcpBytes (first :: rest)) :
    if segment.tcpBytes.length ≤ 64 ∨
        (lastChunk 64 segment.tcpBytes).length ≤ 44 then
      IsAxiFrame segment.written
        (packetWords ipv4Header segment.checksum first rest)
    else
      ∀ word ∈ packetWords ipv4Header segment.checksum first rest,
        word.last = false := by
  have full := realign_header_isFrame holds frame
  have bounds := frame.beats_bound
  cases rest with
  | nil =>
      rw [List.length_singleton] at bounds
      rw [if_pos (Or.inl (by omega)), packetWords]
      exact full
  | cons second rest =>
      rw [List.length_cons, List.length_cons] at bounds
      generalize segment.tcpBytes = tcpBytes at frame bounds ⊢
      cases frame with
      | @more chunk bytes _ _ _ chunkFull notRaised restFrame =>
          rw [realign_of_more notRaised, List.modifyHead_cons] at full
          have behind := readPayloadWords_cases restFrame first
          rw [lastChunk_append chunkFull (by decide)
            restFrame.bytes_ne_nil]
          have long : ¬ (chunk ++ bytes).length ≤ 64 := by
            omega
          simp only [long, false_or]
          split
          · rename_i ends
            rw [if_pos ends] at behind
            rw [packetWords, behind]
            exact full
          · rename_i unended
            rw [if_neg unended] at behind
            intro word member
            rcases List.mem_cons.1 member with rfl | inRest
            · rfl
            · exact behind word inRest

/-- A packet reaches the output whole exactly when it is kept. -/
theorem packetWords_isFrame_iff
    (holds : ipv4Header.Holds segment.header)
    (frame : IsAxiFrame segment.tcpBytes (first :: rest)) :
    IsAxiFrame segment.packet
        (packetWords ipv4Header segment.checksum first rest) ↔
      segment.Kept := by
  have inside : 18 < segment.tcpBytes.length :=
    Nat.lt_of_lt_of_le (by decide) segment.atLeastTcpHeader
  have urgentByte :
      (setField segment.tcpBytes 8 segment.checksum).getD 18 0 =
        segment.tcpBytes.getD 18 0 := by
    rw [setField, List.getD_eq_getElem?_getD, List.getElem?_set_ne,
      List.getElem?_set_ne, ← List.getD_eq_getElem?_getD]
    · decide
    · decide
  have outcome := packetWords_cases holds frame
  constructor
  · intro isFrame
    have ends :
        segment.tcpBytes.length ≤ 64 ∨
          (lastChunk 64 segment.tcpBytes).length ≤ 44 := by
      by_contra unended
      rw [if_neg unended] at outcome
      obtain ⟨word, member, raised⟩ := isFrame.delimited.exists_last
      rw [outcome word member] at raised
      cases raised
    rw [if_pos ends] at outcome
    have same : segment.packet = segment.written :=
      (@IsFrame.prefix_unique _ _ _ _ _ NetAXISWord.holds_unique _ _ _ _
        [] [] isFrame outcome rfl).1
    have behind := List.append_cancel_left same
    have byte := congrArg (fun bytes => bytes.getD 18 0) behind
    simp only [urgentByte] at byte
    have set (bytes : List (BitVec 8)) (inBytes : 18 < bytes.length)
        (value : BitVec 8) : (bytes.set 18 value).getD 18 0 = value := by
      rw [List.getD_eq_getElem?_getD, List.getElem?_set_self inBytes,
        Option.getD_some]
    rw [set _ (by rw [length_setField]; exact inside)] at byte
    refine ⟨?_, ends⟩
    rw [byte, BitVec.getLsbD_and]
    simp
  · intro kept
    obtain ⟨even, ends⟩ := kept
    rw [if_pos ends] at outcome
    have unchanged :
        segment.tcpBytes.getD 18 0 &&& 0xFE =
          segment.tcpBytes.getD 18 0 := by
      generalize segment.tcpBytes.getD 18 0 = byte at even
      revert byte
      decide
    have same : segment.written = segment.packet := by
      rw [Ipv4Segment.written, unchanged, ← urgentByte,
        Ipv4Segment.packet, List.getD_eq_getElem?_getD,
        List.getElem?_eq_getElem (by rw [length_setField]; exact inside),
        Option.getD_some, List.set_getElem_self]
    rwa [same] at outcome

end Packet

/-! ## Runs -/

section Runs

variable {headers : List NetAXISWord} {checksums : List (BitVec 16)}
variable {later : List NetAXISWord}

theorem runs_readPayload
    {words : List NetAXISWord} (frame : Delimited NetAXISWord.last words)
    (prevWord : NetAXISWord) :
    ∃ final,
      Runs txEngConstructIpv4Packet
        ⟨.readPayload, prevWord, headers, checksums, words ++ later⟩
        (readPayloadWords prevWord words)
        ⟨.readFirst, final, headers, checksums, later⟩ := by
  have sent (curWord prevWord : NetAXISWord) :
      concatTwoWords curWord prevWord 44 NetAXISWord.empty =
        joinWords noDest curWord prevWord 44 :=
    (@joinWords_eq_concat noDest curWord prevWord 44 (by decide)).symm
  induction frame generalizing prevWord with
  | @final curWord raised =>
      have called :
          txEngConstructIpv4Packet
              ⟨.readPayload, prevWord, headers, checksums,
                [curWord] ++ later⟩ =
            (⟨.readFirst, curWord, headers, checksums, later⟩,
              readPayloadWords prevWord [curWord]) := by
        simp only [txEngConstructIpv4Packet, List.cons_append, raised,
          if_true, sent, readPayloadWords, List.nil_append]
      refine ⟨curWord, ?_⟩
      exact List.append_nil (readPayloadWords prevWord [curWord]) ▸
        Runs.head called (Runs.refl _)
  | @more curWord words notRaised _ inductionHypothesis =>
      obtain ⟨final, run⟩ := inductionHypothesis curWord
      have called :
          txEngConstructIpv4Packet
              ⟨.readPayload, prevWord, headers, checksums,
                (curWord :: words) ++ later⟩ =
            (⟨.readPayload, curWord, headers, checksums, words ++ later⟩,
              [(joinWords noDest curWord prevWord 44).withLast
                (curWord.last && !curWord.keep.getLsbD 44)]) := by
        simp only [txEngConstructIpv4Packet, List.cons_append, notRaised,
          Bool.false_eq_true, if_false, sent, Bool.false_and]
      exact ⟨final, Runs.head called run⟩

/-- One packet is read with its header and its checksum. -/
theorem runs_ipv4Packet
    {first : NetAXISWord} {rest : List NetAXISWord}
    (frame : Delimited NetAXISWord.last (first :: rest))
    (prevWord ipv4Header : NetAXISWord) (checksum : BitVec 16) :
    ∃ final,
      Runs txEngConstructIpv4Packet
        ⟨.readFirst, prevWord, ipv4Header :: headers,
          checksum :: checksums, (first :: rest) ++ later⟩
        (packetWords ipv4Header checksum first rest)
        ⟨.readFirst, final, headers, checksums, later⟩ := by
  have extra :
      concatTwoWords NetAXISWord.empty first 44 NetAXISWord.empty =
        joinWords noDest NetAXISWord.empty first 44 :=
    (@joinWords_eq_concat noDest NetAXISWord.empty first 44
      (by decide)).symm
  cases frame with
  | final raised =>
      by_cases long : first.keep.getLsbD 44 = true
      · have called :
            txEngConstructIpv4Packet
                ⟨.readFirst, prevWord, ipv4Header :: headers,
                  checksum :: checksums, [first] ++ later⟩ =
              (⟨.extraWord, first, headers, checksums, later⟩,
                [(firstIpv4Word ipv4Header checksum first).withLast
                  false]) := by
          simp only [txEngConstructIpv4Packet, List.cons_append, raised,
            long, if_true, List.nil_append, Bool.not_true,
            Bool.and_false]
        have ended :
            txEngConstructIpv4Packet
                ⟨.extraWord, first, headers, checksums, later⟩ =
              (⟨.readFirst, first, headers, checksums, later⟩,
                realign noDest 44 first []) := by
          simp only [txEngConstructIpv4Packet, extra, realign]
        refine ⟨first, ?_⟩
        rw [packetWords, realign_of_extra long, List.modifyHead_cons,
          ← insertTcpChecksum_withLast, ← firstIpv4Word_eq]
        exact Runs.head called (Runs.head ended (Runs.refl _))
      · have short := Bool.eq_false_iff.2 long
        have called :
            txEngConstructIpv4Packet
                ⟨.readFirst, prevWord, ipv4Header :: headers,
                  checksum :: checksums, [first] ++ later⟩ =
              (⟨.readFirst, first, headers, checksums, later⟩,
                [(firstIpv4Word ipv4Header checksum first).withLast
                  true]) := by
          simp only [txEngConstructIpv4Packet, List.cons_append, raised,
            short, if_true, List.nil_append, Bool.not_false,
            Bool.and_true, Bool.false_eq_true, if_false]
        refine ⟨first, ?_⟩
        rw [packetWords,
          @realign_of_ended noDest 44 (headerTail ipv4Header) [] first
            raised short,
          List.modifyHead_cons, ← insertTcpChecksum_withLast,
          ← firstIpv4Word_eq]
        exact Runs.head called (Runs.refl _)
  | more notRaised restFrame =>
      cases rest with
      | nil =>
          exact absurd rfl restFrame.beats_ne_nil
      | cons second rest =>
          obtain ⟨final, run⟩ :=
            @runs_readPayload headers checksums later _ restFrame first
          have called :
              txEngConstructIpv4Packet
                  ⟨.readFirst, prevWord, ipv4Header :: headers,
                    checksum :: checksums,
                    (first :: second :: rest) ++ later⟩ =
                (⟨.readPayload, first, headers, checksums,
                    (second :: rest) ++ later⟩,
                  [(firstIpv4Word ipv4Header checksum first).withLast
                    false]) := by
            simp only [txEngConstructIpv4Packet, List.cons_append,
              notRaised, Bool.false_eq_true, if_false, Bool.false_and]
          refine ⟨final, ?_⟩
          rw [packetWords, ← insertTcpChecksum_withLast,
            ← firstIpv4Word_eq]
          exact Runs.head called run

end Runs

/-- What is written for one segment. -/
structure WrittenPiece
    (segment : Ipv4Segment) (piece : List NetAXISWord) : Prop where
  either :
    Delimited NetAXISWord.last piece ∨
      ∀ word ∈ piece, word.last = false
  whole : IsAxiFrame segment.packet piece ↔ segment.Kept

section Written

variable {segments : List Ipv4Segment} {pieces : List (List NetAXISWord)}

theorem either_of_written
    (each : List.Forall₂ WrittenPiece segments pieces) :
    ∀ piece ∈ pieces,
      Delimited NetAXISWord.last piece ∨
        ∀ word ∈ piece, word.last = false := by
  induction each with
  | nil =>
      exact fun piece member => by cases member
  | cons written _ inductionHypothesis =>
      exact List.forall_mem_cons.2 ⟨written.either, inductionHypothesis⟩

theorem whole_of_written
    (each : List.Forall₂ WrittenPiece segments pieces) :
    List.Forall₂ (fun segment => IsAxiFrame (Ipv4Segment.packet segment))
        segments pieces ↔
      ∀ segment ∈ segments, segment.Kept := by
  induction each with
  | nil =>
      simp
  | cons written _ inductionHypothesis =>
      rw [List.forall₂_cons, written.whole, inductionHypothesis,
        List.forall_mem_cons]

end Written

/-- The packets are written one after the other. -/
theorem yields_pieces
    {segments : List Ipv4Segment} {headers stream : List NetAXISWord}
    (headersHold :
      List.Forall₂
        (fun word segment => word.Holds (Ipv4Segment.header segment))
        headers segments)
    (frames : AxiFrames (segments.map Ipv4Segment.tcpBytes) stream)
    (prevWord : NetAXISWord) :
    ∃ pieces final,
      Yields txEngConstructIpv4Packet
        ⟨.readFirst, prevWord, headers,
          segments.map Ipv4Segment.checksum, stream⟩
        pieces.flatten final ∧
      List.Forall₂ WrittenPiece segments pieces := by
  induction headersHold generalizing prevWord stream with
  | nil =>
      rw [List.map_nil] at frames
      rw [frames.eq_nil]
      exact ⟨[], _, ⟨Runs.refl _, rfl⟩, List.Forall₂.nil⟩
  | @cons header segment headers segments holds _ inductionHypothesis =>
      rw [List.map_cons] at frames
      obtain ⟨words, later, rfl, frame, rest⟩ := frames.split_first
      cases words with
      | nil =>
          exact absurd rfl frame.beats_ne_nil
      | cons first words =>
          obtain ⟨held, run⟩ :=
            @runs_ipv4Packet headers (segments.map Ipv4Segment.checksum)
              later first words frame.delimited prevWord header
              segment.checksum
          obtain ⟨pieces, final, yields, each⟩ :=
            inductionHypothesis rest held
          refine
            ⟨packetWords header segment.checksum first words :: pieces,
              final, Yields.prepend run yields,
              List.Forall₂.cons ⟨?_, packetWords_isFrame_iff holds frame⟩
                each⟩
          have outcome := packetWords_cases holds frame
          split at outcome
          · exact Or.inl outcome.delimited
          · exact Or.inr outcome

/-- The output is one frame for each packet exactly when no packet has an odd
byte behind its checksum, or needs a word behind the final one of several. -/
theorem ipv4Packets_frames_iff
    {segments : List Ipv4Segment} {headers stream : List NetAXISWord}
    (headersHold :
      List.Forall₂
        (fun word segment => word.Holds (Ipv4Segment.header segment))
        headers segments)
    (frames : AxiFrames (segments.map Ipv4Segment.tcpBytes) stream)
    (prevWord : NetAXISWord) :
    ∃ out final,
      Yields txEngConstructIpv4Packet
        ⟨.readFirst, prevWord, headers,
          segments.map Ipv4Segment.checksum, stream⟩
        out final ∧
      (AxiFrames (segments.map Ipv4Segment.packet) out ↔
        ∀ segment ∈ segments, segment.Kept) := by
  obtain ⟨pieces, final, yields, each⟩ :=
    yields_pieces headersHold frames prevWord
  refine ⟨pieces.flatten, final, yields, ?_⟩
  rw [AxiFrames, Frames.iff_pieces (either_of_written each)
    (by rw [List.length_map, each.length_eq]), List.forall₂_map_left_iff]
  exact whole_of_written each

/-- A segment of zeros. -/
def zeroSegment (length : Nat) (atLeast : 20 ≤ length) : Ipv4Segment where
  header := List.replicate 20 0
  checksum := 0
  tcpBytes := List.replicate length 0
  headerLength := List.length_replicate
  atLeastTcpHeader := by
    rw [List.length_replicate]
    exact atLeast

/-- The IPv4 header of a segment of zeros. -/
def zeroHeader : NetAXISWord :=
  NetAXISWord.ofBytes (List.replicate 20 0) true

theorem zeroHeader_holds (length : Nat) (atLeast : 20 ≤ length) :
    List.Forall₂
      (fun word segment => word.Holds (Ipv4Segment.header segment))
      [zeroHeader] [zeroSegment length atLeast] :=
  List.Forall₂.cons (NetAXISWord.holds_ofBytes true (by decide))
    List.Forall₂.nil

/-- A segment of 64 bytes, whose packet needs a second word. -/
theorem ipv4Packets_frames_oneBeat :
    ∃ stream out final,
      AxiFrames [(zeroSegment 64 (by decide)).tcpBytes] stream ∧
      Yields txEngConstructIpv4Packet
        ⟨.readFirst, NetAXISWord.empty, [zeroHeader], [0], stream⟩
        out final ∧
      AxiFrames [(zeroSegment 64 (by decide)).packet] out := by
  obtain ⟨stream, frame⟩ :=
    exists_axiFrame (zeroSegment 64 (by decide)).tcpBytes (by decide)
  have frames := Frames.single frame
  obtain ⟨out, final, yields, whole⟩ :=
    ipv4Packets_frames_iff (zeroHeader_holds 64 (by decide)) frames
      NetAXISWord.empty
  refine ⟨stream, out, final, frames, yields, whole.2 ?_⟩
  intro segment member
  rw [List.mem_singleton.1 member]
  exact ⟨by decide, Or.inl (by decide)⟩

/-- The packet of a segment of 109 bytes, two beats and the second of 45,
is not terminated. -/
theorem not_ipv4Packets_frames :
    ¬ ∀ (segments : List Ipv4Segment) (headers stream : List NetAXISWord)
        (prevWord : NetAXISWord),
        List.Forall₂
          (fun word segment => word.Holds (Ipv4Segment.header segment))
          headers segments →
        AxiFrames (segments.map Ipv4Segment.tcpBytes) stream →
        ∃ out final,
          Yields txEngConstructIpv4Packet
            ⟨.readFirst, prevWord, headers,
              segments.map Ipv4Segment.checksum, stream⟩
            out final ∧
          AxiFrames (segments.map Ipv4Segment.packet) out := by
  intro claimed
  have holds := zeroHeader_holds 109 (by decide)
  obtain ⟨stream, frame⟩ :=
    exists_axiFrame (zeroSegment 109 (by decide)).tcpBytes (by decide)
  have frames := Frames.single frame
  obtain ⟨out, final, yields, isFrames⟩ :=
    claimed [zeroSegment 109 (by decide)] [zeroHeader] stream
      NetAXISWord.empty holds frames
  obtain ⟨pieces, other, others, each⟩ :=
    yields_pieces holds frames NetAXISWord.empty
  have same := (yields.unique others).1
  subst same
  rw [AxiFrames, Frames.iff_pieces (either_of_written each)
    (by rw [List.length_map, each.length_eq]), List.forall₂_map_left_iff,
    whole_of_written each] at isFrames
  have kept := (isFrames _ List.mem_cons_self).2
  revert kept
  decide

end TcpOffload
