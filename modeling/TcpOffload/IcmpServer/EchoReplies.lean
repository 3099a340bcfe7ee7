import TcpOffload.IcmpServer.Packets

/-!
# The checksum of an echo reply

The reply differs from its request in the type, and the checksum takes up the
difference: the sum over the message stays what it was.
-/

namespace TcpOffload

open Clocked Framing OnesComplement

/-- The bytes of the ICMP message in a packet, behind an IP header without
options. -/
def icmpMessage (bytes : List (BitVec 8)) (length : Nat) :
    List (BitVec 8) :=
  (bytes.drop 20).take length

/-- The sum over all words of the message. -/
def icmpSum (bytes : List (BitVec 8)) (length : Nat) : BitVec 16 :=
  (bigEndianWords (icmpMessage bytes length)).foldl endAroundAdd 0

/-- The message begins with type, code and checksum. -/
theorem icmpMessage_eq
    {bytes : List (BitVec 8)} {length : Nat} (atLeast : 4 ≤ length)
    (inside : 24 ≤ bytes.length) :
    icmpMessage bytes length =
      bytes[20] :: bytes[21] :: bytes[22] :: bytes[23] ::
        (bytes.drop 24).take (length - 4) := by
  obtain ⟨more, rfl⟩ := Nat.exists_eq_add_of_le atLeast
  rw [icmpMessage, List.drop_eq_getElem_cons (by omega),
    List.drop_eq_getElem_cons (by omega),
    List.drop_eq_getElem_cons (by omega),
    List.drop_eq_getElem_cons (by omega), Nat.add_comm 4 more,
    List.take_succ_cons, List.take_succ_cons, List.take_succ_cons,
    List.take_succ_cons, Nat.add_sub_cancel]

/-! ## The first word of the reply -/

section ReplyWord

variable (first : NetAXISWord)

/-- The checksum of the request and of the reply. -/
def requestChecksum : BitVec 16 :=
  first.byte 22 ++ first.byte 23

/-- The difference of the types added, with its carry. -/
def replyChecksum : BitVec 16 :=
  endAroundAdd (requestChecksum first) 0x0800

theorem echoReplyWord_type : (echoReplyWord first).byte 20 = 0 := by
  simp (disch := decide) only [NetAXISWord.byte, echoReplyWord,
    IcmpState.firstWord, IcmpState.registered, Nat.reduceMul,
    BitVec.extractLsb'_append_eq_of_le,
    BitVec.extractLsb'_append_eq_of_add_le, Nat.reduceSub,
    BitVec.extractLsb'_eq_self]
  rfl

theorem echoReplyWord_code :
    (echoReplyWord first).byte 21 = first.byte 21 := by
  simp (disch := decide) only [NetAXISWord.byte, echoReplyWord,
    IcmpState.firstWord, IcmpState.registered, Nat.reduceMul,
    BitVec.extractLsb'_append_eq_of_le,
    BitVec.extractLsb'_append_eq_of_add_le, Nat.reduceSub,
    BitVec.extractLsb'_eq_self]

theorem echoReplyWord_checksum :
    (echoReplyWord first).byte 22 ++ (echoReplyWord first).byte 23 =
      replyChecksum first := by
  simp (disch := decide) only [NetAXISWord.byte, echoReplyWord,
    IcmpState.firstWord, IcmpState.registered, Nat.reduceMul,
    BitVec.extractLsb'_append_eq_of_le,
    BitVec.extractLsb'_append_eq_of_add_le, Nat.reduceSub,
    BitVec.extractLsb'_eq_self,
    BitVec.extractLsb'_append_extractLsb'_eq_extractLsb',
    replyChecksum, requestChecksum]
  generalize
    (first.data.extractLsb' 176 8 ++
      first.data.extractLsb' 184 8 : BitVec 16) = checksum
  have bound := checksum.isLt
  have typeWord : (2048 : BitVec 17).toNat = 2048 := rfl
  have typeWord' : (2048 : BitVec 16).toNat = 2048 := rfl
  apply BitVec.eq_of_toNat_eq
  rw [endAroundAdd_toNat, endAround]
  simp only [BitVec.extractLsb'_toNat, BitVec.toNat_add,
    BitVec.toNat_setWidth, Nat.shiftRight_eq_div_pow, Nat.reducePow,
    Nat.reduceAdd, Nat.div_one, typeWord, typeWord']
  rw [Nat.mod_eq_of_lt (by omega : checksum.toNat < 131072),
    Nat.mod_eq_of_lt (by omega : checksum.toNat + 2048 < 131072)]
  rcases Nat.lt_or_ge (checksum.toNat + 2048) 65536 with
    small | carries <;>
    omega

theorem echoReplyWord_rest
    {lane : Nat} (behind : 24 ≤ lane) (inside : lane < 64) :
    (echoReplyWord first).byte lane = first.byte lane := by
  simp (disch := omega) only [NetAXISWord.byte, echoReplyWord,
    IcmpState.firstWord, IcmpState.registered,
    BitVec.extractLsb'_append_eq_of_le]
  apply BitVec.eq_of_getLsbD_eq
  intro bit inByte
  have inRest :
      8 * lane - 64 - 8 - 8 - 16 - 32 - 32 - 8 - 8 - 8 - 8 + bit <
        320 := by
    omega
  rw [BitVec.getLsbD_extractLsb', BitVec.getLsbD_extractLsb',
    BitVec.getLsbD_extractLsb', decide_eq_true inRest, Bool.true_and]
  congr 2
  omega

end ReplyWord

/-! ## The message -/

/-- The sum of a message from its first two words and the others. -/
theorem foldl_message
    (typeUpper typeLower sumUpper sumLower : BitVec 8)
    (rest : List (BitVec 8)) :
    ((bigEndianWords
        (typeUpper :: typeLower :: sumUpper :: sumLower :: rest)).foldl
          endAroundAdd 0).toNat =
      canonical 65535
        ((typeUpper ++ typeLower).toNat + (sumUpper ++ sumLower).toNat +
          wordTotal (bigEndianWords rest)) := by
  have sum :=
    @foldl_endAroundAdd
      (bigEndianWords
        (typeUpper :: typeLower :: sumUpper :: sumLower :: rest)) 0 0 rfl
  rw [sum, bigEndianWords, bigEndianWords, wordTotal, List.map_cons,
    List.map_cons, List.sum_cons, List.sum_cons, Nat.zero_add,
    Nat.add_assoc, wordTotal]

/-- What the type loses the checksum gains. -/
theorem canonical_reply (checksum : BitVec 16) (rest : Nat) :
    canonical 65535 (0 + (endAroundAdd checksum 0x0800).toNat + rest) =
      canonical 65535 (0x0800 + checksum.toNat + rest) := by
  have bound := checksum.isLt
  have typeWord : (0x0800 : BitVec 16).toNat = 0x0800 := rfl
  have added :
      endAround 16 checksum.toNat 0x0800 =
        canonical 65535 (checksum.toNat + 0x0800) := by
    have canonicalAdded :=
      @endAround_canonical 16 (by decide) checksum.toNat 0x0800
    rw [canonical_of_le (by omega), canonical_of_le (by omega)]
      at canonicalAdded
    exact canonicalAdded
  rw [endAroundAdd_toNat, typeWord, added, Nat.zero_add, canonical_add,
    Nat.add_comm checksum.toNat]

/-- The bytes that the first word of the reply holds instead of those of the
request. -/
theorem holds_echoReplyWord
    {first : NetAXISWord} {chunk : List (BitVec 8)}
    (holds : first.Holds chunk) :
    (echoReplyWord first).Holds
      ((echoReplyWord first).firstBytes chunk.length) :=
  NetAXISWord.holds_firstBytes holds.fits holds.keep

theorem drop_firstBytes_echoReplyWord
    {first : NetAXISWord} {chunk : List (BitVec 8)}
    (holds : first.Holds chunk) :
    ((echoReplyWord first).firstBytes chunk.length).drop 24 =
      chunk.drop 24 := by
  have fits := holds.fits
  refine List.ext_getElem ?_ fun lane inReply inRequest => ?_
  · rw [List.length_drop, List.length_drop,
      NetAXISWord.length_firstBytes]
  · rw [List.length_drop] at inRequest
    rw [List.getElem_drop, List.getElem_drop,
      NetAXISWord.getElem_firstBytes,
      echoReplyWord_rest first (by omega) (by omega)]
    exact holds.data (24 + lane) (by omega)

/-- The message of the request, with another type and checksum. -/
theorem icmpMessage_reply
    {myIpaddr : BitVec 32} {first : NetAXISWord}
    {chunk later : List (BitVec 8)} {length : Nat}
    (isRequest : IsEchoRequest myIpaddr first)
    (holds : first.Holds chunk) (inside : 24 ≤ chunk.length)
    (atLeast : 4 ≤ length) :
    icmpMessage
        ((echoReplyWord first).firstBytes chunk.length ++ later) length =
      0 :: 0 :: (echoReplyWord first).byte 22 ::
        (echoReplyWord first).byte 23 ::
          (icmpMessage (chunk ++ later) length).drop 4 := by
  have replyInside :
      24 ≤ ((echoReplyWord first).firstBytes chunk.length).length := by
    rw [NetAXISWord.length_firstBytes]
    exact inside
  have codeIs : first.byte 21 = 0 := isRequest.2.2.1
  rw [icmpMessage_eq atLeast (by rw [List.length_append]; omega),
    icmpMessage_eq atLeast (by rw [List.length_append]; omega),
    List.drop_append_of_le_length replyInside,
    List.drop_append_of_le_length inside,
    drop_firstBytes_echoReplyWord holds]
  rw [List.getElem_append_left (Nat.lt_of_lt_of_le (by decide) replyInside),
    List.getElem_append_left (Nat.lt_of_lt_of_le (by decide) replyInside),
    List.getElem_append_left (Nat.lt_of_lt_of_le (by decide) replyInside),
    List.getElem_append_left (Nat.lt_of_lt_of_le (by decide) replyInside),
    NetAXISWord.getElem_firstBytes, NetAXISWord.getElem_firstBytes,
    NetAXISWord.getElem_firstBytes, NetAXISWord.getElem_firstBytes,
    echoReplyWord_type, echoReplyWord_code, codeIs]
  rfl

/-- The message of the request begins with its type, code and checksum. -/
theorem icmpMessage_request
    {myIpaddr : BitVec 32} {first : NetAXISWord}
    {chunk later : List (BitVec 8)} {length : Nat}
    (isRequest : IsEchoRequest myIpaddr first)
    (holds : first.Holds chunk) (inside : 24 ≤ chunk.length)
    (atLeast : 4 ≤ length) :
    icmpMessage (chunk ++ later) length =
      0x08 :: 0 :: first.byte 22 :: first.byte 23 ::
        (icmpMessage (chunk ++ later) length).drop 4 := by
  obtain ⟨_, isType, isCode, _⟩ := isRequest
  have requestLane (lane : Nat) (inLane : lane < 24) :
      chunk[lane] = first.byte lane :=
    (holds.data lane (by omega)).symm
  have typeIs : first.byte 20 = 0x08 := isType
  have codeIs : first.byte 21 = 0 := isCode
  rw [icmpMessage_eq atLeast (by rw [List.length_append]; omega),
    List.getElem_append_left (by omega : 20 < chunk.length),
    List.getElem_append_left (by omega : 21 < chunk.length),
    List.getElem_append_left (by omega : 22 < chunk.length),
    List.getElem_append_left (by omega : 23 < chunk.length),
    requestLane 20 (by decide), requestLane 21 (by decide),
    requestLane 22 (by decide), requestLane 23 (by decide), typeIs,
    codeIs]
  rfl

/-- The sum over the message is that of the request. -/
theorem icmpSum_reply
    {myIpaddr : BitVec 32} {first : NetAXISWord}
    {chunk later : List (BitVec 8)} {length : Nat}
    (isRequest : IsEchoRequest myIpaddr first)
    (holds : first.Holds chunk) (inside : 24 ≤ chunk.length)
    (atLeast : 4 ≤ length) :
    icmpSum
        ((echoReplyWord first).firstBytes chunk.length ++ later) length =
      icmpSum (chunk ++ later) length := by
  apply BitVec.eq_of_toNat_eq
  rw [icmpSum, icmpSum, icmpMessage_reply isRequest holds inside atLeast,
    icmpMessage_request isRequest holds inside atLeast]
  rw [foldl_message, foldl_message, echoReplyWord_checksum]
  exact canonical_reply (requestChecksum first) _

/-- The reply to an echo request with a valid checksum is the request with
type 0 and the checksum updated, and has a valid checksum again, whatever the
message and however many words it takes. -/
theorem echoReply_valid
    {myIpaddr : BitVec 32} {bytes : List (BitVec 8)} {packet : WordFrame}
    {length : Nat}
    (frame : IsAxiFrame bytes packet.words)
    (isRequest : IsEchoRequest myIpaddr packet.first)
    (atLeast : 4 ≤ length) (inside : 20 + length ≤ bytes.length)
    (valid : icmpSum bytes length = 0xFFFF)
    (registers : IcmpState) (unassigned : Nat → NetAXISWord)
    (later : List NetAXISWord) :
    ∃ replyBytes upper lower final,
      Runs (icmpServerCall myIpaddr)
        ({ registers with
            fsmState := .readPacket
            dataIn := packet.words ++ later },
          unassigned)
        (echoReplyWord packet.first :: packet.rest) final ∧
      final.1.fsmState = .readPacket ∧
      final.1.dataIn = later ∧
      IsAxiFrame replyBytes (echoReplyWord packet.first :: packet.rest) ∧
      replyBytes.length = bytes.length ∧
      icmpMessage replyBytes length =
        0 :: 0 :: upper :: lower :: (icmpMessage bytes length).drop 4 ∧
      upper ++ lower =
        endAroundAdd (requestChecksum packet.first) 0x0800 ∧
      icmpSum replyBytes length = 0xFFFF := by
  obtain ⟨chunk, rest, parts, holds, full, replace⟩ := frame.replace_head
  have inChunk : 24 ≤ chunk.length := by
    rcases full with none | full
    · rw [parts, none, List.append_nil] at inside
      omega
    · omega
  have sameLength :
      ((echoReplyWord packet.first).firstBytes chunk.length).length =
        chunk.length :=
    NetAXISWord.length_firstBytes _ _
  refine
    ⟨_, _, _, _, runs_answered packet isRequest rfl rfl, rfl, rfl,
      replace _ _ (holds_echoReplyWord holds) sameLength rfl, ?_, ?_,
      echoReplyWord_checksum packet.first, ?_⟩
  · rw [parts, List.length_append, List.length_append, sameLength]
  · rw [parts]
    exact icmpMessage_reply isRequest holds inChunk atLeast
  · rw [icmpSum_reply isRequest holds inChunk atLeast, ← parts]
    exact valid

/-- An echo request with 37 bytes of data, the last one in a word of its
own. -/
def oddPing : WordFrame where
  first :=
    { data :=
        (0 : BitVec 160) ++ (0 : BitVec 160) ++ (0xFF960008 : BitVec 32) ++
          (0 : BitVec 64) ++ (0xBD7A : BitVec 16) ++ (0x0140 : BitVec 16) ++
          (0 : BitVec 32) ++ (0x41000045 : BitVec 32)
      dest := 0
      keep := BitVec.allOnes 64
      last := false }
  rest := [⟨0x61, 0, 1, true⟩]
  delimited := Delimited.more rfl (Delimited.final rfl)

def oddPingBytes : List (BitVec 8) :=
  oddPing.first.firstBytes 64 ++ [0x61]

theorem oddPing_isFrame : IsAxiFrame oddPingBytes oddPing.words := by
  refine
    IsFrame.more
      (NetAXISWord.holds_firstBytes (by decide) fun _ _ =>
        BitVec.getLsbD_allOnes)
      (NetAXISWord.length_firstBytes _ _) rfl
      (IsFrame.final ⟨by decide, ?_, ?_⟩ (List.cons_ne_nil _ _) (by decide)
        rfl)
  · change
      ∀ lane, lane < 64 →
        (1 : BitVec 64).getLsbD lane = decide (lane < 1)
    decide
  · have isLast :
        (⟨0x61, 0, 1, true⟩ : NetAXISWord).byte 0 = 0x61 := by
      decide +kernel
    intro lane inBytes
    obtain rfl : lane = 0 := Nat.lt_one_iff.1 inBytes
    exact isLast

/-- The reply to it, over two words. -/
theorem echoReply_valid_oddPing :
    ∃ replyBytes upper lower final,
      Runs (icmpServerCall 0)
        ({ IcmpState.registered NetAXISWord.empty [] with
            fsmState := .readPacket
            dataIn := oddPing.words ++ [] },
          fun _ => NetAXISWord.empty)
        (echoReplyWord oddPing.first :: oddPing.rest) final ∧
      final.1.fsmState = .readPacket ∧
      final.1.dataIn = [] ∧
      IsAxiFrame replyBytes
        (echoReplyWord oddPing.first :: oddPing.rest) ∧
      replyBytes.length = oddPingBytes.length ∧
      icmpMessage replyBytes 45 =
        0 :: 0 :: upper :: lower ::
          (icmpMessage oddPingBytes 45).drop 4 ∧
      upper ++ lower =
        endAroundAdd (requestChecksum oddPing.first) 0x0800 ∧
      icmpSum replyBytes 45 = 0xFFFF :=
  echoReply_valid oddPing_isFrame (by decide +kernel) (by decide)
    (by decide) (by decide +kernel) _ _ _

end TcpOffload
