import TcpOffload.EthernetHeaderInserter

/-!
# The frames of the Ethernet header inserter

`EthernetHandleOutput` realigns the words of a packet behind the 14 bytes of
its Ethernet header, or reads all of them without writing.
-/

namespace TcpOffload

open Clocked Framing

/-! ## The words written -/

/-- The bytes of an address, the lowest one first. -/
def macBytes (macAddr : MacAddr) : List (BitVec 8) :=
  (List.range 6).map fun lane => macAddr.extractLsb' (8 * lane) 8

/-- Destination, source and the type of IPv4. -/
def macHeaderBytes (myMacAddr macAddr : MacAddr) : List (BitVec 8) :=
  macBytes macAddr ++ macBytes myMacAddr ++ [0x08, 0x00]

theorem length_macHeaderBytes (myMacAddr macAddr : MacAddr) :
    (macHeaderBytes myMacAddr macAddr).length = 14 :=
  rfl

theorem getElem_macBytes
    (macAddr : MacAddr) {lane : Nat}
    (inside : lane < (macBytes macAddr).length) :
    (macBytes macAddr)[lane] = macAddr.extractLsb' (8 * lane) 8 := by
  simp only [macBytes, List.getElem_map, List.getElem_range]

theorem macHeader_lane
    (myMacAddr macAddr : MacAddr) {lane : Nat} (inside : lane < 14) :
    (macHeader myMacAddr macAddr).data.extractLsb' (8 * lane) 8 =
      if lane < 6 then
        macAddr.extractLsb' (8 * lane) 8
      else if lane < 12 then
        myMacAddr.extractLsb' (8 * (lane - 6)) 8
      else
        (0x0008 : BitVec 16).extractLsb' (8 * (lane - 12)) 8 := by
  rw [macHeader]
  split
  · rename_i first
    rw [BitVec.extractLsb'_append_eq_of_add_le (by omega)]
  · split
    · rename_i notFirst second
      rw [BitVec.extractLsb'_append_eq_of_le (by omega),
        BitVec.extractLsb'_append_eq_of_add_le (by omega)]
      congr 1
      omega
    · rename_i notFirst notSecond
      rw [BitVec.extractLsb'_append_eq_of_le (by omega),
        BitVec.extractLsb'_append_eq_of_le (by omega)]
      congr 1
      omega

/-- A word with the header in its first lanes. -/
def macHeaderWord (header : NetAXISMacHeader) : NetAXISWord where
  data := header.data.setWidth 512
  dest := 0
  keep := header.keep.setWidth 64
  last := false

theorem holds_macHeaderWord (myMacAddr macAddr : MacAddr) :
    (macHeaderWord (macHeader myMacAddr macAddr)).Holds
      (macHeaderBytes myMacAddr macAddr) where
  fits := by
    rw [length_macHeaderBytes]
    decide
  keep := by
    rw [length_macHeaderBytes]
    simp only [macHeaderWord, macHeader]
    decide
  data := by
    intro lane inBytes
    have inside := inBytes
    rw [length_macHeaderBytes] at inside
    have shown :
        (macHeaderWord (macHeader myMacAddr macAddr)).byte lane =
          (macHeader myMacAddr macAddr).data.extractLsb' (8 * lane) 8 := by
      rw [NetAXISWord.byte, macHeaderWord,
        BitVec.extractLsb'_setWidth_of_le (by omega)]
    rw [shown, macHeader_lane _ _ inside]
    have one : (macBytes macAddr).length = 6 := rfl
    have both : (macBytes macAddr ++ macBytes myMacAddr).length = 12 := rfl
    simp only [macHeaderBytes]
    by_cases first : lane < 6
    · rw [if_pos first, List.getElem_append_left (by omega),
        List.getElem_append_left (by omega), getElem_macBytes]
    · rw [if_neg first]
      by_cases second : lane < 12
      · rw [if_pos second, List.getElem_append_left (by omega),
          List.getElem_append_right (by omega), getElem_macBytes, one]
      · rw [if_neg second, List.getElem_append_right (by omega)]
        obtain rfl | rfl : lane = 12 ∨ lane = 13 := by
          omega
        · rfl
        · rfl

/-- The header leaves a tail as if a word had ended with it. -/
theorem leftOver_macHeaderWord (myMacAddr macAddr : MacAddr) :
    leftOver (tailWord 50 (macHeaderWord (macHeader myMacAddr macAddr))) =
      macHeader myMacAddr macAddr := by
  have data :
      ((macHeader myMacAddr macAddr).data.setWidth 512 <<<
          (8 * (50 : BitVec 6).toNat)).extractLsb' 400 112 =
        (macHeader myMacAddr macAddr).data := by
    apply BitVec.eq_of_getLsbD_eq
    intro bit inside
    have offset : 8 * (50 : BitVec 6).toNat = 400 := rfl
    have inWord : 400 + bit < 512 := by
      omega
    rw [offset, BitVec.getLsbD_extractLsb', BitVec.getLsbD_shiftLeft,
      BitVec.getLsbD_setWidth, decide_eq_true inside,
      decide_eq_true inWord, Nat.add_sub_cancel_left,
      decide_eq_true (by omega : bit < 512)]
    simp
  have keep :
      (BitVec.allOnes 64).extractLsb' 50 14 = (0x3FFF : BitVec 14) := by
    decide
  exact congrArg₂ NetAXISMacHeader.mk data keep

/-- Behind another word of the packet, the words are joined as in every
realignment. -/
theorem composeWord_leftOver (prevWord current : NetAXISWord) :
    composeWord (leftOver prevWord) current =
      joinWords noDest current prevWord 50 := by
  have data :
      (current.data.extractLsb' 0 400 ++
          prevWord.data.extractLsb' 400 112 : BitVec 512) =
        (joinWords noDest current prevWord 50).data := by
    apply BitVec.eq_of_getLsbD_eq
    intro bit inside
    have inHead : bit - 112 < 400 := by
      omega
    rw [joinWords_data inside, BitVec.getLsbD_append,
      BitVec.getLsbD_extractLsb', BitVec.getLsbD_extractLsb',
      decide_eq_true inHead]
    by_cases low : bit < 112 <;> simp [low]
  have keep :
      (current.keep.extractLsb' 0 50 ++
          prevWord.keep.extractLsb' 50 14 : BitVec 64) =
        (joinWords noDest current prevWord 50).keep := by
    apply BitVec.eq_of_getLsbD_eq
    intro bit inside
    have inHead : bit - 14 < 50 := by
      omega
    rw [joinWords_keep inside, BitVec.getLsbD_append,
      BitVec.getLsbD_extractLsb', BitVec.getLsbD_extractLsb',
      decide_eq_true inHead]
    by_cases low : bit < 14 <;> simp [low]
  rw [composeWord, leftOver, data, keep]
  rfl

/-! ## The checksum -/

theorem insertIpChecksum_byte
    (word : NetAXISWord) {lane : Nat} (laneBound : lane < 64) :
    (insertIpChecksum word).byte lane =
      if lane = 11 then
        (ipChecksum word).extractLsb' 0 8
      else if lane = 10 then
        (ipChecksum word).extractLsb' 8 8
      else
        word.byte lane := by
  rw [NetAXISWord.byte, insertIpChecksum, NetAXISWord.byte]
  by_cases below : lane < 10
  · rw [if_neg (by omega), if_neg (by omega),
      BitVec.extractLsb'_append_eq_of_add_le (by omega),
      BitVec.extractLsb'_extractLsb'_of_le (by omega)]
  · rw [BitVec.extractLsb'_append_eq_of_le (by omega)]
    by_cases upper : lane = 10
    · subst upper
      rw [if_neg (by decide), if_pos rfl,
        BitVec.extractLsb'_append_eq_of_add_le (by decide)]
      exact BitVec.extractLsb'_eq_self
    · rw [BitVec.extractLsb'_append_eq_of_le (by omega)]
      by_cases lower : lane = 11
      · subst lower
        rw [if_pos rfl, BitVec.extractLsb'_append_eq_of_add_le (by decide)]
        exact BitVec.extractLsb'_eq_self
      · rw [if_neg lower, if_neg upper,
          BitVec.extractLsb'_append_eq_of_le (by omega)]
        apply BitVec.eq_of_getLsbD_eq
        intro bit inByte
        have inside : 8 * lane - 80 - 8 - 8 + bit < 416 := by
          omega
        rw [BitVec.getLsbD_extractLsb', BitVec.getLsbD_extractLsb',
          BitVec.getLsbD_extractLsb', decide_eq_true inside,
          Bool.true_and]
        congr 2
        omega

/-- Of the bytes, only those of the checksum are replaced. -/
theorem holds_insertIpChecksum
    {word : NetAXISWord} {bytes : List (BitVec 8)}
    (holds : word.Holds bytes) :
    (insertIpChecksum word).Holds
      (setField bytes 5 (ipChecksum word)) where
  fits := by
    rw [length_setField]
    exact holds.fits
  keep := by
    rw [length_setField]
    exact holds.keep
  data := by
    intro lane inBytes
    rw [length_setField] at inBytes
    have fits := holds.fits
    have inWhole :
        lane < (setField bytes 5 (ipChecksum word)).length := by
      rwa [length_setField]
    have right :
        (setField bytes 5 (ipChecksum word))[lane] =
          if 11 = lane then
            (ipChecksum word).extractLsb' 0 8
          else if 10 = lane then
            (ipChecksum word).extractLsb' 8 8
          else
            bytes[lane] := by
      simp only [setField, List.getElem_set]
    rw [insertIpChecksum_byte word (by omega), right,
      holds.data lane inBytes]
    simp only [eq_comm]

/-! ## Packets -/

/-- A packet, its words and the answer to its request. -/
structure SentPacket where
  bytes : List (BitVec 8)
  first : NetAXISWord
  rest : List NetAXISWord
  reply : ArpTableRsp
  frame : IsAxiFrame bytes (first :: rest)
  atLeastHeader : 20 ≤ bytes.length

namespace SentPacket

/-- The words of the packet on the way in. -/
def words (packet : SentPacket) : List NetAXISWord :=
  packet.first :: packet.rest

/-- The packet with its checksum. -/
def checked (packet : SentPacket) : List (BitVec 8) :=
  setField packet.bytes 5 (ipChecksum packet.first)

/-- The frame on the wire. -/
def etherBytes
    (myMacAddr : MacAddr) (packet : SentPacket) : List (BitVec 8) :=
  macHeaderBytes myMacAddr packet.reply.macAddr ++ packet.checked

def broadcastMsgs
    (subnetMask gatewayIpAddr : IpAddr) (packet : SentPacket) :
    List BroadcastMacMsg :=
  .arpTableReq
      (arpRequestFor subnetMask gatewayIpAddr
        (packet.first.data.extractLsb' 128 32)) ::
    .ipHeaderOut packet.first ::
    packet.rest.map BroadcastMacMsg.noIpHeaderOut

/-- The words on the way out. -/
def etherWords
    (myMacAddr : MacAddr) (packet : SentPacket) : List NetAXISWord :=
  if packet.reply.hit then
    realign noDest 50
      (tailWord 50
        (macHeaderWord (macHeader myMacAddr packet.reply.macAddr)))
      (insertIpChecksum packet.first :: packet.rest)
  else
    []

theorem delimited (packet : SentPacket) :
    Delimited NetAXISWord.last
      (insertIpChecksum packet.first :: packet.rest) := by
  obtain ⟨bytes, first, rest, reply, frame, atLeastHeader⟩ := packet
  cases frame.delimited with
  | final raised =>
      exact Delimited.final raised
  | more notRaised rest =>
      exact Delimited.more notRaised rest

theorem checked_isFrame (packet : SentPacket) :
    IsAxiFrame packet.checked
      (insertIpChecksum packet.first :: packet.rest) := by
  have atLeast := packet.atLeastHeader
  obtain ⟨chunk, later, parts, holds, full, replace⟩ :=
    packet.frame.replace_head
  have inside : 12 ≤ chunk.length := by
    rcases full with none | full
    · rw [parts, none, List.append_nil] at atLeast
      omega
    · omega
  have checkedParts :
      packet.checked =
        setField chunk 5 (ipChecksum packet.first) ++ later := by
    rw [checked, parts, setField, setField,
      List.set_append_left _ _ (by omega),
      List.set_append_left _ _ (by rw [List.length_set]; omega)]
  rw [checkedParts]
  exact
    replace _ _ (holds_insertIpChecksum holds) (length_setField _ _ _) rfl

/-- A packet with an answer leaves as one frame. -/
theorem etherWords_isFrame
    (packet : SentPacket) (myMacAddr : MacAddr)
    (hit : packet.reply.hit = true) :
    IsAxiFrame (packet.etherBytes myMacAddr)
      (packet.etherWords myMacAddr) := by
  rw [etherWords, if_pos hit]
  exact
    realign_tailWord_isFrame (by decide)
      (holds_macHeaderWord myMacAddr packet.reply.macAddr) rfl
      packet.checked_isFrame

end SentPacket

/-! ## Runs -/

theorem runs_broadcast_remaining
    {subnetMask gatewayIpAddr : IpAddr} {words : List NetAXISWord}
    (frame : Delimited NetAXISWord.last words)
    (later : List NetAXISWord) :
    Runs (broadcastMacRequest subnetMask gatewayIpAddr)
      ⟨.remaining, words ++ later⟩
      (words.map BroadcastMacMsg.noIpHeaderOut) ⟨.firstWord, later⟩ := by
  induction frame with
  | @final word raised =>
      refine Runs.single ?_
      simp only [broadcastMacRequest, List.cons_append, List.nil_append,
        raised, if_true, List.map_cons, List.map_nil]
  | @more word words notRaised _ inductionHypothesis =>
      have called :
          broadcastMacRequest subnetMask gatewayIpAddr
              ⟨.remaining, (word :: words) ++ later⟩ =
            (⟨.remaining, words ++ later⟩, [.noIpHeaderOut word]) := by
        simp only [broadcastMacRequest, List.cons_append, notRaised,
          Bool.false_eq_true, if_false]
      exact Runs.head called inductionHypothesis

theorem yields_broadcast
    (subnetMask gatewayIpAddr : IpAddr) (packets : List SentPacket) :
    Yields (broadcastMacRequest subnetMask gatewayIpAddr)
      ⟨.firstWord, packets.flatMap SentPacket.words⟩
      (packets.flatMap
        (SentPacket.broadcastMsgs subnetMask gatewayIpAddr))
      ⟨.firstWord, []⟩ := by
  induction packets with
  | nil =>
      exact ⟨Runs.refl _, rfl⟩
  | cons packet packets inductionHypothesis =>
      refine Yields.prepend ?_ inductionHypothesis
      obtain ⟨bytes, first, rest, reply, frame, atLeastHeader⟩ := packet
      simp only [SentPacket.words, SentPacket.broadcastMsgs,
        List.flatMap_cons]
      cases frame.delimited with
      | final raised =>
          refine Runs.single ?_
          simp only [broadcastMacRequest, List.cons_append,
            List.nil_append, raised, if_true, List.map_nil]
      | more notRaised restFrame =>
          have called :
              broadcastMacRequest subnetMask gatewayIpAddr
                  ⟨.firstWord,
                    first :: rest ++ packets.flatMap SentPacket.words⟩ =
                (⟨.remaining,
                    rest ++ packets.flatMap SentPacket.words⟩,
                  [.arpTableReq
                      (arpRequestFor subnetMask gatewayIpAddr
                        (first.data.extractLsb' 128 32)),
                    .ipHeaderOut first]) := by
            simp only [broadcastMacRequest, List.cons_append, notRaised,
              Bool.false_eq_true, if_false]
          exact Runs.head called (runs_broadcast_remaining restFrame _)

theorem yields_computeIpv4Checksum (words : List NetAXISWord) :
    Yields computeAndInsertIpv4Checksum words (words.map insertIpChecksum)
      [] := by
  induction words with
  | nil =>
      exact ⟨Runs.refl _, rfl⟩
  | cons word words inductionHypothesis =>
      have called :
          computeAndInsertIpv4Checksum (word :: words) =
            (words, [insertIpChecksum word]) :=
        rfl
      exact Yields.prepend (Runs.single called) inductionHypothesis

theorem headers_broadcast
    (subnetMask gatewayIpAddr : IpAddr) (packets : List SentPacket) :
    (packets.flatMap
        (SentPacket.broadcastMsgs subnetMask gatewayIpAddr)).filterMap
        BroadcastMacMsg.toHeader =
      packets.map SentPacket.first := by
  induction packets with
  | nil =>
      rfl
  | cons packet packets inductionHypothesis =>
      have noHeader :
          (packet.rest.map BroadcastMacMsg.noIpHeaderOut).filterMap
              BroadcastMacMsg.toHeader =
            [] := by
        simp [BroadcastMacMsg.toHeader]
      rw [List.flatMap_cons, List.filterMap_append, inductionHypothesis,
        SentPacket.broadcastMsgs]
      simp only [List.filterMap_cons, BroadcastMacMsg.toHeader]
      rw [noHeader]
      rfl

theorem rests_broadcast
    (subnetMask gatewayIpAddr : IpAddr) (packets : List SentPacket) :
    (packets.flatMap
        (SentPacket.broadcastMsgs subnetMask gatewayIpAddr)).filterMap
        BroadcastMacMsg.toRest =
      packets.flatMap SentPacket.rest := by
  induction packets with
  | nil =>
      rfl
  | cons packet packets inductionHypothesis =>
      have allRest :
          (packet.rest.map BroadcastMacMsg.noIpHeaderOut).filterMap
              BroadcastMacMsg.toRest =
            packet.rest := by
        simp [List.filterMap_map, BroadcastMacMsg.toRest,
          Function.comp_def]
      rw [List.flatMap_cons, List.filterMap_append, inductionHypothesis,
        SentPacket.broadcastMsgs]
      simp only [List.filterMap_cons, BroadcastMacMsg.toRest]
      rw [allRest, List.flatMap_cons]

section Output

variable {myMacAddr : MacAddr}
variable {replies : List ArpTableRsp} {headers others : List NetAXISWord}

/-- Behind the final word of a packet there may be one more transaction. -/
theorem runs_final
    {current : NetAXISWord} (raised : current.last = true)
    (prevWord : NetAXISWord) :
    ∃ left,
      Runs (ethernetHandleOutput myMacAddr)
        ⟨(afterTransaction current).1, leftOver current, replies, headers,
          others⟩
        left ⟨.waitLookup, leftOver current, replies, headers, others⟩ ∧
      realign noDest 50 prevWord [current] =
        (joinWords noDest current prevWord 50).withLast
            (afterTransaction current).2 ::
          left := by
  cases long : current.keep.getLsbD 50 with
  | false =>
      have ends : afterTransaction current = (.waitLookup, true) := by
        rw [afterTransaction, raised, long]
        rfl
      rw [ends]
      exact ⟨[], Runs.refl _, realign_of_ended raised long⟩
  | true =>
      have extra :
          afterTransaction current = (.writeExtraLastWord, false) := by
        rw [afterTransaction, raised, long]
        rfl
      rw [extra]
      refine ⟨_, Runs.single rfl, ?_⟩
      rw [realign_of_extra long, composeWord_leftOver]
      rfl

theorem runs_writeRemaining
    {words : List NetAXISWord}
    (frame : Delimited NetAXISWord.last words) (prevWord : NetAXISWord) :
    ∃ held,
      Runs (ethernetHandleOutput myMacAddr)
        ⟨.writeRemaining, leftOver prevWord, replies, headers,
          words ++ others⟩
        (realign noDest 50 prevWord words)
        ⟨.waitLookup, held, replies, headers, others⟩ := by
  induction frame generalizing prevWord with
  | @final current raised =>
      obtain ⟨left, run, written⟩ :=
        @runs_final myMacAddr replies headers others current raised
          prevWord
      have called :
          ethernetHandleOutput myMacAddr
              ⟨.writeRemaining, leftOver prevWord, replies, headers,
                [current] ++ others⟩ =
            (⟨(afterTransaction current).1, leftOver current, replies,
                headers, others⟩,
              [(composeWord (leftOver prevWord) current).withLast
                (afterTransaction current).2]) :=
        rfl
      rw [written, ← composeWord_leftOver]
      exact ⟨leftOver current, Runs.head called run⟩
  | @more current words notRaised _ inductionHypothesis =>
      obtain ⟨held, run⟩ := inductionHypothesis current
      have goesOn : afterTransaction current = (.writeRemaining, false) := by
        rw [afterTransaction, notRaised]
        rfl
      have called :
          ethernetHandleOutput myMacAddr
              ⟨.writeRemaining, leftOver prevWord, replies, headers,
                (current :: words) ++ others⟩ =
            (⟨.writeRemaining, leftOver current, replies, headers,
                words ++ others⟩,
              [(joinWords noDest current prevWord 50).withLast false]) := by
        simp only [ethernetHandleOutput, List.cons_append, goesOn,
          composeWord_leftOver]
      rw [realign_of_more notRaised]
      exact ⟨held, Runs.head called run⟩

theorem runs_dropNoIp
    {words : List NetAXISWord}
    (frame : Delimited NetAXISWord.last words) (held : NetAXISMacHeader) :
    Runs (ethernetHandleOutput myMacAddr)
      ⟨.dropNoIp, held, replies, headers, words ++ others⟩ []
      ⟨.waitLookup, held, replies, headers, others⟩ := by
  induction frame with
  | @final current raised =>
      refine Runs.single ?_
      simp only [ethernetHandleOutput, List.cons_append, List.nil_append,
        raised, if_true]
  | @more current words notRaised _ inductionHypothesis =>
      refine Runs.silent ?_ inductionHypothesis
      simp only [ethernetHandleOutput, List.cons_append, notRaised,
        Bool.false_eq_true, if_false]

/-- A packet is written with its header, or not at all. -/
theorem runs_etherWords
    (packet : SentPacket) (held : NetAXISMacHeader) :
    ∃ heldAfter,
      Runs (ethernetHandleOutput myMacAddr)
        ⟨.waitLookup, held, packet.reply :: replies,
          insertIpChecksum packet.first :: headers,
          packet.rest ++ others⟩
        (packet.etherWords myMacAddr)
        ⟨.waitLookup, heldAfter, replies, headers, others⟩ := by
  have delimited := packet.delimited
  rw [SentPacket.etherWords]
  generalize insertIpChecksum packet.first = first,
    packet.rest = rest at delimited ⊢
  cases hit : packet.reply.hit with
  | true =>
      have called :
          ethernetHandleOutput myMacAddr
              ⟨.waitLookup, held, packet.reply :: replies,
                first :: headers, rest ++ others⟩ =
            (⟨.writeFirstTransaction,
                macHeader myMacAddr packet.reply.macAddr, replies,
                first :: headers, rest ++ others⟩, []) := by
        simp only [ethernetHandleOutput, hit, if_true]
      rw [if_pos rfl]
      have header :=
        leftOver_macHeaderWord myMacAddr packet.reply.macAddr
      generalize tailWord 50
        (macHeaderWord (macHeader myMacAddr packet.reply.macAddr)) =
          headerWord at header ⊢
      rw [← header] at called
      cases delimited with
      | final raised =>
          obtain ⟨left, run, written⟩ :=
            @runs_final myMacAddr replies headers others first raised
              headerWord
          have firstCalled :
              ethernetHandleOutput myMacAddr
                  ⟨.writeFirstTransaction, leftOver headerWord, replies,
                    first :: headers, [] ++ others⟩ =
                (⟨(afterTransaction first).1, leftOver first, replies,
                    headers, others⟩,
                  [(composeWord (leftOver headerWord) first).withLast
                    (afterTransaction first).2]) :=
            rfl
          rw [written, ← composeWord_leftOver]
          exact
            ⟨leftOver first,
              Runs.silent called (Runs.head firstCalled run)⟩
      | more notRaised restFrame =>
          obtain ⟨heldAfter, run⟩ :=
            @runs_writeRemaining myMacAddr replies headers others rest
              restFrame first
          have goesOn :
              afterTransaction first = (.writeRemaining, false) := by
            rw [afterTransaction, notRaised]
            rfl
          have firstCalled :
              ethernetHandleOutput myMacAddr
                  ⟨.writeFirstTransaction, leftOver headerWord, replies,
                    first :: headers, rest ++ others⟩ =
                (⟨.writeRemaining, leftOver first, replies, headers,
                    rest ++ others⟩,
                  [(joinWords noDest first headerWord 50).withLast
                    false]) := by
            simp only [ethernetHandleOutput, goesOn, composeWord_leftOver]
          rw [realign_of_more notRaised]
          exact
            ⟨heldAfter, Runs.silent called (Runs.head firstCalled run)⟩
  | false =>
      have called :
          ethernetHandleOutput myMacAddr
              ⟨.waitLookup, held, packet.reply :: replies,
                first :: headers, rest ++ others⟩ =
            (⟨.dropIp, held, replies, first :: headers, rest ++ others⟩,
              []) := by
        simp only [ethernetHandleOutput, hit, Bool.false_eq_true, if_false]
      rw [if_neg (by decide)]
      refine ⟨held, Runs.silent called ?_⟩
      cases delimited with
      | final raised =>
          refine Runs.single ?_
          simp only [ethernetHandleOutput, raised, if_true,
            List.nil_append]
      | more notRaised restFrame =>
          refine Runs.silent ?_ (runs_dropNoIp restFrame held)
          simp only [ethernetHandleOutput, notRaised, Bool.false_eq_true,
            if_false]

end Output

theorem yields_ethernetHandleOutput
    (myMacAddr : MacAddr) (packets : List SentPacket)
    (held : NetAXISMacHeader) :
    ∃ final,
      Yields (ethernetHandleOutput myMacAddr)
        ⟨.waitLookup, held, packets.map SentPacket.reply,
          (packets.map SentPacket.first).map insertIpChecksum,
          packets.flatMap SentPacket.rest⟩
        (packets.flatMap (SentPacket.etherWords myMacAddr)) final := by
  induction packets generalizing held with
  | nil =>
      exact ⟨_, Runs.refl _, rfl⟩
  | cons packet packets inductionHypothesis =>
      obtain ⟨heldAfter, run⟩ :=
        @runs_etherWords myMacAddr (packets.map SentPacket.reply)
          ((packets.map SentPacket.first).map insertIpChecksum)
          (packets.flatMap SentPacket.rest) packet held
      obtain ⟨final, yields⟩ := inductionHypothesis heldAfter
      exact ⟨final, Yields.prepend run yields⟩

def SentPacket.hit (packet : SentPacket) : Bool :=
  packet.reply.hit

/-- The output is one frame for each packet with an answer. -/
theorem etherWords_frames
    (myMacAddr : MacAddr) (packets : List SentPacket) :
    AxiFrames
      ((packets.filter SentPacket.hit).map
        (SentPacket.etherBytes myMacAddr))
      (packets.flatMap (SentPacket.etherWords myMacAddr)) := by
  induction packets with
  | nil =>
      exact Frames.nil
  | cons packet packets inductionHypothesis =>
      rw [List.flatMap_cons]
      cases hit : packet.hit with
      | true =>
          rw [List.filter_cons_of_pos hit, List.map_cons]
          exact
            Frames.cons (packet.etherWords_isFrame myMacAddr hit)
              inductionHypothesis
      | false =>
          have noWords : packet.etherWords myMacAddr = [] :=
            if_neg (Bool.eq_false_iff.1 hit)
          rw [List.filter_cons_of_neg (by rw [hit]; decide), noWords,
            List.nil_append]
          exact inductionHypothesis

end TcpOffload
