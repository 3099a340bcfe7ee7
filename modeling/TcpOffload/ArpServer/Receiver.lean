import TcpOffload.ArpServer
import TcpOffload.WordFrames

/-!
# Which words are read as ARP packets

`ArpPkgReceiver` of `arp_server.cpp` counts the words of a frame in four
bits, so that in a frame of more than 16 words every sixteenth word passes for
a first one.
-/

namespace TcpOffload

open Clocked Framing

/-! ## `ArpPkgReceiver` -/

structure ArpMetaRsp where
  srcMacAddr : MacAddr
  ethType : BitVec 16
  arpHwType : BitVec 16
  arpProtoType : BitVec 16
  arpHwLen : BitVec 8
  arpProtoLen : BitVec 8
  arpSrcHwAddr : MacAddr
  arpSrcProtoAddr : IpAddr
deriving DecidableEq, Repr

/-- `ARP_REQUEST`. -/
def arpRequest : BitVec 16 := 0x0100

/-- `ARP_REPLY`. -/
def arpReply : BitVec 16 := 0x0200

structure ArpReceiverState where
  wordCount : BitVec 4
  arpDataIn : List NetAXISWord
deriving DecidableEq, Repr

inductive ArpReceiverMsg where
  | arpRsp (rsp : ArpMetaRsp)
  | arpTableInsert (entry : ArpTableEntry)
deriving DecidableEq, Repr

/-- The fields of the packet that an answer to it is made of. -/
def arpMetaRsp (currWord : NetAXISWord) : ArpMetaRsp where
  srcMacAddr := currWord.data.extractLsb' 48 48
  ethType := currWord.data.extractLsb' 96 16
  arpHwType := currWord.data.extractLsb' 112 16
  arpProtoType := currWord.data.extractLsb' 128 16
  arpHwLen := currWord.data.extractLsb' 144 8
  arpProtoLen := currWord.data.extractLsb' 152 8
  arpSrcHwAddr := currWord.data.extractLsb' 176 48
  arpSrcProtoAddr := currWord.data.extractLsb' 224 32

/-- What comes of a word that is read as a packet: a request to us is
answered, the sender of a reply to us goes into the table. -/
def arpPacket (myIpAddr : IpAddr) (currWord : NetAXISWord) :
    List ArpReceiverMsg :=
  let rsp := arpMetaRsp currWord
  let arpOpCode := currWord.data.extractLsb' 160 16
  let arpDstProtoAddr := currWord.data.extractLsb' 304 32
  if arpOpCode = arpRequest ∧ arpDstProtoAddr = myIpAddr then
    [.arpRsp rsp]
  else if arpOpCode = arpReply ∧ arpDstProtoAddr = myIpAddr then
    [.arpTableInsert ⟨rsp.arpSrcHwAddr, rsp.arpSrcProtoAddr, true⟩]
  else
    []

/-- `ArpPkgReceiver`. -/
def arpPkgReceiver (myIpAddr : IpAddr) (state : ArpReceiverState) :
    ArpReceiverState × List ArpReceiverMsg :=
  match state.arpDataIn with
  | [] => (state, [])
  | currWord :: later =>
      ({ wordCount := if currWord.last then 0 else state.wordCount + 1
         arpDataIn := later },
        if state.wordCount = 0 then arpPacket myIpAddr currWord else [])

/-! ## The words of a frame -/

/-- What comes of the words of a frame from a position in it on: every
sixteenth word is read as a packet. -/
def arpPackets (myIpAddr : IpAddr) :
    Nat → List NetAXISWord → List ArpReceiverMsg
  | _, [] => []
  | position, word :: later =>
      (if position % 16 = 0 then arpPacket myIpAddr word else []) ++
        arpPackets myIpAddr (position + 1) later

theorem wordCount_eq_zero_iff (position : Nat) :
    BitVec.ofNat 4 position = 0 ↔ position % 16 = 0 := by
  rw [← BitVec.toNat_inj, BitVec.toNat_ofNat]
  rfl

theorem runs_arpPkgReceiver
    (myIpAddr : IpAddr) {words : List NetAXISWord}
    (delimited : Delimited NetAXISWord.last words)
    (later : List NetAXISWord) (position : Nat) :
    Runs (arpPkgReceiver myIpAddr)
      ⟨BitVec.ofNat 4 position, words ++ later⟩
      (arpPackets myIpAddr position words) ⟨0, later⟩ := by
  induction delimited generalizing position with
  | @final word raised =>
      refine Runs.single ?_
      simp only [arpPkgReceiver, List.cons_append, List.nil_append, raised,
        if_true, arpPackets, List.append_nil, wordCount_eq_zero_iff]
  | @more word words notRaised _ inductionHypothesis =>
      refine Runs.head ?_ (inductionHypothesis (position + 1))
      simp only [arpPkgReceiver, List.cons_append, notRaised,
        Bool.false_eq_true, if_false, wordCount_eq_zero_iff,
        BitVec.ofNat_add]
      rfl

theorem arpPackets_eq_nil_iff
    (myIpAddr : IpAddr) (words : List NetAXISWord) (position : Nat) :
    arpPackets myIpAddr position words = [] ↔
      ∀ (index : Nat) (word : NetAXISWord),
        words[index]? = some word → (position + index) % 16 = 0 →
          arpPacket myIpAddr word = [] := by
  induction words generalizing position with
  | nil =>
      simp [arpPackets]
  | cons first words inductionHypothesis =>
      rw [arpPackets, List.append_eq_nil_iff, inductionHypothesis]
      constructor
      · rintro ⟨here, later⟩ index word isWord atFirst
        cases index with
        | zero =>
            rw [List.getElem?_cons_zero, Option.some.injEq] at isWord
            rw [Nat.add_zero] at atFirst
            rwa [if_pos atFirst, isWord] at here
        | succ index =>
            rw [List.getElem?_cons_succ] at isWord
            exact later index word isWord (by omega)
      · intro none
        refine ⟨?_, fun index word isWord atFirst => ?_⟩
        · split
          · rename_i atFirst
            exact none 0 first rfl (by omega)
          · rfl
        · refine none (index + 1) word ?_ (by omega)
          rw [List.getElem?_cons_succ]
          exact isWord

/-- No word behind the first one reads as a packet for us where the counter
is 0 again. -/
def OnlyFirstIsPacket (myIpAddr : IpAddr) (frame : WordFrame) : Prop :=
  ∀ (count : Nat) (word : NetAXISWord),
    0 < count → frame.words[16 * count]? = some word →
      arpPacket myIpAddr word = []

theorem arpPackets_rest_eq_nil_iff
    (myIpAddr : IpAddr) (frame : WordFrame) :
    arpPackets myIpAddr 1 frame.rest = [] ↔
      OnlyFirstIsPacket myIpAddr frame := by
  rw [arpPackets_eq_nil_iff]
  constructor
  · intro none count word positive isWord
    obtain ⟨index, isIndex⟩ : ∃ index, 16 * count = index + 1 :=
      ⟨16 * count - 1, by omega⟩
    rw [isIndex, WordFrame.words, List.getElem?_cons_succ] at isWord
    exact none index word isWord (by omega)
  · intro none index word isWord atFirst
    obtain ⟨count, isCount⟩ : ∃ count, 1 + index = 16 * count :=
      ⟨(1 + index) / 16, by omega⟩
    refine none count word (by omega) ?_
    rw [← isCount, Nat.add_comm, WordFrame.words, List.getElem?_cons_succ]
    exact isWord

/-- The receiver reads the first word of every frame and no other as a packet
exactly when none of the other words at a multiple of 16 is a request or a
reply to us. -/
theorem arpPkgReceiver_readsFirst_iff
    (myIpAddr : IpAddr) (frames : List WordFrame) :
    (∃ final,
        Yields (arpPkgReceiver myIpAddr) ⟨0, WordFrame.stream frames⟩
          (frames.flatMap fun frame => arpPacket myIpAddr frame.first)
          final) ↔
      ∀ frame ∈ frames, OnlyFirstIsPacket myIpAddr frame := by
  refine
    @yields_frames_iff _ _ (arpPkgReceiver myIpAddr)
      (fun words state => state = ⟨0, words⟩)
      (fun frame => arpPacket myIpAddr frame.first)
      (OnlyFirstIsPacket myIpAddr) ?_ ?_ frames _ rfl
  · rintro frame later state rfl
    exact
      ⟨arpPackets myIpAddr 1 frame.rest, _,
        runs_arpPkgReceiver myIpAddr frame.delimited later 0,
        arpPackets_rest_eq_nil_iff myIpAddr frame, rfl⟩
  · rintro state rfl
    rfl

/-- The word of a reply to 1.1.1.1. -/
def arpReplyWord : NetAXISWord where
  data :=
    (0 : BitVec 176) ++ (0x01010101 : BitVec 32) ++ (0 : BitVec 128) ++
      arpReply ++ (0 : BitVec 160)
  dest := 0
  keep := BitVec.allOnes 64
  last := true

/-- A frame of 17 words, the first of which is no packet for us. -/
def longArpFrame : WordFrame :=
  WordFrame.ofWords (List.replicate 16 NetAXISWord.empty) arpReplyWord

/-- The last of 17 words goes into the table. -/
theorem not_arpPkgReceiver_readsFirst :
    ¬ ∃ final,
        Yields (arpPkgReceiver 0x01010101)
          ⟨0, WordFrame.stream [longArpFrame]⟩
          ([longArpFrame].flatMap fun frame =>
            arpPacket 0x01010101 frame.first)
          final := by
  rintro ⟨final, yields⟩
  have run :=
    runs_arpPkgReceiver 0x01010101 longArpFrame.delimited [] 0
  have same := (yields.unique ⟨run, rfl⟩).1
  have silent :
      arpPacket 0x01010101 longArpFrame.first = [] := by
    simp [arpPacket, longArpFrame, List.replicate, WordFrame.ofWords,
      NetAXISWord.empty, arpRequest, arpReply]
  rw [List.flatMap_singleton, silent] at same
  have inserted :
      arpPacket 0x01010101 arpReplyWord =
        [.arpTableInsert ⟨0, 0, true⟩] := by
    decide +kernel
  have none :=
    (arpPackets_eq_nil_iff 0x01010101 longArpFrame.words 0).1 same.symm
  rw [none 16 arpReplyWord rfl rfl] at inserted
  cases inserted

end TcpOffload
