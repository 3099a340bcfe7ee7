import TcpOffload.EthernetHeaderInserter.Frames

/-!
# The Ethernet remover

`EthernetRemover` of `packet_handler.cpp` shaves the Ethernet header off every
frame but those of ARP, and so gives back what the Ethernet header inserter
has sent.
-/

namespace TcpOffload

open Clocked Framing

/-! ## `EthernetRemover` -/

inductive EthernetRemoverStates where
  | firstWord
  | fwd
  | removing
  | extra
deriving DecidableEq, Repr

structure EthernetRemoverState where
  erFsmState : EthernetRemoverStates
  prevWord : NetAXISWord
  dataIn : List NetAXISWord
deriving DecidableEq, Repr

/-- The bytes of `prevWord` behind the header, and the first ones of
`currWord`. -/
def withoutMacHeader (currWord prevWord : NetAXISWord) : NetAXISWord where
  data :=
    currWord.data.extractLsb' 0 112 ++ prevWord.data.extractLsb' 112 400
  dest := prevWord.dest
  keep := currWord.keep.extractLsb' 0 14 ++ prevWord.keep.extractLsb' 14 50
  last := false

/-- `EthernetRemover`: the frames with the destination 0 are those of ARP. -/
def ethernetRemover (state : EthernetRemoverState) :
    EthernetRemoverState × List NetAXISWord :=
  match state.erFsmState with
  | .firstWord =>
      match state.dataIn with
      | [] => (state, [])
      | currWord :: later =>
          let isArp := currWord.dest == 0
          let sendWord :=
            if isArp then
              currWord
            else
              (withoutMacHeader NetAXISWord.empty currWord).withLast true
          ({ state with
              erFsmState :=
                if currWord.last then
                  .firstWord
                else if isArp then
                  .fwd
                else
                  .removing
              prevWord := currWord
              dataIn := later },
            if currWord.last || isArp then [sendWord] else [])
  | .fwd =>
      match state.dataIn with
      | [] => (state, [])
      | currWord :: later =>
          ({ state with
              erFsmState := if currWord.last then .firstWord else .fwd
              dataIn := later },
            [currWord])
  | .removing =>
      match state.dataIn with
      | [] => (state, [])
      | currWord :: later =>
          let extra := currWord.keep.getLsbD 14
          ({ state with
              erFsmState :=
                if currWord.last then
                  if extra then .extra else .firstWord
                else
                  .removing
              prevWord := currWord
              dataIn := later },
            [(withoutMacHeader currWord state.prevWord).withLast
              (currWord.last && !extra)])
  | .extra =>
      ({ state with erFsmState := .firstWord },
        [(withoutMacHeader NetAXISWord.empty state.prevWord).withLast
          true])

theorem withoutMacHeader_eq (currWord prevWord : NetAXISWord) :
    withoutMacHeader currWord prevWord =
      joinWords NetAXISWord.dest currWord prevWord 14 := by
  have data :
      (currWord.data.extractLsb' 0 112 ++
          prevWord.data.extractLsb' 112 400 : BitVec 512) =
        (joinWords NetAXISWord.dest currWord prevWord 14).data := by
    apply BitVec.eq_of_getLsbD_eq
    intro bit inside
    have inHead : bit - 400 < 112 := by
      omega
    rw [joinWords_data inside, BitVec.getLsbD_append,
      BitVec.getLsbD_extractLsb', BitVec.getLsbD_extractLsb',
      decide_eq_true inHead]
    by_cases low : bit < 400 <;> simp [low]
  have keep :
      (currWord.keep.extractLsb' 0 14 ++
          prevWord.keep.extractLsb' 14 50 : BitVec 64) =
        (joinWords NetAXISWord.dest currWord prevWord 14).keep := by
    apply BitVec.eq_of_getLsbD_eq
    intro bit inside
    have inHead : bit - 50 < 14 := by
      omega
    rw [joinWords_keep inside, BitVec.getLsbD_append,
      BitVec.getLsbD_extractLsb', BitVec.getLsbD_extractLsb',
      decide_eq_true inHead]
    by_cases low : bit < 50 <;> simp [low]
  rw [withoutMacHeader, data, keep]
  rfl

/-! ## Runs -/

section Remover

variable {words later : List NetAXISWord}

theorem runs_removing
    (frame : Delimited NetAXISWord.last words) (prevWord : NetAXISWord) :
    ∃ held,
      Runs ethernetRemover ⟨.removing, prevWord, words ++ later⟩
        (realign NetAXISWord.dest 14 prevWord words)
        ⟨.firstWord, held, later⟩ := by
  induction frame generalizing prevWord with
  | @final currWord raised =>
      cases long : currWord.keep.getLsbD 14 with
      | false =>
          have called :
              ethernetRemover
                  ⟨.removing, prevWord, [currWord] ++ later⟩ =
                (⟨.firstWord, currWord, later⟩,
                  [(joinWords NetAXISWord.dest currWord prevWord
                    14).withLast true]) := by
            simp only [ethernetRemover, List.cons_append,
              List.nil_append, raised, long, if_true, Bool.false_eq_true,
              if_false, Bool.not_false, Bool.and_true,
              withoutMacHeader_eq]
          rw [@realign_of_ended _ 14 _ _ _ raised long]
          exact ⟨currWord, Runs.single called⟩
      | true =>
          have called :
              ethernetRemover
                  ⟨.removing, prevWord, [currWord] ++ later⟩ =
                (⟨.extra, currWord, later⟩,
                  [(joinWords NetAXISWord.dest currWord prevWord
                    14).withLast false]) := by
            simp only [ethernetRemover, List.cons_append,
              List.nil_append, raised, long, if_true, Bool.not_true,
              Bool.and_false, withoutMacHeader_eq]
          have ended :
              ethernetRemover ⟨.extra, currWord, later⟩ =
                (⟨.firstWord, currWord, later⟩,
                  realign NetAXISWord.dest 14 currWord []) := by
            simp only [ethernetRemover, withoutMacHeader_eq, realign]
          rw [realign_of_extra long]
          exact ⟨currWord, Runs.head called (Runs.single ended)⟩
  | @more currWord words notRaised _ inductionHypothesis =>
      obtain ⟨held, run⟩ := inductionHypothesis currWord
      have called :
          ethernetRemover
              ⟨.removing, prevWord, (currWord :: words) ++ later⟩ =
            (⟨.removing, currWord, words ++ later⟩,
              [(joinWords NetAXISWord.dest currWord prevWord
                14).withLast false]) := by
        simp only [ethernetRemover, List.cons_append, notRaised,
          Bool.false_eq_true, if_false, Bool.false_and,
          withoutMacHeader_eq]
      rw [realign_of_more notRaised]
      exact ⟨held, Runs.head called run⟩

/-- A frame that is not of ARP loses its first 14 bytes. -/
theorem runs_ethernetRemover
    {first : NetAXISWord} (notArp : first.dest ≠ 0)
    (frame : Delimited NetAXISWord.last (first :: words))
    (prevWord : NetAXISWord) :
    ∃ held,
      Runs ethernetRemover
        ⟨.firstWord, prevWord, (first :: words) ++ later⟩
        (realign NetAXISWord.dest 14 first words)
        ⟨.firstWord, held, later⟩ := by
  have isIp : (first.dest == 0) = false := beq_eq_false_iff_ne.2 notArp
  cases frame with
  | final raised =>
      refine ⟨first, Runs.single ?_⟩
      simp only [ethernetRemover, List.cons_append, List.nil_append,
        raised, isIp, if_true, Bool.false_eq_true, if_false,
        Bool.true_or, withoutMacHeader_eq, realign]
  | more notRaised rest =>
      obtain ⟨held, run⟩ := @runs_removing words later rest first
      refine ⟨held, Runs.silent ?_ run⟩
      simp only [ethernetRemover, List.cons_append, notRaised, isIp,
        Bool.false_eq_true, if_false, Bool.false_or]

end Remover

/-- The destination is set to one that is not of ARP. -/
structure TaggedIp (word tagged : NetAXISWord) : Prop where
  data : tagged.data = word.data
  keep : tagged.keep = word.keep
  last : tagged.last = word.last
  notArp : tagged.dest ≠ 0

theorem frames_tagged
    {strings : List (List (BitVec 8))} {out tagged : List NetAXISWord}
    (frames : AxiFrames strings out)
    (each : List.Forall₂ TaggedIp out tagged) :
    AxiFrames strings tagged := by
  refine frames.ofRelated ?_ (fun _ _ isTagged => isTagged.last) each
  intro word other bytes isTagged holds
  exact holds.congr isTagged.data isTagged.keep

theorem dest_tagged
    {out tagged : List NetAXISWord}
    (each : List.Forall₂ TaggedIp out tagged) :
    ∀ word ∈ tagged, word.dest ≠ 0 := by
  induction each with
  | nil =>
      exact fun word member => by cases member
  | cons isTagged _ inductionHypothesis =>
      exact List.forall_mem_cons.2 ⟨isTagged.notArp, inductionHypothesis⟩

/-- Frames of more than 14 bytes are the frames of what is behind the
header. -/
theorem yields_ethernetRemover
    {strings : List (List (BitVec 8))} {stream : List NetAXISWord}
    (frames : AxiFrames strings stream)
    (notArp : ∀ word ∈ stream, word.dest ≠ 0)
    (long : ∀ bytes ∈ strings, 14 < bytes.length)
    (prevWord : NetAXISWord) :
    ∃ left final,
      Yields ethernetRemover ⟨.firstWord, prevWord, stream⟩ left final ∧
      AxiFrames (strings.map (List.drop 14)) left := by
  induction frames generalizing prevWord with
  | nil =>
      exact ⟨[], _, ⟨Runs.refl _, rfl⟩, Frames.nil⟩
  | @cons bytes beats strings later frame _ inductionHypothesis =>
      rw [List.forall_mem_append] at notArp
      rw [List.forall_mem_cons] at long
      cases beats with
      | nil =>
          exact absurd rfl frame.beats_ne_nil
      | cons first words =>
          obtain ⟨held, run⟩ :=
            @runs_ethernetRemover words later first
              (notArp.1 first List.mem_cons_self) frame.delimited prevWord
          obtain ⟨left, final, yields, leftFrames⟩ :=
            inductionHypothesis notArp.2 long.2 held
          have some : bytes.drop 14 ≠ [] := by
            intro none
            have noBytes := congrArg List.length none
            rw [List.length_drop, List.length_nil] at noBytes
            have more := long.1
            omega
          have isFrame :
              IsAxiFrame (bytes.drop 14)
                (realign NetAXISWord.dest 14 first words) :=
            @realign_isFrame _ 14 _ _ _ (by decide) frame some
          exact
            ⟨_, final, Yields.prepend run yields,
              Frames.cons isFrame leftFrames⟩

/-! ## There and back -/

/-- Each packet with an answer leaves as one frame, the others leave no word;
tagged as an IP packet, the frame becomes the packet again, with its
checksum. -/
theorem ethernetRemover_undoes
    (packets : List SentPacket) (myMacAddr : MacAddr)
    (subnetMask gatewayIpAddr : IpAddr) (held : NetAXISMacHeader)
    (prevWord : NetAXISWord) :
    ∃ msgs checked out sent computed written,
      Yields (broadcastMacRequest subnetMask gatewayIpAddr)
        ⟨.firstWord, packets.flatMap SentPacket.words⟩ msgs sent ∧
      Yields computeAndInsertIpv4Checksum
        (msgs.filterMap BroadcastMacMsg.toHeader) checked computed ∧
      Yields (ethernetHandleOutput myMacAddr)
        ⟨.waitLookup, held, packets.map SentPacket.reply, checked,
          msgs.filterMap BroadcastMacMsg.toRest⟩
        out written ∧
      AxiFrames
        ((packets.filter SentPacket.hit).map
          (SentPacket.etherBytes myMacAddr))
        out ∧
      ∀ tagged,
        List.Forall₂ TaggedIp out tagged →
          ∃ left final,
            Yields ethernetRemover ⟨.firstWord, prevWord, tagged⟩ left
              final ∧
            AxiFrames
              ((packets.filter SentPacket.hit).map SentPacket.checked)
              left := by
  obtain ⟨written, yields⟩ :=
    yields_ethernetHandleOutput myMacAddr packets held
  have frames := etherWords_frames myMacAddr packets
  refine
    ⟨_, _, _, _, _, written,
      yields_broadcast subnetMask gatewayIpAddr packets,
      by
        rw [headers_broadcast]
        exact yields_computeIpv4Checksum _,
      by
        rw [rests_broadcast]
        exact yields,
      frames, fun tagged each => ?_⟩
  have long :
      ∀ bytes ∈ (packets.filter SentPacket.hit).map
          (SentPacket.etherBytes myMacAddr),
        14 < bytes.length := by
    intro bytes member
    obtain ⟨packet, _, rfl⟩ := List.mem_map.1 member
    have atLeast := packet.atLeastHeader
    rw [SentPacket.etherBytes, List.length_append,
      length_macHeaderBytes, SentPacket.checked, length_setField]
    omega
  have left :=
    yields_ethernetRemover (frames_tagged frames each) (dest_tagged each)
      long prevWord
  have removed :
      List.drop 14 ∘ SentPacket.etherBytes myMacAddr =
        SentPacket.checked :=
    funext fun _ => rfl
  rw [List.map_map, removed] at left
  exact left

end TcpOffload
