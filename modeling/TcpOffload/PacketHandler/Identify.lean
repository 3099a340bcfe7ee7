import TcpOffload.WordFrames

/-!
# The packet identifier

`PacketIdentify` of `packet_handler.cpp` tags the frames of ARP, ICMP, TCP and
UDP with their class and drops the others.  A frame of Ethernet type IPv4 whose
IP version is not 4 is not dropped: it leaves with whatever the unassigned
`tdest` holds.
-/

namespace TcpOffload

open Clocked Framing

/-! ## `PacketIdentify` -/

/-- `TYPE_IPV4`. -/
def typeIpv4 : BitVec 16 := 0x0800

/-- `TYPE_ARP`. -/
def typeArp : BitVec 16 := 0x0806

/-- `PROTO_ICMP`. -/
def protoIcmp : BitVec 8 := 1

/-- `PROTO_TCP`. -/
def protoTcp : BitVec 8 := 6

/-- `PROTO_UDP`. -/
def protoUdp : BitVec 8 := 17

inductive PacketIdentifyStates where
  | firstWord
  | fwd
  | drop
deriving DecidableEq, Repr

structure PacketIdentifyState where
  piFsmState : PacketIdentifyStates
  tdestR : BitVec 4
  dataIn : List NetAXISWord
deriving DecidableEq, Repr

namespace NetAXISWord

def ethernetType (word : NetAXISWord) : BitVec 16 :=
  swapByte (word.data.extractLsb' 96 16)

def ipVersion (word : NetAXISWord) : BitVec 4 :=
  word.data.extractLsb' 116 4

def ipProtocol (word : NetAXISWord) : BitVec 8 :=
  word.data.extractLsb' 184 8

def withDest (dest : BitVec 4) (word : NetAXISWord) : NetAXISWord :=
  { word with dest := dest }

end NetAXISWord

/-- The tag of a frame and whether it is forwarded, from its first word and
what `tdest` holds before it is assigned. -/
def identify (tdest : BitVec 4) (currWord : NetAXISWord) :
    BitVec 4 × Bool :=
  if currWord.ethernetType = typeArp then
    (0, true)
  else if currWord.ethernetType = typeIpv4 then
    if currWord.ipVersion = 4 then
      if currWord.ipProtocol = protoIcmp then
        (1, true)
      else if currWord.ipProtocol = protoTcp then
        (2, true)
      else if currWord.ipProtocol = protoUdp then
        (3, true)
      else
        (tdest, false)
    else
      (tdest, true)
  else
    (tdest, false)

/-- `PacketIdentify`, where the local variable `tdest` holds the given value
before it is assigned. -/
def packetIdentify (tdest : BitVec 4) (state : PacketIdentifyState) :
    PacketIdentifyState × List NetAXISWord :=
  match state.piFsmState, state.dataIn with
  | _, [] => (state, [])
  | .firstWord, currWord :: later =>
      let identified := identify tdest currWord
      ({ piFsmState :=
          if currWord.last then
            .firstWord
          else if identified.2 then
            .fwd
          else
            .drop
         tdestR := identified.1
         dataIn := later },
        if identified.2 then
          [currWord.withDest identified.1]
        else
          [])
  | .fwd, currWord :: later =>
      ({ state with
          piFsmState := if currWord.last then .firstWord else .fwd
          dataIn := later },
        [currWord.withDest state.tdestR])
  | .drop, currWord :: later =>
      ({ state with
          piFsmState := if currWord.last then .firstWord else .drop
          dataIn := later },
        [])

/-- The call that reads a first word may read `tdest` unassigned. -/
def PacketIdentifyState.readsTdest (state : PacketIdentifyState) : Bool :=
  state.piFsmState = .firstWord && !state.dataIn.isEmpty

/-- The calls of `PacketIdentify`, with what they find in `tdest`. -/
def packetIdentifyCall :
    PacketIdentifyState × (Nat → BitVec 4) →
      (PacketIdentifyState × (Nat → BitVec 4)) × List NetAXISWord :=
  drawing packetIdentify PacketIdentifyState.readsTdest

/-! ## Classes of frames -/

/-- The classes that are forwarded: 0 for ARP, and of IPv4, version 4, 1 for
ICMP, 2 for TCP and 3 for UDP. -/
def frameClass (first : NetAXISWord) : Option (BitVec 4) :=
  if first.ethernetType = typeArp then
    some 0
  else if first.ethernetType = typeIpv4 ∧ first.ipVersion = 4 then
    if first.ipProtocol = protoIcmp then
      some 1
    else if first.ipProtocol = protoTcp then
      some 2
    else if first.ipProtocol = protoUdp then
      some 3
    else
      none
  else
    none

/-- A frame of a class leaves with all of its words tagged, any other leaves
no word. -/
def identified (frame : WordFrame) : List NetAXISWord :=
  match frameClass frame.first with
  | some tdest => frame.words.map (NetAXISWord.withDest tdest)
  | none => []

/-- The Ethernet type says IPv4, but the IP version is not 4. -/
def WrongVersion (first : NetAXISWord) : Prop :=
  first.ethernetType = typeIpv4 ∧ first.ipVersion ≠ 4

theorem identify_of_class
    {first : NetAXISWord} {tag : BitVec 4}
    (hasClass : frameClass first = some tag) (tdest : BitVec 4) :
    identify tdest first = (tag, true) ∧ ¬ WrongVersion first := by
  have otherType : typeArp ≠ typeIpv4 := by
    decide
  rw [frameClass] at hasClass
  rw [identify, WrongVersion]
  split_ifs at hasClass ⊢ <;> simp_all

theorem identify_of_none
    {first : NetAXISWord} (noClass : frameClass first = none)
    (tdest : BitVec 4) :
    (identify tdest first).1 = tdest ∧
      ((identify tdest first).2 = true ↔ WrongVersion first) := by
  rw [frameClass] at noClass
  rw [identify, WrongVersion]
  split_ifs at noClass ⊢ <;> simp_all

/-! ## Runs -/

section Runs

variable {words : List NetAXISWord}

theorem runs_forwarded
    (delimited : Delimited NetAXISWord.last words)
    (later : List NetAXISWord) (tdestR : BitVec 4)
    (unassigned : Nat → BitVec 4) :
    Runs packetIdentifyCall (⟨.fwd, tdestR, words ++ later⟩, unassigned)
      (words.map (NetAXISWord.withDest tdestR))
      (⟨.firstWord, tdestR, later⟩, unassigned) := by
  induction delimited with
  | @final word raised =>
      refine Runs.single ?_
      simp only [packetIdentifyCall, drawing, packetIdentify,
        List.cons_append, List.nil_append, raised, if_true]
      rfl
  | @more word words notRaised _ inductionHypothesis =>
      have called :
          packetIdentifyCall
              (⟨.fwd, tdestR, (word :: words) ++ later⟩, unassigned) =
            ((⟨.fwd, tdestR, words ++ later⟩, unassigned),
              [word.withDest tdestR]) := by
        simp only [packetIdentifyCall, drawing, packetIdentify,
          List.cons_append, notRaised, Bool.false_eq_true, if_false]
        rfl
      exact Runs.head called inductionHypothesis

theorem runs_dropped
    (delimited : Delimited NetAXISWord.last words)
    (later : List NetAXISWord) (tdestR : BitVec 4)
    (unassigned : Nat → BitVec 4) :
    Runs packetIdentifyCall (⟨.drop, tdestR, words ++ later⟩, unassigned)
      [] (⟨.firstWord, tdestR, later⟩, unassigned) := by
  induction delimited with
  | @final word raised =>
      refine Runs.single ?_
      simp only [packetIdentifyCall, drawing, packetIdentify,
        List.cons_append, List.nil_append, raised, if_true]
      rfl
  | @more word words notRaised _ inductionHypothesis =>
      refine Runs.silent ?_ inductionHypothesis
      simp only [packetIdentifyCall, drawing, packetIdentify,
        List.cons_append, notRaised, Bool.false_eq_true, if_false]
      rfl

/-- The first word decides about the whole frame. -/
theorem runs_frame
    (frame : WordFrame) (later : List NetAXISWord) (tdestR : BitVec 4)
    (unassigned : Nat → BitVec 4) :
    Runs packetIdentifyCall
      (⟨.firstWord, tdestR, frame.words ++ later⟩, unassigned)
      (if (identify (unassigned 0) frame.first).2 then
        frame.words.map
          (NetAXISWord.withDest (identify (unassigned 0) frame.first).1)
      else
        [])
      (⟨.firstWord, (identify (unassigned 0) frame.first).1, later⟩,
        fun index => unassigned (index + 1)) := by
  have called :
      packetIdentifyCall
          (⟨.firstWord, tdestR, frame.words ++ later⟩, unassigned) =
        ((⟨if frame.first.last then
              .firstWord
            else if (identify (unassigned 0) frame.first).2 then
              .fwd
            else
              .drop,
            (identify (unassigned 0) frame.first).1,
            frame.rest ++ later⟩,
          fun index => unassigned (index + 1)),
          if (identify (unassigned 0) frame.first).2 then
            [frame.first.withDest (identify (unassigned 0) frame.first).1]
          else
            []) :=
    rfl
  rcases frame.single_or_more with ⟨raised, none⟩ | ⟨notRaised, rest⟩
  · rw [raised, if_pos rfl, none] at called
    rw [WordFrame.words, none] at called ⊢
    exact Runs.single called
  · rw [notRaised, if_neg Bool.false_ne_true] at called
    cases forward : (identify (unassigned 0) frame.first).2 with
    | true =>
        rw [forward, if_pos rfl, if_pos rfl] at called
        exact Runs.head called (runs_forwarded rest later _ _)
    | false =>
        rw [forward, if_neg Bool.false_ne_true,
          if_neg Bool.false_ne_true] at called
        exact Runs.silent called (runs_dropped rest later _ _)

end Runs

/-- Only a frame of the wrong version adds words of its own. -/
theorem words_of_frame (frame : WordFrame) (tdest : BitVec 4) :
    ∃ extra,
      (if (identify tdest frame.first).2 then
          frame.words.map
            (NetAXISWord.withDest (identify tdest frame.first).1)
        else
          []) =
          identified frame ++ extra ∧
        (extra = [] ↔ ¬ WrongVersion frame.first) := by
  cases hasClass : frameClass frame.first with
  | some tag =>
      obtain ⟨tagged, version⟩ := identify_of_class hasClass tdest
      refine ⟨[], ?_, iff_of_true rfl version⟩
      rw [tagged, if_pos rfl, identified, hasClass, List.append_nil]
  | none =>
      have forwards := (identify_of_none hasClass tdest).2
      refine ⟨_, by rw [identified, hasClass, List.nil_append], ?_⟩
      rw [← forwards]
      cases (identify tdest frame.first).2 <;> simp [WordFrame.words]

/-- Whatever `tdest` holds before it is assigned, the frames of the four
classes leave, tagged, and no word of the others does exactly when no frame of
type IPv4 has another IP version than 4. -/
theorem packetIdentify_iff
    (tdestR : BitVec 4) (unassigned : Nat → BitVec 4)
    (frames : List WordFrame) :
    (∃ final,
        Yields packetIdentifyCall
          (⟨.firstWord, tdestR, WordFrame.stream frames⟩, unassigned)
          (frames.flatMap identified) final) ↔
      ∀ frame ∈ frames, ¬ WrongVersion frame.first := by
  refine
    @yields_frames_iff _ _ packetIdentifyCall
      (fun words state =>
        state.1.piFsmState = .firstWord ∧ state.1.dataIn = words)
      identified (fun frame => ¬ WrongVersion frame.first) ?_ ?_ frames _
      ⟨rfl, rfl⟩
  · rintro frame later ⟨⟨fsmState, tdestR, dataIn⟩, unassigned⟩
      ⟨isFirst, isInput⟩
    dsimp only at isFirst isInput
    subst isFirst isInput
    have run := runs_frame frame later tdestR unassigned
    obtain ⟨extra, written, noExtra⟩ :=
      words_of_frame frame (unassigned 0)
    rw [written] at run
    exact ⟨extra, _, run, noExtra, rfl, rfl⟩
  · rintro ⟨⟨fsmState, tdestR, dataIn⟩, unassigned⟩ ⟨isFirst, isInput⟩
    dsimp only at isFirst isInput
    subst isFirst isInput
    rfl

/-- A frame of type IPv4 with IP version 6 in one word. -/
def wrongVersionWord : NetAXISWord where
  data :=
    (0 : BitVec 192) ++ (0 : BitVec 200) ++ (0x60 : BitVec 8) ++
      (0x0008 : BitVec 16) ++ (0 : BitVec 96)
  dest := 0
  keep := BitVec.allOnes 64
  last := true

/-- It leaves, with the tag that happens to be in the variable. -/
theorem not_packetIdentify :
    ¬ ∀ (tdestR : BitVec 4) (unassigned : Nat → BitVec 4)
        (frames : List WordFrame),
        ∃ final,
          Yields packetIdentifyCall
            (⟨.firstWord, tdestR, WordFrame.stream frames⟩, unassigned)
            (frames.flatMap identified) final := by
  intro yields
  obtain ⟨final, none⟩ :=
    yields 0 (fun _ => 2) [WordFrame.single wrongVersionWord]
  have run :=
    runs_frame (WordFrame.single wrongVersionWord) [] 0 fun _ => 2
  have same := (none.unique ⟨run, rfl⟩).1
  revert same
  decide +kernel

end TcpOffload
