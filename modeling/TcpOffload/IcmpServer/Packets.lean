import TcpOffload.HeaderChecksums

/-!
# Which packets the ICMP server answers

An echo request is answered with its own words.  Any other packet is read to
its end only if the unassigned `cur_word` happens to know where that is: the
evaluation does not ask for the `last` flag of the registered word.
-/

namespace TcpOffload

open Clocked Framing

/-! ## What is wanted of a packet -/

/-- An echo request to us with a valid IP header. -/
def IsEchoRequest (myIpaddr : BitVec 32) (first : NetAXISWord) : Prop :=
  first.data.extractLsb' 128 32 = myIpaddr ∧
    first.data.extractLsb' 160 8 = echoRequest ∧
    first.data.extractLsb' 168 8 = 0 ∧
    (bigEndianWords (first.firstBytes 20)).foldl endAroundAdd 0 = 0xFFFF

instance (myIpaddr : BitVec 32) (first : NetAXISWord) :
    Decidable (IsEchoRequest myIpaddr first) :=
  inferInstanceAs (Decidable (_ ∧ _ ∧ _ ∧ _))

/-- The first word of the reply. -/
def echoReplyWord (first : NetAXISWord) : NetAXISWord :=
  (IcmpState.registered first []).firstWord

/-- The words that leave for a packet. -/
def echoAnswer (myIpaddr : BitVec 32) (packet : WordFrame) :
    List NetAXISWord :=
  if IsEchoRequest myIpaddr packet.first then
    echoReplyWord packet.first :: packet.rest
  else
    []

/-- The packets are treated one after the other: calls read the words of one
and no others, write its answer, and end where the next one is awaited. -/
inductive InTurn (myIpaddr : BitVec 32) :
    IcmpState × (Nat → NetAXISWord) → List WordFrame → Prop
  | nil (state : IcmpState × (Nat → NetAXISWord)) :
      InTurn myIpaddr state []
  | cons {state next : IcmpState × (Nat → NetAXISWord)}
      {packet : WordFrame} {packets : List WordFrame} :
      Runs (icmpServerCall myIpaddr) state (echoAnswer myIpaddr packet)
        next →
      next.1.fsmState = .readPacket →
      next.1.dataIn = WordFrame.stream packets →
      InTurn myIpaddr next packets →
      InTurn myIpaddr state (packet :: packets)

/-! ## When a packet that is not answered is passed over -/

/-- With what the evaluations find in `cur_word`, the words are read without
an answer and no word behind them is: the flag found is that of the first
word, or the other words, taken for a packet of their own, are passed over in
turn.  The number is that of the evaluations. -/
inductive Passes (myIpaddr : BitVec 32) :
    (Nat → NetAXISWord) → List NetAXISWord → Nat → Prop
  | ended {unassigned : Nat → NetAXISWord} {first : NetAXISWord} :
      ¬ IsEchoRequest myIpaddr first →
      (unassigned 0).last = true →
      Passes myIpaddr unassigned [first] 1
  | dropped {unassigned : Nat → NetAXISWord} {first : NetAXISWord}
      {rest : List NetAXISWord} :
      ¬ IsEchoRequest myIpaddr first →
      (unassigned 0).last = false →
      rest ≠ [] →
      Passes myIpaddr unassigned (first :: rest) 1
  | again {unassigned : Nat → NetAXISWord} {first : NetAXISWord}
      {rest : List NetAXISWord} {count : Nat} :
      ¬ IsEchoRequest myIpaddr first →
      (unassigned 0).last = true →
      rest ≠ [] →
      Passes myIpaddr (fun index => unassigned (index + 1)) rest count →
      Passes myIpaddr unassigned (first :: rest) (count + 1)

/-- Every packet is answered or passed over. -/
def EachPasses (myIpaddr : BitVec 32) :
    (Nat → NetAXISWord) → List WordFrame → Prop
  | _, [] => True
  | unassigned, packet :: packets =>
      if IsEchoRequest myIpaddr packet.first then
        EachPasses myIpaddr (fun index => unassigned (index + 1)) packets
      else
        ∃ count,
          Passes myIpaddr unassigned packet.words count ∧
            EachPasses myIpaddr
              (fun index => unassigned (index + count)) packets

/-! ## The calls -/

section Calls

variable {myIpaddr : BitVec 32} {state : IcmpState}
variable {unassigned : Nat → NetAXISWord}
variable {first : NetAXISWord} {later words : List NetAXISWord}

theorem conditions_iff (first : NetAXISWord) (later : List NetAXISWord) :
    (IcmpState.registered first later).conditions myIpaddr = true ↔
      IsEchoRequest myIpaddr first := by
  simp only [IcmpState.conditions, IcmpState.registered, IsEchoRequest,
    Bool.and_eq_true, beq_iff_eq, computeChechkSum20B_eq,
    internetChecksum_eq_zero_iff, and_assoc]

/-- The state behind the evaluation of a packet. -/
def evaluated (myIpaddr : BitVec 32) (curWord first : NetAXISWord)
    (later : List NetAXISWord) : IcmpState :=
  { IcmpState.registered first later with
    fsmState :=
      if IsEchoRequest myIpaddr first then
        .sendFirstWord
      else if curWord.last then
        .readPacket
      else
        .dropPacket }

/-- The state behind a packet with the given first word. -/
def awaiting (first : NetAXISWord) (later : List NetAXISWord) :
    IcmpState :=
  { IcmpState.registered first later with fsmState := .readPacket }

theorem call_read
    (reads : state.fsmState = .readPacket)
    (isInput : state.dataIn = first :: later) :
    icmpServerCall myIpaddr (state, unassigned) =
      ((IcmpState.registered first later, unassigned), []) := by
  simp only [icmpServerCall, drawing, icmpServer, reads, isInput,
    IcmpState.evaluates]
  rfl

theorem call_evaluate :
    icmpServerCall myIpaddr
        (IcmpState.registered first later, unassigned) =
      ((evaluated myIpaddr (unassigned 0) first later,
        fun index => unassigned (index + 1)), []) := by
  have same := @conditions_iff myIpaddr first later
  have called :
      icmpServer myIpaddr (unassigned 0)
          (IcmpState.registered first later) =
        (evaluated myIpaddr (unassigned 0) first later, []) := by
    rw [evaluated]
    change
      ({ IcmpState.registered first later with
          fsmState :=
            if (IcmpState.registered first later).conditions myIpaddr then
              .sendFirstWord
            else if !(unassigned 0).last then
              .dropPacket
            else
              .readPacket },
        []) = _
    simp only [same]
    cases (unassigned 0).last <;> rfl
  rw [icmpServerCall, drawing, called]
  rfl

theorem runs_forward
    (delimited : Delimited NetAXISWord.last words)
    (later : List NetAXISWord) (state : IcmpState)
    (unassigned : Nat → NetAXISWord) :
    Runs (icmpServerCall myIpaddr)
      ({ state with fsmState := .forward, dataIn := words ++ later },
        unassigned)
      words
      ({ state with fsmState := .readPacket, dataIn := later },
        unassigned) := by
  induction delimited with
  | @final word raised =>
      refine Runs.single ?_
      simp only [icmpServerCall, drawing, icmpServer, List.cons_append,
        List.nil_append, raised, if_true]
      rfl
  | @more word words notRaised _ inductionHypothesis =>
      have called :
          icmpServerCall myIpaddr
              ({ state with
                  fsmState := .forward
                  dataIn := (word :: words) ++ later }, unassigned) =
            (({ state with
                  fsmState := .forward
                  dataIn := words ++ later }, unassigned),
              [word]) := by
        simp only [icmpServerCall, drawing, icmpServer, List.cons_append,
          notRaised, Bool.false_eq_true, if_false]
        rfl
      exact Runs.head called inductionHypothesis

theorem runs_drop
    (delimited : Delimited NetAXISWord.last words)
    (later : List NetAXISWord) (state : IcmpState)
    (unassigned : Nat → NetAXISWord) :
    Runs (icmpServerCall myIpaddr)
      ({ state with fsmState := .dropPacket, dataIn := words ++ later },
        unassigned)
      []
      ({ state with fsmState := .readPacket, dataIn := later },
        unassigned) := by
  induction delimited with
  | @final word raised =>
      refine Runs.single ?_
      simp only [icmpServerCall, drawing, icmpServer, List.cons_append,
        List.nil_append, raised, if_true]
      rfl
  | @more word words notRaised _ inductionHypothesis =>
      refine Runs.silent ?_ inductionHypothesis
      simp only [icmpServerCall, drawing, icmpServer, List.cons_append,
        notRaised, Bool.false_eq_true, if_false]
      rfl

/-- Two calls read a first word and evaluate it. -/
theorem runs_evaluated
    (reads : state.fsmState = .readPacket)
    (isInput : state.dataIn = first :: later)
    {written : List NetAXISWord}
    {final : IcmpState × (Nat → NetAXISWord)}
    (run :
      Runs (icmpServerCall myIpaddr)
        (evaluated myIpaddr (unassigned 0) first later,
          fun index => unassigned (index + 1))
        written final) :
    Runs (icmpServerCall myIpaddr) (state, unassigned) written final :=
  Runs.silent (call_read reads isInput) (Runs.silent call_evaluate run)

/-- An echo request leaves as its reply. -/
theorem runs_answered
    (packet : WordFrame) (isRequest : IsEchoRequest myIpaddr packet.first)
    (reads : state.fsmState = .readPacket)
    (isInput : state.dataIn = packet.words ++ later) :
    Runs (icmpServerCall myIpaddr) (state, unassigned)
      (echoReplyWord packet.first :: packet.rest)
      (awaiting packet.first later,
        fun index => unassigned (index + 1)) := by
  have called :
      icmpServerCall myIpaddr
          (evaluated myIpaddr (unassigned 0) packet.first
              (packet.rest ++ later),
            fun index => unassigned (index + 1)) =
        (({ IcmpState.registered packet.first (packet.rest ++ later) with
              fsmState :=
                if packet.first.last then .readPacket else .forward },
            fun index => unassigned (index + 1)),
          [echoReplyWord packet.first]) := by
    rw [evaluated, if_pos isRequest]
    rfl
  refine runs_evaluated reads isInput ?_
  rcases packet.single_or_more with ⟨raised, none⟩ | ⟨notRaised, rest⟩
  · rw [raised, if_pos rfl] at called
    rw [none] at called ⊢
    exact Runs.single called
  · rw [notRaised, if_neg Bool.false_ne_true] at called
    exact
      Runs.head called
        (runs_forward rest later
          (IcmpState.registered packet.first (packet.rest ++ later)) _)

/-- What is passed over leaves no word. -/
theorem runs_passed
    {count : Nat} (passes : Passes myIpaddr unassigned words count)
    (delimited : Delimited NetAXISWord.last words)
    (reads : state.fsmState = .readPacket)
    (isInput : state.dataIn = words ++ later) :
    ∃ first,
      Runs (icmpServerCall myIpaddr) (state, unassigned) []
        (awaiting first later, fun index => unassigned (index + count)) := by
  induction passes generalizing state with
  | @ended unassigned first notRequest raised =>
      refine ⟨first, runs_evaluated reads isInput ?_⟩
      rw [evaluated, if_neg notRequest, if_pos raised]
      exact Runs.refl _
  | @dropped unassigned first rest notRequest notRaised more =>
      refine ⟨first, runs_evaluated reads isInput ?_⟩
      rw [evaluated, if_neg notRequest, notRaised,
        if_neg Bool.false_ne_true]
      cases delimited with
      | final => exact absurd rfl more
      | more _ rest =>
          exact
            runs_drop rest later
              (IcmpState.registered first (_ ++ later)) _
  | @again unassigned first rest count notRequest raised more _
      inductionHypothesis =>
      cases delimited with
      | final => exact absurd rfl more
      | more _ restDelimited =>
          obtain ⟨last, run⟩ :=
            @inductionHypothesis (awaiting first (rest ++ later))
              restDelimited rfl rfl
          have shifted (index : Nat) :
              index + count + 1 = index + (count + 1) := by
            omega
          simp only [shifted] at run
          refine ⟨last, runs_evaluated reads isInput ?_⟩
          rw [evaluated, if_neg notRequest, if_pos raised]
          exact run

/-! ## The words that are not passed over -/

/-- No call adds to the input. -/
theorem length_dataIn_le
    {start final : IcmpState × (Nat → NetAXISWord)}
    {written : List NetAXISWord}
    (run : Runs (icmpServerCall myIpaddr) start written final) :
    final.1.dataIn.length ≤ start.1.dataIn.length := by
  refine
    (@Runs.written_of_invariant _ _ _
      (fun state => state.1.dataIn.length ≤ start.1.dataIn.length)
      (fun _ => True) ?_ (fun _ _ _ _ => trivial) _ _ _ run
      (Nat.le_refl _)).1
  rintro ⟨⟨fsmState, prevWord, dstIp, icmpChecksum, icmpType, icmpCode,
    auxinChecksumReg, dataIn⟩, unassigned⟩ atMost
  refine Nat.le_trans ?_ atMost
  cases fsmState <;> cases dataIn <;>
    simp [icmpServerCall, drawing, icmpServer, IcmpState.registered]

/-- Where a first word is awaited, nothing happens until it is read. -/
theorem eq_of_awaits
    {start final : IcmpState × (Nat → NetAXISWord)}
    {written : List NetAXISWord}
    (run : Runs (icmpServerCall myIpaddr) start written final)
    (reads : start.1.fsmState = .readPacket)
    (same : start.1.dataIn.length ≤ final.1.dataIn.length) :
    final = start := by
  obtain ⟨state, unassigned⟩ := start
  dsimp only at reads same
  cases input : state.dataIn with
  | nil =>
      refine run.eq_of_idle ?_
      simp only [Idle, icmpServerCall, drawing, icmpServer, reads, input,
        IcmpState.evaluates]
      rfl
  | cons first later =>
      rcases run.head_cases (call_read reads input) with
        ⟨isStart, _⟩ | ⟨_, _, rest⟩
      · exact isStart
      · have atMost := length_dataIn_le rest
        rw [input, List.length_cons] at same
        change _ ≤ later.length at atMost
        omega

/-- A packet that is dropped ends behind what is read. -/
theorem not_runs_of_drops
    {final : IcmpState × (Nat → NetAXISWord)}
    {written : List NetAXISWord}
    (run :
      Runs (icmpServerCall myIpaddr) (state, unassigned) written final)
    (drops : state.fsmState = .dropPacket)
    (reads : final.1.fsmState = .readPacket)
    (same : state.dataIn.length ≤ final.1.dataIn.length) : False := by
  have notStart : final ≠ (state, unassigned) := by
    rintro rfl
    rw [drops] at reads
    cases reads
  cases input : state.dataIn with
  | nil =>
      refine notStart (run.eq_of_idle ?_)
      simp only [Idle, icmpServerCall, drawing, icmpServer, drops, input,
        IcmpState.evaluates]
      rfl
  | cons first later =>
      have called :
          (icmpServerCall myIpaddr (state, unassigned)).1.1.dataIn =
            later := by
        simp only [icmpServerCall, drawing, icmpServer, drops, input]
      have eta := @Prod.mk.eta _ _ (icmpServerCall myIpaddr
        (state, unassigned))
      rcases run.head_cases eta.symm with ⟨isStart, _⟩ | ⟨_, _, rest⟩
      · exact notStart isStart
      · have atMost := length_dataIn_le rest
        rw [called] at atMost
        rw [input, List.length_cons] at same
        omega

/-- A run that reads a first word evaluates it. -/
theorem runs_of_evaluated
    {final : IcmpState × (Nat → NetAXISWord)}
    {written : List NetAXISWord}
    (run :
      Runs (icmpServerCall myIpaddr) (state, unassigned) written final)
    (reads : state.fsmState = .readPacket)
    (isInput : state.dataIn = first :: later)
    (atEnd : final.1.fsmState = .readPacket)
    (shorter : final.1.dataIn.length < state.dataIn.length) :
    Runs (icmpServerCall myIpaddr)
      (evaluated myIpaddr (unassigned 0) first later,
        fun index => unassigned (index + 1))
      written final := by
  rcases run.head_cases (call_read reads isInput) with
    ⟨rfl, _⟩ | ⟨_, rfl, rest⟩
  · exact absurd shorter (Nat.lt_irrefl _)
  · rcases rest.head_cases call_evaluate with ⟨rfl, _⟩ | ⟨_, rfl, rest⟩
    · cases atEnd
    · exact rest

/-- A request has an answer. -/
theorem not_runs_of_request
    {curWord : NetAXISWord} {final : IcmpState × (Nat → NetAXISWord)}
    (isRequest : IsEchoRequest myIpaddr first)
    (run :
      Runs (icmpServerCall myIpaddr)
        (evaluated myIpaddr curWord first later, unassigned) [] final)
    (atEnd : final.1.fsmState = .readPacket) : False := by
  rw [evaluated, if_pos isRequest] at run
  rcases run.head_cases rfl with ⟨rfl, _⟩ | ⟨_, written, _⟩
  · cases atEnd
  · cases written

/-- Words that are read without an answer are passed over. -/
theorem passes_of_runs
    {final : IcmpState × (Nat → NetAXISWord)}
    (delimited : Delimited NetAXISWord.last words)
    (run : Runs (icmpServerCall myIpaddr) (state, unassigned) [] final)
    (reads : state.fsmState = .readPacket)
    (isInput : state.dataIn = words ++ later)
    (atEnd : final.1.fsmState = .readPacket)
    (isRest : final.1.dataIn = later) :
    ∃ count, Passes myIpaddr unassigned words count := by
  induction delimited generalizing state unassigned with
  | @final word raised =>
      have afterwards :=
        runs_of_evaluated run reads isInput atEnd
          (by rw [isRest, isInput]; simp)
      by_cases isRequest : IsEchoRequest myIpaddr word
      · exact (not_runs_of_request isRequest afterwards atEnd).elim
      · cases known : (unassigned 0).last with
        | true =>
            exact ⟨1, Passes.ended isRequest known⟩
        | false =>
            rw [evaluated, if_neg isRequest, known,
              if_neg Bool.false_ne_true] at afterwards
            exact
              (not_runs_of_drops afterwards rfl atEnd
                (by rw [isRest]; exact Nat.le_refl _)).elim
  | @more word words notRaised rest inductionHypothesis =>
      have afterwards :=
        runs_of_evaluated run reads isInput atEnd
          (by
            rw [isRest, isInput]
            simp only [List.cons_append, List.length_cons,
              List.length_append]
            omega)
      by_cases isRequest : IsEchoRequest myIpaddr word
      · exact (not_runs_of_request isRequest afterwards atEnd).elim
      · cases known : (unassigned 0).last with
        | true =>
            rw [evaluated, if_neg isRequest, known, if_pos rfl]
              at afterwards
            obtain ⟨count, passes⟩ :=
              inductionHypothesis afterwards rfl rfl
            exact
              ⟨count + 1,
                Passes.again isRequest known rest.beats_ne_nil passes⟩
        | false =>
            exact ⟨1, Passes.dropped isRequest known rest.beats_ne_nil⟩

end Calls

/-! ## Packets in turn -/

/-- Runs to the same input end in the same state. -/
theorem eq_of_same_input
    {myIpaddr : BitVec 32}
    {start first second : IcmpState × (Nat → NetAXISWord)}
    {written other : List NetAXISWord}
    (left : Runs (icmpServerCall myIpaddr) start written first)
    (right : Runs (icmpServerCall myIpaddr) start other second)
    (firstReads : first.1.fsmState = .readPacket)
    (secondReads : second.1.fsmState = .readPacket)
    (same : first.1.dataIn = second.1.dataIn) : first = second := by
  rcases left.continues right with ⟨_, rest⟩ | ⟨_, rest⟩
  · exact (eq_of_awaits rest firstReads (by rw [same])).symm
  · exact eq_of_awaits rest secondReads (by rw [same])

theorem inTurn_iff
    {myIpaddr : BitVec 32} (packets : List WordFrame)
    {state : IcmpState} {unassigned : Nat → NetAXISWord}
    (reads : state.fsmState = .readPacket)
    (isInput : state.dataIn = WordFrame.stream packets) :
    InTurn myIpaddr (state, unassigned) packets ↔
      EachPasses myIpaddr unassigned packets := by
  induction packets generalizing state unassigned with
  | nil =>
      exact iff_of_true (InTurn.nil _) trivial
  | cons packet packets inductionHypothesis =>
      rw [EachPasses]
      split
      · rename_i isRequest
        have answered :=
          @runs_answered _ _ unassigned _ packet isRequest reads isInput
        rw [← @inductionHypothesis (awaiting packet.first _) _ rfl rfl]
        constructor
        · intro inTurn
          cases inTurn with
          | cons run atEnd isRest later =>
              rw [eq_of_same_input answered run rfl atEnd isRest.symm]
              exact later
        · intro later
          refine InTurn.cons ?_ rfl rfl later
          rw [echoAnswer, if_pos isRequest]
          exact answered
      · rename_i notRequest
        have noAnswer : echoAnswer myIpaddr packet = [] :=
          if_neg notRequest
        constructor
        · intro inTurn
          cases inTurn with
          | cons run atEnd isRest later =>
              rw [noAnswer] at run
              obtain ⟨count, passes⟩ :=
                passes_of_runs packet.delimited run reads isInput atEnd
                  isRest
              obtain ⟨last, passed⟩ :=
                runs_passed passes packet.delimited reads isInput
              have same :=
                eq_of_same_input passed run rfl atEnd isRest.symm
              refine ⟨count, passes, ?_⟩
              rw [← @inductionHypothesis (awaiting last _) _ rfl rfl,
                same]
              exact later
        · rintro ⟨count, passes, later⟩
          obtain ⟨last, passed⟩ :=
            runs_passed passes packet.delimited reads isInput
          rw [← @inductionHypothesis (awaiting last _) _ rfl rfl] at later
          refine InTurn.cons ?_ rfl rfl later
          rw [noAnswer]
          exact passed

/-- The packets are treated one after the other exactly when each one that is
not an echo request is passed over with what the evaluation finds in the
unassigned `cur_word`. -/
theorem icmpServer_inTurn_iff
    (myIpaddr : BitVec 32) (registers : IcmpState)
    (unassigned : Nat → NetAXISWord) (packets : List WordFrame) :
    InTurn myIpaddr
        ({ registers with
            fsmState := .readPacket
            dataIn := WordFrame.stream packets },
          unassigned)
        packets ↔
      EachPasses myIpaddr unassigned packets :=
  inTurn_iff packets rfl rfl

/-- A word that is no echo request, as a packet of its own. -/
def strayPacket : WordFrame :=
  WordFrame.single NetAXISWord.empty

/-- An echo request without data from 0.0.0.0 to 0.0.0.0. -/
def pingWord : NetAXISWord where
  data :=
    (0 : BitVec 160) ++ (0 : BitVec 160) ++ (0xFFF70008 : BitVec 32) ++
      (0 : BitVec 64) ++ (0xE27A : BitVec 16) ++ (0x0140 : BitVec 16) ++
      (0 : BitVec 32) ++ (0x1C000045 : BitVec 32)
  dest := 0
  keep := 0xFFFFFFF
  last := true

theorem isEchoRequest_pingWord : IsEchoRequest 0 pingWord := by
  decide +kernel

/-- Where the flag is found not to be set, the echo request behind a stray
packet is dropped. -/
theorem not_icmpServer_inTurn :
    ¬ ∀ (myIpaddr : BitVec 32) (registers : IcmpState)
        (unassigned : Nat → NetAXISWord) (packets : List WordFrame),
        InTurn myIpaddr
          ({ registers with
              fsmState := .readPacket
              dataIn := WordFrame.stream packets },
            unassigned)
          packets := by
  intro all
  have inTurn :=
    all 0 (IcmpState.registered NetAXISWord.empty [])
      (fun _ => NetAXISWord.empty)
      [strayPacket, WordFrame.single pingWord]
  have notRequest : ¬ IsEchoRequest 0 strayPacket.first := by
    rintro ⟨_, isType, _⟩
    revert isType
    simp [strayPacket, WordFrame.single, NetAXISWord.empty, echoRequest]
  rw [inTurn_iff _ rfl rfl, EachPasses, if_neg notRequest] at inTurn
  obtain ⟨_, passes, _⟩ := inTurn
  cases passes with
  | ended _ raised => cases raised
  | dropped _ _ more => exact more rfl
  | again _ raised _ _ => cases raised

end TcpOffload
