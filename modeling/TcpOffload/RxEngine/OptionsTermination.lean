import TcpOffload.RxEngine.ParseOptions

/-!
# Termination of the option loop

Every call of the option loop moves on by the length byte of the option in
front of it.  The loop ends for every field of options without an option of
length 0, and only for those.
-/

namespace TcpOffload

open Clocked

namespace TcpPseudoHeaderMeta

/-- The bytes that the loop goes through; none when the record is passed on
at once. -/
def optionsLength (segMeta : TcpPseudoHeaderMeta) : Nat :=
  if segMeta.header.syn && decide (5 < segMeta.dataOffset) then
    (segMeta.dataOffset.toNat - 5) * 4
  else
    0

/-- The kinds that the loop passes over by their length byte. -/
def HasLength (kind : BitVec 8) : Prop :=
  kind ≠ 0 ∧ kind ≠ 1 ∧ kind ≠ 3

/-- The places at which an option starts. -/
inductive OptionAt (segMeta : TcpPseudoHeaderMeta) : Nat → Prop
  | first : OptionAt segMeta 0
  | nop {place : Nat} :
      OptionAt segMeta place →
      place < segMeta.optionsLength →
      segMeta.optionByte place = 1 →
      OptionAt segMeta (place + 1)
  | other {place : Nat} :
      OptionAt segMeta place →
      place < segMeta.optionsLength →
      HasLength (segMeta.optionByte place) →
      OptionAt segMeta
        (place + (segMeta.optionByte (place + 1)).toNat)

/-- No option that is passed over by its length has the length 0. -/
def NoEmptyOption (segMeta : TcpPseudoHeaderMeta) : Prop :=
  ∀ place, segMeta.OptionAt place →
    place < segMeta.optionsLength →
    HasLength (segMeta.optionByte place) →
    segMeta.optionByte (place + 1) ≠ 0

theorem optionsLength_le (segMeta : TcpPseudoHeaderMeta) :
    segMeta.optionsLength ≤ 40 := by
  have bound := segMeta.dataOffset.isLt
  rw [optionsLength]
  split
  · omega
  · exact Nat.zero_le _

/-- There is nothing behind the 40 bytes of the field. -/
theorem optionByte_of_ge
    (segMeta : TcpPseudoHeaderMeta) {index : Nat} (behind : 40 ≤ index) :
    segMeta.optionByte index = 0 := by
  apply BitVec.eq_of_getLsbD_eq
  intro bit inByte
  rw [optionByte, BitVec.getLsbD_extractLsb',
    BitVec.getLsbD_of_ge _ _ (by omega), Bool.and_false]
  exact BitVec.getLsbD_zero.symm

end TcpPseudoHeaderMeta

open TcpPseudoHeaderMeta

/-- The loop over the options is at work. -/
def ParseOptionsState.Parses (state : ParseOptionsState) : Prop :=
  state.fsmState = .parseOptions

/-- The option in front does not end the loop. -/
def ParseOptionsState.Continues (state : ParseOptionsState) : Prop :=
  state.curTcpOptionsIndex.setWidth 9 < state.tcpOptionsLength ∧
    state.tcpMetaReg.optionByte 0 ≠ 0 ∧
    state.tcpMetaReg.optionByte 0 ≠ 3

instance (state : ParseOptionsState) : Decidable state.Continues :=
  inferInstanceAs (Decidable (_ ∧ _ ∧ _))

/-- The bytes left, and one for the call that ends the loop. -/
def optionsLeft (state : ParseOptionsState) : Nat :=
  match state.fsmState with
  | .readMeta => 0
  | .parseOptions =>
      if state.Continues then
        state.tcpOptionsLength.toNat - state.curTcpOptionsIndex.toNat + 1
      else
        1

/-- Once read, the record is written at once, or the loop lowers the measure
at most 41 times and then writes the one record. -/
def OptionsTerminate (segMeta : TcpPseudoHeaderMeta) : Prop :=
  ∀ (regs : ParseOptionsState) (later : List TcpPseudoHeaderMeta),
    regs.fsmState = .readMeta →
    ∃ read written,
      rxEngParseTcpHeaderOptions
          { regs with tcpMetaDataIn := segMeta :: later } =
        (read, written) ∧
      read.tcpMetaDataIn = later ∧
      ((read.fsmState = .readMeta ∧ ∃ parsed, written = [parsed]) ∨
        written = [] ∧
          ∃ steps parsed final,
            steps ≤ 41 ∧
            LoopRun rxEngParseTcpHeaderOptions
              ParseOptionsState.Parses optionsLeft steps read [parsed]
              final ∧
            final.fsmState = .readMeta ∧
            final.tcpMetaDataIn = later)

/-! ## One call of the loop -/

section Call

variable {state : ParseOptionsState}

/-- The length by which the loop moves on. -/
def ParseOptionsState.moves (state : ParseOptionsState) : BitVec 8 :=
  if state.tcpMetaReg.optionByte 0 = 1 then
    1
  else
    state.tcpMetaReg.optionByte 1

theorem call_ends
    (parses : state.Parses) (ends : ¬ state.Continues) :
    ∃ parsed final,
      rxEngParseTcpHeaderOptions state = (final, [parsed]) ∧
      final.fsmState = .readMeta ∧
      final.tcpMetaDataIn = state.tcpMetaDataIn := by
  have condition :
      (!decide
            (state.curTcpOptionsIndex.setWidth 9 <
              state.tcpOptionsLength) ||
          state.tcpMetaReg.optionByte 0 == 0 ||
          state.tcpMetaReg.optionByte 0 == 3) = true := by
    by_contra goesOn
    apply ends
    simp only [Bool.or_eq_true, not_or, Bool.not_eq_true,
      Bool.not_eq_false', decide_eq_true_eq, beq_eq_false_iff_ne] at goesOn
    exact ⟨goesOn.1.1, goesOn.1.2, goesOn.2⟩
  rw [rxEngParseTcpHeaderOptions, parses]
  simp only [parseOptions, condition, if_true]
  refine ⟨_, _, rfl, rfl, ?_⟩
  split
  · rfl
  · rfl

theorem call_continues
    (parses : state.Parses) (continues : state.Continues) :
    rxEngParseTcpHeaderOptions state =
      ({ state with
          tcpMetaReg :=
            state.tcpMetaReg.dropOptions state.moves.toNat
          curTcpOptionsIndex := state.curTcpOptionsIndex + state.moves },
        []) := by
  obtain ⟨inside, notEnd, notScale⟩ := continues
  have noEnd : (state.tcpMetaReg.optionByte 0 == 0) = false :=
    beq_eq_false_iff_ne.2 notEnd
  have noScale : (state.tcpMetaReg.optionByte 0 == 3) = false :=
    beq_eq_false_iff_ne.2 notScale
  rw [rxEngParseTcpHeaderOptions, parses]
  simp only [parseOptions, decide_eq_true inside, noEnd, noScale,
    Bool.not_true, Bool.or_self, Bool.and_false, Bool.false_and,
    Bool.false_eq_true, if_false, if_true]
  rw [← parses]
  rfl

end Call

/-! ## The place in the field -/

/-- The loop stands in front of the option at `place`. -/
structure StandsAt
    (segMeta : TcpPseudoHeaderMeta) (later : List TcpPseudoHeaderMeta)
    (place : Nat) (state : ParseOptionsState) : Prop where
  parses : state.Parses
  optionAt : segMeta.OptionAt place
  index : state.curTcpOptionsIndex = BitVec.ofNat 8 place
  length : state.tcpOptionsLength.toNat = segMeta.optionsLength
  byte :
    ∀ index,
      state.tcpMetaReg.optionByte index =
        segMeta.optionByte (place + index)
  queue : state.tcpMetaDataIn = later

namespace StandsAt

variable {segMeta : TcpPseudoHeaderMeta}
variable {later : List TcpPseudoHeaderMeta}
variable {place : Nat} {state : ParseOptionsState}

/-- Beyond the field the first byte is 0, so an index that has wrapped around
ends the loop as well. -/
theorem continues_iff (stands : StandsAt segMeta later place state) :
    state.Continues ↔
      place < segMeta.optionsLength ∧
        segMeta.optionByte place ≠ 0 ∧ segMeta.optionByte place ≠ 3 := by
  have short := segMeta.optionsLength_le
  have index :
      (state.curTcpOptionsIndex.setWidth 9).toNat = place % 256 := by
    rw [stands.index, BitVec.toNat_setWidth, BitVec.toNat_ofNat]
    omega
  have first := stands.byte 0
  rw [Nat.add_zero] at first
  rw [ParseOptionsState.Continues, first, BitVec.lt_def, index,
    stands.length]
  constructor
  · rintro ⟨inside, notEnd, notScale⟩
    refine ⟨?_, notEnd, notScale⟩
    by_contra beyond
    have behind : 40 ≤ place := by
      omega
    exact notEnd (segMeta.optionByte_of_ge behind)
  · rintro ⟨inside, notEnd, notScale⟩
    exact ⟨by omega, notEnd, notScale⟩

theorem moves_eq (stands : StandsAt segMeta later place state) :
    state.moves =
      if segMeta.optionByte place = 1 then
        1
      else
        segMeta.optionByte (place + 1) := by
  have first := stands.byte 0
  rw [Nat.add_zero] at first
  rw [ParseOptionsState.moves, first, stands.byte 1]

/-- The next option is found behind the length of this one. -/
theorem next
    (stands : StandsAt segMeta later place state)
    (continues : state.Continues) :
    StandsAt segMeta later (place + state.moves.toNat)
      { state with
        tcpMetaReg := state.tcpMetaReg.dropOptions state.moves.toNat
        curTcpOptionsIndex :=
          state.curTcpOptionsIndex + state.moves } where
  parses := stands.parses
  optionAt := by
    obtain ⟨inside, notEnd, notScale⟩ := stands.continues_iff.1 continues
    rw [stands.moves_eq]
    by_cases nop : segMeta.optionByte place = 1
    · rw [if_pos nop]
      exact OptionAt.nop stands.optionAt inside nop
    · rw [if_neg nop]
      exact
        OptionAt.other stands.optionAt inside ⟨notEnd, nop, notScale⟩
  index := by
    apply BitVec.eq_of_toNat_eq
    rw [BitVec.toNat_add, stands.index, BitVec.toNat_ofNat,
      BitVec.toNat_ofNat]
    omega
  length := stands.length
  byte := by
    intro index
    rw [dropOptions_optionByte, stands.byte, Nat.add_assoc]
  queue := stands.queue

theorem optionsLeft_le (stands : StandsAt segMeta later place state) :
    optionsLeft state ≤ segMeta.optionsLength - place + 1 := by
  rw [optionsLeft, stands.parses]
  simp only
  split
  · rename_i continues
    have inside := (stands.continues_iff.1 continues).1
    have short := segMeta.optionsLength_le
    rw [stands.length, stands.index, BitVec.toNat_ofNat]
    omega
  · omega

theorem optionsLeft_eq
    (stands : StandsAt segMeta later place state)
    (continues : state.Continues) :
    optionsLeft state = segMeta.optionsLength - place + 1 := by
  have inside := (stands.continues_iff.1 continues).1
  have short := segMeta.optionsLength_le
  rw [optionsLeft, stands.parses]
  simp only [if_pos continues]
  rw [stands.length, stands.index, BitVec.toNat_ofNat]
  omega

end StandsAt

/-! ## The loop of one record -/

section Record

variable {segMeta : TcpPseudoHeaderMeta}
variable {later : List TcpPseudoHeaderMeta}
variable {place : Nat} {state : ParseOptionsState}

/-- Without empty options every call moves on. -/
theorem moves_pos
    (noEmpty : segMeta.NoEmptyOption)
    (stands : StandsAt segMeta later place state)
    (continues : state.Continues) : 0 < state.moves.toNat := by
  obtain ⟨inside, notEnd, notScale⟩ := stands.continues_iff.1 continues
  rw [stands.moves_eq]
  by_cases nop : segMeta.optionByte place = 1
  · rw [if_pos nop]
    decide
  · rw [if_neg nop]
    have notZero :=
      noEmpty place stands.optionAt inside ⟨notEnd, nop, notScale⟩
    have notZeroNat :
        (segMeta.optionByte (place + 1)).toNat ≠ 0 := by
      intro zero
      exact notZero (BitVec.eq_of_toNat_eq zero)
    omega

/-- The measure falls in every call. -/
theorem loop_step
    (noEmpty : segMeta.NoEmptyOption)
    (stands : ∃ place, StandsAt segMeta later place state) :
    let call := rxEngParseTcpHeaderOptions state
    optionsLeft call.1 < optionsLeft state ∧
      (call.1.Parses ∧ call.2 = [] ∧
          (∃ place, StandsAt segMeta later place call.1) ∨
        ¬ call.1.Parses ∧
          (∃ parsed, call.2 = [parsed]) ∧
          call.1.fsmState = .readMeta ∧
          call.1.tcpMetaDataIn = later) := by
  obtain ⟨place, stands⟩ := stands
  by_cases continues : state.Continues
  · have next := stands.next continues
    have moves := moves_pos noEmpty stands continues
    have before := stands.optionsLeft_eq continues
    have after := next.optionsLeft_le
    have inside := (stands.continues_iff.1 continues).1
    rw [call_continues stands.parses continues]
    refine ⟨?_, Or.inl ⟨next.parses, rfl, _, next⟩⟩
    rw [before]
    exact Nat.lt_of_le_of_lt after (by omega)
  · obtain ⟨parsed, final, called, ended, queue⟩ :=
      call_ends stands.parses continues
    have before : optionsLeft state = 1 := by
      rw [optionsLeft, stands.parses]
      simp only [if_neg continues]
    rw [called]
    refine ⟨?_, Or.inr ⟨?_, ⟨parsed, rfl⟩, ended, ?_⟩⟩
    · rw [before, optionsLeft, ended]
      exact Nat.zero_lt_one
    · rw [ParseOptionsState.Parses, ended]
      exact fun same => by cases same
    · rw [queue, stands.queue]

/-- The registers once the record has been read. -/
def readOptions
    (regs : ParseOptionsState) (segMeta : TcpPseudoHeaderMeta)
    (later : List TcpPseudoHeaderMeta) : ParseOptionsState :=
  { regs with
    fsmState := .parseOptions
    tcpMetaReg := segMeta
    tcpOptionsLength := (segMeta.dataOffset - 5).setWidth 9 * 4
    curTcpOptionsIndex := 0
    tcpMetaDataIn := later }

theorem readMeta_starts
    (starts : (segMeta.header.syn && decide (5 < segMeta.dataOffset)) = true)
    {regs : ParseOptionsState} (reads : regs.fsmState = .readMeta) :
    rxEngParseTcpHeaderOptions
        { regs with tcpMetaDataIn := segMeta :: later } =
      (readOptions regs segMeta later, []) := by
  rw [rxEngParseTcpHeaderOptions, reads]
  simp only [readMeta]
  rw [if_pos starts]
  rfl

theorem standsAt_first
    (starts : (segMeta.header.syn && decide (5 < segMeta.dataOffset)) = true)
    (regs : ParseOptionsState) :
    StandsAt segMeta later 0 (readOptions regs segMeta later) where
  parses := rfl
  optionAt := OptionAt.first
  index := rfl
  length := by
    have small := segMeta.dataOffset.isLt
    have beyond := of_decide_eq_true (Bool.and_eq_true_iff.1 starts).2
    rw [optionsLength, if_pos starts, readOptions]
    bv_omega
  byte := by
    intro index
    rw [Nat.zero_add]
    rfl
  queue := rfl

theorem terminates_of_noEmptyOption
    (noEmpty : segMeta.NoEmptyOption) : OptionsTerminate segMeta := by
  intro regs later reads
  by_cases starts :
      (segMeta.header.syn && decide (5 < segMeta.dataOffset)) = true
  · refine ⟨_, _, readMeta_starts starts reads, rfl, Or.inr ⟨rfl, ?_⟩⟩
    have stands := @standsAt_first segMeta later starts regs
    obtain ⟨steps, written, final, atMost, run, ⟨parsed, rfl⟩, ended,
      queue⟩ :=
      @exists_loopRun _ _ rxEngParseTcpHeaderOptions
        ParseOptionsState.Parses optionsLeft
        (fun state => ∃ place, StandsAt segMeta later place state)
        (fun written final =>
          (∃ parsed, written = [parsed]) ∧
            final.fsmState = .readMeta ∧ final.tcpMetaDataIn = later)
        (fun state holds _ => loop_step noEmpty holds)
        (readOptions regs segMeta later) ⟨0, stands⟩ rfl
    have atFirst := stands.optionsLeft_le
    have short := segMeta.optionsLength_le
    exact ⟨steps, parsed, final, by omega, run, ended, queue⟩
  · refine
      ⟨{ regs with
          tcpMetaReg := segMeta.clearOptions
          tcpMetaDataIn := later },
        [segMeta.clearOptions], ?_, rfl, Or.inl ⟨reads, _, rfl⟩⟩
    rw [rxEngParseTcpHeaderOptions, reads]
    simp only [readMeta]
    rw [if_neg starts, ← reads]

/-! ## Empty options -/

/-- The loop comes to every option inside the field. -/
theorem reaches_option
    (optionAt : segMeta.OptionAt place)
    (inside : place < segMeta.optionsLength)
    {start : ParseOptionsState}
    (stands : StandsAt segMeta later 0 start) :
    ∃ count state,
      calls rxEngParseTcpHeaderOptions count start = (state, []) ∧
      StandsAt segMeta later place state := by
  have passes {place : Nat} {state : ParseOptionsState} {count : Nat}
      (reached :
        calls rxEngParseTcpHeaderOptions count start = (state, []))
      (stands : StandsAt segMeta later place state)
      (continues : state.Continues) :
      ∃ count next,
        calls rxEngParseTcpHeaderOptions count start = (next, []) ∧
        StandsAt segMeta later (place + state.moves.toNat) next := by
    refine ⟨count + 1, _, ?_, stands.next continues⟩
    rw [calls_add, reached, calls_succ,
      call_continues stands.parses continues, calls_zero]
    rfl
  induction optionAt with
  | first =>
      exact ⟨0, start, rfl, stands⟩
  | @nop place _ before isNop inductionHypothesis =>
      obtain ⟨count, state, reached, standsHere⟩ :=
        inductionHypothesis before
      have continues : state.Continues :=
        standsHere.continues_iff.2
          ⟨before, by rw [isNop]; decide, by rw [isNop]; decide⟩
      have next := passes reached standsHere continues
      rwa [standsHere.moves_eq, if_pos isNop] at next
  | @other place _ before hasLength inductionHypothesis =>
      obtain ⟨count, state, reached, standsHere⟩ :=
        inductionHypothesis before
      obtain ⟨notEnd, notNop, notScale⟩ := hasLength
      have continues : state.Continues :=
        standsHere.continues_iff.2 ⟨before, notEnd, notScale⟩
      have next := passes reached standsHere continues
      rwa [standsHere.moves_eq, if_neg notNop] at next

/-- In front of an empty option nothing changes any more. -/
theorem idle_of_empty
    (stands : StandsAt segMeta later place state)
    (inside : place < segMeta.optionsLength)
    (hasLength : HasLength (segMeta.optionByte place))
    (empty : segMeta.optionByte (place + 1) = 0) :
    Idle rxEngParseTcpHeaderOptions state := by
  obtain ⟨notEnd, notNop, notScale⟩ := hasLength
  have continues : state.Continues :=
    stands.continues_iff.2 ⟨inside, notEnd, notScale⟩
  have moves : state.moves = 0 := by
    rw [stands.moves_eq, if_neg notNop, empty]
  have zero : (0 : BitVec 8).toNat = 0 := rfl
  have sameMeta : state.tcpMetaReg.dropOptions 0 = state.tcpMetaReg := by
    rw [dropOptions, Nat.zero_mul, BitVec.ushiftRight_zero]
  have sameIndex :
      state.curTcpOptionsIndex + 0 = state.curTcpOptionsIndex :=
    BitVec.add_zero _
  rw [Idle, call_continues stands.parses continues, moves, zero, sameMeta,
    sameIndex]

theorem noEmptyOption_of_terminates
    (terminates : OptionsTerminate segMeta) : segMeta.NoEmptyOption := by
  intro place optionAt inside hasLength empty
  have starts :
      (segMeta.header.syn && decide (5 < segMeta.dataOffset)) = true := by
    by_contra passedOn
    rw [optionsLength, if_neg passedOn] at inside
    exact Nat.not_lt_zero place inside
  let regs : ParseOptionsState := ⟨.readMeta, segMeta, 0, 0, []⟩
  have reads : regs.fsmState = .readMeta := rfl
  obtain ⟨read, written, called, _, ends⟩ := terminates regs [] reads
  rw [readMeta_starts starts reads, Prod.mk.injEq] at called
  obtain ⟨rfl, rfl⟩ := called
  rcases ends with
    ⟨_, parsed, one⟩ | ⟨_, steps, parsed, final, _, run, _⟩
  · cases one
  · obtain ⟨count, state, reached, stands⟩ :=
      reaches_option optionAt inside (standsAt_first starts regs)
    exact
      run.not_stuck (List.cons_ne_nil _ _) reached
        (idle_of_empty stands inside hasLength empty)

end Record

/-- The option loop of a record ends, with at most 41 calls and one record,
exactly when no option it passes over by its length has the length 0. -/
theorem optionsTerminate_iff (segMeta : TcpPseudoHeaderMeta) :
    OptionsTerminate segMeta ↔ segMeta.NoEmptyOption :=
  ⟨noEmptyOption_of_terminates, terminates_of_noEmptyOption⟩

/-- A SYN with four bytes of options, of the kind 2 and the length 0. -/
def emptyOptionSyn : TcpPseudoHeaderMeta where
  srcIp := 0
  destIp := 0
  srcPort := 0
  destPort := 0
  dataOffset := 6
  cwr := false
  ecn := false
  urg := false
  psh := false
  header := ⟨0, 0, 0, false, false, true, false, 0, 0⟩
  tcpOptions := 2

/-- Its options keep the loop at work for ever. -/
theorem not_optionsTerminate :
    ¬ ∀ segMeta : TcpPseudoHeaderMeta, OptionsTerminate segMeta := by
  intro claimed
  exact
    noEmptyOption_of_terminates (claimed emptyOptionSyn) 0
      OptionAt.first (by decide) ⟨by decide, by decide, by decide⟩
      (by decide)

end TcpOffload
