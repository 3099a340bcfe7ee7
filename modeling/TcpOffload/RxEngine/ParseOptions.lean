import TcpOffload.RxEngine.ParseHeader

/-!
# `RxEngParseTcpHeaderOptions`

The state machine of `rx_engine.cpp` that looks through the options of a SYN
for the window scale, one option a call.
-/

namespace TcpOffload

open Clocked

inductive RxParseOptionsState where
  | readMeta
  | parseOptions
deriving DecidableEq, Repr

structure ParseOptionsState where
  fsmState : RxParseOptionsState
  tcpMetaReg : TcpPseudoHeaderMeta
  tcpOptionsLength : BitVec 9
  curTcpOptionsIndex : BitVec 8
  tcpMetaDataIn : List TcpPseudoHeaderMeta
deriving DecidableEq, Repr

namespace TcpPseudoHeaderMeta

/-- A byte of `tcp_options`, the first one at the low end. -/
def optionByte (segMeta : TcpPseudoHeaderMeta) (index : Nat) : BitVec 8 :=
  segMeta.tcpOptions.extractLsb' (8 * index) 8

/-- `tcp_options` without its first bytes. -/
def dropOptions
    (segMeta : TcpPseudoHeaderMeta) (count : Nat) : TcpPseudoHeaderMeta :=
  { segMeta with tcpOptions := segMeta.tcpOptions >>> (count * 8) }

def clearOptions (segMeta : TcpPseudoHeaderMeta) : TcpPseudoHeaderMeta :=
  { segMeta with tcpOptions := 0 }

/-- The smaller one of the shift, read from four bits, and
`WINDOW_SCALE_BITS`. -/
def setWinScale
    (segMeta : TcpPseudoHeaderMeta) (shift : BitVec 8) :
    TcpPseudoHeaderMeta :=
  { segMeta with
    header :=
      { segMeta.header with
        winScale :=
          if BitVec.ofNat 4 windowScaleBits < shift.setWidth 4 then
            BitVec.ofNat 2 windowScaleBits
          else
            shift.setWidth 2 } }

end TcpPseudoHeaderMeta

/-- The case `READ_META`. -/
def readMeta
    (state : ParseOptionsState) :
    ParseOptionsState × List TcpPseudoHeaderMeta :=
  match state.tcpMetaDataIn with
  | [] => (state, [])
  | segMeta :: later =>
      if segMeta.header.syn && decide (5 < segMeta.dataOffset) then
        ({ state with
            fsmState := .parseOptions
            tcpMetaReg := segMeta
            tcpOptionsLength := (segMeta.dataOffset - 5).setWidth 9 * 4
            curTcpOptionsIndex := 0
            tcpMetaDataIn := later },
          [])
      else
        ({ state with
            tcpMetaReg := segMeta.clearOptions
            tcpMetaDataIn := later },
          [segMeta.clearOptions])

/-- The case `PARSE_OPTIONS`.  The end of the list and the window scale end
the parsing; a window scale of another length is passed over. -/
def parseOptions
    (state : ParseOptionsState) :
    ParseOptionsState × List TcpPseudoHeaderMeta :=
  let segMeta := state.tcpMetaReg
  let kind := segMeta.optionByte 0
  let length := if kind = 1 then 1 else segMeta.optionByte 1
  let inside :=
    decide (state.curTcpOptionsIndex.setWidth 9 < state.tcpOptionsLength)
  let scaled :=
    if inside && kind == 3 && length == 3 then
      segMeta.setWinScale (segMeta.optionByte 2)
    else
      segMeta
  let passed :=
    if inside then
      { state with
        tcpMetaReg := scaled.dropOptions length.toNat
        curTcpOptionsIndex := state.curTcpOptionsIndex + length }
    else
      state
  if !inside || kind == 0 || kind == 3 then
    ({ passed with
        fsmState := .readMeta
        tcpMetaReg := passed.tcpMetaReg.clearOptions },
      [passed.tcpMetaReg.clearOptions])
  else
    (passed, [])

/-- `RxEngParseTcpHeaderOptions`. -/
def rxEngParseTcpHeaderOptions
    (state : ParseOptionsState) :
    ParseOptionsState × List TcpPseudoHeaderMeta :=
  match state.fsmState with
  | .readMeta => readMeta state
  | .parseOptions => parseOptions state

/-! ## Option lists -/

/-- The options as a sender writes them. -/
inductive TcpOption where
  | endOfList
  | nop
  | windowScale (shift : BitVec 8)
  | other (kind : BitVec 8) (value : List (BitVec 8))
deriving DecidableEq, Repr

namespace TcpOption

def bytes : TcpOption → List (BitVec 8)
  | .endOfList => [0]
  | .nop => [1]
  | .windowScale shift => [3, 3, shift]
  | .other kind value =>
      kind :: BitVec.ofNat 8 (value.length + 2) :: value

/-- No shift goes beyond 14, and the kinds with a meaning of their own are
not used for anything else. -/
def WellFormed : TcpOption → Prop
  | .endOfList => True
  | .nop => True
  | .windowScale shift => shift.toNat ≤ 14
  | .other kind _ => kind ≠ 0 ∧ kind ≠ 1 ∧ kind ≠ 3

/-- The kinds with a meaning of their own are not used for anything else. -/
def KindFits : TcpOption → Prop
  | .endOfList | .nop | .windowScale _ => True
  | .other kind _ => kind ≠ 0 ∧ kind ≠ 1 ∧ kind ≠ 3

theorem WellFormed.kindFits {option : TcpOption}
    (wellFormed : option.WellFormed) : option.KindFits := by
  cases option with
  | endOfList | nop | windowScale =>
      trivial
  | other =>
      exact wellFormed

/-- The shift of the first window scale before any end of the list. -/
def announcedShift : List TcpOption → Option (BitVec 8)
  | [] => none
  | .endOfList :: _ => none
  | .nop :: later => announcedShift later
  | .windowScale shift :: _ => some shift
  | .other _ _ :: later => announcedShift later

end TcpOption

/-- The options of a SYN with a data offset of `5 + n` are `4 n` bytes. -/
structure TcpPseudoHeaderMeta.HoldsOptions
    (segMeta : TcpPseudoHeaderMeta) (options : List TcpOption) :
    Prop where
  wellFormed : ∀ option ∈ options, option.WellFormed
  length :
    (options.flatMap TcpOption.bytes).length =
      (segMeta.dataOffset.toNat - 5) * 4
  byte :
    ∀ index (inside : index < (options.flatMap TcpOption.bytes).length),
      segMeta.optionByte index =
        (options.flatMap TcpOption.bytes).get ⟨index, inside⟩

/-- The options up to the end of the field, or up to an end of the list with
any padding behind it.  Nothing is said of the shifts. -/
structure TcpPseudoHeaderMeta.ListsOptions
    (segMeta : TcpPseudoHeaderMeta) (options : List TcpOption) :
    Prop where
  kinds : ∀ option ∈ options, option.KindFits
  length :
    (options.flatMap TcpOption.bytes).length ≤
      (segMeta.dataOffset.toNat - 5) * 4
  ended :
    .endOfList ∈ options ∨
      (options.flatMap TcpOption.bytes).length =
        (segMeta.dataOffset.toNat - 5) * 4
  byte :
    ∀ index (inside : index < (options.flatMap TcpOption.bytes).length),
      segMeta.optionByte index =
        (options.flatMap TcpOption.bytes).get ⟨index, inside⟩

theorem TcpPseudoHeaderMeta.HoldsOptions.lists
    {segMeta : TcpPseudoHeaderMeta} {options : List TcpOption}
    (holds : segMeta.HoldsOptions options) :
    segMeta.ListsOptions options where
  kinds := fun option member => (holds.wellFormed option member).kindFits
  length := Nat.le_of_eq holds.length
  ended := Or.inr holds.length
  byte := holds.byte

/-! ## Runs over one list -/

namespace TcpPseudoHeaderMeta

variable (segMeta : TcpPseudoHeaderMeta)

theorem dropOptions_optionByte (count index : Nat) :
    (segMeta.dropOptions count).optionByte index =
      segMeta.optionByte (count + index) := by
  rw [optionByte, optionByte, dropOptions]
  ext bit inByte
  simp only [BitVec.getElem_extractLsb', BitVec.getLsbD_ushiftRight]
  congr 1
  omega

/-- The header once a shift was announced. -/
def withShift : Option (BitVec 8) → TcpPseudoHeaderMeta
  | none => segMeta
  | some shift => segMeta.setWinScale shift

theorem dropOptions_withShift
    (count : Nat) (shift : Option (BitVec 8)) :
    ((segMeta.dropOptions count).withShift shift).clearOptions =
      (segMeta.withShift shift).clearOptions := by
  cases shift <;> rfl

end TcpPseudoHeaderMeta

namespace ParseOptionsState

/-- The options from the current index on, and nothing behind them but the
padding after an end of the list. -/
structure Remaining
    (state : ParseOptionsState) (options : List TcpOption) : Prop where
  parses : state.fsmState = .parseOptions
  kinds : ∀ option ∈ options, option.KindFits
  length :
    state.curTcpOptionsIndex.toNat +
        (options.flatMap TcpOption.bytes).length ≤
      state.tcpOptionsLength.toNat
  ended :
    .endOfList ∈ options ∨
      state.curTcpOptionsIndex.toNat +
          (options.flatMap TcpOption.bytes).length =
        state.tcpOptionsLength.toNat
  short : state.tcpOptionsLength.toNat ≤ 40
  byte :
    ∀ index (inside : index < (options.flatMap TcpOption.bytes).length),
      state.tcpMetaReg.optionByte index =
        (options.flatMap TcpOption.bytes).get ⟨index, inside⟩

namespace Remaining

variable {state : ParseOptionsState} {option : TcpOption}
variable {later : List TcpOption}

/-- The bytes of the first option. -/
theorem firstByte
    (remaining : state.Remaining (option :: later)) (index : Nat)
    (inside : index < option.bytes.length) :
    state.tcpMetaReg.optionByte index =
      option.bytes.get ⟨index, inside⟩ := by
  have bytesOf :
      (option :: later).flatMap TcpOption.bytes =
        option.bytes ++ later.flatMap TcpOption.bytes :=
    rfl
  have insideAll :
      index < ((option :: later).flatMap TcpOption.bytes).length := by
    rw [bytesOf, List.length_append]
    omega
  rw [remaining.byte index insideAll]
  simp only [List.get_eq_getElem, bytesOf]
  exact List.getElem_append_left inside

theorem notEmpty (option : TcpOption) : 0 < option.bytes.length := by
  cases option <;> simp [TcpOption.bytes]

/-- The index stands inside the options. -/
theorem inside (remaining : state.Remaining (option :: later)) :
    state.curTcpOptionsIndex.setWidth 9 < state.tcpOptionsLength := by
  have length := remaining.length
  have first := notEmpty option
  simp only [List.flatMap_cons, List.length_append] at length
  rw [BitVec.lt_def, BitVec.toNat_setWidth]
  omega

/-- Passing over the first option. -/
theorem pass
    (remaining : state.Remaining (option :: later))
    (notEnd : option ≠ .endOfList) (length : BitVec 8)
    (ownLength : length.toNat = option.bytes.length) :
    ({ state with
        tcpMetaReg := state.tcpMetaReg.dropOptions length.toNat
        curTcpOptionsIndex :=
          state.curTcpOptionsIndex + length }).Remaining later := by
  have sum := remaining.length
  have short := remaining.short
  simp only [List.flatMap_cons, List.length_append] at sum
  have index :
      (state.curTcpOptionsIndex + length).toNat =
        state.curTcpOptionsIndex.toNat + option.bytes.length := by
    rw [BitVec.toNat_add, ownLength]
    exact Nat.mod_eq_of_lt (by omega)
  refine
    ⟨remaining.parses,
      fun other member =>
        remaining.kinds other (List.mem_cons_of_mem option member),
      ?_, ?_, short, ?_⟩
  · change
      (state.curTcpOptionsIndex + length).toNat + _ ≤
        state.tcpOptionsLength.toNat
    rw [index]
    omega
  · change
      _ ∨ (state.curTcpOptionsIndex + length).toNat + _ =
        state.tcpOptionsLength.toNat
    rw [index, Nat.add_assoc]
    have ended := remaining.ended
    rw [List.flatMap_cons, List.length_append] at ended
    rcases ended with isListed | filled
    · rcases List.mem_cons.1 isListed with isFirst | isLater
      · exact absurd isFirst.symm notEnd
      · exact Or.inl isLater
    · exact Or.inr filled
  · intro index inside
    have insideAll :
        length.toNat + index <
          ((option :: later).flatMap TcpOption.bytes).length := by
      rw [List.flatMap_cons, List.length_append]
      omega
    change (state.tcpMetaReg.dropOptions length.toNat).optionByte index = _
    rw [TcpPseudoHeaderMeta.dropOptions_optionByte,
      remaining.byte _ insideAll]
    simp only [List.get_eq_getElem, List.flatMap_cons]
    rw [List.getElem_append_right (by omega)]
    congr 1
    omega

/-- At the end of the options the record goes out. -/
theorem call_nil (remaining : state.Remaining []) :
    rxEngParseTcpHeaderOptions state =
      ({ state with
          fsmState := .readMeta
          tcpMetaReg := state.tcpMetaReg.clearOptions },
        [state.tcpMetaReg.clearOptions]) := by
  have outside :
      ¬ state.curTcpOptionsIndex.setWidth 9 < state.tcpOptionsLength := by
    have filled := remaining.ended.resolve_left List.not_mem_nil
    simp only [List.flatMap_nil, List.length_nil, Nat.add_zero] at filled
    rw [BitVec.lt_def, BitVec.toNat_setWidth]
    omega
  rw [rxEngParseTcpHeaderOptions, remaining.parses]
  simp [parseOptions, outside]

/-- A call inside the options, for the kind and the length it reads. -/
theorem call_inside
    (remaining : state.Remaining (option :: later))
    {kind length : BitVec 8}
    (isKind : state.tcpMetaReg.optionByte 0 = kind)
    (isLength :
      (if kind = 1 then 1 else state.tcpMetaReg.optionByte 1) = length) :
    rxEngParseTcpHeaderOptions state =
      if kind = 0 ∨ kind = 3 then
        ({ state with
            fsmState := .readMeta
            tcpMetaReg :=
              (if kind = 3 ∧ length = 3 then
                state.tcpMetaReg.setWinScale
                  (state.tcpMetaReg.optionByte 2)
              else
                state.tcpMetaReg).clearOptions
            curTcpOptionsIndex := state.curTcpOptionsIndex + length },
          [(if kind = 3 ∧ length = 3 then
              state.tcpMetaReg.setWinScale
                (state.tcpMetaReg.optionByte 2)
            else
              state.tcpMetaReg).clearOptions])
      else
        ({ state with
            tcpMetaReg := state.tcpMetaReg.dropOptions length.toNat
            curTcpOptionsIndex := state.curTcpOptionsIndex + length },
          []) := by
  have inside :
      decide
          (state.curTcpOptionsIndex.setWidth 9 < state.tcpOptionsLength) =
        true :=
    decide_eq_true remaining.inside
  rw [rxEngParseTcpHeaderOptions, remaining.parses]
  simp only [parseOptions, inside, isKind, isLength, Bool.true_and,
    Bool.not_true, Bool.false_or, if_true, Bool.or_eq_true,
    Bool.and_eq_true, beq_iff_eq]
  by_cases ends : kind = 0 ∨ kind = 3
  · rw [if_pos ends, if_pos ends]
    rfl
  · have notScale : ¬ (kind = 3 ∧ length = 3) :=
      fun scale => ends (Or.inr scale.1)
    rw [if_neg ends, if_neg ends, if_neg notScale, ← remaining.parses]

end Remaining

open Remaining in
/-- Parsing ends, and the record goes out with the announced shift. -/
theorem runs_options
    {options : List TcpOption} {state : ParseOptionsState}
    (remaining : state.Remaining options) :
    ∃ final,
      Runs rxEngParseTcpHeaderOptions state
          [(state.tcpMetaReg.withShift
            (TcpOption.announcedShift options)).clearOptions]
          final ∧
        final.fsmState = .readMeta ∧
        final.tcpMetaDataIn = state.tcpMetaDataIn := by
  induction options generalizing state with
  | nil =>
      exact
        ⟨_, Runs.head remaining.call_nil (Runs.refl _), rfl, rfl⟩
  | cons option later inductionHypothesis =>
      cases option with
      | endOfList =>
          have kind : state.tcpMetaReg.optionByte 0 = 0 :=
            remaining.firstByte 0 (by decide)
          have called := remaining.call_inside kind rfl
          exact ⟨_, Runs.head called (Runs.refl _), rfl, rfl⟩
      | nop =>
          have kind : state.tcpMetaReg.optionByte 0 = 1 :=
            remaining.firstByte 0 (by decide)
          have called := remaining.call_inside kind (if_pos rfl)
          obtain ⟨final, run, isRead, sameIn⟩ :=
            inductionHypothesis
              (remaining.pass TcpOption.noConfusion 1 rfl)
          rw [TcpPseudoHeaderMeta.dropOptions_withShift] at run
          exact ⟨final, Runs.silent called run, isRead, sameIn⟩
      | windowScale shift =>
          have kind : state.tcpMetaReg.optionByte 0 = 3 :=
            remaining.firstByte 0 (by simp [TcpOption.bytes])
          have length : state.tcpMetaReg.optionByte 1 = 3 :=
            remaining.firstByte 1 (by simp [TcpOption.bytes])
          have isShift : state.tcpMetaReg.optionByte 2 = shift :=
            remaining.firstByte 2 (by simp [TcpOption.bytes])
          have called := remaining.call_inside kind length
          rw [isShift] at called
          exact ⟨_, Runs.head called (Runs.refl _), rfl, rfl⟩
      | other kind value =>
          have isKind : state.tcpMetaReg.optionByte 0 = kind :=
            remaining.firstByte 0 (Nat.zero_lt_succ _)
          have isLength :
              state.tcpMetaReg.optionByte 1 =
                BitVec.ofNat 8 (value.length + 2) :=
            remaining.firstByte 1
              (Nat.succ_lt_succ (Nat.zero_lt_succ _))
          obtain ⟨notEnd, notNop, notScale⟩ :
              kind ≠ 0 ∧ kind ≠ 1 ∧ kind ≠ 3 :=
            remaining.kinds _ List.mem_cons_self
          have called :=
            remaining.call_inside isKind
              ((if_neg notNop).trans isLength)
          rw [if_neg (not_or.2 ⟨notEnd, notScale⟩)] at called
          have small : value.length + 2 < 256 := by
            have sum := remaining.length
            have short := remaining.short
            simp only [List.flatMap_cons, List.length_append,
              TcpOption.bytes, List.length_cons] at sum
            omega
          obtain ⟨final, run, isRead, sameIn⟩ :=
            inductionHypothesis
              (remaining.pass TcpOption.noConfusion
                (BitVec.ofNat 8 (value.length + 2))
                (BitVec.toNat_ofNat _ _ ▸ Nat.mod_eq_of_lt small))
          rw [TcpPseudoHeaderMeta.dropOptions_withShift] at run
          exact ⟨final, Runs.silent called run, isRead, sameIn⟩

end ParseOptionsState

/-- The record of a segment runs through the parser on its own. -/
def ParsesOptions (segMeta parsed : TcpPseudoHeaderMeta) : Prop :=
  ∃ regs final : ParseOptionsState,
    regs.fsmState = .readMeta ∧
      Yields rxEngParseTcpHeaderOptions
        { regs with tcpMetaDataIn := [segMeta] } [parsed] final

namespace TcpPseudoHeaderMeta

variable {segMeta parsed : TcpPseudoHeaderMeta}
variable {options : List TcpOption}

/-- The shift of a SYN's record: the smaller one of the announced shift and
`WINDOW_SCALE_BITS`. -/
def parsedShift (segMeta : TcpPseudoHeaderMeta) (options : List TcpOption) :
    Option (BitVec 8) :=
  if segMeta.header.syn then TcpOption.announcedShift options else none

/-- The first record is parsed whatever stands behind it. -/
theorem runs_segMeta
    (lists : segMeta.ListsOptions options) (regs : ParseOptionsState)
    (reads : regs.fsmState = .readMeta)
    (later : List TcpPseudoHeaderMeta) :
    ∃ final,
      Runs rxEngParseTcpHeaderOptions
          { regs with tcpMetaDataIn := segMeta :: later }
          [(segMeta.withShift (segMeta.parsedShift options)).clearOptions]
          final ∧
        final.fsmState = .readMeta ∧
        final.tcpMetaDataIn = later := by
  by_cases starts :
      (segMeta.header.syn && decide (5 < segMeta.dataOffset)) = true
  · have read :
        rxEngParseTcpHeaderOptions
            { regs with tcpMetaDataIn := segMeta :: later } =
          ({ regs with
              fsmState := .parseOptions
              tcpMetaReg := segMeta
              tcpOptionsLength := (segMeta.dataOffset - 5).setWidth 9 * 4
              curTcpOptionsIndex := 0
              tcpMetaDataIn := later },
            []) := by
      rw [rxEngParseTcpHeaderOptions, reads]
      simp only [readMeta]
      rw [if_pos starts]
    obtain ⟨isSyn, beyond⟩ := Bool.and_eq_true_iff.1 starts
    have beyond := of_decide_eq_true beyond
    rw [BitVec.lt_def] at beyond
    have length :
        ((segMeta.dataOffset - 5).setWidth 9 * 4).toNat =
          (segMeta.dataOffset.toNat - 5) * 4 := by
      have small := segMeta.dataOffset.isLt
      bv_omega
    have remaining :
        ({ regs with
            fsmState := .parseOptions
            tcpMetaReg := segMeta
            tcpOptionsLength := (segMeta.dataOffset - 5).setWidth 9 * 4
            curTcpOptionsIndex := 0
            tcpMetaDataIn := later } : ParseOptionsState).Remaining
          options := by
      have small := segMeta.dataOffset.isLt
      refine ⟨rfl, lists.kinds, ?_, ?_, ?_, lists.byte⟩
      · change 0 + _ ≤ _
        rw [length, Nat.zero_add]
        exact lists.length
      · change _ ∨ 0 + _ = _
        rw [length, Nat.zero_add]
        exact lists.ended
      · rw [length]
        omega
    obtain ⟨final, run, isRead, sameIn⟩ :=
      ParseOptionsState.runs_options remaining
    rw [parsedShift, if_pos isSyn]
    exact ⟨final, Runs.silent read run, isRead, sameIn⟩
  · have read :
        rxEngParseTcpHeaderOptions
            { regs with tcpMetaDataIn := segMeta :: later } =
          ({ regs with
              tcpMetaReg := segMeta.clearOptions
              tcpMetaDataIn := later },
            [segMeta.clearOptions]) := by
      rw [rxEngParseTcpHeaderOptions, reads]
      simp only [readMeta]
      rw [if_neg starts, ← reads]
    have noShift : segMeta.parsedShift options = none := by
      rw [parsedShift]
      split
      · rename_i isSyn
        rw [isSyn, Bool.true_and, decide_eq_true_iff, BitVec.lt_def]
          at starts
        have empty := lists.length
        have noBytes : (options.flatMap TcpOption.bytes).length = 0 := by
          have five : (5 : BitVec 4).toNat = 5 := rfl
          omega
        cases options with
        | nil =>
            rfl
        | cons option later =>
            have first := ParseOptionsState.Remaining.notEmpty option
            simp only [List.flatMap_cons, List.length_append] at noBytes
            omega
      · rfl
    rw [noShift]
    exact ⟨_, Runs.head read (Runs.refl _), reads, rfl⟩

/-- With no record left the machine waits. -/
theorem idle_options
    {final : ParseOptionsState} (isRead : final.fsmState = .readMeta)
    (noneIn : final.tcpMetaDataIn = []) :
    Idle rxEngParseTcpHeaderOptions final := by
  rw [Idle, rxEngParseTcpHeaderOptions, isRead]
  simp only [readMeta, noneIn]

theorem yields_options
    (holds : segMeta.HoldsOptions options) (regs : ParseOptionsState)
    (reads : regs.fsmState = .readMeta) :
    ∃ final,
      Yields rxEngParseTcpHeaderOptions
        { regs with tcpMetaDataIn := [segMeta] }
        [(segMeta.withShift (segMeta.parsedShift options)).clearOptions]
        final := by
  obtain ⟨final, run, isRead, noneIn⟩ :=
    runs_segMeta holds.lists regs reads []
  exact ⟨final, run, idle_options isRead noneIn⟩

theorem setWinScale_winScale
    (segMeta : TcpPseudoHeaderMeta) {shift : BitVec 8}
    (small : shift.toNat ≤ 14) :
    (segMeta.setWinScale shift).header.winScale.toNat =
      min shift.toNat windowScaleBits := by
  have nibble : (shift.setWidth 4).toNat = shift.toNat := by
    rw [BitVec.toNat_setWidth]
    exact Nat.mod_eq_of_lt (by omega)
  have bits : (BitVec.ofNat 4 windowScaleBits).toNat = windowScaleBits :=
    rfl
  have two : windowScaleBits = 2 := rfl
  rw [setWinScale]
  by_cases large : BitVec.ofNat 4 windowScaleBits < shift.setWidth 4
  · simp only [large, if_true]
    rw [BitVec.lt_def, nibble, bits] at large
    rw [Nat.min_eq_right (Nat.le_of_lt large)]
    rfl
  · simp only [large, if_false]
    rw [BitVec.lt_def, nibble, bits] at large
    rw [Nat.min_eq_left (by omega), BitVec.toNat_setWidth]
    exact Nat.mod_eq_of_lt (by omega)

/-- A record of well-formed options leaves with the shift they announce. -/
theorem parsesOptions
    (holds : segMeta.HoldsOptions options)
    (parses : ParsesOptions segMeta parsed) :
    parsed =
      (segMeta.withShift (segMeta.parsedShift options)).clearOptions := by
  obtain ⟨regs, final, reads, yields⟩ := parses
  obtain ⟨other, yieldsOptions⟩ := yields_options holds regs reads
  have same := (yields.unique yieldsOptions).1
  exact (List.cons.inj same).1

end TcpPseudoHeaderMeta

end TcpOffload
