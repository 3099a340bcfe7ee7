import TcpOffload.RxEngine.ParseOptions

/-!
# The window scales of a sequence of SYNs

Each SYN leaves the option parser once and in order, with the smaller one of
the shift that its options announce and `WINDOW_SCALE_BITS`.
-/

namespace TcpOffload

open Clocked

/-- The record of a SYN as `RxEngParseTcpHeader` hands it over, with the
options that stand in its field. -/
structure SynRecord where
  segMeta : TcpPseudoHeaderMeta
  options : List TcpOption
  isSyn : segMeta.header.syn = true
  lists : segMeta.ListsOptions options
  noScale : segMeta.header.winScale = 0
  shiftFits :
    ∀ shift ∈ TcpOption.announcedShift options, shift.toNat ≤ 14

namespace SynRecord

/-- The scale that this side uses for the announced shift. -/
def winScale (syn : SynRecord) : Nat :=
  match TcpOption.announcedShift syn.options with
  | none => 0
  | some shift => min windowScaleBits shift.toNat

/-- The record behind the parser. -/
def parsed (syn : SynRecord) : TcpPseudoHeaderMeta :=
  { syn.segMeta with
    header :=
      { syn.segMeta.header with
        winScale := BitVec.ofNat 2 syn.winScale }
    tcpOptions := 0 }

/-- The parser writes the scale into the record. -/
theorem withShift_eq_parsed (syn : SynRecord) :
    (syn.segMeta.withShift
        (syn.segMeta.parsedShift syn.options)).clearOptions =
      syn.parsed := by
  have shiftFits := syn.shiftFits
  rw [TcpPseudoHeaderMeta.parsedShift, if_pos syn.isSyn, parsed, winScale]
  cases announced : TcpOption.announcedShift syn.options with
  | none =>
      change
        { syn.segMeta with tcpOptions := 0 } =
          { syn.segMeta with
            header := { syn.segMeta.header with winScale := 0 }
            tcpOptions := 0 }
      rw [← syn.noScale]
  | some shift =>
      have small : shift.toNat ≤ 14 :=
        shiftFits shift (Option.mem_def.2 announced)
      have scale :=
        TcpPseudoHeaderMeta.setWinScale_winScale syn.segMeta small
      have isScale :
          (syn.segMeta.setWinScale shift).header.winScale =
            BitVec.ofNat 2 (min windowScaleBits shift.toNat) := by
        apply BitVec.eq_of_toNat_eq
        rw [scale, BitVec.toNat_ofNat, Nat.min_comm]
        have two : windowScaleBits = 2 := rfl
        exact (Nat.mod_eq_of_lt (by omega)).symm
      change
        { syn.segMeta with
          header :=
            { syn.segMeta.header with
              winScale :=
                (syn.segMeta.setWinScale shift).header.winScale }
          tcpOptions := 0 } =
          _
      rw [isScale]

/-- The parser reads its next record, and the SYNs are all that is left. -/
def Left (syns : List SynRecord) (state : ParseOptionsState) : Prop :=
  state.fsmState = .readMeta ∧
    state.tcpMetaDataIn = syns.map SynRecord.segMeta

/-- The first SYN goes through alone. -/
theorem runs_first
    (syn : SynRecord) (later : List SynRecord) (state : ParseOptionsState)
    (left : Left (syn :: later) state) :
    ∃ next,
      Runs rxEngParseTcpHeaderOptions state [syn.parsed] next ∧
        Left later next := by
  obtain ⟨reads, isLeft⟩ := left
  obtain ⟨next, run, readsNext, leftNext⟩ :=
    TcpPseudoHeaderMeta.runs_segMeta syn.lists state reads
      (later.map SynRecord.segMeta)
  rw [← List.map_cons, ← isLeft, syn.withShift_eq_parsed] at run
  exact ⟨next, run, readsNext, leftNext⟩

end SynRecord

/-- A sequence of SYNs leaves the parser with every record once, in order and
with its window scale. -/
theorem rxEngParseTcpHeaderOptions_syns
    (regs : ParseOptionsState) (reads : regs.fsmState = .readMeta)
    (syns : List SynRecord) :
    ∃ final,
      Yields rxEngParseTcpHeaderOptions
        { regs with tcpMetaDataIn := syns.map SynRecord.segMeta }
        (syns.map SynRecord.parsed) final := by
  have outputs :
      syns.map SynRecord.parsed =
        syns.flatMap fun syn => [syn.parsed] :=
    List.map_eq_flatMap
  rw [outputs]
  refine yields_items SynRecord.runs_first ?_ syns ⟨reads, rfl⟩
  intro state left
  exact TcpPseudoHeaderMeta.idle_options left.1 left.2

/-- The record of a SYN from port 0 to port 0. -/
def synRecordOf
    (dataOffset : BitVec 4) (tcpOptions : BitVec 320) :
    TcpPseudoHeaderMeta where
  srcIp := 0
  destIp := 0
  srcPort := 0
  destPort := 0
  dataOffset := dataOffset
  cwr := false
  ecn := false
  urg := false
  psh := false
  header := ⟨0, 0, 0xFFFF, false, false, true, false, 0, 0⟩
  tcpOptions := tcpOptions

/-- A shift of 1 in the last 3 of 40 bytes, behind an option of 37 bytes. -/
def fullOptionsSyn : SynRecord where
  segMeta :=
    synRecordOf 15
      ((0x010303 : BitVec 24) ++ (0 : BitVec 280) ++ (0x2505 : BitVec 16))
  options := [.other 5 (List.replicate 35 0), .windowScale 1]
  isSyn := rfl
  lists :=
    { kinds := by
        intro option member
        rcases List.mem_cons.1 member with isFirst | isLater
        · rw [isFirst]
          exact ⟨by decide, by decide, by decide⟩
        · rw [List.mem_singleton.1 isLater]
          trivial
      length := by decide
      ended := Or.inr (by decide)
      byte := by decide +kernel }
  noScale := rfl
  shiftFits := by decide

/-- An end of the list before a shift, with an odd byte behind. -/
def endedOptionsSyn : SynRecord where
  segMeta := synRecordOf 7 0x7F07030300020401
  options := [.nop, .other 4 [], .endOfList]
  isSyn := rfl
  lists :=
    { kinds := by
        intro option member
        rcases List.mem_cons.1 member with isFirst | isLater
        · rw [isFirst]
          trivial
        · rcases List.mem_cons.1 isLater with isSecond | isThird
          · rw [isSecond]
            exact ⟨by decide, by decide, by decide⟩
          · rw [List.mem_singleton.1 isThird]
            trivial
      length := by decide
      ended := Or.inl (by decide)
      byte := by decide +kernel }
  noScale := rfl
  shiftFits := by decide

theorem rxEngParseTcpHeaderOptions_two_syns :
    ∃ final,
      Yields rxEngParseTcpHeaderOptions
        ⟨.readMeta, synRecordOf 5 0, 0, 0,
          [fullOptionsSyn.segMeta, endedOptionsSyn.segMeta]⟩
        [fullOptionsSyn.parsed, endedOptionsSyn.parsed] final :=
  rxEngParseTcpHeaderOptions_syns ⟨.readMeta, synRecordOf 5 0, 0, 0, []⟩
    rfl [fullOptionsSyn, endedOptionsSyn]

end TcpOffload
