import TcpOffload.RxEngine.ReceiveRing

/-!
# The advertised window

`rx_sar_table` hands the TX engine the free space of a session, shifted and
cut to the header field; `RxEngTcpFsm` compares the free space itself with
the payload length.
-/

namespace TcpOffload

open Clocked

/-- The bytes that `win_size` stands for in the header of a segment. -/
def RxSarTableEntry.advertised (entry : RxSarTableEntry) : Nat :=
  entry.txEngRead.winSize.toNat <<< entry.winShift.toNat

/-- The window field is the free space, shifted and cut. -/
theorem RxSarTableEntry.txEngRead_winSize_toNat
    (entry : RxSarTableEntry) :
    entry.txEngRead.winSize.toNat =
      entry.freeSpace.toNat / 2 ^ entry.winShift.toNat % 2 ^ 16 := by
  change
    (BitVec.setWidth 16
        (entry.freeSpace >>> entry.winShift.toNat)).toNat = _
  rw [BitVec.toNat_setWidth, BitVec.toNat_ushiftRight,
    Nat.shiftRight_eq_div_pow]

/-- Neither the shift nor the cut adds to the free space. -/
theorem RxSarTableEntry.advertised_le (entry : RxSarTableEntry) :
    entry.advertised ≤ entry.freeSpace.toNat := by
  have cut :
      entry.txEngRead.winSize.toNat ≤
        entry.freeSpace.toNat / 2 ^ entry.winShift.toNat := by
    rw [entry.txEngRead_winSize_toNat]
    exact Nat.mod_le _ _
  calc
    entry.advertised =
        entry.txEngRead.winSize.toNat * 2 ^ entry.winShift.toNat :=
      Nat.shiftLeft_eq _ _
    _ ≤ entry.freeSpace.toNat / 2 ^ entry.winShift.toNat *
          2 ^ entry.winShift.toNat :=
      Nat.mul_le_mul_right _ cut
    _ ≤ entry.freeSpace.toNat :=
      Nat.div_mul_le_self _ _

/-- The payload is written to memory and not dropped. -/
def TakesPayload (arrival : RxArrival) (msgs : List RxEngMsg) : Prop :=
  arrival.segment.header.payloadLength ≠ 0 →
    (rxWrites msgs).memCmds = [arrival.segment.payloadCmd] ∧
      (rxWrites msgs).decisions = [false]

/-- The payload fills a free space that is advertised to the last byte. -/
def RxArrival.FillsAdvertised (arrival : RxArrival) : Prop :=
  arrival.segment.header.payloadLength ≠ 0 ∧
    arrival.segment.header.payloadLength.toNat =
      arrival.rxSar.advertised ∧
    arrival.rxSar.advertised = arrival.rxSar.freeSpace.toNat

instance (arrival : RxArrival) : Decidable arrival.FillsAdvertised :=
  inferInstanceAs (Decidable (_ ∧ _ ∧ _))

/-- In-order data with an acceptable acknowledgement on an established
session. -/
structure RxArrival.InOrderData (arrival : RxArrival) : Prop where
  established : arrival.sessionState = .established
  isAck : arrival.segment.header.ctrlBits = 1
  inside :
    arrival.txSar.acceptsAck arrival.segment.header.ackNumber = true
  inOrder :
    arrival.segment.header.seqNumber = arrival.rxSar.recvd

/-- Such data is taken exactly when it is less than the free space. -/
theorem takesPayload_iff
    (regs : RxEngState) {arrival : RxArrival}
    (data : arrival.InOrderData)
    (some : arrival.segment.header.payloadLength ≠ 0) :
    TakesPayload arrival
        (rxLookups arrival.segment ++
          (rxEngHandle (regs.answered arrival)).2) ↔
      arrival.segment.header.payloadLength.toNat <
        arrival.rxSar.freeSpace.toNat := by
  have accepts :
      arrival.rxSar.acceptsPayload arrival.segment.header = true ↔
        arrival.segment.header.payloadLength.toNat <
          arrival.rxSar.freeSpace.toNat := by
    rw [RxSarTableEntry.acceptsPayload, Bool.and_eq_true, beq_iff_eq,
      decide_eq_true_iff, BitVec.lt_def, payloadLength_toNat]
    exact and_iff_right data.inOrder
  have takesAck : arrival.sessionState.takesAck = true := by
    rw [data.established]
    rfl
  have sameAnswer :
      (regs.answered arrival).txSarReg = arrival.txSar :=
    regs.answered_txSarReg (Or.inl data.isAck)
  have exit := rxEngHandle_exit (regs.answered arrival)
  rw [TakesPayload, rxWrites_append, rxWrites_rxLookups]
  generalize
    rxWrites (rxEngHandle (regs.answered arrival)).2 = writes at exit ⊢
  have notAck (other : (regs.answered arrival).rxEngCtrlBits ≠ 1) :
      False :=
    other data.isAck
  cases exit with
  | ackOutside _ _ outside =>
      rw [sameAnswer] at outside
      exact absurd (outside.symm.trans data.inside) Bool.false_ne_true
  | ackInside _ _ _ _ none =>
      exact absurd none some
  | ackDropped _ _ _ _ _ rejects =>
      refine iff_of_false (fun takes => ?_) (fun fits => ?_)
      · have noCmd := (takes some).1
        cases noCmd
      · exact
          absurd ((accepts.2 fits).symm.trans rejects) (by decide)
  | ackTaken _ _ _ _ _ takes =>
      exact iff_of_true (fun _ => ⟨rfl, rfl⟩) (accepts.1 takes)
  | ackRefused _ refuses =>
      exact absurd (refuses.symm.trans takesAck) Bool.false_ne_true
  | synTaken isSyn =>
      exact absurd (by rw [isSyn]; decide) notAck
  | synAckTaken isSynAck =>
      exact absurd (by rw [isSynAck]; decide) notAck
  | finTaken isFin | finRefused isFin =>
      exact absurd (by rw [isFin]; decide) notAck
  | releases isNotAck =>
      exact absurd isNotAck notAck

/-- For every entry, in-order data within the advertised window is taken
unless it fills the free space to the last byte. -/
theorem advertised_is_taken_iff
    (regs : RxEngState) (arrival : RxArrival)
    (data : arrival.InOrderData) :
    (∃ msgs final,
        HandlesSegment regs arrival msgs final ∧
        (arrival.segment.header.payloadLength.toNat ≤
            arrival.rxSar.advertised →
          TakesPayload arrival msgs)) ↔
      ¬ arrival.FillsAdvertised := by
  have handles := handlesSegment regs arrival
  have bound := arrival.rxSar.advertised_le
  constructor
  · rintro ⟨msgs, final, otherHandles, taken⟩ ⟨some, fills, whole⟩
    rw [(otherHandles.unique handles).1] at taken
    have takes := taken (Nat.le_of_eq fills)
    have fits := (takesPayload_iff regs data some).1 takes
    omega
  · intro notFills
    refine ⟨_, _, handles, fun within some => ?_⟩
    refine (takesPayload_iff regs data some).2 ?_ some
    by_contra tooLong
    exact notFills ⟨some, by omega, by omega⟩

/-- In-order data for an unscaled ring with 100 bytes free. -/
def tightData (payloadLength : BitVec 16) : RxArrival where
  segment :=
    ⟨0, 0, 0,
      ⟨7000, 1500, 0xFFFF, true, false, false, false, 0, payloadLength⟩⟩
  sessionState := .established
  rxSar := ⟨7000, 7101, 0⟩
  txSar := ⟨1000, 2000, 14600, 0x3FFFF, 0, false, 2⟩

theorem tightData_inOrder (payloadLength : BitVec 16) :
    (tightData payloadLength).InOrderData where
  established := rfl
  isAck := by
    change
      BitVec.ofBool false ++ BitVec.ofBool false ++ BitVec.ofBool false ++
          BitVec.ofBool true =
        (1 : BitVec 4)
    decide
  inside := rfl
  inOrder := rfl

theorem advertised_is_taken_of_99 :
    ∃ msgs final,
      HandlesSegment RxEngState.start (tightData 99) msgs final ∧
      ((tightData 99).segment.header.payloadLength.toNat ≤
          (tightData 99).rxSar.advertised →
        TakesPayload (tightData 99) msgs) :=
  (advertised_is_taken_iff RxEngState.start (tightData 99)
    (tightData_inOrder 99)).2 (by decide)

/-- 100 bytes are advertised, and 100 bytes are dropped. -/
theorem not_advertised_is_taken_100 :
    (tightData 100).rxSar.advertised = 100 ∧
    ¬ ∃ msgs final,
      HandlesSegment RxEngState.start (tightData 100) msgs final ∧
      ((tightData 100).segment.header.payloadLength.toNat ≤
          (tightData 100).rxSar.advertised →
        TakesPayload (tightData 100) msgs) := by
  refine ⟨rfl, ?_⟩
  rintro ⟨msgs, final, handles, taken⟩
  have same :=
    handles.unique (handlesSegment RxEngState.start (tightData 100))
  have takes := taken (by decide)
  rw [same.1] at takes
  have fits :=
    (takesPayload_iff RxEngState.start (tightData_inOrder 100)
      (by decide)).1 takes
  exact absurd fits (by decide)

end TcpOffload
