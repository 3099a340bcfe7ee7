import TcpOffload.Library.RingSegment
import TcpOffload.MemoryAccess

/-!
# DataMover commands of a session access

One internal command turns into the DataMover commands `splitCommands`: one
for an access that stays inside the session's ring and two for one that
reaches its end.  For a session access they transfer exactly the accessed
bytes of the ring; the second of two commands is empty when the access ends
at the end of the ring.
-/

namespace TcpOffload

/-! ## Addresses -/

/-- The address of the first byte of a session's ring. -/
def sessionRing (direction : RingDirection) (id : Nat) : Nat :=
  tcpDdrBaseAddr +
    (match direction with
      | .rx => 0
      | .tx => 2 ^ 31) +
    id * bufferSize

namespace DataMoverCmd

theorem ofAddr_saddr_toNat (addr : BitVec 32) (length : BitVec 23) :
    (ofAddr addr length).saddr.toNat = addr.toNat + tcpDdrBaseAddr := by
  have addrBound := addr.isLt
  have address :
      (ofAddr addr length).saddr =
        addr.setWidth 40 + BitVec.ofNat 40 tcpDdrBaseAddr :=
    rfl
  rw [address, BitVec.toNat_add, BitVec.toNat_setWidth,
    BitVec.toNat_ofNat, tcpDdrBaseAddr_eq]
  omega

theorem ofAddr_saddr (addr : BitVec 32) (length : BitVec 23) :
    (ofAddr addr length).saddr = (0x48 : BitVec 8) ++ addr := by
  have addrBound := addr.isLt
  have top : (0x48 : BitVec 8).toNat = 0x48 := by
    decide
  apply BitVec.eq_of_toNat_eq
  rw [ofAddr_saddr_toNat, BitVec.toNat_append,
    ← Nat.shiftLeft_add_eq_or_of_lt addrBound, Nat.shiftLeft_eq, top,
    tcpDdrBaseAddr_eq]
  omega

end DataMoverCmd

/-- `address` belongs to the ring of this direction and session. -/
def InSessionRing
    (direction : RingDirection) (id address : Nat) : Prop :=
  sessionRing direction id ≤ address ∧
    address < sessionRing direction id + bufferSize

instance (direction : RingDirection) (id address : Nat) :
    Decidable (InSessionRing direction id address) :=
  inferInstanceAs (Decidable (_ ∧ _))

/-- The rings of different sessions and directions are disjoint. -/
theorem sessionRing_disjoint
    {direction other : RingDirection} {id otherId address : Nat}
    (idBound : id < 2 ^ 13) (otherBound : otherId < 2 ^ 13)
    (here : InSessionRing direction id address)
    (there : InSessionRing other otherId address) :
    direction = other ∧ id = otherId := by
  simp only [InSessionRing, sessionRing, bufferSize_eq] at here there
  cases direction <;> cases other <;>
    simp only [reduceCtorEq, true_and, false_and] at here there ⊢ <;>
    omega

theorem getSessionMemAddr_toNat
    (direction : RingDirection) {id : TcpSessionID}
    (offset : TcpSessionBuffer) (idBound : id.toNat < 2 ^ 13) :
    (getSessionMemAddr direction id offset).toNat + tcpDdrBaseAddr =
      sessionRing direction id.toNat + offset.toNat := by
  have offsetBound := offset.isLt
  have idLow : (id.setWidth 13).toNat = id.toNat := by
    simp only [BitVec.toNat_setWidth]
    omega
  have idLt := (id.setWidth 13).isLt
  simp only [getSessionMemAddr, BitVec.toNat_append, tcpRxDdrBypass]
  rw [← Nat.shiftLeft_add_eq_or_of_lt idLt,
    ← Nat.shiftLeft_add_eq_or_of_lt offsetBound]
  cases direction <;>
    simp [Nat.shiftLeft_eq, idLow, sessionRing] <;>
    omega

theorem getSessionMemAddr_offset
    (direction : RingDirection) (id : TcpSessionID)
    (offset : TcpSessionBuffer) :
    (getSessionMemAddr direction id offset).setWidth 18 = offset := by
  exact BitVec.setWidth_append_eq_right

theorem MemBufferRWCmd.overflows_ofAddr
    (addr : BitVec 32) (length : BitVec 16) :
    (ofAddr addr length).overflows =
      decide (bufferSize ≤ (addr.setWidth 18).toNat + length.toNat) := by
  have offsetBound := (addr.setWidth 18).isLt
  have lengthBound := length.isLt
  have topBit :=
    BitVec.msb_eq_getLsbD_last (ofAddr addr length).nextAddr
  have topBitValue :=
    BitVec.msb_eq_decide (ofAddr addr length).nextAddr
  rw [overflows]
  change (ofAddr addr length).nextAddr.getLsbD (19 - 1) = _
  rw [← topBit, topBitValue]
  simp only [ofAddr, BitVec.toNat_add, BitVec.toNat_setWidth] at *
  congr 1
  simp only [bufferSize_eq]
  apply propext
  omega

/-! ## The commands of one access -/

namespace MemBufferRWCmd

/-- The bytes left from the start of the access to the end of the ring. -/
def firstBlock (cmd : MemBufferRWCmd) : Nat :=
  bufferSize - cmd.offset.toNat

def firstCommand (cmd : MemBufferRWCmd) : DataMoverCmd :=
  DataMoverCmd.ofAddr cmd.addr (BitVec.ofNat 23 cmd.firstBlock)

def secondCommand (cmd : MemBufferRWCmd) : DataMoverCmd :=
  DataMoverCmd.ofAddr
    (cmd.addr.extractLsb' 18 14 ++ (0 : BitVec 18))
    (BitVec.ofNat 23 (cmd.length.toNat - cmd.firstBlock))

def wholeCommand (cmd : MemBufferRWCmd) : DataMoverCmd :=
  DataMoverCmd.ofAddr cmd.addr (cmd.length.setWidth 23)

/-- The DataMover commands for one internal command. -/
def splitCommands (cmd : MemBufferRWCmd) : List DataMoverCmd :=
  if cmd.overflows then
    [cmd.firstCommand, cmd.secondCommand]
  else
    [cmd.wholeCommand]

theorem overflows_iff
    (addr : BitVec 32) (length : BitVec 16) :
    (ofAddr addr length).overflows = true ↔
      (ofAddr addr length).firstBlock ≤ length.toNat := by
  have offsetBound := (addr.setWidth 18).isLt
  rw [overflows_ofAddr, decide_eq_true_eq]
  simp only [firstBlock, offset, ofAddr, bufferSize_eq]
  omega

theorem firstBlock_pos (cmd : MemBufferRWCmd) : 0 < cmd.firstBlock := by
  have offsetBound := cmd.offset.isLt
  simp only [firstBlock, bufferSize_eq]
  omega

theorem firstBlock_le (cmd : MemBufferRWCmd) :
    cmd.firstBlock ≤ bufferSize :=
  Nat.sub_le _ _

/-- The width-narrowing subtraction of the splitters. -/
theorem bufferSize_sub_offset (cmd : MemBufferRWCmd) (width : Nat) :
    (BitVec.ofNat 32 bufferSize - cmd.offset.setWidth 32).setWidth width =
      BitVec.ofNat width cmd.firstBlock := by
  have offsetBound := cmd.offset.isLt
  have wide :
      (BitVec.ofNat 32 bufferSize - cmd.offset.setWidth 32).toNat =
        cmd.firstBlock := by
    rw [BitVec.toNat_sub_of_le]
    · simp only [BitVec.toNat_ofNat, BitVec.toNat_setWidth, firstBlock,
        bufferSize_eq]
      omega
    · rw [BitVec.le_def, BitVec.toNat_ofNat, BitVec.toNat_setWidth,
        bufferSize_eq]
      omega
  apply BitVec.eq_of_toNat_eq
  rw [BitVec.toNat_setWidth, BitVec.toNat_ofNat, wide]

theorem secondBlock_length
    (cmd : MemBufferRWCmd) (fits : cmd.firstBlock ≤ cmd.length.toNat) :
    cmd.length.setWidth 23 - BitVec.ofNat 23 cmd.firstBlock =
      BitVec.ofNat 23 (cmd.length.toNat - cmd.firstBlock) := by
  have lengthBound := cmd.length.isLt
  apply BitVec.eq_of_toNat_eq
  simp only [BitVec.toNat_sub, BitVec.toNat_setWidth, BitVec.toNat_ofNat]
  omega

end MemBufferRWCmd

/-! ## The commands of a session access -/

/-- The internal command for `length` bytes at `offset` of a session's
ring. -/
def sessionCmd
    (direction : RingDirection) (id : TcpSessionID)
    (offset : TcpSessionBuffer) (length : BitVec 16) : MemBufferRWCmd :=
  MemBufferRWCmd.ofAddr (getSessionMemAddr direction id offset) length

/-- The addresses an access of a session's ring is about, in order. -/
def sessionAddresses
    (direction : RingDirection) (id offset length : Nat) : List Nat :=
  (RingSegment.segment bufferSize offset length).map
    (sessionRing direction id + ·)

theorem sessionCmd_offset
    (direction : RingDirection) (id : TcpSessionID)
    (offset : TcpSessionBuffer) (length : BitVec 16) :
    (sessionCmd direction id offset length).offset = offset :=
  getSessionMemAddr_offset direction id offset

theorem sessionCmd_overflows
    (direction : RingDirection) (id : TcpSessionID)
    (offset : TcpSessionBuffer) (length : BitVec 16) :
    (sessionCmd direction id offset length).overflows = true ↔
      bufferSize ≤ offset.toNat + length.toNat := by
  rw [sessionCmd, MemBufferRWCmd.overflows_ofAddr,
    getSessionMemAddr_offset, decide_eq_true_eq]

theorem sessionCmd_fits
    (direction : RingDirection) (id : TcpSessionID)
    (offset : TcpSessionBuffer) (length : BitVec 16)
    (overflows :
      (sessionCmd direction id offset length).overflows = true) :
    (sessionCmd direction id offset length).firstBlock ≤
      (sessionCmd direction id offset length).length.toNat :=
  (MemBufferRWCmd.overflows_iff _ _).1 overflows

theorem DataMoverCmd.addresses_ofAddr
    (addr : BitVec 32) {length : Nat} (short : length < 2 ^ 23) :
    (ofAddr addr (BitVec.ofNat 23 length)).addresses =
      (List.range length).map (addr.toNat + tcpDdrBaseAddr + ·) := by
  rw [addresses, ofAddr_saddr_toNat]
  have transferred :
      (ofAddr addr (BitVec.ofNat 23 length)).bbt.toNat = length := by
    change (BitVec.ofNat 23 length).toNat = length
    rw [BitVec.toNat_ofNat]
    exact Nat.mod_eq_of_lt short
  rw [transferred]

section SessionCommands

variable (direction : RingDirection) {id : TcpSessionID}
variable (offset : TcpSessionBuffer) (length : BitVec 16)

theorem firstBlock_sessionCmd :
    (sessionCmd direction id offset length).firstBlock =
      bufferSize - offset.toNat := by
  rw [MemBufferRWCmd.firstBlock, sessionCmd_offset]

theorem wholeCommand_addresses (idBound : id.toNat < 2 ^ 13) :
    (sessionCmd direction id offset length).wholeCommand.addresses =
      (List.range length.toNat).map
        (sessionRing direction id.toNat + offset.toNat + ·) := by
  have lengthBound := length.isLt
  have start := getSessionMemAddr_toNat direction offset idBound
  have width : length.setWidth 23 = BitVec.ofNat 23 length.toNat :=
    BitVec.eq_of_toNat_eq (by simp)
  change (DataMoverCmd.ofAddr (getSessionMemAddr direction id offset)
    (length.setWidth 23)).addresses = _
  rw [width, DataMoverCmd.addresses_ofAddr _ (by omega), start]

theorem firstCommand_addresses (idBound : id.toNat < 2 ^ 13) :
    (sessionCmd direction id offset length).firstCommand.addresses =
      (List.range (bufferSize - offset.toNat)).map
        (sessionRing direction id.toNat + offset.toNat + ·) := by
  have start := getSessionMemAddr_toNat direction offset idBound
  have blockBound :
      (sessionCmd direction id offset length).firstBlock < 2 ^ 23 :=
    Nat.lt_of_le_of_lt (MemBufferRWCmd.firstBlock_le _) (by decide)
  rw [MemBufferRWCmd.firstCommand,
    DataMoverCmd.addresses_ofAddr _ blockBound, firstBlock_sessionCmd]
  change (List.range _).map
    ((getSessionMemAddr direction id offset).toNat + tcpDdrBaseAddr + ·) =
      _
  rw [start]

/-- Clearing the pointer bits of a ring address leaves the ring's base. -/
theorem getSessionMemAddr_base :
    (getSessionMemAddr direction id offset).extractLsb' 18 14 ++
        (0 : BitVec 18) =
      getSessionMemAddr direction id 0 := by
  simp only [getSessionMemAddr, BitVec.extractLsb'_append_eq_left]

theorem secondCommand_addresses (idBound : id.toNat < 2 ^ 13) :
    (sessionCmd direction id offset length).secondCommand.addresses =
      (List.range (length.toNat - (bufferSize - offset.toNat))).map
        (sessionRing direction id.toNat + ·) := by
  have lengthBound := length.isLt
  have start := getSessionMemAddr_toNat direction 0 idBound
  have base := @getSessionMemAddr_base direction id offset
  rw [MemBufferRWCmd.secondCommand, firstBlock_sessionCmd]
  change (DataMoverCmd.ofAddr
    ((getSessionMemAddr direction id offset).extractLsb' 18 14 ++
      (0 : BitVec 18))
    (BitVec.ofNat 23
      (length.toNat - (bufferSize - offset.toNat)))).addresses = _
  rw [base, DataMoverCmd.addresses_ofAddr _ (by omega), start,
    show (0 : BitVec 18).toNat = 0 from rfl, Nat.add_zero]

/-- The commands transfer exactly the accessed part of the ring, in order. -/
theorem splitCommands_addresses (idBound : id.toNat < 2 ^ 13) :
    (sessionCmd direction id offset length).splitCommands.flatMap
        DataMoverCmd.addresses =
      sessionAddresses direction id.toNat offset.toNat length.toNat := by
  have offsetBound := offset.isLt
  have lengthBound := length.isLt
  by_cases overflows :
      (sessionCmd direction id offset length).overflows = true
  · have reaches :=
      (sessionCmd_overflows direction id offset length).1 overflows
    rw [MemBufferRWCmd.splitCommands, if_pos overflows, sessionAddresses,
      RingSegment.segment_of_reaches_end]
    · simp only [List.flatMap_cons, List.flatMap_nil, List.append_nil,
        firstCommand_addresses direction offset length idBound,
        secondCommand_addresses direction offset length idBound,
        List.map_append, List.map_map, Function.comp_def, Nat.add_assoc]
    · rw [bufferSize_eq]
      omega
    · omega
    · rw [bufferSize_eq]
      omega
  · have inside : offset.toNat + length.toNat ≤ bufferSize := by
      rw [sessionCmd_overflows] at overflows
      omega
    rw [MemBufferRWCmd.splitCommands, if_neg overflows, sessionAddresses,
      RingSegment.segment_of_le inside]
    simp only [List.flatMap_cons, List.flatMap_nil, List.append_nil,
      wholeCommand_addresses direction offset length idBound,
      List.map_map, Function.comp_def, Nat.add_assoc]

end SessionCommands

/-- The commands of the two splitters for one access are as they should be:
the same one or two commands, none of them empty, inside the session's own
ring, and together covering the accessed bytes once each. -/
structure CommandsExact
    (direction : RingDirection) (id offset length : Nat)
    (reads writes : List DataMoverCmd) : Prop where
  identical : reads = writes
  oneOrTwo : reads.length = 1 ∨ reads.length = 2
  nonempty : ∀ cmd ∈ reads, 1 ≤ cmd.bbt.toNat
  inRing :
    ∀ cmd ∈ reads, ∀ address ∈ cmd.addresses,
      InSessionRing direction id address
  ownRing :
    ∀ cmd ∈ reads, ∀ address ∈ cmd.addresses,
      ∀ other otherId,
        otherId < 2 ^ 13 →
        InSessionRing other otherId address →
        other = direction ∧ otherId = id
  covers :
    reads.flatMap DataMoverCmd.addresses =
      sessionAddresses direction id offset length
  once : (reads.flatMap DataMoverCmd.addresses).Nodup

theorem inSessionRing_of_mem
    {direction : RingDirection} {id offset length address : Nat}
    (member : address ∈ sessionAddresses direction id offset length) :
    InSessionRing direction id address := by
  obtain ⟨position, inSegment, rfl⟩ := List.mem_map.1 member
  have bound :=
    RingSegment.lt_of_mem_segment (by decide : 0 < bufferSize) inSegment
  exact ⟨Nat.le_add_right _ _, Nat.add_lt_add_left bound _⟩

theorem nodup_sessionAddresses
    (direction : RingDirection) (id offset : Nat) {length : Nat}
    (fits : length ≤ bufferSize) :
    (sessionAddresses direction id offset length).Nodup :=
  (RingSegment.nodup_segment fits).map (fun _ _ => Nat.add_left_cancel)

section Exactness

variable {direction : RingDirection} {id : TcpSessionID}
variable {offset : TcpSessionBuffer} {length : BitVec 16}

/-- Only the second command can be empty, and only at the boundary. -/
theorem splitCommands_nonempty_iff (someBytes : length ≠ 0) :
    (∀ cmd ∈ (sessionCmd direction id offset length).splitCommands,
        1 ≤ cmd.bbt.toNat) ↔
      offset.toNat + length.toNat ≠ bufferSize := by
  have offsetBound := offset.isLt
  have lengthBound := length.isLt
  have lengthPositive : 0 < length.toNat := by
    refine Nat.pos_of_ne_zero fun zero => someBytes ?_
    exact BitVec.eq_of_toNat_eq zero
  by_cases overflows :
      (sessionCmd direction id offset length).overflows = true
  · have reaches :=
      (sessionCmd_overflows direction id offset length).1 overflows
    have firstBytes :
        (sessionCmd direction id offset length).firstCommand.bbt.toNat =
          bufferSize - offset.toNat := by
      change (BitVec.ofNat 23
        (sessionCmd direction id offset length).firstBlock).toNat = _
      rw [firstBlock_sessionCmd, BitVec.toNat_ofNat, bufferSize_eq]
      omega
    have secondBytes :
        (sessionCmd direction id offset length).secondCommand.bbt.toNat =
          length.toNat - (bufferSize - offset.toNat) := by
      change (BitVec.ofNat 23 (length.toNat -
        (sessionCmd direction id offset length).firstBlock)).toNat = _
      rw [firstBlock_sessionCmd, BitVec.toNat_ofNat, bufferSize_eq]
      omega
    rw [MemBufferRWCmd.splitCommands, if_pos overflows]
    simp only [List.mem_cons, List.not_mem_nil, or_false, forall_eq_or_imp,
      forall_eq, firstBytes, secondBytes, bufferSize_eq] at reaches ⊢
    omega
  · have wholeBytes :
        (sessionCmd direction id offset length).wholeCommand.bbt.toNat =
          length.toNat := by
      change (length.setWidth 23).toNat = _
      rw [BitVec.toNat_setWidth]
      omega
    have inside := mt (sessionCmd_overflows direction id offset length).2
      overflows
    rw [MemBufferRWCmd.splitCommands, if_neg overflows]
    simp only [List.mem_cons, List.not_mem_nil, or_false, forall_eq,
      wholeBytes]
    omega

theorem splitCommands_exact_iff
    (idBound : id.toNat < 2 ^ 13) (someBytes : length ≠ 0) :
    CommandsExact direction id.toNat offset.toNat length.toNat
        (sessionCmd direction id offset length).splitCommands
        (sessionCmd direction id offset length).splitCommands ↔
      offset.toNat + length.toNat ≠ bufferSize := by
  have lengthBound := length.isLt
  have covers :=
    splitCommands_addresses direction offset length idBound
  have nonemptyIff :
      (∀ cmd ∈ (sessionCmd direction id offset length).splitCommands,
          1 ≤ cmd.bbt.toNat) ↔
        offset.toNat + length.toNat ≠ bufferSize :=
    splitCommands_nonempty_iff someBytes
  rw [← nonemptyIff]
  constructor
  · intro exact
    exact exact.nonempty
  · intro nonempty
    have inRing :
        ∀ cmd ∈ (sessionCmd direction id offset length).splitCommands,
          ∀ address ∈ cmd.addresses,
            InSessionRing direction id.toNat address := by
      intro cmd member address inCommand
      have transferred := List.mem_flatMap.2 ⟨cmd, member, inCommand⟩
      rw [covers] at transferred
      exact inSessionRing_of_mem transferred
    refine ⟨rfl, ?_, nonempty, inRing, ?_, covers, ?_⟩
    · rw [MemBufferRWCmd.splitCommands]
      split
      · exact Or.inr rfl
      · exact Or.inl rfl
    · intro cmd member address inCommand other otherId otherBound there
      exact sessionRing_disjoint otherBound idBound there
        (inRing cmd member address inCommand)
    · rw [covers]
      refine nodup_sessionAddresses _ _ _ ?_
      rw [bufferSize_eq]
      omega

end Exactness

end TcpOffload
