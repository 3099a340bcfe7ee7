import TcpOffload.MemoryAccess.WriteSplit

/-!
# The data of a split write

The beats that `WriteDataToMem` sends are one frame for each DataMover
command, and the frames of a split access carry its payload up to the end of
the ring and from there on.
-/

namespace TcpOffload

open Clocked Framing

/-! ## The second frame -/

/-- A beat as the concatenation with the offset 0 passes it on. -/
def withoutDest (word : NetAXISWord) : NetAXISWord :=
  { word with dest := 0 }

theorem behindCut_zero (prevWord curWord : NetAXISWord) (last : Bool) :
    (behindCut 0 prevWord curWord).withLast last =
      (withoutDest curWord).withLast last :=
  rfl

theorem restWords_zero
    {words : List NetAXISWord} (frame : Delimited NetAXISWord.last words)
    (prevWord : NetAXISWord) :
    restWords 0 prevWord words = words.map withoutDest := by
  have none (word : NetAXISWord) : word.leavesExtra 0 = false :=
    Bool.and_false _
  induction frame generalizing prevWord with
  | @final curWord raised =>
      have same : (withoutDest curWord).withLast true =
          withoutDest curWord := by
        rw [← raised]
        rfl
      rw [restWords, raised, none, behindCut_zero, same]
      rfl
  | @more curWord words notRaised _ inductionHypothesis =>
      have same : (withoutDest curWord).withLast false =
          withoutDest curWord := by
        rw [← notRaised]
        rfl
      rw [restWords, notRaised, Bool.false_and, inductionHypothesis,
        behindCut_zero prevWord curWord false, same]
      rfl

theorem restWords_shifted
    {byteOffset : BitVec 6} (shifted : byteOffset ≠ 0)
    (prevWord : NetAXISWord) (words : List NetAXISWord) :
    restWords byteOffset prevWord words =
      realign noDest byteOffset prevWord words := by
  have joined (prevWord curWord : NetAXISWord) :
      behindCut byteOffset prevWord curWord =
        joinWords noDest curWord prevWord byteOffset :=
    (@joinWords_eq_concat noDest curWord prevWord byteOffset
      shifted).symm
  have extra (word : NetAXISWord) :
      word.leavesExtra byteOffset =
        word.keep.getLsbD byteOffset.toNat := by
    rw [NetAXISWord.leavesExtra, decide_eq_true shifted, Bool.and_true]
  induction words generalizing prevWord with
  | nil =>
      rw [restWords, realign, joined]
  | cons curWord words inductionHypothesis =>
      rw [restWords, realign, joined, extra, inductionHypothesis]

theorem isAxiFrame_withoutDest
    {bytes : List (BitVec 8)} {words : List NetAXISWord}
    (frame : IsAxiFrame bytes words) :
    IsAxiFrame bytes (words.map withoutDest) := by
  induction frame with
  | final holds nonempty short raised =>
      exact
        IsFrame.final (holds.congr rfl rfl) nonempty short raised
  | more holds full notRaised _ inductionHypothesis =>
      exact
        IsFrame.more (holds.congr rfl rfl) full notRaised
          inductionHypothesis

/-! ## The cut -/

theorem dataLengthToAxisKeep_getLsbD
    {length lane : Nat} (positive : 0 < length) (atMost : length ≤ 64) :
    (dataLengthToAxisKeep (BitVec.ofNat 6 length)).getLsbD lane =
      decide (lane < length) := by
  rw [dataLengthToAxisKeep]
  by_cases full : length = 64
  · subst full
    have zero : BitVec.ofNat 6 64 = 0 := rfl
    rw [if_pos zero, BitVec.getLsbD_allOnes]
  · have small : (BitVec.ofNat 6 length).toNat = length := by
      rw [BitVec.toNat_ofNat]
      exact Nat.mod_eq_of_lt (by omega)
    have notZero : BitVec.ofNat 6 length ≠ 0 := by
      intro zero
      rw [zero] at small
      have zeroNat : (0 : BitVec 6).toNat = 0 := rfl
      omega
    rw [if_neg notZero, small, BitVec.getLsbD_ushiftRight,
      BitVec.getLsbD_allOnes]
    congr 1
    apply propext
    omega

/-- The beat that ends the first transfer. -/
theorem holds_cut
    {word : NetAXISWord} {bytes : List (BitVec 8)} {block : Nat}
    (holds : word.Holds bytes) (positive : 0 < block)
    (inside : block ≤ bytes.length) :
    ({ NetAXISWord.empty with
        data := word.data
        keep := dataLengthToAxisKeep (BitVec.ofNat 6 block)
        last := true } : NetAXISWord).Holds (bytes.take block) := by
  have fits := holds.fits
  have length : (bytes.take block).length = block := by
    rw [List.length_take, Nat.min_eq_left inside]
  refine ⟨by omega, ?_, ?_⟩
  · intro lane _
    rw [length]
    exact dataLengthToAxisKeep_getLsbD positive (by omega)
  · intro lane inBytes
    rw [List.getElem_take]
    exact holds.data lane (by omega)

/-- The words of a split access are the two frames of its payload. -/
theorem cutWords_frames
    {bytes : List (BitVec 8)} {words : List NetAXISWord}
    (frame : IsAxiFrame bytes words)
    {remaining block : Nat}
    (above : 64 * remaining < block) (below : block ≤ 64 * remaining + 64)
    (inside : block < bytes.length) :
    AxiFrames [bytes.take block, bytes.drop block]
      (cutWords (dataLengthToAxisKeep (BitVec.ofNat 6 block))
        (BitVec.ofNat 6 block) remaining words) := by
  induction remaining generalizing bytes words block with
  | zero =>
      have positive : 0 < block := by
        omega
      cases words with
      | nil =>
          exact absurd rfl frame.beats_ne_nil
      | cons word words =>
          have cut :=
            holds_cut frame.holds_head positive
              (by rw [List.length_take]; omega)
          rw [List.take_take, Nat.min_eq_left (by omega)] at cut
          have first :
              IsAxiFrame (bytes.take block)
                [{ NetAXISWord.empty with
                    data := word.data
                    keep :=
                      dataLengthToAxisKeep (BitVec.ofNat 6 block)
                    last := true }] := by
            refine IsFrame.final cut ?_ cut.fits rfl
            intro none
            have noBytes := congrArg List.length none
            rw [List.length_take, List.length_nil] at noBytes
            omega
          have left : bytes.drop block ≠ [] := by
            intro none
            have noBytes := congrArg List.length none
            rw [List.length_drop, List.length_nil] at noBytes
            omega
          refine Frames.cons first (Frames.single ?_)
          by_cases full : block = 64
          · subst full
            have zero : BitVec.ofNat 6 64 = 0 := rfl
            cases frame with
            | final _ _ short _ =>
                omega
            | @more chunk bytes _ _ _ chunkFull _ rest =>
                have behind : (chunk ++ bytes).drop 64 = bytes :=
                  List.drop_left' chunkFull
                rw [zero, restWords_zero rest.delimited, behind]
                exact isAxiFrame_withoutDest rest
          · have offset : (BitVec.ofNat 6 block).toNat = block := by
              rw [BitVec.toNat_ofNat]
              exact Nat.mod_eq_of_lt (by omega)
            have shifted : BitVec.ofNat 6 block ≠ 0 := by
              intro zero
              rw [zero] at offset
              have zeroNat : (0 : BitVec 6).toNat = 0 := rfl
              omega
            have realigned :=
              @realign_isFrame noDest (BitVec.ofNat 6 block) word words
                bytes shifted frame (by rw [offset]; exact left)
            rw [offset] at realigned
            rw [restWords_shifted shifted]
            exact realigned
  | succ remaining inductionHypothesis =>
      cases frame with
      | final _ _ short _ =>
          omega
      | @more chunk bytes word words holds full notRaised rest =>
          rw [List.length_append, full] at inside
          have sameOffset :
              BitVec.ofNat 6 block = BitVec.ofNat 6 (block - 64) := by
            apply BitVec.eq_of_toNat_eq
            rw [BitVec.toNat_ofNat, BitVec.toNat_ofNat]
            omega
          have behind :=
            @inductionHypothesis bytes words rest (block - 64)
              (by omega) (by omega) (by omega)
          rw [← sameOffset] at behind
          obtain ⟨first, later, same, firstFrame, laterFrames⟩ :=
            behind.split_first
          have taken :
              (chunk ++ bytes).take block =
                chunk ++ bytes.take (block - 64) := by
            rw [List.take_append, full,
              List.take_of_length_le (by omega)]
          have dropped :
              (chunk ++ bytes).drop block = bytes.drop (block - 64) := by
            rw [List.drop_append, full, List.drop_of_length_le (by omega),
              List.nil_append]
          rw [taken, dropped, cutWords, same]
          exact
            Frames.cons
              (IsFrame.more holds full notRaised firstFrame) laterFrames

/-! ## Sequences of writes -/

/-- A write of one to 65535 bytes that does not end with the ring. -/
structure RingWrite where
  addr : BitVec 32
  bytes : List (BitVec 8)
  nonempty : bytes ≠ []
  short : bytes.length < 2 ^ 16
  notAtEnd : (addr.setWidth 18).toNat + bytes.length ≠ bufferSize

namespace RingWrite

/-- The internal command. -/
def cmd (write : RingWrite) : MemBufferRWCmd :=
  MemBufferRWCmd.ofAddr write.addr (BitVec.ofNat 16 write.bytes.length)

/-- The payload, cut at the end of the ring. -/
def chunks (write : RingWrite) : List (List (BitVec 8)) :=
  if write.cmd.overflows then
    [write.bytes.take write.cmd.firstBlock,
      write.bytes.drop write.cmd.firstBlock]
  else
    [write.bytes]

theorem length_cmd (write : RingWrite) :
    write.bytes.length = write.cmd.length.toNat := by
  have length :
      (BitVec.ofNat 16 write.bytes.length).toNat = write.bytes.length := by
    rw [BitVec.toNat_ofNat]
    exact Nat.mod_eq_of_lt write.short
  exact length.symm

/-- Something is left for the second command. -/
theorem firstBlock_lt
    (write : RingWrite) (overflows : write.cmd.overflows = true) :
    write.cmd.firstBlock < write.bytes.length := by
  have atMost := (MemBufferRWCmd.overflows_iff _ _).1 overflows
  have notAtEnd := write.notAtEnd
  have offsetBound := (write.addr.setWidth 18).isLt
  have length := write.length_cmd
  have block :
      write.cmd.firstBlock =
        bufferSize - (write.addr.setWidth 18).toNat :=
    rfl
  have lengthIs :
      write.cmd.length = BitVec.ofNat 16 write.bytes.length :=
    rfl
  rw [← lengthIs, ← length] at atMost
  change write.cmd.firstBlock ≤ write.bytes.length at atMost
  rw [bufferSize_eq] at block notAtEnd
  omega

theorem flatten_chunks (write : RingWrite) :
    write.chunks.flatten = write.bytes := by
  rw [chunks]
  split
  · simp only [List.flatten_cons, List.flatten_nil, List.append_nil,
      List.take_append_drop]
  · simp only [List.flatten_cons, List.flatten_nil, List.append_nil]

/-- Each command transfers the bytes of its own chunk. -/
theorem length_chunks (write : RingWrite) :
    write.chunks.map List.length =
      write.cmd.splitCommands.map fun mover => mover.bbt.toNat := by
  have small (length : Nat) (inRange : length < 2 ^ 23) :
      (BitVec.ofNat 23 length).toNat = length := by
    rw [BitVec.toNat_ofNat]
    exact Nat.mod_eq_of_lt inRange
  have short := write.short
  have length := write.length_cmd
  rw [chunks, MemBufferRWCmd.splitCommands]
  by_cases overflows : write.cmd.overflows = true
  · have below := write.firstBlock_lt overflows
    have first :
        write.cmd.firstCommand.bbt.toNat = write.cmd.firstBlock :=
      small _ (by omega)
    have second :
        write.cmd.secondCommand.bbt.toNat =
          write.bytes.length - write.cmd.firstBlock := by
      rw [length]
      exact small _ (by omega)
    rw [if_pos overflows, if_pos overflows]
    simp only [List.map_cons, List.map_nil, List.length_take,
      List.length_drop, first, second, Nat.min_eq_left (Nat.le_of_lt below)]
  · have whole :
        write.cmd.wholeCommand.bbt.toNat = write.bytes.length := by
      rw [length]
      exact BitVec.toNat_setWidth_of_le (by decide)
    rw [if_neg overflows, if_neg overflows]
    simp only [List.map_cons, List.map_nil, whole]

/-- The beats of one write are the frames of its chunks. -/
theorem writtenWords_frames
    (write : RingWrite) {words : List NetAXISWord}
    (frame : IsAxiFrame write.bytes words) :
    AxiFrames write.chunks (write.cmd.writtenWords words) := by
  rw [chunks, MemBufferRWCmd.writtenWords]
  by_cases overflows : write.cmd.overflows = true
  · have positive := write.cmd.firstBlock_pos
    rw [if_pos overflows, if_pos overflows]
    apply cutWords_frames frame
    · simp only [MemBufferRWCmd.firstBeats]
      omega
    · simp only [MemBufferRWCmd.firstBeats]
      omega
    · exact write.firstBlock_lt overflows
  · rw [if_neg overflows, if_neg overflows]
    exact Frames.single frame

end RingWrite

/-- The writes are served one after the other. -/
theorem runs_writes
    {writes : List RingWrite} {stream : List NetAXISWord}
    (frames : AxiFrames (writes.map RingWrite.bytes) stream)
    {state : WriteDataState} (waiting : state.fsmState = .waitCmd)
    (cmds : state.memWriteCmd = writes.map RingWrite.cmd)
    (data : state.memWriteData = stream) :
    ∃ msgs final,
      Yields writeDataToMem state msgs final ∧
      moverWriteCmds msgs =
        writes.flatMap (fun write => write.cmd.splitCommands) ∧
      AxiFrames (writes.flatMap RingWrite.chunks)
        (moverWriteWords msgs) := by
  induction writes generalizing state stream with
  | nil =>
      exact
        ⟨[], state,
          ⟨Runs.refl state, writeDataToMem_idle waiting cmds⟩, rfl,
          Frames.nil⟩
  | cons write writes inductionHypothesis =>
      rw [List.map_cons] at frames
      obtain ⟨words, later, rfl, frame, rest⟩ := frames.split_first
      obtain ⟨msgs, next, run, sent, written, ready, queue, left⟩ :=
        writeDataToMem_words waiting cmds
          (MemBufferRWCmd.overflows_iff _ _).1 frame write.length_cmd data
      obtain ⟨laterMsgs, final, yields, laterSent, laterFrames⟩ :=
        inductionHypothesis rest ready queue left
      refine
        ⟨msgs ++ laterMsgs, final, Yields.prepend run yields, ?_, ?_⟩
      · rw [List.flatMap_cons, ← sent, ← laterSent]
        exact List.filterMap_append
      · have all :
            moverWriteWords (msgs ++ laterMsgs) =
              write.cmd.writtenWords words ++
                moverWriteWords laterMsgs := by
          rw [← written]
          exact List.filterMap_append
        rw [List.flatMap_cons, all]
        exact (write.writtenWords_frames frame).append laterFrames

theorem length_flatMap_chunks (writes : List RingWrite) :
    (writes.flatMap RingWrite.chunks).map List.length =
      (writes.flatMap fun write => write.cmd.splitCommands).map
        fun mover => mover.bbt.toNat := by
  induction writes with
  | nil =>
      rfl
  | cons write writes inductionHypothesis =>
      rw [List.flatMap_cons, List.flatMap_cons, List.map_append,
        List.map_append, inductionHypothesis, write.length_chunks]

/-- For every sequence of writes the commands are those of the accesses, and
the beats are one frame for each command, of as many bytes: the payload up to
the end of the ring, then what is left. -/
theorem writeData_frames
    {writes : List RingWrite} {stream : List NetAXISWord}
    (frames : AxiFrames (writes.map RingWrite.bytes) stream)
    {state : WriteDataState} (waiting : state.fsmState = .waitCmd) :
    ∃ msgs final,
      Yields writeDataToMem
        { state with
          memWriteCmd := writes.map RingWrite.cmd
          memWriteData := stream }
        msgs final ∧
      moverWriteCmds msgs =
        writes.flatMap (fun write => write.cmd.splitCommands) ∧
      AxiFrames (writes.flatMap RingWrite.chunks)
        (moverWriteWords msgs) ∧
      (writes.flatMap RingWrite.chunks).map List.length =
        (moverWriteCmds msgs).map (fun mover => mover.bbt.toNat) ∧
      ∀ write ∈ writes, write.chunks.flatten = write.bytes := by
  obtain ⟨msgs, final, yields, commands, words⟩ :=
    @runs_writes writes stream frames
      { state with
        memWriteCmd := writes.map RingWrite.cmd
        memWriteData := stream }
      waiting rfl rfl
  refine
    ⟨msgs, final, yields, commands, words, ?_,
      fun write _ => write.flatten_chunks⟩
  rw [commands]
  exact length_flatMap_chunks writes

/-- A write of four bytes, two of them before the end of the ring. -/
def wrappedWrite : RingWrite where
  addr := 0x3FFFE
  bytes := [1, 2, 3, 4]
  nonempty := by decide
  short := by decide
  notAtEnd := by decide

theorem writeData_frames_wrapped :
    ∃ stream msgs final,
      Yields writeDataToMem
        (WriteDataState.start [wrappedWrite.cmd] stream) msgs final ∧
      (moverWriteCmds msgs).map (fun mover => mover.bbt.toNat) =
        [2, 2] ∧
      AxiFrames [[1, 2], [3, 4]] (moverWriteWords msgs) := by
  obtain ⟨stream, frame⟩ :=
    exists_axiFrame wrappedWrite.bytes wrappedWrite.nonempty
  obtain ⟨msgs, final, yields, _, words, lengths, _⟩ :=
    @writeData_frames [wrappedWrite] stream (Frames.single frame)
      (WriteDataState.start [] []) rfl
  have chunks :
      [wrappedWrite].flatMap RingWrite.chunks = [[1, 2], [3, 4]] := by
    decide
  rw [chunks] at words lengths
  exact ⟨stream, msgs, final, yields, lengths.symm, words⟩

end TcpOffload
