import TcpOffload.Library.CellStore
import TcpOffload.MemoryAccess.ReadBack
import TcpOffload.MemoryAccess.WriteData

/-!
# The rings as a store

The processes of `memory_access.hpp` in both directions over one memory, with
a DataMover that executes the commands they send: accesses in any order, each
through the splitting at the end of the ring and back.  For the sessions this
is a store of rings.
-/

namespace TcpOffload

open CellStore Clocked Framing

/-! ## The abstract store -/

/-- A write to a session's ring that does not end exactly at its end. -/
structure SessionWrite where
  id : TcpSessionID
  offset : TcpSessionBuffer
  bytes : List (BitVec 8)
  idBound : id.toNat < 2 ^ 13
  nonempty : bytes ≠ []
  short : bytes.length < 2 ^ 16
  notAtEnd : offset.toNat + bytes.length ≠ bufferSize

def SessionWrite.positions (write : SessionWrite) : List Nat :=
  RingSegment.segment bufferSize write.offset.toNat write.bytes.length

def RingRead.positions (read : RingRead) : List Nat :=
  RingSegment.segment bufferSize read.offset.toNat read.length.toNat

/-- The bytes of each ring, by position. -/
abbrev Rings : Type :=
  RingDirection → TcpSessionID → Nat → BitVec 8

namespace Rings

def write
    (rings : Rings) (direction : RingDirection) (write : SessionWrite) :
    Rings :=
  Function.update rings direction
    (Function.update (rings direction) write.id
      (store (rings direction write.id) write.positions write.bytes))

def read
    (rings : Rings) (direction : RingDirection) (read : RingRead) :
    List (BitVec 8) :=
  read.positions.map (rings direction read.id)

/-- The rings that lie in a memory. -/
def ofMemory (memory : Nat → BitVec 8) : Rings :=
  fun direction id position =>
    memory (sessionRing direction id.toNat + position)

end Rings

/-- An access with the beats of its payload, if it has any. -/
inductive RingAccess where
  | write
      (direction : RingDirection) (write : SessionWrite)
      (words : List NetAXISWord)
  | read (direction : RingDirection) (read : RingRead)

namespace RingAccess

/-- The payload is one frame; and a read that goes on at the start of the
ring has no more than one beat before its end. -/
def WellFormed : RingAccess → Prop
  | .write _ stored words => IsAxiFrame stored.bytes words
  | .read _ asked =>
      asked.offset.toNat + asked.length.toNat < bufferSize ∨
        bufferSize - asked.offset.toNat ≤ 64

def apply (rings : Rings) : RingAccess → Rings
  | .write direction stored _ => rings.write direction stored
  | .read _ _ => rings

/-- The frames that an access delivers. -/
def frames (rings : Rings) : RingAccess → List (List (BitVec 8))
  | .write _ _ _ => []
  | .read direction asked => [rings.read direction asked]

/-- Not a write to bytes of the given one. -/
def LeavesAlone
    (direction : RingDirection) (write : SessionWrite) :
    RingAccess → Prop
  | .write other later _ =>
      other = direction →
        later.id = write.id → write.positions.Disjoint later.positions
  | .read _ _ => True

end RingAccess

/-- The frames that accesses one after the other deliver. -/
def framesOf (rings : Rings) : List RingAccess → List (List (BitVec 8))
  | [] => []
  | access :: rest =>
      access.frames rings ++ framesOf (access.apply rings) rest

/-! ## The processes and the memory -/

/-- The processes of one direction. -/
structure RingProcesses where
  write : WriteDataState
  readCmd : ReadCmdState
  readData : ReadDataState

structure MemorySystem where
  processes : RingDirection → RingProcesses
  memory : Nat → BitVec 8

def MemorySystem.start (memory : Nat → BitVec 8) : MemorySystem where
  processes := fun _ =>
    ⟨WriteDataState.start [] [], ReadCmdState.start [],
      ReadDataState.start [] []⟩
  memory := memory

/-- The DataMover executes the commands in order: each takes one frame of as
many bytes as it transfers and stores them from its address on. -/
def MoverStores
    (memory : Nat → BitVec 8) (cmds : List DataMoverCmd)
    (words : List NetAXISWord) (next : Nat → BitVec 8) : Prop :=
  ∃ chunks,
    AxiFrames chunks words ∧
      cmds.map (fun cmd => cmd.bbt.toNat) = chunks.map List.length ∧
      next = storeAll memory (cmds.map DataMoverCmd.addresses) chunks

def SessionWrite.cmd
    (direction : RingDirection) (write : SessionWrite) : MemBufferRWCmd :=
  sessionCmd direction write.id write.offset
    (BitVec.ofNat 16 write.bytes.length)

/-- An access, with what it delivers: command and payload reach their
process, which is called until it rests, and the DataMover executes its
commands or answers them. -/
inductive AccessStep (system : MemorySystem) :
    RingAccess → List NetAXISWord → MemorySystem → Prop
  | write {direction : RingDirection} {write : SessionWrite}
      {words : List NetAXISWord} {msgs : List WriteDataMsg}
      {final : WriteDataState} {memory : Nat → BitVec 8} :
      Yields writeDataToMem
        { (system.processes direction).write with
          memWriteCmd :=
            (system.processes direction).write.memWriteCmd ++
              [write.cmd direction]
          memWriteData :=
            (system.processes direction).write.memWriteData ++ words }
        msgs final →
      MoverStores system.memory (moverWriteCmds msgs)
        (moverWriteWords msgs) memory →
      AccessStep system (.write direction write words) []
        { processes :=
            Function.update system.processes direction
              { system.processes direction with write := final }
          memory := memory }
  | read {direction : RingDirection} {read : RingRead}
      {msgs : List ReadCmdMsg} {cmdFinal : ReadCmdState}
      {beats out : List NetAXISWord} {final : ReadDataState} :
      Yields readDataSendCmd
        { (system.processes direction).readCmd with
          memReadCmd :=
            (system.processes direction).readCmd.memReadCmd ++
              [read.cmd direction] }
        msgs cmdFinal →
      MoverAnswers system.memory (moverReadCmds msgs) beats →
      Yields readDataFromMem
        { (system.processes direction).readData with
          doubleAccess :=
            (system.processes direction).readData.doubleAccess ++
              doubleAccesses msgs
          moverData :=
            (system.processes direction).readData.moverData ++ beats }
        out final →
      AccessStep system (.read direction read) out
        { system with
          processes :=
            Function.update system.processes direction
              { system.processes direction with
                readCmd := cmdFinal
                readData := final } }

/-- Accesses one after the other, and all that they deliver. -/
inductive AccessRun :
    MemorySystem → List RingAccess → List NetAXISWord → MemorySystem →
      Prop
  | refl (system : MemorySystem) : AccessRun system [] [] system
  | head {system next final : MemorySystem} {access : RingAccess}
      {rest : List RingAccess} {out later : List NetAXISWord} :
      AccessStep system access out next →
      AccessRun next rest later final →
      AccessRun system (access :: rest) (out ++ later) final

/-! ## One access -/

/-- A process at rest: it waits for a command, and nothing is queued. -/
structure RingProcesses.Ready (processes : RingProcesses) : Prop where
  write : processes.write.fsmState = .waitCmd
  writeCmds : processes.write.memWriteCmd = []
  writeData : processes.write.memWriteData = []
  readCmd : processes.readCmd.readCmdIsBreakdown = false
  readCmds : processes.readCmd.memReadCmd = []
  readData : processes.readData.fsmState = .readAccess
  accesses : processes.readData.doubleAccess = []
  moverData : processes.readData.moverData = []

def MemorySystem.Ready (system : MemorySystem) : Prop :=
  ∀ direction, (system.processes direction).Ready

/-- The rings of the memory are the given ones. -/
def Represents (memory : Nat → BitVec 8) (rings : Rings) : Prop :=
  ∀ direction (id : TcpSessionID) position,
    id.toNat < 2 ^ 13 →
      position < bufferSize →
        rings direction id position =
          memory (sessionRing direction id.toNat + position)

namespace SessionWrite

variable (direction : RingDirection) (write : SessionWrite)

/-- The write as one to the session's address. -/
def ringWrite : RingWrite where
  addr := getSessionMemAddr direction write.id write.offset
  bytes := write.bytes
  nonempty := write.nonempty
  short := write.short
  notAtEnd := by
    rw [getSessionMemAddr_offset]
    exact write.notAtEnd

theorem cmd_ringWrite :
    (write.ringWrite direction).cmd = write.cmd direction :=
  rfl

theorem addresses :
    (write.cmd direction).splitCommands.flatMap DataMoverCmd.addresses =
      write.positions.map
        (sessionRing direction write.id.toNat + ·) := by
  have length :
      (BitVec.ofNat 16 write.bytes.length).toNat = write.bytes.length := by
    rw [BitVec.toNat_ofNat]
    exact Nat.mod_eq_of_lt write.short
  rw [cmd, splitCommands_addresses direction _ _ write.idBound, length]
  rfl

/-- What the command of a write tells of it. -/
theorem of_cmd {direction : RingDirection} {write : SessionWrite}
    {cmd : MemBufferRWCmd} (isCmd : write.cmd direction = cmd) :
    write.offset = cmd.offset ∧
      write.bytes.length = cmd.length.toNat := by
  rw [← isCmd, SessionWrite.cmd, sessionCmd_offset]
  refine ⟨rfl, ?_⟩
  change _ = (BitVec.ofNat 16 write.bytes.length).toNat
  rw [BitVec.toNat_ofNat, Nat.mod_eq_of_lt write.short]

theorem id_of_cmd {direction : RingDirection} {write : SessionWrite}
    {id : TcpSessionID} {offset : TcpSessionBuffer} {length : BitVec 16}
    (idBound : id.toNat < 2 ^ 13)
    (isCmd :
      write.cmd direction = sessionCmd direction id offset length) :
    write.id = id := by
  have sameAddr :
      getSessionMemAddr direction write.id write.offset =
        getSessionMemAddr direction id offset :=
    congrArg MemBufferRWCmd.addr isCmd
  have here :=
    getSessionMemAddr_toNat direction write.offset write.idBound
  have there := getSessionMemAddr_toNat direction offset idBound
  rw [sameAddr, there] at here
  have offsetBound := offset.isLt
  have writeBound := write.offset.isLt
  have inOwn :
      InSessionRing direction id.toNat
        (sessionRing direction id.toNat + offset.toNat) :=
    ⟨Nat.le_add_right _ _, Nat.add_lt_add_left offsetBound _⟩
  have inWritten :
      InSessionRing direction write.id.toNat
        (sessionRing direction id.toNat + offset.toNat) := by
    rw [here]
    exact ⟨Nat.le_add_right _ _, Nat.add_lt_add_left writeBound _⟩
  exact
    BitVec.eq_of_toNat_eq
      (sessionRing_disjoint write.idBound idBound inWritten inOwn).2

end SessionWrite

theorem Represents.write
    {memory : Nat → BitVec 8} {rings : Rings}
    (represents : Represents memory rings)
    (direction : RingDirection) (write : SessionWrite) :
    Represents
      (store memory
        (write.positions.map (sessionRing direction write.id.toNat + ·))
        write.bytes)
      (rings.write direction write) := by
  intro other id position idBound inRing
  have elsewhere (apart : ¬ (other = direction ∧ id = write.id)) :
      store memory
          (write.positions.map
            (sessionRing direction write.id.toNat + ·))
          write.bytes (sessionRing other id.toNat + position) =
        memory (sessionRing other id.toNat + position) := by
    apply store_of_notMem
    intro member
    have here :
        InSessionRing direction write.id.toNat
          (sessionRing other id.toNat + position) :=
      inSessionRing_of_mem member
    obtain ⟨sameDirection, sameId⟩ :=
      sessionRing_disjoint idBound write.idBound
        ⟨Nat.le_add_right _ _, Nat.add_lt_add_left inRing _⟩ here
    exact apart ⟨sameDirection, BitVec.eq_of_toNat_eq sameId⟩
  rw [Rings.write]
  by_cases sameDirection : other = direction
  · rw [sameDirection] at elsewhere ⊢
    rw [Function.update_self]
    by_cases sameId : id = write.id
    · rw [sameId, Function.update_self,
        store_map (fun _ _ => Nat.add_left_cancel)]
      exact
        store_congr (represents direction write.id position write.idBound
          inRing)
    · rw [Function.update_of_ne sameId,
        elsewhere fun same => sameId same.2]
      exact represents direction id position idBound inRing
  · rw [Function.update_of_ne sameDirection,
      elsewhere fun same => sameDirection same.1]
    exact represents other id position idBound inRing

theorem Represents.read
    {memory : Nat → BitVec 8} {rings : Rings}
    (represents : Represents memory rings)
    (direction : RingDirection) (read : RingRead) :
    rings.read direction read = read.ringBytes direction memory := by
  rw [Rings.read, RingRead.ringBytes, sessionAddresses, List.map_map]
  apply List.map_congr_left
  intro position member
  exact
    represents direction read.id position read.idBound
      (RingSegment.lt_of_mem_segment (by decide) member)

/-- `WriteDataToMem` serves a write and waits again. -/
theorem writeDataToMem_access
    (direction : RingDirection) (write : SessionWrite)
    {words : List NetAXISWord} (frame : IsAxiFrame write.bytes words)
    {state : WriteDataState} (waiting : state.fsmState = .waitCmd)
    (noCmds : state.memWriteCmd = []) (noData : state.memWriteData = []) :
    ∃ msgs final,
      Yields writeDataToMem
        { state with
          memWriteCmd := state.memWriteCmd ++ [write.cmd direction]
          memWriteData := state.memWriteData ++ words }
        msgs final ∧
      moverWriteCmds msgs = (write.cmd direction).splitCommands ∧
      AxiFrames (write.ringWrite direction).chunks
        (moverWriteWords msgs) ∧
      final.fsmState = .waitCmd ∧
      final.memWriteCmd = [] ∧ final.memWriteData = [] := by
  have length := (write.ringWrite direction).length_cmd
  obtain ⟨msgs, final, run, cmds, written, ready, noCmd, noWord⟩ :=
    @writeDataToMem_words
      { state with
        memWriteCmd := state.memWriteCmd ++ [write.cmd direction]
        memWriteData := state.memWriteData ++ words }
      (write.cmd direction) [] write.bytes words []
      waiting (by rw [noCmds]; rfl) (MemBufferRWCmd.overflows_iff _ _).1
      frame length (by rw [noData, List.append_nil]; rfl)
  refine
    ⟨msgs, final, ⟨run, writeDataToMem_idle ready noCmd⟩, cmds, ?_, ready,
      noCmd, noWord⟩
  rw [written, ← write.cmd_ringWrite direction]
  exact (write.ringWrite direction).writtenWords_frames frame

theorem DataMoverCmd.length_addresses (cmd : DataMoverCmd) :
    cmd.addresses.length = cmd.bbt.toNat := by
  rw [addresses, List.length_map, List.length_range]

/-- The DataMover puts the payload of a write where the session's ring has
its bytes, whatever the split. -/
theorem moverStores_iff
    (direction : RingDirection) (write : SessionWrite)
    {words : List NetAXISWord}
    (frames : AxiFrames (write.ringWrite direction).chunks words)
    (memory next : Nat → BitVec 8) :
    MoverStores memory (write.cmd direction).splitCommands words next ↔
      next =
        store memory
          (write.positions.map
            (sessionRing direction write.id.toNat + ·))
          write.bytes := by
  have lengths :
      (write.cmd direction).splitCommands.map
          (fun cmd => cmd.bbt.toNat) =
        (write.ringWrite direction).chunks.map List.length :=
    (write.ringWrite direction).length_chunks.symm
  have stored :
      storeAll memory
          ((write.cmd direction).splitCommands.map
            DataMoverCmd.addresses)
          (write.ringWrite direction).chunks =
        store memory
          (write.positions.map
            (sessionRing direction write.id.toNat + ·))
          write.bytes := by
    rw [storeAll_eq_store, ← List.flatMap_def, write.addresses,
      (write.ringWrite direction).flatten_chunks]
    · rfl
    · rw [← lengths, List.map_map]
      apply List.map_congr_left
      intro cmd _
      exact cmd.length_addresses
  constructor
  · rintro ⟨chunks, sameFrames, -, isStored⟩
    rw [isStored,
      sameFrames.unique NetAXISWord.holds_unique frames, stored]
  · intro isStored
    exact ⟨_, frames, lengths, isStored.trans stored.symm⟩

/-- `ReadDataSendCmd` serves a read and waits again. -/
theorem readDataSendCmd_access
    (direction : RingDirection) (read : RingRead) {state : ReadCmdState}
    (ready : state.readCmdIsBreakdown = false)
    (noCmds : state.memReadCmd = []) :
    ∃ final,
      Yields readDataSendCmd
        { state with
          memReadCmd := state.memReadCmd ++ [read.cmd direction] }
        (read.cmd direction).readMsgs final ∧
      final.readCmdIsBreakdown = false ∧ final.memReadCmd = [] := by
  obtain ⟨final, run, readyAgain, noCmd⟩ :=
    @readDataSendCmd_one
      { state with
        memReadCmd := state.memReadCmd ++ [read.cmd direction] }
      (read.cmd direction) [] ready (by rw [noCmds]; rfl)
      (read.fits direction)
  exact
    ⟨final, ⟨run, readDataSendCmd_idle readyAgain noCmd⟩, readyAgain,
      noCmd⟩

/-- `ReadDataFromMem` delivers a read and waits again. -/
theorem readDataFromMem_access
    {memory : Nat → BitVec 8} {cmd : MemBufferRWCmd}
    {beats : List NetAXISWord} {state : ReadDataState}
    (ready : state.fsmState = .readAccess)
    (noAccess : state.doubleAccess = []) (noData : state.moverData = [])
    (answered : MoverAnswers memory cmd.splitCommands beats) :
    ∃ out final,
      Yields readDataFromMem
        { state with
          doubleAccess := state.doubleAccess ++ [cmd.accessToken]
          moverData := state.moverData ++ beats }
        out final ∧
      IsAxiFrame (cmd.delivered memory) out ∧
      final.fsmState = .readAccess ∧
      final.doubleAccess = [] ∧ final.moverData = [] := by
  obtain ⟨out, final, later, run, frame, readyAgain, noMore, left,
      answersLeft⟩ :=
    @readDataFromMem_one memory cmd []
      { state with
        doubleAccess := state.doubleAccess ++ [cmd.accessToken]
        moverData := state.moverData ++ beats }
      [] ready (by rw [noAccess]; rfl)
      (by rw [noData, List.append_nil]; exact answered)
  refine
    ⟨out, final, ⟨run, readDataFromMem_idle readyAgain noMore⟩, frame,
      readyAgain, noMore, ?_⟩
  rw [left]
  exact answersLeft.eq_nil

/-! ## Accesses refine the store -/

namespace MemorySystem

variable {system : MemorySystem}

theorem Ready.update {direction : RingDirection}
    {processes : RingProcesses} (ready : system.Ready)
    (readyHere : processes.Ready) (other : RingDirection) :
    (Function.update system.processes direction processes other).Ready := by
  by_cases same : other = direction
  · rw [same, Function.update_self]
    exact readyHere
  · rw [Function.update_of_ne same]
    exact ready other

/-- What one access does to the rings of a system at rest. -/
structure Refines
    (rings : Rings) (access : RingAccess) (out : List NetAXISWord)
    (next : MemorySystem) : Prop where
  ready : next.Ready
  represents : Represents next.memory (access.apply rings)
  delivers : AxiFrames (access.frames rings) out

/-- The process of a write ends in one way, and the rings then have its
bytes. -/
theorem step_write
    {rings : Rings} (ready : system.Ready)
    (represents : Represents system.memory rings)
    {direction : RingDirection} {write : SessionWrite}
    {words : List NetAXISWord} (frame : IsAxiFrame write.bytes words) :
    (∃ out next,
        AccessStep system (.write direction write words) out next) ∧
      ∀ out next,
        AccessStep system (.write direction write words) out next →
          Refines rings (.write direction write words) out next := by
  have here := ready direction
  obtain ⟨msgs, final, yields, cmds, frames, waiting, noCmds, noData⟩ :=
    writeDataToMem_access direction write frame here.write here.writeCmds
      here.writeData
  have stores := moverStores_iff direction write frames system.memory
  constructor
  · have stored := (stores _).2 rfl
    rw [← cmds] at stored
    exact ⟨_, _, AccessStep.write yields stored⟩
  · intro out next stepped
    cases stepped with
    | write sameYields stored =>
        obtain ⟨rfl, rfl⟩ := sameYields.unique yields
        rw [cmds, stores] at stored
        refine ⟨?_, ?_, Frames.nil⟩
        · exact
            ready.update
              ⟨waiting, noCmds, noData, here.readCmd, here.readCmds,
                here.readData, here.accesses, here.moverData⟩
        · rw [stored]
          exact represents.write direction write

/-- The processes of a read end in one way for each answer of the DataMover,
and deliver the bytes of the ring. -/
theorem step_read
    {rings : Rings} (ready : system.Ready)
    (represents : Represents system.memory rings)
    {direction : RingDirection} {read : RingRead}
    (inOneBeat :
      read.offset.toNat + read.length.toNat < bufferSize ∨
        bufferSize - read.offset.toNat ≤ 64) :
    (∃ out next, AccessStep system (.read direction read) out next) ∧
      ∀ out next,
        AccessStep system (.read direction read) out next →
          Refines rings (.read direction read) out next := by
  have here := ready direction
  obtain ⟨cmdFinal, cmdYields, cmdReady, noCmds⟩ :=
    readDataSendCmd_access direction read here.readCmd here.readCmds
  have moverCmds := (read.cmd direction).moverReadCmds_readMsgs
  have tokens := (read.cmd direction).doubleAccesses_readMsgs
  have delivered :
      (read.cmd direction).delivered system.memory =
        rings.read direction read := by
    rw [(read.delivered_eq_iff direction system.memory).2 inOneBeat,
      represents.read]
  constructor
  · obtain ⟨beats, answered⟩ :=
      exists_moverAnswers direction system.memory [read]
    rw [List.map_singleton, List.flatMap_singleton] at answered
    obtain ⟨out, final, yields, -⟩ :=
      readDataFromMem_access here.readData here.accesses here.moverData
        answered
    rw [← tokens] at yields
    rw [← moverCmds] at answered
    exact ⟨_, _, AccessStep.read cmdYields answered yields⟩
  · intro out next stepped
    cases stepped with
    | read sameCmds answered sameYields =>
        obtain ⟨rfl, rfl⟩ := sameCmds.unique cmdYields
        rw [moverCmds] at answered
        rw [tokens] at sameYields
        obtain ⟨sameOut, final, yields, frame, waiting, noAccess,
            noData⟩ :=
          readDataFromMem_access here.readData here.accesses
            here.moverData answered
        obtain ⟨rfl, rfl⟩ := sameYields.unique yields
        rw [delivered] at frame
        refine ⟨?_, represents, Frames.single frame⟩
        exact
          ready.update
            ⟨here.write, here.writeCmds, here.writeData, cmdReady, noCmds,
              waiting, noAccess, noData⟩

/-- An access of a system at rest takes place, and it does to the rings what
it should. -/
theorem step_refines
    {rings : Rings} (ready : system.Ready)
    (represents : Represents system.memory rings)
    {access : RingAccess} (wellFormed : access.WellFormed) :
    (∃ out next, AccessStep system access out next) ∧
      ∀ out next,
        AccessStep system access out next →
          Refines rings access out next := by
  cases access with
  | write direction write words =>
      exact step_write ready represents wellFormed
  | read direction read =>
      exact step_read ready represents wellFormed

theorem run_refines
    {rings : Rings} (ready : system.Ready)
    (represents : Represents system.memory rings)
    {accesses : List RingAccess}
    (wellFormed : ∀ access ∈ accesses, access.WellFormed) :
    (∃ out final, AccessRun system accesses out final) ∧
      ∀ out final,
        AccessRun system accesses out final →
          AxiFrames (framesOf rings accesses) out ∧
            Represents final.memory
              (accesses.foldl RingAccess.apply rings) := by
  induction accesses generalizing system rings with
  | nil =>
      refine ⟨⟨_, _, AccessRun.refl system⟩, ?_⟩
      rintro out final ⟨⟩
      exact ⟨Frames.nil, represents⟩
  | cons access rest inductionHypothesis =>
      obtain ⟨takesPlace, refines⟩ :=
        step_refines ready represents (wellFormed access List.mem_cons_self)
      have restWellFormed (other : RingAccess) (member : other ∈ rest) :
          other.WellFormed :=
        wellFormed other (List.mem_cons_of_mem access member)
      constructor
      · obtain ⟨out, next, stepped⟩ := takesPlace
        have step := refines out next stepped
        obtain ⟨⟨later, final, run⟩, -⟩ :=
          inductionHypothesis step.ready step.represents restWellFormed
        exact ⟨_, _, AccessRun.head stepped run⟩
      · intro out final run
        cases run with
        | head stepped later =>
            have step := refines _ _ stepped
            obtain ⟨-, laterRefines⟩ :=
              inductionHypothesis step.ready step.represents
                restWellFormed
            obtain ⟨frames, representsFinal⟩ := laterRefines _ _ later
            exact ⟨step.delivers.append frames, representsFinal⟩

theorem ready_start (memory : Nat → BitVec 8) :
    (MemorySystem.start memory).Ready :=
  fun _ => ⟨rfl, rfl, rfl, rfl, rfl, rfl, rfl, rfl⟩

end MemorySystem

theorem represents_ofMemory (memory : Nat → BitVec 8) :
    Represents memory (Rings.ofMemory memory) :=
  fun _ _ _ _ _ => rfl

/-- The processes of both directions over one memory are a store of rings:
every sequence of accesses can be carried out, and whatever the DataMover's
beats look like, each read delivers one frame of the bytes that the writes
before it left in its ring. -/
theorem rings_store
    (memory : Nat → BitVec 8) {accesses : List RingAccess}
    (wellFormed : ∀ access ∈ accesses, access.WellFormed) :
    (∃ out final,
        AccessRun (MemorySystem.start memory) accesses out final) ∧
      ∀ out final,
        AccessRun (MemorySystem.start memory) accesses out final →
          AxiFrames (framesOf (Rings.ofMemory memory) accesses) out ∧
            Represents final.memory
              (accesses.foldl RingAccess.apply
                (Rings.ofMemory memory)) :=
  MemorySystem.run_refines (MemorySystem.ready_start memory)
    (represents_ofMemory memory) wellFormed

theorem fourBytes_ne_nil : ([1, 2, 3, 4] : List (BitVec 8)) ≠ [] :=
  List.cons_ne_nil _ _

theorem fourBytes_short :
    ([1, 2, 3, 4] : List (BitVec 8)).length < 2 ^ 16 := by
  decide

theorem fourBytes_pass_end :
    (0x3FFFE : TcpSessionBuffer).toNat +
        ([1, 2, 3, 4] : List (BitVec 8)).length ≠
      bufferSize := by
  decide

theorem threeLength_ne_zero : (3 : BitVec 16) ≠ 0 := by
  decide

/-- Four bytes, two of them before the end of the ring. -/
def wrappedSessionWrite : SessionWrite where
  id := 5
  offset := 0x3FFFE
  bytes := [1, 2, 3, 4]
  idBound := by decide
  nonempty := fourBytes_ne_nil
  short := fourBytes_short
  notAtEnd := fourBytes_pass_end

def wrappedSessionRead : RingRead where
  id := 5
  offset := 0x3FFFE
  length := 4
  idBound := by decide
  someBytes := by decide
  notAtEnd := by decide

def wrappedSessionWords : List NetAXISWord :=
  [NetAXISWord.ofBytes [1, 2, 3, 4] true]

/-- The bytes go to both rings of the session, and come back from one. -/
def wrappedAccesses : List RingAccess :=
  [.write .rx wrappedSessionWrite wrappedSessionWords,
    .write .tx wrappedSessionWrite wrappedSessionWords,
    .read .rx wrappedSessionRead]

theorem wrappedAccesses_wellFormed :
    ∀ access ∈ wrappedAccesses, access.WellFormed := by
  have frame : IsAxiFrame wrappedSessionWrite.bytes wrappedSessionWords :=
    IsFrame.final (NetAXISWord.holds_ofBytes true (by decide)) (by decide)
      (by decide) rfl
  have inOneBeat :
      RingAccess.WellFormed (.read .rx wrappedSessionRead) :=
    Or.inr (by decide)
  rw [wrappedAccesses]
  simp only [List.forall_mem_cons]
  exact ⟨frame, frame, inOneBeat, fun _ member => by cases member⟩

theorem rings_store_wrapped :
    ∃ out final,
      AccessRun (MemorySystem.start fun _ => 0) wrappedAccesses out
          final ∧
        AxiFrames [[1, 2, 3, 4]] out := by
  obtain ⟨⟨out, final, run⟩, refines⟩ :=
    @rings_store (fun _ => 0) wrappedAccesses wrappedAccesses_wellFormed
  have frames :
      framesOf (Rings.ofMemory fun _ => 0) wrappedAccesses =
        [[1, 2, 3, 4]] := by
    decide +kernel
  rw [← frames]
  exact ⟨out, final, run, (refines out final run).1⟩

/-! ## A payload comes back -/

theorem framesOf_append
    (rings : Rings) (accesses later : List RingAccess) :
    framesOf rings (accesses ++ later) =
      framesOf rings accesses ++
        framesOf (accesses.foldl RingAccess.apply rings) later := by
  induction accesses generalizing rings with
  | nil =>
      rfl
  | cons access rest inductionHypothesis =>
      rw [List.cons_append, framesOf, framesOf, inductionHypothesis,
        List.append_assoc]
      rfl

namespace SessionWrite

variable {direction : RingDirection} {write : SessionWrite}

/-- The bytes of a write in its ring. -/
def In
    (direction : RingDirection) (write : SessionWrite) (rings : Rings) :
    Prop :=
  write.positions.map (rings direction write.id) = write.bytes

theorem in_write (rings : Rings) :
    write.In direction (rings.write direction write) := by
  have fits : write.bytes.length ≤ bufferSize := by
    have short := write.short
    rw [bufferSize_eq]
    omega
  rw [In, Rings.write, Function.update_self, Function.update_self]
  exact
    map_store (RingSegment.nodup_segment fits) RingSegment.length_segment

theorem In.apply {rings : Rings} {access : RingAccess}
    (stored : write.In direction rings)
    (apart : access.LeavesAlone direction write) :
    write.In direction (access.apply rings) := by
  cases access with
  | read =>
      exact stored
  | write other later words =>
      rw [RingAccess.apply, In, Rings.write]
      by_cases sameDirection : direction = other
      · rw [← sameDirection, Function.update_self]
        by_cases sameId : write.id = later.id
        · rw [← sameId, Function.update_self,
            map_store_of_disjoint
              (apart sameDirection.symm sameId.symm)]
          exact stored
        · rw [Function.update_of_ne sameId]
          exact stored
      · rw [Function.update_of_ne sameDirection]
        exact stored

theorem In.run {rings : Rings} {accesses : List RingAccess}
    (stored : write.In direction rings)
    (apart :
      ∀ access ∈ accesses, access.LeavesAlone direction write) :
    write.In direction (accesses.foldl RingAccess.apply rings) := by
  induction accesses generalizing rings with
  | nil =>
      exact stored
  | cons access rest inductionHypothesis =>
      exact
        inductionHypothesis
          (stored.apply (apart access List.mem_cons_self))
          fun other member =>
            apart other (List.mem_cons_of_mem access member)

end SessionWrite

/-- What is written to a session's ring is what a later read of the same
bytes delivers, whatever accesses of both directions are made before, and
between, unless one of them writes to the same bytes. -/
theorem written_payload_reads_back
    (memory : Nat → BitVec 8) {before between : List RingAccess}
    {direction : RingDirection} {write : SessionWrite}
    {words : List NetAXISWord} {read : RingRead}
    (wellFormed :
      ∀ access ∈
        before ++ .write direction write words ::
          (between ++ [.read direction read]),
        access.WellFormed)
    (sameId : read.id = write.id) (sameOffset : read.offset = write.offset)
    (sameLength : read.length.toNat = write.bytes.length)
    (apart : ∀ access ∈ between, access.LeavesAlone direction write)
    {out : List NetAXISWord} {final : MemorySystem}
    (run :
      AccessRun (MemorySystem.start memory)
        (before ++ .write direction write words ::
          (between ++ [.read direction read]))
        out final) :
    ∃ earlier, AxiFrames (earlier ++ [write.bytes]) out := by
  obtain ⟨frames, -⟩ :=
    (MemorySystem.run_refines (MemorySystem.ready_start memory)
      (represents_ofMemory memory) wellFormed).2 out final run
  rw [framesOf_append, framesOf, framesOf_append, ← List.append_assoc,
    ← List.append_assoc] at frames
  generalize before.foldl RingAccess.apply (Rings.ofMemory memory) = rings
    at frames
  have stored :
      write.In direction
        (between.foldl RingAccess.apply (rings.write direction write)) :=
    (SessionWrite.in_write rings).run apart
  have samePositions : read.positions = write.positions := by
    rw [RingRead.positions, SessionWrite.positions, sameOffset, sameLength]
  have isRead :
      framesOf
          (between.foldl RingAccess.apply
            (RingAccess.apply rings (.write direction write words)))
          [.read direction read] =
        [write.bytes] := by
    rw [framesOf, framesOf, RingAccess.frames, Rings.read, sameId,
      samePositions]
    exact congrArg (fun bytes => [bytes]) stored
  rw [isRead] at frames
  exact ⟨_, frames⟩

theorem written_payload_reads_back_wrapped :
    ∃ out final,
      AccessRun (MemorySystem.start fun _ => 0) wrappedAccesses out
          final ∧
        ∃ earlier, AxiFrames (earlier ++ [[1, 2, 3, 4]]) out := by
  obtain ⟨⟨out, final, run⟩, -⟩ :=
    MemorySystem.run_refines (MemorySystem.ready_start fun _ => 0)
      (represents_ofMemory fun _ => 0) wrappedAccesses_wellFormed
  refine ⟨out, final, run, ?_⟩
  exact
    @written_payload_reads_back (fun _ => 0) []
      [.write .tx wrappedSessionWrite wrappedSessionWords] .rx
      wrappedSessionWrite wrappedSessionWords wrappedSessionRead
      wrappedAccesses_wellFormed rfl rfl rfl
      (by
        intro access member
        rw [List.mem_singleton.1 member]
        exact fun sameDirection => RingDirection.noConfusion sameDirection)
      out final run

end TcpOffload
