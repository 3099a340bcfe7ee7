import TcpOffload.RxEngine.RingRuns
import TcpOffload.RxEngine.StreamRuns

/-!
# The unread bytes fit the ring

The bytes of a connection that were accepted and not yet read reach no further
than from the entry's `app_read` once around the ring.  So a payload is never
stored over one of them, and the two counts are as far apart as the two
pointers.
-/

namespace TcpOffload

open Cyclic Guarded Lookup

namespace Delivery

/-- The bytes accepted so far, a FIN counting as one. -/
def entered (stream : Delivery) : Nat :=
  stream.total + stream.finished.toNat

/-- From `appRead` on the ring holds all that was not read. -/
def FitsBehind (stream : Delivery) (appRead : TcpSessionBuffer) : Prop :=
  stream.entered ≤
    stream.bytesRead +
      distance appRead
        (BitVec.ofNat 18 (stream.first.toNat + stream.entered))

variable {stream : Delivery} {appRead : TcpSessionBuffer}

theorem fitsBehind_start (first : BitVec 32) :
    (Delivery.start first).FitsBehind appRead :=
  Nat.zero_le _

theorem FitsBehind.short (fits : stream.FitsBehind appRead) :
    stream.entered < stream.bytesRead + 2 ^ 18 :=
  Nat.lt_of_le_of_lt fits (Nat.add_lt_add_left (distance_lt _ _) _)

/-- Seen from the byte that is read next, too. -/
theorem FitsBehind.current
    (fits : stream.FitsBehind appRead)
    (inside : stream.bytesRead ≤ stream.total) :
    stream.FitsBehind
      (BitVec.ofNat 18 (stream.first.toNat + stream.bytesRead)) := by
  have short := fits.short
  have behind : stream.bytesRead ≤ stream.entered :=
    Nat.le_add_right_of_le inside
  have gap :
      distance
          (BitVec.ofNat 18 (stream.first.toNat + stream.bytesRead))
          (BitVec.ofNat 18 (stream.first.toNat + stream.entered)) =
        stream.entered - stream.bytesRead := by
    rw [distance_ofNat (Nat.add_le_add_left behind _) (by omega)]
    omega
  rw [FitsBehind, gap]
  omega

theorem FitsBehind.read
    (fits : stream.FitsBehind appRead) (cmds : List MemBufferRWCmd) :
    (stream.read cmds).FitsBehind appRead := by
  have more : stream.bytesRead ≤ (stream.read cmds).bytesRead := by
    rw [bytesRead, bytesRead, Delivery.read, storedBytes, storedBytes,
      List.map_append, List.sum_append]
    exact Nat.le_add_right _ _
  exact Nat.le_trans fits (Nat.add_le_add_right more _)

theorem total_handle (stream : Delivery) (handled : Handled) :
    (stream.handle handled).total = stream.total + handled.payload := by
  rw [total, handle, List.map_append, List.sum_append]
  rfl

theorem finished_handle (stream : Delivery) (handled : Handled) :
    (stream.handle handled).finished =
      (stream.finished || handled.isFin) := by
  rw [finished, handle, List.any_append]
  exact congrArg (stream.finished || ·) (Bool.or_false _)

/-- A segment that is not accepted. -/
theorem FitsBehind.keep
    {handled : Handled} (fits : stream.FitsBehind appRead)
    (refused : handled.arrival.accepted = false) :
    (stream.handle handled).FitsBehind appRead := by
  have same : (stream.handle handled).entered = stream.entered := by
    rw [entered, total_handle, finished_handle, Handled.payload,
      Handled.isFin, refused, Bool.false_and, Bool.or_false]
    rfl
  rw [FitsBehind, same]
  exact fits

/-- A segment that is accepted and fits behind what is there. -/
theorem FitsBehind.accept
    {handled : Handled} (fits : stream.FitsBehind appRead)
    (takes : handled.arrival.accepted = true)
    (noFin : stream.finished = false)
    (short :
      distance appRead
            (BitVec.ofNat 18 (stream.first.toNat + stream.entered)) +
          (handled.arrival.segment.header.payloadLength.toNat + 1) <
        2 ^ 18) :
    (stream.handle handled).FitsBehind appRead := by
  have grown :
      (stream.handle handled).entered =
        stream.entered +
          (handled.arrival.segment.header.payloadLength.toNat +
            handled.isFin.toNat) := by
    rw [entered, entered, total_handle, finished_handle, noFin,
      Handled.payload, if_pos takes, Bool.false_or]
    change _ + _ + _ = _ + 0 + _
    omega
  have fin := Bool.toNat_le handled.isFin
  have added :
      (BitVec.ofNat 18
          (handled.arrival.segment.header.payloadLength.toNat +
            handled.isFin.toNat)).toNat =
        handled.arrival.segment.header.payloadLength.toNat +
          handled.isFin.toNat := by
    rw [BitVec.toNat_ofNat]
    exact Nat.mod_eq_of_lt (by omega)
  have further :
      distance appRead
          (BitVec.ofNat 18
            (stream.first.toNat + (stream.handle handled).entered)) =
        distance appRead
            (BitVec.ofNat 18 (stream.first.toNat + stream.entered)) +
          (handled.arrival.segment.header.payloadLength.toNat +
            handled.isFin.toNat) := by
    rw [grown, ← Nat.add_assoc, BitVec.ofNat_add,
      distance_add _ (by omega), added]
  refine Nat.le_trans (Nat.le_of_eq grown) ?_
  refine Nat.le_trans (Nat.add_le_add_right fits _) ?_
  rw [Nat.add_assoc, ← further]
  exact Nat.le_refl _

end Delivery

/-! ## Runs -/

/-- The unread bytes of the session are within one turn of its ring. -/
def StreamSystem.InOneTurn (id : TcpSessionID) (system : StreamSystem) :
    Prop :=
  ∀ stream,
    system.stream = some stream →
      stream.FitsBehind (system.ring.entry id).appRead

theorem RxEngState.of_handling
    {state loaded : RxEngState} {id : TcpSessionID}
    (handles : state.handling id = some loaded) :
    state.fsmState = .transition ∧ state.takeAnswers = some loaded ∧
      loaded.tcpRxMetaReg.sessionId = id := by
  rw [handling] at handles
  split at handles
  · cases handles
  · rename_i transition
    obtain ⟨answers, own⟩ := Option.filter_eq_some_iff.1 handles
    exact ⟨transition, answers, beq_iff_eq.1 own⟩

/-- A segment that is accepted fits the free space that was answered. -/
theorem accepted_short
    {loaded : RxEngState}
    (takes : loaded.arrival.accepted = true)
    (flags :
      loaded.rxEngCtrlBits = loaded.tcpRxMetaReg.header.ctrlBits)
    (finsFit :
      loaded.rxEngCtrlBits = 5 → loaded.takesFin = true →
        loaded.tcpRxMetaReg.header.payloadLength.toNat <
          loaded.rxSarReg.freeSpace.toNat) :
    loaded.tcpRxMetaReg.header.payloadLength.toNat <
      loaded.rxSarReg.freeSpace.toNat := by
  by_cases isAck : loaded.arrival.segment.header.ctrlBits = 1
  · rw [RxArrival.accepted_of_ack isAck] at takes
    simp only [Bool.and_eq_true, RxSarTableEntry.acceptsPayload,
      decide_eq_true_eq] at takes
    have fits := takes.1.2.2
    rw [BitVec.lt_def, payloadLength_toNat] at fits
    exact fits
  · by_cases isFin : loaded.arrival.segment.header.ctrlBits = 5
    · rw [RxArrival.accepted_of_fin isFin] at takes
      exact finsFit (flags.trans isFin) takes
    · rw [RxArrival.accepted_of_other isAck isFin] at takes
      cases takes

/-- `recvd` in the ring, counted from the first sequence number. -/
theorem setWidth_recvd (first : BitVec 32) (count : Nat) :
    (first + BitVec.ofNat 32 count).setWidth 18 =
      BitVec.ofNat 18 (first.toNat + count) := by
  apply BitVec.eq_of_toNat_eq
  rw [BitVec.toNat_setWidth, BitVec.toNat_add, BitVec.toNat_ofNat,
    BitVec.toNat_ofNat, Nat.add_mod_mod]
  exact Nat.mod_mod_of_dvd _ (by decide)

namespace StreamSystem

variable {id : TcpSessionID} {system : StreamSystem}

theorem InOneTurn.rxEngTcpFsm
    (inOneTurn : system.InOneTurn id) (kept : system.Kept id)
    (ringKept : system.ring.Kept id)
    (finsFit : FinsFit id system.ring .rxEngTcpFsm)
    (upToFin : UpToFin id system .rxEngTcpFsm) :
    (system.act id .rxEngTcpFsm).InOneTurn id := by
  intro stream isStream
  change recorded system id .rxEngTcpFsm = some stream at isStream
  change stream.FitsBehind (system.ring.entry id).appRead
  rw [recorded] at isStream
  cases handles : system.ring.fsm.handling id with
  | none =>
      rw [handles] at isStream
      exact inOneTurn stream isStream
  | some loaded =>
      rw [handles] at isStream
      obtain ⟨before, isBefore, rfl⟩ := Option.map_eq_some_iff.1 isStream
      have fits := inOneTurn before isBefore
      cases takes : loaded.arrival.accepted with
      | false =>
          exact fits.keep takes
      | true =>
          obtain ⟨transition, answers, own⟩ :=
            RxEngState.of_handling handles
          have delivered := kept.delivered isBefore
          obtain ⟨_, _, _, streaming, _⟩ := kept
          obtain ⟨_, received, invariant⟩ := ringKept
          have took := takesAnswers answers
          have flags :
              loaded.rxEngCtrlBits =
                loaded.tcpRxMetaReg.header.ctrlBits := by
            rw [took.ctrlBits, took.segment]
            exact streaming.flags transition
          have phase := invariant.recvd
          rw [took.rxSarRsps] at phase
          obtain ⟨_, answer, _, noReqs⟩ := phase.of_answered
          have ownInHand := own
          rw [took.segment] at ownInHand
          have short :=
            RingInvariant.short_of_fits answer ownInHand
              (accepted_short takes flags
                (finsFit transition loaded answers own))
          have recvd : system.ring.recvd id =
              (system.ring.entry id).recvd := by
            rw [RingSystem.recvd, noReqs]
            rfl
          have isReceived :
              received =
                BitVec.ofNat 18
                  (before.first.toNat + before.entered) := by
            rw [← answer.settled, ← recvd, delivered.recvd]
            exact setWidth_recvd _ _
          rw [isReceived] at short
          refine fits.accept takes ?_ short
          cases isFin : before.finished with
          | false =>
              rfl
          | true =>
              have refused := upToFin before isBefore isFin loaded handles
              exact absurd (refused.symm.trans takes) (by decide)

/-- What a call of the table does to the entry's `app_read`. -/
inductive AppReadMoves
    (state : RxSarTableState) (id : TcpSessionID)
    (next : TcpSessionBuffer) : Prop
  | stays : next = (state.table id).appRead → AppReadMoves state id next
  | moved {req : RxSarAppReqRsp} :
      req ∈ state.rxAppReqs →
      req.write = true →
      req.sessionId = id →
      next = req.appRead →
      AppReadMoves state id next
  | opened {first : BitVec 32} :
      state.opening id = some first →
      AppReadMoves state id next

theorem rxSarTable_appRead (state : RxSarTableState) (id : TcpSessionID) :
    AppReadMoves state id
      ((TcpOffload.rxSarTable state).1.table id).appRead := by
  have elsewhere {other : TcpSessionID} {entry : RxSarTableEntry}
      (notOwn : other ≠ id) :
      (Function.update state.table other entry id).appRead =
        (state.table id).appRead := by
    rw [Function.update_of_ne (Ne.symm notOwn)]
  have here {other : TcpSessionID} {entry : RxSarTableEntry}
      (own : other = id) :
      (Function.update state.table other entry id).appRead =
        entry.appRead := by
    rw [own, Function.update_self]
  rw [TcpOffload.rxSarTable]
  split
  · exact AppReadMoves.stays rfl
  · rename_i req later noLups rxAppReqs
    by_cases isWrite : req.write = true
    · simp only [if_pos isWrite]
      by_cases own : req.sessionId = id
      · refine AppReadMoves.moved ?_ isWrite own ?_
        · rw [rxAppReqs]
          exact List.mem_cons_self
        · exact here own
      · exact AppReadMoves.stays (elsewhere own)
    · simp only [if_neg isWrite]
      exact AppReadMoves.stays rfl
  · rename_i req later noLups noReqs rxEngReqs
    by_cases isWrite : req.write = true
    · simp only [if_pos isWrite]
      by_cases own : req.sessionId = id
      · by_cases isInit : req.init = true
        · refine @AppReadMoves.opened _ _ _ req.recvd ?_
          rw [RxSarTableState.opening, noLups, noReqs, rxEngReqs]
          simp only [isWrite, isInit, own, beq_self_eq_true]
          rfl
        · refine AppReadMoves.stays ((here own).trans ?_)
          rw [RxSarTableEntry.rxEngWrite, if_neg isInit, own]
      · exact AppReadMoves.stays (elsewhere own)
    · simp only [if_neg isWrite]
      exact AppReadMoves.stays rfl
  · exact AppReadMoves.stays rfl

/-- What is on its way from the read handler is its `app_read`. -/
theorem appRead_of_mem
    {reading : TcpSessionID} {entered read : TcpSessionBuffer}
    {sent : Bool} {rsps reqs : List RxSarAppReqRsp}
    (phase : ReaderPhase id entered read reading sent rsps reqs)
    {req : RxSarAppReqRsp} (isIn : req ∈ reqs)
    (isWrite : req.write = true) (own : req.sessionId = id) :
    req.appRead = read := by
  have ofWrites {writes : List RxSarAppReqRsp}
      (pending :
        Writes (entered = read)
          (fun req => req.write = true ∧ req.sessionId ≠ id)
          (ReaderWrite id read) writes)
      (isInWrites : req ∈ writes) : req.appRead = read := by
    rcases pending.of_mem isInWrites with isOther | isOwn
    · exact absurd own isOther.2
    · exact isOwn.appRead
  cases phase with
  | idle pending =>
      exact ofWrites pending isIn
  | asked pending =>
      rcases List.mem_append.1 isIn with isInWrites | isLookup
      · exact ofWrites pending isInWrites
      · rw [List.mem_singleton.1 isLookup] at isWrite
        cases isWrite
  | answered =>
      cases isIn

theorem InOneTurn.rxSarTable
    (inOneTurn : system.InOneTurn id) (kept : system.Kept id) :
    (system.act id .rxSarTable).InOneTurn id := by
  intro stream isStream
  change recorded system id .rxSarTable = some stream at isStream
  change
    stream.FitsBehind
      ((TcpOffload.rxSarTable system.ring.table).1.table id).appRead
  rw [recorded] at isStream
  cases opening : system.ring.table.opening id with
  | some first =>
      rw [opening] at isStream
      cases isStream
      exact Delivery.fitsBehind_start first
  | none =>
      rw [opening] at isStream
      have fits := inOneTurn stream isStream
      have inside := (kept.delivered isStream).inside
      obtain ⟨_, _, _, streaming, follows⟩ := kept
      have moves := rxSarTable_appRead system.ring.table id
      generalize
        ((TcpOffload.rxSarTable system.ring.table).1.table id).appRead =
          next at moves ⊢
      cases moves with
      | stays same =>
          rw [same]
          exact fits
      | moved isIn isWrite own isNext =>
          rw [isNext, appRead_of_mem streaming.appRead isIn isWrite own,
            (follows stream isStream).appRead]
          exact fits.current inside
      | opened isOpening =>
          rw [opening] at isOpening
          cases isOpening

/-- A step keeps the unread bytes within one turn. -/
theorem InOneTurn.step {next : StreamSystem} {action : RingAction}
    (inOneTurn : system.InOneTurn id) (kept : system.Kept id)
    (ringKept : system.ring.Kept id)
    (finsFit : FinsFit id system.ring action)
    (stepped : StreamStep id system action next) :
    next.InOneTurn id := by
  obtain ⟨rfl, _, upToFin⟩ := stepped
  cases action with
  | rxEngTcpFsm =>
      exact inOneTurn.rxEngTcpFsm kept ringKept finsFit upToFin
  | rxSarTable =>
      exact inOneTurn.rxSarTable kept
  | rxAppDataHandler =>
      intro stream isStream
      obtain ⟨before, isBefore, rfl⟩ := Option.map_eq_some_iff.1 isStream
      exact (inOneTurn before isBefore).read _
  | recvDataReq req =>
      intro stream isStream
      obtain ⟨before, isBefore, rfl⟩ := Option.map_eq_some_iff.1 isStream
      exact inOneTurn before isBefore
  | segment | sttableRsp | txSarRsp | readData | txEngLup =>
      exact inOneTurn

end StreamSystem

end TcpOffload
