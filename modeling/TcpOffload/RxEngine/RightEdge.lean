import Mathlib.Tactic.Linarith
import Mathlib.Tactic.Positivity
import TcpOffload.RxEngine.AdvertisedWindow

/-!
# The right edge of the window

Between two answers of `rx_sar_table` to the TX engine the ring is written
and read.  The bytes received and the bytes read since the session was opened
are counted next to the ring, so that the right edges of the answers are
positions on one line.
-/

namespace TcpOffload

open Clocked Cyclic Guarded

/-- An answer to the TX engine, with the bytes received and read before. -/
structure Offered where
  received : Nat
  read : Nat
  winSize : BitVec 16
deriving DecidableEq, Repr

namespace Offered

/-- The right edge of the window, from the first sequence number on. -/
def edge (offered : Offered) (shift : Nat) : Nat :=
  offered.received + offered.winSize.toNat <<< shift

/-- Negative while a read has overtaken the bytes it asks for. -/
def unread (offered : Offered) : Int :=
  (offered.received : Int) - offered.read

end Offered

/-- The bytes by which the requests served so far have moved the pointers of
a session, and the last answer to the TX engine. -/
structure Counted where
  received : Nat
  read : Nat
  last : Option Offered
deriving DecidableEq, Repr

namespace Counted

def offered (counted : Counted) (entry : RxSarTableEntry) : Offered :=
  ⟨counted.received, counted.read, entry.txEngRead.winSize⟩

/-- One call of the table. -/
def served
    (counted : Counted) (id : TcpSessionID) (state : RxSarTableState) :
    Counted :=
  let entry := state.table id
  match state.txEngLups, state.rxAppReqs, state.rxEngReqs with
  | asked :: _, _, _ =>
      if asked = id then
        { counted with last := some (counted.offered entry) }
      else
        counted
  | [], req :: _, _ =>
      if req.write = true ∧ req.sessionId = id then
        { counted with
          read := counted.read + distance entry.appRead req.appRead }
      else
        counted
  | [], [], req :: _ =>
      if req.write = true ∧ req.sessionId = id then
        if req.init then
          ⟨0, 0, none⟩
        else
          { counted with
            received :=
              counted.received + distance entry.recvd req.recvd }
      else
        counted
  | [], [], [] => counted

end Counted

structure EdgeSystem where
  ring : RingSystem
  counted : Counted

namespace EdgeSystem

def start
    (id : TcpSessionID) (table : TcpSessionID → RxSarTableEntry) :
    EdgeSystem where
  ring := RingSystem.start table
  counted :=
    ⟨distance (table id).appRead ((table id).recvd.setWidth 18), 0, none⟩

def act (system : EdgeSystem) (id : TcpSessionID) (action : RingAction) :
    EdgeSystem where
  ring := system.ring.act id action
  counted :=
    match action with
    | .rxSarTable => system.counted.served id system.ring.table
    | _ => system.counted

end EdgeSystem

def EdgeStep
    (id : TcpSessionID) (system : EdgeSystem) (action : RingAction)
    (next : EdgeSystem) : Prop :=
  next = system.act id action ∧ ReadsNotified id system.ring action

/-- A relation between an answer to the TX engine and the one before it, in
sessions with a shift that a handshake gives. -/
def Successive
    (relation : Nat → Offered → Offered → Prop) (id : TcpSessionID)
    (system : EdgeSystem) (action : RingAction) : Prop :=
  match action with
  | .rxSarTable =>
      ∀ later old,
        system.ring.table.txEngLups = id :: later →
          system.counted.last = some old →
            (system.ring.entry id).winShift = 0 ∨
                (system.ring.entry id).winShift = 2 →
              relation (system.ring.entry id).winShift.toNat old
                (system.counted.offered (system.ring.entry id))
  | _ => True

/-- The edge does not move back by a whole unit of the window. -/
def KeepsEdge (shift : Nat) (old new : Offered) : Prop :=
  old.edge shift < new.edge shift + 2 ^ shift

/-- For every whole range of the window field that the unread bytes have
fallen by, as many bytes were read. -/
def KeepsTurns (shift : Nat) (old new : Offered) : Prop :=
  2 ^ (16 + shift) *
        (old.unread / 2 ^ (16 + shift) - new.unread / 2 ^ (16 + shift)) +
      (old.unread % 2 ^ shift - new.unread % 2 ^ shift) <
    (new.read : Int) - old.read + 2 ^ shift

/-! ## The edge in terms of the bytes counted -/

/-- The pointers of the entry are apart as the bytes counted say. -/
def Agree
    (received read : Nat) (entry : RxSarTableEntry) : Prop :=
  ((entry.recvd.toNat : Int) - entry.appRead.toNat - received + read) %
      2 ^ 18 =
    0

theorem Agree.freeSpace
    {received read : Nat} {entry : RxSarTableEntry}
    (agree : Agree received read entry) :
    (entry.freeSpace.toNat : Int) =
      2 ^ 18 - 1 - ((received : Int) - read) % 2 ^ 18 := by
  have total := entry.freeSpace_toNat
  have readBound := entry.appRead.isLt
  rw [Agree] at agree
  rw [distance_eq, bufferSize_eq, BitVec.toNat_setWidth] at total
  split at total <;> omega

/-- The edge is behind the bytes read by a whole range of the window field,
and by the whole ranges of bytes that are unread. -/
def Offered.Aligned (offered : Offered) (shift : Nat) : Prop :=
  (offered.edge shift : Int) =
    offered.read + 2 ^ (16 + shift) - 2 ^ shift +
        2 ^ (16 + shift) * (offered.unread / 2 ^ (16 + shift)) +
      offered.unread % 2 ^ shift

theorem Agree.aligned
    {counted : Counted} {entry : RxSarTableEntry}
    (agree : Agree counted.received counted.read entry)
    (shifted : entry.winShift = 0 ∨ entry.winShift = 2) :
    (counted.offered entry).Aligned entry.winShift.toNat := by
  have free := agree.freeSpace
  have field := entry.txEngRead_winSize_toNat
  have unread :
      (counted.offered entry).unread =
        (counted.received : Int) - counted.read :=
    rfl
  have edge :
      (counted.offered entry).edge entry.winShift.toNat =
        counted.received +
          entry.txEngRead.winSize.toNat * 2 ^ entry.winShift.toNat := by
    rw [← Nat.shiftLeft_eq]
    rfl
  rw [Offered.Aligned, edge, unread, field]
  rcases shifted with noShift | two
  · rw [noShift]
    change
      ((counted.received +
              entry.freeSpace.toNat / 1 % 65536 * 1 : Nat) : Int) =
        counted.read + 65536 - 1 + 65536 * (_ / 65536) + _ % 1
    omega
  · rw [two]
    change
      ((counted.received +
              entry.freeSpace.toNat / 4 % 65536 * 4 : Nat) : Int) =
        counted.read + 262144 - 4 + 262144 * (_ / 262144) + _ % 4
    omega

/-- Between aligned answers the edge keeps its place exactly if the unread
bytes do not fall by more ranges than were read. -/
theorem Offered.Aligned.keeps_iff_turns
    {old new : Offered} {shift : Nat} (oldAligned : old.Aligned shift)
    (newAligned : new.Aligned shift) :
    KeepsEdge shift old new ↔ KeepsTurns shift old new := by
  rw [KeepsEdge, KeepsTurns, ← Int.ofNat_lt]
  push_cast
  rw [oldAligned, newAligned, Int.mul_sub]
  constructor
  · intro keeps
    linarith
  · intro keeps
    linarith

/-! ## Runs -/

/-- The bytes counted agree with the entry, and the last answer is aligned. -/
structure Tracks
    (entry : RxSarTableEntry) (counted : Counted) : Prop where
  agree : Agree counted.received counted.read entry
  last :
    ∀ old, counted.last = some old →
      entry.winShift = 0 ∨ entry.winShift = 2 →
        old.Aligned entry.winShift.toNat

namespace Tracks

variable {entry : RxSarTableEntry} {counted : Counted}

theorem answered (tracks : Tracks entry counted) :
    Tracks entry { counted with last := some (counted.offered entry) } := by
  refine ⟨tracks.agree, fun old isOld shifted => ?_⟩
  cases isOld
  exact tracks.agree.aligned shifted

theorem appRead (tracks : Tracks entry counted) (req : RxSarAppReqRsp) :
    Tracks (entry.rxAppWrite req)
      { counted with
        read := counted.read + distance entry.appRead req.appRead } := by
  refine ⟨?_, tracks.last⟩
  have agree := tracks.agree
  have readBound := entry.appRead.isLt
  have movedBound := req.appRead.isLt
  rw [Agree] at agree ⊢
  change
    ((entry.recvd.toNat : Int) - req.appRead.toNat - counted.received +
          ((counted.read + distance entry.appRead req.appRead : Nat) :
            Int)) %
        2 ^ 18 =
      0
  rw [distance_eq]
  split <;> omega

theorem received
    (tracks : Tracks entry counted) {req : RxEngToRxSarReq}
    (noInit : req.init = false) :
    Tracks (entry.rxEngWrite req)
      { counted with
        received :=
          counted.received + distance entry.recvd req.recvd } := by
  have moved :
      entry.rxEngWrite req = { entry with recvd := req.recvd } := by
    rw [RxSarTableEntry.rxEngWrite, noInit]
    rfl
  rw [moved]
  refine ⟨?_, tracks.last⟩
  have agree := tracks.agree
  have receivedBound := entry.recvd.isLt
  have movedBound := req.recvd.isLt
  rw [Agree] at agree ⊢
  change
    ((req.recvd.toNat : Int) - entry.appRead.toNat -
            ((counted.received + distance entry.recvd req.recvd : Nat) :
              Int) +
          counted.read) %
        2 ^ 18 =
      0
  rw [distance_eq]
  split <;> omega

theorem opened {req : RxEngToRxSarReq} (isInit : req.init = true) :
    Tracks (entry.rxEngWrite req) ⟨0, 0, none⟩ := by
  have moved :
      entry.rxEngWrite req =
        ⟨req.recvd, req.recvd.setWidth 18, req.winShift⟩ := by
    rw [RxSarTableEntry.rxEngWrite, isInit]
    rfl
  rw [moved]
  refine ⟨?_, fun old isOld => by cases isOld⟩
  rw [Agree]
  change
    ((req.recvd.toNat : Int) - ((req.recvd.setWidth 18).toNat : Nat) - 0 +
          0) %
        2 ^ 18 =
      0
  rw [BitVec.toNat_setWidth]
  omega

theorem rxSarTable
    {id : TcpSessionID} {state : RxSarTableState}
    (tracks : Tracks (state.table id) counted) :
    Tracks ((rxSarTable state).1.table id)
      (counted.served id state) := by
  obtain ⟨table, txEngLups, rxAppReqs, rxEngReqs⟩ := state
  cases txEngLups with
  | cons asked later =>
      change
        Tracks (table id)
          (if asked = id then
            { counted with last := some (counted.offered (table id)) }
          else
            counted)
      by_cases own : asked = id
      · rw [if_pos own]
        exact tracks.answered
      · rw [if_neg own]
        exact tracks
  | nil =>
      cases rxAppReqs with
      | cons req later =>
          by_cases isWrite : req.write = true
          · by_cases own : req.sessionId = id
            · have tracked := tracks.appRead req
              simpa [TcpOffload.rxSarTable, Counted.served, isWrite, own,
                RxSarTableState.setEntry] using tracked
            · simpa [TcpOffload.rxSarTable, Counted.served, isWrite, own,
                RxSarTableState.setEntry,
                Function.update_of_ne (Ne.symm own)] using tracks
          · simpa [TcpOffload.rxSarTable, Counted.served, isWrite]
              using tracks
      | nil =>
          cases rxEngReqs with
          | cons req later =>
              by_cases isWrite : req.write = true
              · by_cases own : req.sessionId = id
                · cases isInit : req.init with
                  | true =>
                      have tracked : Tracks _ _ :=
                        @opened (table id) req isInit
                      simpa [TcpOffload.rxSarTable, Counted.served,
                        isWrite, own, isInit, RxSarTableState.setEntry]
                        using tracked
                  | false =>
                      have tracked := tracks.received isInit
                      simpa [TcpOffload.rxSarTable, Counted.served,
                        isWrite, own, isInit, RxSarTableState.setEntry]
                        using tracked
                · simpa [TcpOffload.rxSarTable, Counted.served, isWrite,
                    own, RxSarTableState.setEntry,
                    Function.update_of_ne (Ne.symm own)] using tracks
              · simpa [TcpOffload.rxSarTable, Counted.served, isWrite]
                  using tracks
          | nil =>
              exact tracks

end Tracks

namespace EdgeSystem

theorem tracks_start
    (id : TcpSessionID) (table : TcpSessionID → RxSarTableEntry) :
    Tracks ((start id table).ring.entry id) (start id table).counted := by
  refine ⟨?_, fun old isOld => by cases isOld⟩
  have readBound := (table id).appRead.isLt
  have receivedBound := (table id).recvd.isLt
  rw [Agree]
  change
    (((table id).recvd.toNat : Int) - (table id).appRead.toNat -
            (distance (table id).appRead ((table id).recvd.setWidth 18) :
              Int) +
          0) %
        2 ^ 18 =
      0
  rw [distance_eq, BitVec.toNat_setWidth]
  split <;> omega

theorem tracks_step
    {id : TcpSessionID} {system next : EdgeSystem} {action : RingAction}
    (tracks : Tracks (system.ring.entry id) system.counted)
    (stepped : EdgeStep id system action next) :
    Tracks (next.ring.entry id) next.counted := by
  obtain ⟨rfl, _⟩ := stepped
  cases action with
  | rxSarTable =>
      exact tracks.rxSarTable
  | _ =>
      exact tracks

/-- Between two successive answers the edge keeps its place exactly if the
unread bytes do not fall by more ranges of the window field than were
read. -/
theorem keepsEdge_iff
    (id : TcpSessionID) (table : TcpSessionID → RxSarTableEntry)
    (actions : List RingAction) :
    Along (EdgeStep id) (Successive KeepsEdge id) (start id table)
        actions ↔
      Along (EdgeStep id) (Successive KeepsTurns id) (start id table)
        actions := by
  have same :
      ∀ (system : EdgeSystem) (action : RingAction) (next : EdgeSystem),
        Tracks (system.ring.entry id) system.counted →
          EdgeStep id system action next →
            (Successive KeepsEdge id system action ↔
              Successive KeepsTurns id system action) := by
    intro system action next tracks _
    cases action with
    | rxSarTable =>
        refine forall_congr' fun later => forall_congr' fun old => ?_
        refine imp_congr_right fun _ => imp_congr_right fun isOld => ?_
        refine imp_congr_right fun shifted => ?_
        exact
          (tracks.last old isOld shifted).keeps_iff_turns
            (tracks.agree.aligned shifted)
    | _ =>
        exact Iff.rfl
  exact
    along_iff_of_invariant
      (fun _ _ _ tracks stepped => tracks_step tracks stepped) same
      (tracks_start id table)

/-! ## An unscaled session -/

/-- 33000 bytes in order, in a session without window scaling. -/
def bulkSegment (seqNumber : BitVec 32) : RxEngFsmMetaData :=
  ⟨0, 0, 0,
    ⟨seqNumber, 2000, 0xFFFF, true, false, false, false, 0, 33000⟩⟩

/-- The segment arrives, is looked up and taken, and moves the entry. -/
def takesBulk (seqNumber : BitVec 32) : List RingAction :=
  [.segment (bulkSegment seqNumber), .rxEngTcpFsm, .rxSarTable,
    .sttableRsp .established,
    .txSarRsp ⟨1000, 2000, 14600, 0x3FFFF, 0, false, 0⟩, .rxEngTcpFsm,
    .rxSarTable]

/-- The TX engine asks, and after a read of 1000 bytes it asks again. -/
def asksTwice : List RingAction :=
  [.txEngLup 0, .rxSarTable, .recvDataReq ⟨0, 1000, 0⟩,
    .rxAppDataHandler, .rxSarTable, .rxAppDataHandler, .rxSarTable,
    .txEngLup 0]

def unscaledRing : EdgeSystem :=
  start 0 fun _ => ⟨7000, 7000, 0⟩

def bulkRun : List RingAction :=
  takesBulk 7000 ++ takesBulk 40000 ++ asksTwice

theorem run_bulkRun :
    Run (EdgeStep 0) unscaledRing bulkRun
      (bulkRun.foldl (EdgeSystem.act · 0) unscaledRing) := by
  repeat'
    first
      | exact Run.refl _
      | refine Run.head ⟨rfl, ?_⟩ ?_
  all_goals
    first
      | exact trivial
      | exact fun _ => by decide +kernel
      | exact fun opens => by cases opens

/-- With 66000 bytes unread the edge is at 131071, and with 65000 unread at
66535. -/
theorem not_keepsEdge_bulk :
    ¬ ∀ actions,
        Along (EdgeStep 0) (Successive KeepsEdge 0) unscaledRing
          actions := by
  intro always
  have served :
      EdgeStep 0 (bulkRun.foldl (EdgeSystem.act · 0) unscaledRing)
        .rxSarTable _ :=
    ⟨rfl, trivial⟩
  have asks := (always (bulkRun ++ [.rxSarTable])).of_run run_bulkRun served
  have keeps :=
    asks [] ⟨66000, 0, 65071⟩ (by decide +kernel) (by decide +kernel)
      (Or.inl (by decide +kernel))
  revert keeps
  rw [KeepsEdge]
  decide +kernel

end EdgeSystem

end TcpOffload
