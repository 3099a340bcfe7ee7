import TcpOffload.Library.Guarded
import TcpOffload.RxEngine.ParseOptions
import TcpOffload.RxEngine.SarWrites
import TcpOffload.TxSarTable

/-!
# The window the peer advertises

The window field of a SYN counts in bytes and later ones in units of the
shift that came with the SYN.  The parser of the options, `RxEngTcpFsm` and
the entry of the session in `tx_sar_table` are followed from segment to
segment, next to the window the peer has in mind.
-/

namespace TcpOffload

open Clocked Guarded

/-! ## A segment with its options -/

/-- A segment of the session, with the options it came with. -/
structure PeerSegment where
  arrival : RxArrival
  options : List TcpOption

namespace PeerSegment

def header (segment : PeerSegment) : TcpHeaderMeta :=
  segment.arrival.segment.header

/-- The header is what the parser of the options makes of some record. -/
def Received (segment : PeerSegment) : Prop :=
  ∃ segMeta parsed : TcpPseudoHeaderMeta,
    segMeta.HoldsOptions segment.options ∧
      segMeta.header.winScale = 0 ∧
      ParsesOptions segMeta parsed ∧
      segment.header = parsed.header

/-- The shift that a SYN announces. -/
def announced (segment : PeerSegment) : Option (BitVec 8) :=
  if segment.header.syn then
    TcpOption.announcedShift segment.options
  else
    none

/-- The shift of a peer whose option, if any, takes part. -/
def shift (segment : PeerSegment) : Nat :=
  match segment.announced with
  | none => 0
  | some shift => shift.toNat

end PeerSegment

theorem TcpOption.announcedShift_le
    {options : List TcpOption} {shift : BitVec 8}
    (wellFormed : ∀ option ∈ options, option.WellFormed)
    (isShift : announcedShift options = some shift) :
    shift.toNat ≤ 14 := by
  induction options with
  | nil =>
      cases isShift
  | cons option later inductionHypothesis =>
      have laterFormed : ∀ option ∈ later, option.WellFormed :=
        fun other member =>
          wellFormed other (List.mem_cons_of_mem option member)
      cases option with
      | endOfList =>
          cases isShift
      | nop =>
          exact inductionHypothesis laterFormed isShift
      | windowScale own =>
          cases isShift
          exact wellFormed _ List.mem_cons_self
      | other kind value =>
          exact inductionHypothesis laterFormed isShift

/-- The parser clamps the announced shift. -/
theorem PeerSegment.Received.winScale
    {segment : PeerSegment} (received : segment.Received) :
    segment.header.winScale.toNat = min segment.shift windowScaleBits := by
  obtain ⟨segMeta, parsed, holds, noScale, parses, header⟩ := received
  have isParsed := TcpPseudoHeaderMeta.parsesOptions holds parses
  rw [PeerSegment.shift, PeerSegment.announced, header, isParsed]
  by_cases isSyn : segMeta.header.syn = true
  · rw [TcpPseudoHeaderMeta.parsedShift, if_pos isSyn]
    cases shift : TcpOption.announcedShift segment.options with
    | none =>
        simp [TcpPseudoHeaderMeta.withShift,
          TcpPseudoHeaderMeta.clearOptions, isSyn, noScale]
    | some own =>
        have small := TcpOption.announcedShift_le holds.wellFormed shift
        have clamped := segMeta.setWinScale_winScale small
        simpa [TcpPseudoHeaderMeta.withShift,
          TcpPseudoHeaderMeta.clearOptions,
          TcpPseudoHeaderMeta.setWinScale, isSyn] using clamped
  · rw [TcpPseudoHeaderMeta.parsedShift, if_neg isSyn]
    simp [TcpPseudoHeaderMeta.withShift,
      TcpPseudoHeaderMeta.clearOptions, isSyn, noScale]

/-! ## The session from segment to segment -/

/-- What the peer has in mind: its shift, and in bytes the window it last
advertised. -/
structure Peer where
  shift : Nat
  window : Nat
deriving DecidableEq, Repr

/-- `peer` is empty before the handshake. -/
structure PeerSystem where
  rxEng : RxEngState
  entry : TxSarTableEntry
  peer : Option Peer

inductive PeerAction where
  | segment (segment : PeerSegment)
  | otherSegment (arrival : RxArrival)
  | txEngWrite (req : TxEngToTxSarReq)
  | txAppWrite (req : TxAppToTxSarReq)

namespace PeerSegment

variable (segment : PeerSegment)

/-- The segment is the peer's side of a handshake. -/
def shakesHands : Bool :=
  segment.arrival.opensBySyn || segment.arrival.connects

/-- The segment moves the send window of an open connection. -/
def movesWindow : Bool :=
  segment.arrival.takesAck || segment.arrival.takesFin

/-- A reset advertises nothing, and neither does a segment without SYN and
ACK. -/
def advertises : Bool :=
  (segment.header.syn || segment.header.ack) && !segment.header.rst

/-- The window field in bytes. -/
def window (shift : Nat) : Nat :=
  if segment.header.syn then
    segment.header.winSize.toNat
  else
    segment.header.winSize.toNat <<< shift

end PeerSegment

namespace PeerSystem

variable (system : PeerSystem)

def peerAfter (segment : PeerSegment) : Option Peer :=
  if segment.shakesHands then
    some ⟨segment.shift, segment.header.winSize.toNat⟩
  else
    system.peer.map fun peer =>
      if segment.advertises then
        { peer with window := segment.window peer.shift }
      else
        peer

/-- The window the TX engine sends in is one the peer has advertised. -/
def WithinAdvertised : Prop :=
  ∀ peer, system.peer = some peer →
    system.entry.scaledRecvWindow.toNat ≤ peer.window ∧
      system.entry.minWindow.toNat ≤ peer.window

end PeerSystem

/-- Segments of the session and of others, and the accesses of the TX side to
the session's entry. -/
inductive PeerStep (id : TcpSessionID) (system : PeerSystem) :
    PeerAction → PeerSystem → Prop
  | segment {segment : PeerSegment} {msgs : List RxEngMsg}
      {final : RxEngState} :
      segment.arrival.segment.sessionId = id →
      segment.Received →
      segment.arrival.txSar = system.entry.rxEngRead →
      HandlesSegment system.rxEng segment.arrival msgs final →
      PeerStep id system (.segment segment)
        { rxEng := final
          entry :=
            (rxWrites msgs).txSarWrites.foldl TxSarTableEntry.rxEngWrite
              system.entry
          peer := system.peerAfter segment }
  | otherSegment {arrival : RxArrival} {msgs : List RxEngMsg}
      {final : RxEngState} :
      arrival.segment.sessionId ≠ id →
      HandlesSegment system.rxEng arrival msgs final →
      PeerStep id system (.otherSegment arrival)
        { system with rxEng := final }
  | txEngWrite (req : TxEngToTxSarReq) :
      PeerStep id system (.txEngWrite req)
        { system with entry := system.entry.txEngWrite req }
  | txAppWrite (req : TxAppToTxSarReq) :
      PeerStep id system (.txAppWrite req)
        { system with entry := system.entry.txAppWrite req }

/-- A handshake comes without a shift or without a window, a segment that
moves the window has a shift that is not below the stored one or no window,
and a segment that is passed over advertises no less than is stored. -/
def FitsScale (system : PeerSystem) : PeerAction → Prop
  | .segment segment =>
      if segment.shakesHands then
        segment.shift = 0 ∨ segment.header.winSize = 0
      else
        ∀ peer, system.peer = some peer →
          if segment.movesWindow then
            system.entry.winShift.toNat ≤ peer.shift ∨
              segment.header.winSize = 0
          else
            segment.advertises = true →
              system.entry.scaledRecvWindow.toNat ≤
                segment.window peer.shift
  | _ => True

/-- Every state that the action leads to is within the advertised window. -/
def StaysWithin
    (id : TcpSessionID) (system : PeerSystem) (action : PeerAction) :
    Prop :=
  ∀ next, PeerStep id system action next → next.WithinAdvertised

/-! ## Windows as numbers -/

namespace TxSarTableEntry

theorem minWindow_le (entry : TxSarTableEntry) :
    entry.minWindow.toNat ≤ entry.scaledRecvWindow.toNat := by
  rw [minWindow]
  split
  · rename_i smaller
    exact Nat.le_of_lt smaller
  · exact Nat.le_refl _

/-- With a shift of two at most, no bit of the window is lost. -/
theorem scaledRecvWindow_toNat
    {entry : TxSarTableEntry} (small : entry.winShift.toNat ≤ 2) :
    entry.scaledRecvWindow.toNat =
      entry.recvWindow.toNat <<< entry.winShift.toNat := by
  have field := entry.recvWindow.isLt
  have power : 2 ^ entry.winShift.toNat ≤ 2 ^ 2 :=
    Nat.pow_le_pow_right (by decide) small
  have fits : entry.recvWindow.toNat % 2 ^ 18 = entry.recvWindow.toNat :=
    Nat.mod_eq_of_lt (by omega)
  rw [scaledRecvWindow, BitVec.toNat_shiftLeft, BitVec.toNat_setWidth,
    fits, Nat.shiftLeft_eq]
  refine Nat.mod_eq_of_lt ?_
  calc
    entry.recvWindow.toNat * 2 ^ entry.winShift.toNat ≤
        entry.recvWindow.toNat * 2 ^ 2 :=
      Nat.mul_le_mul_left _ power
    _ < 2 ^ 18 := by omega

end TxSarTableEntry

/-- A window in larger units is not a larger one only if it is zero. -/
theorem shiftLeft_le_shiftLeft_iff (window own other : Nat) :
    window <<< own ≤ window <<< other ↔ own ≤ other ∨ window = 0 := by
  rw [Nat.shiftLeft_eq, Nat.shiftLeft_eq]
  by_cases noWindow : window = 0
  · simp [noWindow]
  · rw [Nat.mul_le_mul_left_iff (Nat.pos_of_ne_zero noWindow),
      Nat.pow_le_pow_iff_right (by decide)]
    simp [noWindow]

namespace PeerSystem

variable {system : PeerSystem}

theorem withinAdvertised_iff_scaled :
    system.WithinAdvertised ↔
      ∀ peer, system.peer = some peer →
        system.entry.scaledRecvWindow.toNat ≤ peer.window := by
  constructor
  · intro within peer isPeer
    exact (within peer isPeer).1
  · intro scaled peer isPeer
    exact
      ⟨scaled peer isPeer,
        Nat.le_trans system.entry.minWindow_le (scaled peer isPeer)⟩

/-- From the handshake on the stored shift is two at most. -/
def ShiftFits (system : PeerSystem) : Prop :=
  system.peer ≠ none → system.entry.winShift.toNat ≤ 2

/-- An action that changes neither the window nor the peer. -/
theorem WithinAdvertised.of_same
    {next : PeerSystem} (within : system.WithinAdvertised)
    (recvWindow : next.entry.recvWindow = system.entry.recvWindow)
    (winShift : next.entry.winShift = system.entry.winShift)
    (peer : next.peer = system.peer) : next.WithinAdvertised := by
  have sameScaled :
      next.entry.scaledRecvWindow = system.entry.scaledRecvWindow := by
    rw [TxSarTableEntry.scaledRecvWindow,
      TxSarTableEntry.scaledRecvWindow, recvWindow, winShift]
  rw [withinAdvertised_iff_scaled] at within ⊢
  rw [peer, sameScaled]
  exact within

end PeerSystem

theorem TxSarTableEntry.txEngWrite_window
    (entry : TxSarTableEntry) (req : TxEngToTxSarReq) :
    (entry.txEngWrite req).recvWindow = entry.recvWindow ∧
      (entry.txEngWrite req).winShift = entry.winShift := by
  rw [txEngWrite]
  split
  · exact ⟨rfl, rfl⟩
  · simp only []
    split <;> exact ⟨rfl, rfl⟩

/-! ## One segment -/

section Segment

variable {segment : PeerSegment} {system : PeerSystem}
variable {rxReqs : List RxEngToRxSarReq} {reqs : List RxEngToTxSarReq}

/-- The flags of the segments that are taken. -/
theorem PeerSegment.flags_of_movesWindow
    (moves : segment.movesWindow = true) :
    segment.advertises = true ∧ segment.header.syn = false := by
  have bits :
      segment.header.ctrlBits = 1 ∨ segment.header.ctrlBits = 5 := by
    rw [movesWindow, Bool.or_eq_true] at moves
    exact
      moves.imp (fun takes => eq_of_beq (Bool.and_eq_true_iff.1 takes).1)
        fun takes => eq_of_beq (Bool.and_eq_true_iff.1 takes).1
  have ack : segment.header.ack = true :=
    TcpHeaderMeta.ack_of_ctrlBits bits
  have syn := segment.header.ctrlBits_syn
  have rst := segment.header.ctrlBits_rst
  rw [advertises]
  rcases bits with isAck | isFin
  · rw [isAck] at syn rst
    rw [← syn, ← rst, ack]
    exact ⟨rfl, rfl⟩
  · rw [isFin] at syn rst
    rw [← syn, ← rst, ack]
    exact ⟨rfl, rfl⟩

theorem PeerSegment.shakesHands_of_movesWindow
    (moves : segment.movesWindow = true) :
    segment.shakesHands = false := by
  have notSyn := (flags_of_movesWindow moves).2
  have syn := segment.header.ctrlBits_syn
  rw [notSyn] at syn
  have noFlags (bits : BitVec 4) (withSyn : bits.getLsbD 1 = true) :
      (segment.header.ctrlBits == bits) = false := by
    refine beq_eq_false_iff_ne.2 fun isBits => ?_
    rw [isBits, withSyn] at syn
    cases syn
  rw [shakesHands, RxArrival.opensBySyn, RxArrival.connects]
  change
    (segment.header.ctrlBits == 2 && _ ||
        segment.header.ctrlBits == 3 && _) = false
  rw [noFlags 2 rfl, noFlags 3 rfl]
  rfl

/-- What a segment leaves of the stored window and shift. -/
inductive WindowAfter
    (segment : PeerSegment) (entry after : TxSarTableEntry) : Prop
  | shakesHands :
      segment.shakesHands = true →
      after.recvWindow = segment.header.winSize →
      after.winShift.toNat ≤ 2 →
      (after.winShift.toNat = 0 ↔ segment.shift = 0) →
      WindowAfter segment entry after
  | moves :
      segment.shakesHands = false →
      segment.movesWindow = true →
      after.recvWindow = segment.header.winSize →
      after.winShift = entry.winShift →
      WindowAfter segment entry after
  | keeps :
      segment.shakesHands = false →
      segment.movesWindow = false →
      after.recvWindow = entry.recvWindow →
      after.winShift = entry.winShift →
      WindowAfter segment entry after

theorem WindowUpdate.windowAfter
    {req : RxEngToTxSarReq}
    (update : WindowUpdate segment.arrival.segment req)
    (moves : segment.movesWindow = true) (entry : TxSarTableEntry) :
    WindowAfter segment entry (entry.rxEngWrite req) := by
  refine
    WindowAfter.moves (PeerSegment.shakesHands_of_movesWindow moves) moves
      update.recvWindow ?_
  rw [TxSarTableEntry.rxEngWrite, update.keepsShift]
  rfl

theorem SarWrites.windowAfter
    (writes : SarWrites segment.arrival rxReqs reqs)
    (received : segment.Received) (entry : TxSarTableEntry) :
    WindowAfter segment entry
      (reqs.foldl TxSarTableEntry.rxEngWrite entry) := by
  have winScale := received.winScale
  have two : windowScaleBits = 2 := rfl
  cases writes with
  | ignores notOpen notConnect notAck notFin =>
      refine WindowAfter.keeps ?_ ?_ rfl rfl
      · rw [PeerSegment.shakesHands, notOpen, notConnect]
        rfl
      · rw [PeerSegment.movesWindow, notAck, notFin]
        rfl
  | opens congWindow opens =>
      have hands : segment.shakesHands = true := by
        rw [PeerSegment.shakesHands, opens, Bool.true_or]
      have noScale : segment.header.winScale = 0 ↔ segment.shift = 0 := by
        rw [← BitVec.toNat_inj, winScale]
        change min segment.shift windowScaleBits = 0 ↔ _
        omega
      have shift :
          (segment.header.rxWinScale.setWidth 2).toNat =
            if segment.shift = 0 then 0 else 2 := by
        rw [TcpHeaderMeta.rxWinScale]
        by_cases none : segment.shift = 0
        · rw [if_pos (noScale.2 none), if_pos none]
          rfl
        · rw [if_neg fun isZero => none (noScale.1 isZero), if_neg none]
          rfl
      refine WindowAfter.shakesHands hands rfl ?_ ?_
      · change (segment.header.rxWinScale.setWidth 2).toNat ≤ 2
        rw [shift]
        split <;> decide
      · change (segment.header.rxWinScale.setWidth 2).toNat = 0 ↔ _
        rw [shift]
        split <;> simp_all
  | connects congWindow connects =>
      have hands : segment.shakesHands = true := by
        rw [PeerSegment.shakesHands, connects, Bool.or_true]
      have shift :
          (segment.header.winScale.setWidth 4).setWidth 2 =
            segment.header.winScale := by
        rw [BitVec.setWidth_setWidth_of_le _ (by decide),
          BitVec.setWidth_eq]
      refine WindowAfter.shakesHands hands rfl ?_ ?_
      · change
          ((segment.header.winScale.setWidth 4).setWidth 2).toNat ≤ 2
        rw [shift, winScale]
        omega
      · change
          ((segment.header.winScale.setWidth 4).setWidth 2).toNat = 0 ↔ _
        rw [shift, winScale]
        omega
  | takesAck takes _ update =>
      refine update.windowAfter ?_ entry
      rw [PeerSegment.movesWindow, takes, Bool.true_or]
  | takesPayload takes update =>
      refine update.windowAfter ?_ entry
      rw [PeerSegment.movesWindow, (Bool.and_eq_true_iff.1 takes).1,
        Bool.true_or]
  | takesFin takes update =>
      refine update.windowAfter ?_ entry
      rw [PeerSegment.movesWindow, takes, Bool.or_true]

/-- The stored shift stays small. -/
theorem WindowAfter.shiftFits
    {next : PeerSystem} (after : WindowAfter segment system.entry next.entry)
    (isPeer : next.peer = system.peerAfter segment)
    (fits : system.ShiftFits) : next.ShiftFits := by
  intro hasPeer
  cases after with
  | shakesHands _ _ small _ =>
      exact small
  | moves notHands _ _ sameShift | keeps notHands _ _ sameShift =>
      rw [isPeer, PeerSystem.peerAfter, notHands,
        if_neg Bool.false_ne_true] at hasPeer
      rw [sameShift]
      refine fits fun noPeer => hasPeer ?_
      rw [noPeer]
      rfl

/-- After a segment the stored window is within the advertised one exactly if
the segment fits the scale. -/
theorem WindowAfter.withinAdvertised_iff
    {next : PeerSystem} (after : WindowAfter segment system.entry next.entry)
    (isPeer : next.peer = system.peerAfter segment)
    (fits : system.ShiftFits) (within : system.WithinAdvertised) :
    next.WithinAdvertised ↔ FitsScale system (.segment segment) := by
  have nextFits := after.shiftFits isPeer fits
  have noWindow :
      segment.header.winSize.toNat = 0 ↔ segment.header.winSize = 0 := by
    rw [← BitVec.toNat_inj]
    rfl
  rw [PeerSystem.withinAdvertised_iff_scaled] at within ⊢
  rw [PeerSystem.ShiftFits] at nextFits
  rw [isPeer, PeerSystem.peerAfter] at nextFits ⊢
  rw [FitsScale]
  cases after with
  | shakesHands hands recvWindow small noShift =>
      rw [if_pos hands, if_pos hands]
      have scaled := TxSarTableEntry.scaledRecvWindow_toNat small
      have bounded :=
        shiftLeft_le_shiftLeft_iff segment.header.winSize.toNat
          next.entry.winShift.toNat 0
      rw [Nat.shiftLeft_zero, Nat.le_zero, noShift, noWindow] at bounded
      simp only [Option.some.injEq, forall_eq', scaled, recvWindow]
      exact bounded
  | moves notHands moves recvWindow sameShift =>
      obtain ⟨advertises, notSyn⟩ := PeerSegment.flags_of_movesWindow moves
      rw [notHands, if_neg Bool.false_ne_true] at nextFits ⊢
      cases hasPeer : system.peer with
      | none =>
          simp
      | some peer =>
          rw [hasPeer] at nextFits
          have scaled :=
            TxSarTableEntry.scaledRecvWindow_toNat
              (nextFits (Option.some_ne_none _))
          have bounded :=
            shiftLeft_le_shiftLeft_iff segment.header.winSize.toNat
              system.entry.winShift.toNat peer.shift
          rw [noWindow] at bounded
          simp only [Option.map_some, Option.some.injEq, forall_eq',
            advertises, moves, if_true, scaled, recvWindow, sameShift,
            PeerSegment.window, notSyn, Bool.false_eq_true, if_false]
          exact bounded
  | keeps notHands notMoves recvWindow sameShift =>
      have scaled :
          next.entry.scaledRecvWindow = system.entry.scaledRecvWindow := by
        rw [TxSarTableEntry.scaledRecvWindow,
          TxSarTableEntry.scaledRecvWindow, recvWindow, sameShift]
      rw [notHands, if_neg Bool.false_ne_true]
      cases hasPeer : system.peer with
      | none =>
          simp
      | some peer =>
          have before := within peer hasPeer
          by_cases advertises : segment.advertises = true
          · simp [advertises, notMoves, scaled]
          · simp [advertises, notMoves, scaled, before]

end Segment

/-! ## Runs -/

namespace PeerStep

variable {id : TcpSessionID} {system next : PeerSystem}
variable {action : PeerAction}

theorem shiftFits
    (stepped : PeerStep id system action next)
    (fits : system.ShiftFits) : next.ShiftFits := by
  cases stepped with
  | segment isOwn received txSar handles =>
      exact
        (handles.sarWrites.windowAfter received
          system.entry).shiftFits rfl fits
  | otherSegment isOther handles =>
      exact fits
  | txEngWrite req =>
      intro hasPeer
      change (system.entry.txEngWrite req).winShift.toNat ≤ 2
      rw [(system.entry.txEngWrite_window req).2]
      exact fits hasPeer
  | txAppWrite req =>
      exact fits

theorem withinAdvertised_iff
    (stepped : PeerStep id system action next)
    (fits : system.ShiftFits) (within : system.WithinAdvertised) :
    next.WithinAdvertised ↔ FitsScale system action := by
  cases stepped with
  | segment isOwn received txSar handles =>
      exact
        (handles.sarWrites.windowAfter received
          system.entry).withinAdvertised_iff rfl fits within
  | otherSegment isOther handles =>
      exact iff_of_true within trivial
  | txEngWrite req =>
      have window := system.entry.txEngWrite_window req
      refine iff_of_true ?_ trivial
      exact within.of_same window.1 window.2 rfl
  | txAppWrite req =>
      refine iff_of_true ?_ trivial
      exact within.of_same rfl rfl rfl

end PeerStep

namespace PeerSystem

/-- A session before its handshake, with any registers and any entry. -/
def start (rxEng : RxEngState) (entry : TxSarTableEntry) : PeerSystem :=
  ⟨rxEng, entry, none⟩

/-- The TX engine's window stays within the advertised one along a run
exactly if every segment of the run fits the scale. -/
theorem staysWithin_iff
    (id : TcpSessionID) (rxEng : RxEngState) (entry : TxSarTableEntry)
    (actions : List PeerAction) :
    Along (PeerStep id) (StaysWithin id) (start rxEng entry) actions ↔
      Along (PeerStep id) FitsScale (start rxEng entry) actions := by
  have initially :
      (start rxEng entry).ShiftFits ∧
        (start rxEng entry).WithinAdvertised :=
    ⟨fun hasPeer => absurd rfl hasPeer, fun peer isPeer => by cases isPeer⟩
  have step_iff :
      ∀ state action next,
        state.ShiftFits ∧ state.WithinAdvertised →
          PeerStep id state action next →
            next.ShiftFits ∧
              (next.WithinAdvertised ↔ FitsScale state action) :=
    fun state action next invariant stepped =>
      ⟨stepped.shiftFits invariant.1,
        stepped.withinAdvertised_iff invariant.1 invariant.2⟩
  have staysWithin_step :
      ∀ state action next,
        state.ShiftFits ∧ state.WithinAdvertised →
          PeerStep id state action next →
            (StaysWithin id state action ↔ FitsScale state action) := by
    intro state action next invariant stepped
    constructor
    · intro stays
      exact
        (step_iff state action next invariant stepped).2.1
          (stays next stepped)
    · intro fitsScale other otherStep
      exact (step_iff state action other invariant otherStep).2.2 fitsScale
  have preserved :
      ∀ state action next,
        state.ShiftFits ∧ state.WithinAdvertised →
          FitsScale state action →
            PeerStep id state action next →
              next.ShiftFits ∧ next.WithinAdvertised := by
    intro state action next invariant fitsScale stepped
    obtain ⟨shiftFits, within⟩ :=
      step_iff state action next invariant stepped
    exact ⟨shiftFits, within.2 fitsScale⟩
  have preservedToo :
      ∀ state action next,
        state.ShiftFits ∧ state.WithinAdvertised →
          StaysWithin id state action →
            PeerStep id state action next →
              next.ShiftFits ∧ next.WithinAdvertised := by
    intro state action next invariant stays stepped
    exact
      preserved state action next invariant
        ((staysWithin_step state action next invariant stepped).1 stays)
        stepped
  constructor
  · intro along
    refine along_of_invariant preservedToo ?_ initially along
    intro state action next invariant stays stepped
    exact (staysWithin_step state action next invariant stepped).1 stays
  · intro along
    refine along_of_invariant preserved ?_ initially along
    intro state action next invariant fitsScale stepped
    exact
      (staysWithin_step state action next invariant stepped).2 fitsScale

/-! ## A SYN with a window scale -/

/-- The record of a SYN with the options `03 03 07 01`. -/
def scaledSynRecord : TcpPseudoHeaderMeta where
  srcIp := 0
  destIp := 0
  srcPort := 0
  destPort := 0
  dataOffset := 6
  cwr := false
  ecn := false
  urg := false
  psh := false
  header := ⟨0, 0, 8000, false, false, true, false, 0, 0⟩
  tcpOptions := 0x01070303

/-- A SYN to a closed session with a window of 8000 and a shift of 7. -/
def scaledSyn : PeerSegment where
  arrival :=
    { segment :=
        ⟨0, 0, 0, ⟨0, 0, 8000, false, false, true, false, 2, 0⟩⟩
      sessionState := .closed
      rxSar := ⟨0, 0, 0⟩
      txSar := ⟨0, 0, 0, 0, 0, false, 0⟩ }
  options := [.windowScale 7, .nop]

theorem scaledSynRecord_holdsOptions :
    scaledSynRecord.HoldsOptions scaledSyn.options where
  wellFormed := by
    intro option member
    rcases List.mem_cons.1 member with isFirst | isLater
    · rw [isFirst]
      exact Nat.le_of_ble_eq_true rfl
    · rw [List.mem_singleton.1 isLater]
      trivial
  length := by decide
  byte := by decide +kernel

theorem scaledSyn_received : scaledSyn.Received := by
  obtain ⟨final, yields⟩ :=
    TcpPseudoHeaderMeta.yields_options scaledSynRecord_holdsOptions
      ⟨.readMeta, scaledSynRecord, 0, 0, []⟩ rfl
  exact
    ⟨scaledSynRecord, _, scaledSynRecord_holdsOptions, rfl,
      ⟨_, final, rfl, yields⟩, by decide⟩

/-- A design at its start, with an empty entry. -/
def restingSession : PeerSystem :=
  start RxEngState.start ⟨0, 0, 0, 0, 0, 0, 0, 0, false, false, false⟩

/-- The window of the SYN is stored with a shift it does not count with. -/
theorem not_staysWithin_scaledSyn :
    ¬ ∀ actions,
        Along (PeerStep 0) (StaysWithin 0) restingSession actions := by
  intro always
  have stepped :=
    @PeerStep.segment 0 restingSession scaledSyn _ _ rfl
      scaledSyn_received rfl
      (handlesSegment RxEngState.start scaledSyn.arrival)
  obtain ⟨stays, _⟩ := always [.segment scaledSyn] _ stepped
  have bounded := (stays _ stepped ⟨7, 8000⟩ (by decide)).1
  revert bounded
  decide

end PeerSystem

end TcpOffload
