import TcpOffload.Library.Ascending
import TcpOffload.Library.Cyclic
import TcpOffload.Library.Guarded
import TcpOffload.TxAppIntf
import TcpOffload.TxEngine.PayloadReads

/-!
# The send buffer of a session

One session's entry in the TX SAR table between its three writers: the TX
engine handling `TX`, `RT` and `FIN` events, the RX engine acknowledging, and
the application writing.  Every message between them may be delayed, and the
writers take their steps in any order.
-/

namespace TcpOffload

open Ascending Cyclic

/-! ## The system -/

/-- Data granted to the application whose write status is outstanding, and
the sequence number behind the data as far as its event tells. -/
structure AppWrite where
  event : Event
  position : BitVec 32
deriving DecidableEq, Repr

/-- `firstUnwritten` and `grantedTo` are history: the sequence number behind
the data that is in the buffer, and behind the data granted. -/
structure SendSession where
  entry : TxSarTableEntry
  engineWrites : List TxEngToTxSarReq
  appTable : TxAppTableEntry
  ackUpdates : List TxSarToTxAppReq
  appWrites : List AppWrite
  firstUnwritten : BitVec 32
  grantedTo : BitVec 32
deriving DecidableEq, Repr

namespace SendSession

/-- A session whose SYN with sequence number `isn` was sent over whatever the
entry held before. -/
def start
    (old : TxSarTableEntry) (oldApp : TxAppTableEntry)
    (id : TcpSessionID) (isn : BitVec 32) : SendSession where
  entry := old.txEngWrite (TxEngToTxSarReq.initialise id (isn + 1))
  engineWrites := []
  appTable := oldApp.txSarUpdate ⟨id, (isn + 1).setWidth 18, true⟩
  ackUpdates := []
  appWrites := []
  firstUnwritten := isn + 1
  grantedTo := isn + 1

/-- The sequence numbers from `ackd` up to the first byte the application has
not written.  There are none when the acknowledgement of a FIN has moved
`ackd` past that byte. -/
def InSendBuffer (session : SendSession) (byte : BitVec 32) : Prop :=
  distance session.entry.ackd session.firstUnwritten < bufferSize ∧
    Inside session.entry.ackd byte session.firstUnwritten

/-- The data of a granted request, as its event describes it. -/
def appWrite
    (session : SendSession) (id : TcpSessionID)
    (length : TcpSessionBuffer) : AppWrite :=
  let event := session.appTable.txEvent id length
  ⟨event, session.grantedTo + event.length.setWidth 32⟩

end SendSession

/-- The steps of the writers and of the queues between them. -/
inductive SendAction where
  | event (regs : TxEngState) (event : EventWithTuple)
      (rxRsp : RxSarLookupRsp)
  | engineWrite
  | ack (req : RxEngToTxSarReq)
  | ackUpdate
  | appRequest (length : TcpSessionBuffer)
  | appStatus (okay : Bool)

/-- The event types that move data or close the session. -/
def EventType.movesData : EventType → Bool
  | .tx | .rt | .fin => true
  | .ack | .syn | .synAck | .rst | .ackNodelay | .rtCont => false

/-- One step.  The lookup of an event is answered when the engine's earlier
writes, in the same queue before it, are done. -/
inductive SendStep (id : TcpSessionID) :
    SendSession → SendAction → SendSession → Prop
  | event {session : SendSession} {regs : TxEngState}
      {event : EventWithTuple} {rxRsp : RxSarLookupRsp}
      {msgs : List TxEngMsg} {final : TxEngState} :
      session.engineWrites = [] →
      event.type.movesData = true →
      event.sessionId = id →
      HandlesEvent regs event rxRsp session.entry.txEngRead msgs final →
      SendStep id session (.event regs event rxRsp)
        { session with engineWrites := sarWrites msgs }
  | engineWrite {session : SendSession} {req : TxEngToTxSarReq}
      {later : List TxEngToTxSarReq} :
      session.engineWrites = req :: later →
      SendStep id session .engineWrite
        { session with
          entry := session.entry.txEngWrite req
          engineWrites := later }
  | ack {session : SendSession} {req : RxEngToTxSarReq} :
      SendStep id session (.ack req)
        { session with
          entry := session.entry.rxEngWrite req
          ackUpdates :=
            session.ackUpdates ++ [⟨id, req.ackd.setWidth 18, false⟩] }
  | ackUpdate {session : SendSession} {req : TxSarToTxAppReq}
      {later : List TxSarToTxAppReq} :
      session.ackUpdates = req :: later →
      SendStep id session .ackUpdate
        { session with
          appTable := session.appTable.txSarUpdate req
          ackUpdates := later }
  | appRequest {session : SendSession} {length : TcpSessionBuffer} :
      length ≤ session.appTable.maxWriteLength →
      SendStep id session (.appRequest length)
        { session with
          appTable := session.appTable.grant length
          appWrites := session.appWrites ++ [session.appWrite id length]
          grantedTo := session.grantedTo + length.setWidth 32 }
  | appStatusOkay {session : SendSession} {write : AppWrite}
      {later : List AppWrite} :
      session.appWrites = write :: later →
      SendStep id session (.appStatus true)
        { session with
          entry :=
            session.entry.txAppWrite
              (TxAppToTxSarReq.ofEvent write.event)
          appWrites := later
          firstUnwritten := write.position }
  | appStatusFailed {session : SendSession} {write : AppWrite}
      {later : List AppWrite} :
      session.appWrites = write :: later →
      SendStep id session (.appStatus false)
        { session with appWrites := later }

/-! ## What is to hold -/

/-- Every payload segment and every byte read from the buffer belongs to the
data the application has written and the peer has not acknowledged. -/
structure KeepsToWritten
    (session : SendSession) (msgs : List TxEngMsg) : Prop where
  sent :
    ∀ segment ∈ (segments msgs).filter TxEngFsmMetaData.carriesPayload,
      ∀ index < segment.length.toNat,
        session.InSendBuffer
          (segment.seqNumber + BitVec.ofNat 32 index)
  read :
    ∀ cmd ∈ memReadCmds msgs, ∀ index < cmd.length.toNat,
      ∃ byte,
        session.InSendBuffer byte ∧
          cmd.offset + BitVec.ofNat 18 index = byte.setWidth 18

def SendsWritten (session : SendSession) : SendAction → Prop
  | .event regs event rxRsp =>
      ∀ msgs final,
        HandlesEvent regs event rxRsp session.entry.txEngRead msgs final →
          KeepsToWritten session msgs
  | _ => True

/-- No `TX` event while everything up to a sent FIN is sent and the window is
open, no `RT` event after the FIN was acknowledged or one that reads further
segments from the wrong place, and no `ackd` outside the window. -/
def SendGuard (session : SendSession) : SendAction → Prop
  | .event _ event _ =>
      (event.type = .tx →
        session.entry.notAckd = session.firstUnwritten + 1 →
          session.entry.usableWindow = 0) ∧
      (event.type = .rt →
        (session.entry.finIsSent = true →
          session.entry.ackd ≠ session.entry.notAckd) ∧
        RetransmissionReadsRing session.entry.txEngRead)
  | .ack req =>
      Between session.entry.ackd req.ackd session.entry.notAckd
  | _ => True

/-! ## Positions without wrap-around -/

/-- Pending pointer writes only move forward, and pass the written data only
with a FIN. -/
inductive EngineWrites (written : Nat) :
    Nat → Bool → List TxEngToTxSarReq → Prop
  | nil {notAckd : Nat} {finIsSent : Bool} :
      EngineWrites written notAckd finIsSent []
  | threshold {notAckd : Nat} {finIsSent : Bool}
      {req : TxEngToTxSarReq} {later : List TxEngToTxSarReq} :
      req.retransReq = true →
      EngineWrites written notAckd finIsSent later →
      EngineWrites written notAckd finIsSent (req :: later)
  | pointer {notAckd value : Nat} {finIsSent : Bool}
      {req : TxEngToTxSarReq} {later : List TxEngToTxSarReq} :
      notAckd ≤ value →
      value ≤ written + (req.finIsSent || finIsSent).toNat →
      req.notAckd = BitVec.ofNat 32 value →
      req.retransReq = false →
      req.init = false →
      EngineWrites written value (req.finIsSent || finIsSent) later →
      EngineWrites written notAckd finIsSent (req :: later)

theorem EngineWrites.written_le
    {written further notAckd : Nat} {finIsSent : Bool}
    {writes : List TxEngToTxSarReq}
    (pending : EngineWrites written notAckd finIsSent writes)
    (moved : written ≤ further) :
    EngineWrites further notAckd finIsSent writes := by
  induction pending with
  | nil =>
      exact EngineWrites.nil
  | threshold isThreshold _ inductionHypothesis =>
      exact EngineWrites.threshold isThreshold inductionHypothesis
  | pointer forward inside shown noThreshold noInit _
      inductionHypothesis =>
      exact
        EngineWrites.pointer forward
          (Nat.le_trans inside (Nat.add_le_add_right moved _)) shown
          noThreshold noInit inductionHypothesis

theorem engineWrites_append_thresholds
    {written notAckd : Nat} {finIsSent : Bool}
    {thresholds writes : List TxEngToTxSarReq}
    (onlyThresholds : ∀ req ∈ thresholds, req.retransReq = true)
    (pending : EngineWrites written notAckd finIsSent writes) :
    EngineWrites written notAckd finIsSent (thresholds ++ writes) := by
  induction thresholds with
  | nil =>
      exact pending
  | cons req later inductionHypothesis =>
      exact
        EngineWrites.threshold
          (onlyThresholds req List.mem_cons_self)
          (inductionHypothesis fun other member =>
            onlyThresholds other (List.mem_cons_of_mem req member))

/-- Where the pointers of a session stand, counted without wrap-around. -/
structure SendPositions where
  ackd : Nat
  notAckd : Nat
  written : Nat
  granted : Nat
  appAckd : Nat

/-- The session's registers and queues show the positions, and the positions
are in order: what is sent is written, but for a FIN, and what is granted
fits the buffer. -/
structure SendSession.Placed
    (session : SendSession) (positions : SendPositions) : Prop where
  ackd : session.entry.ackd = BitVec.ofNat 32 positions.ackd
  notAckd : session.entry.notAckd = BitVec.ofNat 32 positions.notAckd
  appWritten :
    session.entry.appWritten = BitVec.ofNat 18 positions.written
  firstUnwritten :
    session.firstUnwritten = BitVec.ofNat 32 positions.written
  appWrittenIdeal :
    session.appTable.appWrittenIdeal = BitVec.ofNat 18 positions.granted
  grantedTo : session.grantedTo = BitVec.ofNat 32 positions.granted
  appAckd :
    session.appTable.ackd = BitVec.ofNat 18 positions.appAckd
  ordered : positions.ackd ≤ positions.notAckd
  sentWritten :
    positions.notAckd ≤
      positions.written + session.entry.finIsSent.toNat
  engineWrites :
    EngineWrites positions.written positions.notAckd
      session.entry.finIsSent session.engineWrites
  ackUpdates :
    Ascends
      (fun (req : TxSarToTxAppReq) value =>
        req.init = false ∧ req.ackd = BitVec.ofNat 18 value)
      positions.appAckd positions.ackd session.ackUpdates
  appWrites :
    Ascends
      (fun (write : AppWrite) value =>
        write.position = BitVec.ofNat 32 value ∧
          (TxAppToTxSarReq.ofEvent write.event).appWritten =
            BitVec.ofNat 18 value)
      positions.written positions.granted session.appWrites
  room : positions.granted < positions.appAckd + bufferSize

/-- The invariant of the send buffer. -/
def SendInvariant (session : SendSession) : Prop :=
  ∃ positions, session.Placed positions

theorem ofNat18_sub_toNat
    {origin point : Nat} (ordered : origin ≤ point)
    (short : point - origin < 2 ^ 18) :
    (BitVec.ofNat 18 point -
        (BitVec.ofNat 32 origin).setWidth 18).toNat =
      point - origin := by
  rw [BitVec.setWidth_ofNat_of_le (by decide)]
  exact distance_ofNat ordered short

namespace SendSession.Placed

variable {session : SendSession} {positions : SendPositions}

theorem written_lt (placed : session.Placed positions) :
    positions.written < positions.ackd + 2 ^ 18 := by
  have granted := placed.appWrites.le
  have seen := placed.ackUpdates.le
  have room := placed.room
  rw [bufferSize_eq] at room
  omega

/-- The bytes from `ackd` up to the written data are the send buffer. -/
theorem inSendBuffer
    (placed : session.Placed positions) {byte : Nat}
    (notBefore : positions.ackd ≤ byte)
    (before : byte < positions.written) :
    session.InSendBuffer (BitVec.ofNat 32 byte) := by
  have bound := placed.written_lt
  have total :
      distance session.entry.ackd session.firstUnwritten =
        positions.written - positions.ackd := by
    rw [placed.ackd, placed.firstUnwritten]
    exact distance_ofNat (by omega) (by omega)
  have toByte :
      distance session.entry.ackd (BitVec.ofNat 32 byte) =
        byte - positions.ackd := by
    rw [placed.ackd]
    exact distance_ofNat notBefore (by omega)
  refine ⟨?_, ?_⟩
  · rw [total, bufferSize_eq]
    omega
  · rw [Inside, total, toByte]
    omega

theorem currLength
    (placed : session.Placed positions)
    (unsent : positions.notAckd ≤ positions.written) :
    session.entry.currLength.toNat =
      positions.written - positions.notAckd := by
  have bound := placed.written_lt
  have ordered := placed.ordered
  rw [TxSarTableEntry.currLength, placed.appWritten, placed.notAckd]
  exact ofNat18_sub_toNat unsent (by omega)

/-- The bytes to retransmit end where the written data does. -/
theorem usedLengthRst
    (placed : session.Placed positions)
    (notAcked :
      session.entry.finIsSent = true →
        session.entry.ackd ≠ session.entry.notAckd) :
    positions.ackd + session.entry.txEngRead.usedLengthRst.toNat ≤
      positions.written := by
  have bound := placed.written_lt
  have ordered := placed.ordered
  have sentWritten := placed.sentWritten
  have used :
      session.entry.usedLength =
        BitVec.ofNat 18 (positions.notAckd - positions.ackd) := by
    obtain ⟨gap, total⟩ := Nat.exists_eq_add_of_le ordered
    rw [TxSarTableEntry.usedLength, placed.notAckd, placed.ackd,
      BitVec.setWidth_ofNat_of_le (by decide),
      BitVec.setWidth_ofNat_of_le (by decide), total,
      Nat.add_sub_cancel_left, BitVec.ofNat_add, BitVec.add_comm,
      BitVec.add_sub_cancel]
  change
    positions.ackd +
        (session.entry.usedLength -
          (BitVec.ofBool session.entry.finIsSent).setWidth 18).toNat ≤
      positions.written
  rw [used]
  cases finIsSent : session.entry.finIsSent with
  | false =>
      rw [finIsSent] at sentWritten
      have noPhantom :
          (BitVec.ofBool false).setWidth 18 = (0 : BitVec 18) := rfl
      have whole :
          BitVec.ofNat 18 (positions.notAckd - positions.ackd) -
              (0 : BitVec 18) =
            BitVec.ofNat 18 (positions.notAckd - positions.ackd) :=
        BitVec.sub_zero _
      rw [noPhantom, whole, BitVec.toNat_ofNat]
      simp only [Bool.toNat_false] at sentWritten
      omega
  | true =>
      rw [finIsSent] at sentWritten
      have different : positions.ackd ≠ positions.notAckd := by
        intro same
        refine notAcked finIsSent ?_
        rw [placed.ackd, placed.notAckd, same]
      have phantom :
          (BitVec.ofBool true).setWidth 18 = (1 : BitVec 18) := rfl
      obtain ⟨gap, total⟩ :=
        Nat.exists_eq_add_of_lt (Nat.lt_of_le_of_ne ordered different)
      have rest :
          BitVec.ofNat 18 (positions.notAckd - positions.ackd) -
              (1 : BitVec 18) =
            BitVec.ofNat 18 gap := by
        rw [total, Nat.add_assoc, Nat.add_sub_cancel_left,
          BitVec.ofNat_add]
        exact BitVec.add_sub_cancel _ _
      rw [phantom, rest, BitVec.toNat_ofNat]
      simp only [Bool.toNat_true] at sentWritten
      omega

end SendSession.Placed

end TcpOffload
