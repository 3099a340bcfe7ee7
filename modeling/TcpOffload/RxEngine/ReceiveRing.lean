import TcpOffload.Library.Cyclic
import TcpOffload.Library.Guarded
import TcpOffload.Library.Lookup
import TcpOffload.MemoryAccess.SessionRing
import TcpOffload.RxAppIntf
import TcpOffload.RxEngine.Exits

/-!
# The receive ring of a session

`RxEngTcpFsm` moves `recvd` and `RxAppDataHandler` moves `app_read`, both
through `rx_sar_table`.  The three run side by side here; the bytes from
`app_read` up to `recvd` are the ones the application has not read.
-/

namespace TcpOffload

open Clocked Cyclic Guarded

/-! ## Free space -/

/-- The free space is what one byte less than the ring leaves over the bytes
from `app_read` up to `recvd`. -/
theorem RxSarTableEntry.freeSpace_toNat (entry : RxSarTableEntry) :
    entry.freeSpace.toNat + 1 +
        distance entry.appRead (entry.recvd.setWidth 18) =
      bufferSize := by
  have readBound := entry.appRead.isLt
  have receivedBound := (entry.recvd.setWidth 18).isLt
  have one : (1 : BitVec 18).toNat = 1 := rfl
  rw [freeSpace, distance_eq, BitVec.toNat_sub, BitVec.toNat_sub, one,
    bufferSize_eq]
  split <;> omega

theorem payloadLength_toNat (header : TcpHeaderMeta) :
    (header.payloadLength.setWidth 18).toNat =
      header.payloadLength.toNat := by
  have bound := header.payloadLength.isLt
  rw [BitVec.toNat_setWidth]
  exact Nat.mod_eq_of_lt (by omega)

/-- The payload is stored where the ring keeps its sequence numbers. -/
theorem RxEngFsmMetaData.payloadCmd_offset (segment : RxEngFsmMetaData) :
    segment.payloadCmd.offset = segment.header.seqNumber.setWidth 18 := by
  rw [payloadCmd, MemBufferRWCmd.ofAddr, MemBufferRWCmd.offset,
    getSessionMemAddr_offset]

/-- Bytes stored from `received` on, short of a full turn, are not among those
from `read` up to `received`. -/
theorem not_inside_stored
    {read received : TcpSessionBuffer} {length index : Nat}
    (short : distance read received + (length + 1) < 2 ^ 18)
    (stored : index < length) :
    ¬ Inside read (received + BitVec.ofNat 18 index) received := by
  refine not_inside_add ?_
  rw [BitVec.toNat_ofNat, Nat.mod_eq_of_lt (by omega)]
  omega

/-! ## One segment -/

/-- A FIN+ACK that is taken with more payload than there is free space. -/
def RxArrival.finOverruns (arrival : RxArrival) : Bool :=
  arrival.segment.header.ctrlBits == 5 &&
    (arrival.sessionState.takesFin &&
      arrival.rxSar.recvd == arrival.segment.header.seqNumber) &&
    decide
      (arrival.rxSar.freeSpace.toNat <
        arrival.segment.header.payloadLength.toNat)

/-- No more bytes go to memory than there is free space. -/
def StoresFree (arrival : RxArrival) (msgs : List RxEngMsg) : Prop :=
  ∀ cmd ∈ (rxWrites msgs).memCmds,
    cmd.length.toNat ≤ arrival.rxSar.freeSpace.toNat

/-- What handling a segment does to the receive ring. -/
inductive RingExit (state : RxEngState) : RxWrites → Prop
  | untouched {writes : RxWrites} :
      writes.memCmds = [] →
      writes.rxSarWrites = [] →
      state.takesFin = false ∨ state.rxEngCtrlBits ≠ 5 →
      RingExit state writes
  | opened {writes : RxWrites} {req : RxEngToRxSarReq} :
      writes.memCmds = [] →
      writes.rxSarWrites = [req] →
      req.init = true →
      state.rxEngCtrlBits ≠ 5 →
      RingExit state writes
  | stored {writes : RxWrites} :
      writes.memCmds = [state.tcpRxMetaReg.payloadCmd] →
      writes.rxSarWrites =
        [RxEngToRxSarReq.update state.tcpRxMetaReg.sessionId
          state.payloadEnd] →
      state.rxSarReg.recvd = state.tcpRxMetaReg.header.seqNumber →
      state.tcpRxMetaReg.header.payloadLength.toNat <
        state.rxSarReg.freeSpace.toNat →
      state.rxEngCtrlBits ≠ 5 →
      RingExit state writes
  | closed {writes : RxWrites} :
      writes.memCmds =
        (if state.tcpRxMetaReg.header.payloadLength ≠ 0 then
          [state.tcpRxMetaReg.payloadCmd]
        else
          []) →
      writes.rxSarWrites =
        [RxEngToRxSarReq.update state.tcpRxMetaReg.sessionId
          (state.payloadEnd + 1)] →
      state.rxSarReg.recvd = state.tcpRxMetaReg.header.seqNumber →
      state.takesFin = true →
      state.rxEngCtrlBits = 5 →
      RingExit state writes

theorem rxEngHandle_ring (state : RxEngState) :
    RingExit state (rxWrites (rxEngHandle state).2) := by
  have exit := rxEngHandle_exit state
  generalize rxWrites (rxEngHandle state).2 = writes at exit ⊢
  cases exit with
  | ackOutside isAck | ackInside isAck | ackDropped isAck
  | ackRefused isAck =>
      exact
        RingExit.untouched rfl rfl (Or.inr (by rw [isAck]; decide))
  | ackTaken isAck _ _ _ _ accepts =>
      rw [RxSarTableEntry.acceptsPayload, Bool.and_eq_true, beq_iff_eq,
        decide_eq_true_iff, BitVec.lt_def, payloadLength_toNat] at accepts
      exact
        RingExit.stored rfl rfl accepts.1.symm accepts.2
          (by rw [isAck]; decide)
  | synTaken isSyn _ isInit =>
      exact RingExit.opened rfl rfl isInit (by rw [isSyn]; decide)
  | synAckTaken isSynAck _ isInit =>
      exact RingExit.opened rfl rfl isInit (by rw [isSynAck]; decide)
  | finTaken isFin takes =>
      have inOrder := takes
      rw [RxEngState.takesFin, Bool.and_eq_true, beq_iff_eq] at inOrder
      exact RingExit.closed rfl rfl inOrder.2 takes isFin
  | finRefused _ refuses =>
      exact RingExit.untouched rfl rfl (Or.inl refuses)
  | releases _ notFin =>
      exact RingExit.untouched rfl rfl (Or.inr notFin)

/-- The segments that store within the free space are all but the FIN+ACKs
taken with more payload. -/
theorem storesFree_iff (regs : RxEngState) (arrival : RxArrival) :
    (∃ msgs final,
        HandlesSegment regs arrival msgs final ∧
        StoresFree arrival msgs) ↔
      arrival.finOverruns = false := by
  have handles := handlesSegment regs arrival
  have noLookup :
      (rxWrites
          (rxLookups arrival.segment ++
            (rxEngHandle (regs.answered arrival)).2)).memCmds =
        (rxWrites (rxEngHandle (regs.answered arrival)).2).memCmds := by
    rw [rxWrites_append, rxWrites_rxLookups]
    rfl
  have exit := rxEngHandle_ring (regs.answered arrival)
  have onlyThis :
      (∃ msgs final,
          HandlesSegment regs arrival msgs final ∧
          StoresFree arrival msgs) ↔
        ∀ cmd ∈
            (rxWrites
              (rxEngHandle (regs.answered arrival)).2).memCmds,
          cmd.length.toNat ≤ arrival.rxSar.freeSpace.toNat := by
    rw [← noLookup]
    constructor
    · rintro ⟨msgs, final, otherHandles, stores⟩
      rw [(otherHandles.unique handles).1] at stores
      exact stores
    · intro stores
      exact ⟨_, _, handles, stores⟩
  rw [onlyThis]
  have otherFlags (notFin : arrival.segment.header.ctrlBits ≠ 5) :
      arrival.finOverruns = false := by
    rw [RxArrival.finOverruns, beq_eq_false_iff_ne.2 notFin]
    rfl
  generalize
    rxWrites (rxEngHandle (regs.answered arrival)).2 = writes at exit ⊢
  cases exit with
  | untouched noCmds _ noFin =>
      refine iff_of_true ?_ ?_
      · rw [noCmds]
        intro cmd member
        cases member
      · rcases noFin with refuses | notFin
        · change
            (arrival.sessionState.takesFin &&
                arrival.rxSar.recvd ==
                  arrival.segment.header.seqNumber) =
              false at refuses
          rw [RxArrival.finOverruns, refuses, Bool.and_false]
          rfl
        · exact otherFlags notFin
  | opened noCmds _ _ notFin =>
      refine iff_of_true ?_ (otherFlags notFin)
      rw [noCmds]
      intro cmd member
      cases member
  | stored cmds _ _ fits notFin =>
      refine iff_of_true ?_ (otherFlags notFin)
      rw [cmds]
      intro cmd member
      rw [List.mem_singleton.1 member]
      exact Nat.le_of_lt fits
  | closed cmds _ _ takes isFin =>
      change
        writes.memCmds =
          if arrival.segment.header.payloadLength ≠ 0 then
            [arrival.segment.payloadCmd]
          else
            [] at cmds
      change
        (arrival.sessionState.takesFin &&
            arrival.rxSar.recvd == arrival.segment.header.seqNumber) =
          true at takes
      change arrival.segment.header.ctrlBits = 5 at isFin
      rw [cmds, RxArrival.finOverruns, isFin, takes]
      change _ ↔ decide _ = false
      rw [decide_eq_false_iff_not, Nat.not_lt]
      by_cases empty : arrival.segment.header.payloadLength = 0
      · refine iff_of_true ?_ ?_
        · rw [if_neg (not_not_intro empty)]
          intro cmd member
          cases member
        · rw [empty]
          exact Nat.zero_le _
      · rw [if_pos empty]
        constructor
        · intro stores
          exact stores _ List.mem_cons_self
        · intro fits cmd member
          rw [List.mem_singleton.1 member]
          exact fits

/-! ## Notified bytes -/

/-- The bytes of payload the application is told about. -/
def notifiedBytes
    (notifications : List AppNotificationNoTDEST) : Nat :=
  (notifications.map fun notification => notification.length.toNat).sum

def storedBytes (cmds : List MemBufferRWCmd) : Nat :=
  (cmds.map fun cmd => cmd.length.toNat).sum

/-- The message stores nothing and tells the application of no bytes. -/
def RxEngMsg.isSilent : RxEngMsg → Bool
  | .memCmd _ => false
  | .rxAppNotify notification => notification.length == 0
  | _ => true

/-- As many bytes are stored as the application is told about. -/
structure Balanced (msgs : List RxEngMsg) : Prop where
  bytes :
    notifiedBytes (msgs.filterMap RxEngMsg.toRxApp) =
      storedBytes (rxWrites msgs).memCmds

namespace Balanced

variable {first second : List RxEngMsg}

theorem append (left : Balanced first) (right : Balanced second) :
    Balanced (first ++ second) := by
  constructor
  change
    notifiedBytes ((first ++ second).filterMap RxEngMsg.toRxApp) =
      storedBytes ((first ++ second).filterMap RxEngMsg.memWrite)
  rw [List.filterMap_append, List.filterMap_append, notifiedBytes,
    storedBytes, List.map_append, List.map_append, List.sum_append,
    List.sum_append]
  exact congrArg₂ (· + ·) left.bytes right.bytes

theorem ite {condition : Prop} [Decidable condition]
    (left : Balanced first) (right : Balanced second) :
    Balanced (if condition then first else second) := by
  split
  · exact left
  · exact right

theorem takePayload (segment : RxEngFsmMetaData) (closed : Bool) :
    Balanced (segment.takePayload closed) :=
  ⟨rfl⟩

theorem cons {msg : RxEngMsg} {later : List RxEngMsg}
    (noBytes : msg.isSilent = true) (rest : Balanced later) :
    Balanced (msg :: later) := by
  have alone : Balanced [msg] := by
    cases msg with
    | memCmd cmd =>
        cases noBytes
    | rxAppNotify notification =>
        have empty : notification.length = 0 := eq_of_beq noBytes
        refine ⟨?_⟩
        change notification.length.toNat + 0 = 0
        rw [empty]
        rfl
    | _ =>
        exact ⟨rfl⟩
  exact append alone rest

end Balanced

/-- Handling a segment tells the application about the bytes it stores. -/
theorem rxEngHandle_balanced (state : RxEngState) :
    Balanced (rxEngHandle state).2 := by
  have nil : Balanced [] := ⟨rfl⟩
  have dropPayload (segment : RxEngFsmMetaData) :
      Balanced segment.dropPayload :=
    Balanced.ite (Balanced.cons rfl nil) nil
  have ackedAll
      (segment : RxEngFsmMetaData) (sessionState : SessionState) :
      Balanced (rxEngAckedAll segment sessionState) := by
    cases sessionState <;> exact ⟨rfl⟩
  rw [rxEngHandle, rxEngAck, rxEngSyn, rxEngSynAck, rxEngFinAck,
    rxEngDefault]
  simp only [rxEngAckAccepted, rxEngFinState]
  repeat' first
    | exact nil
    | exact dropPayload _
    | exact ackedAll _ _
    | exact Balanced.takePayload _ _
    | refine Balanced.append ?_ ?_
    | refine Balanced.ite ?_ ?_
    | refine Balanced.cons rfl ?_
    | split

/-! ## The machine, the table and the application's reads side by side -/

/-- `unread` are the bytes of the session that the application was told about
and has not yet asked for. -/
structure RingSystem where
  fsm : RxEngState
  table : RxSarTableState
  app : RxAppDataState
  unread : Nat

/-- Calls of the three processes, and what reaches them from elsewhere. -/
inductive RingAction where
  | rxEngTcpFsm
  | rxSarTable
  | rxAppDataHandler
  | segment (segment : RxEngFsmMetaData)
  | sttableRsp (state : SessionState)
  | txSarRsp (rsp : TxSarToRxEngRsp)
  | recvDataReq (req : AppReadReq)
  | readData (word : NetAXISWord)
  | txEngLup (id : TcpSessionID)

def RxSarTableMsg.toRxEng : RxSarTableMsg → Option RxSarTableEntry
  | .rxEngRsp entry => some entry
  | _ => none

def RxSarTableMsg.toRxApp : RxSarTableMsg → Option RxSarAppReqRsp
  | .rxAppRsp rsp => some rsp
  | _ => none

def RxAppDataMsg.toRxSar : RxAppDataMsg → Option RxSarAppReqRsp
  | .rxSarReq req => some req
  | _ => none

/-- The messages open the session anew. -/
def opensSession (id : TcpSessionID) (msgs : List RxEngMsg) : Bool :=
  (msgs.filterMap RxEngMsg.toRxSar).any fun req =>
    req.init && req.sessionId == id

/-- The bytes of the session the application is told about. -/
def sessionNotified (id : TcpSessionID) (msgs : List RxEngMsg) : Nat :=
  notifiedBytes
    ((msgs.filterMap RxEngMsg.toRxApp).filter fun notification =>
      notification.sessionId == id)

namespace RingSystem

def start (table : TcpSessionID → RxSarTableEntry) : RingSystem where
  fsm := RxEngState.start
  table := ⟨table, [], [], []⟩
  app := RxAppDataState.start
  unread := 0

/-- `msgs` of the machine reach the table and the application.  A connection
starts with nothing to read. -/
def afterFsm
    (system : RingSystem) (id : TcpSessionID) (fsm : RxEngState)
    (msgs : List RxEngMsg) : RingSystem :=
  { system with
    fsm := fsm
    table :=
      { system.table with
        rxEngReqs :=
          system.table.rxEngReqs ++ msgs.filterMap RxEngMsg.toRxSar }
    unread :=
      if opensSession id msgs then
        0
      else
        system.unread + sessionNotified id msgs }

/-- `msgs` of the table reach the machine and the read handler. -/
def afterTable
    (system : RingSystem) (table : RxSarTableState)
    (msgs : List RxSarTableMsg) : RingSystem :=
  { system with
    fsm :=
      { system.fsm with
        rxSarRsps :=
          system.fsm.rxSarRsps ++ msgs.filterMap RxSarTableMsg.toRxEng }
    table := table
    app :=
      { system.app with
        rxSarRsps :=
          system.app.rxSarRsps ++
            msgs.filterMap RxSarTableMsg.toRxApp } }

/-- `msgs` of the read handler reach the table. -/
def afterApp
    (system : RingSystem) (app : RxAppDataState)
    (msgs : List RxAppDataMsg) : RingSystem :=
  { system with
    table :=
      { system.table with
        rxAppReqs :=
          system.table.rxAppReqs ++ msgs.filterMap RxAppDataMsg.toRxSar }
    app := app }

def act (system : RingSystem) (id : TcpSessionID) :
    RingAction → RingSystem
  | .rxEngTcpFsm =>
      let called := TcpOffload.rxEngTcpFsm system.fsm
      system.afterFsm id called.1 called.2
  | .rxSarTable =>
      let called := TcpOffload.rxSarTable system.table
      system.afterTable called.1 called.2
  | .rxAppDataHandler =>
      let called := TcpOffload.rxAppDataHandler system.app
      system.afterApp called.1 called.2
  | .segment segment =>
      { system with
        fsm :=
          { system.fsm with
            metaDatas := system.fsm.metaDatas ++ [segment] } }
  | .sttableRsp state =>
      { system with
        fsm :=
          { system.fsm with
            sttableRsps := system.fsm.sttableRsps ++ [state] } }
  | .txSarRsp rsp =>
      { system with
        fsm :=
          { system.fsm with
            txSarRsps := system.fsm.txSarRsps ++ [rsp] } }
  | .recvDataReq req =>
      { system with
        app :=
          { system.app with
            recvDataReqs := system.app.recvDataReqs ++ [req] }
        unread :=
          if req.sessionId = id then
            system.unread - req.readLength.toNat
          else
            system.unread }
  | .readData word =>
      { system with
        app :=
          { system.app with
            readData := system.app.readData ++ [word] } }
  | .txEngLup id =>
      { system with
        table :=
          { system.table with
            txEngLups := system.table.txEngLups ++ [id] } }

def entry (system : RingSystem) (id : TcpSessionID) : RxSarTableEntry :=
  system.table.table id

/-- No read of the session is under way. -/
structure ReadsDone (system : RingSystem) (id : TcpSessionID) : Prop where
  requests :
    ∀ req ∈ system.app.recvDataReqs,
      req.sessionId = id → req.readLength = 0
  accesses : ∀ req ∈ system.table.rxAppReqs, req.sessionId ≠ id
  answers : ∀ rsp ∈ system.app.rxSarRsps, rsp.sessionId ≠ id

end RingSystem

/-- The application asks for no more bytes of the session than it was told
about, and has no read under way when the session is opened anew. -/
def ReadsNotified (id : TcpSessionID) (system : RingSystem) :
    RingAction → Prop
  | .recvDataReq req =>
      req.sessionId = id → req.readLength.toNat ≤ system.unread
  | .rxEngTcpFsm =>
      opensSession id (rxEngTcpFsm system.fsm).2 = true →
        system.ReadsDone id
  | _ => True

/-- One step of a run in which the application reads what it was told
about. -/
def RingStep
    (id : TcpSessionID) (system : RingSystem) (action : RingAction)
    (next : RingSystem) : Prop :=
  next = system.act id action ∧ ReadsNotified id system action

/-- Every FIN+ACK of the session that is taken passes the test which the ACK
case makes on its payload. -/
def FinsFit (id : TcpSessionID) (system : RingSystem) :
    RingAction → Prop
  | .rxEngTcpFsm =>
      system.fsm.fsmState = .transition →
        ∀ loaded,
          system.fsm.takeAnswers = some loaded →
            loaded.tcpRxMetaReg.sessionId = id →
              loaded.rxEngCtrlBits = 5 →
                loaded.takesFin = true →
                  loaded.tcpRxMetaReg.header.payloadLength.toNat <
                    loaded.rxSarReg.freeSpace.toNat
  | _ => True

/-- A payload that is stored fits the free space.  The unread bytes are those
from the entry's `app_read` up to `recvd`, and none of them is stored over. -/
def KeepsUnread (id : TcpSessionID) (system : RingSystem) :
    RingAction → Prop
  | .rxEngTcpFsm =>
      system.fsm.fsmState = .transition →
        ∀ loaded,
          system.fsm.takeAnswers = some loaded →
            loaded.tcpRxMetaReg.sessionId = id →
              ∀ cmd ∈ (rxWrites (rxEngHandle loaded).2).memCmds,
                cmd.length.toNat ≤ loaded.rxSarReg.freeSpace.toNat ∧
                  system.unread ≤
                    distance (system.entry id).appRead
                      (loaded.rxSarReg.recvd.setWidth 18) ∧
                  ∀ index < cmd.length.toNat,
                    ¬ Inside (system.entry id).appRead
                        (cmd.offset + BitVec.ofNat 18 index)
                        (loaded.rxSarReg.recvd.setWidth 18)
  | _ => True

end TcpOffload
