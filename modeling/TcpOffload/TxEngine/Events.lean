import TcpOffload.Library.Process
import TcpOffload.TxEngine.Fsm

/-!
# Handling one event

The outputs of `TxEngTcpFsm` by kind, and runs of the machine from an event
in its queue, with the answers to the event's lookups behind it, until it is
back in `LOAD`.
-/

namespace TcpOffload

open Clocked

/-! ## Outputs by kind -/

namespace TxEngMsg

def segment : TxEngMsg → Option TxEngFsmMetaData
  | .metaData segment => some segment
  | _ => none

def readCmd : TxEngMsg → Option MemBufferRWCmd
  | .memReadCmd cmd => some cmd
  | _ => none

def sarWrite : TxEngMsg → Option TxEngToTxSarReq
  | .txSarReq req => if req.write then some req else none
  | _ => none

end TxEngMsg

/-- The segments handed to header construction. -/
def segments (msgs : List TxEngMsg) : List TxEngFsmMetaData :=
  msgs.filterMap TxEngMsg.segment

/-- The commands that read payload from the TX ring. -/
def memReadCmds (msgs : List TxEngMsg) : List MemBufferRWCmd :=
  msgs.filterMap TxEngMsg.readCmd

/-- The write requests to the TX SAR table. -/
def sarWrites (msgs : List TxEngMsg) : List TxEngToTxSarReq :=
  msgs.filterMap TxEngMsg.sarWrite

section Projections

variable (first second : List TxEngMsg)

@[simp]
theorem segments_append :
    segments (first ++ second) = segments first ++ segments second :=
  List.filterMap_append

@[simp]
theorem memReadCmds_append :
    memReadCmds (first ++ second) =
      memReadCmds first ++ memReadCmds second :=
  List.filterMap_append

@[simp]
theorem sarWrites_append :
    sarWrites (first ++ second) = sarWrites first ++ sarWrites second :=
  List.filterMap_append

end Projections

/-- A segment that carries payload; the length of a SYN counts options. -/
def TxEngFsmMetaData.carriesPayload (segment : TxEngFsmMetaData) : Bool :=
  segment.length != 0 && !segment.syn

/-- The command that reads a segment's payload where the ring stores the
segment's sequence numbers. -/
def TxEngFsmMetaData.readCmd
    (id : TcpSessionID) (segment : TxEngFsmMetaData) : MemBufferRWCmd :=
  MemBufferRWCmd.ofAddr
    (getSessionMemAddr .tx id (segment.seqNumber.setWidth 18))
    segment.length

section PayloadBlock

variable (id : TcpSessionID) (addr : BitVec 32)
variable (segment : TxEngFsmMetaData)

@[simp]
theorem segments_payloadMsgs :
    segments (payloadMsgs id addr segment) =
      if segment.length ≠ 0 then [segment] else [] := by
  rw [payloadMsgs]
  split <;> rfl

@[simp]
theorem memReadCmds_payloadMsgs :
    memReadCmds (payloadMsgs id addr segment) =
      if segment.length ≠ 0 then
        [MemBufferRWCmd.ofAddr addr segment.length]
      else
        [] := by
  rw [payloadMsgs]
  split <;> rfl

@[simp]
theorem sarWrites_payloadMsgs :
    sarWrites (payloadMsgs id addr segment) = [] := by
  rw [payloadMsgs]
  split <;> rfl

end PayloadBlock

/-! ## From an event to the next -/

/-- The machine in `LOAD` with one event queued and the answers to the
event's lookups, as far as it makes any. -/
def TxEngState.feed
    (regs : TxEngState) (event : EventWithTuple)
    (rxRsp : RxSarLookupRsp) (txRsp : TxSarToTxEngRsp) : TxEngState :=
  { regs with
    fsmState := .load
    events := [event]
    rxSarRsps := if event.looksUpRxSar then [rxRsp] else []
    txSarRsps := if event.looksUpTxSar then [txRsp] else [] }

/-- The machine handles the event: it writes `msgs` and comes to rest. -/
def HandlesEvent
    (regs : TxEngState) (event : EventWithTuple)
    (rxRsp : RxSarLookupRsp) (txRsp : TxSarToTxEngRsp)
    (msgs : List TxEngMsg) (final : TxEngState) : Prop :=
  Yields txEngTcpFsm (regs.feed event rxRsp txRsp) msgs final

/-- The machine after the `LOAD` call of an event. -/
def TxEngState.loaded
    (regs : TxEngState) (event : EventWithTuple)
    (rxRsp : RxSarLookupRsp) (txRsp : TxSarToTxEngRsp) : TxEngState :=
  { regs.feed event rxRsp txRsp with
    fsmState := .transition
    txRxSarLoaded := false
    txEngEventReg := event
    retransSegCnt := 0
    events := [] }

/-- Back in `LOAD` with every stream read. -/
structure TxEngState.AtRest (state : TxEngState) : Prop where
  fsmState : state.fsmState = .load
  events : state.events = []

theorem HandlesEvent.unique
    {regs first second : TxEngState} {event : EventWithTuple}
    {rxRsp : RxSarLookupRsp} {txRsp : TxSarToTxEngRsp}
    {msgs other : List TxEngMsg}
    (left : HandlesEvent regs event rxRsp txRsp msgs first)
    (right : HandlesEvent regs event rxRsp txRsp other second) :
    msgs = other :=
  (Yields.unique left right).1

/-- In `LOAD` without an event one more call clears the segment counter. -/
theorem txEngTcpFsm_yields_of_atRest
    {start final : TxEngState} {msgs : List TxEngMsg}
    (run : Runs txEngTcpFsm start msgs final) (rest : final.AtRest) :
    ∃ idle, Yields txEngTcpFsm start msgs idle := by
  have clears :
      txEngTcpFsm final = ({ final with retransSegCnt := 0 }, []) := by
    simp only [txEngTcpFsm, rest.fsmState, txEngLoad, rest.events]
  refine ⟨{ final with retransSegCnt := 0 }, ?_, ?_⟩
  · have joined := run.trans (Runs.silent clears (Runs.refl _))
    rwa [List.append_nil] at joined
  · simp only [Idle, txEngTcpFsm, rest.fsmState, txEngLoad, rest.events]

/-- The lookups of an event, and then what its case writes. -/
theorem handlesEvent_of_loaded
    {regs final : TxEngState} {event : EventWithTuple}
    {rxRsp : RxSarLookupRsp} {txRsp : TxSarToTxEngRsp}
    {msgs : List TxEngMsg}
    (run :
      Runs txEngTcpFsm (regs.loaded event rxRsp txRsp) msgs final)
    (rest : final.AtRest) :
    ∃ lookups idle,
      HandlesEvent regs event rxRsp txRsp (lookups ++ msgs) idle ∧
      segments lookups = [] ∧
      memReadCmds lookups = [] ∧
      sarWrites lookups = [] := by
  have call :
      txEngTcpFsm (regs.feed event rxRsp txRsp) =
        (regs.loaded event rxRsp txRsp,
          [.readCount] ++
            (if event.looksUpRxSar then
              [.rxSarLupReq event.sessionId]
            else
              []) ++
            (if event.looksUpTxSar then
              [.txSarReq (TxEngToTxSarReq.lookup event.sessionId)]
            else
              [])) := by
    rfl
  obtain ⟨idle, yields⟩ :=
    txEngTcpFsm_yields_of_atRest (Runs.head call run) rest
  refine ⟨_, idle, yields, ?_, ?_, ?_⟩
  all_goals
    cases event.looksUpRxSar <;> cases event.looksUpTxSar <;> rfl

/-- Three calls handle an event of a case of one call. -/
theorem handlesEvent_of_calls
    (regs : TxEngState) (event : EventWithTuple) (rxRsp : RxSarLookupRsp)
    (txRsp : TxSarToTxEngRsp)
    (idle :
      Idle txEngTcpFsm
        (calls txEngTcpFsm 3 (regs.feed event rxRsp txRsp)).1) :
    HandlesEvent regs event rxRsp txRsp
      (calls txEngTcpFsm 3 (regs.feed event rxRsp txRsp)).2
      (calls txEngTcpFsm 3 (regs.feed event rxRsp txRsp)).1 :=
  ⟨⟨3, rfl⟩, idle⟩

end TcpOffload
