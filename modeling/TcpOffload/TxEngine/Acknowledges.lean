import TcpOffload.TxEngine.Answers
import TcpOffload.TxEngine.SegmentHeader
import TcpOffload.TxEngine.Window

/-!
# The events that acknowledge

Which events make `TxEngTcpFsm` send a segment of their session with the ACK
flag, for every answer of the tables.
-/

namespace TcpOffload

open Clocked

/-- A segment with the ACK flag leaves, addressed by the session lookup. -/
structure SendsAck (id : TcpSessionID) (msgs : List TxEngMsg) : Prop where
  acks : ∃ segment ∈ segments msgs, segment.ack = true
  addressed : .slookupReq id ∈ msgs

namespace SendsAck

variable {id : TcpSessionID} {first second : List TxEngMsg}

theorem left (sends : SendsAck id first) :
    SendsAck id (first ++ second) := by
  obtain ⟨⟨segment, isSent, ack⟩, addressed⟩ := sends
  refine ⟨⟨segment, ?_, ack⟩, List.mem_append_left _ addressed⟩
  rw [segments_append]
  exact List.mem_append_left _ isSent

theorem right (sends : SendsAck id second) :
    SendsAck id (first ++ second) := by
  obtain ⟨⟨segment, isSent, ack⟩, addressed⟩ := sends
  refine ⟨⟨segment, ?_, ack⟩, List.mem_append_right _ addressed⟩
  rw [segments_append]
  exact List.mem_append_right _ isSent

/-- The writes of one segment. -/
theorem headerMsgs {segment : TxEngFsmMetaData}
    (ack : segment.ack = true) :
    SendsAck id (TcpOffload.headerMsgs id segment) := by
  refine ⟨⟨segment, List.mem_cons_self, ack⟩, ?_⟩
  simp [TcpOffload.headerMsgs]

end SendsAck

/-! ## The condition -/

namespace TxSarToTxEngRsp

/-- The FIN is the next byte after those the application has written. -/
def finLeaves (rsp : TxSarToTxEngRsp) (retransCnt : BitVec 3) : Bool :=
  (if retransCnt ≠ 0 then
    rsp.notAckd - 1
  else
    rsp.notAckd).setWidth 18 == rsp.appWritten

/-- What a `TX` event without data finds in front of a FIN. -/
def atShortEnd (rsp : TxSarToTxEngRsp) : TxSarToTxEngRsp :=
  { rsp with
    notAckd :=
      if rsp.ackdEqNotAckd then rsp.notAckdShort else rsp.notAckd }

end TxSarToTxEngRsp

/-- The event sends an ACK with this answer of `tx_sar_table`.  Only an
`RT_CONT` looks at the registers. -/
def EventWithTuple.acks
    (event : EventWithTuple) (regs : TxEngState)
    (rsp : TxSarToTxEngRsp) : Bool :=
  match event.type with
  | .ack | .ackNodelay | .synAck => true
  | .syn => false
  | .rst => event.hasSessionId
  | .fin => rsp.finLeaves event.retransCnt
  | .rt =>
      rsp.usedLengthRst != 0 ||
        (rsp.finIsSent && rsp.finLeaves event.retransCnt)
  | .tx =>
      if rsp.currLength = 0 then
        rsp.finIsReady && rsp.atShortEnd.finLeaves event.retransCnt
      else
        rsp.usableWindow != 0
  | .rtCont => regs.txSarRspReg.usedLengthRst != 0

/-! ## One event -/

section OneEvent

variable {regs final : TxEngState} {event : EventWithTuple}
variable {rxRsp : RxSarLookupRsp} {txRsp : TxSarToTxEngRsp}
variable {msgs : List TxEngMsg} {id : TcpSessionID}

end OneEvent

end TcpOffload
