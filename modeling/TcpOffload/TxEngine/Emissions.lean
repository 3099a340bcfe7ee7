import TcpOffload.TxEngine.Events
import TcpOffload.TxEngine.FullHeader

/-!
# What `TxEngTcpFsm` emits for a segment

A segment is written piece by piece to the modules that build the packet: its
header data, its length, where its tuple comes from, the lookup of the tuple
or the tuple itself, and the command that reads its payload.  The pieces of a
segment are written in one call.
-/

namespace TcpOffload

namespace TxEngMsg

def toIpv4Header : TxEngMsg → Option (BitVec 16)
  | .payloadLength length => some length
  | _ => none

def toTupleSource : TxEngMsg → Option Bool
  | .fourTupleSource fromSlookup => some fromSlookup
  | _ => none

def toSlookup : TxEngMsg → Option TcpSessionID
  | .slookupReq id => some id
  | _ => none

def toTupleHandler : TxEngMsg → Option FourTuple
  | .fourTuple tuple => some tuple
  | _ => none

end TxEngMsg

/-- What a call writes to the modules that build packets. -/
structure PacketWrites where
  metaData : List TxEngFsmMetaData
  lengths : List (BitVec 16)
  sources : List Bool
  slookupReqs : List TcpSessionID
  fourTuples : List FourTuple
  readCmds : List MemBufferRWCmd
deriving DecidableEq, Repr

def packetWrites (msgs : List TxEngMsg) : PacketWrites where
  metaData := segments msgs
  lengths := msgs.filterMap TxEngMsg.toIpv4Header
  sources := msgs.filterMap TxEngMsg.toTupleSource
  slookupReqs := msgs.filterMap TxEngMsg.toSlookup
  fourTuples := msgs.filterMap TxEngMsg.toTupleHandler
  readCmds := memReadCmds msgs

/-- A segment as the machine emits it: the tuple is looked up or given. -/
structure TxEmission where
  segment : TxEngFsmMetaData
  slookupReq : Option TcpSessionID
  ownTuple : Option FourTuple
  readCmd : Option MemBufferRWCmd
deriving DecidableEq, Repr

namespace TxEmission

/-- Every module gets its piece of the segment, once. -/
def writes (emission : TxEmission) : PacketWrites where
  metaData := [emission.segment]
  lengths := [emission.segment.length]
  sources := [emission.slookupReq.isSome]
  slookupReqs := emission.slookupReq.toList
  fourTuples := emission.ownTuple.toList
  readCmds := emission.readCmd.toList

/-- One source of the tuple, and payload exactly if it is read. -/
structure Whole (emission : TxEmission) : Prop where
  source : emission.ownTuple.isSome = !emission.slookupReq.isSome
  payload :
    emission.segment.packetContainsPayload = emission.readCmd.isSome

end TxEmission

namespace PacketWrites

def none : PacketWrites :=
  ⟨[], [], [], [], [], []⟩

/-- The segment that is emitted with the writes. -/
def emission (writes : PacketWrites) : Option TxEmission :=
  writes.metaData.head?.map fun segment =>
    { segment := segment
      slookupReq := writes.slookupReqs.head?
      ownTuple := writes.fourTuples.head?
      readCmd := writes.readCmds.head? }

/-- Nothing is written, or what one segment needs. -/
def Once (writes : PacketWrites) : Prop :=
  writes = none ∨
    ∃ emission : TxEmission,
      emission.Whole ∧ writes = emission.writes

theorem emission_writes (emission : TxEmission) :
    emission.writes.emission = some emission := by
  obtain ⟨segment, slookupReq, ownTuple, readCmd⟩ := emission
  cases slookupReq <;> cases ownTuple <;> cases readCmd <;> rfl

end PacketWrites

/-- Of the messages none builds a packet. -/
def Silent (msgs : List TxEngMsg) : Prop :=
  packetWrites msgs = PacketWrites.none

section Blocks

variable {first second : List TxEngMsg}

theorem packetWrites_silent_append (silent : Silent first) :
    packetWrites (first ++ second) = packetWrites second := by
  obtain ⟨metaData, lengths, sources, slookupReqs, fourTuples, readCmds⟩ :=
    PacketWrites.mk.inj silent
  simp only [packetWrites, segments_append, memReadCmds_append,
    List.filterMap_append, metaData, lengths, sources, slookupReqs,
    fourTuples, readCmds, List.nil_append]

variable {id : TcpSessionID} {segment : TxEngFsmMetaData}

/-- A segment without payload whose tuple is looked up. -/
theorem once_of_session
    {msgs : List TxEngMsg}
    (noPayload : segment.packetContainsPayload = false)
    (written :
      packetWrites msgs = (TxEmission.mk segment id none none).writes) :
    (packetWrites msgs).Once :=
  Or.inr ⟨_, ⟨rfl, noPayload⟩, written⟩

theorem packetContainsPayload_syn (isSyn : segment.syn = true) :
    segment.packetContainsPayload = false := by
  rw [TxEngFsmMetaData.packetContainsPayload, isSyn, Bool.or_true]
  rfl

theorem once_payloadMsgs
    (addr : BitVec 32) (notSyn : segment.syn = false) :
    (packetWrites (payloadMsgs id addr segment)).Once := by
  rw [payloadMsgs]
  split
  · rename_i carries
    refine
      Or.inr
        ⟨⟨segment, id, none, MemBufferRWCmd.ofAddr addr segment.length⟩,
          ⟨rfl, ?_⟩, rfl⟩
    rw [TxEngFsmMetaData.packetContainsPayload, notSyn,
      beq_eq_false_iff_ne.2 carries]
    rfl
  · exact Or.inl rfl

end Blocks

/-! ## One call -/

/-- A `TX` event in hand with its answers has left no SYN in the register. -/
def TxEngState.SynClear (state : TxEngState) : Prop :=
  state.txEngEventReg.type = .tx →
    state.txRxSarLoaded = true → state.tcpTxMetaReg.syn = false

/-- What a call leaves and writes. -/
def EmitsOnce (call : TxEngState × List TxEngMsg) : Prop :=
  call.1.SynClear ∧ (packetWrites call.2).Once

section Calls

variable {state : TxEngState}

theorem emitsOnce_load (clear : state.SynClear) :
    EmitsOnce (txEngLoad state) := by
  rw [txEngLoad]
  split
  · exact ⟨clear, Or.inl rfl⟩
  · refine ⟨fun _ loaded => (by cases loaded), Or.inl ?_⟩
    split <;> split <;> rfl

theorem silent_txIteration
    (id : TcpSessionID)
    (currLength usedLength usableWindow : TcpSessionBuffer)
    (rsp : TxSarToTxEngRsp) :
    Silent
      (txIteration id currLength usedLength usableWindow rsp).writes := by
  rw [txIteration]
  split
  · split
    · rfl
    · rw [txShortSegment]
      simp only []
      split <;> rfl
  · split
    · rfl
    · rfl

theorem emitsOnce_txSend
    {rsp : TxSarToTxEngRsp} {usableWindow : TcpSessionBuffer}
    (notSyn : state.tcpTxMetaReg.syn = false) :
    EmitsOnce (txSend state rsp usableWindow) := by
  rw [txSend]
  refine ⟨fun _ _ => notSyn, ?_⟩
  simp only []
  rw [packetWrites_silent_append (silent_txIteration _ _ _ _ _)]
  exact once_payloadMsgs _ notSyn

theorem emitsOnce_tx
    (isTx : state.txEngEventReg.type = .tx) (clear : state.SynClear) :
    EmitsOnce (txEngTx state) := by
  rw [txEngTx]
  split
  · rename_i loaded
    exact emitsOnce_txSend (clear isTx loaded)
  · split
    · exact emitsOnce_txSend rfl
    · exact ⟨clear, Or.inl rfl⟩

theorem silent_retransThresholdMsgs (currLength : TcpSessionBuffer) :
    Silent (retransThresholdMsgs state currLength) := by
  rw [retransThresholdMsgs]
  split <;> rfl

theorem emitsOnce_rtSend
    {rsp : TxSarToTxEngRsp} {addrAckd : BitVec 32}
    (notTx : state.txEngEventReg.type ≠ .tx) :
    (rtSend state rsp addrAckd).1.txEngEventReg.type ≠ .tx ∧
      (packetWrites (rtSend state rsp addrAckd).2).Once := by
  rw [rtSend]
  simp only []
  split
  · refine ⟨fun isTx => (by cases isTx), ?_⟩
    rw [packetWrites_silent_append (silent_retransThresholdMsgs _)]
    exact once_payloadMsgs _ rfl
  · constructor
    · change
        (if rsp.finIsSent then EventType.fin
          else state.txEngEventReg.type) ≠ .tx
      split
      · exact fun isTx => (by cases isTx)
      · exact notTx
    · rw [packetWrites_silent_append (silent_retransThresholdMsgs _)]
      exact once_payloadMsgs _ rfl

theorem emitsOnce_rt (isRt : state.txEngEventReg.type = .rt) :
    EmitsOnce (txEngRt state) := by
  have notTx : state.txEngEventReg.type ≠ .tx := by
    rw [isRt]
    decide
  rw [txEngRt]
  split
  · rename_i rxRsp rxLater txRsp txLater _ _
    obtain ⟨stillNotTx, once⟩ :=
      @emitsOnce_rtSend
        { state with
          rxSarRspReg := rxRsp
          rxSarRsps := rxLater
          txSarRsps := txLater }
        txRsp txRsp.ackd notTx
    exact ⟨fun isTx => absurd isTx stillNotTx, once⟩
  · exact ⟨fun isTx => absurd isTx notTx, Or.inl rfl⟩

theorem emitsOnce_rtCont (isRtCont : state.txEngEventReg.type = .rtCont) :
    EmitsOnce (txEngRtCont state) := by
  have notTx : state.txEngEventReg.type ≠ .tx := by
    rw [isRtCont]
    decide
  obtain ⟨stillNotTx, once⟩ := emitsOnce_rtSend notTx
  exact ⟨fun isTx => absurd isTx stillNotTx, once⟩

theorem emitsOnce_ack (isAck : state.txEngEventReg.type ≠ .tx) :
    EmitsOnce (txEngAck state) := by
  rw [txEngAck]
  split
  · exact ⟨fun isTx => absurd isTx isAck, once_of_session rfl rfl⟩
  · exact ⟨fun isTx => absurd isTx isAck, Or.inl rfl⟩

theorem emitsOnce_syn (isSyn : state.txEngEventReg.type ≠ .tx) :
    EmitsOnce (txEngSyn state) := by
  rw [txEngSyn]
  simp only []
  split
  · split
    · exact ⟨fun isTx => absurd isTx isSyn, once_of_session rfl rfl⟩
    · exact ⟨fun isTx => absurd isTx isSyn, Or.inl rfl⟩
  · exact ⟨fun isTx => absurd isTx isSyn, once_of_session rfl rfl⟩

theorem emitsOnce_synAck (isSynAck : state.txEngEventReg.type ≠ .tx) :
    EmitsOnce (txEngSynAck state) := by
  rw [txEngSynAck]
  split
  · refine ⟨fun isTx => absurd isTx isSynAck, ?_⟩
    simp only []
    split
    · exact once_of_session (packetContainsPayload_syn rfl) rfl
    · exact once_of_session (packetContainsPayload_syn rfl) rfl
  · exact ⟨fun isTx => absurd isTx isSynAck, Or.inl rfl⟩

theorem emitsOnce_finSend
    {rsp : TxSarToTxEngRsp} (isFin : state.txEngEventReg.type ≠ .tx) :
    EmitsOnce (finSend state rsp) := by
  refine ⟨fun isTx => absurd isTx isFin, ?_⟩
  rw [finSend]
  simp only []
  rw [packetWrites_silent_append]
  · split
    · split
      · exact once_of_session rfl rfl
      · exact Or.inl rfl
    · split
      · exact once_of_session rfl rfl
      · exact Or.inl rfl
  · split
    · rfl
    · split <;> rfl

theorem emitsOnce_fin (isFin : state.txEngEventReg.type ≠ .tx) :
    EmitsOnce (txEngFin state) := by
  rw [txEngFin]
  split
  · exact emitsOnce_finSend isFin
  · split
    · exact emitsOnce_finSend isFin
    · exact ⟨fun isTx => absurd isTx isFin, Or.inl rfl⟩

theorem emitsOnce_rst (isRst : state.txEngEventReg.type ≠ .tx) :
    EmitsOnce (txEngRst state) := by
  rw [txEngRst]
  split
  · split
    · exact ⟨fun isTx => absurd isTx isRst, once_of_session rfl rfl⟩
    · exact ⟨fun isTx => absurd isTx isRst, Or.inl rfl⟩
  · refine ⟨fun isTx => absurd isTx isRst, Or.inr ?_⟩
    exact
      ⟨⟨rstMetaData 0 state.txEngEventReg.getAckNumber, none,
        state.txEngEventReg.fourTuple, none⟩, ⟨rfl, rfl⟩, rfl⟩

/-- Every call emits nothing, or all pieces of one segment. -/
theorem emitsOnce_txEngTcpFsm (clear : state.SynClear) :
    EmitsOnce (txEngTcpFsm state) := by
  rw [txEngTcpFsm]
  cases state.fsmState with
  | load =>
      exact emitsOnce_load clear
  | transition =>
      simp only []
      cases type : state.txEngEventReg.type with
      | tx =>
          exact emitsOnce_tx type clear
      | rt =>
          exact emitsOnce_rt type
      | rtCont =>
          exact emitsOnce_rtCont type
      | ack | ackNodelay =>
          exact emitsOnce_ack (by rw [type]; decide)
      | syn =>
          exact emitsOnce_syn (by rw [type]; decide)
      | synAck =>
          exact emitsOnce_synAck (by rw [type]; decide)
      | fin =>
          exact emitsOnce_fin (by rw [type]; decide)
      | rst =>
          exact emitsOnce_rst (by rw [type]; decide)

end Calls

end TcpOffload
