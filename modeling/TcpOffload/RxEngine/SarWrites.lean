import TcpOffload.RxEngine.OwnSession

/-!
# The writes of `RxEngTcpFsm` to the SAR tables

Which segments move the receive window, the send window or both, and what
they write there.
-/

namespace TcpOffload

open Clocked

namespace RxArrival

/-- A SYN+ACK that completes an active open. -/
def connects (arrival : RxArrival) : Bool :=
  arrival.segment.header.ctrlBits == 3 &&
    (arrival.sessionState == .synSent &&
      arrival.segment.header.ackNumber == arrival.txSar.nextByte)

/-- An ACK inside the send window, in a state that looks at it. -/
def takesAck (arrival : RxArrival) : Bool :=
  arrival.segment.header.ctrlBits == 1 &&
    (arrival.sessionState.takesAck &&
      arrival.txSar.acceptsAck arrival.segment.header.ackNumber)

/-- Payload that is taken with an ACK. -/
def takesAckPayload (arrival : RxArrival) : Bool :=
  arrival.takesAck &&
    (decide (arrival.segment.header.payloadLength ≠ 0) &&
      arrival.rxSar.acceptsPayload arrival.segment.header)

/-- The sequence number behind the payload. -/
def payloadEnd (arrival : RxArrival) : BitVec 32 :=
  arrival.segment.header.seqNumber +
    arrival.segment.header.payloadLength.setWidth 32

end RxArrival

/-- An update of the send window that leaves the shift alone. -/
structure WindowUpdate
    (segment : RxEngFsmMetaData) (req : RxEngToTxSarReq) : Prop where
  write : req.write = true
  sessionId : req.sessionId = segment.sessionId
  ackd : req.ackd = segment.header.ackNumber
  recvWindow : req.recvWindow = segment.header.winSize
  keepsShift : req.winShiftWrite = false

/-- All that handling a segment can write to the two tables. -/
inductive SarWrites (arrival : RxArrival) :
    List RxEngToRxSarReq → List RxEngToTxSarReq → Prop
  | ignores :
      arrival.opensBySyn = false →
      arrival.connects = false →
      arrival.takesAck = false →
      arrival.takesFin = false →
      SarWrites arrival [] []
  | opens (congWindow : TcpSessionBuffer) :
      arrival.opensBySyn = true →
      SarWrites arrival
        [RxEngToRxSarReq.initialise arrival.segment.sessionId
          (arrival.segment.header.seqNumber + 1)
          arrival.segment.header.rxWinScale]
        [RxEngToTxSarReq.updateWithShift arrival.segment.sessionId 0
          arrival.segment.header.winSize congWindow 0 false true
          arrival.segment.header.rxWinScale]
  | connects (congWindow : TcpSessionBuffer) :
      arrival.connects = true →
      SarWrites arrival
        [RxEngToRxSarReq.initialise arrival.segment.sessionId
          (arrival.segment.header.seqNumber + 1)
          arrival.segment.header.rxWinScale]
        [RxEngToTxSarReq.updateWithShift arrival.segment.sessionId
          arrival.segment.header.ackNumber arrival.segment.header.winSize
          congWindow 0 false true
          (arrival.segment.header.winScale.setWidth 4)]
  | takesAck {req : RxEngToTxSarReq} :
      arrival.takesAck = true →
      arrival.takesAckPayload = false →
      WindowUpdate arrival.segment req →
      SarWrites arrival [] [req]
  | takesPayload {req : RxEngToTxSarReq} :
      arrival.takesAckPayload = true →
      WindowUpdate arrival.segment req →
      SarWrites arrival
        [RxEngToRxSarReq.update arrival.segment.sessionId
          arrival.payloadEnd]
        [req]
  | takesFin {req : RxEngToTxSarReq} :
      arrival.takesFin = true →
      WindowUpdate arrival.segment req →
      SarWrites arrival
        [RxEngToRxSarReq.update arrival.segment.sessionId
          (arrival.payloadEnd + 1)]
        [req]

section Cases

variable (regs : RxEngState) (arrival : RxArrival)

/-- Other flags than an arrival's own. -/
theorem otherFlags
    {bits other : BitVec 4}
    (isBits : arrival.segment.header.ctrlBits = bits)
    (different : bits ≠ other) (test : Bool) :
    (arrival.segment.header.ctrlBits == other && test) = false := by
  rw [isBits, beq_eq_false_iff_ne.2 different, Bool.false_and]

theorem rxEngAck_sarWrites
    (isAck : arrival.segment.header.ctrlBits = 1) :
    SarWrites arrival
      (rxWrites (rxEngAck (regs.answered arrival)).2).rxSarWrites
      (rxWrites (rxEngAck (regs.answered arrival)).2).txSarWrites := by
  have notSyn : arrival.opensBySyn = false :=
    otherFlags arrival isAck (by decide) _
  have notSynAck : arrival.connects = false :=
    otherFlags arrival isAck (by decide) _
  have notFin : arrival.takesFin = false :=
    otherFlags arrival isAck (by decide) _
  have txSar : (regs.answered arrival).txSarReg = arrival.txSar :=
    regs.answered_txSarReg (Or.inl isAck)
  have acked := rxWrites_ackedState (regs.answered arrival)
  rw [rxEngAck]
  by_cases takes : arrival.sessionState.takesAck = true
  · have takesState :
        (regs.answered arrival).sessionStateReg.takesAck = true :=
      takes
    rw [if_pos takesState]
    change
      SarWrites arrival (rxWrites (_ ++ _)).rxSarWrites
        (rxWrites (_ ++ _)).txSarWrites
    rw [rxWrites_append, rxWrites_ackTimers]
    by_cases inside :
        arrival.txSar.acceptsAck arrival.segment.header.ackNumber = true
    · have isTaken : arrival.takesAck = true := by
        rw [RxArrival.takesAck, isAck, takes, inside]
        rfl
      have insideState :
          (regs.answered arrival).txSarReg.acceptsAck
              (regs.answered arrival).tcpRxMetaReg.header.ackNumber =
            true := by
        rw [txSar]
        exact inside
      rw [if_pos insideState, rxEngAckAccepted,
        TxSarToRxEngRsp.afterAck_nextByte, rxWrites_append, acked]
      by_cases empty : arrival.segment.header.payloadLength = 0
      · have emptyState :
            ¬ (regs.answered arrival).tcpRxMetaReg.header.payloadLength ≠
              0 :=
          not_not_intro empty
        rw [if_neg emptyState, if_neg emptyState]
        refine SarWrites.takesAck isTaken ?_ ⟨rfl, rfl, rfl, rfl, rfl⟩
        rw [RxArrival.takesAckPayload, decide_eq_false (not_not_intro empty)]
        simp
      · have carries :
            (regs.answered arrival).tcpRxMetaReg.header.payloadLength ≠
              0 :=
          empty
        rw [if_pos carries, if_pos carries]
        by_cases accepts :
            arrival.rxSar.acceptsPayload arrival.segment.header = true
        · have acceptsState :
              (regs.answered arrival).rxSarReg.acceptsPayload
                  (regs.answered arrival).tcpRxMetaReg.header =
                true :=
            accepts
          rw [if_pos acceptsState]
          refine
            SarWrites.takesPayload ?_ ⟨rfl, rfl, rfl, rfl, rfl⟩
          rw [RxArrival.takesAckPayload, isTaken, accepts,
            decide_eq_true empty]
          rfl
        · have refusesState :
              ¬ (regs.answered arrival).rxSarReg.acceptsPayload
                    (regs.answered arrival).tcpRxMetaReg.header =
                  true :=
            accepts
          rw [if_neg refusesState]
          refine SarWrites.takesAck isTaken ?_ ⟨rfl, rfl, rfl, rfl, rfl⟩
          rw [RxArrival.takesAckPayload, Bool.eq_false_iff.2 accepts]
          simp
    · have notTaken : arrival.takesAck = false := by
        rw [RxArrival.takesAck, Bool.eq_false_iff.2 inside]
        simp
      have outsideState :
          ¬ (regs.answered arrival).txSarReg.acceptsAck
                (regs.answered arrival).tcpRxMetaReg.header.ackNumber =
              true := by
        rw [txSar]
        exact inside
      rw [if_neg outsideState]
      exact SarWrites.ignores notSyn notSynAck notTaken notFin
  · have notTaken : arrival.takesAck = false := by
      rw [RxArrival.takesAck, Bool.eq_false_iff.2 takes]
      simp
    have refuses :
        ¬ (regs.answered arrival).sessionStateReg.takesAck = true :=
      takes
    rw [if_neg refuses]
    have drop := rxWrites_dropPayload (regs.answered arrival).tcpRxMetaReg
    change
      SarWrites arrival
        (rxWrites ([_, _] ++ (_ ++ _))).rxSarWrites
        (rxWrites ([_, _] ++ (_ ++ _))).txSarWrites
    rw [rxWrites_append, rxWrites_append, drop]
    exact SarWrites.ignores notSyn notSynAck notTaken notFin

theorem rxEngSyn_sarWrites
    (isSyn : arrival.segment.header.ctrlBits = 2) :
    SarWrites arrival
      (rxWrites (rxEngSyn (regs.answered arrival)).2).rxSarWrites
      (rxWrites (rxEngSyn (regs.answered arrival)).2).txSarWrites := by
  have notAck : arrival.takesAck = false :=
    otherFlags arrival isSyn (by decide) _
  have notSynAck : arrival.connects = false :=
    otherFlags arrival isSyn (by decide) _
  have notFin : arrival.takesFin = false :=
    otherFlags arrival isSyn (by decide) _
  have opens :
      arrival.opensBySyn =
        (arrival.sessionState == .closed ||
          arrival.sessionState == .synSent) := by
    rw [RxArrival.opensBySyn, isSyn]
    rfl
  have sameState :
      (regs.answered arrival).sessionStateReg = arrival.sessionState :=
    rfl
  rw [rxEngSyn, sameState]
  cases state : arrival.sessionState with
  | closed | synSent =>
      refine SarWrites.opens _ ?_
      rw [opens, state]
      rfl
  | synReceived =>
      rw [state] at opens
      simp only []
      split <;> exact SarWrites.ignores opens notSynAck notAck notFin
  | established | finWait1 | finWait2 | closing | timeWait | lastAck =>
      rw [state] at opens
      exact SarWrites.ignores opens notSynAck notAck notFin

theorem rxEngSynAck_sarWrites
    (isSynAck : arrival.segment.header.ctrlBits = 3) :
    SarWrites arrival
      (rxWrites (rxEngSynAck (regs.answered arrival)).2).rxSarWrites
      (rxWrites (rxEngSynAck (regs.answered arrival)).2).txSarWrites := by
  have notAck : arrival.takesAck = false :=
    otherFlags arrival isSynAck (by decide) _
  have notSyn : arrival.opensBySyn = false :=
    otherFlags arrival isSynAck (by decide) _
  have notFin : arrival.takesFin = false :=
    otherFlags arrival isSynAck (by decide) _
  have connects :
      arrival.connects =
        (arrival.sessionState == .synSent &&
          arrival.segment.header.ackNumber == arrival.txSar.nextByte) := by
    rw [RxArrival.connects, isSynAck]
    rfl
  have txSar : (regs.answered arrival).txSarReg = arrival.txSar := by
    refine if_pos ?_
    rw [← TcpHeaderMeta.ctrlBits_ack, isSynAck]
    rfl
  have sameState :
      (regs.answered arrival).sessionStateReg = arrival.sessionState :=
    rfl
  rw [rxEngSynAck, sameState, txSar]
  cases state : arrival.sessionState with
  | synSent =>
      rw [state] at connects
      by_cases matching :
          arrival.segment.header.ackNumber = arrival.txSar.nextByte
      · have matchingState :
            (regs.answered arrival).tcpRxMetaReg.header.ackNumber =
              arrival.txSar.nextByte :=
          matching
        simp only []
        rw [if_pos matchingState]
        refine SarWrites.connects _ ?_
        rw [connects, matching]
        simp
      · have differsState :
            ¬ (regs.answered arrival).tcpRxMetaReg.header.ackNumber =
                arrival.txSar.nextByte :=
          matching
        simp only []
        rw [if_neg differsState]
        refine SarWrites.ignores notSyn ?_ notAck notFin
        rw [connects, beq_eq_false_iff_ne.2 matching]
        simp
  | closed | synReceived | established | finWait1 | finWait2 | closing
  | timeWait | lastAck =>
      rw [state] at connects
      exact SarWrites.ignores notSyn connects notAck notFin

theorem rxEngFinAck_sarWrites
    (isFin : arrival.segment.header.ctrlBits = 5) :
    SarWrites arrival
      (rxWrites (rxEngFinAck (regs.answered arrival)).2).rxSarWrites
      (rxWrites (rxEngFinAck (regs.answered arrival)).2).txSarWrites := by
  have notAck : arrival.takesAck = false :=
    otherFlags arrival isFin (by decide) _
  have notSyn : arrival.opensBySyn = false :=
    otherFlags arrival isFin (by decide) _
  have notSynAck : arrival.connects = false :=
    otherFlags arrival isFin (by decide) _
  have takesFin :
      arrival.takesFin = (regs.answered arrival).takesFin := by
    rw [RxArrival.takesFin, isFin]
    rfl
  rw [rxEngFinAck]
  change arrival.takesFin = (_ && _) at takesFin
  by_cases takes :
      ((regs.answered arrival).sessionStateReg.takesFin &&
          (regs.answered arrival).rxSarReg.recvd ==
            (regs.answered arrival).tcpRxMetaReg.header.seqNumber) =
        true
  · rw [if_pos takes]
    simp only [rxWrites_append, rxWrites_rxEngFinState]
    by_cases empty : arrival.segment.header.payloadLength = 0
    · have emptyState :
          ¬ (regs.answered arrival).tcpRxMetaReg.header.payloadLength ≠
            0 :=
        not_not_intro empty
      rw [if_neg emptyState]
      split <;>
        exact
          SarWrites.takesFin (takesFin.trans takes)
            ⟨rfl, rfl, rfl, rfl, rfl⟩
    · have carries :
          (regs.answered arrival).tcpRxMetaReg.header.payloadLength ≠ 0 :=
        empty
      rw [if_pos carries]
      exact
        SarWrites.takesFin (takesFin.trans takes)
          ⟨rfl, rfl, rfl, rfl, rfl⟩
  · rw [if_neg takes]
    have drop := rxWrites_dropPayload (regs.answered arrival).tcpRxMetaReg
    change
      SarWrites arrival
        (rxWrites
          ([_] ++ (regs.answered arrival).tcpRxMetaReg.dropPayload ++
            [_, _])).rxSarWrites
        (rxWrites
          ([_] ++ (regs.answered arrival).tcpRxMetaReg.dropPayload ++
            [_, _])).txSarWrites
    rw [rxWrites_append, rxWrites_append, drop]
    exact
      SarWrites.ignores notSyn notSynAck notAck
        (takesFin.trans (Bool.eq_false_iff.2 takes))

theorem rxEngDefault_sarWrites
    (notAck : arrival.segment.header.ctrlBits ≠ 1)
    (notSyn : arrival.segment.header.ctrlBits ≠ 2)
    (notSynAck : arrival.segment.header.ctrlBits ≠ 3)
    (notFin : arrival.segment.header.ctrlBits ≠ 5) :
    SarWrites arrival
      (rxWrites (rxEngDefault (regs.answered arrival)).2).rxSarWrites
      (rxWrites (rxEngDefault (regs.answered arrival)).2).txSarWrites := by
  have noFlags (other : BitVec 4) (test : Bool)
      (different : arrival.segment.header.ctrlBits ≠ other) :
      (arrival.segment.header.ctrlBits == other && test) = false := by
    rw [beq_eq_false_iff_ne.2 different, Bool.false_and]
  have ignores :=
    SarWrites.ignores (noFlags 2 _ notSyn) (noFlags 3 _ notSynAck)
      (noFlags 1 _ notAck) (noFlags 5 _ notFin)
  rw [rxEngDefault]
  simp only []
  split
  · split
    · split <;> exact ignores
    · split <;> exact ignores
  · exact ignores

/-- What handling a segment writes to the two tables. -/
theorem rxEngHandle_sarWrites :
    SarWrites arrival
      (rxWrites (rxEngHandle (regs.answered arrival)).2).rxSarWrites
      (rxWrites (rxEngHandle (regs.answered arrival)).2).txSarWrites := by
  have sameBits :
      (regs.answered arrival).rxEngCtrlBits =
        arrival.segment.header.ctrlBits :=
    rfl
  rw [rxEngHandle, sameBits]
  by_cases isAck : arrival.segment.header.ctrlBits = 1
  · rw [if_pos isAck]
    exact rxEngAck_sarWrites regs arrival isAck
  rw [if_neg isAck]
  by_cases isSyn : arrival.segment.header.ctrlBits = 2
  · rw [if_pos isSyn]
    exact rxEngSyn_sarWrites regs arrival isSyn
  rw [if_neg isSyn]
  by_cases isSynAck : arrival.segment.header.ctrlBits = 3
  · rw [if_pos isSynAck]
    exact rxEngSynAck_sarWrites regs arrival isSynAck
  rw [if_neg isSynAck]
  by_cases isFin : arrival.segment.header.ctrlBits = 5
  · rw [if_pos isFin]
    exact rxEngFinAck_sarWrites regs arrival isFin
  · rw [if_neg isFin]
    exact rxEngDefault_sarWrites regs arrival isAck isSyn isSynAck isFin

/-- The same about the messages of a segment that was handled. -/
theorem HandlesSegment.sarWrites
    {regs final : RxEngState} {arrival : RxArrival}
    {msgs : List RxEngMsg}
    (handles : HandlesSegment regs arrival msgs final) :
    SarWrites arrival (rxWrites msgs).rxSarWrites
      (rxWrites msgs).txSarWrites := by
  rw [(handles.unique (handlesSegment regs arrival)).1, rxWrites_append,
    rxWrites_rxLookups]
  exact rxEngHandle_sarWrites regs arrival

end Cases

end TcpOffload
