import TcpOffload.TxEngine.Transmit

/-!
# Runs of an `RT` event and the read commands of all events

A retransmission sends at most four segments from `ackd` on.  The first read
command is built from the response, the later ones from a pointer that the
`RT_CONT` case never assigns.
-/

namespace TcpOffload

open Clocked

/-- The segment lengths of a retransmission of `unacked` bytes with `rounds`
segments left. -/
def rtLengths : Nat → Nat → List Nat
  | 0, _ => []
  | rounds + 1, unacked =>
      if tcpMss < unacked then
        tcpMss :: rtLengths rounds (unacked - tcpMss)
      else
        [unacked]

/-- The read command of an `RT_CONT` segment: the start of the ring. -/
def contReadCmd
    (id : TcpSessionID) (segment : TxEngFsmMetaData) : MemBufferRWCmd :=
  MemBufferRWCmd.ofAddr (getSessionMemAddr .tx id 0) segment.length

/-- A `FIN` case may follow the last retransmitted segment; its response has
the looked-up end of the data. -/
inductive MaybeFin
    (notAckd : BitVec 32) (appWritten : TcpSessionBuffer) :
    List TxEngMsg → Prop
  | none : MaybeFin notAckd appWritten []
  | fin (state : TxEngState) {rsp : TxSarToTxEngRsp} :
      rsp.notAckd = notAckd →
      rsp.appWritten = appWritten →
      MaybeFin notAckd appWritten (finSend state rsp).2

/-- The header fields of a retransmitted segment. -/
def rtHeader (state : TxEngState) : TxEngFsmMetaData :=
  { state.tcpTxMetaReg with
    ackNumber := state.rxSarRspReg.recvd
    winSize := state.rxSarRspReg.winSize
    ack := true
    rst := false
    syn := false
    fin := false }

theorem retransThresholdMsgs_kinds
    (state : TxEngState) (currLength : TcpSessionBuffer) :
    segments (retransThresholdMsgs state currLength) = [] ∧
      memReadCmds (retransThresholdMsgs state currLength) = [] ∧
      ∀ req ∈ sarWrites (retransThresholdMsgs state currLength),
        req.retransReq = true := by
  rw [retransThresholdMsgs]
  split
  · refine ⟨rfl, rfl, ?_⟩
    intro req member
    rw [List.mem_singleton.1 member]
    rfl
  · refine ⟨rfl, rfl, ?_⟩
    intro req member
    cases member

section RtSend

variable (state : TxEngState) (rsp : TxSarToTxEngRsp)
variable (addrAckd : BitVec 32)

theorem rtSend_more
    (more : tcpMss < rsp.usedLengthRst.toNat) :
    rtSend state rsp addrAckd =
      ({ state.setEventType .rtCont with
          fsmState :=
            if state.retransSegCnt = 3 then .load else .transition
          retransSegCnt := state.retransSegCnt + 1
          txSarRspReg :=
            { rsp with
              ackd := rsp.ackd + BitVec.ofNat 32 tcpMss
              usedLengthRst :=
                rsp.usedLengthRst - BitVec.ofNat 18 tcpMss }
          tcpTxMetaReg :=
            { rtHeader state with
              seqNumber := rsp.ackd
              length := BitVec.ofNat 16 tcpMss }
          currLength := rsp.usedLengthRst },
        retransThresholdMsgs state rsp.usedLengthRst ++
          payloadMsgs state.sessionId
            (getSessionMemAddr .tx state.sessionId
              (addrAckd.setWidth 18))
            { rtHeader state with
              seqNumber := rsp.ackd
              length := BitVec.ofNat 16 tcpMss }) := by
  have moreWord : BitVec.ofNat 18 tcpMss < rsp.usedLengthRst := by
    rw [BitVec.lt_def]
    exact more
  rw [rtSend, if_pos moreWord]
  rfl

theorem rtSend_last
    (rest : rsp.usedLengthRst.toNat ≤ tcpMss) :
    rtSend state rsp addrAckd =
      ({ state.setEventType
            (if rsp.finIsSent then .fin else state.txEngEventReg.type) with
          fsmState := if rsp.finIsSent then .transition else .load
          txSarRspReg := rsp
          tcpTxMetaReg :=
            { rtHeader state with
              seqNumber := rsp.ackd
              length := rsp.usedLengthRst.setWidth 16 }
          currLength := rsp.usedLengthRst },
        retransThresholdMsgs state rsp.usedLengthRst ++
          payloadMsgs state.sessionId
            (getSessionMemAddr .tx state.sessionId
              (addrAckd.setWidth 18))
            { rtHeader state with
              seqNumber := rsp.ackd
              length := rsp.usedLengthRst.setWidth 16 }) := by
  have notMoreWord : ¬ BitVec.ofNat 18 tcpMss < rsp.usedLengthRst := by
    rw [BitVec.lt_def]
    exact Nat.not_lt.2 rest
  rw [rtSend, if_neg notMoreWord]
  rfl

end RtSend

/-- The outputs of retransmitting segments of the given lengths from `ackd`
on, with the first read command at `addrAckd`. -/
structure RtOutputs
    (id : TcpSessionID) (header : TxEngFsmMetaData)
    (ackd addrAckd : BitVec 32) (lengths : List Nat)
    (fin msgs : List TxEngMsg) : Prop where
  sent :
    segments msgs = segmentList header ackd lengths ++ segments fin
  read :
    memReadCmds msgs =
      (segmentList header ackd (lengths.take 1)).map
          (fun segment =>
            MemBufferRWCmd.ofAddr
              (getSessionMemAddr .tx id (addrAckd.setWidth 18))
              segment.length) ++
        (segmentList header
            (ackd + BitVec.ofNat 32 (lengths.take 1).sum)
            (lengths.drop 1)).map
          (contReadCmd id)
  written :
    ∃ thresholds,
      sarWrites msgs = thresholds ++ sarWrites fin ∧
        ∀ req ∈ thresholds, req.retransReq = true

theorem segmentList_split
    (header : TxEngFsmMetaData) (start : BitVec 32)
    (lengths : List Nat) :
    segmentList header start (lengths.take 1) ++
        segmentList header
          (start + BitVec.ofNat 32 (lengths.take 1).sum)
          (lengths.drop 1) =
      segmentList header start lengths := by
  cases lengths with
  | nil =>
      rfl
  | cons first later =>
      simp only [List.take_succ_cons, List.take_zero, List.sum_singleton,
        List.drop_succ_cons, List.drop_zero, segmentList, List.append_nil]

/-- With the cleared address every read command is one of `RT_CONT`. -/
theorem RtOutputs.readCont
    {id : TcpSessionID} {header : TxEngFsmMetaData} {ackd : BitVec 32}
    {lengths : List Nat} {fin msgs : List TxEngMsg}
    (outputs : RtOutputs id header ackd 0 lengths fin msgs) :
    memReadCmds msgs =
      (segmentList header ackd lengths).map (contReadCmd id) := by
  rw [outputs.read, ← segmentList_split header ackd lengths,
    List.map_append]
  rfl

/-- One segment, with the block of its writes. -/
theorem payloadMsgs_kinds
    (id : TcpSessionID) (addr : BitVec 32) (header : TxEngFsmMetaData)
    (seqNumber : BitVec 32) {length : Nat} (short : length ≤ tcpMss) :
    segments
        (payloadMsgs id addr
          { header with
            seqNumber := seqNumber
            length := BitVec.ofNat 16 length }) =
      segmentList header seqNumber [length] ∧
    memReadCmds
        (payloadMsgs id addr
          { header with
            seqNumber := seqNumber
            length := BitVec.ofNat 16 length }) =
      (segmentList header seqNumber [length]).map
        fun segment => MemBufferRWCmd.ofAddr addr segment.length := by
  have emptyIff : BitVec.ofNat 16 length = 0 ↔ length = 0 := by
    rw [tcpMss_eq] at short
    rw [← BitVec.toNat_inj, BitVec.toNat_ofNat,
      show (0 : BitVec 16).toNat = 0 from rfl]
    omega
  rw [segments_payloadMsgs, memReadCmds_payloadMsgs, segmentList,
    segmentList, List.append_nil]
  by_cases empty : length = 0
  · rw [if_pos empty, if_neg (not_not_intro (emptyIff.2 empty)),
      if_neg (not_not_intro (emptyIff.2 empty))]
    exact ⟨rfl, rfl⟩
  · rw [if_neg empty, if_pos (mt emptyIff.1 empty),
      if_pos (mt emptyIff.1 empty)]
    exact ⟨rfl, rfl⟩

/-- The outputs of one retransmitted segment, with what comes behind it. -/
theorem RtOutputs.single
    {state : TxEngState} {rsp : TxSarToTxEngRsp} {addrAckd : BitVec 32}
    {length : Nat} {fin : List TxEngMsg}
    (short : length ≤ tcpMss) (noReads : memReadCmds fin = [])
    (sent :
      (rtSend state rsp addrAckd).2 =
        retransThresholdMsgs state rsp.usedLengthRst ++
          payloadMsgs state.sessionId
            (getSessionMemAddr .tx state.sessionId
              (addrAckd.setWidth 18))
            { rtHeader state with
              seqNumber := rsp.ackd
              length := BitVec.ofNat 16 length }) :
    RtOutputs state.sessionId (rtHeader state) rsp.ackd addrAckd [length]
      fin ((rtSend state rsp addrAckd).2 ++ fin) := by
  obtain ⟨noSegments, noCmds, thresholds⟩ :=
    retransThresholdMsgs_kinds state rsp.usedLengthRst
  obtain ⟨blockSegments, blockCmds⟩ :=
    payloadMsgs_kinds state.sessionId
      (getSessionMemAddr .tx state.sessionId (addrAckd.setWidth 18))
      (rtHeader state) rsp.ackd short
  rw [sent]
  refine ⟨?_, ?_, _, ?_, thresholds⟩
  · rw [segments_append, segments_append, noSegments, blockSegments,
      List.nil_append]
  · rw [memReadCmds_append, memReadCmds_append, noCmds, blockCmds,
      noReads, List.nil_append]
    rfl
  · rw [sarWrites_append, sarWrites_append, sarWrites_payloadMsgs,
      List.append_nil]

/-- A full segment in front of the outputs of `RT_CONT`. -/
theorem RtOutputs.more
    {state : TxEngState} {rsp : TxSarToTxEngRsp} {lengths : List Nat}
    {currLength : TcpSessionBuffer} {fin later : List TxEngMsg}
    (outputs :
      RtOutputs state.sessionId
        { rtHeader state with
          seqNumber := rsp.ackd
          length := BitVec.ofNat 16 tcpMss }
        (rsp.ackd + BitVec.ofNat 32 tcpMss) 0 lengths fin later)
    (addrAckd : BitVec 32) :
    RtOutputs state.sessionId (rtHeader state) rsp.ackd addrAckd
      (tcpMss :: lengths) fin
      (retransThresholdMsgs state currLength ++
          payloadMsgs state.sessionId
            (getSessionMemAddr .tx state.sessionId
              (addrAckd.setWidth 18))
            { rtHeader state with
              seqNumber := rsp.ackd
              length := BitVec.ofNat 16 tcpMss } ++
        later) := by
  obtain ⟨noSegments, noCmds, thresholds⟩ :=
    retransThresholdMsgs_kinds state currLength
  obtain ⟨blockSegments, blockCmds⟩ :=
    payloadMsgs_kinds state.sessionId
      (getSessionMemAddr .tx state.sessionId (addrAckd.setWidth 18))
      (rtHeader state) rsp.ackd (Nat.le_refl tcpMss)
  have notEmpty : tcpMss ≠ 0 := by
    decide
  have sent := outputs.sent
  have read := outputs.readCont
  rw [segmentList_header] at sent read
  obtain ⟨laterThresholds, written, onlyThresholds⟩ := outputs.written
  refine ⟨?_, ?_,
    sarWrites (retransThresholdMsgs state currLength) ++ laterThresholds,
    ?_, ?_⟩
  · rw [segments_append, segments_append, noSegments, blockSegments,
      sent, List.nil_append, ← List.append_assoc]
    simp only [segmentList, if_neg notEmpty, List.append_nil]
  · rw [memReadCmds_append, memReadCmds_append, noCmds, blockCmds,
      read, List.nil_append, List.take_succ_cons, List.take_zero,
      List.sum_singleton, List.drop_succ_cons, List.drop_zero]
  · rw [sarWrites_append, sarWrites_append, sarWrites_payloadMsgs,
      List.append_nil, written, List.append_assoc]
  · intro req member
    rcases List.mem_append.1 member with here | later
    · exact thresholds req here
    · exact onlyThresholds req later

/-- The last segment, and a FIN that was sent before it once more. -/
theorem rtSend_runs_last
    (rounds : Nat) (state : TxEngState) (rsp : TxSarToTxEngRsp)
    (addrAckd : BitVec 32)
    (rest : rsp.usedLengthRst.toNat ≤ tcpMss) :
    ∃ fin later final,
      MaybeFin rsp.notAckd rsp.appWritten fin ∧
      Runs txEngTcpFsm
        { (rtSend state rsp addrAckd).1 with txRxSarLoaded := true }
        later final ∧
      final.fsmState = .load ∧
      final.events = state.events ∧
      RtOutputs state.sessionId (rtHeader state) rsp.ackd addrAckd
        (rtLengths (rounds + 1) rsp.usedLengthRst.toNat) fin
        ((rtSend state rsp addrAckd).2 ++ later) := by
  have send := rtSend_last state rsp addrAckd rest
  have lengths :
      rtLengths (rounds + 1) rsp.usedLengthRst.toNat =
        [rsp.usedLengthRst.toNat] := by
    rw [rtLengths, if_neg (Nat.not_lt.2 rest)]
  have sent :
      (rtSend state rsp addrAckd).2 =
        retransThresholdMsgs state rsp.usedLengthRst ++
          payloadMsgs state.sessionId
            (getSessionMemAddr .tx state.sessionId
              (addrAckd.setWidth 18))
            { rtHeader state with
              seqNumber := rsp.ackd
              length := BitVec.ofNat 16 rsp.usedLengthRst.toNat } := by
    rw [send, BitVec.ofNat_toNat]
  rw [lengths]
  let next := { (rtSend state rsp addrAckd).1 with txRxSarLoaded := true }
  by_cases finIsSent : rsp.finIsSent = true
  · have call : txEngTcpFsm next = finSend next rsp := by
      simp only [next, send, finIsSent, if_true, txEngTcpFsm,
        TxEngState.setEventType, txEngFin]
    have run := Runs.head call (Runs.refl _)
    rw [List.append_nil] at run
    refine ⟨_, _, _, MaybeFin.fin next rfl rfl, run, rfl, ?_,
      RtOutputs.single rest (memReadCmds_finSend next rsp) sent⟩
    change next.events = state.events
    simp only [next, send]
    rfl
  · refine ⟨[], [], next, MaybeFin.none, Runs.refl next, ?_, ?_,
      RtOutputs.single rest rfl sent⟩
    · simp only [next, send, finIsSent]
      rfl
    · simp only [next, send]
      rfl

/-- A retransmitted segment and the machine's way back to `LOAD`, with
`rounds` further segments allowed. -/
theorem rtSend_runs
    (rounds : Nat) (state : TxEngState) (rsp : TxSarToTxEngRsp)
    (addrAckd : BitVec 32)
    (counted : state.retransSegCnt.toNat + rounds = 3) :
    ∃ fin later final,
      MaybeFin rsp.notAckd rsp.appWritten fin ∧
      Runs txEngTcpFsm
        { (rtSend state rsp addrAckd).1 with txRxSarLoaded := true }
        later final ∧
      final.fsmState = .load ∧
      final.events = state.events ∧
      RtOutputs state.sessionId (rtHeader state) rsp.ackd addrAckd
        (rtLengths (rounds + 1) rsp.usedLengthRst.toNat) fin
        ((rtSend state rsp addrAckd).2 ++ later) := by
  induction rounds generalizing state rsp addrAckd with
  | zero =>
      rcases Nat.lt_or_ge tcpMss rsp.usedLengthRst.toNat with more | rest
      · have send := rtSend_more state rsp addrAckd more
        have lastRound : state.retransSegCnt = 3 :=
          BitVec.eq_of_toNat_eq counted
        have lengths :
            rtLengths 1 rsp.usedLengthRst.toNat = [tcpMss] := by
          rw [rtLengths, if_pos more, rtLengths]
        rw [Nat.zero_add, lengths]
        refine ⟨[], [], _, MaybeFin.none, Runs.refl _, ?_, ?_,
          RtOutputs.single (Nat.le_refl tcpMss) rfl ?_⟩
        · rw [send]
          exact if_pos lastRound
        · rw [send]
          rfl
        · rw [send]
      · exact rtSend_runs_last 0 state rsp addrAckd rest
  | succ rounds inductionHypothesis =>
      rcases Nat.lt_or_ge tcpMss rsp.usedLengthRst.toNat with more | rest
      · have send := rtSend_more state rsp addrAckd more
        let next :=
          { (rtSend state rsp addrAckd).1 with txRxSarLoaded := true }
        let nextRsp : TxSarToTxEngRsp :=
          { rsp with
            ackd := rsp.ackd + BitVec.ofNat 32 tcpMss
            usedLengthRst :=
              rsp.usedLengthRst - BitVec.ofNat 18 tcpMss }
        have notLastRound : state.retransSegCnt ≠ 3 := by
          intro isThree
          rw [isThree, show (3 : BitVec 2).toNat = 3 from rfl] at counted
          omega
        have call : txEngTcpFsm next = rtSend next nextRsp 0 := by
          simp only [next, send, if_neg notLastRound, txEngTcpFsm,
            TxEngState.setEventType, txEngRtCont]
          rfl
        have nextCounted :
            next.retransSegCnt.toNat + rounds = 3 := by
          have oneMore :
              next.retransSegCnt = state.retransSegCnt + 1 := by
            simp only [next, send]
          have countBound := state.retransSegCnt.isLt
          rw [oneMore, BitVec.toNat_add,
            show (1 : BitVec 2).toNat = 1 from rfl]
          omega
        have nextId : next.sessionId = state.sessionId := by
          simp only [next, send]
          rfl
        have nextHeader :
            rtHeader next =
              { rtHeader state with
                seqNumber := rsp.ackd
                length := BitVec.ofNat 16 tcpMss } := by
          simp only [next, send]
          rfl
        have nextUnacked :
            nextRsp.usedLengthRst.toNat =
              rsp.usedLengthRst.toNat - tcpMss := by
          refine BitVec.toNat_sub_of_le ?_
          rw [BitVec.le_def]
          exact Nat.le_of_lt more
        have stillLoaded :
            { (rtSend next nextRsp 0).1 with txRxSarLoaded := true } =
              (rtSend next nextRsp 0).1 := by
          have isLoaded :
              (rtSend next nextRsp 0).1.txRxSarLoaded = true := by
            rw [rtSend]
            split <;> rfl
          rw [← isLoaded]
        obtain ⟨fin, later, final, follows, run, inLoad, sameEvents,
            outputs⟩ :=
          inductionHypothesis next nextRsp 0 nextCounted
        rw [stillLoaded] at run
        have lengths :
            rtLengths (rounds + 1 + 1) rsp.usedLengthRst.toNat =
              tcpMss ::
                rtLengths (rounds + 1)
                  (rsp.usedLengthRst.toNat - tcpMss) := by
          rw [rtLengths, if_pos more]
        rw [nextId, nextHeader, nextUnacked] at outputs
        rw [lengths]
        refine ⟨fin, (rtSend next nextRsp 0).2 ++ later, final, follows,
          Runs.head call run, inLoad, sameEvents.trans ?_, ?_⟩
        · simp only [next, send]
          rfl
        · rw [send]
          exact outputs.more addrAckd
      · exact rtSend_runs_last (rounds + 1) state rsp addrAckd rest

end TcpOffload
