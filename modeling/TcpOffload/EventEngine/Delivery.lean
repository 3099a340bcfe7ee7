import TcpOffload.EventEngine
import TcpOffload.Timers.AckDelay
import TcpOffload.TxEngine.Calls

/-!
# Events on their way to the TX engine

`event_engine`, `ack_delay` and `TxEngTcpFsm` with the streams between them,
in any order of their calls.  The tables answer the machine with anything, at
any time.
-/

namespace TcpOffload

open Guarded Clocked

/-! ## One call of each process -/

/-- What one call of `ack_delay` does with its events. -/
inductive AckDelayCall (state : AckDelayState) :
    AckDelayState → List AckDelayMsg → Prop
  | delays {event : EventWithTuple} {next : AckDelayState} :
      event.type = .ack →
      state.events = event :: next.events →
      AckDelayCall state next [.readCount]
  | forwards {event : EventWithTuple} {next : AckDelayState} :
      state.events = event :: next.events →
      AckDelayCall state next [.readCount, .event event, .writeCount]
  | timesOut {event : EventWithTuple} {next : AckDelayState} :
      event.type = .ack →
      state.events = next.events →
      AckDelayCall state next [.event event, .writeCount]
  | looks {next : AckDelayState} :
      state.events = next.events →
      AckDelayCall state next []

theorem ackDelay_call (time64us : BitVec 12) (full : Bool)
    (state : AckDelayState) :
    AckDelayCall state (ackDelay time64us full state).1
      (ackDelay time64us full state).2 := by
  rw [ackDelay]
  split
  · rename_i event later queued
    simp only []
    split
    · rename_i first
      exact AckDelayCall.delays first.1 queued
    · exact AckDelayCall.forwards queued
  · rename_i none
    rw [AckDelayState.sweep]
    split
    · by_cases isOne : state.ackTable state.curSessionId = 1
      · rw [if_pos isOne]
        exact AckDelayCall.timesOut rfl rfl
      · rw [if_neg isOne]
        exact AckDelayCall.looks rfl
    · exact AckDelayCall.looks rfl

namespace TxEngMsg

theorem not_readCount_headerMsgs (id : TcpSessionID)
    (segment : TxEngFsmMetaData) : .readCount ∉ headerMsgs id segment := by
  simp [headerMsgs]

theorem not_readCount_payloadMsgs (id : TcpSessionID) (addr : BitVec 32)
    (segment : TxEngFsmMetaData) :
    .readCount ∉ payloadMsgs id addr segment := by
  rw [payloadMsgs]
  split
  · simp [headerMsgs]
  · exact List.not_mem_nil

theorem not_readCount_txSend (state : TxEngState) (rsp : TxSarToTxEngRsp)
    (usableWindow : TcpSessionBuffer) :
    .readCount ∉ (txSend state rsp usableWindow).2 := by
  rw [txSend]
  intro isRead
  rcases List.mem_append.1 isRead with isWrite | isPayload
  · rw [txIteration] at isWrite
    split at isWrite
    · split at isWrite
      · cases isWrite
      · rw [txShortSegment] at isWrite
        rcases List.mem_append.1 isWrite with isProbe | isUpdate
        · split at isProbe
          · cases isProbe
          · simp at isProbe
        · simp at isUpdate
    · split at isWrite
      · cases isWrite
      · simp [txWindowSegment] at isWrite
  · exact not_readCount_payloadMsgs _ _ _ isPayload

theorem not_readCount_rtSend (state : TxEngState) (rsp : TxSarToTxEngRsp)
    (addrAckd : BitVec 32) :
    .readCount ∉ (rtSend state rsp addrAckd).2 := by
  have notThreshold (length : TcpSessionBuffer) :
      .readCount ∉ retransThresholdMsgs state length := by
    rw [retransThresholdMsgs]
    split
    · simp
    · exact List.not_mem_nil
  rw [rtSend]
  simp only []
  split
  · intro isRead
    rcases List.mem_append.1 isRead with isThreshold | isPayload
    · exact notThreshold _ isThreshold
    · exact not_readCount_payloadMsgs _ _ _ isPayload
  · intro isRead
    rcases List.mem_append.1 isRead with isThreshold | isPayload
    · exact notThreshold _ isThreshold
    · exact not_readCount_payloadMsgs _ _ _ isPayload

theorem not_readCount_finSend (state : TxEngState) (rsp : TxSarToTxEngRsp) :
    .readCount ∉ (finSend state rsp).2 := by
  have either {condition : Prop} [Decidable condition]
      {first second : List TxEngMsg} (notFirst : .readCount ∉ first)
      (notSecond : .readCount ∉ second) :
      .readCount ∉ if condition then first else second := by
    split
    · exact notFirst
    · exact notSecond
  rw [finSend]
  intro isRead
  rcases List.mem_append.1 isRead with isWrite | isSegment
  · refine absurd isWrite (either List.not_mem_nil (either ?_ ?_))
    · simp
    · simp
  · refine absurd isSegment (either ?_ List.not_mem_nil)
    simp

/-- Only `LOAD` counts an event. -/
theorem not_readCount_transition {state : TxEngState}
    (isTransition : state.fsmState = .transition) :
    .readCount ∉ (txEngTcpFsm state).2 := by
  rw [txEngTcpFsm, isTransition]
  simp only []
  split
  · rw [txEngTx]
    split
    · exact not_readCount_txSend _ _ _
    · split
      · exact not_readCount_txSend _ _ _
      · exact List.not_mem_nil
  · rw [txEngRt]
    split
    · exact not_readCount_rtSend _ _ _
    · exact List.not_mem_nil
  · exact not_readCount_rtSend _ _ _
  · rw [txEngAck]
    split
    · exact not_readCount_headerMsgs _ _
    · exact List.not_mem_nil
  · rw [txEngAck]
    split
    · exact not_readCount_headerMsgs _ _
    · exact List.not_mem_nil
  · rw [txEngSyn]
    simp only []
    split
    · split
      · simp [headerMsgs]
      · exact List.not_mem_nil
    · simp [headerMsgs]
  · rw [txEngSynAck]
    split
    · simp only []
      split
      · simp
      · simp
    · exact List.not_mem_nil
  · rw [txEngFin]
    split
    · exact not_readCount_finSend _ _
    · split
      · exact not_readCount_finSend _ _
      · exact List.not_mem_nil
  · rw [txEngRst]
    split
    · split
      · simp
      · exact List.not_mem_nil
    · simp

end TxEngMsg

/-- What one call of the machine does with its events. -/
inductive TxEngTake (state : TxEngState) :
    TxEngState → List TxEngMsg → List EventWithTuple → Prop
  | takes {event : EventWithTuple} {next : TxEngState}
      {msgs : List TxEngMsg} :
      state.events = event :: next.events →
      msgs.count .readCount = 1 →
      TxEngTake state next msgs [event]
  | leaves {next : TxEngState} {msgs : List TxEngMsg} :
      state.events = next.events →
      msgs.count .readCount = 0 →
      TxEngTake state next msgs []

/-- The event that the next call takes. -/
def TxEngState.taken (state : TxEngState) : List EventWithTuple :=
  if state.fsmState = .load then state.events.take 1 else []

theorem txEngTcpFsm_take (state : TxEngState) :
    TxEngTake state (txEngTcpFsm state).1 (txEngTcpFsm state).2
      state.taken := by
  rw [TxEngState.taken]
  cases isAt : state.fsmState with
  | transition =>
      rw [if_neg (by decide)]
      exact
        TxEngTake.leaves (events_of_transition isAt).symm
          (List.count_eq_zero_of_not_mem
            (TxEngMsg.not_readCount_transition isAt))
  | load =>
      rw [if_pos rfl, txEngTcpFsm, isAt]
      simp only []
      rw [txEngLoad]
      split
      · rename_i none
        rw [none]
        exact TxEngTake.leaves none rfl
      · rename_i event later queued
        rw [queued]
        refine TxEngTake.takes queued ?_
        rw [List.count_append, List.count_append]
        split
        · split
          · rfl
          · rfl
        · split
          · rfl
          · rfl

/-! ## The three processes -/

/-- The processes, with what has arrived from each source and what the TX
engine has taken. -/
structure EventPath where
  engine : EventEngineState
  delay : AckDelayState
  txEng : TxEngState
  arrived : EventSource → List EventWithTuple
  taken : List EventWithTuple

inductive EventPathAction where
  | rxEngEvent (event : EventWithTuple)
  | timerEvent (event : Event)
  | txAppEvent (event : Event)
  | eventEngine
  | ackDelay (full : Bool)
  | txEng
  | rxSarRsp (rsp : RxSarLookupRsp)
  | txSarRsp (rsp : TxSarToTxEngRsp)

namespace EventPath

def start : EventPath where
  engine := .start
  delay := .start
  txEng := .start
  arrived := fun _ => []
  taken := []

/-- An event of the source is one more. -/
def arrives (path : EventPath) (source : EventSource)
    (event : EventWithTuple) : EventSource → List EventWithTuple :=
  Function.update path.arrived source (path.arrived source ++ [event])

def act (time64us : BitVec 12) (path : EventPath) :
    EventPathAction → EventPath
  | .rxEngEvent event =>
      { path with
        engine :=
          { path.engine with
            rxEngEvents := path.engine.rxEngEvents ++ [event] }
        arrived := path.arrives .rxEng event }
  | .timerEvent event =>
      { path with
        engine :=
          { path.engine with
            timerEvents := path.engine.timerEvents ++ [event] }
        arrived := path.arrives .timer event.withoutTuple }
  | .txAppEvent event =>
      { path with
        engine :=
          { path.engine with
            txAppEvents := path.engine.txAppEvents ++ [event] }
        arrived := path.arrives .txApp event.withoutTuple }
  | .eventEngine =>
      let called := TcpOffload.eventEngine path.engine
      { path with
        engine := called.1
        delay :=
          { path.delay with events := path.delay.events ++ called.2 } }
  | .ackDelay full =>
      let called := TcpOffload.ackDelay time64us full path.delay
      { path with
        delay := called.1
        engine :=
          { path.engine with
            ackDelayReads :=
              path.engine.ackDelayReads + called.2.count .readCount
            ackDelayWrites :=
              path.engine.ackDelayWrites + called.2.count .writeCount }
        txEng :=
          { path.txEng with
            events :=
              path.txEng.events ++
                called.2.filterMap AckDelayMsg.toTxEng } }
  | .txEng =>
      let called := txEngTcpFsm path.txEng
      { path with
        txEng := called.1
        engine :=
          { path.engine with
            txEngReads := path.engine.txEngReads + called.2.count .readCount }
        taken := path.taken ++ path.txEng.taken }
  | .rxSarRsp rsp =>
      { path with
        txEng :=
          { path.txEng with rxSarRsps := path.txEng.rxSarRsps ++ [rsp] } }
  | .txSarRsp rsp =>
      { path with
        txEng :=
          { path.txEng with txSarRsps := path.txEng.txSarRsps ++ [rsp] } }

/-- The events of a source in a merged list. -/
def lane (source : EventSource)
    (merged : List (EventSource × EventWithTuple)) : List EventWithTuple :=
  (merged.filter (·.1 == source)).map Prod.snd

/-- The events that `ack_delay` never holds back. -/
def urgent (events : List EventWithTuple) : List EventWithTuple :=
  events.filter (·.type != .ack)

/-- One order of all the events that have passed keeps the order of each
source, and it is the order in which the TX engine has them, except for ACK
events. -/
def DeliversInOrder (path : EventPath) : Prop :=
  ∃ merged : List (EventSource × EventWithTuple),
    (∀ source,
      path.arrived source =
        lane source merged ++ path.engine.waiting source) ∧
      urgent (merged.map Prod.snd) =
        urgent (path.taken ++ path.txEng.events ++ path.delay.events)

theorem urgent_append (first second : List EventWithTuple) :
    urgent (first ++ second) = urgent first ++ urgent second :=
  List.filter_append first second

theorem urgent_ack {event : EventWithTuple} (isAck : event.type = .ack) :
    urgent [event] = [] := by
  rw [urgent, List.filter_cons_of_neg, List.filter_nil]
  rw [isAck]
  decide

theorem lane_append (source : EventSource)
    (first second : List (EventSource × EventWithTuple)) :
    lane source (first ++ second) =
      lane source first ++ lane source second := by
  rw [lane, List.filter_append, List.map_append]
  rfl

theorem lane_own (source : EventSource) (event : EventWithTuple) :
    lane source [(source, event)] = [event] := by
  rw [lane, List.filter_cons_of_pos (by exact beq_self_eq_true source)]
  rfl

theorem lane_other {source other : EventSource} (event : EventWithTuple)
    (isOther : other ≠ source) : lane other [(source, event)] = [] := by
  have notOwn : ¬(source == other) = true := by
    rw [beq_iff_eq]
    exact Ne.symm isOther
  rw [lane, List.filter_cons_of_neg (by exact notOwn)]
  rfl

/-- An event that arrives waits behind the others of its source. -/
theorem DeliversInOrder.arrives {path : EventPath}
    (delivers : path.DeliversInOrder) {source : EventSource}
    {event : EventWithTuple} {engine : EventEngineState}
    (waits :
      engine.waiting source = path.engine.waiting source ++ [event])
    (others :
      ∀ other, other ≠ source →
        engine.waiting other = path.engine.waiting other) :
    DeliversInOrder
      { path with
        engine := engine, arrived := path.arrives source event } := by
  obtain ⟨merged, lanes, same⟩ := delivers
  refine ⟨merged, ?_, same⟩
  intro other
  by_cases isOther : other = source
  · subst isOther
    simp only [EventPath.arrives, Function.update_self]
    rw [lanes, waits, List.append_assoc]
  · simp only [EventPath.arrives, Function.update_of_ne isOther]
    rw [lanes, others other isOther]

/-- The engine, and the streams of counts, may change as long as the same
events wait. -/
theorem DeliversInOrder.congr {path next : EventPath}
    (delivers : path.DeliversInOrder)
    (arrived : next.arrived = path.arrived)
    (waiting :
      ∀ source, next.engine.waiting source = path.engine.waiting source)
    (same :
      urgent (next.taken ++ next.txEng.events ++ next.delay.events) =
        urgent (path.taken ++ path.txEng.events ++ path.delay.events)) :
    next.DeliversInOrder := by
  obtain ⟨merged, lanes, isMerged⟩ := delivers
  refine ⟨merged, ?_, isMerged.trans same.symm⟩
  intro source
  rw [arrived, lanes, waiting]

theorem waiting_readCounts (state : EventEngineState)
    (source : EventSource) :
    state.readCounts.waiting source = state.waiting source := by
  cases source with
  | rxEng =>
      rfl
  | timer =>
      rfl
  | txApp =>
      rfl

theorem DeliversInOrder.eventEngine {time64us : BitVec 12}
    {path : EventPath} (delivers : path.DeliversInOrder) :
    (path.act time64us .eventEngine).DeliversInOrder := by
  obtain ⟨merged, lanes, same⟩ := delivers
  rw [act, TcpOffload.eventEngine]
  have passed := path.engine.pass_cases
  generalize path.engine.pass.1 = next at passed
  generalize path.engine.pass.2 = events at passed
  cases passed with
  | @passes source event next _ waits others _ =>
      refine ⟨merged ++ [(source, event)], ?_, ?_⟩
      · intro other
        simp only []
        rw [waiting_readCounts, lane_append, lanes]
        by_cases isOther : other = source
        · subst isOther
          rw [waits, lane_own, List.append_assoc]
          rfl
        · rw [lane_other event isOther, List.append_nil,
            others other isOther]
      · rw [List.map_append, urgent_append, same, ← urgent_append,
          ← List.append_assoc]
        rfl
  | holds _ =>
      refine ⟨merged, ?_, ?_⟩
      · intro source
        simp only []
        rw [waiting_readCounts, lanes]
      · simp only []
        rw [List.append_nil]
        exact same

theorem DeliversInOrder.ackDelay {time64us : BitVec 12} {full : Bool}
    {path : EventPath} (delivers : path.DeliversInOrder) :
    (path.act time64us (.ackDelay full)).DeliversInOrder := by
  rw [act]
  have called := ackDelay_call time64us full path.delay
  generalize (TcpOffload.ackDelay time64us full path.delay).1 = next at called
  generalize (TcpOffload.ackDelay time64us full path.delay).2 = msgs at called
  refine delivers.congr rfl ?_ ?_
  · intro source
    cases source with
    | rxEng =>
        rfl
    | timer =>
        rfl
    | txApp =>
        rfl
  · simp only []
    cases called with
    | @delays event _ isAck queued =>
        have split : path.delay.events = [event] ++ next.events := queued
        rw [split]
        simp only [AckDelayMsg.toTxEng, List.filterMap_cons,
          List.filterMap_nil, List.append_nil, urgent_append,
          urgent_ack isAck, List.nil_append]
    | @forwards event _ queued =>
        have split : path.delay.events = [event] ++ next.events := queued
        rw [split]
        simp only [AckDelayMsg.toTxEng, List.filterMap_cons,
          List.filterMap_nil, List.append_assoc]
    | @timesOut event _ isAck same =>
        rw [same]
        simp only [AckDelayMsg.toTxEng, List.filterMap_cons,
          List.filterMap_nil, urgent_append, urgent_ack isAck,
          List.append_nil]
    | looks same =>
        rw [same]
        simp only [List.filterMap_nil, List.append_nil]

theorem DeliversInOrder.txEng {time64us : BitVec 12} {path : EventPath}
    (delivers : path.DeliversInOrder) :
    (path.act time64us .txEng).DeliversInOrder := by
  rw [act]
  have call := txEngTcpFsm_take path.txEng
  generalize (txEngTcpFsm path.txEng).1 = next at call
  generalize (txEngTcpFsm path.txEng).2 = msgs at call
  refine delivers.congr rfl ?_ ?_
  · intro source
    cases source with
    | rxEng =>
        rfl
    | timer =>
        rfl
    | txApp =>
        rfl
  · simp only []
    generalize path.txEng.taken = taken at call
    cases call with
    | takes queued _ =>
        rw [queued]
        simp only [List.append_assoc, List.cons_append, List.nil_append]
    | leaves same _ =>
        rw [same, List.append_nil]

theorem DeliversInOrder.step {time64us : BitVec 12} {path : EventPath}
    {action : EventPathAction} (delivers : path.DeliversInOrder) :
    (path.act time64us action).DeliversInOrder := by
  cases action with
  | rxEngEvent event =>
      refine @DeliversInOrder.arrives _ delivers .rxEng event _ rfl ?_
      intro other isOther
      cases other with
      | rxEng =>
          exact absurd rfl isOther
      | timer =>
          rfl
      | txApp =>
          rfl
  | timerEvent event =>
      refine
        @DeliversInOrder.arrives _ delivers .timer event.withoutTuple _
          List.map_append ?_
      intro other isOther
      cases other with
      | rxEng =>
          rfl
      | timer =>
          exact absurd rfl isOther
      | txApp =>
          rfl
  | txAppEvent event =>
      refine
        @DeliversInOrder.arrives _ delivers .txApp event.withoutTuple _
          List.map_append ?_
      intro other isOther
      cases other with
      | rxEng =>
          rfl
      | timer =>
          rfl
      | txApp =>
          exact absurd rfl isOther
  | eventEngine =>
      exact delivers.eventEngine
  | ackDelay full =>
      exact delivers.ackDelay
  | txEng =>
      exact delivers.txEng
  | rxSarRsp rsp =>
      exact delivers.congr rfl (fun _ => rfl) rfl
  | txSarRsp rsp =>
      exact delivers.congr rfl (fun _ => rfl) rfl

/-! ## The counters -/

/-- The counters of the engine differ by what is on its way: events that
`ack_delay` has not read and counts of those it has read; and the same behind
`ack_delay`. -/
structure Counted (path : EventPath) : Prop where
  written :
    path.engine.writeEventCount =
      path.engine.ackDelayReadCount +
        BitVec.ofNat 8
          (path.engine.ackDelayReads + path.delay.events.length)
  forwarded :
    path.engine.ackDelayWriteCount +
        BitVec.ofNat 8 path.engine.ackDelayWrites =
      path.engine.txEngReadCount +
        BitVec.ofNat 8 (path.engine.txEngReads + path.txEng.events.length)

theorem counted_start : Counted start :=
  ⟨rfl, rfl⟩

/-- A count that is read moves from the stream into the counter. -/
theorem readCount_add (count : BitVec 8) (tokens rest : Nat) :
    (if tokens = 0 then count else count + 1) +
        BitVec.ofNat 8 (tokens - 1 + rest) =
      count + BitVec.ofNat 8 (tokens + rest) := by
  cases tokens with
  | zero =>
      rw [if_pos rfl]
  | succ tokens =>
      have more : tokens + 1 + rest = 1 + (tokens + rest) := by
        omega
      have split :
          BitVec.ofNat 8 (1 + (tokens + rest)) =
            1 + BitVec.ofNat 8 (tokens + rest) :=
        BitVec.ofNat_add 1 (tokens + rest)
      rw [if_neg (Nat.succ_ne_zero tokens), Nat.add_sub_cancel, more, split,
        BitVec.add_assoc]

theorem ofNat_succ (value : Nat) :
    BitVec.ofNat 8 (value + 1) = BitVec.ofNat 8 value + 1 :=
  BitVec.ofNat_add value 1

theorem Counted.eventEngine {time64us : BitVec 12} {path : EventPath}
    (counted : path.Counted) :
    (path.act time64us .eventEngine).Counted := by
  obtain ⟨written, forwarded⟩ := counted
  rw [act, TcpOffload.eventEngine]
  have passed := path.engine.pass_cases
  generalize path.engine.pass.1 = next at passed
  generalize path.engine.pass.2 = events at passed
  have delayed :
      (if next.ackDelayWrites = 0 then next.ackDelayWriteCount
          else next.ackDelayWriteCount + 1) +
          BitVec.ofNat 8 (next.ackDelayWrites - 1) =
        next.ackDelayWriteCount + BitVec.ofNat 8 next.ackDelayWrites :=
    readCount_add next.ackDelayWriteCount next.ackDelayWrites 0
  cases passed with
  | passes _ _ _ counts =>
      constructor
      · simp only [EventEngineState.readCounts, List.length_append,
          List.length_singleton]
        rw [readCount_add, counts.write, counts.read, counts.reads,
          written, ← Nat.add_assoc, ofNat_succ, BitVec.add_assoc]
      · simp only [EventEngineState.readCounts]
        rw [delayed, readCount_add, counts.delayed, counts.handled,
          counts.writes, counts.txEngReads, forwarded]
  | holds _ =>
      constructor
      · simp only [EventEngineState.readCounts, List.append_nil]
        rw [readCount_add, written]
      · simp only [EventEngineState.readCounts]
        rw [delayed, readCount_add, forwarded]

theorem Counted.ackDelay {time64us : BitVec 12} {full : Bool}
    {path : EventPath} (counted : path.Counted) :
    (path.act time64us (.ackDelay full)).Counted := by
  obtain ⟨written, forwarded⟩ := counted
  rw [act]
  have called := ackDelay_call time64us full path.delay
  generalize (TcpOffload.ackDelay time64us full path.delay).1 = next at called
  generalize (TcpOffload.ackDelay time64us full path.delay).2 = msgs at called
  have reads (length : Nat) :
      path.engine.ackDelayReads + 1 + length =
        path.engine.ackDelayReads + (length + 1) := by
    omega
  cases called with
  | delays isAck queued =>
      rw [queued, List.length_cons] at written
      constructor
      · simp only [List.count_singleton_self, reads]
        exact written
      · have writtenNone :
            [AckDelayMsg.readCount].count .writeCount = 0 :=
          rfl
        simp only [writtenNone, Nat.add_zero, AckDelayMsg.toTxEng,
          List.filterMap_cons, List.filterMap_nil, List.append_nil]
        exact forwarded
  | @forwards event _ queued =>
      rw [queued, List.length_cons] at written
      have readOnce :
          [AckDelayMsg.readCount, .event event, .writeCount].count
            .readCount = 1 :=
        rfl
      have writtenOnce :
          [AckDelayMsg.readCount, .event event, .writeCount].count
            .writeCount = 1 :=
        rfl
      constructor
      · simp only [readOnce, reads]
        exact written
      · simp only [writtenOnce, AckDelayMsg.toTxEng, List.filterMap_cons,
          List.filterMap_nil, List.length_append, List.length_singleton]
        rw [ofNat_succ, ← Nat.add_assoc, ofNat_succ, ← BitVec.add_assoc,
          forwarded, BitVec.add_assoc]
  | @timesOut event _ isAck same =>
      have readNone :
          [AckDelayMsg.event event, .writeCount].count .readCount = 0 :=
        rfl
      have writtenOnce :
          [AckDelayMsg.event event, .writeCount].count .writeCount = 1 :=
        rfl
      constructor
      · simp only [readNone, Nat.add_zero, ← same]
        exact written
      · simp only [writtenOnce, AckDelayMsg.toTxEng, List.filterMap_cons,
          List.filterMap_nil, List.length_append, List.length_singleton]
        rw [ofNat_succ, ← Nat.add_assoc, ofNat_succ, ← BitVec.add_assoc,
          forwarded, BitVec.add_assoc]
  | looks same =>
      constructor
      · simp only [List.count_nil, Nat.add_zero, ← same]
        exact written
      · simp only [List.count_nil, Nat.add_zero, List.filterMap_nil,
          List.append_nil]
        exact forwarded

theorem Counted.txEng {time64us : BitVec 12} {path : EventPath}
    (counted : path.Counted) : (path.act time64us .txEng).Counted := by
  obtain ⟨written, forwarded⟩ := counted
  rw [act]
  have call := txEngTcpFsm_take path.txEng
  generalize (txEngTcpFsm path.txEng).1 = next at call
  generalize (txEngTcpFsm path.txEng).2 = msgs at call
  generalize path.txEng.taken = taken at call
  refine ⟨written, ?_⟩
  cases call with
  | takes queued once =>
      rw [queued, List.length_cons] at forwarded
      simp only [once]
      rw [forwarded, Nat.add_right_comm, ← Nat.add_assoc]
  | leaves same none =>
      simp only [none, Nat.add_zero, ← same]
      exact forwarded

theorem Counted.step {time64us : BitVec 12} {path : EventPath}
    {action : EventPathAction} (counted : path.Counted) :
    (path.act time64us action).Counted := by
  cases action with
  | rxEngEvent _ | timerEvent _ | txAppEvent _ | rxSarRsp _ | txSarRsp _ =>
      exact ⟨counted.written, counted.forwarded⟩
  | eventEngine =>
      exact counted.eventEngine
  | ackDelay full =>
      exact counted.ackDelay
  | txEng =>
      exact counted.txEng

/-- In every reachable state. -/
theorem counted_run (time64us : BitVec 12)
    (actions : List EventPathAction) :
    (actions.foldl (act time64us) start).Counted := by
  have started := counted_start
  generalize start = path at started
  induction actions generalizing path with
  | nil =>
      exact started
  | cons action rest inductionHypothesis =>
      exact inductionHypothesis _ started.step

theorem eq_zero_of_add_ofNat {count : BitVec 8} {value : Nat}
    (same : count = count + BitVec.ofNat 8 value) (few : value < 256) :
    value = 0 := by
  have values := congrArg BitVec.toNat same
  have bound := count.isLt
  rw [BitVec.toNat_add, BitVec.toNat_ofNat] at values
  omega

theorem eq_of_add_ofNat {count : BitVec 8} {first second : Nat}
    (same :
      count + BitVec.ofNat 8 first = count + BitVec.ofNat 8 second)
    (fewFirst : first < 256) (fewSecond : second < 256) :
    first = second := by
  have values := congrArg BitVec.toNat same
  have bound := count.isLt
  rw [BitVec.toNat_add, BitVec.toNat_add, BitVec.toNat_ofNat,
    BitVec.toNat_ofNat] at values
  omega

theorem countersMatch_of_served {state : EventEngineState}
    {source : EventSource} (served : state.served = some source)
    (notRxEng : source ≠ .rxEng) : state.CountersMatch := by
  rw [EventEngineState.served] at served
  split at served
  · exact absurd (Option.some.inj served).symm notRxEng
  · split at served
    · rename_i counters
      exact counters
    · cases served

/-- The event that is next when none of the RX engine waits. -/
theorem served_of_match {state : EventEngineState} {event : EventWithTuple}
    {later : List EventWithTuple} (noRx : state.rxEngEvents = [])
    (counters : state.CountersMatch)
    (waits :
      state.waiting .timer ++ state.waiting .txApp = event :: later) :
    state.pass.2 = [event] := by
  rw [EventEngineState.pass, noRx]
  simp only []
  rw [if_pos counters]
  cases timers : state.timerEvents with
  | cons first rest =>
      have isFirst :
          first.withoutTuple = event := by
        rw [EventEngineState.waiting, timers, List.map_cons,
          List.cons_append] at waits
        exact (List.cons.inj waits).1
      simp only []
      rw [isFirst]
  | nil =>
      have apps : state.waiting .txApp = event :: later := by
        rw [EventEngineState.waiting, timers] at waits
        exact waits
      cases isApp : state.txAppEvents with
      | cons first rest =>
          rw [EventEngineState.waiting, isApp, List.map_cons] at apps
          simp only []
          rw [(List.cons.inj apps).1]
      | nil =>
          rw [EventEngineState.waiting, isApp] at apps
          cases apps

/-- The engine holds the events back, and reads its counts. -/
theorem act_holds {time64us : BitVec 12} {path : EventPath}
    (holds : path.engine.served = none) :
    path.act time64us .eventEngine =
      { path with engine := path.engine.readCounts } := by
  rw [act, TcpOffload.eventEngine]
  have passed := path.engine.pass_cases
  generalize path.engine.pass.1 = next at passed
  generalize path.engine.pass.2 = events at passed
  cases passed with
  | passes served _ _ _ =>
      rw [holds] at served
      cases served
  | holds _ =>
      simp only [List.append_nil]

/-- The counts that are there. -/
def counts (path : EventPath) : Nat :=
  max (max path.engine.ackDelayReads path.engine.ackDelayWrites)
    path.engine.txEngReads

theorem passes_within {time64us : BitVec 12} {bound : Nat}
    {path : EventPath} {event : EventWithTuple}
    {later : List EventWithTuple} (counted : path.Counted)
    (noRx : path.engine.rxEngEvents = []) (noDelay : path.delay.events = [])
    (noTx : path.txEng.events = [])
    (waits :
      path.engine.waiting .timer ++ path.engine.waiting .txApp =
        event :: later)
    (few : path.counts ≤ bound) :
    ∃ calls, calls ≤ bound ∧
      ((List.replicate (calls + 1) .eventEngine).foldl (act time64us)
        path).delay.events = [event] := by
  induction bound generalizing path with
  | zero =>
      obtain ⟨written, forwarded⟩ := counted
      have few' := few
      rw [counts] at few'
      have noReads : path.engine.ackDelayReads = 0 := by
        omega
      have noWrites : path.engine.ackDelayWrites = 0 := by
        omega
      have noTakes : path.engine.txEngReads = 0 := by
        omega
      rw [noDelay, noReads] at written
      rw [noTx, noWrites, noTakes] at forwarded
      have counters : path.engine.CountersMatch :=
        ⟨written.trans (BitVec.add_zero _),
          (BitVec.add_zero _).symm.trans
            (forwarded.trans (BitVec.add_zero _))⟩
      refine ⟨0, Nat.le_refl 0, ?_⟩
      rw [List.replicate_one, List.foldl_cons, List.foldl_nil, act,
        TcpOffload.eventEngine, served_of_match noRx counters waits,
        noDelay]
      rfl
  | succ bound inductionHypothesis =>
      by_cases counters : path.engine.CountersMatch
      · refine ⟨0, Nat.zero_le _, ?_⟩
        rw [List.replicate_one, List.foldl_cons, List.foldl_nil, act,
          TcpOffload.eventEngine, served_of_match noRx counters waits,
          noDelay]
        rfl
      · have holds : path.engine.served = none := by
          rw [EventEngineState.served, if_neg (fun some => some noRx),
            if_neg counters]
        have next := @act_holds time64us path holds
        have countedNext := @Counted.eventEngine time64us path counted
        rw [next] at countedNext
        have fewer :
            counts { path with engine := path.engine.readCounts } ≤
              bound := by
          rw [counts] at few
          simp only [counts, EventEngineState.readCounts]
          omega
        have stillWaits :
            path.engine.readCounts.waiting .timer ++
                path.engine.readCounts.waiting .txApp =
              event :: later := by
          rw [waiting_readCounts, waiting_readCounts]
          exact waits
        obtain ⟨calls, within, passes⟩ :=
          @inductionHypothesis
            { path with engine := path.engine.readCounts } countedNext noRx
            noDelay noTx stillWaits fewer
        refine ⟨calls + 1, Nat.succ_le_succ within, ?_⟩
        rw [List.replicate_succ, List.foldl_cons, next]
        exact passes

end EventPath

open EventPath in
/-- When the engine lets an event of a timer or of the application in, every
event before it was read by `ack_delay`, and as many of those that went on are
in front of the TX engine as the engine has not counted; unless 256 or more
are on their way. -/
theorem event_engine_waits
    {time64us : BitVec 12} {actions : List EventPathAction}
    {path : EventPath} {source : EventSource}
    (reached : actions.foldl (EventPath.act time64us) EventPath.start = path)
    (served : path.engine.served = some source)
    (notRxEng : source ≠ .rxEng)
    (fewUnread :
      path.engine.ackDelayReads + path.delay.events.length < 256)
    (fewWritten : path.engine.ackDelayWrites < 256)
    (fewTaken : path.engine.txEngReads + path.txEng.events.length < 256) :
    path.delay.events = [] ∧ path.engine.ackDelayReads = 0 ∧
      path.engine.txEngReads + path.txEng.events.length =
        path.engine.ackDelayWrites := by
  obtain ⟨written, forwarded⟩ := counted_run time64us actions
  obtain ⟨noneUnread, sameTaken⟩ :=
    countersMatch_of_served served notRxEng
  rw [reached] at written forwarded
  rw [noneUnread] at written
  rw [sameTaken] at forwarded
  have none := eq_zero_of_add_ofNat written fewUnread
  have empty : path.delay.events.length = 0 := by
    omega
  refine ⟨List.length_eq_zero_iff.1 empty, by omega, ?_⟩
  exact (eq_of_add_ofNat forwarded fewWritten fewTaken).symm

/-- A reset and an ACK go in, the reset is read by the TX engine, and the ACK
is held back until its time is over. -/
def expiredAck : List EventPathAction :=
  [.rxEngEvent (Event.rst 0 7).withoutTuple,
    .rxEngEvent (Event.plain .ack 0).withoutTuple,
    .timerEvent (Event.plain .rt 3), .eventEngine, .eventEngine,
    .ackDelay false, .txEng, .ackDelay false, .eventEngine, .eventEngine,
    .ackDelay false]

/-- The event of a timer passes the ACK, of which the engine does not know
yet. -/
theorem event_engine_waits_expiredAck :
    let path := expiredAck.foldl (EventPath.act 1) EventPath.start
    path.engine.served = some .timer ∧ path.engine.writeEventCount = 2 ∧
      path.txEng.events = [(Event.plain .ack 0).withoutTuple] ∧
      path.delay.events = [] ∧ path.engine.ackDelayWrites = 1 := by
  intro path
  have isAck : path.txEng.events = [(Event.plain .ack 0).withoutTuple] := by
    decide
  obtain ⟨noneUnread, -, uncounted⟩ :=
    @event_engine_waits 1 expiredAck path .timer rfl (by decide) (by decide)
      (by decide) (by decide) (by decide)
  refine ⟨by decide, by decide, isAck, noneUnread, ?_⟩
  rw [← uncounted, isAck]
  decide

open EventPath in
/-- An event of a timer or of the application is not held back for ever: once
no other event is on its way it passes as soon as the engine has read the
counts that are there, the timers first. -/
theorem waiting_event_passes
    {time64us : BitVec 12} {actions : List EventPathAction}
    {path : EventPath} {event : EventWithTuple}
    {later : List EventWithTuple}
    (reached : actions.foldl (EventPath.act time64us) EventPath.start = path)
    (noRxEng : path.engine.rxEngEvents = [])
    (noDelay : path.delay.events = []) (noTxEng : path.txEng.events = [])
    (waits :
      path.engine.waiting .timer ++ path.engine.waiting .txApp =
        event :: later) :
    ∃ calls,
      calls ≤ path.counts ∧
        ((List.replicate (calls + 1) .eventEngine).foldl
          (EventPath.act time64us) path).delay.events = [event] := by
  have counted := counted_run time64us actions
  rw [reached] at counted
  exact passes_within counted noRxEng noDelay noTxEng waits (Nat.le_refl _)

/-- A reset of the RX engine has gone through, and its counts are still
there. -/
theorem waiting_event_passes_behindReset :
    ∃ calls,
      calls ≤ 1 ∧
        ((List.replicate (calls + 1) .eventEngine).foldl (EventPath.act 4)
          ([.txAppEvent (Event.plain .tx 3),
            .rxEngEvent (Event.rst 0 7).withoutTuple, .eventEngine,
            .ackDelay false, .txEng].foldl (EventPath.act 4)
              EventPath.start)).delay.events =
          [(Event.plain .tx 3).withoutTuple] :=
  @waiting_event_passes 4
    [.txAppEvent (Event.plain .tx 3),
      .rxEngEvent (Event.rst 0 7).withoutTuple, .eventEngine,
      .ackDelay false, .txEng] _ _ [] rfl (by decide) (by decide)
    (by decide) (by decide)

/-- In every run the events of each source that are no ACKs reach the TX
engine in the order of their arrival, none is lost and none is doubled. -/
theorem events_delivered_in_order
    (time64us : BitVec 12) (actions : List EventPathAction) :
    (actions.foldl (EventPath.act time64us)
      EventPath.start).DeliversInOrder := by
  have started : EventPath.start.DeliversInOrder := by
    refine ⟨[], ?_, rfl⟩
    intro source
    cases source with
    | rxEng =>
        rfl
    | timer =>
        rfl
    | txApp =>
        rfl
  generalize EventPath.start = path at started
  induction actions generalizing path with
  | nil =>
      exact started
  | cons action rest inductionHypothesis =>
      exact inductionHypothesis _ started.step

end TcpOffload
