import TcpOffload.Library.Countdown
import TcpOffload.Timers.AckDelay

/-!
# When a delayed ACK is sent

An ACK that `ack_delay` holds back, and that no other event of its session
takes along, is sent by the sweep over the table.
-/

namespace TcpOffload

open Countdown

/-- What happens to the process: an event arrives, or it is called, with
`full` for a full FIFO to the TX engine. -/
inductive AckDelayInput where
  | event (event : EventWithTuple)
  | call (full : Bool)

namespace AckDelayInput

def isCall : AckDelayInput → Bool
  | .event _ => false
  | .call _ => true

def isEvent : AckDelayInput → Bool
  | .event _ => true
  | .call _ => false

/-- The input is no event of the session. -/
def LeavesAlone (id : TcpSessionID) : AckDelayInput → Prop
  | .event arrived => arrived.sessionId ≠ id
  | .call _ => True

end AckDelayInput

def ackDelayStep (time64us : BitVec 12) (state : AckDelayState) :
    AckDelayInput → AckDelayState × List AckDelayMsg
  | .event arrived =>
      ({ state with events := state.events ++ [arrived] }, [])
  | .call full => ackDelay time64us full state

/-- The event is one of the session. -/
def AckDelayMsg.isFor (id : TcpSessionID) : AckDelayMsg → Bool
  | .readCount => false
  | .writeCount => false
  | .event sent => sent.sessionId == id

/-- The event that sends the ACK of the session. -/
def sentAck (id : TcpSessionID) : AckDelayMsg :=
  .event ⟨Event.plain .ack id, ⟨0, 0, 0, 0⟩⟩

namespace AckDelayState

/-- The looks at the table before the one that sends the ACK. -/
def looksLeft (id : TcpSessionID) (state : AckDelayState) : Option Nat :=
  if state.ackTable id = 0 then
    none
  else
    some
      (turnsLeft tcpMaxSessions state.curSessionId.toNat id.toNat
        ((state.ackTable id).toNat - 1))

/-- One for a call that looks at an entry. -/
def looks (state : AckDelayState) : AckDelayInput → Nat
  | .event _ => 0
  | .call _ => if state.events = [] then 1 else 0

/-- A round for each look at the ACK of the session that finds the FIFO
full. -/
def held (id : TcpSessionID) (state : AckDelayState) : AckDelayInput → Nat
  | .event _ => 0
  | .call full =>
      if state.events = [] ∧ full = true ∧ state.curSessionId = id ∧
          state.ackTable id ≠ 0 then
        tcpMaxSessions
      else
        0

/-- The cursor is inside the table and no event of the session waits. -/
structure Undisturbed (id : TcpSessionID) (state : AckDelayState) :
    Prop where
  inTable : state.curSessionId.toNat < tcpMaxSessions
  noEvent : ∀ event ∈ state.events, event.sessionId ≠ id

variable {time64us : BitVec 12} {full : Bool} {state : AckDelayState}
variable {id : TcpSessionID}

theorem looksLeft_running (running : state.ackTable id ≠ 0) :
    state.looksLeft id =
      some
        (turnsLeft tcpMaxSessions state.curSessionId.toNat id.toNat
          ((state.ackTable id).toNat - 1)) := by
  rw [looksLeft, if_neg running]

theorem running_of_looksLeft {count : Nat}
    (left : state.looksLeft id = some count) :
    state.ackTable id ≠ 0 ∧
      count =
        turnsLeft tcpMaxSessions state.curSessionId.toNat id.toNat
          ((state.ackTable id).toNat - 1) := by
  rw [looksLeft] at left
  split at left
  · cases left
  · rename_i running
    exact ⟨running, (Option.some.inj left).symm⟩

theorem resting_of_looksLeft (left : state.looksLeft id = none) :
    state.ackTable id = 0 := by
  by_contra running
  rw [looksLeft_running running] at left
  cases left

theorem looksLeft_congr {next : AckDelayState}
    (cursor : next.curSessionId = state.curSessionId)
    (entry : next.ackTable id = state.ackTable id) :
    next.looksLeft id = state.looksLeft id := by
  rw [looksLeft, looksLeft, cursor, entry]

/-! ## A call -/

/-- An event of another session passes or is held back. -/
theorem ackDelay_event {first : EventWithTuple}
    {later : List EventWithTuple} (queued : state.events = first :: later)
    (isOther : first.sessionId ≠ id) :
    (ackDelay time64us full state).1.ackTable id = state.ackTable id ∧
      (ackDelay time64us full state).1.curSessionId = state.curSessionId ∧
      (ackDelay time64us full state).1.events = later ∧
      (ackDelay time64us full state).2.countP (AckDelayMsg.isFor id) =
        0 := by
  have isNotFor : (first.sessionId == id) = false :=
    beq_eq_false_iff_ne.2 isOther
  rw [ackDelay, queued]
  simp only []
  split
  · refine ⟨Function.update_of_ne (Ne.symm isOther) _ _, rfl, rfl, ?_⟩
    rfl
  · refine ⟨Function.update_of_ne (Ne.symm isOther) _ _, rfl, rfl, ?_⟩
    simp only [List.countP_cons, AckDelayMsg.isFor, isNotFor,
      List.countP_nil, Bool.false_eq_true, if_false]

theorem ackDelay_look (none : state.events = []) :
    ackDelay time64us full state = state.sweep full := by
  rw [ackDelay, none]

theorem sweep_cursor :
    (state.sweep full).1.curSessionId =
        (if (state.curSessionId + 1).toNat = tcpMaxSessions then
          0
        else
          state.curSessionId + 1) ∧
      (state.sweep full).1.events = state.events := by
  rw [sweep]
  split
  · exact ⟨rfl, rfl⟩
  · exact ⟨rfl, rfl⟩

theorem toNat_sweep_cursor
    (inTable : state.curSessionId.toNat < tcpMaxSessions) :
    (state.sweep full).1.curSessionId.toNat =
      advance tcpMaxSessions state.curSessionId.toNat := by
  rw [sweep_cursor.1]
  exact toNat_advance (by decide) inTable

theorem sweep_other (notHere : state.curSessionId ≠ id) :
    (state.sweep full).1.ackTable id = state.ackTable id ∧
      (state.sweep full).2.countP (AckDelayMsg.isFor id) = 0 := by
  have isNotFor : (state.curSessionId == id) = false :=
    beq_eq_false_iff_ne.2 notHere
  rw [sweep]
  split
  · refine ⟨Function.update_of_ne (Ne.symm notHere) _ _, ?_⟩
    by_cases isOne : state.ackTable state.curSessionId = 1
    · simp only [if_pos isOne, List.countP_cons, AckDelayMsg.isFor,
        Event.plain, isNotFor, List.countP_nil, Bool.false_eq_true, if_false]
    · simp only [if_neg isOne, List.countP_nil]
  · exact ⟨rfl, rfl⟩

/-- Nothing to send, or no room for it. -/
theorem sweep_idle
    (idle : state.ackTable state.curSessionId = 0 ∨ full = true) :
    (state.sweep full).1.ackTable = state.ackTable ∧
      (state.sweep full).2 = [] := by
  have notServed :
      ¬(state.ackTable state.curSessionId ≠ 0 ∧ full = false) := by
    rintro ⟨running, notFull⟩
    rcases idle with resting | isFull
    · exact running resting
    · rw [isFull] at notFull
      cases notFull
  rw [sweep]
  rw [if_neg notServed]
  exact ⟨rfl, rfl⟩

theorem sweep_sends (isOne : state.ackTable state.curSessionId = 1) :
    (state.sweep false).1.ackTable state.curSessionId = 0 ∧
      (state.sweep false).2 = [sentAck state.curSessionId, .writeCount] := by
  have running : state.ackTable state.curSessionId ≠ 0 := by
    rw [isOne]
    decide
  rw [sweep]
  rw [if_pos ⟨running, rfl⟩, if_pos isOne]
  refine ⟨(Function.update_self _ _ _).trans ?_, rfl⟩
  rw [isOne]
  rfl

theorem sweep_counts (running : state.ackTable state.curSessionId ≠ 0)
    (notOne : state.ackTable state.curSessionId ≠ 1) :
    (state.sweep false).1.ackTable state.curSessionId =
        state.ackTable state.curSessionId - 1 ∧
      (state.sweep false).2 = [] := by
  rw [sweep]
  rw [if_pos ⟨running, rfl⟩, if_neg notOne]
  exact ⟨Function.update_self _ _ _, rfl⟩

/-- A look at the table while the ACK of the session is held back. -/
theorem looksLeft_sweep (none : state.events = [])
    (inTable : state.curSessionId.toNat < tcpMaxSessions)
    (isSession : id.toNat < tcpMaxSessions) {count : Nat}
    (left : state.looksLeft id = some count) :
    (∃ rest,
        (state.sweep full).1.looksLeft id = some rest ∧
          rest + 1 = count + state.held id (.call full) ∧
          (state.sweep full).2.countP (AckDelayMsg.isFor id) = 0) ∨
      (state.sweep full).1.looksLeft id = Option.none ∧
        count + state.held id (.call full) = 0 ∧
        (state.sweep full).2.countP (AckDelayMsg.isFor id) = 1 := by
  obtain ⟨running, isCount⟩ := running_of_looksLeft left
  have cursor := @toNat_sweep_cursor full state inTable
  by_cases isHere : state.curSessionId = id
  · subst isHere
    cases full with
    | true =>
        have delay :
            state.held state.curSessionId (.call true) = tcpMaxSessions :=
          if_pos ⟨none, rfl, rfl, running⟩
        obtain ⟨same, nothing⟩ := @sweep_idle true state (Or.inr rfl)
        refine
          Or.inl ⟨_, looksLeft_running (by rw [same]; exact running), ?_, ?_⟩
        · rw [delay, isCount, cursor, same]
          exact turnsLeft_wait isSession _
        · rw [nothing]
          rfl
    | false =>
        have noDelay : state.held state.curSessionId (.call false) = 0 :=
          if_neg (fun held => Bool.noConfusion held.2.1)
        rw [noDelay, Nat.add_zero]
        by_cases isOne : state.ackTable state.curSessionId = 1
        · obtain ⟨stopped, sent⟩ := sweep_sends isOne
          refine Or.inr ⟨?_, ?_, ?_⟩
          · rw [looksLeft, if_pos stopped]
          · rw [isCount, isOne, turnsLeft_self]
            exact Nat.mul_zero _
          · rw [sent]
            simp only [List.countP_cons, sentAck, AckDelayMsg.isFor,
              Event.plain, beq_self_eq_true, List.countP_nil,
              Bool.false_eq_true, if_true, if_false]
        · obtain ⟨counted, nothing⟩ := sweep_counts running isOne
          have positive : (state.ackTable state.curSessionId).toNat ≠ 0 :=
            fun zero => running (BitVec.eq_of_toNat_eq zero)
          have more : (state.ackTable state.curSessionId).toNat ≠ 1 :=
            fun one => isOne (BitVec.eq_of_toNat_eq one)
          have less :
              (state.ackTable state.curSessionId - 1).toNat =
                (state.ackTable state.curSessionId).toNat - 1 := by
            have one : (1 : BitVec 12).toNat = 1 := rfl
            have bound := (state.ackTable state.curSessionId).isLt
            rw [BitVec.toNat_sub, one]
            omega
          have stillRunning :
              (state.sweep false).1.ackTable state.curSessionId ≠ 0 := by
            rw [counted]
            intro zero
            have isZero := congrArg BitVec.toNat zero
            rw [less] at isZero
            have none : (0 : BitVec 12).toNat = 0 := rfl
            omega
          have again :
              (state.ackTable state.curSessionId).toNat - 1 =
                (state.ackTable state.curSessionId).toNat - 1 - 1 + 1 := by
            omega
          refine Or.inl ⟨_, looksLeft_running stillRunning, ?_, ?_⟩
          · rw [isCount, cursor, counted, less, again]
            exact turnsLeft_visit isSession _
          · rw [nothing]
            rfl
  · have noDelay : state.held id (.call full) = 0 :=
      if_neg (fun held => isHere held.2.2.1)
    obtain ⟨same, nothing⟩ := @sweep_other full state id isHere
    refine
      Or.inl
        ⟨_, looksLeft_running (by rw [same]; exact running), ?_, nothing⟩
    rw [noDelay, Nat.add_zero, isCount, cursor, same]
    exact
      turnsLeft_pass inTable isSession
        (fun here => isHere (BitVec.eq_of_toNat_eq here)) _

theorem looksLeft_sweep_none (left : state.looksLeft id = none) :
    (state.sweep full).1.looksLeft id = none ∧
      (state.sweep full).2.countP (AckDelayMsg.isFor id) = 0 := by
  have resting := resting_of_looksLeft left
  by_cases isHere : state.curSessionId = id
  · subst isHere
    obtain ⟨same, nothing⟩ := @sweep_idle full state (Or.inl resting)
    rw [nothing, looksLeft, same, if_pos resting]
    exact ⟨rfl, rfl⟩
  · obtain ⟨same, nothing⟩ := @sweep_other full state id isHere
    rw [looksLeft, same, if_pos resting]
    exact ⟨rfl, nothing⟩

end AckDelayState

open AckDelayState

theorem ackDelay_undisturbed {time64us : BitVec 12} {state : AckDelayState}
    {id : TcpSessionID} {input : AckDelayInput}
    (undisturbed : state.Undisturbed id) (leaves : input.LeavesAlone id) :
    (ackDelayStep time64us state input).1.Undisturbed id := by
  obtain ⟨inTable, noEvent⟩ := undisturbed
  cases input with
  | event event =>
      refine ⟨inTable, ?_⟩
      intro other isIn
      rcases List.mem_append.1 isIn with before | isNew
      · exact noEvent other before
      · rw [List.mem_singleton.1 isNew]
        exact leaves
  | call full =>
      rw [ackDelayStep]
      cases queued : state.events with
      | nil =>
          rw [ackDelay_look queued]
          refine ⟨?_, ?_⟩
          · rw [toNat_sweep_cursor inTable]
            exact advance_lt inTable
          · rw [sweep_cursor.2, queued]
            intro event isIn
            cases isIn
      | cons first later =>
          rw [queued] at noEvent
          obtain ⟨isOther, areOthers⟩ := List.forall_mem_cons.1 noEvent
          obtain ⟨_, cursor, rest, _⟩ :=
            @ackDelay_event time64us full state id first later queued isOther
          exact ⟨by rw [cursor]; exact inTable, by rw [rest]; exact areOthers⟩

/-- The looks that are left go down by one in every look, a full FIFO adds a
round, and the ACK is sent when there are none. -/
theorem ackDelay_countsDown (time64us : BitVec 12) {id : TcpSessionID}
    (isSession : id.toNat < tcpMaxSessions) :
    CountsDown (ackDelayStep time64us) (AckDelayMsg.isFor id)
      (Undisturbed id) (AckDelayInput.LeavesAlone id)
      (·.looksLeft id) looks (held id) where
  keeps := ackDelay_undisturbed
  running := by
    intro state input count undisturbed _ left
    obtain ⟨inTable, noEvent⟩ := undisturbed
    cases input with
    | event event =>
        exact Or.inl ⟨count, left, rfl, rfl⟩
    | call full =>
        rw [ackDelayStep]
        cases queued : state.events with
        | nil =>
            have one : state.looks (.call full) = 1 := if_pos queued
            rw [ackDelay_look queued, one]
            rcases looksLeft_sweep queued inTable isSession left with
              ⟨rest, runs, balance, nothing⟩ | ⟨stops, none, once⟩
            · exact Or.inl ⟨rest, runs, balance, nothing⟩
            · exact Or.inr ⟨stops, by rw [none]; exact Nat.one_pos, once⟩
        | cons first later =>
            have isOther : first.sessionId ≠ id :=
              noEvent first (by rw [queued]; exact List.mem_cons_self)
            obtain ⟨entry, cursor, _, nothing⟩ :=
              @ackDelay_event time64us full state id first later queued
                isOther
            have notLooks : state.events ≠ [] := by
              rw [queued]
              exact List.cons_ne_nil first later
            have noLook : state.looks (.call full) = 0 := if_neg notLooks
            have noDelay : state.held id (.call full) = 0 :=
              if_neg (fun held => notLooks held.1)
            rw [noLook, noDelay, looksLeft_congr cursor entry]
            exact Or.inl ⟨count, left, rfl, nothing⟩
  stopped := by
    intro state input undisturbed _ left
    have resting := resting_of_looksLeft left
    cases input with
    | event event =>
        exact ⟨left, rfl, rfl⟩
    | call full =>
        have noDelay : state.held id (.call full) = 0 :=
          if_neg (fun held => held.2.2.2 resting)
        rw [ackDelayStep, noDelay]
        cases queued : state.events with
        | nil =>
            obtain ⟨stops, nothing⟩ :=
              @looksLeft_sweep_none full state id left
            rw [ackDelay_look queued]
            exact ⟨stops, rfl, nothing⟩
        | cons first later =>
            have isOther : first.sessionId ≠ id :=
              undisturbed.noEvent first
                (by rw [queued]; exact List.mem_cons_self)
            obtain ⟨entry, cursor, _, nothing⟩ :=
              @ackDelay_event time64us full state id first later queued
                isOther
            exact ⟨by rw [looksLeft_congr cursor entry, left], rfl, nothing⟩

/-- The ACK is the one event of the session that a step can send. -/
theorem ackDelay_writes {time64us : BitVec 12} {state : AckDelayState}
    {id : TcpSessionID} {input : AckDelayInput}
    (undisturbed : state.Undisturbed id) :
    ∀ msg ∈ (ackDelayStep time64us state input).2,
      msg.isFor id = true → msg = sentAck id := by
  intro msg isIn isFor
  cases input with
  | event event =>
      cases isIn
  | call full =>
      rw [ackDelayStep] at isIn
      cases queued : state.events with
      | nil =>
          rw [ackDelay_look queued] at isIn
          by_cases isHere : state.curSessionId = id
          · subst isHere
            by_cases idle :
                state.ackTable state.curSessionId = 0 ∨ full = true
            · rw [(sweep_idle idle).2] at isIn
              cases isIn
            · obtain ⟨running, notFull⟩ := not_or.1 idle
              rw [Bool.eq_false_of_not_eq_true notFull] at isIn
              by_cases isOne : state.ackTable state.curSessionId = 1
              · rw [(sweep_sends isOne).2] at isIn
                rcases List.mem_pair.1 isIn with isAck | isCount
                · exact isAck
                · rw [isCount] at isFor
                  cases isFor
              · rw [(sweep_counts running isOne).2] at isIn
                cases isIn
          · exact
              absurd isFor
                (List.countP_eq_zero.1 (sweep_other isHere).2 msg isIn)
      | cons first later =>
          have isOther : first.sessionId ≠ id :=
            undisturbed.noEvent first
              (by rw [queued]; exact List.mem_cons_self)
          obtain ⟨_, _, _, nothing⟩ :=
            @ackDelay_event time64us full state id first later queued isOther
          exact absurd isFor (List.countP_eq_zero.1 nothing msg isIn)

theorem ackDelay_pays (time64us : BitVec 12) (state : AckDelayState)
    (input : AckDelayInput) :
    (if input.isCall then 1 else 0) +
        (ackDelayStep time64us state input).1.events.length ≤
      state.looks input + (if input.isEvent then 1 else 0) +
        state.events.length := by
  cases input with
  | event event =>
      have longer :
          (ackDelayStep time64us state (.event event)).1.events.length =
            state.events.length + 1 :=
        List.length_append
      rw [longer, looks, AckDelayInput.isCall, AckDelayInput.isEvent,
        if_pos rfl, if_neg Bool.false_ne_true]
      omega
  | call full =>
      rw [ackDelayStep, looks, AckDelayInput.isCall, AckDelayInput.isEvent,
        if_pos rfl, if_neg Bool.false_ne_true]
      cases queued : state.events with
      | nil =>
          rw [ackDelay_look queued, sweep_cursor.2, queued, if_pos rfl]
      | cons first later =>
          have served : (ackDelay time64us full state).1.events = later := by
            rw [ackDelay, queued]
            simp only []
            split
            · rfl
            · rfl
          rw [served, List.length_cons, if_neg (List.cons_ne_nil _ _)]
          omega

/-- Of the session, an ACK that is held back, while no event of its session
comes through, is all that is sent, and it is sent once: in the look that is
the one after the rounds that its entry counts, put off by one round for each
time that the FIFO is full in its turn.  An event of another session puts a
look off by one call. -/
theorem ackDelay_sends_once
    {time64us : BitVec 12} {state : AckDelayState} {id : TcpSessionID}
    {inputs : List AckDelayInput}
    (undisturbed : state.Undisturbed id)
    (isSession : id.toNat < tcpMaxSessions)
    (isDelayed : state.ackTable id ≠ 0)
    (leftAlone : ∀ input ∈ inputs, input.LeavesAlone id) :
    let rounds :=
      turnsLeft tcpMaxSessions state.curSessionId.toNat id.toNat
          ((state.ackTable id).toNat - 1) +
        total (ackDelayStep time64us) (held id) state inputs
    (outputs (ackDelayStep time64us) state inputs).filter
          (AckDelayMsg.isFor id) =
        (if rounds < total (ackDelayStep time64us) looks state inputs then
          [sentAck id]
        else
          []) ∧
      (rounds + state.events.length +
            inputs.countP AckDelayInput.isEvent <
          inputs.countP AckDelayInput.isCall →
        (outputs (ackDelayStep time64us) state inputs).filter
          (AckDelayMsg.isFor id) = [sentAck id]) := by
  intro rounds
  have countsDown := ackDelay_countsDown time64us isSession
  have once :=
    countsDown.fires_once undisturbed leftAlone (looksLeft_running isDelayed)
  have onlyAck :
      (outputs (ackDelayStep time64us) state inputs).filter
          (AckDelayMsg.isFor id) =
        List.replicate
          ((outputs (ackDelayStep time64us) state inputs).countP
            (AckDelayMsg.isFor id))
          (sentAck id) := by
    refine
      List.eq_replicate_iff.2 ⟨List.countP_eq_length_filter.symm, ?_⟩
    intro msg isIn
    obtain ⟨isSent, isFor⟩ := List.mem_filter.1 isIn
    exact
      countsDown.writes (fun isGood _ => ackDelay_writes isGood) undisturbed
        leftAlone msg isSent isFor
  have sends :
      (outputs (ackDelayStep time64us) state inputs).filter
          (AckDelayMsg.isFor id) =
        if rounds < total (ackDelayStep time64us) looks state inputs then
          [sentAck id]
        else
          [] := by
    rw [onlyAck, once]
    split
    · rfl
    · rfl
  refine ⟨sends, ?_⟩
  intro enough
  have bound :=
    @total_le _ _ _ _ _ _ (fun state => state.events.length)
      (ackDelay_pays time64us) state inputs
  rw [total_add, total_weighted, total_weighted] at bound
  have late :
      rounds < total (ackDelayStep time64us) looks state inputs := by
    omega
  exact Eq.trans sends (if_pos late)

/-- The ACK of session 3, with an event of session 4 on the way. -/
theorem ackDelay_sends_once_otherEvent :
    (outputs (ackDelayStep 4)
        { AckDelayState.start.setEntry 3 1 with
          events := [⟨Event.plain .rt 4, ⟨0, 0, 0, 0⟩⟩] }
        (List.replicate 6 (.call false))).filter (AckDelayMsg.isFor 3) =
      [sentAck 3] := by
  have undisturbed :
      { AckDelayState.start.setEntry 3 1 with
        events := [⟨Event.plain .rt 4, ⟨0, 0, 0, 0⟩⟩] }.Undisturbed 3 := by
    refine ⟨by decide, ?_⟩
    intro event isIn
    rw [List.mem_singleton.1 isIn]
    decide
  refine
    (@ackDelay_sends_once 4 _ 3 _ undisturbed (by decide) (by decide) ?_).2
      (by decide)
  intro input isIn
  rw [List.eq_of_mem_replicate isIn]
  trivial

end TcpOffload
