import TcpOffload.Timers.ProbeTimer
import TcpOffload.Timers.TimerRegs

/-!
# When the probe timer asks for its event

Every request of the TX engine that is not cleared leads to one `TX` event.  A
full FIFO to the event engine puts it off by a round over the table.
-/

namespace TcpOffload

open Countdown

/-- What happens to the probe timer: a request of either engine arrives, or it
is called, with `full` for a full FIFO to the event engine. -/
inductive ProbeTimerInput where
  | setReq (id : TcpSessionID)
  | clearReq (id : TcpSessionID)
  | call (full : Bool)
deriving DecidableEq, Repr

namespace ProbeTimerInput

def isCall : ProbeTimerInput → Bool
  | .setReq _ => false
  | .clearReq _ => false
  | .call _ => true

def isSetReq : ProbeTimerInput → Bool
  | .setReq _ => true
  | .clearReq _ => false
  | .call _ => false

def isClearReq : ProbeTimerInput → Bool
  | .setReq _ => false
  | .clearReq _ => true
  | .call _ => false

end ProbeTimerInput

def probeTimerStep (time50ms : BitVec 32) (state : ProbeTimerState) :
    ProbeTimerInput → ProbeTimerState × List Event
  | .setReq id => ({ state with setReqs := state.setReqs ++ [id] }, [])
  | .clearReq id => ({ state with clearReqs := state.clearReqs ++ [id] }, [])
  | .call full => probeTimer time50ms full state

namespace ProbeTimerState

def regs (state : ProbeTimerState) : TimerRegs where
  entry := fun id => ((state.table id).time, (state.table id).active)
  curSessionId := state.curCheckSessionId
  setSessionId := state.setSessionId
  prevSessionId := state.prevSessionId
  waitForWrite := state.waitForWrite
  setReqs := state.setReqs

/-- The call looks at the entry in turn. -/
def LooksInTurn (state : ProbeTimerState) : Prop :=
  state.regs.Looks ∧ state.clearReqs = []

instance (state : ProbeTimerState) : Decidable state.LooksInTurn :=
  inferInstanceAs (Decidable (_ ∧ _))

/-- One for a call that looks at the entry in turn. -/
def looks (state : ProbeTimerState) : ProbeTimerInput → Nat
  | .setReq _ => 0
  | .clearReq _ => 0
  | .call _ => if state.LooksInTurn then 1 else 0

/-- A round for each look at the running entry of the session that finds the
FIFO full. -/
def held (id : TcpSessionID) (state : ProbeTimerState) :
    ProbeTimerInput → Nat
  | .setReq _ => 0
  | .clearReq _ => 0
  | .call full =>
      if state.LooksInTurn ∧ full = true ∧ state.curCheckSessionId = id ∧
          (state.table id).active = true then
        tcpMaxSessions
      else
        0

/-- The cursor is inside the table and no clear request waits for the
session. -/
structure Undisturbed (id : TcpSessionID) (state : ProbeTimerState) :
    Prop where
  inTable : state.regs.InTable
  notCleared : id ∉ state.clearReqs

variable {time50ms : BitVec 32} {full : Bool} {state : ProbeTimerState}
variable {id : TcpSessionID}

theorem regs_writeSet :
    (state.writeSet time50ms).regs = state.regs.write time50ms :=
  congrArg (TimerRegs.mk · _ _ _ _ _)
    (TimerRegs.entry_write
      (fun entry : ProbeTimerEntry => (entry.time, entry.active))
      state.table _ _ _)

/-- Another entry is ticked. -/
theorem tickAt_other {toBeClear : Bool} {other : TcpSessionID}
    (notHere : other ≠ id) :
    (state.tickAt full toBeClear other).1.table id = state.table id ∧
      (state.tickAt full toBeClear other).2.count (Event.plain .tx id) =
        0 := by
  have notOwn : Event.plain .tx other ≠ Event.plain .tx id :=
    fun same => notHere (congrArg Event.sessionId same)
  refine ⟨Function.update_of_ne (Ne.symm notHere) _ _, ?_⟩
  simp only [tickAt, ProbeTimerEntry.tick]
  split
  · split
    · exact
        List.count_eq_zero_of_not_mem
          (fun isOwn => notOwn (List.mem_singleton.1 isOwn).symm)
    · rfl
  · rfl

theorem tickAt_resting {toBeClear : Bool}
    (resting : (state.table id).active = false) :
    (state.tickAt full toBeClear id).1.table id = state.table id ∧
      (state.tickAt full toBeClear id).2 = [] := by
  simp only [tickAt, ProbeTimerEntry.tick, resting, Bool.false_eq_true,
    false_and, if_false, Function.update_self, and_self]

theorem tickAt_full {toBeClear : Bool} :
    (state.tickAt true toBeClear id).1.table id = state.table id ∧
      (state.tickAt true toBeClear id).2 = [] := by
  simp only [tickAt, ProbeTimerEntry.tick, Bool.true_eq_false, and_false,
    if_false, Function.update_self, and_self]

theorem tickAt_fires (active : (state.table id).active = true)
    (ranOut : (state.table id).time = 0) :
    ((state.tickAt false false id).1.table id).active = false ∧
      (state.tickAt false false id).2 = [Event.plain .tx id] := by
  simp only [tickAt, ProbeTimerEntry.tick, active, ranOut, and_self,
    true_or, if_true, Function.update_self]

theorem tickAt_counts (active : (state.table id).active = true)
    (notRanOut : (state.table id).time ≠ 0) :
    (state.tickAt false false id).1.table id =
        ⟨(state.table id).time - 1, true⟩ ∧
      (state.tickAt false false id).2 = [] := by
  simp only [tickAt, ProbeTimerEntry.tick, active, notRanOut, and_self,
    false_or, Bool.false_eq_true, if_true, if_false, Function.update_self]

/-- The state in which the entry in turn is ticked. -/
def moved (state : ProbeTimerState) : ProbeTimerState :=
  { state with
    prevSessionId := state.curCheckSessionId
    curCheckSessionId :=
      if (state.curCheckSessionId + 1).toNat = tcpMaxSessions then
        0
      else
        state.curCheckSessionId + 1 }

theorem check_of_none (none : state.clearReqs = []) :
    state.check full =
      state.moved.tickAt full false state.curCheckSessionId := by
  rw [check, none]
  simp only [moved, none]

theorem check_here (none : state.clearReqs = [])
    (isHere : state.curCheckSessionId = id) :
    state.check full = state.moved.tickAt full false id := by
  rw [check_of_none none, isHere]

theorem check_look (none : state.clearReqs = []) :
    state.regs.Look (state.check full).1.regs := by
  rw [check_of_none none]
  exact ⟨rfl, rfl, rfl, rfl⟩

theorem check_clearReqs (none : state.clearReqs = []) :
    (state.check full).1.clearReqs = [] := by
  rw [check_of_none none]
  exact none

/-- A look at the table while an entry runs. -/
theorem looksLeft_check {time : BitVec 32} (looks : state.LooksInTurn)
    (inTable : state.regs.InTable) (isSession : id.toNat < tcpMaxSessions)
    {count : Nat} (left : state.regs.looksLeft time id = some count) :
    (∃ rest,
        (state.check full).1.regs.looksLeft time id = some rest ∧
          rest + 1 = count + state.held id (.call full) ∧
          (state.check full).2.count (Event.plain .tx id) = 0) ∨
      (state.check full).1.regs.looksLeft time id = none ∧
        count + state.held id (.call full) = 0 ∧
        (state.check full).2.count (Event.plain .tx id) = 1 := by
  have look := @check_look full state looks.2
  obtain ⟨active, _⟩ :=
    TimerRegs.active_of_looksLeft looks.1.not_asked left
  have isActive : (state.moved.table id).active = true := active
  by_cases isHere : state.curCheckSessionId = id
  · cases full with
    | true =>
        have delay : state.held id (.call true) = tcpMaxSessions :=
          if_pos ⟨looks, rfl, isHere, active⟩
        obtain ⟨entry, nothing⟩ := @tickAt_full state.moved id false
        rw [← check_here looks.2 isHere] at entry nothing
        have same :
            (state.check true).1.regs.entry id = state.regs.entry id := by
          simp only [regs, entry, moved]
        obtain ⟨rest, runs, balance⟩ :=
          look.wait looks.1 inTable isSession isHere same left
        rw [delay, nothing]
        exact Or.inl ⟨rest, runs, balance, rfl⟩
    | false =>
        have noDelay : state.held id (.call false) = 0 :=
          if_neg (fun held => Bool.noConfusion held.2.1)
        rw [noDelay, Nat.add_zero]
        by_cases ranOut : (state.regs.entry id).1 = 0
        · obtain ⟨stopped, fired⟩ := tickAt_fires isActive ranOut
          rw [← check_here looks.2 isHere] at stopped fired
          refine
            Or.inr
              ⟨TimerRegs.looksLeft_none (look.not_asked looks.1) stopped,
                TimerRegs.count_of_ranOut looks.1 isHere ranOut left, ?_⟩
          rw [fired]
          exact List.count_singleton_self
        · obtain ⟨counted, nothing⟩ := tickAt_counts isActive ranOut
          rw [← check_here looks.2 isHere] at counted nothing
          have less :
              (state.check false).1.regs.entry id =
                ((state.regs.entry id).1 - 1, true) := by
            simp only [regs, counted, moved]
          obtain ⟨rest, runs, balance⟩ :=
            look.count looks.1 inTable isSession isHere ranOut less left
          rw [nothing]
          exact Or.inl ⟨rest, runs, balance, rfl⟩
  · have noDelay : state.held id (.call full) = 0 :=
      if_neg (fun held => isHere held.2.2.1)
    obtain ⟨entry, nothing⟩ :=
      @tickAt_other full state.moved id false _ isHere
    rw [← check_of_none looks.2] at entry nothing
    have same :
        (state.check full).1.regs.entry id = state.regs.entry id := by
      simp only [regs, entry, moved]
    obtain ⟨rest, runs, balance⟩ :=
      look.pass looks.1 inTable isSession isHere same left
    rw [noDelay]
    exact Or.inl ⟨rest, runs, balance, nothing⟩

theorem looksLeft_check_none {time : BitVec 32} (looks : state.LooksInTurn)
    (left : state.regs.looksLeft time id = none) :
    (state.check full).1.regs.looksLeft time id = none ∧
      (state.check full).2.count (Event.plain .tx id) = 0 := by
  have look := @check_look full state looks.2
  obtain ⟨_, resting⟩ := TimerRegs.resting_of_looksLeft left
  by_cases isHere : state.curCheckSessionId = id
  · have isResting : (state.moved.table id).active = false := resting
    obtain ⟨entry, nothing⟩ := @tickAt_resting full _ id false isResting
    rw [← check_here looks.2 isHere] at entry nothing
    rw [nothing]
    refine ⟨TimerRegs.looksLeft_none (look.not_asked looks.1) ?_, rfl⟩
    simp only [regs, entry]
    exact resting
  · obtain ⟨entry, nothing⟩ :=
      @tickAt_other full state.moved id false _ isHere
    rw [← check_of_none looks.2] at entry nothing
    refine ⟨TimerRegs.looksLeft_none (look.not_asked looks.1) ?_, nothing⟩
    simp only [regs, entry]
    exact resting

/-- The clear request of another session. -/
theorem check_clears {other : TcpSessionID} {later : List TcpSessionID}
    {time : BitVec 32} (queued : state.clearReqs = other :: later)
    (isOther : other ≠ id) :
    (state.check full).1.regs.looksLeft time id =
        state.regs.looksLeft time id ∧
      (state.check full).1.clearReqs = later ∧
      (state.check full).1.curCheckSessionId = state.curCheckSessionId ∧
      (state.check full).2.count (Event.plain .tx id) = 0 := by
  rw [check, queued]
  simp only []
  obtain ⟨entry, nothing⟩ :=
    @tickAt_other full
      { state with
        prevSessionId := state.curCheckSessionId, clearReqs := later }
      id true _ isOther
  refine ⟨TimerRegs.looksLeft_congr Iff.rfl rfl ?_, rfl, rfl, nothing⟩
  simp only [regs, entry]

end ProbeTimerState

open ProbeTimerState

/-- The cases of a call. -/
theorem probeTimer_cases (time50ms : BitVec 32) (full : Bool)
    (state : ProbeTimerState) :
    (state.regs.waitForWrite = true ∧
        (probeTimer time50ms full state).1.regs =
          state.regs.write time50ms ∧
        (probeTimer time50ms full state).1.clearReqs = state.clearReqs ∧
        (probeTimer time50ms full state).2 = []) ∨
      (∃ first later,
        state.regs.waitForWrite = false ∧
          state.regs.setReqs = first :: later ∧
          (probeTimer time50ms full state).1.regs =
            state.regs.register first later ∧
          (probeTimer time50ms full state).1.clearReqs = state.clearReqs ∧
          (probeTimer time50ms full state).2 = []) ∨
      state.regs.Looks ∧
        probeTimer time50ms full state = state.check full := by
  rw [probeTimer]
  by_cases waits : state.waitForWrite = true
  · rw [if_pos waits]
    exact Or.inl ⟨waits, regs_writeSet, rfl, rfl⟩
  · rw [if_neg waits]
    have notWaits := Bool.eq_false_iff.2 waits
    cases queued : state.setReqs with
    | cons first later =>
        exact Or.inr (Or.inl ⟨first, later, notWaits, queued, rfl, rfl, rfl⟩)
    | nil =>
        exact Or.inr (Or.inr ⟨⟨notWaits, queued⟩, rfl⟩)

theorem held_of_not_looks {state : ProbeTimerState} {id : TcpSessionID}
    {full : Bool} (notLooks : ¬state.LooksInTurn) :
    state.held id (.call full) = 0 ∧ state.looks (.call full) = 0 :=
  ⟨if_neg (fun held => notLooks held.1), if_neg notLooks⟩

/-- The inputs that neither start the probe of the session again nor clear
it. -/
def ProbeTimerInput.LeavesAlone
    (id : TcpSessionID) (input : ProbeTimerInput) : Prop :=
  input ≠ .setReq id ∧ input ≠ .clearReq id

theorem undisturbed_step (time50ms : BitVec 32) {state : ProbeTimerState}
    {id : TcpSessionID} {input : ProbeTimerInput}
    (undisturbed : state.Undisturbed id) (leaves : input.LeavesAlone id) :
    (probeTimerStep time50ms state input).1.Undisturbed id := by
  obtain ⟨inTable, notCleared⟩ := undisturbed
  cases input with
  | setReq other =>
      exact ⟨inTable, notCleared⟩
  | clearReq other =>
      refine ⟨inTable, ?_⟩
      intro isCleared
      rcases List.mem_append.1 isCleared with before | isNew
      · exact notCleared before
      · exact leaves.2 (by rw [List.mem_singleton.1 isNew])
  | call full =>
      rw [probeTimerStep]
      rcases probeTimer_cases time50ms full state with
        ⟨_, next, same, _⟩ | ⟨_, _, _, _, next, same, _⟩ | ⟨_, next⟩
      · exact ⟨by rw [next]; exact inTable, by rw [same]; exact notCleared⟩
      · exact ⟨by rw [next]; exact inTable, by rw [same]; exact notCleared⟩
      · rw [next]
        cases queued : state.clearReqs with
        | nil =>
            refine ⟨(check_look queued).inTable inTable, ?_⟩
            rw [check_clearReqs queued]
            exact List.not_mem_nil
        | cons other later =>
            rw [queued] at notCleared
            obtain ⟨notOther, notLater⟩ :=
              List.ne_and_not_mem_of_not_mem_cons notCleared
            obtain ⟨_, same, cursor, _⟩ :=
              @check_clears full state id other later 0 queued
                (Ne.symm notOther)
            refine ⟨?_, by rw [same]; exact notLater⟩
            rw [TimerRegs.InTable, regs, cursor]
            exact inTable

/-- The looks that are left go down by one in every look in turn, a full FIFO
adds a round, and the event is written when there are none. -/
theorem probeTimer_countsDown (time50ms : BitVec 32) {id : TcpSessionID}
    (isSession : id.toNat < tcpMaxSessions) :
    CountsDown (probeTimerStep time50ms) (· == Event.plain .tx id)
      (Undisturbed id) (ProbeTimerInput.LeavesAlone id)
      (·.regs.looksLeft time50ms id) looks (held id) where
  keeps := undisturbed_step time50ms
  running := by
    intro state input count undisturbed leaves left
    obtain ⟨inTable, notCleared⟩ := undisturbed
    cases input with
    | setReq other =>
        have notOwn : other ≠ id := by
          rintro rfl
          exact leaves.1 rfl
        exact
          Or.inl ⟨count, (TimerRegs.looksLeft_ask notOwn).trans left, rfl, rfl⟩
    | clearReq other =>
        exact Or.inl ⟨count, left, rfl, rfl⟩
    | call full =>
        rw [probeTimerStep]
        rcases probeTimer_cases time50ms full state with
          ⟨waits, next, _, nothing⟩ |
            ⟨_, _, notWaits, queued, next, _, nothing⟩ | ⟨looking, next⟩
        · obtain ⟨noDelay, noLook⟩ :=
            @held_of_not_looks state id full
              (fun looks => TimerRegs.not_looks_of_waits waits looks.1)
          rw [next, nothing, noDelay, noLook,
            TimerRegs.looksLeft_write waits]
          exact Or.inl ⟨count, left, rfl, rfl⟩
        · obtain ⟨noDelay, noLook⟩ :=
            @held_of_not_looks state id full
              (fun looks => TimerRegs.not_looks_of_queued queued looks.1)
          rw [next, nothing, noDelay, noLook,
            TimerRegs.looksLeft_register notWaits queued]
          exact Or.inl ⟨count, left, rfl, rfl⟩
        · rw [next]
          cases clears : state.clearReqs with
          | nil =>
              have inTurn : state.LooksInTurn := ⟨looking, clears⟩
              have one : state.looks (.call full) = 1 := if_pos inTurn
              rw [one]
              rcases
                @looksLeft_check full state id time50ms inTurn inTable
                  isSession _ left with
                ⟨rest, runs, balance, nothing⟩ | ⟨stops, none, once⟩
              · exact Or.inl ⟨rest, runs, balance, nothing⟩
              · exact
                  Or.inr ⟨stops, by rw [none]; exact Nat.one_pos, once⟩
          | cons other later =>
              have notOther : other ≠ id := by
                rintro rfl
                rw [clears] at notCleared
                exact notCleared List.mem_cons_self
              obtain ⟨noDelay, noLook⟩ :=
                @held_of_not_looks state id full
                  (fun looks => by
                    rw [looks.2] at clears
                    cases clears)
              obtain ⟨same, _, _, nothing⟩ :=
                @check_clears full state id other later time50ms clears
                  notOther
              rw [noDelay, noLook, same]
              exact Or.inl ⟨count, left, rfl, nothing⟩
  stopped := by
    intro state input undisturbed leaves left
    obtain ⟨_, notCleared⟩ := undisturbed
    obtain ⟨_, resting⟩ := TimerRegs.resting_of_looksLeft left
    cases input with
    | setReq other =>
        have notOwn : other ≠ id := by
          rintro rfl
          exact leaves.1 rfl
        exact ⟨(TimerRegs.looksLeft_ask notOwn).trans left, rfl, rfl⟩
    | clearReq other =>
        exact ⟨left, rfl, rfl⟩
    | call full =>
        have noDelay : state.held id (.call full) = 0 :=
          if_neg (fun held =>
            Bool.noConfusion (Eq.trans resting.symm held.2.2.2))
        rw [probeTimerStep, noDelay]
        rcases probeTimer_cases time50ms full state with
          ⟨waits, next, _, nothing⟩ |
            ⟨_, _, notWaits, queued, next, _, nothing⟩ | ⟨looking, next⟩
        · rw [next, nothing, TimerRegs.looksLeft_write waits]
          exact ⟨left, rfl, rfl⟩
        · rw [next, nothing, TimerRegs.looksLeft_register notWaits queued]
          exact ⟨left, rfl, rfl⟩
        · rw [next]
          cases clears : state.clearReqs with
          | nil =>
              obtain ⟨stops, nothing⟩ :=
                @looksLeft_check_none full state id time50ms
                  ⟨looking, clears⟩ left
              exact ⟨stops, rfl, nothing⟩
          | cons other later =>
              have notOther : other ≠ id := by
                rintro rfl
                rw [clears] at notCleared
                exact notCleared List.mem_cons_self
              obtain ⟨same, _, _, nothing⟩ :=
                @check_clears full state id other later time50ms clears
                  notOther
              exact ⟨by rw [same, left], rfl, nothing⟩

/-- The calls that the requests at hand still cost. -/
def ProbeTimerState.requestCost (state : ProbeTimerState) : Nat :=
  state.regs.writeCost + state.clearReqs.length

theorem probeTimer_pays (time50ms : BitVec 32) (state : ProbeTimerState)
    (input : ProbeTimerInput) :
    (if input.isCall then 1 else 0) +
        (probeTimerStep time50ms state input).1.requestCost ≤
      state.looks input + (if input.isSetReq then 3 else 0) +
          (if input.isClearReq then 1 else 0) +
        state.requestCost := by
  cases input with
  | setReq other =>
      have cost := TimerRegs.writeCost_ask state.regs other
      have asked :
          (probeTimerStep time50ms state (.setReq other)).1.requestCost =
            (state.regs.ask other).writeCost + state.clearReqs.length :=
        rfl
      rw [asked, cost, requestCost, looks, ProbeTimerInput.isCall,
        ProbeTimerInput.isSetReq, ProbeTimerInput.isClearReq, if_pos rfl,
        if_neg Bool.false_ne_true]
      omega
  | clearReq other =>
      have asked :
          (probeTimerStep time50ms state (.clearReq other)).1.requestCost =
            state.regs.writeCost + (state.clearReqs ++ [other]).length :=
        rfl
      rw [asked, List.length_append, List.length_singleton, requestCost,
        looks, ProbeTimerInput.isCall, ProbeTimerInput.isSetReq,
        ProbeTimerInput.isClearReq, if_pos rfl, if_neg Bool.false_ne_true]
      omega
  | call full =>
      rw [probeTimerStep, requestCost, requestCost, looks,
        ProbeTimerInput.isCall, ProbeTimerInput.isSetReq,
        ProbeTimerInput.isClearReq, if_pos rfl, if_neg Bool.false_ne_true]
      rcases probeTimer_cases time50ms full state with
        ⟨waits, next, same, _⟩ | ⟨_, _, _, queued, next, same, _⟩ |
          ⟨looking, next⟩
      · have cost := @TimerRegs.writeCost_write time50ms state.regs waits
        rw [next, same]
        omega
      · have cost := TimerRegs.writeCost_register queued
        rw [next, same]
        omega
      · rw [next]
        cases clears : state.clearReqs with
        | nil =>
            rw [(check_look clears).writeCost looking,
              check_clearReqs clears, if_pos ⟨looking, clears⟩]
            omega
        | cons other later =>
            have looksOn : (state.check full).1.regs.Looks := by
              rw [check, clears]
              exact looking
            have fewer : (state.check full).1.clearReqs = later := by
              rw [check, clears]
              rfl
            rw [looksOn.writeCost, fewer, List.length_cons]
            omega

/-- A call looks at the entry in turn or serves a request. -/
theorem probeTimer_calls_le (time50ms : BitVec 32) (state : ProbeTimerState)
    (inputs : List ProbeTimerInput) :
    inputs.countP ProbeTimerInput.isCall ≤
      total (probeTimerStep time50ms) looks state inputs +
        3 * (state.setReqs.length +
          inputs.countP ProbeTimerInput.isSetReq) +
        (state.clearReqs.length +
          inputs.countP ProbeTimerInput.isClearReq) + 2 := by
  have bound :=
    @total_le _ _ _ _ _ _ ProbeTimerState.requestCost
      (probeTimer_pays time50ms) state inputs
  have cost : state.regs.writeCost ≤ 3 * state.setReqs.length + 2 :=
    state.regs.writeCost_le
  rw [total_add, total_add, total_weighted, total_weighted, total_weighted,
    requestCost] at bound
  omega

/-- A probe that the TX engine asks for, and that is neither asked for again
nor cleared, leads to exactly one `TX` event: in the look that is the one after
the next `time50ms` full rounds to its entry, put off by one round for each
time that the FIFO is full in its turn.  A set request puts a look off by three
calls, a clear request by one, no more. -/
theorem probeTimer_fires_once
    {time50ms : BitVec 32} {state : ProbeTimerState} {id : TcpSessionID}
    {inputs : List ProbeTimerInput}
    (undisturbed : state.Undisturbed id)
    (isSession : id.toNat < tcpMaxSessions) (asked : state.regs.Asked id)
    (leftAlone : ∀ input ∈ inputs, input.LeavesAlone id) :
    let rounds :=
      turnsLeft tcpMaxSessions state.curCheckSessionId.toNat id.toNat
          time50ms.toNat +
        total (probeTimerStep time50ms) (held id) state inputs
    (outputs (probeTimerStep time50ms) state inputs).count
          (Event.plain .tx id) =
        (if rounds < total (probeTimerStep time50ms) looks state inputs then
          1
        else
          0) ∧
      (rounds +
            3 * (state.setReqs.length +
              inputs.countP ProbeTimerInput.isSetReq) +
            (state.clearReqs.length +
              inputs.countP ProbeTimerInput.isClearReq) + 2 <
          inputs.countP ProbeTimerInput.isCall →
        (outputs (probeTimerStep time50ms) state inputs).count
          (Event.plain .tx id) = 1) := by
  intro rounds
  have once :=
    (probeTimer_countsDown time50ms isSession).fires_once undisturbed
      leftAlone (TimerRegs.looksLeft_asked asked)
  refine ⟨once, ?_⟩
  intro enough
  have calls := probeTimer_calls_le time50ms state inputs
  have late :
      rounds < total (probeTimerStep time50ms) looks state inputs := by
    omega
  exact Eq.trans once (if_pos late)

/-- Two rounds with the FIFO free, while another session is cleared. -/
theorem probeTimer_fires_once_clearOther :
    (outputs (probeTimerStep 1)
        { ProbeTimerState.start with setReqs := [2], clearReqs := [3] }
        (List.replicate 300 (.call false))).count (Event.plain .tx 2) =
      1 := by
  have isCall (input : ProbeTimerInput)
      (isIn : input ∈ List.replicate 300 (ProbeTimerInput.call false)) :
      input = .call false :=
    List.eq_of_mem_replicate isIn
  have noDelay (state : ProbeTimerState) (count : Nat) :
      total (probeTimerStep 1) (held 2) state
        (List.replicate count (.call false)) = 0 := by
    induction count generalizing state with
    | zero =>
        rfl
    | succ count inductionHypothesis =>
        rw [List.replicate_succ, total, inductionHypothesis]
        exact if_neg (fun delays => Bool.noConfusion delays.2.1)
  refine
    (@probeTimer_fires_once 1 _ _ _ ⟨by decide, by decide⟩ (by decide)
      (Or.inl List.mem_cons_self) ?_).2 ?_
  · intro input isIn
    rw [isCall input isIn]
    constructor
    · intro same
      cases same
    · intro same
      cases same
  · rw [noDelay, List.countP_replicate, List.countP_replicate,
      List.countP_replicate]
    decide

end TcpOffload
