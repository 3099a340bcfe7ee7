import TcpOffload.Timers.CloseTimer
import TcpOffload.Timers.TimerRegs

/-!
# When the close timer releases

Every request of the RX engine leads to one release, in the call that the
sweep over the table determines.
-/

namespace TcpOffload

open Countdown

/-- What happens to the close timer: a request arrives, or it is called. -/
inductive CloseTimerInput where
  | setReq (id : TcpSessionID)
  | call
deriving DecidableEq, Repr

namespace CloseTimerInput

def isCall : CloseTimerInput → Bool
  | .setReq _ => false
  | .call => true

def isSetReq : CloseTimerInput → Bool
  | .setReq _ => true
  | .call => false

end CloseTimerInput

def closeTimerStep (times : TimerTimes) (state : CloseTimerState) :
    CloseTimerInput → CloseTimerState × List TcpSessionID
  | .setReq id => ({ state with setReqs := state.setReqs ++ [id] }, [])
  | .call => closeTimer times state

namespace CloseTimerState

def regs (state : CloseTimerState) : TimerRegs where
  entry := fun id => ((state.table id).time, (state.table id).active)
  curSessionId := state.curSessionId
  setSessionId := state.setSessionId
  prevSessionId := state.prevSessionId
  waitForWrite := state.waitForWrite
  setReqs := state.setReqs

/-- One for a call that looks at an entry. -/
def looks (state : CloseTimerState) : CloseTimerInput → Nat
  | .setReq _ => 0
  | .call => if state.regs.Looks then 1 else 0

variable {times : TimerTimes} {state : CloseTimerState}
variable {id : TcpSessionID}

theorem regs_writeSet :
    (state.writeSet times).regs = state.regs.write times.time60s :=
  congrArg (TimerRegs.mk · _ _ _ _ _)
    (TimerRegs.entry_write
      (fun entry : CloseTimerEntry => (entry.time, entry.active))
      state.table _ _ _)

theorem sweep_look : state.regs.Look state.sweep.1.regs := by
  rw [sweep]
  simp only []
  split
  · split
    · exact ⟨rfl, rfl, rfl, rfl⟩
    · exact ⟨rfl, rfl, rfl, rfl⟩
  · exact ⟨rfl, rfl, rfl, rfl⟩

theorem sweep_other (notHere : state.curSessionId ≠ id) :
    state.sweep.1.regs.entry id = state.regs.entry id ∧
      state.sweep.2.count id = 0 := by
  have unchanged (entry : CloseTimerEntry) :
      Function.update state.table state.curSessionId entry id =
        state.table id :=
    Function.update_of_ne (Ne.symm notHere) _ _
  rw [sweep]
  simp only [regs]
  split
  · split
    · refine ⟨?_, List.count_eq_zero_of_not_mem ?_⟩
      · simp only [unchanged]
      · exact fun isCur => notHere (List.mem_singleton.1 isCur).symm
    · refine ⟨?_, rfl⟩
      simp only [unchanged]
  · exact ⟨rfl, rfl⟩

theorem sweep_resting
    (resting : (state.regs.entry state.curSessionId).2 = false) :
    state.sweep.1.regs.entry = state.regs.entry ∧ state.sweep.2 = [] := by
  have notActive : (state.table state.curSessionId).active ≠ true :=
    Bool.eq_false_iff.1 resting
  rw [sweep]
  simp only []
  rw [if_neg notActive]
  exact ⟨rfl, rfl⟩

theorem sweep_releases
    (active : (state.regs.entry state.curSessionId).2 = true)
    (ranOut : (state.regs.entry state.curSessionId).1 = 0) :
    (state.sweep.1.regs.entry state.curSessionId).2 = false ∧
      state.sweep.2 = [state.curSessionId] := by
  have isActive : (state.table state.curSessionId).active = true := active
  have isZero : (state.table state.curSessionId).time = 0 := ranOut
  rw [sweep]
  simp only []
  rw [if_pos isActive, if_pos isZero]
  refine ⟨?_, rfl⟩
  simp only [regs, Function.update_self]

theorem sweep_counts
    (active : (state.regs.entry state.curSessionId).2 = true)
    (notRanOut : (state.regs.entry state.curSessionId).1 ≠ 0) :
    state.sweep.1.regs.entry state.curSessionId =
        ((state.regs.entry state.curSessionId).1 - 1, true) ∧
      state.sweep.2 = [] := by
  have isActive : (state.table state.curSessionId).active = true := active
  have notZero : (state.table state.curSessionId).time ≠ 0 := notRanOut
  rw [sweep]
  simp only []
  rw [if_pos isActive, if_neg notZero]
  refine ⟨?_, rfl⟩
  simp only [regs, Function.update_self, isActive]

/-- A look at the table while an entry runs. -/
theorem looksLeft_sweep {time : BitVec 32} (looks : state.regs.Looks)
    (inTable : state.regs.InTable) (isSession : id.toNat < tcpMaxSessions)
    {count : Nat} (left : state.regs.looksLeft time id = some count) :
    (∃ rest,
        state.sweep.1.regs.looksLeft time id = some rest ∧
          rest + 1 = count ∧ state.sweep.2.count id = 0) ∨
      state.sweep.1.regs.looksLeft time id = none ∧ count = 0 ∧
        state.sweep.2.count id = 1 := by
  have look := @sweep_look state
  obtain ⟨active, _⟩ :=
    TimerRegs.active_of_looksLeft looks.not_asked left
  by_cases isHere : state.curSessionId = id
  · subst isHere
    by_cases ranOut : (state.regs.entry state.curSessionId).1 = 0
    · obtain ⟨stopped, released⟩ := sweep_releases active ranOut
      refine
        Or.inr
          ⟨TimerRegs.looksLeft_none (look.not_asked looks) stopped,
            TimerRegs.count_of_ranOut looks rfl ranOut left, ?_⟩
      rw [released]
      exact List.count_singleton_self
    · obtain ⟨entry, released⟩ := sweep_counts active ranOut
      obtain ⟨rest, runs, balance⟩ :=
        look.count looks inTable isSession rfl ranOut entry left
      refine Or.inl ⟨rest, runs, balance, ?_⟩
      rw [released]
      rfl
  · obtain ⟨entry, notReleased⟩ := sweep_other isHere
    obtain ⟨rest, runs, balance⟩ :=
      look.pass looks inTable isSession isHere entry left
    exact Or.inl ⟨rest, runs, balance, notReleased⟩

theorem looksLeft_sweep_none {time : BitVec 32} (looks : state.regs.Looks)
    (left : state.regs.looksLeft time id = none) :
    state.sweep.1.regs.looksLeft time id = none ∧
      state.sweep.2.count id = 0 := by
  have look := @sweep_look state
  obtain ⟨_, resting⟩ := TimerRegs.resting_of_looksLeft left
  by_cases isHere : state.curSessionId = id
  · subst isHere
    obtain ⟨entry, released⟩ := sweep_resting resting
    rw [released]
    refine ⟨TimerRegs.looksLeft_none (look.not_asked looks) ?_, rfl⟩
    rw [entry]
    exact resting
  · obtain ⟨entry, notReleased⟩ := sweep_other isHere
    refine ⟨TimerRegs.looksLeft_none (look.not_asked looks) ?_, notReleased⟩
    rw [entry]
    exact resting

end CloseTimerState

open CloseTimerState

/-- The cases of a call. -/
theorem closeTimer_cases (times : TimerTimes) (state : CloseTimerState) :
    (state.regs.waitForWrite = true ∧
        (closeTimer times state).1.regs = state.regs.write times.time60s ∧
        (closeTimer times state).2 = []) ∨
      (∃ first later,
        state.regs.waitForWrite = false ∧
          state.regs.setReqs = first :: later ∧
          (closeTimer times state).1.regs =
            state.regs.register first later ∧
          (closeTimer times state).2 = []) ∨
      state.regs.Looks ∧ closeTimer times state = state.sweep := by
  rw [closeTimer]
  by_cases waits : state.waitForWrite = true
  · rw [if_pos waits]
    exact Or.inl ⟨waits, regs_writeSet, rfl⟩
  · rw [if_neg waits]
    have notWaits := Bool.eq_false_iff.2 waits
    cases queued : state.setReqs with
    | cons first later =>
        exact Or.inr (Or.inl ⟨first, later, notWaits, queued, rfl, rfl⟩)
    | nil =>
        exact Or.inr (Or.inr ⟨⟨notWaits, queued⟩, rfl⟩)

/-- The looks that are left go down by one in every look, and the session is
released when there are none. -/
theorem closeTimer_countsDown (times : TimerTimes) {id : TcpSessionID}
    (isSession : id.toNat < tcpMaxSessions) :
    CountsDown (closeTimerStep times) (· == id) (·.regs.InTable)
      (· ≠ .setReq id) (·.regs.looksLeft times.time60s id) looks
      (fun _ _ => 0) where
  keeps := by
    intro state input inTable _
    cases input with
    | setReq other =>
        exact inTable
    | call =>
        rw [closeTimerStep]
        rcases closeTimer_cases times state with
          ⟨_, next, _⟩ | ⟨_, _, _, _, next, _⟩ | ⟨_, next⟩
        · rw [next]
          exact inTable
        · rw [next]
          exact inTable
        · rw [next]
          exact sweep_look.inTable inTable
  running := by
    intro state input count inTable isOther left
    cases input with
    | setReq other =>
        have notOwn : other ≠ id := by
          rintro rfl
          exact isOther rfl
        exact
          Or.inl ⟨count, (TimerRegs.looksLeft_ask notOwn).trans left, rfl, rfl⟩
    | call =>
        rw [closeTimerStep, looks]
        rcases closeTimer_cases times state with
          ⟨waits, next, nothing⟩ | ⟨_, _, notWaits, queued, next, nothing⟩ |
            ⟨looks, next⟩
        · rw [next, nothing, if_neg (TimerRegs.not_looks_of_waits waits),
            TimerRegs.looksLeft_write waits]
          exact Or.inl ⟨count, left, rfl, rfl⟩
        · rw [next, nothing, if_neg (TimerRegs.not_looks_of_queued queued),
            TimerRegs.looksLeft_register notWaits queued]
          exact Or.inl ⟨count, left, rfl, rfl⟩
        · rw [next, if_pos looks]
          rcases looksLeft_sweep looks inTable isSession left with
            ⟨rest, runs, balance, nothing⟩ | ⟨stops, none, once⟩
          · exact Or.inl ⟨rest, runs, balance, nothing⟩
          · exact Or.inr ⟨stops, by rw [none]; exact Nat.one_pos, once⟩
  stopped := by
    intro state input _ isOther left
    cases input with
    | setReq other =>
        have notOwn : other ≠ id := by
          rintro rfl
          exact isOther rfl
        exact ⟨(TimerRegs.looksLeft_ask notOwn).trans left, rfl, rfl⟩
    | call =>
        rw [closeTimerStep]
        rcases closeTimer_cases times state with
          ⟨waits, next, nothing⟩ | ⟨_, _, notWaits, queued, next, nothing⟩ |
            ⟨looks, next⟩
        · rw [next, nothing, TimerRegs.looksLeft_write waits]
          exact ⟨left, rfl, rfl⟩
        · rw [next, nothing, TimerRegs.looksLeft_register notWaits queued]
          exact ⟨left, rfl, rfl⟩
        · rw [next]
          obtain ⟨stops, nothing⟩ := looksLeft_sweep_none looks left
          exact ⟨stops, rfl, nothing⟩

theorem closeTimer_pays (times : TimerTimes) (state : CloseTimerState)
    (input : CloseTimerInput) :
    (if input.isCall then 1 else 0) +
        (closeTimerStep times state input).1.regs.writeCost ≤
      state.looks input + (if input.isSetReq then 3 else 0) +
        state.regs.writeCost := by
  cases input with
  | setReq other =>
      have cost := TimerRegs.writeCost_ask state.regs other
      have asked :
          (closeTimerStep times state (.setReq other)).1.regs =
            state.regs.ask other :=
        rfl
      rw [asked, cost, looks, CloseTimerInput.isCall,
        CloseTimerInput.isSetReq, if_pos rfl, if_neg Bool.false_ne_true]
      omega
  | call =>
      rw [closeTimerStep, looks, CloseTimerInput.isCall,
        CloseTimerInput.isSetReq, if_pos rfl, if_neg Bool.false_ne_true]
      rcases closeTimer_cases times state with
        ⟨waits, next, _⟩ | ⟨_, _, _, queued, next, _⟩ | ⟨looks, next⟩
      · have cost :=
          @TimerRegs.writeCost_write times.time60s state.regs waits
        rw [next]
        omega
      · have cost := TimerRegs.writeCost_register queued
        rw [next]
        omega
      · rw [next, sweep_look.writeCost looks, if_pos looks]

/-- A call either looks at the table or serves a request. -/
theorem closeTimer_calls_le (times : TimerTimes) (state : CloseTimerState)
    (inputs : List CloseTimerInput) :
    inputs.countP CloseTimerInput.isCall ≤
      total (closeTimerStep times) looks state inputs +
        3 * (state.setReqs.length +
          inputs.countP CloseTimerInput.isSetReq) + 2 := by
  have bound :=
    @total_le _ _ _ _ _ _ (fun state => state.regs.writeCost)
      (closeTimer_pays times) state inputs
  have cost : state.regs.writeCost ≤ 3 * state.setReqs.length + 2 :=
    state.regs.writeCost_le
  rw [total_add, total_weighted, total_weighted] at bound
  omega

/-- A session that the RX engine asks for is released exactly once: in the
call whose look at the table is the one after the next `time60s` full rounds
to its entry.  Requests put a look off by three calls each, no more. -/
theorem closeTimer_releases_once
    {times : TimerTimes} {state : CloseTimerState} {id : TcpSessionID}
    {inputs : List CloseTimerInput}
    (inTable : state.regs.InTable) (isSession : id.toNat < tcpMaxSessions)
    (asked : state.regs.Asked id) (notAgain : .setReq id ∉ inputs) :
    let rounds :=
      turnsLeft tcpMaxSessions state.curSessionId.toNat id.toNat
        times.time60s.toNat
    (outputs (closeTimerStep times) state inputs).count id =
        (if rounds < total (closeTimerStep times) looks state inputs then
          1
        else
          0) ∧
      (rounds +
            3 * (state.setReqs.length +
              inputs.countP CloseTimerInput.isSetReq) + 2 <
          inputs.countP CloseTimerInput.isCall →
        (outputs (closeTimerStep times) state inputs).count id = 1) := by
  intro rounds
  have once :=
    (closeTimer_countsDown times isSession).fires_once inTable
      (fun input isInput isAgain => notAgain (isAgain ▸ isInput))
      (TimerRegs.looksLeft_asked asked)
  rw [total_zero, Nat.add_zero] at once
  refine ⟨once, ?_⟩
  intro enough
  have calls := closeTimer_calls_le times state inputs
  have late :
      rounds < total (closeTimerStep times) looks state inputs := by
    omega
  exact Eq.trans once (if_pos late)

/-- One request, and nothing else to do. -/
theorem closeTimer_releases_once_simulation :
    (outputs (closeTimerStep TimerTimes.simulation)
        { CloseTimerState.start with setReqs := [5] }
        (List.replicate 8000 .call)).count 5 = 1 := by
  have asked :
      { CloseTimerState.start with setReqs := [5] }.regs.Asked 5 :=
    Or.inl List.mem_cons_self
  have notAgain :
      CloseTimerInput.setReq 5 ∉ List.replicate 8000 CloseTimerInput.call := by
    intro isCall
    cases List.eq_of_mem_replicate isCall
  refine
    (@closeTimer_releases_once TimerTimes.simulation _ _ _ (by decide)
      (by decide) asked notAgain).2 ?_
  rw [List.countP_replicate, List.countP_replicate]
  decide

end TcpOffload
