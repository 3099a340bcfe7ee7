import Mathlib.Logic.Function.Basic
import TcpOffload.Library.Countdown
import TcpOffload.Conn

/-!
# The registers of a sweeping timer

What `close_timer` and `probe_timer` have in common: a request is read into a
register in one call and written to the table in a later one, and every other
call looks at the entry under the cursor.
-/

namespace TcpOffload

open Countdown

structure TimerRegs where
  entry : TcpSessionID → BitVec 32 × Bool
  curSessionId : TcpSessionID
  setSessionId : TcpSessionID
  prevSessionId : TcpSessionID
  waitForWrite : Bool
  setReqs : List TcpSessionID

namespace TimerRegs

/-- A request for the session waits, or is registered. -/
def Asked (regs : TimerRegs) (id : TcpSessionID) : Prop :=
  id ∈ regs.setReqs ∨ regs.waitForWrite = true ∧ regs.setSessionId = id

instance (regs : TimerRegs) (id : TcpSessionID) :
    Decidable (regs.Asked id) :=
  inferInstanceAs (Decidable (_ ∨ _ ∧ _))

/-- The cursor is inside the table. -/
def InTable (regs : TimerRegs) : Prop :=
  regs.curSessionId.toNat < tcpMaxSessions

instance (regs : TimerRegs) : Decidable regs.InTable :=
  inferInstanceAs (Decidable (_ < _))

/-- The looks before the one that finds the entry of the session at zero,
where `time` is what a request sets it to. -/
def looksLeft (time : BitVec 32) (id : TcpSessionID) (regs : TimerRegs) :
    Option Nat :=
  let turns (time : BitVec 32) :=
    turnsLeft tcpMaxSessions regs.curSessionId.toNat id.toNat time.toNat
  if regs.Asked id then
    some (turns time)
  else if (regs.entry id).2 then
    some (turns (regs.entry id).1)
  else
    none

/-- The call looks at an entry. -/
def Looks (regs : TimerRegs) : Prop :=
  regs.waitForWrite = false ∧ regs.setReqs = []

instance (regs : TimerRegs) : Decidable regs.Looks :=
  inferInstanceAs (Decidable (_ ∧ _))

/-- The calls before the registered request is written: it waits once when
its entry was just looked at. -/
def waitCost (regs : TimerRegs) : Nat :=
  if regs.waitForWrite then
    if regs.setSessionId = regs.prevSessionId then 2 else 1
  else
    0

/-- The calls that the requests at hand still cost, with one to read each. -/
def writeCost (regs : TimerRegs) : Nat :=
  3 * regs.setReqs.length + regs.waitCost

/-- A request arrives. -/
def ask (regs : TimerRegs) (id : TcpSessionID) : TimerRegs :=
  { regs with setReqs := regs.setReqs ++ [id] }

/-- The first request is registered. -/
def register (regs : TimerRegs) (first : TcpSessionID)
    (later : List TcpSessionID) : TimerRegs :=
  { regs with
    setSessionId := first, waitForWrite := true, setReqs := later }

/-- The registered request is written, or waits. -/
def write (time : BitVec 32) (regs : TimerRegs) : TimerRegs :=
  { regs with
    entry :=
      if regs.setSessionId ≠ regs.prevSessionId then
        Function.update regs.entry regs.setSessionId (time, true)
      else
        regs.entry
    prevSessionId := regs.prevSessionId - 1
    waitForWrite := regs.setSessionId == regs.prevSessionId }

/-- The entries of a timer with a table of its own are written alike. -/
theorem entry_write {Entry : Type}
    (view : Entry → BitVec 32 × Bool) (table : TcpSessionID → Entry)
    (setSessionId prevSessionId : TcpSessionID) (entry : Entry) :
    (fun id =>
        view
          ((if setSessionId ≠ prevSessionId then
              Function.update table setSessionId entry
            else
              table) id)) =
      if setSessionId ≠ prevSessionId then
        Function.update (fun id => view (table id)) setSessionId (view entry)
      else
        fun id => view (table id) := by
  split
  · funext id
    exact Function.apply_update (fun _ => view) table setSessionId entry id
  · rfl

/-- A look: the requests are as before and the cursor is at the next
entry. -/
structure Look (regs next : TimerRegs) : Prop where
  cursor :
    next.curSessionId =
      if (regs.curSessionId + 1).toNat = tcpMaxSessions then
        0
      else
        regs.curSessionId + 1
  register : next.setSessionId = regs.setSessionId
  waits : next.waitForWrite = regs.waitForWrite
  requests : next.setReqs = regs.setReqs

variable {time : BitVec 32} {regs next : TimerRegs} {id : TcpSessionID}

/-! ## The looks that are left -/

theorem looksLeft_asked (asked : regs.Asked id) :
    regs.looksLeft time id =
      some
        (turnsLeft tcpMaxSessions regs.curSessionId.toNat id.toNat
          time.toNat) := by
  rw [looksLeft, if_pos asked]

theorem looksLeft_active (notAsked : ¬regs.Asked id)
    (active : (regs.entry id).2 = true) :
    regs.looksLeft time id =
      some
        (turnsLeft tcpMaxSessions regs.curSessionId.toNat id.toNat
          (regs.entry id).1.toNat) := by
  rw [looksLeft, if_neg notAsked, if_pos active]

theorem looksLeft_none (notAsked : ¬regs.Asked id)
    (resting : (regs.entry id).2 = false) :
    regs.looksLeft time id = none := by
  rw [looksLeft, if_neg notAsked, resting]
  rfl

/-- The cases of an entry that runs. -/
theorem active_of_looksLeft (notAsked : ¬regs.Asked id) {count : Nat}
    (left : regs.looksLeft time id = some count) :
    (regs.entry id).2 = true ∧
      count =
        turnsLeft tcpMaxSessions regs.curSessionId.toNat id.toNat
          (regs.entry id).1.toNat := by
  have active : (regs.entry id).2 = true := by
    by_contra resting
    rw [looksLeft_none notAsked (Bool.eq_false_iff.2 resting)] at left
    cases left
  rw [looksLeft_active notAsked active] at left
  exact ⟨active, (Option.some.inj left).symm⟩

theorem resting_of_looksLeft (left : regs.looksLeft time id = none) :
    ¬regs.Asked id ∧ (regs.entry id).2 = false := by
  have notAsked : ¬regs.Asked id := by
    intro asked
    rw [looksLeft_asked asked] at left
    cases left
  refine ⟨notAsked, Bool.eq_false_iff.2 ?_⟩
  intro active
  rw [looksLeft_active notAsked active] at left
  cases left

/-- What is left depends on the request, the cursor and the entry. -/
theorem looksLeft_congr (asked : next.Asked id ↔ regs.Asked id)
    (cursor : next.curSessionId = regs.curSessionId)
    (entry : next.entry id = regs.entry id) :
    next.looksLeft time id = regs.looksLeft time id := by
  rw [looksLeft, looksLeft, cursor, entry]
  by_cases isAsked : regs.Asked id
  · rw [if_pos isAsked, if_pos (asked.2 isAsked)]
  · rw [if_neg isAsked, if_neg (fun now => isAsked (asked.1 now))]

theorem looksLeft_ask {other : TcpSessionID} (isOther : other ≠ id) :
    (regs.ask other).looksLeft time id = regs.looksLeft time id := by
  refine looksLeft_congr ?_ rfl rfl
  simp only [ask, Asked, List.mem_append, List.mem_singleton,
    Ne.symm isOther, or_false]

theorem looksLeft_register {first : TcpSessionID} {later : List TcpSessionID}
    (notWaits : regs.waitForWrite = false)
    (queued : regs.setReqs = first :: later) :
    (regs.register first later).looksLeft time id =
      regs.looksLeft time id := by
  refine looksLeft_congr ?_ rfl rfl
  simp only [Asked, TimerRegs.register, queued, List.mem_cons, notWaits,
    true_and, Bool.false_eq_true, false_and, or_false]
  constructor
  · rintro (isLater | isFirst)
    · exact Or.inr isLater
    · exact Or.inl isFirst.symm
  · rintro (isFirst | isLater)
    · exact Or.inr isFirst.symm
    · exact Or.inl isLater

theorem looksLeft_write (waits : regs.waitForWrite = true) :
    (regs.write time).looksLeft time id = regs.looksLeft time id := by
  by_cases isPrev : regs.setSessionId = regs.prevSessionId
  · refine looksLeft_congr ?_ rfl ?_
    · simp only [write, Asked, isPrev, beq_self_eq_true, waits]
    · simp only [write, isPrev, ne_eq, not_true_eq_false, if_false]
  · have written : (regs.write time).waitForWrite = false :=
      beq_eq_false_iff_ne.2 isPrev
    by_cases isOwn : regs.setSessionId = id
    · have entry : (regs.write time).entry id = (time, true) := by
        rw [write]
        simp only []
        rw [if_pos isPrev, isOwn, Function.update_self]
      rw [looksLeft_asked (Or.inr ⟨waits, isOwn⟩)]
      by_cases again : id ∈ regs.setReqs
      · exact looksLeft_asked (Or.inl again)
      · have notAsked : ¬(regs.write time).Asked id := by
          rintro (stillQueued | ⟨stillWaits, _⟩)
          · exact again stillQueued
          · rw [written] at stillWaits
            cases stillWaits
        rw [looksLeft_active notAsked (by rw [entry]), entry]
        rfl
    · refine looksLeft_congr ?_ rfl ?_
      · simp only [write, Asked, isOwn, and_false]
      · simp only [write, isPrev, ne_eq, not_false_eq_true, if_true,
          Function.update_of_ne (Ne.symm isOwn)]

/-! ## A look at the table -/

theorem Looks.not_asked (looks : regs.Looks) : ¬regs.Asked id := by
  rintro (asked | ⟨waits, _⟩)
  · rw [looks.2] at asked
    cases asked
  · rw [looks.1] at waits
    cases waits

theorem not_looks_of_waits
    (waits : regs.waitForWrite = true) : ¬regs.Looks := by
  rintro ⟨notWaits, _⟩
  rw [waits] at notWaits
  cases notWaits

theorem not_looks_of_queued {first : TcpSessionID}
    {later : List TcpSessionID} (queued : regs.setReqs = first :: later) :
    ¬regs.Looks := by
  rintro ⟨_, none⟩
  rw [queued] at none
  cases none

theorem Look.not_asked (look : Look regs next) (looks : regs.Looks) :
    ¬next.Asked id := by
  rw [Asked, look.requests, look.waits, look.register]
  exact looks.not_asked

theorem Look.toNat_cursor (look : Look regs next) (inTable : regs.InTable) :
    next.curSessionId.toNat =
      advance tcpMaxSessions regs.curSessionId.toNat := by
  rw [look.cursor]
  exact toNat_advance (by decide) inTable

theorem Look.inTable (look : Look regs next) (inTable : regs.InTable) :
    next.InTable := by
  rw [InTable, look.toNat_cursor inTable]
  exact advance_lt inTable

/-- The cursor was at another entry. -/
theorem Look.pass (look : Look regs next) (looks : regs.Looks)
    (inTable : regs.InTable) (isSession : id.toNat < tcpMaxSessions)
    (notHere : regs.curSessionId ≠ id)
    (entry : next.entry id = regs.entry id) {count : Nat}
    (left : regs.looksLeft time id = some count) :
    ∃ rest, next.looksLeft time id = some rest ∧ rest + 1 = count := by
  obtain ⟨active, isCount⟩ := active_of_looksLeft looks.not_asked left
  refine
    ⟨_, looksLeft_active (look.not_asked looks) (by rw [entry]; exact active),
      ?_⟩
  rw [isCount, look.toNat_cursor inTable, entry]
  exact
    turnsLeft_pass inTable isSession
      (fun same => notHere (BitVec.eq_of_toNat_eq same)) _

/-- The entry has lost one. -/
theorem Look.count (look : Look regs next) (looks : regs.Looks)
    (inTable : regs.InTable) (isSession : id.toNat < tcpMaxSessions)
    (isHere : regs.curSessionId = id) (notRanOut : (regs.entry id).1 ≠ 0)
    (entry : next.entry id = ((regs.entry id).1 - 1, true)) {count : Nat}
    (left : regs.looksLeft time id = some count) :
    ∃ rest, next.looksLeft time id = some rest ∧ rest + 1 = count := by
  obtain ⟨_, isCount⟩ := active_of_looksLeft looks.not_asked left
  refine
    ⟨_, looksLeft_active (look.not_asked looks) (by rw [entry]), ?_⟩
  have positive : (regs.entry id).1.toNat ≠ 0 :=
    fun zero => notRanOut (BitVec.eq_of_toNat_eq zero)
  have less :
      ((regs.entry id).1 - 1).toNat + 1 = (regs.entry id).1.toNat := by
    have one : (1 : BitVec 32).toNat = 1 := rfl
    have bound := (regs.entry id).1.isLt
    rw [BitVec.toNat_sub, one]
    omega
  rw [isCount, look.toNat_cursor inTable, entry, isHere,
    turnsLeft_visit isSession, less]

/-- The entry could not do what it wanted to. -/
theorem Look.wait (look : Look regs next) (looks : regs.Looks)
    (inTable : regs.InTable) (isSession : id.toNat < tcpMaxSessions)
    (isHere : regs.curSessionId = id)
    (entry : next.entry id = regs.entry id) {count : Nat}
    (left : regs.looksLeft time id = some count) :
    ∃ rest,
      next.looksLeft time id = some rest ∧
        rest + 1 = count + tcpMaxSessions := by
  obtain ⟨active, isCount⟩ := active_of_looksLeft looks.not_asked left
  refine
    ⟨_, looksLeft_active (look.not_asked looks) (by rw [entry]; exact active),
      ?_⟩
  rw [isCount, look.toNat_cursor inTable, entry, isHere]
  exact turnsLeft_wait isSession _

theorem count_of_ranOut (looks : regs.Looks)
    (isHere : regs.curSessionId = id) (ranOut : (regs.entry id).1 = 0)
    {count : Nat} (left : regs.looksLeft time id = some count) :
    count = 0 := by
  obtain ⟨_, isCount⟩ := active_of_looksLeft looks.not_asked left
  rw [isCount, ranOut, isHere, turnsLeft_self]
  exact Nat.mul_zero _

/-! ## The calls that do not look -/

theorem waitCost_le (regs : TimerRegs) : regs.waitCost ≤ 2 := by
  rw [waitCost]
  split
  · split <;> omega
  · omega

theorem writeCost_le (regs : TimerRegs) :
    regs.writeCost ≤ 3 * regs.setReqs.length + 2 :=
  Nat.add_le_add_left regs.waitCost_le _

theorem writeCost_ask (regs : TimerRegs) (id : TcpSessionID) :
    (regs.ask id).writeCost = regs.writeCost + 3 := by
  have longer : (regs.ask id).setReqs.length = regs.setReqs.length + 1 :=
    List.length_append
  have same : (regs.ask id).waitCost = regs.waitCost :=
    rfl
  rw [writeCost, writeCost, longer, same]
  omega

theorem writeCost_register {first : TcpSessionID}
    {later : List TcpSessionID} (queued : regs.setReqs = first :: later) :
    (regs.register first later).writeCost + 1 ≤ regs.writeCost := by
  have cost := (regs.register first later).waitCost_le
  have fewer : (regs.register first later).setReqs = later :=
    rfl
  rw [writeCost, writeCost, fewer, queued, List.length_cons]
  omega

theorem writeCost_write (waits : regs.waitForWrite = true) :
    (regs.write time).writeCost + 1 ≤ regs.writeCost := by
  have less : (regs.write time).waitCost + 1 ≤ regs.waitCost := by
    by_cases isPrev : regs.setSessionId = regs.prevSessionId
    · have moved : regs.prevSessionId ≠ regs.prevSessionId - 1 := by
        intro same
        have values := congrArg BitVec.toNat same
        have one : (1 : BitVec 16).toNat = 1 := rfl
        rw [BitVec.toNat_sub, one] at values
        omega
      simp only [waitCost, write, isPrev, beq_self_eq_true, waits, moved,
        if_true, if_false, Nat.reduceAdd, Nat.le_refl]
    · simp only [waitCost, write, waits, beq_iff_eq, isPrev, if_true,
        if_false, Nat.reduceAdd, Nat.le_refl]
  have same : (regs.write time).setReqs = regs.setReqs :=
    rfl
  rw [writeCost, writeCost, same]
  omega

theorem Looks.writeCost (looks : regs.Looks) : regs.writeCost = 0 := by
  rw [TimerRegs.writeCost, waitCost, looks.1, looks.2]
  rfl

theorem Look.writeCost (look : Look regs next) (looks : regs.Looks) :
    next.writeCost = regs.writeCost := by
  rw [TimerRegs.writeCost, TimerRegs.writeCost, waitCost, waitCost,
    look.requests, look.waits, looks.1]
  rfl

end TimerRegs

end TcpOffload
