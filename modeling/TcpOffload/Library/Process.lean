import Mathlib.Algebra.Order.Ring.Nat
import Mathlib.Data.List.Basic

/-!
# Clocked processes

A process is called once per clock.  One call maps the state (its registers
and the input queues it polls) to the next state and the messages written in
that call.  This module gives finite runs of calls, the states in which no
further call does anything, and the rules to compose and compare such runs.
-/

namespace Clocked

universe u v

variable {State : Type u} {Msg : Type v}
variable (call : State → State × List Msg)

/-- The state after `count` calls and everything written on the way. -/
def calls : Nat → State → State × List Msg
  | 0, state => (state, [])
  | count + 1, state =>
      let first := call state
      let rest := calls count first.1
      (rest.1, first.2 ++ rest.2)

/-- Another call would neither change the state nor write anything. -/
def Idle (state : State) : Prop :=
  call state = (state, [])

/-- Some number of calls leads from `start` to `final` and writes `written`. -/
def Runs (start : State) (written : List Msg) (final : State) : Prop :=
  ∃ count, calls call count start = (final, written)

/-- A run that ends in an idle state. -/
def Yields (start : State) (written : List Msg) (final : State) : Prop :=
  Runs call start written final ∧ Idle call final

variable {call}

@[simp]
theorem calls_zero (state : State) :
    calls call 0 state = (state, []) :=
  rfl

theorem calls_succ (count : Nat) (state : State) :
    calls call (count + 1) state =
      ((calls call count (call state).1).1,
        (call state).2 ++ (calls call count (call state).1).2) :=
  rfl

theorem calls_add (first second : Nat) (state : State) :
    calls call (first + second) state =
      ((calls call second (calls call first state).1).1,
        (calls call first state).2 ++
          (calls call second (calls call first state).1).2) := by
  induction first generalizing state with
  | zero =>
      simp
  | succ count inductionHypothesis =>
      rw [Nat.succ_add, Nat.succ_eq_add_one, calls_succ,
        inductionHypothesis]
      simp [calls_succ, List.append_assoc]

theorem calls_of_idle
    {state : State} (idle : Idle call state) (count : Nat) :
    calls call count state = (state, []) := by
  induction count with
  | zero =>
      rfl
  | succ count inductionHypothesis =>
      rw [calls_succ, idle]
      simp [inductionHypothesis]

/-- Once a run has become idle, more calls give the same result. -/
theorem calls_stable
    {start final : State} {written : List Msg} {count : Nat}
    (reached : calls call count start = (final, written))
    (idle : Idle call final) {later : Nat} (notBefore : count ≤ later) :
    calls call later start = (final, written) := by
  obtain ⟨extra, rfl⟩ := Nat.exists_eq_add_of_le notBefore
  rw [calls_add, reached]
  simp [calls_of_idle idle]

namespace Runs

theorem refl (state : State) : Runs call state [] state :=
  ⟨0, rfl⟩

theorem head
    {start next final : State} {first rest : List Msg}
    (called : call start = (next, first))
    (run : Runs call next rest final) :
    Runs call start (first ++ rest) final := by
  obtain ⟨count, reached⟩ := run
  exact ⟨count + 1, by rw [calls_succ, called, reached]⟩

theorem single
    {start final : State} {written : List Msg}
    (called : call start = (final, written)) :
    Runs call start written final :=
  ⟨1, by rw [calls_succ, called, calls_zero, List.append_nil]⟩

/-- A call that writes nothing. -/
theorem silent
    {start next final : State} {rest : List Msg}
    (called : call start = (next, []))
    (run : Runs call next rest final) :
    Runs call start rest final := by
  simpa using head called run

theorem trans
    {start middle final : State} {first second : List Msg}
    (left : Runs call start first middle)
    (right : Runs call middle second final) :
    Runs call start (first ++ second) final := by
  obtain ⟨leftCount, leftReached⟩ := left
  obtain ⟨rightCount, rightReached⟩ := right
  refine ⟨leftCount + rightCount, ?_⟩
  rw [calls_add, leftReached, rightReached]

/-- A run ends where it starts, or begins with the call there. -/
theorem head_cases
    {start next final : State} {first written : List Msg}
    (run : Runs call start written final)
    (called : call start = (next, first)) :
    final = start ∧ written = [] ∨
      ∃ rest, written = first ++ rest ∧ Runs call next rest final := by
  obtain ⟨count, reached⟩ := run
  cases count with
  | zero =>
      rw [calls_zero, Prod.mk.injEq] at reached
      exact Or.inl ⟨reached.1.symm, reached.2.symm⟩
  | succ count =>
      rw [calls_succ, called, Prod.mk.injEq] at reached
      exact Or.inr ⟨_, reached.2.symm, count, Prod.ext reached.1 rfl⟩

/-- An idle state is not left. -/
theorem eq_of_idle
    {start final : State} {written : List Msg}
    (run : Runs call start written final) (idle : Idle call start) :
    final = start := by
  obtain ⟨count, reached⟩ := run
  rw [calls_of_idle idle, Prod.mk.injEq] at reached
  exact reached.1.symm

/-- Of two runs from one state, one continues the other. -/
theorem continues
    {start first second : State} {written other : List Msg}
    (left : Runs call start written first)
    (right : Runs call start other second) :
    (∃ later, Runs call first later second) ∨
      ∃ later, Runs call second later first := by
  obtain ⟨leftCount, leftReached⟩ := left
  obtain ⟨rightCount, rightReached⟩ := right
  rcases Nat.le_total leftCount rightCount with notMore | notMore
  · obtain ⟨extra, rfl⟩ := Nat.exists_eq_add_of_le notMore
    rw [calls_add, leftReached, Prod.mk.injEq] at rightReached
    exact Or.inl ⟨_, extra, Prod.ext rightReached.1 rfl⟩
  · obtain ⟨extra, rfl⟩ := Nat.exists_eq_add_of_le notMore
    rw [calls_add, rightReached, Prod.mk.injEq] at leftReached
    exact Or.inr ⟨_, extra, Prod.ext leftReached.1 rfl⟩

/-- The invariant rule: what every call keeps holds at the end, and what
every call writes under the invariant is good. -/
theorem written_of_invariant
    {invariant : State → Prop} {good : Msg → Prop}
    (kept : ∀ state, invariant state → invariant (call state).1)
    (writes :
      ∀ state, invariant state → ∀ msg ∈ (call state).2, good msg)
    {start final : State} {written : List Msg}
    (run : Runs call start written final) (initially : invariant start) :
    invariant final ∧ ∀ msg ∈ written, good msg := by
  obtain ⟨count, reached⟩ := run
  induction count generalizing start written with
  | zero =>
      rw [calls_zero, Prod.mk.injEq] at reached
      rw [← reached.1, ← reached.2]
      exact ⟨initially, fun msg member => by cases member⟩
  | succ count inductionHypothesis =>
      rw [calls_succ, Prod.mk.injEq] at reached
      obtain ⟨atEnd, laterGood⟩ :=
        inductionHypothesis (kept start initially)
          (Prod.ext reached.1 rfl)
      refine ⟨atEnd, fun msg member => ?_⟩
      rw [← reached.2] at member
      rcases List.mem_append.1 member with isFirst | isLater
      · exact writes start initially msg isFirst
      · exact laterGood msg isLater

end Runs

namespace Yields

/-- What a process writes until it is idle does not depend on how often it
was called. -/
theorem unique
    {start first second : State} {written other : List Msg}
    (left : Yields call start written first)
    (right : Yields call start other second) :
    written = other ∧ first = second := by
  obtain ⟨⟨leftCount, leftReached⟩, leftIdle⟩ := left
  obtain ⟨⟨rightCount, rightReached⟩, rightIdle⟩ := right
  have leftStable :=
    calls_stable leftReached leftIdle
      (Nat.le_max_left leftCount rightCount)
  have rightStable :=
    calls_stable rightReached rightIdle
      (Nat.le_max_right leftCount rightCount)
  rw [leftStable, Prod.mk.injEq] at rightStable
  exact ⟨rightStable.2, rightStable.1⟩

/-- The first call of a run that ends in an idle state. -/
theorem tail
    {start next final : State} {first written : List Msg}
    (yields : Yields call start written final)
    (called : call start = (next, first)) :
    ∃ rest, written = first ++ rest ∧ Yields call next rest final := by
  obtain ⟨⟨count, reached⟩, idle⟩ := yields
  cases count with
  | zero =>
      rw [calls_zero, Prod.mk.injEq] at reached
      obtain ⟨rfl, rfl⟩ := reached
      rw [Idle, called, Prod.mk.injEq] at idle
      obtain ⟨rfl, rfl⟩ := idle
      exact ⟨[], rfl, Runs.refl _, called⟩
  | succ count =>
      rw [calls_succ, called, Prod.mk.injEq] at reached
      exact ⟨_, reached.2.symm, ⟨count, Prod.ext reached.1 rfl⟩, idle⟩

theorem prepend
    {start middle final : State} {first second : List Msg}
    (run : Runs call start first middle)
    (rest : Yields call middle second final) :
    Yields call start (first ++ second) final :=
  ⟨run.trans rest.1, rest.2⟩

end Yields

/-! ## Items

A process that reads its input item by item, whatever its registers hold in
between.
-/

section Items

universe z

variable {Item : Type z} {ready : List Item → State → Prop}
variable {outputs : Item → List Msg}

theorem yields_items
    (one :
      ∀ item later state,
        ready (item :: later) state →
          ∃ next, Runs call state (outputs item) next ∧ ready later next)
    (rests : ∀ state, ready [] state → Idle call state)
    (items : List Item) {state : State} (isReady : ready items state) :
    ∃ final, Yields call state (items.flatMap outputs) final := by
  induction items generalizing state with
  | nil =>
      exact ⟨state, Runs.refl _, rests state isReady⟩
  | cons item later inductionHypothesis =>
      obtain ⟨next, run, nextReady⟩ := one item later state isReady
      obtain ⟨final, yields⟩ := inductionHypothesis nextReady
      exact ⟨final, Yields.prepend run yields⟩

/-- A process that writes more for some items than is wanted writes what is
wanted exactly where none of those comes. -/
theorem yields_wanted_iff
    {wanted : Item → List Msg} {good : Item → Prop}
    (one :
      ∀ item later state,
        ready (item :: later) state →
          ∃ extra next,
            Runs call state (wanted item ++ extra) next ∧
              (extra = [] ↔ good item) ∧ ready later next)
    (rests : ∀ state, ready [] state → Idle call state)
    (items : List Item) {state : State} (isReady : ready items state) :
    (∃ final, Yields call state (items.flatMap wanted) final) ↔
      ∀ item ∈ items, good item := by
  have yields :
      ∃ written final,
        Yields call state written final ∧
          (items.flatMap wanted).length ≤ written.length ∧
          (written = items.flatMap wanted ↔ ∀ item ∈ items, good item) := by
    induction items generalizing state with
    | nil =>
        exact
          ⟨[], state, ⟨Runs.refl _, rests state isReady⟩, Nat.le_refl _,
            by simp⟩
    | cons item later inductionHypothesis =>
        obtain ⟨extra, next, run, noExtra, nextReady⟩ :=
          one item later state isReady
        obtain ⟨written, final, yields, atLeast, asWanted⟩ :=
          inductionHypothesis nextReady
        rw [List.forall_mem_cons, ← noExtra, ← asWanted, List.flatMap_cons]
        refine ⟨_, final, Yields.prepend run yields, ?_, ?_⟩
        · simp only [List.length_append]
          omega
        · rw [List.append_assoc, List.append_cancel_left_eq]
          constructor
          · intro same
            have lengths := congrArg List.length same
            rw [List.length_append] at lengths
            have none : extra = [] :=
              List.eq_nil_of_length_eq_zero (by omega)
            rw [none, List.nil_append] at same
            exact ⟨none, same⟩
          · rintro ⟨none, same⟩
            rw [none, List.nil_append, same]
  obtain ⟨written, final, yields, _, asWanted⟩ := yields
  rw [← asWanted]
  constructor
  · rintro ⟨other, wantedYields⟩
    exact (yields.unique wantedYields).1
  · intro same
    exact ⟨final, same ▸ yields⟩

end Items

/-! ## Views

A view of a process is a process on part of the state, each message of which
stands for some messages of the process.
-/

section Views

universe w x

variable {View : Type w} {Out : Type x}
variable {view : State → View} {viewCall : View → View × List Out}
variable {shows : Out → List Msg} {invariant : State → Prop}

/-- Under the invariant, each call is a call of the view. -/
def IsView
    (call : State → State × List Msg) (invariant : State → Prop)
    (view : State → View) (viewCall : View → View × List Out)
    (shows : Out → List Msg) : Prop :=
  ∀ state,
    invariant state →
      invariant (call state).1 ∧
        view (call state).1 = (viewCall (view state)).1 ∧
        (call state).2 = (viewCall (view state)).2.flatMap shows

theorem IsView.calls
    (isView : IsView call invariant view viewCall shows) (count : Nat)
    {state : State} (initially : invariant state) :
    view (calls call count state).1 =
        (Clocked.calls viewCall count (view state)).1 ∧
      (Clocked.calls call count state).2 =
        (Clocked.calls viewCall count (view state)).2.flatMap shows := by
  induction count generalizing state with
  | zero =>
      exact ⟨rfl, rfl⟩
  | succ count inductionHypothesis =>
      obtain ⟨kept, sameState, sameMsgs⟩ := isView state initially
      obtain ⟨laterState, laterMsgs⟩ := inductionHypothesis kept
      rw [calls_succ, calls_succ, ← sameState]
      refine ⟨laterState, ?_⟩
      rw [List.flatMap_append, ← sameMsgs, ← laterMsgs]

theorem IsView.runs
    (isView : IsView call invariant view viewCall shows)
    {state : State} {atEnd : View} {written : List Out}
    (initially : invariant state)
    (run : Runs viewCall (view state) written atEnd) :
    ∃ final,
      Runs call state (written.flatMap shows) final ∧
        view final = atEnd := by
  obtain ⟨count, reached⟩ := run
  obtain ⟨sameState, sameMsgs⟩ := isView.calls count initially
  rw [reached] at sameState sameMsgs
  exact ⟨_, ⟨count, Prod.ext rfl sameMsgs⟩, sameState⟩

theorem IsView.viewRuns
    (isView : IsView call invariant view viewCall shows)
    {state final : State} {written : List Msg}
    (initially : invariant state)
    (run : Runs call state written final) :
    ∃ seen,
      Runs viewCall (view state) seen (view final) ∧
        written = seen.flatMap shows := by
  obtain ⟨count, reached⟩ := run
  obtain ⟨sameState, sameMsgs⟩ := isView.calls count initially
  rw [reached] at sameState sameMsgs
  exact ⟨_, ⟨count, Prod.ext sameState.symm rfl⟩, sameMsgs⟩

end Views

/-! ## Unassigned locals

A local variable that a call reads before it has assigned it holds any value.
-/

section Unassigned

universe y

variable {Value : Type y}

/-- The calls that may read the local find one value after the other in it. -/
def drawing
    (call : Value → State → State × List Msg) (reads : State → Bool)
    (state : State × (Nat → Value)) :
    (State × (Nat → Value)) × List Msg :=
  let called := call (state.2 0) state.1
  ((called.1,
      if reads state.1 then fun index => state.2 (index + 1) else state.2),
    called.2)

end Unassigned

/-! ## Loops -/

section Loops

variable (call) (looping : State → Prop) (measure : State → Nat)

/-- `steps` calls in a loop, each of which lowers the measure; none but the
one that leaves the loop writes. -/
inductive LoopRun : Nat → State → List Msg → State → Prop
  | leave {state next : State} {written : List Msg} :
      looping state →
      call state = (next, written) →
      measure next < measure state →
      ¬ looping next →
      LoopRun 1 state written next
  | again {steps : Nat} {state next final : State}
      {written : List Msg} :
      looping state →
      call state = (next, []) →
      measure next < measure state →
      LoopRun steps next written final →
      LoopRun (steps + 1) state written final

variable {call looping measure}

/-- The loop rule: a call that lowers the measure and either keeps the
invariant, silently, or leaves the loop is called often enough. -/
theorem exists_loopRun
    {invariant : State → Prop} {leaves : List Msg → State → Prop}
    (step :
      ∀ state, invariant state → looping state →
        measure (call state).1 < measure state ∧
          (looping (call state).1 ∧ (call state).2 = [] ∧
              invariant (call state).1 ∨
            ¬ looping (call state).1 ∧
              leaves (call state).2 (call state).1))
    {state : State} (holds : invariant state) (loops : looping state) :
    ∃ steps written final,
      steps ≤ measure state ∧
      LoopRun call looping measure steps state written final ∧
      leaves written final := by
  induction bound : measure state using Nat.strong_induction_on
    generalizing state with
  | _ bound inductionHypothesis =>
      subst bound
      obtain ⟨lower, goes⟩ := step state holds loops
      rcases goes with ⟨loopsOn, silent, holdsOn⟩ | ⟨left, atEnd⟩
      · obtain ⟨steps, written, final, atMost, run, atEnd⟩ :=
          inductionHypothesis _ lower holdsOn loopsOn rfl
        refine
          ⟨steps + 1, written, final, by omega,
            LoopRun.again loops ?_ lower run, atEnd⟩
        rw [← silent]
      · exact
          ⟨1, _, _, by omega, LoopRun.leave loops rfl lower left, atEnd⟩

/-- A loop that is left does not get stuck. -/
theorem LoopRun.not_stuck
    {steps count : Nat} {state stuck final : State} {written : List Msg}
    (run : LoopRun call looping measure steps state written final)
    (some : written ≠ [])
    (reached : calls call count state = (stuck, []))
    (idle : Idle call stuck) : False := by
  induction run generalizing count with
  | leave _ called lower _ =>
      cases count with
      | zero =>
          rw [calls_zero, Prod.mk.injEq] at reached
          rw [← reached.1, Idle, called, Prod.mk.injEq] at idle
          exact some idle.2
      | succ count =>
          rw [calls_succ, called, Prod.mk.injEq] at reached
          exact some (List.append_eq_nil_iff.1 reached.2).1
  | again _ called lower _ inductionHypothesis =>
      cases count with
      | zero =>
          rw [calls_zero, Prod.mk.injEq] at reached
          rw [← reached.1, Idle, called, Prod.mk.injEq] at idle
          rw [idle.1] at lower
          exact Nat.lt_irrefl _ lower
      | succ count =>
          rw [calls_succ, called, List.nil_append] at reached
          exact inductionHypothesis some reached

end Loops

end Clocked
