import Mathlib.Algebra.Order.Ring.Nat
import Mathlib.Data.List.Basic

/-!
# Guarded runs of a transition system

A system is a step relation on states, labelled with actions.  `Along` says
that a property of (state, action) holds at every step a sequence of actions
takes, whatever the intermediate states; the invariant rule derives one such
property from another.
-/

namespace Guarded

universe u v

variable {State : Type u} {Action : Type v}
variable (step : State → Action → State → Prop)

/-- The actions lead from the first state to the last. -/
inductive Run : State → List Action → State → Prop
  | refl (state : State) : Run state [] state
  | head {state next final : State} {action : Action}
      {rest : List Action} :
      step state action next →
      Run next rest final →
      Run state (action :: rest) final

/-- `holds` is true at every step of every run of `actions` from `state`. -/
def Along (holds : State → Action → Prop) : State → List Action → Prop
  | _, [] => True
  | state, action :: rest =>
      ∀ next, step state action next →
        holds state action ∧ Along holds next rest

/-- Each action is allowed when its turn comes, where an action has one
outcome. -/
def Enabled
    (act : State → Action → State) (allows : State → Action → Prop) :
    State → List Action → Prop
  | _, [] => True
  | state, action :: rest =>
      allows state action ∧ Enabled act allows (act state action) rest

instance Enabled.decidable
    {act : State → Action → State} {allows : State → Action → Prop}
    [∀ state action, Decidable (allows state action)] :
    ∀ (state : State) (actions : List Action),
      Decidable (Enabled act allows state actions)
  | _, [] => isTrue trivial
  | state, action :: rest =>
      @instDecidableAnd _ _ _
        (Enabled.decidable (act state action) rest)

variable {step}

theorem Enabled.run
    {act : State → Action → State} {allows : State → Action → Prop}
    (takes :
      ∀ state action,
        allows state action → step state action (act state action))
    {state : State} {actions : List Action}
    (enabled : Enabled act allows state actions) :
    Run step state actions (actions.foldl act state) := by
  induction actions generalizing state with
  | nil =>
      exact Run.refl state
  | cons action rest inductionHypothesis =>
      exact
        Run.head (takes state action enabled.1)
          (inductionHypothesis enabled.2)

/-- Where every action has an outcome in every state, any actions can be
taken. -/
theorem Run.of_act
    {act : State → Action → State}
    (takes : ∀ state action, step state action (act state action))
    (state : State) (actions : List Action) :
    Run step state actions (actions.foldl act state) := by
  induction actions generalizing state with
  | nil =>
      exact Run.refl state
  | cons action rest inductionHypothesis =>
      exact Run.head (takes state action) (inductionHypothesis _)

/-- Then a property that holds at each turn holds along the run. -/
theorem Enabled.along
    {act : State → Action → State} {holds : State → Action → Prop}
    (oneOutcome :
      ∀ state action next, step state action next → next = act state action)
    {state : State} {actions : List Action}
    (enabled : Enabled act holds state actions) :
    Along step holds state actions := by
  induction actions generalizing state with
  | nil =>
      trivial
  | cons action rest inductionHypothesis =>
      intro next stepped
      rw [oneOutcome state action next stepped]
      exact ⟨enabled.1, inductionHypothesis enabled.2⟩

/-- Where each action leads to one state, a property holds along a run when
it holds at each turn. -/
theorem along_iff_enabled
    {act : State → Action → State} {holds : State → Action → Prop}
    {state : State} {actions : List Action} :
    Along (fun state action next => next = act state action) holds state
        actions ↔
      Enabled act holds state actions := by
  induction actions generalizing state with
  | nil =>
      exact Iff.rfl
  | cons action rest inductionHypothesis =>
      constructor
      · intro along
        obtain ⟨here, later⟩ := along _ rfl
        exact ⟨here, inductionHypothesis.1 later⟩
      · rintro ⟨here, later⟩ next rfl
        exact ⟨here, inductionHypothesis.2 later⟩

theorem Run.append
    {state next final : State} {actions later : List Action}
    (first : Run step state actions next)
    (second : Run step next later final) :
    Run step state (actions ++ later) final := by
  induction first with
  | refl state =>
      exact second
  | head stepped _ inductionHypothesis =>
      exact Run.head stepped (inductionHypothesis second)

/-- The step at the end of a run has the property. -/
theorem Along.of_run
    {holds : State → Action → Prop} {start state next : State}
    {actions : List Action} {action : Action}
    (along : Along step holds start (actions ++ [action]))
    (run : Run step start actions state)
    (stepped : step state action next) :
    holds state action := by
  induction run with
  | refl state =>
      exact (along next stepped).1
  | head first _ inductionHypothesis =>
      exact inductionHypothesis (along _ first).2 stepped

/-- Where an action has one outcome, it is enough to follow that one. -/
theorem Along.head
    {holds : State → Action → Prop} {state next : State}
    {action : Action} {rest : List Action}
    (oneOutcome :
      ∀ state action next other,
        step state action next → step state action other → other = next)
    (stepped : step state action next) (here : holds state action)
    (later : Along step holds next rest) :
    Along step holds state (action :: rest) := by
  intro other otherStep
  rw [oneOutcome state action next other stepped otherStep]
  exact ⟨here, later⟩

/-- The actions lead from the first state to the last, and a property holds
along them, as it does along what follows. -/
def Reaches
    (step : State → Action → State → Prop) (holds : State → Action → Prop)
    (state : State) (actions : List Action) (final : State) : Prop :=
  Run step state actions final ∧
    ∀ later,
      Along step holds final later →
        Along step holds state (actions ++ later)

theorem Reaches.refl {holds : State → Action → Prop} (state : State) :
    Reaches step holds state [] state :=
  ⟨Run.refl state, fun _ along => along⟩

theorem Reaches.head
    {holds : State → Action → Prop} {state next final : State}
    {action : Action} {rest : List Action}
    (oneOutcome :
      ∀ state action next other,
        step state action next → step state action other → other = next)
    (stepped : step state action next) (here : holds state action)
    (later : Reaches step holds next rest final) :
    Reaches step holds state (action :: rest) final :=
  ⟨Run.head stepped later.1, fun _ along =>
    Along.head oneOutcome stepped here (later.2 _ along)⟩

theorem Reaches.append
    {holds : State → Action → Prop} {state next final : State}
    {actions later : List Action}
    (first : Reaches step holds state actions next)
    (second : Reaches step holds next later final) :
    Reaches step holds state (actions ++ later) final := by
  refine ⟨first.1.append second.1, fun rest along => ?_⟩
  rw [List.append_assoc]
  exact first.2 _ (second.2 rest along)

/-- A property of every step passes to what it implies. -/
theorem Along.map
    {holds other : State → Action → Prop} {start : State}
    {actions : List Action}
    (along : Along step holds start actions)
    (implies : ∀ state action, holds state action → other state action) :
    Along step other start actions := by
  induction actions generalizing start with
  | nil =>
      trivial
  | cons action rest inductionHypothesis =>
      intro next stepped
      obtain ⟨here, later⟩ := along next stepped
      exact ⟨implies start action here, inductionHypothesis later⟩

/-- The invariant rule for guarded runs: if the guarded steps keep an
invariant, and a guarded step taken under the invariant has the goal
property, then every step of a guarded run has it. -/
theorem along_of_invariant
    {invariant : State → Prop} {guard goal : State → Action → Prop}
    (preserved :
      ∀ state action next,
        invariant state → guard state action →
          step state action next → invariant next)
    (enough :
      ∀ state action next,
        invariant state → guard state action →
          step state action next → goal state action)
    {state : State} {actions : List Action}
    (initially : invariant state)
    (guarded : Along step guard state actions) :
    Along step goal state actions := by
  induction actions generalizing state with
  | nil =>
      trivial
  | cons action rest inductionHypothesis =>
      intro next stepped
      obtain ⟨guardHere, guardRest⟩ := guarded next stepped
      exact
        ⟨enough state action next initially guardHere stepped,
          inductionHypothesis
            (preserved state action next initially guardHere stepped)
            guardRest⟩

/-- What every step keeps is enough for the goal of every step of a run. -/
theorem along_of_keeps
    {invariant : State → Prop} {goal : State → Action → Prop}
    (preserved :
      ∀ state action next,
        invariant state → step state action next → invariant next)
    (enough :
      ∀ state action next,
        invariant state → step state action next → goal state action)
    {state : State} (initially : invariant state)
    (actions : List Action) :
    Along step goal state actions := by
  induction actions generalizing state with
  | nil =>
      trivial
  | cons action rest inductionHypothesis =>
      intro next stepped
      exact
        ⟨enough state action next initially stepped,
          inductionHypothesis
            (preserved state action next initially stepped)⟩

/-- Two properties that agree at every step taken under an invariant hold
along the same runs. -/
theorem along_iff_of_invariant
    {invariant : State → Prop} {holds other : State → Action → Prop}
    (preserved :
      ∀ state action next,
        invariant state → step state action next → invariant next)
    (same :
      ∀ state action next,
        invariant state → step state action next →
          (holds state action ↔ other state action))
    {state : State} {actions : List Action}
    (initially : invariant state) :
    Along step holds state actions ↔ Along step other state actions := by
  have ignoresGuard (guard : State → Action → Prop) :
      ∀ state action next,
        invariant state → guard state action →
          step state action next → invariant next :=
    fun state action next here _ stepped =>
      preserved state action next here stepped
  constructor
  · intro along
    refine along_of_invariant (ignoresGuard holds) ?_ initially along
    intro state action next here holdsHere stepped
    exact (same state action next here stepped).1 holdsHere
  · intro along
    refine along_of_invariant (ignoresGuard other) ?_ initially along
    intro state action next here otherHere stepped
    exact (same state action next here stepped).2 otherHere

/-- The invariant itself holds at the end of a guarded run. -/
theorem invariant_of_run
    {invariant : State → Prop} {guard : State → Action → Prop}
    (preserved :
      ∀ state action next,
        invariant state → guard state action →
          step state action next → invariant next)
    {state final : State} {actions : List Action}
    (initially : invariant state)
    (guarded : Along step guard state actions)
    (run : Run step state actions final) :
    invariant final := by
  induction run with
  | refl state =>
      exact initially
  | head stepped _ inductionHypothesis =>
      obtain ⟨guardHere, guardRest⟩ := guarded _ stepped
      exact
        inductionHypothesis
          (preserved _ _ _ initially guardHere stepped) guardRest

/-- What every step keeps holds at the end of a run. -/
theorem Run.keeps
    {invariant : State → Prop}
    (preserved :
      ∀ state action next,
        invariant state → step state action next → invariant next)
    {state final : State} {actions : List Action}
    (run : Run step state actions final) (initially : invariant state) :
    invariant final := by
  induction run with
  | refl state =>
      exact initially
  | head stepped _ inductionHypothesis =>
      exact inductionHypothesis (preserved _ _ _ initially stepped)

/-- Where each action has one outcome, a run is with `early` as long as its
steps meet the guard, and with `late` once one of them has not. -/
theorem Run.along_or_not
    {early late : State → Prop} {guard : State → Action → Prop}
    (oneOutcome :
      ∀ state action next other,
        step state action next → step state action other → other = next)
    (earlyStep :
      ∀ state action next,
        early state → step state action next →
          guard state action ∧ early next ∨
            ¬ guard state action ∧ late next)
    (lateStep :
      ∀ state action next,
        late state → step state action next → late next)
    {state final : State} {actions : List Action}
    (run : Run step state actions final) (initially : early state) :
    Along step guard state actions ∧ early final ∨
      ¬ Along step guard state actions ∧ late final := by
  induction run with
  | refl state =>
      exact Or.inl ⟨trivial, initially⟩
  | head stepped rest inductionHypothesis =>
      rcases earlyStep _ _ _ initially stepped with
        ⟨here, next⟩ | ⟨notHere, next⟩
      · rcases inductionHypothesis next with
          ⟨along, atEnd⟩ | ⟨notAlong, atEnd⟩
        · exact
            Or.inl ⟨Along.head oneOutcome stepped here along, atEnd⟩
        · exact
            Or.inr ⟨fun along => notAlong (along _ stepped).2, atEnd⟩
      · exact
          Or.inr
            ⟨fun along => notHere (along _ stepped).1,
              rest.keeps lateStep next⟩

end Guarded
