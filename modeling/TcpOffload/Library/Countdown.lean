import Mathlib.Algebra.Order.Ring.Nat
import Mathlib.Data.BitVec
import Mathlib.Data.List.Basic

/-!
# Countdowns

A countdown loses one for every turn of its system until a turn finds nothing
left, and then it fires.  The first part counts over a run; the second part is
the countdown of one place in a table that a cursor sweeps.
-/

namespace Countdown

universe u v w

variable {State : Type u} {Input : Type v} {Msg : Type w}
variable (step : State → Input → State × List Msg)

/-- What a run writes. -/
def outputs : State → List Input → List Msg
  | _, [] => []
  | state, input :: rest =>
      (step state input).2 ++ outputs (step state input).1 rest

/-- The sum of an amount over the steps of a run. -/
def total (amount : State → Input → Nat) : State → List Input → Nat
  | _, [] => 0
  | state, input :: rest =>
      amount state input + total amount (step state input).1 rest

/-- `left` counts down by the turns of a step, is put off by what the step
holds up, and fires in the step whose turns are more than is left. -/
structure CountsDown
    (fires : Msg → Bool) (good : State → Prop) (allowed : Input → Prop)
    (left : State → Option Nat) (turns held : State → Input → Nat) :
    Prop where
  keeps :
    ∀ {state input}, good state → allowed input →
      good (step state input).1
  running :
    ∀ {state input count}, good state → allowed input →
      left state = some count →
      (∃ rest,
          left (step state input).1 = some rest ∧
            rest + turns state input = count + held state input ∧
            (step state input).2.countP fires = 0) ∨
        left (step state input).1 = none ∧
          count + held state input < turns state input ∧
          (step state input).2.countP fires = 1
  stopped :
    ∀ {state input}, good state → allowed input → left state = none →
      left (step state input).1 = none ∧ held state input = 0 ∧
        (step state input).2.countP fires = 0

variable {step}
variable {fires : Msg → Bool} {good : State → Prop}
variable {allowed : Input → Prop} {left : State → Option Nat}
variable {turns held : State → Input → Nat}

/-- Nothing fires where nothing runs. -/
theorem CountsDown.silent
    (countsDown : CountsDown step fires good allowed left turns held)
    {state : State} {inputs : List Input} (isGood : good state)
    (areAllowed : ∀ input ∈ inputs, allowed input)
    (isStopped : left state = none) :
    total step held state inputs = 0 ∧
      (outputs step state inputs).countP fires = 0 := by
  induction inputs generalizing state with
  | nil =>
      exact ⟨rfl, rfl⟩
  | cons input rest inductionHypothesis =>
      obtain ⟨allowedHere, allowedLater⟩ :=
        List.forall_mem_cons.1 areAllowed
      obtain ⟨staysStopped, notHeld, nothing⟩ :=
        countsDown.stopped isGood allowedHere isStopped
      obtain ⟨noDelay, silent⟩ :=
        inductionHypothesis (countsDown.keeps isGood allowedHere)
          allowedLater staysStopped
      constructor
      · rw [total, notHeld, noDelay]
      · rw [outputs, List.countP_append, nothing, silent]

/-- What every step writes satisfies, what a run writes satisfies. -/
theorem CountsDown.writes
    (countsDown : CountsDown step fires good allowed left turns held)
    {expected : Msg → Prop}
    (writes :
      ∀ {state input}, good state → allowed input →
        ∀ msg ∈ (step state input).2, expected msg)
    {state : State} {inputs : List Input} (isGood : good state)
    (areAllowed : ∀ input ∈ inputs, allowed input) :
    ∀ msg ∈ outputs step state inputs, expected msg := by
  induction inputs generalizing state with
  | nil =>
      intro msg isIn
      cases isIn
  | cons input rest inductionHypothesis =>
      obtain ⟨allowedHere, allowedLater⟩ :=
        List.forall_mem_cons.1 areAllowed
      intro msg isIn
      rcases List.mem_append.1 isIn with here | later
      · exact writes isGood allowedHere msg here
      · exact
          inductionHypothesis (countsDown.keeps isGood allowedHere)
            allowedLater msg later

/-- A countdown fires once, as soon as the turns are more than what was left
and what held it up. -/
theorem CountsDown.fires_once
    (countsDown : CountsDown step fires good allowed left turns held)
    {state : State} {inputs : List Input} {count : Nat}
    (isGood : good state)
    (areAllowed : ∀ input ∈ inputs, allowed input)
    (isRunning : left state = some count) :
    (outputs step state inputs).countP fires =
      if count + total step held state inputs <
          total step turns state inputs then
        1
      else
        0 := by
  induction inputs generalizing state count with
  | nil =>
      rw [total, total, if_neg (Nat.not_lt_zero _)]
      rfl
  | cons input rest inductionHypothesis =>
      obtain ⟨allowedHere, allowedLater⟩ :=
        List.forall_mem_cons.1 areAllowed
      have keeps := countsDown.keeps isGood allowedHere
      rw [outputs, List.countP_append, total, total]
      rcases countsDown.running isGood allowedHere isRunning with
        ⟨later, runs, balance, nothing⟩ | ⟨stops, enough, once⟩
      · rw [nothing, Nat.zero_add,
          inductionHypothesis keeps allowedLater runs]
        congr 1
        apply propext
        omega
      · obtain ⟨noDelay, silent⟩ :=
          countsDown.silent keeps allowedLater stops
        rw [once, silent, noDelay, if_pos (by omega)]

/-- What is spent in a run is paid for from a potential. -/
theorem total_le
    {spent granted : State → Input → Nat} {potential : State → Nat}
    (pays :
      ∀ state input,
        spent state input + potential (step state input).1 ≤
          granted state input + potential state)
    (state : State) (inputs : List Input) :
    total step spent state inputs ≤
      total step granted state inputs + potential state := by
  induction inputs generalizing state with
  | nil =>
      exact Nat.zero_le _
  | cons input rest inductionHypothesis =>
      have here := pays state input
      have later := inductionHypothesis (step state input).1
      rw [total, total]
      omega

theorem total_add (first second : State → Input → Nat)
    (state : State) (inputs : List Input) :
    total step (fun state input => first state input + second state input)
        state inputs =
      total step first state inputs + total step second state inputs := by
  induction inputs generalizing state with
  | nil =>
      rfl
  | cons input rest inductionHypothesis =>
      rw [total, total, total, inductionHypothesis]
      omega

/-- An amount that some of the inputs count for. -/
theorem total_weighted (counts : Input → Bool) (weight : Nat)
    (state : State) (inputs : List Input) :
    total step (fun _ input => if counts input then weight else 0)
        state inputs =
      weight * inputs.countP counts := by
  induction inputs generalizing state with
  | nil =>
      rfl
  | cons input rest inductionHypothesis =>
      rw [total, inductionHypothesis, List.countP_cons, Nat.mul_add,
        Nat.add_comm]
      congr 1
      split
      · exact (Nat.mul_one weight).symm
      · rfl

/-- An amount that some of the messages count for. -/
theorem total_countP (counts : Msg → Bool) (weight : Nat)
    (state : State) (inputs : List Input) :
    total step
        (fun state input => weight * (step state input).2.countP counts)
        state inputs =
      weight * (outputs step state inputs).countP counts := by
  induction inputs generalizing state with
  | nil =>
      rfl
  | cons input rest inductionHypothesis =>
      rw [total, outputs, inductionHypothesis, List.countP_append,
        Nat.mul_add]

theorem total_zero (state : State) (inputs : List Input) :
    total step (fun _ _ => 0) state inputs = 0 := by
  induction inputs generalizing state with
  | nil =>
      rfl
  | cons input rest inductionHypothesis =>
      rw [total, inductionHypothesis]

/-! ## Sweeps over a table -/

/-- The places that a cursor passes before it is at `place`. -/
def ahead (size cursor place : Nat) : Nat :=
  if cursor ≤ place then place - cursor else size + place - cursor

def advance (size cursor : Nat) : Nat :=
  if cursor + 1 = size then 0 else cursor + 1

/-- The turns before the one that finds the place at zero, when it loses one
in every visit. -/
def turnsLeft (size cursor place time : Nat) : Nat :=
  ahead size cursor place + size * time

variable {size cursor place : Nat}

theorem advance_lt (inside : cursor < size) : advance size cursor < size := by
  rw [advance]
  split
  · omega
  · omega

theorem ahead_advance_self (inside : place < size) :
    ahead size (advance size place) place + 1 = size := by
  rw [advance]
  split
  · rw [ahead, if_pos (Nat.zero_le place)]
    omega
  · rw [ahead, if_neg (by omega)]
    omega

theorem ahead_advance_of_ne (inside : cursor < size)
    (isPlace : place < size) (notHere : cursor ≠ place) :
    ahead size (advance size cursor) place + 1 = ahead size cursor place := by
  rw [advance, ahead, ahead]
  split
  · rw [if_pos (Nat.zero_le place), if_neg (by omega)]
    omega
  · split
    · rw [if_pos (by omega)]
      omega
    · rw [if_neg (by omega)]
      omega

theorem turnsLeft_pass (inside : cursor < size) (isPlace : place < size)
    (notHere : cursor ≠ place) (time : Nat) :
    turnsLeft size (advance size cursor) place time + 1 =
      turnsLeft size cursor place time := by
  have passed := ahead_advance_of_ne inside isPlace notHere
  rw [turnsLeft, turnsLeft]
  omega

theorem turnsLeft_self (time : Nat) :
    turnsLeft size place place time = size * time := by
  rw [turnsLeft, ahead, if_pos (Nat.le_refl place)]
  omega

theorem turnsLeft_visit (isPlace : place < size) (time : Nat) :
    turnsLeft size (advance size place) place time + 1 =
      turnsLeft size place place (time + 1) := by
  have round := ahead_advance_self isPlace
  rw [turnsLeft_self, turnsLeft, Nat.mul_add]
  omega

/-- A visit that does nothing costs a round. -/
theorem turnsLeft_wait (isPlace : place < size) (time : Nat) :
    turnsLeft size (advance size place) place time + 1 =
      turnsLeft size place place time + size := by
  have round := ahead_advance_self isPlace
  rw [turnsLeft_self, turnsLeft]
  omega

/-- A cursor in a register that is wide enough. -/
theorem toNat_advance {width : Nat} {cur : BitVec width}
    (fits : size < 2 ^ width) (inside : cur.toNat < size) :
    (if (cur + 1).toNat = size then 0 else cur + 1).toNat =
      advance size cur.toNat := by
  have next : (cur + 1).toNat = cur.toNat + 1 := by
    rcases Nat.eq_zero_or_pos width with none | some
    · subst none
      omega
    · have one : (1 : BitVec width).toNat = 1 :=
        BitVec.toNat_one some
      rw [BitVec.toNat_add, one, Nat.mod_eq_of_lt (by omega)]
  rw [advance, next]
  split
  · exact BitVec.toNat_zero
  · exact next

end Countdown
