import TcpOffload.Config

/-!
# What a `TX` event sends

The `TX` loop on natural numbers: full segments while both the remaining data
and the remaining window have room for one, and then one more segment of what
is left of the smaller.  The lengths carried to the next round have 16 bits,
and the window of the next round is the looked-up minimum over the used
length of that width.
-/

namespace TcpOffload

/-- `TxPlan minWindow curr used window lengths short`: with `curr` bytes to
send, `used` bytes in flight and `window` bytes of room, the loop sends
segments of `lengths` and leaves through the branch for a short rest
(`short`) or the one for a closed window. -/
inductive TxPlan (minWindow : Nat) :
    Nat → Nat → Nat → List Nat → Bool → Prop
  | short {curr used window : Nat} :
      curr ≤ window →
      curr < tcpMss →
      TxPlan minWindow curr used window [curr] true
  | window {curr used window : Nat} :
      window < curr →
      window < tcpMss →
      TxPlan minWindow curr used window [window] false
  | full {curr used window : Nat} {lengths : List Nat} {short : Bool} :
      tcpMss ≤ curr →
      tcpMss ≤ window →
      TxPlan minWindow
        ((curr - tcpMss) % 2 ^ 16)
        ((used + tcpMss) % 2 ^ 16)
        (minWindow - (used + tcpMss) % 2 ^ 16)
        lengths short →
      TxPlan minWindow curr used window (tcpMss :: lengths) short

namespace TxPlan

variable {minWindow curr used window : Nat}
variable {lengths : List Nat} {short : Bool}

theorem length_le_mss
    (plan : TxPlan minWindow curr used window lengths short)
    {length : Nat} (member : length ∈ lengths) :
    length ≤ tcpMss := by
  induction plan with
  | short _ below =>
      rw [List.mem_singleton.1 member]
      exact Nat.le_of_lt below
  | window _ below =>
      rw [List.mem_singleton.1 member]
      exact Nat.le_of_lt below
  | full _ _ _ inductionHypothesis =>
      rcases List.mem_cons.1 member with first | later
      · exact Nat.le_of_eq first
      · exact inductionHypothesis later

/-- From the second round on the loop sends all its data or fills its window,
and it does the former when the data fits or when the used length wraps
before the window closes. -/
theorem of_narrow
    (plan : TxPlan minWindow curr used window lengths short)
    (currNarrow : curr < 2 ^ 16) (usedNarrow : used < 2 ^ 16)
    (windowEq : window = minWindow - used) :
    lengths.sum = (if short then curr else window) ∧
      (short = true ↔
        curr ≤ window ∨
          2 ^ 16 ≤ used + tcpMss * (window / tcpMss)) := by
  induction plan with
  | @short curr used window fits below =>
      exact ⟨by simp, by simp [fits]⟩
  | @window curr used window closes below =>
      have noRoom : window / tcpMss = 0 := Nat.div_eq_of_lt below
      refine ⟨by simp, ?_⟩
      rw [noRoom]
      constructor
      · intro impossible
        cases impossible
      · rintro (fits | wraps)
        · omega
        · omega
  | @full curr used window lengths short enough room rest
      inductionHypothesis =>
      simp only [tcpMss_eq] at enough room
      have currNext :
          (curr - tcpMss) % 2 ^ 16 = curr - 1460 := by
        rw [tcpMss_eq]
        omega
      have usedNext := Nat.mod_lt (used + tcpMss) (by decide : 0 < 2 ^ 16)
      obtain ⟨sumRest, shortRest⟩ :=
        inductionHypothesis (by omega) usedNext rfl
      rw [currNext] at sumRest shortRest
      rw [tcpMss_eq] at sumRest shortRest ⊢
      by_cases wraps : used + 1460 < 2 ^ 16
      · have usedEq : (used + 1460) % 2 ^ 16 = used + 1460 :=
          Nat.mod_eq_of_lt wraps
        rw [usedEq] at sumRest shortRest
        have windowNext : minWindow - (used + 1460) = window - 1460 := by
          omega
        rw [windowNext] at sumRest shortRest
        have quotient : (window - 1460) / 1460 = window / 1460 - 1 := by
          omega
        refine ⟨?_, ?_⟩
        · rw [List.sum_cons, sumRest]
          split <;> omega
        · rw [shortRest, quotient]
          omega
      · have usedEq : (used + 1460) % 2 ^ 16 = used + 1460 - 2 ^ 16 := by
          omega
        rw [usedEq] at sumRest shortRest
        have isShort : short = true := by
          rw [shortRest]
          exact Or.inl (by omega)
        refine ⟨?_, ?_⟩
        · rw [List.sum_cons, sumRest, isShort]
          simp only [if_true]
          omega
        · rw [isShort]
          simp only [true_iff]
          exact Or.inr (by omega)

theorem sum_le_curr
    (plan : TxPlan minWindow curr used window lengths short) :
    lengths.sum ≤ curr := by
  induction plan with
  | short _ _ =>
      simp
  | window closes _ =>
      rw [List.sum_singleton]
      exact Nat.le_of_lt closes
  | @full curr used window lengths short enough _ _
      inductionHypothesis =>
      have truncated := Nat.mod_le (curr - tcpMss) (2 ^ 16)
      rw [List.sum_cons]
      omega

/-- With data and room for it the first segment is not empty. -/
theorem exists_first
    (plan : TxPlan minWindow curr used window lengths short)
    (someData : curr ≠ 0) (someRoom : window ≠ 0) :
    ∃ first later, lengths = first :: later ∧ first ≠ 0 := by
  cases plan with
  | short _ _ =>
      exact ⟨curr, [], rfl, someData⟩
  | window _ _ =>
      exact ⟨window, [], rfl, someRoom⟩
  | full _ _ _ =>
      exact ⟨tcpMss, _, rfl, by decide⟩

theorem curr_eq_zero
    (plan : TxPlan minWindow curr used window lengths short)
    (isShort : short = true) (nothing : lengths.sum = 0) :
    curr = 0 := by
  cases plan with
  | short _ _ =>
      simpa using nothing
  | window _ _ =>
      cases isShort
  | full _ _ _ =>
      rw [List.sum_cons, tcpMss_eq] at nothing
      omega

end TxPlan

/-- The used length wraps its 16 bits while full segments still fit the
window, and the data carried on is more than the rest of the window. -/
def OverrunsWindow (curr used window : Nat) : Prop :=
  tcpMss ≤ curr ∧
    tcpMss ≤ window ∧
    2 ^ 16 ≤ used + tcpMss * (window / tcpMss) ∧
    window < (curr - tcpMss) % 2 ^ 16 + tcpMss

instance (curr used window : Nat) :
    Decidable (OverrunsWindow curr used window) :=
  inferInstanceAs (Decidable (_ ∧ _ ∧ _ ∧ _))

/-- The length carried to the second round loses its upper bits, and the
window does not close before the rest of what was carried on is sent. -/
def LosesLength (curr minWindow : Nat) : Prop :=
  2 ^ 16 + tcpMss ≤ curr ∧
    ((curr - tcpMss) % 2 ^ 16 + tcpMss ≤ minWindow ∨
      45 * tcpMss ≤ minWindow)

instance (curr minWindow : Nat) :
    Decidable (LosesLength curr minWindow) :=
  inferInstanceAs (Decidable (_ ∧ _))

namespace TxPlan

variable {minWindow curr used window : Nat}
variable {lengths : List Nat} {short : Bool}

/-- The loop keeps to the window it was given unless it overruns it. -/
theorem sum_le_window_iff
    (plan : TxPlan minWindow curr used window lengths short)
    (windowEq : window = minWindow - used) :
    lengths.sum ≤ window ↔ ¬ OverrunsWindow curr used window := by
  cases plan with
  | short fits below =>
      have notFull : ¬ OverrunsWindow curr used window :=
        fun overruns => Nat.not_le.2 below overruns.1
      simp [fits, notFull]
  | window closes below =>
      have notFull : ¬ OverrunsWindow curr used window :=
        fun overruns => Nat.not_le.2 below overruns.2.1
      simp [notFull]
  | @full _ _ _ rest _ enough room plan =>
      have currNarrow :=
        Nat.mod_lt (curr - tcpMss) (by decide : 0 < 2 ^ 16)
      have usedNarrow :=
        Nat.mod_lt (used + tcpMss) (by decide : 0 < 2 ^ 16)
      obtain ⟨sumRest, shortRest⟩ :=
        plan.of_narrow currNarrow usedNarrow rfl
      rw [List.sum_cons, sumRest, OverrunsWindow]
      rw [tcpMss_eq] at enough room currNarrow usedNarrow shortRest ⊢
      have quotient : (window - 1460) / 1460 + 1 = window / 1460 := by
        omega
      by_cases wraps : used + 1460 < 2 ^ 16
      · have usedEq : (used + 1460) % 2 ^ 16 = used + 1460 :=
          Nat.mod_eq_of_lt wraps
        have windowNext : minWindow - (used + 1460) = window - 1460 := by
          omega
        rw [usedEq, windowNext] at shortRest ⊢
        cases short with
        | true =>
            simp only [true_iff, if_true] at shortRest ⊢
            omega
        | false =>
            simp only [Bool.false_eq_true, false_iff, if_false]
              at shortRest ⊢
            omega
      · have isShort : short = true := by
          rw [shortRest]
          exact Or.inl (by omega)
        rw [isShort]
        simp only [if_true]
        omega

/-- With nothing in flight, the loop leaves through the short branch without
having sent everything exactly when it loses length. -/
theorem short_loses_iff
    (plan : TxPlan minWindow curr 0 minWindow lengths short) :
    (short = true ∧ lengths.sum ≠ curr) ↔ LosesLength curr minWindow := by
  cases plan with
  | short fits below =>
      have notFull : ¬ LosesLength curr minWindow := by
        intro loses
        have large := loses.1
        omega
      simp [notFull]
  | window closes below =>
      have notFull : ¬ LosesLength curr minWindow := by
        intro loses
        have large := loses.2
        simp only [tcpMss_eq] at large below
        omega
      simp [notFull]
  | @full _ _ _ rest _ enough room plan =>
      have currNarrow :=
        Nat.mod_lt (curr - tcpMss) (by decide : 0 < 2 ^ 16)
      have usedNarrow :=
        Nat.mod_lt (0 + tcpMss) (by decide : 0 < 2 ^ 16)
      obtain ⟨sumRest, shortRest⟩ :=
        plan.of_narrow currNarrow usedNarrow rfl
      rw [List.sum_cons, sumRest, LosesLength]
      rw [tcpMss_eq] at enough room currNarrow shortRest ⊢
      have usedEq : (0 + 1460) % 2 ^ 16 = 1460 := rfl
      have quotient :
          (minWindow - 1460) / 1460 + 1 = minWindow / 1460 := by
        omega
      rw [usedEq] at shortRest ⊢
      cases short with
      | true =>
          simp only [true_iff, if_true, true_and] at shortRest ⊢
          omega
      | false =>
          simp only [Bool.false_eq_true, false_iff, if_false,
            false_and] at shortRest ⊢
          omega

end TxPlan

end TcpOffload
