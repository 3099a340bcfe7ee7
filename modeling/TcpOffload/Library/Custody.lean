import Mathlib.Algebra.BigOperators.Group.Finset.Piecewise
import Mathlib.Algebra.Order.BigOperators.Group.Finset
import Mathlib.Algebra.Order.Ring.Nat
import Mathlib.Data.Fintype.Basic
import Mathlib.Data.List.Count

/-!
# Tokens in the custody of places

Each place holds a list of tokens.  A step hands one token from a place to
another, or it only changes the order in which a place holds its tokens; how
often a token is held anywhere stays the same.
-/

namespace Custody

universe u v

variable {Place : Type u} {Token : Type v}

/-- The order of tokens may change, and nothing else. -/
def Keeps (held next : Place → List Token) : Prop :=
  ∀ place, (next place).Perm (held place)

/-- One token goes from the source to the target. -/
structure Moves
    (held next : Place → List Token) (token : Token)
    (source target : Place) : Prop where
  apart : source ≠ target
  leaves : (held source).Perm (token :: next source)
  arrives : (next target).Perm (token :: held target)
  others :
    ∀ place, place ≠ source → place ≠ target →
      (next place).Perm (held place)

variable [Fintype Place]

/-- The number of tokens with a property, in all places. -/
def amount (counts : Token → Bool) (held : Place → List Token) : Nat :=
  ∑ place, (held place).countP counts

variable {held next : Place → List Token}

theorem Keeps.amount_eq
    (keeps : Keeps held next) (counts : Token → Bool) :
    amount counts next = amount counts held := by
  apply Finset.sum_congr rfl
  intro place _
  exact (keeps place).countP_eq counts

/-- What one place loses another gains. -/
theorem Moves.amount_eq [DecidableEq Place]
    {token : Token} {source target : Place}
    (moves : Moves held next token source target)
    (counts : Token → Bool) :
    amount counts next = amount counts held := by
  let weight := if counts token then 1 else 0
  have balance (place : Place) :
      (next place).countP counts + (if place = source then weight else 0) =
        (held place).countP counts +
          if place = target then weight else 0 := by
    by_cases isSource : place = source
    · have leaves := moves.leaves.countP_eq counts
      rw [List.countP_cons] at leaves
      rw [isSource, if_pos rfl, if_neg moves.apart, leaves]
      rfl
    · by_cases isTarget : place = target
      · have arrives := moves.arrives.countP_eq counts
        rw [List.countP_cons] at arrives
        rw [isTarget, if_pos rfl, if_neg moves.apart.symm, arrives]
        rfl
      · rw [if_neg isSource, if_neg isTarget,
          (moves.others place isSource isTarget).countP_eq counts]
  have sum := Finset.sum_congr rfl fun place (_ : place ∈ Finset.univ) =>
    balance place
  rw [Finset.sum_add_distrib, Finset.sum_add_distrib,
    Finset.sum_ite_eq' Finset.univ source, if_pos (Finset.mem_univ _),
    Finset.sum_ite_eq' Finset.univ target,
    if_pos (Finset.mem_univ _)] at sum
  exact Nat.add_right_cancel sum

section Copies

variable [DecidableEq Token]

/-- How often a token is held anywhere. -/
def copies (held : Place → List Token) (token : Token) : Nat :=
  amount (· == token) held

theorem mem_of_copies {token : Token} (none : copies held token = 0)
    (place : Place) : token ∉ held place := by
  have all := Finset.sum_eq_zero_iff.1 none
  exact List.count_eq_zero.1 (all place (Finset.mem_univ _))

/-- A token that is held in one place is in no other. -/
theorem not_mem_of_mem [DecidableEq Place]
    {token : Token} {place other : Place}
    (once : copies held token ≤ 1) (member : token ∈ held place)
    (isOther : other ≠ place) : token ∉ held other := by
  intro again
  have here := List.count_pos_iff.2 member
  have there := List.count_pos_iff.2 again
  have both :
      (held other).count token + (held place).count token ≤
        ∑ each, (held each).count token :=
    Finset.add_le_sum
      (fun each _ => Nat.zero_le ((held each).count token))
      (Finset.mem_univ other) (Finset.mem_univ place) isOther
  change ∑ each, (held each).count token ≤ 1 at once
  omega

/-- A token with one copy is in one place. -/
theorem of_copies_one [DecidableEq Place]
    {token : Token} (once : copies held token = 1) :
    ∃ place,
      (held place).count token = 1 ∧
        ∀ other, other ≠ place → token ∉ held other := by
  have some : ∃ place, token ∈ held place := by
    by_contra none
    have nowhere : copies held token = 0 := by
      apply Finset.sum_eq_zero
      intro place _
      exact List.count_eq_zero.2 fun member => none ⟨place, member⟩
    omega
  obtain ⟨place, member⟩ := some
  have here := List.count_pos_iff.2 member
  have atMost :
      (held place).count token ≤ ∑ each, (held each).count token :=
    Finset.single_le_sum
      (fun each _ => Nat.zero_le ((held each).count token))
      (Finset.mem_univ place)
  change ∑ each, (held each).count token = 1 at once
  refine ⟨place, by omega, fun other isOther => ?_⟩
  exact not_mem_of_mem (Nat.le_of_eq once) member isOther

end Copies

end Custody
