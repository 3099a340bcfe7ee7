import Mathlib.Logic.Function.Basic

/-!
# A store with a queue of writes

What a store holds once the writes queued for it are done.  Serving the queue
does not change that; only what is queued anew does.
-/

namespace PendingWrites

universe u v

variable {Key : Type u} {Value : Type v} [DecidableEq Key]

def settle
    (store : Key → Value) (writes : List (Key × Value)) : Key → Value :=
  writes.foldl (fun held write => Function.update held write.1 write.2)
    store

variable (store : Key → Value)

/-- Serving the first write. -/
theorem settle_cons (key : Key) (value : Value)
    (writes : List (Key × Value)) :
    settle store ((key, value) :: writes) =
      settle (Function.update store key value) writes :=
  rfl

/-- Queueing one more. -/
theorem settle_push (writes : List (Key × Value)) (key : Key)
    (value : Value) :
    settle store (writes ++ [(key, value)]) =
      Function.update (settle store writes) key value :=
  List.foldl_append

/-- A key without a queued write. -/
theorem settle_of_noWrite
    {writes : List (Key × Value)} {key : Key}
    (noWrite : ∀ write ∈ writes, write.1 ≠ key) :
    settle store writes key = store key := by
  induction writes generalizing store with
  | nil =>
      rfl
  | cons write writes inductionHypothesis =>
      rw [List.forall_mem_cons] at noWrite
      rw [settle_cons, inductionHypothesis _ noWrite.2,
        Function.update_of_ne noWrite.1.symm]

end PendingWrites
