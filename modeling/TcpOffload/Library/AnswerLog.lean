import Mathlib.Algebra.Order.Ring.Nat
import Mathlib.Data.List.Basic

/-!
# A log of jobs and their answers

Jobs are done in order, and each of them is answered a number of times.  The
answers name no job: the log puts the next one down for the first job that
lacks one.
-/

namespace AnswerLog

universe u

structure Entry (Job : Type u) where
  job : Job
  answers : List Bool
deriving DecidableEq, Repr

variable {Job : Type u}

def jobs (log : List (Entry Job)) : List Job :=
  log.map Entry.job

/-- All answers of a log, in order. -/
def answers (log : List (Entry Job)) : List Bool :=
  log.flatMap Entry.answers

variable (needs : Job → Nat)

def Entry.Full (entry : Entry Job) : Prop :=
  entry.answers.length = needs entry.job

def Entry.AllOkay (entry : Entry Job) : Prop :=
  entry.answers = List.replicate (needs entry.job) true

instance (entry : Entry Job) : Decidable (entry.AllOkay needs) :=
  inferInstanceAs (Decidable (_ = _))

/-- The answers that a list of jobs needs. -/
def total (jobs : List Job) : Nat :=
  (jobs.map needs).sum

def record (okay : Bool) : List (Entry Job) → List (Entry Job)
  | [] => []
  | entry :: later =>
      if entry.answers.length < needs entry.job then
        { entry with answers := entry.answers ++ [okay] } :: later
      else
        entry :: record okay later

/-- Behind the first job that lacks an answer there are none. -/
inductive Filling : List (Entry Job) → Prop
  | nil : Filling []
  | full {entry : Entry Job} {later : List (Entry Job)} :
      entry.Full needs →
      Filling later →
      Filling (entry :: later)
  | filling {entry : Entry Job} {later : List (Entry Job)} :
      entry.answers.length < needs entry.job →
      (∀ other ∈ later, other.answers = []) →
      Filling (entry :: later)

variable {needs}

theorem Entry.AllOkay.full
    {entry : Entry Job} (allOkay : entry.AllOkay needs) :
    entry.Full needs := by
  rw [Full, allOkay, List.length_replicate]

theorem answers_of_none
    {log : List (Entry Job)} (none : ∀ entry ∈ log, entry.answers = []) :
    answers log = [] :=
  List.flatMap_eq_nil_iff.2 none

namespace Filling

variable {log : List (Entry Job)}

theorem ofNone
    (none : ∀ entry ∈ log, entry.answers = []) :
    Filling needs log := by
  induction log with
  | nil =>
      exact Filling.nil
  | cons entry later inductionHypothesis =>
      rw [List.forall_mem_cons] at none
      by_cases noNeed : needs entry.job = 0
      · refine Filling.full ?_ (inductionHypothesis none.2)
        rw [Entry.Full, none.1, noNeed]
        rfl
      · refine Filling.filling ?_ none.2
        rw [none.1]
        exact Nat.pos_of_ne_zero noNeed

/-- A job is added at the end. -/
theorem push (filling : Filling needs log) (job : Job) :
    Filling needs (log ++ [⟨job, []⟩]) := by
  induction filling with
  | nil =>
      exact ofNone (List.forall_mem_singleton.2 rfl)
  | full isFull _ inductionHypothesis =>
      exact Filling.full isFull inductionHypothesis
  | filling lacks none =>
      exact
        Filling.filling lacks
          (List.forall_mem_append.2
            ⟨none, List.forall_mem_singleton.2 rfl⟩)

theorem record (filling : Filling needs log) (okay : Bool) :
    Filling needs (record needs okay log) := by
  induction filling with
  | nil =>
      exact Filling.nil
  | @full entry later isFull _ inductionHypothesis =>
      have noLack : ¬ entry.answers.length < needs entry.job := by
        rw [Entry.Full] at isFull
        omega
      rw [AnswerLog.record, if_neg noLack]
      exact Filling.full isFull inductionHypothesis
  | @filling entry later lacks none =>
      rw [AnswerLog.record, if_pos lacks]
      by_cases nowFull : entry.answers.length + 1 = needs entry.job
      · refine Filling.full ?_ (ofNone none)
        rw [Entry.Full, List.length_append]
        exact nowFull
      · refine Filling.filling ?_ none
        rw [List.length_append, List.length_singleton]
        dsimp only
        omega

theorem tail
    {entry : Entry Job} {later : List (Entry Job)}
    (filling : Filling needs (entry :: later)) :
    Filling needs later := by
  cases filling with
  | full _ rest =>
      exact rest
  | filling _ none =>
      exact ofNone none

/-- With an answer behind those of the first job, that job has all of its. -/
theorem head_full
    {entry : Entry Job} {later : List (Entry Job)}
    (filling : Filling needs (entry :: later))
    (more : answers later ≠ []) :
    entry.Full needs := by
  cases filling with
  | full isFull _ =>
      exact isFull
  | filling _ none =>
      exact absurd (answers_of_none none) more

/-- So it has when there are as many answers as it needs. -/
theorem head_full_of_length
    {entry : Entry Job} {later : List (Entry Job)}
    (filling : Filling needs (entry :: later))
    (enough : needs entry.job ≤ (answers (entry :: later)).length) :
    entry.Full needs := by
  cases filling with
  | full isFull _ =>
      exact isFull
  | filling lacks none =>
      have noMore := answers_of_none none
      rw [answers] at noMore
      rw [answers, List.flatMap_cons, noMore, List.append_nil] at enough
      exact absurd enough (Nat.not_le.2 lacks)

/-- While answers are missing, the next one comes behind the others. -/
theorem answers_record
    (filling : Filling needs log) (okay : Bool)
    (missing : (answers log).length < total needs (jobs log)) :
    answers (AnswerLog.record needs okay log) = answers log ++ [okay] := by
  induction filling with
  | nil =>
      exact absurd missing (Nat.lt_irrefl 0)
  | @full entry later isFull _ inductionHypothesis =>
      have noLack : ¬ entry.answers.length < needs entry.job := by
        rw [Entry.Full] at isFull
        omega
      rw [Entry.Full] at isFull
      simp only [answers, jobs, total, List.flatMap_cons, List.map_cons,
        List.sum_cons, List.length_append] at missing
      rw [AnswerLog.record, if_neg noLack]
      simp only [answers, List.flatMap_cons] at inductionHypothesis ⊢
      rw [inductionHypothesis, List.append_assoc]
      simp only [jobs, total]
      omega
  | @filling entry later lacks none =>
      rw [AnswerLog.record, if_pos lacks]
      have noMore := answers_of_none none
      rw [answers] at noMore
      simp only [answers, List.flatMap_cons, noMore, List.append_nil]

end Filling

variable {log : List (Entry Job)}

theorem jobs_record (okay : Bool) (log : List (Entry Job)) :
    jobs (record needs okay log) = jobs log := by
  induction log with
  | nil =>
      rfl
  | cons entry later inductionHypothesis =>
      rw [record]
      split
      · rfl
      · exact congrArg (entry.job :: ·) inductionHypothesis

theorem record_append_of_full
    {closed : List (Entry Job)}
    (full : ∀ entry ∈ closed, entry.Full needs) (okay : Bool)
    (log : List (Entry Job)) :
    record needs okay (closed ++ log) = closed ++ record needs okay log := by
  induction closed with
  | nil =>
      rfl
  | cons entry closed inductionHypothesis =>
      rw [List.forall_mem_cons] at full
      have noLack : ¬ entry.answers.length < needs entry.job := by
        have isFull := full.1
        rw [Entry.Full] at isFull
        omega
      rw [List.cons_append, record, if_neg noLack,
        inductionHypothesis full.2]
      rfl

/-- While answers are missing in the first part of a log, the next one comes
there. -/
theorem record_append_of_missing
    {part : List (Entry Job)}
    (missing : (answers part).length < total needs (jobs part))
    (okay : Bool) (log : List (Entry Job)) :
    record needs okay (part ++ log) = record needs okay part ++ log := by
  induction part with
  | nil =>
      exact absurd missing (Nat.lt_irrefl 0)
  | cons entry part inductionHypothesis =>
      rw [List.cons_append, record, record]
      split
      · rfl
      · rename_i noLack
        simp only [answers, jobs, total, List.flatMap_cons, List.map_cons,
          List.sum_cons, List.length_append] at missing
        rw [inductionHypothesis (by
          simp only [answers, jobs, total]
          omega)]
        rfl

/-- With okay answers only, a log has no other ones. -/
theorem record_okay
    {log : List (Entry Job)}
    (okay : ∀ entry ∈ log, ∀ answer ∈ entry.answers, answer = true) :
    ∀ entry ∈ record needs true log,
      ∀ answer ∈ entry.answers, answer = true := by
  induction log with
  | nil =>
      exact okay
  | cons entry later inductionHypothesis =>
      rw [List.forall_mem_cons] at okay
      rw [record]
      split
      · refine List.forall_mem_cons.2 ⟨?_, okay.2⟩
        exact
          List.forall_mem_append.2
            ⟨okay.1, List.forall_mem_singleton.2 rfl⟩
      · exact
          List.forall_mem_cons.2 ⟨okay.1, inductionHypothesis okay.2⟩

/-- An initial part of the log whose jobs of one kind are all okay stays
one. -/
theorem record_keepsOkay
    {passed rest : List (Entry Job)} {ofKind : Job → Prop}
    (allOkay : ∀ entry ∈ passed, ofKind entry.job → entry.AllOkay needs)
    (okay : Bool) :
    ∃ stillPassed stillRest,
      record needs okay (passed ++ rest) = stillPassed ++ stillRest ∧
      jobs stillPassed = jobs passed ∧
      ∀ entry ∈ stillPassed,
        ofKind entry.job → entry.AllOkay needs := by
  induction passed with
  | nil =>
      exact ⟨[], record needs okay rest, rfl, rfl, nofun⟩
  | cons entry passed inductionHypothesis =>
      rw [List.forall_mem_cons] at allOkay
      rw [List.cons_append, record]
      split
      · rename_i lacks
        refine
          ⟨{ entry with answers := entry.answers ++ [okay] } :: passed,
            rest, rfl, rfl, List.forall_mem_cons.2 ⟨?_, allOkay.2⟩⟩
        intro isOfKind
        have isFull := (allOkay.1 isOfKind).full
        rw [Entry.Full] at isFull
        omega
      · obtain ⟨stillPassed, stillRest, parts, sameJobs, stillOkay⟩ :=
          inductionHypothesis allOkay.2
        exact
          ⟨entry :: stillPassed, stillRest,
            congrArg (entry :: ·) parts,
            congrArg (entry.job :: ·) sameJobs,
            List.forall_mem_cons.2 ⟨allOkay.1, stillOkay⟩⟩

end AnswerLog
