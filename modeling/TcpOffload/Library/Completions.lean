import Mathlib.Data.List.Induction
import TcpOffload.Library.Process

/-!
# Completions matched by counting

A handler passes the entries of a queue on.  An entry with a write is held
until the statuses of its write are back, one of them or, where the write was
split, two.  The statuses say nothing about the write they belong to: the
handler takes them in order, and one it leaves behind is the first of the
next entry.
-/

namespace Completions

open Clocked

universe u v

/-- What comes back for one write. -/
inductive Answer (Status : Type v) where
  | whole (status : Status)
  | split (first second : Status)
deriving Repr

namespace Answer

variable {Status : Type v}

def isSplit : Answer Status → Bool
  | whole _ => false
  | split _ _ => true

def statuses : Answer Status → List Status
  | whole status => [status]
  | split first second => [first, second]

def allOkay (okay : Status → Bool) (answer : Answer Status) : Bool :=
  answer.statuses.all okay

/-- The first of two statuses is an error. -/
def firstFails (okay : Status → Bool) : Answer Status → Bool
  | whole _ => false
  | split first _ => !okay first

end Answer

/-- An entry of the queue with the answer to its write. -/
inductive Item {Entry : Type u} (hasWrite : Entry → Bool)
    (Status : Type v) where
  | plain (entry : Entry) (noWrite : hasWrite entry = false)
  | written (entry : Entry) (someWrite : hasWrite entry = true)
      (answer : Answer Status)

namespace Item

variable {Entry : Type u} {Status : Type v} {hasWrite : Entry → Bool}

def entry : Item hasWrite Status → Entry
  | plain entry _ => entry
  | written entry _ _ => entry

def flags : Item hasWrite Status → List Bool
  | plain _ _ => []
  | written _ _ answer => [answer.isSplit]

def statuses : Item hasWrite Status → List Status
  | plain _ _ => []
  | written _ _ answer => answer.statuses

/-- The entry, if every status of its write is okay. -/
def forwarded (okay : Status → Bool) : Item hasWrite Status → List Entry
  | plain entry _ => [entry]
  | written entry _ answer => if answer.allOkay okay then [entry] else []

def firstFails (okay : Status → Bool) : Item hasWrite Status → Bool
  | plain _ _ => false
  | written _ _ answer => answer.firstFails okay

end Item

/-! ## The handler -/

inductive Phase (Entry : Type u) where
  | idle
  | first (held : Entry)
  | second (held : Entry)
deriving DecidableEq, Repr

structure Handler (Entry : Type u) (Status : Type v) where
  phase : Phase Entry
  entries : List Entry
  flags : List Bool
  statuses : List Status
deriving DecidableEq, Repr

variable {Entry : Type u} {Status : Type v}

/-- One call.  An error of the first status drops the entry at once. -/
def handle
    (hasWrite : Entry → Bool) (okay : Status → Bool)
    (handler : Handler Entry Status) :
    Handler Entry Status × List Entry :=
  match handler.phase with
  | .idle =>
      match handler.entries with
      | [] => (handler, [])
      | entry :: later =>
          if hasWrite entry then
            ({ handler with phase := .first entry, entries := later }, [])
          else
            ({ handler with entries := later }, [entry])
  | .first held =>
      match handler.flags, handler.statuses with
      | flag :: laterFlags, status :: later =>
          let next :=
            { handler with flags := laterFlags, statuses := later }
          if okay status then
            if flag then
              ({ next with phase := .second held }, [])
            else
              ({ next with phase := .idle }, [held])
          else
            ({ next with phase := .idle }, [])
      | _, _ => (handler, [])
  | .second held =>
      match handler.statuses with
      | [] => (handler, [])
      | status :: later =>
          ({ handler with phase := .idle, statuses := later },
            if okay status then [held] else [])

variable {hasWrite : Entry → Bool} {okay : Status → Bool}

/-- Between two entries, with what belongs to the items in the queues. -/
def Handler.waiting (items : List (Item hasWrite Status)) :
    Handler Entry Status where
  phase := .idle
  entries := items.map Item.entry
  flags := items.flatMap Item.flags
  statuses := items.flatMap Item.statuses

/-- The handler takes the answer of each item with its entry, and passes the
entry on if nothing in the answer is an error. -/
def Matched (hasWrite : Entry → Bool) (okay : Status → Bool)
    (items : List (Item hasWrite Status)) : Prop :=
  ∀ before after,
    items = before ++ after →
      Runs (handle hasWrite okay) (Handler.waiting items)
        (before.flatMap (Item.forwarded okay))
        (Handler.waiting after)

/-! ## One item -/

/-- An entry with a write is taken with its flag. -/
theorem handle_written {entry : Entry} (after : List (Item hasWrite Status))
    (someWrite : hasWrite entry = true) (answer : Answer Status) :
    handle hasWrite okay
        (Handler.waiting (Item.written entry someWrite answer :: after)) =
      ({ Handler.waiting after with
          phase := .first entry
          flags := answer.isSplit :: after.flatMap Item.flags
          statuses := answer.statuses ++ after.flatMap Item.statuses },
        []) := by
  simp [handle, Handler.waiting, Item.entry, Item.flags, Item.statuses,
    someWrite]

theorem runs_item
    {item : Item hasWrite Status} (after : List (Item hasWrite Status))
    (noFirstError : item.firstFails okay = false) :
    Runs (handle hasWrite okay) (Handler.waiting (item :: after))
      (item.forwarded okay) (Handler.waiting after) := by
  cases item with
  | plain entry noWrite =>
      have call :
          handle hasWrite okay
              (Handler.waiting (Item.plain entry noWrite :: after)) =
            (Handler.waiting after, [entry]) := by
        simp [handle, Handler.waiting, Item.entry, Item.flags,
          Item.statuses, noWrite]
      exact Runs.single call
  | written entry someWrite answer =>
      cases answer with
      | whole status =>
          have answered :
              handle hasWrite okay
                  { Handler.waiting after with
                    phase := .first entry
                    flags := false :: after.flatMap Item.flags
                    statuses := status :: after.flatMap Item.statuses } =
                (Handler.waiting after,
                  Item.forwarded okay
                    (Item.written entry someWrite (.whole status))) := by
            by_cases fine : okay status = true <;>
              simp [handle, Handler.waiting, Item.forwarded,
                Answer.allOkay, Answer.statuses, fine]
          exact
            Runs.silent (handle_written after someWrite _)
              (Runs.single answered)
      | split first second =>
          have fine : okay first = true := by
            simpa [Item.firstFails, Answer.firstFails] using noFirstError
          have half :
              handle hasWrite okay
                  { Handler.waiting after with
                    phase := .first entry
                    flags := true :: after.flatMap Item.flags
                    statuses :=
                      first :: second :: after.flatMap Item.statuses } =
                ({ Handler.waiting after with
                    phase := .second entry
                    statuses := second :: after.flatMap Item.statuses },
                  []) := by
            simp [handle, Handler.waiting, fine]
          have answered :
              handle hasWrite okay
                  { Handler.waiting after with
                    phase := .second entry
                    statuses := second :: after.flatMap Item.statuses } =
                (Handler.waiting after,
                  Item.forwarded okay
                    (Item.written entry someWrite
                      (.split first second))) := by
            simp [handle, Handler.waiting, Item.forwarded,
              Answer.allOkay, Answer.statuses, fine]
          exact
            Runs.silent (handle_written after someWrite _)
              (Runs.silent half (Runs.single answered))

/-- Behind an error of the first of two statuses the second one is left. -/
theorem runs_firstFails
    {item : Item hasWrite Status} (after : List (Item hasWrite Status))
    (firstError : item.firstFails okay = true) :
    ∃ left,
      Runs (handle hasWrite okay) (Handler.waiting (item :: after)) []
        { Handler.waiting after with
          statuses := left :: after.flatMap Item.statuses } := by
  cases item with
  | plain entry noWrite =>
      cases firstError
  | written entry someWrite answer =>
      cases answer with
      | whole status =>
          cases firstError
      | split first second =>
          have failed : okay first = false := by
            simpa [Item.firstFails, Answer.firstFails] using firstError
          have dropped :
              handle hasWrite okay
                  { Handler.waiting after with
                    phase := .first entry
                    flags := true :: after.flatMap Item.flags
                    statuses :=
                      first :: second :: after.flatMap Item.statuses } =
                ({ Handler.waiting after with
                    statuses := second :: after.flatMap Item.statuses },
                  []) := by
            simp [handle, Handler.waiting, failed]
          exact
            ⟨second,
              Runs.silent (handle_written after someWrite _)
                (Runs.single dropped)⟩

theorem runs_items
    {items : List (Item hasWrite Status)}
    (after : List (Item hasWrite Status))
    (noFirstErrors : ∀ item ∈ items, item.firstFails okay = false) :
    Runs (handle hasWrite okay) (Handler.waiting (items ++ after))
      (items.flatMap (Item.forwarded okay)) (Handler.waiting after) := by
  induction items with
  | nil =>
      exact Runs.refl _
  | cons item items inductionHypothesis =>
      rw [List.forall_mem_cons] at noFirstErrors
      rw [List.flatMap_cons]
      exact
        (runs_item (items ++ after) noFirstErrors.1).trans
          (inductionHypothesis noFirstErrors.2)

/-! ## What is left behind -/

/-- No call puts anything back into the queues. -/
theorem handle_length (handler : Handler Entry Status) :
    (handle hasWrite okay handler).1.entries.length ≤
        handler.entries.length ∧
      (handle hasWrite okay handler).1.statuses.length ≤
        handler.statuses.length := by
  rcases handler with ⟨phase, entries, flags, statuses⟩
  cases phase with
  | idle =>
      cases entries with
      | nil =>
          exact ⟨Nat.le_refl _, Nat.le_refl _⟩
      | cons entry later =>
          by_cases some : hasWrite entry = true <;>
            simp [handle, some]
  | first held =>
      cases flags with
      | nil =>
          exact ⟨Nat.le_refl _, Nat.le_refl _⟩
      | cons flag laterFlags =>
          cases statuses with
          | nil =>
              exact ⟨Nat.le_refl _, Nat.le_refl _⟩
          | cons status later =>
              by_cases fine : okay status = true <;>
                cases flag <;> simp [handle, fine]
  | second held =>
      cases statuses with
      | nil =>
          exact ⟨Nat.le_refl _, Nat.le_refl _⟩
      | cons status later =>
          exact ⟨Nat.le_refl _, Nat.le_succ _⟩

theorem runs_length
    {handler final : Handler Entry Status} {written : List Entry}
    (run : Runs (handle hasWrite okay) handler written final) :
    final.entries.length ≤ handler.entries.length ∧
      final.statuses.length ≤ handler.statuses.length := by
  have kept :
      ∀ state : Handler Entry Status,
        (state.entries.length ≤ handler.entries.length ∧
            state.statuses.length ≤ handler.statuses.length) →
          (handle hasWrite okay state).1.entries.length ≤
              handler.entries.length ∧
            (handle hasWrite okay state).1.statuses.length ≤
              handler.statuses.length := by
    intro state inside
    have shorter := @handle_length _ _ hasWrite okay state
    exact
      ⟨Nat.le_trans shorter.1 inside.1, Nat.le_trans shorter.2 inside.2⟩
  exact
    (run.written_of_invariant kept
      (fun _ _ _ _ => (trivial : (fun _ => True) _))
      ⟨Nat.le_refl _, Nat.le_refl _⟩).1

/-- From one entry to the next the handler goes on, unless it is idle. -/
theorem idle_or_shorter
    {handler final : Handler Entry Status} {written : List Entry}
    (idle : handler.phase = .idle)
    (run : Runs (handle hasWrite okay) handler written final) :
    final = handler ∨ final.entries.length < handler.entries.length := by
  obtain ⟨count, reached⟩ := run
  cases entriesAre : handler.entries with
  | nil =>
      have stays : Idle (handle hasWrite okay) handler := by
        simp [Idle, handle, idle, entriesAre]
      rw [calls_of_idle stays, Prod.mk.injEq] at reached
      exact Or.inl reached.1.symm
  | cons entry later =>
      cases count with
      | zero =>
          rw [calls_zero, Prod.mk.injEq] at reached
          exact Or.inl reached.1.symm
      | succ count =>
          rw [calls_succ, Prod.mk.injEq] at reached
          have rest :=
            (runs_length ⟨count, Prod.ext reached.1 rfl⟩).1
          have popped :
              (handle hasWrite okay handler).1.entries = later := by
            by_cases some : hasWrite entry = true <;>
              simp [handle, idle, entriesAre, some]
          rw [popped] at rest
          exact Or.inr (Nat.lt_succ_of_le rest)

/-- Where the handler comes to wait with the rest of the items after each of
them, no first status was an error. -/
theorem noFirstErrors_of_reaches
    {items : List (Item hasWrite Status)}
    (reaches :
      ∀ before after, items = before ++ after →
        ∃ written,
          Runs (handle hasWrite okay) (Handler.waiting items) written
            (Handler.waiting after)) :
    ∀ item ∈ items, item.firstFails okay = false := by
  have upTo :
      ∀ before after, items = before ++ after →
        ∀ item ∈ before, item.firstFails okay = false := by
    intro before
    induction before using List.reverseRecOn with
    | nil =>
        intro after _ item member
        cases member
    | append_singleton before item inductionHypothesis =>
        intro after parts
        have parted := parts.trans (List.append_cons before item after).symm
        have noEarlier := inductionHypothesis (item :: after) parted
        refine
          List.forall_mem_append.2
            ⟨noEarlier, List.forall_mem_singleton.2 ?_⟩
        by_contra someError
        obtain ⟨left, shifted⟩ :=
          runs_firstFails after (Bool.eq_true_of_not_eq_false someError)
        have stuck :
            Runs (handle hasWrite okay) (Handler.waiting items) _ _ :=
          parted ▸ (runs_items (item :: after) noEarlier).trans shifted
        obtain ⟨written, reached⟩ := reaches (before ++ [item]) after parts
        rcases stuck.continues reached with ⟨later, run⟩ | ⟨later, run⟩
        · rcases idle_or_shorter rfl run with same | shorter
          · have statuses :=
              congrArg (fun handler => handler.statuses.length) same
            exact Nat.succ_ne_self _ statuses.symm
          · exact Nat.lt_irrefl _ shorter
        · exact Nat.not_succ_le_self _ (runs_length run).2
  exact upTo items [] (List.append_nil items).symm

theorem matched_iff (items : List (Item hasWrite Status)) :
    Matched hasWrite okay items ↔
      ∀ item ∈ items, item.firstFails okay = false := by
  constructor
  · intro isMatched
    exact
      noFirstErrors_of_reaches fun before after parts =>
        ⟨_, isMatched before after parts⟩
  · rintro noFirstErrors before after rfl
    exact
      runs_items after fun item member =>
        noFirstErrors item (List.mem_append_left after member)

end Completions
