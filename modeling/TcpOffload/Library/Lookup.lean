import Mathlib.Algebra.Order.Ring.Nat
import Mathlib.Data.List.Basic

/-!
# One outstanding lookup

A client and a table with a queue of requests between them and a queue of
answers back.  The client asks once, waits for the answer, and only then
writes; a lookup is thus answered when all writes before it are done.
`pending` says what is known of the writes on their way, `answer` what is
known of an answer that is not yet taken.
-/

namespace Lookup

universe u v

variable {Req : Type u} {Rsp : Type v}

/-- Not asked, asked behind the pending writes, or answered. -/
inductive Phase
    (pending : List Req → Prop) (answer : Rsp → Prop) (lookup : Req) :
    Bool → List Rsp → List Req → Prop
  | idle {writes : List Req} :
      pending writes → Phase pending answer lookup false [] writes
  | asked {writes : List Req} :
      pending writes →
      Phase pending answer lookup true [] (writes ++ [lookup])
  | answered {rsp : Rsp} :
      answer rsp → Phase pending answer lookup true [rsp] []

namespace Phase

variable {pending further : List Req → Prop}
variable {answer later : Rsp → Prop}
variable {lookup : Req} {sent : Bool} {rsps : List Rsp}
variable {reqs : List Req}

/-- What others do to the table, where the pending writes are the oldest of
the requests. -/
theorem mapPrefix
    (phase : Phase pending answer lookup sent rsps reqs)
    (writes :
      ∀ list rest, reqs = list ++ rest → pending list → further list)
    (answers : ∀ rsp, answer rsp → later rsp) :
    Phase further later lookup sent rsps reqs := by
  cases phase with
  | idle known =>
      exact idle (writes _ [] (List.append_nil _).symm known)
  | asked known =>
      exact asked (writes _ _ rfl known)
  | answered known =>
      exact answered (answers _ known)

theorem map
    (phase : Phase pending answer lookup sent rsps reqs)
    (writes : ∀ list, pending list → further list)
    (answers : ∀ rsp, answer rsp → later rsp) :
    Phase further later lookup sent rsps reqs :=
  phase.mapPrefix (fun list _ _ => writes list) answers

theorem of_idle
    (phase : Phase pending answer lookup false rsps reqs) :
    rsps = [] ∧ pending reqs := by
  cases phase with
  | idle known =>
      exact ⟨rfl, known⟩

/-- An answer can be taken only when no request is left. -/
theorem of_answered {rsp : Rsp} {rest : List Rsp}
    (phase : Phase pending answer lookup sent (rsp :: rest) reqs) :
    sent = true ∧ answer rsp ∧ rest = [] ∧ reqs = [] := by
  cases phase with
  | answered known =>
      exact ⟨rfl, known, rfl, rfl⟩

/-- With no request on its way, nothing was asked or the answer is there. -/
theorem of_empty
    (phase : Phase pending answer lookup sent rsps []) :
    sent = false ∧ rsps = [] ∨
      ∃ rsp, sent = true ∧ rsps = [rsp] ∧ answer rsp := by
  generalize noReqs : ([] : List Req) = list at phase
  cases phase with
  | idle =>
      exact Or.inl ⟨rfl, rfl⟩
  | @asked writes =>
      cases writes with
      | nil =>
          cases noReqs
      | cons =>
          cases noReqs
  | answered known =>
      exact Or.inr ⟨_, rfl, rfl, known⟩

/-- The oldest request, when it is not the lookup, is the oldest pending
write. -/
theorem of_write {req : Req}
    (phase : Phase pending answer lookup sent rsps (req :: reqs))
    (isWrite : req ≠ lookup) :
    ∃ rest, pending (req :: rest) := by
  generalize all : req :: reqs = list at phase
  cases phase with
  | idle known =>
      rw [← all] at known
      exact ⟨_, known⟩
  | @asked writes known =>
      cases writes with
      | nil =>
          exact absurd (List.cons.inj all).1 isWrite
      | cons first writes =>
          rw [← (List.cons.inj all).1] at known
          exact ⟨_, known⟩
  | answered =>
      cases all

/-- The table serves a write. -/
theorem serveWrite {req : Req}
    (phase : Phase pending answer lookup sent rsps (req :: reqs))
    (isWrite : req ≠ lookup)
    (served : ∀ rest, pending (req :: rest) → further rest) :
    Phase further later lookup sent rsps reqs := by
  generalize all : req :: reqs = list at phase
  cases phase with
  | idle known =>
      rw [← all] at known
      exact idle (served _ known)
  | @asked writes known =>
      cases writes with
      | nil =>
          exact absurd (List.cons.inj all).1 isWrite
      | cons first writes =>
          obtain ⟨isFirst, rest⟩ := List.cons.inj all
          rw [← isFirst] at known
          rw [rest]
          exact asked (served _ known)
  | answered =>
      cases all

/-- The oldest request is the lookup, which no pending write can be: it is
the only one left. -/
theorem of_lookup {req : Req}
    (phase : Phase pending answer lookup sent rsps (req :: reqs))
    (isLookup : ∀ writes, pending writes → req ∉ writes) :
    req = lookup ∧ sent = true ∧ rsps = [] ∧ reqs = [] ∧ pending [] := by
  generalize all : req :: reqs = list at phase
  cases phase with
  | idle known =>
      rw [← all] at known
      exact absurd List.mem_cons_self (isLookup _ known)
  | @asked writes known =>
      cases writes with
      | nil =>
          obtain ⟨isAsked, noneLeft⟩ := List.cons.inj all
          exact ⟨isAsked, rfl, rfl, noneLeft, known⟩
      | cons first writes =>
          rw [(List.cons.inj all).1] at isLookup
          exact absurd List.mem_cons_self (isLookup _ known)
  | answered =>
      cases all

/-- The table serves the lookup. -/
theorem serveLookup {req : Req}
    (phase : Phase pending answer lookup sent rsps (req :: reqs))
    (isLookup : ∀ writes, pending writes → req ∉ writes) :
    req = lookup ∧ pending [] ∧
      ∀ rsp, answer rsp →
        Phase pending answer lookup sent (rsps ++ [rsp]) reqs := by
  obtain ⟨isAsked, rfl, rfl, rfl, known⟩ := phase.of_lookup isLookup
  exact ⟨isAsked, known, fun rsp isAnswer => answered isAnswer⟩

/-- A request on its way that is not the lookup is a pending write. -/
theorem mem_pending {req : Req}
    (phase : Phase pending answer lookup sent rsps reqs)
    (member : req ∈ reqs) (isWrite : req ≠ lookup) :
    ∃ writes, pending writes ∧ req ∈ writes := by
  cases phase with
  | idle known =>
      exact ⟨_, known, member⟩
  | asked known =>
      rcases List.mem_append.1 member with earlier | last
      · exact ⟨_, known, earlier⟩
      · exact absurd (List.mem_singleton.1 last) isWrite
  | answered =>
      cases member

end Phase

/-- Writes on their way to the table.  One at most is the client's own on the
entry under study; with none on the way the entry is `settled`. -/
inductive Writes (settled : Prop) (other own : Req → Prop) :
    List Req → Prop
  | settled {writes : List Req} :
      settled →
      (∀ req ∈ writes, other req) →
      Writes settled other own writes
  | first {req : Req} {later : List Req} :
      own req →
      (∀ further ∈ later, other further) →
      Writes settled other own (req :: later)
  | behind {req : Req} {later : List Req} :
      other req →
      Writes settled other own later →
      Writes settled other own (req :: later)

namespace Writes

variable {settled further : Prop} {other own theirs : Req → Prop}
variable {writes : List Req}

theorem append_others {more : List Req}
    (known : Writes settled other own writes)
    (others : ∀ req ∈ more, other req) :
    Writes settled other own (writes ++ more) := by
  induction known with
  | settled isSettled noOwn =>
      refine Writes.settled isSettled fun req member => ?_
      rcases List.mem_append.1 member with earlier | last
      · exact noOwn req earlier
      · exact others req last
  | first isOwn noOwn =>
      refine Writes.first isOwn fun req member => ?_
      rcases List.mem_append.1 member with earlier | last
      · exact noOwn req earlier
      · exact others req last
  | behind isOther _ inductionHypothesis =>
      exact Writes.behind isOther inductionHypothesis

theorem map
    (known : Writes settled other own writes)
    (settledToo : settled → further)
    (ownToo : ∀ req, own req → theirs req) :
    Writes further other theirs writes := by
  induction known with
  | settled isSettled noOwn =>
      exact Writes.settled (settledToo isSettled) noOwn
  | first isOwn noOwn =>
      exact Writes.first (ownToo _ isOwn) noOwn
  | behind isOther _ inductionHypothesis =>
      exact Writes.behind isOther inductionHypothesis

/-- The oldest write is another entry's, or it is the only own one. -/
theorem served {req : Req}
    (known : Writes settled other own (req :: writes)) :
    (other req ∧ Writes settled other own writes) ∨
      (own req ∧ ∀ further ∈ writes, other further) := by
  cases known with
  | settled isSettled noOwn =>
      exact
        Or.inl
          ⟨noOwn req List.mem_cons_self,
            Writes.settled isSettled fun later member =>
              noOwn later (List.mem_cons_of_mem req member)⟩
  | first isOwn noOwn =>
      exact Or.inr ⟨isOwn, noOwn⟩
  | behind isOther rest =>
      exact Or.inl ⟨isOther, rest⟩

theorem of_nil (known : Writes settled other own []) : settled := by
  cases known with
  | settled isSettled _ =>
      exact isSettled

theorem of_mem {req : Req}
    (known : Writes settled other own writes) (member : req ∈ writes) :
    other req ∨ own req := by
  induction known with
  | settled _ noOwn =>
      exact Or.inl (noOwn req member)
  | first isOwn noOwn =>
      rcases List.mem_cons.1 member with isFirst | later
      · rw [isFirst]
        exact Or.inr isOwn
      · exact Or.inl (noOwn req later)
  | behind isOther _ inductionHypothesis =>
      rcases List.mem_cons.1 member with isFirst | later
      · rw [isFirst]
        exact Or.inl isOther
      · exact inductionHypothesis later

end Writes

end Lookup
