import TcpOffload.Library.Guarded
import TcpOffload.PortTable

/-!
# Answers of `FreePortTable`

The table hands out the port under its cursor.  A request that meets a cursor
on an open port is consumed all the same, and the TX application waits for an
answer that never comes.
-/

namespace TcpOffload

open Guarded

/-- A request of the TX application as it was consumed: the table before and
after, and what was written to `ptable_to_tx_app_rsp`. -/
structure ServedOpen where
  role : NetAXISDest
  before : PortIndex → PortTableEntry
  answers : List TcpPortNumber
  after : PortIndex → PortTableEntry

namespace ServedOpen

/-- Some port is free when the request is consumed. -/
def HasFreePort (served : ServedOpen) : Prop :=
  ∃ index, (served.before index).isOpen = false

/-- One port of the upper half is the answer, free before and in use with the
role of the request after. -/
def Answered (served : ServedOpen) : Prop :=
  ∃ port : TcpPortNumber,
    0x8000 ≤ port ∧
    served.answers = [port] ∧
    (served.before (portIndex port)).isOpen = false ∧
    served.after =
      Function.update served.before (portIndex port) ⟨true, served.role⟩

end ServedOpen

/-- The port table with the requests consumed and the answers written so
far. -/
structure FreePortSystem where
  ptable : PortTableState
  served : List ServedOpen
  rsps : List TcpPortNumber

inductive FreePortAction where
  | freePortTable (full : Bool)
  | releasePort (port : TcpPortNumber)
  | checkUsed (index : PortIndex)
  | openPort (role : NetAXISDest)
deriving DecidableEq, Repr

def PortTableMsg.txAppPort : PortTableMsg → Option TcpPortNumber
  | .txAppRsp port => some port
  | _ => none

/-- The request that the next call consumes. -/
def PortTableState.takenReq (state : PortTableState) :
    Option NetAXISDest :=
  match state.slookupReleasePortReqs, state.checkUsedReqs,
    state.txAppReqs with
  | [], [], role :: _ => some role
  | _, _, _ => none

namespace FreePortSystem

def start : FreePortSystem where
  ptable := PortTableState.start
  served := []
  rsps := []

def call (system : FreePortSystem) (full : Bool) : FreePortSystem :=
  let next := TcpOffload.freePortTable full system.ptable
  let answers := next.2.filterMap PortTableMsg.txAppPort
  { ptable := next.1
    served :=
      system.served ++
        (system.ptable.takenReq.map fun role =>
          ⟨role, system.ptable.freePortTable, answers,
            next.1.freePortTable⟩).toList
    rsps := system.rsps ++ answers }

def act (system : FreePortSystem) : FreePortAction → FreePortSystem
  | .freePortTable full => system.call full
  | .releasePort port =>
      { system with
        ptable :=
          { system.ptable with
            slookupReleasePortReqs :=
              system.ptable.slookupReleasePortReqs ++ [port] } }
  | .checkUsed index =>
      { system with
        ptable :=
          { system.ptable with
            checkUsedReqs := system.ptable.checkUsedReqs ++ [index] } }
  | .openPort role =>
      { system with
        ptable :=
          { system.ptable with
            txAppReqs := system.ptable.txAppReqs ++ [role] } }

/-- The answers are those of the consumed requests, in order, and every
request that was consumed while a port was free has its one. -/
structure OneToOne (system : FreePortSystem) : Prop where
  inOrder : system.rsps = system.served.flatMap ServedOpen.answers
  answered :
    ∀ served ∈ system.served, served.HasFreePort → served.Answered

/-- A request is consumed without its answer. -/
def LeavesOpen (system : FreePortSystem) : Prop :=
  ∃ served ∈ system.served, served.HasFreePort ∧ ¬ served.Answered

end FreePortSystem

def FreePortStep
    (system : FreePortSystem) (action : FreePortAction)
    (next : FreePortSystem) : Prop :=
  next = system.act action

/-- When a request is consumed and some port is free, it is the one under the
cursor, and there is room for the answer. -/
def FindsFree (system : FreePortSystem) : FreePortAction → Prop
  | .freePortTable full =>
      system.ptable.takenReq ≠ none →
      (∃ index, (system.ptable.freePortTable index).isOpen = false) →
        (system.ptable.freePortTable
            system.ptable.ptCursor).isOpen = false ∧
          full = false
  | _ => True

/-! ## One call -/

section Call

variable {state : PortTableState} {full : Bool} {role : NetAXISDest}

theorem freePortTable_idle (none : state.takenReq = none) :
    (freePortTable full state).2.filterMap PortTableMsg.txAppPort = [] := by
  rw [PortTableState.takenReq] at none
  rw [freePortTable]
  split
  · split
    · rfl
    · rfl
  · rfl
  · rename_i releases checks reqs
    rw [releases, checks, reqs] at none
    cases none
  · rfl

theorem freePortTable_taken (taken : state.takenReq = some role) :
    let used := (state.freePortTable state.ptCursor).isOpen
    ((freePortTable full state).2.filterMap PortTableMsg.txAppPort =
        if !used && !full then [freePort state.ptCursor] else []) ∧
      (freePortTable full state).1.freePortTable =
        if !used && !full then
          Function.update state.freePortTable state.ptCursor ⟨true, role⟩
        else
          state.freePortTable := by
  rw [PortTableState.takenReq] at taken
  split at taken
  · rename_i releases checks reqs
    cases taken
    simp only [freePortTable, releases, checks, reqs]
    split
    · exact ⟨rfl, rfl⟩
    · exact ⟨rfl, rfl⟩
  · cases taken

/-- The answer is a port of the upper half. -/
theorem le_freePort (index : PortIndex) : 0x8000 ≤ freePort index := by
  rw [BitVec.le_def, freePort, BitVec.toNat_or]
  exact Nat.left_le_or

end Call

/-! ## Runs -/

namespace FreePortSystem

variable {system next : FreePortSystem}

theorem call_idle
    (none : system.ptable.takenReq = none) (full : Bool) :
    (system.call full).served = system.served ∧
      (system.call full).rsps = system.rsps := by
  rw [call, freePortTable_idle none, none]
  exact ⟨List.append_nil _, List.append_nil _⟩

/-- A request whose cursor is free is answered. -/
theorem answered_of_free
    {role : NetAXISDest} {index : PortIndex}
    {before after : PortIndex → PortTableEntry}
    (free : (before index).isOpen = false)
    (written : after = Function.update before index ⟨true, role⟩) :
    ServedOpen.Answered ⟨role, before, [freePort index], after⟩ := by
  refine ⟨freePort index, le_freePort index, rfl, ?_, ?_⟩
  · rw [portIndex_freePort]
    exact free
  · rw [portIndex_freePort]
    exact written

/-- A call either answers the request it consumes, or the cursor is on an
open port or the FIFO full. -/
theorem oneToOne_call
    (oneToOne : system.OneToOne) (full : Bool) :
    FindsFree system (.freePortTable full) ∧
        (system.call full).OneToOne ∨
      ¬ FindsFree system (.freePortTable full) ∧
        (system.call full).LeavesOpen := by
  cases taken : system.ptable.takenReq with
  | none =>
      obtain ⟨served, rsps⟩ := call_idle taken full
      refine Or.inl ⟨fun some => absurd taken some, ?_, ?_⟩
      · rw [served, rsps]
        exact oneToOne.inOrder
      · rw [served]
        exact oneToOne.answered
  | some role =>
      obtain ⟨answers, table⟩ :=
        @freePortTable_taken system.ptable full role taken
      let record : ServedOpen :=
        ⟨role, system.ptable.freePortTable,
          (freePortTable full system.ptable).2.filterMap
            PortTableMsg.txAppPort,
          (freePortTable full system.ptable).1.freePortTable⟩
      have served :
          (system.call full).served = system.served ++ [record] := by
        rw [call, taken]
        rfl
      have rsps :
          (system.call full).rsps = system.rsps ++ record.answers :=
        rfl
      have inOrder :
          (system.call full).rsps =
            (system.call full).served.flatMap ServedOpen.answers := by
        rw [served, rsps, List.flatMap_append, oneToOne.inOrder,
          List.flatMap_singleton]
      by_cases finds : FindsFree system (.freePortTable full)
      · refine Or.inl ⟨finds, inOrder, ?_⟩
        rw [served]
        intro other member
        rcases List.mem_append.1 member with earlier | isNew
        · exact oneToOne.answered other earlier
        · rw [List.mem_singleton.1 isNew]
          intro hasFree
          obtain ⟨free, room⟩ :=
            finds (by rw [taken]; exact Option.some_ne_none role) hasFree
          simp only [free, room, Bool.not_false, Bool.and_self,
            if_true] at answers table
          have answered := answered_of_free free table
          rwa [← answers, ← room] at answered
      · refine Or.inr ⟨finds, record, ?_, ?_, ?_⟩
        · rw [served]
          exact List.mem_append_right _ (List.mem_singleton_self record)
        · by_contra noFree
          exact finds fun _ hasFree => absurd hasFree noFree
        · rintro ⟨port, _, one, _⟩
          apply finds
          intro _ _
          have some : record.answers ≠ [] := by
            rw [one]
            exact List.cons_ne_nil _ _
          have condition :
              (!(system.ptable.freePortTable
                  system.ptable.ptCursor).isOpen && !full) = true := by
            by_contra blocked
            exact some (answers.trans (if_neg blocked))
          simpa using condition

theorem oneToOne_step
    {action : FreePortAction} (oneToOne : system.OneToOne)
    (stepped : FreePortStep system action next) :
    FindsFree system action ∧ next.OneToOne ∨
      ¬ FindsFree system action ∧ next.LeavesOpen := by
  subst stepped
  cases action with
  | freePortTable full =>
      exact oneToOne_call oneToOne full
  | releasePort port =>
      exact Or.inl ⟨trivial, oneToOne.inOrder, oneToOne.answered⟩
  | checkUsed index =>
      exact Or.inl ⟨trivial, oneToOne.inOrder, oneToOne.answered⟩
  | openPort role =>
      exact Or.inl ⟨trivial, oneToOne.inOrder, oneToOne.answered⟩

/-- What was consumed without an answer stays so. -/
theorem leavesOpen_step
    {action : FreePortAction} (leaves : system.LeavesOpen)
    (stepped : FreePortStep system action next) : next.LeavesOpen := by
  obtain ⟨served, member, unanswered⟩ := leaves
  subst stepped
  refine ⟨served, ?_, unanswered⟩
  cases action with
  | freePortTable full =>
      exact List.mem_append_left _ member
  | releasePort port =>
      exact member
  | checkUsed index =>
      exact member
  | openPort role =>
      exact member

theorem not_oneToOne_of_leavesOpen
    (leaves : system.LeavesOpen) : ¬ system.OneToOne := by
  obtain ⟨served, member, hasFree, unanswered⟩ := leaves
  intro oneToOne
  exact unanswered (oneToOne.answered served member hasFree)

theorem oneToOne_start : start.OneToOne where
  inOrder := rfl
  answered := fun served member => by cases member

end FreePortSystem

open FreePortSystem in
/-- In every run, the requests consumed while a port was free have exactly
one answer each as long as such requests find the cursor on a free port, and
no longer. -/
theorem freePorts_oneToOne_iff
    {actions : List FreePortAction} {final : FreePortSystem}
    (run : Run FreePortStep FreePortSystem.start actions final) :
    final.OneToOne ↔
      Along FreePortStep FindsFree FreePortSystem.start actions := by
  have sameOutcome :
      ∀ system action next other,
        FreePortStep system action next →
          FreePortStep system action other → other = next := by
    intro system action next other stepped otherStep
    rw [stepped, otherStep]
  rcases run.along_or_not sameOutcome
      (fun _ _ _ early stepped => oneToOne_step early stepped)
      (fun _ _ _ late stepped => leavesOpen_step late stepped)
      oneToOne_start with ⟨along, oneToOne⟩ | ⟨notAlong, leaves⟩
  · exact iff_of_true oneToOne along
  · exact iff_of_false (not_oneToOne_of_leavesOpen leaves) notAlong

/-! ## A cursor that has come round -/

/-- One open, and the call that serves it. -/
def openAndServe : List FreePortAction :=
  [.openPort 0, .freePortTable false]

/-- The first open finds its port. -/
theorem freePorts_oneToOne_first :
    ∃ final,
      Run FreePortStep FreePortSystem.start openAndServe final ∧
      final.OneToOne := by
  have run :
      Run FreePortStep FreePortSystem.start openAndServe
        (openAndServe.foldl FreePortSystem.act FreePortSystem.start) :=
    @Enabled.run _ _ FreePortStep FreePortSystem.act (fun _ _ => True)
      (fun _ _ _ => rfl) _ _ ⟨trivial, trivial, trivial⟩
  refine ⟨_, run, (freePorts_oneToOne_iff run).2 ?_⟩
  exact
    along_iff_enabled.2 ⟨trivial, fun _ _ => ⟨rfl, rfl⟩, trivial⟩

/-- The table with the first ports open. -/
def firstPorts (count : Nat) : PortTableState :=
  { PortTableState.start with
    freePortTable := fun index => ⟨decide (index.toNat < count), 0⟩
    ptCursor := BitVec.ofNat 15 count }

theorem firstPorts_next {count : Nat} (inTable : count < 32768) :
    Function.update (firstPorts count).freePortTable
        (BitVec.ofNat 15 count) ⟨true, 0⟩ =
      (firstPorts (count + 1)).freePortTable := by
  have cursor : (BitVec.ofNat 15 count).toNat = count := by
    rw [BitVec.toNat_ofNat]
    exact Nat.mod_eq_of_lt inTable
  funext index
  by_cases isCursor : index = BitVec.ofNat 15 count
  · have below : index.toNat < count + 1 := by
      rw [isCursor, cursor]
      exact Nat.lt_succ_self count
    rw [isCursor, Function.update_self, ← isCursor]
    simp only [firstPorts, decide_eq_true below]
  · have different : index.toNat ≠ count := by
      intro same
      exact isCursor (BitVec.eq_of_toNat_eq (same.trans cursor.symm))
    rw [Function.update_of_ne isCursor]
    have sameBound : index.toNat < count ↔ index.toNat < count + 1 := by
      omega
    simp only [firstPorts, sameBound]

/-- As many opens as there are ports. -/
theorem exists_run_firstPorts {count : Nat} (inTable : count ≤ 32768) :
    ∃ actions system,
      Run FreePortStep FreePortSystem.start actions system ∧
      system.ptable = firstPorts count := by
  induction count with
  | zero =>
      refine ⟨[], FreePortSystem.start, Run.refl _, ?_⟩
      simp [FreePortSystem.start, firstPorts, PortTableState.start]
  | succ count inductionHypothesis =>
      obtain ⟨actions, system, run, table⟩ :=
        inductionHypothesis (Nat.le_of_succ_le inTable)
      have cursor : (BitVec.ofNat 15 count).toNat = count := by
        rw [BitVec.toNat_ofNat]
        exact Nat.mod_eq_of_lt inTable
      have served :
          Run FreePortStep system openAndServe
            (openAndServe.foldl FreePortSystem.act system) :=
        @Enabled.run _ _ FreePortStep FreePortSystem.act
          (fun _ _ => True) (fun _ _ _ => rfl) _ _
          ⟨trivial, trivial, trivial⟩
      refine ⟨_, _, run.append served, ?_⟩
      have free :
          ((firstPorts count).freePortTable
            (BitVec.ofNat 15 count)).isOpen = false := by
        simp only [firstPorts, cursor, Nat.lt_irrefl, decide_false]
      have next :
          (freePortTable false
              { firstPorts count with txAppReqs := [0] }).1 =
            { firstPorts (count + 1) with txAppReqs := [] } := by
        have called :
            (freePortTable false
                { firstPorts count with txAppReqs := [0] }).1 =
              { firstPorts count with
                txAppReqs := []
                ptCursor := BitVec.ofNat 15 count + 1
                freePortTable :=
                  Function.update (firstPorts count).freePortTable
                    (BitVec.ofNat 15 count) ⟨true, 0⟩ } := by
          simp only [freePortTable, firstPorts, PortTableState.start,
            cursor, Nat.lt_irrefl, decide_false, Bool.not_false,
            Bool.and_self, if_true]
        rw [called, firstPorts_next inTable]
        have moved :
            BitVec.ofNat 15 count + 1 = BitVec.ofNat 15 (count + 1) :=
          (BitVec.ofNat_add count 1).symm
        rw [moved]
        rfl
      simp only [openAndServe, List.foldl_cons, List.foldl_nil,
        FreePortSystem.act, FreePortSystem.call, table]
      exact next

/-- All ports are opened, one in the middle is released, and the cursor is
back on the first one. -/
theorem not_freePorts_oneToOne :
    ¬ ∀ (actions : List FreePortAction) (final : FreePortSystem),
        Run FreePortStep FreePortSystem.start actions final →
        final.OneToOne := by
  intro claimed
  obtain ⟨actions, system, run, table⟩ :=
    exists_run_firstPorts (Nat.le_refl 32768)
  let later : List FreePortAction :=
    [.releasePort 0x8001, .freePortTable false, .openPort 0]
  let asked := later.foldl FreePortSystem.act system
  have laterRun : Run FreePortStep system later asked :=
    @Enabled.run _ _ FreePortStep FreePortSystem.act (fun _ _ => True)
      (fun _ _ _ => rfl) _ _ ⟨trivial, trivial, trivial, trivial⟩
  have askedRun := run.append laterRun
  have askedTable :
      asked.ptable =
        { firstPorts 32768 with
          freePortTable :=
            Function.update (firstPorts 32768).freePortTable 1 ⟨false, 0⟩
          txAppReqs := [0] } := by
    simp only [asked, later, List.foldl_cons, List.foldl_nil,
      FreePortSystem.act, FreePortSystem.call, table]
    rfl
  have blocked : ¬ FindsFree asked (.freePortTable false) := by
    intro finds
    rw [FindsFree, askedTable] at finds
    have onFree :=
      (finds (by decide) ⟨1, by simp only [Function.update_self]⟩).1
    revert onFree
    decide
  rcases FreePortSystem.oneToOne_call (claimed _ _ askedRun) false with
    ⟨finds, _⟩ | ⟨_, leaves⟩
  · exact blocked finds
  · have served :
        Run FreePortStep asked [.freePortTable false] (asked.call false) :=
      Run.head rfl (Run.refl _)
    exact
      FreePortSystem.not_oneToOne_of_leavesOpen leaves
        (claimed _ _ (askedRun.append served))

end TcpOffload
