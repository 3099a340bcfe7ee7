import TcpOffload.Library.Guarded
import TcpOffload.Library.OrderedMerge
import TcpOffload.PortTable

/-!
# The checks of the RX engine

A check goes to the half of the table that its port belongs to, and the
answers of the two halves are merged in the order of the checks.  The four
processes run here in any order, beside listen, open and release requests;
the states passed are kept, so that an answer can be compared with them.
-/

namespace TcpOffload

open Guarded OrderedMerge

/-! ## The queues of the checks -/

/-- The half of the table that is responsible for a port. -/
def checkDst (port : TcpPortNumber) : CheckDst :=
  if isFreePort port then .freeTable else .listeningTable

theorem CheckDst.funext {Value : Type} {left right : CheckDst → Value}
    (listening : left .listeningTable = right .listeningTable)
    (free : left .freeTable = right .freeTable) : left = right := by
  ext dst
  cases dst with
  | listeningTable =>
      exact listening
  | freeTable =>
      exact free

namespace PortTableState

variable (state : PortTableState)

def checkReqs : CheckDst → List PortIndex
  | .listeningTable => state.checkListeningReqs
  | .freeTable => state.checkUsedReqs

def checkRsps : CheckDst → List PtableToRxEngRsp
  | .listeningTable => state.checkListeningRsps
  | .freeTable => state.checkUsedRsps

/-- The table that the output waits for. -/
def heldDst : List CheckDst :=
  match state.cmFsmState with
  | .readDst => []
  | .readListening => [.listeningTable]
  | .readUsed => [.freeTable]

def checkOrder : List CheckDst :=
  state.heldDst ++ state.checkDsts

/-- What a half of the table has for a place. -/
def checkEntry (dst : CheckDst) (index : PortIndex) :
    PtableToRxEngRsp :=
  let entry :=
    match dst with
    | .listeningTable => state.listeningPortTable index
    | .freeTable => state.freePortTable index
  ⟨entry.isOpen, entry.roleId⟩

/-- What the half responsible for a port has for it. -/
def portEntry (port : TcpPortNumber) : PtableToRxEngRsp :=
  state.checkEntry (checkDst port) (portIndex port)

end PortTableState

/-- What one call can do to the checks, with its answers. -/
inductive CheckCall (state next : PortTableState) :
    List PtableToRxEngRsp → Prop
  | rests :
      next.rxEngCheckReqs = state.rxEngCheckReqs →
      next.checkOrder = state.checkOrder →
      next.checkReqs = state.checkReqs →
      next.checkRsps = state.checkRsps →
      CheckCall state next []
  | forwards {port : TcpPortNumber} {later : List TcpPortNumber} :
      state.rxEngCheckReqs = port :: later →
      next.rxEngCheckReqs = later →
      next.checkOrder = state.checkOrder ++ [checkDst port] →
      next.checkReqs =
        Function.update state.checkReqs (checkDst port)
          (state.checkReqs (checkDst port) ++ [portIndex port]) →
      next.checkRsps = state.checkRsps →
      CheckCall state next []
  | reads {dst : CheckDst} {index : PortIndex} {later : List PortIndex} :
      state.checkReqs dst = index :: later →
      next.rxEngCheckReqs = state.rxEngCheckReqs →
      next.checkOrder = state.checkOrder →
      next.checkReqs = Function.update state.checkReqs dst later →
      next.checkRsps =
        Function.update state.checkRsps dst
          (state.checkRsps dst ++ [state.checkEntry dst index]) →
      CheckCall state next []
  | answers {dst : CheckDst} {order : List CheckDst}
      {rsp : PtableToRxEngRsp} {later : List PtableToRxEngRsp} :
      state.checkOrder = dst :: order →
      state.checkRsps dst = rsp :: later →
      next.rxEngCheckReqs = state.rxEngCheckReqs →
      next.checkOrder = order →
      next.checkReqs = state.checkReqs →
      next.checkRsps = Function.update state.checkRsps dst later →
      CheckCall state next [rsp]

section Calls

variable (state : PortTableState)

theorem listeningPortTable_check :
    CheckCall state (listeningPortTable state).1
      ((listeningPortTable state).2.filterMap PortTableMsg.toRxEng) := by
  rw [listeningPortTable]
  split
  · simp only []
    split
    · exact CheckCall.rests rfl rfl rfl rfl
    · exact CheckCall.rests rfl rfl rfl rfl
  · split
    · rename_i index later reqs
      exact
        @CheckCall.reads _ _ .listeningTable index later reqs rfl rfl
          (CheckDst.funext rfl rfl) (CheckDst.funext rfl rfl)
    · exact CheckCall.rests rfl rfl rfl rfl

theorem freePortTable_check (full : Bool) :
    CheckCall state (freePortTable full state).1
      ((freePortTable full state).2.filterMap PortTableMsg.toRxEng) := by
  rw [freePortTable]
  split
  · simp only []
    split
    · exact CheckCall.rests rfl rfl rfl rfl
    · exact CheckCall.rests rfl rfl rfl rfl
  · rename_i index later _ reqs
    exact
      @CheckCall.reads _ _ .freeTable index later reqs rfl rfl
        (CheckDst.funext rfl rfl) (CheckDst.funext rfl rfl)
  · simp only []
    split
    · exact CheckCall.rests rfl rfl rfl rfl
    · exact CheckCall.rests rfl rfl rfl rfl
  · exact CheckCall.rests rfl rfl rfl rfl

theorem checkInMultiplexer_check :
    CheckCall state (checkInMultiplexer state) [] := by
  rw [checkInMultiplexer]
  split
  · rename_i port later reqs
    split
    · rename_i isFree
      have isDst : checkDst port = .freeTable :=
        if_pos isFree
      refine CheckCall.forwards reqs rfl ?_ ?_ rfl
      · rw [isDst]
        exact (List.append_assoc _ _ _).symm
      · rw [isDst]
        exact CheckDst.funext rfl rfl
    · rename_i notFree
      have isDst : checkDst port = .listeningTable :=
        if_neg notFree
      refine CheckCall.forwards reqs rfl ?_ ?_ rfl
      · rw [isDst]
        exact (List.append_assoc _ _ _).symm
      · rw [isDst]
        exact CheckDst.funext rfl rfl
  · exact CheckCall.rests rfl rfl rfl rfl

theorem checkOutMultiplexer_check :
    CheckCall state (checkOutMultiplexer state).1
      ((checkOutMultiplexer state).2.filterMap PortTableMsg.toRxEng) := by
  rw [checkOutMultiplexer]
  split
  · rename_i isReadDst
    split
    · rename_i dst later dsts
      have order : state.checkOrder = dst :: later := by
        rw [PortTableState.checkOrder, PortTableState.heldDst, isReadDst,
          dsts]
        rfl
      refine CheckCall.rests rfl ?_ rfl rfl
      rw [order]
      cases dst
      · rfl
      · rfl
    · exact CheckCall.rests rfl rfl rfl rfl
  · rename_i isReadListening
    split
    · rename_i rsp later rsps
      refine @CheckCall.answers _ _ .listeningTable state.checkDsts rsp
        later ?_ rsps rfl rfl rfl ?_
      · rw [PortTableState.checkOrder, PortTableState.heldDst,
          isReadListening]
        rfl
      · exact CheckDst.funext rfl rfl
    · exact CheckCall.rests rfl rfl rfl rfl
  · rename_i isReadUsed
    split
    · rename_i rsp later rsps
      refine @CheckCall.answers _ _ .freeTable state.checkDsts rsp later ?_
        rsps rfl rfl rfl ?_
      · rw [PortTableState.checkOrder, PortTableState.heldDst, isReadUsed]
        rfl
      · exact CheckDst.funext rfl rfl
    · exact CheckCall.rests rfl rfl rfl rfl

theorem PtableProcess.check (process : PtableProcess) :
    CheckCall state (process.call state).1
      ((process.call state).2.filterMap PortTableMsg.toRxEng) := by
  cases process with
  | listeningPortTable =>
      exact listeningPortTable_check state
  | freePortTable full =>
      exact freePortTable_check state full
  | checkInMultiplexer =>
      exact checkInMultiplexer_check state
  | checkOutMultiplexer =>
      exact checkOutMultiplexer_check state

/-- A listening port that is open stays so, with its role. -/
theorem PtableProcess.keepsRole
    (process : PtableProcess) {index : PortIndex} {roleId : NetAXISDest}
    (isOpen : state.listeningPortTable index = ⟨true, roleId⟩) :
    (process.call state).1.listeningPortTable index = ⟨true, roleId⟩ := by
  cases process with
  | listeningPortTable =>
      change (TcpOffload.listeningPortTable state).1.listeningPortTable _ = _
      rw [TcpOffload.listeningPortTable]
      split
      · rename_i req later _
        simp only []
        split
        · rename_i opens
          have other : index ≠ portIndex req.data := by
            rintro rfl
            rw [isOpen] at opens
            exact Bool.false_ne_true opens
          change Function.update _ _ _ _ = _
          rw [Function.update_of_ne other]
          exact isOpen
        · exact isOpen
      · split
        · exact isOpen
        · exact isOpen
  | freePortTable full =>
      change (TcpOffload.freePortTable full state).1.listeningPortTable _ = _
      rw [TcpOffload.freePortTable]
      split
      · simp only []
        split
        · exact isOpen
        · exact isOpen
      · exact isOpen
      · simp only []
        split
        · exact isOpen
        · exact isOpen
      · exact isOpen
  | checkInMultiplexer =>
      change (TcpOffload.checkInMultiplexer state).listeningPortTable _ = _
      rw [TcpOffload.checkInMultiplexer]
      split
      · split
        · exact isOpen
        · exact isOpen
      · exact isOpen
  | checkOutMultiplexer =>
      change (TcpOffload.checkOutMultiplexer state).1.listeningPortTable _ =
        _
      rw [TcpOffload.checkOutMultiplexer]
      split
      · split
        · exact isOpen
        · exact isOpen
      · split
        · exact isOpen
        · exact isOpen
      · split
        · exact isOpen
        · exact isOpen

end Calls

/-! ## Runs -/

/-- A check, with the number of steps taken before it. -/
structure AskedCheck where
  port : TcpPortNumber
  since : Nat
deriving DecidableEq, Repr

/-- An answer, with the number of steps taken before it. -/
structure GivenCheck where
  rsp : PtableToRxEngRsp
  upTo : Nat
deriving DecidableEq, Repr

/-- The port table, the states it has passed, the checks asked of it and the
answers it gave. -/
structure CheckSystem where
  ptable : PortTableState
  past : List PortTableState
  asked : List AskedCheck
  given : List GivenCheck

inductive CheckAction where
  | process (process : PtableProcess)
  | check (port : TcpPortNumber)
  | listenPort (req : ListenPortReq)
  | openPort (role : NetAXISDest)
  | releasePort (port : TcpPortNumber)
deriving DecidableEq, Repr

namespace CheckSystem

def start : CheckSystem where
  ptable := PortTableState.start
  past := []
  asked := []
  given := []

/-- The steps taken. -/
def time (system : CheckSystem) : Nat :=
  system.past.length

def stateAt (system : CheckSystem) (moment : Nat) :
    Option PortTableState :=
  (system.past ++ [system.ptable])[moment]?

/-- The table goes on to another state. -/
def passTo (system : CheckSystem) (ptable : PortTableState) :
    CheckSystem :=
  { system with
    ptable := ptable
    past := system.past ++ [system.ptable] }

def call (system : CheckSystem) (process : PtableProcess) :
    CheckSystem :=
  let called := process.call system.ptable
  { system.passTo called.1 with
    given :=
      system.given ++
        (called.2.filterMap PortTableMsg.toRxEng).map fun rsp =>
          ⟨rsp, system.time⟩ }

def act (system : CheckSystem) : CheckAction → CheckSystem
  | .process process => system.call process
  | .check port =>
      { system.passTo
          { system.ptable with
            rxEngCheckReqs := system.ptable.rxEngCheckReqs ++ [port] } with
        asked := system.asked ++ [⟨port, system.time⟩] }
  | .listenPort req =>
      system.passTo
        { system.ptable with
          rxAppListenPortReqs :=
            system.ptable.rxAppListenPortReqs ++ [req] }
  | .openPort role =>
      system.passTo
        { system.ptable with
          txAppReqs := system.ptable.txAppReqs ++ [role] }
  | .releasePort port =>
      system.passTo
        { system.ptable with
          slookupReleasePortReqs :=
            system.ptable.slookupReleasePortReqs ++ [port] }

/-- The role that has opened the listening port by the moment is the one
reported. -/
def ReportsRole
    (system : CheckSystem) (moment : Nat) (check : AskedCheck)
    (rsp : PtableToRxEngRsp) : Prop :=
  isFreePort check.port = false →
    ∀ opened ≤ moment, ∀ state roleId,
      system.stateAt opened = some state →
      state.listeningPortTable (portIndex check.port) = ⟨true, roleId⟩ →
      rsp = ⟨true, roleId⟩

/-- The answer is the entry of the port at the moment. -/
def EntryAt
    (system : CheckSystem) (moment : Nat) (check : AskedCheck)
    (rsp : PtableToRxEngRsp) : Prop :=
  ∃ state,
    system.stateAt moment = some state ∧
      rsp = state.portEntry check.port

/-- The answer is the entry of the port at a moment between the check and
the answer, with the role that had opened a listening port by then. -/
def Answers
    (system : CheckSystem) (check : AskedCheck)
    (given : GivenCheck) : Prop :=
  ∃ moment,
    check.since ≤ moment ∧ moment ≤ given.upTo ∧
      system.EntryAt moment check given.rsp ∧
        system.ReportsRole moment check given.rsp

/-- The answer is the entry of the port at a moment between the check and
the answer, with the role that has opened a listening port by the answer. -/
def AnswersWithRole
    (system : CheckSystem) (check : AskedCheck)
    (given : GivenCheck) : Prop :=
  (∃ moment,
    check.since ≤ moment ∧ moment ≤ given.upTo ∧
      system.EntryAt moment check given.rsp) ∧
    system.ReportsRole given.upTo check given.rsp

/-- The checks that are not answered. -/
def unanswered (system : CheckSystem) : Nat :=
  system.ptable.rxEngCheckReqs.length + system.ptable.checkOrder.length

end CheckSystem

def CheckStep
    (system : CheckSystem) (action : CheckAction)
    (next : CheckSystem) : Prop :=
  next = system.act action

/-! ## The invariant -/

/-- The answer was read in the table after the check. -/
def CheckSystem.Read
    (system : CheckSystem) (check : AskedCheck)
    (rsp : PtableToRxEngRsp) : Prop :=
  ∃ moment,
    check.since ≤ moment ∧ moment ≤ system.time ∧
      system.EntryAt moment check rsp ∧
        system.ReportsRole moment check rsp

/-- The first checks are answered, the next ones are on their way through the
tables, and the last ones are not handed out. -/
structure ChecksSorted
    (system : CheckSystem)
    (answered waiting unsent : List AskedCheck) : Prop where
  asked : system.asked = answered ++ (waiting ++ unsent)
  answers : List.Forall₂ system.Answers answered system.given
  merge :
    Merge (fun check => checkDst check.port)
      (fun check => portIndex check.port) system.Read waiting
      system.ptable.checkOrder system.ptable.checkReqs
      system.ptable.checkRsps
  requests : system.ptable.rxEngCheckReqs = unsent.map AskedCheck.port

structure CheckInvariant (system : CheckSystem) : Prop where
  keepsRole :
    ∀ earlier ∈ system.past, ∀ index roleId,
      earlier.listeningPortTable index = ⟨true, roleId⟩ →
        system.ptable.listeningPortTable index = ⟨true, roleId⟩
  past : ∀ check ∈ system.asked, check.since ≤ system.time
  sorted : ∃ answered waiting unsent,
    ChecksSorted system answered waiting unsent

namespace CheckSystem

variable {system next : CheckSystem} {moment : Nat}
variable {check : AskedCheck} {rsp : PtableToRxEngRsp}

theorem stateAt_later
    (goesOn : next.past = system.past ++ [system.ptable])
    (before : moment ≤ system.time) :
    next.stateAt moment = system.stateAt moment := by
  rw [stateAt, stateAt, goesOn]
  refine List.getElem?_append_left ?_
  rw [List.length_append]
  exact Nat.lt_succ_of_le before

theorem time_later
    (goesOn : next.past = system.past ++ [system.ptable]) :
    next.time = system.time + 1 := by
  rw [time, goesOn, List.length_append]
  rfl

theorem EntryAt.later
    (goesOn : next.past = system.past ++ [system.ptable])
    (isEntry : system.EntryAt moment check rsp)
    (before : moment ≤ system.time) : next.EntryAt moment check rsp := by
  obtain ⟨state, isState, same⟩ := isEntry
  exact ⟨state, (stateAt_later goesOn before).trans isState, same⟩

theorem ReportsRole.later
    (goesOn : next.past = system.past ++ [system.ptable])
    (reports : system.ReportsRole moment check rsp)
    (before : moment ≤ system.time) :
    next.ReportsRole moment check rsp := by
  intro notFree opened openedBefore state roleId isState
  rw [stateAt_later goesOn (Nat.le_trans openedBefore before)] at isState
  exact reports notFree opened openedBefore state roleId isState

theorem Read.later
    (goesOn : next.past = system.past ++ [system.ptable])
    (read : system.Read check rsp) : next.Read check rsp := by
  obtain ⟨moment, since, before, isEntry, reports⟩ := read
  refine
    ⟨moment, since, ?_, isEntry.later goesOn before,
      reports.later goesOn before⟩
  rw [time_later goesOn]
  exact Nat.le_succ_of_le before

theorem Answers.later {given : GivenCheck}
    (goesOn : next.past = system.past ++ [system.ptable])
    (answers : system.Answers check given) :
    next.Answers check given := by
  obtain ⟨moment, since, upTo, isEntry, reports⟩ := answers
  have before : moment ≤ system.time := by
    obtain ⟨state, isState, _⟩ := isEntry
    have inside := (List.getElem?_eq_some_iff.1 isState).1
    rw [List.length_append] at inside
    exact Nat.lt_succ_iff.1 inside
  exact
    ⟨moment, since, upTo, isEntry.later goesOn before,
      reports.later goesOn before⟩

/-- What is read now has the role that ever opened the port. -/
theorem read_now (invariant : CheckInvariant system)
    (since : check.since ≤ system.time) :
    system.Read check (system.ptable.portEntry check.port) := by
  have isNow : system.stateAt system.time = some system.ptable := by
    rw [stateAt, time]
    exact List.getElem?_concat_length
  refine
    ⟨system.time, since, Nat.le_refl _,
      ⟨system.ptable, isNow, rfl⟩, ?_⟩
  intro notFree opened _ state roleId isState isOpen
  have isListening : checkDst check.port = .listeningTable :=
    if_neg (Bool.eq_false_iff.1 notFree)
  have stillOpen :
      system.ptable.listeningPortTable (portIndex check.port) =
        ⟨true, roleId⟩ := by
    rcases List.mem_append.1 (List.mem_of_getElem? isState) with
      earlier | isLast
    · exact invariant.keepsRole state earlier _ _ isOpen
    · rw [← List.mem_singleton.1 isLast]
      exact isOpen
  rw [PortTableState.portEntry, isListening]
  change
    PtableToRxEngRsp.mk
        (system.ptable.listeningPortTable _).isOpen
        (system.ptable.listeningPortTable _).roleId =
      _
  rw [stillOpen]

end CheckSystem

namespace CheckInvariant

open CheckSystem

variable {system next : CheckSystem}

theorem start : CheckInvariant CheckSystem.start where
  keepsRole := fun _ member => by cases member
  past := fun _ member => by cases member
  sorted := by
    refine ⟨[], [], [], rfl, List.Forall₂.nil, ?_, rfl⟩
    have noReqs : PortTableState.start.checkReqs = fun _ => [] :=
      CheckDst.funext rfl rfl
    have noRsps : PortTableState.start.checkRsps = fun _ => [] :=
      CheckDst.funext rfl rfl
    change Merge _ _ _ _ _ PortTableState.start.checkReqs
      PortTableState.start.checkRsps
    rw [noReqs, noRsps]
    exact Merge.nil

/-- One call moves a check on, or hands out the answer to the oldest one. -/
theorem sorted_call
    (invariant : CheckInvariant system)
    {rsps : List PtableToRxEngRsp}
    (call : CheckCall system.ptable next.ptable rsps)
    (goesOn : next.past = system.past ++ [system.ptable])
    (sameAsked : next.asked = system.asked)
    (given :
      next.given =
        system.given ++ rsps.map fun rsp => ⟨rsp, system.time⟩) :
    ∃ answered waiting unsent,
      ChecksSorted next answered waiting unsent := by
  obtain ⟨answered, waiting, unsent, asked, answers, merge, requests⟩ :=
    invariant.sorted
  have answersLater : List.Forall₂ next.Answers answered system.given :=
    answers.imp fun _ _ => Answers.later goesOn
  have readLater (check : AskedCheck) (rsp : PtableToRxEngRsp) :
      system.Read check rsp → next.Read check rsp :=
    Read.later goesOn
  cases call with
  | rests sameRequests sameOrder sameReqs sameRsps =>
      rw [List.map_nil, List.append_nil] at given
      refine
        ⟨answered, waiting, unsent, sameAsked.trans asked, ?_, ?_, ?_⟩
      · rw [given]
        exact answersLater
      · rw [sameOrder, sameReqs, sameRsps]
        exact merge.mono readLater
      · exact sameRequests.trans requests
  | @forwards port later isNext left order reqs sameRsps =>
      rw [List.map_nil, List.append_nil] at given
      rw [isNext] at requests
      cases unsent with
      | nil =>
          cases requests
      | cons check unsent =>
          obtain ⟨isPort, behind⟩ := List.cons.inj requests
          refine
            ⟨answered, waiting ++ [check], unsent, ?_, ?_, ?_, ?_⟩
          · rw [sameAsked, asked, List.append_assoc waiting]
            rfl
          · rw [given]
            exact answersLater
          · rw [order, reqs, sameRsps, isPort]
            exact (merge.ask check).mono readLater
          · rw [left]
            exact behind
  | @reads dst index later isNext sameRequests sameOrder reqs moved =>
      rw [List.map_nil, List.append_nil] at given
      obtain ⟨check, member, isDst, isIndex, answer⟩ :=
        merge.answer isNext
      refine
        ⟨answered, waiting, unsent, sameAsked.trans asked, ?_, ?_, ?_⟩
      · rw [given]
        exact answersLater
      · have since : check.since ≤ system.time := by
          apply invariant.past
          rw [asked]
          exact
            List.mem_append_right _ (List.mem_append_left _ member)
        have read := read_now invariant since
        rw [PortTableState.portEntry, isDst, isIndex] at read
        rw [sameOrder, reqs, moved]
        exact (answer _ read).mono readLater
      · exact sameRequests.trans requests
  | @answers dst order rsp later isOldest isNext sameRequests left
      sameReqs taken =>
      rw [isOldest] at merge
      obtain ⟨check, others, isFirst, read, rest⟩ := merge.take isNext
      refine ⟨answered ++ [check], others, unsent, ?_, ?_, ?_, ?_⟩
      · rw [sameAsked, asked, isFirst, List.append_assoc]
        rfl
      · obtain ⟨moment, since, before, isEntry, reports⟩ := read
        rw [given]
        refine
          List.rel_append answersLater
            (List.Forall₂.cons ?_ List.Forall₂.nil)
        exact
          Answers.later goesOn ⟨moment, since, before, isEntry, reports⟩
      · rw [left, sameReqs, taken]
        exact rest.mono readLater
      · exact sameRequests.trans requests

/-- A listening port that is open stays so, and a new check is of now. -/
theorem later
    (invariant : CheckInvariant system)
    (goesOn : next.past = system.past ++ [system.ptable])
    (keepsRole :
      ∀ index roleId,
        system.ptable.listeningPortTable index = ⟨true, roleId⟩ →
          next.ptable.listeningPortTable index = ⟨true, roleId⟩)
    (asked :
      ∀ check ∈ next.asked,
        check ∈ system.asked ∨ check.since = system.time)
    (sorted :
      ∃ answered waiting unsent,
        ChecksSorted next answered waiting unsent) :
    CheckInvariant next where
  keepsRole := by
    intro earlier member index roleId isOpen
    apply keepsRole
    rw [goesOn] at member
    rcases List.mem_append.1 member with before | isLast
    · exact invariant.keepsRole earlier before index roleId isOpen
    · rw [← List.mem_singleton.1 isLast]
      exact isOpen
  past := by
    intro check member
    rw [time_later goesOn]
    rcases asked check member with before | isNow
    · exact Nat.le_succ_of_le (invariant.past check before)
    · rw [isNow]
      exact Nat.le_succ _
  sorted := sorted

theorem call (invariant : CheckInvariant system)
    (process : PtableProcess) : CheckInvariant (system.call process) :=
  @later system (system.call process) invariant rfl
    (fun _ _ isOpen => process.keepsRole system.ptable isOpen)
    (fun _ member => Or.inl member)
    (@sorted_call system (system.call process) invariant _
      (process.check system.ptable) rfl rfl rfl)

/-- What changes neither the checks nor the listening ports. -/
theorem passTo (invariant : CheckInvariant system)
    {ptable : PortTableState}
    (rests : CheckCall system.ptable ptable [])
    (sameTable :
      ptable.listeningPortTable = system.ptable.listeningPortTable) :
    CheckInvariant (system.passTo ptable) := by
  refine
    @later system (system.passTo ptable) invariant rfl ?_
      (fun _ member => Or.inl member)
      (@sorted_call system (system.passTo ptable) invariant [] rests rfl
        rfl (List.append_nil _).symm)
  intro index roleId isOpen
  rw [← sameTable] at isOpen
  exact isOpen

theorem check (invariant : CheckInvariant system)
    (port : TcpPortNumber) :
    CheckInvariant (system.act (.check port)) := by
  refine
    @later system (system.act (.check port)) invariant rfl
      (fun _ _ isOpen => isOpen) ?_ ?_
  · intro check member
    rcases List.mem_append.1 member with before | isNew
    · exact Or.inl before
    · rw [List.mem_singleton.1 isNew]
      exact Or.inr rfl
  · obtain ⟨answered, waiting, unsent, asked, answers, merge, requests⟩ :=
      invariant.sorted
    refine
      ⟨answered, waiting, unsent ++ [⟨port, system.time⟩], ?_, ?_, ?_, ?_⟩
    · change system.asked ++ _ = _
      rw [asked, List.append_assoc, List.append_assoc]
    · exact
        answers.imp fun _ _ =>
          @Answers.later system (system.act (.check port)) _ _ rfl
    · exact
        merge.mono fun _ _ =>
          @Read.later system (system.act (.check port)) _ _ rfl
    · change system.ptable.rxEngCheckReqs ++ [port] = _
      rw [requests, List.map_append]
      rfl

theorem act (invariant : CheckInvariant system) (action : CheckAction) :
    CheckInvariant (system.act action) := by
  cases action with
  | process process =>
      exact invariant.call process
  | check port =>
      exact invariant.check port
  | listenPort | openPort | releasePort =>
      exact invariant.passTo (CheckCall.rests rfl rfl rfl rfl) rfl

theorem of_run {actions : List CheckAction}
    (run : Run CheckStep CheckSystem.start actions system) :
    CheckInvariant system := by
  refine
    run.keeps
      (fun (system : CheckSystem) action next
          (invariant : CheckInvariant system)
          (stepped : CheckStep system action next) => ?_)
      CheckInvariant.start
  rw [show next = system.act action from stepped]
  exact invariant.act action

end CheckInvariant

/-! ## No check is stuck -/

namespace PortTableState

/-- What the calls have still to do. -/
def load (state : PortTableState) : Nat :=
  5 * state.rxEngCheckReqs.length +
    2 * (state.checkListeningReqs.length + state.checkUsedReqs.length) +
    (state.checkListeningRsps.length + state.checkUsedRsps.length) +
    2 * state.checkDsts.length + state.heldDst.length +
    state.rxAppListenPortReqs.length +
    state.slookupReleasePortReqs.length

variable {state : PortTableState}

theorem load_listeningPortTable (busy : state.checkListeningReqs ≠ []) :
    (TcpOffload.listeningPortTable state).1.load < state.load := by
  rw [TcpOffload.listeningPortTable]
  split
  · rename_i req later reqs
    simp only []
    split
    · simp only [load, heldDst, reqs, List.length_cons]
      omega
    · simp only [load, heldDst, reqs, List.length_cons]
      omega
  · split
    · rename_i index later reqs
      simp only [load, heldDst, reqs, List.length_cons,
        List.length_append, List.length_nil]
      omega
    · rename_i none
      exact absurd none busy

theorem load_freePortTable (busy : state.checkUsedReqs ≠ []) :
    (TcpOffload.freePortTable false state).1.load < state.load := by
  rw [TcpOffload.freePortTable]
  split
  · rename_i releases
    simp only []
    split
    · simp only [load, heldDst, releases, List.length_cons]
      omega
    · simp only [load, heldDst, releases, List.length_cons]
      omega
  · rename_i reqs
    simp only [load, heldDst, reqs, List.length_cons,
      List.length_append, List.length_nil]
    omega
  · rename_i none _
    exact absurd none busy
  · rename_i none _
    exact absurd none busy

theorem load_checkInMultiplexer (busy : state.rxEngCheckReqs ≠ []) :
    (TcpOffload.checkInMultiplexer state).load < state.load := by
  rw [TcpOffload.checkInMultiplexer]
  split
  · rename_i port later reqs
    split
    · simp only [load, heldDst, reqs, List.length_cons,
        List.length_append, List.length_nil]
      omega
    · simp only [load, heldDst, reqs, List.length_cons,
        List.length_append, List.length_nil]
      omega
  · rename_i none
    exact absurd none busy

theorem load_checkOutMultiplexer {dst : CheckDst}
    {order : List CheckDst} (oldest : state.checkOrder = dst :: order)
    (ready :
      state.cmFsmState = .readDst ∨ state.checkRsps dst ≠ []) :
    (TcpOffload.checkOutMultiplexer state).1.load < state.load := by
  rw [checkOrder] at oldest
  rw [TcpOffload.checkOutMultiplexer]
  split
  · rename_i isReadDst
    split
    · rename_i first later dsts
      cases first with
      | listeningTable =>
          simp only [load, heldDst, isReadDst, dsts, List.length_cons,
            List.length_nil]
          omega
      | freeTable =>
          simp only [load, heldDst, isReadDst, dsts, List.length_cons,
            List.length_nil]
          omega
    · rename_i noDsts
      rw [heldDst, isReadDst, noDsts] at oldest
      cases oldest
  · rename_i isReadListening
    rw [heldDst, isReadListening] at oldest
    obtain ⟨rfl, _⟩ := List.cons.inj oldest
    split
    · rename_i rsp later rsps
      simp only [load, heldDst, isReadListening, rsps, List.length_cons,
        List.length_nil]
      omega
    · rename_i noRsps
      rcases ready with isReadDst | someRsps
      · rw [isReadListening] at isReadDst
        cases isReadDst
      · exact absurd noRsps someRsps
  · rename_i isReadUsed
    rw [heldDst, isReadUsed] at oldest
    obtain ⟨rfl, _⟩ := List.cons.inj oldest
    split
    · rename_i rsp later rsps
      simp only [load, heldDst, isReadUsed, rsps, List.length_cons,
        List.length_nil]
      omega
    · rename_i noRsps
      rcases ready with isReadDst | someRsps
      · rw [isReadUsed] at isReadDst
        cases isReadDst
      · exact absurd noRsps someRsps

end PortTableState

namespace CheckInvariant

open CheckSystem

variable {system : CheckSystem}

/-- While a check is not answered, one of the processes has work. -/
theorem exists_lighter (invariant : CheckInvariant system)
    (some : system.unanswered ≠ 0) :
    ∃ process : PtableProcess,
      (process.call system.ptable).1.load < system.ptable.load := by
  obtain ⟨answered, waiting, unsent, _, _, merge, _⟩ := invariant.sorted
  by_cases reqs : system.ptable.rxEngCheckReqs = []
  · cases order : system.ptable.checkOrder with
    | nil =>
        rw [unanswered, reqs, order] at some
        exact absurd rfl some
    | cons dst later =>
        by_cases ready :
            system.ptable.cmFsmState = .readDst ∨
              system.ptable.checkRsps dst ≠ []
        · exact
            ⟨.checkOutMultiplexer,
              PortTableState.load_checkOutMultiplexer order ready⟩
        · rw [not_or] at ready
          rw [order] at merge
          have busy := merge.busy.resolve_left ready.2
          cases dst with
          | listeningTable =>
              exact
                ⟨.listeningPortTable,
                  PortTableState.load_listeningPortTable busy⟩
          | freeTable =>
              exact
                ⟨.freePortTable false,
                  PortTableState.load_freePortTable busy⟩
  · exact
      ⟨.checkInMultiplexer, PortTableState.load_checkInMultiplexer reqs⟩

theorem asked_length (invariant : CheckInvariant system) :
    system.asked.length = system.given.length + system.unanswered := by
  obtain ⟨answered, waiting, unsent, asked, answers, merge, requests⟩ :=
    invariant.sorted
  rw [unanswered, requests, merge.inOrder, ← answers.length_eq, asked,
    List.length_append, List.length_append, List.length_map,
    List.length_map]
  omega

/-- Calls of the four processes, and nothing else, answer every check. -/
theorem drains (invariant : CheckInvariant system) :
    ∃ processes : List PtableProcess,
      ((processes.map CheckAction.process).foldl CheckSystem.act
          system).asked =
        system.asked ∧
      ((processes.map CheckAction.process).foldl CheckSystem.act
          system).given.length =
        system.asked.length := by
  generalize isLoad : system.ptable.load = load
  induction load using Nat.strong_induction_on generalizing system with
  | h load inductionHypothesis =>
      by_cases none : system.unanswered = 0
      · refine ⟨[], rfl, ?_⟩
        rw [invariant.asked_length, none]
        rfl
      · obtain ⟨process, lighter⟩ := invariant.exists_lighter none
        rw [isLoad] at lighter
        obtain ⟨processes, sameAsked, allGiven⟩ :=
          inductionHypothesis _ lighter (invariant.call process) rfl
        exact ⟨process :: processes, sameAsked, allGiven⟩

end CheckInvariant

/-- In every run the answers are, in order, those to the oldest checks: each
is the entry of its port at a moment between the check and the answer, with
the role that had opened a listening port by then.  The other checks are on
their way, and none of them is stuck. -/
theorem portChecks_answered
    {actions : List CheckAction} {final : CheckSystem}
    (run : Run CheckStep CheckSystem.start actions final) :
    (∃ answered waiting,
      final.asked = answered ++ waiting ∧
        List.Forall₂ final.Answers answered final.given ∧
          waiting.length = final.unanswered) ∧
      ∃ (processes : List PtableProcess) (drained : CheckSystem),
        Run CheckStep final (processes.map CheckAction.process) drained ∧
          drained.asked = final.asked ∧
            drained.given.length = final.asked.length := by
  have invariant := CheckInvariant.of_run run
  refine ⟨?_, ?_⟩
  · obtain ⟨answered, waiting, unsent, asked, answers, merge, requests⟩ :=
      invariant.sorted
    refine ⟨answered, waiting ++ unsent, asked, answers, ?_⟩
    rw [CheckSystem.unanswered, requests, merge.inOrder,
      List.length_append, List.length_map, List.length_map,
      Nat.add_comm]
  · obtain ⟨processes, drains⟩ := invariant.drains
    exact
      ⟨processes, _,
        @Run.of_act _ _ CheckStep CheckSystem.act (fun _ _ => rfl) final
          (processes.map CheckAction.process),
        drains⟩

/-- A check of port 80 and one of port 32768, and an application listens. -/
def listensLate : List CheckAction :=
  [.check 80, .check 0x8000, .process .checkInMultiplexer,
    .process .checkInMultiplexer, .process (.freePortTable false),
    .process .listeningPortTable, .listenPort ⟨80, 3⟩,
    .process .listeningPortTable, .process .checkOutMultiplexer,
    .process .checkOutMultiplexer]

theorem portChecks_answered_late :
    let final := listensLate.foldl CheckSystem.act CheckSystem.start
    ∃ answered waiting,
      final.asked = answered ++ waiting ∧
        List.Forall₂ final.Answers answered final.given ∧
          waiting.length = 1 :=
  (portChecks_answered
    (@Run.of_act _ _ CheckStep CheckSystem.act (fun _ _ => rfl)
      CheckSystem.start listensLate)).1

/-- The port is open when the answer comes, which was read before. -/
theorem not_portChecks_answered :
    ¬ ∀ (actions : List CheckAction) (final : CheckSystem),
      Run CheckStep CheckSystem.start actions final →
      ∃ answered waiting,
        final.asked = answered ++ waiting ∧
          List.Forall₂ final.AnswersWithRole answered final.given := by
  intro all
  obtain ⟨answered, waiting, asked, answers⟩ :=
    all listensLate _
      (@Run.of_act _ _ CheckStep CheckSystem.act (fun _ _ => rfl)
        CheckSystem.start listensLate)
  have given :
      (listensLate.foldl CheckSystem.act CheckSystem.start).given =
        [⟨⟨false, 0⟩, 9⟩] :=
    rfl
  rw [given] at answers
  cases answers with
  | @cons check _ others _ answers none =>
      have isCheck : (⟨80, 0⟩ : AskedCheck) = check :=
        (List.cons.inj asked).1
      rw [← isCheck] at answers
      have isReported :=
        answers.2 rfl 8 (by decide) _ 3 rfl rfl
      cases isReported

end TcpOffload
