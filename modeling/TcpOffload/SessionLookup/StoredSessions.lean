import TcpOffload.Library.Listed
import TcpOffload.SessionLookup.Calls

/-!
# The sessions that the CAM stores

Beside a CAM that executes every insertion, the controller creates a session
only for a tuple that has none, and the CAM keeps the session of a tuple from
its creation until it is deleted.  The entries of the CAM are those of the
insertions on their way back, of the sessions and of the deletions on their
way to it.
-/

namespace TcpOffload

open Custody Guarded Listed

/-! ## The entries -/

/-- The sessions in the reverse table. -/
def SlookupState.validEntries (state : SlookupState) :
    List (CamTuple × TcpSessionID) :=
  ((List.range tcpMaxSessions).filter fun id =>
      state.validTuple (BitVec.ofNat 16 id)).map fun id =>
    ((state.slookupRevTable (BitVec.ofNat 16 id)).tuple,
      BitVec.ofNat 16 id)

namespace IdSystem

/-- The insertions that the CAM has executed and the controller has not
answered. -/
def answeredEntries (system : IdSystem) :
    List (CamTuple × TcpSessionID) :=
  (system.slookup.camUpdRsps.filter fun rsp => rsp.op = .insert).map
      (fun rsp => (rsp.key, rsp.sessionId)) ++
    system.slookup.camInsertRsps.map fun rsp => (rsp.key, rsp.sessionId)

/-- The sessions, from the answer to their creation to the execution of their
deletion. -/
def sessionEntries (system : IdSystem) :
    List (CamTuple × TcpSessionID) :=
  system.slookup.reverseTableInsertReqs.map
      (fun req => (req.tupleValue, req.key)) ++
    system.slookup.validEntries ++
    system.slookup.camDeleteReqs.map (fun req => (req.key, req.value)) ++
    (system.camUpdReqs.filter fun req => req.op = .delete).map
      fun req => (req.key, req.value)

/-- The insertion that the CAM has not executed. -/
def requestedEntries (system : IdSystem) :
    List (CamTuple × TcpSessionID) :=
  system.slookup.camInsertReqs.map (fun req => (req.key, req.value)) ++
    (system.camUpdReqs.filter fun req => req.op = .insert).map
      fun req => (req.key, req.value)

theorem inserting_eq (system : IdSystem) :
    system.inserting =
      system.requestedEntries ++ system.answeredEntries := by
  simp [inserting, requestedEntries, answeredEntries]

end IdSystem

/-- A session that becomes valid. -/
theorem validEntries_insert {state next : SlookupState}
    {req : SlookupToRevTableUpdReq}
    (inRange : req.key.toNat < tcpMaxSessions)
    (notValid : state.validTuple req.key = false)
    (table :
      next.slookupRevTable =
        Function.update state.slookupRevTable req.key
          ⟨req.tupleValue, req.roleValue⟩)
    (valid :
      next.validTuple = Function.update state.validTuple req.key true) :
    next.validEntries.Perm
      ((req.tupleValue, req.key) :: state.validEntries) := by
  have moved := IdSystem.filter_update_true inRange notValid
  rw [← valid] at moved
  have self : BitVec.ofNat 16 req.key.toNat = req.key := by
    simp
  have others :
      ((List.range tcpMaxSessions).filter fun id =>
          state.validTuple (BitVec.ofNat 16 id)).map
          (fun id =>
            ((next.slookupRevTable (BitVec.ofNat 16 id)).tuple,
              BitVec.ofNat 16 id)) =
        state.validEntries := by
    apply List.map_congr_left
    intro id member
    have isValid := (List.mem_filter.1 member).2
    have isOther : BitVec.ofNat 16 id ≠ req.key := by
      intro same
      rw [same, notValid] at isValid
      cases isValid
    rw [table, Function.update_of_ne isOther]
  have entries := moved.map fun id =>
    ((next.slookupRevTable (BitVec.ofNat 16 id)).tuple,
      BitVec.ofNat 16 id)
  rw [List.map_cons, others, self, table, Function.update_self] at entries
  rw [SlookupState.validEntries, table]
  exact entries

/-- A session that is released. -/
theorem validEntries_release {state next : SlookupState}
    {id : TcpSessionID}
    (inRange : id.toNat < tcpMaxSessions)
    (isValid : state.validTuple id = true)
    (table : next.slookupRevTable = state.slookupRevTable)
    (valid :
      next.validTuple = Function.update state.validTuple id false) :
    state.validEntries.Perm
      (((state.slookupRevTable id).tuple, id) :: next.validEntries) := by
  have moved := IdSystem.filter_update_false inRange isValid
  rw [← valid] at moved
  have self : BitVec.ofNat 16 id.toNat = id := by
    simp
  have entries := moved.map fun other =>
    ((state.slookupRevTable (BitVec.ofNat 16 other)).tuple,
      BitVec.ofNat 16 other)
  rw [List.map_cons, self] at entries
  rw [SlookupState.validEntries, SlookupState.validEntries, table]
  exact entries

/-! ## The invariant -/

/-- The session whose creation a call answers. -/
def SlookupState.answersCreation (state : SlookupState) :
    SlookupProcess → Option (CamTuple × TcpSessionID)
  | .camLookupRspHandler =>
      match state.slcFsmState, state.camInsertRsps,
        state.toRevTableReqCacheValid with
      | .updRsp, rsp :: _, true =>
          some (state.toRevTableReqCache.tuple, rsp.sessionId)
      | _, _, _ => none
  | _ => none

/-- The sessions of the tuples, where a call may answer a creation. -/
def SlookupState.liveAfter (state : SlookupState)
    (process : SlookupProcess) (live : CamTuple → Option TcpSessionID) :
    CamTuple → Option TcpSessionID :=
  match state.answersCreation process with
  | some (tuple, id) => Function.update live tuple (some id)
  | none => live

/-- The CAM has the sessions and the insertions it has executed; whoever is
inserted next is not in it. -/
structure StoredSessions (system : CamSystem)
    (live : CamTuple → Option TcpSessionID) : Prop where
  inCustody : system.ids.InCustody
  contents :
    Lists (system.ids.answeredEntries ++ system.ids.sessionEntries)
      system.cam
  sessions : Lists system.ids.sessionEntries live
  phase :
    LookupPhase system.ids.slookup.toCamReqCache.tuple (fun _ => True)
      system.ids.slookup.slcFsmState system.camLupReqs
      system.ids.slookup.camLupRsps system.ids.inserting
  cached :
    system.ids.slookup.slcFsmState = .updRsp →
      system.ids.slookup.toRevTableReqCache.tuple =
        system.ids.slookup.toCamReqCache.tuple
  missed :
    ∀ rsp ∈ system.ids.slookup.camLupRsps,
      rsp.hit = false →
        system.cam system.ids.slookup.toCamReqCache.tuple = none
  requested :
    ∀ item ∈ system.ids.requestedEntries, system.cam item.1 = none
  succeeded :
    ∀ rsp ∈
        system.ids.slookup.camUpdRsps ++ system.ids.slookup.camInsertRsps,
      rsp.success = true

namespace StoredSessions

variable {system next : CamSystem}
variable {live : CamTuple → Option TcpSessionID}

/-- A step that leaves the CAM and the lookup under way alone, and moves
entries along. -/
theorem moves (stored : StoredSessions system live)
    (inCustody : next.ids.InCustody)
    (cam : next.cam = system.cam)
    (answered :
      next.ids.answeredEntries.Perm system.ids.answeredEntries)
    (sessions : next.ids.sessionEntries.Perm system.ids.sessionEntries)
    (requested :
      next.ids.requestedEntries.Perm system.ids.requestedEntries)
    (camLupReqs : next.camLupReqs = system.camLupReqs)
    (camLupRsps :
      next.ids.slookup.camLupRsps = system.ids.slookup.camLupRsps)
    (fsm : next.ids.slookup.slcFsmState = system.ids.slookup.slcFsmState)
    (camCache :
      next.ids.slookup.toCamReqCache = system.ids.slookup.toCamReqCache)
    (revTableCache :
      next.ids.slookup.toRevTableReqCache =
        system.ids.slookup.toRevTableReqCache)
    (succeeded :
      ∀ rsp ∈
          next.ids.slookup.camUpdRsps ++ next.ids.slookup.camInsertRsps,
        rsp ∈
          system.ids.slookup.camUpdRsps ++
            system.ids.slookup.camInsertRsps) :
    StoredSessions next live where
  inCustody := inCustody
  contents := by
    rw [cam]
    exact stored.contents.perm (answered.append sessions)
  sessions := stored.sessions.perm sessions
  phase := by
    rw [fsm, camCache, camLupReqs, camLupRsps, IdSystem.inserting_eq]
    refine stored.phase.perm ?_
    rw [IdSystem.inserting_eq]
    exact requested.append answered
  cached := by
    rw [fsm, camCache, revTableCache]
    exact stored.cached
  missed := by
    rw [camLupRsps, camCache, cam]
    exact stored.missed
  requested := by
    rw [cam]
    intro item member
    exact stored.requested item (requested.mem_iff.1 member)
  succeeded := fun rsp member =>
    stored.succeeded rsp (succeeded rsp member)

/-- At most one session is being inserted. -/
theorem short (stored : StoredSessions system live) :
    system.ids.inserting.length ≤ 1 := by
  have phase := stored.phase
  generalize system.ids.slookup.slcFsmState = fsm at phase
  generalize system.camLupReqs = reqs at phase
  generalize system.ids.slookup.camLupRsps = rsps at phase
  generalize system.ids.inserting = inserting at phase ⊢
  cases phase with
  | idle | asked | answered | creates =>
      simp

/-- While no lookup is under way, nothing is being inserted. -/
theorem idle (stored : StoredSessions system live)
    (lupReq : system.ids.slookup.slcFsmState = .lupReq) :
    system.camLupReqs = [] ∧ system.ids.slookup.camLupRsps = [] ∧
      system.ids.inserting = [] := by
  have phase := stored.phase
  rw [lupReq] at phase
  generalize system.camLupReqs = reqs at phase ⊢
  generalize system.ids.slookup.camLupRsps = rsps at phase ⊢
  generalize system.ids.inserting = none at phase ⊢
  cases phase with
  | idle =>
      exact ⟨rfl, rfl, rfl⟩

/-- A lookup that is answered is the only thing under way. -/
theorem answered (stored : StoredSessions system live)
    {rsp : RtlCamToSlookupLupRsp} {later : List RtlCamToSlookupLupRsp}
    (lupRsp : system.ids.slookup.slcFsmState = .lupRsp)
    (hasRsp : system.ids.slookup.camLupRsps = rsp :: later) :
    system.camLupReqs = [] ∧ later = [] ∧ system.ids.inserting = [] := by
  have phase := stored.phase
  rw [lupRsp, hasRsp] at phase
  generalize system.camLupReqs = reqs at phase ⊢
  generalize system.ids.inserting = none at phase ⊢
  cases phase with
  | answered =>
      exact ⟨rfl, rfl, rfl⟩

/-- A creation that is answered is that of the tuple looked up, and the only
thing under way. -/
theorem created (stored : StoredSessions system live)
    {rsp : RtlCamToSlookupUpdRsp} {later : List RtlCamToSlookupUpdRsp}
    (updRsp : system.ids.slookup.slcFsmState = .updRsp)
    (hasRsp : system.ids.slookup.camInsertRsps = rsp :: later) :
    system.camLupReqs = [] ∧ system.ids.slookup.camLupRsps = [] ∧
      rsp.key = system.ids.slookup.toCamReqCache.tuple ∧ later = [] ∧
      system.ids.requestedEntries = [] ∧
      system.ids.answeredEntries = [(rsp.key, rsp.sessionId)] := by
  have phase := stored.phase
  rw [updRsp] at phase
  have found :
      system.camLupReqs = [] ∧ system.ids.slookup.camLupRsps = [] ∧
        ∃ id,
          system.ids.inserting =
            [(system.ids.slookup.toCamReqCache.tuple, id)] := by
    generalize system.camLupReqs = reqs at phase ⊢
    generalize system.ids.slookup.camLupRsps = rsps at phase ⊢
    generalize system.ids.inserting = inserting at phase ⊢
    cases phase with
    | creates =>
        exact ⟨rfl, rfl, _, rfl⟩
  obtain ⟨noReqs, noRsps, id, only⟩ := found
  have all := only
  rw [IdSystem.inserting_eq, IdSystem.answeredEntries, hasRsp] at all
  simp only [List.map_cons, List.append_eq_singleton_iff,
    List.append_eq_nil_iff, List.map_eq_nil_iff, reduceCtorEq, and_false,
    or_false, List.cons.injEq, Prod.mk.injEq] at all
  obtain ⟨noRequest, noRsp, ⟨isTuple, _⟩, noneLater⟩ := all
  refine ⟨noReqs, noRsps, isTuple, noneLater, noRequest, ?_⟩
  rw [IdSystem.answeredEntries, hasRsp, noneLater]
  simp [noRsp]

/-- A call that only moves entries along. -/
theorem call_moves (stored : StoredSessions system live)
    {process : SlookupProcess} {state : SlookupState}
    {msgs : List SlookupMsg}
    (call : SlookupCall system.ids.slookup process state msgs)
    (other : process ≠ .camLookupRspHandler)
    {inserts deletes : Nat}
    (inCustody :
      IdSystem.InCustody
        ⟨state, system.ids.camUpdReqs ++ msgs.filterMap SlookupMsg.toCamUpd,
          inserts, deletes⟩) :
    StoredSessions
      ⟨⟨state, system.ids.camUpdReqs ++ msgs.filterMap SlookupMsg.toCamUpd,
          inserts, deletes⟩, system.cam,
        system.camLupReqs ++ msgs.filterMap SlookupMsg.toCamLup⟩ live := by
  cases call with
  | waits =>
      exact
        stored.moves inCustody rfl (List.Perm.refl _) (by
          simp [IdSystem.sessionEntries, SlookupMsg.toCamUpd]) (by
          simp [IdSystem.requestedEntries, SlookupMsg.toCamUpd])
          (List.append_nil _) rfl rfl rfl rfl fun _ member => member
  | frees availableIds releasedIds curSessionId isNext =>
      subst isNext
      exact
        stored.moves inCustody rfl (List.Perm.refl _) (by
          simp [IdSystem.sessionEntries, SlookupState.validEntries])
          (by simp [IdSystem.requestedEntries])
          (List.append_nil _) rfl rfl rfl rfl fun _ member => member
  | asks | creates | answers | created =>
      exact absurd rfl other
  | @sendsInsert _ req later inserting isNext =>
      subst isNext
      have isInsert : req.op = .insert := by
        apply stored.inCustody.insertOps
        rw [inserting]
        exact List.mem_cons_self
      refine
        stored.moves inCustody rfl (List.Perm.refl _) ?_ ?_
          (List.append_nil _) rfl rfl rfl rfl fun _ member => member
      · simp [IdSystem.sessionEntries, SlookupState.validEntries,
          SlookupMsg.toCamUpd, isInsert]
      · rw [List.perm_iff_count]
        intro item
        simp only [IdSystem.requestedEntries, SlookupMsg.toCamUpd,
          List.filterMap_cons, List.filterMap_nil, inserting,
          List.filter_append, List.filter_cons, List.filter_nil, isInsert,
          decide_true, if_true, List.map_append, List.map_cons,
          List.map_nil, List.count_append, List.count_cons,
          List.count_nil]
        omega
  | @sendsDelete _ req later _ deleting isNext =>
      subst isNext
      have isDelete : req.op = .delete := by
        apply stored.inCustody.deleteOps
        rw [deleting]
        exact List.mem_cons_self
      refine
        stored.moves inCustody rfl (List.Perm.refl _) ?_ ?_
          (List.append_nil _) rfl rfl rfl rfl fun _ member => member
      · rw [List.perm_iff_count]
        intro item
        simp only [IdSystem.sessionEntries, SlookupState.validEntries,
          SlookupMsg.toCamUpd, List.filterMap_cons, List.filterMap_nil,
          deleting, List.filter_append, List.filter_cons, List.filter_nil,
          isDelete, decide_true, if_true, List.map_append, List.map_cons,
          List.map_nil, List.count_append, List.count_cons,
          List.count_nil]
        omega
      · simp [IdSystem.requestedEntries, SlookupMsg.toCamUpd, isDelete]
  | @keeps _ rsp later hasRsp isInsert isNext =>
      subst isNext
      refine
        stored.moves inCustody rfl ?_ ?_ ?_ (List.append_nil _) rfl rfl rfl
          rfl ?_
      · rw [List.perm_iff_count]
        intro item
        simp only [IdSystem.answeredEntries, hasRsp, List.filter_cons,
          isInsert, decide_true, if_true, List.map_append, List.map_cons,
          List.map_nil, List.count_append, List.count_cons,
          List.count_nil]
        omega
      · simp [IdSystem.sessionEntries, SlookupState.validEntries]
      · simp [IdSystem.requestedEntries]
      · intro other member
        rw [hasRsp]
        simp only [List.mem_append, List.mem_cons] at member ⊢
        tauto
  | @drops _ rsp later hasRsp notInsert isNext =>
      subst isNext
      refine
        stored.moves inCustody rfl ?_ ?_ ?_ (List.append_nil _) rfl rfl rfl
          rfl ?_
      · simp [IdSystem.answeredEntries, hasRsp, notInsert]
      · simp [IdSystem.sessionEntries, SlookupState.validEntries]
      · simp [IdSystem.requestedEntries]
      · intro other member
        rw [hasRsp]
        simp only [List.mem_append, List.mem_cons] at member ⊢
        tauto
  | @inserts _ req later queued isNext =>
      obtain ⟨inRange, notValid⟩ :=
        stored.inCustody.notValid_of_queued queued
      have entries : state.validEntries.Perm _ :=
        validEntries_insert inRange notValid (by rw [isNext])
          (by rw [isNext])
      refine
        stored.moves inCustody rfl (by rw [isNext]; exact List.Perm.refl _)
          ?_ (by rw [isNext]; simp [IdSystem.requestedEntries])
          (List.append_nil _) (by rw [isNext]) (by rw [isNext])
          (by rw [isNext]) (by rw [isNext])
          (by rw [isNext]; exact fun _ member => member)
      rw [List.perm_iff_count] at entries ⊢
      intro item
      have counted := entries item
      simp only [IdSystem.sessionEntries, queued, List.map_cons,
        List.count_append, List.count_cons, List.filterMap_nil,
        List.append_nil] at counted ⊢
      rw [isNext] at counted ⊢
      dsimp only at counted ⊢
      omega
  | tells txEngRevTableReqs rxAppTdestReqs txAppTdestReqs msg noLookup
      noUpdate isNext =>
      subst isNext
      rw [noLookup]
      refine
        stored.moves inCustody rfl (List.Perm.refl _) ?_ ?_
          (List.append_nil _) rfl rfl rfl rfl fun _ member => member
      · simp [IdSystem.sessionEntries, SlookupState.validEntries, noUpdate]
      · simp [IdSystem.requestedEntries, noUpdate]
  | @releases _ id later port queued valid isNext =>
      have entries : system.ids.slookup.validEntries.Perm _ :=
        @validEntries_release _ state _ (stored.inCustody.inRange id valid)
          valid (by rw [isNext]) (by rw [isNext])
      refine
        stored.moves inCustody rfl (by rw [isNext]; exact List.Perm.refl _)
          ?_ (by
            rw [isNext]
            simp [IdSystem.requestedEntries, SlookupMsg.toCamUpd,
              List.filterMap_cons])
          (List.append_nil _) (by rw [isNext]) (by rw [isNext])
          (by rw [isNext]) (by rw [isNext])
          (by rw [isNext]; exact fun _ member => member)
      rw [List.perm_iff_count] at entries ⊢
      intro item
      have counted := entries item
      simp only [IdSystem.sessionEntries, SlookupMsg.toCamUpd,
        List.filterMap_cons, List.filterMap_nil, List.append_nil,
        List.count_append, List.count_cons] at counted ⊢
      rw [isNext] at counted ⊢
      simp only [List.map_append, List.map_cons, List.map_nil,
        List.count_append, List.count_cons, List.count_nil]
        at counted ⊢
      omega
  | @ignores _ id later queued notValid isNext =>
      subst isNext
      have same :
          Function.update system.ids.slookup.validTuple id false =
            system.ids.slookup.validTuple := by
        rw [← notValid, Function.update_eq_self]
      refine
        stored.moves inCustody rfl (List.Perm.refl _) ?_ ?_
          (List.append_nil _) rfl rfl rfl rfl fun _ member => member
      · simp [IdSystem.sessionEntries, SlookupState.validEntries, same]
      · simp [IdSystem.requestedEntries]

theorem call_lookUps (stored : StoredSessions system live)
    {state : SlookupState} {msgs : List SlookupMsg}
    (call :
      SlookupCall system.ids.slookup .camLookupRspHandler state msgs)
    {inserts deletes : Nat}
    (inCustody :
      IdSystem.InCustody
        ⟨state, system.ids.camUpdReqs ++ msgs.filterMap SlookupMsg.toCamUpd,
          inserts, deletes⟩)
    (notCreated :
      system.ids.slookup.answersCreation .camLookupRspHandler = none) :
    StoredSessions
      ⟨⟨state, system.ids.camUpdReqs ++ msgs.filterMap SlookupMsg.toCamUpd,
          inserts, deletes⟩, system.cam,
        system.camLupReqs ++ msgs.filterMap SlookupMsg.toCamLup⟩ live := by
  cases call with
  | waits =>
      exact
        stored.moves inCustody rfl (List.Perm.refl _)
          (by simp [IdSystem.sessionEntries])
          (by simp [IdSystem.requestedEntries])
          (List.append_nil _) rfl rfl rfl rfl fun _ member => member
  | asks req txAppReqs rxEngReqs lupReq isNext =>
      subst isNext
      obtain ⟨noReqs, noRsps, nothing⟩ := stored.idle lupReq
      have noRequest : system.ids.requestedEntries = [] := by
        rw [IdSystem.inserting_eq] at nothing
        exact (List.append_eq_nil_iff.1 nothing).1
      have sameUpdates :
          system.ids.camUpdReqs ++
              [SlookupMsg.camLupReq ⟨req.tuple, req.source⟩].filterMap
                SlookupMsg.toCamUpd =
            system.ids.camUpdReqs :=
        List.append_nil _
      rw [sameUpdates] at inCustody ⊢
      exact
        { stored with
          inCustody := inCustody
          phase := by
            change
              LookupPhase req.tuple _ .lupRsp
                (system.camLupReqs ++ [⟨req.tuple, req.source⟩])
                system.ids.slookup.camLupRsps system.ids.inserting
            rw [noReqs, noRsps, nothing]
            exact LookupPhase.asked rfl
          cached := fun updRsp => by cases updRsp
          missed := by
            intro rsp member
            change rsp ∈ system.ids.slookup.camLupRsps at member
            rw [noRsps] at member
            cases member }
  | @creates _ rsp later id ids lupRsp hasRsp missed available isNext =>
      subst isNext
      obtain ⟨noReqs, noneLater, nothing⟩ := stored.answered lupRsp hasRsp
      have absent :
          system.cam system.ids.slookup.toCamReqCache.tuple = none := by
        refine stored.missed rsp ?_ missed
        rw [hasRsp]
        exact List.mem_cons_self
      have noRequest :
          system.ids.requestedEntries = [] ∧
            system.ids.answeredEntries = [] := by
        rw [IdSystem.inserting_eq] at nothing
        exact List.append_eq_nil_iff.1 nothing
      obtain ⟨noRequest, noAnswer⟩ := noRequest
      have noParts := noRequest
      simp only [IdSystem.requestedEntries, List.append_eq_nil_iff,
        List.map_eq_nil_iff] at noParts
      have sameUpdates :
          system.ids.camUpdReqs ++
              ([] : List SlookupMsg).filterMap SlookupMsg.toCamUpd =
            system.ids.camUpdReqs :=
        List.append_nil _
      rw [sameUpdates] at inCustody ⊢
      refine
        { stored with
          inCustody := inCustody
          phase := ?_
          cached := fun _ => rfl
          missed := ?_
          requested := ?_ }
      · rw [IdSystem.inserting_eq]
        change
          LookupPhase _ _ .updRsp (system.camLupReqs ++ []) later
            (_ ++ system.ids.answeredEntries)
        rw [noReqs, noneLater, noAnswer]
        simp only [IdSystem.requestedEntries, noParts.1, noParts.2,
          List.nil_append, List.map_cons, List.map_nil, List.append_nil]
        exact LookupPhase.creates
      · intro other member
        change other ∈ later at member
        rw [noneLater] at member
        cases member
      · intro item member
        simp only [IdSystem.requestedEntries, noParts.1, noParts.2,
          List.nil_append, List.map_cons, List.map_nil, List.append_nil,
          List.mem_singleton] at member
        rw [member]
        exact absent
  | @answers _ rsp later lupRsp hasRsp isNext =>
      subst isNext
      obtain ⟨noReqs, noneLater, nothing⟩ := stored.answered lupRsp hasRsp
      have silent :=
        IdSystem.silent_rspTo rsp.source
          ⟨rsp.sessionId, rsp.hit,
            system.ids.slookup.toCamReqCache.roleId⟩
      rw [silent, List.append_nil] at inCustody ⊢
      rw [CamSystem.noLookup_rspTo, List.append_nil]
      refine
        { stored with
          inCustody := inCustody
          phase := ?_
          cached := fun updRsp => by cases updRsp
          missed := ?_ }
      · change
          LookupPhase _ _ .lupReq system.camLupReqs later
            system.ids.inserting
        rw [noReqs, noneLater, nothing]
        exact LookupPhase.idle
      · intro other member
        change other ∈ later at member
        rw [noneLater] at member
        cases member
  | @created _ rsp later updRsp hasRsp cacheValid isNext =>
      rw [SlookupState.answersCreation, updRsp, hasRsp, cacheValid]
        at notCreated
      cases notCreated

/-- A creation is answered only for a tuple without a session, and only when
its insertion has succeeded. -/
theorem answersCreation (stored : StoredSessions system live)
    {rsp : RtlCamToSlookupUpdRsp} {later : List RtlCamToSlookupUpdRsp}
    (updRsp : system.ids.slookup.slcFsmState = .updRsp)
    (hasRsp : system.ids.slookup.camInsertRsps = rsp :: later) :
    rsp.success = true ∧
      rsp.key = system.ids.slookup.toRevTableReqCache.tuple ∧
      system.cam rsp.key = some rsp.sessionId ∧ live rsp.key = none := by
  obtain ⟨_, _, isTuple, _, _, only⟩ := stored.created updRsp hasRsp
  have contents := stored.contents
  rw [only] at contents
  refine ⟨?_, ?_, ?_, ?_⟩
  · apply stored.succeeded
    rw [hasRsp]
    exact List.mem_append_right _ List.mem_cons_self
  · exact isTuple.trans (stored.cached updRsp).symm
  · exact (contents.mem_iff _ _).1 List.mem_cons_self
  · exact stored.sessions.eq_none contents.eq_none_of_cons

/-- The session whose creation is answered goes to the reverse table. -/
theorem call_created (stored : StoredSessions system live)
    {state : SlookupState} {rsp : RtlCamToSlookupUpdRsp}
    {later : List RtlCamToSlookupUpdRsp}
    (updRsp : system.ids.slookup.slcFsmState = .updRsp)
    (hasRsp : system.ids.slookup.camInsertRsps = rsp :: later)
    (isNext :
      state =
        { system.ids.slookup with
          camInsertRsps := later
          toRevTableReqCacheValid := false
          reverseTableInsertReqs :=
            system.ids.slookup.reverseTableInsertReqs ++
              [⟨rsp.sessionId, system.ids.slookup.toRevTableReqCache.tuple,
                system.ids.slookup.toRevTableReqCache.roleId⟩]
          slcFsmState := .lupReq })
    {inserts deletes : Nat}
    (inCustody :
      IdSystem.InCustody
        ⟨state, system.ids.camUpdReqs, inserts, deletes⟩) :
    StoredSessions
      ⟨⟨state, system.ids.camUpdReqs, inserts, deletes⟩, system.cam,
        system.camLupReqs⟩
      (Function.update live system.ids.slookup.toRevTableReqCache.tuple
        (some rsp.sessionId)) := by
  obtain ⟨noReqs, noRsps, isTuple, noneLater, noRequest, only⟩ :=
    stored.created updRsp hasRsp
  obtain ⟨_, isCached, inCam, notLive⟩ :=
    stored.answersCreation updRsp hasRsp
  subst isNext
  let entered : IdSystem :=
    ⟨{ system.ids.slookup with
        camInsertRsps := later
        toRevTableReqCacheValid := false
        reverseTableInsertReqs :=
          system.ids.slookup.reverseTableInsertReqs ++
            [⟨rsp.sessionId, system.ids.slookup.toRevTableReqCache.tuple,
              system.ids.slookup.toRevTableReqCache.roleId⟩]
        slcFsmState := .lupReq },
      system.ids.camUpdReqs, inserts, deletes⟩
  have noAnswer : entered.answeredEntries = [] := by
    have none := only
    simp only [IdSystem.answeredEntries, hasRsp, noneLater, List.map_cons,
      List.map_nil, List.append_eq_singleton_iff, List.cons_ne_nil,
      and_false, or_false] at none
    simp [IdSystem.answeredEntries, entered, none.1, noneLater]
  have entries :
      entered.sessionEntries.Perm
        ((rsp.key, rsp.sessionId) :: system.ids.sessionEntries) := by
    rw [List.perm_iff_count]
    intro item
    simp only [IdSystem.sessionEntries, SlookupState.validEntries,
      List.map_append, List.map_cons, List.map_nil, List.count_append,
      List.count_cons, List.count_nil, entered, isCached]
    omega
  have contents := stored.contents
  rw [only] at contents
  refine
    { inCustody := inCustody
      contents := ?_
      sessions := ?_
      phase := ?_
      cached := fun updRsp => by cases updRsp
      missed := ?_
      requested := ?_
      succeeded := ?_ }
  · change Lists (entered.answeredEntries ++ entered.sessionEntries) _
    rw [noAnswer]
    exact contents.perm entries
  · have sessions :=
      (stored.sessions.insert rsp.sessionId notLive).perm entries
    rw [isCached] at sessions
    exact sessions
  · have nothing : entered.inserting = [] := by
      rw [IdSystem.inserting_eq, noAnswer, List.append_nil]
      exact noRequest
    change
      LookupPhase _ _ .lupReq system.camLupReqs
        system.ids.slookup.camLupRsps entered.inserting
    rw [noReqs, noRsps, nothing]
    exact LookupPhase.idle
  · intro other member
    change other ∈ system.ids.slookup.camLupRsps at member
    rw [noRsps] at member
    cases member
  · exact stored.requested
  · intro other member
    apply stored.succeeded
    rw [hasRsp]
    change other ∈ system.ids.slookup.camUpdRsps ++ later at member
    simp only [List.mem_append, List.mem_cons] at member ⊢
    tauto

/-- The call that answers a creation. -/
theorem call_answersCreation (stored : StoredSessions system live)
    {tuple : CamTuple} {id : TcpSessionID}
    (creation :
      system.ids.slookup.answersCreation .camLookupRspHandler =
        some (tuple, id)) :
    StoredSessions (system.call .camLookupRspHandler)
      (Function.update live tuple (some id)) := by
  rw [SlookupState.answersCreation] at creation
  split at creation
  next rsp later updRsp hasRsp cacheValid =>
    cases creation
    have taken :
        SlookupProcess.call system.ids.slookup .camLookupRspHandler =
          system.ids.slookup.takeUpdRsp := by
      rw [SlookupProcess.call, camLookupRspHandler, updRsp]
    rw [SlookupState.takeUpdRsp, hasRsp, cacheValid] at taken
    dsimp only at taken
    have silent :=
      IdSystem.silent_rspTo rsp.source
        ⟨rsp.sessionId, true,
          system.ids.slookup.toRevTableReqCache.roleId⟩
    have inCustody :=
      IdSystem.inCustody_call .camLookupRspHandler stored.inCustody
    rw [system.ids.call_silent taken silent] at inCustody
    rw [system.call_silent taken silent (CamSystem.noLookup_rspTo _ _)]
    exact stored.call_created updRsp hasRsp rfl inCustody
  next =>
    cases creation

/-- Every call of the controller. -/
theorem call (stored : StoredSessions system live)
    (process : SlookupProcess) :
    StoredSessions (system.call process)
      (system.ids.slookup.liveAfter process live) := by
  rw [SlookupState.liveAfter]
  cases creation : system.ids.slookup.answersCreation process with
  | some item =>
      cases process with
      | camLookupRspHandler =>
          exact stored.call_answersCreation creation
      | getNewAvailableSessionId | camUpdateReqSender |
          camUpdateRspHandler | slookupReverseTableInterface =>
          cases creation
  | none =>
      have inCustody := IdSystem.inCustody_call process stored.inCustody
      have cases := process.call_cases system.ids.slookup
      rw [CamSystem.call]
      rw [IdSystem.call] at inCustody ⊢
      generalize process.call system.ids.slookup = called
        at inCustody cases ⊢
      by_cases isLookup : process = .camLookupRspHandler
      · subst isLookup
        exact stored.call_lookUps cases inCustody creation
      · exact stored.call_moves cases isLookup inCustody

/-! ### The CAM and the inputs -/

theorem receive (stored : StoredSessions system live)
    {input : SlookupInput} (notLookup : ∀ rsp, input ≠ .camLupRsp rsp) :
    StoredSessions (system.receive input) live := by
  have inCustody :=
    IdSystem.inCustody_step stored.inCustody (IdStep.input input)
  cases input with
  | camLupRsp rsp =>
      exact absurd rfl (notLookup rsp)
  | rxEngReq | txAppReq | sttableReleaseReq | rxAppTdestReq |
      txAppTdestReq | txEngRevTableReq =>
      exact
        stored.moves inCustody rfl (List.Perm.refl _) (List.Perm.refl _)
          (List.Perm.refl _) rfl rfl rfl rfl rfl fun _ member => member

theorem camLookup (stored : StoredSessions system live)
    {req : RtlSlookupToCamLupReq} {later : List RtlSlookupToCamLupReq}
    {rsp : RtlCamToSlookupLupRsp}
    (asked : system.camLupReqs = req :: later)
    (looksUp :
      (if rsp.hit then some rsp.sessionId else none) =
        system.cam req.key) :
    StoredSessions
      { system.receive (.camLupRsp rsp) with camLupReqs := later }
      live := by
  have phase := stored.phase
  rw [asked] at phase
  have inCustody :=
    IdSystem.inCustody_step stored.inCustody
      (IdStep.input (.camLupRsp rsp))
  have known :
      req.key = system.ids.slookup.toCamReqCache.tuple ∧ later = [] ∧
        system.ids.slookup.camLupRsps = [] ∧
        system.ids.slookup.slcFsmState = .lupRsp ∧
        system.ids.inserting = [] := by
    generalize system.ids.slookup.slcFsmState = fsm at phase ⊢
    generalize system.ids.slookup.camLupRsps = rsps at phase ⊢
    generalize system.ids.inserting = inserting at phase ⊢
    cases phase with
    | asked isTuple =>
        exact ⟨isTuple, rfl, rfl, rfl, rfl⟩
  obtain ⟨isTuple, noneLater, noRsps, lupRsp, nothing⟩ := known
  exact
    { stored with
      inCustody := inCustody
      phase := by
        change
          LookupPhase _ _ system.ids.slookup.slcFsmState later
            (system.ids.slookup.camLupRsps ++ [rsp])
            system.ids.inserting
        rw [noneLater, noRsps, lupRsp, nothing]
        exact LookupPhase.answered fun _ => trivial
      missed := by
        intro other member miss
        change
          other ∈ system.ids.slookup.camLupRsps ++ [rsp] at member
        rw [noRsps, List.nil_append, List.mem_singleton] at member
        rw [member] at miss
        rw [miss] at looksUp
        change system.cam system.ids.slookup.toCamReqCache.tuple = none
        rw [← isTuple, ← looksUp]
        rfl }

/-- The CAM executes the oldest update. -/
theorem camUpdate (stored : StoredSessions system live)
    {req : RtlSlookupToCamUpdReq} {later : List RtlSlookupToCamUpdReq}
    (queued : system.ids.camUpdReqs = req :: later) :
    StoredSessions (system.updated req later)
      (if req.op = .delete then
        Function.update live req.key none
      else
        live) := by
  have inCustody :=
    CamSystem.inCustody_step stored.inCustody (CamStep.camUpdate queued)
  have inserting := CamSystem.inserting_updated queued
  have succeeded :
      ∀ rsp ∈
          (system.updated req later).ids.slookup.camUpdRsps ++
            (system.updated req later).ids.slookup.camInsertRsps,
        rsp.success = true := by
    intro rsp member
    change
      rsp ∈
        (system.ids.slookup.camUpdRsps ++ [req.rsp]) ++
          system.ids.slookup.camInsertRsps at member
    simp only [List.mem_append, List.mem_singleton] at member
    rcases member with (before | isNew) | back
    · exact stored.succeeded rsp (List.mem_append_left _ before)
    · rw [isNew]
      rfl
    · exact stored.succeeded rsp (List.mem_append_right _ back)
  cases isOp : req.op with
  | insert =>
      have absent : system.cam req.key = none := by
        refine stored.requested (req.key, req.value) ?_
        simp [IdSystem.requestedEntries, queued, isOp]
      have noneLeft :
          (system.updated req later).ids.requestedEntries = [] := by
        have moved :
            system.ids.requestedEntries.Perm
              ((req.key, req.value) ::
                (system.updated req later).ids.requestedEntries) := by
          rw [List.perm_iff_count]
          intro item
          simp only [IdSystem.requestedEntries, CamSystem.updated,
            IdSystem.answered, queued, isOp, List.filter_cons,
            decide_true, if_true, List.map_cons, List.count_append,
            List.count_cons]
          omega
        have short := stored.short
        rw [IdSystem.inserting_eq, List.length_append, moved.length_eq,
          List.length_cons] at short
        exact List.eq_nil_of_length_eq_zero (by omega)
      have answered :
          ((system.updated req later).ids.answeredEntries ++
              (system.updated req later).ids.sessionEntries).Perm
            ((req.key, req.value) ::
              (system.ids.answeredEntries ++
                system.ids.sessionEntries)) := by
        rw [List.perm_iff_count]
        intro item
        simp only [IdSystem.answeredEntries, IdSystem.sessionEntries,
          SlookupState.validEntries, CamSystem.updated,
          IdSystem.answered, RtlSlookupToCamUpdReq.rsp, queued, isOp,
          List.filter_append, List.filter_cons, List.filter_nil,
          decide_true, if_true, reduceCtorEq, decide_false,
          Bool.false_eq_true, if_false, List.map_append, List.map_cons,
          List.map_nil, List.count_append, List.count_cons,
          List.count_nil]
        omega
      have sessions :
          (system.updated req later).ids.sessionEntries =
            system.ids.sessionEntries := by
        simp [IdSystem.sessionEntries, SlookupState.validEntries,
          CamSystem.updated, IdSystem.answered, queued, isOp]
      have cam :
          (system.updated req later).cam =
            Function.update system.cam req.key (some req.value) := by
        rw [CamSystem.updated, if_pos isOp]
      have missed :
          ∀ rsp ∈ system.ids.slookup.camLupRsps, False := by
        intro rsp member
        have nonempty : system.ids.inserting ≠ [] := by
          simp [IdSystem.inserting, queued, isOp]
        have phase := stored.phase
        generalize system.ids.slookup.slcFsmState = fsm at phase
        generalize system.camLupReqs = reqs at phase
        generalize system.ids.slookup.camLupRsps = rsps at phase member
        generalize system.ids.inserting = inserting at phase nonempty
        cases phase with
        | idle | asked | answered =>
            exact nonempty rfl
        | creates =>
            cases member
      refine
        { inCustody := inCustody
          contents := ?_
          sessions := ?_
          phase := stored.phase.perm inserting
          cached := stored.cached
          missed := fun rsp member => (missed rsp member).elim
          requested := ?_
          succeeded := succeeded }
      · rw [cam]
        exact (stored.contents.insert req.value absent).perm answered
      · rw [sessions, if_neg (by decide)]
        exact stored.sessions
      · rw [noneLeft]
        intro item member
        cases member
  | delete =>
      have answered :
          (system.updated req later).ids.answeredEntries =
            system.ids.answeredEntries := by
        simp [IdSystem.answeredEntries, CamSystem.updated,
          IdSystem.answered, RtlSlookupToCamUpdReq.rsp, isOp]
      have sessions :
          system.ids.sessionEntries.Perm
            ((req.key, req.value) ::
              (system.updated req later).ids.sessionEntries) := by
        rw [List.perm_iff_count]
        intro item
        simp only [IdSystem.sessionEntries, SlookupState.validEntries,
          CamSystem.updated, IdSystem.answered, queued, isOp,
          List.filter_cons, decide_true, if_true, List.map_cons,
          List.count_append, List.count_cons]
        omega
      have requested :
          (system.updated req later).ids.requestedEntries =
            system.ids.requestedEntries := by
        simp [IdSystem.requestedEntries, CamSystem.updated,
          IdSystem.answered, queued, isOp]
      have cam :
          (system.updated req later).cam =
            Function.update system.cam req.key none := by
        rw [CamSystem.updated, if_neg (by rw [isOp]; decide)]
      have stillNone {tuple : CamTuple} (none : system.cam tuple = none) :
          (system.updated req later).cam tuple = Option.none := by
        rw [cam]
        by_cases isKey : tuple = req.key
        · rw [isKey, Function.update_self]
        · rw [Function.update_of_ne isKey]
          exact none
      refine
        { inCustody := inCustody
          contents := ?_
          sessions := ?_
          phase := stored.phase.perm inserting
          cached := stored.cached
          missed := fun rsp member miss =>
            stillNone (stored.missed rsp member miss)
          requested := ?_
          succeeded := succeeded }
      · have moved :
            ((req.key, req.value) ::
                (system.ids.answeredEntries ++
                  (system.updated req later).ids.sessionEntries)).Perm
              (system.ids.answeredEntries ++
                system.ids.sessionEntries) :=
          List.perm_middle.symm.trans (sessions.symm.append_left _)
        rw [cam, answered]
        exact (stored.contents.perm moved).remove
      · rw [if_pos rfl]
        exact (stored.sessions.perm sessions.symm).remove
      · rw [requested]
        exact fun item member => stillNone (stored.requested item member)

/-! ### Every step -/

theorem start (table : TcpSessionID → RevTableEntry) :
    StoredSessions (CamSystem.start table) fun _ => none where
  inCustody := IdSystem.inCustody_start table
  contents := Lists.nil
  sessions := Lists.nil
  phase := LookupPhase.idle
  cached := fun updRsp => by cases updRsp
  missed := fun _ member => by cases member
  requested := fun _ member => by cases member
  succeeded := fun _ member => by cases member

/-- The CAM finds the session of every tuple that has one. -/
theorem cam_eq (stored : StoredSessions system live) {tuple : CamTuple}
    {id : TcpSessionID} (isLive : live tuple = some id) :
    system.cam tuple = some id :=
  (stored.contents.mem_iff tuple id).1
    (List.mem_append_right _
      ((stored.sessions.mem_iff tuple id).2 isLive))

end StoredSessions

end TcpOffload
