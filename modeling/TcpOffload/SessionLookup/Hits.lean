import TcpOffload.SessionLookup.SessionIds

/-!
# Whose session a hit is

A lookup that hits names a session.  The controller runs here beside a CAM
that executes its updates in order and its lookups at any time between them.
A released session stays in the CAM until its deletion gets there, and the
answer to a lookup may wait while the session is released.
-/

namespace TcpOffload

open Custody Guarded

/-! ## The controller and the CAM -/

/-- The controller with the contents of the CAM and the lookups it has not
answered. -/
structure CamSystem where
  ids : IdSystem
  cam : CamTuple → Option TcpSessionID
  camLupReqs : List RtlSlookupToCamLupReq

inductive CamAction where
  | process (process : SlookupProcess)
  | input (input : SlookupInput)
  | camLookup (rsp : RtlCamToSlookupLupRsp)
  | camUpdate

def SlookupMsg.toCamLup : SlookupMsg → Option RtlSlookupToCamLupReq
  | .camLupReq req => some req
  | _ => none

/-- The sessions that answers name as hits. -/
def SlookupMsg.toHit : SlookupMsg → Option TcpSessionID
  | .rxEngRsp rsp => if rsp.hit then some rsp.sessionId else none
  | .txAppRsp rsp => if rsp.hit then some rsp.sessionId else none
  | _ => none

def RtlSlookupToCamUpdReq.rsp (req : RtlSlookupToCamUpdReq) :
    RtlCamToSlookupUpdRsp :=
  ⟨req.op, req.key, req.value, true, req.source⟩

namespace CamSystem

def start (table : TcpSessionID → RevTableEntry) : CamSystem where
  ids := IdSystem.start table
  cam := fun _ => none
  camLupReqs := []

def call (system : CamSystem) (process : SlookupProcess) : CamSystem :=
  { system with
    ids := system.ids.call process
    camLupReqs :=
      system.camLupReqs ++
        (process.call system.ids.slookup).2.filterMap
          SlookupMsg.toCamLup }

def receive (system : CamSystem) (input : SlookupInput) : CamSystem :=
  { system with
    ids :=
      { system.ids with slookup := system.ids.slookup.receive input } }

/-- The answer to an executed update. -/
def updated
    (system : CamSystem) (req : RtlSlookupToCamUpdReq)
    (later : List RtlSlookupToCamUpdReq) : CamSystem :=
  { system with
    ids := system.ids.answered req.rsp later
    cam :=
      Function.update system.cam req.key
        (if req.op = .insert then some req.value else none) }

end CamSystem

/-- The CAM answers a lookup from its contents and executes the oldest
update; a miss names any session. -/
inductive CamStep : CamSystem → CamAction → CamSystem → Prop
  | process {system : CamSystem} (process : SlookupProcess) :
      CamStep system (.process process) (system.call process)
  | input {system : CamSystem} (input : SlookupInput) :
      (∀ rsp, input ≠ .camLupRsp rsp) →
      CamStep system (.input input) (system.receive input)
  | camLookup {system : CamSystem} {req : RtlSlookupToCamLupReq}
      {later : List RtlSlookupToCamLupReq}
      {rsp : RtlCamToSlookupLupRsp} :
      system.camLupReqs = req :: later →
      rsp.source = req.source →
      (if rsp.hit then some rsp.sessionId else none) =
        system.cam req.key →
      CamStep system (.camLookup rsp)
        { system.receive (.camLupRsp rsp) with camLupReqs := later }
  | camUpdate {system : CamSystem} {req : RtlSlookupToCamUpdReq}
      {later : List RtlSlookupToCamUpdReq} :
      system.ids.camUpdReqs = req :: later →
      CamStep system .camUpdate (system.updated req later)

theorem CamStep.oneOutcome {system next other : CamSystem}
    {action : CamAction} (stepped : CamStep system action next)
    (otherStep : CamStep system action other) : other = next := by
  cases stepped with
  | process | input =>
      cases otherStep
      rfl
  | camLookup asked =>
      cases otherStep with
      | camLookup otherAsked =>
          rw [asked] at otherAsked
          rw [(List.cons.inj otherAsked).2]
  | camUpdate queued =>
      cases otherStep with
      | camUpdate otherQueued =>
          rw [queued] at otherQueued
          obtain ⟨sameReq, sameLater⟩ := List.cons.inj otherQueued
          rw [sameReq, sameLater]

/-! ## Whose an ID is -/

/-- The reverse table has the tuple as a valid session, or will get it. -/
def SlookupState.Owned
    (state : SlookupState) (tuple : CamTuple) (id : TcpSessionID) : Prop :=
  (state.validTuple id = true ∧ (state.slookupRevTable id).tuple = tuple) ∨
    ∃ req ∈ state.reverseTableInsertReqs,
      req.key = id ∧ req.tupleValue = tuple

namespace IdSystem

/-- The session is the tuple's, and on no way back to the free list. -/
structure Belongs
    (system : IdSystem) (tuple : CamTuple) (id : TcpSessionID) : Prop where
  owned : system.slookup.Owned tuple id
  notDeleted : id.toNat ∉ system.ids .pendingDelete
  notReleased : id.toNat ∉ system.ids .released
  notAvailable : id.toNat ∉ system.ids .available

/-- The deletion of the tuple has not reached the contents of the CAM. -/
def Deleting (system : IdSystem) (tuple : CamTuple) : Prop :=
  ∃ req ∈ system.slookup.camDeleteReqs ++ system.camUpdReqs,
    req.op = .delete ∧ req.key = tuple

/-- The session that is being created, from the FIFO to the CAM to the FIFO
back from it. -/
def inserting (system : IdSystem) : List (CamTuple × TcpSessionID) :=
  system.slookup.camInsertReqs.map (fun req => (req.key, req.value)) ++
    (system.camUpdReqs.filter fun req => req.op = .insert).map
      (fun req => (req.key, req.value)) ++
    (system.slookup.camUpdRsps.filter fun rsp => rsp.op = .insert).map
      (fun rsp => (rsp.key, rsp.sessionId)) ++
    system.slookup.camInsertRsps.map fun rsp => (rsp.key, rsp.sessionId)

end IdSystem

/-- The release that the reverse table takes next. -/
def SlookupState.nextRelease (state : SlookupState) :
    Option TcpSessionID :=
  match state.reverseTableInsertReqs, state.txEngRevTableReqs,
    state.rxAppTdestReqs, state.txAppTdestReqs with
  | [], [], [], [] => state.sttableReleaseReqs.head?
  | _, _, _, _ => none

/-- Every hit that a call answers is the session of the tuple looked up. -/
def HitsOwn (system : CamSystem) : CamAction → Prop
  | .process process =>
      ∀ id ∈
          (process.call system.ids.slookup).2.filterMap SlookupMsg.toHit,
        (system.ids.call process).Belongs
          system.ids.slookup.toCamReqCache.tuple id
  | _ => True

/-- The CAM finds no tuple whose deletion is on its way, and no session is
released between the CAM's answer to a lookup and the controller's. -/
def LooksUpLive (system : CamSystem) : CamAction → Prop
  | .camLookup _ =>
      ∀ req later,
        system.camLupReqs = req :: later →
          system.cam req.key ≠ none → ¬system.ids.Deleting req.key
  | .process .slookupReverseTableInterface =>
      ∀ rsp ∈ system.ids.slookup.camLupRsps,
        rsp.hit = true →
          system.ids.slookup.nextRelease ≠ some rsp.sessionId
  | _ => True

/-! ## The invariant -/

/-- The one lookup or creation that is under way. -/
inductive LookupPhase
    (tuple : CamTuple) (owned : TcpSessionID → Prop) :
    SlookupFsmState → List RtlSlookupToCamLupReq →
      List RtlCamToSlookupLupRsp → List (CamTuple × TcpSessionID) → Prop
  | idle : LookupPhase tuple owned .lupReq [] [] []
  | asked {req : RtlSlookupToCamLupReq} :
      req.key = tuple → LookupPhase tuple owned .lupRsp [req] [] []
  | answered {rsp : RtlCamToSlookupLupRsp} :
      (rsp.hit = true → owned rsp.sessionId) →
      LookupPhase tuple owned .lupRsp [] [rsp] []
  | creates {id : TcpSessionID} :
      LookupPhase tuple owned .updRsp [] [] [(tuple, id)]

theorem LookupPhase.map
    {tuple : CamTuple} {owned further : TcpSessionID → Prop}
    {fsm : SlookupFsmState} {reqs : List RtlSlookupToCamLupReq}
    {rsps : List RtlCamToSlookupLupRsp}
    {inserting : List (CamTuple × TcpSessionID)}
    (phase : LookupPhase tuple owned fsm reqs rsps inserting)
    (still :
      ∀ rsp ∈ rsps, rsp.hit = true →
        owned rsp.sessionId → further rsp.sessionId) :
    LookupPhase tuple further fsm reqs rsps inserting := by
  cases phase with
  | idle =>
      exact idle
  | asked isTuple =>
      exact asked isTuple
  | answered isOwned =>
      exact
        answered fun hit =>
          still _ (List.mem_singleton_self _) hit (isOwned hit)
  | creates =>
      exact creates

/-- There is one creation at most, so that it may be in any FIFO. -/
theorem LookupPhase.perm
    {tuple : CamTuple} {owned : TcpSessionID → Prop}
    {fsm : SlookupFsmState} {reqs : List RtlSlookupToCamLupReq}
    {rsps : List RtlCamToSlookupLupRsp}
    {inserting moved : List (CamTuple × TcpSessionID)}
    (phase : LookupPhase tuple owned fsm reqs rsps inserting)
    (same : moved.Perm inserting) :
    LookupPhase tuple owned fsm reqs rsps moved := by
  cases phase with
  | idle =>
      rw [same.eq_nil]
      exact idle
  | asked isTuple =>
      rw [same.eq_nil]
      exact asked isTuple
  | answered isOwned =>
      rw [same.eq_nil]
      exact answered isOwned
  | creates =>
      rw [List.perm_singleton.1 same]
      exact creates

namespace CamSystem

/-- Every entry of the CAM is a session's, or it is being deleted or
inserted; and a lookup's hit is a session's. -/
structure Tracked (system : CamSystem) : Prop where
  contents :
    ∀ tuple id, system.cam tuple = some id →
      system.ids.slookup.Owned tuple id ∨ system.ids.Deleting tuple ∨
        (tuple, id) ∈ system.ids.inserting
  phase :
    LookupPhase system.ids.slookup.toCamReqCache.tuple
      (system.ids.slookup.Owned system.ids.slookup.toCamReqCache.tuple)
      system.ids.slookup.slcFsmState system.camLupReqs
      system.ids.slookup.camLupRsps system.ids.inserting
  cached :
    system.ids.slookup.slcFsmState = .updRsp →
      system.ids.slookup.toRevTableReqCache.tuple =
        system.ids.slookup.toCamReqCache.tuple

theorem belongs_of_owned {system : IdSystem} {tuple : CamTuple}
    {id : TcpSessionID}
    (inCustody : system.InCustody)
    (owned : system.slookup.Owned tuple id) : system.Belongs tuple id := by
  have inUse :
      id.toNat ∈ system.ids .valid ∨ id.toNat ∈ system.ids .pendingInsert := by
    rcases owned with ⟨valid, -⟩ | ⟨req, member, isId, -⟩
    · left
      rw [IdSystem.ids, List.mem_filter, List.mem_range]
      refine ⟨inCustody.inRange id valid, ?_⟩
      rw [BitVec.ofNat_toNat, BitVec.setWidth_eq]
      exact valid
    · right
      rw [IdSystem.ids, ← isId]
      exact
        List.mem_append_right _
          (List.mem_map_of_mem member)
  have isId : id.toNat < tcpMaxSessions := by
    rcases inUse with isValid | isPending
    · exact inCustody.lt_of_mem isValid
    · exact inCustody.lt_of_mem isPending
  have once := inCustody.once id.toNat
  rw [if_pos isId] at once
  have notFree (place : IdPlace)
      (notValid : place ≠ .valid) (notPending : place ≠ .pendingInsert) :
      id.toNat ∉ system.ids place := by
    rcases inUse with isValid | isPending
    · exact not_mem_of_mem (Nat.le_of_eq once) isValid notValid
    · exact not_mem_of_mem (Nat.le_of_eq once) isPending notPending
  exact
    ⟨owned, notFree .pendingDelete (by decide) (by decide),
      notFree .released (by decide) (by decide),
      notFree .available (by decide) (by decide)⟩

/-- A step that leaves the CAM, the lookup under way and the reverse table
alone, and only moves updates along. -/
theorem Tracked.same {system next : CamSystem}
    (tracked : system.Tracked)
    (cam : next.cam = system.cam)
    (camLupReqs : next.camLupReqs = system.camLupReqs)
    (camLupRsps :
      next.ids.slookup.camLupRsps = system.ids.slookup.camLupRsps)
    (owned : next.ids.slookup.Owned = system.ids.slookup.Owned)
    (deleting :
      ∀ tuple, system.ids.Deleting tuple → next.ids.Deleting tuple)
    (inserting : next.ids.inserting.Perm system.ids.inserting)
    (fsm : next.ids.slookup.slcFsmState = system.ids.slookup.slcFsmState)
    (camCache :
      next.ids.slookup.toCamReqCache = system.ids.slookup.toCamReqCache)
    (revTableCache :
      next.ids.slookup.toRevTableReqCache =
        system.ids.slookup.toRevTableReqCache) :
    next.Tracked where
  contents := by
    intro tuple id entry
    rw [cam] at entry
    rw [owned]
    rcases tracked.contents tuple id entry with own | gone | new
    · exact Or.inl own
    · exact Or.inr (Or.inl (deleting tuple gone))
    · exact Or.inr (Or.inr (inserting.mem_iff.2 new))
  phase := by
    rw [owned, fsm, camCache, camLupReqs, camLupRsps]
    exact tracked.phase.perm inserting
  cached := by
    rw [fsm, camCache, revTableCache]
    exact tracked.cached

/-- A call that sends the CAM nothing. -/
theorem call_silent
    (system : CamSystem) {process : SlookupProcess}
    {state : SlookupState} {msgs : List SlookupMsg}
    (called : process.call system.ids.slookup = (state, msgs))
    (noUpdate : msgs.filterMap SlookupMsg.toCamUpd = [])
    (noLookup : msgs.filterMap SlookupMsg.toCamLup = []) :
    system.call process =
      { system with ids := { system.ids with slookup := state } } := by
  rw [call, system.ids.call_silent called noUpdate, called]
  simp [noLookup]

theorem tracked_getNewAvailableSessionId {system : CamSystem}
    (tracked : system.Tracked) :
    (system.call .getNewAvailableSessionId).Tracked := by
  have called :
      SlookupProcess.call system.ids.slookup .getNewAvailableSessionId =
        (getNewAvailableSessionId system.ids.slookup, []) :=
    rfl
  rw [system.call_silent called rfl rfl, getNewAvailableSessionId]
  split
  · exact
      tracked.same rfl rfl rfl rfl (fun _ gone => gone)
        (List.Perm.refl _) rfl rfl rfl
  · split
    · exact
        tracked.same rfl rfl rfl rfl (fun _ gone => gone)
          (List.Perm.refl _) rfl rfl rfl
    · exact tracked

theorem tracked_camUpdateReqSender {system : CamSystem}
    (inCustody : system.ids.InCustody) (tracked : system.Tracked) :
    (system.call .camUpdateReqSender).Tracked := by
  cases inserting : system.ids.slookup.camInsertReqs with
  | cons req later =>
      have isInsert : req.op = .insert := by
        apply inCustody.insertOps
        rw [inserting]
        exact List.mem_cons_self
      have called := IdSystem.camUpdateReqSender_inserts inserting
      rw [call, system.ids.call_inserts called isInsert, called]
      refine
        tracked.same rfl (List.append_nil _) rfl rfl ?_ ?_ rfl rfl rfl
      · rintro tuple ⟨other, member, isDelete, isTuple⟩
        refine ⟨other, ?_, isDelete, isTuple⟩
        rw [← List.append_assoc]
        exact List.mem_append_left _ member
      · rw [List.perm_iff_count]
        intro entry
        simp only [IdSystem.inserting, inserting, List.filter_append,
          List.filter_cons, List.filter_nil, isInsert, decide_true,
          if_true, List.map_append, List.map_cons, List.map_nil,
          List.count_append, List.count_cons, List.count_nil]
        omega
  | nil =>
      cases deleting : system.ids.slookup.camDeleteReqs with
      | cons req later =>
          have isDelete : req.op = .delete := by
            apply inCustody.deleteOps
            rw [deleting]
            exact List.mem_cons_self
          have called :=
            IdSystem.camUpdateReqSender_deletes inserting deleting
          rw [call, system.ids.call_deletes called isDelete, called]
          refine
            tracked.same rfl (List.append_nil _) rfl rfl ?_ ?_ rfl rfl rfl
          · rintro tuple ⟨other, member, otherDelete, isTuple⟩
            refine ⟨other, ?_, otherDelete, isTuple⟩
            rw [deleting] at member
            simp only [List.cons_append, List.mem_cons,
              List.mem_append] at member ⊢
            tauto
          · simp [IdSystem.inserting, isDelete]
      | nil =>
          have called :
              SlookupProcess.call system.ids.slookup
                  .camUpdateReqSender =
                (system.ids.slookup, []) := by
            rw [SlookupProcess.call, TcpOffload.camUpdateReqSender,
              inserting, deleting]
          rw [system.call_silent called rfl rfl]
          exact tracked

theorem tracked_camUpdateRspHandler {system : CamSystem}
    (tracked : system.Tracked) :
    (system.call .camUpdateRspHandler).Tracked := by
  have called :
      SlookupProcess.call system.ids.slookup .camUpdateRspHandler =
        (camUpdateRspHandler system.ids.slookup, []) :=
    rfl
  rw [system.call_silent called rfl rfl, camUpdateRspHandler]
  split
  · rename_i rsp later answered
    split
    · rename_i isInsert
      refine
        tracked.same rfl rfl rfl rfl (fun _ gone => gone) ?_ rfl rfl rfl
      rw [List.perm_iff_count]
      intro entry
      simp only [IdSystem.inserting, answered, List.filter_cons,
        isInsert, decide_true, if_true, List.map_append, List.map_cons,
        List.map_nil, List.count_append, List.count_cons,
        List.count_nil]
      omega
    · rename_i notInsert
      refine
        tracked.same rfl rfl rfl rfl (fun _ gone => gone) ?_ rfl rfl rfl
      simp [IdSystem.inserting, answered, notInsert]
  · exact tracked

/-! ### Lookups and creations -/

theorem noLookup_rspTo (source : SlookupSource) (rsp : SessionLookupRsp) :
    [rspTo source rsp].filterMap SlookupMsg.toCamLup = [] := by
  cases source <;> rfl

theorem tracked_lookUp {system : CamSystem}
    {state : SlookupState} {req : SlookupReqInternal}
    (tracked : system.Tracked)
    (lupReq : system.ids.slookup.slcFsmState = .lupReq)
    (called :
      SlookupProcess.call system.ids.slookup .camLookupRspHandler =
        state.lookUp req)
    (owned : state.Owned = system.ids.slookup.Owned)
    (deleting : state.camDeleteReqs = system.ids.slookup.camDeleteReqs)
    (inserting :
      { system.ids with slookup := state }.inserting =
        system.ids.inserting)
    (camLupRsps : state.camLupRsps = system.ids.slookup.camLupRsps) :
    (system.call .camLookupRspHandler).Tracked := by
  have phase := tracked.phase
  rw [lupReq] at phase
  have idle :
      system.camLupReqs = [] ∧ system.ids.slookup.camLupRsps = [] ∧
        system.ids.inserting = [] := by
    generalize system.camLupReqs = reqs at phase ⊢
    generalize system.ids.slookup.camLupRsps = rsps at phase ⊢
    generalize system.ids.inserting = none at phase ⊢
    cases phase with
    | idle =>
        exact ⟨rfl, rfl, rfl⟩
  obtain ⟨noReqs, noRsps, nothing⟩ := idle
  rw [SlookupState.lookUp] at called
  rw [call, system.ids.call_silent called rfl, called, noReqs]
  constructor
  · intro tuple id entry
    rcases tracked.contents tuple id entry with own | gone | new
    · left
      change state.Owned tuple id
      rw [owned]
      exact own
    · right
      left
      obtain ⟨other, member, isDelete, isTuple⟩ := gone
      refine ⟨other, ?_, isDelete, isTuple⟩
      rw [← deleting] at member
      exact member
    · rw [nothing] at new
      cases new
  · change
      LookupPhase req.tuple _ .lupRsp [⟨req.tuple, req.source⟩]
        state.camLupRsps { system.ids with slookup := state }.inserting
    rw [inserting, camLupRsps, noRsps, nothing]
    exact LookupPhase.asked rfl
  · intro updRsp
    cases updRsp

theorem tracked_takeLupReq {system : CamSystem}
    (tracked : system.Tracked)
    (lupReq : system.ids.slookup.slcFsmState = .lupReq) :
    (system.call .camLookupRspHandler).Tracked := by
  have taken :
      SlookupProcess.call system.ids.slookup .camLookupRspHandler =
        system.ids.slookup.takeLupReq := by
    rw [SlookupProcess.call, camLookupRspHandler, lupReq]
  rw [SlookupState.takeLupReq] at taken
  split at taken
  · exact tracked_lookUp tracked lupReq taken rfl rfl rfl rfl
  · split at taken
    · exact tracked_lookUp tracked lupReq taken rfl rfl rfl rfl
    · rw [system.call_silent taken rfl rfl]
      exact tracked

theorem tracked_takeLupRsp {system : CamSystem}
    (tracked : system.Tracked)
    (lupRsp : system.ids.slookup.slcFsmState = .lupRsp) :
    (system.call .camLookupRspHandler).Tracked := by
  have taken :
      SlookupProcess.call system.ids.slookup .camLookupRspHandler =
        system.ids.slookup.takeLupRsp := by
    rw [SlookupProcess.call, camLookupRspHandler, lupRsp]
  rw [SlookupState.takeLupRsp] at taken
  split at taken
  · rename_i rsp later answered _
    have phase := tracked.phase
    rw [lupRsp, answered] at phase
    have found :
        system.camLupReqs = [] ∧ later = [] ∧
          system.ids.inserting = [] := by
      generalize system.camLupReqs = reqs at phase ⊢
      generalize system.ids.inserting = none at phase ⊢
      cases phase with
      | answered =>
          exact ⟨rfl, rfl, rfl⟩
    obtain ⟨noReqs, noneLater, nothing⟩ := found
    simp only [] at taken
    split at taken
    · rename_i id ids _ _
      rw [system.call_silent taken rfl rfl]
      have all := nothing
      simp only [IdSystem.inserting, List.append_eq_nil_iff,
        List.map_eq_nil_iff] at all
      obtain ⟨⟨⟨noReq, noUpdate⟩, noRsp⟩, noInsertRsp⟩ := all
      constructor
      · intro tuple other entry
        rcases tracked.contents tuple other entry with own | gone | new
        · exact Or.inl own
        · exact Or.inr (Or.inl gone)
        · rw [nothing] at new
          cases new
      · rw [noReqs, noneLater]
        simp only [IdSystem.inserting, noReq, noUpdate, noRsp,
          noInsertRsp]
        exact LookupPhase.creates
      · intro _
        rfl
    · rw [system.call_silent taken (IdSystem.silent_rspTo _ _)
        (noLookup_rspTo _ _)]
      constructor
      · exact tracked.contents
      · change
          LookupPhase _ _ .lupReq system.camLupReqs later
            system.ids.inserting
        rw [noReqs, noneLater, nothing]
        exact LookupPhase.idle
      · intro updRsp
        cases updRsp
  · rw [system.call_silent taken rfl rfl]
    exact tracked

theorem toHit_rspTo (source : SlookupSource) (rsp : SessionLookupRsp) :
    [rspTo source rsp].filterMap SlookupMsg.toHit =
      if rsp.hit then [rsp.sessionId] else [] := by
  cases source <;>
    by_cases hit : rsp.hit <;> simp [rspTo, SlookupMsg.toHit, hit]

/-- The session that was created goes to the reverse table. -/
theorem tracked_takeUpdRsp {system : CamSystem}
    (tracked : system.Tracked)
    (updRsp : system.ids.slookup.slcFsmState = .updRsp) :
    (system.call .camLookupRspHandler).Tracked ∧
      ∀ id ∈
          (camLookupRspHandler system.ids.slookup).2.filterMap
            SlookupMsg.toHit,
        (system.call .camLookupRspHandler).ids.slookup.Owned
          system.ids.slookup.toCamReqCache.tuple id := by
  have taken :
      SlookupProcess.call system.ids.slookup .camLookupRspHandler =
        system.ids.slookup.takeUpdRsp := by
    rw [SlookupProcess.call, camLookupRspHandler, updRsp]
  rw [SlookupState.takeUpdRsp] at taken
  split at taken
  · rename_i rsp later answered _
    have cached := tracked.cached updRsp
    have phase := tracked.phase
    rw [updRsp] at phase
    have created :
        system.camLupReqs = [] ∧ system.ids.slookup.camLupRsps = [] ∧
          ∃ id,
            system.ids.inserting =
              [(system.ids.slookup.toCamReqCache.tuple, id)] := by
      generalize system.camLupReqs = reqs at phase ⊢
      generalize system.ids.slookup.camLupRsps = rsps at phase ⊢
      generalize system.ids.inserting = inserting at phase ⊢
      cases phase with
      | creates =>
          exact ⟨rfl, rfl, _, rfl⟩
    obtain ⟨noReqs, noRsps, created, only⟩ := created
    have all := only
    simp only [IdSystem.inserting, answered, List.map_cons,
      List.append_eq_singleton_iff, List.append_eq_nil_iff,
      List.map_eq_nil_iff, reduceCtorEq, and_false, or_false,
      List.cons.injEq, Prod.mk.injEq] at all
    obtain ⟨⟨⟨noReq, noUpdate⟩, noRsp⟩, ⟨isTuple, rfl⟩, rfl⟩ := all
    rw [system.call_silent taken (IdSystem.silent_rspTo _ _)
      (noLookup_rspTo _ _)]
    let state : SlookupState :=
      { system.ids.slookup with
        camInsertRsps := []
        toRevTableReqCacheValid := false
        reverseTableInsertReqs :=
          system.ids.slookup.reverseTableInsertReqs ++
            [⟨rsp.sessionId, system.ids.slookup.toRevTableReqCache.tuple,
              system.ids.slookup.toRevTableReqCache.roleId⟩]
        slcFsmState := .lupReq }
    have ownedNew :
        state.Owned system.ids.slookup.toCamReqCache.tuple
          rsp.sessionId :=
      Or.inr
        ⟨_, List.mem_append_right _ (List.mem_singleton_self _), rfl,
          cached⟩
    constructor
    · constructor
      · intro tuple id entry
        rcases tracked.contents tuple id entry with own | gone | new
        · left
          rcases own with valid | ⟨req, member, own⟩
          · exact Or.inl valid
          · exact Or.inr ⟨req, List.mem_append_left _ member, own⟩
        · exact Or.inr (Or.inl gone)
        · left
          rw [only] at new
          obtain ⟨rfl, rfl⟩ := Prod.mk.inj (List.mem_singleton.1 new)
          exact ownedNew
      · have nothing :
            { system.ids with slookup := state }.inserting = [] := by
          simp [IdSystem.inserting, state, noReq, noUpdate, noRsp]
        change
          LookupPhase _ _ .lupReq system.camLupReqs
            system.ids.slookup.camLupRsps
            { system.ids with slookup := state }.inserting
        rw [noReqs, noRsps, nothing]
        exact LookupPhase.idle
      · intro isUpdRsp
        cases isUpdRsp
    · intro id hit
      change
        id ∈
          (SlookupProcess.call system.ids.slookup
            .camLookupRspHandler).2.filterMap SlookupMsg.toHit at hit
      rw [taken, toHit_rspTo, if_pos rfl] at hit
      rw [List.mem_singleton.1 hit]
      exact ownedNew
  · rw [system.call_silent taken rfl rfl]
    refine ⟨tracked, ?_⟩
    intro id hit
    change
      id ∈
        (SlookupProcess.call system.ids.slookup
          .camLookupRspHandler).2.filterMap SlookupMsg.toHit at hit
    rw [taken] at hit
    cases hit

/-- A hit that is answered is the tuple's session. -/
theorem owned_takeLupRsp {system : CamSystem}
    (tracked : system.Tracked)
    (lupRsp : system.ids.slookup.slcFsmState = .lupRsp) :
    ∀ id ∈
        (camLookupRspHandler system.ids.slookup).2.filterMap
          SlookupMsg.toHit,
      (system.call .camLookupRspHandler).ids.slookup.Owned
        system.ids.slookup.toCamReqCache.tuple id := by
  intro id hit
  have taken :
      SlookupProcess.call system.ids.slookup .camLookupRspHandler =
        system.ids.slookup.takeLupRsp := by
    rw [SlookupProcess.call, camLookupRspHandler, lupRsp]
  change
    id ∈
      (SlookupProcess.call system.ids.slookup
        .camLookupRspHandler).2.filterMap SlookupMsg.toHit at hit
  rw [SlookupState.takeLupRsp] at taken
  split at taken
  · rename_i rsp later answered _
    simp only [] at taken
    split at taken
    · rw [taken] at hit
      cases hit
    · rw [taken, toHit_rspTo] at hit
      rw [system.call_silent taken (IdSystem.silent_rspTo _ _)
        (noLookup_rspTo _ _)]
      by_cases isHit : rsp.hit = true
      · rw [if_pos isHit] at hit
        have phase := tracked.phase
        rw [lupRsp, answered] at phase
        rw [List.mem_singleton.1 hit]
        generalize system.camLupReqs = reqs at phase
        generalize system.ids.inserting = inserting at phase
        cases phase with
        | answered isOwned =>
            exact isOwned isHit
      · rw [if_neg isHit] at hit
        cases hit
  · rw [taken] at hit
    cases hit

theorem noHit_takeLupReq (state : SlookupState) :
    state.takeLupReq.2.filterMap SlookupMsg.toHit = [] := by
  rw [SlookupState.takeLupReq]
  split
  · rfl
  · split <;> rfl

theorem noHit_camUpdateReqSender (state : SlookupState) :
    (camUpdateReqSender state).2.filterMap SlookupMsg.toHit = [] := by
  rw [camUpdateReqSender]
  split
  · rfl
  · split <;> rfl

theorem noHit_slookupReverseTableInterface (state : SlookupState) :
    (slookupReverseTableInterface state).2.filterMap SlookupMsg.toHit =
      [] := by
  rw [slookupReverseTableInterface]
  split
  · rfl
  · rfl
  · rfl
  · rfl
  · rw [SlookupState.release]
    simp only []
    split <;> rfl
  · rfl

theorem tracked_camLookupRspHandler {system : CamSystem}
    (tracked : system.Tracked) :
    (system.call .camLookupRspHandler).Tracked := by
  cases state : system.ids.slookup.slcFsmState with
  | lupReq =>
      exact tracked_takeLupReq tracked state
  | lupRsp =>
      exact tracked_takeLupRsp tracked state
  | updRsp =>
      exact (tracked_takeUpdRsp tracked state).1

/-- The only process that answers lookups. -/
theorem hitsOwn_process {system : CamSystem}
    (inCustody : system.ids.InCustody) (tracked : system.Tracked)
    (process : SlookupProcess) : HitsOwn system (.process process) := by
  intro id hit
  cases process with
  | getNewAvailableSessionId | camUpdateRspHandler =>
      cases hit
  | camUpdateReqSender =>
      change
        id ∈
          (camUpdateReqSender system.ids.slookup).2.filterMap
            SlookupMsg.toHit at hit
      rw [noHit_camUpdateReqSender] at hit
      cases hit
  | slookupReverseTableInterface =>
      change
        id ∈
          (slookupReverseTableInterface system.ids.slookup).2.filterMap
            SlookupMsg.toHit at hit
      rw [noHit_slookupReverseTableInterface] at hit
      cases hit
  | camLookupRspHandler =>
      apply belongs_of_owned
      · exact IdSystem.inCustody_call _ inCustody
      · cases state : system.ids.slookup.slcFsmState with
        | lupReq =>
            change
              id ∈
                (camLookupRspHandler system.ids.slookup).2.filterMap
                  SlookupMsg.toHit at hit
            rw [camLookupRspHandler, state] at hit
            change
              id ∈
                system.ids.slookup.takeLupReq.2.filterMap
                  SlookupMsg.toHit at hit
            rw [noHit_takeLupReq] at hit
            cases hit
        | lupRsp =>
            exact owned_takeLupRsp tracked state id hit
        | updRsp =>
            exact (tracked_takeUpdRsp tracked state).2 id hit

/-! ### The reverse table -/

/-- An insertion in the reverse table takes no session from anybody. -/
theorem owned_inserts {system : IdSystem} {next : SlookupState}
    {req : SlookupToRevTableUpdReq}
    {later : List SlookupToRevTableUpdReq}
    (inCustody : system.InCustody)
    (queued : system.slookup.reverseTableInsertReqs = req :: later)
    (left : next.reverseTableInsertReqs = later)
    (table :
      next.slookupRevTable =
        Function.update system.slookup.slookupRevTable req.key
          ⟨req.tupleValue, req.roleValue⟩)
    (valid :
      next.validTuple =
        Function.update system.slookup.validTuple req.key true)
    {tuple : CamTuple} {id : TcpSessionID}
    (owned : system.slookup.Owned tuple id) : next.Owned tuple id := by
  obtain ⟨-, notValid⟩ := inCustody.notValid_of_queued queued
  rcases owned with ⟨isValid, isTuple⟩ | ⟨other, member, isId, isTuple⟩
  · have isOther : id ≠ req.key := by
      intro same
      rw [same, notValid] at isValid
      cases isValid
    left
    rw [valid, table, Function.update_of_ne isOther,
      Function.update_of_ne isOther]
    exact ⟨isValid, isTuple⟩
  · rw [queued] at member
    rcases List.mem_cons.1 member with isFirst | isLater
    · rw [isFirst] at isId isTuple
      left
      rw [valid, table, ← isId, Function.update_self,
        Function.update_self]
      exact ⟨rfl, isTuple⟩
    · right
      rw [left]
      exact ⟨other, isLater, isId, isTuple⟩

/-- What a release leaves as it was. -/
theorem release_same (state : SlookupState) (id : TcpSessionID) :
    (state.release id).1 =
      { state with
        validTuple := Function.update state.validTuple id false
        camDeleteReqs := (state.release id).1.camDeleteReqs } := by
  rw [SlookupState.release]
  simp only []
  split <;> rfl

theorem owned_release {state : SlookupState} {released id : TcpSessionID}
    {tuple : CamTuple}
    (owned : state.Owned tuple id) (isOther : id ≠ released) :
    (state.release released).1.Owned tuple id := by
  rw [release_same]
  rcases owned with ⟨valid, isTuple⟩ | queued
  · left
    simp only [Function.update_of_ne isOther]
    exact ⟨valid, isTuple⟩
  · exact Or.inr queued

/-- A released session's entry in the CAM is being deleted. -/
theorem deleting_release {system : IdSystem} {id : TcpSessionID}
    {tuple : CamTuple}
    (owned : system.slookup.Owned tuple id) :
    (system.slookup.release id).1.Owned tuple id ∨
      IdSystem.Deleting
        { system with slookup := (system.slookup.release id).1 } tuple := by
  rw [SlookupState.release]
  simp only []
  rcases owned with ⟨valid, isTuple⟩ | queued
  · right
    rw [if_pos valid]
    refine
      ⟨_,
        List.mem_append_left _
          (List.mem_append_right _ (List.mem_singleton_self _)),
        rfl, isTuple⟩
  · left
    split
    · exact Or.inr queued
    · exact Or.inr queued

theorem tracked_release {system : CamSystem} (id : TcpSessionID)
    (tracked : system.Tracked)
    (notFound :
      ∀ rsp ∈ system.ids.slookup.camLupRsps,
        rsp.hit = true → rsp.sessionId ≠ id) :
    Tracked
      { system with
        ids :=
          { system.ids with
            slookup := (system.ids.slookup.release id).1 } } := by
  have deleting {tuple : CamTuple} (gone : system.ids.Deleting tuple) :
      IdSystem.Deleting
        { system.ids with
          slookup := (system.ids.slookup.release id).1 }
        tuple := by
    obtain ⟨req, member, isDelete⟩ := gone
    refine ⟨req, ?_, isDelete⟩
    rw [SlookupState.release]
    simp only []
    split
    · simp only [List.mem_append] at member ⊢
      tauto
    · exact member
  have same := release_same system.ids.slookup id
  constructor
  · intro tuple other entry
    rcases tracked.contents tuple other entry with own | gone | new
    · by_cases isReleased : other = id
      · rw [isReleased] at own ⊢
        rcases deleting_release own with still | gone
        · exact Or.inl still
        · exact Or.inr (Or.inl gone)
      · exact Or.inl (owned_release own isReleased)
    · exact Or.inr (Or.inl (deleting gone))
    · right
      right
      rw [same]
      exact new
  · have phase :=
      tracked.phase.map fun rsp member hit own =>
        owned_release own (notFound rsp member hit)
    generalize (system.ids.slookup.release id).1.Owned = owned at phase ⊢
    rw [same]
    exact phase
  · rw [same]
    exact tracked.cached

theorem tracked_slookupReverseTableInterface {system : CamSystem}
    (inCustody : system.ids.InCustody) (tracked : system.Tracked)
    (live :
      LooksUpLive system (.process .slookupReverseTableInterface)) :
    (system.call .slookupReverseTableInterface).Tracked := by
  have called :
      SlookupProcess.call system.ids.slookup
          .slookupReverseTableInterface =
        ((slookupReverseTableInterface system.ids.slookup).1,
          (slookupReverseTableInterface system.ids.slookup).2) :=
    rfl
  have noUpdate :=
    IdSystem.noUpdate_slookupReverseTableInterface system.ids.slookup
  have noLookup :
      (slookupReverseTableInterface system.ids.slookup).2.filterMap
        SlookupMsg.toCamLup = [] := by
    rw [slookupReverseTableInterface]
    split
    · rfl
    · rfl
    · rfl
    · rfl
    · rw [SlookupState.release]
      simp only []
      split <;> rfl
    · rfl
  rw [system.call_silent called noUpdate noLookup,
    slookupReverseTableInterface]
  split
  · rename_i queued
    constructor
    · intro tuple id entry
      rcases tracked.contents tuple id entry with own | gone | new
      · exact Or.inl (owned_inserts inCustody queued rfl rfl rfl own)
      · exact Or.inr (Or.inl gone)
      · exact Or.inr (Or.inr new)
    · exact
        tracked.phase.map fun rsp _ _ own =>
          owned_inserts inCustody queued rfl rfl rfl own
    · exact tracked.cached
  · exact
      tracked.same rfl rfl rfl rfl (fun _ gone => gone)
        (List.Perm.refl _) rfl rfl rfl
  · exact
      tracked.same rfl rfl rfl rfl (fun _ gone => gone)
        (List.Perm.refl _) rfl rfl rfl
  · exact
      tracked.same rfl rfl rfl rfl (fun _ gone => gone)
        (List.Perm.refl _) rfl rfl rfl
  · rename_i id later noInsert noTxEng noRxApp noTxApp queued
    have taken :
        Tracked
          { system with
            ids :=
              { system.ids with
                slookup :=
                  { system.ids.slookup with
                    sttableReleaseReqs := later } } } :=
      tracked.same rfl rfl rfl rfl (fun _ gone => gone)
        (List.Perm.refl _) rfl rfl rfl
    refine tracked_release id taken ?_
    intro rsp member hit isReleased
    apply live rsp member hit
    rw [SlookupState.nextRelease, noInsert, noTxEng, noRxApp, noTxApp,
      queued, isReleased]
    rfl
  · exact tracked

/-! ### The CAM and the inputs -/

theorem tracked_receive {system : CamSystem} {input : SlookupInput}
    (tracked : system.Tracked)
    (notLookup : ∀ rsp, input ≠ .camLupRsp rsp) :
    (system.receive input).Tracked := by
  cases input with
  | camLupRsp rsp =>
      exact absurd rfl (notLookup rsp)
  | rxEngReq | txAppReq | sttableReleaseReq | rxAppTdestReq |
      txAppTdestReq | txEngRevTableReq =>
      exact
        tracked.same rfl rfl rfl rfl (fun _ gone => gone)
          (List.Perm.refl _) rfl rfl rfl

theorem tracked_camLookup {system : CamSystem}
    {req : RtlSlookupToCamLupReq} {later : List RtlSlookupToCamLupReq}
    {rsp : RtlCamToSlookupLupRsp}
    (tracked : system.Tracked)
    (asked : system.camLupReqs = req :: later)
    (looksUp :
      (if rsp.hit then some rsp.sessionId else none) =
        system.cam req.key)
    (live :
      system.cam req.key ≠ none → ¬system.ids.Deleting req.key) :
    Tracked
      { system.receive (.camLupRsp rsp) with camLupReqs := later } := by
  have phase := tracked.phase
  rw [asked] at phase
  constructor
  · exact tracked.contents
  · change
      LookupPhase system.ids.slookup.toCamReqCache.tuple
        (system.ids.slookup.Owned
          system.ids.slookup.toCamReqCache.tuple)
        system.ids.slookup.slcFsmState later
        (system.ids.slookup.camLupRsps ++ [rsp]) system.ids.inserting
    have contents := tracked.contents req.key rsp.sessionId
    generalize system.ids.slookup.slcFsmState = fsm at phase ⊢
    generalize system.ids.slookup.camLupRsps = rsps at phase ⊢
    generalize system.ids.inserting = inserting at phase contents ⊢
    cases phase with
    | asked isTuple =>
        refine LookupPhase.answered fun hit => ?_
        rw [if_pos hit] at looksUp
        rcases contents looksUp.symm with own | gone | new
        · rw [← isTuple]
          exact own
        · have found : system.cam req.key ≠ none := by
            rw [← looksUp]
            exact Option.some_ne_none _
          exact absurd gone (live found)
        · cases new
  · exact tracked.cached

/-- An executed insertion is on its way back. -/
theorem inserting_updated {system : CamSystem}
    {req : RtlSlookupToCamUpdReq} {later : List RtlSlookupToCamUpdReq}
    (queued : system.ids.camUpdReqs = req :: later) :
    (system.updated req later).ids.inserting.Perm
      system.ids.inserting := by
  by_cases isInsert : req.op = .insert
  · rw [List.perm_iff_count]
    intro entry
    simp only [IdSystem.inserting, updated, IdSystem.answered,
      RtlSlookupToCamUpdReq.rsp, queued, List.filter_append,
      List.filter_cons, List.filter_nil, isInsert, decide_true, if_true,
      List.map_append, List.map_cons, List.map_nil, List.count_append,
      List.count_cons, List.count_nil]
    omega
  · simp [IdSystem.inserting, updated, IdSystem.answered,
      RtlSlookupToCamUpdReq.rsp, queued, isInsert]

theorem tracked_camUpdate {system : CamSystem}
    {req : RtlSlookupToCamUpdReq} {later : List RtlSlookupToCamUpdReq}
    (tracked : system.Tracked)
    (queued : system.ids.camUpdReqs = req :: later) :
    (system.updated req later).Tracked := by
  have inserting := inserting_updated queued
  have deleting {tuple : CamTuple}
      (notExecuted : tuple ≠ req.key)
      (gone : system.ids.Deleting tuple) :
      (system.updated req later).ids.Deleting tuple := by
    obtain ⟨other, member, isDelete, isTuple⟩ := gone
    refine ⟨other, ?_, isDelete, isTuple⟩
    rw [queued] at member
    rcases List.mem_append.1 member with before | inCam
    · exact List.mem_append_left _ before
    · rcases List.mem_cons.1 inCam with isFirst | isLater
      · rw [isFirst] at isTuple
        exact absurd isTuple.symm notExecuted
      · exact List.mem_append_right _ isLater
  have before {tuple : CamTuple} {id : TcpSessionID}
      (notExecuted : tuple ≠ req.key)
      (entry : system.cam tuple = some id) :
      (system.updated req later).ids.slookup.Owned tuple id ∨
        (system.updated req later).ids.Deleting tuple ∨
          (tuple, id) ∈ (system.updated req later).ids.inserting := by
    rcases tracked.contents tuple id entry with own | gone | new
    · exact Or.inl own
    · exact Or.inr (Or.inl (deleting notExecuted gone))
    · exact Or.inr (Or.inr (inserting.mem_iff.2 new))
  constructor
  · intro tuple id entry
    change Function.update system.cam req.key _ tuple = some id at entry
    by_cases isTuple : tuple = req.key
    · rw [isTuple, Function.update_self] at entry
      by_cases isInsert : req.op = .insert
      · rw [if_pos isInsert] at entry
        right
        right
        rw [inserting.mem_iff, isTuple, ← Option.some.inj entry]
        simp [IdSystem.inserting, queued, isInsert]
      · rw [if_neg isInsert] at entry
        cases entry
    · rw [Function.update_of_ne isTuple] at entry
      exact before isTuple entry
  · exact tracked.phase.perm inserting
  · exact tracked.cached

/-! ## Every step and every run -/

theorem inCustody_step {system next : CamSystem} {action : CamAction}
    (inCustody : system.ids.InCustody)
    (stepped : CamStep system action next) : next.ids.InCustody := by
  cases stepped with
  | process process =>
      exact IdSystem.inCustody_call process inCustody
  | input input =>
      exact IdSystem.inCustody_step inCustody (IdStep.input input)
  | @camLookup req later rsp =>
      exact
        IdSystem.inCustody_step inCustody
          (IdStep.input (.camLupRsp rsp))
  | @camUpdate req later queued =>
      cases isOp : req.op with
      | insert =>
          exact
            IdSystem.inCustody_step inCustody
              (@IdStep.camInserts system.ids req [] later req.rsp queued
                isOp isOp rfl)
      | delete =>
          have deleted :=
            IdSystem.inCustody_step inCustody
              (@IdStep.camDeletes system.ids req [] later queued isOp)
          have isDelete : req.rsp.op = .delete := isOp
          exact
            IdSystem.inCustody_step deleted
              (IdStep.camAnswersDelete isDelete)

theorem tracked_step {system next : CamSystem} {action : CamAction}
    (inCustody : system.ids.InCustody) (tracked : system.Tracked)
    (live : LooksUpLive system action)
    (stepped : CamStep system action next) : next.Tracked := by
  cases stepped with
  | process process =>
      cases process with
      | getNewAvailableSessionId =>
          exact tracked_getNewAvailableSessionId tracked
      | camLookupRspHandler =>
          exact tracked_camLookupRspHandler tracked
      | camUpdateReqSender =>
          exact tracked_camUpdateReqSender inCustody tracked
      | camUpdateRspHandler =>
          exact tracked_camUpdateRspHandler tracked
      | slookupReverseTableInterface =>
          exact
            tracked_slookupReverseTableInterface inCustody tracked live
  | input input notLookup =>
      exact tracked_receive tracked notLookup
  | camLookup asked _ looksUp =>
      exact tracked_camLookup tracked asked looksUp (live _ _ asked)
  | camUpdate queued =>
      exact tracked_camUpdate tracked queued

theorem tracked_start (table : TcpSessionID → RevTableEntry) :
    (start table).Tracked where
  contents := by
    intro tuple id entry
    cases entry
  phase := LookupPhase.idle
  cached := by
    intro updRsp
    cases updRsp

end CamSystem

/-- In every run in which the CAM finds no tuple whose deletion is on its way
and no session is released while the answer to its lookup waits, every
hit is the session of the tuple looked up. -/
theorem hitsOwn_run
    (table : TcpSessionID → RevTableEntry) (actions : List CamAction)
    (live :
      Along CamStep LooksUpLive (CamSystem.start table) actions) :
    Along CamStep HitsOwn (CamSystem.start table) actions := by
  have preserved (system : CamSystem) (action : CamAction)
      (next : CamSystem)
      (known : system.ids.InCustody ∧ system.Tracked)
      (liveHere : LooksUpLive system action)
      (stepped : CamStep system action next) :
      next.ids.InCustody ∧ next.Tracked :=
    ⟨CamSystem.inCustody_step known.1 stepped,
      CamSystem.tracked_step known.1 known.2 liveHere stepped⟩
  have enough (system : CamSystem) (action : CamAction)
      (next : CamSystem)
      (known : system.ids.InCustody ∧ system.Tracked)
      (_ : LooksUpLive system action)
      (_ : CamStep system action next) : HitsOwn system action := by
    cases action with
    | process process =>
        exact CamSystem.hitsOwn_process known.1 known.2 process
    | input | camLookup | camUpdate =>
        trivial
  exact
    along_of_invariant preserved enough
      ⟨IdSystem.inCustody_start table, CamSystem.tracked_start table⟩
      live

/-- The application opens a session. -/
def opensTuple : List CamAction :=
  [.process .getNewAvailableSessionId,
    .input (.txAppReq ⟨⟨1, 2, 3, 4⟩, 0⟩),
    .process .camLookupRspHandler,
    .camLookup ⟨⟨1, 2, 3, 4⟩, 0, false, .txApp⟩,
    .process .camLookupRspHandler, .process .camUpdateReqSender,
    .camUpdate, .process .camUpdateRspHandler,
    .process .camLookupRspHandler,
    .process .slookupReverseTableInterface]

/-- A segment of the session hits, the session is released, and once its
deletion is executed another segment of it misses. -/
def hitThenReleased : List CamAction :=
  [.input (.rxEngReq ⟨⟨2, 1, 4, 3⟩, false, 0⟩),
    .process .camLookupRspHandler,
    .camLookup ⟨⟨1, 2, 3, 4⟩, 0, true, .rx⟩,
    .process .camLookupRspHandler, .input (.sttableReleaseReq 0),
    .process .slookupReverseTableInterface,
    .process .camUpdateReqSender, .camUpdate,
    .input (.rxEngReq ⟨⟨2, 1, 4, 3⟩, false, 0⟩),
    .process .camLookupRspHandler,
    .camLookup ⟨⟨1, 2, 3, 4⟩, 0, false, .rx⟩,
    .process .camLookupRspHandler]

/-- The session is released, and before its deletion gets to the CAM a
segment of it arrives. -/
def segmentAfterRelease : List CamAction :=
  [.input (.sttableReleaseReq 0),
    .process .slookupReverseTableInterface,
    .input (.rxEngReq ⟨⟨2, 1, 4, 3⟩, false, 0⟩),
    .process .camLookupRspHandler,
    .camLookup ⟨⟨1, 2, 3, 4⟩, 0, true, .rx⟩]

theorem CamStep.reaches {system next final : CamSystem}
    {action : CamAction} {later : List CamAction}
    (stepped : CamStep system action next)
    (live : LooksUpLive system action)
    (rest : Reaches CamStep LooksUpLive next later final) :
    Reaches CamStep LooksUpLive system (action :: later) final :=
  Reaches.head (fun _ _ _ _ => CamStep.oneOutcome) stepped live rest

/-- The session hits for itself, and after its release still. -/
theorem opensTuple_reaches :
    ∃ opened,
      Reaches CamStep LooksUpLive
          (CamSystem.start fun _ => ⟨⟨0, 0, 0, 0⟩, 0⟩) opensTuple opened ∧
        (∃ final,
          Reaches CamStep LooksUpLive opened hitThenReleased final) ∧
          ∃ final,
            Run CamStep opened segmentAfterRelease final ∧
              ¬HitsOwn final (.process .camLookupRspHandler) := by
  apply Exists.intro
  refine ⟨?_, ?_, ?_⟩
  · apply (CamStep.process .getNewAvailableSessionId).reaches trivial
    apply (CamStep.input _ (by simp)).reaches trivial
    apply (CamStep.process .camLookupRspHandler).reaches trivial
    apply (CamStep.camLookup rfl rfl rfl).reaches
    · exact fun _ _ asked found =>
        absurd (by rw [← (List.cons.inj asked).1]; rfl) found
    apply (CamStep.process .camLookupRspHandler).reaches trivial
    apply (CamStep.process .camUpdateReqSender).reaches trivial
    apply (CamStep.camUpdate rfl).reaches trivial
    apply (CamStep.process .camUpdateRspHandler).reaches trivial
    apply (CamStep.process .camLookupRspHandler).reaches trivial
    apply (CamStep.process .slookupReverseTableInterface).reaches
    · exact fun _ none => absurd none List.not_mem_nil
    exact Reaches.refl _
  · apply Exists.intro
    apply (CamStep.input _ (by simp)).reaches trivial
    apply (CamStep.process .camLookupRspHandler).reaches trivial
    apply (CamStep.camLookup rfl rfl rfl).reaches
    · rintro _ _ _ _ ⟨_, none, _⟩
      exact absurd none List.not_mem_nil
    apply (CamStep.process .camLookupRspHandler).reaches trivial
    apply (CamStep.input _ (by simp)).reaches trivial
    apply (CamStep.process .slookupReverseTableInterface).reaches
    · exact fun _ none => absurd none List.not_mem_nil
    apply (CamStep.process .camUpdateReqSender).reaches trivial
    apply (CamStep.camUpdate rfl).reaches trivial
    apply (CamStep.input _ (by simp)).reaches trivial
    apply (CamStep.process .camLookupRspHandler).reaches trivial
    apply (CamStep.camLookup rfl rfl rfl).reaches
    · exact fun _ _ asked found =>
        absurd (by rw [← (List.cons.inj asked).1]; rfl) found
    apply (CamStep.process .camLookupRspHandler).reaches trivial
    exact Reaches.refl _
  · apply Exists.intro
    apply And.intro
    · apply Run.head (CamStep.input _ (by simp))
      apply Run.head (CamStep.process _)
      apply Run.head (CamStep.input _ (by simp))
      apply Run.head (CamStep.process _)
      apply Run.head (CamStep.camLookup rfl rfl rfl)
      exact Run.refl _
    · intro own
      exact (own 0 List.mem_cons_self).notDeleted List.mem_cons_self

/-- The hit is the session's, and so is every other answer. -/
theorem hitsOwn_run_hitThenReleased :
    (∃ final,
        Run CamStep (CamSystem.start fun _ => ⟨⟨0, 0, 0, 0⟩, 0⟩)
          (opensTuple ++ hitThenReleased) final) ∧
      Along CamStep HitsOwn (CamSystem.start fun _ => ⟨⟨0, 0, 0, 0⟩, 0⟩)
        (opensTuple ++ hitThenReleased) := by
  obtain ⟨_, opened, ⟨final, released⟩, -⟩ := opensTuple_reaches
  obtain ⟨run, live⟩ := opened.append released
  have live := live [] trivial
  rw [List.append_nil] at live
  exact ⟨⟨final, run⟩, hitsOwn_run _ _ live⟩

/-- The segment gets a hit on the released session. -/
theorem not_hitsOwn_segmentAfterRelease :
    ¬∀ table actions,
        Along CamStep HitsOwn (CamSystem.start table) actions := by
  intro allOwn
  obtain ⟨_, opened, -, system, steps, notOwn⟩ := opensTuple_reaches
  have along :=
    allOwn (fun _ => ⟨⟨0, 0, 0, 0⟩, 0⟩)
      ((opensTuple ++ segmentAfterRelease) ++
        [.process .camLookupRspHandler])
  exact
    notOwn (along.of_run (opened.1.append steps) (CamStep.process _))

end TcpOffload
