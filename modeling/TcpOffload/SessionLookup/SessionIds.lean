import TcpOffload.Library.Custody
import TcpOffload.Library.Guarded
import TcpOffload.SessionLookup

/-!
# The life of a session ID

A session ID is free, or on its way into the CAM and the reverse table, or
valid there, or on its way back.  The five processes of the controller run in
any order, beside a CAM of which no more is known than that it answers every
insertion once, with the ID that was inserted.
-/

namespace TcpOffload

open Custody Guarded

inductive SlookupProcess where
  | getNewAvailableSessionId
  | camLookupRspHandler
  | camUpdateReqSender
  | camUpdateRspHandler
  | slookupReverseTableInterface
deriving DecidableEq, Repr

/-- One call of a process. -/
def SlookupProcess.call (state : SlookupState) :
    SlookupProcess → SlookupState × List SlookupMsg
  | .getNewAvailableSessionId =>
      (TcpOffload.getNewAvailableSessionId state, [])
  | .camLookupRspHandler => TcpOffload.camLookupRspHandler state
  | .camUpdateReqSender => TcpOffload.camUpdateReqSender state
  | .camUpdateRspHandler => (TcpOffload.camUpdateRspHandler state, [])
  | .slookupReverseTableInterface =>
      TcpOffload.slookupReverseTableInterface state

def SlookupMsg.toCamUpd : SlookupMsg → Option RtlSlookupToCamUpdReq
  | .camUpdReq req => some req
  | _ => none

/-- The insertions or the deletions among requests for the CAM. -/
def countOp (op : SlookupOp) (reqs : List RtlSlookupToCamUpdReq) : Nat :=
  reqs.countP fun req => req.op = op

/-- The controller with the updates that the CAM has not answered, and the
numbers of insertions and deletions sent so far. -/
structure IdSystem where
  slookup : SlookupState
  camUpdReqs : List RtlSlookupToCamUpdReq
  inserts : Nat
  deletes : Nat

/-- What reaches the controller from other modules. -/
inductive SlookupInput where
  | rxEngReq (req : RxEngToSlookupReq)
  | txAppReq (req : TxAppToSlookupReq)
  | camLupRsp (rsp : RtlCamToSlookupLupRsp)
  | sttableReleaseReq (id : TcpSessionID)
  | rxAppTdestReq (id : TcpSessionID)
  | txAppTdestReq (id : TcpSessionID)
  | txEngRevTableReq (id : TcpSessionID)

def SlookupState.receive (state : SlookupState) :
    SlookupInput → SlookupState
  | .rxEngReq req => { state with rxEngReqs := state.rxEngReqs ++ [req] }
  | .txAppReq req => { state with txAppReqs := state.txAppReqs ++ [req] }
  | .camLupRsp rsp =>
      { state with camLupRsps := state.camLupRsps ++ [rsp] }
  | .sttableReleaseReq id =>
      { state with
        sttableReleaseReqs := state.sttableReleaseReqs ++ [id] }
  | .rxAppTdestReq id =>
      { state with rxAppTdestReqs := state.rxAppTdestReqs ++ [id] }
  | .txAppTdestReq id =>
      { state with txAppTdestReqs := state.txAppTdestReqs ++ [id] }
  | .txEngRevTableReq id =>
      { state with txEngRevTableReqs := state.txEngRevTableReqs ++ [id] }

inductive IdAction where
  | process (process : SlookupProcess)
  | input (input : SlookupInput)
  | camAnswers (rsp : RtlCamToSlookupUpdRsp)
  | camDeletes

namespace IdSystem

def start (table : TcpSessionID → RevTableEntry) : IdSystem where
  slookup := SlookupState.start table
  camUpdReqs := []
  inserts := 0
  deletes := 0

def call (system : IdSystem) (process : SlookupProcess) : IdSystem :=
  let called := process.call system.slookup
  let reqs := called.2.filterMap SlookupMsg.toCamUpd
  { slookup := called.1
    camUpdReqs := system.camUpdReqs ++ reqs
    inserts := system.inserts + countOp .insert reqs
    deletes := system.deletes + countOp .delete reqs }

/-- An answer of the CAM, with the updates it leaves. -/
def answered
    (system : IdSystem) (rsp : RtlCamToSlookupUpdRsp)
    (left : List RtlSlookupToCamUpdReq) : IdSystem :=
  { system with
    slookup :=
      { system.slookup with
        camUpdRsps := system.slookup.camUpdRsps ++ [rsp] }
    camUpdReqs := left }

end IdSystem

/-- The CAM answers an insertion once, in its own time and with the inserted
ID; what it says to deletions, and to lookups, is left open. -/
inductive IdStep : IdSystem → IdAction → IdSystem → Prop
  | process {system : IdSystem} (process : SlookupProcess) :
      IdStep system (.process process) (system.call process)
  | input {system : IdSystem} (input : SlookupInput) :
      IdStep system (.input input)
        { system with slookup := system.slookup.receive input }
  | camInserts {system : IdSystem} {req : RtlSlookupToCamUpdReq}
      {before after : List RtlSlookupToCamUpdReq}
      {rsp : RtlCamToSlookupUpdRsp} :
      system.camUpdReqs = before ++ req :: after →
      req.op = .insert →
      rsp.op = .insert →
      rsp.sessionId = req.value →
      IdStep system (.camAnswers rsp)
        (system.answered rsp (before ++ after))
  | camDeletes {system : IdSystem} {req : RtlSlookupToCamUpdReq}
      {before after : List RtlSlookupToCamUpdReq} :
      system.camUpdReqs = before ++ req :: after →
      req.op = .delete →
      IdStep system .camDeletes
        { system with camUpdReqs := before ++ after }
  | camAnswersDelete {system : IdSystem} {rsp : RtlCamToSlookupUpdRsp} :
      rsp.op = .delete →
      IdStep system (.camAnswers rsp)
        (system.answered rsp system.camUpdReqs)

/-! ## Where an ID can be -/

inductive IdPlace where
  | notIssued
  | available
  | released
  | pendingInsert
  | valid
  | pendingDelete
deriving DecidableEq, Repr

instance : Fintype IdPlace where
  elems :=
    {.notIssued, .available, .released, .pendingInsert, .valid,
      .pendingDelete}
  complete := by
    intro place
    cases place <;> decide

theorem IdPlace.amount_eq
    (counts : Nat → Bool) (held : IdPlace → List Nat) :
    amount counts held =
      (held .notIssued).countP counts + (held .available).countP counts +
        (held .released).countP counts +
        (held .pendingInsert).countP counts +
        (held .valid).countP counts +
        (held .pendingDelete).countP counts := by
  have places :
      (Finset.univ : Finset IdPlace) =
        {.notIssued, .available, .released, .pendingInsert, .valid,
          .pendingDelete} :=
    rfl
  rw [amount, places]
  simp [Finset.sum_insert]
  omega

/-- The IDs of insertions. -/
def insertedIds (reqs : List RtlSlookupToCamUpdReq) : List Nat :=
  (reqs.filter fun req => req.op = .insert).map fun req =>
    req.value.toNat

def insertRspIds (rsps : List RtlCamToSlookupUpdRsp) : List Nat :=
  (rsps.filter fun rsp => rsp.op = .insert).map fun rsp =>
    rsp.sessionId.toNat

namespace IdSystem

/-- The IDs in each place.  A pending insertion is in the FIFO to the CAM, in
the CAM, in either FIFO behind it, or in the FIFO to the reverse table. -/
def ids (system : IdSystem) : IdPlace → List Nat
  | .notIssued =>
      (List.range tcpMaxSessions).drop system.slookup.curSessionId.toNat
  | .available => system.slookup.availableIds.map BitVec.toNat
  | .released => system.slookup.releasedIds.map BitVec.toNat
  | .pendingInsert =>
      system.slookup.camInsertReqs.map (fun req => req.value.toNat) ++
        insertedIds system.camUpdReqs ++
        insertRspIds system.slookup.camUpdRsps ++
        system.slookup.camInsertRsps.map (fun rsp => rsp.sessionId.toNat) ++
        system.slookup.reverseTableInsertReqs.map fun req => req.key.toNat
  | .valid =>
      (List.range tcpMaxSessions).filter fun id =>
        system.slookup.validTuple (BitVec.ofNat 16 id)
  | .pendingDelete =>
      system.slookup.camDeleteReqs.map fun req => req.value.toNat

/-! ## The invariant -/

/-- Every ID is somewhere, once; the IDs in use are the insertions sent
without the deletions sent. -/
structure InCustody (system : IdSystem) : Prop where
  once :
    ∀ id, copies system.ids id = if id < tcpMaxSessions then 1 else 0
  total : amount (fun _ => true) system.ids = tcpMaxSessions
  inRange :
    ∀ id, system.slookup.validTuple id = true →
      id.toNat < tcpMaxSessions
  insertOps :
    ∀ req ∈ system.slookup.camInsertReqs, req.op = SlookupOp.insert
  deleteOps :
    ∀ req ∈ system.slookup.camDeleteReqs, req.op = SlookupOp.delete
  counter :
    system.slookup.usedSessionIdCnt =
      BitVec.ofNat 16 system.inserts - BitVec.ofNat 16 system.deletes
  balance :
    system.inserts + system.slookup.camInsertReqs.length =
      system.deletes + (system.ids .pendingInsert).length +
        (system.ids .valid).length + (system.ids .pendingDelete).length

/-- The IDs stay where they are. -/
theorem InCustody.keeps {system next : IdSystem}
    (inCustody : system.InCustody)
    (keeps : Keeps system.ids next.ids)
    (valid : next.slookup.validTuple = system.slookup.validTuple)
    (insertOps :
      ∀ req ∈ next.slookup.camInsertReqs, req.op = SlookupOp.insert)
    (deleteOps :
      ∀ req ∈ next.slookup.camDeleteReqs, req.op = SlookupOp.delete)
    (counter :
      next.slookup.usedSessionIdCnt =
        BitVec.ofNat 16 next.inserts - BitVec.ofNat 16 next.deletes)
    (sent :
      next.inserts + next.slookup.camInsertReqs.length + system.deletes =
        system.inserts + system.slookup.camInsertReqs.length +
          next.deletes) :
    next.InCustody where
  once := by
    intro id
    rw [copies, keeps.amount_eq]
    exact inCustody.once id
  total := by
    rw [keeps.amount_eq]
    exact inCustody.total
  inRange := by
    rw [valid]
    exact inCustody.inRange
  insertOps := insertOps
  deleteOps := deleteOps
  counter := counter
  balance := by
    have balance := inCustody.balance
    rw [(keeps .pendingInsert).length_eq, (keeps .valid).length_eq,
      (keeps .pendingDelete).length_eq]
    omega

/-- An ID goes from one place to another. -/
theorem InCustody.moves {system next : IdSystem}
    (inCustody : system.InCustody)
    (id : Nat) (source target : IdPlace)
    (moves : Moves system.ids next.ids id source target)
    (inRange :
      ∀ id, next.slookup.validTuple id = true →
        id.toNat < tcpMaxSessions)
    (insertOps :
      ∀ req ∈ next.slookup.camInsertReqs, req.op = SlookupOp.insert)
    (deleteOps :
      ∀ req ∈ next.slookup.camDeleteReqs, req.op = SlookupOp.delete)
    (counter :
      next.slookup.usedSessionIdCnt =
        BitVec.ofNat 16 next.inserts - BitVec.ofNat 16 next.deletes)
    (balance :
      next.inserts + next.slookup.camInsertReqs.length =
        next.deletes + (next.ids .pendingInsert).length +
          (next.ids .valid).length + (next.ids .pendingDelete).length) :
    next.InCustody where
  once := by
    intro id
    rw [copies, moves.amount_eq]
    exact inCustody.once id
  total := by
    rw [moves.amount_eq]
    exact inCustody.total
  inRange := inRange
  insertOps := insertOps
  deleteOps := deleteOps
  counter := counter
  balance := balance

/-- An ID that is held anywhere is a session's. -/
theorem InCustody.lt_of_mem {system : IdSystem} {id : Nat}
    {place : IdPlace}
    (inCustody : system.InCustody) (member : id ∈ system.ids place) :
    id < tcpMaxSessions := by
  by_contra outside
  have none := inCustody.once id
  rw [if_neg outside] at none
  exact mem_of_copies none place member

theorem drop_range {cur : Nat} (more : cur < tcpMaxSessions) :
    (List.range tcpMaxSessions).drop cur =
      cur :: (List.range tcpMaxSessions).drop (cur + 1) := by
  rw [List.drop_eq_getElem_cons (by simpa using more)]
  simp

/-! ## The steps -/

/-- A call that sends the CAM no update. -/
theorem call_silent
    (system : IdSystem) {process : SlookupProcess} {state : SlookupState}
    {msgs : List SlookupMsg}
    (called : process.call system.slookup = (state, msgs))
    (silent : msgs.filterMap SlookupMsg.toCamUpd = []) :
    system.call process = { system with slookup := state } := by
  simp [call, called, silent, countOp]

theorem call_inserts
    (system : IdSystem) {process : SlookupProcess} {state : SlookupState}
    {req : RtlSlookupToCamUpdReq}
    (called : process.call system.slookup = (state, [.camUpdReq req]))
    (isInsert : req.op = .insert) :
    system.call process =
      { system with
        slookup := state
        camUpdReqs := system.camUpdReqs ++ [req]
        inserts := system.inserts + 1 } := by
  simp [call, called, countOp, SlookupMsg.toCamUpd, isInsert]

theorem call_deletes
    (system : IdSystem) {process : SlookupProcess} {state : SlookupState}
    {req : RtlSlookupToCamUpdReq}
    (called : process.call system.slookup = (state, [.camUpdReq req]))
    (isDelete : req.op = .delete) :
    system.call process =
      { system with
        slookup := state
        camUpdReqs := system.camUpdReqs ++ [req]
        deletes := system.deletes + 1 } := by
  simp [call, called, countOp, SlookupMsg.toCamUpd, isDelete]

theorem inCustody_getNewAvailableSessionId {system : IdSystem}
    (inCustody : system.InCustody) :
    (system.call .getNewAvailableSessionId).InCustody := by
  have called :
      SlookupProcess.call system.slookup .getNewAvailableSessionId =
        (getNewAvailableSessionId system.slookup, []) :=
    rfl
  rw [system.call_silent called rfl, getNewAvailableSessionId]
  split
  · rename_i id later queued
    refine
      inCustody.moves id.toNat .released .available
        ⟨by decide, ?_, ?_, ?_⟩ inCustody.inRange inCustody.insertOps
        inCustody.deleteOps inCustody.counter inCustody.balance
    · simp [ids, queued]
    · simp [ids]
    · intro place notSource notTarget
      cases place <;> first | exact List.Perm.refl _ | contradiction
  · split
    · rename_i more
      have next :
          (system.slookup.curSessionId + 1).toNat =
            system.slookup.curSessionId.toNat + 1 := by
        rw [tcpMaxSessions] at more
        rw [BitVec.toNat_add_of_lt (by simp; omega)]
        rfl
      refine
        inCustody.moves system.slookup.curSessionId.toNat .notIssued
          .available ⟨by decide, ?_, ?_, ?_⟩ inCustody.inRange
          inCustody.insertOps inCustody.deleteOps inCustody.counter
          inCustody.balance
      · rw [ids, ids, next, ← drop_range more]
      · simp [ids]
      · intro place notSource notTarget
        cases place <;> first | exact List.Perm.refl _ | contradiction
    · exact inCustody

/-- One more insertion, and one more deletion. -/
theorem counter_inserts (inserts deletes : Nat) :
    BitVec.ofNat 16 inserts - BitVec.ofNat 16 deletes + 1 =
      BitVec.ofNat 16 (inserts + 1) - BitVec.ofNat 16 deletes := by
  bv_omega

theorem counter_deletes (inserts deletes : Nat) :
    BitVec.ofNat 16 inserts - BitVec.ofNat 16 deletes - 1 =
      BitVec.ofNat 16 inserts - BitVec.ofNat 16 (deletes + 1) := by
  bv_omega

theorem camUpdateReqSender_inserts
    {state : SlookupState} {req : RtlSlookupToCamUpdReq}
    {later : List RtlSlookupToCamUpdReq}
    (inserting : state.camInsertReqs = req :: later) :
    SlookupProcess.call state .camUpdateReqSender =
      ({ state with
          camInsertReqs := later
          usedSessionIdCnt := state.usedSessionIdCnt + 1
          regSessionCnt := state.usedSessionIdCnt + 1 },
        [.camUpdReq req]) := by
  rw [SlookupProcess.call, TcpOffload.camUpdateReqSender, inserting]

theorem camUpdateReqSender_deletes
    {state : SlookupState} {req : RtlSlookupToCamUpdReq}
    {later : List RtlSlookupToCamUpdReq}
    (noInsert : state.camInsertReqs = [])
    (deleting : state.camDeleteReqs = req :: later) :
    SlookupProcess.call state .camUpdateReqSender =
      ({ state with
          camDeleteReqs := later
          releasedIds := state.releasedIds ++ [req.value.setWidth 14]
          usedSessionIdCnt := state.usedSessionIdCnt - 1
          regSessionCnt := state.usedSessionIdCnt - 1 },
        [.camUpdReq req]) := by
  rw [SlookupProcess.call, TcpOffload.camUpdateReqSender, noInsert,
    deleting]

theorem inCustody_camUpdateReqSender {system : IdSystem}
    (inCustody : system.InCustody) :
    (system.call .camUpdateReqSender).InCustody := by
  cases inserting : system.slookup.camInsertReqs with
  | cons req later =>
      have isInsert : req.op = .insert := by
        apply inCustody.insertOps
        rw [inserting]
        exact List.mem_cons_self
      rw [system.call_inserts (camUpdateReqSender_inserts inserting)
        isInsert]
      refine inCustody.keeps ?_ rfl ?_ inCustody.deleteOps ?_ ?_
      · intro place
        cases place with
        | pendingInsert =>
            rw [List.perm_iff_count]
            intro id
            simp only [ids, inserting, insertedIds, List.filter_append,
              List.map_append, List.count_append, List.map_cons,
              List.count_cons]
            simp [isInsert, List.count_cons]
            omega
        | notIssued | available | released | valid | pendingDelete =>
            exact List.Perm.refl _
      · intro other member
        apply inCustody.insertOps
        rw [inserting]
        exact List.mem_cons_of_mem req member
      · change system.slookup.usedSessionIdCnt + 1 = _
        rw [inCustody.counter]
        exact counter_inserts _ _
      · simp only [inserting, List.length_cons]
        omega
  | nil =>
      cases deleting : system.slookup.camDeleteReqs with
      | cons req later =>
          have isDelete : req.op = .delete := by
            apply inCustody.deleteOps
            rw [deleting]
            exact List.mem_cons_self
          have isId : req.value.toNat < tcpMaxSessions := by
            have member :
                req.value.toNat ∈ system.ids .pendingDelete := by
              rw [ids, deleting]
              exact List.mem_cons_self
            exact inCustody.lt_of_mem member
          have truncated :
              (req.value.setWidth 14).toNat = req.value.toNat := by
            rw [tcpMaxSessions] at isId
            rw [BitVec.toNat_setWidth]
            omega
          rw [system.call_deletes
            (camUpdateReqSender_deletes inserting deleting) isDelete]
          refine
            inCustody.moves req.value.toNat .pendingDelete .released
              ⟨by decide, ?_, ?_, ?_⟩ inCustody.inRange
              inCustody.insertOps ?_ ?_ ?_
          · rw [ids, deleting]
            exact List.Perm.refl _
          · simp [ids, truncated]
          · intro place notSource notTarget
            cases place with
            | pendingInsert =>
                simp [ids, insertedIds, isDelete]
            | notIssued | available | valid =>
                exact List.Perm.refl _
            | released | pendingDelete =>
                contradiction
          · intro other member
            apply inCustody.deleteOps
            rw [deleting]
            exact List.mem_cons_of_mem req member
          · change system.slookup.usedSessionIdCnt - 1 = _
            rw [inCustody.counter]
            exact counter_deletes _ _
          · have balance := inCustody.balance
            simp only [ids, deleting, inserting, insertedIds,
              List.filter_append, List.length_append, List.length_map,
              List.length_cons] at balance ⊢
            simp only [isDelete, List.filter_cons, List.filter_nil,
              reduceCtorEq, decide_false, Bool.false_eq_true, if_false,
              List.length_nil]
            omega
      | nil =>
          have called :
              SlookupProcess.call system.slookup .camUpdateReqSender =
                (system.slookup, []) := by
            rw [SlookupProcess.call, TcpOffload.camUpdateReqSender,
              inserting, deleting]
          rw [system.call_silent called rfl]
          exact inCustody

/-- A step that touches no ID. -/
theorem InCustody.same {system next : IdSystem}
    (inCustody : system.InCustody)
    (ids : next.ids = system.ids)
    (valid : next.slookup.validTuple = system.slookup.validTuple)
    (camInsertReqs :
      next.slookup.camInsertReqs = system.slookup.camInsertReqs)
    (camDeleteReqs :
      next.slookup.camDeleteReqs = system.slookup.camDeleteReqs)
    (counter :
      next.slookup.usedSessionIdCnt = system.slookup.usedSessionIdCnt)
    (inserts : next.inserts = system.inserts)
    (deletes : next.deletes = system.deletes) :
    next.InCustody := by
  refine inCustody.keeps ?_ valid ?_ ?_ ?_ ?_
  · intro place
    rw [ids]
  · rw [camInsertReqs]
    exact inCustody.insertOps
  · rw [camDeleteReqs]
    exact inCustody.deleteOps
  · rw [counter, inserts, deletes]
    exact inCustody.counter
  · rw [camInsertReqs, inserts, deletes]

theorem silent_rspTo (source : SlookupSource) (rsp : SessionLookupRsp) :
    [rspTo source rsp].filterMap SlookupMsg.toCamUpd = [] := by
  cases source <;> rfl

theorem inCustody_takeLupReq {system : IdSystem}
    (inCustody : system.InCustody)
    (lupReq : system.slookup.slcFsmState = .lupReq) :
    (system.call .camLookupRspHandler).InCustody := by
  have called :
      SlookupProcess.call system.slookup .camLookupRspHandler =
        (system.slookup.takeLupReq.1, system.slookup.takeLupReq.2) := by
    rw [SlookupProcess.call, camLookupRspHandler, lupReq]
  have silent :
      system.slookup.takeLupReq.2.filterMap SlookupMsg.toCamUpd = [] := by
    rw [SlookupState.takeLupReq]
    split
    · rfl
    · split <;> rfl
  rw [system.call_silent called silent, SlookupState.takeLupReq]
  split
  · refine inCustody.same ?_ rfl rfl rfl rfl rfl rfl
    funext place
    cases place <;> rfl
  · split
    · refine inCustody.same ?_ rfl rfl rfl rfl rfl rfl
      funext place
      cases place <;> rfl
    · exact inCustody

theorem inCustody_takeLupRsp {system : IdSystem}
    (inCustody : system.InCustody)
    (lupRsp : system.slookup.slcFsmState = .lupRsp) :
    (system.call .camLookupRspHandler).InCustody := by
  have called :
      SlookupProcess.call system.slookup .camLookupRspHandler =
        (system.slookup.takeLupRsp.1, system.slookup.takeLupRsp.2) := by
    rw [SlookupProcess.call, camLookupRspHandler, lupRsp]
  have silent :
      system.slookup.takeLupRsp.2.filterMap SlookupMsg.toCamUpd = [] := by
    rw [SlookupState.takeLupRsp]
    split
    · simp only []
      split
      · rfl
      · exact silent_rspTo _ _
    · rfl
  rw [system.call_silent called silent, SlookupState.takeLupRsp]
  split
  · simp only []
    split
    · rename_i id later _ available
      have isId : id.toNat < tcpMaxSessions := by
        have member : id.toNat ∈ system.ids .available := by
          rw [ids, available]
          exact List.mem_cons_self
        exact inCustody.lt_of_mem member
      have widened : (id.setWidth 16).toNat = id.toNat := by
        rw [tcpMaxSessions] at isId
        rw [BitVec.toNat_setWidth]
        omega
      refine
        inCustody.moves id.toNat .available .pendingInsert
          ⟨by decide, ?_, ?_, ?_⟩ inCustody.inRange ?_
          inCustody.deleteOps inCustody.counter ?_
      · rw [ids, available]
        exact List.Perm.refl _
      · rw [List.perm_iff_count]
        intro other
        simp only [ids, List.map_append, List.map_cons, List.map_nil,
          widened, List.count_append, List.count_cons, List.count_nil]
        omega
      · intro place notSource notTarget
        cases place <;> first | exact List.Perm.refl _ | contradiction
      · intro req member
        rcases List.mem_append.1 member with before | new
        · exact inCustody.insertOps req before
        · rw [List.mem_singleton.1 new]
      · have balance := inCustody.balance
        simp only [ids, List.length_append, List.length_map,
          List.length_cons, List.length_nil] at balance ⊢
        omega
    · refine inCustody.same ?_ rfl rfl rfl rfl rfl rfl
      funext place
      cases place <;> rfl
  · exact inCustody

theorem inCustody_takeUpdRsp {system : IdSystem}
    (inCustody : system.InCustody)
    (updRsp : system.slookup.slcFsmState = .updRsp) :
    (system.call .camLookupRspHandler).InCustody := by
  have called :
      SlookupProcess.call system.slookup .camLookupRspHandler =
        (system.slookup.takeUpdRsp.1, system.slookup.takeUpdRsp.2) := by
    rw [SlookupProcess.call, camLookupRspHandler, updRsp]
  have silent :
      system.slookup.takeUpdRsp.2.filterMap SlookupMsg.toCamUpd = [] := by
    rw [SlookupState.takeUpdRsp]
    split
    · exact silent_rspTo _ _
    · rfl
  rw [system.call_silent called silent, SlookupState.takeUpdRsp]
  split
  · rename_i rsp later answered _
    refine
      inCustody.keeps ?_ rfl inCustody.insertOps inCustody.deleteOps
        inCustody.counter rfl
    intro place
    cases place with
    | pendingInsert =>
        rw [List.perm_iff_count]
        intro id
        simp only [ids, answered, List.map_append, List.map_cons,
          List.map_nil, List.count_append, List.count_cons,
          List.count_nil]
        omega
    | notIssued | available | released | valid | pendingDelete =>
        exact List.Perm.refl _
  · exact inCustody

theorem inCustody_camUpdateRspHandler {system : IdSystem}
    (inCustody : system.InCustody) :
    (system.call .camUpdateRspHandler).InCustody := by
  have called :
      SlookupProcess.call system.slookup .camUpdateRspHandler =
        (camUpdateRspHandler system.slookup, []) :=
    rfl
  rw [system.call_silent called rfl, camUpdateRspHandler]
  split
  · rename_i rsp later answered
    split
    · rename_i isInsert
      refine
        inCustody.keeps ?_ rfl inCustody.insertOps inCustody.deleteOps
          inCustody.counter rfl
      intro place
      cases place with
      | pendingInsert =>
          rw [List.perm_iff_count]
          intro id
          simp only [ids, answered, insertRspIds, List.filter_cons,
            isInsert, decide_true, if_true, List.map_append,
            List.map_cons, List.map_nil, List.count_append,
            List.count_cons, List.count_nil]
          omega
      | notIssued | available | released | valid | pendingDelete =>
          exact List.Perm.refl _
    · rename_i notInsert
      refine inCustody.same ?_ rfl rfl rfl rfl rfl rfl
      funext place
      cases place with
      | pendingInsert =>
          simp [ids, answered, insertRspIds, notInsert]
      | notIssued | available | released | valid | pendingDelete =>
          rfl
  · exact inCustody

/-! ### The reverse table -/

/-- The valid IDs, when one that was not valid becomes so. -/
theorem filter_update_true {valid : TcpSessionID → Bool}
    {id : TcpSessionID}
    (isId : id.toNat < tcpMaxSessions) (notValid : valid id = false) :
    ((List.range tcpMaxSessions).filter fun other =>
        Function.update valid id true (BitVec.ofNat 16 other)).Perm
      (id.toNat ::
        (List.range tcpMaxSessions).filter fun other =>
          valid (BitVec.ofNat 16 other)) := by
  have self : BitVec.ofNat 16 id.toNat = id := by
    simp
  have isOther {other : Nat}
      (inRange : other < tcpMaxSessions) (differs : other ≠ id.toNat) :
      BitVec.ofNat 16 other ≠ id := by
    intro same
    rw [tcpMaxSessions] at inRange
    apply differs
    rw [← same, BitVec.toNat_ofNat]
    omega
  have nodup : (List.range tcpMaxSessions).Nodup := List.nodup_range
  apply (List.perm_ext_iff_of_nodup (nodup.filter _) _).2
  · intro other
    rw [List.mem_filter, List.mem_cons, List.mem_filter, List.mem_range]
    by_cases differs : other = id.toNat
    · rw [differs, self, Function.update_self]
      simp [isId]
    · constructor
      · rintro ⟨inRange, valid⟩
        rw [Function.update_of_ne (isOther inRange differs)] at valid
        exact Or.inr ⟨inRange, valid⟩
      · rintro (isSelf | ⟨inRange, valid⟩)
        · exact absurd isSelf differs
        · refine ⟨inRange, ?_⟩
          rw [Function.update_of_ne (isOther inRange differs)]
          exact valid
  · refine List.nodup_cons.2 ⟨?_, nodup.filter _⟩
    intro member
    have valid := (List.mem_filter.1 member).2
    rw [self, notValid] at valid
    cases valid

/-- The valid IDs, when one is no longer valid. -/
theorem filter_update_false {valid : TcpSessionID → Bool}
    {id : TcpSessionID}
    (isId : id.toNat < tcpMaxSessions) (isValid : valid id = true) :
    ((List.range tcpMaxSessions).filter fun other =>
        valid (BitVec.ofNat 16 other)).Perm
      (id.toNat ::
        (List.range tcpMaxSessions).filter fun other =>
          Function.update valid id false (BitVec.ofNat 16 other)) := by
  have restored :
      Function.update (Function.update valid id false) id true = valid := by
    rw [Function.update_idem, ← isValid, Function.update_eq_self]
  have update :=
    filter_update_true isId
      (Function.update_self id false valid :
        Function.update valid id false id = false)
  rw [restored] at update
  exact update

/-- A session that is to become valid is not. -/
theorem InCustody.notValid_of_queued {system : IdSystem}
    {req : SlookupToRevTableUpdReq}
    {later : List SlookupToRevTableUpdReq}
    (inCustody : system.InCustody)
    (queued : system.slookup.reverseTableInsertReqs = req :: later) :
    req.key.toNat < tcpMaxSessions ∧
      system.slookup.validTuple req.key = false := by
  have member : req.key.toNat ∈ system.ids .pendingInsert := by
    rw [ids, queued]
    exact List.mem_append_right _ List.mem_cons_self
  have isId := inCustody.lt_of_mem member
  have once := inCustody.once req.key.toNat
  rw [if_pos isId] at once
  have notThere :=
    not_mem_of_mem (Nat.le_of_eq once) member
      (show IdPlace.valid ≠ .pendingInsert by decide)
  refine ⟨isId, ?_⟩
  simpa [ids, isId] using notThere

theorem inCustody_inserts {system : IdSystem}
    {req : SlookupToRevTableUpdReq}
    {later : List SlookupToRevTableUpdReq}
    (inCustody : system.InCustody)
    (queued : system.slookup.reverseTableInsertReqs = req :: later) :
    InCustody
      { system with
        slookup :=
          { system.slookup with
            reverseTableInsertReqs := later
            slookupRevTable :=
              Function.update system.slookup.slookupRevTable req.key
                ⟨req.tupleValue, req.roleValue⟩
            validTuple :=
              Function.update system.slookup.validTuple req.key true } } := by
  obtain ⟨isId, notValid⟩ := inCustody.notValid_of_queued queued
  refine
    inCustody.moves req.key.toNat .pendingInsert .valid
      ⟨by decide, ?_, ?_, ?_⟩ ?_ inCustody.insertOps inCustody.deleteOps
      inCustody.counter ?_
  · rw [List.perm_iff_count]
    intro id
    simp only [ids, queued, List.map_cons, List.count_append,
      List.count_cons]
    omega
  · exact filter_update_true isId notValid
  · intro place notSource notTarget
    cases place <;> first | exact List.Perm.refl _ | contradiction
  · intro id valid
    by_cases isKey : id = req.key
    · rw [isKey]
      exact isId
    · apply inCustody.inRange
      rw [← valid]
      exact (Function.update_of_ne isKey _ _).symm
  · have balance := inCustody.balance
    have oneMore := (filter_update_true isId notValid).length_eq
    simp only [ids, queued, List.length_append, List.length_map,
      List.length_cons] at balance oneMore ⊢
    omega

theorem inCustody_release {system : IdSystem} (id : TcpSessionID)
    (inCustody : system.InCustody) :
    InCustody
      { system with slookup := (system.slookup.release id).1 } := by
  rw [SlookupState.release]
  simp only []
  split
  · rename_i isValid
    have isId := inCustody.inRange id isValid
    refine
      inCustody.moves id.toNat .valid .pendingDelete
        ⟨by decide, ?_, ?_, ?_⟩ ?_ inCustody.insertOps ?_
        inCustody.counter ?_
    · exact filter_update_false isId isValid
    · simp [ids]
    · intro place notSource notTarget
      cases place <;> first | exact List.Perm.refl _ | contradiction
    · intro other valid
      by_cases isReleased : other = id
      · rw [isReleased]
        exact isId
      · apply inCustody.inRange
        rw [← valid]
        exact (Function.update_of_ne isReleased _ _).symm
    · intro req member
      rcases List.mem_append.1 member with before | new
      · exact inCustody.deleteOps req before
      · rw [List.mem_singleton.1 new]
    · have balance := inCustody.balance
      have oneLess := (filter_update_false isId isValid).length_eq
      simp only [ids, List.length_append, List.length_map,
        List.length_cons, List.length_nil] at balance oneLess ⊢
      omega
  · rename_i notValid
    have same :
        Function.update system.slookup.validTuple id false =
          system.slookup.validTuple := by
      rw [← Bool.eq_false_iff.2 notValid, Function.update_eq_self]
    refine inCustody.same ?_ same rfl rfl rfl rfl rfl
    funext place
    cases place with
    | valid =>
        rw [ids, ids, same]
    | notIssued | available | released | pendingInsert | pendingDelete =>
        rfl

theorem noUpdate_slookupReverseTableInterface (state : SlookupState) :
    (slookupReverseTableInterface state).2.filterMap
      SlookupMsg.toCamUpd = [] := by
  rw [slookupReverseTableInterface]
  split
  · rfl
  · rfl
  · rfl
  · rfl
  · rw [SlookupState.release]
    simp only []
    split <;> rfl
  · rfl

theorem inCustody_slookupReverseTableInterface {system : IdSystem}
    (inCustody : system.InCustody) :
    (system.call .slookupReverseTableInterface).InCustody := by
  have silent := noUpdate_slookupReverseTableInterface system.slookup
  have called :
      SlookupProcess.call system.slookup .slookupReverseTableInterface =
        ((slookupReverseTableInterface system.slookup).1,
          (slookupReverseTableInterface system.slookup).2) :=
    rfl
  rw [system.call_silent called silent, slookupReverseTableInterface]
  split
  · rename_i queued
    exact inCustody_inserts inCustody queued
  · refine inCustody.same ?_ rfl rfl rfl rfl rfl rfl
    funext place
    cases place <;> rfl
  · refine inCustody.same ?_ rfl rfl rfl rfl rfl rfl
    funext place
    cases place <;> rfl
  · refine inCustody.same ?_ rfl rfl rfl rfl rfl rfl
    funext place
    cases place <;> rfl
  · rename_i id later _ _ _ _ _
    have taken :
        InCustody
          { system with
            slookup :=
              { system.slookup with sttableReleaseReqs := later } } := by
      refine inCustody.same ?_ rfl rfl rfl rfl rfl rfl
      funext place
      cases place <;> rfl
    exact inCustody_release id taken
  · exact inCustody

/-! ## Every step and every run -/

theorem inCustody_call {system : IdSystem} (process : SlookupProcess)
    (inCustody : system.InCustody) : (system.call process).InCustody := by
  cases process with
  | getNewAvailableSessionId =>
      exact inCustody_getNewAvailableSessionId inCustody
  | camLookupRspHandler =>
      cases state : system.slookup.slcFsmState with
      | lupReq =>
          exact inCustody_takeLupReq inCustody state
      | lupRsp =>
          exact inCustody_takeLupRsp inCustody state
      | updRsp =>
          exact inCustody_takeUpdRsp inCustody state
  | camUpdateReqSender =>
      exact inCustody_camUpdateReqSender inCustody
  | camUpdateRspHandler =>
      exact inCustody_camUpdateRspHandler inCustody
  | slookupReverseTableInterface =>
      exact inCustody_slookupReverseTableInterface inCustody

theorem inCustody_step {system next : IdSystem} {action : IdAction}
    (inCustody : system.InCustody)
    (stepped : IdStep system action next) : next.InCustody := by
  cases stepped with
  | process process =>
      exact inCustody_call process inCustody
  | input input =>
      cases input <;>
        refine inCustody.same ?_ rfl rfl rfl rfl rfl rfl <;>
          funext place <;>
            cases place <;> rfl
  | @camInserts req before after rsp split isInsert answersInsert sameId =>
      refine
        inCustody.keeps ?_ rfl inCustody.insertOps inCustody.deleteOps
          inCustody.counter rfl
      intro place
      cases place with
      | pendingInsert =>
          rw [List.perm_iff_count]
          intro id
          simp only [ids, answered, split, insertedIds, insertRspIds,
            List.filter_append, List.filter_cons, List.filter_nil,
            isInsert, answersInsert, sameId, decide_true, if_true,
            List.map_append, List.map_cons, List.map_nil,
            List.count_append, List.count_cons, List.count_nil]
          omega
      | notIssued | available | released | valid | pendingDelete =>
          exact List.Perm.refl _
  | camDeletes split isDelete =>
      refine inCustody.same ?_ rfl rfl rfl rfl rfl rfl
      funext place
      cases place with
      | pendingInsert =>
          simp [ids, split, insertedIds, isDelete]
      | notIssued | available | released | valid | pendingDelete =>
          rfl
  | camAnswersDelete isDelete =>
      refine inCustody.same ?_ rfl rfl rfl rfl rfl rfl
      funext place
      cases place with
      | pendingInsert =>
          simp [ids, answered, insertRspIds, isDelete]
      | notIssued | available | released | valid | pendingDelete =>
          rfl

theorem inCustody_start (table : TcpSessionID → RevTableEntry) :
    (start table).InCustody where
  once := by
    intro id
    rw [copies, IdPlace.amount_eq]
    change (List.range tcpMaxSessions).count id + 0 + 0 + 0 + _ + 0 = _
    rw [List.count_range]
    simp [start, SlookupState.start, ids]
  total := by
    rw [IdPlace.amount_eq]
    simp [start, SlookupState.start, ids, insertedIds, insertRspIds]
  inRange := by
    intro id valid
    cases valid
  insertOps := by
    intro req member
    cases member
  deleteOps := by
    intro req member
    cases member
  counter := by
    change (0 : BitVec 16) = BitVec.ofNat 16 0 - BitVec.ofNat 16 0
    decide
  balance := by
    simp [start, SlookupState.start, ids, insertedIds, insertRspIds]

theorem inCustody_run {system final : IdSystem} {actions : List IdAction}
    (inCustody : system.InCustody)
    (run : Run IdStep system actions final) : final.InCustody := by
  induction run with
  | refl =>
      exact inCustody
  | head stepped _ inductionHypothesis =>
      exact inductionHypothesis (inCustody_step inCustody stepped)

/-- Each ID is in exactly one place, and the counter of IDs in use is the
number of insertions less that of deletions, of which there are not more. -/
structure Conserved (system : IdSystem) : Prop where
  onePlace :
    ∀ id < tcpMaxSessions, ∃ place,
      (system.ids place).count id = 1 ∧
        ∀ other, other ≠ place → id ∉ system.ids other
  noUnderflow : system.deletes ≤ system.inserts
  counter :
    system.slookup.usedSessionIdCnt.toNat =
      system.inserts - system.deletes

theorem InCustody.conserved {system : IdSystem}
    (inCustody : system.InCustody) : system.Conserved := by
  have balance := inCustody.balance
  have total := inCustody.total
  have queued :
      system.slookup.camInsertReqs.length ≤
        (system.ids .pendingInsert).length := by
    simp only [ids, List.length_append, List.length_map]
    omega
  have inUse :
      (system.ids .pendingInsert).length + (system.ids .valid).length +
          (system.ids .pendingDelete).length ≤
        tcpMaxSessions := by
    rw [IdPlace.amount_eq] at total
    simp only [List.countP_true] at total
    omega
  refine ⟨?_, ?_, ?_⟩
  · intro id isId
    apply of_copies_one
    rw [inCustody.once, if_pos isId]
  · omega
  · rw [inCustody.counter, BitVec.toNat_sub, BitVec.toNat_ofNat,
      BitVec.toNat_ofNat]
    rw [tcpMaxSessions] at inUse
    omega

end IdSystem

/-- In every run of the controller, with its processes, its inputs and the
CAM's answers in any order, no ID is lost, handed out twice or freed twice. -/
theorem sessionIds_conserved
    (table : TcpSessionID → RevTableEntry)
    (actions : List IdAction) (system : IdSystem)
    (run : Run IdStep (IdSystem.start table) actions system) :
    system.Conserved :=
  (IdSystem.inCustody_run (IdSystem.inCustody_start table) run).conserved

/-- A session that is opened and then released twice. -/
def releasedTwice : List IdAction :=
  [.process .getNewAvailableSessionId,
    .input (.txAppReq ⟨⟨1, 2, 3, 4⟩, 0⟩),
    .process .camLookupRspHandler,
    .input (.camLupRsp ⟨⟨1, 2, 3, 4⟩, 0, false, .txApp⟩),
    .process .camLookupRspHandler, .process .camUpdateReqSender,
    .camAnswers ⟨.insert, ⟨1, 2, 3, 4⟩, 0, true, .txApp⟩,
    .process .camUpdateRspHandler, .process .camLookupRspHandler,
    .process .slookupReverseTableInterface,
    .input (.sttableReleaseReq 0), .input (.sttableReleaseReq 0),
    .process .slookupReverseTableInterface,
    .process .slookupReverseTableInterface, .process .camUpdateReqSender]

theorem sessionIds_conserved_releasedTwice :
    ∃ system,
      Run IdStep (IdSystem.start fun _ => ⟨⟨0, 0, 0, 0⟩, 0⟩) releasedTwice
          system ∧
        system.Conserved ∧ system.ids .released = [0] := by
  have run :
      ∃ system,
        Run IdStep (IdSystem.start fun _ => ⟨⟨0, 0, 0, 0⟩, 0⟩)
            releasedTwice system ∧
          system.ids .released = [0] := by
    apply Exists.intro
    apply And.intro
    · apply Run.head (IdStep.process _)
      apply Run.head (IdStep.input _)
      apply Run.head (IdStep.process _)
      apply Run.head (IdStep.input _)
      apply Run.head (IdStep.process _)
      apply Run.head (IdStep.process _)
      apply Run.head (@IdStep.camInserts _ _ [] [] _ rfl rfl rfl rfl)
      apply Run.head (IdStep.process _)
      apply Run.head (IdStep.process _)
      apply Run.head (IdStep.process _)
      apply Run.head (IdStep.input _)
      apply Run.head (IdStep.input _)
      apply Run.head (IdStep.process _)
      apply Run.head (IdStep.process _)
      apply Run.head (IdStep.process _)
      exact Run.refl _
    · rfl
  obtain ⟨system, steps, released⟩ := run
  exact
    ⟨system, steps, sessionIds_conserved _ releasedTwice system steps,
      released⟩

end TcpOffload
