import TcpOffload.SessionLookup.Hits

/-!
# What one call of the controller does

Each call of one of the five processes, as a change of the registers and FIFOs
it touches: what the proofs about whole runs case on.
-/

namespace TcpOffload

/-- The calls of the controller and what they write. -/
inductive SlookupCall (state : SlookupState) :
    SlookupProcess → SlookupState → List SlookupMsg → Prop
  | waits {process : SlookupProcess} : SlookupCall state process state []
  | frees {next : SlookupState} (availableIds releasedIds : List FreeSessionID)
      (curSessionId : FreeSessionID) :
      next =
          { state with
            availableIds := availableIds
            releasedIds := releasedIds
            curSessionId := curSessionId } →
      SlookupCall state .getNewAvailableSessionId next []
  | asks {next : SlookupState} (req : SlookupReqInternal)
      (txAppReqs : List TxAppToSlookupReq)
      (rxEngReqs : List RxEngToSlookupReq) :
      state.slcFsmState = .lupReq →
      next =
          { state with
            txAppReqs := txAppReqs
            rxEngReqs := rxEngReqs
            toCamReqCache := req
            toCamReqCacheValid := true
            slcFsmState := .lupRsp } →
      SlookupCall state .camLookupRspHandler next
        [.camLupReq ⟨req.tuple, req.source⟩]
  | creates {next : SlookupState} {rsp : RtlCamToSlookupLupRsp}
      {later : List RtlCamToSlookupLupRsp} {id : FreeSessionID}
      {ids : List FreeSessionID} :
      state.slcFsmState = .lupRsp →
      state.camLupRsps = rsp :: later →
      rsp.hit = false →
      state.availableIds = id :: ids →
      next =
          { state with
            camLupRsps := later
            toCamReqCacheValid := false
            availableIds := ids
            camInsertReqs :=
              state.camInsertReqs ++
                [⟨.insert, state.toCamReqCache.tuple, id.setWidth 16,
                  rsp.source⟩]
            toRevTableReqCache :=
              ⟨state.toCamReqCache.tuple, state.toCamReqCache.roleId⟩
            toRevTableReqCacheValid := true
            slcFsmState := .updRsp } →
      SlookupCall state .camLookupRspHandler next []
  | answers {next : SlookupState} {rsp : RtlCamToSlookupLupRsp}
      {later : List RtlCamToSlookupLupRsp} :
      state.slcFsmState = .lupRsp →
      state.camLupRsps = rsp :: later →
      next =
          { state with
            camLupRsps := later
            toCamReqCacheValid := false
            slcFsmState := .lupReq } →
      SlookupCall state .camLookupRspHandler next
        [rspTo rsp.source
          ⟨rsp.sessionId, rsp.hit, state.toCamReqCache.roleId⟩]
  | created {next : SlookupState} {rsp : RtlCamToSlookupUpdRsp}
      {later : List RtlCamToSlookupUpdRsp} :
      state.slcFsmState = .updRsp →
      state.camInsertRsps = rsp :: later →
      state.toRevTableReqCacheValid = true →
      next =
          { state with
            camInsertRsps := later
            toRevTableReqCacheValid := false
            reverseTableInsertReqs :=
              state.reverseTableInsertReqs ++
                [⟨rsp.sessionId, state.toRevTableReqCache.tuple,
                  state.toRevTableReqCache.roleId⟩]
            slcFsmState := .lupReq } →
      SlookupCall state .camLookupRspHandler next
        [rspTo rsp.source
          ⟨rsp.sessionId, true, state.toRevTableReqCache.roleId⟩]
  | sendsInsert {next : SlookupState} {req : RtlSlookupToCamUpdReq}
      {later : List RtlSlookupToCamUpdReq} :
      state.camInsertReqs = req :: later →
      next =
          { state with
            camInsertReqs := later
            usedSessionIdCnt := state.usedSessionIdCnt + 1
            regSessionCnt := state.usedSessionIdCnt + 1 } →
      SlookupCall state .camUpdateReqSender next [.camUpdReq req]
  | sendsDelete {next : SlookupState} {req : RtlSlookupToCamUpdReq}
      {later : List RtlSlookupToCamUpdReq} :
      state.camInsertReqs = [] →
      state.camDeleteReqs = req :: later →
      next =
          { state with
            camDeleteReqs := later
            releasedIds := state.releasedIds ++ [req.value.setWidth 14]
            usedSessionIdCnt := state.usedSessionIdCnt - 1
            regSessionCnt := state.usedSessionIdCnt - 1 } →
      SlookupCall state .camUpdateReqSender next [.camUpdReq req]
  | keeps {next : SlookupState} {rsp : RtlCamToSlookupUpdRsp}
      {later : List RtlCamToSlookupUpdRsp} :
      state.camUpdRsps = rsp :: later →
      rsp.op = .insert →
      next =
          { state with
            camUpdRsps := later
            camInsertRsps := state.camInsertRsps ++ [rsp] } →
      SlookupCall state .camUpdateRspHandler next []
  | drops {next : SlookupState} {rsp : RtlCamToSlookupUpdRsp}
      {later : List RtlCamToSlookupUpdRsp} :
      state.camUpdRsps = rsp :: later →
      rsp.op ≠ .insert →
      next = { state with camUpdRsps := later } →
      SlookupCall state .camUpdateRspHandler next []
  | inserts {next : SlookupState} {req : SlookupToRevTableUpdReq}
      {later : List SlookupToRevTableUpdReq} :
      state.reverseTableInsertReqs = req :: later →
      next =
          { state with
            reverseTableInsertReqs := later
            slookupRevTable :=
              Function.update state.slookupRevTable req.key
                ⟨req.tupleValue, req.roleValue⟩
            validTuple := Function.update state.validTuple req.key true } →
      SlookupCall state .slookupReverseTableInterface next []
  | tells {next : SlookupState}
      (txEngRevTableReqs rxAppTdestReqs txAppTdestReqs : List TcpSessionID)
      (msg : SlookupMsg) :
      [msg].filterMap SlookupMsg.toCamLup = [] →
      [msg].filterMap SlookupMsg.toCamUpd = [] →
      next =
          { state with
            txEngRevTableReqs := txEngRevTableReqs
            rxAppTdestReqs := rxAppTdestReqs
            txAppTdestReqs := txAppTdestReqs } →
      SlookupCall state .slookupReverseTableInterface next [msg]
  | releases {next : SlookupState} {id : TcpSessionID}
      {later : List TcpSessionID} (port : TcpPortNumber) :
      state.sttableReleaseReqs = id :: later →
      state.validTuple id = true →
      next =
          { state with
            sttableReleaseReqs := later
            validTuple := Function.update state.validTuple id false
            camDeleteReqs :=
              state.camDeleteReqs ++
                [⟨.delete, (state.slookupRevTable id).tuple, id, .rx⟩] } →
      SlookupCall state .slookupReverseTableInterface next
        [.releasePort port]
  | ignores {next : SlookupState} {id : TcpSessionID}
      {later : List TcpSessionID} :
      state.sttableReleaseReqs = id :: later →
      state.validTuple id = false →
      next =
          { state with
            sttableReleaseReqs := later
            validTuple := Function.update state.validTuple id false } →
      SlookupCall state .slookupReverseTableInterface next []

theorem getNewAvailableSessionId_call (state : SlookupState) :
    SlookupCall state .getNewAvailableSessionId
      (getNewAvailableSessionId state) [] := by
  rw [getNewAvailableSessionId]
  split
  · exact SlookupCall.frees _ _ _ rfl
  · split
    · exact SlookupCall.frees _ _ _ rfl
    · exact SlookupCall.waits

theorem camLookupRspHandler_call (state : SlookupState) :
    SlookupCall state .camLookupRspHandler (camLookupRspHandler state).1
      (camLookupRspHandler state).2 := by
  rw [camLookupRspHandler]
  split
  next lupReq =>
    rw [SlookupState.takeLupReq]
    split
    · exact SlookupCall.asks _ _ _ lupReq rfl
    · split
      · exact SlookupCall.asks _ _ _ lupReq rfl
      · exact SlookupCall.waits
  next lupRsp =>
    rw [SlookupState.takeLupRsp]
    split
    next rsp later answered _ =>
      dsimp only
      split
      next id ids allowed available =>
        rw [Bool.and_eq_true, Bool.not_eq_true'] at allowed
        exact
          SlookupCall.creates lupRsp answered allowed.1 available rfl
      next =>
        exact SlookupCall.answers lupRsp answered rfl
    next =>
      exact SlookupCall.waits
  next updRsp =>
    rw [SlookupState.takeUpdRsp]
    split
    next rsp later answered cacheValid =>
      exact SlookupCall.created updRsp answered cacheValid rfl
    next =>
      exact SlookupCall.waits

theorem camUpdateReqSender_call (state : SlookupState) :
    SlookupCall state .camUpdateReqSender (camUpdateReqSender state).1
      (camUpdateReqSender state).2 := by
  rw [camUpdateReqSender]
  split
  next req later inserting =>
    exact SlookupCall.sendsInsert inserting rfl
  next noInsert =>
    split
    next req later deleting =>
      exact SlookupCall.sendsDelete noInsert deleting rfl
    next =>
      exact SlookupCall.waits

theorem camUpdateRspHandler_call (state : SlookupState) :
    SlookupCall state .camUpdateRspHandler (camUpdateRspHandler state)
      [] := by
  rw [camUpdateRspHandler]
  split
  next rsp later answered =>
    split
    next isInsert =>
      exact SlookupCall.keeps answered isInsert rfl
    next notInsert =>
      exact SlookupCall.drops answered notInsert rfl
  next =>
    exact SlookupCall.waits

theorem slookupReverseTableInterface_call (state : SlookupState) :
    SlookupCall state .slookupReverseTableInterface
      (slookupReverseTableInterface state).1
      (slookupReverseTableInterface state).2 := by
  rw [slookupReverseTableInterface]
  split
  next req later queued =>
    exact SlookupCall.inserts queued rfl
  next =>
    exact SlookupCall.tells _ _ _ _ rfl rfl rfl
  next =>
    exact SlookupCall.tells _ _ _ _ rfl rfl rfl
  next =>
    exact SlookupCall.tells _ _ _ _ rfl rfl rfl
  next id later _ _ _ _ queued =>
    rw [SlookupState.release]
    dsimp only
    split
    next valid =>
      exact SlookupCall.releases _ queued valid rfl
    next notValid =>
      exact SlookupCall.ignores queued (by simpa using notValid) rfl
  next =>
    exact SlookupCall.waits

/-- Every call of the controller is one of these. -/
theorem SlookupProcess.call_cases (state : SlookupState)
    (process : SlookupProcess) :
    SlookupCall state process (process.call state).1
      (process.call state).2 := by
  cases process with
  | getNewAvailableSessionId =>
      exact getNewAvailableSessionId_call state
  | camLookupRspHandler =>
      exact camLookupRspHandler_call state
  | camUpdateReqSender =>
      exact camUpdateReqSender_call state
  | camUpdateRspHandler =>
      exact camUpdateRspHandler_call state
  | slookupReverseTableInterface =>
      exact slookupReverseTableInterface_call state

end TcpOffload
