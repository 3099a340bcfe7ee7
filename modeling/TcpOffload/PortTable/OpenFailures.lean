import TcpOffload.PortTable.Reservation
import TcpOffload.RxEngine.PayloadBytes

/-!
# The ports of active opens

A port is reserved before its session is looked up, and only the release of
the session gives it back.  The modules run here as for the reservation of a
port, with any number of opens; a port in use is followed from the open that
waits for it to the session that is released.
-/

namespace TcpOffload

open Guarded

/-! ## Who has a port -/

/-- An open of the application has the port and is not answered: it has to
take it, or its session is looked up. -/
inductive PortSystem.Opening
    (system : PortSystem) (port : TcpPortNumber) : Prop
  | handedOut :
      system.connHandler.waitForFreePortLock = true →
      port ∈ system.connHandler.ptableRsps →
      Opening system port
  | asks {req : TxAppToSlookupReq} :
      req ∈ system.slookup.txAppReqs →
      req.fourTuple.localPort = port →
      Opening system port
  | looksUp :
      system.slookup.slcFsmState = .lupRsp →
      system.slookup.toCamReqCache.source = .txApp →
      system.slookup.toCamReqCache.tuple.localPort = port →
      Opening system port

/-- Every ephemeral port in use is a live session's, an unanswered open's, or
its release is on its way. -/
def PortSystem.PortsAccounted (system : PortSystem) : Prop :=
  ∀ index,
    (system.ptable.freePortTable index).isOpen = true →
      system.slookup.Holds (freePort index) ∨
        system.Opening (freePort index) ∨
          freePort index ∈ system.ptable.slookupReleasePortReqs

/-- The lookup of an active open finds a session that is live, or there is a
session ID for it. -/
def OpensServed (system : PortSystem) : PortAction → Prop
  | .slookup .camLookupRspHandler =>
      ∀ rsp ∈ system.slookup.camLupRsps.head?,
        system.slookup.slcFsmState = .lupRsp →
        system.slookup.toCamReqCache.source = .txApp →
          if rsp.hit then
            system.slookup.Owned system.slookup.toCamReqCache.tuple
              rsp.sessionId
          else
            system.slookup.availableIds ≠ []
  | _ => True

/-! ## The session lookup controller -/

namespace SlookupState

/-- The controller has the port, for a session or for the lookup of an
open. -/
inductive Serves (state : SlookupState) (port : TcpPortNumber) : Prop
  | held : state.Holds port → Serves state port
  | asks {req : TxAppToSlookupReq} :
      req ∈ state.txAppReqs →
      req.fourTuple.localPort = port →
      Serves state port
  | looksUp :
      state.slcFsmState = .lupRsp →
      state.toCamReqCache.source = .txApp →
      state.toCamReqCache.tuple.localPort = port →
      Serves state port

/-- The registers agree with the state of the handler: a session that is
being created waits in `UPD_RSP`, and an open may create one. -/
structure Consistent (state : SlookupState) : Prop where
  creating :
    state.toRevTableReqCacheValid = true → state.slcFsmState = .updRsp
  allowed :
    state.toCamReqCache.source = .txApp →
      state.toCamReqCache.allowCreation = true

variable {state next : SlookupState} {port : TcpPortNumber}

theorem holds_of_owned {tuple : CamTuple} {id : TcpSessionID}
    (owned : state.Owned tuple id) : state.Holds tuple.localPort := by
  rcases owned with ⟨valid, isTuple⟩ | ⟨req, member, -, isTuple⟩
  · exact Holds.live ⟨id, valid, congrArg FourTuple.localPort isTuple⟩
  · exact Holds.queued member (congrArg FourTuple.localPort isTuple)

theorem serves_of_same
    (serves : state.Serves port)
    (valid : next.validTuple = state.validTuple)
    (table : next.slookupRevTable = state.slookupRevTable)
    (cacheValid :
      next.toRevTableReqCacheValid = state.toRevTableReqCacheValid)
    (cache : next.toRevTableReqCache = state.toRevTableReqCache)
    (inserts :
      next.reverseTableInsertReqs = state.reverseTableInsertReqs)
    (reqs : ∀ req ∈ state.txAppReqs, req ∈ next.txAppReqs)
    (fsmState : next.slcFsmState = state.slcFsmState)
    (camCache : next.toCamReqCache = state.toCamReqCache) :
    next.Serves port := by
  cases serves with
  | held holds =>
      exact
        Serves.held
          (holds_of_same holds valid.symm table.symm cacheValid.symm
            cache.symm inserts.symm)
  | asks member isPort =>
      exact Serves.asks (reqs _ member) isPort
  | looksUp isLookup isOpen isPort =>
      rw [← fsmState] at isLookup
      rw [← camCache] at isOpen isPort
      exact Serves.looksUp isLookup isOpen isPort

theorem serves_takeLupReq (serves : state.Serves port)
    (isLupReq : state.slcFsmState = .lupReq) :
    state.takeLupReq.1.Serves port := by
  rw [takeLupReq]
  split
  · rename_i req later reqs
    cases serves with
    | held holds =>
        exact
          Serves.held (holds_of_same holds rfl rfl rfl rfl rfl)
    | asks member isPort =>
        rw [reqs] at member
        rcases List.mem_cons.1 member with isNext | behind
        · rw [isNext] at isPort
          exact Serves.looksUp rfl rfl isPort
        · exact Serves.asks behind isPort
    | looksUp isLookup _ _ =>
        rw [isLupReq] at isLookup
        cases isLookup
  · rename_i noReqs
    split
    · cases serves with
      | held holds =>
          exact
            Serves.held (holds_of_same holds rfl rfl rfl rfl rfl)
      | asks member _ =>
          rw [noReqs] at member
          cases member
      | looksUp isLookup _ _ =>
          rw [isLupReq] at isLookup
          cases isLookup
    · exact serves

theorem serves_takeLupRsp (serves : state.Serves port)
    (consistent : state.Consistent)
    (isLupRsp : state.slcFsmState = .lupRsp)
    (served :
      ∀ rsp ∈ state.camLupRsps.head?,
        state.toCamReqCache.source = .txApp →
          if rsp.hit then
            state.Owned state.toCamReqCache.tuple rsp.sessionId
          else
            state.availableIds ≠ []) :
    state.takeLupRsp.1.Serves port := by
  rw [takeLupRsp]
  split
  · rename_i rsp later rsps _
    simp only []
    split
    · cases serves with
      | held holds =>
          cases holds with
          | live liveOn =>
              exact Serves.held (Holds.live liveOn)
          | created isValid _ =>
              have isUpdRsp := consistent.creating isValid
              rw [isLupRsp] at isUpdRsp
              cases isUpdRsp
          | queued member isPort =>
              exact Serves.held (Holds.queued member isPort)
      | asks member isPort =>
          exact Serves.asks member isPort
      | looksUp _ _ isPort =>
          exact Serves.held (Holds.created rfl isPort)
    · rename_i noCreation
      cases serves with
      | held holds =>
          exact
            Serves.held (holds_of_same holds rfl rfl rfl rfl rfl)
      | asks member isPort =>
          exact Serves.asks member isPort
      | looksUp _ isOpen isPort =>
          have found := served rsp (by rw [rsps]; rfl) isOpen
          cases hit : rsp.hit with
          | true =>
              rw [hit, if_pos rfl] at found
              have holds := holds_of_owned found
              rw [isPort] at holds
              exact
                Serves.held (holds_of_same holds rfl rfl rfl rfl rfl)
          | false =>
              rw [hit, if_neg Bool.false_ne_true] at found
              cases ids : state.availableIds with
              | nil =>
                  exact absurd ids found
              | cons id ids' =>
                  refine absurd ids (noCreation id ids' ?_)
                  rw [hit, consistent.allowed isOpen]
                  rfl
  · exact serves

theorem serves_takeUpdRsp (serves : state.Serves port)
    (isUpdRsp : state.slcFsmState = .updRsp) :
    state.takeUpdRsp.1.Serves port := by
  rw [takeUpdRsp]
  split
  · cases serves with
    | held holds =>
        cases holds with
        | live liveOn =>
            exact Serves.held (Holds.live liveOn)
        | created _ isPort =>
            exact
              Serves.held
                (Holds.queued
                  (List.mem_append_right _ (List.mem_singleton_self _))
                  isPort)
        | queued member isPort =>
            exact
              Serves.held
                (Holds.queued (List.mem_append_left _ member) isPort)
    | asks member isPort =>
        exact Serves.asks member isPort
    | looksUp isLookup _ _ =>
        rw [isUpdRsp] at isLookup
        cases isLookup
  · exact serves

/-- A session that is released gives its port back in the same call. -/
theorem serves_release (serves : state.Serves port) (id : TcpSessionID) :
    (state.release id).1.Serves port ∨
      port ∈ (state.release id).2.filterMap SlookupMsg.toReleasePort := by
  cases serves with
  | held holds =>
      cases holds with
      | live liveOn =>
          obtain ⟨other, valid, isPort⟩ := liveOn
          by_cases isReleased : other = id
          · right
            rw [isReleased] at valid isPort
            rw [release]
            simp only []
            rw [if_pos valid]
            exact List.mem_singleton.2 isPort.symm
          · left
            rw [CamSystem.release_same]
            refine Serves.held (Holds.live ⟨other, ?_, isPort⟩)
            change Function.update _ _ _ _ = _
            rw [Function.update_of_ne isReleased]
            exact valid
      | created isValid isPort =>
          left
          rw [CamSystem.release_same]
          exact Serves.held (Holds.created isValid isPort)
      | queued member isPort =>
          left
          rw [CamSystem.release_same]
          exact Serves.held (Holds.queued member isPort)
  | asks member isPort =>
      left
      rw [CamSystem.release_same]
      exact Serves.asks member isPort
  | looksUp isLookup isOpen isPort =>
      left
      rw [CamSystem.release_same]
      exact Serves.looksUp isLookup isOpen isPort

theorem serves_slookupReverseTableInterface
    (serves : state.Serves port)
    (fresh :
      ∀ req ∈ state.reverseTableInsertReqs.head?,
        state.validTuple req.key = false) :
    (slookupReverseTableInterface state).1.Serves port ∨
      port ∈
        (slookupReverseTableInterface state).2.filterMap
          SlookupMsg.toReleasePort := by
  rw [slookupReverseTableInterface]
  split
  · rename_i _ _ _ _ _ req later queued
    have isFresh := fresh req (by rw [queued]; rfl)
    left
    cases serves with
    | held holds =>
        cases holds with
        | live liveOn =>
            obtain ⟨id, valid, isPort⟩ := liveOn
            have isOther : id ≠ req.key := by
              rintro rfl
              rw [isFresh] at valid
              cases valid
            refine Serves.held (Holds.live ⟨id, ?_, ?_⟩)
            · change Function.update _ _ _ _ = _
              rw [Function.update_of_ne isOther]
              exact valid
            · change
                (Function.update state.slookupRevTable _ _
                  _).tuple.localPort = _
              rw [Function.update_of_ne isOther]
              exact isPort
        | created isValid isPort =>
            exact Serves.held (Holds.created isValid isPort)
        | queued member isPort =>
            rw [queued] at member
            rcases List.mem_cons.1 member with isNext | behind
            · rw [isNext] at isPort
              refine Serves.held (Holds.live ⟨req.key, ?_, ?_⟩)
              · exact Function.update_self _ _ _
              · change
                (Function.update state.slookupRevTable _ _
                  _).tuple.localPort = _
                rw [Function.update_self]
                exact isPort
            · exact Serves.held (Holds.queued behind isPort)
    | asks member isPort =>
        exact Serves.asks member isPort
    | looksUp isLookup isOpen isPort =>
        exact Serves.looksUp isLookup isOpen isPort
  · left
    exact
      serves_of_same serves rfl rfl rfl rfl rfl (fun _ same => same) rfl rfl
  · left
    exact
      serves_of_same serves rfl rfl rfl rfl rfl (fun _ same => same) rfl rfl
  · left
    exact
      serves_of_same serves rfl rfl rfl rfl rfl (fun _ same => same) rfl rfl
  · rename_i id later _ _ _ _ _
    exact
      serves_release
        (@serves_of_same _ { state with sttableReleaseReqs := later } _
          serves rfl rfl rfl rfl rfl (fun _ same => same) rfl rfl)
        id
  · exact Or.inl serves

theorem serves_call (process : SlookupProcess)
    (serves : state.Serves port)
    (consistent : state.Consistent)
    (fresh :
      ∀ req ∈ state.reverseTableInsertReqs.head?,
        state.validTuple req.key = false)
    (served :
      process = .camLookupRspHandler →
        ∀ rsp ∈ state.camLupRsps.head?,
          state.slcFsmState = .lupRsp →
          state.toCamReqCache.source = .txApp →
            if rsp.hit then
              state.Owned state.toCamReqCache.tuple rsp.sessionId
            else
              state.availableIds ≠ []) :
    (process.call state).1.Serves port ∨
      port ∈
        (process.call state).2.filterMap SlookupMsg.toReleasePort := by
  cases process with
  | getNewAvailableSessionId =>
      left
      change (getNewAvailableSessionId state).Serves port
      rw [getNewAvailableSessionId]
      split
      · exact
          serves_of_same serves rfl rfl rfl rfl rfl (fun _ same => same)
            rfl rfl
      · split
        · exact
            serves_of_same serves rfl rfl rfl rfl rfl (fun _ same => same)
              rfl rfl
        · exact serves
  | camLookupRspHandler =>
      left
      change (camLookupRspHandler state).1.Serves port
      rw [camLookupRspHandler]
      split
      · rename_i isLupReq
        exact serves_takeLupReq serves isLupReq
      · rename_i isLupRsp
        exact
          serves_takeLupRsp serves consistent isLupRsp
            fun rsp isNext => served rfl rsp isNext isLupRsp
      · rename_i isUpdRsp
        exact serves_takeUpdRsp serves isUpdRsp
  | camUpdateReqSender =>
      left
      change (camUpdateReqSender state).1.Serves port
      rw [camUpdateReqSender]
      split
      · exact
          serves_of_same serves rfl rfl rfl rfl rfl (fun _ same => same)
            rfl rfl
      · split
        · exact
            serves_of_same serves rfl rfl rfl rfl rfl (fun _ same => same)
              rfl rfl
        · exact serves
  | camUpdateRspHandler =>
      left
      change (camUpdateRspHandler state).Serves port
      rw [camUpdateRspHandler]
      split
      · split
        · exact
            serves_of_same serves rfl rfl rfl rfl rfl (fun _ same => same)
              rfl rfl
        · exact
            serves_of_same serves rfl rfl rfl rfl rfl (fun _ same => same)
              rfl rfl
      · exact serves
  | slookupReverseTableInterface =>
      exact serves_slookupReverseTableInterface serves fresh

theorem consistent_of_same
    (consistent : state.Consistent)
    (cacheValid :
      next.toRevTableReqCacheValid = state.toRevTableReqCacheValid)
    (fsmState : next.slcFsmState = state.slcFsmState)
    (camCache : next.toCamReqCache = state.toCamReqCache) :
    next.Consistent where
  creating := by
    rw [cacheValid, fsmState]
    exact consistent.creating
  allowed := by
    rw [camCache]
    exact consistent.allowed

theorem consistent_camLookupRspHandler (consistent : state.Consistent) :
    (camLookupRspHandler state).1.Consistent := by
  have notCreating (other : state.slcFsmState ≠ .updRsp) :
      state.toRevTableReqCacheValid ≠ true :=
    fun isValid => other (consistent.creating isValid)
  rw [camLookupRspHandler]
  split
  · rename_i isLupReq
    have invalid := notCreating (by rw [isLupReq]; decide)
    rw [takeLupReq]
    split
    · exact ⟨fun isValid => absurd isValid invalid, fun _ => rfl⟩
    · split
      · exact
          ⟨fun isValid => absurd isValid invalid,
            fun isOpen => by cases isOpen⟩
      · exact consistent
  · rename_i isLupRsp
    have invalid := notCreating (by rw [isLupRsp]; decide)
    rw [takeLupRsp]
    split
    · simp only []
      split
      · exact ⟨fun _ => rfl, consistent.allowed⟩
      · exact
          ⟨fun isValid => absurd isValid invalid, consistent.allowed⟩
    · exact consistent
  · rw [takeUpdRsp]
    split
    · exact ⟨fun isValid => (by cases isValid), consistent.allowed⟩
    · exact consistent

theorem consistent_call (process : SlookupProcess)
    (consistent : state.Consistent) :
    (process.call state).1.Consistent := by
  cases process with
  | getNewAvailableSessionId =>
      change (getNewAvailableSessionId state).Consistent
      rw [getNewAvailableSessionId]
      split
      · exact consistent_of_same consistent rfl rfl rfl
      · split
        · exact consistent_of_same consistent rfl rfl rfl
        · exact consistent
  | camLookupRspHandler =>
      exact consistent_camLookupRspHandler consistent
  | camUpdateReqSender =>
      change (camUpdateReqSender state).1.Consistent
      rw [camUpdateReqSender]
      split
      · exact consistent_of_same consistent rfl rfl rfl
      · split
        · exact consistent_of_same consistent rfl rfl rfl
        · exact consistent
  | camUpdateRspHandler =>
      change (camUpdateRspHandler state).Consistent
      rw [camUpdateRspHandler]
      split
      · split
        · exact consistent_of_same consistent rfl rfl rfl
        · exact consistent_of_same consistent rfl rfl rfl
      · exact consistent
  | slookupReverseTableInterface =>
      change (slookupReverseTableInterface state).1.Consistent
      rw [slookupReverseTableInterface]
      split
      · exact consistent_of_same consistent rfl rfl rfl
      · exact consistent_of_same consistent rfl rfl rfl
      · exact consistent_of_same consistent rfl rfl rfl
      · exact consistent_of_same consistent rfl rfl rfl
      · rw [CamSystem.release_same]
        exact consistent_of_same consistent rfl rfl rfl
      · exact consistent

end SlookupState

/-! ## The port table -/

namespace PortTableState

variable {state : PortTableState} {index : PortIndex}

/-- Only `FreePortTable` touches the ephemeral ports. -/
theorem samePorts {process : PtableProcess}
    (other : ∀ full, process ≠ .freePortTable full) :
    (process.call state).1.freePortTable = state.freePortTable ∧
      (process.call state).1.slookupReleasePortReqs =
        state.slookupReleasePortReqs ∧
      (process.call state).1.txAppReqs = state.txAppReqs ∧
      (process.call state).2.filterMap PortTableMsg.toTxApp = [] := by
  cases process with
  | listeningPortTable =>
      rw [PtableProcess.call, TcpOffload.listeningPortTable]
      split
      · simp only []
        split
        · exact ⟨rfl, rfl, rfl, rfl⟩
        · exact ⟨rfl, rfl, rfl, rfl⟩
      · split
        · exact ⟨rfl, rfl, rfl, rfl⟩
        · exact ⟨rfl, rfl, rfl, rfl⟩
  | freePortTable full =>
      exact absurd rfl (other full)
  | checkInMultiplexer =>
      rw [PtableProcess.call, TcpOffload.checkInMultiplexer]
      split
      · split
        · exact ⟨rfl, rfl, rfl, rfl⟩
        · exact ⟨rfl, rfl, rfl, rfl⟩
      · exact ⟨rfl, rfl, rfl, rfl⟩
  | checkOutMultiplexer =>
      rw [PtableProcess.call, TcpOffload.checkOutMultiplexer]
      split
      · split
        · exact ⟨rfl, rfl, rfl, rfl⟩
        · exact ⟨rfl, rfl, rfl, rfl⟩
      · split
        · exact ⟨rfl, rfl, rfl, rfl⟩
        · exact ⟨rfl, rfl, rfl, rfl⟩
      · split
        · exact ⟨rfl, rfl, rfl, rfl⟩
        · exact ⟨rfl, rfl, rfl, rfl⟩

theorem isOpen_freePortTable (full : Bool)
    (isOpen :
      ((TcpOffload.freePortTable full state).1.freePortTable
        index).isOpen = true) :
    freePort index ∈
        (TcpOffload.freePortTable full state).2.filterMap
          PortTableMsg.toTxApp ∨
      (state.freePortTable index).isOpen = true ∧
        (freePort index ∈ state.slookupReleasePortReqs →
          freePort index ∈
            (TcpOffload.freePortTable full
              state).1.slookupReleasePortReqs) := by
  rw [TcpOffload.freePortTable] at isOpen ⊢
  split at isOpen
  · rename_i port later queued
    right
    simp only [queued] at isOpen ⊢
    by_cases isFree : isFreePort port = true
    · rw [if_pos isFree] at isOpen ⊢
      by_cases isIndex : index = portIndex port
      · rw [isIndex] at isOpen
        change (Function.update state.freePortTable _ _ _).isOpen = true
          at isOpen
        rw [Function.update_self] at isOpen
        cases isOpen
      · change (Function.update state.freePortTable _ _ _).isOpen = true
          at isOpen
        rw [Function.update_of_ne isIndex] at isOpen
        refine ⟨isOpen, fun released => ?_⟩
        rcases List.mem_cons.1 released with isNext | behind
        · rw [← isNext, portIndex_freePort] at isIndex
          exact absurd rfl isIndex
        · exact behind
    · rw [if_neg isFree] at isOpen ⊢
      refine ⟨isOpen, fun released => ?_⟩
      rcases List.mem_cons.1 released with isNext | behind
      · rw [← isNext] at isFree
        exact absurd (isFreePort_freePort index) isFree
      · exact behind
  · exact Or.inr ⟨isOpen, fun released => released⟩
  · rename_i releases checks _
    simp only [releases, checks] at isOpen ⊢
    split at isOpen
    · rename_i available
      rw [if_pos available]
      by_cases isCursor : index = state.ptCursor
      · left
        rw [isCursor]
        exact List.mem_singleton_self _
      · right
        change (Function.update state.freePortTable _ _ _).isOpen = true
          at isOpen
        rw [Function.update_of_ne isCursor] at isOpen
        exact ⟨isOpen, fun released => by cases released⟩
    · exact Or.inr ⟨isOpen, fun released => by cases released⟩
  · exact Or.inr ⟨isOpen, fun released => released⟩

/-- A port in use was in use, with its release still on its way, or has just
been handed out. -/
theorem isOpen_call (process : PtableProcess)
    (isOpen :
      ((process.call state).1.freePortTable index).isOpen = true) :
    freePort index ∈
        (process.call state).2.filterMap PortTableMsg.toTxApp ∨
      (state.freePortTable index).isOpen = true ∧
        (freePort index ∈ state.slookupReleasePortReqs →
          freePort index ∈
            (process.call state).1.slookupReleasePortReqs) := by
  by_cases isFreePortTable : ∃ full, process = .freePortTable full
  · obtain ⟨full, rfl⟩ := isFreePortTable
    exact isOpen_freePortTable full isOpen
  · obtain ⟨table, releases, -, -⟩ :=
      @samePorts state process fun full same =>
        isFreePortTable ⟨full, same⟩
    rw [table] at isOpen
    rw [releases]
    exact Or.inr ⟨isOpen, fun released => released⟩

/-- A request is answered once at most. -/
theorem opens_call (process : PtableProcess) :
    (process.call state).1.txAppReqs.length +
        ((process.call state).2.filterMap PortTableMsg.toTxApp).length ≤
      state.txAppReqs.length := by
  by_cases isFreePortTable : ∃ full, process = .freePortTable full
  · obtain ⟨full, rfl⟩ := isFreePortTable
    change
      (TcpOffload.freePortTable full state).1.txAppReqs.length + _ ≤ _
    rw [PtableProcess.call, TcpOffload.freePortTable]
    split
    · simp only []
      split
      · exact Nat.le_refl _
      · exact Nat.le_refl _
    · exact Nat.le_refl _
    · rename_i reqs
      rw [reqs]
      simp only []
      split
      · exact Nat.le_refl _
      · exact Nat.le_succ _
    · exact Nat.le_refl _
  · obtain ⟨-, -, reqs, none⟩ :=
      @samePorts state process fun full same =>
        isFreePortTable ⟨full, same⟩
    rw [reqs, none]
    exact Nat.le_refl _

end PortTableState

/-! ## The connection handler -/

namespace ConnectionHandlerState

variable {state : ConnectionHandlerState}

/-- The second part of a call leaves the ports alone. -/
theorem takeNext_ports (state : ConnectionHandlerState) :
    state.takeNext.1.waitForFreePortLock = state.waitForFreePortLock ∧
      state.takeNext.1.ptableRsps = state.ptableRsps ∧
      state.takeNext.2.filterMap ConnectionHandlerMsg.toPtable = [] ∧
      state.takeNext.2.filterMap ConnectionHandlerMsg.toSlookup = [] := by
  rw [takeNext]
  split
  · rw [takeIdle]
    split
    · refine ⟨rfl, rfl, ?_, ?_⟩
      · dsimp only
        split
        · rfl
        · rfl
      · dsimp only
        split
        · rfl
        · rfl
    · exact ⟨rfl, rfl, rfl, rfl⟩
    · exact ⟨rfl, rfl, rfl, rfl⟩
    · exact ⟨rfl, rfl, rfl, rfl⟩
    · exact ⟨rfl, rfl, rfl, rfl⟩
    · exact ⟨rfl, rfl, rfl, rfl⟩
  · rw [takeTdestActiveOpen]
    split
    · exact ⟨rfl, rfl, rfl, rfl⟩
    · exact ⟨rfl, rfl, rfl, rfl⟩
  · rw [takeTdestPassiveOpen]
    split
    · exact ⟨rfl, rfl, rfl, rfl⟩
    · exact ⟨rfl, rfl, rfl, rfl⟩
  · rw [takeCloseConn]
    split
    · refine ⟨rfl, rfl, ?_, ?_⟩
      · dsimp only
        split
        · rfl
        · rfl
      · dsimp only
        split
        · rfl
        · rfl
    · exact ⟨rfl, rfl, rfl, rfl⟩

/-- The tuple of the lookup has the port that was handed out. -/
theorem localPort_slookupReq (req : AppOpenConnReq)
    (port : TcpPortNumber) :
    (req.slookupReq port).fourTuple.localPort = port :=
  swapByte_swapByte_sixteen port

/-- What a call does with the ports: it asks for one, sends the lookup with
the one it got, or leaves them alone. -/
inductive PortCall (state : ConnectionHandlerState) :
    Bool → List TcpPortNumber → List NetAXISDest →
      List TxAppToSlookupReq → Prop
  | rests :
      PortCall state state.waitForFreePortLock state.ptableRsps [] []
  | asks {dest : NetAXISDest} :
      state.waitForFreePortLock = false →
      PortCall state true state.ptableRsps [dest] []
  | takes {port : TcpPortNumber} {later : List TcpPortNumber} :
      state.waitForFreePortLock = true →
      state.ptableRsps = port :: later →
      PortCall state false later []
        [state.appOpenReqReg.slookupReq port]

theorem txAppConnectionHandler_ports (state : ConnectionHandlerState) :
    PortCall state (txAppConnectionHandler state).1.waitForFreePortLock
      (txAppConnectionHandler state).1.ptableRsps
      ((txAppConnectionHandler state).2.filterMap
        ConnectionHandlerMsg.toPtable)
      ((txAppConnectionHandler state).2.filterMap
        ConnectionHandlerMsg.toSlookup) := by
  obtain ⟨lock, rsps, noPtable, noSlookup⟩ :=
    state.requestFreePort.1.takeNext_ports
  have asked :
      (txAppConnectionHandler state).2 =
        state.requestFreePort.2 ++ state.requestFreePort.1.takeNext.2 :=
    rfl
  rw [asked, List.filterMap_append, List.filterMap_append, noPtable,
    noSlookup, List.append_nil, List.append_nil]
  change PortCall state state.requestFreePort.1.takeNext.1.waitForFreePortLock
    state.requestFreePort.1.takeNext.1.ptableRsps _ _
  rw [lock, rsps, requestFreePort]
  split
  · rename_i isFree _
    exact PortCall.asks isFree
  · rename_i isLocked rsps
    exact PortCall.takes isLocked rsps
  · exact PortCall.rests

end ConnectionHandlerState

/-! ## Every step and every run -/

namespace PortSystem

/-- One open at most waits for its port. -/
def OneOpen (system : PortSystem) : Prop :=
  system.ptable.txAppReqs.length + system.connHandler.ptableRsps.length ≤
    system.connHandler.waitForFreePortLock.toNat

/-- Who has a port, the application's handler apart. -/
inductive Tracks (system : PortSystem) (port : TcpPortNumber) : Prop
  | handedOut :
      port ∈ system.connHandler.ptableRsps → Tracks system port
  | served : system.slookup.Serves port → Tracks system port
  | released :
      port ∈ system.ptable.slookupReleasePortReqs → Tracks system port

structure PortsInvariant (system : PortSystem) : Prop where
  inCustody : system.lookup.ids.InCustody
  consistent : system.slookup.Consistent
  oneOpen : system.OneOpen
  tracks :
    ∀ index,
      (system.ptable.freePortTable index).isOpen = true →
        system.Tracks (freePort index)

namespace PortsInvariant

variable {system next : PortSystem}

theorem accounted (invariant : PortsInvariant system) :
    system.PortsAccounted := by
  intro index isOpen
  cases invariant.tracks index isOpen with
  | handedOut member =>
      right
      left
      refine Opening.handedOut ?_ member
      have oneOpen := invariant.oneOpen
      cases isLocked : system.connHandler.waitForFreePortLock with
      | true =>
          rfl
      | false =>
          have some := List.length_pos_of_mem member
          rw [OneOpen, isLocked] at oneOpen
          exact absurd oneOpen (by simp only [Bool.toNat_false]; omega)
  | served serves =>
      cases serves with
      | held holds =>
          exact Or.inl holds
      | asks member isPort =>
          exact Or.inr (Or.inl (Opening.asks member isPort))
      | looksUp isLookup isOpen isPort =>
          exact Or.inr (Or.inl (Opening.looksUp isLookup isOpen isPort))
  | released member =>
      exact Or.inr (Or.inr member)

theorem start (table : TcpSessionID → RevTableEntry)
    (segMeta : TcpPseudoHeaderMeta) :
    PortsInvariant (PortSystem.start table segMeta) where
  inCustody := IdSystem.inCustody_start table
  consistent :=
    ⟨fun isValid => (by cases isValid), fun isOpen => (by cases isOpen)⟩
  oneOpen := Nat.le_refl _
  tracks := fun _ isOpen => by cases isOpen

/-- A step that gives the ephemeral ports and the sessions to nobody. -/
theorem same
    (invariant : PortsInvariant system)
    (inCustody : next.lookup.ids.InCustody)
    (consistent : next.slookup.Consistent)
    (ptable : next.ptable.freePortTable = system.ptable.freePortTable)
    (releases :
      next.ptable.slookupReleasePortReqs =
        system.ptable.slookupReleasePortReqs)
    (oneOpen : next.OneOpen)
    (ptableRsps :
      ∀ port ∈ system.connHandler.ptableRsps, next.Tracks port)
    (serves :
      ∀ port, system.slookup.Serves port → next.slookup.Serves port) :
    PortsInvariant next where
  inCustody := inCustody
  consistent := consistent
  oneOpen := oneOpen
  tracks := by
    intro index isOpen
    rw [ptable] at isOpen
    cases invariant.tracks index isOpen with
    | handedOut member =>
        exact ptableRsps _ member
    | served known =>
        exact Tracks.served (serves _ known)
    | released member =>
        rw [← releases] at member
        exact Tracks.released member

theorem callSlookup
    (invariant : PortsInvariant system) (process : SlookupProcess)
    (served : OpensServed system (.slookup process)) :
    PortsInvariant (system.callSlookup process) where
  inCustody := IdSystem.inCustody_call process invariant.inCustody
  consistent :=
    SlookupState.consistent_call process invariant.consistent
  oneOpen := invariant.oneOpen
  tracks := by
    intro index isOpen
    cases invariant.tracks index isOpen with
    | handedOut member =>
        exact Tracks.handedOut member
    | served serves =>
        have fresh :
            ∀ req ∈ system.slookup.reverseTableInsertReqs.head?,
              system.slookup.validTuple req.key = false := by
          intro req isNext
          obtain ⟨later, queued⟩ :=
            List.head?_eq_some_iff.1 (Option.mem_def.1 isNext)
          exact (invariant.inCustody.notValid_of_queued queued).2
        rcases
          SlookupState.serves_call process serves invariant.consistent fresh
            (by rintro rfl; exact served) with
          still | released
        · exact Tracks.served still
        · exact Tracks.released (List.mem_append_right _ released)
    | released member =>
        exact Tracks.released (List.mem_append_left _ member)

theorem callPtable
    (invariant : PortsInvariant system) (process : PtableProcess) :
    PortsInvariant (system.callPtable process) where
  inCustody := invariant.inCustody
  consistent := invariant.consistent
  oneOpen := by
    have oneOpen := invariant.oneOpen
    have opens := @PortTableState.opens_call system.ptable process
    rw [OneOpen] at oneOpen ⊢
    change
      (process.call system.ptable).1.txAppReqs.length +
          (system.connHandler.ptableRsps ++
            (process.call system.ptable).2.filterMap
              PortTableMsg.toTxApp).length ≤
        system.connHandler.waitForFreePortLock.toNat
    rw [List.length_append]
    omega
  tracks := by
    intro index isOpen
    rcases PortTableState.isOpen_call process isOpen with
      isNew | ⟨wasOpen, stillReleased⟩
    · exact Tracks.handedOut (List.mem_append_right _ isNew)
    · cases invariant.tracks index wasOpen with
      | handedOut member =>
          exact Tracks.handedOut (List.mem_append_left _ member)
      | served serves =>
          exact Tracks.served serves
      | released member =>
          exact Tracks.released (stillReleased member)

theorem callConnHandler (invariant : PortsInvariant system) :
    PortsInvariant system.callConnHandler := by
  have oneOpen := invariant.oneOpen
  rw [OneOpen] at oneOpen
  have ports :=
    ConnectionHandlerState.txAppConnectionHandler_ports system.connHandler
  have inCustody : system.callConnHandler.lookup.ids.InCustody := by
    refine invariant.inCustody.same ?_ rfl rfl rfl rfl rfl rfl
    funext place
    cases place <;> rfl
  have consistent : system.callConnHandler.slookup.Consistent :=
    SlookupState.consistent_of_same invariant.consistent rfl rfl rfl
  have serves (port : TcpPortNumber) (known : system.slookup.Serves port) :
      system.callConnHandler.slookup.Serves port :=
    SlookupState.serves_of_same known rfl rfl rfl rfl rfl
      (fun _ member => List.mem_append_left _ member) rfl rfl
  have isOne :
      system.callConnHandler.OneOpen ↔
        (system.ptable.txAppReqs ++
            (txAppConnectionHandler system.connHandler).2.filterMap
              ConnectionHandlerMsg.toPtable).length +
          (txAppConnectionHandler
            system.connHandler).1.ptableRsps.length ≤
          (txAppConnectionHandler
            system.connHandler).1.waitForFreePortLock.toNat :=
    Iff.rfl
  have keeps (port : TcpPortNumber) :
      port ∈
          (txAppConnectionHandler system.connHandler).1.ptableRsps ∨
        (∃ req ∈
            (txAppConnectionHandler system.connHandler).2.filterMap
              ConnectionHandlerMsg.toSlookup,
          req.fourTuple.localPort = port) →
        system.callConnHandler.Tracks port := by
    rintro (member | ⟨req, member, isPort⟩)
    · exact Tracks.handedOut member
    · exact
        Tracks.served
          (SlookupState.Serves.asks (List.mem_append_right _ member)
            isPort)
  generalize (txAppConnectionHandler
    system.connHandler).1.waitForFreePortLock = lock at ports isOne
  generalize (txAppConnectionHandler
    system.connHandler).1.ptableRsps = rsps at ports isOne keeps
  generalize (txAppConnectionHandler
    system.connHandler).2.filterMap ConnectionHandlerMsg.toPtable = asked
    at ports isOne
  generalize (txAppConnectionHandler
    system.connHandler).2.filterMap ConnectionHandlerMsg.toSlookup = sent
    at ports keeps
  cases ports with
  | rests =>
      refine
        invariant.same inCustody consistent rfl rfl (isOne.2 ?_)
          (fun port member => keeps port (Or.inl member)) serves
      rw [List.append_nil]
      exact oneOpen
  | asks notLocked =>
      refine
        invariant.same inCustody consistent rfl rfl (isOne.2 ?_)
          (fun port member => keeps port (Or.inl member)) serves
      rw [notLocked] at oneOpen
      rw [List.length_append]
      simp only [Bool.toNat_false, Bool.toNat_true, List.length_cons,
        List.length_nil] at oneOpen ⊢
      omega
  | @takes port later isLocked isNext =>
      rw [isLocked, isNext] at oneOpen
      simp only [Bool.toNat_true, List.length_cons] at oneOpen
      have noLater : rsps = [] := by
        apply List.eq_nil_of_length_eq_zero
        omega
      refine
        invariant.same inCustody consistent rfl rfl (isOne.2 ?_)
          (fun other member => keeps other (Or.inr ?_)) serves
      · rw [List.append_nil]
        simp only [Bool.toNat_false]
        omega
      · rw [isNext, noLater] at member
        rw [List.mem_singleton.1 member]
        exact
          ⟨_, List.mem_singleton_self _,
            ConnectionHandlerState.localPort_slookupReq _ port⟩

/-- A step after which the controller has the same sessions and the same
lookups of opens. -/
theorem sameServes
    (invariant : PortsInvariant system)
    (inCustody : next.lookup.ids.InCustody)
    (consistent : next.slookup.Consistent)
    (ptable : next.ptable.freePortTable = system.ptable.freePortTable)
    (releases :
      next.ptable.slookupReleasePortReqs =
        system.ptable.slookupReleasePortReqs)
    (reqs : next.ptable.txAppReqs = system.ptable.txAppReqs)
    (lock :
      next.connHandler.waitForFreePortLock =
        system.connHandler.waitForFreePortLock)
    (rsps : next.connHandler.ptableRsps = system.connHandler.ptableRsps)
    (serves :
      ∀ port, system.slookup.Serves port → next.slookup.Serves port) :
    PortsInvariant next := by
  refine
    invariant.same inCustody consistent ptable releases ?_ ?_ serves
  · rw [OneOpen, reqs, lock, rsps]
    exact invariant.oneOpen
  · intro port member
    rw [← rsps] at member
    exact Tracks.handedOut member

theorem receive (invariant : PortsInvariant system) (input : PortInput) :
    PortsInvariant (system.receive input) := by
  cases input with
  | segment | listenPort | openConn | closeConn | newClient |
      rxEngNotification | rtimerNotification | sttableRsp =>
      exact
        invariant.sameServes invariant.inCustody invariant.consistent rfl
          rfl rfl rfl rfl fun _ known => known
  | sttableReleaseReq | rxAppTdestReq | txEngRevTableReq =>
      refine
        invariant.sameServes
          (invariant.inCustody.same ?_ rfl rfl rfl rfl rfl rfl)
          (SlookupState.consistent_of_same invariant.consistent rfl rfl
            rfl)
          rfl rfl rfl rfl rfl fun _ known =>
            SlookupState.serves_of_same known rfl rfl rfl rfl rfl
              (fun _ same => same) rfl rfl
      funext place
      cases place <;> rfl

theorem callMetaHandler (invariant : PortsInvariant system) :
    PortsInvariant system.callMetaHandler := by
  refine
    invariant.sameServes
      (invariant.inCustody.same ?_ rfl rfl rfl rfl rfl rfl)
      (SlookupState.consistent_of_same invariant.consistent rfl rfl rfl)
      rfl rfl rfl rfl rfl fun _ known =>
        SlookupState.serves_of_same known rfl rfl rfl rfl rfl
          (fun _ same => same) rfl rfl
  funext place
  cases place <;> rfl

theorem step {action : PortAction} (invariant : PortsInvariant system)
    (served : OpensServed system action)
    (stepped : PortStep system action next) : PortsInvariant next := by
  cases stepped with
  | slookup process =>
      exact invariant.callSlookup process served
  | camLookup looksUp =>
      have inCustody :=
        CamSystem.inCustody_step invariant.inCustody looksUp
      cases looksUp with
      | camLookup _ _ _ =>
          exact
            invariant.sameServes inCustody
              (SlookupState.consistent_of_same invariant.consistent rfl rfl
                rfl)
              rfl rfl rfl rfl rfl fun _ known =>
                SlookupState.serves_of_same known rfl rfl rfl rfl rfl
                  (fun _ same => same) rfl rfl
  | camUpdate updates =>
      have inCustody :=
        CamSystem.inCustody_step invariant.inCustody updates
      cases updates with
      | camUpdate _ =>
          exact
            invariant.sameServes inCustody
              (SlookupState.consistent_of_same invariant.consistent rfl rfl
                rfl)
              rfl rfl rfl rfl rfl fun _ known =>
                SlookupState.serves_of_same known rfl rfl rfl rfl rfl
                  (fun _ same => same) rfl rfl
  | ptable process =>
      exact invariant.callPtable process
  | rxEngTcpMetaHandler =>
      exact invariant.callMetaHandler
  | txAppConnectionHandler =>
      exact invariant.callConnHandler
  | input input =>
      exact invariant.receive input

end PortsInvariant

end PortSystem

open PortSystem in
/-- In every run in which the lookup of every open finds a live session or a
session ID, no port in use is without a session, an open or a release. -/
theorem ports_accounted
    (table : TcpSessionID → RevTableEntry)
    (segMeta : TcpPseudoHeaderMeta) (actions : List PortAction)
    (final : PortSystem)
    (served :
      Along PortStep OpensServed (PortSystem.start table segMeta) actions)
    (run :
      Run PortStep (PortSystem.start table segMeta) actions final) :
    final.PortsAccounted := by
  have preserved (system : PortSystem) (action : PortAction)
      (next : PortSystem) (invariant : PortsInvariant system)
      (servedHere : OpensServed system action)
      (stepped : PortStep system action next) : PortsInvariant next :=
    invariant.step servedHere stepped
  exact
    (invariant_of_run preserved (PortsInvariant.start table segMeta) served
      run).accounted

theorem ports_accounted_opensOnFirstPort :
    ∃ final,
      Run PortStep
          (PortSystem.start (fun _ => ⟨⟨0, 0, 0, 0⟩, 0⟩) synToFirstPort)
          opensOnFirstPort final ∧
        final.PortsAccounted := by
  have reaches :
      ∃ final,
        Reaches PortStep OpensServed
          (PortSystem.start (fun _ => ⟨⟨0, 0, 0, 0⟩, 0⟩) synToFirstPort)
          opensOnFirstPort final := by
    apply Exists.intro
    apply (PortStep.input _).reaches trivial
    apply PortStep.txAppConnectionHandler.reaches trivial
    apply (PortStep.ptable _).reaches trivial
    apply PortStep.txAppConnectionHandler.reaches trivial
    apply (PortStep.slookup .getNewAvailableSessionId).reaches trivial
    apply (PortStep.slookup _).reaches
    · intro rsp isNext
      cases isNext
    apply (PortStep.camLookup (CamStep.camLookup rfl rfl rfl)).reaches
      trivial
    apply (PortStep.slookup _).reaches
    · intro rsp isNext _ _
      cases isNext
      exact List.cons_ne_nil _ _
    apply (PortStep.slookup .camUpdateReqSender).reaches trivial
    apply (PortStep.camUpdate (CamStep.camUpdate rfl)).reaches trivial
    apply (PortStep.slookup .camUpdateRspHandler).reaches trivial
    apply (PortStep.slookup _).reaches
    · intro rsp isNext
      cases isNext
    apply
      (PortStep.slookup .slookupReverseTableInterface).reaches trivial
    exact Reaches.refl _
  obtain ⟨final, run, served⟩ := reaches
  exact
    ⟨final, run, ports_accounted _ _ _ _ (served [] trivial) run⟩

/-- The application opens a connection while there is no session ID, and is
told so. -/
def opensWithoutId : List PortAction :=
  [.input (.openConn ⟨1, 2, 3, 0⟩), .txAppConnectionHandler,
    .ptable (.freePortTable false), .txAppConnectionHandler,
    .slookup .camLookupRspHandler,
    .camLookup ⟨⟨1, 2, 0x0080, 3⟩, 0, false, .txApp⟩,
    .slookup .camLookupRspHandler, .txAppConnectionHandler]

/-- The open has failed, and its port stays in use. -/
theorem not_ports_accounted :
    ¬∀ table segMeta actions final,
        Run PortStep (PortSystem.start table segMeta) actions final →
          final.PortsAccounted := by
  intro allAccounted
  have run :
      ∃ final,
        Run PortStep
            (PortSystem.start (fun _ => ⟨⟨0, 0, 0, 0⟩, 0⟩) synToFirstPort)
            opensWithoutId final ∧
          ¬final.PortsAccounted := by
    apply Exists.intro
    apply And.intro
    · apply Run.head (PortStep.input _)
      apply Run.head PortStep.txAppConnectionHandler
      apply Run.head (PortStep.ptable _)
      apply Run.head PortStep.txAppConnectionHandler
      apply Run.head (PortStep.slookup _)
      apply Run.head (PortStep.camLookup (CamStep.camLookup rfl rfl rfl))
      apply Run.head (PortStep.slookup _)
      apply Run.head PortStep.txAppConnectionHandler
      exact Run.refl _
    · intro accounted
      rcases accounted 0 rfl with holds | opening | released
      · cases holds with
        | live liveOn =>
            obtain ⟨_, valid, _⟩ := liveOn
            cases valid
        | created isValid _ =>
            cases isValid
        | queued member _ =>
            cases member
      · cases opening with
        | handedOut isLocked _ =>
            cases isLocked
        | asks member _ =>
            cases member
        | looksUp isLookup _ _ =>
            cases isLookup
      · cases released
  obtain ⟨final, steps, leaked⟩ := run
  exact leaked (allAccounted _ _ _ final steps)

end TcpOffload
