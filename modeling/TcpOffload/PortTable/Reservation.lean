import TcpOffload.RxEngine.MetaHandler
import TcpOffload.RxEngine.VerifyChecksum
import TcpOffload.SessionLookup.Hits
import TcpOffload.TxAppIntf.ConnectionHandler

/-!
# The reservation of an ephemeral port

One bit of the free port table stands for every session on a port.  The port
table, the controller beside its CAM, the handler of header records and the
application's connection handler run here in any order, on any segments,
opens and closes.
-/

namespace TcpOffload

open Guarded

/-! ## The four modules -/

structure PortSystem where
  lookup : CamSystem
  ptable : PortTableState
  metaHandler : MetaHandlerState
  connHandler : ConnectionHandlerState

/-- What reaches the four modules from others.  A segment has passed its
checksum. -/
inductive PortInput where
  | segment (segMeta : TcpPseudoHeaderMeta)
  | listenPort (req : ListenPortReq)
  | openConn (req : AppOpenConnReq)
  | closeConn (id : TcpSessionID)
  | newClient (notification : NewClientNotificationNoTDEST)
  | rxEngNotification (rsp : OpenConnRspNoTDEST)
  | rtimerNotification (rsp : OpenConnRspNoTDEST)
  | sttableRsp (rsp : SessionState)
  | sttableReleaseReq (id : TcpSessionID)
  | rxAppTdestReq (id : TcpSessionID)
  | txEngRevTableReq (id : TcpSessionID)

inductive PortAction where
  | slookup (process : SlookupProcess)
  | camLookup (rsp : RtlCamToSlookupLupRsp)
  | camUpdate
  | ptable (process : PtableProcess)
  | rxEngTcpMetaHandler
  | txAppConnectionHandler
  | input (input : PortInput)

/-! ### What goes where -/

def SlookupMsg.toReleasePort : SlookupMsg → Option TcpPortNumber
  | .releasePort port => some port
  | _ => none

def SlookupMsg.toRxEng : SlookupMsg → Option SessionLookupRsp
  | .rxEngRsp rsp => some rsp
  | _ => none

def PortTableMsg.toTxApp : PortTableMsg → Option TcpPortNumber
  | .txAppRsp port => some port
  | _ => none

def ConnectionHandlerMsg.toPtable :
    ConnectionHandlerMsg → Option NetAXISDest
  | .ptableReq dest => some dest
  | _ => none

def ConnectionHandlerMsg.toSlookup :
    ConnectionHandlerMsg → Option TxAppToSlookupReq
  | .slookupReq req => some req
  | _ => none

def ConnectionHandlerMsg.toSlookupTdest :
    ConnectionHandlerMsg → Option TcpSessionID
  | .checkTdestReq id => some id
  | _ => none

namespace PortSystem

def start
    (table : TcpSessionID → RevTableEntry)
    (segMeta : TcpPseudoHeaderMeta) : PortSystem where
  lookup := CamSystem.start table
  ptable := PortTableState.start
  metaHandler := MetaHandlerState.start segMeta
  connHandler := ConnectionHandlerState.start

def slookup (system : PortSystem) : SlookupState :=
  system.lookup.ids.slookup

def withSlookup (system : PortSystem) (state : SlookupState) :
    PortSystem :=
  { system with
    lookup :=
      { system.lookup with
        ids := { system.lookup.ids with slookup := state } } }

def callSlookup (system : PortSystem) (process : SlookupProcess) :
    PortSystem :=
  let msgs := (process.call system.slookup).2
  { lookup := system.lookup.call process
    ptable :=
      { system.ptable with
        slookupReleasePortReqs :=
          system.ptable.slookupReleasePortReqs ++
            msgs.filterMap SlookupMsg.toReleasePort }
    metaHandler :=
      { system.metaHandler with
        slookupRsps :=
          system.metaHandler.slookupRsps ++
            msgs.filterMap SlookupMsg.toRxEng }
    connHandler :=
      { system.connHandler with
        slookupRsps :=
          system.connHandler.slookupRsps ++
            msgs.filterMap SlookupMsg.toTxApp
        checkTdestRsps :=
          system.connHandler.checkTdestRsps ++
            msgs.filterMap SlookupMsg.toTxAppTdest } }

def callPtable (system : PortSystem) (process : PtableProcess) :
    PortSystem :=
  let called := process.call system.ptable
  { system with
    ptable := called.1
    metaHandler :=
      { system.metaHandler with
        ptableRsps :=
          system.metaHandler.ptableRsps ++
            called.2.filterMap PortTableMsg.toRxEng }
    connHandler :=
      { system.connHandler with
        ptableRsps :=
          system.connHandler.ptableRsps ++
            called.2.filterMap PortTableMsg.toTxApp } }

def callMetaHandler (system : PortSystem) : PortSystem :=
  let called := TcpOffload.rxEngTcpMetaHandler system.metaHandler
  { system.withSlookup
      { system.slookup with
        rxEngReqs :=
          system.slookup.rxEngReqs ++
            called.2.filterMap MetaHandlerMsg.toSlookup } with
    metaHandler := called.1 }

def callConnHandler (system : PortSystem) : PortSystem :=
  let called := TcpOffload.txAppConnectionHandler system.connHandler
  { system.withSlookup
      { system.slookup with
        txAppReqs :=
          system.slookup.txAppReqs ++
            called.2.filterMap ConnectionHandlerMsg.toSlookup
        txAppTdestReqs :=
          system.slookup.txAppTdestReqs ++
            called.2.filterMap ConnectionHandlerMsg.toSlookupTdest } with
    ptable :=
      { system.ptable with
        txAppReqs :=
          system.ptable.txAppReqs ++
            called.2.filterMap ConnectionHandlerMsg.toPtable }
    connHandler := called.1 }

def receive (system : PortSystem) : PortInput → PortSystem
  | .segment segMeta =>
      { system with
        ptable :=
          { system.ptable with
            rxEngCheckReqs :=
              system.ptable.rxEngCheckReqs ++
                (verdict segMeta 0).filterMap VerifyMsg.toCheckReq }
        metaHandler :=
          { system.metaHandler with
            tcpMetaDataIn :=
              system.metaHandler.tcpMetaDataIn ++
                (verdict segMeta 0).filterMap VerifyMsg.toMeta } }
  | .listenPort req =>
      { system with
        ptable :=
          { system.ptable with
            rxAppListenPortReqs :=
              system.ptable.rxAppListenPortReqs ++ [req] } }
  | .openConn req =>
      { system with
        connHandler :=
          { system.connHandler with
            openConnReqs := system.connHandler.openConnReqs ++ [req] } }
  | .closeConn id =>
      { system with
        connHandler :=
          { system.connHandler with
            closeConnReqs := system.connHandler.closeConnReqs ++ [id] } }
  | .newClient notification =>
      { system with
        connHandler :=
          { system.connHandler with
            newClientNotifications :=
              system.connHandler.newClientNotifications ++
                [notification] } }
  | .rxEngNotification rsp =>
      { system with
        connHandler :=
          { system.connHandler with
            rxEngNotifications :=
              system.connHandler.rxEngNotifications ++ [rsp] } }
  | .rtimerNotification rsp =>
      { system with
        connHandler :=
          { system.connHandler with
            rtimerNotifications :=
              system.connHandler.rtimerNotifications ++ [rsp] } }
  | .sttableRsp rsp =>
      { system with
        connHandler :=
          { system.connHandler with
            sttableRsps := system.connHandler.sttableRsps ++ [rsp] } }
  | .sttableReleaseReq id =>
      system.withSlookup (system.slookup.receive (.sttableReleaseReq id))
  | .rxAppTdestReq id =>
      system.withSlookup (system.slookup.receive (.rxAppTdestReq id))
  | .txEngRevTableReq id =>
      system.withSlookup (system.slookup.receive (.txEngRevTableReq id))

end PortSystem

inductive PortStep : PortSystem → PortAction → PortSystem → Prop
  | slookup {system : PortSystem} (process : SlookupProcess) :
      PortStep system (.slookup process) (system.callSlookup process)
  | camLookup {system : PortSystem} {rsp : RtlCamToSlookupLupRsp}
      {next : CamSystem} :
      CamStep system.lookup (.camLookup rsp) next →
      PortStep system (.camLookup rsp) { system with lookup := next }
  | camUpdate {system : PortSystem} {next : CamSystem} :
      CamStep system.lookup .camUpdate next →
      PortStep system .camUpdate { system with lookup := next }
  | ptable {system : PortSystem} (process : PtableProcess) :
      PortStep system (.ptable process) (system.callPtable process)
  | rxEngTcpMetaHandler {system : PortSystem} :
      PortStep system .rxEngTcpMetaHandler system.callMetaHandler
  | txAppConnectionHandler {system : PortSystem} :
      PortStep system .txAppConnectionHandler system.callConnHandler
  | input {system : PortSystem} (input : PortInput) :
      PortStep system (.input input) (system.receive input)

/-! ## The sessions on a port -/

/-- The local port of a session. -/
def FourTuple.localPort (tuple : FourTuple) : TcpPortNumber :=
  swapByte tuple.srcTcpPort

namespace SlookupState

/-- A valid session has the port. -/
def LiveOn (state : SlookupState) (port : TcpPortNumber) : Prop :=
  ∃ id, state.validTuple id = true ∧
    (state.slookupRevTable id).tuple.localPort = port

/-- The tuple that the next call of the handler makes a session for. -/
def creates (state : SlookupState) : Option CamTuple :=
  match state.slcFsmState, state.camLupRsps, state.toCamReqCacheValid,
    state.availableIds with
  | .lupRsp, rsp :: _, true, _ :: _ =>
      if !rsp.hit && state.toCamReqCache.allowCreation then
        some state.toCamReqCache.tuple
      else
        none
  | _, _, _, _ => none

/-- No other session has the port of this one, or is about to. -/
structure OnlyOnPort (state : SlookupState) (id : TcpSessionID) : Prop where
  valid :
    ∀ other, other ≠ id → state.validTuple other = true →
      (state.slookupRevTable other).tuple.localPort ≠
        (state.slookupRevTable id).tuple.localPort
  created :
    state.toRevTableReqCacheValid = true →
      state.toRevTableReqCache.tuple.localPort ≠
        (state.slookupRevTable id).tuple.localPort

end SlookupState

namespace PortTableState

/-- The port is open, and no release of it is on its way. -/
structure Reserves
    (state : PortTableState) (port : TcpPortNumber) : Prop where
  isOpen : (state.freePortTable (portIndex port)).isOpen = true
  noRelease : port ∉ state.slookupReleasePortReqs

/-- The port is open, a check of it says so, and it is not handed out. -/
structure PortHeld
    (state : PortTableState) (index : PortIndex) : Prop where
  isOpen : (state.freePortTable index).isOpen = true
  checked :
    ∀ full later,
      state.slookupReleasePortReqs = [] →
        state.checkUsedReqs = index :: later →
          ∃ roleId,
            (TcpOffload.freePortTable full state).1.checkUsedRsps =
              state.checkUsedRsps ++ [⟨true, roleId⟩]
  notHandedOut :
    ∀ process : PtableProcess,
      PortTableMsg.txAppRsp (freePort index) ∉ (process.call state).2

end PortTableState

/-- A release finds no other session on its port, and a session is created on
a port that is open and not about to be closed. -/
def OnePerPort (system : PortSystem) : PortAction → Prop
  | .slookup .slookupReverseTableInterface =>
      ∀ id, system.slookup.nextRelease = some id →
        system.slookup.validTuple id = true →
          isFreePort (system.slookup.slookupRevTable id).tuple.localPort →
            system.slookup.OnlyOnPort id
  | .slookup .camLookupRspHandler =>
      ∀ tuple, system.slookup.creates = some tuple →
        isFreePort tuple.localPort →
          system.ptable.Reserves tuple.localPort
  | _ => True

/-! ## The port table -/

namespace PortTableState

theorem reserves_of_same {state next : PortTableState}
    {port : TcpPortNumber}
    (reserves : state.Reserves port)
    (table : next.freePortTable = state.freePortTable)
    (releases :
      next.slookupReleasePortReqs = state.slookupReleasePortReqs) :
    next.Reserves port where
  isOpen := by
    rw [table]
    exact reserves.isOpen
  noRelease := by
    rw [releases]
    exact reserves.noRelease

theorem reserves_freePortTable {state : PortTableState}
    {port : TcpPortNumber} (full : Bool)
    (isFree : isFreePort port = true) (reserves : state.Reserves port) :
    (TcpOffload.freePortTable full state).1.Reserves port := by
  rw [TcpOffload.freePortTable]
  split
  · rename_i _ _ _ released later queued
    have noRelease := reserves.noRelease
    rw [queued, List.mem_cons, not_or] at noRelease
    split
    · rename_i releasedFree
      have elsewhere :=
        portIndex_ne isFree releasedFree noRelease.1
      constructor
      · change
          (Function.update state.freePortTable (portIndex released) _
            (portIndex port)).isOpen = true
        rw [Function.update_of_ne elsewhere]
        exact reserves.isOpen
      · exact noRelease.2
    · exact ⟨reserves.isOpen, noRelease.2⟩
  · exact reserves_of_same reserves rfl rfl
  · split
    · constructor
      · change
          (Function.update state.freePortTable state.ptCursor _
            (portIndex port)).isOpen = true
        by_cases isCursor : portIndex port = state.ptCursor
        · rw [isCursor, Function.update_self]
        · rw [Function.update_of_ne isCursor]
          exact reserves.isOpen
      · exact reserves.noRelease
    · exact reserves_of_same reserves rfl rfl
  · exact reserves

theorem reserves_call {state : PortTableState} {port : TcpPortNumber}
    (process : PtableProcess)
    (isFree : isFreePort port = true) (reserves : state.Reserves port) :
    (process.call state).1.Reserves port := by
  cases process with
  | listeningPortTable =>
      rw [PtableProcess.call, TcpOffload.listeningPortTable]
      split
      · simp only []
        split
        · exact reserves_of_same reserves rfl rfl
        · exact reserves_of_same reserves rfl rfl
      · split
        · exact reserves_of_same reserves rfl rfl
        · exact reserves
  | freePortTable full =>
      exact reserves_freePortTable full isFree reserves
  | checkInMultiplexer =>
      rw [PtableProcess.call, checkInMultiplexer]
      split
      · split
        · exact reserves_of_same reserves rfl rfl
        · exact reserves_of_same reserves rfl rfl
      · exact reserves
  | checkOutMultiplexer =>
      rw [PtableProcess.call, checkOutMultiplexer]
      split
      · split
        · exact reserves_of_same reserves rfl rfl
        · exact reserves
      · split
        · exact reserves_of_same reserves rfl rfl
        · exact reserves
      · split
        · exact reserves_of_same reserves rfl rfl
        · exact reserves

/-- A free port is handed out by `FreePortTable`, from a place that was not
open. -/
theorem not_isOpen_of_txAppRsp {state : PortTableState}
    {process : PtableProcess} {index : PortIndex}
    (handedOut :
      PortTableMsg.txAppRsp (freePort index) ∈ (process.call state).2) :
    (state.freePortTable index).isOpen = false := by
  cases process with
  | listeningPortTable =>
      rw [PtableProcess.call, TcpOffload.listeningPortTable] at handedOut
      split at handedOut
      · simp only [] at handedOut
        split at handedOut <;> simp at handedOut
      · split at handedOut <;> simp at handedOut
  | freePortTable full =>
      rw [PtableProcess.call, TcpOffload.freePortTable] at handedOut
      split at handedOut
      · simp only [] at handedOut
        split at handedOut <;> simp at handedOut
      · simp at handedOut
      · simp only [] at handedOut
        split at handedOut
        · rename_i available
          rw [List.mem_singleton, PortTableMsg.txAppRsp.injEq]
            at handedOut
          have isCursor := congrArg portIndex handedOut
          rw [portIndex_freePort, portIndex_freePort] at isCursor
          rw [isCursor]
          simp only [Bool.and_eq_true, Bool.not_eq_true'] at available
          exact available.1
        · simp at handedOut
      · simp at handedOut
  | checkInMultiplexer =>
      simp [PtableProcess.call] at handedOut
  | checkOutMultiplexer =>
      rw [PtableProcess.call, checkOutMultiplexer] at handedOut
      split at handedOut
      · split at handedOut <;> simp at handedOut
      · split at handedOut <;> simp at handedOut
      · split at handedOut <;> simp at handedOut

theorem portHeld_of_isOpen {state : PortTableState} {index : PortIndex}
    (isOpen : (state.freePortTable index).isOpen = true) :
    state.PortHeld index where
  isOpen := isOpen
  checked := by
    intro full later noRelease queued
    apply Exists.intro (state.freePortTable index).roleId
    rw [TcpOffload.freePortTable, noRelease, queued, ← isOpen]
  notHandedOut := by
    intro process handedOut
    rw [not_isOpen_of_txAppRsp handedOut] at isOpen
    cases isOpen

end PortTableState

/-! ## The sessions hold their ports -/

namespace SlookupState

/-- A session on the port is valid, or the reverse table will get it. -/
inductive Holds (state : SlookupState) (port : TcpPortNumber) : Prop
  | live : state.LiveOn port → Holds state port
  | created :
      state.toRevTableReqCacheValid = true →
      state.toRevTableReqCache.tuple.localPort = port →
      Holds state port
  | queued {req : SlookupToRevTableUpdReq} :
      req ∈ state.reverseTableInsertReqs →
      req.tupleValue.localPort = port →
      Holds state port

theorem holds_of_same {state next : SlookupState} {port : TcpPortNumber}
    (holds : next.Holds port)
    (valid : next.validTuple = state.validTuple)
    (table : next.slookupRevTable = state.slookupRevTable)
    (cacheValid :
      next.toRevTableReqCacheValid = state.toRevTableReqCacheValid)
    (cache : next.toRevTableReqCache = state.toRevTableReqCache)
    (inserts :
      next.reverseTableInsertReqs = state.reverseTableInsertReqs) :
    state.Holds port := by
  cases holds with
  | live liveOn =>
      rw [LiveOn, valid, table] at liveOn
      exact Holds.live liveOn
  | created isValid isPort =>
      rw [cacheValid] at isValid
      rw [cache] at isPort
      exact Holds.created isValid isPort
  | queued member isPort =>
      rw [inserts] at member
      exact Holds.queued member isPort

theorem holds_getNewAvailableSessionId {state : SlookupState}
    {port : TcpPortNumber}
    (holds : (getNewAvailableSessionId state).Holds port) :
    state.Holds port := by
  rw [getNewAvailableSessionId] at holds
  split at holds
  · exact holds_of_same holds rfl rfl rfl rfl rfl
  · split at holds
    · exact holds_of_same holds rfl rfl rfl rfl rfl
    · exact holds

theorem holds_camUpdateReqSender {state : SlookupState}
    {port : TcpPortNumber}
    (holds : (camUpdateReqSender state).1.Holds port) :
    state.Holds port := by
  rw [camUpdateReqSender] at holds
  split at holds
  · exact holds_of_same holds rfl rfl rfl rfl rfl
  · split at holds
    · exact holds_of_same holds rfl rfl rfl rfl rfl
    · exact holds

theorem holds_camUpdateRspHandler {state : SlookupState}
    {port : TcpPortNumber}
    (holds : (camUpdateRspHandler state).Holds port) :
    state.Holds port := by
  rw [camUpdateRspHandler] at holds
  split at holds
  · split at holds
    · exact holds_of_same holds rfl rfl rfl rfl rfl
    · exact holds_of_same holds rfl rfl rfl rfl rfl
  · exact holds

/-- The handler gives a port a session only by the one it creates. -/
theorem holds_camLookupRspHandler {state : SlookupState}
    {port : TcpPortNumber}
    (holds : (camLookupRspHandler state).1.Holds port) :
    state.Holds port ∨
      ∃ tuple, state.creates = some tuple ∧ tuple.localPort = port := by
  rw [camLookupRspHandler] at holds
  split at holds
  · left
    rw [takeLupReq] at holds
    split at holds
    · exact holds_of_same holds rfl rfl rfl rfl rfl
    · split at holds
      · exact holds_of_same holds rfl rfl rfl rfl rfl
      · exact holds
  · rename_i isLupRsp
    rw [takeLupRsp] at holds
    split at holds
    · rename_i rsp later answered isCached
      simp only [] at holds
      split at holds
      · rename_i id ids creates available
        cases holds with
        | live liveOn =>
            exact Or.inl (Holds.live liveOn)
        | created _ isPort =>
            right
            refine ⟨state.toCamReqCache.tuple, ?_, isPort⟩
            rw [SlookupState.creates, isLupRsp, answered, isCached,
              available]
            exact if_pos creates
        | queued member isPort =>
            exact Or.inl (Holds.queued member isPort)
      · exact Or.inl (holds_of_same holds rfl rfl rfl rfl rfl)
    · exact Or.inl holds
  · left
    rw [takeUpdRsp] at holds
    split at holds
    · rename_i rsp later answered isCached
      cases holds with
      | live liveOn =>
          exact Holds.live liveOn
      | created isValid _ =>
          cases isValid
      | queued member isPort =>
          rcases List.mem_append.1 member with before | isNew
          · exact Holds.queued before isPort
          · rw [List.mem_singleton.1 isNew] at isPort
            exact Holds.created isCached isPort
    · exact holds

/-- The reverse table gives no port a session. -/
theorem holds_slookupReverseTableInterface {state : SlookupState}
    {port : TcpPortNumber}
    (holds : (slookupReverseTableInterface state).1.Holds port) :
    state.Holds port := by
  rw [slookupReverseTableInterface] at holds
  split at holds
  · rename_i _ _ _ _ _ req later queued
    cases holds with
    | live liveOn =>
        obtain ⟨id, valid, isPort⟩ := liveOn
        by_cases isKey : id = req.key
        · rw [isKey] at isPort
          simp only [Function.update_self] at isPort
          have member : req ∈ state.reverseTableInsertReqs := by
            rw [queued]
            exact List.mem_cons_self
          exact Holds.queued member isPort
        · simp only [Function.update_of_ne isKey] at valid isPort
          exact Holds.live ⟨id, valid, isPort⟩
    | created isValid isPort =>
        exact Holds.created isValid isPort
    | queued member isPort =>
        refine Holds.queued ?_ isPort
        rw [queued]
        exact List.mem_cons_of_mem _ member
  · exact holds_of_same holds rfl rfl rfl rfl rfl
  · exact holds_of_same holds rfl rfl rfl rfl rfl
  · exact holds_of_same holds rfl rfl rfl rfl rfl
  · rename_i id later _ _ _ _ _
    rw [CamSystem.release_same] at holds
    cases holds with
    | live liveOn =>
        obtain ⟨other, valid, isPort⟩ := liveOn
        by_cases isReleased : other = id
        · simp [isReleased] at valid
        · simp only [Function.update_of_ne isReleased] at valid
          exact Holds.live ⟨other, valid, isPort⟩
    | created isValid isPort =>
        exact Holds.created isValid isPort
    | queued member isPort =>
        exact Holds.queued member isPort
  · exact holds

/-- What the reverse table does for a release. -/
theorem slookupReverseTableInterface_releases {state : SlookupState}
    {id : TcpSessionID} (isNext : state.nextRelease = some id) :
    state.reverseTableInsertReqs = [] ∧
      ∃ later,
        slookupReverseTableInterface state =
          { state with sttableReleaseReqs := later }.release id := by
  rw [nextRelease] at isNext
  split at isNext
  · rename_i noInsert noTxEng noRxApp noTxApp
    cases queued : state.sttableReleaseReqs with
    | nil =>
        rw [queued] at isNext
        cases isNext
    | cons released later =>
        rw [queued] at isNext
        refine ⟨noInsert, later, ?_⟩
        rw [slookupReverseTableInterface, noInsert, noTxEng, noRxApp,
          noTxApp, queued, ← Option.some.inj isNext]
  · cases isNext

theorem noRelease_rspTo (source : SlookupSource) (rsp : SessionLookupRsp) :
    [rspTo source rsp].filterMap SlookupMsg.toReleasePort = [] := by
  cases source <;> rfl

theorem noRelease_camLookupRspHandler (state : SlookupState) :
    (camLookupRspHandler state).2.filterMap SlookupMsg.toReleasePort =
      [] := by
  rw [camLookupRspHandler]
  split
  · rw [takeLupReq]
    split
    · rfl
    · split <;> rfl
  · rw [takeLupRsp]
    split
    · simp only []
      split
      · rfl
      · exact noRelease_rspTo _ _
    · rfl
  · rw [takeUpdRsp]
    split
    · exact noRelease_rspTo _ _
    · rfl

theorem noRelease_camUpdateReqSender (state : SlookupState) :
    (camUpdateReqSender state).2.filterMap SlookupMsg.toReleasePort =
      [] := by
  rw [camUpdateReqSender]
  split
  · rfl
  · split <;> rfl

theorem releasePort_release {state : SlookupState} {id : TcpSessionID}
    {port : TcpPortNumber}
    (released :
      port ∈ (state.release id).2.filterMap SlookupMsg.toReleasePort) :
    state.validTuple id = true ∧
      (state.slookupRevTable id).tuple.localPort = port := by
  rw [release] at released
  simp only [] at released
  split at released
  · rename_i valid
    exact ⟨valid, (List.mem_singleton.1 released).symm⟩
  · cases released

/-- A released port is the port of the session that is released. -/
theorem releasePort_slookupReverseTableInterface
    {state : SlookupState} {port : TcpPortNumber}
    (released :
      port ∈
        (slookupReverseTableInterface state).2.filterMap
          SlookupMsg.toReleasePort) :
    ∃ id, state.nextRelease = some id ∧ state.validTuple id = true ∧
      (state.slookupRevTable id).tuple.localPort = port := by
  rw [slookupReverseTableInterface] at released
  split at released
  · cases released
  · cases released
  · cases released
  · cases released
  · rename_i id later noInsert noTxEng noRxApp noTxApp queued
    have taken :=
      @releasePort_release { state with sttableReleaseReqs := later } id
        port released
    refine ⟨id, ?_, taken⟩
    rw [nextRelease, noInsert, noTxEng, noRxApp, noTxApp, queued]
    rfl
  · cases released

/-- Once the only session on a port is released, the port is held no
more. -/
theorem ne_of_holds_released {state : SlookupState} {id : TcpSessionID}
    {port : TcpPortNumber}
    (isNext : state.nextRelease = some id)
    (only : state.OnlyOnPort id)
    (holds : (slookupReverseTableInterface state).1.Holds port) :
    (state.slookupRevTable id).tuple.localPort ≠ port := by
  obtain ⟨noInsert, later, called⟩ :=
    slookupReverseTableInterface_releases isNext
  rw [called, CamSystem.release_same] at holds
  intro isPort
  cases holds with
  | live liveOn =>
      obtain ⟨other, valid, otherPort⟩ := liveOn
      by_cases isReleased : other = id
      · simp [isReleased] at valid
      · simp only [Function.update_of_ne isReleased] at valid
        exact only.valid other isReleased valid (otherPort.trans isPort.symm)
  | created isValid cachePort =>
      exact only.created isValid (cachePort.trans isPort.symm)
  | queued member _ =>
      change _ ∈ state.reverseTableInsertReqs at member
      rw [noInsert] at member
      cases member

end SlookupState

/-! ## Every step and every run -/

namespace PortSystem

/-- The invariant: a port with a session is reserved. -/
def Reserved (system : PortSystem) : Prop :=
  ∀ port, isFreePort port = true →
    system.slookup.Holds port → system.ptable.Reserves port

theorem reserved_of_same {system next : PortSystem}
    (reserved : system.Reserved)
    (holds :
      ∀ port, next.slookup.Holds port → system.slookup.Holds port)
    (table : next.ptable.freePortTable = system.ptable.freePortTable)
    (releases :
      next.ptable.slookupReleasePortReqs =
        system.ptable.slookupReleasePortReqs) :
    next.Reserved := by
  intro port isFree nextHolds
  exact
    PortTableState.reserves_of_same
      (reserved port isFree (holds port nextHolds)) table releases

theorem reserved_silent {system : PortSystem} {process : SlookupProcess}
    (reserved : system.Reserved)
    (noRelease :
      (process.call system.slookup).2.filterMap
        SlookupMsg.toReleasePort = [])
    (holds :
      ∀ port, (process.call system.slookup).1.Holds port →
        system.slookup.Holds port) :
    (system.callSlookup process).Reserved := by
  refine reserved_of_same reserved holds rfl ?_
  rw [callSlookup, noRelease]
  exact List.append_nil _

theorem reserved_camLookupRspHandler {system : PortSystem}
    (reserved : system.Reserved)
    (onePerPort : OnePerPort system (.slookup .camLookupRspHandler)) :
    (system.callSlookup .camLookupRspHandler).Reserved := by
  intro port isFree holds
  have reserves : system.ptable.Reserves port := by
    rcases SlookupState.holds_camLookupRspHandler holds with
      before | ⟨tuple, creates, isPort⟩
    · exact reserved port isFree before
    · rw [← isPort] at isFree ⊢
      exact onePerPort tuple creates isFree
  refine PortTableState.reserves_of_same reserves rfl ?_
  rw [callSlookup]
  simp only [SlookupProcess.call]
  rw [SlookupState.noRelease_camLookupRspHandler, List.append_nil]

theorem reserved_slookupReverseTableInterface {system : PortSystem}
    (reserved : system.Reserved)
    (onePerPort :
      OnePerPort system (.slookup .slookupReverseTableInterface)) :
    (system.callSlookup .slookupReverseTableInterface).Reserved := by
  intro port isFree holds
  have reserves :=
    reserved port isFree
      (SlookupState.holds_slookupReverseTableInterface holds)
  constructor
  · exact reserves.isOpen
  · intro released
    rcases List.mem_append.1 released with before | isNew
    · exact reserves.noRelease before
    · obtain ⟨id, isNext, valid, isPort⟩ :=
        SlookupState.releasePort_slookupReverseTableInterface isNew
      rw [← isPort] at isFree
      have only := onePerPort id isNext valid isFree
      exact SlookupState.ne_of_holds_released isNext only holds isPort

theorem reserved_step {system next : PortSystem} {action : PortAction}
    (reserved : system.Reserved) (onePerPort : OnePerPort system action)
    (stepped : PortStep system action next) : next.Reserved := by
  cases stepped with
  | slookup process =>
      cases process with
      | getNewAvailableSessionId =>
          exact
            reserved_silent reserved rfl fun _ =>
              SlookupState.holds_getNewAvailableSessionId
      | camLookupRspHandler =>
          exact reserved_camLookupRspHandler reserved onePerPort
      | camUpdateReqSender =>
          exact
            reserved_silent reserved
              (SlookupState.noRelease_camUpdateReqSender _)
              fun _ => SlookupState.holds_camUpdateReqSender
      | camUpdateRspHandler =>
          exact
            reserved_silent reserved rfl fun _ =>
              SlookupState.holds_camUpdateRspHandler
      | slookupReverseTableInterface =>
          exact reserved_slookupReverseTableInterface reserved onePerPort
  | camLookup looksUp =>
      cases looksUp with
      | camLookup _ _ _ =>
          exact
            reserved_of_same reserved
              (fun _ holds =>
                SlookupState.holds_of_same holds rfl rfl rfl rfl rfl)
              rfl rfl
  | camUpdate updates =>
      cases updates with
      | camUpdate _ =>
          exact
            reserved_of_same reserved
              (fun _ holds =>
                SlookupState.holds_of_same holds rfl rfl rfl rfl rfl)
              rfl rfl
  | ptable process =>
      intro port isFree holds
      exact
        PortTableState.reserves_call process isFree
          (reserved port isFree holds)
  | rxEngTcpMetaHandler =>
      exact
        reserved_of_same reserved
          (fun _ holds =>
            SlookupState.holds_of_same holds rfl rfl rfl rfl rfl)
          rfl rfl
  | txAppConnectionHandler =>
      exact
        reserved_of_same reserved
          (fun _ holds =>
            SlookupState.holds_of_same holds rfl rfl rfl rfl rfl)
          rfl rfl
  | input input =>
      cases input with
      | segment | listenPort | openConn | closeConn | newClient |
          rxEngNotification | rtimerNotification | sttableRsp =>
          exact reserved_of_same reserved (fun _ holds => holds) rfl rfl
      | sttableReleaseReq | rxAppTdestReq | txEngRevTableReq =>
          exact
            reserved_of_same reserved
              (fun _ holds =>
                SlookupState.holds_of_same holds rfl rfl rfl rfl rfl)
              rfl rfl

theorem reserved_start
    (table : TcpSessionID → RevTableEntry)
    (segMeta : TcpPseudoHeaderMeta) : (start table segMeta).Reserved := by
  intro port _ holds
  cases holds with
  | live liveOn =>
      obtain ⟨_, valid, _⟩ := liveOn
      cases valid
  | created isValid _ =>
      cases isValid
  | queued member _ =>
      cases member

end PortSystem

/-- In every run in which a release finds no other session on its port and a
session is created on a port that is open and not about to be closed, the
port of every live session is held. -/
theorem portHeld_run
    (table : TcpSessionID → RevTableEntry)
    (segMeta : TcpPseudoHeaderMeta) (actions : List PortAction)
    (final : PortSystem) (index : PortIndex)
    (onePerPort :
      Along PortStep OnePerPort (PortSystem.start table segMeta) actions)
    (run :
      Run PortStep (PortSystem.start table segMeta) actions final)
    (liveOn : final.slookup.LiveOn (freePort index)) :
    final.ptable.PortHeld index := by
  have preserved (system : PortSystem) (action : PortAction)
      (next : PortSystem) (reserved : system.Reserved)
      (onePerPortHere : OnePerPort system action)
      (stepped : PortStep system action next) : next.Reserved :=
    PortSystem.reserved_step reserved onePerPortHere stepped
  have reserved :=
    invariant_of_run preserved (PortSystem.reserved_start table segMeta)
      onePerPort run
  have reserves :=
    reserved (freePort index) (isFreePort_freePort index)
      (SlookupState.Holds.live liveOn)
  have isOpen := reserves.isOpen
  rw [portIndex_freePort] at isOpen
  exact PortTableState.portHeld_of_isOpen isOpen

/-- The application opens a connection from the first ephemeral port. -/
def opensOnFirstPort : List PortAction :=
  [.input (.openConn ⟨1, 2, 3, 0⟩), .txAppConnectionHandler,
    .ptable (.freePortTable false), .txAppConnectionHandler,
    .slookup .getNewAvailableSessionId, .slookup .camLookupRspHandler,
    .camLookup ⟨⟨1, 2, 0x0080, 3⟩, 0, false, .txApp⟩,
    .slookup .camLookupRspHandler, .slookup .camUpdateReqSender,
    .camUpdate, .slookup .camUpdateRspHandler,
    .slookup .camLookupRspHandler, .slookup .slookupReverseTableInterface]

/-- A SYN from the host 5 to the first ephemeral port of the host 1. -/
def synToFirstPort : TcpPseudoHeaderMeta :=
  ⟨5, 1, 6, 0x0080, 5, false, false, false, false,
    ⟨100, 0, 1000, false, false, true, false, 0, 0⟩, 0⟩

theorem PortStep.oneOutcome
    (system : PortSystem) (action : PortAction) (next other : PortSystem)
    (stepped : PortStep system action next)
    (otherStep : PortStep system action other) : other = next := by
  cases stepped with
  | slookup | ptable | rxEngTcpMetaHandler | txAppConnectionHandler |
      input =>
      cases otherStep
      rfl
  | camLookup looksUp =>
      cases otherStep with
      | camLookup otherLooksUp =>
          rw [looksUp.oneOutcome otherLooksUp]
  | camUpdate updates =>
      cases otherStep with
      | camUpdate otherUpdates =>
          rw [updates.oneOutcome otherUpdates]

theorem PortStep.reaches {holds : PortSystem → PortAction → Prop}
    {system next final : PortSystem} {action : PortAction}
    {rest : List PortAction} (stepped : PortStep system action next)
    (here : holds system action)
    (later : Reaches PortStep holds next rest final) :
    Reaches PortStep holds system (action :: rest) final :=
  Reaches.head PortStep.oneOutcome stepped here later

/-- A peer's SYN gets a second session on the port, and the application's
session is released. -/
def closesFirstPort : List PortAction :=
  [.slookup .getNewAvailableSessionId, .input (.segment synToFirstPort),
    .ptable .checkInMultiplexer, .ptable (.freePortTable false),
    .ptable .checkOutMultiplexer, .ptable .checkOutMultiplexer,
    .rxEngTcpMetaHandler, .slookup .camLookupRspHandler,
    .camLookup ⟨⟨1, 5, 0x0080, 6⟩, 0, false, .rx⟩,
    .slookup .camLookupRspHandler, .slookup .camUpdateReqSender,
    .camUpdate, .slookup .camUpdateRspHandler,
    .slookup .camLookupRspHandler, .slookup .slookupReverseTableInterface,
    .input (.sttableReleaseReq 0), .slookup .slookupReverseTableInterface,
    .ptable (.freePortTable false)]

theorem opensOnFirstPort_reaches :
    ∃ final,
      Reaches PortStep OnePerPort
          (PortSystem.start (fun _ => ⟨⟨0, 0, 0, 0⟩, 0⟩) synToFirstPort)
          opensOnFirstPort final ∧
        final.slookup.LiveOn (freePort 0) ∧
          ∃ next,
            Run PortStep final closesFirstPort next ∧
              next.slookup.LiveOn (freePort 0) ∧
                ¬(next.ptable.freePortTable 0).isOpen = true := by
  apply Exists.intro
  apply And.intro
  · apply (PortStep.input _).reaches trivial
    apply PortStep.txAppConnectionHandler.reaches trivial
    apply (PortStep.ptable _).reaches trivial
    apply PortStep.txAppConnectionHandler.reaches trivial
    apply (PortStep.slookup .getNewAvailableSessionId).reaches trivial
    apply (PortStep.slookup _).reaches
    · intro tuple creates
      cases creates
    apply (PortStep.camLookup (CamStep.camLookup rfl rfl rfl)).reaches
      trivial
    apply (PortStep.slookup _).reaches
    · intro tuple creates _
      cases creates
      exact ⟨rfl, List.not_mem_nil⟩
    apply (PortStep.slookup .camUpdateReqSender).reaches trivial
    apply (PortStep.camUpdate (CamStep.camUpdate rfl)).reaches trivial
    apply (PortStep.slookup .camUpdateRspHandler).reaches trivial
    apply (PortStep.slookup _).reaches
    · intro tuple creates
      cases creates
    apply (PortStep.slookup _).reaches
    · intro id isNext
      cases isNext
    exact Reaches.refl _
  · refine ⟨⟨0, rfl, rfl⟩, ?_⟩
    apply Exists.intro
    apply And.intro
    · apply Run.head (PortStep.slookup _)
      apply Run.head (PortStep.input _)
      apply Run.head (PortStep.ptable _)
      apply Run.head (PortStep.ptable _)
      apply Run.head (PortStep.ptable _)
      apply Run.head (PortStep.ptable _)
      apply Run.head PortStep.rxEngTcpMetaHandler
      apply Run.head (PortStep.slookup _)
      apply Run.head (PortStep.camLookup (CamStep.camLookup rfl rfl rfl))
      apply Run.head (PortStep.slookup _)
      apply Run.head (PortStep.slookup _)
      apply Run.head (PortStep.camUpdate (CamStep.camUpdate rfl))
      apply Run.head (PortStep.slookup _)
      apply Run.head (PortStep.slookup _)
      apply Run.head (PortStep.slookup _)
      apply Run.head (PortStep.input _)
      apply Run.head (PortStep.slookup _)
      apply Run.head (PortStep.ptable _)
      exact Run.refl _
    · apply And.intro
      · exact ⟨1, rfl, rfl⟩
      · decide

theorem portHeld_run_opensOnFirstPort :
    ∃ final,
      Run PortStep
          (PortSystem.start (fun _ => ⟨⟨0, 0, 0, 0⟩, 0⟩) synToFirstPort)
          opensOnFirstPort final ∧
        final.ptable.PortHeld 0 := by
  obtain ⟨final, ⟨steps, onePerPort⟩, liveOn, -⟩ :=
    opensOnFirstPort_reaches
  exact
    ⟨final, steps,
      portHeld_run _ _ opensOnFirstPort final 0 (onePerPort [] trivial)
        steps liveOn⟩

/-- The peer's session is live on a port that is closed. -/
theorem not_portHeld_closesFirstPort :
    ¬∀ table segMeta actions final index,
        Run PortStep (PortSystem.start table segMeta) actions final →
          final.slookup.LiveOn (freePort index) →
            final.ptable.PortHeld index := by
  intro allHeld
  obtain ⟨_, opened, -, final, closes, liveOn, isClosed⟩ :=
    opensOnFirstPort_reaches
  exact
    isClosed
      (allHeld _ _ _ final 0 (opened.1.append closes) liveOn).isOpen

end TcpOffload
