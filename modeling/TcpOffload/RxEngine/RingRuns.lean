import TcpOffload.RxEngine.RingInvariant

/-!
# Runs over the receive ring

The calls of the table and of the read handler keep the invariant, and with
it every run stores payload only behind the bytes that are not read.
-/

namespace TcpOffload

open Cyclic Guarded Lookup

namespace RingInvariant

variable {id reading : TcpSessionID} {received : TcpSessionBuffer}
variable {system : RingSystem}

/-! ## Calls of the table -/

/-- A call that serves the TX engine or nobody. -/
theorem afterNothing
    {table : RxSarTableState} {msgs : List RxSarTableMsg}
    (invariant : RingInvariant id reading received system)
    (sameTable : table.table = system.table.table)
    (sameApp : table.rxAppReqs = system.table.rxAppReqs)
    (sameEng : table.rxEngReqs = system.table.rxEngReqs)
    (noEng : msgs.filterMap RxSarTableMsg.toRxEng = [])
    (noApp : msgs.filterMap RxSarTableMsg.toRxApp = []) :
    RingInvariant id reading received (system.afterTable table msgs) := by
  have sameQuiet (quiet : system.Quiet id) :
      (system.afterTable table msgs).Quiet id := by
    refine quiet.afterTable ?_ ?_
    · rw [sameApp]
      exact fun _ member => member
    · rw [noApp]
      intro _ member
      cases member
  refine ⟨?_, ?_⟩
  · change
      RecvdPhase id (table.table id) received _ _ _
        (system.fsm.rxSarRsps ++ msgs.filterMap RxSarTableMsg.toRxEng)
        table.rxEngReqs
    rw [noEng, sameTable, sameEng, List.append_nil]
    exact
      invariant.recvd.map
        (fun writes pending =>
          pending.map (fun settled => settled) fun req isOwn =>
            ⟨isOwn.isWrite, isOwn.isOwn, isOwn.recvd, fun opens =>
              sameQuiet (isOwn.opens opens)⟩)
        (fun rsp answer => answer)
  · change
      ReadPhase id (table.table id).appRead received _ _ _
        (system.app.rxSarRsps ++ msgs.filterMap RxSarTableMsg.toRxApp)
        table.rxAppReqs
    rw [noApp, sameTable, sameApp, List.append_nil]
    exact invariant.read

theorem afterRxAppWrite
    {req : RxSarAppReqRsp} {later : List RxSarAppReqRsp}
    (invariant : RingInvariant id reading received system)
    (reqs : system.table.rxAppReqs = req :: later)
    (isWrite : req.write = true) :
    RingInvariant id reading received
      (system.afterTable
        ({ system.table with rxAppReqs := later }.setEntry req.sessionId
          ((system.entry req.sessionId).rxAppWrite req))
        []) := by
  have recvd := invariant.recvd
  have read := invariant.read
  rw [reqs] at read
  have notLookup : req ≠ RxSarAppReqRsp.lookup reading := by
    intro isLookup
    rw [isLookup] at isWrite
    cases isWrite
  have stillQuiet (quiet : system.Quiet id) :
      (system.afterTable
          ({ system.table with rxAppReqs := later }.setEntry req.sessionId
            ((system.entry req.sessionId).rxAppWrite req))
          []).Quiet id := by
    refine
      quiet.afterTable (fun other member => ?_) fun _ member => by
        cases member
    rw [reqs]
    exact List.mem_cons_of_mem req member
  by_cases isOwn : req.sessionId = id
  · have written :
        Function.update system.table.table req.sessionId
            ((system.entry req.sessionId).rxAppWrite req) id =
          { system.entry id with appRead := req.appRead } := by
      rw [isOwn]
      exact Function.update_self _ _ _
    obtain ⟨writes, pending, member⟩ :=
      read.mem_pending List.mem_cons_self notLookup
    have own : ReadWrite id (system.entry id).appRead received
        (system.claimed id reading) req := by
      rcases pending.of_mem member with isOther | own
      · exact absurd isOwn isOther.2
      · exact own
    have shorter := own.inside.distance_add_distance
    refine ⟨?_, ?_⟩
    · change
        RecvdPhase id (Function.update system.table.table _ _ id) _ _ _ _
          (system.fsm.rxSarRsps ++ []) _
      rw [written, List.append_nil]
      refine recvd.map (fun list pendingWrites => ?_) fun rsp answer => ?_
      · exact
          pendingWrites.map (fun settled => settled) fun other ownWrite =>
            ⟨ownWrite.isWrite, ownWrite.isOwn, ownWrite.recvd,
              fun opens => stillQuiet (ownWrite.opens opens)⟩
      · refine ⟨answer.settled, answer.recvd, fun inHand => ?_⟩
        have freed := answer.freed inHand
        change distance req.appRead received ≤ _
        omega
    · change
        ReadPhase id (Function.update system.table.table _ _ id).appRead
          received (system.claimed id reading) _ _
          (system.app.rxSarRsps ++ []) later
      rw [written, List.append_nil]
      refine read.serveWrite notLookup fun rest known => ?_
      rcases known.served with ⟨isOther, _⟩ | ⟨_, others⟩
      · exact absurd isOwn isOther.2
      · exact Writes.settled own.claimed others
  · have kept :
        Function.update system.table.table req.sessionId
            ((system.entry req.sessionId).rxAppWrite req) id =
          system.entry id :=
      Function.update_of_ne (Ne.symm isOwn) _ _
    refine ⟨?_, ?_⟩
    · change
        RecvdPhase id (Function.update system.table.table _ _ id) _ _ _ _
          (system.fsm.rxSarRsps ++ []) _
      rw [kept, List.append_nil]
      exact
        recvd.map
          (fun list pendingWrites =>
            pendingWrites.map (fun settled => settled) fun other own =>
              ⟨own.isWrite, own.isOwn, own.recvd, fun opens =>
                stillQuiet (own.opens opens)⟩)
          (fun rsp answer => answer)
    · change
        ReadPhase id (Function.update system.table.table _ _ id).appRead
          received (system.claimed id reading) _ _
          (system.app.rxSarRsps ++ []) later
      rw [kept, List.append_nil]
      refine read.serveWrite notLookup fun rest known => ?_
      rcases known.served with ⟨_, laterWrites⟩ | ⟨own, _⟩
      · exact laterWrites
      · exact absurd own.isOwn isOwn

theorem afterRxAppLookup
    {req : RxSarAppReqRsp} {later : List RxSarAppReqRsp}
    (invariant : RingInvariant id reading received system)
    (reqs : system.table.rxAppReqs = req :: later)
    (isLookup : req.write = false) :
    RingInvariant id reading received
      (system.afterTable { system.table with rxAppReqs := later }
        [.rxAppRsp
          (RxSarAppReqRsp.update req.sessionId
            (system.entry req.sessionId).appRead)]) := by
  have read := invariant.read
  have enough := read.claimed_le
  rw [reqs] at read
  obtain ⟨isAsked, _, answers⟩ :=
    read.serveLookup fun writes pending member => by
      have isWrite : req.write = true := by
        rcases pending.of_mem member with isOther | own
        · exact isOther.1
        · exact own.isWrite
      rw [isLookup] at isWrite
      cases isWrite
  refine ⟨?_, ?_⟩
  · change
      RecvdPhase _ _ _ _ _ _ (system.fsm.rxSarRsps ++ []) _
    rw [List.append_nil]
    refine
      invariant.recvd.map (fun list pending => ?_) fun rsp answer => answer
    refine pending.map (fun settled => settled) fun other own => ?_
    refine ⟨own.isWrite, own.isOwn, own.recvd, fun opens => ?_⟩
    have quiet := own.opens opens
    refine
      quiet.afterTable (fun further member => ?_) fun rsp member => ?_
    · rw [reqs]
      exact List.mem_cons_of_mem req member
    · have isAnswer :
          rsp =
            RxSarAppReqRsp.update req.sessionId
              (system.entry req.sessionId).appRead :=
        List.mem_singleton.1 member
      rw [isAnswer]
      refine quiet.reads.accesses req ?_
      rw [reqs]
      exact List.mem_cons_self
  · refine answers _ ⟨?_, enough, fun own => ?_⟩
    · rw [isAsked]
      rfl
    · rw [isAsked]
      exact congrArg (fun other => (system.entry other).appRead) own

theorem afterRxEngWrite
    {req : RxEngToRxSarReq} {later : List RxEngToRxSarReq}
    (invariant : RingInvariant id reading received system)
    (reqs : system.table.rxEngReqs = req :: later)
    (isWrite : req.write = true) :
    RingInvariant id reading received
      (system.afterTable
        ({ system.table with rxEngReqs := later }.setEntry req.sessionId
          ((system.entry req.sessionId).rxEngWrite req))
        []) := by
  have recvd := invariant.recvd
  rw [reqs] at recvd
  have notLookup :
      req ≠
        RxEngToRxSarReq.lookup system.fsm.tcpRxMetaReg.sessionId := by
    intro isLookup
    rw [isLookup] at isWrite
    cases isWrite
  have stillQuiet (quiet : system.Quiet id) :
      (system.afterTable
          ({ system.table with rxEngReqs := later }.setEntry req.sessionId
            ((system.entry req.sessionId).rxEngWrite req))
          []).Quiet id := by
    exact
      quiet.afterTable (fun _ member => member) fun _ member => by
        cases member
  by_cases isOwn : req.sessionId = id
  · have written :
        Function.update system.table.table req.sessionId
            ((system.entry req.sessionId).rxEngWrite req) id =
          (system.entry id).rxEngWrite req := by
      rw [isOwn]
      exact Function.update_self _ _ _
    obtain ⟨writes, pending, member⟩ :=
      recvd.mem_pending List.mem_cons_self notLookup
    have own : RecvdWrite id received (system.Quiet id) req := by
      rcases pending.of_mem member with isOther | own
      · exact absurd isOwn isOther.2
      · exact own
    have moved :
        ((system.entry id).rxEngWrite req).recvd.setWidth 18 =
          received := by
      rw [RxSarTableEntry.rxEngWrite]
      split <;> exact own.recvd
    refine ⟨?_, ?_⟩
    · change
        RecvdPhase id (Function.update system.table.table _ _ id) _ _ _ _
          (system.fsm.rxSarRsps ++ []) later
      rw [written, List.append_nil]
      refine recvd.serveWrite notLookup fun rest known => ?_
      rcases known.served with ⟨isOther, _⟩ | ⟨_, others⟩
      · exact absurd isOwn isOther.2
      · exact Writes.settled moved others
    · change
        ReadPhase id (Function.update system.table.table _ _ id).appRead
          received (system.claimed id reading) _ _
          (system.app.rxSarRsps ++ []) system.table.rxAppReqs
      rw [written, List.append_nil, RxSarTableEntry.rxEngWrite]
      by_cases isInit : req.init = true
      · have quiet := own.opens isInit
        rw [invariant.claimed_eq_zero quiet.unread quiet.reads]
        exact
          invariant.read.reopen quiet.reads.accesses quiet.reads.answers
      · rw [if_neg isInit]
        exact invariant.read
  · have kept :
        Function.update system.table.table req.sessionId
            ((system.entry req.sessionId).rxEngWrite req) id =
          system.entry id :=
      Function.update_of_ne (Ne.symm isOwn) _ _
    refine ⟨?_, ?_⟩
    · change
        RecvdPhase id (Function.update system.table.table _ _ id) _ _ _ _
          (system.fsm.rxSarRsps ++ []) later
      rw [kept, List.append_nil]
      refine recvd.serveWrite notLookup fun rest known => ?_
      rcases known.served with ⟨_, laterWrites⟩ | ⟨own, _⟩
      · exact
          laterWrites.map (fun settled => settled) fun other own =>
            ⟨own.isWrite, own.isOwn, own.recvd, fun opens =>
              stillQuiet (own.opens opens)⟩
      · exact absurd own.isOwn isOwn
    · change
        ReadPhase id (Function.update system.table.table _ _ id).appRead
          received (system.claimed id reading) _ _
          (system.app.rxSarRsps ++ []) system.table.rxAppReqs
      rw [kept, List.append_nil]
      exact invariant.read

theorem afterRxEngLookup
    {req : RxEngToRxSarReq} {later : List RxEngToRxSarReq}
    (invariant : RingInvariant id reading received system)
    (reqs : system.table.rxEngReqs = req :: later)
    (isLookup : req.write = false) :
    RingInvariant id reading received
      (system.afterTable { system.table with rxEngReqs := later }
        [.rxEngRsp (system.entry req.sessionId)]) := by
  have recvd := invariant.recvd
  rw [reqs] at recvd
  obtain ⟨isAsked, settled, answers⟩ :=
    recvd.serveLookup fun writes pending member => by
      have isWrite : req.write = true := by
        rcases pending.of_mem member with isOther | own
        · exact isOther.1
        · exact own.isWrite
      rw [isLookup] at isWrite
      cases isWrite
  have stillQuiet (quiet : system.Quiet id) :
      (system.afterTable { system.table with rxEngReqs := later }
          [.rxEngRsp (system.entry req.sessionId)]).Quiet id := by
    exact
      quiet.afterTable (fun _ member => member) fun _ member => by
        cases member
  refine ⟨?_, ?_⟩
  · have answered :=
      answers (system.entry req.sessionId)
        ⟨settled.of_nil, fun own => ?_, fun own => ?_⟩
    · exact
        answered.map
          (fun list pending =>
            pending.map (fun isSettled => isSettled) fun other own =>
              ⟨own.isWrite, own.isOwn, own.recvd, fun opens =>
                stillQuiet (own.opens opens)⟩)
          (fun rsp answer => answer)
    · rw [isAsked]
      change
        (system.entry system.fsm.tcpRxMetaReg.sessionId).recvd.setWidth
            18 =
          received
      rw [own]
      exact settled.of_nil
    · rw [isAsked]
      change
        _ ≤
          distance
            (system.entry system.fsm.tcpRxMetaReg.sessionId).appRead _
      rw [own]
  · change
      ReadPhase _ _ _ _ _ _ (system.app.rxSarRsps ++ []) _
    rw [List.append_nil]
    exact invariant.read

theorem rxSarTable
    (invariant : RingInvariant id reading received system) :
    RingInvariant id reading received (system.act id .rxSarTable) := by
  have call := rxSarTable_call system.table
  change
    RingInvariant id reading received
      (system.afterTable (TcpOffload.rxSarTable system.table).1
        (TcpOffload.rxSarTable system.table).2)
  generalize (TcpOffload.rxSarTable system.table).1 = table at call ⊢
  generalize (TcpOffload.rxSarTable system.table).2 = msgs at call ⊢
  cases call with
  | idle | txEngLookup =>
      exact invariant.afterNothing rfl rfl rfl rfl rfl
  | rxAppWrite reqs isWrite =>
      exact invariant.afterRxAppWrite reqs isWrite
  | rxAppLookup reqs isLookup =>
      exact invariant.afterRxAppLookup reqs isLookup
  | rxEngWrite reqs isWrite =>
      exact invariant.afterRxEngWrite reqs isWrite
  | rxEngLookup reqs isLookup =>
      exact invariant.afterRxEngLookup reqs isLookup

/-! ## Calls of the read handler -/

/-- The machine's side after a call of the read handler. -/
theorem recvdAfterApp
    {app : RxAppDataState} {msgs : List RxAppDataMsg}
    (invariant : RingInvariant id reading received system)
    (stillDone :
      system.ReadsDone id → (system.afterApp app msgs).ReadsDone id) :
    RecvdPhase id ((system.afterApp app msgs).entry id) received
      ((system.afterApp app msgs).Quiet id)
      system.fsm.tcpRxMetaReg.sessionId
      (decide (system.fsm.fsmState = .transition))
      system.fsm.rxSarRsps system.table.rxEngReqs :=
  invariant.recvd.map
    (fun _ pending =>
      pending.map (fun settled => settled) fun _ own =>
        ⟨own.isWrite, own.isOwn, own.recvd, fun opens =>
          ⟨(own.opens opens).unread,
            stillDone (own.opens opens).reads⟩⟩)
    (fun _ answer => answer)

theorem afterRequest
    {req : AppReadReq} {later : List AppReadReq}
    (invariant : RingInvariant id reading received system)
    (waits : system.app.fsmState = .waitNetAppDataReq)
    (reqs : system.app.recvDataReqs = req :: later)
    (isRead : req.readLength ≠ 0) :
    RingInvariant id req.sessionId received
      (system.afterApp
        { system.app with
          fsmState := .waitSarRsp
          rxAppReadLength := req.readLength
          rxAppRoleId := req.dest
          recvDataReqs := later }
        [.rxSarReq (RxSarAppReqRsp.lookup req.sessionId)]) := by
  have read := invariant.read
  rw [waits] at read
  obtain ⟨noRsps, pending⟩ := read.of_idle
  refine
    ⟨invariant.recvdAfterApp fun done => done.afterRequest reqs isRead,
      ?_⟩
  · have sameClaim :
        system.unread + requestedBytes id later +
            (if
                RxAppDataFsmState.waitSarRsp =
                    RxAppDataFsmState.waitSarRsp ∧
                  req.sessionId = id then
              req.readLength.toNat
            else
              0) =
          system.claimed id reading := by
      have notWaiting : system.underWay id reading = 0 := by
        refine if_neg ?_
        rw [waits]
        rintro ⟨wrong, _⟩
        cases wrong
      rw [RingSystem.claimed, notWaiting, reqs, requestedBytes_cons]
      simp only [true_and]
      omega
    change
      ReadPhase id (system.entry id).appRead received
        (system.unread + requestedBytes id later +
          if
              RxAppDataFsmState.waitSarRsp =
                  RxAppDataFsmState.waitSarRsp ∧
                req.sessionId = id then
            req.readLength.toNat
          else
            0)
        req.sessionId true system.app.rxSarRsps
        (system.table.rxAppReqs ++
          [RxSarAppReqRsp.lookup req.sessionId])
    rw [sameClaim, noRsps]
    exact Phase.asked pending

theorem afterEmptyRequest
    {req : AppReadReq} {later : List AppReadReq}
    (invariant : RingInvariant id reading received system)
    (reqs : system.app.recvDataReqs = req :: later)
    (isEmpty : req.readLength = 0) :
    RingInvariant id reading received
      (system.afterApp { system.app with recvDataReqs := later } []) := by
  have fewer (other : AppReadReq) (member : other ∈ later) :
      other ∈ system.app.recvDataReqs := by
    rw [reqs]
    exact List.mem_cons_of_mem req member
  refine
    ⟨invariant.recvdAfterApp fun done => done.afterFewer fewer rfl rfl,
      ?_⟩
  · have sameClaim :
        system.unread + requestedBytes id later +
            system.underWay id reading =
          system.claimed id reading := by
      rw [RingSystem.claimed, reqs, requestedBytes_cons, isEmpty]
      split
      · rw [show (0 : BitVec 16).toNat = 0 from rfl, Nat.zero_add]
      · rw [Nat.zero_add]
    change
      ReadPhase id (system.entry id).appRead received
        (system.unread + requestedBytes id later +
          system.underWay id reading)
        reading _ system.app.rxSarRsps
        (system.table.rxAppReqs ++ [])
    rw [sameClaim, List.append_nil]
    exact invariant.read

theorem afterAnswer
    {rsp : RxSarAppReqRsp} {later : List RxSarAppReqRsp}
    (invariant : RingInvariant id reading received system)
    (waits : system.app.fsmState = .waitSarRsp)
    (rsps : system.app.rxSarRsps = rsp :: later) :
    RingInvariant id reading received
      (system.afterApp
        { system.app with fsmState := .waitData, rxSarRsps := later }
        [.recvDataRsp rsp.sessionId system.app.rxAppRoleId,
          .rxSarReq
            (RxSarAppReqRsp.update rsp.sessionId
              (rsp.appRead +
                system.app.rxAppReadLength.setWidth 18)),
          .memReadCmd
            (MemBufferRWCmd.ofAddr
              (getSessionMemAddr .rx rsp.sessionId rsp.appRead)
              system.app.rxAppReadLength)]) := by
  have read := invariant.read
  rw [rsps] at read
  obtain ⟨_, answer, noRsps, noReqs⟩ := read.of_answered
  refine ⟨invariant.recvdAfterApp fun done => done.afterAnswer rsps, ?_⟩
  · have notWaiting :
        system.unread + requestedBytes id system.app.recvDataReqs +
            (if
                RxAppDataFsmState.waitData =
                    RxAppDataFsmState.waitSarRsp ∧
                  reading = id then
              system.app.rxAppReadLength.toNat
            else
              0) =
          system.unread + requestedBytes id system.app.recvDataReqs := by
      rw [if_neg (by rintro ⟨wrong, _⟩; cases wrong)]
      rfl
    change
      ReadPhase id (system.entry id).appRead received
        (system.unread + requestedBytes id system.app.recvDataReqs +
          if
              RxAppDataFsmState.waitData =
                  RxAppDataFsmState.waitSarRsp ∧
                reading = id then
            system.app.rxAppReadLength.toNat
          else
            0)
        reading false later
        (system.table.rxAppReqs ++
          [RxSarAppReqRsp.update rsp.sessionId
            (rsp.appRead + system.app.rxAppReadLength.setWidth 18)])
    rw [notWaiting, noRsps, noReqs]
    have enough := answer.claimed
    by_cases own : reading = id
    · have lengthBound := system.app.rxAppReadLength.isLt
      have lengthEq :
          (system.app.rxAppReadLength.setWidth 18).toNat =
            system.app.rxAppReadLength.toNat := by
        rw [BitVec.toNat_setWidth]
        exact Nat.mod_eq_of_lt (by omega)
      have claimedEq :
          system.claimed id reading =
            system.unread + requestedBytes id system.app.recvDataReqs +
              system.app.rxAppReadLength.toNat := by
        rw [RingSystem.claimed, RingSystem.underWay, if_pos ⟨waits, own⟩]
      rw [claimedEq] at enough
      have advanced :=
        @distance_advance _ (system.entry id).appRead received
          (system.app.rxAppReadLength.setWidth 18) (by omega)
      refine
        Phase.idle
          (Writes.first
            ⟨rfl, answer.session.trans own, ?_, ?_⟩
            fun _ member => by cases member)
      · change Between _ (rsp.appRead + _) _
        rw [answer.appRead own]
        exact between_add _ (by omega)
      · change _ ≤ distance (rsp.appRead + _) _
        rw [answer.appRead own, advanced, lengthEq]
        omega
    · have smaller :
          system.unread + requestedBytes id system.app.recvDataReqs ≤
            system.claimed id reading :=
        Nat.le_add_right _ _
      refine
        Phase.idle
          (Writes.settled (Nat.le_trans smaller enough)
            fun other member => ?_)
      rw [List.mem_singleton.1 member]
      refine ⟨rfl, ?_⟩
      change rsp.sessionId ≠ id
      rw [answer.session]
      exact own

theorem afterData
    {app : RxAppDataState} {msgs : List RxAppDataMsg}
    (invariant : RingInvariant id reading received system)
    (waits : system.app.fsmState ≠ .waitSarRsp)
    (stillWaits : app.fsmState ≠ .waitSarRsp)
    (sameReqs : app.recvDataReqs = system.app.recvDataReqs)
    (sameRsps : app.rxSarRsps = system.app.rxSarRsps)
    (noAccess : msgs.filterMap RxAppDataMsg.toRxSar = []) :
    RingInvariant id reading received (system.afterApp app msgs) := by
  have read := invariant.read
  rw [decide_eq_false waits] at read
  have kept (req : AppReadReq) (member : req ∈ app.recvDataReqs) :
      req ∈ system.app.recvDataReqs := by
    rw [← sameReqs]
    exact member
  refine
    ⟨invariant.recvdAfterApp fun done =>
        done.afterFewer kept sameRsps noAccess,
      ?_⟩
  · have sameClaim :
        (system.afterApp app msgs).claimed id reading =
          system.claimed id reading := by
      change
        system.unread + requestedBytes id app.recvDataReqs +
            (if app.fsmState = .waitSarRsp ∧ reading = id then _ else 0) =
          system.unread + _ +
            (if system.app.fsmState = .waitSarRsp ∧ reading = id then
              _
            else
              0)
      rw [sameReqs, if_neg fun both => stillWaits both.1,
        if_neg fun both => waits both.1]
    change
      ReadPhase id (system.entry id).appRead received
        ((system.afterApp app msgs).claimed id reading) reading
        (decide (app.fsmState = .waitSarRsp)) app.rxSarRsps
        (system.table.rxAppReqs ++ msgs.filterMap RxAppDataMsg.toRxSar)
    rw [sameClaim, decide_eq_false stillWaits, sameRsps, noAccess,
      List.append_nil]
    exact read

theorem rxAppDataHandler
    (invariant : RingInvariant id reading received system) :
    ∃ next,
      RingInvariant id next received
        (system.act id .rxAppDataHandler) := by
  change
    ∃ next,
      RingInvariant id next received
        (system.afterApp (TcpOffload.rxAppDataHandler system.app).1
          (TcpOffload.rxAppDataHandler system.app).2)
  have idle :
      RingInvariant id reading received
        (system.afterApp system.app []) := by
    refine
      ⟨invariant.recvdAfterApp fun done =>
          done.afterFewer (fun _ member => member) rfl rfl,
        ?_⟩
    · change ReadPhase _ _ _ _ _ _ _ (system.table.rxAppReqs ++ [])
      rw [List.append_nil]
      exact invariant.read
  rw [TcpOffload.rxAppDataHandler]
  split
  · rename_i fsmState
    split
    · rename_i req later reqs
      by_cases isRead : req.readLength ≠ 0
      · rw [if_pos isRead]
        exact
          ⟨req.sessionId, invariant.afterRequest fsmState reqs isRead⟩
      · rw [if_neg isRead]
        exact
          ⟨reading, invariant.afterEmptyRequest reqs (not_not.1 isRead)⟩
    · exact ⟨reading, idle⟩
  · rename_i fsmState
    split
    · rename_i rsp later rsps
      exact ⟨reading, invariant.afterAnswer fsmState rsps⟩
    · exact ⟨reading, idle⟩
  · rename_i fsmState
    split
    · rename_i word later words
      have waits : system.app.fsmState ≠ .waitSarRsp := by
        rw [fsmState]
        decide
      refine ⟨reading, invariant.afterData waits ?_ rfl rfl rfl⟩
      change
        (if word.last then
            RxAppDataFsmState.waitNetAppDataReq
          else
            RxAppDataFsmState.waitData) ≠
          RxAppDataFsmState.waitSarRsp
      split <;> decide
    · exact ⟨reading, idle⟩

/-! ## What reaches the parties from elsewhere -/

theorem afterRecvDataReq
    (invariant : RingInvariant id reading received system)
    {req : AppReadReq}
    (notified : ReadsNotified id system (.recvDataReq req)) :
    RingInvariant id reading received
      (system.act id (.recvDataReq req)) := by
  have sameClaim :
      (system.act id (.recvDataReq req)).claimed id reading =
        system.claimed id reading := by
    change
      (if req.sessionId = id then
              system.unread - req.readLength.toNat
            else
              system.unread) +
            requestedBytes id (system.app.recvDataReqs ++ [req]) +
          system.underWay id reading =
        system.unread + _ + _
    rw [requestedBytes_append, requestedBytes_cons]
    change _ + (_ + (_ + 0)) + _ = _
    by_cases own : req.sessionId = id
    · have enough := notified own
      rw [if_pos own, if_pos own]
      omega
    · rw [if_neg own, if_neg own]
      omega
  refine ⟨?_, ?_⟩
  · refine
      invariant.recvd.map (fun list pending => ?_) fun rsp answer => answer
    refine pending.map (fun settled => settled) fun other own => ?_
    refine ⟨own.isWrite, own.isOwn, own.recvd, fun opens => ?_⟩
    have quiet := own.opens opens
    refine ⟨?_, fun further member => ?_, quiet.reads.accesses,
      quiet.reads.answers⟩
    · change (if req.sessionId = id then _ else _) = 0
      rw [quiet.unread, Nat.zero_sub]
      exact ite_self 0
    · rcases List.mem_append.1 member with earlier | last
      · exact quiet.reads.requests further earlier
      · rw [List.mem_singleton.1 last]
        intro isOwn
        have enough := notified isOwn
        rw [quiet.unread] at enough
        exact BitVec.eq_of_toNat_eq (Nat.le_zero.1 enough)
  · rw [sameClaim]
    exact invariant.read

end RingInvariant

/-- A step keeps the invariant. -/
theorem RingSystem.Kept.step
    {id : TcpSessionID} {system next : RingSystem} {action : RingAction}
    (kept : system.Kept id)
    (finsFit : FinsFit id system action)
    (stepped : RingStep id system action next) :
    next.Kept id := by
  obtain ⟨reading, received, invariant⟩ := kept
  obtain ⟨rfl, notified⟩ := stepped
  cases action with
  | rxEngTcpFsm =>
      have called :
          system.act id .rxEngTcpFsm =
            system.afterFsm id (rxEngTcpFsm system.fsm).1
              (rxEngTcpFsm system.fsm).2 :=
        rfl
      rw [called]
      cases fsmState : system.fsm.fsmState with
      | load =>
          have loads : rxEngTcpFsm system.fsm = rxEngLoad system.fsm := by
            rw [rxEngTcpFsm, fsmState]
          rw [loads]
          exact ⟨reading, received, invariant.load fsmState⟩
      | transition =>
          have handles :
              rxEngTcpFsm system.fsm = rxEngTransition system.fsm := by
            rw [rxEngTcpFsm, fsmState]
          rw [handles, rxEngTransition]
          cases answers : system.fsm.takeAnswers with
          | none =>
              refine ⟨reading, received, ?_⟩
              refine
                invariant.congr
                  (fun quiet => ⟨quiet.unread, quiet.reads.afterFsm⟩)
                  ⟨rfl, rfl, rfl, rfl, ?_⟩ ⟨rfl, rfl, rfl, rfl⟩
              exact List.append_nil _
          | some loaded =>
              obtain ⟨further, after⟩ :=
                invariant.handle fsmState answers finsFit notified
              exact ⟨reading, further, after⟩
  | rxSarTable =>
      exact ⟨reading, received, invariant.rxSarTable⟩
  | rxAppDataHandler =>
      obtain ⟨next, after⟩ := invariant.rxAppDataHandler
      exact ⟨next, received, after⟩
  | recvDataReq req =>
      exact ⟨reading, received, invariant.afterRecvDataReq notified⟩
  | segment | sttableRsp | txSarRsp | readData | txEngLup =>
      exact
        ⟨reading, received,
          invariant.congr
            (fun quiet =>
              ⟨quiet.unread, quiet.reads.requests,
                quiet.reads.accesses, quiet.reads.answers⟩)
            ⟨rfl, rfl, rfl, rfl, rfl⟩ ⟨rfl, rfl, rfl, rfl⟩⟩

/-- Under the invariant a payload that is stored is stored behind the unread
bytes. -/
theorem RingSystem.Kept.keepsUnread
    {id : TcpSessionID} {system : RingSystem} {action : RingAction}
    (kept : system.Kept id) (finsFit : FinsFit id system action) :
    KeepsUnread id system action := by
  obtain ⟨reading, received, invariant⟩ := kept
  cases action with
  | rxEngTcpFsm =>
      intro transition loaded answers own cmd member
      have took := takesAnswers answers
      have phase := invariant.recvd
      rw [took.rxSarRsps] at phase
      obtain ⟨_, answer, _, _⟩ := phase.of_answered
      have ownInHand := own
      rw [took.segment] at ownInHand
      have recvdEq := answer.recvd ownInHand
      have unreadLe :
          system.unread ≤ system.claimed id reading := by
        rw [RingSystem.claimed]
        omega
      -- both accepting cases store the payload behind `recvd` and it fits
      have stored :
          cmd = loaded.tcpRxMetaReg.payloadCmd ∧
            loaded.rxSarReg.recvd =
              loaded.tcpRxMetaReg.header.seqNumber ∧
            loaded.tcpRxMetaReg.header.payloadLength.toNat <
              loaded.rxSarReg.freeSpace.toNat := by
        have exit := rxEngHandle_ring loaded
        cases exit with
        | untouched noCmds | opened noCmds =>
            rw [noCmds] at member
            cases member
        | stored cmds _ inOrder fits =>
            rw [cmds] at member
            exact ⟨List.mem_singleton.1 member, inOrder, fits⟩
        | closed cmds _ inOrder takes isFin =>
            rw [cmds] at member
            split at member
            · exact
                ⟨List.mem_singleton.1 member, inOrder,
                  finsFit transition loaded answers own isFin takes⟩
            · cases member
      obtain ⟨rfl, inOrder, fits⟩ := stored
      have short :=
        RingInvariant.short_of_fits answer ownInHand fits
      rw [recvdEq]
      have startEq :
          loaded.tcpRxMetaReg.payloadCmd.offset = received := by
        rw [RxEngFsmMetaData.payloadCmd_offset, ← inOrder, recvdEq]
      refine
        ⟨Nat.le_of_lt fits,
          Nat.le_trans unreadLe invariant.read.claimed_le,
          fun index stored => ?_⟩
      rw [startEq]
      exact not_inside_stored short stored
  | _ =>
      trivial

/-- A segment stores no more payload than there is free space exactly when it
is not a FIN+ACK taken with more; and in every run in which the application
reads what it was told about and the FIN+ACKs taken pass the test of the ACK
case, no payload is stored over bytes that were not read. -/
theorem stored_payload_fits
    (id : TcpSessionID) (table : TcpSessionID → RxSarTableEntry)
    (actions : List RingAction) :
    (∀ (regs : RxEngState) (arrival : RxArrival),
      (∃ msgs final,
          HandlesSegment regs arrival msgs final ∧
          StoresFree arrival msgs) ↔
        arrival.finOverruns = false) ∧
    (Along (RingStep id) (FinsFit id) (RingSystem.start table)
        actions →
      Along (RingStep id) (KeepsUnread id) (RingSystem.start table)
        actions) := by
  refine ⟨storesFree_iff, ?_⟩
  intro guarded
  exact
    along_of_invariant
      (fun _ _ _ kept finsFit stepped => kept.step finsFit stepped)
      (fun _ _ _ kept finsFit _ => kept.keepsUnread finsFit)
      (ringKept_start id table) guarded

/-- An in-order FIN+ACK with 100 bytes, in a session whose ring has the given
`app_read`. -/
def finData (appRead : TcpSessionBuffer) : RxArrival where
  segment :=
    ⟨0, 0, 0, ⟨7000, 2000, 0xFFFF, true, false, false, true, 0, 100⟩⟩
  sessionState := .established
  rxSar := ⟨7000, appRead, 2⟩
  txSar := ⟨1000, 2000, 14600, 0x3FFFF, 0, false, 2⟩

/-- The segment arrives and is answered. -/
def ringExchange (arrival : RxArrival) : List RingAction :=
  [.segment arrival.segment, .rxEngTcpFsm, .rxSarTable,
    .sttableRsp arrival.sessionState, .txSarRsp arrival.txSar]

def ringOf (arrival : RxArrival) : RingSystem :=
  RingSystem.start fun _ => arrival.rxSar

theorem run_ringExchange (appRead : TcpSessionBuffer) :
    Run (RingStep 0) (ringOf (finData appRead))
      (ringExchange (finData appRead))
      ((ringExchange (finData appRead)).foldl (RingSystem.act · 0)
        (ringOf (finData appRead))) := by
  refine Run.head ⟨rfl, trivial⟩ ?_
  refine Run.head ⟨rfl, fun opens => (by cases opens)⟩ ?_
  refine Run.head ⟨rfl, trivial⟩ ?_
  refine Run.head ⟨rfl, trivial⟩ ?_
  exact Run.head ⟨rfl, trivial⟩ (Run.refl _)

theorem stored_payload_fits_of_finData :
    Along (RingStep 0) (KeepsUnread 0) (ringOf (finData 7000))
      (ringExchange (finData 7000) ++ [RingAction.rxEngTcpFsm]) :=
  (stored_payload_fits 0 (fun _ => ⟨7000, 7000, 2⟩)
    (ringExchange (finData 7000) ++ [RingAction.rxEngTcpFsm])).2
    (by
      rintro _ ⟨rfl, _⟩
      refine ⟨trivial, ?_⟩
      rintro _ ⟨rfl, _⟩
      refine ⟨fun transition => (by cases transition), ?_⟩
      rintro _ ⟨rfl, _⟩
      refine ⟨trivial, ?_⟩
      rintro _ ⟨rfl, _⟩
      refine ⟨trivial, ?_⟩
      rintro _ ⟨rfl, _⟩
      refine ⟨trivial, ?_⟩
      rintro _ ⟨rfl, _⟩
      refine ⟨fun _ loaded answers _ _ _ => ?_, trivial⟩
      cases answers
      decide)

/-- With 50 bytes free the 100 bytes of a FIN+ACK are stored all the same. -/
theorem not_storesFree_finData :
    (¬ ∃ msgs final,
      HandlesSegment RxEngState.start (finData 7051) msgs final ∧
      StoresFree (finData 7051) msgs) ∧
    ¬ Along (RingStep 0) (KeepsUnread 0) (ringOf (finData 7051))
      (ringExchange (finData 7051) ++ [RingAction.rxEngTcpFsm]) := by
  refine ⟨fun stores => ?_, fun along => ?_⟩
  · have fits :=
      (storesFree_iff RxEngState.start (finData 7051)).1 stores
    exact absurd fits (by decide)
  · have keeps :=
      along.of_run (run_ringExchange 7051)
        ⟨rfl, fun opens => (by cases opens)⟩ rfl _ rfl rfl _
        List.mem_cons_self
    exact absurd keeps.1 (by decide)

end TcpOffload
