import TcpOffload.RxEngine.StreamInvariant

/-!
# The stream from the wire to the application

The calls of the table and of the read handler keep the counts too, so the
writes and the reads of a connection walk the same ring offsets.
-/

namespace TcpOffload

open Guarded Lookup

/-! ## Calls of the table -/

namespace Streaming

variable {id reading : TcpSessionID} {received : BitVec 32}
variable {read : TcpSessionBuffer} {system : RingSystem}

/-- What is left on its way to the table still finds nothing to read. -/
theorem openingAfterTable
    {table : RxSarTableState} {msgs : List RxSarTableMsg}
    (streaming : Streaming id reading received read system)
    (fewer : ∀ req ∈ table.rxEngReqs, req ∈ system.table.rxEngReqs)
    (accesses :
      ∀ req ∈ table.rxAppReqs, req ∈ system.table.rxAppReqs)
    (answers :
      system.Quiet id →
        ∀ rsp ∈ msgs.filterMap RxSarTableMsg.toRxApp,
          rsp.sessionId ≠ id) :
    ∀ req ∈ (system.afterTable table msgs).table.rxEngReqs,
      req.init = true →
        req.sessionId = id → (system.afterTable table msgs).Quiet id := by
  intro req member isInit own
  have quiet := streaming.opening req (fewer req member) isInit own
  exact quiet.afterTable accesses (answers quiet)

/-- A call that serves the TX engine or nobody. -/
theorem afterNothing
    {table : RxSarTableState} {msgs : List RxSarTableMsg}
    (streaming : Streaming id reading received read system)
    (sameTable : table.table = system.table.table)
    (sameApp : table.rxAppReqs = system.table.rxAppReqs)
    (sameEng : table.rxEngReqs = system.table.rxEngReqs)
    (noEng : msgs.filterMap RxSarTableMsg.toRxEng = [])
    (noApp : msgs.filterMap RxSarTableMsg.toRxApp = []) :
    Streaming id reading received read
      (system.afterTable table msgs) := by
  refine
    ⟨?_, ?_, streaming.openingAfterTable ?_ ?_ ?_, streaming.flags⟩
  · change
      StreamPhase id (table.table id).recvd received _ _
        (system.fsm.rxSarRsps ++ msgs.filterMap RxSarTableMsg.toRxEng)
        table.rxEngReqs
    rw [noEng, sameTable, sameEng, List.append_nil]
    exact streaming.recvd
  · change
      ReaderPhase id (table.table id).appRead read _ _
        (system.app.rxSarRsps ++ msgs.filterMap RxSarTableMsg.toRxApp)
        table.rxAppReqs
    rw [noApp, sameTable, sameApp, List.append_nil]
    exact streaming.appRead
  · rw [sameEng]
    exact fun _ member => member
  · rw [sameApp]
    exact fun _ member => member
  · rw [noApp]
    intro _ _ member
    cases member

theorem afterRxAppWrite
    {req : RxSarAppReqRsp} {later : List RxSarAppReqRsp}
    (streaming : Streaming id reading received read system)
    (reqs : system.table.rxAppReqs = req :: later)
    (isWrite : req.write = true) :
    Streaming id reading received read
      (system.afterTable
        ({ system.table with rxAppReqs := later }.setEntry req.sessionId
          ((system.entry req.sessionId).rxAppWrite req))
        []) := by
  have phase := streaming.appRead
  rw [reqs] at phase
  have notLookup : req ≠ RxSarAppReqRsp.lookup reading := by
    intro isLookup
    rw [isLookup] at isWrite
    cases isWrite
  have opening :=
    @openingAfterTable id reading received read system
      ({ system.table with rxAppReqs := later }.setEntry req.sessionId
        ((system.entry req.sessionId).rxAppWrite req))
      [] streaming (fun _ member => member)
      (fun other member => by
        rw [reqs]
        exact List.mem_cons_of_mem req member)
      (fun _ _ member => by cases member)
  by_cases isOwn : req.sessionId = id
  · have written :
        Function.update system.table.table req.sessionId
            ((system.entry req.sessionId).rxAppWrite req) id =
          { system.entry id with appRead := req.appRead } := by
      rw [isOwn]
      exact Function.update_self _ _ _
    refine ⟨?_, ?_, opening, streaming.flags⟩
    · change
        StreamPhase id (Function.update system.table.table _ _ id).recvd
          _ _ _ (system.fsm.rxSarRsps ++ []) _
      rw [written, List.append_nil]
      exact streaming.recvd
    · change
        ReaderPhase id
          (Function.update system.table.table _ _ id).appRead read _ _
          (system.app.rxSarRsps ++ []) later
      rw [written, List.append_nil]
      refine phase.serveWrite notLookup fun rest known => ?_
      rcases known.served with ⟨isOther, _⟩ | ⟨own, others⟩
      · exact absurd isOwn isOther.2
      · exact Writes.settled own.appRead others
  · have kept :
        Function.update system.table.table req.sessionId
            ((system.entry req.sessionId).rxAppWrite req) id =
          system.entry id :=
      Function.update_of_ne (Ne.symm isOwn) _ _
    refine ⟨?_, ?_, opening, streaming.flags⟩
    · change
        StreamPhase id (Function.update system.table.table _ _ id).recvd
          _ _ _ (system.fsm.rxSarRsps ++ []) _
      rw [kept, List.append_nil]
      exact streaming.recvd
    · change
        ReaderPhase id
          (Function.update system.table.table _ _ id).appRead read _ _
          (system.app.rxSarRsps ++ []) later
      rw [kept, List.append_nil]
      refine phase.serveWrite notLookup fun rest known => ?_
      rcases known.served with ⟨_, laterWrites⟩ | ⟨own, _⟩
      · exact laterWrites
      · exact absurd own.isOwn isOwn

theorem afterRxAppLookup
    {req : RxSarAppReqRsp} {later : List RxSarAppReqRsp}
    (streaming : Streaming id reading received read system)
    (reqs : system.table.rxAppReqs = req :: later)
    (isLookup : req.write = false) :
    Streaming id reading received read
      (system.afterTable { system.table with rxAppReqs := later }
        [.rxAppRsp
          (RxSarAppReqRsp.update req.sessionId
            (system.entry req.sessionId).appRead)]) := by
  have phase := streaming.appRead
  rw [reqs] at phase
  obtain ⟨isAsked, settled, answers⟩ :=
    phase.serveLookup fun writes pending member => by
      have isWrite : req.write = true := by
        rcases pending.of_mem member with isOther | own
        · exact isOther.1
        · exact own.isWrite
      rw [isLookup] at isWrite
      cases isWrite
  refine
    ⟨?_, answers _ ⟨?_, settled.of_nil, fun own => ?_⟩,
      streaming.openingAfterTable (fun _ member => member)
        (fun other member => ?_) (fun quiet rsp member => ?_),
      streaming.flags⟩
  · change StreamPhase _ _ _ _ _ (system.fsm.rxSarRsps ++ []) _
    rw [List.append_nil]
    exact streaming.recvd
  · rw [isAsked]
    rfl
  · rw [isAsked]
    refine Eq.trans ?_ settled.of_nil
    exact congrArg (fun other => (system.entry other).appRead) own
  · rw [reqs]
    exact List.mem_cons_of_mem req member
  · have isAnswer :
        rsp =
          RxSarAppReqRsp.update req.sessionId
            (system.entry req.sessionId).appRead :=
      List.mem_singleton.1 member
    rw [isAnswer]
    refine quiet.reads.accesses req ?_
    rw [reqs]
    exact List.mem_cons_self

/-- A write of the machine moves `recvd` to where it already counts, and one
that initialises the entry sets both pointers anew. -/
theorem afterRxEngWrite
    {req : RxEngToRxSarReq} {later : List RxEngToRxSarReq}
    (streaming : Streaming id reading received read system)
    (reqs : system.table.rxEngReqs = req :: later)
    (isWrite : req.write = true) :
    Streaming id reading
      (if req.init ∧ req.sessionId = id then req.recvd else received)
      (if req.init ∧ req.sessionId = id then
        req.recvd.setWidth 18
      else
        read)
      (system.afterTable
        ({ system.table with rxEngReqs := later }.setEntry req.sessionId
          ((system.entry req.sessionId).rxEngWrite req))
        []) := by
  have phase := streaming.recvd
  rw [reqs] at phase
  have notLookup :
      req ≠
        RxEngToRxSarReq.lookup system.fsm.tcpRxMetaReg.sessionId := by
    intro isLookup
    rw [isLookup] at isWrite
    cases isWrite
  have opening :=
    @openingAfterTable id reading received read system
      ({ system.table with rxEngReqs := later }.setEntry req.sessionId
        ((system.entry req.sessionId).rxEngWrite req))
      [] streaming
      (fun other member => by
        rw [reqs]
        exact List.mem_cons_of_mem req member)
      (fun _ member => member) (fun _ _ member => by cases member)
  by_cases isOwn : req.sessionId = id
  case neg =>
    have kept :
        Function.update system.table.table req.sessionId
            ((system.entry req.sessionId).rxEngWrite req) id =
          system.entry id :=
      Function.update_of_ne (Ne.symm isOwn) _ _
    rw [if_neg fun both => isOwn both.2, if_neg fun both => isOwn both.2]
    refine ⟨?_, ?_, opening, streaming.flags⟩
    · change
        StreamPhase id (Function.update system.table.table _ _ id).recvd
          received _ _ (system.fsm.rxSarRsps ++ []) later
      rw [kept, List.append_nil]
      refine phase.serveWrite notLookup fun rest known => ?_
      rcases known.served with ⟨_, laterWrites⟩ | ⟨own, _⟩
      · exact laterWrites
      · exact absurd own.isOwn isOwn
    · change
        ReaderPhase id
          (Function.update system.table.table _ _ id).appRead read _ _
          (system.app.rxSarRsps ++ []) _
      rw [kept, List.append_nil]
      exact streaming.appRead
  have written :
      Function.update system.table.table req.sessionId
          ((system.entry req.sessionId).rxEngWrite req) id =
        (system.entry id).rxEngWrite req := by
    rw [isOwn]
    exact Function.update_self _ _ _
  have moved : ((system.entry id).rxEngWrite req).recvd = req.recvd := by
    rw [RxSarTableEntry.rxEngWrite]
    split <;> rfl
  obtain ⟨writes, pending, member⟩ :=
    phase.mem_pending List.mem_cons_self notLookup
  have own :
      StreamWrite id (system.entry id).recvd received req := by
    rcases pending.of_mem member with isOther | own
    · exact absurd isOwn isOther.2
    · exact own
  have recvd := own.recvd
  cases isInit : req.init with
  | true =>
      have quiet :=
        streaming.opening req (by rw [reqs]; exact List.mem_cons_self)
          isInit isOwn
      rw [if_pos ⟨rfl, isOwn⟩, if_pos ⟨rfl, isOwn⟩]
      refine ⟨?_, ?_, opening, streaming.flags⟩
      · change
          StreamPhase id (Function.update system.table.table _ _ id).recvd
            req.recvd _ _ (system.fsm.rxSarRsps ++ []) later
        rw [written, List.append_nil, moved]
        refine phase.serveWrite notLookup fun rest known => ?_
        rcases known.served with ⟨isOther, _⟩ | ⟨_, others⟩
        · exact absurd isOwn isOther.2
        · exact Writes.settled rfl others
      · change
          ReaderPhase id
            (Function.update system.table.table _ _ id).appRead
            (req.recvd.setWidth 18) _ _ (system.app.rxSarRsps ++ []) _
        rw [written, List.append_nil, RxSarTableEntry.rxEngWrite,
          if_pos isInit]
        exact
          ReaderPhase.reopen streaming.appRead quiet.reads.accesses
            quiet.reads.answers
  | false =>
      rw [isInit] at recvd
      have isRecvd : req.recvd = received := recvd
      rw [if_neg fun both => Bool.false_ne_true both.1,
        if_neg fun both => Bool.false_ne_true both.1]
      refine ⟨?_, ?_, opening, streaming.flags⟩
      · change
          StreamPhase id (Function.update system.table.table _ _ id).recvd
            received _ _ (system.fsm.rxSarRsps ++ []) later
        rw [written, List.append_nil, moved, isRecvd]
        refine phase.serveWrite notLookup fun rest known => ?_
        rcases known.served with ⟨isOther, _⟩ | ⟨_, others⟩
        · exact absurd isOwn isOther.2
        · exact Writes.settled rfl others
      · change
          ReaderPhase id
            (Function.update system.table.table _ _ id).appRead read _ _
            (system.app.rxSarRsps ++ []) _
        rw [written, List.append_nil, RxSarTableEntry.rxEngWrite,
          if_neg (by rw [isInit]; exact Bool.false_ne_true)]
        exact streaming.appRead

theorem afterRxEngLookup
    {req : RxEngToRxSarReq} {later : List RxEngToRxSarReq}
    (streaming : Streaming id reading received read system)
    (reqs : system.table.rxEngReqs = req :: later)
    (isLookup : req.write = false) :
    Streaming id reading received read
      (system.afterTable { system.table with rxEngReqs := later }
        [.rxEngRsp (system.entry req.sessionId)]) := by
  have phase := streaming.recvd
  rw [reqs] at phase
  obtain ⟨isAsked, settled, answers⟩ :=
    phase.serveLookup fun writes pending member => by
      have isWrite : req.write = true := by
        rcases pending.of_mem member with isOther | own
        · exact isOther.1
        · exact own.isWrite
      rw [isLookup] at isWrite
      cases isWrite
  refine
    ⟨answers (system.entry req.sessionId)
        ⟨settled.of_nil, fun own => ?_⟩,
      ?_,
      streaming.openingAfterTable (fun other member => ?_)
        (fun _ member => member) (fun _ _ member => by cases member),
      streaming.flags⟩
  · rw [isAsked]
    refine Eq.trans ?_ settled.of_nil
    exact congrArg (fun other => (system.entry other).recvd) own
  · change ReaderPhase _ _ _ _ _ (system.app.rxSarRsps ++ []) _
    rw [List.append_nil]
    exact streaming.appRead
  · rw [reqs]
    exact List.mem_cons_of_mem req member

end Streaming

/-- With nothing of the session to read, nothing is asked for. -/
theorem Streaming.waiting_eq_nil
    {id reading : TcpSessionID} {received : BitVec 32}
    {read : TcpSessionBuffer} {system : RingSystem}
    (streaming : Streaming id reading received read system)
    (quiet : system.Quiet id) : system.waiting id reading = [] := by
  have notWaiting :
      ¬ (system.app.fsmState = .waitSarRsp ∧ reading = id) := by
    rintro ⟨waits, isReading⟩
    exact
      ReaderPhase.inHand_ne streaming.appRead quiet.reads.accesses
        quiet.reads.answers (decide_eq_true waits) isReading
  have noneQueued : queuedLengths id system.app.recvDataReqs = [] := by
    rw [queuedLengths, List.map_eq_nil_iff, List.filter_eq_nil_iff]
    intro req member
    rw [Bool.and_eq_true, beq_iff_eq, bne_iff_ne]
    rintro ⟨own, some⟩
    exact some (quiet.reads.requests req member own)
  rw [RingSystem.waiting, if_neg notWaiting, noneQueued]
  rfl

namespace StreamSystem

variable {id : TcpSessionID} {system : StreamSystem}

/-- A call of the table that does not initialise the entry. -/
theorem Kept.afterTable
    {table : RxSarTableState} {msgs : List RxSarTableMsg}
    {reading : TcpSessionID} {received : BitVec 32}
    {read : TcpSessionBuffer}
    (follows :
      ∀ stream,
        system.stream = some stream →
          stream.Follows id received read
            (system.ring.waiting id reading) system.ring.unread)
    (called : TcpOffload.rxSarTable system.ring.table = (table, msgs))
    (notOpening : system.ring.table.opening id = none)
    (streaming :
      Streaming id reading received read
        (system.ring.afterTable table msgs)) :
    (system.act id .rxSarTable).Kept id := by
  have sameRing :
      (system.act id .rxSarTable).ring =
        system.ring.afterTable table msgs := by
    change system.ring.afterTable _ _ = _
    rw [called]
  refine Kept.sameStream follows ?_ ?_ ?_ ?_
  · rw [sameRing]
    exact streaming
  · change recorded system id .rxSarTable = _
    rw [recorded, notOpening]
  · rw [sameRing]
    rfl
  · rw [sameRing]
    rfl

/-- A call of the table that initialises the entry. -/
theorem Kept.afterOpening
    {req : RxEngToRxSarReq} {table : RxSarTableState}
    {reading : TcpSessionID} {received : BitVec 32}
    {read : TcpSessionBuffer}
    (before : Streaming id reading received read system.ring)
    (called : TcpOffload.rxSarTable system.ring.table = (table, []))
    (onItsWay : req ∈ system.ring.table.rxEngReqs)
    (opens : req.init = true ∧ req.sessionId = id)
    (opening : system.ring.table.opening id = some req.recvd)
    (after :
      Streaming id reading req.recvd (req.recvd.setWidth 18)
        (system.ring.afterTable table [])) :
    (system.act id .rxSarTable).Kept id := by
  have sameRing :
      (system.act id .rxSarTable).ring =
        system.ring.afterTable table [] := by
    change system.ring.afterTable _ _ = _
    rw [called]
  have quiet := before.opening req onItsWay opens.1 opens.2
  have noneWaiting :
      (system.ring.afterTable table []).waiting id reading = [] :=
    before.waiting_eq_nil quiet
  have noneUnread : (system.ring.afterTable table []).unread = 0 :=
    quiet.unread
  refine
    ⟨reading, req.recvd, req.recvd.setWidth 18, ?_,
      fun stream isStream => ?_⟩
  · rw [sameRing]
    exact after
  · change recorded system id .rxSarTable = some stream at isStream
    rw [recorded, opening] at isStream
    cases isStream
    rw [sameRing, noneWaiting, noneUnread]
    exact Delivery.Follows.start id req.recvd

theorem Kept.rxSarTable (kept : system.Kept id) :
    (system.act id .rxSarTable).Kept id := by
  obtain ⟨reading, received, read, streaming, follows⟩ := kept
  cases lups : system.ring.table.txEngLups with
  | cons other later =>
      have called :
          TcpOffload.rxSarTable system.ring.table =
            ({ system.ring.table with txEngLups := later },
              [.txEngRsp (system.ring.table.table other).txEngRead]) := by
        rw [TcpOffload.rxSarTable, lups]
      have notOpening : system.ring.table.opening id = none := by
        rw [RxSarTableState.opening, lups]
      exact
        Kept.afterTable follows called notOpening
          (streaming.afterNothing rfl rfl rfl rfl rfl)
  | nil =>
      cases apps : system.ring.table.rxAppReqs with
      | cons req later =>
          have notOpening : system.ring.table.opening id = none := by
            rw [RxSarTableState.opening, lups, apps]
          cases isWrite : req.write with
          | true =>
              refine
                Kept.afterTable follows ?_ notOpening
                  (streaming.afterRxAppWrite apps isWrite)
              simp only [TcpOffload.rxSarTable, lups, apps, isWrite,
                if_true]
              rfl
          | false =>
              refine
                Kept.afterTable follows ?_ notOpening
                  (streaming.afterRxAppLookup apps isWrite)
              simp only [TcpOffload.rxSarTable, lups, apps, isWrite,
                Bool.false_eq_true, if_false]
              rfl
      | nil =>
          cases engs : system.ring.table.rxEngReqs with
          | nil =>
              have called :
                  TcpOffload.rxSarTable system.ring.table =
                    (system.ring.table, []) := by
                rw [TcpOffload.rxSarTable, lups, apps, engs]
              have notOpening : system.ring.table.opening id = none := by
                rw [RxSarTableState.opening, lups, apps, engs]
              exact
                Kept.afterTable follows called notOpening
                  (streaming.afterNothing rfl rfl rfl rfl rfl)
          | cons req later =>
              cases isWrite : req.write with
              | false =>
                  refine
                    Kept.afterTable follows ?_ ?_
                      (streaming.afterRxEngLookup engs isWrite)
                  · simp only [TcpOffload.rxSarTable, lups, apps, engs,
                      isWrite, Bool.false_eq_true, if_false]
                    rfl
                  · rw [RxSarTableState.opening, lups, apps, engs]
                    simp only [isWrite, Bool.false_and,
                      Bool.false_eq_true, if_false]
              | true =>
                  have after := streaming.afterRxEngWrite engs isWrite
                  have called :
                      TcpOffload.rxSarTable system.ring.table =
                        ({ system.ring.table with
                            rxEngReqs := later }.setEntry req.sessionId
                            ((system.ring.entry req.sessionId).rxEngWrite
                              req),
                          []) := by
                    simp only [TcpOffload.rxSarTable, lups, apps, engs,
                      isWrite, if_true]
                    rfl
                  have opening :
                      system.ring.table.opening id =
                        if req.init = true ∧ req.sessionId = id then
                          some req.recvd
                        else
                          none := by
                    rw [RxSarTableState.opening, lups, apps, engs]
                    simp only [isWrite, Bool.true_and, Bool.and_eq_true,
                      beq_iff_eq]
                  by_cases opens :
                      req.init = true ∧ req.sessionId = id
                  · rw [if_pos opens, if_pos opens] at after
                    exact
                      Kept.afterOpening streaming called
                        (by rw [engs]; exact List.mem_cons_self) opens
                        (opening.trans (if_pos opens)) after
                  · rw [if_neg opens, if_neg opens] at after
                    exact
                      Kept.afterTable follows called
                        (opening.trans (if_neg opens)) after

end StreamSystem

/-! ## Calls of the read handler -/

namespace Streaming

variable {id reading : TcpSessionID} {received : BitVec 32}
variable {read : TcpSessionBuffer} {system : RingSystem}

theorem afterApp
    {next : TcpSessionID} {further : TcpSessionBuffer}
    {app : RxAppDataState} {msgs : List RxAppDataMsg}
    (streaming : Streaming id reading received read system)
    (appRead :
      ReaderPhase id (system.entry id).appRead further next
        (decide (app.fsmState = .waitSarRsp)) app.rxSarRsps
        (system.table.rxAppReqs ++
          msgs.filterMap RxAppDataMsg.toRxSar))
    (stillDone :
      system.ReadsDone id → (system.afterApp app msgs).ReadsDone id) :
    Streaming id next received further (system.afterApp app msgs) := by
  refine
    ⟨streaming.recvd, appRead, fun req member isInit own => ?_,
      streaming.flags⟩
  have quiet := streaming.opening req member isInit own
  exact ⟨quiet.unread, stillDone quiet.reads⟩

/-- A request that reads is looked up. -/
theorem afterRequest
    {req : AppReadReq} {later : List AppReadReq}
    (streaming : Streaming id reading received read system)
    (waits : system.app.fsmState = .waitNetAppDataReq)
    (reqs : system.app.recvDataReqs = req :: later)
    (isRead : req.readLength ≠ 0) :
    Streaming id req.sessionId received read
      (system.afterApp
        { system.app with
          fsmState := .waitSarRsp
          rxAppReadLength := req.readLength
          rxAppRoleId := req.dest
          recvDataReqs := later }
        [.rxSarReq (RxSarAppReqRsp.lookup req.sessionId)]) := by
  have phase := streaming.appRead
  rw [waits] at phase
  obtain ⟨noRsps, pending⟩ := phase.of_idle
  refine
    streaming.afterApp ?_ fun done => done.afterRequest reqs isRead
  change
    ReaderPhase id (system.entry id).appRead read req.sessionId true
      system.app.rxSarRsps
      (system.table.rxAppReqs ++ [RxSarAppReqRsp.lookup req.sessionId])
  rw [noRsps]
  exact Phase.asked pending

/-- Nothing is asked of the table. -/
theorem afterFewer
    {app : RxAppDataState} {msgs : List RxAppDataMsg}
    (streaming : Streaming id reading received read system)
    (sameWait :
      app.fsmState = .waitSarRsp ↔ system.app.fsmState = .waitSarRsp)
    (requests :
      ∀ req ∈ app.recvDataReqs, req ∈ system.app.recvDataReqs)
    (sameRsps : app.rxSarRsps = system.app.rxSarRsps)
    (noAccess : msgs.filterMap RxAppDataMsg.toRxSar = []) :
    Streaming id reading received read (system.afterApp app msgs) := by
  refine
    streaming.afterApp ?_ fun done =>
      done.afterFewer requests sameRsps noAccess
  rw [sameRsps, noAccess, List.append_nil,
    show decide (app.fsmState = .waitSarRsp) =
        decide (system.app.fsmState = .waitSarRsp) from
      decide_eq_decide.2 sameWait]
  exact streaming.appRead

/-- The answer moves the pointer of the session by what is read. -/
theorem afterAnswer
    {rsp : RxSarAppReqRsp} {later : List RxSarAppReqRsp}
    (streaming : Streaming id reading received read system)
    (rsps : system.app.rxSarRsps = rsp :: later) :
    (rsp.sessionId = reading ∧ (reading = id → rsp.appRead = read)) ∧
      Streaming id reading received
        (if reading = id then
          read + system.app.rxAppReadLength.setWidth 18
        else
          read)
        (system.afterApp
          { system.app with fsmState := .waitData, rxSarRsps := later }
          [.recvDataRsp rsp.sessionId system.app.rxAppRoleId,
            .rxSarReq
              (RxSarAppReqRsp.update rsp.sessionId
                (rsp.appRead +
                  system.app.rxAppReadLength.setWidth 18)),
            .memReadCmd
              (MemBufferRWCmd.ofAddr
                (getSessionMemAddr .rx rsp.sessionId rsp.appRead)
                system.app.rxAppReadLength)]) := by
  have phase := streaming.appRead
  rw [rsps] at phase
  obtain ⟨_, answer, noRsps, noReqs⟩ := phase.of_answered
  refine
    ⟨⟨answer.session, answer.appRead⟩,
      streaming.afterApp ?_ fun done => done.afterAnswer rsps⟩
  change
    ReaderPhase id (system.entry id).appRead _ reading false later
      (system.table.rxAppReqs ++
        [RxSarAppReqRsp.update rsp.sessionId
          (rsp.appRead + system.app.rxAppReadLength.setWidth 18)])
  rw [noRsps, noReqs]
  refine Phase.idle ?_
  by_cases own : reading = id
  · rw [if_pos own]
    refine
      Writes.first ⟨rfl, answer.session.trans own, ?_⟩ fun _ member => by
        cases member
    change rsp.appRead + _ = _
    rw [answer.appRead own]
  · rw [if_neg own]
    refine Writes.settled answer.settled fun other member => ?_
    rw [List.mem_singleton.1 member]
    refine ⟨rfl, ?_⟩
    change rsp.sessionId ≠ id
    rw [answer.session]
    exact own

end Streaming

namespace StreamSystem

variable {id : TcpSessionID} {system : StreamSystem}

/-- A call of the read handler that writes no read command. -/
theorem Kept.afterApp
    {app : RxAppDataState} {msgs : List RxAppDataMsg}
    {reading next : TcpSessionID} {received : BitVec 32}
    {read : TcpSessionBuffer}
    (follows :
      ∀ stream,
        system.stream = some stream →
          stream.Follows id received read
            (system.ring.waiting id reading) system.ring.unread)
    (called :
      TcpOffload.rxAppDataHandler system.ring.app = (app, msgs))
    (noReads : system.ring.app.sessionReads id = [])
    (sameWaiting :
      (system.ring.afterApp app msgs).waiting id next =
        system.ring.waiting id reading)
    (streaming :
      Streaming id next received read
        (system.ring.afterApp app msgs)) :
    (system.act id .rxAppDataHandler).Kept id := by
  have sameRing :
      (system.act id .rxAppDataHandler).ring =
        system.ring.afterApp app msgs := by
    change system.ring.afterApp _ _ = _
    rw [called]
  refine ⟨next, received, read, ?_, fun stream isStream => ?_⟩
  · rw [sameRing]
    exact streaming
  · change recorded system id .rxAppDataHandler = some stream at isStream
    rw [recorded, noReads] at isStream
    obtain ⟨before, isBefore, rfl⟩ := Option.map_eq_some_iff.1 isStream
    rw [sameRing, sameWaiting, Delivery.read, List.append_nil]
    exact follows before isBefore

/-- A call of the read handler that reads for the session. -/
theorem Kept.afterRead
    {app : RxAppDataState} {msgs : List RxAppDataMsg}
    {reading : TcpSessionID} {received : BitVec 32}
    {read : TcpSessionBuffer} {length : BitVec 16}
    {later : List (BitVec 16)}
    (follows :
      ∀ stream,
        system.stream = some stream →
          stream.Follows id received read
            (system.ring.waiting id reading) system.ring.unread)
    (called :
      TcpOffload.rxAppDataHandler system.ring.app = (app, msgs))
    (reads :
      system.ring.app.sessionReads id =
        [sessionCmd .rx id read length])
    (oldest : system.ring.waiting id reading = length :: later)
    (left :
      (system.ring.afterApp app msgs).waiting id reading = later)
    (streaming :
      Streaming id reading received (read + length.setWidth 18)
        (system.ring.afterApp app msgs)) :
    (system.act id .rxAppDataHandler).Kept id := by
  have sameRing :
      (system.act id .rxAppDataHandler).ring =
        system.ring.afterApp app msgs := by
    change system.ring.afterApp _ _ = _
    rw [called]
  refine
    ⟨reading, received, read + length.setWidth 18, ?_,
      fun stream isStream => ?_⟩
  · rw [sameRing]
    exact streaming
  · change recorded system id .rxAppDataHandler = some stream at isStream
    rw [recorded, reads] at isStream
    obtain ⟨before, isBefore, rfl⟩ := Option.map_eq_some_iff.1 isStream
    have beforeFollows := follows before isBefore
    rw [oldest] at beforeFollows
    rw [sameRing, left]
    exact beforeFollows.answer

theorem Kept.rxAppDataHandler (kept : system.Kept id) :
    (system.act id .rxAppDataHandler).Kept id := by
  obtain ⟨reading, received, read, streaming, follows⟩ := kept
  have idle
      (called :
        TcpOffload.rxAppDataHandler system.ring.app =
          (system.ring.app, []))
      (noReads : system.ring.app.sessionReads id = []) :
      (system.act id .rxAppDataHandler).Kept id :=
    Kept.afterApp follows called noReads rfl
      (streaming.afterFewer Iff.rfl (fun _ member => member) rfl rfl)
  cases fsmState : system.ring.app.fsmState with
  | waitNetAppDataReq =>
      have noReads : system.ring.app.sessionReads id = [] := by
        rw [RxAppDataState.sessionReads, fsmState]
      cases reqs : system.ring.app.recvDataReqs with
      | nil =>
          exact
            idle (by rw [TcpOffload.rxAppDataHandler, fsmState, reqs])
              noReads
      | cons req later =>
          have notWaiting (session : TcpSessionID) :
              ¬ (RxAppDataFsmState.waitNetAppDataReq =
                    RxAppDataFsmState.waitSarRsp ∧
                  session = id) := by
            rintro ⟨wrong, _⟩
            cases wrong
          have queued :
              system.ring.waiting id reading =
                queuedLengths id [req] ++ queuedLengths id later := by
            rw [RingSystem.waiting_of_not, reqs, ← queuedLengths_append]
            · rfl
            · rw [fsmState]
              exact notWaiting reading
          by_cases isRead : req.readLength ≠ 0
          · refine
              Kept.afterApp follows ?_ noReads ?_
                (streaming.afterRequest fsmState reqs isRead)
            · simp only [TcpOffload.rxAppDataHandler, fsmState, reqs,
                if_pos isRead]
            · rw [queued]
              change
                (if
                      RxAppDataFsmState.waitSarRsp =
                          RxAppDataFsmState.waitSarRsp ∧
                        req.sessionId = id then
                    [req.readLength]
                  else
                    []) ++
                    queuedLengths id later =
                  _
              refine congrArg (· ++ _) ?_
              by_cases own : req.sessionId = id
              · rw [if_pos ⟨rfl, own⟩, queuedLengths_own own isRead]
              · rw [if_neg fun both => own both.2,
                  queuedLengths_other fun both => own both.1]
          · have called :
                TcpOffload.rxAppDataHandler system.ring.app =
                  ({ system.ring.app with recvDataReqs := later },
                    []) := by
              simp only [TcpOffload.rxAppDataHandler, fsmState, reqs,
                if_neg isRead]
            have fewer (other : AppReadReq) (member : other ∈ later) :
                other ∈ system.ring.app.recvDataReqs := by
              rw [reqs]
              exact List.mem_cons_of_mem req member
            refine
              Kept.afterApp follows called noReads ?_
                (streaming.afterFewer Iff.rfl fewer rfl rfl)
            rw [queued, queuedLengths_other fun both => isRead both.2,
              RingSystem.waiting_of_not]
            · rfl
            · change
                ¬ (system.ring.app.fsmState = .waitSarRsp ∧
                    reading = id)
              rw [fsmState]
              exact notWaiting reading
  | waitSarRsp =>
      cases rsps : system.ring.app.rxSarRsps with
      | nil =>
          exact
            idle (by rw [TcpOffload.rxAppDataHandler, fsmState, rsps])
              (by rw [RxAppDataState.sessionReads, fsmState, rsps])
      | cons rsp later =>
          obtain ⟨⟨session, current⟩, after⟩ := streaming.afterAnswer rsps
          have called :
              TcpOffload.rxAppDataHandler system.ring.app =
                ({ system.ring.app with
                    fsmState := .waitData, rxSarRsps := later },
                  [.recvDataRsp rsp.sessionId system.ring.app.rxAppRoleId,
                    .rxSarReq
                      (RxSarAppReqRsp.update rsp.sessionId
                        (rsp.appRead +
                          system.ring.app.rxAppReadLength.setWidth 18)),
                    .memReadCmd
                      (MemBufferRWCmd.ofAddr
                        (getSessionMemAddr .rx rsp.sessionId rsp.appRead)
                        system.ring.app.rxAppReadLength)]) := by
            rw [TcpOffload.rxAppDataHandler, fsmState, rsps]
          by_cases own : reading = id
          · rw [if_pos own] at after
            have isOwn : rsp.sessionId = id := session.trans own
            have reads :
                system.ring.app.sessionReads id =
                  [sessionCmd .rx id read
                    system.ring.app.rxAppReadLength] := by
              rw [RxAppDataState.sessionReads, fsmState, rsps]
              simp only [if_pos isOwn, called]
              rw [sessionCmd, ← current own, ← isOwn]
              rfl
            have oldest :
                system.ring.waiting id reading =
                  system.ring.app.rxAppReadLength ::
                    queuedLengths id system.ring.app.recvDataReqs := by
              rw [RingSystem.waiting, if_pos ⟨fsmState, own⟩]
              rfl
            refine Kept.afterRead follows called reads oldest ?_ after
            exact RingSystem.waiting_of_not fun both => by cases both.1
          · rw [if_neg own] at after
            refine Kept.afterApp follows called ?_ ?_ after
            · rw [RxAppDataState.sessionReads, fsmState, rsps]
              exact if_neg fun isOwn => own (session.symm.trans isOwn)
            · rw [RingSystem.waiting_of_not fun both => own both.2,
                RingSystem.waiting_of_not fun both => own both.2]
              rfl
  | waitData =>
      have noReads : system.ring.app.sessionReads id = [] := by
        rw [RxAppDataState.sessionReads, fsmState]
      cases words : system.ring.app.readData with
      | nil =>
          exact
            idle (by rw [TcpOffload.rxAppDataHandler, fsmState, words])
              noReads
      | cons word later =>
          have notWait :
              (if word.last then
                  RxAppDataFsmState.waitNetAppDataReq
                else
                  RxAppDataFsmState.waitData) ≠
                RxAppDataFsmState.waitSarRsp := by
            split <;> decide
          have called :
              TcpOffload.rxAppDataHandler system.ring.app =
                ({ system.ring.app with
                    fsmState :=
                      if word.last then .waitNetAppDataReq else .waitData
                    readData := later },
                  [.recvData
                    { word with
                      dest := system.ring.app.rxAppRoleId }]) := by
            rw [TcpOffload.rxAppDataHandler, fsmState, words]
          have wasNotWait :
              system.ring.app.fsmState ≠ .waitSarRsp := by
            rw [fsmState]
            decide
          refine
            Kept.afterApp follows called noReads ?_
              (streaming.afterFewer
                (iff_of_false notWait wasNotWait)
                (fun _ member => member) rfl rfl)
          rw [RingSystem.waiting_of_not fun both => notWait both.1,
            RingSystem.waiting_of_not fun both => wasNotWait both.1]
          rfl

/-- A request of the application. -/
theorem Kept.recvDataReq {req : AppReadReq}
    (kept : system.Kept id)
    (notified : ReadsNotified id system.ring (.recvDataReq req)) :
    (system.act id (.recvDataReq req)).Kept id := by
  obtain ⟨reading, received, read, streaming, follows⟩ := kept
  refine
    ⟨reading, received, read,
      ⟨streaming.recvd, streaming.appRead, ?_, streaming.flags⟩,
      fun stream isStream => ?_⟩
  · intro other member isInit own
    have quiet := streaming.opening other member isInit own
    refine
      ⟨?_, fun further member => ?_, quiet.reads.accesses,
        quiet.reads.answers⟩
    · change (if req.sessionId = id then _ else _) = 0
      rw [quiet.unread, Nat.zero_sub]
      exact ite_self 0
    · rcases List.mem_append.1 member with earlier | last
      · exact quiet.reads.requests further earlier
      · rw [List.mem_singleton.1 last]
        intro isOwn
        have enough := notified isOwn
        rw [quiet.unread] at enough
        exact BitVec.eq_of_toNat_eq (Nat.le_zero.1 enough)
  · change recorded system id (.recvDataReq req) = some stream at isStream
    rw [recorded] at isStream
    obtain ⟨before, isBefore, rfl⟩ := Option.map_eq_some_iff.1 isStream
    have waitingEq :
        (system.act id (.recvDataReq req)).ring.waiting id reading =
          system.ring.waiting id reading ++ queuedLengths id [req] := by
      change
        _ ++ queuedLengths id (system.ring.app.recvDataReqs ++ [req]) =
          _ ++ _ ++ _
      rw [queuedLengths_append, List.append_assoc]
      rfl
    rw [waitingEq]
    exact (follows before isBefore).ask notified

/-- A step keeps the counts. -/
theorem Kept.step {next : StreamSystem} {action : RingAction}
    (kept : system.Kept id)
    (stepped : StreamStep id system action next) : next.Kept id := by
  obtain ⟨rfl, notified, upToFin⟩ := stepped
  cases action with
  | rxEngTcpFsm =>
      exact kept.rxEngTcpFsm notified upToFin
  | rxSarTable =>
      exact kept.rxSarTable
  | rxAppDataHandler =>
      exact kept.rxAppDataHandler
  | recvDataReq req =>
      exact kept.recvDataReq notified
  | segment | sttableRsp | txSarRsp | readData | txEngLup =>
      obtain ⟨reading, received, read, streaming, follows⟩ := kept
      refine
        ⟨reading, received, read,
          ⟨streaming.recvd, streaming.appRead, ?_, streaming.flags⟩,
          follows⟩
      intro req member isInit own
      have quiet := streaming.opening req member isInit own
      exact
        ⟨quiet.unread, quiet.reads.requests, quiet.reads.accesses,
          quiet.reads.answers⟩

/-- What the counts say about the record. -/
theorem Kept.delivered {stream : Delivery}
    (kept : system.Kept id) (isStream : system.stream = some stream) :
    Delivered id system.ring stream := by
  obtain ⟨reading, received, read, streaming, follows⟩ := kept
  have accounts := follows stream isStream
  refine
    ⟨streaming.recvd_eq.trans accounts.recvd, accounts.handled,
      accounts.written, accounts.read, ?_, ?_, accounts.rings⟩
  · have enough := accounts.unread
    have bytes :
        ((stream.reads.map fun cmd => cmd.length).map
              BitVec.toNat).sum =
          stream.bytesRead := by
      rw [List.map_map]
      rfl
    rw [accounts.asked, List.map_append, List.sum_append, bytes] at enough
    omega
  · rw [accounts.asked]
    exact List.prefix_append _ _

end StreamSystem

/-- In every run in which the application reads what it was told about, up
to and including the acceptance of a FIN, the stream of a connection goes
from the wire to the application without a gap: `recvd` counts the accepted
payload, every accepted segment is in order, its payload is written, announced
and let through once, and the bytes written and the bytes read walk the same
ring offsets from the first sequence number on. -/
theorem accepted_payload_delivered
    (id : TcpSessionID) (table : TcpSessionID → RxSarTableEntry)
    {actions : List RingAction} {final : StreamSystem}
    (run :
      Run (StreamStep id) (StreamSystem.start table) actions final) :
    ∀ stream,
      final.stream = some stream → Delivered id final.ring stream := by
  have kept : final.Kept id :=
    run.keeps (fun _ _ _ before stepped => before.step stepped)
      (streamKept_start id table)
  intro stream isStream
  exact kept.delivered isStream

/-! ## A connection with a bare FIN -/

/-- A segment of session 0 with the given flags. -/
def streamSegment
    (seqNumber : BitVec 32) (ack syn fin : Bool) (length : BitVec 16) :
    RxEngFsmMetaData :=
  ⟨0, 0, 0, ⟨seqNumber, 2000, 0xFFFF, ack, false, syn, fin, 0, length⟩⟩

def streamTxSar : TxSarToRxEngRsp :=
  ⟨1000, 2000, 14600, 0x3FFFF, 0, false, 2⟩

/-- A SYN, 100 bytes of which the application reads 60, and a FIN without
payload. -/
def dataThenFin : List RingAction :=
  [.segment (streamSegment 6999 false true false 0), .rxEngTcpFsm,
    .sttableRsp .closed, .rxSarTable, .rxEngTcpFsm, .rxSarTable,
    .segment (streamSegment 7000 true false false 100), .rxEngTcpFsm,
    .sttableRsp .established, .txSarRsp streamTxSar, .rxSarTable,
    .rxEngTcpFsm, .rxSarTable,
    .recvDataReq ⟨0, 60, 0⟩, .rxAppDataHandler, .rxSarTable,
    .rxAppDataHandler, .rxSarTable,
    .segment (streamSegment 7100 true false true 0), .rxEngTcpFsm,
    .sttableRsp .established, .txSarRsp streamTxSar, .rxSarTable,
    .rxEngTcpFsm]

def emptyStream : StreamSystem :=
  StreamSystem.start fun _ => ⟨0, 0, 0⟩

def afterDataThenFin : StreamSystem :=
  dataThenFin.foldl (StreamSystem.act · 0) emptyStream

theorem UpToFin.of_noStream {id : TcpSessionID} {system : StreamSystem}
    (none : system.stream.isNone = true) :
    UpToFin id system .rxEngTcpFsm := by
  intro stream isStream
  rw [isStream] at none
  cases none

theorem UpToFin.of_early {id : TcpSessionID} {system : StreamSystem}
    (early : system.stream.any Delivery.finished = false) :
    UpToFin id system .rxEngTcpFsm := by
  intro stream isStream isFin
  rw [isStream] at early
  exact absurd (early.symm.trans isFin) (by decide)

theorem ReadsNotified.of_noOpening
    {id : TcpSessionID} {system : RingSystem}
    (closed : opensSession id (rxEngTcpFsm system.fsm).2 = false) :
    ReadsNotified id system .rxEngTcpFsm := by
  intro opens
  exact absurd (closed.symm.trans opens) (by decide)

theorem ReadsNotified.of_noReads
    {id : TcpSessionID} {system : RingSystem}
    (reads :
      system.app.recvDataReqs = [] ∧ system.table.rxAppReqs = [] ∧
        system.app.rxSarRsps = []) :
    ReadsNotified id system .rxEngTcpFsm := by
  obtain ⟨requests, accesses, answers⟩ := reads
  intro _
  refine ⟨?_, ?_, ?_⟩
  · rw [requests]
    exact fun _ member => by cases member
  · rw [accesses]
    exact fun _ member => by cases member
  · rw [answers]
    exact fun _ member => by cases member

theorem run_dataThenFin :
    Run (StreamStep 0) emptyStream dataThenFin afterDataThenFin := by
  repeat' first
    | exact Run.refl _
    | refine Run.head ⟨rfl, trivial, trivial⟩ ?_
    | refine Run.head ⟨rfl, .of_noReads ⟨rfl, rfl, rfl⟩, .of_noStream rfl⟩ ?_
    | refine Run.head ⟨rfl, .of_noOpening rfl, .of_early rfl⟩ ?_
    | refine Run.head ⟨rfl, fun _ => (by decide +kernel), trivial⟩ ?_

theorem accepted_payload_delivered_of_dataThenFin :
    ∃ stream,
      afterDataThenFin.stream = some stream ∧ stream.total = 100 ∧
        stream.bytesRead = 60 ∧
        Delivered 0 afterDataThenFin.ring stream := by
  have recorded :
      (afterDataThenFin.stream.any fun stream =>
          stream.total == 100 && stream.bytesRead == 60) =
        true := by
    decide +kernel
  cases isStream : afterDataThenFin.stream with
  | none =>
      rw [isStream] at recorded
      cases recorded
  | some stream =>
      rw [isStream] at recorded
      have counts := Bool.and_eq_true_iff.1 recorded
      exact
        ⟨stream, rfl, eq_of_beq counts.1, eq_of_beq counts.2,
          accepted_payload_delivered 0 (fun _ => ⟨0, 0, 0⟩)
            run_dataThenFin stream isStream⟩

/-- A FIN without payload is accepted and no write command goes with it. -/
theorem not_writesPayload_bareFin :
    ¬ ∀ (actions : List RingAction) (final : StreamSystem),
        Run (StreamStep 0) emptyStream actions final →
          ∀ stream,
            final.stream = some stream →
              ∀ handled ∈ stream.handled,
                handled.arrival.accepted = true →
                  WritesPayload handled.arrival.segment handled.msgs := by
  intro always
  have bareFin :
      (afterDataThenFin.stream.any fun stream =>
          stream.handled.any fun handled =>
            handled.arrival.accepted &&
              (rxWrites handled.msgs).memCmds == []) =
        true := by
    decide +kernel
  cases isStream : afterDataThenFin.stream with
  | none =>
      rw [isStream] at bareFin
      cases bareFin
  | some stream =>
      rw [isStream] at bareFin
      obtain ⟨handled, member, both⟩ := List.any_eq_true.1 bareFin
      rw [Bool.and_eq_true, beq_iff_eq] at both
      have writes :=
        always dataThenFin afterDataThenFin run_dataThenFin stream isStream
          handled member both.1
      have one := writes.memCmds
      rw [both.2] at one
      cases one

end TcpOffload
