import TcpOffload.ArpServer
import TcpOffload.Library.Guarded
import TcpOffload.Library.Tagged

/-!
# Whose answer a response is

The client's requests and the probes of a scan share one FIFO to the table and
one FIFO back.  The scanner knows whose response it reads only by its own
state, so that a scan that starts while a request is outstanding takes the
client's answer for its own.
-/

namespace TcpOffload

open Guarded Tagged

/-! ## The scanner and the table -/

inductive ArpAsker where
  | client
  | scan
deriving DecidableEq, Repr

/-- What the table answered, to whom and for which address. -/
structure ArpAnswer where
  asker : ArpAsker
  ip : IpAddr
  rsp : ArpTableRsp
deriving DecidableEq, Repr

/-- The table's answer to a request. -/
def ArpTableState.answer (ports : ArpPorts) (state : ArpTableState)
    (reqIp : IpAddr) : ArpTableRsp :=
  let entry := state.arpCacheTable (arpTableIndex (ports.nextHopIp reqIp))
  ⟨entry.macAddr, entry.valid⟩

def ArpScanMsg.toTable : ArpScanMsg → Option IpAddr
  | .macIpEncodeReqOut ip => some ip
  | .macIpEncodeRspOut _ => none

def ArpScanMsg.toClient : ArpScanMsg → Option ArpTableRsp
  | .macIpEncodeReqOut _ => none
  | .macIpEncodeRspOut rsp => some rsp

def ArpTableMsg.toScan : ArpTableMsg → Option ArpTableRsp
  | .macIpEncodeRsp rsp => some rsp
  | .arpRequestedIp _ => none

/-- Who asks what the scanner sends in its next call. -/
def ArpScanState.asker (state : ArpScanState) : ArpAsker :=
  if state.fsmState = .fwd then .client else .scan

/-- The two processes, with who asked each request in the FIFO between them,
the requests and the responses of the client so far, and the answers of the
table. -/
structure ArpSystem where
  scan : ArpScanState
  table : ArpTableState
  asked : List (ArpAsker × IpAddr)
  answers : List ArpAnswer
  requests : List IpAddr
  responses : List ArpTableRsp

inductive ArpAction where
  | genArpScan (ports : ArpPorts)
  | arpTableHandler (ports : ArpPorts)
  | request (ip : IpAddr)
  | insert (entry : ArpTableEntry)
  | setArpScan (value : Bool)
  | writeTable (index : BitVec 8) (entry : ArpTableEntry)

namespace ArpSystem

def start (arpCacheTable : BitVec 8 → ArpTableEntry) : ArpSystem where
  scan := ArpScanState.start
  table := ⟨arpCacheTable, [], []⟩
  asked := []
  answers := []
  requests := []
  responses := []

def callScan (ports : ArpPorts) (system : ArpSystem) : ArpSystem :=
  let called := genArpScan ports system.scan
  let reqs := called.2.filterMap ArpScanMsg.toTable
  { system with
    scan := called.1
    table :=
      { system.table with
        macIpEncodeReqs := system.table.macIpEncodeReqs ++ reqs }
    asked := system.asked ++ send system.scan.asker reqs
    responses :=
      system.responses ++ called.2.filterMap ArpScanMsg.toClient }

def callTable (ports : ArpPorts) (system : ArpSystem) : ArpSystem :=
  let called := arpTableHandler ports system.table
  let left := called.1.macIpEncodeReqs
  { system with
    table := called.1
    scan :=
      { system.scan with
        macIpEncodeRspIn :=
          system.scan.macIpEncodeRspIn ++
            called.2.filterMap ArpTableMsg.toScan }
    asked := unread system.asked left
    answers :=
      system.answers ++
        (taken system.asked left).map fun req =>
          ⟨req.1, req.2, system.table.answer ports req.2⟩ }

def act (system : ArpSystem) : ArpAction → ArpSystem
  | .genArpScan ports => system.callScan ports
  | .arpTableHandler ports => system.callTable ports
  | .request ip =>
      { system with
        scan :=
          { system.scan with
            macIpEncodeReqIn := system.scan.macIpEncodeReqIn ++ [ip] }
        requests := system.requests ++ [ip] }
  | .insert entry =>
      { system with
        table :=
          { system.table with
            arpTableInserts := system.table.arpTableInserts ++ [entry] } }
  | .setArpScan value =>
      { system with scan := { system.scan with arpScan := value } }
  | .writeTable index entry =>
      { system with
        table :=
          { system.table with
            arpCacheTable :=
              Function.update system.table.arpCacheTable index entry } }

/-- The table's answers to the client. -/
def clientAnswers (system : ArpSystem) : List (IpAddr × ArpTableRsp) :=
  (system.answers.filter fun answer => answer.asker = .client).map
    fun answer => (answer.ip, answer.rsp)

/-- The client's requests that the table has not answered. -/
def unanswered (system : ArpSystem) : List IpAddr :=
  ((system.asked.filter fun req => req.1 = .client).map Prod.snd) ++
    system.scan.macIpEncodeReqIn

/-- The responses on their way to the client. -/
def onTheWay (system : ArpSystem) : List ArpTableRsp :=
  if system.scan.fsmState = .fwd then system.scan.macIpEncodeRspIn else []

/-- Each response of the client is the table's answer to the request of the
same number, and each request is answered, once, or still on its way. -/
structure AnswersClient (system : ArpSystem) : Prop where
  own :
    ∀ (k : Nat) (rsp : ArpTableRsp), system.responses[k]? = some rsp →
      ∃ ip,
        system.requests[k]? = some ip ∧
          system.clientAnswers[k]? = some (ip, rsp)
  once :
    system.requests.length =
      system.responses.length + system.onTheWay.length +
        system.unanswered.length

end ArpSystem

/-- The processes are called, requests and table updates arrive and a scan is
asked for, in any order. -/
def ArpStep (system : ArpSystem) (action : ArpAction) (next : ArpSystem) :
    Prop :=
  next = system.act action

/-- A scan starts only when no request of the client is outstanding: none
waits before or behind the scanner, and its last response goes through in the
same call. -/
def ScansIdle (system : ArpSystem) : ArpAction → Prop
  | .genArpScan _ =>
      system.scan.fsmState = .fwd →
        system.scan.startsScan = true →
          system.scan.macIpEncodeReqIn = [] ∧
            system.table.macIpEncodeReqs = [] ∧
            system.scan.macIpEncodeRspIn.length ≤ 1
  | _ => True

instance (system : ArpSystem) :
    ∀ action, Decidable (ScansIdle system action)
  | .genArpScan _ => inferInstanceAs (Decidable (_ → _ → _ ∧ _ ∧ _))
  | .arpTableHandler _ | .request _ | .insert _ | .setArpScan _
  | .writeTable _ _ => isTrue trivial

/-! ## The invariant -/

/-- What is between the scanner and the table: the client's only while it is
forwarded, and during a scan at most one probe or its answer. -/
inductive ScanPhase :
    GenScanFsmState → List (ArpAsker × IpAddr) → List ArpAnswer → Prop
  | forwards {asked : List (ArpAsker × IpAddr)} {left : List ArpAnswer} :
      (∀ req ∈ asked, req.1 = .client) →
      (∀ answer ∈ left, answer.asker = .client) →
      ScanPhase .fwd asked left
  | quiet {state : GenScanFsmState} :
      state ≠ .waitResponse → ScanPhase state [] []
  | asked (ip : IpAddr) : ScanPhase .waitResponse [(.scan, ip)] []
  | answered {answer : ArpAnswer} :
      answer.asker = .scan → ScanPhase .waitResponse [] [answer]

/-- The answers to the client among some answers. -/
def toClient (answers : List ArpAnswer) : List ArpAnswer :=
  answers.filter fun answer => answer.asker = .client

/-- The table has answered what the scanner has read and what it has not. -/
structure ScanKept (system : ArpSystem) (read left : List ArpAnswer) :
    Prop where
  asked : system.table.macIpEncodeReqs = erase system.asked
  answers : system.answers = read ++ left
  rspIn :
    system.scan.macIpEncodeRspIn = left.map fun answer => answer.rsp
  responses :
    system.responses = (toClient read).map fun answer => answer.rsp
  requests :
    system.requests =
      (toClient system.answers).map (fun answer => answer.ip) ++
        system.unanswered
  phase : ScanPhase system.scan.fsmState system.asked left

namespace ScanKept

variable {system : ArpSystem} {read left : List ArpAnswer}

theorem toClient_append (first second : List ArpAnswer) :
    toClient (first ++ second) = toClient first ++ toClient second :=
  List.filter_append _ _

theorem toClient_of_client {answers : List ArpAnswer}
    (allClient : ∀ answer ∈ answers, answer.asker = .client) :
    toClient answers = answers := by
  rw [toClient, List.filter_eq_self]
  simpa using allClient

/-- The answers to the client that are not read are on their way. -/
theorem toClient_left (kept : ScanKept system read left) :
    (toClient left).map (fun answer => answer.rsp) =
      system.onTheWay := by
  have phase := kept.phase
  have rspIn := kept.rspIn
  rw [ArpSystem.onTheWay]
  generalize system.scan.fsmState = state at phase ⊢
  generalize system.asked = asked at phase
  cases phase with
  | forwards _ allClient =>
      rw [if_pos rfl, toClient_of_client allClient, rspIn]
  | quiet =>
      split
      · rw [rspIn]
        rfl
      · rfl
  | asked ip =>
      rfl
  | answered isScan =>
      rw [if_neg (by decide), toClient, List.filter_cons, isScan]
      rfl

theorem answersClient (kept : ScanKept system read left) :
    system.AnswersClient where
  own := by
    intro k rsp isResponse
    rw [kept.responses, List.getElem?_map, Option.map_eq_some_iff]
      at isResponse
    obtain ⟨answer, isAnswer, rfl⟩ := isResponse
    obtain ⟨inRead, _⟩ := List.getElem?_eq_some_iff.1 isAnswer
    have inAll : (toClient system.answers)[k]? = some answer := by
      rw [kept.answers, toClient_append, List.getElem?_append_left inRead]
      exact isAnswer
    obtain ⟨inside, _⟩ := List.getElem?_eq_some_iff.1 inAll
    refine ⟨answer.ip, ?_, ?_⟩
    · rw [kept.requests, List.getElem?_append_left (by simpa using inside),
        List.getElem?_map, inAll]
      rfl
    · rw [ArpSystem.clientAnswers, List.getElem?_map]
      change ((toClient system.answers)[k]?).map _ = _
      rw [inAll]
      rfl
  once := by
    have onTheWay := congrArg List.length kept.toClient_left
    have answers := congrArg (fun all => (toClient all).length) kept.answers
    have requests := congrArg List.length kept.requests
    have responses := congrArg List.length kept.responses
    simp only [toClient_append, List.length_append, List.length_map]
      at onTheWay answers requests responses
    omega

/-! ### One call of each process -/

/-- A call that forwards. -/
theorem callScan_fwd (ports : ArpPorts)
    (fwd : system.scan.fsmState = .fwd) :
    system.callScan ports =
      { system with
        scan :=
          { system.scan with
            macIpEncodeReqIn := system.scan.macIpEncodeReqIn.tail
            macIpEncodeRspIn := system.scan.macIpEncodeRspIn.tail
            arpScan := system.scan.arpScan && !system.scan.startsScan
            arpScan1d := system.scan.arpScan && !system.scan.startsScan
            fsmState :=
              if system.scan.startsScan then .setup else .fwd }
        table :=
          { system.table with
            macIpEncodeReqs :=
              system.table.macIpEncodeReqs ++
                system.scan.macIpEncodeReqIn.take 1 }
        asked :=
          system.asked ++
            send .client (system.scan.macIpEncodeReqIn.take 1)
        responses :=
          system.responses ++ system.scan.macIpEncodeRspIn.take 1 } := by
  obtain ⟨⟨fsmState, timeCounter, ipLsb, arpScan1d, arpScan, reqIn, rspIn⟩,
    table, asked, answers, requests, responses⟩ := system
  change fsmState = .fwd at fwd
  subst fwd
  rw [ArpSystem.callScan, genArpScan, ArpScanState.run]
  dsimp only
  rw [ArpScanState.forward]
  cases reqIn <;> cases rspIn <;> split <;>
    simp_all [ArpScanMsg.toTable, ArpScanMsg.toClient,
      ArpScanState.asker, List.filterMap_cons]

theorem client_of_fwd (kept : ScanKept system read left)
    (fwd : system.scan.fsmState = .fwd) :
    (∀ req ∈ system.asked, req.1 = .client) ∧
      ∀ answer ∈ left, answer.asker = .client := by
  have phase := kept.phase
  rw [fwd] at phase
  generalize system.asked = asked at phase
  cases phase with
  | forwards allClient leftClient =>
      exact ⟨allClient, leftClient⟩
  | quiet =>
      exact ⟨by simp, by simp⟩

/-- One request and one response go through. -/
theorem forward (kept : ScanKept system read left)
    (ports : ArpPorts) (fwd : system.scan.fsmState = .fwd)
    (idle :
      system.scan.startsScan = true →
        system.scan.macIpEncodeReqIn = [] ∧
          system.table.macIpEncodeReqs = [] ∧
          system.scan.macIpEncodeRspIn.length ≤ 1) :
    ScanKept (system.callScan ports) (read ++ left.take 1) left.tail := by
  obtain ⟨askedClient, leftClient⟩ := kept.client_of_fwd fwd
  rw [callScan_fwd ports fwd]
  exact
    { asked := by
        simp [erase, send, kept.asked, Function.comp_def]
      answers := by
        change system.answers = _
        rw [kept.answers, List.append_assoc]
        cases left <;> rfl
      rspIn := by
        change system.scan.macIpEncodeRspIn.tail = _
        rw [kept.rspIn, List.map_tail]
      responses := by
        change
          system.responses ++ system.scan.macIpEncodeRspIn.take 1 = _
        rw [toClient_append, List.map_append, kept.responses, kept.rspIn,
          toClient_of_client fun answer member =>
            leftClient answer (List.mem_of_mem_take member),
          List.map_take]
      requests := by
        change system.requests = _
        rw [kept.requests]
        congr 1
        simp only [ArpSystem.unanswered]
        cases system.scan.macIpEncodeReqIn with
        | nil =>
            simp [send]
        | cons first later =>
            simp [send]
      phase := by
        change
          ScanPhase (if system.scan.startsScan then .setup else .fwd)
            (system.asked ++
              send .client (system.scan.macIpEncodeReqIn.take 1))
            left.tail
        by_cases starts : system.scan.startsScan = true
        · obtain ⟨noReqIn, noReqs, oneRsp⟩ := idle starts
          rw [kept.asked] at noReqs
          rw [if_pos starts, noReqIn, eq_nil_of_erase noReqs]
          have noneLeft : left.tail = [] := by
            rw [kept.rspIn, List.length_map] at oneRsp
            exact List.eq_nil_of_length_eq_zero (by
              rw [List.length_tail]
              omega)
          rw [noneLeft]
          exact ScanPhase.quiet (by decide)
        · rw [if_neg starts]
          refine ScanPhase.forwards ?_ ?_
          · intro req member
            rcases List.mem_append.1 member with before | isNew
            · exact askedClient req before
            · obtain ⟨_, _, rfl⟩ := List.mem_map.1 isNew
              rfl
          · intro answer member
            exact leftClient answer (List.mem_of_mem_tail member) }

/-- A call of the scanner outside of forwarding that sends nothing to the
table and has read what it leaves out. -/
theorem silent (kept : ScanKept system read left)
    {scan : ArpScanState} {others rest : List ArpAnswer}
    (reqIn : scan.macIpEncodeReqIn = system.scan.macIpEncodeReqIn)
    (rspIn : scan.macIpEncodeRspIn = rest.map fun answer => answer.rsp)
    (isLeft : left = others ++ rest)
    (notClient : toClient others = [])
    (phase : ScanPhase scan.fsmState system.asked rest) :
    ScanKept { system with scan := scan } (read ++ others) rest where
  asked := kept.asked
  answers := by
    change system.answers = _
    rw [kept.answers, isLeft, List.append_assoc]
  rspIn := rspIn
  responses := by
    rw [toClient_append, notClient, List.append_nil]
    exact kept.responses
  requests := by
    have requests := kept.requests
    rw [ArpSystem.unanswered] at requests ⊢
    rw [reqIn]
    exact requests
  phase := phase

theorem scans (kept : ScanKept system read left)
    (ports : ArpPorts) (notFwd : system.scan.fsmState ≠ .fwd) :
    ∃ read left, ScanKept (system.callScan ports) read left := by
  have phase := kept.phase
  have called (scan : ArpScanState)
      (runs : system.scan.run ports = (scan, [])) :
      system.callScan ports =
        { system with scan := { scan with arpScan1d := scan.arpScan } } := by
    rw [ArpSystem.callScan, genArpScan, runs]
    simp [send]
  cases state : system.scan.fsmState with
  | fwd =>
      exact absurd state notFwd
  | setup =>
      rw [state] at phase
      rw [called
        { system.scan with ipLsb := 0, fsmState := .genIp }
        (by rw [ArpScanState.run, state])]
      refine
        ⟨_, _, @silent _ _ _ kept _ [] left rfl kept.rspIn rfl rfl ?_⟩
      change ScanPhase .genIp system.asked left
      generalize system.asked = asked at phase ⊢
      cases phase
      exact ScanPhase.quiet (by decide)
  | waitTime =>
      rw [state] at phase
      rw [called
        { system.scan with
          fsmState :=
            if system.scan.timeCounter = arpMaxCount then
              .genIp
            else
              .waitTime
          timeCounter := system.scan.timeCounter + 1 }
        (by rw [ArpScanState.run, state])]
      refine
        ⟨_, _, @silent _ _ _ kept _ [] left rfl kept.rspIn rfl rfl ?_⟩
      dsimp only
      generalize system.asked = asked at phase ⊢
      cases phase
      split
      · exact ScanPhase.quiet (by decide)
      · exact ScanPhase.quiet (by decide)
  | genIp =>
      rw [state] at phase
      have nothing : system.asked = [] ∧ left = [] := by
        generalize system.asked = asked at phase ⊢
        cases phase
        exact ⟨rfl, rfl⟩
      obtain ⟨noneAsked, noneLeft⟩ := nothing
      have asksScan : system.scan.asker = .scan := by
        rw [ArpScanState.asker, if_neg notFwd]
      refine ⟨read, left, ?_⟩
      rw [ArpSystem.callScan, genArpScan, ArpScanState.run, state, asksScan]
      refine
        { asked := ?_
          answers := kept.answers
          rspIn := kept.rspIn
          responses := ?_
          requests := ?_
          phase := ?_ }
      · simp [erase, send, kept.asked, ArpScanMsg.toTable]
      · simpa [ArpScanMsg.toClient, List.filterMap_cons]
          using kept.responses
      · simpa [ArpSystem.unanswered, send, ArpScanMsg.toTable]
          using kept.requests
      · dsimp only
        rw [noneAsked, noneLeft]
        exact ScanPhase.asked _
  | waitResponse =>
      rw [state] at phase
      cases hasRsp : system.scan.macIpEncodeRspIn with
      | nil =>
          rw [called system.scan
            (by rw [ArpScanState.run, state]; dsimp only; rw [hasRsp])]
          refine
            ⟨_, _, @silent _ _ _ kept _ [] left rfl kept.rspIn rfl rfl ?_⟩
          rw [state]
          exact phase
      | cons rsp later =>
          rw [called
            { system.scan with
              macIpEncodeRspIn := later
              fsmState := if system.scan.ipLsb = 0 then .fwd else .genIp }
            (by rw [ArpScanState.run, state]; dsimp only; rw [hasRsp])]
          have rspIn := kept.rspIn
          rw [hasRsp] at rspIn
          have probe :
              system.asked = [] ∧ later = [] ∧ toClient left = [] := by
            generalize system.asked = asked at phase ⊢
            cases phase with
            | quiet notWaiting =>
                exact absurd rfl notWaiting
            | asked =>
                cases rspIn
            | answered isScan =>
                cases rspIn
                simp [toClient, isScan]
          obtain ⟨noneAsked, noneLater, notClient⟩ := probe
          refine
            ⟨_, _,
              @silent _ _ _ kept _ left [] rfl noneLater
                (List.append_nil _).symm notClient ?_⟩
          dsimp only
          rw [noneAsked]
          split
          · exact ScanPhase.quiet (by decide)
          · exact ScanPhase.quiet (by decide)

/-- The table answers the oldest request. -/
theorem callTable (kept : ScanKept system read left) (ports : ArpPorts) :
    ∃ left, ScanKept (system.callTable ports) read left := by
  cases inserts : system.table.arpTableInserts with
  | cons entry later =>
      refine ⟨left, ?_⟩
      have asked := kept.asked
      rw [ArpSystem.callTable, arpTableHandler, inserts]
      dsimp only
      rw [asked, unread_erase, taken_erase]
      refine
        { asked := rfl
          answers := ?_
          rspIn := ?_
          responses := kept.responses
          requests := ?_
          phase := kept.phase }
      · simpa using kept.answers
      · simpa using kept.rspIn
      · simpa [ArpSystem.unanswered] using kept.requests
  | nil =>
      cases reqs : system.table.macIpEncodeReqs with
      | nil =>
          have noneAsked : system.asked = [] :=
            eq_nil_of_erase (kept.asked.symm.trans reqs)
          have same : system.callTable ports = system := by
            simp [ArpSystem.callTable, arpTableHandler, inserts, reqs,
              noneAsked]
            rw [← noneAsked]
          rw [same]
          exact ⟨left, kept⟩
      | cons ip later =>
          obtain ⟨asker, rest, isAsked, isTaken, isUnread⟩ :=
            of_erase_cons (kept.asked.symm.trans reqs)
          refine
            ⟨left ++ [⟨asker, ip, system.table.answer ports ip⟩], ?_⟩
          have handled :
              system.callTable ports =
                { system with
                  table := { system.table with macIpEncodeReqs := later }
                  scan :=
                    { system.scan with
                      macIpEncodeRspIn :=
                        system.scan.macIpEncodeRspIn ++
                          [system.table.answer ports ip] }
                  asked := rest
                  answers :=
                    system.answers ++
                      [⟨asker, ip, system.table.answer ports ip⟩] } := by
            rw [ArpSystem.callTable, arpTableHandler, inserts, reqs]
            dsimp only
            rw [isUnread, isTaken]
            split <;>
              simp [ArpTableMsg.toScan, List.filterMap_cons,
                ArpTableState.answer, inserts]
          have phase := kept.phase
          rw [isAsked] at phase
          rw [handled]
          refine
            { asked := ?_
              answers := ?_
              rspIn := ?_
              responses := kept.responses
              requests := ?_
              phase := ?_ }
          · have asked := kept.asked
            rw [reqs, isAsked] at asked
            exact (List.cons.inj asked).2
          · change system.answers ++ _ = _
            rw [kept.answers, List.append_assoc]
          · change system.scan.macIpEncodeRspIn ++ _ = _
            rw [kept.rspIn, List.map_append]
            rfl
          · have requests := kept.requests
            rw [ArpSystem.unanswered, isAsked] at requests
            change system.requests = _
            rw [requests, toClient_append]
            cases asker <;> simp [ArpSystem.unanswered, toClient]
          · generalize system.scan.fsmState = state at phase ⊢
            cases phase with
            | forwards askedClient leftClient =>
                have isClient : asker = .client :=
                  askedClient (asker, ip) List.mem_cons_self
                refine ScanPhase.forwards ?_ ?_
                · intro req member
                  exact askedClient req (List.mem_cons_of_mem _ member)
                · intro answer member
                  rcases List.mem_append.1 member with before | isNew
                  · exact leftClient answer before
                  · rw [List.mem_singleton.1 isNew]
                    exact isClient
            | asked =>
                exact ScanPhase.answered rfl

end ScanKept

/-! ## Every run -/

/-- Some of the table's answers are read and the others are not. -/
def ArpSystem.Scanned (system : ArpSystem) : Prop :=
  ∃ read left, ScanKept system read left

theorem scanned_step {system next : ArpSystem} {action : ArpAction}
    (scanned : system.Scanned) (idle : ScansIdle system action)
    (stepped : ArpStep system action next) : next.Scanned := by
  obtain ⟨read, left, kept⟩ := scanned
  rw [show next = system.act action from stepped]
  cases action with
  | genArpScan ports =>
      by_cases fwd : system.scan.fsmState = .fwd
      · exact ⟨_, _, kept.forward ports fwd (idle fwd)⟩
      · exact kept.scans ports fwd
  | arpTableHandler ports =>
      obtain ⟨later, answered⟩ := kept.callTable ports
      exact ⟨read, later, answered⟩
  | request ip =>
      refine
        ⟨read, left, kept.asked, kept.answers, kept.rspIn, kept.responses,
          ?_, kept.phase⟩
      change system.requests ++ [ip] = _
      rw [kept.requests]
      simp [ArpSystem.act, ArpSystem.unanswered]
  | insert entry | setArpScan value | writeTable index entry =>
      exact
        ⟨read, left, kept.asked, kept.answers, kept.rspIn, kept.responses,
          kept.requests, kept.phase⟩

theorem scanned_start (arpCacheTable : BitVec 8 → ArpTableEntry) :
    (ArpSystem.start arpCacheTable).Scanned :=
  ⟨[], [], rfl, rfl, rfl, rfl, rfl,
    ScanPhase.quiet (show GenScanFsmState.fwd ≠ .waitResponse by decide)⟩

/-- In every run in which scans start only when no request of the client is
outstanding, each response of the client is the table's answer to the request
of the same number, and each request is answered once. -/
theorem answersClient_run (arpCacheTable : BitVec 8 → ArpTableEntry)
    (actions : List ArpAction) (final : ArpSystem)
    (idle :
      Along ArpStep ScansIdle (ArpSystem.start arpCacheTable) actions)
    (run : Run ArpStep (ArpSystem.start arpCacheTable) actions final) :
    final.AnswersClient := by
  have preserved (system : ArpSystem) (action : ArpAction)
      (next : ArpSystem) (scanned : system.Scanned)
      (idleHere : ScansIdle system action)
      (stepped : ArpStep system action next) : next.Scanned :=
    scanned_step scanned idleHere stepped
  have scanned : final.Scanned :=
    invariant_of_run preserved (scanned_start arpCacheTable) idle run
  obtain ⟨read, left, kept⟩ := scanned
  exact kept.answersClient

def arpPorts : ArpPorts :=
  ⟨0x010A0A0A, 0xFE0A0A0A, 0x00FFFFFF⟩

/-- The table knows the address with the last number 5. -/
def oneKnown : BitVec 8 → ArpTableEntry :=
  fun index => if index = 5 then ⟨0x55, 0x050A0A0A, true⟩ else ⟨0, 0, false⟩

/-- One round of both processes. -/
def arpRound : List ArpAction :=
  [.genArpScan arpPorts, .arpTableHandler arpPorts]

/-- A request before a scan, and one three rounds after its start. -/
def scanBetween : List ArpAction :=
  [.request 0x050A0A0A] ++ arpRound ++ arpRound ++ [.setArpScan true] ++
    arpRound ++ arpRound ++ arpRound ++ [.request 0x060A0A0A]

theorem answersClient_scanBetween :
    (scanBetween.foldl ArpSystem.act
      (ArpSystem.start oneKnown)).AnswersClient := by
  refine
    answersClient_run oneKnown scanBetween _
      (Enabled.along (fun _ _ _ stepped => stepped) ?_)
      (@Enabled.run _ _ ArpStep ArpSystem.act (fun _ _ => True)
        (fun _ _ _ => rfl) _ _ ?_)
  · decide +kernel
  · decide +kernel

/-- The client's request goes to the table in the call that starts the scan.
-/
def scanMeanwhile : List ArpAction :=
  [.request 0x050A0A0A, .setArpScan true] ++ arpRound ++
    [.genArpScan arpPorts] ++
    (List.replicate 256
      [.genArpScan arpPorts, .genArpScan arpPorts,
        .arpTableHandler arpPorts]).flatten ++
    [.genArpScan arpPorts]

/-- Its response is then the answer to the last probe. -/
theorem not_answersClient_scanMeanwhile :
    ¬∀ arpCacheTable actions final,
        Run ArpStep (ArpSystem.start arpCacheTable) actions final →
          final.AnswersClient := by
  intro allAnswered
  have run :
      Run ArpStep (ArpSystem.start oneKnown) scanMeanwhile
        (scanMeanwhile.foldl ArpSystem.act (ArpSystem.start oneKnown)) :=
    @Enabled.run _ _ ArpStep ArpSystem.act (fun _ _ => True)
      (fun _ _ _ => rfl) _ _ (by decide +kernel)
  have outcome :
      (scanMeanwhile.foldl ArpSystem.act
            (ArpSystem.start oneKnown)).responses =
          [⟨0, false⟩] ∧
        (scanMeanwhile.foldl ArpSystem.act
            (ArpSystem.start oneKnown)).clientAnswers =
          [(0x050A0A0A, ⟨0x55, true⟩)] := by
    decide +kernel
  obtain ⟨given, answered⟩ := outcome
  obtain ⟨ip, _, wrong⟩ :=
    (allAnswered _ _ _ run).own 0 ⟨0, false⟩ (by rw [given]; rfl)
  rw [answered] at wrong
  cases wrong

end TcpOffload
