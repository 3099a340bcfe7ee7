import TcpOffload.Library.Queues
import TcpOffload.Library.Guarded
import TcpOffload.RxEngine.Dropper
import TcpOffload.RxEngine.MetaHandler
import TcpOffload.RxEngine.VerifyChecksum

/-!
# The way of a payload frame

`RxEngVerifyChecksumAndPort`, `RxEngTcpMetaHandler` and `RxEngTcpFsm` each
write a decision for some of the packets, and `RxEngTcpPayloadDropper` pairs
the decisions with the payload frames by counting.  The three and the tables
they ask run side by side here, in any order.
-/

namespace TcpOffload

open Framing Guarded
open Queues

/-! ## Packets and what is found about them -/

/-- A packet as the parser hands it on: a record, the checksum of the
segment, and one payload frame if there is payload. -/
structure ParsedPacket where
  segMeta : TcpPseudoHeaderMeta
  checksum : BitVec 16
  frame : List NetAXISWord
  framed :
    if segMeta.header.hasPayload then
      Delimited NetAXISWord.last frame
    else
      frame = []

/-- What the modules that are asked answer: each answer depends on the
question and on how many were asked before. -/
structure RxAnswers where
  ptable : Nat → TcpPortNumber → PtableToRxEngRsp
  slookup : Nat → RxEngToSlookupReq → SessionLookupRsp
  accepts : Nat → RxEngFsmMetaData → Bool

/-- A packet with the answers to its own questions. -/
structure RxVerdict where
  packet : ParsedPacket
  port : PtableToRxEngRsp
  session : SessionLookupRsp
  accepted : Bool

namespace RxVerdict

variable (verdict : RxVerdict)

def segMeta : TcpPseudoHeaderMeta :=
  verdict.packet.segMeta

def checksum : BitVec 16 :=
  verdict.packet.checksum

def frame : List NetAXISWord :=
  verdict.packet.frame

def roleId : NetAXISDest :=
  verdict.port.roleId

def hasPayload : Bool :=
  verdict.segMeta.header.hasPayload

def valid : Bool :=
  verdict.checksum == 0

def isOpen : Bool :=
  verdict.port.isOpen

def hits : Bool :=
  verdict.port.isOpen && verdict.session.hit

/-- Checksum 0, an open port, a session, and accepted by the machine. -/
def forwards : Bool :=
  verdict.valid && verdict.hits && verdict.accepted

def portReq : TcpPortNumber :=
  swapByte verdict.segMeta.destPort

def slookupReq : RxEngToSlookupReq :=
  verdict.segMeta.slookupReq verdict.roleId

def record : RxEngFsmMetaData :=
  ⟨verdict.session.sessionId, verdict.segMeta.srcIp,
    verdict.segMeta.destPort, verdict.segMeta.header⟩

/-- What becomes of words of the payload. -/
def routed (words : List NetAXISWord) : List NetAXISWord :=
  if verdict.forwards then
    words.map fun word => { word with dest := verdict.roleId }
  else
    []

end RxVerdict

/-- A packet with the answers to the next questions. -/
def judgeNext
    (answers : RxAnswers) (ports sessions decisions : Nat)
    (packet : ParsedPacket) : RxVerdict :=
  let port := answers.ptable ports (swapByte packet.segMeta.destPort)
  let session :=
    answers.slookup sessions (packet.segMeta.slookupReq port.roleId)
  { packet := packet
    port := port
    session := session
    accepted :=
      answers.accepts decisions
        ⟨session.sessionId, packet.segMeta.srcIp, packet.segMeta.destPort,
          packet.segMeta.header⟩ }

/-- The packets with their answers.  A port is asked about for each valid
packet, a session for each open port, and the machine decides for each
payload of a session. -/
def judge (answers : RxAnswers) :
    Nat → Nat → Nat → List ParsedPacket → List RxVerdict
  | _, _, _, [] => []
  | ports, sessions, decisions, packet :: later =>
      let verdict := judgeNext answers ports sessions decisions packet
      verdict ::
        judge answers
          (ports + verdict.valid.toNat)
          (sessions + (verdict.valid && verdict.isOpen).toNat)
          (decisions +
            (verdict.valid && verdict.hits && verdict.hasPayload).toNat)
          later

/-- The words taken from the payload queue are whole frames and the start of
the next one, and of each frame all or none is forwarded. -/
inductive Routed :
    List RxVerdict → List NetAXISWord → List NetAXISWord → Prop
  | nil : Routed [] [] []
  | inside {verdict : RxVerdict} {later : List RxVerdict}
      {part rest : List NetAXISWord} :
      verdict.frame = part ++ rest →
      Routed (verdict :: later) part (verdict.routed part)
  | next {verdict : RxVerdict} {later : List RxVerdict}
      {taken out : List NetAXISWord} :
      Routed later taken out →
      Routed (verdict :: later) (verdict.frame ++ taken)
        (verdict.routed verdict.frame ++ out)

/-! ## The modules side by side -/

/-- Beside the modules: what is still on its way to them, how many questions
were answered, and the words that the dropper has read and written. -/
structure PayloadSystem where
  records : List TcpPseudoHeaderMeta
  checksums : List (BitVec 16)
  words : List NetAXISWord
  verify : VerifyState
  portReqs : List TcpPortNumber
  portsAnswered : Nat
  metaHandler : MetaHandlerState
  slookupReqs : List RxEngToSlookupReq
  sessionsAnswered : Nat
  fsmMetas : List RxEngFsmMetaData
  decided : Nat
  dropper : RxDropperState
  taken : List NetAXISWord
  out : List NetAXISWord

inductive PayloadAction where
  | passRecord
  | passChecksum
  | passWord
  | rxEngVerifyChecksumAndPort
  | ptable
  | rxEngTcpMetaHandler
  | slookup
  | rxEngTcpFsm
  | rxEngTcpPayloadDropper
deriving DecidableEq, Repr

def VerifyMsg.toDropper : VerifyMsg → Option Bool
  | .droppedByChecksum drop => some drop
  | _ => none

namespace MetaHandlerMsg

def toFsm : MetaHandlerMsg → Option RxEngFsmMetaData
  | .fsmMetaData metaData _ => some metaData
  | _ => none

def toDropper : MetaHandlerMsg → Option Bool
  | .payloadDropped drop => some drop
  | _ => none

def toTdest : MetaHandlerMsg → Option NetAXISDest
  | .payloadTdest tdest => some tdest
  | _ => none

end MetaHandlerMsg

namespace PayloadSystem

/-- The packets are on their way; the registers hold anything. -/
def start (packets : List ParsedPacket) (reg : TcpPseudoHeaderMeta)
    (metaReg : MetaHandlerState) (roleId : NetAXISDest) :
    PayloadSystem where
  records := packets.map ParsedPacket.segMeta
  checksums := packets.map ParsedPacket.checksum
  words := packets.flatMap ParsedPacket.frame
  verify := ⟨.readMetaInfo, reg, [], []⟩
  portReqs := []
  portsAnswered := 0
  metaHandler :=
    { metaReg with
      fsmState := .metaState
      tcpMetaDataIn := []
      ptableRsps := []
      slookupRsps := [] }
  slookupReqs := []
  sessionsAnswered := 0
  fsmMetas := []
  decided := 0
  dropper := ⟨.rdVerifyChecksum, roleId, [], [], [], [], []⟩
  taken := []
  out := []

/-- `msgs` of `RxEngVerifyChecksumAndPort` reach their readers. -/
def afterVerify
    (system : PayloadSystem) (verify : VerifyState)
    (msgs : List VerifyMsg) : PayloadSystem :=
  { system with
    verify := verify
    portReqs := system.portReqs ++ msgs.filterMap VerifyMsg.toCheckReq
    metaHandler :=
      { system.metaHandler with
        tcpMetaDataIn :=
          system.metaHandler.tcpMetaDataIn ++
            msgs.filterMap VerifyMsg.toMeta }
    dropper :=
      { system.dropper with
        droppedByChecksum :=
          system.dropper.droppedByChecksum ++
            msgs.filterMap VerifyMsg.toDropper } }

/-- `msgs` of `RxEngTcpMetaHandler` reach their readers. -/
def afterMetaHandler
    (system : PayloadSystem) (metaHandler : MetaHandlerState)
    (msgs : List MetaHandlerMsg) : PayloadSystem :=
  { system with
    metaHandler := metaHandler
    slookupReqs :=
      system.slookupReqs ++ msgs.filterMap MetaHandlerMsg.toSlookup
    fsmMetas := system.fsmMetas ++ msgs.filterMap MetaHandlerMsg.toFsm
    dropper :=
      { system.dropper with
        droppedByPortOrSession :=
          system.dropper.droppedByPortOrSession ++
            msgs.filterMap MetaHandlerMsg.toDropper
        tcpPayloadTdest :=
          system.dropper.tcpPayloadTdest ++
            msgs.filterMap MetaHandlerMsg.toTdest } }

/-- The words that a call of the dropper reads. -/
def readWords (state : RxDropperState) : List NetAXISWord :=
  match state.fsmState with
  | .fwd | .drop => state.tcpPayloadIn.take 1
  | _ => []

/-- The port table answers the oldest question. -/
def answerPort (answers : RxAnswers) (system : PayloadSystem) :
    PayloadSystem :=
  match system.portReqs with
  | [] => system
  | req :: later =>
      { system with
        portReqs := later
        portsAnswered := system.portsAnswered + 1
        metaHandler :=
          { system.metaHandler with
            ptableRsps :=
              system.metaHandler.ptableRsps ++
                [answers.ptable system.portsAnswered req] } }

/-- The session lookup answers the oldest question. -/
def answerSession (answers : RxAnswers) (system : PayloadSystem) :
    PayloadSystem :=
  match system.slookupReqs with
  | [] => system
  | req :: later =>
      { system with
        slookupReqs := later
        sessionsAnswered := system.sessionsAnswered + 1
        metaHandler :=
          { system.metaHandler with
            slookupRsps :=
              system.metaHandler.slookupRsps ++
                [answers.slookup system.sessionsAnswered req] } }

/-- The machine takes the oldest record, and decides if it carries payload. -/
def decideRecord (answers : RxAnswers) (system : PayloadSystem) :
    PayloadSystem :=
  match system.fsmMetas with
  | [] => system
  | metaData :: later =>
      if metaData.header.hasPayload then
        { system with
          fsmMetas := later
          decided := system.decided + 1
          dropper :=
            { system.dropper with
              droppedByRxFsm :=
                system.dropper.droppedByRxFsm ++
                  [!answers.accepts system.decided metaData] } }
      else
        { system with fsmMetas := later }

def act (answers : RxAnswers) (system : PayloadSystem) :
    PayloadAction → PayloadSystem
  | .passRecord =>
      match system.records with
      | [] => system
      | segMeta :: later =>
          { system with
            records := later
            verify :=
              { system.verify with
                tcpMetaDataIn :=
                  system.verify.tcpMetaDataIn ++ [segMeta] } }
  | .passChecksum =>
      match system.checksums with
      | [] => system
      | checksum :: later =>
          { system with
            checksums := later
            verify :=
              { system.verify with
                tcpChecksumIn :=
                  system.verify.tcpChecksumIn ++ [checksum] } }
  | .passWord =>
      match system.words with
      | [] => system
      | word :: later =>
          { system with
            words := later
            dropper :=
              { system.dropper with
                tcpPayloadIn := system.dropper.tcpPayloadIn ++ [word] } }
  | .rxEngVerifyChecksumAndPort =>
      let called := TcpOffload.rxEngVerifyChecksumAndPort system.verify
      system.afterVerify called.1 called.2
  | .ptable => system.answerPort answers
  | .rxEngTcpMetaHandler =>
      let called := TcpOffload.rxEngTcpMetaHandler system.metaHandler
      system.afterMetaHandler called.1 called.2
  | .slookup => system.answerSession answers
  | .rxEngTcpFsm => system.decideRecord answers
  | .rxEngTcpPayloadDropper =>
      let called := TcpOffload.rxEngTcpPayloadDropper system.dropper
      { system with
        dropper := called.1
        taken := system.taken ++ readWords system.dropper
        out := system.out ++ called.2 }

/-- No module can do anything any more. -/
def Quiet (answers : RxAnswers) (system : PayloadSystem) : Prop :=
  ∀ action, system.act answers action = system

end PayloadSystem

def PayloadStep (answers : RxAnswers)
    (system : PayloadSystem) (action : PayloadAction)
    (next : PayloadSystem) : Prop :=
  next = system.act answers action

/-! ## The order of the answers -/

/-- The answers to come are the ones the packets were judged by. -/
def PortsFrom (answers : RxAnswers) : Nat → List RxVerdict → Prop
  | _, [] => True
  | count, verdict :: later =>
      verdict.port = answers.ptable count verdict.portReq ∧
        PortsFrom answers (count + 1) later

def SessionsFrom (answers : RxAnswers) : Nat → List RxVerdict → Prop
  | _, [] => True
  | count, verdict :: later =>
      verdict.session = answers.slookup count verdict.slookupReq ∧
        SessionsFrom answers (count + 1) later

def DecisionsFrom (answers : RxAnswers) : Nat → List RxVerdict → Prop
  | _, [] => True
  | count, verdict :: later =>
      verdict.accepted = answers.accepts count verdict.record ∧
        DecisionsFrom answers (count + 1) later

section Judge

variable (answers : RxAnswers) (packets : List ParsedPacket)
variable (ports sessions decisions : Nat)

theorem judge_packets :
    (judge answers ports sessions decisions packets).map
        RxVerdict.packet =
      packets := by
  induction packets generalizing ports sessions decisions with
  | nil =>
      rfl
  | cons packet later inductionHypothesis =>
      rw [judge, List.map_cons, inductionHypothesis]
      rfl

theorem portsFrom_judge :
    PortsFrom answers ports
      ((judge answers ports sessions decisions packets).filter
        RxVerdict.valid) := by
  induction packets generalizing ports sessions decisions with
  | nil =>
      trivial
  | cons packet later inductionHypothesis =>
      rw [judge, List.filter_cons]
      split
      · rename_i isValid
        rw [isValid]
        exact ⟨rfl, inductionHypothesis _ _ _⟩
      · rename_i notValid
        rw [Bool.eq_false_iff.2 notValid]
        exact inductionHypothesis _ _ _

theorem sessionsFrom_judge :
    SessionsFrom answers sessions
      (((judge answers ports sessions decisions packets).filter
        RxVerdict.valid).filter RxVerdict.isOpen) := by
  simp only [List.filter_filter]
  induction packets generalizing ports sessions decisions with
  | nil =>
      trivial
  | cons packet later inductionHypothesis =>
      rw [judge, List.filter_cons]
      split
      · rename_i both
        rw [Bool.and_comm, both]
        exact ⟨rfl, inductionHypothesis _ _ _⟩
      · rename_i notBoth
        rw [Bool.and_comm, Bool.eq_false_iff.2 notBoth]
        exact inductionHypothesis _ _ _

theorem decisionsFrom_judge :
    DecisionsFrom answers decisions
      ((((judge answers ports sessions decisions packets).filter
        RxVerdict.valid).filter RxVerdict.hits).filter
          RxVerdict.hasPayload) := by
  simp only [List.filter_filter]
  induction packets generalizing ports sessions decisions with
  | nil =>
      trivial
  | cons packet later inductionHypothesis =>
      have decided :
          (judgeNext answers ports sessions decisions packet).accepted =
            answers.accepts decisions
              (judgeNext answers ports sessions decisions packet).record :=
        rfl
      rw [judge]
      generalize judgeNext answers ports sessions decisions packet =
        verdict at decided
      have sameOrder :
          (verdict.hasPayload && (verdict.hits && verdict.valid)) =
            (verdict.valid && verdict.hits && verdict.hasPayload) := by
        rw [Bool.and_comm, Bool.and_comm verdict.hits]
      rw [List.filter_cons, sameOrder]
      split
      · rename_i all
        rw [all]
        exact ⟨decided, inductionHypothesis _ _ _⟩
      · rename_i notAll
        rw [Bool.eq_false_iff.2 notAll]
        exact inductionHypothesis _ _ _

end Judge

/-! ## How far each module has come -/

/-- The packets that each module has still to see.  `unread` and `unverified`
are those of `RxEngVerifyChecksumAndPort`, before and behind its register,
`unasked` those of the port table, `untaken` and `unhandled` those of
`RxEngTcpMetaHandler`, `unlooked` those of the session lookup, `undecided`
those of `RxEngTcpFsm`, and `unrouted` those of the dropper.  Of these,
`unchecked`, `unmet` and `unjudged` are those of which it has still to read
the decision on the checksum, the one on port and session, and the one of the
machine; `part` is what it has read of the first payload. -/
structure Stages where
  unread : List RxVerdict
  unverified : List RxVerdict
  unasked : List RxVerdict
  untaken : List RxVerdict
  unhandled : List RxVerdict
  unlooked : List RxVerdict
  undecided : List RxVerdict
  routed : List RxVerdict
  unrouted : List RxVerdict
  unchecked : List RxVerdict
  unmet : List RxVerdict
  unjudged : List RxVerdict
  part : List NetAXISWord

/-- The register of `RxEngVerifyChecksumAndPort` holds at most one packet. -/
inductive VerifyPhase :
    RxVerifyFsmState → TcpPseudoHeaderMeta →
      List RxVerdict → List RxVerdict → Prop
  | readMetaInfo (reg : TcpPseudoHeaderMeta) (unread : List RxVerdict) :
      VerifyPhase .readMetaInfo reg unread unread
  | readChecksum (verdict : RxVerdict) (unread : List RxVerdict) :
      VerifyPhase .readChecksum verdict.segMeta unread
        (verdict :: unread)

/-- The registers of `RxEngTcpMetaHandler` hold at most one packet, to an
open port. -/
inductive MetaPhase :
    RxTcpMetaFsmState → TcpPseudoHeaderMeta → PtableToRxEngRsp →
      List RxVerdict → List RxVerdict → Prop
  | metaState (reg : TcpPseudoHeaderMeta) (portReg : PtableToRxEngRsp)
      (untaken : List RxVerdict) :
      MetaPhase .metaState reg portReg untaken untaken
  | lookup {verdict : RxVerdict} (untaken : List RxVerdict) :
      verdict.isOpen = true →
      MetaPhase .lookup verdict.segMeta verdict.port untaken
        (verdict :: untaken)

/-- How far the dropper is with the first of the `unrouted` packets: the
packets of which it has still to read each kind of decision, then the words
still to be read, and those of the first packet that it has read. -/
inductive DropperPhase :
    RxDropperFsmState → NetAXISDest → List RxVerdict →
      List RxVerdict → List RxVerdict → List RxVerdict →
      List NetAXISWord → List NetAXISWord → Prop
  | rdVerifyChecksum (roleId : NetAXISDest) (unrouted : List RxVerdict) :
      DropperPhase .rdVerifyChecksum roleId unrouted
        unrouted unrouted unrouted (unrouted.flatMap RxVerdict.frame) []
  | rdMetaHandler (roleId : NetAXISDest) {verdict : RxVerdict}
      (later : List RxVerdict) :
      verdict.valid = true →
      DropperPhase .rdMetaHandler roleId (verdict :: later)
        later (verdict :: later) (verdict :: later)
        ((verdict :: later).flatMap RxVerdict.frame) []
  | rdFsmDrop {verdict : RxVerdict} (later : List RxVerdict) :
      verdict.valid = true →
      verdict.hits = true →
      DropperPhase .rdFsmDrop verdict.roleId (verdict :: later)
        later later (verdict :: later)
        ((verdict :: later).flatMap RxVerdict.frame) []
  | fwd {verdict : RxVerdict} (later : List RxVerdict)
      {part rest : List NetAXISWord} :
      verdict.forwards = true →
      verdict.frame = part ++ rest →
      Delimited NetAXISWord.last rest →
      DropperPhase .fwd verdict.roleId (verdict :: later)
        later later later (rest ++ later.flatMap RxVerdict.frame) part
  | drop (roleId : NetAXISDest) {verdict : RxVerdict}
      (later : List RxVerdict) {part rest : List NetAXISWord} :
      verdict.forwards = false →
      verdict.frame = part ++ rest →
      Delimited NetAXISWord.last rest →
      DropperPhase .drop roleId (verdict :: later)
        later later later (rest ++ later.flatMap RxVerdict.frame) part

section Phases

variable {unread unverified untaken unhandled : List RxVerdict}
variable {reg : TcpPseudoHeaderMeta} {portReg : PtableToRxEngRsp}

theorem VerifyPhase.of_readMetaInfo
    (phase : VerifyPhase .readMetaInfo reg unread unverified) :
    unverified = unread := by
  cases phase
  rfl

theorem VerifyPhase.of_readChecksum
    (phase : VerifyPhase .readChecksum reg unread unverified) :
    ∃ verdict, reg = verdict.segMeta ∧ unverified = verdict :: unread := by
  cases phase
  exact ⟨_, rfl, rfl⟩

theorem MetaPhase.of_metaState
    (phase : MetaPhase .metaState reg portReg untaken unhandled) :
    unhandled = untaken := by
  cases phase
  rfl

theorem MetaPhase.of_lookup
    (phase : MetaPhase .lookup reg portReg untaken unhandled) :
    ∃ verdict,
      reg = verdict.segMeta ∧ portReg = verdict.port ∧
        verdict.isOpen = true ∧ unhandled = verdict :: untaken := by
  cases phase with
  | lookup _ isOpen =>
      exact ⟨_, rfl, rfl, isOpen, rfl⟩

variable {roleId : NetAXISDest} {words part : List NetAXISWord}
variable {unrouted unchecked unmet unjudged : List RxVerdict}

theorem DropperPhase.of_rdVerifyChecksum
    (phase :
      DropperPhase .rdVerifyChecksum roleId unrouted unchecked unmet
        unjudged words part) :
    unchecked = unrouted ∧ unmet = unrouted ∧ unjudged = unrouted ∧
      words = unrouted.flatMap RxVerdict.frame ∧ part = [] := by
  cases phase
  exact ⟨rfl, rfl, rfl, rfl, rfl⟩

theorem DropperPhase.of_rdMetaHandler
    (phase :
      DropperPhase .rdMetaHandler roleId unrouted unchecked unmet
        unjudged words part) :
    ∃ verdict later,
      verdict.valid = true ∧ unrouted = verdict :: later ∧
        unchecked = later ∧ unmet = unrouted ∧ unjudged = unrouted ∧
        words = unrouted.flatMap RxVerdict.frame ∧ part = [] := by
  cases phase with
  | rdMetaHandler _ _ isValid =>
      exact ⟨_, _, isValid, rfl, rfl, rfl, rfl, rfl, rfl⟩

theorem DropperPhase.of_rdFsmDrop
    (phase :
      DropperPhase .rdFsmDrop roleId unrouted unchecked unmet unjudged
        words part) :
    ∃ verdict later,
      verdict.valid = true ∧ verdict.hits = true ∧
        roleId = verdict.roleId ∧ unrouted = verdict :: later ∧
        unchecked = later ∧ unmet = later ∧ unjudged = unrouted ∧
        words = unrouted.flatMap RxVerdict.frame ∧ part = [] := by
  cases phase with
  | rdFsmDrop _ isValid hits =>
      exact ⟨_, _, isValid, hits, rfl, rfl, rfl, rfl, rfl, rfl, rfl⟩

theorem DropperPhase.of_fwd
    (phase :
      DropperPhase .fwd roleId unrouted unchecked unmet unjudged words
        part) :
    ∃ verdict later rest,
      verdict.forwards = true ∧ roleId = verdict.roleId ∧
        verdict.frame = part ++ rest ∧
        Delimited NetAXISWord.last rest ∧ unrouted = verdict :: later ∧
        unchecked = later ∧ unmet = later ∧ unjudged = later ∧
        words = rest ++ later.flatMap RxVerdict.frame := by
  cases phase with
  | fwd _ forwards frame delimited =>
      exact
        ⟨_, _, _, forwards, rfl, frame, delimited, rfl, rfl, rfl, rfl,
          rfl⟩

theorem DropperPhase.of_drop
    (phase :
      DropperPhase .drop roleId unrouted unchecked unmet unjudged words
        part) :
    ∃ verdict later rest,
      verdict.forwards = false ∧ verdict.frame = part ++ rest ∧
        Delimited NetAXISWord.last rest ∧ unrouted = verdict :: later ∧
        unchecked = later ∧ unmet = later ∧ unjudged = later ∧
        words = rest ++ later.flatMap RxVerdict.frame := by
  cases phase with
  | drop _ _ refused frame delimited =>
      exact ⟨_, _, _, refused, frame, delimited, rfl, rfl, rfl, rfl, rfl⟩

end Phases

/-- What `RxEngVerifyChecksumAndPort` and the port table have still to do. -/
structure VerifyStage
    (answers : RxAnswers) (system : PayloadSystem) (stages : Stages) :
    Prop where
  phase :
    VerifyPhase system.verify.fsmState system.verify.tcpMetaReg
      stages.unread stages.unverified
  metas :
    system.verify.tcpMetaDataIn ++ system.records =
      stages.unread.map RxVerdict.segMeta
  checksums :
    system.verify.tcpChecksumIn ++ system.checksums =
      stages.unverified.map RxVerdict.checksum
  portReqs :
    Feeds RxVerdict.portReq system.portReqs
      (stages.unverified.filter RxVerdict.valid) stages.unasked
  ports : PortsFrom answers system.portsAnswered stages.unasked

/-- What `RxEngTcpMetaHandler`, the session lookup and `RxEngTcpFsm` have
still to do. -/
structure MetaStage
    (answers : RxAnswers) (system : PayloadSystem) (stages : Stages) :
    Prop where
  phase :
    MetaPhase system.metaHandler.fsmState system.metaHandler.tcpMetaReg
      system.metaHandler.ptableRspReg stages.untaken stages.unhandled
  metas :
    Feeds RxVerdict.segMeta system.metaHandler.tcpMetaDataIn
      (stages.unverified.filter RxVerdict.valid) stages.untaken
  portRsps :
    Feeds RxVerdict.port system.metaHandler.ptableRsps stages.unasked
      stages.untaken
  slookupReqs :
    Feeds RxVerdict.slookupReq system.slookupReqs
      (stages.untaken.filter RxVerdict.isOpen) stages.unlooked
  sessions :
    SessionsFrom answers system.sessionsAnswered stages.unlooked
  slookupRsps :
    Feeds RxVerdict.session system.metaHandler.slookupRsps
      stages.unlooked (stages.unhandled.filter RxVerdict.isOpen)
  fsmMetas :
    Feeds RxVerdict.record system.fsmMetas
      (stages.unhandled.filter RxVerdict.hits) stages.undecided
  decisions :
    DecisionsFrom answers system.decided
      (stages.undecided.filter RxVerdict.hasPayload)

/-- What the dropper has still to do. -/
structure DropperStage
    (verdicts : List RxVerdict) (system : PayloadSystem)
    (stages : Stages) : Prop where
  whole :
    verdicts.filter RxVerdict.hasPayload =
      stages.routed ++ stages.unrouted
  phase :
    DropperPhase system.dropper.fsmState system.dropper.tcpPayloadRoleId
      stages.unrouted stages.unchecked stages.unmet stages.unjudged
      (system.dropper.tcpPayloadIn ++ system.words) stages.part
  checked :
    Feeds (fun verdict => !verdict.valid) system.dropper.droppedByChecksum
      (stages.unverified.filter RxVerdict.hasPayload) stages.unchecked
  met :
    Feeds (fun verdict => !verdict.hits)
      system.dropper.droppedByPortOrSession
      (stages.unhandled.filter RxVerdict.hasPayload)
      (stages.unmet.filter RxVerdict.valid)
  tdests :
    Feeds RxVerdict.roleId system.dropper.tcpPayloadTdest
      (stages.unhandled.filter RxVerdict.hasPayload)
      (stages.unmet.filter RxVerdict.valid)
  judged :
    Feeds (fun verdict => !verdict.accepted) system.dropper.droppedByRxFsm
      (stages.undecided.filter RxVerdict.hasPayload)
      ((stages.unjudged.filter RxVerdict.valid).filter RxVerdict.hits)
  taken :
    system.taken = stages.routed.flatMap RxVerdict.frame ++ stages.part
  out :
    system.out =
      stages.routed.flatMap
          (fun verdict => verdict.routed verdict.frame) ++
        (stages.unrouted.head?.map
          fun verdict => verdict.routed stages.part).getD []

structure InStages
    (answers : RxAnswers) (verdicts : List RxVerdict)
    (system : PayloadSystem) (stages : Stages) : Prop where
  verify : VerifyStage answers system stages
  metaHandler : MetaStage answers system stages
  dropper : DropperStage verdicts system stages

theorem RxVerdict.frame_eq_nil {verdict : RxVerdict}
    (none : verdict.hasPayload = false) : verdict.frame = [] := by
  have framed := verdict.packet.framed
  change
    if verdict.hasPayload then Delimited NetAXISWord.last verdict.frame
    else verdict.frame = [] at framed
  rw [none] at framed
  exact framed

theorem RxVerdict.frame_delimited {verdict : RxVerdict}
    (carries : verdict.hasPayload = true) :
    Delimited NetAXISWord.last verdict.frame := by
  have framed := verdict.packet.framed
  change
    if verdict.hasPayload then Delimited NetAXISWord.last verdict.frame
    else verdict.frame = [] at framed
  rw [carries] at framed
  exact framed

theorem RxVerdict.routed_append
    (verdict : RxVerdict) (first second : List NetAXISWord) :
    verdict.routed (first ++ second) =
      verdict.routed first ++ verdict.routed second := by
  simp only [routed]
  split
  · exact List.map_append
  · rfl

theorem RxVerdict.routed_nil (verdict : RxVerdict) :
    verdict.routed [] = [] := by
  rw [routed]
  split <;> rfl

/-- Packets without payload add nothing. -/
theorem flatMap_hasPayload
    (words : RxVerdict → List NetAXISWord)
    (none : ∀ verdict, verdict.hasPayload = false → words verdict = [])
    (verdicts : List RxVerdict) :
    (verdicts.filter RxVerdict.hasPayload).flatMap words =
      verdicts.flatMap words := by
  induction verdicts with
  | nil =>
      rfl
  | cons verdict later inductionHypothesis =>
      rw [List.filter_cons, List.flatMap_cons]
      split
      · rw [List.flatMap_cons, inductionHypothesis]
      · rename_i noPayload
        rw [inductionHypothesis,
          none verdict (Bool.eq_false_iff.2 noPayload), List.nil_append]

theorem inStages_start
    (answers : RxAnswers) (packets : List ParsedPacket)
    (reg : TcpPseudoHeaderMeta) (metaReg : MetaHandlerState)
    (roleId : NetAXISDest) :
    ∃ stages,
      InStages answers (judge answers 0 0 0 packets)
        (PayloadSystem.start packets reg metaReg roleId) stages := by
  have own := judge_packets answers packets 0 0 0
  have ports := portsFrom_judge answers packets 0 0 0
  have sessions := sessionsFrom_judge answers packets 0 0 0
  have decisions := decisionsFrom_judge answers packets 0 0 0
  generalize judge answers 0 0 0 packets = verdicts
    at own ports sessions decisions ⊢
  let valid := verdicts.filter RxVerdict.valid
  let payloads := verdicts.filter RxVerdict.hasPayload
  refine
    ⟨⟨verdicts, verdicts, valid, valid, valid,
      valid.filter RxVerdict.isOpen, valid.filter RxVerdict.hits, [],
      payloads, payloads, payloads, payloads, []⟩, ?_, ?_, ?_⟩
  · refine ⟨VerifyPhase.readMetaInfo _ _, ?_, ?_, Feeds.start _, ports⟩
    · rw [← own]
      exact List.map_map
    · rw [← own]
      exact List.map_map
  · exact
      ⟨MetaPhase.metaState _ _ _, Feeds.start _, Feeds.start _,
        Feeds.start _, sessions, Feeds.start _, Feeds.start _, decisions⟩
  · refine
      ⟨rfl, ?_, Feeds.start _, ?_, ?_, ?_, rfl, ?_⟩
    · change
        DropperPhase _ _ payloads payloads payloads payloads
          (packets.flatMap ParsedPacket.frame) []
      rw [← own, List.flatMap_map]
      change
        DropperPhase _ _ payloads payloads payloads payloads
          (verdicts.flatMap RxVerdict.frame) []
      rw [← flatMap_hasPayload _ fun _ => RxVerdict.frame_eq_nil]
      exact DropperPhase.rdVerifyChecksum _ _
    · change Feeds _ [] (valid.filter _) (payloads.filter _)
      rw [List.filter_comm]
      exact Feeds.start _
    · change Feeds _ [] (valid.filter _) (payloads.filter _)
      rw [List.filter_comm]
      exact Feeds.start _
    · have sameOrder :
          (payloads.filter RxVerdict.valid).filter RxVerdict.hits =
            (valid.filter RxVerdict.hits).filter RxVerdict.hasPayload := by
        simp only [payloads, valid, List.filter_filter]
        refine List.filter_congr fun verdict _ => ?_
        rw [← Bool.and_assoc, Bool.and_comm]
      change
        Feeds _ [] ((valid.filter _).filter _)
          ((payloads.filter _).filter _)
      rw [sameOrder]
      exact Feeds.start _
    · cases payloads with
      | nil =>
          rfl
      | cons verdict later =>
          change [] = [] ++ verdict.routed []
          rw [RxVerdict.routed]
          split <;> rfl

namespace InStages

variable {answers : RxAnswers} {verdicts : List RxVerdict}
variable {system : PayloadSystem} {stages : Stages}

/-! ## One step -/

theorem passRecord
    (inStages : InStages answers verdicts system stages) :
    InStages answers verdicts (system.act answers .passRecord) stages := by
  rw [PayloadSystem.act]
  cases records : system.records with
  | nil =>
      exact inStages
  | cons segMeta later =>
      have metas := inStages.verify.metas
      rw [records, List.append_cons] at metas
      exact
        ⟨{ inStages.verify with metas := metas },
          { inStages.metaHandler with },
          { inStages.dropper with }⟩

theorem passChecksum
    (inStages : InStages answers verdicts system stages) :
    InStages answers verdicts (system.act answers .passChecksum)
      stages := by
  rw [PayloadSystem.act]
  cases checksums : system.checksums with
  | nil =>
      exact inStages
  | cons checksum later =>
      have sums := inStages.verify.checksums
      rw [checksums, List.append_cons] at sums
      exact
        ⟨{ inStages.verify with checksums := sums },
          { inStages.metaHandler with },
          { inStages.dropper with }⟩

theorem passWord
    (inStages : InStages answers verdicts system stages) :
    InStages answers verdicts (system.act answers .passWord) stages := by
  rw [PayloadSystem.act]
  cases words : system.words with
  | nil =>
      exact inStages
  | cons word later =>
      have phase := inStages.dropper.phase
      rw [words, List.append_cons] at phase
      exact
        ⟨{ inStages.verify with },
          { inStages.metaHandler with },
          { inStages.dropper with phase := phase }⟩

theorem answerPort
    (inStages : InStages answers verdicts system stages) :
    ∃ next,
      InStages answers verdicts (system.answerPort answers) next := by
  rw [PayloadSystem.answerPort]
  cases reqs : system.portReqs with
  | nil =>
      exact ⟨stages, inStages⟩
  | cons req later =>
      have asked := inStages.verify.portReqs
      rw [reqs] at asked
      obtain ⟨verdict, unasked, first, own, rest⟩ := asked.pop
      have ports := inStages.verify.ports
      have portRsps := inStages.metaHandler.portRsps
      rw [first] at ports portRsps
      have answered := portRsps.push
      rw [ports.1, ← own] at answered
      exact
        ⟨{ stages with unasked := unasked },
          { inStages.verify with portReqs := rest, ports := ports.2 },
          { inStages.metaHandler with portRsps := answered },
          { inStages.dropper with }⟩

theorem answerSession
    (inStages : InStages answers verdicts system stages) :
    ∃ next,
      InStages answers verdicts (system.answerSession answers) next := by
  rw [PayloadSystem.answerSession]
  cases reqs : system.slookupReqs with
  | nil =>
      exact ⟨stages, inStages⟩
  | cons req later =>
      have asked := inStages.metaHandler.slookupReqs
      rw [reqs] at asked
      obtain ⟨verdict, unlooked, first, own, rest⟩ := asked.pop
      have sessions := inStages.metaHandler.sessions
      have slookupRsps := inStages.metaHandler.slookupRsps
      rw [first] at sessions slookupRsps
      have answered := slookupRsps.push
      rw [sessions.1, ← own] at answered
      exact
        ⟨{ stages with unlooked := unlooked },
          { inStages.verify with },
          { inStages.metaHandler with
            slookupReqs := rest
            sessions := sessions.2
            slookupRsps := answered },
          { inStages.dropper with }⟩

theorem decideRecord
    (inStages : InStages answers verdicts system stages) :
    ∃ next,
      InStages answers verdicts (system.decideRecord answers) next := by
  rw [PayloadSystem.decideRecord]
  cases metas : system.fsmMetas with
  | nil =>
      exact ⟨stages, inStages⟩
  | cons metaData later =>
      have fsmMetas := inStages.metaHandler.fsmMetas
      rw [metas] at fsmMetas
      obtain ⟨verdict, undecided, first, own, rest⟩ := fsmMetas.pop
      have decisions := inStages.metaHandler.decisions
      have judged := inStages.dropper.judged
      have samePayload :
          metaData.header.hasPayload = verdict.hasPayload := by
        rw [own]
        rfl
      rw [first, List.filter_cons] at decisions judged
      simp only []
      by_cases carries : verdict.hasPayload = true
      · rw [if_pos carries] at decisions judged
        rw [samePayload, if_pos carries]
        have decided := judged.push
        rw [decisions.1, ← own] at decided
        exact
          ⟨{ stages with undecided := undecided },
            { inStages.verify with },
            { inStages.metaHandler with
              fsmMetas := rest, decisions := decisions.2 },
            { inStages.dropper with judged := decided }⟩
      · rw [if_neg carries] at decisions judged
        rw [samePayload, if_neg carries]
        exact
          ⟨{ stages with undecided := undecided },
            { inStages.verify with },
            { inStages.metaHandler with
              fsmMetas := rest, decisions := decisions },
            { inStages.dropper with judged := judged }⟩

/-- What `RxEngVerifyChecksumAndPort` writes for a packet. -/
theorem verdict_msgs (verdict : RxVerdict) :
    (TcpOffload.verdict verdict.segMeta verdict.checksum).filterMap
          VerifyMsg.toMeta =
        (if verdict.valid then [verdict.segMeta] else []) ∧
      (TcpOffload.verdict verdict.segMeta verdict.checksum).filterMap
          VerifyMsg.toCheckReq =
        (if verdict.valid then [verdict.portReq] else []) ∧
      (TcpOffload.verdict verdict.segMeta verdict.checksum).filterMap
          VerifyMsg.toDropper =
        (if verdict.hasPayload then [!verdict.valid] else []) := by
  have payload :
      (verdict.segMeta.header.payloadLength = 0) =
        (verdict.hasPayload = false) := by
    rw [RxVerdict.hasPayload, TcpHeaderMeta.hasPayload, bne_eq_false_iff_eq]
  have isValid : (verdict.checksum = 0) = (verdict.valid = true) := by
    rw [RxVerdict.valid, beq_iff_eq]
  rw [TcpOffload.verdict]
  simp only [payload, isValid, ne_eq]
  cases verdict.valid <;> cases verdict.hasPayload <;>
    exact ⟨rfl, rfl, rfl⟩

theorem rxEngVerifyChecksumAndPort
    (inStages : InStages answers verdicts system stages) :
    ∃ next,
      InStages answers verdicts
        (system.act answers .rxEngVerifyChecksumAndPort) next := by
  change
    ∃ next,
      InStages answers verdicts
        (system.afterVerify
          (TcpOffload.rxEngVerifyChecksumAndPort system.verify).1
          (TcpOffload.rxEngVerifyChecksumAndPort system.verify).2) next
  have phase := inStages.verify.phase
  have metas := inStages.verify.metas
  have checksums := inStages.verify.checksums
  have nothing :
      InStages answers verdicts (system.afterVerify system.verify [])
        stages := by
    simp only [PayloadSystem.afterVerify, List.filterMap_nil,
      List.append_nil]
    exact inStages
  rw [TcpOffload.rxEngVerifyChecksumAndPort]
  split
  · rename_i isRead
    rw [isRead] at phase
    have sameFront := phase.of_readMetaInfo
    split
    · exact ⟨stages, nothing⟩
    · rename_i segMeta later metaDataIn
      rw [metaDataIn, List.cons_append] at metas
      obtain ⟨verdict, unread, first, own, rest⟩ :=
        List.map_eq_cons_iff.1 metas.symm
      have taken :
          VerifyPhase .readChecksum segMeta unread
            stages.unverified := by
        rw [sameFront, first, ← own]
        exact VerifyPhase.readChecksum verdict unread
      simp only [PayloadSystem.afterVerify, List.filterMap_nil,
        List.append_nil]
      exact
        ⟨{ stages with unread := unread },
          { inStages.verify with phase := taken, metas := rest.symm },
          { inStages.metaHandler with },
          { inStages.dropper with }⟩
  · rename_i isRead
    rw [isRead] at phase
    obtain ⟨verdict, sameReg, front⟩ := phase.of_readChecksum
    split
    · exact ⟨stages, nothing⟩
    · rename_i checksum later checksumIn
      rw [checksumIn, front, List.cons_append, List.map_cons,
        List.cons.injEq] at checksums
      obtain ⟨own, rest⟩ := checksums
      obtain ⟨toMeta, toPtable, toDropper⟩ := verdict_msgs verdict
      have portReqs := inStages.verify.portReqs
      have segMetas := inStages.metaHandler.metas
      have checked := inStages.dropper.checked
      rw [front] at portReqs segMetas checked
      simp only [PayloadSystem.afterVerify]
      rw [sameReg, own, toMeta, toPtable, toDropper]
      exact
        ⟨{ stages with unverified := stages.unread },
          { inStages.verify with
            phase := VerifyPhase.readMetaInfo _ _
            checksums := rest
            portReqs := portReqs.pushIf },
          { inStages.metaHandler with metas := segMetas.pushIf },
          { inStages.dropper with checked := checked.pushIf }⟩

/-- The messages of `RxEngTcpMetaHandler`, each to its reader. -/
structure MetaHandlerWrites
    (msgs : List MetaHandlerMsg) (slookupReqs : List RxEngToSlookupReq)
    (fsmMetas : List RxEngFsmMetaData) (drops : List Bool)
    (tdests : List NetAXISDest) : Prop where
  toSlookup : msgs.filterMap MetaHandlerMsg.toSlookup = slookupReqs
  toFsm : msgs.filterMap MetaHandlerMsg.toFsm = fsmMetas
  toDropper : msgs.filterMap MetaHandlerMsg.toDropper = drops
  toTdest : msgs.filterMap MetaHandlerMsg.toTdest = tdests

theorem MetaHandlerWrites.append
    {first second : List MetaHandlerMsg}
    {reqs laterReqs : List RxEngToSlookupReq}
    {metas laterMetas : List RxEngFsmMetaData}
    {drops laterDrops : List Bool} {tdests laterTdests : List NetAXISDest}
    (left : MetaHandlerWrites first reqs metas drops tdests)
    (right :
      MetaHandlerWrites second laterReqs laterMetas laterDrops
        laterTdests) :
    MetaHandlerWrites (first ++ second) (reqs ++ laterReqs)
      (metas ++ laterMetas) (drops ++ laterDrops)
      (tdests ++ laterTdests) where
  toSlookup := by
    rw [List.filterMap_append, left.toSlookup, right.toSlookup]
  toFsm := by
    rw [List.filterMap_append, left.toFsm, right.toFsm]
  toDropper := by
    rw [List.filterMap_append, left.toDropper, right.toDropper]
  toTdest := by
    rw [List.filterMap_append, left.toTdest, right.toTdest]

/-- What `RxEngTcpMetaHandler` writes about the payload of a packet. -/
theorem payloadMsgs_writes (verdict : RxVerdict) (drop : Bool) :
    MetaHandlerWrites
      (verdict.segMeta.payloadMsgs drop verdict.port.roleId) [] []
      (if verdict.hasPayload then [drop] else [])
      (if verdict.hasPayload then [verdict.roleId] else []) := by
  have payload :
      (verdict.segMeta.header.payloadLength = 0) =
        (verdict.hasPayload = false) := by
    rw [RxVerdict.hasPayload, TcpHeaderMeta.hasPayload, bne_eq_false_iff_eq]
  rw [TcpPseudoHeaderMeta.payloadMsgs]
  simp only [payload]
  cases verdict.hasPayload <;> exact ⟨rfl, rfl, rfl, rfl⟩

/-- A port is answered about. -/
theorem takeMeta
    (inStages : InStages answers verdicts system stages)
    (isMeta : system.metaHandler.fsmState = .metaState) :
    ∃ next,
      InStages answers verdicts
        (system.afterMetaHandler system.metaHandler.takeMeta.1
          system.metaHandler.takeMeta.2) next := by
  have phase := inStages.metaHandler.phase
  have metas := inStages.metaHandler.metas
  have portRsps := inStages.metaHandler.portRsps
  rw [isMeta] at phase
  have sameFront := phase.of_metaState
  rw [MetaHandlerState.takeMeta]
  split
  · rename_i segMeta metasLater rsp rspsLater metaDataIn ptableRsps
    rw [metaDataIn] at metas
    rw [ptableRsps] at portRsps
    obtain ⟨verdict, untaken, first, own, metasRest⟩ := metas.pop
    rw [first] at portRsps sameFront
    obtain ⟨ownPort, portsRest⟩ := portRsps.popKnown
    have slookupReqs := inStages.metaHandler.slookupReqs
    have slookupRsps := inStages.metaHandler.slookupRsps
    have fsmMetas := inStages.metaHandler.fsmMetas
    have met := inStages.dropper.met
    have tdests := inStages.dropper.tdests
    rw [first] at slookupReqs
    rw [sameFront] at slookupRsps fsmMetas met tdests
    have sent := slookupReqs.pushIf
    simp only []
    rw [own, ownPort]
    by_cases isOpen : verdict.isOpen = true
    · rw [if_pos isOpen] at sent
      have asks : verdict.port.isOpen = true :=
        isOpen
      have looksUp :
          MetaPhase .lookup verdict.segMeta verdict.port untaken
            stages.unhandled := by
        rw [sameFront]
        exact MetaPhase.lookup untaken isOpen
      have writes :
          MetaHandlerWrites
            [.slookupReq (verdict.segMeta.slookupReq verdict.port.roleId)]
            [verdict.slookupReq] [] [] [] :=
        ⟨rfl, rfl, rfl, rfl⟩
      rw [if_pos asks]
      simp only [PayloadSystem.afterMetaHandler, writes.toSlookup,
        writes.toFsm, writes.toDropper, writes.toTdest, List.append_nil]
      rw [← sameFront] at fsmMetas met tdests
      exact
        ⟨{ stages with untaken := untaken },
          { inStages.verify with },
          { inStages.metaHandler with
            phase := looksUp
            metas := metasRest
            portRsps := portsRest
            slookupReqs := sent },
          { inStages.dropper with }⟩
    · have isClosed : verdict.isOpen = false :=
        Bool.eq_false_iff.2 isOpen
      have noHit : verdict.hits = false := by
        rw [RxVerdict.hits]
        change (verdict.isOpen && _) = false
        rw [isClosed]
        rfl
      have refuses : ¬ verdict.port.isOpen = true :=
        isOpen
      rw [if_neg isOpen, List.append_nil] at sent
      rw [List.filter_cons, if_neg isOpen] at slookupRsps
      rw [List.filter_cons, noHit] at fsmMetas
      have refused := met.pushIf
      rw [noHit] at refused
      have tdest := tdests.pushIf
      rw [if_neg refuses]
      have rstWrites :
          MetaHandlerWrites
            (if verdict.segMeta.header.rst then
              []
            else
              [.setEvent verdict.segMeta.rstEvent])
            [] [] [] [] := by
        cases verdict.segMeta.header.rst <;> exact ⟨rfl, rfl, rfl, rfl⟩
      have writes := rstWrites.append (payloadMsgs_writes verdict true)
      simp only [List.nil_append] at writes
      simp only [PayloadSystem.afterMetaHandler, writes.toSlookup,
        writes.toFsm, writes.toDropper, writes.toTdest, List.append_nil]
      exact
        ⟨{ stages with untaken := untaken, unhandled := untaken },
          { inStages.verify with },
          { inStages.metaHandler with
            phase := by
              rw [isMeta]
              exact MetaPhase.metaState _ _ _
            metas := metasRest
            portRsps := portsRest
            slookupReqs := sent
            slookupRsps := slookupRsps
            fsmMetas := fsmMetas },
          { inStages.dropper with met := refused, tdests := tdest }⟩
  · simp only [PayloadSystem.afterMetaHandler, List.filterMap_nil,
      List.append_nil]
    exact ⟨stages, inStages⟩

/-- A session is looked up. -/
theorem takeLookup
    (inStages : InStages answers verdicts system stages)
    (isLookup : system.metaHandler.fsmState = .lookup) :
    ∃ next,
      InStages answers verdicts
        (system.afterMetaHandler system.metaHandler.takeLookup.1
          system.metaHandler.takeLookup.2) next := by
  have phase := inStages.metaHandler.phase
  rw [isLookup] at phase
  obtain ⟨verdict, sameReg, samePort, isOpen, front⟩ := phase.of_lookup
  have slookupRsps := inStages.metaHandler.slookupRsps
  have fsmMetas := inStages.metaHandler.fsmMetas
  have met := inStages.dropper.met
  have tdests := inStages.dropper.tdests
  rw [MetaHandlerState.takeLookup]
  split
  · rename_i rsp later rsps
    rw [front] at slookupRsps fsmMetas met tdests
    rw [rsps, List.filter_cons, if_pos isOpen] at slookupRsps
    obtain ⟨own, rest⟩ := slookupRsps.popKnown
    have hits : verdict.session.hit = verdict.hits := by
      rw [RxVerdict.hits]
      change _ = (verdict.isOpen && _)
      rw [isOpen, Bool.true_and]
    have metaWrites :
        MetaHandlerWrites
          (if verdict.hits then
            [.fsmMetaData verdict.record verdict.port.roleId]
          else
            [])
          [] (if verdict.hits then [verdict.record] else []) [] [] := by
      cases verdict.hits <;> exact ⟨rfl, rfl, rfl, rfl⟩
    have writes :=
      metaWrites.append (payloadMsgs_writes verdict !verdict.hits)
    simp only [List.nil_append, List.append_nil] at writes
    simp only []
    rw [sameReg, samePort, own, hits]
    change
      ∃ next,
        InStages answers verdicts
          (system.afterMetaHandler _
            ((if verdict.hits then
              [.fsmMetaData verdict.record verdict.port.roleId]
            else
              []) ++
              verdict.segMeta.payloadMsgs (!verdict.hits)
                verdict.port.roleId)) next
    simp only [PayloadSystem.afterMetaHandler, writes.toSlookup,
      writes.toFsm, writes.toDropper, writes.toTdest, List.append_nil]
    exact
      ⟨{ stages with unhandled := stages.untaken },
        { inStages.verify with },
        { inStages.metaHandler with
          phase := MetaPhase.metaState _ _ _
          slookupRsps := rest
          fsmMetas := fsmMetas.pushIf },
        { inStages.dropper with
          met := met.pushIf, tdests := tdests.pushIf }⟩
  · simp only [PayloadSystem.afterMetaHandler, List.filterMap_nil,
      List.append_nil]
    exact ⟨stages, inStages⟩

/-- The first packet of the dropper carries payload. -/
theorem carries
    (inStages : InStages answers verdicts system stages)
    {verdict : RxVerdict} {unrouted : List RxVerdict}
    (front : stages.unrouted = verdict :: unrouted) :
    verdict.hasPayload = true := by
  have member : verdict ∈ verdicts.filter RxVerdict.hasPayload := by
    rw [inStages.dropper.whole, front]
    exact List.mem_append_right _ List.mem_cons_self
  exact (List.mem_filter.1 member).2

/-- A word of the first frame is read, and forwarded or not. -/
theorem routeWord
    (inStages : InStages answers verdicts system stages)
    {verdict : RxVerdict} {unrouted : List RxVerdict}
    {part rest later : List NetAXISWord} {word : NetAXISWord}
    (front : stages.unrouted = verdict :: unrouted)
    (unchecked : stages.unchecked = unrouted)
    (unmet : stages.unmet = unrouted)
    (unjudged : stages.unjudged = unrouted)
    (samePart : stages.part = part)
    (frame : verdict.frame = part ++ rest)
    (delimited : Delimited NetAXISWord.last rest)
    (queued : system.dropper.tcpPayloadIn = word :: later)
    (words :
      system.dropper.tcpPayloadIn ++ system.words =
        rest ++ unrouted.flatMap RxVerdict.frame)
    {busy : RxDropperFsmState}
    (stays :
      ∀ read left : List NetAXISWord,
        verdict.frame = read ++ left →
          Delimited NetAXISWord.last left →
            DropperPhase busy system.dropper.tcpPayloadRoleId
              (verdict :: unrouted) unrouted unrouted unrouted
              (left ++ unrouted.flatMap RxVerdict.frame) read) :
    ∃ next,
      InStages answers verdicts
        { system with
          dropper :=
            { system.dropper with
              fsmState := if word.last then .rdVerifyChecksum else busy
              tcpPayloadIn := later }
          taken := system.taken ++ [word]
          out := system.out ++ verdict.routed [word] }
        next := by
  have whole := inStages.dropper.whole
  have taken := inStages.dropper.taken
  have out := inStages.dropper.out
  have checked := inStages.dropper.checked
  have met := inStages.dropper.met
  have tdests := inStages.dropper.tdests
  have judged := inStages.dropper.judged
  rw [unchecked] at checked
  rw [unmet] at met tdests
  rw [unjudged] at judged
  rw [front] at whole out
  rw [samePart] at taken out
  rw [queued, List.cons_append] at words
  have routedSoFar :
      verdict.routed part ++ verdict.routed [word] =
        verdict.routed (part ++ [word]) :=
    (verdict.routed_append part [word]).symm
  have outSoFar :
      system.out ++ verdict.routed [word] =
        stages.routed.flatMap (fun each => each.routed each.frame) ++
          verdict.routed (part ++ [word]) := by
    rw [out, List.append_assoc, List.head?_cons, Option.map_some,
      Option.getD_some, routedSoFar]
  have takenSoFar :
      system.taken ++ [word] =
        stages.routed.flatMap RxVerdict.frame ++ (part ++ [word]) := by
    rw [taken, List.append_assoc]
  cases delimited with
  | @final lastWord raised =>
      obtain ⟨isWord, wordsRest⟩ := List.cons.inj words
      change
        later ++ system.words = unrouted.flatMap RxVerdict.frame
          at wordsRest
      rw [isWord, raised, if_pos rfl]
      rw [isWord] at outSoFar takenSoFar
      rw [← frame] at outSoFar takenSoFar
      refine
        ⟨{ stages with
            routed := stages.routed ++ [verdict]
            unrouted := unrouted
            unchecked := unrouted
            unmet := unrouted
            unjudged := unrouted
            part := [] },
          { inStages.verify with },
          { inStages.metaHandler with }, ?_⟩
      refine ⟨?_, ?_, checked, met, tdests, judged, ?_, ?_⟩
      · rw [whole, List.append_assoc, List.singleton_append]
      · change
          DropperPhase .rdVerifyChecksum _ unrouted unrouted unrouted
            unrouted (later ++ system.words) []
        rw [wordsRest]
        exact DropperPhase.rdVerifyChecksum _ _
      · change system.taken ++ [lastWord] = _
        rw [takenSoFar, List.flatMap_append, List.flatMap_singleton,
          List.append_nil]
      · change system.out ++ verdict.routed [lastWord] = _
        have noPart :
            (unrouted.head?.map fun each => each.routed []).getD [] =
              [] := by
          cases unrouted with
          | nil =>
              rfl
          | cons each _ =>
              exact each.routed_nil
        change
          _ =
            (stages.routed ++ [verdict]).flatMap _ ++
              (unrouted.head?.map fun each => each.routed []).getD []
        rw [outSoFar, noPart, List.append_nil, List.flatMap_append,
          List.flatMap_singleton]
  | @more nextWord left notRaised leftDelimited =>
      obtain ⟨isWord, wordsRest⟩ := List.cons.inj words
      rw [isWord, notRaised, if_neg Bool.false_ne_true]
      rw [isWord] at outSoFar takenSoFar
      rw [List.append_cons] at frame
      have phase := stays (part ++ [nextWord]) left frame leftDelimited
      refine
        ⟨{ stages with
            unrouted := verdict :: unrouted
            unchecked := unrouted
            unmet := unrouted
            unjudged := unrouted
            part := part ++ [nextWord] },
          { inStages.verify with },
          { inStages.metaHandler with }, ?_⟩
      refine
        ⟨whole, ?_, checked, met, tdests, judged, takenSoFar, outSoFar⟩
      change DropperPhase busy _ _ _ _ _ (later ++ system.words) _
      rw [wordsRest]
      exact phase

/-- The first packet is dropped from here on. -/
theorem startsDropping
    (inStages : InStages answers verdicts system stages)
    {verdict : RxVerdict} {unrouted : List RxVerdict}
    (front : stages.unrouted = verdict :: unrouted)
    (refused : verdict.forwards = false) (roleId : NetAXISDest) :
    DropperPhase .drop roleId (verdict :: unrouted) unrouted unrouted
      unrouted ((verdict :: unrouted).flatMap RxVerdict.frame) [] := by
  rw [List.flatMap_cons]
  exact
    DropperPhase.drop roleId unrouted refused rfl
      (RxVerdict.frame_delimited (inStages.carries front))

theorem rdVerifyChecksum
    (inStages : InStages answers verdicts system stages)
    {drop : Bool} {later : List Bool}
    (isRead : system.dropper.fsmState = .rdVerifyChecksum)
    (queued : system.dropper.droppedByChecksum = drop :: later) :
    ∃ next,
      InStages answers verdicts
        { system with
          dropper :=
            { system.dropper with
              fsmState := if drop then .drop else .rdMetaHandler
              droppedByChecksum := later } }
        next := by
  have phase := inStages.dropper.phase
  have checked := inStages.dropper.checked
  have met := inStages.dropper.met
  have tdests := inStages.dropper.tdests
  have judged := inStages.dropper.judged
  rw [isRead] at phase
  obtain ⟨unchecked, unmet, unjudged, words, noPart⟩ :=
    phase.of_rdVerifyChecksum
  rw [queued, unchecked] at checked
  obtain ⟨verdict, unrouted, front, own, rest⟩ := checked.pop
  rw [unmet, front, List.filter_cons] at met tdests
  rw [unjudged, front, List.filter_cons] at judged
  rw [own]
  by_cases isValid : verdict.valid = true
  · rw [isValid]
    exact
      ⟨{ stages with unchecked := unrouted },
        { inStages.verify with },
        { inStages.metaHandler with },
        { inStages.dropper with
          phase := by
            change
              DropperPhase .rdMetaHandler _ stages.unrouted unrouted
                stages.unmet stages.unjudged
                (system.dropper.tcpPayloadIn ++ system.words) stages.part
            rw [unmet, unjudged, words, noPart, front]
            exact DropperPhase.rdMetaHandler _ unrouted isValid
          checked := rest }⟩
  · have notValid := Bool.eq_false_iff.2 isValid
    have refused : verdict.forwards = false := by
      rw [RxVerdict.forwards, notValid, Bool.false_and, Bool.false_and]
    rw [if_neg isValid] at met tdests judged
    rw [notValid]
    exact
      ⟨{ stages with
          unchecked := unrouted
          unmet := unrouted
          unjudged := unrouted },
        { inStages.verify with },
        { inStages.metaHandler with },
        { inStages.dropper with
          phase := by
            change
              DropperPhase .drop _ stages.unrouted unrouted unrouted
                unrouted (system.dropper.tcpPayloadIn ++ system.words)
                stages.part
            rw [words, noPart, front]
            exact inStages.startsDropping front refused _
          checked := rest
          met := met
          tdests := tdests
          judged := judged }⟩

theorem rdMetaHandler
    (inStages : InStages answers verdicts system stages)
    {drop : Bool} {later : List Bool} {roleId : NetAXISDest}
    {roleIds : List NetAXISDest}
    (isRead : system.dropper.fsmState = .rdMetaHandler)
    (queued : system.dropper.droppedByPortOrSession = drop :: later)
    (tdest : system.dropper.tcpPayloadTdest = roleId :: roleIds) :
    ∃ next,
      InStages answers verdicts
        { system with
          dropper :=
            { system.dropper with
              fsmState := if drop then .drop else .rdFsmDrop
              tcpPayloadRoleId := roleId
              droppedByPortOrSession := later
              tcpPayloadTdest := roleIds } }
        next := by
  have phase := inStages.dropper.phase
  have met := inStages.dropper.met
  have tdests := inStages.dropper.tdests
  have judged := inStages.dropper.judged
  rw [isRead] at phase
  obtain ⟨verdict, unrouted, isValid, front, unchecked, unmet, unjudged,
    words, noPart⟩ := phase.of_rdMetaHandler
  rw [unmet, front, List.filter_cons, if_pos isValid] at met tdests
  rw [unjudged, front, List.filter_cons, if_pos isValid,
    List.filter_cons] at judged
  rw [queued] at met
  rw [tdest] at tdests
  obtain ⟨own, metRest⟩ := met.popKnown
  obtain ⟨ownRole, tdestsRest⟩ := tdests.popKnown
  rw [own, ownRole]
  by_cases hits : verdict.hits = true
  · rw [hits]
    exact
      ⟨{ stages with unmet := unrouted },
        { inStages.verify with },
        { inStages.metaHandler with },
        { inStages.dropper with
          phase := by
            change
              DropperPhase .rdFsmDrop verdict.roleId stages.unrouted
                stages.unchecked unrouted stages.unjudged
                (system.dropper.tcpPayloadIn ++ system.words) stages.part
            rw [unchecked, unjudged, words, noPart, front]
            exact DropperPhase.rdFsmDrop unrouted isValid hits
          met := metRest
          tdests := tdestsRest }⟩
  · have noHit := Bool.eq_false_iff.2 hits
    have refused : verdict.forwards = false := by
      rw [RxVerdict.forwards, noHit, Bool.and_false, Bool.false_and]
    rw [if_neg hits] at judged
    rw [noHit]
    exact
      ⟨{ stages with unmet := unrouted, unjudged := unrouted },
        { inStages.verify with },
        { inStages.metaHandler with },
        { inStages.dropper with
          phase := by
            change
              DropperPhase .drop _ stages.unrouted stages.unchecked
                unrouted unrouted
                (system.dropper.tcpPayloadIn ++ system.words) stages.part
            rw [unchecked, words, noPart, front]
            exact inStages.startsDropping front refused _
          met := metRest
          tdests := tdestsRest
          judged := judged }⟩

theorem rdFsmDrop
    (inStages : InStages answers verdicts system stages)
    {drop : Bool} {later : List Bool}
    (isRead : system.dropper.fsmState = .rdFsmDrop)
    (queued : system.dropper.droppedByRxFsm = drop :: later) :
    ∃ next,
      InStages answers verdicts
        { system with
          dropper :=
            { system.dropper with
              fsmState := if drop then .drop else .fwd
              droppedByRxFsm := later } }
        next := by
  have phase := inStages.dropper.phase
  have judged := inStages.dropper.judged
  rw [isRead] at phase
  obtain ⟨verdict, unrouted, isValid, hits, ownRole, front, unchecked,
    unmet, unjudged, words, noPart⟩ := phase.of_rdFsmDrop
  rw [unjudged, front, List.filter_cons, if_pos isValid,
    List.filter_cons, if_pos hits, queued] at judged
  obtain ⟨own, rest⟩ := judged.popKnown
  have forwards : verdict.forwards = verdict.accepted := by
    rw [RxVerdict.forwards, isValid, hits]
    rfl
  have delimited :=
    RxVerdict.frame_delimited (inStages.carries front)
  rw [own]
  cases accepted : verdict.accepted with
  | true =>
      rw [accepted] at forwards
      exact
        ⟨{ stages with unjudged := unrouted },
          { inStages.verify with },
          { inStages.metaHandler with },
          { inStages.dropper with
            phase := by
              change
                DropperPhase .fwd _ stages.unrouted stages.unchecked
                  stages.unmet unrouted
                  (system.dropper.tcpPayloadIn ++ system.words)
                  stages.part
              rw [unchecked, unmet, words, noPart, front, ownRole,
                List.flatMap_cons]
              exact DropperPhase.fwd unrouted forwards rfl delimited
            judged := rest }⟩
  | false =>
      rw [accepted] at forwards
      exact
        ⟨{ stages with unjudged := unrouted },
          { inStages.verify with },
          { inStages.metaHandler with },
          { inStages.dropper with
            phase := by
              change
                DropperPhase .drop _ stages.unrouted stages.unchecked
                  stages.unmet unrouted
                  (system.dropper.tcpPayloadIn ++ system.words)
                  stages.part
              rw [unchecked, unmet, words, noPart, front]
              exact inStages.startsDropping front forwards _
            judged := rest }⟩

theorem rxEngTcpPayloadDropper
    (inStages : InStages answers verdicts system stages) :
    ∃ next,
      InStages answers verdicts
        (system.act answers .rxEngTcpPayloadDropper) next := by
  change
    ∃ next,
      InStages answers verdicts
        { system with
          dropper :=
            (TcpOffload.rxEngTcpPayloadDropper system.dropper).1
          taken :=
            system.taken ++ PayloadSystem.readWords system.dropper
          out :=
            system.out ++
              (TcpOffload.rxEngTcpPayloadDropper system.dropper).2 }
        next
  have phase := inStages.dropper.phase
  have nothing :
      InStages answers verdicts
        { system with taken := system.taken ++ [], out := system.out ++ [] }
        stages := by
    simp only [List.append_nil]
    exact inStages
  rw [TcpOffload.rxEngTcpPayloadDropper, PayloadSystem.readWords]
  cases fsmState : system.dropper.fsmState with
  | rdVerifyChecksum =>
      simp only []
      split
      · rename_i drop later queued
        simp only [List.append_nil]
        exact inStages.rdVerifyChecksum fsmState queued
      · exact ⟨stages, nothing⟩
  | rdMetaHandler =>
      simp only []
      split
      · rename_i drop later roleId roleIds queued tdest
        simp only [List.append_nil]
        exact inStages.rdMetaHandler fsmState queued tdest
      · exact ⟨stages, nothing⟩
  | rdFsmDrop =>
      simp only []
      split
      · rename_i drop later queued
        simp only [List.append_nil]
        exact inStages.rdFsmDrop fsmState queued
      · exact ⟨stages, nothing⟩
  | fwd =>
      rw [fsmState] at phase
      obtain ⟨verdict, unrouted, rest, forwards, ownRole, frame,
        delimited, front, unchecked, unmet, unjudged, words⟩ :=
        phase.of_fwd
      cases queued : system.dropper.tcpPayloadIn with
      | nil =>
          exact ⟨stages, nothing⟩
      | cons word later =>
          have written :
              verdict.routed [word] =
                [{ word with dest := system.dropper.tcpPayloadRoleId }] := by
            rw [RxVerdict.routed, if_pos forwards, ownRole]
            rfl
          have routed :=
            @routeWord answers verdicts system stages inStages verdict
              unrouted stages.part rest later word front unchecked unmet
              unjudged rfl frame delimited queued words .fwd (by
                intro read left split leftDelimited
                rw [ownRole]
                exact
                  DropperPhase.fwd unrouted forwards split leftDelimited)
          rw [written] at routed
          exact routed
  | drop =>
      rw [fsmState] at phase
      obtain ⟨verdict, unrouted, rest, refused, frame, delimited, front,
        unchecked, unmet, unjudged, words⟩ := phase.of_drop
      cases queued : system.dropper.tcpPayloadIn with
      | nil =>
          exact ⟨stages, nothing⟩
      | cons word later =>
          have written : verdict.routed [word] = [] := by
            rw [RxVerdict.routed, refused]
            rfl
          have routed :=
            @routeWord answers verdicts system stages inStages verdict
              unrouted stages.part rest later word front unchecked unmet
              unjudged rfl frame delimited queued words .drop
              fun read left split leftDelimited =>
                DropperPhase.drop _ unrouted refused split leftDelimited
          rw [written] at routed
          exact routed

theorem step
    (inStages : InStages answers verdicts system stages)
    (action : PayloadAction) :
    ∃ next, InStages answers verdicts (system.act answers action) next := by
  cases action with
  | passRecord =>
      exact ⟨stages, inStages.passRecord⟩
  | passChecksum =>
      exact ⟨stages, inStages.passChecksum⟩
  | passWord =>
      exact ⟨stages, inStages.passWord⟩
  | rxEngVerifyChecksumAndPort =>
      exact inStages.rxEngVerifyChecksumAndPort
  | ptable =>
      exact inStages.answerPort
  | rxEngTcpMetaHandler =>
      change
        ∃ next,
          InStages answers verdicts
            (system.afterMetaHandler
              (TcpOffload.rxEngTcpMetaHandler system.metaHandler).1
              (TcpOffload.rxEngTcpMetaHandler system.metaHandler).2)
            next
      rw [TcpOffload.rxEngTcpMetaHandler]
      cases fsmState : system.metaHandler.fsmState with
      | metaState =>
          exact inStages.takeMeta fsmState
      | lookup =>
          exact inStages.takeLookup fsmState
  | slookup =>
      exact inStages.answerSession
  | rxEngTcpFsm =>
      exact inStages.decideRecord
  | rxEngTcpPayloadDropper =>
      exact inStages.rxEngTcpPayloadDropper

end InStages

end TcpOffload
