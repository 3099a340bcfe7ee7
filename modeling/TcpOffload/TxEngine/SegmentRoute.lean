import TcpOffload.Library.Guarded
import TcpOffload.Library.Queues
import TcpOffload.TxEngine.Emissions
import TcpOffload.TxEngine.PseudoPacket

/-!
# The way of a segment

The pieces of a segment that `TxEngTcpFsm` emits go through separate queues
and are put together again by their order in `TxEngPseudoFullHeaderConstruct`,
`TxEngConstructPseudoPacket` and `TxEngConstructIpv4Header`.  These modules
run side by side here, in any order, with any events and answers for the
machine.
-/

namespace TcpOffload

open Framing Guarded
open Queues

/-! ## Segments and what was read for them -/

/-- The payload that is delivered for a read command. -/
structure TxPayload where
  bytes : List (BitVec 8)
  words : List NetAXISWord
  framed : IsAxiFrame bytes words

/-- What the modules that are asked answer: each answer depends on the
question and on how many were asked before. -/
structure TxAnswers where
  slookup : Nat → TcpSessionID → ReverseTableToTxEngRsp
  readData : Nat → MemBufferRWCmd → TxPayload

/-- An emission with the tuple and the payload that belong to it. -/
structure TxSegment where
  emission : TxEmission
  fourTuple : FourTuple
  payload : Option TxPayload

namespace TxSegment

variable (txSegment : TxSegment)

def metaData : TxEngFsmMetaData :=
  txSegment.emission.segment

def length : BitVec 16 :=
  txSegment.metaData.length

def fromSlookup : Bool :=
  txSegment.emission.slookupReq.isSome

def readsPayload : Bool :=
  txSegment.emission.readCmd.isSome

def ipPair : IpAddrPair :=
  txSegment.fourTuple.ipPair

def header : NetAXISWord :=
  txSegment.metaData.pseudoFullHeader txSegment.fourTuple

def containsPayload : Bool :=
  txSegment.metaData.packetContainsPayload

def ipv4Header : NetAXISWord :=
  TcpOffload.ipv4Header txSegment.length txSegment.ipPair

def payloadWords : List NetAXISWord :=
  match txSegment.payload with
  | some payload => payload.words
  | none => []

/-- What is sent for the segment: its header, with its payload behind. -/
def packet : List NetAXISWord :=
  match txSegment.payload with
  | some payload => headedWords txSegment.header payload.words
  | none => [txSegment.header]

/-- Exactly the segments that read payload have some. -/
structure Whole : Prop where
  payload : txSegment.payload.isSome = txSegment.readsPayload
  contains : txSegment.containsPayload = txSegment.readsPayload

end TxSegment

/-- An emission with the answers to the next questions. -/
def resolveNext
    (answers : TxAnswers) (lookups reads : Nat) (emission : TxEmission) :
    TxSegment where
  emission := emission
  fourTuple :=
    match emission.slookupReq with
    | some id => (answers.slookup lookups id).fourTuple
    | none => emission.ownTuple.getD ⟨0, 0, 0, 0⟩
  payload := emission.readCmd.map (answers.readData reads)

/-- The emissions with their answers. -/
def resolve (answers : TxAnswers) :
    Nat → Nat → List TxEmission → List TxSegment
  | _, _, [] => []
  | lookups, reads, emission :: later =>
      resolveNext answers lookups reads emission ::
        resolve answers
          (lookups + emission.slookupReq.isSome.toNat)
          (reads + emission.readCmd.isSome.toNat) later

/-- The tuples that the emissions look up. -/
def lookupsOf (emissions : List TxEmission) : Nat :=
  emissions.countP fun emission => emission.slookupReq.isSome

/-- The payloads that the emissions read. -/
def readsOf (emissions : List TxEmission) : Nat :=
  emissions.countP fun emission => emission.readCmd.isSome

section Counts

variable (emission : TxEmission) (emissions : List TxEmission)

theorem lookupsOf_cons :
    lookupsOf (emission :: emissions) =
      emission.slookupReq.isSome.toNat + lookupsOf emissions := by
  rw [lookupsOf, List.countP_cons, Nat.add_comm]
  cases emission.slookupReq.isSome <;> rfl

theorem readsOf_cons :
    readsOf (emission :: emissions) =
      emission.readCmd.isSome.toNat + readsOf emissions := by
  rw [readsOf, List.countP_cons, Nat.add_comm]
  cases emission.readCmd.isSome <;> rfl

theorem lookupsOf_append :
    lookupsOf (emissions ++ [emission]) =
      lookupsOf emissions + emission.slookupReq.isSome.toNat := by
  rw [lookupsOf, List.countP_append]
  exact congrArg _ (lookupsOf_cons emission [])

theorem readsOf_append :
    readsOf (emissions ++ [emission]) =
      readsOf emissions + emission.readCmd.isSome.toNat := by
  rw [readsOf, List.countP_append]
  exact congrArg _ (readsOf_cons emission [])

end Counts

theorem resolve_append
    (answers : TxAnswers) (lookups reads : Nat)
    (emissions : List TxEmission) (emission : TxEmission) :
    resolve answers lookups reads (emissions ++ [emission]) =
      resolve answers lookups reads emissions ++
        [resolveNext answers (lookups + lookupsOf emissions)
          (reads + readsOf emissions) emission] := by
  induction emissions generalizing lookups reads with
  | nil =>
      rfl
  | cons first later inductionHypothesis =>
      rw [List.cons_append, resolve, inductionHypothesis, lookupsOf_cons,
        readsOf_cons, Nat.add_assoc, Nat.add_assoc]
      rfl

/-! ## The modules side by side -/

/-- Beside the modules: the record of what the machine has emitted, what is
on its way to and from the session lookup and the memory, and what has been
written. -/
structure SegmentSystem where
  txEng : TxEngState
  emissions : List TxEmission
  slookupReqs : List TcpSessionID
  lookupsAnswered : Nat
  memReadCmds : List MemBufferRWCmd
  readsDone : Nat
  words : List NetAXISWord
  tupleHandler : FourTupleState
  fullHeader : FullHeaderState
  ipv4Header : Ipv4HeaderState
  pseudoPkt : TxPseudoPktState
  ipv4Headers : List NetAXISWord
  packetWords : List NetAXISWord
deriving DecidableEq, Repr

inductive SegmentAction where
  | event (event : EventWithTuple)
  | rxSarRsp (rsp : RxSarLookupRsp)
  | txSarRsp (rsp : TxSarToTxEngRsp)
  | txEngTcpFsm
  | slookup
  | readDataFromMem
  | passWord
  | txEngFourTupleHandler
  | txEngPseudoFullHeaderConstruct
  | txEngConstructPseudoPacket
  | txEngConstructIpv4Header
deriving DecidableEq, Repr

def FourTupleMsg.toIpv4Header : FourTupleMsg → Option IpAddrPair
  | .ipPair pair => some pair
  | .fourTuple _ => none

def FourTupleMsg.toFullHeader : FourTupleMsg → Option FourTuple
  | .ipPair _ => none
  | .fourTuple tuple => some tuple

namespace SegmentSystem

/-- As the design starts. -/
def start : SegmentSystem where
  txEng := TxEngState.start
  emissions := []
  slookupReqs := []
  lookupsAnswered := 0
  memReadCmds := []
  readsDone := 0
  words := []
  tupleHandler := ⟨.loadTupleSrc, [], [], []⟩
  fullHeader := ⟨[], []⟩
  ipv4Header := ⟨[], []⟩
  pseudoPkt := ⟨.readPseudo, NetAXISWord.empty, [], [], []⟩
  ipv4Headers := []
  packetWords := []

/-- `writes` of the machine reach their readers. -/
def afterTxEng
    (system : SegmentSystem) (txEng : TxEngState)
    (writes : PacketWrites) : SegmentSystem :=
  { system with
    txEng := txEng
    emissions := system.emissions ++ writes.emission.toList
    slookupReqs := system.slookupReqs ++ writes.slookupReqs
    memReadCmds := system.memReadCmds ++ writes.readCmds
    tupleHandler :=
      { system.tupleHandler with
        txFourTupleSource :=
          system.tupleHandler.txFourTupleSource ++ writes.sources
        txEngFsmFourTuple :=
          system.tupleHandler.txEngFsmFourTuple ++ writes.fourTuples }
    fullHeader :=
      { system.fullHeader with
        txEngFsmMetaData :=
          system.fullHeader.txEngFsmMetaData ++ writes.metaData }
    ipv4Header :=
      { system.ipv4Header with
        txTcpPayloadLength :=
          system.ipv4Header.txTcpPayloadLength ++ writes.lengths } }

/-- The session lookup answers the oldest question. -/
def answerLookup (answers : TxAnswers) (system : SegmentSystem) :
    SegmentSystem :=
  match system.slookupReqs with
  | [] => system
  | id :: later =>
      { system with
        slookupReqs := later
        lookupsAnswered := system.lookupsAnswered + 1
        tupleHandler :=
          { system.tupleHandler with
            slookupRsps :=
              system.tupleHandler.slookupRsps ++
                [answers.slookup system.lookupsAnswered id] } }

/-- The frame for the oldest command is on its way. -/
def readMem (answers : TxAnswers) (system : SegmentSystem) :
    SegmentSystem :=
  match system.memReadCmds with
  | [] => system
  | cmd :: later =>
      { system with
        memReadCmds := later
        readsDone := system.readsDone + 1
        words :=
          system.words ++ (answers.readData system.readsDone cmd).words }

def afterTupleHandler
    (system : SegmentSystem) (tupleHandler : FourTupleState)
    (msgs : List FourTupleMsg) : SegmentSystem :=
  { system with
    tupleHandler := tupleHandler
    fullHeader :=
      { system.fullHeader with
        txFourTupleForTcpHeader :=
          system.fullHeader.txFourTupleForTcpHeader ++
            msgs.filterMap FourTupleMsg.toFullHeader }
    ipv4Header :=
      { system.ipv4Header with
        txTcpIpPair :=
          system.ipv4Header.txTcpIpPair ++
            msgs.filterMap FourTupleMsg.toIpv4Header } }

def afterFullHeader
    (system : SegmentSystem) (fullHeader : FullHeaderState)
    (headers : List (NetAXISWord × Bool)) : SegmentSystem :=
  { system with
    fullHeader := fullHeader
    pseudoPkt :=
      { system.pseudoPkt with
        txTcpPseudoFullHeader :=
          system.pseudoPkt.txTcpPseudoFullHeader ++ headers.map Prod.fst
        txTcpPacketContainsPayload :=
          system.pseudoPkt.txTcpPacketContainsPayload ++
            headers.map Prod.snd } }

def act (answers : TxAnswers) (system : SegmentSystem) :
    SegmentAction → SegmentSystem
  | .event event =>
      { system with
        txEng :=
          { system.txEng with events := system.txEng.events ++ [event] } }
  | .rxSarRsp rsp =>
      { system with
        txEng :=
          { system.txEng with
            rxSarRsps := system.txEng.rxSarRsps ++ [rsp] } }
  | .txSarRsp rsp =>
      { system with
        txEng :=
          { system.txEng with
            txSarRsps := system.txEng.txSarRsps ++ [rsp] } }
  | .txEngTcpFsm =>
      let called := TcpOffload.txEngTcpFsm system.txEng
      system.afterTxEng called.1 (packetWrites called.2)
  | .slookup => system.answerLookup answers
  | .readDataFromMem => system.readMem answers
  | .passWord =>
      match system.words with
      | [] => system
      | word :: later =>
          { system with
            words := later
            pseudoPkt :=
              { system.pseudoPkt with
                txTcpPacketPayload :=
                  system.pseudoPkt.txTcpPacketPayload ++ [word] } }
  | .txEngFourTupleHandler =>
      let called := TcpOffload.txEngFourTupleHandler system.tupleHandler
      system.afterTupleHandler called.1 called.2
  | .txEngPseudoFullHeaderConstruct =>
      let called :=
        TcpOffload.txEngPseudoFullHeaderConstruct system.fullHeader
      system.afterFullHeader called.1 called.2
  | .txEngConstructPseudoPacket =>
      let called := TcpOffload.txEngConstructPseudoPacket system.pseudoPkt
      { system with
        pseudoPkt := called.1
        packetWords := system.packetWords ++ called.2 }
  | .txEngConstructIpv4Header =>
      let called := TcpOffload.txEngConstructIpv4Header system.ipv4Header
      { system with
        ipv4Header := called.1
        ipv4Headers := system.ipv4Headers ++ called.2 }

/-- All that was emitted has gone through: none of the modules behind the
machine can do anything. -/
def Settled (answers : TxAnswers) (system : SegmentSystem) : Prop :=
  ∀ action ∈
      [SegmentAction.slookup, .readDataFromMem, .passWord,
        .txEngFourTupleHandler, .txEngPseudoFullHeaderConstruct,
        .txEngConstructPseudoPacket, .txEngConstructIpv4Header],
    system.act answers action = system

/-- The emissions so far, each with its own answers. -/
def segments (answers : TxAnswers) (system : SegmentSystem) :
    List TxSegment :=
  resolve answers 0 0 system.emissions

end SegmentSystem

def SegmentStep (answers : TxAnswers)
    (system : SegmentSystem) (action : SegmentAction)
    (next : SegmentSystem) : Prop :=
  next = system.act answers action

/-! ## How far each module has come -/

/-- The tuples of these segments are the next answers. -/
def LookupsFrom (answers : TxAnswers) : Nat → List TxSegment → Prop
  | _, [] => True
  | count, txSegment :: later =>
      (∀ id ∈ txSegment.emission.slookupReq,
        txSegment.fourTuple = (answers.slookup count id).fourTuple) ∧
        LookupsFrom answers (count + 1) later

/-- The payloads of these segments are the next frames. -/
def ReadsFrom (answers : TxAnswers) : Nat → List TxSegment → Prop
  | _, [] => True
  | count, txSegment :: later =>
      (∀ cmd ∈ txSegment.emission.readCmd,
        txSegment.payload = some (answers.readData count cmd)) ∧
        ReadsFrom answers (count + 1) later

/-- The segments that each module has still to see.  `unsourced` and
`untupled` are those of `TxEngFourTupleHandler`, before and behind its state,
`unlooked` those of the session lookup, `unread` those of the memory,
`unheaded`, `unaddressed` and `unpacked` those of
`TxEngPseudoFullHeaderConstruct`, `TxEngConstructIpv4Header` and
`TxEngConstructPseudoPacket`.  Of the packet that is being written, `rest` are
the payload words still to be read and `held` the words still to be
written. -/
structure SegmentStages where
  unsourced : List TxSegment
  untupled : List TxSegment
  unlooked : List TxSegment
  unread : List TxSegment
  unheaded : List TxSegment
  unaddressed : List TxSegment
  unpacked : List TxSegment
  rest : List NetAXISWord
  held : List NetAXISWord

/-- `TxEngFourTupleHandler` waits for the tuple of at most one segment. -/
inductive TuplePhase :
    TxEngTupleFsm → List TxSegment → List TxSegment → Prop
  | loadTupleSrc (unsourced : List TxSegment) :
      TuplePhase .loadTupleSrc unsourced unsourced
  | readTupleFromSlupCtrl {txSegment : TxSegment}
      (unsourced : List TxSegment) :
      txSegment.fromSlookup = true →
      TuplePhase .readTupleFromSlupCtrl unsourced (txSegment :: unsourced)
  | readTupleFromTxEng {txSegment : TxSegment}
      (unsourced : List TxSegment) :
      txSegment.fromSlookup = false →
      TuplePhase .readTupleFromTxEng unsourced (txSegment :: unsourced)

/-- What of a packet is still to be read and to be written. -/
inductive PacketPhase :
    TxPseudoPktFsmState → NetAXISWord →
      List NetAXISWord → List NetAXISWord → Prop
  | readPseudo (prevWord : NetAXISWord) :
      PacketPhase .readPseudo prevWord [] []
  | readPayload (prevWord : NetAXISWord) {rest : List NetAXISWord} :
      Delimited NetAXISWord.last rest →
      PacketPhase .readPayload prevWord rest (headedWords prevWord rest)
  | extraWord (prevWord : NetAXISWord) :
      PacketPhase .extraWord prevWord [] [pseudoPacketExtra prevWord]

/-- What `TxEngFourTupleHandler` and the session lookup have still to do. -/
structure TupleStage
    (answers : TxAnswers) (system : SegmentSystem)
    (stages : SegmentStages) : Prop where
  phase :
    TuplePhase system.tupleHandler.fsmState stages.unsourced
      stages.untupled
  sources :
    Feeds TxSegment.fromSlookup system.tupleHandler.txFourTupleSource []
      stages.unsourced
  reqs :
    Feeds (fun txSegment => txSegment.emission.slookupReq)
      (system.slookupReqs.map some) [] stages.unlooked
  lookups : LookupsFrom answers system.lookupsAnswered stages.unlooked
  count :
    system.lookupsAnswered + stages.unlooked.length =
      lookupsOf system.emissions
  rsps :
    Feeds TxSegment.fourTuple
      (system.tupleHandler.slookupRsps.map
        ReverseTableToTxEngRsp.fourTuple)
      stages.unlooked (stages.untupled.filter TxSegment.fromSlookup)
  own :
    Feeds TxSegment.fourTuple system.tupleHandler.txEngFsmFourTuple []
      (stages.untupled.filter fun txSegment => !txSegment.fromSlookup)

/-- What the two modules that write headers have still to do. -/
structure HeaderStage
    (answers : TxAnswers) (system : SegmentSystem)
    (stages : SegmentStages) : Prop where
  tuples :
    Feeds TxSegment.fourTuple system.fullHeader.txFourTupleForTcpHeader
      stages.untupled stages.unheaded
  metaData :
    Feeds TxSegment.metaData system.fullHeader.txEngFsmMetaData []
      stages.unheaded
  pairs :
    Feeds TxSegment.ipPair system.ipv4Header.txTcpIpPair stages.untupled
      stages.unaddressed
  lengths :
    Feeds TxSegment.length system.ipv4Header.txTcpPayloadLength []
      stages.unaddressed
  written :
    Feeds TxSegment.ipv4Header system.ipv4Headers stages.unaddressed
      (system.segments answers)

/-- What `TxEngConstructPseudoPacket` and the memory have still to do. -/
structure PacketStage
    (answers : TxAnswers) (system : SegmentSystem)
    (stages : SegmentStages) : Prop where
  phase :
    PacketPhase system.pseudoPkt.fsmState system.pseudoPkt.prevWord
      stages.rest stages.held
  headers :
    Feeds TxSegment.header system.pseudoPkt.txTcpPseudoFullHeader
      stages.unheaded stages.unpacked
  contains :
    Feeds TxSegment.containsPayload
      system.pseudoPkt.txTcpPacketContainsPayload stages.unheaded
      stages.unpacked
  whole : ∀ txSegment ∈ stages.unpacked, txSegment.Whole
  cmds :
    Feeds (fun txSegment => txSegment.emission.readCmd)
      (system.memReadCmds.map some) [] stages.unread
  reads : ReadsFrom answers system.readsDone stages.unread
  count :
    system.readsDone + stages.unread.length = readsOf system.emissions
  words :
    system.pseudoPkt.txTcpPacketPayload ++ system.words ++
        stages.unread.flatMap TxSegment.payloadWords =
      stages.rest ++ stages.unpacked.flatMap TxSegment.payloadWords
  written :
    system.packetWords ++
        (stages.held ++ stages.unpacked.flatMap TxSegment.packet) =
      (system.segments answers).flatMap TxSegment.packet

structure InRoute
    (answers : TxAnswers) (system : SegmentSystem)
    (stages : SegmentStages) : Prop where
  clear : system.txEng.SynClear
  emitted : ∀ emission ∈ system.emissions, emission.Whole
  tuple : TupleStage answers system stages
  header : HeaderStage answers system stages
  packet : PacketStage answers system stages

theorem inRoute_start (answers : TxAnswers) :
    InRoute answers SegmentSystem.start
      ⟨[], [], [], [], [], [], [], [], []⟩ where
  clear := fun _ loaded => (by cases loaded)
  emitted := fun _ member => (by cases member)
  tuple :=
    ⟨TuplePhase.loadTupleSrc _, Feeds.start _, Feeds.start _, trivial, rfl,
      Feeds.start _, Feeds.start _⟩
  header :=
    ⟨Feeds.start _, Feeds.start _, Feeds.start _, Feeds.start _,
      Feeds.start _⟩
  packet :=
    ⟨PacketPhase.readPseudo _, Feeds.start _, Feeds.start _,
      fun _ member => (by cases member), Feeds.start _, trivial, rfl, rfl,
      rfl⟩

/-! ## A new emission -/

section Emission

variable {answers : TxAnswers} {count : Nat}
variable {txSegments : List TxSegment} {txSegment : TxSegment}

theorem LookupsFrom.append
    (lookups : LookupsFrom answers count txSegments)
    {later : List TxSegment}
    (next : LookupsFrom answers (count + txSegments.length) later) :
    LookupsFrom answers count (txSegments ++ later) := by
  induction txSegments generalizing count with
  | nil =>
      exact next
  | cons first rest inductionHypothesis =>
      refine ⟨lookups.1, inductionHypothesis lookups.2 ?_⟩
      rw [Nat.add_assoc, Nat.add_comm 1]
      exact next

theorem ReadsFrom.append
    (reads : ReadsFrom answers count txSegments)
    {later : List TxSegment}
    (next : ReadsFrom answers (count + txSegments.length) later) :
    ReadsFrom answers count (txSegments ++ later) := by
  induction txSegments generalizing count with
  | nil =>
      exact next
  | cons first rest inductionHypothesis =>
      refine ⟨reads.1, inductionHypothesis reads.2 ?_⟩
      rw [Nat.add_assoc, Nat.add_comm 1]
      exact next

theorem TuplePhase.extend
    {fsmState : TxEngTupleFsm} {unsourced untupled : List TxSegment}
    (phase : TuplePhase fsmState unsourced untupled)
    (later : List TxSegment) :
    TuplePhase fsmState (unsourced ++ later) (untupled ++ later) := by
  cases phase with
  | loadTupleSrc =>
      exact TuplePhase.loadTupleSrc _
  | readTupleFromSlupCtrl _ isLooked =>
      exact TuplePhase.readTupleFromSlupCtrl _ isLooked
  | readTupleFromTxEng _ notLooked =>
      exact TuplePhase.readTupleFromTxEng _ notLooked

variable {lookups reads : Nat} {emission : TxEmission}

theorem lookupsFrom_resolveNext :
    LookupsFrom answers lookups
      ([resolveNext answers lookups reads emission].filter
        TxSegment.fromSlookup) := by
  rw [List.filter_singleton]
  cases looked :
      (resolveNext answers lookups reads emission).fromSlookup with
  | false =>
      trivial
  | true =>
      refine ⟨fun id isReq => ?_, trivial⟩
      change emission.slookupReq = some id at isReq
      rw [resolveNext, isReq]

theorem readsFrom_resolveNext :
    ReadsFrom answers reads
      ([resolveNext answers lookups reads emission].filter
        TxSegment.readsPayload) := by
  rw [List.filter_singleton]
  cases isRead :
      (resolveNext answers lookups reads emission).readsPayload with
  | false =>
      trivial
  | true =>
      refine ⟨fun cmd isCmd => ?_, trivial⟩
      change emission.readCmd = some cmd at isCmd
      rw [resolveNext, isCmd]
      rfl

theorem whole_resolveNext (whole : emission.Whole) :
    (resolveNext answers lookups reads emission).Whole where
  payload := Option.isSome_map
  contains := whole.payload

/-- The questions of an emission are those of its segment. -/
theorem reqs_resolveNext :
    emission.slookupReq.toList.map some =
      ([resolveNext answers lookups reads emission].filter
        TxSegment.fromSlookup).map
          fun txSegment => txSegment.emission.slookupReq := by
  obtain ⟨segment, slookupReq, ownTuple, readCmd⟩ := emission
  cases slookupReq <;> rfl

theorem cmds_resolveNext :
    emission.readCmd.toList.map some =
      ([resolveNext answers lookups reads emission].filter
        TxSegment.readsPayload).map
          fun txSegment => txSegment.emission.readCmd := by
  obtain ⟨segment, slookupReq, ownTuple, readCmd⟩ := emission
  cases readCmd <;> rfl

theorem ownTuple_resolveNext (whole : emission.Whole) :
    emission.ownTuple.toList =
      ([resolveNext answers lookups reads emission].filter
        fun txSegment => !txSegment.fromSlookup).map
          TxSegment.fourTuple := by
  obtain ⟨segment, slookupReq, ownTuple, readCmd⟩ := emission
  have source := whole.source
  cases slookupReq with
  | none =>
      cases ownTuple with
      | none =>
          cases source
      | some tuple =>
          rfl
  | some id =>
      cases ownTuple with
      | none =>
          rfl
      | some tuple =>
          cases source

theorem payloadWords_resolveNext :
    ([resolveNext answers lookups reads emission].filter
        TxSegment.readsPayload).flatMap TxSegment.payloadWords =
      [resolveNext answers lookups reads emission].flatMap
        TxSegment.payloadWords := by
  obtain ⟨segment, slookupReq, ownTuple, readCmd⟩ := emission
  cases readCmd <;> rfl

theorem length_filter_toNat (test : TxSegment → Bool) :
    ([txSegment].filter test).length = (test txSegment).toNat := by
  rw [List.filter_singleton]
  cases test txSegment <;> rfl

end Emission

namespace InRoute

variable {answers : TxAnswers} {system : SegmentSystem}
variable {stages : SegmentStages}

/-! ## One step -/

theorem passWord (inRoute : InRoute answers system stages) :
    InRoute answers (system.act answers .passWord) stages := by
  rw [SegmentSystem.act]
  cases words : system.words with
  | nil =>
      exact inRoute
  | cons word later =>
      have order := inRoute.packet.words
      rw [words, List.append_cons] at order
      exact
        { inRoute with
          tuple := { inRoute.tuple with }
          header := { inRoute.header with }
          packet := { inRoute.packet with words := order } }

theorem answerLookup (inRoute : InRoute answers system stages) :
    ∃ next, InRoute answers (system.answerLookup answers) next := by
  rw [SegmentSystem.answerLookup]
  cases reqs : system.slookupReqs with
  | nil =>
      exact ⟨stages, inRoute⟩
  | cons id later =>
      have asked := inRoute.tuple.reqs
      rw [reqs, List.map_cons] at asked
      obtain ⟨txSegment, unlooked, first, own, rest⟩ := asked.pop
      have lookups := inRoute.tuple.lookups
      have rsps := inRoute.tuple.rsps
      have count := inRoute.tuple.count
      rw [first] at lookups rsps count
      have answered := rsps.push
      rw [lookups.1 id own.symm] at answered
      have counted :
          system.lookupsAnswered + 1 + unlooked.length =
            lookupsOf system.emissions := by
        rw [← count, List.length_cons]
        omega
      exact
        ⟨{ stages with unlooked := unlooked },
          { inRoute with
            tuple :=
              { inRoute.tuple with
                reqs := rest
                lookups := lookups.2
                count := counted
                rsps := by
                  change
                    Feeds _
                      ((system.tupleHandler.slookupRsps ++
                        [answers.slookup system.lookupsAnswered id]).map
                          _) _ _
                  rw [List.map_append]
                  exact answered }
            header := { inRoute.header with }
            packet := { inRoute.packet with } }⟩

theorem readMem (inRoute : InRoute answers system stages) :
    ∃ next, InRoute answers (system.readMem answers) next := by
  rw [SegmentSystem.readMem]
  cases cmds : system.memReadCmds with
  | nil =>
      exact ⟨stages, inRoute⟩
  | cons cmd later =>
      have asked := inRoute.packet.cmds
      rw [cmds, List.map_cons] at asked
      obtain ⟨txSegment, unread, first, own, rest⟩ := asked.pop
      have reads := inRoute.packet.reads
      have words := inRoute.packet.words
      have count := inRoute.packet.count
      rw [first] at reads words count
      rw [List.flatMap_cons, TxSegment.payloadWords,
        reads.1 cmd own.symm] at words
      have counted :
          system.readsDone + 1 + unread.length =
            readsOf system.emissions := by
        rw [← count, List.length_cons]
        omega
      exact
        ⟨{ stages with unread := unread },
          { inRoute with
            tuple := { inRoute.tuple with }
            header := { inRoute.header with }
            packet :=
              { inRoute.packet with
                cmds := rest
                reads := reads.2
                count := counted
                words := by
                  rw [← words]
                  simp only [List.append_assoc] } }⟩

/-- The tuple of the first segment goes to both writers of headers. -/
theorem writesTuple
    (inRoute : InRoute answers system stages)
    {txSegment : TxSegment} {untupled : List TxSegment}
    (front : stages.untupled = txSegment :: untupled)
    (unsourced : untupled = stages.unsourced)
    {tupleHandler : FourTupleState}
    (loads : tupleHandler.fsmState = .loadTupleSrc)
    (sameSources :
      tupleHandler.txFourTupleSource =
        system.tupleHandler.txFourTupleSource)
    (rsps :
      Feeds TxSegment.fourTuple
        (tupleHandler.slookupRsps.map ReverseTableToTxEngRsp.fourTuple)
        stages.unlooked (untupled.filter TxSegment.fromSlookup))
    (own :
      Feeds TxSegment.fourTuple tupleHandler.txEngFsmFourTuple []
        (untupled.filter fun other => !other.fromSlookup)) :
    InRoute answers
      (system.afterTupleHandler tupleHandler txSegment.fourTuple.msgs)
      { stages with untupled := untupled } := by
  have tuples := inRoute.header.tuples
  have pairs := inRoute.header.pairs
  have sources := inRoute.tuple.sources
  rw [front] at tuples pairs
  rw [← sameSources] at sources
  exact
    { inRoute with
      tuple :=
        { inRoute.tuple with
          phase := by
            change TuplePhase tupleHandler.fsmState stages.unsourced untupled
            rw [loads, unsourced]
            exact TuplePhase.loadTupleSrc _
          sources := sources
          rsps := rsps
          own := own }
      header :=
        { inRoute.header with
          tuples := tuples.push
          pairs := pairs.push }
      packet := { inRoute.packet with } }

theorem txEngFourTupleHandler (inRoute : InRoute answers system stages) :
    ∃ next,
      InRoute answers (system.act answers .txEngFourTupleHandler) next := by
  change
    ∃ next,
      InRoute answers
        (system.afterTupleHandler
          (TcpOffload.txEngFourTupleHandler system.tupleHandler).1
          (TcpOffload.txEngFourTupleHandler system.tupleHandler).2)
        next
  have phase := inRoute.tuple.phase
  have rsps := inRoute.tuple.rsps
  have own := inRoute.tuple.own
  have nothing :
      InRoute answers
        (system.afterTupleHandler system.tupleHandler []) stages := by
    simp only [SegmentSystem.afterTupleHandler, List.filterMap_nil,
      List.append_nil]
    exact inRoute
  rw [TcpOffload.txEngFourTupleHandler]
  generalize fsmStateEq : system.tupleHandler.fsmState = fsmState at phase
  generalize untupledEq : stages.untupled = untupled at phase
  cases phase with
  | loadTupleSrc unsourced =>
      simp only []
      cases queued : system.tupleHandler.txFourTupleSource with
      | nil =>
          exact ⟨stages, nothing⟩
      | cons fromSlookup later =>
          have sources := inRoute.tuple.sources
          rw [queued] at sources
          obtain ⟨txSegment, unsourced, first, flag, rest⟩ := sources.pop
          simp only [SegmentSystem.afterTupleHandler, List.filterMap_nil,
            List.append_nil]
          exact
            ⟨{ stages with unsourced := unsourced },
              { inRoute with
                tuple :=
                  { inRoute.tuple with
                    phase := by
                      change
                        TuplePhase
                          (if fromSlookup then .readTupleFromSlupCtrl
                            else .readTupleFromTxEng)
                          unsourced stages.untupled
                      rw [untupledEq, first, flag]
                      cases isLooked : txSegment.fromSlookup with
                      | true =>
                          exact TuplePhase.readTupleFromSlupCtrl _ isLooked
                      | false =>
                          exact TuplePhase.readTupleFromTxEng _ isLooked
                    sources := rest }
                header := { inRoute.header with }
                packet := { inRoute.packet with } }⟩
  | @readTupleFromSlupCtrl txSegment unsourced isLooked =>
      simp only []
      rw [untupledEq, List.filter_cons, if_pos isLooked] at rsps
      rw [untupledEq, List.filter_cons, if_neg (by rw [isLooked]; decide)]
        at own
      cases queued : system.tupleHandler.slookupRsps with
      | nil =>
          exact ⟨stages, nothing⟩
      | cons rsp later =>
          rw [queued, List.map_cons] at rsps
          obtain ⟨tuple, rest⟩ := rsps.popKnown
          simp only [tuple]
          exact
            ⟨_,
              inRoute.writesTuple untupledEq rfl rfl rfl rest own⟩
  | @readTupleFromTxEng txSegment unsourced notLooked =>
      simp only []
      rw [untupledEq, List.filter_cons,
        if_neg (by rw [notLooked]; decide)] at rsps
      rw [untupledEq, List.filter_cons, if_pos (by rw [notLooked]; rfl)]
        at own
      cases queued : system.tupleHandler.txEngFsmFourTuple with
      | nil =>
          exact ⟨stages, nothing⟩
      | cons tuple later =>
          rw [queued] at own
          obtain ⟨same, rest⟩ := own.popKnown
          rw [same]
          exact
            ⟨_,
              inRoute.writesTuple untupledEq rfl rfl rfl rsps rest⟩

theorem txEngPseudoFullHeaderConstruct
    (inRoute : InRoute answers system stages) :
    ∃ next,
      InRoute answers
        (system.act answers .txEngPseudoFullHeaderConstruct) next := by
  change
    ∃ next,
      InRoute answers
        (system.afterFullHeader
          (TcpOffload.txEngPseudoFullHeaderConstruct system.fullHeader).1
          (TcpOffload.txEngPseudoFullHeaderConstruct system.fullHeader).2)
        next
  rw [TcpOffload.txEngPseudoFullHeaderConstruct]
  split
  · rename_i tuple tuples metaData metaDatas queuedTuples queuedMeta
    have tupleFeeds := inRoute.header.tuples
    have metaFeeds := inRoute.header.metaData
    have headers := inRoute.packet.headers
    have contains := inRoute.packet.contains
    rw [queuedTuples] at tupleFeeds
    rw [queuedMeta] at metaFeeds
    obtain ⟨txSegment, unheaded, front, ownTuple, tupleRest⟩ :=
      tupleFeeds.pop
    rw [front] at metaFeeds headers contains
    obtain ⟨ownMeta, metaRest⟩ := metaFeeds.popKnown
    rw [ownTuple, ownMeta]
    exact
      ⟨{ stages with unheaded := unheaded },
        { inRoute with
          tuple := { inRoute.tuple with }
          header :=
            { inRoute.header with
              tuples := tupleRest
              metaData := metaRest }
          packet :=
            { inRoute.packet with
              headers := headers.push
              contains := contains.push } }⟩
  · simp only [SegmentSystem.afterFullHeader, List.map_nil,
      List.append_nil]
    exact ⟨stages, inRoute⟩

theorem txEngConstructIpv4Header
    (inRoute : InRoute answers system stages) :
    ∃ next,
      InRoute answers (system.act answers .txEngConstructIpv4Header)
        next := by
  rw [SegmentSystem.act, TcpOffload.txEngConstructIpv4Header]
  split
  · rename_i length lengths pair pairs queuedLengths queuedPairs
    have lengthFeeds := inRoute.header.lengths
    have pairFeeds := inRoute.header.pairs
    have written := inRoute.header.written
    rw [queuedLengths] at lengthFeeds
    rw [queuedPairs] at pairFeeds
    obtain ⟨txSegment, unaddressed, front, ownPair, pairRest⟩ :=
      pairFeeds.pop
    rw [front] at lengthFeeds written
    obtain ⟨ownLength, lengthRest⟩ := lengthFeeds.popKnown
    rw [ownPair, ownLength]
    exact
      ⟨{ stages with unaddressed := unaddressed },
        { inRoute with
          tuple := { inRoute.tuple with }
          header :=
            { inRoute.header with
              pairs := pairRest
              lengths := lengthRest
              written := written.push }
          packet := { inRoute.packet with } }⟩
  · simp only [List.append_nil]
    exact ⟨stages, inRoute⟩

/-- A header is read that needs no payload, or is held for its payload. -/
theorem readPseudo
    (inRoute : InRoute answers system stages)
    {header : NetAXISWord} {headers : List NetAXISWord}
    {packetContainsPayload : Bool} {contains : List Bool}
    (reads : system.pseudoPkt.fsmState = .readPseudo)
    (queuedHeaders :
      system.pseudoPkt.txTcpPseudoFullHeader = header :: headers)
    (queuedContains :
      system.pseudoPkt.txTcpPacketContainsPayload =
        packetContainsPayload :: contains) :
    ∃ next,
      InRoute answers
        { system with
          pseudoPkt :=
            if packetContainsPayload then
              { system.pseudoPkt with
                fsmState := .readPayload
                prevWord := header
                txTcpPseudoFullHeader := headers
                txTcpPacketContainsPayload := contains }
            else
              { system.pseudoPkt with
                fsmState := .readPseudo
                txTcpPseudoFullHeader := headers
                txTcpPacketContainsPayload := contains }
          packetWords :=
            system.packetWords ++
              if packetContainsPayload then [] else [header] }
        next := by
  have headerFeeds := inRoute.packet.headers
  have containsFeeds := inRoute.packet.contains
  have words := inRoute.packet.words
  have written := inRoute.packet.written
  have whole := inRoute.packet.whole
  have phase := inRoute.packet.phase
  rw [queuedHeaders] at headerFeeds
  rw [queuedContains] at containsFeeds
  obtain ⟨txSegment, unpacked, front, ownHeader, headerRest⟩ :=
    headerFeeds.pop
  rw [front] at containsFeeds words written whole
  obtain ⟨ownContains, containsRest⟩ := containsFeeds.popKnown
  have wholeFirst := whole txSegment List.mem_cons_self
  have wholeRest : ∀ other ∈ unpacked, other.Whole :=
    fun other member => whole other (List.mem_cons_of_mem _ member)
  have hasPayload : txSegment.payload.isSome = packetContainsPayload := by
    rw [ownContains, wholeFirst.contains, wholeFirst.payload]
  rw [reads] at phase
  generalize restEq : stages.rest = rest at phase
  generalize heldEq : stages.held = held at phase
  cases phase
  rw [restEq, List.nil_append, List.flatMap_cons,
    TxSegment.payloadWords] at words
  rw [heldEq, List.nil_append, List.flatMap_cons,
    TxSegment.packet] at written
  cases payloadEq : txSegment.payload with
  | none =>
      rw [payloadEq] at hasPayload words written
      rw [← hasPayload]
      refine
        ⟨{ stages with unpacked := unpacked },
          { inRoute with
            tuple := { inRoute.tuple with }
            header := { inRoute.header with }
            packet :=
              { inRoute.packet with
                phase := ?_
                headers := headerRest
                contains := containsRest
                whole := wholeRest
                words := ?_
                written := ?_ } }⟩
      · change PacketPhase .readPseudo _ stages.rest stages.held
        rw [restEq, heldEq]
        exact PacketPhase.readPseudo _
      · change _ = stages.rest ++ _
        rw [restEq]
        exact words
      · change
          (system.packetWords ++ [header]) ++ (stages.held ++ _) = _
        rw [heldEq, ownHeader, List.append_assoc]
        exact written
  | some payload =>
      rw [payloadEq] at hasPayload words written
      rw [← hasPayload]
      refine
        ⟨{ stages with
            unpacked := unpacked
            rest := payload.words
            held := headedWords header payload.words },
          { inRoute with
            tuple := { inRoute.tuple with }
            header := { inRoute.header with }
            packet :=
              { inRoute.packet with
                phase := PacketPhase.readPayload _ payload.framed.delimited
                headers := headerRest
                contains := containsRest
                whole := wholeRest
                words := words
                written := ?_ } }⟩
      change (system.packetWords ++ []) ++ _ = _
      rw [List.append_nil, ownHeader]
      exact written

/-- A payload word is read, and what it calls for is written. -/
theorem readPayload
    (inRoute : InRoute answers system stages)
    {curWord : NetAXISWord} {later : List NetAXISWord}
    (reads : system.pseudoPkt.fsmState = .readPayload)
    (queued : system.pseudoPkt.txTcpPacketPayload = curWord :: later) :
    ∃ next,
      InRoute answers
        { system with
          pseudoPkt :=
            { system.pseudoPkt with
              fsmState :=
                if curWord.last then
                  if curWord.keep.getLsbD 32 then .extraWord
                  else .readPseudo
                else
                  .readPayload
              prevWord := curWord
              txTcpPacketPayload := later }
          packetWords :=
            system.packetWords ++
              [(pseudoPacketWord curWord system.pseudoPkt.prevWord).withLast
                (curWord.last && !curWord.keep.getLsbD 32)] }
        next := by
  have words := inRoute.packet.words
  have written := inRoute.packet.written
  have phase := inRoute.packet.phase
  rw [reads] at phase
  generalize restEq : stages.rest = rest at phase
  generalize heldEq : stages.held = held at phase
  generalize prevEq : system.pseudoPkt.prevWord = prevWord at phase
  cases phase with
  | readPayload _ delimited =>
      rw [restEq, queued] at words
      rw [heldEq] at written
      have step (nextState : TxPseudoPktFsmState)
          (word : NetAXISWord) (left held : List NetAXISWord)
          (nextPhase : PacketPhase nextState curWord left held)
          (restSplit : rest = curWord :: left)
          (heldSplit : headedWords prevWord rest = word :: held) :
          InRoute answers
            { system with
              pseudoPkt :=
                { system.pseudoPkt with
                  fsmState := nextState
                  prevWord := curWord
                  txTcpPacketPayload := later }
              packetWords := system.packetWords ++ [word] }
            { stages with rest := left, held := held } := by
        rw [restSplit] at words
        rw [heldSplit] at written
        exact
          { inRoute with
            tuple := { inRoute.tuple with }
            header := { inRoute.header with }
            packet :=
              { inRoute.packet with
                phase := nextPhase
                words := (List.cons.inj words).2
                written := by
                  change (system.packetWords ++ [word]) ++ _ = _
                  rw [List.append_assoc]
                  exact written } }
      cases delimited with
      | @final word raised =>
          obtain ⟨same, _⟩ := List.cons.inj words
          subst same
          rw [if_pos raised, raised, Bool.true_and]
          by_cases extra : curWord.keep.getLsbD 32 = true
          · rw [if_pos extra, extra]
            refine
              ⟨_, step .extraWord _ [] [pseudoPacketExtra curWord]
                (PacketPhase.extraWord _) rfl ?_⟩
            rw [headedWords, if_pos raised, if_pos extra]
            rfl
          · rw [if_neg extra, Bool.eq_false_iff.2 extra]
            refine
              ⟨_, step .readPseudo _ [] [] (PacketPhase.readPseudo _) rfl
                ?_⟩
            rw [headedWords, if_pos raised, if_neg extra]
            rfl
      | @more word left notRaised leftDelimited =>
          obtain ⟨same, _⟩ := List.cons.inj words
          subst same
          rw [notRaised, Bool.false_and]
          refine
            ⟨_, step .readPayload _ left (headedWords curWord left)
              (PacketPhase.readPayload _ leftDelimited) rfl ?_⟩
          rw [headedWords, if_neg (by rw [notRaised]; decide)]

theorem txEngConstructPseudoPacket
    (inRoute : InRoute answers system stages) :
    ∃ next,
      InRoute answers (system.act answers .txEngConstructPseudoPacket)
        next := by
  change
    ∃ next,
      InRoute answers
        { system with
          pseudoPkt :=
            (TcpOffload.txEngConstructPseudoPacket system.pseudoPkt).1
          packetWords :=
            system.packetWords ++
              (TcpOffload.txEngConstructPseudoPacket system.pseudoPkt).2 }
        next
  have nothing :
      InRoute answers
        { system with packetWords := system.packetWords ++ [] } stages := by
    rw [List.append_nil]
    exact inRoute
  rw [TcpOffload.txEngConstructPseudoPacket]
  cases fsmState : system.pseudoPkt.fsmState with
  | readPseudo =>
      simp only []
      split
      · rename_i header headers packetContainsPayload contains
          queuedHeaders queuedContains
        have read :=
          inRoute.readPseudo fsmState queuedHeaders queuedContains
        cases packetContainsPayload with
        | false =>
            exact read
        | true =>
            exact read
      · exact ⟨stages, nothing⟩
  | readPayload =>
      simp only []
      split
      · exact ⟨stages, nothing⟩
      · rename_i curWord later queued
        exact inRoute.readPayload fsmState queued
  | extraWord =>
      have words := inRoute.packet.words
      have written := inRoute.packet.written
      have phase := inRoute.packet.phase
      rw [fsmState] at phase
      generalize restEq : stages.rest = rest at phase
      generalize heldEq : stages.held = held at phase
      generalize prevEq : system.pseudoPkt.prevWord = prevWord at phase
      cases phase
      rw [restEq] at words
      rw [heldEq] at written
      have moved :
          (system.packetWords ++ [pseudoPacketExtra prevWord]) ++
              ([] ++ stages.unpacked.flatMap TxSegment.packet) =
            (system.segments answers).flatMap TxSegment.packet := by
        rw [List.append_assoc]
        exact written
      exact
        ⟨{ stages with rest := [], held := [] },
          { inRoute with
            tuple := { inRoute.tuple with }
            header := { inRoute.header with }
            packet :=
              { inRoute.packet with
                phase := PacketPhase.readPseudo _
                words := words
                written := moved } }⟩

theorem emits
    (inRoute : InRoute answers system stages)
    {txEng : TxEngState} (clear : txEng.SynClear)
    {emission : TxEmission} (whole : emission.Whole) :
    ∃ next,
      InRoute answers (system.afterTxEng txEng emission.writes) next := by
  have emitted :
      (system.afterTxEng txEng emission.writes).emissions =
        system.emissions ++ [emission] := by
    rw [SegmentSystem.afterTxEng, PacketWrites.emission_writes]
    rfl
  have segmentsNext := resolve_append answers 0 0 system.emissions emission
  rw [Nat.zero_add, Nat.zero_add, ← emitted] at segmentsNext
  have newTuple := @ownTuple_resolveNext answers
    (lookupsOf system.emissions) (readsOf system.emissions) emission whole
  have newReqs := @reqs_resolveNext answers (lookupsOf system.emissions)
    (readsOf system.emissions) emission
  have newCmds := @cmds_resolveNext answers (lookupsOf system.emissions)
    (readsOf system.emissions) emission
  have newWords := @payloadWords_resolveNext answers
    (lookupsOf system.emissions) (readsOf system.emissions) emission
  have newLookups := @lookupsFrom_resolveNext answers
    (lookupsOf system.emissions) (readsOf system.emissions) emission
  have newReads := @readsFrom_resolveNext answers
    (lookupsOf system.emissions) (readsOf system.emissions) emission
  have newWhole := @whole_resolveNext answers
    (lookupsOf system.emissions) (readsOf system.emissions) emission whole
  have ownFlag :
      (resolveNext answers (lookupsOf system.emissions)
        (readsOf system.emissions) emission).fromSlookup =
          emission.slookupReq.isSome :=
    rfl
  have ownRead :
      (resolveNext answers (lookupsOf system.emissions)
        (readsOf system.emissions) emission).readsPayload =
          emission.readCmd.isSome :=
    rfl
  have ownMeta :
      (resolveNext answers (lookupsOf system.emissions)
        (readsOf system.emissions) emission).metaData =
          emission.segment :=
    rfl
  change
    (system.afterTxEng txEng emission.writes).segments answers =
      system.segments answers ++ [_] at segmentsNext
  generalize resolveNext answers (lookupsOf system.emissions)
    (readsOf system.emissions) emission = txSegment at *
  rw [← inRoute.tuple.count] at newLookups
  rw [← inRoute.packet.count] at newReads
  refine
    ⟨{ stages with
        unsourced := stages.unsourced ++ [txSegment]
        untupled := stages.untupled ++ [txSegment]
        unlooked :=
          stages.unlooked ++ [txSegment].filter TxSegment.fromSlookup
        unread :=
          stages.unread ++ [txSegment].filter TxSegment.readsPayload
        unheaded := stages.unheaded ++ [txSegment]
        unaddressed := stages.unaddressed ++ [txSegment]
        unpacked := stages.unpacked ++ [txSegment] },
      clear, ?_, ?_, ?_, ?_⟩
  · rw [emitted]
    intro other member
    rcases List.mem_append.1 member with before | isNew
    · exact inRoute.emitted other before
    · rw [List.mem_singleton.1 isNew]
      exact whole
  · refine
      ⟨inRoute.tuple.phase.extend _, ?_, ?_,
        inRoute.tuple.lookups.append newLookups, ?_, ?_, ?_⟩
    · have sources := inRoute.tuple.sources.grow [txSegment]
      rw [List.map_singleton, ownFlag] at sources
      exact sources
    · have reqs :=
        inRoute.tuple.reqs.grow ([txSegment].filter TxSegment.fromSlookup)
      rw [← newReqs, ← List.map_append] at reqs
      exact reqs
    · rw [emitted, lookupsOf_append, ← inRoute.tuple.count,
        List.length_append, length_filter_toNat, ownFlag, Nat.add_assoc]
      rfl
    · have rsps :=
        inRoute.tuple.rsps.extend
          ([txSegment].filter TxSegment.fromSlookup)
      rw [← List.filter_append] at rsps
      exact rsps
    · have own :=
        inRoute.tuple.own.grow
          ([txSegment].filter fun other => !other.fromSlookup)
      rw [← newTuple, ← List.filter_append] at own
      exact own
  · refine
      ⟨inRoute.header.tuples.extend _, ?_, inRoute.header.pairs.extend _,
        ?_, ?_⟩
    · have metaData := inRoute.header.metaData.grow [txSegment]
      rw [List.map_singleton, ownMeta] at metaData
      exact metaData
    · have lengths := inRoute.header.lengths.grow [txSegment]
      rw [List.map_singleton, TxSegment.length, ownMeta] at lengths
      exact lengths
    · rw [segmentsNext]
      exact inRoute.header.written.extend _
  · refine
      ⟨inRoute.packet.phase, inRoute.packet.headers.extend _,
        inRoute.packet.contains.extend _, ?_, ?_,
        inRoute.packet.reads.append newReads, ?_, ?_, ?_⟩
    · intro other member
      rcases List.mem_append.1 member with before | isNew
      · exact inRoute.packet.whole other before
      · rw [List.mem_singleton.1 isNew]
        exact newWhole
    · have cmds :=
        inRoute.packet.cmds.grow
          ([txSegment].filter TxSegment.readsPayload)
      rw [← newCmds, ← List.map_append] at cmds
      exact cmds
    · rw [emitted, readsOf_append, ← inRoute.packet.count,
        List.length_append, length_filter_toNat, ownRead, Nat.add_assoc]
      rfl
    · simp only [List.flatMap_append, newWords]
      rw [← List.append_assoc, ← List.append_assoc,
        ← inRoute.packet.words]
      rfl
    · rw [segmentsNext]
      simp only [List.flatMap_append]
      rw [← inRoute.packet.written]
      simp only [List.append_assoc]
      rfl

theorem txEngTcpFsm (inRoute : InRoute answers system stages) :
    ∃ next, InRoute answers (system.act answers .txEngTcpFsm) next := by
  rw [SegmentSystem.act]
  obtain ⟨clear, once⟩ := emitsOnce_txEngTcpFsm inRoute.clear
  rcases once with nothing | ⟨emission, whole, written⟩
  · simp only [nothing, SegmentSystem.afterTxEng, PacketWrites.none,
      PacketWrites.emission, List.head?_nil, Option.map_none,
      Option.toList_none, List.append_nil]
    exact
      ⟨stages,
        { inRoute with
          clear := clear
          tuple := { inRoute.tuple with }
          header := { inRoute.header with }
          packet := { inRoute.packet with } }⟩
  · simp only [written]
    exact inRoute.emits clear whole

theorem step
    (inRoute : InRoute answers system stages) (action : SegmentAction) :
    ∃ next, InRoute answers (system.act answers action) next := by
  cases action with
  | event | rxSarRsp | txSarRsp =>
      exact
        ⟨stages,
          { inRoute with
            tuple := { inRoute.tuple with }
            header := { inRoute.header with }
            packet := { inRoute.packet with } }⟩
  | txEngTcpFsm =>
      exact inRoute.txEngTcpFsm
  | slookup =>
      exact inRoute.answerLookup
  | readDataFromMem =>
      exact inRoute.readMem
  | passWord =>
      exact ⟨stages, inRoute.passWord⟩
  | txEngFourTupleHandler =>
      exact inRoute.txEngFourTupleHandler
  | txEngPseudoFullHeaderConstruct =>
      exact inRoute.txEngPseudoFullHeaderConstruct
  | txEngConstructPseudoPacket =>
      exact inRoute.txEngConstructPseudoPacket
  | txEngConstructIpv4Header =>
      exact inRoute.txEngConstructIpv4Header

end InRoute

end TcpOffload
