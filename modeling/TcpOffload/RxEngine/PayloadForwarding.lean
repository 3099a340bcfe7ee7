import TcpOffload.RxEngine.PayloadRoute

/-!
# Which payloads are forwarded

What the dropper has read and written in a run, and what it has when no
module can do anything any more.
-/

namespace TcpOffload

open Framing Guarded
open Queues

/-! ## What has been forwarded -/

theorem DropperPhase.part_prefix
    {fsmState : RxDropperFsmState} {roleId : NetAXISDest}
    {unrouted unchecked unmet unjudged : List RxVerdict}
    {words part : List NetAXISWord}
    (phase :
      DropperPhase fsmState roleId unrouted unchecked unmet unjudged words
        part) :
    (unrouted = [] → part = []) ∧
      ∀ verdict ∈ unrouted.head?,
        ∃ rest, verdict.frame = part ++ rest := by
  cases phase with
  | rdVerifyChecksum | rdMetaHandler | rdFsmDrop =>
      exact ⟨fun _ => rfl, fun verdict _ => ⟨verdict.frame, rfl⟩⟩
  | fwd _ _ frame _ | drop _ _ _ frame _ =>
      refine ⟨fun none => (by cases none), ?_⟩
      intro verdict isFirst
      cases isFirst
      exact ⟨_, frame⟩

/-- Packets without payload make no difference. -/
theorem Routed.of_filter
    {verdicts : List RxVerdict} {taken out : List NetAXISWord}
    (routed :
      Routed (verdicts.filter RxVerdict.hasPayload) taken out) :
    Routed verdicts taken out := by
  induction verdicts generalizing taken out with
  | nil =>
      exact routed
  | cons verdict later inductionHypothesis =>
      rw [List.filter_cons] at routed
      split at routed
      · cases routed with
        | inside split =>
            exact Routed.inside split
        | next rest =>
            exact Routed.next (inductionHypothesis rest)
      · rename_i noPayload
        have none :=
          RxVerdict.frame_eq_nil (Bool.eq_false_iff.2 noPayload)
        have rest :=
          @Routed.next verdict _ _ _ (inductionHypothesis routed)
        rw [none, verdict.routed_nil, List.nil_append,
          List.nil_append] at rest
        exact rest

theorem InStages.routed
    {answers : RxAnswers} {verdicts : List RxVerdict}
    {system : PayloadSystem} {stages : Stages}
    (inStages : InStages answers verdicts system stages) :
    Routed verdicts system.taken system.out := by
  apply Routed.of_filter
  obtain ⟨atEnd, inFirst⟩ := inStages.dropper.phase.part_prefix
  rw [inStages.dropper.whole, inStages.dropper.taken,
    inStages.dropper.out]
  induction stages.routed with
  | nil =>
      cases front : stages.unrouted with
      | nil =>
          rw [atEnd front]
          exact Routed.nil
      | cons verdict unrouted =>
          rw [front] at inFirst
          obtain ⟨rest, split⟩ := inFirst verdict rfl
          exact Routed.inside split
  | cons verdict routed inductionHypothesis =>
      rw [List.cons_append, List.flatMap_cons, List.flatMap_cons,
        List.append_assoc, List.append_assoc]
      exact Routed.next inductionHypothesis

/-! ## When nothing is left to do -/

section Quiet

variable {answers : RxAnswers} {verdicts : List RxVerdict}
variable {system : PayloadSystem} {stages : Stages}

theorem PayloadSystem.Quiet.arrived (quiet : system.Quiet answers) :
    system.records = [] ∧ system.checksums = [] ∧ system.words = [] := by
  refine ⟨?_, ?_, ?_⟩
  · cases records : system.records with
    | nil =>
        rfl
    | cons first later =>
        have same :=
          congrArg PayloadSystem.records (quiet .passRecord)
        simp only [PayloadSystem.act, records] at same
        exact absurd same (List.cons_ne_self first later).symm
  · cases checksums : system.checksums with
    | nil =>
        rfl
    | cons first later =>
        have same :=
          congrArg PayloadSystem.checksums (quiet .passChecksum)
        simp only [PayloadSystem.act, checksums] at same
        exact absurd same (List.cons_ne_self first later).symm
  · cases words : system.words with
    | nil =>
        rfl
    | cons first later =>
        have same := congrArg PayloadSystem.words (quiet .passWord)
        simp only [PayloadSystem.act, words] at same
        exact absurd same (List.cons_ne_self first later).symm

/-- All questions are answered and all records are handled. -/
theorem PayloadSystem.Quiet.answered (quiet : system.Quiet answers) :
    system.portReqs = [] ∧ system.slookupReqs = [] ∧
      system.fsmMetas = [] := by
  refine ⟨?_, ?_, ?_⟩
  · cases reqs : system.portReqs with
    | nil =>
        rfl
    | cons first later =>
        have same := congrArg PayloadSystem.portReqs (quiet .ptable)
        simp only [PayloadSystem.act, PayloadSystem.answerPort, reqs]
          at same
        exact absurd same (List.cons_ne_self first later).symm
  · cases reqs : system.slookupReqs with
    | nil =>
        rfl
    | cons first later =>
        have same := congrArg PayloadSystem.slookupReqs (quiet .slookup)
        simp only [PayloadSystem.act, PayloadSystem.answerSession, reqs]
          at same
        exact absurd same (List.cons_ne_self first later).symm
  · cases metas : system.fsmMetas with
    | nil =>
        rfl
    | cons first later =>
        have same :=
          congrArg PayloadSystem.fsmMetas (quiet .rxEngTcpFsm)
        simp only [PayloadSystem.act, PayloadSystem.decideRecord, metas]
          at same
        split at same <;>
          exact absurd same (List.cons_ne_self first later).symm

theorem InStages.unverified_eq_nil
    (inStages : InStages answers verdicts system stages)
    (quiet : system.Quiet answers) : stages.unverified = [] := by
  obtain ⟨noRecords, noChecksums, _⟩ := quiet.arrived
  have phase := inStages.verify.phase
  have metas := inStages.verify.metas
  have checksums := inStages.verify.checksums
  rw [noRecords, List.append_nil] at metas
  rw [noChecksums, List.append_nil] at checksums
  have same :=
    congrArg (fun next => next.verify.fsmState)
      (quiet .rxEngVerifyChecksumAndPort)
  change
    (TcpOffload.rxEngVerifyChecksumAndPort system.verify).1.fsmState =
      system.verify.fsmState at same
  rw [TcpOffload.rxEngVerifyChecksumAndPort] at same
  cases fsmState : system.verify.fsmState with
  | readMetaInfo =>
      rw [fsmState] at phase
      rw [phase.of_readMetaInfo]
      simp only [fsmState] at same
      cases metaIn : system.verify.tcpMetaDataIn with
      | nil =>
          rw [metaIn] at metas
          exact List.map_eq_nil_iff.1 metas.symm
      | cons first later =>
          simp only [metaIn] at same
          cases same
  | readChecksum =>
      rw [fsmState] at phase
      obtain ⟨verdict, _, front⟩ := phase.of_readChecksum
      rw [front, List.map_cons] at checksums
      simp only [fsmState, checksums] at same
      cases same

theorem InStages.unhandled_eq_nil
    (inStages : InStages answers verdicts system stages)
    (quiet : system.Quiet answers) : stages.unhandled = [] := by
  obtain ⟨noPortReqs, noSlookupReqs, _⟩ := quiet.answered
  have noneUnverified := inStages.unverified_eq_nil quiet
  have phase := inStages.metaHandler.phase
  have metas := inStages.metaHandler.metas.length
  have portRsps := inStages.metaHandler.portRsps.length
  have slookupReqs := inStages.metaHandler.slookupReqs.length
  have slookupRsps := inStages.metaHandler.slookupRsps.length
  have portReqs := inStages.verify.portReqs.length
  rw [noneUnverified] at metas portReqs
  rw [noPortReqs] at portReqs
  rw [noSlookupReqs] at slookupReqs
  simp only [List.filter_nil, List.length_nil] at metas portReqs slookupReqs
  have same :=
    congrArg (fun next => next.metaHandler) (quiet .rxEngTcpMetaHandler)
  change
    (TcpOffload.rxEngTcpMetaHandler system.metaHandler).1 =
      system.metaHandler at same
  rw [TcpOffload.rxEngTcpMetaHandler] at same
  cases fsmState : system.metaHandler.fsmState with
  | metaState =>
      rw [fsmState] at phase
      rw [phase.of_metaState]
      simp only [fsmState] at same
      rw [MetaHandlerState.takeMeta] at same
      apply List.eq_nil_of_length_eq_zero
      split at same
      · rename_i first metasLater rsp rspsLater metaIn ptableRsps
        have shorter :=
          congrArg (fun state => state.tcpMetaDataIn.length) same
        split at shorter <;>
          · simp only [metaIn, List.length_cons] at shorter
            omega
      · rename_i notBoth
        cases metaIn : system.metaHandler.tcpMetaDataIn with
        | nil =>
            rw [metaIn] at metas
            simpa using metas.symm
        | cons first metasLater =>
            cases rsps : system.metaHandler.ptableRsps with
            | nil =>
                rw [rsps] at portRsps
                simp only [List.length_nil] at portRsps
                omega
            | cons rsp rspsLater =>
                exact absurd rsps (notBoth _ _ _ _ metaIn)
  | lookup =>
      rw [fsmState] at phase
      obtain ⟨verdict, _, _, isOpen, front⟩ := phase.of_lookup
      rw [front, List.filter_cons, if_pos isOpen, List.length_cons]
        at slookupRsps
      simp only [fsmState] at same
      rw [MetaHandlerState.takeLookup] at same
      split at same
      · have left := congrArg MetaHandlerState.fsmState same
        simp only [fsmState] at left
        cases left
      · rename_i none
        rw [none] at slookupRsps
        simp only [List.length_nil] at slookupRsps
        omega

theorem InStages.undecided_eq_nil
    (inStages : InStages answers verdicts system stages)
    (quiet : system.Quiet answers) : stages.undecided = [] := by
  have fsmMetas := inStages.metaHandler.fsmMetas
  rw [inStages.unhandled_eq_nil quiet, quiet.answered.2.2] at fsmMetas
  exact fsmMetas.rest_eq_nil

/-- The dropper neither leaves its state nor reads a word. -/
theorem PayloadSystem.Quiet.dropper (quiet : system.Quiet answers) :
    (TcpOffload.rxEngTcpPayloadDropper system.dropper).1 =
        system.dropper ∧
      PayloadSystem.readWords system.dropper = [] := by
  have same := quiet .rxEngTcpPayloadDropper
  exact
    ⟨congrArg PayloadSystem.dropper same,
      List.append_right_eq_self.1 (congrArg PayloadSystem.taken same)⟩

theorem InStages.unrouted_eq_nil
    (inStages : InStages answers verdicts system stages)
    (quiet : system.Quiet answers) : stages.unrouted = [] := by
  have phase := inStages.dropper.phase
  have checked := inStages.dropper.checked
  have met := inStages.dropper.met
  have tdests := inStages.dropper.tdests
  have judged := inStages.dropper.judged
  rw [inStages.unverified_eq_nil quiet, List.filter_nil] at checked
  rw [inStages.unhandled_eq_nil quiet, List.filter_nil] at met tdests
  rw [inStages.undecided_eq_nil quiet, List.filter_nil] at judged
  rw [quiet.arrived.2.2, List.append_nil] at phase
  obtain ⟨sameState, noWords⟩ := quiet.dropper
  rw [TcpOffload.rxEngTcpPayloadDropper] at sameState
  rw [PayloadSystem.readWords] at noWords
  cases fsmState : system.dropper.fsmState with
  | rdVerifyChecksum =>
      rw [fsmState] at phase
      obtain ⟨unchecked, _⟩ := phase.of_rdVerifyChecksum
      cases front : stages.unrouted with
      | nil =>
          rfl
      | cons verdict later =>
          rw [unchecked, front] at checked
          obtain ⟨drop, rest, queued⟩ := checked.exists_cons
          simp only [fsmState, queued] at sameState
          have left := congrArg RxDropperState.fsmState sameState
          simp only [fsmState] at left
          split at left <;> cases left
  | rdMetaHandler =>
      rw [fsmState] at phase
      obtain ⟨verdict, later, isValid, front, _, unmet, _⟩ :=
        phase.of_rdMetaHandler
      rw [unmet, front, List.filter_cons, if_pos isValid] at met tdests
      obtain ⟨drop, rest, queued⟩ := met.exists_cons
      obtain ⟨roleId, roleIds, roles⟩ := tdests.exists_cons
      simp only [fsmState, queued, roles] at sameState
      have left := congrArg RxDropperState.fsmState sameState
      simp only [fsmState] at left
      split at left <;> cases left
  | rdFsmDrop =>
      rw [fsmState] at phase
      obtain ⟨verdict, later, isValid, hits, _, front, _, _, unjudged, _⟩ :=
        phase.of_rdFsmDrop
      rw [unjudged, front, List.filter_cons, if_pos isValid,
        List.filter_cons, if_pos hits] at judged
      obtain ⟨drop, rest, queued⟩ := judged.exists_cons
      simp only [fsmState, queued] at sameState
      have left := congrArg RxDropperState.fsmState sameState
      simp only [fsmState] at left
      split at left <;> cases left
  | fwd =>
      rw [fsmState] at phase noWords
      obtain ⟨verdict, later, rest, _, _, _, delimited, _, _, _, _,
        words⟩ := phase.of_fwd
      cases delimited with
      | final | more =>
          rw [words] at noWords
          cases noWords
  | drop =>
      rw [fsmState] at phase noWords
      obtain ⟨verdict, later, rest, _, _, delimited, _, _, _, _, words⟩ :=
        phase.of_drop
      cases delimited with
      | final | more =>
          rw [words] at noWords
          cases noWords

/-- All payloads have been read, and each went its way as a whole. -/
theorem InStages.finished
    (inStages : InStages answers verdicts system stages)
    (quiet : system.Quiet answers) :
    system.taken = verdicts.flatMap RxVerdict.frame ∧
      system.out =
        verdicts.flatMap fun verdict => verdict.routed verdict.frame := by
  have noneLeft := inStages.unrouted_eq_nil quiet
  have whole := inStages.dropper.whole
  have noPart := inStages.dropper.phase.part_prefix.1 noneLeft
  rw [noneLeft, List.append_nil] at whole
  rw [inStages.dropper.taken, inStages.dropper.out, noneLeft, noPart,
    ← whole]
  refine ⟨?_, ?_⟩
  · rw [List.append_nil]
    exact flatMap_hasPayload _ (fun _ => RxVerdict.frame_eq_nil) verdicts
  · rw [List.head?_nil, Option.map_none, Option.getD_none,
      List.append_nil]
    refine flatMap_hasPayload _ (fun verdict none => ?_) verdicts
    rw [RxVerdict.frame_eq_nil none, RxVerdict.routed_nil]

end Quiet

/-- In every run, the words that left the payload queue are whole frames and
the start of the next, and of a frame they were forwarded, with the role of
its port, if its packet is valid, its port open, its session known and the
packet accepted, and else dropped.  When nothing is left to do, this holds of
all frames. -/
theorem payload_routed
    (answers : RxAnswers) (packets : List ParsedPacket)
    (reg : TcpPseudoHeaderMeta) (metaReg : MetaHandlerState)
    (roleId : NetAXISDest) (actions : List PayloadAction)
    (system : PayloadSystem)
    (run :
      Run (PayloadStep answers)
        (PayloadSystem.start packets reg metaReg roleId) actions system) :
    let verdicts := judge answers 0 0 0 packets
    Routed verdicts system.taken system.out ∧
      (system.Quiet answers →
        system.taken = packets.flatMap ParsedPacket.frame ∧
          system.out =
            verdicts.flatMap fun verdict =>
              verdict.routed verdict.frame) := by
  intro verdicts
  have reached : ∃ stages, InStages answers verdicts system stages := by
    refine
      @Run.keeps _ _ _
        (fun state => ∃ stages, InStages answers verdicts state stages)
        ?_ _ _ _ run
        (inStages_start answers packets reg metaReg roleId)
    rintro state action next ⟨stages, inStages⟩ stepped
    rw [PayloadStep] at stepped
    rw [stepped]
    exact inStages.step action
  obtain ⟨stages, inStages⟩ := reached
  refine ⟨inStages.routed, fun quiet => ?_⟩
  obtain ⟨taken, out⟩ := inStages.finished quiet
  refine ⟨?_, out⟩
  have own := judge_packets answers packets 0 0 0
  rw [taken]
  conv_rhs => rw [← own]
  rw [List.flatMap_map]
  rfl

/-- A packet of one word of payload. -/
def oneWordPacket (checksum : BitVec 16) : ParsedPacket where
  segMeta :=
    { srcIp := 0x0A0A0A0A
      destIp := 0x050A0A0A
      srcPort := 0x0050
      destPort := 0x1500
      dataOffset := 5
      cwr := false
      ecn := false
      urg := false
      psh := false
      header := ⟨0, 0, 0, true, false, false, false, 0, 64⟩
      tcpOptions := 0 }
  checksum := checksum
  frame := [⟨0x55, 0, BitVec.allOnes 64, true⟩]
  framed := Delimited.final rfl

/-- All ports are open with role 3, and all sessions are known. -/
def knownSession : RxAnswers where
  ptable := fun _ _ => ⟨true, 3⟩
  slookup := fun _ _ => ⟨0, true, 3⟩
  accepts := fun _ _ => true

/-- One packet after the other goes through all modules. -/
def onePacketRound : List PayloadAction :=
  [.passRecord, .passChecksum, .passWord, .rxEngVerifyChecksumAndPort,
    .rxEngVerifyChecksumAndPort, .ptable, .rxEngTcpMetaHandler, .slookup,
    .rxEngTcpMetaHandler, .rxEngTcpFsm, .rxEngTcpPayloadDropper,
    .rxEngTcpPayloadDropper, .rxEngTcpPayloadDropper,
    .rxEngTcpPayloadDropper]

theorem payload_routed_badChecksum :
    ((onePacketRound ++ onePacketRound).foldl
        (PayloadSystem.act knownSession)
        (PayloadSystem.start [oneWordPacket 7, oneWordPacket 0]
          (oneWordPacket 0).segMeta
          (MetaHandlerState.start (oneWordPacket 0).segMeta) 0)).out =
      [⟨0x55, 3, BitVec.allOnes 64, true⟩] := by
  have routed :=
    payload_routed knownSession [oneWordPacket 7, oneWordPacket 0]
      (oneWordPacket 0).segMeta
      (MetaHandlerState.start (oneWordPacket 0).segMeta) 0
      (onePacketRound ++ onePacketRound) _
      (@Enabled.run _ _ (PayloadStep knownSession)
        (PayloadSystem.act knownSession) (fun _ _ => True)
        (fun _ _ _ => rfl) _ _ (by decide +kernel))
  have quiet :=
    routed.2 fun action => by
      cases action <;> rfl
  rw [quiet.2]
  decide +kernel

end TcpOffload
