import TcpOffload.Library.Ascending
import TcpOffload.Library.Cyclic
import TcpOffload.TxAppIntf.WritePointers

/-!
# Free space of the TX ring

The table decides on `ackd` as far as it has been told.  What it grants is
still free for the `ackd` of the TX SAR table, which is never behind.  All of
it is written unless its length does not fit the command.
-/

namespace TcpOffload

open Ascending Cyclic Guarded

namespace TransferSystem

/-- `ackd` of the TX SAR table, as a pointer into the ring. -/
def ringAckd
    (system : TransferSystem) (id : TcpSessionID) : TcpSessionBuffer :=
  (system.txSar id).ackd.setWidth 18

/-- The updates of a session that the TX application table has not read. -/
def ackUpdates
    (system : TransferSystem) (id : TcpSessionID) :
    List TxSarToTxAppReq :=
  system.tableInterface.txSarUpdReqs.filter (·.sessionId == id)

/-! ## What is to hold -/

/-- An acknowledgement of the session moves `ackd` forward, and not past what
was granted. -/
def AckdForward
    (id : TcpSessionID) (system : TransferSystem) :
    TransferAction → Prop
  | .ackd req =>
      req.sessionId = id →
        Between (system.ringAckd id) (req.ackd.setWidth 18)
          (system.ideal id)
  | _ => True

instance (id : TcpSessionID) (system : TransferSystem)
    (action : TransferAction) :
    Decidable (AckdForward id system action) :=
  match action with
  | .ackd req =>
      inferInstanceAs
        (Decidable
          (req.sessionId = id →
            Between (system.ringAckd id) (req.ackd.setWidth 18)
              (system.ideal id)))
  | .request _ => isTrue trivial
  | .payload _ => isTrue trivial
  | .sttableRsp _ => isTrue trivial
  | .connEvent _ _ => isTrue trivial
  | .dataHandler => isTrue trivial
  | .tableInterface => isTrue trivial
  | .writer => isTrue trivial
  | .status _ => isTrue trivial
  | .rspHandler => isTrue trivial
  | .appWritten => isTrue trivial

/-- What is granted to the session is written behind the data granted before,
and none of its places in the ring holds a byte that is not acknowledged. -/
def GrantsFreeSpace
    (id : TcpSessionID) (system : TransferSystem)
    (action : TransferAction) : Prop :=
  ∀ req,
    system.granted action = some req →
      req.id = id →
        (∃ cmd,
          (system.act action).writeCmds = system.writeCmds ++ [cmd] ∧
          cmd.addr = getSessionMemAddr .tx id (system.ideal id) ∧
          cmd.length.toNat = req.data.toNat) ∧
        ∀ index < req.data.toNat,
          ¬ Inside (system.ringAckd id)
            (system.ideal id + BitVec.ofNat 18 index) (system.ideal id)

/-- The bytes that a step grants to the session. -/
def acceptedIn
    (id : TcpSessionID) (system : TransferSystem)
    (action : TransferAction) : Nat :=
  match system.granted action with
  | some req => if req.id = id then req.data.toNat else 0
  | none => 0

/-- The bytes of the session that a step acknowledges. -/
def ackedIn
    (id : TcpSessionID) (system : TransferSystem) :
    TransferAction → Nat
  | .ackd req =>
      if req.sessionId = id then
        distance (system.ringAckd id) (req.ackd.setWidth 18)
      else
        0
  | _ => 0

/-- The sum over the steps of a run. -/
def totalOf
    (amount : TransferSystem → TransferAction → Nat) :
    TransferSystem → List TransferAction → Nat
  | _, [] => 0
  | system, action :: rest =>
      amount system action + totalOf amount (system.act action) rest

/-- An established session without data: the SYN is acknowledged, and the
TX application table knows it or has the update in its queue. -/
structure Established
    (system : TransferSystem) (id : TcpSessionID) : Prop where
  acknowledged :
    system.ringAckd id =
      (system.tableInterface.table id).appWrittenIdeal
  known :
    (system.tableInterface.table id).ackd = system.ringAckd id ∧
        system.ackUpdates id = [] ∨
      (system.tableInterface.table id).ackd = system.ringAckd id - 1 ∧
        system.ackUpdates id = [⟨id, system.ringAckd id, false⟩]

/-! ## Positions without wrap-around -/

/-- Where the pointers of a session stand: the table has been told `seen`. -/
structure RingPositions where
  seen : Nat
  ackd : Nat
  ideal : Nat

/-- An update shows a position. -/
def AckShows (req : TxSarToTxAppReq) (value : Nat) : Prop :=
  req.ackd = BitVec.ofNat 18 value

/-- An answer that the handler has not read shows an `ackd` for which there
is room as well. -/
structure Placed
    (system : TransferSystem) (id : TcpSessionID)
    (positions : RingPositions) : Prop where
  serves : system.Serves
  seen :
    (system.tableInterface.table id).ackd =
      BitVec.ofNat 18 positions.seen
  ackd : system.ringAckd id = BitVec.ofNat 18 positions.ackd
  ideal : system.ideal id = BitVec.ofNat 18 positions.ideal
  notPast : positions.ackd ≤ positions.ideal
  updates :
    Ascends AckShows positions.seen positions.ackd (system.ackUpdates id)
  room : positions.ideal < positions.seen + 2 ^ 18
  answer :
    ∀ rsp ∈ system.dataHandler.tableRsps,
      rsp.sessionId = id →
        ∃ older,
          older ≤ positions.seen ∧
          rsp.ackd = BitVec.ofNat 18 older ∧
          positions.ideal < older + 2 ^ 18

variable {system : TransferSystem} {id : TcpSessionID}
variable {positions : RingPositions}

/-- The room that an older `ackd` leaves. -/
theorem maxWriteLength_toNat
    {entry : TxAppTableEntry} {older ideal : Nat}
    (ackd : entry.ackd = BitVec.ofNat 18 older)
    (pointer : entry.appWrittenIdeal = BitVec.ofNat 18 ideal)
    (behind : older ≤ ideal) (room : ideal < older + 2 ^ 18) :
    entry.maxWriteLength.toNat = 2 ^ 18 - 1 - (ideal - older) := by
  have one : (1 : TcpSessionBuffer).toNat = 1 := rfl
  rw [TxAppTableEntry.maxWriteLength, ackd, pointer]
  simp only [BitVec.toNat_sub, BitVec.toNat_ofNat, one]
  omega

/-- A request that the table's room is enough for is granted short of one
turn of the ring. -/
theorem granted_room
    {entry : TxAppTableEntry} {length : TcpSessionBuffer}
    {older ideal : Nat}
    (ackd : entry.ackd = BitVec.ofNat 18 older)
    (pointer : entry.appWrittenIdeal = BitVec.ofNat 18 ideal)
    (behind : older ≤ ideal) (room : ideal < older + 2 ^ 18)
    (fits : length ≤ entry.maxWriteLength) :
    ideal + length.toNat < older + 2 ^ 18 := by
  rw [BitVec.le_def, maxWriteLength_toNat ackd pointer behind room] at fits
  omega

theorem Placed.seen_le (placed : system.Placed id positions) :
    positions.seen ≤ positions.ackd :=
  placed.updates.le

/-- The distance from `ackd` to the pointer is the number of bytes between
their positions. -/
theorem Placed.distance_ideal (placed : system.Placed id positions) :
    distance (system.ringAckd id) (system.ideal id) =
      positions.ideal - positions.ackd := by
  have seen := placed.seen_le
  have room := placed.room
  rw [placed.ackd, placed.ideal]
  exact distance_ofNat placed.notPast (by omega)

/-- The places of granted bytes are free. -/
theorem Placed.free
    (placed : system.Placed id positions) {length : Nat}
    (room : positions.ideal + length < positions.seen + 2 ^ 18) :
    ∀ index < length,
      ¬ Inside (system.ringAckd id)
        (system.ideal id + BitVec.ofNat 18 index) (system.ideal id) := by
  intro index inside
  have seen := placed.seen_le
  have notPast := placed.notPast
  have small : (BitVec.ofNat 18 index).toNat = index := by
    rw [BitVec.toNat_ofNat]
    exact Nat.mod_eq_of_lt (by omega)
  apply not_inside_add
  rw [placed.distance_ideal, small]
  omega

theorem Placed.congr
    (placed : system.Placed id positions) {next : TransferSystem}
    (serves : next.Serves)
    (tableInterface : next.tableInterface = system.tableInterface)
    (tableRsps :
      ∀ rsp ∈ next.dataHandler.tableRsps,
        rsp ∈ system.dataHandler.tableRsps)
    (ackd : next.ringAckd id = system.ringAckd id) :
    next.Placed id positions where
  serves := serves
  seen := by
    rw [tableInterface]
    exact placed.seen
  ackd := ackd.trans placed.ackd
  ideal := by
    rw [TransferSystem.ideal, tableInterface]
    exact placed.ideal
  notPast := placed.notPast
  updates := by
    rw [ackUpdates, tableInterface]
    exact placed.updates
  room := placed.room
  answer := fun rsp member => placed.answer rsp (tableRsps rsp member)

/-! ## Steps -/

/-- The position after a grant. -/
theorem Placed.granted
    (placed : system.Placed id positions) {req : AppTransDataReq}
    (granted : system.granted .dataHandler = some req)
    (ofSession : req.id = id) :
    positions.ideal + req.data.toNat < positions.seen + 2 ^ 18 ∧
      (system.act .dataHandler).Placed id
        { positions with ideal := positions.ideal + req.data.toNat } := by
  have idealAct := placed.serves.ideal_act .dataHandler
  have serves := placed.serves.step .dataHandler
  have step := placed.serves.dataHandlerStep
  rw [granted] at step idealAct
  generalize system.act .dataHandler = next at step idealAct serves ⊢
  cases step with
  | @grant after rsp noReqs queued ofRequest current fits emptied _ =>
      obtain ⟨older, notNewer, ackd, room⟩ :=
        placed.answer rsp (queued ▸ List.mem_cons_self)
          (ofRequest.trans ofSession)
      have seen := placed.seen_le
      have notPast := placed.notPast
      have moved :
          positions.ideal + system.dataHandler.transDataReq.data.toNat <
            older + 2 ^ 18 := by
        refine granted_room ackd ?_ (by omega) room fits
        exact (current.trans (congrArg _ ofSession)).trans placed.ideal
      refine ⟨by omega, ?_⟩
      exact
        { placed with
          serves := serves
          ideal := by
            rw [idealAct]
            dsimp only
            rw [ofSession, Function.update_self, placed.ideal,
              BitVec.ofNat_add, BitVec.ofNat_toNat, BitVec.setWidth_eq]
          notPast := Nat.le_add_right_of_le placed.notPast
          room := by
            dsimp only
            omega
          answer := by
            intro rsp member
            have stillQueued : rsp ∈ after.tableRsps := member
            rw [emptied] at stillQueued
            cases stillQueued }

/-- A call of the handler that grants nothing to the session. -/
theorem Placed.notGranted
    (placed : system.Placed id positions)
    (notGranted :
      ∀ req, system.granted .dataHandler = some req → req.id ≠ id) :
    (system.act .dataHandler).Placed id positions := by
  have idealAct := placed.serves.ideal_act .dataHandler
  have serves := placed.serves.step .dataHandler
  have step := placed.serves.dataHandlerStep
  have sameIdeal : (system.act .dataHandler).ideal id = system.ideal id := by
    rw [idealAct]
    cases granted : system.granted .dataHandler with
    | none =>
        rfl
    | some req =>
        exact Function.update_of_ne (notGranted req granted).symm _ _
  generalize system.granted .dataHandler = granted,
    system.act .dataHandler = next at step sameIdeal serves
  cases step with
  | quiet _ noNewRsp =>
      exact
        { placed with
          serves := serves
          ideal := sameIdeal.trans placed.ideal
          answer := fun rsp member =>
            placed.answer rsp (noNewRsp rsp member) }
  | @grant after _ _ _ _ _ _ emptied _ =>
      exact
        { placed with
          serves := serves
          ideal := sameIdeal.trans placed.ideal
          answer := by
            intro rsp member
            have stillQueued : rsp ∈ after.tableRsps := member
            rw [emptied] at stillQueued
            cases stillQueued }

theorem Placed.tableInterface
    (placed : system.Placed id positions) :
    ∃ seen,
      (system.act .tableInterface).Placed id
        { positions with seen := seen } := by
  have serves := placed.serves.step .tableInterface
  have call := txAppTableInterface_call system.tableInterface
  have sameIdeal := ideal_tableInterface placed.serves call
  have noInit := placed.serves.noInit
  simp only [act] at serves ⊢
  generalize (txAppTableInterface system.tableInterface).1 = next,
    (txAppTableInterface system.tableInterface).2 = rsps
    at call serves sameIdeal ⊢
  have ideal :
      (system.afterTableInterface next rsps).ideal id =
        BitVec.ofNat 18 positions.ideal :=
    (congrFun sameIdeal id).trans placed.ideal
  cases call with
  | idle =>
      exact
        ⟨positions.seen,
          placed.congr serves rfl
            (fun rsp member => by
              rw [← List.append_nil system.dataHandler.tableRsps]
              exact member)
            rfl⟩
  | @txSarUpdate req later queued =>
      have isUpdate := noInit req (queued ▸ List.mem_cons_self)
      by_cases ofSession : req.sessionId = id
      · subst ofSession
        have updates := placed.updates
        rw [ackUpdates, queued, List.filter_cons_of_pos (by simp)]
          at updates
        obtain ⟨value, newer, notPast, shown, rest⟩ := updates.tail
        refine
          ⟨value,
            { serves := serves
              seen := ?_
              ackd := placed.ackd
              ideal := ideal
              notPast := placed.notPast
              updates := rest
              room := by
                have room := placed.room
                dsimp only
                omega
              answer := ?_ }⟩
        · simp only [afterTableInterface, Function.update_self,
            TxAppTableEntry.txSarUpdate, isUpdate]
          exact shown
        · intro rsp member ofSession
          obtain ⟨older, notNewer, answered⟩ :=
            placed.answer rsp
              (List.append_nil system.dataHandler.tableRsps ▸ member)
              ofSession
          exact ⟨older, Nat.le_trans notNewer newer, answered⟩
      · refine
          ⟨positions.seen,
            { placed with
              serves := serves
              seen := ?_
              ideal := ideal
              updates := ?_
              answer := fun rsp member =>
                placed.answer rsp
                  (List.append_nil system.dataHandler.tableRsps ▸
                    member) }⟩
        · simp only [afterTableInterface,
            Function.update_of_ne (Ne.symm ofSession)]
          exact placed.seen
        · have updates := placed.updates
          rw [ackUpdates, queued, List.filter_cons_of_neg (by simpa)]
            at updates
          exact updates
  | @write req later queued isWrite =>
      refine
        ⟨positions.seen,
          { placed with
            serves := serves
            seen := ?_
            ideal := ideal
            answer := fun rsp member =>
              placed.answer rsp
                (List.append_nil system.dataHandler.tableRsps ▸
                  member) }⟩
      simp only [afterTableInterface]
      by_cases ofSession : id = req.sessionId
      · subst ofSession
        rw [Function.update_self]
        exact placed.seen
      · rw [Function.update_of_ne ofSession]
        exact placed.seen
  | @lookup req later queued isLookup =>
      refine
        ⟨positions.seen,
          { placed with
            serves := serves
            ideal := ideal
            answer := ?_ }⟩
      refine
        List.forall_mem_append.2
          ⟨placed.answer, List.forall_mem_singleton.2 ?_⟩
      rintro rfl
      exact
        ⟨positions.seen, Nat.le_refl _, placed.seen, placed.room⟩

/-- An acknowledgement inside the granted data. -/
theorem Placed.acknowledged
    (placed : system.Placed id positions) {req : RxEngToTxSarReq}
    (ofSession : req.sessionId = id)
    (forward :
      Between (system.ringAckd id) (req.ackd.setWidth 18)
        (system.ideal id)) :
    (system.act (.ackd req)).Placed id
      { positions with
        ackd :=
          positions.ackd +
            distance (system.ringAckd id) (req.ackd.setWidth 18) } := by
  subst ofSession
  rw [Between, placed.distance_ideal] at forward
  have notPast := placed.notPast
  have shown :
      req.ackd.setWidth 18 =
        BitVec.ofNat 18
          (positions.ackd +
            distance (system.ringAckd req.sessionId)
              (req.ackd.setWidth 18)) := by
    rw [placed.ackd]
    exact eq_ofNat_add_distance _
  exact
    { placed with
      serves := placed.serves.step _
      ackd := by
        rw [← shown]
        simp only [ringAckd, act, TransferSystem.acknowledged,
          Function.update_self]
        rfl
      notPast := by
        dsimp only
        omega
      updates := by
        have pushed :
            (system.act (.ackd req)).ackUpdates req.sessionId =
              system.ackUpdates req.sessionId ++
                [⟨req.sessionId, req.ackd.setWidth 18, false⟩] := by
          simp only [ackUpdates, act, TransferSystem.acknowledged,
            List.filter_append]
          simp
        rw [pushed]
        exact placed.updates.push (Nat.le_add_right _ _) shown }

theorem Placed.acknowledgedOther
    (placed : system.Placed id positions) {req : RxEngToTxSarReq}
    (otherSession : req.sessionId ≠ id) :
    (system.act (.ackd req)).Placed id positions where
  serves := placed.serves.step _
  seen := placed.seen
  ackd := by
    simp only [ringAckd, act, TransferSystem.acknowledged,
      Function.update_of_ne otherSession.symm]
    exact placed.ackd
  ideal := placed.ideal
  notPast := placed.notPast
  updates := by
    have same :
        (system.act (.ackd req)).ackUpdates id = system.ackUpdates id := by
      simp only [ackUpdates, act, TransferSystem.acknowledged,
        List.filter_append]
      simp [otherSession]
    rw [same]
    exact placed.updates
  room := placed.room
  answer := placed.answer

theorem ringAckd_appWritten :
    system.appWritten.ringAckd id = system.ringAckd id := by
  simp only [TransferSystem.appWritten]
  split
  · rfl
  · rename_i req later _
    simp only [ringAckd]
    by_cases ofSession : id = req.sessionId
    · subst ofSession
      rw [Function.update_self]
      rfl
    · rw [Function.update_of_ne ofSession]

/-- One step: the pointer moves by what is accepted, `ackd` by what is
acknowledged. -/
theorem Placed.step
    (placed : system.Placed id positions) {action : TransferAction}
    (forward : AckdForward id system action) :
    ∃ seen,
      (system.act action).Placed id
        ⟨seen, positions.ackd + ackedIn id system action,
          positions.ideal + acceptedIn id system action⟩ := by
  have serves := placed.serves.step action
  have unmoved
      (tableInterface :
        (system.act action).tableInterface = system.tableInterface)
      (tableRsps :
        (system.act action).dataHandler.tableRsps =
          system.dataHandler.tableRsps)
      (ackd : (system.act action).ringAckd id = system.ringAckd id) :
      (system.act action).Placed id positions :=
    placed.congr serves tableInterface
      (fun _ member => tableRsps ▸ member) ackd
  cases action with
  | dataHandler =>
      refine ⟨positions.seen, ?_⟩
      cases granted : system.granted .dataHandler with
      | none =>
          simp only [acceptedIn, granted]
          exact placed.notGranted (by rw [granted]; nofun)
      | some req =>
          simp only [acceptedIn, granted]
          by_cases ofSession : req.id = id
          · rw [if_pos ofSession]
            exact (placed.granted granted ofSession).2
          · rw [if_neg ofSession]
            refine placed.notGranted fun other same => ?_
            rw [granted] at same
            rw [← Option.some.inj same]
            exact ofSession
  | tableInterface =>
      exact placed.tableInterface
  | ackd req =>
      refine ⟨positions.seen, ?_⟩
      simp only [ackedIn]
      by_cases ofSession : req.sessionId = id
      · rw [if_pos ofSession]
        exact placed.acknowledged ofSession (forward ofSession)
      · rw [if_neg ofSession]
        exact placed.acknowledgedOther ofSession
  | appWritten =>
      refine ⟨positions.seen, unmoved ?_ ?_ ringAckd_appWritten⟩
      · simp only [act, TransferSystem.appWritten]
        split <;> rfl
      · simp only [act, TransferSystem.appWritten]
        split <;> rfl
  | writer =>
      refine ⟨positions.seen, unmoved ?_ ?_ ?_⟩ <;>
        simp only [act, TransferSystem.writer] <;> split <;> rfl
  | status _ =>
      refine ⟨positions.seen, unmoved ?_ ?_ ?_⟩ <;>
        simp only [act, TransferSystem.answered] <;> split <;> rfl
  | request _ =>
      exact ⟨positions.seen, unmoved rfl rfl rfl⟩
  | payload _ =>
      exact ⟨positions.seen, unmoved rfl rfl rfl⟩
  | sttableRsp _ =>
      exact ⟨positions.seen, unmoved rfl rfl rfl⟩
  | connEvent _ _ =>
      exact ⟨positions.seen, unmoved rfl rfl rfl⟩
  | rspHandler =>
      exact ⟨positions.seen, unmoved rfl rfl rfl⟩

/-! ## Runs -/

theorem Established.placed
    (established : system.Established id) (rests : system.Rests) :
    ∃ positions,
      system.Placed id positions ∧ positions.ackd = positions.ideal := by
  have pointer := established.acknowledged
  let position := (system.ringAckd id).toNat + 2 ^ 18
  have shown : system.ringAckd id = BitVec.ofNat 18 position := by
    apply BitVec.eq_of_toNat_eq
    have bound := (system.ringAckd id).isLt
    rw [BitVec.toNat_ofNat]
    omega
  have placed (seen : Nat)
      (isSeen :
        (system.tableInterface.table id).ackd = BitVec.ofNat 18 seen)
      (recent : position < seen + 2 ^ 18)
      (updates :
        Ascends AckShows seen position (system.ackUpdates id)) :
      system.Placed id ⟨seen, position, position⟩ :=
    { serves := rests.serves
      seen := isSeen
      ackd := shown
      ideal := by
        rw [ideal_of_noReqs rests.tableReqs, ← pointer]
        exact shown
      notPast := Nat.le_refl _
      updates := updates
      room := recent
      answer := by
        rw [rests.tableRsps]
        nofun }
  rcases established.known with ⟨known, noUpdates⟩ | ⟨lags, queued⟩
  · refine ⟨_, placed position (known.trans shown) (by omega) ?_, rfl⟩
    rw [noUpdates]
    exact Nat.le_refl _
  · have bound := (system.ringAckd id).isLt
    refine ⟨_, placed (position - 1) ?_ (by omega) ?_, rfl⟩
    · rw [lags]
      apply BitVec.eq_of_toNat_eq
      have one : (1 : TcpSessionBuffer).toNat = 1 := rfl
      rw [BitVec.toNat_sub, BitVec.toNat_ofNat, one]
      omega
    · rw [queued]
      exact ⟨position, Nat.sub_le _ _, shown, Nat.le_refl _⟩

theorem Placed.grantsFreeSpace_iff
    (placed : system.Placed id positions) (action : TransferAction) :
    GrantsFreeSpace id system action ↔ GrantsShort id system action := by
  refine
    ⟨fun grants req granted ofSession => ?_,
      fun grantsShort req granted ofSession => ?_⟩
  · obtain ⟨⟨cmd, -, -, length⟩, -⟩ := grants req granted ofSession
    rw [← length]
    exact cmd.length.isLt
  by_cases isHandler : action = .dataHandler
  · subst isHandler
    have isShort := grantsShort req granted ofSession
    have room := (placed.granted granted ofSession).1
    refine ⟨?_, placed.free room⟩
    have step := placed.serves.dataHandlerStep
    rw [granted] at step
    generalize system.act .dataHandler = next at step ⊢
    cases step with
    | @grant _ rsp _ _ _ current _ _ _ =>
        subst ofSession
        refine
          ⟨_, congrArg (system.writeCmds ++ ·) (grantMsgs_cmds _ _), ?_,
            ?_⟩
        · rw [← current]
          rfl
        · exact setWidth16_toNat isShort
  · rw [granted_eq_none isHandler] at granted
    cases granted

end TransferSystem

open TransferSystem

theorem TransferSystem.Placed.run
    {id : TcpSessionID} {system final : TransferSystem}
    {positions : RingPositions} {actions : List TransferAction}
    (placed : system.Placed id positions)
    (run : Run TransferStep system actions final)
    (forward : Along TransferStep (AckdForward id) system actions) :
    (Along TransferStep (GrantsFreeSpace id) system actions ↔
        Along TransferStep (GrantsShort id) system actions) ∧
      distance (final.ringAckd id) (final.ideal id) +
          (positions.ackd + totalOf (ackedIn id) system actions) =
        positions.ideal + totalOf (acceptedIn id) system actions := by
  induction run generalizing positions with
  | refl state =>
      have notPast := placed.notPast
      refine ⟨Iff.rfl, ?_⟩
      rw [placed.distance_ideal, totalOf, totalOf]
      omega
  | @head state next final action rest stepped _ inductionHypothesis =>
      subst stepped
      obtain ⟨forwardHere, forwardLater⟩ := forward _ rfl
      obtain ⟨seen, placedNext⟩ := placed.step forwardHere
      obtain ⟨same, counts⟩ :=
        inductionHypothesis placedNext forwardLater
      have sameHere := placed.grantsFreeSpace_iff action
      refine ⟨⟨?_, ?_⟩, ?_⟩
      · rintro along next rfl
        exact (along _ rfl).imp sameHere.1 same.1
      · rintro along next rfl
        exact (along _ rfl).imp sameHere.2 same.2
      · rw [totalOf, totalOf]
        dsimp only at counts
        omega

/-- In every run of transfers on an established session, however late the
updates of `ackd` are read, what is granted is written to free places of the
ring, and the bytes from `ackd` to the pointer are those accepted and not
acknowledged, exactly when no more than 65535 bytes are granted at a time. -/
theorem transfers_keepUnacknowledged_iff
    {id : TcpSessionID} {start final : TransferSystem}
    {actions : List TransferAction}
    (rests : start.Rests) (established : start.Established id)
    (run : Run TransferStep start actions final)
    (forward : Along TransferStep (AckdForward id) start actions) :
    (Along TransferStep (GrantsFreeSpace id) start actions ∧
        distance (final.ringAckd id) (final.ideal id) +
            totalOf (ackedIn id) start actions =
          totalOf (acceptedIn id) start actions) ↔
      Along TransferStep (GrantsShort id) start actions := by
  obtain ⟨positions, placed, noData⟩ := established.placed rests
  obtain ⟨same, counts⟩ := placed.run run forward
  rw [same]
  exact and_iff_left (by omega)

theorem ringAckd_start (pointer : TcpSessionBuffer) (id : TcpSessionID) :
    (start pointer).ringAckd id = pointer := by
  apply BitVec.eq_of_toNat_eq
  have bound := pointer.isLt
  simp only [ringAckd, start, BitVec.toNat_setWidth]
  omega

theorem established_start (pointer : TcpSessionBuffer) (id : TcpSessionID) :
    (start pointer).Established id where
  acknowledged := ringAckd_start pointer id
  known := Or.inl ⟨(ringAckd_start pointer id).symm, rfl⟩

/-- Two requests of four bytes with an acknowledgement of three in between,
across the end of the ring. -/
def twoTransfers : List TransferAction :=
  wholeTransfer ⟨4, 3, 0⟩ okayStatus ++
    .ackd ⟨3, 0x40001, 0, 0, false, 0, false, 0, true⟩ ::
      .tableInterface :: wholeTransfer ⟨4, 3, 0⟩ okayStatus

theorem transfers_keepUnacknowledged_twice :
    ∃ final,
      Run TransferStep (start 0x3FFFE) twoTransfers final ∧
      Along TransferStep (GrantsFreeSpace 3) (start 0x3FFFE)
        twoTransfers ∧
      distance (final.ringAckd 3) (final.ideal 3) + 3 = 8 := by
  have forward :
      Along TransferStep (AckdForward 3) (start 0x3FFFE) twoTransfers :=
    along_iff_enabled.2 (by decide)
  obtain ⟨free, counts⟩ :=
    (transfers_keepUnacknowledged_iff (rests_start 0x3FFFE)
      (established_start 0x3FFFE 3) (run_act _ _) forward).2
      (along_iff_enabled.2 (by decide))
  have acked :
      totalOf (ackedIn 3) (start 0x3FFFE) twoTransfers = 3 := by
    decide
  have accepted :
      totalOf (acceptedIn 3) (start 0x3FFFE) twoTransfers = 8 := by
    decide
  rw [acked, accepted] at counts
  exact ⟨_, run_act _ _, free, counts⟩

/-- Of 65540 bytes that are granted four are written. -/
theorem not_transfers_keepUnacknowledged :
    ¬ ∀ (id : TcpSessionID) (start final : TransferSystem)
        (actions : List TransferAction),
      start.Rests →
      start.Established id →
      Run TransferStep start actions final →
      Along TransferStep (AckdForward id) start actions →
      Along TransferStep (GrantsFreeSpace id) start actions ∧
        distance (final.ringAckd id) (final.ideal id) +
            totalOf (ackedIn id) start actions =
          totalOf (acceptedIn id) start actions := by
  intro keep
  let actions := wholeTransfer ⟨65540, 3, 0⟩ okayStatus
  have forward :
      Along TransferStep (AckdForward 3) (start 0) actions :=
    along_iff_enabled.2 (by decide)
  obtain ⟨positions, placed, -⟩ :=
    (established_start 0 3).placed (rests_start 0)
  have grantsShort :=
    (placed.run (run_act _ _) forward).1.1
      (keep 3 (start 0) _ actions (rests_start 0) (established_start 0 3)
        (run_act _ _) forward).1
  exact absurd (along_iff_enabled.1 grantsShort) (by decide)

end TcpOffload
