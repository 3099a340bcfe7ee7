import TcpOffload.HashTable.FailedInserts
import TcpOffload.SessionLookup.StoredSessions

/-!
# The controller with the hash table as its CAM

The keys of the hash table are the four-tuples of the controller, and its
values the session IDs.  As long as every insertion finds room, the table is
a CAM that executes every insertion, so that the controller creates a session
once and the table finds it until it is deleted.  An insertion that fails is
answered as if it had not.
-/

namespace TcpOffload

open Cuckoo Guarded Listed

/-! ## The wires between the two -/

/-- The fields of a key, the first in the low bits. -/
theorem fields_of_key (dstPort srcPort : BitVec 16)
    (dstIp srcIp : BitVec 32) :
    (dstPort ++ srcPort ++ dstIp ++ srcIp).extractLsb' 0 32 = srcIp ∧
      (dstPort ++ srcPort ++ dstIp ++ srcIp).extractLsb' 32 32 = dstIp ∧
      (dstPort ++ srcPort ++ dstIp ++ srcIp).extractLsb' 64 16 = srcPort ∧
      (dstPort ++ srcPort ++ dstIp ++ srcIp).extractLsb' 80 16 =
        dstPort := by
  refine ⟨?_, ?_, ?_, ?_⟩ <;>
  · apply BitVec.eq_of_getLsbD_eq
    intro i inside
    simp only [BitVec.getLsbD_extractLsb', BitVec.getLsbD_append, inside]
    grind

theorem key_of_fields (key : BitVec 96) :
    key.extractLsb' 80 16 ++ key.extractLsb' 64 16 ++
        key.extractLsb' 32 32 ++ key.extractLsb' 0 32 =
      key := by
  apply BitVec.eq_of_getLsbD_eq
  intro i inside
  simp only [BitVec.getLsbD_extractLsb', BitVec.getLsbD_append]
  grind

def FourTuple.toKey (tuple : FourTuple) : HTKey :=
  tuple.dstTcpPort ++ tuple.srcTcpPort ++ tuple.dstIpAddr ++
    tuple.srcIpAddr

def FourTuple.ofKey (key : HTKey) : FourTuple where
  srcIpAddr := key.extractLsb' 0 32
  dstIpAddr := key.extractLsb' 32 32
  srcTcpPort := key.extractLsb' 64 16
  dstTcpPort := key.extractLsb' 80 16

@[simp]
theorem FourTuple.ofKey_toKey (tuple : FourTuple) :
    FourTuple.ofKey tuple.toKey = tuple := by
  obtain ⟨first, second, third, fourth⟩ :=
    fields_of_key tuple.dstTcpPort tuple.srcTcpPort tuple.dstIpAddr
      tuple.srcIpAddr
  exact FourTuple.mk.injEq _ _ _ _ _ _ _ _ ▸ ⟨first, second, third, fourth⟩

@[simp]
theorem FourTuple.toKey_ofKey (key : HTKey) :
    (FourTuple.ofKey key).toKey = key :=
  key_of_fields key

theorem FourTuple.toKey_eq_iff {tuple : FourTuple} {key : HTKey} :
    tuple.toKey = key ↔ tuple = FourTuple.ofKey key := by
  constructor
  · rintro rfl
    exact (FourTuple.ofKey_toKey tuple).symm
  · rintro rfl
    exact FourTuple.toKey_ofKey key

def SlookupSource.toHT : SlookupSource → KVOpeationSource
  | .rx => .srcA
  | .txApp => .srcB

def KVOpeationSource.toSlookup : KVOpeationSource → SlookupSource
  | .srcA => .rx
  | .srcB => .txApp

def SlookupOp.toHT : SlookupOp → KVOperation
  | .insert => .insert
  | .delete => .delete

def KVOperation.toSlookup : KVOperation → SlookupOp
  | .insert => .insert
  | .delete => .delete

def RtlSlookupToCamLupReq.toHT (req : RtlSlookupToCamLupReq) :
    HTLookupReq :=
  ⟨req.key.toKey, req.source.toHT⟩

def HTLookupReq.toSlookup (req : HTLookupReq) : RtlSlookupToCamLupReq :=
  ⟨FourTuple.ofKey req.key, req.source.toSlookup⟩

def RtlSlookupToCamUpdReq.toHT (req : RtlSlookupToCamUpdReq) :
    HTUpdateReq :=
  ⟨req.op.toHT, req.key.toKey, req.value, req.source.toHT⟩

def HTUpdateReq.toSlookup (req : HTUpdateReq) : RtlSlookupToCamUpdReq :=
  ⟨req.op.toSlookup, FourTuple.ofKey req.key, req.value,
    req.source.toSlookup⟩

def HTLookupResp.toSlookup (rsp : HTLookupResp) : RtlCamToSlookupLupRsp :=
  ⟨FourTuple.ofKey rsp.key, rsp.value, rsp.hit, rsp.source.toSlookup⟩

def HTUpdateResp.toSlookup (rsp : HTUpdateResp) : RtlCamToSlookupUpdRsp :=
  ⟨rsp.op.toSlookup, FourTuple.ofKey rsp.key, rsp.value, rsp.success,
    rsp.source.toSlookup⟩

@[simp]
theorem RtlSlookupToCamLupReq.toSlookup_toHT
    (req : RtlSlookupToCamLupReq) : req.toHT.toSlookup = req := by
  obtain ⟨key, source⟩ := req
  cases source <;> simp [toHT, HTLookupReq.toSlookup, SlookupSource.toHT,
    KVOpeationSource.toSlookup]

@[simp]
theorem RtlSlookupToCamUpdReq.toSlookup_toHT
    (req : RtlSlookupToCamUpdReq) : req.toHT.toSlookup = req := by
  obtain ⟨op, key, value, source⟩ := req
  cases op <;> cases source <;> simp [toHT, HTUpdateReq.toSlookup,
    SlookupSource.toHT, KVOpeationSource.toSlookup, SlookupOp.toHT,
    KVOperation.toSlookup]

def HashTableMsg.toCamLupRsp : HashTableMsg → Option RtlCamToSlookupLupRsp
  | .lupRsp rsp => some rsp.toSlookup
  | .updRsp _ => none

def HashTableMsg.toCamUpdRsp : HashTableMsg → Option RtlCamToSlookupUpdRsp
  | .lupRsp _ => none
  | .updRsp rsp => some rsp.toSlookup

/-! ## The system -/

/-- The controller, the hash table with the map of its executed operations,
and the sessions: from the answer to their creation to the execution of their
deletion. -/
structure HashCamSystem where
  slookup : SlookupState
  cam : MapSystem
  live : CamTuple → Option TcpSessionID

inductive HashCamAction where
  | process (process : SlookupProcess)
  | input (input : SlookupInput)
  | hashTable

namespace HashCamSystem

def start (table : TcpSessionID → RevTableEntry) : HashCamSystem where
  slookup := SlookupState.start table
  cam := MapSystem.start
  live := fun _ => none

/-- The requests of the controller reach the FIFOs of the table. -/
def call (system : HashCamSystem) (process : SlookupProcess) :
    HashCamSystem where
  slookup := (process.call system.slookup).1
  cam :=
    { system.cam with
      table :=
        { system.cam.table with
          lupReqs :=
            system.cam.table.lupReqs ++
              ((process.call system.slookup).2.filterMap
                SlookupMsg.toCamLup).map RtlSlookupToCamLupReq.toHT
          updReqs :=
            system.cam.table.updReqs ++
              ((process.call system.slookup).2.filterMap
                SlookupMsg.toCamUpd).map RtlSlookupToCamUpdReq.toHT } }
  live := system.slookup.liveAfter process system.live

/-- The answers of the table reach the FIFOs of the controller. -/
def callTable (tabulationTable : TabulationTable)
    (system : HashCamSystem) : HashCamSystem where
  slookup :=
    { system.slookup with
      camLupRsps :=
        system.slookup.camLupRsps ++
          (hashTable tabulationTable system.cam.table).2.filterMap
            HashTableMsg.toCamLupRsp
      camUpdRsps :=
        system.slookup.camUpdRsps ++
          (hashTable tabulationTable system.cam.table).2.filterMap
            HashTableMsg.toCamUpdRsp }
  cam := system.cam.act tabulationTable .hashTable
  live :=
    match system.cam.table.nextOp with
    | some (.update ⟨.delete, key, _, _⟩) =>
        Function.update system.live (FourTuple.ofKey key) none
    | _ => system.live

def act (tabulationTable : TabulationTable) (system : HashCamSystem) :
    HashCamAction → HashCamSystem
  | .process process => system.call process
  | .input input =>
      { system with slookup := system.slookup.receive input }
  | .hashTable => system.callTable tabulationTable

/-- The table would answer a lookup of the tuple with the session. -/
def Finds (tabulationTable : TabulationTable) (system : HashCamSystem)
    (tuple : CamTuple) (id : TcpSessionID) : Prop :=
  ∀ source,
    system.cam.table.cuckooTables.lookUp tabulationTable
        ⟨tuple.toKey, source⟩ =
      ⟨tuple.toKey, id, true, source⟩

end HashCamSystem

/-- Lookups are answered by the table only. -/
def HashCamAction.fromOutside : HashCamAction → Bool
  | .input (.camLupRsp _) => false
  | _ => true

def HashCamStep (tabulationTable : TabulationTable)
    (system : HashCamSystem) (action : HashCamAction)
    (next : HashCamSystem) : Prop :=
  next = system.act tabulationTable action ∧ action.fromOutside = true

/-- A creation is answered only if its insertion has succeeded, for a tuple
without a session, and the table finds it from then on; a lookup of a tuple
with a session is answered with it. -/
def CreatesStored (tabulationTable : TabulationTable)
    (system : HashCamSystem) : HashCamAction → Prop
  | .process process =>
      ∀ tuple id,
        system.slookup.answersCreation process = some (tuple, id) →
          (∃ rsp ∈ system.slookup.camInsertRsps.head?,
              rsp.success = true ∧ rsp.key = tuple ∧
                rsp.sessionId = id) ∧
            system.Finds tabulationTable tuple id ∧
            system.live tuple = none
  | .hashTable =>
      ∀ request,
        system.cam.table.nextOp = some (.lookUp request) →
          ∀ id,
            system.live (FourTuple.ofKey request.key) = some id →
              (hashTable tabulationTable system.cam.table).2 =
                [.lupRsp ⟨request.key, id, true, request.source⟩]
  | .input _ => True

/-- For every insertion that the table executes, one of the entries that
would be at hand in its trials has a free position in the tables as they
stand. -/
def InsertionsHaveRoom (tabulationTable : TabulationTable)
    (system : HashCamSystem) : HashCamAction → Prop
  | .hashTable =>
      ∀ request,
        system.cam.table.nextOp = some (.update request) →
          request.op = .insert →
            system.cam.table.HasRoom tabulationTable kMaxTrials
              (request.key, request.value)
  | _ => True

/-! ## The hash table is such a CAM -/

namespace HashCamSystem

/-- The controller beside a CAM with the contents of the map. -/
def toCam (system : HashCamSystem) (inserts deletes : Nat) : CamSystem where
  ids :=
    { slookup := system.slookup
      camUpdReqs := system.cam.table.updReqs.map HTUpdateReq.toSlookup
      inserts := inserts
      deletes := deletes }
  cam := fun tuple => system.cam.map tuple.toKey
  camLupReqs := system.cam.table.lupReqs.map HTLookupReq.toSlookup

/-- The table holds the map, and the map is the CAM that stores the
sessions. -/
structure Stores (tabulationTable : TabulationTable)
    (system : HashCamSystem) : Prop where
  refines : system.cam.Refines tabulationTable
  stored :
    ∃ inserts deletes,
      StoredSessions (system.toCam inserts deletes) system.live

theorem toCam_call (system : HashCamSystem) (process : SlookupProcess)
    (inserts deletes : Nat) :
    (system.toCam inserts deletes).call process =
      (system.call process).toCam
        ((system.toCam inserts deletes).call process).ids.inserts
        ((system.toCam inserts deletes).call process).ids.deletes := by
  simp [toCam, call, CamSystem.call, IdSystem.call, Function.comp_def]

theorem stores_call {tabulationTable : TabulationTable}
    {system : HashCamSystem} (stores : system.Stores tabulationTable)
    (process : SlookupProcess) :
    (system.call process).Stores tabulationTable := by
  obtain ⟨refines, inserts, deletes, stored⟩ := stores
  have called := stored.call process
  rw [toCam_call] at called
  exact ⟨refines, _, _, called⟩

theorem stores_input {tabulationTable : TabulationTable}
    {system : HashCamSystem} (stores : system.Stores tabulationTable)
    {input : SlookupInput}
    (fromOutside : (HashCamAction.input input).fromOutside = true) :
    Stores tabulationTable
      { system with slookup := system.slookup.receive input } := by
  obtain ⟨refines, inserts, deletes, stored⟩ := stores
  have notLookup (rsp : RtlCamToSlookupLupRsp) : input ≠ .camLupRsp rsp := by
    rintro rfl
    cases fromOutside
  exact ⟨refines, inserts, deletes, stored.receive notLookup⟩

/-- The table finds what the map has. -/
theorem finds_of_map {tabulationTable : TabulationTable}
    {system : HashCamSystem} (refines : system.cam.Refines tabulationTable)
    {request : HTLookupReq} {id : TcpSessionID}
    (known : system.cam.map request.key = some id) :
    system.cam.table.cuckooTables.lookUp tabulationTable request =
      ⟨request.key, id, true, request.source⟩ := by
  obtain ⟨isKey, isSource, hit, value⟩ :=
    CuckooTables.lookUp_holds refines request
  rw [known, Option.isSome_some] at hit
  have isValue := value id known
  generalize system.cam.table.cuckooTables.lookUp tabulationTable request =
    answer at *
  obtain ⟨key, value, hit, source⟩ := answer
  simp_all

/-- The table answers a lookup as the CAM does. -/
theorem stores_lookUp {tabulationTable : TabulationTable}
    {system : HashCamSystem} (stores : system.Stores tabulationTable)
    {request : HTLookupReq} {later : List HTLookupReq}
    (queued : system.cam.table.lupReqs = request :: later) :
    (system.callTable tabulationTable).Stores tabulationTable := by
  obtain ⟨refines, inserts, deletes, stored⟩ := stores
  have answers :
      hashTable tabulationTable system.cam.table =
        ({ system.cam.table with lupReqs := later },
          [.lupRsp
            (system.cam.table.cuckooTables.lookUp tabulationTable
              request)]) := by
    rw [hashTable, queued]
  have isNext :
      system.cam.table.nextOp = some (.lookUp request) := by
    rw [HashTableState.nextOp, queued]
  obtain ⟨isKey, _, hit, value⟩ :=
    CuckooTables.lookUp_holds refines request
  have looksUp :
      (if (system.cam.table.cuckooTables.lookUp tabulationTable
            request).toSlookup.hit then
          some (system.cam.table.cuckooTables.lookUp tabulationTable
            request).toSlookup.sessionId
        else
          none) =
        (system.toCam inserts deletes).cam request.toSlookup.key := by
    change
      (if (system.cam.table.cuckooTables.lookUp tabulationTable
            request).hit then
          some (system.cam.table.cuckooTables.lookUp tabulationTable
            request).value
        else
          none) =
        system.cam.map (FourTuple.ofKey request.key).toKey
    rw [FourTuple.toKey_ofKey, hit]
    cases known : system.cam.map request.key with
    | none =>
        rfl
    | some id =>
        rw [value id known]
        rfl
  have next :=
    stored.camLookup
      (show
        (system.toCam inserts deletes).camLupReqs =
          request.toSlookup :: later.map HTLookupReq.toSlookup by
        rw [toCam, queued]
        rfl)
      looksUp
  refine ⟨?_, inserts, deletes, ?_⟩
  · rw [callTable, MapSystem.act, isNext, answers]
    exact refines
  · rw [callTable, MapSystem.act, isNext, answers]
    simpa [toCam, CamSystem.receive, SlookupState.receive,
      HashTableOp.apply, HashTableMsg.toCamLupRsp,
      HashTableMsg.toCamUpdRsp, List.filterMap_cons] using next

/-- An update of the map, as one of the CAM. -/
theorem update_toKey (map : HTKey → Option HTValue) (key : HTKey)
    (value : Option HTValue) :
    (fun tuple : CamTuple => Function.update map key value tuple.toKey) =
      Function.update (fun tuple : CamTuple => map tuple.toKey)
        (FourTuple.ofKey key) value := by
  funext tuple
  by_cases isKey : tuple = FourTuple.ofKey key
  · rw [isKey, FourTuple.toKey_ofKey, Function.update_self,
      Function.update_self]
  · have otherKey : tuple.toKey ≠ key :=
      fun same => isKey (FourTuple.toKey_eq_iff.1 same)
    rw [Function.update_of_ne otherKey, Function.update_of_ne isKey]

theorem toCam_queued {system : HashCamSystem} {request : HTUpdateReq}
    {later : List HTUpdateReq}
    (queued : system.cam.table.updReqs = request :: later)
    (inserts deletes : Nat) :
    (system.toCam inserts deletes).ids.camUpdReqs =
      request.toSlookup :: later.map HTUpdateReq.toSlookup := by
  rw [toCam, queued]
  rfl

/-- The table executes an update, which it reports as done, as the CAM
does. -/
theorem stores_update {tabulationTable : TabulationTable}
    {system : HashCamSystem} {inserts deletes : Nat}
    (refines : system.cam.Refines tabulationTable)
    (stored : StoredSessions (system.toCam inserts deletes) system.live)
    {request : HTUpdateReq} {later : List HTUpdateReq}
    (noLookUp : system.cam.table.lupReqs = [])
    (queued : system.cam.table.updReqs = request :: later)
    (insertsNew :
      request.op = .insert →
        system.cam.map request.key = none ∧
          (system.cam.table.inserted tabulationTable request).success =
            true)
    (answers :
      (hashTable tabulationTable system.cam.table).2 =
        [.updRsp
          ⟨request.op, request.key, request.value, true,
            request.source⟩]) :
    (system.callTable tabulationTable).Stores tabulationTable := by
  have isNext :
      system.cam.table.nextOp = some (.update request) := by
    rw [HashTableState.nextOp, noLookUp, queued]
  have next := stored.camUpdate (toCam_queued queued inserts deletes)
  obtain ⟨op, key, value, source⟩ := request
  have lupReqs :
      (hashTable tabulationTable system.cam.table).1.lupReqs = [] := by
    rw [hashTable, noLookUp, queued]
    cases op <;> rfl
  have updReqs :
      (hashTable tabulationTable system.cam.table).1.updReqs = later := by
    rw [hashTable, noLookUp, queued]
    cases op <;> rfl
  refine
    ⟨(refines_hashTable refines ?_).1, inserts, deletes, ?_⟩
  · rw [InsertsNew, isNext]
    exact insertsNew
  · cases op <;>
      simpa [callTable, MapSystem.act, isNext, answers, lupReqs, updReqs,
        HashTableOp.apply, HashTableMsg.toCamLupRsp,
        HashTableMsg.toCamUpdRsp, HTUpdateResp.toSlookup, toCam,
        CamSystem.updated, IdSystem.answered, RtlSlookupToCamUpdReq.rsp,
        HTUpdateReq.toSlookup, KVOperation.toSlookup, noLookUp,
        List.filterMap_cons, update_toKey] using next

/-- The table executes a new insertion as the CAM does. -/
theorem stores_insert {tabulationTable : TabulationTable}
    {system : HashCamSystem} (stores : system.Stores tabulationTable)
    {key : HTKey} {value : HTValue} {source : KVOpeationSource}
    {later : List HTUpdateReq}
    (noLookUp : system.cam.table.lupReqs = [])
    (queued :
      system.cam.table.updReqs = ⟨.insert, key, value, source⟩ :: later)
    (hasRoom :
      system.cam.table.HasRoom tabulationTable kMaxTrials (key, value)) :
    (system.callTable tabulationTable).Stores tabulationTable := by
  obtain ⟨refines, inserts, deletes, stored⟩ := stores
  have absent : system.cam.map key = none := by
    have none :=
      stored.requested (FourTuple.ofKey key, value) (by
        rw [IdSystem.requestedEntries, toCam_queued queued]
        simp [HTUpdateReq.toSlookup, KVOperation.toSlookup])
    change system.cam.map (FourTuple.ofKey key).toKey = Option.none at none
    rw [FourTuple.toKey_ofKey] at none
    exact none
  have notStored (other : HTValue) :
      ¬ Stored system.cam.table.cuckooTables.items (key, other) := by
    rintro ⟨index, address, here⟩
    have known := refines.entry here
    rw [absent] at known
    cases known
  have succeeds :
      (system.cam.table.inserted tabulationTable
        ⟨.insert, key, value, source⟩).success = true :=
    (HashTableState.success_iff_hasRoom
      (fun _ _ _ _ known => refines.placed known) notStored).2 hasRoom
  refine
    stores_update refines stored noLookUp queued
      (fun _ => ⟨absent, succeeds⟩) ?_
  rw [hashTable, noLookUp, queued]
  change
    [HashTableMsg.updRsp
        ⟨.insert, key, value,
          (system.cam.table.inserted tabulationTable
            ⟨.insert, key, value, source⟩).success, source⟩] = _
  rw [succeeds]

/-- The table executes a deletion as the CAM does. -/
theorem stores_delete {tabulationTable : TabulationTable}
    {system : HashCamSystem} (stores : system.Stores tabulationTable)
    {key : HTKey} {value : HTValue} {source : KVOpeationSource}
    {later : List HTUpdateReq}
    (noLookUp : system.cam.table.lupReqs = [])
    (queued :
      system.cam.table.updReqs = ⟨.delete, key, value, source⟩ :: later) :
    (system.callTable tabulationTable).Stores tabulationTable := by
  obtain ⟨refines, inserts, deletes, stored⟩ := stores
  have present : system.cam.map key = some value := by
    have known :
        (system.toCam inserts deletes).cam (FourTuple.ofKey key) =
          some value := by
      apply (stored.contents.mem_iff _ _).1
      apply List.mem_append_right
      rw [IdSystem.sessionEntries, toCam_queued queued]
      simp [HTUpdateReq.toSlookup, KVOperation.toSlookup]
    change system.cam.map (FourTuple.ofKey key).toKey = some value at known
    rw [FourTuple.toKey_ofKey] at known
    exact known
  refine
    stores_update refines stored noLookUp queued
      (fun isInsert => by cases isInsert) ?_
  have found := CuckooTables.any_holdsKey refines key
  rw [present] at found
  rw [hashTable, noLookUp, queued]
  change
    [HashTableMsg.updRsp
        ⟨.delete, key, value,
          (List.finRange kNumTables).any fun i =>
            (system.cam.table.cuckooTables.currentEntries
              (calculateHashes tabulationTable key) i).holdsKey key,
          source⟩] = _
  rw [found]
  rfl

theorem stores_callTable {tabulationTable : TabulationTable}
    {system : HashCamSystem} (stores : system.Stores tabulationTable)
    (haveRoom : InsertionsHaveRoom tabulationTable system .hashTable) :
    (system.callTable tabulationTable).Stores tabulationTable := by
  cases lookUps : system.cam.table.lupReqs with
  | cons request later =>
      exact stores_lookUp stores lookUps
  | nil =>
      cases updates : system.cam.table.updReqs with
      | nil =>
          have same : system.callTable tabulationTable = system := by
            simp [callTable, MapSystem.act, hashTable, lookUps, updates,
              HashTableState.nextOp]
          rw [same]
          exact stores
      | cons request later =>
          obtain ⟨op, key, value, source⟩ := request
          cases op with
          | insert =>
              refine stores_insert stores lookUps updates ?_
              apply haveRoom ⟨.insert, key, value, source⟩
              · rw [HashTableState.nextOp, lookUps, updates]
              · rfl
          | delete =>
              exact stores_delete stores lookUps updates

theorem stores_step {tabulationTable : TabulationTable}
    {system next : HashCamSystem} {action : HashCamAction}
    (stores : system.Stores tabulationTable)
    (haveRoom : InsertionsHaveRoom tabulationTable system action)
    (stepped : HashCamStep tabulationTable system action next) :
    next.Stores tabulationTable := by
  obtain ⟨rfl, fromOutside⟩ := stepped
  cases action with
  | process process =>
      exact stores_call stores process
  | input input =>
      exact stores_input stores fromOutside
  | hashTable =>
      exact stores_callTable stores haveRoom

theorem stores_start (tabulationTable : TabulationTable)
    (table : TcpSessionID → RevTableEntry) :
    (start table).Stores tabulationTable :=
  ⟨Holds.empty, 0, 0, StoredSessions.start table⟩

/-- The table stores every session that the controller creates. -/
theorem createsStored {tabulationTable : TabulationTable}
    {system : HashCamSystem} (stores : system.Stores tabulationTable)
    (action : HashCamAction) :
    CreatesStored tabulationTable system action := by
  obtain ⟨refines, inserts, deletes, stored⟩ := stores
  cases action with
  | input input =>
      trivial
  | process process =>
      intro tuple id creation
      cases process with
      | getNewAvailableSessionId | camUpdateReqSender |
          camUpdateRspHandler | slookupReverseTableInterface =>
          cases creation
      | camLookupRspHandler =>
          rw [SlookupState.answersCreation] at creation
          split at creation
          next rsp later updRsp hasRsp cacheValid =>
            cases creation
            obtain ⟨success, isTuple, inCam, notLive⟩ :=
              stored.answersCreation updRsp hasRsp
            change
              rsp.key = system.slookup.toRevTableReqCache.tuple at isTuple
            rw [isTuple] at inCam notLive
            refine
              ⟨⟨rsp, by rw [hasRsp]; rfl, success, isTuple, rfl⟩, ?_,
                notLive⟩
            intro source
            exact finds_of_map refines inCam
          next =>
            cases creation
  | hashTable =>
      intro request isNext id isLive
      have known : system.cam.map request.key = some id := by
        have inCam := stored.cam_eq isLive
        change
          system.cam.map (FourTuple.ofKey request.key).toKey = some id
            at inCam
        rw [FourTuple.toKey_ofKey] at inCam
        exact inCam
      have answers :
          (hashTable tabulationTable system.cam.table).2 =
            [.lupRsp
              (system.cam.table.cuckooTables.lookUp tabulationTable
                request)] := by
        rw [HashTableState.nextOp] at isNext
        split at isNext
        next first later lookUps =>
          cases isNext
          rw [hashTable, lookUps]
        next =>
          cases isNext
        next =>
          cases isNext
      rw [answers, finds_of_map refines known]

end HashCamSystem

/-- In every run in which each insertion of the table has room, a session is
created only once its insertion has succeeded, no second one is created for
its tuple, and every lookup before its deletion finds it. -/
theorem sessions_stored (tabulationTable : TabulationTable)
    (table : TcpSessionID → RevTableEntry)
    (actions : List HashCamAction)
    (haveRoom :
      Along (HashCamStep tabulationTable)
        (InsertionsHaveRoom tabulationTable) (HashCamSystem.start table)
        actions) :
    Along (HashCamStep tabulationTable) (CreatesStored tabulationTable)
      (HashCamSystem.start table) actions := by
  have preserved (system : HashCamSystem) (action : HashCamAction)
      (next : HashCamSystem) (stores : system.Stores tabulationTable)
      (haveRoom : InsertionsHaveRoom tabulationTable system action)
      (stepped : HashCamStep tabulationTable system action next) :
      next.Stores tabulationTable :=
    HashCamSystem.stores_step stores haveRoom stepped
  have enough (system : HashCamSystem) (action : HashCamAction)
      (next : HashCamSystem) (stores : system.Stores tabulationTable)
      (_ : InsertionsHaveRoom tabulationTable system action)
      (_ : HashCamStep tabulationTable system action next) :
      CreatesStored tabulationTable system action :=
    HashCamSystem.createsStored stores action
  exact
    along_of_invariant preserved enough
      (HashCamSystem.stores_start tabulationTable table) haveRoom

/-- Every key that is inserted has a free position. -/
def insertsAtFree (tabulationTable : TabulationTable)
    (system : HashCamSystem) : HashCamAction → Bool
  | .hashTable =>
      match system.cam.table.nextOp with
      | some (.update ⟨.insert, key, _, _⟩) =>
          (List.finRange kNumTables).any fun slot =>
            (system.cam.table.cuckooTables.items slot
              (calculateHashes tabulationTable key slot)).isNone
      | _ => true
  | _ => true

theorem haveRoom_of_insertsAtFree {tabulationTable : TabulationTable}
    {system : HashCamSystem} {action : HashCamAction}
    (atFree : insertsAtFree tabulationTable system action = true) :
    InsertionsHaveRoom tabulationTable system action := by
  cases action with
  | process | input =>
      trivial
  | hashTable =>
      rintro ⟨op, key, value, source⟩ isNext rfl
      rw [insertsAtFree, isNext] at atFree
      obtain ⟨slot, -, isFree⟩ := List.any_eq_true.1 atFree
      exact
        ⟨(key, value), [], Chain.new, by decide, slot,
          Option.isNone_iff_eq_none.1 isFree⟩

/-- The application opens a session, up to the insertion that is sent. -/
def sendsInsert (tuple : FourTuple) : List HashCamAction :=
  [.process .getNewAvailableSessionId,
    .input (.txAppReq ⟨tuple, 0⟩),
    .process .camLookupRspHandler, .hashTable,
    .process .camLookupRspHandler, .process .camUpdateReqSender]

/-- The insertion is executed, and the application gets its answer. -/
def answersInsert : List HashCamAction :=
  [.hashTable, .process .camUpdateRspHandler,
    .process .camLookupRspHandler,
    .process .slookupReverseTableInterface]

/-- A lookup that misses, a session that is created, and a lookup that finds
it. -/
def openedAndFound : List HashCamAction :=
  sendsInsert ⟨1, 2, 3, 10⟩ ++ answersInsert ++
    [.input (.rxEngReq ⟨⟨2, 1, 10, 3⟩, false, 0⟩),
      .process .camLookupRspHandler, .hashTable,
      .process .camLookupRspHandler]

theorem sessions_stored_openedAndFound :
    Along (HashCamStep oneTableApart) (CreatesStored oneTableApart)
      (HashCamSystem.start fun _ => ⟨⟨0, 0, 0, 0⟩, 0⟩) openedAndFound := by
  have atFree :
      Enabled (HashCamSystem.act oneTableApart)
        (fun system action =>
          insertsAtFree oneTableApart system action = true)
        (HashCamSystem.start fun _ => ⟨⟨0, 0, 0, 0⟩, 0⟩)
        openedAndFound := by
    decide +kernel
  refine
    sessions_stored oneTableApart (fun _ => ⟨⟨0, 0, 0, 0⟩, 0⟩)
      openedAndFound
      (Along.map (Enabled.along (fun _ _ _ stepped => stepped.1) atFree)
        fun _ _ => haveRoom_of_insertsAtFree)

/-! ## An insertion that fails -/

/-- An insertion that fails is answered with the session all the same. -/
theorem not_createsStored_of_failure {tabulationTable : TabulationTable}
    {system : HashCamSystem} {request : HTUpdateReq}
    (noLookUp : system.cam.table.lupReqs = [])
    (queued : system.cam.table.updReqs = [request])
    (isInsert : request.op = .insert)
    (fails :
      (system.cam.table.inserted tabulationTable request).success = false)
    (updRsp : system.slookup.slcFsmState = .updRsp)
    (cacheValid : system.slookup.toRevTableReqCacheValid = true)
    (noRsps :
      system.slookup.camUpdRsps = [] ∧ system.slookup.camInsertRsps = []) :
    ¬CreatesStored tabulationTable
      ((system.callTable tabulationTable).call .camUpdateRspHandler)
      (.process .camLookupRspHandler) := by
  obtain ⟨op, key, value, source⟩ := request
  change op = .insert at isInsert
  subst isInsert
  have answers :
      (hashTable tabulationTable system.cam.table).2 =
        [.updRsp ⟨.insert, key, value, false, source⟩] := by
    rw [hashTable, noLookUp, queued]
    change
      [HashTableMsg.updRsp
          ⟨.insert, key, value,
            (system.cam.table.inserted tabulationTable
              ⟨.insert, key, value, source⟩).success, source⟩] = _
    rw [fails]
  have handled :
      ((system.callTable tabulationTable).call
          .camUpdateRspHandler).slookup =
        { system.slookup with
          camLupRsps := system.slookup.camLupRsps
          camUpdRsps := []
          camInsertRsps :=
            [HTUpdateResp.toSlookup
              ⟨.insert, key, value, false, source⟩] } := by
    simp [HashCamSystem.call, HashCamSystem.callTable,
      SlookupProcess.call, camUpdateRspHandler, answers, noRsps.1,
      noRsps.2, List.filterMap_cons, HashTableMsg.toCamUpdRsp,
      HashTableMsg.toCamLupRsp, HTUpdateResp.toSlookup,
      KVOperation.toSlookup]
  have creation :
      ((system.callTable tabulationTable).call
          .camUpdateRspHandler).slookup.answersCreation
          .camLookupRspHandler =
        some (system.slookup.toRevTableReqCache.tuple, value) := by
    rw [handled, SlookupState.answersCreation, updRsp, cacheValid]
    rfl
  intro createsStored
  obtain ⟨⟨rsp, isFirst, success, _⟩, _⟩ := createsStored _ _ creation
  rw [handled] at isFirst
  cases isFirst
  cases success

/-! ## Ten sessions with the same hashes -/

namespace HashCamSystem

/-- The controller is in the given state with the given next ID, and the
given insertions are before the table, which holds keys with shared
positions. -/
structure Opens (row : HTRow) (nextId : FreeSessionID)
    (fsmState : SlookupFsmState) (inserts : List HTUpdateReq)
    (system : HashCamSystem) : Prop where
  inRow :
    HashTableState.InRow tabulationTable96 collidingHashes row
      { system.cam.table with updReqs := [] }
  queued : system.cam.table.updReqs = inserts
  isNext : system.slookup.curSessionId = nextId
  isState : system.slookup.slcFsmState = fsmState
  cached :
    fsmState = .updRsp → system.slookup.toRevTableReqCacheValid = true
  noIds :
    system.slookup.releasedIds = [] ∧ system.slookup.availableIds = []
  noRequests :
    system.slookup.txAppReqs = [] ∧ system.slookup.camInsertReqs = [] ∧
      system.slookup.camDeleteReqs = [] ∧
      system.slookup.reverseTableInsertReqs = []
  noAnswers :
    system.slookup.camLupRsps = [] ∧ system.slookup.camUpdRsps = [] ∧
      system.slookup.camInsertRsps = []

variable {row : HTRow} {nextId : FreeSessionID} {key : HTKey}
variable {system : HashCamSystem}

theorem Opens.sends (opens : system.Opens row nextId .lupReq [])
    (free : nextId.toNat < tcpMaxSessions)
    (shared : calculateHashes tabulationTable96 key = collidingHashes)
    (apart : ∀ i, (row.entries i).holdsKey key = false) :
    ((sendsInsert (FourTuple.ofKey key)).foldl (act tabulationTable96)
        system).Opens row (nextId + 1) .updRsp
      [⟨.insert, key, nextId.setWidth 16, .srcB⟩] := by
  obtain
    ⟨inRow, queued, isNext, isState, -, noIds, noRequests, noAnswers⟩ :=
    opens
  have noLookups : system.cam.table.lupReqs = [] := inRow.noLookups
  have misses :
      system.cam.table.cuckooTables.lookUp tabulationTable96
          ⟨key, .srcB⟩ =
        ⟨key, 0, false, .srcB⟩ := by
    exact inRow.lookUp_missed shared apart
  simp only [sendsInsert, List.foldl_cons, List.foldl_nil, act, call,
    callTable, MapSystem.act, SlookupProcess.call,
    getNewAvailableSessionId, camLookupRspHandler, camUpdateReqSender,
    SlookupState.receive, SlookupState.takeLupReq, SlookupState.lookUp,
    SlookupState.takeLupRsp, hashTable, List.nil_append, List.append_nil,
    List.filterMap_cons, List.filterMap_nil, List.map_cons, List.map_nil,
    SlookupMsg.toCamLup, SlookupMsg.toCamUpd, HashTableMsg.toCamLupRsp,
    HashTableMsg.toCamUpdRsp, RtlSlookupToCamLupReq.toHT,
    RtlSlookupToCamUpdReq.toHT, HTLookupResp.toSlookup,
    SlookupSource.toHT, FourTuple.toKey_ofKey, Bool.not_false,
    Bool.true_and, if_true, free, noIds, isNext, isState,
    noRequests, noAnswers, noLookups, queued, misses]
  exact
    ⟨⟨inRow.tables, inRow.victimBit, rfl, rfl, inRow.shares⟩, rfl, rfl,
      rfl, fun _ => rfl, ⟨rfl, rfl⟩, ⟨rfl, rfl, rfl, rfl⟩,
      ⟨rfl, rfl, rfl⟩⟩

theorem Opens.answers {value : HTValue}
    (opens :
      system.Opens row nextId .updRsp [⟨.insert, key, value, .srcB⟩])
    (shared : calculateHashes tabulationTable96 key = collidingHashes) :
    (answersInsert.foldl (act tabulationTable96) system).Opens
      (row.insert collidingHashes (key, value)) nextId .lupReq [] := by
  obtain
    ⟨inRow, queued, isNext, isState, cached, noIds, noRequests,
      noAnswers⟩ :=
    opens
  have noLookups : system.cam.table.lupReqs = [] := inRow.noLookups
  have inserted := inRow.insert ⟨.insert, key, value, .srcB⟩ shared
  simp only [answersInsert, List.foldl_cons, List.foldl_nil, act, call,
    callTable, MapSystem.act, SlookupProcess.call, camUpdateRspHandler,
    camLookupRspHandler, SlookupState.takeUpdRsp,
    slookupReverseTableInterface, hashTable, HashTableState.insert,
    List.nil_append, List.append_nil, List.filterMap_cons,
    List.filterMap_nil, List.map_nil, rspTo, SlookupMsg.toCamLup,
    SlookupMsg.toCamUpd, HashTableMsg.toCamLupRsp,
    HashTableMsg.toCamUpdRsp, HTUpdateResp.toSlookup,
    KVOperation.toSlookup, if_true, cached rfl, isState, noRequests,
    noAnswers, noLookups, queued]
  exact
    ⟨⟨inserted.tables, inserted.victimBit, rfl, rfl, inserted.shares⟩, rfl,
      isNext, rfl, (fun waits => by cases waits), noIds,
      ⟨rfl, rfl, rfl, rfl⟩, ⟨rfl, rfl, rfl⟩⟩

/-- Where the insertion fails, the application gets the ID all the same. -/
theorem Opens.notStored {value : HTValue}
    (opens :
      system.Opens row nextId .updRsp [⟨.insert, key, value, .srcB⟩])
    (shared : calculateHashes tabulationTable96 key = collidingHashes)
    (fails :
      (row.insert collidingHashes (key, value)).success = false) :
    ¬CreatesStored tabulationTable96
      ((system.callTable tabulationTable96).call .camUpdateRspHandler)
      (.process .camLookupRspHandler) := by
  have success :=
    @HashTableState.InRow.success _ _ _ _ opens.inRow
      ⟨.insert, key, value, .srcB⟩ shared
  exact
    not_createsStored_of_failure opens.inRow.noLookups opens.queued rfl
      (success.trans fails) opens.isState (opens.cached rfl)
      opens.noAnswers.2

/-- What opening a session makes of the row and the next ID. -/
def create (opened : HTRow × FreeSessionID) (key : HTKey) :
    HTRow × FreeSessionID :=
  (opened.1.insert collidingHashes (key, opened.2.setWidth 16),
    opened.2 + 1)

/-- An ID is free and the key is new. -/
def Creates (opened : HTRow × FreeSessionID) (key : HTKey) : Prop :=
  opened.2.toNat < tcpMaxSessions ∧
    ∀ i, (opened.1.entries i).holdsKey key = false

theorem Opens.foldl (keys : List HTKey)
    {opened : HTRow × FreeSessionID} {system : HashCamSystem}
    (opens : system.Opens opened.1 opened.2 .lupReq [])
    (shared :
      ∀ key ∈ keys,
        calculateHashes tabulationTable96 key = collidingHashes)
    (creates : Enabled create Creates opened keys) :
    ((keys.flatMap fun key =>
          sendsInsert (FourTuple.ofKey key) ++ answersInsert).foldl
        (act tabulationTable96) system).Opens
      (keys.foldl create opened).1 (keys.foldl create opened).2
      .lupReq [] := by
  induction keys generalizing opened system with
  | nil =>
      exact opens
  | cons key later inductionHypothesis =>
      rw [List.flatMap_cons, List.foldl_append, List.foldl_append,
        List.foldl_cons]
      have isShared := shared key List.mem_cons_self
      have sent :=
        opens.sends creates.1.1 isShared creates.1.2
      exact
        inductionHypothesis (sent.answers isShared)
          (fun other member => shared other (List.mem_cons_of_mem _ member))
          creates.2

end HashCamSystem

def collidingKeys : List HTKey :=
  collidingItems.map Prod.fst

theorem collidingKeys_shared :
    ∀ key ∈ collidingKeys,
      calculateHashes tabulationTable96 key = collidingHashes := by
  intro key member
  obtain ⟨item, isItem, rfl⟩ := List.mem_map.1 member
  exact collidingItems_shared item isItem

/-- The row and the next ID once nine sessions are open. -/
def nineCreated : HTRow × FreeSessionID :=
  (collidingKeys.take 9).foldl HashCamSystem.create (HTRow.start, 0)

instance (opened : HTRow × FreeSessionID) (key : HTKey) :
    Decidable (HashCamSystem.Creates opened key) :=
  inferInstanceAs
    (Decidable
      (opened.2.toNat < tcpMaxSessions ∧
        ∀ i : Fin 9, (opened.1.entries i).holdsKey key = false))

theorem nineCreated_creates :
    Enabled HashCamSystem.create HashCamSystem.Creates (HTRow.start, 0)
        (collidingKeys.take 9) ∧
      HashCamSystem.Creates nineCreated tenthRequest.key := by
  decide +kernel

theorem nineCreated_fails :
    (nineCreated.1.insert collidingHashes
      (tenthRequest.key, nineCreated.2.setWidth 16)).success = false := by
  decide +kernel

/-- Nine sessions are opened, and the insertion of the tenth is sent. -/
def tenthSentActions : List HashCamAction :=
  ((collidingKeys.take 9).flatMap fun key =>
      sendsInsert (FourTuple.ofKey key) ++ answersInsert) ++
    sendsInsert (FourTuple.ofKey tenthRequest.key)

def tenthSent : HashCamSystem :=
  tenthSentActions.foldl (HashCamSystem.act tabulationTable96)
    (HashCamSystem.start fun _ => ⟨⟨0, 0, 0, 0⟩, 0⟩)

theorem tenthSent_opens :
    tenthSent.Opens nineCreated.1 (nineCreated.2 + 1) .updRsp
      [⟨.insert, tenthRequest.key, nineCreated.2.setWidth 16,
        .srcB⟩] := by
  obtain ⟨creates, isFree, apart⟩ := nineCreated_creates
  have starts :
      (HashCamSystem.start fun _ => ⟨⟨0, 0, 0, 0⟩, 0⟩).Opens HTRow.start 0
        .lupReq [] :=
    ⟨HashTableState.InRow.start, rfl, rfl, rfl,
      (fun waits => by cases waits), ⟨rfl, rfl⟩, ⟨rfl, rfl, rfl, rfl⟩,
      ⟨rfl, rfl, rfl⟩⟩
  have nine :=
    HashCamSystem.Opens.foldl (collidingKeys.take 9) starts
      (fun key member =>
        collidingKeys_shared key (List.mem_of_mem_take member))
      creates
  rw [tenthSent, tenthSentActions, List.foldl_append]
  exact nine.sends isFree tenthRequest_shared apart

/-- With the random values of the repository, ten sessions are created of
which the table holds nine. -/
theorem not_createsStored_tenthSession :
    ¬∀ tabulationTable table actions,
        Along (HashCamStep tabulationTable)
          (CreatesStored tabulationTable) (HashCamSystem.start table)
          actions := by
  intro allStored
  have sent :
      Run (HashCamStep tabulationTable96)
        (HashCamSystem.start fun _ => ⟨⟨0, 0, 0, 0⟩, 0⟩)
        tenthSentActions tenthSent := by
    refine
      @Enabled.run _ _ _ (HashCamSystem.act tabulationTable96)
        (fun _ action => action.fromOutside = true)
        (fun _ _ fromOutside => ⟨rfl, fromOutside⟩) _ _ ?_
    decide +kernel
  have answered :
      Run (HashCamStep tabulationTable96) tenthSent
        [.hashTable, .process .camUpdateRspHandler]
        ((tenthSent.callTable tabulationTable96).call
          .camUpdateRspHandler) :=
    Run.head ⟨rfl, rfl⟩ (Run.head ⟨rfl, rfl⟩ (Run.refl _))
  have run := sent.append answered
  exact
    tenthSent_opens.notStored tenthRequest_shared nineCreated_fails
      ((allStored tabulationTable96 (fun _ => ⟨⟨0, 0, 0, 0⟩, 0⟩) _).of_run
        run ⟨rfl, rfl⟩)

end TcpOffload
