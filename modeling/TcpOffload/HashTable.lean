import Mathlib.Data.List.FinRange
import TcpOffload.Config
import TcpOffload.Library.Cuckoo

/-!
# The hash table

`hash_table.cpp`: a table that keeps an entry at one of the nine positions of
its key, one in each of the cuckoo tables.  The hash of a key is the exclusive
or of one random value for each of its bits; the file of these values is an
argument of the model.
-/

namespace TcpOffload

def kMaxNumberOfEntries : Nat := tcpMaxSessions

def kMaxAddressBits : Nat := 16

def kNumTables : Nat := 9

instance : NeZero kNumTables :=
  ⟨by decide⟩

/-- `ConstLog2` of the entries of one table, were there one table less. -/
def kTableAddressBits : Nat :=
  Nat.log2 (kMaxNumberOfEntries / (kNumTables - 1))

/-- The key size of the build with `MULTI_IP_ADDR`. -/
abbrev kKeySize : Nat := 96

abbrev kValueSize : Nat := 16

def kMaxTrials : Nat := 12

abbrev HTKey := BitVec kKeySize

abbrev HTValue := BitVec kValueSize

/-- `tabulation_table[i][bit][k]`. -/
abbrev TabulationTable :=
  Fin kNumTables → Bool → Fin kKeySize → BitVec kMaxAddressBits

inductive KVOperation where
  | insert
  | delete
deriving DecidableEq, Repr

inductive KVOpeationSource where
  | srcA
  | srcB
deriving DecidableEq, Repr

structure HTLookupReq where
  key : HTKey
  source : KVOpeationSource
deriving DecidableEq, Repr

structure HTLookupResp where
  key : HTKey
  value : HTValue
  hit : Bool
  source : KVOpeationSource
deriving DecidableEq, Repr

structure HTUpdateReq where
  op : KVOperation
  key : HTKey
  value : HTValue
  source : KVOpeationSource
deriving DecidableEq, Repr

structure HTUpdateResp where
  op : KVOperation
  key : HTKey
  value : HTValue
  success : Bool
  source : KVOpeationSource
deriving DecidableEq, Repr

structure HTEntry where
  key : HTKey
  value : HTValue
  valid : Bool
deriving DecidableEq, Repr

/-- What an entry holds. -/
def HTEntry.item (entry : HTEntry) : Option (HTKey × HTValue) :=
  if entry.valid then some (entry.key, entry.value) else none

/-- An entry is that of a key. -/
def HTEntry.holdsKey (entry : HTEntry) (key : HTKey) : Bool :=
  entry.valid && entry.key = key

/-- The entry of a key becomes invalid. -/
def HTEntry.without (entry : HTEntry) (key : HTKey) : HTEntry :=
  if entry.holdsKey key then { entry with valid := false } else entry

abbrev Hashes := Fin kNumTables → BitVec kTableAddressBits

abbrev CuckooTables :=
  Fin kNumTables → BitVec kTableAddressBits → HTEntry

/-- `CalculateHashes`. -/
def calculateHashes (tabulationTable : TabulationTable) (key : HTKey) :
    Hashes :=
  fun i =>
    (List.finRange kKeySize).foldl
      (fun hash k =>
        hash ^^^ (tabulationTable i (key.getLsb k) k).setWidth
          kTableAddressBits)
      0

/-- The last table of a loop over all of them that meets a condition. -/
def lastSlot (meets : Fin kNumTables → Bool) : Option (Fin kNumTables) :=
  (List.finRange kNumTables).foldl
    (fun slot i => if meets i then some i else slot) none

namespace CuckooTables

/-- `current_entries`. -/
def currentEntries (cuckooTables : CuckooTables) (hashes : Hashes) :
    Fin kNumTables → HTEntry :=
  fun i => cuckooTables i (hashes i)

/-- The entries are written back. -/
def writeBack (cuckooTables : CuckooTables) (hashes : Hashes)
    (entries : Fin kNumTables → HTEntry) : CuckooTables :=
  fun i => Function.update (cuckooTables i) (hashes i) (entries i)

/-- The tables without the valid bits. -/
def items (cuckooTables : CuckooTables) :
    Fin kNumTables → BitVec kTableAddressBits → Option (HTKey × HTValue) :=
  fun i address => (cuckooTables i address).item

/-- `LookUp`.  The value of an answer without a hit is not set. -/
def lookUp (tabulationTable : TabulationTable) (cuckooTables : CuckooTables)
    (request : HTLookupReq) : HTLookupResp :=
  let entries :=
    cuckooTables.currentEntries (calculateHashes tabulationTable request.key)
  match lastSlot fun i => (entries i).holdsKey request.key with
  | some slot => ⟨request.key, (entries slot).value, true, request.source⟩
  | none => ⟨request.key, 0, false, request.source⟩

/-- `remove`. -/
def remove (tabulationTable : TabulationTable) (cuckooTables : CuckooTables)
    (request : HTUpdateReq) : CuckooTables × HTUpdateResp :=
  let hashes := calculateHashes tabulationTable request.key
  let entries := cuckooTables.currentEntries hashes
  (cuckooTables.writeBack hashes fun i => (entries i).without request.key,
    ⟨request.op, request.key, request.value,
      (List.finRange kNumTables).any fun i =>
        (entries i).holdsKey request.key,
      request.source⟩)

end CuckooTables

/-- What the trials of an insertion hand on.  `victimIdx` starts again at 0
after the last table. -/
structure HTInsertState where
  cuckooTables : CuckooTables
  currentEntry : HTEntry
  victimIdx : Fin kNumTables
  victimBit : BitVec 1
  success : Bool

namespace HTInsertState

/-- `victimPos`: the hash of the victim's index modulo the number of tables
less one, and one more in every second trial. -/
def victimPos (state : HTInsertState) (hashes : Hashes) : Fin kNumTables :=
  ⟨(hashes state.victimIdx).toNat % (kNumTables - 1) +
      state.victimBit.toNat,
    by
      have first :
          (hashes state.victimIdx).toNat % (kNumTables - 1) <
            kNumTables - 1 :=
        Nat.mod_lt _ (by decide)
      have second : state.victimBit.toNat < 2 := state.victimBit.isLt
      have eight : kNumTables - 1 = 8 := rfl
      have nine : kNumTables = 9 := rfl
      omega⟩

/-- One trial: a free slot takes the entry, or another entry is evicted. -/
def trial (tabulationTable : TabulationTable) (state : HTInsertState) :
    HTInsertState :=
  let hashes := calculateHashes tabulationTable state.currentEntry.key
  let entries := state.cuckooTables.currentEntries hashes
  match lastSlot fun i => !(entries i).valid with
  | some slot =>
      { state with
        cuckooTables :=
          state.cuckooTables.writeBack hashes
            (Function.update entries slot state.currentEntry)
        victimBit := state.victimBit + 1
        success := true }
  | none =>
      let pos := state.victimPos hashes
      { state with
        cuckooTables :=
          state.cuckooTables.writeBack hashes
            (Function.update entries pos state.currentEntry)
        currentEntry := entries pos
        victimIdx := state.victimIdx + 1
        victimBit := state.victimBit + 1 }

/-- `insertLoop`. -/
def insertLoop (tabulationTable : TabulationTable) :
    Nat → HTInsertState → HTInsertState
  | 0, state => state
  | trials + 1, state =>
      let next := state.trial tabulationTable
      if next.success then
        next
      else
        insertLoop tabulationTable trials next

end HTInsertState

/-- The tables, the static variables of an insertion, its status register
and the requests that wait. -/
structure HashTableState where
  cuckooTables : CuckooTables
  victimBit : BitVec 1
  insertFailureCounter : BitVec 16
  regInsertFailCount : BitVec 16
  lupReqs : List HTLookupReq
  updReqs : List HTUpdateReq

inductive HashTableMsg where
  | lupRsp (rsp : HTLookupResp)
  | updRsp (rsp : HTUpdateResp)
deriving DecidableEq, Repr

namespace HashTableState

def start : HashTableState where
  cuckooTables := fun _ _ => ⟨0, 0, false⟩
  victimBit := 0
  insertFailureCounter := 0
  regInsertFailCount := 0
  lupReqs := []
  updReqs := []

/-- An insertion ends when a slot was free or the trials are used up. -/
def inserted (tabulationTable : TabulationTable) (state : HashTableState)
    (request : HTUpdateReq) : HTInsertState :=
  HTInsertState.insertLoop tabulationTable kMaxTrials
    ⟨state.cuckooTables, ⟨request.key, request.value, true⟩, 0,
      state.victimBit, false⟩

/-- `Insert`.  After a failure the entry at hand is gone. -/
def insert (tabulationTable : TabulationTable) (state : HashTableState)
    (request : HTUpdateReq) : HashTableState × HTUpdateResp :=
  let final := state.inserted tabulationTable request
  ({ state with
      cuckooTables := final.cuckooTables
      victimBit := final.victimBit
      regInsertFailCount := state.insertFailureCounter
      insertFailureCounter :=
        if final.success then
          state.insertFailureCounter
        else
          state.insertFailureCounter + 1 },
    ⟨request.op, request.key, request.value, final.success,
      request.source⟩)

end HashTableState

/-- `HashTable`: a lookup comes before an update. -/
def hashTable (tabulationTable : TabulationTable) (state : HashTableState) :
    HashTableState × List HashTableMsg :=
  match state.lupReqs, state.updReqs with
  | request :: later, _ =>
      ({ state with lupReqs := later },
        [.lupRsp (state.cuckooTables.lookUp tabulationTable request)])
  | [], request :: later =>
      match request.op with
      | .insert =>
          let done :=
            { state with updReqs := later }.insert tabulationTable request
          (done.1, [.updRsp done.2])
      | .delete =>
          let done := state.cuckooTables.remove tabulationTable request
          ({ state with cuckooTables := done.1, updReqs := later },
            [.updRsp done.2])
  | [], [] => (state, [])

end TcpOffload
