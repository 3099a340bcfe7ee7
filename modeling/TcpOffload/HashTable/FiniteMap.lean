import TcpOffload.HashTable
import TcpOffload.Library.Guarded

/-!
# The hash table as a finite map

As long as no key is inserted twice and every insertion finds a free slot
within its trials, the nine tables hold a finite map: each trial of an
insertion hands on the one entry that is still to be placed.
-/

namespace TcpOffload

open Cuckoo Guarded

/-! ## The slot of a loop -/

theorem foldl_slot {meets : Fin kNumTables → Bool}
    (slots : List (Fin kNumTables)) (before : Option (Fin kNumTables)) :
    let last :=
      slots.foldl (fun slot i => if meets i then some i else slot) before
    (∃ slot ∈ slots, last = some slot ∧ meets slot = true) ∨
      last = before ∧ ∀ slot ∈ slots, meets slot = false := by
  induction slots generalizing before with
  | nil =>
      exact Or.inr ⟨rfl, by simp⟩
  | cons first rest inductionHypothesis =>
      rcases inductionHypothesis (if meets first then some first else before)
        with ⟨slot, member, isLast, meetsSlot⟩ | ⟨isLast, noneLater⟩
      · exact
          Or.inl ⟨slot, List.mem_cons_of_mem first member, isLast, meetsSlot⟩
      · by_cases meetsFirst : meets first = true
        · refine Or.inl ⟨first, List.mem_cons_self, ?_, meetsFirst⟩
          simpa [meetsFirst] using isLast
        · rw [Bool.not_eq_true] at meetsFirst
          refine Or.inr ⟨by simpa [meetsFirst] using isLast, ?_⟩
          intro slot member
          rcases List.mem_cons.1 member with rfl | later
          · exact meetsFirst
          · exact noneLater slot later

theorem meets_of_lastSlot {meets : Fin kNumTables → Bool}
    {slot : Fin kNumTables} (found : lastSlot meets = some slot) :
    meets slot = true := by
  rcases foldl_slot (List.finRange kNumTables) none with
    ⟨last, _, isLast, meetsLast⟩ | ⟨isNone, _⟩
  · rw [show lastSlot meets = some last from isLast] at found
    cases found
    exact meetsLast
  · rw [show lastSlot meets = none from isNone] at found
    cases found

theorem none_of_lastSlot {meets : Fin kNumTables → Bool}
    (missing : lastSlot meets = none) (i : Fin kNumTables) :
    meets i = false := by
  rcases foldl_slot (List.finRange kNumTables) none with
    ⟨last, _, isLast, _⟩ | ⟨_, noSlot⟩
  · rw [show lastSlot meets = some last from isLast] at missing
    cases missing
  · exact noSlot i (List.mem_finRange i)

/-! ## One access to the tables -/

theorem HTEntry.item_eq_some {entry : HTEntry} {key : HTKey}
    {value : HTValue} :
    entry.item = some (key, value) ↔
      entry.valid = true ∧ entry.key = key ∧ entry.value = value := by
  unfold HTEntry.item
  split <;> simp_all

theorem HTEntry.item_eq_none {entry : HTEntry} :
    entry.item = none ↔ entry.valid = false := by
  unfold HTEntry.item
  split <;> simp_all

namespace CuckooTables

variable {cuckooTables : CuckooTables}
variable {tabulationTable : TabulationTable}
variable {map : HTKey → Option HTValue}

/-- Only the slot that changed is written, and the other entries are what
they were. -/
theorem items_writeBack (hashes : Hashes) (slot : Fin kNumTables)
    (entry : HTEntry) :
    (cuckooTables.writeBack hashes
        (Function.update (cuckooTables.currentEntries hashes) slot
          entry)).items =
      write cuckooTables.items slot (hashes slot) entry.item := by
  funext i address
  by_cases sameSlot : i = slot
  · subst sameSlot
    by_cases samePlace : address = hashes i
    · subst samePlace
      simp [items, writeBack]
    · rw [write_other (Or.inr samePlace)]
      simp [items, writeBack, Function.update_of_ne samePlace]
  · rw [write_other (Or.inl sameSlot)]
    by_cases samePlace : address = hashes i
    · subst samePlace
      simp [items, writeBack, currentEntries,
        Function.update_of_ne sameSlot]
    · simp [items, writeBack, Function.update_of_ne samePlace]

theorem writeBack_same (hashes : Hashes) :
    cuckooTables.writeBack hashes (cuckooTables.currentEntries hashes) =
      cuckooTables := by
  funext i
  exact Function.update_eq_self _ _

/-- The key is found at a slot exactly if the tables hold it there. -/
theorem holdsKey_iff {key : HTKey} {slot : Fin kNumTables} :
    (cuckooTables.currentEntries (calculateHashes tabulationTable key)
        slot).holdsKey key = true ↔
      ∃ value,
        cuckooTables.items slot (calculateHashes tabulationTable key slot) =
          some (key, value) := by
  unfold HTEntry.holdsKey
  rw [Bool.and_eq_true, decide_eq_true_eq]
  constructor
  · rintro ⟨valid, sameKey⟩
    exact ⟨_, HTEntry.item_eq_some.2 ⟨valid, sameKey, rfl⟩⟩
  · rintro ⟨value, here⟩
    obtain ⟨valid, sameKey, _⟩ := HTEntry.item_eq_some.1 here
    exact ⟨valid, sameKey⟩

/-- A lookup finds exactly the keys of the map, with their values. -/
theorem lookUp_holds
    (holds : Holds (calculateHashes tabulationTable) cuckooTables.items map)
    (request : HTLookupReq) :
    let answer := cuckooTables.lookUp tabulationTable request
    answer.key = request.key ∧ answer.source = request.source ∧
      answer.hit = (map request.key).isSome ∧
      ∀ value, map request.key = some value → answer.value = value := by
  unfold lookUp
  dsimp only
  split
  next slot found =>
    obtain ⟨value, here⟩ := holdsKey_iff.1 (meets_of_lastSlot found)
    rw [holds.entry here]
    refine ⟨rfl, rfl, rfl, fun other same => ?_⟩
    rw [← Option.some.inj same]
    exact (HTEntry.item_eq_some.1 here).2.2
  next missing =>
    have absent : map request.key = none := by
      cases known : map request.key with
      | none =>
          rfl
      | some value =>
          obtain ⟨slot, here⟩ := holds.stored known
          have noMatch := none_of_lastSlot missing slot
          rw [holdsKey_iff.2 ⟨value, here⟩] at noMatch
          cases noMatch
    rw [absent]
    exact ⟨rfl, rfl, rfl, fun value same => by cases same⟩

/-- A deletion finds its key exactly if the map has it. -/
theorem any_holdsKey
    (holds : Holds (calculateHashes tabulationTable) cuckooTables.items map)
    (key : HTKey) :
    ((List.finRange kNumTables).any fun i =>
        (cuckooTables.currentEntries (calculateHashes tabulationTable key)
          i).holdsKey key) =
      (map key).isSome := by
  rw [Bool.eq_iff_iff, List.any_eq_true, ← holds.lookUp key]
  constructor
  · rintro ⟨slot, _, found⟩
    exact ⟨slot, holdsKey_iff.1 found⟩
  · rintro ⟨slot, here⟩
    exact ⟨slot, List.mem_finRange slot, holdsKey_iff.2 here⟩

/-- A deletion takes its key out of the map, if it is there. -/
theorem remove_holds
    (holds : Holds (calculateHashes tabulationTable) cuckooTables.items map)
    (request : HTUpdateReq) :
    Holds (calculateHashes tabulationTable)
      (cuckooTables.remove tabulationTable request).1.items
      (Function.update map request.key none) := by
  change
    Holds (calculateHashes tabulationTable)
      (cuckooTables.writeBack (calculateHashes tabulationTable request.key)
        fun i =>
          (cuckooTables.currentEntries
            (calculateHashes tabulationTable request.key) i).without
              request.key).items _
  by_cases present : (map request.key).isSome = true
  · obtain ⟨slot, value, here⟩ := (holds.lookUp request.key).2 present
    have onlyOne :
        (fun i =>
          (cuckooTables.currentEntries
            (calculateHashes tabulationTable request.key) i).without
              request.key) =
          Function.update
            (cuckooTables.currentEntries
              (calculateHashes tabulationTable request.key))
            slot
            { cuckooTables.currentEntries
                (calculateHashes tabulationTable request.key) slot with
              valid := false } := by
      funext i
      by_cases sameSlot : i = slot
      · rw [sameSlot, Function.update_self, HTEntry.without,
          if_pos (holdsKey_iff.2 ⟨value, here⟩)]
      · rw [Function.update_of_ne sameSlot, HTEntry.without, if_neg]
        intro found
        obtain ⟨other, there⟩ := holdsKey_iff.1 found
        exact sameSlot (holds.once there here)
    rw [onlyOne, items_writeBack]
    exact holds.free here
  · have noOne :
        (fun i =>
          (cuckooTables.currentEntries
            (calculateHashes tabulationTable request.key) i).without
              request.key) =
          cuckooTables.currentEntries
            (calculateHashes tabulationTable request.key) := by
      funext i
      rw [HTEntry.without, if_neg]
      intro found
      exact
        present
          ((holds.lookUp request.key).1 ⟨i, holdsKey_iff.1 found⟩)
    have absent : map request.key = none := by
      simpa using present
    rw [noOne, writeBack_same, ← absent, Function.update_eq_self]
    exact holds

end CuckooTables

/-! ## Insertions -/

namespace HTInsertState

variable {tabulationTable : TabulationTable}
variable {map : HTKey → Option HTValue}

/-- The tables hold the map but for the entry at hand. -/
def AtHand (tabulationTable : TabulationTable)
    (map : HTKey → Option HTValue) (state : HTInsertState) : Prop :=
  state.currentEntry.valid = true ∧
    Carries (calculateHashes tabulationTable) state.cuckooTables.items map
      state.currentEntry.key state.currentEntry.value

/-- A trial places the entry at hand, or exchanges it for another. -/
theorem trial_atHand {state : HTInsertState}
    (atHand : state.AtHand tabulationTable map) :
    let next := state.trial tabulationTable
    next.success = true ∧
        Holds (calculateHashes tabulationTable) next.cuckooTables.items
          map ∨
      next.success = state.success ∧ next.AtHand tabulationTable map := by
  obtain ⟨valid, carries⟩ := atHand
  have itemAtHand :
      state.currentEntry.item =
        some (state.currentEntry.key, state.currentEntry.value) :=
    HTEntry.item_eq_some.2 ⟨valid, rfl, rfl⟩
  unfold trial
  dsimp only
  split
  next slot found =>
    refine Or.inl ⟨rfl, ?_⟩
    rw [CuckooTables.items_writeBack, itemAtHand]
    have vacant :
        (state.cuckooTables.currentEntries
          (calculateHashes tabulationTable state.currentEntry.key)
            slot).valid = false := by
      simpa using meets_of_lastSlot found
    exact carries.place (HTEntry.item_eq_none.2 vacant)
  next full =>
    refine Or.inr ⟨rfl, ?_⟩
    have taken := none_of_lastSlot full
    generalize state.victimPos
      (calculateHashes tabulationTable state.currentEntry.key) = pos
    have validThere :
        (state.cuckooTables.currentEntries
          (calculateHashes tabulationTable state.currentEntry.key)
            pos).valid = true := by
      simpa using taken pos
    refine ⟨validThere, ?_⟩
    dsimp only
    rw [CuckooTables.items_writeBack, itemAtHand]
    exact carries.evict (HTEntry.item_eq_some.2 ⟨validThere, rfl, rfl⟩)

/-- An insertion that succeeds has placed every entry. -/
theorem insertLoop_holds (trials : Nat) {state : HTInsertState}
    (notYet : state.success = false)
    (atHand : state.AtHand tabulationTable map)
    (succeeds :
      (insertLoop tabulationTable trials state).success = true) :
    Holds (calculateHashes tabulationTable)
      (insertLoop tabulationTable trials state).cuckooTables.items map := by
  induction trials generalizing state with
  | zero =>
      rw [insertLoop, notYet] at succeeds
      cases succeeds
  | succ trials inductionHypothesis =>
      rw [insertLoop] at succeeds ⊢
      rcases trial_atHand atHand with ⟨placed, holds⟩ | ⟨same, onHand⟩
      · rw [if_pos placed]
        exact holds
      · have goesOn : (state.trial tabulationTable).success = false :=
          same.trans notYet
        rw [if_neg (by rw [goesOn]; decide)] at succeeds ⊢
        exact inductionHypothesis goesOn onHand succeeds

end HTInsertState

/-- An insertion of a new key that succeeds puts it into the map. -/
theorem inserted_holds {tabulationTable : TabulationTable}
    {map : HTKey → Option HTValue} {state : HashTableState}
    {request : HTUpdateReq}
    (holds :
      Holds (calculateHashes tabulationTable) state.cuckooTables.items map)
    (absent : map request.key = none)
    (succeeds : (state.inserted tabulationTable request).success = true) :
    Holds (calculateHashes tabulationTable)
      (state.inserted tabulationTable request).cuckooTables.items
      (Function.update map request.key (some request.value)) :=
  HTInsertState.insertLoop_holds kMaxTrials rfl
    ⟨rfl, Carries.of_absent holds request.value absent⟩ succeeds

/-! ## Runs -/

inductive HashTableOp where
  | lookUp (request : HTLookupReq)
  | update (request : HTUpdateReq)
deriving DecidableEq, Repr

/-- The request that the next call takes. -/
def HashTableState.nextOp (state : HashTableState) : Option HashTableOp :=
  match state.lupReqs, state.updReqs with
  | request :: _, _ => some (.lookUp request)
  | [], request :: _ => some (.update request)
  | [], [] => none

/-- What an operation makes of a finite map. -/
def HashTableOp.apply (map : HTKey → Option HTValue) :
    HashTableOp → HTKey → Option HTValue
  | .lookUp _ => map
  | .update request =>
      Function.update map request.key
        (match request.op with
          | .insert => some request.value
          | .delete => none)

/-- The table beside the finite map of the operations it has executed. -/
structure MapSystem where
  table : HashTableState
  map : HTKey → Option HTValue

inductive MapAction where
  | hashTable
  | lookUp (request : HTLookupReq)
  | update (request : HTUpdateReq)

namespace MapSystem

def start : MapSystem where
  table := HashTableState.start
  map := fun _ => none

def act (tabulationTable : TabulationTable) (system : MapSystem) :
    MapAction → MapSystem
  | .hashTable =>
      { table := (hashTable tabulationTable system.table).1
        map :=
          match system.table.nextOp with
          | some op => op.apply system.map
          | none => system.map }
  | .lookUp request =>
      { system with
        table :=
          { system.table with
            lupReqs := system.table.lupReqs ++ [request] } }
  | .update request =>
      { system with
        table :=
          { system.table with
            updReqs := system.table.updReqs ++ [request] } }

end MapSystem

/-- Requests arrive and the table is called, in any order. -/
def MapStep (tabulationTable : TabulationTable) (system : MapSystem)
    (action : MapAction) (next : MapSystem) : Prop :=
  next = system.act tabulationTable action

/-- A key is inserted only while it is absent, and the insertion reports
success. -/
def InsertsNew (tabulationTable : TabulationTable) (system : MapSystem) :
    MapAction → Prop
  | .hashTable =>
      match system.table.nextOp with
      | some (.update request) =>
          request.op = .insert →
            system.map request.key = none ∧
              (system.table.inserted tabulationTable request).success = true
      | _ => True
  | _ => True

instance (tabulationTable : TabulationTable) (system : MapSystem) :
    ∀ action, Decidable (InsertsNew tabulationTable system action)
  | .hashTable =>
      match same : system.table.nextOp with
      | some (.update request) =>
          decidable_of_iff
            (request.op = .insert →
              system.map request.key = none ∧
                (system.table.inserted tabulationTable request).success =
                  true)
            (by simp only [InsertsNew, same])
      | some (.lookUp _) => isTrue (by simp only [InsertsNew, same])
      | none => isTrue (by simp only [InsertsNew, same])
  | .lookUp _ | .update _ => isTrue trivial

/-- The table answers each request as the finite map does. -/
def AnswersAsMap (tabulationTable : TabulationTable) (system : MapSystem) :
    MapAction → Prop
  | .hashTable =>
      match system.table.nextOp with
      | some (.lookUp request) =>
          ∃ answer : HTLookupResp,
            (hashTable tabulationTable system.table).2 = [.lupRsp answer] ∧
              answer.key = request.key ∧ answer.source = request.source ∧
              answer.hit = (system.map request.key).isSome ∧
              ∀ value,
                system.map request.key = some value → answer.value = value
      | some (.update request) =>
          ∃ answer : HTUpdateResp,
            (hashTable tabulationTable system.table).2 = [.updRsp answer] ∧
              answer.op = request.op ∧ answer.key = request.key ∧
              answer.source = request.source ∧
              answer.success =
                match request.op with
                | .insert => true
                | .delete => (system.map request.key).isSome
      | none => (hashTable tabulationTable system.table).2 = []
  | _ => True

/-- The tables hold the finite map. -/
def MapSystem.Refines (tabulationTable : TabulationTable)
    (system : MapSystem) : Prop :=
  Holds (calculateHashes tabulationTable)
    system.table.cuckooTables.items system.map

/-- One call executes one operation on the map. -/
theorem refines_hashTable {tabulationTable : TabulationTable}
    {system : MapSystem} (refines : system.Refines tabulationTable)
    (insertsNew : InsertsNew tabulationTable system .hashTable) :
    (system.act tabulationTable .hashTable).Refines tabulationTable ∧
      AnswersAsMap tabulationTable system .hashTable := by
  obtain ⟨⟨tables, bit, counter, register, lupReqs, updReqs⟩, map⟩ := system
  cases lupReqs with
  | cons request later =>
      exact
        ⟨refines, _, rfl, CuckooTables.lookUp_holds refines request⟩
  | nil =>
      cases updReqs with
      | nil =>
          exact ⟨refines, rfl⟩
      | cons request later =>
          obtain ⟨op, key, value, source⟩ := request
          cases op with
          | insert =>
              obtain ⟨absent, succeeds⟩ := insertsNew rfl
              exact
                ⟨inserted_holds refines absent succeeds, _, rfl, rfl, rfl,
                  rfl, succeeds⟩
          | delete =>
              exact
                ⟨CuckooTables.remove_holds refines _, _, rfl, rfl, rfl, rfl,
                  CuckooTables.any_holdsKey refines key⟩

theorem refines_step {tabulationTable : TabulationTable}
    {system next : MapSystem} {action : MapAction}
    (refines : system.Refines tabulationTable)
    (insertsNew : InsertsNew tabulationTable system action)
    (stepped : MapStep tabulationTable system action next) :
    next.Refines tabulationTable ∧
      AnswersAsMap tabulationTable system action := by
  rw [show next = system.act tabulationTable action from stepped]
  cases action with
  | hashTable =>
      exact refines_hashTable refines insertsNew
  | lookUp request =>
      exact ⟨refines, trivial⟩
  | update request =>
      exact ⟨refines, trivial⟩

/-- The hash table is a finite map, whatever the random values of its
hashes, as long as only new keys are inserted and every insertion succeeds. -/
theorem hashTable_answersAsMap (tabulationTable : TabulationTable)
    (actions : List MapAction)
    (insertsNew :
      Along (MapStep tabulationTable) (InsertsNew tabulationTable)
        MapSystem.start actions) :
    Along (MapStep tabulationTable) (AnswersAsMap tabulationTable)
      MapSystem.start actions := by
  have atStart : MapSystem.start.Refines tabulationTable := Holds.empty
  refine
    @along_of_invariant _ _ _ (fun system => system.Refines tabulationTable)
      _ _ ?_ ?_ _ _ atStart insertsNew
  · intro system action next refines insertsHere stepped
    exact (refines_step refines insertsHere stepped).1
  · intro system action next refines insertsHere stepped
    exact (refines_step refines insertsHere stepped).2

/-- Random values under which keys without the second bit share all their
positions, and the others differ from them in the last table only. -/
def oneTableApart : TabulationTable :=
  fun i bit k =>
    if i.val = 0 ∧ k.val = 0 then
      7
    else if i.val = 8 ∧ k.val = 1 ∧ bit = true then
      1
    else
      0

/-- The tenth key of one position evicts the key 6, which has a free slot by
then. -/
def evictingActions : List MapAction :=
  [.update ⟨.insert, 2, 20, .srcA⟩, .update ⟨.insert, 6, 60, .srcA⟩,
    .update ⟨.delete, 2, 0, .srcA⟩] ++
  [4, 8, 12, 16, 24, 28, 32, 40].map
    (fun key => .update ⟨.insert, key, 1, .srcA⟩) ++
  [.update ⟨.insert, 44, 440, .srcB⟩] ++
  List.replicate 12 .hashTable ++
  [.lookUp ⟨6, .srcA⟩, .lookUp ⟨44, .srcB⟩, .lookUp ⟨2, .srcA⟩,
    .hashTable, .hashTable, .hashTable]

theorem hashTable_answersAsMap_evicting :
    Along (MapStep oneTableApart) (AnswersAsMap oneTableApart)
      MapSystem.start evictingActions := by
  refine
    hashTable_answersAsMap oneTableApart evictingActions
      (Enabled.along (fun _ _ _ stepped => stepped) ?_)
  decide +kernel

end TcpOffload
