import Mathlib.Data.Fintype.Basic
import Mathlib.Tactic.FinCases
import TcpOffload.HashTable.FiniteMap
import TcpOffload.Library.Evictions

/-!
# Insertions that fail

An insertion that gives up has put its key into the tables and another entry
out of them, unless the chain of evictions has come back to the key.
-/

namespace TcpOffload

open Cuckoo Guarded

/-! ## Lookups -/

namespace CuckooTables

variable {tabulationTable : TabulationTable}
variable {cuckooTables : CuckooTables}

/-- Where entries are at positions of their keys, a lookup hits exactly the
keys that are somewhere in the tables, and answers one of their values. -/
theorem lookUp_stored
    (placed : Placed (calculateHashes tabulationTable) cuckooTables.items)
    (request : HTLookupReq) :
    (∃ value,
        cuckooTables.lookUp tabulationTable request =
            ⟨request.key, value, true, request.source⟩ ∧
          Stored cuckooTables.items (request.key, value)) ∨
      cuckooTables.lookUp tabulationTable request =
          ⟨request.key, 0, false, request.source⟩ ∧
        ∀ value, ¬ Stored cuckooTables.items (request.key, value) := by
  unfold lookUp
  dsimp only
  split
  next slot found =>
    obtain ⟨value, here⟩ := holdsKey_iff.1 (meets_of_lastSlot found)
    have isValue := (HTEntry.item_eq_some.1 here).2.2
    refine
      Or.inl
        ⟨value, ?_, slot,
          calculateHashes tabulationTable request.key slot, here⟩
    rw [← isValue]
    rfl
  next missing =>
    refine Or.inr ⟨rfl, fun value stored => ?_⟩
    obtain ⟨slot, here⟩ := stored.at_hash placed
    have noMatch := none_of_lastSlot missing slot
    rw [holdsKey_iff.2 ⟨value, here⟩] at noMatch
    cases noMatch

/-- No key is in the tables with two values. -/
def OneValue (cuckooTables : CuckooTables) : Prop :=
  ∀ key first second,
    Stored cuckooTables.items (key, first) →
    Stored cuckooTables.items (key, second) →
    first = second

/-- Every key that is found before is found with the same value after, and
`key` is not found. -/
def KeepsMap
    (tabulationTable : TabulationTable) (before after : CuckooTables)
    (key : HTKey) : Prop :=
  (∀ request,
      (before.lookUp tabulationTable request).hit = true →
      after.lookUp tabulationTable request =
        before.lookUp tabulationTable request) ∧
    ∀ request,
      request.key = key →
      (after.lookUp tabulationTable request).hit = false

end CuckooTables

/-! ## The chain of evictions -/

/-- The position at which the given trial puts an entry that finds no free
slot. -/
def HashTableState.evictionSlot
    (tabulationTable : TabulationTable) (state : HashTableState)
    (trial : Nat) (item : HTKey × HTValue) :
    Fin kNumTables × BitVec kTableAddressBits :=
  let hashes := calculateHashes tabulationTable item.1
  let pos :=
    HTInsertState.victimPos
      ⟨state.cuckooTables, ⟨item.1, item.2, true⟩,
        Fin.ofNat kNumTables trial,
        state.victimBit + BitVec.ofNat 1 trial, false⟩
      hashes
  (pos, hashes pos)

/-- The last of the entries that would be evicted one after the other, as
the tables stand, is the new one. -/
def HashTableState.EvictsNew
    (tabulationTable : TabulationTable) (state : HashTableState)
    (request : HTUpdateReq) : Prop :=
  ∃ last evicted,
    Chain (state.evictionSlot tabulationTable) state.cuckooTables.items
        (request.key, request.value) (last :: evicted) ∧
      evicted.length = kMaxTrials ∧
      last.1 = request.key

/-- One of the first entries that would be at hand one after the other, as
the tables stand, has a free position. -/
def HashTableState.HasRoom
    (tabulationTable : TabulationTable) (state : HashTableState)
    (trials : Nat) (new : HTKey × HTValue) : Prop :=
  ∃ last evicted,
    Chain (state.evictionSlot tabulationTable) state.cuckooTables.items new
        (last :: evicted) ∧
      evicted.length < trials ∧
      ∃ slot,
        state.cuckooTables.items slot
            (calculateHashes tabulationTable last.1 slot) =
          none

namespace HTInsertState

variable {tabulationTable : TabulationTable}

/-- What the trials so far have made of the tables, with the chain of the
entries that were at hand. -/
structure Evicting
    (tabulationTable : TabulationTable) (start : HashTableState)
    (new : HTKey × HTValue) (state : HTInsertState)
    (evicted : List (HTKey × HTValue)) : Prop where
  notYet : state.success = false
  valid : state.currentEntry.valid = true
  victimIdx : state.victimIdx = Fin.ofNat kNumTables evicted.length
  victimBit :
    state.victimBit = start.victimBit + BitVec.ofNat 1 evicted.length
  chain :
    Chain (start.evictionSlot tabulationTable) start.cuckooTables.items new
      ((state.currentEntry.key, state.currentEntry.value) :: evicted)
  held :
    ∀ index address,
      state.cuckooTables.items index address =
        standsAt (start.evictionSlot tabulationTable)
          start.cuckooTables.items evicted (index, address)
  full :
    ∀ item ∈ evicted,
      ∀ slot,
        start.cuckooTables.items slot
            (calculateHashes tabulationTable item.1 slot) ≠
          none
  exchanged :
    Exchanged (calculateHashes tabulationTable) start.cuckooTables.items
      new state.cuckooTables.items
      (state.currentEntry.key, state.currentEntry.value)

/-- The tables hold what they held before and the new entry, for which
there was room within the trials. -/
structure Inserted
    (tabulationTable : TabulationTable) (start : HashTableState)
    (new : HTKey × HTValue) (trials : Nat) (state : HTInsertState) :
    Prop where
  success : state.success = true
  hasRoom : start.HasRoom tabulationTable trials new
  placed :
    Placed (calculateHashes tabulationTable) state.cuckooTables.items
  stored :
    ∀ item,
      Stored state.cuckooTables.items item ↔
        Stored start.cuckooTables.items item ∨ item = new

variable {start : HashTableState} {new : HTKey × HTValue}
variable {state : HTInsertState} {evicted : List (HTKey × HTValue)}

/-- The position at which the next trial puts the entry at hand. -/
theorem Evicting.slot
    (evicting : Evicting tabulationTable start new state evicted) :
    start.evictionSlot tabulationTable evicted.length
        (state.currentEntry.key, state.currentEntry.value) =
      (state.victimPos
          (calculateHashes tabulationTable state.currentEntry.key),
        calculateHashes tabulationTable state.currentEntry.key
          (state.victimPos
            (calculateHashes tabulationTable
              state.currentEntry.key))) := by
  have samePos :
      victimPos
          ⟨start.cuckooTables,
            ⟨state.currentEntry.key, state.currentEntry.value, true⟩,
            Fin.ofNat kNumTables evicted.length,
            start.victimBit + BitVec.ofNat 1 evicted.length, false⟩
          (calculateHashes tabulationTable state.currentEntry.key) =
        state.victimPos
          (calculateHashes tabulationTable state.currentEntry.key) := by
    rw [victimPos, victimPos]
    simp only [evicting.victimIdx, evicting.victimBit]
  rw [HashTableState.evictionSlot]
  simp only [samePos]

/-- The evictions so far have freed no position. -/
theorem Evicting.items_eq_none
    (evicting : Evicting tabulationTable start new state evicted)
    (index : Fin kNumTables) (address : BitVec kTableAddressBits) :
    state.cuckooTables.items index address = none ↔
      start.cuckooTables.items index address = none := by
  rw [evicting.held]
  exact evicting.chain.standsAt_eq_none (index, address)

theorem Evicting.trial {trials : Nat}
    (evicting : Evicting tabulationTable start new state evicted)
    (more : evicted.length < trials) :
    Inserted tabulationTable start new trials
        (state.trial tabulationTable) ∨
      Evicting tabulationTable start new (state.trial tabulationTable)
        ((state.currentEntry.key, state.currentEntry.value) ::
          evicted) := by
  have itemAtHand :
      state.currentEntry.item =
        some (state.currentEntry.key, state.currentEntry.value) :=
    HTEntry.item_eq_some.2 ⟨evicting.valid, rfl, rfl⟩
  have isSlot := evicting.slot
  unfold HTInsertState.trial
  dsimp only
  split
  next slot found =>
    left
    have isFree :
        (state.cuckooTables.currentEntries
          (calculateHashes tabulationTable state.currentEntry.key)
            slot).valid = false := by
      simpa using meets_of_lastSlot found
    have vacant :
        state.cuckooTables.items slot
            (calculateHashes tabulationTable state.currentEntry.key
              slot) =
          none :=
      HTEntry.item_eq_none.2 isFree
    refine
      ⟨rfl,
        ⟨_, evicted, evicting.chain, more, slot,
          (evicting.items_eq_none _ _).1 vacant⟩,
        ?_, fun item => ?_⟩
    · dsimp only
      rw [CuckooTables.items_writeBack, itemAtHand]
      exact evicting.exchanged.placed.write
    · dsimp only
      rw [CuckooTables.items_writeBack, itemAtHand,
        stored_place_iff vacant item]
      exact evicting.exchanged.same item
  next full =>
    right
    generalize state.victimPos
      (calculateHashes tabulationTable state.currentEntry.key) = pos
      at isSlot ⊢
    have validThere :
        (state.cuckooTables.currentEntries
          (calculateHashes tabulationTable state.currentEntry.key)
            pos).valid = true := by
      simpa using none_of_lastSlot full pos
    have taken :
        state.cuckooTables.items pos
            (calculateHashes tabulationTable state.currentEntry.key
              pos) =
          some
            ((state.cuckooTables.currentEntries
                (calculateHashes tabulationTable
                  state.currentEntry.key) pos).key,
              (state.cuckooTables.currentEntries
                (calculateHashes tabulationTable
                  state.currentEntry.key) pos).value) :=
      HTEntry.item_eq_some.2 ⟨validThere, rfl, rfl⟩
    have stood := evicting.held pos _ ▸ taken
    rw [← isSlot] at stood
    refine
      ⟨evicting.notYet, validThere, ?_, ?_, evicting.chain.next stood,
        ?_, ?_, ?_⟩
    · change
        state.victimIdx + 1 = Fin.ofNat kNumTables (evicted.length + 1)
      rw [evicting.victimIdx]
      apply Fin.ext
      simp [Fin.val_add]
    · change
        state.victimBit + 1 =
          start.victimBit + BitVec.ofNat 1 (evicted.length + 1)
      rw [evicting.victimBit, BitVec.ofNat_add, ← BitVec.add_assoc]
      rfl
    · intro index address
      dsimp only
      rw [CuckooTables.items_writeBack, itemAtHand]
      exact standsAt_write evicting.held isSlot index address
    · refine List.forall_mem_cons.2 ⟨fun slot isFree => ?_, evicting.full⟩
      have noneThere :=
        HTEntry.item_eq_none.1 ((evicting.items_eq_none _ _).2 isFree)
      have validHere := none_of_lastSlot full slot
      rw [CuckooTables.currentEntries, noneThere] at validHere
      cases validHere
    · dsimp only
      rw [CuckooTables.items_writeBack, itemAtHand]
      exact evicting.exchanged.evict taken

theorem Evicting.insertLoop (trials : Nat) {all : Nat}
    {state : HTInsertState} {evicted : List (HTKey × HTValue)}
    (evicting : Evicting tabulationTable start new state evicted)
    (isAll : evicted.length + trials = all) :
    Inserted tabulationTable start new all
        (insertLoop tabulationTable trials state) ∨
      ∃ earlier,
        Evicting tabulationTable start new
            (insertLoop tabulationTable trials state) earlier ∧
          earlier.length = all := by
  induction trials generalizing state evicted with
  | zero =>
      exact Or.inr ⟨evicted, evicting, isAll⟩
  | succ trials inductionHypothesis =>
      rw [HTInsertState.insertLoop]
      have more : evicted.length < all := by
        omega
      rcases evicting.trial more with inserted | next
      · rw [if_pos inserted.success]
        exact Or.inl inserted
      · rw [if_neg (by rw [next.notYet]; decide)]
        exact
          inductionHypothesis next
            (by rw [List.length_cons]; omega)

end HTInsertState

namespace HashTableState

variable {tabulationTable : TabulationTable} {state : HashTableState}
variable {request : HTUpdateReq}

theorem evicting_start
    (placed :
      Placed (calculateHashes tabulationTable) state.cuckooTables.items)
    (absent :
      ∀ value, ¬ Stored state.cuckooTables.items (request.key, value)) :
    HTInsertState.Evicting tabulationTable state
      (request.key, request.value)
      ⟨state.cuckooTables, ⟨request.key, request.value, true⟩, 0,
        state.victimBit, false⟩
      [] where
  notYet := rfl
  valid := rfl
  victimIdx := rfl
  victimBit := (BitVec.add_zero state.victimBit).symm
  chain := Chain.new
  held := fun _ _ => rfl
  full := fun _ none => absurd none List.not_mem_nil
  exchanged := Exchanged.start placed absent

/-- An insertion puts the new entry into the tables, or evicts as many
entries as it has trials. -/
theorem inserted_or
    (placed :
      Placed (calculateHashes tabulationTable) state.cuckooTables.items)
    (absent :
      ∀ value, ¬ Stored state.cuckooTables.items (request.key, value)) :
    HTInsertState.Inserted tabulationTable state
        (request.key, request.value) kMaxTrials
        (state.inserted tabulationTable request) ∨
      ∃ evicted,
        HTInsertState.Evicting tabulationTable state
            (request.key, request.value)
            (state.inserted tabulationTable request) evicted ∧
          evicted.length = kMaxTrials :=
  (evicting_start placed absent).insertLoop kMaxTrials
    (Nat.zero_add kMaxTrials)

/-- An insertion succeeds exactly when one of the entries that would be at
hand in its trials has a free position. -/
theorem success_iff_hasRoom
    (placed :
      Placed (calculateHashes tabulationTable) state.cuckooTables.items)
    (absent :
      ∀ value, ¬ Stored state.cuckooTables.items (request.key, value)) :
    (state.inserted tabulationTable request).success = true ↔
      state.HasRoom tabulationTable kMaxTrials
        (request.key, request.value) := by
  rcases inserted_or placed absent with
    inserted | ⟨evicted, evicting, isLength⟩
  · exact iff_of_true inserted.success inserted.hasRoom
  · rw [evicting.notYet]
    refine iff_of_false Bool.false_ne_true ?_
    rintro ⟨last, earlier, chain, within, slot, isFree⟩
    have goesOn : last :: earlier <:+ evicted := by
      have suffix :=
        chain.suffix evicting.chain
          (by rw [List.length_cons, List.length_cons]; omega)
      rcases List.suffix_cons_iff.1 suffix with same | goesOn
      · have sameLength := congrArg List.length same
        rw [List.length_cons, List.length_cons] at sameLength
        omega
      · exact goesOn
    exact
      evicting.full last (goesOn.subset List.mem_cons_self) slot isFree

end HashTableState

/-! ## Runs -/

namespace HTInsertState

variable {tabulationTable : TabulationTable} {state : HTInsertState}

theorem trial_placed
    (valid : state.currentEntry.valid = true)
    (placed :
      Placed (calculateHashes tabulationTable)
        state.cuckooTables.items) :
    (state.trial tabulationTable).currentEntry.valid = true ∧
      Placed (calculateHashes tabulationTable)
        (state.trial tabulationTable).cuckooTables.items := by
  have itemAtHand :
      state.currentEntry.item =
        some (state.currentEntry.key, state.currentEntry.value) :=
    HTEntry.item_eq_some.2 ⟨valid, rfl, rfl⟩
  unfold trial
  dsimp only
  split
  next slot found =>
    refine ⟨valid, ?_⟩
    dsimp only
    rw [CuckooTables.items_writeBack, itemAtHand]
    exact placed.write
  next full =>
    refine ⟨by simpa using none_of_lastSlot full _, ?_⟩
    dsimp only
    rw [CuckooTables.items_writeBack, itemAtHand]
    exact placed.write

theorem insertLoop_placed (trials : Nat) {state : HTInsertState}
    (valid : state.currentEntry.valid = true)
    (placed :
      Placed (calculateHashes tabulationTable)
        state.cuckooTables.items) :
    Placed (calculateHashes tabulationTable)
      (insertLoop tabulationTable trials state).cuckooTables.items := by
  induction trials generalizing state with
  | zero =>
      exact placed
  | succ trials inductionHypothesis =>
      obtain ⟨nextValid, nextPlaced⟩ := trial_placed valid placed
      rw [insertLoop]
      split
      · exact nextPlaced
      · exact inductionHypothesis nextValid nextPlaced

end HTInsertState

/-- A deletion puts nothing into the tables. -/
theorem CuckooTables.items_remove
    {tabulationTable : TabulationTable} {cuckooTables : CuckooTables}
    {request : HTUpdateReq} {index : Fin kNumTables}
    {address : BitVec kTableAddressBits} {item : HTKey × HTValue}
    (known :
      (cuckooTables.remove tabulationTable request).1.items index
          address =
        some item) :
    cuckooTables.items index address = some item := by
  by_cases isHere :
      address = calculateHashes tabulationTable request.key index
  · subst isHere
    simp only [items, remove, writeBack, currentEntries,
      Function.update_self] at known ⊢
    rw [HTEntry.without] at known
    split at known
    · simp [HTEntry.item] at known
    · exact known
  · simpa only [items, remove, writeBack,
      Function.update_of_ne isHere] using known

namespace HashTableState

/-- Requests arrive and the table is called, in any order. -/
def act (tabulationTable : TabulationTable) (state : HashTableState) :
    MapAction → HashTableState
  | .hashTable => (hashTable tabulationTable state).1
  | .lookUp request =>
      { state with lupReqs := state.lupReqs ++ [request] }
  | .update request =>
      { state with updReqs := state.updReqs ++ [request] }

end HashTableState

def HashTableStep (tabulationTable : TabulationTable)
    (state : HashTableState) (action : MapAction)
    (next : HashTableState) : Prop :=
  next = state.act tabulationTable action

/-- What a step does to the tables: nothing, a deletion or an insertion. -/
theorem HashTableStep.tables_cases {tabulationTable : TabulationTable}
    {state next : HashTableState} {action : MapAction}
    (stepped : HashTableStep tabulationTable state action next) :
    next.cuckooTables = state.cuckooTables ∨
      (∃ request,
        next.cuckooTables =
          (state.cuckooTables.remove tabulationTable request).1) ∨
        ∃ request : HTUpdateReq,
          action = .hashTable ∧ state.nextOp = some (.update request) ∧
            request.op = .insert ∧
            next.cuckooTables =
              (state.inserted tabulationTable request).cuckooTables := by
  subst stepped
  cases action with
  | lookUp | update =>
      exact Or.inl rfl
  | hashTable =>
      obtain ⟨tables, bit, counter, register, lupReqs, updReqs⟩ := state
      cases lupReqs with
      | cons request later =>
          exact Or.inl rfl
      | nil =>
          cases updReqs with
          | nil =>
              exact Or.inl rfl
          | cons request later =>
              obtain ⟨op, key, value, source⟩ := request
              cases op with
              | insert =>
                  exact Or.inr (Or.inr ⟨_, rfl, rfl, rfl, rfl⟩)
              | delete =>
                  exact Or.inr (Or.inl ⟨_, rfl⟩)

theorem placed_step {tabulationTable : TabulationTable}
    {state next : HashTableState} {action : MapAction}
    (placed :
      Placed (calculateHashes tabulationTable) state.cuckooTables.items)
    (stepped : HashTableStep tabulationTable state action next) :
    Placed (calculateHashes tabulationTable)
      next.cuckooTables.items := by
  rcases stepped.tables_cases with
    same | ⟨request, removed⟩ | ⟨request, -, -, -, inserted⟩
  · rw [same]
    exact placed
  · rw [removed]
    intro index address other otherValue known
    exact
      placed index address other otherValue
        (CuckooTables.items_remove known)
  · rw [inserted]
    exact HTInsertState.insertLoop_placed kMaxTrials rfl placed

theorem placed_start (tabulationTable : TabulationTable) :
    Placed (calculateHashes tabulationTable)
      HashTableState.start.cuckooTables.items := by
  intro index address key value known
  cases known

theorem HashTableState.placed_of_run {tabulationTable : TabulationTable}
    {actions : List MapAction} {state : HashTableState}
    (run :
      Run (HashTableStep tabulationTable) HashTableState.start actions
        state) :
    Placed (calculateHashes tabulationTable) state.cuckooTables.items :=
  run.keeps
    (fun before _ _
        (here :
          Placed (calculateHashes tabulationTable)
            before.cuckooTables.items) stepped =>
      placed_step here stepped)
    (placed_start tabulationTable)

theorem HashTableState.run_act
    (tabulationTable : TabulationTable) (actions : List MapAction) :
    Run (HashTableStep tabulationTable) HashTableState.start actions
      (actions.foldl (HashTableState.act tabulationTable)
        HashTableState.start) :=
  @Run.of_act _ _ (HashTableStep tabulationTable)
    (HashTableState.act tabulationTable) (fun _ _ => rfl)
    HashTableState.start actions

/-! ## What a failed insertion leaves -/

section Failed

variable {tabulationTable : TabulationTable} {state : HashTableState}
variable {request : HTUpdateReq}

/-- A key that no lookup finds is not in the tables. -/
theorem not_stored_of_absent
    (placed :
      Placed (calculateHashes tabulationTable) state.cuckooTables.items)
    (absent :
      ∀ lookup : HTLookupReq,
        lookup.key = request.key →
        (state.cuckooTables.lookUp tabulationTable lookup).hit = false)
    (value : HTValue) :
    ¬ Stored state.cuckooTables.items (request.key, value) := by
  have missed := absent ⟨request.key, .srcA⟩ rfl
  rcases CuckooTables.lookUp_stored placed ⟨request.key, .srcA⟩ with
    ⟨found, answer, -⟩ | ⟨-, notStored⟩
  · rw [answer] at missed
    cases missed
  · exact notStored value

variable {evicted : List (HTKey × HTValue)} {final : HTInsertState}

/-- The chain of the evictions says which entry is at hand at the end. -/
theorem evictsNew_iff
    (evicting :
      HTInsertState.Evicting tabulationTable state
        (request.key, request.value) final evicted)
    (isLength : evicted.length = kMaxTrials) :
    state.EvictsNew tabulationTable request ↔
      final.currentEntry.key = request.key := by
  constructor
  · rintro ⟨last, other, chain, otherLength, isNew⟩
    have same :=
      chain.unique evicting.chain
        (congrArg Nat.succ (otherLength.trans isLength.symm))
    rw [(List.cons.inj same).1] at isNew
    exact isNew
  · intro isNew
    exact ⟨_, evicted, evicting.chain, isLength, isNew⟩

/-- The map is not kept when another entry than the new one is lost. -/
theorem returned_of_keepsMap
    (evicting :
      HTInsertState.Evicting tabulationTable state
        (request.key, request.value) final evicted)
    (keeps :
      CuckooTables.KeepsMap tabulationTable state.cuckooTables
        final.cuckooTables request.key) :
    final.currentEntry.key = request.key := by
  by_contra notReturned
  have stored := evicting.exchanged.stored_new notReturned
  have missed := keeps.2 ⟨request.key, .srcA⟩ rfl
  rcases CuckooTables.lookUp_stored evicting.exchanged.placed
      ⟨request.key, .srcA⟩ with ⟨found, answer, -⟩ | ⟨-, notStored⟩
  · rw [answer] at missed
    cases missed
  · exact notStored request.value stored

/-- The map is kept when the new entry is the one that is lost. -/
theorem keepsMap_of_returned
    (placed :
      Placed (calculateHashes tabulationTable) state.cuckooTables.items)
    (notStored :
      ∀ value, ¬ Stored state.cuckooTables.items (request.key, value))
    (oneValue : state.cuckooTables.OneValue)
    (evicting :
      HTInsertState.Evicting tabulationTable state
        (request.key, request.value) final evicted)
    (returned : final.currentEntry.key = request.key) :
    CuckooTables.KeepsMap tabulationTable state.cuckooTables
      final.cuckooTables request.key := by
  have restored := evicting.exchanged.restored notStored returned
  constructor
  · intro lookup hitBefore
    rcases CuckooTables.lookUp_stored placed lookup with
      ⟨before, answerBefore, storedBefore⟩ | ⟨missed, -⟩
    · rcases CuckooTables.lookUp_stored evicting.exchanged.placed lookup
        with ⟨after, answerAfter, storedAfter⟩ | ⟨-, notAfter⟩
      · have sameValue : after = before :=
          oneValue _ _ _ ((restored _).1 storedAfter) storedBefore
        rw [answerBefore, answerAfter, sameValue]
      · exact absurd ((restored _).2 storedBefore) (notAfter _)
    · rw [missed] at hitBefore
      cases hitBefore
  · intro lookup sameKey
    rcases CuckooTables.lookUp_stored evicting.exchanged.placed lookup
      with ⟨found, -, stored⟩ | ⟨missed, -⟩
    · rw [sameKey, restored] at stored
      exact absurd stored (notStored _)
    · rw [missed]

/-- A failed insertion of a new key into tables whose entries are at positions
of their keys. -/
theorem keepsMap_iff_evictsNew
    (placed :
      Placed (calculateHashes tabulationTable) state.cuckooTables.items)
    (absent :
      ∀ lookup : HTLookupReq,
        lookup.key = request.key →
        (state.cuckooTables.lookUp tabulationTable lookup).hit = false)
    (fails :
      (state.insert tabulationTable request).2.success = false) :
    (CuckooTables.KeepsMap tabulationTable state.cuckooTables
          (state.insert tabulationTable request).1.cuckooTables
          request.key →
        state.EvictsNew tabulationTable request) ∧
      (state.cuckooTables.OneValue →
        (CuckooTables.KeepsMap tabulationTable state.cuckooTables
            (state.insert tabulationTable request).1.cuckooTables
            request.key ↔
          state.EvictsNew tabulationTable request)) := by
  have notStored := not_stored_of_absent placed absent
  rcases HashTableState.inserted_or placed notStored with
    inserted | ⟨evicted, evicting, isLength⟩
  · exact absurd inserted.success (Bool.eq_false_iff.1 fails)
  · rw [evictsNew_iff evicting isLength]
    exact
      ⟨returned_of_keepsMap evicting,
        fun oneValue =>
          ⟨returned_of_keepsMap evicting,
            keepsMap_of_returned placed notStored oneValue evicting⟩⟩

end Failed

/-! ## Tables with one value for each key -/

section OneValue

variable {tabulationTable : TabulationTable}

/-- Entries that were stored before, and one of a new key, leave each key
with one value. -/
theorem CuckooTables.OneValue.add {before after : CuckooTables}
    {new : HTKey × HTValue} (oneValue : before.OneValue)
    (absent : ∀ value, ¬ Stored before.items (new.1, value))
    (stored :
      ∀ item,
        Stored after.items item → Stored before.items item ∨ item = new) :
    after.OneValue := by
  intro key first second atFirst atSecond
  rcases stored _ atFirst with firstOld | firstNew
  · rcases stored _ atSecond with secondOld | secondNew
    · exact oneValue key first second firstOld secondOld
    · rw [← secondNew] at absent
      exact absurd firstOld (absent first)
  · rcases stored _ atSecond with secondOld | secondNew
    · rw [← firstNew] at absent
      exact absurd secondOld (absent second)
    · exact congrArg Prod.snd (firstNew.trans secondNew.symm)

/-- A key is inserted only while no lookup finds it. -/
def InsertsAbsent
    (tabulationTable : TabulationTable) (state : HashTableState) :
    MapAction → Prop
  | .hashTable =>
      ∀ request,
        state.nextOp = some (.update request) →
        request.op = .insert →
        ∀ lookup : HTLookupReq,
          lookup.key = request.key →
          (state.cuckooTables.lookUp tabulationTable lookup).hit = false
  | _ => True

theorem oneValue_step {state next : HashTableState} {action : MapAction}
    (placed :
      Placed (calculateHashes tabulationTable) state.cuckooTables.items)
    (oneValue : state.cuckooTables.OneValue)
    (absent : InsertsAbsent tabulationTable state action)
    (stepped : HashTableStep tabulationTable state action next) :
    next.cuckooTables.OneValue := by
  rcases stepped.tables_cases with
    same | ⟨request, removed⟩ | ⟨request, rfl, isNext, isInsert, inserted⟩
  · rw [same]
    exact oneValue
  · rw [removed]
    rintro other first second ⟨index, address, atFirst⟩
      ⟨place, otherAddress, atSecond⟩
    exact
      oneValue other first second
        ⟨index, address, CuckooTables.items_remove atFirst⟩
        ⟨place, otherAddress, CuckooTables.items_remove atSecond⟩
  · rw [inserted]
    have notStored :=
      not_stored_of_absent placed (absent request isNext isInsert)
    rcases HashTableState.inserted_or placed notStored with
      succeeded | ⟨evicted, evicting, -⟩
    · exact
        oneValue.add notStored fun item stored =>
          (succeeded.stored item).1 stored
    · exact
        oneValue.add notStored fun item stored =>
          (evicting.exchanged.same item).1 (Or.inl stored)

/-- Where keys are inserted only while they are absent, each key has one
value, whether the insertions succeed or not. -/
theorem oneValue_of_run {actions : List MapAction}
    {state : HashTableState}
    (absent :
      Along (HashTableStep tabulationTable) (InsertsAbsent tabulationTable)
        HashTableState.start actions)
    (run :
      Run (HashTableStep tabulationTable) HashTableState.start actions
        state) :
    state.cuckooTables.OneValue := by
  have atStart :
      Placed (calculateHashes tabulationTable)
          HashTableState.start.cuckooTables.items ∧
        HashTableState.start.cuckooTables.OneValue := by
    refine ⟨placed_start tabulationTable, ?_⟩
    rintro key first second ⟨index, address, known⟩
    cases known
  exact
    (invariant_of_run
      (fun (before : HashTableState) action after
          (here :
            Placed (calculateHashes tabulationTable)
                before.cuckooTables.items ∧
              before.cuckooTables.OneValue)
          (guard : InsertsAbsent tabulationTable before action)
          (stepped :
            HashTableStep tabulationTable before action after) =>
        ⟨placed_step here.1 stepped,
          oneValue_step here.1 here.2 guard stepped⟩)
      atStart absent run).2

end OneValue

/-- An insertion of a new key that fails loses the entry that was evicted
last.  It leaves the map as it was only if that is the new entry, and then
does so unless a key is kept with two values. -/
theorem failedInsert_keeps_iff
    (tabulationTable : TabulationTable) (actions : List MapAction)
    (state : HashTableState)
    (run :
      Run (HashTableStep tabulationTable) HashTableState.start actions
        state)
    (request : HTUpdateReq)
    (absent :
      ∀ lookup : HTLookupReq,
        lookup.key = request.key →
        (state.cuckooTables.lookUp tabulationTable lookup).hit = false)
    (fails :
      (state.insert tabulationTable request).2.success = false) :
    (CuckooTables.KeepsMap tabulationTable state.cuckooTables
          (state.insert tabulationTable request).1.cuckooTables
          request.key →
        state.EvictsNew tabulationTable request) ∧
      (state.cuckooTables.OneValue →
        (CuckooTables.KeepsMap tabulationTable state.cuckooTables
            (state.insert tabulationTable request).1.cuckooTables
            request.key ↔
          state.EvictsNew tabulationTable request)) :=
  keepsMap_iff_evictsNew (HashTableState.placed_of_run run) absent fails

/-- Where keys are inserted only while they are absent, a failed insertion of
a new key leaves the map as it was exactly if the entry that is evicted last
is the new one. -/
theorem absentInserts_keep_iff
    {tabulationTable : TabulationTable} {actions : List MapAction}
    {state : HashTableState} {request : HTUpdateReq}
    (insertAbsent :
      Along (HashTableStep tabulationTable) (InsertsAbsent tabulationTable)
        HashTableState.start actions)
    (run :
      Run (HashTableStep tabulationTable) HashTableState.start actions
        state)
    (absent :
      ∀ lookup : HTLookupReq,
        lookup.key = request.key →
        (state.cuckooTables.lookUp tabulationTable lookup).hit = false)
    (fails :
      (state.insert tabulationTable request).2.success = false) :
    CuckooTables.KeepsMap tabulationTable state.cuckooTables
        (state.insert tabulationTable request).1.cuckooTables
        request.key ↔
      state.EvictsNew tabulationTable request :=
  (keepsMap_iff_evictsNew (HashTableState.placed_of_run run) absent
      fails).2 (oneValue_of_run insertAbsent run)

/-! ## Keys that share all their positions -/

/-- Tables with entries at one position each. -/
def rowTables (hashes : Hashes) (entries : Fin kNumTables → HTEntry) :
    CuckooTables :=
  fun i address =>
    if address = hashes i then entries i else ⟨0, 0, false⟩

/-- What the trials of an insertion hand on, with the entries at the
positions that the keys share. -/
structure HTRow where
  entries : Fin kNumTables → HTEntry
  currentEntry : HTEntry
  victimIdx : Fin kNumTables
  victimBit : BitVec 1
  success : Bool

namespace HTRow

def toState (hashes : Hashes) (row : HTRow) : HTInsertState where
  cuckooTables := rowTables hashes row.entries
  currentEntry := row.currentEntry
  victimIdx := row.victimIdx
  victimBit := row.victimBit
  success := row.success

def trial (hashes : Hashes) (row : HTRow) : HTRow :=
  match lastSlot fun i => !(row.entries i).valid with
  | some slot =>
      { row with
        entries := Function.update row.entries slot row.currentEntry
        victimBit := row.victimBit + 1
        success := true }
  | none =>
      let pos := (row.toState hashes).victimPos hashes
      { row with
        entries := Function.update row.entries pos row.currentEntry
        currentEntry := row.entries pos
        victimIdx := row.victimIdx + 1
        victimBit := row.victimBit + 1 }

def insertLoop (hashes : Hashes) : Nat → HTRow → HTRow
  | 0, row => row
  | trials + 1, row =>
      let next := row.trial hashes
      if next.success then next else insertLoop hashes trials next

/-- All keys have these positions. -/
def Shares (tabulationTable : TabulationTable) (hashes : Hashes)
    (row : HTRow) : Prop :=
  calculateHashes tabulationTable row.currentEntry.key = hashes ∧
    ∀ i,
      (row.entries i).valid = true →
      calculateHashes tabulationTable (row.entries i).key = hashes

end HTRow

section Shared

variable {tabulationTable : TabulationTable} {hashes : Hashes}

theorem currentEntries_rowTables (entries : Fin kNumTables → HTEntry) :
    (rowTables hashes entries).currentEntries hashes = entries := by
  funext i
  exact if_pos rfl

theorem writeBack_rowTables (entries other : Fin kNumTables → HTEntry) :
    (rowTables hashes entries).writeBack hashes other =
      rowTables hashes other := by
  funext i address
  rw [CuckooTables.writeBack, rowTables]
  by_cases isHere : address = hashes i
  · rw [isHere, Function.update_self, if_pos rfl]
  · rw [Function.update_of_ne isHere, rowTables, if_neg isHere,
      if_neg isHere]

namespace HTRow

variable {row : HTRow}

theorem toState_trial (shares : row.Shares tabulationTable hashes) :
    (row.toState hashes).trial tabulationTable =
      (row.trial hashes).toState hashes := by
  have current :
      calculateHashes tabulationTable
          (row.toState hashes).currentEntry.key =
        hashes :=
    shares.1
  rw [HTInsertState.trial, current]
  simp only [toState, currentEntries_rowTables, writeBack_rowTables]
  rw [trial]
  cases lastSlot fun i => !(row.entries i).valid with
  | some slot =>
      rfl
  | none =>
      rfl

theorem shares_trial (shares : row.Shares tabulationTable hashes) :
    (row.trial hashes).Shares tabulationTable hashes := by
  obtain ⟨current, others⟩ := shares
  have updated (slot i : Fin kNumTables)
      (valid :
        (Function.update row.entries slot row.currentEntry i).valid =
          true) :
      calculateHashes tabulationTable
          (Function.update row.entries slot row.currentEntry i).key =
        hashes := by
    by_cases isSlot : i = slot
    · rw [isSlot, Function.update_self]
      exact current
    · rw [Function.update_of_ne isSlot] at valid ⊢
      exact others i valid
  rw [trial]
  cases found : lastSlot fun i => !(row.entries i).valid with
  | some slot =>
      exact ⟨current, updated slot⟩
  | none =>
      refine ⟨others _ ?_, updated _⟩
      simpa using none_of_lastSlot found _

/-- With shared positions, an insertion stays among them. -/
theorem toState_insertLoop (trials : Nat) {row : HTRow}
    (shares : row.Shares tabulationTable hashes) :
    HTInsertState.insertLoop tabulationTable trials
        (row.toState hashes) =
      (row.insertLoop hashes trials).toState hashes ∧
      (row.insertLoop hashes trials).Shares tabulationTable hashes := by
  induction trials generalizing row with
  | zero =>
      exact ⟨rfl, shares⟩
  | succ trials inductionHypothesis =>
      have nextShares := shares_trial shares
      rw [HTInsertState.insertLoop, insertLoop, toState_trial shares]
      have sameSuccess :
          ((row.trial hashes).toState hashes).success =
            (row.trial hashes).success :=
        rfl
      rw [sameSuccess]
      by_cases done : (row.trial hashes).success = true
      · rw [if_pos done, if_pos done]
        exact ⟨rfl, nextShares⟩
      · rw [if_neg done, if_neg done]
        exact inductionHypothesis nextShares

end HTRow

/-- A table that holds keys with shared positions only, between two
requests. -/
structure HashTableState.InRow
    (tabulationTable : TabulationTable) (hashes : Hashes) (row : HTRow)
    (state : HashTableState) : Prop where
  tables : state.cuckooTables = rowTables hashes row.entries
  victimBit : state.victimBit = row.victimBit
  noLookups : state.lupReqs = []
  noUpdates : state.updReqs = []
  shares :
    ∀ i,
      (row.entries i).valid = true →
      calculateHashes tabulationTable (row.entries i).key = hashes

/-- What an insertion makes of the entries at the shared positions. -/
def HTRow.insert
    (hashes : Hashes) (row : HTRow) (item : HTKey × HTValue) : HTRow :=
  HTRow.insertLoop hashes kMaxTrials
    ⟨row.entries, ⟨item.1, item.2, true⟩, 0, row.victimBit, false⟩

variable {row : HTRow} {state : HashTableState}

/-- The trials of an insertion of another such key. -/
theorem HashTableState.InRow.inserted
    (inRow : state.InRow tabulationTable hashes row)
    {request : HTUpdateReq}
    (shared : calculateHashes tabulationTable request.key = hashes) :
    state.inserted tabulationTable request =
        (row.insert hashes (request.key, request.value)).toState hashes ∧
      (row.insert hashes (request.key, request.value)).Shares
        tabulationTable hashes := by
  have startShares :
      HTRow.Shares tabulationTable hashes
        ⟨row.entries, ⟨request.key, request.value, true⟩, 0,
          row.victimBit, false⟩ :=
    ⟨shared, inRow.shares⟩
  have loop := HTRow.toState_insertLoop kMaxTrials startShares
  rw [HashTableState.inserted, inRow.tables, inRow.victimBit]
  exact loop

/-- A lookup of such a key looks at the shared positions. -/
theorem hit_rowTables_iff (entries : Fin kNumTables → HTEntry)
    {lookup : HTLookupReq}
    (shared : calculateHashes tabulationTable lookup.key = hashes) :
    ((rowTables hashes entries).lookUp tabulationTable lookup).hit =
        true ↔
      ∃ i, (entries i).holdsKey lookup.key = true := by
  rw [CuckooTables.lookUp, shared, currentEntries_rowTables]
  cases found : lastSlot fun i => (entries i).holdsKey lookup.key with
  | some slot =>
      exact iff_of_true rfl ⟨slot, meets_of_lastSlot found⟩
  | none =>
      refine iff_of_false Bool.false_ne_true ?_
      rintro ⟨i, holds⟩
      have noMatch := none_of_lastSlot found i
      rw [holds] at noMatch
      cases noMatch

theorem HashTableState.InRow.hit_iff
    (inRow : state.InRow tabulationTable hashes row)
    {lookup : HTLookupReq}
    (shared : calculateHashes tabulationTable lookup.key = hashes) :
    (state.cuckooTables.lookUp tabulationTable lookup).hit = true ↔
      ∃ i, (row.entries i).holdsKey lookup.key = true := by
  rw [inRow.tables]
  exact hit_rowTables_iff row.entries shared

theorem HashTableState.InRow.lookUp_missed
    (inRow : state.InRow tabulationTable hashes row)
    {lookup : HTLookupReq}
    (shared : calculateHashes tabulationTable lookup.key = hashes)
    (apart : ∀ i, (row.entries i).holdsKey lookup.key = false) :
    state.cuckooTables.lookUp tabulationTable lookup =
      ⟨lookup.key, 0, false, lookup.source⟩ := by
  rw [inRow.tables, CuckooTables.lookUp, shared, currentEntries_rowTables]
  cases found : lastSlot fun i => (row.entries i).holdsKey lookup.key with
  | some slot =>
      have holds := meets_of_lastSlot found
      rw [apart] at holds
      cases holds
  | none =>
      rfl

/-- What the insertion reports. -/
theorem HashTableState.InRow.success
    (inRow : state.InRow tabulationTable hashes row)
    {request : HTUpdateReq}
    (shared : calculateHashes tabulationTable request.key = hashes) :
    (state.insert tabulationTable request).2.success =
      (row.insert hashes (request.key, request.value)).success := by
  rw [HashTableState.insert]
  simp only [(inRow.inserted shared).1]
  rfl

/-- Whether the insertion leaves its key in the tables. -/
theorem HashTableState.InRow.hit_inserted_iff
    (inRow : state.InRow tabulationTable hashes row)
    {request : HTUpdateReq}
    (shared : calculateHashes tabulationTable request.key = hashes)
    (source : KVOpeationSource) :
    ((state.insert tabulationTable request).1.cuckooTables.lookUp
        tabulationTable ⟨request.key, source⟩).hit = true ↔
      ∃ i,
        ((row.insert hashes (request.key, request.value)).entries
          i).holdsKey request.key = true := by
  rw [HashTableState.insert]
  simp only [(inRow.inserted shared).1]
  exact
    hit_rowTables_iff
      (row.insert hashes (request.key, request.value)).entries shared

/-- An insertion of a key, from its arrival on. -/
def insertActions (item : HTKey × HTValue) : List MapAction :=
  [.update ⟨.insert, item.1, item.2, .srcA⟩, .hashTable]

theorem act_insertActions
    (noLookups : state.lupReqs = []) (noUpdates : state.updReqs = [])
    (item : HTKey × HTValue) :
    (insertActions item).foldl (HashTableState.act tabulationTable)
        state =
      (state.insert tabulationTable
        ⟨.insert, item.1, item.2, .srcA⟩).1 := by
  obtain ⟨tables, bit, counter, register, lupReqs, updReqs⟩ := state
  subst noLookups noUpdates
  rfl

theorem HashTableState.InRow.insert
    (inRow : state.InRow tabulationTable hashes row)
    (request : HTUpdateReq)
    (shared : calculateHashes tabulationTable request.key = hashes) :
    (state.insert tabulationTable request).1.InRow tabulationTable hashes
      (row.insert hashes (request.key, request.value)) := by
  obtain ⟨inserted, shares⟩ := inRow.inserted shared
  refine ⟨?_, ?_, inRow.noLookups, inRow.noUpdates, shares.2⟩
  · rw [HashTableState.insert]
    simp only [inserted]
    rfl
  · rw [HashTableState.insert]
    simp only [inserted]
    rfl

theorem HashTableState.InRow.act
    (inRow : state.InRow tabulationTable hashes row)
    {item : HTKey × HTValue}
    (shared : calculateHashes tabulationTable item.1 = hashes) :
    ((insertActions item).foldl (HashTableState.act tabulationTable)
        state).InRow tabulationTable hashes (row.insert hashes item) := by
  rw [act_insertActions inRow.noLookups inRow.noUpdates]
  exact inRow.insert ⟨.insert, item.1, item.2, .srcA⟩ shared

/-- Insertions of such keys, one after the other. -/
theorem HashTableState.InRow.foldl
    (items : List (HTKey × HTValue)) {row : HTRow} {state : HashTableState}
    (inRow : state.InRow tabulationTable hashes row)
    (shared :
      ∀ item ∈ items,
        calculateHashes tabulationTable item.1 = hashes) :
    ((items.flatMap insertActions).foldl
        (HashTableState.act tabulationTable) state).InRow
      tabulationTable hashes
      (items.foldl (HTRow.insert hashes) row) := by
  induction items generalizing row state with
  | nil =>
      exact inRow
  | cons item later inductionHypothesis =>
      rw [List.flatMap_cons, List.foldl_append, List.foldl_cons]
      exact
        inductionHypothesis
          (inRow.act (shared item List.mem_cons_self))
          fun other member =>
            shared other (List.mem_cons_of_mem _ member)

/-- The row of an empty table. -/
def HTRow.start : HTRow where
  entries := fun _ => ⟨0, 0, false⟩
  currentEntry := ⟨0, 0, false⟩
  victimIdx := 0
  victimBit := 0
  success := false

theorem HashTableState.InRow.start :
    HashTableState.start.InRow tabulationTable hashes HTRow.start where
  tables := by
    funext i address
    exact (ite_self _).symm
  victimBit := rfl
  noLookups := rfl
  noUpdates := rfl
  shares := fun _ valid => by cases valid

end Shared

/-! ## The random values of the repository -/

/-- `tabulation_table_96.txt`, twelve values a line: for each table those of
the key bits 0, and then those of the key bits 1. -/
def tabulationRows : List (List (List Nat)) :=
  [[[0, 1212, 6963, 4226, 4910, 2017, 433, 6256, 6260, 8614, 3534, 4786],
    [7658, 318, 492, 4881, 6185, 70, 3533, 616, 3847, 6329, 5428, 8574],
    [7798, 4856, 847, 6026, 3833, 6462, 8389, 7024, 2418, 437, 6783, 3025],
    [5830, 6971, 9133, 3366, 2276, 9055, 6660, 6942, 6004, 669, 5821, 8153],
    [2513, 4021, 7064, 4402, 2191, 2533, 3310, 1534, 4483, 8272, 8379, 558],
    [8337, 4649, 4758, 2940, 9092, 4552, 2452, 836, 8734, 679, 4614, 3540],
    [2553, 8421, 4882, 4280, 8672, 461, 7018, 7098, 7629, 1155, 146, 6344],
    [8001, 5801, 6785, 6685, 9211, 8189, 2149, 2823, 3234, 4730, 5447, 7796]],
   [[3797, 7755, 2482, 3828, 4951, 4312, 2646, 1643, 1416, 5268, 7394, 304],
    [4925, 4594, 8804, 6896, 5111, 8209, 5758, 7760, 1472, 1960, 6586, 1202],
    [838, 2530, 27, 3818, 247, 6541, 8643, 2211, 1667, 2926, 8174, 6009],
    [1385, 6279, 3555, 3573, 4605, 1359, 5411, 7792, 5438, 8805, 5125, 1365],
    [9062, 3767, 1307, 5206, 2323, 4502, 4276, 8857, 1161, 1840, 2942, 5799],
    [1167, 6001, 5729, 7401, 2284, 4390, 3587, 1873, 261, 8309, 3930, 1308],
    [8732, 3781, 1209, 8162, 849, 1494, 654, 3366, 2332, 1245, 7217, 4196],
    [3221, 4168, 7455, 8586, 6005, 1983, 6263, 8376, 2305, 7933, 4343, 4662]],
   [[5533, 7534, 6965, 4260, 8767, 5831, 4048, 7600, 6349, 6471, 9097, 8795],
    [7845, 2666, 4952, 4741, 953, 3815, 5315, 8078, 4055, 6725, 8011, 6595],
    [7379, 6511, 6835, 175, 8165, 4838, 4269, 600, 6574, 4506, 6153, 6285],
    [1839, 8447, 7980, 8202, 5013, 1282, 4150, 9117, 1986, 4110, 2909, 4743],
    [8123, 4052, 4308, 7434, 3365, 1949, 9207, 1415, 5810, 5680, 5, 8],
    [7127, 6703, 2941, 3849, 6289, 6272, 1891, 7708, 6533, 7637, 871, 753],
    [7041, 5802, 1970, 1968, 747, 3583, 8775, 8732, 3592, 2481, 6379, 2617],
    [7159, 7224, 3893, 2600, 1787, 104, 1767, 9061, 2249, 7554, 1257, 3669]],
   [[5538, 1630, 7634, 1453, 9104, 2370, 2152, 936, 2022, 5849, 6414, 7324],
    [6416, 6939, 6170, 5837, 520, 5513, 2092, 2937, 6449, 1082, 7027, 4848],
    [5104, 5418, 3038, 6478, 1318, 1490, 4472, 7927, 7495, 5131, 6810, 2912],
    [1247, 4871, 2863, 5420, 4774, 3970, 2385, 3412, 3622, 4118, 4385, 3574],
    [2573, 721, 3407, 2340, 6191, 6232, 4736, 6714, 6642, 8706, 4245, 8664],
    [2963, 4243, 4766, 6095, 3703, 5581, 9091, 1386, 6175, 3168, 4992, 4818],
    [7642, 137, 2527, 5925, 5033, 8458, 2457, 8940, 2273, 7778, 6396, 4200],
    [7530, 203, 1481, 6515, 6523, 4024, 5367, 6927, 9138, 6411, 2575, 6947]],
   [[1577, 39, 4568, 736, 1502, 8324, 7216, 6881, 4022, 58, 5389, 4778],
    [616, 5013, 3591, 1989, 3555, 5777, 6073, 6537, 4964, 2583, 7519, 3427],
    [6323, 2858, 86, 956, 4801, 7150, 2033, 509, 650, 1477, 6670, 2737],
    [466, 4403, 4213, 4792, 4114, 1385, 2635, 7683, 6411, 5324, 6277, 3052],
    [529, 9095, 4998, 15, 7890, 270, 3479, 4512, 5310, 6810, 6260, 4942],
    [327, 1129, 8970, 1735, 3237, 5659, 5599, 1160, 5095, 8792, 3289, 7723],
    [8978, 2387, 2318, 3910, 7493, 8275, 2254, 7009, 6403, 4164, 2429, 6133],
    [1074, 1931, 1047, 5040, 56, 1621, 5523, 3980, 760, 6335, 3458, 7706]],
   [[1139, 8970, 273, 740, 4554, 7091, 8608, 2305, 3314, 7088, 4607, 6905],
    [6192, 6282, 6974, 335, 2124, 2042, 5184, 6014, 5682, 3423, 2071, 2153],
    [6018, 1529, 6857, 1472, 439, 6100, 1151, 8747, 4462, 5723, 8423, 165],
    [5470, 6652, 4576, 494, 4070, 4784, 7114, 602, 4080, 9005, 4310, 3032],
    [4109, 6850, 1892, 1579, 3433, 8660, 8892, 2349, 648, 1141, 4850, 1475],
    [4771, 969, 7755, 3396, 3906, 3015, 6576, 5315, 8035, 6988, 7710, 6449],
    [3585, 8619, 5581, 3336, 4972, 4193, 3702, 2215, 765, 3885, 4353, 2670],
    [967, 1994, 7391, 4860, 6163, 7959, 2246, 6557, 2429, 3528, 746, 4237]],
   [[2146, 7329, 4528, 29, 2452, 6125, 3918, 1721, 8879, 1235, 7334, 8718],
    [1577, 5584, 588, 3202, 2695, 4697, 7610, 7689, 6694, 3036, 7392, 5822],
    [417, 381, 1412, 7069, 568, 4785, 8563, 2032, 1885, 820, 6448, 6510],
    [4558, 2412, 6557, 3487, 1849, 2143, 4019, 4326, 7936, 9006, 4096, 315],
    [4827, 291, 6941, 5452, 7583, 3037, 2138, 4944, 3968, 3719, 9099, 8911],
    [7838, 7995, 2871, 1367, 9193, 5893, 4313, 8588, 6366, 7514, 4990, 5279],
    [1467, 8711, 7569, 1432, 378, 3166, 1013, 889, 4781, 206, 5174, 7897],
    [4763, 6216, 6793, 6437, 210, 1769, 6183, 3187, 610, 1296, 8489, 2042]],
   [[3503, 5400, 1541, 242, 6369, 7025, 6577, 712, 5435, 8529, 8568, 3967],
    [4663, 7660, 8471, 5544, 6670, 4786, 4523, 1487, 8995, 5293, 2518, 4897],
    [6437, 6147, 897, 5057, 5628, 6155, 4563, 5267, 5427, 4067, 1393, 4628],
    [6740, 291, 475, 4811, 2955, 323, 2259, 987, 3529, 5085, 5503, 5632],
    [8619, 7115, 4729, 4485, 5991, 6423, 3755, 4486, 4421, 6547, 4923, 2549],
    [5580, 2581, 6482, 4889, 8646, 2169, 3810, 5506, 7216, 8481, 6280, 7567],
    [4860, 2122, 1324, 8290, 2317, 6004, 44, 8625, 2537, 7914, 2570, 8777],
    [4670, 1133, 3838, 6474, 4022, 992, 7061, 920, 4066, 3175, 2737, 6982]],
   [[3119, 3048, 512, 5282, 4472, 1866, 1055, 8979, 7968, 4532, 3385, 7418],
    [1494, 1470, 531, 1375, 4314, 3507, 8144, 3908, 3799, 6002, 2841, 554],
    [7505, 8272, 8474, 8305, 7096, 1574, 5275, 289, 7402, 4812, 7940, 2554],
    [8013, 5408, 3586, 7482, 4844, 8661, 3871, 5344, 6904, 8117, 3115, 1746],
    [6848, 6625, 8102, 671, 6544, 8101, 3312, 828, 1484, 3841, 888, 6217],
    [5185, 7493, 8093, 7090, 5854, 8262, 8095, 4483, 1042, 3478, 3526, 6336],
    [1121, 707, 1320, 4401, 6530, 2193, 3603, 8993, 5794, 6277, 8374, 3339],
    [7918, 7320, 3952, 677, 4595, 4459, 4153, 4604, 6826, 8597, 2765, 1347]],
   [[1013, 740, 8962, 3761, 2197, 8876, 7681, 1825, 1193, 1809, 3125, 5305],
    [4057, 5397, 3989, 3393, 3523, 5530, 3958, 1371, 6176, 9173, 6433, 3711],
    [7826, 7552, 7311, 3449, 88, 4421, 5889, 5958, 5943, 7363, 3477, 3296],
    [3589, 3080, 6392, 1335, 2686, 6145, 7873, 2900, 1328, 5550, 51, 8486],
    [3520, 4760, 3174, 2434, 2681, 7682, 1146, 5848, 448, 4221, 3472, 1436],
    [6965, 6137, 106, 7325, 5169, 2660, 3829, 2954, 4742, 6627, 7760, 2137],
    [4285, 3440, 461, 680, 1865, 5217, 7663, 3894, 7737, 2700, 1669, 3294],
    [8608, 5432, 3401, 4267, 5786, 8704, 3739, 465, 4099, 5492, 6896, 7964]],
   [[1207, 963, 6131, 7680, 5357, 6069, 9050, 174, 8492, 1794, 8918, 4820],
    [2569, 6633, 5441, 7714, 7692, 6081, 6731, 5926, 3221, 4929, 6120, 2980],
    [8010, 4076, 8460, 2549, 8771, 1080, 3833, 7708, 8870, 3068, 4849, 4939],
    [7539, 8569, 6109, 2241, 8676, 5499, 1161, 2276, 8172, 1807, 1501, 7704],
    [5551, 5743, 7729, 6189, 3608, 8029, 6150, 1065, 0, 6230, 5794, 4189],
    [5293, 297, 3238, 7880, 3417, 6095, 5312, 552, 6861, 2575, 4079, 1625],
    [846, 8269, 9146, 5475, 304, 6367, 4490, 5247, 8255, 4004, 6346, 1872],
    [4439, 2510, 8728, 2251, 8785, 4395, 1171, 8860, 7899, 2003, 64, 7211]],
   [[464, 8847, 5910, 5284, 1263, 1189, 7599, 4625, 6044, 4654, 4851, 1091],
    [8322, 6164, 2558, 3563, 3608, 7659, 2239, 1137, 6712, 5972, 1854, 7821],
    [207, 972, 1732, 3326, 7185, 6628, 6141, 5354, 3236, 1448, 2691, 1558],
    [2061, 6187, 3730, 8170, 5339, 3150, 4029, 6447, 7688, 7298, 7825, 2600],
    [2439, 1566, 4917, 674, 9204, 6913, 1126, 1516, 3917, 7125, 1968, 3999],
    [304, 8564, 977, 2454, 4442, 7306, 2373, 1971, 2603, 3507, 1918, 8557],
    [7041, 5682, 5307, 3283, 8366, 1823, 1051, 7291, 6434, 168, 6893, 1055],
    [8248, 6033, 3187, 3524, 1981, 3053, 163, 8426, 7238, 3626, 6727, 7663]],
   [[8089, 1194, 3165, 8682, 3337, 3244, 743, 5270, 7155, 7780, 4546, 7532],
    [5923, 4012, 3246, 3217, 2594, 8470, 5770, 6862, 1451, 7155, 2322, 5640],
    [7876, 2899, 5607, 1160, 3443, 1228, 2413, 1161, 1869, 6916, 653, 4229],
    [8877, 2162, 1820, 6303, 749, 7872, 1406, 1107, 7456, 8701, 419, 555],
    [7646, 1301, 7383, 2096, 3679, 5522, 6038, 495, 9090, 7486, 3811, 293],
    [995, 8980, 7991, 6184, 7689, 2195, 6607, 5434, 2050, 2099, 14, 4127],
    [3776, 8598, 207, 4732, 3469, 7921, 7316, 5616, 3057, 5750, 6026, 5938],
    [2388, 239, 9096, 1914, 5919, 5163, 3473, 1112, 4138, 1269, 5398, 5000]],
   [[4456, 8170, 751, 3341, 929, 2757, 7756, 8414, 7630, 8942, 7495, 7353],
    [7739, 4135, 5917, 6395, 7518, 4315, 1784, 3700, 8576, 4305, 3487, 4770],
    [2099, 8287, 9085, 1262, 4225, 6351, 2571, 3771, 6819, 288, 2801, 1775],
    [7494, 2533, 6614, 3765, 7235, 6656, 5318, 5833, 7359, 2, 5785, 3192],
    [4348, 4536, 4880, 2935, 7906, 1271, 3678, 3565, 7800, 517, 4210, 7055],
    [2695, 8865, 9207, 6834, 3223, 7341, 1833, 5536, 5002, 2319, 1858, 5304],
    [4734, 6890, 5603, 9120, 7358, 5112, 1351, 986, 4827, 2269, 5268, 3081],
    [6255, 639, 7784, 8075, 3060, 1340, 6857, 6100, 3712, 5391, 5119, 4553]],
   [[5663, 8523, 5657, 2362, 365, 5720, 3165, 222, 1579, 5628, 3906, 5238],
    [6731, 3446, 3369, 3467, 798, 5374, 3853, 1021, 2997, 6314, 5197, 8035],
    [4901, 8981, 555, 4380, 1014, 9143, 5064, 6439, 1172, 4377, 546, 4102],
    [8460, 4050, 7912, 9190, 5062, 1145, 7799, 1753, 6122, 6048, 8968, 4217],
    [1468, 1282, 2611, 8966, 5510, 7853, 579, 8530, 8749, 4300, 2601, 4241],
    [3970, 7982, 1830, 3546, 6996, 7503, 6199, 6650, 6297, 2893, 1552, 6341],
    [8487, 1527, 35, 1624, 1641, 1825, 6158, 6215, 4769, 2980, 4303, 2956],
    [863, 8021, 4102, 1361, 6009, 8681, 8131, 6091, 1879, 1569, 148, 1524]],
   [[1005, 3328, 5171, 8882, 2262, 219, 276, 8166, 8168, 8416, 5044, 1590],
    [4488, 7505, 8631, 5373, 5058, 4347, 6942, 3062, 1589, 4727, 3506, 7632],
    [8912, 44, 2777, 4189, 8206, 7774, 2307, 6763, 7737, 3898, 6529, 3740],
    [4850, 4843, 843, 3720, 7208, 2440, 2837, 1704, 6973, 5720, 5947, 3016],
    [1421, 1699, 4195, 4913, 1496, 8531, 3769, 287, 1541, 5207, 9081, 1292],
    [3074, 2848, 3265, 1500, 2968, 3498, 5910, 5550, 347, 3088, 720, 5013],
    [4526, 2653, 2329, 4048, 6069, 3000, 15, 8964, 929, 2934, 8806, 3218],
    [1524, 9082, 1073, 386, 8856, 7237, 2031, 935, 2346, 4032, 2239, 2604]],
   [[5061, 8131, 7848, 6179, 5138, 6984, 8312, 7864, 7001, 2156, 9200, 2407],
    [3456, 2760, 6870, 9140, 7062, 3950, 5913, 4274, 944, 1676, 7956, 4638],
    [8579, 8276, 2683, 5798, 8989, 5013, 7655, 505, 1747, 8988, 7052, 8016],
    [298, 4777, 3460, 8936, 1780, 2106, 5501, 8262, 5064, 781, 7160, 7106],
    [6528, 478, 8142, 660, 9166, 2487, 4605, 6334, 6897, 8705, 6356, 8402],
    [1578, 7514, 2606, 4440, 8394, 6480, 3680, 1552, 8317, 1935, 5053, 3435],
    [2425, 7434, 2173, 6072, 3092, 4811, 4173, 5592, 6148, 200, 7549, 3477],
    [4993, 8936, 6877, 7310, 6992, 4176, 3748, 2250, 6472, 1970, 6093, 3751]],
   [[2547, 3162, 2778, 6344, 8794, 7171, 8315, 199, 8978, 495, 3778, 1507],
    [7336, 106, 5548, 8492, 1013, 5022, 673, 5128, 3533, 4436, 3602, 3766],
    [5152, 8673, 6442, 5434, 102, 2605, 3570, 6873, 5213, 5108, 2475, 1079],
    [1489, 3265, 7449, 2449, 1766, 3819, 5973, 4881, 671, 4331, 3492, 911],
    [4545, 1224, 1992, 4039, 3254, 9158, 8222, 3225, 4047, 7387, 9051, 2776],
    [5314, 5086, 1320, 4668, 4606, 6724, 761, 2000, 1593, 3550, 3452, 2436],
    [1517, 7893, 2261, 8233, 7291, 8886, 2310, 2618, 5067, 6625, 4748, 4483],
    [3242, 7911, 3798, 188, 8439, 8842, 5240, 9196, 3691, 5415, 7431, 3762]]]

def tabulationTable96 : TabulationTable :=
  fun i bit k =>
    BitVec.ofNat kMaxAddressBits
      (((tabulationRows.getD (2 * i.val + bit.toNat) []).getD
        (k.val / 12) []).getD (k.val % 12) 0)

/-- Ten keys with the same hashes. -/
def collidingItems : List (HTKey × HTValue) :=
  [1, 135358844027, 184024371769, 229188378179, 323825467214,
    364560806708, 419786222966, 542125416716, 609415511347,
    628809707849].map fun key => (key, 1)

def tenthRequest : HTUpdateReq :=
  ⟨.insert, 628809707849, 1, .srcA⟩

def collidingHashes : Hashes :=
  fun i => [6, 7, 14, 2, 7, 10, 3, 4, 10].getD i.val 0

def collidingState : HashTableState :=
  ((collidingItems.take 9).flatMap insertActions).foldl
    (HashTableState.act tabulationTable96) HashTableState.start

def collidingRow : HTRow :=
  (collidingItems.take 9).foldl (HTRow.insert collidingHashes) HTRow.start

theorem collidingItems_hashes :
    (collidingItems.all fun item =>
      (List.finRange 9).all fun i =>
        calculateHashes tabulationTable96 item.1 i ==
          collidingHashes i) =
      true := by
  decide +kernel

theorem collidingItems_shared :
    ∀ item ∈ collidingItems,
      calculateHashes tabulationTable96 item.1 = collidingHashes := by
  intro item member
  funext (i : Fin 9)
  have ofItem := List.all_eq_true.1 collidingItems_hashes item member
  exact eq_of_beq (List.all_eq_true.1 ofItem i (List.mem_finRange i))

theorem tenthRequest_shared :
    calculateHashes tabulationTable96 tenthRequest.key =
      collidingHashes :=
  collidingItems_shared (628809707849, 1)
    (List.mem_of_getElem (show collidingItems[9] = _ from rfl))

theorem collidingState_inRow :
    collidingState.InRow tabulationTable96 collidingHashes
      collidingRow :=
  HashTableState.InRow.start.foldl (collidingItems.take 9)
    fun item member =>
      collidingItems_shared item (List.mem_of_mem_take member)

theorem collidingRow_apart :
    ∀ i, (collidingRow.entries i).holdsKey tenthRequest.key ≠ true := by
  intro (i : Fin 9)
  fin_cases i <;> decide +kernel

theorem tenthRequest_absent (lookup : HTLookupReq)
    (sameKey : lookup.key = tenthRequest.key) :
    (collidingState.cuckooTables.lookUp tabulationTable96 lookup).hit =
      false := by
  have shared :
      calculateHashes tabulationTable96 lookup.key = collidingHashes := by
    rw [sameKey]
    exact tenthRequest_shared
  rw [← Bool.not_eq_true, collidingState_inRow.hit_iff shared, sameKey]
  exact not_exists.2 collidingRow_apart

theorem collidingRow_fails :
    (collidingRow.insert collidingHashes
      (tenthRequest.key, tenthRequest.value)).success = false := by
  decide +kernel

theorem collidingRow_holds :
    ((collidingRow.insert collidingHashes
        (tenthRequest.key, tenthRequest.value)).entries 7).holdsKey
      tenthRequest.key = true := by
  decide +kernel

theorem tenthRequest_fails :
    (collidingState.insert tabulationTable96 tenthRequest).2.success =
      false :=
  (collidingState_inRow.success tenthRequest_shared).trans
    collidingRow_fails

theorem failedInsert_keeps_iff_tenth :
    (CuckooTables.KeepsMap tabulationTable96 collidingState.cuckooTables
          (collidingState.insert tabulationTable96
            tenthRequest).1.cuckooTables
          tenthRequest.key →
        collidingState.EvictsNew tabulationTable96 tenthRequest) ∧
      (collidingState.cuckooTables.OneValue →
        (CuckooTables.KeepsMap tabulationTable96
            collidingState.cuckooTables
            (collidingState.insert tabulationTable96
              tenthRequest).1.cuckooTables
            tenthRequest.key ↔
          collidingState.EvictsNew tabulationTable96 tenthRequest)) :=
  failedInsert_keeps_iff tabulationTable96
    ((collidingItems.take 9).flatMap insertActions) collidingState
    (HashTableState.run_act tabulationTable96 _) tenthRequest
    tenthRequest_absent tenthRequest_fails

/-- With the random values of the repository, the key whose insertion is
reported to have failed is found. -/
theorem not_failedInsert_keeps :
    ¬ ∀ (actions : List MapAction) (state : HashTableState),
      Run (HashTableStep tabulationTable96) HashTableState.start actions
        state →
      ∀ request : HTUpdateReq,
        (∀ lookup : HTLookupReq,
          lookup.key = request.key →
          (state.cuckooTables.lookUp tabulationTable96 lookup).hit =
            false) →
        (state.insert tabulationTable96 request).2.success = false →
        CuckooTables.KeepsMap tabulationTable96 state.cuckooTables
          (state.insert tabulationTable96 request).1.cuckooTables
          request.key := by
  intro allKeep
  have keeps :=
    allKeep ((collidingItems.take 9).flatMap insertActions) collidingState
      (HashTableState.run_act tabulationTable96 _) tenthRequest
      tenthRequest_absent tenthRequest_fails
  have missed := keeps.2 ⟨tenthRequest.key, .srcA⟩ rfl
  have isFound :=
    (collidingState_inRow.hit_inserted_iff tenthRequest_shared .srcA).2
      ⟨7, collidingRow_holds⟩
  rw [missed] at isFound
  cases isFound

end TcpOffload
