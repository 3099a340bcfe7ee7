import TcpOffload.Library.Cuckoo

/-!
# Evictions that are given up

An entry for which there is no free position is exchanged for one in its way,
and that one for another.  Where the exchanges are given up, one entry is left
over.  This module says what the tables then hold, and describes the chain of
the exchanged entries by the tables before the first exchange.
-/

namespace Cuckoo

universe u v w x

variable {Index : Type u} {Address : Type v} {Key : Type w} {Value : Type x}
variable {hash : Key → Index → Address}
variable {tables : Index → Address → Option (Key × Value)}

/-! ## Exchanges -/

/-- An entry is kept at a position of its key. -/
def Placed (hash : Key → Index → Address)
    (tables : Index → Address → Option (Key × Value)) : Prop :=
  ∀ index address key value,
    tables index address = some (key, value) → hash key index = address

/-- The entry is somewhere in the tables. -/
def Stored (tables : Index → Address → Option (Key × Value))
    (item : Key × Value) : Prop :=
  ∃ index address, tables index address = some item

theorem Stored.at_hash {key : Key} {value : Value}
    (stored : Stored tables (key, value)) (placed : Placed hash tables) :
    ∃ index, tables index (hash key index) = some (key, value) := by
  obtain ⟨index, address, here⟩ := stored
  refine ⟨index, ?_⟩
  rw [placed index address key value here]
  exact here

/-- Exchanges have made these tables of others, with `hand` still to be
placed for the entry `new` that came first. -/
structure Exchanged (hash : Key → Index → Address)
    (before : Index → Address → Option (Key × Value)) (new : Key × Value)
    (tables : Index → Address → Option (Key × Value))
    (hand : Key × Value) : Prop where
  placed : Placed hash tables
  same :
    ∀ item,
      Stored tables item ∨ item = hand ↔ Stored before item ∨ item = new
  once :
    ∀ index address other place value otherValue,
      tables index address = some (new.1, value) →
      tables other place = some (new.1, otherValue) →
      other = index ∧ place = address
  apart :
    hand.1 = new.1 →
    ∀ index address value, tables index address ≠ some (new.1, value)

variable {before : Index → Address → Option (Key × Value)}
variable {new hand : Key × Value}

theorem Exchanged.start (placed : Placed hash before)
    (absent : ∀ value, ¬ Stored before (new.1, value)) :
    Exchanged hash before new before new where
  placed := placed
  same := fun _ => Iff.rfl
  once := by
    intro index address _ _ value _ here _
    exact absurd ⟨index, address, here⟩ (absent value)
  apart := fun _ index address value here =>
    absent value ⟨index, address, here⟩

/-- With the first entry at hand again, the tables hold what they held
before. -/
theorem Exchanged.restored
    (exchanged : Exchanged hash before new tables hand)
    (absent : ∀ value, ¬ Stored before (new.1, value))
    (returned : hand.1 = new.1) (item : Key × Value) :
    Stored tables item ↔ Stored before item := by
  have notNew (place : Stored tables new) : False := by
    obtain ⟨index, address, here⟩ := place
    exact exchanged.apart returned index address new.2 here
  have isNew : hand = new := by
    rcases (exchanged.same hand).1 (Or.inr rfl) with stored | isNew
    · rw [show hand = (new.1, hand.2) from Prod.ext returned rfl] at stored
      exact absurd stored (absent hand.2)
    · exact isNew
  constructor
  · intro stored
    rcases (exchanged.same item).1 (Or.inl stored) with kept | same
    · exact kept
    · exact (notNew (same ▸ stored)).elim
  · intro stored
    rcases (exchanged.same item).2 (Or.inl stored) with kept | same
    · exact kept
    · rw [same, isNew] at stored
      exact absurd stored (absent new.2)

/-- With another entry at hand, the first one is in the tables. -/
theorem Exchanged.stored_new
    (exchanged : Exchanged hash before new tables hand)
    (notReturned : hand.1 ≠ new.1) : Stored tables new := by
  rcases (exchanged.same new).2 (Or.inr rfl) with stored | same
  · exact stored
  · exact absurd (congrArg Prod.fst same).symm notReturned

section Write

variable [DecidableEq Index] [DecidableEq Address]

theorem Placed.write {key : Key} {value : Value} {index : Index}
    (placed : Placed hash tables) :
    Placed hash
      (write tables index (hash key index) (some (key, value))) := by
  intro other place otherKey otherValue known
  rcases write_eq tables index (hash key index) (some (key, value)) other
      place with ⟨sameTable, samePlace, written⟩ | ⟨_, kept⟩
  · rw [written] at known
    cases known
    rw [sameTable, samePlace]
  · exact placed other place otherKey otherValue (kept.symm.trans known)

/-- A write puts one entry into the tables and one out of them. -/
theorem stored_write_iff {index : Index} {address : Address}
    {new old : Key × Value} (taken : tables index address = some old)
    (item : Key × Value) :
    Stored (write tables index address (some new)) item ∨ item = old ↔
      Stored tables item ∨ item = new := by
  constructor
  · rintro (⟨other, place, known⟩ | isOld)
    · rcases write_eq tables index address (some new) other place with
        ⟨_, _, written⟩ | ⟨_, kept⟩
      · exact Or.inr (Option.some.inj (known.symm.trans written))
      · exact Or.inl ⟨other, place, kept.symm.trans known⟩
    · rw [isOld]
      exact Or.inl ⟨index, address, taken⟩
  · rintro (⟨other, place, known⟩ | isNew)
    · rcases write_eq tables index address (some new) other place with
        ⟨sameTable, samePlace, _⟩ | ⟨_, kept⟩
      · rw [sameTable, samePlace, taken] at known
        exact Or.inr (Option.some.inj known).symm
      · exact Or.inl ⟨other, place, kept.trans known⟩
    · rw [isNew]
      exact Or.inl ⟨index, address, write_here index address _⟩

/-- A write at a free position puts one entry into the tables. -/
theorem stored_place_iff {index : Index} {address : Address}
    {new : Key × Value} (vacant : tables index address = none)
    (item : Key × Value) :
    Stored (write tables index address (some new)) item ↔
      Stored tables item ∨ item = new := by
  constructor
  · rintro ⟨other, place, known⟩
    rcases write_eq tables index address (some new) other place with
      ⟨_, _, written⟩ | ⟨_, kept⟩
    · exact Or.inr (Option.some.inj (known.symm.trans written))
    · exact Or.inl ⟨other, place, kept.symm.trans known⟩
  · rintro (⟨other, place, known⟩ | isNew)
    · rcases write_eq tables index address (some new) other place with
        ⟨sameTable, samePlace, _⟩ | ⟨_, kept⟩
      · rw [sameTable, samePlace, vacant] at known
        cases known
      · exact ⟨other, place, kept.trans known⟩
    · rw [isNew]
      exact ⟨index, address, write_here index address _⟩

/-- The entry at hand is exchanged for the one in its way. -/
theorem Exchanged.evict {index : Index} {other : Key × Value}
    (exchanged : Exchanged hash before new tables hand)
    (taken : tables index (hash hand.1 index) = some other) :
    Exchanged hash before new
      (write tables index (hash hand.1 index) (some hand)) other where
  placed := exchanged.placed.write
  same := by
    intro item
    rw [stored_write_iff taken, exchanged.same item]
  once := by
    intro first firstPlace second secondPlace value otherValue atFirst
      atSecond
    rcases write_eq tables index (hash hand.1 index) (some hand) first
        firstPlace with
      ⟨firstTable, firstHere, firstWritten⟩ | ⟨firstElse, firstKept⟩
    · rcases write_eq tables index (hash hand.1 index) (some hand) second
          secondPlace with
        ⟨secondTable, secondHere, _⟩ | ⟨_, secondKept⟩
      · exact
          ⟨secondTable.trans firstTable.symm,
            secondHere.trans firstHere.symm⟩
      · have isHand : hand = (new.1, value) :=
          Option.some.inj (firstWritten.symm.trans atFirst)
        exact
          absurd (secondKept.symm.trans atSecond)
            (exchanged.apart (by rw [isHand]) _ _ _)
    · rcases write_eq tables index (hash hand.1 index) (some hand) second
          secondPlace with
        ⟨_, _, secondWritten⟩ | ⟨_, secondKept⟩
      · have isHand : hand = (new.1, otherValue) :=
          Option.some.inj (secondWritten.symm.trans atSecond)
        exact
          absurd (firstKept.symm.trans atFirst)
            (exchanged.apart (by rw [isHand]) _ _ _)
      · exact
          exchanged.once _ _ _ _ _ _ (firstKept.symm.trans atFirst)
            (secondKept.symm.trans atSecond)
  apart := by
    intro isNew first firstPlace value atFirst
    have takenNew :
        tables index (hash hand.1 index) = some (new.1, other.2) := by
      rw [taken, ← isNew]
    rcases write_eq tables index (hash hand.1 index) (some hand) first
        firstPlace with ⟨_, _, written⟩ | ⟨elsewhere, kept⟩
    · have isHand : hand = (new.1, value) :=
        Option.some.inj (written.symm.trans atFirst)
      exact
        exchanged.apart (by rw [isHand]) _ _ _ takenNew
    · obtain ⟨sameTable, samePlace⟩ :=
        exchanged.once _ _ _ _ _ _ takenNew (kept.symm.trans atFirst)
      rcases elsewhere with notSame | notSame
      · exact notSame sameTable
      · exact notSame samePlace

end Write

/-! ## Chains of evictions -/

section Chain

variable [DecidableEq Index] [DecidableEq Address]
variable (slotOf : Nat → Key × Value → Index × Address)
variable (tables : Index → Address → Option (Key × Value))

/-- What stands at a position once the entries, the last one first, have been
put where their turns say. -/
def standsAt : List (Key × Value) → Index × Address → Option (Key × Value)
  | [], slot => tables slot.1 slot.2
  | item :: earlier, slot =>
      if slotOf earlier.length item = slot then
        some item
      else
        standsAt earlier slot

/-- Each entry, the last one first, stood in the way of the one before
it. -/
inductive Chain (new : Key × Value) : List (Key × Value) → Prop
  | new : Chain new [new]
  | next {item other : Key × Value} {earlier : List (Key × Value)} :
      Chain new (item :: earlier) →
      standsAt slotOf tables earlier (slotOf earlier.length item) =
        some other →
      Chain new (other :: item :: earlier)

variable {slotOf tables}

theorem Chain.unique {first second : List (Key × Value)}
    (chain : Chain slotOf tables new first)
    (other : Chain slotOf tables new second)
    (sameLength : first.length = second.length) : first = second := by
  induction chain generalizing second with
  | new =>
      cases other with
      | new =>
          rfl
      | next =>
          simp at sameLength
  | next _ stood inductionHypothesis =>
      cases other with
      | new =>
          simp at sameLength
      | next otherChain otherStood =>
          have same :=
            inductionHypothesis otherChain (Nat.succ.inj sameLength)
          obtain ⟨sameItem, sameEarlier⟩ := List.cons.inj same
          subst sameItem sameEarlier
          rw [Option.some.inj (stood.symm.trans otherStood)]

/-- Of two such chains the longer one goes on from the shorter one. -/
theorem Chain.suffix {first second : List (Key × Value)}
    (chain : Chain slotOf tables new first)
    (other : Chain slotOf tables new second)
    (shorter : first.length ≤ second.length) : first <:+ second := by
  induction other with
  | new =>
      cases chain with
      | new =>
          exact List.suffix_refl [new]
      | next =>
          simp at shorter
  | next otherChain stood inductionHypothesis =>
      rcases Nat.le_or_eq_of_le_succ shorter with within | sameLength
      · exact (inductionHypothesis within).trans (List.suffix_cons _ _)
      · have same := chain.unique (otherChain.next stood) sameLength
        subst same
        exact List.suffix_refl _

/-- Where an entry has been put, one stood before. -/
theorem Chain.standsAt_eq_none {items : List (Key × Value)}
    (chain : Chain slotOf tables new items) (slot : Index × Address) :
    standsAt slotOf tables items.tail slot = none ↔
      tables slot.1 slot.2 = none := by
  induction chain with
  | new =>
      exact Iff.rfl
  | @next item other earlier _ stood inductionHypothesis =>
      rw [List.tail_cons] at inductionHypothesis ⊢
      rw [standsAt]
      split
      next isSlot =>
        rw [isSlot] at stood
        rw [← inductionHypothesis, stood]
        exact
          iff_of_false (Option.some_ne_none item)
            (Option.some_ne_none other)
      next =>
        exact inductionHypothesis

/-- A write puts the next entry where its turn says. -/
theorem standsAt_write {held : Index → Address → Option (Key × Value)}
    {item : Key × Value} {earlier : List (Key × Value)}
    (isHeld :
      ∀ index address,
        held index address = standsAt slotOf tables earlier (index, address))
    {index : Index} {address : Address}
    (isSlot : slotOf earlier.length item = (index, address))
    (other : Index) (place : Address) :
    write held index address (some item) other place =
      standsAt slotOf tables (item :: earlier) (other, place) := by
  rw [standsAt, isSlot]
  rcases write_eq held index address (some item) other place with
    ⟨sameTable, samePlace, written⟩ | ⟨elsewhere, kept⟩
  · rw [written, sameTable, samePlace, if_pos rfl]
  · rw [kept, isHeld, if_neg]
    intro same
    obtain ⟨sameTable, samePlace⟩ := Prod.mk.inj same
    rcases elsewhere with notSame | notSame
    · exact notSame sameTable.symm
    · exact notSame samePlace.symm

end Chain

end Cuckoo
