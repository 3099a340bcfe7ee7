import Mathlib.Logic.Function.Basic

/-!
# Cuckoo tables

Several tables of entries, and for each key one position in each table.  An
entry is kept at one of the positions of its key.  This module says when such
tables hold a finite map, and what a write at one position makes of it: a
free position takes a new entry, an entry in the way is put out, and a
position that is freed takes its entry out of the map.
-/

namespace Cuckoo

universe u v w x

variable {Index : Type u} {Address : Type v} {Key : Type w} {Value : Type x}

/-- The tables hold the map: an entry is at a position of its key and is an
entry of the map, and each key of the map has exactly one entry. -/
structure Holds (hash : Key → Index → Address)
    (tables : Index → Address → Option (Key × Value))
    (map : Key → Option Value) : Prop where
  placed :
    ∀ {index address key value},
      tables index address = some (key, value) → hash key index = address
  entry :
    ∀ {index address key value},
      tables index address = some (key, value) → map key = some value
  stored :
    ∀ {key value},
      map key = some value →
        ∃ index, tables index (hash key index) = some (key, value)
  once :
    ∀ {key first second value other},
      tables first (hash key first) = some (key, value) →
        tables second (hash key second) = some (key, other) →
          first = second

variable {hash : Key → Index → Address}
variable {tables : Index → Address → Option (Key × Value)}
variable {map : Key → Option Value}

/-- Tables without entries hold the map without keys. -/
theorem Holds.empty :
    Holds hash (fun _ _ => none : Index → Address → Option (Key × Value))
      (fun _ => none) where
  placed := by simp
  entry := by simp
  stored := by simp
  once := by simp

/-- A key is in the map exactly if it is found at one of its positions. -/
theorem Holds.lookUp (holds : Holds hash tables map) (key : Key) :
    (∃ index value, tables index (hash key index) = some (key, value)) ↔
      (map key).isSome = true := by
  rw [Option.isSome_iff_exists]
  constructor
  · rintro ⟨index, value, here⟩
    exact ⟨value, holds.entry here⟩
  · rintro ⟨value, known⟩
    obtain ⟨index, here⟩ := holds.stored known
    exact ⟨index, value, here⟩

section Carries

variable [DecidableEq Key]

/-- The tables hold the map but for one entry, which is still to be placed.
-/
structure Carries (hash : Key → Index → Address)
    (tables : Index → Address → Option (Key × Value))
    (map : Key → Option Value) (key : Key) (value : Value) : Prop where
  holds : Holds hash tables (Function.update map key none)
  carried : map key = some value

theorem Carries.of_absent (holds : Holds hash tables map) {key : Key}
    (value : Value) (absent : map key = none) :
    Carries hash tables (Function.update map key (some value)) key value where
  holds := by
    rwa [Function.update_idem, ← absent, Function.update_eq_self]
  carried := Function.update_self _ _ _

end Carries

variable [DecidableEq Index] [DecidableEq Address]

/-- One position of one table is written. -/
def write (tables : Index → Address → Option (Key × Value)) (index : Index)
    (address : Address) (item : Option (Key × Value)) :
    Index → Address → Option (Key × Value) :=
  Function.update tables index
    (Function.update (tables index) address item)

@[simp]
theorem write_here (index : Index) (address : Address)
    (item : Option (Key × Value)) :
    write tables index address item index address = item := by
  simp [write]

theorem write_other {index : Index} {address : Address}
    {item : Option (Key × Value)} {other : Index} {place : Address}
    (elsewhere : other ≠ index ∨ place ≠ address) :
    write tables index address item other place = tables other place := by
  unfold write
  by_cases sameTable : other = index
  · subst sameTable
    have otherPlace : place ≠ address := by
      simpa using elsewhere
    simp [Function.update_of_ne otherPlace]
  · rw [Function.update_of_ne sameTable]

/-- What a written table holds at a position. -/
theorem write_eq
    (tables : Index → Address → Option (Key × Value)) (index : Index)
    (address : Address) (item : Option (Key × Value)) (other : Index)
    (place : Address) :
    other = index ∧ place = address ∧
        write tables index address item other place = item ∨
      (other ≠ index ∨ place ≠ address) ∧
        write tables index address item other place =
          tables other place := by
  by_cases sameTable : other = index
  · by_cases samePlace : place = address
    · subst sameTable samePlace
      exact Or.inl ⟨rfl, rfl, write_here other place item⟩
    · exact Or.inr ⟨Or.inr samePlace, write_other (Or.inr samePlace)⟩
  · exact Or.inr ⟨Or.inl sameTable, write_other (Or.inl sameTable)⟩

variable [DecidableEq Key]

/-- A position of a key that is freed takes its key out of the map, if the
entry there was that of the key. -/
theorem Holds.free (holds : Holds hash tables map) {key : Key}
    {value : Value} {index : Index}
    (here : tables index (hash key index) = some (key, value)) :
    Holds hash (write tables index (hash key index) none)
      (Function.update map key none) where
  placed := by
    intro other place otherKey otherValue known
    rcases write_eq tables index (hash key index) none other
        place with ⟨_, _, freed⟩ | ⟨_, kept⟩
    · rw [freed] at known
      cases known
    · exact holds.placed (kept.symm.trans known)
  entry := by
    intro other place otherKey otherValue known
    rcases write_eq tables index (hash key index) none other
        place with ⟨_, _, freed⟩ | ⟨elsewhere, kept⟩
    · rw [freed] at known
      cases known
    · have old : tables other place = some (otherKey, otherValue) :=
        kept.symm.trans known
      have otherThanKey : otherKey ≠ key := by
        rintro rfl
        have sameTable : other = index :=
          holds.once ((holds.placed old).symm ▸ old) here
        subst sameTable
        rcases elsewhere with notSame | notSame
        · exact notSame rfl
        · exact notSame (holds.placed old).symm
      rw [Function.update_of_ne otherThanKey]
      exact holds.entry old
  stored := by
    intro otherKey otherValue known
    have otherThanKey : otherKey ≠ key := by
      rintro rfl
      simp at known
    rw [Function.update_of_ne otherThanKey] at known
    obtain ⟨other, old⟩ := holds.stored known
    refine ⟨other, ?_⟩
    rcases write_eq tables index (hash key index) none other
        (hash otherKey other) with ⟨sameTable, samePlace, _⟩ | ⟨_, kept⟩
    · subst sameTable
      rw [samePlace, here] at old
      cases old
      exact absurd rfl otherThanKey
    · exact kept.trans old
  once := by
    intro otherKey first second firstValue secondValue atFirst atSecond
    rcases write_eq tables index (hash key index) none first
        (hash otherKey first) with ⟨_, _, freed⟩ | ⟨_, firstKept⟩
    · rw [freed] at atFirst
      cases atFirst
    · rcases write_eq tables index (hash key index) none second
          (hash otherKey second) with ⟨_, _, freed⟩ | ⟨_, secondKept⟩
      · rw [freed] at atSecond
        cases atSecond
      · exact
          holds.once (firstKept.symm.trans atFirst)
            (secondKept.symm.trans atSecond)

/-- A free position of a key takes its entry. -/
theorem Holds.place (holds : Holds hash tables map) {key : Key}
    {index : Index} (value : Value) (absent : map key = none)
    (vacant : tables index (hash key index) = none) :
    Holds hash (write tables index (hash key index) (some (key, value)))
      (Function.update map key (some value)) where
  placed := by
    intro other place otherKey otherValue known
    rcases write_eq tables index (hash key index)
        (some (key, value)) other place with
      ⟨sameTable, samePlace, written⟩ | ⟨_, kept⟩
    · rw [written] at known
      cases known
      rw [sameTable, samePlace]
    · exact holds.placed (kept.symm.trans known)
  entry := by
    intro other place otherKey otherValue known
    rcases write_eq tables index (hash key index)
        (some (key, value)) other place with
      ⟨_, _, written⟩ | ⟨_, kept⟩
    · rw [written] at known
      cases known
      exact Function.update_self _ _ _
    · have old : map otherKey = some otherValue :=
        holds.entry (kept.symm.trans known)
      have otherThanKey : otherKey ≠ key := by
        rintro rfl
        rw [absent] at old
        cases old
      rw [Function.update_of_ne otherThanKey]
      exact old
  stored := by
    intro otherKey otherValue known
    by_cases sameKey : otherKey = key
    · subst sameKey
      rw [Function.update_self] at known
      cases known
      exact ⟨index, write_here _ _ _⟩
    · rw [Function.update_of_ne sameKey] at known
      obtain ⟨other, old⟩ := holds.stored known
      refine ⟨other, ?_⟩
      rcases write_eq tables index (hash key index)
          (some (key, value)) other (hash otherKey other) with
        ⟨sameTable, samePlace, _⟩ | ⟨_, kept⟩
      · subst sameTable
        rw [samePlace, vacant] at old
        cases old
      · exact kept.trans old
  once := by
    have isNew {other : Index} {otherValue : Value}
        (known :
          tables other (hash key other) = some (key, otherValue)) : False := by
      have old : map key = some otherValue := holds.entry known
      rw [absent] at old
      cases old
    intro otherKey first second firstValue secondValue atFirst atSecond
    rcases write_eq tables index (hash key index)
        (some (key, value)) first (hash otherKey first) with
      ⟨firstTable, _, firstWritten⟩ | ⟨_, firstKept⟩
    · rw [firstWritten] at atFirst
      cases atFirst
      rcases write_eq tables index (hash key index)
          (some (key, value)) second (hash key second) with
        ⟨secondTable, _, _⟩ | ⟨_, secondKept⟩
      · exact firstTable.trans secondTable.symm
      · exact (isNew (secondKept.symm.trans atSecond)).elim
    · rcases write_eq tables index (hash key index)
          (some (key, value)) second (hash otherKey second) with
        ⟨_, _, secondWritten⟩ | ⟨_, secondKept⟩
      · rw [secondWritten] at atSecond
        cases atSecond
        exact (isNew (firstKept.symm.trans atFirst)).elim
      · exact
          holds.once (firstKept.symm.trans atFirst)
            (secondKept.symm.trans atSecond)

/-- A position that is taken gets a new entry, and the map loses the key of
the entry that was there. -/
theorem Holds.evict (holds : Holds hash tables map) {key victim : Key}
    {index : Index} (value : Value) {victimValue : Value}
    (absent : map key = none)
    (taken :
      tables index (hash key index) = some (victim, victimValue)) :
    Holds hash (write tables index (hash key index) (some (key, value)))
      (Function.update (Function.update map victim none) key
        (some value)) := by
  have samePlace : hash victim index = hash key index := holds.placed taken
  have freed :
      Holds hash (write tables index (hash key index) none)
        (Function.update map victim none) := by
    rw [← samePlace] at taken ⊢
    exact holds.free taken
  have twice :
      write (write tables index (hash key index) none) index
          (hash key index) (some (key, value)) =
        write tables index (hash key index) (some (key, value)) := by
    simp [write]
  rw [← twice]
  refine freed.place value ?_ (write_here _ _ _)
  by_cases sameKey : key = victim
  · rw [sameKey, Function.update_self]
  · rw [Function.update_of_ne sameKey, absent]

/-- The entry is placed. -/
theorem Carries.place {key : Key} {value : Value}
    (carries : Carries hash tables map key value) {index : Index}
    (vacant : tables index (hash key index) = none) :
    Holds hash (write tables index (hash key index) (some (key, value)))
      map := by
  have placed :=
    carries.holds.place value (Function.update_self _ _ _) vacant
  rwa [Function.update_idem, ← carries.carried,
    Function.update_eq_self] at placed

/-- The entry is exchanged for the one in its way. -/
theorem Carries.evict {key victim : Key} {value victimValue : Value}
    (carries : Carries hash tables map key value) {index : Index}
    (taken :
      tables index (hash key index) = some (victim, victimValue)) :
    Carries hash (write tables index (hash key index) (some (key, value)))
      map victim victimValue := by
  have known := carries.holds.entry taken
  have otherKey : victim ≠ key := by
    rintro rfl
    simp at known
  rw [Function.update_of_ne otherKey] at known
  have evicted :=
    carries.holds.evict value (Function.update_self _ _ _) taken
  rw [Function.update_comm otherKey.symm, Function.update_idem,
    ← Function.update_of_ne otherKey.symm none map |>.trans carries.carried,
    Function.update_eq_self] at evicted
  exact ⟨evicted, known⟩

end Cuckoo
