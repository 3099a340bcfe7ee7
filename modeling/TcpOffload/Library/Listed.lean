import Mathlib.Data.List.Perm.Basic
import Mathlib.Data.List.Nodup
import Mathlib.Logic.Function.Basic

/-!
# A finite map as a list of its entries

The entries of a map, kept in any order and each key once.  Where they are
spread over several queues and tables, an entry that moves from one to another
leaves the map alone.
-/

namespace Listed

universe u v

variable {Key : Type u} {Value : Type v}

/-- The list has the entries of the map, each key once. -/
structure Lists (entries : List (Key × Value))
    (map : Key → Option Value) : Prop where
  once : (entries.map Prod.fst).Nodup
  mem_iff : ∀ key value, (key, value) ∈ entries ↔ map key = some value

namespace Lists

variable {entries moved : List (Key × Value)} {map : Key → Option Value}

theorem nil : Lists ([] : List (Key × Value)) fun _ => none where
  once := List.nodup_nil
  mem_iff := by simp

theorem perm (lists : Lists entries map) (same : moved.Perm entries) :
    Lists moved map where
  once := (same.map Prod.fst).nodup_iff.2 lists.once
  mem_iff := fun key value =>
    same.mem_iff.trans (lists.mem_iff key value)

/-- A key without an entry is not in the map. -/
theorem eq_none (lists : Lists entries map) {key : Key}
    (missing : key ∉ entries.map Prod.fst) : map key = none := by
  cases known : map key with
  | none =>
      rfl
  | some value =>
      have member := (lists.mem_iff key value).2 known
      exact absurd (List.mem_map_of_mem member) missing

theorem eq_none_of_cons {key : Key} {value : Value}
    (lists : Lists ((key, value) :: entries) map) :
    key ∉ entries.map Prod.fst :=
  (List.nodup_cons.1 lists.once).1

variable [DecidableEq Key]

/-- A new entry. -/
theorem insert (lists : Lists entries map) {key : Key} (value : Value)
    (absent : map key = none) :
    Lists ((key, value) :: entries)
      (Function.update map key (some value)) where
  once := by
    refine List.nodup_cons.2 ⟨?_, lists.once⟩
    intro member
    obtain ⟨⟨_, other⟩, isEntry, rfl⟩ := List.mem_map.1 member
    have known := (lists.mem_iff _ other).1 isEntry
    rw [absent] at known
    cases known
  mem_iff := by
    intro other otherValue
    by_cases sameKey : other = key
    · subst sameKey
      have notThere : (other, otherValue) ∉ entries := by
        intro member
        have known := (lists.mem_iff _ _).1 member
        rw [absent] at known
        cases known
      simp [notThere, eq_comm]
    · rw [Function.update_of_ne sameKey, ← lists.mem_iff other otherValue]
      simp [sameKey]

/-- An entry leaves. -/
theorem remove {key : Key} {value : Value}
    (lists : Lists ((key, value) :: entries) map) :
    Lists entries (Function.update map key none) where
  once := (List.nodup_cons.1 lists.once).2
  mem_iff := by
    have missing := lists.eq_none_of_cons
    intro other otherValue
    by_cases sameKey : other = key
    · subst sameKey
      rw [Function.update_self]
      constructor
      · intro member
        exact absurd (List.mem_map_of_mem member) missing
      · intro known
        cases known
    · rw [Function.update_of_ne sameKey, ← lists.mem_iff other otherValue]
      simp [sameKey]

end Lists

end Listed
