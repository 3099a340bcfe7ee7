import Mathlib.Data.List.Nodup
import Mathlib.Logic.Function.Basic

/-!
# Storing lists of cells

A store is a function from addresses to cells.  Storing a list of cells at a
list of addresses is what a transfer does: the addresses are given in order
and need not be neighbours.
-/

namespace CellStore

universe u v w

variable {Address : Type u} {Position : Type v} {Cell : Type w}
variable [DecidableEq Address] [DecidableEq Position]

/-- Each cell goes to the address at its place. -/
def store (memory : Address → Cell) :
    List Address → List Cell → Address → Cell
  | address :: addresses, cell :: cells =>
      store (Function.update memory address cell) addresses cells
  | _, _ => memory

variable {memory : Address → Cell}
variable {addresses others : List Address} {cells : List Cell}

theorem store_of_notMem {address : Address}
    (outside : address ∉ addresses) :
    store memory addresses cells address = memory address := by
  induction addresses generalizing memory cells with
  | nil =>
      rfl
  | cons first later inductionHypothesis =>
      cases cells with
      | nil =>
          rfl
      | cons cell cells =>
          rw [store, inductionHypothesis
            fun member => outside (List.mem_cons_of_mem first member)]
          refine Function.update_of_ne ?_ cell memory
          rintro rfl
          exact outside List.mem_cons_self

/-- An address depends on nothing but its own cell. -/
theorem store_congr
    {other : Address → Cell} {address : Address}
    (same : memory address = other address) :
    store memory addresses cells address =
      store other addresses cells address := by
  induction addresses generalizing memory other cells with
  | nil =>
      exact same
  | cons first later inductionHypothesis =>
      cases cells with
      | nil =>
          exact same
      | cons cell cells =>
          apply inductionHypothesis
          by_cases isFirst : address = first
          · rw [isFirst, Function.update_self, Function.update_self]
          · rw [Function.update_of_ne isFirst,
              Function.update_of_ne isFirst]
            exact same

/-- What was stored is there. -/
theorem map_store
    (once : addresses.Nodup) (fits : addresses.length = cells.length) :
    addresses.map (store memory addresses cells) = cells := by
  induction addresses generalizing memory cells with
  | nil =>
      exact (List.length_eq_zero_iff.1 fits.symm).symm
  | cons first later inductionHypothesis =>
      obtain ⟨notLater, onceLater⟩ := List.nodup_cons.1 once
      cases cells with
      | nil =>
          cases fits
      | cons cell cells =>
          rw [List.map_cons, store, store_of_notMem notLater,
            Function.update_self,
            inductionHypothesis onceLater (Nat.succ.inj fits)]

/-- What is elsewhere stays. -/
theorem map_store_of_disjoint (apart : others.Disjoint addresses) :
    others.map (store memory addresses cells) = others.map memory :=
  List.map_congr_left fun _ member => store_of_notMem (apart member)

theorem store_append
    {laterCells : List Cell} (fits : addresses.length = cells.length) :
    store memory (addresses ++ others) (cells ++ laterCells) =
      store (store memory addresses cells) others laterCells := by
  induction addresses generalizing memory cells with
  | nil =>
      rw [List.length_eq_zero_iff.1 fits.symm]
      rfl
  | cons first later inductionHypothesis =>
      cases cells with
      | nil =>
          cases fits
      | cons cell cells =>
          exact inductionHypothesis (Nat.succ.inj fits)

/-- Storing at the images of positions stores at the positions. -/
theorem store_map
    {place : Position → Address} (injective : Function.Injective place)
    {positions : List Position} (position : Position) :
    store memory (positions.map place) cells (place position) =
      store (memory ∘ place) positions cells position := by
  induction positions generalizing memory cells with
  | nil =>
      rfl
  | cons first later inductionHypothesis =>
      cases cells with
      | nil =>
          rfl
      | cons cell cells =>
          rw [List.map_cons, store, store, inductionHypothesis,
            Function.update_comp_eq_of_injective memory injective]

/-- Several transfers, one after the other. -/
def storeAll (memory : Address → Cell) :
    List (List Address) → List (List Cell) → Address → Cell
  | addresses :: laterAddresses, cells :: laterCells =>
      storeAll (store memory addresses cells) laterAddresses laterCells
  | _, _ => memory

/-- They store what one transfer of everything would. -/
theorem storeAll_eq_store
    {lists : List (List Address)} {chunks : List (List Cell)}
    (fit : lists.map List.length = chunks.map List.length) :
    storeAll memory lists chunks =
      store memory lists.flatten chunks.flatten := by
  induction lists generalizing memory chunks with
  | nil =>
      rfl
  | cons addresses lists inductionHypothesis =>
      cases chunks with
      | nil =>
          cases fit
      | cons cells chunks =>
          obtain ⟨fits, laterFit⟩ := List.cons.inj fit
          rw [storeAll, inductionHypothesis laterFit, List.flatten_cons,
            List.flatten_cons, store_append fits]

end CellStore
