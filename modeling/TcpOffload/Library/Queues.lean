import Mathlib.Data.List.Basic

/-!
# Queues that keep an order

A producer works through a list of items and writes one message for each; a
consumer works through the same list and reads one for each.  What is in the
queue and what is still to be written is then what is still to be read.
-/

namespace Queues

universe u v

variable {Item : Type u} {Msg : Type v} (message : Item → Msg)

/-- `queue` and the messages still to be written for `future` are the
messages still to be read for `rest`. -/
def Feeds (queue : List Msg) (future rest : List Item) : Prop :=
  queue ++ future.map message = rest.map message

variable {message} {queue : List Msg} {future rest : List Item}

namespace Feeds

theorem start (items : List Item) : Feeds message [] items items :=
  rfl

/-- A message that is read is the one for the next item. -/
theorem pop {msg : Msg}
    (feeds : Feeds message (msg :: queue) future rest) :
    ∃ item later,
      rest = item :: later ∧ msg = message item ∧
        Feeds message queue future later := by
  cases rest with
  | nil =>
      cases feeds
  | cons item later =>
      obtain ⟨same, behind⟩ := List.cons.inj feeds
      exact ⟨item, later, rfl, same, behind⟩

/-- Read for an item that is known to be the next one. -/
theorem popKnown {msg : Msg} {item : Item}
    (feeds : Feeds message (msg :: queue) future (item :: rest)) :
    msg = message item ∧ Feeds message queue future rest :=
  List.cons.inj feeds

theorem push {item : Item}
    (feeds : Feeds message queue (item :: future) rest) :
    Feeds message (queue ++ [message item]) future rest := by
  rw [Feeds, List.append_assoc]
  exact feeds

/-- More items come in at the end. -/
theorem extend (feeds : Feeds message queue future rest)
    (items : List Item) :
    Feeds message queue (future ++ items) (rest ++ items) := by
  rw [Feeds, List.map_append, ← List.append_assoc, List.map_append]
  exact congrArg (· ++ items.map message) feeds

/-- A new item comes in with its message. -/
theorem grow (feeds : Feeds message queue [] rest) (items : List Item) :
    Feeds message (queue ++ items.map message) [] (rest ++ items) := by
  rw [Feeds, List.map_nil, List.append_nil, List.map_append, ← feeds,
    List.map_nil, List.append_nil]

/-- The producer leaves out the items that fail the test. -/
theorem pushIf {test : Item → Bool} {item : Item}
    (feeds : Feeds message queue ((item :: future).filter test) rest) :
    Feeds message
      (queue ++ if test item then [message item] else [])
      (future.filter test) rest := by
  rw [List.filter_cons] at feeds
  split
  · rename_i passes
    rw [if_pos passes] at feeds
    exact feeds.push
  · rename_i fails
    rw [if_neg fails] at feeds
    rw [List.append_nil]
    exact feeds

theorem length (feeds : Feeds message queue future rest) :
    queue.length + future.length = rest.length := by
  have same := congrArg List.length feeds
  rwa [List.length_append, List.length_map, List.length_map] at same

/-- With nothing in the queue and nothing to be written, nothing is left to
be read. -/
theorem rest_eq_nil (feeds : Feeds message [] [] rest) : rest = [] :=
  List.map_eq_nil_iff.1 (Eq.symm feeds)

/-- With something to be read and nothing to be written, something is in the
queue. -/
theorem exists_cons {item : Item}
    (feeds : Feeds message queue [] (item :: rest)) :
    ∃ msg later, queue = msg :: later := by
  rw [Feeds, List.map_nil, List.append_nil, List.map_cons] at feeds
  exact ⟨_, _, feeds⟩

end Feeds

end Queues
