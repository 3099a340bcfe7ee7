import Mathlib.Algebra.Order.Ring.Nat
import Mathlib.Data.List.Basic

/-!
# Tagged channels

A channel between two components, with a tag on every message that neither
component sees.  A component reads messages at the head of a channel; which
ones is told by what it leaves.
-/

namespace Tagged

universe u v w

variable {Tag : Type u} {Msg : Type v} {Rsp : Type w}

/-- The channel as the components see it. -/
def erase (channel : List (Tag × Msg)) : List Msg :=
  channel.map Prod.snd

/-- The messages read by a component that left `left`. -/
def taken (channel : List (Tag × Msg)) (left : List Msg) :
    List (Tag × Msg) :=
  channel.take (channel.length - left.length)

/-- The messages it did not read. -/
def unread (channel : List (Tag × Msg)) (left : List Msg) :
    List (Tag × Msg) :=
  channel.drop (channel.length - left.length)

/-- The tag of the message read, or else the one from before. -/
def readTag (before : Tag) (read : List (Tag × Msg)) : Tag :=
  match read with
  | (tag, _) :: _ => tag
  | [] => before

/-- Answers carry the tags of the requests read in the same call. -/
def answers (read : List (Tag × Msg)) (rsps : List Rsp) :
    List (Tag × Rsp) :=
  read.flatMap fun req => rsps.map fun rsp => (req.1, rsp)

/-- New messages, all with one tag. -/
def send (tag : Tag) (msgs : List Msg) : List (Tag × Msg) :=
  msgs.map fun msg => (tag, msg)

variable {channel : List (Tag × Msg)}

theorem taken_erase : taken channel (erase channel) = [] := by
  rw [taken, erase, List.length_map, Nat.sub_self, List.take_zero]

theorem unread_erase : unread channel (erase channel) = channel := by
  rw [unread, erase, List.length_map, Nat.sub_self, List.drop_zero]

@[simp]
theorem taken_nil (left : List Msg) :
    taken ([] : List (Tag × Msg)) left = [] :=
  List.take_nil

@[simp]
theorem unread_nil (left : List Msg) :
    unread ([] : List (Tag × Msg)) left = [] :=
  List.drop_nil

/-- One message read. -/
theorem of_erase_cons
    {msg : Msg} {left : List Msg}
    (read : erase channel = msg :: left) :
    ∃ tag rest,
      channel = (tag, msg) :: rest ∧
      taken channel left = [(tag, msg)] ∧
      unread channel left = rest := by
  cases channel with
  | nil =>
      cases read
  | cons first rest =>
      obtain ⟨tag, head⟩ := first
      obtain ⟨rfl, rfl⟩ := List.cons.inj read
      refine ⟨tag, rest, rfl, ?_, ?_⟩
      · rw [taken, List.length_cons, List.length_map,
          Nat.add_sub_cancel_left]
        rfl
      · rw [unread, List.length_cons, List.length_map,
          Nat.add_sub_cancel_left]
        rfl

theorem eq_nil_of_erase (none : erase channel = []) : channel = [] :=
  List.map_eq_nil_iff.1 none

@[simp]
theorem answers_nil (rsps : List Rsp) :
    answers ([] : List (Tag × Msg)) rsps = [] :=
  rfl

@[simp]
theorem answers_none (read : List (Tag × Msg)) :
    answers read ([] : List Rsp) = [] := by
  simp [answers]

theorem answers_one (req : Tag × Msg) (rsp : Rsp) :
    answers [req] [rsp] = [(req.1, rsp)] :=
  rfl

theorem mem_of_unread {left : List Msg} {message : Tag × Msg}
    (member : message ∈ unread channel left) : message ∈ channel :=
  List.mem_of_mem_drop member

theorem mem_send {tag : Tag} {msgs : List Msg} {message : Tag × Msg}
    (member : message ∈ send tag msgs) : message.2 ∈ msgs := by
  obtain ⟨msg, inMsgs, rfl⟩ := List.mem_map.1 member
  exact inMsgs

end Tagged
