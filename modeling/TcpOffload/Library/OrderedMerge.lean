import Mathlib.Data.List.Forall2
import Mathlib.Logic.Function.Basic

/-!
# Lanes merged in order

Requests are handed out to lanes, each of which answers its own ones in
order.  Another queue keeps the lanes in the order of the requests, and the
answers are merged by it: the next answer taken is that of the oldest request.
`known` is what relates an answer to its request.
-/

namespace OrderedMerge

universe u v w x

variable {Req : Type u} {Msg : Type v} {Rsp : Type w}
variable {message : Req → Msg} {known further : Req → Rsp → Prop}

/-- Of the requests of a lane the first ones are answered, and the others are
in its queue. -/
def Lane (message : Req → Msg) (known : Req → Rsp → Prop)
    (own : List Req) (queue : List Msg) (rsps : List Rsp) : Prop :=
  ∃ answered waiting,
    own = answered ++ waiting ∧ queue = waiting.map message ∧
      List.Forall₂ known answered rsps

namespace Lane

variable {own : List Req} {queue : List Msg} {rsps : List Rsp}

theorem nil : Lane message known [] [] [] :=
  ⟨[], [], rfl, rfl, List.Forall₂.nil⟩

theorem ask (lane : Lane message known own queue rsps) (req : Req) :
    Lane message known (own ++ [req]) (queue ++ [message req]) rsps := by
  obtain ⟨answered, waiting, split, queued, answers⟩ := lane
  refine ⟨answered, waiting ++ [req], ?_, ?_, answers⟩
  · rw [split, List.append_assoc]
  · rw [queued, List.map_append, List.map_singleton]

/-- The oldest message of the queue is that of a request of the lane, and is
answered. -/
theorem answer {msg : Msg}
    (lane : Lane message known own (msg :: queue) rsps) :
    ∃ req ∈ own, message req = msg ∧
      ∀ rsp, known req rsp →
        Lane message known own queue (rsps ++ [rsp]) := by
  obtain ⟨answered, waiting, split, queued, answers⟩ := lane
  cases waiting with
  | nil =>
      cases queued
  | cons req waiting =>
      obtain ⟨isMessage, rest⟩ := List.cons.inj queued
      refine ⟨req, ?_, isMessage.symm, fun rsp isKnown => ?_⟩
      · rw [split]
        exact List.mem_append_right _ List.mem_cons_self
      · refine ⟨answered ++ [req], waiting, ?_, rest, ?_⟩
        · rw [split, List.append_assoc]
          rfl
        · exact
            List.rel_append answers
              (List.Forall₂.cons isKnown List.Forall₂.nil)

/-- The oldest answer is that of the oldest request. -/
theorem take {req : Req} {rsp : Rsp}
    (lane : Lane message known (req :: own) queue (rsp :: rsps)) :
    known req rsp ∧ Lane message known own queue rsps := by
  obtain ⟨answered, waiting, split, queued, answers⟩ := lane
  cases answers with
  | cons isKnown later =>
      obtain ⟨rfl, rest⟩ := List.cons.inj split
      exact ⟨isKnown, _, waiting, rest, queued, later⟩

theorem mono (lane : Lane message known own queue rsps)
    (implies : ∀ req rsp, known req rsp → further req rsp) :
    Lane message further own queue rsps := by
  obtain ⟨answered, waiting, split, queued, answers⟩ := lane
  exact ⟨answered, waiting, split, queued, answers.imp implies⟩

/-- A request has its message in the queue or its answer behind it. -/
theorem own_eq_nil (lane : Lane message known own [] []) : own = [] := by
  obtain ⟨answered, waiting, split, queued, answers⟩ := lane
  cases answers with
  | nil =>
      rw [split, List.map_eq_nil_iff.1 queued.symm]
      rfl

end Lane

variable {Name : Type x} [DecidableEq Name] {name : Req → Name}

/-- The lanes of the requests that wait, and the queue that keeps their
order. -/
structure Merge (name : Req → Name) (message : Req → Msg)
    (known : Req → Rsp → Prop) (waiting : List Req) (order : List Name)
    (queue : Name → List Msg) (rsps : Name → List Rsp) : Prop where
  inOrder : order = waiting.map name
  lane :
    ∀ which,
      Lane message known (waiting.filter fun req => name req = which)
        (queue which) (rsps which)

namespace Merge

variable {waiting : List Req} {order : List Name}
variable {queue : Name → List Msg} {rsps : Name → List Rsp}

theorem nil :
    Merge name message known [] [] (fun _ => []) fun _ => [] where
  inOrder := rfl
  lane := fun _ => Lane.nil

theorem ask (merge : Merge name message known waiting order queue rsps)
    (req : Req) :
    Merge name message known (waiting ++ [req]) (order ++ [name req])
      (Function.update queue (name req)
        (queue (name req) ++ [message req]))
      rsps where
  inOrder := by
    rw [merge.inOrder, List.map_append, List.map_singleton]
  lane := by
    intro which
    by_cases isOwn : name req = which
    · subst isOwn
      rw [Function.update_self, List.filter_append,
        List.filter_singleton, decide_eq_true rfl]
      exact (merge.lane (name req)).ask req
    · rw [Function.update_of_ne (Ne.symm isOwn), List.filter_append,
        List.filter_singleton, decide_eq_false isOwn]
      change Lane _ _ (_ ++ []) _ _
      rw [List.append_nil]
      exact merge.lane which

theorem answer {which : Name} {msg : Msg} {later : List Msg}
    (merge : Merge name message known waiting order queue rsps)
    (queued : queue which = msg :: later) :
    ∃ req ∈ waiting, name req = which ∧ message req = msg ∧
      ∀ rsp, known req rsp →
        Merge name message known waiting order
          (Function.update queue which later)
          (Function.update rsps which (rsps which ++ [rsp])) := by
  have lane := merge.lane which
  rw [queued] at lane
  obtain ⟨req, member, isMessage, answered⟩ := lane.answer
  obtain ⟨waits, isOwn⟩ := List.mem_filter.1 member
  refine
    ⟨req, waits, of_decide_eq_true isOwn, isMessage,
      fun rsp isKnown => ⟨merge.inOrder, fun other => ?_⟩⟩
  by_cases same : other = which
  · rw [same, Function.update_self, Function.update_self]
    exact answered rsp isKnown
  · rw [Function.update_of_ne same, Function.update_of_ne same]
    exact merge.lane other

/-- The answer taken is that of the oldest request. -/
theorem take {which : Name} {later : List Name} {rsp : Rsp}
    {rest : List Rsp}
    (merge :
      Merge name message known waiting (which :: later) queue rsps)
    (isNext : rsps which = rsp :: rest) :
    ∃ req others,
      waiting = req :: others ∧ known req rsp ∧
        Merge name message known others later queue
          (Function.update rsps which rest) := by
  have inOrder := merge.inOrder
  cases waiting with
  | nil =>
      cases inOrder
  | cons req others =>
      obtain ⟨isOwn, behind⟩ := List.cons.inj inOrder
      have lane := merge.lane which
      rw [isNext, List.filter_cons,
        if_pos (decide_eq_true isOwn.symm)] at lane
      obtain ⟨isKnown, taken⟩ := lane.take
      refine ⟨req, others, rfl, isKnown, behind, fun other => ?_⟩
      by_cases same : other = which
      · rw [same, Function.update_self]
        exact taken
      · have others := merge.lane other
        have notOwn : ¬ name req = other :=
          fun isOther => same (isOther.symm.trans isOwn.symm)
        rw [List.filter_cons,
          if_neg (by rw [decide_eq_false notOwn]; exact Bool.false_ne_true)]
          at others
        rw [Function.update_of_ne same]
        exact others

theorem mono (merge : Merge name message known waiting order queue rsps)
    (implies : ∀ req rsp, known req rsp → further req rsp) :
    Merge name message further waiting order queue rsps where
  inOrder := merge.inOrder
  lane := fun which => (merge.lane which).mono implies

/-- The lane of the oldest request has its answer, or still has something to
answer. -/
theorem busy {which : Name} {later : List Name}
    (merge :
      Merge name message known waiting (which :: later) queue rsps) :
    rsps which ≠ [] ∨ queue which ≠ [] := by
  have inOrder := merge.inOrder
  cases waiting with
  | nil =>
      cases inOrder
  | cons req others =>
      obtain ⟨isOwn, _⟩ := List.cons.inj inOrder
      by_contra! idle
      have lane := merge.lane which
      rw [idle.1, idle.2, List.filter_cons,
        if_pos (decide_eq_true isOwn.symm)] at lane
      cases lane.own_eq_nil

end Merge

end OrderedMerge
