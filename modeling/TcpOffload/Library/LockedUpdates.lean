import TcpOffload.Library.LastingValue

/-!
# Updates under a lock

Clients of a store with a lock on each key, who ask and answer as in
`LastingValue`.  Each client has its own moves from one value to another.  If
what a client writes is a move from the answer that it took, or a move from
every value, then each change of the table is a move of some client, in
whatever order the requests are served.
-/

namespace KeyedLock

open Lookup

universe u v w

variable {Client : Type u} {Key : Type v} {Value : Type w}

namespace Request

/-- A write of what every value may move to. -/
def Sets (move : Value → Value → Prop) : Request Key Value → Prop
  | .read _ => False
  | .write _ value => ∀ old, move old value

/-- A write of the locked key that moves its value. -/
def Moves
    (move : Value → Value → Prop) (table : Key → Value)
    (held : Option Key) : Request Key Value → Prop
  | .read _ => False
  | .write key value => held = some key ∧ move (table key) value

end Request

theorem written_of_ne [DecidableEq Key]
    {table : Key → Value} {request : Request Key Value} {key : Key}
    (isOther : key ≠ request.key) :
    written table request key = table key := by
  cases request with
  | read other =>
      rfl
  | write other value =>
      exact Function.update_of_ne isOther value table

/-- The writes of one client on their way.  The first may need the lock, no
other does. -/
inductive Updates
    (move : Value → Value → Prop) (table : Key → Value)
    (held : Option Key) : List (Request Key Value) → Prop
  | sets {writes : List (Request Key Value)} :
      (∀ request ∈ writes, request.Sets move) →
      Updates move table held writes
  | moves {request : Request Key Value}
      {later : List (Request Key Value)} :
      request.Moves move table held →
      (∀ further ∈ later, further.Sets move) →
      Updates move table held (request :: later)

namespace Updates

variable {move : Value → Value → Prop}
variable {table further : Key → Value} {held heldLater : Option Key}
variable {writes : List (Request Key Value)}
variable {request : Request Key Value}

theorem nil : Updates move table held [] :=
  sets fun _ member => by cases member

/-- Only the value of the locked key matters. -/
theorem map
    (known : Updates move table held writes)
    (agree : ∀ key, held = some key → further key = table key) :
    Updates move further held writes := by
  cases known with
  | sets allSet =>
      exact sets allSet
  | @moves request later moved behind =>
      refine moves ?_ behind
      cases request with
      | read key =>
          exact moved
      | write key value =>
          refine ⟨moved.1, ?_⟩
          rw [agree key moved.1]
          exact moved.2

theorem of_cons (known : Updates move table held (request :: writes)) :
    (request.Sets move ∨ request.Moves move table held) ∧
      ∀ other ∈ writes, other.Sets move := by
  cases known with
  | sets allSet =>
      exact
        ⟨Or.inl (allSet request List.mem_cons_self), fun other member =>
          allSet other (List.mem_cons_of_mem request member)⟩
  | moves moved behind =>
      exact ⟨Or.inr moved, behind⟩

theorem served (known : Updates move table held (request :: writes)) :
    Updates move further heldLater writes :=
  sets known.of_cons.2

theorem append
    (known : Updates move table held writes)
    (isSet : request.Sets move) :
    Updates move table held (writes ++ [request]) := by
  have allSet {requests : List (Request Key Value)}
      (before : ∀ other ∈ requests, other.Sets move) :
      ∀ other ∈ requests ++ [request], other.Sets move := by
    intro other member
    rcases List.mem_append.1 member with earlier | last
    · exact before other earlier
    · rw [List.mem_singleton.1 last]
      exact isSet
  cases known with
  | sets before =>
      exact sets (allSet before)
  | moves moved behind =>
      exact moves moved (allSet behind)

theorem not_read {key : Key}
    (known : Updates move table held writes) :
    Request.read key ∉ writes := by
  intro member
  cases known with
  | sets allSet =>
      exact allSet _ member
  | @moves request later moved behind =>
      rcases List.mem_cons.1 member with isFirst | isLater
      · rw [← isFirst] at moved
        exact moved
      · exact behind _ isLater

end Updates

namespace Asking

/-- An answer is the value of the key asked for, with the lock on it. -/
structure Current
    (asking : Asking Client Key Value) (client : Client) (rsp : Value) :
    Prop where
  held : asking.holder client = some (asking.asked client)
  isValue : rsp = asking.table (asking.asked client)

structure Coherent
    (move : Client → Value → Value → Prop)
    (asking : Asking Client Key Value) : Prop where
  exclusive :
    ∀ client other key,
      asking.holder client = some key →
        asking.holder other = some key → client = other
  phase :
    ∀ client,
      Phase
        (Updates (move client) asking.table (asking.holder client))
        (asking.Current client) (.read (asking.asked client))
        (asking.asks client) (asking.rsps client) (asking.waiting client)

/-- What clients and store do: a client answers with a move from what it was
told, or not at all. -/
inductive Step [DecidableEq Client] [DecidableEq Key]
    (move : Client → Value → Value → Prop)
    (asking : Asking Client Key Value) :
    Asking Client Key Value → Prop
  | same : Step move asking asking
  | ask {client : Client} (wanted : Key) :
      asking.asks client = false →
      Step move asking (asking.ask client wanted)
  | reply {client : Client} {rsp : Value} {later : List Value}
      {writes : List (Request Key Value)} :
      asking.rsps client = rsp :: later →
      (writes = [] ∨
        ∃ value,
          writes = [.write (asking.asked client) value] ∧
            move client rsp value) →
      Step move asking (asking.reply client writes)
  | send {client : Client} {request : Request Key Value} :
      asking.asks client = false →
      request.Sets (move client) →
      Step move asking (asking.send client request)
  | serve {client : Client} {request : Request Key Value}
      {later : List (Request Key Value)} :
      asking.waiting client = request :: later →
      (∀ other, other ≠ client →
        asking.holder other ≠ some request.key) →
      Step move asking (asking.serve client request later)

namespace Coherent

variable {move : Client → Value → Value → Prop}
variable {asking : Asking Client Key Value} {client : Client}

/-- Nobody has asked for anything yet. -/
theorem start
    (holder : ∀ client, asking.holder client = none)
    (asks : ∀ client, asking.asks client = false)
    (rsps : ∀ client, asking.rsps client = [])
    (waiting : ∀ client, asking.waiting client = []) :
    Coherent move asking where
  exclusive := by
    intro client other key held
    rw [holder] at held
    cases held
  phase := by
    intro client
    rw [asks, rsps, waiting]
    exact Phase.idle Updates.nil

/-- What a client's oldest request does to the table. -/
theorem written_moves [DecidableEq Key]
    (coherent : Coherent move asking)
    {request : Request Key Value} {later : List (Request Key Value)}
    (oldest : asking.waiting client = request :: later) (key : Key) :
    written asking.table request key = asking.table key ∨
      request = .write key (written asking.table request key) ∧
        move client (asking.table key)
          (written asking.table request key) := by
  cases request with
  | read wanted =>
      exact Or.inl rfl
  | write wanted value =>
      by_cases isKey : key = wanted
      · right
        have phase := coherent.phase client
        rw [oldest] at phase
        obtain ⟨writes, known⟩ := phase.of_write (by rintro ⟨⟩)
        have isValue :
            written asking.table (.write wanted value) wanted = value := by
          rw [written, Function.update_self]
        rw [isKey, isValue]
        refine ⟨rfl, ?_⟩
        rcases known.of_cons.1 with isSet | moved
        · exact isSet _
        · exact moved.2
      · exact Or.inl (written_of_ne isKey)

variable [DecidableEq Client]

theorem ask (coherent : Coherent move asking)
    (notAsked : asking.asks client = false) (wanted : Key) :
    Coherent move (asking.ask client wanted) where
  exclusive := coherent.exclusive
  phase := by
    intro other
    by_cases isClient : other = client
    · have phase := coherent.phase client
      rw [notAsked] at phase
      obtain ⟨noRsps, known⟩ := phase.of_idle
      rw [isClient, Asking.ask]
      simp only []
      rw [Function.update_self, Function.update_self,
        Function.update_self, noRsps]
      exact Phase.asked known
    · have phase := coherent.phase other
      rw [Asking.ask]
      simp only []
      rw [Function.update_of_ne isClient, Function.update_of_ne isClient,
        Function.update_of_ne isClient]
      refine phase.map (fun _ known => known) fun rsp current => ?_
      refine ⟨?_, ?_⟩
      · change
          asking.holder other =
            some (Function.update asking.asked client wanted other)
        rw [Function.update_of_ne isClient]
        exact current.held
      · change
          rsp =
            asking.table
              (Function.update asking.asked client wanted other)
        rw [Function.update_of_ne isClient]
        exact current.isValue

theorem send (coherent : Coherent move asking)
    (notAsked : asking.asks client = false)
    {request : Request Key Value} (isSet : request.Sets (move client)) :
    Coherent move (asking.send client request) where
  exclusive := coherent.exclusive
  phase := by
    intro other
    rw [Asking.send]
    simp only []
    by_cases isClient : other = client
    · have phase := coherent.phase client
      rw [notAsked] at phase
      obtain ⟨noRsps, known⟩ := phase.of_idle
      rw [isClient, Function.update_self, notAsked, noRsps]
      exact Phase.idle (known.append isSet)
    · rw [Function.update_of_ne isClient]
      exact
        (coherent.phase other).map (fun _ known => known)
          fun _ current => ⟨current.held, current.isValue⟩

theorem reply (coherent : Coherent move asking)
    {rsp : Value} {later : List Value}
    (rsps : asking.rsps client = rsp :: later)
    {writes : List (Request Key Value)}
    (ownWrites :
      writes = [] ∨
        ∃ value,
          writes = [.write (asking.asked client) value] ∧
            move client rsp value) :
    Coherent move (asking.reply client writes) where
  exclusive := coherent.exclusive
  phase := by
    intro other
    rw [Asking.reply]
    simp only []
    by_cases isClient : other = client
    · have phase := coherent.phase client
      rw [rsps] at phase
      obtain ⟨-, current, noLater, noWaiting⟩ := phase.of_answered
      rw [isClient, Function.update_self, Function.update_self,
        Function.update_self, noWaiting, rsps, noLater]
      refine Phase.idle ?_
      rcases ownWrites with none | ⟨value, one, moved⟩
      · rw [none]
        exact Updates.nil
      · rw [one]
        refine Updates.moves ⟨current.held, ?_⟩ fun _ member => ?_
        · rw [← current.isValue]
          exact moved
        · cases member
    · rw [Function.update_of_ne isClient, Function.update_of_ne isClient,
        Function.update_of_ne isClient]
      exact
        (coherent.phase other).map (fun _ known => known)
          fun _ current => ⟨current.held, current.isValue⟩

variable [DecidableEq Key]

theorem served_phase (coherent : Coherent move asking)
    {request : Request Key Value} {later : List (Request Key Value)}
    (oldest : asking.waiting client = request :: later) :
    Phase
      (Updates (move client) (written asking.table request) request.locks)
      ((asking.serve client request later).Current client)
      (.read (asking.asked client)) (asking.asks client)
      (asking.rsps client ++ answer asking.table request) later := by
  have phase := coherent.phase client
  rw [oldest] at phase
  cases request with
  | write wanted value =>
      rw [answer, List.append_nil]
      exact phase.serveWrite (by rintro ⟨⟩) fun _ known => known.served
  | read wanted =>
      obtain ⟨isAsked, asks, noRsps, noLater, -⟩ :=
        phase.of_lookup fun _ known => known.not_read
      cases isAsked
      rw [asks, noRsps, noLater]
      refine Phase.answered ⟨?_, rfl⟩
      rw [Asking.serve]
      simp only []
      rw [Function.update_self]
      rfl

/-- The store serves a client's oldest request, whose key nobody else has
locked. -/
theorem serve (coherent : Coherent move asking)
    {request : Request Key Value} {later : List (Request Key Value)}
    (oldest : asking.waiting client = request :: later)
    (free :
      ∀ other, other ≠ client → asking.holder other ≠ some request.key) :
    Coherent move (asking.serve client request later) where
  exclusive := by
    have onlyClient {other : Client} {key : Key} (isOther : other ≠ client)
        (held : asking.holder other = some key) :
        request.locks ≠ some key := by
      intro locked
      cases request with
      | read wanted =>
          cases locked
          exact free other isOther held
      | write wanted value =>
          cases locked
    intro first second key
    rw [Asking.serve]
    simp only []
    by_cases isFirst : first = client
    · by_cases isSecond : second = client
      · exact fun _ _ => isFirst.trans isSecond.symm
      · rw [isFirst, Function.update_self, Function.update_of_ne isSecond]
        exact fun locked held => absurd locked (onlyClient isSecond held)
    · by_cases isSecond : second = client
      · rw [isSecond, Function.update_self, Function.update_of_ne isFirst]
        exact fun held locked => absurd locked (onlyClient isFirst held)
      · rw [Function.update_of_ne isFirst, Function.update_of_ne isSecond]
        exact coherent.exclusive first second key
  phase := by
    intro other
    by_cases isClient : other = client
    · rw [isClient]
      have phase := coherent.served_phase oldest
      rw [Asking.serve] at phase ⊢
      simp only [] at phase ⊢
      rw [Function.update_self, Function.update_self, Function.update_self]
      exact phase
    · have agree (key : Key) (held : asking.holder other = some key) :
          written asking.table request key = asking.table key := by
        apply written_of_ne
        rintro rfl
        exact free other isClient held
      rw [Asking.serve]
      simp only []
      rw [Function.update_of_ne isClient, Function.update_of_ne isClient,
        Function.update_of_ne isClient]
      refine
        (coherent.phase other).map (fun _ known => known.map agree)
          fun rsp current => ⟨?_, ?_⟩
      · exact (Function.update_of_ne isClient _ _).trans current.held
      · exact current.isValue.trans (agree _ current.held).symm

theorem step {next : Asking Client Key Value}
    (coherent : Coherent move asking) (stepped : Step move asking next) :
    Coherent move next := by
  cases stepped with
  | same =>
      exact coherent
  | ask wanted notAsked =>
      exact coherent.ask notAsked wanted
  | reply rsps ownWrites =>
      exact coherent.reply rsps ownWrites
  | send notAsked isSet =>
      exact coherent.send notAsked isSet
  | serve oldest free =>
      exact coherent.serve oldest free

/-- A step leaves a key alone, or it serves the write of some client, who
moves the value. -/
theorem step_moves {next : Asking Client Key Value}
    (coherent : Coherent move asking) (stepped : Step move asking next)
    (key : Key) :
    next.table key = asking.table key ∨
      ∃ client later,
        asking.waiting client = .write key (next.table key) :: later ∧
          next.waiting client = later ∧
          move client (asking.table key) (next.table key) := by
  cases stepped with
  | same | ask | reply | send =>
      exact Or.inl rfl
  | @serve client request later oldest _ =>
      refine (coherent.written_moves oldest key).imp_right ?_
      rintro ⟨isWrite, moved⟩
      refine ⟨client, later, ?_, Function.update_self _ _ _, moved⟩
      rw [oldest]
      exact congrArg (· :: later) isWrite

end Coherent

end Asking

end KeyedLock
