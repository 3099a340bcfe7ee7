import TcpOffload.Library.KeyedLock
import TcpOffload.Library.Lookup

/-!
# A value that lasts

Clients of a store with a lock on each key.  A client asks for a key, waits
for the answer, and may then write the key that it asked for; what it writes
without having asked has a lasting value.  From the time that a client turns
the key to a lasting value, and while the clients make lasting values of
lasting ones, everyone who asks for the key gets a lasting value, in whatever
order the requests are served.
-/

namespace KeyedLock

open Lookup

universe u v w

variable {Client : Type u} {Key : Type v} {Value : Type w}

namespace Request

def IsWrite : Request Key Value → Prop
  | .read _ => False
  | .write _ _ => True

/-- The request leaves the key with a lasting value, if it writes it. -/
def Lasts (key : Key) (lasting : Value → Prop) :
    Request Key Value → Prop
  | .read _ => True
  | .write other value => other = key → lasting value

end Request

/-- The writes of one client on their way.  The first may have any value, as
long as the client has the key locked and the key is not turned. -/
structure Pending
    (key : Key) (lasting : Value → Prop) (turned holds : Prop)
    (writes : List (Request Key Value)) : Prop where
  areWrites : ∀ request ∈ writes, request.IsWrite
  behind : ∀ request ∈ writes.tail, request.Lasts key lasting
  all : turned ∨ ¬holds → ∀ request ∈ writes, request.Lasts key lasting

/-- An answer about the key comes with its lock. -/
def Answered
    (key : Key) (lasting : Value → Prop) (turned holds : Prop)
    (asked : Key) (rsp : Value) : Prop :=
  asked = key → holds ∧ (turned → lasting rsp)

namespace Pending

variable {key : Key} {lasting : Value → Prop}
variable {turned holds turnedLater holdsLater : Prop}
variable {writes : List (Request Key Value)}

theorem nil :
    Pending key lasting turned holds ([] : List (Request Key Value)) where
  areWrites := fun _ member => by cases member
  behind := fun _ member => by cases member
  all := fun _ _ member => by cases member

theorem map
    (known : Pending key lasting turned holds writes)
    (turns : holds → turnedLater → turned) :
    Pending key lasting turnedLater holds writes := by
  refine ⟨known.areWrites, known.behind, fun needed request member => ?_⟩
  rcases needed with isTurned | notHeld
  · by_cases held : holds
    · exact known.all (Or.inl (turns held isTurned)) request member
    · exact known.all (Or.inr held) request member
  · exact known.all (Or.inr notHeld) request member

/-- Behind its first write a client needs no lock. -/
theorem served {request : Request Key Value}
    (known : Pending key lasting turned holds (request :: writes)) :
    Pending key lasting turned holdsLater writes where
  areWrites := fun other member =>
    known.areWrites other (List.mem_cons_of_mem _ member)
  behind := fun other member =>
    known.behind other (List.mem_of_mem_tail member)
  all := fun _ other member => known.behind other member

theorem append {request : Request Key Value}
    (known : Pending key lasting turned holds writes)
    (isWrite : request.IsWrite) (lasts : request.Lasts key lasting) :
    Pending key lasting turned holds (writes ++ [request]) := by
  have either {requests : List (Request Key Value)}
      (allLast : ∀ other ∈ requests, other.Lasts key lasting) :
      ∀ other ∈ requests ++ [request], other.Lasts key lasting := by
    intro other member
    rcases List.mem_append.1 member with earlier | last
    · exact allLast other earlier
    · rw [List.mem_singleton.1 last]
      exact lasts
  constructor
  · intro other member
    rcases List.mem_append.1 member with earlier | last
    · exact known.areWrites other earlier
    · rw [List.mem_singleton.1 last]
      exact isWrite
  · cases writes with
    | nil =>
        exact fun _ member => by cases member
    | cons first later =>
        exact either known.behind
  · exact fun needed => either (known.all needed)

/-- One write of what the client asked for. -/
theorem single {asked : Key} {value : Value}
    (lasts : turned ∨ ¬holds → asked = key → lasting value) :
    Pending key lasting turned holds [.write asked value] where
  areWrites := by
    intro request member
    rw [List.mem_singleton.1 member]
    trivial
  behind := fun _ member => by cases member
  all := by
    intro needed request member
    rw [List.mem_singleton.1 member]
    exact lasts needed

end Pending

/-! ## The clients -/

/-- The store with what its clients ask for: `asks` says that a client has
asked and has not taken the answer. -/
structure Asking (Client : Type u) (Key : Type v) (Value : Type w) where
  table : Key → Value
  holder : Client → Option Key
  waiting : Client → List (Request Key Value)
  rsps : Client → List Value
  asked : Client → Key
  asks : Client → Bool

namespace Asking

/-- The value of a client with the key locked is what the store serves it
next. -/
def OnItsWay (asking : Asking Client Key Value) (key : Key) : Prop :=
  ∃ client value later,
    asking.holder client = some key ∧
      asking.waiting client = .write key value :: later

structure Kept
    (key : Key) (lasting : Value → Prop) (turned : Prop)
    (asking : Asking Client Key Value) : Prop where
  exclusive :
    ∀ client other,
      asking.holder client = some key →
        asking.holder other = some key → client = other
  phase :
    ∀ client,
      Phase
        (Pending key lasting turned (asking.holder client = some key))
        (Answered key lasting turned (asking.holder client = some key)
          (asking.asked client))
        (.read (asking.asked client)) (asking.asks client)
        (asking.rsps client) (asking.waiting client)
  value : turned → lasting (asking.table key) ∨ asking.OnItsWay key

namespace Kept

variable {key : Key} {lasting : Value → Prop} {turned : Prop}
variable {asking : Asking Client Key Value} {client : Client}

/-- What a client knows of the key when it takes an answer about it. -/
theorem of_answer (kept : Kept key lasting turned asking)
    {rsp : Value} {later : List Value}
    (rsps : asking.rsps client = rsp :: later) :
    asking.asks client = true ∧
      Answered key lasting turned (asking.holder client = some key)
        (asking.asked client) rsp ∧
      later = [] ∧ asking.waiting client = [] := by
  have phase := kept.phase client
  rw [rsps] at phase
  exact phase.of_answered

/-- A client's phase behind the request that the store served it. -/
theorem served_phase (kept : Kept key lasting turned asking)
    {request : Request Key Value} {later : List (Request Key Value)}
    (oldest : asking.waiting client = request :: later)
    (free :
      ∀ other, other ≠ client → asking.holder other ≠ some request.key) :
    Phase
      (Pending key lasting turned (request.locks = some key))
      (Answered key lasting turned (request.locks = some key)
        (asking.asked client))
      (.read (asking.asked client)) (asking.asks client)
      (asking.rsps client ++ answer asking.table request) later := by
  have phase := kept.phase client
  rw [oldest] at phase
  cases request with
  | write wanted value =>
      rw [answer, List.append_nil]
      exact
        phase.serveWrite (by rintro ⟨⟩) fun rest known => known.served
  | read wanted =>
      obtain ⟨isAsked, asks, noRsps, noLater, -⟩ :=
        phase.of_lookup fun writes known member =>
          known.areWrites _ member
      cases isAsked
      rw [asks, noRsps, noLater]
      refine Phase.answered fun isKey => ⟨congrArg some isKey, ?_⟩
      intro isTurned
      rcases kept.value isTurned with lasts | onItsWay
      · rw [isKey]
        exact lasts
      · obtain ⟨sender, value, rest, held, first⟩ := onItsWay
        exfalso
        by_cases isClient : sender = client
        · rw [← isClient, first] at oldest
          cases oldest
        · rw [← isKey] at held
          exact free sender isClient held

end Kept

variable [DecidableEq Client]

def ask (asking : Asking Client Key Value) (client : Client) (key : Key) :
    Asking Client Key Value :=
  { asking with
    waiting :=
      Function.update asking.waiting client
        (asking.waiting client ++ [.read key])
    asked := Function.update asking.asked client key
    asks := Function.update asking.asks client true }

/-- A client takes its answer and writes. -/
def reply
    (asking : Asking Client Key Value) (client : Client)
    (writes : List (Request Key Value)) : Asking Client Key Value :=
  { asking with
    waiting :=
      Function.update asking.waiting client
        (asking.waiting client ++ writes)
    rsps := Function.update asking.rsps client (asking.rsps client).tail
    asks := Function.update asking.asks client false }

/-- A client writes without having asked. -/
def send
    (asking : Asking Client Key Value) (client : Client)
    (request : Request Key Value) : Asking Client Key Value :=
  { asking with
    waiting :=
      Function.update asking.waiting client
        (asking.waiting client ++ [request]) }

def serve [DecidableEq Key]
    (asking : Asking Client Key Value) (client : Client)
    (request : Request Key Value) (later : List (Request Key Value)) :
    Asking Client Key Value :=
  { asking with
    table := written asking.table request
    holder := Function.update asking.holder client request.locks
    waiting := Function.update asking.waiting client later
    rsps :=
      Function.update asking.rsps client
        (asking.rsps client ++ answer asking.table request) }

theorem serve_rsps [DecidableEq Key]
    (asking : Asking Client Key Value) (client other : Client)
    (request : Request Key Value) (later : List (Request Key Value)) :
    (asking.serve client request later).rsps other =
      asking.rsps other ++
        if other = client then answer asking.table request else [] := by
  change Function.update asking.rsps client _ other = _
  by_cases isClient : other = client
  · rw [if_pos isClient, isClient, Function.update_self]
  · rw [if_neg isClient, Function.update_of_ne isClient, List.append_nil]

namespace Kept

variable {key : Key} {lasting : Value → Prop} {turned : Prop}
variable {asking : Asking Client Key Value} {client : Client}

/-- Another client's requests do not meet a write that is served next. -/
theorem onItsWay_update {requests : List (Request Key Value)}
    {further : Asking Client Key Value}
    (onItsWay : asking.OnItsWay key)
    (holder : further.holder = asking.holder)
    (waiting :
      further.waiting =
        Function.update asking.waiting client
          (asking.waiting client ++ requests)) :
    further.OnItsWay key := by
  obtain ⟨sender, value, later, held, first⟩ := onItsWay
  by_cases isSender : sender = client
  · refine ⟨sender, value, later ++ requests, ?_, ?_⟩
    · rw [holder, held]
    · rw [waiting, isSender, Function.update_self, ← isSender, first,
        List.cons_append]
  · refine ⟨sender, value, later, ?_, ?_⟩
    · rw [holder, held]
    · rw [waiting, Function.update_of_ne isSender, first]

theorem ask (kept : Kept key lasting turned asking)
    (notAsked : asking.asks client = false) (wanted : Key) :
    Kept key lasting turned (asking.ask client wanted) where
  exclusive := kept.exclusive
  phase := by
    intro other
    rw [Asking.ask]
    simp only []
    by_cases isClient : other = client
    · have phase := kept.phase client
      rw [notAsked] at phase
      obtain ⟨noRsps, known⟩ := phase.of_idle
      rw [isClient, Function.update_self, Function.update_self,
        Function.update_self, noRsps]
      exact Phase.asked known
    · rw [Function.update_of_ne isClient, Function.update_of_ne isClient,
        Function.update_of_ne isClient]
      exact kept.phase other
  value := by
    intro isTurned
    rcases kept.value isTurned with lasts | onItsWay
    · exact Or.inl lasts
    · exact Or.inr (onItsWay_update onItsWay rfl rfl)

theorem send (kept : Kept key lasting turned asking)
    (notAsked : asking.asks client = false)
    {request : Request Key Value} (isWrite : request.IsWrite)
    (lasts : request.Lasts key lasting) :
    Kept key lasting turned (asking.send client request) where
  exclusive := kept.exclusive
  phase := by
    intro other
    rw [Asking.send]
    simp only []
    by_cases isClient : other = client
    · have phase := kept.phase client
      rw [notAsked] at phase
      obtain ⟨noRsps, known⟩ := phase.of_idle
      rw [isClient, Function.update_self, notAsked, noRsps]
      exact Phase.idle (known.append isWrite lasts)
    · rw [Function.update_of_ne isClient]
      exact kept.phase other
  value := by
    intro isTurned
    rcases kept.value isTurned with lasts | onItsWay
    · exact Or.inl lasts
    · exact Or.inr (onItsWay_update onItsWay rfl rfl)

/-- A client answers with a write of what it asked for, or not at all.  It
can turn the key if it asked for it, and it can end the turn. -/
theorem reply {turnedLater : Prop}
    (kept : Kept key lasting turned asking)
    {rsp : Value} {later : List Value}
    (rsps : asking.rsps client = rsp :: later)
    {writes : List (Request Key Value)}
    (ownWrites :
      writes = [] ∧ (turnedLater → turned) ∨
        ∃ value,
          writes = [.write (asking.asked client) value] ∧
            (turnedLater → turned ∨ asking.asked client = key) ∧
            (turnedLater → asking.asked client = key → lasting value)) :
    Kept key lasting turnedLater (asking.reply client writes) := by
  obtain ⟨-, answered, rfl, noWaiting⟩ := kept.of_answer rsps
  -- Who else has the key locked is not the one that turns it.
  have turnedBefore {other : Client} (isOther : other ≠ client)
      (held : asking.holder other = some key)
      (isTurned : turnedLater) : turned := by
    rcases ownWrites with ⟨-, before⟩ | ⟨value, -, turns, -⟩
    · exact before isTurned
    · rcases turns isTurned with before | isKey
      · exact before
      · exact
          absurd (kept.exclusive _ _ held (answered isKey).1) isOther
  refine ⟨kept.exclusive, fun other => ?_, fun isTurned => ?_⟩
  · rw [Asking.reply]
    simp only []
    by_cases isClient : other = client
    · rw [isClient, Function.update_self, Function.update_self,
        Function.update_self, noWaiting, rsps]
      refine Phase.idle ?_
      rcases ownWrites with ⟨none, -⟩ | ⟨value, one, -, lasts⟩
      · rw [none]
        exact Pending.nil
      · rw [one]
        refine Pending.single fun needed isKey => ?_
        rcases needed with isTurned | notHeld
        · exact lasts isTurned isKey
        · exact absurd (answered isKey).1 notHeld
    · rw [Function.update_of_ne isClient, Function.update_of_ne isClient,
        Function.update_of_ne isClient]
      refine (kept.phase other).map ?_ ?_
      · exact fun list known => known.map (turnedBefore isClient)
      · intro rsp known isKey
        obtain ⟨held, lasts⟩ := known isKey
        exact
          ⟨held, fun isTurned =>
            lasts (turnedBefore isClient held isTurned)⟩
  · have before (wasTurned : turned) :
        lasting (asking.table key) ∨
          (asking.reply client writes).OnItsWay key := by
      rcases kept.value wasTurned with lasts | onItsWay
      · exact Or.inl lasts
      · exact Or.inr (onItsWay_update onItsWay rfl rfl)
    rcases ownWrites with ⟨-, wasTurned⟩ | ⟨value, one, turns, -⟩
    · exact before (wasTurned isTurned)
    · rcases turns isTurned with wasTurned | isKey
      · exact before wasTurned
      · refine Or.inr ⟨client, value, [], (answered isKey).1, ?_⟩
        rw [Asking.reply]
        simp only []
        rw [Function.update_self, noWaiting, one, isKey]
        rfl

variable [DecidableEq Key]

/-- A write that is served has the key's value last, if the key is
turned. -/
theorem served_value (kept : Kept key lasting turned asking)
    {request : Request Key Value} {later : List (Request Key Value)}
    (oldest : asking.waiting client = request :: later)
    (isTurned : turned) :
    lasting ((asking.serve client request later).table key) ∨
      (asking.serve client request later).OnItsWay key := by
  have stays {sender : Client} {value : Value}
      {rest : List (Request Key Value)}
      (isOther : sender ≠ client)
      (held : asking.holder sender = some key)
      (first : asking.waiting sender = .write key value :: rest) :
      (asking.serve client request later).OnItsWay key := by
    refine ⟨sender, value, rest, ?_, ?_⟩
    · exact (Function.update_of_ne isOther _ _).trans held
    · exact (Function.update_of_ne isOther _ _).trans first
  cases request with
  | read wanted =>
      rcases kept.value isTurned with lasts | onItsWay
      · exact Or.inl lasts
      · obtain ⟨sender, value, rest, held, first⟩ := onItsWay
        refine Or.inr (stays ?_ held first)
        rintro rfl
        rw [first] at oldest
        cases oldest
  | write wanted value =>
      by_cases isKey : wanted = key
      · left
        have phase := kept.phase client
        rw [oldest] at phase
        obtain ⟨writes, known⟩ := phase.of_write (by rintro ⟨⟩)
        have lasts :=
          known.all (Or.inl isTurned) _ List.mem_cons_self isKey
        change lasting (Function.update asking.table wanted value key)
        rw [isKey, Function.update_self]
        exact lasts
      · rcases kept.value isTurned with lasts | onItsWay
        · left
          change lasting (Function.update asking.table wanted value key)
          rw [Function.update_of_ne (Ne.symm isKey)]
          exact lasts
        · obtain ⟨sender, other, rest, held, first⟩ := onItsWay
          refine Or.inr (stays ?_ held first)
          rintro rfl
          rw [first, List.cons.injEq, Request.write.injEq] at oldest
          exact isKey oldest.1.1.symm

/-- The store serves a client's oldest request, whose key nobody else has
locked. -/
theorem serve (kept : Kept key lasting turned asking)
    {request : Request Key Value} {later : List (Request Key Value)}
    (oldest : asking.waiting client = request :: later)
    (free :
      ∀ other, other ≠ client → asking.holder other ≠ some request.key) :
    Kept key lasting turned (asking.serve client request later) where
  exclusive := by
    have onlyClient {other : Client} (isOther : other ≠ client)
        (held : asking.holder other = some key) :
        request.locks ≠ some key := by
      intro locked
      cases request with
      | read wanted =>
          cases locked
          exact free other isOther held
      | write wanted value =>
          cases locked
    intro first second
    rw [Asking.serve]
    simp only []
    by_cases isFirst : first = client
    · by_cases isSecond : second = client
      · exact fun _ _ => isFirst.trans isSecond.symm
      · rw [isFirst, Function.update_self, Function.update_of_ne isSecond]
        exact fun locked held => absurd locked (onlyClient isSecond held)
    · by_cases isSecond : second = client
      · rw [isSecond, Function.update_self, Function.update_of_ne isFirst]
        exact fun held locked => absurd locked (onlyClient isFirst held)
      · rw [Function.update_of_ne isFirst, Function.update_of_ne isSecond]
        exact kept.exclusive first second
  phase := by
    intro other
    rw [Asking.serve]
    simp only []
    by_cases isClient : other = client
    · rw [isClient, Function.update_self, Function.update_self,
        Function.update_self]
      exact kept.served_phase oldest free
    · rw [Function.update_of_ne isClient, Function.update_of_ne isClient,
        Function.update_of_ne isClient]
      exact kept.phase other
  value := kept.served_value oldest

end Kept

end Asking

end KeyedLock
