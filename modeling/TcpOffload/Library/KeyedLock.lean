import Mathlib.Algebra.Order.Ring.Nat
import Mathlib.Data.List.Basic
import Mathlib.Logic.Function.Basic

/-!
# A store with a lock on each key

Clients read and write a table of values.  A read locks its key for the
client until the client's next write, and a request waits while another
client has its key locked.  If every client writes what it has read before it
reads again, then reads with their writes are atomic, and the requests of a
client are served once each and in order.
-/

namespace KeyedLock

universe u v w

variable {Client : Type u} {Key : Type v} {Value : Type w}

inductive Request (Key : Type v) (Value : Type w) where
  | read (key : Key)
  | write (key : Key) (value : Value)

namespace Request

def key : Request Key Value → Key
  | .read key => key
  | .write key _ => key

def Writes (key : Key) : Request Key Value → Prop
  | .read _ => False
  | .write other _ => other = key

/-- What a client has locked when the request is served. -/
def locks : Request Key Value → Option Key
  | .read key => some key
  | .write _ _ => none

theorem Writes.key_eq {key : Key} {request : Request Key Value}
    (writes : request.Writes key) : request.key = key := by
  cases request with
  | read other =>
      cases writes
  | write other value =>
      exact writes

end Request

/-- Requests of one client: a read and then a write of the same key, or a
write alone.  The keys are those of the reads that still wait for their
write, before the requests and behind them. -/
inductive Exchanges :
    Option Key → List (Request Key Value) → Option Key → Prop
  | done (last : Option Key) : Exchanges last [] last
  | read {key : Key} {later : List (Request Key Value)}
      {last : Option Key} :
      Exchanges (some key) later last →
      Exchanges none (.read key :: later) last
  | write {key : Key} {value : Value}
      {later : List (Request Key Value)} {last : Option Key} :
      Exchanges none later last →
      Exchanges (some key) (.write key value :: later) last
  | alone {key : Key} {value : Value}
      {later : List (Request Key Value)} {last : Option Key} :
      Exchanges none later last →
      Exchanges none (.write key value :: later) last

namespace Exchanges

variable {first middle last : Option Key}
variable {requests : List (Request Key Value)}

theorem append {more : List (Request Key Value)}
    (before : Exchanges first requests middle)
    (after : Exchanges middle more last) :
    Exchanges first (requests ++ more) last := by
  induction before with
  | done =>
      exact after
  | read _ inductionHypothesis =>
      exact read (inductionHypothesis after)
  | write _ inductionHypothesis =>
      exact write (inductionHypothesis after)
  | alone _ inductionHypothesis =>
      exact alone (inductionHypothesis after)

/-- What the first request leaves locked. -/
theorem tail {request : Request Key Value}
    (exchanges : Exchanges first (request :: requests) last) :
    Exchanges request.locks requests last := by
  cases exchanges with
  | read rest =>
      exact rest
  | write rest =>
      exact rest
  | alone rest =>
      exact rest

theorem head {request : Request Key Value}
    (exchanges : Exchanges first (request :: requests) last) :
    Exchanges first [request] request.locks := by
  cases exchanges with
  | read =>
      exact read (done _)
  | write =>
      exact write (done _)
  | alone =>
      exact alone (done _)

/-- A client with a lock asks next for the write that gives it back. -/
theorem of_held {key : Key} {request : Request Key Value}
    (exchanges : Exchanges (some key) (request :: requests) last) :
    ∃ value, request = .write key value := by
  cases exchanges with
  | write =>
      exact ⟨_, rfl⟩

theorem of_nil
    (exchanges : Exchanges first ([] : List (Request Key Value)) last) :
    first = last := by
  cases exchanges with
  | done =>
      rfl

/-- Writes alone are exchanges. -/
theorem of_writes
    (writes : ∀ request ∈ requests, ∃ key value,
      request = Request.write key value) :
    Exchanges none requests none := by
  induction requests with
  | nil =>
      exact done none
  | cons request later inductionHypothesis =>
      obtain ⟨key, value, rfl⟩ := writes request List.mem_cons_self
      exact
        alone
          (inductionHypothesis fun further member =>
            writes further (List.mem_cons_of_mem _ member))

end Exchanges

/-! ## Histories -/

/-- A request that was served, with its client. -/
abbrev Access (Client : Type u) (Key : Type v) (Value : Type w) :=
  Client × Request Key Value

section Histories

variable [DecidableEq Key]

def written (table : Key → Value) : Request Key Value → Key → Value
  | .read _ => table
  | .write key value => Function.update table key value

def answer (table : Key → Value) : Request Key Value → List Value
  | .read key => [table key]
  | .write _ _ => []

/-- The table behind a history. -/
def tableAfter (table : Key → Value) :
    List (Access Client Key Value) → Key → Value
  | [] => table
  | access :: later => tableAfter (written table access.2) later

theorem tableAfter_append
    (table : Key → Value) (log : List (Access Client Key Value))
    (access : Access Client Key Value) :
    tableAfter table (log ++ [access]) =
      written (tableAfter table log) access.2 := by
  induction log generalizing table with
  | nil =>
      rfl
  | cons first later inductionHypothesis =>
      exact inductionHypothesis (written table first.2)

variable [DecidableEq Client]

/-- The answers a client got in a history. -/
def answers (client : Client) (table : Key → Value) :
    List (Access Client Key Value) → List Value
  | [] => []
  | access :: later =>
      (if access.1 = client then answer table access.2 else []) ++
        answers client (written table access.2) later

theorem answers_append
    (client : Client) (table : Key → Value)
    (log : List (Access Client Key Value))
    (access : Access Client Key Value) :
    answers client table (log ++ [access]) =
      answers client table log ++
        if access.1 = client then
          answer (tableAfter table log) access.2
        else
          [] := by
  induction log generalizing table with
  | nil =>
      exact List.append_nil _
  | cons first later inductionHypothesis =>
      rw [List.cons_append, answers, answers, inductionHypothesis,
        List.append_assoc]
      rfl

end Histories

section Served

variable [DecidableEq Client]

/-- The requests of a client that were served. -/
def servedTo (client : Client) (log : List (Access Client Key Value)) :
    List (Request Key Value) :=
  (log.filter fun access => access.1 = client).map Prod.snd

theorem servedTo_append
    (client : Client) (log : List (Access Client Key Value))
    (access : Access Client Key Value) :
    servedTo client (log ++ [access]) =
      servedTo client log ++
        if access.1 = client then [access.2] else [] := by
  rw [servedTo, List.filter_append, List.map_append]
  by_cases isClient : access.1 = client
  · simp [servedTo, isClient]
  · simp [servedTo, isClient]

end Served

/-- From a client's read of a key to the client's own write of it, nobody
writes the key. -/
def Atomic (log : List (Access Client Key Value)) : Prop :=
  ∀ before between after client key,
    log = before ++ (client, .read key) :: (between ++ after) →
      (∀ value, (client, .write key value) ∉ between) →
        ∀ access ∈ between, ¬access.2.Writes key

/-- The last request of a history opens a read, or it is behind the read in
question. -/
theorem split_last {log before between : List (Access Client Key Value)}
    {last : Access Client Key Value} {key : Key} {client : Client}
    (split :
      log ++ [last] = before ++ (client, Request.read key) :: between) :
    (between = [] ∧ last = (client, .read key)) ∨
      ∃ earlier,
        between = earlier ++ [last] ∧
          log = before ++ (client, .read key) :: earlier := by
  rcases List.eq_nil_or_concat between with none | ⟨earlier, final, some⟩
  · rw [none] at split
    obtain ⟨-, isLast⟩ := List.append_inj' split rfl
    exact Or.inl ⟨none, (List.cons.inj isLast).1⟩
  · rw [List.concat_eq_append] at some
    rw [some, ← List.cons_append, ← List.append_assoc] at split
    obtain ⟨same, isLast⟩ := List.append_inj' split rfl
    rw [(List.cons.inj isLast).1]
    exact Or.inr ⟨earlier, some, same⟩

/-- A history stays atomic if its next request writes no key with an open
read, but for the key's own client. -/
theorem Atomic.append {log : List (Access Client Key Value)}
    {last : Access Client Key Value}
    (atomic : Atomic log)
    (noWrite :
      ∀ before between client key,
        log = before ++ (client, .read key) :: between →
          (∀ value, (client, .write key value) ∉ between ++ [last]) →
            ¬last.2.Writes key) :
    Atomic (log ++ [last]) := by
  intro before between after client key split notYet access member
  rcases List.eq_nil_or_concat after with none | ⟨rest, final, some⟩
  · rw [none, List.append_nil] at split
    rcases split_last split with ⟨nothing, -⟩ | ⟨earlier, all, split⟩
    · rw [nothing] at member
      cases member
    · rw [all] at notYet member
      rcases List.mem_append.1 member with isEarlier | isLast
      · rw [← List.append_nil earlier] at split
        refine atomic before earlier [] client key split ?_ access isEarlier
        intro value earlierWrite
        exact notYet value (List.mem_append_left _ earlierWrite)
      · rw [List.mem_singleton.1 isLast]
        exact noWrite before earlier client key split notYet
  · rw [List.concat_eq_append] at some
    rw [some, ← List.append_assoc] at split
    rcases split_last split with ⟨nothing, -⟩ | ⟨earlier, all, split⟩
    · exact absurd nothing (by simp)
    · obtain ⟨rfl, -⟩ := List.append_inj' all rfl
      exact
        atomic before between rest client key split notYet access member

/-! ## The store -/

structure Store (Client : Type u) (Key : Type v) (Value : Type w) where
  table : Key → Value
  holder : Client → Option Key
  waiting : Client → List (Request Key Value)
  sent : Client → List (Request Key Value)
  rsps : Client → List Value
  log : List (Access Client Key Value)

namespace Store

/-- No other client has the key locked. -/
def Free
    (store : Store Client Key Value) (client : Client) (key : Key) :
    Prop :=
  ∀ other, other ≠ client → store.holder other ≠ some key

/-- A request whose key no other client has locked writes no key that another
client has locked. -/
theorem Free.not_writes
    {store : Store Client Key Value} {client other : Client}
    {request : Request Key Value} {key : Key}
    (free : store.Free client request.key)
    (held : store.holder other = some key) (isOther : other ≠ client) :
    ¬request.Writes key := by
  intro writes
  have notHeld := free other isOther
  rw [writes.key_eq] at notHeld
  exact notHeld held

variable [DecidableEq Client]

def send
    (store : Store Client Key Value) (client : Client)
    (request : Request Key Value) : Store Client Key Value :=
  { store with
    waiting :=
      Function.update store.waiting client
        (store.waiting client ++ [request])
    sent :=
      Function.update store.sent client (store.sent client ++ [request]) }

variable {store : Store Client Key Value} {client other : Client}
variable {request : Request Key Value}

theorem send_waiting_self :
    (store.send client request).waiting client =
      store.waiting client ++ [request] :=
  Function.update_self _ _ _

theorem send_waiting_of_ne (isOther : other ≠ client) :
    (store.send client request).waiting other = store.waiting other :=
  Function.update_of_ne isOther _ _

theorem send_sent_self :
    (store.send client request).sent client =
      store.sent client ++ [request] :=
  Function.update_self _ _ _

theorem send_sent_of_ne (isOther : other ≠ client) :
    (store.send client request).sent other = store.sent other :=
  Function.update_of_ne isOther _ _

variable [DecidableEq Key]

def serve
    (store : Store Client Key Value) (client : Client)
    (request : Request Key Value) (later : List (Request Key Value)) :
    Store Client Key Value where
  table := written store.table request
  holder := Function.update store.holder client request.locks
  waiting := Function.update store.waiting client later
  sent := store.sent
  rsps :=
    Function.update store.rsps client
      (store.rsps client ++ answer store.table request)
  log := store.log ++ [(client, request)]

variable {later : List (Request Key Value)}

theorem serve_holder_self :
    (store.serve client request later).holder client = request.locks :=
  Function.update_self _ _ _

theorem serve_holder_of_ne (isOther : other ≠ client) :
    (store.serve client request later).holder other =
      store.holder other :=
  Function.update_of_ne isOther _ _

theorem serve_waiting_self :
    (store.serve client request later).waiting client = later :=
  Function.update_self _ _ _

theorem serve_waiting_of_ne (isOther : other ≠ client) :
    (store.serve client request later).waiting other =
      store.waiting other :=
  Function.update_of_ne isOther _ _

theorem serve_rsps_self :
    (store.serve client request later).rsps client =
      store.rsps client ++ answer store.table request :=
  Function.update_self _ _ _

theorem serve_rsps_of_ne (isOther : other ≠ client) :
    (store.serve client request later).rsps other = store.rsps other :=
  Function.update_of_ne isOther _ _

/-- What holds of a store that started with `initial`; `opened` are the reads
whose writes have not been sent. -/
structure Sound
    (initial : Key → Value) (opened : Client → Option Key)
    (store : Store Client Key Value) : Prop where
  exclusive :
    ∀ client key, store.holder client = some key → store.Free client key
  inTurn :
    ∀ client,
      Exchanges (store.holder client) (store.waiting client)
        (opened client)
  kept :
    ∀ before between client key,
      store.log = before ++ (client, .read key) :: between →
        (∀ value, (client, .write key value) ∉ between) →
          store.holder client = some key
  atomic : Atomic store.log
  table : store.table = tableAfter initial store.log
  rsps : ∀ client, store.rsps client = answers client initial store.log
  sent :
    ∀ client,
      store.sent client =
        servedTo client store.log ++ store.waiting client

def start (initial : Key → Value) : Store Client Key Value where
  table := initial
  holder := fun _ => none
  waiting := fun _ => []
  sent := fun _ => []
  rsps := fun _ => []
  log := []

namespace Sound

variable {initial : Key → Value} {opened : Client → Option Key}

theorem start :
    Sound initial (fun _ => none)
      (Store.start initial : Store Client Key Value) where
  exclusive := by
    intro client key held
    cases held
  inTurn := fun _ => Exchanges.done none
  kept := by
    intro before between client key split
    exact absurd split.symm (List.append_ne_nil_of_right_ne_nil _ (by simp))
  atomic := by
    intro before between after client key split
    exact absurd split.symm (List.append_ne_nil_of_right_ne_nil _ (by simp))
  table := rfl
  rsps := fun _ => rfl
  sent := fun _ => rfl

theorem send {middle : Option Key}
    (sound : Sound initial opened store)
    (exchange : Exchanges (opened client) [request] middle) :
    Sound initial (Function.update opened client middle)
      (store.send client request) where
  exclusive := sound.exclusive
  inTurn := by
    intro other
    by_cases isClient : other = client
    · rw [isClient, Function.update_self, send_waiting_self]
      exact (sound.inTurn client).append exchange
    · rw [Function.update_of_ne isClient, send_waiting_of_ne isClient]
      exact sound.inTurn other
  kept := sound.kept
  atomic := sound.atomic
  table := sound.table
  rsps := sound.rsps
  sent := by
    intro other
    by_cases isClient : other = client
    · rw [isClient, send_sent_self, send_waiting_self, sound.sent,
        List.append_assoc]
      rfl
    · rw [send_sent_of_ne isClient, send_waiting_of_ne isClient]
      exact sound.sent other

/-- The request of a client with a lock is the write that gives it back. -/
theorem closes {key : Key}
    (sound : Sound initial opened store)
    (oldest : store.waiting client = request :: later)
    (held : store.holder client = some key) :
    ∃ value, request = .write key value := by
  have exchanges := sound.inTurn client
  rw [oldest, held] at exchanges
  exact exchanges.of_held

theorem serve
    (sound : Sound initial opened store)
    (oldest : store.waiting client = request :: later)
    (free : store.Free client request.key) :
    Sound initial opened (store.serve client request later) where
  exclusive := by
    intro holder key held other isOther
    by_cases isClient : holder = client
    · rw [isClient] at held isOther
      rw [serve_holder_self] at held
      rw [serve_holder_of_ne isOther]
      cases request with
      | read read =>
          obtain rfl : read = key := Option.some.inj held
          exact free other isOther
      | write =>
          cases held
    · rw [serve_holder_of_ne isClient] at held
      by_cases toClient : other = client
      · rw [toClient, serve_holder_self]
        intro locked
        cases request with
        | read read =>
            obtain rfl : read = key := Option.some.inj locked
            exact free holder isClient held
        | write =>
            cases locked
      · rw [serve_holder_of_ne toClient]
        exact sound.exclusive holder key held other isOther
  inTurn := by
    intro other
    by_cases isClient : other = client
    · rw [isClient, serve_holder_self, serve_waiting_self]
      have exchanges := sound.inTurn client
      rw [oldest] at exchanges
      exact exchanges.tail
    · rw [serve_holder_of_ne isClient, serve_waiting_of_ne isClient]
      exact sound.inTurn other
  kept := by
    intro before between other key split notYet
    rcases split_last split with ⟨-, isLast⟩ | ⟨earlier, all, split⟩
    · obtain ⟨rfl, rfl⟩ := Prod.mk.inj isLast
      exact serve_holder_self
    · rw [all] at notYet
      have held :=
        sound.kept before earlier other key split fun value member =>
          notYet value (List.mem_append_left _ member)
      by_cases isClient : other = client
      · rw [isClient] at held notYet
        obtain ⟨value, isWrite⟩ := sound.closes oldest held
        rw [isWrite] at notYet
        exact
          absurd (List.mem_append_right _ (List.mem_singleton_self _))
            (notYet value)
      · rw [serve_holder_of_ne isClient]
        exact held
  atomic := by
    refine sound.atomic.append fun before between other key split notYet => ?_
    have held :=
      sound.kept before between other key split fun value member =>
        notYet value (List.mem_append_left _ member)
    by_cases isClient : other = client
    · rw [isClient] at held notYet
      obtain ⟨value, isWrite⟩ := sound.closes oldest held
      rw [isWrite] at notYet
      exact
        absurd (List.mem_append_right _ (List.mem_singleton_self _))
          (notYet value)
    · exact free.not_writes held isClient
  table := by
    change written store.table request = tableAfter initial (_ ++ [_])
    rw [tableAfter_append, sound.table]
  rsps := by
    intro other
    change _ = answers other initial (_ ++ [_])
    rw [answers_append]
    by_cases isClient : other = client
    · rw [isClient, serve_rsps_self, sound.rsps, sound.table, if_pos rfl]
    · rw [serve_rsps_of_ne isClient,
        if_neg (Ne.symm isClient), List.append_nil]
      exact sound.rsps other
  sent := by
    intro other
    change store.sent other = servedTo other (_ ++ [_]) ++ _
    rw [servedTo_append, sound.sent]
    by_cases isClient : other = client
    · rw [isClient, serve_waiting_self, if_pos rfl, oldest,
        List.append_assoc]
      rfl
    · rw [serve_waiting_of_ne isClient,
        if_neg (Ne.symm isClient), List.append_nil]

end Sound

end Store

end KeyedLock
