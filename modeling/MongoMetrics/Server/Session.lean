/-
Conversations with a server in virtual time. The world decides how connectors and servers answer:
after a delay, or never. A session runs from an instant on, and yields its value with the instant
at which it is ready, if it ever is, together with all events in the order in which they happen.
Computing takes no time; only answers do. A session under a limit gives up at the limit and loses
its later events.
-/
import MongoMetrics.Clock
import MongoMetrics.Server.Selection

namespace MongoMetrics

/-! ## Calls and events -/

/-- A question to a server. -/
inductive Call where
  | command (database : String) (body : Document)
  | listDatabases (selection : DatabaseSelection)
  | listCollections (database : String) (selection : CollectionSelection)
  | aggregate (database collection : String) (pipeline : List Document)
  | findOne (database collection : String) (filter : Document)

/-- What a server says to a call when it has an answer. -/
def Call.Answer : Call → Type
  | command .. => Document
  | listDatabases _ => List String
  | listCollections .. => List String
  | aggregate .. => List Document
  | findOne .. => Option Document

/-- A connected server, by number. -/
abbrev Client := Nat

/-- What the outside sees of a session. -/
inductive Event where
  | connect (uri : String)
  | call (client : Client) (c : Call)
  | shutdown (client : Client)

/-! ## The world -/

/-- A reply to a request: a value after a delay, or silence. -/
inductive Response (α : Type) where
  | after (delay : Duration) (value : α)
  | never

/-- How everything outside answers, at any instant. -/
structure World where
  connect : Instant → String → Response (Except Fault Client)
  answer : Client → Instant → (c : Call) → Response (Except Fault c.Answer)
  /-- Unix time in milliseconds. -/
  wallClock : Instant → Int
  /-- Memory of this process in bytes, where it can be read. -/
  residentBytes : Instant → Option Nat
  /-- Threads that this process can run at once, where it is known. -/
  parallelism : Option Nat
  /-- What is wrong with a text that is no pattern, in the words of the engine that reads patterns, where
  they are known. -/
  explain : String → Option String := fun _ => none

/-! ## Runs -/

/-- A finished or endless run: the value with the instant it was ready, and the events. -/
structure Run (α : Type) where
  outcome : Option (α × Instant)
  events : List (Instant × Event)

/-- A conversation: what it does in a world from an instant on. -/
structure Session (α : Type) where
  run : World → Instant → Run α

namespace Session

variable {α β : Type}

def pure (a : α) : Session α := ⟨fun _ t => ⟨some (a, t), []⟩⟩

/-- The first session, and then the one that its value calls for. -/
def bind (s : Session α) (f : α → Session β) : Session β := ⟨fun w t =>
  match s.run w t with
  | ⟨some (a, t'), events⟩ =>
    let next := (f a).run w t'
    ⟨next.outcome, events ++ next.events⟩
  | ⟨none, events⟩ => ⟨none, events⟩⟩

instance : Monad Session where
  pure := pure
  bind := bind

/-- Waits for a response that begins with an event. -/
def await (event : Event) (respond : World → Instant → Response α) : Session α := ⟨fun w t =>
  match respond w t with
  | .after delay a => ⟨some (a, t + delay), [(t, event)]⟩
  | .never => ⟨none, [(t, event)]⟩⟩

/-- Asks a connected server. -/
def ask (client : Client) (c : Call) : Session (Except Fault c.Answer) :=
  await (.call client c) fun w t => w.answer client t c

def connect (uri : String) : Session (Except Fault Client) :=
  await (.connect uri) fun w t => w.connect t uri

/-- Closes a connection, which takes no time. -/
def shutdown (client : Client) : Session Unit := ⟨fun _ t => ⟨some ((), t), [(t, .shutdown client)]⟩⟩

/-- The current instant. -/
def now : Session Instant := ⟨fun _ t => ⟨some (t, t), []⟩⟩

/-- The current Unix time in milliseconds. -/
def unixMillis : Session Int := ⟨fun w t => ⟨some (w.wallClock t, t), []⟩⟩

def residentBytes : Session (Option Nat) := ⟨fun w t => ⟨some (w.residentBytes t, t), []⟩⟩

def parallelism : Session (Option Nat) := ⟨fun w t => ⟨some (w.parallelism, t), []⟩⟩

/-- The selection by patterns, with the account that the engine gives of a mistake. -/
def selection (patterns : List String) : Session (Except Fault CollectionSelection) :=
  ⟨fun w t => ⟨some (CollectionSelection.ofPatternsWith w.explain patterns, t), []⟩⟩

/-- Lets time pass. -/
def pause (d : Duration) : Session Unit := ⟨fun _ t => ⟨some ((), t + d), []⟩⟩

/-- The value if it is ready within the limit; otherwise nothing, at the limit. -/
def within (limit : Duration) (s : Session α) : Session (Option α) := ⟨fun w t =>
  let r := s.run w t
  match r.outcome with
  | some (a, t') =>
    if t' ≤ t + limit then ⟨some (some a, t'), r.events⟩
    else ⟨some (none, t + limit), r.events.filter fun e => e.1 ≤ t + limit⟩
  | none => ⟨some (none, t + limit), r.events.filter fun e => e.1 ≤ t + limit⟩⟩

/-- One session for each element, one after the other. -/
def forEach (f : α → Session β) : List α → Session (List β)
  | [] => pure []
  | a :: rest => do
    let b ← f a
    let bs ← forEach f rest
    return b :: bs

/-! ## Side by side -/

/-- The values with the instants at which they were ready, if all of them are at some time. -/
def finished : List (Option (α × Instant)) → Option (List (α × Instant))
  | [] => some []
  | none :: _ => none
  | some r :: rest => (finished rest).map fun rs => r :: rs

/-- The latest instant, and not before `t`. -/
def latest (t : Instant) (rs : List (α × Instant)) : Instant := rs.foldl (fun m r => max m r.2) t

/-- All sessions started at once. The values come in the order in which they were ready, sessions
that were ready together in the order given; the whole is ready with the last one. -/
def race (sessions : List (Session α)) : Session (List α) := ⟨fun w t =>
  let runs := sessions.map fun s => s.run w t
  let events := (runs.flatMap (·.events)).mergeSort fun a b => a.1 ≤ b.1
  match finished (runs.map (·.outcome)) with
  | some rs => ⟨some ((rs.mergeSort fun a b => a.2 ≤ b.2).map (·.1), latest t rs), events⟩
  | none => ⟨none, events⟩⟩

end Session

/-- A session that may fail. -/
abbrev Request := ExceptT Fault Session

namespace Request

variable {α : Type}

/-- Asks a connected server and passes its failure on. -/
def ask (client : Client) (c : Call) : Request c.Answer := ExceptT.mk (Session.ask client c)

/-- The outcome of a request as a value. -/
def attempt (r : Request α) : Session (Except Fault α) := r.run

/-- One request for each element, one after the other, up to the first failure. -/
def forEach {β : Type} (f : α → Request β) : List α → Request (List β)
  | [] => Pure.pure []
  | a :: rest => do
    let b ← f a
    let bs ← forEach f rest
    return b :: bs

end Request

end MongoMetrics
