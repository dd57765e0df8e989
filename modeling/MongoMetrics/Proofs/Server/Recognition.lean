/-
What the replies of a server show of it. Each part of finding out about a server puts few questions and
reads the replies by rules of precedence: which greeting is answered (`Greeted`), what role the server
has (`HasRole`), which part it plays in a sharded cluster (`HasClusterRole`) and where the identity of
the cluster is found first (`FirstUsable`). For each part a lemma says that the session follows the rule,
and which questions it puts.
-/
import MongoMetrics.Proofs.Server.Replies
import MongoMetrics.Server.Deployment

namespace MongoMetrics

/-! ## Questions and replies -/

namespace Call

/-- A command without arguments to the administration database. -/
def administer (name : String) : Call := .command "admin" [(name, .int32 1)]

def hello : Call := administer "hello"

def isMaster : Call := administer "isMaster"

def replicaStatus : Call := administer "replSetGetStatus"

def replicaConfig : Call := administer "replSetGetConfig"

/-- The record that a shard keeps of itself. -/
def shardIdentity : Call := .findOne "admin" "system.version" [("_id", .string "shardIdentity")]

/-- The record of the configuration database. -/
def version : Call := .findOne "config" "version" []

end Call

namespace Replies

variable (replies : Replies)

def administer (name : String) : Except Fault Document := replies (.administer name)

def hello : Except Fault Document := replies.administer "hello"

def isMaster : Except Fault Document := replies.administer "isMaster"

def replicaStatus : Except Fault Document := replies.administer "replSetGetStatus"

def replicaConfig : Except Fault Document := replies.administer "replSetGetConfig"

def shardIdentity : Except Fault (Option Document) := replies Call.shardIdentity

def version : Except Fault (Option Document) := replies Call.version

end Replies

namespace Deployment

open Session

variable {replies : Replies} {client : Client} {greeting : Document}

theorem follows_administer {name : String} {x : Except Fault Document}
    (h : replies.administer name = x) :
    Follows replies client (administer client name).attempt [.administer name] x :=
  h ▸ follows_ask _

/-! ## Greetings -/

/-- No greeting is answered: the server cannot be reached, or it refuses both. -/
inductive Ungreeted (replies : Replies) : List Call → Prop
  | unreachable {message : String} (h : replies.hello = .error (.connection message)) :
    Ungreeted replies [.hello]
  | refused {fault fault' : Fault} (h : replies.hello = .error fault)
    (hf : fault.isConnection = false) (h' : replies.isMaster = .error fault') :
    Ungreeted replies [.hello, .isMaster]

/-- The greeting that is answered, with the questions for it. -/
inductive Greeted (replies : Replies) : Document → List Call → Prop
  | hello {greeting : Document} (h : replies.hello = .ok greeting) : Greeted replies greeting [.hello]
  | isMaster {fault : Fault} {greeting : Document} (h : replies.hello = .error fault)
    (hf : fault.isConnection = false) (h' : replies.isMaster = .ok greeting) :
    Greeted replies greeting [.hello, .isMaster]

section

variable {greetings greetings' : List Call}

theorem Ungreeted.follows (h : Ungreeted replies greetings) (client : Client) :
    ∃ fault, Follows replies client (Deployment.greeting client).attempt greetings (.error fault) := by
  cases h with
  | @unreachable message h => exact ⟨.connection message, (follows_administer h).last (follows_pure _)⟩
  | @refused fault fault' h hf h' =>
    refine ⟨fault', (follows_administer h).next ?_⟩
    simp only [hf]
    exact follows_administer h'

theorem Greeted.follows (h : Greeted replies greeting greetings) :
    Follows replies client (Deployment.greeting client).attempt greetings (.ok greeting) := by
  cases h with
  | hello h => exact (follows_administer h).last (follows_pure _)
  | isMaster h hf h' =>
    refine (follows_administer h).next ?_
    simp only [hf]
    exact follows_administer h'

/-- One of the greetings is answered, or none is. -/
theorem greeted_or_ungreeted (replies : Replies) :
    (∃ greeting greetings, Greeted replies greeting greetings) ∨
      ∃ greetings, Ungreeted replies greetings := by
  cases h : replies.hello with
  | ok greeting => exact .inl ⟨greeting, _, .hello h⟩
  | error fault =>
    cases hf : fault.isConnection with
    | true =>
      cases fault with
      | connection message => exact .inr ⟨_, .unreachable h⟩
      | _ => cases hf
    | false =>
      cases h' : replies.isMaster with
      | ok greeting => exact .inl ⟨greeting, _, .isMaster h hf h'⟩
      | error fault' => exact .inr ⟨_, .refused h hf h'⟩

theorem Greeted.not_ungreeted (h : Greeted replies greeting greetings) :
    ¬ Ungreeted replies greetings' := by
  intro hu
  cases h with
  | hello h => cases hu <;> simp_all
  | isMaster h hf h' =>
    cases hu with
    | unreachable g =>
      rw [h] at g
      cases g
      cases hf
    | refused _ _ g => rw [h'] at g; cases g

theorem Greeted.unique {other : Document} (h : Greeted replies greeting greetings)
    (h' : Greeted replies other greetings') : greeting = other ∧ greetings = greetings' := by
  cases h <;> cases h' <;> simp_all

theorem Ungreeted.unique (h : Ungreeted replies greetings) (h' : Ungreeted replies greetings') :
    greetings = greetings' := by
  cases h with
  | unreachable g =>
    cases h' with
    | unreachable => rfl
    | refused g' hf' =>
      rw [g] at g'
      cases g'
      cases hf'
  | refused g hf =>
    cases h' with
    | unreachable g' =>
      rw [g] at g'
      cases g'
      cases hf
    | refused => rfl

theorem Ungreeted.greeting_of_mem (h : Ungreeted replies greetings) :
    ∀ c ∈ greetings, c = .hello ∨ c = .isMaster := by
  cases h <;> simp

/-- The older name is used when the greeting is refused, not when it cannot be put. -/
def AsksAgain (replies : Replies) : Prop :=
  ∃ fault, replies.hello = .error fault ∧ fault.isConnection = false

theorem Greeted.isMaster_mem_iff (h : Greeted replies greeting greetings) :
    .isMaster ∈ greetings ↔ AsksAgain replies := by
  cases h with
  | hello h => simp [AsksAgain, h, Call.isMaster, Call.hello, Call.administer]
  | isMaster h hf h' => simp [AsksAgain, h, hf]

theorem Ungreeted.isMaster_mem_iff (h : Ungreeted replies greetings) :
    .isMaster ∈ greetings ↔ AsksAgain replies := by
  cases h with
  | unreachable h =>
    simp [AsksAgain, h, Call.isMaster, Call.hello, Call.administer, Fault.isConnection]
  | refused h hf h' => simp [AsksAgain, h, hf]

end

/-! ## Roles -/

/-- The integer that a number holds; a floating-point number loses its fraction. -/
inductive Whole : Value → Int → Prop
  | int32 (n : Int32) : Whole (.int32 n) n.toInt
  | int64 (n : Int64) : Whole (.int64 n) n.toInt
  | double (x : Float) : Whole (.double x) (Number.truncate x)

theorem wholeNumber?_eq_some {v : Value} {n : Int} : wholeNumber? v = some n ↔ Whole v n := by
  constructor
  · intro h
    unfold wholeNumber? at h
    split at h <;> cases h <;> constructor
  · intro h
    cases h <;> rfl

/-- A member that says of itself that it is an arbiter. -/
structure ArbiterSelf (member : Document) : Prop where
  self : Document.boolean? member "self" = some true
  state : ∃ v, Document.get? member "state" = some v ∧ Whole v 7

theorem isArbiterSelf_iff {v : Value} :
    isArbiterSelf v = true ↔ ∃ member, v = .document member ∧ ArbiterSelf member := by
  cases v with
  | document member =>
    simp only [isArbiterSelf, Bool.and_eq_true, beq_iff_eq, Option.bind_eq_some_iff,
      wholeNumber?_eq_some, Value.document.injEq, exists_eq_left']
    exact ⟨fun ⟨hself, hstate⟩ => ⟨hself, hstate⟩, fun ⟨hself, hstate⟩ => ⟨hself, hstate⟩⟩
  | _ => simp [isArbiterSelf]

/-- The status of the replica set shows the server as an arbiter. -/
def ShowsArbiter (replies : Replies) : Prop :=
  ∃ status members member, replies.replicaStatus = .ok status ∧
    Document.array? status "members" = some members ∧ .document member ∈ members ∧ ArbiterSelf member

theorem exists_follows_reportsArbiterState (replies : Replies) (client : Client) :
    ∃ b, Follows replies client (reportsArbiterState client) [.replicaStatus] b ∧
      (b = true ↔ ShowsArbiter replies) := by
  cases h : replies.replicaStatus with
  | error fault =>
    refine ⟨false, (follows_administer h).last (follows_pure _), ?_⟩
    simp [ShowsArbiter, h]
  | ok status =>
    refine ⟨_, (follows_administer h).last (follows_pure _), ?_⟩
    cases hm : Document.array? status "members" with
    | none => simp [ShowsArbiter, h, hm]
    | some members =>
      simp only [ShowsArbiter, h, Option.getD_some, List.any_eq_true, isArbiterSelf_iff]
      constructor
      · rintro ⟨_, hmem, member, rfl, hself⟩
        exact ⟨status, members, member, rfl, hm, hmem, hself⟩
      · rintro ⟨status', members', member, hs, hm', hmem, hself⟩
        cases hs
        rw [hm] at hm'
        cases hm'
        exact ⟨_, hmem, member, rfl, hself⟩

/-- A router says so. -/
abbrev IsRouter (greeting : Document) : Prop := Document.string? greeting "msg" = some "isdbgrid"

/-- The greeting tells that the server is an arbiter. -/
abbrev IsArbiterOnly (greeting : Document) : Prop := Document.boolean? greeting "arbiterOnly" = some true

abbrev InReplicaSet (greeting : Document) : Prop := Document.has greeting "setName" = true

/-- The role of a server that has answered a greeting. -/
inductive HasRole (replies : Replies) (greeting : Document) : Role → Prop
  | router (h : IsRouter greeting) : HasRole replies greeting .router
  | arbiter (h : ¬ IsRouter greeting)
    (ha : IsArbiterOnly greeting ∨ InReplicaSet greeting ∧ ShowsArbiter replies) :
    HasRole replies greeting .arbiter
  | member (h : ¬ IsRouter greeting) (ha : ¬ IsArbiterOnly greeting) (hs : InReplicaSet greeting)
    (hn : ¬ ShowsArbiter replies) : HasRole replies greeting .replicaMember
  | standalone (h : ¬ IsRouter greeting) (ha : ¬ IsArbiterOnly greeting)
    (hs : ¬ InReplicaSet greeting) : HasRole replies greeting .standalone

/-- The greeting is one of a replica set member that may still turn out an arbiter. -/
structure MayBeArbiter (greeting : Document) : Prop where
  router : ¬ IsRouter greeting
  only : ¬ IsArbiterOnly greeting
  member : InReplicaSet greeting

theorem ofGreeting_eq (greeting : Document) : Role.ofGreeting greeting =
    if IsRouter greeting then .router
    else if IsArbiterOnly greeting then .arbiter
    else if InReplicaSet greeting then .replicaMember
    else .standalone := by
  simp only [Role.ofGreeting, beq_iff_eq]

/-- Of all greetings only that of a replica set member calls for its status. -/
theorem exists_follows_roleOf (replies : Replies) (client : Client) (greeting : Document) :
    ∃ role asked, Follows replies client (roleOf client greeting) asked role ∧
      HasRole replies greeting role ∧ ∀ c, c ∈ asked ↔ c = .replicaStatus ∧ MayBeArbiter greeting := by
  have hrole := ofGreeting_eq greeting
  unfold roleOf
  by_cases hrouter : IsRouter greeting
  · rw [if_pos hrouter] at hrole
    rw [hrole]
    refine ⟨_, [], follows_pure _, .router hrouter, fun c => ?_⟩
    exact ⟨fun h => (by cases h), fun h => absurd hrouter h.2.router⟩
  rw [if_neg hrouter] at hrole
  by_cases honly : IsArbiterOnly greeting
  · rw [if_pos honly] at hrole
    rw [hrole]
    refine ⟨_, [], follows_pure _, .arbiter hrouter (.inl honly), fun c => ?_⟩
    exact ⟨fun h => (by cases h), fun h => absurd honly h.2.only⟩
  rw [if_neg honly] at hrole
  by_cases hset : InReplicaSet greeting
  · rw [if_pos hset] at hrole
    rw [hrole]
    obtain ⟨b, hfollows, hb⟩ := exists_follows_reportsArbiterState replies client
    refine ⟨_, [.replicaStatus], hfollows.last (follows_pure _), ?_, fun c => ?_⟩
    · cases b with
      | true => exact .arbiter hrouter (.inr ⟨hset, hb.1 rfl⟩)
      | false => exact .member hrouter honly hset fun h => by cases hb.2 h
    · rw [List.mem_singleton]
      exact ⟨fun h => ⟨h, hrouter, honly, hset⟩, fun h => h.1⟩
  · rw [if_neg hset] at hrole
    rw [hrole]
    refine ⟨_, [], follows_pure _, .standalone hrouter honly hset, fun c => ?_⟩
    exact ⟨fun h => (by cases h), fun h => absurd h.2.member hset⟩

/-! ## Labels -/

/-- An identifier that can be used: one of an object, or a text that is not empty. -/
inductive Usable : Value → String → Prop
  | objectId (hex : String) : Usable (.objectId hex) hex
  | string {s : String} (h : s ≠ "") : Usable (.string s) s

theorem identifier?_eq_some {v : Value} {id : String} : identifier? v = some id ↔ Usable v id := by
  constructor
  · intro h
    unfold identifier? at h
    split at h
    · cases h
      exact .objectId _
    · split at h
      · cases h
      · rename_i hs
        cases h
        exact .string (by simpa using hs)
    · cases h
  · intro h
    cases h with
    | objectId => rfl
    | string h => simp [identifier?, h]

/-- The identifier at the first of the places that holds one which can be used. -/
inductive FirstUsable : List (Option Value) → String → Prop
  | here {v : Value} {id : String} {rest : List (Option Value)} (h : Usable v id) :
    FirstUsable (some v :: rest) id
  | later {place : Option Value} {id : String} {rest : List (Option Value)}
    (h : ∀ v, place = some v → ∀ id', ¬ Usable v id') (hr : FirstUsable rest id) :
    FirstUsable (place :: rest) id

theorem firstUsable_iff {places : List (Option Value)} {id : String} :
    FirstUsable places id ↔ places.findSome? (·.bind identifier?) = some id := by
  induction places with
  | nil => exact ⟨fun h => (by cases h), fun h => (by cases h)⟩
  | cons place rest ih =>
    rw [List.findSome?_cons]
    cases h : place.bind identifier? with
    | some id' =>
      obtain ⟨v, rfl, hv⟩ := Option.bind_eq_some_iff.1 h
      constructor
      · intro hf
        cases hf with
        | here hu => rw [← identifier?_eq_some, hv] at hu; exact hu
        | later hn _ => exact absurd (identifier?_eq_some.1 hv) (hn v rfl id')
      · rintro ⟨⟩
        exact .here (identifier?_eq_some.1 hv)
    | none =>
      have hn : ∀ v, place = some v → ∀ id', ¬ Usable v id' := by
        rintro v rfl id' hu
        rw [Option.bind_some, identifier?_eq_some.2 hu] at h
        cases h
      constructor
      · intro hf
        cases hf with
        | here hu => exact absurd hu (hn _ rfl _)
        | later _ hr => exact ih.1 hr
      · intro hf
        exact .later hn (ih.2 hf)

theorem get?_label (labels : Labels) (name k : String) (value : Option String) :
    (label labels name value).get? k =
      if k = name then value.or (labels.get? k) else labels.get? k := by
  cases value with
  | none => simp [label]
  | some v => simp [label, Keyed.get?_insert]

/-- The document that was read; a failure counts as its absence. -/
def found : Except Fault (Option Document) → Option Document
  | .ok d => d
  | .error _ => none

theorem follows_lookUp (database collection : String) (filter : Document) :
    Follows replies client (lookUp client database collection filter)
      [.findOne database collection filter] (found (replies (.findOne database collection filter))) := by
  refine (follows_ask _).last ?_
  cases replies (.findOne database collection filter) <;> exact follows_pure _

/-- A router keeps no record of a shard. -/
def shardRecord? (replies : Replies) (role : Role) : Option Document :=
  if role = .router then none else found replies.shardIdentity

theorem exists_follows_shardIdentity (replies : Replies) (client : Client) (role : Role) :
    ∃ asked, Follows replies client (shardIdentity client role) asked (shardRecord? replies role) ∧
      ∀ c, c ∈ asked ↔ c = .shardIdentity ∧ role ≠ .router := by
  unfold shardIdentity shardRecord?
  by_cases hrole : role = .router
  · rw [if_pos (by simpa using hrole), if_pos hrole]
    exact ⟨[], follows_pure _, fun c => ⟨fun h => (by cases h), fun h => absurd hrole h.2⟩⟩
  · rw [if_neg (by simpa using hrole), if_neg hrole]
    refine ⟨[.shardIdentity], follows_lookUp _ _ _, fun c => ?_⟩
    rw [List.mem_singleton]
    exact ⟨fun h => ⟨h, hrole⟩, fun h => h.1⟩

/-- The places of the identity of the cluster that need no further question: in the record of the
configuration database and in that of the shard. -/
def firstPlaces (replies : Replies) (shard : Option Document) : List (Option Value) :=
  [(found replies.version).bind (Document.get? · "clusterId"),
    shard.bind (Document.get? · "clusterId")]

/-- The last place, in the configuration of the replica set. -/
def lastPlace (replies : Replies) : Option Value :=
  replies.replicaConfig.toOption.bind (Document.at? · ["config", "settings", "replicaSetId"])

theorem at?_three (d : Document) (a b c : String) : Document.at? d [a, b, c] =
    ((Document.document? d a).bind (Document.document? · b)).bind (Document.get? · c) := by
  unfold Document.at?
  cases Document.document? d a with
  | none => rfl
  | some d' =>
    rw [Option.bind_some]
    dsimp only
    unfold Document.at?
    cases Document.document? d' b <;> rfl

theorem findSome?_firstPlaces (replies : Replies) (shard : Option Document) :
    (firstPlaces replies shard).findSome? (·.bind identifier?) =
      ((found replies.version).bind (identifierAt? · "clusterId")).or
        (shard.bind (identifierAt? · "clusterId")) := by
  simp only [firstPlaces, List.findSome?_cons, List.findSome?_nil, Option.bind_assoc]
  show _ = Option.or ((found replies.version).bind fun d => (Document.get? d "clusterId").bind identifier?)
    (shard.bind fun d => (Document.get? d "clusterId").bind identifier?)
  cases (found replies.version).bind fun d => (Document.get? d "clusterId").bind identifier? with
  | some id => rfl
  | none => cases shard.bind fun d => (Document.get? d "clusterId").bind identifier? <;> rfl

/-- The last question for the identity, and how its reply is read. -/
theorem follows_lastPlace (replies : Replies) (client : Client) :
    Follows replies client (do
      match ← (administer client "replSetGetConfig").attempt with
      | .ok reply =>
        return ((Document.document? reply "config").bind (Document.document? · "settings")).bind
          (identifierAt? · "replicaSetId")
      | .error _ => return none) [.replicaConfig] ((lastPlace replies).bind identifier?) := by
  unfold lastPlace
  cases h : replies.replicaConfig with
  | error fault => exact (follows_administer h).last (follows_pure _)
  | ok reply =>
    rw [Except.toOption, Option.bind_some, at?_three, Option.bind_assoc]
    exact (follows_administer h).last (follows_pure _)

/-- The configuration of the replica set is asked for only when no identity was found before. -/
theorem exists_follows_clusterId (replies : Replies) (client : Client) (shard : Option Document) :
    ∃ id asked, Follows replies client (clusterId client shard) asked id ∧
      (∀ x, id = some x ↔ FirstUsable (firstPlaces replies shard ++ [lastPlace replies]) x) ∧
      ∀ c, c ∈ asked ↔ c = .version ∨
        c = .replicaConfig ∧ ¬ ∃ x, FirstUsable (firstPlaces replies shard) x := by
  have hversion : Follows replies client (lookUp client "config" "version" []) [.version]
      (found replies.version) := follows_lookUp _ _ _
  simp only [firstUsable_iff, List.findSome?_append, findSome?_firstPlaces, List.findSome?_singleton]
  unfold clusterId
  cases hv : (found replies.version).bind (identifierAt? · "clusterId") with
  | some id =>
    refine ⟨some id, [.version], hversion.last ?_, fun x => by simp, fun c => by simp⟩
    rw [hv]
    exact follows_pure _
  | none =>
    cases shard.bind (identifierAt? · "clusterId") with
    | some id =>
      refine ⟨some id, [.version], hversion.last ?_, fun x => by simp, fun c => by simp⟩
      rw [hv]
      exact follows_pure _
    | none =>
      refine ⟨_, [.version, .replicaConfig], hversion.next ?_, fun x => Iff.rfl, fun c => by simp⟩
      rw [hv]
      exact follows_lastPlace replies client

/-- The part that the server plays in a sharded cluster. -/
inductive HasClusterRole (replies : Replies) (greeting : Document) (role : Role) : String → Prop
  | mongos (h : role = .router) : HasClusterRole replies greeting role "mongos"
  | configsvr (h : role ≠ .router) (hc : Document.has greeting "configsvr" = true) :
    HasClusterRole replies greeting role "configsvr"
  | shardsvr {record : Document} (h : role ≠ .router)
    (hc : Document.has greeting "configsvr" = false)
    (hs : replies.shardIdentity = .ok (some record)) : HasClusterRole replies greeting role "shardsvr"

theorem found_eq_some {x : Except Fault (Option Document)} {d : Document} :
    found x = some d ↔ x = .ok (some d) := by
  cases x <;> simp [found]

theorem clusterRole?_eq_some {role : Role} {text : String} :
    clusterRole? role greeting (shardRecord? replies role) = some text ↔
      HasClusterRole replies greeting role text := by
  unfold clusterRole? shardRecord?
  by_cases hrole : role = .router
  · rw [if_pos (by simpa using hrole), Option.some.injEq]
    refine ⟨fun h => h ▸ .mongos hrole, fun h => ?_⟩
    cases h with
    | mongos => rfl
    | configsvr h => exact absurd hrole h
    | shardsvr h => exact absurd hrole h
  rw [if_neg (by simpa using hrole), if_neg hrole]
  cases hc : Document.has greeting "configsvr" with
  | true =>
    rw [if_pos rfl, Option.some.injEq]
    refine ⟨fun h => h ▸ .configsvr hrole hc, fun h => ?_⟩
    cases h with
    | mongos h => exact absurd h hrole
    | configsvr => rfl
    | shardsvr _ hc' => rw [hc] at hc'; cases hc'
  | false =>
    rw [if_neg Bool.false_ne_true]
    constructor
    · intro h
      split at h
      · rename_i hs
        obtain ⟨record, hrecord⟩ := Option.isSome_iff_exists.1 hs
        cases h
        exact .shardsvr hrole hc (found_eq_some.1 hrecord)
      · cases h
    · intro h
      cases h with
      | mongos h => exact absurd h hrole
      | configsvr _ hc' => rw [hc] at hc'; cases hc'
      | shardsvr _ _ hs => rw [found_eq_some.2 hs]; rfl

end Deployment

end MongoMetrics
