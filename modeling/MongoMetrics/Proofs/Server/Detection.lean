/-
What is found out about a server. A server that answers no greeting stays unknown; otherwise its role and
its labels follow from its replies (`Described`), however long it takes for each. No question is put twice,
so every run that is ready is one of a server with fixed replies. Main statement:
`replies_decide_deployment`.
-/
import MongoMetrics.Proofs.Extraction.Fresh
import MongoMetrics.Proofs.Server.Recognition

namespace MongoMetrics.Deployment

open MongoMetrics.Session

variable {replies : Replies} {client : Client} {greeting : Document} {w : World} {t : Instant}

/-! ## Deployments -/

/-- The labels of a deployment, each under its own name. -/
theorem get?_labels (replicaSet clusterRole clusterId : Option String) (k : String) :
    (label (label (label {} replicaSetLabel replicaSet) clusterRoleLabel clusterRole) clusterIdLabel
      clusterId).get? k =
    if k = "cl_id" then clusterId else if k = "cl_role" then clusterRole
    else if k = "rs_nm" then replicaSet else none := by
  have hempty : ({} : Labels).get? k = none := rfl
  rw [get?_label, get?_label, get?_label, hempty, clusterIdLabel, clusterRoleLabel, replicaSetLabel]
  by_cases hid : k = "cl_id"
  · subst hid
    simp
  · by_cases hrole : k = "cl_role"
    · subst hrole
      simp
    · simp only [if_neg hid, if_neg hrole, Option.or_none]

/-- What is found out about a server that has answered a greeting, and what it is asked for this. -/
structure Described (replies : Replies) (greeting : Document) (d : Deployment) (asked : List Call) :
    Prop where
  role : HasRole replies greeting d.role
  replicaSet : ∀ name, d.labels.get? "rs_nm" = some name ↔
    Document.get? greeting "setName" = some (.string name)
  clusterRole : ∀ text, d.labels.get? "cl_role" = some text ↔
    HasClusterRole replies greeting d.role text
  clusterId : ∀ id, d.labels.get? "cl_id" = some id ↔
    FirstUsable (firstPlaces replies (shardRecord? replies d.role) ++ [lastPlace replies]) id
  /-- There are no other labels. -/
  keys : ∀ k ∈ d.labels.keys, k ∈ ["rs_nm", "cl_role", "cl_id"]
  /-- The record of the configuration database is always asked for, that of the shard unless the
  server is a router, and the replica set where the reply may matter. -/
  asked : ∀ c, c ∈ asked ↔ c = .replicaStatus ∧ MayBeArbiter greeting ∨
    c = .shardIdentity ∧ d.role ≠ .router ∨ c = .version ∨
    c = .replicaConfig ∧ ¬ ∃ id, FirstUsable (firstPlaces replies (shardRecord? replies d.role)) id

theorem Greeted.exists_follows_identify {greetings : List Call}
    (h : Greeted replies greeting greetings) (client : Client) : ∃ d further,
      Follows replies client (identify client) (greetings ++ further) d ∧
      Described replies greeting d further := by
  obtain ⟨role, a, hrole, hhas, ha⟩ := exists_follows_roleOf replies client greeting
  obtain ⟨b, hshard, hb⟩ := exists_follows_shardIdentity replies client role
  obtain ⟨id, e, hid, hfirst, he⟩ :=
    exists_follows_clusterId replies client (shardRecord? replies role)
  refine ⟨_, a ++ (b ++ e),
    h.follows.bind (hrole.bind (hshard.bind (hid.last (follows_pure _)))), ?_⟩
  exact {
    role := hhas
    replicaSet := fun name => by rw [get?_labels, ← Document.string?_eq_some]; rfl
    clusterRole := fun text => by rw [get?_labels, ← clusterRole?_eq_some]; rfl
    clusterId := fun x => by rw [get?_labels, ← hfirst]; rfl
    keys := fun k hk => by
      rw [Keyed.mem_keys_iff, get?_labels] at hk
      by_contra hn
      simp only [List.mem_cons, List.not_mem_nil, or_false, not_or] at hn
      rw [if_neg hn.2.2, if_neg hn.2.1, if_neg hn.1] at hk
      cases hk
    asked := fun c => by simp only [List.mem_append, ha, hb, he] }

/-- Without an answer to a greeting nothing is known, and nothing more is asked. -/
theorem Ungreeted.follows_identify {greetings : List Call} (h : Ungreeted replies greetings)
    (client : Client) : Follows replies client (identify client) greetings unknown := by
  obtain ⟨fault, hfollows⟩ := h.follows client
  exact hfollows.last (follows_pure _)

/-- What is found out about a server, and what it is asked for this. -/
structure Detected (replies : Replies) (d : Deployment) (asked : List Call) : Prop where
  /-- Nothing is known, and nothing but greetings was asked, exactly when none of them is answered. -/
  unknown : (d = Deployment.unknown ∧ ∀ c ∈ asked, c = .hello ∨ c = .isMaster) ↔
    ∃ greetings, Ungreeted replies greetings
  /-- No other server has the unknown role. -/
  role : d.role = .unknown ↔ ∃ greetings, Ungreeted replies greetings
  ungreeted : ∀ greetings, Ungreeted replies greetings → asked = greetings
  /-- The greeting is put by its older name as well when the server refuses it. -/
  isMaster : .isMaster ∈ asked ↔ AsksAgain replies
  /-- When a greeting is answered, the rest follows from the reply. -/
  described : ∀ greeting greetings, Greeted replies greeting greetings →
    ∃ further, asked = greetings ++ further ∧ Described replies greeting d further

theorem Described.isMaster_not_mem {d : Deployment} {asked : List Call}
    (h : Described replies greeting d asked) : .isMaster ∉ asked := by
  rw [h.asked]
  simp [Call.isMaster, Call.replicaStatus, Call.replicaConfig, Call.administer, Call.shardIdentity,
    Call.version]

theorem HasRole.ne_unknown {role : Role} (h : HasRole replies greeting role) : role ≠ .unknown := by
  cases h <;> exact Role.noConfusion

/-! ## Questions of a run -/

theorem puts_administer (client : Client) (name : String) :
    Puts client [.administer name] (administer client name).attempt :=
  puts_ask _

theorem puts_greeting (client : Client) :
    Puts client [.hello, .isMaster] (Deployment.greeting client).attempt := by
  refine (puts_administer client "hello").next fun answer => ?_
  cases answer with
  | ok reply => exact puts_nothing _ _
  | error fault =>
    dsimp only
    split
    · exact puts_nothing _ _
    · exact puts_administer client "isMaster"

theorem puts_roleOf (client : Client) (greeting : Document) :
    Puts client [.replicaStatus] (roleOf client greeting) := by
  unfold roleOf
  dsimp only
  split
  · refine Puts.last ?_ fun _ => puts_pure _
    refine (puts_administer client "replSetGetStatus").last fun answer => ?_
    cases answer <;> exact puts_pure _
  · exact puts_nothing _ _

theorem puts_lookUp (client : Client) (database collection : String) (filter : Document) :
    Puts client [.findOne database collection filter] (lookUp client database collection filter) := by
  refine (puts_ask _).last fun answer => ?_
  cases answer <;> exact puts_pure _

theorem puts_shardIdentity (client : Client) (role : Role) :
    Puts client [.shardIdentity] (shardIdentity client role) := by
  unfold shardIdentity
  split
  · exact puts_nothing _ _
  · exact puts_lookUp client _ _ _

theorem puts_clusterId (client : Client) (shard : Option Document) :
    Puts client [.version, .replicaConfig] (clusterId client shard) := by
  refine Puts.next (puts_lookUp client _ _ _) fun record => ?_
  split
  · exact puts_nothing _ _
  · split
    · exact puts_nothing _ _
    · refine (puts_administer client "replSetGetConfig").last fun answer => ?_
      cases answer <;> exact puts_pure _

/-- At most six questions, each of them once. -/
def questions : List Call :=
  [.hello, .isMaster, .replicaStatus, .shardIdentity, .version, .replicaConfig]

theorem nodup_questions : questions.Nodup := by
  simp [questions, Call.hello, Call.isMaster, Call.replicaStatus, Call.replicaConfig, Call.administer,
    Call.shardIdentity, Call.version]

theorem puts_identify (client : Client) : Puts client questions (identify client) := by
  refine (puts_greeting client).bind fun answer => ?_
  cases answer with
  | error fault => exact puts_nothing _ _
  | ok reply =>
    refine (puts_roleOf client reply).next fun role => ?_
    refine (puts_shardIdentity client role).next fun shard => ?_
    exact (puts_clusterId client shard).last fun id => puts_pure _

/-! ## Runs -/

theorem exists_detected (h : Agrees replies client w ((identify client).run w t)) :
    ∃ d asked ready, ((identify client).run w t).outcome = some (d, ready) ∧
      ((identify client).run w t).events.map Prod.snd = asked.map (Event.call client) ∧
      Detected replies d asked := by
  rcases greeted_or_ungreeted replies with ⟨greeting, greetings, hg⟩ | ⟨greetings, hu⟩
  · obtain ⟨d, further, hfollows, hd⟩ := hg.exists_follows_identify client
    obtain ⟨ready, hready, hevents⟩ := hfollows w t h
    have hnot : ¬ ∃ greetings, Ungreeted replies greetings := fun ⟨_, hu⟩ => hg.not_ungreeted hu
    refine ⟨d, _, ready, hready, hevents, ?_, ?_, ?_, ?_, ?_⟩
    · exact ⟨fun hu => absurd (congrArg Deployment.role hu.1) hd.role.ne_unknown,
        fun hu => absurd hu hnot⟩
    · exact ⟨fun hrole => absurd hrole hd.role.ne_unknown, fun hu => absurd hu hnot⟩
    · exact fun _ hu => absurd ⟨_, hu⟩ hnot
    · rw [List.mem_append, hg.isMaster_mem_iff]
      exact ⟨fun hm => hm.resolve_right hd.isMaster_not_mem, .inl⟩
    · intro other greetings' hother
      obtain ⟨rfl, rfl⟩ := hg.unique hother
      exact ⟨further, rfl, hd⟩
  · obtain ⟨ready, hready, hevents⟩ := hu.follows_identify client w t h
    refine ⟨Deployment.unknown, _, ready, hready, hevents, ?_, ?_, ?_, hu.isMaster_mem_iff, ?_⟩
    · exact ⟨fun _ => ⟨_, hu⟩, fun _ => ⟨rfl, hu.greeting_of_mem⟩⟩
    · exact ⟨fun _ => ⟨_, hu⟩, fun _ => rfl⟩
    · exact fun _ hu' => hu.unique hu'
    · intro greeting greetings' hg
      exact absurd hu hg.not_ungreeted

/-- The replies of a server decide what is found out about it. Every run that is ready agrees with some
replies, as no question is put twice; and where a run agrees with replies, after whatever delays, it is
ready. The deployment is unknown, and nothing further is asked, exactly when no greeting is answered.
Otherwise the role and each label follow from the replies by rules of precedence, and the questions put
are those whose replies may matter. -/
theorem replies_decide_deployment (client : Client) (w : World) (t : Instant) :
    (((identify client).run w t).outcome.isSome →
      ∃ replies, Agrees replies client w ((identify client).run w t)) ∧
    ∀ replies, Agrees replies client w ((identify client).run w t) →
      ∃ d asked ready, ((identify client).run w t).outcome = some (d, ready) ∧
        ((identify client).run w t).events.map Prod.snd = asked.map (Event.call client) ∧
        Detected replies d asked :=
  ⟨(puts_identify client).exists_agrees nodup_questions, fun _ => exists_detected⟩

/-- A shard that refuses the newer greeting and whose status shows it as an arbiter. Its record has an
empty identity, and the configuration database has none, so that of the replica set counts. -/
def arbiterReplies : Replies
  | .command _ body =>
    match body.head?.map Prod.fst with
    | some "isMaster" => .ok [("setName", .string "rs0")]
    | some "replSetGetStatus" => .ok [("members", .array [.document [("self", .boolean false)],
        .document [("self", .boolean true), ("state", .double 7.9)]])]
    | some "replSetGetConfig" => .ok [("config", .document [("settings", .document
        [("replicaSetId", .objectId "5f3a")])])]
    | _ => .error (.command "hello" (some 59) "no such command")
  | .findOne "admin" _ _ => .ok (some [("clusterId", .string "")])
  | .findOne .. => .ok none
  | .listDatabases _ => .ok []
  | .listCollections .. => .ok []
  | .aggregate .. => .ok []

/-- A world in which every call is answered after one delay. -/
def replying (delay : Duration) (replies : Replies) : World where
  connect _ _ := .never
  answer _ _ c := .after delay (replies c)
  wallClock _ := 0
  residentBytes _ := none
  parallelism := none

theorem replies_decide_deployment_of_arbiter :
    let w := replying 3 arbiterReplies
    let run := (identify 0).run w 0
    run.outcome.map (fun r => (r.1.role, r.1.labels.toList, r.2)) =
      some (.arbiter, [("cl_id", "5f3a"), ("cl_role", "shardsvr"), ("rs_nm", "rs0")], 18) ∧
    run.outcome.isSome ∧ (∃ replies, Agrees replies 0 w run) ∧ Agrees arbiterReplies 0 w run ∧
    ∃ d asked ready, run.outcome = some (d, ready) ∧
      run.events.map Prod.snd = asked.map (Event.call 0) ∧ Detected arbiterReplies d asked := by
  intro w run
  have hready : run.outcome.isSome := by decide +kernel
  have hagrees : Agrees arbiterReplies 0 w run := fun _ _ _ => ⟨3, rfl⟩
  refine ⟨by decide +kernel, hready, ?_, hagrees, ?_⟩
  · exact (replies_decide_deployment 0 w 0).1 hready
  · exact (replies_decide_deployment 0 w 0).2 arbiterReplies hagrees

end MongoMetrics.Deployment
