/-
Which collectors are registered. The settings and the role of the server decide, and for the statistics
of collections and indexes also how many collections there are: they are left out when there are more
than the limit allows or when counting takes too long, but not when it fails. Main statement:
`registered_collectors`.
-/
import MongoMetrics.Proofs.Catalogue.Counting
import MongoMetrics.Proofs.Service.Scrapes

namespace MongoMetrics

open MongoMetrics.Catalogue MongoMetrics.Scrape

namespace Exporter

variable {s : Settings} {client : Client} {w : World} {t : Instant}

/-! ## The limit of collections -/

/-- The number of collections does not stand against reading statistics: any number is allowed, a count
comes in time to no more than the limit, or it fails in time. -/
inductive Admits (s : Settings) (client : Client) (w : World) (t : Instant) : Prop
  | unlimited (h : s.collectionLimit = 0)
  | few {n : Nat} {ready : Instant} (h : Counted client w t (.ok n) ready) (ht : ready ≤ t + s.limit)
    (hn : n ≤ s.collectionLimit)
  | failed {fault : Fault} {ready : Instant} (h : Counted client w t (.error fault) ready)
    (ht : ready ≤ t + s.limit)

/-- The statistics are left out: a count comes in time to more than the limit, or to nothing. -/
inductive Refuses (s : Settings) (client : Client) (w : World) (t : Instant) : Prop
  | many {n : Nat} {ready : Instant} (hs : s.collectionLimit ≠ 0) (h : Counted client w t (.ok n) ready)
    (ht : ready ≤ t + s.limit) (hn : s.collectionLimit < n)
  | late (hs : s.collectionLimit ≠ 0) (h : ∀ x ready, Counted client w t x ready → t + s.limit < ready)

theorem Admits.not_refuses (h : Admits s client w t) : ¬ Refuses s client w t := by
  intro hr
  cases h with
  | unlimited h =>
    cases hr with
    | many hs => exact hs h
    | late hs => exact hs h
  | few h ht hn =>
    cases hr with
    | many _ h' _ hn' =>
      cases (h.unique h').1
      exact Nat.not_lt.2 hn hn'
    | late _ h' => exact Nat.not_lt.2 ht (h' _ _ h)
  | failed h ht =>
    cases hr with
    | many _ h' => cases (h.unique h').1
    | late _ h' => exact Nat.not_lt.2 ht (h' _ _ h)

/-- What a count comes to in time. -/
def countWithin (s : Settings) (client : Client) (w : World) (t : Instant) : Option (Except Fault Nat) :=
  Session.valueWithin s.limit (countCollections client [] []).attempt w t

theorem countWithin_eq_some {x : Except Fault Nat} : countWithin s client w t = some x ↔
    ∃ ready, Counted client w t x ready ∧ ready ≤ t + s.limit := by
  simp only [countWithin, Session.valueWithin_eq_some, outcome_countCollections]

theorem countWithin_eq_none (h : countWithin s client w t = none) {x : Except Fault Nat}
    {ready : Instant} (hx : Counted client w t x ready) : t + s.limit < ready := by
  by_contra hle
  rw [countWithin_eq_some.2 ⟨ready, hx, Nat.not_lt.1 hle⟩] at h
  cases h

/-- Whether a count allows to read statistics. -/
def allows (s : Settings) : Option (Except Fault Nat) → Bool
  | some (.ok n) => n ≤ s.collectionLimit
  | some (.error _) => true
  | none => false

theorem outcome_readsStats (s : Settings) (client : Client) (w : World) (t : Instant) :
    ∃ ready, ((readsStats s client).run w t).outcome = some (s.wantsStats &&
      (s.collectionLimit == 0 || allows s (countWithin s client w t)), ready) := by
  unfold readsStats
  cases s.wantsStats with
  | false => exact ⟨t, rfl⟩
  | true =>
    rw [if_neg (by simp)]
    by_cases hlimit : s.collectionLimit = 0
    · rw [if_pos (by simpa using hlimit), hlimit]
      exact ⟨t, rfl⟩
    · rw [if_neg (by simpa using hlimit), Session.outcome_bind, Session.outcome_within,
        (beq_eq_false_iff_ne.2 hlimit : (s.collectionLimit == 0) = false)]
      show ∃ ready, ((_ : Session Bool).run w _).outcome = some (allows s (countWithin s client w t), ready)
      rw [countWithin]
      cases Session.valueWithin s.limit (countCollections client [] []).attempt w t with
      | none => exact ⟨_, rfl⟩
      | some x => cases x <;> exact ⟨_, rfl⟩

/-- What is decided from the count agrees with the two relations, which so exclude each other and leave
nothing out. -/
theorem admits_or_refuses (s : Settings) (client : Client) (w : World) (t : Instant) :
    (s.collectionLimit == 0 || allows s (countWithin s client w t)) = true ∧ Admits s client w t ∨
    (s.collectionLimit == 0 || allows s (countWithin s client w t)) = false ∧ Refuses s client w t := by
  by_cases hlimit : s.collectionLimit = 0
  · exact .inl ⟨by simp [hlimit], .unlimited hlimit⟩
  rw [(beq_eq_false_iff_ne.2 hlimit : (s.collectionLimit == 0) = false), Bool.false_or]
  cases hcount : countWithin s client w t with
  | none => exact .inr ⟨rfl, .late hlimit fun x ready => countWithin_eq_none hcount⟩
  | some x =>
    obtain ⟨ready, hcounted, hready⟩ := countWithin_eq_some.1 hcount
    cases x with
    | error fault => exact .inl ⟨rfl, .failed hcounted hready⟩
    | ok n =>
      by_cases hn : n ≤ s.collectionLimit
      · exact .inl ⟨decide_eq_true hn, .few hcounted hready hn⟩
      · exact .inr ⟨decide_eq_false hn, .many hlimit hcounted hready (Nat.not_le.1 hn)⟩

/-! ## Names -/

/-- The names of the collectors in order, for settings, a role and whether statistics are admitted. -/
def collectorNames (s : Settings) (role : Role) (admits : Bool) : List String :=
  ["process", "general"] ++
  (if s.diagnosticData then ["diagnosticdata"] else []) ++
  (if s.replicaStatus ∧ (role = .replicaMember ∨ role = .arbiter) then ["replicasetstatus"] else []) ++
  (if s.databaseStats then ["dbstats"] else []) ++
  (if s.collectionNamespaces ≠ [] ∧ admits then ["collstats"] else []) ++
  (if s.indexNamespaces ≠ [] ∧ admits then ["indexstats"] else []) ++
  (if s.sharding ∧ role = .router then ["sharded"] else [])

theorem exists_statsSources {admits : Bool} {ready : Instant}
    (h : ((readsStats s client).run w t).outcome = some (s.wantsStats && admits, ready)) :
    ∃ stats, ((statsSources s client).run w t).outcome = some (stats, ready) ∧
      stats.map Scrape.Source.family =
        (if s.collectionNamespaces ≠ [] ∧ admits then ["collstats"] else []) ++
        (if s.indexNamespaces ≠ [] ∧ admits then ["indexstats"] else []) := by
  unfold statsSources
  rw [Session.outcome_bind, h, Option.bind_some]
  unfold Settings.wantsStats
  cases admits with
  | false => exact ⟨[], by simp, by simp⟩
  | true =>
    cases hc : s.collectionNamespaces with
    | nil =>
      cases hi : s.indexNamespaces with
      | nil => exact ⟨[], rfl, rfl⟩
      | cons ns rest => exact ⟨_, rfl, rfl⟩
    | cons ns rest =>
      cases hi : s.indexNamespaces with
      | nil => exact ⟨_, rfl, rfl⟩
      | cons ns rest => exact ⟨_, rfl, rfl⟩

theorem names_withStats (s : Settings) (c : Connection) {stats : List Scrape.Source} {admits : Bool}
    (h : stats.map Scrape.Source.family =
      (if s.collectionNamespaces ≠ [] ∧ admits then ["collstats"] else []) ++
      (if s.indexNamespaces ≠ [] ∧ admits then ["indexstats"] else [])) :
    "process" :: (withStats s c stats).map Scrape.Source.family =
      collectorNames s c.deployment.role admits := by
  have hite : ∀ (p : Prop) [Decidable p] (source : Scrape.Source),
      (if p then [source] else []).map Scrape.Source.family = if p then [source.family] else [] := by
    intro p _ source
    split <;> rfl
  unfold withStats collectorNames
  simp only [List.map_append, h, hite, Role.hasReplicaStatus, Bool.and_eq_true, Bool.or_eq_true,
    beq_iff_eq, List.append_assoc]
  rfl

theorem names_ofMembers (e : Exporter) (c : Connection) (found : List Scrape.Source) :
    (Roster.ofMembers (e.members c found)).names = "process" :: found.map Scrape.Source.family := by
  simp only [Roster.names, Roster.ofMembers, members, List.map_cons, List.map_map]
  rfl

/-! ## Questions -/

/-- Collections are counted when their number is limited and statistics are asked for. -/
def Counts (s : Settings) : Prop :=
  s.collectionLimit ≠ 0 ∧ (s.collectionNamespaces ≠ [] ∨ s.indexNamespaces ≠ [])

theorem wantsStats_iff : s.wantsStats = true ↔ s.collectionNamespaces ≠ [] ∨ s.indexNamespaces ≠ [] := by
  simp [Settings.wantsStats]

theorem opens_readsStats (h : Counts s) (client : Client) :
    Session.Opens (.call client (.listDatabases outsideSystem)) (IsListing client)
      (readsStats s client) := by
  unfold readsStats
  rw [wantsStats_iff.2 h.2, if_neg (by simp), if_neg (by simpa using h.1)]
  refine ((opens_countCollections client).within s.limit).bind fun answer => ?_
  split <;> exact Session.confined_pure _

theorem silent_readsStats (h : ¬ Counts s) (client : Client) :
    Session.Confined (fun _ => False) (readsStats s client) := by
  unfold readsStats
  split
  · exact Session.confined_pure _
  · rename_i hwants
    rw [Bool.not_eq_true, Bool.not_eq_false', wantsStats_iff] at hwants
    rw [if_pos (by simpa using fun hlimit => h ⟨hlimit, hwants⟩)]
    exact Session.confined_pure _

/-! ## Rosters -/

theorem opens_roster (e : Exporter) (c : Connection) (h : Counts e.settings) :
    Session.Opens (.call c.client (.listDatabases outsideSystem)) (IsListing c.client) (e.roster c) := by
  refine Session.Opens.bind (Session.Opens.bind (Session.Opens.bind (opens_readsStats h c.client)
    fun reads => ?_) fun stats => Session.confined_pure _) fun found => Session.confined_pure _
  split <;> exact Session.confined_pure _

theorem silent_roster (e : Exporter) (c : Connection) (h : ¬ Counts e.settings) :
    Session.Confined (fun _ => False) (e.roster c) := by
  refine Session.Confined.bind (Session.Confined.bind (Session.Confined.bind
    (silent_readsStats h c.client) fun reads => ?_) fun stats => Session.confined_pure _)
    fun found => Session.confined_pure _
  split <;> exact Session.confined_pure _

/-- The collectors of a connection follow from the settings and the role of the server, and the
statistics of collections and indexes besides from a count of the collections outside the system
databases. They always can be registered. The statistics are admitted unless there is a limit and the
count comes in time to more or comes to nothing in time; so a count that fails admits them. The server is
asked for the count exactly when there is a limit and statistics are asked for, and for nothing else. -/
theorem registered_collectors (e : Exporter) (c : Connection) (w : World) (t : Instant) :
    (∃ (roster : Roster) (ready : Instant) (admits : Bool),
      ((e.roster c).run w t).outcome = some (.ok roster, ready) ∧
      roster.names = collectorNames e.settings c.deployment.role admits ∧
      (admits = true ↔ Admits e.settings c.client w t) ∧
      (admits = false ↔ Refuses e.settings c.client w t)) ∧
    (Counts e.settings → ∃ rest, ((e.roster c).run w t).events =
        (t, .call c.client (.listDatabases outsideSystem)) :: rest ∧
      ∀ x ∈ rest, IsListing c.client x.2) ∧
    (¬ Counts e.settings → ((e.roster c).run w t).events = []) ∧
    ∀ name, outsideSystem.accepts name = true ↔ name ∉ ["admin", "config", "local"] := by
  refine ⟨?_, fun h => (opens_roster e c h).first w t, fun h => ?_, accepts_outsideSystem⟩
  · obtain ⟨ready, hreads⟩ := outcome_readsStats e.settings c.client w t
    obtain ⟨stats, hstats, hnames⟩ := exists_statsSources hreads
    obtain ⟨found, began, hfound, -, hroster⟩ := e.outcome_roster c w t
    rw [sources_eq, Session.outcome_map, hstats] at hfound
    cases hfound
    refine ⟨_, ready, _, hroster, (names_ofMembers e c _).trans (names_withStats _ c hnames), ?_⟩
    rcases admits_or_refuses e.settings c.client w t with ⟨ha, hadmits⟩ | ⟨ha, hrefuses⟩
    · rw [ha]
      exact ⟨⟨fun _ => hadmits, fun _ => rfl⟩,
        fun h => (by cases h), fun h => absurd h hadmits.not_refuses⟩
    · rw [ha]
      exact ⟨⟨fun h => (by cases h), fun h => absurd hrefuses h.not_refuses⟩,
        fun _ => hrefuses, fun _ => rfl⟩
  · exact List.eq_nil_iff_forall_not_mem.2 fun x hx => (silent_roster e c h w t).kind x hx

/-- Two collections outside the system databases are more than a limit of one. -/
example :
    let s : Settings := { Settings.default with collectionNamespaces := ["db1"], collectionLimit := 1 }
    let w := plainServer ["admin", "db1"] fun _ => [("a", false), ("b", true)]
    ((readsStats s 0).run w 0).outcome = some (false, 0) := by decide +kernel

end Exporter

end MongoMetrics
