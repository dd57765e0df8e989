/-
What readers of the exporter get. Its roster always can be made: the sources have distinct names,
under none of which the process is registered, and all of them are valid. Over a run of requests the
exporter only keeps connections whose deployment was found out by asking, so that all labels it adds
have fixed names. Main statement (`scrapes_are_well_formed`): every scrape is a well-formed exposition,
whatever the settings are and whatever the server answers.
-/
import MongoMetrics.Proofs.Scrape.Validity
import MongoMetrics.Service.Exporter

namespace MongoMetrics

open MongoMetrics.Exposition MongoMetrics.Scrape

/-! ## Deployments -/

namespace Deployment

/-- A role with the labels that are known. -/
def known (role : Role) (replicaSet clusterRole clusterId : Option String) : Deployment :=
  ⟨role, label (label (label {} replicaSetLabel replicaSet) clusterRoleLabel clusterRole)
    clusterIdLabel clusterId⟩

def IsKnown (d : Deployment) : Prop :=
  ∃ role replicaSet clusterRole clusterId, d = known role replicaSet clusterRole clusterId

theorem isKnown_unknown : unknown.IsKnown := ⟨.unknown, none, none, none, rfl⟩

theorem validLabels_label {labels : Labels} (h : ValidLabels labels) {name : String}
    (hn : isLabelName name = true) (value : Option String) : ValidLabels (label labels name value) := by
  cases value with
  | none => exact h
  | some v => exact h.insert hn

theorem IsKnown.validLabels {d : Deployment} (h : d.IsKnown) : ValidLabels d.labels := by
  obtain ⟨role, replicaSet, clusterRole, clusterId, rfl⟩ := h
  exact validLabels_label (validLabels_label (validLabels_label ValidLabels.empty (by decide) _)
    (by decide) _) (by decide) _

/-- A server that is asked turns out to be a deployment with the known labels. -/
theorem yields_identify (client : Client) : Session.Yields (identify client) IsKnown := by
  refine Session.yields_bind Session.yields_true fun answer _ => ?_
  cases answer with
  | error fault => exact Session.yields_pure isKnown_unknown
  | ok reply =>
    refine Session.yields_bind Session.yields_true fun role _ => ?_
    refine Session.yields_bind Session.yields_true fun shard _ => ?_
    refine Session.yields_bind Session.yields_true fun id _ => ?_
    exact Session.yields_pure ⟨role, _, _, id, rfl⟩

end Deployment

/-! ## Registration -/

namespace Scrape.Roster

theorem registerAll_of_nodup {r : Roster} {cs : List Collector}
    (h : (r.names ++ cs.map Collector.name).Nodup) :
    r.registerAll cs = .ok ⟨r.members ++ cs.map fun c => (c, none)⟩ := by
  induction cs generalizing r with
  | nil => simp [registerAll]; rfl
  | cons c rest ih =>
    have hnew : r.names.contains c.name = false := by
      rw [List.nodup_append] at h
      refine Bool.eq_false_iff.2 fun hc => ?_
      exact h.2.2 c.name (List.contains_iff_mem.1 hc) c.name (by simp) rfl
    have hrest : ((⟨r.members ++ [(c, none)]⟩ : Roster).names ++ rest.map Collector.name).Nodup := by
      simpa [names] using h
    have hreg : r.register c = .ok ⟨r.members ++ [(c, none)]⟩ := by
      rw [register, hnew]
      rfl
    show (r.register c >>= fun r' => r'.registerAll rest) = _
    rw [hreg]
    show (⟨r.members ++ [(c, none)]⟩ : Roster).registerAll rest = _
    rw [ih hrest]
    simp

end Scrape.Roster

namespace Exporter

/-! ## Sources -/

/-- Valid sources that have some of the names, in their order. -/
structure Among (names : List String) (sources : List Scrape.Source) : Prop where
  valid : ∀ s ∈ sources, Source.Valid s
  names : (sources.map Scrape.Source.family).Sublist names

theorem among_nil (names : List String) : Among names [] :=
  ⟨fun _ hs => (by cases hs), List.nil_sublist _⟩

theorem among_singleton {s : Scrape.Source} (h : Source.Valid s) : Among [s.family] [s] :=
  ⟨fun _ hx => List.mem_singleton.1 hx ▸ h, List.Sublist.refl _⟩

theorem among_ite {names : List String} {a b : List Scrape.Source} (c : Prop) [Decidable c]
    (ha : Among names a) (hb : Among names b) : Among names (if c then a else b) := by
  split
  · exact ha
  · exact hb

theorem Among.append {names names' : List String} {a b : List Scrape.Source} (ha : Among names a)
    (hb : Among names' b) : Among (names ++ names') (a ++ b) := by
  refine ⟨fun s hs => ?_, ?_⟩
  · rcases List.mem_append.1 hs with hs | hs
    · exact ha.valid s hs
    · exact hb.valid s hs
  · rw [List.map_append]
    exact ha.names.append hb.names

theorem gives_readsStats (s : Settings) (client : Client) :
    Session.Gives (readsStats s client) fun _ => True := by
  unfold readsStats
  split
  · exact Session.gives_pure trivial
  · split
    · exact Session.gives_pure trivial
    · refine Session.gives_bind (Session.gives_within _ _) fun count _ => ?_
      split
      · exact Session.gives_pure trivial
      · exact Session.gives_pure trivial
      · exact Session.gives_pure trivial

theorem gives_statsSources (s : Settings) (client : Client) :
    Session.Gives (statsSources s client) (Among ["collstats", "indexstats"]) := by
  refine Session.gives_bind (gives_readsStats s client) fun reads _ => ?_
  cases reads with
  | false => exact Session.gives_pure (among_nil _)
  | true =>
    have hcollections := among_ite (s.collectionNamespaces.isEmpty = true) (among_nil _)
      (among_singleton (Source.valid_collectionStats client s.collectionNamespaces s.discovering
        s.naming))
    have hindexes := among_ite (s.indexNamespaces.isEmpty = true) (among_nil _)
      (among_singleton (Source.valid_indexStats client s.indexNamespaces s.discovering))
    exact Session.gives_pure (hcollections.append hindexes)

/-- All sources of a connection, once those of statistics are known. -/
def withStats (s : Settings) (c : Connection) (stats : List Scrape.Source) : List Scrape.Source :=
  [Source.general c.client] ++
    (if s.diagnosticData then [Source.diagnosticData c.client c.deployment s.naming] else []) ++
    (if s.replicaStatus && c.deployment.role.hasReplicaStatus then
      [Source.replicaStatus c.client c.deployment] else []) ++
    (if s.databaseStats then [Source.databaseStats c.client s.databaseNamespaces] else []) ++
    stats ++
    (if s.sharding && c.deployment.role == .router then [Source.sharding c.client] else [])

theorem sources_eq (s : Settings) (c : Connection) :
    sources s c = statsSources s c.client >>= fun stats => Pure.pure (withStats s c stats) := rfl

theorem among_withStats (s : Settings) (c : Connection) {names : List String}
    {stats : List Scrape.Source} (hstats : Among names stats) :
    Among (["general", "diagnosticdata", "replicasetstatus", "dbstats"] ++ names ++ ["sharded"])
      (withStats s c stats) := by
  have hgeneral : Among ["general"] [Source.general c.client] :=
    among_singleton (Source.valid_general _)
  have hdiagnostic := among_ite (s.diagnosticData = true)
    (among_singleton (Source.valid_diagnosticData c.client c.deployment s.naming)) (among_nil _)
  have hreplica := among_ite ((s.replicaStatus && c.deployment.role.hasReplicaStatus) = true)
    (among_singleton (Source.valid_replicaStatus c.client c.deployment)) (among_nil _)
  have hdatabases := among_ite (s.databaseStats = true)
    (among_singleton (Source.valid_databaseStats c.client s.databaseNamespaces)) (among_nil _)
  have hsharding := among_ite ((s.sharding && c.deployment.role == .router) = true)
    (among_singleton (Source.valid_sharding c.client)) (among_nil _)
  exact ((((hgeneral.append hdiagnostic).append hreplica).append hdatabases).append hstats).append hsharding

/-- The names of all sources. -/
def sourceNames : List String :=
  ["general", "diagnosticdata", "replicasetstatus", "dbstats", "collstats", "indexstats", "sharded"]

theorem gives_sources (s : Settings) (c : Connection) :
    Session.Gives (sources s c) (Among sourceNames) := by
  rw [sources_eq]
  refine Session.gives_bind (gives_statsSources s c.client) fun stats hstats => ?_
  exact Session.gives_pure (among_withStats s c hstats)

/-! ## One scrape -/

/-- How the collectors of a connection read. -/
def conditions (s : Settings) (c : Connection) : Conditions := ⟨c.deployment, s.naming, s.limit⟩

/-- The members of a new roster: the process, and then the sources. Nothing is remembered yet. -/
def members (e : Exporter) (c : Connection) (found : List Scrape.Source) : List (Member × Snapshot) :=
  (.process e.started e.bootMillis, none) ::
    found.map fun source => (.source source (conditions e.settings c), none)

/-- What holds of the process and of the sources holds of all collectors of the roster. -/
theorem forall_mem_members {P : Collector → Prop} {e : Exporter} {c : Connection}
    {found : List Scrape.Source} (hprocess : P (processCollector e.started e.bootMillis))
    (hsources : ∀ source ∈ found, P (source.collector (conditions e.settings c))) :
    ∀ m ∈ (Roster.ofMembers (e.members c found)).members, P m.1 := by
  intro m hm
  obtain ⟨member, hmember, rfl⟩ := List.mem_map.1 hm
  rcases List.mem_cons.1 hmember with rfl | hmember
  · exact hprocess
  · obtain ⟨source, hsource, rfl⟩ := List.mem_map.1 hmember
    exact hsources source hsource

/-- Registration never meets a name twice: whatever is known of the server, the roster of a connection
can be made. -/
theorem outcome_roster (e : Exporter) (c : Connection) (w : World) (t : Instant) : ∃ found began,
    ((sources e.settings c).run w t).outcome = some (found, began) ∧ Among sourceNames found ∧
    ((e.roster c).run w t).outcome = some (.ok (Roster.ofMembers (e.members c found)), began) := by
  obtain ⟨found, began, hfound, hamong⟩ := gives_sources e.settings c w t
  refine ⟨found, began, hfound, hamong, ?_⟩
  have hnodup : (Roster.empty.names ++ (processCollector e.started e.bootMillis ::
      found.map fun s => s.collector (conditions e.settings c)).map Collector.name).Nodup := by
    rw [List.map_cons, List.map_map]
    exact List.Nodup.sublist (hamong.names.cons_cons "process") (by decide)
  have hmembers : (⟨Roster.empty.members ++ (processCollector e.started e.bootMillis ::
      found.map fun s => s.collector (conditions e.settings c)).map fun c => (c, none)⟩ : Roster) =
      Roster.ofMembers (e.members c found) := by
    simp [Roster.ofMembers, members, Roster.empty, Member.collector]
  rw [← hmembers, ← Roster.registerAll_of_nodup hnodup]
  unfold roster
  rw [Session.outcome_bind, hfound]
  rfl

/-- The roster of a connection can always be made, and its members are valid. -/
theorem gives_roster (e : Exporter) {c : Connection} (hc : c.deployment.IsKnown) :
    Session.Gives (e.roster c) fun x => ∃ r, x = .ok r ∧ r.Valid := by
  intro w t
  obtain ⟨found, began, -, hamong, hroster⟩ := e.outcome_roster c w t
  refine ⟨_, began, hroster, _, rfl, _, rfl, fun m hm => ?_⟩
  rcases List.mem_cons.1 hm with rfl | hm
  · trivial
  · obtain ⟨source, hsource, rfl⟩ := List.mem_map.1 hm
    exact ⟨hamong.valid source hsource, hc.validLabels⟩

/-- The exposition of a connection, with the families of what its sources give when they are read. -/
theorem outcome_exposition (e : Exporter) (c : Connection) (w : World) (t : Instant) :
    ∃ found began ready, ((sources e.settings c).run w t).outcome = some (found, began) ∧
      Among sourceNames found ∧
      ((e.roster c).run w t).outcome = some (.ok (Roster.ofMembers (e.members c found)), began) ∧
      ((e.exposition c).run w t).outcome = some (.ok (Exposition.text (familiesOf
        ((Member.process e.started e.bootMillis).built w began ++ found.flatMap fun source =>
          (reading source (conditions e.settings c) w began).getD []))), ready) := by
  obtain ⟨found, began, hfound, hamong, hroster⟩ := e.outcome_roster c w t
  obtain ⟨ready, hgather⟩ := Roster.outcome_gather_ofMembers (e.members c found) w began
  refine ⟨found, began, ready, hfound, hamong, hroster, ?_⟩
  have hrender : ((Roster.ofMembers (e.members c found)).render.run w began).outcome = _ :=
    Session.outcome_map (Roster.ofMembers (e.members c found)).gather _
  rw [hgather] at hrender
  unfold exposition
  rw [Session.outcome_bind, hroster, Option.bind_some]
  dsimp only
  rw [Session.outcome_map, hrender, members, List.flatMap_cons, List.flatMap_map]
  rfl

/-- The text of well-formed families. -/
def IsExposition (text : String) : Prop :=
  ∃ families, WellFormed families ∧ text = Exposition.text families ∧
    read? text = some (families.map blockOf)

theorem gives_render {r : Roster} (h : r.Valid) :
    Session.Gives r.render fun p => IsExposition p.1 := by
  have hgather : Session.Gives r.gather fun p => WellFormed p.1 := fun w t => by
    obtain ⟨families, r', ready, hg, hwell, -⟩ := Roster.outcome_gather_of_valid h w t
    exact ⟨(families, r'), ready, hg, hwell⟩
  refine Session.gives_bind hgather fun p hp => Session.gives_pure ?_
  exact ⟨p.1, hp, rfl, hp.read?_text⟩

/-- The exposition of a connection can always be made. -/
theorem gives_exposition (e : Exporter) {c : Connection} (hc : c.deployment.IsKnown) :
    Session.Gives (e.exposition c) fun x => ∃ text, x = .ok text ∧ IsExposition text := by
  refine Session.gives_bind (gives_roster e hc) fun x hx => ?_
  obtain ⟨r, rfl, hr⟩ := hx
  exact Session.gives_bind (gives_render hr) fun p hp => Session.gives_pure ⟨p.1, rfl, hp⟩

/-! ## Connections -/

/-- The deployment behind the kept connection was found out by asking. -/
def Sound (e : Exporter) : Prop := ∀ c, e.connection = some c → c.deployment.IsKnown

/-- A connection that was obtained, with the exporter afterwards. -/
structure Obtained (p : Except Fault Connection × Exporter) : Prop where
  known : ∀ c, p.1 = .ok c → c.deployment.IsKnown
  sound : p.2.Sound

theorem yields_identifyInTime (s : Settings) (client : Client) :
    Session.Yields (identifyInTime s client) Deployment.IsKnown := by
  refine Session.yields_bind (Session.yields_within (Deployment.yields_identify client) _) fun o ho => ?_
  refine Session.yields_pure ?_
  cases o with
  | none => exact Deployment.isKnown_unknown
  | some d => exact ho d rfl

theorem yields_connect (s : Settings) :
    Session.Yields (connect s) fun x => ∀ c, x = .ok c → c.deployment.IsKnown := by
  refine Session.yields_bind Session.yields_true fun x _ => ?_
  cases x with
  | error fault => exact Session.yields_pure fun c hc => by cases hc
  | ok client =>
    refine Session.yields_bind (yields_identifyInTime s client) fun d hd => ?_
    refine Session.yields_pure fun c hc => ?_
    cases hc
    exact hd

variable {e : Exporter}

theorem yields_sharedConnection (h : e.Sound) : Session.Yields e.sharedConnection Obtained := by
  unfold sharedConnection
  split
  · rename_i c hc
    refine Session.yields_pure ⟨fun c' hc' => ?_, h⟩
    cases hc'
    exact h c hc
  · refine Session.yields_bind (yields_connect e.settings) fun x hx => ?_
    cases x with
    | error fault => exact Session.yields_pure ⟨fun c hc => (by cases hc), h⟩
    | ok c =>
      refine Session.yields_pure ⟨hx, fun c' hc' => ?_⟩
      cases hc'
      exact hx c rfl

theorem yields_obtain (h : e.Sound) : Session.Yields e.obtain Obtained := by
  unfold obtain
  split
  · exact yields_sharedConnection h
  · exact Session.yields_bind (yields_connect e.settings) fun x hx => Session.yields_pure ⟨hx, h⟩

/-! ## Requests -/

theorem sound_of_start (s : Settings) : Session.Yields (start s) Sound := by
  refine Session.yields_bind Session.yields_true fun t _ => ?_
  refine Session.yields_bind Session.yields_true fun millis _ => ?_
  have hfresh : Sound ⟨s, none, t, millis⟩ := fun c hc => by cases hc
  split
  · exact Session.yields_bind (yields_sharedConnection hfresh) fun p hp => Session.yields_pure hp.sound
  · exact Session.yields_pure hfresh

/-- A scrape that succeeds is an exposition, and the exporter stays sound. -/
theorem yields_scrape (h : e.Sound) : Session.Yields e.scrape fun p =>
    (∀ text, p.1 = .ok text → IsExposition text) ∧ p.2.Sound := by
  refine Session.yields_bind (yields_obtain h) fun p hp => ?_
  obtain ⟨x, e'⟩ := p
  cases x with
  | error fault => exact Session.yields_pure ⟨fun text ht => (by cases ht), hp.sound⟩
  | ok c =>
    refine Session.yields_bind (gives_exposition e' (hp.known c rfl)).yields fun y hy => ?_
    refine Session.yields_bind Session.yields_true fun _ _ => ?_
    refine Session.yields_pure ⟨fun text ht => ?_, hp.sound⟩
    obtain ⟨text', rfl, htext⟩ := hy
    cases ht
    exact htext

theorem yields_inspect (h : e.Sound) : Session.Yields e.inspect fun p => p.2.Sound := by
  refine Session.yields_bind (yields_obtain h) fun p hp => ?_
  obtain ⟨x, e'⟩ := p
  cases x with
  | error fault => exact Session.yields_pure hp.sound
  | ok c =>
    refine Session.yields_bind Session.yields_true fun _ _ => ?_
    exact Session.yields_pure hp.sound

/-- The exporters that a run leads to: one that was started, and then what each request leaves. Every
request may meet another world. -/
inductive Reached (s : Settings) : Exporter → Prop
  | start {w : World} {t ready : Instant} {e : Exporter}
    (h : ((start s).run w t).outcome = some (e, ready)) : Reached s e
  | scrape {w : World} {t ready : Instant} {e e' : Exporter} {x : Except Fault String}
    (before : Reached s e) (h : (e.scrape.run w t).outcome = some ((x, e'), ready)) : Reached s e'
  | inspect {w : World} {t ready : Instant} {e e' : Exporter} {x : Except Fault Deployment}
    (before : Reached s e) (h : (e.inspect.run w t).outcome = some ((x, e'), ready)) : Reached s e'

theorem Reached.sound {s : Settings} {e : Exporter} (h : Reached s e) : e.Sound := by
  induction h with
  | start h => exact sound_of_start s _ _ _ _ h
  | scrape _ h ih => exact (yields_scrape ih _ _ _ _ h).2
  | inspect _ h ih => exact yields_inspect ih _ _ _ _ h

end Exporter

/-! ## Every scrape -/

namespace Scrape.Roster

/-- The rosters that scrapes one after the other lead to, each in a world of its own. -/
inductive Gathered (r : Roster) : Roster → Prop
  | start : Gathered r r
  | next {w : World} {t ready : Instant} {r' r'' : Roster} {families : List Family}
    (before : Gathered r r') (h : (r'.gather.run w t).outcome = some ((families, r''), ready)) :
    Gathered r r''

theorem Gathered.valid {r r' : Roster} (h : Gathered r r') (hr : r.Valid) : r'.Valid := by
  induction h with
  | start => exact hr
  | @next w t ready r' r'' families _ hg ih =>
    obtain ⟨families', r₂, ready', hg', -, hvalid⟩ := outcome_gather_of_valid ih w t
    rw [hg] at hg'
    cases hg'
    exact hvalid

end Scrape.Roster

/-- Every scrape is a well-formed exposition. For any exporter, any server and any labels known of it,
the roster can be made, and each of its scrapes, in whatever world and at whatever instant, is ready
and comes to families whose metric and label names are allowed, whose names and label names ascend
strictly, whose samples have their name and kind, and of which no series occurs twice; their text
reads back as these families, so texts of the server stand in it only as help texts and label values.
And so it is over runs: whichever requests were served before, each scrape that succeeds is the text
of such families. -/
theorem scrapes_are_well_formed :
    (∀ (e : Exporter) (client : Client) (role : Role)
      (replicaSet clusterRole clusterId : Option String) (w : World) (t : Instant), ∃ r ready,
      ((e.roster ⟨client, .known role replicaSet clusterRole clusterId⟩).run w t).outcome =
        some (.ok r, ready) ∧
      ∀ r', Roster.Gathered r r' → ∀ (w' : World) (t' : Instant), ∃ families r'' ready',
        (r'.gather.run w' t').outcome = some ((families, r''), ready') ∧
        WellFormed families ∧ read? (text families) = some (families.map blockOf)) ∧
    ∀ (s : Settings) (e : Exporter), Exporter.Reached s e →
      ∀ (w : World) (t ready : Instant) (scraped : String) (e' : Exporter),
        (e.scrape.run w t).outcome = some ((.ok scraped, e'), ready) →
        ∃ families, WellFormed families ∧ scraped = text families ∧
          read? scraped = some (families.map blockOf) := by
  refine ⟨fun e client role replicaSet clusterRole clusterId w t => ?_, ?_⟩
  · obtain ⟨x, ready, hx, r, rfl, hr⟩ :=
      Exporter.gives_roster e (c := ⟨client, _⟩) ⟨role, replicaSet, clusterRole, clusterId, rfl⟩ w t
    refine ⟨r, ready, hx, fun r' hgathered w' t' => ?_⟩
    obtain ⟨families, r'', ready', hg, hwell, -⟩ :=
      Roster.outcome_gather_of_valid (hgathered.valid hr) w' t'
    exact ⟨families, r'', ready', hg, hwell, hwell.read?_text⟩
  · intro s e hreached w t ready scraped e' hscrape
    exact (Exporter.yields_scrape hreached.sound _ _ _ _ hscrape).1 scraped rfl

end MongoMetrics
