/-
Namespaces that are taken as they are given, without discovering. Entries that name no collection are
dropped. The others are compared with the collections that the server lists, and one that is not among
them is a fault, of which the first one is told; then nothing is read at all. Main statement:
`literal_entries_all_or_none`.
-/
import MongoMetrics.Proofs.Catalogue.Discovery
import MongoMetrics.Proofs.Server.Exchanges
import MongoMetrics.Proofs.Source.Rows

namespace MongoMetrics.Catalogue

variable {client : Client} {w : World} {t t₁ ready : Instant} {held namespaces : List String}
  {listed : List (String × List String)}

/-! ## Entries that name a collection -/

/-- There is a dot in the entry, and a text behind the first one. -/
def NamesCollection (ns : String) : Prop :=
  ∃ db name, '.' ∉ db.toList ∧ name ≠ "" ∧ ns = namespaceOf db name

theorem namesCollection_iff {ns : String} : NamesCollection ns ↔ collectionOf ns ≠ "" := by
  constructor
  · rintro ⟨db, name, hdot, hname, hns⟩
    rwa [collectionOf, ((eq_namespaceOf_iff hdot).1 hns).2]
  · intro h
    unfold collectionOf splitNamespace at h
    split at h
    · rename_i before after hcut
      obtain ⟨hns, hdot⟩ := Text.splitFirst_eq_some hcut
      refine ⟨String.ofList before, String.ofList after, by rwa [String.toList_ofList], h, ?_⟩
      rw [← String.toList_inj, toList_namespaceOf, hns, String.toList_ofList, String.toList_ofList]
    · exact absurd rfl h

instance (ns : String) : Decidable (NamesCollection ns) := decidable_of_iff _ namesCollection_iff.symm

theorem literalEntries_eq (namespaces : List String) :
    literalEntries namespaces = namespaces.filter fun ns => NamesCollection ns := by
  unfold literalEntries nonEmpty
  rw [List.filter_filter]
  refine List.filter_congr fun ns _ => Bool.eq_iff_iff.2 ?_
  have hempty : collectionOf ns ≠ "" → ns ≠ "" := by
    rintro h rfl
    exact h rfl
  simpa [namesCollection_iff] using hempty

/-! ## All or nothing -/

/-- All candidates, if they have the property; otherwise the first one that has not is a fault. -/
inductive AllOrFirst (P : String → Prop) : List String → Except Fault (List String) → Prop
  | all {candidates : List String} (h : ∀ ns ∈ candidates, P ns) : AllOrFirst P candidates (.ok candidates)
  | first {before after : List String} {ns : String} (hbefore : ∀ ns ∈ before, P ns) (h : ¬ P ns) :
    AllOrFirst P (before ++ ns :: after) (.error (.viewNamespace ns))

theorem allOrFirst_allPhysical (physical : NameSet) (candidates : List String) :
    AllOrFirst (fun ns => physical.contains ns = true) candidates (allPhysical physical candidates) := by
  unfold allPhysical
  cases h : candidates.find? fun c => !physical.contains c with
  | none => exact .all fun ns hns => by simpa using List.find?_eq_none.1 h ns hns
  | some view =>
    obtain ⟨hview, before, after, rfl, hbefore⟩ := List.find?_eq_some_iff_append.1 h
    exact .first (fun ns hns => by simpa using hbefore ns hns) (by simpa using hview)

theorem AllOrFirst.congr {P Q : String → Prop} {candidates : List String}
    {x : Except Fault (List String)} (h : AllOrFirst P candidates x) (hPQ : ∀ ns, P ns ↔ Q ns) :
    AllOrFirst Q candidates x := by
  rwa [funext fun ns => propext (hPQ ns)] at h

/-! ## Listings that succeed -/

/-- What a server says when it is asked for its databases, and then for the collections of databases that
are no views. -/
def physicalListings (held : List String) (listed : List (String × List String)) : List Exchange :=
  ⟨.listDatabases .everything, .ok held⟩ ::
    listed.map fun p => ⟨.listCollections p.1 .physical, .ok p.2⟩

/-- One of the listings has the collection that the text is the namespace of. -/
def IsListed (listed : List (String × List String)) (ns : String) : Prop :=
  ∃ p ∈ listed, ∃ name ∈ p.2, ns = namespaceOf p.1 name

/-- The request for the namespaces of the collections of a database that are no views. -/
def physicalOf (client : Client) (database : String) : Request (List String) := do
  let collections ← Request.ask client (.listCollections database CollectionSelection.physical)
  return collections.map (namespaceOf database)

theorem conducts_physicalOf (h : Heard client w t
      (listed.map fun p => ⟨.listCollections p.1 .physical, .ok p.2⟩) ready) :
    Session.Conducts client w (Request.forEach (physicalOf client) (listed.map Prod.fst)).attempt t
      (listed.map fun p => ⟨.listCollections p.1 .physical, .ok p.2⟩)
      (.ok (listed.map fun p => p.2.map (namespaceOf p.1))) ready := by
  induction listed generalizing t with
  | nil =>
    cases h
    exact Session.conducts_pure _ w ready
  | cons p rest ih =>
    cases h with
    | next hanswer hrest =>
      have hfirst : Session.Conducts client w (physicalOf client p.1).attempt t
          [⟨.listCollections p.1 .physical, .ok p.2⟩] (.ok (p.2.map (namespaceOf p.1))) _ :=
        Request.conducts_map (Session.conducts_ask hanswer) (List.map (namespaceOf p.1))
      exact Request.conducts_bind hfirst (Request.conducts_map (ih hrest) _)

theorem conducts_physicalNamespaces (h : Heard client w t (physicalListings held listed) ready)
    (hnames : listed.map Prod.fst = nonEmpty held) :
    Session.Conducts client w (physicalNamespaces client).attempt t (physicalListings held listed)
      (.ok (addNames {} (listed.map fun p => p.2.map (namespaceOf p.1)).flatten)) ready := by
  cases h with
  | next hanswer hrest =>
    have hdatabases : Session.Conducts client w (listDatabases client [] []).attempt t
        [⟨.listDatabases .everything, .ok held⟩] (.ok held) _ := Session.conducts_ask hanswer
    refine Request.conducts_bind hdatabases ?_
    refine Request.conducts_map (r := Request.forEach (physicalOf client) (nonEmpty held)) ?_ _
    rw [← hnames]
    exact conducts_physicalOf hrest

theorem contains_listed {ns : String} :
    (addNames {} (listed.map fun p => p.2.map (namespaceOf p.1)).flatten).contains ns = true ↔
      IsListed listed ns := by
  rw [contains_addNames, List.mem_flatten]
  constructor
  · rintro ⟨names, hnames, hns⟩
    obtain ⟨p, hp, rfl⟩ := List.mem_map.1 hnames
    obtain ⟨name, hname, rfl⟩ := List.mem_map.1 hns
    exact ⟨p, hp, name, hname, rfl⟩
  · rintro ⟨p, hp, name, hname, rfl⟩
    exact ⟨_, List.mem_map_of_mem hp, List.mem_map_of_mem hname⟩

/-- Only the databases and their collections are asked for. -/
theorem conducts_statsNamespaces (h : Heard client w t (physicalListings held listed) ready)
    (hnames : listed.map Prod.fst = nonEmpty held) (namespaces : List String) :
    ∃ x, AllOrFirst (IsListed listed) (namespaces.filter fun ns => NamesCollection ns) x ∧
      Session.Conducts client w (statsNamespaces client namespaces false).attempt t
        (physicalListings held listed) x ready := by
  have hphysical := conducts_physicalNamespaces h hnames
  rw [← literalEntries_eq]
  refine ⟨_, (allOrFirst_allPhysical _ _).congr fun ns => contains_listed, ?_⟩
  have hrun := Request.conducts_bind (f := fun physical =>
      ExceptT.mk (Session.pure (allPhysical physical (literalEntries namespaces)))) hphysical
    (Session.conducts_pure _ w ready)
  rw [List.append_nil] at hrun
  exact hrun

/-- On a server that lists what it holds, the listings have exactly the collections that are no views. -/
theorem isListed_iff {holds : String → List (String × Bool)}
    (h : Heard client w t (physicalListings held listed) ready)
    (hnames : listed.map Prod.fst = nonEmpty held) (hholds : ListsCollections w client held holds)
    (ns : String) : IsListed listed ns ↔
      ∃ db ∈ held, db ≠ "" ∧ ∃ name, (name, false) ∈ holds db ∧ ns = namespaceOf db name := by
  have hdatabase : ∀ db, db ∈ held ∧ db ≠ "" ↔ ∃ names, (db, names) ∈ listed := fun db => by
    rw [← mem_nonEmpty, ← hnames]
    simp
  have hlisted : ∀ p ∈ listed, ∀ name, name ∈ p.2 ↔ (name, false) ∈ holds p.1 := by
    rintro ⟨db, names⟩ hp name
    obtain ⟨t', delay, hanswer⟩ := h.exists_answer
      (List.mem_cons_of_mem _ (List.mem_map_of_mem hp))
    obtain ⟨delay', hanswer'⟩ := hholds t' db ((hdatabase db).2 ⟨names, hp⟩).1 .physical
    rw [hanswer'] at hanswer
    cases hanswer
    simp [accepts_physical]
  constructor
  · rintro ⟨p, hp, name, hname, rfl⟩
    obtain ⟨hheld, hne⟩ := (hdatabase p.1).2 ⟨p.2, hp⟩
    exact ⟨p.1, hheld, hne, name, (hlisted p hp name).1 hname, rfl⟩
  · rintro ⟨db, hheld, hne, name, hname, rfl⟩
    obtain ⟨names, hp⟩ := (hdatabase db).1 ⟨hheld, hne⟩
    exact ⟨_, hp, name, (hlisted _ hp name).2 hname, rfl⟩

end MongoMetrics.Catalogue

namespace MongoMetrics.Source

open MongoMetrics.Catalogue

variable {client : Client} {w : World} {t ready : Instant} {held namespaces : List String}
  {listed : List (String × List String)}

/-- A source that reads rows fails as its namespaces fail, and asks for no rows then. -/
theorem ReadsRows.conducts_error {discovering : Bool} {source : Scrape.Source} {pipeline : List Document}
    {read : String → List Document → List Scrape.Fetched}
    (h : ReadsRows client namespaces discovering source pipeline read) {exchanges : List Exchange}
    {fault : Fault} (hrun : Session.Conducts client w
      (statsNamespaces client namespaces discovering).attempt t exchanges (.error fault) ready) :
    Session.Conducts client w source.fetch.attempt t exchanges (.error fault) ready := by
  cases h with
  | collections | indexes => exact Request.conducts_bind_error hrun

/-- Namespaces taken as they are given, on a server that answers the listings. Entries without a text
behind a first dot are dropped. If the listings have all others, the outcome is these, as they are; if not,
it is a fault that tells the first one missing. Nothing is asked but the listings. A fault is that of the
sources of collections and indexes as well, and then they ask nothing but the listings either. On a server
that lists what it holds, views are missing, and all other collections are not. -/
theorem literal_entries_all_or_none (h : Heard client w t (physicalListings held listed) ready)
    (hnames : listed.map Prod.fst = nonEmpty held) (namespaces : List String) :
    ∃ x, AllOrFirst (IsListed listed) (namespaces.filter fun ns => NamesCollection ns) x ∧
      Session.Conducts client w (statsNamespaces client namespaces false).attempt t
        (physicalListings held listed) x ready ∧
      (∀ fault, x = .error fault → ∀ source pipeline read,
        ReadsRows client namespaces false source pipeline read →
          Session.Conducts client w source.fetch.attempt t (physicalListings held listed)
            (.error fault) ready) ∧
      ∀ holds, ListsCollections w client held holds → ∀ ns, IsListed listed ns ↔
        ∃ db ∈ held, db ≠ "" ∧ ∃ name, (name, false) ∈ holds db ∧ ns = namespaceOf db name := by
  obtain ⟨x, hx, hrun⟩ := conducts_statsNamespaces h hnames namespaces
  refine ⟨x, hx, hrun, ?_, fun holds hholds ns => isListed_iff h hnames hholds ns⟩
  rintro fault rfl source pipeline read hsource
  exact hsource.conducts_error hrun

/-- Two collections and a view. -/
def viewedServer : String → List (String × Bool)
  | "db" => [("a.b", false), ("recent", true), ("c", false)]
  | _ => []

/-- Entries for both collections, one of them twice, beside entries that are dropped; then one for the view,
which is told, and one in another case. -/
theorem view_among_entries_fails_all :
    let listed := [("db", ["a.b", "c"])]
    let entries := ["db.a.b", "", "db.c", "db", "db.c", "db.", "db.recent", "DB.c"]
    let w := plainServer ["db", ""] viewedServer
    Heard 0 w 0 (physicalListings ["db", ""] listed) 0 ∧ listed.map Prod.fst = nonEmpty ["db", ""] ∧
      AllOrFirst (IsListed listed) (entries.filter fun ns => NamesCollection ns)
        (.error (.viewNamespace "db.recent")) ∧
      Session.Conducts 0 w (indexStats 0 entries false).fetch.attempt 0
        (physicalListings ["db", ""] listed) (.error (.viewNamespace "db.recent")) 0 := by
  intro listed entries w
  have hheard : Heard 0 w 0 (physicalListings ["db", ""] listed) 0 := .next rfl (.next rfl .done)
  have hnames : listed.map Prod.fst = nonEmpty ["db", ""] := by decide
  obtain ⟨x, hx, hrun, hfetch, -⟩ := literal_entries_all_or_none hheard hnames entries
  have houtcome : ((statsNamespaces 0 entries false).attempt.run w 0).outcome =
      some (.error (.viewNamespace "db.recent"), 0) := rfl
  obtain rfl : x = .error (.viewNamespace "db.recent") :=
    congrArg Prod.fst (Option.some.inj (hrun.outcome.symm.trans houtcome))
  exact ⟨hheard, hnames, hx, hfetch _ rfl _ _ _ .indexes⟩

end MongoMetrics.Source
