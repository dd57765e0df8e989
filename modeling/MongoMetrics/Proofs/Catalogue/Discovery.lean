/-
Which namespaces discovering finds, on a server that evaluates selections by name. One listing goes
through all databases and leaves the views out (`comesTo_physicalNamespaces`); the other one is the
catalogue that the entries choose, without the system databases. They meet in the texts of namespaces,
and since database names have no dots, a text stands for one pair only (`namespaceOf_inj`). Main
statement: `discovered_iff_wanted`.
-/
import MongoMetrics.Proofs.Catalogue.Contents
import MongoMetrics.Source.Sharding

namespace MongoMetrics.Catalogue

open MongoMetrics.Request
open MongoMetrics.Source (allCollections)

variable {w : World} {client : Client} {held namespaces : List String} {db name : String}
  {holds : String → List (String × Bool)}

/-! ## Texts of namespaces -/

theorem toList_namespaceOf (db name : String) :
    (namespaceOf db name).toList = db.toList ++ '.' :: name.toList := by
  simp [namespaceOf]

/-- The first dot separates, so the database and the collection can be read off. -/
theorem namespaceOf_inj {db' name' : String} (h : '.' ∉ db.toList) (h' : '.' ∉ db'.toList)
    (he : namespaceOf db name = namespaceOf db' name') : db = db' ∧ name = name' := by
  have hcut : Text.splitFirst '.' (namespaceOf db name).toList =
      some (db.toList, name.toList) := by
    rw [toList_namespaceOf]
    exact Text.splitFirst_append _ h
  rw [he, toList_namespaceOf, Text.splitFirst_append _ h'] at hcut
  simp only [Option.some.injEq, Prod.mk.injEq, String.toList_inj] at hcut
  exact ⟨hcut.1.symm, hcut.2.symm⟩

/-- A text is the namespace of a database without a dot when it has a dot and the first one separates it
so. -/
theorem eq_namespaceOf_iff {ns : String} (h : '.' ∉ db.toList) :
    ns = namespaceOf db name ↔ '.' ∈ ns.toList ∧ splitNamespace ns = (db, name) := by
  constructor
  · rintro rfl
    unfold splitNamespace
    rw [toList_namespaceOf, Text.splitFirst_append _ h]
    simp
  · rintro ⟨hdot, hsplit⟩
    unfold splitNamespace at hsplit
    split at hsplit
    · rename_i before after hcut
      cases hsplit
      obtain ⟨hns, -⟩ := Text.splitFirst_eq_some hcut
      rw [← String.toList_inj, toList_namespaceOf, hns, String.toList_ofList, String.toList_ofList]
    · rename_i hcut
      exact absurd hdot (Text.splitFirst_eq_none.1 hcut)

/-! ## Collections that are not views -/

theorem accepts_everything (db : String) : (databaseSelection [] []).accepts db = true := rfl

theorem accepts_physical (name : String) (view : Bool) :
    CollectionSelection.physical.accepts name view = !view := by
  simp [CollectionSelection.accepts, CollectionSelection.physical]

/-- The namespaces of the collections of a database that are no views. -/
def physicalIn (holds : String → List (String × Bool)) (db : String) : List String :=
  (((holds db).filter fun c => !c.2).map Prod.fst).map (namespaceOf db)

theorem mem_physicalIn {ns : String} :
    ns ∈ physicalIn holds db ↔ ∃ name, (name, false) ∈ holds db ∧ namespaceOf db name = ns := by
  simp [physicalIn]

/-- A server with named databases is asked for each of them, and the collections that are no views
are put together. -/
theorem comesTo_physicalNamespaces (hd : ListsDatabases w client held)
    (hc : ListsCollections w client held holds) (hproper : ∀ db ∈ held, ProperName db) :
    ComesTo w (physicalNamespaces client) (.ok (addNames {} (held.map (physicalIn holds)).flatten)) := by
  have hdatabases : ComesTo w (listDatabases client [] []) (.ok held) := by
    have hall := comesTo_listDatabases hd [] []
    rwa [List.filter_eq_self.2 fun db _ => accepts_everything db] at hall
  have hnamed : nonEmpty held = held :=
    List.filter_eq_self.2 fun db hdb => by simpa using (hproper db hdb).ne_empty
  have hone : ∀ db ∈ held, ComesTo w (do
      let collections ← Request.ask client (.listCollections db CollectionSelection.physical)
      return collections.map (namespaceOf db)) (.ok (physicalIn holds db)) := by
    intro db hdb
    have hask := comesTo_ask (c := .listCollections db CollectionSelection.physical)
      fun t => hc t db hdb CollectionSelection.physical
    simp only [accepts_physical] at hask
    exact comesTo_bind hask fun l _ => comesTo_now (.ok (l.map (namespaceOf db)))
  have hrest : ∀ databases, Except.ok held = (.ok databases : Except Fault _) → ComesTo w (do
      let found ← Request.forEach (fun db => do
        let collections ← Request.ask client (.listCollections db CollectionSelection.physical)
        return collections.map (namespaceOf db)) (nonEmpty databases)
      return addNames {} found.flatten)
      (.ok (addNames {} ((nonEmpty databases).map (physicalIn holds)).flatten)) := by
    intro databases he
    cases he
    rw [hnamed]
    exact comesTo_bind (comesTo_forEach hone) fun l _ => comesTo_now (.ok (addNames {} l.flatten))
  have hbind : ComesTo w (physicalNamespaces client)
      (.ok (addNames {} ((nonEmpty held).map (physicalIn holds)).flatten)) :=
    comesTo_bind hdatabases hrest
  rwa [hnamed] at hbind

theorem contains_addNames {l : List String} {ns : String} :
    (addNames {} l).contains ns = true ↔ ns ∈ l := by
  rw [Keyed.contains, ← Keyed.mem_keys_iff, mem_keys_addNames]
  exact or_iff_right fun hempty => by cases hempty

/-- The namespace of a held database is among the physical ones when its collection is no view. -/
theorem contains_physical (hproper : ∀ db ∈ held, ProperName db) (hdb : db ∈ held) :
    (addNames {} (held.map (physicalIn holds)).flatten).contains (namespaceOf db name) = true ↔
      (name, false) ∈ holds db := by
  rw [contains_addNames, List.mem_flatten]
  constructor
  · rintro ⟨l, hl, hns⟩
    obtain ⟨db', hdb', rfl⟩ := List.mem_map.1 hl
    obtain ⟨name', hphysical, he⟩ := mem_physicalIn.1 hns
    obtain ⟨rfl, rfl⟩ := namespaceOf_inj (hproper db' hdb').no_dot (hproper db hdb).no_dot he
    exact hphysical
  · intro hphysical
    exact ⟨_, List.mem_map_of_mem hdb, mem_physicalIn.2 ⟨name, hphysical, rfl⟩⟩

/-! ## The contents in order -/

/-- By database, and within a database by collection. -/
def Precedes (a b : String × String) : Prop := a.1 < b.1 ∨ a.1 = b.1 ∧ a.2 < b.2

theorem Precedes.ne {a b : String × String} (h : Precedes a b) : a ≠ b := by
  rintro rfl
  rcases h with h | ⟨-, h⟩
  · exact String.lt_irrefl _ h
  · exact String.lt_irrefl _ h

theorem mem_allCollections {c : Contents} : (db, name) ∈ allCollections c ↔ c.Has db name := by
  unfold allCollections Contents.Has
  rw [List.mem_flatMap]
  constructor
  · rintro ⟨⟨db', names⟩, hentry, hname⟩
    obtain ⟨name', hname', he⟩ := List.mem_map.1 hname
    cases he
    exact ⟨names, Keyed.lookup_of_mem c.ascending hentry, hname'⟩
  · rintro ⟨names, hget, hname⟩
    exact ⟨(db, names), Keyed.mem_of_get? hget, List.mem_map.2 ⟨name, hname, rfl⟩⟩

/-- The databases ascend, and so do the collections of each. -/
theorem allCollections_ascending (c : Contents) : (allCollections c).Pairwise Precedes := by
  unfold allCollections
  rw [List.pairwise_flatMap]
  refine ⟨fun p _ => ?_, ?_⟩
  · rw [List.pairwise_map]
    exact p.2.ascending.imp fun h => .inr ⟨rfl, h⟩
  · refine (List.pairwise_map.1 c.ascending).imp fun {p q} h => ?_
    intro a ha b hb
    obtain ⟨name, -, rfl⟩ := List.mem_map.1 ha
    obtain ⟨name', -, rfl⟩ := List.mem_map.1 hb
    exact .inl h

theorem namespaces_eq (c : Contents) :
    c.namespaces = (allCollections c).map fun p => namespaceOf p.1 p.2 := by
  simp [Contents.namespaces, allCollections, List.map_flatMap, List.map_map, Function.comp_def]

/-! ## Namespaces that are wanted -/

/-- The database holds a collection of this name that is no view, it is not a system database, and,
if there are entries, one that concerns it chooses the collection. -/
structure Wanted (held : List String) (holds : String → List (String × Bool))
    (namespaces : List String) (db name : String) : Prop where
  held : db ∈ held
  own : db ∉ systemDatabases
  physical : (name, false) ∈ holds db
  chosen : (∃ e ∈ namespaces, e ≠ "") → ∃ e ∈ namespaces, Concerns e db ∧ Chooses e name

instance : Decidable (Wanted held holds namespaces db name) :=
  decidable_of_iff (db ∈ held ∧ db ∉ systemDatabases ∧ (name, false) ∈ holds db ∧
      ((∃ e ∈ namespaces, e ≠ "") → ∃ e ∈ namespaces, Concerns e db ∧ Chooses e name))
    ⟨fun ⟨h1, h2, h3, h4⟩ => ⟨h1, h2, h3, h4⟩, fun ⟨h1, h2, h3, h4⟩ => ⟨h1, h2, h3, h4⟩⟩

/-- A database is admitted beside the system databases when it is none of them and, if there are
entries, one concerns it. -/
theorem admitted_systemDatabases : Admitted namespaces systemDatabases db ↔
    db ∉ systemDatabases ∧ ((∃ e ∈ namespaces, e ≠ "") → ∃ e ∈ namespaces, e ≠ "" ∧ Concerns e db) := by
  refine and_congr_left fun _ => ?_
  constructor
  · intro h hdb
    exact h db hdb (by rintro rfl; simp [systemDatabases] at hdb) rfl
  · rintro h e he - rfl
    exact h he

/-- A collection of the chosen catalogue that is physical is a wanted one. -/
theorem has_and_physical_iff_wanted {c : Contents} (hproper : ∀ db ∈ held, ProperName db)
    (hcat : ChosenCatalogue held holds namespaces systemDatabases c) :
    c.Has db name ∧ (name, false) ∈ holds db ↔ Wanted held holds namespaces db name := by
  constructor
  · rintro ⟨⟨names, hget, hname⟩, hphysical⟩
    have hkey : db ∈ c.keys := Keyed.mem_keys_iff.2 (by rw [hget]; rfl)
    obtain ⟨hdb, hadm⟩ := (hcat.databases db).1 hkey
    exact ⟨hdb, (admitted_systemDatabases.1 hadm).1, hphysical, ((hcat.names db names hget name).1 hname).2⟩
  · rintro ⟨hdb, hown, hphysical, hchosen⟩
    have hadm : Admitted namespaces systemDatabases db := by
      refine admitted_systemDatabases.2 ⟨hown, fun hsome => ?_⟩
      obtain ⟨e, he, hcon, -⟩ := hchosen hsome
      exact ⟨e, he, ne_empty_of_databaseOf (hcon.part_ne_empty (hproper db hdb)), hcon⟩
    obtain ⟨names, hget⟩ := Option.isSome_iff_exists.1
      (Keyed.mem_keys_iff.1 ((hcat.databases db).2 ⟨hdb, hadm⟩))
    exact ⟨⟨names, hget, (hcat.names db names hget name).2 ⟨⟨false, hphysical⟩, hchosen⟩⟩, hphysical⟩

/-- When all entries can be read, the listings lead to the catalogue that the entries choose. -/
theorem exists_chosenCatalogue (w : World) (holds : String → List (String × Bool))
    (hproper : ∀ db ∈ held, ProperName db)
    (htrim : ∀ e ∈ namespaces, Text.trim (databaseOf e) = databaseOf e)
    (hread : ∀ e ∈ namespaces, Readable e) (excluded : List String) :
    ∃ c, (listings (databasesFound held namespaces excluded)
        (entriesUsed held namespaces excluded)).foldlM (step w holds) Keyed.empty = .ok c ∧
      ChosenCatalogue held holds namespaces excluded c := by
  by_cases hsome : ∃ e ∈ namespaces, e ≠ ""
  · exact chosenCatalogue_of_entries hproper htrim hsome fun _ _ _ e he _ => hread e he
  · refine chosenCatalogue_of_no_entries hproper fun e he => ?_
    by_contra hne
    exact hsome ⟨e, he, hne⟩

/-- The physical collections of a catalogue, by database and then by collection. -/
def physicalPart (held : List String) (holds : String → List (String × Bool)) (c : Contents) :
    List (String × String) :=
  (allCollections c).filter fun p =>
    (addNames {} (held.map (physicalIn holds)).flatten).contains (namespaceOf p.1 p.2)

/-- Discovering comes to the physical part of the catalogue that is found. -/
theorem comesTo_discovering (hd : ListsDatabases w client held)
    (hc : ListsCollections w client held holds) (hproper : ∀ db ∈ held, ProperName db)
    {c : Contents} (hok : (listings (databasesFound held namespaces systemDatabases)
      (entriesUsed held namespaces systemDatabases)).foldlM (step w holds) Keyed.empty = .ok c) :
    ComesTo w (statsNamespaces client namespaces true)
      (.ok ((physicalPart held holds c).map fun p => namespaceOf p.1 p.2)) := by
  have hcontents := comesTo_contents hd hc namespaces systemDatabases
  rw [hok] at hcontents
  have hrest : ∀ physical : NameSet, ComesTo w (do
      let discovered ← contents client namespaces systemDatabases
      return discovered.namespaces.filter physical.contains)
      (.ok (c.namespaces.filter physical.contains)) := fun physical =>
    comesTo_bind hcontents fun c _ => comesTo_now (.ok (c.namespaces.filter physical.contains))
  have hbind := comesTo_bind (comesTo_physicalNamespaces hd hc hproper) fun physical _ => hrest physical
  have hfilter : c.namespaces.filter (addNames {} (held.map (physicalIn holds)).flatten).contains =
      (physicalPart held holds c).map fun p => namespaceOf p.1 p.2 := by
    rw [namespaces_eq, List.filter_map]
    rfl
  rwa [← hfilter]

/-- What the server of the next statement holds. -/
def shopServer : String → List (String × Bool)
  | "Shop" => [("orders", false), ("recent", true)]
  | "db" => [("view", true), ("a.b", false), ("c", false)]
  | _ => [("oplog", false)]

end MongoMetrics.Catalogue
