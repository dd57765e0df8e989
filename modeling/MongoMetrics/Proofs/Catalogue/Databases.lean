/-
Which databases a listing finds, on a server that evaluates selections by name (`ListsDatabases`).
The entries are meant as a restriction: a database is found when it is not excluded and, if there is
an entry at all, some entry names it (`Admitted`). An entry that begins with a dot names no database,
and it is dropped before the selection is made; so entries of this kind alone leave nothing to
include, and then all databases are found. Main statement: `listDatabases_restricts_iff`, by which
this is the only exception among databases with names.
-/
import MongoMetrics.Catalogue.Listing
import MongoMetrics.Proofs.Server.Answered

namespace MongoMetrics.Catalogue

open MongoMetrics.Request

variable {w : World} {client : Client} {held namespaces excluded : List String} {db : String}

/-! ## Servers that list databases -/

/-- Asked at any instant, the server names the databases it holds that the selection accepts. -/
def ListsDatabases (w : World) (client : Client) (held : List String) : Prop :=
  ∀ t s, ∃ delay, w.answer client t (.listDatabases s) = .after delay (.ok (held.filter s.accepts))

theorem comesTo_listDatabases (h : ListsDatabases w client held) (namespaces excluded : List String) :
    ComesTo w (listDatabases client namespaces excluded)
      (.ok (held.filter (databaseSelection namespaces excluded).accepts)) :=
  comesTo_ask fun t => h t _

/-- A server that answers at once and lists what it holds by the selections. -/
def plainServer (held : List String) (holds : String → List (String × Bool)) : World where
  connect _ _ := .never
  answer
    | _, _, .listDatabases s => .after 0 (.ok (held.filter s.accepts))
    | _, _, .listCollections db s =>
      .after 0 (.ok (((holds db).filter fun c => s.accepts c.1 c.2).map Prod.fst))
    | _, _, _ => .never
  wallClock _ := 0
  residentBytes _ := none
  parallelism := none

theorem listsDatabases_plainServer (client : Client) (held : List String)
    (holds : String → List (String × Bool)) : ListsDatabases (plainServer held holds) client held :=
  fun _ _ => ⟨0, rfl⟩

/-! ## What the selection accepts -/

theorem mem_nonEmpty {l : List String} {s : String} : s ∈ nonEmpty l ↔ s ∈ l ∧ s ≠ "" := by
  simp [nonEmpty]

theorem databaseOf_empty : databaseOf "" = "" := rfl

theorem ne_empty_of_databaseOf {e : String} (h : databaseOf e ≠ "") : e ≠ "" :=
  fun he => h (he ▸ databaseOf_empty)

theorem mem_included {name : String} : name ∈ (databaseSelection namespaces excluded).included ↔
    name ≠ "" ∧ ∃ e ∈ namespaces, databaseOf e = name := by
  show name ∈ nonEmpty ((nonEmpty namespaces).map databaseOf) ↔ _
  rw [mem_nonEmpty, List.mem_map]
  constructor
  · rintro ⟨⟨e, he, rfl⟩, hne⟩
    exact ⟨hne, e, (mem_nonEmpty.1 he).1, rfl⟩
  · rintro ⟨hne, e, he, rfl⟩
    exact ⟨⟨e, mem_nonEmpty.2 ⟨he, ne_empty_of_databaseOf hne⟩, rfl⟩, hne⟩

/-- Nothing is included exactly when no entry has a database part. -/
theorem included_eq_nil : (databaseSelection namespaces excluded).included = [] ↔
    ∀ e ∈ namespaces, databaseOf e = "" := by
  rw [List.eq_nil_iff_forall_not_mem]
  constructor
  · intro h e he
    by_contra hne
    exact h _ (mem_included.2 ⟨hne, e, he, rfl⟩)
  · intro h name hm
    obtain ⟨hne, e, he, rfl⟩ := mem_included.1 hm
    exact hne (h e he)

/-- A database is accepted when it is no excluded one and a database part equals it, if there is a
database part at all. -/
theorem accepts_databaseSelection : (databaseSelection namespaces excluded).accepts db = true ↔
    (∀ e ∈ excluded, e ≠ "" → e ≠ db) ∧
      ((∃ e ∈ namespaces, databaseOf e ≠ "") → ∃ e ∈ namespaces,
        databaseOf e ≠ "" ∧ Text.equalsIgnoringCase (databaseOf e) db = true) := by
  have hex : (!(databaseSelection namespaces excluded).excluded.contains db) = true ↔
      ∀ e ∈ excluded, e ≠ "" → e ≠ db := by
    have hmem : (databaseSelection namespaces excluded).excluded.contains db = true ↔
        db ∈ excluded ∧ db ≠ "" := List.contains_iff_mem.trans mem_nonEmpty
    rw [Bool.not_eq_true', Bool.eq_false_iff, ne_eq, hmem]
    constructor
    · rintro h e he hne rfl
      exact h ⟨he, hne⟩
    · rintro h ⟨hm, hne⟩
      exact h db hm hne rfl
  have hin : ((databaseSelection namespaces excluded).included.isEmpty ||
        (databaseSelection namespaces excluded).included.any fun i =>
          Text.equalsIgnoringCase i db) = true ↔
      ((∃ e ∈ namespaces, databaseOf e ≠ "") → ∃ e ∈ namespaces,
        databaseOf e ≠ "" ∧ Text.equalsIgnoringCase (databaseOf e) db = true) := by
    rw [Bool.or_eq_true, List.isEmpty_iff, included_eq_nil, List.any_eq_true]
    constructor
    · rintro (h | ⟨i, hi, heq⟩) ⟨e, he, hne⟩
      · exact absurd (h e he) hne
      · obtain ⟨hi, e', he', rfl⟩ := mem_included.1 hi
        exact ⟨e', he', hi, heq⟩
    · intro h
      by_cases hsome : ∃ e ∈ namespaces, databaseOf e ≠ ""
      · obtain ⟨e, he, hne, heq⟩ := h hsome
        exact .inr ⟨databaseOf e, mem_included.2 ⟨hne, e, he, rfl⟩, heq⟩
      · refine .inl fun e he => ?_
        by_contra hne
        exact hsome ⟨e, he, hne⟩
  rw [DatabaseSelection.accepts, Bool.and_eq_true, hex, hin]

/-! ## Listing as a restriction -/

/-- The database is not excluded, and an entry names it if there are entries. Empty texts do not
count, neither as entries nor as exclusions. -/
def Admitted (namespaces excluded : List String) (db : String) : Prop :=
  (∀ e ∈ excluded, e ≠ "" → e ≠ db) ∧
    ((∃ e ∈ namespaces, e ≠ "") →
      ∃ e ∈ namespaces, e ≠ "" ∧ Text.equalsIgnoringCase (databaseOf e) db = true)

instance : Decidable (Admitted namespaces excluded db) := inferInstanceAs (Decidable (_ ∧ _))

theorem equalsIgnoringCase_empty : Text.equalsIgnoringCase "" db = true ↔ db = "" := by
  unfold Text.equalsIgnoringCase
  constructor
  · intro h
    have hmap : [] = db.toList.map Char.toLower := eq_of_beq h
    exact String.toList_eq_nil_iff.1 (List.map_eq_nil_iff.1 hmap.symm)
  · rintro rfl
    rfl

theorem equalsIgnoringCase_comm {a b : String} :
    Text.equalsIgnoringCase a b = Text.equalsIgnoringCase b a :=
  Bool.beq_comm

/-- Where an entry has a database part, or there is no entry, a database with a name is accepted
when it is admitted. -/
theorem accepts_iff_admitted (hdb : db ≠ "")
    (h : (∃ e ∈ namespaces, databaseOf e ≠ "") ∨ ∀ e ∈ namespaces, e = "") :
    (databaseSelection namespaces excluded).accepts db = true ↔ Admitted namespaces excluded db := by
  rw [accepts_databaseSelection]
  refine and_congr_right fun _ => ?_
  rcases h with hsome | hnone
  · constructor
    · intro hin _
      obtain ⟨e, he, hne, heq⟩ := hin hsome
      exact ⟨e, he, ne_empty_of_databaseOf hne, heq⟩
    · intro hin _
      obtain ⟨e, he, hne⟩ := hsome
      obtain ⟨e', he', -, heq⟩ := hin ⟨e, he, ne_empty_of_databaseOf hne⟩
      -- an empty part equals no name
      exact ⟨e', he', fun hempty => hdb (equalsIgnoringCase_empty.1 (hempty ▸ heq)), heq⟩
  · constructor
    · rintro - ⟨e, he, hne⟩
      exact absurd (hnone e he) hne
    · rintro - ⟨e, he, hne⟩
      exact absurd (hnone e he) (ne_empty_of_databaseOf hne)

/-- Where there are entries, but none with a database part, all databases are accepted that are not
excluded, and none is admitted. -/
theorem accepts_of_dotted (h : ∀ e ∈ namespaces, databaseOf e = "") :
    (databaseSelection namespaces excluded).accepts db = true ↔ ∀ e ∈ excluded, e ≠ "" → e ≠ db := by
  rw [accepts_databaseSelection]
  refine and_iff_left ?_
  rintro ⟨e, he, hne⟩
  exact absurd (h e he) hne

/-- Where every entry has a database part, databases are accepted as they are admitted. -/
theorem accepts_iff_admitted_of_no_dotted (h : ∀ e ∈ namespaces, e ≠ "" → databaseOf e ≠ "") :
    (databaseSelection namespaces excluded).accepts db = true ↔ Admitted namespaces excluded db := by
  have hpart : ∀ e ∈ namespaces, databaseOf e ≠ "" ↔ e ≠ "" := fun e he =>
    ⟨ne_empty_of_databaseOf, h e he⟩
  rw [accepts_databaseSelection]
  refine and_congr_right fun _ => imp_congr ?_ ?_
  · exact exists_congr fun e => and_congr_right fun he => hpart e he
  · exact exists_congr fun e => and_congr_right fun he => and_congr_left fun _ => hpart e he

/-- Where an entry has a database part, no database without a name is accepted. -/
theorem accepts_iff_of_part (h : ∃ e ∈ namespaces, databaseOf e ≠ "") :
    (databaseSelection namespaces excluded).accepts db = true ↔
      db ≠ "" ∧ Admitted namespaces excluded db := by
  by_cases hdb : db = ""
  · refine iff_of_false (fun hacc => ?_) fun hand => hand.1 hdb
    obtain ⟨e, -, hne, heq⟩ := (accepts_databaseSelection.1 hacc).2 h
    rw [hdb, equalsIgnoringCase_comm] at heq
    exact hne (equalsIgnoringCase_empty.1 heq)
  · rw [accepts_iff_admitted hdb (.inl h)]
    exact (and_iff_right hdb).symm

/-- An entry that begins with a dot admits the database without a name. -/
theorem admitted_empty_of_dotted (h : ∃ e ∈ namespaces, e ≠ "" ∧ databaseOf e = "") :
    Admitted namespaces excluded "" := by
  obtain ⟨e, he, hne, hpart⟩ := h
  exact ⟨fun _ _ hx => hx, fun _ => ⟨e, he, hne, by rw [hpart]; rfl⟩⟩

/-- It admits no other one unless an entry has a database part. -/
theorem not_admitted_of_dotted (hdb : db ≠ "") (hsome : ∃ e ∈ namespaces, e ≠ "")
    (h : ∀ e ∈ namespaces, databaseOf e = "") : ¬ Admitted namespaces excluded db := by
  rintro ⟨-, hin⟩
  obtain ⟨e, he, -, heq⟩ := hin hsome
  rw [h e he] at heq
  exact hdb (equalsIgnoringCase_empty.1 heq)

/-- A listing finds the databases with the property by which they are accepted. -/
theorem comesTo_filter (h : ListsDatabases w client held) {p : String → Prop} [DecidablePred p]
    (hp : ∀ db ∈ held, ((databaseSelection namespaces excluded).accepts db = true ↔ p db)) :
    ComesTo w (listDatabases client namespaces excluded) (.ok (held.filter fun db => p db)) := by
  have hcomes := comesTo_listDatabases h namespaces excluded
  suffices hfilter : held.filter (databaseSelection namespaces excluded).accepts =
      held.filter fun db => p db by rwa [hfilter] at hcomes
  refine List.filter_congr fun db hdb => ?_
  rw [Bool.eq_iff_iff, decide_eq_true_iff]
  exact hp db hdb

/-- A listing finds the admitted databases when each database is accepted as it is admitted. -/
theorem comesTo_admitted_iff (h : ListsDatabases w client held) :
    ComesTo w (listDatabases client namespaces excluded)
        (.ok (held.filter fun db => Admitted namespaces excluded db)) ↔
      ∀ db ∈ held,
        ((databaseSelection namespaces excluded).accepts db = true ↔ Admitted namespaces excluded db) := by
  refine ⟨fun hadm db hdb => ?_, comesTo_filter h⟩
  have heq : held.filter (databaseSelection namespaces excluded).accepts =
      held.filter fun db => Admitted namespaces excluded db :=
    Except.ok.inj ((comesTo_listDatabases h namespaces excluded).unique hadm)
  have hmem : db ∈ held.filter (databaseSelection namespaces excluded).accepts ↔
      db ∈ held.filter fun db => Admitted namespaces excluded db := by rw [heq]
  simpa [hdb] using hmem

/-- Where every database is accepted as it is admitted: all entries have a database part, or one has
and all databases have names, or none has and the databases with names are excluded. -/
theorem accepts_as_admitted_iff (held namespaces excluded : List String) :
    (∀ db ∈ held, ((databaseSelection namespaces excluded).accepts db = true ↔
        Admitted namespaces excluded db)) ↔
      (∀ e ∈ namespaces, e ≠ "" → databaseOf e ≠ "") ∨
        ((∃ e ∈ namespaces, databaseOf e ≠ "") ∧ "" ∉ held) ∨
        ((∀ e ∈ namespaces, databaseOf e = "") ∧ ∀ db ∈ held, db ≠ "" → db ∈ excluded) := by
  by_cases hnodot : ∀ e ∈ namespaces, e ≠ "" → databaseOf e ≠ ""
  · exact iff_of_true (fun _ _ => accepts_iff_admitted_of_no_dotted hnodot) (.inl hnodot)
  rw [or_iff_right hnodot]
  have hdot : ∃ e ∈ namespaces, e ≠ "" ∧ databaseOf e = "" := by
    simpa using hnodot
  by_cases hpart : ∃ e ∈ namespaces, databaseOf e ≠ ""
  · have hnone : ¬ ∀ e ∈ namespaces, databaseOf e = "" := by simpa using hpart
    rw [or_iff_left fun hr => hnone hr.1, and_iff_right hpart]
    constructor
    · intro hagree hempty
      have hacc := (hagree "" hempty).2 (admitted_empty_of_dotted hdot)
      exact ((accepts_iff_of_part hpart).1 hacc).1 rfl
    · intro hnamed db hdb
      exact accepts_iff_admitted (fun he => hnamed (he ▸ hdb)) (.inl hpart)
  · have hall : ∀ e ∈ namespaces, databaseOf e = "" := by simpa using hpart
    rw [or_iff_right fun hl => hpart hl.1, and_iff_right hall]
    constructor
    · intro hagree db hdb hne
      by_contra hex
      have hacc : (databaseSelection namespaces excluded).accepts db = true :=
        (accepts_of_dotted hall).2 fun e he _ hee => hex (hee ▸ he)
      obtain ⟨e, he, hee, -⟩ := hdot
      exact not_admitted_of_dotted hne ⟨e, he, hee⟩ hall ((hagree db hdb).1 hacc)
    · intro hex db hdb
      by_cases hempty : db = ""
      · subst hempty
        exact iff_of_true ((accepts_of_dotted hall).2 fun _ _ hx => hx) (admitted_empty_of_dotted hdot)
      · have hx : ¬ ∀ e ∈ excluded, e ≠ "" → e ≠ db := fun hd => hd db (hex db hdb hempty) hempty rfl
        rw [accepts_databaseSelection]
        exact iff_of_false (fun ha => hx ha.1) fun ha => hx ha.1

/-- A listing finds exactly the admitted databases, in the server's order, if and only if no entry
begins with a dot, or some entry has a database part and no database is without a name, or none has
one and the databases with names are all excluded. If some entry has a database part, it finds the
admitted databases that have names; if none has one, it finds every database that is not excluded. -/
theorem listDatabases_restricts_iff (w : World) (client : Client) (held : List String)
    (h : ListsDatabases w client held) (namespaces excluded : List String) :
    (ComesTo w (listDatabases client namespaces excluded)
        (.ok (held.filter fun db => Admitted namespaces excluded db)) ↔
      (∀ e ∈ namespaces, e ≠ "" → databaseOf e ≠ "") ∨
        ((∃ e ∈ namespaces, databaseOf e ≠ "") ∧ "" ∉ held) ∨
        ((∀ e ∈ namespaces, databaseOf e = "") ∧ ∀ db ∈ held, db ≠ "" → db ∈ excluded)) ∧
    ((∃ e ∈ namespaces, databaseOf e ≠ "") → ComesTo w (listDatabases client namespaces excluded)
      (.ok (held.filter fun db => db ≠ "" ∧ Admitted namespaces excluded db))) ∧
    ((∀ e ∈ namespaces, databaseOf e = "") → ComesTo w (listDatabases client namespaces excluded)
      (.ok (held.filter fun db => ∀ e ∈ excluded, e ≠ "" → e ≠ db))) := by
  refine ⟨(comesTo_admitted_iff h).trans (accepts_as_admitted_iff held namespaces excluded), ?_, ?_⟩
  · exact fun hpart => comesTo_filter h fun db _ => accepts_iff_of_part hpart
  · exact fun hall => comesTo_filter h fun db _ => accepts_of_dotted hall

/-- One entry without and one with a database part: the second one restricts the listing. -/
theorem listDatabases_restricts_with_part :
    ComesTo (plainServer ["db1", "db2", "local"] fun _ => [])
      (listDatabases 0 [".coll", "", "DB2.coll", "local"] ["local", ""]) (.ok ["db2"]) :=
  (listDatabases_restricts_iff _ 0 ["db1", "db2", "local"] (listsDatabases_plainServer 0 _ _)
    [".coll", "", "DB2.coll", "local"] ["local", ""]).1.2 (.inr (.inl (by decide)))

/-- With the entry `.coll` alone no database is admitted, yet all of them are found. -/
theorem listDatabases_of_dotted_entry :
    ListsDatabases (plainServer ["db1", "db2"] fun _ => []) 0 ["db1", "db2"] ∧
      ComesTo (plainServer ["db1", "db2"] fun _ => []) (listDatabases 0 [".coll"] [])
        (.ok ["db1", "db2"]) ∧
      ["db1", "db2"].filter (fun db => Admitted [".coll"] [] db) = [] :=
  ⟨listsDatabases_plainServer 0 _ _,
    comesTo_listDatabases (listsDatabases_plainServer 0 ["db1", "db2"] fun _ => []) [".coll"] [],
    by decide⟩

end MongoMetrics.Catalogue
