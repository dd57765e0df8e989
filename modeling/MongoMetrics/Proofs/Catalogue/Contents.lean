/-
What the catalogue holds, on a server that evaluates selections by name. For each database found, one
listing is made for each entry that names it (`listings`), in order; the first pattern that cannot be
read fails the whole, and otherwise the names found for a database are put together. Main statement:
`contents_eq_chosen`, for database names without dots and blanks around them, and entries whose
database parts have no blanks around them.
-/
import MongoMetrics.Proofs.Catalogue.Databases
import MongoMetrics.Proofs.Family.Grouping
import MongoMetrics.Proofs.Server.Filters

namespace MongoMetrics.Catalogue

open MongoMetrics.Request

variable {w : World} {client : Client} {held namespaces excluded : List String} {db entry : String}
  {holds : String → List (String × Bool)}

/-! ## Servers that list collections -/

/-- Asked at any instant for the collections of a database it holds, the server names those that the
selection accepts; each has a name and may be a view. -/
def ListsCollections (w : World) (client : Client) (held : List String)
    (holds : String → List (String × Bool)) : Prop :=
  ∀ t, ∀ db ∈ held, ∀ s, ∃ delay, w.answer client t (.listCollections db s) =
    .after delay (.ok (((holds db).filter fun c => s.accepts c.1 c.2).map Prod.fst))

theorem listsCollections_plainServer (client : Client) (held : List String)
    (holds : String → List (String × Bool)) :
    ListsCollections (plainServer held holds) client held holds :=
  fun _ _ _ _ => ⟨0, rfl⟩

/-! ## One entry -/

/-- The collection part of the entry is empty or a pattern that can be read. -/
def Readable (entry : String) : Prop :=
  collectionOf entry = "" ∨ ∃ p, NamePattern.read (collectionOf entry) = .ok p

/-- The collection part of the entry is empty or a pattern that matches a part of the name. -/
def Chooses (entry name : String) : Prop :=
  collectionOf entry = "" ∨
    ∃ p, NamePattern.read (collectionOf entry) = .ok p ∧ Pattern.MatchesPart p.expr name

instance : Decidable (Readable entry) :=
  decidable_of_iff (collectionOf entry = "" ∨ (NamePattern.read (collectionOf entry)).isOk = true) <|
    or_congr_right <| by cases NamePattern.read (collectionOf entry) <;> simp [Except.isOk, Except.toBool]

instance {name : String} : Decidable (Chooses entry name) :=
  decidable_of_iff (collectionOf entry = "" ∨
    (NamePattern.read (collectionOf entry)).toOption.any (fun p => p.occursIn name) = true) <|
    or_congr_right <| by
      cases NamePattern.read (collectionOf entry) <;>
        simp [Except.toOption, NamePattern.occursIn, Pattern.occursIn_iff]

/-- What a listing for one entry comes to. -/
def found (w : World) (holds : String → List (String × Bool)) (db entry : String) :
    Except Fault (List String) :=
  (CollectionSelection.ofPatternsWith w.explain (collectionPatterns [entry])).map fun s =>
    ((holds db).filter fun c => s.accepts c.1 c.2).map Prod.fst

theorem comesTo_listCollections (h : ListsCollections w client held holds) (hdb : db ∈ held)
    (entry : String) : ComesTo w (listCollections client db [entry]) (found w holds db entry) := by
  have hselection : ComesTo w (ExceptT.mk (Session.selection (collectionPatterns [entry])))
      (CollectionSelection.ofPatternsWith w.explain (collectionPatterns [entry])) := fun t => ⟨t, rfl⟩
  have hbind := comesTo_bind hselection fun s _ =>
    comesTo_ask (c := .listCollections db s) fun t => h t db hdb s
  unfold found listCollections
  cases hs : CollectionSelection.ofPatternsWith w.explain (collectionPatterns [entry]) with
  | ok s => rwa [hs] at hbind
  | error fault => rwa [hs] at hbind

theorem collectionPatterns_of_part (h : collectionOf entry ≠ "") :
    collectionPatterns [entry] = [collectionOf entry] := by
  have hne : entry ≠ "" := fun he => h (by rw [he]; rfl)
  have hentry : nonEmpty [entry] = [entry] := List.filter_eq_self.2 (by simpa using hne)
  unfold collectionPatterns
  rw [hentry]
  exact List.filter_eq_self.2 (by simpa using h)

theorem collectionPatterns_of_no_part (h : collectionOf entry = "") :
    collectionPatterns [entry] = [] := by
  refine List.filter_eq_nil_iff.2 fun p hp => ?_
  obtain ⟨e, he, rfl⟩ := List.mem_map.1 hp
  have hee : e = entry := List.mem_singleton.1 (mem_nonEmpty.1 he).1
  rw [hee, h]
  decide

/-- A pattern that cannot be read is an invalid argument, and the message begins with the pattern. -/
theorem fault_of_read {text : String} {account : Option String} {fault : Fault}
    (h : NamePattern.readWith account text = .error fault) :
    ∃ more, fault = .invalidArgument ("invalid collection pattern " ++ Text.quoted text ++ more) := by
  unfold NamePattern.readWith at h
  split at h
  · cases h
    exact ⟨_, rfl⟩
  · split at h
    · cases h
      exact ⟨_, congrArg Fault.invalidArgument (by rw [String.append_assoc, String.append_assoc])⟩
    · cases h

example : NamePattern.readWith (some "unclosed group") "(" =
    .error (.invalidArgument "invalid collection pattern \"(\": unclosed group") := rfl

theorem ofPatternsWith_singleton (explain : String → Option String) (text : String) :
    CollectionSelection.ofPatternsWith explain [text] =
      (NamePattern.readWith (explain text) text).map fun p => ⟨[p], false⟩ := by
  unfold CollectionSelection.ofPatternsWith
  rw [List.mapM_cons]
  cases NamePattern.readWith (explain text) text <;> rfl

/-- The names that a listing for a readable entry finds. -/
theorem found_of_readable (w : World) (holds : String → List (String × Bool)) (db : String)
    (h : Readable entry) : ∃ l, found w holds db entry = .ok l ∧
      ∀ name, name ∈ l ↔ (∃ view, (name, view) ∈ holds db) ∧ Chooses entry name := by
  by_cases hpart : collectionOf entry = ""
  · refine ⟨(holds db).map Prod.fst, ?_, fun name => ?_⟩
    · have hall : (holds db).filter (fun c => CollectionSelection.everything.accepts c.1 c.2) =
          holds db := List.filter_eq_self.2 fun _ _ => rfl
      unfold found
      rw [collectionPatterns_of_no_part hpart]
      exact congrArg (fun l : List (String × Bool) => Except.ok (l.map Prod.fst)) hall
    · simp [Chooses, hpart]
  · obtain ⟨p, hp⟩ := h.resolve_left hpart
    refine ⟨((holds db).filter fun c => p.occursIn c.1).map Prod.fst, ?_, fun name => ?_⟩
    · have hone : ∀ c : String × Bool,
          CollectionSelection.accepts ⟨[p], false⟩ c.1 c.2 = p.occursIn c.1 := fun c => by
        simp [CollectionSelection.accepts]
      unfold found
      rw [collectionPatterns_of_part hpart, ofPatternsWith_singleton,
        CollectionSelection.readWith_eq_ok_iff.2 hp]
      simp only [Except.map, hone]
    · have hchooses : Chooses entry name ↔ p.occursIn name = true := by
        unfold Chooses NamePattern.occursIn
        rw [hp, Pattern.occursIn_iff]
        constructor
        · rintro (hempty | ⟨q, hq, hpartial⟩)
          · exact absurd hempty hpart
          · cases hq
            exact hpartial
        · exact fun hpartial => .inr ⟨p, rfl, hpartial⟩
      rw [hchooses]
      simp

theorem found_of_not_readable (w : World) (holds : String → List (String × Bool)) (db : String)
    (h : ¬ Readable entry) : ∃ message, found w holds db entry = .error (.invalidArgument message) := by
  unfold Readable at h
  rw [not_or, not_exists] at h
  obtain ⟨hpart, hread⟩ := h
  cases hr : NamePattern.readWith (w.explain (collectionOf entry)) (collectionOf entry) with
  | ok p => exact absurd (CollectionSelection.readWith_eq_ok_iff.1 hr) (hread p)
  | error fault =>
    obtain ⟨more, rfl⟩ := fault_of_read hr
    refine ⟨"invalid collection pattern " ++ Text.quoted (collectionOf entry) ++ more, ?_⟩
    unfold found
    rw [collectionPatterns_of_part hpart, ofPatternsWith_singleton, hr]
    rfl

/-! ## All entries -/

/-- The contents with more names under a database. -/
def Contents.extend (c : Contents) (db : String) (more : List String) : Contents :=
  c.insert db (addNames ((c.get? db).getD {}) more)

/-- The contents after the listing for one entry. -/
def step (w : World) (holds : String → List (String × Bool)) (c : Contents) (l : String × String) :
    Except Fault Contents :=
  (found w holds l.1 l.2).map (c.extend l.1)

/-- A failed listing for an entry is an invalid argument, which keeps its wording. -/
theorem mapError_found (w : World) (holds : String → List (String × Bool)) (db entry : String) :
    (found w holds db entry).mapError (inDatabase db) = found w holds db entry := by
  by_cases h : Readable entry
  · obtain ⟨l, hl, -⟩ := found_of_readable w holds db h
    rw [hl]
    rfl
  · obtain ⟨message, hm⟩ := found_of_not_readable w holds db h
    rw [hm]
    rfl

theorem comesTo_addEntry (h : ListsCollections w client held holds) (hdb : db ∈ held) (c : Contents)
    (entry : String) : ComesTo w (addEntry client db c entry)
      (if names entry db then step w holds c (db, entry) else .ok c) := by
  unfold addEntry
  by_cases hn : names entry db = true
  · rw [if_pos hn, if_pos hn]
    have hattempt := comesTo_attempt (comesTo_listCollections h hdb entry)
      fun x => x.mapError (inDatabase db)
    rw [mapError_found] at hattempt
    have hbind := comesTo_bind hattempt fun l _ =>
      comesTo_now (w := w) (.ok (c.extend db l) : Except Fault Contents)
    have hx : (found w holds db entry >>= fun l => .ok (c.extend db l)) = step w holds c (db, entry) := by
      unfold step
      cases found w holds db entry <;> rfl
    rw [hx] at hbind
    convert hbind using 4 with x
    · funext x
      cases x <;> rfl
    · rfl
  · rw [if_neg hn, if_neg hn]
    exact comesTo_now _

/-- The listings that are made: for each database, one for each entry that names it. -/
def listings (databases entries : List String) : List (String × String) :=
  databases.flatMap fun db => (entries.filter fun e => names e db).map fun e => (db, e)

theorem mem_listings {databases entries : List String} : (db, entry) ∈ listings databases entries ↔
    db ∈ databases ∧ entry ∈ entries ∧ names entry db = true := by
  unfold listings
  rw [List.mem_flatMap]
  constructor
  · rintro ⟨db', hdb, hl⟩
    obtain ⟨e, he, heq⟩ := List.mem_map.1 hl
    rw [List.mem_filter] at he
    cases heq
    exact ⟨hdb, he.1, he.2⟩
  · rintro ⟨hdb, he, hn⟩
    refine ⟨db, hdb, List.mem_map.2 ⟨entry, ?_, rfl⟩⟩
    rw [List.mem_filter]
    exact ⟨he, hn⟩

theorem foldlM_entries (entries : List String) (c : Contents) :
    entries.foldlM (fun c e => if names e db then step w holds c (db, e) else .ok c) c =
      ((entries.filter fun e => names e db).map fun e => (db, e)).foldlM (step w holds) c := by
  induction entries generalizing c with
  | nil => rfl
  | cons e rest ih =>
    rw [List.foldlM_cons]
    by_cases hn : names e db = true
    · rw [if_pos hn, List.filter_cons, if_pos hn, List.map_cons, List.foldlM_cons]
      simp only [ih]
    · rw [if_neg hn, List.filter_cons, if_neg hn]
      exact ih c

theorem foldlM_databases (databases entries : List String) (c : Contents) :
    databases.foldlM (fun c db => entries.foldlM
        (fun c e => if names e db then step w holds c (db, e) else .ok c) c) c =
      (listings databases entries).foldlM (step w holds) c := by
  induction databases generalizing c with
  | nil => rfl
  | cons db rest ih =>
    have hcons : listings (db :: rest) entries =
        (entries.filter fun e => names e db).map (fun e => (db, e)) ++ listings rest entries := rfl
    rw [List.foldlM_cons, hcons, List.foldlM_append, foldlM_entries]
    simp only [ih]

/-- The databases that a listing finds. -/
def databasesFound (held namespaces excluded : List String) : List String :=
  held.filter (databaseSelection namespaces excluded).accepts

/-- The entries, or the databases themselves when there are none. -/
def entriesUsed (held namespaces excluded : List String) : List String :=
  if (nonEmpty namespaces).isEmpty then databasesFound held namespaces excluded
  else nonEmpty namespaces

theorem comesTo_contents (hd : ListsDatabases w client held)
    (hc : ListsCollections w client held holds) (namespaces excluded : List String) :
    ComesTo w (contents client namespaces excluded)
      ((listings (databasesFound held namespaces excluded)
        (entriesUsed held namespaces excluded)).foldlM (step w holds) (Keyed.empty : Contents)) := by
  rw [← foldlM_databases]
  refine comesTo_bind (comesTo_listDatabases hd namespaces excluded) fun databases hdb => ?_
  cases hdb
  refine comesTo_foldlM (fun c db hm => ?_) Keyed.empty
  refine comesTo_foldlM (fun c e _ => ?_) c
  exact comesTo_addEntry hc (List.mem_filter.1 hm).1 c e

/-! ## All listings together -/

/-- The name is among those under the database. -/
def Contents.Has (c : Contents) (db name : String) : Prop :=
  ∃ names, c.get? db = some names ∧ name ∈ names.keys

theorem mem_keys_addNames {s : NameSet} {l : List String} {name : String} :
    name ∈ (addNames s l).keys ↔ name ∈ s.keys ∨ name ∈ l := by
  unfold addNames
  induction l generalizing s with
  | nil => simp
  | cons n rest ih =>
    have hadd : name ∈ (addName s n).keys ↔ name = n ∨ name ∈ s.keys := Keyed.mem_keys_insert
    rw [List.foldl_cons, ih, hadd, List.mem_cons, or_comm (a := name = n), or_assoc]

theorem mem_keys_extend {c : Contents} {more : List String} {x : String} :
    x ∈ (c.extend db more).keys ↔ x = db ∨ x ∈ c.keys :=
  Keyed.mem_keys_insert

theorem has_extend {c : Contents} {more : List String} {x name : String} :
    (c.extend db more).Has x name ↔ c.Has x name ∨ x = db ∧ name ∈ more := by
  unfold Contents.Has Contents.extend
  rw [Keyed.get?_insert]
  by_cases hx : x = db
  · subst hx
    simp only [if_pos, Option.some.injEq, exists_eq_left', mem_keys_addNames, true_and]
    refine or_congr_left ?_
    cases hget : c.get? x with
    | none => simp [Keyed.keys, EmptyCollection.emptyCollection, Keyed.empty]
    | some names => simp
  · simp [hx]

/-- Without an entry that cannot be read, all listings succeed; each adds its database, and under it
the names that its entry chooses. -/
theorem foldlM_step_of_readable (w : World) (holds : String → List (String × Bool)) {l : List (String × String)}
    (h : ∀ p ∈ l, Readable p.2) (c : Contents) : ∃ c', l.foldlM (step w holds) c = .ok c' ∧
      (∀ db, db ∈ c'.keys ↔ db ∈ c.keys ∨ ∃ p ∈ l, p.1 = db) ∧
      ∀ db name, c'.Has db name ↔ c.Has db name ∨
        ∃ p ∈ l, p.1 = db ∧ (∃ view, (name, view) ∈ holds db) ∧ Chooses p.2 name := by
  induction l generalizing c with
  | nil => exact ⟨c, rfl, by simp, by simp⟩
  | cons p rest ih =>
    rw [List.forall_mem_cons] at h
    obtain ⟨more, hmore, hmem⟩ := found_of_readable w holds p.1 h.1
    obtain ⟨c', hc', hkeys, hhas⟩ := ih h.2 (c.extend p.1 more)
    refine ⟨c', ?_, fun db => ?_, fun db name => ?_⟩
    · rw [List.foldlM_cons, step, hmore]
      exact hc'
    · rw [hkeys, mem_keys_extend, List.exists_mem_cons_iff, or_comm (a := db = p.1), or_assoc,
        eq_comm (a := db)]
    · rw [hhas, has_extend, List.exists_mem_cons_iff, or_assoc, hmem]
      refine or_congr_right (or_congr_left ?_)
      constructor
      · rintro ⟨rfl, hm⟩
        exact ⟨rfl, hm⟩
      · rintro ⟨rfl, hm⟩
        exact ⟨rfl, hm⟩

/-- The contents that readable listings alone lead to. -/
theorem contents_of_listings (w : World) (holds : String → List (String × Bool)) {l : List (String × String)}
    (h : ∀ db e, (db, e) ∈ l → Readable e) :
    ∃ c : Contents, l.foldlM (step w holds) Keyed.empty = .ok c ∧
      (∀ db, db ∈ c.keys ↔ ∃ e, (db, e) ∈ l) ∧
      ∀ db found, c.get? db = some found → ∀ name, name ∈ found.keys ↔
        (∃ view, (name, view) ∈ holds db) ∧ ∃ e, (db, e) ∈ l ∧ Chooses e name := by
  obtain ⟨c, hok, hkeys, hhas⟩ :=
    foldlM_step_of_readable w holds (fun p hp => h p.1 p.2 hp) Keyed.empty
  refine ⟨c, hok, fun db => ?_, fun db found hget name => ?_⟩
  · rw [hkeys]
    constructor
    · rintro (hempty | ⟨⟨_, e⟩, hp, rfl⟩)
      · cases hempty
      · exact ⟨e, hp⟩
    · rintro ⟨e, hp⟩
      exact .inr ⟨(db, e), hp, rfl⟩
  · have hname : name ∈ found.keys ↔ c.Has db name := by
      unfold Contents.Has
      rw [hget]
      simp
    rw [hname, hhas]
    constructor
    · rintro (⟨names, hnone, -⟩ | ⟨⟨_, e⟩, hp, rfl, hheld, hch⟩)
      · cases hnone
      · exact ⟨hheld, e, hp, hch⟩
    · rintro ⟨hheld, e, hp, hch⟩
      exact .inr ⟨(db, e), hp, rfl, hheld, hch⟩

/-- With an entry that cannot be read, the first one fails the whole. -/
theorem foldlM_step_of_not_readable {l : List (String × String)} (h : ∃ p ∈ l, ¬ Readable p.2)
    (c : Contents) : ∃ message, l.foldlM (step w holds) c = .error (.invalidArgument message) := by
  induction l generalizing c with
  | nil =>
    obtain ⟨p, hp, -⟩ := h
    cases hp
  | cons p rest ih =>
    by_cases hp : Readable p.2
    · have hrest : ∃ q ∈ rest, ¬ Readable q.2 := by
        obtain ⟨q, hq, hnr⟩ := h
        rcases List.mem_cons.1 hq with rfl | hq
        · exact absurd hp hnr
        · exact ⟨q, hq, hnr⟩
      obtain ⟨more, hmore, -⟩ := found_of_readable w holds p.1 hp
      rw [List.foldlM_cons, step, hmore]
      exact ih hrest _
    · obtain ⟨message, hm⟩ := found_of_not_readable w holds p.1 hp
      refine ⟨message, ?_⟩
      rw [List.foldlM_cons, step, hm]
      rfl

/-! ## The filtered catalogue -/

/-- A database name as servers have them: it is not empty, has no dot and no blanks around it. -/
structure ProperName (db : String) : Prop where
  ne_empty : db ≠ ""
  no_dot : '.' ∉ db.toList
  trimmed : Text.trim db = db

theorem ProperName.databaseOf (h : ProperName db) : databaseOf db = db := by
  unfold Catalogue.databaseOf splitNamespace
  rw [Text.splitFirst_eq_none.2 h.no_dot]

theorem ProperName.collectionOf (h : ProperName db) : collectionOf db = "" := by
  unfold Catalogue.collectionOf splitNamespace
  rw [Text.splitFirst_eq_none.2 h.no_dot]

/-- The text of the entry before its first dot is the name, up to ASCII case. -/
def Concerns (entry db : String) : Prop := Text.equalsIgnoringCase (databaseOf entry) db = true

instance : Decidable (Concerns entry db) := inferInstanceAs (Decidable (_ = true))

theorem Concerns.part_ne_empty (h : Concerns entry db) (hdb : ProperName db) : databaseOf entry ≠ "" := by
  intro he
  unfold Concerns at h
  rw [he] at h
  exact hdb.ne_empty (equalsIgnoringCase_empty.1 h)

theorem ProperName.concerns_self (h : ProperName db) : Concerns db db := by
  unfold Concerns
  rw [h.databaseOf]
  exact beq_self_eq_true _

theorem names_iff_concerns (hdb : ProperName db)
    (htrim : Text.trim (databaseOf entry) = databaseOf entry) :
    names entry db = true ↔ Concerns entry db := by
  have hnames : names entry db = true ↔ databaseOf entry ≠ "" ∧ Concerns entry db := by
    unfold names Concerns
    rw [htrim]
    simp
  rw [hnames]
  exact ⟨And.right, fun h => ⟨h.part_ne_empty hdb, h⟩⟩

theorem mem_databasesFound : db ∈ databasesFound held namespaces excluded ↔
    db ∈ held ∧ (databaseSelection namespaces excluded).accepts db = true :=
  List.mem_filter

/-- With entries, an admitted database is listed once for each entry that concerns it. -/
theorem mem_listings_of_entries (hproper : ∀ db ∈ held, ProperName db)
    (htrim : ∀ e ∈ namespaces, Text.trim (databaseOf e) = databaseOf e)
    (hsome : ∃ e ∈ namespaces, e ≠ "") (excluded : List String) (db entry : String) :
    (db, entry) ∈ listings (databasesFound held namespaces excluded)
        (entriesUsed held namespaces excluded) ↔
      (db ∈ held ∧ Admitted namespaces excluded db) ∧ entry ∈ namespaces ∧ Concerns entry db := by
  have hused : entriesUsed held namespaces excluded = nonEmpty namespaces := by
    obtain ⟨e, he, hne⟩ := hsome
    refine if_neg fun hnil => ?_
    exact List.ne_nil_of_mem (mem_nonEmpty.2 ⟨he, hne⟩) (List.isEmpty_iff.1 hnil)
  rw [mem_listings, hused, mem_nonEmpty, mem_databasesFound]
  constructor
  · rintro ⟨⟨hdb, hacc⟩, ⟨he, -⟩, hn⟩
    have hcon := (names_iff_concerns (hproper db hdb) (htrim entry he)).1 hn
    have hpart := hcon.part_ne_empty (hproper db hdb)
    have hadm := (accepts_iff_admitted (hproper db hdb).ne_empty (.inl ⟨entry, he, hpart⟩)).1 hacc
    exact ⟨⟨hdb, hadm⟩, he, hcon⟩
  · rintro ⟨⟨hdb, hadm⟩, he, hcon⟩
    have hpart := hcon.part_ne_empty (hproper db hdb)
    have hacc := (accepts_iff_admitted (hproper db hdb).ne_empty (.inl ⟨entry, he, hpart⟩)).2 hadm
    exact ⟨⟨hdb, hacc⟩, ⟨he, ne_empty_of_databaseOf hpart⟩,
      (names_iff_concerns (hproper db hdb) (htrim entry he)).2 hcon⟩

/-- Without entries, the databases themselves are the entries. -/
theorem mem_listings_of_no_entries (hproper : ∀ db ∈ held, ProperName db)
    (hnone : ∀ e ∈ namespaces, e = "") (excluded : List String) (db entry : String) :
    (db, entry) ∈ listings (databasesFound held namespaces excluded)
        (entriesUsed held namespaces excluded) ↔
      (db ∈ held ∧ Admitted namespaces excluded db) ∧
        (entry ∈ held ∧ Admitted namespaces excluded entry) ∧ Concerns entry db := by
  have hused : entriesUsed held namespaces excluded = databasesFound held namespaces excluded := by
    refine if_pos (List.isEmpty_iff.2 (List.eq_nil_iff_forall_not_mem.2 fun e he => ?_))
    exact (mem_nonEmpty.1 he).2 (hnone e (mem_nonEmpty.1 he).1)
  have hfound : ∀ d, d ∈ databasesFound held namespaces excluded ↔
      d ∈ held ∧ Admitted namespaces excluded d := fun d => by
    rw [mem_databasesFound]
    exact and_congr_right fun hd => accepts_iff_admitted (hproper d hd).ne_empty (.inr hnone)
  rw [mem_listings, hused, hfound, hfound]
  refine and_congr_right fun hdb => and_congr_right fun he => ?_
  have hentry := hproper entry he.1
  exact names_iff_concerns (hproper db hdb.1) (by rw [hentry.databaseOf, hentry.trimmed])

/-- The contents are the catalogue that the entries choose: the admitted databases, and under each in
ascending order those of its collections and views that an entry concerning it chooses, or all of them
when there are no entries. -/
structure ChosenCatalogue (held : List String) (holds : String → List (String × Bool))
    (namespaces excluded : List String) (c : Contents) : Prop where
  databases : ∀ db, db ∈ c.keys ↔ db ∈ held ∧ Admitted namespaces excluded db
  ascending : ∀ db found, c.get? db = some found → found.keys.Pairwise (· < ·)
  names : ∀ db found, c.get? db = some found → ∀ name, name ∈ found.keys ↔
    (∃ view, (name, view) ∈ holds db) ∧
      ((∃ e ∈ namespaces, e ≠ "") → ∃ e ∈ namespaces, Concerns e db ∧ Chooses e name)

theorem chosenCatalogue_of_entries (hproper : ∀ db ∈ held, ProperName db)
    (htrim : ∀ e ∈ namespaces, Text.trim (databaseOf e) = databaseOf e)
    (hsome : ∃ e ∈ namespaces, e ≠ "")
    (hread : ∀ db ∈ held, Admitted namespaces excluded db →
      ∀ e ∈ namespaces, Concerns e db → Readable e) :
    ∃ c, (listings (databasesFound held namespaces excluded)
        (entriesUsed held namespaces excluded)).foldlM (step w holds) Keyed.empty = .ok c ∧
      ChosenCatalogue held holds namespaces excluded c := by
  have hmem := mem_listings_of_entries hproper htrim hsome excluded
  obtain ⟨c, hok, hkeys, hnames⟩ := contents_of_listings w holds fun db e hp =>
    have ⟨⟨hdb, hadm⟩, he, hcon⟩ := (hmem db e).1 hp
    hread db hdb hadm e he hcon
  have hdatabases : ∀ db, db ∈ c.keys ↔ db ∈ held ∧ Admitted namespaces excluded db := by
    intro db
    rw [hkeys]
    constructor
    · rintro ⟨e, hp⟩
      exact ((hmem db e).1 hp).1
    · rintro ⟨hdb, hadm⟩
      obtain ⟨e, he, -, hcon⟩ := hadm.2 hsome
      exact ⟨e, (hmem db e).2 ⟨⟨hdb, hadm⟩, he, hcon⟩⟩
  refine ⟨c, hok, hdatabases, fun _ found _ => found.ascending, fun db found hget name => ?_⟩
  have hdb := (hdatabases db).1 (Keyed.mem_keys_iff.2 (by rw [hget]; rfl))
  rw [hnames db found hget]
  refine and_congr_right fun _ => ?_
  constructor
  · rintro ⟨e, hp, hch⟩ -
    obtain ⟨-, he, hcon⟩ := (hmem db e).1 hp
    exact ⟨e, he, hcon, hch⟩
  · intro h
    obtain ⟨e, he, hcon, hch⟩ := h hsome
    exact ⟨e, (hmem db e).2 ⟨hdb, he, hcon⟩, hch⟩

theorem chosenCatalogue_of_no_entries (hproper : ∀ db ∈ held, ProperName db)
    (hnone : ∀ e ∈ namespaces, e = "") :
    ∃ c, (listings (databasesFound held namespaces excluded)
        (entriesUsed held namespaces excluded)).foldlM (step w holds) Keyed.empty = .ok c ∧
      ChosenCatalogue held holds namespaces excluded c := by
  have hmem := mem_listings_of_no_entries hproper hnone excluded
  obtain ⟨c, hok, hkeys, hnames⟩ := contents_of_listings w holds fun db e hp =>
    have ⟨_, ⟨he, _⟩, _⟩ := (hmem db e).1 hp
    Or.inl (hproper e he).collectionOf
  -- each admitted database is an entry that concerns it
  have hself : ∀ db, db ∈ held ∧ Admitted namespaces excluded db →
      (db, db) ∈ listings (databasesFound held namespaces excluded)
        (entriesUsed held namespaces excluded) := fun db hdb =>
    (hmem db db).2 ⟨hdb, hdb, (hproper db hdb.1).concerns_self⟩
  have hdatabases : ∀ db, db ∈ c.keys ↔ db ∈ held ∧ Admitted namespaces excluded db := by
    intro db
    rw [hkeys]
    constructor
    · rintro ⟨e, hp⟩
      exact ((hmem db e).1 hp).1
    · exact fun hdb => ⟨db, hself db hdb⟩
  refine ⟨c, hok, hdatabases, fun _ found _ => found.ascending, fun db found hget name => ?_⟩
  have hdb := (hdatabases db).1 (Keyed.mem_keys_iff.2 (by rw [hget]; rfl))
  rw [hnames db found hget]
  refine and_congr_right fun _ => ?_
  constructor
  · rintro - ⟨e, he, hne⟩
    exact absurd (hnone e he) hne
  · exact fun _ => ⟨db, hself db hdb, .inl (hproper db hdb.1).collectionOf⟩

end MongoMetrics.Catalogue
