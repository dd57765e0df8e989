/-
Counting the collections of a server. First the databases are listed, and then the collections of each;
the first listing that fails ends the count, and a listing that is never answered leaves it open. Main
statement: `outcome_countCollections`, by which a count comes to what the listings say.
-/
import MongoMetrics.Proofs.Catalogue.Contents
import MongoMetrics.Proofs.Server.Events

namespace MongoMetrics.Catalogue

/-! ## What the listings come to -/

/-- All databases but those of the system. -/
def outsideSystem : DatabaseSelection := ⟨["admin", "config", "local"], []⟩

theorem accepts_outsideSystem (name : String) :
    outsideSystem.accepts name = true ↔ name ∉ ["admin", "config", "local"] := by
  simp [outsideSystem, DatabaseSelection.accepts]

/-- What listing the collections of the databases comes to, one after the other from `t` on: the number
of names in all listings, or the first failure. -/
inductive Listed (client : Client) (w : World) : Instant → List String → Except Fault Nat → Instant → Prop
  | done {t : Instant} : Listed client w t [] (.ok 0) t
  | fails {t : Instant} {database : String} {rest : List String} {delay : Duration} {fault : Fault}
    (h : w.answer client t (.listCollections database .everything) = .after delay (.error fault)) :
    Listed client w t (database :: rest) (.error fault) (t + delay)
  | next {t ready : Instant} {database : String} {rest names : List String} {delay : Duration}
    {x : Except Fault Nat}
    (h : w.answer client t (.listCollections database .everything) = .after delay (.ok names))
    (hrest : Listed client w (t + delay) rest x ready) :
    Listed client w t (database :: rest) (x.map (names.length + ·)) ready

/-- What counting the collections outside the system databases comes to. -/
inductive Counted (client : Client) (w : World) (t : Instant) : Except Fault Nat → Instant → Prop
  | fails {delay : Duration} {fault : Fault}
    (h : w.answer client t (.listDatabases outsideSystem) = .after delay (.error fault)) :
    Counted client w t (.error fault) (t + delay)
  | listed {ready : Instant} {delay : Duration} {databases : List String} {x : Except Fault Nat}
    (h : w.answer client t (.listDatabases outsideSystem) = .after delay (.ok databases))
    (hrest : Listed client w (t + delay) databases x ready) : Counted client w t x ready

/-! ## What a count comes to -/

variable {client : Client} {w : World} {t ready : Instant} {x : Except Fault Nat}

/-- The number of collections of one database. -/
def countIn (client : Client) (database : String) : Request Nat := do
  return (← listCollections client database []).length

theorem outcome_countIn (client : Client) (database : String) (w : World) (t : Instant) :
    ((countIn client database).attempt.run w t).outcome =
      match w.answer client t (.listCollections database .everything) with
      | .after delay found => some (found.map List.length, t + delay)
      | .never => none := by
  -- without patterns all collections are listed
  have hlist : ((listCollections client database []).attempt.run w t).outcome = _ :=
    Session.outcome_ask client (.listCollections database .everything) w t
  unfold countIn
  rw [Request.outcome_map, hlist]
  cases w.answer client t (.listCollections database .everything) <;> rfl

/-- The counts of all databases, up to the first failure. -/
def countEach (client : Client) (databases : List String) : Request (List Nat) :=
  Request.forEach (countIn client) databases

/-- The first listing decides: it is not answered, it fails, or the others follow. -/
theorem outcome_countEach_cons (client : Client) (database : String) (rest : List String) (w : World)
    (t : Instant) : ((countEach client (database :: rest)).attempt.run w t).outcome =
      match w.answer client t (.listCollections database .everything) with
      | .after delay (.ok names) => ((countEach client rest).attempt.run w (t + delay)).outcome.map
          fun r => (r.1.map (names.length :: ·), r.2)
      | .after delay (.error fault) => some (.error fault, t + delay)
      | .never => none := by
  have hfirst := outcome_countIn client database w t
  show ((countIn client database >>= fun n => countEach client rest >>= fun counts =>
    Pure.pure (n :: counts)).attempt.run w t).outcome = _
  cases h : w.answer client t (.listCollections database .everything) with
  | never =>
    rw [h] at hfirst
    exact Request.outcome_bind_none hfirst
  | after delay found =>
    rw [h] at hfirst
    cases found with
    | error fault => exact Request.outcome_bind_error hfirst
    | ok names => exact (Request.outcome_bind_ok hfirst).trans (Request.outcome_map _ _)

/-- The total of counts. -/
def total (counts : List Nat) : Nat := counts.foldl (· + ·) 0

theorem total_cons (n : Nat) (counts : List Nat) : total (n :: counts) = n + total counts := by
  unfold total
  rw [← List.sum_eq_foldl_nat, ← List.sum_eq_foldl_nat, List.sum_cons]

theorem map_total_cons (n : Nat) (counts : Except Fault (List Nat)) :
    (counts.map (n :: ·)).map total = (counts.map total).map (n + ·) := by
  cases counts with
  | error fault => rfl
  | ok counts => exact congrArg Except.ok (total_cons n counts)

theorem listed_iff {databases : List String} : Listed client w t databases x ready ↔
    ∃ counts, ((countEach client databases).attempt.run w t).outcome = some (counts, ready) ∧
      x = counts.map total := by
  induction databases generalizing t x with
  | nil =>
    constructor
    · intro h
      cases h with
      | done => exact ⟨.ok [], rfl, rfl⟩
    · rintro ⟨counts, h, rfl⟩
      cases h
      exact .done
  | cons database rest ih =>
    rw [outcome_countEach_cons]
    constructor
    · intro h
      cases h with
      | fails h => exact ⟨_, by rw [h], rfl⟩
      | @next _ _ _ _ names _ _ h hrest =>
        obtain ⟨counts, hcounts, rfl⟩ := ih.1 hrest
        exact ⟨counts.map (names.length :: ·), by simp only [h, hcounts]; rfl, (map_total_cons _ _).symm⟩
    · rintro ⟨counts, h, rfl⟩
      split at h
      · rename_i delay names hanswer
        obtain ⟨⟨counts', ready'⟩, hrest, he⟩ := Option.map_eq_some_iff.1 h
        cases he
        rw [map_total_cons]
        exact .next hanswer (ih.2 ⟨counts', hrest, rfl⟩)
      · rename_i hanswer
        cases h
        exact .fails hanswer
      · cases h

theorem outcome_total {databases : List String} :
    ((countEach client databases >>= fun counts => Pure.pure (total counts)).attempt.run w t).outcome =
      some (x, ready) ↔ Listed client w t databases x ready := by
  rw [Request.outcome_map, Option.map_eq_some_iff, listed_iff]
  constructor
  · rintro ⟨⟨counts, ready'⟩, hcounts, he⟩
    cases he
    exact ⟨counts, hcounts, rfl⟩
  · rintro ⟨counts, hcounts, rfl⟩
    exact ⟨(counts, ready), hcounts, rfl⟩

/-- A count is ready just when the listings come to something, and then it comes to the same. -/
theorem outcome_countCollections : ((countCollections client [] []).attempt.run w t).outcome =
    some (x, ready) ↔ Counted client w t x ready := by
  have hdatabases : ((listDatabases client [] systemDatabases).attempt.run w t).outcome = _ :=
    Session.outcome_ask client (.listDatabases outsideSystem) w t
  show ((listDatabases client [] systemDatabases >>= fun databases =>
    countEach client databases >>= fun counts => Pure.pure (total counts)).attempt.run w t).outcome = _ ↔ _
  constructor
  · intro hx
    cases h : w.answer client t (.listDatabases outsideSystem) with
    | never =>
      rw [h] at hdatabases
      rw [Request.outcome_bind_none hdatabases] at hx
      cases hx
    | after delay found =>
      rw [h] at hdatabases
      cases found with
      | error fault =>
        rw [Request.outcome_bind_error hdatabases] at hx
        cases hx
        exact .fails h
      | ok databases =>
        exact .listed h (outcome_total.1 ((Request.outcome_bind_ok hdatabases).symm.trans hx))
  · intro hx
    cases hx with
    | fails h =>
      rw [h] at hdatabases
      exact Request.outcome_bind_error hdatabases
    | listed h hrest =>
      rw [h] at hdatabases
      exact (Request.outcome_bind_ok hdatabases).trans (outcome_total.2 hrest)

/-- What a run comes to is unique, and so is what the listings come to. -/
theorem Counted.unique {y : Except Fault Nat} {ready' : Instant} (h : Counted client w t x ready)
    (h' : Counted client w t y ready') : x = y ∧ ready = ready' := by
  have he := outcome_countCollections.2 h
  rw [outcome_countCollections.2 h'] at he
  cases he
  exact ⟨rfl, rfl⟩

/-! ## Servers that list what they hold -/

section

variable {held : List String} {holds : String → List (String × Bool)}

theorem exists_listed (h : ListsCollections w client held holds) {databases : List String}
    (hheld : ∀ db ∈ databases, db ∈ held) (t : Instant) : ∃ ready,
      Listed client w t databases (.ok (total (databases.map fun db => (holds db).length))) ready := by
  induction databases generalizing t with
  | nil => exact ⟨t, .done⟩
  | cons database rest ih =>
    rw [List.forall_mem_cons] at hheld
    obtain ⟨delay, hanswer⟩ := h t database hheld.1 .everything
    obtain ⟨ready, hrest⟩ := ih hheld.2 (t + delay)
    have hall : (holds database).filter (fun c => CollectionSelection.everything.accepts c.1 c.2) =
        holds database := List.filter_eq_self.2 fun _ _ => rfl
    rw [hall] at hanswer
    have hlength : (holds database).length = ((holds database).map Prod.fst).length :=
      (List.length_map Prod.fst).symm
    refine ⟨ready, ?_⟩
    rw [List.map_cons, total_cons, hlength]
    exact .next hanswer hrest

/-- A server that answers from what it holds has all its collections counted but those of the system
databases. -/
theorem exists_counted (hd : ListsDatabases w client held) (hc : ListsCollections w client held holds)
    (t : Instant) : ∃ ready, Counted client w t
      (.ok (total ((held.filter outsideSystem.accepts).map fun db => (holds db).length))) ready := by
  obtain ⟨delay, hanswer⟩ := hd t outsideSystem
  obtain ⟨ready, hlisted⟩ := exists_listed hc (fun _ h => (List.mem_filter.1 h).1) (t + delay)
  exact ⟨ready, .listed hanswer hlisted⟩

end

/-! ## Questions of a count -/

/-- The listings that a count asks for. -/
def IsListing (client : Client) (e : Event) : Prop :=
  ∃ database, e = .call client (.listCollections database .everything)

/-- A count begins with the databases, and then asks for nothing but their collections. -/
theorem opens_countCollections (client : Client) :
    Session.Opens (.call client (.listDatabases outsideSystem)) (IsListing client)
      (countCollections client [] []).attempt := by
  refine Session.Opens.bind (Session.opens_await _ _) fun answer => ?_
  cases answer with
  | error fault => exact Session.confined_pure _
  | ok databases =>
    refine Request.Confined.bind (Request.confined_forEach (fun database => ?_) databases)
      fun counts => Request.confined_pure _
    refine Request.Confined.bind ?_ fun found => Request.confined_pure _
    show Request.Confined _ (Request.ask client (.listCollections database .everything))
    exact Request.confined_ask ⟨database, rfl⟩

end MongoMetrics.Catalogue
