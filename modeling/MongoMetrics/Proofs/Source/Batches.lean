/-
What the batches of the sources are made of. Each source builds its documents and its ready samples in
one way from the replies it gets; so what holds of everything built in this way holds of all that a
fetch yields, whatever the server answers and however the fetch comes about.
-/
import MongoMetrics.Proofs.Server.Yields
import MongoMetrics.Source.Server
import MongoMetrics.Source.Sharding

namespace MongoMetrics.Source

open MongoMetrics.Scrape

variable {P : Fetched → Prop} {Q : Sample → Prop} {client : Client}

/-- All documents and all ready samples of the batch are of a kind. -/
structure MadeOf (P : Fetched → Prop) (Q : Sample → Prop) (b : Batch) : Prop where
  documents : ∀ f ∈ b.documents, P f
  samples : ∀ s ∈ b.samples, Q s

theorem madeOf_ofDocuments {documents : List Fetched} (h : ∀ f ∈ documents, P f) :
    MadeOf P Q (Batch.ofDocuments documents) :=
  ⟨h, fun _ hs => by cases hs⟩

/-! ## The server itself -/

theorem yields_general (h : ∀ up, Q (upSample up)) : Request.Yields (general client).fetch (MadeOf P Q) := by
  refine Session.yields_bind Session.yields_true fun answer _ => Session.yields_pure fun b hb => ?_
  cases hb
  refine ⟨fun f hf => (by cases hf), fun s hs => ?_⟩
  rw [List.mem_singleton.1 hs]
  exact h _

theorem yields_replicaStatus {deployment : Deployment} (h : ∀ status, P ⟨"replSetGetStatus", status, {}⟩) :
    Request.Yields (replicaStatus client deployment).fetch (MadeOf P Q) := by
  refine Request.yields_bind Request.yields_true fun status _ => ?_
  refine Request.yields_pure (madeOf_ofDocuments fun f hf => ?_)
  rw [List.mem_singleton.1 hf]
  exact h status

/-! ## Statistics -/

theorem yields_eachItem {α β : Type} {question : α → Session (Except Fault β)}
    {read : α → β → List Fetched} (h : ∀ a b, ∀ f ∈ read a b, P f) (items : List α) :
    Session.Yields (eachItem question read items) fun l => ∀ f ∈ l, P f := by
  refine Session.yields_bind (P := fun found => ∀ l ∈ found, ∀ f ∈ l, P f)
    (Session.yields_forEach fun a _ => ?_) fun found hfound => ?_
  · refine Session.yields_bind Session.yields_true fun answer _ => ?_
    cases answer with
    | ok b => exact Session.yields_pure (h a b)
    | error fault => exact Session.yields_nil
  · refine Session.yields_pure fun f hf => ?_
    obtain ⟨l, hl, hf⟩ := List.mem_flatten.1 hf
    exact hfound l hl f hf

theorem yields_databaseStats {namespaces : List String}
    (h : ∀ database stats, ∀ f ∈ databaseDocument database stats, P f) :
    Request.Yields (databaseStats client namespaces).fetch (MadeOf P Q) := by
  refine Request.yields_bind Request.yields_true fun databases _ => ?_
  exact Request.yields_bind (Request.yields_lift (yields_eachItem h databases))
    fun documents hdocuments => Request.yields_pure (madeOf_ofDocuments hdocuments)

theorem yields_collectionStats {namespaces : List String} {discovering : Bool}
    {naming : Extraction.Naming} (h : ∀ ns rows, ∀ f ∈ collectionRows ns rows, P f) :
    Request.Yields (collectionStats client namespaces discovering naming).fetch (MadeOf P Q) := by
  refine Request.yields_bind Request.yields_true fun resolved _ => ?_
  exact Request.yields_bind (Request.yields_lift (yields_eachItem h resolved))
    fun documents hdocuments => Request.yields_pure (madeOf_ofDocuments hdocuments)

theorem yields_indexStats {namespaces : List String} {discovering : Bool}
    (h : ∀ ns row f, indexRow? ns row = some f → P f) :
    Request.Yields (indexStats client namespaces discovering).fetch (MadeOf P Q) := by
  refine Request.yields_bind Request.yields_true fun resolved _ => ?_
  refine Request.yields_bind (Request.yields_lift (yields_eachItem (fun ns rows f hf => ?_) resolved))
    fun documents hdocuments => Request.yields_pure (madeOf_ofDocuments hdocuments)
  obtain ⟨row, -, hrow⟩ := List.mem_filterMap.1 hf
  exact h ns row f hrow

/-! ## Sharding -/

theorem yields_databaseChunks
    (h : ∀ database collection chunk f, chunkRow? database collection chunk = some f → P f)
    (database : String) : Session.Yields (databaseChunks client database) fun l => ∀ f ∈ l, P f := by
  refine Session.yields_bind Session.yields_true fun answer _ => ?_
  cases answer with
  | error fault => exact Session.yields_nil
  | ok rows =>
    refine yields_eachItem (fun item chunks f hf => ?_) _
    obtain ⟨chunk, -, hchunk⟩ := List.mem_filterMap.1 hf
    exact h _ _ chunk f hchunk

theorem yields_collectionSize
    (h : ∀ database collection stats, ∀ s ∈ sizeSamples database collection stats, Q s)
    (item : String × String) :
    Session.Yields (collectionSize client item) fun l => ∀ s ∈ l, Q s := by
  refine Session.yields_bind Session.yields_true fun answer _ => ?_
  cases answer with
  | error fault => exact Session.yields_nil
  | ok stats => exact Session.yields_pure (h _ _ stats)

theorem yields_collectionSizes
    (h : ∀ database collection stats, ∀ s ∈ sizeSamples database collection stats, Q s) :
    Session.Yields (collectionSizes client) fun l => ∀ s ∈ l, Q s := by
  refine Session.yields_bind Session.yields_true fun answer _ => ?_
  cases answer with
  | error fault => exact Session.yields_nil
  | ok contents =>
    refine Session.yields_bind (Session.yields_forEach fun item _ => yields_collectionSize h item)
      fun sizes hsizes => Session.yields_pure fun s hs => ?_
    obtain ⟨l, hl, hs⟩ := List.mem_flatten.1 hs
    exact hsizes l hl s hs

theorem yields_sharding
    (hchunk : ∀ database collection chunk f, chunkRow? database collection chunk = some f → P f)
    (hsize : ∀ database collection stats, ∀ s ∈ sizeSamples database collection stats, Q s) :
    Request.Yields (sharding client).fetch (MadeOf P Q) := by
  refine Request.yields_bind Request.yields_true fun databases _ => ?_
  refine Request.yields_bind (Request.yields_lift (Session.yields_forEach fun database _ =>
    yields_databaseChunks hchunk database)) fun documents hdocuments => ?_
  refine Request.yields_bind (Request.yields_lift (yields_collectionSizes hsize))
    fun sizes hsizes => ?_
  refine Request.yields_pure ⟨fun f hf => ?_, hsizes⟩
  obtain ⟨l, hl, hf⟩ := List.mem_flatten.1 hf
  exact hdocuments l hl f hf

end MongoMetrics.Source
