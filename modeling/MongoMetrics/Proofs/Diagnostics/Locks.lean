/-
What becomes of the lock statistics. The diagnostic data has a number for a resource, a statistic and a
mode where a path of nested documents leads to it (`LockCell.RecordedIn`); each such number is one counter,
in the order of the document and then of the modes. Main statement: `locks_regroup_without_loss`, by which
none of the counters overwrites another one either, unless two statistics of a resource get the same name.
What else is regrouped of the diagnostic data has other metrics.
-/
import MongoMetrics.Proofs.Document.Paths
import MongoMetrics.Proofs.Sample.Latest
import MongoMetrics.Source.Server
import Mathlib.Data.List.Nodup

namespace MongoMetrics.Diagnostics

/-! ## Fields at a path -/

/-- The fields of the document that a path leads to. -/
def fieldsAt (data : Document) (path : List String) : Document :=
  ((Document.at? data path).map fieldsOf).getD []

/-- The names of these fields. -/
def namesAt (data : Document) (path : List String) : List String := (fieldsAt data path).map Prod.fst

/-- Where the locks are. -/
def locksPath : List String := ["serverStatus", "locks"]

/-- No two locks have one name, and no two statistics of a lock, as documents of the database are. -/
structure DistinctNames (data : Document) : Prop where
  resources : (namesAt data locksPath).Nodup
  statistics : ∀ resource, (namesAt data (locksPath ++ [resource])).Nodup

theorem fieldsOf_eq_nil {v : Value} (h : ∀ fields, v ≠ .document fields) : fieldsOf v = [] := by
  cases v with
  | document fields => exact absurd rfl (h fields)
  | _ => rfl

theorem follow?_field (v : Value) (key : String) : v.follow? [key] = Document.get? (fieldsOf v) key := by
  rcases v.document_or with ⟨fields, rfl⟩ | hv
  · rw [Value.follow?_document]
    exact Option.bind_fun_some _
  · rw [Value.follow?_cons hv, fieldsOf_eq_nil hv]
    rfl

theorem mem_fieldsOf_iff {v w : Value} {key : String} (h : ((fieldsOf v).map Prod.fst).Nodup) :
    (key, w) ∈ fieldsOf v ↔ v.follow? [key] = some w := by
  rw [follow?_field, Document.get?_eq_some_iff_mem h]

theorem number?_fieldsOf (v : Value) (key : String) :
    Document.number? (fieldsOf v) key = (v.follow? [key]).bind Value.number? := by
  rw [follow?_field, Document.number?]
  cases Document.get? (fieldsOf v) key <;> rfl

theorem mem_fieldsAt {data : Document} {path : List String} (hpath : path ≠ [])
    (h : (namesAt data path).Nodup) {key : String} {v : Value} :
    (key, v) ∈ fieldsAt data path ↔ Document.at? data (path ++ [key]) = some v := by
  rw [Document.at?_append data hpath]
  unfold namesAt fieldsAt at h
  unfold fieldsAt
  cases hat : Document.at? data path with
  | none => simp
  | some u =>
    rw [hat] at h
    exact mem_fieldsOf_iff h

theorem fieldsAt_of_at? {data : Document} {path : List String} {v : Value}
    (h : Document.at? data path = some v) : fieldsAt data path = fieldsOf v := by
  rw [fieldsAt, h]
  rfl

/-- What holds of the fields of all locks holds of those that a path leads to. -/
theorem namesAt_of_forall {data : Document} {P : List String → Prop} (hnil : P [])
    (h : ∀ f ∈ fieldsAt data locksPath, P ((fieldsOf f.2).map Prod.fst)) (resource : String) :
    P (namesAt data (locksPath ++ [resource])) := by
  unfold namesAt
  unfold fieldsAt at *
  rw [Document.at?_append data (by decide)]
  cases hat : Document.at? data locksPath with
  | none => exact hnil
  | some locks =>
    rw [hat] at h
    rw [Option.bind_some, follow?_field]
    cases hget : Document.get? (fieldsOf locks) resource with
    | none => exact hnil
    | some statistics => exact h (resource, statistics) (Document.mem_of_get? hget)

/-! ## Counters -/

/-- A counter, by where it stands among the locks and what it says. -/
structure LockCell where
  resource : String
  statistic : String
  mode : String × String
  value : Float

namespace LockCell

def path (c : LockCell) : List String := locksPath ++ [c.resource, c.statistic, c.mode.1]

/-- The sample of a counter, with the resource and the name of the mode as labels. -/
def sample (c : LockCell) : Sample :=
  Sample.counter ("mongodb_locks_" ++ Extraction.normalize c.statistic)
    ("serverStatus.locks." ++ c.statistic) c.value
    ((Keyed.single "resource" c.resource).insert "lock_mode" c.mode.2)

/-- The document has an integer or a double at the place of the counter. -/
structure RecordedIn (data : Document) (c : LockCell) : Prop where
  mode : c.mode ∈ lockModes
  number : (Document.at? data c.path).bind Value.number? = some c.value

end LockCell

/-- The counters of a statistic, one for each mode that holds a number. -/
def modeCells (resource statistic : String) (modes : Document) : List LockCell :=
  lockModes.filterMap fun mode =>
    (Document.number? modes mode.1).map (LockCell.mk resource statistic mode)

def resourceCells (resource : String) (statistics : Document) : List LockCell :=
  statistics.flatMap fun field => modeCells resource field.1 (fieldsOf field.2)

def lockCells (data : Document) : List LockCell :=
  (fieldsAt data locksPath).flatMap fun field => resourceCells field.1 (fieldsOf field.2)

theorem lockSamples_eq (data : Document) : lockSamples data = (lockCells data).map LockCell.sample := by
  have hmodes : ∀ resource statistic modes, lockModes.filterMap (lockSample? resource statistic modes) =
      (modeCells resource statistic modes).map LockCell.sample := fun resource statistic modes => by
    rw [modeCells, List.map_filterMap]
    refine List.filterMap_congr fun mode _ => ?_
    rw [lockSample?, Option.map_map]
    rfl
  have hlocks : lockSamples data = (fieldsAt data locksPath).flatMap fun field =>
      (fieldsOf field.2).flatMap fun f => lockModes.filterMap (lockSample? field.1 f.1 (fieldsOf f.2)) := by
    unfold lockSamples fieldsAt locksPath
    cases Document.at? data ["serverStatus", "locks"] with
    | none => rfl
    | some locks => cases locks <;> rfl
  rw [hlocks, lockCells, List.map_flatMap]
  refine List.flatMap_congr fun field _ => ?_
  rw [resourceCells, List.map_flatMap]
  exact List.flatMap_congr fun f _ => hmodes _ _ _

theorem mem_modeCells {c : LockCell} {resource statistic : String} {modes : Document} :
    c ∈ modeCells resource statistic modes ↔ c.resource = resource ∧ c.statistic = statistic ∧
      c.mode ∈ lockModes ∧ Document.number? modes c.mode.1 = some c.value := by
  rw [modeCells, List.mem_filterMap]
  constructor
  · rintro ⟨mode, hmode, hc⟩
    obtain ⟨x, hx, rfl⟩ := Option.map_eq_some_iff.1 hc
    exact ⟨rfl, rfl, hmode, hx⟩
  · rintro ⟨rfl, rfl, hmode, hx⟩
    exact ⟨c.mode, hmode, by rw [hx]; rfl⟩

theorem mem_resourceCells {c : LockCell} {resource : String} {statistics : Document} :
    c ∈ resourceCells resource statistics ↔ c.resource = resource ∧ c.mode ∈ lockModes ∧
      ∃ modes, (c.statistic, modes) ∈ statistics ∧
        Document.number? (fieldsOf modes) c.mode.1 = some c.value := by
  rw [resourceCells, List.mem_flatMap]
  constructor
  · rintro ⟨⟨statistic, modes⟩, hfield, hc⟩
    obtain ⟨hresource, rfl, hmode, hx⟩ := mem_modeCells.1 hc
    exact ⟨hresource, hmode, modes, hfield, hx⟩
  · rintro ⟨hresource, hmode, modes, hfield, hx⟩
    exact ⟨_, hfield, mem_modeCells.2 ⟨hresource, rfl, hmode, hx⟩⟩

theorem mem_lockCells {c : LockCell} {data : Document} :
    c ∈ lockCells data ↔ c.mode ∈ lockModes ∧ ∃ statistics modes,
      (c.resource, statistics) ∈ fieldsAt data locksPath ∧ (c.statistic, modes) ∈ fieldsOf statistics ∧
        Document.number? (fieldsOf modes) c.mode.1 = some c.value := by
  rw [lockCells, List.mem_flatMap]
  constructor
  · rintro ⟨⟨resource, statistics⟩, hfield, hc⟩
    obtain ⟨rfl, hmode, modes, hmodes, hx⟩ := mem_resourceCells.1 hc
    exact ⟨hmode, statistics, modes, hfield, hmodes, hx⟩
  · rintro ⟨hmode, statistics, modes, hfield, hmodes, hx⟩
    exact ⟨_, hfield, mem_resourceCells.2 ⟨rfl, hmode, modes, hmodes, hx⟩⟩

/-- There is a counter for each number at a place of the locks, and no other one. -/
theorem mem_lockCells_iff {data : Document} (h : DistinctNames data) {c : LockCell} :
    c ∈ lockCells data ↔ c.RecordedIn data := by
  have hpath : c.path = locksPath ++ [c.resource] ++ [c.statistic] ++ [c.mode.1] := rfl
  rw [mem_lockCells]
  constructor
  · rintro ⟨hmode, statistics, modes, hstatistics, hmodes, hx⟩
    rw [mem_fieldsAt (by decide) h.resources] at hstatistics
    rw [← fieldsAt_of_at? hstatistics, mem_fieldsAt (by simp) (h.statistics _)] at hmodes
    refine ⟨hmode, ?_⟩
    rw [hpath, Document.at?_append data (by simp), hmodes, ← hx, number?_fieldsOf]
    rfl
  · rintro ⟨hmode, hnumber⟩
    obtain ⟨v, hv, hx⟩ := Option.bind_eq_some_iff.1 hnumber
    rw [hpath, Document.at?_append data (by simp)] at hv
    obtain ⟨modes, hmodes, hv⟩ := Option.bind_eq_some_iff.1 hv
    have hmodes' := hmodes
    rw [Document.at?_append data (by simp)] at hmodes
    obtain ⟨statistics, hstatistics, -⟩ := Option.bind_eq_some_iff.1 hmodes
    refine ⟨hmode, statistics, modes, (mem_fieldsAt (by decide) h.resources).2 hstatistics, ?_, ?_⟩
    · rw [← fieldsAt_of_at? hstatistics]
      exact (mem_fieldsAt (by simp) (h.statistics _)).2 hmodes'
    · rw [number?_fieldsOf, hv]
      exact hx

/-! ## Order -/

/-- The places of the resource among the locks, of the statistic in the resource, and of the mode. -/
def LockCell.address (data : Document) (c : LockCell) : List Nat :=
  [(namesAt data locksPath).idxOf c.resource,
    (namesAt data (locksPath ++ [c.resource])).idxOf c.statistic, lockModes.idxOf c.mode]

theorem pairwise_idxOf {α : Type} [BEq α] [LawfulBEq α] {l : List α} (h : l.Nodup) :
    l.Pairwise fun a b => l.idxOf a < l.idxOf b := by
  rw [List.pairwise_iff_getElem]
  intro i j hi hj hij
  rwa [h.idxOf_getElem, h.idxOf_getElem]

theorem nodup_of_ascending {α : Type} {key : α → List Nat} {l : List α}
    (h : l.Pairwise fun a b => key a < key b) : l.Nodup := by
  refine h.imp fun {a b} hlt => ?_
  rintro rfl
  exact List.lt_irrefl _ hlt

/-- An ascending list is given by its members. -/
theorem eq_of_ascending {α : Type} {key : α → List Nat} {l m : List α}
    (hl : l.Pairwise fun a b => key a < key b) (hm : m.Pairwise fun a b => key a < key b)
    (h : ∀ a, a ∈ l ↔ a ∈ m) : l = m :=
  List.Perm.eq_of_pairwise (fun _ _ _ _ hab hba => absurd hba (List.lt_asymm hab)) hl hm
    ((List.perm_ext_iff_of_nodup (nodup_of_ascending hl) (nodup_of_ascending hm)).2 h)

theorem nodup_lockModes : lockModes.Nodup := by decide

/-- The counters come by resource, then by statistic, then by mode. -/
theorem lockCells_ascending {data : Document} (h : DistinctNames data) :
    (lockCells data).Pairwise fun a b => a.address data < b.address data := by
  refine List.pairwise_flatMap.2 ⟨fun ⟨resource, statistics⟩ hfield => ?_, ?_⟩
  · -- inside a resource; its names are those that the path leads to, since no other one has its name
    have hnames : namesAt data (locksPath ++ [resource]) = (fieldsOf statistics).map Prod.fst := by
      rw [namesAt, fieldsAt_of_at? ((mem_fieldsAt (by decide) h.resources).1 hfield)]
    have hstatistics := h.statistics resource
    rw [hnames] at hstatistics
    refine List.pairwise_flatMap.2 ⟨fun ⟨statistic, modes⟩ _ => ?_, ?_⟩
    · refine List.pairwise_filterMap.2 ((pairwise_idxOf nodup_lockModes).imp fun {m m'} hlt => ?_)
      intro a ha b hb
      obtain ⟨_, -, rfl⟩ := Option.map_eq_some_iff.1 ha
      obtain ⟨_, -, rfl⟩ := Option.map_eq_some_iff.1 hb
      refine List.cons_lt_cons_iff.2 (.inr ⟨rfl, List.cons_lt_cons_iff.2 (.inr ⟨rfl, ?_⟩)⟩)
      exact List.cons_lt_cons_iff.2 (.inl hlt)
    · refine (List.pairwise_map.1 (pairwise_idxOf hstatistics)).imp fun {f g} hlt => ?_
      intro a ha b hb
      obtain ⟨har, has, -⟩ := mem_modeCells.1 ha
      obtain ⟨hbr, hbs, -⟩ := mem_modeCells.1 hb
      rw [LockCell.address, LockCell.address, har, has, hbr, hbs, hnames]
      exact List.cons_lt_cons_iff.2 (.inr ⟨rfl, List.cons_lt_cons_iff.2 (.inl hlt)⟩)
  · refine (List.pairwise_map.1 (pairwise_idxOf h.resources)).imp fun {f g} hlt => ?_
    intro a ha b hb
    obtain ⟨har, -⟩ := mem_resourceCells.1 ha
    obtain ⟨hbr, -⟩ := mem_resourceCells.1 hb
    rw [LockCell.address, LockCell.address, har, hbr]
    exact List.cons_lt_cons_iff.2 (.inl hlt)

theorem nodup_lockCells {data : Document} (h : DistinctNames data) : (lockCells data).Nodup :=
  nodup_of_ascending (lockCells_ascending h)

/-! ## Identities -/

/-- The statistics of each lock have different names as metrics. -/
def DistinctMetrics (data : Document) : Prop :=
  ∀ resource, ((namesAt data (locksPath ++ [resource])).map Extraction.normalize).Nodup

namespace LockCell

variable {data : Document} {a b c : LockCell}

theorem RecordedIn.mem_namesAt (h : DistinctNames data) (hc : c.RecordedIn data) :
    c.statistic ∈ namesAt data (locksPath ++ [c.resource]) := by
  obtain ⟨-, statistics, modes, hstatistics, hmodes, -⟩ := mem_lockCells.1 ((mem_lockCells_iff h).2 hc)
  rw [mem_fieldsAt (by decide) h.resources] at hstatistics
  rw [namesAt, fieldsAt_of_at? hstatistics]
  exact List.mem_map_of_mem hmodes

/-- What is recorded at one place is one counter. -/
theorem RecordedIn.unique (ha : a.RecordedIn data) (hb : b.RecordedIn data)
    (hresource : a.resource = b.resource) (hstatistic : a.statistic = b.statistic)
    (hmode : a.mode = b.mode) : a = b := by
  obtain ⟨resource, statistic, mode, x⟩ := a
  obtain ⟨resource', statistic', mode', y⟩ := b
  cases hresource
  cases hstatistic
  cases hmode
  cases Option.some.inj (ha.number.symm.trans hb.number)
  rfl

theorem get?_resource (c : LockCell) : c.sample.labels.get? "resource" = some c.resource := by
  simp [sample, Sample.counter, Keyed.single, Keyed.get?_insert]

theorem get?_lock_mode (c : LockCell) : c.sample.labels.get? "lock_mode" = some c.mode.2 :=
  Keyed.get?_insert_self ..

theorem mode_eq_of_label (ha : a.mode ∈ lockModes) (hb : b.mode ∈ lockModes)
    (h : a.mode.2 = b.mode.2) : a.mode = b.mode := by
  have hlabels : ∀ m ∈ lockModes, ∀ m' ∈ lockModes, m.2 = m'.2 → m = m' := by decide
  exact hlabels _ ha _ hb h

/-- The name and the two labels tell which counter it is. -/
theorem eq_of_identity (h : DistinctNames data) (hm : DistinctMetrics data) (ha : a.RecordedIn data)
    (hb : b.RecordedIn data) (hname : a.sample.name = b.sample.name) (hresource : a.resource = b.resource)
    (hmode : a.mode.2 = b.mode.2) : a = b := by
  have hnormal : Extraction.normalize a.statistic = Extraction.normalize b.statistic := by
    have hlist : "mongodb_locks_".toList ++ (Extraction.normalize a.statistic).toList =
        "mongodb_locks_".toList ++ (Extraction.normalize b.statistic).toList := by
      rw [← String.toList_append, ← String.toList_append]
      exact congrArg String.toList hname
    exact String.toList_inj.1 (List.append_cancel_left hlist)
  have hstatistic : a.statistic = b.statistic := by
    refine List.inj_on_of_nodup_map (hm a.resource) (ha.mem_namesAt h) ?_ hnormal
    rw [hresource]
    exact hb.mem_namesAt h
  exact ha.unique hb hresource hstatistic (mode_eq_of_label ha.mode hb.mode hmode)

end LockCell

/-- Series with the names of the counters that have at least their labels are distinct. -/
theorem nodup_series_lockCells {data : Document} (h : DistinctNames data) (hm : DistinctMetrics data)
    {series : LockCell → Series} (hname : ∀ c, (series c).name = c.sample.name)
    (hlabels : ∀ c k v, c.sample.labels.get? k = some v → (series c).labels.get? k = some v) :
    ((lockCells data).map series).Nodup := by
  refine (nodup_lockCells h).map_on fun a ha b hb he => ?_
  rw [mem_lockCells_iff h] at ha hb
  refine LockCell.eq_of_identity h hm ha hb ?_ ?_ ?_
  · rw [← hname, ← hname, he]
  · refine Option.some.inj ((hlabels a _ _ a.get?_resource).symm.trans ?_)
    rw [he, hlabels b _ _ b.get?_resource]
  · refine Option.some.inj ((hlabels a _ _ a.get?_lock_mode).symm.trans ?_)
    rw [he, hlabels b _ _ b.get?_lock_mode]

/-! ## Beside the lock counters -/

/-- The global lock gives gauges of its sections, and a counter of its time. -/
theorem exists_of_mem_globalLockSamples {data : Document} {s : Sample} (h : s ∈ globalLockSamples data) :
    (∃ part ∈ globalLockSections, ∃ help x side,
      s = Sample.gauge part.2 help x (Keyed.single "type" side)) ∨
    ∃ help x, s = Sample.counter "mongodb_global_lock_total" help x {} := by
  unfold globalLockSamples at h
  split at h
  · rcases List.mem_append.1 h with h | h
    · obtain ⟨part, hpart, h⟩ := List.mem_flatMap.1 h
      obtain ⟨side, -, h⟩ := List.mem_filterMap.1 h
      obtain ⟨x, -, rfl⟩ := Option.map_eq_some_iff.1 h
      exact .inl ⟨part, hpart, _, x, _, rfl⟩
    · rw [Option.mem_toList, Option.map_eq_some_iff] at h
      obtain ⟨x, -, rfl⟩ := h
      exact .inr ⟨_, x, rfl⟩
  · cases h

theorem exists_of_evictedPages {data : Document} {s : Sample} (h : evictedPages data = some s) :
    ∃ help x, s = Sample.counter "mongodb_mongod_wiredtiger_cache_evicted_total" help x {} := by
  unfold evictedPages at h
  split at h
  · simp only [Option.bind_eq_bind, Option.bind_eq_some_iff] at h
    obtain ⟨modified, -, unmodified, -, he⟩ := h
    cases he
    exact ⟨_, _, rfl⟩
  · cases h

/-- The metrics that tell what the server is, with the labels that do so. -/
def identityMetrics : List (String × String) :=
  [("mongodb_version_info", "mongodb"), ("mongodb_mongod_storage_engine", "engine"),
    ("mongodb_mongod_replset_my_state", "set")]

theorem exists_of_mem_identitySamples {data : Document} {s : Sample} (h : s ∈ identitySamples data) :
    ∃ metric ∈ identityMetrics, ∃ help x v, s = Sample.gauge metric.1 help x (Keyed.single metric.2 v) := by
  unfold identitySamples at h
  rw [List.mem_append, List.mem_append, Option.mem_toList, Option.mem_toList, Option.mem_toList] at h
  rcases h with (h | h) | h
  · obtain ⟨version, -, rfl⟩ := Option.map_eq_some_iff.1 h
    exact ⟨("mongodb_version_info", "mongodb"), by decide, _, _, version, rfl⟩
  · obtain ⟨engine, -, rfl⟩ := Option.map_eq_some_iff.1 h
    exact ⟨("mongodb_mongod_storage_engine", "engine"), by decide, _, _, engine, rfl⟩
  · obtain ⟨state, -, rfl⟩ := Option.map_eq_some_iff.1 h
    exact ⟨("mongodb_mongod_replset_my_state", "set"), by decide, _, state, _, rfl⟩

/-! ## In a snapshot -/

/-- The metrics of lock counters. -/
def isLockMetric (name : String) : Bool := "mongodb_locks_".toList.isPrefixOf name.toList

theorem isLockMetric_sample (c : LockCell) : isLockMetric c.sample.name = true := by
  simp [isLockMetric, LockCell.sample, Sample.counter]

theorem isLockMetric_globalLock {data : Document} :
    ∀ s ∈ globalLockSamples data, isLockMetric s.name = false := by
  have hsections : ∀ part ∈ globalLockSections, isLockMetric part.2 = false := by decide
  intro s hs
  obtain ⟨part, hpart, help, x, side, rfl⟩ | ⟨help, x, rfl⟩ := exists_of_mem_globalLockSamples hs
  · exact hsections part hpart
  · exact (by decide : isLockMetric "mongodb_global_lock_total" = false)

theorem isLockMetric_evictedPages {data : Document} {s : Sample} (h : evictedPages data = some s) :
    isLockMetric s.name = false := by
  obtain ⟨help, x, rfl⟩ := exists_of_evictedPages h
  exact (by decide : isLockMetric "mongodb_mongod_wiredtiger_cache_evicted_total" = false)

theorem isLockMetric_identity {data : Document} :
    ∀ s ∈ identitySamples data, isLockMetric s.name = false := by
  have hmetrics : ∀ metric ∈ identityMetrics, isLockMetric metric.1 = false := by decide
  intro s hs
  obtain ⟨metric, hmetric, help, x, v, rfl⟩ := exists_of_mem_identitySamples hs
  exact hmetrics metric hmetric

/-- The diagnostic data gives the lock counters, and then only samples of other metrics. -/
theorem exists_diagnosticAugment (naming : Extraction.Naming) (data : Document) : ∃ others,
    Source.diagnosticAugment naming data = lockSamples data ++ others ∧
      ∀ s ∈ others, isLockMetric s.name = false := by
  refine ⟨_, List.append_assoc .., fun s hs => ?_⟩
  rcases List.mem_append.1 hs with hs | hs
  · exact isLockMetric_globalLock s hs
  · cases naming with
    | full => cases hs
    | legacy =>
      rcases List.mem_append.1 hs with hs | hs
      · exact isLockMetric_evictedPages (Option.mem_toList.1 hs)
      · exact isLockMetric_identity s hs

/-- Where the counters have different identities, all of them are in the snapshot. -/
theorem mem_snapshotOf_of_mem_lockSamples {data : Document} (h : DistinctNames data)
    (hm : DistinctMetrics data) (client : Client) (deployment : Deployment) (naming : Extraction.Naming)
    (base : Labels) (samples : List Sample) (elapsed : Duration) {s : Sample} (hs : s ∈ lockSamples data) :
    Scrape.withBase base s ∈ Scrape.snapshotOf (Source.diagnosticData client deployment naming) base naming
      ⟨[⟨"", data, {}⟩], samples⟩ elapsed := by
  obtain ⟨others, haugment, hothers⟩ := exists_diagnosticAugment naming data
  have hready : (Source.diagnosticData client deployment naming).augment [⟨"", data, {}⟩] =
      lockSamples data ++ others := by
    rw [← haugment]
    exact List.append_nil _
  have hseries : (((lockSamples data).map (Scrape.withBase base)).map Sample.series).Nodup := by
    rw [lockSamples_eq, List.map_map, List.map_map]
    refine nodup_series_lockCells h hm (fun c => rfl) fun c k v hv => ?_
    show (c.sample.labels.fill base).get? k = some v
    rw [Keyed.get?_fill, hv, Option.some_or]
  have hafter : ∀ x ∈ others.map (Scrape.withBase base) ++
      [Scrape.timingSample "diagnosticdata" elapsed], isLockMetric x.name = false := by
    intro x hx
    rcases List.mem_append.1 hx with hx | hx
    · obtain ⟨y, hy, rfl⟩ := List.mem_map.1 hx
      exact hothers y hy
    · rw [List.mem_singleton.1 hx]
      exact (by decide : isLockMetric "mongodb_collector_scrape_time_ms" = false)
  have hlocks : ∀ x ∈ (lockSamples data).map (Scrape.withBase base), isLockMetric x.name = true := by
    rw [lockSamples_eq, List.map_map]
    intro x hx
    obtain ⟨c, -, rfl⟩ := List.mem_map.1 hx
    exact isLockMetric_sample c
  -- the counters have their series for themselves, against what comes behind them
  have hapart : ∀ x ∈ others.map (Scrape.withBase base) ++
      [Scrape.timingSample "diagnosticdata" elapsed],
      ∀ y ∈ (lockSamples data).map (Scrape.withBase base), x.series ≠ y.series := by
    intro x hx y hy he
    have hname := hafter x hx
    rw [show x.name = y.name from congrArg Series.name he, hlocks y hy] at hname
    cases hname
  have hmem := Sample.mem_latest_append
    ([⟨"", data, {}⟩].flatMap (Scrape.documentSamples naming base) ++ samples.map (Scrape.withBase base))
    hseries hapart (List.mem_map_of_mem hs)
  unfold Scrape.snapshotOf
  rw [hready]
  simp only [List.map_append, List.append_assoc] at hmem ⊢
  exact hmem

/-! ## Values of other kinds -/

/-- The document with another value where the path leads, if it leads anywhere. -/
def replaceAt (data : Document) (path : List String) (new : Value) : Document :=
  fieldsOf (Value.replace new path (.document data))

/-- A value of a kind that is not looked for at the end of the path: no document on the way to the modes,
or no number for a mode. -/
def Misplaced (path : List String) (new : Value) : Prop :=
  path.length < 5 ∧ (∀ fields, new ≠ .document fields) ∨ path.length = 5 ∧ new.number? = none

variable {data : Document} {path path' : List String} {new : Value} {c : LockCell}

theorem at?_fieldsOf (v : Value) (h : path ≠ []) : Document.at? (fieldsOf v) path = v.follow? path := by
  rw [Document.at?_eq_follow? _ h]
  rcases v.document_or with ⟨fields, rfl⟩ | hv
  · rfl
  · cases path with
    | nil => exact absurd rfl h
    | cons key rest =>
      rw [Value.follow?_cons hv, fieldsOf_eq_nil hv]
      rfl

theorem at?_replaceAt (h : path' ≠ []) : Document.at? (replaceAt data path new) path' =
    (Value.replace new path (.document data)).follow? path' := at?_fieldsOf _ h

/-- The names of fields stay, unless they are those of the new value or of a part of it. -/
theorem namesAt_replaceAt (hpath : path' ≠ []) (h : ¬ path <+: path') :
    namesAt (replaceAt data path new) path' = namesAt data path' := by
  unfold namesAt fieldsAt
  rw [at?_replaceAt hpath, Document.at?_eq_follow? data hpath]
  by_cases h' : path' <+: path
  · obtain ⟨rest, rfl⟩ := h'
    rw [Value.follow?_replace_above]
    cases (Value.document data).follow? path' with
    | none => rfl
    | some v =>
      cases rest with
      | nil => exact absurd ⟨[], by simp⟩ h
      | cons key rest =>
        rcases v.document_or with ⟨fields, rfl⟩ | hv
        · simp [Value.replace, fieldsOf, Function.comp_def]
        · rw [Option.map_some, Value.replace_cons hv]
  · rw [Value.follow?_replace _ _ h h']

/-- Where the new value is no document, no fields are found. -/
theorem namesAt_replaceAt_below (hpath : path' ≠ []) (h : path <+: path')
    (hnew : ∀ fields, new ≠ .document fields) : namesAt (replaceAt data path new) path' = [] := by
  obtain ⟨rest, rfl⟩ := h
  unfold namesAt fieldsAt
  rw [at?_replaceAt hpath, Value.follow?_replace_append]
  cases (Value.document data).follow? path with
  | none => rfl
  | some v =>
    rw [Option.bind_some]
    cases rest with
    | nil =>
      rw [Value.follow?, Option.map_some, fieldsOf_eq_nil hnew]
      rfl
    | cons key rest =>
      rw [Value.follow?_cons hnew]
      rfl

theorem distinctNames_replaceAt (h : DistinctNames data) (hnew : Misplaced path new) :
    DistinctNames (replaceAt data path new) := by
  have hnames : ∀ path', path' ≠ [] → path'.length < 5 → (namesAt data path').Nodup →
      (namesAt (replaceAt data path new) path').Nodup := by
    intro path' hpath hlength hnodup
    by_cases hbelow : path <+: path'
    · have hshort := hbelow.length_le
      obtain ⟨-, hdocument⟩ | ⟨hlength', -⟩ := hnew
      · rw [namesAt_replaceAt_below hpath hbelow hdocument]
        exact List.nodup_nil
      · omega
    · rwa [namesAt_replaceAt hpath hbelow]
  exact ⟨hnames _ (by decide) (by decide) h.resources,
    fun resource => hnames _ (by simp) (by simp [locksPath]) (h.statistics resource)⟩

/-- A misplaced value removes what is recorded at its path and on from there, and nothing else. -/
theorem recordedIn_replaceAt (hnew : Misplaced path new) :
    c.RecordedIn (replaceAt data path new) ↔ c.RecordedIn data ∧ ¬ path <+: c.path := by
  have hc : c.path ≠ [] := by simp [LockCell.path]
  by_cases hbelow : path <+: c.path
  · refine iff_of_false (fun hrecorded => ?_) fun h => h.2 hbelow
    obtain ⟨rest, hrest⟩ := hbelow
    have hlength : path.length + rest.length = 5 := by rw [← List.length_append, hrest]; rfl
    have hnumber := hrecorded.number
    rw [at?_replaceAt hc, ← hrest, Value.follow?_replace_append] at hnumber
    obtain ⟨v, hv, hx⟩ := Option.bind_eq_some_iff.1 hnumber
    obtain ⟨_, -, hv⟩ := Option.bind_eq_some_iff.1 hv
    obtain ⟨hshort, hdocument⟩ | ⟨hlast, hnone⟩ := hnew
    · -- the path of the counter goes on behind the new value, but there are no fields
      cases rest with
      | nil => exact absurd hlength (Nat.ne_of_lt hshort)
      | cons key rest =>
        rw [Value.follow?_cons hdocument] at hv
        cases hv
    · -- the new value is in the place of the number itself
      obtain rfl : rest = [] := List.eq_nil_of_length_eq_zero (by omega)
      cases hv
      rw [hnone] at hx
      cases hx
  · -- the replaced path is no longer than that of a counter, so the two part
    have hother : ¬ c.path <+: path := fun h => by
      have hlength : c.path.length = path.length :=
        Nat.le_antisymm h.length_le (hnew.elim (fun h => Nat.le_of_lt h.1) fun h => Nat.le_of_eq h.1)
      exact hbelow (h.eq_of_length hlength ▸ List.prefix_rfl)
    have hat : Document.at? (replaceAt data path new) c.path = Document.at? data c.path := by
      rw [at?_replaceAt hc, Document.at?_eq_follow? data hc, Value.follow?_replace _ _ hbelow hother]
    constructor
    · exact fun h => ⟨⟨h.mode, hat ▸ h.number⟩, hbelow⟩
    · exact fun h => ⟨h.1.mode, by rw [hat]; exact h.1.number⟩

theorem address_replaceAt (h : ¬ path <+: c.path) :
    c.address (replaceAt data path new) = c.address data := by
  have hnames : ∀ path', path' ≠ [] → path' <+: c.path →
      namesAt (replaceAt data path new) path' = namesAt data path' := fun path' hpath hbelow =>
    namesAt_replaceAt hpath fun h' => h (h'.trans hbelow)
  unfold LockCell.address
  rw [hnames _ (by decide) (List.prefix_append ..), hnames _ (by simp) ⟨[c.statistic, c.mode.1], rfl⟩]

/-- The counters stay as they are, in their order, but for those of the misplaced value. -/
theorem lockCells_replaceAt (h : DistinctNames data) (hnew : Misplaced path new) :
    lockCells (replaceAt data path new) = (lockCells data).filter fun c => ¬ path <+: c.path := by
  have h' := distinctNames_replaceAt h hnew
  have hmem : ∀ c, c ∈ lockCells (replaceAt data path new) ↔
      c ∈ (lockCells data).filter fun c => ¬ path <+: c.path := fun c => by
    rw [List.mem_filter, mem_lockCells_iff h', mem_lockCells_iff h, recordedIn_replaceAt hnew]
    simp
  -- the places of what is left are the same as before, so it ascends in the old order as well
  have hascending : (lockCells (replaceAt data path new)).Pairwise fun a b =>
      a.address data < b.address data := by
    refine (lockCells_ascending h').imp_of_mem fun {a b} ha hb hlt => ?_
    rw [mem_lockCells_iff h', recordedIn_replaceAt hnew] at ha hb
    rwa [address_replaceAt ha.2, address_replaceAt hb.2] at hlt
  exact eq_of_ascending hascending ((lockCells_ascending h).filter _) hmem

/-! ## The whole -/

/-- The lock counters of a document whose fields have different names. There is one for each number that is
recorded for a mode of a statistic of a resource, with this number, and no other one; they come in the order
of the document, and for a statistic in that of the modes. Where the statistics of each resource have
different names as metrics, all counters have different series, and none is lost in a snapshot of the
diagnostic data. A value of another kind, at the end of a path, takes the counters below the path away and
leaves the others as they are. -/
theorem locks_regroup_without_loss (h : DistinctNames data) : ∃ cells : List LockCell,
    lockSamples data = cells.map LockCell.sample ∧ (∀ c, c ∈ cells ↔ c.RecordedIn data) ∧ cells.Nodup ∧
      (cells.Pairwise fun a b => a.address data < b.address data) ∧
      (DistinctMetrics data → ((lockSamples data).map Sample.series).Nodup ∧
        ∀ client deployment naming base samples elapsed, ∀ s ∈ lockSamples data,
          Scrape.withBase base s ∈ Scrape.snapshotOf (Source.diagnosticData client deployment naming) base
            naming ⟨[⟨"", data, {}⟩], samples⟩ elapsed) ∧
      ∀ path new, Misplaced path new → lockSamples (replaceAt data path new) =
        (cells.filter fun c => ¬ path <+: c.path).map LockCell.sample := by
  refine ⟨lockCells data, lockSamples_eq data, fun c => mem_lockCells_iff h, nodup_lockCells h,
    lockCells_ascending h, fun hm => ⟨?_, ?_⟩, fun path new hnew => ?_⟩
  · rw [lockSamples_eq, List.map_map]
    exact nodup_series_lockCells h hm (fun c => rfl) fun c k v hv => hv
  · intro client deployment naming base samples elapsed s hs
    exact mem_snapshotOf_of_mem_lockSamples h hm client deployment naming base samples elapsed hs
  · rw [lockSamples_eq, lockCells_replaceAt h hnew]

/-- Two locks with a statistic of one name, and values of other kinds beside them. -/
def lockedData : Document :=
  [("serverStatus", .document [("locks", .document [
    ("Global", .document [
      ("acquireCount", .document [("W", .int32 2), ("r", .int64 10), ("w", .string "many")]),
      ("deadlockCount", .null)]),
    ("Database", .document [("acquireCount", .document [("r", .double 1)])]),
    ("Mutex", .int32 7)])])]

/-- Its three counters have different series, and without the first lock one is left. -/
theorem lockedData_regroups : DistinctNames lockedData ∧ DistinctMetrics lockedData ∧
    Misplaced ["serverStatus", "locks", "Global"] .null ∧ ∃ cells : List LockCell,
      lockSamples lockedData = cells.map LockCell.sample ∧ cells.length = 3 ∧
      ((lockSamples lockedData).map Sample.series).Nodup ∧
      lockSamples (replaceAt lockedData ["serverStatus", "locks", "Global"] .null) =
        (cells.filter fun c => ¬ ["serverStatus", "locks", "Global"] <+: c.path).map LockCell.sample ∧
      (lockSamples (replaceAt lockedData ["serverStatus", "locks", "Global"] .null)).length = 1 := by
  have hnames : DistinctNames lockedData :=
    ⟨by decide, namesAt_of_forall List.nodup_nil (by decide)⟩
  have hmetrics : DistinctMetrics lockedData :=
    namesAt_of_forall (P := fun names => (names.map Extraction.normalize).Nodup) List.nodup_nil (by decide)
  have hmisplaced : Misplaced ["serverStatus", "locks", "Global"] .null :=
    .inl ⟨by decide, fun fields h => by cases h⟩
  obtain ⟨cells, hsamples, -, -, -, hseries, hreplace⟩ := locks_regroup_without_loss hnames
  have hlength : cells.length = 3 := by
    have h : (lockSamples lockedData).length = 3 := rfl
    rwa [hsamples, List.length_map] at h
  exact ⟨hnames, hmetrics, hmisplaced, cells, hsamples, hlength, (hseries hmetrics).1,
    hreplace _ _ hmisplaced, rfl⟩

end MongoMetrics.Diagnostics
