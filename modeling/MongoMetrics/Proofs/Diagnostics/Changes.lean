/-
What the samples of the log of changes tell. There is one sample for each event, and its value is the
count of the last row that counts under the event. As the log is grouped by event and note, several
rows can count under one event; then the earlier ones are lost. Main statement:
`changes_conserved_iff_apart`, by which the counts of an event are added up exactly when no event has
two rows.
-/
import MongoMetrics.Diagnostics.Router
import MongoMetrics.Proofs.Sample.Latest
import Mathlib.Algebra.BigOperators.Group.List.Basic
import Mathlib.Algebra.Order.BigOperators.Group.List
import Mathlib.Algebra.Order.Group.Int
import Mathlib.Algebra.Ring.Int.Defs

namespace MongoMetrics.Diagnostics

/-! ## Rows and their events -/

/-- The events whose notes tell whether a chunk was moved. -/
def moves : List String := ["moveChunk.to", "moveChunk.from"]

/-- A move whose note tells of anything but success. -/
def FailedMove (id : Document) (event : String) : Prop :=
  event ∈ moves ∧ ∃ note, Document.get? id "note" = some (.string note) ∧ note ≠ "" ∧ note ≠ "success"

/-- The row counts under the event: its own one, or the failure of its own one. -/
inductive CountsUnder (row : Document) : String → Prop
  | failed {id : Document} {event : String} :
      Document.get? row "_id" = some (.document id) → Document.get? id "event" = some (.string event) →
      FailedMove id event → CountsUnder row (event ++ "_failed")
  | own {id : Document} {event : String} :
      Document.get? row "_id" = some (.document id) → Document.get? id "event" = some (.string event) →
      ¬ FailedMove id event → CountsUnder row event

/-- The event under which a row counts. -/
def eventOf? (row : Document) : Option String := (changeRow? row).map Prod.fst

theorem changeRow?_eq_some {row : Document} {r : String × Float} : changeRow? row = some r ↔
    ∃ id event, Document.get? row "_id" = some (.document id) ∧
      Document.get? id "event" = some (.string event) ∧
      r = (changeEvent event ((Document.string? id "note").getD ""),
        (Document.number? row "count").getD 0) := by
  unfold changeRow?
  simp only [Option.bind_eq_bind, Option.bind_eq_some_iff, Document.document?_eq_some,
    Document.string?_eq_some, Option.pure_def, Option.some.injEq, exists_and_left, eq_comm (b := r)]

theorem failedMove_iff {id : Document} {event : String} : FailedMove id event ↔
    event ∈ moves ∧ (Document.string? id "note").getD "" ≠ "" ∧
      (Document.string? id "note").getD "" ≠ "success" := by
  unfold FailedMove
  refine and_congr_right fun _ => ?_
  simp only [← Document.string?_eq_some]
  cases Document.string? id "note" <;> simp

theorem changeEvent_of_failedMove {id : Document} {event : String} (h : FailedMove id event) :
    changeEvent event ((Document.string? id "note").getD "") = event ++ "_failed" := by
  rw [failedMove_iff] at h
  unfold changeEvent
  rw [if_pos]
  simpa [moves, and_assoc] using h

theorem changeEvent_of_not_failedMove {id : Document} {event : String} (h : ¬ FailedMove id event) :
    changeEvent event ((Document.string? id "note").getD "") = event := by
  rw [failedMove_iff] at h
  unfold changeEvent
  rw [if_neg]
  simpa [moves, and_assoc] using h

/-- Rows count as the rule says, each under one event at most. -/
theorem eventOf?_eq_some {row : Document} {event : String} :
    eventOf? row = some event ↔ CountsUnder row event := by
  unfold eventOf?
  simp only [Option.map_eq_some_iff, changeRow?_eq_some]
  constructor
  · rintro ⟨r, ⟨id, recorded, hid, hrecorded, rfl⟩, rfl⟩
    by_cases hfailed : FailedMove id recorded
    · rw [changeEvent_of_failedMove hfailed]
      exact .failed hid hrecorded hfailed
    · rw [changeEvent_of_not_failedMove hfailed]
      exact .own hid hrecorded hfailed
  · rintro (⟨hid, hevent, hfailed⟩ | ⟨hid, hevent, hfailed⟩)
    · exact ⟨_, ⟨_, _, hid, hevent, rfl⟩, changeEvent_of_failedMove hfailed⟩
    · exact ⟨_, ⟨_, _, hid, hevent, rfl⟩, changeEvent_of_not_failedMove hfailed⟩

instance (row : Document) (event : String) : Decidable (CountsUnder row event) :=
  decidable_of_iff _ eventOf?_eq_some

/-- The rows that count under an event. -/
def rowsUnder (rows : List Document) (event : String) : List Document :=
  rows.filter fun row => CountsUnder row event

/-- The number that a row gives its event. -/
def countOf (row : Document) : Float := (Document.number? row "count").getD 0

theorem changeRow?_eq (row : Document) :
    changeRow? row = (eventOf? row).map fun event => (event, countOf row) := by
  refine Option.ext fun r => ?_
  unfold eventOf?
  simp only [Option.map_map, Option.map_eq_some_iff, Function.comp_apply]
  constructor
  · intro h
    obtain ⟨id, event, -, -, rfl⟩ := changeRow?_eq_some.1 h
    exact ⟨_, h, rfl⟩
  · rintro ⟨r', h, rfl⟩
    obtain ⟨id, event, -, -, rfl⟩ := changeRow?_eq_some.1 h
    exact h

/-! ## The loop over the rows -/

/-- All events with a sample: the well-known ones, and those of the rows as they come. -/
def changeEvents (rows : List Document) : List String :=
  (knownChanges ++ rows.filterMap eventOf?).eraseDups

/-- The number that the last row of an event gives it. -/
def lastNumber (rows : List Document) (event : String) : Float :=
  ((rowsUnder rows event).getLast?.map countOf).getD 0

/-- Setting the count of one event among distinct ones. -/
theorem setCount_map (event : String) (x : Float) (f : String → Float) {events : List String}
    (h : events.Nodup) : setCount event x (events.map fun e => (e, f e)) =
      (if event ∈ events then events else events ++ [event]).map fun e =>
        (e, if e = event then x else f e) := by
  induction events with
  | nil => simp [setCount]
  | cons known rest ih =>
    rw [List.nodup_cons] at h
    rw [List.map_cons, setCount]
    by_cases he : known = event
    · subst he
      -- the other events are left as they are
      have hrest : ∀ e ∈ rest, (e, f e) = (e, if e = known then x else f e) := fun e hm => by
        rw [if_neg fun heq : e = known => h.1 (heq ▸ hm)]
      rw [if_pos rfl, if_pos (List.mem_cons_self ..), List.map_cons, if_pos rfl,
        List.map_congr_left hrest]
    · rw [if_neg he, ih h.2]
      by_cases hm : event ∈ rest
      · simp [hm, he]
      · simp [hm, he, Ne.symm he]

theorem nodup_changeEvents (rows : List Document) : (changeEvents rows).Nodup :=
  Sample.nodup_eraseDups _

theorem changeEvents_append_singleton (rows : List Document) (row : Document) :
    changeEvents (rows ++ [row]) = match eventOf? row with
      | some event =>
        if event ∈ changeEvents rows then changeEvents rows else changeEvents rows ++ [event]
      | none => changeEvents rows := by
  unfold changeEvents
  rw [List.filterMap_append]
  cases h : eventOf? row with
  | none => simp [h]
  | some event =>
    rw [List.filterMap_cons_some h, List.filterMap_nil, ← List.append_assoc,
      Sample.eraseDups_append_singleton]
    simp only [List.mem_eraseDups]

theorem lastNumber_append_singleton (rows : List Document) (row : Document) (event : String) :
    lastNumber (rows ++ [row]) event =
      if eventOf? row = some event then countOf row else lastNumber rows event := by
  unfold lastNumber rowsUnder
  rw [List.filter_append]
  by_cases h : CountsUnder row event
  · simp [h, eventOf?_eq_some]
  · simp [h, eventOf?_eq_some]

/-- After all rows, each event has the count of its last row. The induction is on the rows from the
last one on, as each of them sets the count of its event. -/
theorem changeCounts_eq (rows : List Document) :
    changeCounts rows = (changeEvents rows).map fun event => (event, lastNumber rows event) := by
  induction rows using List.reverseRecOn with
  | nil => decide
  | append_singleton rows row ih =>
    have hstep : changeCounts (rows ++ [row]) = match eventOf? row with
        | some event => setCount event (countOf row) (changeCounts rows)
        | none => changeCounts rows := by
      unfold changeCounts
      rw [List.filterMap_append, List.foldl_append]
      cases h : eventOf? row <;> simp [changeRow?_eq, h]
    rw [hstep, ih, changeEvents_append_singleton]
    simp only [lastNumber_append_singleton]
    cases h : eventOf? row with
    | none => simp
    | some event =>
      have hset := setCount_map event (countOf row) (lastNumber rows) (nodup_changeEvents rows)
      simp only [hset, Option.some.injEq, eq_comm (a := event)]

/-! ## Whole counts -/

/-- The whole number that a row gives its event. -/
def wholeCount? (row : Document) : Option Int :=
  match Document.get? row "count" with
  | some (.int32 n) => some n.toInt
  | some (.int64 n) => some n.toInt
  | _ => none

def wholeCount (row : Document) : Int := (wholeCount? row).getD 0

/-- All rows have whole counts. -/
def Whole (rows : List Document) : Prop := ∀ row ∈ rows, (wholeCount? row).isSome = true

instance (rows : List Document) : Decidable (Whole rows) :=
  inferInstanceAs (Decidable (∀ row ∈ rows, _))

/-- The count of the last row of an event. -/
def lastCount (rows : List Document) (event : String) : Int :=
  ((rowsUnder rows event).getLast?.map wholeCount).getD 0

/-- The counts of an event together. -/
def total (rows : List Document) (event : String) : Int := ((rowsUnder rows event).map wholeCount).sum

/-- The counts of all rows that count under an event. -/
def grandTotal (rows : List Document) : Int :=
  ((rows.filter fun row => (eventOf? row).isSome).map wholeCount).sum

/-- No two rows count under one event. -/
def Apart (rows : List Document) : Prop := ∀ event, (rowsUnder rows event).length ≤ 1

theorem apart_iff_nodup {rows : List Document} : Apart rows ↔ (rows.filterMap eventOf?).Nodup := by
  rw [List.nodup_iff_count_le_one]
  refine forall_congr' fun event => ?_
  rw [List.count_filterMap, rowsUnder, ← List.countP_eq_length_filter]
  simp only [← eventOf?_eq_some, beq_eq_decide]

instance (rows : List Document) : Decidable (Apart rows) :=
  decidable_of_iff _ apart_iff_nodup.symm

theorem countOf_of_whole {row : Document} (h : (wholeCount? row).isSome = true) :
    countOf row = Float.ofInt (wholeCount row) := by
  unfold wholeCount? at h
  unfold countOf wholeCount wholeCount? Document.number?
  split at h
  · rename_i n hn
    rw [hn]
    rfl
  · rename_i n hn
    rw [hn]
    rfl
  · cases h

theorem lastNumber_of_whole {rows : List Document} (h : Whole rows) (event : String) :
    lastNumber rows event = Float.ofInt (lastCount rows event) := by
  unfold lastNumber lastCount
  cases hlast : (rowsUnder rows event).getLast? with
  | none => decide
  | some row =>
    have hmem : row ∈ rows := (List.mem_filter.1 (List.mem_of_getLast? hlast)).1
    exact countOf_of_whole (h row hmem)

/-- A single row gives its event all that the event counts. -/
theorem lastCount_eq_total {rows : List Document} {event : String}
    (h : (rowsUnder rows event).length ≤ 1) : lastCount rows event = total rows event := by
  unfold lastCount total
  match rowsUnder rows event, h with
  | [], _ => rfl
  | [row], _ => simp

/-- Of several rows, all with something to count, the last one gives less than they give together. -/
theorem lastCount_lt_total {rows : List Document} (hpos : ∀ row ∈ rows, 0 < wholeCount row)
    {event : String} (h : 1 < (rowsUnder rows event).length) : lastCount rows event < total rows event := by
  have hpos' : ∀ row ∈ rowsUnder rows event, 0 < wholeCount row := fun row hrow =>
    hpos row (List.mem_filter.1 hrow).1
  unfold lastCount total
  generalize rowsUnder rows event = l at h hpos'
  induction l using List.reverseRecOn with
  | nil => simp at h
  | append_singleton earlier row _ =>
    have hearlier : earlier.map wholeCount ≠ [] := by
      rintro he
      rw [List.map_eq_nil_iff.1 he] at h
      simp at h
    have hsum : 0 < (earlier.map wholeCount).sum := by
      refine List.sum_pos _ (fun n hn => ?_) hearlier
      obtain ⟨r, hr, rfl⟩ := List.mem_map.1 hn
      exact hpos' r (List.mem_append_left _ hr)
    simp [hsum]

theorem total_cons (row : Document) (rows : List Document) (event : String) :
    total (row :: rows) event = (if eventOf? row = some event then wholeCount row else 0) + total rows event := by
  unfold total rowsUnder
  by_cases h : CountsUnder row event
  · simp [h, eventOf?_eq_some]
  · simp [h, eventOf?_eq_some]

/-- The counts by event are all counts. -/
theorem sum_total {rows : List Document} {events : List String} (hnodup : events.Nodup)
    (h : ∀ row ∈ rows, ∀ event, eventOf? row = some event → event ∈ events) :
    (events.map (total rows)).sum = grandTotal rows := by
  induction rows with
  | nil =>
    show (events.map fun _ => (0 : Int)).sum = 0
    simp
  | cons row rows ih =>
    rw [List.forall_mem_cons] at h
    have hrest := ih h.2
    have hsum : (events.map (total (row :: rows))).sum =
        (events.map fun event => if eventOf? row = some event then wholeCount row else 0).sum +
          (events.map (total rows)).sum := by
      rw [← List.sum_map_add]
      exact congrArg List.sum (List.map_congr_left fun event _ => total_cons row rows event)
    rw [hsum, hrest]
    unfold grandTotal
    cases hevent : eventOf? row with
    | none => simp [hevent]
    | some event =>
      -- the row gives its count to one of the events
      have hone : (events.map fun e => if some event = some e then wholeCount row else 0).sum =
          wholeCount row := by
        have hmem : event ∈ events := h.1 event hevent
        simp only [Option.some.injEq, eq_comm (a := event)]
        rw [List.sum_map_ite_eq, List.count_eq_one_of_mem hnodup hmem]
        simp
      rw [hone]
      simp [hevent]

theorem mem_changeEvents {rows : List Document} {event : String} :
    event ∈ changeEvents rows ↔ event ∈ knownChanges ∨ ∃ row ∈ rows, CountsUnder row event := by
  unfold changeEvents
  rw [List.mem_eraseDups, List.mem_append, List.mem_filterMap]
  simp only [eventOf?_eq_some]

theorem lastCount_of_perm {rows rows' : List Document} (hperm : rows'.Perm rows) (h : Apart rows)
    (event : String) : lastCount rows' event = lastCount rows event := by
  have hunder : (rowsUnder rows' event).Perm (rowsUnder rows event) := hperm.filter _
  have h' : (rowsUnder rows' event).length ≤ 1 := hunder.length_eq ▸ h event
  rw [lastCount_eq_total h', lastCount_eq_total (h event)]
  exact (hunder.map wholeCount).sum_eq

/-- The samples together tell of all counts when no event has two rows, and of less otherwise. -/
theorem sum_lastCount_iff {rows : List Document} (hpos : ∀ row ∈ rows, 0 < wholeCount row)
    {events : List String} (hnodup : events.Nodup)
    (hevents : ∀ row ∈ rows, ∀ event, CountsUnder row event → event ∈ events) :
    (events.map (lastCount rows)).sum = grandTotal rows ↔ Apart rows := by
  have htotal : (events.map (total rows)).sum = grandTotal rows :=
    sum_total hnodup fun row hrow event h => hevents row hrow event (eventOf?_eq_some.1 h)
  rw [← htotal]
  constructor
  · intro hsum event
    by_contra hlong
    have hlt := lastCount_lt_total hpos (Nat.lt_of_not_le hlong)
    have hmem : event ∈ events := by
      obtain ⟨row, hrow⟩ := List.exists_mem_of_length_pos (Nat.zero_lt_of_lt (Nat.lt_of_not_le hlong))
      obtain ⟨hrow, hunder⟩ := List.mem_filter.1 hrow
      exact hevents row hrow event (of_decide_eq_true hunder)
    have hle : ∀ e ∈ events, lastCount rows e ≤ total rows e := fun e _ =>
      if h : (rowsUnder rows e).length ≤ 1 then le_of_eq (lastCount_eq_total h)
      else le_of_lt (lastCount_lt_total hpos (Nat.lt_of_not_le h))
    exact absurd hsum (ne_of_lt (List.sum_lt_sum _ _ hle ⟨event, hmem, hlt⟩))
  · intro h
    exact congrArg List.sum (List.map_congr_left fun e _ => lastCount_eq_total (h e))

/-- What the samples of a log with whole counts tell. There is one for each event, of the well-known
events and of those that rows count under, and its value is the count of the last row of the event, or
zero when it has none. If no event has two rows, this is what the event counts altogether; then the
samples together tell of all counts, and the order of the rows does not matter. If an event has two
rows and all counts are positive, then its sample tells of less than the event counts, and so do all
samples together. -/
theorem changes_conserved_iff_apart (rows : List Document) (h : Whole rows) :
    ∃ events : List String, events.Nodup ∧
      (∀ event, event ∈ events ↔ event ∈ knownChanges ∨ ∃ row ∈ rows, CountsUnder row event) ∧
      changeSamples rows =
        events.map (fun event => changeSample event (Float.ofInt (lastCount rows event))) ∧
      (Apart rows → (∀ event, lastCount rows event = total rows event) ∧
        (events.map (lastCount rows)).sum = grandTotal rows ∧
        ∀ rows', rows'.Perm rows → ∀ event, lastCount rows' event = lastCount rows event) ∧
      ((∀ row ∈ rows, 0 < wholeCount row) →
        ((∀ event, lastCount rows event = total rows event) ↔ Apart rows) ∧
        ((events.map (lastCount rows)).sum = grandTotal rows ↔ Apart rows)) := by
  have hevents : ∀ row ∈ rows, ∀ event, CountsUnder row event → event ∈ changeEvents rows :=
    fun row hrow event hunder => mem_changeEvents.2 (.inr ⟨row, hrow, hunder⟩)
  refine ⟨changeEvents rows, nodup_changeEvents rows, fun _ => mem_changeEvents, ?_, ?_, ?_⟩
  · unfold changeSamples
    rw [changeCounts_eq, List.map_map]
    exact List.map_congr_left fun event _ => congrArg (changeSample event) (lastNumber_of_whole h event)
  · intro hapart
    have heach : ∀ event, lastCount rows event = total rows event := fun event =>
      lastCount_eq_total (hapart event)
    refine ⟨heach, ?_, fun rows' hperm event => lastCount_of_perm hperm hapart event⟩
    rw [List.map_congr_left fun event _ => heach event]
    exact sum_total (nodup_changeEvents rows) fun row hrow event hevent =>
      hevents row hrow event (eventOf?_eq_some.1 hevent)
  · intro hpos
    refine ⟨⟨fun heach event => ?_, fun hapart event => lastCount_eq_total (hapart event)⟩,
      sum_lastCount_iff hpos (nodup_changeEvents rows) hevents⟩
    by_contra hlong
    exact absurd (heach event) (ne_of_lt (lastCount_lt_total hpos (Nat.lt_of_not_le hlong)))

/-- Splits, a move that failed and one that succeeded, each in one row. -/
def quietRows : List Document :=
  [[("_id", .document [("event", .string "split")]), ("count", .int64 4)],
   [("_id", .document [("event", .string "moveChunk.to"), ("note", .string "aborted")]),
      ("count", .int32 2)],
   [("_id", .document [("event", .string "moveChunk.to"), ("note", .string "success")]),
      ("count", .int32 1)]]

/-- Where each event has one row, its sample tells of all that it counts. There are samples for the twelve
well-known events, and the rows are about no others. -/
theorem changes_conserved_of_quiet_rows : Whole quietRows ∧ Apart quietRows ∧
    ∃ events : List String, changeSamples quietRows =
        events.map (fun event => changeSample event (Float.ofInt (total quietRows event))) ∧
      (events.map (lastCount quietRows)).sum = 7 ∧
      ∀ event, event ∈ events ↔ event ∈ ["moveChunk.start", "moveChunk.to", "moveChunk.to_failed",
        "moveChunk.from", "moveChunk.from_failed", "moveChunk.commit", "addShard", "removeShard.start",
        "shardCollection", "shardCollection.start", "split", "multi-split"] := by
  have hwhole : Whole quietRows := by decide
  have hapart : Apart quietRows := by decide
  have hknown : ∀ row ∈ quietRows, ∃ event ∈ knownChanges, eventOf? row = some event := by decide
  obtain ⟨events, -, hevents, hsamples, hconserved, -⟩ := changes_conserved_iff_apart quietRows hwhole
  obtain ⟨heach, hsum, -⟩ := hconserved hapart
  simp only [heach] at hsamples
  refine ⟨hwhole, hapart, events, hsamples, hsum.trans (by decide), fun event => ?_⟩
  refine (hevents event).trans ⟨fun h => h.elim id fun ⟨row, hrow, hunder⟩ => ?_, .inl⟩
  obtain ⟨known, hmem, hcounts⟩ := hknown row hrow
  exact Option.some.inj (hcounts.symm.trans (eventOf?_eq_some.2 hunder)) ▸ hmem

/-- Two rows of one move, which failed for two reasons. -/
def moveRows : List Document :=
  [[("_id", .document [("event", .string "moveChunk.from"), ("note", .string "aborted")]),
      ("count", .int32 3)],
   [("_id", .document [("event", .string "moveChunk.from"), ("note", .string "timeout")]),
      ("count", .int32 2)]]

/-- Five moves failed, but the sample tells of the two of the last row, and of the three of the other
row when the rows come in the opposite order. -/
theorem changes_of_two_notes : Whole moveRows ∧ ¬ Apart moveRows ∧
    total moveRows "moveChunk.from_failed" = 5 ∧
    changeSample "moveChunk.from_failed" 2 ∈ changeSamples moveRows ∧
    changeSample "moveChunk.from_failed" 3 ∈ changeSamples moveRows.reverse ∧
    ∀ s ∈ changeSamples moveRows,
      s.labels = Keyed.single "event" "moveChunk.from_failed" → s.value ≠ 5 := by
  decide

end MongoMetrics.Diagnostics
