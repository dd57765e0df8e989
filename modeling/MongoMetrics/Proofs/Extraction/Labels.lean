/-
The labels of a document's samples. A document of an array is told apart by its name and state, or
else by its position, and in the full naming so is a number of an array. The labels of a leaf are
those of the start with these discriminants put one after the other, from the outermost one, each
under a name that was free (`labels_eq_of_section_none`); a shared section adds one label of its own.
Main statement: what was labelled outside is never overwritten further inside
(`outer_labels_are_kept`).
-/
import MongoMetrics.Proofs.Extraction.Names
import MongoMetrics.Proofs.Extraction.Fresh

namespace MongoMetrics

namespace Extraction

/-! ## Discriminants -/

/-- The bases of the label names that tell elements of arrays apart. -/
def discriminantBases : List String := [positionLabel, memberLabel, memberStateLabel]

/-- The label names of the shared sections. -/
def sectionLabels : List String := ["type", "state"]

theorem unnumbered_of_mem {base : String} (h : base ∈ discriminantBases) : Unnumbered base := by
  have hall : ∀ b ∈ discriminantBases, Unnumbered b := by decide
  exact hall base h

theorem label_mem_sectionLabels {naming : Naming} {parent : String} {legacy : LegacySection}
    (h : legacySection? naming parent = some legacy) : legacy.label ∈ sectionLabels := by
  have hall : ∀ x ∈ legacySections, x.label ∈ sectionLabels := by decide
  exact hall legacy (mem_legacySections h)

/-- No discriminant has the name of a section's label. -/
theorem ordinal_not_mem_sectionLabels {base : String} (h : base ∈ discriminantBases) (j : Nat) :
    ordinal base j ∉ sectionLabels := by
  have hall : ∀ k ∈ sectionLabels, Unnumbered k ∧ k ∉ discriminantBases := by decide
  intro hmem
  obtain ⟨hk, hbase⟩ := hall _ hmem
  have hne : base ≠ ordinal base j := fun he => hbase (he ▸ h)
  exact ordinal_ne_ordinal (unnumbered_of_mem h) hk hne j 0 rfl

/-- What tells a document of an array apart: its name, or else its position. -/
def discriminant (index : Nat) (element : Document) : String × String :=
  match Document.string? element "name" with
  | some name => (memberLabel, name)
  | none => (positionLabel, Number.natText index)

/-- All that a document of an array is labelled with; the state counts only beside a name. -/
def discriminants (index : Nat) (element : Document) : List (String × String) :=
  discriminant index element ::
    match Document.string? element "name", Document.string? element "stateStr" with
    | some _, some state => [(memberStateLabel, state)]
    | _, _ => []

theorem discriminant_of_name {element : Document} {name : String}
    (h : Document.string? element "name" = some name) (index : Nat) :
    discriminant index element = (memberLabel, name) := by
  rw [discriminant, h]

theorem discriminant_of_no_name {element : Document}
    (h : Document.string? element "name" = none) (index : Nat) :
    discriminant index element = (positionLabel, Number.natText index) := by
  rw [discriminant, h]

theorem base_of_discriminant (index : Nat) (element : Document) :
    (discriminant index element).1 ∈ discriminantBases := by
  unfold discriminant
  split
  · exact List.mem_cons_of_mem _ (List.mem_cons_self ..)
  · exact List.mem_cons_self ..

theorem base_of_mem_discriminants {index : Nat} {element : Document} {m : String × String}
    (h : m ∈ discriminants index element) : m.1 ∈ discriminantBases := by
  rcases List.mem_cons.1 h with rfl | h
  · exact base_of_discriminant index element
  · split at h
    · rw [List.mem_singleton.1 h]
      exact List.mem_cons_of_mem _ (List.mem_cons_of_mem _ (List.mem_cons_self ..))
    · cases h

/-- The name of a document does not change where its state goes. -/
theorem freshLabel_mark_member (labels : Labels) (name : String) :
    freshLabel (mark labels (memberLabel, name)) memberStateLabel =
      freshLabel labels memberStateLabel := by
  have hmember : Unnumbered memberLabel := by decide
  have hstate : Unnumbered memberStateLabel := by decide
  exact freshLabel_mark hmember hstate (by decide : memberLabel ≠ memberStateLabel) labels

theorem elementLabels_eq (labels : Labels) (index : Nat) (element : Document) :
    elementLabels labels index element = (discriminants index element).foldl mark labels := by
  unfold elementLabels discriminants discriminant Document.string?
  cases hname : Document.get? element "name" with
  | none => rfl
  | some v =>
    cases v with
    | string name =>
      cases hstate : Document.get? element "stateStr" with
      | none => rfl
      | some w =>
        cases w with
        | string state =>
          -- the walk chooses the name of the state before it puts the name of the document
          show (mark labels (memberLabel, name)).insert (freshLabel labels memberStateLabel) state =
            mark (mark labels (memberLabel, name)) (memberStateLabel, state)
          rw [← freshLabel_mark_member labels name]
          rfl
        | _ => rfl
    | _ => rfl

end Extraction

/-- What going into a container adds: only documents of arrays are told apart. -/
def Stop.discriminants : Stop → List (String × String)
  | ⟨.item i, .document element⟩ => Extraction.discriminants i element
  | _ => []

open Extraction

theorem Extraction.labels_enter (s : Scope) (stop : Stop) :
    (s.enter stop).labels = stop.discriminants.foldl mark s.labels := by
  obtain ⟨slot, container⟩ := stop
  cases slot with
  | field => rfl
  | item i =>
    cases container with
    | document element => exact elementLabels_eq s.labels i element
    | _ => rfl

theorem Extraction.labels_foldl_enter (s : Scope) (trail : List Stop) :
    (trail.foldl Scope.enter s).labels = (trail.flatMap Stop.discriminants).foldl mark s.labels := by
  induction trail generalizing s with
  | nil => rfl
  | cons stop rest ih =>
    rw [List.foldl_cons, ih, labels_enter, List.flatMap_cons, List.foldl_append]

namespace Leaf

variable {naming : Naming} {start : Scope} {l : Leaf}

/-- The discriminants on the way to the leaf, from the outermost one, with its own position where
that is a label. -/
def discriminants (naming : Naming) (l : Leaf) : List (String × String) :=
  l.trail.flatMap Stop.discriminants ++
    match l.slot, naming with
    | .item i, .full => [(positionLabel, Number.natText i)]
    | _, _ => []

theorem base_of_mem_discriminants {m : String × String} (h : m ∈ l.discriminants naming) :
    m.1 ∈ discriminantBases := by
  rcases List.mem_append.1 h with h | h
  · obtain ⟨⟨slot, container⟩, -, hm⟩ := List.mem_flatMap.1 h
    unfold Stop.discriminants at hm
    split at hm
    · exact Extraction.base_of_mem_discriminants hm
    · cases hm
  · split at h
    · rw [List.mem_singleton.1 h]
      exact List.mem_cons_self ..
    · cases h

/-- The labels of the leaf before a shared section adds its own. -/
def marked (naming : Naming) (start : Scope) (l : Leaf) : Labels :=
  (l.discriminants naming).foldl mark start.labels

theorem labels_eq_of_section_none (h : l.section? naming start = none) :
    l.labels naming start = l.marked naming start := by
  have hscope : (l.scope start).labels = _ := labels_foldl_enter start l.trail
  unfold labels marked discriminants
  rw [h, hscope, List.foldl_append]
  cases l.slot with
  | field => rfl
  | item => cases naming <;> rfl

theorem labels_eq_of_section {legacy : LegacySection} (h : l.section? naming start = some legacy) :
    ∃ key, l.labels naming start = (l.marked naming start).insert legacy.label key := by
  have hscope : (l.scope start).labels = _ := labels_foldl_enter start l.trail
  cases hslot : l.slot with
  | item => simp [section?, hslot] at h
  | field i key =>
    refine ⟨key, ?_⟩
    unfold labels marked discriminants
    rw [h, hslot, hscope, List.append_nil]

theorem naming_of_section {legacy : LegacySection} (h : l.section? naming start = some legacy) :
    naming = .legacy := by
  cases naming with
  | full => cases legacySection_of_section h
  | legacy => rfl

/-- Only the label of a section can replace one that was put before. -/
theorem get?_labels {k : String} (h : naming = .legacy → k ∉ sectionLabels) :
    (l.labels naming start).get? k = (l.marked naming start).get? k := by
  cases hs : l.section? naming start with
  | none => rw [labels_eq_of_section_none hs]
  | some legacy =>
    obtain ⟨key, heq⟩ := labels_eq_of_section hs
    have hlabel := label_mem_sectionLabels (legacySection_of_section hs)
    have hne : k ≠ legacy.label := fun he => h (naming_of_section hs) (he ▸ hlabel)
    rw [heq, Keyed.get?_insert_of_ne hne]

theorem get?_labels_ordinal {base : String} (h : base ∈ discriminantBases) (j : Nat) :
    (l.labels naming start).get? (ordinal base j) = (l.marked naming start).get? (ordinal base j) :=
  get?_labels fun _ => ordinal_not_mem_sectionLabels h j

theorem get?_labels_freshLabel {base : String} (h : base ∈ discriminantBases) (labels : Labels) :
    (l.labels naming start).get? (freshLabel labels base) =
      (l.marked naming start).get? (freshLabel labels base) := by
  obtain ⟨n, heq, -, -⟩ := exists_freshLabel_eq labels base
  rw [heq]
  exact get?_labels_ordinal h n

/-- A label of the start is kept, unless it can be that of a section. -/
theorem get?_labels_of_start {k v : String} (h : naming = .legacy → k ∉ sectionLabels)
    (hk : start.labels.get? k = some v) : (l.labels naming start).get? k = some v := by
  rw [get?_labels h]
  exact within_foldl_mark _ _ k v hk

theorem mem_keys_marked {k : String} (h : k ∈ (l.marked naming start).keys) :
    k ∈ start.labels.keys ∨ ∃ base ∈ discriminantBases, ∃ j, k = ordinal base j := by
  rcases mem_keys_foldl_mark h with h | ⟨m, hm, j, hj⟩
  · exact .inl h
  · exact .inr ⟨m.1, base_of_mem_discriminants hm, j, hj⟩

theorem mem_keys_labels {k : String} (h : k ∈ (l.labels naming start).keys) :
    k ∈ start.labels.keys ∨ (∃ base ∈ discriminantBases, ∃ j, k = ordinal base j) ∨
      (naming = .legacy ∧ k ∈ sectionLabels) := by
  cases hs : l.section? naming start with
  | none =>
    rw [labels_eq_of_section_none hs] at h
    exact (mem_keys_marked h).imp_right .inl
  | some legacy =>
    obtain ⟨key, heq⟩ := labels_eq_of_section hs
    rw [heq] at h
    rcases Keyed.mem_keys_insert.1 h with rfl | h
    · exact .inr (.inr
        ⟨naming_of_section hs, label_mem_sectionLabels (legacySection_of_section hs)⟩)
    · exact (mem_keys_marked h).imp_right .inl

/-- Where the start has no label of a section, the discriminants leave none for the section to
replace. -/
theorem within_labels (h : naming = .legacy → ∀ k ∈ sectionLabels, start.labels.get? k = none) :
    (l.marked naming start).Within (l.labels naming start) := by
  intro k v hk
  rw [get?_labels fun hnaming hmem => ?_, hk]
  have hkey : k ∈ (l.marked naming start).keys := Keyed.mem_keys_iff.2 (by rw [hk]; rfl)
  -- a section's label is neither one of the start nor the name of a discriminant
  rcases mem_keys_marked hkey with hstart | ⟨base, hbase, j, rfl⟩
  · rw [Keyed.mem_keys_iff, h hnaming k hmem] at hstart
    cases hstart
  · exact ordinal_not_mem_sectionLabels hbase j hmem

end Leaf

namespace Extraction

/-! ## Samples below elements -/

/-- The labels keep what was labelled on the way to the leaf. -/
structure KeepsLabels (naming : Naming) (start : Scope) (l : Leaf) (labels : Labels) : Prop where
  /-- Every label of the start is kept. -/
  beginning : start.labels.Within labels
  /-- Below a document of an array all labels from outside are kept, and what tells the document
  apart stands under names that none of them has. -/
  element : ∀ outer i element inner, l.trail = outer ++ ⟨.item i, .document element⟩ :: inner →
    let outside := (outer.foldl Scope.enter start).labels
    outside.Within labels ∧
    (∀ base ∈ discriminantBases, freshLabel outside base ∉ outside.keys) ∧
    match Document.string? element "name" with
    | some name =>
      labels.get? (freshLabel outside memberLabel) = some name ∧
      ∀ state, Document.string? element "stateStr" = some state →
        labels.get? (freshLabel outside memberStateLabel) = some state
    | none => labels.get? (freshLabel outside positionLabel) = some (Number.natText i)
  /-- The names of a base that the start has none of read the discriminants from outermost to
  innermost. -/
  ordinals : ∀ base ∈ discriminantBases, (∀ j, start.labels.get? (ordinal base j) = none) →
    ∀ j, labels.get? (ordinal base j) = (valuesOf base (l.discriminants naming))[j]?
  /-- No label has any other name. -/
  keys : ∀ k ∈ labels.keys, k ∈ start.labels.keys ∨
    (∃ base ∈ discriminantBases, ∃ j, k = ordinal base j) ∨ (naming = .legacy ∧ k ∈ sectionLabels)

section

variable {l : Leaf} {outer inner : List Stop} {i : Nat} {element : Document}

/-- The labels of a leaf below a document of an array are put after those outside, beginning with
what tells the document apart. -/
theorem exists_marked_below (naming : Naming) (start : Scope)
    (h : l.trail = outer ++ ⟨.item i, .document element⟩ :: inner) :
    ∃ rest, l.marked naming start =
      (discriminants i element ++ rest).foldl mark (outer.foldl Scope.enter start).labels := by
  unfold Leaf.marked Leaf.discriminants
  rw [h, List.flatMap_append, List.flatMap_cons, List.append_assoc, List.append_assoc,
    List.foldl_append, labels_foldl_enter]
  exact ⟨_, rfl⟩

/-- What tells a document apart stands on all leaves below it, under the name that was free. -/
theorem get?_discriminant (naming : Naming) (start : Scope)
    (h : l.trail = outer ++ ⟨.item i, .document element⟩ :: inner) :
    (l.labels naming start).get?
        (freshLabel (outer.foldl Scope.enter start).labels (discriminant i element).1) =
      some (discriminant i element).2 := by
  obtain ⟨rest, hmarked⟩ := exists_marked_below naming start h
  rw [Leaf.get?_labels_freshLabel (base_of_discriminant i element), hmarked]
  exact get?_foldl_mark [] _ (discriminant i element) _

theorem get?_state (naming : Naming) (start : Scope)
    (h : l.trail = outer ++ ⟨.item i, .document element⟩ :: inner) {name state : String}
    (hname : Document.string? element "name" = some name)
    (hstate : Document.string? element "stateStr" = some state) :
    (l.labels naming start).get?
        (freshLabel (outer.foldl Scope.enter start).labels memberStateLabel) = some state := by
  obtain ⟨rest, hmarked⟩ := exists_marked_below naming start h
  have hboth : discriminants i element = [(memberLabel, name), (memberStateLabel, state)] := by
    rw [discriminants, discriminant_of_name hname, hname, hstate]
  rw [Leaf.get?_labels_freshLabel (by decide), hmarked, hboth, ← freshLabel_mark_member _ name]
  exact get?_foldl_mark [(memberLabel, name)] rest (memberStateLabel, state) _

end

theorem keepsLabels_labels {naming : Naming} {start : Scope}
    (h : naming = .legacy → ∀ k ∈ sectionLabels, start.labels.get? k = none) (l : Leaf) :
    KeepsLabels naming start l (l.labels naming start) where
  beginning := (within_foldl_mark _ _).trans (Leaf.within_labels h)
  element outer i element inner htrail := by
    obtain ⟨rest, hmarked⟩ := exists_marked_below naming start htrail
    have hvalue := get?_discriminant naming start htrail
    refine ⟨?_, fun base _ hmem => ?_, ?_⟩
    · exact .trans (hmarked ▸ within_foldl_mark _ _) (Leaf.within_labels h)
    · rw [Keyed.mem_keys_iff, get?_freshLabel] at hmem
      cases hmem
    · cases hname : Document.string? element "name" with
      | none =>
        rw [discriminant_of_no_name hname] at hvalue
        exact hvalue
      | some name =>
        rw [discriminant_of_name hname] at hvalue
        exact ⟨hvalue, fun state => get?_state naming start htrail hname⟩
  ordinals base hbase hnone j := by
    rw [Leaf.get?_labels_ordinal hbase]
    exact get?_ordinal_foldl_mark (unnumbered_of_mem hbase) hnone
      (fun m hm => unnumbered_of_mem (Leaf.base_of_mem_discriminants hm)) j
  keys _ hk := Leaf.mem_keys_labels hk

/-- Every sample of a document is one of a leaf, and whatever leaf gives it, the sample keeps all
labels that were there before and on the way: those of the start, the names and states or the
positions of all elements around the leaf, and nothing else but the label of a shared section. In the
legacy naming the start must leave the label names of the sections alone. -/
theorem outer_labels_are_kept (naming : Naming) (path : String) (base : Labels) (d : Document)
    (h : naming = .legacy → ∀ k ∈ sectionLabels, base.get? k = none) :
    ∀ s ∈ (extract naming path base d).samples,
      (∃ l : Leaf, l.In d ∧ l.answer naming ⟨path, base⟩ = some (.sample s)) ∧
      ∀ l : Leaf, l.In d → l.answer naming ⟨path, base⟩ = some (.sample s) →
        KeepsLabels naming ⟨path, base⟩ l s.labels := by
  intro s hs
  refine ⟨exists_leaf_of_mem_extract hs, fun l _ hanswer => ?_⟩
  rw [(series_of_answer hanswer).2]
  exact keepsLabels_labels h l

/-- A named disk of a named member, with a list of its parts: four labels beside the given one. -/
theorem outer_labels_of_nested_members :
    let base : Labels := Keyed.single "shard" "s1"
    let disk : Document := [("name", .string "d"), ("parts", .array [.document [("used", .int32 1)]])]
    let member : Document :=
      [("name", .string "m"), ("stateStr", .string "UP"), ("disks", .array [.document disk])]
    let d : Document := [("members", .array [.document member])]
    (∀ k ∈ sectionLabels, base.get? k = none) ∧
    (extract .legacy "rs" base d).samples.map (·.labels.toList) =
      [[("index", "0"), ("member_idx", "m"), ("member_idx2", "d"), ("member_state", "UP"),
        ("shard", "s1")]] ∧
    ∀ s ∈ (extract .legacy "rs" base d).samples,
      (∃ l : Leaf, l.In d ∧ l.answer .legacy ⟨"rs", base⟩ = some (.sample s)) ∧
      ∀ l : Leaf, l.In d → l.answer .legacy ⟨"rs", base⟩ = some (.sample s) →
        KeepsLabels .legacy ⟨"rs", base⟩ l s.labels := by
  intro base disk member d
  have hbase : ∀ k ∈ sectionLabels, base.get? k = none := by decide
  exact ⟨hbase, by decide +kernel, outer_labels_are_kept .legacy "rs" base d fun _ => hbase⟩

end Extraction

end MongoMetrics
