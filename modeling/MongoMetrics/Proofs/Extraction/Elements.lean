/-
The samples of different elements of an array. Documents are told apart by the label that each of them
gives to everything below it, numbers by their position, which is a label in the full naming and the
end of the name in the legacy naming. Main statement: no two elements share a series, where either no
document has a name or all have different ones (`elements_share_no_series`).
-/
import MongoMetrics.Proofs.Extraction.Labels
import MongoMetrics.Proofs.Extraction.ShortForms

namespace MongoMetrics.Extraction

/-! ## Positions in names -/

/-- A text that ends, and not in a digit. -/
def EndsPlain (s : String) : Prop := s.toList.getLast?.map Char.isDigit = some false

instance (s : String) : Decidable (EndsPlain s) := inferInstanceAs (Decidable (_ = _))

theorem endsPlain_shortForms : ∀ p ∈ shortForms, EndsPlain p.1 := by decide

/-- A text that ends in a digit does not end plainly. -/
theorem not_endsPlain_of_append {s : String} {before digits : List Char}
    (hs : s.toList = before ++ digits) (hdigits : ∀ c ∈ digits, c.isDigit = true)
    (hne : digits ≠ []) : ¬ EndsPlain s := by
  intro h
  unfold EndsPlain at h
  rw [hs, List.getLast?_append_of_ne_nil _ hne, List.getLast?_eq_some_getLast hne, Option.map_some,
    hdigits _ (List.getLast_mem hne)] at h
  cases h

/-- A position behind a path is no part of a well-known beginning. -/
theorem afterComponents?_position {start : String} (h : EndsPlain start) (path : String) (n : Nat) :
    afterComponents? start (path ++ "." ++ Number.natText n) =
      (afterComponents? start path).map (· ++ '.' :: (Number.natText n).toList) := by
  have hdigits : ∀ c ∈ (Number.natText n).toList, c.isDigit = true := fun c hc =>
    Number.isDigit_of_mem_natText hc
  have hchars : (path ++ "." ++ Number.natText n).toList =
      path.toList ++ '.' :: (Number.natText n).toList := by
    simp [String.toList_append]
  refine Option.ext fun rest => ?_
  rw [afterComponents?_eq_some, Option.map_eq_some_iff, hchars]
  constructor
  · rintro ⟨heq, hrest⟩
    rcases List.append_eq_append_iff.1 heq with ⟨before, hstart, htail⟩ | ⟨before, hpath, rfl⟩
    · cases before with
      | nil =>
        rw [List.append_nil] at hstart
        exact ⟨[], afterComponents?_eq_some.2 ⟨by rw [hstart, List.append_nil], .inl rfl⟩, htail⟩
      | cons c before =>
        -- the beginning would reach into the digits and end in one
        obtain ⟨rfl, hnumber⟩ := List.cons.inj htail
        exfalso
        rcases hrest with rfl | hdot
        · have hbefore : (Number.natText n).toList = before := hnumber.trans (List.append_nil _)
          have hlong : start.toList = (path.toList ++ ['.']) ++ before := by simpa using hstart
          exact not_endsPlain_of_append hlong (hbefore ▸ hdigits)
            (hbefore ▸ Number.natText_ne_empty n) h
        · obtain ⟨after, rfl⟩ := List.head?_eq_some_iff.1 hdot
          have hmem : '.' ∈ (Number.natText n).toList := hnumber ▸ by simp
          exact absurd (hdigits '.' hmem) (by decide)
    · refine ⟨before, afterComponents?_eq_some.2 ⟨hpath, ?_⟩, rfl⟩
      cases before with
      | nil => exact .inl rfl
      | cons c before => simpa using hrest
  · rintro ⟨before, hbefore, rfl⟩
    obtain ⟨hpath, hdot⟩ := afterComponents?_eq_some.1 hbefore
    refine ⟨by rw [hpath, List.append_assoc], .inr ?_⟩
    rcases hdot with rfl | hdot
    · rfl
    · rw [List.head?_append, hdot]
      rfl

theorem shortenBy_position {table : List (String × String)} (h : ∀ p ∈ table, EndsPlain p.1)
    (path : String) (n : Nat) :
    shortenBy table (path ++ "." ++ Number.natText n) =
      shortenBy table path ++ "." ++ Number.natText n := by
  induction table with
  | nil => rfl
  | cons p table ih =>
    obtain ⟨long, short⟩ := p
    rw [List.forall_mem_cons] at h
    unfold shortenBy
    rw [afterComponents?_position h.1]
    cases afterComponents? long path with
    | none => exact ih h.2
    | some rest =>
      refine String.toList_inj.1 ?_
      simp [String.toList_append]

theorem shortenBy_natText {table : List (String × String)} (h : ∀ p ∈ table, EndsPlain p.1)
    (n : Nat) : shortenBy table (Number.natText n) = Number.natText n := by
  refine (shortenBy_cases table _).resolve_left ?_
  rintro ⟨⟨long, short⟩, hentry, rest, ⟨hnumber, -⟩, -⟩
  have hdigits : ∀ c ∈ long.toList, c.isDigit = true := fun c hc => by
    refine Number.isDigit_of_mem_natText (n := n) ?_
    rw [hnumber, String.toList_append]
    exact List.mem_append_left _ hc
  have hplain : EndsPlain long := h _ hentry
  by_cases hempty : long.toList = []
  · rw [EndsPlain, hempty] at hplain
    cases hplain
  · exact not_endsPlain_of_append (List.nil_append _).symm hdigits hempty hplain

theorem isRun_natText (n : Nat) : IsRun (Number.natText n).toList where
  ne_nil := Number.natText_ne_empty n
  plain := fun c hc => by simp [isNameChar, Char.isAlphanum, Number.isDigit_of_mem_natText hc]

theorem normalize_natText (n : Nat) : normalize (Number.natText n) = Number.natText n := by
  rw [← String.toList_inj, toList_normalize, words_of_isRun (isRun_natText n), joined_singleton]

/-- A position behind a path is the last word of its name. -/
theorem exists_normalize_position (path : String) : ∃ kept : List Char, ∀ n,
    (normalize (path ++ "." ++ Number.natText n)).toList = kept ++ (Number.natText n).toList := by
  have hwords : ∀ n, words (path ++ "." ++ Number.natText n).toList =
      words path.toList ++ [(Number.natText n).toList] := fun n => by
    rw [String.toList_append, String.toList_append, List.append_assoc, ← words_of_isRun (isRun_natText n)]
    exact words_append_foreign (by decide) (by decide) _ _
  by_cases hpath : words path.toList = []
  · refine ⟨[], fun n => ?_⟩
    rw [toList_normalize, hwords, hpath, List.nil_append, List.nil_append, joined_singleton]
  · refine ⟨joined (words path.toList) ++ ['_'], fun n => ?_⟩
    rw [toList_normalize, hwords, joined_append hpath (List.cons_ne_nil _ _), joined_singleton,
      List.append_assoc]
    rfl

/-- The names of the numbers of an array end in their positions and agree before them. -/
theorem exists_stem_position (naming : Naming) (path : String) : ∃ kept : List Char, ∀ n,
    (stem naming (join path (Number.natText n))).toList = kept ++ (Number.natText n).toList := by
  unfold join
  by_cases hpath : path.isEmpty = true
  · simp only [if_pos hpath]
    refine ⟨[], fun n => ?_⟩
    rw [List.nil_append, String.toList_inj]
    cases naming with
    | full => exact normalize_natText n
    | legacy =>
      rw [stem, shorten, shortenBy_natText endsPlain_shortForms]
      exact normalize_natText n
  · simp only [if_neg hpath]
    cases naming with
    | full => exact exists_normalize_position path
    | legacy =>
      obtain ⟨kept, hkept⟩ := exists_normalize_position (shorten path)
      refine ⟨kept, fun n => ?_⟩
      rw [stem, shorten, shortenBy_position endsPlain_shortForms]
      exact hkept n

theorem metricName_position_injective (naming : Naming) (path : String) :
    Function.Injective fun n => metricName naming (join path (Number.natText n)) := by
  intro i j h
  obtain ⟨kept, hkept⟩ := exists_stem_position naming path
  have hstem : stem naming (join path (Number.natText i)) =
      stem naming (join path (Number.natText j)) := (String.append_right_inj namespaceText).1 h
  have hchars : (Number.natText i).toList = (Number.natText j).toList := by
    refine List.append_cancel_left (?_ : kept ++ _ = kept ++ _)
    rw [← hkept i, ← hkept j, hstem]
  exact Number.natText_injective (String.toList_inj.1 hchars)

/-! ## The samples of one element -/

/-- The samples that one element of an array gives. -/
def elementSamples (naming : Naming) (path : String) (labels : Labels) (i : Nat) (v : Value) :
    List Sample :=
  (ofItem naming path labels i v).filterMap Finding.sample?

section

variable {naming : Naming} {path : String} {labels : Labels} {i j : Nat} {v w : Value}
  {e e' : Document} {s t : Sample}

theorem mem_elementSamples : s ∈ elementSamples naming path labels i v ↔
    ∃ l ∈ leavesAt (.item i) v, l.answer naming ⟨path, labels⟩ = some (.sample s) := by
  have hwalk : ofItem naming path labels i v =
      (leavesAt (.item i) v).filterMap (Leaf.answer naming ⟨path, labels⟩) :=
    ofItem_eq naming ⟨path, labels⟩ i v
  unfold elementSamples
  rw [hwalk, List.filterMap_filterMap, List.mem_filterMap]
  refine exists_congr fun l => and_congr_right fun _ => ?_
  cases l.answer naming ⟨path, labels⟩ with
  | none => simp
  | some found => cases found <;> simp [Finding.sample?]

/-- The samples of an array are those of its elements, in order. -/
theorem samples_ofItems (items : List Value) (n : Nat) :
    (ofItems naming path labels n items).filterMap Finding.sample? =
      ((items.zipIdx n).map fun p => elementSamples naming path labels p.2 p.1).flatten := by
  induction items generalizing n with
  | nil => rfl
  | cons v rest ih =>
    rw [ofItems, List.filterMap_append, ih, List.zipIdx_cons, List.map_cons, List.flatten_cons]
    rfl

/-- What tells a document apart reaches all samples below it. -/
theorem get?_of_mem_document (h : s ∈ elementSamples naming path labels i (.document e)) :
    s.labels.get? (freshLabel labels (discriminant i e).1) = some (discriminant i e).2 := by
  obtain ⟨l, hl, hanswer⟩ := mem_elementSamples.1 h
  rcases mem_leavesAt.1 hl with ⟨hleaf, -⟩ | ⟨-, m, -, rfl⟩
  · cases hleaf
  · have htrail : (m.under ⟨.item i, .document e⟩).trail =
        [] ++ ⟨.item i, .document e⟩ :: m.trail := rfl
    rw [(series_of_answer hanswer).2]
    exact get?_discriminant naming ⟨path, labels⟩ htrail

/-- A number of an array has its position as a label or, in the legacy naming, in its name. -/
theorem labels_of_mem_leaf (hv : v.isLeaf = true) (h : s ∈ elementSamples naming path labels i v) :
    match naming with
    | .full => s.labels = withPosition labels i
    | .legacy => s.labels = labels ∧ s.name = metricName .legacy (join path (Number.natText i)) := by
  obtain ⟨l, hl, hanswer⟩ := mem_elementSamples.1 h
  rw [leavesAt_leaf hv, List.mem_singleton] at hl
  subst hl
  obtain ⟨hname, hlabels⟩ := series_of_answer hanswer
  cases naming with
  | full => exact hlabels
  | legacy => exact ⟨hlabels, hname⟩

/-- A number has no label of a document at another position. -/
theorem get?_of_mem_leaf (hv : v.isLeaf = true) (hij : i ≠ j)
    (h : s ∈ elementSamples naming path labels i v) :
    s.labels.get? (freshLabel labels (discriminant j e).1) ≠ some (discriminant j e).2 := by
  have hlabels := labels_of_mem_leaf hv h
  cases naming with
  | legacy =>
    -- the name that the document chose is free in the labels from outside
    rw [hlabels.1, get?_freshLabel]
    exact nofun
  | full =>
    have hposition : s.labels = mark labels (positionLabel, Number.natText i) := hlabels
    rw [hposition]
    cases hname : Document.string? e "name" with
    | none =>
      rw [discriminant_of_no_name hname, get?_mark_self labels (positionLabel, Number.natText i)]
      exact fun he => hij (Number.natText_injective (Option.some.inj he))
    | some name =>
      have hindex : Unnumbered positionLabel := by decide
      have hmember : Unnumbered memberLabel := by decide
      have hne : positionLabel ≠ memberLabel := by decide
      -- the position is no ordinal of the base that names are put under
      obtain ⟨n, heq, hfree, -⟩ := exists_freshLabel_eq labels memberLabel
      rw [discriminant_of_name hname, heq, get?_mark_ordinal hindex hmember hne,
        Keyed.contains_eq_false.1 hfree]
      exact nofun

theorem series_ne_of_leaves (hv : v.isLeaf = true) (hw : w.isLeaf = true) (hij : i ≠ j)
    (hs : s ∈ elementSamples naming path labels i v)
    (ht : t ∈ elementSamples naming path labels j w) : s.series ≠ t.series := by
  have hsl := labels_of_mem_leaf hv hs
  have htl := labels_of_mem_leaf hw ht
  intro he
  cases naming with
  | full =>
    have hlabels : withPosition labels i = withPosition labels j := by
      rw [← hsl, ← htl]
      exact congrArg Series.labels he
    have hread := congrArg (Keyed.get? · (freshLabel labels positionLabel)) hlabels
    simp only [withPosition, Keyed.get?_insert_self, Option.some.injEq] at hread
    exact hij (Number.natText_injective hread)
  | legacy =>
    have hname : s.name = t.name := congrArg Series.name he
    rw [hsl.2, htl.2] at hname
    exact hij (metricName_position_injective .legacy path hname)

theorem series_ne_of_documents (hbase : (discriminant i e).1 = (discriminant j e').1)
    (hvalue : (discriminant i e).2 ≠ (discriminant j e').2)
    (hs : s ∈ elementSamples naming path labels i (.document e))
    (ht : t ∈ elementSamples naming path labels j (.document e')) : s.series ≠ t.series := by
  intro he
  have hlabels : s.labels = t.labels := congrArg Series.labels he
  have hread := get?_of_mem_document hs
  rw [hlabels, hbase, get?_of_mem_document ht] at hread
  exact hvalue (Option.some.inj hread).symm

theorem series_ne_of_document_of_leaf (hw : w.isLeaf = true) (hij : i ≠ j)
    (hs : s ∈ elementSamples naming path labels i (.document e))
    (ht : t ∈ elementSamples naming path labels j w) : s.series ≠ t.series := by
  intro he
  have hlabels : s.labels = t.labels := congrArg Series.labels he
  exact get?_of_mem_leaf hw hij.symm ht (hlabels ▸ get?_of_mem_document hs)

end

/-! ## Elements that can be told apart -/

/-- The name of a document of an array. -/
def elementName? : Value → Option String
  | .document e => Document.string? e "name"
  | _ => none

/-- No document of the array has a name, or all have names and these are different. -/
def Distinguished (items : List Value) : Prop :=
  (∀ e, .document e ∈ items → elementName? (.document e) = none) ∨
    (∀ e, .document e ∈ items → (elementName? (.document e)).isSome = true) ∧
      (items.filterMap elementName?).Nodup

/-- Documents at different positions get different labels of one name. -/
theorem discriminants_differ {items : List Value} (h : Distinguished items) {i j : Nat}
    {e e' : Document} (hi : items[i]? = some (.document e)) (hj : items[j]? = some (.document e'))
    (hij : i ≠ j) :
    (discriminant i e).1 = (discriminant j e').1 ∧ (discriminant i e).2 ≠ (discriminant j e').2 := by
  have hmem := List.mem_of_getElem? hi
  have hmem' := List.mem_of_getElem? hj
  rcases h with hnone | ⟨hall, hnodup⟩
  · have hname : Document.string? e "name" = none := hnone e hmem
    have hname' : Document.string? e' "name" = none := hnone e' hmem'
    rw [discriminant_of_no_name hname, discriminant_of_no_name hname']
    exact ⟨rfl, fun he => hij (Number.natText_injective he)⟩
  · obtain ⟨name, hname⟩ := Option.isSome_iff_exists.1 (hall e hmem)
    obtain ⟨name', hname'⟩ := Option.isSome_iff_exists.1 (hall e' hmem')
    have hne : name ≠ name' := by
      rw [List.Nodup, List.pairwise_filterMap, List.pairwise_iff_getElem] at hnodup
      obtain ⟨hi', hgi⟩ := List.getElem?_eq_some_iff.1 hi
      obtain ⟨hj', hgj⟩ := List.getElem?_eq_some_iff.1 hj
      rcases Nat.lt_or_gt_of_ne hij with hlt | hgt
      · exact hnodup i j hi' hj' hlt name (hgi ▸ hname) name' (hgj ▸ hname')
      · exact (hnodup j i hj' hi' hgt name' (hgj ▸ hname') name (hgi ▸ hname)).symm
    rw [discriminant_of_name hname, discriminant_of_name hname']
    exact ⟨rfl, hne⟩

/-- The samples of an array are those of its elements, and no sample of one element has the series of
a sample of another, however deep the elements are. The array must hold no arrays itself. -/
theorem elements_share_no_series (naming : Naming) (path : String) (labels : Labels)
    (items : List Value) (hflat : ∀ inner, .array inner ∉ items) (h : Distinguished items) :
    (ofItems naming path labels 0 items).filterMap Finding.sample? =
      (items.zipIdx.map fun p => elementSamples naming path labels p.2 p.1).flatten ∧
    ∀ (i j : Nat) (v w : Value), items[i]? = some v → items[j]? = some w → i ≠ j →
      ∀ s ∈ elementSamples naming path labels i v, ∀ t ∈ elementSamples naming path labels j w,
        s.series ≠ t.series := by
  have hkinds : ∀ (i : Nat) (v : Value), items[i]? = some v →
      v.isLeaf = true ∨ ∃ e, v = .document e := by
    intro i v hv
    cases v with
    | array inner => exact absurd (List.mem_of_getElem? hv) (hflat inner)
    | document e => exact .inr ⟨e, rfl⟩
    | _ => exact .inl rfl
  refine ⟨samples_ofItems items 0, fun i j v w hi hj hij s hs t ht => ?_⟩
  rcases hkinds i v hi with hv | ⟨e, rfl⟩
  · rcases hkinds j w hj with hw | ⟨e', rfl⟩
    · exact series_ne_of_leaves hv hw hij hs ht
    · exact (series_ne_of_document_of_leaf hv hij.symm ht hs).symm
  · rcases hkinds j w hj with hw | ⟨e', rfl⟩
    · exact series_ne_of_document_of_leaf hw hij hs ht
    · obtain ⟨hbase, hvalue⟩ := discriminants_differ h hi hj hij
      exact series_ne_of_documents hbase hvalue hs ht

/-- Two named members with the same field, and a number beside them. -/
theorem members_share_no_series :
    let up : Value := .document [("name", .string "a"), ("health", .int32 1)]
    let down : Value := .document [("name", .string "b"), ("health", .int32 0)]
    let items : List Value := [up, down, .int32 7]
    ((∀ inner, .array inner ∉ items) ∧ Distinguished items) ∧
    (elementSamples .legacy "members" {} 0 up).map (·.labels.toList) = [[("member_idx", "a")]] ∧
    (elementSamples .legacy "members" {} 1 down).map (·.labels.toList) = [[("member_idx", "b")]] ∧
    ∀ s ∈ elementSamples .legacy "members" {} 0 up,
      ∀ t ∈ elementSamples .legacy "members" {} 1 down, s.series ≠ t.series := by
  intro up down items
  have hflat : ∀ inner, .array inner ∉ items := by simp [items, up, down]
  have hnames : Distinguished items := by
    refine .inr ⟨fun e he => ?_, by decide⟩
    simp only [items, up, down, List.mem_cons, Value.document.injEq, reduceCtorEq, List.not_mem_nil,
      or_false] at he
    rcases he with rfl | rfl <;> rfl
  have hapart := (elements_share_no_series .legacy "members" {} items hflat hnames).2
  exact ⟨⟨hflat, hnames⟩, by decide +kernel, by decide +kernel,
    hapart 0 1 up down rfl rfl (by decide)⟩

end MongoMetrics.Extraction
