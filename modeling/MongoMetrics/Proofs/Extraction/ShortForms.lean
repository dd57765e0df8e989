/-
Short forms of paths. Of the well-known beginnings that fit a path, the first one in the table is taken.
No beginning in the table comes before a longer one that goes on from it (`longerFirst_shortForms`), so
what is taken is the longest that fits (`shortenBy_longest`). Main statement
(`longest_beginning_is_shortened`): names in the legacy naming are made of paths in which the longest
beginning that ends where a component ends is replaced by its short form and nothing else is changed.
-/
import MongoMetrics.Extraction.MetricName
import Mathlib.Data.List.Nodup

namespace MongoMetrics.Extraction

/-! ## Beginnings that fit -/

/-- The path is `start`, which ends where a component of the path ends, and then `rest`. -/
def Continues (start path rest : String) : Prop :=
  path = start ++ rest ∧ (rest = "" ∨ ∃ below, rest = "." ++ below)

theorem afterComponents?_eq_some {start path : String} {rest : List Char} :
    afterComponents? start path = some rest ↔
      path.toList = start.toList ++ rest ∧ (rest = [] ∨ rest.head? = some '.') := by
  unfold afterComponents?
  constructor
  · intro h
    split at h
    · rename_i hprefix
      cases h
      exact ⟨Text.afterPrefix?_eq_some.1 hprefix, .inl rfl⟩
    · rename_i hprefix
      cases h
      exact ⟨Text.afterPrefix?_eq_some.1 hprefix, .inr rfl⟩
    · cases h
  · rintro ⟨hpath, rfl | hdot⟩
    · rw [Text.afterPrefix?_eq_some.2 hpath]
    · obtain ⟨after, rfl⟩ := List.head?_eq_some_iff.1 hdot
      rw [Text.afterPrefix?_eq_some.2 hpath]
      rfl

theorem begins_with_dot_iff {rest : String} :
    (∃ below, rest = "." ++ below) ↔ rest.toList.head? = some '.' := by
  constructor
  · rintro ⟨below, rfl⟩
    rw [String.toList_append]
    rfl
  · intro h
    obtain ⟨below, hbelow⟩ := List.head?_eq_some_iff.1 h
    refine ⟨String.ofList below, String.toList_inj.1 ?_⟩
    rw [hbelow]
    simp

theorem continues_iff {start path rest : String} :
    Continues start path rest ↔ afterComponents? start path = some rest.toList := by
  unfold Continues
  rw [afterComponents?_eq_some, begins_with_dot_iff, ← String.toList_append, String.toList_inj,
    String.toList_eq_nil_iff]

theorem afterComponents?_eq_none {start path : String} :
    afterComponents? start path = none ↔ ∀ rest, ¬ Continues start path rest := by
  refine ⟨fun h rest hrest => ?_, fun h => ?_⟩
  · rw [continues_iff.1 hrest] at h
    cases h
  · refine Option.eq_none_iff_forall_not_mem.2 fun rest hrest => h (String.ofList rest) ?_
    rw [continues_iff, String.toList_ofList]
    exact hrest

/-- Of two beginnings that fit one path, the longer one goes on from the shorter one. -/
theorem Continues.nested {start start' path rest rest' : String} (h : Continues start path rest)
    (h' : Continues start' path rest') (hlen : start.length ≤ start'.length) :
    ∃ between, Continues start start' between := by
  obtain ⟨hpath, hdot⟩ := afterComponents?_eq_some.1 (continues_iff.1 h)
  obtain ⟨hpath', -⟩ := afterComponents?_eq_some.1 (continues_iff.1 h')
  obtain ⟨between, hbetween⟩ : start.toList <+: start'.toList :=
    List.prefix_of_prefix_length_le (hpath ▸ List.prefix_append ..) (hpath' ▸ List.prefix_append ..) hlen
  refine ⟨String.ofList between, continues_iff.2 (afterComponents?_eq_some.2 ?_)⟩
  rw [String.toList_ofList]
  refine ⟨hbetween.symm, ?_⟩
  -- what is between the two is the beginning of what follows the shorter one
  have hrest : rest.toList = between ++ rest'.toList := by
    refine List.append_cancel_left (?_ : start.toList ++ _ = start.toList ++ _)
    rw [← hpath, hpath', ← hbetween, List.append_assoc]
  cases between with
  | nil => exact .inl rfl
  | cons c between =>
    rw [hrest] at hdot
    exact .inr (hdot.resolve_left (List.cons_ne_nil c _))

/-! ## The longest one -/

/-- Of the beginnings in the table that fit the path, that of `entry` is the longest, and `rest` is what
follows it. -/
structure Longest (table : List (String × String)) (path : String) (entry : String × String)
    (rest : String) : Prop where
  mem : entry ∈ table
  continues : Continues entry.1 path rest
  longest : ∀ other ∈ table, (∃ rest', Continues other.1 path rest') →
    other.1.length ≤ entry.1.length

theorem longest_iff {table : List (String × String)} {path : String} {entry : String × String}
    {rest : String} : Longest table path entry rest ↔
      entry ∈ table ∧ afterComponents? entry.1 path = some rest.toList ∧
      ∀ other ∈ table, afterComponents? other.1 path ≠ none → other.1.length ≤ entry.1.length := by
  have hfits : ∀ start, afterComponents? start path ≠ none ↔ ∃ rest', Continues start path rest' := by
    intro start
    rw [Ne, afterComponents?_eq_none, not_forall]
    simp only [not_not]
  simp only [hfits, ← continues_iff]
  exact ⟨fun h => ⟨h.mem, h.continues, h.longest⟩, fun h => ⟨h.1, h.2.1, h.2.2⟩⟩

instance (table : List (String × String)) (path : String) (entry : String × String) (rest : String) :
    Decidable (Longest table path entry rest) :=
  decidable_of_iff _ longest_iff.symm

/-- No beginning comes before one that goes on from it. -/
def LongerFirst (table : List (String × String)) : Prop :=
  table.Pairwise fun earlier later => afterComponents? earlier.1 later.1 = none

instance (table : List (String × String)) : Decidable (LongerFirst table) :=
  inferInstanceAs (Decidable (List.Pairwise _ _))

theorem longerFirst_shortForms : LongerFirst shortForms := by decide

section Table

variable {table : List (String × String)} {path path' rest rest' : String}
  {first entry entry' : String × String}

theorem shortenBy_cons_of_continues (h : Continues first.1 path rest) :
    shortenBy (first :: table) path = first.2 ++ rest := by
  unfold shortenBy
  simp only [continues_iff.1 h, String.ofList_toList]

theorem shortenBy_cons_of_not_continues (h : ∀ rest, ¬ Continues first.1 path rest) :
    shortenBy (first :: table) path = shortenBy table path := by
  rw [shortenBy, afterComponents?_eq_none.2 h]

/-- The short form of a beginning that fits is put in, or nothing is changed. -/
theorem shortenBy_cases (table : List (String × String)) (path : String) :
    (∃ entry ∈ table, ∃ rest, Continues entry.1 path rest ∧ shortenBy table path = entry.2 ++ rest) ∨
      shortenBy table path = path := by
  induction table with
  | nil => exact .inr rfl
  | cons first table ih =>
    by_cases hfits : ∃ rest, Continues first.1 path rest
    · obtain ⟨rest, hrest⟩ := hfits
      exact .inl ⟨first, List.mem_cons_self .., rest, hrest, shortenBy_cons_of_continues hrest⟩
    · rw [shortenBy_cons_of_not_continues (not_exists.1 hfits)]
      refine ih.imp_left ?_
      rintro ⟨entry, hentry, h⟩
      exact ⟨entry, List.mem_cons_of_mem first hentry, h⟩

/-- The first beginning that fits is taken; it is the longest one. -/
theorem shortenBy_longest (htable : LongerFirst table) (path : String) :
    (∃ entry rest, Longest table path entry rest ∧ shortenBy table path = entry.2 ++ rest) ∨
      (∀ entry ∈ table, ∀ rest, ¬ Continues entry.1 path rest) ∧ shortenBy table path = path := by
  induction table with
  | nil => exact .inr ⟨fun _ h => absurd h List.not_mem_nil, rfl⟩
  | cons first table ih =>
    obtain ⟨hfirst, htable⟩ := List.pairwise_cons.1 htable
    by_cases hfits : ∃ rest, Continues first.1 path rest
    · obtain ⟨rest, hrest⟩ := hfits
      refine .inl ⟨first, rest, ⟨List.mem_cons_self .., hrest, ?_⟩, shortenBy_cons_of_continues hrest⟩
      rintro other hother ⟨rest', hrest'⟩
      rcases List.mem_cons.1 hother with rfl | hother
      · exact Nat.le_refl _
      · -- a longer one further down would go on from the first
        by_contra hlt
        obtain ⟨between, hbetween⟩ := hrest.nested hrest' (Nat.le_of_not_le hlt)
        exact afterComponents?_eq_none.1 (hfirst other hother) between hbetween
    · rw [shortenBy_cons_of_not_continues (not_exists.1 hfits)]
      refine (ih htable).imp ?_ ?_
      · rintro ⟨entry, rest, h, hshort⟩
        refine ⟨entry, rest, ⟨List.mem_cons_of_mem first h.mem, h.continues, ?_⟩, hshort⟩
        rintro other hother hother'
        rcases List.mem_cons.1 hother with rfl | hother
        · exact absurd hother' hfits
        · exact h.longest other hother hother'
      · rintro ⟨h, hpath⟩
        exact ⟨List.forall_mem_cons.2 ⟨not_exists.1 hfits, h⟩, hpath⟩

/-- At most one beginning is the longest. -/
theorem Longest.unique (htable : (table.map Prod.fst).Nodup) (h : Longest table path entry rest)
    (h' : Longest table path entry' rest') : entry' = entry ∧ rest' = rest := by
  have hlen : entry'.1.length = entry.1.length :=
    Nat.le_antisymm (h.longest entry' h'.mem ⟨rest', h'.continues⟩)
      (h'.longest entry h.mem ⟨rest, h.continues⟩)
  have hparts : entry'.1.toList ++ rest'.toList = entry.1.toList ++ rest.toList := by
    rw [← String.toList_append, ← String.toList_append, ← h.continues.1, ← h'.continues.1]
  obtain ⟨hstart, hrest⟩ := List.append_inj hparts hlen
  exact ⟨List.inj_on_of_nodup_map htable h'.mem h.mem (String.toList_inj.1 hstart),
    String.toList_inj.1 hrest⟩

theorem shortenBy_of_longest (htable : LongerFirst table) (hnodup : (table.map Prod.fst).Nodup)
    (h : Longest table path entry rest) : shortenBy table path = entry.2 ++ rest := by
  rcases shortenBy_longest htable path with ⟨entry', rest', h', hshort⟩ | ⟨hnone, -⟩
  · obtain ⟨rfl, rfl⟩ := h.unique hnodup h'
    exact hshort
  · exact absurd h.continues (hnone entry h.mem rest)

/-- Paths that go on from the same beginning stay different. -/
theorem shortenBy_ne (htable : LongerFirst table) (hnodup : (table.map Prod.fst).Nodup)
    (h : Longest table path entry rest) (h' : Longest table path' entry rest') (hne : path ≠ path') :
    shortenBy table path ≠ shortenBy table path' := by
  rw [shortenBy_of_longest htable hnodup h, shortenBy_of_longest htable hnodup h', Ne,
    String.append_right_inj]
  intro hrest
  refine hne ?_
  rw [h.continues.1, h'.continues.1, hrest]

end Table

/-! ## Names -/

/-- In the legacy naming, each path is named after the path in which the longest well-known beginning
is replaced by its short form, where a beginning fits only if it ends where a component does; what
follows it stays as it is. There is one longest beginning at most, and a path that none fits is named
after itself. Different paths that go on from the same longest beginning have different short forms. -/
theorem longest_beginning_is_shortened :
    (∀ path : String,
      (∃ entry rest, Longest shortForms path entry rest ∧
        (∀ entry' rest', Longest shortForms path entry' rest' → entry' = entry ∧ rest' = rest) ∧
        shorten path = entry.2 ++ rest ∧
        metricName .legacy path = namespaceText ++ normalize (entry.2 ++ rest)) ∨
      (∀ entry ∈ shortForms, ∀ rest, ¬ Continues entry.1 path rest) ∧
        shorten path = path ∧ metricName .legacy path = namespaceText ++ normalize path) ∧
    ∀ path path' entry rest rest', Longest shortForms path entry rest →
      Longest shortForms path' entry rest' → path ≠ path' → shorten path ≠ shorten path' := by
  have hnodup : (shortForms.map Prod.fst).Nodup := by decide
  have hname : ∀ path, metricName .legacy path = namespaceText ++ normalize (shorten path) :=
    fun _ => rfl
  refine ⟨fun path => ?_, fun _ _ _ _ _ h h' => shortenBy_ne longerFirst_shortForms hnodup h h'⟩
  refine (shortenBy_longest longerFirst_shortForms path).imp ?_ ?_
  · rintro ⟨entry, rest, h, hshort⟩
    exact ⟨entry, rest, h, fun _ _ h' => h.unique hnodup h', hshort,
      (hname path).trans (congrArg _ (congrArg normalize hshort))⟩
  · rintro ⟨hnone, hpath⟩
    exact ⟨hnone, hpath, (hname path).trans (congrArg _ (congrArg normalize hpath))⟩

/-- A component that goes on from a longer beginning by characters is named by the shorter one. -/
theorem longest_beginning_of_longer_component :
    Longest shortForms "serverStatus.wiredTigerLog.bytes" ("serverStatus", "ss") ".wiredTigerLog.bytes" ∧
      Longest shortForms "serverStatus" ("serverStatus", "ss") "" ∧
      shorten "serverStatus.wiredTigerLog.bytes" ≠ shorten "serverStatus" :=
  have h : Longest shortForms "serverStatus.wiredTigerLog.bytes" ("serverStatus", "ss")
      ".wiredTigerLog.bytes" := by decide
  have h' : Longest shortForms "serverStatus" ("serverStatus", "ss") "" := by decide
  ⟨h, h', longest_beginning_is_shortened.2 _ _ _ _ _ h h' (by decide)⟩

end MongoMetrics.Extraction
