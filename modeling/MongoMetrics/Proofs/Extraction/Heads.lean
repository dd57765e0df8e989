/-
How the names of samples begin. A path that begins with a letter or a digit keeps this beginning in the
name that is made from it, with and without short forms; only the short form of the operation log has
another first letter. So all names below a path begin as the path does, but for those of the sections
that share a metric (`name_of_mem_extract`).
-/
import MongoMetrics.Proofs.Extraction.Names
import MongoMetrics.Proofs.Extraction.ShortForms

namespace MongoMetrics.Extraction

open MongoMetrics.Exposition

/-- The text begins with the character. -/
def BeginsWith (c : Char) (s : String) : Prop := s.toList.head? = some c

instance (c : Char) (s : String) : Decidable (BeginsWith c s) :=
  inferInstanceAs (Decidable (s.toList.head? = some c))

variable {c : Char}

theorem BeginsWith.append {s : String} (h : BeginsWith c s) (t : String) : BeginsWith c (s ++ t) := by
  unfold BeginsWith
  rw [String.toList_append, List.head?_append, h]
  rfl

theorem BeginsWith.join {path : String} (h : BeginsWith c path) (key : String) :
    BeginsWith c (join path key) := by
  unfold Extraction.join
  split
  · rename_i hempty
    rw [String.isEmpty_iff.1 hempty] at h
    cases h
  · rw [String.append_assoc]
    exact h.append _

/-! ## From paths to names -/

theorem BeginsWith.normalize (hc : isNameChar c = true) {raw : String} (h : BeginsWith c raw) :
    BeginsWith c (normalize raw) := by
  obtain ⟨rest, hraw⟩ := List.head?_eq_some_iff.1 h
  unfold BeginsWith
  rw [head?_normalize, hraw, List.filter_cons_of_pos hc]
  rfl

/-- Short forms begin as the long ones, but for those of the operation log. -/
theorem head?_shortForms : ∀ p ∈ shortForms,
    BeginsWith 'l' p.1 ∨ p.1 ≠ "" ∧ p.2.toList.head? = p.1.toList.head? := by
  decide

theorem BeginsWith.shortenBy (hc : c ≠ 'l') {table : List (String × String)}
    (htable : ∀ p ∈ table, BeginsWith 'l' p.1 ∨ p.1 ≠ "" ∧ p.2.toList.head? = p.1.toList.head?)
    {path : String} (h : BeginsWith c path) : BeginsWith c (shortenBy table path) := by
  rcases shortenBy_cases table path with ⟨⟨long, short⟩, hentry, rest, hrest, hshorten⟩ | hpath
  · -- the path goes on behind the long form, so both begin in one way
    have hlong : ∀ x, BeginsWith x long → x = c := fun x hx => by
      have hx' : BeginsWith x path := hrest.1 ▸ hx.append rest
      exact Option.some.inj (hx'.symm.trans h)
    rw [hshorten]
    rcases htable _ hentry with hl | ⟨hne, hshort⟩
    · exact absurd (hlong 'l' hl) (Ne.symm hc)
    · obtain ⟨x, hx⟩ : ∃ x, BeginsWith x long := by
        cases hchars : long.toList with
        | nil => exact absurd (String.toList_eq_nil_iff.1 hchars) hne
        | cons x chars => exact ⟨x, by rw [BeginsWith, hchars]; rfl⟩
      have hbegins : BeginsWith c short := hshort.trans (by rw [← hlong x hx]; exact hx)
      exact hbegins.append rest
  · rwa [hpath]

theorem BeginsWith.stem (hc : isNameChar c = true) (hl : c ≠ 'l') {path : String}
    (h : BeginsWith c path) (naming : Naming) : BeginsWith c (stem naming path) := by
  cases naming with
  | full => exact h.normalize hc
  | legacy => exact (h.shortenBy hl head?_shortForms).normalize hc

/-! ## The names below a path -/

theorem beginsWith_scope {start : Scope} (h : BeginsWith c start.path) (l : Leaf) :
    BeginsWith c (l.scope start).path := by
  unfold Leaf.scope
  induction l.trail generalizing start with
  | nil => exact h
  | cons stop rest ih =>
    refine ih ?_
    unfold Scope.enter
    split
    · exact h.join _
    · exact h
    · exact h.join _

theorem beginsWith_namePath {start : Scope} (h : BeginsWith c start.path) (naming : Naming) (l : Leaf) :
    BeginsWith c (l.namePath naming start) := by
  have hscope := beginsWith_scope h l
  have hsubject : BeginsWith c (l.subject start) := by
    unfold Leaf.subject
    split <;> exact hscope.join _
  unfold Leaf.namePath
  split
  · exact hscope
  · exact hsubject

/-- A name as it can stand below a path that begins with the character. -/
def NameBelow (c : Char) (name : String) : Prop :=
  (∃ legacy ∈ legacySections, name = legacy.metric) ∨
    ∃ rest, name = namespaceText ++ rest ∧ BeginsWith c rest

theorem nameBelow_metric (hc : isNameChar c = true) (hl : c ≠ 'l') {start : Scope}
    (h : BeginsWith c start.path) (naming : Naming) (l : Leaf) :
    NameBelow c (l.metric naming start) := by
  unfold Leaf.metric
  split
  · rename_i legacy hsection
    exact .inl ⟨legacy, mem_legacySections (legacySection_of_section hsection), rfl⟩
  · exact .inr ⟨_, rfl, (beginsWith_namePath h naming l).stem hc hl naming⟩

/-- All names of a document begin as its path does, or are names of shared sections. -/
theorem name_of_mem_extract (hc : isNameChar c = true) (hl : c ≠ 'l') {path : String}
    (h : BeginsWith c path) (naming : Naming) (labels : Labels) (d : Document) :
    ∀ s ∈ (extract naming path labels d).samples, NameBelow c s.name := by
  have hstart : BeginsWith c (⟨path, labels⟩ : Scope).path := h
  intro s hs
  obtain ⟨l, -, hanswer⟩ := exists_leaf_of_mem_extract hs
  rw [(series_of_answer hanswer).1]
  exact nameBelow_metric hc hl hstart naming l

end MongoMetrics.Extraction
