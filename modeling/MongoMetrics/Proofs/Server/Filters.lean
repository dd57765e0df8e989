/-
Selections and their filter documents. A server that is given the filter of a selection finds exactly
what the selection accepts, provided that its regular expressions find what the selection compares by:
names up to ASCII case, and patterns as they are read here. Each part of a filter is missing when there
is nothing to compare with, so no operator is ever empty. Main statement: `filters_say_what_is_accepted`.
-/
import MongoMetrics.Proofs.Pattern.Escaped
import MongoMetrics.Server.Query

namespace MongoMetrics

open MongoMetrics.Query

namespace Query

variable {α : Type} {m : Matcher} {subject : Document}

/-! ## Parts of filters -/

theorem verdicts?_map {condition : α → Document} {p : α → Bool} {l : List α}
    (h : ∀ a ∈ l, verdict? m subject (condition a) = some (p a)) :
    verdicts? m subject (l.map fun a => .document (condition a)) = some (l.map p) := by
  induction l with
  | nil => rfl
  | cons a rest ih =>
    rw [List.forall_mem_cons] at h
    rw [List.map_cons, verdicts?, h.1, ih h.2]
    rfl

theorem verdict?_append (f g : Document) :
    verdict? m subject (f ++ g) = do
      let first ← verdict? m subject f
      let second ← verdict? m subject g
      return first && second := by
  induction f with
  | nil =>
    rw [List.nil_append]
    cases verdict? m subject g <;> simp [verdict?]
  | cons field rest ih =>
    obtain ⟨key, v⟩ := field
    rw [List.cons_append, verdict?, verdict?, ih]
    cases fieldVerdict? m subject key v with
    | none => rfl
    | some here =>
      cases verdict? m subject rest with
      | none => rfl
      | some first => cases verdict? m subject g <;> simp [Bool.and_assoc]

theorem verdict?_single {key : String} {v : Value} {b : Bool}
    (h : fieldVerdict? m subject key v = some b) : verdict? m subject [(key, v)] = some b := by
  rw [verdict?, h]
  simp [verdict?]

theorem combine_and {verdicts : List Bool} (h : verdicts ≠ []) :
    combine "$and" verdicts = some (verdicts.all id) := by
  cases verdicts with
  | nil => exact absurd rfl h
  | cons b rest => rfl

theorem combine_or {verdicts : List Bool} (h : verdicts ≠ []) :
    combine "$or" verdicts = some (verdicts.any id) := by
  cases verdicts with
  | nil => exact absurd rfl h
  | cons b rest => rfl

theorem verdict?_operator {operator : String} {condition : α → Document} {p : α → Bool} {l : List α}
    (h : ∀ a ∈ l, verdict? m subject (condition a) = some (p a)) :
    verdict? m subject [(operator, .array (l.map fun a => .document (condition a)))] =
      combine operator (l.map p) := by
  rw [verdict?, fieldVerdict?, verdicts?_map h]
  cases hcombine : combine operator (l.map p) <;> simp [verdict?, hcombine]

/-- All of some conditions, of which nothing is said when there are none. -/
theorem verdict?_and {condition : α → Document} {p : α → Bool} {l : List α}
    (h : ∀ a ∈ l, verdict? m subject (condition a) = some (p a)) :
    verdict? m subject (if l.isEmpty then [] else
      [("$and", .array (l.map fun a => .document (condition a)))]) = some (l.all p) := by
  cases hl : l.isEmpty with
  | true =>
    rw [List.isEmpty_iff.1 hl]
    rfl
  | false =>
    have hne : l.map p ≠ [] := by simpa using hl
    rw [if_neg Bool.false_ne_true, verdict?_operator h, combine_and hne, List.all_map]
    rfl

/-- One of some conditions, of which nothing is said when there are none. -/
theorem verdict?_or {condition : α → Document} {p : α → Bool} {l : List α}
    (h : ∀ a ∈ l, verdict? m subject (condition a) = some (p a)) :
    verdict? m subject (if l.isEmpty then [] else
      [("$or", .array (l.map fun a => .document (condition a)))]) = some (l.isEmpty || l.any p) := by
  cases hl : l.isEmpty with
  | true => rfl
  | false =>
    have hne : l.map p ≠ [] := by simpa using hl
    rw [if_neg Bool.false_ne_true, verdict?_operator h, combine_or hne, List.any_map]
    rfl

/-! ## Servers and their regular expressions -/

/-- Around an escaped name, `^` and `$` find the names that equal it up to ASCII case. -/
def FindsNames (m : Matcher) : Prop :=
  ∀ wanted name, m ("^" ++ Pattern.escapeText wanted ++ "$") "i" name = Text.equalsIgnoringCase wanted name

/-- Patterns find what they find when they are read here. -/
def FindsPatterns (m : Matcher) : Prop :=
  ∀ text pattern, NamePattern.read text = .ok pattern → ∀ name, m text "i" name = pattern.occursIn name

end Query

/-! ## Databases -/

namespace DatabaseSelection

variable {m : Matcher}

/-- What the server lists of a database. -/
def listed (name : String) : Document := [("name", .string name)]

theorem verdict?_differs (excluded name : String) :
    verdict? m (listed name) [("name", .document [("$ne", .string excluded)])] =
      some (name != excluded) := by
  have hmeets : fieldVerdict? m (listed name) "name" (.document [("$ne", .string excluded)]) =
      some (name != excluded) := rfl
  exact verdict?_single hmeets

theorem verdict?_equals (hm : FindsNames m) (included name : String) :
    verdict? m (listed name) [("name", .regex ("^" ++ Pattern.escapeText included ++ "$") "i")] =
      some (Text.equalsIgnoringCase included name) := by
  have hmeets : fieldVerdict? m (listed name) "name"
      (.regex ("^" ++ Pattern.escapeText included ++ "$") "i") =
      some (m ("^" ++ Pattern.escapeText included ++ "$") "i" name) := rfl
  rw [hm] at hmeets
  exact verdict?_single hmeets

theorem verdict?_filter (hm : FindsNames m) (s : DatabaseSelection) (name : String) :
    verdict? m (listed name) s.filter = some (s.accepts name) := by
  have hexcluded : verdict? m (listed name) (if s.excluded.isEmpty then [] else
      [("$and", .array (s.excluded.map differs))]) = some (s.excluded.all (name != ·)) :=
    verdict?_and fun x _ => verdict?_differs x name
  have hincluded : verdict? m (listed name) (if s.included.isEmpty then [] else
      [("$or", .array (s.included.map equals))]) =
      some (s.included.isEmpty || s.included.any fun x => Text.equalsIgnoringCase x name) :=
    verdict?_or fun x _ => verdict?_equals hm x name
  have hcontains : s.excluded.all (name != ·) = !s.excluded.contains name := by
    rw [List.contains_eq_any_beq, List.not_any_eq_all_not]
    rfl
  unfold filter accepts
  rw [verdict?_append, hexcluded, hincluded, hcontains]
  rfl

end DatabaseSelection

/-! ## Collections -/

namespace CollectionSelection

variable {m : Matcher}

/-- What the server lists of a collection or a view. -/
def listed (name : String) (isView : Bool) : Document :=
  [("name", .string name), ("type", .string (if isView then "view" else "collection"))]

/-- The selections that listings make. -/
inductive Made : CollectionSelection → Prop
  | everything : Made everything
  | physical : Made physical
  | ofPatterns {texts : List String} {explain : String → Option String} {s : CollectionSelection}
    (h : ofPatternsWith explain texts = .ok s) : Made s

/-- All patterns of a selection have been read from their texts. -/
def Readable (s : CollectionSelection) : Prop := ∀ p ∈ s.patterns, NamePattern.read p.text = .ok p

theorem readWith_eq_ok {text : String} {account : Option String} {p : NamePattern} :
    NamePattern.readWith account text = .ok p ↔
      ∃ e, Pattern.read? text = some e ∧ Pattern.memory e ≤ Pattern.memoryLimit ∧ p = ⟨text, e⟩ := by
  unfold NamePattern.readWith
  constructor
  · intro h
    split at h
    · cases h
    · rename_i e hexpr
      split at h
      · cases h
      · rename_i hsize
        cases h
        exact ⟨e, hexpr, Nat.le_of_not_lt hsize, rfl⟩
  · rintro ⟨e, hexpr, hsize, rfl⟩
    rw [hexpr]
    exact if_neg (Nat.not_lt_of_le hsize)

/-- The account that would be given of a mistake has no part in a pattern. -/
theorem readWith_eq_ok_iff {text : String} {account : Option String} {p : NamePattern} :
    NamePattern.readWith account text = .ok p ↔ NamePattern.read text = .ok p :=
  readWith_eq_ok.trans readWith_eq_ok.symm

theorem read_text {text : String} {account : Option String} {p : NamePattern}
    (h : NamePattern.readWith account text = .ok p) : NamePattern.read p.text = .ok p := by
  obtain ⟨e, hexpr, hsize, rfl⟩ := readWith_eq_ok.1 h
  exact readWith_eq_ok.2 ⟨e, hexpr, hsize, rfl⟩

theorem read_of_mapM {texts : List String} {explain : String → Option String} {patterns : List NamePattern}
    (h : (texts.mapM fun text => NamePattern.readWith (explain text) text) = .ok patterns) :
    ∀ p ∈ patterns, NamePattern.read p.text = .ok p := by
  induction texts generalizing patterns with
  | nil =>
    cases h
    exact fun p hp => by cases hp
  | cons text rest ih =>
    rw [List.mapM_cons] at h
    cases hread : NamePattern.readWith (explain text) text with
    | error fault =>
      rw [hread] at h
      cases h
    | ok first =>
      cases hrest : rest.mapM fun text => NamePattern.readWith (explain text) text with
      | error fault =>
        rw [hread, hrest] at h
        cases h
      | ok others =>
        rw [hread, hrest] at h
        cases h
        exact List.forall_mem_cons.2 ⟨read_text hread, ih hrest⟩

theorem Made.readable {s : CollectionSelection} (h : s.Made) : s.Readable := by
  cases h with
  | everything => exact fun p hp => by cases hp
  | physical => exact fun p hp => by cases hp
  | @ofPatterns texts explain s h =>
    unfold CollectionSelection.ofPatternsWith at h
    cases hpatterns : texts.mapM fun text => NamePattern.readWith (explain text) text with
    | error fault =>
      rw [hpatterns] at h
      cases h
    | ok patterns =>
      rw [hpatterns] at h
      cases h
      exact read_of_mapM hpatterns

theorem verdict?_condition (hm : FindsPatterns m) {p : NamePattern} (hp : NamePattern.read p.text = .ok p)
    (name : String) (isView : Bool) :
    verdict? m (listed name isView) [("name", .regex p.text "i")] = some (p.occursIn name) := by
  have hmeets : fieldVerdict? m (listed name isView) "name" (.regex p.text "i") =
      some (m p.text "i" name) := rfl
  rw [hm p.text p hp] at hmeets
  exact verdict?_single hmeets

theorem verdict?_type (physicalOnly : Bool) (name : String) (isView : Bool) :
    verdict? m (listed name isView) (if physicalOnly then [("type", .string "collection")] else []) =
      some (!(physicalOnly && isView)) := by
  cases physicalOnly <;> cases isView <;> rfl

theorem verdict?_filter (hm : FindsPatterns m) {s : CollectionSelection} (hs : s.Readable) (name : String)
    (isView : Bool) : verdict? m (listed name isView) s.filter = some (s.accepts name isView) := by
  have hpatterns : verdict? m (listed name isView) (if s.patterns.isEmpty then [] else
      [("$or", .array (s.patterns.map NamePattern.condition))]) =
      some (s.patterns.isEmpty || s.patterns.any fun p => p.occursIn name) :=
    verdict?_or fun p hp => verdict?_condition hm (hs p hp) name isView
  unfold filter accepts
  rw [verdict?_append, hpatterns, verdict?_type]
  exact congrArg some (Bool.and_comm ..)

end CollectionSelection

/-- Filter documents say what is accepted. On a server whose regular expressions find names up to ASCII
case, the filter of every selection of databases is read, and holds of just the names that the selection
accepts; on a server whose patterns find what they find here, the filter of every selection of
collections that a listing makes holds of just the collections and views that it accepts. -/
theorem filters_say_what_is_accepted :
    (∀ m, FindsNames m → ∀ (s : DatabaseSelection) (name : String),
      verdict? m [("name", .string name)] s.filter = some (s.accepts name)) ∧
    ∀ m, FindsPatterns m → ∀ s : CollectionSelection, s.Made → ∀ (name : String) (isView : Bool),
      verdict? m [("name", .string name), ("type", .string (if isView then "view" else "collection"))]
        s.filter = some (s.accepts name isView) :=
  ⟨fun _ hm s name => DatabaseSelection.verdict?_filter hm s name,
    fun _ hm _ hs name isView => CollectionSelection.verdict?_filter hm hs.readable name isView⟩

/-! ## Matchers -/

/-- The matcher that finds a name by escaping it, between `^` and `$`. -/
def nameMatcher : Matcher := fun pattern _ name =>
  Text.equalsIgnoringCase pattern ("^" ++ Pattern.escapeText name ++ "$")

theorem findsNames_nameMatcher : FindsNames nameMatcher := by
  intro wanted name
  unfold nameMatcher Text.equalsIgnoringCase
  rw [Bool.eq_iff_iff, beq_iff_eq, beq_iff_eq]
  have hanchored : ∀ s, (("^" ++ Pattern.escapeText s ++ "$").toList.map Char.toLower) =
      '^' :: ((s.toList.map Char.toLower).flatMap Pattern.escaped ++ ['$']) := by
    intro s
    rw [String.toList_append, String.toList_append, Pattern.toList_escapeText, List.map_append,
      List.map_append, Pattern.map_toLower_escaped]
    rfl
  rw [hanchored, hanchored]
  constructor
  · intro h
    exact Pattern.escaped_injective (List.append_cancel_right (List.cons.inj h).2)
  · intro h
    rw [h]

/-- The matcher that reads patterns as they are read here. -/
def patternMatcher : Matcher := fun text _ name =>
  match NamePattern.read text with
  | .ok p => p.occursIn name
  | .error _ => false

theorem findsPatterns_patternMatcher : FindsPatterns patternMatcher := by
  intro text p hp name
  unfold patternMatcher
  rw [hp]

/-- Two filters on servers of these kinds. The included name has another case and a character with a
meaning, and the excluded one is given as it is; the pattern finds names of four characters. -/
theorem filters_say_what_is_accepted_of_two : FindsNames nameMatcher ∧ FindsPatterns patternMatcher ∧
    verdict? nameMatcher [("name", .string "db.1")] (DatabaseSelection.filter ⟨["db2"], ["DB.1", "db2"]⟩) =
      some true ∧
    verdict? nameMatcher [("name", .string "db2")] (DatabaseSelection.filter ⟨["db2"], ["DB.1", "db2"]⟩) =
      some false ∧
    ∃ s, CollectionSelection.ofPatterns ["^....$"] = .ok s ∧
      verdict? patternMatcher [("name", .string "view"), ("type", .string "view")] s.filter = some true := by
  obtain ⟨hdatabases, hcollections⟩ := filters_say_what_is_accepted
  have hread : (CollectionSelection.ofPatterns ["^....$"]).toOption.any (·.accepts "view" true) = true := by
    decide +kernel
  obtain ⟨s, hs, haccepts⟩ : ∃ s, CollectionSelection.ofPatterns ["^....$"] = .ok s ∧
      s.accepts "view" true = true := by
    cases hmade : CollectionSelection.ofPatterns ["^....$"] with
    | error fault =>
      rw [hmade] at hread
      cases hread
    | ok s =>
      rw [hmade] at hread
      exact ⟨s, rfl, hread⟩
  refine ⟨findsNames_nameMatcher, findsPatterns_patternMatcher, ?_, ?_, s, hs, ?_⟩
  · rw [hdatabases nameMatcher findsNames_nameMatcher]
    decide
  · rw [hdatabases nameMatcher findsNames_nameMatcher]
    decide
  · have hverdict := hcollections patternMatcher findsPatterns_patternMatcher s (.ofPatterns hs) "view" true
    rw [haccepts] at hverdict
    exact hverdict

end MongoMetrics
