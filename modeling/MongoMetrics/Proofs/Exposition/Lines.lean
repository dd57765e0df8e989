/-
Lines of an exposition read back. A reader of escaped text meets a backslash only where the writer
put one, so it undoes the escapes of any text whatever (`readHelp_escaped`, `readValue_escaped`); the
names and the amounts hold none of the characters that stand between them. `read?_text` says that a
line reads back as itself, `newline_not_mem_text` that it is one line. Escaping is also what replacing
one character after the other throughout a text does, as long as backslashes come first
(`escapeHelp_eq_replaceAll`, `escapeValue_eq_replaceAll`).
-/
import MongoMetrics.Exposition.Reader
import Mathlib.Data.List.Basic

namespace MongoMetrics.Exposition

/-! ## Escapes -/

theorem toList_escapeHelp (s : String) : (escapeHelp s).toList = s.toList.flatMap helpChar :=
  String.toList_ofList

theorem toList_escapeValue (s : String) : (escapeValue s).toList = s.toList.flatMap valueChar :=
  String.toList_ofList

/-- A character of a help text stands for itself, or is named by the one behind a backslash. -/
theorem helpChar_cases (c : Char) :
    (∃ e, helpChar c = ['\\', e] ∧ Line.helpEscape? e = some c ∧ e ≠ '\n') ∨
      helpChar c = [c] ∧ c ≠ '\\' ∧ c ≠ '\n' := by
  by_cases hb : c = '\\'
  · subst hb
    exact .inl ⟨'\\', by decide⟩
  by_cases hn : c = '\n'
  · subst hn
    exact .inl ⟨'n', by decide⟩
  refine .inr ⟨?_, hb, hn⟩
  rw [helpChar]
  · exact hb
  · exact hn

/-- The same of a label value, where no quote stands for itself either. -/
theorem valueChar_cases (c : Char) :
    (∃ e, valueChar c = ['\\', e] ∧ Line.valueEscape? e = some c ∧ e ≠ '\n') ∨
      valueChar c = [c] ∧ c ≠ '\\' ∧ c ≠ '\n' ∧ c ≠ '"' := by
  by_cases hb : c = '\\'
  · subst hb
    exact .inl ⟨'\\', by decide⟩
  by_cases hn : c = '\n'
  · subst hn
    exact .inl ⟨'n', by decide⟩
  by_cases hq : c = '"'
  · subst hq
    exact .inl ⟨'"', by decide⟩
  refine .inr ⟨?_, hb, hn, hq⟩
  rw [valueChar]
  · exact hb
  · exact hn
  · exact hq

theorem newline_not_mem_helpChar (c : Char) : '\n' ∉ helpChar c := by
  rcases helpChar_cases c with ⟨e, he, -, hn⟩ | ⟨he, -, hn⟩
  · simp [he, Ne.symm hn]
  · simp [he, Ne.symm hn]

theorem newline_not_mem_valueChar (c : Char) : '\n' ∉ valueChar c := by
  rcases valueChar_cases c with ⟨e, he, -, hn⟩ | ⟨he, -, hn, -⟩
  · simp [he, Ne.symm hn]
  · simp [he, Ne.symm hn]

/-- Every `c` becomes `new`. -/
def replaceAll (c : Char) (new : List Char) (s : List Char) : List Char :=
  s.flatMap fun x => if x = c then new else [x]

/-- Escaping a help text is two replacements in a row, backslashes first. -/
theorem escapeHelp_eq_replaceAll (s : String) : (escapeHelp s).toList =
    replaceAll '\n' ['\\', 'n'] (replaceAll '\\' ['\\', '\\'] s.toList) := by
  rw [toList_escapeHelp, replaceAll, replaceAll, List.flatMap_assoc]
  refine List.flatMap_congr fun c _ => ?_
  by_cases hb : c = '\\'
  · subst hb
    decide
  by_cases hn : c = '\n'
  · subst hn
    decide
  simp [helpChar, hb, hn]

/-- Escaping a label value is three replacements in a row, backslashes first. -/
theorem escapeValue_eq_replaceAll (s : String) : (escapeValue s).toList =
    replaceAll '"' ['\\', '"']
      (replaceAll '\n' ['\\', 'n'] (replaceAll '\\' ['\\', '\\'] s.toList)) := by
  rw [toList_escapeValue, replaceAll, replaceAll, replaceAll, List.flatMap_assoc, List.flatMap_assoc]
  refine List.flatMap_congr fun c _ => ?_
  by_cases hb : c = '\\'
  · subst hb
    decide
  by_cases hn : c = '\n'
  · subst hn
    decide
  by_cases hq : c = '"'
  · subst hq
    decide
  simp [valueChar, hb, hn, hq]

namespace Line

theorem readHelp_escaped (s : List Char) : readHelp (s.flatMap helpChar) = some s := by
  induction s with
  | nil => rfl
  | cons c s ih =>
    rw [List.flatMap_cons]
    rcases helpChar_cases c with ⟨e, he, hc, -⟩ | ⟨he, hb, -⟩
    · rw [he]
      simp [readHelp, hc, ih]
    · rw [he]
      simp [readHelp, hb, ih]

/-- The value is read up to its own quote, whatever stands behind. -/
theorem readValue_escaped (s rest : List Char) :
    readValue (s.flatMap valueChar ++ '"' :: rest) = some (s, rest) := by
  induction s with
  | nil => rfl
  | cons c s ih =>
    rw [List.flatMap_cons]
    rcases valueChar_cases c with ⟨e, he, hc, -⟩ | ⟨he, hb, -, hq⟩
    · rw [he]
      simp [readValue, hc, ih]
    · rw [he]
      simp [readValue, hb, ih]

/-! ## Labels -/

theorem toList_labelText (l : String × String) (rest : List Char) : (labelText l).toList ++ rest =
    l.1.toList ++ '=' :: '"' :: (l.2.toList.flatMap valueChar ++ '"' :: rest) := by
  simp [labelText, toList_escapeValue]

theorem readLabel_text {l : String × String} (h : isLabelName l.1 = true) (rest : List Char) :
    readLabel ((labelText l).toList ++ rest) = some (l, rest) := by
  have he : '=' ∉ l.1.toList := fun hm => absurd (continuesLabel_of_mem h '=' hm) (by decide)
  rw [toList_labelText, readLabel, Text.splitFirst_append _ he]
  simp only [String.ofList_toList, h, if_true, readValue_escaped, Option.map_some]

theorem readLabels_of_comma {s rest : List Char} {l : String × String}
    (h : readLabel s = some (l, ',' :: rest)) :
    readLabels s = (readLabels rest).map fun (more, after) => (l :: more, after) := by
  rw [readLabels]
  split <;> simp_all

theorem readLabels_of_brace {s rest : List Char} {l : String × String}
    (h : readLabel s = some (l, '\x7d' :: rest)) : readLabels s = some ([l], rest) := by
  rw [readLabels]
  split <;> simp_all

theorem readLabels_text (l : String × String) (ls : List (String × String))
    (h : ∀ p ∈ l :: ls, isLabelName p.1 = true) (rest : List Char) :
    readLabels ((String.intercalate "," ((l :: ls).map labelText)).toList ++ '\x7d' :: rest) =
      some (l :: ls, rest) := by
  induction ls generalizing l with
  | nil => exact readLabels_of_brace (readLabel_text (h l (by simp)) ('\x7d' :: rest))
  | cons l' ls ih =>
    have htext : (String.intercalate "," ((l :: l' :: ls).map labelText)).toList ++ '\x7d' :: rest =
        (labelText l).toList ++
          ',' :: ((String.intercalate "," ((l' :: ls).map labelText)).toList ++ '\x7d' :: rest) := by
      rw [List.map_cons, List.map_cons, String.intercalate_cons_cons]
      simp
    rw [htext, readLabels_of_comma (readLabel_text (h l (by simp)) _),
      ih l' fun p hp => h p (List.mem_cons_of_mem _ hp)]
    rfl

/-! ## Whole lines -/

/-- The names in the line are names that the format allows, and the amount stays on the line. -/
def Sound : Line → Prop
  | help name _ => isMetricName name = true
  | kind name _ => isMetricName name = true
  | sample name labels amount => isMetricName name = true ∧
      (∀ k ∈ labels.keys, isLabelName k = true) ∧ '\n' ∉ amount.toList

theorem readHeader_text {name : String} (h : isMetricName name = true) (rest : List Char) :
    readHeader (name.toList ++ ' ' :: rest) = some (name, rest) := by
  have hs : ' ' ∉ name.toList := fun hm => absurd (continuesMetric_of_mem h ' ' hm) (by decide)
  simp only [readHeader, Text.splitFirst_append _ hs, String.ofList_toList, h, if_true]

theorem kindNamed?_text (k : Kind) : kindNamed? k.text = some k := by
  cases k <;> decide

/-- The name of a sample ends where a character stands that is in no name. -/
theorem takeWhile_name {name : String} (h : isMetricName name = true) {c : Char}
    (hc : continuesMetric c = false) (rest : List Char) :
    (name.toList ++ c :: rest).takeWhile continuesMetric = name.toList ∧
      (name.toList ++ c :: rest).dropWhile continuesMetric = c :: rest := by
  rw [List.takeWhile_append_of_pos (continuesMetric_of_mem h),
    List.dropWhile_append_of_pos (continuesMetric_of_mem h)]
  simp [hc]

theorem readSample_of_blank {name : String} (h : isMetricName name = true) (amount : List Char) :
    readSample (name.toList ++ ' ' :: amount) = some (sample name {} (String.ofList amount)) := by
  obtain ⟨ht, hd⟩ := takeWhile_name h (show continuesMetric ' ' = false by decide) amount
  simp only [readSample, ht, hd, String.ofList_toList, h, if_true]

theorem readSample_of_brace {name : String} (h : isMetricName name = true) {rest amount : List Char}
    {labels : List (String × String)} (hl : readLabels rest = some (labels, ' ' :: amount)) :
    readSample (name.toList ++ '\x7b' :: rest) =
      some (sample name (Keyed.ofList labels) (String.ofList amount)) := by
  obtain ⟨ht, hd⟩ := takeWhile_name h (show continuesMetric '\x7b' = false by decide) rest
  simp only [readSample, ht, hd, String.ofList_toList, h, if_true, hl]

theorem readSample_text {name : String} {labels : Labels} (hn : isMetricName name = true)
    (hl : ∀ k ∈ labels.keys, isLabelName k = true) (amount : String) :
    readSample (sample name labels amount).text.toList = some (sample name labels amount) := by
  cases hlist : labels.toList with
  | nil =>
    have he : labels = {} := Keyed.ext hlist
    have htext : (sample name labels amount).text.toList = name.toList ++ ' ' :: amount.toList := by
      simp [text, labelsText, Keyed.isEmpty, hlist]
    rw [htext, readSample_of_blank hn, he, String.ofList_toList]
  | cons l ls =>
    have hl' : ∀ p ∈ l :: ls, isLabelName p.1 = true := fun p hp =>
      hl p.1 (List.mem_map.2 ⟨p, hlist ▸ hp, rfl⟩)
    have htext : (sample name labels amount).text.toList = name.toList ++ '\x7b' ::
        ((String.intercalate "," ((l :: ls).map labelText)).toList ++ '\x7d' :: ' ' ::
          amount.toList) := by
      simp [text, labelsText, Keyed.isEmpty, hlist]
    rw [htext, readSample_of_brace hn (readLabels_text l ls hl' _), ← hlist, Keyed.ofList_toList,
      String.ofList_toList]

theorem afterPrefix?_append (start rest : List Char) :
    Text.afterPrefix? start (start ++ rest) = some rest :=
  Text.afterPrefix?_eq_some.2 rfl

/-- A text that begins with another character does not begin with `start`. -/
theorem afterPrefix?_eq_none {a c : Char} (h : a ≠ c) (start rest : List Char) :
    Text.afterPrefix? (a :: start) (c :: rest) = none := by
  simp [Text.afterPrefix?, h]

/-- A line reads back as itself. -/
theorem read?_text {l : Line} (h : l.Sound) : read? l.text.toList = some l := by
  cases l with
  | help name plain =>
    have htext : (help name plain).text.toList =
        "# HELP ".toList ++ (name.toList ++ ' ' :: plain.toList.flatMap helpChar) := by
      simp [text, toList_escapeHelp]
    rw [htext, read?, afterPrefix?_append]
    simp [readHeader_text h, readHelp_escaped]
  | kind name k =>
    have htext : (kind name k).text.toList =
        "# TYPE ".toList ++ (name.toList ++ ' ' :: k.text.toList) := by
      simp [text]
    have hne : Text.afterPrefix? "# HELP ".toList
        ("# TYPE ".toList ++ (name.toList ++ ' ' :: k.text.toList)) = none := rfl
    rw [htext, read?, afterPrefix?_append, hne]
    simp [readHeader_text h, kindNamed?_text]
  | sample name labels amount =>
    obtain ⟨c, rest, hc, hf, -⟩ := isIdentifier_iff.1 h.1
    have hsharp : '#' ≠ c := fun he => absurd (he ▸ hf) (by decide)
    have hcons : ∃ more, (sample name labels amount).text.toList = c :: more :=
      ⟨rest ++ (labelsText labels).toList ++ ' ' :: amount.toList, by simp [text, hc]⟩
    have hread := readSample_text h.1 h.2.1 amount
    obtain ⟨more, hmore⟩ := hcons
    rw [hmore] at hread ⊢
    rw [read?, show "# HELP ".toList = '#' :: " HELP ".toList from rfl,
      show "# TYPE ".toList = '#' :: " TYPE ".toList from rfl, afterPrefix?_eq_none hsharp,
      afterPrefix?_eq_none hsharp]
    exact hread

/-! ## One line each -/

theorem newline_not_mem_name {name : String} (h : isMetricName name = true) : '\n' ∉ name.toList :=
  fun hm => absurd (continuesMetric_of_mem h '\n' hm) (by decide)

theorem newline_not_mem_labelText {l : String × String} (h : isLabelName l.1 = true) :
    '\n' ∉ (labelText l).toList := by
  have hname : '\n' ∉ l.1.toList := fun hm => absurd (continuesLabel_of_mem h '\n' hm) (by decide)
  simp [labelText, toList_escapeValue, newline_not_mem_valueChar, hname]

theorem mem_intercalate {sep : String} {l : List String} {c : Char}
    (h : c ∈ (String.intercalate sep l).toList) : c ∈ sep.toList ∨ ∃ s ∈ l, c ∈ s.toList := by
  induction l with
  | nil => simp at h
  | cons s l ih =>
    cases l with
    | nil => exact .inr ⟨s, by simp, by simpa using h⟩
    | cons t l =>
      rw [String.intercalate_cons_cons, String.toList_append, String.toList_append, List.mem_append,
        List.mem_append] at h
      rcases h with (h | h) | h
      · exact .inr ⟨s, by simp, h⟩
      · exact .inl h
      · rcases ih h with h | ⟨u, hu, h⟩
        · exact .inl h
        · exact .inr ⟨u, List.mem_cons_of_mem _ hu, h⟩

theorem newline_not_mem_labelsText {labels : Labels} (h : ∀ k ∈ labels.keys, isLabelName k = true) :
    '\n' ∉ (labelsText labels).toList := by
  have hmid : '\n' ∉ (String.intercalate "," (labels.toList.map labelText)).toList := by
    intro hm
    rcases mem_intercalate hm with hm | ⟨s, hs, hm⟩
    · exact absurd hm (by decide)
    · obtain ⟨p, hp, rfl⟩ := List.mem_map.1 hs
      exact newline_not_mem_labelText (h p.1 (List.mem_map_of_mem hp)) hm
  unfold labelsText
  split
  · simp
  · simp [hmid, -String.toList_intercalate]

/-- A line has no line end inside. -/
theorem newline_not_mem_text {l : Line} (h : l.Sound) : '\n' ∉ l.text.toList := by
  cases l with
  | help name plain =>
    simp [text, toList_escapeHelp, newline_not_mem_helpChar, newline_not_mem_name h]
  | kind name k =>
    have hk : '\n' ∉ k.text.toList := by cases k <;> decide
    simp [text, hk, newline_not_mem_name h]
  | sample name labels amount =>
    obtain ⟨hn, hl, ha⟩ := h
    simp [text, newline_not_mem_name hn, newline_not_mem_labelsText hl, ha]

end Line

end MongoMetrics.Exposition
