/-
Names as words. The words of a text are the runs of letters and digits that are left when its dollar
signs are taken out; its name is these words, joined by underscores (`toList_normalize`). The loop looks
back at the character that it wrote last, so what it writes is said first for each answer to whether
that was an underscore (`written`). Main statement (`normalize_joins_words`): the form of names, which
nothing but the words decides, and that paths of two texts with words have the name of each.
-/
import MongoMetrics.Extraction.MetricName
import Mathlib.Data.List.Chain
import Mathlib.Data.List.DropRight

namespace MongoMetrics.Extraction

/-! ## Words -/

/-- The runs of letters and digits between foreign characters; dollar signs do not count. -/
def words (s : List Char) : List (List Char) :=
  ((s.filter (· ≠ '$')).splitOnP fun c => !isNameChar c).filter (· ≠ [])

/-- Letters and digits, and at least one. -/
structure IsRun (w : List Char) : Prop where
  ne_nil : w ≠ []
  plain : ∀ c ∈ w, isNameChar c = true

theorem ne_of_isNameChar {c x : Char} (hc : isNameChar c = true) (hx : isNameChar x = false) : c ≠ x :=
  fun he => by rw [he, hx] at hc; cases hc

theorem words_append_dollar (a b : List Char) : words (a ++ '$' :: b) = words (a ++ b) := by
  unfold words
  rw [List.filter_append, List.filter_append, List.filter_cons_of_neg (by simp)]

/-- A foreign character ends a word, and it is part of none. -/
theorem words_append_foreign {c : Char} (hd : c ≠ '$') (hc : isNameChar c = false) (a b : List Char) :
    words (a ++ c :: b) = words a ++ words b := by
  unfold words
  rw [List.filter_append, List.filter_cons_of_pos (by simpa using hd),
    List.splitOnP_append_cons _ _ (by simpa using hc), List.filter_append]

theorem words_of_isRun {w : List Char} (h : IsRun w) : words w = [w] := by
  have hkeep : w.filter (· ≠ '$') = w := List.filter_eq_self.2 fun c hc => by
    simpa using ne_of_isNameChar (h.plain c hc) (by decide)
  unfold words
  rw [hkeep, List.splitOnP_eq_singleton fun c hc => by simpa using h.plain c hc,
    List.filter_cons_of_pos (by simpa using h.ne_nil), List.filter_nil]

theorem flatten_modifyHead_cons (c : Char) {parts : List (List Char)} (h : parts ≠ []) :
    (parts.modifyHead (List.cons c)).flatten = c :: parts.flatten := by
  cases parts with
  | nil => exact absurd rfl h
  | cons part rest => rfl

theorem flatten_splitOnP (p : Char → Bool) (s : List Char) :
    (s.splitOnP p).flatten = s.filter fun c => !p c := by
  induction s with
  | nil => rfl
  | cons c rest ih =>
    rw [List.splitOnP_cons_eq_if_modifyHead]
    split
    · rename_i hc
      rw [List.flatten_cons, List.nil_append, ih, List.filter_cons_of_neg (by simp [hc])]
    · rename_i hc
      rw [flatten_modifyHead_cons c (List.splitOnP_ne_nil p rest), ih,
        List.filter_cons_of_pos (by simp [hc])]

theorem flatten_filter_ne_nil (parts : List (List Char)) :
    (parts.filter (· ≠ [])).flatten = parts.flatten := by
  induction parts with
  | nil => rfl
  | cons part rest ih =>
    by_cases h : part = []
    · rw [List.filter_cons_of_neg (by simp [h]), ih, h, List.flatten_cons, List.nil_append]
    · rw [List.filter_cons_of_pos (by simp [h]), List.flatten_cons, List.flatten_cons, ih]

/-- The words hold all letters and digits of the text, in order. -/
theorem flatten_words (s : List Char) : (words s).flatten = s.filter isNameChar := by
  unfold words
  rw [flatten_filter_ne_nil, flatten_splitOnP, List.filter_filter]
  refine List.filter_congr fun c _ => ?_
  cases hc : isNameChar c with
  | true => simpa using ne_of_isNameChar hc (by decide)
  | false => rfl

theorem isRun_of_mem_words {s w : List Char} (h : w ∈ words s) : IsRun w where
  ne_nil := by simpa using (List.mem_filter.1 h).2
  plain := fun c hc => by
    have hmem : c ∈ (words s).flatten := List.mem_flatten.2 ⟨w, h, hc⟩
    rw [flatten_words] at hmem
    exact (List.mem_filter.1 hmem).2

theorem words_eq_nil {s : List Char} : words s = [] ↔ ∀ c ∈ s, isNameChar c = false := by
  have hnil : words s = [] ↔ s.filter isNameChar = [] := by
    rw [← flatten_words]
    refine ⟨fun h => by rw [h]; rfl, fun h => ?_⟩
    refine List.eq_nil_iff_forall_not_mem.2 fun w hw => (isRun_of_mem_words hw).ne_nil ?_
    exact List.flatten_eq_nil_iff.1 h w hw
  rw [hnil, List.filter_eq_nil_iff]
  simp only [Bool.not_eq_true]

/-! ## Joined words -/

/-- Words with one underscore between each two. -/
def joined (ws : List (List Char)) : List Char := ['_'].intercalate ws

theorem joined_cons {ws : List (List Char)} (h : ws ≠ []) (w : List Char) :
    joined (w :: ws) = w ++ '_' :: joined ws := by
  unfold joined
  rw [List.intercalate_cons_of_ne_nil h, List.append_assoc]
  rfl

theorem joined_singleton (w : List Char) : joined [w] = w := List.intercalate_singleton

theorem joined_append {ws vs : List (List Char)} (hw : ws ≠ []) (hv : vs ≠ []) :
    joined (ws ++ vs) = joined ws ++ '_' :: joined vs := by
  induction ws with
  | nil => exact absurd rfl hw
  | cons w ws ih =>
    cases ws with
    | nil => rw [List.singleton_append, joined_cons hv, joined_singleton]
    | cons w' ws =>
      have hne : w' :: ws ≠ [] := List.cons_ne_nil w' ws
      rw [List.cons_append, joined_cons (List.append_ne_nil_of_left_ne_nil hne vs), ih hne,
        joined_cons hne, List.append_assoc, List.cons_append]

theorem mem_joined {ws : List (List Char)} {c : Char} (h : c ∈ joined ws) :
    c = '_' ∨ c ∈ ws.flatten := by
  induction ws with
  | nil => cases h
  | cons w ws ih =>
    rw [List.flatten_cons, List.mem_append]
    by_cases hws : ws = []
    · rw [hws, joined_singleton] at h
      exact .inr (.inl h)
    · rw [joined_cons hws, List.mem_append, List.mem_cons] at h
      rcases h with h | h | h
      · exact .inr (.inl h)
      · exact .inl h
      · exact (ih h).imp_right .inr

section Runs

variable {ws : List (List Char)} (h : ∀ w ∈ ws, IsRun w)

include h

/-- Joined words have these words. -/
theorem words_joined : words (joined ws) = ws := by
  induction ws with
  | nil => rfl
  | cons w ws ih =>
    rw [List.forall_mem_cons] at h
    cases ws with
    | nil => rw [joined_singleton, words_of_isRun h.1]
    | cons w' ws =>
      rw [joined_cons (by simp), words_append_foreign (by decide) (by decide), words_of_isRun h.1,
        ih h.2, List.singleton_append]

theorem joined_eq_nil : joined ws = [] ↔ ws = [] := by
  refine ⟨fun hnil => ?_, fun hnil => by rw [hnil]; rfl⟩
  have hwords := words_joined h
  rw [hnil] at hwords
  exact hwords.symm

theorem head?_joined : (joined ws).head? = ws.flatten.head? := by
  cases ws with
  | nil => rfl
  | cons w ws =>
    obtain ⟨c, rest, rfl⟩ := List.exists_cons_of_ne_nil (h w (List.mem_cons_self ..)).ne_nil
    cases ws with
    | nil => rw [joined_singleton]; rfl
    | cons w' ws => rw [joined_cons (by simp)]; rfl

theorem isNameChar_of_head?_joined {c : Char} (hc : (joined ws).head? = some c) :
    isNameChar c = true := by
  rw [head?_joined h] at hc
  obtain ⟨w, hw, hcw⟩ := List.mem_flatten.1 (List.mem_of_head? hc)
  exact (h w hw).plain c hcw

theorem isNameChar_of_getLast?_joined {c : Char} (hc : (joined ws).getLast? = some c) :
    isNameChar c = true := by
  induction ws with
  | nil => cases hc
  | cons w ws ih =>
    rw [List.forall_mem_cons] at h
    cases ws with
    | nil =>
      rw [joined_singleton] at hc
      exact h.1.plain c (List.mem_of_getLast? hc)
    | cons w' ws =>
      have hne : joined (w' :: ws) ≠ [] := fun hnil => by cases (joined_eq_nil h.2).1 hnil
      rw [joined_cons (by simp), List.getLast?_append_of_ne_nil _ (by simp),
        List.getLast?_cons_of_ne_nil hne] at hc
      exact ih h.2 hc

/-- Of two characters side by side, one is a letter or a digit. -/
theorem isChain_joined :
    (joined ws).IsChain fun a b => isNameChar a = true ∨ isNameChar b = true := by
  induction ws with
  | nil => exact .nil
  | cons w ws ih =>
    rw [List.forall_mem_cons] at h
    have hw : w.IsChain fun a b => isNameChar a = true ∨ isNameChar b = true :=
      List.Pairwise.isChain (List.pairwise_of_forall_mem_list fun a ha _ _ => .inl (h.1.plain a ha))
    cases ws with
    | nil => rwa [joined_singleton]
    | cons w' ws =>
      rw [joined_cons (by simp), List.isChain_append]
      refine ⟨hw, ?_, fun a ha _ _ => .inl (h.1.plain a (List.mem_of_getLast? ha))⟩
      rw [List.isChain_cons]
      exact ⟨fun b hb => .inr (isNameChar_of_head?_joined h.2 hb), ih h.2⟩

end Runs

/-! ## The loop -/

/-- What the loop writes of a text. A `gap` is open when it wrote an underscore last. -/
def written (gap : Bool) : List Char → List Char
  | [] => []
  | c :: rest =>
    if c == '$' then written gap rest
    else if isNameChar c then c :: written false rest
    else if gap then written true rest
    else '_' :: written true rest

theorem reverse_foldl_extend (s reversed : List Char) :
    (s.foldl extend reversed).reverse =
      reversed.reverse ++ written (reversed.head? == some '_') s := by
  induction s generalizing reversed with
  | nil => simp [written]
  | cons c rest ih =>
    rw [List.foldl_cons, ih, written]
    unfold extend
    split
    · rfl
    · split
      · rename_i hc
        have hgap : (some c == some '_') = false := by
          simpa using ne_of_isNameChar hc (by decide)
        rw [List.head?_cons, hgap, List.reverse_cons, List.append_assoc]
        rfl
      · split
        · rename_i hgap
          rw [hgap]
        · rw [List.head?_cons, List.reverse_cons, List.append_assoc]
          rfl

/-- An underscore that is written first is trimmed, as if a gap had been open from the start. -/
theorem dropWhile_written (gap : Bool) (s : List Char) :
    (written gap s).dropWhile (· == '_') = written true s := by
  induction s generalizing gap with
  | nil => rfl
  | cons c rest ih =>
    unfold written
    split
    · exact ih gap
    · split
      · rename_i hc
        exact List.dropWhile_cons_of_neg (by simpa using ne_of_isNameChar hc (by decide))
      · cases gap with
        | true => exact ih true
        | false => exact ih true

/-- The text without the underscores at its end. -/
def trimEnd (s : List Char) : List Char := s.rdropWhile (· == '_')

theorem trimEnd_cons (c : Char) (s : List Char) :
    trimEnd (c :: s) = if trimEnd s = [] then trimEnd [c] else c :: trimEnd s := by
  unfold trimEnd List.rdropWhile
  rw [List.reverse_cons, List.dropWhile_append]
  by_cases h : s.reverse.dropWhile (· == '_') = []
  · simp [h]
  · simp [h]

theorem trimEnd_cons_of_isNameChar {c : Char} (hc : isNameChar c = true) (s : List Char) :
    trimEnd (c :: s) = c :: trimEnd s := by
  have hself : trimEnd [c] = [c] := by
    rw [trimEnd, List.rdropWhile_singleton, if_neg (by simpa using ne_of_isNameChar hc (by decide))]
  rw [trimEnd_cons, hself]
  split
  · rename_i hnil
    rw [hnil]
  · rfl

/-- An underscore stays when words follow it. -/
theorem append_trimEnd_underscore (w : List Char) {s : List Char} {ws : List (List Char)}
    (h : ∀ w ∈ ws, IsRun w) (hs : trimEnd s = joined ws) :
    w ++ trimEnd ('_' :: s) = joined (w :: ws) := by
  rw [trimEnd_cons, hs]
  by_cases hws : ws = []
  · rw [if_pos ((joined_eq_nil h).2 hws), hws, joined_singleton]
    exact List.append_nil w
  · rw [if_neg (mt (joined_eq_nil h).1 hws), joined_cons hws]

/-- But for the underscore at its end, the loop writes joined words. With a gap open, the words of the
text begin anew; when a word `w` has been begun, they go on with it. -/
theorem trimEnd_written (s : List Char) :
    trimEnd (written true s) = joined (words s) ∧
    ∀ w, IsRun w → w ++ trimEnd (written false s) = joined (words (w ++ s)) := by
  induction s with
  | nil =>
    refine ⟨rfl, fun w hw => ?_⟩
    rw [List.append_nil, words_of_isRun hw, joined_singleton]
    exact List.append_nil w
  | cons c rest ih =>
    obtain ⟨hopen, hbegun⟩ := ih
    unfold written
    split
    · rename_i hd
      rw [beq_iff_eq.1 hd]
      exact ⟨hopen.trans (congrArg joined (words_append_dollar [] rest).symm),
        fun w hw => (hbegun w hw).trans (congrArg joined (words_append_dollar w rest).symm)⟩
    · rename_i hd
      split
      · rename_i hc
        have hone : IsRun [c] := ⟨List.cons_ne_nil c [], by simpa using hc⟩
        rw [trimEnd_cons_of_isNameChar hc]
        refine ⟨hbegun [c] hone, fun w hw => ?_⟩
        have hmore : IsRun (w ++ [c]) := ⟨by simp, List.forall_mem_append.2 ⟨hw.plain, hone.plain⟩⟩
        simpa only [List.append_assoc, List.singleton_append] using hbegun (w ++ [c]) hmore
      · rename_i hc
        have hcut := words_append_foreign (c := c) (by simpa using hd) (by simpa using hc)
        refine ⟨hopen.trans (congrArg joined (hcut [] rest).symm), fun w hw => ?_⟩
        rw [hcut, words_of_isRun hw]
        exact append_trimEnd_underscore w (fun _ => isRun_of_mem_words) hopen

/-! ## Names -/

theorem toList_normalize (raw : String) : (normalize raw).toList = joined (words raw.toList) := by
  have htrim : ∀ s, trimUnderscores s = trimEnd (s.dropWhile (· == '_')) := fun _ => rfl
  unfold normalize
  rw [String.toList_ofList, reverse_foldl_extend, List.reverse_nil, List.nil_append, htrim,
    dropWhile_written, (trimEnd_written raw.toList).1]

/-- A name has the words that it was made from. -/
theorem words_normalize (raw : String) : words (normalize raw).toList = words raw.toList := by
  rw [toList_normalize, words_joined fun _ => isRun_of_mem_words]

/-- The first letter or digit of a text begins its name. -/
theorem head?_normalize (raw : String) :
    (normalize raw).toList.head? = (raw.toList.filter isNameChar).head? := by
  rw [toList_normalize, head?_joined fun _ => isRun_of_mem_words, flatten_words]

/-- A name has the letters and digits of its text, in order. -/
theorem filter_normalize (raw : String) :
    (normalize raw).toList.filter isNameChar = raw.toList.filter isNameChar := by
  rw [← flatten_words, ← flatten_words, words_normalize]

theorem normalize_eq_intercalate (raw : String) :
    normalize raw = "_".intercalate ((words raw.toList).map String.ofList) := by
  rw [← String.toList_inj, toList_normalize, String.toList_intercalate, List.map_map]
  simp [joined, Function.comp_def]

theorem normalize_eq_of_words {a b : String} (h : words a.toList = words b.toList) :
    normalize a = normalize b := by
  rw [← String.toList_inj, toList_normalize, toList_normalize, h]

theorem normalize_eq_empty {raw : String} :
    normalize raw = "" ↔ ∀ c ∈ raw.toList, isNameChar c = false := by
  rw [← String.toList_inj, toList_normalize, ← words_eq_nil]
  exact joined_eq_nil fun _ => isRun_of_mem_words

theorem words_ne_nil {s : List Char} (h : ∃ c ∈ s, isNameChar c = true) : words s ≠ [] := by
  obtain ⟨c, hc, hname⟩ := h
  intro hnil
  rw [words_eq_nil.1 hnil c hc] at hname
  cases hname

/-- A separator between two texts with words becomes an underscore. -/
theorem normalize_append_dot {a b : String} (ha : ∃ c ∈ a.toList, isNameChar c = true)
    (hb : ∃ c ∈ b.toList, isNameChar c = true) :
    normalize (a ++ "." ++ b) = normalize a ++ "_" ++ normalize b := by
  have hpath : words (a ++ "." ++ b).toList = words a.toList ++ words b.toList := by
    rw [String.toList_append, String.toList_append, List.append_assoc]
    exact words_append_foreign (by decide) (by decide) _ _
  rw [← String.toList_inj, toList_normalize, hpath, joined_append (words_ne_nil ha) (words_ne_nil hb),
    String.toList_append, String.toList_append, toList_normalize, toList_normalize, List.append_assoc]
  rfl

/-- Names are the words of a text joined by underscores. So a text without letters and digits has the
empty name, no name begins or ends with an underscore or has two side by side, names are their own
names, and where both parts of a path have words its name is made of theirs. -/
theorem normalize_joins_words :
    (∀ raw : String,
      normalize raw = "_".intercalate ((words raw.toList).map String.ofList) ∧
      (normalize raw = "" ↔ ∀ c ∈ raw.toList, isNameChar c = false) ∧
      (normalize raw).toList.head? ≠ some '_' ∧ (normalize raw).toList.getLast? ≠ some '_' ∧
      ¬ ['_', '_'] <:+: (normalize raw).toList ∧
      normalize (normalize raw) = normalize raw) ∧
    ∀ a b : String, (∃ c ∈ a.toList, isNameChar c = true) → (∃ c ∈ b.toList, isNameChar c = true) →
      normalize (a ++ "." ++ b) = normalize a ++ "_" ++ normalize b := by
  refine ⟨fun raw => ?_, fun a b ha hb => normalize_append_dot ha hb⟩
  have hruns : ∀ w ∈ words raw.toList, IsRun w := fun _ => isRun_of_mem_words
  refine ⟨normalize_eq_intercalate raw, normalize_eq_empty, ?_, ?_, ?_,
    normalize_eq_of_words (words_normalize raw)⟩
  · rw [toList_normalize]
    exact fun h => absurd (isNameChar_of_head?_joined hruns h) (by decide)
  · rw [toList_normalize]
    exact fun h => absurd (isNameChar_of_getLast?_joined hruns h) (by decide)
  · rw [toList_normalize]
    rintro ⟨before, after, hparts⟩
    have hchain := isChain_joined hruns
    rw [← hparts] at hchain
    rcases List.isChain_pair.1 hchain.left_of_append.right_of_append with h | h
    · cases h
    · cases h

theorem normalize_joins_words_of_operators :
    (∃ c ∈ "_$a$$b._".toList, isNameChar c = true) ∧ (∃ c ∈ "$x  ü-9$".toList, isNameChar c = true) ∧
      normalize ("_$a$$b._" ++ "." ++ "$x  ü-9$") = "ab_x_9" := by
  have ha : ∃ c ∈ "_$a$$b._".toList, isNameChar c = true := ⟨'a', by decide, rfl⟩
  have hb : ∃ c ∈ "$x  ü-9$".toList, isNameChar c = true := ⟨'x', by decide, rfl⟩
  refine ⟨ha, hb, (normalize_joins_words.2 _ _ ha hb).trans ?_⟩
  decide

end MongoMetrics.Extraction
