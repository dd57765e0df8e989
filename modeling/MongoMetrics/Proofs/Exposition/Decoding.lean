/-
An exposition read back. The text of families is made of the lines that belong to them
(`text_eq_lines`); none of these contains a line end, so cutting the text at its line ends gives them
again, and each reads back as itself. A family's sample lines end where the next help line begins.
Main statement: `text_decodable`, for families whose names the format allows; help texts and label
values are arbitrary.
-/
import MongoMetrics.Proofs.Exposition.Lines

namespace MongoMetrics.Exposition

open MongoMetrics.Number

/-! ## Amounts -/

theorem mem_of_mem_dropTrailingZeros {ds : List Char} {c : Char} (h : c ∈ dropTrailingZeros ds) :
    c ∈ ds := by
  rw [dropTrailingZeros, List.mem_reverse] at h
  exact List.mem_reverse.1 ((List.dropWhile_sublist _).mem h)

theorem isDigit_of_mem_zeros {n : Nat} {c : Char} (h : c ∈ zeros n) : c.isDigit = true := by
  rw [(List.mem_replicate.1 h).2]
  rfl

/-- A decimal is written with digits and a point. -/
theorem mem_positional {d : Decimal} {c : Char} (h : c ∈ (positional d).toList) :
    c.isDigit = true ∨ c = '.' := by
  have hds : ∀ c ∈ Nat.toDigits 10 d.digits, c.isDigit = true := fun c hc =>
    Nat.isDigit_of_mem_toDigits (by decide) (by decide) hc
  have hpad : ∀ n, ∀ c ∈ zeros n ++ Nat.toDigits 10 d.digits, c.isDigit = true := by
    intro n c hc
    rcases List.mem_append.1 hc with hc | hc
    · exact isDigit_of_mem_zeros hc
    · exact hds c hc
  unfold positional at h
  split at h
  · rw [String.toList_ofList] at h
    rcases List.mem_append.1 h with h | h
    · exact .inl (hds c h)
    · exact .inl (isDigit_of_mem_zeros h)
  · simp only [String.toList_ofList] at h
    split at h
    · exact .inl (hpad _ c (List.mem_of_mem_take h))
    · rcases List.mem_append.1 h with h | h
      · exact .inl (hpad _ c (List.mem_of_mem_take h))
      · rcases List.mem_cons.1 h with h | h
        · exact .inr h
        · exact .inl (hpad _ c (List.mem_of_mem_drop (mem_of_mem_dropTrailingZeros h)))

theorem mem_magnitude {m : Nat} {q : Int} {c : Char} (h : c ∈ (magnitude m q).toList) :
    c.isDigit = true ∨ c = '.' := by
  unfold magnitude at h
  split at h
  · split at h
    · exact .inl (isDigit_of_mem_natText h)
    · exact mem_positional h
  · exact mem_positional h

theorem newline_not_mem_amount (x : Float) : '\n' ∉ (amount x).toList := by
  have hmag : ∀ m q, '\n' ∉ (magnitude m q).toList := fun m q h =>
    absurd (mem_magnitude h) (by decide)
  unfold amount amountOfParts
  split
  · decide
  · decide
  · decide
  · split
    · simp [hmag]
    · exact hmag _ _

/-! ## The lines of families -/

/-- The lines of a family: help, type, and one for each sample. -/
def linesOf (f : Family) : List Line :=
  .help f.name f.help :: .kind f.name f.kind ::
    f.samples.map fun s => .sample f.name s.labels (amount s.value)

/-- What the text tells of a family. -/
def blockOf (f : Family) : Block :=
  ⟨f.name, f.help, f.kind, f.samples.map fun s => ⟨s.labels, amount s.value⟩⟩

/-- A family that the format has a place for: its names are allowed, and its samples are its own. -/
structure Expressible (f : Family) : Prop where
  name : isMetricName f.name = true
  samples : ∀ s ∈ f.samples, s.name = f.name
  labels : ∀ s ∈ f.samples, ∀ k ∈ s.labels.keys, isLabelName k = true

theorem Expressible.sound {f : Family} (h : Expressible f) : ∀ l ∈ linesOf f, l.Sound := by
  intro l hl
  rw [linesOf, List.mem_cons, List.mem_cons] at hl
  rcases hl with rfl | rfl | hl
  · exact h.name
  · exact h.name
  · obtain ⟨s, hs, rfl⟩ := List.mem_map.1 hl
    exact ⟨h.name, h.labels s hs, newline_not_mem_amount s.value⟩

/-- The lines with their ends. -/
def joinLines (lines : List (List Char)) : List Char := lines.flatMap (· ++ ['\n'])

theorem toList_sampleLine (s : Sample) : (sampleLine s).toList =
    (Line.sample s.name s.labels (amount s.value)).text.toList ++ ['\n'] := by
  simp [sampleLine, Line.text]

theorem toList_familyText {f : Family} (h : ∀ s ∈ f.samples, s.name = f.name) :
    (familyText f).toList = joinLines ((linesOf f).map fun l => l.text.toList) := by
  have hs : f.samples.flatMap (fun s => (sampleLine s).toList) =
      joinLines ((f.samples.map fun s => Line.sample f.name s.labels (amount s.value)).map
        fun l => l.text.toList) := by
    rw [joinLines, List.map_map, List.flatMap_map]
    refine List.flatMap_congr fun s hm => ?_
    rw [toList_sampleLine, h s hm]
    rfl
  have hjoin : (String.join (f.samples.map sampleLine)).toList =
      f.samples.flatMap fun s => (sampleLine s).toList := by
    rw [String.toList_join, List.flatMap_map]
  unfold familyText
  simp only [String.toList_append, hjoin, hs]
  simp [joinLines, linesOf, Line.text]

/-- The text of families is made of the lines that belong to them. -/
theorem text_eq_lines {families : List Family}
    (h : ∀ f ∈ families, ∀ s ∈ f.samples, s.name = f.name) :
    (text families).toList = joinLines ((families.flatMap linesOf).map fun l => l.text.toList) := by
  rw [text, String.toList_join, List.flatMap_map, joinLines, List.flatMap_map, List.flatMap_assoc]
  refine List.flatMap_congr fun f hf => ?_
  rw [toList_familyText (h f hf), joinLines, List.flatMap_map]

/-! ## Reading back -/

theorem splitOn_joinLines {lines : List (List Char)} (h : ∀ l ∈ lines, '\n' ∉ l) :
    (joinLines lines).splitOn '\n' = lines ++ [[]] := by
  induction lines with
  | nil => rfl
  | cons l lines ih =>
    rw [List.forall_mem_cons] at h
    have hcons : joinLines (l :: lines) = l ++ '\n' :: joinLines lines := by simp [joinLines]
    rw [hcons, List.splitOn_append_cons_self_of_not_mem h.1, ih h.2]
    rfl

theorem splitLines_joinLines {lines : List (List Char)} (h : ∀ l ∈ lines, '\n' ∉ l) :
    splitLines (joinLines lines) = some lines := by
  simp [splitLines, splitOn_joinLines h]

theorem mapM_read? {lines : List Line} (h : ∀ l ∈ lines, l.Sound) :
    (lines.map fun l => l.text.toList).mapM Line.read? = some lines := by
  induction lines with
  | nil => rfl
  | cons l lines ih =>
    rw [List.forall_mem_cons] at h
    rw [List.map_cons, List.mapM_cons, Line.read?_text h.1, ih h.2]
    rfl

theorem takeRows_append (name : String) (rows : List Row) {rest : List Line}
    (h : takeRows name rest = ([], rest)) :
    takeRows name ((rows.map fun r => .sample name r.labels r.amount) ++ rest) = (rows, rest) := by
  induction rows with
  | nil => exact h
  | cons r rows ih =>
    rw [List.map_cons, List.cons_append, takeRows, if_pos rfl, ih]

/-- The lines of families begin with no sample line. -/
theorem takeRows_linesOf (name : String) (families : List Family) :
    takeRows name (families.flatMap linesOf) = ([], families.flatMap linesOf) := by
  cases families <;> rfl

theorem readBlocks_linesOf (families : List Family) :
    readBlocks (families.flatMap linesOf) = some (families.map blockOf) := by
  induction families with
  | nil => simp [readBlocks]
  | cons f families ih =>
    have hrows : takeRows f.name ((f.samples.map fun s =>
        Line.sample f.name s.labels (amount s.value)) ++ families.flatMap linesOf) =
          ((blockOf f).rows, families.flatMap linesOf) := by
      rw [← takeRows_append f.name _ (takeRows_linesOf f.name families), blockOf, List.map_map]
      rfl
    rw [List.flatMap_cons, linesOf, List.cons_append, List.cons_append, readBlocks, if_pos rfl, hrows,
      ih]
    rfl

variable {families : List Family}

theorem splitLines_text (h : ∀ f ∈ families, Expressible f) : splitLines (text families).toList =
    some ((families.flatMap linesOf).map fun l => l.text.toList) := by
  rw [text_eq_lines fun f hf => (h f hf).samples]
  refine splitLines_joinLines fun t ht => ?_
  obtain ⟨l, hl, rfl⟩ := List.mem_map.1 ht
  obtain ⟨f, hf, hl⟩ := List.mem_flatMap.1 hl
  exact Line.newline_not_mem_text ((h f hf).sound l hl)

theorem read?_text (h : ∀ f ∈ families, Expressible f) :
    read? (text families) = some (families.map blockOf) := by
  have hsound : ∀ l ∈ families.flatMap linesOf, l.Sound := by
    intro l hl
    obtain ⟨f, hf, hl⟩ := List.mem_flatMap.1 hl
    exact (h f hf).sound l hl
  simp only [read?, splitLines_text h, mapM_read? hsound, readBlocks_linesOf,
    Option.bind_eq_bind, Option.bind_some]

theorem name_of_mem_linesOf {f : Family} {l : Line} (h : l ∈ linesOf f) : l.name = f.name := by
  rw [linesOf, List.mem_cons, List.mem_cons] at h
  rcases h with rfl | rfl | h
  · rfl
  · rfl
  · obtain ⟨s, -, rfl⟩ := List.mem_map.1 h
    rfl

/-- An exposition can be decoded: it reads back as the names, kinds and help texts of its families in
order, each with the labels and the amounts of its samples. So no other families have the same text
unless they agree in all of these, and every line of the text is a help line, a type line or a sample
line of the family it belongs to. -/
theorem text_decodable (families : List Family) (h : ∀ f ∈ families, Expressible f) :
    read? (text families) = some (families.map blockOf) ∧
    (∀ others : List Family, (∀ f ∈ others, Expressible f) →
      others.map blockOf ≠ families.map blockOf → text others ≠ text families) ∧
    splitLines (text families).toList =
      some ((families.flatMap linesOf).map fun l => l.text.toList) ∧
    ∀ f ∈ families, ∀ l ∈ linesOf f, Line.read? l.text.toList = some l ∧ l.name = f.name := by
  have hread : read? (text families) = some (families.map blockOf) := read?_text h
  refine ⟨hread, ?_, splitLines_text h, ?_⟩
  · intro others ho hne htext
    have hsame : some (others.map blockOf) = some (families.map blockOf) := by
      rw [← read?_text ho, htext, hread]
    exact hne (Option.some.inj hsame)
  · intro f hf l hl
    exact ⟨Line.read?_text ((h f hf).sound l hl), name_of_mem_linesOf hl⟩

/-- Characters of the format itself in help texts and label values, and an empty value. -/
theorem text_decodable_of_format_characters :
    read? (text [⟨"a:b", "# HELP a\\n \"b\"\n", .counter, [⟨"a:b", "", .counter, 1.5,
      Keyed.ofList [("x", "\\\"\x7d 1\n# \x7b,="), ("y", "")]⟩]⟩, ⟨"c", "\\", .gauge, []⟩]) =
    some [⟨"a:b", "# HELP a\\n \"b\"\n", .counter,
      [⟨Keyed.ofList [("x", "\\\"\x7d 1\n# \x7b,="), ("y", "")], "1.5"⟩]⟩, ⟨"c", "\\", .gauge, []⟩] := by
  refine (text_decodable _ fun f hf => ?_).1.trans (by decide +kernel)
  simp only [List.mem_cons, List.not_mem_nil, or_false] at hf
  rcases hf with rfl | rfl
  · exact ⟨by decide, by decide, by decide⟩
  · exact ⟨by decide, by decide, by decide⟩

end MongoMetrics.Exposition
