/-
The names that the exposition format allows. A label name is made of letters, digits and underscores
of ASCII, a metric name of colons as well; neither begins with a digit.
-/
namespace MongoMetrics.Exposition

/-- One character that may come first, and then characters that may follow. -/
def isIdentifier (first next : Char → Bool) (s : String) : Bool :=
  match s.toList with
  | [] => false
  | c :: rest => first c && rest.all next

def beginsLabel (c : Char) : Bool := c.isAlpha || c == '_'

def continuesLabel (c : Char) : Bool := beginsLabel c || c.isDigit

def beginsMetric (c : Char) : Bool := beginsLabel c || c == ':'

def continuesMetric (c : Char) : Bool := beginsMetric c || c.isDigit

def isLabelName (s : String) : Bool := isIdentifier beginsLabel continuesLabel s

def isMetricName (s : String) : Bool := isIdentifier beginsMetric continuesMetric s

/-! ## Laws -/

variable {first next : Char → Bool} {s t : String}

theorem isIdentifier_iff : isIdentifier first next s = true ↔
    ∃ c rest, s.toList = c :: rest ∧ first c = true ∧ ∀ x ∈ rest, next x = true := by
  unfold isIdentifier
  cases hs : s.toList with
  | nil => simp
  | cons c rest =>
    rw [Bool.and_eq_true, List.all_eq_true]
    constructor
    · exact fun h => ⟨c, rest, rfl, h.1, h.2⟩
    · rintro ⟨c', rest', he, h⟩
      cases he
      exact h

/-- An identifier goes on with characters that may follow. -/
theorem isIdentifier_append (hs : isIdentifier first next s = true)
    (ht : ∀ x ∈ t.toList, next x = true) : isIdentifier first next (s ++ t) = true := by
  obtain ⟨c, rest, hc, hf, hn⟩ := isIdentifier_iff.1 hs
  refine isIdentifier_iff.2 ⟨c, rest ++ t.toList, by rw [String.toList_append, hc]; rfl, hf, ?_⟩
  intro x hx
  rcases List.mem_append.1 hx with hx | hx
  · exact hn x hx
  · exact ht x hx

/-- Where every character that may come first may follow as well, only such characters occur. -/
theorem next_of_mem (hs : isIdentifier first next s = true)
    (h : ∀ c, first c = true → next c = true) : ∀ x ∈ s.toList, next x = true := by
  obtain ⟨c, rest, hc, hf, hn⟩ := isIdentifier_iff.1 hs
  intro x hx
  rw [hc] at hx
  rcases List.mem_cons.1 hx with rfl | hx
  · exact h x hf
  · exact hn x hx

theorem continuesLabel_of_mem (hs : isLabelName s = true) : ∀ x ∈ s.toList, continuesLabel x = true :=
  next_of_mem hs fun c hc => by simp [continuesLabel, hc]

theorem continuesMetric_of_mem (hs : isMetricName s = true) :
    ∀ x ∈ s.toList, continuesMetric x = true :=
  next_of_mem hs fun c hc => by simp [continuesMetric, hc]

end MongoMetrics.Exposition
