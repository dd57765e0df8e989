/-
Text up to ASCII case, and cuts of a text at a character.
-/
namespace MongoMetrics.Text

/-- The lower-case form of the letters A to Z; all other characters stay. -/
def lowerAscii (s : String) : String := String.ofList (s.toList.map Char.toLower)

/-- The two texts are equal when the case of the letters A to Z is ignored. -/
def equalsIgnoringCase (a b : String) : Bool := a.toList.map Char.toLower == b.toList.map Char.toLower

/-- The parts before and after the first `c`, when there is one. -/
def splitFirst (c : Char) : List Char → Option (List Char × List Char)
  | [] => none
  | x :: rest =>
    if x == c then some ([], rest)
    else (splitFirst c rest).map fun (before, after) => (x :: before, after)

/-- The parts before and after the last `c`, when there is one. -/
def splitLast (c : Char) (s : List Char) : Option (List Char × List Char) :=
  (splitFirst c s.reverse).map fun (after, before) => (before.reverse, after.reverse)

/-- What follows `start` in `s`, when `s` begins with it. -/
def afterPrefix? (start : List Char) (s : List Char) : Option (List Char) :=
  match start, s with
  | [], s => some s
  | _ :: _, [] => none
  | a :: start, b :: s => if a == b then afterPrefix? start s else none

/-! ## Laws -/

theorem splitFirst_eq_some {c : Char} {s before after : List Char}
    (h : splitFirst c s = some (before, after)) : s = before ++ c :: after ∧ c ∉ before := by
  induction s generalizing before with
  | nil => simp [splitFirst] at h
  | cons x rest ih =>
    unfold splitFirst at h
    split at h
    · simp_all
    · rename_i hx
      cases hr : splitFirst c rest with
      | none => simp [hr] at h
      | some p =>
        obtain ⟨b, a⟩ := p
        simp only [hr, Option.map_some, Option.some.injEq, Prod.mk.injEq] at h
        obtain ⟨rfl, rfl⟩ := h
        obtain ⟨h1, h2⟩ := ih hr
        refine ⟨by rw [h1]; rfl, ?_⟩
        simp only [List.mem_cons, not_or]
        exact ⟨fun e => hx (by simp [e]), h2⟩

theorem splitFirst_eq_none {c : Char} {s : List Char} : splitFirst c s = none ↔ c ∉ s := by
  induction s with
  | nil => simp [splitFirst]
  | cons x rest ih =>
    unfold splitFirst
    split
    · simp_all
    · rename_i hx
      simp only [Option.map_eq_none_iff, ih, List.mem_cons, not_or]
      constructor
      · exact fun h => ⟨fun e => hx (by simp [e]), h⟩
      · exact fun h => h.2

/-- A text is cut at the first `c`. -/
theorem splitFirst_append {c : Char} {before : List Char} (after : List Char) (h : c ∉ before) :
    splitFirst c (before ++ c :: after) = some (before, after) := by
  induction before with
  | nil => simp [splitFirst]
  | cons x rest ih =>
    rw [List.mem_cons, not_or] at h
    have hx : (x == c) = false := by simpa using Ne.symm h.1
    rw [List.cons_append, splitFirst, hx, ih h.2]
    rfl

theorem afterPrefix?_eq_some {start s rest : List Char} :
    afterPrefix? start s = some rest ↔ s = start ++ rest := by
  induction start generalizing s with
  | nil => simp [afterPrefix?, eq_comm]
  | cons a start ih =>
    cases s with
    | nil => simp [afterPrefix?]
    | cons b s =>
      by_cases h : a = b
      · simp [afterPrefix?, h, ih]
      · simp [afterPrefix?, h, Ne.symm h]

end MongoMetrics.Text
