/-
What patterns match, said between two positions of a text: `Matches text e i j` holds when a match of
`e` that begins at `i` can end at `j`, by recursion on the pattern, with repetitions of any allowed
number. Carrying sets of positions forward computes this (`carries_ends`). The one step that needs a
reason is that repetitions are cut at one more than the length of the text: positions do not
decrease, so a longer chain of matches stands still somewhere, and its length is of no account from
there on (`Forward.steps_iff_of_long`, `Forward.cut_iff`). Main statement: `occursIn_iff`.
-/
import MongoMetrics.Pattern.Basic
import Mathlib.Data.List.Basic

namespace MongoMetrics.Pattern

/-! ## Chains -/

/-- A chain of `n` steps of `R` from `i` to `j`. -/
def Steps (R : Nat → Nat → Prop) : (n i j : Nat) → Prop
  | 0, i, j => i = j
  | n + 1, i, j => ∃ k, R i k ∧ Steps R n k j

/-- Steps do not go back, nor beyond `bound`. -/
structure Forward (bound : Nat) (R : Nat → Nat → Prop) : Prop where
  le : ∀ {i j}, R i j → i ≤ j
  bounded : ∀ {i j}, i ≤ bound → R i j → j ≤ bound

variable {R : Nat → Nat → Prop} {bound : Nat}

theorem steps_add {m n i j : Nat} : Steps R (m + n) i j ↔ ∃ k, Steps R m i k ∧ Steps R n k j := by
  induction m generalizing i with
  | zero => simp [Steps]
  | succ m ih =>
    rw [Nat.add_right_comm]
    constructor
    · rintro ⟨i', hstep, h⟩
      obtain ⟨k, hm, hn⟩ := ih.1 h
      exact ⟨k, ⟨i', hstep, hm⟩, hn⟩
    · rintro ⟨k, ⟨i', hstep, hm⟩, hn⟩
      exact ⟨i', hstep, ih.2 ⟨k, hm, hn⟩⟩

theorem Forward.steps_bounded (h : Forward bound R) {n i j : Nat} (hi : i ≤ bound)
    (hs : Steps R n i j) : j ≤ bound := by
  induction n generalizing i with
  | zero => exact hs ▸ hi
  | succ n ih =>
    obtain ⟨k, hk, hs⟩ := hs
    exact ih (h.bounded hi hk) hs

theorem Forward.steps_le (h : Forward bound R) {n i j : Nat} (hs : Steps R n i j) : i ≤ j := by
  induction n generalizing i with
  | zero => exact Nat.le_of_eq hs
  | succ n ih =>
    obtain ⟨k, hk, hs⟩ := hs
    exact Nat.le_trans (h.le hk) (ih hs)

/-- A chain with more steps than positions are left stands still somewhere, so that it can be made
one step longer or shorter. -/
theorem Forward.steps_change (h : Forward bound R) {n i j : Nat} (hi : i ≤ bound)
    (hlong : bound - i < n) (hs : Steps R n i j) : Steps R (n + 1) i j ∧ Steps R (n - 1) i j := by
  induction n generalizing i with
  | zero => omega
  | succ n ih =>
    obtain ⟨k, hk, hrest⟩ := hs
    have hik := h.le hk
    rcases Nat.eq_or_lt_of_le hik with rfl | hlt
    · exact ⟨⟨i, hk, i, hk, hrest⟩, hrest⟩
    · have hkb := h.bounded hi hk
      obtain ⟨hmore, hless⟩ := ih hkb (by omega) hrest
      obtain ⟨m, rfl⟩ : ∃ m, n = m + 1 := ⟨n - 1, by omega⟩
      exact ⟨⟨k, hk, hmore⟩, ⟨k, hk, hless⟩⟩

/-- Beyond the bound, the length of a chain is of no account. -/
theorem Forward.steps_iff_of_long (h : Forward bound R) {n i j : Nat} (hi : i ≤ bound)
    (hn : bound + 1 ≤ n) : Steps R n i j ↔ Steps R (bound + 1) i j := by
  obtain ⟨d, rfl⟩ := Nat.exists_eq_add_of_le hn
  clear hn
  induction d with
  | zero => rfl
  | succ d ih =>
    rw [← ih]
    constructor
    · intro hs
      exact (h.steps_change hi (by omega) hs).2
    · intro hs
      exact (h.steps_change hi (by omega) hs).1

/-! ## Matches -/

/-- A match of the pattern that begins at `i` can end at `j`. -/
def Matches (text : Array Char) : Expr → (i j : Nat) → Prop
  | .empty, i, j => i = j
  | .char set, i, j => ∃ c, text[i]? = some c ∧ set.contains c = true ∧ j = i + 1
  | .look l, i, j => l.holds (if i = 0 then none else text[i - 1]?) text[i]? = true ∧ i = j
  | .seq a b, i, j => ∃ k, Matches text a i k ∧ Matches text b k j
  | .alt a b, i, j => Matches text a i j ∨ Matches text b i j
  | .repeated least most e, i, j =>
    ∃ n, least ≤ n ∧ (∀ m, most = some m → n ≤ max least m) ∧ Steps (Matches text e) n i j

theorem forward_matches (text : Array Char) (e : Expr) : Forward text.size (Matches text e) := by
  induction e with
  | empty => exact ⟨fun h => Nat.le_of_eq h, fun hi h => h ▸ hi⟩
  | char set =>
    refine ⟨?_, ?_⟩
    · rintro i j ⟨c, -, -, rfl⟩
      exact Nat.le_succ i
    · rintro i j - ⟨c, hc, -, rfl⟩
      exact (Array.getElem?_eq_some_iff.1 hc).1
  | look l =>
    refine ⟨?_, ?_⟩
    · rintro i j ⟨-, rfl⟩
      exact Nat.le_refl i
    · rintro i j hi ⟨-, rfl⟩
      exact hi
  | seq a b iha ihb =>
    refine ⟨?_, ?_⟩
    · rintro i j ⟨k, ha, hb⟩
      exact Nat.le_trans (iha.le ha) (ihb.le hb)
    · rintro i j hi ⟨k, ha, hb⟩
      exact ihb.bounded (iha.bounded hi ha) hb
  | alt a b iha ihb =>
    refine ⟨?_, ?_⟩
    · rintro i j (h | h)
      · exact iha.le h
      · exact ihb.le h
    · rintro i j hi (h | h)
      · exact iha.bounded hi h
      · exact ihb.bounded hi h
  | repeated least most e ih =>
    refine ⟨?_, ?_⟩
    · rintro i j ⟨n, -, -, h⟩
      exact ih.steps_le h
    · rintro i j hi ⟨n, -, -, h⟩
      exact ih.steps_bounded hi h

/-! ## Sets of positions -/

/-- From positions up to the bound, `f` leads to the positions that `R` leads to. -/
def Carries (bound : Nat) (f : Positions → Positions) (R : Nat → Nat → Prop) : Prop :=
  ∀ s : Positions, (∀ i ∈ s, i ≤ bound) → ∀ j, j ∈ f s ↔ ∃ i ∈ s, R i j

variable {f : Positions → Positions}

theorem mem_merge {a b : Positions} {p : Nat} : p ∈ merge a b ↔ p ∈ a ∨ p ∈ b := by
  unfold merge
  by_cases h : p ∈ a <;> simp [h]

theorem Carries.bounded (hf : Carries bound f R) (h : Forward bound R) {s : Positions}
    (hs : ∀ i ∈ s, i ≤ bound) : ∀ j ∈ f s, j ≤ bound := by
  intro j hj
  obtain ⟨i, hi, hR⟩ := (hf s hs j).1 hj
  exact h.bounded (hs i hi) hR

theorem Carries.iterate (hf : Carries bound f R) (h : Forward bound R) (n : Nat) :
    Carries bound (iterate f n) (Steps R n) := by
  induction n with
  | zero =>
    intro s _ j
    simp [Pattern.iterate, Steps]
  | succ n ih =>
    intro s hs j
    rw [Pattern.iterate, ih (f s) (hf.bounded h hs)]
    constructor
    · rintro ⟨k, hk, hsteps⟩
      obtain ⟨i, hi, hR⟩ := (hf s hs k).1 hk
      exact ⟨i, hi, k, hR, hsteps⟩
    · rintro ⟨i, hi, k, hR, hsteps⟩
      exact ⟨k, (hf s hs k).2 ⟨i, hi, hR⟩, hsteps⟩

theorem Carries.spread (hf : Carries bound f R) (h : Forward bound R) (n : Nat) :
    Carries bound (spread f n) fun i j => ∃ m ≤ n, Steps R m i j := by
  induction n with
  | zero =>
    intro s _ j
    simp [Pattern.spread, Steps]
  | succ n ih =>
    intro s hs j
    have hmerge : ∀ i ∈ merge s (f s), i ≤ bound := fun i hi => by
      rcases mem_merge.1 hi with hi | hi
      · exact hs i hi
      · exact hf.bounded h hs i hi
    rw [Pattern.spread, ih _ hmerge]
    constructor
    · rintro ⟨k, hk, m, hm, hsteps⟩
      rcases mem_merge.1 hk with hk | hk
      · exact ⟨k, hk, m, Nat.le_succ_of_le hm, hsteps⟩
      · obtain ⟨i, hi, hR⟩ := (hf s hs k).1 hk
        exact ⟨i, hi, m + 1, Nat.succ_le_succ hm, k, hR, hsteps⟩
    · rintro ⟨i, hi, m, hm, hsteps⟩
      cases m with
      | zero => exact ⟨i, mem_merge.2 (.inl hi), 0, Nat.zero_le n, hsteps⟩
      | succ m =>
        obtain ⟨k, hR, hsteps⟩ := hsteps
        have hk : k ∈ merge s (f s) := mem_merge.2 (.inr ((hf s hs k).2 ⟨i, hi, hR⟩))
        exact ⟨k, hk, m, Nat.le_of_succ_le_succ hm, hsteps⟩

/-! ## Repetitions -/

/-- The number of copies beyond the least that are tried. -/
def extraCopies (least : Nat) (most : Option Nat) (bound : Nat) : Nat :=
  match most with
  | some n => n - least
  | none => bound

/-- Cutting repetitions at the bound changes nothing. -/
theorem Forward.cut_iff (h : Forward bound R) {least : Nat} {most : Option Nat} {i j : Nat}
    (hi : i ≤ bound) :
    (∃ k, Steps R (min least (bound + 1)) i k ∧
      ∃ m ≤ min (extraCopies least most (bound + 1)) (bound + 1), Steps R m k j) ↔
    ∃ n, least ≤ n ∧ (∀ m, most = some m → n ≤ max least m) ∧ Steps R n i j := by
  constructor
  · rintro ⟨k, hfirst, m, hm, hrest⟩
    have hall : Steps R (min least (bound + 1) + m) i j := steps_add.2 ⟨k, hfirst, hrest⟩
    by_cases hleast : least ≤ bound + 1
    · refine ⟨min least (bound + 1) + m, by omega, fun n hn => ?_, hall⟩
      subst hn
      simp only [extraCopies] at hm
      omega
    · -- more copies than positions are asked for, and the chain can be made that long
      refine ⟨least, Nat.le_refl _, fun n _ => Nat.le_max_left _ _, ?_⟩
      rw [h.steps_iff_of_long hi (by omega)]
      rwa [h.steps_iff_of_long hi (by omega)] at hall
  · rintro ⟨n, hleast, hmost, hs⟩
    -- a chain beyond the bound is as good as one of the bound's length
    obtain ⟨n', hlow, hhigh, hs'⟩ : ∃ n', min least (bound + 1) ≤ n' ∧
        n' ≤ min least (bound + 1) + min (extraCopies least most (bound + 1)) (bound + 1) ∧
        Steps R n' i j := by
      have hextra : extraCopies least most (bound + 1) = bound + 1 ∨
          ∃ m, most = some m ∧ extraCopies least most (bound + 1) = m - least := by
        cases most with
        | none => exact .inl rfl
        | some m => exact .inr ⟨m, rfl, rfl⟩
      have htop : n ≤ least + extraCopies least most (bound + 1) ∨
          bound + 1 ≤ extraCopies least most (bound + 1) := by
        rcases hextra with he | ⟨m, hm, he⟩
        · exact .inr (Nat.le_of_eq he.symm)
        · have := hmost m hm
          exact .inl (by omega)
      by_cases hn : n ≤ bound + 1
      · exact ⟨n, by omega, by omega, hs⟩
      · refine ⟨bound + 1, by omega, by omega, ?_⟩
        rwa [h.steps_iff_of_long hi (by omega)] at hs
    obtain ⟨m, rfl⟩ : ∃ m, n' = min least (bound + 1) + m := ⟨n' - min least (bound + 1), by omega⟩
    obtain ⟨k, hfirst, hrest⟩ := steps_add.1 hs'
    exact ⟨k, hfirst, m, by omega, hrest⟩

/-! ## The engine -/

/-- Carrying positions forward computes matches. -/
theorem carries_ends (text : Array Char) (e : Expr) : Carries text.size (ends text e) (Matches text e) := by
  induction e with
  | empty =>
    intro s _ j
    simp [ends, Matches]
  | char set =>
    intro s _ j
    rw [ends, List.mem_filterMap]
    refine exists_congr fun i => and_congr_right fun _ => ?_
    rw [Matches]
    cases text[i]? with
    | none => simp
    | some c => simp only [Option.some.injEq, exists_eq_left', Option.ite_none_right_eq_some,
        eq_comm (a := i + 1)]
  | look l =>
    intro s _ j
    rw [ends, List.mem_filter]
    constructor
    · rintro ⟨hj, hl⟩
      exact ⟨j, hj, hl, rfl⟩
    · rintro ⟨i, hi, hl, rfl⟩
      exact ⟨hi, hl⟩
  | seq a b iha ihb =>
    intro s hs j
    rw [ends, ihb _ (iha.bounded (forward_matches text a) hs)]
    constructor
    · rintro ⟨k, hk, hb⟩
      obtain ⟨i, hi, ha⟩ := (iha s hs k).1 hk
      exact ⟨i, hi, k, ha, hb⟩
    · rintro ⟨i, hi, k, ha, hb⟩
      exact ⟨k, (iha s hs k).2 ⟨i, hi, ha⟩, hb⟩
  | alt a b iha ihb =>
    intro s hs j
    rw [ends, mem_merge, iha s hs, ihb s hs]
    constructor
    · rintro (⟨i, hi, h⟩ | ⟨i, hi, h⟩)
      · exact ⟨i, hi, .inl h⟩
      · exact ⟨i, hi, .inr h⟩
    · rintro ⟨i, hi, h | h⟩
      · exact .inl ⟨i, hi, h⟩
      · exact .inr ⟨i, hi, h⟩
  | repeated least most e ih =>
    intro s hs j
    have h := forward_matches text e
    have hfirst := ih.iterate h (min least (text.size + 1))
    have hrest := ih.spread h (min (extraCopies least most (text.size + 1)) (text.size + 1))
    have hbetween : ∀ k ∈ iterate (ends text e) (min least (text.size + 1)) s, k ≤ text.size := by
      intro k hk
      obtain ⟨i, hi, hsteps⟩ := (hfirst s hs k).1 hk
      exact h.steps_bounded (hs i hi) hsteps
    have hends : ends text (.repeated least most e) s =
        spread (ends text e) (min (extraCopies least most (text.size + 1)) (text.size + 1))
          (iterate (ends text e) (min least (text.size + 1)) s) := by
      cases most <;> rfl
    rw [hends, hrest _ hbetween]
    constructor
    · rintro ⟨k, hk, m, hm, hsteps⟩
      obtain ⟨i, hi, hlead⟩ := (hfirst s hs k).1 hk
      exact ⟨i, hi, (h.cut_iff (hs i hi)).1 ⟨k, hlead, m, hm, hsteps⟩⟩
    · rintro ⟨i, hi, hmatch⟩
      obtain ⟨k, hlead, m, hm, hsteps⟩ := (h.cut_iff (hs i hi)).2 hmatch
      exact ⟨k, (hfirst s hs k).2 ⟨i, hi, hlead⟩, m, hm, hsteps⟩

/-- The pattern matches a part of the text, wherever the part begins and ends. -/
def MatchesPart (e : Expr) (s : String) : Prop :=
  ∃ i j, i ≤ s.toList.length ∧ Matches s.toList.toArray e i j

theorem occursIn_iff {e : Expr} {s : String} : occursIn e s = true ↔ MatchesPart e s := by
  have hsize : s.toList.toArray.size = s.toList.length := List.size_toArray
  have hstart : ∀ i ∈ List.range (s.toList.toArray.size + 1), i ≤ s.toList.toArray.size :=
    fun i hi => Nat.le_of_lt_succ (List.mem_range.1 hi)
  have hmem := carries_ends s.toList.toArray e _ hstart
  rw [occursIn, Bool.not_eq_true', List.isEmpty_eq_false_iff_exists_mem, MatchesPart]
  constructor
  · rintro ⟨j, hj⟩
    obtain ⟨i, hi, hmatch⟩ := (hmem j).1 hj
    exact ⟨i, j, hsize ▸ hstart i hi, hmatch⟩
  · rintro ⟨i, j, hi, hmatch⟩
    exact ⟨j, (hmem j).2 ⟨i, List.mem_range.2 (by omega), hmatch⟩⟩

instance {e : Expr} {s : String} : Decidable (MatchesPart e s) := decidable_of_iff _ occursIn_iff

end MongoMetrics.Pattern
