/-
Escaped texts as patterns. A backslash before each character that has a meaning makes a pattern of any
text. The text can be told from the pattern (`escaped_injective`), and what the pattern finds behind an
anchor, when case is ignored, are just the texts that begin with the text up to case. Main statement:
`finds_beginnings`.
-/
import MongoMetrics.Pattern.Reader
import MongoMetrics.Proofs.Pattern.Matching
import Mathlib.Data.List.Forall2

namespace MongoMetrics.Pattern

/-! ## Escapes -/

/-- A character as it is escaped. -/
def escaped (c : Char) : List Char := if isMeta c then ['\\', c] else [c]

theorem toList_escapeText (s : String) : (escapeText s).toList = s.toList.flatMap escaped :=
  String.toList_ofList

theorem escapeText_append (s t : String) : escapeText (s ++ t) = escapeText s ++ escapeText t := by
  rw [← String.toList_inj, String.toList_append, toList_escapeText, toList_escapeText, toList_escapeText,
    String.toList_append, List.flatMap_append]

/-- Letters have no meaning. -/
theorem isMeta_of_letter {c : Char} (h : 65 ≤ c.toNat ∧ c.toNat ≤ 90 ∨ 97 ≤ c.toNat ∧ c.toNat ≤ 122) :
    isMeta c = false := by
  have hall : ("\\.+*?()|[]\x7b\x7d^$#&-~".toList.all fun x =>
      !decide (65 ≤ x.toNat ∧ x.toNat ≤ 90 ∨ 97 ≤ x.toNat ∧ x.toNat ≤ 122)) = true := by decide
  refine Bool.eq_false_iff.2 fun hmeta => ?_
  have hc := List.all_eq_true.1 hall c (List.contains_iff_mem.1 hmeta)
  simp only [h, decide_true, Bool.not_true, Bool.false_eq_true] at hc

theorem isMeta_toLower (c : Char) : isMeta c.toLower = isMeta c := by
  unfold Char.toLower
  split
  · rename_i hupper
    have hlow : 65 ≤ c.val.toNat := hupper.1
    have hhigh : c.val.toNat ≤ 90 := hupper.2
    have hsum : (c.val + 32).toNat = c.val.toNat + 32 := by
      rw [UInt32.toNat_add]
      exact Nat.mod_eq_of_lt (show c.val.toNat + 32 < 2 ^ 32 by omega)
    rw [isMeta_of_letter (.inl ⟨hlow, hhigh⟩)]
    apply isMeta_of_letter
    refine .inr ⟨?_, ?_⟩
    · show 97 ≤ (c.val + 32).toNat
      omega
    · show (c.val + 32).toNat ≤ 122
      omega
  · rfl

theorem map_toLower_escaped (l : List Char) :
    (l.flatMap escaped).map Char.toLower = (l.map Char.toLower).flatMap escaped := by
  rw [List.map_flatMap, List.flatMap_map]
  congr 1
  funext c
  unfold escaped
  rw [isMeta_toLower]
  cases isMeta c <;> rfl

/-- Escaping loses nothing: a backslash stands only before a character with a meaning. -/
theorem escaped_injective {l r : List Char} (h : l.flatMap escaped = r.flatMap escaped) : l = r := by
  -- a backslash has a meaning itself, so no unescaped character can pass for the start of an escaped one
  have hback : isMeta '\\' = true := by decide
  induction l generalizing r with
  | nil =>
    cases r with
    | nil => rfl
    | cons d r => cases hd : isMeta d <;> simp [escaped, hd] at h
  | cons c l ih =>
    cases r with
    | nil => cases hc : isMeta c <;> simp [escaped, hc] at h
    | cons d r =>
      cases hc : isMeta c with
      | false =>
        cases hd : isMeta d with
        | false =>
          simp only [List.flatMap_cons, escaped, hc, hd, Bool.false_eq_true, if_false,
            List.singleton_append, List.cons.injEq] at h
          rw [h.1, ih h.2]
        | true =>
          simp only [List.flatMap_cons, escaped, hc, hd, Bool.false_eq_true, if_false, if_true,
            List.cons_append, List.nil_append, List.cons.injEq] at h
          rw [h.1, hback] at hc
          cases hc
      | true =>
        cases hd : isMeta d with
        | false =>
          simp only [List.flatMap_cons, escaped, hc, hd, Bool.false_eq_true, if_false, if_true,
            List.cons_append, List.nil_append, List.cons.injEq] at h
          rw [← h.1, hback] at hd
          cases hd
        | true =>
          simp only [List.flatMap_cons, escaped, hc, hd, if_true, List.cons_append, List.nil_append,
            List.cons.injEq, true_and] at h
          rw [h.1, ih h.2]

/-! ## Reading -/

/-- The expression of a character when case is ignored. -/
def anyCaseOf (c : Char) : Expr := .char (CharSet.single c).anyCase

theorem isEscapable_of_isMeta {c : Char} (h : isMeta c = true) : isEscapable c = true := by
  have hall : ("\\.+*?()|[]\x7b\x7d^$#&-~".toList.all isEscapable) = true := by decide
  exact List.all_eq_true.1 hall c (List.contains_iff_mem.1 h)

/-- The characters that the reader of a pattern looks for before it reads an atom. -/
def lookedFor : List Char := [')', '|', '?', '*', '+', '\x7b', '(']

theorem readUntil_of_atom {x : Char} {more rest : List Char} {e : Expr} (hx : x ∉ lookedFor)
    (hatom : atom Flags.caseless (x :: more) = some (e, rest))
    (fuel : Nat) (parts : List (Option Expr)) :
    readUntil (fuel + 1) Flags.caseless [] (x :: more) none parts =
      readUntil fuel Flags.caseless [] rest none (some e :: parts) := by
  have hskip : Flags.caseless.skip (x :: more) = x :: more := rfl
  rw [readUntil, hskip]
  split
  case h_1 heq => cases heq
  case h_9 => rw [hatom]
  all_goals
    rename_i heq
    refine absurd ?_ hx
    rw [(List.cons.inj heq).1]
    decide

/-- One escaped character is read as one part. -/
theorem readUntil_escaped_cons (c : Char) (rest : List Char) (fuel : Nat) (parts : List (Option Expr)) :
    readUntil (fuel + 1) Flags.caseless [] (escaped c ++ rest) none parts =
      readUntil fuel Flags.caseless [] rest none (some (anyCaseOf c) :: parts) := by
  cases hc : isMeta c with
  | true =>
    have htext : escaped c ++ rest = '\\' :: c :: rest := by simp [escaped, hc]
    have hescape : escape Flags.caseless (c :: rest) = some (.literal c false, rest) :=
      if_pos (isEscapable_of_isMeta hc)
    rw [htext]
    refine readUntil_of_atom (by decide) ?_ fuel parts
    rw [atom, hescape]
    rfl
  | false =>
    have htext : escaped c ++ rest = c :: rest := by simp [escaped, hc]
    have hplain : ∀ x, isMeta x = true → c ≠ x := fun x hx he => by
      rw [he, hx] at hc
      cases hc
    -- the characters that the reader looks for all have a meaning
    have hmeta : lookedFor.all isMeta = true := by decide
    rw [htext]
    refine readUntil_of_atom (fun hmem => hplain c (List.all_eq_true.1 hmeta c hmem) rfl) ?_ fuel parts
    rw [atom]
    · rfl
    all_goals exact hplain _ (by decide)

/-- An escaped text is read to its end, one part for each character. -/
theorem readUntil_escaped (cs : List Char) {fuel : Nat} (hfuel : (cs.flatMap escaped).length < fuel)
    (parts : List (Option Expr)) :
    readUntil fuel Flags.caseless [] (cs.flatMap escaped) none parts =
      some (sequence ((cs.map fun c => some (anyCaseOf c)).reverse ++ parts), [], []) := by
  induction cs generalizing fuel parts with
  | nil =>
    obtain ⟨n, rfl⟩ := Nat.exists_eq_succ_of_ne_zero (Nat.ne_of_gt hfuel)
    rfl
  | cons c cs ih =>
    obtain ⟨n, rfl⟩ := Nat.exists_eq_succ_of_ne_zero (Nat.ne_of_gt (Nat.zero_lt_of_lt hfuel))
    -- one step of the reader takes one character of the text at least
    have hlen : 0 < (escaped c).length := by
      unfold escaped
      split <;> simp
    rw [List.flatMap_cons, List.length_append] at hfuel
    rw [List.flatMap_cons, readUntil_escaped_cons, ih (by omega), List.map_cons, List.reverse_cons,
      List.append_assoc, List.singleton_append]

theorem read?_anchored (s : String) : read? ("^" ++ escapeText s) =
    some (sequence (((Expr.look .textStart) :: s.toList.map anyCaseOf).map some).reverse) := by
  have htext : ("^" ++ escapeText s).toList = '^' :: s.toList.flatMap escaped := by
    rw [String.toList_append, toList_escapeText]
    rfl
  have hanchor : ∀ rest fuel, readUntil (fuel + 1) Flags.caseless [] ('^' :: rest) none [] =
      readUntil fuel Flags.caseless [] rest none [some (.look .textStart)] := fun _ _ => rfl
  unfold read?
  rw [htext, hanchor, readUntil_escaped _ (by simp)]
  simp [Function.comp_def]

/-! ## Matches of a sequence -/

/-- From `i` to `j` through matches of all expressions, one after the other. -/
def Through (text : Array Char) : List Expr → (i j : Nat) → Prop
  | [], i, j => i = j
  | e :: es, i, j => ∃ k, Matches text e i k ∧ Through text es k j

theorem matches_sequence (text : Array Char) (es : List Expr) (i j : Nat) :
    Matches text (sequence (es.map some).reverse) i j ↔ Through text es i j := by
  unfold sequence
  rw [List.foldl_reverse]
  induction es generalizing i with
  | nil => exact Iff.rfl
  | cons e es ih =>
    rw [List.map_cons, List.foldr_cons, Through]
    simp only [← ih]
    generalize List.foldr _ Expr.empty (es.map some) = acc
    cases acc <;> simp [Matches]

/-! ## What is found -/

/-- Texts of one length whose characters are the same up to case. -/
def EqualUpToCase (s t : List Char) : Prop := List.Forall₂ (fun c d => c ∈ Unicode.caseVariants d) s t

/-- The text begins with `start` up to case. -/
def BeginsUpToCase (start text : String) : Prop :=
  ∃ front rest, text.toList = front ++ rest ∧ EqualUpToCase start.toList front

/-- The pattern is one that finds the texts that begin with `start` up to case, and no others. -/
def FindsBeginnings (pattern start : String) : Prop :=
  ∃ e, read? pattern = some e ∧ ∀ text, MatchesPart e text ↔ BeginsUpToCase start text

theorem matches_anyCaseOf {text : Array Char} {c : Char} {i j : Nat} :
    Matches text (anyCaseOf c) i j ↔ ∃ d, text[i]? = some d ∧ c ∈ Unicode.caseVariants d ∧ j = i + 1 := by
  have hmem : ∀ d, (CharSet.single c).anyCase.contains d = true ↔ c ∈ Unicode.caseVariants d := fun d => by
    simp [CharSet.anyCase, CharSet.single]
  simp only [anyCaseOf, Matches, hmem]

/-- Behind what has been passed, the characters of `cs` come next, up to case. -/
theorem through_anyCaseOf (passed ahead cs : List Char) (j : Nat) :
    Through (passed ++ ahead).toArray (cs.map anyCaseOf) passed.length j ↔
      ∃ front rest, ahead = front ++ rest ∧ EqualUpToCase cs front ∧ j = passed.length + front.length := by
  -- each expression moves one character from what is ahead to what has been passed
  induction cs generalizing passed ahead with
  | nil =>
    constructor
    · rintro rfl
      exact ⟨[], ahead, rfl, .nil, rfl⟩
    · rintro ⟨front, rest, -, hfront, rfl⟩
      cases hfront
      rfl
  | cons c cs ih =>
    rw [List.map_cons, Through]
    simp only [matches_anyCaseOf]
    have hlen : ∀ d, passed.length + 1 = (passed ++ [d]).length := fun d => by simp
    constructor
    · rintro ⟨k, ⟨d, hd, hcd, rfl⟩, hrest⟩
      obtain ⟨more, rfl⟩ : ∃ more, ahead = d :: more := by
        cases ahead with
        | nil => simp at hd
        | cons x more => exact ⟨more, by simpa using hd⟩
      rw [List.append_cons, hlen d, ih] at hrest
      obtain ⟨front, rest, rfl, hfront, rfl⟩ := hrest
      refine ⟨d :: front, rest, rfl, .cons hcd hfront, ?_⟩
      simp only [List.length_append, List.length_cons, List.length_nil]
      omega
    · rintro ⟨front, rest, rfl, hfront, rfl⟩
      cases hfront with
      | @cons _ d _ front hcd hfront =>
        refine ⟨passed.length + 1, ⟨d, by simp, hcd, rfl⟩, ?_⟩
        rw [List.cons_append, List.append_cons, hlen d, ih]
        refine ⟨front, rest, rfl, hfront, ?_⟩
        simp only [List.length_append, List.length_cons, List.length_nil]
        omega

theorem matches_textStart {text : Array Char} {i j : Nat} (hi : i ≤ text.size) :
    Matches text (.look .textStart) i j ↔ i = 0 ∧ i = j := by
  refine and_congr_left fun _ => ?_
  cases i with
  | zero => simp [Look.holds]
  | succ i => simp [Look.holds, Nat.lt_of_succ_le hi]

/-- The anchored pattern of an escaped text finds what begins with the text. -/
theorem finds_beginnings (start : String) : FindsBeginnings ("^" ++ escapeText start) start := by
  refine ⟨_, read?_anchored start, fun text => ?_⟩
  have hthrough := through_anyCaseOf [] text.toList start.toList
  rw [List.nil_append, List.length_nil] at hthrough
  unfold MatchesPart BeginsUpToCase
  simp only [matches_sequence, Through]
  constructor
  · rintro ⟨i, j, hi, k, hlook, h⟩
    obtain ⟨rfl, rfl⟩ := (matches_textStart (List.size_toArray.symm ▸ hi)).1 hlook
    obtain ⟨front, rest, htext, hfront, -⟩ := (hthrough j).1 h
    exact ⟨front, rest, htext, hfront⟩
  · rintro ⟨front, rest, htext, hfront⟩
    refine ⟨0, front.length, Nat.zero_le _, 0, (matches_textStart (Nat.zero_le _)).2 ⟨rfl, rfl⟩, ?_⟩
    exact (hthrough _).2 ⟨front, rest, htext, hfront, (Nat.zero_add _).symm⟩

end MongoMetrics.Pattern
