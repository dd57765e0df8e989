/-
Reading the reply of the health path back. It is an object of JSON without blanks: the word for the
role, and the labels as an object whose values are strings. Strings are read without their escapes; a
character beyond four hexadecimal digits has no escape of its own.
-/
import MongoMetrics.Service.Web

namespace MongoMetrics.Web

/-! ## Strings -/

/-- What a backslash and a character stand for in a string of JSON. -/
def jsonEscape? : Char → Option Char
  | '"' => some '"'
  | '\\' => some '\\'
  | '/' => some '/'
  | 'b' => some '\x08'
  | 'f' => some '\x0C'
  | 'n' => some '\n'
  | 'r' => some '\r'
  | 't' => some '\t'
  | _ => none

/-- The character with the number that the hexadecimal digits write. -/
def numbered? (digits : List Char) : Option Char :=
  if digits.all Pattern.isHex then Pattern.charOf? digits else none

/-- A string up to its closing quote, and what follows the quote. Control characters are not part of
strings. -/
def readString : List Char → Option (List Char × List Char)
  | [] => none
  | '"' :: rest => some ([], rest)
  | '\\' :: 'u' :: a :: b :: c :: d :: rest => do
    let plain ← numbered? [a, b, c, d]
    let (more, after) ← readString rest
    return (plain :: more, after)
  | '\\' :: c :: rest => do
    let plain ← jsonEscape? c
    let (more, after) ← readString rest
    return (plain :: more, after)
  | c :: rest =>
    if c.toNat < 0x20 then none else (readString rest).map fun (more, after) => (c :: more, after)

/-- A string with both quotes. -/
def readQuoted : List Char → Option (String × List Char)
  | '"' :: rest => (readString rest).map fun (s, after) => (String.ofList s, after)
  | _ => none

theorem length_of_readString {s plain after : List Char} (h : readString s = some (plain, after)) :
    after.length < s.length := by
  induction s using readString.induct generalizing plain after with
  | case1 => cases h
  | case2 rest =>
    cases h
    exact Nat.lt_succ_self _
  | case3 a b c d rest ih =>
    simp only [readString, Option.bind_eq_bind, Option.bind_eq_some_iff] at h
    obtain ⟨plain, -, ⟨more, after'⟩, hr, he⟩ := h
    cases he
    have := ih hr
    simp only [List.length_cons]
    omega
  | case4 c rest hu ih =>
    rw [readString] at h
    · simp only [Option.bind_eq_bind, Option.bind_eq_some_iff] at h
      obtain ⟨plain, -, ⟨more, after'⟩, hr, he⟩ := h
      cases he
      have := ih hr
      simp only [List.length_cons]
      omega
    · exact hu
  | case5 c rest hq hu hb hcontrol =>
    rw [readString] at h
    · rw [if_pos hcontrol] at h
      cases h
    · exact hq
    · exact hu
    · exact hb
  | case6 c rest hq hu hb hcontrol ih =>
    rw [readString] at h
    · rw [if_neg hcontrol, Option.map_eq_some_iff] at h
      obtain ⟨⟨more, after'⟩, hr, he⟩ := h
      cases he
      exact Nat.lt_succ_of_lt (ih hr)
    · exact hq
    · exact hu
    · exact hb

/-! ## Objects -/

/-- A member of an object up to the closing quote of its value, and what follows. -/
def readMember (s : List Char) : Option ((String × String) × List Char) :=
  match readQuoted s with
  | some (name, ':' :: rest) => (readQuoted rest).map fun (value, after) => ((name, value), after)
  | _ => none

theorem length_of_readQuoted {s after : List Char} {plain : String}
    (h : readQuoted s = some (plain, after)) : after.length < s.length := by
  unfold readQuoted at h
  split at h
  · obtain ⟨⟨text, after'⟩, hr, he⟩ := Option.map_eq_some_iff.1 h
    cases he
    exact Nat.lt_succ_of_lt (length_of_readString hr)
  · cases h

theorem length_of_readMember {s after : List Char} {m : String × String}
    (h : readMember s = some (m, after)) : after.length < s.length := by
  unfold readMember at h
  split at h
  · rename_i name rest hname
    obtain ⟨⟨value, after'⟩, hvalue, he⟩ := Option.map_eq_some_iff.1 h
    cases he
    exact Nat.lt_trans (Nat.lt_succ_of_lt (length_of_readQuoted hvalue)) (length_of_readQuoted hname)
  · cases h

/-- One member or more up to the closing brace, and what follows the brace. -/
def readMembers (s : List Char) : Option (List (String × String) × List Char) :=
  match _h : readMember s with
  | some (m, ',' :: rest) => (readMembers rest).map fun (more, after) => (m :: more, after)
  | some (m, '\x7d' :: rest) => some ([m], rest)
  | _ => none
termination_by s.length
decreasing_by
  have := length_of_readMember _h
  simp only [List.length_cons] at this
  omega

/-- The members of an object behind its opening brace, up to the closing one. -/
def readObject : List Char → Option (List (String × String) × List Char)
  | '\x7d' :: rest => some ([], rest)
  | s => readMembers s

/-! ## Replies -/

/-- The role of a word. -/
def roleNamed? : String → Option Role
  | "standalone" => some .standalone
  | "router" => some .router
  | "replset-member" => some .replicaMember
  | "arbiter" => some .arbiter
  | "unknown" => some .unknown
  | _ => none

/-- What a reply of the health path tells; nothing when it breaks the format. -/
def readHealth? (body : String) : Option Deployment := do
  let rest ← Text.afterPrefix? "\x7b\"role\":".toList body.toList
  let (word, rest) ← readQuoted rest
  let role ← roleNamed? word
  let rest ← Text.afterPrefix? ",\"labels\":\x7b".toList rest
  let (labels, rest) ← readObject rest
  if rest = ['\x7d'] then return ⟨role, Keyed.ofList labels⟩ else none

end MongoMetrics.Web
