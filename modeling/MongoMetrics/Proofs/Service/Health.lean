/-
The reply of the health path read back. Each character of a string is read as itself, whether it stands
as it is, behind a backslash or by its number (`readString_jsonChar`); so strings, members and objects
are read up to their own ends, whatever follows. Main statement (`readHealth?_healthBody`): the reply
tells what is known of the server, its role and all of its labels.
-/
import MongoMetrics.Service.Health

namespace MongoMetrics.Web

/-! ## Strings -/

/-- The number of a control character is written with four digits and read back. -/
theorem numbered?_fourDigits : ∀ n < 32, ∃ a b c d, (fourDigits n).toList = [a, b, c, d] ∧
    numbered? [a, b, c, d] = some (Char.ofNat n) := by
  have hall : ∀ n < 32, (fourDigits n).toList.length = 4 ∧
      numbered? (fourDigits n).toList = some (Char.ofNat n) := by decide
  intro n hn
  obtain ⟨hlen, hread⟩ := hall n hn
  match (fourDigits n).toList, hlen, hread with
  | [a, b, c, d], _, hread => exact ⟨a, b, c, d, rfl, hread⟩

/-- A character of a string is named behind a backslash, numbered, or stands for itself. -/
theorem jsonChar_cases (c : Char) :
    (∃ e, (jsonChar c).toList = ['\\', e] ∧ jsonEscape? e = some c ∧ e ≠ 'u') ∨
      (∃ x y z w, (jsonChar c).toList = ['\\', 'u', x, y, z, w] ∧ numbered? [x, y, z, w] = some c) ∨
      (jsonChar c).toList = [c] ∧ c ≠ '"' ∧ c ≠ '\\' ∧ ¬ c.toNat < 0x20 := by
  unfold jsonChar
  split
  · exact .inl ⟨'"', by decide⟩
  · exact .inl ⟨'\\', by decide⟩
  · exact .inl ⟨'n', by decide⟩
  · exact .inl ⟨'r', by decide⟩
  · exact .inl ⟨'t', by decide⟩
  · exact .inl ⟨'b', by decide⟩
  · exact .inl ⟨'f', by decide⟩
  · rename_i hquote hback _ _ _ _ _
    split
    · rename_i hcontrol
      obtain ⟨x, y, z, w, htext, hread⟩ := numbered?_fourDigits c.toNat hcontrol
      rw [Char.ofNat_toNat] at hread
      exact .inr (.inl ⟨x, y, z, w, by rw [String.toList_append, htext]; rfl, hread⟩)
    · rename_i hcontrol
      exact .inr (.inr ⟨by simp, hquote, hback, hcontrol⟩)

theorem readString_jsonChar (c : Char) (rest : List Char) : readString ((jsonChar c).toList ++ rest) =
    (readString rest).map fun (more, after) => (c :: more, after) := by
  rcases jsonChar_cases c with ⟨e, htext, hread, hu⟩ | ⟨x, y, z, w, htext, hread⟩ | ⟨htext, hq, hb, hc⟩
  · rw [htext, List.cons_append, List.singleton_append, readString]
    · rw [hread]
      cases readString rest <;> rfl
    · intro a b c d rest' hue
      exact absurd hue hu
  · rw [htext]
    show readString ('\\' :: 'u' :: x :: y :: z :: w :: rest) = _
    rw [readString, hread]
    cases readString rest <;> rfl
  · rw [htext, List.singleton_append, readString]
    · rw [if_neg hc]
    · exact hq
    · intro a b c' d rest' hback
      exact absurd hback hb
    · intro c' rest' hback
      exact absurd hback hb

/-- The characters of a string inside its quotes. -/
def inside (s : String) : List Char := s.toList.flatMap fun c => (jsonChar c).toList

theorem toList_jsonString (s : String) : (jsonString s).toList = '"' :: (inside s ++ ['"']) := by
  unfold jsonString inside
  rw [String.toList_append, String.toList_append, String.toList_join, List.flatMap_map]
  rfl

theorem readString_inside (s : String) (rest : List Char) :
    readString (inside s ++ '"' :: rest) = some (s.toList, rest) := by
  unfold inside
  induction s.toList with
  | nil => rfl
  | cons c more ih =>
    rw [List.flatMap_cons, List.append_assoc, readString_jsonChar, ih]
    rfl

theorem readQuoted_jsonString (s : String) (rest : List Char) :
    readQuoted ((jsonString s).toList ++ rest) = some (s, rest) := by
  rw [toList_jsonString, List.cons_append, List.append_assoc, readQuoted, List.singleton_append,
    readString_inside]
  simp only [Option.map_some, String.ofList_toList]

/-! ## Objects -/

/-- A member of an object as it stands in the text. -/
def memberText (m : String × String) : String := jsonString m.1 ++ ":" ++ jsonString m.2

theorem jsonLabels_eq (labels : Labels) : jsonLabels labels =
    "\x7b" ++ String.intercalate "," (labels.toList.map memberText) ++ "\x7d" := rfl

theorem readMember_memberText (m : String × String) (rest : List Char) :
    readMember ((memberText m).toList ++ rest) = some (m, rest) := by
  have htext : (memberText m).toList ++ rest =
      (jsonString m.1).toList ++ ':' :: ((jsonString m.2).toList ++ rest) := by
    unfold memberText
    simp
  rw [htext, readMember, readQuoted_jsonString]
  simp only [readQuoted_jsonString, Option.map_some]

theorem readMembers_of_comma {s rest : List Char} {m : String × String}
    (h : readMember s = some (m, ',' :: rest)) :
    readMembers s = (readMembers rest).map fun (more, after) => (m :: more, after) := by
  rw [readMembers]
  split <;> simp_all

theorem readMembers_of_brace {s rest : List Char} {m : String × String}
    (h : readMember s = some (m, '\x7d' :: rest)) : readMembers s = some ([m], rest) := by
  rw [readMembers]
  split <;> simp_all

/-- Members are read up to the brace behind the last one. -/
theorem readMembers_text (m : String × String) (ms : List (String × String)) (rest : List Char) :
    readMembers ((String.intercalate "," ((m :: ms).map memberText)).toList ++ '\x7d' :: rest) =
      some (m :: ms, rest) := by
  induction ms generalizing m with
  | nil => exact readMembers_of_brace (readMember_memberText m ('\x7d' :: rest))
  | cons m' ms ih =>
    have htext : (String.intercalate "," ((m :: m' :: ms).map memberText)).toList ++ '\x7d' :: rest =
        (memberText m).toList ++
          ',' :: ((String.intercalate "," ((m' :: ms).map memberText)).toList ++ '\x7d' :: rest) := by
      rw [List.map_cons, List.map_cons, String.intercalate_cons_cons]
      simp
    rw [htext, readMembers_of_comma (readMember_memberText m _), ih m']
    rfl

/-- No member begins with a brace, so an object with members is not taken for an empty one. -/
theorem readObject_of_readMembers {s : List Char} {r : List (String × String) × List Char}
    (h : readMembers s = some r) : readObject s = some r := by
  unfold readObject
  split
  · rename_i rest
    have hmember : readMember ('\x7d' :: rest) = none := rfl
    rw [readMembers] at h
    split at h <;> simp_all
  · exact h

theorem readObject_text (ms : List (String × String)) (rest : List Char) :
    readObject ((String.intercalate "," (ms.map memberText)).toList ++ '\x7d' :: rest) =
      some (ms, rest) := by
  -- an object without members is closed at once
  cases ms with
  | nil => rfl
  | cons m ms => exact readObject_of_readMembers (readMembers_text m ms rest)

/-! ## Replies -/

theorem roleNamed?_text (r : Role) : roleNamed? r.text = some r := by
  cases r <;> decide

/-- The words for roles need no escapes. -/
theorem jsonString_text (r : Role) : jsonString r.text = "\"" ++ r.text ++ "\"" := by
  cases r <;> decide

/-- What the health path replies about a server: an object of JSON that begins with its role and goes on
with its labels in order, and that is read back as what is known of the server. -/
structure HealthText (d : Deployment) (body : String) : Prop where
  form : body = "\x7b\"role\":\"" ++ d.role.text ++ "\",\"labels\":\x7b" ++
    String.intercalate "," (d.labels.toList.map memberText) ++ "\x7d\x7d"
  read : readHealth? body = some d

theorem readHealth?_healthBody (d : Deployment) : readHealth? (healthBody d) = some d := by
  have htext : (healthBody d).toList = "\x7b\"role\":".toList ++ ((jsonString d.role.text).toList ++
      (",\"labels\":\x7b".toList ++ ((String.intercalate "," (d.labels.toList.map memberText)).toList ++
        '\x7d' :: ['\x7d']))) := by
    simp [healthBody, jsonLabels_eq]
  unfold readHealth?
  rw [htext, Text.afterPrefix?_eq_some.2 rfl]
  simp only [Option.bind_eq_bind, Option.bind_some, readQuoted_jsonString, roleNamed?_text,
    Text.afterPrefix?_eq_some.2 rfl, readObject_text, if_true, Keyed.ofList_toList]
  rfl

theorem healthText_healthBody (d : Deployment) : HealthText d (healthBody d) where
  form := by
    unfold healthBody
    rw [jsonString_text, jsonLabels_eq]
    simp [← String.toList_inj]
  read := readHealth?_healthBody d

end MongoMetrics.Web
