/-
Values at paths of nested documents. A path leads from field to field and goes through documents only
(`follow?`). A value can be replaced where a path leads; that decides what the paths on from there lead
to, and other paths lead where they led before (`follow?_replace_append`, `follow?_replace`).
-/
import MongoMetrics.Document.Value
import Mathlib.Data.List.Basic

namespace MongoMetrics

namespace Document

theorem mem_of_get? {d : Document} {key : String} {v : Value} (h : get? d key = some v) :
    (key, v) ∈ d := by
  obtain ⟨before, after, rfl, -⟩ := List.lookup_eq_some_iff.1 h
  simp

/-- A document without two fields of one name has a field when it is found by its name. -/
theorem get?_eq_some_iff_mem {d : Document} (h : (d.map Prod.fst).Nodup) {key : String} {v : Value} :
    get? d key = some v ↔ (key, v) ∈ d := by
  refine ⟨mem_of_get?, fun hmem => List.lookup_eq_some_iff.2 ?_⟩
  obtain ⟨before, after, rfl⟩ := List.append_of_mem hmem
  refine ⟨before, after, rfl, fun p hp => ?_⟩
  rw [List.map_append, List.map_cons, List.nodup_append] at h
  simpa using (h.2.2 p.1 (List.mem_map_of_mem hp) key (List.mem_cons_self ..)).symm

/-- Changing the values of a document changes what is found under their names. -/
theorem get?_map (f : String → Value → Value) (d : Document) (key : String) :
    get? (d.map fun field => (field.1, f field.1 field.2)) key = (get? d key).map (f key) := by
  unfold get?
  induction d with
  | nil => rfl
  | cons field rest ih =>
    rw [List.map_cons, List.lookup_cons, List.lookup_cons, ih]
    cases hkey : key == field.1 with
    | false => rfl
    | true =>
      rw [eq_of_beq hkey]
      rfl

end Document

namespace Value

/-- Where a path leads from a value. -/
def follow? : Value → List String → Option Value
  | v, [] => some v
  | .document fields, key :: rest => (Document.get? fields key).bind fun v => v.follow? rest
  | _, _ :: _ => none

/-- The value with another one where the path leads, if it leads anywhere. -/
def replace (new : Value) : List String → Value → Value
  | [], _ => new
  | key :: rest, .document fields =>
    .document (fields.map fun field =>
      (field.1, if field.1 = key then replace new rest field.2 else field.2))
  | _ :: _, v => v

theorem follow?_document (fields : Document) (key : String) (rest : List String) :
    (Value.document fields).follow? (key :: rest) =
      (Document.get? fields key).bind fun v => v.follow? rest := by
  rw [follow?]

theorem document_or (v : Value) : (∃ fields, v = .document fields) ∨ ∀ fields, v ≠ .document fields := by
  cases v with
  | document fields => exact .inl ⟨fields, rfl⟩
  | _ => exact .inr fun fields h => by cases h

theorem follow?_cons {v : Value} (h : ∀ fields, v ≠ .document fields) (key : String)
    (rest : List String) : v.follow? (key :: rest) = none := by
  cases v with
  | document fields => exact absurd rfl (h fields)
  | _ => rfl

theorem replace_cons {v : Value} (h : ∀ fields, v ≠ .document fields) (new : Value) (key : String)
    (rest : List String) : replace new (key :: rest) v = v := by
  cases v with
  | document fields => exact absurd rfl (h fields)
  | _ => rfl

variable {path path' : List String}

theorem follow?_append (v : Value) (path path' : List String) :
    v.follow? (path ++ path') = (v.follow? path).bind fun inner => inner.follow? path' := by
  induction path generalizing v with
  | nil => rfl
  | cons key rest ih =>
    rcases v.document_or with ⟨fields, rfl⟩ | hv
    · rw [List.cons_append, follow?_document, follow?_document, Option.bind_assoc]
      exact congrArg (Option.bind _) (funext ih)
    · rw [List.cons_append, follow?_cons hv, follow?_cons hv]
      rfl

/-- Where a value was replaced, its path and the paths on from there lead into the new value. -/
theorem follow?_replace_append (new v : Value) (path path' : List String) :
    (replace new path v).follow? (path ++ path') = (v.follow? path).bind fun _ => new.follow? path' := by
  induction path generalizing v with
  | nil => rfl
  | cons key rest ih =>
    rcases v.document_or with ⟨fields, rfl⟩ | hv
    · rw [replace, List.cons_append, follow?_document, follow?_document, Document.get?_map
        fun k w => if k = key then replace new rest w else w]
      simp only [if_pos, Option.bind_map]
      rw [Option.bind_assoc]
      exact congrArg (Option.bind _) (funext ih)
    · rw [replace_cons hv, List.cons_append, follow?_cons hv, follow?_cons hv]
      rfl

/-- On the way to the replaced value, a path leads to what it led to before, with the value replaced. -/
theorem follow?_replace_above (new v : Value) (path path' : List String) :
    (replace new (path ++ path') v).follow? path = (v.follow? path).map (replace new path') := by
  induction path generalizing v with
  | nil => rfl
  | cons key rest ih =>
    rcases v.document_or with ⟨fields, rfl⟩ | hv
    · rw [List.cons_append, replace, follow?_document, follow?_document, Document.get?_map
        fun k w => if k = key then replace new (rest ++ path') w else w]
      simp only [if_pos, Option.bind_map, Option.map_bind]
      exact congrArg (Option.bind _) (funext ih)
    · rw [List.cons_append, replace_cons hv, follow?_cons hv]
      rfl

/-- A path that parts from the way to the replaced value leads where it led before. -/
theorem follow?_replace (new v : Value) (h : ¬ path <+: path') (h' : ¬ path' <+: path) :
    (replace new path v).follow? path' = v.follow? path' := by
  induction path generalizing v path' with
  | nil => exact absurd List.nil_prefix h
  | cons key rest ih =>
    cases path' with
    | nil => exact absurd List.nil_prefix h'
    | cons key' rest' =>
      rcases v.document_or with ⟨fields, rfl⟩ | hv
      · rw [replace, follow?_document, follow?_document, Document.get?_map
          fun k w => if k = key then replace new rest w else w]
        by_cases hkey : key' = key
        · subst hkey
          rw [List.prefix_cons_inj] at h h'
          simp only [if_pos, Option.bind_map]
          exact congrArg (Option.bind _) (funext fun w => ih w h h')
        · simp [hkey]
      · rw [replace_cons hv]

end Value

namespace Document

theorem at?_cons_cons (d : Document) (key key' : String) (rest : List String) :
    at? d (key :: key' :: rest) = (document? d key).bind fun inner => at? inner (key' :: rest) := by
  rw [at?]
  · cases document? d key <;> rfl
  · exact fun h => by cases h

/-- A path that is not empty leads from a document as from the value that it is. -/
theorem at?_eq_follow? (d : Document) {path : List String} (h : path ≠ []) :
    at? d path = (Value.document d).follow? path := by
  induction path generalizing d with
  | nil => exact absurd rfl h
  | cons key rest ih =>
    rw [Value.follow?_document]
    cases rest with
    | nil => rw [at?]; cases get? d key <;> rfl
    | cons key' rest =>
      rw [at?_cons_cons]
      cases hget : get? d key with
      | none => simp [document?, hget]
      | some v =>
        rcases v.document_or with ⟨fields, rfl⟩ | hv
        · rw [document?_eq_some.2 hget]
          exact ih fields (List.cons_ne_nil _ _)
        · have hnone : document? d key = none :=
            Option.eq_none_iff_forall_ne_some.2 fun fields hfields =>
              hv fields (Option.some.inj (hget.symm.trans (document?_eq_some.1 hfields)))
          rw [hnone, Option.bind_some, Value.follow?_cons hv]
          rfl

theorem at?_append (d : Document) {path : List String} (h : path ≠ []) (path' : List String) :
    at? d (path ++ path') = (at? d path).bind fun v => v.follow? path' := by
  rw [at?_eq_follow? d (List.append_ne_nil_of_left_ne_nil h path'), at?_eq_follow? d h,
    Value.follow?_append]

end Document

end MongoMetrics
