/-
This file follows paths into JSON values, from an object to the value of a member and from
an array to an item. Replacing leaves does not move what is inside of a value, and what
holds of all leaves of a value holds of all leaves of every part of it.
-/

import Formwork.Decoding.Issue
import Formwork.Proofs.Form.RoundTrip

namespace Formwork

namespace Json

/-- The part of a value that a path leads to. -/
def at? (value : Json) : List LocationStep → Option Json
  | [] => some value
  | .name name :: rest =>
    match value with
    | .obj members => (lastMember? name members).bind fun part => part.at? rest
    | _ => none
  | .index position :: rest =>
    match value with
    | .arr items => items[position]?.bind fun item => item.at? rest
    | _ => none

@[simp]
theorem at?_nil (value : Json) : value.at? [] = some value := by rw [at?]

@[simp]
theorem at?_obj (members : List (String × Json)) (name : String) (rest : List LocationStep) :
    (Json.obj members).at? (.name name :: rest) =
      (lastMember? name members).bind fun part => part.at? rest := by rw [at?]

@[simp]
theorem at?_arr (items : List Json) (position : Nat) (rest : List LocationStep) :
    (Json.arr items).at? (.index position :: rest) =
      items[position]?.bind fun item => item.at? rest := by rw [at?]

theorem at?_append (value : Json) (path rest : List LocationStep) :
    value.at? (path ++ rest) = (value.at? path).bind fun part => part.at? rest := by
  induction path generalizing value with
  | nil => simp
  | cons step path inductionHypothesis =>
    cases step <;> cases value <;> simp [at?, inductionHypothesis, Option.bind_assoc]

/-- Parts stay in their places when numbers without digits are replaced. -/
theorem at?_finiteOnly (value : Json) (path : List LocationStep) :
    value.finiteOnly.at? path = (value.at? path).map finiteOnly := by
  induction path generalizing value with
  | nil => simp
  | cons step path inductionHypothesis =>
    cases value with
    | arr items =>
      rw [finiteOnly_arr]
      cases step with
      | name name => rfl
      | index position =>
        rw [at?_arr, at?_arr, List.getElem?_map]
        cases items[position]? <;> simp [inductionHypothesis]
    | obj members =>
      rw [finiteOnly_obj]
      cases step with
      | index position => rfl
      | name name =>
        rw [at?_obj, at?_obj, lastMember?_map]
        cases lastMember? name members <;> simp [inductionHypothesis]
    | float value => cases value <;> cases step <;> rfl
    | _ => cases step <;> rfl

theorem AllLeaves.at? {holds : Json → Prop} {value part : Json} {path : List LocationStep}
    (leaves : value.AllLeaves holds) (leads : value.at? path = some part) :
    part.AllLeaves holds := by
  induction path generalizing value with
  | nil =>
    obtain rfl := Option.some.inj (value.at?_nil.symm.trans leads)
    exact leaves
  | cons step path inductionHypothesis =>
    cases step with
    | name name =>
      cases value with
      | obj members =>
        rw [at?_obj] at leads
        obtain ⟨next, found, leads⟩ := Option.bind_eq_some_iff.mp leads
        exact inductionHypothesis (allLeaves_obj.mp leaves _ (mem_of_lastMember? found)) leads
      | _ => cases leads
    | index position =>
      cases value with
      | arr items =>
        rw [at?_arr] at leads
        obtain ⟨next, found, leads⟩ := Option.bind_eq_some_iff.mp leads
        exact inductionHypothesis (allLeaves_arr.mp leaves _ (List.mem_of_getElem? found)) leads
      | _ => cases leads

theorem at?_ne_null {value : Json} (leaves : value.AllLeaves (· ≠ .null))
    (path : List LocationStep) : value.at? path ≠ some .null :=
  fun leads => leaves.at? leads rfl

/-- A null inside of an object is a member, or inside of one. -/
theorem exists_of_at?_obj_eq_null {members : List (String × Json)} {path : List LocationStep}
    (leads : (Json.obj members).at? path = some .null) :
    ∃ name rest value, path = .name name :: rest ∧ (name, value) ∈ members ∧
      value.at? rest = some .null := by
  cases path with
  | nil => cases leads
  | cons step rest =>
    cases step with
    | index position => cases leads
    | name name =>
      rw [at?_obj] at leads
      obtain ⟨value, found, leads⟩ := Option.bind_eq_some_iff.mp leads
      exact ⟨name, rest, value, rfl, mem_of_lastMember? found, leads⟩

/-- A null inside of an array is an item, or inside of one. -/
theorem exists_of_at?_arr_eq_null {items : List Json} {path : List LocationStep}
    (leads : (Json.arr items).at? path = some .null) :
    ∃ position rest item, path = .index position :: rest ∧ items[position]? = some item ∧
      item.at? rest = some .null := by
  cases path with
  | nil => cases leads
  | cons step rest =>
    cases step with
    | name name => cases leads
    | index position =>
      rw [at?_arr] at leads
      obtain ⟨item, found, leads⟩ := Option.bind_eq_some_iff.mp leads
      exact ⟨position, rest, item, rfl, found, leads⟩

end Json

/-- A scalar has no parts. -/
theorem Scalar.eq_null_of_at? {value : Scalar} {path : List LocationStep}
    (leads : value.toJson.at? path = some .null) : path = [] ∧ value = .null := by
  cases path with
  | nil =>
    cases value <;> cases leads
    exact ⟨rfl, rfl⟩
  | cons step rest => cases value <;> cases step <;> cases leads

namespace Json

theorem at?_str_ne_null {text : String} {path : List LocationStep} :
    (Json.str text).at? path ≠ some .null :=
  fun leads => nomatch (@Scalar.eq_null_of_at? (.text text) _ leads).2

theorem at?_bool_ne_null {flag : Bool} {path : List LocationStep} :
    (Json.bool flag).at? path ≠ some .null :=
  fun leads => nomatch (@Scalar.eq_null_of_at? (.bool flag) _ leads).2

end Json

end Formwork
