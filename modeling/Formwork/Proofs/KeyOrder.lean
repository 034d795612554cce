/-
This file proves that the order of the keys in a schema document does not matter: documents
that differ in it alone are both refused, with the same issues in some order, or give the
same form. The same holds for the order and the repetitions of required names. Where
something other than a name stands in a list of required names, its place is part of an
issue, and so it must keep its place.
-/

import Formwork.Proofs.Pipeline
import Formwork.Proofs.Schema.Reordering

namespace Formwork

open Schema (Reordered Rearranged)

namespace Form

/-- From reordered documents the same form is made, so that its check and its text are the same as
well, or both are refused with the same issues, in some order. -/
theorem ofSchemaDocument_reordered {document document' : Document} {value value' : Json}
    (sameSource : document.source = document'.source) (denotes : document.json? = some value)
    (denotes' : document'.json? = some value') (reordered : Reordered .node value value')
    (defaults : FormDefaults) :
    (∃ form, (ofSchemaDocument defaults document).value = .ok form ∧
      (ofSchemaDocument defaults document').value = .ok form) ∨
    ∃ failure failure', (ofSchemaDocument defaults document).value = .error failure ∧
      (ofSchemaDocument defaults document').value = .error failure' ∧
      failure.target = failure'.target ∧ failure.source = failure'.source ∧
      failure.issues.Perm failure'.issues := by
  rw [value_ofSchemaDocument, value_ofSchemaDocument, Schema.parse, Schema.parse,
    Document.decode_eq denotes, Document.decode_eq denotes', ← sameSource]
  have related := @Schema.related_decode document.source _ _ reordered
  revert related
  generalize Schema.decode document.source value = decoded
  generalize Schema.decode document.source value' = decoded'
  rintro (alike | issues)
  · refine Or.inl ⟨_, rfl, ?_⟩
    exact congrArg Except.ok alike.toForm_eq.symm
  · exact Or.inr ⟨_, _, rfl, rfl, rfl, rfl, issues⟩

/-- A schema document that requires its first property. -/
def requiringSchema : Json :=
  .obj [("required", .arr [.str "email"]),
    ("properties", .obj [("email", .obj [("type", .str "string")]), ("age", .obj [])])]

/-- The schema document with its keys in another order and its required name repeated. -/
def repeatingSchema : Json :=
  .obj [("properties", .obj [("age", .obj []), ("email", .obj [("type", .str "string")])]),
    ("required", .arr [.str "email", .str "email"])]

theorem ofSchemaDocument_of_repeatingSchema :
    ∃ form, (ofSchemaDocument {} (.value requiringSchema)).value = .ok form ∧
      (ofSchemaDocument {} (.value repeatingSchema)).value = .ok form := by
  have names : Rearranged [.str "email"] [.str "email", .str "email"] := by
    refine ⟨fun text => by simp, fun index value other => ?_⟩
    rcases index with _ | _ | index <;> simp [eq_comm, other]
  have required : Reordered (Schema.Role.ofMember .node "required") (.arr [.str "email"])
      (.arr [.str "email", .str "email"]) := .names names
  have keys : Reordered .node requiringSchema repeatingSchema := by
    refine .trans (.member [] [_] required) (.trans (.of_perm (by decide) (by decide) (.swap _ _ _))
      (.member [] [_] ?_))
    exact .of_perm (by decide) (by decide) (.swap _ _ _)
  have sources : (Document.value requiringSchema).source =
      (Document.value repeatingSchema).source := rfl
  have denotes : ∀ value, (Document.value value).json? = some value := fun _ => rfl
  have accepted : ∃ form, (ofSchemaDocument {} (.value requiringSchema)).value = .ok form :=
    ⟨_, rfl⟩
  rcases ofSchemaDocument_reordered sources (denotes _) (denotes _) keys {} with
    same | ⟨_, _, refused, _⟩
  · exact same
  · obtain ⟨form, made⟩ := accepted
    cases made.symm.trans refused

/-- A number among required names is refused at its place, so permuting the list changes the
issues. -/
theorem ofSchemaDocument_permuted_of_number :
    [Json.str "email", .int 1].Perm [.int 1, .str "email"] ∧
      ∃ failure failure',
        (ofSchemaDocument {} (.value (.obj [("required", .arr [.str "email", .int 1])]))).value =
          .error failure ∧
        (ofSchemaDocument {} (.value (.obj [("required", .arr [.int 1, .str "email"])]))).value =
          .error failure' ∧
        ¬ failure.issues.Perm failure'.issues := by
  refine ⟨.swap _ _ _, _, _, rfl, rfl, fun permuted => ?_⟩
  have same := List.perm_singleton.mp permuted
  revert same
  decide

end Form

end Formwork
