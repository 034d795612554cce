/-
This file proves when the field for a node fits its kind.

The three places that write the rules of a control leave together the bounds of the
node, each at most once: an exclusive bound in place of the inclusive one, and bounds on
items only for an array. What is asked of rules looks at their bounds alone, so whether a
field fits can be read off the keywords of its node.
-/

import Formwork.Proofs.Check.WellFormed
import Formwork.Proofs.Conversion.Block
import Formwork.Proofs.Conversion.Fields

namespace Formwork

/-! ### Rules with the same bounds -/

namespace Validation

variable {validation validation' : Validation}

theorem consistent_congr (same : validation.bounds = validation'.bounds) :
    validation.Consistent ↔ validation'.Consistent := by
  rw [← ownFault?_eq_none_iff, same, ownFault?_eq_none_iff]

theorem sets_congr (same : validation.bounds = validation'.bounds) (group : RuleGroup) :
    validation.Sets group ↔ validation'.Sets group := by
  rw [← carries_iff_sets, same, carries_iff_sets]

theorem consistent_empty : Validation.Consistent {} := ownFault?_eq_none_iff.mp rfl

theorem not_sets_empty (group : RuleGroup) : ¬ Validation.Sets {} group := by
  cases group <;> simp [Sets]

/-- What holds of missing rules is asked of rules whether or not they are missing. -/
theorem forall_mem_iff_getD {holds : Validation → Prop} (empty : holds {})
    {validation : Option Validation} :
    (∀ present ∈ validation, holds present) ↔ holds (validation.getD {}) := by
  cases validation with
  | none => exact iff_of_true (fun _ none => by cases none) empty
  | some present => simp

end Validation

namespace Schema

variable {defaults : FormDefaults}

/-! ### The requirements on one node -/

/-- The bounds that a node sets: an exclusive one in place of the inclusive one, and those on items
only if the node is declared as an array. -/
def boundRules (schema : Schema) : Validation where
  minLength := schema.constraints.minLength
  maxLength := schema.constraints.maxLength
  minimum := schema.constraints.exclusiveMinimum <|> schema.constraints.minimum
  maximum := schema.constraints.exclusiveMaximum <|> schema.constraints.maximum
  step := schema.constraints.multipleOf
  minItems := if schema.declaredKind = .array then schema.constraints.minItems else none
  maxItems := if schema.declaredKind = .array then schema.constraints.maxItems else none

/-- Whether a node declares an object with a property that is not null, or an array with items. -/
def DeclaresNested (schema : Schema) : Prop :=
  (schema.declaredKind = .object ∧ ∃ key node, (key, some node) ∈ schema.properties) ∨
    (schema.declaredKind = .array ∧ schema.applicators.items ≠ none)

/-- What is asked of the keywords of a node by themselves: distinct members of the enumeration,
bounds that can be met and apply to the kind, and neither an enumeration nor a constant where
fields are nested. -/
structure KeywordsAgree (schema : Schema) : Prop where
  choices : (schema.constraints.choices.map Scalar.display).Nodup
  consistent : schema.boundRules.Consistent
  applicable : ∀ group, schema.kind.Forbids group → ¬ schema.boundRules.Sets group
  nested : schema.DeclaresNested →
    schema.constraints.choices = [] ∧ schema.constraints.const = .null

/-! ### Rules -/

/-- The three writers of the rules of a control leave the bounds of the node. -/
theorem bounds_controlValidation (schema : Schema) :
    ((schema.constraints.controlValidation defaults schema.declaredKind).getD {}).bounds =
      schema.boundRules.bounds := by
  rw [Constraints.controlValidation_eq, Validation.getD_unlessEmpty Constraints.rules_explained]
  rfl

/-! ### Kinds -/

/-- The kinds that a node can be declared as. -/
def declarableKinds : List Kind :=
  [.text, .email, .password, .number, .url, .date, .time, .datetime, .textarea, .checkbox,
    .object, .array]

theorem Constraints.stringKind_mem (constraints : Constraints) :
    constraints.stringKind ∈ declarableKinds := by
  unfold stringKind
  split
  · rename_i kind found
    obtain ⟨format, _, found⟩ := Option.bind_eq_some_iff.mp found
    unfold Kind.ofFormat? at found
    split at found <;> cases found <;> decide
  · split
    · split <;> decide
    · decide

theorem Constraints.kindOfType_mem (constraints : Constraints) (type : String) :
    constraints.kindOfType type ∈ declarableKinds := by
  unfold kindOfType
  split <;> first | exact constraints.stringKind_mem | decide

theorem declaredKind_mem (schema : Schema) : schema.declaredKind ∈ declarableKinds := by
  unfold declaredKind declaredKindOf
  split
  · split
    · decide
    · split <;> decide
  · exact Constraints.kindOfType_mem _ _
  · split
    · exact Constraints.kindOfType_mem _ _
    · decide

theorem ofOptionCount_mem (count : Nat) :
    Kind.ofOptionCount count ∈ Kind.optionRequiring := by
  unfold Kind.ofOptionCount
  split <;> decide

/-- The three ways to the kind of a node: by its enumeration, by its constant, and as declared. -/
theorem kind_cases (schema : Schema) :
    (schema.constraints.choices ≠ [] ∧ schema.kind ∈ Kind.optionRequiring) ∨
      (schema.constraints.choices = [] ∧ schema.constraints.const ≠ .null ∧
        schema.kind = .hidden) ∨
      (schema.constraints.choices = [] ∧ schema.constraints.const = .null ∧
        schema.kind = schema.declaredKind) := by
  unfold kind Constraints.kind
  cases given : schema.constraints.choices with
  | cons choice rest => exact Or.inl ⟨by simp, ofOptionCount_mem _⟩
  | nil =>
    by_cases const : schema.constraints.const = .null
    · exact Or.inr (Or.inr ⟨rfl, const, by simp [const]⟩)
    · exact Or.inr (Or.inl ⟨rfl, const, by simp [const]⟩)

/-- Only an enumeration makes a field whose kind asks for options: no type is declared as one. -/
theorem kind_mem_optionRequiring_iff {schema : Schema} :
    schema.kind ∈ Kind.optionRequiring ↔ schema.constraints.choices ≠ [] := by
  rcases schema.kind_cases with ⟨given, chosen⟩ | ⟨none, _, hidden⟩ | ⟨none, _, declared⟩
  · exact iff_of_true chosen given
  · rw [hidden]
    exact iff_of_false (by decide) (not_not_intro none)
  · rw [declared]
    exact iff_of_false
      ((by decide : ∀ kind ∈ declarableKinds, kind ∉ Kind.optionRequiring) _
        schema.declaredKind_mem) (not_not_intro none)

theorem kind_eq_declaredKind {schema : Schema} (none : schema.constraints.choices = [])
    (const : schema.constraints.const = .null) : schema.kind = schema.declaredKind := by
  rcases schema.kind_cases with ⟨given, _⟩ | ⟨_, given, _⟩ | ⟨_, _, declared⟩
  · exact absurd none given
  · exact absurd const given
  · exact declared

/-! ### Fields -/

theorem orderedFields_eq_nil_iff {required : List String}
    {members : List (String × Option Schema)} :
    orderedFields defaults required members = [] ↔ ¬ ∃ key node, (key, some node) ∈ members := by
  rw [orderedFields_eq, List.filterMap_eq_nil_iff]
  constructor
  · rintro missing ⟨key, node, member⟩
    cases missing _ member
  · rintro none ⟨key, node⟩ member
    cases node with
    | none => rfl
    | some node => exact absurd ⟨key, node, member⟩ none

/-- The field for a node has children exactly if the node nests fields. -/
theorem childFields_eq_nil_iff {schema : Schema} :
    schema.childFields defaults = [] ↔ ¬ schema.DeclaresNested := by
  unfold childFields DeclaresNested
  cases schema.declaredKind with
  | object => simp [mappingFields_eq, orderedFields_eq_nil_iff]
  | array => cases schema.applicators.items <;> simp
  | _ => simp

theorem declaredKind_of_nested {schema : Schema} (nested : schema.DeclaresNested) :
    schema.declaredKind ∈ Kind.containers := by
  rcases nested with ⟨object, _⟩ | ⟨array, _⟩
  · rw [object]
    decide
  · rw [array]
    decide

/-- What the field for a node has of the node, whether or not its owner requires it. -/
structure Represents (defaults : FormDefaults) (schema : Schema) (field : Field) : Prop where
  kind : field.control.kind = schema.kind.name
  options : field.control.options = schema.constraints.choices.map .ofScalar
  bounds : (field.control.validation.getD {}).bounds = schema.boundRules.bounds
  children : field.children = schema.childFields defaults

theorem represents_toField (name : String) (schema : Schema) :
    Represents defaults schema (schema.toField defaults name) where
  kind := by rw [toField_control]; rfl
  options := by rw [toField_control]; rfl
  bounds := by rw [toField_control]; exact bounds_controlValidation schema
  children := toField_children name schema

theorem bounds_requireIf (control : Control) (required : List String) :
    ((control.requireIf required).validation.getD {}).bounds =
      (control.validation.getD {}).bounds := by
  unfold Control.requireIf
  split <;> rfl

theorem represents_propertyField (required : List String) (name : String) (schema : Schema) :
    Represents defaults schema (propertyField defaults required name schema) := by
  have represents := @represents_toField defaults name schema
  have kept : ∀ control : Control, (control.requireIf required).kind = control.kind ∧
      (control.requireIf required).options = control.options := by
    intro control
    unfold Control.requireIf
    split <;> exact ⟨rfl, rfl⟩
  exact {
    kind := (kept _).1.trans represents.kind
    options := (kept _).2.trans represents.options
    bounds := (bounds_requireIf _ required).trans represents.bounds
    children := represents.children }

variable {schema : Schema} {field : Field}

theorem Represents.optionTexts (represents : Represents defaults schema field) :
    field.control.optionTexts = schema.constraints.choices.map Scalar.display := by
  rw [Control.optionTexts, represents.options, List.map_map]
  rfl

theorem Represents.consistent_iff (represents : Represents defaults schema field) :
    (∀ validation ∈ field.control.validation, validation.Consistent) ↔
      schema.boundRules.Consistent := by
  rw [Validation.forall_mem_iff_getD Validation.consistent_empty,
    Validation.consistent_congr represents.bounds]

theorem Represents.applicable_iff (represents : Represents defaults schema field) (kind : Kind) :
    (∀ validation ∈ field.control.validation, ∀ group, kind.Forbids group →
      ¬ validation.Sets group) ↔
      ∀ group, kind.Forbids group → ¬ schema.boundRules.Sets group := by
  rw [Validation.forall_mem_iff_getD fun group _ => Validation.not_sets_empty group]
  simp only [Validation.sets_congr represents.bounds]

theorem Represents.keywordsAgree (represents : Represents defaults schema field) {kind : Kind}
    (fits : field.Fits kind) : schema.KeywordsAgree := by
  obtain rfl : kind = schema.kind := by
    have named := congrArg Kind.ofName? (fits.named.symm.trans represents.kind)
    rw [Kind.ofName?_name, Kind.ofName?_name] at named
    exact Option.some.inj named
  refine ⟨?_, represents.consistent_iff.mp fits.consistent,
    (represents.applicable_iff _).mp fits.applicable, fun nested => ?_⟩
  · rw [← represents.optionTexts]
    rcases schema.kind_cases with ⟨_, chosen⟩ | ⟨none, _⟩ | ⟨none, _⟩
    · exact fits.optionsDistinct
        ((by decide : ∀ kind ∈ Kind.optionRequiring, kind ∈ Kind.choices) _ chosen)
    · simp [represents.optionTexts, none]
    · simp [represents.optionTexts, none]
  · have container : schema.kind ∈ Kind.containers := by
      refine Decidable.byContradiction fun notContainer => ?_
      have childless := represents.children.symm.trans (fits.childless notContainer)
      exact childFields_eq_nil_iff.mp childless nested
    rcases schema.kind_cases with ⟨_, chosen⟩ | ⟨_, _, hidden⟩ | ⟨none, const, _⟩
    · exact absurd container
        ((by decide : ∀ kind ∈ Kind.optionRequiring, kind ∉ Kind.containers) _ chosen)
    · rw [hidden] at container
      exact absurd container (by decide)
    · exact ⟨none, const⟩

theorem Represents.fits (represents : Represents defaults schema field)
    (agree : schema.KeywordsAgree) : field.Fits schema.kind where
  named := represents.kind
  optionsPresent requires := by
    rw [represents.options, Ne, List.map_eq_nil_iff]
    exact kind_mem_optionRequiring_iff.mp requires
  optionsAbsent refuses := by
    rw [represents.options, List.map_eq_nil_iff]
    rcases schema.kind_cases with ⟨_, chosen⟩ | ⟨none, _⟩ | ⟨none, _⟩
    · exact absurd refuses
        ((by decide : ∀ kind ∈ Kind.optionRequiring, kind ∉ Kind.optionless) _ chosen)
    · exact none
    · exact none
  optionsDistinct _ := represents.optionTexts ▸ agree.choices
  consistent := represents.consistent_iff.mpr agree.consistent
  applicable := (represents.applicable_iff _).mpr agree.applicable
  childless notContainer := by
    rw [represents.children, childFields_eq_nil_iff]
    intro nested
    obtain ⟨none, const⟩ := agree.nested nested
    rw [kind_eq_declaredKind none const] at notContainer
    exact notContainer (declaredKind_of_nested nested)

/-- The field for a node fits a kind exactly if the keywords of the node agree. -/
theorem Represents.exists_fits_iff (represents : Represents defaults schema field) :
    (∃ kind, field.Fits kind) ↔ schema.KeywordsAgree :=
  ⟨fun ⟨_, fits⟩ => represents.keywordsAgree fits, fun agree => ⟨_, represents.fits agree⟩⟩

end Schema

end Formwork
