/-
This file proves that the parts of a converted field never drift apart.

The kind, the options, the fixed value and the children of a field are found by four rules
that overlap: the kind asks whether there is an enumeration, whether there is a constant and
which type is declared, the options and the value ask the first two once more, and the
children ask the third alone. What the rules leave together is said of one node and its
field first. A field of a form is then the field for the node whose place it stands at.
-/

import Formwork.Proofs.Conversion.Correspondence

namespace Formwork

namespace Schema

variable {defaults : FormDefaults} {schema : Schema} {field : Field}

/-! ### The kind of a node -/

theorem kind_of_choices (given : schema.constraints.choices ≠ []) :
    schema.kind = .ofOptionCount schema.constraints.choices.length := by
  have nonempty : schema.constraints.choices.isEmpty = false :=
    List.isEmpty_eq_false_iff.mpr given
  rw [kind, Constraints.kind, nonempty]
  rfl

theorem choices_ne_nil_iff :
    schema.constraints.choices ≠ [] ↔ schema.kind = .radio ∨ schema.kind = .select := by
  rw [← kind_mem_optionRequiring_iff]
  simp [Kind.optionRequiring, or_comm]

theorem choices_eq_nil (other : schema.kind ∉ Kind.optionRequiring) :
    schema.constraints.choices = [] :=
  Decidable.byContradiction fun given => other (kind_mem_optionRequiring_iff.mpr given)

theorem ofOptionCount_eq_radio_iff (count : Nat) :
    Kind.ofOptionCount count = .radio ↔ count ≤ 3 := by
  unfold Kind.ofOptionCount radioMaxOptions
  split
  · rename_i few
    exact iff_of_true rfl few
  · rename_i many
    exact iff_of_false (by decide) many

theorem kind_eq_radio_iff :
    schema.kind = .radio ↔
      1 ≤ schema.constraints.choices.length ∧ schema.constraints.choices.length ≤ 3 := by
  by_cases given : schema.constraints.choices = []
  · refine iff_of_false (fun radio => ?_) (by simp [given])
    exact choices_ne_nil_iff.mpr (Or.inl radio) given
  · have some : 1 ≤ schema.constraints.choices.length := List.length_pos_iff.mpr given
    rw [kind_of_choices given, ofOptionCount_eq_radio_iff, and_iff_right some]

theorem kind_eq_select_iff :
    schema.kind = .select ↔ 3 < schema.constraints.choices.length := by
  constructor
  · intro select
    have given := choices_ne_nil_iff.mpr (Or.inr select)
    refine Nat.lt_of_not_le fun few => ?_
    have radio := kind_eq_radio_iff.mpr ⟨List.length_pos_iff.mpr given, few⟩
    exact absurd (radio.symm.trans select) (by decide)
  · intro many
    have given : schema.constraints.choices ≠ [] :=
      List.length_pos_iff.mp (Nat.lt_of_le_of_lt (Nat.zero_le 3) many)
    refine (choices_ne_nil_iff.mp given).resolve_left fun radio => ?_
    exact Nat.not_le_of_lt many (kind_eq_radio_iff.mp radio).2

/-- The conversion makes no field of the four kinds that no keyword asks for. -/
theorem kind_not_mem : schema.kind ∉ [Kind.tel, .month, .week, .file] := by
  rcases schema.kind_cases with ⟨_, chosen⟩ | ⟨_, _, hidden⟩ | ⟨_, _, declared⟩
  · exact (by decide : ∀ kind ∈ Kind.optionRequiring, kind ∉ [Kind.tel, .month, .week, .file])
      _ chosen
  · rw [hidden]
    decide
  · rw [declared]
    exact (by decide : ∀ kind ∈ declarableKinds, kind ∉ [Kind.tel, .month, .week, .file])
      _ schema.declaredKind_mem

/-! ### The fixed value of a node -/

/-- The fixed value of the field for a node: its constant, unless it has an enumeration. -/
def fixedValue (schema : Schema) : Scalar :=
  if schema.constraints.choices.isEmpty then schema.constraints.const else .null

theorem fixedValue_ne_null_iff : schema.fixedValue ≠ .null ↔ schema.kind = .hidden := by
  unfold fixedValue
  rcases schema.kind_cases with ⟨given, chosen⟩ | ⟨none, const, hidden⟩ | ⟨none, const, declared⟩
  · refine iff_of_false (fun fixed => fixed (by simp [given])) fun hidden => ?_
    rw [hidden] at chosen
    exact absurd chosen (by decide)
  · exact iff_of_true (by simpa [none] using const) hidden
  · refine iff_of_false (fun fixed => fixed (by simp [none, const])) fun hidden => ?_
    exact (by decide : ∀ kind ∈ declarableKinds, kind ≠ .hidden) _ schema.declaredKind_mem
      (declared.symm.trans hidden)

theorem fixedValue_of_hidden (hidden : schema.kind = .hidden) :
    schema.fixedValue = schema.constraints.const := by
  refine if_pos (List.isEmpty_iff.mpr (choices_eq_nil ?_))
  rw [hidden]
  decide

theorem value_propertyField (required : List String) (name : String) (schema : Schema) :
    (propertyField defaults required name schema).control.value = schema.fixedValue := by
  have kept : ∀ control : Control, (control.requireIf required).value = control.value := by
    intro control
    unfold Control.requireIf
    split <;> rfl
  refine (kept _).trans ?_
  rw [toField_control]
  rfl

/-! ### One node and its field -/

/-- A field of some kind whose parts fit each other and the node that it stands for. -/
structure Coheres (schema : Schema) (field : Field) (kind : Kind) : Prop where
  named : field.control.kind = kind.name
  convertible : kind ∉ [Kind.tel, .month, .week, .file]
  choice : field.control.options ≠ [] ↔ kind = .radio ∨ kind = .select
  radio : kind = .radio ↔
    1 ≤ field.control.options.length ∧ field.control.options.length ≤ 3
  select : kind = .select ↔ 3 < field.control.options.length
  values : field.control.options.map (·.value) = schema.constraints.choices
  labels : ∀ option ∈ field.control.options, option.label = option.value.display
  fixed : field.control.value ≠ .null ↔ kind = .hidden
  constant : kind = .hidden → field.control.value = schema.constraints.const
  checkbox : kind = .checkbox → field.control.options = []
  nested : field.children ≠ [] →
    schema.declaredKind = .object ∨ schema.declaredKind = .array
  declared : schema.constraints.choices = [] → schema.constraints.const = .null →
    kind = schema.declaredKind
  container : field.children ≠ [] →
    kind = .object ∨ kind = .array ∨
      schema.constraints.choices ≠ [] ∨ schema.constraints.const ≠ .null

theorem Represents.declaredKind_of_children (represents : Represents defaults schema field)
    (nested : field.children ≠ []) :
    schema.declaredKind = .object ∨ schema.declaredKind = .array := by
  rw [represents.children, Ne, childFields_eq_nil_iff, Classical.not_not] at nested
  exact nested.imp And.left And.left

/-- A field with the options, the children and the fixed value of its node is coherent. -/
theorem Represents.coheres (represents : Represents defaults schema field)
    (value : field.control.value = schema.fixedValue) : schema.Coheres field schema.kind where
  named := represents.kind
  convertible := kind_not_mem
  choice := by rw [represents.options, Ne, List.map_eq_nil_iff, ← choices_ne_nil_iff]
  radio := by rw [represents.options, List.length_map, kind_eq_radio_iff]
  select := by rw [represents.options, List.length_map, kind_eq_select_iff]
  values := by
    rw [represents.options, List.map_map]
    exact List.map_id _
  labels := by
    intro option member
    rw [represents.options] at member
    obtain ⟨choice, _, rfl⟩ := List.mem_map.mp member
    rfl
  fixed := by rw [value, fixedValue_ne_null_iff]
  constant hidden := value.trans (fixedValue_of_hidden hidden)
  checkbox checkbox := by
    rw [represents.options, List.map_eq_nil_iff]
    refine choices_eq_nil ?_
    rw [checkbox]
    decide
  nested := represents.declaredKind_of_children
  declared := kind_eq_declaredKind
  container nested := by
    by_cases plain : schema.constraints.choices = [] ∧ schema.constraints.const = .null
    · rw [kind_eq_declaredKind plain.1 plain.2, ← or_assoc]
      exact Or.inl (represents.declaredKind_of_children nested)
    · exact Or.inr (Or.inr (Classical.not_and_iff_not_or_not.mp plain))

/-! ### All fields of a form -/

/-- Every field that a trail leads to stands at the place of a visited node, and its parts fit each
other and the node. -/
theorem coheres_of_follow? {trail : List Segment} {before : List (Option Field)}
    (leads : (schema.toForm defaults).follow? trail = some (before, some field)) :
    ∃ route visit, schema.Visits route visit ∧ schema.place route = trail ∧
      ∃ kind, visit.node.Coheres field kind := by
  obtain ⟨route, visit, visits, placed, rfl⟩ := exists_visits_of_follow? leads
  exact ⟨route, visit, visits, placed, visit.node.kind,
    (represents_propertyField visit.required visit.name visit.node).coheres
      (value_propertyField visit.required visit.name visit.node)⟩

/-- A choice among members of different types. -/
def sizeSchema : Schema :=
  .node {} {}
    { type := some (.single "object"), const := .int 7
      enumeration := some [.text "S", .int 1, .bool true, .null] } {}

/-- A schema of an array of such choices. -/
def sizesSchema : Schema :=
  .node {}
    { properties := some [("sizes", some (.node {} { items := some sizeSchema }
        { type := some (.single "array") } {}))] } {} {}

/-- The items become a choice among four options, in spite of their type and their constant. -/
theorem coheres_of_sizes :
    ∃ before field, (sizesSchema.toForm {}).follow? [.child 0, .child 0] =
        some (before, some field) ∧
      ∃ route visit, sizesSchema.Visits route visit ∧
        sizesSchema.place route = [.child 0, .child 0] ∧
        ∃ kind, visit.node.Coheres field kind ∧ kind = .select := by
  have visits : sizesSchema.Visits [.property "sizes", .item] ⟨arrayItemName, [], sizeSchema⟩ :=
    .property List.mem_cons_self (.step (.item (by decide) rfl) .self)
  have placed : sizesSchema.place [.property "sizes", .item] = [.child 0, .child 0] := by decide
  obtain ⟨before, leads⟩ := visits.follow?_place
  rw [placed] at leads
  obtain ⟨route, visit, visits, placed, kind, coheres⟩ := coheres_of_follow? leads
  refine ⟨before, _, leads, route, visit, visits, placed, kind, coheres,
    coheres.select.mpr ?_⟩
  rw [Visit.field, (represents_propertyField [] arrayItemName sizeSchema).options]
  decide

end Schema

end Formwork
