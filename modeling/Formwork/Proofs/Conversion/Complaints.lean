/-
This file says what can be wrong with a converted form.

A complaint names the check that failed, and each check is asked of the field for one
visited node. Most checks of a converted field cannot fail: its name is new among its
siblings, it is of a known kind, it has options exactly if its kind asks for them, and its
condition names a property. What is left to fail is what the schema itself says.
-/

import Formwork.Proofs.Check.Findings
import Formwork.Proofs.Conversion.Coherence

namespace Formwork

/-- The faults that the conversion leaves no room for. -/
def Fault.Precluded : Fault → Prop
  | .noField => True
  | .duplicateName _ => True
  | .unknownKind _ => True
  | .optionsMissing _ => True
  | .optionsForbidden _ => True
  | .noCondition => True
  | .unknownMethod _ => True
  | _ => False

/-- A field does not repeat the name of an earlier one in an ascending list. -/
theorem Field.not_mem_names_take {fields : List (Option Field)} (ascend : NamesAscend fields)
    {index : Nat} {field : Field} (found : fields[index]? = some (some field)) :
    field.control.name ∉ names (fields.take index) := by
  intro taken
  obtain ⟨_, smaller⟩ := (mem_names_take_iff ascend found).mp taken
  exact absurd smaller (Bool.eq_false_iff.mp (precedesChars_irrefl _))

namespace Schema

variable {defaults : FormDefaults} {schema : Schema}

/-! ### The checks of one field -/

section Checks

variable {field : Field} {before : List (Option Field)}

theorem Represents.kind?_eq (represents : Represents defaults schema field) :
    field.kind? = some schema.kind := by
  rw [Field.kind?, represents.kind, Kind.ofName?_name]

/-- Of the options of a converted field, only their texts can be wrong. -/
theorem Represents.exists_of_optionsFault? (represents : Represents defaults schema field)
    {fault : Fault} (found : optionsFault? schema.kind field.control.optionTexts = some fault) :
    ∃ text position, fault = .duplicateOption text position := by
  have options : field.control.optionTexts ≠ [] ↔ schema.kind ∈ Kind.optionRequiring := by
    rw [represents.optionTexts, Ne, List.map_eq_nil_iff, kind_mem_optionRequiring_iff]
  unfold optionsFault? at found
  split at found
  · rename_i missing
    obtain ⟨requires, empty⟩ := Bool.and_eq_true_iff.mp missing
    exact absurd (List.isEmpty_iff.mp empty)
      (options.mpr (List.contains_iff_mem.mp requires))
  split at found
  · rename_i stray
    obtain ⟨refuses, given⟩ := Bool.and_eq_true_iff.mp stray
    have requires : schema.kind ∈ Kind.optionRequiring :=
      options.mp fun empty => by simp [empty] at given
    exact absurd (List.contains_iff_mem.mp refuses)
      ((by decide : ∀ kind ∈ Kind.optionRequiring, kind ∉ Kind.optionless) _ requires)
  split at found
  · obtain ⟨⟨text, position⟩, _, same⟩ := Option.map_eq_some_iff.mp found
    exact ⟨text, position, same.symm⟩
  · cases found

/-- Only a field whose kind is not the declared one can have children that it must not have. -/
theorem Represents.of_children_faultOf? (represents : Represents defaults schema field)
    {fault : Fault} (found : FieldCheck.children.faultOf? before field = some fault) :
    schema.constraints.choices ≠ [] ∨ schema.constraints.const ≠ .null := by
  rw [FieldCheck.faultOf?, represents.kind?_eq, Option.bind_some] at found
  split at found
  · cases found
  · rename_i stray
    simp only [Bool.or_eq_true, List.isEmpty_iff, List.contains_iff_mem, not_or] at stray
    refine Classical.not_and_iff_not_or_not.mp fun plain => stray.2 ?_
    rw [kind_eq_declaredKind plain.1 plain.2]
    rcases represents.declaredKind_of_children stray.1 with object | array
    · rw [object]
      decide
    · rw [array]
      decide

end Checks

/-- The gate of the field for a visited node has a condition. -/
theorem Visit.condition_ne_empty {visit : Visit} {gate : Gate Field}
    (held : (visit.field defaults).gate = some gate) :
    gate.condition ≠ "" := by
  have compares := (visit.gives_field.gate gate.condition gate.trigger).mp
    ⟨gate, held, rfl, rfl⟩
  exact compares.1.1

section Faults

variable {visit : Visit} {before : List (Option Field)} {check : FieldCheck} {fault : Fault}

/-- The checks of the field for a visited node find no precluded fault, if no earlier sibling has
its name. -/
theorem Visit.not_precluded_of_faultOf?
    (fresh : (visit.field defaults).control.name ∉ Field.names before)
    (failed : check.faultOf? before (visit.field defaults) = some fault) :
    ¬ fault.Precluded := by
  have represents : Represents defaults visit.node (visit.field defaults) :=
    represents_propertyField visit.required visit.name visit.node
  have reported := FieldCheck.check?_of_faultOf? failed
  have textsOnly : check = .options →
      ∃ text position, fault = .duplicateOption text position := by
    rintro rfl
    rw [FieldCheck.faultOf?, represents.kind?_eq, Option.bind_some] at failed
    exact represents.exists_of_optionsFault? failed
  intro precluded
  cases fault with
  | noField =>
    obtain rfl := Option.some.inj reported
    cases failed
  | duplicateName name =>
    obtain rfl := Option.some.inj reported
    rw [FieldCheck.faultOf?, if_neg fresh] at failed
    cases failed
  | unknownKind kind =>
    obtain rfl := Option.some.inj reported
    rw [FieldCheck.faultOf?, represents.kind?_eq] at failed
    cases failed
  | optionsMissing kind =>
    obtain ⟨_, _, other⟩ := textsOnly (Option.some.inj reported).symm
    cases other
  | optionsForbidden kind =>
    obtain ⟨_, _, other⟩ := textsOnly (Option.some.inj reported).symm
    cases other
  | noCondition =>
    obtain rfl := Option.some.inj reported
    obtain ⟨gate, held, failed⟩ := Option.bind_eq_some_iff.mp failed
    rw [if_neg fun empty => visit.condition_ne_empty held (String.isEmpty_iff.mp empty)] at failed
    split at failed
    · cases failed
    · split at failed <;> cases failed
  | unknownMethod method => cases reported
  | _ => exact precluded

/-- A fault of the field for a visited node: it is not precluded and not one of a whole form, and it
is one of the kind only if the node has an enumeration or a constant. -/
structure Visit.MayHave (visit : Visit) (fault : Fault) : Prop where
  notPrecluded : ¬ fault.Precluded
  notStructural : fault.category ≠ .structural
  replaced : fault.category = .fieldKind →
    visit.node.constraints.choices ≠ [] ∨ visit.node.constraints.const ≠ .null

theorem Visit.mayHave_of_faultOf?
    (fresh : (visit.field defaults).control.name ∉ Field.names before)
    (failed : check.faultOf? before (visit.field defaults) = some fault) :
    visit.MayHave fault := by
  have notPrecluded := visit.not_precluded_of_faultOf? fresh failed
  have reported := FieldCheck.check?_of_faultOf? failed
  refine ⟨notPrecluded, fun structural => ?_, fun ofKind => ?_⟩
  · cases fault with
    | noField => exact notPrecluded trivial
    | noSchema => cases reported
    | noForm => cases reported
    | noFields => cases reported
    | _ => cases structural
  · cases fault with
    | unknownKind kind => exact absurd trivial notPrecluded
    | strayChildren kind =>
      obtain rfl := Option.some.inj reported
      exact (represents_propertyField visit.required visit.name
        visit.node).of_children_faultOf? failed
    | _ => cases ofKind

end Faults

/-! ### Converted forms -/

theorem fields_toForm_eq_nil_iff :
    (schema.toForm defaults).fields = [] ↔
      schema.applicators.properties.isSome ∧ ∀ member ∈ schema.properties, member.2 = none := by
  rw [fields_toForm_eq]
  split
  · rename_i present
    rw [mappingFields_eq, orderedFields_eq_nil_iff, and_iff_right present]
    constructor
    · rintro missing ⟨key, node⟩ member
      cases node with
      | none => rfl
      | some node => exact absurd ⟨key, node, member⟩ missing
    · rintro missing ⟨key, node, member⟩
      cases missing _ member
  · rename_i absent
    exact iff_of_false (List.cons_ne_nil _ _) fun both => absent both.1

/-- A complaint about a converted form is that it has no fields, or it is about the field for a
visited node and is under the path to the place of the node. -/
theorem complaint_toForm_cases {complaint : Complaint}
    (rejected : Form.complaint? (some (schema.toForm {})) = some complaint) :
    ((schema.toForm {}).fields = [] ∧ complaint.fault = .noFields) ∨
      ∃ route visit, schema.Visits route visit ∧ complaint.path = pathOf (schema.place route) ∧
        visit.MayHave complaint.fault := by
  rcases Form.complaint_cases rejected with empty | ⟨method, held, unusable, _⟩ |
    ⟨trail, siblings, index, entry, path, failsAt⟩
  · exact Or.inl empty
  · obtain rfl : "POST" = method := Option.some.inj held
    exact absurd (by decide) unusable.2
  · obtain ⟨check, failed⟩ := failsAt.fails
    cases entry with
    | none =>
      exact absurd (List.mem_of_getElem? failsAt.found)
        (everywhere_present siblings failsAt.below)
    | some field =>
      obtain ⟨route, visit, visits, rfl, rfl⟩ := exists_visits_of_follow? failsAt.leads
      have fresh := Field.not_mem_names_take
        (everywhere_namesAscend siblings failsAt.below) failsAt.found
      exact Or.inr ⟨route, visit, visits, path, Visit.mayHave_of_faultOf? fresh failed⟩

/-- With the default configuration, no complaint about a converted form is about a fault that the
conversion precludes. A complaint is about the structure exactly if the root has properties and
none of them has a schema, and it is about a kind only at a node with an enumeration or a
constant. -/
theorem complaint_about_toForm :
    (∀ complaint, Form.complaint? (some (schema.toForm {})) = some complaint →
      ¬ complaint.fault.Precluded ∧
      (complaint.fault.category = .fieldKind → ∃ route visit, schema.Visits route visit ∧
        complaint.path = pathOf (schema.place route) ∧
        (visit.node.constraints.choices ≠ [] ∨ visit.node.constraints.const ≠ .null))) ∧
    ((∃ complaint, Form.complaint? (some (schema.toForm {})) = some complaint ∧
        complaint.fault.category = .structural) ↔
      schema.applicators.properties.isSome ∧
        ∀ member ∈ schema.properties, member.2 = none) := by
  rw [← @fields_toForm_eq_nil_iff {}]
  refine ⟨fun complaint rejected => ?_, ⟨?_, fun empty => ?_⟩⟩
  · rcases complaint_toForm_cases rejected with
      ⟨_, noFields⟩ | ⟨route, visit, visits, path, mayHave⟩
    · rw [noFields]
      exact ⟨id, nofun⟩
    · exact ⟨mayHave.notPrecluded, fun ofKind =>
        ⟨route, visit, visits, path, mayHave.replaced ofKind⟩⟩
  · rintro ⟨complaint, rejected, structural⟩
    rcases complaint_toForm_cases rejected with ⟨empty, _⟩ | ⟨_, _, _, _, mayHave⟩
    · exact empty
    · exact absurd structural mayHave.notStructural
  · exact ⟨_, Form.complaint?_of_fields_eq_nil empty, rfl⟩

/-- A schema in which a property shown by a condition has both a constant and properties. -/
def straySchema : Schema :=
  .node {}
    { properties := some [
        ("order", some (.node {}
          { condition := some (.node {} { properties := some [("gift", some empty)] } {} {})
            consequent := some (.node {} { properties := some [("card", some (.node {}
              { properties := some [("text", some empty)] } { const := .int 1 } {}))] } {} {}) }
          {} {})),
        ("gift", some (.node {} {} { type := some (.single "boolean") } {}))] } {} {}

/-- The hidden field for the constant must not have the children that its node declares. -/
theorem complaint_about_strayChildren :
    Form.complaint? (some (straySchema.toForm {})) =
        some ⟨"fields[1].conditional.then[0]", .strayChildren "hidden"⟩ ∧
      ∃ route visit, straySchema.Visits route visit ∧
        "fields[1].conditional.then[0]" = pathOf (straySchema.place route) ∧
        (visit.node.constraints.choices ≠ [] ∨ visit.node.constraints.const ≠ .null) := by
  have rejected : Form.complaint? (some (straySchema.toForm {})) =
      some ⟨"fields[1].conditional.then[0]", .strayChildren "hidden"⟩ := by decide +kernel
  exact ⟨rejected, (complaint_about_toForm.1 _ rejected).2 rfl⟩

end Schema

end Formwork
