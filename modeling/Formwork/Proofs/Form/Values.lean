/-
This file says what holds of the values in the serialized representation of a form, for
anything that may hold of a JSON value. A member that is left out has no value, so what
holds of all values of a record is what holds of the value of every attribute that is set.
-/

import Formwork.Proofs.Form.Members
import Formwork.Proofs.Form.Tree

namespace Formwork

variable {holds : Json → Prop}

/-! ### Pieces of at most one member -/

theorem forall_member?_iff {α : Type} {name : String} {encode : α → Json} {value : Option α} :
    (∀ member ∈ Json.member? name encode value, holds member.2) ↔
      ∀ present, value = some present → holds (encode present) :=
  @forall_mem_member?_iff _ (fun member => holds member.2) name encode value

theorem forall_memberUnlessNull_iff {name : String} {value : Json} :
    (∀ member ∈ Json.memberUnlessNull name value, holds member.2) ↔
      (value ≠ .null → holds value) := by
  rw [memberUnlessNull_eq, forall_member?_iff]
  simp [Json.unlessNull_eq_some]

theorem forall_defaultMember_iff {value : Json} :
    (∀ member ∈ defaultMember value, holds member.2) ↔
      (value ≠ .null → holds value.finiteOnly) := by
  rw [defaultMember_eq, forall_member?_iff]
  simp [Json.unlessNull_eq_some]

theorem forall_listMember_iff {name : String} {items : List Json} :
    (∀ member ∈ listMember name items, holds member.2) ↔ (items ≠ [] → holds (.arr items)) := by
  rw [listMember_eq, forall_member?_iff]
  cases items with
  | nil => simp [Json.unlessEmpty]
  | cons item rest => simp [Json.unlessEmpty]

theorem forall_flagMember_iff {name : String} {flag : Bool} :
    (∀ member ∈ flagMember name flag, holds member.2) ↔ (flag = true → holds (.bool true)) := by
  cases flag <;> simp [flagMember]

theorem forall_cons_iff {name : String} {value : Json} {rest : List (String × Json)} :
    (∀ member ∈ (name, value) :: rest, holds member.2) ↔
      holds value ∧ ∀ member ∈ rest, holds member.2 := List.forall_mem_cons

/-! ### Records -/

/-- Whether something holds of all values of a control. -/
structure Control.Holds (holds : Json → Prop) (control : Control) : Prop where
  name : holds (.str control.name)
  kind : holds (.str control.kind)
  label : ∀ text, control.label = some text → holds (.str text)
  description : ∀ text, control.description = some text → holds (.str text)
  placeholder : ∀ text, control.placeholder = some text → holds (.str text)
  default : control.default ≠ .null → holds control.default.finiteOnly
  value : control.value.toJson ≠ .null → holds control.value.toJson
  options : control.options ≠ [] → holds (.arr (control.options.map FieldOption.toJson))
  validation : ∀ validation, control.validation = some validation → holds validation.toJson
  readOnly : control.readOnly = true → holds (.bool true)
  deprecated : control.deprecated = true → holds (.bool true)

theorem Control.forall_members_iff {control : Control} :
    (∀ member ∈ control.members, holds member.2) ↔ control.Holds holds := by
  simp only [members, List.forall_mem_append, forall_cons_iff, forall_member?_iff,
    forall_defaultMember_iff, forall_memberUnlessNull_iff, forall_listMember_iff,
    forall_flagMember_iff, List.not_mem_nil, false_imp_iff, implies_true, and_true, ne_eq,
    List.map_eq_nil_iff]
  constructor
  · rintro ⟨⟨⟨⟨⟨⟨⟨⟨⟨⟨name, kind⟩, label⟩, description⟩, placeholder⟩, default⟩, value⟩, options⟩,
      validation⟩, readOnly⟩, deprecated⟩
    exact ⟨name, kind, label, description, placeholder, default, value, options, validation,
      readOnly, deprecated⟩
  · rintro ⟨name, kind, label, description, placeholder, default, value, options, validation,
      readOnly, deprecated⟩
    exact ⟨⟨⟨⟨⟨⟨⟨⟨⟨⟨name, kind⟩, label⟩, description⟩, placeholder⟩, default⟩, value⟩, options⟩,
      validation⟩, readOnly⟩, deprecated⟩

namespace Field

theorem forall_gateMembers_iff {gate : Gate Field} :
    (∀ member ∈ gateMembers gate, holds member.2) ↔
      holds (.str gate.condition) ∧
        (gate.trigger.toJson ≠ .null → holds gate.trigger.toJson) ∧
        (listToJson gate.consequent ≠ [] → holds (.arr (listToJson gate.consequent))) ∧
        (listToJson gate.alternative ≠ [] → holds (.arr (listToJson gate.alternative))) := by
  simp only [gateMembers, List.forall_mem_append, forall_cons_iff, forall_memberUnlessNull_iff,
    forall_listMember_iff, List.not_mem_nil, false_imp_iff, implies_true, and_true, and_assoc]

theorem forall_members_iff {field : Field} :
    (∀ member ∈ field.members, holds member.2) ↔
      field.control.Holds holds ∧
        (listToJson field.children ≠ [] → holds (.arr (listToJson field.children))) ∧
        (∀ gate, field.gate = some gate → holds (.obj (gateMembers gate))) ∧
        ∀ text, field.control.helpText = some text → holds (.str text) := by
  simp only [members, List.forall_mem_append, Control.forall_members_iff, forall_listMember_iff,
    forall_member?_iff, and_assoc]

/-- What holds of null and of every field of a list holds of the items written for the list. -/
theorem forall_listToJson_iff {fields : List (Option Field)} (null : holds .null) :
    (∀ item ∈ listToJson fields, holds item) ↔
      ∀ field, some field ∈ fields → holds field.toJson := by
  rw [listToJson_eq_map, List.forall_mem_map]
  constructor
  · intro each field member
    exact each (some field) member
  · intro each entry member
    cases entry with
    | none => exact null
    | some field => exact each field member

end Field

end Formwork
