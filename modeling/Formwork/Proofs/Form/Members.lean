/-
This file proves where the attributes of a form stand in its serialized
representation.

Every attribute is written as a member under its own name or not at all, so the
members of a record are pieces of at most one member each. A name is found in the
piece that was written for it and nowhere else.
-/

import Formwork.Form.Encode
import Formwork.Proofs.Decoding.Attribute

namespace Formwork

open Json (member? memberUnlessNull)

variable {α : Type}

/-! ### Pieces of at most one member -/

/-- A value other than null. -/
def Json.unlessNull : Json → Option Json
  | .null => none
  | value => some value

theorem Json.unlessNull_eq_some {value present : Json} :
    value.unlessNull = some present ↔ value ≠ .null ∧ value = present := by
  cases value <;> simp [unlessNull]

theorem Json.unlessNull_eq_none {value : Json} : value.unlessNull = none ↔ value = .null := by
  cases value <;> simp [unlessNull]

/-- A list other than the empty one. -/
def Json.unlessEmpty (items : List Json) : Option (List Json) :=
  if items.isEmpty then none else some items

@[simp]
theorem memberUnlessNull_eq (name : String) (value : Json) :
    memberUnlessNull name value = member? name id value.unlessNull := by
  cases value <;> rfl

@[simp]
theorem defaultMember_eq (value : Json) :
    defaultMember value = member? "default" Json.finiteOnly value.unlessNull := by
  cases value <;> rfl

@[simp]
theorem listMember_eq (name : String) (items : List Json) :
    listMember name items = member? name .arr (Json.unlessEmpty items) := by
  cases items <;> rfl

@[simp]
theorem flagMember_eq (name : String) (flag : Bool) :
    flagMember name flag = member? name .bool (if flag then some true else none) := by
  cases flag <;> rfl

@[simp]
theorem lastMember?_member? (name name' : String) (encode : α → Json) (value : Option α) :
    lastMember? name (member? name' encode value) =
      if name' = name then value.map encode else none := by
  cases value with
  | none => exact (ite_self none).symm
  | some value =>
    by_cases same : name' = name
    · simp [member?, lastMember?, same]
    · simp [member?, lastMember?, same]

@[simp]
theorem lastMember?_cons (name : String) (member : String × α) (rest : List (String × α)) :
    lastMember? name (member :: rest) =
      (lastMember? name rest).or (if member.1 = name then some member.2 else none) := by
  have single : lastMember? name [member] = if member.1 = name then some member.2 else none := by
    by_cases same : member.1 = name <;> simp [lastMember?, same]
  rw [← single, ← lastMember?_append]
  rfl

@[simp]
theorem lastMember?_nil (name : String) : lastMember? name ([] : List (String × α)) = none := rfl

/-- The value of a member is the value it was written for. -/
theorem mem_member?_iff {name : String} {encode : α → Json} {value : Option α}
    {member : String × Json} :
    member ∈ member? name encode value ↔
      ∃ present, value = some present ∧ member = (name, encode present) := by
  cases value <;> simp [member?]

theorem forall_mem_member?_iff {holds : String × Json → Prop} {name : String} {encode : α → Json}
    {value : Option α} :
    (∀ member ∈ member? name encode value, holds member) ↔
      ∀ present, value = some present → holds (name, encode present) := by
  cases value <;> simp [member?]

theorem map_fst_member? (name : String) (encode : α → Json) (value : Option α) :
    (member? name encode value).map Prod.fst = if value.isSome then [name] else [] := by
  cases value <;> rfl

theorem map_fst_member?_sublist (name : String) (encode : α → Json) (value : Option α) :
    ((member? name encode value).map Prod.fst).Sublist [name] := by
  cases value with
  | none => exact List.nil_sublist _
  | some value => exact List.Sublist.refl _

/-! ### The members of records -/

/-- The members of rules. -/
def Validation.members (validation : Validation) : List (String × Json) :=
  flagMember "required" validation.required ++
    member? "minLength" .int validation.minLength ++
    member? "maxLength" .int validation.maxLength ++
    member? "min" .float validation.minimum ++
    member? "max" .float validation.maximum ++
    member? "pattern" .str validation.pattern ++
    member? "patternError" .str validation.patternError ++
    member? "step" .float validation.step ++
    member? "minItems" .int validation.minItems ++
    member? "maxItems" .int validation.maxItems

theorem Validation.toJson_eq (validation : Validation) :
    validation.toJson = .obj validation.members := rfl

theorem Validation.nodup_members (validation : Validation) :
    (validation.members.map Prod.fst).Nodup := by
  have names : (["required"] ++ ["minLength"] ++ ["maxLength"] ++ ["min"] ++ ["max"] ++
      ["pattern"] ++ ["patternError"] ++ ["step"] ++ ["minItems"] ++ ["maxItems"]).Nodup := by
    decide
  refine names.sublist ?_
  simp only [members, flagMember_eq, List.map_append]
  repeat' apply List.Sublist.append
  all_goals exact map_fst_member?_sublist _ _ _

/-- Reading the members of rules again keeps them as they are. -/
theorem Validation.collapse_toJson (validation : Validation) :
    validation.toJson.collapse = validation.toJson := by
  rw [toJson_eq]
  refine Json.collapse_obj_of_nodup validation.nodup_members fun member inside => ?_
  simp only [members, flagMember_eq, List.mem_append] at inside
  rcases inside with ((((((((inside | inside) | inside) | inside) | inside) | inside) | inside) |
    inside) | inside) | inside
  all_goals
    obtain ⟨present, _, rfl⟩ := mem_member?_iff.mp inside
    rfl

theorem FieldOption.collapse_toJson (option : FieldOption) :
    option.toJson.collapse = option.toJson := by
  obtain ⟨label, value⟩ := option
  cases value <;> rfl

namespace Field

/-- The members of a gate. -/
def gateMembers (gate : Gate Field) : List (String × Json) :=
  [("condition", .str gate.condition)] ++
    memberUnlessNull "value" gate.trigger.toJson ++
    listMember "then" (listToJson gate.consequent) ++
    listMember "else" (listToJson gate.alternative)

/-- The members of a field. -/
def members (field : Field) : List (String × Json) :=
  field.control.members ++
    listMember "fields" (listToJson field.children) ++
    member? "conditional" (fun gate => .obj (gateMembers gate)) field.gate ++
    member? "helpText" .str field.control.helpText

theorem toJson_eq (field : Field) : field.toJson = .obj field.members := by
  obtain ⟨control, children, gate⟩ := field
  cases gate <;> rfl

theorem listToJson_eq_map (fields : List (Option Field)) :
    listToJson fields = fields.map fun
      | some field => field.toJson
      | none => .null := by
  induction fields with
  | nil => rfl
  | cons entry rest inductionHypothesis =>
    cases entry <;> simp [listToJson, inductionHypothesis]

end Field

end Formwork
