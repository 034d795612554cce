/-
This file bounds how deep the text of a converted form nests by how deep the text of its
schema does. A node one level below another one, as the items of an array are, gives a
field two levels below the field of the other one, in a list of children; so the levels may
double, and they do so for arrays of arrays. All other places of nodes cost less.
-/

import Formwork.Proofs.Conversion.Valid
import Formwork.Proofs.Form.RoundTrip
import Formwork.Proofs.Form.Values
import Formwork.Proofs.Json.Nesting
import Formwork.Proofs.Schema.Origin

namespace Formwork

variable {defaults : FormDefaults} {bound : Nat}

/-! ### Levels of a field -/

theorem Json.depth_str (text : String) : (Json.str text).depth = 0 := rfl

theorem Json.depth_finiteOnly_le (value : Json) : value.finiteOnly.depth ≤ value.depth := by
  induction value using Json.induction with
  | float value => cases value <;> exact Nat.le_refl _
  | arr items inductionHypothesis =>
    rw [finiteOnly_arr]
    refine depth_arr_le_iff.mpr (List.forall_mem_map.mpr fun item inside => ?_)
    exact Nat.lt_of_le_of_lt (inductionHypothesis item inside) (depth_lt_arr inside)
  | obj members inductionHypothesis =>
    rw [finiteOnly_obj]
    refine depth_obj_le_iff.mpr (List.forall_mem_map.mpr fun member inside => ?_)
    exact Nat.lt_of_le_of_lt (inductionHypothesis member inside) (depth_lt_obj inside)
  | _ => exact Nat.le_refl _

/-- Rules are one level of plain values. -/
theorem Validation.depth_toJson_le (validation : Validation) : validation.toJson.depth ≤ 1 := by
  rw [toJson_eq, Json.depth_obj_le_iff]
  simp only [members, List.forall_mem_append, @forall_flagMember_iff fun value => value.depth < 1,
    @forall_member?_iff fun value => value.depth < 1]
  exact ⟨⟨⟨⟨⟨⟨⟨⟨⟨fun _ => Nat.one_pos, fun _ _ => Nat.one_pos⟩, fun _ _ => Nat.one_pos⟩,
    fun _ _ => Nat.one_pos⟩, fun _ _ => Nat.one_pos⟩, fun _ _ => Nat.one_pos⟩,
    fun _ _ => Nat.one_pos⟩, fun _ _ => Nat.one_pos⟩, fun _ _ => Nat.one_pos⟩,
    fun _ _ => Nat.one_pos⟩

theorem FieldOption.depth_toJson_le (option : FieldOption) : option.toJson.depth ≤ 1 := by
  refine Json.depth_obj_le_iff.mpr (List.forall_mem_cons.mpr
    ⟨Nat.one_pos, List.forall_mem_singleton.mpr ?_⟩)
  rw [Scalar.depth_toJson]
  exact Nat.one_pos

/-- Whether a control and its name fit in some levels: plain values need one, rules two and options
three. -/
structure Control.Fits (bound : Nat) (control : Control) : Prop where
  positive : 1 ≤ bound
  default : control.default ≠ .null → control.default.depth < bound
  options : control.options ≠ [] → 3 ≤ bound
  validation : control.validation ≠ none → 2 ≤ bound

theorem Control.Fits.holds {control : Control} (fits : control.Fits bound) :
    control.Holds fun value => value.depth < bound where
  name := fits.positive
  kind := fits.positive
  label _ _ := fits.positive
  description _ _ := fits.positive
  placeholder _ _ := fits.positive
  default present := Nat.lt_of_le_of_lt (Json.depth_finiteOnly_le _) (fits.default present)
  value _ := by
    rw [Scalar.depth_toJson]
    exact fits.positive
  options present := by
    have room := fits.options present
    refine Nat.lt_of_le_of_lt (m := 2) (Json.depth_arr_le_iff.mpr
      (List.forall_mem_map.mpr fun option _ => ?_)) room
    exact Nat.lt_succ_of_le option.depth_toJson_le
  validation validation held := by
    have room := fits.validation (by rw [held]; exact Option.some_ne_none validation)
    exact Nat.lt_of_le_of_lt validation.depth_toJson_le room
  readOnly _ := fits.positive
  deprecated _ := fits.positive

theorem Field.depth_listToJson_lt {fields : List (Option Field)} (room : 2 ≤ bound)
    (each : ∀ field, some field ∈ fields → field.toJson.depth + 2 ≤ bound) :
    (Json.arr (listToJson fields)).depth < bound := by
  have items : ∀ item ∈ listToJson fields, item.depth + 2 ≤ bound :=
    (@forall_listToJson_iff (fun item => item.depth + 2 ≤ bound) _ room).mpr each
  have levels : (Json.arr (listToJson fields)).depth ≤ bound - 1 :=
    Json.depth_arr_le_iff.mpr fun item inside => by
      have := items item inside
      omega
  omega

theorem Field.listToJson_ne_nil {fields : List (Option Field)} :
    listToJson fields ≠ [] ↔ fields ≠ [] := by
  rw [listToJson_eq_map, ne_eq, List.map_eq_nil_iff]

/-- A field fits in some levels if its control does, its children do two levels below it, and the
fields of its gate three levels below it. -/
theorem Field.depth_toJson_le {field : Field} (control : field.control.Fits bound)
    (children : field.children ≠ [] → 2 ≤ bound)
    (gate : field.gate ≠ none → 3 ≤ bound)
    (inChildren : ∀ child, some child ∈ field.children → child.toJson.depth + 2 ≤ bound)
    (inGate : ∀ gate, field.gate = some gate → ∀ part ∈ gateParts (some gate),
      ∀ child, some child ∈ part → child.toJson.depth + 3 ≤ bound) :
    field.toJson.depth ≤ bound := by
  rw [toJson_eq, Json.depth_obj_le_iff, @forall_members_iff fun value => value.depth < bound]
  refine ⟨control.holds, fun present => ?_, fun gate' held => ?_, fun _ _ => control.positive⟩
  · exact depth_listToJson_lt (children (listToJson_ne_nil.mp present)) inChildren
  · have room := gate (by rw [held]; exact Option.some_ne_none gate')
    obtain ⟨consequent, others⟩ := List.forall_mem_cons.mp (inGate gate' held)
    have alternative := others _ (List.mem_singleton_self _)
    have levels : (Json.obj (gateMembers gate')).depth ≤ bound - 1 := by
      rw [Json.depth_obj_le_iff, @forall_gateMembers_iff fun value => value.depth < bound - 1]
      refine ⟨by rw [Json.depth_str]; omega, fun _ => ?_, fun _ => ?_, fun _ => ?_⟩
      · rw [Scalar.depth_toJson]
        omega
      · refine depth_listToJson_lt (by omega) fun child member => ?_
        have := consequent child member
        omega
      · refine depth_listToJson_lt (by omega) fun child member => ?_
        have := alternative child member
        omega
    omega

/-! ### Levels of what a node gives -/

theorem Control.Holds.requireIf {control : Control} (room : 2 ≤ bound)
    (given : control.Holds fun value => value.depth < bound) (required : List String) :
    (control.requireIf required).Holds fun value => value.depth < bound := by
  unfold Control.requireIf
  split
  · exact ⟨given.name, given.kind, given.label, given.description, given.placeholder,
      given.default, given.value, given.options,
      fun validation _ => Nat.lt_of_le_of_lt validation.depth_toJson_le room,
      given.readOnly, given.deprecated⟩
  · exact given

/-- Requiring a value takes two levels, for a block of rules. -/
theorem Field.depth_requireIf_le {field : Field} (room : 2 ≤ bound)
    (given : field.toJson.depth ≤ bound) (required : List String) :
    (field.withControl (field.control.requireIf required)).toJson.depth ≤ bound := by
  rw [toJson_eq, Json.depth_obj_le_iff, @forall_members_iff fun value => value.depth < bound]
    at given ⊢
  obtain ⟨control, children, gate, helpText⟩ := given
  refine ⟨control.requireIf room required, children, gate, fun _ _ => ?_⟩
  exact control.name

namespace Schema

variable {source : Source}

/-- Whether the fields for a node fit in twice the levels of the value that it comes from: its own
field with one level more, and those of its properties two levels below. -/
structure GivesLevels (defaults : FormDefaults) (value : Json) (schema : Schema) : Prop where
  field : ∀ name, (schema.toField defaults name).toJson.depth ≤ 2 * value.depth + 1
  mapping : ∀ child, some child ∈ schema.mappingFields defaults →
    child.toJson.depth + 2 ≤ 2 * value.depth

theorem givesLevels_empty : GivesLevels defaults (.obj []) empty := by
  refine ⟨fun name => ?_, fun _ none => nomatch none⟩
  have control : (empty.toField defaults name).control.Fits 1 := by
    rw [toField_control]
    exact ⟨Nat.le_refl 1, fun present => absurd rfl present, fun present => absurd rfl present,
      fun present => absurd rfl present⟩
  refine Field.depth_toJson_le control ?_ ?_ ?_ ?_
  · rw [toField_children]
    exact fun present => absurd rfl present
  · rw [toField_gate]
    exact fun present => absurd rfl present
  · rw [toField_children]
    exact fun _ none => nomatch none
  · rw [toField_gate]
    exact fun _ none => nomatch none

theorem default_depth_lt {members : List (String × Json)} {annotations : Annotations}
    (nonempty : members ≠ [])
    (read : Annotations.decode (members.map fun member => (member.1, member.2.collapse)) =
      .ok annotations) : annotations.default.depth < (Json.obj members).depth := by
  rcases Annotations.default_of_decode read with null | ⟨member, inside, same⟩
  · obtain ⟨member, rest, rfl⟩ := List.exists_cons_of_ne_nil nonempty
    rw [null]
    exact Nat.lt_of_le_of_lt (Nat.zero_le _) (Json.depth_lt_obj List.mem_cons_self)
  · obtain ⟨given, among, rfl⟩ := List.mem_map.mp inside
    rw [← same]
    exact Nat.lt_of_le_of_lt (Json.depth_collapse_le given.2) (Json.depth_lt_obj among)

/-! ### Levels of a form -/

section Node

variable {members : List (String × Json)} {schema : Schema}
  (parts : PartsFrom (GivesLevels defaults) members schema)
include parts

/-- The field of a property may take a level more than its node, to be required; but the property
lies two levels below the node that has it. -/
theorem depth_mappingFields_le (child : Field)
    (member : some child ∈ schema.mappingFields defaults) :
    child.toJson.depth + 2 ≤ 2 * (Json.obj members).depth := by
  rw [mappingFields_eq] at member
  obtain ⟨name, node, listed, rfl⟩ := some_mem_orderedFields.mp member
  obtain ⟨value, holds, gives⟩ := parts.properties name node listed
  have lower := holds.depth_add_le
  have levels :
      (propertyField defaults (schema.constraints.required.getD []) name node).toJson.depth ≤
        2 * value.depth + 2 :=
    Field.depth_requireIf_le (by omega) (Nat.le_succ_of_le (gives.field name)) _
  omega

theorem depth_branchFields_le {branch : Option Schema}
    (inside : ∀ node, branch = some node → node ∈ schema.parts) (child : Field)
    (member : some child ∈ branchFields defaults branch) :
    child.toJson.depth + 4 ≤ 2 * (Json.obj members).depth := by
  cases branch with
  | none => cases member
  | some node =>
    obtain ⟨levels, value, holds, gives⟩ := parts.parts node (inside node rfl)
    have lower := holds.depth_lt
    have levels := gives.mapping child member
    omega

theorem depth_childFields_le (child : Field) (member : some child ∈ schema.childFields defaults) :
    child.toJson.depth + 1 ≤ 2 * (Json.obj members).depth := by
  unfold childFields at member
  split at member
  · have := depth_mappingFields_le parts child member
    omega
  · split at member
    · rename_i items held
      obtain rfl := Option.some.inj (List.mem_singleton.mp member)
      obtain ⟨levels, value, holds, gives⟩ := parts.parts items (mem_parts_of_items held)
      have lower := holds.depth_lt
      have levels := gives.field arrayItemName
      omega
    · cases member
  · cases member

theorem givesLevels_of_parts (nonempty : members ≠ [])
    (read : ofMembers source (members.map fun member =>
      (member.1, Reading.ofJson source member.2)) = .ok schema) :
    GivesLevels defaults (.obj members) schema := by
  refine ⟨fun name => ?_, depth_mappingFields_le parts⟩
  have default := default_depth_lt nonempty (keywords_of_ofMembers read).2.2
  have control :
      (schema.toField defaults name).control.Fits (2 * (Json.obj members).depth + 1) := by
    rw [toField_control]
    exact ⟨by omega, fun _ => by show schema.annotations.default.depth < _; omega,
      fun _ => by omega, fun _ => by omega⟩
  refine Field.depth_toJson_le control (fun _ => by omega) (fun _ => by omega) ?_ ?_
  · rw [toField_children]
    intro child member
    have := depth_childFields_le parts child member
    omega
  · rw [toField_gate]
    intro gate held
    obtain ⟨trigger, _, rfl⟩ := Option.map_eq_some_iff.mp held
    refine List.forall_mem_cons.mpr ⟨fun child member => ?_, List.forall_mem_singleton.mpr
      fun child member => ?_⟩
    · have := depth_branchFields_le parts (fun _ => mem_parts_of_consequent) child member
      omega
    · have := depth_branchFields_le parts (fun _ => mem_parts_of_alternative) child member
      omega

end Node

variable {value : Json} {schema : Schema}

theorem givesLevels_of_decode (read : Schema.decode source value = .ok schema) :
    GivesLevels defaults value schema := by
  refine decode_induction (fun members node read parts => ?_) read
  cases members with
  | nil =>
    obtain rfl := Decoded.ok.inj read
    exact givesLevels_empty
  | cons member rest => exact givesLevels_of_parts parts (List.cons_ne_nil member rest) read

/-- The form for a schema nests at most twice as deep as the value that the schema was read from,
and three levels. -/
theorem depth_toJson_toForm_le (read : Schema.decode source value = .ok schema) :
    (schema.toForm defaults).toJson.depth ≤ 2 * value.depth + 3 := by
  have gives : GivesLevels defaults value schema := givesLevels_of_decode read
  have fields : ∀ child, some child ∈ (schema.toForm defaults).fields →
      child.toJson.depth + 2 ≤ 2 * value.depth + 3 := by
    rw [fields_toForm_eq]
    intro child member
    split at member
    · have := gives.mapping child member
      omega
    · obtain rfl := Option.some.inj (List.mem_singleton.mp member)
      have := gives.field ""
      omega
  rw [Form.toJson_eq, Json.depth_obj_le_iff]
  simp only [Form.members, List.forall_mem_append, List.forall_mem_singleton,
    @forall_member?_iff fun member => member.depth < 2 * value.depth + 3]
  have room : 0 < 2 * value.depth + 3 := Nat.succ_pos _
  exact ⟨⟨⟨⟨fun _ _ => room, fun _ _ => room⟩, fun _ _ => room⟩, fun _ _ => room⟩,
    Field.depth_listToJson_lt (by omega) fields⟩

end Schema

end Formwork
