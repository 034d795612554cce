/-
This file says which forms are equal to themselves as data. Not-a-number differs from
itself, and nothing else does, so a form is equal to itself exactly if it holds none.
-/

import Formwork.Form.Record
import Formwork.Proofs.Form.Numbers

namespace Formwork

theorem Binary64.sameNumber_self_iff (number : Binary64) :
    number.sameNumber number = true ↔ number ≠ .nan := by
  cases number <;> simp [sameNumber]

/-! ### Members by their names -/

theorem lastMember?_eq_none {α : Type} {name : String} {members : List (String × α)}
    (outside : name ∉ members.map Prod.fst) : lastMember? name members = none := by
  cases found : lastMember? name members with
  | none => rfl
  | some value => exact absurd (List.mem_map_of_mem (mem_of_lastMember? found)) outside

theorem lastMember?_of_mem {α : Type} {members : List (String × α)}
    (distinct : (members.map Prod.fst).Nodup) {member : String × α} (inside : member ∈ members) :
    lastMember? member.1 members = some member.2 := by
  induction members with
  | nil => cases inside
  | cons head rest inductionHypothesis =>
    obtain ⟨first, others⟩ := List.nodup_cons.mp distinct
    rw [lastMember?_cons]
    rcases List.mem_cons.mp inside with rfl | later
    · rw [lastMember?_eq_none first, if_pos rfl, Option.none_or]
    · rw [inductionHypothesis others later, Option.some_or]

namespace Json

/-! ### Values equal to themselves -/

/-- Whether a value is equal to itself as data. -/
def SelfEqual (value : Json) : Prop := value.sameValue value = true

theorem selfEqual_arr {items : List Json} :
    (Json.arr items).SelfEqual ↔ ∀ item ∈ items, item.SelfEqual := by
  show sameItems items items = true ↔ ∀ item ∈ items, item.SelfEqual
  induction items with
  | nil => exact iff_of_true rfl (List.forall_mem_nil _)
  | cons item rest inductionHypothesis =>
    rw [List.forall_mem_cons, ← inductionHypothesis]
    exact Bool.and_eq_true_iff

theorem sameMembers_iff {members members' : List (String × Json)} :
    sameMembers members members' = true ↔ ∀ member ∈ members, ∃ value',
      lastMember? member.1 members' = some value' ∧ member.2.sameValue value' = true := by
  induction members with
  | nil => simp [sameMembers]
  | cons member rest inductionHypothesis =>
    obtain ⟨name, value⟩ := member
    rw [sameMembers, Bool.and_eq_true, inductionHypothesis, List.forall_mem_cons]
    refine and_congr_left fun _ => ?_
    cases lastMember? name members' <;> simp

/-- An object with different names is equal to itself exactly if all of its values are. -/
theorem selfEqual_obj {members : List (String × Json)} (distinct : (members.map Prod.fst).Nodup) :
    (Json.obj members).SelfEqual ↔ ∀ member ∈ members, member.2.SelfEqual := by
  have opened : (Json.obj members).SelfEqual ↔
      (members.length == members.length) = true ∧ sameMembers members members = true :=
    Bool.and_eq_true_iff
  rw [opened, and_iff_right (beq_self_eq_true _), sameMembers_iff]
  refine forall_congr' fun member => imp_congr_right fun inside => ?_
  rw [lastMember?_of_mem distinct inside]
  simp [SelfEqual]

theorem nodup_of_kept {members : List (String × Json)}
    (kept : (Json.obj members).collapse = .obj members) : (members.map Prod.fst).Nodup := by
  rw [collapse_obj] at kept
  rw [← Json.obj.inj kept]
  exact nodup_collapseMembers _

theorem kept_of_mem {members : List (String × Json)}
    (kept : (Json.obj members).collapse = .obj members) {member : String × Json}
    (inside : member ∈ members) : member.2.collapse = member.2 := by
  rw [collapse_obj] at kept
  rw [← Json.obj.inj kept] at inside
  obtain ⟨changed, mapped, same⟩ := exists_mem_of_mem_collapseMembers inside
  obtain ⟨given, _, rfl⟩ := List.mem_map.mp mapped
  rw [same, collapse_collapse]

/-- A value without two members of one name is equal to itself exactly if not-a-number is not
in it. -/
theorem selfEqual_iff {value : Json} (kept : value.collapse = value) :
    value.SelfEqual ↔ value.AllNumbers (· ≠ .nan) := by
  induction value using Json.induction with
  | float number => exact Binary64.sameNumber_self_iff number
  | arr items inductionHypothesis =>
    rw [collapse_arr] at kept
    rw [selfEqual_arr, allNumbers_arr]
    refine forall_congr' fun item => forall_congr' fun inside => inductionHypothesis item inside ?_
    exact List.map_inj_left.mp ((Json.arr.inj kept).trans (List.map_id _).symm) item inside
  | obj members inductionHypothesis =>
    rw [selfEqual_obj (nodup_of_kept kept), allNumbers_obj]
    exact forall_congr' fun member => forall_congr' fun inside =>
      inductionHypothesis member inside (kept_of_mem kept inside)
  | null => exact iff_of_true rfl trivial
  | bool value => exact iff_of_true (beq_self_eq_true value) trivial
  | int value => exact iff_of_true (beq_self_eq_true value) trivial
  | str text => exact iff_of_true (beq_self_eq_true text) trivial

@[simp]
theorem selfEqual_null : Json.null.SelfEqual := (selfEqual_iff rfl).mpr trivial

@[simp]
theorem selfEqual_bool (value : Bool) : (Json.bool value).SelfEqual :=
  (selfEqual_iff rfl).mpr trivial

@[simp]
theorem selfEqual_int (value : Int) : (Json.int value).SelfEqual :=
  (selfEqual_iff rfl).mpr trivial

@[simp]
theorem selfEqual_str (text : String) : (Json.str text).SelfEqual :=
  (selfEqual_iff rfl).mpr trivial

@[simp]
theorem selfEqual_float (number : Binary64) : (Json.float number).SelfEqual ↔ number ≠ .nan :=
  number.sameNumber_self_iff

@[simp]
theorem selfEqual_orNull {α : Type} {encode : α → Json} {value : Option α} :
    (orNull encode value).SelfEqual ↔
      ∀ present, value = some present → (encode present).SelfEqual := by
  cases value <;> simp [orNull]

end Json

/-! ### Records equal to themselves -/

theorem Scalar.selfEqual_toJson (value : Scalar) :
    value.toJson.SelfEqual ↔ value.AllNumbers (· ≠ .nan) :=
  Json.selfEqual_iff value.collapse_toJson

theorem FieldOption.selfEqual_toRecord (option : FieldOption) :
    option.toRecord.SelfEqual ↔ option.value.AllNumbers (· ≠ .nan) := by
  rw [toRecord, Json.selfEqual_obj (by simp)]
  simp [Scalar.selfEqual_toJson]

theorem Validation.selfEqual_toRecord (validation : Validation) :
    validation.toRecord.SelfEqual ↔ ∀ number ∈ validation.numbers, number ≠ .nan := by
  rw [toRecord, Json.selfEqual_obj (by simp), forall_numbers_iff]
  simp

namespace Field

theorem listToRecords_eq_map (fields : List (Option Field)) :
    listToRecords fields = fields.map (Json.orNull toRecord) := by
  induction fields with
  | nil => rfl
  | cons entry rest inductionHypothesis =>
    cases entry <;> simp [listToRecords, Json.orNull, inductionHypothesis]

theorem selfEqual_listToRecords {fields : List (Option Field)} :
    (Json.arr (listToRecords fields)).SelfEqual ↔
      ∀ child, some child ∈ fields → child.toRecord.SelfEqual := by
  rw [Json.selfEqual_arr, listToRecords_eq_map, List.forall_mem_map]
  simp only [Json.selfEqual_orNull]
  exact ⟨fun each child member => each _ member child rfl,
    fun each entry member child same => each child (same ▸ member)⟩

theorem selfEqual_gateToRecord {gate : Gate Field} :
    (gateToRecord gate).SelfEqual ↔ gate.trigger.AllNumbers (· ≠ .nan) ∧
      ∀ part ∈ gateParts (some gate), ∀ child, some child ∈ part → child.toRecord.SelfEqual := by
  obtain ⟨condition, trigger, consequent, alternative⟩ := gate
  rw [gateToRecord, Json.selfEqual_obj (by simp)]
  simp [Scalar.selfEqual_toJson, selfEqual_listToRecords, gateParts]

theorem toRecord_eq (field : Field) :
    field.toRecord = .obj (field.control.recordMembers ++ [
      ("fields", .arr (listToRecords field.children)),
      ("conditional", Json.orNull gateToRecord field.gate),
      ("helpText", Json.orNull .str field.control.helpText)]) := by
  obtain ⟨control, children, gate⟩ := field
  cases gate <;> rfl

/-- The record of a field is equal to itself exactly if neither the field itself holds
not-a-number nor the fields in its parts do. -/
theorem selfEqual_toRecord (field : Field) :
    field.toRecord.SelfEqual ↔
      (field.control.default.SelfEqual ∧ field.AllNumbers (· ≠ .nan)) ∧
        ∀ part ∈ field.parts, ∀ child, some child ∈ part → child.toRecord.SelfEqual := by
  rw [toRecord_eq, Json.selfEqual_obj (by simp [Control.recordMembers]), parts,
    List.forall_mem_cons]
  simp only [Control.recordMembers, List.forall_mem_append, List.forall_mem_cons,
    List.not_mem_nil, false_imp_iff, implies_true, and_true, true_and, Json.selfEqual_str,
    Json.selfEqual_bool, Json.selfEqual_orNull, Json.selfEqual_arr, List.forall_mem_map,
    Scalar.selfEqual_toJson, FieldOption.selfEqual_toRecord, Validation.selfEqual_toRecord,
    selfEqual_gateToRecord, ← Control.forall_ruleNumbers_iff]
  rw [← Json.selfEqual_arr, selfEqual_listToRecords]
  constructor
  · rintro ⟨⟨default, value, options, rules⟩, children, gate⟩
    refine ⟨⟨default, ⟨value, options, rules⟩, fun given held => (gate given held).1⟩,
      children, ?_⟩
    cases held : field.gate with
    | none => exact List.forall_mem_nil _
    | some given => exact (gate given held).2
  · rintro ⟨⟨default, given⟩, children, inGate⟩
    exact ⟨⟨default, given.control.value, given.control.options, given.control.rules⟩, children,
      fun gate held => ⟨given.trigger gate held, held ▸ inGate⟩⟩

end Field

/-- A form is equal to itself exactly if none of its fields holds not-a-number. -/
theorem Form.sameValue_self_iff (form : Form) :
    form.sameValue form = true ↔ ∀ field, form.Has field →
      field.control.default.SelfEqual ∧ field.AllNumbers (· ≠ .nan) := by
  have record : form.toRecord.SelfEqual ↔
      ∀ field, some field ∈ form.fields → field.toRecord.SelfEqual := by
    rw [toRecord, Json.selfEqual_obj (by simp)]
    simp [Field.selfEqual_listToRecords]
  rw [← forall_fields_iff fun field => Field.selfEqual_toRecord field, ← record]
  rfl

end Formwork
