/-
This file proves that a form is written in the same way on both ways there are: directly,
and as a draft. A draft holds the full record of the form, with null, false or an empty
list for every attribute that is not set, and writing it leaves these out, at every depth
and by the table of slots alone.
-/

import Formwork.Draft.Encode
import Formwork.Proofs.Form.Members
import Formwork.Proofs.Form.RoundTrip

namespace Formwork

open Json (member? memberUnlessNull orNull)

namespace Draft

/-! ### Views -/

namespace View

theorem ofJson_arr (items : List Json) : ofJson (.arr items) = ofItems (items.map ofJson) := by
  rw [ofJson, Json.fold_arr]

theorem ofJson_obj (members : List (String × Json)) :
    ofJson (.obj members) = ofMembers (members.map fun member => (member.1, ofJson member.2)) := by
  rw [ofJson, Json.fold_obj]

theorem raw_ofJson (value : Json) : (ofJson value).raw = value := by
  induction value using Json.induction with
  | null => rfl
  | bool value => rfl
  | int value => rfl
  | float value => rfl
  | str text => rfl
  | arr items inductionHypothesis =>
    rw [ofJson_arr]
    refine congrArg Json.arr ?_
    rw [List.map_map]
    exact (List.map_congr_left inductionHypothesis).trans (List.map_id' items)
  | obj members inductionHypothesis =>
    rw [ofJson_obj]
    refine congrArg Json.obj ?_
    rw [List.map_map]
    refine (List.map_congr_left fun member inside => ?_).trans (List.map_id' members)
    simp only [Function.comp_apply, inductionHypothesis member inside]

/-- In a slot for any value all that changes are the numbers without digits. -/
theorem write_any (value : Json) : (ofJson value).write .any = value.finiteOnly := by
  induction value using Json.induction with
  | null => rfl
  | bool value => rfl
  | int value => rfl
  | float value => rfl
  | str text => rfl
  | arr items inductionHypothesis =>
    rw [ofJson_arr, Json.finiteOnly_arr]
    refine congrArg Json.arr ?_
    rw [List.map_map]
    exact List.map_congr_left inductionHypothesis
  | obj members inductionHypothesis =>
    rw [ofJson_obj, Json.finiteOnly_obj]
    refine congrArg Json.obj ?_
    rw [List.map_map]
    refine List.map_congr_left fun member inside => ?_
    simp only [Function.comp_apply, inductionHypothesis member inside]

theorem write_part (record : Record) (members : List (String × Json)) :
    (ofJson (.obj members)).write (.part record) =
      .obj (members.flatMap fun member => writeSlot record member.1 (ofJson member.2)) := by
  rw [ofJson_obj]
  show Json.obj ((members.map _).flatMap _) = _
  rw [List.flatMap_map]

theorem write_parts (record : Record) (items : List Json) :
    (ofJson (.arr items)).write (.parts record) =
      .arr (items.map fun item => (ofJson item).write (.part record)) := by
  rw [ofJson_arr]
  show Json.arr ((items.map _).map _) = _
  rw [List.map_map]
  rfl

end View

/-! ### Slots -/

/-- What the slot under a name holds and when it is left out. -/
def slotShape? (record : Record) (name : String) : Option (Content × Omission) :=
  (record.slotNamed? name).map fun slot => (slot.content, slot.omission)

section Slots

variable {α : Type} {record : Record} {content : Content} {omission : Omission} {name : String}

theorem writeSlot_eq (shape : slotShape? record name = some (content, omission)) (view : View) :
    writeSlot record name view =
      if isLeftOut omission view.raw (view.write content) then []
      else [(name, view.write content)] := by
  obtain ⟨slot, found, same⟩ := Option.map_eq_some_iff.mp shape
  cases same
  rw [writeSlot, found]

theorem isLeftOut_null {raw : Json} (notNull : raw ≠ .null) (written : Json) :
    isLeftOut .null raw written = false := by
  cases raw with
  | null => exact absurd rfl notNull
  | _ => rfl

/-- A slot that is left out when it is null is written if it is set. -/
theorem writeSlot_optional {value : Option α} {encode encode' : α → Json}
    (shape : slotShape? record name = some (content, .null))
    (notNull : ∀ present, encode present ≠ .null)
    (written : ∀ present, value = some present →
      (View.ofJson (encode present)).write content = encode' present) :
    writeSlot record name (View.ofJson (orNull encode value)) = member? name encode' value := by
  rw [writeSlot_eq shape, View.raw_ofJson]
  cases value with
  | none => rfl
  | some present =>
    rw [orNull, isLeftOut_null (notNull present), written present rfl]
    rfl

theorem writeSlot_text {value : Option String}
    (shape : slotShape? record name = some (.text, .null)) :
    writeSlot record name (View.ofJson (orNull .str value)) = member? name .str value :=
  writeSlot_optional shape (by simp) fun _ _ => rfl

theorem writeSlot_count {value : Option Int}
    (shape : slotShape? record name = some (.count, .null)) :
    writeSlot record name (View.ofJson (orNull .int value)) = member? name .int value :=
  writeSlot_optional shape (by simp) fun _ _ => rfl

theorem writeSlot_measure {value : Option Binary64}
    (shape : slotShape? record name = some (.measure, .null)) :
    writeSlot record name (View.ofJson (orNull .float value)) = member? name .float value :=
  writeSlot_optional shape (by simp) fun _ _ => rfl

theorem writeSlot_scalar {value : Scalar}
    (shape : slotShape? record name = some (.scalar, .null)) :
    writeSlot record name (View.ofJson value.toJson) = memberUnlessNull name value.toJson := by
  rw [writeSlot_eq shape]
  cases value <;> rfl

theorem writeSlot_any {value : Json} (shape : slotShape? record name = some (.any, .null)) :
    writeSlot record name (View.ofJson value) =
      member? name Json.finiteOnly value.unlessNull := by
  rw [writeSlot_eq shape, View.raw_ofJson, View.write_any]
  cases value <;> rfl

theorem writeSlot_flag {flag : Bool}
    (shape : slotShape? record name = some (.flag, .nullOrEmpty)) :
    writeSlot record name (View.ofJson (.bool flag)) = flagMember name flag := by
  rw [writeSlot_eq shape]
  cases flag <;> rfl

/-- A list that is left out when it is empty is written if it has items. -/
theorem writeSlot_parts {part : Record} {items written : List Json}
    (shape : slotShape? record name = some (.parts part, .nullOrEmpty))
    (same : items.map (fun item => (View.ofJson item).write (.part part)) = written) :
    writeSlot record name (View.ofJson (.arr items)) = listMember name written := by
  rw [writeSlot_eq shape, View.raw_ofJson, View.write_parts, same]
  cases written <;> rfl

end Slots

/-! ### Records -/

theorem write_option (option : FieldOption) :
    (View.ofJson option.toRecord).write (.part .option) = option.toJson := by
  obtain ⟨label, value⟩ := option
  cases value <;> rfl

theorem write_validation (validation : Validation) :
    (View.ofJson validation.toRecord).write (.part .validation) = validation.toJson := by
  have required : writeSlot .validation "required" (View.ofJson (.bool validation.required)) =
      flagMember "required" validation.required := by
    cases validation.required <;> rfl
  rw [Validation.toRecord, View.write_part, Validation.toJson_eq, Validation.members]
  simp (disch := decide) only [List.flatMap_cons, List.flatMap_nil, List.append_nil,
    List.append_assoc, required, writeSlot_count, writeSlot_measure, writeSlot_text]

section Fields

variable {fields : List (Option Field)}

theorem listToRecords_eq_map (fields : List (Option Field)) :
    Field.listToRecords fields = fields.map (orNull Field.toRecord) := by
  induction fields with
  | nil => rfl
  | cons entry rest inductionHypothesis =>
    cases entry <;> rw [Field.listToRecords, inductionHypothesis] <;> rfl

/-- A list of fields is written as its fields are. -/
theorem write_listToRecords
    (written : ∀ field, some field ∈ fields →
      (View.ofJson field.toRecord).write (.part .field) = field.toJson) :
    (Field.listToRecords fields).map (fun item => (View.ofJson item).write (.part .field)) =
      Field.listToJson fields := by
  rw [listToRecords_eq_map, Field.listToJson_eq_map, List.map_map]
  refine List.map_congr_left fun entry member => ?_
  cases entry with
  | none => rfl
  | some field => exact written field member

theorem write_gate {gate : Gate Field}
    (written : ∀ part ∈ Field.gateParts (some gate), ∀ field, some field ∈ part →
      (View.ofJson field.toRecord).write (.part .field) = field.toJson) :
    (View.ofJson (Field.gateToRecord gate)).write (.part .gate) =
      .obj (Field.gateMembers gate) := by
  obtain ⟨condition, trigger, consequent, alternative⟩ := gate
  obtain ⟨inConsequent, others⟩ := List.forall_mem_cons.mp written
  have inAlternative := List.forall_mem_singleton.mp others
  have name : writeSlot .gate "condition" (View.ofJson (.str condition)) =
      [("condition", .str condition)] := rfl
  rw [Field.gateToRecord, View.write_part, Field.gateMembers]
  simp (disch := decide) only [List.flatMap_cons, List.flatMap_nil, List.append_nil,
    List.append_assoc, name, writeSlot_scalar,
    writeSlot_parts _ (write_listToRecords inConsequent),
    writeSlot_parts _ (write_listToRecords inAlternative)]

theorem toRecord_eq (field : Field) :
    field.toRecord = .obj (field.control.recordMembers ++ [
      ("fields", .arr (Field.listToRecords field.children)),
      ("conditional", orNull Field.gateToRecord field.gate),
      ("helpText", orNull .str field.control.helpText)]) := by
  obtain ⟨control, children, gate⟩ := field
  cases gate <;> rfl

/-- The record of a field is written as the field is. -/
theorem write_toRecord (field : Field) :
    (View.ofJson field.toRecord).write (.part .field) = field.toJson := by
  induction field using Field.induction with
  | step field inductionHypothesis =>
    obtain ⟨inChildren, inGate⟩ := List.forall_mem_cons.mp inductionHypothesis
    have name : writeSlot .field "name" (View.ofJson (.str field.control.name)) =
        [("name", .str field.control.name)] := rfl
    have kind : writeSlot .field "type" (View.ofJson (.str field.control.kind)) =
        [("type", .str field.control.kind)] := rfl
    have options : writeSlot .field "options"
        (View.ofJson (.arr (field.control.options.map FieldOption.toRecord))) =
          listMember "options" (field.control.options.map FieldOption.toJson) := by
      refine @writeSlot_parts .field "options" .option _ _ (by decide) ?_
      rw [List.map_map]
      exact List.map_congr_left fun option _ => write_option option
    have validation : writeSlot .field "validation"
        (View.ofJson (orNull Validation.toRecord field.control.validation)) =
          member? "validation" Validation.toJson field.control.validation :=
      writeSlot_optional (by decide) (fun _ => nofun) fun validation _ =>
        write_validation validation
    have children := @writeSlot_parts .field "fields" .field _ _ (by decide)
      (write_listToRecords inChildren)
    have conditional : writeSlot .field "conditional"
        (View.ofJson (orNull Field.gateToRecord field.gate)) =
          member? "conditional" (fun gate => .obj (Field.gateMembers gate)) field.gate := by
      refine writeSlot_optional (by decide) (fun gate => ?_) fun gate held => write_gate ?_
      · rw [Field.gateToRecord]
        exact nofun
      · rw [held] at inGate
        exact inGate
    rw [toRecord_eq, View.write_part, Field.toJson_eq, Field.members, Control.recordMembers,
      Control.members]
    simp (disch := decide) only [List.flatMap_cons, List.flatMap_nil,
      List.append_nil, List.append_assoc, List.cons_append, List.nil_append, name, kind, options,
      validation, children, conditional, defaultMember_eq, writeSlot_text, writeSlot_any,
      writeSlot_scalar, writeSlot_flag]

end Fields

end Draft

/-- A form is written in the same way directly and as a draft, whose full record is pruned. -/
theorem Form.toJson_toDraft (form : Form) : form.toDraft.toJson = form.toJson := by
  have fields : Draft.writeSlot .form "fields"
      (Draft.View.ofJson (.arr (Field.listToRecords form.fields))) =
        [("fields", .arr (Field.listToJson form.fields))] := by
    rw [Draft.writeSlot_eq (show _ = some (.parts .field, .never) by decide),
      Draft.View.write_parts, Draft.write_listToRecords fun field _ => Draft.write_toRecord field]
    rfl
  rw [Draft.toJson, Form.toDraft, Form.toRecord, Draft.View.write_part, Form.toJson_eq,
    Form.members]
  simp (disch := decide) only [List.flatMap_cons, List.flatMap_nil, List.append_nil,
    List.append_assoc, fields, Draft.writeSlot_text]

end Formwork
