/-
This file proves that a form reads back from its serialized representation, with
numbers without digits in its defaults replaced by null.
-/

import Formwork.Form.Decode
import Formwork.Proofs.Decoding.ReadBack
import Formwork.Proofs.Form.Tree

namespace Formwork

open Json (member? memberUnlessNull)
open Decode

/-! ### Options and rules -/

/-- Rules read back from their members. -/
theorem Validation.ofMembers_members (source : Source) (validation : Validation) :
    ofMembers source validation.members = .ok validation := by
  have required : withDefault ["required"] false bool validation.members =
      .ok validation.required :=
    withDefault_of_flag "required" rfl (by simp [members])
  have minLength : optional ["minLength", "min_length"] int validation.members =
      .ok validation.minLength :=
    optional_of_find? "minLength" .int (by simp [members]) (fun _ _ => rfl) (by simp)
  have maxLength : optional ["maxLength", "max_length"] int validation.members =
      .ok validation.maxLength :=
    optional_of_find? "maxLength" .int (by simp [members]) (fun _ _ => rfl) (by simp)
  have minimum : optional ["min", "minimum"] (float source) validation.members =
      .ok validation.minimum :=
    optional_of_find? "min" .float (by simp [members]) (fun _ _ => rfl) (by simp)
  have maximum : optional ["max", "maximum"] (float source) validation.members =
      .ok validation.maximum :=
    optional_of_find? "max" .float (by simp [members]) (fun _ _ => rfl) (by simp)
  have pattern : optional ["pattern"] text validation.members = .ok validation.pattern :=
    optional_of_find? "pattern" .str (by simp [members]) (fun _ _ => rfl) (by simp)
  have patternError : optional ["patternError", "pattern_error"] text validation.members =
      .ok validation.patternError :=
    optional_of_find? "patternError" .str (by simp [members]) (fun _ _ => rfl) (by simp)
  have step : optional ["step"] (float source) validation.members = .ok validation.step :=
    optional_of_find? "step" .float (by simp [members]) (fun _ _ => rfl) (by simp)
  have minItems : optional ["minItems", "min_items"] int validation.members =
      .ok validation.minItems :=
    optional_of_find? "minItems" .int (by simp [members]) (fun _ _ => rfl) (by simp)
  have maxItems : optional ["maxItems", "max_items"] int validation.members =
      .ok validation.maxItems :=
    optional_of_find? "maxItems" .int (by simp [members]) (fun _ _ => rfl) (by simp)
  rw [ofMembers, required, minLength, maxLength, minimum, maximum, pattern, patternError, step,
    minItems, maxItems]
  rfl

theorem Validation.decode_toJson (source : Source) (validation : Validation) :
    decode source validation.toJson = .ok validation := ofMembers_members source validation

theorem FieldOption.decode_toJson (option : FieldOption) :
    FieldOption.decode option.toJson = .ok option := by
  obtain ⟨label, value⟩ := option
  cases value <;> rfl

/-! ### Normal forms -/

/-- A control with null in place of every number without digits in its default. -/
def Control.normalized (control : Control) : Control :=
  { control with default := control.default.finiteOnly }

namespace Field

mutual

/-- A field with null in place of every number without digits in a default, at any depth. -/
def normalized : Field → Field
  | .mk control children gate =>
    .mk control.normalized (listNormalized children)
      (match gate with
        | some ⟨condition, trigger, consequent, alternative⟩ =>
          some ⟨condition, trigger, listNormalized consequent, listNormalized alternative⟩
        | none => none)
termination_by structural field => field

/-- The fields of a list, each with null in place of the numbers without digits. -/
def listNormalized : List (Option Field) → List (Option Field)
  | [] => []
  | some field :: rest => some (normalized field) :: listNormalized rest
  | none :: rest => none :: listNormalized rest
termination_by structural fields => fields

end

/-- A gate with null in place of the numbers without digits in its fields. -/
def gateNormalized (gate : Gate Field) : Gate Field :=
  { gate with
    consequent := listNormalized gate.consequent
    alternative := listNormalized gate.alternative }

theorem listNormalized_eq_map (fields : List (Option Field)) :
    listNormalized fields = fields.map (Option.map normalized) := by
  induction fields with
  | nil => rfl
  | cons entry rest inductionHypothesis =>
    cases entry <;> simp [listNormalized, inductionHypothesis]

theorem normalized_eq (field : Field) :
    field.normalized =
      .mk field.control.normalized (listNormalized field.children)
        (field.gate.map gateNormalized) := by
  obtain ⟨control, children, gate⟩ := field
  cases gate <;> rfl

end Field

/-- A form with null in place of every number without digits in a default. -/
def Form.normalized (form : Form) : Form :=
  { form with fields := Field.listNormalized form.fields }

/-! ### Readings of serialized values -/

namespace Json

theorem finiteOnly_arr (items : List Json) :
    (Json.arr items).finiteOnly = .arr (items.map finiteOnly) := by
  rw [finiteOnly, fold_arr]

theorem finiteOnly_obj (members : List (String × Json)) :
    (Json.obj members).finiteOnly =
      .obj (members.map fun member => (member.1, member.2.finiteOnly)) := by
  rw [finiteOnly, fold_obj]

/-- Replacing leaves leaves the names of members alone. -/
theorem collapse_finiteOnly (value : Json) :
    value.finiteOnly.collapse = value.collapse.finiteOnly := by
  induction value using Json.induction with
  | null => rfl
  | bool value => rfl
  | int value => rfl
  | float value =>
    cases value <;> rfl
  | str text => rfl
  | arr items inductionHypothesis =>
    rw [finiteOnly_arr, collapse_arr, collapse_arr, finiteOnly_arr, List.map_map, List.map_map]
    exact congrArg Json.arr (List.map_congr_left inductionHypothesis)
  | obj members inductionHypothesis =>
    rw [finiteOnly_obj, collapse_obj, collapse_obj, finiteOnly_obj, List.map_map,
      ← collapseMembers_map, List.map_map]
    refine congrArg (Json.obj ∘ collapseMembers) (List.map_congr_left fun member inside => ?_)
    simp only [Function.comp_apply, inductionHypothesis member inside]

end Json

namespace Field

namespace Reading

theorem ofJson_arr (source : Source) (items : List Json) :
    ofJson source (.arr items) = ofItems (items.map (ofJson source)) := by
  rw [ofJson, Json.fold_arr]

theorem ofJson_obj (source : Source) (members : List (String × Json)) :
    ofJson source (.obj members) =
      ofObject source (members.map fun member => (member.1, ofJson source member.2)) := by
  rw [ofJson, Json.fold_obj]

theorem raw_ofJson (source : Source) (value : Json) :
    (ofJson source value).raw = value.collapse := by
  induction value using Json.induction with
  | null => rfl
  | bool value => rfl
  | int value => rfl
  | float value => rfl
  | str text => rfl
  | arr items inductionHypothesis =>
    rw [ofJson_arr, Json.collapse_arr]
    refine congrArg Json.arr ?_
    rw [List.map_map]
    exact List.map_congr_left inductionHypothesis
  | obj members inductionHypothesis =>
    rw [ofJson_obj, Json.collapse_obj]
    refine congrArg (Json.obj ∘ collapseMembers) ?_
    rw [List.map_map]
    exact List.map_congr_left fun member inside => by
      simp only [Function.comp_apply, inductionHypothesis member inside]

/-- The values of members as they are read. -/
theorem map_raw_ofJson (source : Source) (members : List (String × Json)) :
    ((members.map fun member => (member.1, ofJson source member.2)).map
        fun member => (member.1, member.2.raw)) =
      members.map fun member => (member.1, member.2.collapse) := by
  rw [List.map_map]
  exact List.map_congr_left fun member _ => by
    simp only [Function.comp_apply, raw_ofJson]

end Reading

/-! ### Fields -/

/-- Whether a list of siblings has no gaps, and no default of its fields names a member twice. -/
def Plain (siblings : List (Option Field)) : Prop :=
  ∀ entry ∈ siblings, ∃ field, entry = some field ∧
    field.control.default.collapse = field.control.default

variable {source : Source}

/-- What a record says of a default is the default without the numbers that have no digits. -/
theorem read_default {control : Control}
    (kept : control.default.collapse = control.default) (members : List (String × Json))
    (finds : find? ["default"] members =
      ((control.default.unlessNull).map Json.finiteOnly).map fun member => ("default", member)) :
    withDefault ["default"] .null .ok
        (members.map fun member => (member.1, member.2.collapse)) =
      .ok control.normalized.default := by
  refine read_unlessNull "default" Json.finiteOnly ?_ (fun null => ?_) finds
  · rw [Json.collapse_finiteOnly, kept]
    rfl
  · rw [Control.normalized, null]
    rfl

theorem read_options {options : List FieldOption} (members : List (String × Json))
    (finds : find? ["options"] members =
      ((Json.unlessEmpty (options.map FieldOption.toJson)).map Json.arr).map
        fun member => ("options", member)) :
    withDefault ["options"] [] (list FieldOption.decode)
      (members.map fun member => (member.1, member.2.collapse)) = .ok options := by
  have read : list FieldOption.decode (Json.arr (options.map FieldOption.toJson)).collapse =
      .ok options := by
    rw [collapse_arr_map FieldOption.collapse_toJson]
    exact list_toJson fun option _ => FieldOption.decode_toJson option
  rw [withDefault, entry_map]
  refine entry_of_find? "options" _ finds ?_ ?_
  · intro present held
    cases options with
    | nil => cases held
    | cons first rest =>
      cases held
      exact read
  · intro held
    cases options with
    | nil => rfl
    | cons first rest => cases held

/-- A list of fields under a name reads as the list that the member was written for. -/
theorem read_fields {part : List (Option Field)} (names : List String) (name : String)
    (members : List (String × Json))
    (reads : decodeList source (.arr (listToJson part)) = .ok (listNormalized part))
    (finds : find? names members =
      ((Json.unlessEmpty (listToJson part)).map Json.arr).map fun member => (name, member)) :
    entry names (.ok []) Reading.fields
        (members.map fun member => (member.1, Reading.ofJson source member.2)) =
      .ok (listNormalized part) := by
  rw [entry_map]
  refine entry_of_find? name _ finds ?_ ?_
  · intro present held
    rw [listToJson_eq_map] at held reads
    cases part with
    | nil => cases held
    | cons first rest =>
      cases held
      exact reads
  · intro held
    cases part with
    | nil => rfl
    | cons first rest => cases first <;> cases held

/-- A gate reads back from its members if its lists do. -/
theorem gateOfMembers_gateMembers (gate : Gate Field)
    (parts : ∀ part ∈ gateParts (some gate),
      decodeList source (.arr (listToJson part)) = .ok (listNormalized part)) :
    gateOfMembers ((gateMembers gate).map fun member =>
      (member.1, Reading.ofJson source member.2)) = .ok (gateNormalized gate) := by
  generalize written : gateMembers gate = members
  have condition : required ["condition"] text
      (members.map fun member => (member.1, member.2.collapse)) = .ok gate.condition := by
    rw [required, entry_map]
    exact entry_of_found "condition" (.str gate.condition) (by simp [← written, gateMembers]) rfl
  have trigger : withDefault ["value"] .null scalar
      (members.map fun member => (member.1, member.2.collapse)) = .ok gate.trigger :=
    read_scalar "value" (by simp [← written, gateMembers])
  have consequent : entry ["then"] (.ok []) Reading.fields
      (members.map fun member => (member.1, Reading.ofJson source member.2)) =
        .ok (listNormalized gate.consequent) :=
    read_fields ["then"] "then" members (parts gate.consequent (by simp [gateParts]))
      (by simp [← written, gateMembers])
  have alternative : entry ["else", "else_"] (.ok []) Reading.fields
      (members.map fun member => (member.1, Reading.ofJson source member.2)) =
        .ok (listNormalized gate.alternative) :=
    read_fields ["else", "else_"] "else" members (parts gate.alternative (by simp [gateParts]))
      (by simp [← written, gateMembers])
  rw [gateOfMembers, Reading.map_raw_ofJson, condition, trigger, consequent, alternative]
  rfl

/-- The gate of a field reads back if its lists do. -/
theorem read_gate {gate : Option (Gate Field)} (members : List (String × Json))
    (parts : ∀ part ∈ gateParts gate,
      decodeList source (.arr (listToJson part)) = .ok (listNormalized part))
    (finds : find? ["conditional"] members =
      (gate.map fun gate => Json.obj (gateMembers gate)).map fun member =>
        ("conditional", member)) :
    entry ["conditional"] (.ok none) Reading.gate?
        (members.map fun member => (member.1, Reading.ofJson source member.2)) =
      .ok (gate.map gateNormalized) := by
  rw [entry_map]
  refine entry_of_find? "conditional" (fun gate => .obj (gateMembers gate)) finds ?_ ?_
  · rintro gate rfl
    have read : (Reading.ofJson source (.obj (gateMembers gate))).gate =
        .ok (gateNormalized gate) := by
      rw [Reading.ofJson_obj]
      exact gateOfMembers_gateMembers gate parts
    show (Reading.ofJson source (.obj (gateMembers gate))).gate? = _
    rw [Reading.gate?, Reading.raw_ofJson, Json.collapse_obj, read]
    rfl
  · rintro rfl
    rfl

/-- A field reads back from its members if its parts do. -/
theorem ofMembers_members (field : Field)
    (kept : field.control.default.collapse = field.control.default)
    (parts : ∀ part ∈ field.parts,
      decodeList source (.arr (listToJson part)) = .ok (listNormalized part)) :
    ofMembers source (field.members.map fun member =>
      (member.1, Reading.ofJson source member.2)) = .ok field.normalized := by
  obtain ⟨inChildren, inGate⟩ := List.forall_mem_cons.mp parts
  generalize written : field.members = members
  have name : withDefault ["name"] "" text
      (members.map fun member => (member.1, member.2.collapse)) = .ok field.control.name := by
    rw [withDefault, entry_map]
    exact entry_of_found "name" (.str field.control.name)
      (by simp [← written, Field.members, Control.members]) rfl
  have kind : required ["type", "kind"] text
      (members.map fun member => (member.1, member.2.collapse)) = .ok field.control.kind := by
    rw [required, entry_map]
    exact entry_of_found "type" (.str field.control.kind)
      (by simp [← written, Field.members, Control.members]) rfl
  have label : optional ["label"] text
      (members.map fun member => (member.1, member.2.collapse)) = .ok field.control.label :=
    read_text "label" (by simp [← written, Field.members, Control.members])
  have description : optional ["description"] text
      (members.map fun member => (member.1, member.2.collapse)) =
        .ok field.control.description :=
    read_text "description"
      (by simp [← written, Field.members, Control.members])
  have placeholder : optional ["placeholder"] text
      (members.map fun member => (member.1, member.2.collapse)) =
        .ok field.control.placeholder :=
    read_text "placeholder"
      (by simp [← written, Field.members, Control.members])
  have default := read_default kept members
    (by simp [← written, Field.members, Control.members])
  have value : withDefault ["value"] .null scalar
      (members.map fun member => (member.1, member.2.collapse)) = .ok field.control.value :=
    read_scalar "value" (by simp [← written, Field.members, Control.members])
  have options : withDefault ["options"] [] (list FieldOption.decode)
      (members.map fun member => (member.1, member.2.collapse)) = .ok field.control.options :=
    read_options members (by simp [← written, Field.members, Control.members])
  have validation : optional ["validation"] (Validation.decode source)
      (members.map fun member => (member.1, member.2.collapse)) =
        .ok field.control.validation :=
    optional_map_of_find? Json.collapse "validation" Validation.toJson
      (by simp [← written, Field.members, Control.members]) Validation.collapse_toJson
      (fun validation _ => validation.decode_toJson source) (by simp [Validation.toJson])
  have readOnly : withDefault ["readOnly", "read_only"] false bool
      (members.map fun member => (member.1, member.2.collapse)) = .ok field.control.readOnly := by
    rw [withDefault, entry_map]
    exact withDefault_of_flag "readOnly" rfl
      (by simp [← written, Field.members, Control.members])
  have deprecated : withDefault ["deprecated"] false bool
      (members.map fun member => (member.1, member.2.collapse)) =
        .ok field.control.deprecated := by
    rw [withDefault, entry_map]
    exact withDefault_of_flag "deprecated" rfl
      (by simp [← written, Field.members, Control.members])
  have children : entry ["fields"] (.ok []) Reading.fields
      (members.map fun member => (member.1, Reading.ofJson source member.2)) =
        .ok (listNormalized field.children) :=
    read_fields ["fields"] "fields" members inChildren
      (by simp [← written, Field.members, Control.members])
  have gate : entry ["conditional"] (.ok none) Reading.gate?
      (members.map fun member => (member.1, Reading.ofJson source member.2)) =
        .ok (field.gate.map gateNormalized) :=
    read_gate members inGate (by simp [← written, Field.members, Control.members])
  have helpText : optional ["helpText", "help_text"] text
      (members.map fun member => (member.1, member.2.collapse)) = .ok field.control.helpText :=
    read_text "helpText"
      (by simp [← written, Field.members, Control.members])
  rw [ofMembers, Reading.map_raw_ofJson, name, kind, label, description, placeholder, default,
    value, options, validation, readOnly, deprecated, children, gate, helpText, normalized_eq]
  rfl

theorem decodeList_listToJson_of_forall {part : List (Option Field)} (plain : Plain part)
    (reads : ∀ child, some child ∈ part → decode source child.toJson = .ok child.normalized) :
    decodeList source (.arr (listToJson part)) = .ok (listNormalized part) := by
  have fields : decodeList source (.arr (listToJson part)) =
      .allIndexed ((listToJson part).map fun item => (decode source item).map some) := by
    rw [decodeList, Reading.ofJson_arr]
    show Decoded.allIndexed (((listToJson part).map (Reading.ofJson source)).map _) = _
    rw [List.map_map]
    rfl
  rw [fields, Decoded.allIndexed_eq_ok, listToJson_eq_map, listNormalized_eq_map, List.map_map,
    List.map_map]
  refine List.map_congr_left fun entry member => ?_
  obtain ⟨child, rfl, _⟩ := plain entry member
  simp only [Function.comp_apply, reads child member, Option.map_some]
  rfl

/-- A field without gaps below it reads back from its serialized representation. -/
theorem decode_toJson (field : Field)
    (kept : field.control.default.collapse = field.control.default)
    (plain : ∀ part ∈ field.parts, Everywhere Plain part) :
    decode source field.toJson = .ok field.normalized := by
  induction field using Field.induction with
  | step field inductionHypothesis =>
    rw [decode, toJson_eq, Reading.ofJson_obj]
    refine ofMembers_members field kept fun part inside => ?_
    obtain ⟨here, deeper⟩ := everywhere_iff.mp (plain part inside)
    refine decodeList_listToJson_of_forall here fun child member => ?_
    obtain ⟨field', same, kept'⟩ := here (some child) member
    obtain rfl := Option.some.inj same
    exact inductionHypothesis part inside child member kept' (deeper child member)

theorem decodeList_listToJson {fields : List (Option Field)} (plain : Everywhere Plain fields) :
    decodeList source (.arr (listToJson fields)) = .ok (listNormalized fields) := by
  obtain ⟨here, deeper⟩ := everywhere_iff.mp plain
  refine decodeList_listToJson_of_forall here fun child member => ?_
  obtain ⟨field', same, kept⟩ := here (some child) member
  obtain rfl := Option.some.inj same
  exact decode_toJson child kept (deeper child member)

end Field

namespace Form

/-- The members of a form. -/
def members (form : Form) : List (String × Json) :=
  member? "title" .str form.title ++
    member? "description" .str form.description ++
    member? "action" .str form.action ++
    member? "method" .str form.method ++
    [("fields", .arr (Field.listToJson form.fields))]

theorem toJson_eq (form : Form) : form.toJson = .obj form.members := rfl

/-- A form without gaps reads back from its serialized representation. -/
theorem decode_toJson (source : Source) {form : Form}
    (plain : ∀ siblings, form.SiblingList siblings → Field.Plain siblings) :
    decode source form.toJson = .ok form.normalized := by
  generalize written : form.members = members
  have title : optional ["title"] text members = .ok form.title :=
    optional_of_find? "title" .str (by simp [← written, Form.members]) (fun _ _ => rfl) (by simp)
  have description : optional ["description"] text members = .ok form.description :=
    optional_of_find? "description" .str (by simp [← written, Form.members]) (fun _ _ => rfl)
      (by simp)
  have action : optional ["action"] text members = .ok form.action :=
    optional_of_find? "action" .str (by simp [← written, Form.members]) (fun _ _ => rfl)
      (by simp)
  have method : optional ["method"] text members = .ok form.method :=
    optional_of_find? "method" .str (by simp [← written, Form.members]) (fun _ _ => rfl)
      (by simp)
  have fields : entry ["fields"] (.ok []) (Field.decodeList source) members =
      .ok (Field.listNormalized form.fields) :=
    entry_of_found "fields" (.arr (Field.listToJson form.fields))
      (by simp [← written, Form.members]) (Field.decodeList_listToJson plain)
  rw [toJson_eq, written, decode, title, description, action, method, fields]
  rfl

end Form

end Formwork
