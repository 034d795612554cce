/-
This file proves that the serialized representation of a form is in normal form. At every
depth an object has the keys of the attributes that are set and no others, and a null stands
only where it is a value: as the value of an option, and at or inside of a default.

A default is the one part of a form that may hold anything, keys of the serialized
representation among them, so what holds of the objects of a form must not be said of all
objects that it contains. A place of a field is therefore reached by a trail through the
form, and never by going into a default.
-/

import Formwork.Proofs.Check.Address
import Formwork.Proofs.Form.Pruning
import Formwork.Proofs.Form.Text
import Formwork.Proofs.Form.Values
import Formwork.Proofs.Json.Path

namespace Formwork

open Json (member? memberUnlessNull orNull)

/-! ### Keys of attributes that are set -/

/-- The keys of the attributes that are set. -/
def keysSet (attributes : List (String × Bool)) : List String :=
  (attributes.filter Prod.snd).map Prod.fst

namespace Json

/-- Whether a value stands for an attribute that is not set: null, false or an empty list. -/
def IsUnset : Json → Prop
  | .null | .bool false | .arr [] => True
  | _ => False

/-- Whether the members of an object have exactly the keys of the attributes that are set, and
those that are not exempt have values. -/
structure Pruned (attributes : List (String × Bool)) (exempt : List String)
    (members : List (String × Json)) : Prop where
  keys : members.map Prod.fst = keysSet attributes
  distinct : (members.map Prod.fst).Nodup
  values : ∀ member ∈ members, member.1 ∉ exempt → ¬ member.2.IsUnset

end Json

/-- The attributes of rules, each under its key and with whether it is set. -/
def Validation.attributes (rules : Validation) : List (String × Bool) := [
  ("required", rules.required),
  ("minLength", rules.minLength.isSome),
  ("maxLength", rules.maxLength.isSome),
  ("min", rules.minimum.isSome),
  ("max", rules.maximum.isSome),
  ("pattern", rules.pattern.isSome),
  ("patternError", rules.patternError.isSome),
  ("step", rules.step.isSome),
  ("minItems", rules.minItems.isSome),
  ("maxItems", rules.maxItems.isSome)]

namespace Field

/-- The attributes of a gate, each under its key and with whether it is set. -/
def gateAttributes (gate : Gate Field) : List (String × Bool) := [
  ("condition", true),
  ("value", gate.trigger ≠ .null),
  ("then", !gate.consequent.isEmpty),
  ("else", !gate.alternative.isEmpty)]

/-- The attributes of a field, each under its key and with whether it is set. -/
def attributes (field : Field) : List (String × Bool) := [
  ("name", true),
  ("type", true),
  ("label", field.control.label.isSome),
  ("description", field.control.description.isSome),
  ("placeholder", field.control.placeholder.isSome),
  ("default", field.control.default.unlessNull.isSome),
  ("value", field.control.value ≠ .null),
  ("options", !field.control.options.isEmpty),
  ("validation", field.control.validation.isSome),
  ("readOnly", field.control.readOnly),
  ("deprecated", field.control.deprecated),
  ("fields", !field.children.isEmpty),
  ("conditional", field.gate.isSome),
  ("helpText", field.control.helpText.isSome)]

end Field

/-- The attributes of a form, each under its key and with whether it is set. The list of fields
counts as set even when it is empty. -/
def Form.attributes (form : Form) : List (String × Bool) := [
  ("title", form.title.isSome),
  ("description", form.description.isSome),
  ("action", form.action.isSome),
  ("method", form.method.isSome),
  ("fields", true)]

/-! ### Normal forms -/

/-- Whether the members of an object are those of a field in normal form. It has its name and its
kind, and of the other keys those whose attributes are set. Its default is the default of the field
but for numbers without digits, and null exactly if it is such a number itself. Its options have
labels and values and nothing else, and rules stay even when none of them is set. -/
structure Field.NormalForm (field : Field) (members : List (String × Json)) : Prop where
  pruned : Json.Pruned field.attributes ["default", "value"] members
  name : ("name", .str field.control.name) ∈ members
  kind : ("type", .str field.control.kind) ∈ members
  default : field.control.default ≠ .null →
    ("default", field.control.default.finiteOnly) ∈ members
  defaultNull : ("default", .null) ∈ members ↔ field.control.default.IsNonFinite
  options : field.control.options ≠ [] →
    ("options", .arr (field.control.options.map fun option =>
      .obj [("label", .str option.label), ("value", option.value.toJson)])) ∈ members
  validation : ∀ rules, field.control.validation = some rules →
    ∃ written, ("validation", .obj written) ∈ members ∧ Json.Pruned rules.attributes [] written
  conditional : ∀ gate, field.gate = some gate →
    ∃ written, ("conditional", .obj written) ∈ members ∧
      Json.Pruned (gateAttributes gate) ["value"] written

/-- The paths from a field to its own nulls: to the null value of an option, and to a null or a
number without digits at or inside of its default. -/
inductive Field.NullAt (field : Field) : List LocationStep → Prop where
  | option {position : Nat} {label : String} :
    field.control.options[position]? = some ⟨label, .null⟩ →
      NullAt field [.name "options", .index position, .name "value"]
  | default {path : List LocationStep} {part : Json} :
    field.control.default ≠ .null → field.control.default.at? path = some part →
      part = .null ∨ part.IsNonFinite → NullAt field (.name "default" :: path)

/-- The path that a step to a field takes in the serialized representation. -/
def Segment.place : Segment → List LocationStep
  | .child position => [.name "fields", .index position]
  | .consequent position => [.name "conditional", .name "then", .index position]
  | .alternative position => [.name "conditional", .name "else", .index position]

/-- Whether a value is the normal form of a form. Its list of fields is there even when it is empty.
The place that a trail leads to holds the normal form of the field there, and there are no other
places of fields. A null is the null value of an option, or lies at or inside of a default. -/
structure Form.NormalForm (form : Form) (json : Json) : Prop where
  pruned : ∃ members, json = .obj members ∧ Json.Pruned form.attributes ["fields"] members
  list : ∃ items, json.at? [.name "fields"] = some (.arr items) ∧
    items.length = form.fields.length
  fields : ∀ trail before field, form.follow? trail = some (before, some field) →
    ∃ members, json.at? (trail.flatMap Segment.place) = some (.obj members) ∧
      field.NormalForm members
  places : ∀ trail ≠ [], form.follow? trail = none →
    json.at? (trail.flatMap Segment.place) = none
  nulls : ∀ path, json.at? path = some .null ↔
    ∃ trail before field rest, form.follow? trail = some (before, some field) ∧
      field.NullAt rest ∧ path = trail.flatMap Segment.place ++ rest

/-! ### Keys that are there -/

@[simp]
theorem keysSet_cons (key : String) (set : Bool) (rest : List (String × Bool)) :
    keysSet ((key, set) :: rest) = (if set then [key] else []) ++ keysSet rest := by
  cases set <;> rfl

@[simp]
theorem keysSet_nil : keysSet [] = [] := rfl

theorem isSome_unlessEmpty (items : List Json) :
    (Json.unlessEmpty items).isSome = !items.isEmpty := by
  cases items <;> rfl

/-- An object has distinct keys if the attributes have. -/
theorem Json.Pruned.of_keys {attributes : List (String × Bool)} {exempt : List String}
    {members : List (String × Json)} (distinct : (attributes.map Prod.fst).Nodup)
    (keys : members.map Prod.fst = keysSet attributes)
    (values : ∀ member ∈ members, member.1 ∉ exempt → ¬ member.2.IsUnset) :
    Json.Pruned attributes exempt members :=
  ⟨keys, keys ▸ distinct.sublist (List.filter_sublist.map Prod.fst), values⟩

theorem Validation.pruned_members (rules : Validation) :
    Json.Pruned rules.attributes [] rules.members := by
  refine .of_keys (by simp [attributes]) ?_ ?_
  · simp [members, attributes, map_fst_member?]
  · simp only [members, flagMember_eq, List.forall_mem_append, forall_mem_member?_iff]
    simp [Json.IsUnset]

namespace Field

theorem isEmpty_listToJson (fields : List (Option Field)) :
    (listToJson fields).isEmpty = fields.isEmpty := by
  rw [listToJson_eq_map, List.isEmpty_map]

theorem isSome_unlessNull_toJson (value : Scalar) :
    value.toJson.unlessNull.isSome = decide (value ≠ .null) := by
  cases value <;> rfl

theorem eq_of_unlessEmpty {items present : List Json}
    (held : Json.unlessEmpty items = some present) : present = items := by
  cases items <;> cases held
  rfl

theorem not_isUnset_of_unlessEmpty {items present : List Json}
    (held : Json.unlessEmpty items = some present) : ¬ (Json.arr present).IsUnset := by
  cases items with
  | nil => cases held
  | cons item rest =>
    cases held
    exact not_false

theorem not_isUnset_of_flag {flag present : Bool}
    (held : (if flag then some true else none) = some present) : ¬ (Json.bool present).IsUnset := by
  cases flag <;> cases held
  exact not_false

theorem pruned_gateMembers (gate : Gate Field) :
    Json.Pruned (gateAttributes gate) ["value"] (gateMembers gate) := by
  refine .of_keys (by simp [gateAttributes]) ?_ ?_
  · simp [gateMembers, gateAttributes, map_fst_member?, isSome_unlessEmpty, isEmpty_listToJson,
      isSome_unlessNull_toJson]
  · simp only [gateMembers, memberUnlessNull_eq, listMember_eq, List.forall_mem_append,
      forall_mem_member?_iff, List.forall_mem_singleton]
    refine ⟨⟨⟨fun _ => not_false, by simp⟩, ?_⟩, ?_⟩
    · exact fun present held _ => not_isUnset_of_unlessEmpty held
    · exact fun present held _ => not_isUnset_of_unlessEmpty held

theorem pruned_members (field : Field) :
    Json.Pruned field.attributes ["default", "value"] field.members := by
  refine .of_keys (by simp [attributes]) ?_ ?_
  · simp [members, Control.members, attributes, map_fst_member?, isSome_unlessEmpty,
      isEmpty_listToJson, isSome_unlessNull_toJson]
  · simp only [members, Control.members, memberUnlessNull_eq, listMember_eq, flagMember_eq,
      defaultMember_eq, List.forall_mem_append, forall_mem_member?_iff, List.forall_mem_cons]
    refine ⟨⟨⟨⟨⟨⟨⟨⟨⟨⟨⟨⟨⟨fun _ => not_false, fun _ => not_false, by simp⟩, fun _ _ _ => not_false⟩,
      fun _ _ _ => not_false⟩, fun _ _ _ => not_false⟩, by simp⟩, by simp⟩, ?_⟩,
      fun _ _ _ => not_false⟩, ?_⟩, ?_⟩, ?_⟩, fun _ _ _ => not_false⟩, fun _ _ _ => not_false⟩
    · exact fun present held _ => not_isUnset_of_unlessEmpty held
    · exact fun flag held _ => not_isUnset_of_flag held
    · exact fun flag held _ => not_isUnset_of_flag held
    · exact fun present held _ => not_isUnset_of_unlessEmpty held

theorem default_null_mem_members_iff {field : Field} :
    ("default", .null) ∈ field.members ↔ field.control.default.IsNonFinite := by
  have written : ("default", .null) ∈ field.members ↔
      ∃ present, field.control.default.unlessNull = some present ∧
        Json.null = present.finiteOnly := by
    simp [members, Control.members, mem_member?_iff]
  rw [written]
  constructor
  · rintro ⟨present, held, null⟩
    obtain ⟨set, rfl⟩ := Json.unlessNull_eq_some.mp held
    exact (Json.finiteOnly_eq_null_iff.mp null.symm).resolve_left set
  · intro nonFinite
    refine ⟨field.control.default, Json.unlessNull_eq_some.mpr ⟨fun null => ?_, rfl⟩,
      (Json.finiteOnly_eq_null_iff.mpr (.inr nonFinite)).symm⟩
    rw [null] at nonFinite
    exact nonFinite

/-- What is written for a field is in normal form. -/
theorem normalForm_members (field : Field) : field.NormalForm field.members := by
  refine ⟨field.pruned_members, ?_, ?_, fun set => mem_of_lastMember? ?_,
    default_null_mem_members_iff, fun set => mem_of_lastMember? ?_,
    fun rules held => ⟨rules.members, ?_, rules.pruned_members⟩,
    fun gate held => ⟨gateMembers gate, ?_, pruned_gateMembers gate⟩⟩
  · simp [members, Control.members]
  · simp [members, Control.members]
  · simp [members, Control.members, Json.unlessNull_eq_some.mpr ⟨set, rfl⟩]
  · have written : Json.unlessEmpty (field.control.options.map FieldOption.toJson) =
        some (field.control.options.map FieldOption.toJson) := by
      rw [Json.unlessEmpty, if_neg]
      simpa using set
    show lastMember? "options" field.members =
      some (.arr (field.control.options.map FieldOption.toJson))
    simp [members, Control.members, written]
  · simp [members, Control.members, held, member?, Validation.toJson_eq]
  · simp [members, held, member?]

/-! ### Places of fields -/

theorem getElem?_listToJson (fields : List (Option Field)) (position : Nat) :
    (listToJson fields)[position]? = fields[position]?.map (orNull toJson) := by
  rw [listToJson_eq_map, List.getElem?_map]
  refine congrArg (fun encode => fields[position]?.map encode) (funext fun entry => ?_)
  cases entry <;> rfl

/-- A list that is left out when it is empty has its items where a list would have them. -/
theorem bind_unlessEmpty (items : List Json) (position : Nat) (rest : List LocationStep) :
    (((Json.unlessEmpty items).map Json.arr).bind fun value =>
        value.at? (.index position :: rest)) =
      items[position]?.bind fun item => item.at? rest := by
  cases items with
  | nil => rfl
  | cons first others => exact Json.at?_arr _ _ _

theorem bind_listToJson (fields : List (Option Field)) (position : Nat)
    (rest : List LocationStep) :
    (((Json.unlessEmpty (listToJson fields)).map Json.arr).bind fun value =>
        value.at? (.index position :: rest)) =
      fields[position]?.bind fun entry => (orNull toJson entry).at? rest := by
  rw [bind_unlessEmpty, getElem?_listToJson, Option.bind_map]
  rfl

/-- A list of a gate is found under its key. -/
theorem at?_conditional (field : Field) {key : String} {part : Gate Field → List (Option Field)}
    (branch : ∀ gate, lastMember? key (gateMembers gate) =
      (Json.unlessEmpty (listToJson (part gate))).map Json.arr)
    (position : Nat) (rest : List LocationStep) :
    field.toJson.at? (.name "conditional" :: .name key :: .index position :: rest) =
      ((field.gate.map part).getD [])[position]?.bind fun entry =>
        (orNull toJson entry).at? rest := by
  have gate : lastMember? "conditional" field.members =
      field.gate.map fun gate => .obj (gateMembers gate) := by
    simp [members, Control.members]
  rw [toJson_eq, Json.at?_obj, gate]
  cases field.gate with
  | none => rfl
  | some gate =>
    rw [Option.map_some, Option.bind_some, Json.at?_obj, branch, bind_listToJson]
    rfl

/-- One step further the serialized representation of a field has the fields of its lists. -/
theorem at?_place (field : Field) (segment : Segment) (rest : List LocationStep) :
    field.toJson.at? (segment.place ++ rest) =
      (field.inside segment)[segment.position]?.bind fun entry =>
        (orNull toJson entry).at? rest := by
  cases segment with
  | child position =>
    have children : lastMember? "fields" field.members =
        (Json.unlessEmpty (listToJson field.children)).map Json.arr := by
      simp [members, Control.members]
    show field.toJson.at? (.name "fields" :: .index position :: rest) = _
    rw [toJson_eq, Json.at?_obj, children, bind_listToJson]
    rfl
  | consequent position => exact field.at?_conditional (by simp [gateMembers]) position rest
  | alternative position => exact field.at?_conditional (by simp [gateMembers]) position rest

/-- The place of every field that a trail leads to holds the field, and other places hold
nothing. -/
theorem at?_follow? (before : List (Option Field)) (entry : Option Field)
    (trail : List Segment) :
    (orNull toJson entry).at? (trail.flatMap Segment.place) =
      (follow? before entry trail).map fun reached => orNull toJson reached.2 := by
  induction trail generalizing before entry with
  | nil => simp [follow?]
  | cons segment trail inductionHypothesis =>
    rw [List.flatMap_cons, follow?]
    cases entry with
    | none => cases segment <;> rfl
    | some field =>
      rw [Option.bind_some, orNull, at?_place]
      cases (field.inside segment)[segment.position]? with
      | none => rfl
      | some next => exact inductionHypothesis _ next

/-! ### Nulls -/

/-- A null of a field is one of its own or lies in one of its lists. -/
def NullFrom (field : Field) (path : List LocationStep) : Prop :=
  field.NullAt path ∨ ∃ segment entry rest, (field.inside segment)[segment.position]? = some entry ∧
    (orNull toJson entry).at? rest = some .null ∧ path = segment.place ++ rest

theorem allLeaves_validation (rules : Validation) :
    rules.toJson.AllLeaves (· ≠ .null) := by
  rw [Validation.toJson_eq, Json.allLeaves_obj]
  simp only [Validation.members, flagMember_eq, List.forall_mem_append, forall_mem_member?_iff]
  simp [Json.AllLeaves, Json.fold]

/-- A scalar other than null holds no null. -/
theorem at?_ne_null_of_unlessNull {value : Scalar} {present : Json} {path : List LocationStep}
    (held : value.toJson.unlessNull = some present) : present.at? path ≠ some .null := by
  obtain ⟨notNull, rfl⟩ := Json.unlessNull_eq_some.mp held
  intro leads
  rw [(Scalar.eq_null_of_at? leads).2] at notNull
  exact notNull rfl

theorem nullAt_options {field : Field} {path : List LocationStep}
    (leads : (Json.arr (field.control.options.map FieldOption.toJson)).at? path = some .null) :
    field.NullAt (.name "options" :: path) := by
  obtain ⟨position, rest, item, rfl, found, leads⟩ := Json.exists_of_at?_arr_eq_null leads
  rw [List.getElem?_map] at found
  obtain ⟨⟨label, value⟩, held, rfl⟩ := Option.map_eq_some_iff.mp found
  obtain ⟨name, rest, part, rfl, written, leads⟩ := Json.exists_of_at?_obj_eq_null leads
  rcases List.mem_cons.mp written with same | written
  · cases same
    exact absurd leads Json.at?_str_ne_null
  · cases List.mem_singleton.mp written
    obtain ⟨rfl, rfl⟩ := Scalar.eq_null_of_at? leads
    exact .option held

theorem nullAt_default {field : Field} {path : List LocationStep} {present : Json}
    (held : field.control.default.unlessNull = some present)
    (leads : present.finiteOnly.at? path = some .null) :
    field.NullAt (.name "default" :: path) := by
  obtain ⟨set, rfl⟩ := Json.unlessNull_eq_some.mp held
  rw [Json.at?_finiteOnly] at leads
  obtain ⟨part, found, null⟩ := Option.map_eq_some_iff.mp leads
  exact .default set found (Json.finiteOnly_eq_null_iff.mp null)

/-- A null in the list under a key comes from one of the fields. -/
theorem exists_of_at?_list {fields : List (Option Field)} {path : List LocationStep}
    {present : List Json} (held : Json.unlessEmpty (listToJson fields) = some present)
    (leads : (Json.arr present).at? path = some .null) :
    ∃ position entry rest, path = .index position :: rest ∧ fields[position]? = some entry ∧
      (orNull toJson entry).at? rest = some .null := by
  obtain ⟨position, rest, item, rfl, found, leads⟩ := Json.exists_of_at?_arr_eq_null leads
  have listed : ((Json.unlessEmpty (listToJson fields)).map Json.arr).bind
      (fun value => value.at? (.index position :: rest)) = some .null := by
    rw [held, Option.map_some, Option.bind_some, Json.at?_arr, found]
    exact leads
  rw [bind_listToJson] at listed
  obtain ⟨entry, among, leads⟩ := Option.bind_eq_some_iff.mp listed
  exact ⟨position, entry, rest, rfl, among, leads⟩

theorem nullFrom_gate {field : Field} {gate : Gate Field} (held : field.gate = some gate)
    {path : List LocationStep} (leads : (Json.obj (gateMembers gate)).at? path = some .null) :
    field.NullFrom (.name "conditional" :: path) := by
  obtain ⟨name, rest, value, rfl, written, leads⟩ := Json.exists_of_at?_obj_eq_null leads
  simp only [gateMembers, memberUnlessNull_eq, listMember_eq, List.mem_append,
    mem_member?_iff, List.mem_singleton] at written
  rcases written with ((same | ⟨present, set, same⟩) | ⟨present, set, same⟩) | ⟨present, set, same⟩
  · cases same
    exact absurd leads Json.at?_str_ne_null
  · cases same
    exact absurd leads (at?_ne_null_of_unlessNull set)
  · cases same
    obtain ⟨position, entry, rest, rfl, among, leads⟩ := exists_of_at?_list set leads
    refine .inr ⟨.consequent position, entry, rest, ?_, leads, rfl⟩
    rw [inside, held]
    exact among
  · cases same
    obtain ⟨position, entry, rest, rfl, among, leads⟩ := exists_of_at?_list set leads
    refine .inr ⟨.alternative position, entry, rest, ?_, leads, rfl⟩
    rw [inside, held]
    exact among

theorem nullFrom_of_at? {field : Field} {path : List LocationStep}
    (leads : field.toJson.at? path = some .null) : field.NullFrom path := by
  rw [toJson_eq] at leads
  obtain ⟨name, rest, value, rfl, written, leads⟩ := Json.exists_of_at?_obj_eq_null leads
  have each : ∀ member ∈ field.members, ∀ rest, member.2.at? rest = some .null →
      field.NullFrom (.name member.1 :: rest) := by
    simp only [members, Control.members, memberUnlessNull_eq, listMember_eq, flagMember_eq,
      defaultMember_eq, List.forall_mem_append, forall_mem_member?_iff, List.forall_mem_cons]
    refine ⟨⟨⟨⟨⟨⟨⟨⟨⟨⟨⟨⟨⟨?_, ?_, by simp⟩, ?_⟩, ?_⟩, ?_⟩, ?_⟩, ?_⟩, ?_⟩, ?_⟩, ?_⟩, ?_⟩, ?_⟩, ?_⟩, ?_⟩
    · exact fun _ leads => absurd leads Json.at?_str_ne_null
    · exact fun _ leads => absurd leads Json.at?_str_ne_null
    · exact fun _ _ _ leads => absurd leads Json.at?_str_ne_null
    · exact fun _ _ _ leads => absurd leads Json.at?_str_ne_null
    · exact fun _ _ _ leads => absurd leads Json.at?_str_ne_null
    · exact fun present held rest leads => .inl (nullAt_default held leads)
    · exact fun _ held _ leads => absurd leads (at?_ne_null_of_unlessNull held)
    · intro present held rest leads
      rw [eq_of_unlessEmpty held] at leads
      exact .inl (nullAt_options leads)
    · exact fun rules _ rest leads =>
        absurd leads (Json.at?_ne_null (allLeaves_validation rules) rest)
    · exact fun _ _ _ leads => absurd leads Json.at?_bool_ne_null
    · exact fun _ _ _ leads => absurd leads Json.at?_bool_ne_null
    · intro present held rest leads
      obtain ⟨position, entry, rest, rfl, among, leads⟩ := exists_of_at?_list held leads
      exact .inr ⟨.child position, entry, rest, among, leads, rfl⟩
    · exact fun gate held rest leads => nullFrom_gate held leads
    · exact fun _ _ _ leads => absurd leads Json.at?_str_ne_null
  exact each _ written rest leads

theorem at?_of_nullAt {field : Field} {path : List LocationStep} (null : field.NullAt path) :
    field.toJson.at? path = some .null := by
  rw [toJson_eq]
  cases null with
  | @option position label held =>
    have options : lastMember? "options" field.members =
        (Json.unlessEmpty (field.control.options.map FieldOption.toJson)).map Json.arr := by
      simp [members, Control.members]
    rw [Json.at?_obj, options, bind_unlessEmpty, List.getElem?_map, held]
    rfl
  | @default path part set found null =>
    have default : lastMember? "default" field.members =
        field.control.default.unlessNull.map Json.finiteOnly := by
      simp [members, Control.members]
    rw [Json.at?_obj, default, Json.unlessNull_eq_some.mpr ⟨set, rfl⟩, Option.map_some,
      Option.bind_some, Json.at?_finiteOnly, found, Option.map_some,
      Json.finiteOnly_eq_null_iff.mpr null]

/-- The nulls of a field without gaps below it are the own nulls of the fields that trails lead
to. -/
theorem exists_trail_of_at? {field : Field} {path : List LocationStep}
    (present : ∀ part ∈ field.parts, Everywhere (none ∉ ·) part)
    (leads : field.toJson.at? path = some .null) (before : List (Option Field)) :
    ∃ trail before' reached rest, follow? before (some field) trail = some (before', some reached) ∧
      reached.NullAt rest ∧ path = trail.flatMap Segment.place ++ rest := by
  induction field using Field.induction generalizing path before with
  | step field inductionHypothesis =>
    rcases nullFrom_of_at? leads with null | ⟨segment, entry, rest, found, leads, rfl⟩
    · exact ⟨[], before, field, path, rfl, null, rfl⟩
    · have member := List.mem_of_getElem? found
      have part := inside_mem_parts member
      obtain ⟨here, deeper⟩ := everywhere_iff.mp (present _ part)
      cases entry with
      | none => exact absurd member here
      | some child =>
        obtain ⟨trail, before', reached, rest', follows, null, rfl⟩ :=
          inductionHypothesis _ part child member (deeper child member) leads
            ((field.inside segment).take segment.position)
        refine ⟨segment :: trail, before', reached, rest', ?_, null, ?_⟩
        · rw [follow?, Option.bind_some, found]
          exact follows
        · rw [List.flatMap_cons, List.append_assoc]

end Field

/-! ### Forms -/

namespace Form

theorem pruned_members (form : Form) :
    Json.Pruned form.attributes ["fields"] form.members := by
  refine .of_keys (by simp [attributes]) ?_ ?_
  · simp [members, attributes, map_fst_member?]
  · simp only [members, List.forall_mem_append, forall_mem_member?_iff]
    simp [Json.IsUnset]

theorem at?_fields (form : Form) (position : Nat) (rest : List LocationStep) :
    form.toJson.at? (.name "fields" :: .index position :: rest) =
      form.fields[position]?.bind fun entry => (orNull Field.toJson entry).at? rest := by
  have fields : lastMember? "fields" form.members =
      some (.arr (Field.listToJson form.fields)) := by
    simp [members]
  rw [toJson_eq, Json.at?_obj, fields, Option.bind_some, Json.at?_arr,
    Field.getElem?_listToJson, Option.bind_map]
  rfl

/-- The places of fields in the serialized representation hold the fields that trails lead to. -/
theorem at?_follow? (form : Form) {trail : List Segment} (start : trail ≠ []) :
    form.toJson.at? (trail.flatMap Segment.place) =
      (form.follow? trail).map fun reached => orNull Field.toJson reached.2 := by
  have conditional : lastMember? "conditional" form.members = none := by
    simp [members]
  cases trail with
  | nil => exact absurd rfl start
  | cons segment trail =>
    cases segment with
    | child position =>
      rw [List.flatMap_cons, follow?]
      show form.toJson.at? (.name "fields" :: .index position :: trail.flatMap Segment.place) = _
      rw [at?_fields]
      cases form.fields[position]? with
      | none => rfl
      | some entry => exact Field.at?_follow? _ entry trail
    | consequent position =>
      show form.toJson.at? (.name "conditional" :: _) = none
      rw [toJson_eq, Json.at?_obj, conditional]
      rfl
    | alternative position =>
      show form.toJson.at? (.name "conditional" :: _) = none
      rw [toJson_eq, Json.at?_obj, conditional]
      rfl

/-- The nulls of a form without gaps are the own nulls of its fields. -/
theorem exists_trail_of_at? {form : Form} (present : Field.Everywhere (none ∉ ·) form.fields)
    {path : List LocationStep} (leads : form.toJson.at? path = some .null) :
    ∃ trail before field rest, form.follow? trail = some (before, some field) ∧
      field.NullAt rest ∧ path = trail.flatMap Segment.place ++ rest := by
  have inObject := leads
  rw [toJson_eq] at inObject
  obtain ⟨name, rest, value, rfl, written, part⟩ := Json.exists_of_at?_obj_eq_null inObject
  simp only [members, List.mem_append, mem_member?_iff, List.mem_singleton] at written
  rcases written with (((⟨_, _, same⟩ | ⟨_, _, same⟩) | ⟨_, _, same⟩) | ⟨_, _, same⟩) | same
  · cases same
    exact absurd part Json.at?_str_ne_null
  · cases same
    exact absurd part Json.at?_str_ne_null
  · cases same
    exact absurd part Json.at?_str_ne_null
  · cases same
    exact absurd part Json.at?_str_ne_null
  · cases same
    obtain ⟨position, rest, _, rfl, _, _⟩ := Json.exists_of_at?_arr_eq_null part
    rw [at?_fields] at leads
    obtain ⟨entry, found, leads⟩ := Option.bind_eq_some_iff.mp leads
    obtain ⟨here, deeper⟩ := Field.everywhere_iff.mp present
    have member := List.mem_of_getElem? found
    cases entry with
    | none => exact absurd member here
    | some child =>
      obtain ⟨trail, before, field, rest', follows, null, rfl⟩ :=
        Field.exists_trail_of_at? (deeper child member) leads (form.fields.take position)
      refine ⟨.child position :: trail, before, field, rest', ?_, null, rfl⟩
      rw [follow?, found]
      exact follows

/-- The serialized representation of a form is in normal form, and it is the same when the form is
written as a draft. A gap in a list of fields, which only an edit leaves, would be one more
null. -/
theorem normalForm_toJson {form : Form} (present : Field.Everywhere (none ∉ ·) form.fields) :
    form.NormalForm form.toJson ∧ form.toDraft.toJson = form.toJson := by
  have started : ∀ trail before field, form.follow? trail = some (before, some field) →
      form.toJson.at? (trail.flatMap Segment.place) = some field.toJson := by
    intro trail before field leads
    obtain ⟨position, rest, rfl⟩ := head?_of_follow? leads
    rw [at?_follow? form (List.cons_ne_nil _ _), leads]
    rfl
  refine ⟨⟨⟨form.members, form.toJson_eq, form.pruned_members⟩,
    ⟨Field.listToJson form.fields, ?_, ?_⟩, ?_, ?_, ?_⟩, form.toJson_toDraft⟩
  · rw [toJson_eq, Json.at?_obj]
    simp [members]
  · rw [Field.listToJson_eq_map, List.length_map]
  · intro trail before field leads
    refine ⟨field.members, ?_, field.normalForm_members⟩
    rw [started trail before field leads, field.toJson_eq]
  · intro trail start none
    rw [at?_follow? form start, none]
    rfl
  · intro path
    constructor
    · exact exists_trail_of_at? present
    · rintro ⟨trail, before, field, rest, leads, null, rfl⟩
      rw [Json.at?_append, started trail before field leads, Option.bind_some]
      exact Field.at?_of_nullAt null

/-- A form that comes from a document has no gaps. -/
theorem MadeFrom.present {document : Document} {form : Form} (made : form.MadeFrom document) :
    Field.Everywhere (none ∉ ·) form.fields :=
  made.sound.mono fun siblings sound gap => by
    obtain ⟨field, same, _⟩ := sound.plain none gap
    cases same

/-- A document whose form has attributes of all sorts that are not set, at several depths, with
keys of the serialized representation inside of a default. -/
def mixedDocument : Json := .obj [("fields", .arr [
  .obj [("name", .str "group"), ("type", .str "object"), ("label", .null),
    ("fields", .arr [
      .obj [("name", .str "note"), ("type", .str "text"), ("options", .arr []),
        ("default", .obj [("options", .arr []), ("readOnly", .bool false),
          ("then", .null), ("size", .float .nan)])]])],
  .obj [("name", .str "choice"), ("type", .str "select"), ("readOnly", .bool false),
    ("options", .arr [.obj [("label", .str "none")]]),
    ("validation", .obj [("required", .bool false)]),
    ("conditional", .obj [("condition", .str "group"), ("value", .bool false), ("then", .arr []),
      ("else", .arr [
        .obj [("name", .str "far"), ("type", .str "number"), ("deprecated", .bool true),
          ("default", .float (.infinite true))]])])]])]

/-- The form of the mixed document. -/
def mixedForm : Form where
  fields := [
    some (.mk { name := "group", kind := "object" }
      [some (.mk
        { name := "note", kind := "text"
          default := .obj [("options", .arr []), ("readOnly", .bool false), ("then", .null),
            ("size", .float .nan)] } [] none)] none),
    some (.mk
      { name := "choice", kind := "select", options := [⟨"none", .null⟩], validation := some {} } []
      (some
        { condition := "group"
          trigger := .bool false
          alternative := [
            some (.mk
              { name := "far", kind := "number", default := .float (.infinite true)
                deprecated := true } [] none)] }))]

/-- The mixed form and its normal form. -/
theorem normalForm_toJson_mixedForm :
    Field.Everywhere (none ∉ ·) mixedForm.fields ∧
      mixedForm.NormalForm mixedForm.toJson ∧ mixedForm.toDraft.toJson = mixedForm.toJson ∧
      mixedForm.toJson = .obj [("fields", .arr [
        .obj [("name", .str "group"), ("type", .str "object"),
          ("fields", .arr [
            .obj [("name", .str "note"), ("type", .str "text"),
              ("default", .obj [("options", .arr []), ("readOnly", .bool false),
                ("then", .null), ("size", .null)])]])],
        .obj [("name", .str "choice"), ("type", .str "select"),
          ("options", .arr [.obj [("label", .str "none"), ("value", .null)]]),
          ("validation", .obj []),
          ("conditional", .obj [("condition", .str "group"), ("value", .bool false),
            ("else", .arr [
              .obj [("name", .str "far"), ("type", .str "number"), ("default", .null),
                ("deprecated", .bool true)]])])]])] := by
  have present : Field.Everywhere (none ∉ ·) mixedForm.fields :=
    @MadeFrom.present (.value mixedDocument) mixedForm (.parsed rfl)
  obtain ⟨normal, same⟩ := normalForm_toJson present
  exact ⟨present, normal, same, rfl⟩

end Form

end Formwork
