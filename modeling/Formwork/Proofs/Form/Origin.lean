/-
This file proves what every form has that was read from a document: no list of its
fields has a gap, no default names a member twice, and everything in it can be
written if the document can be written.

The values of a field come from the members it was read from, one by one. A default
is copied as it was read, so reading has already kept one member of each name in it.
-/

import Formwork.Form.Decode
import Formwork.Proofs.Decoding.Legible
import Formwork.Proofs.Form.RoundTrip

namespace Formwork

open Decode

variable {source : Source} {legible legible' : Prop}

/-! ### Sound fields -/

/-- Whether the whole numbers of rules can be written. -/
structure Validation.Legible (validation : Validation) : Prop where
  minLength : ∀ value, validation.minLength = some value → (Json.int value).Legible
  maxLength : ∀ value, validation.maxLength = some value → (Json.int value).Legible
  minItems : ∀ value, validation.minItems = some value → (Json.int value).Legible
  maxItems : ∀ value, validation.maxItems = some value → (Json.int value).Legible

/-- Whether the values that a control holds can be written. -/
structure Control.Legible (control : Control) : Prop where
  default : control.default.Legible
  value : control.value.toJson.Legible
  options : ∀ option ∈ control.options, option.value.toJson.Legible
  validation : ∀ validation, control.validation = some validation → validation.Legible

namespace Field

/-- Whether the default of a field names no member twice and, provided that the document it comes
from can be written, the values of the field and of its gate can be written. -/
structure Sound (legible : Prop) (field : Field) : Prop where
  kept : field.control.default.collapse = field.control.default
  control : legible → field.control.Legible
  trigger : legible → ∀ gate, field.gate = some gate → gate.trigger.toJson.Legible

/-- Whether a list of siblings consists of sound fields, without gaps. -/
def SoundList (legible : Prop) (siblings : List (Option Field)) : Prop :=
  ∀ entry ∈ siblings, ∃ field, entry = some field ∧ field.Sound legible

theorem Sound.mono {field : Field} (sound : field.Sound legible) (implies : legible' → legible) :
    field.Sound legible' :=
  ⟨sound.kept, fun given => sound.control (implies given),
    fun given => sound.trigger (implies given)⟩

theorem SoundList.mono {siblings : List (Option Field)} (sound : SoundList legible siblings)
    (implies : legible' → legible) : SoundList legible' siblings := by
  intro entry member
  obtain ⟨field, same, soundField⟩ := sound entry member
  exact ⟨field, same, soundField.mono implies⟩

theorem SoundList.plain {siblings : List (Option Field)} (sound : SoundList legible siblings) :
    Plain siblings := by
  intro entry member
  obtain ⟨field, same, soundField⟩ := sound entry member
  exact ⟨field, same, soundField.kept⟩

/-- A list is sound everywhere if its entries are sound fields with parts that are sound
everywhere. -/
theorem everywhere_soundList {fields : List (Option Field)}
    (sound : ∀ entry ∈ fields, ∃ field, entry = some field ∧ field.Sound legible ∧
      ∀ part ∈ field.parts, Everywhere (SoundList legible) part) :
    Everywhere (SoundList legible) fields := by
  refine everywhere_iff.mpr ⟨fun entry member => ?_, fun field member => ?_⟩
  · obtain ⟨field, same, soundField, _⟩ := sound entry member
    exact ⟨field, same, soundField⟩
  · obtain ⟨field', same, _, deeper⟩ := sound (some field) member
    obtain rfl := Option.some.inj same
    exact deeper

end Field

/-! ### Options and rules that were read -/

theorem FieldOption.legible_of_decode {json : Json} {option : FieldOption}
    (read : FieldOption.decode json = .ok option) (legible : json.Legible) :
    option.value.toJson.Legible := by
  cases json with
  | obj members =>
    obtain ⟨_, value, toLabel, found, rfl⟩ := Decoded.seq_eq_ok read
    obtain ⟨label, _, rfl⟩ := Decoded.map_eq_ok toLabel
    show value.toJson.Legible
    rcases entry_eq_ok found with absent | ⟨member, inside, decoded⟩
    · cases absent
      trivial
    · exact legible_of_scalar decoded (Json.legible_obj.mp legible member inside)
  | _ => cases read

theorem Validation.legible_of_decode {json : Json} {validation : Validation}
    (read : Validation.decode source json = .ok validation) (legible : json.Legible) :
    validation.Legible := by
  cases json with
  | obj members =>
    obtain ⟨_, _, toMinItems, maxItems, rfl⟩ := Decoded.seq_eq_ok read
    obtain ⟨_, _, toStep, minItems, rfl⟩ := Decoded.seq_eq_ok toMinItems
    obtain ⟨_, _, toPatternError, _, rfl⟩ := Decoded.seq_eq_ok toStep
    obtain ⟨_, _, toPattern, _, rfl⟩ := Decoded.seq_eq_ok toPatternError
    obtain ⟨_, _, toMaximum, _, rfl⟩ := Decoded.seq_eq_ok toPattern
    obtain ⟨_, _, toMinimum, _, rfl⟩ := Decoded.seq_eq_ok toMaximum
    obtain ⟨_, _, toMaxLength, _, rfl⟩ := Decoded.seq_eq_ok toMinimum
    obtain ⟨_, _, toMinLength, maxLength, rfl⟩ := Decoded.seq_eq_ok toMaxLength
    obtain ⟨_, _, toRequired, minLength, rfl⟩ := Decoded.seq_eq_ok toMinLength
    obtain ⟨_, _, rfl⟩ := Decoded.map_eq_ok toRequired
    exact ⟨legible_of_optional_int minLength legible, legible_of_optional_int maxLength legible,
      legible_of_optional_int minItems legible, legible_of_optional_int maxItems legible⟩
  | _ => cases read

/-! ### Fields that were read -/

namespace Field

/-- The values of a gate that was read. -/
theorem gateOfMembers_eq_ok {members : List (String × Reading)} {gate : Gate Field}
    (read : gateOfMembers members = .ok gate) :
    withDefault ["value"] .null scalar (members.map fun member => (member.1, member.2.raw)) =
        .ok gate.trigger ∧
      entry ["then"] (.ok []) Reading.fields members = .ok gate.consequent ∧
      entry ["else", "else_"] (.ok []) Reading.fields members = .ok gate.alternative := by
  obtain ⟨_, _, toConsequent, alternative, rfl⟩ := Decoded.seq_eq_ok read
  obtain ⟨_, _, toTrigger, consequent, rfl⟩ := Decoded.seq_eq_ok toConsequent
  obtain ⟨_, _, toCondition, trigger, rfl⟩ := Decoded.seq_eq_ok toTrigger
  obtain ⟨_, _, rfl⟩ := Decoded.map_eq_ok toCondition
  exact ⟨trigger, consequent, alternative⟩

/-- The values of a field that was read, as far as they may be of any size. -/
theorem ofMembers_eq_ok {members : List (String × Reading)} {field : Field}
    (read : ofMembers source members = .ok field) :
    withDefault ["default"] .null .ok (members.map fun member => (member.1, member.2.raw)) =
        .ok field.control.default ∧
      withDefault ["value"] .null scalar (members.map fun member => (member.1, member.2.raw)) =
        .ok field.control.value ∧
      withDefault ["options"] [] (list FieldOption.decode)
        (members.map fun member => (member.1, member.2.raw)) = .ok field.control.options ∧
      optional ["validation"] (Validation.decode source)
        (members.map fun member => (member.1, member.2.raw)) = .ok field.control.validation ∧
      entry ["fields"] (.ok []) Reading.fields members = .ok field.children ∧
      entry ["conditional"] (.ok none) Reading.gate? members = .ok field.gate := by
  obtain ⟨_, _, toGate, _, rfl⟩ := Decoded.seq_eq_ok read
  obtain ⟨_, _, toChildren, gate, rfl⟩ := Decoded.seq_eq_ok toGate
  obtain ⟨_, _, toControl, children, rfl⟩ := Decoded.seq_eq_ok toChildren
  obtain ⟨_, toDeprecated, rfl⟩ := Decoded.map_eq_ok toControl
  obtain ⟨_, _, toReadOnly, _, rfl⟩ := Decoded.seq_eq_ok toDeprecated
  obtain ⟨_, _, toValidation, _, rfl⟩ := Decoded.seq_eq_ok toReadOnly
  obtain ⟨_, _, toOptions, validation, rfl⟩ := Decoded.seq_eq_ok toValidation
  obtain ⟨_, _, toValue, options, rfl⟩ := Decoded.seq_eq_ok toOptions
  obtain ⟨_, _, toDefault, value, rfl⟩ := Decoded.seq_eq_ok toValue
  obtain ⟨_, _, toPlaceholder, default, rfl⟩ := Decoded.seq_eq_ok toDefault
  obtain ⟨_, _, toDescription, _, rfl⟩ := Decoded.seq_eq_ok toPlaceholder
  obtain ⟨_, _, toLabel, _, rfl⟩ := Decoded.seq_eq_ok toDescription
  obtain ⟨_, _, toKind, _, rfl⟩ := Decoded.seq_eq_ok toLabel
  obtain ⟨_, _, toName, _, rfl⟩ := Decoded.seq_eq_ok toKind
  obtain ⟨_, _, rfl⟩ := Decoded.map_eq_ok toName
  exact ⟨default, value, options, validation, children, gate⟩

/-- Whether a value is sound in every role in which it can be read. -/
structure ReadsSound (source : Source) (value : Json) : Prop where
  field : ∀ field, (Reading.ofJson source value).field = .ok field →
    field.Sound value.Legible ∧ ∀ part ∈ field.parts, Everywhere (SoundList value.Legible) part
  fields : ∀ fields, (Reading.ofJson source value).fields = .ok fields →
    Everywhere (SoundList value.Legible) fields
  gate : ∀ gate, (Reading.ofJson source value).gate = .ok gate →
    (value.Legible → gate.trigger.toJson.Legible) ∧
      ∀ part ∈ gateParts (some gate), Everywhere (SoundList value.Legible) part

variable {members : List (String × Json)}

/-- A list of fields that was read from a member, or was not there. -/
theorem everywhere_of_entry {names : List String} {fields : List (Option Field)}
    (sound : ∀ member ∈ members, ReadsSound source member.2)
    (read : entry names (.ok []) Reading.fields
      (members.map fun member => (member.1, Reading.ofJson source member.2)) = .ok fields) :
    Everywhere (SoundList (Json.obj members).Legible) fields := by
  rw [entry_map] at read
  rcases entry_eq_ok read with absent | ⟨member, inside, decoded⟩
  · cases absent
    exact everywhere_soundList fun _ none => by cases none
  · exact ((sound member inside).fields fields decoded).mono fun siblings soundList =>
      soundList.mono fun given => Json.legible_obj.mp given member inside

theorem sound_of_gateOfMembers {gate : Gate Field}
    (sound : ∀ member ∈ members, ReadsSound source member.2)
    (read : gateOfMembers (members.map fun member =>
      (member.1, Reading.ofJson source member.2)) = .ok gate) :
    ((Json.obj members).Legible → gate.trigger.toJson.Legible) ∧
      ∀ part ∈ gateParts (some gate),
        Everywhere (SoundList (Json.obj members).Legible) part := by
  obtain ⟨trigger, consequent, alternative⟩ := gateOfMembers_eq_ok read
  rw [Reading.map_raw_ofJson] at trigger
  refine ⟨fun given => legible_of_withDefault_scalar trigger (legible_map_collapse given), ?_⟩
  exact List.forall_mem_cons.mpr ⟨everywhere_of_entry sound consequent,
    List.forall_mem_singleton.mpr (everywhere_of_entry sound alternative)⟩

theorem legible_control_of_ofMembers {field : Field}
    (read : ofMembers source (members.map fun member =>
      (member.1, Reading.ofJson source member.2)) = .ok field)
    (given : (Json.obj members).Legible) : field.control.Legible := by
  obtain ⟨default, value, options, validation, _, _⟩ := ofMembers_eq_ok read
  rw [Reading.map_raw_ofJson] at default value options validation
  have parts := Json.legible_obj.mp (legible_map_collapse given)
  constructor
  · rcases entry_eq_ok default with absent | ⟨member, inside, decoded⟩
    · injection absent with absent
      rw [← absent]
      trivial
    · injection decoded with same
      rw [← same]
      exact parts member inside
  · exact legible_of_withDefault_scalar value (legible_map_collapse given)
  · intro option among
    rcases entry_eq_ok options with absent | ⟨member, inside, decoded⟩
    · injection absent with absent
      rw [← absent] at among
      cases among
    · obtain ⟨name, json⟩ := member
      cases json with
      | arr items =>
        have same : items.map FieldOption.decode = field.control.options.map .ok :=
          Decoded.allIndexed_eq_ok.mp decoded
        have listed : Decoded.ok option ∈ items.map FieldOption.decode := by
          rw [same]
          exact List.mem_map_of_mem among
        obtain ⟨item, itemInside, itemRead⟩ := List.mem_map.mp listed
        exact FieldOption.legible_of_decode itemRead
          (Json.legible_arr.mp (parts _ inside) item itemInside)
      | _ => cases decoded
  · intro rules held
    obtain ⟨member, inside, decoded⟩ := optional_eq_ok validation rules held
    exact Validation.legible_of_decode decoded (parts member inside)

theorem sound_of_ofMembers {field : Field}
    (sound : ∀ member ∈ members, ReadsSound source member.2)
    (read : ofMembers source (members.map fun member =>
      (member.1, Reading.ofJson source member.2)) = .ok field) :
    field.Sound (Json.obj members).Legible ∧
      ∀ part ∈ field.parts, Everywhere (SoundList (Json.obj members).Legible) part := by
  obtain ⟨default, _, _, _, children, gate⟩ := ofMembers_eq_ok read
  have kept : field.control.default.collapse = field.control.default := by
    rw [Reading.map_raw_ofJson, withDefault, entry_map] at default
    rcases entry_eq_ok default with absent | ⟨member, _, decoded⟩
    · injection absent with absent
      rw [← absent]
      rfl
    · injection decoded with same
      rw [← same]
      exact Json.collapse_collapse member.2
  have gateSound : ((Json.obj members).Legible → ∀ gate, field.gate = some gate →
      gate.trigger.toJson.Legible) ∧
      ∀ part ∈ gateParts field.gate,
        Everywhere (SoundList (Json.obj members).Legible) part := by
    cases held : field.gate with
    | none => exact ⟨(fun _ _ none => by cases none), (fun _ none => by cases none)⟩
    | some gate' =>
      rw [entry_map, held] at gate
      rcases entry_eq_ok gate with absent | ⟨member, inside, decoded⟩
      · cases absent
      · have role : (Reading.ofJson source member.2).gate = .ok gate' := by
          simp only [Function.comp_apply, Reading.gate?] at decoded
          split at decoded
          · cases decoded
          · obtain ⟨gate'', found, same⟩ := Decoded.map_eq_ok decoded
            rw [found, Option.some.inj same]
        obtain ⟨trigger, parts⟩ := (sound member inside).gate gate' role
        have within := fun given : (Json.obj members).Legible =>
          Json.legible_obj.mp given member inside
        refine ⟨fun given gate'' same => ?_, fun part which => ?_⟩
        · rw [← Option.some.inj same]
          exact trigger (within given)
        · exact (parts part which).mono fun siblings soundList => soundList.mono within
  exact ⟨⟨kept, legible_control_of_ofMembers read, gateSound.1⟩,
    List.forall_mem_cons.mpr ⟨everywhere_of_entry sound children, gateSound.2⟩⟩

/-- Every value is sound in every role in which it can be read. -/
theorem readsSound (source : Source) (value : Json) : ReadsSound source value := by
  have leaf : ∀ leaf : Json, Reading.ofJson source leaf = Reading.ofLeaf leaf →
      ReadsSound source leaf := by
    intro leaf same
    constructor
    all_goals
      intro _ read
      rw [same] at read
      cases read
  induction value using Json.induction with
  | null => exact leaf _ rfl
  | bool value => exact leaf _ rfl
  | int value => exact leaf _ rfl
  | float value => exact leaf _ rfl
  | str text => exact leaf _ rfl
  | arr items inductionHypothesis =>
    constructor
    · intro field read
      rw [Reading.ofJson_arr] at read
      cases read
    · intro fields read
      rw [Reading.ofJson_arr] at read
      have same := Decoded.allIndexed_eq_ok.mp read
      rw [List.map_map] at same
      refine everywhere_soundList fun entry member => ?_
      have listed : Decoded.ok entry ∈ fields.map Decoded.ok := List.mem_map_of_mem member
      rw [← same] at listed
      obtain ⟨item, inside, itemRead⟩ := List.mem_map.mp listed
      obtain ⟨field, found, rfl⟩ := Decoded.map_eq_ok itemRead
      obtain ⟨soundField, deeper⟩ := (inductionHypothesis item inside).field field found
      have within := fun given : (Json.arr items).Legible =>
        Json.legible_arr.mp given item inside
      exact ⟨field, rfl, soundField.mono within, fun part which =>
        (deeper part which).mono fun siblings soundList => soundList.mono within⟩
    · intro gate read
      rw [Reading.ofJson_arr] at read
      cases read
  | obj members inductionHypothesis =>
    constructor
    · intro field read
      rw [Reading.ofJson_obj] at read
      exact sound_of_ofMembers inductionHypothesis read
    · intro fields read
      rw [Reading.ofJson_obj] at read
      cases read
    · intro gate read
      rw [Reading.ofJson_obj] at read
      exact sound_of_gateOfMembers inductionHypothesis read

end Field

/-- The fields of a form that was read are sound. -/
theorem Form.sound_of_decode {value : Json} {form : Form}
    (read : Form.decode source value = .ok form) :
    Field.Everywhere (Field.SoundList value.Legible) form.fields := by
  cases value with
  | obj members =>
    obtain ⟨_, fields, toMethod, found, rfl⟩ := Decoded.seq_eq_ok read
    obtain ⟨_, _, toAction, _, rfl⟩ := Decoded.seq_eq_ok toMethod
    obtain ⟨_, _, toDescription, _, rfl⟩ := Decoded.seq_eq_ok toAction
    obtain ⟨_, _, toTitle, _, rfl⟩ := Decoded.seq_eq_ok toDescription
    obtain ⟨_, _, rfl⟩ := Decoded.map_eq_ok toTitle
    rcases entry_eq_ok found with absent | ⟨member, inside, decoded⟩
    · cases absent
      exact Field.everywhere_soundList fun _ none => by cases none
    · exact ((Field.readsSound source member.2).fields fields decoded).mono
        fun siblings soundList => soundList.mono fun given =>
          Json.legible_obj.mp given member inside
  | _ => cases read

end Formwork
