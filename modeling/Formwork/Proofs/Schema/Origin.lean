/-
This file proves what every schema has that was read from a document: its properties
stand in ascending order of their names, no default names a member twice, and
everything in it can be written if the document can be written.
-/

import Formwork.Proofs.Decoding.Legible
import Formwork.Proofs.Schema.Provenance

namespace Formwork

open Decode

namespace Schema

variable {source : Source} {legible legible' : Prop}

/-! ### Sound nodes -/

/-- Whether the properties of a node stand in ascending order of their names, as reading a document
leaves them (`sound_of_decode`). -/
def Ordered (schema : Schema) : Prop :=
  ∀ members, schema.applicators.properties = some members → Ascending members

/-- Whether the values that constraints hold can be written. -/
structure Constraints.Legible (constraints : Constraints) : Prop where
  choices : ∀ choices, constraints.enumeration = some choices →
    ∀ choice ∈ choices, choice.toJson.Legible
  const : constraints.const.toJson.Legible
  minLength : ∀ value, constraints.minLength = some value → (Json.int value).Legible
  maxLength : ∀ value, constraints.maxLength = some value → (Json.int value).Legible
  minItems : ∀ value, constraints.minItems = some value → (Json.int value).Legible
  maxItems : ∀ value, constraints.maxItems = some value → (Json.int value).Legible

/-- Whether a node is ordered, its default names no member twice and, provided that the document
it comes from can be written, its values can be written. -/
structure Sound (legible : Prop) (schema : Schema) : Prop where
  ordered : schema.Ordered
  kept : schema.annotations.default.collapse = schema.annotations.default
  default : legible → schema.annotations.default.Legible
  constraints : legible → schema.constraints.Legible

theorem Sound.mono {schema : Schema} (sound : schema.Sound legible)
    (implies : legible' → legible) : schema.Sound legible' :=
  ⟨sound.ordered, sound.kept, fun given => sound.default (implies given),
    fun given => sound.constraints (implies given)⟩

/-! ### Keywords that were read -/

/-- How the constraints with values that a form may show were read from members. -/
structure Constraints.ReadFrom (source : Source) (members : List (String × Json))
    (constraints : Constraints) : Prop where
  enumeration : optional ["enum"] (list scalar) members = .ok constraints.enumeration
  const : withDefault ["const"] .null scalar members = .ok constraints.const
  multipleOf : optional ["multipleOf", "multiple_of"] (float source) members =
    .ok constraints.multipleOf
  minimum : optional ["minimum"] (float source) members = .ok constraints.minimum
  maximum : optional ["maximum"] (float source) members = .ok constraints.maximum
  exclusiveMinimum : optional ["exclusiveMinimum", "exclusive_minimum"] (float source) members =
    .ok constraints.exclusiveMinimum
  exclusiveMaximum : optional ["exclusiveMaximum", "exclusive_maximum"] (float source) members =
    .ok constraints.exclusiveMaximum
  minLength : optional ["minLength", "min_length"] int members = .ok constraints.minLength
  maxLength : optional ["maxLength", "max_length"] int members = .ok constraints.maxLength
  minItems : optional ["minItems", "min_items"] int members = .ok constraints.minItems
  maxItems : optional ["maxItems", "max_items"] int members = .ok constraints.maxItems

theorem Constraints.readFrom_of_decode {members : List (String × Json)}
    {constraints : Constraints} (read : Constraints.decode source members = .ok constraints) :
    constraints.ReadFrom source members := by
  obtain ⟨_, _, toUniqueItems, _, rfl⟩ := Decoded.seq_eq_ok read
  obtain ⟨_, _, toMaxItems, _, rfl⟩ := Decoded.seq_eq_ok toUniqueItems
  obtain ⟨_, _, toMinItems, maxItems, rfl⟩ := Decoded.seq_eq_ok toMaxItems
  obtain ⟨_, _, toPattern, minItems, rfl⟩ := Decoded.seq_eq_ok toMinItems
  obtain ⟨_, _, toMaxLength, _, rfl⟩ := Decoded.seq_eq_ok toPattern
  obtain ⟨_, _, toMinLength, maxLength, rfl⟩ := Decoded.seq_eq_ok toMaxLength
  obtain ⟨_, _, toExclusiveMaximum, minLength, rfl⟩ := Decoded.seq_eq_ok toMinLength
  obtain ⟨_, _, toExclusiveMinimum, exclusiveMaximum, rfl⟩ :=
    Decoded.seq_eq_ok toExclusiveMaximum
  obtain ⟨_, _, toMaximum, exclusiveMinimum, rfl⟩ := Decoded.seq_eq_ok toExclusiveMinimum
  obtain ⟨_, _, toMinimum, maximum, rfl⟩ := Decoded.seq_eq_ok toMaximum
  obtain ⟨_, _, toMultipleOf, minimum, rfl⟩ := Decoded.seq_eq_ok toMinimum
  obtain ⟨_, _, toConst, multipleOf, rfl⟩ := Decoded.seq_eq_ok toMultipleOf
  obtain ⟨_, _, toEnumeration, const, rfl⟩ := Decoded.seq_eq_ok toConst
  obtain ⟨_, _, toFormat, enumeration, rfl⟩ := Decoded.seq_eq_ok toEnumeration
  obtain ⟨_, _, toType, _, rfl⟩ := Decoded.seq_eq_ok toFormat
  obtain ⟨_, _, rfl⟩ := Decoded.map_eq_ok toType
  exact ⟨enumeration, const, multipleOf, minimum, maximum, exclusiveMinimum, exclusiveMaximum,
    minLength, maxLength, minItems, maxItems⟩

/-- The keywords for fixed values and for choices. -/
def scalarKeywords : List String := ["const", "enum"]

/-- The fixed value and the choices of a node consist of leaves of the values of their keywords. -/
theorem Constraints.ReadFrom.scalars {members : List (String × Json)} {constraints : Constraints}
    (read : constraints.ReadFrom source members) {holds : Json → Prop} (null : holds .null)
    (leaves : ∀ keyword ∈ scalarKeywords, ∀ value, lastMember? keyword members = some value →
      value.AllLeaves holds) :
    constraints.const.toJson.AllLeaves holds ∧
      ∀ choices, constraints.enumeration = some choices →
        ∀ choice ∈ choices, choice.toJson.AllLeaves holds := by
  have given : ∀ keyword ∈ scalarKeywords, ∀ name value,
      find? [keyword] members = some (name, value) → value.AllLeaves holds := by
    intro keyword listed name value found
    rw [find?_cons, find?_nil, Option.or_none] at found
    obtain ⟨value, held, same⟩ := Option.map_eq_some_iff.mp found
    cases same
    exact leaves keyword listed value held
  constructor
  · rcases find?_of_entry read.const with absent | ⟨name, value, found, decoded⟩
    · rw [← Decoded.ok.inj absent]
      exact null
    · rw [toJson_of_scalar decoded]
      exact given "const" (by decide) name value found
  · intro choices held choice among
    obtain ⟨name, value, found, decoded⟩ := find?_of_optional read.enumeration choices held
    have leaves := given "enum" (by decide) name value found
    cases value with
    | arr items =>
      have same : items.map scalar = choices.map .ok := Decoded.allIndexed_eq_ok.mp decoded
      have listed : Decoded.ok choice ∈ items.map scalar := by
        rw [same]
        exact List.mem_map_of_mem among
      obtain ⟨item, itemInside, itemRead⟩ := List.mem_map.mp listed
      rw [toJson_of_scalar itemRead]
      exact Json.allLeaves_arr.mp leaves item itemInside
    | _ => cases decoded

theorem Constraints.legible_of_decode {members : List (String × Json)}
    {constraints : Constraints} (read : Constraints.decode source members = .ok constraints)
    (legible : (Json.obj members).Legible) : constraints.Legible := by
  have read := readFrom_of_decode read
  obtain ⟨const, choices⟩ := read.scalars (show Json.LegibleLeaf .null from trivial)
    fun _ _ _ found => Json.allLeaves_obj.mp legible _ (mem_of_lastMember? found)
  exact ⟨choices, const, legible_of_optional_int read.minLength legible,
    legible_of_optional_int read.maxLength legible, legible_of_optional_int read.minItems legible,
    legible_of_optional_int read.maxItems legible⟩

/-- The default of a node that was read is null or one of the values it was read from. -/
theorem Annotations.default_of_decode {members : List (String × Json)}
    {annotations : Annotations} (read : Annotations.decode members = .ok annotations) :
    annotations.default = .null ∨ ∃ member ∈ members, member.2 = annotations.default := by
  obtain ⟨_, _, toReadOnly, _, rfl⟩ := Decoded.seq_eq_ok read
  obtain ⟨_, _, toDefault, _, rfl⟩ := Decoded.seq_eq_ok toReadOnly
  obtain ⟨_, _, toDescription, default, rfl⟩ := Decoded.seq_eq_ok toDefault
  obtain ⟨_, _, toTitle, _, rfl⟩ := Decoded.seq_eq_ok toDescription
  obtain ⟨_, _, rfl⟩ := Decoded.map_eq_ok toTitle
  rcases entry_eq_ok default with absent | ⟨member, inside, decoded⟩
  · exact Or.inl (Decoded.ok.inj absent).symm
  · exact Or.inr ⟨member, inside, Decoded.ok.inj decoded⟩

/-! ### Nodes that were read -/

variable {members : List (String × Json)} {schema : Schema}

/-- The properties of a node were sorted when they were read. -/
theorem ordered_of_ofMembers (read : ofMembers source (members.map fun member =>
    (member.1, Reading.ofJson source member.2)) = .ok schema) : schema.Ordered := by
  intro mapping held
  have properties := (keywords_of_ofMembers read).1.properties
  rw [held, entry_map] at properties
  rcases find?_of_entry properties with absent | ⟨name, value, found, decoded⟩
  · cases absent
  · exact ascending_of_properties (Reading.orNull_eq_ok decoded mapping rfl)

/-- The node read from an object is sound if the object can be written. -/
theorem sound_of_ofMembers (read : ofMembers source (members.map fun member =>
    (member.1, Reading.ofJson source member.2)) = .ok schema) :
    schema.Sound (Json.obj members).Legible := by
  obtain ⟨_, constraints, annotations⟩ := keywords_of_ofMembers read
  refine ⟨ordered_of_ofMembers read, ?_, fun given => ?_, fun given =>
    Constraints.legible_of_decode constraints (legible_map_collapse given)⟩
  · rcases Annotations.default_of_decode annotations with null | ⟨member, inside, same⟩
    · rw [null]
      rfl
    · obtain ⟨given, _, rfl⟩ := List.mem_map.mp inside
      rw [← same, Json.collapse_collapse]
  · rcases Annotations.default_of_decode annotations with null | ⟨member, inside, same⟩
    · rw [null]
      trivial
    · rw [← same]
      exact Json.legible_obj.mp (legible_map_collapse given) member inside

/-- The nodes of a schema that was read are sound. -/
theorem sound_of_decode {value : Json} (read : Schema.decode source value = .ok schema) :
    Everywhere (Sound value.Legible) schema := by
  refine @decode_induction source (fun value schema => Everywhere (Sound value.Legible) schema)
    (fun members node read parts => ?_) value schema read
  refine everywhere_iff.mpr ⟨sound_of_ofMembers read, fun part inside => ?_⟩
  obtain ⟨levels, value, held, sound⟩ := parts.parts part inside
  exact sound.mono fun _ soundNode => soundNode.mono fun given => held.reaches.allLeaves given

end Schema

end Formwork
