/-
This file compares what is read from two values that stand in the same place of a schema
document. They are interchangeable in a role if the conversion cannot tell apart what is
read from them in this role. An object whose member is exchanged for an interchangeable
one, in the role of its keyword, is read as an alike node.
-/

import Formwork.Proofs.Conversion.Alike
import Formwork.Proofs.Decoding.Hollow
import Formwork.Proofs.Decoding.Related
import Formwork.Proofs.Schema.Origin
import Formwork.Proofs.Schema.Roles

namespace Formwork

open Decode Decoded

namespace Schema

variable {source : Source} {role : Role} {value value' : Json}

/-! ### Values in a role -/

/-- Whether the conversion cannot tell apart what is read from two values in a role. -/
def ReadsAs (source : Source) : Role → Json → Json → Prop
  | .node, value, value' =>
    Related Alike (Reading.ofJson source value).node (Reading.ofJson source value').node
  | .nodes, value, value' =>
    Related (fun _ _ => True) (Reading.ofJson source value).nodes
      (Reading.ofJson source value').nodes
  | .mapping, value, value' =>
    Related (fun _ _ => True) (Reading.ofJson source value).definitions
        (Reading.ofJson source value').definitions ∧
      Related MappingsAlike (Reading.ofJson source value).properties
        (Reading.ofJson source value').properties
  | .names, value, value' =>
    Related SameNames (nullable (list text) value.collapse) (nullable (list text) value'.collapse)
  | .default, value, value' => value = value'
  | _, _, _ => True

/-- Whether two values are read alike in a role, and differ in the members of objects alone unless
they hold names. -/
structure Interchangeable (source : Source) (role : Role) (value value' : Json) : Prop where
  reads : ReadsAs source role value value'
  hollow : role ≠ .names → value.hollow = value'.hollow

theorem SameNames.refl (names : Option (List String)) : SameNames names names := fun _ => Iff.rfl

theorem ReadsAs.refl (role : Role) (value : Json) : ReadsAs source role value value := by
  cases role with
  | node => exact .of_eq Alike.refl rfl
  | nodes => exact .of_eq (fun _ => trivial) rfl
  | mapping => exact ⟨.of_eq (fun _ => trivial) rfl, .of_eq MappingsAlike.refl rfl⟩
  | names => exact .of_eq SameNames.refl rfl
  | default => rfl
  | _ => trivial

theorem ReadsAs.trans {first second third : Json} (reads : ReadsAs source role first second)
    (reads' : ReadsAs source role second third) : ReadsAs source role first third := by
  cases role with
  | node => exact Related.trans reads reads' Alike.trans
  | nodes => exact Related.trans reads reads' fun _ _ => trivial
  | mapping =>
    exact ⟨reads.1.trans reads'.1 fun _ _ => trivial, reads.2.trans reads'.2 MappingsAlike.trans⟩
  | names => exact Related.trans reads reads' fun same same' name => (same name).trans (same' name)
  | default => exact Eq.trans reads reads'
  | _ => trivial

theorem Interchangeable.refl (role : Role) (value : Json) :
    Interchangeable source role value value := ⟨.refl role value, fun _ => rfl⟩

theorem Interchangeable.trans {first second third : Json}
    (alike : Interchangeable source role first second)
    (alike' : Interchangeable source role second third) :
    Interchangeable source role first third :=
  ⟨alike.reads.trans alike'.reads, fun other => (alike.hollow other).trans (alike'.hollow other)⟩

/-! ### Values that may be null -/

theorem optionRel_refl {α : Type} {related : α → α → Prop}
    (reflexive : ∀ value, related value value) (value : Option α) :
    Option.Rel related value value := by
  cases value with
  | none => exact .none
  | some value => exact .some (reflexive value)

/-- A value or null reads alike if the value does and both or neither of them are null. -/
theorem related_orNull {α : Type} {part : Reading → Decoded α} {related : α → α → Prop}
    (hollow : value.hollow = value'.hollow)
    (reads : Related related (part (Reading.ofJson source value))
      (part (Reading.ofJson source value'))) :
    Related (Option.Rel related) (Reading.orNull part (Reading.ofJson source value))
      (Reading.orNull part (Reading.ofJson source value')) := by
  have null : ∀ {value value' : Json}, value.hollow = value'.hollow →
      value.collapse = .null → value'.collapse = .null := fun same null => by
    rwa [← Json.hollow_eq_null_iff, Json.hollow_collapse, ← same, ← Json.hollow_collapse,
      Json.hollow_eq_null_iff]
  rw [Reading.orNull, Reading.orNull, Reading.raw_ofJson, Reading.raw_ofJson]
  by_cases isNull : value.collapse = .null
  · rw [isNull, null hollow isNull]
    exact .ok .none
  · have isNull' : value'.collapse ≠ .null := fun isNull' => isNull (null hollow.symm isNull')
    split
    · exact absurd ‹_› isNull
    · exact reads.map fun _ _ => .some

/-! ### Objects with one member exchanged -/

section Member

variable {name : String} {before after : List (String × Json)}

theorem map_change {ρ : Type} (change : Json → ρ) (value : Json) :
    (before ++ (name, value) :: after).map (fun member => (member.1, change member.2)) =
      before.map (fun member => (member.1, change member.2)) ++
        (name, change value) :: after.map fun member => (member.1, change member.2) := by
  rw [List.map_append, List.map_cons]

/-- The members of an object with one value set apart, as their values are read. -/
abbrev collapsedMembers (before after : List (String × Json)) (name : String) (value : Json) :
    List (String × Json) :=
  (before ++ (name, value) :: after).map fun member => (member.1, member.2.collapse)

/-- The members of an object with one value set apart, read in all their roles. -/
abbrev readMembers (source : Source) (before after : List (String × Json)) (name : String)
    (value : Json) : List (String × Reading) :=
  (before ++ (name, value) :: after).map fun member => (member.1, Reading.ofJson source member.2)

section Keywords

variable (alike : Interchangeable source (keywordRole name) value value')
include alike

/-- A keyword that holds no names is read from an object as before the exchange, if its reader
never looks at the members of objects. -/
theorem optional_change {β : Type} (names : List String) {decode : Json → Decoded β}
    (ignores : IgnoresMembers decode) (others : ∀ name ∈ names, keywordRole name ≠ .names) :
    optional names decode (collapsedMembers before after name value) =
      optional names decode (collapsedMembers before after name value') := by
  rw [collapsedMembers, collapsedMembers, map_change, map_change]
  exact entry_change fun member =>
    (ignoresMembers_nullable ignores).collapse_congr (alike.hollow (others name member))

theorem identity_change :
    Identity.decode (collapsedMembers before after name value) =
      Identity.decode (collapsedMembers before after name value') := by
  simp only [Identity.decode,
    optional_change alike ["$schema", "schema_uri"] ignoresMembers_text (by decide),
    optional_change alike ["$id", "id"] ignoresMembers_text (by decide),
    optional_change alike ["$ref", "ref"] ignoresMembers_text (by decide),
    optional_change alike ["$comment", "comment"] ignoresMembers_text (by decide)]

theorem annotations_change :
    Annotations.decode (collapsedMembers before after name value) =
      Annotations.decode (collapsedMembers before after name value') := by
  have default :
      withDefault ["default"] .null Decoded.ok (collapsedMembers before after name value) =
        withDefault ["default"] .null Decoded.ok (collapsedMembers before after name value') := by
    rw [collapsedMembers, collapsedMembers, map_change, map_change]
    refine entry_change fun member => ?_
    obtain rfl := List.mem_singleton.mp member
    have same : value = value' := alike.reads
    rw [same]
  simp only [Annotations.decode, default,
    optional_change alike ["title"] ignoresMembers_text (by decide),
    optional_change alike ["description"] ignoresMembers_text (by decide),
    optional_change alike ["readOnly", "read_only"] ignoresMembers_bool (by decide),
    optional_change alike ["deprecated"] ignoresMembers_bool (by decide)]

theorem related_required :
    Related SameNames
      (optional ["required"] (list text) (collapsedMembers before after name value))
      (optional ["required"] (list text) (collapsedMembers before after name value')) := by
  rw [collapsedMembers, collapsedMembers, map_change, map_change]
  refine related_entry SameNames.refl fun member => ?_
  obtain rfl := List.mem_singleton.mp member
  exact alike.reads

theorem related_constraints :
    Related Constraints.Alike
      (Constraints.decode source (collapsedMembers before after name value))
      (Constraints.decode source (collapsedMembers before after name value')) := by
  have keyword : ∀ {β : Type} (names : List String) {decode : Json → Decoded β},
      IgnoresMembers decode → (∀ name ∈ names, keywordRole name ≠ .names) →
        Related Eq (optional names decode (collapsedMembers before after name value))
          (optional names decode (collapsedMembers before after name value')) :=
    fun names _ ignores others => .of_eq (fun _ => rfl) (optional_change alike names ignores others)
  have number := fun names others =>
    keyword names (ignoresMembers_float source) others
  have const : Related Eq
      (withDefault ["const"] .null scalar (collapsedMembers before after name value))
      (withDefault ["const"] .null scalar (collapsedMembers before after name value')) := by
    rw [collapsedMembers, collapsedMembers, map_change, map_change]
    refine .of_eq (fun _ => rfl) (entry_change fun member => ?_)
    refine ignoresMembers_scalar.collapse_congr (alike.hollow ?_)
    exact List.mem_singleton.mp member ▸ by decide
  refine .seq (.seq (.seq (.seq (.seq (.seq (.seq (.seq (.seq (.seq (.seq (.seq (.seq (.seq (.seq
    (.map (keyword ["type"] ignoresMembers_typeNames (by decide)) ?_)
    (keyword ["format"] ignoresMembers_text (by decide)))
    (keyword ["enum"] (ignoresMembers_list ignoresMembers_scalar) (by decide)))
    const)
    (number ["multipleOf", "multiple_of"] (by decide)))
    (number ["minimum"] (by decide)))
    (number ["maximum"] (by decide)))
    (number ["exclusiveMinimum", "exclusive_minimum"] (by decide)))
    (number ["exclusiveMaximum", "exclusive_maximum"] (by decide)))
    (keyword ["minLength", "min_length"] ignoresMembers_int (by decide)))
    (keyword ["maxLength", "max_length"] ignoresMembers_int (by decide)))
    (keyword ["pattern"] ignoresMembers_text (by decide)))
    (keyword ["minItems", "min_items"] ignoresMembers_int (by decide)))
    (keyword ["maxItems", "max_items"] ignoresMembers_int (by decide)))
    (keyword ["uniqueItems", "unique_items"] ignoresMembers_bool (by decide)))
    (related_required alike)
  rintro _ _ rfl _ _ rfl _ _ rfl _ _ rfl _ _ rfl _ _ rfl _ _ rfl _ _ rfl _ _ rfl _ _ rfl _ _ rfl
    _ _ rfl _ _ rfl _ _ rfl _ _ rfl required required' same
  exact ⟨rfl, same⟩

/-- A keyword that holds nodes, or a mapping of them, reads alike. -/
theorem related_part {α : Type} {part : Reading → Decoded α} {related : α → α → Prop}
    (reflexive : ∀ value, related value value) {names : List String} {role : Role}
    (listed : (names, role) ∈ keywordRoles) (notNames : role ≠ .names)
    (reads : ReadsAs source role value value' →
      Related related (part (Reading.ofJson source value)) (part (Reading.ofJson source value'))) :
    Related (Option.Rel related)
      (entry names (.ok none) (Reading.orNull part) (readMembers source before after name value))
      (entry names (.ok none) (Reading.orNull part)
        (readMembers source before after name value')) := by
  rw [readMembers, readMembers, map_change, map_change]
  refine related_entry (optionRel_refl reflexive) fun member => ?_
  obtain rfl := keywordRole_eq listed member
  exact related_orNull (alike.hollow notNames) (reads alike.reads)

theorem related_applicators :
    Related Applicators.Alike
      (Applicators.decode (readMembers source before after name value))
      (Applicators.decode (readMembers source before after name value')) := by
  have node : ∀ names, (names, Role.node) ∈ keywordRoles →
      Related (Option.Rel Alike)
        (entry names (.ok none) (Reading.orNull Reading.node)
          (readMembers source before after name value))
        (entry names (.ok none) (Reading.orNull Reading.node)
          (readMembers source before after name value')) :=
    fun _ listed => related_part alike Alike.refl listed (by decide) id
  have nodes : ∀ names, (names, Role.nodes) ∈ keywordRoles →
      Related (Option.Rel fun _ _ => True)
        (entry names (.ok none) (Reading.orNull Reading.nodes)
          (readMembers source before after name value))
        (entry names (.ok none) (Reading.orNull Reading.nodes)
          (readMembers source before after name value')) :=
    fun _ listed => related_part alike (fun _ => trivial) listed (by decide) id
  have definitions : (["$defs", "defs"], Role.mapping) ∈ keywordRoles := by decide
  have properties : (["properties"], Role.mapping) ∈ keywordRoles := by decide
  rw [Applicators.decode, Applicators.decode, Reading.node?_eq]
  refine .seq (.seq (.seq (.seq (.seq (.seq (.seq (.seq (.seq
    (.map (related_part alike (fun _ => trivial) definitions (by decide) And.left) ?_)
    (nodes ["allOf", "all_of"] (by decide)))
    (nodes ["anyOf", "any_of"] (by decide)))
    (nodes ["oneOf", "one_of"] (by decide)))
    (node ["not", "not_"] (by decide)))
    (node ["if", "if_"] (by decide)))
    (node ["then"] (by decide)))
    (node ["else", "else_"] (by decide)))
    (related_part alike MappingsAlike.refl properties (by decide) And.right))
    (node ["items"] (by decide))
  intro _ _ _ _ _ _ _ _ _ _ _ _ _ _ _ _ _ condition _ _ consequent _ _ alternative _ _ properties
    _ _ items
  exact ⟨condition, consequent, alternative, properties, items⟩

/-- An object is read as an alike node after the exchange. -/
theorem related_ofMembers :
    Related Alike (ofMembers source (readMembers source before after name value))
      (ofMembers source (readMembers source before after name value')) := by
  have identity : Related Eq (Identity.decode (collapsedMembers before after name value))
      (Identity.decode (collapsedMembers before after name value')) :=
    .of_eq (fun _ => rfl) (identity_change alike)
  have annotations : Related Eq (Annotations.decode (collapsedMembers before after name value))
      (Annotations.decode (collapsedMembers before after name value')) :=
    .of_eq (fun _ => rfl) (annotations_change alike)
  simp only [ofMembers, Reading.map_raw_ofJson]
  refine .seq (.seq (.seq (.map identity ?_) (related_applicators alike))
    (related_constraints alike)) annotations
  rintro _ _ rfl _ _ applicators _ _ constraints _ _ rfl
  exact .node applicators constraints

end Keywords

/-- The members of a mapping are read alike one by one after the exchange. -/
theorem forall₂_readMembers {α : Type} {part : Reading → Decoded α} {related : α → α → Prop}
    (reflexive : ∀ value, related value value)
    (reads : Related related (part (Reading.ofJson source value))
      (part (Reading.ofJson source value'))) :
    List.Forall₂ (RelatedMember (Related related))
      ((readMembers source before after name value).map fun member => (member.1, part member.2))
      ((readMembers source before after name value').map fun member =>
        (member.1, part member.2)) := by
  have same : ∀ members : List (String × Json), List.Forall₂
      (fun member member' : String × Json => RelatedMember (Related related)
        (member.1, part (Reading.ofJson source member.2))
        (member'.1, part (Reading.ofJson source member'.2))) members members :=
    fun members => List.forall₂_same.mpr fun member _ => ⟨rfl, .of_eq reflexive rfl⟩
  rw [readMembers, readMembers, List.map_map, List.map_map]
  refine List.forall₂_map_left_iff.mpr (List.forall₂_map_right_iff.mpr ?_)
  exact List.rel_append (same before) (.cons ⟨rfl, reads⟩ (same after))

/-- A mapping is read alike after the exchange of one of its nodes. -/
theorem reads_mapping (alike : Interchangeable source .node value value') :
    ReadsAs source .mapping (.obj (before ++ (name, value) :: after))
      (.obj (before ++ (name, value') :: after)) := by
  have hollow := alike.hollow (by decide)
  have node? : Related (Option.Rel Alike) (Reading.ofJson source value).node?
      (Reading.ofJson source value').node? := by
    rw [Reading.node?_eq]
    exact related_orNull hollow alike.reads
  rw [ReadsAs, Reading.ofJson_obj, Reading.ofJson_obj]
  constructor
  · exact (related_allNamed (forall₂_readMembers Alike.refl alike.reads)).map fun _ _ _ => trivial
  · exact (related_allNamed (forall₂_readMembers (optionRel_refl Alike.refl) node?)).map
      fun _ _ each => .of_forall₂ (forall₂_sortMembers each)

end Member

/-- A list of nodes is read alike after the exchange of one of them. -/
theorem reads_nodes {before after : List Json} (alike : Interchangeable source .node value value') :
    ReadsAs source .nodes (.arr (before ++ value :: after)) (.arr (before ++ value' :: after)) := by
  have same : ∀ items : List Json, List.Forall₂ (fun item item' => Related Alike
      (Reading.ofJson source item).node (Reading.ofJson source item').node) items items :=
    fun items => List.forall₂_same.mpr fun item _ => .of_eq Alike.refl rfl
  have each : List.Forall₂ (Related Alike)
      (((before ++ value :: after).map (Reading.ofJson source)).map Reading.node)
      (((before ++ value' :: after).map (Reading.ofJson source)).map Reading.node) := by
    rw [List.map_map, List.map_map]
    refine List.forall₂_map_left_iff.mpr (List.forall₂_map_right_iff.mpr ?_)
    exact List.rel_append (same before) (.cons alike.reads (same after))
  rw [ReadsAs, Reading.ofJson_arr, Reading.ofJson_arr]
  exact (related_allFrom each 0).mono fun _ _ _ => trivial

end Schema

end Formwork
