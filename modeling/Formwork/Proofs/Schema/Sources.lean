/-
This file proves that a schema reads the same from text and from a decoded value, issues
included, unless a whole number beyond all doubles stands where a double is expected.
-/

import Formwork.Proofs.Schema.Origin
import Formwork.Proofs.Schema.Roles

namespace Formwork

open Decode

namespace Schema

variable {members : List (String × Json)}

/-- Whether a value reads the same from both sources, in every role for which its numbers fit. -/
structure ReadsAlike (value : Json) : Prop where
  node : grammar.NumbersFit .node value →
    (Reading.ofJson .value value).node = (Reading.ofJson .text value).node
  nodes : grammar.NumbersFit .nodes value →
    (Reading.ofJson .value value).nodes = (Reading.ofJson .text value).nodes
  definitions : grammar.NumbersFit .mapping value →
    (Reading.ofJson .value value).definitions = (Reading.ofJson .text value).definitions
  properties : grammar.NumbersFit .mapping value →
    (Reading.ofJson .value value).properties = (Reading.ofJson .text value).properties

namespace Reading

theorem node?_congr {reading reading' : Reading} (raw : reading.raw = reading'.raw)
    (node : reading.node = reading'.node) : reading.node? = reading'.node? := by
  rw [node?, node?, raw, node]

theorem orNull_congr {α : Type} {role : Reading → Decoded α} {reading reading' : Reading}
    (raw : reading.raw = reading'.raw) (same : role reading = role reading') :
    orNull role reading = orNull role reading' := by
  rw [orNull, orNull, raw, same]

theorem raw_ofJson_eq (value : Json) : (ofJson .value value).raw = (ofJson .text value).raw := by
  rw [raw_ofJson, raw_ofJson]

end Reading

theorem ReadsAlike.node? {value : Json} (alike : ReadsAlike value)
    (fit : grammar.NumbersFit .node value) :
    (Reading.ofJson .value value).node? = (Reading.ofJson .text value).node? :=
  Reading.node?_congr (Reading.raw_ofJson_eq value) (alike.node fit)

/-! ### Nodes -/

theorem Constraints.decode_alike (fit : grammar.NumbersFit .node (.obj members)) :
    Constraints.decode .value (members.map fun member => (member.1, member.2.collapse)) =
      Constraints.decode .text (members.map fun member => (member.1, member.2.collapse)) := by
  have number : ∀ names : List String, (names, Role.number) ∈ keywordRoles →
      optional names (float .value) (members.map fun member => (member.1, member.2.collapse)) =
        optional names (float .text) (members.map fun member => (member.1, member.2.collapse)) :=
    fun names listed => optional_float
      (fun name whole found => fit.named listed found whole .root) .value
  simp only [Constraints.decode, number ["multipleOf", "multiple_of"] (by decide),
    number ["minimum"] (by decide), number ["maximum"] (by decide),
    number ["exclusiveMinimum", "exclusive_minimum"] (by decide),
    number ["exclusiveMaximum", "exclusive_maximum"] (by decide)]

theorem orNull_alike {β : Type} {role : Reading → Decoded β} (names : List String)
    (same : ∀ name value, find? names members = some (name, value) →
      role (Reading.ofJson .value value) = role (Reading.ofJson .text value)) :
    entry names (.ok none) (Reading.orNull role)
        (members.map fun member => (member.1, Reading.ofJson .value member.2)) =
      entry names (.ok none) (Reading.orNull role)
        (members.map fun member => (member.1, Reading.ofJson .text member.2)) :=
  entry_congr fun name value found =>
    Reading.orNull_congr (Reading.raw_ofJson_eq value) (same name value found)

theorem Applicators.decode_alike (alike : ∀ member ∈ members, ReadsAlike member.2)
    (fit : grammar.NumbersFit .node (.obj members)) :
    Applicators.decode (members.map fun member => (member.1, Reading.ofJson .value member.2)) =
      Applicators.decode (members.map fun member => (member.1, Reading.ofJson .text member.2)) := by
  have node : ∀ names : List String, (names, Role.node) ∈ keywordRoles →
      entry names (.ok none) Reading.node?
          (members.map fun member => (member.1, Reading.ofJson .value member.2)) =
        entry names (.ok none) Reading.node?
          (members.map fun member => (member.1, Reading.ofJson .text member.2)) :=
    fun names listed => entry_congr fun name value found =>
      (alike _ (mem_of_find? found)).node? (fit.named listed found)
  have nodes := fun (names : List String) (listed : (names, Role.nodes) ∈ keywordRoles) =>
    orNull_alike names fun _ _ found =>
      (alike _ (mem_of_find? found)).nodes (fit.named listed found)
  have definitions := orNull_alike ["$defs", "defs"] fun _ _ found =>
    (alike _ (mem_of_find? found)).definitions
      (fit.named (by decide : (["$defs", "defs"], Role.mapping) ∈ keywordRoles) found)
  have properties := orNull_alike ["properties"] fun _ _ found =>
    (alike _ (mem_of_find? found)).properties
      (fit.named (by decide : (["properties"], Role.mapping) ∈ keywordRoles) found)
  simp only [Applicators.decode, definitions, properties, nodes ["allOf", "all_of"] (by decide),
    nodes ["anyOf", "any_of"] (by decide), nodes ["oneOf", "one_of"] (by decide),
    node ["not", "not_"] (by decide), node ["if", "if_"] (by decide), node ["then"] (by decide),
    node ["else", "else_"] (by decide), node ["items"] (by decide)]

theorem ofMembers_alike (alike : ∀ member ∈ members, ReadsAlike member.2)
    (fit : grammar.NumbersFit .node (.obj members)) :
    ofMembers .value (members.map fun member => (member.1, Reading.ofJson .value member.2)) =
      ofMembers .text (members.map fun member => (member.1, Reading.ofJson .text member.2)) := by
  simp only [ofMembers, Reading.map_raw_ofJson, Applicators.decode_alike alike fit,
    Constraints.decode_alike fit]

/-! ### All values -/

/-- A mapping reads the same if all its members do. -/
theorem allNamed_alike {α β : Type} {role : Reading → Decoded α} {result : List (String × α) → β}
    (same : ∀ member ∈ members,
      role (Reading.ofJson .value member.2) = role (Reading.ofJson .text member.2)) :
    (Decoded.allNamed ((members.map fun member => (member.1, Reading.ofJson .value member.2)).map
        fun member => (member.1, role member.2))).map result =
      (Decoded.allNamed ((members.map fun member => (member.1, Reading.ofJson .text member.2)).map
        fun member => (member.1, role member.2))).map result := by
  rw [List.map_map, List.map_map]
  exact congrArg (fun list => (Decoded.allNamed list).map result)
    (List.map_congr_left fun member inside => congrArg (Prod.mk member.1) (same member inside))

/-- Every value reads the same from both sources in every role for which its numbers fit. -/
theorem readsAlike (value : Json) : ReadsAlike value := by
  have leaf : ∀ leaf : Json, (∀ source, Reading.ofJson source leaf = Reading.ofLeaf leaf) →
      ReadsAlike leaf := by
    intro leaf same
    constructor
    all_goals
      intro _
      rw [same, same]
  induction value using Json.induction with
  | null => exact leaf _ fun _ => rfl
  | bool value => exact leaf _ fun _ => rfl
  | int value => exact leaf _ fun _ => rfl
  | float value => exact leaf _ fun _ => rfl
  | str text => exact leaf _ fun _ => rfl
  | arr items inductionHypothesis =>
    constructor
    · intro _
      simp only [Reading.ofJson_arr, Reading.ofItems]
    · intro fit
      rw [Reading.ofJson_arr, Reading.ofJson_arr]
      refine congrArg Decoded.allIndexed ?_
      rw [List.map_map, List.map_map]
      exact List.map_congr_left fun item inside =>
        (inductionHypothesis item inside).node (fit.item rfl inside)
    · intro _
      simp only [Reading.ofJson_arr, Reading.ofItems]
    · intro _
      simp only [Reading.ofJson_arr, Reading.ofItems]
  | obj members inductionHypothesis =>
    constructor
    · intro fit
      rw [Reading.ofJson_obj, Reading.ofJson_obj]
      exact ofMembers_alike inductionHypothesis fit
    · intro _
      simp only [Reading.ofJson_obj, Reading.ofObject]
    · intro fit
      rw [Reading.ofJson_obj, Reading.ofJson_obj]
      exact allNamed_alike fun member inside =>
        (inductionHypothesis member inside).node (fit.entry rfl inside)
    · intro fit
      rw [Reading.ofJson_obj, Reading.ofJson_obj]
      exact allNamed_alike fun member inside =>
        (inductionHypothesis member inside).node? (fit.entry rfl inside)

/-- A schema reads the same from text and from a decoded value, issues included. -/
theorem decode_alike {value : Json} (fit : grammar.NumbersFit .node value) :
    Schema.decode .value value = Schema.decode .text value := (readsAlike value).node fit

end Schema

end Formwork
