/-
This file proves that a form reads the same from text and from a decoded value, issues
included, unless a whole number beyond all doubles stands where a double is expected. The
only doubles of a form are bounds in the rules of its fields.
-/

import Formwork.Proofs.Decoding.Grammar
import Formwork.Proofs.Form.RoundTrip

namespace Formwork

open Decode

namespace Form

/-- The roles of the parts of a form document. -/
inductive Role where
  | form
  | fields
  | field
  | gate
  | rules
  | number
  deriving DecidableEq

/-- The grammar of form documents. -/
def grammar : Grammar Role where
  attributes
    | .form => [(["fields"], .fields)]
    | .field => [(["validation"], .rules), (["fields"], .fields), (["conditional"], .gate)]
    | .gate => [(["then"], .fields), (["else", "else_"], .fields)]
    | .rules => [(["min", "minimum"], .number), (["max", "maximum"], .number), (["step"], .number)]
    | _ => []
  entries _ := none
  items
    | .fields => some .field
    | _ => none
  number := .number

end Form

open Form (grammar)

variable {members : List (String × Json)}

/-! ### Rules -/

/-- Rules read the same from both sources, also after their object was collapsed. -/
theorem Validation.decode_alike {value : Json} (fit : grammar.NumbersFit .rules value) :
    Validation.decode .value value.collapse = Validation.decode .text value.collapse := by
  cases value with
  | obj members =>
    have number : ∀ names : List String,
        (names, Form.Role.number) ∈ grammar.attributes .rules →
        optional names (float .value)
            (collapseMembers (members.map fun member => (member.1, member.2.collapse))) =
          optional names (float .text)
            (collapseMembers (members.map fun member => (member.1, member.2.collapse))) := by
      intro names listed
      rw [Decode.optional, Decode.optional, entry_collapseMembers, entry_collapseMembers]
      exact optional_float (fun name whole found => fit.named listed found whole .root) .value
    rw [Json.collapse_obj]
    simp only [decode, ofMembers, number ["min", "minimum"] (by decide),
      number ["max", "maximum"] (by decide), number ["step"] (by decide)]
  | arr items => rw [Json.collapse_arr]; rfl
  | _ => rfl

/-! ### Fields -/

namespace Field

/-- Whether a value reads the same from both sources, in every role for which its numbers fit. -/
structure ReadsAlike (value : Json) : Prop where
  field : grammar.NumbersFit .field value →
    (Reading.ofJson .value value).field = (Reading.ofJson .text value).field
  fields : grammar.NumbersFit .fields value →
    (Reading.ofJson .value value).fields = (Reading.ofJson .text value).fields
  gate : grammar.NumbersFit .gate value →
    (Reading.ofJson .value value).gate = (Reading.ofJson .text value).gate

/-- An attribute that holds fields reads the same. -/
theorem fields_alike {role : Form.Role} (names : List String)
    (alike : ∀ member ∈ members, ReadsAlike member.2)
    (fit : grammar.NumbersFit role (.obj members))
    (listed : (names, Form.Role.fields) ∈ grammar.attributes role) :
    entry names (.ok []) Reading.fields
        (members.map fun member => (member.1, Reading.ofJson .value member.2)) =
      entry names (.ok []) Reading.fields
        (members.map fun member => (member.1, Reading.ofJson .text member.2)) :=
  entry_congr fun _ _ found => (alike _ (mem_of_find? found)).fields (fit.named listed found)

theorem gateOfMembers_alike (alike : ∀ member ∈ members, ReadsAlike member.2)
    (fit : grammar.NumbersFit .gate (.obj members)) :
    gateOfMembers (members.map fun member => (member.1, Reading.ofJson .value member.2)) =
      gateOfMembers (members.map fun member => (member.1, Reading.ofJson .text member.2)) := by
  simp only [gateOfMembers, Reading.map_raw_ofJson,
    fields_alike ["then"] alike fit (by decide),
    fields_alike ["else", "else_"] alike fit (by decide)]

theorem gate?_alike {value : Json} (alike : ReadsAlike value)
    (fit : grammar.NumbersFit .gate value) :
    (Reading.ofJson .value value).gate? = (Reading.ofJson .text value).gate? := by
  rw [Reading.gate?, Reading.gate?, Reading.raw_ofJson, Reading.raw_ofJson, alike.gate fit]

theorem ofMembers_alike (alike : ∀ member ∈ members, ReadsAlike member.2)
    (fit : grammar.NumbersFit .field (.obj members)) :
    ofMembers .value (members.map fun member => (member.1, Reading.ofJson .value member.2)) =
      ofMembers .text (members.map fun member => (member.1, Reading.ofJson .text member.2)) := by
  have rules : optional ["validation"] (Validation.decode .value)
        (members.map fun member => (member.1, member.2.collapse)) =
      optional ["validation"] (Validation.decode .text)
        (members.map fun member => (member.1, member.2.collapse)) := by
    refine entry_congr fun name value found => ?_
    have alike := Validation.decode_alike
      (fit.named (by decide : (["validation"], Form.Role.rules) ∈ grammar.attributes .field) found)
    unfold nullable
    split <;> simp_all
  have gate : entry ["conditional"] (.ok none) Reading.gate?
        (members.map fun member => (member.1, Reading.ofJson .value member.2)) =
      entry ["conditional"] (.ok none) Reading.gate?
        (members.map fun member => (member.1, Reading.ofJson .text member.2)) :=
    entry_congr fun name value found => gate?_alike (alike _ (mem_of_find? found))
      (fit.named (by decide : (["conditional"], Form.Role.gate) ∈ grammar.attributes .field) found)
  simp only [ofMembers, Reading.map_raw_ofJson, rules, gate,
    fields_alike ["fields"] alike fit (by decide)]

/-- Every value reads the same from both sources in every role for which its numbers fit. -/
theorem readsAlike (value : Json) : ReadsAlike value := by
  have leaf : ∀ leaf : Json, (∀ source, Reading.ofJson source leaf = Reading.ofLeaf leaf) →
      ReadsAlike leaf := by
    intro leaf same
    constructor
    all_goals
      intro _
      rw [same, same]
  induction value using Json.induction with
  | null => exact leaf _ fun _ => rfl
  | bool value => exact leaf _ fun _ => rfl
  | int value => exact leaf _ fun _ => rfl
  | float value => exact leaf _ fun _ => rfl
  | str text => exact leaf _ fun _ => rfl
  | arr items inductionHypothesis =>
    constructor
    · intro _
      simp only [Reading.ofJson_arr, Reading.ofItems]
    · intro fit
      rw [Reading.ofJson_arr, Reading.ofJson_arr]
      refine congrArg Decoded.allIndexed ?_
      rw [List.map_map, List.map_map]
      exact List.map_congr_left fun item inside =>
        congrArg (Decoded.map some) ((inductionHypothesis item inside).field (fit.item rfl inside))
    · intro _
      simp only [Reading.ofJson_arr, Reading.ofItems]
  | obj members inductionHypothesis =>
    constructor
    · intro fit
      rw [Reading.ofJson_obj, Reading.ofJson_obj]
      exact ofMembers_alike inductionHypothesis fit
    · intro _
      simp only [Reading.ofJson_obj, Reading.ofObject]
    · intro fit
      rw [Reading.ofJson_obj, Reading.ofJson_obj]
      exact gateOfMembers_alike inductionHypothesis fit

end Field

/-- A form reads the same from text and from a decoded value, issues included. -/
theorem Form.decode_alike {value : Json} (fit : grammar.NumbersFit .form value) :
    Form.decode .value value = Form.decode .text value := by
  cases value with
  | obj members =>
    have fields : entry ["fields"] (.ok []) (Field.decodeList .value) members =
        entry ["fields"] (.ok []) (Field.decodeList .text) members := by
      rw [entry, entry]
      cases found : find? ["fields"] members with
      | none => rfl
      | some member =>
        have alike := (Field.readsAlike member.2).fields
          (fit.named (by decide : (["fields"], Role.fields) ∈ grammar.attributes .form) found)
        simp only [Field.decodeList, alike]
    simp only [decode, fields]
  | _ => rfl

end Formwork
