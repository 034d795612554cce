/-
This file says what the joined steps of the library amount to, apart from what they log.
-/

import Formwork.Pipeline

namespace Formwork

namespace Logged

variable {α β : Type}

@[simp]
theorem value_pure (value : α) : (pure value : Logged α).value = value := rfl

@[simp]
theorem value_bind (logged : Logged α) (next : α → Logged β) :
    (logged >>= next).value = (next logged.value).value := rfl

end Logged

theorem Document.decode_eq {α : Type} {document : Document} {json : Json}
    (found : document.json? = some json) (read : Source → Json → Decoded α) :
    document.decode read = read document.source json := by
  simp only [decode, found]

section Unread

variable {text : String} (unread : Json.read? Document.nestingLimit text = none)

include unread

/-- A text that denotes no value is refused as a whole, as a schema and as a form. -/
theorem Schema.parse_of_unread :
    Schema.parse (.text text) = .error ⟨.single .schema, .text, [⟨[], .malformedText⟩]⟩ := by
  have absent : (Document.text text).json? = none := unread
  rw [Schema.parse, Document.decode, absent]
  rfl

theorem Form.parse_of_unread :
    Form.parse (.text text) = .error ⟨.single .form, .text, [⟨[], .malformedText⟩]⟩ := by
  have absent : (Document.text text).json? = none := unread
  rw [Form.parse, Document.decode, absent]
  rfl

end Unread

/-- A document is converted by reading it and converting what was read. -/
theorem Form.value_ofSchemaDocument (defaults : FormDefaults) (document : Document) :
    (ofSchemaDocument defaults document).value =
      (Schema.parse document).map (Schema.toForm defaults) := by
  unfold ofSchemaDocument
  cases Schema.parse document <;> rfl

theorem Form.value_checkLogged (form : Option Form) :
    (checkLogged form).value = complaint? form := by
  unfold checkLogged FormOutline.checkLogged complaint?
  cases FormOutline.complaint? (form.map outline) <;> rfl

end Formwork
