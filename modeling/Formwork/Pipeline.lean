/-
This file joins the parts of the library: documents are read as schemas or forms,
schemas are converted to forms, and forms are checked. What these steps log is
part of their results. A converted form is not checked on the way.
-/

import Formwork.Check.Walk
import Formwork.Conversion.Fields
import Formwork.Decoding.Document
import Formwork.Decoding.Failure
import Formwork.Form.Decode
import Formwork.Form.Encode
import Formwork.Log
import Formwork.Schema.Decode

namespace Formwork

/-! ### Reading documents -/

/-- Reads a schema document. -/
def Schema.parse (document : Document) : Except DecodeFailure Schema :=
  (document.decode Schema.decode).toExcept (.single .schema) document.source

/-- Reads a form document. -/
def Form.parse (document : Document) : Except DecodeFailure Form :=
  (document.decode Form.decode).toExcept (.single .form) document.source

/-! ### Converting -/

/-- Converts a schema and logs the number of fields. -/
def Schema.convert (defaults : FormDefaults) (schema : Schema) : Logged Form := do
  let form := schema.toForm defaults
  Logged.write .debug .library
    ("Converted schema '" ++ schema.annotations.title.getD "" ++ "' into " ++
      Fault.showInt form.fields.length ++ " top-level fields")
  return form

/-- Converts a schema that may be missing. -/
def Schema.convert? (defaults : FormDefaults) : Option Schema → Logged (Except Complaint Form)
  | some schema => do
    let form ← schema.convert defaults
    return .ok form
  | none => return .error ⟨"", .noSchema⟩

/-- Reads a schema document and converts the schema. -/
def Form.ofSchemaDocument (defaults : FormDefaults) (document : Document) :
    Logged (Except DecodeFailure Form) :=
  match Schema.parse document with
  | .ok schema => do
    let form ← schema.convert defaults
    return .ok form
  | .error failure => return .error failure

/-! ### Checking -/

/-- Checks the outline of a form that may be missing and logs the complaint about it. -/
def FormOutline.checkLogged (form : Option FormOutline) : Logged (Option Complaint) := do
  match complaint? form with
  | some complaint =>
    Logged.write .debug .library ("Form validation failed: " ++ complaint.message)
    return some complaint
  | none => return none

/-- Checks a form that may be missing and logs the complaint about it. -/
def Form.checkLogged (form : Option Form) : Logged (Option Complaint) :=
  FormOutline.checkLogged (form.map outline)

end Formwork
