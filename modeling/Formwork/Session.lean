/-
This file runs sessions: sequences of steps on one schema, one draft of a form, one
scope of names and the settings. A step answers and may change the state; a step
that fails leaves the state as it was, except that a name stays registered when
the field that carries it is refused later.
-/

import Formwork.Draft.Edit
import Formwork.Draft.Outline
import Formwork.Schema.Encode
import Formwork.Tool.Call

namespace Formwork

/-- The state of a session. -/
structure Session where
  settings : Settings := {}
  schema : Option Schema := none
  form : Option Draft := none
  scope : Scope := []

/-- A step of a session. -/
inductive SessionStep where
  | updateSettings (values : List (String × Json))
  | showSettings
  | parseSchema (document : Document)
  | showSchema
  | assignSchema (key : String)
  | convert
  | convertParsed
  | parseForm (document : Document)
  | clearForm
  | assign (steps : List EditStep) (key : String) (value : Json)
  | insert (steps : List EditStep) (index : Option Int) (field : Json)
  | remove (steps : List EditStep) (index : Int)
  | check
  | validate
  | showForm
  | writeForm (indent : Option Int)
  | reparse
  | validateField (field : Json) (path : String)
  | clearScope
  | callTool (name : String) (arguments : List (String × Json))

/-- The answer to a step. -/
inductive Reply where
  | done (result : Json)
  | complaint (complaint : Complaint)
  | unreadable (failure : DecodeFailure)
  | invalid (failure : DecodeFailure)
  | refused (message : String)

namespace Reply

/-- The answer to a failed edit. -/
def ofEditFailure : EditFailure → Reply
  | .unreadable failure => .invalid failure
  | failure => .refused failure.message

/-- The answer for a step that needs a form when there is none. -/
def noForm : Reply := ofEditFailure .noSuchPart

/-- The answer null, or the complaint. -/
def ofComplaint : Option Complaint → Reply
  | none => .done .null
  | some found => .complaint found

end Reply

namespace Session

/-! ### Forms and their parts -/

/-- Stores a draft and answers with its serialized representation. -/
def storeForm (session : Session) (draft : Draft) : Session × Reply :=
  ({ session with form := some draft }, .done draft.toJson)

/-- Stores an edited draft and answers, or answers that the edit failed. -/
def storeEdit (session : Session) : Draft.Result (Draft × Json) → Session × Reply
  | .ok (draft, result) => ({ session with form := some draft }, .done result)
  | .error failure => (session, .ofEditFailure failure)

/-- Edits the form, if there is one. -/
def edit (session : Session) (change : Draft → Draft.Result (Draft × Json)) : Session × Reply :=
  match session.form with
  | some draft => session.storeEdit (change draft)
  | none => (session, .noForm)

/-- Converts a schema and stores the form. Unfit settings are reported before anything is
logged. -/
def convertSchema (session : Session) (schema : Schema) : Logged (Session × Reply) :=
  match session.settings.formDefaults with
  | .ok defaults => do
    let form ← schema.convert defaults
    return session.storeForm (session.settings.draftOf form)
  | .error failure => return (session, .invalid failure)

/-- Reads the form back from its own text and stores what was read. -/
def reparseForm (session : Session) (draft : Draft) : Session × Reply :=
  match Form.parse (.text (draft.write none)) with
  | .ok back =>
    let back := back.toDraft
    ({ session with form := some back }, .done (.obj [("equal", .bool (back.sameValue draft))]))
  | .error failure => (session, .unreadable failure)

/-- Checks a field, which changes the scope whatever the outcome. -/
def checkField (session : Session) (field : Json) (path : String) : Session × Reply :=
  match (Decode.nullable (Field.decode .value) field).toExcept (.single .field) .value with
  | .error failure => (session, .invalid failure)
  | .ok field =>
    let (scope, violation) := Field.check? session.scope field
    ({ session with scope }, .ofComplaint (violation.map (·.below path)))

/-! ### Steps -/

/-- Runs a step. -/
def step (session : Session) : SessionStep → Logged (Session × Reply)
  | .updateSettings values =>
    let settings := session.settings.update values
    return ({ session with settings }, .done settings.toJson)
  | .showSettings => return (session, .done session.settings.toJson)
  | .parseSchema document =>
    match Schema.parse document with
    | .ok schema => return ({ session with schema := some schema }, .done schema.toJson)
    | .error failure => return (session, .unreadable failure)
  | .showSchema => return (session, .done (Json.orNull Schema.toJson session.schema))
  | .assignSchema key =>
    return (session, .invalid ⟨.single .schema, .value, [⟨[.name key], .frozen⟩]⟩)
  | .convert =>
    match session.schema with
    | some schema => session.convertSchema schema
    | none => return (session, .complaint ⟨"", .noSchema⟩)
  | .convertParsed =>
    match session.schema with
    | some schema => session.convertSchema schema
    | none =>
      return (session, .unreadable ⟨.single .schema, .value, [⟨[], .notRecord .schema⟩]⟩)
  | .parseForm document =>
    match Form.parse document with
    | .ok form => return session.storeForm form.toDraft
    | .error failure => return (session, .unreadable failure)
  | .clearForm => return ({ session with form := none }, .done .null)
  | .assign steps key value =>
    return session.edit fun draft => (draft.assign steps key value).map (·, .null)
  | .insert steps index field =>
    return session.edit fun draft =>
      (draft.insert steps index field).map fun (draft, length) => (draft, .int length)
  | .remove steps index => return session.edit fun draft => draft.remove steps index
  | .check => do
    let complaint ← FormOutline.checkLogged (session.form.map Draft.outline)
    return (session, .done (reportJson complaint))
  | .validate => return (session, .ofComplaint (Draft.complaint? session.form))
  | .showForm =>
    match session.form with
    | some draft => return (session, .done draft.toJson)
    | none => return (session, .noForm)
  | .writeForm indent =>
    match session.form with
    | some draft => return (session, .done (.str (draft.write indent)))
    | none => return (session, .noForm)
  | .reparse =>
    match session.form with
    | some draft => return session.reparseForm draft
    | none => return (session, .noForm)
  | .validateField field path => return session.checkField field path
  | .clearScope => return ({ session with scope := [] }, .done .null)
  | .callTool name arguments => do
    match ← Tool.callWith session.settings name arguments with
    | .ok result => return (session, .done result)
    | .error failure => return (session, .invalid failure)

end Session

end Formwork
