/-
This file runs the tools. A tool answers with a form, with the outcome of a check,
with both, or with the error of a document that cannot be read. An argument that
is a string holds JSON text.
-/

import Formwork.Draft.Message
import Formwork.Pipeline
import Formwork.Tool.Catalog

namespace Formwork

/-- What a tool answers. -/
inductive ToolResult where
  | converted (form : Form)
  | convertedAndChecked (form : Form) (complaint : Option Complaint)
  | checked (complaint : Option Complaint)
  | failed (message : String)

/-- An answer as a JSON value, given the representation of forms. -/
def ToolResult.toJson (formJson : Form → Json) : ToolResult → Json
  | .converted form => .obj [("form", formJson form)]
  | .convertedAndChecked form complaint =>
    .obj [("form", formJson form), ("validation", reportJson complaint)]
  | .checked complaint => reportJson complaint
  | .failed message => .obj [("error", .str message)]

namespace Tool

/-- Converts a schema document and, if asked to, checks the form. -/
def convertSchema (defaults : FormDefaults) (schema : Document) (validate : Bool) :
    Logged ToolResult := do
  match ← Form.ofSchemaDocument defaults schema with
  | .error failure =>
    Logged.write .error .server ("Schema conversion failed: " ++ failure.message)
    return .failed failure.message
  | .ok form =>
    let result ← if validate then do
        let complaint ← Form.checkLogged (some form)
        pure (ToolResult.convertedAndChecked form complaint)
      else pure (.converted form)
    Logged.write .info .server
      ("Converted schema into " ++ Fault.showInt form.fields.length ++ " top-level fields")
    return result

/-- Checks a form document. -/
def checkForm (form : Document) : Logged ToolResult := do
  match Form.parse form with
  | .error failure =>
    Logged.write .error .server ("Form decoding failed: " ++ failure.message)
    return .failed failure.message
  | .ok form =>
    let complaint ← Form.checkLogged (some form)
    return .checked complaint

/-- The value of an argument, or the given one if it is left out. -/
def argumentOr (absent : Json) (name : String) (arguments : List (String × Json)) : Json :=
  (lastMember? name arguments).getD absent

/-- Runs a tool. A document that is left out counts as the empty object. -/
def run (defaults : FormDefaults) (arguments : List (String × Json)) : Tool → Logged ToolResult
  | .schemaToForm =>
    convertSchema defaults (.ofArgument (argumentOr (.obj []) "schema" arguments))
      (argumentOr (.bool true) "validate" arguments).isTruthy
  | .validateForm => checkForm (.ofArgument (argumentOr (.obj []) "form" arguments))

/-- Runs the tool with a name. -/
def call (defaults : FormDefaults) (name : String) (arguments : List (String × Json)) :
    Logged ToolResult :=
  match ofName? name with
  | some tool => tool.run defaults arguments
  | none => return .failed ("Unknown tool: " ++ name)

/-- Runs the tool with a name under settings. Settings that are unfit for a converted form are
reported in place of one, and nothing is logged then. -/
def callWith (settings : Settings) (name : String) (arguments : List (String × Json)) :
    Logged (Except DecodeFailure Json) :=
  match settings.formDefaults with
  | .ok defaults => do
    let result ← call defaults name arguments
    return .ok (result.toJson settings.formJson)
  | .error failure =>
    let logged := call {} name arguments
    match logged.value with
    | .converted _ | .convertedAndChecked _ _ => return .error failure
    | result => ⟨.ok (result.toJson settings.formJson), logged.entries⟩

end Tool

end Formwork
