/-
This file answers the requests of a tool server: a call of a tool, whose
arguments are first compared with the types the tool asks for, and the question
whether the server is well.
-/

import Formwork.Tool.Call
import Formwork.Json.Display

namespace Formwork

/-- The answer to a call: text, and whether the call itself was refused. -/
structure CallAnswer where
  isError : Bool
  text : String
  deriving DecidableEq, Repr

namespace Tool

/-- Whether a value has one of the types an argument can have. -/
def hasType : ArgumentType → Json → Bool
  | .object, .obj _ => true
  | .string, .str _ => true
  | .boolean, .bool _ => true
  | _, _ => false

/-- The message for an argument that a tool needs and did not get. -/
def missingMessage? (tool : Tool) (arguments : List (String × Json)) : Option String :=
  (tool.arguments.find? fun argument =>
      argument.isRequired && (lastMember? argument.name arguments).isNone).map
    fun argument => "'" ++ argument.name ++ "' is a required property"

/-- The message for an argument of a wrong type. -/
def typeMessage? (arguments : List (String × Json)) (argument : ToolArgument) :
    Option String :=
  match lastMember? argument.name arguments with
  | some value =>
    if argument.types.any (hasType · value) then none
    else
      some (value.display ++ " is not of type " ++
        ", ".intercalate (argument.types.map fun type => "'" ++ type.name ++ "'"))
  | none => none

/-- The message for arguments that do not fit a tool. A missing argument counts before one of a
wrong type, and of two wrong types the last one is named. -/
def argumentsMessage? (tool : Tool) (arguments : List (String × Json)) : Option String :=
  tool.missingMessage? arguments <|> tool.arguments.reverse.findSome? (typeMessage? arguments)

/-- Answers a call. Arguments of a known tool that do not fit are refused; otherwise the answer
is the text of what the tool returns, laid out as the settings say. -/
def answer (settings : Settings) (name : String) (arguments : List (String × Json)) :
    Logged CallAnswer :=
  match (ofName? name).bind (·.argumentsMessage? arguments) with
  | some message => return ⟨true, "Input validation error: " ++ message⟩
  | none => do
    Logged.write .info .server ("Tool call: " ++ name)
    match ← callWith settings name arguments, settings.layout with
    | .ok result, .ok layout => return ⟨false, result.write layout⟩
    | .ok _, .error bad => return ⟨true, bad.message⟩
    | .error failure, _ => return ⟨true, failure.summary⟩

end Tool

/-- The version of the program. -/
def version : String := "0.1.0"

/-- The answer to the question whether the server is well. -/
def healthJson : Json :=
  .obj [
    ("status", .str "healthy"),
    ("service", .str LogSource.server.name),
    ("transport", .str "sse"),
    ("version", .str version)]

end Formwork
