/-
This file holds the settings of the program: their defaults, reading them from
environment variables, and changing single ones by name. A setting keeps whatever
value it was given; where it is used a value that does not fit is an error of its
own.
-/

import Formwork.Conversion.Defaults
import Formwork.Decoding.Failure
import Formwork.Json.Display
import Formwork.Json.Writer
import Formwork.Number.Literal
import Formwork.Text.UpperCase

namespace Formwork

/-- The settings. -/
structure Settings where
  defaultMethod : Json := .str "POST"
  patternMessage : Json := .str "Invalid format"
  transport : Json := .str "stdio"
  port : Json := .int 8080
  logLevel : Json := .str "INFO"
  jsonIndent : Json := .int 2

namespace Settings

/-! ### The environment -/

/-- Why a text is no whole number. -/
inductive BadNumber where
  | invalid (text : String)
  | oversized (digits : Nat)
  deriving DecidableEq, Repr

/-- The greatest length to which a text is quoted in a message. -/
def quoteLimit : Nat := 200

/-- The message for a text that is no whole number. -/
def BadNumber.message : BadNumber → String
  | .invalid text =>
    "invalid literal for int() with base 10: " ++
      String.ofList ((quoted text.toList).take quoteLimit)
  | .oversized digits =>
    "Exceeds the limit (" ++ String.ofList (decimalText digitLimit) ++
      " digits) for integer string conversion: value has " ++
      String.ofList (decimalText digits) ++
      " digits; use sys.set_int_max_str_digits() to increase the limit"

/-- Reads a whole number. -/
def readNumber (text : String) : Except BadNumber Int :=
  match readSettingInt text with
  | .value value => .ok value
  | .invalid => .error (.invalid text)
  | .oversized digits => .error (.oversized digits)

/-- Reads a whole number if it is set. -/
def readNumberOr (absent : Int) : Option String → Except BadNumber Int
  | some text => readNumber text
  | none => .ok absent

/-- The settings given by environment variables; a variable that is not set leaves the default.
The port is read before the indent, and the name of a log level is put in upper case. -/
def ofEnvironment (setting? : String → Option String) : Except BadNumber Settings :=
  match readNumberOr 8080 (setting? "MCP_PORT") with
  | .error bad => .error bad
  | .ok port =>
    match readNumberOr 2 (setting? "SCHEMA_FORM_JSON_INDENT") with
    | .error bad => .error bad
    | .ok indent =>
      .ok {
        defaultMethod := .str ((setting? "SCHEMA_FORM_DEFAULT_METHOD").getD "POST")
        patternMessage := .str ((setting? "SCHEMA_FORM_PATTERN_ERROR").getD "Invalid format")
        transport := .str ((setting? "MCP_TRANSPORT").getD "stdio")
        port := .int port
        logLevel := .str (upperCase ((setting? "SCHEMA_FORM_LOG_LEVEL").getD "INFO"))
        jsonIndent := .int indent }

/-! ### Single settings -/

/-- The settings with one of them changed. An unknown name changes nothing. -/
def set (settings : Settings) (name : String) (value : Json) : Settings :=
  match name with
  | "default_method" => { settings with defaultMethod := value }
  | "pattern_error_message" => { settings with patternMessage := value }
  | "mcp_transport" => { settings with transport := value }
  | "mcp_port" => { settings with port := value }
  | "log_level" => { settings with logLevel := value }
  | "indent_json_output" => { settings with jsonIndent := value }
  | _ => settings

/-- The settings with several of them changed, in order. -/
def update (settings : Settings) (values : List (String × Json)) : Settings :=
  values.foldl (fun settings member => settings.set member.1 member.2) settings

/-- The settings as a JSON value. -/
def toJson (settings : Settings) : Json :=
  .obj [
    ("default_method", settings.defaultMethod),
    ("pattern_error_message", settings.patternMessage),
    ("mcp_transport", settings.transport),
    ("mcp_port", settings.port),
    ("log_level", settings.logLevel),
    ("indent_json_output", settings.jsonIndent)]

/-! ### Their use -/

/-- What the settings say about converted forms. The method must be a text or null. A message
that is neither is left out. -/
def formDefaults (settings : Settings) : Except DecodeFailure FormDefaults :=
  let patternMessage := match settings.patternMessage with
    | .str message => some message
    | _ => none
  match settings.defaultMethod with
  | .str method => .ok { method := some method, patternMessage }
  | .null => .ok { method := none, patternMessage }
  | _ => .error ⟨.single .form, .value, [⟨[.name "method"], .notText⟩]⟩

/-- A value that cannot serve as an indent. -/
structure BadIndent where
  typeName : String
  deriving DecidableEq, Repr

/-- The message for a value that cannot serve as an indent. -/
def BadIndent.message (bad : BadIndent) : String :=
  "can't multiply sequence by non-int of type '" ++ bad.typeName ++ "'"

/-- The layout of JSON text: a number of blanks or a text for each level, or one line. -/
def layout (settings : Settings) : Except BadIndent Json.Layout :=
  match settings.jsonIndent with
  | .null => .ok .line
  | .int indent => .ok (.ofBlanks indent)
  | .bool indent => .ok (.ofBlanks indent.toInt)
  | .str unit => .ok (.lines unit.toList)
  | value => .error ⟨value.typeName⟩

end Settings

end Formwork
