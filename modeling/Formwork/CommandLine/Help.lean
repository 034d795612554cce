/-
This file holds the help text of the command line. Descriptions of options start
in a column of their own and are broken into lines that fit. Since a description is
a template, a setting that it shows may have to be filled or be refused.
-/

import Formwork.CommandLine.Arguments
import Formwork.Text.Template
import Formwork.Text.Wrap

namespace Formwork

namespace Help

/-- The name of the program. -/
def program : String := "run_mcp_server.py"

/-- The lines that show how the program is called. -/
def usage : String :=
  "usage: " ++ program ++ " [-h] [--transport \x7bstdio,sse\x7d] [--host HOST]\n" ++
  "                         [--port PORT]\n"

/-- The column in which descriptions start. -/
def column : Nat := 24

/-- The greatest width of a line of a description. -/
def width : Nat := 54

/-- Whether a character is blank in ASCII. -/
def isPlainBlank (char : Char) : Bool := char.toNat < 128 && isBlank char

/-- A text with one blank in place of every run of ASCII blanks, and nothing invisible at its
ends. -/
def collapse (text : List Char) : List Char :=
  let single := text.foldr
    (fun char rest =>
      if isPlainBlank char then
        if rest.head? == some ' ' then rest else ' ' :: rest
      else char :: rest)
    []
  let isInvisible (char : Char) : Bool := Wrap.isInvisible [char]
  ((single.dropWhile isInvisible).reverse.dropWhile isInvisible).reverse

/-- Blanks up to the column of descriptions. -/
def margin : String := String.ofList (List.replicate column ' ')

/-- The lines of a description, each in its column. -/
def description (text : List Char) : String :=
  String.join ((wrapText width (collapse text)).map fun line =>
    margin ++ String.ofList line ++ "\n")

/-- An option whose name leaves no room for its description on the same line. -/
def longEntry (name : String) (text : List Char) : String :=
  "  " ++ name ++ "\n" ++ description text

/-- An option with the first line of its description on the same line. -/
def entry (name : String) (text : List Char) : String :=
  let lead := "  " ++ name
  lead ++ String.ofList ((description text).toList.drop lead.length)

/-- What the description of an option may name: the parts of its definition. -/
def parts (flag : Flag) (default : Json) (type choices : Json) (text : String) :
    List (String × Json) := [
  ("option_strings", .arr [.str flag.title]),
  ("dest", .str (String.ofList (flag.title.toList.drop 2))),
  ("nargs", .null),
  ("const", .null),
  ("default", default),
  ("type", type),
  ("choices", choices),
  ("required", .bool false),
  ("help", .str text),
  ("metavar", .null),
  ("prog", .str program)]

/-- The description of an option that shows its default. The result is itself a template, which
the parts of the option fill. -/
def describe (flag : Flag) (about : String) (default type choices : Json) :
    Except Template.Failure (List Char) :=
  let text := about ++ " (default: " ++ default.shown ++ ")"
  fillTemplate (parts flag default type choices text) text.toList

/-- The text after the options. -/
def epilogue : String :=
  "Examples:\n" ++
  "  # Desktop client (stdio)\n" ++
  "  python run_mcp_server.py --transport stdio\n" ++
  "\n" ++
  "  # Docker/Remote (SSE)\n" ++
  "  python run_mcp_server.py --transport sse --port 8080\n" ++
  "\n" ++
  "Environment Variables:\n" ++
  "  MCP_TRANSPORT                Transport type: stdio or sse (default: stdio)\n" ++
  "  MCP_PORT                     Port for SSE transport (default: 8080)\n" ++
  "  SCHEMA_FORM_DEFAULT_METHOD   HTTP method for converted forms (default: POST)\n" ++
  "  SCHEMA_FORM_LOG_LEVEL        Log level (default: INFO)\n" ++
  "        \n"

/-- The help text, which shows the settings as defaults. -/
def text (settings : Settings) : Except Template.Failure String := do
  let transport ← describe .transport "Transport type" settings.transport .null
    (.str (", ".intercalate transportNames))
  let port ← describe .port "Port for SSE transport" settings.port (.str "int") .null
  return usage ++ "\nschema-form MCP Server\n\noptions:\n" ++
    entry "-h, --help" "show this help message and exit".toList ++
    longEntry "--transport \x7bstdio,sse\x7d" transport ++
    entry "--host HOST" "Host for SSE transport (default: 0.0.0.0)".toList ++
    entry "--port PORT" port ++
    "\n" ++ epilogue

end Help

end Formwork
