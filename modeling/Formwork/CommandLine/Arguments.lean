/-
This file reads the arguments of the command line. First every argument is
classified on its own: as an option, possibly abbreviated and possibly with a
value after an equals sign, as a plain argument, or as an unknown option. Then
the options take their values in order, and whatever no option takes is reported.
-/

import Formwork.Settings

namespace Formwork

/-! ### Options -/

/-- The options of the command line. -/
inductive Flag where
  | help
  | transport
  | host
  | port
  deriving DecidableEq, Repr

namespace Flag

/-- All ways to write an option out in full, in the order of the options. -/
def spellings : List (String × Flag) :=
  [("-h", .help), ("--help", .help), ("--transport", .transport), ("--host", .host),
    ("--port", .port)]

/-- The name of an option in messages. -/
def title : Flag → String
  | .help => "-h/--help"
  | .transport => "--transport"
  | .host => "--host"
  | .port => "--port"

/-- The option with a spelling. -/
def ofSpelling? (spelling : String) : Option Flag :=
  (spellings.find? (·.1 == spelling)).map (·.2)

end Flag

/-- The transports that an argument may ask for. -/
def transportNames : List String := ["stdio", "sse"]

/-! ### What is wrong with arguments -/

/-- Why the arguments are refused. -/
inductive UsageError where
  | ambiguous (argument : String) (candidates : List String)
  | missingValue (flag : Flag)
  | notInt (flag : Flag) (text : String)
  | notChoice (flag : Flag) (text : String)
  | surplusValue (flag : Flag) (text : String)
  | unrecognized (arguments : List String)
  deriving DecidableEq, Repr

namespace UsageError

/-- A text between quotes. -/
def quote (text : String) : String := String.ofList (quoted text.toList)

/-- A message about one option. -/
def about (flag : Flag) (text : String) : String := "argument " ++ flag.title ++ ": " ++ text

/-- The message for refused arguments. -/
def message : UsageError → String
  | .ambiguous argument candidates =>
    "ambiguous option: " ++ argument ++ " could match " ++ ", ".intercalate candidates
  | .missingValue flag => about flag "expected one argument"
  | .notInt flag text => about flag ("invalid int value: " ++ quote text)
  | .notChoice flag text =>
    about flag ("invalid choice: " ++ quote text ++ " (choose from " ++
      ", ".intercalate (transportNames.map quote) ++ ")")
  | .surplusValue flag text => about flag ("ignored explicit argument " ++ quote text)
  | .unrecognized arguments => "unrecognized arguments: " ++ " ".intercalate arguments

end UsageError

/-! ### Classifying -/

/-- An argument on its own. A value written after an equals sign is kept with its option, and a
cluster is the short option for help with further characters or such a value behind it. -/
inductive Word where
  | plain (text : String)
  | separator
  | flag (flag : Flag) (value : Option String)
  | cluster (rest : List Char)
  | unknown (text : String)
  deriving DecidableEq, Repr

namespace Word

/-- The text before the first equals sign and the text after it, if there is one. -/
def splitEquals (text : List Char) : List Char × Option (List Char) :=
  match text.dropWhile (· != '=') with
  | [] => (text, none)
  | _ :: value => (text.takeWhile (· != '='), some value)

/-- Whether a character is a digit of any script. -/
def isDigit (char : Char) : Bool := (digitValue? char).isSome

/-- Whether a text is a negative number: digits, or a point between optional and required
digits. One line break may end it. -/
def isNegativeNumber (text : List Char) : Bool :=
  match text with
  | '-' :: rest =>
    let rest := if rest.getLast? == some '\n' then rest.dropLast else rest
    match rest.dropWhile isDigit with
    | [] => !rest.isEmpty
    | '.' :: fraction => !fraction.isEmpty && fraction.all isDigit
    | _ => false
  | _ => false

/-- The options that an argument may abbreviate, with their spellings and the value written
together with the option. -/
def candidates (text : List Char) : List (String × Word) :=
  match text with
  | '-' :: '-' :: _ =>
    let (name, value) := splitEquals text
    (Flag.spellings.filter fun spelling => name.isPrefixOf spelling.1.toList).map
      fun spelling => (spelling.1, .flag spelling.2 (value.map String.ofList))
  | '-' :: 'h' :: rest => [("-h", .cluster rest)]
  | _ => []

/-- Classifies an argument that starts with a dash and is no exact spelling. -/
def classifyDashed (argument : String) : Except UsageError Word :=
  match candidates argument.toList with
  | [candidate] => .ok candidate.2
  | [] =>
    if isNegativeNumber argument.toList || argument.toList.contains ' ' then
      .ok (.plain argument)
    else .ok (.unknown argument)
  | several => .error (.ambiguous argument (several.map (·.1)))

/-- Classifies an argument. -/
def classify (argument : String) : Except UsageError Word :=
  match argument.toList with
  | '-' :: _ :: _ =>
    match Flag.ofSpelling? argument with
    | some found => .ok (.flag found none)
    | none =>
      let (name, value) := splitEquals argument.toList
      match value, Flag.ofSpelling? (String.ofList name) with
      | some value, some found =>
        if name == "-h".toList then .ok (.cluster value)
        else .ok (.flag found (some (String.ofList value)))
      | _, _ => classifyDashed argument
  | _ => .ok (.plain argument)

/-- Classifies all arguments. After the separator every argument is plain. -/
def classifyAll : List String → Except UsageError (List Word)
  | [] => .ok []
  | "--" :: rest => .ok (.separator :: rest.map .plain)
  | argument :: rest =>
    match classify argument with
    | .error error => .error error
    | .ok word => (classifyAll rest).map (word :: ·)

end Word

/-! ### Taking values -/

/-- What the arguments ask for. A value that no argument gives is the one of the settings. -/
structure Arguments where
  transport : Json
  host : Json
  port : Json

/-- The outcome of reading the arguments: a run, or the help text. -/
inductive Request where
  | run (arguments : Arguments)
  | help

/-- The values that arguments have given so far. -/
structure GivenValues where
  transport : Option Json := none
  host : Option Json := none
  port : Option Json := none

/-- Reads a port, which must be a whole number. -/
def readPort (text : String) : Except UsageError Json :=
  match readSettingInt text with
  | .value port => .ok (.int port)
  | _ => .error (.notInt .port text)

namespace GivenValues

/-- Reads the value of an option. The separator as a value counts as an empty list. -/
def read (flag : Flag) (text : String) : Except UsageError Json :=
  if text == "--" && flag != .help then .ok (.arr [])
  else
    match flag with
    | .help => .error (.surplusValue .help text)
    | .transport =>
      if transportNames.contains text then .ok (.str text) else .error (.notChoice .transport text)
    | .host => .ok (.str text)
    | .port => readPort text

/-- Gives an option its value, in place of an earlier one. -/
def assign (flag : Flag) (text : String) (given : GivenValues) : Except UsageError GivenValues :=
  (read flag text).map fun value =>
    match flag with
    | .help => given
    | .transport => { given with transport := some value }
    | .host => { given with host := some value }
    | .port => { given with port := some value }

/-- The arguments, with what was not given taken from the settings. A port that is a text there
is read like one that was given. -/
def complete (given : GivenValues) (settings : Settings) : Except UsageError Arguments :=
  let port : Except UsageError Json :=
    match given.port, settings.port with
    | some port, _ => .ok port
    | none, .str text => readPort text
    | none, port => .ok port
  port.map fun port =>
    { transport := given.transport.getD settings.transport
      host := given.host.getD (.str "0.0.0.0")
      port }

end GivenValues

namespace Arguments

/-- What is too much in a cluster of short options for help: everything behind the letters that
ask for help, or a value that is empty. -/
def clusterSurplus? (text : List Char) : Option (List Char) :=
  let rest := text.dropWhile (· == 'h')
  if text.isEmpty || !rest.isEmpty then some rest else none

/-- Asks for the help text, unless something is written with the option that is too much. -/
def help (surplus : Option String) : Except UsageError Request :=
  match surplus with
  | none => .ok .help
  | some text => .error (.surplusValue .help text)

/-- Takes the arguments in order, with the ones that no option took so far, latest first. -/
def take (settings : Settings) (given : GivenValues) (extras : List String) :
    List Word → Except UsageError Request
  | [] =>
    match given.complete settings with
    | .error error => .error error
    | .ok arguments =>
      if extras.isEmpty then .ok (.run arguments) else .error (.unrecognized extras.reverse)
  | .plain text :: rest => take settings given (text :: extras) rest
  | .separator :: rest => take settings given ("--" :: extras) rest
  | .unknown text :: rest => take settings given (text :: extras) rest
  | .flag .help value :: _ => help value
  | .cluster tail :: _ => help ((clusterSurplus? tail).map String.ofList)
  | .flag flag (some value) :: rest =>
    match given.assign flag value with
    | .ok given => take settings given extras rest
    | .error error => .error error
  | .flag flag none :: .plain value :: rest =>
    match given.assign flag value with
    | .ok given => take settings given extras rest
    | .error error => .error error
  | .flag flag none :: _ => .error (.missingValue flag)

/-- Reads the arguments of the command line. -/
def parse (settings : Settings) (argv : List String) : Except UsageError Request :=
  match Word.classifyAll argv with
  | .ok words => take settings {} [] words
  | .error error => .error error

end Arguments

end Formwork
