/-
This file checks what concerns one field alone. The checks look only at the facts
of a field: its name, its kind, the texts of its options, and its bounds. Each
check gives the first fault it finds.
-/

import Formwork.Check.Bounds

namespace Formwork

/-! ### Names -/

/-- The names that clash with the properties of form elements, in lower case. -/
def reservedNames : List String := ["submit", "reset", "button", "form", "fieldset", "legend"]

/-- Whether a name may start with a character. -/
def isNameStart (char : Char) : Bool := char.isAlpha || char == '_'

/-- Whether a character may stand in a name after the first one. -/
def isNameChar (char : Char) : Bool :=
  char.isAlphanum || char == '_' || char == '.' || char == '-'

/-- Whether the rest of a name is well formed. One line break may end it. -/
def isNameRest : List Char → Bool
  | [] => true
  | ['\n'] => true
  | char :: rest => isNameChar char && isNameRest rest

/-- Whether a name is well formed. -/
def isName : List Char → Bool
  | [] => false
  | char :: rest => isNameStart char && isNameRest rest

/-- Whether a name is reserved, in any case of its letters. -/
def isReserved (name : String) : Bool :=
  reservedNames.contains (String.ofList (name.toList.map Char.toLower))

/-- The fault of a name. The empty name is none and has no fault. -/
def nameFault? (name : String) : Option Fault :=
  if name.isEmpty then none
  else if !isName name.toList then some (.malformedName name)
  else if isReserved name then some (.reservedName name)
  else none

/-! ### Kinds -/

/-- The kind that a text names, or its fault. -/
def resolveKind (kind : String) : Except Fault Kind :=
  match Kind.ofName? kind with
  | some kind => .ok kind
  | none => .error (.unknownKind kind)

/-! ### Options -/

/-- The first of some texts that is among the given ones or among the earlier ones, with its
position. -/
def duplicateText? (seen : List String) (position : Nat) : List String → Option (String × Nat)
  | [] => none
  | text :: rest =>
    if seen.contains text then some (text, position)
    else duplicateText? (text :: seen) (position + 1) rest

/-- The fault of the options of a control of some kind, given their texts. -/
def optionsFault? (kind : Kind) (texts : List String) : Option Fault :=
  if Kind.optionRequiring.contains kind && texts.isEmpty then some (.optionsMissing kind)
  else if Kind.optionless.contains kind && !texts.isEmpty then some (.optionsForbidden kind)
  else if Kind.choices.contains kind then
    (duplicateText? [] 0 texts).map fun (text, position) => .duplicateOption text position
  else none

/-! ### Facts -/

/-- The facts of a field: what the checks look at, apart from its children and its gate. -/
structure Facts where
  name : String
  kind : String
  optionTexts : List String := []
  bounds : Bounds := {}
  deriving DecidableEq

/-- The texts by which the options of a control are told apart. -/
def Control.optionTexts (control : Control) : List String :=
  control.options.map (·.value.display)

/-- The facts of a control. Missing rules count as rules without bounds. -/
def Control.facts (control : Control) : Facts where
  name := control.name
  kind := control.kind
  optionTexts := control.optionTexts
  bounds := (control.validation.map Validation.bounds).getD {}

/-- The fault of a field apart from its name: its kind, its options, its bounds, and children
where none may be. -/
def Facts.fault? (facts : Facts) (hasChildren : Bool) : Option Fault :=
  match resolveKind facts.kind with
  | .error fault => some fault
  | .ok kind =>
    optionsFault? kind facts.optionTexts <|>
    facts.bounds.fault? kind <|>
    if hasChildren && !Kind.containers.contains kind then some (.strayChildren facts.kind)
    else none

end Formwork
