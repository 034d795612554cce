/-
This file defines the kinds of form controls and the groups of kinds that decide
which options, rules and children a control may carry.
-/

namespace Formwork

/-- The kinds of controls that can be rendered. -/
inductive Kind where
  | text
  | email
  | password
  | number
  | tel
  | url
  | date
  | time
  | datetime
  | month
  | week
  | textarea
  | select
  | checkbox
  | radio
  | file
  | hidden
  | object
  | array
  deriving DecidableEq, Repr

namespace Kind

/-- All kinds. -/
def all : List Kind :=
  [.text, .email, .password, .number, .tel, .url, .date, .time, .datetime, .month, .week,
    .textarea, .select, .checkbox, .radio, .file, .hidden, .object, .array]

/-- The name of a kind in documents. -/
def name : Kind → String
  | .text => "text"
  | .email => "email"
  | .password => "password"
  | .number => "number"
  | .tel => "tel"
  | .url => "url"
  | .date => "date"
  | .time => "time"
  | .datetime => "datetime"
  | .month => "month"
  | .week => "week"
  | .textarea => "textarea"
  | .select => "select"
  | .checkbox => "checkbox"
  | .radio => "radio"
  | .file => "file"
  | .hidden => "hidden"
  | .object => "object"
  | .array => "array"

/-- The kind with a name. -/
def ofName? (name : String) : Option Kind := all.find? (·.name == name)

theorem ofName?_name (kind : Kind) : ofName? kind.name = some kind := by
  cases kind <;> decide

theorem name_of_ofName? {name : String} {kind : Kind} (found : ofName? name = some kind) :
    kind.name = name := by
  simpa using List.find?_some found

/-! ### Groups -/

/-- The kinds that hold a line or several lines of text. -/
def textual : List Kind := [.text, .email, .password, .url, .tel, .textarea]

/-- The kinds that hold a date or a time. -/
def temporal : List Kind := [.date, .time, .datetime, .month, .week]

/-- The kinds that choose among options. -/
def choices : List Kind := [.checkbox, .radio, .select]

/-- The kinds that need an option. -/
def optionRequiring : List Kind := [.select, .radio]

/-- The kinds that must not have options. -/
def optionless : List Kind := textual ++ temporal ++ [.number]

/-- The kinds that may have children. -/
def containers : List Kind := [.object, .array]

end Kind

end Formwork
