/-
This file lists the slots of the records that make up a form: under which name an
edit and under which name a document calls them, what they hold, and when a
document leaves them out.
-/

import Formwork.Decoding.Issue

namespace Formwork

/-- What a slot holds: a value of some type, a record or null, or a list of records. -/
inductive Content where
  | text
  | flag
  | count
  | measure
  | scalar
  | any
  | part (record : Record)
  | parts (record : Record)
  deriving DecidableEq, Repr

/-- When a document leaves a slot out. -/
inductive Omission where
  | never
  | null
  | nullOrFalse
  | nullOrEmpty
  deriving DecidableEq, Repr

/-- A slot of a record. -/
structure Slot where
  key : String
  name : String
  content : Content
  omission : Omission := .null
  deriving DecidableEq, Repr

namespace Record

/-- The slots of a record in their order. A schema cannot be edited and has none. -/
def slots : Record → List Slot
  | .schema => []
  | .form => [
    { key := "title", name := "title", content := .text },
    { key := "description", name := "description", content := .text },
    { key := "action", name := "action", content := .text },
    { key := "method", name := "method", content := .text },
    { key := "fields", name := "fields", content := .parts .field, omission := .never }]
  | .field => [
    { key := "name", name := "name", content := .text },
    { key := "kind", name := "type", content := .text },
    { key := "label", name := "label", content := .text },
    { key := "description", name := "description", content := .text },
    { key := "placeholder", name := "placeholder", content := .text },
    { key := "default", name := "default", content := .any },
    { key := "value", name := "value", content := .scalar },
    { key := "options", name := "options", content := .parts .option,
      omission := .nullOrEmpty },
    { key := "validation", name := "validation", content := .part .validation },
    { key := "read_only", name := "readOnly", content := .flag, omission := .nullOrEmpty },
    { key := "deprecated", name := "deprecated", content := .flag, omission := .nullOrEmpty },
    { key := "fields", name := "fields", content := .parts .field, omission := .nullOrEmpty },
    { key := "conditional", name := "conditional", content := .part .gate },
    { key := "help_text", name := "helpText", content := .text }]
  | .option => [
    { key := "label", name := "label", content := .text, omission := .never },
    { key := "value", name := "value", content := .scalar, omission := .never }]
  | .validation => [
    { key := "required", name := "required", content := .flag, omission := .nullOrFalse },
    { key := "min_length", name := "minLength", content := .count },
    { key := "max_length", name := "maxLength", content := .count },
    { key := "minimum", name := "min", content := .measure },
    { key := "maximum", name := "max", content := .measure },
    { key := "pattern", name := "pattern", content := .text },
    { key := "pattern_error", name := "patternError", content := .text },
    { key := "step", name := "step", content := .measure },
    { key := "min_items", name := "minItems", content := .count },
    { key := "max_items", name := "maxItems", content := .count }]
  | .gate => [
    { key := "condition", name := "condition", content := .text },
    { key := "value", name := "value", content := .scalar },
    { key := "then", name := "then", content := .parts .field, omission := .nullOrEmpty },
    { key := "else_", name := "else", content := .parts .field, omission := .nullOrEmpty }]

/-- The slot that an edit calls by a key. -/
def slot? (record : Record) (key : String) : Option Slot := record.slots.find? (·.key == key)

/-- The slot under a name in documents. -/
def slotNamed? (record : Record) (name : String) : Option Slot :=
  record.slots.find? (·.name == name)

end Record

end Formwork
