/-
This file edits drafts: it gives a slot of a part another value, and inserts
fields into lists and removes them. Records and lists of records are read before
they are stored, so that an edit may fail with the issues of a value; a failed
edit changes nothing.
-/

import Formwork.Decoding.Failure
import Formwork.Draft.Basic
import Formwork.Form.Decode

namespace Formwork

/-- Why an edit was refused. -/
inductive EditFailure where
  | noSuchPart
  | noSuchSlot (record : Record) (key : String)
  | unreadable (failure : DecodeFailure)
  deriving DecidableEq, Repr

/-- The message of a refused edit, apart from the issues of an unreadable value. -/
def EditFailure.message : EditFailure → String
  | .noSuchPart => "no such part of the form"
  | .noSuchSlot record key =>
    "\"" ++ record.title ++ "\" object has no field \"" ++ key ++ "\""
  | .unreadable failure => failure.summary

namespace Draft

/-- The result of an edit. -/
abbrev Result (α : Type) := Except EditFailure α

/-! ### Values to store -/

/-- Reads a value and stores its record. -/
def readAs (target : Target) (toRecord : α → Json) (decoded : Decoded α) : Result Json :=
  ((decoded.map toRecord).toExcept target .value).mapError .unreadable

/-- Reads a field, or a missing one. -/
def readField (value : Json) : Result Json :=
  readAs (.single .field) (Json.orNull Field.toRecord)
    (Decode.nullable (Field.decode .value) value)

/-- Reads the value for a slot by its key. What is neither a record nor a list of records is
stored as it is. -/
def readFor (key : String) (value : Json) : Result Json :=
  match key with
  | "options" =>
    readAs (.list .option) (fun options => .arr (options.map FieldOption.toRecord))
      (Decode.list FieldOption.decode value)
  | "fields" | "then" | "else_" =>
    readAs (.list .field) (fun fields => .arr (Field.listToRecords fields))
      (Field.decodeList .value value)
  | "validation" =>
    readAs (.orNull .validation) (Json.orNull Validation.toRecord)
      (Decode.nullable (Validation.decode .value) value)
  | "conditional" =>
    readAs (.orNull .gate) (Json.orNull Field.gateToRecord)
      (Decode.nullable (Field.decodeGate .value) value)
  | _ => .ok value

/-! ### Edits -/

/-- The draft that a replacement gives, or the failure to find the part. -/
def orNoSuchPart (result : Option α) : Result α :=
  match result with
  | some value => .ok value
  | none => .error .noSuchPart

/-- Gives a slot of the part that steps lead to another value. -/
def assign (draft : Draft) (steps : List EditStep) (key : String) (value : Json) :
    Result Draft := do
  let value ← readFor key value
  match draft.get? steps with
  | some (.part record, .obj members) =>
    match record.slot? key with
    | some slot =>
      orNoSuchPart (draft.replace? steps (.obj (putMember slot.name value members)))
    | none => .error (.noSuchSlot record key)
  | _ => .error .noSuchPart

/-- The items of the list that steps lead to. -/
def items (draft : Draft) (steps : List EditStep) : Result (List Json) :=
  match draft.get? steps with
  | some (.parts _, .arr items) => .ok items
  | _ => .error .noSuchPart

/-- The position to insert at: an index outside of the list counts as its nearer end. -/
def insertPosition (index : Option Int) (length : Nat) : Nat :=
  match index with
  | none => length
  | some index => (if index < 0 then index + length else index).toNat.min length

/-- Inserts a field into the list that steps lead to, by default at its end, and gives the new
length of the list. -/
def insert (draft : Draft) (steps : List EditStep) (index : Option Int) (field : Json) :
    Result (Draft × Nat) := do
  let field ← readField field
  let items ← draft.items steps
  let position := insertPosition index items.length
  let draft ← orNoSuchPart (draft.replace? steps (.arr (items.insertIdx position field)))
  return (draft, items.length + 1)

/-- The name of a field, null for a missing field. -/
def nameOf : Json → Json
  | .obj members => Json.valueOrNull "name" members
  | _ => .null

/-- Removes a field from the list that steps lead to, and gives its name. -/
def remove (draft : Draft) (steps : List EditStep) (index : Int) : Result (Draft × Json) := do
  let items ← draft.items steps
  let position ← orNoSuchPart (position? index items.length)
  let removed := (items[position]?.map nameOf).getD .null
  let draft ← orNoSuchPart (draft.replace? steps (.arr (items.eraseIdx position)))
  return (draft, removed)

end Draft

end Formwork
