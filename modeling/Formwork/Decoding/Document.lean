/-
This file defines documents: JSON text, the bytes of JSON text, or a value that
is already decoded. In a text at most 200 arrays and objects that are not empty
may lie inside of each other, and bytes must be well-formed UTF-8.
-/

import Formwork.Decoding.Decoded
import Formwork.Json.Reader

namespace Formwork

/-- A document to be read. -/
inductive Document where
  | text (content : String)
  | bytes (content : ByteArray)
  | value (content : Json)

namespace Document

/-- The number of arrays and objects with parts that may lie inside of each other in a text. -/
def nestingLimit : Nat := 200

/-- How the document was given. Bytes are text. -/
def source : Document → Source
  | .text _ => .text
  | .bytes _ => .text
  | .value _ => .value

/-- The JSON value of the document, if its text is well formed. -/
def json? : Document → Option Json
  | .text content => Json.read? nestingLimit content
  | .bytes content => (String.fromUTF8? content).bind (Json.read? nestingLimit)
  | .value content => some content

/-- Reads the document. Malformed text is one issue at the root. -/
def decode (read : Source → Json → Decoded α) (document : Document) : Decoded α :=
  match document.json? with
  | some json => read document.source json
  | none => .mismatch .malformedText

/-- The document that a JSON value stands for as an argument: a string holds JSON text, and
everything else is a decoded value. -/
def ofArgument : Json → Document
  | .str content => .text content
  | json => .value json

end Document

end Formwork
