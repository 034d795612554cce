/-
This file defines the failure to read a document or a part of one, with the
messages that announce its issues.
-/

import Formwork.Decoding.Decoded
import Formwork.Number.Shortest

namespace Formwork

/-- A document, or a part of one, that could not be read as its target. -/
structure DecodeFailure where
  target : Target
  source : Source
  issues : List Issue
  deriving DecidableEq, Repr

namespace DecodeFailure

/-- How many issues there are and for which target. -/
def summary (failure : DecodeFailure) : String :=
  String.ofList (decimalText failure.issues.length) ++
    (if failure.issues.length = 1 then " validation error for " else " validation errors for ") ++
    failure.target.title

/-- The message for a document that could not be read. -/
def message (failure : DecodeFailure) : String :=
  (match failure.target with
    | .single .schema => "invalid JSON Schema: "
    | _ => "invalid form definition: ") ++ failure.summary

end DecodeFailure

/-- The value that was read, or the failure to read the target. -/
def Decoded.toExcept (target : Target) (source : Source) : Decoded α → Except DecodeFailure α
  | .ok value => .ok value
  | .failed issues => .error ⟨target, source, issues⟩

end Formwork
