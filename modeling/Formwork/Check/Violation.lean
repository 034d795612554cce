/-
This file places faults in a form. A trail leads from a form, or from a field, to
a field below it, and is written as a path that messages begin with.
-/

import Formwork.Check.Fault
import Formwork.Json.Members

namespace Formwork

/-- A step to a field inside of a list of fields. -/
inductive Segment where
  | child (position : Nat)
  | consequent (position : Nat)
  | alternative (position : Nat)
  deriving DecidableEq, Repr

/-- The text of a step. -/
def Segment.text : Segment → String
  | .child position => "fields[" ++ Fault.showInt position ++ "]"
  | .consequent position => "conditional.then[" ++ Fault.showInt position ++ "]"
  | .alternative position => "conditional.else[" ++ Fault.showInt position ++ "]"

/-- The path of a trail that begins at a field with a path of its own. -/
def pathBelow (base : String) (trail : List Segment) : String :=
  trail.foldl (fun path segment => path ++ "." ++ segment.text) base

/-- The path of a trail that begins at the form. -/
def pathOf : List Segment → String
  | [] => ""
  | first :: rest => pathBelow first.text rest

/-- A fault with the trail to the field that has it. -/
structure Violation where
  trail : List Segment
  fault : Fault
  deriving DecidableEq

/-- The violation seen from one step further out. -/
def Violation.under (segment : Segment) (violation : Violation) : Violation :=
  { violation with trail := segment :: violation.trail }

/-- A fault under its path, as it is reported. -/
structure Complaint where
  path : String
  fault : Fault
  deriving DecidableEq

namespace Complaint

/-- The message of a complaint: the text of the fault, after its path if there is one. -/
def message (complaint : Complaint) : String :=
  if complaint.path.isEmpty then complaint.fault.text
  else complaint.path ++ ": " ++ complaint.fault.text

/-- The name of the category of a complaint. -/
def categoryName (complaint : Complaint) : String := complaint.fault.category.name

end Complaint

namespace Violation

/-- The complaint about a violation of a form. -/
def inForm (violation : Violation) : Complaint := ⟨pathOf violation.trail, violation.fault⟩

/-- The complaint about a violation of a field with a path. -/
def below (base : String) (violation : Violation) : Complaint :=
  ⟨pathBelow base violation.trail, violation.fault⟩

end Violation

end Formwork
