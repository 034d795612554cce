/-
This file checks whole forms by their outlines. The fields of a list are visited
in order, each with the scope of names that its earlier siblings have registered.
A field registers its own name as soon as the name itself is accepted, and the
children of a field and both branches of a gate each begin with an empty scope.
The walk stops at the first fault.
-/

import Formwork.Check.Outline
import Formwork.Check.Violation
import Formwork.Text.UpperCase

namespace Formwork

/-- The names that fields of one list have registered, latest first. -/
abbrev Scope := List String

/-- The fault of a name in its scope: the fault of the name itself, or that it is taken. -/
def Scope.entryFault? (scope : Scope) (name : String) : Option Fault :=
  nameFault? name <|>
  if !name.isEmpty && scope.contains name then some (.duplicateName name) else none

/-- The scope with a name registered; the empty name is not registered. -/
def Scope.register (scope : Scope) (name : String) : Scope :=
  if name.isEmpty then scope else name :: scope

/-- The fault of a condition that a field with the given name states on a sibling. A condition
that is no text is empty or names no field. -/
def Scope.conditionFault? (scope : Scope) (owner : String) : Scalar → Option Fault
  | .text condition =>
    if condition.isEmpty then some .noCondition
    else if !owner.isEmpty && condition == owner then some (.ownCondition owner)
    else if !scope.contains condition then some (.unknownCondition condition)
    else none
  | condition =>
    if condition.toJson.isTruthy then some (.unknownCondition condition.toJson.shown)
    else some .noCondition

namespace Outline

mutual

/-- Checks a field and everything below it. The result is the scope afterwards, whatever the
outcome, and the first violation. -/
def check (scope : Scope) : Outline → Scope × Option Violation
  | .mk facts children gate =>
    match scope.entryFault? facts.name with
    | some fault => (scope, some ⟨[], fault⟩)
    | none =>
      let scope := scope.register facts.name
      (scope,
        (facts.fault? !children.isEmpty).map (⟨[], ·⟩) <|>
        checkList .child [] 0 children <|>
        (match gate with
          | some gate => checkGate facts.name scope gate
          | none => none))
termination_by structural field => field

/-- Checks the fields of a list from a position on. -/
def checkList (segment : Nat → Segment) (scope : Scope) (position : Nat) :
    List (Option Outline) → Option Violation
  | [] => none
  | none :: _ => some ⟨[segment position], .noField⟩
  | some field :: rest =>
    match check scope field with
    | (_, some violation) => some (violation.under (segment position))
    | (scope, none) => checkList segment scope (position + 1) rest
termination_by structural fields => fields

/-- Checks a gate in the scope of the field that carries it, then its two branches. -/
def checkGate (owner : String) (scope : Scope) : GateOutline Outline → Option Violation
  | ⟨condition, consequent, alternative⟩ =>
    (scope.conditionFault? owner condition).map (⟨[], ·⟩) <|>
    checkList .consequent [] 0 consequent <|>
    checkList .alternative [] 0 alternative
termination_by structural gate => gate

end

end Outline

namespace Field

/-- Checks a field and everything below it. -/
def check (scope : Scope) (field : Field) : Scope × Option Violation :=
  field.outline.check scope

/-- Checks a field that may be missing. -/
def check? (scope : Scope) : Option Field → Scope × Option Violation
  | some field => field.check scope
  | none => (scope, some ⟨[], .noField⟩)

/-- Checks a gate in the scope of the field that carries it. -/
def checkGate (owner : String) (scope : Scope) (gate : Gate Field) : Option Violation :=
  Outline.checkGate owner scope (gateOutline gate)

end Field

namespace FormOutline

/-- The fault of a method by which a form cannot be submitted. Letter case does not count, and
an empty method counts as absent. -/
def methodFault? (method : String) : Option Fault :=
  if !method.isEmpty && !submitMethods.contains (upperCase method) then
    some (.unknownMethod method)
  else none

/-- The first violation of a form. -/
def violation? (form : FormOutline) : Option Violation :=
  if form.fields.isEmpty then some ⟨[], .noFields⟩
  else
    (methodFault? form.method).map (⟨[], ·⟩) <|> Outline.checkList .child [] 0 form.fields

/-- The first complaint about a form that may be missing. -/
def complaint? : Option FormOutline → Option Complaint
  | some form => form.violation?.map Violation.inForm
  | none => some ⟨"", .noForm⟩

end FormOutline

namespace Form

/-- The first violation of a form. -/
def violation? (form : Form) : Option Violation := form.outline.violation?

/-- The first complaint about a form that may be missing. -/
def complaint? (form : Option Form) : Option Complaint :=
  FormOutline.complaint? (form.map outline)

end Form

/-- The outcome of a check as a JSON value. -/
def reportJson : Option Complaint → Json
  | none => .obj [("is_valid", .bool true)]
  | some complaint =>
    .obj ([("is_valid", .bool false), ("error_type", .str complaint.categoryName)] ++
      (if complaint.path.isEmpty then [] else [("path", .str complaint.path)]) ++
      [("message", .str complaint.message)])

end Formwork
