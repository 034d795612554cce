/-
This file defines outlines: what the checks look at in a form. The outline of a
field holds its facts, its children, and of its gate the condition and the two
branches. Whatever two forms differ in otherwise, checks cannot tell them apart
when their outlines are equal.
-/

import Formwork.Check.Local

namespace Formwork

/-- The outline of a gate. A condition that is no text names no field. -/
structure GateOutline (Node : Type) where
  condition : Scalar
  consequent : List (Option Node) := []
  alternative : List (Option Node) := []

/-- The outline of a field. -/
inductive Outline where
  | mk (facts : Facts) (children : List (Option Outline)) (gate : Option (GateOutline Outline))

/-- The outline of a form. A missing method counts as an empty one. -/
structure FormOutline where
  method : String := ""
  fields : List (Option Outline) := []

namespace Field

mutual

/-- The outline of a field. -/
def outline : Field → Outline
  | .mk control children gate =>
    .mk control.facts (outlines children)
      (match gate with
        | some gate => some (gateOutline gate)
        | none => none)
termination_by structural field => field

/-- The outlines of the fields of a list. -/
def outlines : List (Option Field) → List (Option Outline)
  | [] => []
  | some field :: rest => some (outline field) :: outlines rest
  | none :: rest => none :: outlines rest
termination_by structural fields => fields

/-- The outline of a gate. -/
def gateOutline : Gate Field → GateOutline Outline
  | ⟨condition, _, consequent, alternative⟩ =>
    ⟨.text condition, outlines consequent, outlines alternative⟩
termination_by structural gate => gate

end

theorem outlines_eq_map (fields : List (Option Field)) :
    outlines fields = fields.map (Option.map outline) := by
  induction fields with
  | nil => rfl
  | cons field rest inductionHypothesis => cases field <;> simp [outlines, inductionHypothesis]

end Field

/-- The outline of a form. -/
def Form.outline (form : Form) : FormOutline :=
  ⟨form.method.getD "", Field.outlines form.fields⟩

end Formwork
