/-
This file says which differences of forms the checks do not see.

Forms are compared field by field. Two forms of one shape are checked alike if they have the
same method and their fields have the same names, kinds, option values, bounds and conditions;
all else may differ, and a block of rules may be there for one of two fields only, as long as
it holds no bound. Such forms have the same outline. The walk looks at nothing but the
outline, so it ends with the same complaint or with none for both.
-/

import Mathlib.Data.List.Forall2
import Formwork.Proofs.Check.Outline

namespace Formwork

/-! ### What is compared -/

/-- What a rule of a control is set to, if it is set. -/
def Control.rule? {Bound : Type} (control : Control) (rule : Validation → Option Bound) :
    Option Bound :=
  control.validation.bind rule

/-- Whether two controls have the same name, kind, option values and bounds. -/
structure Control.CheckedAlike (control control' : Control) : Prop where
  name : control.name = control'.name
  kind : control.kind = control'.kind
  values : control.options.map (·.value) = control'.options.map (·.value)
  minLength : control.rule? (·.minLength) = control'.rule? (·.minLength)
  maxLength : control.rule? (·.maxLength) = control'.rule? (·.maxLength)
  minimum : control.rule? (·.minimum) = control'.rule? (·.minimum)
  maximum : control.rule? (·.maximum) = control'.rule? (·.maximum)
  step : control.rule? (·.step) = control'.rule? (·.step)
  minItems : control.rule? (·.minItems) = control'.rule? (·.minItems)
  maxItems : control.rule? (·.maxItems) = control'.rule? (·.maxItems)

/-- Whether two gates have the same condition and branches that are alike entry by entry. -/
inductive Gate.CheckedAlike {Node : Type} (alike : Node → Node → Prop) :
    Gate Node → Gate Node → Prop where
  | mk {condition : String} {trigger trigger' : Scalar}
    {consequent consequent' alternative alternative' : List (Option Node)} :
    List.Forall₂ (Option.Rel alike) consequent consequent' →
      List.Forall₂ (Option.Rel alike) alternative alternative' →
      CheckedAlike alike ⟨condition, trigger, consequent, alternative⟩
        ⟨condition, trigger', consequent', alternative'⟩

/-- Whether two fields have controls that are checked alike, and so do the fields below them, which
are there in both at the same places. -/
inductive Field.CheckedAlike : Field → Field → Prop where
  | mk {control control' : Control} {children children' : List (Option Field)}
    {gate gate' : Option (Gate Field)} :
    control.CheckedAlike control' →
      List.Forall₂ (Option.Rel CheckedAlike) children children' →
      Option.Rel (Gate.CheckedAlike CheckedAlike) gate gate' →
      CheckedAlike (.mk control children gate) (.mk control' children' gate')

/-- Whether two forms have the same method and fields that are checked alike. -/
structure Form.CheckedAlike (form form' : Form) : Prop where
  method : form.method = form'.method
  fields : List.Forall₂ (Option.Rel Field.CheckedAlike) form.fields form'.fields

/-! ### Outlines -/

/-- The bounds of a control are what its rules are set to. -/
theorem Control.bounds_facts (control : Control) :
    control.facts.bounds =
      { minLength := (control.rule? (·.minLength)).map .int
        maxLength := (control.rule? (·.maxLength)).map .int
        minimum := (control.rule? (·.minimum)).map .float
        maximum := (control.rule? (·.maximum)).map .float
        step := (control.rule? (·.step)).map .float
        minItems := (control.rule? (·.minItems)).map .int
        maxItems := (control.rule? (·.maxItems)).map .int } := by
  simp only [facts, rule?]
  cases control.validation <;> rfl

theorem Control.optionTexts_eq (control : Control) :
    control.optionTexts = (control.options.map (·.value)).map Scalar.display := by
  rw [List.map_map]
  rfl

theorem Control.CheckedAlike.facts_eq {control control' : Control}
    (alike : control.CheckedAlike control') : control.facts = control'.facts := by
  have texts : control.optionTexts = control'.optionTexts := by
    rw [optionTexts_eq, optionTexts_eq, alike.values]
  have bounds : control.facts.bounds = control'.facts.bounds := by
    rw [bounds_facts, bounds_facts, alike.minLength, alike.maxLength, alike.minimum,
      alike.maximum, alike.step, alike.minItems, alike.maxItems]
  have opened : ∀ control : Control, control.facts =
      ⟨control.name, control.kind, control.optionTexts, control.facts.bounds⟩ := fun _ => rfl
  rw [opened control, opened control', alike.name, alike.kind, texts, bounds]

namespace Field

/-- Lists have the same outlines if the fields of the first one have the outlines of all fields
that are alike. -/
theorem outlines_eq_of_forall₂ {fields fields' : List (Option Field)}
    (same : ∀ field, some field ∈ fields → ∀ field', field.CheckedAlike field' →
      field.outline = field'.outline)
    (alike : List.Forall₂ (Option.Rel CheckedAlike) fields fields') :
    outlines fields = outlines fields' := by
  induction alike with
  | nil => rfl
  | cons head _ inductionHypothesis =>
    have rest := inductionHypothesis fun field member => same field (List.mem_cons_of_mem _ member)
    cases head with
    | none => rw [outlines, outlines, rest]
    | some alike => rw [outlines, outlines, rest, same _ List.mem_cons_self _ alike]

theorem CheckedAlike.outline_eq {field field' : Field} (alike : field.CheckedAlike field') :
    field.outline = field'.outline := by
  induction field using Field.induction generalizing field' with
  | step field inductionHypothesis =>
    have part : ∀ part ∈ field.parts, ∀ part',
        List.Forall₂ (Option.Rel CheckedAlike) part part' → outlines part = outlines part' :=
      fun part inside _ => outlines_eq_of_forall₂ fun child member _ =>
        inductionHypothesis part inside child member
    cases alike with
    | @mk control _ children _ _ _ controls childrenAlike gates =>
      have inGate := fun list inside => part list (List.mem_cons_of_mem _ inside)
      rw [Field.outline_eq, Field.outline_eq, control_mk, control_mk, children_mk, children_mk,
        gate_mk, gate_mk, controls.facts_eq, part children List.mem_cons_self _ childrenAlike]
      cases gates with
      | none => rfl
      | some gates =>
        cases gates with
        | @mk _ _ _ consequent _ alternative _ consequents alternatives =>
          have first := inGate consequent List.mem_cons_self _ consequents
          have second := inGate alternative (List.mem_cons_of_mem _ List.mem_cons_self) _
            alternatives
          rw [Option.map_some, Option.map_some, gateOutline_eq, gateOutline_eq, first, second]

end Field

/-! ### Complaints -/

namespace Form

variable {form form' : Form}

theorem CheckedAlike.outline_eq (alike : form.CheckedAlike form') :
    form.outline = form'.outline := by
  have fields : Field.outlines form.fields = Field.outlines form'.fields :=
    Field.outlines_eq_of_forall₂ (fun _ _ _ => Field.CheckedAlike.outline_eq) alike.fields
  rw [outline, outline, alike.method, fields]

/-- Forms that are checked alike have the same complaint, with its path and its message, or both
have none. -/
theorem complaint?_eq_of_checkedAlike (alike : form.CheckedAlike form') :
    complaint? (some form) = complaint? (some form') := by
  rw [complaint?, complaint?, Option.map_some, Option.map_some, alike.outline_eq]

/-- A form in which two options of a nested choice have the same text. -/
def plainForm : Form where
  fields :=
    [some (.mk { name := "gift", kind := "checkbox" } [] none),
      some (.mk { name := "order", kind := "object" } [] (some
        { condition := "gift"
          consequent :=
            [some (.mk
              { name := "size", kind := "select"
                options := [⟨"one", .int 1⟩, ⟨"uno", .float (.ofInt 1)⟩] } [] none)] }))]

/-- The form with all else filled in that the checks do not look at. -/
def furnishedForm : Form where
  title := some "Order"
  description := some "What to send"
  action := some "/order"
  fields :=
    [some (.mk
      { name := "gift", kind := "checkbox", label := some "As a gift?", value := .bool true
        validation := some { required := true, pattern := some "[", patternError := some "?" } }
      [] none),
      some (.mk { name := "order", kind := "object", readOnly := true, validation := some {} } []
        (some
          { condition := "gift"
            trigger := .bool true
            consequent :=
              [some (.mk
                { name := "size", kind := "select", default := .arr [.null], deprecated := true
                  placeholder := some "Choose", helpText := some "Any", description := some "Size"
                  options := [⟨"same", .int 1⟩, ⟨"same", .float (.ofInt 1)⟩] } [] none)] }))]

theorem complaint?_furnishedForm :
    plainForm.CheckedAlike furnishedForm ∧
      complaint? (some furnishedForm) =
        some ⟨"fields[1].conditional.then[0]", .duplicateOption "1" 1⟩ := by
  have alike : plainForm.CheckedAlike furnishedForm :=
    ⟨rfl, .cons (.some (.mk (by constructor <;> rfl) .nil .none))
      (.cons (.some (.mk (by constructor <;> rfl) .nil
        (.some (.mk (.cons (.some (.mk (by constructor <;> rfl) .nil .none)) .nil) .nil)))) .nil)⟩
  refine ⟨alike, ?_⟩
  rw [← complaint?_eq_of_checkedAlike alike]
  decide +kernel

end Form

end Formwork
