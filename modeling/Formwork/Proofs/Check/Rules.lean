/-
This file says which rules the fields of an accepted form have.

The check refuses a step that is zero or below and a lower bound that is above its upper
bound. What is wanted is a step above zero and a lower bound at most its upper bound.
Between numbers the two are the same, and what is not a number is neither refused nor
wanted: it is not below, above or equal to anything.
-/

import Formwork.Pipeline
import Formwork.Proofs.Check.WellFormed

namespace Formwork

/-! ### The order of doubles -/

namespace Binary64

/-- Whether a double is above zero. -/
def Positive (number : Binary64) : Prop := (zero false).less number = true

/-- Whether a double is below another one or of the same value. -/
def AtMost (low high : Binary64) : Prop :=
  low.less high = true ∨ low.sameNumber high = true

theorem Positive.ne_nan {number : Binary64} (positive : number.Positive) : number ≠ .nan := by
  rintro rfl
  cases positive

/-- Doubles that are numbers are ordered linearly, with both zeros as one number. -/
theorem atMost_iff {low high : Binary64} :
    low.AtMost high ↔ (low ≠ .nan ∧ high ≠ .nan) ∧ high.less low = false := by
  unfold AtMost
  cases low with
  | nan => simp [less, sameNumber]
  | infinite negative =>
    cases high with
    | nan => simp [less, sameNumber]
    | infinite negative' => cases negative <;> cases negative' <;> simp [less, sameNumber]
    | finite _ _ _ => cases negative <;> simp [less, sameNumber]
  | finite negative quanta _ =>
    cases high with
    | nan => simp [less, sameNumber]
    | infinite negative' => cases negative' <;> simp [less, sameNumber]
    | finite negative' quanta' _ =>
      simp only [less, sameNumber, decide_eq_true_eq, beq_iff_eq, ne_eq, reduceCtorEq,
        not_false_eq_true, and_self, true_and, decide_eq_false_iff_not, Int.not_lt]
      exact Int.le_iff_lt_or_eq.symm

end Binary64

/-! ### Usable rules -/

namespace Validation

/-- Rules on counts that can be met: no count is negative and no lower one above its upper one. -/
structure CountsMeetable (validation : Validation) : Prop where
  minLength : ∀ count ∈ validation.minLength, 0 ≤ count
  maxLength : ∀ count ∈ validation.maxLength, 0 ≤ count
  lengths : ∀ low ∈ validation.minLength, ∀ high ∈ validation.maxLength, low ≤ high
  minItems : ∀ count ∈ validation.minItems, 0 ≤ count
  maxItems : ∀ count ∈ validation.maxItems, 0 ≤ count
  items : ∀ low ∈ validation.minItems, ∀ high ∈ validation.maxItems, low ≤ high

/-- Rules that a value can be held against: the counts can be met, the step is above zero, and the
lower bound is at most the upper one. -/
structure Usable (validation : Validation) : Prop where
  counts : validation.CountsMeetable
  step : ∀ step ∈ validation.step, step.Positive
  range : ∀ low ∈ validation.minimum, ∀ high ∈ validation.maximum, low.AtMost high

/-- Whether the step is a number, and so are the two bounds of a range. -/
structure Numeric (validation : Validation) : Prop where
  step : ∀ step ∈ validation.step, step ≠ .nan
  range : ∀ low ∈ validation.minimum, ∀ high ∈ validation.maximum, low ≠ .nan ∧ high ≠ .nan

variable {validation : Validation}

theorem Consistent.countsMeetable (consistent : validation.Consistent) :
    validation.CountsMeetable where
  minLength := consistent.minLength
  maxLength := consistent.maxLength
  lengths := consistent.lengths
  minItems := consistent.minItems
  maxItems := consistent.maxItems
  items := consistent.items

/-- Rules that pass the check are usable exactly if their numbers are numbers. -/
theorem Consistent.usable_iff (consistent : validation.Consistent) :
    validation.Usable ↔ validation.Numeric := by
  constructor
  · intro usable
    exact ⟨fun step held => (usable.step step held).ne_nan,
      fun low held high held' => (Binary64.atMost_iff.mp (usable.range low held high held')).1⟩
  · intro numeric
    refine ⟨consistent.countsMeetable, fun step held => ?_, fun low held high held' => ?_⟩
    · exact (consistent.step step held).resolve_left (numeric.step step held)
    · exact Binary64.atMost_iff.mpr
        ⟨numeric.range low held high held', consistent.range low held high held'⟩

end Validation

/-! ### The rules of a form -/

namespace Form

variable {form : Form} {field : Field} {validation : Validation}

/-- The rules of the fields of an accepted form pass their check. -/
theorem consistent_of_accepted (accepted : complaint? (some form) = none) (has : form.Has field)
    (held : field.control.validation = some validation) : validation.Consistent := by
  obtain ⟨siblings, below, member⟩ := has
  obtain ⟨kind, fits⟩ := ((WellFormed.of_accepted accepted).siblings siblings below).fits _ member
  exact fits.consistent validation held

/-- At every depth of an accepted form, the rules on counts can be met, and the rules as a whole are
usable exactly if the step and the bounds of the range are numbers. -/
theorem usable_iff_of_accepted (accepted : complaint? (some form) = none) (has : form.Has field)
    (held : field.control.validation = some validation) :
    validation.CountsMeetable ∧ (validation.Usable ↔ validation.Numeric) :=
  have consistent := consistent_of_accepted accepted has held
  ⟨consistent.countsMeetable, consistent.usable_iff⟩

/-- The rules for a price: a range from zero to one thousand in steps of five. -/
def priceRules : Validation where
  minimum := some (.zero true)
  maximum := some (.ofInt 1000)
  step := some (.ofInt 5)

/-- A form with a price inside of another field. -/
def priceForm : Form where
  fields :=
    [some (.mk { name := "order", kind := "object" }
      [some (.mk { name := "price", kind := "number", validation := some priceRules } [] none)]
      none)]

theorem usable_priceRules : complaint? (some priceForm) = none ∧ priceRules.Usable := by
  have accepted : complaint? (some priceForm) = none := by decide +kernel
  have has : priceForm.Has
      (.mk { name := "price", kind := "number", validation := some priceRules } [] none) :=
    ⟨_, .part .self List.mem_cons_self List.mem_cons_self, List.mem_cons_self⟩
  refine ⟨accepted, (usable_iff_of_accepted accepted has rfl).2.mpr ⟨?_, ?_⟩⟩
  · decide +kernel
  · decide +kernel

/-- A document whose step is given as the text of what is not a number. -/
def nanStepDocument : Json :=
  .obj [("fields", .arr [.obj [("name", .str "price"), ("type", .str "number"),
    ("validation", .obj [("step", .str "nan")])]])]

/-- The form that the document is read as. -/
def nanStepForm : Form where
  fields :=
    [some (.mk { name := "price", kind := "number", validation := some { step := some .nan } }
      [] none)]

/-- A form is read and accepted although the step of its only field is not above zero. -/
theorem accepts_nanStep :
    parse (.value nanStepDocument) = .ok nanStepForm ∧
      complaint? (some nanStepForm) = none ∧
      ∃ field validation, nanStepForm.Has field ∧ field.control.validation = some validation ∧
        ¬ validation.Usable := by
  refine ⟨rfl, by decide +kernel, _, _, ⟨_, .self, List.mem_cons_self⟩, rfl, fun usable => ?_⟩
  exact (usable.step _ rfl).ne_nan rfl

end Form

end Formwork
