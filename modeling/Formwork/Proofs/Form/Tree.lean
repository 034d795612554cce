/-
This file holds the theory of forms as trees of lists of siblings.

A field holds up to three lists of fields: its children and the two lists of its
gate. What is said of every field of a form mostly looks at a field together with
its siblings, so the unit here is the list of siblings, and the lists at or below a
list are reached from it by going into one part of one field at a time.
-/

import Formwork.Form.Basic

namespace Formwork

namespace Field

/-! ### The parts of a field -/

@[simp]
theorem control_mk (control : Control) (children : List (Option Field))
    (gate : Option (Gate Field)) : (Field.mk control children gate).control = control := rfl

@[simp]
theorem children_mk (control : Control) (children : List (Option Field))
    (gate : Option (Gate Field)) : (Field.mk control children gate).children = children := rfl

@[simp]
theorem gate_mk (control : Control) (children : List (Option Field))
    (gate : Option (Gate Field)) : (Field.mk control children gate).gate = gate := rfl

/-- The lists of fields that a gate holds. -/
def gateParts : Option (Gate Field) → List (List (Option Field))
  | some gate => [gate.consequent, gate.alternative]
  | none => []

/-- The lists of fields that a field holds: its children and the lists of its gate. -/
def parts (field : Field) : List (List (Option Field)) := field.children :: gateParts field.gate

/-- What holds of every field whose parts it holds in holds of all fields. -/
theorem induction {motive : Field → Prop}
    (step : ∀ field : Field,
      (∀ part ∈ field.parts, ∀ child, some child ∈ part → motive child) → motive field)
    (field : Field) : motive field :=
  field.rec (motive_2 := fun fields => ∀ child, some child ∈ fields → motive child)
    (motive_3 := fun gate => ∀ part ∈ gateParts gate, ∀ child, some child ∈ part → motive child)
    (motive_4 := fun entry => ∀ child, some child = entry → motive child)
    (motive_5 := fun gate =>
      ∀ part ∈ gateParts (some gate), ∀ child, some child ∈ part → motive child)
    (fun control children gate inChildren inGate => step (.mk control children gate)
      (List.forall_mem_cons.mpr ⟨inChildren, inGate⟩))
    (fun _ none => by cases none)
    (fun _ _ head tail child member => by
      rcases List.mem_cons.mp member with same | member
      · exact head child same
      · exact tail child member)
    (fun _ none => by cases none)
    (fun _ inGate => inGate)
    (fun _ none => by cases none)
    (fun field holds child same => Option.some.inj same ▸ holds)
    (fun _ _ _ _ inConsequent inAlternative => List.forall_mem_cons.mpr
      ⟨inConsequent, List.forall_mem_cons.mpr ⟨inAlternative, fun _ none => by cases none⟩⟩)

/-! ### Lists of siblings -/

/-- The lists of siblings at or below a list of fields. -/
inductive Below (fields : List (Option Field)) : List (Option Field) → Prop where
  | self : Below fields fields
  | part {siblings part : List (Option Field)} {field : Field} :
    Below fields siblings → some field ∈ siblings → part ∈ field.parts → Below fields part

theorem Below.trans {fields siblings siblings' : List (Option Field)}
    (below : Below fields siblings) (below' : Below siblings siblings') :
    Below fields siblings' := by
  induction below' with
  | self => exact below
  | part _ member inside inductionHypothesis => exact inductionHypothesis.part member inside

/-- Below a list are the list itself and what is below the parts of its fields. -/
theorem below_iff {fields siblings : List (Option Field)} :
    Below fields siblings ↔
      siblings = fields ∨
        ∃ field, some field ∈ fields ∧ ∃ part ∈ field.parts, Below part siblings := by
  constructor
  · intro below
    induction below with
    | self => exact Or.inl rfl
    | part _ member inside inductionHypothesis =>
      rename_i part field _
      rcases inductionHypothesis with rfl | ⟨ancestor, above, ancestorPart, holds, deeper⟩
      · exact Or.inr ⟨field, member, part, inside, .self⟩
      · exact Or.inr ⟨ancestor, above, ancestorPart, holds, deeper.part member inside⟩
  · rintro (rfl | ⟨field, member, part, inside, below⟩)
    · exact .self
    · exact (Below.self.part member inside).trans below

variable {holds holds' : List (Option Field) → Prop}

/-- Whether something holds of all lists of siblings at or below a list. -/
def Everywhere (holds : List (Option Field) → Prop) (fields : List (Option Field)) : Prop :=
  ∀ siblings, Below fields siblings → holds siblings

/-- What holds everywhere holds of the list and everywhere in the parts of its fields. -/
theorem everywhere_iff {fields : List (Option Field)} :
    Everywhere holds fields ↔
      holds fields ∧
        ∀ field, some field ∈ fields → ∀ part ∈ field.parts, Everywhere holds part := by
  constructor
  · intro everywhere
    exact ⟨everywhere fields .self, fun field member part inside siblings below =>
      everywhere siblings (below_iff.mpr (Or.inr ⟨field, member, part, inside, below⟩))⟩
  · rintro ⟨here, deeper⟩ siblings below
    rcases below_iff.mp below with rfl | ⟨field, member, part, inside, below⟩
    · exact here
    · exact deeper field member part inside siblings below

theorem Everywhere.mono {fields : List (Option Field)}
    (everywhere : Everywhere holds fields)
    (implies : ∀ siblings, holds siblings → holds' siblings) : Everywhere holds' fields :=
  fun siblings below => implies siblings (everywhere siblings below)

end Field

namespace Form

/-- The lists of siblings of a form, at any depth. -/
def SiblingList (form : Form) (siblings : List (Option Field)) : Prop :=
  Field.Below form.fields siblings

/-- The fields of a form, at any depth. -/
def Has (form : Form) (field : Field) : Prop :=
  ∃ siblings, form.SiblingList siblings ∧ some field ∈ siblings

/-- What holds of a field exactly if something holds of the field by itself and it holds of the
fields in its parts, holds of the fields of a form exactly if all fields at any depth have it by
themselves. -/
theorem forall_fields_iff {holds here : Field → Prop}
    (step : ∀ field, holds field ↔
      here field ∧ ∀ part ∈ field.parts, ∀ child, some child ∈ part → holds child)
    (form : Form) :
    (∀ field, some field ∈ form.fields → holds field) ↔ ∀ field, form.Has field → here field := by
  constructor
  · rintro each field ⟨siblings, below, member⟩
    suffices all : ∀ field, some field ∈ siblings → holds field from
      ((step field).mp (all field member)).1
    clear member
    induction below with
    | self => exact each
    | part _ member inside inductionHypothesis =>
      exact ((step _).mp (inductionHypothesis _ member)).2 _ inside
  · intro has
    have everywhere : Field.Everywhere (fun siblings => ∀ field, some field ∈ siblings →
        here field) form.fields :=
      fun siblings below field member => has field ⟨siblings, below, member⟩
    -- A field with all that is below it, as an induction needs them.
    have whole : ∀ field : Field, here field → (∀ part ∈ field.parts,
        Field.Everywhere (fun siblings => ∀ field, some field ∈ siblings → here field) part) →
        holds field := by
      intro field
      induction field using Field.induction with
      | step field inductionHypothesis =>
        intro itself deeper
        refine (step field).mpr ⟨itself, fun part inside child member => ?_⟩
        obtain ⟨children, below⟩ := Field.everywhere_iff.mp (deeper part inside)
        exact inductionHypothesis part inside child member (children child member)
          (below child member)
    obtain ⟨children, below⟩ := Field.everywhere_iff.mp everywhere
    exact fun field member => whole field (children field member) (below field member)

end Form

end Formwork
