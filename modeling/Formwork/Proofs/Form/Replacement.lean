/-
This file says what it means to replace one list of siblings of a form by another one and to
leave all else as it is.

A replacement works at one place: the list of fields itself, or a list inside of one of its
fields, at any depth. Of the fields on the way only one list of fields changes, so each keeps
its control and its condition.
-/

import Formwork.Proofs.Form.Tree

namespace Formwork

namespace Field

/-- Whether a field becomes another one when one of its lists of fields is exchanged. -/
inductive Exchanges (part part' : List (Option Field)) : Field → Field → Prop where
  | children {control : Control} {gate : Option (Gate Field)} :
    Exchanges part part' (.mk control part gate) (.mk control part' gate)
  | consequent {control : Control} {children : List (Option Field)} {condition : String}
    {trigger : Scalar} {alternative : List (Option Field)} :
    Exchanges part part' (.mk control children (some ⟨condition, trigger, part, alternative⟩))
      (.mk control children (some ⟨condition, trigger, part', alternative⟩))
  | alternative {control : Control} {children : List (Option Field)} {condition : String}
    {trigger : Scalar} {consequent : List (Option Field)} :
    Exchanges part part' (.mk control children (some ⟨condition, trigger, consequent, part⟩))
      (.mk control children (some ⟨condition, trigger, consequent, part'⟩))

/-- Whether a list of fields becomes another one when a list of siblings, at one place at or below
it, is replaced. -/
inductive Replaces (siblings siblings' : List (Option Field)) :
    List (Option Field) → List (Option Field) → Prop where
  | here : Replaces siblings siblings' siblings siblings'
  | inside {before after part part' : List (Option Field)} {field field' : Field} :
    Exchanges part part' field field' → Replaces siblings siblings' part part' →
      Replaces siblings siblings' (before ++ some field :: after) (before ++ some field' :: after)

/-! ### Exchanged parts -/

section Exchanged

variable {part part' : List (Option Field)} {field field' : Field}

theorem Exchanges.symm (exchanges : Exchanges part part' field field') :
    Exchanges part' part field' field := by
  cases exchanges with
  | children => exact .children
  | consequent => exact .consequent
  | alternative => exact .alternative

/-- Every list of a field can be exchanged. -/
theorem exists_exchanges (part' : List (Option Field)) (inside : part ∈ field.parts) :
    ∃ field', Exchanges part part' field field' := by
  obtain ⟨control, children, gate⟩ := field
  cases gate with
  | none =>
    obtain rfl := List.mem_singleton.mp inside
    exact ⟨_, .children⟩
  | some gate =>
    obtain ⟨condition, trigger, consequent, alternative⟩ := gate
    simp only [parts, gateParts, children_mk, gate_mk, List.mem_cons, List.not_mem_nil,
      or_false] at inside
    rcases inside with rfl | rfl | rfl
    · exact ⟨_, .children⟩
    · exact ⟨_, .consequent⟩
    · exact ⟨_, .alternative⟩

theorem Exchanges.mem_parts (exchanges : Exchanges part part' field field') :
    part ∈ field.parts := by
  cases exchanges <;> simp [parts, gateParts]

/-- The other lists of the field are as before. -/
theorem Exchanges.eq_or_mem_parts (exchanges : Exchanges part part' field field')
    {other : List (Option Field)} (inside : other ∈ field'.parts) :
    other = part' ∨ other ∈ field.parts := by
  cases exchanges <;> simp only [parts, gateParts, List.mem_cons, List.not_mem_nil, or_false,
    children_mk, gate_mk] at inside ⊢ <;> grind

theorem Exchanges.control_eq (exchanges : Exchanges part part' field field') :
    field'.control = field.control := by
  cases exchanges <;> rfl

theorem Exchanges.condition_eq (exchanges : Exchanges part part' field field') :
    field'.gate.map (·.condition) = field.gate.map (·.condition) := by
  cases exchanges <;> rfl

theorem Exchanges.children_eq (exchanges : Exchanges part part' field field') :
    field'.children = field.children ∨ (field.children = part ∧ field'.children = part') := by
  cases exchanges with
  | children => exact Or.inr ⟨rfl, rfl⟩
  | consequent => exact Or.inl rfl
  | alternative => exact Or.inl rfl

end Exchanged

/-! ### Replaced lists -/

section Replaced

variable {siblings siblings' fields fields' : List (Option Field)}

theorem Replaces.symm (replaces : Replaces siblings siblings' fields fields') :
    Replaces siblings' siblings fields' fields := by
  induction replaces with
  | here => exact .here
  | inside exchanges _ inductionHypothesis => exact .inside exchanges.symm inductionHypothesis

theorem Replaces.reaches (replaces : Replaces siblings siblings' fields fields') :
    Below fields siblings := by
  induction replaces with
  | here => exact .self
  | inside exchanges _ inductionHypothesis =>
    exact (Below.self.part (List.mem_append_right _ List.mem_cons_self)
      exchanges.mem_parts).trans inductionHypothesis

/-- What is replaced in a list that is replaced itself is replaced in the whole. -/
theorem Replaces.within {part part' : List (Option Field)}
    (replaces : Replaces siblings siblings' fields fields')
    (deeper : Replaces part part' siblings siblings') : Replaces part part' fields fields' := by
  induction replaces with
  | here => exact deeper
  | inside exchanges _ inductionHypothesis => exact .inside exchanges inductionHypothesis

/-- Every list of siblings can be replaced by any other list. -/
theorem exists_replaces (below : Below fields siblings) (siblings' : List (Option Field)) :
    ∃ fields', Replaces siblings siblings' fields fields' := by
  induction below generalizing siblings' with
  | self => exact ⟨siblings', .here⟩
  | part _ member inside inductionHypothesis =>
    obtain ⟨before, after, rfl⟩ := List.append_of_mem member
    obtain ⟨field', exchanges⟩ := exists_exchanges siblings' inside
    obtain ⟨fields', replaces⟩ := inductionHypothesis (before ++ some field' :: after)
    exact ⟨fields', replaces.within (.inside exchanges .here)⟩

/-- Only a list that is replaced itself can become empty. -/
theorem Replaces.eq_nil (replaces : Replaces siblings siblings' fields fields')
    (emptied : siblings = [] → siblings' = []) (empty : fields = []) : fields' = [] := by
  cases replaces with
  | here => exact emptied empty
  | inside _ _ => simp at empty

end Replaced

end Field

/-- Whether a form becomes another one when a list of siblings, at one place in it, is replaced. -/
structure Form.Replaces (siblings siblings' : List (Option Field)) (form form' : Form) : Prop where
  others : form' = { form with fields := form'.fields }
  fields : Field.Replaces siblings siblings' form.fields form'.fields

/-- The lists that can be replaced in a form are its lists of siblings. -/
theorem Form.siblingList_iff_replaces {form : Form} {siblings siblings' : List (Option Field)} :
    form.SiblingList siblings ↔ ∃ form', form.Replaces siblings siblings' form' := by
  constructor
  · intro below
    obtain ⟨fields', replaces⟩ := Field.exists_replaces below siblings'
    exact ⟨{ form with fields := fields' }, rfl, replaces⟩
  · rintro ⟨form', replaces⟩
    exact replaces.fields.reaches

end Formwork
