/-
This file proves that checks cannot tell a form from its normal form: the two have the
same outline, because an outline holds nothing of a default.
-/

import Formwork.Check.Walk
import Formwork.Proofs.Form.RoundTrip

namespace Formwork

namespace Field

theorem outline_eq (field : Field) :
    field.outline =
      .mk field.control.facts (outlines field.children) (field.gate.map gateOutline) := by
  obtain ⟨control, children, gate⟩ := field
  cases gate <;> rfl

theorem gateOutline_eq (gate : Gate Field) :
    gateOutline gate =
      ⟨.text gate.condition, outlines gate.consequent, outlines gate.alternative⟩ := by
  obtain ⟨condition, trigger, consequent, alternative⟩ := gate
  rfl

theorem outlines_listNormalized_of_forall {fields : List (Option Field)}
    (same : ∀ field, some field ∈ fields → field.normalized.outline = field.outline) :
    outlines (listNormalized fields) = outlines fields := by
  rw [outlines_eq_map, outlines_eq_map, listNormalized_eq_map, List.map_map, List.map_inj_left]
  intro entry member
  cases entry with
  | none => rfl
  | some field => exact congrArg some (same field member)

theorem outline_normalized (field : Field) : field.normalized.outline = field.outline := by
  induction field using Field.induction with
  | step field inductionHypothesis =>
    have parts : ∀ part ∈ field.parts, outlines (listNormalized part) = outlines part :=
      fun part inside => outlines_listNormalized_of_forall (inductionHypothesis part inside)
    obtain ⟨children, inGate⟩ := List.forall_mem_cons.mp parts
    have gate : (field.gate.map gateNormalized).map gateOutline = field.gate.map gateOutline := by
      cases held : field.gate with
      | none => rfl
      | some gate =>
        rw [held] at inGate
        obtain ⟨consequent, others⟩ := List.forall_mem_cons.mp inGate
        have alternative := others _ (List.mem_singleton_self _)
        simp only [Option.map_some, gateOutline_eq, gateNormalized, consequent, alternative]
    have facts : field.control.normalized.facts = field.control.facts := rfl
    rw [outline_eq, outline_eq, normalized_eq, control_mk, children_mk, gate_mk, facts, children,
      gate]

end Field

theorem Form.outline_normalized (form : Form) : form.normalized.outline = form.outline :=
  congrArg (FormOutline.mk _)
    (Field.outlines_listNormalized_of_forall fun field _ => field.outline_normalized)

/-- A form and its normal form have the same complaint, or both have none. -/
theorem Form.complaint?_normalized (form : Form) :
    complaint? (some form.normalized) = complaint? (some form) := by
  unfold complaint?
  rw [Option.map_some, Option.map_some, outline_normalized]

end Formwork
