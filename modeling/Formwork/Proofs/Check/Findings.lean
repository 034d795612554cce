/-
This file says what a complaint about a form can be.

Every fault of a field is reported by one check alone, so the fault of a complaint names
the check that failed. A complaint is therefore about the form itself, or about one entry
of one list of siblings that fails the check of its fault.
-/

import Formwork.Proofs.Check.Address

namespace Formwork

/-! ### The check of a fault -/

/-- The check that reports a fault; none for the faults of a whole form. -/
def Fault.check? : Fault → Option FieldCheck
  | .noSchema | .noForm | .noFields | .unknownMethod _ => none
  | .noField => some .presence
  | .malformedName _ => some .pattern
  | .reservedName _ => some .reserved
  | .duplicateName _ => some .duplicate
  | .unknownKind _ => some .kind
  | .optionsMissing _ | .optionsForbidden _ | .duplicateOption _ _ => some .options
  | .negativeCount _ | .crossedLengths _ _ | .crossedRange _ _ | .crossedItems _ _
  | .stepNotPositive _ => some .bounds
  | .inapplicableRules _ _ => some .applicability
  | .strayChildren _ => some .children
  | .noCondition | .ownCondition _ | .unknownCondition _ => some .condition

section Inversion

variable {fault : Fault}

theorem check?_of_optionsFault? {kind : Kind} {texts : List String}
    (found : optionsFault? kind texts = some fault) : fault.check? = some .options := by
  unfold optionsFault? at found
  split at found
  · cases found
    rfl
  split at found
  · cases found
    rfl
  split at found
  · obtain ⟨_, _, rfl⟩ := Option.map_eq_some_iff.mp found
    rfl
  · cases found

theorem check?_of_countFault? {rule : CountRule} {count : Option Scalar}
    (found : Bounds.countFault? rule count = some fault) : fault.check? = some .bounds := by
  unfold Bounds.countFault? at found
  split at found
  · split at found
    · cases found
      rfl
    · cases found
  · cases found

theorem check?_of_crossedFault? {crossed : Scalar → Scalar → Fault} {low high : Option Scalar}
    (reported : ∀ low high, (crossed low high).check? = some .bounds)
    (found : Bounds.crossedFault? crossed low high = some fault) :
    fault.check? = some .bounds := by
  unfold Bounds.crossedFault? at found
  split at found
  · split at found
    · cases found
      exact reported _ _
    · cases found
  · cases found

theorem check?_of_stepFault? {step : Option Scalar}
    (found : Bounds.stepFault? step = some fault) : fault.check? = some .bounds := by
  unfold Bounds.stepFault? at found
  split at found
  · split at found
    · cases found
      rfl
    · cases found
  · cases found

theorem orElse_eq_some {first second : Option Fault} (found : (first <|> second) = some fault) :
    first = some fault ∨ second = some fault := by
  cases first with
  | none => exact Or.inr found
  | some other => exact Or.inl found

theorem check?_of_ownFault? {bounds : Bounds} (found : bounds.ownFault? = some fault) :
    fault.check? = some .bounds := by
  unfold Bounds.ownFault? at found
  rcases orElse_eq_some found with minLength | found
  · exact check?_of_countFault? minLength
  rcases orElse_eq_some found with maxLength | found
  · exact check?_of_countFault? maxLength
  rcases orElse_eq_some found with lengths | found
  · exact check?_of_crossedFault? (fun _ _ => rfl) lengths
  rcases orElse_eq_some found with range | found
  · exact check?_of_crossedFault? (fun _ _ => rfl) range
  rcases orElse_eq_some found with minItems | found
  · exact check?_of_countFault? minItems
  rcases orElse_eq_some found with maxItems | found
  · exact check?_of_countFault? maxItems
  rcases orElse_eq_some found with items | step
  · exact check?_of_crossedFault? (fun _ _ => rfl) items
  · exact check?_of_stepFault? step

/-- A check reports no other faults than its own. -/
theorem FieldCheck.check?_of_faultOf? {before : List (Option Field)} {field : Field}
    {check : FieldCheck} (found : check.faultOf? before field = some fault) :
    fault.check? = some check := by
  cases check with
  | presence => cases found
  | options =>
    obtain ⟨kind, _, found⟩ := Option.bind_eq_some_iff.mp found
    exact check?_of_optionsFault? found
  | bounds =>
    obtain ⟨validation, _, found⟩ := Option.bind_eq_some_iff.mp found
    exact check?_of_ownFault? found
  | applicability =>
    obtain ⟨validation, _, found⟩ := Option.bind_eq_some_iff.mp found
    obtain ⟨kind, _, found⟩ := Option.bind_eq_some_iff.mp found
    obtain ⟨group, _, rfl⟩ := Option.map_eq_some_iff.mp found
    rfl
  | children =>
    obtain ⟨kind, _, found⟩ := Option.bind_eq_some_iff.mp found
    split at found
    · cases found
    · cases found
      rfl
  | condition =>
    obtain ⟨gate, _, found⟩ := Option.bind_eq_some_iff.mp found
    split at found
    · cases found
      rfl
    split at found
    · cases found
      rfl
    split at found
    · cases found
    · cases found
      rfl
  | _ =>
    simp only [faultOf?] at found
    split at found
    · cases found <;> rfl
    · cases found <;> rfl

end Inversion

/-! ### The place of a fault -/

/-- The entry that a trail leads to stands in a list of siblings, behind the entries before it. -/
theorem Field.exists_siblings_of_follow? {fields siblings : List (Option Field)}
    (below : Below fields siblings) {index : Nat} {entry : Option Field}
    (found : siblings[index]? = some entry) {trail : List Segment}
    {before : List (Option Field)} {last : Option Field}
    (leads : follow? (siblings.take index) entry trail = some (before, last)) :
    ∃ siblings index, Below fields siblings ∧ siblings[index]? = some last ∧
      siblings.take index = before := by
  induction trail generalizing siblings index entry with
  | nil =>
    obtain ⟨rfl, rfl⟩ := Prod.mk.inj (Option.some.inj leads)
    exact ⟨siblings, index, below, found, rfl⟩
  | cons segment rest inductionHypothesis =>
    obtain ⟨field, rfl, follows⟩ := Option.bind_eq_some_iff.mp leads
    obtain ⟨next, deeper, follows⟩ := Option.bind_eq_some_iff.mp follows
    have inside := inside_mem_parts (List.mem_of_getElem? deeper)
    exact inductionHypothesis (below.part (List.mem_of_getElem? found) inside) deeper follows

namespace Form

variable {form : Form}

theorem exists_siblings_of_follow? {trail : List Segment} {before : List (Option Field)}
    {entry : Option Field} (leads : form.follow? trail = some (before, entry)) :
    ∃ siblings index, form.SiblingList siblings ∧ siblings[index]? = some entry ∧
      siblings.take index = before := by
  obtain ⟨position, rest, rfl⟩ := head?_of_follow? leads
  obtain ⟨first, found, leads⟩ := Option.bind_eq_some_iff.mp leads
  exact Field.exists_siblings_of_follow? .self found leads

/-- A fault at one entry of one list of siblings: the trail leads to the entry, and the entry fails
a check behind the siblings before it. -/
structure FailsAt (form : Form) (trail : List Segment) (siblings : List (Option Field))
    (index : Nat) (entry : Option Field) (fault : Fault) : Prop where
  below : form.SiblingList siblings
  found : siblings[index]? = some entry
  leads : form.follow? trail = some (siblings.take index, entry)
  fails : ∃ check : FieldCheck, check.fault? (siblings.take index) entry = some fault

/-- A complaint is about a form without fields, about its method, or about one entry. -/
theorem complaint_cases {complaint : Complaint}
    (rejected : complaint? (some form) = some complaint) :
    (form.fields = [] ∧ complaint.fault = .noFields) ∨
      (∃ method ∈ form.method, (method ≠ "" ∧ upperCase method ∉ submitMethods) ∧
        complaint.fault = .unknownMethod method) ∨
      ∃ trail siblings index entry, complaint.path = pathOf trail ∧
        form.FailsAt trail siblings index entry complaint.fault := by
  obtain ⟨earlier, check, later, split, _, failed, path⟩ :=
    complaint?_some_eq_some_iff.mp rejected
  cases check with
  | fields =>
    rw [FormCheck.fault?] at failed
    split at failed
    · rename_i empty
      exact Or.inl ⟨List.isEmpty_iff.mp empty, (Option.some.inj failed).symm⟩
    · cases failed
  | method =>
    obtain ⟨method, held, failed⟩ := Option.bind_eq_some_iff.mp failed
    split at failed
    · cases failed
    · rename_i unusable
      simp only [Bool.or_eq_true, String.isEmpty_iff, List.contains_iff_mem, not_or] at unusable
      exact Or.inr (Or.inl ⟨method, held, unusable, (Option.some.inj failed).symm⟩)
  | field place check =>
    have member : .field place check ∈ form.checks :=
      split ▸ List.mem_append_right _ List.mem_cons_self
    obtain ⟨leads, _⟩ := field_mem_checks_iff.mp member
    obtain ⟨siblings, index, below, found, before⟩ := exists_siblings_of_follow? leads
    refine Or.inr (Or.inr ⟨place.trail, siblings, index, place.entry, path, below, found, ?_,
      check, ?_⟩)
    · rw [before, leads]
    · rw [before]
      exact failed

/-- Only a form without fields is complained about for that. -/
theorem complaint?_of_fields_eq_nil (empty : form.fields = []) :
    complaint? (some form) = some ⟨"", .noFields⟩ := by
  refine complaint?_some_eq_some_iff.mpr ⟨[], .fields, _, rfl, ?_, ?_, rfl⟩
  · exact fun _ none => by cases none
  · rw [FormCheck.fault?, empty]
    rfl

end Form

end Formwork
