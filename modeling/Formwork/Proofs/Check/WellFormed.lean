/-
This file proves that a form passes its check exactly when it is well formed.

Being well formed is said of whole lists of siblings, without an order of visits: names
are distinct, rules can be met and apply, and the condition of a gate is the name of an
earlier sibling. The checks of a form are cut into those at its lists of siblings, and
at one list each requirement collects what its checks ask for entry by entry.
-/

import Formwork.Proofs.Check.Address

namespace Formwork

/-! ### Requirements -/

/-- Whether the rules of a group must not be set for a kind of control. -/
def Kind.Forbids (kind : Kind) : RuleGroup → Prop
  | .length => kind = .number ∨ kind = .array ∨ kind ∈ Kind.choices
  | .range => kind ∈ Kind.textual ∨ kind = .array ∨ kind ∈ Kind.choices
  | .items => kind ∈ Kind.textual ∨ kind = .number ∨ kind ∈ Kind.choices

namespace Validation

/-- Whether a rule of a group is set. -/
def Sets (validation : Validation) : RuleGroup → Prop
  | .length => validation.minLength ≠ none ∨ validation.maxLength ≠ none
  | .range => validation.minimum ≠ none ∨ validation.maximum ≠ none ∨ validation.step ≠ none
  | .items => validation.minItems ≠ none ∨ validation.maxItems ≠ none

/-- Rules that can be met: counts are not negative, no lower bound is above its upper bound, and
the step is not zero or below. A number that is no number is below nothing. -/
structure Consistent (validation : Validation) : Prop where
  minLength : ∀ count ∈ validation.minLength, 0 ≤ count
  maxLength : ∀ count ∈ validation.maxLength, 0 ≤ count
  lengths : ∀ low ∈ validation.minLength, ∀ high ∈ validation.maxLength, low ≤ high
  range : ∀ low ∈ validation.minimum, ∀ high ∈ validation.maximum, high.less low = false
  minItems : ∀ count ∈ validation.minItems, 0 ≤ count
  maxItems : ∀ count ∈ validation.maxItems, 0 ≤ count
  items : ∀ low ∈ validation.minItems, ∀ high ∈ validation.maxItems, low ≤ high
  step : ∀ step ∈ validation.step, step = .nan ∨ (Binary64.zero false).less step = true

end Validation

/-- A field that its kind allows: it has the options that the kind needs and none that it refuses,
its rules can be met and apply to the kind, and it has children only if it is a container. -/
structure Field.Fits (field : Field) (kind : Kind) : Prop where
  named : field.control.kind = kind.name
  optionsPresent : kind ∈ Kind.optionRequiring → field.control.options ≠ []
  optionsAbsent : kind ∈ Kind.optionless → field.control.options = []
  optionsDistinct : kind ∈ Kind.choices → field.control.optionTexts.Nodup
  consistent : ∀ validation ∈ field.control.validation, validation.Consistent
  applicable : ∀ validation ∈ field.control.validation, ∀ group, kind.Forbids group →
    ¬ validation.Sets group
  childless : kind ∉ Kind.containers → field.children = []

/-- A list of siblings without gaps, whose names are usable and distinct, whose fields fit their
kinds, and whose conditions name strictly earlier siblings. -/
structure SiblingsWellFormed (siblings : List (Option Field)) : Prop where
  present : none ∉ siblings
  usable : ∀ name ∈ Field.names siblings, nameFault? name = none
  distinct : (Field.names siblings).Nodup
  fits : ∀ field, some field ∈ siblings → ∃ kind, field.Fits kind
  conditions : ∀ index field, siblings[index]? = some (some field) → ∀ gate ∈ field.gate,
    gate.condition ≠ "" ∧ gate.condition ≠ field.control.name ∧
      gate.condition ∈ Field.names (siblings.take index)

/-- A form with fields, a method by which it can be submitted, if any, and only well-formed lists
of siblings. -/
structure Form.WellFormed (form : Form) : Prop where
  fields : form.fields ≠ []
  method : ∀ method ∈ form.method, method = "" ∨ upperCase method ∈ submitMethods
  siblings : ∀ siblings, form.SiblingList siblings → SiblingsWellFormed siblings

/-! ### Options -/

/-- No text is reported as repeated exactly if the texts are distinct and new. -/
theorem duplicateText?_eq_none_iff {seen : List String} {position : Nat} {texts : List String} :
    duplicateText? seen position texts = none ↔
      texts.Nodup ∧ ∀ text ∈ texts, text ∉ seen := by
  induction texts generalizing seen position with
  | nil => simp [duplicateText?]
  | cons text rest inductionHypothesis =>
    by_cases taken : text ∈ seen
    · simp [duplicateText?, taken]
    · have notTaken : seen.contains text = false := by simpa using taken
      rw [duplicateText?, notTaken, if_neg Bool.false_ne_true, inductionHypothesis,
        List.nodup_cons, List.forall_mem_cons]
      constructor
      · rintro ⟨distinct, fresh⟩
        refine ⟨⟨fun member => fresh text member List.mem_cons_self, distinct⟩, taken, ?_⟩
        exact fun other member inSeen => fresh other member (List.mem_cons_of_mem _ inSeen)
      · rintro ⟨⟨notMember, distinct⟩, _, fresh⟩
        refine ⟨distinct, fun other member inSeen => ?_⟩
        rcases List.mem_cons.mp inSeen with rfl | inSeen
        · exact notMember member
        · exact fresh other member inSeen

theorem optionsFault?_eq_none_iff {kind : Kind} {texts : List String} :
    optionsFault? kind texts = none ↔
      (kind ∈ Kind.optionRequiring → texts ≠ []) ∧ (kind ∈ Kind.optionless → texts = []) ∧
        (kind ∈ Kind.choices → texts.Nodup) := by
  have distinct : duplicateText? [] 0 texts = none ↔ texts.Nodup := by
    simp [duplicateText?_eq_none_iff]
  simp only [optionsFault?, Bool.and_eq_true, List.contains_iff_mem, List.isEmpty_iff,
    Bool.not_eq_true', List.isEmpty_eq_false_iff]
  split
  · rename_i missing
    simp only [reduceCtorEq, false_iff]
    exact fun allowed => allowed.1 missing.1 missing.2
  rename_i notMissing
  split
  · rename_i stray
    simp only [reduceCtorEq, false_iff]
    exact fun allowed => stray.2 (allowed.2.1 stray.1)
  rename_i notStray
  have present : kind ∈ Kind.optionRequiring → texts ≠ [] :=
    fun requires empty => notMissing ⟨requires, empty⟩
  have absent : kind ∈ Kind.optionless → texts = [] :=
    fun refuses => Decidable.byContradiction fun nonempty => notStray ⟨refuses, nonempty⟩
  split
  · rename_i chooses
    rw [Option.map_eq_none_iff, distinct]
    exact ⟨fun nodup => ⟨present, absent, fun _ => nodup⟩, fun allowed => allowed.2.2 chooses⟩
  · rename_i notChooses
    exact iff_of_true rfl ⟨present, absent, fun chooses => absurd chooses notChooses⟩

/-! ### Bounds -/

theorem countFault?_int_eq_none_iff {rule : CountRule} {count : Option Int} :
    Bounds.countFault? rule (count.map .int) = none ↔ ∀ value ∈ count, 0 ≤ value := by
  cases count with
  | none => simp [Bounds.countFault?]
  | some value => simp [Bounds.countFault?, Scalar.less, Scalar.wholeNumber?]

theorem crossedFault?_int_eq_none_iff {crossed : Scalar → Scalar → Fault}
    {low high : Option Int} :
    Bounds.crossedFault? crossed (low.map .int) (high.map .int) = none ↔
      ∀ value ∈ low, ∀ value' ∈ high, value ≤ value' := by
  cases low <;> cases high <;>
    simp [Bounds.crossedFault?, Scalar.less, Scalar.wholeNumber?]

theorem crossedFault?_float_eq_none_iff {crossed : Scalar → Scalar → Fault}
    {low high : Option Binary64} :
    Bounds.crossedFault? crossed (low.map .float) (high.map .float) = none ↔
      ∀ value ∈ low, ∀ value' ∈ high, value'.less value = false := by
  cases low with
  | none => simp [Bounds.crossedFault?]
  | some value =>
    cases high with
    | none => simp [Bounds.crossedFault?]
    | some value' =>
      cases below : value'.less value <;> simp [Bounds.crossedFault?, Scalar.less, below]

theorem signedQuanta_eq_zero_iff (negative : Bool) (quanta : Nat) :
    Binary64.signedQuanta negative quanta = 0 ↔ quanta = 0 := by
  cases negative <;> simp [Binary64.signedQuanta]

theorem toInt?_eq_zero_iff {negative : Bool} {quanta : Nat}
    {representable : Representable quanta} :
    (Binary64.finite negative quanta representable).toInt? = some 0 ↔ quanta = 0 := by
  rw [Binary64.toInt?]
  constructor
  · intro read
    split at read
    · rename_i divides
      have quotient := (signedQuanta_eq_zero_iff _ _).mp (Option.some.inj read)
      have divided := Nat.div_add_mod quanta quantaPerUnit
      rw [quotient, divides, Nat.mul_zero] at divided
      exact divided.symm
    · cases read
  · rintro rfl
    rw [if_pos (Nat.zero_mod _), Nat.zero_div, (signedQuanta_eq_zero_iff _ _).mpr rfl]

/-- A number is not at most zero exactly if it is positive or no number. -/
theorem atMost_zero_eq_false_iff {number : Binary64} :
    (Scalar.float number).atMost (.int 0) = false ↔
      number = .nan ∨ (Binary64.zero false).less number = true := by
  cases number with
  | nan => exact iff_of_true rfl (Or.inl rfl)
  | infinite negative => cases negative <;> decide
  | finite negative quanta representable =>
    have compared : (Scalar.float (.finite negative quanta representable)).atMost (.int 0) =
        (decide (Binary64.signedQuanta negative quanta < 0 * quantaPerUnit) ||
          (Binary64.finite negative quanta representable).toInt? == some 0) := rfl
    have positive : (Binary64.zero false).less (.finite negative quanta representable) =
        decide (0 < Binary64.signedQuanta negative quanta) := rfl
    rw [compared, positive, Int.zero_mul, Bool.or_eq_false_iff, decide_eq_false_iff_not,
      beq_eq_false_iff_ne, Ne, toInt?_eq_zero_iff, ← signedQuanta_eq_zero_iff negative,
      decide_eq_true_iff]
    constructor
    · rintro ⟨notBelow, notZero⟩
      exact Or.inr (by omega)
    · rintro (impossible | above)
      · cases impossible
      · exact ⟨by omega, by omega⟩

theorem stepFault?_eq_none_iff {step : Option Binary64} :
    Bounds.stepFault? (step.map .float) = none ↔
      ∀ value ∈ step, value = .nan ∨ (Binary64.zero false).less value = true := by
  cases step with
  | none => simp [Bounds.stepFault?]
  | some value => simp [Bounds.stepFault?, ← atMost_zero_eq_false_iff]

theorem orElse_eq_none_iff {first second : Option Fault} :
    (first <|> second) = none ↔ first = none ∧ second = none := by
  cases first <;> simp

theorem ownFault?_eq_none_iff {validation : Validation} :
    validation.bounds.ownFault? = none ↔ validation.Consistent := by
  simp only [Bounds.ownFault?, Validation.bounds, orElse_eq_none_iff,
    countFault?_int_eq_none_iff, crossedFault?_int_eq_none_iff, crossedFault?_float_eq_none_iff,
    stepFault?_eq_none_iff]
  constructor
  · rintro ⟨minLength, maxLength, lengths, range, minItems, maxItems, items, step⟩
    exact ⟨minLength, maxLength, lengths, range, minItems, maxItems, items, step⟩
  · rintro ⟨minLength, maxLength, lengths, range, minItems, maxItems, items, step⟩
    exact ⟨minLength, maxLength, lengths, range, minItems, maxItems, items, step⟩

theorem carries_iff_sets {validation : Validation} {group : RuleGroup} :
    validation.bounds.carries group = true ↔ validation.Sets group := by
  cases group <;>
    simp [Bounds.carries, Validation.bounds, Validation.Sets, Option.isSome_iff_ne_none, or_assoc]

theorem mem_inapplicable_iff {kind : Kind} {group : RuleGroup} :
    group ∈ kind.inapplicable ↔ kind.Forbids group := by
  cases kind <;> cases group <;> simp [Kind.Forbids, Kind.inapplicable, Kind.textual, Kind.choices]

theorem inapplicable_eq_none_iff {validation : Validation} {kind : Kind} :
    kind.inapplicable.find? validation.bounds.carries = none ↔
      ∀ group, kind.Forbids group → ¬ validation.Sets group := by
  simp only [List.find?_eq_none, mem_inapplicable_iff, carries_iff_sets]

/-! ### The checks of one field -/

namespace FieldCheck

open Formwork.Field (names)

theorem name_passes_iff {before : List (Option Field)} {field : Field} :
    (pattern.faultOf? before field = none ∧ reserved.faultOf? before field = none) ↔
      nameFault? field.control.name = none := by
  simp only [faultOf?, nameFault?]
  cases field.control.name.isEmpty <;> cases isName field.control.name.toList <;>
    cases isReserved field.control.name <;> simp

theorem duplicate_passes_iff {before : List (Option Field)} {field : Field} :
    duplicate.faultOf? before field = none ↔ field.control.name ∉ names before := by
  by_cases taken : field.control.name ∈ names before <;> simp [faultOf?, taken]

section KnownKind

variable {before : List (Option Field)} {field : Field} {kind : Kind}

theorem options_passes_iff (known : field.kind? = some kind) :
    options.faultOf? before field = none ↔
      (kind ∈ Kind.optionRequiring → field.control.options ≠ []) ∧
        (kind ∈ Kind.optionless → field.control.options = []) ∧
        (kind ∈ Kind.choices → field.control.optionTexts.Nodup) := by
  have sameLength : field.control.optionTexts = [] ↔ field.control.options = [] :=
    List.map_eq_nil_iff
  rw [faultOf?, known, Option.bind_some, optionsFault?_eq_none_iff, Ne, sameLength]

theorem bounds_passes_iff :
    bounds.faultOf? before field = none ↔
      ∀ validation ∈ field.control.validation, validation.Consistent := by
  rw [faultOf?, Option.bind_eq_none_iff]
  exact forall₂_congr fun _ _ => ownFault?_eq_none_iff

theorem applicability_passes_iff (known : field.kind? = some kind) :
    applicability.faultOf? before field = none ↔
      ∀ validation ∈ field.control.validation, ∀ group, kind.Forbids group →
        ¬ validation.Sets group := by
  rw [faultOf?, Option.bind_eq_none_iff]
  refine forall₂_congr fun validation _ => ?_
  rw [known, Option.bind_some, Option.map_eq_none_iff, inapplicable_eq_none_iff]

theorem children_passes_iff (known : field.kind? = some kind) :
    children.faultOf? before field = none ↔ (kind ∉ Kind.containers → field.children = []) := by
  rw [faultOf?, known, Option.bind_some]
  by_cases container : kind ∈ Kind.containers <;> by_cases childless : field.children = [] <;>
    simp [container, childless]

/-- The checks of the kind, options, bounds and children of a field pass exactly if the field fits
a kind. -/
theorem kind_passes_iff :
    (∀ check ∈ [FieldCheck.kind, options, bounds, applicability, children],
      check.faultOf? before field = none) ↔ ∃ kind, field.Fits kind := by
  simp only [List.forall_mem_cons, List.not_mem_nil, false_implies, implies_true, and_true]
  constructor
  · rintro ⟨resolved, optionsPass, boundsPass, applicabilityPasses, childrenPass⟩
    cases known : field.kind? with
    | none => simp [faultOf?, known] at resolved
    | some kind =>
      obtain ⟨present, absent, distinct⟩ := (options_passes_iff known).mp optionsPass
      exact ⟨kind, (Kind.name_of_ofName? known).symm, present, absent, distinct,
        bounds_passes_iff.mp boundsPass, (applicability_passes_iff known).mp applicabilityPasses,
        (children_passes_iff known).mp childrenPass⟩
  · rintro ⟨kind, fits⟩
    have known : field.kind? = some kind := by
      rw [Field.kind?, fits.named, Kind.ofName?_name]
    refine ⟨?_, (options_passes_iff known).mpr
      ⟨fits.optionsPresent, fits.optionsAbsent, fits.optionsDistinct⟩,
      bounds_passes_iff.mpr fits.consistent, (applicability_passes_iff known).mpr fits.applicable,
      (children_passes_iff known).mpr fits.childless⟩
    rw [faultOf?, known]
    rfl

end KnownKind

theorem condition_passes_iff {before : List (Option Field)} {field : Field} :
    condition.faultOf? before field = none ↔ ∀ gate ∈ field.gate,
      gate.condition ≠ "" ∧ gate.condition ≠ field.control.name ∧
        gate.condition ∈ names before := by
  rw [faultOf?, Option.bind_eq_none_iff]
  refine forall₂_congr fun gate _ => ?_
  by_cases empty : gate.condition = ""
  · simp [empty]
  have notEmpty : gate.condition.isEmpty = false := by simpa using empty
  by_cases own : gate.condition = field.control.name
  · rw [notEmpty, if_neg Bool.false_ne_true, if_pos own]
    simp [own]
  have notOwn : gate.condition ∉ (Field.entryName? (some field)).toList := by
    rw [Field.entryName?_some]
    split <;> simp [own]
  have earlier : gate.condition ∈ names (before ++ [some field]) ↔
      gate.condition ∈ names before := by
    rw [Field.names_append_singleton, List.mem_append, or_iff_left notOwn]
  by_cases member : gate.condition ∈ names before <;>
    simp [notEmpty, empty, own, earlier, member]

end FieldCheck

/-! ### The checks of one list of siblings -/

theorem forall_getElem?_cons_iff {Item : Type} {holds : Nat → Item → Prop} {first : Item}
    {rest : List Item} :
    (∀ index item, (first :: rest)[index]? = some item → holds index item) ↔
      holds 0 first ∧ ∀ index item, rest[index]? = some item → holds (index + 1) item := by
  constructor
  · exact fun all => ⟨all 0 first rfl, fun index item found => all (index + 1) item found⟩
  · rintro ⟨atFirst, atRest⟩ index item found
    cases index with
    | zero => exact Option.some.inj found ▸ atFirst
    | succ index => exact atRest index item found

namespace Field

/-- Names that none of the earlier entries has are distinct names. -/
theorem names_nodup_iff {before fields : List (Option Field)} :
    (∀ index entry, fields[index]? = some entry →
      ∀ name ∈ entryName? entry, name ∉ names (before ++ fields.take index)) ↔
      (names fields).Nodup ∧ ∀ name ∈ names fields, name ∉ names before := by
  induction fields generalizing before with
  | nil => simp [names]
  | cons first rest inductionHypothesis =>
    have shift : ∀ index, before ++ (first :: rest).take (index + 1) =
        (before ++ [first]) ++ rest.take index := by simp
    rw [forall_getElem?_cons_iff]
    simp only [shift, List.take_zero, List.append_nil]
    rw [@inductionHypothesis (before ++ [first])]
    cases named : entryName? first with
    | none => simp [names, named]
    | some name =>
      have split : names (first :: rest) = name :: names rest := by simp [names, named]
      have grown : names (before ++ [first]) = names before ++ [name] := by simp [names, named]
      rw [split, grown, List.nodup_cons, List.forall_mem_cons]
      constructor
      · rintro ⟨here, distinct, fresh⟩
        refine ⟨⟨fun member => ?_, distinct⟩, here name rfl, fun other member earlier => ?_⟩
        · exact fresh name member (List.mem_append_right _ List.mem_cons_self)
        · exact fresh other member (List.mem_append_left _ earlier)
      · rintro ⟨⟨notMember, distinct⟩, here, fresh⟩
        refine ⟨fun other same => Option.some.inj same ▸ here, distinct, ?_⟩
        intro other member taken
        rcases List.mem_append.mp taken with earlier | same
        · exact fresh other member earlier
        · exact notMember (List.mem_singleton.mp same ▸ member)

end Field

/-- What the walk asks of one list of siblings: that at every position there is a field that passes
all its checks. -/
def SiblingsPass (siblings : List (Option Field)) : Prop :=
  ∀ index entry, siblings[index]? = some entry →
    ∃ field, entry = some field ∧
      ∀ check : FieldCheck, check.faultOf? (siblings.take index) field = none

theorem fieldChecks_pass_iff {before : List (Option Field)} {field : Field} :
    (∀ check : FieldCheck, check.faultOf? before field = none) ↔
      nameFault? field.control.name = none ∧
        field.control.name ∉ Field.names before ∧ (∃ kind, field.Fits kind) ∧
        ∀ gate ∈ field.gate, gate.condition ≠ "" ∧ gate.condition ≠ field.control.name ∧
          gate.condition ∈ Field.names before := by
  rw [← @FieldCheck.name_passes_iff before, ← FieldCheck.duplicate_passes_iff,
    ← @FieldCheck.kind_passes_iff before, ← FieldCheck.condition_passes_iff]
  constructor
  · exact fun pass => ⟨⟨pass _, pass _⟩, pass _, fun check _ => pass check, pass _⟩
  · rintro ⟨⟨pattern, reserved⟩, duplicate, others, condition⟩ check
    cases check with
    | presence => rfl
    | pattern => exact pattern
    | reserved => exact reserved
    | duplicate => exact duplicate
    | condition => exact condition
    | _ => exact others _ (by decide)

/-- The empty name has no fault, so only other names need to be usable. -/
theorem nameFault?_eq_none {name : String}
    (usable : name.isEmpty = false → nameFault? name = none) : nameFault? name = none := by
  cases empty : name.isEmpty with
  | true => rw [nameFault?, if_pos empty]
  | false => exact usable empty

theorem SiblingsPass.wellFormed {siblings : List (Option Field)} (pass : SiblingsPass siblings) :
    SiblingsWellFormed siblings := by
  have checked : ∀ index field, siblings[index]? = some (some field) →
      nameFault? field.control.name = none ∧
        field.control.name ∉ Field.names (siblings.take index) ∧ (∃ kind, field.Fits kind) ∧
        ∀ gate ∈ field.gate, gate.condition ≠ "" ∧ gate.condition ≠ field.control.name ∧
          gate.condition ∈ Field.names (siblings.take index) := by
    intro index field found
    obtain ⟨_, same, passed⟩ := pass index (some field) found
    exact fieldChecks_pass_iff.mp (Option.some.inj same ▸ passed)
  refine ⟨fun missing => ?_, fun name given => ?_, ?_, fun field member => ?_, ?_⟩
  · obtain ⟨index, found⟩ := List.mem_iff_getElem?.mp missing
    obtain ⟨_, impossible, _⟩ := pass index none found
    cases impossible
  · obtain ⟨field, member, rfl, _⟩ := Field.mem_names_iff.mp given
    obtain ⟨index, found⟩ := List.mem_iff_getElem?.mp member
    exact (checked index field found).1
  · have fresh : ∀ index entry, siblings[index]? = some entry →
        ∀ name ∈ Field.entryName? entry, name ∉ Field.names ([] ++ siblings.take index) := by
      intro index entry found name named
      obtain ⟨field, rfl, rfl, _⟩ := Field.entryName?_eq_some_iff.mp named
      exact (checked index field found).2.1
    exact (Field.names_nodup_iff.mp fresh).1
  · obtain ⟨index, found⟩ := List.mem_iff_getElem?.mp member
    exact (checked index field found).2.2.1
  · exact fun index field found => (checked index field found).2.2.2

theorem SiblingsWellFormed.pass {siblings : List (Option Field)}
    (wellFormed : SiblingsWellFormed siblings) : SiblingsPass siblings := by
  intro index entry found
  have member : entry ∈ siblings := List.mem_of_getElem? found
  cases entry with
  | none => exact absurd member wellFormed.present
  | some field =>
    refine ⟨field, rfl, fieldChecks_pass_iff.mpr ⟨?_, fun taken => ?_,
      wellFormed.fits field member, wellFormed.conditions index field found⟩⟩
    · exact nameFault?_eq_none fun notEmpty =>
        wellFormed.usable _ (Field.mem_names_iff.mpr ⟨field, member, rfl, notEmpty⟩)
    · have named : Field.entryName? (some field) = some field.control.name :=
        Field.entryName?_eq_some_iff.mpr
          ⟨field, rfl, rfl, Field.not_isEmpty_of_mem_names taken⟩
      have fresh := (@Field.names_nodup_iff [] siblings).mpr
        ⟨wellFormed.distinct, fun _ _ => List.not_mem_nil⟩
      exact fresh index (some field) found _ named taken

/-- The walk passes a list of siblings exactly if the list is well formed. -/
theorem siblingsPass_iff {siblings : List (Option Field)} :
    SiblingsPass siblings ↔ SiblingsWellFormed siblings :=
  ⟨SiblingsPass.wellFormed, SiblingsWellFormed.pass⟩

/-! ### The checks of a form -/

namespace Field

variable {form : Form}

/-- Whether all of some checks pass. -/
def Pass (form : Form) (checks : List FormCheck) : Prop :=
  ∀ check ∈ checks, check.fault? form = none

theorem pass_append {checks checks' : List FormCheck} :
    Pass form (checks ++ checks') ↔ Pass form checks ∧ Pass form checks' :=
  List.forall_mem_append

theorem pass_map_field {trail : List Segment} {before : List (Option Field)} {field : Field}
    {checks : List FieldCheck} :
    Pass form (checks.map (.field ⟨trail, before, some field⟩)) ↔
      ∀ check ∈ checks, check.faultOf? before field = none :=
  List.forall_mem_map

/-- What passes at a field: its own checks, and everything in its parts. -/
def Passes (form : Form) (field : Field) : Prop :=
  ∀ trail before, Pass form (field.checks trail before) ↔
    (∀ check : FieldCheck, check.faultOf? before field = none) ∧
      ∀ part ∈ field.parts, Everywhere SiblingsWellFormed part

/-- The checks of a list pass exactly if all lists of siblings at or below it are well formed. -/
theorem pass_listChecks_iff {fields : List (Option Field)}
    (passes : ∀ field, some field ∈ fields → field.Passes form) (trail : List Segment)
    {step : Nat → Segment} (counts : ∀ index, (step index).position = index) :
    Pass form (listChecks trail step [] fields) ↔ Everywhere SiblingsWellFormed fields := by
  have entrywise : Pass form (listChecks trail step [] fields) ↔
      ∀ index entry, fields[index]? = some entry →
        Pass form (entryChecks (trail ++ [step index]) (fields.take index) entry) := by
    constructor
    · intro pass index entry found check member
      exact pass check ((mem_listChecks_nil counts).mpr
        ⟨index, entry, by rwa [counts], by rwa [counts]⟩)
    · intro pass check member
      obtain ⟨index, entry, found, member⟩ := (mem_listChecks_nil counts).mp member
      rw [counts] at found member
      exact pass index entry found check member
  rw [entrywise, everywhere_iff, ← siblingsPass_iff]
  constructor
  · intro pass
    refine ⟨fun index entry found => ?_, fun field member => ?_⟩
    · cases entry with
      | none =>
        have impossible : some Fault.noField = none :=
          pass index none found _ (List.mem_singleton.mpr rfl)
        cases impossible
      | some field =>
        have passed := (passes field (List.mem_of_getElem? found) _ _).mp (pass index _ found)
        exact ⟨field, rfl, passed.1⟩
    · obtain ⟨index, found⟩ := List.mem_iff_getElem?.mp member
      exact ((passes field member _ _).mp (pass index _ found)).2
  · rintro ⟨here, deeper⟩ index entry found
    obtain ⟨field, rfl, passed⟩ := here index entry found
    have member : some field ∈ fields := List.mem_of_getElem? found
    exact (passes field member _ _).mpr ⟨passed, deeper field member⟩

theorem passes (field : Field) : field.Passes form := by
  induction field using Field.induction with
  | step field inductionHypothesis =>
    intro trail before
    have inList := fun part inside => @pass_listChecks_iff form part
      (inductionHypothesis part inside) trail
    have inGate : Pass form ((field.gate.map fun gate =>
          listChecks trail .consequent [] gate.consequent ++
            listChecks trail .alternative [] gate.alternative).getD []) ↔
        ∀ part ∈ gateParts field.gate, Everywhere SiblingsWellFormed part := by
      cases carries : field.gate with
      | none => exact iff_of_true (List.forall_mem_nil _) (List.forall_mem_nil _)
      | some gate =>
        obtain ⟨first, second⟩ : gate.consequent ∈ field.parts ∧
            gate.alternative ∈ field.parts := by simp [parts, gateParts, carries]
        rw [Option.map_some, Option.getD_some, pass_append, inList _ first fun _ => rfl,
          inList _ second fun _ => rfl]
        simp [gateParts]
    have own : (∀ check : FieldCheck, check.faultOf? before field = none) ↔
        (∀ check ∈ FieldCheck.own, check.faultOf? before field = none) ∧
          FieldCheck.condition.faultOf? before field = none := by
      constructor
      · exact fun all => ⟨fun check _ => all check, all _⟩
      · rintro ⟨inOwn, atCondition⟩ check
        rcases mem_own_or check with member | rfl
        · exact inOwn check member
        · exact atCondition
    have children : field.children ∈ field.parts := List.mem_cons_self
    have atCondition : Pass form [.field ⟨trail, before, some field⟩ .condition] ↔
        FieldCheck.condition.faultOf? before field = none := List.forall_mem_singleton
    rw [checks_eq, pass_append, pass_append, pass_append, pass_map_field,
      inList _ children fun _ => rfl, atCondition, inGate, own, parts, List.forall_mem_cons]
    constructor
    · rintro ⟨⟨⟨inOwn, inChildren⟩, conditionPasses⟩, inLists⟩
      exact ⟨⟨inOwn, conditionPasses⟩, inChildren, inLists⟩
    · rintro ⟨⟨inOwn, conditionPasses⟩, inChildren, inLists⟩
      exact ⟨⟨⟨inOwn, inChildren⟩, conditionPasses⟩, inLists⟩

end Field

theorem Form.method_passes_iff {form : Form} :
    FormCheck.method.fault? form = none ↔
      ∀ method ∈ form.method, method = "" ∨ upperCase method ∈ submitMethods := by
  rw [FormCheck.fault?, Option.bind_eq_none_iff]
  refine forall₂_congr fun method _ => ?_
  by_cases empty : method = "" <;> by_cases known : upperCase method ∈ submitMethods <;>
    simp [empty, known]

/-- The walk finds nothing exactly if the form is well formed. -/
theorem Form.violation?_eq_none_iff {form : Form} : form.violation? = none ↔ form.WellFormed := by
  have walked : form.violation? = none ↔ Field.Pass form form.checks := by
    rw [violation?_eq, FormCheck.first?, List.findSome?_eq_none_iff]
    exact forall₂_congr fun check _ => Option.map_eq_none_iff
  have cut : Field.Pass form form.checks ↔
      FormCheck.fields.fault? form = none ∧ FormCheck.method.fault? form = none ∧
        Field.Pass form (Field.listChecks [] .child [] form.fields) := by
    rw [checks, Field.Pass, List.forall_mem_cons, List.forall_mem_cons]
    rfl
  have fields : FormCheck.fields.fault? form = none ↔ form.fields ≠ [] := by
    cases none : form.fields <;> simp [FormCheck.fault?, none]
  rw [walked, cut, fields, method_passes_iff,
    Field.pass_listChecks_iff (fun field _ => field.passes) [] fun _ => rfl]
  constructor
  · rintro ⟨fields, method, siblings⟩
    exact ⟨fields, method, siblings⟩
  · rintro ⟨fields, method, siblings⟩
    exact ⟨fields, method, siblings⟩

theorem Form.WellFormed.of_accepted {form : Form} (accepted : complaint? (some form) = none) :
    form.WellFormed := violation?_eq_none_iff.mp (Option.map_eq_none_iff.mp accepted)

/-- A form passes its check exactly if it is well formed. -/
theorem Form.complaint?_eq_none_iff (form : Form) :
    Form.complaint? (some form) = none ↔ form.WellFormed := by
  rw [complaint?_some, Option.map_eq_none_iff, violation?_eq_none_iff]

end Formwork
