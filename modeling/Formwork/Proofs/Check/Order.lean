/-
This file puts all checks of a form in one list, in the order in which they are
documented, and proves that the walk over a form reports the first check of the list
that fails.

Every check looks at a place: an entry of a list of fields together with the entries
before it, whose names are the scope of the entry. The walk keeps its scope in a
state instead, and it has stopped before the state could be anything else: as long as
no check has failed, the state holds the names of the earlier siblings.
-/

import Formwork.Check.Walk
import Formwork.Proofs.Check.Path
import Formwork.Proofs.Form.Tree

namespace Formwork

/-! ### Checks -/

/-- A place in a form: the trail to an entry of a list of fields, the entries before it, and the
entry itself. -/
structure Place where
  trail : List Segment
  before : List (Option Field)
  entry : Option Field

/-- What is checked at a place. -/
inductive FieldCheck where
  | presence
  | pattern
  | reserved
  | duplicate
  | kind
  | options
  | bounds
  | applicability
  | children
  | condition
  deriving DecidableEq

/-- What is checked of a form: that it has fields, its method, and all checks at all places. -/
inductive FormCheck where
  | fields
  | method
  | field (place : Place) (check : FieldCheck)

namespace Field

/-- The name of an entry, if it is a field with a name other than the empty one. -/
def entryName? (entry : Option Field) : Option String :=
  (entry.map fun field => field.control.name).filter fun name => !name.isEmpty

/-- The names in a list of siblings. -/
def names (siblings : List (Option Field)) : List String := siblings.filterMap entryName?

/-- The kind that a field is of, if its kind is known. -/
def kind? (field : Field) : Option Kind := Kind.ofName? field.control.kind

end Field

namespace FieldCheck

open Formwork.Field (names)

/-- The fault that a check finds in a field behind the given siblings. -/
def faultOf? (before : List (Option Field)) (field : Field) : FieldCheck → Option Fault
  | .presence => none
  | .pattern =>
    if field.control.name.isEmpty || isName field.control.name.toList then none
    else some (.malformedName field.control.name)
  | .reserved =>
    if field.control.name.isEmpty || !isReserved field.control.name then none
    else some (.reservedName field.control.name)
  | .duplicate =>
    if field.control.name ∈ names before then some (.duplicateName field.control.name) else none
  | .kind => if field.kind?.isSome then none else some (.unknownKind field.control.kind)
  | .options => field.kind?.bind fun kind => optionsFault? kind field.control.optionTexts
  | .bounds => field.control.validation.bind fun validation => validation.bounds.ownFault?
  | .applicability =>
    field.control.validation.bind fun validation =>
      field.kind?.bind fun kind =>
        (kind.inapplicable.find? validation.bounds.carries).map fun group =>
          .inapplicableRules group kind
  | .children =>
    field.kind?.bind fun kind =>
      if field.children.isEmpty || Kind.containers.contains kind then none
      else some (.strayChildren field.control.kind)
  | .condition =>
    field.gate.bind fun gate =>
      if gate.condition.isEmpty then some .noCondition
      else if gate.condition = field.control.name then some (.ownCondition field.control.name)
      else if gate.condition ∈ names (before ++ [some field]) then none
      else some (.unknownCondition gate.condition)

/-- The fault that a check finds in an entry behind the given siblings. Of a missing field only
its presence is checked. -/
def fault? (before : List (Option Field)) (entry : Option Field) (check : FieldCheck) :
    Option Fault :=
  match entry with
  | some field => check.faultOf? before field
  | none => if check = .presence then some .noField else none

/-- The checks of a field before those of its children. -/
def own : List FieldCheck :=
  [.presence, .pattern, .reserved, .duplicate, .kind, .options, .bounds, .applicability,
    .children]

end FieldCheck

namespace FormCheck

/-- The fault that a check finds. -/
def fault? (form : Form) : FormCheck → Option Fault
  | .fields => if form.fields.isEmpty then some .noFields else none
  | .method =>
    form.method.bind fun method =>
      if method.isEmpty || submitMethods.contains (upperCase method) then none
      else some (.unknownMethod method)
  | .field place check => check.fault? place.before place.entry

/-- The trail to what is checked, empty for the form itself. -/
def trail : FormCheck → List Segment
  | .fields => []
  | .method => []
  | .field place _ => place.trail

/-- The violation that a check finds. -/
def violation? (form : Form) (check : FormCheck) : Option Violation :=
  (check.fault? form).map fun fault => ⟨check.trail, fault⟩

end FormCheck

namespace Field

mutual

/-- All checks of a field behind the given siblings, in order: its own ones, those of its
children, that of its condition, and those of the two lists of its gate. -/
def checks (trail : List Segment) (before : List (Option Field)) : Field → List FormCheck
  | .mk control children gate =>
    FieldCheck.own.map (.field ⟨trail, before, some (.mk control children gate)⟩) ++
      listChecks trail .child [] children ++
      [.field ⟨trail, before, some (.mk control children gate)⟩ .condition] ++
      (match gate with
        | some ⟨_, _, consequent, alternative⟩ =>
          listChecks trail .consequent [] consequent ++
            listChecks trail .alternative [] alternative
        | none => [])
termination_by structural field => field

/-- All checks of the entries of a list, in order, behind the given siblings. -/
def listChecks (trail : List Segment) (step : Nat → Segment) (before : List (Option Field)) :
    List (Option Field) → List FormCheck
  | [] => []
  | none :: rest =>
    .field ⟨trail ++ [step before.length], before, none⟩ .presence ::
      listChecks trail step (before ++ [none]) rest
  | some field :: rest =>
    checks (trail ++ [step before.length]) before field ++
      listChecks trail step (before ++ [some field]) rest
termination_by structural fields => fields

end

end Field

/-- All checks of a form, in the order in which they are made. -/
def Form.checks (form : Form) : List FormCheck :=
  .fields :: .method :: Field.listChecks [] .child [] form.fields

/-! ### Scopes -/

/-- Whether a scope holds exactly the names of the given siblings. -/
def Scope.Holds (scope : Scope) (before : List (Option Field)) : Prop :=
  ∀ name, name ∈ scope ↔ name ∈ Field.names before

namespace Field

theorem names_append_singleton (before : List (Option Field)) (entry : Option Field) :
    names (before ++ [entry]) = names before ++ (entryName? entry).toList := by
  rw [names, List.filterMap_append, names]
  cases found : entryName? entry <;> simp [found]

theorem entryName?_some (field : Field) :
    entryName? (some field) =
      if field.control.name.isEmpty then none else some field.control.name := by
  rw [entryName?, Option.map_some, Option.filter]
  cases field.control.name.isEmpty <;> rfl

theorem entryName?_eq_some_iff {entry : Option Field} {name : String} :
    entryName? entry = some name ↔
      ∃ field, entry = some field ∧ field.control.name = name ∧ name.isEmpty = false := by
  cases entry with
  | none => simp [entryName?]
  | some field =>
    rw [entryName?_some]
    constructor
    · intro named
      split at named
      · cases named
      · rename_i notEmpty
        obtain rfl := Option.some.inj named
        exact ⟨field, rfl, rfl, Bool.eq_false_iff.mpr notEmpty⟩
    · rintro ⟨_, same, rfl, notEmpty⟩
      obtain rfl := Option.some.inj same
      rw [notEmpty, if_neg Bool.false_ne_true]

theorem mem_names_iff {fields : List (Option Field)} {name : String} :
    name ∈ names fields ↔
      ∃ field, some field ∈ fields ∧ field.control.name = name ∧ name.isEmpty = false := by
  rw [names, List.mem_filterMap]
  constructor
  · rintro ⟨entry, member, named⟩
    obtain ⟨field, rfl, same⟩ := entryName?_eq_some_iff.mp named
    exact ⟨field, member, same⟩
  · rintro ⟨field, member, same⟩
    exact ⟨some field, member, entryName?_eq_some_iff.mpr ⟨field, rfl, same⟩⟩

theorem not_isEmpty_of_mem_names {siblings : List (Option Field)} {name : String}
    (member : name ∈ names siblings) : name.isEmpty = false := by
  obtain ⟨_, _, _, notEmpty⟩ := mem_names_iff.mp member
  exact notEmpty

end Field

theorem Scope.holds_nil : Scope.Holds [] [] := fun _ => Iff.rfl

/-- Registering the name of a field makes its scope that of its next sibling. -/
theorem Scope.Holds.register {scope : Scope} {before : List (Option Field)}
    (holds : scope.Holds before) (field : Field) :
    (scope.register field.control.name).Holds (before ++ [some field]) := by
  intro name
  rw [Field.names_append_singleton, Field.entryName?_some, Scope.register, List.mem_append,
    ← holds name]
  split
  · simp
  · simp [or_comm]

/-! ### The checks of one field -/

namespace Field

/-- The walk finds in a name what the three checks of a name find. -/
theorem entryFault?_eq {scope : Scope} {before : List (Option Field)}
    (holds : scope.Holds before) (field : Field) :
    scope.entryFault? field.control.name =
      [FieldCheck.pattern, .reserved, .duplicate].findSome?
        (FieldCheck.fault? before (some field)) := by
  simp only [List.findSome?_cons, List.findSome?_nil, FieldCheck.fault?, FieldCheck.faultOf?,
    Scope.entryFault?, nameFault?]
  by_cases empty : field.control.name.isEmpty = true
  · have notMember : field.control.name ∉ names before := fun member =>
      absurd (not_isEmpty_of_mem_names member) (by rw [empty]; decide)
    simp only [empty, notMember, Bool.true_or, Bool.not_true, Bool.false_and, if_true, if_false,
      Bool.false_eq_true]
    rfl
  · rw [Bool.not_eq_true] at empty
    have same : scope.contains field.control.name = true ↔ field.control.name ∈ names before := by
      rw [List.contains_iff_mem]
      exact holds _
    simp only [empty, Bool.false_or, Bool.not_false, Bool.true_and, same, if_false,
      Bool.false_eq_true]
    cases isName field.control.name.toList <;> cases isReserved field.control.name <;>
      by_cases member : field.control.name ∈ names before <;> simp [member]

theorem fault?_empty_bounds (kind : Kind) : Bounds.fault? {} kind = none := by
  have carriesNothing : kind.inapplicable.find? (Bounds.carries {}) = none :=
    List.find?_eq_none.mpr fun group _ => by cases group <;> decide
  rw [Bounds.fault?, carriesNothing]
  rfl

/-- The walk finds in a field apart from its name what the checks of its kind, options, bounds and
children find. -/
theorem factsFault?_eq (before : List (Option Field)) (field : Field) :
    field.control.facts.fault? (!field.children.isEmpty) =
      [FieldCheck.kind, .options, .bounds, .applicability, .children].findSome?
        (FieldCheck.fault? before (some field)) := by
  simp only [List.findSome?_cons, List.findSome?_nil, FieldCheck.fault?, FieldCheck.faultOf?,
    Facts.fault?, resolveKind, Control.facts]
  cases known : field.kind? with
  | none =>
    rw [kind?] at known
    simp only [known, Option.isSome_none]
    rfl
  | some kind =>
    rw [kind?] at known
    have stray : (if (!field.children.isEmpty && !Kind.containers.contains kind) = true then
          some (Fault.strayChildren field.control.kind) else none) =
        if (field.children.isEmpty || Kind.containers.contains kind) = true then none
          else some (Fault.strayChildren field.control.kind) := by
      cases field.children.isEmpty <;> cases Kind.containers.contains kind <;> rfl
    simp only [known, Option.isSome_some, if_true, Option.bind_some, stray]
    cases field.control.validation with
    | none =>
      simp only [Option.map_none, Option.getD_none, fault?_empty_bounds, Option.bind_none]
      cases optionsFault? kind field.control.optionTexts <;> cases field.children.isEmpty <;>
        cases Kind.containers.contains kind <;> rfl
    | some validation =>
      simp only [Option.map_some, Option.getD_some, Option.bind_some, Bounds.fault?]
      cases optionsFault? kind field.control.optionTexts <;>
        cases validation.bounds.ownFault? <;>
        cases kind.inapplicable.find? validation.bounds.carries <;>
        cases field.children.isEmpty <;> cases Kind.containers.contains kind <;> rfl

theorem ownFault?_eq {scope : Scope} {before : List (Option Field)}
    (holds : scope.Holds before) (field : Field) :
    FieldCheck.own.findSome? (FieldCheck.fault? before (some field)) =
      (scope.entryFault? field.control.name <|>
        field.control.facts.fault? !field.children.isEmpty) := by
  have cut : FieldCheck.own =
      [.presence] ++ ([.pattern, .reserved, .duplicate] ++
        [.kind, .options, .bounds, .applicability, .children]) := rfl
  rw [cut, List.findSome?_append, List.findSome?_append, ← entryFault?_eq holds,
    ← factsFault?_eq before]
  cases scope.entryFault? field.control.name <;> rfl

/-- The walk finds in the condition of a gate what the check of the condition finds. -/
theorem conditionFault?_eq {scope : Scope} {before : List (Option Field)} {field : Field}
    (holds : scope.Holds (before ++ [some field])) {gate : Gate Field}
    (carries : field.gate = some gate) :
    scope.conditionFault? field.control.name (.text gate.condition) =
      FieldCheck.condition.fault? before (some field) := by
  simp only [Scope.conditionFault?, FieldCheck.fault?, FieldCheck.faultOf?, carries,
    Option.bind_some]
  by_cases empty : gate.condition.isEmpty = true
  · rw [if_pos empty, if_pos empty]
  rw [if_neg empty, if_neg empty]
  by_cases own : gate.condition = field.control.name
  · have notEmpty : field.control.name.isEmpty = false := by
      rw [← own]
      exact Bool.eq_false_iff.mpr empty
    simp [own, notEmpty]
  · have same := holds gate.condition
    by_cases member : gate.condition ∈ names (before ++ [some field]) <;>
      simp [own, same, member]

end Field

/-! ### The walk -/

/-- The violation seen from where a trail begins that leads to it. -/
def Violation.behind (trail : List Segment) (violation : Violation) : Violation :=
  { violation with trail := trail ++ violation.trail }

theorem Violation.behind_under (trail : List Segment) (segment : Segment)
    (violation : Violation) :
    (violation.under segment).behind trail = violation.behind (trail ++ [segment]) := by
  simp [behind, under]

/-- The violation that the first failing check of a list finds. -/
def FormCheck.first? (form : Form) (checks : List FormCheck) : Option Violation :=
  checks.findSome? (violation? form)

namespace FormCheck

variable {form : Form}

theorem first?_append (checks checks' : List FormCheck) :
    first? form (checks ++ checks') = (first? form checks <|> first? form checks') := by
  rw [first?, List.findSome?_append, first?, first?]
  cases checks.findSome? (violation? form) <;> rfl

/-- The first violation that checks at one place find. -/
theorem first?_map_field (place : Place) (checks : List FieldCheck) :
    first? form (checks.map (.field place)) =
      (checks.findSome? (FieldCheck.fault? place.before place.entry)).map (⟨place.trail, ·⟩) := by
  rw [first?, List.findSome?_map, List.map_findSome?]
  rfl

end FormCheck

namespace Field

variable {form : Form}

/-- What the walk does at a field in a scope that holds the names of the earlier siblings. -/
structure Walks (form : Form) (scope : Scope) (trail : List Segment)
    (before : List (Option Field)) (field : Field) : Prop where
  found : (field.check scope).2.map (Violation.behind trail) =
    FormCheck.first? form (field.checks trail before)
  scopeAfter : (field.check scope).2 = none →
    (field.check scope).1.Holds (before ++ [some field])

/-- The walk over a list finds the first violation of the list, if the walks over the fields
do. -/
theorem walkList {fields : List (Option Field)}
    (walks : ∀ field, some field ∈ fields → ∀ scope trail before, scope.Holds before →
      field.Walks form scope trail before)
    (trail : List Segment) (step : Nat → Segment) {scope : Scope}
    {before : List (Option Field)} (holds : scope.Holds before) :
    (Outline.checkList step scope before.length (outlines fields)).map
        (Violation.behind trail) =
      FormCheck.first? form (listChecks trail step before fields) := by
  induction fields generalizing scope before with
  | nil => rfl
  | cons entry rest inductionHypothesis =>
    have inRest : ∀ field, some field ∈ rest → ∀ scope trail before, scope.Holds before →
        field.Walks form scope trail before :=
      fun field member => walks field (List.mem_cons_of_mem _ member)
    cases entry with
    | none => rfl
    | some field =>
      have here := walks field List.mem_cons_self scope (trail ++ [step before.length]) before holds
      rw [listChecks, FormCheck.first?_append, ← here.found, outlines, Outline.checkList]
      cases outcome : field.check scope with
      | mk after found =>
        have opened : field.outline.check scope = (after, found) := outcome
        rw [opened]
        cases found with
        | some violation =>
          exact congrArg some (violation.behind_under trail (step before.length))
        | none =>
          have after' : after.Holds (before ++ [some field]) := by
            have holdsAfter := here.scopeAfter (by rw [outcome])
            rwa [outcome] at holdsAfter
          have walked := inductionHypothesis inRest after'
          rw [List.length_append, List.length_singleton] at walked
          exact walked

theorem check_eq (scope : Scope) (field : Field) :
    field.check scope =
      match scope.entryFault? field.control.name with
      | some fault => (scope, some ⟨[], fault⟩)
      | none =>
        (scope.register field.control.name,
          (field.control.facts.fault? !field.children.isEmpty).map (⟨[], ·⟩) <|>
          Outline.checkList .child [] 0 (outlines field.children) <|>
          field.gate.bind
            (checkGate field.control.name (scope.register field.control.name))) := by
  obtain ⟨control, children, gate⟩ := field
  have sameLength : (outlines children).isEmpty = children.isEmpty := by
    rw [outlines_eq_map, List.isEmpty_map]
  cases gate with
  | none =>
    show Outline.check scope (.mk control.facts (outlines children) none) = _
    rw [Outline.check, sameLength]
    rfl
  | some gate =>
    show Outline.check scope (.mk control.facts (outlines children) (some (gateOutline gate))) = _
    rw [Outline.check, sameLength]
    rfl

theorem checkGate_eq (owner : String) (scope : Scope) (gate : Gate Field) :
    checkGate owner scope gate =
      ((scope.conditionFault? owner (.text gate.condition)).map (⟨[], ·⟩) <|>
        Outline.checkList .consequent [] 0 (outlines gate.consequent) <|>
        Outline.checkList .alternative [] 0 (outlines gate.alternative)) := by
  cases gate
  rfl

theorem checks_eq (trail : List Segment) (before : List (Option Field)) (field : Field) :
    field.checks trail before =
      FieldCheck.own.map (.field ⟨trail, before, some field⟩) ++
        listChecks trail .child [] field.children ++
        [.field ⟨trail, before, some field⟩ .condition] ++
        (field.gate.map fun gate =>
          listChecks trail .consequent [] gate.consequent ++
            listChecks trail .alternative [] gate.alternative).getD [] := by
  obtain ⟨control, children, gate⟩ := field
  cases gate <;> rfl

/-- The walk over a gate finds the first violation of its condition and of its two lists, if it
does so in the lists. -/
theorem walkGate {scope : Scope} {trail : List Segment} {before : List (Option Field)}
    {field : Field} (holds : scope.Holds (before ++ [some field]))
    (walkPart : ∀ part ∈ gateParts field.gate, ∀ step : Nat → Segment,
      (Outline.checkList step [] 0 (outlines part)).map (Violation.behind trail) =
        FormCheck.first? form (listChecks trail step [] part)) :
    (field.gate.bind (checkGate field.control.name scope)).map (Violation.behind trail) =
      (FormCheck.first? form [.field ⟨trail, before, some field⟩ .condition] <|>
        FormCheck.first? form ((field.gate.map fun gate =>
          listChecks trail .consequent [] gate.consequent ++
            listChecks trail .alternative [] gate.alternative).getD [])) := by
  have atCondition : FormCheck.first? form [.field ⟨trail, before, some field⟩ .condition] =
      (FieldCheck.condition.fault? before (some field)).map (⟨trail, ·⟩) := by
    rw [← List.map_singleton, FormCheck.first?_map_field, List.findSome?_singleton]
  rw [atCondition]
  cases carries : field.gate with
  | none =>
    simp only [FieldCheck.fault?, FieldCheck.faultOf?, carries]
    rfl
  | some gate =>
    obtain ⟨inConsequent, inAlternative⟩ : gate.consequent ∈ gateParts field.gate ∧
        gate.alternative ∈ gateParts field.gate := by simp [carries, gateParts]
    rw [Option.bind_some, Option.map_some, Option.getD_some, FormCheck.first?_append,
      ← walkPart gate.consequent inConsequent, ← walkPart gate.alternative inAlternative,
      checkGate_eq,
      conditionFault?_eq holds carries]
    cases FieldCheck.condition.fault? before (some field) with
    | some fault => simp [Violation.behind]
    | none =>
      cases Outline.checkList .consequent [] 0 (outlines gate.consequent) <;> rfl

/-- In a scope that holds the names of the earlier siblings the walk finds the first violation of a
field and everything below it. -/
theorem walks (field : Field) : ∀ (scope : Scope) (trail : List Segment)
    (before : List (Option Field)), scope.Holds before →
    field.Walks form scope trail before := by
  induction field using Field.induction with
  | step field inductionHypothesis =>
    intro scope trail before holds
    have walkPart : ∀ part ∈ field.parts, ∀ step : Nat → Segment,
        (Outline.checkList step [] 0 (outlines part)).map (Violation.behind trail) =
          FormCheck.first? form (listChecks trail step [] part) := fun part inside step =>
      walkList (inductionHypothesis part inside) trail step Scope.holds_nil
    have registered := holds.register field
    refine ⟨?_, ?_⟩
    · rw [checks_eq, FormCheck.first?_append, FormCheck.first?_append, FormCheck.first?_append,
        FormCheck.first?_map_field, ownFault?_eq holds, check_eq,
        ← walkPart field.children List.mem_cons_self]
      cases scope.entryFault? field.control.name with
      | some fault => simp [Violation.behind]
      | none =>
        cases field.control.facts.fault? !field.children.isEmpty with
        | some fault => simp [Violation.behind]
        | none =>
          cases Outline.checkList .child [] 0 (outlines field.children) with
          | some violation => rfl
          | none => exact walkGate registered fun part inside =>
              walkPart part (List.mem_cons_of_mem _ inside)
    · intro passed
      cases entered : scope.entryFault? field.control.name with
      | some fault =>
        rw [check_eq, entered] at passed
        cases passed
      | none =>
        rw [check_eq, entered]
        exact registered

end Field

/-! ### Forms -/

theorem Form.methodFault?_eq (form : Form) :
    FormOutline.methodFault? (form.method.getD "") = FormCheck.method.fault? form := by
  cases chosen : form.method with
  | none => simp only [FormCheck.fault?, chosen]; rfl
  | some method =>
    simp only [FormCheck.fault?, chosen, Option.getD_some, Option.bind_some,
      FormOutline.methodFault?]
    cases method.isEmpty <;> cases submitMethods.contains (upperCase method) <;> rfl

/-- The walk over a form reports the violation that the first failing check of the form finds. -/
theorem Form.violation?_eq (form : Form) :
    form.violation? = FormCheck.first? form form.checks := by
  have walked : (Outline.checkList .child [] 0 (Field.outlines form.fields)).map
      (Violation.behind []) =
      FormCheck.first? form (Field.listChecks [] .child [] form.fields) :=
    Field.walkList (fun field _ => field.walks) [] .child Scope.holds_nil
  have sameBehind : Violation.behind [] = id := rfl
  rw [sameBehind, Option.map_id] at walked
  have atForm : FormCheck.first? form form.checks =
      ((FormCheck.fields.fault? form).map (⟨[], ·⟩) <|>
        (FormCheck.method.fault? form).map (⟨[], ·⟩) <|>
        FormCheck.first? form (Field.listChecks [] .child [] form.fields)) := by
    rw [FormCheck.first?, checks, List.findSome?_cons, List.findSome?_cons]
    cases found : FormCheck.fields.fault? form with
    | some fault => simp [FormCheck.violation?, found, FormCheck.trail]
    | none =>
      cases found' : FormCheck.method.fault? form <;>
        simp [FormCheck.violation?, found, found', FormCheck.trail, FormCheck.first?]
  have sameLength : (Field.outlines form.fields).isEmpty = form.fields.isEmpty := by
    rw [Field.outlines_eq_map, List.isEmpty_map]
  rw [atForm, ← walked, ← methodFault?_eq, violation?, FormOutline.violation?, outline,
    sameLength, FormCheck.fault?]
  cases form.fields.isEmpty <;> rfl

theorem Form.complaint?_some (form : Form) :
    complaint? (some form) = form.violation?.map Violation.inForm := rfl

end Formwork
