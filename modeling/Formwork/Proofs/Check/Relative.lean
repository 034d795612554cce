/-
This file proves that complaints are relative to the path under which a field is checked.

The steps that lead to the place of a fault are found without the path, so the path of a
complaint is the given one and behind it a text of steps that is the same under all paths. A walk
that is given the path, and extends it whenever it goes further down, comes to the same complaints.

A fault below a field is found when the walk has come to one of the lists inside of the field,
and from there on the walk does what it does when it begins at that list. Hence the walk over
a form complains about a field inside of it as the check of that field alone does, in the
scope of its earlier siblings and under its full path.
-/

import Formwork.Proofs.Check.Address
import Formwork.Proofs.Check.Scope

namespace Formwork

/-! ### Texts of trails -/

/-- The text of a trail that goes on from a path: each step behind a point. -/
def trailText : List Segment → String
  | [] => ""
  | segment :: rest => "." ++ segment.text ++ trailText rest

theorem pathBelow_eq (base : String) (trail : List Segment) :
    pathBelow base trail = base ++ trailText trail := by
  induction trail generalizing base with
  | nil => exact String.append_empty.symm
  | cons segment rest inductionHypothesis =>
    have step : pathBelow base (segment :: rest) =
        pathBelow (base ++ "." ++ segment.text) rest := rfl
    rw [step, inductionHypothesis, trailText]
    simp only [String.append_assoc]

theorem pathOf_append {trail : List Segment} (begins : trail ≠ []) (rest : List Segment) :
    pathOf (trail ++ rest) = pathBelow (pathOf trail) rest := by
  cases trail with
  | nil => exact absurd rfl begins
  | cons first others => exact List.foldl_append

theorem Complaint.message_eq {complaint : Complaint} (placed : complaint.path ≠ "") :
    complaint.message = complaint.path ++ ": " ++ complaint.fault.text := by
  rw [message, if_neg (mt String.isEmpty_iff.mp placed)]

theorem Violation.inForm_behind {trail : List Segment} (begins : trail ≠ [])
    (violation : Violation) :
    (violation.behind trail).inForm = violation.below (pathOf trail) := by
  rw [inForm, behind, below, pathOf_append begins]

/-! ### A walk that carries its path -/

namespace Outline

mutual

/-- Checks a field and everything below it under a path, with a complaint made where the fault is
found. -/
def complain (path : String) (scope : Scope) : Outline → Scope × Option Complaint
  | .mk facts children gate =>
    match scope.entryFault? facts.name with
    | some fault => (scope, some ⟨path, fault⟩)
    | none =>
      let scope := scope.register facts.name
      (scope,
        (facts.fault? !children.isEmpty).map (⟨path, ·⟩) <|>
        complainList path .child [] 0 children <|>
        (match gate with
          | some gate => complainGate path facts.name scope gate
          | none => none))
termination_by structural field => field

/-- Checks the fields of a list from a position on, inside of a field with a path. -/
def complainList (path : String) (segment : Nat → Segment) (scope : Scope) (position : Nat) :
    List (Option Outline) → Option Complaint
  | [] => none
  | none :: _ => some ⟨path ++ "." ++ (segment position).text, .noField⟩
  | some field :: rest =>
    match complain (path ++ "." ++ (segment position).text) scope field with
    | (_, some complaint) => some complaint
    | (scope, none) => complainList path segment scope (position + 1) rest
termination_by structural fields => fields

/-- Checks the gate of a field with a path, then its two branches. -/
def complainGate (path owner : String) (scope : Scope) : GateOutline Outline → Option Complaint
  | ⟨condition, consequent, alternative⟩ =>
    (scope.conditionFault? owner condition).map (⟨path, ·⟩) <|>
    complainList path .consequent [] 0 consequent <|>
    complainList path .alternative [] 0 alternative
termination_by structural gate => gate

end

theorem map_below_orElse (path : String) (first second : Option Violation) :
    (first <|> second).map (Violation.below path) =
      (first.map (Violation.below path) <|> second.map (Violation.below path)) := by
  cases first <;> rfl

theorem map_below_own (path : String) (fault : Option Fault) :
    (fault.map (⟨[], ·⟩)).map (Violation.below path) = fault.map (⟨path, ·⟩) := by
  cases fault <;> rfl

-- One equation for each function of the walk, by the recursion of both walks over the outline. The
-- scopes agree on the way, so at each field the two walks are at the same point.
mutual

/-- The walk that carries its path along complains as the plain one does, whose violation is put
below the path in the end. -/
theorem complain_eq (path : String) (scope : Scope) : ∀ field : Outline,
    complain path scope field =
      ((check scope field).1, (check scope field).2.map (Violation.below path))
  | .mk facts children gate => by
    rw [complain, check]
    cases scope.entryFault? facts.name with
    | some fault => rfl
    | none =>
      cases gate with
      | none => simp only [map_below_orElse, map_below_own, complainList_eq path, Option.map_none]
      | some gate =>
        simp only [map_below_orElse, map_below_own, complainList_eq path, complainGate_eq path]
termination_by structural field => field

theorem complainList_eq (path : String) (segment : Nat → Segment) (scope : Scope)
    (position : Nat) : ∀ fields : List (Option Outline),
    complainList path segment scope position fields =
      (checkList segment scope position fields).map (Violation.below path)
  | [] => rfl
  | none :: _ => rfl
  | some field :: rest => by
    rw [complainList, checkList, complain_eq]
    cases check scope field with
    | mk after result =>
      cases result with
      | some violation => rfl
      | none => exact complainList_eq path segment after (position + 1) rest
termination_by structural fields => fields

theorem complainGate_eq (path owner : String) (scope : Scope) : ∀ gate : GateOutline Outline,
    complainGate path owner scope gate =
      (checkGate owner scope gate).map (Violation.below path)
  | ⟨condition, consequent, alternative⟩ => by
    rw [complainGate, checkGate]
    simp only [map_below_orElse, map_below_own, complainList_eq path]
termination_by structural gate => gate

end

end Outline

/-! ### Following a violation -/

namespace Field

variable {scope scope' : Scope} {before : List (Option Field)}

/-- A field that is accepted leaves the scope of its next sibling behind. -/
theorem holds_of_accepted (holds : scope.Holds before) {field : Field}
    (accepted : (field.check scope).2 = none) :
    (field.check scope).1.Holds (before ++ [some field]) := by
  -- The scope does not depend on the form that the walk is compared with.
  have walked : field.Walks {} scope [] before := field.walks scope [] before holds
  exact walked.scopeAfter accepted

/-- What the check of an entry finds is the same in all scopes that hold the names of its earlier
siblings. -/
theorem violation_check?_eq (holds : scope.Holds before) (holds' : scope'.Holds before)
    (entry : Option Field) : (check? scope entry).2 = (check? scope' entry).2 := by
  have agree : ∀ name, scope.AgreeOn scope' name :=
    fun name => (holds name).trans (holds' name).symm
  cases entry with
  | none => rfl
  | some field => exact violation_check_congr (agree _) fun _ _ => agree _

/-- Whether the entry at a position of a list has a violation, in a scope that holds the names of
its earlier siblings. -/
def ViolatesAt (siblings : List (Option Field)) (index : Nat) (violation : Violation) : Prop :=
  ∃ entry, ∃ scope : Scope, siblings[index]? = some entry ∧
    scope.Holds (siblings.take index) ∧ (check? scope entry).2 = some violation

/-- A violation of the rest of a list is one of an entry of the list, seen from the list. -/
theorem violatesAt_of_checkList {step : Nat → Segment} {fields : List (Option Field)}
    {violation : Violation} (holds : scope.Holds before)
    (found : Outline.checkList step scope before.length (outlines fields) = some violation) :
    ∃ index rest, violation.trail = step index :: rest ∧
      ViolatesAt (before ++ fields) index ⟨rest, violation.fault⟩ := by
  induction fields generalizing scope before with
  | nil => cases found
  | cons entry rest inductionHypothesis =>
    have here : ∀ inner : Violation, (check? scope entry).2 = some inner →
        ViolatesAt (before ++ entry :: rest) before.length inner := by
      intro inner violates
      refine ⟨entry, scope, ?_, ?_, violates⟩
      · rw [List.getElem?_append_right (Nat.le_refl _), Nat.sub_self, List.getElem?_cons_zero]
      · rwa [List.take_left]
    cases entry with
    | none =>
      obtain rfl := Option.some.inj found
      exact ⟨before.length, [], rfl, here _ rfl⟩
    | some field =>
      rw [outlines, Outline.checkList] at found
      cases outcome : field.check scope with
      | mk after result =>
        have opened : field.outline.check scope = (after, result) := outcome
        rw [opened] at found
        cases result with
        | some inner =>
          obtain rfl := Option.some.inj found
          exact ⟨before.length, inner.trail, rfl, here inner (congrArg Prod.snd outcome)⟩
        | none =>
          have next := holds_of_accepted holds (congrArg Prod.snd outcome)
          rw [outcome] at next
          have further : Outline.checkList step after (before ++ [some field]).length
              (outlines rest) = some violation := by
            rw [List.length_append, List.length_singleton]
            exact found
          have inRest := inductionHypothesis next further
          rwa [List.append_assoc, List.singleton_append] at inRest

/-- A violation of a gate that is not at its condition is one of an entry of its two lists. -/
theorem violatesAt_of_checkGate {owner : String} {gate : Gate Field} {segment : Segment}
    {rest : List Segment} {fault : Fault}
    (found : checkGate owner scope gate = some ⟨segment :: rest, fault⟩) :
    ∃ index, (segment = .consequent index ∧ ViolatesAt gate.consequent index ⟨rest, fault⟩) ∨
      (segment = .alternative index ∧ ViolatesAt gate.alternative index ⟨rest, fault⟩) := by
  rw [checkGate_eq] at found
  cases condition : scope.conditionFault? owner (.text gate.condition) with
  | some other => simp [condition] at found
  | none =>
    rw [condition] at found
    cases consequent : Outline.checkList .consequent [] 0 (outlines gate.consequent) with
    | some violation =>
      rw [consequent] at found
      obtain ⟨index, _, same, violates⟩ :=
        violatesAt_of_checkList Scope.holds_nil (consequent.trans found)
      obtain ⟨rfl, rfl⟩ := List.cons.inj same
      exact ⟨index, Or.inl ⟨rfl, violates⟩⟩
    | none =>
      rw [consequent] at found
      obtain ⟨index, _, same, violates⟩ := violatesAt_of_checkList Scope.holds_nil found
      obtain ⟨rfl, rfl⟩ := List.cons.inj same
      exact ⟨index, Or.inr ⟨rfl, violates⟩⟩

/-- A violation of a field that is not at the field itself is one of an entry of the list inside of
it that its first step leads into. -/
theorem violatesAt_of_check {field : Field} {segment : Segment} {rest : List Segment}
    {fault : Fault} (found : (field.check scope).2 = some ⟨segment :: rest, fault⟩) :
    ViolatesAt (field.inside segment) segment.position ⟨rest, fault⟩ := by
  rw [check_eq] at found
  cases entered : scope.entryFault? field.control.name with
  | some other => simp [entered] at found
  | none =>
    simp only [entered] at found
    cases own : field.control.facts.fault? !field.children.isEmpty with
    | some other => simp [own] at found
    | none =>
      rw [own] at found
      cases children : Outline.checkList .child [] 0 (outlines field.children) with
      | some violation =>
        rw [children] at found
        obtain ⟨index, _, same, violates⟩ :=
          violatesAt_of_checkList Scope.holds_nil (children.trans found)
        obtain ⟨rfl, rfl⟩ := List.cons.inj same
        exact violates
      | none =>
        rw [children] at found
        obtain ⟨gate, carries, found⟩ := Option.bind_eq_some_iff.mp found
        obtain ⟨index, ⟨rfl, violates⟩ | ⟨rfl, violates⟩⟩ := violatesAt_of_checkGate found
        · rw [inside, carries]
          exact violates
        · rw [inside, carries]
          exact violates

/-- A violation at or below the end of a trail is found by a check of the entry that the trail leads
to. -/
theorem exists_follow?_of_check? {fault : Fault} {rest : List Segment} (trail : List Segment) :
    ∀ (before : List (Option Field)) {entry : Option Field} {scope : Scope},
      (check? scope entry).2 = some ⟨trail ++ rest, fault⟩ →
      ∃ before' entry', ∃ scope' : Scope, follow? before entry trail = some (before', entry') ∧
        (scope.Holds before → scope'.Holds before') ∧
        (check? scope' entry').2 = some ⟨rest, fault⟩ := by
  induction trail with
  | nil => exact fun _ _ _ found => ⟨_, _, _, rfl, id, found⟩
  | cons segment trail inductionHypothesis =>
    intro before entry scope found
    cases entry with
    | none => simp [check?] at found
    | some field =>
      obtain ⟨next, _, stands, holds, found⟩ := violatesAt_of_check found
      obtain ⟨before', entry', scope', leads, holds', found⟩ := inductionHypothesis _ found
      refine ⟨before', entry', scope', ?_, fun _ => holds' holds, found⟩
      rw [follow?, Option.bind_some, stands, Option.bind_some]
      exact leads

end Field

namespace Form

variable {form : Form}

/-- A violation of a form that is not about the form itself is one of an entry of its fields. -/
theorem violatesAt_of_violation? {violation : Violation}
    (found : form.violation? = some violation) :
    violation.trail = [] ∨ ∃ index rest, violation.trail = .child index :: rest ∧
      Field.ViolatesAt form.fields index ⟨rest, violation.fault⟩ := by
  rw [violation?, FormOutline.violation?] at found
  split at found
  · obtain rfl := Option.some.inj found
    exact Or.inl rfl
  · cases method : FormOutline.methodFault? form.outline.method with
    | some fault =>
      rw [method] at found
      obtain rfl := Option.some.inj found
      exact Or.inl rfl
    | none =>
      rw [method] at found
      exact Or.inr (Field.violatesAt_of_checkList Scope.holds_nil found)

theorem readPath?_of_violation? {violation : Violation} (found : form.violation? = some violation) :
    readPath? (pathOf violation.trail) = some violation.trail := by
  refine readPath?_pathOf fun segment first => ?_
  obtain empty | ⟨index, rest, trail, _⟩ := violatesAt_of_violation? found
  · rw [empty] at first
    cases first
  · rw [trail] at first
    exact ⟨index, (Option.some.inj first).symm⟩

/-- A violation of a form at or below the end of a trail is found by the check of the entry that the
trail leads to, alone and in a scope that holds the names of its earlier siblings. -/
theorem check?_of_violation? {trail rest : List Segment} {fault : Fault}
    {before : List (Option Field)} {entry : Option Field}
    (leads : form.follow? trail = some (before, entry))
    (found : form.violation? = some ⟨trail ++ rest, fault⟩) {scope : Scope}
    (holds : scope.Holds before) : (Field.check? scope entry).2 = some ⟨rest, fault⟩ := by
  obtain ⟨position, steps, rfl⟩ := head?_of_follow? leads
  obtain empty | ⟨index, _, same, first, scope', stands, holds', violates⟩ :=
    violatesAt_of_violation? found
  · cases empty
  obtain ⟨firstStep, rfl⟩ := List.cons.inj same
  obtain rfl := Segment.child.inj firstStep
  obtain ⟨before', entry', scope'', leads', holds'', found'⟩ :=
    Field.exists_follow?_of_check? steps _ violates
  have reached : some (before, entry) = some (before', entry') := by
    rw [← leads, ← leads', follow?, stands, Option.bind_some]
  obtain ⟨rfl, rfl⟩ := Prod.mk.inj (Option.some.inj reached)
  rw [← found']
  exact Field.violation_check?_eq holds (holds'' holds') entry

end Form

/-! ### The checks of an entry -/

namespace Field

/-- The checks of an entry of a list stand together among those of the list. -/
theorem entryChecks_infix_listChecks (trail : List Segment) (step : Nat → Segment)
    (before : List (Option Field)) {fields : List (Option Field)} {index : Nat}
    {entry : Option Field} (stands : fields[index]? = some entry) :
    entryChecks (trail ++ [step (before.length + index)]) (before ++ fields.take index) entry <:+:
      listChecks trail step before fields := by
  induction fields generalizing before index with
  | nil => cases stands
  | cons first rest inductionHypothesis =>
    rw [listChecks_cons]
    cases index with
    | zero =>
      obtain rfl := Option.some.inj stands
      rw [Nat.add_zero, List.take_zero, List.append_nil]
      exact List.infix_append_left
    | succ index =>
      have inRest := inductionHypothesis (before ++ [first]) stands
      rw [List.length_append, List.length_singleton, List.append_assoc, Nat.add_right_comm,
        Nat.add_assoc] at inRest
      exact inRest.trans List.infix_append_right

/-- The checks of an entry inside of a field stand together among those of the field. -/
theorem entryChecks_infix_checks (trail : List Segment) (before : List (Option Field))
    {field : Field} {segment : Segment} {entry : Option Field}
    (stands : (field.inside segment)[segment.position]? = some entry) :
    entryChecks (trail ++ [segment]) ((field.inside segment).take segment.position) entry <:+:
      field.checks trail before := by
  have inList : ∀ step : Nat → Segment, step segment.position = segment →
      entryChecks (trail ++ [segment]) ((field.inside segment).take segment.position) entry <:+:
        listChecks trail step [] (field.inside segment) := by
    intro step same
    have among := entryChecks_infix_listChecks trail step [] stands
    rwa [List.length_nil, Nat.zero_add, List.nil_append, same] at among
  rw [checks_eq_inside]
  cases segment with
  | child index =>
    exact ((inList .child rfl).trans (List.infix_append _ _ _)).trans List.infix_append_left
  | consequent index =>
    exact ((inList .consequent rfl).trans List.infix_append_left).trans List.infix_append_right
  | alternative index =>
    exact ((inList .alternative rfl).trans List.infix_append_right).trans List.infix_append_right

theorem entryChecks_infix_of_follow? {rest : List Segment} {before before' : List (Option Field)}
    {entry entry' : Option Field} (trail : List Segment)
    (leads : follow? before entry rest = some (before', entry')) :
    entryChecks (trail ++ rest) before' entry' <:+: entryChecks trail before entry := by
  induction rest generalizing trail before entry with
  | nil =>
    obtain ⟨rfl, rfl⟩ := Prod.mk.inj (Option.some.inj leads)
    exact (List.append_nil trail).symm ▸ List.infix_rfl
  | cons segment rest inductionHypothesis =>
    obtain ⟨field, rfl, follows⟩ := Option.bind_eq_some_iff.mp leads
    obtain ⟨next, stands, follows⟩ := Option.bind_eq_some_iff.mp follows
    have deeper := inductionHypothesis (trail ++ [segment]) follows
    rw [List.append_assoc, List.singleton_append] at deeper
    exact deeper.trans (entryChecks_infix_checks trail before stands)

/-- What the check of an entry finds is what the first failing of all its checks finds. -/
theorem violation_check?_behind {form : Form} {scope : Scope} {before : List (Option Field)}
    (holds : scope.Holds before) (trail : List Segment) (entry : Option Field) :
    (check? scope entry).2.map (Violation.behind trail) =
      FormCheck.first? form (entryChecks trail before entry) := by
  cases entry with
  | none =>
    have same : (⟨[], .noField⟩ : Violation).behind trail = ⟨trail, .noField⟩ := by
      rw [Violation.behind, List.append_nil]
    exact congrArg some same
  | some field => exact (field.walks scope trail before holds).found

end Field

/-- The checks of an entry that a trail leads to stand together among those of the form. -/
theorem Form.entryChecks_infix {form : Form} {trail : List Segment} {before : List (Option Field)}
    {entry : Option Field} (leads : form.follow? trail = some (before, entry)) :
    Field.entryChecks trail before entry <:+: form.checks := by
  obtain ⟨position, rest, rfl⟩ := head?_of_follow? leads
  obtain ⟨first, stands, follows⟩ := Option.bind_eq_some_iff.mp leads
  have inFirst := Field.entryChecks_infix_of_follow? [.child position] follows
  have inList := Field.entryChecks_infix_listChecks [] .child [] stands
  rw [List.length_nil, Nat.zero_add, List.nil_append, List.nil_append] at inList
  exact (inFirst.trans inList).trans (List.infix_cons (List.infix_cons List.infix_rfl))

/-! ### Complaints under a path -/

namespace Field

/-- The complaint about an entry that is checked alone, under a path. -/
def complaintAt? (path : String) (scope : Scope) (entry : Option Field) : Option Complaint :=
  (check? scope entry).2.map (Violation.below path)

/-- Checks an entry under a path, with a complaint made where the fault is found. -/
def complain? (path : String) (scope : Scope) : Option Field → Scope × Option Complaint
  | some field => field.outline.complain path scope
  | none => (scope, some ⟨path, .noField⟩)

theorem complain?_eq (path : String) (scope : Scope) (entry : Option Field) :
    complain? path scope entry = ((check? scope entry).1, complaintAt? path scope entry) := by
  cases entry with
  | none => rfl
  | some field => exact field.outline.complain_eq path scope

theorem complaintAt?_eq_none {scope : Scope} {entry : Option Field}
    (accepted : (check? scope entry).2 = none) (path : String) :
    complaintAt? path scope entry = none := by
  rw [complaintAt?, accepted, Option.map_none]

theorem complaintAt?_eq_some {scope : Scope} {entry : Option Field} {trail : List Segment}
    {fault : Fault} (found : (check? scope entry).2 = some ⟨trail, fault⟩) (path : String) :
    complaintAt? path scope entry = some ⟨path ++ trailText trail, fault⟩ := by
  rw [complaintAt?, found, Option.map_some, Violation.below, pathBelow_eq]

/-- A complaint about a form under the path of an entry, or under that path and further steps, is
the complaint about the entry alone. -/
theorem complaintAt?_of_complaint? {form : Form} {trail rest : List Segment}
    {before : List (Option Field)} {entry : Option Field} {scope : Scope} {complaint : Complaint}
    (leads : form.follow? trail = some (before, entry)) (holds : scope.Holds before)
    (rejected : Form.complaint? (some form) = some complaint)
    (path : complaint.path = pathOf trail ++ trailText rest) :
    complaintAt? (pathOf trail) scope entry = some complaint := by
  obtain ⟨position, steps, begins⟩ := Form.head?_of_follow? leads
  have nonempty : trail ≠ [] := begins ▸ List.cons_ne_nil _ _
  rw [Form.complaint?_some] at rejected
  obtain ⟨⟨reported, fault⟩, found, rfl⟩ := Option.map_eq_some_iff.mp rejected
  have samePath : pathOf reported = pathOf (trail ++ rest) := by
    rw [pathOf_append nonempty, pathBelow_eq]
    exact path
  have read := Form.readPath?_of_violation? found
  rw [samePath, readPath?_pathOf] at read
  · obtain rfl : trail ++ rest = reported := Option.some.inj read
    rw [complaintAt?_eq_some (Form.check?_of_violation? leads found holds), ← path]
    rfl
  · rw [begins]
    exact fun segment first => ⟨position, (Option.some.inj first).symm⟩

/-- The complaint about an entry alone is the one about the form if the checks before those of the
entry pass. -/
theorem complaint?_of_complaintAt? {form : Form} {trail : List Segment}
    {before : List (Option Field)} {entry : Option Field} {scope : Scope} {complaint : Complaint}
    (leads : form.follow? trail = some (before, entry)) (holds : scope.Holds before)
    (found : complaintAt? (pathOf trail) scope entry = some complaint)
    {earlier later : List FormCheck}
    (split : form.checks = earlier ++ entryChecks trail before entry ++ later)
    (passed : ∀ check ∈ earlier, check.fault? form = none) :
    Form.complaint? (some form) = some complaint := by
  obtain ⟨position, steps, begins⟩ := Form.head?_of_follow? leads
  have nonempty : trail ≠ [] := begins ▸ List.cons_ne_nil _ _
  obtain ⟨violation, violates, rfl⟩ := Option.map_eq_some_iff.mp found
  have nothing : FormCheck.first? form earlier = none :=
    List.findSome?_eq_none_iff.mpr fun check member =>
      Option.map_eq_none_iff.mpr (passed check member)
  have here : FormCheck.first? form (entryChecks trail before entry) =
      some (violation.behind trail) := by
    rw [← violation_check?_behind holds trail entry, violates, Option.map_some]
  have first : form.violation? = some (violation.behind trail) := by
    rw [Form.violation?_eq, split, FormCheck.first?_append, FormCheck.first?_append, nothing, here]
    rfl
  rw [Form.complaint?_some, first, Option.map_some, Violation.inForm_behind nonempty]

/-- The complaint about an entry that is checked alone is relative to the path: there is none under
any path, or there is one under each path, with the same fault and with the path followed by the
text of one trail. The trail leads from the entry to an entry inside of it. A walk that carries the
path along, and makes the complaint where the fault is found, ends with the same scope and the same
complaint.

Where the entry stands in a form, a complaint about the form under the full path of the entry, or
under that path and further steps, is the one about the entry alone, in a scope that holds the
names of its earlier siblings. The other way around, the complaint about the entry alone is the
one about the form if all checks before those of the entry pass. -/
theorem complaintAt?_relative (entry : Option Field) (scope : Scope) :
    (∀ path, complain? path scope entry = ((check? scope entry).1, complaintAt? path scope entry)) ∧
    ((∀ path, complaintAt? path scope entry = none) ∨
      ∃ trail fault, (follow? [] entry trail).isSome ∧
        ∀ path ≠ "",
          complaintAt? path scope entry = some ⟨path ++ trailText trail, fault⟩ ∧
            (⟨path ++ trailText trail, fault⟩ : Complaint).message =
              path ++ trailText trail ++ ": " ++ fault.text) ∧
    ∀ (form : Form) (trail : List Segment) (before : List (Option Field)),
      form.follow? trail = some (before, entry) → scope.Holds before →
        (∀ complaint rest, Form.complaint? (some form) = some complaint →
          complaint.path = pathOf trail ++ trailText rest →
          complaintAt? (pathOf trail) scope entry = some complaint) ∧
        entryChecks trail before entry <:+: form.checks ∧
        ∀ earlier later complaint,
          form.checks = earlier ++ entryChecks trail before entry ++ later →
          (∀ check ∈ earlier, check.fault? form = none) →
          complaintAt? (pathOf trail) scope entry = some complaint →
          Form.complaint? (some form) = some complaint := by
  refine ⟨fun path => complain?_eq path scope entry, ?_,
    fun form trail before leads holds => ⟨?_, Form.entryChecks_infix leads, ?_⟩⟩
  · cases found : (check? scope entry).2 with
    | none => exact Or.inl (complaintAt?_eq_none found)
    | some violation =>
      obtain ⟨trail, fault⟩ := violation
      have reached : (check? scope entry).2 = some ⟨trail ++ [], fault⟩ := by
        rw [List.append_nil, found]
      obtain ⟨_, _, _, leads, _⟩ := exists_follow?_of_check? trail [] reached
      refine Or.inr ⟨trail, fault, Option.isSome_of_eq_some leads, fun path placed => ?_⟩
      have notEmpty : path ++ trailText trail ≠ "" := fun empty =>
        placed (String.append_eq_empty_iff.mp empty).1
      exact ⟨complaintAt?_eq_some found path, Complaint.message_eq notEmpty⟩
  · exact fun complaint rest rejected path => complaintAt?_of_complaint? leads holds rejected path
  · exact fun earlier later complaint split passed found =>
      complaint?_of_complaintAt? leads holds found split passed

/-- A field without any fields inside of it. -/
def giftChoice : Field := .mk { name := "gift", kind := "checkbox" } [] none

/-- A form in which a name is repeated inside of the second field. -/
def wrappedForm : Form where
  fields := [some giftChoice, some wrappingField]

theorem complaintAt?_relative_wrappingField :
    complain? "card" ["gift"] (some wrappingField) =
        (["wrapping", "gift"], some ⟨"card.conditional.then[1]", .duplicateName "paper"⟩) ∧
      Form.complaint? (some wrappedForm) =
        some ⟨"fields[1].conditional.then[1]", .duplicateName "paper"⟩ := by
  obtain ⟨carried, relative, inForm⟩ := complaintAt?_relative (some wrappingField) ["gift"]
  obtain ⟨inside, _, outside⟩ := inForm wrappedForm [.child 1] _ rfl fun _ => Iff.rfl
  have alone : complaintAt? "fields[1]" ["gift"] (some wrappingField) =
      some ⟨"fields[1].conditional.then[1]", .duplicateName "paper"⟩ :=
    inside _ [.consequent 1] (by decide +kernel) (by decide +kernel)
  refine ⟨?_, outside (.fields :: .method :: giftChoice.checks [.child 0] []) [] _ rfl
    (by decide +kernel) alone⟩
  obtain accepted | ⟨trail, fault, _, under⟩ := relative
  · exact absurd (alone.symm.trans (accepted _)) (Option.some_ne_none _)
  · obtain ⟨found, _⟩ := under "fields[1]" (by decide)
    obtain ⟨path, same⟩ := Complaint.mk.inj (Option.some.inj (alone.symm.trans found))
    have steps : trailText trail = ".conditional.then[1]" :=
      (String.append_right_inj "fields[1]").mp path.symm
    rw [carried, (under "card" (by decide)).1, steps, ← same]
    decide +kernel

end Field

end Formwork
