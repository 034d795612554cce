/-
This file proves that a rejected form is reported with its first failing check and the
address of the field that fails it.

A trail is followed from list to list, and leads to one entry and the entries before
it. The checks of a form are exactly all checks at all places that trails lead to, so
the path of a complaint, read back and followed, leads to the field that is meant.
-/

import Formwork.Proofs.Check.Order

namespace Formwork

/-! ### Following trails -/

namespace Field

/-- The list of fields that a step leads into. -/
def inside (field : Field) : Segment → List (Option Field)
  | .child _ => field.children
  | .consequent _ => (field.gate.map (·.consequent)).getD []
  | .alternative _ => (field.gate.map (·.alternative)).getD []

theorem inside_mem_parts {field : Field} {segment : Segment} {entry : Option Field}
    (member : entry ∈ field.inside segment) : field.inside segment ∈ field.parts := by
  cases segment with
  | child position => exact List.mem_cons_self
  | consequent position =>
    cases carries : field.gate <;> simp_all [inside, parts, gateParts]
  | alternative position =>
    cases carries : field.gate <;> simp_all [inside, parts, gateParts]

/-- The entry that a trail leads to from an entry, with the entries before it. -/
def follow? (before : List (Option Field)) (entry : Option Field) :
    List Segment → Option (List (Option Field) × Option Field)
  | [] => some (before, entry)
  | segment :: rest =>
    entry.bind fun field =>
      (field.inside segment)[segment.position]?.bind fun next =>
        follow? ((field.inside segment).take segment.position) next rest

end Field

/-- The entry that a trail leads to from a form, with the entries before it. -/
def Form.follow? (form : Form) : List Segment → Option (List (Option Field) × Option Field)
  | .child position :: rest =>
    form.fields[position]?.bind fun entry =>
      Field.follow? (form.fields.take position) entry rest
  | _ => none

theorem Field.follow?_append (before : List (Option Field)) (entry : Option Field)
    (trail rest : List Segment) :
    follow? before entry (trail ++ rest) =
      (follow? before entry trail).bind fun reached => follow? reached.1 reached.2 rest := by
  induction trail generalizing before entry with
  | nil => rfl
  | cons segment trail inductionHypothesis =>
    simp only [List.cons_append, follow?, inductionHypothesis, Option.bind_assoc]

theorem Form.head?_of_follow? {form : Form} {trail : List Segment}
    {reached : List (Option Field) × Option Field} (leads : form.follow? trail = some reached) :
    ∃ position rest, trail = .child position :: rest := by
  cases trail with
  | nil => cases leads
  | cons segment rest =>
    cases segment with
    | child position => exact ⟨position, rest, rfl⟩
    | consequent position => cases leads
    | alternative position => cases leads

/-- From a field that a trail leads to, one step more leads to each entry of each of its lists. -/
theorem Form.exists_follow?_of_mem_parts {form : Form} {trail : List Segment}
    {before part : List (Option Field)} {field child : Field}
    (leads : form.follow? trail = some (before, some field)) (inside : part ∈ field.parts)
    (member : some child ∈ part) :
    ∃ trail' before', form.follow? trail' = some (before', some child) := by
  obtain ⟨index, found⟩ := List.mem_iff_getElem?.mp member
  obtain ⟨segment, rfl, rfl⟩ : ∃ segment : Segment,
      segment.position = index ∧ field.inside segment = part := by
    rcases List.mem_cons.mp inside with rfl | inGate
    · exact ⟨.child index, rfl, rfl⟩
    · cases carries : field.gate with
      | none =>
        rw [carries] at inGate
        cases inGate
      | some gate =>
        rw [carries] at inGate
        rcases List.mem_cons.mp inGate with rfl | inGate
        · exact ⟨.consequent index, rfl, by rw [Field.inside, carries]; rfl⟩
        · obtain rfl := List.mem_singleton.mp inGate
          exact ⟨.alternative index, rfl, by rw [Field.inside, carries]; rfl⟩
  obtain ⟨position, rest, rfl⟩ := head?_of_follow? leads
  obtain ⟨entry, top, follows⟩ := Option.bind_eq_some_iff.mp leads
  refine ⟨.child position :: (rest ++ [segment]),
    (field.inside segment).take segment.position, ?_⟩
  rw [follow?, top, Option.bind_some, Field.follow?_append, follows, Option.bind_some,
    Field.follow?, Option.bind_some, found]
  rfl

/-- A trail leads to every field of a form. -/
theorem Form.exists_follow?_of_has {form : Form} {field : Field} (has : form.Has field) :
    ∃ trail before, form.follow? trail = some (before, some field) := by
  obtain ⟨siblings, below, member⟩ := has
  induction below generalizing field with
  | self =>
    obtain ⟨index, found⟩ := List.mem_iff_getElem?.mp member
    refine ⟨[.child index], form.fields.take index, ?_⟩
    rw [follow?, found]
    rfl
  | part _ among inside inductionHypothesis =>
    obtain ⟨trail, before, leads⟩ := inductionHypothesis among
    exact exists_follow?_of_mem_parts leads inside member

/-! ### The checks below a field -/

namespace Field

/-- All checks of an entry behind the given siblings. -/
def entryChecks (trail : List Segment) (before : List (Option Field)) :
    Option Field → List FormCheck
  | some field => field.checks trail before
  | none => [.field ⟨trail, before, none⟩ .presence]

theorem listChecks_cons (trail : List Segment) (step : Nat → Segment)
    (before : List (Option Field)) (entry : Option Field) (rest : List (Option Field)) :
    listChecks trail step before (entry :: rest) =
      entryChecks (trail ++ [step before.length]) before entry ++
        listChecks trail step (before ++ [entry]) rest := by
  cases entry <;> rfl

theorem mem_listChecks {trail : List Segment} {step : Nat → Segment}
    {before fields : List (Option Field)} {check : FormCheck} :
    check ∈ listChecks trail step before fields ↔
      ∃ index entry, fields[index]? = some entry ∧
        check ∈ entryChecks (trail ++ [step (before.length + index)])
          (before ++ fields.take index) entry := by
  induction fields generalizing before with
  | nil => simp [listChecks]
  | cons first rest inductionHypothesis =>
    rw [listChecks_cons, List.mem_append, inductionHypothesis]
    constructor
    · rintro (here | ⟨index, entry, found, deeper⟩)
      · exact ⟨0, first, rfl, by simpa using here⟩
      · refine ⟨index + 1, entry, found, ?_⟩
        simpa [Nat.add_assoc, Nat.add_comm 1] using deeper
    · rintro ⟨index, entry, found, deeper⟩
      cases index with
      | zero =>
        obtain rfl : first = entry := Option.some.inj found
        exact Or.inl (by simpa using deeper)
      | succ index =>
        refine Or.inr ⟨index, entry, found, ?_⟩
        simpa [Nat.add_assoc, Nat.add_comm 1] using deeper

/-- The checks of a list of siblings, each with the step that leads to the entry checked. -/
theorem mem_listChecks_nil {trail : List Segment} {step : Nat → Segment}
    (counts : ∀ index, (step index).position = index) {fields : List (Option Field)}
    {check : FormCheck} :
    check ∈ listChecks trail step [] fields ↔
      ∃ index entry, fields[(step index).position]? = some entry ∧
        check ∈ entryChecks (trail ++ [step index])
          (fields.take (step index).position) entry := by
  simp only [mem_listChecks, counts, List.length_nil, Nat.zero_add, List.nil_append]

theorem mem_own_or (check : FieldCheck) : check ∈ FieldCheck.own ∨ check = .condition := by
  cases check <;> decide

/-- The checks of a field by the lists that steps lead into. -/
theorem checks_eq_inside (trail : List Segment) (before : List (Option Field)) (field : Field) :
    field.checks trail before =
      FieldCheck.own.map (.field ⟨trail, before, some field⟩) ++
        listChecks trail .child [] (field.inside (.child 0)) ++
        [.field ⟨trail, before, some field⟩ .condition] ++
        (listChecks trail .consequent [] (field.inside (.consequent 0)) ++
          listChecks trail .alternative [] (field.inside (.alternative 0))) := by
  rw [checks_eq]
  cases carries : field.gate <;> simp [inside, carries, listChecks]

theorem mem_checks {trail : List Segment} {before : List (Option Field)} {field : Field}
    {check : FormCheck} :
    check ∈ field.checks trail before ↔
      (∃ fieldCheck, check = .field ⟨trail, before, some field⟩ fieldCheck) ∨
        ∃ segment entry, (field.inside segment)[segment.position]? = some entry ∧
          check ∈ entryChecks (trail ++ [segment])
            ((field.inside segment).take segment.position) entry := by
  rw [checks_eq_inside, List.mem_append, List.mem_append, List.mem_append, List.mem_append,
    mem_listChecks_nil (fun _ => rfl), mem_listChecks_nil (fun _ => rfl),
    mem_listChecks_nil (fun _ => rfl)]
  constructor
  · rintro (((own | ⟨index, found⟩) | condition) | ⟨index, found⟩ | ⟨index, found⟩)
    · obtain ⟨fieldCheck, _, rfl⟩ := List.mem_map.mp own
      exact Or.inl ⟨fieldCheck, rfl⟩
    · exact Or.inr ⟨.child index, found⟩
    · exact Or.inl ⟨.condition, List.mem_singleton.mp condition⟩
    · exact Or.inr ⟨.consequent index, found⟩
    · exact Or.inr ⟨.alternative index, found⟩
  · rintro (⟨fieldCheck, rfl⟩ | ⟨segment, found⟩)
    · rcases mem_own_or fieldCheck with own | rfl
      · exact Or.inl (Or.inl (Or.inl (List.mem_map.mpr ⟨fieldCheck, own, rfl⟩)))
      · exact Or.inl (Or.inr (List.mem_singleton.mpr rfl))
    · cases segment with
      | child index => exact Or.inl (Or.inl (Or.inr ⟨index, found⟩))
      | consequent index => exact Or.inr (Or.inl ⟨index, found⟩)
      | alternative index => exact Or.inr (Or.inr ⟨index, found⟩)

/-- Whether a trail leads from an entry to the place of a check, and the check is made there. -/
structure Leads (trail : List Segment) (before : List (Option Field)) (entry : Option Field)
    (place : Place) (check : FieldCheck) (rest : List Segment) : Prop where
  trail_eq : place.trail = trail ++ rest
  follows : follow? before entry rest = some (place.before, place.entry)
  applies : place.entry = none → check = .presence

theorem mem_entryChecks_none {trail : List Segment} {before : List (Option Field)}
    {place : Place} {check : FieldCheck} :
    .field place check ∈ entryChecks trail before none ↔
      ∃ rest, Leads trail before none place check rest := by
  constructor
  · intro member
    obtain ⟨rfl, rfl⟩ := FormCheck.field.inj (List.mem_singleton.mp member)
    exact ⟨[], ⟨(List.append_nil _).symm, rfl, fun _ => rfl⟩⟩
  · rintro ⟨rest, trail_eq, follows, applies⟩
    obtain ⟨placeTrail, placeBefore, placeEntry⟩ := place
    cases rest with
    | nil =>
      obtain ⟨rfl, rfl⟩ := Prod.mk.inj (Option.some.inj follows)
      obtain rfl : check = .presence := applies rfl
      obtain rfl : placeTrail = trail := trail_eq.trans (List.append_nil _)
      exact List.mem_singleton.mpr rfl
    | cons segment rest => cases follows

/-- The checks of a field are all checks at the places that trails lead to from it. -/
theorem mem_checks_iff (field : Field) : ∀ (trail : List Segment)
    (before : List (Option Field)) (place : Place) (check : FieldCheck),
    .field place check ∈ field.checks trail before ↔
      ∃ rest, Leads trail before (some field) place check rest := by
  induction field using Field.induction with
  | step field inductionHypothesis =>
    intro trail before place check
    have deeper : ∀ segment entry, (field.inside segment)[segment.position]? = some entry →
        (.field place check ∈ entryChecks (trail ++ [segment])
            ((field.inside segment).take segment.position) entry ↔
          ∃ rest, Leads (trail ++ [segment]) ((field.inside segment).take segment.position)
            entry place check rest) := by
      intro segment entry found
      cases entry with
      | none => exact mem_entryChecks_none
      | some child =>
        have member : some child ∈ field.inside segment := List.mem_of_getElem? found
        exact inductionHypothesis _ (inside_mem_parts member) child member _ _ place check
    rw [mem_checks]
    constructor
    · rintro (⟨fieldCheck, same⟩ | ⟨segment, entry, found, below⟩)
      · obtain ⟨rfl, rfl⟩ := FormCheck.field.inj same
        exact ⟨[], ⟨(List.append_nil _).symm, rfl, fun missing => by cases missing⟩⟩
      · obtain ⟨rest, trail_eq, follows, applies⟩ := (deeper segment entry found).mp below
        refine ⟨segment :: rest, ⟨?_, ?_, applies⟩⟩
        · rw [trail_eq, List.append_assoc, List.singleton_append]
        · rw [follow?, Option.bind_some, found, Option.bind_some, follows]
    · rintro ⟨rest, trail_eq, follows, applies⟩
      cases rest with
      | nil =>
        obtain ⟨placeTrail, placeBefore, placeEntry⟩ := place
        obtain ⟨rfl, rfl⟩ := Prod.mk.inj (Option.some.inj follows)
        obtain rfl : placeTrail = trail := trail_eq.trans (List.append_nil _)
        exact Or.inl ⟨check, rfl⟩
      | cons segment rest =>
        rw [follow?, Option.bind_some] at follows
        obtain ⟨entry, found, follows⟩ := Option.bind_eq_some_iff.mp follows
        refine Or.inr ⟨segment, entry, found, (deeper segment entry found).mpr ⟨rest, ?_⟩⟩
        refine ⟨?_, follows, applies⟩
        rw [trail_eq, List.append_assoc, List.singleton_append]

theorem mem_entryChecks_iff {trail : List Segment} {before : List (Option Field)}
    {entry : Option Field} {place : Place} {check : FieldCheck} :
    .field place check ∈ entryChecks trail before entry ↔
      ∃ rest, Leads trail before entry place check rest := by
  cases entry with
  | none => exact mem_entryChecks_none
  | some field => exact field.mem_checks_iff trail before place check

end Field

/-! ### The checks of a form -/

namespace Form

/-- The checks at places are all checks at the places that trails lead to; where no field is, only
its presence is checked. -/
theorem field_mem_checks_iff {form : Form} {place : Place} {check : FieldCheck} :
    .field place check ∈ form.checks ↔
      form.follow? place.trail = some (place.before, place.entry) ∧
        (place.entry = none → check = .presence) := by
  have inList : .field place check ∈ form.checks ↔
      .field place check ∈ Field.listChecks [] .child [] form.fields := by simp [checks]
  rw [inList, Field.mem_listChecks_nil fun _ => rfl]
  constructor
  · rintro ⟨index, entry, found, member⟩
    obtain ⟨rest, trail_eq, follows, applies⟩ := Field.mem_entryChecks_iff.mp member
    refine ⟨?_, applies⟩
    have found' : form.fields[index]? = some entry := found
    rw [trail_eq, List.nil_append, List.singleton_append, follow?, found', Option.bind_some]
    exact follows
  · rintro ⟨leads, applies⟩
    obtain ⟨index, rest, trail_eq⟩ := head?_of_follow? leads
    rw [trail_eq, follow?] at leads
    obtain ⟨entry, found, follows⟩ := Option.bind_eq_some_iff.mp leads
    exact ⟨index, entry, found, Field.mem_entryChecks_iff.mpr ⟨rest, trail_eq, follows, applies⟩⟩

theorem readPath?_of_follow? {form : Form} {trail : List Segment}
    (leads : (form.follow? trail).isSome) : readPath? (pathOf trail) = some trail := by
  obtain ⟨position, rest, rfl⟩ := head?_of_follow? (Option.some_get leads).symm
  exact readPath?_pathOf fun segment first => ⟨position, (Option.some.inj first).symm⟩

/-- Trails to different places of a form have different paths. -/
theorem pathOf_inj {form : Form} {trail trail' : List Segment}
    (leads : (form.follow? trail).isSome) (leads' : (form.follow? trail').isSome)
    (same : pathOf trail = pathOf trail') : trail = trail' := by
  have read := readPath?_of_follow? leads
  rw [same, readPath?_of_follow? leads'] at read
  exact (Option.some.inj read).symm

/-- A form is complained about exactly when one of its checks fails, and the complaint is about the
first failing check. -/
theorem complaint?_some_eq_some_iff {form : Form} {complaint : Complaint} :
    complaint? (some form) = some complaint ↔
      ∃ earlier check later, form.checks = earlier ++ check :: later ∧
        (∀ passed ∈ earlier, passed.fault? form = none) ∧
        check.fault? form = some complaint.fault ∧ complaint.path = pathOf check.trail := by
  rw [complaint?_some, violation?_eq, Option.map_eq_some_iff]
  constructor
  · rintro ⟨violation, first, rfl⟩
    obtain ⟨earlier, check, later, split, fails, passed⟩ := List.findSome?_eq_some_iff.mp first
    obtain ⟨fault, found, rfl⟩ := Option.map_eq_some_iff.mp fails
    exact ⟨earlier, check, later, split,
      fun other member => Option.map_eq_none_iff.mp (passed other member), found, rfl⟩
  · rintro ⟨earlier, check, later, split, passed, found, path⟩
    refine ⟨⟨check.trail, complaint.fault⟩, List.findSome?_eq_some_iff.mpr
      ⟨earlier, check, later, split, ?_, ?_⟩, ?_⟩
    · rw [FormCheck.violation?, found, Option.map_some]
    · exact fun other member => Option.map_eq_none_iff.mpr (passed other member)
    · rw [Violation.inForm, ← path]

/-- A rejected form is reported with its first failing check, under a path that is empty exactly
for the checks of the form itself and otherwise reads back as the trail to the one place of the
form that fails the check. -/
theorem complaint_locates_first_fault {form : Form} {complaint : Complaint}
    (rejected : complaint? (some form) = some complaint) :
    ∃ earlier check later, form.checks = earlier ++ check :: later ∧
      (∀ passed ∈ earlier, passed.fault? form = none) ∧
      check.fault? form = some complaint.fault ∧ complaint.path = pathOf check.trail ∧
      (complaint.path.isEmpty = true ↔ check = .fields ∨ check = .method) ∧
      (∀ place fieldCheck, check = .field place fieldCheck →
        readPath? complaint.path = some place.trail ∧
        form.follow? place.trail = some (place.before, place.entry) ∧
        fieldCheck.fault? place.before place.entry = some complaint.fault) ∧
      ∀ trail trail', (form.follow? trail).isSome → (form.follow? trail').isSome →
        pathOf trail = pathOf trail' → trail = trail' := by
  obtain ⟨earlier, check, later, split, passed, found, path⟩ :=
    complaint?_some_eq_some_iff.mp rejected
  have member : check ∈ form.checks := split ▸ List.mem_append_right _ List.mem_cons_self
  refine ⟨earlier, check, later, split, passed, found, path, ?_, ?_, fun _ _ => pathOf_inj⟩
  · rw [path, pathOf_isEmpty_iff]
    cases check with
    | fields => exact iff_of_true rfl (Or.inl rfl)
    | method => exact iff_of_true rfl (Or.inr rfl)
    | field place fieldCheck =>
      obtain ⟨leads, _⟩ := field_mem_checks_iff.mp member
      refine iff_of_false (fun empty => ?_) (by simp)
      obtain ⟨_, _, begins⟩ := head?_of_follow? leads
      exact List.cons_ne_nil _ _ (begins.symm.trans empty)
  · rintro place fieldCheck rfl
    obtain ⟨leads, _⟩ := field_mem_checks_iff.mp member
    have reached : (form.follow? place.trail).isSome := by
      rw [leads]
      rfl
    exact ⟨path ▸ readPath?_of_follow? reached, leads, found⟩

/-- A form whose second field repeats a name in the first list of its gate. -/
def repeatedNameForm : Form where
  fields :=
    [some (.mk { name := "account", kind := "checkbox" } [] none),
      some (.mk { name := "details", kind := "object" } [] (some
        { condition := "account"
          consequent :=
            [some (.mk { name := "email", kind := "email" } [] none),
              some (.mk { name := "email", kind := "text" } [] none)] }))]

theorem complaint_locates_repeated_name :
    complaint? (some repeatedNameForm) =
        some ⟨"fields[1].conditional.then[1]", .duplicateName "email"⟩ ∧
      ∃ earlier check later, repeatedNameForm.checks = earlier ++ check :: later ∧
        (∀ passed ∈ earlier, passed.fault? repeatedNameForm = none) ∧
        check.fault? repeatedNameForm = some (.duplicateName "email") := by
  have rejected : complaint? (some repeatedNameForm) =
      some ⟨"fields[1].conditional.then[1]", .duplicateName "email"⟩ := rfl
  obtain ⟨earlier, check, later, split, passed, found, _⟩ :=
    complaint_locates_first_fault rejected
  exact ⟨rejected, earlier, check, later, split, passed, found⟩

end Form

end Formwork
