/-
This file says what the check of a field does to the scope that it is given, and what it
takes from it.

A field puts its name in the scope as soon as the name is accepted, so the name stays there
when the field is refused later, also for a fault deep inside of it. The fields inside are
checked in scopes of their own. Of the scope it is given a field looks up two names, its own
one and the condition of its gate, and scopes that agree on these give the same outcome.
-/

import Formwork.Proofs.Check.Order

namespace Formwork

/-! ### Names in a scope -/

namespace Scope

variable {scope scope' : Scope} {name owner : String}

/-- Whether a scope takes a name: a name other than the empty one that has no fault and is not
there already. -/
structure Admits (scope : Scope) (name : String) : Prop where
  named : name ≠ ""
  accepted : nameFault? name = none
  fresh : name ∉ scope

/-- Whether a name is in both of two scopes or in none of them. -/
def AgreeOn (scope scope' : Scope) (name : String) : Prop := name ∈ scope ↔ name ∈ scope'

/-- A name passes its check exactly if it is the empty one or the scope takes it. -/
theorem entryFault?_eq_none_iff :
    scope.entryFault? name = none ↔ name = "" ∨ scope.Admits name := by
  by_cases empty : name = ""
  · subst empty
    exact iff_of_true rfl (Or.inl rfl)
  have named : name.isEmpty = false :=
    Bool.eq_false_iff.mpr fun isEmpty => empty (String.isEmpty_iff.mp isEmpty)
  rw [entryFault?, named]
  cases accepted : nameFault? name with
  | some fault =>
    refine iff_of_false (Option.some_ne_none fault) ?_
    rintro (same | admits)
    · exact empty same
    · exact Option.some_ne_none fault (accepted.symm.trans admits.accepted)
  | none =>
    have passes : (none <|> if (!false && scope.contains name) = true then
        some (Fault.duplicateName name) else none) = none ↔ name ∉ scope := by simp
    rw [passes]
    exact ⟨fun fresh => Or.inr ⟨empty, accepted, fresh⟩,
      fun given => (given.resolve_left empty).fresh⟩

theorem register_of_admits (admits : scope.Admits name) : scope.register name = name :: scope := by
  rw [register, if_neg (mt String.isEmpty_iff.mp admits.named)]

theorem mem_register_iff :
    name ∈ scope.register owner ↔ name ∈ scope ∨ (owner ≠ "" ∧ name = owner) := by
  unfold register
  split
  · rename_i empty
    simp [String.isEmpty_iff.mp empty]
  · rename_i named
    have named : owner ≠ "" := mt String.isEmpty_iff.mpr named
    rw [List.mem_cons, or_comm, and_iff_right named]

/-! ### Scopes that agree -/

theorem AgreeOn.contains_eq (agree : scope.AgreeOn scope' name) :
    scope.contains name = scope'.contains name := by
  rw [Bool.eq_iff_iff, List.contains_iff_mem, List.contains_iff_mem]
  exact agree

theorem AgreeOn.entryFault?_eq (agree : scope.AgreeOn scope' name) :
    scope.entryFault? name = scope'.entryFault? name := by
  rw [entryFault?, entryFault?, agree.contains_eq]

theorem AgreeOn.register (agree : scope.AgreeOn scope' name) (owner : String) :
    (scope.register owner).AgreeOn (scope'.register owner) name := by
  rw [AgreeOn, mem_register_iff, mem_register_iff]
  exact or_congr_left agree

theorem AgreeOn.conditionFault?_eq (agree : scope.AgreeOn scope' name) (owner : String) :
    scope.conditionFault? owner (.text name) = scope'.conditionFault? owner (.text name) := by
  rw [conditionFault?, conditionFault?, agree.contains_eq]

end Scope

/-! ### The check of a field -/

namespace Field

variable {scope scope' : Scope} {field : Field}

/-- The names that the check of an entry looks up in the scope that it is given. -/
def lookedUp : Option Field → List String
  | some field => field.control.name :: (field.gate.map (·.condition)).toList
  | none => []

theorem scope_check_of_admits (admits : scope.Admits field.control.name) :
    (field.check scope).1 = field.control.name :: scope := by
  rw [check_eq, Scope.entryFault?_eq_none_iff.mpr (Or.inr admits)]
  exact Scope.register_of_admits admits

theorem scope_check_of_not_admits (refuses : ¬ scope.Admits field.control.name) :
    (field.check scope).1 = scope := by
  rw [check_eq]
  cases entered : scope.entryFault? field.control.name with
  | some fault => rfl
  | none =>
    obtain empty | admits := Scope.entryFault?_eq_none_iff.mp entered
    · rw [empty]
      rfl
    · exact absurd admits refuses

theorem checkGate_congr {owner : String} {gate : Gate Field}
    (agree : scope.AgreeOn scope' gate.condition) :
    checkGate owner scope gate = checkGate owner scope' gate := by
  rw [checkGate_eq, checkGate_eq, agree.conditionFault?_eq owner]

/-- What the check of a field finds depends on the scope by two names alone. -/
theorem violation_check_congr (own : scope.AgreeOn scope' field.control.name)
    (condition : ∀ gate, field.gate = some gate → scope.AgreeOn scope' gate.condition) :
    (field.check scope).2 = (field.check scope').2 := by
  have gates : field.gate.bind
        (checkGate field.control.name (scope.register field.control.name)) =
      field.gate.bind (checkGate field.control.name (scope'.register field.control.name)) := by
    cases carries : field.gate with
    | none => rfl
    | some gate => exact checkGate_congr ((condition gate carries).register _)
  rw [check_eq, check_eq, own.entryFault?_eq, gates]
  cases scope'.entryFault? field.control.name <;> rfl

/-- Whatever the outcome of checking an entry, the scope afterwards has the name of the entry in
addition if the scope takes it, and is the same scope otherwise. The outcome, with the path and the
message of a complaint, is the same in all scopes that agree on the names looked up. -/
theorem check?_scope (entry : Option Field) (scope : Scope) :
    (∀ field, entry = some field → scope.Admits field.control.name →
      (check? scope entry).1 = field.control.name :: scope) ∧
    ((∀ field, entry = some field → ¬ scope.Admits field.control.name) →
      (check? scope entry).1 = scope) ∧
    ∀ scope' : Scope, (∀ name ∈ lookedUp entry, scope.AgreeOn scope' name) → ∀ path : String,
      (check? scope entry).2.map (Violation.below path) =
        (check? scope' entry).2.map (Violation.below path) := by
  cases entry with
  | none => exact ⟨nofun, fun _ => rfl, fun _ _ _ => rfl⟩
  | some field =>
    refine ⟨?_, fun refuses => scope_check_of_not_admits (refuses field rfl),
      fun scope' agree path => ?_⟩
    · intro _ same admits
      cases same
      exact scope_check_of_admits admits
    · obtain ⟨own, condition⟩ := List.forall_mem_cons.mp agree
      refine congrArg (Option.map (Violation.below path)) (violation_check_congr own ?_)
      intro gate carries
      exact condition gate.condition (by simp [carries])

/-- A field with a gate on a sibling, in whose first list a name is repeated. -/
def wrappingField : Field :=
  .mk { name := "wrapping", kind := "object" }
    [some (.mk { name := "gift", kind := "text" } [] none)]
    (some
      { condition := "gift"
        consequent :=
          [some (.mk { name := "paper", kind := "text" } [] none),
            some (.mk { name := "paper", kind := "text" } [] none)] })

theorem check?_scope_wrappingField :
    (check? ["gift"] (some wrappingField)).1 = ["wrapping", "gift"] ∧
      (check? ["wrapping", "gift"] (some wrappingField)).1 = ["wrapping", "gift"] ∧
      (check? ["gift"] (some wrappingField)).2.map (Violation.below "fields[1]") =
        some ⟨"fields[1].conditional.then[1]", .duplicateName "paper"⟩ ∧
      (check? ["gift", "paper", "card"] (some wrappingField)).2.map (Violation.below "fields[1]") =
        some ⟨"fields[1].conditional.then[1]", .duplicateName "paper"⟩ := by
  have admits : Scope.Admits ["gift"] wrappingField.control.name :=
    ⟨by decide, by decide +kernel, by decide⟩
  obtain ⟨admitted, _, outcome⟩ := check?_scope (some wrappingField) ["gift"]
  obtain ⟨_, refused, _⟩ := check?_scope (some wrappingField) ["wrapping", "gift"]
  have found : (check? ["gift"] (some wrappingField)).2.map (Violation.below "fields[1]") =
      some ⟨"fields[1].conditional.then[1]", .duplicateName "paper"⟩ := by decide +kernel
  refine ⟨admitted wrappingField rfl admits, refused ?_, found, ?_⟩
  · intro _ same again
    cases same
    exact again.fresh List.mem_cons_self
  · rw [← outcome ["gift", "paper", "card"] ?_ "fields[1]", found]
    intro name looked
    have names : name = "wrapping" ∨ name = "gift" := by
      simpa [lookedUp, wrappingField] using looked
    obtain rfl | rfl := names
    · exact iff_of_false (by decide) (by decide)
    · exact iff_of_true (by decide) (by decide)

end Field

end Formwork
