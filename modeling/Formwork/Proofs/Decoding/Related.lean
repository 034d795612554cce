/-
This file compares the results of reading two documents. Two results are related if they
are related values, or if both are failures with the same issues in any order. Combining
related parts gives related results, and so does reading the parts of two lists one by
one, or the parts of one list in another order.
-/

import Formwork.Proofs.Form.Members
import Formwork.Proofs.Mapping

namespace Formwork

variable {α α' β β' ρ : Type}

namespace Decoded

/-- Whether two results are related values, or failures with the same issues in any order. -/
inductive Related (related : α → β → Prop) : Decoded α → Decoded β → Prop where
  | ok {value : α} {value' : β} : related value value' → Related related (.ok value) (.ok value')
  | failed {issues issues' : List Issue} :
    issues.Perm issues' → Related related (.failed issues) (.failed issues')

section Combining

variable {related : α → β → Prop} {related' : α' → β' → Prop} {decoded : Decoded α}
  {decoded' : Decoded β}

theorem Related.mono {other : α → β → Prop} (results : Related related decoded decoded')
    (implies : ∀ value value', related value value' → other value value') :
    Related other decoded decoded' := by
  cases results with
  | ok values => exact .ok (implies _ _ values)
  | failed issues => exact .failed issues

theorem Related.of_eq {related : α → α → Prop} (reflexive : ∀ value, related value value)
    {decoded decoded' : Decoded α} (same : decoded = decoded') :
    Related related decoded decoded' := by
  subst same
  cases decoded with
  | ok value => exact .ok (reflexive value)
  | failed issues => exact .failed (.refl issues)

theorem Related.trans {related : α → α → Prop} {first second third : Decoded α}
    (results : Related related first second) (results' : Related related second third)
    (transitive : ∀ {first second third}, related first second → related second third →
      related first third) : Related related first third := by
  cases results with
  | ok values =>
    cases results' with
    | ok values' => exact .ok (transitive values values')
  | failed issues =>
    cases results' with
    | failed issues' => exact .failed (issues.trans issues')

theorem Related.map {function : α → α'} {function' : β → β'}
    (results : Related related decoded decoded')
    (functions : ∀ value value', related value value' →
      related' (function value) (function' value')) :
    Related related' (decoded.map function) (decoded'.map function') := by
  cases results with
  | ok values => exact .ok (functions _ _ values)
  | failed issues => exact .failed issues

/-- Related functions of related values are related. -/
theorem Related.seq {function : Decoded (α → α')} {function' : Decoded (β → β')}
    (functions : Related (fun apply apply' => ∀ value value', related value value' →
      related' (apply value) (apply' value')) function function')
    (results : Related related decoded decoded') :
    Related related' (function <*> decoded) (function' <*> decoded') := by
  cases functions with
  | ok apply =>
    cases results with
    | ok values => exact .ok (apply _ _ values)
    | failed issues => exact .failed issues
  | failed issues =>
    cases results with
    | ok _ => exact .failed issues
    | failed issues' => exact .failed (issues.append issues')

theorem Related.under (results : Related related decoded decoded') (step : LocationStep) :
    Related related (decoded.under step) (decoded'.under step) := by
  cases results with
  | ok values => exact .ok values
  | failed issues => exact .failed (issues.map _)

end Combining

/-! ### Lists -/

section Lists

variable {related : α → β → Prop}

theorem related_allFrom {items : List (Decoded α)} {items' : List (Decoded β)}
    (each : List.Forall₂ (Related related) items items') (start : Nat) :
    Related (List.Forall₂ related) (allFrom start items) (allFrom start items') := by
  induction each generalizing start with
  | nil => exact .ok .nil
  | cons first _ inductionHypothesis =>
    refine Related.seq ?_ (inductionHypothesis (start + 1))
    exact (first.under _).map fun _ _ head _ _ tail => .cons head tail

theorem related_all {items : List (Decoded α)} {items' : List (Decoded β)}
    (each : List.Forall₂ (Related related) items items') :
    Related (List.Forall₂ related) (all items) (all items') := by
  induction each with
  | nil => exact .ok .nil
  | cons first _ inductionHypothesis =>
    refine Related.seq ?_ inductionHypothesis
    exact first.map fun _ _ head _ _ tail => .cons head tail

theorem related_allNamed {members : List (String × Decoded α)}
    {members' : List (String × Decoded β)}
    (each : List.Forall₂ (RelatedMember (Related related)) members members') :
    Related (List.Forall₂ (RelatedMember related)) (allNamed members) (allNamed members') := by
  refine related_all (List.forall₂_map_left_iff.mpr (List.forall₂_map_right_iff.mpr
    (each.imp ?_)))
  rintro ⟨name, decoded⟩ ⟨_, decoded'⟩ ⟨rfl, results⟩
  exact (results.under _).map fun _ _ values => ⟨rfl, values⟩

/-- Reading two neighbours in the other order finds the same issues in another order. -/
theorem related_all_swap {related : List α → List α → Prop} {first second : Decoded α}
    (cons : ∀ value values values', related values values' →
      related (value :: values) (value :: values'))
    (swapped : ∀ value value' rest, first = .ok value → second = .ok value' →
      related (value :: value' :: rest) (value' :: value :: rest))
    (before after : List (Decoded α)) :
    Related related (all (before ++ first :: second :: after))
      (all (before ++ second :: first :: after)) := by
  induction before with
  | nil =>
    simp only [List.nil_append, all]
    cases first with
    | ok value =>
      cases second with
      | ok value' =>
        cases all after with
        | ok rest => exact .ok (swapped _ _ _ rfl rfl)
        | failed issues => exact .failed (.refl _)
      | failed issues => cases all after <;> exact .failed (.refl _)
    | failed issues =>
      cases second with
      | ok value' => cases all after <;> exact .failed (.refl _)
      | failed issues' =>
        cases all after with
        | ok rest => exact .failed List.perm_append_comm
        | failed issues'' => exact .failed (List.perm_append_comm_assoc _ _ _)
  | cons decoded before inductionHypothesis =>
    refine Related.seq ?_ inductionHypothesis
    cases decoded with
    | ok value => exact .ok (cons value)
    | failed issues => exact .failed (.refl _)

end Lists

end Decoded

/-! ### Attributes -/

section Change

variable {name : String} {part part' : ρ} {before after : List (String × ρ)}

/-- Another value of one member is found where the old one was. -/
theorem lastMember?_change (name' : String) :
    lastMember? name' (before ++ (name, part) :: after) =
        lastMember? name' (before ++ (name, part') :: after) ∨
      name' = name ∧ lastMember? name' (before ++ (name, part) :: after) = some part ∧
        lastMember? name' (before ++ (name, part') :: after) = some part' := by
  simp only [lastMember?_append, lastMember?_cons]
  cases lastMember? name' after with
  | some value => exact Or.inl rfl
  | none =>
    by_cases same : name = name'
    · exact Or.inr ⟨same.symm, by simp [same], by simp [same]⟩
    · exact Or.inl (by simp [same])

theorem find?_change (names : List String) :
    Decode.find? names (before ++ (name, part) :: after) =
        Decode.find? names (before ++ (name, part') :: after) ∨
      name ∈ names ∧
        Decode.find? names (before ++ (name, part) :: after) = some (name, part) ∧
        Decode.find? names (before ++ (name, part') :: after) = some (name, part') := by
  induction names with
  | nil => exact Or.inl rfl
  | cons first rest inductionHypothesis =>
    simp only [Decode.find?_cons]
    rcases @lastMember?_change ρ name part part' before after first with same | ⟨rfl, found, found'⟩
    · rw [same]
      cases lastMember? first (before ++ (name, part') :: after) with
      | some value => exact Or.inl rfl
      | none =>
        simp only [Option.map_none, Option.none_or]
        exact inductionHypothesis.imp id fun ⟨member, found⟩ =>
          ⟨List.mem_cons_of_mem _ member, found⟩
    · rw [found, found']
      exact Or.inr ⟨List.mem_cons_self, rfl, rfl⟩

/-- An attribute reads the same if the member that was changed does. -/
theorem entry_change {names : List String} {absent : Decoded β} {decode : ρ → Decoded β}
    (reads : name ∈ names → decode part = decode part') :
    Decode.entry names absent decode (before ++ (name, part) :: after) =
      Decode.entry names absent decode (before ++ (name, part') :: after) := by
  rw [Decode.entry, Decode.entry]
  rcases @find?_change ρ name part part' before after names with same | ⟨member, found, found'⟩
  · rw [same]
  · rw [found, found']
    exact congrArg (Decoded.under _) (reads member)

/-- An attribute reads the same up to a relation if the member that was changed does. -/
theorem related_entry {related : β → β → Prop} (reflexive : ∀ value, related value value)
    {names : List String} {absent : Decoded β} {decode : ρ → Decoded β}
    (reads : name ∈ names → Decoded.Related related (decode part) (decode part')) :
    Decoded.Related related
      (Decode.entry names absent decode (before ++ (name, part) :: after))
      (Decode.entry names absent decode (before ++ (name, part') :: after)) := by
  rw [Decode.entry, Decode.entry]
  rcases @find?_change ρ name part part' before after names with same | ⟨member, found, found'⟩
  · exact .of_eq reflexive (by rw [same])
  · rw [found, found']
    exact (reads member).under _

/-- The order of two neighbours with different names makes no difference to what is found. -/
theorem find?_swap {first second : String × ρ} (different : first.1 ≠ second.1)
    (names : List String) :
    Decode.find? names (before ++ first :: second :: after) =
      Decode.find? names (before ++ second :: first :: after) := by
  have last : ∀ name, lastMember? name (before ++ first :: second :: after) =
      lastMember? name (before ++ second :: first :: after) := by
    intro name
    simp only [lastMember?_append, lastMember?_cons]
    by_cases isFirst : first.1 = name
    · have notSecond : second.1 ≠ name := fun same => different (isFirst.trans same.symm)
      simp [isFirst, notSecond]
    · simp [isFirst]
  induction names with
  | nil => rfl
  | cons name rest inductionHypothesis =>
    rw [Decode.find?_cons, Decode.find?_cons, last, inductionHypothesis]

theorem entry_swap {first second : String × ρ} (different : first.1 ≠ second.1)
    (names : List String) (absent : Decoded β) (decode : ρ → Decoded β) :
    Decode.entry names absent decode (before ++ first :: second :: after) =
      Decode.entry names absent decode (before ++ second :: first :: after) := by
  rw [Decode.entry, Decode.entry, find?_swap different]

end Change

end Formwork
