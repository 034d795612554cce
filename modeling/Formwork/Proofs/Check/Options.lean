/-
This file says which options of a choice are reported as repeated.

Options are told apart by the texts of their values, and the check goes through the texts with
those it has seen. What it reports is the least position at which a text is among the seen
ones or among the earlier ones, so it begins with none seen and reports the first option whose
value collides with that of an earlier option.
-/

import Mathlib.Order.Bounds.Defs
import Formwork.Check.Local
import Formwork.Proofs.Scalar.Display

namespace Formwork

/-! ### Repeated texts -/

/-- Whether the text at a position is among the given ones or among the earlier ones. -/
def RepeatsAt (seen texts : List String) (position : Nat) : Prop :=
  ∃ text, texts[position]? = some text ∧ (text ∈ seen ∨ text ∈ texts.take position)

theorem repeatsAt_zero {seen rest : List String} {text : String} :
    RepeatsAt seen (text :: rest) 0 ↔ text ∈ seen := by
  simp [RepeatsAt]

/-- Behind a text, what repeats is what repeats with this text seen too. -/
theorem repeatsAt_succ {seen rest : List String} {text : String} {position : Nat} :
    RepeatsAt seen (text :: rest) (position + 1) ↔ RepeatsAt (text :: seen) rest position := by
  simp only [RepeatsAt, List.getElem?_cons_succ, List.take_succ_cons, List.mem_cons]
  refine exists_congr fun other => and_congr_right fun _ => ?_
  rw [or_left_comm, or_assoc]

/-- The least position at which something holds is the first one, if it holds there, and otherwise
the one behind the least position of the rest. -/
theorem isLeast_succ_iff {holds : Nat → Prop} (notFirst : ¬ holds 0) {position : Nat} :
    IsLeast {position | holds (position + 1)} position ↔
      IsLeast {position | holds position} (position + 1) := by
  constructor
  · rintro ⟨here, least⟩
    refine ⟨here, fun other there => ?_⟩
    cases other with
    | zero => exact absurd there notFirst
    | succ other => exact Nat.succ_le_succ (least there)
  · rintro ⟨here, least⟩
    exact ⟨here, fun other there => Nat.le_of_succ_le_succ (least there)⟩

/-- The check reports the least position at which a text is repeated, counted from where it
begins. -/
theorem duplicateText?_eq_some_iff {seen texts : List String} {start found : Nat} {text : String} :
    duplicateText? seen start texts = some (text, found) ↔
      ∃ position, found = start + position ∧ texts[position]? = some text ∧
        IsLeast {position | RepeatsAt seen texts position} position := by
  induction texts generalizing seen start with
  | nil => simp [duplicateText?]
  | cons first rest inductionHypothesis =>
    by_cases taken : first ∈ seen
    · have repeated : RepeatsAt seen (first :: rest) 0 := repeatsAt_zero.mpr taken
      have reported : duplicateText? seen start (first :: rest) = some (first, start) := by
        rw [duplicateText?, if_pos (List.contains_iff_mem.mpr taken)]
      rw [reported]
      constructor
      · intro same
        obtain ⟨rfl, rfl⟩ := Prod.mk.inj (Option.some.inj same)
        exact ⟨0, rfl, rfl, repeated, fun _ _ => Nat.zero_le _⟩
      · rintro ⟨position, rfl, found, least⟩
        obtain rfl : position = 0 := Nat.le_zero.mp (least.2 repeated)
        rw [Option.some.inj found]
        rfl
    · have fresh : ¬ RepeatsAt seen (first :: rest) 0 := fun repeated =>
        taken (repeatsAt_zero.mp repeated)
      have skipped : duplicateText? seen start (first :: rest) =
          duplicateText? (first :: seen) (start + 1) rest := by
        rw [duplicateText?, if_neg fun listed => taken (List.contains_iff_mem.mp listed)]
      rw [skipped, inductionHypothesis]
      simp only [← repeatsAt_succ, isLeast_succ_iff fresh]
      constructor
      · rintro ⟨position, rfl, found, least⟩
        exact ⟨position + 1, by omega, found, least⟩
      · rintro ⟨position, rfl, found, least⟩
        cases position with
        | zero => exact absurd least.1 fresh
        | succ position => exact ⟨position, by omega, found, least⟩

/-! ### Repeated options -/

/-- Whether the value of the option at a position collides with that of an earlier option. -/
def Control.CollidesAt (control : Control) (position : Nat) : Prop :=
  ∃ earlier < position, ∃ option option', control.options[earlier]? = some option ∧
    control.options[position]? = some option' ∧ option.value.Collides option'.value

theorem mem_take_iff_exists {Item : Type} {items : List Item} {item : Item} {count : Nat} :
    item ∈ items.take count ↔ ∃ index < count, items[index]? = some item := by
  rw [List.mem_iff_getElem?]
  refine exists_congr fun index => ?_
  rw [List.getElem?_take]
  split
  · rename_i inside
    exact (and_iff_right inside).symm
  · rename_i outside
    exact iff_of_false (fun found => by cases found) fun found => outside found.1

theorem Control.repeatsAt_optionTexts_iff {control : Control} {position : Nat} :
    RepeatsAt [] control.optionTexts position ↔ control.CollidesAt position := by
  simp only [RepeatsAt, CollidesAt, optionTexts, List.not_mem_nil, false_or,
    List.getElem?_map, Option.map_eq_some_iff, ← List.map_take, List.mem_map]
  constructor
  · rintro ⟨_, ⟨option', found, rfl⟩, option, member, same⟩
    obtain ⟨earlier, before, held⟩ := mem_take_iff_exists.mp member
    exact ⟨earlier, before, option, option', held, found, Scalar.display_eq_iff_collides.mp same⟩
  · rintro ⟨earlier, before, option, option', held, found, collides⟩
    refine ⟨_, ⟨option', found, rfl⟩, option, ?_, Scalar.display_eq_iff_collides.mpr collides⟩
    exact mem_take_iff_exists.mpr ⟨earlier, before, held⟩

/-- Of a choice the check reports as repeated the first option whose value collides with that of
an earlier one. -/
theorem optionsFault?_eq_duplicateOption_iff {kind : Kind} (chooses : kind ∈ Kind.choices)
    {control : Control} {text : String} {position : Nat} :
    optionsFault? kind control.optionTexts = some (.duplicateOption text position) ↔
      IsLeast {position | control.CollidesAt position} position ∧
        ∃ option, control.options[position]? = some option ∧ option.value.display = text := by
  have texts : control.optionTexts[position]? = some text ↔
      ∃ option, control.options[position]? = some option ∧ option.value.display = text := by
    rw [Control.optionTexts, List.getElem?_map, Option.map_eq_some_iff]
  have accepts : kind ∉ Kind.optionless := by
    revert kind
    decide
  have reported : optionsFault? kind control.optionTexts = some (.duplicateOption text position) ↔
      duplicateText? [] 0 control.optionTexts = some (text, position) := by
    unfold optionsFault?
    split
    · rename_i missing
      obtain ⟨_, empty⟩ := Bool.and_eq_true_iff.mp missing
      rw [List.isEmpty_iff.mp empty]
      simp [duplicateText?]
    · split
      · rename_i stray
        obtain ⟨refuses, _⟩ := Bool.and_eq_true_iff.mp stray
        exact absurd (List.contains_iff_mem.mp refuses) accepts
      · rw [if_pos (List.contains_iff_mem.mpr chooses)]
        simp
  rw [reported, duplicateText?_eq_some_iff, ← texts]
  simp only [Control.repeatsAt_optionTexts_iff, Nat.zero_add]
  constructor
  · rintro ⟨_, rfl, found, least⟩
    exact ⟨least, found⟩
  · rintro ⟨least, found⟩
    exact ⟨position, rfl, found, least⟩

/-- Which scalars count as the same option. Scalars other than texts have the same text exactly if
they coincide, and a text has the text of another scalar exactly if it is that text. Of a choice
the first option is reported whose value collides in this sense with that of an earlier one. -/
theorem Scalar.same_option_iff :
    (∀ value value' : Scalar, ¬ value.IsText → ¬ value'.IsText →
      (value.display = value'.display ↔ value.Coincide value')) ∧
    (∀ (text : String) (value : Scalar), ¬ value.IsText →
      ((Scalar.text text).display = value.display ↔ text = value.display)) ∧
    ∀ kind ∈ Kind.choices, ∀ (control : Control) (position : Nat),
      (∃ text, optionsFault? kind control.optionTexts = some (.duplicateOption text position)) ↔
        IsLeast {position | control.CollidesAt position} position := by
  refine ⟨fun value value' => display_eq_iff_coincide, fun text value _ => Iff.rfl,
    fun kind chooses control position => ?_⟩
  constructor
  · rintro ⟨text, reported⟩
    exact ((optionsFault?_eq_duplicateOption_iff chooses).mp reported).1
  · intro least
    obtain ⟨_, _, _, option, _, found, _⟩ := least.1
    exact ⟨_, (optionsFault?_eq_duplicateOption_iff chooses).mpr ⟨least, option, found, rfl⟩⟩

/-- A choice among sizes, of which the last one is the double of the value that the first one
spells. -/
def sizeControl : Control where
  kind := "radio"
  options := [⟨"five", .text "5"⟩, ⟨"yes", .bool true⟩, ⟨"one", .int 1⟩,
    ⟨"five", .float (.ofInt 5)⟩, ⟨"one", .float (.ofInt 1)⟩]

/-- The double of five is the same option as the whole number and as its digits, and a truth value
is not the same option as one. -/
theorem Scalar.same_option_of_sizes :
    (Scalar.int 5).Coincide (.float (.ofInt 5)) ∧ ¬ (Scalar.int 1).Coincide (.bool true) ∧
      (Scalar.text "5").display = (Scalar.float (.ofInt 5)).display ∧
      IsLeast {position | sizeControl.CollidesAt position} 3 := by
  have int : ∀ whole, ¬ (Scalar.int whole).IsText := fun _ ⟨_, same⟩ => by cases same
  have float : ¬ (Scalar.float (.ofInt 5)).IsText := fun ⟨_, same⟩ => by cases same
  have bool : ¬ (Scalar.bool true).IsText := fun ⟨_, same⟩ => by cases same
  obtain ⟨coincide, spelled, reported⟩ := same_option_iff
  exact ⟨(coincide _ _ (int 5) float).mp (by decide +kernel),
    fun same => absurd ((coincide _ _ (int 1) bool).mpr same) (by decide +kernel),
    (spelled _ _ float).mpr (by decide +kernel),
    (reported .radio (by decide) _ _).mp ⟨"5", by decide +kernel⟩⟩

end Formwork
