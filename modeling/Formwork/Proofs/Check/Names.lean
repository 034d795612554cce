/-
This file says which names the controls of an accepted form have.

A name is to be spelled with letters, digits and three marks, and to begin with a letter or
the underscore. The check of a name allows one line break behind such a spelling, and
nothing else. Wherever in the form a field stands, its name is therefore clean exactly if
there is no line break in it.
-/

import Formwork.Proofs.Check.WellFormed

namespace Formwork

/-! ### Clean names -/

/-- Whether a text begins with a letter or an underscore and consists of letters, digits,
underscores, points and hyphens. -/
structure WellSpelled (text : String) : Prop where
  first : ∃ char ∈ text.toList.head?, char.isAlpha = true ∨ char = '_'
  chars : ∀ char ∈ text.toList,
    char.isAlpha = true ∨ char.isDigit = true ∨ char = '_' ∨ char = '.' ∨ char = '-'

/-- Whether two texts are the same but for the case of their letters. -/
def SameIgnoringCase (text text' : String) : Prop :=
  text.toList.map Char.toLower = text'.toList.map Char.toLower

/-- Whether a name can be used for a control: it is well spelled and not reserved in any case of its
letters. -/
structure CleanName (name : String) : Prop where
  spelled : WellSpelled name
  unreserved : ∀ word ∈ reservedNames, ¬ SameIgnoringCase name word

theorem isReserved_iff {name : String} :
    isReserved name = true ↔ ∃ word ∈ reservedNames, SameIgnoringCase name word := by
  have lowered : ∀ word ∈ reservedNames, word.toList.map Char.toLower = word.toList := by decide
  rw [isReserved, List.contains_iff_mem]
  constructor
  · intro reserved
    refine ⟨_, reserved, ?_⟩
    rw [SameIgnoringCase, lowered _ reserved, String.toList_ofList]
  · rintro ⟨word, reserved, same⟩
    rw [SameIgnoringCase, lowered word reserved] at same
    rwa [same, String.ofList_toList]

/-! ### The spelling of a name -/

theorem isNameStart_iff {char : Char} :
    isNameStart char = true ↔ char.isAlpha = true ∨ char = '_' := by
  simp [isNameStart]

theorem isNameChar_iff {char : Char} :
    isNameChar char = true ↔
      char.isAlpha = true ∨ char.isDigit = true ∨ char = '_' ∨ char = '.' ∨ char = '-' := by
  simp [isNameChar, Char.isAlphanum, or_assoc]

theorem isNameChar_of_isNameStart {char : Char} (start : isNameStart char = true) :
    isNameChar char = true := by
  rw [isNameStart_iff] at start
  rw [isNameChar_iff]
  exact start.imp_right fun underscore => Or.inr (Or.inl underscore)

/-- The rest of a name is spelled with name characters, up to one line break at its end. -/
theorem exists_of_isNameRest {chars : List Char} (rest : isNameRest chars = true) :
    ∃ spelled, (chars = spelled ∨ chars = spelled ++ ['\n']) ∧
      ∀ char ∈ spelled, isNameChar char = true := by
  induction chars using isNameRest.induct with
  | case1 => exact ⟨[], Or.inl rfl, fun _ none => by cases none⟩
  | case2 => exact ⟨[], Or.inr rfl, fun _ none => by cases none⟩
  | case3 char chars notLast inductionHypothesis =>
    rw [isNameRest.eq_3 char chars notLast, Bool.and_eq_true] at rest
    obtain ⟨spelled, ends, all⟩ := inductionHypothesis rest.2
    refine ⟨char :: spelled, ?_, List.forall_mem_cons.mpr ⟨rest.1, all⟩⟩
    exact ends.imp (congrArg (char :: ·)) (congrArg (char :: ·))

/-- A usable name is well spelled, up to one line break at its end, and not reserved. -/
theorem exists_of_nameFault?_eq_none {name : String} (named : name ≠ "")
    (usable : nameFault? name = none) :
    (∃ stem, (name = stem ∨ name = stem ++ "\n") ∧ WellSpelled stem) ∧
      ∀ word ∈ reservedNames, ¬ SameIgnoringCase name word := by
  have notEmpty : ¬ name.isEmpty = true := fun empty => named (String.isEmpty_iff.mp empty)
  rw [nameFault?, if_neg notEmpty] at usable
  split at usable
  · cases usable
  rename_i formed
  split at usable
  · cases usable
  rename_i unreserved
  refine ⟨?_, fun word listed same => unreserved (isReserved_iff.mpr ⟨word, listed, same⟩)⟩
  rw [Bool.not_eq_true', Bool.not_eq_false] at formed
  cases spelling : name.toList with
  | nil => exact absurd (String.toList_eq_nil_iff.mp spelling) named
  | cons first rest =>
    rw [spelling, isName, Bool.and_eq_true] at formed
    obtain ⟨spelled, ends, all⟩ := exists_of_isNameRest formed.2
    refine ⟨String.ofList (first :: spelled), ends.imp (fun same => ?_) (fun same => ?_), ?_⟩
    · rw [← same, ← spelling, String.ofList_toList]
    · apply String.toList_injective
      rw [spelling, same, String.toList_append, String.toList_ofList]
      rfl
    · refine ⟨⟨first, by rw [String.toList_ofList]; rfl, isNameStart_iff.mp formed.1⟩, ?_⟩
      rw [String.toList_ofList]
      exact List.forall_mem_cons.mpr
        ⟨isNameChar_iff.mp (isNameChar_of_isNameStart formed.1),
          fun char member => isNameChar_iff.mp (all char member)⟩

theorem WellSpelled.noLineBreak {text : String} (spelled : WellSpelled text) :
    '\n' ∉ text.toList := fun member => absurd (spelled.chars _ member) (by decide)

/-! ### The names of a form -/

/-- The names of the fields of an accepted form are usable. -/
theorem Form.nameFault?_of_accepted {form : Form} (accepted : complaint? (some form) = none)
    {field : Field} (has : form.Has field) : nameFault? field.control.name = none := by
  obtain ⟨siblings, below, member⟩ := has
  have wellFormed := (WellFormed.of_accepted accepted).siblings siblings below
  exact nameFault?_eq_none fun notEmpty =>
    wellFormed.usable _ (Field.mem_names_iff.mpr ⟨field, member, rfl, notEmpty⟩)

/-- At every depth of an accepted form, a name is not reserved and is well spelled up to one line
break at its end. It is clean exactly if it has no line break. -/
theorem Form.cleanName_iff_of_accepted {form : Form} (accepted : complaint? (some form) = none)
    {field : Field} (has : form.Has field) (named : field.control.name ≠ "") :
    (∃ stem, (field.control.name = stem ∨ field.control.name = stem ++ "\n") ∧
        WellSpelled stem) ∧
      (∀ word ∈ reservedNames, ¬ SameIgnoringCase field.control.name word) ∧
      (CleanName field.control.name ↔ '\n' ∉ field.control.name.toList) := by
  obtain ⟨⟨stem, ends, spelled⟩, unreserved⟩ :=
    exists_of_nameFault?_eq_none named (nameFault?_of_accepted accepted has)
  refine ⟨⟨stem, ends, spelled⟩, unreserved, fun clean => clean.spelled.noLineBreak,
    fun noLineBreak => ?_⟩
  rcases ends with same | broken
  · exact ⟨same ▸ spelled, unreserved⟩
  · rw [broken] at noLineBreak
    simp at noLineBreak

/-- A form with a field that is shown for a choice and has a name with all three marks. -/
def giftForm : Form where
  fields :=
    [some (.mk { name := "gift", kind := "checkbox" } [] none),
      some (.mk { name := "order", kind := "object" } [] (some
        { condition := "gift"
          consequent := [some (.mk { name := "_card.text-1", kind := "text" } [] none)] }))]

theorem cleanName_of_giftForm :
    Form.complaint? (some giftForm) = none ∧ CleanName "_card.text-1" := by
  have accepted : Form.complaint? (some giftForm) = none := by decide +kernel
  have has : giftForm.Has (.mk { name := "_card.text-1", kind := "text" } [] none) :=
    ⟨_, .part .self (List.mem_cons_of_mem _ List.mem_cons_self)
      (List.mem_cons_of_mem _ List.mem_cons_self), List.mem_cons_self⟩
  exact ⟨accepted,
    (Form.cleanName_iff_of_accepted accepted has (by decide)).2.2.mpr (by decide)⟩

/-- A form whose only field has a line break at the end of its name. -/
def lineBreakForm : Form where
  fields := [some (.mk { name := "email\n", kind := "text" } [] none)]

/-- The check accepts a name that is not clean. -/
theorem Form.accepts_lineBreak :
    complaint? (some lineBreakForm) = none ∧
      ∃ field, lineBreakForm.Has field ∧ field.control.name ≠ "" ∧
        ¬ CleanName field.control.name := by
  refine ⟨by decide +kernel, _, ⟨_, .self, List.mem_cons_self⟩, by decide, fun clean => ?_⟩
  exact clean.spelled.noLineBreak (by decide)

end Formwork
