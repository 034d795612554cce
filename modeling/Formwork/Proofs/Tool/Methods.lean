/-
This file says which methods an accepted form has.

A method is to be one of seven words in any case of its letters. The check compares the upper
case of the method, and the full mapping of Unicode takes four letters beyond ASCII to plain
capitals as well: the long s, the i without a dot, and two ligatures of s and t. No other
character beyond ASCII has an upper case that stands in one of the words. A method is
therefore accepted exactly if it is one of the words with plain letters set for those four.
-/

import Mathlib
import Formwork.Proofs.Check.Names
import Formwork.Proofs.Tool.Agreement

namespace Formwork

/-! ### Plain spelling -/

/-- The letters beyond ASCII whose upper case stands in the name of a method, each with the plain
letters that have the same upper case. -/
def standIns : List (Char × List Char) :=
  [('ſ', ['s']), ('ı', ['i']), ('ﬅ', ['s', 't']), ('ﬆ', ['s', 't'])]

/-- Whether a character is one of the letters that stand in for plain ones. -/
def IsStandIn (char : Char) : Prop := char ∈ standIns.map Prod.fst

/-- Whether a character is in the ASCII range. -/
def IsAscii (char : Char) : Prop := char.toNat < 128

/-- The plain letters for a letter that stands in for them; any other character stands for
itself. -/
def plainLetters (char : Char) : List Char := (standIns.lookup char).getD [char]

/-- A text with plain letters set for those that stand in for them. -/
def plainSpelling (text : String) : String := String.ofList (text.toList.flatMap plainLetters)

/-- Whether a text is the name of a method in any case of its letters. -/
def NamesMethod (text : String) : Prop := ∃ known ∈ submitMethods, SameIgnoringCase text known

instance (char : Char) : Decidable (IsStandIn char) := inferInstanceAs (Decidable (_ ∈ _))

theorem plainLetters_of_not_standIn {char : Char} (other : ¬ IsStandIn char) :
    plainLetters char = [char] := by
  have missing : standIns.lookup char = none := by
    rw [List.lookup_eq_none_iff]
    intro entry member
    exact bne_iff_ne.mpr fun same => other (same ▸ List.mem_map_of_mem member)
  rw [plainLetters, missing, Option.getD_none]

theorem plainSpelling_of_no_standIn {text : String}
    (plain : ∀ char ∈ text.toList, ¬ IsStandIn char) : plainSpelling text = text := by
  have same : text.toList.flatMap plainLetters = text.toList.flatMap fun char => [char] :=
    List.flatMap_congr fun char member => plainLetters_of_not_standIn (plain char member)
  rw [plainSpelling, same, List.flatMap_singleton', String.ofList_toList]

theorem not_isAscii_of_standIn {char : Char} (standIn : IsStandIn char) : ¬ IsAscii char := by
  have beyond : ∀ entry ∈ standIns, ¬ entry.1.toNat < 128 := by decide
  obtain ⟨entry, member, rfl⟩ := List.mem_map.mp standIn
  exact beyond entry member

/-! ### Upper case -/

/-- The upper case of a character is listed as an expansion, or is given by a run that contains the
character, or is the character itself if no run does. -/
theorem upperCaseOf_cases (char : Char) :
    (∃ codes, (char.toNat, codes) ∈ upperCaseExpansions ∧
        upperCaseOf char = codes.map Char.ofNat) ∨
      (∃ run ∈ upperCaseRuns, run.contains char.toNat = true ∧
        upperCaseOf char = [run.shift char.toNat]) ∨
      ((∀ run ∈ upperCaseRuns, ¬ run.contains char.toNat = true) ∧
        upperCaseOf char = [char]) := by
  rw [upperCaseOf]
  cases expansion : upperCaseExpansions.find? (·.1 == char.toNat) with
  | some entry =>
    obtain ⟨code, codes⟩ := entry
    obtain rfl : code = char.toNat := by simpa using List.find?_some expansion
    exact Or.inl ⟨codes, List.mem_of_find?_eq_some expansion, rfl⟩
  | none =>
    cases shifted : upperCaseRuns.find? (·.contains char.toNat) with
    | some run =>
      have found := List.find?_some shifted
      exact Or.inr (Or.inl ⟨run, List.mem_of_find?_eq_some shifted, found, rfl⟩)
    | none => exact Or.inr (Or.inr ⟨List.find?_eq_none.mp shifted, rfl⟩)

/-- In the ASCII range the upper case of a character is the one of ASCII: but for the first run, the
tables begin beyond that range. -/
theorem upperCaseOf_ascii {char : Char} (ascii : IsAscii char) :
    upperCaseOf char = [char.toUpper] := by
  have expansions : ∀ entry ∈ upperCaseExpansions, 128 ≤ entry.1 := by decide
  have runs : ∀ run ∈ upperCaseRuns,
      (run.first = 97 ∧ run.last = 122 ∧ run.offset = -32) ∨ 128 ≤ run.first := by
    decide +kernel
  have small : ∀ code : Nat, code < 128 → 97 ≤ code → code ≤ 122 →
      Char.ofNat (Int.toNat (code + -32)) = (Char.ofNat code).toUpper := by decide
  have other : ∀ code : Nat, code < 128 → ¬ (97 ≤ code ∧ code ≤ 122) →
      Char.ofNat code = (Char.ofNat code).toUpper := by decide
  obtain ⟨codes, entry, _⟩ | ⟨run, listed, contains, upper⟩ | ⟨uncontained, upper⟩ :=
    upperCaseOf_cases char
  · exact absurd ascii (Nat.not_lt.mpr (expansions _ entry))
  · simp only [CaseRun.contains, Bool.and_eq_true, decide_eq_true_eq] at contains
    obtain ⟨⟨first, last⟩, _⟩ := contains
    obtain ⟨start, stop, offset⟩ | beyond := runs run listed
    · rw [start] at first
      rw [stop] at last
      rw [upper, CaseRun.shift, offset, small _ ascii first last, Char.ofNat_toNat]
    · exact absurd ascii (Nat.not_lt.mpr (Nat.le_trans beyond first))
  · have notSmall : ¬ (97 ≤ char.toNat ∧ char.toNat ≤ 122) := fun ⟨first, last⟩ =>
      uncontained ⟨97, 122, 1, -32⟩ List.mem_cons_self
        (by simp [CaseRun.contains, first, last, Nat.mod_one])
    have same := other _ ascii notSmall
    rw [Char.ofNat_toNat] at same
    rw [upper, ← same]

/-- The upper case of a character that is plain or stands in for plain letters differs from the
plain letters by their case alone. -/
theorem upperCaseOf_plain {char : Char} (plain : IsAscii char ∨ IsStandIn char) :
    upperCaseOf char = ((plainLetters char).map Char.toLower).map Char.toUpper ∧
      (upperCaseOf char).map Char.toLower = (plainLetters char).map Char.toLower := by
  have inTable : ∀ entry ∈ standIns,
      upperCaseOf entry.1 = ((plainLetters entry.1).map Char.toLower).map Char.toUpper ∧
        (upperCaseOf entry.1).map Char.toLower = (plainLetters entry.1).map Char.toLower := by
    decide
  obtain ascii | standIn := plain
  · rw [plainLetters_of_not_standIn fun standIn => not_isAscii_of_standIn standIn ascii]
    simp only [upperCaseOf_ascii ascii, List.map_singleton, Char.toUpper_toLower_eq_toUpper,
      Char.toLower_toUpper_eq_toLower, and_self]
  · obtain ⟨entry, member, rfl⟩ := List.mem_map.mp standIn
    exact inTable entry member

theorem toNat_of_isUpper {char : Char} (capital : char.isUpper = true) :
    65 ≤ char.toNat ∧ char.toNat ≤ 90 := by
  rw [Char.isUpper, decide_eq_true_eq] at capital
  exact capital

theorem isAscii_of_isUpper {char : Char} (capital : char.isUpper = true) : IsAscii char :=
  Nat.lt_of_le_of_lt (toNat_of_isUpper capital).2 (by decide)

theorem not_isUpper_ofNat {code : Nat} (beyond : 128 ≤ code) :
    ¬ (Char.ofNat code).isUpper = true := by
  intro capital
  obtain ⟨above, below⟩ := toNat_of_isUpper capital
  rw [Char.toNat_ofNat] at above below
  by_cases valid : code.isValidChar
  · rw [if_pos valid] at below
    omega
  · rw [if_neg valid] at above
    omega

/-- Only characters in the ASCII range and letters that stand in for plain ones have a capital of
the ASCII range as the upper case that a run gives. -/
theorem plain_of_isUpper_shift {run : CaseRun} (listed : run ∈ upperCaseRuns) {char : Char}
    (contains : run.contains char.toNat = true)
    (capital : (run.shift char.toNat).isUpper = true) : IsAscii char ∨ IsStandIn char := by
  have sorted : ∀ run ∈ upperCaseRuns, run.last < 128 ∨
      (run.first = run.last ∧ IsStandIn (Char.ofNat run.first)) ∨
      128 ≤ run.first + run.offset := by decide +kernel
  simp only [CaseRun.contains, Bool.and_eq_true, decide_eq_true_eq] at contains
  obtain ⟨⟨first, last⟩, _⟩ := contains
  obtain ascii | ⟨single, standIn⟩ | beyond := sorted run listed
  · exact Or.inl (Nat.lt_of_le_of_lt last ascii)
  · have only : run.first = char.toNat := by omega
    rw [only, Char.ofNat_toNat] at standIn
    exact Or.inr standIn
  · exact absurd capital (not_isUpper_ofNat (by omega))

/-- A character whose upper case stands in the name of a method is in the ASCII range or stands in
for plain letters. -/
theorem plain_of_upperCaseOf_infix {char : Char} {known : String} (listed : known ∈ submitMethods)
    (inside : upperCaseOf char <:+: known.toList) : IsAscii char ∨ IsStandIn char := by
  have capitals : ∀ known ∈ submitMethods, known.toList.all Char.isUpper = true := by decide
  have capital : ∀ letter ∈ known.toList, letter.isUpper = true :=
    List.all_eq_true.mp (capitals known listed)
  have expansions : ∀ entry ∈ upperCaseExpansions, ∀ known ∈ submitMethods,
      entry.2.map Char.ofNat <:+: known.toList → IsStandIn (Char.ofNat entry.1) := by
    decide +kernel
  obtain ⟨codes, entry, upper⟩ | ⟨run, inTable, contains, upper⟩ | ⟨_, upper⟩ :=
    upperCaseOf_cases char
  · rw [upper] at inside
    have standIn := expansions _ entry known listed inside
    rw [Char.ofNat_toNat] at standIn
    exact Or.inr standIn
  · rw [upper] at inside
    exact plain_of_isUpper_shift inTable contains (capital _ (inside.subset List.mem_cons_self))
  · rw [upper] at inside
    exact Or.inl (isAscii_of_isUpper (capital _ (inside.subset List.mem_cons_self)))

/-! ### Names of methods -/

theorem isAscii_of_isAscii_toLower {char : Char} (ascii : IsAscii char.toLower) :
    IsAscii char := by
  by_cases capital : char.isUpper = true
  · exact isAscii_of_isUpper capital
  · rwa [Char.toLower_eq_of_not_isUpper capital] at ascii

/-- A text that is the name of a method but for the case of its letters is in the ASCII range. -/
theorem NamesMethod.isAscii {text : String} (named : NamesMethod text) :
    ∀ char ∈ text.toList, IsAscii char := by
  -- A bounded quantifier over characters would be decided by running through all of them.
  have lowered : ∀ known ∈ submitMethods,
      (known.toList.map Char.toLower).all (fun char => decide (char.toNat < 128)) = true := by
    decide
  obtain ⟨known, listed, same⟩ := named
  intro char member
  have inKnown : char.toLower ∈ known.toList.map Char.toLower :=
    same ▸ List.mem_map_of_mem member
  have ascii := List.all_eq_true.mp (lowered known listed) _ inKnown
  rw [decide_eq_true_eq] at ascii
  exact isAscii_of_isAscii_toLower ascii

/-- If the plain spelling of a text is the name of a method, each of its characters is in the ASCII
range or stands in for plain letters. -/
theorem plain_of_namesMethod {text : String} (named : NamesMethod (plainSpelling text))
    {char : Char} (member : char ∈ text.toList) : IsAscii char ∨ IsStandIn char := by
  by_cases standIn : IsStandIn char
  · exact Or.inr standIn
  · refine Or.inl (named.isAscii char ?_)
    rw [plainSpelling, String.toList_ofList, List.mem_flatMap]
    exact ⟨char, member, by rw [plainLetters_of_not_standIn standIn]; exact List.mem_cons_self⟩

/-- The upper case of a text of such characters differs from its plain spelling by case alone. -/
theorem toList_upperCase {text : String}
    (plain : ∀ char ∈ text.toList, IsAscii char ∨ IsStandIn char) :
    (upperCase text).toList = ((plainSpelling text).toList.map Char.toLower).map Char.toUpper ∧
      (upperCase text).toList.map Char.toLower = (plainSpelling text).toList.map Char.toLower := by
  simp only [upperCase, plainSpelling, String.toList_ofList, List.map_flatMap]
  exact ⟨List.flatMap_congr fun char member => (upperCaseOf_plain (plain char member)).1,
    List.flatMap_congr fun char member => (upperCaseOf_plain (plain char member)).2⟩

/-- The upper case of a text is the name of a method exactly if the plain spelling of the text is,
but for the case of its letters. -/
theorem upperCase_mem_submitMethods_iff {text : String} :
    upperCase text ∈ submitMethods ↔ NamesMethod (plainSpelling text) := by
  constructor
  · intro listed
    have plain : ∀ char ∈ text.toList, IsAscii char ∨ IsStandIn char := by
      intro char member
      refine plain_of_upperCaseOf_infix listed ?_
      rw [upperCase, String.toList_ofList, List.flatMap_def]
      exact List.infix_of_mem_flatten (List.mem_map_of_mem member)
    exact ⟨_, listed, (toList_upperCase plain).2.symm⟩
  · intro named
    have capitals := (toList_upperCase fun _ => plain_of_namesMethod named).1
    obtain ⟨known, listed, same⟩ := named
    have restored : ∀ known ∈ submitMethods,
        String.ofList ((known.toList.map Char.toLower).map Char.toUpper) = known := by
      decide
    rw [same] at capitals
    rw [← String.ofList_toList (s := upperCase text), capitals, restored known listed]
    exact listed

/-- Of the texts whose plain spelling is the name of a method, those in which no letter stands in
for a plain one are names of methods themselves. -/
theorem namesMethod_iff_of_plainSpelling {text : String}
    (named : NamesMethod (plainSpelling text)) :
    NamesMethod text ↔ ∀ char ∈ text.toList, ¬ IsStandIn char := by
  constructor
  · exact fun itself char member standIn =>
      not_isAscii_of_standIn standIn (itself.isAscii char member)
  · intro plain
    rwa [plainSpelling_of_no_standIn plain] at named

/-! ### The methods of forms -/

namespace Form

open Tool (reply)

/-- The complaint about a form with a method by which it cannot be submitted. -/
theorem complaint?_of_method {form : Form} {method : String} (given : method ∈ form.method)
    (named : method ≠ "") (unknown : ¬ NamesMethod (plainSpelling method)) :
    complaint? (some form) =
      some ⟨"", if form.fields.isEmpty then .noFields else .unknownMethod method⟩ := by
  have refused : FormCheck.method.fault? form = some (.unknownMethod method) := by
    have notEmpty : method.isEmpty = false :=
      Bool.eq_false_iff.mpr fun empty => named (String.isEmpty_iff.mp empty)
    have notListed : submitMethods.contains (upperCase method) = false := by
      rw [Bool.eq_false_iff, Ne, List.contains_iff_mem, upperCase_mem_submitMethods_iff]
      exact unknown
    rw [FormCheck.fault?, Option.mem_def.mp given, Option.bind_some, notEmpty, notListed]
    rfl
  refine complaint?_some_eq_some_iff.mpr ?_
  cases empty : form.fields.isEmpty with
  | true =>
    refine ⟨[], .fields, _, rfl, List.forall_mem_nil _, ?_, rfl⟩
    rw [FormCheck.fault?, empty]
    rfl
  | false =>
    refine ⟨[.fields], .method, _, rfl, List.forall_mem_singleton.mpr ?_, refused, rfl⟩
    rw [FormCheck.fault?, empty]
    rfl

/-- The method of an accepted form, unless it is left empty, is the name of a known method but for
the case of its letters, once plain letters are set for those that stand in for them. It is such
a name as it is written exactly if no letter stands in for a plain one.

A form document with any other method is reported as invalid by the tool, and so is every one whose
method has a character beyond ASCII that does not stand in for plain letters. -/
theorem method_of_accepted (form : Form) :
    (complaint? (some form) = none → ∀ method ∈ form.method, method ≠ "" →
      NamesMethod (plainSpelling method) ∧
        (NamesMethod method ↔ ∀ char ∈ method.toList, ¬ IsStandIn char)) ∧
    ∀ (defaults : FormDefaults) (argument : Json), Form.parse (.ofArgument argument) = .ok form →
      ∀ method ∈ form.method, method ≠ "" →
        (¬ NamesMethod (plainSpelling method) ∨
          ∃ char ∈ method.toList, ¬ IsAscii char ∧ ¬ IsStandIn char) →
        reply defaults "validate_form" [("form", argument)] =
          reportJson (some
            ⟨"", if form.fields.isEmpty then .noFields else .unknownMethod method⟩) := by
  refine ⟨fun accepted method given named => ?_,
    fun defaults argument read method given named other => ?_⟩
  · have listed := ((WellFormed.of_accepted accepted).method method given).resolve_left named
    have plain := upperCase_mem_submitMethods_iff.mp listed
    exact ⟨plain, namesMethod_iff_of_plainSpelling plain⟩
  · have unknown : ¬ NamesMethod (plainSpelling method) := by
      rcases other with unknown | ⟨char, member, notAscii, notStandIn⟩
      · exact unknown
      · exact fun plain => (plain_of_namesMethod plain member).elim notAscii notStandIn
    rw [Tool.reply_validateForm, read, Except.map, complaint?_of_method given named unknown]

/-- A form with one field and a method. -/
def methodForm (method : String) : Form where
  method := some method
  fields := [some (.mk { name := "note", kind := "text" } [] none)]

/-- The document of the form with one field and a method. -/
def methodDocument (method : String) : Json :=
  .obj [("method", .str method),
    ("fields", .arr [.obj [("name", .str "note"), ("type", .str "text")]])]

theorem parse_methodDocument (method : String) :
    Form.parse (.ofArgument (methodDocument method)) = .ok (methodForm method) := rfl

theorem method_of_methodForm :
    (complaint? (some (methodForm "Patch")) = none ∧ NamesMethod "Patch") ∧
      reply {} "validate_form" [("form", methodDocument "pâtch")] =
        reportJson (some ⟨"", .unknownMethod "pâtch"⟩) := by
  have accepted : complaint? (some (methodForm "Patch")) = none := rfl
  have plain : "Patch".toList.all (fun char => decide (¬ IsStandIn char)) = true := by decide
  refine ⟨⟨accepted, ?_⟩, ?_⟩
  · refine ((method_of_accepted (methodForm "Patch")).1 accepted "Patch" rfl (by decide)).2.mpr ?_
    exact fun char member => of_decide_eq_true (List.all_eq_true.mp plain char member)
  · refine (method_of_accepted (methodForm "pâtch")).2 {} (methodDocument "pâtch")
      (parse_methodDocument _) "pâtch" rfl (by decide) (Or.inr ⟨'â', by decide, ?_, by decide⟩)
    exact Nat.not_lt.mpr (by decide)

/-- The check and the tool accept a method that is no name of a method in any case of its letters,
and has a character beyond ASCII. -/
theorem accepts_longS :
    complaint? (some (methodForm "poſt")) = none ∧
      reply {} "validate_form" [("form", methodDocument "poſt")] = reportJson none ∧
      ¬ NamesMethod "poſt" ∧ ∃ char ∈ "poſt".toList, ¬ IsAscii char := by
  have accepted : complaint? (some (methodForm "poſt")) = none := rfl
  have member : 'ſ' ∈ "poſt".toList := by decide
  have beyond : ¬ IsAscii 'ſ' := Nat.not_lt.mpr (by decide)
  refine ⟨accepted, ?_, fun named => beyond (named.isAscii 'ſ' member), 'ſ', member, beyond⟩
  rw [Tool.reply_validateForm, parse_methodDocument, Except.map, accepted]

end Form

end Formwork
