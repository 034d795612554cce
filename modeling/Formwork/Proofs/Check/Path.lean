/-
This file proves that the path of a trail reads back as the trail, so that different
trails have different paths.

The text of a step ends with a bracket and holds none before. A path, with a point
set before its first step, is therefore cut behind its brackets into the texts of its
steps, each behind a point.
-/

import Formwork.Check.Violation
import Formwork.Proofs.Number.Reading

namespace Formwork

/-! ### Reading paths -/

/-- The digits of a position, as a number. -/
def readPosition? (digits : List Char) : Option Nat :=
  if digits.isEmpty || !digits.all Char.isDigit then none else some (digitsValue digits)

/-- The position behind an opening, if the text begins with the opening. -/
def readBehind? (opening : String) (text : List Char) : Option Nat :=
  if opening.toList.isPrefixOf text then readPosition? (text.drop opening.length) else none

/-- Reads a step from its text behind a point and without the closing bracket. -/
def readSegment? (text : List Char) : Option Segment :=
  (readBehind? ".fields[" text).map .child <|>
  (readBehind? ".conditional.then[" text).map .consequent <|>
  (readBehind? ".conditional.else[" text).map .alternative

/-- Reads steps, each up to its closing bracket. The characters of the current step are kept latest
first. -/
def readTrail? (reversed : List Char) : List Char → Option (List Segment)
  | [] => if reversed.isEmpty then some [] else none
  | char :: rest =>
    if char == ']' then
      (readSegment? reversed.reverse).bind fun segment =>
        (readTrail? [] rest).map (segment :: ·)
    else readTrail? (char :: reversed) rest

/-- Reads the path of a trail that begins at a form: first a step to one of the fields of the
form, then any steps behind points. The empty path leads to the form itself. -/
def readPath? (path : String) : Option (List Segment) :=
  if path.isEmpty then some []
  else
    match readTrail? [] ('.' :: path.toList) with
    | some (.child position :: rest) => some (.child position :: rest)
    | _ => none

/-! ### Texts of steps -/

theorem showInt_natCast (position : Nat) :
    (Fault.showInt position).toList = Nat.toDigits 10 position := by
  have notNegative : ¬ (position : Int) < 0 := by omega
  simp only [Fault.showInt, Scalar.display, decimalText, if_neg notNegative, Int.natAbs_natCast,
    String.toList_ofList]

theorem readPosition?_toDigits (position : Nat) :
    readPosition? (Nat.toDigits 10 position) = some position := by
  have digits : (Nat.toDigits 10 position).all Char.isDigit = true :=
    List.all_eq_true.mpr fun char member => isDigit_of_mem_toDigits member
  have nonempty : (Nat.toDigits 10 position).isEmpty = false := by simp
  simp only [readPosition?, digits, nonempty, Bool.not_true, Bool.or_self, Bool.false_eq_true,
    if_false, digitsValue_toDigits]

theorem readBehind?_append (opening : String) (position : Nat) :
    readBehind? opening (opening.toList ++ Nat.toDigits 10 position) = some position := by
  have begins : opening.toList.isPrefixOf (opening.toList ++ Nat.toDigits 10 position) = true :=
    List.isPrefixOf_iff_prefix.mpr (List.prefix_append _ _)
  rw [readBehind?, if_pos begins, ← String.length_toList, List.drop_left,
    readPosition?_toDigits]

namespace Segment

/-- The text of a step behind a point, up to its position. -/
def opening : Segment → String
  | .child _ => ".fields["
  | .consequent _ => ".conditional.then["
  | .alternative _ => ".conditional.else["

/-- The position that a step leads to in its list. -/
def position : Segment → Nat
  | .child position => position
  | .consequent position => position
  | .alternative position => position

theorem toList_text (segment : Segment) :
    '.' :: segment.text.toList =
      segment.opening.toList ++ Nat.toDigits 10 segment.position ++ [']'] := by
  have written : ∀ (word opening : String) (position : Nat),
      opening.toList = '.' :: word.toList →
      '.' :: (word ++ Fault.showInt position ++ "]").toList =
        opening.toList ++ Nat.toDigits 10 position ++ [']'] := by
    intro word opening position same
    rw [String.toList_append, String.toList_append, showInt_natCast, same]
    rfl
  cases segment with
  | child position => exact written "fields[" ".fields[" position rfl
  | consequent position => exact written "conditional.then[" ".conditional.then[" position rfl
  | alternative position => exact written "conditional.else[" ".conditional.else[" position rfl

theorem readSegment?_opening (segment : Segment) :
    readSegment? (segment.opening.toList ++ Nat.toDigits 10 segment.position) =
      some segment := by
  have other : ∀ (opening : String) (text : List Char),
      opening.toList.isPrefixOf text = false → readBehind? opening text = none := by
    intro opening text differs
    rw [readBehind?, differs]
    rfl
  cases segment with
  | child position =>
    simp only [readSegment?, opening, Segment.position, readBehind?_append]
    rfl
  | consequent position =>
    simp only [readSegment?, opening, Segment.position, readBehind?_append]
    rw [other ".fields[" _ rfl]
    rfl
  | alternative position =>
    simp only [readSegment?, opening, Segment.position, readBehind?_append]
    rw [other ".fields[" _ rfl, other ".conditional.then[" _ rfl]
    rfl

theorem not_mem_opening (segment : Segment) : ∀ char ∈ segment.opening.toList, char ≠ ']' := by
  have noBracket : ']' ∉ segment.opening.toList := by
    cases segment with
    | child position => exact (by decide : ']' ∉ ".fields[".toList)
    | consequent position => exact (by decide : ']' ∉ ".conditional.then[".toList)
    | alternative position => exact (by decide : ']' ∉ ".conditional.else[".toList)
  exact fun char member same => noBracket (same ▸ member)

theorem text_ne_nil (segment : Segment) : segment.text.toList ≠ [] := by
  intro empty
  have written := segment.toList_text
  rw [empty] at written
  have bracket : ('.' : Char) = ']' := by
    simpa using congrArg List.getLast? written
  exact absurd bracket (by decide)

end Segment

/-! ### Reading the text of steps -/

/-- Characters before a closing bracket belong to the current step. -/
theorem readTrail?_append {word : List Char} (noBracket : ∀ char ∈ word, char ≠ ']')
    (reversed rest : List Char) :
    readTrail? reversed (word ++ rest) = readTrail? (word.reverse ++ reversed) rest := by
  induction word generalizing reversed with
  | nil => rfl
  | cons char others inductionHypothesis =>
    have notBracket : (char == ']') = false :=
      beq_eq_false_iff_ne.mpr (noBracket char List.mem_cons_self)
    rw [List.cons_append, readTrail?, notBracket, if_neg Bool.false_ne_true,
      inductionHypothesis fun char member => noBracket char (List.mem_cons_of_mem _ member)]
    simp

theorem readTrail?_segment (segment : Segment) (rest : List Char) :
    readTrail? [] ('.' :: segment.text.toList ++ rest) =
      (readTrail? [] rest).map (segment :: ·) := by
  have noBracket : ∀ char ∈ segment.opening.toList ++ Nat.toDigits 10 segment.position,
      char ≠ ']' := by
    intro char member
    rcases List.mem_append.mp member with opening | digit
    · exact segment.not_mem_opening char opening
    · rintro rfl
      exact absurd (isDigit_of_mem_toDigits digit) (by decide)
  rw [segment.toList_text, List.append_assoc, readTrail?_append noBracket, List.append_nil,
    List.singleton_append, readTrail?, List.reverse_reverse, segment.readSegment?_opening]
  rfl

/-- The steps of a trail, each behind a point. -/
def dotted (trail : List Segment) : List Char :=
  trail.flatMap fun segment => '.' :: segment.text.toList

theorem readTrail?_dotted (trail : List Segment) : readTrail? [] (dotted trail) = some trail := by
  induction trail with
  | nil => rfl
  | cons segment rest inductionHypothesis =>
    rw [dotted, List.flatMap_cons, readTrail?_segment]
    show (readTrail? [] (dotted rest)).map _ = _
    rw [inductionHypothesis]
    rfl

theorem toList_pathBelow (base : String) (trail : List Segment) :
    (pathBelow base trail).toList = base.toList ++ dotted trail := by
  induction trail generalizing base with
  | nil => simp [pathBelow, dotted]
  | cons segment rest inductionHypothesis =>
    have step : pathBelow base (segment :: rest) =
        pathBelow (base ++ "." ++ segment.text) rest := rfl
    rw [step, inductionHypothesis, String.toList_append, String.toList_append]
    simp [dotted]

/-! ### The paths of trails -/

theorem toList_pathOf_cons (first : Segment) (rest : List Segment) :
    '.' :: (pathOf (first :: rest)).toList = dotted (first :: rest) := by
  rw [pathOf, toList_pathBelow]
  rfl

/-- Only the trail to the form itself has the empty path. -/
theorem pathOf_isEmpty_iff (trail : List Segment) : (pathOf trail).isEmpty = true ↔ trail = [] := by
  cases trail with
  | nil => exact iff_of_true rfl rfl
  | cons first rest =>
    refine iff_of_false (fun empty => ?_) (List.cons_ne_nil _ _)
    have written := toList_pathOf_cons first rest
    rw [String.isEmpty_iff.mp empty] at written
    rw [dotted, List.flatMap_cons, List.cons_append] at written
    have nothing := (List.cons.inj written).2
    exact first.text_ne_nil (List.append_eq_nil_iff.mp nothing.symm).1

/-- The path of a trail from a form reads back as the trail. -/
theorem readPath?_pathOf {trail : List Segment}
    (rooted : ∀ segment ∈ trail.head?, ∃ position, segment = .child position) :
    readPath? (pathOf trail) = some trail := by
  cases trail with
  | nil => rfl
  | cons first rest =>
    obtain ⟨position, rfl⟩ := rooted first rfl
    have notEmpty : ¬ (pathOf (.child position :: rest)).isEmpty = true := fun empty =>
      List.cons_ne_nil _ _ ((pathOf_isEmpty_iff _).mp empty)
    rw [readPath?, if_neg notEmpty, toList_pathOf_cons, readTrail?_dotted]

end Formwork
