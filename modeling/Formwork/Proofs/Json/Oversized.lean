/-
This file proves that the text of a value is refused if a whole number in it has too many
digits.

The lexer takes such a number as a word and cannot say what it denotes. It is stuck from
there on, since only a character that ends the word can follow, and that character asks for
what the word denotes. What stands before the number is cut as in any other text.
-/

import Formwork.Proofs.Json.ReadBack

namespace Formwork

namespace Token

/-! ### Stuck lexers -/

/-- Whether a lexer has begun a word that denotes nothing as it stands. -/
def Lexer.Stuck (lexer : Lexer) : Prop :=
  ∃ reversed, lexer.progress = .word reversed ∧ readWord? reversed.reverse = none

/-- Whether the first character of a text, if there is one, ends a word before it. -/
def EndsWord (text : List Char) : Prop := ∀ char ∈ text.head?, isWordChar char = false

theorem EndsWord.append {first second : List Char} (ends : EndsWord first)
    (ends' : EndsWord second) : EndsWord (first ++ second) := by
  cases first with
  | nil => exact ends'
  | cons char rest => exact ends

/-- What ends a word gets no lexer out of a word that denotes nothing. -/
theorem Lexer.Stuck.of_feedAll? {lexer next : Lexer} (stuck : lexer.Stuck) {text : List Char}
    (ends : EndsWord text) (fed : lexer.feedAll? text = some next) : next.Stuck := by
  cases text with
  | nil => exact Option.some.inj fed ▸ stuck
  | cons char rest =>
    obtain ⟨progress, tokens⟩ := lexer
    obtain ⟨reversed, rfl, unread⟩ := stuck
    have outside : isWordChar char = false := ends char rfl
    simp only [feedAll?_cons, feed?, outside, unread, Bool.false_eq_true, if_false] at fed
    cases fed

/-! ### Texts that jam the lexer -/

/-- Whether a text, begun between two tokens, leaves the lexer stuck if it is taken at all. -/
def Jams (text : List Char) : Prop :=
  ∀ before next, Lexer.feedAll? ⟨.between, before⟩ text = some next → next.Stuck

/-- Whether a text, begun after a token, leaves the lexer stuck if it is taken at all. -/
def JamsAfter (text : List Char) : Prop :=
  ∀ (lexer next : Lexer) (before : List Token), lexer.settled? = some before →
    lexer.feedAll? text = some next → next.Stuck

theorem JamsAfter.jams {text : List Char} (jams : JamsAfter text) : Jams text :=
  fun before next fed => jams ⟨.between, before⟩ next before rfl fed

theorem Jams.append {first second : List Char} (jams : Jams first) (ends : EndsWord second) :
    Jams (first ++ second) := by
  intro before next fed
  rw [Lexer.feedAll?_append] at fed
  obtain ⟨between, fed, fed'⟩ := Option.bind_eq_some_iff.mp fed
  exact (jams before between fed).of_feedAll? ends fed'

theorem JamsAfter.append {first second : List Char} (jams : JamsAfter first)
    (ends : EndsWord second) : JamsAfter (first ++ second) := by
  intro lexer next before settled fed
  rw [Lexer.feedAll?_append] at fed
  obtain ⟨between, fed, fed'⟩ := Option.bind_eq_some_iff.mp fed
  exact (jams lexer between before settled fed).of_feedAll? ends fed'

theorem Cuts.append_jams {first second : List Char} {found : List Token}
    (cuts : Cuts first found) (jams : JamsAfter second) : Jams (first ++ second) := by
  intro before next fed
  obtain ⟨between, fed', settled⟩ := cuts before
  rw [Lexer.feedAll?_append, fed', Option.bind_some] at fed
  exact jams between next _ settled fed

theorem CutsAfter.append_jams {first second : List Char} {found : List Token}
    (cuts : CutsAfter first found) (jams : JamsAfter second) : JamsAfter (first ++ second) := by
  intro lexer next before settled fed
  obtain ⟨between, fed', settledBetween⟩ := cuts lexer before settled
  rw [Lexer.feedAll?_append, fed', Option.bind_some] at fed
  exact jams between next _ settledBetween fed

/-- A mark of punctuation and blanks, followed by a text that jams. -/
theorem Jams.after_punctuation {text : List Char} (jams : Jams text) (char : Char)
    (blanks : List Char) {token : Token} (mark : punctuation? char = some token)
    (onlyBlanks : ∀ char ∈ blanks, isSeparator char = true) :
    JamsAfter (char :: blanks ++ text) := by
  intro lexer next before settled fed
  rw [Lexer.feedAll?_append, Lexer.feedAll?_punctuation_blanks settled mark onlyBlanks,
    Option.bind_some] at fed
  exact jams _ next fed

theorem jams_decimalText {value : Int}
    (long : digitLimit < Binary64.decimalWidth value.natAbs) : Jams (decimalText value) := by
  have spelled := NumberLiteral.isSpelled_ofWhole value
  have unread := NumberLiteral.readNumeral?_text_of_lt spelled long (decide (value < 0))
  have nonempty : NumberLiteral.signText (decide (value < 0)) ++
      (NumberLiteral.ofWhole value).text ≠ [] := by
    obtain ⟨first, after, begins, _⟩ := spelled.text_eq_cons
    rw [begins]
    exact List.append_ne_nil_of_right_ne_nil _ (List.cons_ne_nil _ _)
  rw [decimalText_eq]
  intro before next fed
  rw [Lexer.feedAll?_whole_word nonempty (isWordChar_text spelled.onlyDigits _)] at fed
  obtain rfl := Option.some.inj fed
  refine ⟨_, rfl, ?_⟩
  rw [List.reverse_reverse, readWord?_text spelled, unread]
  rfl

/-! ### Arrays and objects -/

variable {layout : Json.Layout}

theorem endsWord_closing (layout : Json.Layout) (level : Nat) {mark : Char}
    (outside : isWordChar mark = false) : EndsWord (layout.edge level ++ [mark]) := by
  have ends : EndsWord [mark] := fun char same => Option.some.inj same ▸ outside
  cases layout with
  | line => exact ends
  | lines unit => exact EndsWord.append (fun char same => Option.some.inj same ▸ by decide) ends

theorem endsWord_separator (layout : Json.Layout) (level : Nat) (text : List Char) :
    EndsWord (layout.separator level ++ text) := by
  intro char first
  cases layout <;> exact Option.some.inj first ▸ by decide

theorem endsWord_writeItems (layout : Json.Layout) (level : Nat) (items : List Json) :
    EndsWord (Json.writeItems layout level items) := by
  cases items with
  | nil => exact nofun
  | cons item rest =>
    rw [Json.writeItems, List.append_assoc]
    exact endsWord_separator layout level _

theorem endsWord_writeMembers (layout : Json.Layout) (level : Nat)
    (members : List (String × Json)) : EndsWord (Json.writeMembers layout level members) := by
  cases members with
  | nil => exact nofun
  | cons member rest =>
    obtain ⟨name, value⟩ := member
    simp only [Json.writeMembers, List.append_assoc]
    exact endsWord_separator layout level _

/-- A name, the colon and a value that jams. -/
theorem jams_member (name : String) {text : List Char} (jams : Jams text) :
    Jams (Json.writeText name ++ ([':', ' '] ++ text)) :=
  (cuts_writeText name).append_jams
    (jams.after_punctuation ':' [' '] rfl (List.forall_mem_singleton.mpr rfl))

theorem jamsAfter_separator (blank : layout.Blank) (level : Nat) {text : List Char}
    (jams : Jams text) : JamsAfter (layout.separator level ++ text) := by
  obtain ⟨blanks, written, onlyBlanks⟩ := Json.Layout.separator_eq blank level
  rw [written]
  exact jams.after_punctuation ',' blanks rfl onlyBlanks

/-- The items jam if one of them cannot be written so that it is read: those before it are cut. -/
theorem jamsAfter_writeItems (blank : layout.Blank) (level : Nat) {items : List Json}
    (jams : ∀ item ∈ items, ¬ item.Legible → Jams (item.writeAt layout level))
    (illegible : ¬ ∀ item ∈ items, item.Legible) :
    JamsAfter (Json.writeItems layout level items) := by
  induction items with
  | nil => exact absurd (fun _ none => by cases none) illegible
  | cons item rest inductionHypothesis =>
    rw [Json.writeItems]
    by_cases legible : item.Legible
    · have first := cutsAfter_separator blank level (cuts_writeAt blank item legible level)
      exact first.append_jams (inductionHypothesis
        (fun item later => jams item (List.mem_cons_of_mem _ later))
        fun all => illegible (List.forall_mem_cons.mpr ⟨legible, all⟩))
    · exact (jamsAfter_separator blank level (jams item List.mem_cons_self legible)).append
        (endsWord_writeItems layout level rest)

theorem jamsAfter_writeMembers (blank : layout.Blank) (level : Nat)
    {members : List (String × Json)}
    (jams : ∀ member ∈ members, ¬ member.2.Legible → Jams (member.2.writeAt layout level))
    (illegible : ¬ ∀ member ∈ members, member.2.Legible) :
    JamsAfter (Json.writeMembers layout level members) := by
  induction members with
  | nil => exact absurd (fun _ none => by cases none) illegible
  | cons member rest inductionHypothesis =>
    obtain ⟨name, value⟩ := member
    rw [Json.writeMembers]
    by_cases legible : value.Legible
    · have first := cutsAfter_separator blank level
        (cuts_member name (cuts_writeAt blank value legible level))
      have others := inductionHypothesis
        (fun member later => jams member (List.mem_cons_of_mem _ later))
        fun all => illegible (List.forall_mem_cons.mpr ⟨legible, all⟩)
      simpa only [List.append_assoc, List.cons_append] using first.append_jams others
    · have first := jamsAfter_separator blank level
        (jams_member name (jams (name, value) List.mem_cons_self legible))
      simpa only [List.append_assoc, List.cons_append] using
        first.append (endsWord_writeMembers layout level rest)

/-- The text of a value jams the lexer if a whole number in the value has too many digits. -/
theorem jams_writeAt (blank : layout.Blank) (value : Json) (illegible : ¬ value.Legible)
    (level : Nat) : Jams (value.writeAt layout level) := by
  induction value using Json.induction generalizing level with
  | int value => exact jams_decimalText (Nat.lt_of_not_le illegible)
  | arr items inductionHypothesis =>
    cases items with
    | nil => exact absurd (Json.legible_arr.mpr fun _ none => by cases none) illegible
    | cons item rest =>
      have closing : EndsWord (layout.edge level ++ [']']) := endsWord_closing layout level rfl
      have blanks := @Json.Layout.isSeparator_of_mem_edge _ blank (level + 1)
      rw [Json.writeAt]
      by_cases legible : item.Legible
      · have first := (cuts_writeAt blank item legible (level + 1)).after_punctuation '[' _ rfl
          blanks
        have later := jamsAfter_writeItems blank (level + 1)
          (fun item' member illegible => inductionHypothesis item'
            (List.mem_cons_of_mem _ member) illegible (level + 1))
          fun all => illegible (Json.legible_arr.mpr (List.forall_mem_cons.mpr ⟨legible, all⟩))
        have whole := (first.append_jams later).append closing
        simpa only [List.append_assoc, List.cons_append] using whole.jams
      · have first := (inductionHypothesis item List.mem_cons_self legible
          (level + 1)).after_punctuation '[' _ rfl blanks
        have whole := first.append ((endsWord_writeItems layout (level + 1) rest).append closing)
        simpa only [List.append_assoc, List.cons_append] using whole.jams
  | obj members inductionHypothesis =>
    cases members with
    | nil => exact absurd (Json.legible_obj.mpr fun _ none => by cases none) illegible
    | cons member rest =>
      obtain ⟨name, value⟩ := member
      have closing : EndsWord (layout.edge level ++ ['\x7d']) := endsWord_closing layout level rfl
      have blanks := @Json.Layout.isSeparator_of_mem_edge _ blank (level + 1)
      rw [Json.writeAt]
      by_cases legible : value.Legible
      · have first := (cuts_member name
          (cuts_writeAt blank value legible (level + 1))).after_punctuation '\x7b' _ rfl blanks
        have later := jamsAfter_writeMembers blank (level + 1)
          (fun member' inside illegible => inductionHypothesis member'
            (List.mem_cons_of_mem _ inside) illegible (level + 1))
          fun all => illegible (Json.legible_obj.mpr (List.forall_mem_cons.mpr ⟨legible, all⟩))
        have whole := (first.append_jams later).append closing
        simpa only [List.append_assoc, List.cons_append] using whole.jams
      · have first := (jams_member name (inductionHypothesis (name, value) List.mem_cons_self
          legible (level + 1))).after_punctuation '\x7b' _ rfl blanks
        have whole := first.append ((endsWord_writeMembers layout (level + 1) rest).append closing)
        simpa only [List.append_assoc, List.cons_append] using whole.jams
  | _ => exact absurd trivial illegible

theorem scan?_writeAt_of_not_legible (blank : layout.Blank) {value : Json}
    (illegible : ¬ value.Legible) : scan? (value.writeAt layout 0) = none := by
  unfold scan?
  cases fed : (value.writeAt layout 0).foldlM Lexer.feed? ⟨.between, []⟩ with
  | none => rfl
  | some next =>
    obtain ⟨progress, tokens⟩ := next
    obtain ⟨reversed, rfl, unread⟩ := jams_writeAt blank value illegible 0 [] _ fed
    simp only [Lexer.finish?, unread, Option.map_none]

end Token

namespace Json

/-- The text of a value is refused if a whole number in the value has too many digits. -/
theorem read?_write_of_not_legible {layout : Layout} (blank : layout.Blank) {value : Json}
    (illegible : ¬ value.Legible) (limit : Nat) : read? limit (value.write layout) = none := by
  simp only [read?, write, String.toList_ofList, Token.scan?_writeAt_of_not_legible blank illegible]

/-- The least number with too many digits. -/
def longNumber : Json := .int (Nat.pow 10 digitLimit : Nat)

theorem not_legible_longNumber : ¬ longNumber.Legible := by
  have width : ∀ shift, Binary64.decimalWidth (Nat.pow 10 shift) = 1 + shift := fun shift => by
    have shifted := Binary64.decimalWidth_mul_pow_ten Nat.one_pos shift
    rwa [Nat.one_mul] at shifted
  rw [longNumber, legible_int, Int.natAbs_natCast, width]
  omega

end Json

end Formwork
