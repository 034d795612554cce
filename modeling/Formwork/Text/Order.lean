/-
This file orders texts by their code points, the order in which the members of a
mapping are kept.
-/

namespace Formwork

/-- Whether the first list of characters comes strictly before the second one: at the first
difference the smaller code point decides, and a proper beginning comes first. -/
def precedesChars : List Char → List Char → Bool
  | _, [] => false
  | [], _ :: _ => true
  | first :: rest, first' :: rest' =>
    if first.toNat < first'.toNat then true
    else if first'.toNat < first.toNat then false
    else precedesChars rest rest'

/-- Whether the first text comes strictly before the second one. -/
def precedes (text text' : String) : Bool := precedesChars text.toList text'.toList

theorem precedesChars_irrefl (text : List Char) : precedesChars text text = false := by
  induction text with
  | nil => rfl
  | cons first rest inductionHypothesis => simp [precedesChars, inductionHypothesis]

theorem precedesChars_trans {first second third : List Char}
    (before : precedesChars first second = true) (after : precedesChars second third = true) :
    precedesChars first third = true := by
  induction first generalizing second third with
  | nil =>
    cases second with
    | nil => simp [precedesChars] at before
    | cons => cases third <;> simp_all [precedesChars]
  | cons char rest inductionHypothesis =>
    cases second with
    | nil => simp [precedesChars] at before
    | cons char' rest' =>
      cases third with
      | nil => simp [precedesChars] at after
      | cons char'' rest'' =>
        simp only [precedesChars] at before after ⊢
        split at before
        · split at after
          · rw [if_pos (by omega)]
          · split at after
            · simp at after
            · rw [if_pos (by omega)]
        · split at before
          · simp at before
          · split at after
            · rw [if_pos (by omega)]
            · split at after
              · simp at after
              · rw [if_neg (by omega), if_neg (by omega)]
                exact inductionHypothesis before after

theorem eq_of_not_precedesChars {first second : List Char}
    (notBefore : precedesChars first second = false)
    (notAfter : precedesChars second first = false) : first = second := by
  induction first generalizing second with
  | nil => cases second <;> simp_all [precedesChars]
  | cons char rest inductionHypothesis =>
    cases second with
    | nil => simp [precedesChars] at notAfter
    | cons char' rest' =>
      simp only [precedesChars] at notBefore notAfter
      split at notBefore
      · simp at notBefore
      · split at notBefore
        · split at notAfter
          · simp at notAfter
          · omega
        · rw [if_neg (by omega), if_neg (by omega)] at notAfter
          have same : char = char' := Char.toNat_inj.mp (by omega)
          rw [same, inductionHypothesis notBefore notAfter]

end Formwork
