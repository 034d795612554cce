/-
This file defines the result of reading a part of a document: a value, or the
issues that were found instead. Parts are read independently of each other and
combined afterwards, so the issues of all parts are kept, in order: this is what
`Decoded.issues_both` says.
-/

import Formwork.Decoding.Issue

namespace Formwork

/-- A value, or the issues found in its place. -/
inductive Decoded (α : Type) where
  | ok (value : α)
  | failed (issues : List Issue)
  deriving DecidableEq

namespace Decoded

variable {α β : Type}

/-- Applies a function to the value. -/
def map (function : α → β) : Decoded α → Decoded β
  | .ok value => .ok (function value)
  | .failed issues => .failed issues

/-- Applies a decoded function to a decoded value; if both failed, the issues of the function
come first. -/
def both : Decoded (α → β) → Decoded α → Decoded β
  | .ok function, .ok value => .ok (function value)
  | .ok _, .failed issues => .failed issues
  | .failed issues, .ok _ => .failed issues
  | .failed issues, .failed issues' => .failed (issues ++ issues')

instance : Applicative Decoded where
  pure := ok
  map := map
  seq decoded rest := both decoded (rest ())

/-- The failure with one issue at the value itself. -/
def mismatch (mismatch : Mismatch) : Decoded α := .failed [⟨[], mismatch⟩]

/-- Moves the issues of a part to the place of the part. -/
def under (step : LocationStep) : Decoded α → Decoded α
  | .ok value => .ok value
  | .failed issues =>
    .failed (issues.map fun issue => { issue with location := step :: issue.location })

/-- The issues, none for a value. -/
def issues : Decoded α → List Issue
  | .ok _ => []
  | .failed issues => issues

/-- All values of a list, or the issues of all its members. -/
def all : List (Decoded α) → Decoded (List α)
  | [] => .ok []
  | first :: rest => both (map List.cons first) (all rest)

/-- All values of a list, with issues placed at the positions counted from `start`. -/
def allFrom (start : Nat) : List (Decoded α) → Decoded (List α)
  | [] => .ok []
  | first :: rest =>
    both (map List.cons (first.under (.index start))) (allFrom (start + 1) rest)

/-- All values of a list, with issues placed at their positions. -/
def allIndexed (items : List (Decoded α)) : Decoded (List α) := allFrom 0 items

/-- All values of named members, with issues placed at their names. -/
def allNamed (members : List (String × Decoded α)) : Decoded (List (String × α)) :=
  all (members.map fun member =>
    map (fun value => (member.1, value)) (member.2.under (.name member.1)))

/-! ### The issues of combined parts -/

theorem issues_map (function : α → β) (decoded : Decoded α) :
    (decoded.map function).issues = decoded.issues := by
  cases decoded <;> rfl

/-- Combining two parts keeps the issues of both, those of the first part first. -/
theorem issues_both (function : Decoded (α → β)) (decoded : Decoded α) :
    (both function decoded).issues = function.issues ++ decoded.issues := by
  cases function <;> cases decoded <;> simp [both, issues]

theorem issues_under (step : LocationStep) (decoded : Decoded α) :
    (decoded.under step).issues =
      decoded.issues.map fun issue => { issue with location := step :: issue.location } := by
  cases decoded <;> rfl

end Decoded

end Formwork
