/-
This file proves that reading values leniently produces nothing that could not be
written again.

Whole numbers may be given in several ways. A truth value and a double are small, and
a string has to spell the number by the digits that a document may have, so only a
whole number that was too long to begin with stays too long.
-/

import Formwork.Proofs.Decoding.Attribute
import Formwork.Proofs.Json.ReadBack

namespace Formwork

namespace Decode

theorem toJson_of_scalar {json : Json} {value : Scalar} (read : scalar json = .ok value) :
    value.toJson = json := by
  cases json <;> cases read <;> rfl

theorem legible_of_scalar {json : Json} {value : Scalar} (read : scalar json = .ok value)
    (legible : json.Legible) : value.toJson.Legible := by
  rw [toJson_of_scalar read]
  exact legible

theorem wholeFloat_eq_ok {value : Binary64} {whole : Int}
    (read : wholeFloat value = .ok whole) : whole.natAbs < wordBound := by
  unfold wholeFloat at read
  split at read
  · cases read
  split at read
  · cases read
  split at read
  · rename_i small
    cases read
    exact small
  · cases read

theorem legible_of_small {value : Int} (small : value.natAbs < wordBound) :
    (Json.int value).Legible := by
  have short : Binary64.decimalWidth value.natAbs ≤ 19 := by
    refine (Nat.length_toDigits_le_iff (by decide) (by decide)).mpr ?_
    exact Nat.lt_trans small (by decide)
  exact Json.legible_int.mpr (Nat.le_trans short (by decide))

/-- A whole number that was read can be written if the value it was read from can be. -/
theorem legible_of_int {json : Json} {value : Int} (read : int json = .ok value)
    (legible : json.Legible) : (Json.int value).Legible := by
  cases json with
  | int value =>
    cases read
    exact legible
  | bool value =>
    cases read
    cases value <;> exact legible_of_small (by decide)
  | float value => exact legible_of_small (wholeFloat_eq_ok read)
  | str text =>
    simp only [int, readLenientInt] at read
    split at read
    · rename_i value' found
      cases read
      split at found
      · cases found
      split at found
      · rename_i value'' plain
        cases found
        obtain ⟨digits, _, reads⟩ := Option.bind_eq_some_iff.mp plain
        exact Json.legible_int.mpr (decimalWidth_of_readNumeral? reads)
      · cases found
    · cases read
    · cases read
  | null => cases read
  | arr items => cases read
  | obj members => cases read

/-! ### Attributes -/

variable {members : List (String × Json)}

/-- Keeping one member of each name inside of the members adds nothing that cannot be written. -/
theorem legible_map_collapse (given : (Json.obj members).Legible) :
    (Json.obj (members.map fun member => (member.1, member.2.collapse))).Legible :=
  Json.legible_obj.mpr (List.forall_mem_map.mpr fun member inside =>
    Json.legible_collapse (Json.legible_obj.mp given member inside))

theorem legible_of_optional_int {names : List String} {value : Option Int}
    (read : optional names int members = .ok value)
    (legible : (Json.obj members).Legible) :
    ∀ present, value = some present → (Json.int present).Legible := by
  intro present held
  obtain ⟨member, inside, decoded⟩ := optional_eq_ok read present held
  exact legible_of_int decoded (Json.legible_obj.mp legible member inside)

theorem legible_of_withDefault_scalar {names : List String} {value : Scalar}
    (read : withDefault names .null scalar members = .ok value)
    (given : (Json.obj members).Legible) : value.toJson.Legible := by
  rcases entry_eq_ok read with absent | ⟨member, inside, decoded⟩
  · cases absent
    trivial
  · exact legible_of_scalar decoded (Json.legible_obj.mp given member inside)

end Decode

end Formwork
