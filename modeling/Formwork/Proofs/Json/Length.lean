/-
This file compares the lengths of texts. An object from which a member is left out has a
shorter text, and so has everything around it, in every layout. This tells two values
apart by their texts even where the texts cannot be read.
-/

import Formwork.Json.Writer

namespace Formwork

namespace Json

variable {α β γ : Type}

/-- Whether a part stays as it is or becomes shorter when it is written at any level. -/
def Shrinks (write : Nat → α → List Char) (after before : α) : Prop :=
  after = before ∨ ∀ level, (write level after).length < (write level before).length

namespace Shrinks

variable {write : Nat → α → List Char} {write' : Nat → β → List Char}

theorem refl (part : α) : Shrinks write part part := Or.inl rfl

/-- What is joined from two parts shrinks if both parts do. -/
theorem join {writeBoth : Nat → γ → List Char} {both : α → β → γ} {between : Nat → Nat}
    (lengths : ∀ level part part', (writeBoth level (both part part')).length =
      (write level part).length + (write' level part').length + between level)
    {after before : α} {after' before' : β} (first : Shrinks write after before)
    (second : Shrinks write' after' before') :
    Shrinks writeBoth (both after after') (both before before') := by
  rcases first with rfl | first
  · refine second.imp (congrArg (both after)) fun shorter level => ?_
    rw [lengths, lengths]
    exact Nat.add_lt_add_right (Nat.add_lt_add_left (shorter level) _) _
  · refine Or.inr fun level => ?_
    have noLonger : (write' level after').length ≤ (write' level before').length :=
      second.elim (fun same => same ▸ Nat.le_refl _) fun shorter => Nat.le_of_lt (shorter level)
    rw [lengths, lengths]
    exact Nat.add_lt_add_right (Nat.add_lt_add_of_lt_of_le (first level) noLonger) _

end Shrinks

variable {layout : Layout}

/-! ### Arrays -/

theorem length_writeMembers_cons (level : Nat) (member : String × Json)
    (rest : List (String × Json)) :
    (writeMembers layout level (member :: rest)).length =
      (writeAt layout level member.2).length + (writeMembers layout level rest).length +
        ((layout.separator level).length + (writeText member.1).length + 2) := by
  obtain ⟨name, value⟩ := member
  rw [writeMembers]
  simp only [List.length_append, List.length_cons, List.length_nil]
  omega

theorem length_writeMembers_append (level : Nat) (members members' : List (String × Json)) :
    (writeMembers layout level (members ++ members')).length =
      (writeMembers layout level members).length + (writeMembers layout level members').length +
        0 := by
  induction members with
  | nil => simp [writeMembers]
  | cons member rest inductionHypothesis =>
    rw [List.cons_append, length_writeMembers_cons, length_writeMembers_cons, inductionHypothesis]
    omega

/-- The text of an object differs in length from that of its members by what stands around them. -/
theorem length_writeAt_obj (level : Nat) {members : List (String × Json)}
    (nonempty : members ≠ []) :
    (writeAt layout level (.obj members)).length + (layout.separator (level + 1)).length =
      (writeMembers layout (level + 1) members).length + (layout.edge (level + 1)).length +
        (layout.edge level).length + 2 := by
  cases members with
  | nil => exact absurd rfl nonempty
  | cons member rest =>
    rw [length_writeMembers_cons]
    obtain ⟨name, value⟩ := member
    rw [writeAt]
    simp only [List.length_append, List.length_cons, List.length_nil]
    omega

theorem Shrinks.append {members members' rest rest' : List (String × Json)}
    (first : Shrinks (writeMembers layout) members' members)
    (others : Shrinks (writeMembers layout) rest' rest) :
    Shrinks (writeMembers layout) (members' ++ rest') (members ++ rest) :=
  .join length_writeMembers_append first others

/-- A member shrinks if its value does. -/
theorem Shrinks.member (name : String) {after before : Json}
    (value : Shrinks (writeAt layout) after before) :
    Shrinks (writeMembers layout) [(name, after)] [(name, before)] := by
  refine value.imp (congrArg fun value => [(name, value)]) fun shorter level => ?_
  rw [length_writeMembers_cons, length_writeMembers_cons]
  exact Nat.add_lt_add_right (Nat.add_lt_add_right (shorter level) _) _

/-- An object shrinks if its members do, as long as some are left. -/
theorem Shrinks.obj {after before : List (String × Json)} (nonempty : after ≠ [])
    (members : Shrinks (writeMembers layout) after before) :
    Shrinks (writeAt layout) (.obj after) (.obj before) := by
  refine members.imp (congrArg Json.obj) fun shorter level => ?_
  have inside := shorter (level + 1)
  have nonempty' : before ≠ [] := by
    rintro rfl
    exact Nat.not_lt_zero _ inside
  have trimmed := @length_writeAt_obj layout level _ nonempty
  have whole := @length_writeAt_obj layout level _ nonempty'
  omega

end Json

end Formwork
