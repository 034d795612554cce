/-
This file puts the members of a mapping in ascending order of their names. The
order in which a mapping was written carries no meaning, so equal mappings are
equal lists, and the first member is the one with the smallest name. The main
statement is `ascending_sortMembers`: whatever the order and the repetitions of
the given members, the names of the mapping ascend strictly. Changing the values
commutes with putting the members in order.
-/

import Formwork.Text.Order

namespace Formwork

variable {α : Type}

/-- Gives a name a value in a mapping, replacing an older value. -/
def insertMember (name : String) (value : α) : List (String × α) → List (String × α)
  | [] => [(name, value)]
  | (name', value') :: rest =>
    if precedes name name' then (name, value) :: (name', value') :: rest
    else if precedes name' name then (name', value') :: insertMember name value rest
    else (name, value) :: rest

/-- The mapping with the given members; of two members with one name the later one counts. -/
def sortMembers (members : List (String × α)) : List (String × α) :=
  members.foldl (fun sorted member => insertMember member.1 member.2 sorted) []

/-- Whether the names of the members ascend strictly. -/
def Ascending (members : List (String × α)) : Prop :=
  members.Pairwise fun first second => precedes first.1 second.1 = true

/-! ### The members of a mapping -/

theorem mem_of_mem_insertMember {name : String} {value : α}
    {members : List (String × α)} {member : String × α}
    (inserted : member ∈ insertMember name value members) :
    member = (name, value) ∨ member ∈ members := by
  induction members with
  | nil => exact Or.inl (List.mem_singleton.mp inserted)
  | cons head rest inductionHypothesis =>
    obtain ⟨name', value'⟩ := head
    simp only [insertMember] at inserted
    split at inserted
    · exact List.mem_cons.mp inserted
    split at inserted
    · rcases List.mem_cons.mp inserted with same | deeper
      · exact Or.inr (List.mem_cons.mpr (Or.inl same))
      · rcases inductionHypothesis deeper with new | older
        · exact Or.inl new
        · exact Or.inr (List.mem_cons_of_mem _ older)
    · rcases List.mem_cons.mp inserted with same | older
      · exact Or.inl same
      · exact Or.inr (List.mem_cons_of_mem _ older)

/-- A mapping has no members but the given ones. -/
theorem mem_of_mem_sortMembers {members : List (String × α)} {member : String × α}
    (sorted : member ∈ sortMembers members) : member ∈ members := by
  have keeps : ∀ (rest kept : List (String × α)), (∀ member ∈ rest, member ∈ members) →
      (∀ member ∈ kept, member ∈ members) →
      ∀ member ∈ rest.foldl (fun sorted member => insertMember member.1 member.2 sorted) kept,
        member ∈ members := by
    intro rest
    induction rest with
    | nil => exact fun _ _ known => known
    | cons head rest inductionHypothesis =>
      intro kept given known
      refine inductionHypothesis _ (fun member later => given member (List.mem_cons_of_mem _ later))
        fun member put => ?_
      rcases mem_of_mem_insertMember put with rfl | older
      · exact given head List.mem_cons_self
      · exact known member older
  exact keeps members [] (fun _ given => given) (fun _ none => by cases none) member sorted

/-! ### The order of the members -/

theorem ascending_insertMember (name : String) (value : α) {members : List (String × α)}
    (ascending : Ascending members) : Ascending (insertMember name value members) := by
  induction members with
  | nil => simp [insertMember, Ascending]
  | cons head rest inductionHypothesis =>
    obtain ⟨name', value'⟩ := head
    obtain ⟨below, ascendingRest⟩ := List.pairwise_cons.mp ascending
    simp only [insertMember]
    split
    · rename_i before
      refine List.pairwise_cons.mpr ⟨fun member later => ?_, ascending⟩
      rcases List.mem_cons.mp later with same | older
      · rw [same]; exact before
      · exact precedesChars_trans before (below member older)
    · split
      · rename_i after
        refine List.pairwise_cons.mpr ⟨fun member later => ?_, inductionHypothesis ascendingRest⟩
        rcases mem_of_mem_insertMember later with rfl | older
        · exact after
        · exact below member older
      · rename_i notBefore notAfter
        have same : name = name' := String.toList_injective
          (eq_of_not_precedesChars (Bool.eq_false_iff.mpr notBefore)
            (Bool.eq_false_iff.mpr notAfter))
        refine List.pairwise_cons.mpr ⟨fun member later => ?_, ascendingRest⟩
        rw [same]; exact below member later

/-- The members of a mapping ascend, whatever the order they were given in. -/
theorem ascending_sortMembers (members : List (String × α)) :
    Ascending (sortMembers members) := by
  have keeps : ∀ sorted : List (String × α), Ascending sorted →
      Ascending (members.foldl (fun sorted member => insertMember member.1 member.2 sorted)
        sorted) := by
    induction members with
    | nil => exact fun _ ascending => ascending
    | cons member rest inductionHypothesis =>
      exact fun sorted ascending =>
        inductionHypothesis _ (ascending_insertMember member.1 member.2 ascending)
  exact keeps [] List.Pairwise.nil

/-! ### Other values under the same names -/

section Values

variable {β : Type} (change : String → α → β)

/-- The member with another value under its name. -/
def changeMember (member : String × α) : String × β := (member.1, change member.1 member.2)

theorem insertMember_map (name : String) (value : α) (members : List (String × α)) :
    insertMember name (change name value) (members.map (changeMember change)) =
      (insertMember name value members).map (changeMember change) := by
  induction members with
  | nil => rfl
  | cons head rest inductionHypothesis =>
    obtain ⟨name', value'⟩ := head
    simp only [List.map_cons, changeMember, insertMember] at inductionHypothesis ⊢
    split
    · rfl
    · split
      · rw [inductionHypothesis]
        rfl
      · rfl

/-- Members can be put in order before or after their values are changed. -/
theorem sortMembers_map (members : List (String × α)) :
    sortMembers (members.map (changeMember change)) =
      (sortMembers members).map (changeMember change) := by
  have keeps : ∀ sorted : List (String × α),
      (members.map (changeMember change)).foldl
          (fun sorted member => insertMember member.1 member.2 sorted)
          (sorted.map (changeMember change)) =
        (members.foldl (fun sorted member => insertMember member.1 member.2 sorted)
          sorted).map (changeMember change) := by
    induction members with
    | nil => exact fun _ => rfl
    | cons member rest inductionHypothesis =>
      intro sorted
      rw [List.map_cons, List.foldl_cons, List.foldl_cons, ← inductionHypothesis,
        ← insertMember_map]
      rfl
  exact keeps []

end Values

end Formwork
