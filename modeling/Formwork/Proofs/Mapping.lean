/-
This file holds the theory of mappings, whose members stand in ascending order of their
names: what is found under a name, that sorting such members changes nothing, and that a
mapping does not depend on the order in which members with different names were given.
-/

import Mathlib.Data.List.Forall2
import Formwork.Mapping

namespace Formwork

variable {α β : Type} {name name' : String} {value value' : α} {members : List (String × α)}

theorem not_precedes_of_precedes (before : precedes name name' = true) :
    precedes name' name = false := by
  refine Bool.eq_false_iff.mpr fun after => ?_
  have cycle : precedes name name = true := precedesChars_trans before after
  exact Bool.false_ne_true ((precedesChars_irrefl name.toList).symm.trans cycle)

theorem lookup_of_mem (ascending : Ascending members) (member : (name, value) ∈ members) :
    members.lookup name = some value := by
  induction members with
  | nil => cases member
  | cons first rest inductionHypothesis =>
    obtain ⟨name', value'⟩ := first
    obtain ⟨smallest, ascendingRest⟩ := List.pairwise_cons.mp ascending
    rcases List.mem_cons.mp member with same | later
    · cases same
      exact List.lookup_cons_self
    · have other : (name == name') = false := by
        refine beq_eq_false_iff_ne.mpr fun same => ?_
        exact absurd (same ▸ smallest _ later) (Bool.eq_false_iff.mp (precedesChars_irrefl _))
      rw [List.lookup_cons, other]
      exact inductionHypothesis ascendingRest later

/-! ### Members given in their order -/

theorem insertMember_of_precedes (after : ∀ member ∈ members, precedes member.1 name = true) :
    insertMember name value members = members ++ [(name, value)] := by
  induction members with
  | nil => rfl
  | cons first rest inductionHypothesis =>
    obtain ⟨name', value'⟩ := first
    obtain ⟨later, afterRest⟩ := List.forall_mem_cons.mp after
    simp only [insertMember, not_precedes_of_precedes later, later, if_true,
      inductionHypothesis afterRest, List.cons_append, Bool.false_eq_true, if_false]

/-- Sorting the members of a mapping changes nothing. -/
theorem sortMembers_of_ascending (ascending : Ascending members) :
    sortMembers members = members := by
  have keeps : ∀ rest sorted : List (String × α), Ascending (sorted ++ rest) →
      rest.foldl (fun sorted member => insertMember member.1 member.2 sorted) sorted =
        sorted ++ rest := by
    intro rest
    induction rest with
    | nil => exact fun sorted _ => (List.append_nil sorted).symm
    | cons next rest inductionHypothesis =>
      intro sorted ascending
      obtain ⟨_, _, across⟩ := List.pairwise_append.mp ascending
      have after : ∀ member ∈ sorted, precedes member.1 next.1 = true :=
        fun member inside => across member inside next List.mem_cons_self
      rw [List.append_cons] at ascending ⊢
      rw [List.foldl_cons, insertMember_of_precedes after]
      exact inductionHypothesis _ ascending
  exact keeps members [] ascending

/-! ### Members given in another order -/

theorem insertMember_comm_of_precedes (before : precedes name name' = true)
    (members : List (String × α)) :
    insertMember name value (insertMember name' value' members) =
      insertMember name' value' (insertMember name value members) := by
  have notAfter : precedes name' name = false := not_precedes_of_precedes before
  induction members with
  | nil => simp [insertMember, before, notAfter]
  | cons first rest inductionHypothesis =>
    obtain ⟨key, other⟩ := first
    by_cases below : precedes name' key = true
    · have below' : precedes name key = true := precedesChars_trans before below
      simp [insertMember, before, notAfter, below, below']
    by_cases above : precedes key name' = true
    · by_cases smaller : precedes name key = true
      · simp [insertMember, before, notAfter, below, above, smaller]
      · by_cases greater : precedes key name = true
        · simp [insertMember, below, above, smaller, greater, inductionHypothesis]
        · simp [insertMember, before, notAfter, below, above, smaller, greater]
    · obtain rfl : name' = key := String.toList_injective
        (eq_of_not_precedesChars (Bool.eq_false_iff.mpr below) (Bool.eq_false_iff.mpr above))
      simp [insertMember, before, notAfter, below]

/-- Two members with different names can be put into a mapping in either order. -/
theorem insertMember_comm (different : name ≠ name') (members : List (String × α)) :
    insertMember name value (insertMember name' value' members) =
      insertMember name' value' (insertMember name value members) := by
  by_cases before : precedes name name' = true
  · exact insertMember_comm_of_precedes before members
  · have after : precedes name' name = true := by
      refine Classical.not_not.mp fun notAfter => different (String.toList_injective ?_)
      exact eq_of_not_precedesChars (Bool.eq_false_iff.mpr before)
        (Bool.eq_false_iff.mpr notAfter)
    exact (insertMember_comm_of_precedes after members).symm

/-! ### Members with other values -/

/-- Whether two members have one name and related values. -/
def RelatedMember (related : α → β → Prop) (member : String × α) (member' : String × β) : Prop :=
  member.1 = member'.1 ∧ related member.2 member'.2

section Related

variable {related : α → β → Prop}

theorem forall₂_insertMember {other : β} (values : related value other)
    {members' : List (String × β)}
    (each : List.Forall₂ (RelatedMember related) members members') :
    List.Forall₂ (RelatedMember related) (insertMember name value members)
      (insertMember name other members') := by
  induction each with
  | nil => exact .cons ⟨rfl, values⟩ .nil
  | @cons first first' _ _ head tail inductionHypothesis =>
    obtain ⟨key, held⟩ := first
    obtain ⟨_, held'⟩ := first'
    obtain ⟨rfl, heldValues⟩ := head
    simp only [insertMember]
    split
    · exact .cons ⟨rfl, values⟩ (.cons ⟨rfl, heldValues⟩ tail)
    · split
      · exact .cons ⟨rfl, heldValues⟩ inductionHypothesis
      · exact .cons ⟨rfl, values⟩ tail

theorem forall₂_sortMembers {members' : List (String × β)}
    (each : List.Forall₂ (RelatedMember related) members members') :
    List.Forall₂ (RelatedMember related) (sortMembers members) (sortMembers members') := by
  have keeps : ∀ sorted sorted', List.Forall₂ (RelatedMember related) sorted sorted' →
      List.Forall₂ (RelatedMember related)
        (members.foldl (fun sorted member => insertMember member.1 member.2 sorted) sorted)
        (members'.foldl (fun sorted member => insertMember member.1 member.2 sorted) sorted') := by
    induction each with
    | nil => exact fun _ _ kept => kept
    | @cons member member' _ _ head _ inductionHypothesis =>
      obtain ⟨name, value⟩ := member
      obtain ⟨_, value'⟩ := member'
      obtain ⟨rfl, values⟩ := head
      exact fun _ _ kept => inductionHypothesis _ _ (forall₂_insertMember values kept)
  exact keeps [] [] .nil

end Related

end Formwork
