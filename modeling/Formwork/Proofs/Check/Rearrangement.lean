/-
This file proves which edits of one list of siblings keep a form accepted.

What the check asks of a list of siblings hardly depends on the order: only a condition has to
come after the sibling it names. So a list that is made of fields of an accepted list, each at
most once, is well formed when its conditions follow what they name. Around the list, an edit
changes neither the controls nor the conditions, so no other list becomes ill formed.
-/

import Mathlib.Data.List.Perm.Subperm
import Formwork.Proofs.Check.WellFormed
import Formwork.Proofs.Form.Replacement

namespace Formwork

open Formwork.Field (names Everywhere)

/-! ### The edited list -/

/-- Whether each field with a condition comes after the sibling that its condition names. -/
def Field.ConditionsFollow (siblings : List (Option Field)) : Prop :=
  ∀ index field, siblings[index]? = some (some field) → ∀ gate ∈ field.gate,
    ∃ sibling, some sibling ∈ siblings.take index ∧ sibling.control.name = gate.condition

section Edited

variable {siblings siblings' : List (Option Field)}

theorem SiblingsWellFormed.conditionsFollow (wellFormed : SiblingsWellFormed siblings) :
    Field.ConditionsFollow siblings := by
  intro index field found gate carries
  obtain ⟨_, _, earlier⟩ := wellFormed.conditions index field found gate carries
  obtain ⟨sibling, member, named, _⟩ := Field.mem_names_iff.mp earlier
  exact ⟨sibling, member, named⟩

/-- Fields of a well-formed list, each at most once, are well formed in every order in which their
conditions follow what they name. -/
theorem SiblingsWellFormed.of_subperm (wellFormed : SiblingsWellFormed siblings)
    (fewer : siblings'.Subperm siblings) (follow : Field.ConditionsFollow siblings') :
    SiblingsWellFormed siblings' := by
  have kept : ∀ {entry}, entry ∈ siblings' → entry ∈ siblings := fun member => fewer.subset member
  refine ⟨fun missing => wellFormed.present (kept missing), fun name given => ?_, ?_,
    fun field member => wellFormed.fits field (kept member), ?_⟩
  · obtain ⟨field, member, named⟩ := Field.mem_names_iff.mp given
    exact wellFormed.usable name (Field.mem_names_iff.mpr ⟨field, kept member, named⟩)
  · obtain ⟨chosen, same, sublist⟩ := fewer
    have distinct : (names chosen).Nodup := wellFormed.distinct.sublist (sublist.filterMap _)
    exact (same.filterMap _).nodup_iff.mp distinct
  · intro index field found gate carries
    obtain ⟨place, found'⟩ := List.mem_iff_getElem?.mp (kept (List.mem_of_getElem? found))
    obtain ⟨notEmpty, notOwn, _⟩ := wellFormed.conditions place field found' gate carries
    obtain ⟨sibling, member, named⟩ := follow index field found gate carries
    exact ⟨notEmpty, notOwn,
      Field.mem_names_iff.mpr ⟨sibling, member, named, by simpa using notEmpty⟩⟩

theorem SiblingsWellFormed.perm_iff (wellFormed : SiblingsWellFormed siblings)
    (reordered : siblings.Perm siblings') :
    SiblingsWellFormed siblings' ↔ Field.ConditionsFollow siblings' :=
  ⟨conditionsFollow, wellFormed.of_subperm reordered.symm.subperm⟩

variable {before after : List (Option Field)} {field : Field}

/-- Conditions still follow what they name when a field is gone that no later one names. -/
theorem Field.ConditionsFollow.delete
    (follow : ConditionsFollow (before ++ some field :: after))
    (unnamed : ∀ later, some later ∈ after → ∀ gate ∈ later.gate,
      gate.condition ≠ field.control.name) : ConditionsFollow (before ++ after) := by
  intro index later found gate carries
  rw [List.getElem?_append] at found
  split at found
  · rename_i early
    obtain ⟨sibling, member, named⟩ :=
      follow index later (by rwa [List.getElem?_append_left early]) gate carries
    rw [List.take_append_of_le_length (Nat.le_of_lt early)] at member ⊢
    exact ⟨sibling, member, named⟩
  · rename_i late
    obtain ⟨offset, rfl⟩ := Nat.exists_eq_add_of_le (Nat.le_of_not_lt late)
    rw [Nat.add_sub_cancel_left] at found
    have shifted : (before ++ some field :: after)[before.length + (offset + 1)]? =
        some (some later) := by
      rw [List.getElem?_append_right (Nat.le_add_right _ _), Nat.add_sub_cancel_left]
      exact found
    obtain ⟨sibling, member, named⟩ := follow _ later shifted gate carries
    rw [List.take_length_add_append] at member ⊢
    refine ⟨sibling, ?_, named⟩
    rcases List.mem_append.mp member with member | member
    · exact List.mem_append_left _ member
    · rcases List.mem_cons.mp member with same | member
      · cases same
        exact absurd named.symm (unnamed later (List.mem_of_getElem? found) gate carries)
      · exact List.mem_append_right _ member

/-- No condition follows what it names in front of the only sibling with the name. -/
theorem SiblingsWellFormed.not_conditionsFollow (wellFormed : SiblingsWellFormed siblings)
    (reordered : siblings.Perm (before ++ some field :: after)) {gate : Gate Field}
    (carries : field.gate = some gate) {sibling : Field} (later : some sibling ∈ after)
    (named : sibling.control.name = gate.condition) :
    ¬ Field.ConditionsFollow (before ++ some field :: after) := by
  intro follow
  have well := (wellFormed.perm_iff reordered).mpr follow
  obtain ⟨notEmpty, _, earlier⟩ := well.conditions before.length field (by simp) gate carries
  rw [List.take_left] at earlier
  have again : gate.condition ∈ names (some field :: after) :=
    Field.mem_names_iff.mpr
      ⟨sibling, List.mem_cons_of_mem _ later, named, by simpa using notEmpty⟩
  have distinct : (names before ++ names (some field :: after)).Nodup := by
    rw [names, names, ← List.filterMap_append]
    exact well.distinct
  exact (List.nodup_append.mp distinct).2.2 _ earlier _ again rfl

end Edited

/-! ### The lists around it -/

section Around

variable {before after : List (Option Field)} {field field' : Field}

theorem Field.names_take_exchange (control : field'.control = field.control) (index : Nat) :
    names ((before ++ some field' :: after).take index) =
      names ((before ++ some field :: after).take index) := by
  have same : entryName? (some field') = entryName? (some field) := by
    rw [entryName?_some, entryName?_some, control]
  rw [List.take_append, List.take_append]
  cases index - before.length <;> simp [names, List.filterMap_cons, same]

theorem Field.exists_getElem?_exchange {index : Nat} {found : Field}
    (control : field'.control = field.control)
    (condition : field'.gate.map (·.condition) = field.gate.map (·.condition))
    (atIndex : (before ++ some field' :: after)[index]? = some (some found)) :
    ∃ former, (before ++ some field :: after)[index]? = some (some former) ∧
      found.control = former.control ∧
      found.gate.map (·.condition) = former.gate.map (·.condition) := by
  by_cases early : index < before.length
  · rw [List.getElem?_append_left early] at atIndex ⊢
    exact ⟨found, atIndex, rfl, rfl⟩
  rw [List.getElem?_append_right (Nat.le_of_not_lt early)] at atIndex ⊢
  generalize index - before.length = offset at atIndex ⊢
  cases offset with
  | zero =>
    obtain rfl := Option.some.inj (Option.some.inj atIndex)
    exact ⟨field, rfl, control, condition⟩
  | succ offset => exact ⟨found, atIndex, rfl, rfl⟩

/-- A list stays well formed when one field becomes another one with the same control and the same
condition, that has no children if the field had none. -/
theorem SiblingsWellFormed.exchange
    (wellFormed : SiblingsWellFormed (before ++ some field :: after))
    (control : field'.control = field.control)
    (condition : field'.gate.map (·.condition) = field.gate.map (·.condition))
    (childless : field.children = [] → field'.children = []) :
    SiblingsWellFormed (before ++ some field' :: after) := by
  have sameNames : names (before ++ some field' :: after) =
      names (before ++ some field :: after) := by
    have whole := @Field.names_take_exchange before after field field' control
      (before ++ some field' :: after).length
    rwa [List.take_length, List.take_of_length_le (by simp)] at whole
  refine ⟨fun missing => wellFormed.present (by simpa using missing),
    sameNames ▸ wellFormed.usable, sameNames ▸ wellFormed.distinct, fun other member => ?_, ?_⟩
  · rcases List.mem_append.mp member with member | member
    · exact wellFormed.fits other (List.mem_append_left _ member)
    · rcases List.mem_cons.mp member with same | member
      · obtain rfl := Option.some.inj same
        obtain ⟨kind, fits⟩ :=
          wellFormed.fits field (List.mem_append_right _ List.mem_cons_self)
        exact ⟨kind, control ▸ fits.named, control ▸ fits.optionsPresent,
          control ▸ fits.optionsAbsent, control ▸ fits.optionsDistinct,
          control ▸ fits.consistent, control ▸ fits.applicable,
          fun noContainer => childless (fits.childless noContainer)⟩
      · exact wellFormed.fits other (List.mem_append_right _ (List.mem_cons_of_mem _ member))
  · intro index found atIndex gate carries
    obtain ⟨former, formerAtIndex, sameControl, sameCondition⟩ :=
      Field.exists_getElem?_exchange control condition atIndex
    have formerly : gate.condition ∈ former.gate.map (·.condition) :=
      sameCondition ▸ Option.mem_map_of_mem _ carries
    obtain ⟨formerGate, formerCarries, same⟩ := Option.map_eq_some_iff.mp formerly
    rw [Field.names_take_exchange control, sameControl, ← same]
    exact wellFormed.conditions index former formerAtIndex formerGate formerCarries

/-- Well-formed lists below a replacement are all it takes for the whole to stay well formed. -/
theorem Field.Replaces.everywhere {siblings siblings' fields fields' : List (Option Field)}
    (replaces : Replaces siblings siblings' fields fields')
    (emptied : siblings = [] → siblings' = [])
    (wellFormed : Everywhere SiblingsWellFormed fields)
    (replacement : Everywhere SiblingsWellFormed siblings') :
    Everywhere SiblingsWellFormed fields' := by
  induction replaces with
  | here => exact replacement
  | @inside before after part part' field field' exchanges replaces inductionHypothesis =>
    obtain ⟨here, deeper⟩ := everywhere_iff.mp wellFormed
    have belowField := deeper field (List.mem_append_right _ List.mem_cons_self)
    have childless : field.children = [] → field'.children = [] := by
      intro empty
      rcases exchanges.children_eq with same | ⟨isPart, isPart'⟩
      · rw [same, empty]
      · rw [isPart']
        exact replaces.eq_nil emptied (isPart ▸ empty)
    refine everywhere_iff.mpr
      ⟨here.exchange exchanges.control_eq exchanges.condition_eq childless, ?_⟩
    intro child member other inside
    rcases List.mem_append.mp member with member | member
    · exact deeper child (List.mem_append_left _ member) other inside
    · rcases List.mem_cons.mp member with same | member
      · obtain rfl := Option.some.inj same
        rcases exchanges.eq_or_mem_parts inside with rfl | inside
        · exact inductionHypothesis (belowField part exchanges.mem_parts)
        · exact belowField other inside
      · exact deeper child (List.mem_append_right _ (List.mem_cons_of_mem _ member)) other inside

end Around

/-! ### The edited form -/

namespace Form

section Edit

variable {siblings siblings' : List (Option Field)} {form edited : Form}

/-- A well-formed form stays well formed when one of its lists is replaced by a well-formed one of
fields that it has already. -/
theorem WellFormed.edit (wellFormed : form.WellFormed)
    (replaces : form.Replaces siblings siblings' edited)
    (emptied : siblings = [] → siblings' = []) (fewer : siblings' ⊆ siblings)
    (replacement : SiblingsWellFormed siblings') (fields : edited.fields ≠ []) :
    edited.WellFormed := by
  have below : Everywhere SiblingsWellFormed siblings := fun deeper reaches =>
    wellFormed.siblings deeper (replaces.fields.reaches.trans reaches)
  have everywhere : Everywhere SiblingsWellFormed siblings' := Field.everywhere_iff.mpr
    ⟨replacement, fun field member => (Field.everywhere_iff.mp below).2 field (fewer member)⟩
  refine ⟨fields, ?_, replaces.fields.everywhere emptied wellFormed.siblings everywhere⟩
  rw [replaces.others]
  exact wellFormed.method

/-- Which orders of a list of siblings keep a form well formed. -/
theorem WellFormed.perm_iff (wellFormed : form.WellFormed)
    (replaces : form.Replaces siblings siblings' edited) (reordered : siblings.Perm siblings') :
    edited.WellFormed ↔ Field.ConditionsFollow siblings' := by
  have here : SiblingsWellFormed siblings :=
    wellFormed.siblings siblings replaces.fields.reaches
  constructor
  · intro wellFormed'
    exact (wellFormed'.siblings siblings' replaces.fields.symm.reaches).conditionsFollow
  · intro follow
    refine wellFormed.edit replaces (fun empty => ?_) reordered.symm.subset
      ((here.perm_iff reordered).mpr follow) fun empty => ?_
    · exact List.nil_perm.mp (empty ▸ reordered)
    · refine wellFormed.fields (replaces.fields.symm.eq_nil (fun none => ?_) empty)
      exact List.nil_perm.mp (none ▸ reordered.symm)

/-- Take a form that is accepted and replace one of its lists of siblings, at any depth. If the
list is reordered, the form is accepted exactly if each field with a condition still comes after
the sibling that the condition names. If a field is deleted whose name no later sibling has as
its condition, the form is accepted as long as it has fields. If a field with a condition is moved
in front of the sibling that the condition names, the form is not accepted. -/
theorem complaint?_rearranged (accepted : complaint? (some form) = none)
    (replaces : form.Replaces siblings siblings' edited) :
    (siblings.Perm siblings' →
      (complaint? (some edited) = none ↔ Field.ConditionsFollow siblings')) ∧
    (∀ before field after, siblings = before ++ some field :: after →
      siblings' = before ++ after →
      (∀ later, some later ∈ after → ∀ gate ∈ later.gate,
        gate.condition ≠ field.control.name) →
      edited.fields ≠ [] → complaint? (some edited) = none) ∧
    (∀ first between last field, siblings = first ++ between ++ some field :: last →
      siblings' = first ++ some field :: (between ++ last) →
      ∀ gate ∈ field.gate, ∀ sibling, some sibling ∈ between →
      sibling.control.name = gate.condition → complaint? (some edited) ≠ none) := by
  have wellFormed : form.WellFormed := .of_accepted accepted
  have here : SiblingsWellFormed siblings :=
    wellFormed.siblings siblings replaces.fields.reaches
  have judged : complaint? (some edited) = none ↔ edited.WellFormed := by
    rw [complaint?_some, Option.map_eq_none_iff, violation?_eq_none_iff]
  simp only [Ne, judged]
  refine ⟨wellFormed.perm_iff replaces, ?_, ?_⟩
  · rintro before field after rfl rfl unnamed fields
    have fewer : (before ++ after).Sublist (before ++ some field :: after) :=
      (List.sublist_cons_self _ _).append_left _
    exact wellFormed.edit replaces (fun empty => by simp at empty) fewer.subset
      (here.of_subperm fewer.subperm (here.conditionsFollow.delete unnamed)) fields
  · rintro first between last field rfl rfl gate carries sibling passed named
    have reordered : (first ++ between ++ some field :: last).Perm
        (first ++ some field :: (between ++ last)) := by
      rw [List.append_assoc]
      exact List.perm_middle.append_left first
    rw [wellFormed.perm_iff replaces reordered]
    exact here.not_conditionsFollow reordered carries (List.mem_append_left _ passed) named

end Edit

/-- A form with siblings inside of a container. -/
def orderForm (siblings : List (Option Field)) : Form where
  fields := [some (.mk { name := "order", kind := "object" } siblings none)]

theorem orderForm_replaces (siblings siblings' : List (Option Field)) :
    (orderForm siblings).Replaces siblings siblings' (orderForm siblings') :=
  ⟨rfl, @Field.Replaces.inside _ _ [] [] _ _ _ _ .children .here⟩

/-- Whether the order is a gift. -/
def giftField : Field := .mk { name := "gift", kind := "checkbox" } [] none

/-- What to write on the card of a gift. -/
def cardField : Field :=
  .mk { name := "card", kind := "text" } [] (some { condition := "gift", trigger := .bool true })

/-- What else there is to say about the order. -/
def noteField : Field := .mk { name := "note", kind := "text" } [] none

theorem complaint?_rearranged_orderForm :
    complaint? (some (orderForm [some giftField, some cardField, some noteField])) = none ∧
      complaint? (some (orderForm [some giftField, some noteField, some cardField])) = none ∧
      complaint? (some (orderForm [some giftField, some cardField])) = none ∧
      complaint? (some (orderForm [some cardField, some giftField, some noteField])) ≠ none := by
  have accepted : complaint?
      (some (orderForm [some giftField, some cardField, some noteField])) = none := by
    decide +kernel
  have follow : Field.ConditionsFollow [some giftField, some noteField, some cardField] := by
    rintro (_ | _ | _ | index) field found gate carries
    · obtain rfl := Option.some.inj (Option.some.inj found)
      cases carries
    · obtain rfl := Option.some.inj (Option.some.inj found)
      cases carries
    · obtain rfl := Option.some.inj (Option.some.inj found)
      cases carries
      exact ⟨giftField, List.mem_cons_self, rfl⟩
    · cases found
  refine ⟨accepted, ?_, ?_, ?_⟩
  · exact ((complaint?_rearranged accepted (orderForm_replaces _ _)).1
      ((List.Perm.swap _ _ _).cons _)).mpr follow
  · exact (complaint?_rearranged accepted (orderForm_replaces _ _)).2.1
      [some giftField, some cardField] noteField [] rfl rfl (by simp) (List.cons_ne_nil _ _)
  · exact (complaint?_rearranged accepted (orderForm_replaces _ _)).2.2
      [] [some giftField] [some noteField] cardField rfl rfl _ rfl giftField
      List.mem_cons_self rfl

end Form

end Formwork
