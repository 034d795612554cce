/-
This file proves that the order of the keys in a schema document does not matter for what
is read from it. Two documents that differ in the order of keys alone are both refused,
with the same issues in some order, or read as alike schemas. The same holds if a list of
required names is rearranged.

One elementary change is followed through the document, from the place where it is made
up to the root: in each role in which a value is read, the changed value reads alike.
-/

import Mathlib.Data.Set.List
import Formwork.Proofs.Schema.Interchange

namespace Formwork

open Decode Decoded

namespace Schema

variable {source : Source}

/-! ### Reordered documents -/

/-- Whether two lists hold the same texts, in any order and any number, and all their other items at
the same places. -/
structure Rearranged (items items' : List Json) : Prop where
  texts : ∀ text, .str text ∈ items ↔ .str text ∈ items'
  others : ∀ (index : Nat) (value : Json), (∀ text, value ≠ .str text) →
    (items[index]? = some value ↔ items'[index]? = some value)

/-- Whether one value in some role comes from another one by exchanging neighbours with different
names in objects, at any depth but not inside of defaults, and by rearranging lists of required
names. -/
inductive Reordered : Role → Json → Json → Prop where
  | refl (role : Role) (value : Json) : Reordered role value value
  | trans {role : Role} {first second third : Json} :
    Reordered role first second → Reordered role second third → Reordered role first third
  | swap {role : Role} {first second : String × Json} (before after : List (String × Json)) :
    role ≠ .default → first.1 ≠ second.1 →
      Reordered role (.obj (before ++ first :: second :: after))
        (.obj (before ++ second :: first :: after))
  | member {role : Role} {name : String} {value value' : Json}
    (before after : List (String × Json)) :
    Reordered (role.ofMember name) value value' →
      Reordered role (.obj (before ++ (name, value) :: after))
        (.obj (before ++ (name, value') :: after))
  | item {role : Role} {value value' : Json} (before after : List Json) :
    Reordered role.ofItem value value' →
      Reordered role (.arr (before ++ value :: after)) (.arr (before ++ value' :: after))
  | names {items items' : List Json} :
    Rearranged items items' → Reordered .names (.arr items) (.arr items')

/-- The members of an object with different names can be reordered at will. -/
theorem Reordered.of_perm {role : Role} {members members' : List (String × Json)}
    (notDefault : role ≠ .default) (distinct : (members.map Prod.fst).Nodup)
    (permuted : members.Perm members') : Reordered role (.obj members) (.obj members') := by
  have behind : ∀ before : List (String × Json),
      Reordered role (.obj (before ++ members)) (.obj (before ++ members')) := by
    induction permuted with
    | nil => exact fun before => .refl role _
    | cons member _ inductionHypothesis =>
      intro before
      have step := inductionHypothesis (List.nodup_cons.mp distinct).2 (before ++ [member])
      simpa only [List.append_assoc, List.singleton_append] using step
    | swap first second rest =>
      refine fun before => .swap before rest notDefault fun same => ?_
      exact (List.nodup_cons.mp distinct).1 (same ▸ List.mem_cons_self)
    | trans first _ firstHypothesis secondHypothesis =>
      intro before
      have distinct' := (first.map Prod.fst).nodup_iff.mp distinct
      exact (firstHypothesis distinct before).trans (secondHypothesis distinct' before)
  exact behind []

/-! ### Exchanged neighbours -/

section Swap

/-- A node does not depend on the order of keywords. -/
theorem ofMembers_swap {first second : String × Reading} (different : first.1 ≠ second.1)
    (before after : List (String × Reading)) :
    ofMembers source (before ++ first :: second :: after) =
      ofMembers source (before ++ second :: first :: after) := by
  have different' : (first.1, first.2.raw).1 ≠ (second.1, second.2.raw).1 := different
  simp only [ofMembers, List.map_append, List.map_cons, Identity.decode, Applicators.decode,
    Constraints.decode, Annotations.decode, Decode.optional, Decode.withDefault,
    entry_swap different, entry_swap different']

/-- Neighbours with different names give the same mapping in either order. -/
theorem related_allNamed_swap {α : Type} {first second : String × Decoded α}
    (different : first.1 ≠ second.1) (before after : List (String × Decoded α)) :
    Related Eq ((allNamed (before ++ first :: second :: after)).map sortMembers)
      ((allNamed (before ++ second :: first :: after)).map sortMembers) := by
  have named : ∀ (member : String × Decoded α) (value : String × α),
      (member.2.under (.name member.1)).map (fun value => (member.1, value)) = .ok value →
        value.1 = member.1 := by
    intro member value read
    obtain ⟨_, _, rfl⟩ := map_eq_ok read
    rfl
  have listed : Related
      (fun members members' : List (String × α) => ∀ sorted,
        members.foldl (fun sorted member => insertMember member.1 member.2 sorted) sorted =
          members'.foldl (fun sorted member => insertMember member.1 member.2 sorted) sorted)
      (allNamed (before ++ first :: second :: after))
      (allNamed (before ++ second :: first :: after)) := by
    simp only [allNamed, List.map_append, List.map_cons]
    refine related_all_swap (fun value _ _ same sorted => same _) ?_ _ _
    intro value value' rest read read' sorted
    have different' : value'.1 ≠ value.1 := by
      rw [named first value read, named second value' read']
      exact different.symm
    simp only [List.foldl_cons, insertMember_comm different']
  exact listed.map fun _ _ same => same []

theorem interchangeable_swap {role : Role} {first second : String × Json}
    (notDefault : role ≠ .default) (different : first.1 ≠ second.1)
    (before after : List (String × Json)) :
    Interchangeable source role (.obj (before ++ first :: second :: after))
      (.obj (before ++ second :: first :: after)) := by
  refine ⟨?_, fun _ => by rw [Json.hollow_obj, Json.hollow_obj]⟩
  cases role with
  | node =>
    rw [ReadsAs, Reading.ofJson_obj, Reading.ofJson_obj]
    refine .of_eq Alike.refl ?_
    simp only [Reading.ofObject, List.map_append, List.map_cons]
    exact ofMembers_swap different _ _
  | nodes =>
    rw [ReadsAs, Reading.ofJson_obj, Reading.ofJson_obj]
    exact .failed (.refl _)
  | mapping =>
    rw [ReadsAs, Reading.ofJson_obj, Reading.ofJson_obj]
    simp only [Reading.ofObject, List.map_append, List.map_cons]
    constructor
    · refine (related_allNamed_swap ?_ _ _).mono fun _ _ _ => trivial
      exact different
    · refine (related_allNamed_swap ?_ _ _).mono fun _ _ same => same ▸ MappingsAlike.refl _
      exact different
  | names =>
    rw [ReadsAs, Json.collapse_obj, Json.collapse_obj]
    exact .failed (.refl _)
  | default => exact absurd rfl notDefault
  | _ => trivial

end Swap

/-! ### Rearranged names -/

section Names

theorem nullable_texts (items : List Json) :
    nullable (list text) (Json.arr items).collapse = (allFrom 0 (items.map text)).map some := by
  rw [Json.collapse_arr]
  show (allFrom 0 ((items.map Json.collapse).map text)).map some = _
  rw [List.map_map]
  refine congrArg (fun read => (allFrom 0 read).map some) (List.map_congr_left fun item _ => ?_)
  cases item with
  | arr items => rw [Function.comp_apply, Json.collapse_arr]; rfl
  | obj members => rw [Function.comp_apply, Json.collapse_obj]; rfl
  | _ => rfl

/-- A list is read as names exactly if it consists of them. -/
theorem texts_eq_ok {items : List Json} {names : List String} :
    allFrom 0 (items.map text) = .ok names ↔ items = names.map .str := by
  rw [allFrom_eq_ok]
  constructor
  · intro read
    induction items generalizing names with
    | nil =>
      cases names with
      | nil => rfl
      | cons => cases read
    | cons item rest inductionHypothesis =>
      cases names with
      | nil => cases read
      | cons name others =>
        obtain ⟨head, tail⟩ := List.cons.inj read
        cases item with
        | str text =>
          obtain rfl := Decoded.ok.inj head
          rw [inductionHypothesis tail, List.map_cons]
        | _ => cases head
  · rintro rfl
    rw [List.map_map]
    rfl

theorem issues_texts_cons (item : Json) (rest : List Json) (start : Nat) :
    (allFrom start ((item :: rest).map text)).issues =
      ((text item).under (.index start)).issues ++
        (allFrom (start + 1) (rest.map text)).issues := by
  rw [List.map_cons, allFrom, issues_both, issues_map]

theorem issues_text (item : Json) :
    (∃ text, item = .str text) ∧ (text item).issues = [] ∨
      (∀ text, item ≠ .str text) ∧ (text item).issues = [⟨[], .notText⟩] := by
  cases item with
  | str text => exact Or.inl ⟨⟨text, rfl⟩, rfl⟩
  | _ => exact Or.inr ⟨(fun _ same => by cases same), rfl⟩

/-- The items of a list that are no texts have an issue each, at their place. -/
theorem mem_issues_texts {items : List Json} {start : Nat} {issue : Issue} :
    issue ∈ (allFrom start (items.map text)).issues ↔
      ∃ (index : Nat) (value : Json), items[index]? = some value ∧ (∀ text, value ≠ .str text) ∧
        issue = ⟨[.index (start + index)], .notText⟩ := by
  induction items generalizing start with
  | nil => simp [allFrom, issues]
  | cons item rest inductionHypothesis =>
    rw [issues_texts_cons, List.mem_append, inductionHypothesis, issues_under]
    constructor
    · rintro (here | ⟨index, value, found, other, rfl⟩)
      · rcases issues_text item with ⟨_, none⟩ | ⟨other, one⟩
        · rw [none] at here
          cases here
        · rw [one] at here
          exact ⟨0, item, rfl, other, List.mem_singleton.mp here⟩
      · exact ⟨index + 1, value, found, other, by rw [Nat.add_assoc, Nat.add_comm 1]⟩
    · rintro ⟨index, value, found, other, rfl⟩
      cases index with
      | zero =>
        obtain rfl := Option.some.inj found
        rcases issues_text item with ⟨⟨_, same⟩, _⟩ | ⟨_, one⟩
        · exact absurd same (other _)
        · rw [one]
          exact Or.inl (List.mem_singleton.mpr rfl)
      | succ index =>
        exact Or.inr ⟨index, value, found, other, by rw [Nat.add_assoc, Nat.add_comm 1]⟩

theorem nodup_issues_texts (items : List Json) (start : Nat) :
    (allFrom start (items.map text)).issues.Nodup := by
  induction items generalizing start with
  | nil => exact List.nodup_nil
  | cons item rest inductionHypothesis =>
    rw [issues_texts_cons, issues_under]
    rcases issues_text item with ⟨_, none⟩ | ⟨_, one⟩
    · rw [none]
      exact inductionHypothesis (start + 1)
    · rw [one]
      refine List.nodup_cons.mpr ⟨fun later => ?_, inductionHypothesis (start + 1)⟩
      obtain ⟨index, _, _, _, same⟩ := mem_issues_texts.mp later
      have places : start = start + 1 + index :=
        LocationStep.index.inj (List.cons.inj (Issue.mk.inj same).1).1
      omega

theorem Rearranged.symm {items items' : List Json} (rearranged : Rearranged items items') :
    Rearranged items' items :=
  ⟨fun text => (rearranged.texts text).symm, fun index value other =>
    (rearranged.others index value other).symm⟩

/-- A rearranged list of names consists of the same names. -/
theorem Rearranged.exists_names {names : List String} {items' : List Json}
    (rearranged : Rearranged (names.map .str) items') :
    ∃ names' : List String, items' = names'.map .str ∧ ∀ name, name ∈ names ↔ name ∈ names' := by
  have isText : ∀ item ∈ items', ∃ name, Json.str name = item := by
    intro item member
    refine Classical.byContradiction fun other => ?_
    obtain ⟨index, found⟩ := List.mem_iff_getElem?.mp member
    have found' := (rearranged.others index item fun name same => other ⟨name, same.symm⟩).mpr found
    obtain ⟨name, _, same⟩ := List.mem_map.mp (List.mem_of_getElem? found')
    exact other ⟨name, same⟩
  obtain ⟨names', rfl⟩ : items' ∈ Set.range (List.map Json.str) := by
    rw [Set.range_list_map]
    exact isText
  refine ⟨names', rfl, fun name => ?_⟩
  have texts := rearranged.texts name
  simpa using texts

theorem interchangeable_names {items items' : List Json} (rearranged : Rearranged items items') :
    Interchangeable source .names (.arr items) (.arr items') := by
  refine ⟨?_, fun other => absurd rfl other⟩
  have reads : Related (fun names names' : List String => ∀ name, name ∈ names ↔ name ∈ names')
      (allFrom 0 (items.map text)) (allFrom 0 (items'.map text)) := by
    cases read : allFrom 0 (items.map text) with
    | ok names =>
      obtain rfl := texts_eq_ok.mp read
      obtain ⟨names', rfl, same⟩ := rearranged.exists_names
      rw [texts_eq_ok.mpr rfl]
      exact .ok same
    | failed found =>
      cases read' : allFrom 0 (items'.map text) with
      | ok names' =>
        obtain rfl := texts_eq_ok.mp read'
        obtain ⟨names, rfl, _⟩ := rearranged.symm.exists_names
        rw [texts_eq_ok.mpr rfl] at read
        cases read
      | failed found' =>
        have issues : found = (allFrom 0 (items.map text)).issues := by rw [read]; rfl
        have issues' : found' = (allFrom 0 (items'.map text)).issues := by rw [read']; rfl
        rw [issues, issues']
        refine .failed ((List.perm_ext_iff_of_nodup (nodup_issues_texts items 0)
          (nodup_issues_texts items' 0)).mpr fun issue => ?_)
        rw [mem_issues_texts, mem_issues_texts]
        refine exists_congr fun index => exists_congr fun value => ?_
        constructor
        · rintro ⟨held, other, same⟩
          exact ⟨(rearranged.others index value other).mp held, other, same⟩
        · rintro ⟨held, other, same⟩
          exact ⟨(rearranged.others index value other).mpr held, other, same⟩
  rw [ReadsAs, nullable_texts, nullable_texts]
  exact reads.map fun _ _ same => same

end Names

/-! ### Reordered values -/

theorem interchangeable_member {role : Role} {name : String} {value value' : Json}
    (alike : Interchangeable source (role.ofMember name) value value')
    (before after : List (String × Json)) :
    Interchangeable source role (.obj (before ++ (name, value) :: after))
      (.obj (before ++ (name, value') :: after)) := by
  refine ⟨?_, fun _ => by rw [Json.hollow_obj, Json.hollow_obj]⟩
  cases role with
  | node =>
    rw [ReadsAs, Reading.ofJson_obj, Reading.ofJson_obj]
    exact related_ofMembers alike
  | nodes =>
    rw [ReadsAs, Reading.ofJson_obj, Reading.ofJson_obj]
    exact .failed (.refl _)
  | mapping => exact reads_mapping alike
  | names =>
    rw [ReadsAs, Json.collapse_obj, Json.collapse_obj]
    exact .failed (.refl _)
  | default =>
    have same : value = value' := alike.reads
    rw [ReadsAs, same]
  | _ => trivial

theorem interchangeable_item {role : Role} {value value' : Json}
    (alike : Interchangeable source role.ofItem value value') (before after : List Json) :
    Interchangeable source role (.arr (before ++ value :: after))
      (.arr (before ++ value' :: after)) := by
  have hollow : (Json.arr (before ++ value :: after)).hollow =
      (Json.arr (before ++ value' :: after)).hollow := by
    have notNames : role.ofItem ≠ .names := by cases role <;> decide
    rw [Json.hollow_arr, Json.hollow_arr, List.map_append, List.map_append, List.map_cons,
      List.map_cons, alike.hollow notNames]
  refine ⟨?_, fun _ => hollow⟩
  cases role with
  | node =>
    rw [ReadsAs, Reading.ofJson_arr, Reading.ofJson_arr]
    exact .failed (.refl _)
  | nodes => exact reads_nodes alike
  | mapping =>
    rw [ReadsAs, Reading.ofJson_arr, Reading.ofJson_arr]
    exact ⟨.failed (.refl _), .failed (.refl _)⟩
  | names =>
    have ignores := ignoresMembers_nullable (ignoresMembers_list ignoresMembers_text)
    exact .of_eq SameNames.refl (ignores.collapse_congr hollow)
  | default =>
    have same : value = value' := alike.reads
    rw [ReadsAs, same]
  | _ => trivial

/-- Reordered values are interchangeable, whatever role they are in. -/
theorem Reordered.interchangeable {role : Role} {value value' : Json}
    (reordered : Reordered role value value') : Interchangeable source role value value' := by
  induction reordered with
  | refl role value => exact .refl role value
  | trans _ _ first second => exact first.trans second
  | swap before after notDefault different =>
    exact interchangeable_swap notDefault different before after
  | member before after _ inductionHypothesis =>
    exact interchangeable_member inductionHypothesis before after
  | item before after _ inductionHypothesis =>
    exact interchangeable_item inductionHypothesis before after
  | names rearranged => exact interchangeable_names rearranged

/-- Reordered documents are read as alike schemas, or refused with the same issues in some order. -/
theorem related_decode {value value' : Json} (reordered : Reordered .node value value') :
    Related Alike (Schema.decode source value) (Schema.decode source value') :=
  reordered.interchangeable.reads

end Schema

end Formwork
