/-
This file holds the theory of JSON values as trees: induction over a value, what
holds of all its leaves, how deep it is, and when reading it as decoded data leaves
it as it is.

Reading keeps one member of each name, at all depths. A value that reading has
produced is therefore left as it is by reading again, and so is one whose leaves
were replaced afterwards, as long as its names were not touched.
-/

import Formwork.Json.Basic
import Formwork.Number.Literal
import Formwork.Number.Shortest

namespace Formwork

namespace Json

/-! ### Induction -/

/-- What holds of all leaves, and of every array and object when it holds of the parts, holds of
all values. -/
theorem induction {motive : Json → Prop}
    (null : motive .null) (bool : ∀ value, motive (.bool value))
    (int : ∀ value, motive (.int value)) (float : ∀ value, motive (.float value))
    (str : ∀ text, motive (.str text))
    (arr : ∀ items, (∀ item ∈ items, motive item) → motive (.arr items))
    (obj : ∀ members, (∀ member ∈ members, motive member.2) → motive (.obj members))
    (value : Json) : motive value :=
  value.rec (motive_2 := fun items => ∀ item ∈ items, motive item)
    (motive_3 := fun members => ∀ member ∈ members, motive member.2)
    (motive_4 := fun member => motive member.2)
    null bool int float str arr obj
    (fun _ member => by cases member)
    (fun _ _ head tail _ member => by
      rcases List.mem_cons.mp member with same | member
      · exact same ▸ head
      · exact tail _ member)
    (fun _ member => by cases member)
    (fun _ _ head tail _ member => by
      rcases List.mem_cons.mp member with same | member
      · exact same ▸ head
      · exact tail _ member)
    (fun _ _ value => value)

/-! ### Leaves -/

variable {holds holds' : Json → Prop}

/-- Whether something holds of every leaf of a value. -/
def AllLeaves (holds : Json → Prop) : Json → Prop :=
  fold holds (fun items => ∀ item ∈ items, item) fun members => ∀ member ∈ members, member.2

theorem allLeaves_arr {items : List Json} :
    AllLeaves holds (.arr items) ↔ ∀ item ∈ items, AllLeaves holds item := by
  rw [AllLeaves, fold_arr]
  exact List.forall_mem_map

theorem allLeaves_obj {members : List (String × Json)} :
    AllLeaves holds (.obj members) ↔ ∀ member ∈ members, AllLeaves holds member.2 := by
  rw [AllLeaves, fold_obj]
  exact List.forall_mem_map

theorem AllLeaves.mono {value : Json} (leaves : value.AllLeaves holds)
    (implies : ∀ leaf, holds leaf → holds' leaf) : value.AllLeaves holds' := by
  induction value using Json.induction with
  | arr items inductionHypothesis =>
    rw [allLeaves_arr] at leaves ⊢
    exact fun item inside => inductionHypothesis item inside (leaves item inside)
  | obj members inductionHypothesis =>
    rw [allLeaves_obj] at leaves ⊢
    exact fun member inside => inductionHypothesis member inside (leaves member inside)
  | _ => exact implies _ leaves

/-! ### Whole numbers -/

/-- Whether a leaf can be written so that a document may hold it: a whole number must not have
more digits than `readNumeral?` reads, which does not count the minus sign. -/
def LegibleLeaf : Json → Prop
  | .int value => Binary64.decimalWidth value.natAbs ≤ digitLimit
  | _ => True

/-- Whether a value can be written in a document. -/
def Legible : Json → Prop := AllLeaves LegibleLeaf

theorem legible_int {value : Int} :
    (Json.int value).Legible ↔ Binary64.decimalWidth value.natAbs ≤ digitLimit := Iff.rfl

theorem legible_arr {items : List Json} :
    (Json.arr items).Legible ↔ ∀ item ∈ items, item.Legible := allLeaves_arr

theorem legible_obj {members : List (String × Json)} :
    (Json.obj members).Legible ↔ ∀ member ∈ members, member.2.Legible := allLeaves_obj

/-- Whether a leaf, if it is a whole number, is written with no more characters than a number of a
document may have digits, a minus sign counted. -/
def ShortLeaf : Json → Prop
  | .int value => (decimalText value).length ≤ digitLimit
  | _ => True

/-- Whether all whole numbers in a value are short. Unlike a number that is only legible, a short
one is within the limit of a decoder that counts the minus sign as well. -/
def Short : Json → Prop := AllLeaves ShortLeaf

theorem short_arr {items : List Json} :
    (Json.arr items).Short ↔ ∀ item ∈ items, item.Short := allLeaves_arr

theorem short_obj {members : List (String × Json)} :
    (Json.obj members).Short ↔ ∀ member ∈ members, member.2.Short := allLeaves_obj

theorem Short.legible {value : Json} (short : value.Short) : value.Legible := by
  refine AllLeaves.mono short fun leaf within => ?_
  cases leaf with
  | int value =>
    have within : (decimalText value).length ≤ digitLimit := within
    unfold decimalText at within
    split at within
    · exact Nat.le_of_succ_le within
    · exact within
  | _ => trivial

/-! ### Doubles -/

section Doubles

variable {holds holds' : Binary64 → Prop}

/-- Whether something holds of a leaf if it is a double. -/
def NumberLeaf (holds : Binary64 → Prop) : Json → Prop
  | .float number => holds number
  | _ => True

/-- Whether something holds of all doubles in a value. -/
def AllNumbers (holds : Binary64 → Prop) : Json → Prop := AllLeaves (NumberLeaf holds)

theorem allNumbers_arr {items : List Json} :
    (Json.arr items).AllNumbers holds ↔ ∀ item ∈ items, item.AllNumbers holds := allLeaves_arr

theorem allNumbers_obj {members : List (String × Json)} :
    (Json.obj members).AllNumbers holds ↔ ∀ member ∈ members, member.2.AllNumbers holds :=
  allLeaves_obj

theorem AllNumbers.mono {value : Json} (numbers : value.AllNumbers holds)
    (implies : ∀ number, holds number → holds' number) : value.AllNumbers holds' := by
  refine AllLeaves.mono numbers fun leaf held => ?_
  cases leaf with
  | float number => exact implies number held
  | _ => trivial

end Doubles

/-! ### Depth -/

/-- The number of levels below something, given the numbers of levels below its parts. -/
def levelsAbove (levels : List Nat) : Nat :=
  levels.foldr (fun level highest => max (level + 1) highest) 0

/-- The number of levels of values below a value. -/
def depth : Json → Nat :=
  fold (fun _ => 0) levelsAbove fun members => levelsAbove (members.map Prod.snd)

theorem levelsAbove_le_iff {levels : List Nat} {bound : Nat} :
    levelsAbove levels ≤ bound ↔ ∀ level ∈ levels, level < bound := by
  induction levels with
  | nil => simp [levelsAbove]
  | cons level rest inductionHypothesis =>
    have step : levelsAbove (level :: rest) = max (level + 1) (levelsAbove rest) := rfl
    rw [step, Nat.max_le, inductionHypothesis, List.forall_mem_cons]
    exact Iff.rfl

theorem depth_arr_le_iff {items : List Json} {bound : Nat} :
    (Json.arr items).depth ≤ bound ↔ ∀ item ∈ items, item.depth < bound := by
  rw [depth, fold_arr, levelsAbove_le_iff]
  exact List.forall_mem_map

theorem depth_obj_le_iff {members : List (String × Json)} {bound : Nat} :
    (Json.obj members).depth ≤ bound ↔ ∀ member ∈ members, member.2.depth < bound := by
  rw [depth, fold_obj, levelsAbove_le_iff, List.map_map]
  exact List.forall_mem_map

theorem depth_lt_arr {items : List Json} {item : Json} (inside : item ∈ items) :
    item.depth < (Json.arr items).depth := depth_arr_le_iff.mp (Nat.le_refl _) item inside

theorem depth_lt_obj {members : List (String × Json)} {member : String × Json}
    (inside : member ∈ members) : member.2.depth < (Json.obj members).depth :=
  depth_obj_le_iff.mp (Nat.le_refl _) member inside

end Json

/-! ### Members -/

variable {α β : Type}

@[simp]
theorem lastMember?_append (name : String) (first second : List (String × α)) :
    lastMember? name (first ++ second) =
      (lastMember? name second).or (lastMember? name first) := by
  rw [lastMember?, List.reverse_append, List.find?_append, lastMember?, lastMember?,
    Option.map_or]

theorem lastMember?_map (name : String) (change : α → β) (members : List (String × α)) :
    lastMember? name (members.map fun member => (member.1, change member.2)) =
      (lastMember? name members).map change := by
  rw [lastMember?, ← List.map_reverse, List.find?_map, lastMember?, Option.map_map,
    Option.map_map]
  rfl

theorem mem_of_lastMember? {name : String} {members : List (String × α)} {value : α}
    (found : lastMember? name members = some value) : (name, value) ∈ members := by
  obtain ⟨member, hit, same⟩ := Option.map_eq_some_iff.mp found
  have named : member.1 = name := by simpa using List.find?_some hit
  have inside := List.mem_reverse.mp (List.mem_of_find?_eq_some hit)
  rwa [← named, ← same]

theorem mem_putMember {name : String} {value : α} {members : List (String × α)}
    {member : String × α} (inside : member ∈ putMember name value members) :
    member.2 = value ∨ member ∈ members := by
  induction members with
  | nil => exact Or.inl (by rw [List.mem_singleton.mp inside])
  | cons head rest inductionHypothesis =>
    obtain ⟨name', value'⟩ := head
    simp only [putMember] at inside
    split at inside
    · rcases List.mem_cons.mp inside with same | older
      · exact Or.inl (by rw [same])
      · exact Or.inr (List.mem_cons_of_mem _ older)
    · rcases List.mem_cons.mp inside with same | deeper
      · exact Or.inr (by rw [same]; exact List.mem_cons_self)
      · rcases inductionHypothesis deeper with new | older
        · exact Or.inl new
        · exact Or.inr (List.mem_cons_of_mem _ older)

/-- Keeping one member of each name invents no values. -/
theorem exists_mem_of_mem_collapseMembers {members : List (String × α)} {member : String × α}
    (inside : member ∈ collapseMembers members) : ∃ given ∈ members, member.2 = given.2 := by
  have keeps : ∀ (rest kept : List (String × α)),
      (∀ member ∈ kept, ∃ given ∈ members, member.2 = given.2) →
      (∀ member ∈ rest, member ∈ members) →
      ∀ member ∈ rest.foldl (fun kept member => putMember member.1 member.2 kept) kept,
        ∃ given ∈ members, member.2 = given.2 := by
    intro rest
    induction rest with
    | nil => exact fun _ known _ => known
    | cons head rest inductionHypothesis =>
      intro kept known given
      refine inductionHypothesis _ (fun member put => ?_)
        fun member later => given member (List.mem_cons_of_mem _ later)
      rcases mem_putMember put with new | older
      · exact ⟨head, given head List.mem_cons_self, new⟩
      · exact known member older
  exact keeps members [] (fun _ none => by cases none) (fun _ given => given) member inside

theorem putMember_map (name : String) (value : α) (change : α → β) (members : List (String × α)) :
    putMember name (change value) (members.map fun member => (member.1, change member.2)) =
      (putMember name value members).map fun member => (member.1, change member.2) := by
  induction members with
  | nil => rfl
  | cons head rest inductionHypothesis =>
    simp only [List.map_cons, putMember]
    split
    · rfl
    · rw [inductionHypothesis, List.map_cons]

/-- Keeping one member of each name looks at the names alone. -/
theorem collapseMembers_map (change : α → β) (members : List (String × α)) :
    collapseMembers (members.map fun member => (member.1, change member.2)) =
      (collapseMembers members).map fun member => (member.1, change member.2) := by
  have keeps : ∀ kept : List (String × α),
      (members.map fun member => (member.1, change member.2)).foldl
          (fun kept member => putMember member.1 member.2 kept)
          (kept.map fun member => (member.1, change member.2)) =
        (members.foldl (fun kept member => putMember member.1 member.2 kept) kept).map
          fun member => (member.1, change member.2) := by
    induction members with
    | nil => exact fun _ => rfl
    | cons head rest inductionHypothesis =>
      intro kept
      simp only [List.map_cons, List.foldl_cons, putMember_map, inductionHypothesis]
  exact keeps []

theorem map_fst_putMember_of_mem {name : String} {members : List (String × α)}
    (inside : name ∈ members.map Prod.fst) (value : α) :
    (putMember name value members).map Prod.fst = members.map Prod.fst := by
  induction members with
  | nil => cases inside
  | cons head rest inductionHypothesis =>
    by_cases same : head.1 = name
    · simp [putMember, same]
    · have deeper : name ∈ rest.map Prod.fst := by
        rcases List.mem_cons.mp inside with here | there
        · exact absurd here.symm same
        · exact there
      simp [putMember, same, inductionHypothesis deeper]

theorem putMember_of_not_mem {name : String} {members : List (String × α)}
    (outside : name ∉ members.map Prod.fst) (value : α) :
    putMember name value members = members ++ [(name, value)] := by
  induction members with
  | nil => rfl
  | cons head rest inductionHypothesis =>
    simp only [List.map_cons, List.mem_cons, not_or] at outside
    simp [putMember, Ne.symm outside.1, inductionHypothesis outside.2]

/-- After keeping one member of each name no name occurs twice. -/
theorem nodup_collapseMembers (members : List (String × α)) :
    ((collapseMembers members).map Prod.fst).Nodup := by
  have keeps : ∀ kept : List (String × α), (kept.map Prod.fst).Nodup →
      ((members.foldl (fun kept member => putMember member.1 member.2 kept) kept).map
        Prod.fst).Nodup := by
    induction members with
    | nil => exact fun _ distinct => distinct
    | cons head rest inductionHypothesis =>
      intro kept distinct
      refine inductionHypothesis _ ?_
      by_cases inside : head.1 ∈ kept.map Prod.fst
      · rw [map_fst_putMember_of_mem inside]
        exact distinct
      · simp only [putMember_of_not_mem inside]
        rw [List.map_append, List.nodup_append]
        refine ⟨distinct, by simp, ?_⟩
        intro name older name' new same
        rw [List.map_singleton, List.mem_singleton] at new
        exact inside (new ▸ same ▸ older)
  exact keeps [] List.nodup_nil

/-- Members with different names are kept as they are. -/
theorem collapseMembers_of_nodup {members : List (String × α)}
    (distinct : (members.map Prod.fst).Nodup) : collapseMembers members = members := by
  have keeps : ∀ kept : List (String × α), ((kept ++ members).map Prod.fst).Nodup →
      members.foldl (fun kept member => putMember member.1 member.2 kept) kept =
        kept ++ members := by
    clear distinct
    induction members with
    | nil => simp
    | cons head rest inductionHypothesis =>
      intro kept distinct
      have outside : head.1 ∉ kept.map Prod.fst := by
        rw [List.map_append, List.nodup_append] at distinct
        exact fun inside => distinct.2.2 _ inside _ (by simp) rfl
      rw [List.foldl_cons, putMember_of_not_mem outside, inductionHypothesis]
      · simp
      · simpa using distinct
  exact keeps [] distinct

/-! ### Keeping one member of each name, at all depths -/

namespace Json

theorem collapse_arr (items : List Json) :
    (Json.arr items).collapse = .arr (items.map collapse) := by
  rw [collapse, fold_arr]

theorem collapse_obj (members : List (String × Json)) :
    (Json.obj members).collapse =
      .obj (collapseMembers (members.map fun member => (member.1, member.2.collapse))) := by
  rw [collapse, fold_obj]

theorem collapse_collapse (value : Json) : value.collapse.collapse = value.collapse := by
  induction value using Json.induction with
  | null => rfl
  | bool value => rfl
  | int value => rfl
  | float value => rfl
  | str text => rfl
  | arr items inductionHypothesis =>
    rw [collapse_arr, collapse_arr, List.map_map]
    exact congrArg Json.arr (List.map_congr_left inductionHypothesis)
  | obj members inductionHypothesis =>
    have again : (members.map fun member => (member.1, member.2.collapse)).map
          (fun member => (member.1, member.2.collapse)) =
        members.map fun member => (member.1, member.2.collapse) := by
      rw [List.map_map]
      exact List.map_congr_left fun member inside => by
        simp only [Function.comp_apply, inductionHypothesis member inside]
    rw [collapse_obj, collapse_obj, ← collapseMembers_map collapse, again]
    exact congrArg Json.obj (collapseMembers_of_nodup (nodup_collapseMembers _))

/-- An object of kept values under different names is kept as it is. -/
theorem collapse_obj_of_nodup {members : List (String × Json)}
    (distinct : (members.map Prod.fst).Nodup)
    (kept : ∀ member ∈ members, member.2.collapse = member.2) :
    (Json.obj members).collapse = .obj members := by
  have same : (members.map fun member => (member.1, member.2.collapse)) = members :=
    (List.map_congr_left fun member inside => by rw [kept member inside, id]).trans (List.map_id _)
  rw [collapse_obj, same, collapseMembers_of_nodup distinct]

theorem depth_collapse_le (value : Json) : value.collapse.depth ≤ value.depth := by
  induction value using Json.induction with
  | arr items inductionHypothesis =>
    rw [collapse_arr]
    refine depth_arr_le_iff.mpr (List.forall_mem_map.mpr fun item inside => ?_)
    exact Nat.lt_of_le_of_lt (inductionHypothesis item inside) (depth_lt_arr inside)
  | obj members inductionHypothesis =>
    rw [collapse_obj]
    refine depth_obj_le_iff.mpr fun member inside => ?_
    obtain ⟨changed, mapped, same⟩ := exists_mem_of_mem_collapseMembers inside
    obtain ⟨given, among, rfl⟩ := List.mem_map.mp mapped
    rw [same]
    exact Nat.lt_of_le_of_lt (inductionHypothesis given among) (depth_lt_obj among)
  | _ => exact Nat.le_refl _

/-- What holds of all leaves still does when one member of each name is kept. -/
theorem AllLeaves.collapse {value : Json} (leaves : value.AllLeaves holds) :
    value.collapse.AllLeaves holds := by
  induction value using Json.induction with
  | arr items inductionHypothesis =>
    rw [collapse_arr, allLeaves_arr]
    intro item inside
    obtain ⟨given, member, same⟩ := List.mem_map.mp inside
    exact same ▸ inductionHypothesis given member (allLeaves_arr.mp leaves given member)
  | obj members inductionHypothesis =>
    rw [collapse_obj, allLeaves_obj]
    intro member inside
    obtain ⟨changed, mapped, same⟩ := exists_mem_of_mem_collapseMembers inside
    obtain ⟨given, member, rfl⟩ := List.mem_map.mp mapped
    rw [same]
    exact inductionHypothesis given member (allLeaves_obj.mp leaves given member)
  | _ => exact leaves

theorem legible_collapse {value : Json} (legible : value.Legible) : value.collapse.Legible :=
  AllLeaves.collapse legible

end Json

end Formwork
