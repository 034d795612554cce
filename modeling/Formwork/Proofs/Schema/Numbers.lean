/-
This file says which doubles a schema holds: those in its defaults, its fixed values and
its choices stand in the document as doubles, while its bounds may have been given in other
ways, as whole numbers, truth values and strings that spell a number.
-/

import Formwork.Proofs.Form.Numbers
import Formwork.Proofs.Schema.Provenance

namespace Formwork

open Decode

namespace Schema

variable {source : Source} {holds : Binary64 → Prop} {value : Json} {schema : Schema}

/-! ### Doubles of nodes -/

/-- Whether something holds of the fixed value and the choices of a node, as far as they are
doubles. -/
structure TakesScalars (holds : Binary64 → Prop) (schema : Schema) : Prop where
  const : schema.constraints.const.AllNumbers holds
  choices : ∀ choices, schema.constraints.enumeration = some choices →
    ∀ choice ∈ choices, choice.AllNumbers holds

/-- Whether something holds of all doubles that a node takes from its document as they are. -/
structure TakesNumbers (holds : Binary64 → Prop) (schema : Schema) : Prop
    extends TakesScalars holds schema where
  default : schema.annotations.default.AllNumbers holds

/-- The bounds of a node that are doubles. -/
def Constraints.numbers (constraints : Constraints) : List Binary64 :=
  [constraints.multipleOf, constraints.minimum, constraints.maximum, constraints.exclusiveMinimum,
    constraints.exclusiveMaximum].reduceOption

/-- Whether something holds of every double that a document gives as a bound, however it is
given. -/
def GivesBounds (holds : Binary64 → Prop) (source : Source) (root : Json) : Prop :=
  ∀ value, grammar.Reaches .node root .number value →
    ∀ number, float source value = .ok number → holds number

/-- Whether something holds of every double that a document gives as a fixed value or a choice. -/
def GivesScalars (holds : Binary64 → Prop) (root : Json) : Prop :=
  ∀ members, grammar.Reaches .node root .node (.obj members) →
    ∀ keyword ∈ scalarKeywords, ∀ value, lastMember? keyword members = some value →
      value.AllNumbers holds

/-! ### Nodes that were read -/

theorem allNumbers_of_holdsNode {members : List (String × Json)} {levels : Nat}
    (held : HoldsNode members levels value) (numbers : (Json.obj members).AllNumbers holds) :
    value.AllNumbers holds := held.reaches.allLeaves numbers

theorem allNumbers_map_collapse {members : List (String × Json)}
    (numbers : (Json.obj members).AllNumbers holds) :
    (Json.obj (members.map fun member => (member.1, member.2.collapse))).AllNumbers holds :=
  Json.allNumbers_obj.mpr (List.forall_mem_map.mpr fun member inside =>
    (Json.allNumbers_obj.mp numbers member inside).collapse)

theorem takesScalars_of_decode {members : List (String × Json)} {node : Schema}
    (read : Constraints.decode source (members.map fun member => (member.1, member.2.collapse)) =
      .ok node.constraints)
    (given : GivesScalars holds (.obj members)) : TakesScalars holds node := by
  have leaves : ∀ keyword ∈ scalarKeywords, ∀ value,
      lastMember? keyword (members.map fun member => (member.1, member.2.collapse)) = some value →
      value.AllNumbers holds := by
    intro keyword listed value found
    rw [lastMember?_map] at found
    obtain ⟨part, held, rfl⟩ := Option.map_eq_some_iff.mp found
    exact (given members .root keyword listed part held).collapse
  obtain ⟨const, choices⟩ := (Constraints.readFrom_of_decode read).scalars
    (show Json.NumberLeaf holds .null from trivial) leaves
  exact ⟨const, choices⟩

/-- If something holds of all doubles that a document gives as fixed values and choices, it holds
of those that the nodes of its schema have. -/
theorem everywhere_takesScalars (read : Schema.decode source value = .ok schema)
    (given : GivesScalars holds value) : Everywhere (TakesScalars holds) schema :=
  everywhere_of_decode (fun _ _ _ held given inner reaches =>
      given inner (held.reaches.trans reaches))
    (fun _ _ given read =>
      takesScalars_of_decode (keywords_of_ofMembers read).2.1 given) read given

theorem givesScalars_of_allNumbers (numbers : value.AllNumbers holds) : GivesScalars holds value :=
  fun _ reaches _ _ _ found =>
    Json.allNumbers_obj.mp (reaches.allLeaves numbers) _ (mem_of_lastMember? found)

/-- If something holds of all doubles in a document, it holds of all doubles that the nodes of its
schema take from it. -/
theorem everywhere_takesNumbers (read : Schema.decode source value = .ok schema)
    (numbers : value.AllNumbers holds) : Everywhere (TakesNumbers holds) schema := by
  refine everywhere_of_decode (fun _ _ _ => allNumbers_of_holdsNode)
    (fun members node numbers read => ?_) read numbers
  obtain ⟨_, constraints, annotations⟩ := keywords_of_ofMembers read
  refine ⟨takesScalars_of_decode constraints (givesScalars_of_allNumbers numbers), ?_⟩
  rcases Annotations.default_of_decode annotations with null | ⟨member, inside, same⟩
  · rw [null]
    trivial
  · rw [← same]
    exact Json.allNumbers_obj.mp (allNumbers_map_collapse numbers) member inside

theorem givesBounds_of_allLeaves
    (leaves : value.AllLeaves fun leaf => ∀ number, float source leaf = .ok number → holds number) :
    GivesBounds holds source value := by
  intro bound reaches number read
  have given := reaches.allLeaves leaves
  cases bound with
  | arr items => cases read
  | obj members => cases read
  | _ => exact given number read

theorem float_collapse (value : Json) : float source value.collapse = float source value := by
  cases value with
  | arr items => rw [Json.collapse_arr]; rfl
  | obj members => rw [Json.collapse_obj]; rfl
  | _ => rfl

/-- A bound that was read was given by a value that a keyword for numbers holds. -/
theorem holds_of_bound {members : List (String × Json)} {names : List String}
    {bound : Option Binary64} (listed : (names, Role.number) ∈ keywordRoles)
    (given : GivesBounds holds source (.obj members))
    (read : optional names (float source)
      (members.map fun member => (member.1, member.2.collapse)) = .ok bound) :
    ∀ number, bound = some number → holds number := by
  intro number same
  obtain ⟨name, collapsed, found, reads⟩ := find?_of_optional read number same
  rw [find?_map] at found
  obtain ⟨⟨_, value⟩, held, same⟩ := Option.map_eq_some_iff.mp found
  cases same
  rw [float_collapse] at reads
  exact given value (.named .root listed held) number reads

/-- If something holds of all doubles that a document gives as bounds, it holds of all bounds of
the nodes of its schema. -/
theorem everywhere_bounds (read : Schema.decode source value = .ok schema)
    (given : GivesBounds holds source value) :
    Everywhere (fun node => ∀ number ∈ node.constraints.numbers, holds number) schema := by
  refine everywhere_of_decode (fun members levels value held given part reaches =>
    given part (held.reaches.trans reaches)) (fun members node given read => ?_) read given
  have read := Constraints.readFrom_of_decode (keywords_of_ofMembers read).2.1
  simp only [Constraints.numbers, List.reduceOption_mem_iff, List.mem_cons, List.not_mem_nil,
    or_false, or_imp, forall_and, @eq_comm _ (some _)]
  exact ⟨holds_of_bound (by decide) given read.multipleOf,
    holds_of_bound (by decide) given read.minimum, holds_of_bound (by decide) given read.maximum,
    holds_of_bound (by decide) given read.exclusiveMinimum,
    holds_of_bound (by decide) given read.exclusiveMaximum⟩

end Schema

end Formwork
