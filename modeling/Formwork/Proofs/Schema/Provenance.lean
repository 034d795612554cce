/-
This file says where in a document the nodes of a schema come from. Every node of a schema
that was read comes from an object of the document, and the nodes directly inside of it
come from values below this object: one level below it under a keyword that holds one node,
and two levels below it in a list or in a mapping.

So what relates objects and the nodes read from them can be proved by induction on reading,
given that it holds of the nodes inside.
-/

import Formwork.Proofs.Schema.Roles
import Formwork.Proofs.Schema.Tree

namespace Formwork

open Decode

namespace Schema

variable {source : Source} {members : List (String × Json)} {related : Json → Schema → Prop}

/-! ### Readings -/

namespace Reading

theorem ofJson_arr (source : Source) (items : List Json) :
    ofJson source (.arr items) = ofItems (items.map (ofJson source)) := by
  rw [ofJson, Json.fold_arr]

theorem ofJson_obj (source : Source) (members : List (String × Json)) :
    ofJson source (.obj members) =
      ofObject source (members.map fun member => (member.1, ofJson source member.2)) := by
  rw [ofJson, Json.fold_obj]

theorem raw_ofJson (source : Source) (value : Json) :
    (ofJson source value).raw = value.collapse := by
  induction value using Json.induction with
  | null => rfl
  | bool value => rfl
  | int value => rfl
  | float value => rfl
  | str text => rfl
  | arr items inductionHypothesis =>
    rw [ofJson_arr, Json.collapse_arr]
    refine congrArg Json.arr ?_
    rw [List.map_map]
    exact List.map_congr_left inductionHypothesis
  | obj members inductionHypothesis =>
    rw [ofJson_obj, Json.collapse_obj]
    refine congrArg (Json.obj ∘ collapseMembers) ?_
    rw [List.map_map]
    exact List.map_congr_left fun member inside => by
      simp only [Function.comp_apply, inductionHypothesis member inside]

/-- The values of members as they are read. -/
theorem map_raw_ofJson (source : Source) (members : List (String × Json)) :
    ((members.map fun member => (member.1, ofJson source member.2)).map
        fun member => (member.1, member.2.raw)) =
      members.map fun member => (member.1, member.2.collapse) := by
  rw [List.map_map]
  exact List.map_congr_left fun member _ => by
    simp only [Function.comp_apply, raw_ofJson]

theorem node?_eq : node? = orNull Reading.node := by
  funext reading
  rfl

theorem orNull_eq_ok {α : Type} {role : Reading → Decoded α} {reading : Reading}
    {value : Option α} (read : orNull role reading = .ok value) :
    ∀ present, value = some present → role reading = .ok present := by
  intro present same
  rw [orNull] at read
  split at read
  · cases read
    cases same
  · obtain ⟨present', found, some⟩ := Decoded.map_eq_ok read
    rw [same] at some
    rw [found, Option.some.inj some]

theorem node?_eq_ok {reading : Reading} {schema : Option Schema}
    (read : reading.node? = .ok schema) :
    ∀ node, schema = some node → reading.node = .ok node := by
  rw [node?_eq] at read
  exact orNull_eq_ok read

end Reading

/-- A value other than null is read as itself where null is allowed. -/
theorem orNull_ofJson {α : Type} {value : Json} (notNull : value ≠ .null)
    (part : Reading → Decoded α) :
    Reading.orNull part (Reading.ofJson source value) =
      (part (Reading.ofJson source value)).map some := by
  cases value with
  | null => exact absurd rfl notNull
  | arr items =>
    rw [Reading.ofJson_arr]
    rfl
  | obj members =>
    rw [Reading.ofJson_obj]
    rfl
  | _ => rfl

theorem orNull_obj {α : Type} (part : Reading → Decoded α) (members : List (String × Json)) :
    Reading.orNull part (Reading.ofJson source (.obj members)) =
      (part (Reading.ofJson source (.obj members))).map some := orNull_ofJson (by simp) part

theorem orNull_arr {α : Type} (part : Reading → Decoded α) (items : List Json) :
    Reading.orNull part (Reading.ofJson source (.arr items)) =
      (part (Reading.ofJson source (.arr items))).map some := orNull_ofJson (by simp) part

/-- The members of a mapping whose values were read. -/
theorem exists_of_mem_sortMembers {α : Type} {role : Reading → Decoded α}
    {mapping : List (String × α)}
    (read : (Decoded.allNamed ((members.map fun member =>
        (member.1, Reading.ofJson source member.2)).map
          fun member => (member.1, role member.2))).map sortMembers = .ok mapping) :
    ∀ member ∈ mapping, ∃ given ∈ members, role (Reading.ofJson source given.2) = .ok member.2 := by
  obtain ⟨listed, found, rfl⟩ := Decoded.map_eq_ok read
  intro member sorted
  have same := Decoded.allNamed_eq_ok.mp found
  rw [List.map_map] at same
  have among : (member.1, Decoded.ok member.2) ∈
      listed.map fun member => (member.1, Decoded.ok member.2) :=
    List.mem_map_of_mem (mem_of_mem_sortMembers sorted)
  rw [← same] at among
  obtain ⟨given, inside, equal⟩ := List.mem_map.mp among
  exact ⟨given, inside, (Prod.mk.inj equal).2⟩

theorem ascending_of_sorted {α : Type} {listed : Decoded (List (String × α))}
    {mapping : List (String × α)} (read : listed.map sortMembers = .ok mapping) :
    Ascending mapping := by
  obtain ⟨members, _, rfl⟩ := Decoded.map_eq_ok read
  exact ascending_sortMembers members

theorem ascending_of_definitions {value : Json} {mapping : List (String × Schema)}
    (read : (Reading.ofJson source value).definitions = .ok mapping) : Ascending mapping := by
  cases value with
  | arr items =>
    rw [Reading.ofJson_arr] at read
    cases read
  | obj members =>
    rw [Reading.ofJson_obj] at read
    exact ascending_of_sorted read
  | _ => cases read

theorem ascending_of_properties {value : Json} {mapping : List (String × Option Schema)}
    (read : (Reading.ofJson source value).properties = .ok mapping) : Ascending mapping := by
  cases value with
  | arr items =>
    rw [Reading.ofJson_arr] at read
    cases read
  | obj members =>
    rw [Reading.ofJson_obj] at read
    exact ascending_of_sorted read
  | _ => cases read

/-! ### Keywords that were read -/

/-- How the keywords that hold further nodes were read from members. -/
structure Applicators.ReadFrom (members : List (String × Reading))
    (applicators : Applicators Schema) : Prop where
  definitions : entry ["$defs", "defs"] (.ok none) (Reading.orNull Reading.definitions) members =
    .ok applicators.definitions
  allOf : entry ["allOf", "all_of"] (.ok none) (Reading.orNull Reading.nodes) members =
    .ok applicators.allOf
  anyOf : entry ["anyOf", "any_of"] (.ok none) (Reading.orNull Reading.nodes) members =
    .ok applicators.anyOf
  oneOf : entry ["oneOf", "one_of"] (.ok none) (Reading.orNull Reading.nodes) members =
    .ok applicators.oneOf
  negation : entry ["not", "not_"] (.ok none) Reading.node? members = .ok applicators.negation
  condition : entry ["if", "if_"] (.ok none) Reading.node? members = .ok applicators.condition
  consequent : entry ["then"] (.ok none) Reading.node? members = .ok applicators.consequent
  alternative : entry ["else", "else_"] (.ok none) Reading.node? members =
    .ok applicators.alternative
  properties : entry ["properties"] (.ok none) (Reading.orNull Reading.properties) members =
    .ok applicators.properties
  items : entry ["items"] (.ok none) Reading.node? members = .ok applicators.items

theorem Applicators.readFrom_of_decode {members : List (String × Reading)}
    {applicators : Applicators Schema} (read : Applicators.decode members = .ok applicators) :
    applicators.ReadFrom members := by
  obtain ⟨_, _, toProperties, items, rfl⟩ := Decoded.seq_eq_ok read
  obtain ⟨_, _, toAlternative, properties, rfl⟩ := Decoded.seq_eq_ok toProperties
  obtain ⟨_, _, toConsequent, alternative, rfl⟩ := Decoded.seq_eq_ok toAlternative
  obtain ⟨_, _, toCondition, consequent, rfl⟩ := Decoded.seq_eq_ok toConsequent
  obtain ⟨_, _, toNegation, condition, rfl⟩ := Decoded.seq_eq_ok toCondition
  obtain ⟨_, _, toOneOf, negation, rfl⟩ := Decoded.seq_eq_ok toNegation
  obtain ⟨_, _, toAnyOf, oneOf, rfl⟩ := Decoded.seq_eq_ok toOneOf
  obtain ⟨_, _, toAllOf, anyOf, rfl⟩ := Decoded.seq_eq_ok toAnyOf
  obtain ⟨_, _, toDefinitions, allOf, rfl⟩ := Decoded.seq_eq_ok toAllOf
  obtain ⟨_, definitions, rfl⟩ := Decoded.map_eq_ok toDefinitions
  exact ⟨definitions, allOf, anyOf, oneOf, negation, condition, consequent, alternative,
    properties, items⟩

/-- The keywords of a node were read from the members of its object. -/
theorem keywords_of_ofMembers {schema : Schema}
    (read : ofMembers source (members.map fun member =>
      (member.1, Reading.ofJson source member.2)) = .ok schema) :
    schema.applicators.ReadFrom (members.map fun member =>
        (member.1, Reading.ofJson source member.2)) ∧
      Constraints.decode source (members.map fun member => (member.1, member.2.collapse)) =
        .ok schema.constraints ∧
      Annotations.decode (members.map fun member => (member.1, member.2.collapse)) =
        .ok schema.annotations := by
  obtain ⟨_, _, toConstraints, annotations, rfl⟩ := Decoded.seq_eq_ok read
  obtain ⟨_, _, toApplicators, constraints, rfl⟩ := Decoded.seq_eq_ok toConstraints
  obtain ⟨_, _, toIdentity, applicators, rfl⟩ := Decoded.seq_eq_ok toApplicators
  obtain ⟨_, _, rfl⟩ := Decoded.map_eq_ok toIdentity
  rw [Reading.map_raw_ofJson] at annotations constraints
  exact ⟨Applicators.readFrom_of_decode applicators, constraints, annotations⟩

/-! ### Values that hold nodes -/

/-- Which values are read as the nodes directly inside of a node, and how many levels they lie
below its object. -/
inductive HoldsNode (members : List (String × Json)) : Nat → Json → Prop where
  | node {names : List String} {name : String} {value : Json} :
    (names, Role.node) ∈ keywordRoles → find? names members = some (name, value) →
      HoldsNode members 1 value
  | item {names : List String} {name : String} {items : List Json} {value : Json} :
    (names, Role.nodes) ∈ keywordRoles → find? names members = some (name, .arr items) →
      value ∈ items → HoldsNode members 2 value
  | entry {names : List String} {name key : String} {mapping : List (String × Json)}
    {value : Json} :
    (names, Role.mapping) ∈ keywordRoles → find? names members = some (name, .obj mapping) →
      (key, value) ∈ mapping → HoldsNode members 2 value

variable {levels : Nat} {value : Json}

theorem HoldsNode.reaches (holds : HoldsNode members levels value) :
    grammar.Reaches .node (.obj members) .node value := by
  cases holds with
  | node listed found => exact .named .root listed found
  | item listed found inside => exact .item (.named .root listed found) rfl inside
  | entry listed found inside => exact .entry (.named .root listed found) rfl inside

theorem HoldsNode.depth_add_le (holds : HoldsNode members levels value) :
    value.depth + levels ≤ (Json.obj members).depth := by
  cases holds with
  | node _ found => exact Json.depth_lt_obj (mem_of_find? found)
  | item _ found inside =>
    have outer := Json.depth_lt_obj (mem_of_find? found)
    have inner := Json.depth_lt_arr inside
    simp only at outer
    omega
  | entry _ found inside =>
    have outer := Json.depth_lt_obj (mem_of_find? found)
    have inner := Json.depth_lt_obj inside
    simp only at outer inner
    omega

theorem HoldsNode.depth_lt (holds : HoldsNode members levels value) :
    value.depth < (Json.obj members).depth := by
  have lower := holds.depth_add_le
  cases holds <;> omega

/-! ### Nodes that come from values -/

/-- Whether the nodes directly inside of a node come from values below an object that they are
related to. -/
structure PartsFrom (related : Json → Schema → Prop) (members : List (String × Json))
    (schema : Schema) : Prop where
  parts : ∀ part ∈ schema.parts, ∃ levels value, HoldsNode members levels value ∧ related value part
  properties : ∀ name part, (name, some part) ∈ schema.properties →
    ∃ value, HoldsNode members 2 value ∧ related value part

/-- Whether the nodes that a value holds in any of its roles are related to the values that they
come from. -/
structure ReadsFrom (related : Json → Schema → Prop) (source : Source) (value : Json) : Prop where
  node : ∀ schema, (Reading.ofJson source value).node = .ok schema → related value schema
  nodes : ∀ schemas, (Reading.ofJson source value).nodes = .ok schemas →
    ∀ schema ∈ schemas, ∃ items item, value = .arr items ∧ item ∈ items ∧ related item schema
  definitions : ∀ mapping, (Reading.ofJson source value).definitions = .ok mapping →
    ∀ member ∈ mapping, ∃ inner entry, value = .obj inner ∧ entry ∈ inner ∧
      related entry.2 member.2
  properties : ∀ mapping, (Reading.ofJson source value).properties = .ok mapping →
    ∀ member ∈ mapping, ∀ schema, member.2 = some schema →
      ∃ inner entry, value = .obj inner ∧ entry ∈ inner ∧ related entry.2 schema

section Keywords

variable (each : ∀ member ∈ members, ReadsFrom related source member.2)
include each

theorem exists_of_node? {names : List String} {part : Option Schema}
    (listed : (names, Role.node) ∈ keywordRoles)
    (read : entry names (.ok none) Reading.node?
      (members.map fun member => (member.1, Reading.ofJson source member.2)) = .ok part) :
    ∀ node ∈ part.toList, ∃ levels value, HoldsNode members levels value ∧ related value node := by
  intro node held
  rw [entry_map] at read
  rcases find?_of_entry read with absent | ⟨name, value, found, decoded⟩
  · cases absent
    cases held
  · have reads := Reading.node?_eq_ok decoded node (Option.mem_toList.mp held)
    exact ⟨1, value, .node listed found, (each _ (mem_of_find? found)).node node reads⟩

theorem exists_of_nodes {names : List String} {parts : Option (List Schema)}
    (listed : (names, Role.nodes) ∈ keywordRoles)
    (read : entry names (.ok none) (Reading.orNull Reading.nodes)
      (members.map fun member => (member.1, Reading.ofJson source member.2)) = .ok parts) :
    ∀ node ∈ parts.getD [],
      ∃ levels value, HoldsNode members levels value ∧ related value node := by
  intro node held
  rw [entry_map] at read
  rcases find?_of_entry read with absent | ⟨name, value, found, decoded⟩
  · cases absent
    cases held
  · cases parts with
    | none => cases held
    | some parts =>
      have reads := Reading.orNull_eq_ok decoded parts rfl
      obtain ⟨items, item, rfl, inside, holds⟩ :=
        (each _ (mem_of_find? found)).nodes parts reads node held
      exact ⟨2, item, .item listed found inside, holds⟩

theorem exists_of_definitions {names : List String}
    {definitions : Option (List (String × Schema))}
    (listed : (names, Role.mapping) ∈ keywordRoles)
    (read : entry names (.ok none) (Reading.orNull Reading.definitions)
      (members.map fun member => (member.1, Reading.ofJson source member.2)) =
        .ok definitions) :
    ∀ node ∈ (definitions.getD []).map Prod.snd,
      ∃ levels value, HoldsNode members levels value ∧ related value node := by
  intro node held
  rw [entry_map] at read
  rcases find?_of_entry read with absent | ⟨name, value, found, decoded⟩
  · cases absent
    cases held
  · cases definitions with
    | none => cases held
    | some definitions =>
      obtain ⟨definition, among, rfl⟩ := List.mem_map.mp held
      have reads := Reading.orNull_eq_ok decoded definitions rfl
      obtain ⟨mapping, given, rfl, inside, holds⟩ :=
        (each _ (mem_of_find? found)).definitions definitions reads definition among
      exact ⟨2, given.2, .entry listed found inside, holds⟩

theorem exists_of_properties {names : List String}
    {properties : Option (List (String × Option Schema))}
    (listed : (names, Role.mapping) ∈ keywordRoles)
    (read : entry names (.ok none) (Reading.orNull Reading.properties)
      (members.map fun member => (member.1, Reading.ofJson source member.2)) =
        .ok properties) :
    ∀ name node, (name, some node) ∈ properties.getD [] →
      ∃ value, HoldsNode members 2 value ∧ related value node := by
  intro key node held
  rw [entry_map] at read
  rcases find?_of_entry read with absent | ⟨name, value, found, decoded⟩
  · cases absent
    cases held
  · cases properties with
    | none => cases held
    | some properties =>
      have reads := Reading.orNull_eq_ok decoded properties rfl
      obtain ⟨mapping, given, rfl, inside, holds⟩ :=
        (each _ (mem_of_find? found)).properties properties reads _ held node rfl
      exact ⟨given.2, .entry listed found inside, holds⟩

theorem partsFrom_of_ofMembers {schema : Schema}
    (read : ofMembers source (members.map fun member =>
      (member.1, Reading.ofJson source member.2)) = .ok schema) :
    PartsFrom related members schema := by
  obtain ⟨read, _⟩ := keywords_of_ofMembers read
  have named :=
    exists_of_properties each (by decide : (["properties"], _) ∈ keywordRoles) read.properties
  refine ⟨?_, fun name part held => named name part (mem_of_mem_sortMembers held)⟩
  simp only [parts, Applicators.parts, List.forall_mem_append]
  refine ⟨⟨⟨⟨⟨⟨⟨⟨⟨exists_of_definitions each (by decide) read.definitions,
    exists_of_nodes each (by decide) read.allOf⟩, exists_of_nodes each (by decide) read.anyOf⟩,
    exists_of_nodes each (by decide) read.oneOf⟩, exists_of_node? each (by decide) read.negation⟩,
    exists_of_node? each (by decide) read.condition⟩,
    exists_of_node? each (by decide) read.consequent⟩,
    exists_of_node? each (by decide) read.alternative⟩, ?_⟩,
    exists_of_node? each (by decide) read.items⟩
  intro node held
  obtain ⟨⟨name, _⟩, among, rfl⟩ := List.mem_filterMap.mp held
  obtain ⟨value, holds, relates⟩ := named name node among
  exact ⟨2, value, holds, relates⟩

end Keywords

/-- What relates every object and the node read from it, once it relates the nodes inside and the
values they come from, relates all values and the nodes read from them. -/
theorem decode_induction
    (step : ∀ members schema,
      ofMembers source (members.map fun member =>
        (member.1, Reading.ofJson source member.2)) = .ok schema →
      PartsFrom related members schema → related (.obj members) schema)
    {value : Json} {schema : Schema} (read : Schema.decode source value = .ok schema) :
    related value schema := by
  have leaf : ∀ leaf : Json, Reading.ofJson source leaf = Reading.ofLeaf leaf →
      ReadsFrom related source leaf := by
    intro leaf same
    constructor
    all_goals
      intro _ read
      rw [same] at read
      cases read
  suffices all : ReadsFrom related source value from all.node schema read
  clear read
  induction value using Json.induction with
  | null => exact leaf _ rfl
  | bool value => exact leaf _ rfl
  | int value => exact leaf _ rfl
  | float value => exact leaf _ rfl
  | str text => exact leaf _ rfl
  | arr items inductionHypothesis =>
    constructor
    case nodes =>
      intro schemas read schema among
      rw [Reading.ofJson_arr] at read
      have same := Decoded.allIndexed_eq_ok.mp read
      rw [List.map_map] at same
      have listed : Decoded.ok schema ∈ schemas.map Decoded.ok := List.mem_map_of_mem among
      rw [← same] at listed
      obtain ⟨item, inside, itemRead⟩ := List.mem_map.mp listed
      exact ⟨items, item, rfl, inside, (inductionHypothesis item inside).node schema itemRead⟩
    all_goals
      intro _ read
      rw [Reading.ofJson_arr] at read
      cases read
  | obj members inductionHypothesis =>
    constructor
    case node =>
      intro schema read
      rw [Reading.ofJson_obj] at read
      exact step members schema read (partsFrom_of_ofMembers inductionHypothesis read)
    case nodes =>
      intro schemas read
      rw [Reading.ofJson_obj] at read
      cases read
    case definitions =>
      intro mapping read member among
      rw [Reading.ofJson_obj] at read
      obtain ⟨given, inside, found⟩ := exists_of_mem_sortMembers read member among
      exact ⟨members, given, rfl, inside, (inductionHypothesis given inside).node _ found⟩
    case properties =>
      intro mapping read member among schema same
      rw [Reading.ofJson_obj] at read
      obtain ⟨given, inside, found⟩ := exists_of_mem_sortMembers read member among
      exact ⟨members, given, rfl, inside, (inductionHypothesis given inside).node schema
        (Reading.node?_eq_ok found schema same)⟩

/-- What holds of every node that is read from an object of some sort holds of all nodes read from
such an object, if the values that hold its nodes are of this sort again. -/
theorem everywhere_of_decode {given : Json → Prop} {holds : Schema → Prop}
    (inherits : ∀ members levels value, HoldsNode members levels value → given (.obj members) →
      given value)
    (step : ∀ members schema, given (.obj members) →
      ofMembers source (members.map fun member =>
        (member.1, Reading.ofJson source member.2)) = .ok schema → holds schema)
    {value : Json} {schema : Schema} (read : Schema.decode source value = .ok schema) :
    given value → Everywhere holds schema := by
  refine @decode_induction source (fun value schema => given value → Everywhere holds schema)
    (fun members node read parts root => ?_) value schema read
  refine everywhere_iff.mpr ⟨step members node root read, fun part inside => ?_⟩
  obtain ⟨levels, value, held, related⟩ := parts.parts part inside
  exact related (inherits members levels value held root)

end Schema

end Formwork
