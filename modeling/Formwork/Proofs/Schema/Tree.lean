/-
This file holds the theory of schemas as trees of nodes: the nodes directly inside of
a node, whatever keyword they stand under, and what holds of all nodes of a schema.
-/

import Formwork.Schema.Basic

namespace Formwork

namespace Schema

/-! ### The parts of a node -/

/-- The nodes that the keywords of a node hold. -/
def Applicators.parts (applicators : Applicators Schema) : List Schema :=
  (applicators.definitions.getD []).map Prod.snd ++
    applicators.allOf.getD [] ++
    applicators.anyOf.getD [] ++
    applicators.oneOf.getD [] ++
    applicators.negation.toList ++
    applicators.condition.toList ++
    applicators.consequent.toList ++
    applicators.alternative.toList ++
    (applicators.properties.getD []).filterMap Prod.snd ++
    applicators.items.toList

/-- The nodes directly inside of a node. -/
def parts (schema : Schema) : List Schema := schema.applicators.parts

section Membership

variable {schema part : Schema}

theorem mem_parts_of_condition (held : schema.applicators.condition = some part) :
    part ∈ schema.parts := by simp [parts, Applicators.parts, held]

theorem mem_parts_of_consequent (held : schema.applicators.consequent = some part) :
    part ∈ schema.parts := by simp [parts, Applicators.parts, held]

theorem mem_parts_of_alternative (held : schema.applicators.alternative = some part) :
    part ∈ schema.parts := by simp [parts, Applicators.parts, held]

theorem mem_parts_of_items (held : schema.applicators.items = some part) :
    part ∈ schema.parts := by simp [parts, Applicators.parts, held]

theorem mem_parts_of_properties {name : String}
    (member : (name, some part) ∈ schema.properties) :
    part ∈ schema.parts := by
  simp only [parts, Applicators.parts, List.mem_append]
  exact Or.inl (Or.inr (List.mem_filterMap.mpr ⟨_, mem_of_mem_sortMembers member, rfl⟩))

end Membership

theorem sizeOf_lt_of_mem_toList {schema : Option Schema} {part : Schema}
    (member : part ∈ schema.toList) : sizeOf part < sizeOf schema := by
  rw [Option.mem_toList.mp member, Option.some.sizeOf_spec]
  omega

theorem sizeOf_lt_of_mem_getD {schemas : Option (List Schema)} {part : Schema}
    (member : part ∈ schemas.getD []) : sizeOf part < sizeOf schemas := by
  cases schemas with
  | none => cases member
  | some schemas =>
    have inside := List.sizeOf_lt_of_mem member
    rw [Option.some.sizeOf_spec]
    simp only [Option.getD_some] at inside
    omega

theorem sizeOf_lt_of_mem_definitions {definitions : Option (List (String × Schema))}
    {part : Schema} (member : part ∈ (definitions.getD []).map Prod.snd) :
    sizeOf part < sizeOf definitions := by
  cases definitions with
  | none => cases member
  | some definitions =>
    obtain ⟨⟨name, schema⟩, found, rfl⟩ := List.mem_map.mp member
    have inside := List.sizeOf_lt_of_mem found
    rw [Prod.mk.sizeOf_spec] at inside
    rw [Option.some.sizeOf_spec]
    simp only [Option.getD_some] at inside ⊢
    omega

theorem sizeOf_lt_of_mem_properties {properties : Option (List (String × Option Schema))}
    {part : Schema} (member : part ∈ (properties.getD []).filterMap Prod.snd) :
    sizeOf part < sizeOf properties := by
  cases properties with
  | none => cases member
  | some properties =>
    obtain ⟨⟨name, schema⟩, found, same⟩ := List.mem_filterMap.mp member
    have inside := List.sizeOf_lt_of_mem found
    simp only at same
    rw [Prod.mk.sizeOf_spec, same, Option.some.sizeOf_spec] at inside
    rw [Option.some.sizeOf_spec]
    simp only [Option.getD_some] at inside
    omega

/-- The nodes inside of a node are smaller. -/
theorem sizeOf_lt_of_mem_parts {schema part : Schema} (member : part ∈ schema.parts) :
    sizeOf part < sizeOf schema := by
  obtain ⟨identity, applicators, constraints, annotations⟩ := schema
  have smaller : sizeOf part < sizeOf applicators := by
    obtain ⟨definitions, allOf, anyOf, oneOf, negation, condition, consequent, alternative,
      properties, items⟩ := applicators
    rw [Applicators.mk.sizeOf_spec]
    simp only [parts, Schema.applicators, Applicators.parts, List.mem_append] at member
    rcases member with ((((((((member | member) | member) | member) | member) | member) |
      member) | member) | member) | member
    · have := sizeOf_lt_of_mem_definitions member
      omega
    · have := sizeOf_lt_of_mem_getD member
      omega
    · have := sizeOf_lt_of_mem_getD member
      omega
    · have := sizeOf_lt_of_mem_getD member
      omega
    · have := sizeOf_lt_of_mem_toList member
      omega
    · have := sizeOf_lt_of_mem_toList member
      omega
    · have := sizeOf_lt_of_mem_toList member
      omega
    · have := sizeOf_lt_of_mem_toList member
      omega
    · have := sizeOf_lt_of_mem_properties member
      omega
    · have := sizeOf_lt_of_mem_toList member
      omega
  rw [Schema.node.sizeOf_spec]
  omega

/-- What holds of every node whose parts it holds of holds of all nodes. -/
theorem induction {motive : Schema → Prop}
    (step : ∀ schema : Schema, (∀ part ∈ schema.parts, motive part) → motive schema)
    (schema : Schema) : motive schema :=
  step schema fun part _member => induction step part
termination_by sizeOf schema
decreasing_by exact sizeOf_lt_of_mem_parts _member

/-! ### The nodes of a schema -/

/-- The nodes of a schema, at any depth. -/
inductive Within (schema : Schema) : Schema → Prop where
  | self : Within schema schema
  | part {node part : Schema} : Within schema node → part ∈ node.parts → Within schema part

theorem Within.trans {schema node node' : Schema} (within : Within schema node)
    (within' : Within node node') : Within schema node' := by
  induction within' with
  | self => exact within
  | part _ member inductionHypothesis => exact inductionHypothesis.part member

/-- Within a schema are its root and what is within the parts of its root. -/
theorem within_iff {schema node : Schema} :
    Within schema node ↔ node = schema ∨ ∃ part ∈ schema.parts, Within part node := by
  constructor
  · intro within
    induction within with
    | self => exact Or.inl rfl
    | part _ member inductionHypothesis =>
      rename_i part _
      rcases inductionHypothesis with rfl | ⟨ancestor, inside, deeper⟩
      · exact Or.inr ⟨part, member, .self⟩
      · exact Or.inr ⟨ancestor, inside, deeper.part member⟩
  · rintro (rfl | ⟨part, member, within⟩)
    · exact .self
    · exact (Within.self.part member).trans within

variable {holds holds' : Schema → Prop}

/-- Whether something holds of all nodes of a schema. -/
def Everywhere (holds : Schema → Prop) (schema : Schema) : Prop :=
  ∀ node, Within schema node → holds node

theorem everywhere_iff {schema : Schema} :
    Everywhere holds schema ↔ holds schema ∧ ∀ part ∈ schema.parts, Everywhere holds part := by
  constructor
  · intro everywhere
    exact ⟨everywhere schema .self, fun part member node within =>
      everywhere node (within_iff.mpr (Or.inr ⟨part, member, within⟩))⟩
  · rintro ⟨here, deeper⟩ node within
    rcases within_iff.mp within with rfl | ⟨part, member, within⟩
    · exact here
    · exact deeper part member node within

theorem Everywhere.here {schema : Schema} (everywhere : Everywhere holds schema) : holds schema :=
  everywhere schema .self

theorem Everywhere.part {schema part : Schema} (everywhere : Everywhere holds schema)
    (member : part ∈ schema.parts) : Everywhere holds part :=
  (everywhere_iff.mp everywhere).2 part member

/-- What holds of a node once it holds everywhere below the node holds of all nodes of a schema,
given something else that holds of all its nodes. -/
theorem Everywhere.induct {schema : Schema} (everywhere : Everywhere holds schema)
    (step : ∀ node, Everywhere holds node → (∀ part ∈ node.parts, Everywhere holds' part) →
      holds' node) : Everywhere holds' schema := by
  induction schema using Schema.induction with
  | step schema inductionHypothesis =>
    have below : ∀ part ∈ schema.parts, Everywhere holds' part :=
      fun part member => inductionHypothesis part member (everywhere.part member)
    exact everywhere_iff.mpr ⟨step schema everywhere below, below⟩

/-- What holds of a node once it holds everywhere below the node holds of all nodes of a schema. -/
theorem everywhere_of_below
    (step : ∀ node, (∀ part ∈ node.parts, Everywhere holds part) → holds node)
    (schema : Schema) : Everywhere holds schema :=
  Everywhere.induct (fun _ _ => trivial : Everywhere (fun _ => True) schema) fun node _ => step node

theorem Everywhere.mono {schema : Schema} (everywhere : Everywhere holds schema)
    (implies : ∀ node, holds node → holds' node) : Everywhere holds' schema :=
  fun node within => implies node (everywhere node within)

end Schema

end Formwork
