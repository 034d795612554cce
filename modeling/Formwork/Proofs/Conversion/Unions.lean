/-
This file proves that a union of types counts for no more than one type: the first of its
names other than null.

A schema is rewritten at any number of its nodes at once, wherever they stand. The kind that
is declared by a node is the same before and after, and it is all that the conversion asks of
the type of a node, so a node of rewritten parts is converted like the node it was.
-/

import Formwork.Check.Walk
import Formwork.Proofs.Conversion.Alike

namespace Formwork

namespace Schema

/-! ### Rewritten types -/

namespace TypeNames

/-- The name of a union that decides, null if there is no other name. -/
def decisiveName (names : List String) : String := (names.find? (· != "null")).getD "null"

/-- The type name that decides. -/
def decisive : TypeNames → String
  | .single name => name
  | .union names => decisiveName names

/-- How the type of a node may be rewritten: not at all, a union to its decisive name, a union by
putting in and taking out null, and a union behind its first name other than null. -/
inductive Rewrites : TypeNames → TypeNames → Prop where
  | kept (types : TypeNames) : Rewrites types types
  | resolved (names : List String) : Rewrites (.union names) (.single (decisiveName names))
  | nulls {names names' : List String} :
    names.filter (· != "null") = names'.filter (· != "null") →
      Rewrites (.union names) (.union names')
  | behind {nulls rest rest' : List String} {name : String} :
    (∀ null ∈ nulls, null = "null") → name ≠ "null" →
      Rewrites (.union (nulls ++ name :: rest)) (.union (nulls ++ name :: rest'))

theorem decisiveName_of_nulls {nulls : List String} {name : String}
    (each : ∀ null ∈ nulls, null = "null") (other : name ≠ "null") (rest : List String) :
    decisiveName (nulls ++ name :: rest) = name := by
  have skipped : nulls.find? (· != "null") = none :=
    List.find?_eq_none.mpr fun null member => by simp [each null member]
  rw [decisiveName, List.find?_append, skipped, Option.none_or, List.find?_cons_of_pos (by simpa),
    Option.getD_some]

theorem Rewrites.decisive_eq {types types' : TypeNames} (rewrites : Rewrites types types') :
    types.decisive = types'.decisive := by
  cases rewrites with
  | kept => rfl
  | resolved => rfl
  | nulls same =>
    simp only [decisive, decisiveName, ← List.head?_filter, same]
  | behind each other =>
    simp only [decisive, decisiveName_of_nulls each other]

end TypeNames

/-- The declared kind asks for the decisive name of a type alone. -/
theorem declaredKindOf_eq (constraints : Constraints) (properties items : Bool) :
    declaredKindOf constraints properties items =
      constraints.type.elim (if properties then .object else if items then .array else .text)
        fun types => constraints.kindOfType types.decisive := by
  obtain ⟨type, _⟩ := constraints
  cases type with
  | none => rfl
  | some types =>
    cases types with
    | single name => rfl
    | union names =>
      simp only [declaredKindOf, Option.elim_some, TypeNames.decisive, TypeNames.decisiveName]
      cases names.find? (· != "null") <;> rfl

/-! ### Rewritten schemas -/

/-- Whether two members of mappings have one name and matching values. -/
inductive MemberMatched {Value : Type} (matched : Value → Value → Prop) :
    String × Value → String × Value → Prop where
  | mk (name : String) {value value' : Value} :
    matched value value' → MemberMatched matched (name, value) (name, value')

/-- Whether the same keywords hold nodes at two places, and all these nodes match. -/
inductive Applicators.Matched {Node : Type} (matched : Node → Node → Prop) :
    Applicators Node → Applicators Node → Prop where
  | mk {definitions definitions' : Option (List (String × Node))}
    {allOf allOf' anyOf anyOf' oneOf oneOf' : Option (List Node)}
    {negation negation' condition condition' consequent consequent' alternative alternative' :
      Option Node}
    {properties properties' : Option (List (String × Option Node))} {items items' : Option Node} :
    Option.Rel (List.Forall₂ (MemberMatched matched)) definitions definitions' →
      Option.Rel (List.Forall₂ matched) allOf allOf' →
      Option.Rel (List.Forall₂ matched) anyOf anyOf' →
      Option.Rel (List.Forall₂ matched) oneOf oneOf' →
      Option.Rel matched negation negation' →
      Option.Rel matched condition condition' →
      Option.Rel matched consequent consequent' →
      Option.Rel matched alternative alternative' →
      Option.Rel (List.Forall₂ (MemberMatched (Option.Rel matched))) properties properties' →
      Option.Rel matched items items' →
      Matched matched
        ⟨definitions, allOf, anyOf, oneOf, negation, condition, consequent, alternative,
          properties, items⟩
        ⟨definitions', allOf', anyOf', oneOf', negation', condition', consequent', alternative',
          properties', items'⟩

/-- Whether a schema is the other one with the types of any of its nodes rewritten. -/
inductive Rewritten : Schema → Schema → Prop where
  | node {identity : Identity} {applicators applicators' : Applicators Schema}
    {constraints : Constraints} {types : Option TypeNames} {annotations : Annotations} :
    applicators.Matched Rewritten applicators' →
      Option.Rel TypeNames.Rewrites constraints.type types →
      Rewritten (.node identity applicators constraints annotations)
        (.node identity applicators' { constraints with type := types } annotations)

theorem Applicators.Matched.empty {Node : Type} {matched : Node → Node → Prop} :
    Applicators.Matched matched {} {} :=
  .mk .none .none .none .none .none .none .none .none .none .none

variable {schema schema' : Schema}

/-- Constraints with a rewritten type declare the same kind. -/
theorem declaredKindOf_rewritten {constraints : Constraints} {types : Option TypeNames}
    (rewrites : Option.Rel TypeNames.Rewrites constraints.type types) (properties items : Bool) :
    declaredKindOf constraints properties items =
      declaredKindOf { constraints with type := types } properties items := by
  rw [declaredKindOf_eq, declaredKindOf_eq]
  obtain ⟨type, _⟩ := constraints
  cases rewrites with
  | none => rfl
  | some rewrites =>
    rw [Option.elim_some, Option.elim_some, rewrites.decisive_eq]
    rfl

theorem optionRel_alike {part part' : Option Schema}
    (each : ∀ node ∈ part.toList, ∀ node', Rewritten node node' → Alike node node')
    (rewritten : Option.Rel Rewritten part part') : Option.Rel Alike part part' := by
  cases rewritten with
  | none => exact .none
  | some rewritten => exact .some (each _ (List.mem_singleton_self _) _ rewritten)

theorem mappingsAlike_of_rewritten {members members' : List (String × Option Schema)}
    (each : ∀ node ∈ members.filterMap Prod.snd, ∀ node', Rewritten node node' → Alike node node')
    (rewritten : List.Forall₂ (MemberMatched (Option.Rel Rewritten)) members members') :
    MappingsAlike members members' := by
  refine .of_forall₂ ?_
  induction rewritten with
  | nil => exact .nil
  | cons head _ inductionHypothesis =>
    obtain ⟨name, nodes⟩ := head
    refine .cons ⟨rfl, ?_⟩ (inductionHypothesis fun node among => each node ?_)
    · refine optionRel_alike (fun node held => each node ?_) nodes
      exact List.mem_filterMap.mpr ⟨_, List.mem_cons_self, Option.mem_toList.mp held⟩
    · obtain ⟨member, inside, held⟩ := List.mem_filterMap.mp among
      exact List.mem_filterMap.mpr ⟨member, List.mem_cons_of_mem _ inside, held⟩

/-- Applicators are alike if all that is rewritten in them is. -/
theorem Applicators.Matched.alike {applicators applicators' : Applicators Schema}
    (matched : applicators.Matched Rewritten applicators')
    (each : ∀ node ∈ applicators.parts, ∀ node', Rewritten node node' → node.Alike node') :
    applicators.Alike applicators' := by
  cases matched with
  | mk _ _ _ _ _ condition consequent alternative properties items =>
    simp only [Applicators.parts, List.forall_mem_append] at each
    obtain ⟨⟨⟨⟨⟨_, inCondition⟩, inConsequent⟩, inAlternative⟩, inProperties⟩, inItems⟩ := each
    refine ⟨optionRel_alike inCondition condition, optionRel_alike inConsequent consequent,
      optionRel_alike inAlternative alternative, ?_, optionRel_alike inItems items⟩
    cases properties with
    | none => exact .none
    | some properties => exact .some (mappingsAlike_of_rewritten inProperties properties)

/-- A rewritten schema is alike, node by node. -/
theorem Rewritten.alike (rewritten : Rewritten schema schema') : Alike schema schema' := by
  induction schema using Schema.induction generalizing schema' with
  | step schema inductionHypothesis =>
    cases rewritten with
    | node matched types =>
      exact .of_constraints
        (matched.alike fun node inside _ => inductionHypothesis node inside) rfl (fun _ => Iff.rfl)
        (declaredKindOf_rewritten types) fun _ _ _ => rfl

/-- Rewriting the types of any nodes of a schema leaves the form that it is converted to as it is,
and so the complaint about the form. -/
theorem toForm_eq_of_rewritten (rewritten : Rewritten schema schema') (defaults : FormDefaults) :
    schema.toForm defaults = schema'.toForm defaults ∧
      Form.complaint? (some (schema.toForm defaults)) =
        Form.complaint? (some (schema'.toForm defaults)) := by
  have same := @Alike.toForm_eq defaults _ _ rewritten.alike
  exact ⟨same, by rw [same]⟩

/-- A list of notes beside a definition, with the types of its nodes to choose. -/
def notesSchema (root definition list item : TypeNames) : Schema :=
  .node {}
    { definitions := some [("note", .node {} {} { type := some definition } {})]
      properties := some [("notes", some (.node {}
        { items := some (.node {} {} { type := some item, maxLength := some 200 } {}) }
        { type := some list, minItems := some 1 } {}))] }
    { type := some root } {}

/-- The notes are an array of long texts, however the types are written. -/
theorem toForm_notesSchema :
    let unions := notesSchema (.union ["null", "object"]) (.union []) (.union ["array", "null"])
      (.union ["null", "string", "null"])
    let names := notesSchema (.single "object") (.single "null") (.union ["null", "array"])
      (.union ["null", "string", "integer"])
    Rewritten unions names ∧ unions.toForm {} = names.toForm {} ∧
      (names.toForm {}).fields.map (Option.map fun field => field.control.kind) =
        [some "array"] := by
  intro unions names
  have rewritten : Rewritten unions names :=
    .node
      (.mk
        (.some (.cons
          (.mk "note" (.node .empty (.some (.resolved [])))) .nil))
        .none .none .none .none .none .none .none
        (.some (.cons
          (.mk "notes" (.some (.node
            (.mk .none .none .none .none .none .none .none .none .none
              (.some (.node .empty
                (.some (@TypeNames.Rewrites.behind ["null"] ["null"] ["integer"] "string"
                  (by decide) (by decide))))))
            (.some (.nulls (by decide)))))) .nil))
        .none)
      (.some (.resolved ["null", "object"]))
  exact ⟨rewritten, (toForm_eq_of_rewritten rewritten {}).1, by decide +kernel⟩

end Schema

end Formwork
