/-
This file proves that every schema that comes from a document reads back from its
serialized representation, so that reading and writing come to rest after one round: the
schema read back is the same, and so is what is written for it.

What a document may say in several ways is written in one: a keyword under its name in
documents, a number as a number. So only what reading itself normalizes needs an argument:
the members of mappings ascend, and no default names a member twice.
-/

import Formwork.Pipeline
import Formwork.Proofs.Decoding.ReadBack
import Formwork.Proofs.Form.Text
import Formwork.Proofs.Mapping
import Formwork.Proofs.Schema.Origin
import Formwork.Schema.Encode

namespace Formwork

open Json (member? memberUnlessNull)
open Decode

namespace Schema

variable {source : Source}

/-! ### The members of a node -/

@[simp]
theorem nodeMember_eq (name : String) (schema : Option Schema) :
    nodeMember name schema = member? name toJson schema := by
  cases schema <;> rfl

@[simp]
theorem listMember_eq (name : String) (schemas : Option (List Schema)) :
    listMember name schemas = member? name (fun schemas => .arr (listToJson schemas)) schemas := by
  cases schemas <;> rfl

@[simp]
theorem definitionsMember_eq (name : String) (members : Option (List (String × Schema))) :
    definitionsMember name members =
      member? name (fun members => .obj (definitionsToJson members)) members := by
  cases members <;> rfl

@[simp]
theorem propertiesMember_eq (name : String) (members : Option (List (String × Option Schema))) :
    propertiesMember name members =
      member? name (fun members => .obj (propertiesToJson members)) members := by
  cases members <;> rfl

theorem applicatorMembers_eq (applicators : Applicators Schema) :
    applicatorMembers applicators =
      definitionsMember "$defs" applicators.definitions ++
        listMember "allOf" applicators.allOf ++
        listMember "anyOf" applicators.anyOf ++
        listMember "oneOf" applicators.oneOf ++
        nodeMember "not" applicators.negation ++
        nodeMember "if" applicators.condition ++
        nodeMember "then" applicators.consequent ++
        nodeMember "else" applicators.alternative ++
        propertiesMember "properties" applicators.properties ++
        nodeMember "items" applicators.items := by
  cases applicators
  rfl

theorem listToJson_eq_map (schemas : List Schema) : listToJson schemas = schemas.map toJson := by
  induction schemas with
  | nil => rfl
  | cons schema rest inductionHypothesis => rw [listToJson, inductionHypothesis, List.map_cons]

theorem definitionsToJson_eq_map (members : List (String × Schema)) :
    definitionsToJson members = members.map fun member => (member.1, member.2.toJson) := by
  induction members with
  | nil => rfl
  | cons member rest inductionHypothesis =>
    rw [definitionsToJson, inductionHypothesis, List.map_cons]

theorem propertiesToJson_eq_map (members : List (String × Option Schema)) :
    propertiesToJson members =
      members.map fun member => (member.1, Json.orNull toJson member.2) := by
  induction members with
  | nil => rfl
  | cons member rest inductionHypothesis =>
    obtain ⟨name, _ | schema⟩ := member
    all_goals
      rw [propertiesToJson, inductionHypothesis, List.map_cons]
      rfl

/-- The members of a node. -/
def members (schema : Schema) : List (String × Json) :=
  schema.identity.members ++ applicatorMembers schema.applicators ++
    schema.constraints.members ++ schema.annotations.members

theorem toJson_eq (schema : Schema) : schema.toJson = .obj schema.members := by
  cases schema
  rfl

/-! ### Plain keywords -/

theorem TypeNames.collapse_toJson (type : TypeNames) : type.toJson.collapse = type.toJson := by
  cases type with
  | single name => rfl
  | union names => exact collapse_arr_map (fun _ => rfl) names

theorem decodeTypeNames_toJson (type : TypeNames) : decodeTypeNames type.toJson = .ok type := by
  cases type with
  | single name => rfl
  | union names =>
    have texts : list text (.arr (names.map Json.str)) = .ok names := list_toJson fun _ _ => rfl
    rw [TypeNames.toJson, decodeTypeNames, texts]
    · rfl
    · exact fun _ none => nomatch none

/-- The keywords that identify a node read back. -/
theorem Identity.decode_members (schema : Schema) :
    Identity.decode (schema.members.map fun member => (member.1, member.2.collapse)) =
      .ok schema.identity := by
  generalize written : schema.members = members
  simp only [Schema.members, Identity.members, applicatorMembers_eq, Constraints.members,
    Annotations.members] at written
  have schemaUri : optional ["$schema", "schema_uri"] text
      (members.map fun member => (member.1, member.2.collapse)) =
        .ok schema.identity.schemaUri :=
    read_text "$schema" (by simp [← written])
  have id : optional ["$id", "id"] text
      (members.map fun member => (member.1, member.2.collapse)) = .ok schema.identity.id :=
    read_text "$id" (by simp [← written])
  have reference : optional ["$ref", "ref"] text
      (members.map fun member => (member.1, member.2.collapse)) =
        .ok schema.identity.reference :=
    read_text "$ref" (by simp [← written])
  have comment : optional ["$comment", "comment"] text
      (members.map fun member => (member.1, member.2.collapse)) = .ok schema.identity.comment :=
    read_text "$comment" (by simp [← written])
  rw [decode, schemaUri, id, reference, comment]
  rfl

/-- The keywords that restrict a value read back. -/
theorem Constraints.decode_members (schema : Schema) :
    Constraints.decode source (schema.members.map fun member =>
      (member.1, member.2.collapse)) = .ok schema.constraints := by
  generalize written : schema.members = members
  simp only [Schema.members, Identity.members, applicatorMembers_eq, Constraints.members,
    Annotations.members] at written
  have type : optional ["type"] decodeTypeNames
      (members.map fun member => (member.1, member.2.collapse)) = .ok schema.constraints.type :=
    optional_map_of_find? Json.collapse "type" TypeNames.toJson
      (by simp [← written]) TypeNames.collapse_toJson
      (fun type _ => decodeTypeNames_toJson type)
      (fun type => by cases type <;> simp [TypeNames.toJson])
  have format : optional ["format"] text
      (members.map fun member => (member.1, member.2.collapse)) = .ok schema.constraints.format :=
    read_text "format" (by simp [← written])
  have enumeration : optional ["enum"] (list scalar)
      (members.map fun member => (member.1, member.2.collapse)) =
        .ok schema.constraints.enumeration :=
    read_list "enum" Scalar.toJson Scalar.collapse_toJson scalar_toJson (by simp [← written])
  have const : withDefault ["const"] .null scalar
      (members.map fun member => (member.1, member.2.collapse)) = .ok schema.constraints.const :=
    read_scalar "const" (by simp [← written])
  have multipleOf : optional ["multipleOf", "multiple_of"] (float source)
      (members.map fun member => (member.1, member.2.collapse)) =
        .ok schema.constraints.multipleOf :=
    read_float "multipleOf" (by simp [← written])
  have minimum : optional ["minimum"] (float source)
      (members.map fun member => (member.1, member.2.collapse)) =
        .ok schema.constraints.minimum :=
    read_float "minimum" (by simp [← written])
  have maximum : optional ["maximum"] (float source)
      (members.map fun member => (member.1, member.2.collapse)) =
        .ok schema.constraints.maximum :=
    read_float "maximum" (by simp [← written])
  have exclusiveMinimum : optional ["exclusiveMinimum", "exclusive_minimum"] (float source)
      (members.map fun member => (member.1, member.2.collapse)) =
        .ok schema.constraints.exclusiveMinimum :=
    read_float "exclusiveMinimum" (by simp [← written])
  have exclusiveMaximum : optional ["exclusiveMaximum", "exclusive_maximum"] (float source)
      (members.map fun member => (member.1, member.2.collapse)) =
        .ok schema.constraints.exclusiveMaximum :=
    read_float "exclusiveMaximum" (by simp [← written])
  have minLength : optional ["minLength", "min_length"] int
      (members.map fun member => (member.1, member.2.collapse)) =
        .ok schema.constraints.minLength :=
    read_int "minLength" (by simp [← written])
  have maxLength : optional ["maxLength", "max_length"] int
      (members.map fun member => (member.1, member.2.collapse)) =
        .ok schema.constraints.maxLength :=
    read_int "maxLength" (by simp [← written])
  have pattern : optional ["pattern"] text
      (members.map fun member => (member.1, member.2.collapse)) =
        .ok schema.constraints.pattern :=
    read_text "pattern" (by simp [← written])
  have minItems : optional ["minItems", "min_items"] int
      (members.map fun member => (member.1, member.2.collapse)) =
        .ok schema.constraints.minItems :=
    read_int "minItems" (by simp [← written])
  have maxItems : optional ["maxItems", "max_items"] int
      (members.map fun member => (member.1, member.2.collapse)) =
        .ok schema.constraints.maxItems :=
    read_int "maxItems" (by simp [← written])
  have uniqueItems : optional ["uniqueItems", "unique_items"] bool
      (members.map fun member => (member.1, member.2.collapse)) =
        .ok schema.constraints.uniqueItems :=
    read_bool "uniqueItems" (by simp [← written])
  have required : optional ["required"] (list text)
      (members.map fun member => (member.1, member.2.collapse)) =
        .ok schema.constraints.required :=
    read_list "required" .str (fun _ => rfl) (fun _ => rfl) (by simp [← written])
  rw [decode, type, format, enumeration, const, multipleOf, minimum, maximum, exclusiveMinimum,
    exclusiveMaximum, minLength, maxLength, pattern, minItems, maxItems, uniqueItems, required]
  rfl

/-- The keywords that describe a value read back. -/
theorem Annotations.decode_members {schema : Schema}
    (kept : schema.annotations.default.collapse = schema.annotations.default) :
    Annotations.decode (schema.members.map fun member => (member.1, member.2.collapse)) =
      .ok schema.annotations := by
  generalize written : schema.members = members
  simp only [Schema.members, Identity.members, applicatorMembers_eq, Constraints.members,
    Annotations.members] at written
  have title : optional ["title"] text
      (members.map fun member => (member.1, member.2.collapse)) = .ok schema.annotations.title :=
    read_text "title" (by simp [← written])
  have description : optional ["description"] text
      (members.map fun member => (member.1, member.2.collapse)) =
        .ok schema.annotations.description :=
    read_text "description" (by simp [← written])
  have default : withDefault ["default"] .null .ok
      (members.map fun member => (member.1, member.2.collapse)) =
        .ok schema.annotations.default :=
    read_unlessNull "default" id (congrArg Decoded.ok kept) Eq.symm
      (by simp [← written])
  have readOnly : optional ["readOnly", "read_only"] bool
      (members.map fun member => (member.1, member.2.collapse)) =
        .ok schema.annotations.readOnly :=
    read_bool "readOnly" (by simp [← written])
  have deprecated : optional ["deprecated"] bool
      (members.map fun member => (member.1, member.2.collapse)) =
        .ok schema.annotations.deprecated :=
    read_bool "deprecated" (by simp [← written])
  rw [decode, title, description, default, readOnly, deprecated]
  rfl

/-! ### Keywords that hold further nodes -/

/-- What a node that was read from a document has: its mappings are sorted, and its default names
no member twice. -/
structure Canonical (schema : Schema) : Prop where
  definitions : ∀ members, schema.applicators.definitions = some members → Ascending members
  properties : schema.Ordered
  default : schema.annotations.default.collapse = schema.annotations.default

theorem node?_toJson {schema : Schema} (reads : decode source schema.toJson = .ok schema) :
    (Reading.ofJson source schema.toJson).node? = .ok (some schema) := by
  rw [Reading.node?_eq, toJson_eq, orNull_obj, ← toJson_eq]
  exact congrArg (Decoded.map some) reads

/-- A list of nodes reads back if its nodes do. -/
theorem nodes_listToJson {nodes : List Schema}
    (reads : ∀ node ∈ nodes, decode source node.toJson = .ok node) :
    (Reading.ofJson source (.arr (listToJson nodes))).nodes = .ok nodes := by
  rw [Reading.ofJson_arr, listToJson_eq_map, Reading.ofItems, Decoded.allIndexed_eq_ok,
    List.map_map, List.map_map]
  exact List.map_congr_left reads

/-- A mapping of nodes reads back if its members ascend and its nodes do. -/
theorem definitions_definitionsToJson {members : List (String × Schema)}
    (ascending : Ascending members)
    (reads : ∀ member ∈ members, decode source member.2.toJson = .ok member.2) :
    (Reading.ofJson source (.obj (definitionsToJson members))).definitions = .ok members := by
  have each : Decoded.allNamed (((definitionsToJson members).map fun member =>
      (member.1, Reading.ofJson source member.2)).map fun member =>
        (member.1, member.2.node)) = .ok members := by
    rw [Decoded.allNamed_eq_ok, definitionsToJson_eq_map, List.map_map, List.map_map]
    refine List.map_congr_left fun member inside => ?_
    exact congrArg (Prod.mk member.1) (reads member inside)
  rw [Reading.ofJson_obj, Reading.ofObject, each, Decoded.map, sortMembers_of_ascending ascending]

/-- A mapping of nodes that may be null reads back if its members ascend and its nodes do. -/
theorem properties_propertiesToJson {members : List (String × Option Schema)}
    (ascending : Ascending members)
    (reads : ∀ name node, (name, some node) ∈ members → decode source node.toJson = .ok node) :
    (Reading.ofJson source (.obj (propertiesToJson members))).properties = .ok members := by
  have each : Decoded.allNamed (((propertiesToJson members).map fun member =>
      (member.1, Reading.ofJson source member.2)).map fun member =>
        (member.1, member.2.node?)) = .ok members := by
    rw [Decoded.allNamed_eq_ok, propertiesToJson_eq_map, List.map_map, List.map_map]
    refine List.map_congr_left fun member inside => ?_
    obtain ⟨name, _ | node⟩ := member
    · rfl
    · exact congrArg (Prod.mk name) (node?_toJson (reads name node inside))
  rw [Reading.ofJson_obj, Reading.ofObject, each, Decoded.map, sortMembers_of_ascending ascending]

/-- A part of a node that may be null or left out reads as what its member was written for. -/
theorem read_part {α : Type} {role : Reading → Decoded α} {value : Option α}
    {names : List String} {members : List (String × Json)} (name : String) (encode : α → Json)
    (notNull : ∀ present, encode present ≠ .null)
    (reads : ∀ present, value = some present →
      role (Reading.ofJson source (encode present)) = .ok present)
    (finds : find? names members = (value.map encode).map fun member => (name, member)) :
    entry names (.ok none) (Reading.orNull role)
        (members.map fun member => (member.1, Reading.ofJson source member.2)) = .ok value := by
  rw [entry_map]
  refine entry_of_find? name encode finds ?_ ?_
  · rintro present rfl
    rw [Function.comp_apply, orNull_ofJson (notNull present), reads present rfl]
    rfl
  · rintro rfl
    rfl

section Parts

variable {names : List String} {members : List (String × Json)} (name : String)

theorem read_node {node : Option Schema}
    (reads : ∀ part ∈ node.toList, decode source part.toJson = .ok part)
    (finds : find? names members = (node.map toJson).map fun member => (name, member)) :
    entry names (.ok none) Reading.node?
        (members.map fun member => (member.1, Reading.ofJson source member.2)) = .ok node := by
  rw [Reading.node?_eq]
  refine read_part name toJson (fun node => ?_) (fun node held => ?_) finds
  · rw [toJson_eq]
    exact nofun
  · exact reads node (Option.mem_toList.mpr held)

theorem read_nodes {nodes : Option (List Schema)}
    (reads : ∀ part ∈ nodes.getD [], decode source part.toJson = .ok part)
    (finds : find? names members =
      (nodes.map fun nodes => Json.arr (listToJson nodes)).map fun member => (name, member)) :
    entry names (.ok none) (Reading.orNull Reading.nodes)
        (members.map fun member => (member.1, Reading.ofJson source member.2)) = .ok nodes := by
  refine read_part name (fun nodes => .arr (listToJson nodes)) (by simp) ?_ finds
  rintro nodes rfl
  exact nodes_listToJson reads

end Parts

/-- The keywords that hold further nodes read back if these nodes do. -/
theorem Applicators.decode_members {schema : Schema} (canonical : schema.Canonical)
    (reads : ∀ part ∈ schema.parts, Schema.decode source part.toJson = .ok part) :
    Applicators.decode (schema.members.map fun member =>
      (member.1, Reading.ofJson source member.2)) = .ok schema.applicators := by
  generalize written : schema.members = members
  simp only [Schema.members, Identity.members, applicatorMembers_eq, Constraints.members,
    Annotations.members] at written
  simp only [Schema.parts, Applicators.parts, List.forall_mem_append] at reads
  obtain ⟨⟨⟨⟨⟨⟨⟨⟨⟨inDefinitions, inAllOf⟩, inAnyOf⟩, inOneOf⟩, inNegation⟩, inCondition⟩,
    inConsequent⟩, inAlternative⟩, inProperties⟩, inItems⟩ := reads
  have definitions : entry ["$defs", "defs"] (.ok none) (Reading.orNull Reading.definitions)
      (members.map fun member => (member.1, Reading.ofJson source member.2)) =
        .ok schema.applicators.definitions := by
    refine read_part "$defs" (fun mapping => .obj (definitionsToJson mapping))
      (by simp) (fun mapping held => ?_) (by simp [← written])
    refine definitions_definitionsToJson (canonical.definitions mapping held) ?_
    rw [held] at inDefinitions
    exact List.forall_mem_map.mp inDefinitions
  have allOf : entry ["allOf", "all_of"] (.ok none) (Reading.orNull Reading.nodes)
      (members.map fun member => (member.1, Reading.ofJson source member.2)) =
        .ok schema.applicators.allOf := read_nodes "allOf" inAllOf (by simp [← written])
  have anyOf : entry ["anyOf", "any_of"] (.ok none) (Reading.orNull Reading.nodes)
      (members.map fun member => (member.1, Reading.ofJson source member.2)) =
        .ok schema.applicators.anyOf := read_nodes "anyOf" inAnyOf (by simp [← written])
  have oneOf : entry ["oneOf", "one_of"] (.ok none) (Reading.orNull Reading.nodes)
      (members.map fun member => (member.1, Reading.ofJson source member.2)) =
        .ok schema.applicators.oneOf := read_nodes "oneOf" inOneOf (by simp [← written])
  have negation : entry ["not", "not_"] (.ok none) Reading.node?
      (members.map fun member => (member.1, Reading.ofJson source member.2)) =
        .ok schema.applicators.negation := read_node "not" inNegation (by simp [← written])
  have condition : entry ["if", "if_"] (.ok none) Reading.node?
      (members.map fun member => (member.1, Reading.ofJson source member.2)) =
        .ok schema.applicators.condition := read_node "if" inCondition (by simp [← written])
  have consequent : entry ["then"] (.ok none) Reading.node?
      (members.map fun member => (member.1, Reading.ofJson source member.2)) =
        .ok schema.applicators.consequent := read_node "then" inConsequent (by simp [← written])
  have alternative : entry ["else", "else_"] (.ok none) Reading.node?
      (members.map fun member => (member.1, Reading.ofJson source member.2)) =
        .ok schema.applicators.alternative :=
    read_node "else" inAlternative (by simp [← written])
  have properties : entry ["properties"] (.ok none) (Reading.orNull Reading.properties)
      (members.map fun member => (member.1, Reading.ofJson source member.2)) =
        .ok schema.applicators.properties := by
    refine read_part "properties" (fun mapping => .obj (propertiesToJson mapping))
      (by simp) (fun mapping held => ?_) (by simp [← written])
    refine properties_propertiesToJson (canonical.properties mapping held) ?_
    rw [held] at inProperties
    exact fun name node inside => inProperties node (List.mem_filterMap.mpr ⟨_, inside, rfl⟩)
  have items : entry ["items"] (.ok none) Reading.node?
      (members.map fun member => (member.1, Reading.ofJson source member.2)) =
        .ok schema.applicators.items := read_node "items" inItems (by simp [← written])
  rw [decode, definitions, allOf, anyOf, oneOf, negation, condition, consequent, alternative,
    properties, items]
  rfl

/-! ### Schemas -/

/-- A canonical schema reads back from its serialized representation. -/
theorem decode_toJson {schema : Schema} (canonical : Everywhere Canonical schema) :
    decode source schema.toJson = .ok schema := by
  induction schema using Schema.induction with
  | step schema inductionHypothesis =>
    have applicators := Applicators.decode_members canonical.here fun part inside =>
      inductionHypothesis part inside (canonical.part inside)
    rw [decode, toJson_eq, Reading.ofJson_obj]
    show ofMembers source _ = .ok schema
    rw [ofMembers, Reading.map_raw_ofJson, Identity.decode_members, applicators,
      Constraints.decode_members, Annotations.decode_members canonical.here.default]
    cases schema
    rfl

/-- The node read from an object is canonical. -/
theorem canonical_of_ofMembers {members : List (String × Json)} {schema : Schema}
    (read : ofMembers source (members.map fun member =>
      (member.1, Reading.ofJson source member.2)) = .ok schema) : schema.Canonical := by
  have sound := sound_of_ofMembers read
  refine ⟨fun mapping held => ?_, sound.ordered, sound.kept⟩
  have definitions := (keywords_of_ofMembers read).1.definitions
  rw [held, entry_map] at definitions
  rcases find?_of_entry definitions with absent | ⟨name, value, found, decoded⟩
  · cases absent
  · exact ascending_of_definitions (Reading.orNull_eq_ok decoded mapping rfl)

theorem canonical_of_decode {value : Json} {schema : Schema}
    (read : decode source value = .ok schema) : Everywhere Canonical schema :=
  @everywhere_of_decode source (fun _ => True) Canonical (fun _ _ _ _ _ => trivial)
    (fun _ _ _ node => canonical_of_ofMembers node) value schema read trivial

/-- Whatever document a schema comes from, what is written for it reads as the same schema, and the
same is written for that one again. The schemas are the same at every node, with whole numbers,
doubles, truth values and texts told apart and with all nulls that are values. -/
theorem reparse_toJson {document : Document} {schema : Schema}
    (parsed : Schema.parse document = .ok schema) :
    Schema.parse (.value schema.toJson) = .ok schema ∧
      (Schema.parse (.value schema.toJson)).map toJson = .ok schema.toJson := by
  obtain ⟨json, _, read⟩ := Document.exists_of_toExcept parsed
  have again : Schema.parse (.value schema.toJson) = .ok schema := by
    rw [Schema.parse, Document.decode, Document.json?, Document.source]
    simp only [decode_toJson (canonical_of_decode read)]
    rfl
  exact ⟨again, congrArg (Except.map toJson) again⟩

/-- A document with numbers and truth values given as strings or as one another, with plain
spellings, with nulls that are values and nulls that stand for nothing. -/
def looseDocument : Json := .obj [
  ("schema_uri", .str "urn:example"),
  ("$comment", .null),
  ("defs", .obj [("b", .obj []), ("a", .obj [("const", .null), ("format", .null)])]),
  ("type", .arr [.str "object", .str "null"]),
  ("enum", .arr [.null, .int 1, .bool true, .str "1"]),
  ("minimum", .str "nan"),
  ("exclusive_maximum", .bool true),
  ("min_length", .str "5"),
  ("maxItems", .bool true),
  ("unique_items", .str "Yes"),
  ("default", .obj [("kept", .null), ("twice", .int 1), ("twice", .arr [.null])]),
  ("properties", .obj [
    ("second", .null),
    ("first", .obj [("not_", .obj []), ("all_of", .arr [.obj [("title", .str "T")]])])])]

/-- What the loose document says. -/
def looseSchema : Schema :=
  .node { schemaUri := some "urn:example" }
    { definitions := some [("a", .node {} {} {} {}), ("b", .node {} {} {} {})]
      properties := some [
        ("first", some <| .node {}
          { allOf := some [.node {} {} {} { title := some "T" }]
            negation := some (.node {} {} {} {}) } {} {}),
        ("second", none)] }
    { type := some (.union ["object", "null"])
      enumeration := some [.null, .int 1, .bool true, .text "1"]
      minimum := some .nan
      exclusiveMaximum := some (.ofInt 1)
      minLength := some 5
      maxItems := some 1
      uniqueItems := some true }
    { default := .obj [("kept", .null), ("twice", .arr [.null])] }

/-- The loose document reads back from what is written for its schema. -/
theorem reparse_toJson_looseSchema :
    Schema.parse (.value looseDocument) = .ok looseSchema ∧
      Schema.parse (.value looseSchema.toJson) = .ok looseSchema ∧
      (Schema.parse (.value looseSchema.toJson)).map toJson = .ok looseSchema.toJson := by
  have parsed : Schema.parse (.value looseDocument) = .ok looseSchema := rfl
  exact ⟨parsed, reparse_toJson parsed⟩

end Schema

end Formwork
