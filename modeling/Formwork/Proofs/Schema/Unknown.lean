/-
This file proves that a schema document may say more than the schema needs: a member of a
node that is no keyword is ignored, whatever its value, and so is a plain spelling beside
the keyword that it stands in for. A plain spelling on its own is a keyword.

Members are added one at a time, at any depth. In each role in which a value is read, the
value with the member reads the same as the value without it, issues included.
-/

import Formwork.Proofs.Json.Nesting
import Formwork.Proofs.Pipeline
import Formwork.Proofs.Schema.Interchange

namespace Formwork

open Decode Decoded

/-! ### Added members -/

section Insert

variable {ρ β : Type} {name : String} {before after : List (String × ρ)}

theorem lastMember?_insert {name' : String} (different : name ≠ name') (part : ρ) :
    lastMember? name' (before ++ (name, part) :: after) = lastMember? name' (before ++ after) := by
  simp only [lastMember?_append, lastMember?_cons, if_neg different, Option.or_none]

theorem lastMember?_isSome {name' : String} {members : List (String × ρ)}
    (present : name' ∈ members.map Prod.fst) : (lastMember? name' members).isSome = true := by
  obtain ⟨member, inside, same⟩ := List.mem_map.mp present
  rw [lastMember?, Option.isSome_map, List.find?_isSome]
  exact ⟨member, List.mem_reverse.mpr inside, beq_iff_eq.mpr same⟩

theorem find?_insert_of_not_mem {names : List String} (other : name ∉ names) (part : ρ) :
    find? names (before ++ (name, part) :: after) = find? names (before ++ after) := by
  induction names with
  | nil => rfl
  | cons first rest inductionHypothesis =>
    obtain ⟨different, others⟩ := not_or.mp (List.mem_cons.not.mp other)
    rw [find?_cons, find?_cons, lastMember?_insert different, inductionHypothesis others]

/-- An added member is not found for an attribute that goes by another name, nor for one that
is there under a name that comes first. -/
theorem find?_insert {first : String} {rest : List String} (different : name ≠ first)
    (present : name ∈ rest → first ∈ (before ++ after).map Prod.fst) (part : ρ) :
    find? (first :: rest) (before ++ (name, part) :: after) =
      find? (first :: rest) (before ++ after) := by
  rw [find?_cons, find?_cons, lastMember?_insert different]
  by_cases among : name ∈ rest
  · obtain ⟨value, found⟩ := Option.isSome_iff_exists.mp (lastMember?_isSome (present among))
    rw [found]
    rfl
  · rw [find?_insert_of_not_mem among]

theorem entry_insert {first : String} {rest : List String} (different : name ≠ first)
    (present : name ∈ rest → first ∈ (before ++ after).map Prod.fst) (absent : Decoded β)
    (decode : ρ → Decoded β) (part : ρ) :
    entry (first :: rest) absent decode (before ++ (name, part) :: after) =
      entry (first :: rest) absent decode (before ++ after) := by
  rw [entry, entry, find?_insert different present]

end Insert

namespace Schema

variable {source : Source}

/-! ### Keywords -/

/-- The keywords of a node, each with the plain spellings that stand in for it. -/
def keywords : List (String × List String) := [
  ("$schema", ["schema_uri"]), ("$id", ["id"]), ("$ref", ["ref"]), ("$comment", ["comment"]),
  ("$defs", ["defs"]), ("type", []), ("format", []), ("enum", []), ("const", []),
  ("properties", []), ("items", []), ("required", []),
  ("multipleOf", ["multiple_of"]), ("minimum", []), ("maximum", []),
  ("exclusiveMinimum", ["exclusive_minimum"]), ("exclusiveMaximum", ["exclusive_maximum"]),
  ("minLength", ["min_length"]), ("maxLength", ["max_length"]), ("pattern", []),
  ("minItems", ["min_items"]), ("maxItems", ["max_items"]), ("uniqueItems", ["unique_items"]),
  ("title", []), ("description", []), ("default", []), ("readOnly", ["read_only"]),
  ("deprecated", []), ("if", ["if_"]), ("then", []), ("else", ["else_"]),
  ("allOf", ["all_of"]), ("anyOf", ["any_of"]), ("oneOf", ["one_of"]), ("not", ["not_"])]

/-- Whether a name means nothing beside the members of a node: it is no keyword, and a keyword
that it could stand in for is there itself. -/
def Ignored (members : List (String × Json)) (name : String) : Prop :=
  ∀ keyword ∈ keywords, name ≠ keyword.1 ∧ (name ∈ keyword.2 → keyword.1 ∈ members.map Prod.fst)

instance (members : List (String × Json)) (name : String) : Decidable (Ignored members name) :=
  inferInstanceAs (Decidable (∀ keyword ∈ keywords,
    name ≠ keyword.1 ∧ (name ∈ keyword.2 → keyword.1 ∈ members.map Prod.fst)))

/-- Whether one value in some role comes from another one by adding members with ignored names to
nodes, at any depth. -/
inductive Extended : Role → Json → Json → Prop where
  | refl (role : Role) (value : Json) : Extended role value value
  | trans {role : Role} {first second third : Json} :
    Extended role first second → Extended role second third → Extended role first third
  | added {name : String} (before after : List (String × Json)) (value : Json) :
    Ignored (before ++ after) name →
      Extended .node (.obj (before ++ after)) (.obj (before ++ (name, value) :: after))
  | member {role : Role} {name : String} {value value' : Json}
    (before after : List (String × Json)) :
    Extended (role.ofMember name) value value' →
      Extended role (.obj (before ++ (name, value) :: after))
        (.obj (before ++ (name, value') :: after))
  | item {role : Role} {value value' : Json} (before after : List Json) :
    Extended role.ofItem value value' →
      Extended role (.arr (before ++ value :: after)) (.arr (before ++ value' :: after))

/-- A node reads the same with a member whose name is ignored. -/
theorem ofMembers_insert {name : String} {before after : List (String × Json)}
    (ignored : Ignored (before ++ after) name) (value : Json) :
    ofMembers source (readMembers source before after name value) =
      ofMembers source
        ((before ++ after).map fun member => (member.1, Reading.ofJson source member.2)) := by
  have unaffected : ∀ {ρ β : Type} (change : Json → ρ) (keyword : String)
      (spellings : List String) (absent : Decoded β) (decode : ρ → Decoded β),
      (keyword, spellings) ∈ keywords →
        entry (keyword :: spellings) absent decode
            ((before ++ (name, value) :: after).map fun member => (member.1, change member.2)) =
          entry (keyword :: spellings) absent decode
            ((before ++ after).map fun member => (member.1, change member.2)) := by
    intro ρ β change keyword spellings absent decode listed
    obtain ⟨different, present⟩ := ignored _ listed
    rw [map_change, List.map_append]
    refine entry_insert different (fun among => ?_) _ _ _
    rw [← List.map_append, List.map_map]
    exact present among
  simp only [readMembers, ofMembers, Reading.map_raw_ofJson, Identity.decode, Applicators.decode,
    Constraints.decode, Annotations.decode, Decode.optional, withDefault]
  simp (disch := decide) only [unaffected]

/-! ### Values in a role -/

/-- Whether two values are read as the same in a role. -/
def ReadsSame (source : Source) : Role → Json → Json → Prop
  | .node, value, value' =>
    (Reading.ofJson source value).node = (Reading.ofJson source value').node ∧
      (Reading.ofJson source value).node? = (Reading.ofJson source value').node?
  | .nodes, value, value' =>
    Reading.orNull Reading.nodes (Reading.ofJson source value) =
      Reading.orNull Reading.nodes (Reading.ofJson source value')
  | .mapping, value, value' =>
    Reading.orNull Reading.definitions (Reading.ofJson source value) =
        Reading.orNull Reading.definitions (Reading.ofJson source value') ∧
      Reading.orNull Reading.properties (Reading.ofJson source value) =
        Reading.orNull Reading.properties (Reading.ofJson source value')
  | _, value, value' => value = value'

/-- Whether what is read in a role holds no nodes. -/
def Role.IsLeaf (role : Role) : Prop := role ∉ [Role.node, .nodes, .mapping]

instance (role : Role) : Decidable role.IsLeaf :=
  inferInstanceAs (Decidable (role ∉ [Role.node, .nodes, .mapping]))

theorem readsSame_iff_of_isLeaf {role : Role} (leaf : role.IsLeaf) {value value' : Json} :
    ReadsSame source role value value' ↔ value = value' := by
  cases role with
  | node => exact absurd leaf (by decide)
  | nodes => exact absurd leaf (by decide)
  | mapping => exact absurd leaf (by decide)
  | _ => exact Iff.rfl

theorem ReadsSame.refl (role : Role) (value : Json) : ReadsSame source role value value := by
  cases role with
  | node => exact ⟨rfl, rfl⟩
  | mapping => exact ⟨rfl, rfl⟩
  | _ => exact rfl

theorem ReadsSame.trans {role : Role} {first second third : Json}
    (reads : ReadsSame source role first second) (reads' : ReadsSame source role second third) :
    ReadsSame source role first third := by
  cases role with
  | node => exact ⟨reads.1.trans reads'.1, reads.2.trans reads'.2⟩
  | mapping => exact ⟨reads.1.trans reads'.1, reads.2.trans reads'.2⟩
  | _ => exact Eq.trans reads reads'

theorem readsSame_node_obj {members members' : List (String × Json)}
    (same : (Reading.ofJson source (.obj members)).node =
      (Reading.ofJson source (.obj members')).node) :
    ReadsSame source .node (.obj members) (.obj members') := by
  refine ⟨same, ?_⟩
  rw [Reading.node?_eq, orNull_obj, orNull_obj, same]

/-! ### Objects and arrays with one part exchanged -/

section Member

variable {name : String} {value value' : Json} {before after : List (String × Json)}

/-- A node reads the same if the member that was exchanged does, in the role of its keyword. -/
theorem ofMembers_change (reads : ReadsSame source (keywordRole name) value value') :
    ofMembers source (readMembers source before after name value) =
      ofMembers source (readMembers source before after name value') := by
  have plain : ∀ {β : Type} (names : List String) (absent : Decoded β) (decode : Json → Decoded β),
      (∀ name ∈ names, (keywordRole name).IsLeaf) →
        entry names absent decode (collapsedMembers before after name value) =
          entry names absent decode (collapsedMembers before after name value') := by
    intro β names absent decode leaves
    rw [collapsedMembers, collapsedMembers, map_change, map_change]
    refine entry_change fun among => ?_
    rw [(readsSame_iff_of_isLeaf (leaves name among)).mp reads]
  have part : ∀ {β : Type} (names : List String) (role : Role) (decode : Reading → Decoded β),
      (names, role) ∈ keywordRoles →
      (ReadsSame source role value value' →
        decode (Reading.ofJson source value) = decode (Reading.ofJson source value')) →
      ∀ absent, entry names absent decode (readMembers source before after name value) =
        entry names absent decode (readMembers source before after name value') := by
    intro β names role decode listed same absent
    rw [readMembers, readMembers, map_change, map_change]
    refine entry_change fun among => same ?_
    rwa [← keywordRole_eq listed among]
  have node := fun names listed => part names .node Reading.node? listed And.right
  have nodes := fun names listed => part names .nodes (Reading.orNull Reading.nodes) listed id
  have definitions := part ["$defs", "defs"] .mapping (Reading.orNull Reading.definitions)
    (by decide) And.left
  have properties := part ["properties"] .mapping (Reading.orNull Reading.properties)
    (by decide) And.right
  have applicators : Applicators.decode (readMembers source before after name value) =
      Applicators.decode (readMembers source before after name value') := by
    simp only [Applicators.decode, definitions, properties, nodes ["allOf", "all_of"] (by decide),
      nodes ["anyOf", "any_of"] (by decide), nodes ["oneOf", "one_of"] (by decide),
      node ["not", "not_"] (by decide), node ["if", "if_"] (by decide), node ["then"] (by decide),
      node ["else", "else_"] (by decide), node ["items"] (by decide)]
  simp only [ofMembers, Reading.map_raw_ofJson, applicators]
  simp only [Identity.decode, Constraints.decode, Annotations.decode, Decode.optional, withDefault]
  simp (disch := decide) only [plain]

/-- A mapping reads the same if the node that was exchanged does. -/
theorem readsSame_mapping (reads : ReadsSame source .node value value') :
    ReadsSame source .mapping (.obj (before ++ (name, value) :: after))
      (.obj (before ++ (name, value') :: after)) := by
  rw [ReadsSame, orNull_obj, orNull_obj, orNull_obj, orNull_obj, Reading.ofJson_obj,
    Reading.ofJson_obj]
  simp only [Reading.ofObject, List.map_append, List.map_cons, reads.1, reads.2, and_self]

theorem readsSame_member {role : Role}
    (reads : ReadsSame source (role.ofMember name) value value') :
    ReadsSame source role (.obj (before ++ (name, value) :: after))
      (.obj (before ++ (name, value') :: after)) := by
  cases role with
  | node =>
    refine readsSame_node_obj ?_
    rw [Reading.ofJson_obj, Reading.ofJson_obj]
    exact ofMembers_change reads
  | nodes =>
    rw [ReadsSame, orNull_obj, orNull_obj, Reading.ofJson_obj, Reading.ofJson_obj]
    rfl
  | mapping => exact readsSame_mapping reads
  | names | number | default | plain =>
    have same : value = value' := reads
    rw [same]
    exact .refl _ _

end Member

theorem readsSame_item {role : Role} {value value' : Json} {before after : List Json}
    (reads : ReadsSame source role.ofItem value value') :
    ReadsSame source role (.arr (before ++ value :: after)) (.arr (before ++ value' :: after)) := by
  cases role with
  | node =>
    rw [ReadsSame, Reading.node?_eq, Reading.ofJson_arr, Reading.ofJson_arr]
    exact ⟨rfl, rfl⟩
  | nodes =>
    rw [ReadsSame, orNull_arr, orNull_arr, Reading.ofJson_arr, Reading.ofJson_arr]
    simp only [Reading.ofItems, List.map_append, List.map_cons, reads.1]
  | mapping =>
    rw [ReadsSame, Reading.ofJson_arr, Reading.ofJson_arr]
    exact ⟨rfl, rfl⟩
  | names | number | default | plain =>
    have same : value = value' := reads
    rw [same]
    exact .refl _ _

/-! ### Extended documents -/

/-- A value that was extended reads as the same value in its role. -/
theorem Extended.readsSame {role : Role} {value value' : Json}
    (extended : Extended role value value') : ReadsSame source role value value' := by
  induction extended with
  | refl role value => exact .refl role value
  | trans _ _ first second => exact first.trans second
  | added before after value ignored =>
    refine readsSame_node_obj ?_
    rw [Reading.ofJson_obj, Reading.ofJson_obj]
    exact (ofMembers_insert ignored value).symm
  | member before after _ inductionHypothesis => exact readsSame_member inductionHypothesis
  | item before after _ inductionHypothesis => exact readsSame_item inductionHypothesis

/-- An extended document is read as the same schema, or refused with the same issues, as the one
it comes from, and the same form is made of it. -/
theorem parse_extended {document document' : Document} {value value' : Json}
    (sameSource : document.source = document'.source) (denotes : document.json? = some value)
    (denotes' : document'.json? = some value') (extended : Extended .node value value') :
    Schema.parse document = Schema.parse document' ∧
      ∀ defaults, Form.ofSchemaDocument defaults document =
        Form.ofSchemaDocument defaults document' := by
  have read : Schema.decode document.source value = Schema.decode document.source value' :=
    extended.readsSame.1
  have parsed : Schema.parse document = Schema.parse document' := by
    rw [Schema.parse, Schema.parse, Document.decode_eq denotes, Document.decode_eq denotes',
      ← sameSource, read]
  refine ⟨parsed, fun defaults => ?_⟩
  rw [Form.ofSchemaDocument, Form.ofSchemaDocument, parsed]

/-- A document whose property has a bound on its length. -/
def boundedDocument : Json :=
  .obj [("properties", .obj [("name", .obj [("minLength", .int 3)])])]

/-- The document with a member that is no keyword beside its properties, and with another value
under the plain spelling of the bound. -/
def annotatedDocument : Json :=
  .obj [("x-order", .arr [.float .nan, .null]),
    ("properties", .obj [("name", .obj [("min_length", .str "x"), ("minLength", .int 3)])])]

theorem extended_annotatedDocument : Extended .node boundedDocument annotatedDocument := by
  have bound : Extended .node (.obj [("minLength", .int 3)])
      (.obj [("min_length", .str "x"), ("minLength", .int 3)]) := .added [] _ _ (by decide)
  have property : Extended .mapping (.obj [("name", .obj [("minLength", .int 3)])])
      (.obj [("name", .obj [("min_length", .str "x"), ("minLength", .int 3)])]) :=
    .member [] [] bound
  exact .trans (.member [] [] property) (.added [] _ _ (by decide))

theorem parse_annotatedDocument :
    ((Document.value boundedDocument).source = (Document.value annotatedDocument).source ∧
      (Document.value boundedDocument).json? = some boundedDocument ∧
      (Document.value annotatedDocument).json? = some annotatedDocument ∧
      Extended .node boundedDocument annotatedDocument) ∧
    Schema.parse (.value boundedDocument) = Schema.parse (.value annotatedDocument) ∧
      ∀ defaults, Form.ofSchemaDocument defaults (.value boundedDocument) =
        Form.ofSchemaDocument defaults (.value annotatedDocument) :=
  ⟨⟨rfl, rfl, rfl, extended_annotatedDocument⟩,
    parse_extended rfl rfl rfl extended_annotatedDocument⟩

/-! ### Members that are not ignored -/

/-- Lists inside of each other, to some depth. -/
def nestedLists : Nat → Json
  | 0 => .arr []
  | levels + 1 => .arr [nestedLists levels]

theorem legible_nestedLists (levels : Nat) : (nestedLists levels).Legible := by
  induction levels with
  | zero => exact Json.legible_arr.mpr fun _ none => nomatch none
  | succ levels inductionHypothesis =>
    refine Json.legible_arr.mpr fun item member => ?_
    rw [List.mem_singleton.mp member]
    exact inductionHypothesis

theorem depth_nestedLists (levels : Nat) : (nestedLists levels).depth = levels := by
  induction levels with
  | zero => rfl
  | succ levels inductionHypothesis =>
    have step : (nestedLists (levels + 1)).depth = max ((nestedLists levels).depth + 1) 0 := rfl
    rw [step, inductionHypothesis, Nat.max_zero]

/-- A document with one member that is no keyword and is nested too deep for a text. -/
def overfullDocument : Json := .obj [("x", nestedLists Document.nestingLimit)]

theorem read?_overfullDocument :
    Json.read? Document.nestingLimit (overfullDocument.write .line) = none := by
  have legible : overfullDocument.Legible := Json.legible_obj.mpr fun member inside => by
    rw [List.mem_singleton.mp inside]
    exact legible_nestedLists _
  have levels : overfullDocument.depth = max ((nestedLists Document.nestingLimit).depth + 1) 0 :=
    rfl
  refine Json.read?_write_of_lt (Json.Layout.blank_ofIndent none) legible ?_
  rw [levels, depth_nestedLists]
  exact Nat.le_max_left _ _

/-- A plain spelling is read as the keyword it stands for, although it is no keyword itself, and a
text is refused for the nesting of a member that is no keyword. -/
theorem parse_added_of_not_keyword :
    ((∀ keyword ∈ keywords, "min_length" ≠ keyword.1) ∧
      Schema.parse (.value (.obj [])) = .ok (.node {} {} {} {}) ∧
      Schema.parse (.value (.obj [("min_length", .int 5)])) =
        .ok (.node {} {} { minLength := some 5 } {})) ∧
    (∀ keyword ∈ keywords, "x" ≠ keyword.1 ∧ "x" ∉ keyword.2) ∧
      Schema.parse (.text ((Json.obj []).write .line)) = .ok (.node {} {} {} {}) ∧
      Schema.parse (.text (overfullDocument.write .line)) =
        .error ⟨.single .schema, .text, [⟨[], .malformedText⟩]⟩ := by
  exact ⟨⟨by decide, rfl, rfl⟩, by decide, rfl, parse_of_unread read?_overfullDocument⟩

end Schema

end Formwork
