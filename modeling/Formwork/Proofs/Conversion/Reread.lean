/-
This file proves which converted forms are read back from their own text. A form may nest
twice as deep as its schema, so the text of a form for a deep schema nests deeper than a
text may, and is refused. All other texts are read, and if all doubles of the schema
document have digits the form that is read is the form that was written.
-/

import Formwork.Proofs.Conversion.Levels
import Formwork.Proofs.Conversion.Numbers
import Formwork.Proofs.Form.Equality
import Formwork.Proofs.Form.Legible
import Formwork.Proofs.Pipeline

namespace Formwork

/-! ### Texts of forms -/

variable {form : Form}

/-- The text of a form that comes from a document is read as the normal form, unless it nests deeper
than a text may; then it is refused. -/
theorem Form.MadeFrom.parse_write {document : Document} (made : form.MadeFrom document)
    (legible : document.Legible) (indent : Option Int) :
    (form.toJson.depth ≤ Document.nestingLimit →
      Form.parse (.text (form.write indent)) = .ok form.normalized) ∧
    (Document.nestingLimit < form.toJson.depth →
      Form.parse (.text (form.write indent)) =
        .error ⟨.single .form, .text, [⟨[], .malformedText⟩]⟩) := by
  have blank := Json.Layout.blank_ofIndent indent
  have writable := legible_toJson legible made.sound
  have plain : ∀ siblings, form.SiblingList siblings → Field.Plain siblings :=
    fun siblings below => (made.sound siblings below).plain
  constructor
  · exact fun shallow => parse_of_json? plain (Json.read?_write blank writable shallow)
  · exact fun deep => parse_of_unread (Json.read?_write_of_lt blank writable deep)

/-! ### Equality of converted forms -/

namespace Schema

variable {defaults : FormDefaults} {source : Source} {json : Json} {schema : Schema}

/-- A converted form loses nothing when it is written if all doubles of its document have
digits. -/
theorem normalized_toForm (read : Schema.decode source json = .ok schema)
    (finite : json.AllNumbers (·.isFinite)) :
    (schema.toForm defaults).normalized = schema.toForm defaults :=
  Form.normalized_eq_self_iff.mpr fun _ has =>
    allNumbers_default_of_has has (everywhere_takesNumbers read finite)

/-- A converted form is equal to itself as data exactly if none of its rules is not-a-number, if
all doubles of its document have digits. -/
theorem sameValue_toForm_iff (read : Schema.decode source json = .ok schema)
    (finite : json.AllNumbers (·.isFinite)) :
    (schema.toForm defaults).sameValue (schema.toForm defaults) = true ↔
      ∀ field, (schema.toForm defaults).Has field → .nan ∉ field.control.ruleNumbers := by
  have numbers : json.AllNumbers (· ≠ .nan) := finite.mono fun number => by
    rintro finite rfl
    cases finite
  have taken := everywhere_takesNumbers read numbers
  have plain : Field.Everywhere Field.Plain (schema.toForm defaults).fields :=
    (sound_toForm (sound_of_decode read)).mono fun _ sound => sound.plain
  rw [Form.sameValue_self_iff]
  refine forall_congr' fun field => forall_congr' fun has => ?_
  have default : field.control.default.SelfEqual := by
    obtain ⟨siblings, below, member⟩ := has
    obtain ⟨field', same, kept⟩ := plain siblings below (some field) member
    obtain rfl := Option.some.inj same
    exact (Json.selfEqual_iff kept).mpr
      (allNumbers_default_of_has ⟨siblings, below, member⟩ taken)
  rw [and_iff_right default,
    allNumbers_iff_of_has has (taken.mono fun _ taken => taken.toTakesScalars)]
  exact ⟨fun rules inside => rules .nan inside rfl, fun absent number inside same =>
    absent (same ▸ inside)⟩

end Schema

/-! ### Texts that nest too deep -/

/-- A child lies two levels below its field. -/
theorem Field.depth_add_two_le_of_child {field child : Field}
    (member : some child ∈ field.children) :
    child.toJson.depth + 2 ≤ field.toJson.depth := by
  have items : child.toJson ∈ listToJson field.children := by
    rw [listToJson_eq_map]
    exact List.mem_map_of_mem member
  have written : ("fields", Json.arr (listToJson field.children)) ∈ field.members := by
    have nonempty : (listToJson field.children).isEmpty = false := by
      simpa using List.ne_nil_of_mem items
    simp [members, listMember, nonempty]
  have outer : (Json.arr (listToJson field.children)).depth < (Json.obj field.members).depth :=
    Json.depth_lt_obj written
  have inner := Json.depth_lt_arr items
  rw [field.toJson_eq]
  omega

theorem Field.depth_toJson_pos (field : Field) : 0 < field.toJson.depth := by
  have named : ("name", Json.str field.control.name) ∈ field.members := by
    simp [members, Control.members]
  rw [toJson_eq]
  exact Json.depth_lt_obj named

namespace Schema

variable {defaults : FormDefaults} {source : Source}

/-- The document of a schema of arrays of arrays, down to some level. -/
def nestedItems : Nat → Json
  | 0 => .obj []
  | levels + 1 => .obj [("items", nestedItems levels)]

/-- The schema of arrays of arrays, down to some level. -/
def nestedArrays : Nat → Schema
  | 0 => empty
  | levels + 1 => .node {} { items := some (nestedArrays levels) } {} {}

/-- There are only objects in the document. -/
theorem allLeaves_nestedItems {holds : Json → Prop} (levels : Nat) :
    (nestedItems levels).AllLeaves holds := by
  induction levels with
  | zero => exact Json.allLeaves_obj.mpr fun _ none => nomatch none
  | succ levels inductionHypothesis =>
    exact Json.allLeaves_obj.mpr (List.forall_mem_singleton.mpr inductionHypothesis)

theorem depth_nestedItems_le (levels : Nat) : (nestedItems levels).depth ≤ levels := by
  induction levels with
  | zero => exact Nat.le_refl 0
  | succ levels inductionHypothesis =>
    exact Json.depth_obj_le_iff.mpr
      (List.forall_mem_singleton.mpr (Nat.lt_succ_of_le inductionHypothesis))

theorem ofMembers_items {reading : Reading} {node : Schema}
    (read : reading.node? = .ok (some node)) :
    ofMembers source [("items", reading)] =
      .ok (.node {} { items := some node } {} {}) := by
  simp only [ofMembers, Identity.decode, Applicators.decode, Constraints.decode,
    Annotations.decode, Decode.optional, Decode.withDefault, Decode.entry, Decode.find?,
    List.map_cons, List.map_nil, lastMember?_cons, lastMember?_nil, Option.none_or,
    String.reduceEq, if_true, if_false, read]
  rfl

theorem decode_nestedItems (levels : Nat) :
    Schema.decode source (nestedItems levels) = .ok (nestedArrays levels) := by
  induction levels with
  | zero => rfl
  | succ levels inductionHypothesis =>
    have node : (Reading.ofJson source (nestedItems levels)).node? =
        .ok (some (nestedArrays levels)) := by
      have raw : ∃ members, (nestedItems levels).collapse = .obj members := by
        cases levels <;> exact ⟨_, rfl⟩
      obtain ⟨members, raw⟩ := raw
      have read : (Reading.ofJson source (nestedItems levels)).node = .ok (nestedArrays levels) :=
        inductionHypothesis
      rw [Reading.node?, Reading.raw_ofJson, raw, read]
      rfl
    rw [nestedItems, Schema.decode, Reading.ofJson_obj]
    exact ofMembers_items node

theorem parse_nestedItems {levels : Nat} (shallow : levels ≤ Document.nestingLimit) :
    (Document.text ((nestedItems levels).write .line)).json? = some (nestedItems levels) ∧
      Schema.parse (.text ((nestedItems levels).write .line)) = .ok (nestedArrays levels) := by
  have found : (Document.text ((nestedItems levels).write .line)).json? =
      some (nestedItems levels) :=
    @Json.read?_write Document.nestingLimit .line trivial _ (allLeaves_nestedItems levels)
      (Nat.le_trans (depth_nestedItems_le levels) shallow)
  refine ⟨found, ?_⟩
  rw [Schema.parse, Document.decode_eq found, decode_nestedItems]
  rfl

/-- Every level of arrays takes two levels of the form. -/
theorem le_depth_toField_nestedArrays (levels : Nat) (name : String) :
    2 * levels + 1 ≤ ((nestedArrays levels).toField defaults name).toJson.depth := by
  induction levels generalizing name with
  | zero => exact Field.depth_toJson_pos _
  | succ levels inductionHypothesis =>
    have child : some ((nestedArrays levels).toField defaults arrayItemName) ∈
        ((nestedArrays (levels + 1)).toField defaults name).children := by
      rw [toField_children]
      exact List.mem_singleton_self _
    have below := Field.depth_add_two_le_of_child child
    have deep := inductionHypothesis arrayItemName
    omega

theorem lt_depth_toForm_nestedArrays {levels : Nat} (deep : 98 < levels) :
    Document.nestingLimit < ((nestedArrays levels).toForm defaults).toJson.depth := by
  have root : (nestedArrays levels).applicators.properties = none := by cases levels <;> rfl
  have fields : ((nestedArrays levels).toForm defaults).fields =
      [some ((nestedArrays levels).toField defaults "")] := by
    rw [fields_toForm, root]
  have outer : (Json.arr [((nestedArrays levels).toField defaults "").toJson]).depth <
      ((nestedArrays levels).toForm defaults).toJson.depth := by
    have written : ("fields", Json.arr [((nestedArrays levels).toField defaults "").toJson]) ∈
        ((nestedArrays levels).toForm defaults).members := by
      simp [Form.members, fields, Field.listToJson]
    exact Json.depth_lt_obj written
  have inner := Json.depth_lt_arr
    (List.mem_singleton_self ((nestedArrays levels).toField defaults "").toJson)
  have below := @le_depth_toField_nestedArrays defaults levels ""
  show 200 < _
  omega

end Schema

/-! ### Reading converted forms back -/

namespace Form

/-- The form for every schema document whose doubles all have digits is read back from its text as
it is, in every indentation, unless the text nests deeper than a text may; then it is refused. A
document nests shallow enough if it takes up at most half of the levels, less two.

The form that is read is equal to the converted one as data as well, unless one of its rules is
not-a-number, which nothing is equal to. -/
theorem parse_write_ofSchemaDocument {document : Document} {json : Json} {schema : Schema}
    (legible : document.Legible) (found : document.json? = some json)
    (finite : json.AllNumbers (·.isFinite))
    (parsed : Schema.parse document = .ok schema) (defaults : FormDefaults) :
    ∃ form, (ofSchemaDocument defaults document).value = .ok form ∧
      (2 * json.depth + 3 ≤ Document.nestingLimit →
        form.toJson.depth ≤ Document.nestingLimit) ∧
      (∀ indent,
        (form.toJson.depth ≤ Document.nestingLimit →
          Form.parse (.text (form.write indent)) = .ok form) ∧
        (Document.nestingLimit < form.toJson.depth →
          Form.parse (.text (form.write indent)) =
            .error ⟨.single .form, .text, [⟨[], .malformedText⟩]⟩)) ∧
      (form.sameValue form = true ↔
        ∀ field, form.Has field → .nan ∉ field.control.ruleNumbers) := by
  obtain ⟨json', found', read⟩ := Document.exists_of_toExcept parsed
  obtain rfl := Option.some.inj (found.symm.trans found')
  have made : (schema.toForm defaults).MadeFrom document := .converted defaults parsed
  have same : (schema.toForm defaults).normalized = schema.toForm defaults :=
    Schema.normalized_toForm read finite
  refine ⟨schema.toForm defaults, ?_, fun shallow => ?_, fun indent => ?_,
    Schema.sameValue_toForm_iff read finite⟩
  · rw [value_ofSchemaDocument, parsed]
    rfl
  · exact Nat.le_trans (Schema.depth_toJson_toForm_le read) shallow
  · have written := made.parse_write legible indent
    rwa [same] at written

/-- A document with a bound and with a default that holds a double. -/
def priceDocument : Json :=
  .obj [("properties", .obj [("price", .obj [("minimum", .int 0),
    ("default", .arr [.float (.ofDecimal false 25 (-1))])])])]

/-- The schema that the document is. -/
def priceSchema : Schema :=
  .node {} { properties := some [("price", some (.node {} {} { minimum := some (.ofInt 0) }
    { default := .arr [.float (.ofDecimal false 25 (-1))] }))] } {} {}

theorem parse_write_ofPriceDocument :
    let document := Document.text (priceDocument.write .line)
    (document.Legible ∧ document.json? = some priceDocument ∧
      priceDocument.AllNumbers (·.isFinite) ∧
      Schema.parse document = .ok priceSchema) ∧
    ∃ form, (ofSchemaDocument {} document).value = .ok form ∧
      ∀ indent, Form.parse (.text (form.write indent)) = .ok form := by
  intro document
  have legible : priceDocument.Legible := by
    simp only [priceDocument, Json.legible_obj, Json.legible_arr, List.forall_mem_cons,
      List.not_mem_nil, false_imp_iff, implies_true, and_true]
    exact ⟨show Binary64.decimalWidth 0 ≤ digitLimit by decide, trivial⟩
  have shallow : priceDocument.depth ≤ Document.nestingLimit := by decide +kernel
  have found : document.json? = some priceDocument :=
    @Json.read?_write Document.nestingLimit .line trivial priceDocument legible shallow
  have finite : priceDocument.AllNumbers (·.isFinite) := by
    simp only [priceDocument, Json.allNumbers_obj, Json.allNumbers_arr, List.forall_mem_cons,
      List.not_mem_nil, false_imp_iff, implies_true, and_true]
    exact ⟨trivial, show (Binary64.ofDecimal false 25 (-1)).isFinite = true by decide +kernel⟩
  have parsed : Schema.parse document = .ok priceSchema := by
    rw [Schema.parse, Document.decode_eq found]
    rfl
  have given : document.Legible := trivial
  refine ⟨⟨given, found, finite, parsed⟩, ?_⟩
  obtain ⟨form, converted, levels, text, _⟩ :=
    parse_write_ofSchemaDocument given found finite parsed {}
  exact ⟨form, converted, fun indent => (text indent).1 (levels (by decide +kernel))⟩

/-- A document with a bound that a string spells as not-a-number. -/
def boundlessDocument : Json := .obj [("minimum", .str "nan")]

/-- The form for the document. -/
def boundlessForm : Form := (Schema.node {} {} { minimum := some .nan } {}).toForm {}

theorem boundlessForm_ne_self : boundlessForm.sameValue boundlessForm = false := by
  refine Bool.eq_false_iff.mpr fun same => ?_
  have field : boundlessForm.Has
      ((Schema.node {} {} { minimum := some .nan } {}).toField {} "") :=
    ⟨_, .self, List.mem_singleton_self _⟩
  have rule : .nan ∈ ((Schema.node {} {} { minimum := some .nan } {}).toField {}
      "").control.ruleNumbers := by decide +kernel
  exact ((sameValue_self_iff _).mp same _ field).2.control.rules .nan rule rfl

/-- Not every schema document whose doubles have digits gives a form that is read back and equal to
the form that was written. With arrays inside of each other at 99 levels the form nests too deep,
and with a bound that a string spells as not-a-number the form differs from itself. -/
theorem parse_write_of_nestedItems :
    (∃ document, document = Document.text ((Schema.nestedItems 99).write .line) ∧
      document.json? = some (Schema.nestedItems 99) ∧
      (Schema.nestedItems 99).AllNumbers (·.isFinite) ∧
      Schema.parse document = .ok (Schema.nestedArrays 99) ∧
      ∃ form, (ofSchemaDocument {} document).value = .ok form ∧
        Form.parse (.text (form.write none)) =
          .error ⟨.single .form, .text, [⟨[], .malformedText⟩]⟩) ∧
    ∃ document, document = Document.text (boundlessDocument.write .line) ∧
      document.json? = some boundlessDocument ∧
      boundlessDocument.AllNumbers (·.isFinite) ∧
      (ofSchemaDocument {} document).value = .ok boundlessForm ∧
      Form.parse (.text (boundlessForm.write none)) = .ok boundlessForm ∧
      boundlessForm.sameValue boundlessForm = false := by
  constructor
  · obtain ⟨found, parsed⟩ := @Schema.parse_nestedItems 99 (by decide)
    have made : ((Schema.nestedArrays 99).toForm {}).MadeFrom _ := .converted {} parsed
    refine ⟨_, rfl, found, Schema.allLeaves_nestedItems 99, parsed, _, ?_,
      (made.parse_write trivial none).2 (Schema.lt_depth_toForm_nestedArrays (by decide))⟩
    rw [value_ofSchemaDocument, parsed]
    rfl
  · have leaves : boundlessDocument.Legible :=
      Json.legible_obj.mpr (List.forall_mem_singleton.mpr trivial)
    have finite : boundlessDocument.AllNumbers (·.isFinite) :=
      Json.allNumbers_obj.mpr (List.forall_mem_singleton.mpr trivial)
    have found : (Document.text (boundlessDocument.write .line)).json? = some boundlessDocument :=
      @Json.read?_write Document.nestingLimit .line trivial _ leaves (by decide)
    have read : Schema.decode .text boundlessDocument =
        .ok (.node {} {} { minimum := some .nan } {}) := rfl
    have parsed : Schema.parse (.text (boundlessDocument.write .line)) =
        .ok (.node {} {} { minimum := some .nan } {}) := by
      rw [Schema.parse, Document.decode_eq found, Document.source, read]
      rfl
    have made : boundlessForm.MadeFrom (.text (boundlessDocument.write .line)) :=
      .converted {} parsed
    have shallow : boundlessForm.toJson.depth ≤ Document.nestingLimit :=
      Nat.le_trans (Schema.depth_toJson_toForm_le read) (by decide)
    have same : boundlessForm.normalized = boundlessForm := Schema.normalized_toForm read finite
    have reread := (made.parse_write trivial none).1 shallow
    rw [same] at reread
    refine ⟨_, rfl, found, finite, ?_, reread, boundlessForm_ne_self⟩
    rw [value_ofSchemaDocument, parsed]
    rfl

end Form

end Formwork
