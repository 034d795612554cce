/-
This file proves that the two tools agree: the form that the first tool converts and
checks gets the same report from the second tool, which is given the serialized form as a
value or as text and has to read it first.
-/

import Formwork.Proofs.Check.Outline
import Formwork.Proofs.Form.Text
import Formwork.Proofs.Pipeline
import Formwork.Tool.Call

namespace Formwork

namespace Form

variable {form : Form}

/-- A form whose serialized representation is read again gets the same report. -/
theorem complaint?_of_reread
    (plain : ∀ siblings, form.SiblingList siblings → Field.Plain siblings) {document : Document}
    (found : document.json? = some form.toJson) :
    (Form.parse document).map (fun again => complaint? (some again)) =
      .ok (complaint? (some form)) := by
  rw [parse_of_json? plain found]
  exact congrArg Except.ok form.complaint?_normalized

end Form

namespace Tool

variable {defaults : FormDefaults}

/-- What is answered for a converted form, with the report about it if it is checked. -/
def convertedJson (form : Form) (validate : Bool) : Json :=
  .obj (("form", form.toJson) ::
    if validate then [("validation", reportJson (Form.complaint? (some form)))] else [])

theorem value_convertSchema {document : Document} {schema : Schema}
    (parsed : Schema.parse document = .ok schema) (validate : Bool) :
    (convertSchema defaults document validate).value.toJson Form.toJson =
      convertedJson (schema.toForm defaults) validate := by
  rw [convertSchema, Logged.value_bind, Form.value_ofSchemaDocument, parsed]
  cases validate <;> simp [Except.map, Form.value_checkLogged, ToolResult.toJson, convertedJson]

/-- What the tool with a name answers, as a JSON value. -/
def reply (defaults : FormDefaults) (name : String) (arguments : List (String × Json)) : Json :=
  (call defaults name arguments).value.toJson Form.toJson

theorem reply_schemaToForm (schema : Json) :
    reply defaults "schema_to_form" [("schema", schema), ("validate", .bool true)] =
      match Schema.parse (.ofArgument schema) with
      | .ok schema =>
        .obj [("form", (schema.toForm defaults).toJson),
          ("validation", reportJson (Form.complaint? (some (schema.toForm defaults))))]
      | .error failure => .obj [("error", .str failure.message)] := by
  have run : call defaults "schema_to_form" [("schema", schema), ("validate", .bool true)] =
      convertSchema defaults (.ofArgument schema) true := rfl
  rw [reply, run]
  cases parsed : Schema.parse (.ofArgument schema) with
  | error failure =>
    rw [convertSchema, Logged.value_bind, Form.value_ofSchemaDocument, parsed]
    rfl
  | ok schema => exact value_convertSchema parsed true

theorem reply_validateForm (form : Json) :
    reply defaults "validate_form" [("form", form)] =
      match (Form.parse (.ofArgument form)).map fun form => Form.complaint? (some form) with
      | .ok complaint => reportJson complaint
      | .error failure => .obj [("error", .str failure.message)] := by
  have run : call defaults "validate_form" [("form", form)] = checkForm (.ofArgument form) := rfl
  rw [reply, run, checkForm]
  cases Form.parse (.ofArgument form) with
  | error failure => rfl
  | ok form =>
    simp only [Except.map, Logged.value_bind, Form.value_checkLogged, Logged.value_pure,
      ToolResult.toJson]

/-- The form that is answered for a schema document, with the report about it, gets the same
report when it is sent back as a value. So does its text, as long as it nests no deeper than a text
may and no whole number in it is too long for one. -/
theorem validateForm_of_schemaToForm {schema form report : Json}
    (answered : reply defaults "schema_to_form" [("schema", schema), ("validate", .bool true)] =
      .obj [("form", form), ("validation", report)]) :
    (∃ complaint, report = reportJson complaint) ∧
      reply defaults "validate_form" [("form", form)] = report ∧
      (form.Short → form.depth ≤ Document.nestingLimit →
        reply defaults "validate_form" [("form", .str (form.write .line))] = report) := by
  rw [reply_schemaToForm] at answered
  cases parsed : Schema.parse (.ofArgument schema) with
  | error failure =>
    rw [parsed] at answered
    simp at answered
  | ok converted =>
    rw [parsed] at answered
    simp only [Json.obj.injEq, List.cons.injEq, Prod.mk.injEq, true_and, and_true] at answered
    obtain ⟨rfl, rfl⟩ := answered
    have made : (converted.toForm defaults).MadeFrom (.ofArgument schema) :=
      .converted defaults parsed
    have plain : ∀ siblings, (converted.toForm defaults).SiblingList siblings →
        Field.Plain siblings := fun siblings below => (made.sound siblings below).plain
    have reread : ∀ argument,
        (Document.ofArgument argument).json? = some (converted.toForm defaults).toJson →
        reply defaults "validate_form" [("form", argument)] =
          reportJson (Form.complaint? (some (converted.toForm defaults))) := by
      intro argument found
      rw [reply_validateForm, Form.complaint?_of_reread plain found]
    refine ⟨⟨_, rfl⟩, reread _ rfl, fun short shallow => reread _ ?_⟩
    have blank : Json.Layout.line.Blank := trivial
    exact Json.read?_write blank short.legible shallow

section SingleProperty

variable (name : String) (default : Json)

/-- A schema with one property, of which only the default is given. -/
def singleProperty : Schema :=
  .node {} { properties := some [(name, some (.node {} {} {} { default := default }))] } {} {}

theorem toForm_singleProperty :
    (singleProperty name default).toForm {} =
      { method := some "POST"
        fields := [some (.mk { name := name, kind := "text", default := default } [] none)] } := by
  have property : (Schema.node {} {} {} { default := default }).toField {} name =
      .mk { name := name, kind := "text", default := default } [] none := by
    rw [Schema.toField.eq_def]
    rfl
  have fields : ((singleProperty name default).toForm {}).fields =
      [some (.mk { name := name, kind := "text", default := default } [] none)] := by
    rw [Schema.fields_toForm]
    show Schema.toFields {} [] [(name, some (.node {} {} {} { default := default }))] = _
    rw [Schema.toFields_eq]
    show [some (Schema.propertyField {} [] name (.node {} {} {} { default := default }))] = _
    rw [Schema.propertyField, property]
    rfl
  show Form.mk _ _ _ _ ((singleProperty name default).toForm {}).fields = _
  rw [fields]
  rfl

end SingleProperty

/-- A schema with one property, whose name is unusable and whose default is not-a-number. -/
def unusableNameSchema : Json :=
  .obj [("properties", .obj [("first name", .obj [("default", .float .nan)])])]

/-- The default of the field comes back as null, and yet the report about its name is the same
from both tools. -/
theorem validateForm_of_unusableName :
    ∃ form, reply {} "schema_to_form" [("schema", unusableNameSchema), ("validate", .bool true)] =
        .obj [("form", form),
          ("validation", reportJson (some ⟨"fields[0]", .malformedName "first name"⟩))] ∧
      reply {} "validate_form" [("form", form)] =
        reportJson (some ⟨"fields[0]", .malformedName "first name"⟩) ∧
      reply {} "validate_form" [("form", .str (form.write .line))] =
        reportJson (some ⟨"fields[0]", .malformedName "first name"⟩) := by
  let converted : Schema := singleProperty "first name" (.float .nan)
  have parsed : Schema.parse (.ofArgument unusableNameSchema) = .ok converted := rfl
  have complaint : Form.complaint? (some (converted.toForm {})) =
      some ⟨"fields[0]", .malformedName "first name"⟩ := by decide +kernel
  have answered := @reply_schemaToForm {} unusableNameSchema
  simp only [parsed, complaint] at answered
  obtain ⟨_, value, text⟩ := validateForm_of_schemaToForm answered
  have written : (converted.toForm {}).toJson =
      .obj [("method", .str "POST"), ("fields", .arr [.obj
        [("name", .str "first name"), ("type", .str "text"), ("default", .null)]])] := by
    rw [toForm_singleProperty]
    rfl
  have short : (converted.toForm {}).toJson.Short := by
    simp only [written, Json.short_obj, Json.short_arr, List.forall_mem_cons, List.not_mem_nil,
      false_imp_iff, implies_true, and_true]
    exact ⟨trivial, trivial, trivial, trivial⟩
  exact ⟨_, answered, value, text short (by decide +kernel)⟩

/-- A schema with one property, whose default is the least number with too many digits. -/
def longDefaultSchema : Json :=
  .obj [("properties", .obj [("count", .obj [("default", .longNumber)])])]

/-- The form that is answered for the schema. -/
def longDefaultJson : Json :=
  .obj [("method", .str "POST"), ("fields", .arr
    [.obj [("name", .str "count"), ("type", .str "text"), ("default", .longNumber)]])]

/-- The form is valid and does not nest deep, and yet its text is refused. -/
theorem validateForm_of_longDefault :
    reply {} "schema_to_form" [("schema", longDefaultSchema), ("validate", .bool true)] =
        .obj [("form", longDefaultJson), ("validation", reportJson none)] ∧
      longDefaultJson.depth ≤ Document.nestingLimit ∧
      reply {} "validate_form" [("form", .str (longDefaultJson.write .line))] ≠
        reportJson none := by
  let converted : Schema := singleProperty "count" .longNumber
  have parsed : Schema.parse (.ofArgument longDefaultSchema) = .ok converted := rfl
  have written : (converted.toForm {}).toJson = longDefaultJson := by
    rw [toForm_singleProperty]
    rfl
  have valid : Form.complaint? (some (converted.toForm {})) = none := by decide +kernel
  have answered := @reply_schemaToForm {} longDefaultSchema
  simp only [parsed, written, valid] at answered
  have unread : Json.read? Document.nestingLimit (longDefaultJson.write .line) = none := by
    refine @Json.read?_write_of_not_legible .line trivial _ (fun legible => ?_) _
    simp only [longDefaultJson, Json.legible_obj, Json.legible_arr, List.forall_mem_cons]
      at legible
    exact Json.not_legible_longNumber legible.2.1.1.2.2.1
  refine ⟨answered, by decide, ?_⟩
  rw [reply_validateForm, Document.ofArgument, Form.parse_of_unread unread]
  simp [Except.map, reportJson]

end Tool

end Formwork
