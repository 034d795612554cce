/-
This file proves which exported texts are standard JSON text: the text of a converted form,
and the text of the answer with such a form. Both are so exactly if the doubles of the form
have digits. Its defaults have them in any case, since others are left out there, while a
bound, a choice, a fixed value or a trigger is written as it is, an infinity as well.
-/

import Formwork.Proofs.Conversion.Numbers
import Formwork.Proofs.Json.Standard
import Formwork.Proofs.Tool.Agreement
import Formwork.Tool.Server

namespace Formwork

/-! ### Texts of forms -/

variable {defaults : FormDefaults}

theorem Form.isText_write_iff {form : Form} (indent : Option Int) :
    Standard.IsText (form.write indent) ↔ form.Finite :=
  (Standard.isText_write_iff (Json.Layout.blank_ofIndent indent)).trans finite_toJson_iff

/-- All doubles of a converted form have digits if all doubles do that its document gives as bounds,
as fixed values and as choices. -/
theorem Schema.finite_toForm {source : Source} {json : Json} {schema : Schema}
    (read : Schema.decode source json = .ok schema) (scalars : GivesScalars (·.isFinite) json)
    (bounds : GivesBounds (·.isFinite) source json) : (schema.toForm defaults).Finite :=
  fun _ has =>
    (allNumbers_iff_of_has has (everywhere_takesScalars read scalars)).mpr
      (ruleNumbers_of_has has (everywhere_bounds read bounds))

/-! ### Texts of answers -/

/-- Whether converted forms are written under settings with the given defaults and the given
indent, and no draft of them is written instead. -/
structure Settings.Writes (settings : Settings) (defaults : FormDefaults)
    (indent : Option Int) : Prop where
  defaults : settings.formDefaults = .ok defaults
  forms : settings.formJson = Form.toJson
  layout : settings.layout = .ok (.ofIndent indent)

namespace Tool

/-- The document that a call converts. -/
def schemaArgument (arguments : List (String × Json)) : Document :=
  .ofArgument (argumentOr (.obj []) "schema" arguments)

variable {settings : Settings} {indent : Option Int} {arguments : List (String × Json)}

theorem allNumbers_convertedJson_iff {holds : Binary64 → Prop} {form : Form} {validate : Bool} :
    (convertedJson form validate).AllNumbers holds ↔ form.toJson.AllNumbers holds := by
  have report : ∀ complaint, (reportJson complaint).AllNumbers holds := by
    intro complaint
    cases complaint with
    | none => exact Json.allNumbers_obj.mpr (List.forall_mem_singleton.mpr trivial)
    | some complaint =>
      rw [reportJson, Json.allNumbers_obj]
      split <;> simp [Json.AllNumbers, Json.AllLeaves, Json.fold, Json.NumberLeaf]
  rw [convertedJson, Json.allNumbers_obj, List.forall_mem_cons]
  refine and_iff_left ?_
  cases validate with
  | false => exact List.forall_mem_nil _
  | true => exact List.forall_mem_singleton.mpr (report _)

/-- A call with fit arguments whose document is read as a schema is answered with the form for
it. -/
theorem value_answer_schemaToForm (writes : settings.Writes defaults indent)
    (accepted : schemaToForm.argumentsMessage? arguments = none) {schema : Schema}
    (parsed : Schema.parse (schemaArgument arguments) = .ok schema) :
    ∃ validate, (answer settings "schema_to_form" arguments).value =
      ⟨false, (convertedJson (schema.toForm defaults) validate).write (.ofIndent indent)⟩ := by
  let validate := (argumentOr (.bool true) "validate" arguments).isTruthy
  have fit : (ofName? "schema_to_form").bind (·.argumentsMessage? arguments) = none := accepted
  have called : (callWith settings "schema_to_form" arguments).value =
      .ok (convertedJson (schema.toForm defaults) validate) := by
    have run : call defaults "schema_to_form" arguments =
        convertSchema defaults (schemaArgument arguments) validate := rfl
    rw [callWith, writes.defaults]
    simp only [Logged.value_bind, Logged.value_pure, run, writes.forms, value_convertSchema parsed]
  refine ⟨validate, ?_⟩
  rw [answer, fit]
  simp only [Logged.value_bind, called, writes.layout, Logged.value_pure]

theorem isText_answer_iff (writes : settings.Writes defaults indent)
    (accepted : schemaToForm.argumentsMessage? arguments = none) {schema : Schema}
    (parsed : Schema.parse (schemaArgument arguments) = .ok schema) :
    ∃ text, (answer settings "schema_to_form" arguments).value = ⟨false, text⟩ ∧
      (Standard.IsText text ↔ (schema.toForm defaults).Finite) := by
  obtain ⟨validate, answered⟩ := value_answer_schemaToForm writes accepted parsed
  exact ⟨_, answered, (Standard.isText_write_iff (Json.Layout.blank_ofIndent indent)).trans
    (allNumbers_convertedJson_iff.trans Form.finite_toJson_iff)⟩

end Tool

/-! ### Exported forms -/

/-- The exported texts of the form for a schema document, the text of the form and the text of the
answer with it, are standard JSON text exactly if the doubles of the form have digits. They have
if all doubles do that the document gives as bounds, as fixed values and as choices; a default or
an unknown member of the document may have others. -/
theorem Form.isText_exported_iff {document : Document} {schema : Schema}
    (parsed : Schema.parse document = .ok schema) (defaults : FormDefaults) :
    ∃ form, (ofSchemaDocument defaults document).value = .ok form ∧
      (∀ indent, Standard.IsText (form.write indent) ↔ form.Finite) ∧
      (∀ settings indent arguments, settings.Writes defaults indent →
        Tool.schemaToForm.argumentsMessage? arguments = none →
        Tool.schemaArgument arguments = document →
        ∃ text, (Tool.answer settings "schema_to_form" arguments).value = ⟨false, text⟩ ∧
          (Standard.IsText text ↔ form.Finite)) ∧
      ∀ json, document.json? = some json →
        Schema.GivesScalars (·.isFinite) json →
        Schema.GivesBounds (·.isFinite) document.source json → form.Finite := by
  obtain ⟨json, found, read⟩ := Document.exists_of_toExcept parsed
  refine ⟨schema.toForm defaults, ?_, isText_write_iff, ?_, ?_⟩
  · rw [value_ofSchemaDocument, parsed]
    rfl
  · rintro settings indent arguments writes accepted rfl
    exact Tool.isText_answer_iff writes accepted parsed
  · intro json' found'
    obtain rfl := Option.some.inj (found.symm.trans found')
    exact Schema.finite_toForm read

/-- A schema with a bound that a string spells and with a choice that is a double. -/
def measureSchema : Json :=
  .obj [("minimum", .str "0.5"), ("enum", .arr [.float (.ofDecimal false 15 (-1))])]

/-- The schema that the document is. -/
def measures : Schema :=
  .node {} {} { minimum := some (.ofDecimal false 5 (-1))
                enumeration := some [.float (.ofDecimal false 15 (-1))] } {}

theorem Form.isText_exported_ofMeasureSchema :
    Schema.parse (.value measureSchema) = .ok measures ∧
      ∃ form, (ofSchemaDocument {} (.value measureSchema)).value = .ok form ∧
        (∀ indent, Standard.IsText (form.write indent)) ∧
        ∃ text, (Tool.answer {} "schema_to_form" [("schema", measureSchema)]).value =
          ⟨false, text⟩ ∧ Standard.IsText text := by
  have parsed : Schema.parse (.value measureSchema) = .ok measures := by rfl
  obtain ⟨form, converted, written, answered, given⟩ := isText_exported_iff parsed {}
  have choice : (Binary64.ofDecimal false 15 (-1)).isFinite = true := by decide +kernel
  have bound : (Binary64.ofDecimal false 5 (-1)).isFinite = true := by decide +kernel
  have spelled : Decode.float .value (.str "0.5") = .ok (.ofDecimal false 5 (-1)) := by rfl
  have scalars : Schema.GivesScalars (·.isFinite) measureSchema := by
    refine Schema.givesScalars_of_allNumbers (Json.allNumbers_obj.mpr ?_)
    exact List.forall_mem_cons.mpr ⟨trivial, List.forall_mem_singleton.mpr
      (Json.allNumbers_arr.mpr (List.forall_mem_singleton.mpr choice))⟩
  have bounds : Schema.GivesBounds (·.isFinite) .value measureSchema := by
    refine Schema.givesBounds_of_allLeaves (Json.allLeaves_obj.mpr ?_)
    refine List.forall_mem_cons.mpr ⟨fun number read => ?_, List.forall_mem_singleton.mpr
      (Json.allLeaves_arr.mpr (List.forall_mem_singleton.mpr fun number read => ?_))⟩
    · exact Decoded.ok.inj (spelled.symm.trans read) ▸ bound
    · exact Decoded.ok.inj read ▸ choice
  have finite : form.Finite := given measureSchema rfl scalars bounds
  have writes : ({} : Settings).Writes {} (some 2) := ⟨rfl, rfl, rfl⟩
  obtain ⟨text, answer, standard⟩ :=
    answered {} (some 2) [("schema", measureSchema)] writes (by rfl) rfl
  exact ⟨parsed, form, converted, fun indent => (written indent).mpr finite, text, answer,
    standard.mpr finite⟩

/-- A text with one choice, a number beyond all doubles. -/
def farChoiceText : String := "\x7b\"enum\": [1e400]\x7d"

theorem isText_farChoiceText : Standard.IsText farChoiceText := by
  have number : Standard.IsNumber ("1e400".toList) := by
    have power : Standard.IsExponent ('e' :: [] ++ ['4', '0', '0']) :=
      .power (by decide) (by decide) ⟨by decide, by simp⟩
    exact @Standard.IsNumber.parts [] ['1'] [] _ (by decide) ⟨⟨by decide, by simp⟩, by decide⟩
      .none power
  have name : Standard.IsString ("\"enum\"".toList) := by
    refine @Standard.IsString.quoted [['e'], ['n'], ['u'], ['m']] ?_
    simp only [List.forall_mem_cons, List.not_mem_nil, false_imp_iff, implies_true, and_true]
    exact ⟨.plain (by decide) (by decide) (by decide), .plain (by decide) (by decide) (by decide),
      .plain (by decide) (by decide) (by decide), .plain (by decide) (by decide) (by decide)⟩
  have items : Standard.Derives (.several .value) ([] ++ "1e400".toList ++ []) :=
    .last Standard.isBlank_nil (.number number) Standard.isBlank_nil
  have space : Standard.IsBlank [' '] := List.forall_mem_singleton.mpr (by decide)
  have member := Standard.Derives.member name Standard.isBlank_nil space (.array items)
  exact ⟨[], _, [], Standard.isBlank_nil,
    .object (.last Standard.isBlank_nil member Standard.isBlank_nil), Standard.isBlank_nil, by rfl⟩

/-- The schema that the text is. -/
def farChoice : Schema :=
  .node {} {} { enumeration := some [.float (.infinite false)] } {}

theorem parse_farChoiceText : Schema.parse (.text farChoiceText) = .ok farChoice := by
  have scanned : Token.scan? farChoiceText.toList = some [.openObject, .scalar (.text "enum"),
      .colon, .openArray, .scalar (.float (.infinite false)), .closeArray, .closeObject] := by
    decide +kernel
  have found : (Document.text farChoiceText).json? =
      some (.obj [("enum", .arr [.float (.infinite false)])]) := by
    rw [Document.json?, Json.read?, scanned]
    rfl
  rw [Schema.parse, Document.decode_eq found]
  rfl

theorem not_finite_farChoice : ¬ (farChoice.toForm {}).Finite := by
  intro finite
  have field : (farChoice.toForm {}).Has (farChoice.toField {} "") :=
    ⟨_, .self, List.mem_singleton_self _⟩
  have option : ⟨"inf", .float (.infinite false)⟩ ∈ (farChoice.toField {} "").control.options := by
    decide +kernel
  have infinite := (finite _ field).control.options _ option
  cases infinite

/-- Not every schema document that is standard JSON text gives standard text. The literal of a
number beyond all doubles is read as an infinity, which is written by its name as a choice. -/
theorem Form.not_isText_exported_ofFarChoice :
    Standard.IsText farChoiceText ∧ Schema.parse (.text farChoiceText) = .ok farChoice ∧
      ∃ form, (ofSchemaDocument {} (.text farChoiceText)).value = .ok form ∧
        (∀ indent, ¬ Standard.IsText (form.write indent)) ∧
        ∃ text, (Tool.answer {} "schema_to_form" [("schema", .str farChoiceText)]).value =
          ⟨false, text⟩ ∧ ¬ Standard.IsText text := by
  have writes : ({} : Settings).Writes {} (some 2) := ⟨rfl, rfl, rfl⟩
  obtain ⟨text, answer, standard⟩ := @Tool.isText_answer_iff {} {} (some 2)
    [("schema", .str farChoiceText)] writes (by rfl) farChoice parse_farChoiceText
  refine ⟨isText_farChoiceText, parse_farChoiceText, farChoice.toForm {}, ?_, fun indent => ?_,
    text, answer, ?_⟩
  · rw [value_ofSchemaDocument, parse_farChoiceText]
    rfl
  · exact mt (isText_write_iff indent).mp not_finite_farChoice
  · exact mt standard.mp not_finite_farChoice

end Formwork
