/-
This file says which doubles are in the serialized representation of a form: those of its
fixed values, options, rules and triggers, and those that are left in its defaults. JSON has
no digits for the infinities and not-a-number. A default loses them when it is written, so it
is read back as it was exactly if it had none.
-/

import Formwork.Proofs.Form.Text
import Formwork.Proofs.Form.Values
import Mathlib.Data.List.ReduceOption

namespace Formwork

variable {holds : Binary64 → Prop}

/-! ### Doubles of defaults -/

namespace Json

/-- A default is written without the doubles that have no digits. -/
theorem allNumbers_finiteOnly (value : Json) :
    value.finiteOnly.AllNumbers (·.isFinite) := by
  induction value using Json.induction with
  | float value => cases value <;> trivial
  | arr items inductionHypothesis =>
    rw [finiteOnly_arr, allNumbers_arr]
    exact List.forall_mem_map.mpr inductionHypothesis
  | obj members inductionHypothesis =>
    rw [finiteOnly_obj, allNumbers_obj]
    exact List.forall_mem_map.mpr inductionHypothesis
  | _ => trivial

theorem finiteOnly_of_allNumbers {value : Json}
    (finite : value.AllNumbers (·.isFinite)) :
    value.finiteOnly = value := by
  induction value using Json.induction with
  | float value => cases value <;> first | rfl | cases finite
  | arr items inductionHypothesis =>
    have same : items.map finiteOnly = items.map id := List.map_congr_left fun item inside =>
      inductionHypothesis item inside (allNumbers_arr.mp finite item inside)
    rw [finiteOnly_arr, same, List.map_id]
  | obj members inductionHypothesis =>
    have same : (members.map fun member => (member.1, member.2.finiteOnly)) = members.map id :=
      List.map_congr_left fun member inside => by
        rw [inductionHypothesis member inside (allNumbers_obj.mp finite member inside), id]
    rw [finiteOnly_obj, same, List.map_id]
  | _ => rfl

/-- A default is written as it is exactly if all of its doubles have digits. -/
theorem finiteOnly_eq_self_iff {value : Json} :
    value.finiteOnly = value ↔ value.AllNumbers (·.isFinite) :=
  ⟨fun same => same ▸ allNumbers_finiteOnly value, finiteOnly_of_allNumbers⟩

end Json

/-! ### Doubles of fields -/

/-- Whether something holds of a scalar if it is a double. -/
def Scalar.AllNumbers (holds : Binary64 → Prop) (value : Scalar) : Prop :=
  value.toJson.AllNumbers holds

/-- The doubles among rules. -/
def Validation.numbers (validation : Validation) : List Binary64 :=
  [validation.minimum, validation.maximum, validation.step].reduceOption

/-- The doubles among the rules of a control. -/
def Control.ruleNumbers (control : Control) : List Binary64 :=
  (control.validation.getD {}).numbers

/-- Whether something holds of all doubles of a control but those in its default. -/
structure Control.AllNumbers (holds : Binary64 → Prop) (control : Control) : Prop where
  value : control.value.AllNumbers holds
  options : ∀ option ∈ control.options, option.value.AllNumbers holds
  rules : ∀ number ∈ control.ruleNumbers, holds number

/-- Whether something holds of all doubles of a field but those in its default. -/
structure Field.AllNumbers (holds : Binary64 → Prop) (field : Field) : Prop where
  control : field.control.AllNumbers holds
  trigger : ∀ gate, field.gate = some gate → gate.trigger.AllNumbers holds

theorem Validation.forall_numbers_iff {validation : Validation} :
    (∀ number ∈ validation.numbers, holds number) ↔
      (∀ number, validation.minimum = some number → holds number) ∧
        (∀ number, validation.maximum = some number → holds number) ∧
        ∀ number, validation.step = some number → holds number := by
  simp only [numbers, List.reduceOption_mem_iff, List.mem_cons, List.not_mem_nil, or_false,
    or_imp, forall_and, @eq_comm _ (some _)]

theorem Validation.allNumbers_toJson_iff {validation : Validation} :
    validation.toJson.AllNumbers holds ↔ ∀ number ∈ validation.numbers, holds number := by
  rw [toJson_eq, Json.allNumbers_obj, forall_numbers_iff]
  simp only [members, List.forall_mem_append, @forall_flagMember_iff (Json.AllNumbers holds),
    @forall_member?_iff (Json.AllNumbers holds)]
  constructor
  · rintro ⟨⟨⟨⟨⟨⟨⟨_, minimum⟩, maximum⟩, _⟩, _⟩, step⟩, _⟩, _⟩
    exact ⟨minimum, maximum, step⟩
  · rintro ⟨minimum, maximum, step⟩
    exact ⟨⟨⟨⟨⟨⟨⟨⟨⟨fun _ => trivial, fun _ _ => trivial⟩, fun _ _ => trivial⟩, minimum⟩, maximum⟩,
      fun _ _ => trivial⟩, fun _ _ => trivial⟩, step⟩, fun _ _ => trivial⟩, fun _ _ => trivial⟩

theorem Control.forall_ruleNumbers_iff {control : Control} :
    (∀ number ∈ control.ruleNumbers, holds number) ↔
      ∀ validation, control.validation = some validation →
        ∀ number ∈ validation.numbers, holds number := by
  cases held : control.validation <;>
    simp [ruleNumbers, held, Validation.numbers, List.reduceOption]

theorem FieldOption.allNumbers_toJson_iff {option : FieldOption} :
    option.toJson.AllNumbers holds ↔ option.value.AllNumbers holds := by
  rw [toJson, Json.allNumbers_obj, List.forall_mem_cons, List.forall_mem_singleton]
  exact and_iff_right trivial

theorem forall_unless_null_iff {value : Json} :
    (value ≠ .null → value.AllNumbers holds) ↔ value.AllNumbers holds := by
  refine ⟨fun given => ?_, fun given _ => given⟩
  cases value with
  | null => trivial
  | _ => exact given (by simp)

theorem Control.holds_allNumbers_iff {control : Control} :
    control.Holds (Json.AllNumbers holds) ↔
      control.default.finiteOnly.AllNumbers holds ∧ control.AllNumbers holds := by
  constructor
  · intro given
    refine ⟨?_, forall_unless_null_iff.mp given.value, fun option among => ?_,
      forall_ruleNumbers_iff.mpr fun validation held =>
        Validation.allNumbers_toJson_iff.mp (given.validation validation held)⟩
    · cases same : control.default with
      | null => trivial
      | _ => exact same ▸ given.default (by simp [same])
    · have written := given.options (List.ne_nil_of_mem among)
      exact FieldOption.allNumbers_toJson_iff.mp
        (Json.allNumbers_arr.mp written _ (List.mem_map_of_mem among))
  · rintro ⟨default, given⟩
    exact {
      name := trivial
      kind := trivial
      label := fun _ _ => trivial
      description := fun _ _ => trivial
      placeholder := fun _ _ => trivial
      default := fun _ => default
      value := fun _ => given.value
      options := fun _ => Json.allNumbers_arr.mpr (List.forall_mem_map.mpr fun option among =>
        FieldOption.allNumbers_toJson_iff.mpr (given.options option among))
      validation := fun validation held =>
        Validation.allNumbers_toJson_iff.mpr (forall_ruleNumbers_iff.mp given.rules validation held)
      readOnly := fun _ => trivial
      deprecated := fun _ => trivial }

namespace Field

theorem allNumbers_listToJson_iff {fields : List (Option Field)} :
    (listToJson fields ≠ [] → (Json.arr (listToJson fields)).AllNumbers holds) ↔
      ∀ child, some child ∈ fields → child.toJson.AllNumbers holds := by
  rw [Json.allNumbers_arr, @forall_listToJson_iff (Json.AllNumbers holds) _ trivial]
  refine ⟨fun given child member => given ?_ child member, fun given _ => given⟩
  rw [listToJson_eq_map, ne_eq, List.map_eq_nil_iff]
  exact List.ne_nil_of_mem member

/-- The doubles in what is written for a field are its own and those of the fields in its parts. -/
theorem allNumbers_toJson_iff (field : Field) :
    field.toJson.AllNumbers holds ↔
      (field.control.default.finiteOnly.AllNumbers holds ∧ field.AllNumbers holds) ∧
        ∀ part ∈ field.parts, ∀ child, some child ∈ part → child.toJson.AllNumbers holds := by
  rw [toJson_eq, Json.allNumbers_obj, @forall_members_iff (Json.AllNumbers holds),
    Control.holds_allNumbers_iff, allNumbers_listToJson_iff, parts, List.forall_mem_cons]
  simp only [Json.allNumbers_obj, @forall_gateMembers_iff (Json.AllNumbers holds),
    forall_unless_null_iff, allNumbers_listToJson_iff]
  constructor
  · rintro ⟨⟨default, control⟩, children, gate, _⟩
    refine ⟨⟨default, control, fun given held => (gate given held).2.1⟩, children, ?_⟩
    cases held : field.gate with
    | none => exact List.forall_mem_nil _
    | some given =>
      obtain ⟨_, _, consequent, alternative⟩ := gate given held
      exact List.forall_mem_cons.mpr ⟨consequent, List.forall_mem_singleton.mpr alternative⟩
  · rintro ⟨⟨default, given⟩, children, inGate⟩
    refine ⟨⟨default, given.control⟩, children, fun gate held => ?_, fun _ _ => trivial⟩
    rw [held] at inGate
    obtain ⟨consequent, others⟩ := List.forall_mem_cons.mp inGate
    exact ⟨trivial, given.trigger gate held, consequent,
      List.forall_mem_singleton.mp others⟩

end Field

/-! ### Doubles of forms -/

namespace Form

/-- Whether all doubles of a form have digits, apart from those in its defaults. -/
def Finite (form : Form) : Prop := ∀ field, form.Has field → field.AllNumbers (·.isFinite)

/-- The doubles in the serialized representation of a form are those of its fields at any depth. -/
theorem allNumbers_toJson_iff {form : Form} :
    form.toJson.AllNumbers holds ↔ ∀ field, form.Has field →
      field.control.default.finiteOnly.AllNumbers holds ∧ field.AllNumbers holds := by
  rw [toJson_eq, Json.allNumbers_obj,
    ← forall_fields_iff (fun field => Field.allNumbers_toJson_iff field)]
  simp only [members, List.forall_mem_append, List.forall_mem_singleton,
    @forall_member?_iff (Json.AllNumbers holds), Json.allNumbers_arr]
  rw [@Field.forall_listToJson_iff (Json.AllNumbers holds) _ trivial]
  exact and_iff_right ⟨⟨⟨fun _ _ => trivial, fun _ _ => trivial⟩, fun _ _ => trivial⟩,
    fun _ _ => trivial⟩

/-- All doubles in the serialized representation of a form have digits exactly if those of its
fields do, whatever its defaults are. -/
theorem finite_toJson_iff {form : Form} :
    form.toJson.AllNumbers (·.isFinite) ↔ form.Finite := by
  rw [allNumbers_toJson_iff]
  exact forall_congr' fun field => imp_congr_right fun _ =>
    and_iff_right (Json.allNumbers_finiteOnly _)

end Form

/-! ### Forms that lose nothing -/

namespace Field

theorem listNormalized_eq_self_iff {fields : List (Option Field)} :
    listNormalized fields = fields ↔
      ∀ child, some child ∈ fields → child.normalized = child := by
  have each : fields.map (Option.map normalized) = fields.map id ↔
      ∀ entry ∈ fields, entry.map normalized = entry := List.map_inj_left
  rw [List.map_id] at each
  rw [listNormalized_eq_map, each]
  constructor
  · intro same child member
    exact Option.some.inj (same (some child) member)
  · intro same entry member
    cases entry with
    | none => rfl
    | some child => exact congrArg some (same child member)

theorem normalized_eq_self_iff (field : Field) :
    field.normalized = field ↔
      field.control.default.AllNumbers (·.isFinite) ∧
        ∀ part ∈ field.parts, ∀ child, some child ∈ part → child.normalized = child := by
  obtain ⟨control, children, gate⟩ := field
  have default : control.normalized = control ↔
      control.default.AllNumbers (·.isFinite) := by
    rw [← Json.finiteOnly_eq_self_iff]
    exact ⟨congrArg Control.default, fun same => by rw [Control.normalized, same]⟩
  have inGate : gate.map gateNormalized = gate ↔
      ∀ part ∈ gateParts gate, ∀ child, some child ∈ part → child.normalized = child := by
    cases gate with
    | none => exact iff_of_true rfl (List.forall_mem_nil _)
    | some gate =>
      obtain ⟨condition, trigger, consequent, alternative⟩ := gate
      simp only [Option.map_some, Option.some.injEq, gateNormalized, Gate.mk.injEq, true_and,
        gateParts, List.forall_mem_cons, List.not_mem_nil, false_imp_iff, implies_true, and_true,
        listNormalized_eq_self_iff]
  rw [normalized_eq, Field.mk.injEq, parts, List.forall_mem_cons]
  exact and_congr default (and_congr listNormalized_eq_self_iff inGate)

end Field

/-- A form is its own normal form exactly if all doubles in its defaults have digits. -/
theorem Form.normalized_eq_self_iff {form : Form} :
    form.normalized = form ↔ ∀ field, form.Has field →
      field.control.default.AllNumbers (·.isFinite) := by
  rw [← forall_fields_iff fun field => Field.normalized_eq_self_iff field,
    ← Field.listNormalized_eq_self_iff]
  obtain ⟨title, description, action, method, fields⟩ := form
  simp only [normalized, Form.mk.injEq, true_and]

end Formwork
