/-
This file says which role each part of a document plays. A grammar lists, for every role,
the attributes of an object in that role and the roles of their values; all members of a
mapping and all items of a list play one role. From the root of a document the grammar
reaches every part that is read as something.

The source of a document matters only where a double is expected: a whole number beyond
all doubles is refused in a decoded value and taken as an infinity in text. So documents
without such a number at a place that the grammar reaches read the same from both sources.
-/

import Mathlib.Data.List.Induction
import Formwork.Proofs.Form.Members

namespace Formwork

/-- The roles of the values of attributes, of the members of mappings and of the items of lists,
and the role of a number that is read as a double. -/
structure Grammar (Role : Type) where
  attributes : Role → List (List String × Role)
  entries : Role → Option Role
  items : Role → Option Role
  number : Role

namespace Grammar

variable {Role : Type} {grammar : Grammar Role} {start role role' : Role} {root value : Json}

/-- Whether a value is read in a role when the root of the document is read in another one. The
value of an attribute is the one that is found under the names of the attribute. -/
inductive Reaches (grammar : Grammar Role) (start : Role) (root : Json) : Role → Json → Prop where
  | root : Reaches grammar start root start root
  | named {role role' : Role} {members : List (String × Json)} {names : List String}
    {name : String} {value : Json} :
    Reaches grammar start root role (.obj members) → (names, role') ∈ grammar.attributes role →
      Decode.find? names members = some (name, value) → Reaches grammar start root role' value
  | entry {role role' : Role} {members : List (String × Json)} {name : String} {value : Json} :
    Reaches grammar start root role (.obj members) → grammar.entries role = some role' →
      (name, value) ∈ members → Reaches grammar start root role' value
  | item {role role' : Role} {items : List Json} {value : Json} :
    Reaches grammar start root role (.arr items) → grammar.items role = some role' →
      value ∈ items → Reaches grammar start root role' value

theorem Reaches.trans {part : Json} {partRole : Role}
    (reaches : grammar.Reaches start root role value)
    (reaches' : grammar.Reaches role value partRole part) :
    grammar.Reaches start root partRole part := by
  induction reaches' with
  | root => exact reaches
  | named _ listed found inductionHypothesis => exact inductionHypothesis.named listed found
  | entry _ mapping member inductionHypothesis => exact inductionHypothesis.entry mapping member
  | item _ list member inductionHypothesis => exact inductionHypothesis.item list member

/-- Whether every whole number that is read as a double is near to a double. -/
def NumbersFit (grammar : Grammar Role) (start : Role) (root : Json) : Prop :=
  ∀ number : Int, grammar.Reaches start root grammar.number (.int number) →
    (Binary64.ofInt number).isFinite = true

theorem NumbersFit.of_reaches (fit : grammar.NumbersFit start root)
    (reaches : grammar.Reaches start root role value) : grammar.NumbersFit role value :=
  fun number below => fit number (reaches.trans below)

theorem NumbersFit.named {members : List (String × Json)} {names : List String}
    {name : String} (fit : grammar.NumbersFit role (.obj members))
    (listed : (names, role') ∈ grammar.attributes role)
    (found : Decode.find? names members = some (name, value)) : grammar.NumbersFit role' value :=
  fit.of_reaches (.named .root listed found)

theorem NumbersFit.entry {members : List (String × Json)} {name : String}
    (fit : grammar.NumbersFit role (.obj members)) (mapping : grammar.entries role = some role')
    (member : (name, value) ∈ members) : grammar.NumbersFit role' value :=
  fit.of_reaches (.entry .root mapping member)

theorem NumbersFit.item {items : List Json} (fit : grammar.NumbersFit role (.arr items))
    (list : grammar.items role = some role') (member : value ∈ items) :
    grammar.NumbersFit role' value :=
  fit.of_reaches (.item .root list member)

/-- What is reached inside of a value whose leaves are all of some sort has such leaves too. -/
theorem Reaches.allLeaves {holds : Json → Prop} (reaches : grammar.Reaches start root role value)
    (leaves : root.AllLeaves holds) : value.AllLeaves holds := by
  induction reaches with
  | root => exact leaves
  | named _ _ found inductionHypothesis =>
    exact Json.allLeaves_obj.mp inductionHypothesis _ (Decode.mem_of_find? found)
  | entry _ _ member inductionHypothesis =>
    exact Json.allLeaves_obj.mp inductionHypothesis _ member
  | item _ _ member inductionHypothesis => exact Json.allLeaves_arr.mp inductionHypothesis _ member

end Grammar

/-! ### Collapsed objects -/

theorem lastMember?_putMember {α : Type} {members : List (String × α)}
    (distinct : (members.map Prod.fst).Nodup) (name name' : String) (value : α) :
    lastMember? name (putMember name' value members) =
      if name' = name then some value else lastMember? name members := by
  induction members with
  | nil => simp [putMember]
  | cons head rest inductionHypothesis =>
    obtain ⟨name'', value''⟩ := head
    obtain ⟨fresh, distinctRest⟩ := List.nodup_cons.mp distinct
    rw [putMember]
    by_cases found : name'' = name'
    · subst found
      have absent : lastMember? name'' rest = none :=
        Option.eq_none_iff_forall_ne_some.mpr fun _ held =>
          fresh (List.mem_map.mpr ⟨_, mem_of_lastMember? held, rfl⟩)
      by_cases same : name'' = name
      · subst same
        simp [absent]
      · simp [same]
    · by_cases same : name'' = name
      · subst same
        have other : ¬ name' = name'' := fun equal => found equal.symm
        simp [found, inductionHypothesis distinctRest, other]
      · simp [found, inductionHypothesis distinctRest, same]

/-- Keeping the last of the values of each name changes no value that is found. -/
theorem lastMember?_collapseMembers {α : Type} (name : String) (members : List (String × α)) :
    lastMember? name (collapseMembers members) = lastMember? name members := by
  induction members using List.reverseRecOn with
  | nil => rfl
  | append_singleton before member inductionHypothesis =>
    have step : collapseMembers (before ++ [member]) =
        putMember member.1 member.2 (collapseMembers before) := by
      simp [collapseMembers, List.foldl_append]
    rw [step, lastMember?_putMember (nodup_collapseMembers before), inductionHypothesis,
      lastMember?_append]
    by_cases same : member.1 = name <;> simp [same]

namespace Decode

variable {ρ β : Type}

theorem find?_collapseMembers (names : List String) (members : List (String × ρ)) :
    find? names (collapseMembers members) = find? names members := by
  induction names with
  | nil => rfl
  | cons name rest inductionHypothesis =>
    rw [find?_cons, find?_cons, inductionHypothesis, lastMember?_collapseMembers]

theorem entry_collapseMembers (names : List String) (absent : Decoded β) (decode : ρ → Decoded β)
    (members : List (String × ρ)) :
    entry names absent decode (collapseMembers members) = entry names absent decode members := by
  rw [entry, entry, find?_collapseMembers]

/-! ### Attributes that read the same -/

/-- An attribute reads the same in two ways if the value that is found for it does. -/
theorem entry_congr {names : List String} {absent : Decoded β} {decode decode' : ρ → Decoded β}
    {change change' : Json → ρ} {members : List (String × Json)}
    (same : ∀ name value, find? names members = some (name, value) →
      decode (change value) = decode' (change' value)) :
    entry names absent decode (members.map fun member => (member.1, change member.2)) =
      entry names absent decode' (members.map fun member => (member.1, change' member.2)) := by
  rw [entry_map, entry_map, entry, entry]
  cases found : find? names members with
  | none => rfl
  | some member => simp only [Function.comp_apply, same member.1 member.2 found]

/-- A number that is read as a double reads the same from both sources if it is near to one. -/
theorem float_collapse {value : Json}
    (fits : ∀ number, value = .int number → (Binary64.ofInt number).isFinite = true)
    (source : Source) : float source value.collapse = float .text value.collapse := by
  cases value with
  | int number =>
    have finite := fits number rfl
    show floatOfInt source number = floatOfInt .text number
    simp [floatOfInt, finite]
  | arr items => rw [Json.collapse_arr]; rfl
  | obj members => rw [Json.collapse_obj]; rfl
  | _ => rfl

theorem optional_float {names : List String} {members : List (String × Json)}
    (fits : ∀ name number, find? names members = some (name, .int number) →
      (Binary64.ofInt number).isFinite = true) (source : Source) :
    optional names (float source) (members.map fun member => (member.1, member.2.collapse)) =
      optional names (float .text) (members.map fun member => (member.1, member.2.collapse)) := by
  refine entry_congr fun name value found => ?_
  have reads : float source value.collapse = float .text value.collapse :=
    float_collapse (fun number same => fits name number (same ▸ found)) source
  unfold nullable
  split <;> simp_all

end Decode

end Formwork
