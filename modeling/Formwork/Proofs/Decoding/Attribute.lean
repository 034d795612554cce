/-
This file proves what is needed of reading and writing attributes, one at a time.

An attribute that was written as a member, or left out, is found again under its
name whatever other members stand around it, and reads as the value it was written
for. In the other direction a record that was read had every one of its attributes
read, so that a property of all attributes is found by looking at them one by one.
-/

import Formwork.Decoding.Attribute
import Formwork.Form.Encode
import Formwork.Proofs.Json.Tree

namespace Formwork

variable {α β ρ σ : Type}

/-! ### Combined results -/

namespace Decoded

theorem map_eq_ok {function : α → β} {decoded : Decoded α} {result : β}
    (read : decoded.map function = .ok result) :
    ∃ value, decoded = .ok value ∧ function value = result := by
  cases decoded with
  | ok value =>
    injection read with same
    exact ⟨value, rfl, same⟩
  | failed issues => cases read

theorem seq_eq_ok {function : Decoded (α → β)} {decoded : Decoded α} {result : β}
    (read : function <*> decoded = .ok result) :
    ∃ apply value, function = .ok apply ∧ decoded = .ok value ∧ apply value = result := by
  cases function with
  | ok apply =>
    obtain ⟨value, same, applied⟩ : ∃ value, decoded = .ok value ∧ apply value = result :=
      match decoded, read with
      | .ok value, read => ⟨value, rfl, Decoded.ok.inj read⟩
    exact ⟨apply, value, rfl, same, applied⟩
  | failed issues => cases decoded <;> cases read

theorem under_eq_ok {step : LocationStep} {decoded : Decoded α} {value : α} :
    decoded.under step = .ok value ↔ decoded = .ok value := by
  cases decoded with
  | ok value' => exact Iff.rfl
  | failed issues => exact ⟨(fun none => by cases none), (fun none => by cases none)⟩

/-- A list of results gives the list of values if all results are values. -/
theorem allFrom_eq_ok {start : Nat} {items : List (Decoded α)} {values : List α} :
    allFrom start items = .ok values ↔ items = values.map .ok := by
  induction items generalizing start values with
  | nil => cases values <;> simp [allFrom]
  | cons first rest inductionHypothesis =>
    constructor
    · intro read
      obtain ⟨prepend, others, head, tail, joined⟩ := seq_eq_ok read
      obtain ⟨value, under, rfl⟩ := map_eq_ok head
      rw [under_eq_ok.mp under, inductionHypothesis.mp tail, ← joined]
      rfl
    · intro same
      cases values with
      | nil => cases same
      | cons value others =>
        obtain ⟨rfl, tail⟩ := List.cons.inj same
        rw [allFrom, inductionHypothesis.mpr tail]
        rfl

theorem allIndexed_eq_ok {items : List (Decoded α)} {values : List α} :
    allIndexed items = .ok values ↔ items = values.map .ok := allFrom_eq_ok

theorem allNamed_eq_ok {members : List (String × Decoded α)} {values : List (String × α)} :
    allNamed members = .ok values ↔
      members = values.map fun member => (member.1, Decoded.ok member.2) := by
  have each : ∀ (members : List (String × Decoded α)) (values : List (String × α)),
      all (members.map fun member =>
          map (fun value => (member.1, value)) (member.2.under (.name member.1))) = .ok values ↔
        members = values.map fun member => (member.1, Decoded.ok member.2) := by
    intro members
    induction members with
    | nil => exact fun values => by cases values <;> simp [all]
    | cons first rest inductionHypothesis =>
      intro values
      constructor
      · intro read
        obtain ⟨prepend, others, head, tail, joined⟩ := seq_eq_ok read
        obtain ⟨member, named, rfl⟩ := map_eq_ok head
        obtain ⟨value, under, rfl⟩ := map_eq_ok named
        rw [(inductionHypothesis others).mp tail, ← joined, List.map_cons,
          ← under_eq_ok.mp under]
      · intro same
        cases values with
        | nil => cases same
        | cons value others =>
          obtain ⟨rfl, tail⟩ := List.cons.inj same
          rw [List.map_cons, all, (inductionHypothesis others).mpr tail]
          rfl
  exact each members values

end Decoded

namespace Decode

/-! ### Finding members -/

@[simp]
theorem find?_nil (members : List (String × ρ)) : find? [] members = none := rfl

@[simp]
theorem find?_cons (name : String) (rest : List String) (members : List (String × ρ)) :
    find? (name :: rest) members =
      ((lastMember? name members).map fun value => (name, value)).or (find? rest members) := by
  rw [find?]
  cases lastMember? name members <;> rfl

theorem find?_map (change : ρ → σ) (names : List String) (members : List (String × ρ)) :
    find? names (members.map fun member => (member.1, change member.2)) =
      (find? names members).map fun member => (member.1, change member.2) := by
  induction names with
  | nil => rfl
  | cons name rest inductionHypothesis =>
    simp only [find?, lastMember?_map, inductionHypothesis]
    cases lastMember? name members <;> rfl

/-- Reading an attribute of changed members is reading it with the change made first. -/
theorem entry_map (change : ρ → σ) (names : List String) (absent : Decoded β)
    (decode : σ → Decoded β) (members : List (String × ρ)) :
    entry names absent decode (members.map fun member => (member.1, change member.2)) =
      entry names absent (decode ∘ change) members := by
  rw [entry, find?_map, entry]
  cases find? names members <;> rfl

theorem mem_of_find? {names : List String} {members : List (String × ρ)} {name : String}
    {value : ρ} (found : find? names members = some (name, value)) : (name, value) ∈ members := by
  induction names with
  | nil => cases found
  | cons first rest inductionHypothesis =>
    rw [find?] at found
    split at found
    · rename_i hit
      cases found
      exact mem_of_lastMember? hit
    · exact inductionHypothesis found

/-- An attribute that was read is the given result, or was read from the member found for it. -/
theorem find?_of_entry {names : List String} {absent : Decoded β} {decode : ρ → Decoded β}
    {members : List (String × ρ)} {value : β}
    (read : entry names absent decode members = .ok value) :
    absent = .ok value ∨
      ∃ name part, find? names members = some (name, part) ∧ decode part = .ok value := by
  rw [entry] at read
  split at read
  · rename_i name part found
    exact Or.inr ⟨name, part, found, Decoded.under_eq_ok.mp read⟩
  · exact Or.inl read

/-- An attribute that was read is the given result, or was read from a member. -/
theorem entry_eq_ok {names : List String} {absent : Decoded β} {decode : ρ → Decoded β}
    {members : List (String × ρ)} {value : β}
    (read : entry names absent decode members = .ok value) :
    absent = .ok value ∨ ∃ member ∈ members, decode member.2 = .ok value :=
  (find?_of_entry read).imp_right fun ⟨name, part, found, decoded⟩ =>
    ⟨(name, part), mem_of_find? found, decoded⟩

theorem nullable_eq_ok {decode : Json → Decoded β} {json : Json} {value : Option β}
    (read : nullable decode json = .ok value) :
    ∀ present, value = some present → decode json = .ok present := by
  intro present same
  rw [same] at read
  unfold nullable at read
  split at read
  · cases read
  · obtain ⟨value', decoded, same⟩ := Decoded.map_eq_ok read
    injection same with same
    rw [decoded, same]

theorem find?_of_optional {names : List String} {decode : Json → Decoded β}
    {members : List (String × Json)} {value : Option β}
    (read : optional names decode members = .ok value) :
    ∀ present, value = some present →
      ∃ name part, find? names members = some (name, part) ∧ decode part = .ok present := by
  intro present same
  rcases find?_of_entry read with absent | ⟨name, part, found, decoded⟩
  · rw [same] at absent
    cases absent
  · exact ⟨name, part, found, nullable_eq_ok decoded present same⟩

theorem optional_eq_ok {names : List String} {decode : Json → Decoded β}
    {members : List (String × Json)} {value : Option β}
    (read : optional names decode members = .ok value) :
    ∀ present, value = some present → ∃ member ∈ members, decode member.2 = .ok present := by
  intro present same
  obtain ⟨name, part, found, decoded⟩ := find?_of_optional read present same
  exact ⟨(name, part), mem_of_find? found, decoded⟩

/-! ### Attributes that were written -/

/-- An attribute whose member is there exactly if it has a value reads as that value. -/
theorem optional_of_find? {names : List String} {decode : Json → Decoded β}
    {members : List (String × Json)} {value : Option β} (name : String) (encode : β → Json)
    (found : find? names members = (value.map encode).map fun member => (name, member))
    (reads : ∀ present, value = some present → decode (encode present) = .ok present)
    (notNull : ∀ present, encode present ≠ .null) :
    optional names decode members = .ok value := by
  rw [optional, entry, found]
  cases value with
  | none => rfl
  | some present =>
    have decoded : nullable decode (encode present) = .ok (some present) := by
      unfold nullable
      split
      · rename_i null
        exact absurd null (notNull present)
      · rw [reads present rfl]
        rfl
    exact congrArg (Decoded.under _) decoded

/-- An attribute whose member is there reads as what the member says. -/
theorem entry_of_found {names : List String} {absent : Decoded β} {decode : ρ → Decoded β}
    {members : List (String × ρ)} {value : β} (name : String) (part : ρ)
    (found : find? names members = some (name, part)) (reads : decode part = .ok value) :
    entry names absent decode members = .ok value := by
  rw [entry, found]
  exact congrArg (Decoded.under _) reads

/-- An attribute whose member is there, or whose value is the default, reads as its value. -/
theorem entry_of_find? {γ : Type} {names : List String} {absent : Decoded β}
    {decode : ρ → Decoded β} {members : List (String × ρ)} {value : β} {held : Option γ}
    (name : String) (encode : γ → ρ)
    (found : find? names members = (held.map encode).map fun member => (name, member))
    (reads : ∀ present, held = some present → decode (encode present) = .ok value)
    (otherwise : held = none → absent = .ok value) :
    entry names absent decode members = .ok value := by
  rw [entry, found]
  cases held with
  | none => exact otherwise rfl
  | some present => exact congrArg (Decoded.under _) (reads present rfl)

/-- An attribute of changed members, written as a member exactly if it has a value. -/
theorem optional_map_of_find? {names : List String} {decode : Json → Decoded β}
    {members : List (String × Json)} {value : Option β} (change : Json → Json) (name : String)
    (encode : β → Json)
    (found : find? names members = (value.map encode).map fun member => (name, member))
    (kept : ∀ present, change (encode present) = encode present)
    (reads : ∀ present, value = some present → decode (encode present) = .ok present)
    (notNull : ∀ present, encode present ≠ .null) :
    optional names decode (members.map fun member => (member.1, change member.2)) =
      .ok value := by
  refine optional_of_find? name encode ?_ reads notNull
  rw [find?_map, found]
  cases value with
  | none => rfl
  | some present => exact congrArg (fun json => some (name, json)) (kept present)

/-- A flag whose member is there exactly if it is true reads as that flag. -/
theorem withDefault_of_flag {names : List String} {members : List (String × Json)} {flag : Bool}
    {decode : Json → Decoded Bool} (name : String) (reads : decode (.bool true) = .ok true)
    (found : find? names members =
      ((if flag then some true else none).map Json.bool).map fun member => (name, member)) :
    entry names (.ok false) decode members = .ok flag := by
  cases flag with
  | false => exact entry_of_find? name _ found (fun _ none => by cases none) (fun _ => rfl)
  | true =>
    refine entry_of_find? name _ found ?_ (fun none => by cases none)
    intro present same
    cases same
    exact reads

end Decode

end Formwork
