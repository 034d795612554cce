/-
This file proves that reading obeys its limit of nesting: no value with more levels than
the limit is read, and more room changes nothing about a value that is read. So the text
of a value is read exactly if the value is shallow enough.

The containers on the stack of the reader are levels of the value that is read. A part
that the reader has finished has no more levels than there is room above its container.
-/

import Formwork.Proofs.Json.ReadBack

namespace Formwork

theorem Scalar.depth_toJson (value : Scalar) : value.toJson.depth = 0 := by
  cases value <;> rfl

namespace Json

variable {limit : Nat}

/-! ### Levels of what the reader holds -/

/-- The finished parts of an open container. -/
def Frame.parts : Frame → List Json
  | .array items => items
  | .object members _ => members.map Prod.snd

/-- Whether a stack has room in the limit for all its containers and their finished parts. -/
def ShallowStack (limit : Nat) : List Frame → Prop
  | [] => True
  | frame :: stack =>
    stack.length < limit ∧ (∀ part ∈ frame.parts, stack.length + part.depth < limit) ∧
      ShallowStack limit stack

/-- Whether all that the reader holds has room in the limit. -/
def Expecting.Shallow (limit : Nat) : Expecting → Prop
  | .value stack | .firstItem stack | .firstName stack => ShallowStack limit stack
  | .afterItem items stack => ShallowStack limit (.array items :: stack)
  | .name members stack | .afterMember members stack =>
    ShallowStack limit (.object members "" :: stack)
  | .colon members key stack => ShallowStack limit (.object members key :: stack)
  | .nothing root => root.depth ≤ limit

theorem ShallowStack.length_le {stack : List Frame} (shallow : ShallowStack limit stack) :
    stack.length ≤ limit := by
  cases stack with
  | nil => exact Nat.zero_le limit
  | cons frame rest => exact shallow.1

theorem ShallowStack.array {stack : List Frame} (shallow : ShallowStack limit stack)
    (room : stack.length < limit) : ShallowStack limit (.array [] :: stack) :=
  ⟨room, (fun _ none => nomatch none), shallow⟩

theorem shallow_place {value : Json} {stack : List Frame} (shallow : ShallowStack limit stack)
    (room : stack.length + value.depth ≤ limit) : (place value stack).Shallow limit := by
  cases stack with
  | nil =>
    rw [List.length_nil, Nat.zero_add] at room
    exact room
  | cons frame rest =>
    obtain ⟨space, parts, outer⟩ := shallow
    have here : rest.length + value.depth < limit := by
      rw [List.length_cons] at room
      omega
    cases frame with
    | array items => exact ⟨space, List.forall_mem_cons.mpr ⟨here, parts⟩, outer⟩
    | object members name => exact ⟨space, List.forall_mem_cons.mpr ⟨here, parts⟩, outer⟩

theorem shallow_beginValue? {stack : List Frame} {token : Token} {next : Expecting}
    (shallow : ShallowStack limit stack) (begun : beginValue? stack token = some next) :
    next.Shallow limit := by
  unfold beginValue? at begun
  split at begun <;> cases begun
  · rename_i value
    refine shallow_place shallow ?_
    rw [Scalar.depth_toJson]
    exact shallow.length_le
  · exact shallow
  · exact shallow

/-- A closed array has room if its items had. -/
theorem shallow_closeArray {items : List Json} {stack : List Frame}
    (shallow : ShallowStack limit (.array items :: stack)) :
    (place (.arr items.reverse) stack).Shallow limit := by
  obtain ⟨space, parts, outer⟩ := shallow
  have levels : (Json.arr items.reverse).depth ≤ limit - stack.length :=
    depth_arr_le_iff.mpr fun item member => by
      have := parts item (List.mem_reverse.mp member)
      omega
  exact shallow_place outer (by omega)

/-- A closed object has room if its members had. -/
theorem shallow_closeObject {members : List (String × Json)} {name : String} {stack : List Frame}
    (shallow : ShallowStack limit (.object members name :: stack)) :
    (place (.obj members.reverse) stack).Shallow limit := by
  obtain ⟨space, parts, outer⟩ := shallow
  have levels : (Json.obj members.reverse).depth ≤ limit - stack.length :=
    depth_obj_le_iff.mpr fun member inside => by
      have := parts _ (List.mem_map_of_mem (List.mem_reverse.mp inside))
      omega
  exact shallow_place outer (by omega)

/-- One more token leaves room for all that the reader holds. -/
theorem shallow_advance? {expecting next : Expecting} {token : Token}
    (shallow : expecting.Shallow limit) (advanced : advance? limit expecting token = some next) :
    next.Shallow limit := by
  unfold advance? at advanced
  split at advanced
  · exact shallow_beginValue? shallow advanced
  · split at advanced
    · cases advanced
      exact shallow_place shallow shallow.length_le
    split at advanced
    · rename_i room
      exact shallow_beginValue? (shallow.array room) advanced
    · cases advanced
  · cases advanced
    exact shallow
  · cases advanced
    exact shallow_closeArray shallow
  · cases advanced
    exact shallow_place shallow shallow.length_le
  · split at advanced
    · rename_i room
      cases advanced
      exact shallow.array room
    · cases advanced
  · cases advanced
    exact shallow
  · cases advanced
    exact shallow
  · cases advanced
    exact shallow
  · cases advanced
    exact shallow_closeObject shallow
  · cases advanced

theorem shallow_advanceAll? {expecting next : Expecting} {tokens : List Token}
    (shallow : expecting.Shallow limit)
    (advanced : advanceAll? limit expecting tokens = some next) : next.Shallow limit := by
  induction tokens generalizing expecting with
  | nil =>
    cases advanced
    exact shallow
  | cons token rest inductionHypothesis =>
    rw [advanceAll?_cons] at advanced
    obtain ⟨between, step, advanced⟩ := Option.bind_eq_some_iff.mp advanced
    exact inductionHypothesis (shallow_advance? shallow step) advanced

/-! ### More room -/

theorem advance?_of_le {limit' : Nat} (more : limit ≤ limit') {expecting next : Expecting}
    {token : Token} (advanced : advance? limit expecting token = some next) :
    advance? limit' expecting token = some next := by
  unfold advance? at advanced ⊢
  split at advanced
  · exact advanced
  · split at advanced
    · rename_i closes
      rwa [if_pos closes]
    split at advanced
    · rename_i opens room
      rwa [if_neg opens, if_pos (Nat.lt_of_lt_of_le room more)]
    · cases advanced
  · exact advanced
  · exact advanced
  · exact advanced
  · split at advanced
    · rename_i room
      rwa [if_pos (Nat.lt_of_lt_of_le room more)]
    · cases advanced
  · exact advanced
  · exact advanced
  · exact advanced
  · exact advanced
  · cases advanced

theorem advanceAll?_of_le {limit' : Nat} (more : limit ≤ limit') {expecting next : Expecting}
    {tokens : List Token} (advanced : advanceAll? limit expecting tokens = some next) :
    advanceAll? limit' expecting tokens = some next := by
  induction tokens generalizing expecting with
  | nil => exact advanced
  | cons token rest inductionHypothesis =>
    rw [advanceAll?_cons] at advanced ⊢
    obtain ⟨between, step, advanced⟩ := Option.bind_eq_some_iff.mp advanced
    rw [advance?_of_le more step]
    exact inductionHypothesis advanced

/-! ### Reading within the limit -/

/-- A text is read if its tokens lead to a finished value. -/
theorem read?_eq_some {text : String} {value : Json} :
    read? limit text = some value ↔ ∃ tokens, Token.scan? text.toList = some tokens ∧
      advanceAll? limit (.value []) tokens = some (.nothing value) := by
  unfold read? ofTokens?
  constructor
  · intro reads
    split at reads
    · rename_i tokens scanned
      split at reads
      · rename_i root run
        cases reads
        exact ⟨tokens, scanned, run⟩
      · cases reads
    · cases reads
  · rintro ⟨tokens, scanned, run⟩
    have run : tokens.foldlM (advance? limit) (.value []) = some (.nothing value) := run
    simp only [scanned, run]

/-- What is read from a text has no more levels than the limit. -/
theorem depth_le_of_read? {text : String} {value : Json}
    (reads : read? limit text = some value) : value.depth ≤ limit := by
  obtain ⟨tokens, _, run⟩ := read?_eq_some.mp reads
  have nothing : (Expecting.value []).Shallow limit := trivial
  exact shallow_advanceAll? nothing run

theorem read?_of_le {limit' : Nat} (more : limit ≤ limit') {text : String} {value : Json}
    (reads : read? limit text = some value) : read? limit' text = some value := by
  obtain ⟨tokens, scanned, run⟩ := read?_eq_some.mp reads
  exact read?_eq_some.mpr ⟨tokens, scanned, advanceAll?_of_le more run⟩

/-- The text of a value is refused if the value has more levels than the limit. -/
theorem read?_write_of_lt {layout : Layout} (blank : layout.Blank) {value : Json}
    (legible : value.Legible) (deep : limit < value.depth) :
    read? limit (value.write layout) = none := by
  cases reads : read? limit (value.write layout) with
  | none => rfl
  | some value' =>
    have roomy := read?_of_le (Nat.le_of_lt deep) reads
    rw [read?_write blank legible (Nat.le_refl _)] at roomy
    obtain rfl := Option.some.inj roomy
    exact absurd (depth_le_of_read? reads) (Nat.not_le.mpr deep)

end Json

end Formwork
