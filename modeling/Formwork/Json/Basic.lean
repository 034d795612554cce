/-
This file defines JSON values. Whole numbers and doubles are different values,
and the members of an object keep their order. An object read from text may name
a member twice; `Json.collapse` keeps the last of the values at the place of the
first. `Json.sameValue` is the equality of data, which ignores the order of
members and compares numbers by their value.
-/

import Formwork.Number.Binary64

namespace Formwork

/-- A JSON value, with whole numbers of any size apart from doubles. -/
inductive Json where
  | null
  | bool (value : Bool)
  | int (value : Int)
  | float (value : Binary64)
  | str (text : String)
  | arr (items : List Json)
  | obj (members : List (String × Json))

instance : Inhabited Json := ⟨.null⟩

/-! ### Members of objects -/

/-- Gives a name a value: in its old place if the name is there, and at the end otherwise. -/
def putMember (name : String) (value : α) : List (String × α) → List (String × α)
  | [] => [(name, value)]
  | (name', value') :: rest =>
    if name' == name then (name', value) :: rest else (name', value') :: putMember name value rest

/-- Keeps one member for each name: the last value, in the place of the first one. -/
def collapseMembers (members : List (String × α)) : List (String × α) :=
  members.foldl (fun kept member => putMember member.1 member.2 kept) []

/-- The value of the last member with a name. -/
def lastMember? (name : String) (members : List (String × α)) : Option α :=
  (members.reverse.find? (·.1 == name)).map (·.2)

namespace Json

/-! ### Recursion over values -/

variable {α : Type}

mutual

/-- The result of replacing every array and object, from the inside out, by what the two
functions make of the results for its parts. -/
def fold (leaf : Json → α) (array : List α → α) (object : List (String × α) → α) : Json → α
  | .arr items => array (foldItems leaf array object items)
  | .obj members => object (foldMembers leaf array object members)
  | .null => leaf .null
  | .bool value => leaf (.bool value)
  | .int value => leaf (.int value)
  | .float value => leaf (.float value)
  | .str text => leaf (.str text)

/-- The results for the items of an array. -/
def foldItems (leaf : Json → α) (array : List α → α) (object : List (String × α) → α) :
    List Json → List α
  | [] => []
  | item :: rest => fold leaf array object item :: foldItems leaf array object rest

/-- The results for the members of an object, under their names. -/
def foldMembers (leaf : Json → α) (array : List α → α) (object : List (String × α) → α) :
    List (String × Json) → List (String × α)
  | [] => []
  | (name, value) :: rest =>
    (name, fold leaf array object value) :: foldMembers leaf array object rest

end

theorem foldItems_eq_map (leaf : Json → α) (array : List α → α)
    (object : List (String × α) → α) (items : List Json) :
    foldItems leaf array object items = items.map (fold leaf array object) := by
  induction items with
  | nil => rfl
  | cons item rest inductionHypothesis => simp [foldItems, inductionHypothesis]

theorem foldMembers_eq_map (leaf : Json → α) (array : List α → α)
    (object : List (String × α) → α) (members : List (String × Json)) :
    foldMembers leaf array object members =
      members.map fun member => (member.1, fold leaf array object member.2) := by
  induction members with
  | nil => rfl
  | cons member rest inductionHypothesis => simp [foldMembers, inductionHypothesis]

theorem fold_arr (leaf : Json → α) (array : List α → α) (object : List (String × α) → α)
    (items : List Json) :
    fold leaf array object (.arr items) = array (items.map (fold leaf array object)) := by
  rw [fold, foldItems_eq_map]

theorem fold_obj (leaf : Json → α) (array : List α → α) (object : List (String × α) → α)
    (members : List (String × Json)) :
    fold leaf array object (.obj members) =
      object (members.map fun member => (member.1, fold leaf array object member.2)) := by
  rw [fold, foldMembers_eq_map]

/-- Keeps the last value of every member named twice, at all depths. -/
def collapse : Json → Json :=
  fold id .arr fun members => .obj (collapseMembers members)

/-! ### Equality of data -/

/-- Equality of numbers by value, where the booleans count as one and zero. -/
def sameNumber : Json → Json → Bool
  | .bool value, .bool value' => value == value'
  | .bool value, .int value' => (value.toInt : Int) == value'
  | .int value, .bool value' => value == (value'.toInt : Int)
  | .int value, .int value' => value == value'
  | .float value, .float value' => value.sameNumber value'
  | .float value, .int value' => value.toInt? == some value'
  | .int value, .float value' => value'.toInt? == some value
  | .float value, .bool value' => value.toInt? == some (value'.toInt : Int)
  | .bool value, .float value' => value'.toInt? == some (value.toInt : Int)
  | _, _ => false

mutual

/-- Equality of data: numbers by value, arrays item by item, objects without regard to order. -/
def sameValue : Json → Json → Bool
  | .null, .null => true
  | .str text, .str text' => text == text'
  | .arr items, .arr items' => sameItems items items'
  | .obj members, .obj members' =>
    members.length == members'.length && sameMembers members members'
  | value, value' => sameNumber value value'

/-- Equality of arrays. -/
def sameItems : List Json → List Json → Bool
  | [], [] => true
  | item :: rest, item' :: rest' => sameValue item item' && sameItems rest rest'
  | _, _ => false

/-- Whether every member has an equal member of the same name in the other object. -/
def sameMembers : List (String × Json) → List (String × Json) → Bool
  | [], _ => true
  | (name, value) :: rest, members' =>
    (match lastMember? name members' with
      | some value' => sameValue value value'
      | none => false) && sameMembers rest members'

end

/-- Whether a value counts as true: it is neither null, false, zero nor empty. -/
def isTruthy : Json → Bool
  | .null => false
  | .bool value => value
  | .int value => value != 0
  | .float value => !value.sameNumber (.zero false)
  | .str text => !text.isEmpty
  | .arr items => !items.isEmpty
  | .obj members => !members.isEmpty

end Json

end Formwork
