/-
This file defines drafts: forms that are being edited. A draft is the full record
of a form in which a slot may hold any value, so that it can be left unfinished;
only the slots for records and lists of records always hold those. A part of a
draft is found by the steps that lead to it.
-/

import Formwork.Draft.Slot
import Formwork.Form.Record

namespace Formwork

/-- A form that is being edited. -/
structure Draft where
  record : Json

/-- The draft of a form. -/
def Form.toDraft (form : Form) : Draft := ⟨form.toRecord⟩

/-- Whether two drafts are equal as data. -/
def Draft.sameValue (draft draft' : Draft) : Bool := draft.record.sameValue draft'.record

/-- A step from a part of a draft to a part of it. A negative position counts from the end. -/
inductive EditStep where
  | key (text : String)
  | position (index : Int)
  deriving DecidableEq, Repr

/-- The position that an index denotes in a list of some length; a negative index counts from
the end. -/
def position? (index : Int) (length : Nat) : Option Nat :=
  let position := if index < 0 then index + length else index
  if 0 ≤ position ∧ position < length then some position.toNat else none

namespace Content

/-- The part of a value that steps lead to, with what its slot holds. -/
def get? (content : Content) (value : Json) : List EditStep → Option (Content × Json)
  | [] => some (content, value)
  | .key key :: rest =>
    match content, value with
    | .part record, .obj members =>
      (record.slot? key).bind fun slot =>
        (lastMember? slot.name members).bind fun part => slot.content.get? part rest
    | _, _ => none
  | .position index :: rest =>
    match content, value with
    | .parts record, .arr items =>
      (position? index items.length).bind fun position =>
        items[position]?.bind fun item => (Content.part record).get? item rest
    | _, _ => none

/-- A value with another one in the place that steps lead to. -/
def replace? (content : Content) (value new : Json) : List EditStep → Option Json
  | [] => some new
  | .key key :: rest =>
    match content, value with
    | .part record, .obj members =>
      (record.slot? key).bind fun slot =>
        (lastMember? slot.name members).bind fun part =>
          (slot.content.replace? part new rest).map fun part =>
            .obj (putMember slot.name part members)
    | _, _ => none
  | .position index :: rest =>
    match content, value with
    | .parts record, .arr items =>
      (position? index items.length).bind fun position =>
        items[position]?.bind fun item =>
          ((Content.part record).replace? item new rest).map fun item =>
            .arr (items.set position item)
    | _, _ => none

end Content

namespace Draft

/-- The part of a draft that steps lead to. -/
def get? (draft : Draft) (steps : List EditStep) : Option (Content × Json) :=
  (Content.part .form).get? draft.record steps

/-- The draft with another value in the place that steps lead to. -/
def replace? (draft : Draft) (steps : List EditStep) (new : Json) : Option Draft :=
  ((Content.part .form).replace? draft.record new steps).map Draft.mk

end Draft

end Formwork
