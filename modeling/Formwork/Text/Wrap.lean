/-
This file breaks text into lines of a greatest width. The text is first cut into
chunks: runs of blanks, runs of dashes between words, and words, of which a
compound word is cut once more behind each of its hyphens. Chunks then fill the
lines in order, and a chunk that is wider than a line is broken. The main
statement is `flatten_chunks`: cutting loses nothing.
-/

import Formwork.Text.Alphanumeric
import Formwork.Text.Blank

namespace Formwork

namespace Wrap

/-! ### Chunks -/

/-- What a chunk consists of. -/
inductive ChunkKind where
  | blanks
  | dashes
  | word
  deriving DecidableEq, Repr

/-- Whether a dash between words may follow a character. -/
def isBeforeDash (char : Char) : Bool :=
  isWordChar char || "!\"'&.,?".toList.contains char

/-- Whether a dash of at least two hyphens begins, given the text before it, latest first. It
stands between words: something may precede it and a word follows. -/
def startsDash (before rest : List Char) : Bool :=
  before.head?.any isBeforeDash && 2 ≤ (rest.takeWhile (· == '-')).length &&
    (rest.dropWhile (· == '-')).head?.any isWordChar

/-- Whether the text before a hyphen, latest first, is the part of a compound word: it ends with
two letters, or with two single letters that a hyphen joins. -/
def isCompoundStart : List Char → Bool
  | last :: '-' :: first :: _ => isWordLetter last && isWordLetter first
  | last :: first :: _ => isWordLetter last && isWordLetter first
  | _ => false

/-- Whether the text behind a hyphen goes on like a compound word: with two letters, which a
hyphen may join. -/
def isCompoundRest : List Char → Bool
  | first :: '-' :: last :: _ => isWordLetter first && isWordLetter last
  | first :: last :: _ => isWordLetter first && isWordLetter last
  | _ => false

/-- The kind of the chunk that begins with the rest of a text. -/
def kindAt (before : List Char) : List Char → ChunkKind
  | [] => .word
  | char :: rest =>
    if char == ' ' then .blanks
    else if startsDash before (char :: rest) then .dashes
    else .word

/-- Whether a chunk of some kind ends before the rest of a text. -/
def endsBefore (kind : ChunkKind) (before : List Char) : List Char → Bool
  | [] => true
  | char :: rest =>
    match kind with
    | .blanks => char != ' '
    | .dashes => char != '-'
    | .word => char == ' ' || startsDash before (char :: rest)

/-- Cuts the rest of a text into chunks. The text before it and the chunk under way are given
latest character first. -/
def chunksFrom (kind : ChunkKind) (before current : List Char) : List Char → List (List Char)
  | [] => [current.reverse]
  | char :: rest =>
    if !current.isEmpty && endsBefore kind before (char :: rest) then
      current.reverse :: chunksFrom (kindAt before (char :: rest)) (char :: before) [char] rest
    else if !current.isEmpty && kind = .word && char == '-' && isCompoundStart before &&
        isCompoundRest rest then
      (char :: current).reverse ::
        chunksFrom (kindAt (char :: before) rest) (char :: before) [] rest
    else chunksFrom kind (char :: before) (char :: current) rest

/-- The chunks of a text. -/
def chunks (text : List Char) : List (List Char) :=
  (chunksFrom (kindAt [] text) [] [] text).filter (!·.isEmpty)

theorem flatten_chunksFrom (kind : ChunkKind) (before current text : List Char) :
    (chunksFrom kind before current text).flatten = current.reverse ++ text := by
  induction text generalizing kind before current with
  | nil => simp [chunksFrom]
  | cons char rest inductionHypothesis =>
    simp only [chunksFrom]
    split
    · simp [inductionHypothesis]
    · split <;> simp [inductionHypothesis]

theorem flatten_filter_nonempty (parts : List (List Char)) :
    (parts.filter (!·.isEmpty)).flatten = parts.flatten := by
  induction parts with
  | nil => rfl
  | cons part rest inductionHypothesis => cases part <;> simp [inductionHypothesis]

/-- The chunks of a text make up the text. -/
theorem flatten_chunks (text : List Char) : (chunks text).flatten = text := by
  rw [chunks, flatten_filter_nonempty, flatten_chunksFrom, List.reverse_nil, List.nil_append]

/-! ### Lines -/

/-- Whether a chunk shows nothing: it has only white space and separators of information. -/
def isInvisible (chunk : List Char) : Bool :=
  chunk.all fun char => isBlank char || (28 ≤ char.toNat && char.toNat ≤ 31)

/-- Takes chunks while they fit into the room left. The result is what was taken, latest first,
the room left afterwards, and the other chunks. -/
def takeFitting (taken : List (List Char)) (room : Nat) :
    List (List Char) → List (List Char) × Nat × List (List Char)
  | [] => (taken, room, [])
  | chunk :: rest =>
    if chunk.length ≤ room then takeFitting (chunk :: taken) (room - chunk.length) rest
    else (taken, room, chunk :: rest)

/-- The number of characters of a chunk to put into the room left: up to its last hyphen there,
if more than hyphens precede it, and else as many as fit. -/
def breakPoint (room : Nat) (chunk : List Char) : Nat :=
  let lead := ((chunk.take room).reverse.dropWhile (· != '-')).drop 1
  if lead.any (· != '-') then lead.length + 1 else room

/-- Breaks the next chunk if it is wider than a whole line, and takes what fits. -/
def takeBroken (width : Nat) : List (List Char) × Nat × List (List Char) →
    List (List Char) × List (List Char)
  | (taken, _, []) => (taken, [])
  | (taken, room, chunk :: rest) =>
    if width < chunk.length then
      let point := breakPoint room chunk
      (chunk.take point :: taken, chunk.drop point :: rest)
    else (taken, chunk :: rest)

/-- Drops the first chunk if it shows nothing. -/
def dropInvisible : List (List Char) → List (List Char)
  | [] => []
  | chunk :: rest => if isInvisible chunk then rest else chunk :: rest

/-- Fills lines with chunks. A chunk that shows nothing is dropped at the end of a line, and at
the start of every line but the first. Each round takes a chunk or a part of one. -/
def fill (width : Nat) (isFirst : Bool) (chunks : List (List Char)) :
    Nat → List (List Char)
  | 0 => []
  | rounds + 1 =>
    if chunks.isEmpty then []
    else
      let chunks := if isFirst then chunks else dropInvisible chunks
      let (taken, chunks) := takeBroken width (takeFitting [] width chunks)
      match dropInvisible taken with
      | [] => fill width isFirst chunks rounds
      | line => line.reverse.flatten :: fill width false chunks rounds

end Wrap

/-- A text broken into lines of a greatest width. -/
def wrapText (width : Nat) (text : List Char) : List (List Char) :=
  Wrap.fill width true (Wrap.chunks text) (text.length + 1)

end Formwork
