/-
This file proves that a JSON value reads back from its text, and that reading never
produces a whole number which could not be written again.

The reader keeps the containers it is inside of on a stack. Reading the tokens of a
value from a stack ends where the finished value is put on that stack, as long as
the stack has room for the levels below the value. For what can be written again,
the bound on the digits of a number is followed from the word through the tokens
into every part that is still on the stack.
-/

import Formwork.Json.Reader
import Formwork.Proofs.Json.Lexing

namespace Formwork

namespace Json

/-! ### Reading the tokens of a value -/

variable {limit : Nat}

/-- Takes several more tokens. -/
def advanceAll? (limit : Nat) (expecting : Expecting) (tokens : List Token) : Option Expecting :=
  tokens.foldlM (advance? limit) expecting

theorem advanceAll?_nil (expecting : Expecting) :
    advanceAll? limit expecting [] = some expecting := rfl

theorem advanceAll?_cons (expecting : Expecting) (token : Token) (rest : List Token) :
    advanceAll? limit expecting (token :: rest) =
      (advance? limit expecting token).bind (advanceAll? limit · rest) := rfl

theorem advanceAll?_append (expecting : Expecting) (first second : List Token) :
    advanceAll? limit expecting (first ++ second) =
      (advanceAll? limit expecting first).bind (advanceAll? limit · second) :=
  List.foldlM_append

theorem tokens_eq_cons (value : Json) :
    ∃ first rest, value.tokens = first :: rest ∧ first ≠ .closeArray := by
  cases value with
  | arr items => cases items <;> exact ⟨.openArray, _, rfl, by decide⟩
  | obj members => cases members <;> exact ⟨.openObject, _, rfl, by decide⟩
  | _ => exact ⟨_, _, rfl, by simp⟩

/-- In an array that is not empty the first item is read like any value. -/
theorem advanceAll?_firstItem {stack : List Frame} (room : stack.length < limit)
    (value : Json) (rest : List Token) :
    advanceAll? limit (.firstItem stack) (value.tokens ++ rest) =
      advanceAll? limit (.value (.array [] :: stack)) (value.tokens ++ rest) := by
  obtain ⟨first, others, begins, notClosing⟩ := tokens_eq_cons value
  rw [begins, List.cons_append, advanceAll?_cons, advanceAll?_cons]
  simp only [advance?, if_neg notClosing, if_pos room]

/-- Whether the tokens of a value, read from any stack with room for it, end with the value on
that stack. -/
def Reads (limit : Nat) (value : Json) : Prop :=
  ∀ stack : List Frame, stack.length + value.depth ≤ limit →
    advanceAll? limit (.value stack) value.tokens = some (place value stack)

theorem advanceAll?_itemTokens {rest : List Json} (reads : ∀ item ∈ rest, Reads limit item)
    {stack : List Frame} (room : ∀ item ∈ rest, stack.length + item.depth < limit)
    (items : List Json) :
    advanceAll? limit (.afterItem items stack) (itemTokens rest) =
      some (.afterItem (rest.reverse ++ items) stack) := by
  induction rest generalizing items with
  | nil => rfl
  | cons item rest inductionHypothesis =>
    have space : (Frame.array items :: stack).length + item.depth ≤ limit := by
      have := room item List.mem_cons_self
      rw [List.length_cons]
      omega
    have comma : advance? limit (.afterItem items stack) .comma =
        some (.value (.array items :: stack)) := rfl
    rw [itemTokens, List.cons_append, advanceAll?_cons, comma, Option.bind_some,
      advanceAll?_append, reads item List.mem_cons_self _ space, Option.bind_some, place,
      inductionHypothesis (fun item member => reads item (List.mem_cons_of_mem _ member))
        fun item member => room item (List.mem_cons_of_mem _ member)]
    simp

theorem advanceAll?_memberTokens {rest : List (String × Json)}
    (reads : ∀ member ∈ rest, Reads limit member.2) {stack : List Frame}
    (room : ∀ member ∈ rest, stack.length + member.2.depth < limit)
    (members : List (String × Json)) :
    advanceAll? limit (.afterMember members stack) (memberTokens rest) =
      some (.afterMember (rest.reverse ++ members) stack) := by
  induction rest generalizing members with
  | nil => rfl
  | cons member rest inductionHypothesis =>
    obtain ⟨name, value⟩ := member
    have space : (Frame.object members name :: stack).length + value.depth ≤ limit := by
      have : stack.length + value.depth < limit := room (name, value) List.mem_cons_self
      rw [List.length_cons]
      omega
    have comma : advance? limit (.afterMember members stack) .comma =
        some (.name members stack) := rfl
    have named : advance? limit (.name members stack) (.scalar (.text name)) =
        some (.colon members name stack) := rfl
    have colon : advance? limit (.colon members name stack) .colon =
        some (.value (.object members name :: stack)) := rfl
    rw [memberTokens, List.cons_append, List.cons_append, List.cons_append, advanceAll?_cons,
      comma, Option.bind_some, advanceAll?_cons, named, Option.bind_some, advanceAll?_cons, colon,
      Option.bind_some, advanceAll?_append, reads (name, value) List.mem_cons_self _ space,
      Option.bind_some, place,
      inductionHypothesis (fun member later => reads member (List.mem_cons_of_mem _ later))
        fun member later => room member (List.mem_cons_of_mem _ later)]
    simp

/-- The tokens of a value read as the value. -/
theorem reads_tokens (value : Json) : Reads limit value := by
  induction value using Json.induction with
  | null => exact fun _ _ => rfl
  | bool value => exact fun _ _ => rfl
  | int value => exact fun _ _ => rfl
  | float value => exact fun _ _ => rfl
  | str text => exact fun _ _ => rfl
  | arr items inductionHypothesis =>
    intro stack room
    have below : ∀ item ∈ items, stack.length + item.depth < limit := fun item member => by
      have := depth_arr_le_iff.mp (Nat.le_refl _) item member
      omega
    have opened : advance? limit (.value stack) .openArray = some (.firstItem stack) := rfl
    cases items with
    | nil => rfl
    | cons item rest =>
      have first := below item List.mem_cons_self
      have space : (Frame.array [] :: stack).length + item.depth ≤ limit := by
        rw [List.length_cons]
        omega
      rw [tokens, List.append_assoc, List.cons_append, advanceAll?_cons, opened,
        Option.bind_some, advanceAll?_firstItem (by omega), advanceAll?_append,
        inductionHypothesis item List.mem_cons_self _ space, Option.bind_some, place,
        advanceAll?_append,
        advanceAll?_itemTokens
          (fun item member => inductionHypothesis item (List.mem_cons_of_mem _ member))
          fun item member => below item (List.mem_cons_of_mem _ member)]
      simp [advanceAll?_cons, advanceAll?_nil, advance?]
  | obj members inductionHypothesis =>
    intro stack room
    have below : ∀ member ∈ members, stack.length + member.2.depth < limit :=
      fun member inside => by
        have := depth_obj_le_iff.mp (Nat.le_refl _) member inside
        omega
    have opened : advance? limit (.value stack) .openObject = some (.firstName stack) := rfl
    cases members with
    | nil => rfl
    | cons member rest =>
      obtain ⟨name, value⟩ := member
      have first : stack.length + value.depth < limit := below (name, value) List.mem_cons_self
      have space : (Frame.object [] name :: stack).length + value.depth ≤ limit := by
        rw [List.length_cons]
        omega
      have named : advance? limit (.firstName stack) (.scalar (.text name)) =
          some (.colon [] name stack) := if_pos (by omega)
      have colon : advance? limit (.colon [] name stack) .colon =
          some (.value (.object [] name :: stack)) := rfl
      rw [tokens, List.append_assoc, List.cons_append, List.cons_append, List.cons_append,
        advanceAll?_cons, opened, Option.bind_some, advanceAll?_cons, named, Option.bind_some,
        advanceAll?_cons, colon, Option.bind_some, advanceAll?_append,
        inductionHypothesis (name, value) List.mem_cons_self _ space, Option.bind_some, place,
        advanceAll?_append,
        advanceAll?_memberTokens
          (fun member later => inductionHypothesis member (List.mem_cons_of_mem _ later))
          fun member later => below member (List.mem_cons_of_mem _ later)]
      simp [advanceAll?_cons, advanceAll?_nil, advance?]

/-- A value reads back from its text, in every layout of blanks and within the limit of
nesting. -/
theorem read?_write {layout : Layout} (blank : layout.Blank) {value : Json}
    (legible : value.Legible) (shallow : value.depth ≤ limit) :
    read? limit (value.write layout) = some value := by
  have scanned := Token.scan?_writeAt blank legible
  have run : value.tokens.foldlM (advance? limit) (.value []) = some (.nothing value) :=
    reads_tokens value [] (by simpa using shallow)
  simp only [read?, write, String.toList_ofList, scanned, ofTokens?, run]

end Json

/-! ### What reading produces can be written -/

theorem digitsValue_lt {digits : List Char} (onlyDigits : ∀ char ∈ digits, char.isDigit = true) :
    digitsValue digits < Nat.pow 10 digits.length := by
  have grown : ∀ value,
      Nat.ofDigitChars 10 digits value < (value + 1) * Nat.pow 10 digits.length := by
    induction digits with
    | nil => exact fun value => by simp
    | cons char rest inductionHypothesis =>
      intro value
      have range : '0'.toNat ≤ char.toNat ∧ char.toNat ≤ '9'.toNat := by
        have digit := onlyDigits char List.mem_cons_self
        simpa [Char.isDigit, UInt32.le_iff_toNat_le] using digit
      have zero : '0'.toNat = 48 := rfl
      have nine : '9'.toNat = 57 := rfl
      rw [Nat.ofDigitChars_cons, List.length_cons]
      refine Nat.lt_of_lt_of_le (inductionHypothesis
        (fun char member => onlyDigits char (List.mem_cons_of_mem _ member)) _) ?_
      show _ ≤ (value + 1) * (Nat.pow 10 rest.length * 10)
      rw [Nat.mul_comm (Nat.pow 10 rest.length), ← Nat.mul_assoc]
      exact Nat.mul_le_mul_right _ (by omega)
  simpa [digitsValue] using grown 0

theorem decimalWidth_digitsValue {digits : List Char} (nonempty : digits ≠ [])
    (onlyDigits : ∀ char ∈ digits, char.isDigit = true) :
    Binary64.decimalWidth (digitsValue digits) ≤ digits.length :=
  (Nat.length_toDigits_le_iff (by decide) (List.length_pos_iff.mpr nonempty)).mpr
    (digitsValue_lt onlyDigits)

theorem scan?_whole {text : List Char} {literal : NumberLiteral}
    (scanned : NumberLiteral.scan? text = some literal) :
    literal.whole = text.takeWhile Char.isDigit := by
  unfold NumberLiteral.scan? at scanned
  simp only at scanned
  split at scanned
  · cases scanned
    rfl
  · split at scanned
    · obtain ⟨exponent, _, rfl⟩ := Option.map_eq_some_iff.mp scanned
      rfl
    · cases scanned

/-- A whole number of a document has no more digits than it is written with. -/
theorem decimalWidth_of_readNumeral? {text : List Char} {value : Int}
    (reads : readNumeral? text = some (.whole value)) :
    Binary64.decimalWidth value.natAbs ≤ digitLimit := by
  unfold readNumeral? at reads
  simp only at reads
  split at reads
  · cases reads
  rename_i literal scanned
  split at reads
  · cases reads
  rename_i accepted
  simp only [Bool.or_eq_true, not_or, decide_eq_true_eq, List.isEmpty_iff] at accepted
  split at reads
  · have onlyDigits : ∀ char ∈ literal.whole, char.isDigit = true := by
      rw [scan?_whole scanned]
      exact fun char member => List.all_eq_true.mp List.all_takeWhile char member
    have width : Binary64.decimalWidth (digitsValue literal.whole) ≤ digitLimit :=
      Nat.le_trans (decimalWidth_digitsValue accepted.1.1.1.2 onlyDigits)
        (Nat.le_of_not_lt accepted.2)
    injection reads with same
    injection same with same
    have magnitude : value.natAbs = digitsValue literal.whole := by
      split at same <;> omega
    rw [magnitude]
    exact width
  · cases reads

namespace Token

/-- Whether a token, if it is a whole number, can be written in a document. -/
def Legible : Token → Prop
  | .scalar value => value.toJson.Legible
  | _ => True

theorem legible_of_readWord? {word : List Char} {value : Scalar}
    (reads : readWord? word = some value) : value.toJson.Legible := by
  unfold readWord? at reads
  split at reads
  · cases reads
    trivial
  split at reads
  · cases reads
    trivial
  split at reads
  · cases reads
    trivial
  split at reads
  · cases reads
    trivial
  split at reads
  · cases reads
    trivial
  split at reads
  · cases reads
    trivial
  obtain ⟨numeral, found, rfl⟩ := Option.map_eq_some_iff.mp reads
  cases numeral with
  | whole value => exact Json.legible_int.mpr (decimalWidth_of_readNumeral? found)
  | real value => trivial

namespace Lexer

theorem legible_begin? {tokens : List Token} {char : Char} {next : Lexer}
    (legible : ∀ token ∈ tokens, token.Legible) (begun : begin? tokens char = some next) :
    ∀ token ∈ next.tokens, token.Legible := by
  unfold begin? at begun
  split at begun
  · cases begun
    exact legible
  split at begun
  · cases begun
    exact legible
  split at begun
  · cases begun
    exact legible
  obtain ⟨mark, found, rfl⟩ := Option.map_eq_some_iff.mp begun
  refine List.forall_mem_cons.mpr ⟨?_, legible⟩
  unfold punctuation? at found
  split at found <;> cases found <;> trivial

theorem tokens_closeUnit? {tokens : List Token} {reversed : List Char} {high : Option Nat}
    {unit : Nat} {next : Lexer} (closed : closeUnit? tokens reversed high unit = some next) :
    next.tokens = tokens := by
  unfold closeUnit? at closed
  split at closed
  · split at closed
    · cases closed
      rfl
    · cases closed
  · split at closed
    · cases closed
      rfl
    split at closed
    · cases closed
    · cases closed
      rfl

/-- One more character keeps the tokens legible. -/
theorem legible_feed? {lexer next : Lexer} {char : Char}
    (legible : ∀ token ∈ lexer.tokens, token.Legible) (fed : lexer.feed? char = some next) :
    ∀ token ∈ next.tokens, token.Legible := by
  obtain ⟨progress, tokens⟩ := lexer
  cases progress with
  | between => exact legible_begin? legible fed
  | word reversed =>
    simp only [feed?] at fed
    split at fed
    · cases fed
      exact legible
    · split at fed
      · rename_i value read
        have finished : (Token.scalar value).Legible := legible_of_readWord? read
        exact legible_begin? (List.forall_mem_cons.mpr ⟨finished, legible⟩) fed
      · cases fed
  | quoted reversed =>
    simp only [feed?] at fed
    split at fed
    · cases fed
      exact List.forall_mem_cons.mpr ⟨trivial, legible⟩
    split at fed
    · cases fed
      exact legible
    split at fed
    · cases fed
    · cases fed
      exact legible
  | escaped reversed =>
    simp only [feed?] at fed
    split at fed
    · cases fed
      exact legible
    · obtain ⟨meant, _, rfl⟩ := Option.map_eq_some_iff.mp fed
      exact legible
  | codeUnit reversed high missing value =>
    simp only [feed?] at fed
    split at fed
    · cases fed
    split at fed
    · rw [tokens_closeUnit? fed]
      exact legible
    · cases fed
      exact legible
  | afterHigh reversed high =>
    simp only [feed?] at fed
    split at fed
    · cases fed
      exact legible
    · cases fed
  | afterHighEscape reversed high =>
    simp only [feed?] at fed
    split at fed
    · cases fed
      exact legible
    · cases fed

theorem legible_feedAll? {lexer next : Lexer} {text : List Char}
    (legible : ∀ token ∈ lexer.tokens, token.Legible) (fed : lexer.feedAll? text = some next) :
    ∀ token ∈ next.tokens, token.Legible := by
  induction text generalizing lexer with
  | nil =>
    cases fed
    exact legible
  | cons char rest inductionHypothesis =>
    rw [feedAll?_cons] at fed
    obtain ⟨between, step, fed⟩ := Option.bind_eq_some_iff.mp fed
    exact inductionHypothesis (legible_feed? legible step) fed

end Lexer

theorem legible_scan? {text : List Char} {tokens : List Token}
    (scanned : scan? text = some tokens) : ∀ token ∈ tokens, token.Legible := by
  unfold scan? at scanned
  split at scanned
  · rename_i lexer fed
    have nothing : ∀ token ∈ (Lexer.mk .between []).tokens, token.Legible :=
      fun _ none => by cases none
    have legible := Lexer.legible_feedAll? nothing fed
    rw [Lexer.finish?_eq] at scanned
    obtain ⟨settled, found, rfl⟩ := Option.map_eq_some_iff.mp scanned
    have settledLegible : ∀ token ∈ settled, token.Legible := by
      unfold Lexer.settled? at found
      split at found
      · cases found
        exact legible
      · obtain ⟨value, read, rfl⟩ := Option.map_eq_some_iff.mp found
        exact List.forall_mem_cons.mpr ⟨legible_of_readWord? read, legible⟩
      · cases found
    exact fun token member => settledLegible token (List.mem_reverse.mp member)
  · cases scanned

end Token

namespace Json

/-- Whether the parts that an open container has so far can be written. -/
def Frame.Legible : Frame → Prop
  | .array items => ∀ item ∈ items, item.Legible
  | .object members _ => ∀ member ∈ members, member.2.Legible

/-- Whether all values that the reader holds can be written. -/
def Expecting.Legible : Expecting → Prop
  | .value stack | .firstItem stack | .firstName stack => ∀ frame ∈ stack, frame.Legible
  | .afterItem items stack => (∀ item ∈ items, item.Legible) ∧ ∀ frame ∈ stack, frame.Legible
  | .name members stack | .colon members _ stack | .afterMember members stack =>
    (∀ member ∈ members, member.2.Legible) ∧ ∀ frame ∈ stack, frame.Legible
  | .nothing root => root.Legible

theorem legible_place {value : Json} {stack : List Frame} (legible : value.Legible)
    (frames : ∀ frame ∈ stack, frame.Legible) : (place value stack).Legible := by
  cases stack with
  | nil => exact legible
  | cons frame rest =>
    obtain ⟨head, tail⟩ := List.forall_mem_cons.mp frames
    cases frame with
    | array items => exact ⟨List.forall_mem_cons.mpr ⟨legible, head⟩, tail⟩
    | object members name => exact ⟨List.forall_mem_cons.mpr ⟨legible, head⟩, tail⟩

theorem legible_beginValue? {stack : List Frame} {token : Token} {next : Expecting}
    (frames : ∀ frame ∈ stack, frame.Legible) (legible : token.Legible)
    (begun : beginValue? stack token = some next) : next.Legible := by
  unfold beginValue? at begun
  split at begun <;> cases begun
  · exact legible_place legible frames
  · exact frames
  · exact frames

/-- One more token keeps what the reader holds legible. -/
theorem legible_advance? {limit : Nat} {expecting next : Expecting} {token : Token}
    (held : expecting.Legible) (legible : token.Legible)
    (advanced : advance? limit expecting token = some next) : next.Legible := by
  unfold advance? at advanced
  split at advanced
  · exact legible_beginValue? held legible advanced
  · split at advanced
    · cases advanced
      exact legible_place (legible_arr.mpr (by simp)) held
    split at advanced
    · refine legible_beginValue? (List.forall_mem_cons.mpr ⟨?_, held⟩) legible advanced
      exact fun _ none => by cases none
    · cases advanced
  · cases advanced
    exact List.forall_mem_cons.mpr held
  · cases advanced
    refine legible_place (legible_arr.mpr fun item member => ?_) held.2
    exact held.1 item (List.mem_reverse.mp member)
  · cases advanced
    exact legible_place (legible_obj.mpr (by simp)) held
  · split at advanced
    · cases advanced
      exact ⟨(fun _ none => by cases none), held⟩
    · cases advanced
  · cases advanced
    exact held
  · cases advanced
    exact List.forall_mem_cons.mpr held
  · cases advanced
    exact held
  · cases advanced
    refine legible_place (legible_obj.mpr fun member inside => ?_) held.2
    exact held.1 member (List.mem_reverse.mp inside)
  · cases advanced

theorem legible_advanceAll? {limit : Nat} {expecting next : Expecting} {tokens : List Token}
    (held : expecting.Legible) (legible : ∀ token ∈ tokens, token.Legible)
    (advanced : advanceAll? limit expecting tokens = some next) : next.Legible := by
  induction tokens generalizing expecting with
  | nil =>
    cases advanced
    exact held
  | cons token rest inductionHypothesis =>
    obtain ⟨head, tail⟩ := List.forall_mem_cons.mp legible
    rw [advanceAll?_cons] at advanced
    obtain ⟨between, step, advanced⟩ := Option.bind_eq_some_iff.mp advanced
    exact inductionHypothesis (legible_advance? held head step) tail advanced

/-- Every value that was read from a text can be written again. -/
theorem legible_of_read? {limit : Nat} {text : String} {value : Json}
    (reads : read? limit text = some value) : value.Legible := by
  unfold read? at reads
  split at reads
  · rename_i tokens scanned
    unfold ofTokens? at reads
    split at reads
    · rename_i root run
      injection reads with same
      subst same
      have nothing : (Expecting.value []).Legible := fun _ none => by cases none
      have finished : (Expecting.nothing root).Legible :=
        legible_advanceAll? nothing (Token.legible_scan? scanned) run
      exact finished
    · cases reads
  · cases reads

end Json

end Formwork
