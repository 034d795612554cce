/-
This file defines what a converted form gets that its schema does not say.
-/

namespace Formwork

/-- The method of a converted form and the message of its patterns. Without one of them the form
has none either. -/
structure FormDefaults where
  method : Option String := some "POST"
  patternMessage : Option String := some "Invalid format"
  deriving DecidableEq, Repr

end Formwork
