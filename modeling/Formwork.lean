/-
This library converts JSON Schema documents into form definitions and checks that
form definitions are consistent before they are rendered.
-/

import Formwork.Main
import Formwork.Session
import Formwork.Tool.Server
import Formwork.Proofs.Form.Text
import Formwork.Proofs.Conversion.Valid
import Formwork.Proofs.Check.Outline
import Formwork.Proofs.Pipeline
import Formwork.Proofs.Tool.Agreement
import Formwork.Proofs.Decoding.Grammar
import Formwork.Proofs.Schema.Roles
import Formwork.Proofs.Schema.Sources
import Formwork.Proofs.Form.Sources
import Formwork.Proofs.Decoding.Sources
import Formwork.Proofs.Conversion.Correspondence
import Formwork.Proofs.Conversion.Complaints
import Formwork.Proofs.Check.Names
import Formwork.Proofs.Check.Rules
import Formwork.Proofs.Conversion.Alike
import Formwork.Proofs.Decoding.Related
import Formwork.Proofs.Decoding.Hollow
import Formwork.Proofs.Schema.Reordering
import Formwork.Proofs.Schema.Interchange
import Formwork.Proofs.KeyOrder
import Formwork.Proofs.Schema.Unknown
import Formwork.Proofs.Conversion.Interpreted
import Formwork.Proofs.Conversion.Reread
import Formwork.Proofs.Tool.Export
import Formwork.Proofs.Check.Indifference
import Formwork.Proofs.Check.Options
import Formwork.Proofs.Check.Rearrangement
import Formwork.Proofs.Conversion.Rules
import Formwork.Proofs.Check.Scope
import Formwork.Proofs.Conversion.Unions
import Formwork.Proofs.Schema.RoundTrip
import Formwork.Proofs.Form.NormalForm
import Formwork.Proofs.Tool.Methods
import Formwork.Proofs.Check.Relative
