import Narrowing.Corpus
import Narrowing.Either
import Narrowing.Guard.Shape
import Narrowing.Main
import Narrowing.Proofs.Guard.Agreement
import Narrowing.Proofs.Guard.Deciding
import Narrowing.Proofs.Guard.Combined
import Narrowing.Proofs.Key.Order
import Narrowing.Proofs.Value.History
import Narrowing.Proofs.Value.OwnKeys
import Narrowing.Proofs.Value.Origin
import Narrowing.Proofs.Value.FunctionKeys
import Narrowing.Proofs.Value.Written
import Narrowing.Proofs.Number.Whole
import Narrowing.Proofs.Number.RoundTrip
import Narrowing.Proofs.Number.Numeral
import Narrowing.Proofs.Number.Nearest
import Narrowing.Proofs.Number.WholeText
import Narrowing.Proofs.Key.Naming
import Narrowing.Proofs.Key.Text
import Narrowing.Proofs.Key.Number
import Narrowing.Proofs.Key.NumberText
import Narrowing.Proofs.Token.ReadBack
import Narrowing.Proofs.Class.Session
import Narrowing.Proofs.Class.Instance
import Narrowing.Proofs.Class.InstanceOf
import Narrowing.Proofs.Guard.Description
import Narrowing.Proofs.Guard.Trace
import Narrowing.Proofs.Guard.Presence
import Narrowing.Proofs.Guard.Boxed
import Narrowing.Proofs.Value.Population
import Narrowing.Proofs.Value.Ancestry
import Narrowing.Proofs.Guard.ShapeOrder
import Narrowing.Proofs.Guard.Structural
import Narrowing.Proofs.Declaration.Lexeme
import Narrowing.Proofs.Declaration.Syntax
import Narrowing.Proofs.Declaration.Parsing
import Narrowing.Proofs.Declaration.Implementation
import Narrowing.Proofs.Declaration.Typing
import Narrowing.Proofs.Declaration.Program
import Narrowing.Proofs.Number.Threshold
import Narrowing.Proofs.Key.Canonical
import Narrowing.Proofs.Number.Reading
import Narrowing.Proofs.Number.Minimal
import Narrowing.Proofs.Number.StandardText
import Narrowing.Proofs.Guard.Collection
import Narrowing.Proofs.Guard.OptionalFields
import Narrowing.Proofs.Guard.Negation
import Narrowing.Proofs.Text.Numeral
import Narrowing.Proofs.Number.KeyNumeral
import Narrowing.Proofs.Declaration.File
import Narrowing.Proofs.Guard.Membership
import Narrowing.Proofs.Text.Base64
import Narrowing.Proofs.Key.Display
import Narrowing.Proofs.Token.Delivery
import Narrowing.Proofs.Token.Json
import Narrowing.Proofs.Declaration.Command
import Narrowing.Proofs.Symbol.Identity
