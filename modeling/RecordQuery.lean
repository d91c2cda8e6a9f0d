import RecordQuery.Binary64.Basic
import RecordQuery.Binary64.Scaling
import RecordQuery.Binary64.Shortest
import RecordQuery.Binding
import RecordQuery.ColumnType
import RecordQuery.CompareOp
import RecordQuery.Debug
import RecordQuery.Decimal
import RecordQuery.Expr.Basic
import RecordQuery.Expr.Literal
import RecordQuery.Expr.Parser
import RecordQuery.FieldMapping
import RecordQuery.FieldType
import RecordQuery.Json.Basic
import RecordQuery.Json.Mapping
import RecordQuery.Json.Number
import RecordQuery.Json.Pointer
import RecordQuery.Json.Reader
import RecordQuery.Numeral.Basic
import RecordQuery.Numeral.RoundTrip
import RecordQuery.Predicate.Basic
import RecordQuery.Predicate.Stream
import RecordQuery.Predicate.ValueTest
import RecordQuery.Query
import RecordQuery.QueryError
import RecordQuery.Registry.Basic
import RecordQuery.Registry.Builder
import RecordQuery.Row.Basic
import RecordQuery.Row.Mapping
import RecordQuery.Token.Basic
import RecordQuery.Token.Lexeme
import RecordQuery.Token.Lexer
import RecordQuery.Token.Literal
import RecordQuery.Unicode.Alphabetic
import RecordQuery.Unicode.Alphanumeric
import RecordQuery.Unicode.Cased
import RecordQuery.Unicode.CodeRanges
import RecordQuery.Unicode.LowerCase
import RecordQuery.Unicode.Printable
import RecordQuery.Unicode.WhiteSpace
import RecordQuery.Value
import RecordQuery.Proofs.Declaration
import RecordQuery.Proofs.ExactValue
import RecordQuery.Proofs.TermMeaning
import RecordQuery.Proofs.QuerySemantics
import RecordQuery.Proofs.Characters
import RecordQuery.Proofs.Spelling
import RecordQuery.Proofs.Tokenization
import RecordQuery.Proofs.LookAhead
import RecordQuery.Proofs.Grammar
import RecordQuery.Proofs.FirstOffence
import RecordQuery.Proofs.DisplayRoundTrip
import RecordQuery.Proofs.TypedBinding
import RecordQuery.Proofs.ForeignValue
import RecordQuery.Proofs.ByteOrder
import RecordQuery.Proofs.RegistryContents
import RecordQuery.Proofs.LetterCase
import RecordQuery.Proofs.NameMatching
import RecordQuery.Proofs.Coverage
import RecordQuery.Proofs.Respacing
import RecordQuery.Proofs.Numbers
import RecordQuery.Proofs.BindingTable
import RecordQuery.Proofs.Gating
import RecordQuery.Proofs.BooleanForms
import RecordQuery.Proofs.DocumentNumbers
import RecordQuery.Proofs.EqualNumbers
import RecordQuery.Proofs.RegistrationOrder
import RecordQuery.Proofs.PointerCollections
import RecordQuery.Proofs.Rounding
import RecordQuery.Proofs.ExactReading
import RecordQuery.Proofs.RepeatedReading
import RecordQuery.Proofs.RepeatedCalls
import RecordQuery.Proofs.LexerProgress
import RecordQuery.Proofs.RemainingText
import RecordQuery.Proofs.LazyFiltering
import RecordQuery.Proofs.FixedValues
