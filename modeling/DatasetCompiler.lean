import DatasetCompiler.Text.CodeRange
import DatasetCompiler.Text.WordChar
import DatasetCompiler.Text.UpperCase
import DatasetCompiler.Text.Printable
import DatasetCompiler.Numeral.Binary64
import DatasetCompiler.Numeral.Shortest
import DatasetCompiler.Json.Value
import DatasetCompiler.Json.Token
import DatasetCompiler.Json.NumberLexer
import DatasetCompiler.Json.StringLexer
import DatasetCompiler.Json.Lexer
import DatasetCompiler.Json.Source
import DatasetCompiler.Json.Builder
import DatasetCompiler.Json.Path
import DatasetCompiler.Json
import DatasetCompiler.Options
import DatasetCompiler.Options.Reader
import DatasetCompiler.FieldType
import DatasetCompiler.QueryType
import DatasetCompiler.Definition.Error
import DatasetCompiler.Field
import DatasetCompiler.Query.Segment
import DatasetCompiler.Query
import DatasetCompiler.Model
import DatasetCompiler.Draft
import DatasetCompiler.Schema
import DatasetCompiler.Definition
import DatasetCompiler.Naming
import DatasetCompiler.Declaration
import DatasetCompiler.Fragment
import DatasetCompiler.Access
import DatasetCompiler.Statement
import DatasetCompiler.CLiteral
import DatasetCompiler.Filter
import DatasetCompiler.Artifact
import DatasetCompiler.Workbench
import DatasetCompiler.Proofs.Placeholder
import DatasetCompiler.Proofs.Segmentation
import DatasetCompiler.Proofs.Parameter
import DatasetCompiler.Proofs.Marker
import DatasetCompiler.Proofs.Joining
import DatasetCompiler.Proofs.Recompilation
import DatasetCompiler.Proofs.Renaming
import DatasetCompiler.Proofs.Fault
import DatasetCompiler.Proofs.KeyCheck
import DatasetCompiler.Proofs.UniqueKey
import DatasetCompiler.Proofs.Shape
import DatasetCompiler.Proofs.Violation
import DatasetCompiler.Proofs.Column
import DatasetCompiler.Proofs.Equivalence
import DatasetCompiler.Proofs.QueryGroup
import DatasetCompiler.Proofs.Provenance
import DatasetCompiler.Proofs.Storage
import DatasetCompiler.Proofs.KeyLookup
import DatasetCompiler.Proofs.NameEquation
import DatasetCompiler.Proofs.FunctionName
import DatasetCompiler.Proofs.ConstantName
import DatasetCompiler.Proofs.DatasetName
import DatasetCompiler.Proofs.Literal
import DatasetCompiler.Proofs.Lexing
import DatasetCompiler.Proofs.Delivery
import DatasetCompiler.Proofs.IncludeTarget
import DatasetCompiler.Proofs.FaultPlace
import DatasetCompiler.Proofs.ViolationPlace
import DatasetCompiler.Proofs.Grammar
import DatasetCompiler.Proofs.Spelling
import DatasetCompiler.Proofs.OptionsText
