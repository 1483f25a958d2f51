import WireBridge.Assembly.Basic
import WireBridge.Assembly.Dependents
import WireBridge.Assembly.Plan
import WireBridge.Assembly.Tracing
import WireBridge.Code.Block
import WireBridge.Code.Expr
import WireBridge.Code.Native
import WireBridge.CommandLine.Command
import WireBridge.CommandLine.Emoji
import WireBridge.CommandLine.Emoji.Table
import WireBridge.CommandLine.Help
import WireBridge.CommandLine.JsonTree
import WireBridge.CommandLine.Literal
import WireBridge.CommandLine.Literal.Token
import WireBridge.CommandLine.Markup
import WireBridge.CommandLine.Options
import WireBridge.CommandLine.Outcome
import WireBridge.CommandLine.Report
import WireBridge.CommandLine.Style
import WireBridge.CommandLine.Style.Color
import WireBridge.CommandLine.Table
import WireBridge.CommandLine.WorkTree
import WireBridge.Conversion.Fields
import WireBridge.Conversion.Native
import WireBridge.Conversion.Scope
import WireBridge.Conversion.Values
import WireBridge.Decimal.Binary64
import WireBridge.Decimal.Reading
import WireBridge.Decimal.Shortest
import WireBridge.Decision.Absence
import WireBridge.Decision.Basic
import WireBridge.Decision.Selection
import WireBridge.Decision.Strategy
import WireBridge.Definition.Basic
import WireBridge.Definition.Parser
import WireBridge.Definition.Reading
import WireBridge.Definition.Terminal
import WireBridge.Definition.Validation
import WireBridge.Descriptor.Directives
import WireBridge.Descriptor.Enum
import WireBridge.Descriptor.Field
import WireBridge.Descriptor.Record
import WireBridge.Enum.Mapping
import WireBridge.Enum.Matching
import WireBridge.Located
import WireBridge.Main
import WireBridge.Naming
import WireBridge.Output.Generation
import WireBridge.Output.Imports
import WireBridge.Output.Module
import WireBridge.Problem
import WireBridge.Proofs.Assembly.Absence
import WireBridge.Proofs.Assembly.BulkIgnore
import WireBridge.Proofs.Assembly.Defaults
import WireBridge.Proofs.Assembly.Dependents
import WireBridge.Proofs.Assembly.DirectiveOrder
import WireBridge.Proofs.Assembly.EmptyBranches
import WireBridge.Proofs.Assembly.Errors
import WireBridge.Proofs.Assembly.Fields
import WireBridge.Proofs.Assembly.Functions
import WireBridge.Proofs.Assembly.Isolation
import WireBridge.Proofs.Assembly.Order
import WireBridge.Proofs.Assembly.OtherDirection
import WireBridge.Proofs.Assembly.Plan
import WireBridge.Proofs.Assembly.Reports
import WireBridge.Proofs.Assembly.Restriction
import WireBridge.Proofs.Assembly.Rounds
import WireBridge.Proofs.Assembly.Stages
import WireBridge.Proofs.Assembly.Survival
import WireBridge.Proofs.Assembly.Totality
import WireBridge.Proofs.Assembly.Tracing
import WireBridge.Proofs.Assembly.WireNames
import WireBridge.Proofs.Code.Block
import WireBridge.Proofs.Code.Variables
import WireBridge.Proofs.CommandLine.Arguments
import WireBridge.Proofs.CommandLine.Verdicts
import WireBridge.Proofs.Conversion.Agreement
import WireBridge.Proofs.Conversion.ByLookUp
import WireBridge.Proofs.Conversion.ByText
import WireBridge.Proofs.Conversion.Defaults
import WireBridge.Proofs.Conversion.Functions
import WireBridge.Proofs.Conversion.Leaves
import WireBridge.Proofs.Conversion.Placement
import WireBridge.Proofs.Conversion.Scoping
import WireBridge.Proofs.Conversion.Tests
import WireBridge.Proofs.Conversion.Texts
import WireBridge.Proofs.Conversion.Types
import WireBridge.Proofs.Decision.ErrorFunctions
import WireBridge.Proofs.Decision.Rules
import WireBridge.Proofs.Definition.Grammar
import WireBridge.Proofs.Definition.Layout
import WireBridge.Proofs.Definition.Printing
import WireBridge.Proofs.Definition.Reading
import WireBridge.Proofs.Definition.Terminal
import WireBridge.Proofs.Definition.Token
import WireBridge.Proofs.Definition.Unambiguous
import WireBridge.Proofs.Definition.Validation
import WireBridge.Proofs.Definition.Values
import WireBridge.Proofs.Definition.WellFormed
import WireBridge.Proofs.Descriptor.ByLookUp
import WireBridge.Proofs.Descriptor.Directives
import WireBridge.Proofs.Descriptor.Modules
import WireBridge.Proofs.Descriptor.Placement
import WireBridge.Proofs.Descriptor.Reading
import WireBridge.Proofs.Descriptor.References
import WireBridge.Proofs.Descriptor.Source
import WireBridge.Proofs.Enum.Collisions
import WireBridge.Proofs.Enum.Matching
import WireBridge.Proofs.Enum.Native
import WireBridge.Proofs.Output.Bindings
import WireBridge.Proofs.Output.Comments
import WireBridge.Proofs.Output.Imports
import WireBridge.Proofs.Output.Integrity
import WireBridge.Proofs.Output.Names
import WireBridge.Proofs.Output.RegularNames
import WireBridge.Proofs.Problem.Ensures
import WireBridge.Proofs.Problem.Partial
import WireBridge.Proofs.Problem.Placement
import WireBridge.Proofs.Problem.Wording
import WireBridge.Proofs.Shape.Agreement
import WireBridge.Proofs.Shape.Parts
import WireBridge.Proofs.Shape.Raw
import WireBridge.Proofs.Shape.Tree
import WireBridge.Proofs.Text.Brackets
import WireBridge.Proofs.Text.CamelCase
import WireBridge.Proofs.Text.LongLiteral
import WireBridge.Proofs.Text.Naming
import WireBridge.Proofs.Text.Written
import WireBridge.Reference
import WireBridge.Settings
import WireBridge.Shape.Basic
import WireBridge.Shape.Classify
import WireBridge.Support.ErrorClass
import WireBridge.Support.Package
import WireBridge.Text.Blank
import WireBridge.Text.Casing
import WireBridge.Text.Casing.Table
import WireBridge.Text.CharacterName
import WireBridge.Text.CharacterName.Alphabets
import WireBridge.Text.CharacterName.Ancient
import WireBridge.Text.CharacterName.EastAsian
import WireBridge.Text.CharacterName.Others
import WireBridge.Text.CharacterName.Pictures
import WireBridge.Text.CharacterName.Scripts
import WireBridge.Text.CharacterName.Symbols
import WireBridge.Text.Digit
import WireBridge.Text.Escape
import WireBridge.Text.Glob
import WireBridge.Text.Hexadecimal
import WireBridge.Text.Identifier
import WireBridge.Text.Lines
import WireBridge.Text.Order
import WireBridge.Text.Printable
import WireBridge.Text.Quoted
import WireBridge.Text.Width
import WireBridge.Text.Width.Table
import WireBridge.Text.Word
import WireBridge.Text.Wrap
import WireBridge.Value
