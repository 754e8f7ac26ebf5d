import FormulaCube.Cell.Compilation
import FormulaCube.Cell.Ids
import FormulaCube.Cell.Job
import FormulaCube.Cell.Module
import FormulaCube.Cell.Settings
import FormulaCube.Cell.Version
import FormulaCube.Code.Declaration
import FormulaCube.Code.Expression
import FormulaCube.Code.Lexer
import FormulaCube.Code.Numeral
import FormulaCube.Code.Parts
import FormulaCube.Code.Quotation
import FormulaCube.Code.Reader
import FormulaCube.Code.Result
import FormulaCube.Code.Statement
import FormulaCube.Code.Token
import FormulaCube.Code.Tree
import FormulaCube.Code.WellFormed
import FormulaCube.CommandLine.Arguments
import FormulaCube.CommandLine.Command
import FormulaCube.CommandLine.Report
import FormulaCube.Config
import FormulaCube.Cube.Axes
import FormulaCube.Cube.Registry
import FormulaCube.Cube.Table
import FormulaCube.Failure
import FormulaCube.Files
import FormulaCube.Main
import FormulaCube.Markup.Content
import FormulaCube.Markup.Moment
import FormulaCube.Markup.Node
import FormulaCube.Markup.Scalar
import FormulaCube.Markup.Tag
import FormulaCube.Markup.Token
import FormulaCube.Number.Binary64
import FormulaCube.Number.Places
import FormulaCube.Number.Shortest
import FormulaCube.Run.Amount
import FormulaCube.Run.Arguments
import FormulaCube.Run.Callback
import FormulaCube.Run.CellMethods
import FormulaCube.Run.Classes
import FormulaCube.Run.CollectionMethods
import FormulaCube.Run.Collections
import FormulaCube.Run.Comparison
import FormulaCube.Run.Constants
import FormulaCube.Run.Conversion
import FormulaCube.Run.Cubes
import FormulaCube.Run.Entry
import FormulaCube.Run.Evaluation
import FormulaCube.Run.Execution
import FormulaCube.Run.Format
import FormulaCube.Run.Functions
import FormulaCube.Run.Giving
import FormulaCube.Run.Inspection
import FormulaCube.Run.Lineage
import FormulaCube.Run.Loading
import FormulaCube.Run.Machine
import FormulaCube.Run.MemberCalls
import FormulaCube.Run.Members
import FormulaCube.Run.Modules
import FormulaCube.Run.Operators
import FormulaCube.Run.Ordering
import FormulaCube.Run.Playing
import FormulaCube.Run.Race
import FormulaCube.Run.Reach
import FormulaCube.Run.Recording
import FormulaCube.Run.Registered
import FormulaCube.Run.Scope
import FormulaCube.Run.Shown
import FormulaCube.Run.Slots
import FormulaCube.Run.Special
import FormulaCube.Run.Standard
import FormulaCube.Run.TextMethods
import FormulaCube.Run.Trial
import FormulaCube.Run.Walk
import FormulaCube.Session
import FormulaCube.Shortcut.Coordinate
import FormulaCube.Shortcut.Expansion
import FormulaCube.Shortcut.Piece
import FormulaCube.Shortcut.Placeholder
import FormulaCube.Shortcut.Rule
import FormulaCube.Sorting
import FormulaCube.Source.Imports
import FormulaCube.Source.Indentation
import FormulaCube.Source.References
import FormulaCube.Text.Basic
import FormulaCube.Text.CharacterName
import FormulaCube.Text.CharacterName.Ancient
import FormulaCube.Text.CharacterName.Asian
import FormulaCube.Text.CharacterName.European
import FormulaCube.Text.CharacterName.Ideographic
import FormulaCube.Text.CharacterName.Supplement
import FormulaCube.Text.CharacterName.Symbol
import FormulaCube.Text.Digit
import FormulaCube.Text.Identifier
import FormulaCube.Text.Normal
import FormulaCube.Text.Normal.Mark
import FormulaCube.Text.Normal.Part
import FormulaCube.Text.Printable
import FormulaCube.Text.Quoted
import FormulaCube.Text.Ranges
import FormulaCube.Text.Sextets
import FormulaCube.Text.Word
import FormulaCube.Value.Basic
import FormulaCube.Value.Fault
import FormulaCube.Value.Key
import FormulaCube.Value.Order
import FormulaCube.Value.Written
import FormulaCube.World.Basic
import FormulaCube.World.Datum
import FormulaCube.World.Event
import FormulaCube.World.Playbook
import FormulaCube.Proofs.Calls.Collisions
import FormulaCube.Proofs.Calls.Hiding
import FormulaCube.Proofs.Calls.Reports
import FormulaCube.Proofs.Calls.States
import FormulaCube.Proofs.Code.Result
import FormulaCube.Proofs.Hoisting.Generation
import FormulaCube.Proofs.Lookup.Adoption
import FormulaCube.Proofs.Lookup.History
import FormulaCube.Proofs.Margin.Alignment
import FormulaCube.Proofs.Margin.Generation
import FormulaCube.Proofs.Nesting.Failing
import FormulaCube.Proofs.Nesting.Sequence
import FormulaCube.Proofs.Nesting.Stack
import FormulaCube.Proofs.Pieces.Comments
import FormulaCube.Proofs.Pieces.Lexical
import FormulaCube.Proofs.Pieces.Spans
import FormulaCube.Proofs.Pieces.Splitting
import FormulaCube.Proofs.Registry.Linear
import FormulaCube.Proofs.Remembering
import FormulaCube.Proofs.Shortcut.Balanced
import FormulaCube.Proofs.Shortcut.Lockstep
import FormulaCube.Proofs.Shortcut.Offsets
import FormulaCube.Proofs.Shortcut.Termination
import FormulaCube.Proofs.Shortcut.Translation
import FormulaCube.Proofs.Shortcut.Written
import FormulaCube.Proofs.Source.Extraction
import FormulaCube.Proofs.Source.Lines
