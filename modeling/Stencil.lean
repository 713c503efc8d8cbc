import Stencil.Blocks.Grammar
import Stencil.Blocks.Render
import Stencil.Blocks.Syntax
import Stencil.Blocks.Template
import Stencil.Blocks.Value
import Stencil.Command
import Stencil.CommandLine
import Stencil.Config.FileMode
import Stencil.Config.Format
import Stencil.Config.Read
import Stencil.Config.Readable
import Stencil.Context
import Stencil.Directive
import Stencil.Double
import Stencil.Double.Decimal
import Stencil.Double.Fixed
import Stencil.Double.Scaled
import Stencil.Double.Shortest
import Stencil.Engine
import Stencil.Engines
import Stencil.Engines.Standard
import Stencil.Environment
import Stencil.FieldType
import Stencil.Fields
import Stencil.FileAction
import Stencil.FileSystem
import Stencil.Generation
import Stencil.GenerationError
import Stencil.Helper
import Stencil.Json
import Stencil.Json.Notation
import Stencil.Json.Printer
import Stencil.Log
import Stencil.Macro
import Stencil.Macro.Alias
import Stencil.Macro.Shorthand
import Stencil.Macro.TagReference
import Stencil.Main
import Stencil.Model
import Stencil.Naming
import Stencil.Output
import Stencil.Path
import Stencil.PathTemplate
import Stencil.Plugin
import Stencil.Proofs.Config.FileMode
import Stencil.Proofs.Directive.RoundTrip
import Stencil.Proofs.Environment.Expansion
import Stencil.Proofs.FieldType.Base
import Stencil.Proofs.FieldType.Names
import Stencil.Proofs.FileSystem.Evolution
import Stencil.Proofs.FileSystem.Growth
import Stencil.Proofs.FileSystem.Permissions
import Stencil.Proofs.Generation.Action
import Stencil.Proofs.Generation.FailFast
import Stencil.Proofs.Generation.Footprint
import Stencil.Proofs.Generation.LastWrite
import Stencil.Proofs.Generation.Location
import Stencil.Proofs.Generation.Outputs
import Stencil.Proofs.Generation.PluginChain
import Stencil.Proofs.Generation.Repeat
import Stencil.Proofs.Generation.Replay
import Stencil.Proofs.Generation.Reports
import Stencil.Proofs.Generation.Selection
import Stencil.Proofs.Generation.Stages
import Stencil.Proofs.Generation.Summary
import Stencil.Proofs.Generation.Versions
import Stencil.Proofs.Generation.Writing
import Stencil.Proofs.Helper.Convention
import Stencil.Proofs.Helper.Projection
import Stencil.Proofs.Macro.Alias
import Stencil.Proofs.Macro.BlockHelper
import Stencil.Proofs.Macro.Literal
import Stencil.Proofs.Macro.Offset
import Stencil.Proofs.Macro.Reference
import Stencil.Proofs.Macro.Resolution
import Stencil.Proofs.Macro.Shorthand
import Stencil.Proofs.Macro.Standing
import Stencil.Proofs.Model.Equality
import Stencil.Proofs.Output.Failure
import Stencil.Proofs.Output.Sequence
import Stencil.Proofs.Path.Components
import Stencil.Proofs.Path.Extension
import Stencil.Proofs.Path.Parent
import Stencil.Proofs.Plugin.Registration
import Stencil.Proofs.Plugin.WorkingDir
import Stencil.Proofs.Registry.Build
import Stencil.Proofs.Registry.History
import Stencil.Proofs.Registry.Order
import Stencil.Proofs.Registry.Scan
import Stencil.Proofs.Registry.Validation
import Stencil.Proofs.Render.Reports
import Stencil.Proofs.Render.Templates
import Stencil.Proofs.Snippet.Collapse
import Stencil.Proofs.Snippet.Insertion
import Stencil.Proofs.Snippet.Layout
import Stencil.Proofs.Snippet.Marker
import Stencil.Proofs.Snippet.Reading
import Stencil.Proofs.Snippet.Span
import Stencil.Proofs.Text.Edit
import Stencil.Proofs.Text.Search
import Stencil.Proofs.Text.Slice
import Stencil.Proofs.Text.Trim
import Stencil.Registry
import Stencil.Render
import Stencil.RenderFault
import Stencil.Selection
import Stencil.Shell.Arithmetic
import Stencil.Shell.Builtin
import Stencil.Shell.EditScript
import Stencil.Shell.Evaluator
import Stencil.Shell.Executor
import Stencil.Shell.Expansion
import Stencil.Shell.FileName
import Stencil.Shell.Machine
import Stencil.Shell.Octets
import Stencil.Shell.Pattern
import Stencil.Shell.Program.Arguments
import Stencil.Shell.Program.Compare
import Stencil.Shell.Program.Condition
import Stencil.Shell.Program.Cut
import Stencil.Shell.Program.Digest
import Stencil.Shell.Program.Dump
import Stencil.Shell.Program.Files
import Stencil.Shell.Program.Find
import Stencil.Shell.Program.Grep
import Stencil.Shell.Program.Launch
import Stencil.Shell.Program.Lines
import Stencil.Shell.Program.Number
import Stencil.Shell.Program.Order
import Stencil.Shell.Program.Print
import Stencil.Shell.Program.Sed
import Stencil.Shell.Programs
import Stencil.Shell.Regex
import Stencil.Shell.Search
import Stencil.Shell.Session
import Stencil.Shell.Syntax
import Stencil.Shell.Syntax.Command
import Stencil.Shell.Syntax.Word
import Stencil.Snippet
import Stencil.Snippet.Marker
import Stencil.Statement.Arguments
import Stencil.Statement.Eval
import Stencil.Statement.Filter
import Stencil.Statement.Filter.Items
import Stencil.Statement.Filter.Link
import Stencil.Statement.Filter.Number
import Stencil.Statement.Filter.Text
import Stencil.Statement.Grammar
import Stencil.Statement.Path
import Stencil.Statement.Render
import Stencil.Statement.Syntax
import Stencil.Statement.Template
import Stencil.Statement.Test
import Stencil.Statement.Value
import Stencil.Text.Alphabetic
import Stencil.Text.CaseMapping
import Stencil.Text.Cased
import Stencil.Text.CharClass
import Stencil.Text.CharSet
import Stencil.Text.Expression
import Stencil.Text.Grapheme
import Stencil.Text.GraphemeBreak
import Stencil.Text.LetterCase
import Stencil.Text.Mark
import Stencil.Text.Numeric
import Stencil.Text.Parser
import Stencil.Text.Search
import Stencil.Text.Utf8
import Stencil.Toml.Document
import Stencil.Toml.Readable
import Stencil.Toml.Scalar
import Stencil.Toml.Value
import Stencil.Version
import Stencil.Warning
import Stencil.Yaml.Node
import Stencil.Yaml.Readable
import Stencil.Yaml.Scalar
import Stencil.Yaml.Token
import Stencil.Yaml.Token.Scan
