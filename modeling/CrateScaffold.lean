import CrateScaffold.Binding.Annotation
import CrateScaffold.Binding.Basic
import CrateScaffold.Binding.Comment
import CrateScaffold.Binding.Discovery
import CrateScaffold.BuildScript.Block
import CrateScaffold.BuildScript.LineDiff
import CrateScaffold.BuildScript.Placeholder
import CrateScaffold.BuildScript.Publication
import CrateScaffold.BuildScript.Verdict
import CrateScaffold.Command.Execution
import CrateScaffold.Command.Invocation
import CrateScaffold.Command.Parameter
import CrateScaffold.Command.Program
import CrateScaffold.Command.Stop
import CrateScaffold.Console.Color
import CrateScaffold.Console.Emoji
import CrateScaffold.Console.Escape
import CrateScaffold.Console.Layout
import CrateScaffold.Console.Markup
import CrateScaffold.Console.Message
import CrateScaffold.Console.Style
import CrateScaffold.Console.Table
import CrateScaffold.Coordinates
import CrateScaffold.Decimal.Binary
import CrateScaffold.Decimal.Shortest
import CrateScaffold.Failure
import CrateScaffold.FileTree.Access
import CrateScaffold.FileTree.Basic
import CrateScaffold.FileTree.Path
import CrateScaffold.FileTree.Reading
import CrateScaffold.Log
import CrateScaffold.Main
import CrateScaffold.Manifest
import CrateScaffold.Native.Bundle
import CrateScaffold.Native.Fault
import CrateScaffold.Native.Library
import CrateScaffold.Plugin.Basic
import CrateScaffold.Plugin.Bundled
import CrateScaffold.Plugin.Contribution
import CrateScaffold.Plugin.Registry
import CrateScaffold.Project.Generation
import CrateScaffold.Project.Plan
import CrateScaffold.Project.Writing
import CrateScaffold.Proofs.Binding.Comment
import CrateScaffold.Proofs.Binding.Declaration
import CrateScaffold.Proofs.Binding.Discovery
import CrateScaffold.Proofs.Binding.Nesting
import CrateScaffold.Proofs.Binding.Transparency
import CrateScaffold.Proofs.Binding.Union
import CrateScaffold.Proofs.BuildScript.Assignment
import CrateScaffold.Proofs.BuildScript.Balanced
import CrateScaffold.Proofs.BuildScript.Block
import CrateScaffold.Proofs.BuildScript.BlockEnd
import CrateScaffold.Proofs.BuildScript.ExactLines
import CrateScaffold.Proofs.BuildScript.FirstBlock
import CrateScaffold.Proofs.BuildScript.Heading
import CrateScaffold.Proofs.BuildScript.Patch
import CrateScaffold.Proofs.BuildScript.Published
import CrateScaffold.Proofs.BuildScript.Readback
import CrateScaffold.Proofs.BuildScript.Rendering
import CrateScaffold.Proofs.BuildScript.Report
import CrateScaffold.Proofs.BuildScript.Substitution
import CrateScaffold.Proofs.BuildScript.Verdict
import CrateScaffold.Proofs.Command.Agreement
import CrateScaffold.Proofs.Command.Cleanliness
import CrateScaffold.Proofs.Command.Execution
import CrateScaffold.Proofs.Command.Indifference
import CrateScaffold.Proofs.Command.Line
import CrateScaffold.Proofs.Command.Resolution
import CrateScaffold.Proofs.Command.Verification
import CrateScaffold.Proofs.Command.Words
import CrateScaffold.Proofs.Console.Escape
import CrateScaffold.Proofs.Console.Layout
import CrateScaffold.Proofs.Console.Markup
import CrateScaffold.Proofs.Console.Table
import CrateScaffold.Proofs.Console.Verbatim
import CrateScaffold.Proofs.FileTree.Apart
import CrateScaffold.Proofs.FileTree.Difference
import CrateScaffold.Proofs.FileTree.Listing
import CrateScaffold.Proofs.FileTree.Location
import CrateScaffold.Proofs.FileTree.Making
import CrateScaffold.Proofs.FileTree.PathOrder
import CrateScaffold.Proofs.FileTree.PathText
import CrateScaffold.Proofs.FileTree.Room
import CrateScaffold.Proofs.Manifest.Shape
import CrateScaffold.Proofs.Native.Bundle
import CrateScaffold.Proofs.Native.Place
import CrateScaffold.Proofs.Plugin.Locality
import CrateScaffold.Proofs.Plugin.Registration
import CrateScaffold.Proofs.Plugin.Session
import CrateScaffold.Proofs.Project.Building
import CrateScaffold.Proofs.Project.Confinement
import CrateScaffold.Proofs.Project.Directories
import CrateScaffold.Proofs.Project.Generation
import CrateScaffold.Proofs.Project.Layout
import CrateScaffold.Proofs.Project.Loading
import CrateScaffold.Proofs.Project.Locality
import CrateScaffold.Proofs.Project.Plan
import CrateScaffold.Proofs.Project.Regeneration
import CrateScaffold.Proofs.Project.Rewriting
import CrateScaffold.Proofs.Project.Union
import CrateScaffold.Proofs.Project.Writing
import CrateScaffold.Proofs.Template.Coincidence
import CrateScaffold.Proofs.Template.Constants
import CrateScaffold.Proofs.Template.Coverage
import CrateScaffold.Proofs.Template.Environment
import CrateScaffold.Proofs.Template.Evaluation
import CrateScaffold.Proofs.Template.Frame
import CrateScaffold.Proofs.Template.Operation
import CrateScaffold.Proofs.Template.Piece
import CrateScaffold.Proofs.Template.Skeleton
import CrateScaffold.Proofs.Template.SkeletonParse
import CrateScaffold.Proofs.Template.SkeletonRun
import CrateScaffold.Proofs.Template.SkeletonScan
import CrateScaffold.Proofs.Template.Static
import CrateScaffold.Proofs.Text.Blank
import CrateScaffold.Proofs.Text.Break
import CrateScaffold.Proofs.Text.Line
import CrateScaffold.Proofs.Text.Occurrence
import CrateScaffold.Proofs.Text.Quoted
import CrateScaffold.Proofs.Value.Absence
import CrateScaffold.Proofs.World.Difference
import CrateScaffold.Proofs.World.Effect
import CrateScaffold.Reading
import CrateScaffold.Template.Check
import CrateScaffold.Template.Engine
import CrateScaffold.Template.Evaluation
import CrateScaffold.Template.Fault
import CrateScaffold.Template.Filter
import CrateScaffold.Template.Library
import CrateScaffold.Template.Literal
import CrateScaffold.Template.Named
import CrateScaffold.Template.Operation
import CrateScaffold.Template.Packaged
import CrateScaffold.Template.Parser
import CrateScaffold.Template.Rendering
import CrateScaffold.Template.Scan
import CrateScaffold.Template.Scope
import CrateScaffold.Template.Syntax
import CrateScaffold.Template.Token
import CrateScaffold.Text.Basic
import CrateScaffold.Text.Blank
import CrateScaffold.Text.Case
import CrateScaffold.Text.Identifier
import CrateScaffold.Text.Integer
import CrateScaffold.Text.Lines
import CrateScaffold.Text.Printable
import CrateScaffold.Text.Quoted
import CrateScaffold.Text.Utf8
import CrateScaffold.Text.Width
import CrateScaffold.Text.Word
import CrateScaffold.Toml.Document
import CrateScaffold.Toml.Number
import CrateScaffold.Toml.Parser
import CrateScaffold.Value.Basic
import CrateScaffold.Value.Comparison
import CrateScaffold.Value.Moment
import CrateScaffold.Value.Printing
import CrateScaffold.World
