import Provision.Command.Assignment
import Provision.Command.Execute
import Provision.Command.Options
import Provision.Command.Session
import Provision.Display.Cells
import Provision.Display.Console
import Provision.Display.Control
import Provision.Display.Emoji
import Provision.Display.Handler
import Provision.Display.Markup
import Provision.Display.Panel
import Provision.Display.Spanned
import Provision.Display.StyleName
import Provision.Display.Styled
import Provision.Display.Summary
import Provision.Display.Wrap
import Provision.Double.Basic
import Provision.Double.Decimal
import Provision.Driver.Basic
import Provision.Driver.Catalogue
import Provision.Driver.Tree
import Provision.Files.Path
import Provision.Files.Store
import Provision.Json.Error
import Provision.Json.Reader
import Provision.Json.Writer
import Provision.Literal.Escape
import Provision.Literal.Failure
import Provision.Literal.Fault
import Provision.Literal.Field
import Provision.Literal.Grammar
import Provision.Literal.Node
import Provision.Literal.Number
import Provision.Literal.Quotation
import Provision.Literal.Reader
import Provision.Literal.Token
import Provision.Log
import Provision.Main
import Provision.Proofs.Command.Assignment
import Provision.Proofs.Command.Complaint
import Provision.Proofs.Command.Run
import Provision.Proofs.Display.Layout
import Provision.Proofs.Display.Line
import Provision.Proofs.Display.Literal
import Provision.Proofs.Double.Rounding
import Provision.Proofs.Double.Shortest
import Provision.Proofs.Driver.Leaves
import Provision.Proofs.Driver.Updates
import Provision.Proofs.Except
import Provision.Proofs.Files.Store
import Provision.Proofs.Json.Depth
import Provision.Proofs.Json.Number
import Provision.Proofs.Json.Quotation
import Provision.Proofs.Json.RoundTrip
import Provision.Proofs.Json.Sound
import Provision.Proofs.Report.Marks
import Provision.Proofs.Report.Reload
import Provision.Proofs.Report.Summary
import Provision.Proofs.Run.Abort
import Provision.Proofs.Run.Consistency
import Provision.Proofs.Run.DryRun
import Provision.Proofs.Run.Failure
import Provision.Proofs.Run.Independence
import Provision.Proofs.Run.Invariant
import Provision.Proofs.Run.Recorded
import Provision.Proofs.Run.Replay
import Provision.Proofs.Run.Resolution
import Provision.Proofs.Run.Step
import Provision.Proofs.Run.Substitution
import Provision.Proofs.Run.Trace
import Provision.Proofs.RunId.Digits
import Provision.Proofs.RunId.Growth
import Provision.Proofs.RunId.Range
import Provision.Proofs.Shape.Checked
import Provision.Proofs.Table
import Provision.Proofs.Template.Agreement
import Provision.Proofs.Template.Aliases
import Provision.Proofs.Template.Apart
import Provision.Proofs.Template.Canonical
import Provision.Proofs.Template.Holes
import Provision.Proofs.Template.Literals
import Provision.Proofs.Template.Names
import Provision.Proofs.Template.Order
import Provision.Proofs.Template.Overrides
import Provision.Proofs.Template.Passes
import Provision.Proofs.Template.Questions
import Provision.Proofs.Template.Records
import Provision.Proofs.Template.Reload
import Provision.Proofs.Template.Stages
import Provision.Proofs.Template.Stored
import Provision.Proofs.Text.Cut
import Provision.Proofs.Text.Order
import Provision.Proofs.Text.Plain
import Provision.Proofs.Text.Spelled
import Provision.Proofs.Time.Calendar
import Provision.Proofs.Time.Moment
import Provision.Proofs.Value.Equality
import Provision.Proofs.Value.Nested
import Provision.Proofs.Value.Shown
import Provision.Report.Basic
import Provision.Report.Stored
import Provision.Run.Basic
import Provision.Run.Scope
import Provision.RunId.Basic
import Provision.RunId.Clock
import Provision.RunId.Generator
import Provision.Settings.Basic
import Provision.Settings.Environment
import Provision.Settings.Logging
import Provision.Settings.VariableFile
import Provision.Shape.Basic
import Provision.Table
import Provision.Template.Basic
import Provision.Template.Load
import Provision.Template.Passes
import Provision.Template.Stored
import Provision.Text.Blank
import Provision.Text.Case
import Provision.Text.Cased
import Provision.Text.CharacterName
import Provision.Text.CharacterNames
import Provision.Text.Integer
import Provision.Text.Letters
import Provision.Text.Lines
import Provision.Text.Names
import Provision.Text.Point
import Provision.Text.Printable
import Provision.Text.Quoted
import Provision.Text.Ranges
import Provision.Text.Unencodable
import Provision.Text.Utf8
import Provision.Time.Calendar
import Provision.Time.Moment
import Provision.Time.Reader
import Provision.Value.Basic
import Provision.Value.Show
