import TypeMismatch.Code
import TypeMismatch.CommandLine.Argument
import TypeMismatch.CommandLine.Grammar
import TypeMismatch.CommandLine.Reading
import TypeMismatch.Decimal.Notation
import TypeMismatch.Decimal.Shortest
import TypeMismatch.Diagnostic
import TypeMismatch.Edit.Distance
import TypeMismatch.Edit.Markup
import TypeMismatch.Edit.Script
import TypeMismatch.Entries
import TypeMismatch.Failure
import TypeMismatch.Files.Path
import TypeMismatch.Files.Tree
import TypeMismatch.Json.Display
import TypeMismatch.Json.Reader
import TypeMismatch.Json.Table
import TypeMismatch.Json.Value
import TypeMismatch.Json.Writer
import TypeMismatch.Layout
import TypeMismatch.Layout.Bracket
import TypeMismatch.Layout.Break
import TypeMismatch.Layout.Indent
import TypeMismatch.Layout.Spacing
import TypeMismatch.Layout.Wrap
import TypeMismatch.Main
import TypeMismatch.Mismatch
import TypeMismatch.Note
import TypeMismatch.Pattern.Compiled
import TypeMismatch.Pattern.Escape
import TypeMismatch.Pattern.Fault
import TypeMismatch.Pattern.Match
import TypeMismatch.Pattern.Parser
import TypeMismatch.Pattern.Piece
import TypeMismatch.Pattern.Scanner
import TypeMismatch.Pattern.SetParser
import TypeMismatch.Pattern.Start
import TypeMismatch.Pattern.Syntax
import TypeMismatch.Platform
import TypeMismatch.Proofs.Code
import TypeMismatch.Proofs.Diagnostic
import TypeMismatch.Proofs.Edit.Changes
import TypeMismatch.Proofs.Edit.CommonTail
import TypeMismatch.Proofs.Edit.Decoding
import TypeMismatch.Proofs.Edit.OneRow
import TypeMismatch.Proofs.Edit.PrefixDistance
import TypeMismatch.Proofs.Edit.Replay
import TypeMismatch.Proofs.Edit.ScriptCost
import TypeMismatch.Proofs.Entries
import TypeMismatch.Proofs.Failure
import TypeMismatch.Proofs.Json.Display
import TypeMismatch.Proofs.Json.Reader
import TypeMismatch.Proofs.Json.Table
import TypeMismatch.Proofs.Layout.Block
import TypeMismatch.Proofs.Layout.Break
import TypeMismatch.Proofs.Layout.Glyph
import TypeMismatch.Proofs.Layout.Indent
import TypeMismatch.Proofs.Layout.Lines
import TypeMismatch.Proofs.Layout.Margin
import TypeMismatch.Proofs.Layout.Neat
import TypeMismatch.Proofs.Layout.Nesting
import TypeMismatch.Proofs.Layout.Spacing
import TypeMismatch.Proofs.Layout.Stability
import TypeMismatch.Proofs.Layout.Words
import TypeMismatch.Proofs.Layout.Wrap
import TypeMismatch.Proofs.Pattern.Names
import TypeMismatch.Proofs.Pattern.Outline
import TypeMismatch.Proofs.Pattern.Passing
import TypeMismatch.Proofs.Pattern.Sentence
import TypeMismatch.Proofs.Pattern.Ways
import TypeMismatch.Proofs.Pattern.Whole
import TypeMismatch.Proofs.Request
import TypeMismatch.Proofs.Server
import TypeMismatch.Proofs.Session
import TypeMismatch.Proofs.Settings.File
import TypeMismatch.Proofs.Settings.Layer
import TypeMismatch.Proofs.Settings.Layering
import TypeMismatch.Proofs.Settings.Loading
import TypeMismatch.Proofs.Settings.Making
import TypeMismatch.Proofs.Settings.Validity
import TypeMismatch.Proofs.Suggestion
import TypeMismatch.Proofs.Summary.Array
import TypeMismatch.Proofs.Summary.ArrayType
import TypeMismatch.Proofs.Summary.Object
import TypeMismatch.Proofs.Summary.OneLine
import TypeMismatch.Proofs.Summary.Union
import TypeMismatch.Proofs.Summary.Width
import TypeMismatch.Proofs.Template.History
import TypeMismatch.Proofs.Template.Outline
import TypeMismatch.Proofs.Template.Priority
import TypeMismatch.Proofs.Template.Reading
import TypeMismatch.Proofs.Template.Set
import TypeMismatch.Proofs.Template.Standard
import TypeMismatch.Proofs.Template.StoredCode
import TypeMismatch.Proofs.Template.Validity
import TypeMismatch.Proofs.Template.Wording
import TypeMismatch.Proofs.Terminal.Palette
import TypeMismatch.Proofs.Terminal.Refusal
import TypeMismatch.Proofs.Text.Blank
import TypeMismatch.Proofs.Text.SingleSpace
import TypeMismatch.Proofs.Token.Cutting
import TypeMismatch.Proofs.Token.Lossless
import TypeMismatch.Proofs.Token.Printing
import TypeMismatch.Proofs.Token.Reading
import TypeMismatch.Proofs.Token.Spelling
import TypeMismatch.Rendering
import TypeMismatch.Report
import TypeMismatch.Server
import TypeMismatch.Server.Launch
import TypeMismatch.Session
import TypeMismatch.Settings
import TypeMismatch.Settings.File
import TypeMismatch.Settings.Merge
import TypeMismatch.Settings.Setting
import TypeMismatch.Settings.Value
import TypeMismatch.Suggestion
import TypeMismatch.Summary
import TypeMismatch.Summary.Array
import TypeMismatch.Template
import TypeMismatch.Template.Set
import TypeMismatch.Template.Standard
import TypeMismatch.Terminal.Invocation
import TypeMismatch.Terminal.Listing
import TypeMismatch.Terminal.Palette
import TypeMismatch.Terminal.Run
import TypeMismatch.Text.Blank
import TypeMismatch.Text.Capital
import TypeMismatch.Text.CodeRange
import TypeMismatch.Text.Digit
import TypeMismatch.Text.Identifier
import TypeMismatch.Text.Letter
import TypeMismatch.Text.LetterCase
import TypeMismatch.Text.Location
import TypeMismatch.Text.Printable
import TypeMismatch.Text.Quoted
import TypeMismatch.Text.Slice
import TypeMismatch.Token
import TypeMismatch.Token.Lexer
