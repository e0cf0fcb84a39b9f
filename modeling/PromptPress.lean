import PromptPress.Cache.Recent
import PromptPress.Compiler.Basic
import PromptPress.Compiler.Build
import PromptPress.Compiler.Import
import PromptPress.Compiler.Source
import PromptPress.Decimal.Fixed
import PromptPress.Decimal.Shortest
import PromptPress.Error
import PromptPress.Files.Decoding
import PromptPress.Files.Glob
import PromptPress.Files.Path
import PromptPress.Files.Tree
import PromptPress.Html.Blocks
import PromptPress.Html.Entity
import PromptPress.Html.Reference
import PromptPress.Html.Tag
import PromptPress.Html.Token
import PromptPress.Html.Tree
import PromptPress.Json.Basic
import PromptPress.Json.Reader
import PromptPress.Json.Writer
import PromptPress.Log.Event
import PromptPress.Log.Failure
import PromptPress.Log.File
import PromptPress.Log.Line
import PromptPress.Log.Wording
import PromptPress.Markdown.Code
import PromptPress.Markdown.Definition
import PromptPress.Markdown.Document
import PromptPress.Markdown.Draft
import PromptPress.Markdown.Emphasis
import PromptPress.Markdown.Escape
import PromptPress.Markdown.Fence
import PromptPress.Markdown.Heading
import PromptPress.Markdown.Inline
import PromptPress.Markdown.Layout
import PromptPress.Markdown.Link
import PromptPress.Markdown.List
import PromptPress.Markdown.Memory
import PromptPress.Markdown.Pattern
import PromptPress.Markdown.Quote
import PromptPress.Markdown.RawBlock
import PromptPress.Markdown.Table
import PromptPress.Markdown.Tag
import PromptPress.Pass.Basic
import PromptPress.Pass.Comments
import PromptPress.Pass.Frontmatter
import PromptPress.Pass.Pipeline
import PromptPress.Placeholder.Basic
import PromptPress.Placeholder.Diagnosis
import PromptPress.Placeholder.Extract
import PromptPress.PlainText.Shield
import PromptPress.PlainText.Strip
import PromptPress.Proofs.Cache.Capacity
import PromptPress.Proofs.Cache.History
import PromptPress.Proofs.Cache.Recent
import PromptPress.Proofs.Compiler.Artifact
import PromptPress.Proofs.Compiler.Blame
import PromptPress.Proofs.Compiler.Build
import PromptPress.Proofs.Compiler.Cached
import PromptPress.Proofs.Compiler.Collapse
import PromptPress.Proofs.Compiler.Entries
import PromptPress.Proofs.Compiler.Failure
import PromptPress.Proofs.Compiler.History
import PromptPress.Proofs.Compiler.Lasting
import PromptPress.Proofs.Compiler.Options
import PromptPress.Proofs.Compiler.Outcome
import PromptPress.Proofs.Compiler.Override
import PromptPress.Proofs.Compiler.Parameters
import PromptPress.Proofs.Compiler.Program
import PromptPress.Proofs.Compiler.Readable
import PromptPress.Proofs.Files.Tree
import PromptPress.Proofs.Html.Blocks
import PromptPress.Proofs.Html.Segments
import PromptPress.Proofs.Html.Void
import PromptPress.Proofs.Json.Reading
import PromptPress.Proofs.Placeholder.Declaration
import PromptPress.Proofs.Placeholder.Extraction
import PromptPress.Proofs.Placeholder.Merge
import PromptPress.Proofs.PlainText.Escapes
import PromptPress.Proofs.PlainText.Fresh
import PromptPress.Proofs.PlainText.Layout
import PromptPress.Proofs.PlainText.Readable
import PromptPress.Proofs.PlainText.Restore
import PromptPress.Proofs.PlainText.Runs
import PromptPress.Proofs.PlainText.Sentinel
import PromptPress.Proofs.PlainText.Transparent
import PromptPress.Proofs.Slot.Decomposition
import PromptPress.Proofs.Slot.Grammar
import PromptPress.Proofs.Slot.Joining
import PromptPress.Proofs.Slot.Literal
import PromptPress.Proofs.Slot.Occurrence
import PromptPress.Proofs.Slot.Reading
import PromptPress.Proofs.Slot.Runs
import PromptPress.Proofs.Slot.Words
import PromptPress.Proofs.Target.Agreement
import PromptPress.Proofs.Target.Constant
import PromptPress.Proofs.Target.Escape
import PromptPress.Proofs.Target.Python
import PromptPress.Proofs.Target.Signature
import PromptPress.Proofs.Target.TypeScript
import PromptPress.Proofs.Template.Frame
import PromptPress.Proofs.Template.Interpolation
import PromptPress.Proofs.Template.Quotation
import PromptPress.Proofs.Template.Splitting
import PromptPress.Proofs.Text.Digits
import PromptPress.Proofs.Text.Layout
import PromptPress.Proofs.Text.Parts
import PromptPress.Proofs.Text.Trimmed
import PromptPress.Proofs.Text.Words
import PromptPress.Proofs.Workspace.Run
import PromptPress.Proofs.Workspace.View
import PromptPress.Session.Basic
import PromptPress.Settings.Basic
import PromptPress.Settings.EnvFile
import PromptPress.Settings.Load
import PromptPress.Settings.Validation
import PromptPress.Slot.Around
import PromptPress.Slot.Basic
import PromptPress.Slot.Scan
import PromptPress.Target.Basic
import PromptPress.Target.Python
import PromptPress.Target.TypeScript
import PromptPress.Template.Artifact
import PromptPress.Template.Render
import PromptPress.Template.Segment
import PromptPress.Text.Around
import PromptPress.Text.Basic
import PromptPress.Text.Blank
import PromptPress.Text.Case
import PromptPress.Text.CodeRanges
import PromptPress.Text.Digit
import PromptPress.Text.Lines
import PromptPress.Text.Printable
import PromptPress.Text.Quoted
import PromptPress.Text.Word
import PromptPress.Workspace.Basic
import PromptPress.Proofs.Target.Fields
import PromptPress.Proofs.Placeholder.Diagnosis
import PromptPress.Proofs.Target.Unambiguous
import PromptPress.Proofs.Markdown.Pattern
import PromptPress.Proofs.Pass.Frontmatter
import PromptPress.Proofs.PlainText.Protection
import PromptPress.Proofs.Workspace.Defaults
import PromptPress.Proofs.Log.Failure
import PromptPress.Proofs.Compiler.Alone
import PromptPress.Proofs.Compiler.Batch
