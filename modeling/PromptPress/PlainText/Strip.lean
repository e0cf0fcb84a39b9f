import PromptPress.Html.Blocks
import PromptPress.Markdown.Document
import PromptPress.PlainText.Shield
import PromptPress.Pass.Pipeline
import PromptPress.Workspace.Basic

/-!
# Plain text of a document

The plain text of a document is the text of its page, one piece for each block, with an empty line
between each two.  Slots are shielded while the page is made.  A document that cannot be rendered
is kept as it is.

A document is read after its passes have run, and in the end its blanks are collapsed or only those
at its ends are taken off.
-/

namespace PromptPress.PlainText

/-- What separates blocks. -/
def blockSeparator : Text := "\n\n"

/-- The text of a page, with the slots put back. -/
def ofPage (shield : Shield) (page : Text) : Except Error Text :=
  match Html.parse page with
  | .error e => .error e
  | .ok nodes => shield.restore (Text.joinWith blockSeparator (Html.blocks nodes))

/-- The rules of Markdown that are listed, with the value each of them has; emphasis inside words is
switched off, unless it is listed. -/
def ruleValues (names : List Text) : List (Text × Json) :=
  let listed := names.eraseDups.map fun n => (n, Json.null)
  let middle : Text := "middle-word-em"
  if names.contains middle then listed else listed ++ [(middle, .bool false)]

/-- The report about a document that cannot be rendered. -/
def unrenderedEvent (s message : Text) : Log.Event :=
  ⟨"MarkdownStringifier", .warning, "Markdown rendering failed, keeping source text",
    [("error", .str message), ("preview", .str (Text.preview Text.previewWidth s))]⟩

/-- Takes the formatting out of a text. -/
def strip (rules : List Text) (s : Text) : Job Text := do
  let shield := Shield.ofText (Shield.freshMark s) s
  match Markdown.render (.ofNames rules) shield.text with
  | .error message =>
    Job.report (unrenderedEvent s message)
    return s
  | .ok page => Job.ofExcept (ofPage shield page)

/-- How a document is made plain. -/
structure Options where
  /-- Are runs of blanks collapsed? -/
  collapse : Bool := true
  /-- The passes that run first; without them the default passes do. -/
  passes : Option (List (Option Pass)) := none
  /-- The rules of Markdown, where they differ from those that are set up. -/
  rules : Option (List Text) := none

/-- The rules of Markdown of a name list, or those of the settings. -/
def rulesOr (rules : Option (List Text)) : Job (List Text) := do
  match rules with
  | some names => return names
  | none => return (← Job.settings).value.markdownExtras

/-- The report about a document that was made plain. -/
def plainEvent (sourceName : Option Text) (passes : Nat) (collapse : Bool) (s : Text) : Log.Event :=
  ⟨"MarkdownStringifier", .debug, "Stringified markdown",
    [("source_name", Json.ofText? sourceName), ("passes", .int passes),
      ("collapsed", .bool collapse), ("preview", .str (Text.preview Text.previewWidth s))]⟩

/-- Runs the passes of a list of entries on a text, and reports on them. -/
def runPasses (sourceName : Option Text) (entries : List (Option Pass)) (s : Text) : Job Text := do
  Job.reportAll (Pass.skipEvents entries)
  match Pass.runAll sourceName entries s with
  | .ok t => return t
  | .error e =>
    Job.reportAll (Pass.failureEvents e)
    throw e

/-- The options that are given, or those of the settings. -/
def optionsOr (options : Option Options) : Job Options := do
  match options with
  | some o => return o
  | none => return { collapse := (← Job.settings).value.collapseWhitespace }

/-- The entries that are given, or the default passes. -/
def passesOr (passes : Option (List (Option Pass))) : Job (List (Option Pass)) := do
  match passes with
  | some entries => return entries
  | none => Job.defaultPasses

/-- Blanks as the options want them. -/
def settleBlanks (collapse : Bool) (s : Text) : Text :=
  if collapse then Text.collapse s else Text.trim s

/-- Makes a document plain. -/
def ofSource (rules : List Text) (options : Option Options) (sourceName : Option Text) (s : Text) :
    Job Text := do
  let options ← optionsOr options
  let entries ← passesOr options.passes
  let s ← runPasses sourceName entries s
  let s := settleBlanks options.collapse (← strip (options.rules.getD rules) s)
  Job.report (plainEvent sourceName (Pass.kept entries).length options.collapse s)
  return s

/-- What is said of a document that is no text. -/
def noText : Error := .fault .type "Markdown source must be a string."

/-- Makes a document plain, if it is a text. -/
def ofValue (rules : List Text) (options : Option Options) (sourceName : Option Text) :
    Json → Job Text
  | .str s => ofSource rules options sourceName s
  | _ => throw noText

end PromptPress.PlainText
