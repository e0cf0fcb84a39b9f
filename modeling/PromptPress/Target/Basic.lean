import PromptPress.Placeholder.Basic
import PromptPress.Text.Case

/-!
# Targets

A target is a language that templates are made for.  Its name and the endings of the files are
fixed here; how it spells types, texts and modules is in the modules named for the targets.
-/

namespace PromptPress

/-- A language that templates are made for. -/
inductive Target where
  | typescript
  | python
  deriving DecidableEq, Repr

namespace Target

/-- The name of a target. -/
def name : Target → Text
  | typescript => "typescript"
  | python => "python"

/-- All targets, in the order of their names. -/
def all : List Target := [python, typescript]

/-- The target of a name in any case. -/
def ofName? (s : Text) : Option Target := all.find? fun t => t.name == Text.lower s

/-- The ending of a module file. -/
def moduleSuffix : Target → Text
  | typescript => ".ts"
  | python => ".py"

/-- The ending of a declaration file. -/
def declarationSuffix : Target → Text
  | typescript => ".d.ts"
  | python => ".pyi"

/-- What is said of a name that is no target. -/
def unknownMessage (s : Text) : Text :=
  "Unknown target '" ++ s ++ "'. Available targets: " ++ Text.joinWith ", " (all.map name)

end Target

/-- What stands on the first line of a module. -/
def generatedHeader : Text := "Generated by mdprompt from Markdown. Do not edit."

end PromptPress
