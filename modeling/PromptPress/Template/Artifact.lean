import PromptPress.Template.Segment
import PromptPress.Target.TypeScript
import PromptPress.Target.Python

/-!
# Artifacts

An artifact is the module made from a text: its code, the type of its parameters, the placeholders
and the target.  Only literal text is escaped; what stands for a placeholder is code.
-/

namespace PromptPress

namespace Target

/-- The type of the parameters of a template. -/
def signature : Target → List Placeholder → Text
  | typescript => TypeScript.signature
  | python => Python.signature

/-- Literal text inside a template. -/
def escape : Target → Text → Text
  | typescript => TypeScript.escape
  | python => Python.escape

/-- The code that a placeholder becomes inside a template. -/
def substitution : Target → Placeholder → Text
  | typescript => TypeScript.substitution
  | python => Python.substitution

/-- The module of a text without placeholders. -/
def constantModule : Target → Text → Text
  | typescript => TypeScript.constantModule
  | python => Python.constantModule

/-- The module of a template, from its body and the type of its parameters. -/
def functionModule : Target → Text → Text → Text
  | typescript => TypeScript.functionModule
  | python => Python.functionModule

/-- The declaration of a module. -/
def declaration : Target → Bool → Text → Text
  | typescript => TypeScript.declaration
  | python => Python.declaration

end Target

/-- A module made from a text. -/
structure Artifact where
  /-- The text that the module was made from. -/
  text : Text
  code : Text
  signature : Text
  placeholders : List Placeholder
  target : Target
  deriving DecidableEq

namespace Artifact

/-- Has the artifact no placeholders? -/
def isStatic (a : Artifact) : Bool := a.placeholders.isEmpty

/-- The declaration of an artifact's module. -/
def declaration (a : Artifact) (t : Target) : Text := t.declaration a.isStatic a.signature

/-- The code of one segment. -/
def segmentCode (t : Target) : Template.Segment → Text
  | .literal s => t.escape s
  | .item p => t.substitution p

/-- The body of a template. -/
def body (t : Target) (s : Text) (ps : List Placeholder) : Text :=
  (Template.segments s ps).flatMap (segmentCode t)

/-- Makes the module of a text with the listed placeholders. -/
def ofText (t : Target) (s : Text) (ps : List Placeholder) : Artifact where
  text := s
  code :=
    if ps.isEmpty then t.constantModule s
    else t.functionModule (body t s ps) (t.signature ps)
  signature := t.signature ps
  placeholders := ps
  target := t

end Artifact

end PromptPress
