import PromptPress.Error
import PromptPress.Json.Writer
import PromptPress.Template.Artifact

/-!
# Filling templates

A template is filled by putting values in the place of its placeholders.  A value that is missing
leaves nothing where its placeholder is optional, and stops the filling where it is required.

The parameters of a module are the names of its placeholders.  Of several forms of a name the last
field of the module's type counts, and optional fields come last: so a name is required if none of
its forms is optional.
-/

namespace PromptPress

namespace Template

/-- The value of a name. -/
def valueOf? (values : List (Text × Json)) (name : Text) : Option Json :=
  (values.find? fun (k, _) => k == name).map (·.2)

/-- What stands in the place of a segment. -/
def fillSegment (values : List (Text × Json)) : Segment → Except Error Text
  | .literal t => .ok t
  | .item p =>
    match valueOf? values p.name with
    | some v => .ok (Json.shown v)
    | none => if p.optional then .ok [] else .error (.fault .key p.name)

/-- Fills segments; the first value that is missing stops it. -/
def fillAll (values : List (Text × Json)) : List Segment → Except Error Text
  | [] => .ok []
  | g :: gs =>
    match fillSegment values g with
    | .error e => .error e
    | .ok t => (fillAll values gs).map (t ++ ·)

end Template

namespace Artifact

/-- The segments of an artifact's template. -/
def segments (a : Artifact) : List Template.Segment := Template.segments a.text a.placeholders

/-- Fills the template of an artifact. -/
def render (a : Artifact) (values : List (Text × Json)) : Except Error Text :=
  Template.fillAll values a.segments

/-- The names that may be left out, in order. -/
def optionalNames (a : Artifact) : List Text :=
  (((a.placeholders.filter (·.optional)).map (·.name)).eraseDups).mergeSort Text.le

/-- The names that have to be given, in order. -/
def requiredNames (a : Artifact) : List Text :=
  (((a.placeholders.map (·.name)).eraseDups).filter
    fun n => !a.optionalNames.contains n).mergeSort Text.le

end Artifact

end PromptPress
