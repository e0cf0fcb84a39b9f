import PromptPress.Error
import PromptPress.Pass.Frontmatter
import PromptPress.Pass.Comments

/-!
# Passes

A pass changes the text of a document before its formatting is removed.  It may answer at once or
later, it may fail, and what it gives back may turn out to be no text.  Passes are told apart by
their identity: two passes that do the same are still two.
-/

namespace PromptPress

/-- An answer that is there at once, or that has to be waited for. -/
inductive Reply (α : Type) where
  | now (a : α)
  | later (a : α)

/-- Waits for an answer. -/
def Reply.value {α : Type} : Reply α → α
  | now a => a
  | later a => a

/-- What tells passes apart: the built-in ones, and each one that was made. -/
inductive PassId where
  | frontmatter
  | comments
  | made (n : Nat)
  deriving DecidableEq

/-- A change of a document's text. -/
structure Pass where
  id : PassId
  name : Text
  run : Text → Reply (Except Error Json)

namespace Pass

/-- The pass that drops the block that a document opens with. -/
def frontmatter : Pass where
  id := .frontmatter
  name := "strip_frontmatter"
  run s := .now (.ok (.str (stripFrontmatter s)))

/-- The pass that drops comments. -/
def comments : Pass where
  id := .comments
  name := "strip_html_comments"
  run s := .now (.ok (.str (stripComments s)))

/-- The built-in passes, in the order of their names. -/
def builtin : List Pass := [frontmatter, comments]

/-- What is said of a name that is no built-in pass. -/
def unknownMessage (name : Text) : Text :=
  "Unknown pass '" ++ name ++ "'. Available passes: " ++ Text.joinWith ", " (builtin.map (·.name))

/-- The built-in pass of a name. -/
def ofName (name : Text) : Except Error Pass :=
  match builtin.find? fun p => p.name == name with
  | some p => .ok p
  | none => .error (.passConfiguration (unknownMessage name))

/-- The built-in passes of names; the first unknown name fails. -/
def ofNames : List Text → Except Error (List Pass)
  | [] => .ok []
  | n :: ns =>
    match ofName n with
    | .error e => .error e
    | .ok p =>
      match ofNames ns with
      | .error e => .error e
      | .ok ps => .ok (p :: ps)

/-- What a made pass does with a text. -/
inductive Action where
  | append (t : Text)
  | prepend (t : Text)
  | replace (old new : Text)
  | give (v : Json)
  | fail (e : Error)

/-- The answer of an action to a text. -/
def Action.answer (s : Text) : Action → Except Error Json
  | append t => .ok (.str (s ++ t))
  | prepend t => .ok (.str (t ++ s))
  | replace old new => .ok (.str (Text.replaceAll old new s))
  | give v => .ok v
  | fail e => .error e

/-- The name that stands for a missing one. -/
def nameOrDefault : Option Text → Text
  | none => "CallablePass"
  | some [] => "function"
  | some n => n

/-- Makes a pass. -/
def make (n : Nat) (name : Option Text) (later : Bool) (a : Action) : Pass where
  id := .made n
  name := nameOrDefault name
  run s := if later then .later (a.answer s) else .now (a.answer s)

/-- A description of an entry of a list of passes: nothing, a built-in pass, or a made one. -/
inductive Spec where
  | empty
  | builtin (name : Text)
  | made (name : Option Text) (later : Bool) (a : Action)

/-- The entry of a description; `n` numbers the pass if it is made. -/
def Spec.entry (n : Nat) : Spec → Except Error (Option Pass)
  | empty => .ok none
  | builtin name => (ofName name).map some
  | made name later a => .ok (some (make n name later a))

end Pass

end PromptPress
