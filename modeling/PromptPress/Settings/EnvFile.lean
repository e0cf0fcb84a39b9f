import PromptPress.Text.Basic
import PromptPress.Text.Blank

/-!
# Environment files

An environment file binds names to values, one to a line.  `export` may stand in front of a name,
a value may stand between quotes and then go over several lines, a comment begins with `#`, and a
value may refer to a name bound before it or in the environment, as in `${NAME:-default}`.  A line
that cannot be read is skipped.
-/

namespace PromptPress.EnvFile

/-- The end of a line. -/
def isEnd (c : Char) : Bool := c == '\r' || c == '\n'

/-- A blank within a line. -/
def isGap (c : Char) : Bool := Text.isBlank c && !isEnd c

/-- Drops the blanks in front, within the line. -/
def skipGap (s : Text) : Text := s.dropWhile isGap

/-- Drops the end of a line, if the text starts with one. -/
def skipEnd : Text → Text
  | '\r' :: '\n' :: s => s
  | '\r' :: s => s
  | '\n' :: s => s
  | s => s

/-- Drops the rest of a line. -/
def skipLine (s : Text) : Text := skipEnd (s.dropWhile (! isEnd ·))

/-- Drops the word `export` and the blanks behind it. -/
def skipExport (s : Text) : Text :=
  match Text.dropFront? "export" s with
  | some r => if (r.takeWhile isGap).isEmpty then s else skipGap r
  | none => s

/-- Reads a name: between quotes, or up to a blank, an equality sign or a comment.  A comment in
the place of a name is no name. -/
def readName : Text → Option (Option Text × Text)
  | '#' :: s => some (none, '#' :: s)
  | '\'' :: s =>
    let name := s.takeWhile (· ≠ '\'')
    match s.dropWhile (· ≠ '\'') with
    | _ :: r => if name.isEmpty then none else some (some name, r)
    | [] => none
  | s =>
    let stops (c : Char) := c == '=' || c == '#' || Text.isBlank c
    let name := s.takeWhile (! stops ·)
    if name.isEmpty then none else some (some name, s.dropWhile (! stops ·))

/-- Splits a text after the closing quote; a backslash before a quote keeps it in the text. -/
def splitQuoted (q : Char) : Text → Option (Text × Text)
  | [] => none
  | '\\' :: c :: s =>
    if c = q then
      match splitQuoted q s with
      | some (v, r) => some ('\\' :: c :: v, r)
      | none => some (['\\'], s)
    else (splitQuoted q (c :: s)).map fun (v, r) => ('\\' :: v, r)
  | c :: s =>
    if c = q then some ([], s) else (splitQuoted q s).map fun (v, r) => (c :: v, r)

/-- The character of an escape between double quotes. -/
def doubleEscape? : Char → Option Char
  | '\\' => some '\\'
  | '\'' => some '\''
  | '"' => some '"'
  | 'a' => some (Char.ofNat 7)
  | 'b' => some (Char.ofNat 8)
  | 'f' => some (Char.ofNat 12)
  | 'n' => some '\n'
  | 'r' => some '\r'
  | 't' => some '\t'
  | 'v' => some (Char.ofNat 11)
  | _ => none

/-- The character of an escape between single quotes. -/
def singleEscape? : Char → Option Char
  | '\\' => some '\\'
  | '\'' => some '\''
  | _ => none

/-- Resolves the escapes of a quoted value. -/
def resolve (escape? : Char → Option Char) : Text → Text
  | '\\' :: c :: s =>
    match escape? c with
    | some d => d :: resolve escape? s
    | none => '\\' :: resolve escape? (c :: s)
  | c :: s => c :: resolve escape? s
  | [] => []

/-- Cuts a value before blanks and a comment. -/
def cutComment : Text → Text
  | [] => []
  | c :: s =>
    match (c :: s).dropWhile Text.isBlank with
    | '#' :: _ => if Text.isBlank c then [] else c :: cutComment s
    | _ => c :: cutComment s

/-- Reads a value. -/
def readValue : Text → Option (Text × Text)
  | '\'' :: s => (splitQuoted '\'' s).map fun (v, r) => (resolve singleEscape? v, r)
  | '"' :: s => (splitQuoted '"' s).map fun (v, r) => (resolve doubleEscape? v, r)
  | s =>
    let line := s.takeWhile (! isEnd ·)
    some (Text.dropEndWhile Text.isBlank (cutComment line), s.dropWhile (! isEnd ·))

/-- A name and the value that a line binds to it, if there is one. -/
abbrev Binding := Text × Option Text

/-- Reads what follows a value up to the end of the line; fails if something else stands there. -/
def readEnd (s : Text) : Option Text :=
  let r :=
    match skipGap s with
    | '#' :: t => t.dropWhile (! isEnd ·)
    | _ => s
  match skipGap r with
  | [] => some []
  | c :: t => if isEnd c then some (skipEnd (c :: t)) else none

/-- Reads one line; gives back the binding, if there is one, and the rest of the file. -/
def readLine (s : Text) : Option Binding × Text :=
  let s := skipExport (s.dropWhile Text.isBlank)
  match readName s with
  | none => (none, skipLine s)
  | some (name, r) =>
    match skipGap r with
    | '=' :: t =>
      let t := skipGap t
      match readValue t with
      | none => (none, skipLine t)
      | some (v, u) =>
        match readEnd u with
        | none => (none, skipLine u)
        | some rest => (name.map fun n => (n, some v), rest)
    | t =>
      match readEnd t with
      | none => (none, skipLine t)
      | some rest => (name.map fun n => (n, none), rest)

/-- Reads the bindings of a file. -/
def bindingsFrom : Nat → Text → List Binding
  | 0, _ => []
  | fuel + 1, s =>
    if s.all Text.isBlank then []
    else
      match readLine s with
      | (some b, r) => b :: bindingsFrom fuel r
      | (none, r) => bindingsFrom fuel r

/-- Reads a reference to a name, from behind its dollar sign. -/
def reference? : Text → Option (Text × Text × Text)
  | '\x7b' :: s =>
    let stops (c : Char) := c == '\x7d' || c == ':'
    let name := s.takeWhile (! stops ·)
    match s.dropWhile (! stops ·) with
    | '\x7d' :: r => some (name, [], r)
    | ':' :: '-' :: t =>
      match t.dropWhile (· ≠ '\x7d') with
      | _ :: r => some (name, t.takeWhile (· ≠ '\x7d'), r)
      | [] => none
    | _ => none
  | _ => none

/-- The value that is bound to a name last. -/
def lookUp (known : List Binding) (name : Text) : Option (Option Text) :=
  (known.reverse.find? fun (n, _) => n == name).map (·.2)

/-- Puts the values of names in the place of references. -/
def expand (known : List Binding) : Nat → Text → Text
  | 0, s => s
  | _, [] => []
  | fuel + 1, '$' :: s =>
    match reference? s with
    | some (name, default, r) =>
      (match lookUp known name with
        | some (some v) => v
        | some none => []
        | none => default) ++ expand known fuel r
    | none => '$' :: expand known fuel s
  | fuel + 1, c :: s => c :: expand known fuel s

/-- Resolves the references in the values, one binding after another. -/
def resolveAll (known : List Binding) : List Binding → List Binding
  | [] => []
  | (n, v) :: bs =>
    let b := (n, v.map fun v => expand known (v.length + 1) v)
    b :: resolveAll (known ++ [b]) bs

/-- The bindings of a file, within an environment. -/
def read (environment : List (Text × Text)) (s : Text) : List Binding :=
  resolveAll (environment.map fun (n, v) => (n, some v)) (bindingsFrom (s.length + 1) s)

end PromptPress.EnvFile
