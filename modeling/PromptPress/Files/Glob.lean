import PromptPress.Files.Tree

/-!
# Finding files by pattern

A pattern is a path whose parts may hold wildcards: a star stands for any characters, a question
mark for one, brackets for one out of a set.  A part of two stars stands for any number of folders.
-/

namespace PromptPress.Glob

/-- One item of a part of a pattern. -/
inductive Item where
  | any
  | one
  | oneOf (negated : Bool) (ranges : List (Char × Char))
  | char (c : Char)

/-- Splits the inside of brackets from what follows them. -/
def splitSet : Text → Option (Text × Text)
  | [] => none
  | c :: s =>
    let rec go (inside : Text) : Text → Option (Text × Text)
      | [] => none
      | ']' :: r => some (inside.reverse, r)
      | d :: r => go (d :: inside) r
    match c, s with
    | '!', d :: s => go [d, '!'] s
    | _, _ => go [c] s

/-- The ranges of the inside of brackets. -/
def ranges : Text → List (Char × Char)
  | a :: '-' :: b :: s => (a, b) :: ranges s
  | a :: s => (a, a) :: ranges s
  | [] => []

/-- Reads a part of a pattern. -/
def itemsOf : Nat → Text → List Item
  | 0, _ => []
  | _, [] => []
  | fuel + 1, '*' :: s => .any :: itemsOf fuel s
  | fuel + 1, '?' :: s => .one :: itemsOf fuel s
  | fuel + 1, '[' :: s =>
    match splitSet s with
    | none => .char '[' :: itemsOf fuel s
    | some ('!' :: set, r) => .oneOf true (ranges set) :: itemsOf fuel r
    | some (set, r) => .oneOf false (ranges set) :: itemsOf fuel r
  | fuel + 1, c :: s => .char c :: itemsOf fuel s

/-- Does an item fit a character? -/
def Item.fits (c : Char) : Item → Bool
  | any => true
  | one => true
  | oneOf negated rs => (rs.any fun (a, b) => a ≤ c && c ≤ b) != negated
  | char d => c == d

/-- Do the items fit the whole name? -/
def fits : List Item → Text → Bool
  | [], s => s.isEmpty
  | .any :: items, [] => fits items []
  | .any :: items, c :: s => fits items (c :: s) || fits (.any :: items) s
  | _ :: _, [] => false
  | item :: items, c :: s => item.fits c && fits items s

/-- Does a part of a pattern fit a name? -/
def matchesName (pattern name : Text) : Bool := fits (itemsOf pattern.length pattern) name

/-- Does a part of a pattern hold a wildcard? -/
def isWild (part : Text) : Bool := part.any fun c => c == '*' || c == '?' || c == '['

/-- The folders at and below a path. -/
def foldersFrom (t : Tree) : Nat → Path → List Path
  | 0, p => [p]
  | fuel + 1, p =>
    match t.placeOf p with
    | .error _ => [p]
    | .ok at' =>
      p :: ((t.children at').map p.child |>.filter t.isFolder).flatMap (foldersFrom t fuel)

/-- The paths below `p` that fit the parts of a pattern. -/
def select (t : Tree) : List Text → Path → List Path
  | [], p => [p]
  | part :: rest, p =>
    if part = ['*', '*'] then
      ((foldersFrom t t.entries.length p).flatMap (select t rest)).eraseDups
    else if isWild part then
      match t.placeOf p with
      | .error _ => []
      | .ok at' =>
        let found := ((t.children at').filter (matchesName part)).map p.child
        (if rest.isEmpty then found else found.filter t.isFolder).flatMap (select t rest)
    else
      let next := p.child part
      if (if rest.isEmpty then t.exists? next else t.isFolder next) then select t rest next else []

/-- What is wrong with a pattern. -/
def problem? (pattern : Text) : Option Error :=
  let p := Path.ofText pattern
  if pattern.isEmpty then some (.fault .value ("Unacceptable pattern: " ++ Text.quoted pattern))
  else if !p.root.isEmpty then
    some (.fault .notImplemented "Non-relative patterns are unsupported")
  else if p.parts.isEmpty then some (.fault .index "tuple index out of range")
  else if p.parts.any fun part => part != ['*', '*'] && Text.hasPart "**" part then
    some (.fault .value "Invalid pattern: '**' can only be an entire path component")
  else none

/-- Is `a` before `b`, part by part? -/
def before : List Text → List Text → Bool
  | [], _ => true
  | _ :: _, [] => false
  | a :: s, b :: t => Text.lt a b || (a == b && before s t)

/-- The paths below a folder that fit a pattern, in the order of their parts. -/
def find (t : Tree) (folder : Path) (pattern : Text) : Except Error (List Path) :=
  match problem? pattern with
  | some e => .error e
  | none => .ok ((select t (Path.ofText pattern).parts folder).mergeSort
      fun a b => before a.parts b.parts)

end PromptPress.Glob
