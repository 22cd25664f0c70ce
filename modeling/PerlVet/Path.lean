import PerlVet.Text.Lines

/-!
File names in lexical form. Empty and `.` components do not count, `..` does, and exactly two
slashes in front are told apart from one.
-/

namespace PerlVet

/-- What a path starts from. -/
inductive Anchor where
  | relative
  | root
  | doubleRoot
  deriving DecidableEq, Repr

/-- A file name as a sequence of components. -/
structure Path where
  anchor : Anchor
  parts : List String
  deriving DecidableEq, Repr

namespace Path

/-- The components of a text between slashes, without empty and `.` ones. -/
def partsOf (cs : List Char) : List String :=
  (Text.pieces '/' cs).filterMap fun p =>
    if p.isEmpty || p == ['.'] then none else some (String.ofList p)

/-- What a text of a path starts from. -/
def anchorOf : List Char → Anchor
  | '/' :: '/' :: '/' :: _ => .root
  | '/' :: '/' :: _ => .doubleRoot
  | '/' :: _ => .root
  | _ => .relative

/-- The path that a text writes. -/
def ofString (s : String) : Path := ⟨anchorOf s.toList, partsOf s.toList⟩

/-- The text of an anchor. -/
def Anchor.text : Anchor → String
  | .relative => ""
  | .root => "/"
  | .doubleRoot => "//"

/-- The text of a path; the empty path is the current directory. -/
def text (p : Path) : String :=
  if p.anchor == .relative && p.parts.isEmpty then "."
  else Anchor.text p.anchor ++ "/".intercalate p.parts

/-- The path does not depend on the current directory. -/
def isAbsolute (p : Path) : Bool := p.anchor != .relative

/-- The last component; a path without components has an empty one. -/
def name (p : Path) : String := p.parts.getLast?.getD ""

/-- The path without its last component. -/
def parent (p : Path) : Path := { p with parts := p.parts.dropLast }

/-- The path continued by another one; an absolute one stands for itself. -/
def join (p q : Path) : Path :=
  if q.isAbsolute then q else { p with parts := p.parts ++ q.parts }

/-- The path and all its ancestors, nearest first. -/
def selfAndParents (p : Path) : List Path :=
  (List.range (p.parts.length + 1)).map fun n =>
    { p with parts := p.parts.take (p.parts.length - n) }

/-- A component holds a NUL, which no file name can. -/
def hasNul (p : Path) : Bool := p.parts.any (·.toList.contains '\x00')

end Path

end PerlVet
