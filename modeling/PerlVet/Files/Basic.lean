import PerlVet.Text.Lines

/-!
A tree of files, directories and symbolic links, and the way from a name to what it stands for.
There are no access rights in it, apart from the mark of a file that can be executed: a walk never
ends with `OsFault.denied`.
-/

namespace PerlVet

/-- Why the system refuses an operation on files. -/
inductive OsFault where
  | noEntry
  | execFormat
  | denied
  | notDirectory
  | isDirectory
  | nameTooLong
  | linkLoop
  deriving DecidableEq, Repr

namespace OsFault

/-- The number of a fault. -/
def number : OsFault → Nat
  | noEntry => 2
  | execFormat => 8
  | denied => 13
  | notDirectory => 20
  | isDirectory => 21
  | nameTooLong => 36
  | linkLoop => 40

/-- Words for a fault. -/
def text : OsFault → String
  | noEntry => "No such file or directory"
  | execFormat => "Exec format error"
  | denied => "Permission denied"
  | notDirectory => "Not a directory"
  | isDirectory => "Is a directory"
  | nameTooLong => "File name too long"
  | linkLoop => "Too many levels of symbolic links"

end OsFault

/-- What a place in the tree holds. -/
inductive FileNode where
  | dir
  | file (bytes : List UInt8) (executable : Bool)
  | link (target : String)
  deriving DecidableEq, Repr

/-- A place in the tree: the names that lead to it from the root, without links, `.` and `..`. -/
abbrev Place := List String

/-- A tree of files: what its places hold. The root is always a directory. -/
structure FileTree where
  nodes : List (Place × FileNode) := []
  deriving Repr

namespace FileTree

/-- What a place holds. -/
def find? (t : FileTree) : Place → Option FileNode
  | [] => some .dir
  | p => t.nodes.lookup p

/-- Puts a node in a place, in place of what was there. -/
def set (t : FileTree) (p : Place) (n : FileNode) : FileTree :=
  if t.nodes.any (·.1 == p) then
    ⟨t.nodes.map fun e => if e.1 == p then (p, n) else e⟩
  else ⟨t.nodes ++ [(p, n)]⟩

/-- Makes directories of the places `p ++ names` leads through, where there is nothing yet. -/
def makeDirs (t : FileTree) (p : Place) : List String → FileTree
  | [] => t
  | name :: names =>
    let q := p ++ [name]
    let t := if (t.find? q).isSome then t else t.set q .dir
    t.makeDirs q names

/-- Puts a node in a place, after making the directories above it. -/
def put (t : FileTree) (p : Place) (n : FileNode) : FileTree := (t.makeDirs [] p.dropLast).set p n

/-- Empties a place. -/
def erase (t : FileTree) (p : Place) : FileTree := ⟨t.nodes.filter (·.1 != p)⟩

/-- The steps that a text takes through the tree. A slash at the end asks for a directory, which
`.` expresses. -/
def stepsOf (s : String) : List String :=
  let pieces := Text.pieces '/' s.toList
  let named := pieces.filter (!·.isEmpty)
  let last := if pieces.getLast? == some [] && !named.isEmpty then ["."] else []
  named.map String.ofList ++ last

/-- The text starts at the root. -/
def fromRoot (s : String) : Bool := s.toList.head? == some '/'

/-- The most bytes of a name. -/
def maxName : Nat := 255

/-- The most bytes of a whole path. -/
def maxPath : Nat := 4095

/-- Where a walk through the tree ends. -/
abbrev Walk := Except OsFault (Place × FileNode)

/-- Takes steps from a place. Where a step meets a link, `onLink` goes on from the place where its
target starts, with the steps of the target in front of the others. -/
def walkWith (t : FileTree) (onLink : Place → List String → Walk) : List String → Place → Walk
  | [], p =>
    match t.find? p with
    | some n => .ok (p, n)
    | none => .error .noEntry
  | name :: names, p =>
    match t.find? p with
    | some .dir =>
      if name == "." then t.walkWith onLink names p
      else if name == ".." then t.walkWith onLink names p.dropLast
      else
        match t.find? (p ++ [name]) with
        | none => .error (if maxName < name.utf8ByteSize then .nameTooLong else .noEntry)
        | some (.link target) =>
          onLink (if fromRoot target then [] else p) (stepsOf target ++ names)
        | some _ => t.walkWith onLink names (p ++ [name])
    | some _ => .error .notDirectory
    | none => .error .noEntry

/-- Takes steps from a place through at most `links` links. -/
def walk (t : FileTree) : Nat → Place → List String → Walk
  | 0, p, names => t.walkWith (fun _ _ => .error .linkLoop) names p
  | links + 1, p, names => t.walkWith (t.walk links) names p

/-- The most links on the way from a name to a file. -/
def maxLinks : Nat := 40

/-- Follows a text from a place. -/
def follow (t : FileTree) (start : Place) (s : String) : Walk :=
  if s.isEmpty then .error .noEntry
  else if maxPath < s.utf8ByteSize then .error .nameTooLong
  else t.walk maxLinks (if fromRoot s then [] else start) (stepsOf s)

/-- Removes empty steps, `.` and `..` by name. -/
def dropDots (names : List String) : Place :=
  names.foldl (fun p name =>
    if name == ".." then p.dropLast else if name == "" || name == "." then p else p ++ [name]) []

/-- A path as far as its links have been replaced. Two routes to one place are told apart, since
a link counts as met again only if the same route leads to it. -/
structure Route where
  /-- The steps are those from the root, else from the directory where the path starts. -/
  fromRoot : Bool
  /-- Names, and steps upwards in front of them unless they start at the root. -/
  steps : List String
  deriving DecidableEq

namespace Route

/-- The place a route leads to from a directory. -/
def place (start : Place) (r : Route) : Place :=
  dropDots ((if r.fromRoot then [] else start) ++ r.steps)

/-- The route to something in a directory. -/
def down (r : Route) (name : String) : Route := { r with steps := r.steps ++ [name] }

/-- The route to the directory above. -/
def up (r : Route) : Route :=
  if !r.fromRoot && r.steps.all (· == "..") then r.down ".."
  else { r with steps := r.steps.dropLast }

/-- A route continued by steps that are left as they are. Where the steps start with an empty one,
they are those of a text that starts at the root. -/
def leave (r : Route) : List String → Route
  | "" :: name :: names => ⟨true, name :: names⟩
  | names => { r with steps := r.steps ++ names }

end Route

/-- The route that steps take when links are replaced by their targets and what does not exist is
taken by its name. `onLink` goes on with the target of a link, given the route to the link and to
its directory; a failed target leaves the rest of the steps as they are. -/
def resolveWith (t : FileTree) (start : Place)
    (onLink : Route → Route → String → Route × Bool) : List String → Route → Route × Bool
  | [], r => (r, true)
  | name :: names, r =>
    if name == "" || name == "." then t.resolveWith start onLink names r
    else if name == ".." then t.resolveWith start onLink names r.up
    else
      let next := r.down name
      match t.find? (next.place start) with
      | some (.link target) =>
        match onLink next r target with
        | (q, true) => t.resolveWith start onLink names q
        | (q, false) => (q.leave names, false)
      | _ => t.resolveWith start onLink names next

/-- The steps of a text between its slashes, empty ones too, without the slash of the root. -/
def allSteps (s : String) : List String :=
  let cs := s.toList
  (Text.pieces '/' (if cs.head? == some '/' then cs.drop 1 else cs)).map String.ofList

/-- Resolves steps while the links `opened` are being resolved; meeting one of them again fails. -/
def resolveFrom (t : FileTree) (start : Place) :
    Nat → List Route → List String → Route → Route × Bool
  | 0, _, names, r => (r.leave names, false)
  | fuel + 1, opened, names, r =>
    t.resolveWith start (fun link dir target =>
      if opened.contains link then (link, false)
      else
        t.resolveFrom start fuel (link :: opened) (allSteps target)
          (if fromRoot target then ⟨true, []⟩ else dir))
      names r

/-- The place that steps stand for, and whether no link leads back to itself. Steps that do not
start at the root start at a directory; at most one route for each number of steps upwards from
there leads to a link. -/
def resolve (t : FileTree) (start : Place) (absolute : Bool) (names : List String) : Place × Bool :=
  let routes := t.nodes.length * (start.length + 2)
  let (r, ok) := t.resolveFrom start (routes + 1) [] names ⟨absolute, []⟩
  (r.place start, ok)

end FileTree

end PerlVet
