import PerlVet.Path
import PerlVet.Predicate.Module

/-!
The machine a check runs on, as far as it can be seen: files, the current directory, environment
variables, home directories and predicate modules. A check only looks at its host.

The files of a host carry no access rights (`FileNode`): whatever is there can be looked at,
entered and read. So a test of a path (`Host.stat?`) is refused only for a name that is too long,
never with `OsFault.denied`, and a configuration file that is found can be read, which is why no
check ends with `Failure.configUnreadable`. What is proved of failures is proved of such hosts.
-/

namespace PerlVet

/-- Environment variables. -/
abbrev Environment := List (String × String)

/-- What can be seen of a machine. -/
structure Host where
  tree : FileTree
  /-- The current directory. -/
  cwd : Place
  environment : Environment
  /-- Home directories of other users. -/
  homes : List (String × String)
  /-- The directory of libraries that come with this program. -/
  bundled : Path
  modules : List Module

namespace Host

/-- The place where the steps of a path start. -/
def start (h : Host) (p : Path) : Place := if p.isAbsolute then [] else h.cwd

/-- What a path stands for. -/
def walk (h : Host) (p : Path) : FileTree.Walk :=
  if FileTree.maxPath < p.text.utf8ByteSize then .error .nameTooLong
  else h.tree.walk FileTree.maxLinks (h.start p) p.parts

/-- What a path stands for, if anything. A name that no file can have is a failure. -/
def stat? (h : Host) (p : Path) : Except Failure (Option FileNode) :=
  if p.hasNul then .ok none
  else
    match h.walk p with
    | .ok (_, n) => .ok (some n)
    | .error .nameTooLong => .error (.system .nameTooLong p.text)
    | .error _ => .ok none

/-- The path stands for something. -/
def pathExists (h : Host) (p : Path) : Except Failure Bool := (h.stat? p).map Option.isSome

/-- The path stands for a regular file. -/
def isFile (h : Host) (p : Path) : Except Failure Bool :=
  (h.stat? p).map fun
    | some (.file _ _) => true
    | _ => false

/-- The path stands for a directory. -/
def isDir (h : Host) (p : Path) : Except Failure Bool := (h.stat? p).map (· == some .dir)

/-- The bytes of a file. -/
def readBytes (h : Host) (p : Path) : Except Failure (List UInt8) :=
  if p.hasNul then .error .nulCharacter
  else
    match h.walk p with
    | .ok (_, .file bytes _) => .ok bytes
    | .ok _ => .error (.system .isDirectory p.text)
    | .error fault => .error (.system fault p.text)

/-- The path of a place. -/
def pathOf (p : Place) : Path := ⟨.root, p⟩

/-- The path from the root, by name only. -/
def absolute (h : Host) (p : Path) : Path :=
  if p.isAbsolute then p else { pathOf h.cwd with parts := h.cwd ++ p.parts }

/-- The path from the root without links. What does not exist is taken by its name. -/
def resolve (h : Host) (p : Path) : Except Failure Path :=
  if p.hasNul then .error .nulCharacter
  else
    match h.tree.resolve h.cwd p.isAbsolute p.parts with
    | (q, true) => .ok (pathOf q)
    | (q, false) =>
      match h.walk (pathOf q) with
      | .error .linkLoop => .error (.linkCycle (pathOf q).text)
      | _ => .ok (pathOf q)

/-- The value of an environment variable. -/
def setting? (h : Host) (name : String) : Option String := h.environment.lookup name

/-- The text without slashes at its end. -/
def dropSlashes (s : String) : String :=
  String.ofList (s.toList.reverse.dropWhile (· == '/')).reverse

/-- The home directory that a component starting with a tilde names. -/
def home? (h : Host) (component : String) : Option String :=
  let user := String.ofList (component.toList.drop 1)
  let found :=
    if user.isEmpty then
      match h.setting? "HOME" with
      | some dir => some dir
      | none => h.homes.head?.map (·.2)
    else h.homes.lookup user
  found.map fun dir =>
    let dir := dropSlashes dir
    if dir.isEmpty then "/" else dir

/-- The path with a tilde in front replaced by the home directory it stands for. -/
def expandHome (h : Host) (p : Path) : Except Failure Path :=
  match p.anchor, p.parts with
  | .relative, first :: rest =>
    if first.toList.head? == some '~' then
      if first.toList.contains '\x00' then .error .nulCharacter
      else
        match h.home? first with
        | none => .error .homeUnknown
        | some dir =>
          if dir.toList.head? == some '~' then .error .homeUnknown
          else
            let base := Path.ofString dir
            .ok { base with parts := base.parts ++ rest }
    else .ok p
  | _, _ => .ok p

/-- The text of a file, line ends being newlines. -/
def fileText (h : Host) (p : Path) : Except Failure (List Char) :=
  match h.readBytes p with
  | .ok bytes => .ok (Text.universalNewlines (Text.Utf8.decode bytes))
  | .error e =>
    if e.isSystem then .error (.targetUnreadable p.text e.message) else .error e

/-- The lines of a file. A newline, a carriage return and both together end a line; other line
boundaries do not. The interpreter counts newlines alone, so that its numbers are others behind a
carriage return that stands alone. -/
def fileLines (h : Host) (p : Path) : Except Failure (List (List Char)) :=
  (h.fileText p).map Text.newlineLines

/-- The first line of a file, empty if it has none. -/
def fileHead (h : Host) (p : Path) : Except Failure (List Char) :=
  (h.fileText p).map (·.takeWhile (· != '\n'))

/-- Names that mark the top directory of a project. -/
def topNames : List String :=
  [".perlcheck.toml", ".git", "cpanfile", "Makefile.PL", "Build.PL", "dist.ini"]

/-- A directory holds one of the names that mark the top of a project. -/
def isMarked (h : Host) (dir : Path) : Except Failure Bool :=
  topNames.anyM fun m => h.pathExists (dir.join (Path.ofString m))

/-- The project a file belongs to: the nearest marked directory above it, else its own. -/
def projectTop (h : Host) (target : Path) : Except Failure Path :=
  do
    let start := (← h.resolve target).parent
    return (← start.selfAndParents.findM? h.isMarked).getD start

end Host

end PerlVet
