import PerlVet.Session

/-!
Importing predicate modules. Directories are searched in order; a directory that is no package
counts as one only if no directory holds a module or package of that name.
-/

namespace PerlVet

/-- Why a module cannot be imported. -/
inductive ImportFailure where
  | missing (name : List String)
  | notPackage (name parent : List String)
  | raised (r : Raised)
  deriving DecidableEq, Repr

/-- A failed import in words. -/
def ImportFailure.text : ImportFailure → String
  | missing name => "No module named " ++ Text.quoted (dotted name)
  | notPackage name parent =>
    "No module named " ++ Text.quoted (dotted name) ++ "; " ++ Text.quoted (dotted parent) ++
      " is not a package"
  | raised r => r.text

/-- What a search for a module finds. -/
inductive Found where
  | leaf (m : Module)
  | package (p : Place)
  /-- A directory that may be part of a package without a file of its own. -/
  | portion (p : Place)

/-- The name of the file of a package. -/
def packageFile : String := "__init__"

namespace Host

/-- The place of a directory on the module path. -/
def directoryAt? (h : Host) (entry : String) : Option Place :=
  if hasNul entry then none
  else
    match h.tree.follow h.cwd (if entry.isEmpty then "." else entry) with
    | .ok (p, .dir) => some p
    | _ => none

/-- The place is a package with a file of its own. -/
def isPackage (h : Host) (p : Place) : Bool := h.modules.any (·.hasPackage p)

/-- The module that lies at a place. Of several, the last one counts. The file of a package is a
module without attributes, too. -/
def moduleAt? (h : Host) (p : Place) : Option Module :=
  match h.modules.reverse.find? (·.place == p) with
  | some m => some m
  | none =>
    if p.getLast? == some packageFile && h.isPackage p.dropLast then
      some { dir := p.dropLast, name := [packageFile] }
    else none

/-- What a directory holds under the name of a module. -/
def findIn (h : Host) (dir : Place) (name : String) : Option Found :=
  let directory :=
    if name.isEmpty || name.toList.contains '/' || name == "." || name == ".." || hasNul name then
      none
    else
      match h.tree.walk FileTree.maxLinks dir [name] with
      | .ok (p, .dir) => some p
      | _ => none
  match directory with
  | some p =>
    if h.isPackage p then some (.package p)
    else
      match h.moduleAt? (dir ++ [name]) with
      | some m => some (.leaf m)
      | none => some (.portion p)
  | none => (h.moduleAt? (dir ++ [name])).map .leaf

/-- What the first of some directories holds under the name of a module. Directories that are no
packages count together, if nothing else is found. -/
def findFirst (h : Host) (name : String) : List Place → List Place → Option Found × List Place
  | portions, [] => (none, portions)
  | portions, dir :: dirs =>
    match h.findIn dir name with
    | some (.portion p) => h.findFirst name (portions ++ [p]) dirs
    | some found => (some found, portions)
    | none => h.findFirst name portions dirs

/-- Imports the module `name`, whose directories are known. -/
def load (h : Host) (name : List String) (dirs : List Place) (imports : Imports) :
    Except ImportFailure Imported × Imports :=
  match h.findFirst (name.getLast?.getD "") [] dirs with
  | (some (.leaf m), _) =>
    match m.raises with
    | some r => (.error (.raised r), imports)
    | none =>
      let i := Imported.leaf m.attributes
      (.ok i, (name, i) :: imports)
  | (some (.package p), _) | (some (.portion p), _) =>
    let i := Imported.package [p] true
    (.ok i, (name, i) :: imports)
  | (none, p :: ps) =>
    let i := Imported.package (p :: ps) false
    (.ok i, (name, i) :: imports)
  | (none, []) => (.error (.missing name), imports)

/-- Imports the rest of a dotted name below the module `name`. -/
def importBelow (h : Host) (name : List String) (parent : Imported) :
    List String → Imports → Except ImportFailure Imported × Imports
  | [], imports => (.ok parent, imports)
  | part :: parts, imports =>
    let full := name ++ [part]
    match imports.lookup full with
    | some i => h.importBelow full i parts imports
    | none =>
      match parent with
      | .leaf _ => (.error (.notPackage full name), imports)
      | .package dirs _ =>
        match h.load full dirs imports with
        | (.ok i, imports) => h.importBelow full i parts imports
        | (.error e, imports) => (.error e, imports)

/-- Imports a module by the components of its name, with the packages it lies in. -/
def importModule (h : Host) (modulePath : List String) (imports : Imports) :
    List String → Except ImportFailure Imported × Imports
  | [] => (.error (.missing []), imports)
  | part :: parts =>
    match imports.lookup [part] with
    | some i => h.importBelow [part] i parts imports
    | none =>
      match h.load [part] (modulePath.filterMap h.directoryAt?) imports with
      | (.ok i, imports) => h.importBelow [part] i parts imports
      | (.error e, imports) => (.error e, imports)

end Host

end PerlVet
