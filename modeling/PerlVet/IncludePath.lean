import PerlVet.Config.Basic
import PerlVet.Session

/-!
Where the interpreter looks for libraries: the ones that come with this program, those that lie in
the usual places of a project, and the configured ones.
-/

namespace PerlVet.IncludePath

/-- Directories that usually hold libraries, below the top of a project. -/
def usualDirs : List String := ["lib", "t/lib", "xt/lib"]

/-- The directory of libraries installed for a project; those for an architecture lie below it. -/
def installedDir : String := "local/lib/perl5"

/-- The usual places of libraries, first ones first. -/
def usualPlaces (root : Path) (architecture : String) : List Path :=
  usualDirs.map (fun name => root.join (Path.ofString name)) ++
    [(root.join (Path.ofString installedDir)).join (Path.ofString architecture)]

/-- A configured directory: with the home directory filled in, and below the root if relative. -/
def place (h : Host) (root : Path) (entry : String) : Except Failure Path :=
  (h.expandHome (Path.ofString entry)).map root.join

/-- Configured directories, up to the first failure. -/
def placeAll (h : Host) (root : Path) : List String → Except Failure (List Path)
  | [] => .ok []
  | entry :: entries =>
    match place h root entry with
    | .error e => .error e
    | .ok p => (placeAll h root entries).map (p :: ·)

/-- The first occurrence of every path, in order; `seen` have occurred before. -/
def distinct (seen : List Path) : List Path → List Path
  | [] => []
  | p :: ps => if seen.contains p then distinct seen ps else p :: distinct (p :: seen) ps

/-- The directories for libraries in order: the baseline, the usual places that exist unless they
are left out, and the configured ones, which need not exist. None occurs twice. -/
def resolve (h : Host) (root : Path) (inc : Config.Include) (architecture : String)
    (baseline : Path) : Except Failure (List Path) := do
  let usual ←
    if inc.replaceDefaults then pure [] else (usualPlaces root architecture).filterM h.isDir
  let libs ← placeAll h root inc.libs
  return distinct [] (baseline :: usual ++ libs)

/-- The line of the log for resolved directories. -/
def note (root : Path) (paths : List Path) : String :=
  "include paths for " ++ root.text ++ ": " ++ ", ".intercalate (paths.map Path.text)

/-- Resolves the directories for libraries, the bundled ones being the baseline, and takes note of
them. -/
def find (h : Host) (root : Path) (inc : Config.Include) (architecture : String) (s : Session) :
    Except Failure (List Path) × Session :=
  match resolve h root inc architecture h.bundled with
  | .error e => (.error e, s)
  | .ok paths => (.ok paths, s.note .includePath (note root paths))

end PerlVet.IncludePath
