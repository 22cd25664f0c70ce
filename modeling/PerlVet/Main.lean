import PerlVet.CommandLine

/-!
The program itself. It takes a view of the machine, carries out the command line on that view,
prints what the run printed and ends with its status.
-/

namespace PerlVet.View

/-- The environment variables that a check looks at. -/
def variableNames : List String :=
  ["PATH", "HOME", "TERM", "TTY_COMPATIBLE", "FORCE_COLOR", replaceVariable]

/-- The values of the environment variables that are set. -/
def environment : IO Environment :=
  variableNames.filterMapM fun name => return (← IO.getEnv name).map ((name, ·))

/-- What stands at the end of a path, links followed. Who may execute a file cannot be seen, so
that every file counts as a program. -/
def node? (path : String) : IO (Option FileNode) := do
  try
    let info ← ((← IO.currentDir) / path).metadata
    if info.type == .dir then return some .dir
    return some (.file (← IO.FS.readBinFile path).toList true)
  catch _ => return none

/-- Adds what stands at the end of a path to a tree. -/
def look (tree : FileTree) (place : Place) : IO FileTree := do
  match ← node? (Host.pathOf place).text with
  | some n => return tree.put place n
  | none => return tree

/-- Adds a directory and what lies below it, down to a depth. Directories whose names start with a
dot are not entered. -/
def survey : Nat → FileTree → Place → IO FileTree
  | 0, tree, _ => return tree
  | depth + 1, tree, place => do
    let entries ← try ((← IO.currentDir) / (Host.pathOf place).text).readDir
      catch _ => pure #[]
    entries.foldlM (fun tree entry => do
      let place := place ++ [entry.fileName]
      let tree ← look tree place
      if tree.find? place == some .dir && !entry.fileName.startsWith "." then
        survey depth tree place
      else return tree) (tree.put place .dir)

/-- The places of files that belong to the projects around a place. -/
def markersAbove (place : Place) : List Place :=
  (Host.pathOf place).selfAndParents.flatMap fun dir =>
    Host.topNames.map fun m => dir.parts ++ [m]

/-- The places where a program may stand. -/
def programPlaces (environment : Environment) (name : String) : List Place :=
  (Host.directories ((environment.lookup "PATH").getD Host.standardDirectories)).map fun dir =>
    Path.partsOf (Host.below dir name).toList

/-- How deep directories are looked through. -/
def depth : Nat := 12

/-- The machine as a command line sees it: the current directory, the paths among its words with
the projects around them, and the interpreter. -/
def host (args : List String) : IO Host := do
  let environment ← environment
  let cwd := Path.partsOf (← IO.currentDir).toString.toList
  let bundled := Path.ofString ((← IO.appDir) / "perl5").toString
  let named := args.map fun a =>
    let path := Path.ofString a
    if path.isAbsolute then path.parts else FileTree.dropDots (cwd ++ path.parts)
  let places := named ++ (cwd :: named).flatMap markersAbove ++
    programPlaces environment ({} : Config.Compile).perl ++ [bundled.parts]
  let tree ← places.foldlM look (← survey depth {} cwd)
  return { tree, cwd, environment, homes := [], bundled, modules := [] }

/-- What is said when the command line is wrong. -/
def usage : String :=
  "Usage: perlvet [--format text|json] [--config FILE] [--root DIR] [--debug] [--no-emoji] TARGET"

end PerlVet.View

/-- Checks the file that the command line names. -/
def main (args : List String) : IO UInt32 := do
  let errors ← IO.getStderr
  let host ← PerlVet.View.host args
  let (outcome, _) := PerlVet.CommandLine.run host (← errors.isTty) args {}
  IO.print outcome.output
  errors.putStr outcome.errors
  match outcome.ending with
  | .usage => errors.putStrLn PerlVet.View.usage
  | .uncaught e => errors.putStrLn e.message
  | .checked _ | .fatal _ | .interrupted => pure ()
  return UInt32.ofNat outcome.ending.status
