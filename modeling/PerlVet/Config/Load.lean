import PerlVet.Config.Checked
import PerlVet.Toml.Parser

/-!
Finding and reading configuration files, and the variable that overrides one setting.
-/

namespace PerlVet

/-- The name of the configuration file of a project. -/
def configName : String := ".perlcheck.toml"

/-- The variable that leaves out the usual directories. -/
def replaceVariable : String := "PERLCHECK_REPLACE_DEFAULT_LIBS"

/-- A variable spells a yes. Blanks around it and its case do not matter. -/
def spellsYes (value : Option String) : Bool :=
  value.any fun s =>
    ["1", "true", "yes", "on"].contains
      (String.ofList ((Text.trim s.toList).map Text.asciiLower))

/-- The variables that count: those given, else those of the process. -/
def overrides (h : Host) (env : Option Environment) : Environment := env.getD h.environment

/-- The override asks for a change of the configuration. -/
def Config.isOverridden (c : Config) (env : Environment) : Bool :=
  spellsYes (env.lookup replaceVariable) && !c.compile.inc.replaceDefaults

/-- The configuration under the override. -/
def Config.override (c : Config) (env : Environment) : Config :=
  if c.isOverridden env then c.replacingDefaults else c

/-- The settings that a document holds. -/
def settingsOf (t : Table Moment) : Table SettingLeaf :=
  Value.bindEntries (fun m => .leaf (.moment m)) t

/-- The table in the bytes of a configuration file. -/
def readDocument (path : Path) (bytes : List UInt8) : Except Failure (Table Moment) :=
  match Text.Utf8.decodeStrict bytes with
  | .error e => .error (.undecodable e)
  | .ok cs =>
    match Toml.parse cs with
    | .ok t => .ok t
    | .error .rules => .error (.configSyntax path.text)
    | .error (.digits e) => .error (.tooManyDigits e)

/-- Reads the configuration file at a path. Predicate modules are looked for next to it first. -/
def Config.load (h : Host) (path : Path) (s : Session) : Except Failure Config × Session :=
  match h.isFile path with
  | .error e => (.error e, s)
  | .ok false => (.error (.configMissing path.text), s)
  | .ok true =>
    match h.readBytes path with
    | .error e => (.error (.configUnreadable path.text e.message), s)
    | .ok bytes =>
      match readDocument path bytes with
      | .error e => (.error e, s)
      | .ok t =>
        let s := s.note .configuration ("loaded configuration from " ++ path.text)
        match h.resolve path.parent with
        | .error e => (.error e, s)
        | .ok root => Config.build h path.text (some root) (settingsOf t) s

/-- The configuration file of a project, if it has one. -/
def ownConfig? (h : Host) (root : Path) : Except Failure (Option Path) :=
  let path := root.join (Path.ofString configName)
  (h.isFile path).map fun found => if found then some path else none

/-- The configuration of a project: that of the file given, else that of the project's own file,
else the default one; the override comes last. -/
def Config.ofProject (h : Host) (root : Path) (file : Option Path) (env : Option Environment)
    (s : Session) : Except Failure Config × Session :=
  let chosen : Except Failure (Option Path) := match file with
    | some path => .ok (some path)
    | none => ownConfig? h root
  let (config, s) : Except Failure Config × Session :=
    match chosen with
    | .error e => (.error e, s)
    | .ok (some path) => Config.load h path s
    | .ok none => (.ok {}, s)
  (config.map (·.override (overrides h env)), s)

end PerlVet
