import PerlVet.Config.Checked

/-!
Inspecting a file line by line with the configured predicates.
-/

namespace PerlVet.LineScan

/-- The origin of the diagnostics. -/
def name : String := "custom"

/-- The remark that an answer to a rule is; nothing is no remark. -/
def remark (rule : LineRule) : Answer → Except Failure (Option Fragment)
  | .fragment f => .ok (some f)
  | .data .null => .ok none
  | .data (.table t) =>
    match Fragment.ofTable t with
    | .ok f => .ok (some f)
    | .error issues => .error (.answerInvalid rule.predicate.name issues)
  | .data v => .error (.answerKind rule.predicate.name (v.kind nofun))

/-- Asks the predicate of a rule about a line. -/
def ask (file : String) (rule : LineRule) (line : String) : Except Failure (Option Fragment) :=
  (rule.predicate.run line file).bind (remark rule)

/-- Applies rules to the line with a number, up to the first failure. -/
def scanLine (file : String) (number : Nat) (line : String) :
    List LineRule → Except Failure (List Diagnostic)
  | [] => .ok []
  | rule :: rules =>
    match ask file rule line with
    | .error e => .error e
    | .ok found =>
      (scanLine file number line rules).map fun ds =>
        (found.map fun f => (f.onLine number).attributed name).toList ++ ds

/-- Applies rules to lines, the first of which has the number given, up to the first failure. -/
def scanLines (file : String) (rules : List LineRule) :
    Nat → List (List Char) → Except Failure (List Diagnostic)
  | _, [] => .ok []
  | number, line :: lines =>
    match scanLine file number (String.ofList line) rules with
    | .error e => .error e
    | .ok ds => (scanLines file rules (number + 1) lines).map (ds ++ ·)

/-- Inspects a file with the rules that cover it. Without any, it is not even read. -/
def inspect (config : Config.Custom) (h : Host) (target : Path) (s : Session) :
    Except Failure (List Diagnostic) × Session :=
  match config.rules.filter (·.covers target) with
  | [] => (.ok [], s)
  | rules =>
    match h.fileLines target with
    | .error e => (.error e, s)
    | .ok lines =>
      match scanLines target.text rules 1 lines with
      | .error e => (.error e, s)
      | .ok ds =>
        (.ok ds, s.note .lineScan
          (toString ds.length ++ " custom diagnostics for " ++ target.text))

end PerlVet.LineScan
