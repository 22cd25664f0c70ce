import PerlVet.Predicate.Import
import PerlVet.Predicate.Member
import PerlVet.Text.Blank

/-!
References to predicates: the dotted name of a module and, after a colon or the last dot, the
dotted name of an attribute.
-/

namespace PerlVet

/-- The two names of a reference: that of a module and that of one of its attributes. -/
structure Reference where
  home : List Char
  member : List Char
  deriving DecidableEq, Repr

/-- Splits a text at the first colon, or without one at the last dot. -/
def Reference.split (text : List Char) : Reference :=
  if text.contains ':' then
    let home := text.takeWhile (· != ':')
    ⟨home, text.drop (home.length + 1)⟩
  else
    let member := (text.reverse.takeWhile (· != '.')).reverse
    ⟨text.take (text.length - member.length - 1), member⟩

/-- Puts the import root in front of the module path, if it does not stand on it. -/
def enterRoot (root : Option Path) (path : List String) : List String :=
  match root with
  | none => path
  | some r => if path.contains r.text then path else r.text :: path

/-- Takes the import root off the module path, if entering put it there. -/
def leaveRoot (root : Option Path) (before path : List String) : List String :=
  match root with
  | none => path
  | some r => if before.contains r.text then path else path.erase r.text

/-- Imports a module with the import root in front of the module path. The path is as before
afterwards, whatever the import does. -/
def importWithRoot (h : Host) (root : Option Path) (name : List String) (s : Session) :
    Except ImportFailure Imported × Session :=
  let inside := { s with modulePath := enterRoot root s.modulePath }
  let (result, imports) := h.importModule inside.modulePath inside.imports name
  (result, { inside with imports, modulePath := leaveRoot root s.modulePath inside.modulePath })

/-- What an attribute name can lead to. -/
inductive Target where
  | imported (name : List String) (i : Imported)
  | member (a : Attribute)

/-- One step along an attribute name. Imported modules are attributes of their packages. -/
def Target.get? (imports : Imports) (t : Target) (part : String) : Option Target :=
  match t with
  | .imported name i =>
    match imports.lookup (name ++ [part]) with
    | some sub => some (.imported (name ++ [part]) sub)
    | none => (i.member? part).map .member
  | .member a => (a.member? part).map .member

/-- All steps along an attribute name. -/
def Target.follow? (imports : Imports) : Target → List String → Option Target
  | t, [] => some t
  | t, part :: parts => (t.get? imports part).bind (follow? imports · parts)

/-- The components of a dotted name. -/
def components (cs : List Char) : List String := (Text.pieces '.' cs).map String.ofList

/-- The predicate that an attribute of an imported module is. -/
def pick (reference : String) (imports : Imports) (home : List String) (i : Imported)
    (member : List String) : Except Failure Predicate :=
  match (Target.imported home i).follow? imports member with
  | none => .error (.refused ("predicate '" ++ reference ++ "' not found"))
  | some (.member (.predicate p)) => .ok p
  | some _ => .error (.refused ("predicate '" ++ reference ++ "' is not callable"))

/-- What a failed import of a module means for a reference: a module that cannot be found or
imported refuses it, any other error of the module goes through. -/
def importRefused (reference : String) (home : List Char) : ImportFailure → Failure
  | .raised r =>
    if r.kind == .importing then refusal r.text else .raised r
  | e => refusal e.text
where
  /-- The refusal with its reason. -/
  refusal (reason : String) : Failure :=
    .refused ("cannot import module '" ++ String.ofList home ++ "' for predicate '" ++
      reference ++ "': " ++ reason)

/-- Imports the predicate that a reference names, looking in the import root first. -/
def findPredicate (h : Host) (root : Option Path) (reference : String) (s : Session) :
    Except Failure Predicate × Session :=
  let r := Reference.split (Text.trim reference.toList)
  if r.home.isEmpty || r.member.isEmpty then
    (.error (.refused ("invalid predicate reference '" ++ reference ++ "'")), s)
  else if r.home.head? == some '.' then
    (.error (.relativeModule (String.ofList r.home)), s)
  else
    let home := components r.home
    match importWithRoot h root home s with
    | (.error e, s) => (.error (importRefused reference r.home e), s)
    | (.ok i, s) => (pick reference s.imports home i (components r.member), s)

end PerlVet
