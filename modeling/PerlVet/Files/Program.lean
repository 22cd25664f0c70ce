import PerlVet.Files.Basic
import PerlVet.Text.Utf8

/-!
Programs: executable files whose first line names an interpreter. Every program here is a script
for the shell in the end.
-/

namespace PerlVet

/-- A script that the shell runs. -/
structure Program where
  bytes : List UInt8
  /-- The name of the file. -/
  path : String
  /-- The name of the shell. -/
  shell : String
  /-- What the first line says behind the name of the shell. -/
  option : Option String
  arguments : List String

namespace Program

/-- The shell goes by these names. -/
def shells : List String := ["/bin/sh", "/usr/bin/sh", "/bin/dash", "/usr/bin/dash"]

/-- The interpreter that the first line of a script asks for, and its argument. -/
def interpreter? (bytes : List UInt8) : Option (String × Option String) :=
  match Text.Utf8.decode (bytes.takeWhile (· != 10)) with
  | '#' :: '!' :: line =>
    let isGap (c : Char) : Bool := c == ' ' || c == '\t'
    let line := ((line.dropWhile isGap).reverse.dropWhile isGap).reverse
    let name := line.takeWhile (!isGap ·)
    let argument := (line.drop name.length).dropWhile isGap
    if name.isEmpty then none
    else some (String.ofList name,
      if argument.isEmpty then none else some (String.ofList argument))
  | _ => none

/-- The program that starts when a file is executed in a directory with arguments. An interpreter
that is a script itself is started in turn, up to a limit. -/
def find (tree : FileTree) (dir : Place) : Nat → String → List String → Except OsFault Program
  | 0, _, _ => .error .linkLoop
  | fuel + 1, file, args =>
    match tree.follow dir file with
    | .error fault => .error fault
    | .ok (_, .file bytes true) =>
      match interpreter? bytes with
      | none => .error .execFormat
      | some (name, argument) =>
        if shells.contains name then .ok ⟨bytes, file, name, argument, args⟩
        else find tree dir fuel name (argument.toList ++ file :: args)
    | .ok _ => .error .denied

/-- How many interpreters can call each other. -/
def maxInterpreters : Nat := 5

end Program

end PerlVet
