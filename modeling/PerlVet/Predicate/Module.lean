import PerlVet.Predicate.Basic

/-!
Modules of predicates. A module lies in a directory under a dotted name; the directories along
the name are packages.
-/

namespace PerlVet

/-- Kinds of values that are no predicates. -/
inductive ValueKind where
  | nothing
  | integer
  | fraction
  | text
  | list
  | table
  | other
  deriving DecidableEq, Repr

/-- What a module or a name space holds under a name. -/
inductive Attribute where
  | predicate (p : Predicate)
  /-- Something that is no predicate. -/
  | plain (kind : ValueKind)
  | space (attributes : List (String × Attribute))

/-- A module: the directory it lies in, the components of its name, and what importing it gives. -/
structure Module where
  dir : Place
  name : List String
  attributes : List (String × Attribute) := []
  /-- Importing the module raises this error. -/
  raises : Option Raised := none

namespace Module

/-- The place of a module, without the ending of its file. -/
def place (m : Module) : Place := m.dir ++ m.name

/-- The place is a package on the way to the module. -/
def hasPackage (m : Module) (p : Place) : Bool :=
  m.dir.length < p.length && p.length < m.place.length && p.isPrefixOf m.place

end Module

/-- A module that has been imported. -/
inductive Imported where
  /-- A module with its attributes. -/
  | leaf (attributes : List (String × Attribute))
  /-- A package, whose modules lie in the places given. Only if it has a file of its own was
  anything run to import it. -/
  | package (places : List Place) (ownFile : Bool)

/-- The modules imported so far, by the components of their names. -/
abbrev Imports := List (List String × Imported)

/-- A dotted name. -/
def dotted (name : List String) : String := ".".intercalate name

end PerlVet
