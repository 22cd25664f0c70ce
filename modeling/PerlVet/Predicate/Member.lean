import PerlVet.Predicate.Module

/-!
What can be read off modules, name spaces, predicates and plain values by name. Beside the
attributes they are given, all of them carry some of their own: a description, a name, the parts
of a number. Those that could be called are listed only where calling them is harmless.
-/

namespace PerlVet

/-- The member under which a value describes itself. -/
def description : String := "__doc__"

/-- The member under which a value holds all its members. -/
def memberTable : String := "__dict__"

/-- The member that turns a value into a number for a hash table. -/
def hashing : String := "__hash__"

/-- A member of a plain value. -/
def ValueKind.member? : ValueKind → String → Option ValueKind
  | nothing, part => if part == description then some nothing else none
  | integer, part =>
    if part == description then some text
    else if ["real", "imag", "numerator", "denominator"].contains part then some integer
    else none
  | fraction, part =>
    if part == description then some text
    else if ["real", "imag"].contains part then some fraction
    else none
  | text, part | other, part => if part == description then some text else none
  | list, part | table, part =>
    if part == description then some text
    else if part == hashing then some nothing
    else none

/-- A plain member of a predicate. Without a name of its own a predicate is no function and has
few members. -/
def Predicate.plainMember? (p : Predicate) (part : String) : Option ValueKind :=
  if part == description then some .nothing
  else if part == memberTable then some .table
  else if part == "__module__" then some .text
  else if !p.named then none
  else if ["__name__", "__qualname__"].contains part then some .text
  else if ["__annotations__", "__builtins__", "__globals__"].contains part then some .table
  else if ["__closure__", "__defaults__", "__kwdefaults__"].contains part then some .nothing
  else if part == "__code__" then some .other
  else none

/-- A member of a predicate. A function can be called through a member of its own, too. -/
def Predicate.member? (p : Predicate) (part : String) : Option Attribute :=
  if p.named && part == "__call__" then some (.predicate { p with name := "function.__call__" })
  else (p.plainMember? part).map .plain

/-- A member of a name space that it is not given. -/
def spaceMember? (part : String) : Option ValueKind :=
  if part == description then some .text
  else if part == memberTable then some .table
  else if part == hashing then some .nothing
  else none

/-- A member of an attribute. -/
def Attribute.member? (a : Attribute) (part : String) : Option Attribute :=
  match a with
  | predicate p => p.member? part
  | plain k => (k.member? part).map plain
  | space attributes => (attributes.lookup part).orElse fun _ => (spaceMember? part).map plain

namespace Imported

/-- The module was read from a file. -/
def hasFile : Imported → Bool
  | leaf _ => true
  | package _ ownFile => ownFile

/-- The attributes that a module is given. -/
def attributes : Imported → List (String × Attribute)
  | leaf attributes => attributes
  | package _ _ => []

/-- A plain member of a module that it is not given. -/
def plainMember? (i : Imported) (part : String) : Option ValueKind :=
  if part == description then some .nothing
  else if [memberTable, "__annotations__"].contains part then some .table
  else if ["__name__", "__package__"].contains part then some .text
  else if ["__loader__", "__spec__"].contains part then some .other
  else if part == "__file__" then some (if i.hasFile then .text else .nothing)
  else if part == "__builtins__" && i.hasFile then some .table
  else if part == "__cached__" && i.hasFile then some .text
  else
    match i with
    | leaf _ => none
    | package _ _ => if part == "__path__" then some .list else none

/-- The member that sets a module up; called like a predicate, it has nothing to say. -/
def setUp : Predicate where
  name := "module.__init__"
  run _ _ := .ok (.data .null)

/-- A member of a module. -/
def member? (i : Imported) (part : String) : Option Attribute :=
  match i.attributes.lookup part with
  | some a => some a
  | none =>
    if part == "__init__" then some (.predicate setUp) else (i.plainMember? part).map .plain

end Imported

end PerlVet
