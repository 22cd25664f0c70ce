import PerlVet.Decimal.Shortest
import PerlVet.Text.Quoted

/-!
Structured data as it comes out of documents, settings and line predicates: scalars, lists and
tables, with room for leaves of a further kind.
-/

namespace PerlVet

/-- A piece of structured data whose leaves may also be of type `α`. The entries of a table stand
in the order in which their keys first appeared. -/
inductive Value (α : Type) where
  | null
  | bool (b : Bool)
  | int (n : Int)
  | float (x : Float)
  | text (s : String)
  | list (items : List (Value α))
  | table (entries : List (String × Value α))
  | leaf (x : α)

/-- The entries of a table. -/
abbrev Table (α : Type) := List (String × Value α)

/-- Structured data without further leaves. -/
abbrev Datum := Value Empty

namespace Value

instance {α : Type} : Inhabited (Value α) := ⟨null⟩

mutual

/-- Turns every further leaf into data of another kind. -/
def bind {α β : Type} (f : α → Value β) : Value α → Value β
  | null => null
  | bool b => bool b
  | int n => int n
  | float x => float x
  | text s => text s
  | list items => list (bindItems f items)
  | table entries => table (bindEntries f entries)
  | leaf x => f x

/-- Turns the leaves of list items. -/
def bindItems {α β : Type} (f : α → Value β) : List (Value α) → List (Value β)
  | [] => []
  | v :: vs => v.bind f :: bindItems f vs

/-- Turns the leaves of table entries. -/
def bindEntries {α β : Type} (f : α → Value β) : Table α → Table β
  | [] => []
  | (k, v) :: es => (k, v.bind f) :: bindEntries f es

end

/-- The name of the kind of a value; `leaf` names further leaves. -/
def kind {α : Type} (leaf : α → String) : Value α → String
  | null => "NoneType"
  | bool _ => "bool"
  | int _ => "int"
  | float _ => "float"
  | text _ => "str"
  | list _ => "list"
  | table _ => "dict"
  | .leaf x => leaf x

mutual

/-- A value as reports show it: texts in quotes, entries and items in brackets. -/
def shown : Datum → String
  | null => "None"
  | bool b => if b then "True" else "False"
  | int n => toString n
  | float x => Decimal.text x
  | text s => Text.quoted s
  | list items => "[" ++ ", ".intercalate (shownItems items) ++ "]"
  | table entries => "\x7b" ++ ", ".intercalate (shownEntries entries) ++ "\x7d"

/-- Items as reports show them. -/
def shownItems : List Datum → List String
  | [] => []
  | v :: vs => v.shown :: shownItems vs

/-- Entries as reports show them. -/
def shownEntries : Table Empty → List String
  | [] => []
  | (k, v) :: es => (Text.quoted k ++ ": " ++ v.shown) :: shownEntries es

end

end Value

namespace Table

variable {α : Type}

/-- The value stored under a key. -/
def get? (t : Table α) (key : String) : Option (Value α) := t.lookup key

/-- Stores a value under a key; a key that is there already keeps its place. -/
def put (t : Table α) (key : String) (v : Value α) : Table α :=
  if t.any (·.1 == key) then t.map fun e => if e.1 == key then (key, v) else e
  else t ++ [(key, v)]

end Table

end PerlVet
