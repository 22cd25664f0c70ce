/-!
What is wrong with a piece of structured data: a complaint and the place it is about. All
complaints about a value are gathered, in the order of its fields, before it is refused.
-/

namespace PerlVet

/-- One step into structured data. -/
inductive Key where
  | field (name : String)
  | index (i : Nat)
  deriving DecidableEq, Repr

/-- What can be wrong with one value. -/
inductive Complaint where
  | missing
  | extra
  | notText
  | notTuple
  | notArray
  | notBool
  | unclearBool
  | notInteger
  | unclearInteger
  | integerSize
  | fractional
  | notFinite
  | belowOne
  /-- Not a table where the named kind of record is wanted. -/
  | notRecord (record : String)
  | notObject
  /-- Refused by a rule of its own, for the reason given. -/
  | refused (reason : String)
  /-- Refused because an assumption did not hold. -/
  | assertion (reason : String)
  /-- The document is no JSON. -/
  | notJson
  deriving DecidableEq, Repr

namespace Complaint

/-- The short name of a complaint. -/
def tag : Complaint → String
  | missing => "missing"
  | extra => "extra_forbidden"
  | notText => "string_type"
  | notTuple => "tuple_type"
  | notArray => "list_type"
  | notBool => "bool_type"
  | unclearBool => "bool_parsing"
  | notInteger => "int_type"
  | unclearInteger => "int_parsing"
  | integerSize => "int_parsing_size"
  | fractional => "int_from_float"
  | notFinite => "finite_number"
  | belowOne => "greater_than_equal"
  | notRecord _ | notObject => "model_type"
  | refused _ => "value_error"
  | assertion _ => "assertion_error"
  | notJson => "json_invalid"

/-- A complaint in words. -/
def message : Complaint → String
  | missing => "Field required"
  | extra => "Extra inputs are not permitted"
  | notText => "Input should be a valid string"
  | notTuple => "Input should be a valid tuple"
  | notArray => "Input should be a valid array"
  | notBool => "Input should be a valid boolean"
  | unclearBool => "Input should be a valid boolean, unable to interpret input"
  | notInteger => "Input should be a valid integer"
  | unclearInteger => "Input should be a valid integer, unable to parse string as an integer"
  | integerSize => "Unable to parse input string as an integer, exceeded maximum size"
  | fractional => "Input should be a valid integer, got a number with a fractional part"
  | notFinite => "Input should be a finite number"
  | belowOne => "Input should be greater than or equal to 1"
  | notRecord record => "Input should be a valid dictionary or instance of " ++ record
  | notObject => "Input should be an object"
  | refused reason => "Value error, " ++ reason
  | assertion reason => "Assertion failed, " ++ reason
  | notJson => "Invalid JSON"

end Complaint

/-- A complaint and the way from the whole value to the part it is about. -/
structure Issue where
  loc : List Key
  complaint : Complaint
  deriving DecidableEq, Repr

/-- A value that passed every check, or everything that is wrong with it. -/
abbrev Checked (α : Type) := Except (List Issue) α

namespace Checked

variable {α β γ : Type}

/-- One complaint about the value as a whole. -/
def complain (c : Complaint) : Checked α := .error [⟨[], c⟩]

/-- Places what is said about a part below the key that leads to it. -/
def under (k : Key) : Checked α → Checked α
  | .ok a => .ok a
  | .error issues => .error (issues.map fun i => { i with loc := k :: i.loc })

/-- Combines two values; the complaints about both are kept, those about the first in front. -/
def both (f : α → β → γ) : Checked α → Checked β → Checked γ
  | .ok a, .ok b => .ok (f a b)
  | .ok _, .error bs => .error bs
  | .error as, .ok _ => .error as
  | .error as, .error bs => .error (as ++ bs)

/-- Combines the items of a list, each placed below its index. -/
def itemsFrom (i : Nat) : List (Checked α) → Checked (List α)
  | [] => .ok []
  | a :: as => both List.cons (a.under (.index i)) (itemsFrom (i + 1) as)

/-- Combines the items of a list. -/
def items (as : List (Checked α)) : Checked (List α) := itemsFrom 0 as

end Checked

end PerlVet
