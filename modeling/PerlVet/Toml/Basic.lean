import PerlVet.Output.Line
import PerlVet.Predicate.Basic

/-!
TOML documents: the tables they build. A statement either opens a table, appends one to an array
of tables, or stores a value. What a statement may still change depends on how a table came about.
-/

namespace PerlVet.Toml

/-- What a document holds. -/
abbrev Content := Value Moment

/-- Why a text is no document. -/
inductive Fault where
  /-- It breaks the rules of the format. -/
  | rules
  /-- A number has too many digits. -/
  | digits (e : Text.TooManyDigits)
  deriving DecidableEq, Repr

/-- A dotted key. -/
abbrev DottedKey := List String

/-- Changes the table that a dotted key leads to, and makes the tables on the way that are not
there. With `intoLists`, the way leads through the last table of an array. -/
def update (intoLists : Bool) (f : Table Moment → Option (Table Moment)) :
    DottedKey → Table Moment → Option (Table Moment)
  | [], t => f t
  | k :: ks, t =>
    match t.get? k with
    | none => (update intoLists f ks []).map fun inner => t.put k (.table inner)
    | some (.table inner) => (update intoLists f ks inner).map fun inner => t.put k (.table inner)
    | some (.list items) =>
      if intoLists then
        match items.getLast? with
        | some (.table inner) =>
          (update intoLists f ks inner).map fun inner =>
            t.put k (.list (items.dropLast ++ [.table inner]))
        | _ => none
      else none
    | some _ => none

/-- Stores a value under a key that is not there yet. -/
def insertNew (key : String) (v : Content) (t : Table Moment) : Option (Table Moment) :=
  if (t.get? key).isSome then none else some (t.put key v)

/-- Appends an empty table to the array under a key. -/
def appendTable (key : String) (t : Table Moment) : Option (Table Moment) :=
  match t.get? key with
  | none => some (t.put key (.list [.table []]))
  | some (.list items) => some (t.put key (.list (items ++ [.table []])))
  | some _ => none

/-- A document that is being read. -/
structure Draft where
  content : Table Moment := []
  /-- The table that statements go to. -/
  header : DottedKey := []
  /-- Tables that may not be opened again. -/
  opened : List DottedKey := []
  /-- Tables that dotted keys made under this header; they count as opened under the next. -/
  pending : List DottedKey := []
  /-- Values that may not be changed any more, with all they hold. -/
  frozen : List DottedKey := []

namespace Draft

/-- Nothing at a key can be changed. -/
def isFrozen (d : Draft) (key : DottedKey) : Bool := d.frozen.any (·.isPrefixOf key)

/-- Before a header, the tables made by dotted keys become opened ones. -/
def settle (d : Draft) : Draft := { d with opened := d.pending ++ d.opened, pending := [] }

/-- Opens a table. -/
def openTable (d : Draft) (key : DottedKey) : Option Draft :=
  if d.opened.contains key || d.isFrozen key then none
  else
    (update true some key d.content).map fun content =>
      { d with content, header := key, opened := key :: d.opened }

/-- Appends a table to an array of tables and opens it. -/
def appendToArray (d : Draft) (key : DottedKey) : Option Draft :=
  if d.isFrozen key then none
  else
    match key.getLast? with
    | none => none
    | some last =>
      (update true (appendTable last) key.dropLast d.content).map fun content =>
        { d with
          content
          header := key
          opened := key :: d.opened.filter (!key.isPrefixOf ·)
          frozen := d.frozen.filter (!key.isPrefixOf ·) }

/-- The tables that a dotted key leads through. -/
def containers (header key : DottedKey) : List DottedKey :=
  (List.range (key.length - 1)).map fun n => header ++ key.take (n + 1)

/-- Stores a value under the current header. -/
def assign (d : Draft) (key : DottedKey) (v : Content) : Option Draft :=
  let ways := containers d.header key
  if ways.any d.opened.contains || d.isFrozen (d.header ++ key.dropLast) then none
  else
    match key.getLast? with
    | none => none
    | some last =>
      (update true (insertNew last v) (d.header ++ key.dropLast) d.content).map fun content =>
        let closed := match v with
          | .table _ | .list _ => [d.header ++ key]
          | _ => []
        { d with content, pending := ways ++ d.pending, frozen := closed ++ d.frozen }

end Draft

/-- An inline table that is being read: its content, and the values that may not be changed. -/
structure Inline where
  content : Table Moment := []
  frozen : List DottedKey := []

/-- Stores a value in an inline table. -/
def Inline.assign (d : Inline) (key : DottedKey) (v : Content) : Option Inline :=
  if d.frozen.any (·.isPrefixOf key) then none
  else
    match key.getLast? with
    | none => none
    | some last =>
      (update false (insertNew last v) key.dropLast d.content).map fun content =>
        let closed := match v with
          | .table _ | .list _ => [key]
          | _ => []
        { content, frozen := closed ++ d.frozen }

end PerlVet.Toml
