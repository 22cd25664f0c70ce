/-!
Wildcard patterns for file names: `*` stands for any characters, `?` for one, and brackets for one
of a set. A pattern has to match the whole of a name.
-/

namespace PerlVet.Glob

/-- One element of a pattern. -/
inductive Item where
  | char (c : Char)
  | one
  | many
  /-- One character in one of the ranges, or in none of them. -/
  | set (negated : Bool) (ranges : List (Char × Char))
  deriving DecidableEq, Repr

/-- The element takes the character. -/
def Item.takes : Item → Char → Bool
  | .char d, c => c == d
  | .one, _ | .many, _ => true
  | .set negated ranges, c => (ranges.any fun (lo, hi) => lo ≤ c && c ≤ hi) != negated

/-- The rests of a text, the whole of it first. -/
def rests : List Char → List (List Char)
  | [] => [[]]
  | c :: cs => (c :: cs) :: rests cs

/-- What can be left of a text after one more element, longest first, from what could be left
before it. -/
def Item.step (left : List (List Char)) : Item → List (List Char)
  | .many => (left.head?.map rests).getD []
  | item => left.filterMap fun
    | c :: cs => if item.takes c then some cs else none
    | [] => none

/-- The pattern matches the whole text. -/
def run (items : List Item) (cs : List Char) : Bool :=
  (items.foldl Item.step [cs]).any List.isEmpty

/-- The pieces of a set between the hyphens that make ranges. The first `wait` characters of a
piece hold no such hyphen; `piece` is held backwards. -/
def chunksFrom (piece : List Char) : Nat → List Char → List (List Char)
  | _, [] => [piece.reverse]
  | wait, c :: cs =>
    if c == '-' && wait == 0 then piece.reverse :: chunksFrom [] 2 cs
    else chunksFrom (c :: piece) (wait - 1) cs

/-- A hyphen at the end stands for itself. -/
def closeChunks : List (List Char) → List (List Char)
  | [c, []] => [c ++ ['-']]
  | c :: cs => c :: closeChunks cs
  | [] => []

/-- Joins pieces whose hyphen makes an empty range, and leaves that range out. -/
def dropEmptyRanges : List (List Char) → List (List Char)
  | [] => []
  | c :: cs =>
    match dropEmptyRanges cs with
    | (d :: ds) :: rest =>
      if c.getLast?.any (d < ·) then (c.dropLast ++ ds) :: rest else c :: (d :: ds) :: rest
    | rest => c :: rest

/-- The ranges that pieces with hyphens between them write; what is in no range with a neighbour
is a range of its own, and so is a hyphen with nothing in front of it. -/
def rangesOf : List (List Char) → List (Char × Char)
  | [] => []
  | [c] => c.map fun x => (x, x)
  | [] :: d :: rest => ('-', '-') :: rangesOf (d :: rest)
  | c :: (d :: ds) :: rest =>
    (c.dropLast.map fun x => (x, x)) ++ (c.getLast?.map fun x => (x, d)).toList ++
      rangesOf (ds :: rest)
  | c :: [] :: rest => (c.map fun x => (x, x)) ++ rangesOf ([] :: rest)

/-- The element that the inside of brackets stands for. -/
def setOf (inside : List Char) : Item :=
  let chunks :=
    if inside.contains '-' then
      let wait := if inside.head? == some '!' then 2 else 1
      dropEmptyRanges (closeChunks (chunksFrom [] wait inside))
    else [inside]
  match chunks with
  | ('!' :: c) :: rest =>
    if c.isEmpty && rest.isEmpty then .one else .set true (rangesOf (c :: rest))
  | chunks => .set false (rangesOf chunks)

/-- The inside of brackets after the opening one, and what follows the closing one. A closing
bracket right at the start, or after the mark of negation, belongs to the inside. -/
def bracket? (cs : List Char) : Option (List Char × List Char) :=
  let (mark, cs) := match cs with
    | '!' :: cs => (['!'], cs)
    | cs => ([], cs)
  let (first, cs) := match cs with
    | ']' :: cs => ([']'], cs)
    | cs => ([], cs)
  let inside := cs.takeWhile (· != ']')
  match cs.drop inside.length with
  | ']' :: rest => some (mark ++ first ++ inside, rest)
  | _ => none

/-- The elements of a pattern after skipping `skip` characters that have been read already. -/
def itemsFrom : Nat → List Char → List Item
  | _, [] => []
  | skip + 1, _ :: cs => itemsFrom skip cs
  | 0, '*' :: cs => .many :: itemsFrom 0 cs
  | 0, '?' :: cs => .one :: itemsFrom 0 cs
  | 0, '[' :: cs =>
    match bracket? cs with
    | some (inside, _) => setOf inside :: itemsFrom (inside.length + 1) cs
    | none => .char '[' :: itemsFrom 0 cs
  | 0, c :: cs => .char c :: itemsFrom 0 cs

/-- The elements of a pattern. -/
def parse (pattern : String) : List Item := itemsFrom 0 pattern.toList

/-- The pattern matches the whole name. -/
def isMatch (pattern name : String) : Bool := run (parse pattern) name.toList

end PerlVet.Glob
