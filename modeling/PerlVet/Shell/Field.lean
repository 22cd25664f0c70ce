import PerlVet.Glob
import PerlVet.Shell.Machine

/-!
Fields: what words become. A word is expanded to pieces, of which those that come from unquoted
expansions divide it; the characters of a field that were not quoted can form a pattern.
-/

namespace PerlVet.Shell

/-- A piece of an expanded word. -/
inductive Piece where
  | quoted (c : Char)
  /-- Stands in the script without quotes. -/
  | plain (c : Char)
  /-- Comes from an expansion without quotes. -/
  | loose (c : Char)
  /-- Makes a field even if it is empty. -/
  | anchor
  /-- Divides two fields. -/
  | gap
  deriving DecidableEq, Repr

/-- A character of a field, and whether it can be part of a pattern. -/
structure Mark where
  char : Char
  active : Bool
  deriving DecidableEq, Repr

/-- The character of a piece. -/
def Piece.mark? : Piece → Option Mark
  | quoted c => some ⟨c, false⟩
  | plain c | loose c => some ⟨c, true⟩
  | anchor | gap => none

/-- Characters that can divide fields without making empty ones. -/
def isGapChar (c : Char) : Bool := c == ' ' || c == '\t' || c == '\n'

/-- The fields of pieces. `open?` is the field that has been started, held backwards; `afterBlank`
says that a blank has just ended a field, so that a sign that divides fields ends no other. -/
def splitFields (separators : List Char) :
    Option (List Mark) → Bool → List Piece → List (List Mark)
  | open?, _, [] => (open?.map List.reverse).toList
  | open?, afterBlank, p :: ps =>
    let add (m : Mark) : List (List Mark) :=
      splitFields separators (some (m :: open?.getD [])) false ps
    match p with
    | .quoted c => add ⟨c, false⟩
    | .plain c => add ⟨c, true⟩
    | .anchor => splitFields separators (some (open?.getD [])) false ps
    | .gap => (open?.map List.reverse).toList ++ splitFields separators none false ps
    | .loose c =>
      if !separators.contains c then add ⟨c, true⟩
      else if isGapChar c then
        match open? with
        | some f => f.reverse :: splitFields separators none true ps
        | none => splitFields separators none afterBlank ps
      else if afterBlank then splitFields separators none false ps
      else (open?.getD []).reverse :: splitFields separators none false ps

/-- The characters of a field. -/
def charsOf (marks : List Mark) : List Char := marks.map (·.char)

/-- The characters of all pieces. -/
def textOf (ps : List Piece) : List Char := charsOf (ps.filterMap Piece.mark?)

/-- A named class of characters in a set. -/
def classRanges (name : String) : List (Char × Char) :=
  let upper := ('A', 'Z')
  let lower := ('a', 'z')
  let digit := ('0', '9')
  match name with
  | "alnum" => [upper, lower, digit]
  | "alpha" => [upper, lower]
  | "blank" => [(' ', ' '), ('\t', '\t')]
  | "cntrl" => [('\x00', '\x1f'), ('\x7f', '\x7f')]
  | "digit" => [digit]
  | "graph" => [('!', '~')]
  | "lower" => [lower]
  | "print" => [(' ', '~')]
  | "punct" => [('!', '/'), (':', '@'), ('[', '\x60'), ('\x7b', '~')]
  | "space" => [(' ', ' '), ('\t', '\r')]
  | "upper" => [upper]
  | "xdigit" => [digit, ('A', 'F'), ('a', 'f')]
  | _ => []

/-- The inside of a set after its first character, and how many characters it takes up with the
bracket that closes it. -/
def setRanges : Nat → List Mark → Option (List (Char × Char) × Nat)
  | 0, _ => none
  | _, [] => none
  | fuel + 1, m :: ms =>
    if m.active && m.char == ']' then some ([], 1) else setMember fuel m ms
where
  /-- A member of a set, and those that follow it. -/
  setMember (fuel : Nat) (m : Mark) (ms : List Mark) : Option (List (Char × Char) × Nat) :=
    match m, ms with
    | ⟨'[', true⟩, ⟨':', true⟩ :: rest =>
      let name := (charsOf rest).takeWhile Char.isAlpha
      match charsOf (rest.drop name.length) with
      | ':' :: ']' :: _ =>
        (setRanges fuel (rest.drop (name.length + 2))).map fun (rs, n) =>
          (classRanges (String.ofList name) ++ rs, n + name.length + 4)
      | _ => (setRanges fuel ms).map fun (rs, n) => (('[', '[') :: rs, n + 1)
    | m, ⟨'-', true⟩ :: hi :: rest =>
      if hi.active && hi.char == ']' then
        (setRanges fuel ms).map fun (rs, n) => ((m.char, m.char) :: rs, n + 1)
      else (setRanges fuel rest).map fun (rs, n) => ((m.char, hi.char) :: rs, n + 3)
    | m, ms => (setRanges fuel ms).map fun (rs, n) => ((m.char, m.char) :: rs, n + 1)

/-- The set after an opening bracket, and how many characters it takes up. A closing bracket right
at its start belongs to it. -/
def set? (ms : List Mark) : Option (Glob.Item × Nat) :=
  let negated := ms.head? == some ⟨'!', true⟩
  let inside := if negated then ms.drop 1 else ms
  match inside with
  | [] => none
  | m :: rest =>
    (setRanges.setMember (inside.length + 1) m rest).map fun (rs, n) =>
      (.set negated rs, if negated then n + 1 else n)

/-- The elements of a pattern after skipping characters that have been read already. A backslash
that comes out of an expansion quotes what follows it. -/
def itemsOf : Nat → List Mark → List Glob.Item
  | _, [] => []
  | skip + 1, _ :: ms => itemsOf skip ms
  | 0, m :: ms =>
    if !m.active then .char m.char :: itemsOf 0 ms
    else if m.char == '*' then .many :: itemsOf 0 ms
    else if m.char == '?' then .one :: itemsOf 0 ms
    else if m.char == '\\' then
      match ms with
      | d :: _ => .char d.char :: itemsOf 1 ms
      | [] => [.char '\\']
    else if m.char == '[' then
      match set? ms with
      | some (item, n) => item :: itemsOf n ms
      | none => .char '[' :: itemsOf 0 ms
    else .char m.char :: itemsOf 0 ms

/-- The elements of the pattern that pieces form. -/
def patternOf (ps : List Piece) : List Glob.Item := itemsOf 0 (ps.filterMap Piece.mark?)

/-- The field can stand for several file names. -/
def hasWildcard (ms : List Mark) : Bool :=
  ms.any fun m => m.active && (m.char == '*' || m.char == '?' || m.char == '[')

/-- The pieces up to the first gap. -/
def beforeGap (ps : List Piece) : List Piece := ps.takeWhile (· != .gap)

/-- The pieces without the shortest or longest match of a pattern at one of their ends. A match
reaches up to a gap only, but what follows it at the end is cut off too; and where a match is
looked for from the left, that is done up to the first gap. -/
def cut (atEnd longest : Bool) (items : List Glob.Item) (ps : List Piece) : List Piece :=
  let places :=
    if atEnd == longest then List.range ((beforeGap ps).length + 1)
    else (List.range (ps.length + 1)).reverse
  let fits (part : List Piece) : Bool := Glob.run items (textOf (beforeGap part))
  match places.find? fun n => fits (if atEnd then ps.drop n else ps.take n) with
  | some n => if atEnd then ps.take n else ps.drop n
  | none => ps

/-- Divides a field at its slashes. -/
def steps : List Mark → List (List Mark)
  | [] => [[]]
  | m :: ms =>
    match steps ms with
    | s :: ss => if m.char == '/' then [] :: s :: ss else (m :: s) :: ss
    | [] => [[m]]

/-- The names in the directory that a text names. -/
def Machine.namesIn (m : Machine) (dir : List Char) : List (List Char) :=
  match m.tree.follow m.cwd (if dir.isEmpty then "." else toText dir) with
  | .ok (p, .dir) =>
    ["." , ".."].map String.toList ++
      m.tree.nodes.filterMap fun (q, _) =>
        if q.dropLast == p then q.getLast?.map ofString else none
  | _ => []

/-- Something has this name, be it a link that leads nowhere. -/
def Machine.isThere (m : Machine) (name : List Char) : Bool :=
  (m.tree.follow m.cwd (toText name)).toOption.isSome ||
    match (toText name).toList.reverse.span (· != '/') with
    | (last, above) =>
      match m.tree.follow m.cwd (if above.isEmpty then "." else String.ofList above.reverse) with
      | .ok (p, .dir) => (m.tree.find? (p ++ [String.ofList last.reverse])).isSome
      | _ => false

/-- The names of files that the steps of a pattern match, continuing a name. -/
def Machine.matching (m : Machine) (front : List Char) : List (List Mark) → List (List Char)
  | [] => if m.isThere front then [front] else []
  | [step] =>
    if hasWildcard step then (candidates step).map (front ++ ·)
    else
      let name := front ++ charsOf step
      if m.isThere name then [name] else []
  | step :: rest =>
    if hasWildcard step then
      (candidates step).flatMap fun name => m.matching (front ++ name ++ ['/']) rest
    else m.matching (front ++ charsOf step ++ ['/']) rest
where
  /-- The names that a step matches. One that starts with a dot is matched by a dot only. -/
  candidates (step : List Mark) : List (List Char) :=
    let items := itemsOf 0 step
    ((m.namesIn front).filter fun name =>
      (name.head? != some '.' || items.head? == some (.char '.')) && Glob.run items name)

/-- One name stands before another or is equal to it, by the codes of their characters. -/
def upTo (a b : List Char) : Bool := !List.lex b a fun x y => x.toNat.blt y.toNat

/-- The fields that a field stands for: the file names it matches, in order, or else itself. -/
def Machine.pathnames (m : Machine) (field : List Mark) : List (List Char) :=
  if hasWildcard field && !m.has 'f' then
    let found := (m.matching [] (steps field)).mergeSort upTo
    if found.isEmpty then [charsOf field] else found
  else [charsOf field]

end PerlVet.Shell
