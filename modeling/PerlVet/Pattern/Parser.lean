import PerlVet.Pattern.Width
import PerlVet.Text.Blank
import PerlVet.Text.Case
import PerlVet.Text.CharName
import PerlVet.Text.Identifier
import PerlVet.Text.Integer
import PerlVet.Text.Letter

/-!
Reading pattern texts. A pattern is read one token at a time, a token being a character or a
backslash together with the character after it; the reader always knows the next token, and a
backslash without a successor is a fault as soon as it becomes the next token.
-/

namespace PerlVet.Pattern

/-- Where the reader stands and what it has learned. -/
structure Reader where
  /-- The text from the next token on. -/
  rest : List Char
  position : Nat
  flags : Flags := {}
  /-- Widths of the groups opened so far, from group 1 on; none while a group is open. -/
  groups : Array (Option Width) := #[]
  names : List (String × Nat) := []
  /-- Inside a look-behind: the number of the first group opened in it. -/
  lookbehind : Option Nat := none
  /-- Numbers of groups that conditions ask for, with the place of the first condition. -/
  conditions : Array (Nat × Nat) := #[]

/-- Reading a pattern either fails at a place or moves the reader. -/
abbrev Read := StateT Reader (Except Error)

namespace Read

/-- Fails `back` characters before the next token. -/
def fail {α : Type} (fault : Fault) (back : Nat := 0) : Read α := do
  throw ⟨fault, some ((← get).position - back)⟩

/-- The next token. -/
def peek : Read (Option (List Char)) := do
  match (← get).rest with
  | [] => return none
  | '\\' :: c :: _ => return some ['\\', c]
  | c :: _ => return some [c]

/-- Moves past the next token. -/
def advance : Read Unit := do
  let r ← get
  match r.rest with
  | [] => return
  | '\\' :: _ :: cs => step r 2 cs
  | _ :: cs => step r 1 cs
where
  /-- Puts the reader before `cs`, which must not be a backslash on its own. -/
  step (r : Reader) (width : Nat) (cs : List Char) : Read Unit := do
    if cs == ['\\'] then throw ⟨.escapeAtEnd, some (r.position + width)⟩
    set { r with rest := cs, position := r.position + width }

/-- The next token, moved past. -/
def take : Read (Option (List Char)) := do
  let t ← peek
  advance
  return t

/-- Moves past the next token if it is the character `c`. -/
def accept (c : Char) : Read Bool := do
  if (← peek) == some [c] then
    advance
    return true
  return false

/-- Takes at most `n` characters that satisfy `p`. -/
def takeWhile (p : Char → Bool) : Nat → Read (List Char)
  | 0 => return []
  | n + 1 => do
    match ← peek with
    | some [c] =>
      if p c then
        advance
        return c :: (← takeWhile p n)
      return []
    | _ => return []

/-- Takes tokens up to the character `closer`, which is moved past as well; `what` is the thing
named by them and `taken` what has been read so far. -/
def takeUntil (closer : Char) (what : String) (taken : List Char) : Nat → Read (List Char)
  | 0 => fail .endOfPattern
  | fuel + 1 => do
    match ← take with
    | none =>
      if taken.isEmpty then fail (.missingName what)
      else fail (.unterminatedName (String.ofList [closer])) taken.length
    | some t =>
      if t == [closer] then
        if taken.isEmpty then fail (.missingName what) 1
        return taken
      takeUntil closer what (taken ++ t) fuel

/-- The characters up to `closer`. -/
def name (closer : Char) (what : String) : Read (List Char) := do
  takeUntil closer what [] ((← get).rest.length + 1)

/-- The groups opened so far, the whole pattern counted as group zero. -/
def groupCount : Read Nat := return (← get).groups.size + 1

/-- The group has been opened and closed. -/
def isClosed (n : Nat) : Read Bool := do
  if n == 0 then return false
  return ((← get).groups[n - 1]?.getD none).isSome

/-- A reference inside a look-behind must be to a group closed before it. -/
def checkLookbehind (n : Nat) : Read Unit := do
  if let some first := (← get).lookbehind then
    unless ← isClosed n do fail .openReference
    if first ≤ n then fail .lookbehindReference

end Read

/-- The value of hexadecimal digits. -/
def hexValue (cs : List Char) : Nat :=
  cs.foldl (fun n c =>
    let d := if c.isDigit then c.toNat - 48 else (Text.asciiLower c).toNat - 87
    16 * n + d) 0

/-- The value of octal digits. -/
def octalValue (cs : List Char) : Nat := cs.foldl (fun n c => 8 * n + (c.toNat - 48)) 0

/-- A hexadecimal digit. -/
def isHexDigit (c : Char) : Bool :=
  c.isDigit || ('a' ≤ c && c ≤ 'f') || ('A' ≤ c && c ≤ 'F')

/-- An octal digit. -/
def isOctalDigit (c : Char) : Bool := '0' ≤ c && c ≤ '7'

/-- Control characters with a letter of their own. -/
def controlEscape? : Char → Option Nat
  | 'a' => some 7
  | 'b' => some 8
  | 'f' => some 12
  | 'n' => some 10
  | 'r' => some 13
  | 't' => some 9
  | 'v' => some 11
  | '\\' => some 92
  | _ => none

/-- Classes of characters with a letter of their own. -/
def categoryEscape? : Char → Option Item
  | 'd' => some (.category .digit false)
  | 'D' => some (.category .digit true)
  | 's' => some (.category .space false)
  | 'S' => some (.category .space true)
  | 'w' => some (.category .word false)
  | 'W' => some (.category .word true)
  | _ => none

/-- Anchors with a letter of their own. -/
def anchorEscape? : Char → Option Anchor
  | 'A' => some .textStart
  | 'b' => some .boundary
  | 'B' => some .notBoundary
  | 'Z' => some .textEnd
  | _ => none

/-- A number of exactly `n` hexadecimal digits after the escape letter `c`. -/
def readHex (c : Char) (n : Nat) : Read (List Char) := do
  let ds ← Read.takeWhile isHexDigit n
  let escape := '\\' :: c :: ds
  if ds.length != n then Read.fail (.incompleteEscape (String.ofList escape)) escape.length
  return ds

/-- The escapes that mean a single character both inside and outside of sets: by code and by
name. -/
def readCodeEscape (c : Char) : Read (Option Nat) := do
  if c == 'x' then return some (hexValue (← readHex c 2))
  else if c == 'u' then return some (hexValue (← readHex c 4))
  else if c == 'U' then
    let ds ← readHex c 8
    if 0x110000 ≤ hexValue ds then
      Read.fail (.badEscape (String.ofList ('\\' :: c :: ds))) 10
    return some (hexValue ds)
  else if c == 'N' then
    unless ← Read.accept '\x7b' do Read.fail .missingBrace
    let name ← Read.name '\x7d' "character name"
    match Text.charNamed? (String.ofList name) with
    | some n => return some n
    | none => Read.fail (.unknownCharacter (String.ofList name)) (name.length + 4)
  else return none

/-- The meaning of a backslash and `c` inside a set. -/
def readSetEscape (c : Char) : Read Item := do
  if let some n := controlEscape? c then return .char n
  if let some item := categoryEscape? c then return item
  if let some n ← readCodeEscape c then return .char n
  if isOctalDigit c then
    let ds := c :: (← Read.takeWhile isOctalDigit 2)
    if 0o377 < octalValue ds then
      Read.fail (.octalRange (String.ofList ('\\' :: ds))) (ds.length + 1)
    return .char (octalValue ds)
  if c.isDigit || c.isAlpha then Read.fail (.badEscape (String.ofList ['\\', c])) 2
  return .char c.toNat

/-- A reference to the group whose number the digits write. -/
def readReference (digits : List Char) : Read Node := do
  let n := Text.number digits
  if n < (← Read.groupCount) then
    unless ← Read.isClosed n do Read.fail .openReference (digits.length + 1)
    Read.checkLookbehind n
    return .backref n
  Read.fail (.invalidReference n) digits.length

/-- The meaning of a backslash and `c` outside of sets. -/
def readEscape (c : Char) : Read Node := do
  if let some a := anchorEscape? c then return .anchor a
  if let some item := categoryEscape? c then return .set false [item]
  if let some n := controlEscape? c then return .char n
  if let some n ← readCodeEscape c then return .char n
  if c == '0' then
    return .char (octalValue (← Read.takeWhile isOctalDigit 2))
  if c.isDigit then
    match ← Read.takeWhile Char.isDigit 1 with
    | [] => readReference [c]
    | d :: _ =>
      if isOctalDigit c && isOctalDigit d then
        match ← Read.takeWhile isOctalDigit 1 with
        | e :: _ =>
          if 0o377 < octalValue [c, d, e] then
            Read.fail (.octalRange (String.ofList ['\\', c, d, e])) 4
          return .char (octalValue [c, d, e])
        | [] => readReference [c, d]
      else readReference [c, d]
  else if c.isAlpha then Read.fail (.badEscape (String.ofList ['\\', c])) 2
  else return .char c.toNat

/-- One end of a range or a single member of a set, from its token. -/
def readMember : List Char → Read Item
  | ['\\', c] => readSetEscape c
  | c :: _ => return .char c.toNat
  | [] => Read.fail .unterminatedSet

/-- The members of a set that started at `start`, up to the closing bracket; `items` holds the
members so far, last first. -/
def readSet (start : Nat) (items : List Item) : Nat → Read (List Item)
  | 0 => Read.fail .unterminatedSet
  | fuel + 1 => do
    let unterminated {α : Type} : Read α := throw ⟨.unterminatedSet, some start⟩
    match ← Read.take with
    | none => unterminated
    | some this =>
      if this == [']'] && !items.isEmpty then return items.reverse
      let item ← readMember this
      if ← Read.accept '-' then
        match ← Read.take with
        | none => unterminated
        | some [']'] => return (.char '-'.toNat :: item :: items).reverse
        | some that =>
          let other ← readMember that
          let bad {α : Type} : Read α :=
            Read.fail (.badRange (String.ofList this) (String.ofList that))
              (this.length + 1 + that.length)
          match item, other with
          | .char lo, .char hi =>
            if hi < lo then bad
            readSet start (.range lo hi :: items) fuel
          | _, _ => bad
      else readSet start (item :: items) fuel

/-- The letters of an inline flag group after the letter `c`, up to what closes them; `flags` are
those read so far. -/
def readFlagsOn (c : List Char) (flags : Flags) : Nat → Read (Flags × Char)
  | 0 => Read.fail .flagsUnclosed
  | fuel + 1 => do
    if c == ['L'] then Read.fail .localeFlag
    let flag := match c with
      | [c] => (Flags.ofLetter? c).getD {}
      | _ => {}
    let flags := flags.union flag
    if (flag.ascii || flag.unicode) && flags.ascii && flags.unicode then
      Read.fail .repertoireFlags
    match ← Read.take with
    | none => Read.fail .flagsUnclosed
    | some t =>
      match t with
      | [')'] => return (flags, ')')
      | ['-'] => return (flags, '-')
      | [':'] => return (flags, ':')
      | _ =>
        if isFlagToken t then readFlagsOn t flags fuel
        else if isLetterToken t then Read.fail .unknownFlag t.length
        else Read.fail .flagsUnclosed t.length
where
  /-- The token is a letter with a meaning as a flag. -/
  isFlagToken : List Char → Bool
    | [c] => c == 'L' || (Flags.ofLetter? c).isSome
    | _ => false
  /-- The token is a letter of any script. -/
  isLetterToken : List Char → Bool
    | [c] => Text.isLetter c
    | _ => false

/-- The letters of an inline flag group after its minus sign, up to the colon. -/
def readFlagsOff (c : List Char) (flags : Flags) : Nat → Read Flags
  | 0 => Read.fail .missingColon
  | fuel + 1 => do
    let flag := match c with
      | [c] => (Flags.ofLetter? c).getD {}
      | _ => {}
    if c == ['L'] || flag.ascii || flag.unicode then Read.fail .repertoireOff
    let flags := flags.union flag
    match ← Read.take with
    | none => Read.fail .missingColon
    | some [':'] => return flags
    | some t =>
      if readFlagsOn.isFlagToken t then readFlagsOff t flags fuel
      else if readFlagsOn.isLetterToken t then Read.fail .unknownFlag t.length
      else Read.fail .missingColon t.length

/-- What an inline flag group means: flags for the whole pattern, or flags switched on and off for
the group that follows. -/
def readFlags (c : List Char) : Read (Option (Flags × Flags)) := do
  let fuel := (← get).rest.length + 2
  let (on, closer) ← if c == ['-'] then pure ({}, '-') else readFlagsOn c {} fuel
  if closer == ')' then
    modify fun r => { r with flags := r.flags.union on }
    return none
  if on.template then Read.fail .globalOn 1
  let off ←
    if closer == '-' then
      match ← Read.take with
      | none => Read.fail .missingFlag
      | some t =>
        if readFlagsOn.isFlagToken t then readFlagsOff t {} fuel
        else if readFlagsOn.isLetterToken t then Read.fail .unknownFlag t.length
        else Read.fail .missingFlag t.length
    else pure {}
  if off.template then Read.fail .globalOff 1
  if on.meets off then Read.fail .onAndOff 1
  return some (on, off)

/-- The group number that a condition writes: digits of any script, single underscores between
them, a plus sign before and blanks around them. -/
def conditionNumber? (cs : List Char) : Option Nat :=
  let cs := Text.trim cs
  let (negative, digits) := match cs with
    | '+' :: ds => (false, ds)
    | '-' :: ds => (true, ds)
    | ds => (false, ds)
  if digits.isEmpty || digits.head? == some '_' || digits.getLast? == some '_' ||
      !digits.all (fun c => Text.isDigit c || c == '_') || Text.hasDoubleUnderscore digits then none
  else
    match Text.readNumber (digits.filter (· != '_')) with
    | .error _ => none
    | .ok n => if negative && n != 0 then none else some n

/-- Opens a capturing group and gives its number. -/
def openGroup (name : Option (List Char)) : Read Nat := do
  let r ← get
  let index := r.groups.size + 1
  match name with
  | none => set { r with groups := r.groups.push none }
  | some cs =>
    let text := String.ofList cs
    match r.names.lookup text with
    | some earlier => Read.fail (.redefinition text index earlier) (cs.length + 1)
    | none => set { r with groups := r.groups.push none, names := (text, index) :: r.names }
  return index

/-- The width of a group that has been closed. -/
def Reader.groupWidth (r : Reader) (n : Nat) : Width :=
  if n == 0 then ⟨0, 0⟩ else ((r.groups[n - 1]?.getD none).getD ⟨0, 0⟩)

/-- Closes a capturing group whose contents are `body`. -/
def closeGroup (index : Nat) (body : List Node) : Read Unit :=
  modify fun r =>
    { r with groups := r.groups.setIfInBounds (index - 1) (some (widthAll r.groupWidth body)) }

/-- The repeat count that digits write. -/
def readCount (digits : List Char) : Read Nat := do
  match Text.readNumber digits with
  | .error e => throw ⟨.repeatDigits e, none⟩
  | .ok n =>
    if maxRepeat ≤ n then throw ⟨.repeatCount, none⟩
    return n

/-- The bounds between braces, if the text there writes bounds. -/
def readBounds : Read (Option (Nat × Option Nat)) := do
  let fuel := (← get).rest.length + 1
  let lo ← Read.takeWhile Char.isDigit fuel
  let hi ← if ← Read.accept ',' then Read.takeWhile Char.isDigit fuel else pure lo
  unless ← Read.accept '\x7d' do return none
  let lo ← readCount lo
  return some (lo, ← if hi.isEmpty then pure none else some <$> readCount hi)

/-- The contents of a group that neither captures nor switches flags; any other part alone. -/
def Node.unpacked : Node → List Node
  | .group none on off body => if on.isEmpty && off.isEmpty then body else [.group none on off body]
  | n => [n]

/-- Repeats the last of `items`; the quantifier takes `width` characters up to the next token. -/
def readRepeat (items : List Node) (lo : Nat) (hi : Option Nat) (width : Nat) :
    Read (List Node) := do
  match items with
  | [] | .anchor _ :: _ => Read.fail .nothingToRepeat width
  | .loop _ _ _ _ :: _ => Read.fail .multipleRepeat width
  | item :: before =>
    let greed ← match ← Read.peek with
      | some ['?'] => do
        Read.advance
        pure Greed.lazy
      | some ['+'] => do
        Read.advance
        pure Greed.possessive
      | _ => pure Greed.greedy
    return .loop greed lo hi item.unpacked :: before

/-- What stands after an opening parenthesis. -/
inductive Opening where
  /-- A group with contents: its name if it captures, or the flags it switches. -/
  | plain (capture : Option (Option (List Char))) (on off : Flags) (atomic : Bool)
  /-- A whole part, or nothing at all. -/
  | done (item : Option Node)
  /-- An assertion. -/
  | look (behind negated : Bool)
  /-- A condition on a group. -/
  | condition (index : Nat)
  /-- Flags for the whole pattern. -/
  | globalFlags

/-- Skips a comment of a group that started at `start`. -/
def skipComment (start : Nat) : Nat → Read Unit
  | 0 => throw ⟨.unterminatedComment, some start⟩
  | fuel + 1 => do
    if (← Read.peek).isNone then throw ⟨.unterminatedComment, some start⟩
    if (← Read.take) == some [')'] then return
    skipComment start fuel

/-- Reads the number or name of a condition. -/
def readCondition : Read Nat := do
  let cs ← Read.name ')' "group name"
  let text := String.ofList cs
  let back := cs.length + 1
  let index ←
    if Text.isIdentifier cs then
      match (← get).names.lookup text with
      | some n => pure n
      | none => Read.fail (.unknownName text) back
    else
      match conditionNumber? cs with
      | none => Read.fail (.badName text) back
      | some 0 => Read.fail .badGroupNumber back
      | some n =>
        if 1073741823 ≤ n then Read.fail (.invalidReference n) back
        modify fun r =>
          if r.conditions.any (·.1 == n) then r
          else { r with conditions := r.conditions.push (n, r.position - back) }
        pure n
  Read.checkLookbehind index
  return index

/-- Reads what follows the opening parenthesis at `start`. -/
def readOpening (start : Nat) : Read Opening := do
  unless ← Read.accept '?' do return .plain (some none) {} {} false
  match ← Read.take with
  | none => Read.fail .endOfPattern
  | some ['P'] =>
    if ← Read.accept '<' then
      let cs ← Read.name '>' "group name"
      unless Text.isIdentifier cs do
        Read.fail (.badName (String.ofList cs)) (cs.length + 1)
      return .plain (some (some cs)) {} {} false
    if ← Read.accept '=' then
      let cs ← Read.name ')' "group name"
      let text := String.ofList cs
      unless Text.isIdentifier cs do Read.fail (.badName text) (cs.length + 1)
      match (← get).names.lookup text with
      | none => Read.fail (.unknownName text) (cs.length + 1)
      | some n =>
        unless ← Read.isClosed n do Read.fail .openReference (cs.length + 1)
        Read.checkLookbehind n
        return .done (some (.backref n))
    match ← Read.take with
    | none => Read.fail .endOfPattern
    | some t => Read.fail (.unknownExtension (String.ofList ('P' :: t))) (t.length + 2)
  | some [':'] => return .plain none {} {} false
  | some ['>'] => return .plain none {} {} true
  | some ['#'] =>
    skipComment start ((← get).rest.length + 1)
    return .done none
  | some ['='] => return .look false false
  | some ['!'] => return .look false true
  | some ['<'] =>
    match ← Read.take with
    | none => Read.fail .endOfPattern
    | some ['='] => return .look true false
    | some ['!'] => return .look true true
    | some t => Read.fail (.unknownExtension (String.ofList ('<' :: t))) (t.length + 2)
  | some ['('] => return .condition (← readCondition)
  | some t =>
    if t == ['-'] || readFlagsOn.isFlagToken t then
      match ← readFlags t with
      | none => return .globalFlags
      | some (on, off) => return .plain none on off false
    Read.fail (.unknownExtension (String.ofList t)) (t.length + 1)

/-- Skips a comment up to the end of its line. -/
def skipLine : Nat → Read Unit
  | 0 => return
  | fuel + 1 => do
    match ← Read.take with
    | none | some ['\n'] => return
    | _ => skipLine fuel

/-- A set of members, each counted once. A single character that is not excluded is no set. -/
def Node.ofMembers (negated : Bool) (items : List Item) : Node :=
  match negated, items.eraseDups with
  | false, [.char n] => .char n
  | _, items => .set negated items

/-- Two parts that hold no other parts and are the same. -/
def Node.sameLeaf : Node → Node → Bool
  | .char a, .char b => a == b
  | .any, .any => true
  | .set a xs, .set b ys => a == b && xs == ys
  | .anchor a, .anchor b => a == b
  | .backref a, .backref b => a == b
  | _, _ => false

/-- Takes from a branch and from the branches after it the parts that all of them start with. -/
def hoist : List Node → List (List Node) → List Node × List (List Node)
  | [], bs => ([], [] :: bs)
  | n :: ns, bs =>
    if bs.all (fun b => b.head?.any (n.sameLeaf ·)) then
      let (common, rests) := hoist ns (bs.map List.tail)
      (n :: common, rests)
    else ([], (n :: ns) :: bs)

/-- The members of a branch that is a single character or a set of characters. -/
def branchMembers? : List Node → Option (List Item)
  | [.char n] => some [.char n]
  | [.set false items] => some items
  | _ => none

/-- A choice of branches. What they all start with comes before the choice, and a choice between
single characters is a set. -/
def choose : List (List Node) → List Node
  | [] => []
  | [b] => b
  | b :: bs =>
    let (common, rests) := hoist b bs
    match rests.mapM branchMembers? with
    | some members => common ++ [.set false members.flatten.eraseDups]
    | none => common ++ [.choice rests]

/-- The characters that verbose patterns pass over. -/
def isVerboseBlank (c : Char) : Bool :=
  c == ' ' || c == '\t' || c == '\n' || c == '\r' || c == '\x0b' || c == '\x0c'

mutual

/-- Reads branches separated by bars; `branches` holds those before, last first, and `top` says
that they are not inside a group. -/
def readBranches (verbose top : Bool) (branches : List (List Node)) : Nat → Read (List Node)
  | 0 => Read.fail .endOfPattern
  | fuel + 1 => do
    let b ← readParts verbose (top && branches.isEmpty) [] fuel
    if ← Read.accept '|' then
      let verbose ← if top then pure (← get).flags.verbose else pure verbose
      readBranches verbose top (b :: branches) fuel
    else return choose (b :: branches).reverse

/-- Reads parts up to a bar, a closing parenthesis or the end; `items` holds the parts before, last
first, and `first` says that flags for the whole pattern may stand here. -/
def readParts (verbose first : Bool) (items : List Node) : Nat → Read (List Node)
  | 0 => Read.fail .endOfPattern
  | fuel + 1 => do
    match ← Read.peek with
    | none | some ['|'] | some [')'] => return items.reverse.flatMap Node.unpacked
    | some this =>
      Read.advance
      let position := (← get).position
      match this with
      | ['\\', c] => readParts verbose first ((← readEscape c) :: items) fuel
      | [c] =>
        if verbose && isVerboseBlank c then readParts verbose first items fuel
        else if verbose && c == '#' then
          skipLine ((← get).rest.length + 1)
          readParts verbose first items fuel
        else match c with
        | '[' =>
          let start := position - 1
          let negated ← Read.accept '^'
          let set ← readSet start [] ((← get).rest.length + 1)
          readParts verbose first (.ofMembers negated set :: items) fuel
        | '?' => readParts verbose first (← readRepeat items 0 (some 1) 1) fuel
        | '*' => readParts verbose first (← readRepeat items 0 none 1) fuel
        | '+' => readParts verbose first (← readRepeat items 1 none 1) fuel
        | '\x7b' =>
          if (← Read.peek) == some ['\x7d'] then
            readParts verbose first (.char c.toNat :: items) fuel
          else
            let before ← get
            match ← readBounds with
            | none =>
              set before
              readParts verbose first (.char c.toNat :: items) fuel
            | some (lo, hi) =>
              let width := (← get).position - position
              if hi.any (· < lo) then Read.fail .repeatBounds width
              readParts verbose first (← readRepeat items lo hi (width + 1)) fuel
        | '.' => readParts verbose first (.any :: items) fuel
        | '^' => readParts verbose first (.anchor .lineStart :: items) fuel
        | '$' => readParts verbose first (.anchor .lineEnd :: items) fuel
        | '(' =>
          let start := position - 1
          let close : Read Unit := do
            unless ← Read.accept ')' do throw ⟨.unterminatedGroup, some start⟩
          match ← readOpening start with
          | .done item => readParts verbose first (item.toList ++ items) fuel
          | .globalFlags =>
            if !first || !items.isEmpty then throw ⟨.lateFlags, some start⟩
            readParts (← get).flags.verbose first items fuel
          | .look behind negated =>
            let outer := (← get).lookbehind
            if behind && outer.isNone then
              let n ← Read.groupCount
              modify fun r => { r with lookbehind := some n }
            let body ← readBranches verbose false [] fuel
            modify fun r => { r with lookbehind := outer }
            close
            readParts verbose first (.look behind negated body :: items) fuel
          | .condition index =>
            let yes ← readParts verbose false [] fuel
            let no ← if ← Read.accept '|' then readParts verbose false [] fuel else pure []
            if (← Read.peek) == some ['|'] then Read.fail .tooManyBranches
            close
            readParts verbose first (.conditional index yes no :: items) fuel
          | .plain capture on off atomic =>
            let index ← match capture with
              | some name => some <$> openGroup name
              | none => pure none
            let body ← readBranches ((verbose || on.verbose) && !off.verbose) false [] fuel
            close
            if let some i := index then closeGroup i body
            let node := if atomic then Node.atomic body else .group index on off body
            readParts verbose first (node :: items) fuel
        | _ => readParts verbose first (.char c.toNat :: items) fuel
      | _ => readParts verbose first items fuel

end

mutual

/-- The first fault that `check` finds in a part or in what it holds, outer parts first. -/
def Node.faultBy? (check : Node → Option Fault) (n : Node) : Option Fault :=
  (check n).or <| match n with
    | .group _ _ _ body | .atomic body | .look _ _ body | .loop _ _ _ body =>
      faultInAll? check body
    | .choice branches => faultInAny? check branches
    | .conditional _ yes no => (faultInAll? check yes).or (faultInAll? check no)
    | _ => none

/-- The first fault among parts. -/
def faultInAll? (check : Node → Option Fault) : List Node → Option Fault
  | [] => none
  | n :: ns => (n.faultBy? check).or (faultInAll? check ns)

/-- The first fault among branches. -/
def faultInAny? (check : Node → Option Fault) : List (List Node) → Option Fault
  | [] => none
  | b :: bs => (faultInAll? check b).or (faultInAny? check bs)

end

/-- A fault that only shows once all groups are known: a look-behind of varying width, or a
repetition in a template. -/
def Node.lateFault? (groups : Nat → Width) (template : Bool) : Node → Option Fault
  | .look true _ body =>
    let w := widthAll groups body
    if w.lo != w.hi then some .lookbehindWidth else none
  | .loop greed _ _ _ => if template then some (.templateRepeat greed) else none
  | _ => none

/-- A look-behind that reaches too far. -/
def Node.reachFault? (groups : Nat → Width) : Node → Option Fault
  | .look true _ body =>
    if 0x80000000 ≤ (widthAll groups body).lo then some .lookbehindReach else none
  | _ => none

end PerlVet.Pattern

namespace PerlVet

/-- A pattern that has been read: its text, its parts, the flags it starts with and the widths of
its groups. -/
structure Pattern where
  source : String
  parts : List Pattern.Node
  flags : Pattern.Flags
  widths : Array Pattern.Width

namespace Pattern

/-- Reads a pattern text. -/
def parse (source : String) : Except Error Pattern := do
  let cs := source.toList
  if cs == ['\\'] then throw ⟨.escapeAtEnd, some 0⟩
  let (parts, r) ← (readBranches false true [] (3 * cs.length + 8)).run
    { rest := cs, position := 0 }
  if r.flags.ascii && r.flags.unicode then throw ⟨.repertoireClash, none⟩
  unless r.rest.isEmpty do throw ⟨.unbalanced, some r.position⟩
  if let some (n, p) := r.conditions.find? (fun c => r.groups.size < c.1) then
    throw ⟨.invalidReference n, some p⟩
  if let some fault := faultInAll? (Node.lateFault? r.groupWidth r.flags.template) parts then
    throw ⟨fault, none⟩
  if let some fault := faultInAll? (Node.reachFault? r.groupWidth) parts then
    throw ⟨fault, none⟩
  return ⟨source, parts, r.flags, r.groups.map (·.getD ⟨0, 0⟩)⟩

end Pattern

end PerlVet
