import PerlVet.Text.Digit
import PerlVet.Text.Quoted

/-!
Search patterns: their structure, the flags that change their meaning, and the faults that a
pattern text can have.
-/

namespace PerlVet.Pattern

/-- Flags of a pattern or of a part of it. -/
structure Flags where
  ignoreCase : Bool := false
  multiLine : Bool := false
  dotAll : Bool := false
  verbose : Bool := false
  ascii : Bool := false
  unicode : Bool := false
  template : Bool := false
  deriving DecidableEq, Repr, Inhabited

namespace Flags

/-- The flags set in either. -/
def union (a b : Flags) : Flags where
  ignoreCase := a.ignoreCase || b.ignoreCase
  multiLine := a.multiLine || b.multiLine
  dotAll := a.dotAll || b.dotAll
  verbose := a.verbose || b.verbose
  ascii := a.ascii || b.ascii
  unicode := a.unicode || b.unicode
  template := a.template || b.template

/-- The flags of `a` that are not set in `b`. -/
def without (a b : Flags) : Flags where
  ignoreCase := a.ignoreCase && !b.ignoreCase
  multiLine := a.multiLine && !b.multiLine
  dotAll := a.dotAll && !b.dotAll
  verbose := a.verbose && !b.verbose
  ascii := a.ascii && !b.ascii
  unicode := a.unicode && !b.unicode
  template := a.template && !b.template

/-- No flag is set. -/
def isEmpty (a : Flags) : Bool := a == {}

/-- Some flag is set in both. -/
def meets (a b : Flags) : Bool :=
  (a.ignoreCase && b.ignoreCase) || (a.multiLine && b.multiLine) || (a.dotAll && b.dotAll) ||
    (a.verbose && b.verbose) || (a.ascii && b.ascii) || (a.unicode && b.unicode) ||
    (a.template && b.template)

/-- The flags inside a group that switches `on` and `off` some of them; choosing the character
repertoire drops the earlier choice. -/
def inside (a on off : Flags) : Flags :=
  let a := if on.ascii || on.unicode then { a with ascii := false, unicode := false } else a
  (a.union on).without off

/-- The flag that a letter stands for. -/
def ofLetter? : Char → Option Flags
  | 'i' => some { ignoreCase := true }
  | 'm' => some { multiLine := true }
  | 's' => some { dotAll := true }
  | 'x' => some { verbose := true }
  | 'a' => some { ascii := true }
  | 't' => some { template := true }
  | 'u' => some { unicode := true }
  | _ => none

end Flags

/-- Classes of characters with a letter of their own. -/
inductive Category where
  | digit | space | word
  deriving DecidableEq, Repr

/-- Members of a character set. -/
inductive Item where
  | char (code : Nat)
  | range (lo hi : Nat)
  | category (c : Category) (negated : Bool)
  deriving DecidableEq, Repr

/-- Conditions on a place between characters. -/
inductive Anchor where
  | lineStart | lineEnd | textStart | textEnd | boundary | notBoundary
  deriving DecidableEq, Repr

/-- How a repetition chooses between more and fewer rounds. -/
inductive Greed where
  | greedy | lazy | possessive
  deriving DecidableEq, Repr

/-- Repeat counts stay below this number, which also stands for no bound at all. -/
def maxRepeat : Nat := 4294967295

/-- One part of a pattern; a list of parts matches one after the other. -/
inductive Node where
  | char (code : Nat)
  | any
  | set (negated : Bool) (items : List Item)
  | anchor (a : Anchor)
  | group (index : Option Nat) (on off : Flags) (body : List Node)
  | atomic (body : List Node)
  | look (behind negated : Bool) (body : List Node)
  | loop (greed : Greed) (lo : Nat) (hi : Option Nat) (body : List Node)
  | choice (branches : List (List Node))
  | backref (index : Nat)
  | conditional (index : Nat) (yes no : List Node)

/-- The faults a pattern text can have. -/
inductive Fault where
  | escapeAtEnd
  | badEscape (escape : String)
  | incompleteEscape (escape : String)
  | octalRange (escape : String)
  | missingBrace
  | missingName (what : String)
  | unterminatedName (closer : String)
  | unknownCharacter (name : String)
  | invalidReference (index : Nat)
  | openReference
  | lookbehindReference
  | unterminatedSet
  | badRange (lo hi : String)
  | nothingToRepeat
  | multipleRepeat
  | repeatBounds
  | endOfPattern
  | unknownExtension (text : String)
  | badName (name : String)
  | unknownName (name : String)
  | redefinition (name : String) (index earlier : Nat)
  | badGroupNumber
  | unterminatedComment
  | unterminatedGroup
  | tooManyBranches
  | lateFlags
  | unknownFlag
  | flagsUnclosed
  | missingFlag
  | missingColon
  | localeFlag
  | repertoireFlags
  | repertoireOff
  | globalOn
  | globalOff
  | onAndOff
  | unbalanced
  | lookbehindWidth
  /-- A look-behind of at least two to the power of 31 characters. -/
  | lookbehindReach
  /-- A repeat count of `maxRepeat` or more. -/
  | repeatCount
  /-- A repeat count that is too long to be read. -/
  | repeatDigits (e : Text.TooManyDigits)
  | templateRepeat (greed : Greed)
  | repertoireClash
  deriving DecidableEq, Repr

/-- Words for a fault. -/
def Fault.text : Fault → String
  | escapeAtEnd => "bad escape (end of pattern)"
  | badEscape e => "bad escape " ++ e
  | incompleteEscape e => "incomplete escape " ++ e
  | octalRange e => "octal escape value " ++ e ++ " outside of range 0-0o377"
  | missingBrace => "missing \x7b"
  | missingName what => "missing " ++ what
  | unterminatedName closer => "missing " ++ closer ++ ", unterminated name"
  | unknownCharacter name => "undefined character name " ++ Text.quoted name
  | invalidReference n => "invalid group reference " ++ toString n
  | openReference => "cannot refer to an open group"
  | lookbehindReference =>
    "cannot refer to group defined in the same lookbehind subpattern"
  | unterminatedSet => "unterminated character set"
  | badRange lo hi => "bad character range " ++ lo ++ "-" ++ hi
  | nothingToRepeat => "nothing to repeat"
  | multipleRepeat => "multiple repeat"
  | repeatBounds => "min repeat greater than max repeat"
  | endOfPattern => "unexpected end of pattern"
  | unknownExtension t => "unknown extension ?" ++ t
  | badName name => "bad character in group name " ++ Text.quoted name
  | unknownName name => "unknown group name " ++ Text.quoted name
  | redefinition name index earlier =>
    "redefinition of group name " ++ Text.quoted name ++ " as group " ++ toString index ++
      "; was group " ++ toString earlier
  | badGroupNumber => "bad group number"
  | unterminatedComment => "missing ), unterminated comment"
  | unterminatedGroup => "missing ), unterminated subpattern"
  | tooManyBranches => "conditional backref with more than two branches"
  | lateFlags => "global flags not at the start of the expression"
  | unknownFlag => "unknown flag"
  | flagsUnclosed => "missing -, : or )"
  | missingFlag => "missing flag"
  | missingColon => "missing :"
  | localeFlag => "bad inline flags: cannot use 'L' flag with a str pattern"
  | repertoireFlags => "bad inline flags: flags 'a', 'u' and 'L' are incompatible"
  | repertoireOff => "bad inline flags: cannot turn off flags 'a', 'u' and 'L'"
  | globalOn => "bad inline flags: cannot turn on global flag"
  | globalOff => "bad inline flags: cannot turn off global flag"
  | onAndOff => "bad inline flags: flag turned on and off"
  | unbalanced => "unbalanced parenthesis"
  | lookbehindWidth => "look-behind requires fixed-width pattern"
  | lookbehindReach => "invalid SRE code"
  | repeatCount => "the repetition number is too large"
  | repeatDigits e => e.message
  | templateRepeat greed => "internal: unsupported template operator " ++
      match greed with
      | .greedy => "MAX_REPEAT"
      | .lazy => "MIN_REPEAT"
      | .possessive => "POSSESSIVE_REPEAT"
  | repertoireClash => "ASCII and UNICODE flags are incompatible"

/-- A fault and where the pattern text has it, if it has a place. -/
structure Error where
  fault : Fault
  position : Option Nat
  deriving DecidableEq, Repr

/-- The report of an error in the pattern text `source`: a pattern of several lines is also located
by line and column. -/
def Error.message (source : List Char) (e : Error) : String :=
  match e.position with
  | none => e.fault.text
  | some p =>
    let before := source.take p
    let line := before.count '\n' + 1
    let column := p + 1 - ((before.zipIdx.filter (·.1 == '\n')).getLast?.map (·.2 + 1)).getD 0
    e.fault.text ++ " at position " ++ toString p ++
      if source.contains '\n' then
        " (line " ++ toString line ++ ", column " ++ toString column ++ ")"
      else ""

end PerlVet.Pattern
