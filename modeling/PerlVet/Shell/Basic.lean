/-!
The syntax of shell scripts: simple commands with assignments and redirections, the compound
commands, functions, and words with parameter, command and arithmetic expansion.

The shell knows bytes only. All its texts are lists of characters that stand for one byte each.
-/

namespace PerlVet.Shell

/-- The ways to open a file for a redirection. -/
inductive Opening where
  | input
  /-- Empties the file, unless the shell is told not to; `force` overrides that. -/
  | output (force : Bool)
  | append
  | both
  deriving DecidableEq, Repr

mutual

/-- How the value of a parameter is used. The tests take an empty value for a missing one if
`orEmpty` says so. -/
inductive Use where
  | value
  | length
  /-- The word stands in for a missing value. -/
  | default (orEmpty : Bool) (word : List Part)
  /-- The word becomes a missing value. -/
  | assign (orEmpty : Bool) (word : List Part)
  /-- A missing value is an error, which the word explains. -/
  | require (orEmpty : Bool) (word : List Part)
  /-- The word stands in for a value that is not missing. -/
  | replace (orEmpty : Bool) (word : List Part)
  /-- The value without the shortest or longest match of a pattern at one of its ends. -/
  | cut (atEnd longest : Bool) (pattern : List Part)
  /-- Something that no parameter can be used for. -/
  | wrong

/-- A part of a word. Parts in quotes are neither split into fields nor taken for patterns. -/
inductive Part where
  | text (quoted : Bool) (chars : List Char)
  | parameter (quoted : Bool) (name : String) (use : Use)
  /-- The output of commands. -/
  | output (quoted : Bool) (commands : List Script)
  /-- The value of an arithmetic expression. -/
  | arithmetic (quoted : Bool) (expression : List Part)

/-- A redirection of the channel with a number. -/
inductive Redirect where
  | file (channel : Nat) (opening : Opening) (name : List Part)
  /-- The channel becomes another name for the one that the word numbers, or is closed. -/
  | copy (channel : Nat) (other : List Part)
  /-- The text is what the channel reads. -/
  | here (channel : Nat) (text : List Part)

/-- A command. Some know the line they stand in, which messages about them name. -/
inductive Script where
  | simple (line : Nat) (assignments : List (String × List Part)) (words : List (List Part))
      (redirects : List Redirect)
  | when (test yes no : List Script)
  /-- Repeats the body while the test has the outcome given. -/
  | loop (outcome : Bool) (test body : List Script)
  /-- Repeats the body for each field of the words. -/
  | each (line : Nat) (name : String) (words : List (List Part)) (body : List Script)
  | select (line : Nat) (subject : List Part) (arms : List (List (List Part) × List Script))
  | both (first second : Script)
  | either (first second : Script)
  | negate (command : Script)
  | pipe (commands : List Script)
  | background (command : Script)
  | group (body : List Script)
  /-- Runs the body in a copy of the shell. -/
  | subshell (line : Nat) (body : List Script) (redirects : List Redirect)
  | redirected (line : Nat) (command : Script) (redirects : List Redirect)
  | define (name : String) (body : Script)

end

/-- A word. -/
abbrev Word := List Part

/-- The arguments of the shell as a word. -/
def Part.arguments : Part := .parameter true "@" .value

end PerlVet.Shell
