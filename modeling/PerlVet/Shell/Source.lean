import PerlVet.Shell.Basic

/-!
The text of a script while it is being read, with the number of the current line, and the small
steps of reading it: blanks, reserved words, and the names of what stands next.
-/

namespace PerlVet.Shell

/-- What is left of a script. -/
structure Source where
  rest : List Char
  line : Nat := 1
  /-- Lines of here-documents that have been taken out behind the current line. -/
  held : Nat := 0

namespace Source

/-- Moves over one character. -/
def next (s : Source) : Source :=
  match s.rest with
  | [] => s
  | '\n' :: rest => { rest, line := s.line + 1 + s.held }
  | _ :: rest => { s with rest }

/-- Moves over characters. -/
def drop : Nat → Source → Source
  | 0, s => s
  | n + 1, s => drop n s.next

end Source

/-- A script that cannot be read: the line of the fault, and words for it. -/
structure SyntaxError where
  line : Nat
  message : String
  deriving DecidableEq, Repr

/-- Reading a part of a script. -/
abbrev Reading := StateT Source (Except SyntaxError)

/-- What is left. -/
def look : Reading (List Char) := return (← get).rest

/-- Moves over characters. -/
def skip (n : Nat) : Reading Unit := modify (Source.drop n)

/-- Gives up. -/
def refuse {α : Type} (message : String) : Reading α := do throw ⟨(← get).line, message⟩

/-- Gives up because the reader went deeper than the script is long. -/
def exhausted {α : Type} : Reading α := refuse "script too deep"

/-- Characters that end a word. -/
def isMeta (c : Char) : Bool :=
  c == ' ' || c == '\t' || c == '\n' || c == ';' || c == '&' || c == '|' || c == '<' || c == '>' ||
    c == '(' || c == ')'

/-- Characters that start a quotation or an expansion. -/
def isSpecial (c : Char) : Bool :=
  c == '\x27' || c == '"' || c == '$' || c == '\\' || c == '\x60'

/-- Characters of names. -/
def isNameChar (c : Char) : Bool := c.isAlphanum || c == '_'

/-- The text can be the name of a variable. -/
def isName (cs : List Char) : Bool :=
  cs.all isNameChar && cs.head?.any (!·.isDigit)

/-- How many characters of blanks and comments a text starts with. -/
def blanks : List Char → Nat
  | '\\' :: '\n' :: cs => blanks cs + 2
  | c :: cs =>
    if c == ' ' || c == '\t' then blanks cs + 1
    else if c == '#' then 1 + (cs.takeWhile (· != '\n')).length
    else 0
  | [] => 0

/-- How many characters of blanks, comments and newlines a text starts with; `comment` says that
it starts inside a comment. -/
def emptyLines (comment : Bool) : List Char → Nat
  | '\n' :: cs => emptyLines false cs + 1
  | '\\' :: '\n' :: cs => emptyLines false cs + 2
  | c :: cs =>
    if comment || c == ' ' || c == '\t' then emptyLines comment cs + 1
    else if c == '#' then emptyLines true cs + 1
    else 0
  | [] => 0

/-- Moves over blanks and a comment. -/
def skipBlanks : Reading Unit := do skip (blanks (← look))

/-- Moves over blanks, comments and newlines. -/
def skipLines : Reading Unit := do skip (emptyLines false (← look))

/-- The plain characters at the start of a text. -/
def plainWord (cs : List Char) : List Char := cs.takeWhile fun c => !isMeta c && !isSpecial c

/-- The text starts with a certain word, all of it plain. -/
def startsWith (word : String) (cs : List Char) : Bool :=
  plainWord cs == word.toList && (cs.drop word.length).head?.all isMeta

/-- Words that are reserved where a command can start. -/
def reserved : List String :=
  ["!", "case", "do", "done", "elif", "else", "esac", "fi", "for", "if", "in", "then", "until",
   "while", "\x7b", "\x7d"]

/-- Words that end a list of commands. -/
def closers : List String := ["do", "done", "elif", "else", "esac", "fi", "then", "\x7d"]

/-- A list of commands ends here. -/
def atEnd (cs : List Char) : Bool :=
  cs.isEmpty || cs.head? == some ')' || [';', ';'].isPrefixOf cs || closers.any (startsWith · cs)

/-- The text starts with a redirection, perhaps with the number of a channel. -/
def atRedirect : List Char → Bool
  | '<' :: _ | '>' :: _ => true
  | c :: '<' :: _ | c :: '>' :: _ => c.isDigit
  | _ => false

/-- A sign in quotes. -/
def inQuotes (sign : String) : String := "\"" ++ sign ++ "\""

/-- The name of what a text starts with, for messages. -/
def tokenName (cs : List Char) : String :=
  match cs with
  | [] => "end of file"
  | '\n' :: _ => "newline"
  | ';' :: ';' :: _ => inQuotes ";;"
  | ';' :: _ => inQuotes ";"
  | '&' :: '&' :: _ => inQuotes "&&"
  | '&' :: _ => inQuotes "&"
  | '|' :: '|' :: _ => inQuotes "||"
  | '|' :: _ => inQuotes "|"
  | '(' :: _ => inQuotes "("
  | ')' :: _ => inQuotes ")"
  | cs =>
    if atRedirect cs then "redirection"
    else ((reserved.find? (startsWith · cs)).map inQuotes).getD "word"

/-- Gives up because of what stands next. -/
def unexpected {α : Type} (wanted : Option String) : Reading α := do
  skipBlanks
  let cs ← look
  if cs.head? == some '\n' then skip 1
  refuse ("Syntax error: " ++ tokenName cs ++ " unexpected" ++
    (wanted.map fun w => " (expecting " ++ w ++ ")").getD "")

/-- Moves over a reserved word, which must stand next. -/
def expectWord (word : String) : Reading Unit := do
  skipBlanks
  if startsWith word (← look) then skip word.length else unexpected (some (inQuotes word))

/-- Moves over a closing parenthesis, which must stand next. -/
def expectClose : Reading Unit := do
  skipBlanks
  if (← look).head? == some ')' then skip 1 else unexpected (some (inQuotes ")"))

end PerlVet.Shell
