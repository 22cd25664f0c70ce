import PerlVet.Shell.Source

/-!
Reading shell scripts. Every reader takes a budget that bounds how deep it can go; one that is
larger than the length of the script is never used up.
-/

namespace PerlVet.Shell

/-- Where the parts of a word stand, which decides what ends them and what is special in them. -/
inductive Setting where
  /-- In the open; what ends a word ends them. -/
  | bare
  /-- In double quotes. -/
  | quoted
  /-- In a here-document, all of which they are. -/
  | document
  /-- Behind the operator of a parameter in braces, perhaps in double quotes. -/
  | braces (quoted : Bool)
  /-- In an arithmetic expression, inside so many parentheses. -/
  | arithmetic (depth : Nat)
  deriving DecidableEq, Repr

/-- Parts in this setting count as quoted. -/
def Setting.isQuoted : Setting → Bool
  | bare | braces false => false
  | _ => true

/-- The characters that a backslash quotes in double quotes and the like. -/
def Setting.escapes (s : Setting) (c : Char) : Bool :=
  c == '$' || c == '\\' || c == '\x60' ||
    match s with
    | quoted => c == '"'
    | braces _ => c == '"' || c == '\x7d'
    | _ => false

/-- The character needs no special care in this setting. -/
def Setting.isPlain (s : Setting) (c : Char) : Bool :=
  c != '$' && c != '\\' && c != '\x60' &&
    match s with
    | bare => !isMeta c && c != '\x27' && c != '"'
    | quoted => c != '"'
    | document => true
    | braces false => c != '\x27' && c != '"' && c != '\x7d' && c != '\n'
    | braces true => c != '"' && c != '\x7d'
    | arithmetic _ => c != '(' && c != ')'

/-- The name of a parameter at the start of a text; only in braces can a number be longer than a
digit. -/
def parameterName (inBraces : Bool) (cs : List Char) : List Char :=
  match cs with
  | c :: _ =>
    if c.isDigit then if inBraces then cs.takeWhile Char.isDigit else [c]
    else if "@*#?-$!".toList.contains c then [c]
    else cs.takeWhile isNameChar
  | [] => []

/-- The name before an equals sign at the start of a text. -/
def assignment? (cs : List Char) : Option (List Char) :=
  let name := cs.takeWhile isNameChar
  if isName name && (cs.drop name.length).head? == some '=' then some name else none

/-- The text between grave accents, without the backslashes that quote in it, and how many
characters it takes up with the closing accent. -/
def graveText (quoted : Bool) : List Char → Option (List Char × Nat)
  | '\x60' :: _ => some ([], 1)
  | '\\' :: c :: cs =>
    (graveText quoted cs).map fun (t, n) =>
      if c == '$' || c == '\\' || c == '\x60' || (quoted && c == '"') then (c :: t, n + 2)
      else ('\\' :: c :: t, n + 2)
  | c :: cs => (graveText quoted cs).map fun (t, n) => (c :: t, n + 1)
  | [] => none

/-- The operator after the name of a parameter: how many characters it has, and the use it makes
of the word that follows. Matching a pattern is the same inside quotes and outside. -/
def operator? (cs : List Char) : Option (Nat × Bool × (Word → Use)) :=
  match cs with
  | '#' :: '#' :: _ => some (2, true, .cut false true)
  | '#' :: _ => some (1, true, .cut false false)
  | '%' :: '%' :: _ => some (2, true, .cut true true)
  | '%' :: _ => some (1, true, .cut true false)
  | ':' :: c :: _ => (test c).map fun f => (2, false, f true)
  | c :: _ => (test c).map fun f => (1, false, f false)
  | [] => none
where
  /-- The tests by their signs. -/
  test : Char → Option (Bool → Word → Use)
    | '-' => some .default
    | '=' => some .assign
    | '?' => some .require
    | '+' => some .replace
    | _ => none

/-- The line without the tabs it starts with, if they are to be dropped. -/
def untabbed (drop : Bool) (line : List Char) : List Char :=
  if drop then line.dropWhile (· == '\t') else line

/-- The lines of a here-document up to its last line, how many lines they are, and what follows
them. -/
def documentLines (tabs : Bool) (last : List Char) :
    Nat → List Char → List Char × Nat × List Char
  | 0, cs => ([], 0, cs)
  | fuel + 1, cs =>
    if cs.isEmpty then ([], 0, [])
    else
      let raw := cs.takeWhile (· != '\n')
      let after := cs.drop (raw.length + 1)
      let line := untabbed tabs raw
      if line == last then ([], 1, after)
      else
        let (text, n, rest) := documentLines tabs last fuel after
        let ending := if (cs.drop raw.length).isEmpty then [] else ['\n']
        (line ++ ending ++ text, n + 1, rest)

/-- Takes the text of a here-document out of what follows the current line. -/
def takeDocument (tabs : Bool) (last : List Char) : Reading (List Char) :=
  modifyGet fun s =>
    let line := s.rest.takeWhile (· != '\n')
    let below := s.rest.drop (line.length + 1)
    let (text, n, rest) := documentLines tabs last below.length below
    (text, { s with rest := line ++ '\n' :: rest, held := s.held + n })

/-- The characters of a word as they are written, without its quotes; the last line of a
here-document is found by them. -/
def plainText : Word → List Char
  | [] => []
  | .text _ cs :: ps => cs ++ plainText ps
  | _ :: ps => plainText ps

/-- Some part of the word is quoted. -/
def hasQuotes (w : Word) : Bool :=
  w.any fun
    | .text quoted _ => quoted
    | _ => false

/-- The parts of a text in double quotes. They make a field even if they are empty, unless they
are just the arguments. -/
def quotation (ps : Word) : Word :=
  match ps with
  | [.parameter true "@" .value] => ps
  | ps => .text true [] :: ps

/-- The built-in commands that no function can be named for. -/
def specialBuiltins : List String :=
  [".", ":", "break", "continue", "eval", "exec", "exit", "export", "local", "readonly", "return",
   "set", "shift", "times", "trap", "unset"]

mutual

/-- An expansion after its dollar sign. -/
def readExpansion : Nat → Bool → Reading Part
  | 0, _ => exhausted
  | fuel + 1, quoted => do
    match ← look with
    | '(' :: '(' :: _ =>
      skip 2
      return .arithmetic quoted (← readParts fuel (.arithmetic 0))
    | '(' :: _ =>
      skip 1
      let body ← readList fuel true
      expectClose
      return .output quoted body
    | '\x7b' :: cs =>
      skip 1
      match cs with
      | '#' :: d :: _ =>
        if d == '\x7d' then
          skip 2
          return .parameter quoted "#" .value
        else
          let name := parameterName true (cs.drop 1)
          if !name.isEmpty && (cs.drop (1 + name.length)).head? == some '\x7d' then
            skip (name.length + 2)
            return .parameter quoted (String.ofList name) .length
          else if (cs.drop 2).head? == some '\x7d' then
            skip 3
            return .parameter quoted "#" .wrong
          else readBraces fuel quoted
      | _ => readBraces fuel quoted
    | cs =>
      let name := parameterName false cs
      if name.isEmpty then return .text quoted ['$']
      else
        skip name.length
        return .parameter quoted (String.ofList name) .value

/-- A parameter in braces, from its name on. -/
def readBraces : Nat → Bool → Reading Part
  | 0, _ => exhausted
  | fuel + 1, quoted => do
    let cs ← look
    let name := parameterName true cs
    skip name.length
    match cs.drop name.length with
    | '\x7d' :: _ =>
      skip 1
      return .parameter quoted (String.ofList name) (if name.isEmpty then .wrong else .value)
    | after =>
      match operator? after with
      | some (n, isPattern, use) =>
        skip n
        let word ← readParts fuel (.braces (quoted && !isPattern))
        return .parameter quoted (String.ofList name) (if name.isEmpty then .wrong else use word)
      | none =>
        let _ ← readParts fuel (.braces quoted)
        return .parameter quoted (String.ofList name) .wrong

/-- The parts of a word in a setting, to the end of which the reader moves. -/
def readParts : Nat → Setting → Reading Word
  | 0, _ => exhausted
  | fuel + 1, setting => do
    let quoted := setting.isQuoted
    match ← look with
    | [] =>
      match setting with
      | .bare | .document => return []
      | .braces _ => refuse "Syntax error: Missing '\x7d'"
      | .quoted => refuse "Syntax error: Unterminated quoted string"
      | .arithmetic _ => refuse "Syntax error: Missing '))'"
    | c :: cs =>
      if c == '$' then
        skip 1
        let part ← readExpansion fuel quoted
        return part :: (← readParts fuel setting)
      else if c == '\x60' then
        match graveText quoted cs with
        | none =>
          skip (cs.length + 1)
          refuse "Syntax error: EOF in backquote substitution"
        | some (text, n) =>
          let line := (← get).line
          skip (n + 1)
          let after ← get
          set { rest := text, line : Source }
          let body ← readList fuel true
          if !(← look).isEmpty then unexpected none
          set after
          return .output quoted body :: (← readParts fuel setting)
      else if c == '\\' then
        match cs with
        | [] =>
          skip 1
          return .text true ['\\'] :: (← readParts fuel setting)
        | d :: _ =>
          skip 2
          let chars :=
            if d == '\n' then []
            else if !quoted || setting.escapes d then [d]
            else ['\\', d]
          return .text (quoted || d != '\n') chars :: (← readParts fuel setting)
      else if c == '\x27' && !quoted then
        let run := cs.takeWhile (· != '\x27')
        skip (run.length + 1)
        if (← look).isEmpty then refuse "Syntax error: Unterminated quoted string"
        skip 1
        return .text true run :: (← readParts fuel setting)
      else if setting.isPlain c then
        let run := (c :: cs).takeWhile setting.isPlain
        skip run.length
        return .text quoted run :: (← readParts fuel setting)
      else
        match setting with
        | .bare =>
          if c == '"' then
            skip 1
            let inner ← readParts fuel .quoted
            return quotation inner ++ (← readParts fuel .bare)
          else return []
        | .quoted | .document =>
          skip 1
          return []
        | .braces inQuotes =>
          if c == '\n' then refuse "Syntax error: Missing '\x7d'"
          skip 1
          if c == '\x7d' then return []
          else if inQuotes then readParts fuel setting
          else
            let inner ← readParts fuel .quoted
            return quotation inner ++ (← readParts fuel setting)
        | .arithmetic depth =>
          if c == '(' then
            skip 1
            return .text true ['('] :: (← readParts fuel (.arithmetic (depth + 1)))
          else if depth == 0 && cs.head? == some ')' then
            skip 2
            return []
          else
            skip 1
            return .text true [')'] :: (← readParts fuel (.arithmetic (depth - 1)))

/-- A redirection. -/
def readRedirect : Nat → Reading Redirect
  | 0 => exhausted
  | fuel + 1 => do
    let number? := ((← look).head?.filter Char.isDigit).map fun c => c.toNat - 48
    if number?.isSome then skip 1
    let input := number?.getD 0
    let output := number?.getD 1
    match ← look with
    | '<' :: '<' :: cs =>
      let tabs := cs.head? == some '-'
      skip (if tabs then 3 else 2)
      let last ← readTarget fuel
      let text ← takeDocument tabs (plainText last)
      if hasQuotes last then return .here input [.text true text]
      else
        let after ← get
        set { rest := text, line := after.line : Source }
        let parts ← readParts fuel .document
        set after
        return .here input parts
    | '<' :: '&' :: _ =>
      skip 2
      return .copy input (← readTarget fuel)
    | '<' :: '>' :: _ =>
      skip 2
      return .file input .both (← readTarget fuel)
    | '<' :: _ =>
      skip 1
      return .file input .input (← readTarget fuel)
    | '>' :: '>' :: _ =>
      skip 2
      return .file output .append (← readTarget fuel)
    | '>' :: '&' :: _ =>
      skip 2
      return .copy output (← readTarget fuel)
    | '>' :: '|' :: _ =>
      skip 2
      return .file output (.output true) (← readTarget fuel)
    | _ =>
      skip 1
      return .file output (.output false) (← readTarget fuel)

/-- The word after the sign of a redirection. -/
def readTarget : Nat → Reading Word
  | 0 => exhausted
  | fuel + 1 => do
    skipBlanks
    match ← look with
    | [] => unexpected none
    | c :: _ => if isMeta c then unexpected none else readParts fuel .bare

/-- The redirections that stand next. -/
def readRedirects : Nat → Reading (List Redirect)
  | 0 => exhausted
  | fuel + 1 => do
    skipBlanks
    if atRedirect (← look) then
      let r ← readRedirect fuel
      return r :: (← readRedirects fuel)
    else return []

/-- The rest of a simple command that starts in a line, after what has been read of it. -/
def readSimple : Nat → Nat → List (String × Word) → List Word → List Redirect → Reading Script
  | 0, _, _, _, _ => exhausted
  | fuel + 1, line, assigned, words, redirects => do
    skipBlanks
    let cs ← look
    if atRedirect cs then
      let r ← readRedirect fuel
      readSimple fuel line assigned words (redirects ++ [r])
    else
      match cs with
      | [] => return .simple line assigned words redirects
      | '(' :: _ =>
        match words with
        | [w] =>
          if assigned.isEmpty && redirects.isEmpty then
            skip 1
            expectClose
            let name := plainText w
            if hasQuotes w || !isName name || specialBuiltins.contains (String.ofList name) then
              refuse "Syntax error: Bad function name"
            skipLines
            return .define (String.ofList name) (← readCommand fuel)
          else return .simple line assigned words redirects
        | _ => return .simple line assigned words redirects
      | c :: _ =>
        if isMeta c then return .simple line assigned words redirects
        else
          match if words.isEmpty then assignment? cs else none with
          | some name =>
            skip (name.length + 1)
            let w ← readParts fuel .bare
            readSimple fuel line (assigned ++ [(String.ofList name, w)]) words redirects
          | none =>
            let w ← readParts fuel .bare
            -- A command stands in the line where its first word ends.
            let here := (← get).line
            let line := if words.isEmpty && assigned.isEmpty then here else line
            readSimple fuel line assigned (words ++ [w]) redirects

/-- The branches of a conditional after its first word, up to the word that ends it. -/
def readBranches : Nat → Reading Script
  | 0 => exhausted
  | fuel + 1 => do
    let test ← readList fuel false
    expectWord "then"
    let yes ← readList fuel false
    skipBlanks
    let cs ← look
    if startsWith "elif" cs then
      skip 4
      return .when test yes [← readBranches fuel]
    else if startsWith "else" cs then
      skip 4
      let no ← readList fuel false
      expectWord "fi"
      return .when test yes no
    else
      expectWord "fi"
      return .when test yes []

/-- The body of a loop. -/
def readBody : Nat → Reading (List Script)
  | 0 => exhausted
  | fuel + 1 => do
    expectWord "do"
    let body ← readList fuel false
    expectWord "done"
    return body

/-- Words up to something that ends a word. -/
def readWords : Nat → Reading (List Word)
  | 0 => exhausted
  | fuel + 1 => do
    skipBlanks
    match ← look with
    | [] => return []
    | c :: _ =>
      if isMeta c then return []
      else
        let w ← readParts fuel .bare
        return w :: (← readWords fuel)

/-- A loop over words, after its first word. -/
def readEach : Nat → Reading Script
  | 0 => exhausted
  | fuel + 1 => do
    let line := (← get).line
    skipBlanks
    let name := plainWord (← look)
    let after := (← look).drop name.length
    if !isName name || !after.head?.all isMeta then refuse "Syntax error: Bad for loop variable"
    skip name.length
    skipLines
    if startsWith "in" (← look) then
      skip 2
      let words ← readWords fuel
      match ← look with
      | ';' :: cs => if cs.head? == some ';' then unexpected none else skip 1
      | '\n' :: _ => skip 1
      | _ => unexpected none
      skipLines
      return .each line (String.ofList name) words (← readBody fuel)
    else
      if (← look).head? == some ';' then skip 1
      skipLines
      return .each line (String.ofList name) [[.arguments]] (← readBody fuel)

/-- The patterns of an arm, up to the parenthesis that ends them. -/
def readPatterns : Nat → Reading (List Word)
  | 0 => exhausted
  | fuel + 1 => do
    skipBlanks
    -- A sign in place of a pattern is taken for one.
    if (← look).head?.any isMeta then skip 1
    let p ← readParts fuel .bare
    skipBlanks
    if (← look).head? == some '|' then
      skip 1
      return p :: (← readPatterns fuel)
    else
      expectClose
      return [p]

/-- The arms of a case distinction, and the word that ends it. -/
def readArms : Nat → Reading (List (List Word × List Script))
  | 0 => exhausted
  | fuel + 1 => do
    skipLines
    if startsWith "esac" (← look) then
      skip 4
      return []
    else
      if (← look).head? == some '(' then skip 1
      let patterns ← readPatterns fuel
      let body ← readList fuel true
      skipLines
      match ← look with
      | ';' :: ';' :: _ =>
        skip 2
        return (patterns, body) :: (← readArms fuel)
      | cs =>
        if startsWith "esac" cs then
          skip 4
          return [(patterns, body)]
        else unexpected (some (inQuotes ";;"))

/-- A command with the redirections after it. -/
def readRedirected : Nat → Nat → Script → Reading Script
  | 0, _, _ => exhausted
  | fuel + 1, line, command => do
    let redirects ← readRedirects fuel
    match command with
    | .subshell line body _ => return .subshell line body redirects
    | .group [.subshell inner body own] =>
      -- The redirections of a group around one subshell take the place of the subshell's own.
      return .subshell inner body (if redirects.isEmpty then own else redirects)
    | command => return if redirects.isEmpty then command else .redirected line command redirects

/-- One command. -/
def readCommand : Nat → Reading Script
  | 0 => exhausted
  | fuel + 1 => do
    skipBlanks
    let line := (← get).line
    let cs ← look
    if startsWith "if" cs then
      skip 2
      readRedirected fuel line (← readBranches fuel)
    else if startsWith "while" cs || startsWith "until" cs then
      skip 5
      let test ← readList fuel false
      let body ← readBody fuel
      readRedirected fuel line (.loop (startsWith "while" cs) test body)
    else if startsWith "for" cs then
      skip 3
      readRedirected fuel line (← readEach fuel)
    else if startsWith "case" cs then
      skip 4
      skipBlanks
      if (← look).head?.all isMeta then unexpected (some "word")
      let subject ← readParts fuel .bare
      skipLines
      expectWord "in"
      readRedirected fuel line (.select line subject (← readArms fuel))
    else if startsWith "\x7b" cs then
      skip 1
      let body ← readList fuel false
      expectWord "\x7d"
      readRedirected fuel line (.group body)
    else if cs.head? == some '(' then
      skip 1
      let body ← readList fuel false
      expectClose
      readRedirected fuel line (.subshell line body [])
    else if !atRedirect cs && (cs.head?.all isMeta || reserved.any (startsWith · cs)) then
      unexpected none
    else readSimple fuel line [] [] []

/-- The commands of a pipeline after the first. -/
def readPipe : Nat → Reading (List Script)
  | 0 => exhausted
  | fuel + 1 => do
    skipBlanks
    match ← look with
    | '|' :: '|' :: _ => return []
    | '|' :: _ =>
      skip 1
      skipLines
      let command ← readCommand fuel
      return command :: (← readPipe fuel)
    | _ => return []

/-- A pipeline. -/
def readPipeline : Nat → Reading Script
  | 0 => exhausted
  | fuel + 1 => do
    skipBlanks
    let negated := startsWith "!" (← look)
    if negated then skip 1
    let first ← readCommand fuel
    let others ← readPipe fuel
    let command := if others.isEmpty then first else .pipe (first :: others)
    return if negated then .negate command else command

/-- Pipelines joined to a first one by conditions. -/
def readAndOr : Nat → Script → Reading Script
  | 0, _ => exhausted
  | fuel + 1, first => do
    skipBlanks
    match ← look with
    | '&' :: '&' :: _ =>
      skip 2
      skipLines
      readAndOr fuel (.both first (← readPipeline fuel))
    | '|' :: '|' :: _ =>
      skip 2
      skipLines
      readAndOr fuel (.either first (← readPipeline fuel))
    | _ => return first

/-- A list of commands up to something that ends it. Only if `mayBeEmpty` says so need there be
no command. -/
def readList : Nat → Bool → Reading (List Script)
  | 0, _ => exhausted
  | fuel + 1, mayBeEmpty => do
    skipLines
    let cs ← look
    if cs.isEmpty || (mayBeEmpty && atEnd cs) then return []
    else
      let command ← readAndOr fuel (← readPipeline fuel)
      match ← look with
      | ';' :: ';' :: _ => return [command]
      | ';' :: _ | '\n' :: _ =>
        skip 1
        return command :: (← readList fuel true)
      | '&' :: _ =>
        skip 1
        return .background command :: (← readList fuel true)
      | _ => return [command]

/-- The commands of a line, with all the lines that belong to them. -/
def readLine : Nat → Reading (List Script)
  | 0 => exhausted
  | fuel + 1 => do
    skipBlanks
    match ← look with
    | [] => return []
    | '\n' :: _ =>
      skip 1
      return []
    | _ =>
      let command ← readAndOr fuel (← readPipeline fuel)
      match ← look with
      | ';' :: ';' :: _ => unexpected none
      | ';' :: _ =>
        skip 1
        return command :: (← readLine fuel)
      | '&' :: _ =>
        skip 1
        return .background command :: (← readLine fuel)
      | [] => return [command]
      | '\n' :: _ =>
        skip 1
        return [command]
      | _ => unexpected none

end

/-- The parts of a text as they stand in a here-document, if it can be read. -/
def documentParts (text : List Char) : Word :=
  match readParts (8 * text.length + 64) .document { rest := text } with
  | .ok (parts, _) => parts
  | .error _ => [.text true text]

/-- Reads the next line of commands. -/
def Source.readLine (s : Source) : Except SyntaxError (List Script × Source) :=
  Shell.readLine (8 * s.rest.length + 64) s

end PerlVet.Shell
