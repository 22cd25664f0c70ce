import PerlVet.Toml.Scalar

/-!
Reading TOML documents, one statement after the other.
-/

namespace PerlVet.Toml

/-- A reader that may find a fault. -/
abbrev Read (α : Type) := Except Fault (α × List Char)

/-- What is missing breaks the rules. -/
def orRules {α : Type} : Option α → Except Fault α
  | some a => .ok a
  | none => .error .rules

/-- Characters of keys without quotes. -/
def isBareKey (c : Char) : Bool := c.isAlphanum || c == '-' || c == '_'

/-- One part of a dotted key. -/
def readKeyPart (cs : List Char) : Option (String × List Char) :=
  match cs with
  | '"' :: rest =>
    (basicText false (rest.length + 1) rest).map fun (t, rest) => (String.ofList t, rest)
  | '\x27' :: rest => (literalText rest).map fun (t, rest) => (String.ofList t, rest)
  | cs =>
    let name := cs.takeWhile isBareKey
    if name.isEmpty then none else some (String.ofList name, cs.drop name.length)

/-- A dotted key, with the blanks after it. -/
def readKey : Nat → List Char → Option (DottedKey × List Char)
  | 0, _ => none
  | fuel + 1, cs =>
    match readKeyPart cs with
    | none => none
    | some (part, rest) =>
      match skipSpace rest with
      | '.' :: rest => (readKey fuel (skipSpace rest)).map fun (key, rest) => (part :: key, rest)
      | rest => some ([part], rest)

mutual

/-- A value. -/
def readValue : Nat → List Char → Read Content
  | 0, _ => .error .rules
  | fuel + 1, cs =>
    match cs with
    | '"' :: _ | '\x27' :: _ =>
      (orRules (readText cs)).map fun (t, rest) => (.text (String.ofList t), rest)
    | 't' :: 'r' :: 'u' :: 'e' :: rest => .ok (.bool true, rest)
    | 'f' :: 'a' :: 'l' :: 's' :: 'e' :: rest => .ok (.bool false, rest)
    | '[' :: rest => (readItems fuel rest).map fun (items, rest) => (.list items, rest)
    | '\x7b' :: rest =>
      match skipSpace rest with
      | '\x7d' :: rest => .ok (.table [], rest)
      | rest => (readInline fuel {} rest).map fun (t, rest) => (.table t, rest)
    | cs =>
      match moment? cs with
      | some (some m, rest) => .ok (.leaf m, rest)
      | some (none, _) => .error .rules
      | none => readNumber cs

/-- The items of an array after its opening bracket or after a comma. -/
def readItems : Nat → List Char → Read (List Content)
  | 0, _ => .error .rules
  | fuel + 1, cs =>
    match skipGaps cs.length cs with
    | none => .error .rules
    | some (']' :: rest) => .ok ([], rest)
    | some cs =>
      match readValue fuel cs with
      | .error e => .error e
      | .ok (v, rest) =>
        match skipGaps rest.length rest with
        | some (']' :: rest) => .ok ([v], rest)
        | some (',' :: rest) => (readItems fuel rest).map fun (vs, rest) => (v :: vs, rest)
        | _ => .error .rules

/-- The entries of an inline table after its opening brace or after a comma. -/
def readInline : Nat → Inline → List Char → Read (Table Moment)
  | 0, _, _ => .error .rules
  | fuel + 1, d, cs =>
    match readEntry fuel cs with
    | .error e => .error e
    | .ok ((key, v), rest) =>
      match d.assign key v with
      | none => .error .rules
      | some d =>
        match skipSpace rest with
        | '\x7d' :: rest => .ok (d.content, rest)
        | ',' :: rest => readInline fuel d (skipSpace rest)
        | _ => .error .rules

/-- A key and its value. -/
def readEntry : Nat → List Char → Read (DottedKey × Content)
  | 0, _ => .error .rules
  | fuel + 1, cs =>
    match readKey (cs.length + 1) cs with
    | some (key, '=' :: rest) =>
      (readValue fuel (skipSpace rest)).map fun (v, rest) => ((key, v), rest)
    | _ => .error .rules

end

/-- A header after its brackets: the key, which `closing` follows. -/
def readHeader (closing : List Char) (cs : List Char) : Option (DottedKey × List Char) :=
  match readKey (cs.length + 1) (skipSpace cs) with
  | some (key, rest) =>
    if closing.isPrefixOf rest then some (key, rest.drop closing.length) else none
  | none => none

/-- A header or an entry. -/
def readStatement (d : Draft) (cs : List Char) : Read Draft :=
  match cs with
  | '[' :: '[' :: rest =>
    orRules ((readHeader [']', ']'] rest).bind fun (key, rest) =>
      (d.settle.appendToArray key).map fun d => (d, rest))
  | '[' :: rest =>
    orRules ((readHeader [']'] rest).bind fun (key, rest) =>
      (d.settle.openTable key).map fun d => (d, rest))
  | cs =>
    match readEntry (2 * cs.length + 2) cs with
    | .error e => .error e
    | .ok ((key, v), rest) => orRules ((d.assign key v).map fun d => (d, rest))

/-- Reads statements to the end of the document; after each, the line ends. -/
def readStatements : Nat → Draft → List Char → Except Fault Draft
  | 0, _, _ => .error .rules
  | fuel + 1, d, cs =>
    match skipSpace cs with
    | [] => .ok d
    | '\n' :: rest => readStatements fuel d rest
    | c :: rest =>
      let statement := if c == '#' then .ok (d, c :: rest) else readStatement d (c :: rest)
      match statement with
      | .error e => .error e
      | .ok (d, rest) =>
        match skipComment (skipSpace rest) with
        | some [] => .ok d
        | some ('\n' :: rest) => readStatements fuel d rest
        | _ => .error .rules

/-- A carriage return before a newline does not count. -/
def plainNewlines : List Char → List Char
  | '\r' :: '\n' :: cs => '\n' :: plainNewlines cs
  | c :: cs => c :: plainNewlines cs
  | [] => []

/-- The table that a document holds. -/
def parse (cs : List Char) : Except Fault (Table Moment) :=
  let cs := plainNewlines cs
  (readStatements (cs.length + 1) {} cs).map (·.content)

end PerlVet.Toml
