import PerlVet.Shell.Arithmetic

/-!
Tests of the shell: comparisons of texts and numbers, questions about files, and their
combinations.
-/

namespace PerlVet.Shell

/-- What a name stands for. -/
inductive Kind where
  | missing
  | directory
  | regular (size : Nat) (executable : Bool)
  | device
  | link
  deriving DecidableEq, Repr

/-- The file that swallows what is written to it. -/
def nullDevice : List Char := "/dev/null".toList

/-- What a node of the tree is. -/
def Kind.ofNode : FileNode → Kind
  | .dir => directory
  | .file bytes executable => regular bytes.length executable
  | .link _ => link

/-- What a name stands for, links being followed. -/
def Machine.kind (m : Machine) (name : List Char) : Kind :=
  if name == nullDevice then .device
  else
    match m.tree.follow m.cwd (toText name) with
    | .ok (_, node) => .ofNode node
    | .error _ => .missing

/-- The name is that of a link. -/
def Machine.isLink (m : Machine) (name : List Char) : Bool :=
  match (toText name).toList.reverse.span (· != '/') with
  | (last, above) =>
    match m.tree.follow m.cwd (if above.isEmpty then "." else String.ofList above.reverse) with
    | .ok (p, .dir) =>
      match m.tree.find? (p ++ [String.ofList last.reverse]) with
      | some (.link _) => true
      | _ => false
    | _ => false

/-- The kinds of words in a test. -/
inductive Role where
  | unary
  | binary
  | negation
  | conjunction
  | disjunction
  | opening
  | closing
  | operand
  | missing
  deriving DecidableEq, Repr

/-- The operators of tests. -/
def role? (word : List Char) : Option Role :=
  match String.ofList word with
  | "!" => some .negation
  | "-a" => some .conjunction
  | "-o" => some .disjunction
  | "(" => some .opening
  | ")" => some .closing
  | w =>
    if ["=", "!=", "<", ">", "-eq", "-ne", "-gt", "-ge", "-lt", "-le", "-nt", "-ot",
        "-ef"].contains w then some .binary
    else if ["-r", "-w", "-x", "-e", "-f", "-d", "-c", "-b", "-p", "-u", "-g", "-k", "-s", "-t",
        "-z", "-n", "-h", "-O", "-G", "-L", "-S"].contains w then some .unary
    else none

/-- The word in front is an operand although it looks like a unary operator. -/
def isOperand : List (List Char) → Bool
  | [_] => true
  | [_, _] => false
  | _ :: op :: b :: _ => role? op == some .binary && b != [')']
  | [] => false

/-- The role of the word in front. -/
def roleOf (ws : List (List Char)) : Role :=
  match ws with
  | [] => .missing
  | w :: rest =>
    match role? w with
    | some .unary => if isOperand ws then .operand else .unary
    | some .opening => if rest.isEmpty then .operand else .opening
    | some r => r
    | none => .operand

/-- A test with a unary operator. -/
def Machine.unaryTest (m : Machine) (op a : List Char) : Bool :=
  let kind := m.kind a
  match String.ofList op with
  | "-z" => a.isEmpty
  | "-n" => !a.isEmpty
  | "-e" | "-r" | "-w" | "-O" | "-G" => kind != .missing
  | "-d" => kind == .directory
  | "-c" => kind == .device
  | "-L" | "-h" => m.isLink a
  | "-f" =>
    match kind with
    | .regular _ _ => true
    | _ => false
  | "-s" =>
    match kind with
    | .regular size _ => 0 < size
    | k => k == .directory
  | "-x" =>
    match kind with
    | .regular _ executable => executable
    | k => k == .directory
  | _ => false

/-- The number that an operand must be. -/
def operandNumber (a : List Char) : Except (List Char) Int :=
  match numberOf? (digitsIn 10) false a with
  | some n => .ok n
  | none => .error ("Illegal number: ".toList ++ a)

/-- A test with a binary operator. -/
def Machine.binaryTest (m : Machine) (a op b : List Char) : Except (List Char) Bool :=
  let compare (f : Int → Int → Bool) : Except (List Char) Bool := do
    let x ← operandNumber a
    let y ← operandNumber b
    return f x y
  match String.ofList op with
  | "=" => .ok (a == b)
  | "!=" => .ok (a != b)
  | "<" => .ok (decide (a < b))
  | ">" => .ok (decide (b < a))
  | "-eq" => compare (· == ·)
  | "-ne" => compare (· != ·)
  | "-gt" => compare (decide <| · > ·)
  | "-ge" => compare (decide <| · ≥ ·)
  | "-lt" => compare (decide <| · < ·)
  | "-le" => compare (decide <| · ≤ ·)
  | "-ef" =>
    match m.tree.follow m.cwd (toText a), m.tree.follow m.cwd (toText b) with
    | .ok (p, _), .ok (q, _) => .ok (p == q)
    | _, _ => .ok false
  | _ => .ok false

/-- The outcome of reading a part of a test: its verdict, and what follows it. -/
abbrev Verdict := Except (List Char) (Bool × List (List Char))

mutual

/-- A disjunction, the role of whose first word is known. -/
def testAny (m : Machine) : Nat → Role → List (List Char) → Verdict
  | 0, _, ws => .ok (false, ws)
  | fuel + 1, role, ws => do
    let (a, rest) ← testAll m fuel role ws
    match roleOf rest with
    | .disjunction =>
      let (b, rest) ← testAny m fuel (roleOf rest.tail) rest.tail
      return (a || b, rest)
    | _ => return (a, rest)

/-- A conjunction. -/
def testAll (m : Machine) : Nat → Role → List (List Char) → Verdict
  | 0, _, ws => .ok (false, ws)
  | fuel + 1, role, ws => do
    let (a, rest) ← testNot m fuel role ws
    match roleOf rest with
    | .conjunction =>
      let (b, rest) ← testAll m fuel (roleOf rest.tail) rest.tail
      return (a && b, rest)
    | _ => return (a, rest)

/-- A negation. -/
def testNot (m : Machine) : Nat → Role → List (List Char) → Verdict
  | 0, _, ws => .ok (false, ws)
  | fuel + 1, role, ws => do
    if role == .negation then
      let (a, rest) ← testNot m fuel (roleOf ws.tail) ws.tail
      return (!a, rest)
    else testOne m fuel role ws

/-- A single test, or one in parentheses. -/
def testOne (m : Machine) : Nat → Role → List (List Char) → Verdict
  | 0, _, ws => .ok (false, ws)
  | fuel + 1, role, ws =>
    match role, ws with
    | .missing, ws => .ok (false, ws)
    | _, [] => .ok (false, [])
    | .opening, _ :: ws =>
      if roleOf ws == .closing then .ok (false, ws.tail)
      else do
        let (a, rest) ← testAny m fuel (roleOf ws) ws
        if roleOf rest == .closing then return (a, rest.tail)
        else throw "closing paren expected".toList
    | .unary, op :: ws =>
      match ws with
      | [] => .error (op ++ ": argument expected".toList)
      | a :: rest => .ok (m.unaryTest op a, rest)
    | _, a :: ws =>
      if roleOf ws == .binary then
        match ws with
        | op :: b :: rest => do return (← m.binaryTest a op b, rest)
        | op :: [] => .error (op ++ ": argument expected".toList)
        | [] => .ok (!a.isEmpty, ws)
      else .ok (!a.isEmpty, ws)

end

/-- The verdict of a test, or what is wrong with it. -/
def Machine.test (m : Machine) (ws : List (List Char)) : Except (List Char) Bool :=
  let fuel := 4 * ws.length + 8
  let (role, ws) :=
    match ws with
    | [_, op, _] => if role? op == some Role.binary then (Role.operand, ws) else inside ws
    | ws => inside ws
  if ws.isEmpty then .ok false
  else do
    let (a, rest) ← testAny m fuel role ws
    if rest.isEmpty then return a
    else
      let last := (ws[ws.length - rest.length - 1]?).getD []
      throw ((if last.isEmpty then [] else last ++ ": ".toList) ++ "unexpected operator".toList)
where
  /-- Three or four words in parentheses are what stands between them. -/
  inside (ws : List (List Char)) : Role × List (List Char) :=
    let ws :=
      if (ws.length == 3 || ws.length == 4) && ws.head? == some ['('] &&
        ws.getLast? == some [')'] then ws.tail.dropLast else ws
    (roleOf ws, ws)

end PerlVet.Shell
