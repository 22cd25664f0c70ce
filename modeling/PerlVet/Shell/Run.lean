import PerlVet.Files.Program
import PerlVet.Shell.Builtin
import PerlVet.Shell.Parser

/-!
Running shell scripts: expanding words, redirecting channels, and carrying out commands. Scripts
are read and run line by line, so that what stands before a fault of syntax takes effect. A budget
bounds how deep everything can go, and with it how long loops can run.
-/

namespace PerlVet.Shell

/-- Drops newlines at the end. -/
def dropNewlines (cs : List Char) : List Char := (cs.reverse.dropWhile (· == '\n')).reverse

/-- The arguments of the shell as one text. -/
def Machine.joined (m : Machine) : List Char :=
  let gap := match m.lookup? "IFS" with
    | some ifs => ifs.take 1
    | none => [' ']
  gap.intercalate m.arguments

/-- The parameter stands for all arguments. -/
def isArguments (name : String) : Bool := name == "@" || name == "*"

/-- The pieces of a value. -/
def valuePieces (quoted : Bool) (v : List Char) : List Piece :=
  v.map (if quoted then Piece.quoted else Piece.loose)

/-- The pieces of all arguments. Where fields are made, they stay apart, unless they are quoted to
make one. -/
def Machine.argumentPieces (m : Machine) (full quoted : Bool) (name : String) : List Piece :=
  if !full || (quoted && name == "*") then valuePieces quoted m.joined
  else
    [Piece.gap].intercalate (m.arguments.map fun a =>
      (if quoted then [Piece.anchor] else []) ++ valuePieces quoted a)

/-- The pieces of the value of a parameter. -/
def Machine.parameterPieces (m : Machine) (full quoted : Bool) (name : String) : List Piece :=
  if isArguments name then m.argumentPieces full quoted name
  else valuePieces quoted ((m.parameter? name).getD [])

/-- The value of a parameter as one text. -/
def Machine.valueOf (m : Machine) (name : String) : Option (List Char) :=
  if isArguments name then some m.joined else m.parameter? name

/-- The parameter has no value, or an empty one where that counts as none. -/
def Machine.isMissing (m : Machine) (orEmpty : Bool) (name : String) : Bool :=
  match m.valueOf name with
  | none => true
  | some v => v.isEmpty && orEmpty

/-- Where a text without quotes stands in a word. -/
structure Position where
  first : Bool
  last : Bool

/-- The home directory in place of a tilde at the start of a text, and what follows it. Only the
tilde of the current user is replaced, and only if nothing but the end of a word or a stop follows
it. -/
def Machine.tilde? (m : Machine) (last : Bool) (stops : Char → Bool) :
    List Char → Option (List Piece × List Char)
  | '~' :: cs =>
    if (cs.head?.map stops).getD last then
      (m.lookup? "HOME").map fun home => (home.map Piece.quoted, cs)
    else none
  | _ => none

/-- Replaces tildes after colons. -/
def Machine.tildesAfterColons (m : Machine) (last : Bool) : Nat → List Char → List Piece
  | 0, cs => cs.map .plain
  | _, [] => []
  | fuel + 1, ':' :: cs =>
    match m.tilde? last (fun c => c == '/' || c == ':') cs with
    | some (home, rest) => .plain ':' :: home ++ m.tildesAfterColons last fuel rest
    | none => .plain ':' :: m.tildesAfterColons last fuel cs
  | fuel + 1, c :: cs => .plain c :: m.tildesAfterColons last fuel cs

/-- The pieces of a text without quotes. -/
def Machine.plainPieces (m : Machine) (assigned : Bool) (p : Position) (cs : List Char) :
    List Piece :=
  let stops (c : Char) : Bool := c == '/' || (assigned && c == ':')
  let (home, rest) := (if p.first then m.tilde? p.last stops cs else none).getD ([], cs)
  home ++ if assigned then m.tildesAfterColons p.last rest.length rest else rest.map .plain

/-- A text without quotes becomes like the outcome of an expansion. -/
def Piece.loosen : Piece → Piece
  | plain c => loose c
  | p => p

/-- How words are expanded. -/
structure Manner where
  /-- Fields are made. -/
  full : Bool
  /-- Tildes are replaced as in assignments. -/
  assigned : Bool := false

/-- The name of a file that can be opened without the tree. -/
def Machine.device? (m : Machine) (name : List Char) : Option (Option Channel) :=
  match String.ofList name with
  | "/dev/null" => some (some .nowhere)
  | "/dev/stdin" | "/dev/fd/0" => some (m.channel? 0)
  | "/dev/stdout" | "/dev/fd/1" => some (m.channel? 1)
  | "/dev/stderr" | "/dev/fd/2" => some (m.channel? 2)
  | _ => none

/-- Why a file cannot be opened, in the words of the shell. -/
def openFault (creating : Bool) (fault : OsFault) : String :=
  match fault with
  | .noEntry | .notDirectory => if creating then "Directory nonexistent" else "No such file"
  | f => f.text

/-- Opens a file to read it. -/
def Machine.openInput (m : Machine) (name : List Char) : Except String (Channel × Machine) :=
  match m.tree.follow m.cwd (toText name) with
  | .ok (_, .file bytes _) => .ok (m.addSource (bytes.map fun b => Char.ofNat b.toNat))
  | .ok _ => .ok (.nowhere, m)
  | .error fault => .error (openFault false fault)

/-- The place where a file of a name can be made. -/
def Machine.newPlace (m : Machine) (name : List Char) : Except OsFault Place :=
  match (toText name).toList.reverse.span (· != '/') with
  | (last, above) =>
    let last := String.ofList last.reverse
    match m.tree.follow m.cwd (if above.isEmpty then "." else String.ofList above.reverse) with
    | .ok (p, .dir) => if last.isEmpty then .error .isDirectory else .ok (p ++ [last])
    | .ok _ => .error .notDirectory
    | .error fault => .error fault

/-- Opens a file to write it, from its start or at its end. -/
def Machine.openOutput (m : Machine) (append mustBeNew : Bool) (name : List Char) :
    Except String (Channel × Machine) :=
  match m.tree.follow m.cwd (toText name) with
  | .ok (_, .dir) => .error OsFault.isDirectory.text
  | .ok (p, .file _ executable) =>
    if mustBeNew then .error "File exists"
    else if append then .ok (.file p, m)
    else .ok (.file p, { m with tree := m.tree.set p (.file [] executable) })
  | .ok (_, .link _) => .error OsFault.linkLoop.text
  | .error _ =>
    match m.newPlace name with
    | .ok p => .ok (.file p, { m with tree := m.tree.set p (.file [] false) })
    | .error fault => .error (openFault true fault)

/-- Opens a file for a redirection. -/
def Machine.openFile (m : Machine) (opening : Opening) (name : List Char) :
    Except String (Channel × Machine) :=
  match m.device? name with
  | some (some c) => .ok (c, m)
  | some none => .error "No such file"
  | none =>
    match opening with
    | .input => m.openInput name
    | .output force => m.openOutput false (!force && m.has 'C') name
    | .append => m.openOutput true false name
    | .both => m.openInput name

/-- Lets a channel stand for the file of a name; false if it cannot be opened. -/
def redirectFile (n : Nat) (opening : Opening) (name : List Char) : Run Bool := do
  let m ← get
  match m.openFile opening name with
  | .ok (c, m) =>
    set (m.redirect n (some c))
    return true
  | .error reason =>
    let verb := if opening == .input then "cannot open " else "cannot create "
    complain (verb.toList ++ name ++ ": ".toList ++ reason.toList)
    return false

/-- Lets a channel stand for what another one stands for, or closes it. -/
def redirectCopy (n : Nat) (other : List Char) : Run Bool := do
  let m ← get
  match other with
  | ['-'] =>
    set (m.redirect n none)
    return true
  | [c] =>
    if c.isDigit then
      match m.channel? (c.toNat - 48) with
      | some channel =>
        set (m.redirect n (some channel))
        return true
      | none =>
        -- A complaint about the channel for complaints is lost.
        if n != 2 then complain ([c] ++ ": Bad file descriptor".toList)
        return false
    else wrongNumber
  | _ => wrongNumber
where
  /-- Gives up on a word that numbers no channel. -/
  wrongNumber : Run Bool := do
    modify fun m => { m with line := m.readLine }
    fault "Syntax error: Bad fd number".toList

/-- Ends the shell if the last command failed, no one has asked for its status, and the option for
that is on. -/
def checkFailure (tested : Bool) : Run Unit := do
  let m ← get
  if m.has 'e' && !tested && m.status != 0 then throw (.ended (m.status % 256 : Nat))

/-- What is said about a process that a signal ended. -/
def signalWords (n : Nat) : Option String :=
  match signalName n with
  | "INT" | "PIPE" => none
  | "HUP" => some "Hangup"
  | "QUIT" => some "Quit"
  | "ILL" => some "Illegal instruction"
  | "TRAP" => some "Trace/breakpoint trap"
  | "ABRT" => some "Aborted"
  | "BUS" => some "Bus error"
  | "FPE" => some "Floating point exception"
  | "KILL" => some "Killed"
  | "USR1" => some "User defined signal 1"
  | "SEGV" => some "Segmentation fault"
  | "USR2" => some "User defined signal 2"
  | "ALRM" => some "Alarm clock"
  | "TERM" => some "Terminated"
  | name => some name

/-- The status of a process that has ended, and a word about the signal that ended it. -/
def reportEnd (status : Int) : Run Nat := do
  if status < 0 then
    match signalWords status.natAbs with
    | some words => write 2 (words.toList ++ ['\n'])
    | none => pure ()
    return 128 + status.natAbs
  else return status.toNat

/-- Works in a copy of the shell. Only what it wrote and did to files lasts. A signal to the shell
itself ends both. -/
def inCopy (change : Machine → Machine) (work : Run Int) : Run Int := fun m =>
  let (result, after) := work (change m)
  let kept := { m with
    written := after.written, tree := after.tree, sources := after.sources, child := m.child }
  match result with
  | .ok n =>
    if n < 0 && after.process == m.process then (.error (.ended n), kept) else (.ok n, kept)
  | .error _ => (.ok after.status, kept)

/-- A copy of the shell forgets what was to be done when it ends, and its loops. -/
def Machine.copied (m : Machine) : Machine :=
  { m with traps := m.traps.filter (·.2.isEmpty), loops := 0 }

/-- A number for a buffer that is not in use. -/
def Machine.freeBuffer (m : Machine) : Nat :=
  m.channels.foldl (fun n (_, c) =>
    match c with
    | .buffer k => max n (k + 1)
    | _ => n) m.sources.length

/-- Takes out what was written to a buffer. -/
def takeBuffer (n : Nat) : Run (List Char) :=
  modifyGet fun m =>
    ((m.writtenTo (· == .buffer n)).map fun b => Char.ofNat b.toNat,
      { m with written := m.written.filter (·.1 != .buffer n) })

/-- One turn of a loop; false if the loop ends. -/
def turn (body : Run Unit) : Run Bool := fun m =>
  match body m with
  | (.ok (), m) => (.ok true, m)
  | (.error (.leave n), m) => if n ≤ 1 then (.ok false, m) else (.error (.leave (n - 1)), m)
  | (.error (.next n), m) => if n ≤ 1 then (.ok true, m) else (.error (.next (n - 1)), m)
  | (.error e, m) => (.error e, m)

/-- Work inside one more loop. -/
def insideLoop {α : Type} (work : Run α) : Run α := fun m =>
  let (r, after) := work { m with loops := m.loops + 1 }
  (r, { after with loops := m.loops })

/-- Work with a channel table that is put back afterwards. -/
def keepingChannels {α : Type} (work : Run α) : Run α := fun m =>
  let (r, after) := work m
  (r, { after with channels := m.channels })

/-- Work of a built-in command, which messages name. A fault of an ordinary one is just a
status. -/
def asBuiltin (name : String) (special : Bool) (work : Run Nat) : Run Unit := fun m =>
  let (r, after) := work { m with doing := some name, lost := false }
  let settled (m' : Machine) : Machine := { m' with doing := m.doing, lost := false }
  match r with
  | .ok n =>
    if after.lost then
      let (_, after) := complain (name ++ ": I/O error").toList after
      (.ok (), { settled after with status := n ||| 1 })
    else (.ok (), { settled after with status := n })
  | .error .fault =>
    if special then (.error .fault, settled after)
    else (.ok (), { settled after with status := 2 })
  | .error e => (.error e, settled after)

/-- Puts variables back to their former bindings. -/
def Machine.restore (m : Machine) (former : List (String × Option Binding)) : Machine :=
  former.foldl (fun m (name, b) => m.bind name b) m

/-- Work with variables that are put back afterwards. -/
def keepingBindings (names : List String) (work : Run Unit) : Run Unit := fun m =>
  let former := names.map fun n => (n, m.binding? n)
  let (r, after) := work m
  (r, after.restore former)

/-- Work of a function with its arguments. -/
def asFunction (args : List (List Char)) (work : Run Unit) : Run Unit := fun m =>
  let (r, after) := work { m with arguments := args, loops := 0, locals := [] :: m.locals }
  let frame := after.locals.head?.getD []
  let after := { after.restore frame with
    arguments := m.arguments, loops := m.loops, locals := m.locals }
  match r with
  | .error .back => (.ok (), after)
  | r => (r, after)

/-- How many functions can call each other. -/
def maxCalls : Nat := 1000

/-- Sets variables that a command is given, for it and what it runs. -/
def assignExported : List (String × List Char) → Run Unit
  | [] => return ()
  | (name, v) :: rest => do
    assign name v
    modify fun m => m.bind name ((m.binding? name).map fun b => { b with exported := true })
    assignExported rest

/-- Sets variables. -/
def assignPlainly : List (String × List Char) → Run Unit
  | [] => return ()
  | (name, v) :: rest => do
    assign name v
    assignPlainly rest

/-- What a name stands for as a command. -/
inductive CommandKind where
  | special
  | builtin
  | function (body : Script)
  | program

/-- What a name stands for as a command. Functions come before built-in commands that are not
special. -/
def Machine.commandKind (m : Machine) (name : String) : CommandKind :=
  if specialBuiltins.contains name then .special
  else
    match m.functions.lookup name with
    | some body => .function body
    | none => if plainBuiltins.contains name then .builtin else .program

/-- The directories for programs. -/
def Machine.searchPath (m : Machine) : List (List Char) :=
  Text.pieces ':' ((m.lookup? "PATH").getD [])

/-- The files that a program of a name can be. -/
def Machine.programFiles (m : Machine) (name : List Char) : List (List Char) :=
  if name.contains '/' then [name]
  else m.searchPath.map fun dir => if dir.isEmpty then name else dir ++ '/' :: name

/-- The file that a program of a name is, or why there is none. Files that are not there count
least. -/
def Machine.findProgram (m : Machine) (name : List Char) : Except OsFault (List Char) :=
  go .noEntry (m.programFiles name)
where
  /-- The first file that can be executed. -/
  go (fault : OsFault) : List (List Char) → Except OsFault (List Char)
    | [] => .error fault
    | file :: files =>
      match m.tree.follow m.cwd (toText file) with
      | .ok (_, .file _ true) => .ok file
      | .ok _ => go .denied files
      | .error .noEntry | .error .notDirectory => go fault files
      | .error f => go f files

/-- Remembers a program that has been found by its name. -/
def remember (name : List Char) : Run Unit :=
  modify fun m =>
    if name.contains '/' || m.known.contains name then m else { m with known := name :: m.known }

/-- The variables that a program is given. -/
def Machine.exported (m : Machine) : List (String × List Char) :=
  m.bindings.filterMap fun (name, b) =>
    if b.exported then b.value.map (name, ·) else none

/-- The directories for programs when none are set. -/
def standardPath : String := "/usr/local/sbin:/usr/local/bin:/usr/sbin:/usr/bin:/sbin:/bin"

/-- The variables of a shell that starts with an environment in a directory, and the name of the
directory. A name for it in the environment is kept if it leads there. -/
def startingBindings (environment : List (String × List Char)) (tree : FileTree) (cwd : Place) :
    List (String × Binding) × List Char :=
  let given := environment.filter fun e => isName e.1.toList
  let physical := ofString ("/" ++ "/".intercalate cwd)
  let place := match given.lookup "PWD" with
    | some name =>
      match tree.follow cwd (toText name) with
      | .ok (p, .dir) => if p == cwd && name.head? == some '/' then name else physical
      | _ => physical
    | none => physical
  let own : List (String × Binding) :=
    [("PWD", { value := some place, exported := true }),
     ("IFS", { value := some [' ', '\t', '\n'] }),
     ("OPTIND", { value := some ['1'] }),
     ("PPID", { value := some ['9', '9', '9'] })]
  let defaults : List (String × Binding) :=
    [("PATH", { value := some standardPath.toList }),
     ("PS1", { value := some "# ".toList }),
     ("PS2", { value := some "> ".toList }),
     ("PS4", { value := some "+ ".toList })]
  let imported := given.map fun (n, v) => (n, ({ value := some v, exported := true } : Binding))
  let first (xs ys : List (String × Binding)) : List (String × Binding) :=
    xs ++ ys.filter fun y => !xs.any (·.1 == y.1)
  (first (first own imported) defaults, place)

/-- A shell that starts a script. -/
def Machine.start (p : Program) (environment : List (String × List Char)) (tree : FileTree)
    (cwd : Place) : Machine :=
  let (bindings, cwdName) := startingBindings environment tree cwd
  { name := ofString p.path, arguments := p.arguments.map ofString, bindings, tree, cwd, cwdName }

/-- Why some work stopped, if it did. -/
def stopOf (work : Run Unit) : Run (Option Stop) := fun m =>
  match work m with
  | (.ok (), m) => (.ok none, m)
  | (.error e, m) => (.ok (some e), m)

/-- The exit status with which some work ends the shell. -/
def ending (work : Run Unit) : Run Int := do
  match ← stopOf work with
  | some (.ended n) => return n
  | some .fault => return 2
  | _ => return ((← get).status % 256 : Nat)

/-- Work that can be left like a function. -/
def leaving (work : Run Unit) : Run Unit := fun m =>
  match work m with
  | (.error .back, m) => (.ok (), m)
  | r => r

/-- Carries out what the first line of a script says behind the name of the shell. Only options
can stand there. -/
def startOptions (p : Program) : Run Unit := do
  match p.option with
  | none => return ()
  | some option =>
    let name := (← get).name
    modify fun m => { m with name := ofString p.shell }
    match ofString option with
    | ['-', '-'] => pure ()
    | '-' :: cs => setLetters true cs
    | '+' :: cs => setLetters false cs
    | cs => fault ("cannot open ".toList ++ cs ++ ": No such file".toList)
    modify fun m => { m with name }

mutual

/-- The output of commands that run in a copy of the shell. -/
def capture : Nat → List Script → Run (List Char)
  | 0, _ => return []
  | fuel + 1, body => do
    let n := (← get).freeBuffer
    let status ← inCopy (fun m => m.copied.redirect 1 (some (.buffer n)))
      (runToEnd fuel false body)
    let text ← takeBuffer n
    let status ← reportEnd status
    modify fun m => { m with inner := status }
    return dropNewlines (text.filter (· != '\x00'))

/-- Expands a part of a word. -/
def expandPart : Nat → Manner → Position → Part → Run (List Piece)
  | 0, _, _, _ => return []
  | fuel + 1, manner, position, part => do
    match part with
    | .text true cs => return .anchor :: cs.map .quoted
    | .text false cs => return (← get).plainPieces manner.assigned position cs
    | .output quoted body => return valuePieces quoted (← capture fuel body)
    | .arithmetic quoted e =>
      let text := textOf (← expandParts fuel ⟨false, false⟩ false e)
      return valuePieces quoted (← evaluate text)
    | .parameter quoted name use => expandParameter fuel manner quoted name use

/-- Expands parts of a word. -/
def expandParts : Nat → Manner → Bool → List Part → Run (List Piece)
  | 0, _, _, _ => return []
  | _, _, _, [] => return []
  | fuel + 1, manner, first, p :: ps => do
    let front ← expandPart fuel manner ⟨first, ps.isEmpty⟩ p
    return front ++ (← expandParts fuel manner false ps)

/-- Expands a word that stands in for the value of a parameter. -/
def expandInstead : Nat → Manner → List Part → Run (List Piece)
  | 0, _, _ => return []
  | fuel + 1, manner, word => do
    return (← expandParts fuel manner true word).map .loosen

/-- Expands a parameter. -/
def expandParameter : Nat → Manner → Bool → String → Use → Run (List Piece)
  | 0, _, _, _, _ => return []
  | fuel + 1, manner, quoted, name, use => do
    let m ← get
    let value := m.parameterPieces manner.full quoted name
    let mustBeSet : Run Unit := do
      if (m.valueOf name).isNone && m.has 'u' then faultIn name.toList "parameter not set"
    match use with
    | .value =>
      mustBeSet
      return value
    | .length =>
      mustBeSet
      return valuePieces quoted (toString ((m.valueOf name).getD []).length).toList
    | .default orEmpty word =>
      if m.isMissing orEmpty name then expandInstead fuel manner word else return value
    | .replace orEmpty word =>
      if m.isMissing orEmpty name then return [] else expandInstead fuel manner word
    | .assign orEmpty word =>
      if m.isMissing orEmpty name then
        let text := textOf (← expandParts fuel ⟨false, false⟩ true word)
        if !isName name.toList then faultIn name.toList "bad variable name"
        assign name text
        return valuePieces quoted text
      else return value
    | .require orEmpty word =>
      if m.isMissing orEmpty name then
        let text := textOf (← expandParts fuel ⟨false, false⟩ true word)
        let standard := if orEmpty then "parameter not set or null" else "parameter not set"
        fault (name.toList ++ ": ".toList ++ if word.isEmpty then standard.toList else text)
      else return value
    | .cut atEnd longest pattern =>
      mustBeSet
      let items := patternOf (← expandParts fuel ⟨false, false⟩ true pattern)
      return cut atEnd longest items value
    | .wrong => fault "Bad substitution".toList

/-- Expands a word to a text. -/
def expandText : Nat → Bool → Word → Run (List Char)
  | 0, _, _ => return []
  | fuel + 1, assigned, word => do return textOf (← expandParts fuel ⟨false, assigned⟩ true word)

/-- Expands words to fields. Where assignments are wanted, words that look like one are not
split. -/
def expandWords : Nat → Bool → List Word → Run (List (List Char))
  | 0, _, _ => return []
  | _, _, [] => return []
  | fuel + 1, assigning, w :: ws => do
    let isAssignment := assigning && match w with
      | .text false cs :: _ => (assignment? cs).isSome
      | _ => false
    if isAssignment then
      let text ← expandText fuel true w
      return text :: (← expandWords fuel assigning ws)
    else
      let pieces ← expandParts fuel ⟨true, false⟩ true w
      let m ← get
      let fields := (splitFields m.separators none false pieces).flatMap m.pathnames
      return fields ++ (← expandWords fuel assigning ws)

/-- Expands the values of assignments, each after the ones before have been made by `make`. -/
def expandAssignments : Nat → (List (String × List Char) → Run Unit) → List (String × Word) →
    Run (List (String × List Char))
  | 0, _, _ => return []
  | _, _, [] => return []
  | fuel + 1, make, (name, w) :: rest => do
    let v ← expandText fuel true w
    make [(name, v)]
    return (name, v) :: (← expandAssignments fuel make rest)

/-- Makes redirections; false if one of them fails. -/
def redirectAll : Nat → List Redirect → Run Bool
  | 0, _ => return false
  | _, [] => return true
  | fuel + 1, r :: rs => do
    let made ← match r with
      | .file n opening w => do redirectFile n opening (← expandText fuel false w)
      | .copy n w => do redirectCopy n (← expandText fuel false w)
      | .here n w => do
        let text ← expandText fuel false w
        modify fun m =>
          let (c, m) := m.addSource text
          m.redirect n (some c)
        pure true
    if made then redirectAll fuel rs else return false

/-- Shows a command before it is run, if the option for that is on; `channels` are those from
before its redirections. -/
def trace : Nat → List (Nat × Channel) → List (String × List Char) → List (List Char) → Run Unit
  | 0, _, _, _ => return ()
  | fuel + 1, channels, assigned, fields => do
    if (← get).has 'x' then
      let words := (assigned.map fun (n, v) => n.toList ++ '=' :: v) ++ fields
      let sign := ((← get).lookup? "PS4").getD []
      modify (·.setOption false 'x')
      let lead ← expandText fuel false (documentParts sign)
      modify (·.setOption true 'x')
      let text := lead ++ [' '].intercalate words ++ ['\n']
      match channels.lookup 2 with
      | some c => modify (·.writeTo c (bytesOf text))
      | none => pure ()

/-- Runs a simple command. -/
def runSimple : Nat → Bool → List (String × Word) → List Word → List Redirect → Run Unit
  | 0, _, _, _, _ => return ()
  | fuel + 1, tested, assigned, words, redirects => do
    modify fun m => { m with inner := 0 }
    let declaring := match words with
      | [.text false cs] :: _ =>
        ["export", "readonly", "local"].contains (String.ofList cs)
      | _ => false
    let fields ← expandWords fuel declaring words
    let channels := (← get).channels
    match fields with
    | [] =>
      let made ← keepingChannels do
        if ← redirectAll fuel redirects then
          let values ← expandAssignments fuel assignPlainly assigned
          trace fuel channels values []
          return true
        else return false
      if made then modify fun m => { m with status := m.inner } else setStatus 2
    | name :: args =>
      let kind := (← get).commandKind (String.ofList name)
      let isExec := String.ofList name == "exec"
      let perform : Run Unit := do
        if ← redirectAll fuel redirects then
          match kind with
          | .special =>
            let values ← expandAssignments fuel assignPlainly assigned
            trace fuel channels values fields
            runCommand fuel tested kind name args
          | _ =>
            keepingBindings (assigned.map (·.1)) do
              let values ← expandAssignments fuel assignExported assigned
              trace fuel channels values fields
              runCommand fuel tested kind name args
        else
          setStatus 2
          match kind with
          | .special => throw .fault
          | _ => pure ()
      if isExec && args.isEmpty then perform else keepingChannels perform

/-- Runs a command whose kind is known. -/
def runCommand : Nat → Bool → CommandKind → List Char → List (List Char) → Run Unit
  | 0, _, _, _, _ => return ()
  | fuel + 1, tested, kind, name, args => do
    let key := String.ofList name
    match kind with
    | .function body =>
      if maxCalls ≤ (← get).locals.length then
        fault ("Maximum function recursion depth (".toList ++ (toString maxCalls).toList ++
          ") reached".toList)
      asFunction args (runOne fuel tested body)
    | .program =>
      let status ← runProgram fuel name args
      setStatus status
    | .special => asBuiltin key true (runBuiltin fuel tested key args)
    | .builtin => asBuiltin key false (runBuiltin fuel tested key args)

/-- Runs a built-in command. -/
def runBuiltin : Nat → Bool → String → List (List Char) → Run Nat
  | 0, _, _, _ => return 0
  | fuel + 1, tested, name, args => do
    match name with
    | "eval" =>
      let text := [' '].intercalate args
      let any ← runText fuel tested { rest := text }
      let status := (← get).status
      return if any then status else 0
    | "." => runFile fuel args
    | "exec" =>
      match args with
      | [] => return 0
      | program :: args =>
        -- The program takes the place of the shell, so that nothing is done when it ends.
        let status ← runProgram fuel program args
        modify fun m => { m with traps := [] }
        throw (.ended (status % 256 : Nat))
    | "command" => runPlainly fuel tested args
    | "type" => describeAll fuel true args
    | "kill" => runKill fuel args
    | name => builtin name args

/-- Runs a command that is no function, or says what a command is. -/
def runPlainly : Nat → Bool → List (List Char) → Run Nat
  | 0, _, _ => return 0
  | fuel + 1, tested, args => do
    let (options, args) ← optionsOf ['v', 'V', 'p'] args
    match args with
    | [] => return 0
    | name :: rest =>
      if options.contains 'v' || options.contains 'V' then
        describeAll fuel (options.contains 'V') args
      else
        let key := String.ofList name
        modify fun m => { m with doing := none }
        if specialBuiltins.contains key || plainBuiltins.contains key then
          asBuiltin key false (runBuiltin fuel tested key rest)
          return (← get).status
        else runProgram fuel name rest

/-- Says what commands are, in words or just by what runs them. -/
def describeAll : Nat → Bool → List (List Char) → Run Nat
  | 0, _, _ => return 0
  | _, _, [] => return 0
  | fuel + 1, inWords, name :: names => do
    let m ← get
    let key := String.ofList name
    let tell (words : String) : Run Nat := do
      say (name ++ (if inWords then words.toList else []) ++ ['\n'])
      return 0
    let status ←
      if reserved.contains key then tell " is a shell keyword"
      else
        match m.commandKind key with
        | .special => tell " is a special shell builtin"
        | .function _ => tell " is a shell function"
        | .builtin => tell " is a shell builtin"
        | .program =>
          match m.findProgram name with
          | .ok file => do
            let words := if m.known.contains name then " is a tracked alias for " else " is "
            say ((if inWords then name ++ words.toList else []) ++ file ++ ['\n'])
            remember name
            pure 0
          | .error _ => do
            if inWords then say (name ++ ": not found\n".toList)
            pure 127
    let others ← describeAll fuel inWords names
    return if others == 0 then status else others

/-- Sends a signal. Only the shell itself can be reached. -/
def runKill : Nat → List (List Char) → Run Nat
  | 0, _ => return 0
  | fuel + 1, args => do
    let usage : Run Nat := do
      let text := "Usage: kill [-s sigspec | -signum | -sigspec] [pid | job]... or\n"
      fault (text.toList ++ "kill -l [exitstatus]".toList)
    match args with
    | ['-', 'l'] :: rest =>
      match rest with
      | [] =>
        say ['0', '\n']
        (List.range 64).forM fun n => say ((signalName (n + 1)).toList ++ ['\n'])
        return 0
      | a :: _ =>
        let n ← naturalOf a
        say ((signalName (if n > 128 then n - 128 else n)).toList ++ ['\n'])
        return 0
    | ['-', 's'] :: signal :: rest =>
      match signalNumber? signal with
      | some n => if rest.isEmpty then usage else sendAll fuel n rest
      | none => fault ("invalid signal number or name: ".toList ++ signal)
    | ['-', '-'] :: rest => if rest.isEmpty then usage else sendAll fuel 15 rest
    | ('-' :: c :: cs) :: rest =>
      match signalNumber? (c :: cs) with
      | some n => if rest.isEmpty then usage else sendAll fuel n rest
      | none => fault ("Illegal option -".toList ++ [c])
    | [] => usage
    | rest => sendAll fuel 15 rest

/-- Sends a signal to processes. -/
def sendAll : Nat → Nat → List (List Char) → Run Nat
  | 0, _, _ => return 0
  | _, _, [] => return 0
  | fuel + 1, signal, target :: targets => do
    let m ← get
    if target == (toString m.process).toList then
      receive fuel signal
      sendAll fuel signal targets
    else if numberOf? (digitsIn 10) false target |>.isNone then
      faultIn "Illegal number".toList (String.ofList target)
    else
      complain "No such process\n".toList
      let _ ← sendAll fuel signal targets
      return 1

/-- Receives a signal. -/
def receive : Nat → Nat → Run Unit
  | 0, _ => return ()
  | fuel + 1, signal => do
    let name := signalName signal
    match (← get).traps.lookup name with
    | some [] => if name == "KILL" || name == "STOP" then throw (.ended (-(signal : Int)))
    | some action =>
      let before := (← get).status
      modify fun m => { m with doing := none }
      let _ ← runText fuel false { rest := action }
      setStatus before
    | none =>
      if signal != 0 && !harmless.contains name then throw (.ended (-(signal : Int)))

/-- Runs a program, which is a script of its own, and gives its exit status. -/
def runProgram : Nat → List Char → List (List Char) → Run Nat
  | 0, _, _ => return 127
  | fuel + 1, name, args => do
    let m ← get
    let missing (fault : OsFault) : Run Nat := do
      let (words, status) := match fault with
        | .noEntry | .notDirectory => ("not found", 127)
        | f => (f.text, 126)
      complain (name ++ ": ".toList ++ words.toList)
      return status
    match m.findProgram name with
    | .error fault =>
      let status ← missing fault
      return if name.contains '/' || m.doing == some "exec" then status else 127
    | .ok file =>
      remember name
      let path := toText file
      let arguments := args.map toText
      let start (p : Program) : Run Nat := do
        let fresh := Machine.start p m.exported m.tree m.cwd
        let status ← inCopy (fun m =>
          { fresh with
            channels := m.channels, written := m.written, sources := m.sources,
            process := m.process + 1, traps := m.traps.filter (·.2.isEmpty) })
          (runScript fuel p)
        reportEnd status
      match Program.find m.tree m.cwd Program.maxInterpreters path arguments with
      | .ok p => start p
      | .error .execFormat =>
        match m.tree.follow m.cwd path with
        | .ok (_, .file bytes _) => start ⟨bytes, path, "", none, arguments⟩
        | _ => missing .noEntry
      | .error fault => missing fault

/-- Runs the commands in a file in this shell. -/
def runFile : Nat → List (List Char) → Run Nat
  | 0, _ => return 0
  | fuel + 1, args => do
    match args with
    | [] => return 0
    | name :: _ =>
      let m ← get
      let isFile (file : List Char) : Bool :=
        match m.tree.follow m.cwd (toText file) with
        | .ok (_, .file _ _) => true
        | _ => false
      match (m.programFiles name).find? isFile with
      | none =>
        if name.contains '/' then fault ("cannot open ".toList ++ name ++ ": No such file".toList)
        else fault (name ++ ": not found".toList)
      | some file =>
        match m.tree.follow m.cwd (toText file) with
        | .ok (_, .file bytes _) =>
          modify fun m => { m with doing := none }
          leaving do
            let text := bytes.map fun b => Char.ofNat b.toNat
            if !(← runText fuel false { rest := text }) then setStatus 0
          return (← get).status
        | _ => return 0

/-- Runs a command. -/
def runOne : Nat → Bool → Script → Run Unit
  | 0, _, _ => return ()
  | fuel + 1, tested, s => do
    if (← get).has 'n' then return ()
    match s with
    | .simple line assigned words redirects =>
      modify fun m => { m with line }
      runSimple fuel tested assigned words redirects
      checkFailure tested
    | .when test yes no =>
      runAll fuel true test
      if (← get).status == 0 then runAll fuel tested yes
      else if no.isEmpty then setStatus 0
      else runAll fuel tested no
    | .loop outcome test body =>
      insideLoop (runLoop fuel tested outcome 0 test body)
    | .each line name words body =>
      modify fun m => { m with line }
      let fields ← expandWords fuel false words
      if fields.isEmpty then setStatus 0
      insideLoop (runEach fuel tested name fields body)
    | .select line subject arms =>
      modify fun m => { m with line }
      let text ← expandText fuel false subject
      runArms fuel tested text arms
    | .both first second =>
      runOne fuel true first
      if (← get).status == 0 then runOne fuel tested second
    | .either first second =>
      runOne fuel true first
      if (← get).status != 0 then runOne fuel tested second
    | .negate command =>
      runOne fuel true command
      modify fun m => { m with status := if m.status == 0 then 1 else 0 }
    | .pipe commands =>
      runPipe fuel tested commands
      checkFailure tested
    | .background command =>
      let status ← inCopy (fun m => { m.copied.redirect 0 (some .nowhere) with
        process := m.process }) (runToEnd fuel false [command])
      let status := if status < 0 then 128 + status.natAbs else status.toNat
      modify fun m => { m with
        status := 0, childStatus := status, child := some ((m.child.getD m.process) + 1) }
    | .group body => runAll fuel tested body
    | .subshell line body redirects =>
      modify fun m => { m with line }
      let status ← inCopy Machine.copied (runRedirectedToEnd fuel tested body redirects)
      setStatus (← reportEnd status)
      checkFailure tested
    | .redirected line command redirects =>
      modify fun m => { m with line }
      keepingChannels do
        if ← redirectAll fuel redirects then runOne fuel tested command else setStatus 2
    | .define name body =>
      modify fun m => { m with
        status := 0, functions := (name, body) :: m.functions.filter (·.1 != name) }

/-- Runs commands in order. -/
def runAll : Nat → Bool → List Script → Run Unit
  | 0, _, _ => return ()
  | _, _, [] => return ()
  | fuel + 1, tested, s :: ss => fun m =>
    match runOne fuel tested s m with
    | (.ok (), m) => runAll fuel tested ss m
    | stopped => stopped

/-- Runs the body of a loop as long as the test has the outcome given; `status` is that of the
last turn. -/
def runLoop : Nat → Bool → Bool → Nat → List Script → List Script → Run Unit
  | 0, _, _, _, _, _ => return ()
  | fuel + 1, tested, outcome, status, test, body => fun m =>
    match turn (runAll fuel true test) m with
    | (.error e, m) => (.error e, m)
    | (.ok false, m) => (.ok (), m)
    | (.ok true, m) =>
      if (m.status == 0) == outcome then
        match turn (runAll fuel tested body) m with
        | (.error e, m) => (.error e, m)
        | (.ok false, m) => (.ok (), m)
        | (.ok true, m) => runLoop fuel tested outcome m.status test body m
      else (.ok (), { m with status })

/-- Runs the body of a loop for each value of its variable. -/
def runEach : Nat → Bool → String → List (List Char) → List Script → Run Unit
  | 0, _, _, _, _ => return ()
  | _, _, _, [], _ => return ()
  | fuel + 1, tested, name, v :: vs, body => fun m =>
    match assign name v m with
    | (.error e, m) => (.error e, m)
    | (.ok (), m) =>
      match turn (runAll fuel tested body) m with
      | (.error e, m) => (.error e, m)
      | (.ok false, m) => (.ok (), m)
      | (.ok true, m) => runEach fuel tested name vs body m

/-- Runs the first arm that fits. -/
def runArms : Nat → Bool → List Char → List (List Word × List Script) → Run Unit
  | 0, _, _, _ => return ()
  | _, _, _, [] => setStatus 0
  | fuel + 1, tested, subject, (patterns, body) :: arms => do
    if ← anyFits fuel subject patterns then
      if body.isEmpty then setStatus 0 else runAll fuel tested body
    else runArms fuel tested subject arms

/-- One of the patterns fits. -/
def anyFits : Nat → List Char → List Word → Run Bool
  | 0, _, _ => return false
  | _, _, [] => return false
  | fuel + 1, subject, p :: ps => do
    let items := patternOf (← expandParts fuel ⟨false, false⟩ true p)
    if Glob.run items subject then return true else anyFits fuel subject ps

/-- Runs the commands of a pipeline one after the other, each reading what the one before wrote. -/
def runPipe : Nat → Bool → List Script → Run Unit
  | 0, _, _ => return ()
  | _, _, [] => return ()
  | fuel + 1, tested, [last] => do
    let status ← inCopy Machine.copied (runToEnd fuel tested [last])
    setStatus (← reportEnd status)
  | fuel + 1, tested, command :: commands => do
    let n := (← get).freeBuffer
    let _ ← inCopy (fun m => m.copied.redirect 1 (some (.buffer n)))
      (runToEnd fuel tested [command])
    let text ← takeBuffer n
    keepingChannels do
      modify fun m =>
        let (c, m) := m.addSource text
        m.redirect 0 (some c)
      runPipe fuel tested commands

/-- Runs commands in a copy of the shell with redirections. -/
def runRedirectedToEnd : Nat → Bool → List Script → List Redirect → Run Int
  | 0, _, _, _ => return 0
  | fuel + 1, tested, body, redirects => do
    if ← redirectAll fuel redirects then runToEnd fuel tested body else return 2

/-- Runs commands to the end of the shell, with what is to be done then, and gives its exit
status. -/
def runToEnd : Nat → Bool → List Script → Run Int
  | 0, _, _ => return 0
  | fuel + 1, tested, body => do finish fuel (← ending (runAll fuel tested body))

/-- Does what is to be done when the shell ends with a status. A signal leaves no time for that. -/
def finish : Nat → Int → Run Int
  | 0, status => return status
  | fuel + 1, status => do
    if status < 0 then return status
    match (← get).traps.lookup "EXIT" with
    | none => return status
    | some action =>
      modify fun m => { m with
        traps := m.traps.filter (·.1 != "EXIT"), status := status.toNat, doing := none }
      let stopped ← stopOf do
        let _ ← runText fuel false { rest := action }
      match stopped with
      | some (.ended n) => return n
      | _ => return status

/-- Reads and runs a text line by line; true if it holds any command. -/
def runText : Nat → Bool → Source → Run Bool
  | 0, _, _ => return false
  | fuel + 1, tested, s => fun m =>
    match s.readLine with
    | .error e => fault e.message.toList { m with line := e.line }
    | .ok (commands, rest) =>
      let m := { m with readLine := rest.line }
      let m := if m.has 'v' then
          ((m.channel? 2).map fun c => m.writeTo c
            (bytesOf (s.rest.take (s.rest.length - rest.rest.length)))).getD m
        else m
      let any := !commands.isEmpty
      match runAll fuel tested commands m with
      | (.error e, m) => (.error e, m)
      | (.ok (), m) =>
        if rest.rest.isEmpty then (.ok any, m)
        else
          match runText fuel tested rest m with
          | (.ok more, m) => (.ok (any || more), m)
          | stopped => stopped

/-- Runs a script to its end, and gives its exit status. -/
def runScript : Nat → Program → Run Int
  | 0, _ => return 0
  | fuel + 1, p => do
    let text := p.bytes.map fun b => Char.ofNat b.toNat
    let status ← ending do
      startOptions p
      let _ ← runText fuel false { rest := text }
    finish fuel status

end

/-- How deep the work of a script can go. -/
def budget : Nat := 1000000

/-- Runs a program with an environment in a directory: its exit status, and the shell at its
end. -/
def runProgramIn (p : Program) (environment : List (String × List Char)) (tree : FileTree)
    (cwd : Place) : Int × Machine :=
  match runScript budget p (Machine.start p environment tree cwd) with
  | (.ok status, m) => (status, m)
  | (.error _, m) => (m.status, m)

end PerlVet.Shell
