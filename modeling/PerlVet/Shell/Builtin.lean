import PerlVet.Shell.Field
import PerlVet.Shell.Format
import PerlVet.Shell.Source
import PerlVet.Shell.Test

/-!
The commands built into the shell, but for those that run other commands. Each takes its arguments
and gives its exit status.
-/

namespace PerlVet.Shell

/-- Writes to the output of the command. -/
def say (text : List Char) : Run Unit := write 1 text

/-- A number that is not negative. -/
def naturalOf (a : List Char) : Run Nat := do
  match numberOf? (digitsIn 10) false a with
  | some n =>
    if 0 ≤ n && n ≤ 2147483647 then return n.toNat
    else faultIn "Illegal number".toList (String.ofList a)
  | none => faultIn "Illegal number".toList (String.ofList a)

/-- The option letters in front of arguments, and the arguments after them. Other letters than
those given are a fault. -/
def optionsOf (known : List Char) : List (List Char) → Run (List Char × List (List Char))
  | ['-', '-'] :: args => return ([], args)
  | ('-' :: c :: cs) :: args => do
    match (c :: cs).find? (!known.contains ·) with
    | some bad => fault ("Illegal option -".toList ++ [bad])
    | none =>
      let (more, args) ← optionsOf known args
      return (c :: cs ++ more, args)
  | args => return ([], args)

/-- Formatted output. -/
def runPrintf (args : List (List Char)) : Run Nat := do
  let (_, args) ← optionsOf [] args
  match args with
  | [] => fault "usage: printf format [arg ...]".toList
  | fmt :: args =>
    let f := format fmt args
    f.warnings.forM complain
    match f.fault with
    | some message =>
      complain message
      say f.output
      throw .fault
    | none =>
      say f.output
      return if f.warnings.isEmpty then 0 else 1

/-- A test. -/
def runTest (args : List (List Char)) : Run Nat := do
  match (← get).test args with
  | .ok b => return if b then 0 else 1
  | .error message => fault message

/-- The signals with numbers from one on, by their names. Some have numbers for names. -/
def signalNames : List String :=
  ["HUP", "INT", "QUIT", "ILL", "TRAP", "ABRT", "BUS", "FPE", "KILL", "USR1", "SEGV", "USR2",
   "PIPE", "ALRM", "TERM", "16", "CHLD", "CONT", "STOP", "TSTP", "TTIN", "TTOU", "URG", "XCPU",
   "XFSZ", "VTALRM", "PROF", "WINCH", "IO", "PWR", "SYS", "32", "33", "RTMIN"] ++
    (List.range 15).map (fun n => "RTMIN+" ++ toString (n + 1)) ++
    (List.range 14).map (fun n => "RTMAX-" ++ toString (14 - n)) ++ ["RTMAX"]

/-- The number of a signal that a text names or numbers; zero is the end of the shell. -/
def signalNumber? (a : List Char) : Option Nat :=
  if !a.isEmpty && a.all Char.isDigit then
    let n := (digitsIn 10 a).1
    if n < 65 then some n else none
  else
    let name := String.ofList (a.map Char.toUpper)
    if name == "EXIT" then some 0
    else (signalNames.idxOf? name).map (· + 1)

/-- The name of a signal. -/
def signalName (n : Nat) : String :=
  match n with
  | 0 => "EXIT"
  | n + 1 => (signalNames[n]?).getD (toString (n + 1))

/-- Signals that do nothing to a process that does not ask for them. -/
def harmless : List String := ["CHLD", "CONT", "URG", "WINCH"]

/-- A text in quotes that the shell reads back. -/
def quote (cs : List Char) : List Char :=
  "'".toList ++ (cs.flatMap fun c => if c == '\x27' then "'\"'\"'".toList else [c]) ++ "'".toList

/-- Sets or shows what is run when signals come. -/
def runTrap (args : List (List Char)) : Run Nat := do
  let (_, args) ← optionsOf [] args
  match args with
  | [] =>
    let traps := (← get).traps
    let shown := (List.range 65).filterMap fun n =>
      (traps.lookup (signalName n)).map fun action =>
        "trap -- ".toList ++ quote action ++ ' ' :: (signalName n).toList ++ ['\n']
    shown.forM say
    return 0
  | first :: rest =>
    let (action, names) :=
      if rest.isEmpty then (none, [first])
      else if first == ['-'] then (none, rest)
      else if (first.all Char.isDigit && !first.isEmpty) then (none, first :: rest)
      else (some first, rest)
    setTraps action names
where
  /-- Sets what is run for the signals named, up to a name that is none. -/
  setTraps (action : Option (List Char)) : List (List Char) → Run Nat
    | [] => return 0
    | name :: names => do
      match signalNumber? name with
      | none =>
        write 2 ("trap: ".toList ++ name ++ ": bad trap\n".toList)
        return 1
      | some n =>
        let key := signalName n
        modify fun m =>
          { m with traps := (action.map (key, ·)).toList ++ m.traps.filter (·.1 != key) }
        setTraps action names

/-- The letters and names of options, in the order in which they are listed. -/
def optionNames : List (Char × String) :=
  [('e', "errexit"), ('f', "noglob"), ('I', "ignoreeof"), ('i', "interactive"), ('m', "monitor"),
   ('n', "noexec"), ('s', "stdin"), ('x', "xtrace"), ('v', "verbose"), ('V', "vi"),
   ('E', "emacs"), ('C', "noclobber"), ('a', "allexport"), ('b', "notify"), ('u', "nounset")]

/-- Turns an option on or off. -/
def Machine.setOption (m : Machine) (on : Bool) (letter : Char) : Machine :=
  let chosen (c : Char) : Bool := if c == letter then on else m.has c
  { m with options := ((optionNames.map (·.1)).filter chosen).reverse }

/-- Turns the options with letters on or off. -/
def setLetters (on : Bool) : List Char → Run Unit
  | [] => return ()
  | c :: cs => do
    if (optionNames.lookup c).isNone then
      fault ("Illegal option -".toList ++ [c])
    modify (·.setOption on c)
    setLetters on cs

/-- Carries out arguments that set options, up to those that are arguments of the shell, if there
are any. -/
def setOptions : List (List Char) → Run (Option (List (List Char)))
  | [] => return none
  | ['-', '-'] :: args => return some args
  | ['-', 'o'] :: name :: args => do
    setNamed true name
    setOptions args
  | ['+', 'o'] :: name :: args => do
    setNamed false name
    setOptions args
  | ['-'] :: args => do
    modify fun m => (m.setOption false 'x').setOption false 'v'
    return if args.isEmpty then none else some args
  | ('-' :: cs) :: args => do
    setLetters true cs
    setOptions args
  | ('+' :: cs) :: args => do
    setLetters false cs
    setOptions args
  | args => return some args
where
  /-- Turns the option with a name on or off. -/
  setNamed (on : Bool) (name : List Char) : Run Unit := do
    match optionNames.find? (·.2.toList == name) with
    | some (letter, _) => modify (·.setOption on letter)
    | none => fault ("Illegal option -o ".toList ++ name)

/-- All variables in a form that the shell reads back, in order. -/
def showBindings (lead : String) (which : Binding → Bool) : Run Unit := do
  let shown := ((← get).bindings.filter (which ·.2)).mergeSort fun a b => decide (a.1 ≤ b.1)
  shown.forM fun (name, b) =>
    let value := (b.value.map fun v => '=' :: quote v).getD []
    if lead.isEmpty && b.value.isNone then pure ()
    else say (lead.toList ++ name.toList ++ value ++ ['\n'])

/-- Sets options and the arguments of the shell, or shows the variables. -/
def runSet (args : List (List Char)) : Run Nat := do
  if args.isEmpty then
    showBindings "" fun _ => true
    return 0
  else if args == [['-', 'o']] then
    let m ← get
    say "Current option settings\n".toList
    optionNames.forM fun (c, name) =>
      say (name.toList ++ List.replicate (16 - name.length) ' ' ++
        (if m.has c then "on\n" else "off\n").toList)
    return 0
  else
    match ← setOptions args with
    | some args => modify fun m => { m with arguments := args }
    | none => pure ()
    return 0

/-- An argument that may be an assignment. -/
def splitAssignment (arg : List Char) : List Char × Option (List Char) :=
  let name := arg.takeWhile (· != '=')
  (name, if (arg.drop name.length).isEmpty then none else some (arg.drop (name.length + 1)))

/-- Sets variables, if values are given, and changes their bindings. -/
def declare (change : Binding → Binding) : List (List Char) → Run Nat
  | [] => return 0
  | arg :: args => do
    let (name, value) := splitAssignment arg
    let key := String.ofList name
    if !isName name then faultIn name "bad variable name"
    match value with
    | some v => assign key v
    | none => pure ()
    modify fun m => m.bind key (some (change ((m.binding? key).getD {})))
    declare change args

/-- Exports variables or makes them constant. -/
def runDeclare (lead : String) (which : Binding → Bool) (change : Binding → Binding)
    (args : List (List Char)) : Run Nat := do
  let (options, args) ← optionsOf ['p'] args
  if options.contains 'p' || args.isEmpty then
    showBindings lead which
    return 0
  else declare change args

/-- Makes variables local to the current function. -/
def runLocal (args : List (List Char)) : Run Nat := do
  match (← get).locals with
  | [] => fault "not in a function".toList
  | frame :: frames =>
    match args with
    | [] => return 0
    | args =>
      let names := args.map fun a => String.ofList (splitAssignment a).1
      let m ← get
      let fresh := (names.eraseDups.filter fun n => !frame.any (·.1 == n)).map fun n =>
        (n, m.binding? n)
      set { m with locals := (fresh ++ frame) :: frames }
      declare id args

/-- Removes variables or functions. -/
def runUnset (args : List (List Char)) : Run Nat := do
  let (options, args) ← optionsOf ['f', 'v'] args
  removeAll (options.getLast? == some 'f') args
  return 0
where
  /-- Removes one after the other. -/
  removeAll (functions : Bool) : List (List Char) → Run Unit
    | [] => return ()
    | a :: as => do
      let name := String.ofList a
      let m ← get
      if functions then set { m with functions := m.functions.filter (·.1 != name) }
      else
        if !isName a then faultIn a "bad variable name"
        if (m.binding? name).any (·.fixed) then faultIn a "is read only"
        set (m.bind name none)
      removeAll functions as

/-- The line that stands next in a text, read with backslashes that quote or not: its pieces, what
follows it, and whether it is a whole line. The second argument says that a backslash stands in
front. A zero byte is left out. -/
def inputLine (raw : Bool) : Bool → List Char → List Piece × List Char × Bool
  | _, [] => ([], [], false)
  | true, c :: cs =>
    if c == '\x00' then inputLine raw true cs
    else
      let (ps, rest, whole) := inputLine raw false cs
      (if c == '\n' then ps else .quoted c :: ps, rest, whole)
  | false, c :: cs =>
    if c == '\n' then ([], cs, true)
    else if c == '\\' && !raw then inputLine raw true cs
    else if c == '\x00' then inputLine raw false cs
    else
      let (ps, rest, whole) := inputLine raw false cs
      (.loose c :: ps, rest, whole)

/-- A line of input while it is divided into fields. -/
structure Dividing where
  done : List (List Char) := []
  /-- The field that has been started. -/
  current : List Char := []
  /-- How much of the last field is left when what divides fields is cut off its end. -/
  cutAt : Option Nat := none
  /-- A blank has just ended a field. -/
  afterBlank : Bool := false
  /-- How many fields are still wanted. -/
  wanted : Nat

/-- Adds a piece of a line. Quoted characters divide nothing, and they do not count as the end of
the last field either. -/
def Dividing.add (separators : List Char) (d : Dividing) : Piece → Dividing
  | .loose c =>
    let divides := separators.contains c
    let blank := divides && isGapChar c
    let longer := { d with current := d.current ++ [c] }
    if d.wanted == 0 then
      if blank then { longer with cutAt := d.cutAt.orElse fun _ => some d.current.length }
      else if divides && d.afterBlank then { longer with afterBlank := false }
      else { longer with cutAt := none, afterBlank := false }
    else if d.afterBlank then
      if blank then { d with current := [] }
      else { d with current := if divides then [] else [c], afterBlank := false }
    else if !divides then longer
    else if blank && d.current.isEmpty then d
    else if d.wanted == 1 then
      { longer with wanted := 0, cutAt := some d.current.length, afterBlank := blank }
    else
      { d with
        done := d.done ++ [d.current], current := [], afterBlank := blank,
        wanted := d.wanted - 1 }
  | .quoted c | .plain c => { d with current := d.current ++ [c], afterBlank := false }
  | .anchor | .gap => d

/-- The fields of a line of input, of which only so many are wanted; the last one takes all that is
left. -/
def inputFields (separators : List Char) (wanted : Nat) (ps : List Piece) : List (List Char) :=
  let d := ps.foldl (Dividing.add separators) { wanted }
  let last := (d.cutAt.map d.current.take).getD d.current
  d.done ++ if last.isEmpty then [] else [last]

/-- Gives fields to variables; those without a field become empty. -/
def assignFields : List String → List (List Char) → Run Unit
  | [], _ => return ()
  | name :: names, fields => do
    assign name (fields.head?.getD [])
    assignFields names fields.tail

/-- Reads a line into variables. -/
def runRead (args : List (List Char)) : Run Nat := do
  let (raw, prompt, names) ← options args
  prompt.forM fun p => write 2 p
  if names.isEmpty then fault "arg count".toList
  let m ← get
  let (ps, rest, whole) := inputLine raw false (m.readable 0)
  set (m.leaveToRead 0 rest)
  assignFields (names.map String.ofList) (inputFields m.separators names.length ps)
  return if whole then 0 else 1
where
  /-- The options of the command: backslashes are taken as they are, and what to ask with. -/
  options : List (List Char) → Run (Bool × List (List Char) × List (List Char))
    | ['-', 'r'] :: args => do
      let (_, prompt, names) ← options args
      return (true, prompt, names)
    | ['-', 'p'] :: text :: args => do
      let (raw, _, names) ← options args
      return (raw, [text], names)
    | ['-', '-'] :: args => return (false, [], args)
    | ('-' :: c :: _) :: _ => fault ("Illegal option -".toList ++ [c])
    | args => return (false, [], args)

/-- The name of a directory after steps from another one, by name only. -/
def nameAfter (start : List Char) (steps : List (List Char)) : List Char :=
  let base := (Text.pieces '/' start).filter (!·.isEmpty)
  let parts := steps.foldl (fun parts s =>
    if s.isEmpty || s == ['.'] then parts
    else if s == ['.', '.'] then parts.dropLast
    else parts ++ [s]) base
  '/' :: ['/'].intercalate parts

/-- Changes the current directory. -/
def runCd (args : List (List Char)) : Run Nat := do
  let (options, args) ← optionsOf ['L', 'P'] args
  let m ← get
  let old := (m.lookup? "OLDPWD").getD []
  let target := match args with
    | [] => (m.lookup? "HOME").getD []
    | ['-'] :: _ => old
    | a :: _ => a
  let wanted := if target.isEmpty then ['.'] else target
  let isDir (name : List Char) : Bool :=
    match m.tree.follow m.cwd (toText name) with
    | .ok (_, .dir) => true
    | _ => false
  -- A name that says where it starts is not looked for.
  let searched := !((Text.pieces '/' target).head?.any [[], ['.'], ['.', '.']].contains) ||
    target.isEmpty
  let places := if searched then ((m.lookup? "CDPATH").map (Text.pieces ':')).getD [] else []
  let inPlace (place : List Char) : List Char :=
    if place.isEmpty then wanted else place ++ '/' :: wanted
  let found := places.find? (isDir <| inPlace ·)
  let target := (found.map inPlace).getD wanted
  let start := if target.head? == some '/' then [] else m.cwdName
  let byName := nameAfter start (Text.pieces '/' target)
  let physical := options.getLast? == some 'P'
  match m.tree.follow m.cwd (toText (if physical then target else byName)) with
  | .ok (p, .dir) =>
    let name := if physical then ofString ("/" ++ "/".intercalate p) else byName
    set { m with cwd := p, cwdName := name }
    assign "OLDPWD" m.cwdName
    assign "PWD" name
    modify fun m =>
      let exported (key : String) (m : Machine) : Machine :=
        m.bind key ((m.binding? key).map fun b => { b with exported := true })
      exported "PWD" (exported "OLDPWD" m)
    if args.head? == some ['-'] || found.any (!·.isEmpty) then say (name ++ ['\n'])
    return 0
  | _ => fault ("can't cd to ".toList ++ wanted)

/-- The current directory. -/
def runPwd (args : List (List Char)) : Run Nat := do
  let (options, _) ← optionsOf ['L', 'P'] args
  let m ← get
  let physical := ofString ("/" ++ "/".intercalate m.cwd)
  say ((if options.getLast? == some 'P' then physical else m.cwdName) ++ ['\n'])
  return 0

/-- Drops arguments of the shell. -/
def runShift (args : List (List Char)) : Run Nat := do
  let n ← match args with
    | a :: _ => naturalOf a
    | [] => pure 1
  let m ← get
  if m.arguments.length < n then fault "can't shift that many".toList
  set { m with arguments := m.arguments.drop n }
  return 0

/-- Leaves loops, or goes on with the next turn of one. -/
def runLeave (stop : Nat → Stop) (args : List (List Char)) : Run Nat := do
  let n ← match args with
    | a :: _ => do
      let n ← naturalOf a
      if n == 0 then faultIn "Illegal number".toList (String.ofList a) else pure n
    | [] => pure 1
  let n := min n (← get).loops
  if n == 0 then return 0
  else
    setStatus 0
    throw (stop n)

/-- Leaves the current function. -/
def runReturn (args : List (List Char)) : Run Nat := do
  match args with
  | a :: _ => setStatus (← naturalOf a)
  | [] => pure ()
  throw .back

/-- Ends the shell. -/
def runExit (args : List (List Char)) : Run Nat := do
  match args with
  | a :: _ => setStatus (← naturalOf a)
  | [] => pure ()
  throw (.ended ((← get).status % 256 : Nat))

/-- Shows or sets the permissions that new files are not given. -/
def runMask (args : List (List Char)) : Run Nat := do
  let (options, args) ← optionsOf ['S'] args
  let mask := (← get).mask
  match args with
  | a :: _ =>
    let n := (digitsIn 8 a).1
    if a.isEmpty || a.any (fun c => !('0' ≤ c && c ≤ '7')) then
      faultIn "Illegal number".toList (String.ofList a)
    modify fun m => { m with mask := n % 512 }
    return 0
  | [] =>
    let digits := (Nat.toDigits 8 mask)
    let plain := List.replicate (4 - digits.length) '0' ++ digits
    let letters (who : Char) (n : Nat) : List Char :=
      [who, '='] ++ (if n / 4 % 2 == 0 then ['r'] else []) ++
        (if n / 2 % 2 == 0 then ['w'] else []) ++ if n % 2 == 0 then ['x'] else []
    let inWords := [','].intercalate
      [letters 'u' (mask / 64), letters 'g' (mask / 8), letters 'o' mask]
    say ((if options.contains 'S' then inWords else plain) ++ ['\n'])
    return 0

/-- The next option among arguments, in variables. -/
def runGetopts (args : List (List Char)) : Run Nat := do
  match args with
  | wanted :: name :: given =>
    let m ← get
    let args := if given.isEmpty then m.arguments else given
    let index := (numberOf? (digitsIn 10) false ((m.lookup? "OPTIND").getD ['1'])).getD 1
    let index := max 1 index.toNat
    let arg := (args[index - 1]?).getD []
    let offset := max 1 m.optionOffset
    if arg == ['-', '-'] then finish (index + 1) name
    else if arg.head? != some '-' || arg.length ≤ 1 then finish index name
    else
      let c := (arg[offset]?).getD '?'
      let silent := wanted.head? == some ':'
      let rest := wanted.dropWhile (· != c)
      let last := arg.length ≤ offset + 1
      let (next, nextOffset) := if last then (index + 1, 0) else (index, offset + 1)
      if c == ':' || rest.isEmpty then
        move next nextOffset
        unknown silent c name
      else if (rest.drop 1).head? == some ':' then
        if !last then
          move (index + 1) 0
          found name c (arg.drop (offset + 1))
        else
          match args[index]? with
          | some value =>
            move (index + 2) 0
            found name c value
          | none =>
            move (index + 1) 0
            if silent then
              assign "OPTARG" [c]
              assign (String.ofList name) [':']
            else
              complainPlainly ("No arg for -".toList ++ [c] ++ " option".toList)
              modify fun m => m.bind "OPTARG" none
              assign (String.ofList name) ['?']
            return 0
      else
        move next nextOffset
        modify fun m => m.bind "OPTARG" none
        assign (String.ofList name) [c]
        return 0
  | _ => fault "Usage: getopts optstring var [arg...]".toList
where
  /-- Moves on to an option. -/
  move (index offset : Nat) : Run Unit := do
    assign "OPTIND" (toString index).toList
    modify fun m => { m with optionOffset := offset }
  /-- There are no more options. -/
  finish (index : Nat) (name : List Char) : Run Nat := do
    move index 0
    assign (String.ofList name) ['?']
    return 1
  /-- An option with its value. -/
  found (name : List Char) (c : Char) (value : List Char) : Run Nat := do
    assign "OPTARG" value
    assign (String.ofList name) [c]
    return 0
  /-- A complaint that names no line. -/
  complainPlainly (message : List Char) : Run Unit := do
    write 2 (message ++ ['\n'])
  /-- An option that is not wanted. -/
  unknown (silent : Bool) (c : Char) (name : List Char) : Run Nat := do
    if silent then assign "OPTARG" [c]
    else
      complainPlainly ("Illegal option -".toList ++ [c])
      modify fun m => m.bind "OPTARG" none
    assign (String.ofList name) ['?']
    return 0

/-- Built-in commands that are not special. -/
def plainBuiltins : List String :=
  ["[", "alias", "bg", "cd", "chdir", "command", "echo", "false", "fg", "getopts", "hash", "jobs",
   "kill", "printf", "pwd", "read", "test", "true", "type", "ulimit", "umask", "unalias",
   "wait"]

/-- Runs a built-in command that runs no other command. -/
def builtin (name : String) (args : List (List Char)) : Run Nat :=
  match name with
  | "false" => return 1
  | "printf" => runPrintf args
  | "echo" => do
    say (echo args)
    return 0
  | "test" => runTest args
  | "[" =>
    if args.getLast? == some [']'] then runTest args.dropLast else fault "missing ]".toList
  | "cd" | "chdir" => runCd args
  | "pwd" => runPwd args
  | "read" => runRead args
  | "shift" => runShift args
  | "set" => runSet args
  | "unset" => runUnset args
  | "export" => runDeclare "export " (·.exported) ({ · with exported := true }) args
  | "readonly" => runDeclare "readonly " (·.fixed) ({ · with fixed := true }) args
  | "local" => runLocal args
  | "break" => runLeave .leave args
  | "continue" => runLeave .next args
  | "return" => runReturn args
  | "exit" => runExit args
  | "trap" => runTrap args
  | "getopts" => runGetopts args
  | "wait" => do
    let m ← get
    match args.getLast? with
    | none => return 0
    | some a =>
      return if m.child.map (fun n => (toString n).toList) == some a then m.childStatus else 127
  | "umask" => runMask args
  | _ => return 0

end PerlVet.Shell
