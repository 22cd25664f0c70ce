import PerlVet.Proofs.History

/-!
The directories for libraries are resolved once. A `Turn` asks one thing of an inspection by the
interpreter, on a host, in a session and with a runner that may all have changed since the turn
before. What `includePath` can do is said once (`includePath_cases`), and so what a turn can do: it
needs no directories (`serve_of_idle`), it gets them (`serve_of_paths`) or it fails to
(`serve_of_failure`). So at any time an inspection remembers the first directories that could be
resolved and nothing else (`after_eq`).
-/

namespace PerlVet.Compilation

/-- What can be asked of an inspection by the interpreter. -/
inductive Task where
  | inspect (target : Path)
  | command (target : Path)
  | includePath

/-- What comes of a task. -/
inductive Product where
  | diagnostics (ds : List Diagnostic)
  | command (command : Command)
  | includePath (paths : List Path)

/-- One use of an inspection, with the runner that it has from now on. -/
structure Turn where
  host : Host
  session : Session
  runner : Runner
  task : Task

/-- The file that the interpreter is to compile. -/
def Task.target? : Task → Option Path
  | inspect target | command target => some target
  | includePath => none

/-- Puts a result into the form of a product. -/
def deliver {α : Type} (product : α → Product) :
    Except Failure α × Compilation × Session → Except Failure Product × Compilation × Session
  | (result, c, s) => (result.map product, c, s)

/-- Does a task. -/
def perform (c : Compilation) (h : Host) (task : Task) (s : Session) :
    Except Failure Product × Compilation × Session :=
  match task with
  | .inspect target => deliver .diagnostics (c.inspect h target s)
  | .command target => deliver .command (c.commandFor h target s)
  | .includePath => deliver .includePath (c.includePath h s)

/-- Takes a turn. -/
def serve (c : Compilation) (t : Turn) : Except Failure Product × Compilation × Session :=
  perform { c with runner := t.runner } t.host t.task t.session

/-- The inspection after turns, one after the other. -/
def after (c : Compilation) (ts : List Turn) : Compilation :=
  ts.foldl (fun c t => (c.serve t).2.1) c

/-- The task cannot be done without the directories for libraries: a file that cannot be read, or
that is for another interpreter, needs none. -/
def Turn.needs (t : Turn) : Bool :=
  match t.task with
  | .inspect target =>
    match t.host.fileHead target with
    | .ok line => !Shebang.isForeign line
    | .error _ => false
  | _ => true

/-- What comes of resolving the directories on a turn. -/
def attempt (c : Compilation) (t : Turn) : Except Failure (List Path) :=
  (c.resolve t.host t.session).1

/-- The directories that are found on the first turn that needs some and can resolve them. -/
def firstFound (c : Compilation) (ts : List Turn) : Option (List Path) :=
  (ts.filter Turn.needs).findSome? fun t => (c.attempt t).toOption

/-- The calls of the runner that have come to a session. -/
def newCalls (s s' : Session) : List Call := s'.calls.take (s'.calls.length - s.calls.length)

/-- The commands that are built on a turn: the one that is its product, or those that the runner is
called with. -/
def built (c : Compilation) (t : Turn) : List Command :=
  match c.serve t with
  | (.ok (.command command), _, _) => [command]
  | (_, _, s') => (newCalls t.session s').map Call.args

/-- No directories are looked for between two sessions: no architecture name is asked for or looked
up, and none are noted in the log. -/
structure NoSearch (s s' : Session) : Prop where
  architectures : s'.architectures = s.architectures
  log : s'.log.filter (·.area == .includePath) = s.log.filter (·.area == .includePath)

variable {c c' : Compilation} {h : Host} {s s' : Session} {t : Turn} {paths : List Path}

theorem NoSearch.refl (s : Session) : NoSearch s s := ⟨rfl, rfl⟩

theorem newCalls_self (h : s'.calls = s.calls) : newCalls s s' = [] := by
  simp [newCalls, h]

theorem newCalls_cons {call : Call} (h : s'.calls = call :: s.calls) : newCalls s s' = [call] := by
  simp [newCalls, h]

/-! ## What a turn can do -/

/-- Directories are remembered, or found and remembered, or not found, which is not remembered. -/
theorem includePath_cases (c : Compilation) (h : Host) (s : Session) :
    (∃ paths, c.resolved = some paths ∧ c.includePath h s = (.ok paths, c, s)) ∨
    (∃ paths s', c.resolved = none ∧ c.resolve h s = (.ok paths, s') ∧
      c.includePath h s = (.ok paths, { c with resolved := some paths }, s')) ∨
    (∃ e s', c.resolved = none ∧ c.resolve h s = (.error e, s') ∧
      c.includePath h s = (.error e, c, s')) := by
  unfold includePath
  cases hresolved : c.resolved with
  | some paths => exact .inl ⟨paths, rfl, rfl⟩
  | none =>
    rcases hresolve : c.resolve h s with ⟨e | paths, s'⟩
    · exact .inr (.inr ⟨e, s', rfl, rfl, rfl⟩)
    · exact .inr (.inl ⟨paths, s', rfl, rfl, rfl⟩)

/-- The runner is called once, in the root of the project, and no directories are looked for. -/
theorem compileWith_frame (c : Compilation) (h : Host) (command : Command) (s : Session) :
    (c.compileWith h command s).2.calls =
      { args := command, cwd := some c.root, combine := true } :: s.calls ∧
    NoSearch s (c.compileWith h command s).2 := by
  unfold compileWith
  dsimp only
  split
  · exact ⟨rfl, rfl, rfl⟩
  · exact ⟨rfl, rfl, rfl⟩

/-- A turn that needs no directories looks for none and does not call the runner. -/
theorem serve_of_idle (hidle : t.needs = false) :
    ∃ product s', c.serve t = (product, { c with runner := t.runner }, s') ∧
      s'.calls = t.session.calls ∧ NoSearch t.session s' ∧
      ∀ command, product ≠ .ok (.command command) := by
  obtain ⟨host, session, runner, task⟩ := t
  cases task with
  | command target => cases hidle
  | includePath => cases hidle
  | inspect target =>
    simp only [Turn.needs] at hidle
    simp only [serve, perform, inspect]
    cases hhead : host.fileHead target with
    | error e => exact ⟨_, _, rfl, rfl, .refl _, nofun⟩
    | ok line =>
      rw [hhead] at hidle
      simp only [Bool.not_eq_false'] at hidle
      simp only [hidle, if_true]
      exact ⟨_, _, rfl, rfl, ⟨rfl, rfl⟩, nofun⟩

/-- What a turn gives if the directories are `paths`: the directories, the command, or a call of the
runner with the command, whatever the runner answers. -/
def Gives (c : Compilation) (t : Turn) (paths : List Path) (product : Except Failure Product)
    (s' : Session) : Prop :=
  match t.task with
  | .includePath => product = .ok (.includePath paths) ∧ s'.calls = t.session.calls
  | .command target =>
    product = .ok (.command (c.commandWith t.host paths target)) ∧ s'.calls = t.session.calls
  | .inspect target =>
    s'.calls = { args := c.commandWith t.host paths target, cwd := some c.root, combine := true } ::
      t.session.calls ∧ ∀ command, product ≠ .ok (.command command)

theorem Gives.call {product : Except Failure Product} {target : Path}
    (hgives : Gives c t paths product s') (htask : t.task = .inspect target) :
    s'.calls = { args := c.commandWith t.host paths target, cwd := some c.root, combine := true } ::
      t.session.calls := by
  simp only [Gives, htask] at hgives
  exact hgives.1

/-- To find the directories changes an inspection in what it remembers only. -/
theorem includePath_same {result : Except Failure (List Path)}
    (hpaths : c.includePath h s = (result, c', s')) : ∃ resolved, c' = { c with resolved } := by
  rcases includePath_cases c h s with ⟨paths, -, heq⟩ | ⟨paths, s₁, -, -, heq⟩ | ⟨e, s₁, -, -, heq⟩
  all_goals rw [heq] at hpaths; cases hpaths
  · exact ⟨c.resolved, rfl⟩
  · exact ⟨some paths, rfl⟩
  · exact ⟨c.resolved, rfl⟩

theorem commandFor_of_paths (hpaths : c.includePath h s = (.ok paths, c', s')) (target : Path) :
    c.commandFor h target s = (.ok (c.commandWith h paths target), c', s') := by
  obtain ⟨resolved, rfl⟩ := includePath_same hpaths
  simp only [commandFor, hpaths]
  rfl

theorem commandFor_of_failure {e : Failure} (hpaths : c.includePath h s = (.error e, c', s'))
    (target : Path) : c.commandFor h target s = (.error e, c', s') := by
  simp only [commandFor, hpaths]

theorem inspect_of_paths {target : Path} {line : List Char} (hhead : h.fileHead target = .ok line)
    (hperl : Shebang.isForeign line = false) (hpaths : c.includePath h s = (.ok paths, c', s')) :
    c.inspect h target s = ((c'.compileWith h (c.commandWith h paths target) s').1, c',
      (c'.compileWith h (c.commandWith h paths target) s').2) := by
  simp only [inspect, hhead, hperl, Bool.false_eq_true, if_false, commandFor_of_paths hpaths]

theorem inspect_of_failure {target : Path} {line : List Char} {e : Failure}
    (hhead : h.fileHead target = .ok line) (hperl : Shebang.isForeign line = false)
    (hpaths : c.includePath h s = (.error e, c', s')) :
    c.inspect h target s = (.error e, c', s') := by
  simp only [inspect, hhead, hperl, Bool.false_eq_true, if_false, commandFor_of_failure hpaths]

theorem head_of_needs {target : Path} (hneeds : t.needs = true) (htask : t.task = .inspect target) :
    ∃ line, t.host.fileHead target = .ok line ∧ Shebang.isForeign line = false := by
  simp only [Turn.needs, htask] at hneeds
  cases hhead : t.host.fileHead target with
  | error e =>
    rw [hhead] at hneeds
    cases hneeds
  | ok line =>
    rw [hhead] at hneeds
    exact ⟨line, rfl, by simpa using hneeds⟩

/-- A turn that gets the directories it needs looks for no others. -/
theorem serve_of_paths (hneeds : t.needs = true) (hpaths : includePath { c with runner := t.runner }
    t.host t.session = (.ok paths, c', s)) :
    ∃ product s', c.serve t = (product, c', s') ∧ Gives c t paths product s' ∧ NoSearch s s' := by
  have hcalls := (includePath_frame hpaths).2
  cases htask : t.task with
  | includePath =>
    simp only [serve, perform, Gives, htask, hpaths]
    exact ⟨_, s, rfl, ⟨rfl, hcalls⟩, .refl s⟩
  | command target =>
    simp only [serve, perform, Gives, htask, commandFor_of_paths hpaths]
    exact ⟨_, s, rfl, ⟨rfl, hcalls⟩, .refl s⟩
  | inspect target =>
    obtain ⟨line, hhead, hperl⟩ := head_of_needs hneeds htask
    simp only [serve, perform, Gives, htask, inspect_of_paths hhead hperl hpaths]
    obtain ⟨resolved, rfl⟩ := includePath_same hpaths
    obtain ⟨hcall, hsearch⟩ := compileWith_frame { c with runner := t.runner, resolved } t.host
      (c.commandWith t.host paths target) s
    rw [hcalls] at hcall
    refine ⟨_, _, rfl, ⟨hcall, fun command => ?_⟩, hsearch⟩
    cases (compileWith _ t.host _ s).1 <;> exact nofun

/-- A turn that does not get the directories it needs fails the way it does to find them. -/
theorem serve_of_failure {e : Failure} (hneeds : t.needs = true)
    (hpaths : includePath { c with runner := t.runner } t.host t.session = (.error e, c', s)) :
    c.serve t = (.error e, c', s) := by
  cases htask : t.task with
  | includePath =>
    simp only [serve, perform, htask, hpaths]
    rfl
  | command target =>
    simp only [serve, perform, htask, commandFor_of_failure hpaths]
    rfl
  | inspect target =>
    obtain ⟨line, hhead, hperl⟩ := head_of_needs hneeds htask
    simp only [serve, perform, htask, inspect_of_failure hhead hperl hpaths]
    rfl

/-- The directories that a turn finds if none are remembered. -/
def found (c : Compilation) (t : Turn) : Option (List Path) :=
  if t.needs then (c.attempt t).toOption else none

/-- A turn needs no directories; or it has them, remembered or found, and remembers them; or it
finds none and remembers nothing. -/
theorem serve_cases (c : Compilation) (t : Turn) :
    (t.needs = false ∧ ∃ product s', c.serve t = (product, { c with runner := t.runner }, s') ∧
      s'.calls = t.session.calls ∧ NoSearch t.session s' ∧
      ∀ command, product ≠ .ok (.command command)) ∨
    (t.needs = true ∧ ∃ paths product s', c.resolved.or (c.found t) = some paths ∧
      c.serve t = (product, { c with runner := t.runner, resolved := some paths }, s') ∧
      Gives c t paths product s' ∧ (c.resolved ≠ none → NoSearch t.session s')) ∨
    (t.needs = true ∧ c.resolved = none ∧ ∃ e s', c.attempt t = .error e ∧
      c.serve t = (.error e, { c with runner := t.runner }, s') ∧ s'.calls = t.session.calls) := by
  cases hneeds : t.needs with
  | false => exact .inl ⟨rfl, serve_of_idle hneeds⟩
  | true =>
    refine .inr ?_
    rcases includePath_cases { c with runner := t.runner } t.host t.session with
      ⟨paths, hresolved, hpaths⟩ | ⟨paths, s, hresolved, hresolve, hpaths⟩ |
      ⟨e, s, hresolved, hresolve, hpaths⟩
    · obtain ⟨product, s', hserve, hgives, hsearch⟩ := serve_of_paths hneeds hpaths
      refine .inl ⟨rfl, paths, product, s', ?_, ?_, hgives, fun _ => hsearch⟩
      · exact congrArg (Option.or · (c.found t)) hresolved
      · rw [hserve, ← hresolved]
    · obtain ⟨product, s', hserve, hgives, -⟩ := serve_of_paths hneeds hpaths
      have hattempt : c.attempt t = .ok paths := congrArg Prod.fst hresolve
      refine .inl ⟨rfl, paths, product, s', ?_, hserve, hgives, fun hknown => ?_⟩
      · rw [show c.resolved = none from hresolved, found, hneeds, hattempt]
        rfl
      · exact absurd hresolved hknown
    · exact .inr ⟨rfl, hresolved, e, s, congrArg Prod.fst hresolve, serve_of_failure hneeds hpaths,
        (includePath_frame hpaths).2⟩

/-! ## What is remembered -/

theorem firstFound_cons (c : Compilation) (t : Turn) (ts : List Turn) :
    c.firstFound (t :: ts) = (c.found t).or (c.firstFound ts) := by
  cases hneeds : t.needs with
  | false => simp [firstFound, found, hneeds]
  | true => cases hattempt : (c.attempt t).toOption <;> simp [firstFound, found, hneeds, hattempt]

theorem firstFound_append (c : Compilation) (ts ts' : List Turn) :
    c.firstFound (ts ++ ts') = (c.firstFound ts).or (c.firstFound ts') := by
  simp only [firstFound, List.filter_append, List.findSome?_append]

theorem firstFound_concat (c : Compilation) (ts : List Turn) (t : Turn) :
    c.firstFound (ts ++ [t]) = (c.firstFound ts).or (c.found t) := by
  rw [firstFound_append, firstFound_cons]
  exact congrArg _ Option.or_none

/-- One turn: what is remembered stays, and if that is nothing, what is found is remembered. -/
theorem serve_state (c : Compilation) (t : Turn) :
    (c.serve t).2.1 = { c with runner := t.runner, resolved := c.resolved.or (c.found t) } := by
  rcases serve_cases c t with ⟨hneeds, product, s', hserve, -⟩ |
    ⟨hneeds, paths, product, s', hpaths, hserve, -⟩ | ⟨hneeds, hnone, e, s', hattempt, hserve, -⟩
  · simp [hserve, found, hneeds]
  · rw [hserve, hpaths]
  · simp [hserve, hnone, found, hneeds, hattempt, Except.toOption]

/-- Any number of turns: what is remembered is the first that was found. -/
theorem after_eq (c : Compilation) (ts : List Turn) :
    ∃ runner, c.after ts = { c with runner, resolved := c.resolved.or (c.firstFound ts) } := by
  induction ts generalizing c with
  | nil => exact ⟨c.runner, by simp [after, firstFound]⟩
  | cons t ts ih =>
    obtain ⟨runner, hrest⟩ := ih (c.serve t).2.1
    refine ⟨runner, ?_⟩
    have hafter : c.after (t :: ts) = (c.serve t).2.1.after ts := rfl
    rw [hafter, serve_state, firstFound_cons, ← Option.or_assoc]
    rw [serve_state] at hrest
    exact hrest

/-! ## What is built -/

/-- Nothing is built without a call of the runner, unless a command is asked for. -/
theorem built_eq_nil {product : Except Failure Product} (hserve : c.serve t = (product, c', s'))
    (hcalls : s'.calls = t.session.calls) (hproduct : ∀ command, product ≠ .ok (.command command)) :
    c.built t = [] := by
  unfold built
  rw [hserve]
  split
  · next heq => exact absurd (congrArg Prod.fst heq) (hproduct _)
  · next heq =>
    cases heq
    rw [newCalls_self hcalls]
    rfl

/-- A command is built for the file that a turn is about, with the directories it has. -/
theorem built_of_gives {product : Except Failure Product} {command : Command}
    (hserve : c.serve t = (product, c', s')) (hgives : Gives c t paths product s')
    (hcommand : command ∈ c.built t) :
    ∃ target, t.task.target? = some target ∧ command = c.commandWith t.host paths target := by
  unfold Gives at hgives
  split at hgives
  · obtain ⟨rfl, hcalls⟩ := hgives
    rw [built_eq_nil hserve hcalls nofun] at hcommand
    cases hcommand
  · next target htask =>
    obtain ⟨rfl, hcalls⟩ := hgives
    rw [built, hserve] at hcommand
    exact ⟨target, by rw [htask]; rfl, List.mem_singleton.mp hcommand⟩
  · next target htask =>
    obtain ⟨hcalls, hproduct⟩ := hgives
    refine ⟨target, by rw [htask]; rfl, ?_⟩
    rw [built, hserve] at hcommand
    split at hcommand
    · next heq => exact absurd (congrArg Prod.fst heq) (hproduct _)
    · next heq =>
      cases heq
      simpa [newCalls_cons hcalls] using hcommand

theorem built_cases {command : Command} (hcommand : command ∈ c.built t) :
    ∃ paths target, c.resolved.or (c.found t) = some paths ∧ t.task.target? = some target ∧
      command = c.commandWith t.host paths target := by
  rcases serve_cases c t with ⟨-, product, s', hserve, hcalls, -, hproduct⟩ |
    ⟨-, paths, product, s', hpaths, hserve, hgives, -⟩ | ⟨-, -, e, s', -, hserve, hcalls⟩
  · rw [built_eq_nil hserve hcalls hproduct] at hcommand
    cases hcommand
  · obtain ⟨target, htarget, heq⟩ := built_of_gives hserve hgives hcommand
    exact ⟨paths, target, hpaths, htarget, heq⟩
  · rw [built_eq_nil hserve hcalls nofun] at hcommand
    cases hcommand

theorem gives_of_needs (hneeds : t.needs = true) (hpaths : c.resolved.or (c.found t) = some paths) :
    Gives c t paths (c.serve t).1 (c.serve t).2.2 := by
  rcases serve_cases c t with ⟨hidle, -⟩ | ⟨-, paths', product, s', hpaths', hserve, hgives, -⟩ |
    ⟨-, hnone, e, s', hattempt, -⟩
  · rw [hneeds] at hidle
    cases hidle
  · rw [hpaths] at hpaths'
    cases hpaths'
    rw [hserve]
    exact hgives
  · simp [hnone, found, hneeds, hattempt, Except.toOption] at hpaths

theorem noSearch_of_resolved (hknown : c.resolved ≠ none) : NoSearch t.session (c.serve t).2.2 := by
  rcases serve_cases c t with ⟨-, product, s', hserve, -, hsearch, -⟩ |
    ⟨-, paths, product, s', -, hserve, -, hsearch⟩ | ⟨-, hnone, -⟩
  · rw [hserve]
    exact hsearch
  · rw [hserve]
    exact hsearch hknown
  · exact absurd hnone hknown

theorem failure_of_needs (hneeds : t.needs = true) (hnone : c.resolved.or (c.found t) = none) :
    ∃ e, c.attempt t = .error e ∧ (c.serve t).1 = .error e ∧
      (c.serve t).2.2.calls = t.session.calls := by
  rcases serve_cases c t with ⟨hidle, -⟩ | ⟨-, paths, product, s', hpaths, -⟩ |
    ⟨-, -, e, s', hattempt, hserve, hcalls⟩
  · rw [hneeds] at hidle
    cases hidle
  · rw [hnone] at hpaths
    cases hpaths
  · exact ⟨e, hattempt, by rw [hserve], by rw [hserve]; exact hcalls⟩

/-- A file for another interpreter is passed over. -/
theorem serve_of_foreign {target : Path} {line : List Char} (htask : t.task = .inspect target)
    (hhead : t.host.fileHead target = .ok line) (hforeign : Shebang.isForeign line = true) :
    (c.serve t).1 = .ok (.diagnostics []) ∧ NoSearch t.session (c.serve t).2.2 ∧
      (c.serve t).2.2.calls = t.session.calls := by
  have hidle : t.needs = false := by simp [Turn.needs, htask, hhead, hforeign]
  obtain ⟨product, s', hserve, hcalls, hsearch, -⟩ := serve_of_idle (c := c) hidle
  refine ⟨?_, by rw [hserve]; exact hsearch, by rw [hserve]; exact hcalls⟩
  simp [serve, perform, htask, inspect, hhead, hforeign, deliver, Except.map]

/-- The directories for libraries are resolved once. On every turn `t` after any turns `past`, an
inspection remembers the first directories that could be resolved, and they are the first ones of
all turns, whatever comes after. Every command is built with them; once they are known, none are
looked for; a failure to resolve them is the failure of the turn and leaves nothing behind. A file
for another interpreter needs none, and the runner is not called for it. -/
theorem commands_share_directories (hnew : c.resolved = none) (past : List Turn) (t : Turn)
    (future : List Turn) :
    let before := c.after past
    let first := c.firstFound (past ++ [t])
    let product := (before.serve t).1
    let now := (before.serve t).2.1
    let s' := (before.serve t).2.2
    now.resolved = first ∧
    (∀ paths, first = some paths → c.firstFound (past ++ t :: future) = some paths) ∧
    (∀ command ∈ before.built t, ∃ paths target,
      first = some paths ∧ t.task.target? = some target ∧
      command = [c.config.perl, "-c"] ++ c.config.args ++ paths.map (fun p => "-I" ++ p.text) ++
        [(t.host.absolute target).text]) ∧
    (t.needs = true → ∀ paths, first = some paths → Gives c t paths product s') ∧
    (c.firstFound past ≠ none → NoSearch t.session s') ∧
    (t.needs = true → first = none → ∃ e, c.attempt t = .error e ∧ product = .error e ∧
      s'.calls = t.session.calls) ∧
    ∀ target line, t.task = .inspect target → t.host.fileHead target = .ok line →
      Shebang.isForeign line = true →
      product = .ok (.diagnostics []) ∧ NoSearch t.session s' ∧ s'.calls = t.session.calls := by
  intro before first product now s'
  obtain ⟨runner, hbefore⟩ := c.after_eq past
  rw [hnew, Option.none_or] at hbefore
  have hbefore : before = { c with runner, resolved := c.firstFound past } := hbefore
  have hfirst : first = before.resolved.or (before.found t) := by
    rw [hbefore]
    exact c.firstFound_concat past t
  refine ⟨?_, ?_, ?_, ?_, ?_, ?_, fun target line => serve_of_foreign⟩
  · rw [hfirst]
    exact congrArg resolved (serve_state before t)
  · intro paths hpaths
    rw [← List.singleton_append, ← List.append_assoc, firstFound_append]
    exact congrArg (Option.or · _) hpaths
  · intro command hcommand
    obtain ⟨paths, target, hpaths, htarget, rfl⟩ := built_cases hcommand
    refine ⟨paths, target, hfirst.trans hpaths, htarget, ?_⟩
    rw [hbefore]
    rfl
  · intro hneeds paths hpaths
    have hgives := gives_of_needs hneeds (hfirst.symm.trans hpaths)
    have hsame : Gives before t paths = Gives c t paths := by
      rw [hbefore]
      rfl
    rw [hsame] at hgives
    exact hgives
  · intro hknown
    exact noSearch_of_resolved (by rw [hbefore]; exact hknown)
  · intro hneeds hnone
    obtain ⟨e, hattempt, hproduct, hcalls⟩ := failure_of_needs hneeds (hfirst.symm.trans hnone)
    refine ⟨e, ?_, hproduct, hcalls⟩
    rw [hbefore] at hattempt
    exact hattempt

/-- An inspection by the interpreter `/p`, below the root. -/
def seeking : Compilation where
  config := { perl := "/p" }
  root := ⟨.root, []⟩

/-- A turn that compiles `/a`, on a host. -/
def turnOn (host : Host) : Turn where
  host
  session := {}
  runner := fun _ call => .ok ⟨call.args, 0, "", none⟩
  task := .inspect ⟨.root, ["a"]⟩

/-- A turn on a host without the interpreter. -/
def turnWithout : Turn := turnOn (Checker.visitOf "a").host

/-- A turn on a host that has the interpreter, and a directory `lib`. -/
def turnWith : Turn :=
  turnOn { Checker.talkative with tree := Checker.talkative.tree.set ["lib"] .dir }

/-- First the interpreter is missing and nothing is found, then it is there and `lib` is found. On a
third turn both have gone, and the command is still built with `lib`. -/
theorem commands_share_directories_gone :
    let served := (seeking.after [turnWithout, turnWith]).serve turnWithout
    served.2.1.resolved = some [⟨.root, []⟩, ⟨.root, ["lib"]⟩] ∧
    served.2.2.calls.map Call.args = [["/p", "-c", "-I/", "-I/lib", "/a"]] ∧
    NoSearch turnWithout.session served.2.2 := by
  have hpast : seeking.firstFound [turnWithout, turnWith] =
      some [⟨.root, []⟩, ⟨.root, ["lib"]⟩] := by
    decide +kernel
  have hfirst : seeking.firstFound ([turnWithout, turnWith] ++ [turnWithout]) =
      some [⟨.root, []⟩, ⟨.root, ["lib"]⟩] := by
    rw [firstFound_append, hpast]
    rfl
  obtain ⟨hnow, -, -, hgives, hsearch, -⟩ :=
    commands_share_directories (c := seeking) rfl [turnWithout, turnWith] turnWithout []
  refine ⟨hnow.trans hfirst, ?_, hsearch (by rw [hpast]; exact nofun)⟩
  rw [(hgives (by decide) _ hfirst).call rfl]
  decide

end PerlVet.Compilation
