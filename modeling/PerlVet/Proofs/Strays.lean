import PerlVet.Proofs.Rendering
import PerlVet.Proofs.SharedDirectories

/-!
How an inspection by the interpreter fails. It foresees a file that cannot be read and an
interpreter that cannot be run. What else can end it is listed in `Compilation.Strays`: a name that
no file can have, directories for libraries that cannot be looked at or belong to nobody, and a line
of output whose number has more digits than can be read. Every failure is of one kind or the other
(`inspect_error`), and none of those listed is ever caught (`inspect_of_strays`).
-/

namespace PerlVet

/-- The failures that an inspection by the interpreter foresees. -/
def Failure.isForeseen : Failure → Bool
  | .targetMissing _ | .targetUnreadable _ _ | .unableToRun _ _ => true
  | _ => false

/-! ## Numbers in the output -/

namespace Output
open Text

variable {file line digits : List Char} {lines : List (List Char)} {p : Progress}
  {e : TooManyDigits}

/-- The digits of the number that a line of output gives for a line of the file: it announces an
abort there, or it names a place and is no restatement. -/
inductive GivesNumber (file line : List Char) : List Char → Prop where
  | abort {digits : List Char} : IsNumeral digits →
    trimRight line = abortMessage.toList ++ mark file ++ (digits ++ ['.']) →
    GivesNumber file line digits
  | place {l : Located} : isRestatement (trimRight line) = false →
    locate file (trimRight line) = some l → GivesNumber file line l.digits

/-- The number that a line gives has too many digits. -/
def Overlong (file line : List Char) (count : Nat) : Prop :=
  ∃ digits, GivesNumber file line digits ∧ digits.length = count ∧ maxDigits < count

theorem readNumber_error_iff :
    readNumber digits = .error e ↔ maxDigits < digits.length ∧ e = ⟨digits.length⟩ := by
  unfold readNumber
  split
  · next hlong => simp [hlong, eq_comm]
  · next hshort => simp [hshort]

theorem locate_nil (file : List Char) : locate file [] = none := rfl

theorem Progress.step_error (h : p.step file line = .error e) : Overlong file line e.count := by
  unfold Progress.step at h
  split at h
  · next digits habort =>
    obtain ⟨hnumeral, hline⟩ := abortDigits?_eq_some_iff.mp habort
    obtain ⟨hlong, rfl⟩ := readNumber_error_iff.mp (map_error_iff.mp h)
    exact ⟨digits, .abort hnumeral hline, rfl, hlong⟩
  · rw [map_error_iff, readLine] at h
    split at h
    · cases h
    · next hnew =>
      split at h
      · cases h
      · next l hplace =>
        obtain ⟨-, hfresh⟩ : (trimRight line).isEmpty = false ∧
            isRestatement (trimRight line) = false := by simpa using hnew
        obtain ⟨hlong, rfl⟩ := readNumber_error_iff.mp (map_error_iff.mp h)
        exact ⟨l.digits, .place hfresh hplace, rfl, hlong⟩

theorem Progress.step_of_overlong {count : Nat} (h : Overlong file line count) (p : Progress) :
    p.step file line = .error ⟨count⟩ := by
  obtain ⟨digits, hgives, rfl, hlong⟩ := h
  have hread : readNumber digits = .error ⟨digits.length⟩ := readNumber_error_iff.mpr ⟨hlong, rfl⟩
  unfold Progress.step
  cases hgives with
  | abort hnumeral hline =>
    rw [abortDigits?_eq_some_iff.mpr ⟨hnumeral, hline⟩]
    dsimp only
    rw [hread]
    rfl
  | @place l hnew hplace =>
    -- Lines that announce an abort are restatements, so this one does not.
    have habort : abortDigits? file (trimRight line) = none := by
      cases habort : abortDigits? file (trimRight line) with
      | none => rfl
      | some digits => simp [isRestatement_of_abortDigits habort] at hnew
    have hne : (trimRight line).isEmpty = false := by
      cases hempty : trimRight line with
      | nil =>
        rw [hempty, locate_nil] at hplace
        cases hplace
      | cons => rfl
    rw [habort]
    simp only [readLine, hne, hnew, hplace, hread]
    rfl

theorem Progress.steps_error (h : Progress.steps file lines p = .error e) :
    ∃ line ∈ lines, Overlong file line e.count := by
  induction lines generalizing p with
  | nil => cases h
  | cons line lines ih =>
    rw [Progress.steps] at h
    cases hstep : p.step file line with
    | error e' =>
      rw [hstep] at h
      cases h
      exact ⟨line, List.mem_cons_self, step_error hstep⟩
    | ok q =>
      rw [hstep] at h
      obtain ⟨line', hmem, hlong⟩ := ih h
      exact ⟨line', List.mem_cons_of_mem line hmem, hlong⟩

theorem Progress.steps_of_overlong {count : Nat} (hline : line ∈ lines)
    (hlong : Overlong file line count) (p : Progress) :
    ∃ e, Progress.steps file lines p = .error e := by
  induction lines generalizing p with
  | nil => cases hline
  | cons first lines ih =>
    rw [Progress.steps]
    cases hstep : p.step file first with
    | error e => exact ⟨e, rfl⟩
    | ok q =>
      rcases List.mem_cons.mp hline with rfl | hrest
      · rw [step_of_overlong hlong] at hstep
        cases hstep
      · exact ih hrest q

end Output

/-! ## Directories for libraries -/

section Filter

variable {ε α : Type} {f : α → Except ε Bool} {x : α} {l acc : List α} {e : ε}

theorem filterAuxM_error (h : l.filterAuxM f acc = .error e) : ∃ x ∈ l, f x = .error e := by
  induction l generalizing acc with
  | nil => cases h
  | cons x l ih =>
    rw [List.filterAuxM] at h
    cases hx : f x with
    | error e' =>
      rw [hx] at h
      cases h
      exact ⟨x, List.mem_cons_self, hx⟩
    | ok b =>
      rw [hx] at h
      obtain ⟨y, hy, herror⟩ := ih h
      exact ⟨y, List.mem_cons_of_mem x hy, herror⟩

theorem filterAuxM_of_error (hx : x ∈ l) (h : f x = .error e) (acc : List α) :
    ∃ e', l.filterAuxM f acc = .error e' := by
  induction l generalizing acc with
  | nil => cases hx
  | cons y l ih =>
    rw [List.filterAuxM]
    cases hy : f y with
    | error e' => exact ⟨e', rfl⟩
    | ok b =>
      rcases List.mem_cons.mp hx with rfl | hrest
      · rw [h] at hy
        cases hy
      · exact ih hrest _

/-- A filter fails the way one of its tests does. -/
theorem filterM_error (h : l.filterM f = .error e) : ∃ x ∈ l, f x = .error e := by
  unfold List.filterM at h
  cases hfilter : l.filterAuxM f [] with
  | error e' =>
    rw [hfilter] at h
    cases h
    exact filterAuxM_error hfilter
  | ok found =>
    rw [hfilter] at h
    cases h

theorem filterM_of_error (hx : x ∈ l) (h : f x = .error e) : ∃ e', l.filterM f = .error e' := by
  obtain ⟨e', hfilter⟩ := filterAuxM_of_error hx h []
  refine ⟨e', ?_⟩
  unfold List.filterM
  rw [hfilter]
  rfl

end Filter

namespace IncludePath

variable {h : Host} {root : Path} {inc : Config.Include} {entry architecture : String}
  {entries : List String} {baseline : Path} {e : Failure}

/-- A configured directory that starts at a home directory of nobody: the name of the user holds a
NUL, or is not known, or has a home that needs another one. -/
inductive Homeless (h : Host) (entry : String) : Failure → Prop where
  | nul {first : String} {rest : List String} :
    Path.ofString entry = ⟨.relative, first :: rest⟩ → first.toList.head? = some '~' →
    '\x00' ∈ first.toList → Homeless h entry .nulCharacter
  | unknown {first : String} {rest : List String} :
    Path.ofString entry = ⟨.relative, first :: rest⟩ → first.toList.head? = some '~' →
    '\x00' ∉ first.toList → (∀ dir ∈ h.home? first, dir.toList.head? = some '~') →
    Homeless h entry .homeUnknown

/-- What an entry is replaced by fails to be known for the two reasons above, and no other. -/
theorem place_error_iff : place h root entry = .error e ↔ Homeless h entry e := by
  unfold place
  rw [map_error_iff]
  constructor
  · intro hexpand
    unfold Host.expandHome at hexpand
    split at hexpand
    · next first rest hanchor hparts =>
      have hpath : Path.ofString entry = ⟨.relative, first :: rest⟩ := by
        rw [← hanchor, ← hparts]
      split at hexpand
      · next htilde =>
        have htilde : first.toList.head? = some '~' := by simpa using htilde
        split at hexpand
        · next hnul =>
          cases hexpand
          exact .nul hpath htilde (by simpa using hnul)
        · next hnul =>
          have hnul : '\x00' ∉ first.toList := by simpa using hnul
          split at hexpand
          · next hhome =>
            cases hexpand
            exact .unknown hpath htilde hnul (by rw [hhome]; exact nofun)
          · next dir hhome =>
            split at hexpand
            · next hdir =>
              cases hexpand
              refine .unknown hpath htilde hnul fun dir' hdir' => ?_
              rw [hhome] at hdir'
              cases hdir'
              simpa using hdir
            · cases hexpand
      · cases hexpand
    · cases hexpand
  · rintro (⟨hpath, htilde, hnul⟩ | ⟨hpath, htilde, hnul, hhome⟩)
    · simp [Host.expandHome, hpath, htilde, hnul]
    · simp only [Host.expandHome, hpath, htilde, List.contains_iff_mem, hnul, beq_self_eq_true,
        if_true, if_false]
      split
      · rfl
      · next dir hdir => rw [hhome dir hdir, if_pos (beq_self_eq_true _)]

theorem placeAll_error (hplace : placeAll h root entries = .error e) :
    ∃ entry ∈ entries, Homeless h entry e := by
  induction entries with
  | nil => cases hplace
  | cons entry entries ih =>
    rw [placeAll] at hplace
    split at hplace
    · next hentry =>
      cases hplace
      exact ⟨entry, List.mem_cons_self, place_error_iff.mp hentry⟩
    · obtain ⟨entry', hmem, hhomeless⟩ := ih (map_error_iff.mp hplace)
      exact ⟨entry', List.mem_cons_of_mem entry hmem, hhomeless⟩

theorem placeAll_of_homeless (hentry : entry ∈ entries) (hhomeless : Homeless h entry e)
    (root : Path) : ∃ e', placeAll h root entries = .error e' := by
  induction entries with
  | nil => cases hentry
  | cons first entries ih =>
    rw [placeAll]
    split
    · exact ⟨_, rfl⟩
    · next hfirst =>
      rcases List.mem_cons.mp hentry with rfl | hrest
      · rw [place_error_iff.mpr hhomeless] at hfirst
        cases hfirst
      · obtain ⟨e', hplace⟩ := ih hrest
        exact ⟨e', by rw [hplace]; rfl⟩

theorem stat?_error_iff {p : Path} :
    h.stat? p = .error e ↔
      p.hasNul = false ∧ h.walk p = .error .nameTooLong ∧ e = .system .nameTooLong p.text := by
  unfold Host.stat?
  split
  · next hnul => simp [hnul]
  · next hnul =>
    split
    · next hwalk => simp [hwalk]
    · next hwalk => simp [hwalk, hnul, eq_comm]
    · next hlong hwalk =>
      simp only [reduceCtorEq, false_iff]
      rintro ⟨-, htoo, -⟩
      rw [hwalk] at htoo
      cases htoo
      exact hlong rfl

theorem isDir_error_iff {p : Path} :
    h.isDir p = .error e ↔
      p.hasNul = false ∧ h.walk p = .error .nameTooLong ∧ e = .system .nameTooLong p.text := by
  rw [Host.isDir, map_error_iff, stat?_error_iff]

/-- The directories for libraries cannot be resolved: a usual place has a name that is too long for
the system, or a configured directory is homeless. -/
inductive Unresolvable (h : Host) (root : Path) (inc : Config.Include) (architecture : String) :
    Failure → Prop where
  | usual {p : Path} : inc.replaceDefaults = false → p ∈ usualPlaces root architecture →
    p.hasNul = false → h.walk p = .error .nameTooLong →
    Unresolvable h root inc architecture (.system .nameTooLong p.text)
  | configured {entry : String} {e : Failure} : entry ∈ inc.libs → Homeless h entry e →
    Unresolvable h root inc architecture e

theorem resolve_cases (h : Host) (root : Path) (inc : Config.Include) (architecture : String)
    (baseline : Path) :
    (∃ e, inc.replaceDefaults = false ∧
      (usualPlaces root architecture).filterM h.isDir = .error e ∧
      resolve h root inc architecture baseline = .error e) ∨
    ∃ usual, (inc.replaceDefaults = false →
        (usualPlaces root architecture).filterM h.isDir = .ok usual) ∧
      resolve h root inc architecture baseline =
        (placeAll h root inc.libs).map fun libs => distinct [] (baseline :: usual ++ libs) := by
  unfold resolve
  cases hreplace : inc.replaceDefaults with
  | true =>
    refine .inr ⟨[], nofun, ?_⟩
    cases placeAll h root inc.libs <;> rfl
  | false =>
    cases hfilter : (usualPlaces root architecture).filterM h.isDir with
    | error e => exact .inl ⟨e, rfl, rfl, rfl⟩
    | ok usual =>
      refine .inr ⟨usual, fun _ => rfl, ?_⟩
      cases placeAll h root inc.libs <;> rfl

theorem resolve_error (hresolve : resolve h root inc architecture baseline = .error e) :
    Unresolvable h root inc architecture e := by
  rcases resolve_cases h root inc architecture baseline with ⟨e', hdefaults, hfilter, heq⟩ |
    ⟨usual, -, heq⟩
  · rw [hresolve] at heq
    cases heq
    obtain ⟨p, hp, hdir⟩ := filterM_error hfilter
    obtain ⟨hnul, hwalk, rfl⟩ := isDir_error_iff.mp hdir
    exact .usual hdefaults hp hnul hwalk
  · rw [hresolve] at heq
    obtain ⟨entry, hentry, hhomeless⟩ := placeAll_error (map_error_iff.mp heq.symm)
    exact .configured hentry hhomeless

theorem resolve_of_unresolvable (hbad : Unresolvable h root inc architecture e)
    (baseline : Path) : ∃ e', resolve h root inc architecture baseline = .error e' := by
  rcases resolve_cases h root inc architecture baseline with ⟨e', -, -, heq⟩ | ⟨usual, husual, heq⟩
  · exact ⟨e', heq⟩
  · rw [heq]
    cases hbad with
    | usual hdefaults hp hnul hwalk =>
      obtain ⟨e', hfilter⟩ := filterM_of_error hp (isDir_error_iff.mpr ⟨hnul, hwalk, rfl⟩)
      rw [husual hdefaults] at hfilter
      cases hfilter
    | configured hentry hhomeless =>
      obtain ⟨e', hplace⟩ := placeAll_of_homeless hentry hhomeless root
      exact ⟨e', map_error_iff.mpr hplace⟩

theorem Unresolvable.not_foreseen (hbad : Unresolvable h root inc architecture e) :
    e.isForeseen = false := by
  cases hbad with
  | usual => rfl
  | configured hentry hhomeless => cases hhomeless <;> rfl

end IncludePath

/-! ## The whole inspection -/

namespace Compilation
open Output

variable {c c' : Compilation} {h : Host} {target : Path} {s s' : Session} {tag : String}
  {line : List Char} {paths : List Path} {e : Failure}

/-- The call of the runner that compiles a file. -/
def callWith (c : Compilation) (h : Host) (paths : List Path) (target : Path) : Call where
  args := c.commandWith h paths target
  cwd := some c.root
  combine := true

/-- What ends an inspection unforeseen: a NUL in the name of the file; for a file that the
interpreter is to compile, directories for libraries that cannot be resolved, or a number in the
answer of the interpreter that has too many digits. -/
inductive Strays (c : Compilation) (h : Host) (tag : String) (target : Path) (s : Session) :
    Failure → Prop where
  | name : target.hasNul = true → Strays c h tag target s .nulCharacter
  | directories {line : List Char} {e : Failure} : h.fileHead target = .ok line →
    Shebang.isForeign line = false → c.resolved = none →
    IncludePath.Unresolvable h c.root c.config.inc tag e → Strays c h tag target s e
  | number {line out : List Char} {paths : List Path} {done : Completion} {count : Nat} :
    h.fileHead target = .ok line → Shebang.isForeign line = false →
    (c.includePath h s).1 = .ok paths → c.runner h (c.callWith h paths target) = .ok done →
    out ∈ Text.splitLines done.output.toList →
    Overlong (h.absolute target).text.toList out count →
    Strays c h tag target s (.tooManyDigits ⟨count⟩)

theorem fileHead_error (hhead : h.fileHead target = .error e) :
    (target.hasNul = true ∧ e = .nulCharacter) ∨
      ∃ reason, e = .targetUnreadable target.text reason := by
  unfold Host.fileHead at hhead
  rw [map_error_iff] at hhead
  unfold Host.fileText at hhead
  split at hhead
  · cases hhead
  · next e' hbytes =>
    unfold Host.readBytes at hbytes
    split at hbytes
    · next hnul =>
      cases hbytes
      cases hhead
      exact .inl ⟨hnul, rfl⟩
    · refine .inr ⟨e'.message, ?_⟩
      split at hbytes <;> cases hbytes <;> cases hhead <;> rfl

theorem fileHead_of_hasNul (hnul : target.hasNul = true) :
    h.fileHead target = .error .nulCharacter := by
  simp [Host.fileHead, Host.fileText, Host.readBytes, hnul, Failure.isSystem, Except.map]

theorem resolve_fst (htag : c.architecture = some tag) (h : Host) (s : Session) :
    (c.resolve h s).1 = IncludePath.resolve h c.root c.config.inc tag h.bundled := by
  obtain ⟨s', hfind, -⟩ := IncludePath.find_eq h c.root c.config.inc tag s
  simp only [resolve, htag, hfind]

theorem includePath_error (htag : c.architecture = some tag)
    (hpaths : c.includePath h s = (.error e, c', s')) :
    c.resolved = none ∧ IncludePath.Unresolvable h c.root c.config.inc tag e := by
  rcases includePath_cases c h s with ⟨paths, -, heq⟩ | ⟨paths, s₁, -, -, heq⟩ |
    ⟨e', s₁, hnone, hresolve, heq⟩
  all_goals rw [heq] at hpaths; cases hpaths
  have hfst := resolve_fst htag h s
  rw [hresolve] at hfst
  exact ⟨hnone, IncludePath.resolve_error hfst.symm⟩

theorem includePath_of_unresolvable (htag : c.architecture = some tag) (hnone : c.resolved = none)
    (hbad : IncludePath.Unresolvable h c.root c.config.inc tag e) (s : Session) :
    ∃ e' s', c.includePath h s = (.error e', c, s') ∧
      IncludePath.Unresolvable h c.root c.config.inc tag e' := by
  obtain ⟨e', hresolve⟩ := IncludePath.resolve_of_unresolvable hbad h.bundled
  have hfst := (resolve_fst htag h s).trans hresolve
  rcases includePath_cases c h s with ⟨paths, hsome, -⟩ | ⟨paths, s₁, -, hok, -⟩ |
    ⟨e₁, s₁, -, -, heq⟩
  · rw [hnone] at hsome
    cases hsome
  · rw [hok] at hfst
    cases hfst
  · exact ⟨e₁, s₁, heq, (includePath_error htag heq).2⟩

/-- What comes of calling the runner to compile a file. -/
def outcome (c : Compilation) (h : Host) (paths : List Path) (target : Path) :
    Except Failure (List Diagnostic) :=
  match c.runner h (c.callWith h paths target) with
  | .error e =>
    .error (if e.isSystem then .unableToRun (c.commandWith h paths target) e.message else e)
  | .ok done => diagnostics (c.commandWith h paths target) done

theorem compileWith_fst (c : Compilation) (h : Host) (paths : List Path) (target : Path)
    (s : Session) :
    (c.compileWith h (c.commandWith h paths target) s).1 = c.outcome h paths target := by
  unfold compileWith outcome
  dsimp only
  split
  · next hcall =>
    rw [show c.runner h (c.callWith h paths target) = _ from hcall]
  · next hcall =>
    rw [show c.runner h (c.callWith h paths target) = _ from hcall]

/-- An inspection that gets as far as the interpreter gives what comes of calling it. -/
theorem inspect_fst_of_paths (hhead : h.fileHead target = .ok line)
    (hperl : Shebang.isForeign line = false) (hpaths : (c.includePath h s).1 = .ok paths) :
    (c.inspect h target s).1 = c.outcome h paths target := by
  obtain ⟨c', s', heq⟩ : ∃ c' s', c.includePath h s = (.ok paths, c', s') :=
    ⟨_, _, Prod.ext hpaths rfl⟩
  rw [inspect_of_paths hhead hperl heq]
  obtain ⟨resolved, rfl⟩ := includePath_same heq
  exact compileWith_fst { c with resolved } h paths target s'

theorem getLast_commandWith (c : Compilation) (h : Host) (paths : List Path) (target : Path) :
    (c.commandWith h paths target).getLast?.getD "" = (h.absolute target).text := by
  rw [commandWith, List.getLast?_concat]
  rfl

theorem diagnostics_error_iff {done : Completion} :
    diagnostics (c.commandWith h paths target) done = .error e ↔
      ∃ tooMany, e = .tooManyDigits tooMany ∧
        Progress.steps (h.absolute target).text.toList (Text.splitLines done.output.toList) {} =
          .error tooMany := by
  unfold diagnostics
  rw [getLast_commandWith, Output.read, Output.readLines]
  cases Progress.steps (h.absolute target).text.toList (Text.splitLines done.output.toList) {} with
  | error tooMany => simp [Except.map, eq_comm]
  | ok p => simp [Except.map]

/-- Every failure is foreseen or astray. -/
theorem inspect_error (htag : c.architecture = some tag)
    (hrunner : ∀ call e, c.runner h call = .error e → e.isSystem = true)
    (hinspect : (c.inspect h target s).1 = .error e) :
    e.isForeseen = true ∨ Strays c h tag target s e := by
  -- An inspection goes on from one stage to the next: the file, its first line, the directories for
  -- libraries, the call, the output. Each of them has failures of its own.
  cases hhead : h.fileHead target with
  | error e' =>
    simp only [inspect, hhead] at hinspect
    cases hinspect
    rcases fileHead_error hhead with ⟨hnul, rfl⟩ | ⟨reason, rfl⟩
    · exact .inr (.name hnul)
    · exact .inl rfl
  | ok line =>
    cases hperl : Shebang.isForeign line with
    | true =>
      simp only [inspect, hhead, hperl, if_true] at hinspect
      cases hinspect
    | false =>
      rcases hpaths : c.includePath h s with ⟨e' | paths, c', s'⟩
      · rw [inspect_of_failure hhead hperl hpaths] at hinspect
        cases hinspect
        obtain ⟨hnone, hbad⟩ := includePath_error htag hpaths
        exact .inr (.directories hhead hperl hnone hbad)
      · have hpaths : (c.includePath h s).1 = .ok paths := congrArg Prod.fst hpaths
        rw [inspect_fst_of_paths hhead hperl hpaths, outcome] at hinspect
        split at hinspect
        · next e' hcall =>
          rw [if_pos (hrunner _ e' hcall)] at hinspect
          cases hinspect
          exact .inl rfl
        · next done hcall =>
          obtain ⟨tooMany, rfl, hsteps⟩ := diagnostics_error_iff.mp hinspect
          obtain ⟨out, hout, hlong⟩ := Progress.steps_error hsteps
          exact .inr (.number hhead hperl hpaths hcall hout hlong)

/-- Nothing that goes astray is caught on the way. -/
theorem inspect_of_strays (htag : c.architecture = some tag) (hstrays : Strays c h tag target s e) :
    ∃ e', (c.inspect h target s).1 = .error e' ∧ e'.isForeseen = false := by
  cases hstrays with
  | name hnul =>
    refine ⟨.nulCharacter, ?_, rfl⟩
    simp only [inspect, fileHead_of_hasNul hnul]
  | directories hhead hperl hnone hbad =>
    -- Another directory may be looked at first and fail, but not in a way that is foreseen.
    obtain ⟨e', s', hpaths, hbad'⟩ := includePath_of_unresolvable htag hnone hbad s
    refine ⟨e', ?_, hbad'.not_foreseen⟩
    rw [inspect_of_failure hhead hperl hpaths]
  | number hhead hperl hpaths hcall hout hlong =>
    -- The line may not be the first of its kind.
    obtain ⟨tooMany, hsteps⟩ := Progress.steps_of_overlong hout hlong {}
    refine ⟨.tooManyDigits tooMany, ?_, rfl⟩
    rw [inspect_fst_of_paths hhead hperl hpaths, outcome, hcall]
    exact diagnostics_error_iff.mpr ⟨tooMany, rfl, hsteps⟩

/-- An inspection that is given the architecture name, by a runner that fails only as the system
does, answers with diagnostics or fails. It fails unforeseen exactly when something goes astray, and
then that is what it fails of. -/
theorem inspect_fails_iff (htag : c.architecture = some tag)
    (hrunner : ∀ call e, c.runner h call = .error e → e.isSystem = true) (target : Path)
    (s : Session) :
    let result := (c.inspect h target s).1
    (∀ e, result = .error e → e.isForeseen = true ∨ Strays c h tag target s e) ∧
    ((∃ e, result = .error e ∧ e.isForeseen = false) ↔ ∃ e, Strays c h tag target s e) := by
  intro result
  refine ⟨fun e => inspect_error htag hrunner, ?_, ?_⟩
  · rintro ⟨e, herror, hunforeseen⟩
    refine ⟨e, (inspect_error htag hrunner herror).resolve_left ?_⟩
    rw [hunforeseen]
    exact Bool.false_ne_true
  · rintro ⟨e, hstrays⟩
    exact inspect_of_strays htag hstrays

/-- An inspection that looks for libraries of a user, on behalf of a runner that says one thing. -/
def told (libs : List String) (output : String) : Compilation where
  config := { inc := { libs, replaceDefaults := true } }
  root := ⟨.root, []⟩
  runner := fun _ call => .ok ⟨call.args, 0, output, none⟩
  architecture := some "x"

theorem told_answers {libs : List String} {output : String} {h : Host} {call : Call} {e : Failure}
    (hcall : (told libs output).runner h call = .error e) : e.isSystem = true := by
  cases hcall

/-- A directory below the home of nobody. -/
theorem inspect_fails_iff_homeless :
    ∃ e, ((told ["~nobody/lib"] "").inspect (Checker.visitOf "a").host ⟨.root, ["a"]⟩ {}).1 =
      .error e ∧ e.isForeseen = false := by
  have hpath : Path.ofString "~nobody/lib" = ⟨.relative, ["~nobody", "lib"]⟩ := by decide
  have hhomeless : IncludePath.Homeless (Checker.visitOf "a").host "~nobody/lib" .homeUnknown :=
    .unknown hpath (by decide) (by decide) (by decide)
  exact (inspect_fails_iff rfl (fun _ _ => told_answers) ⟨.root, ["a"]⟩ {}).2.mpr
    ⟨_, .directories rfl rfl rfl (.configured List.mem_cons_self hhomeless)⟩

/-- An abort that is announced for a line with one digit more than can be read. -/
def endlessAbort : List Char :=
  abortMessage.toList ++ mark "/a".toList ++ (List.replicate (Text.maxDigits + 1) '1' ++ ['.'])

theorem overlong_endlessAbort : Overlong "/a".toList endlessAbort (Text.maxDigits + 1) := by
  refine ⟨List.replicate (Text.maxDigits + 1) '1', .abort ⟨?_, ?_⟩ ?_, List.length_replicate,
    Nat.lt_succ_self _⟩
  · simp
  · intro c hc
    rw [List.eq_of_mem_replicate hc]
    decide
  · rw [endlessAbort, ← List.append_assoc]
    exact Text.trimRight_append_singleton (by decide) _

theorem splitLines_endlessAbort : Text.splitLines endlessAbort = [endlessAbort] := by
  have hones : Text.OneLine (List.replicate (Text.maxDigits + 1) '1') := by
    intro c hc
    rw [List.eq_of_mem_replicate hc]
    decide
  have hhead : Text.OneLine (abortMessage.toList ++ mark "/a".toList) := by decide
  have hstop : Text.OneLine ['.'] := by decide
  exact Text.splitLines_of_oneLine (hhead.append (hones.append hstop)) (by simp [endlessAbort])

/-- It is not so that every failure of an inspection is foreseen, whatever the runner prints. -/
theorem not_inspect_foreseen :
    ¬ ∀ (c : Compilation) (h : Host) (target : Path) (s : Session) (tag : String) (e : Failure),
        c.architecture = some tag →
        (∀ call e, c.runner h call = .error e → e.isSystem = true) →
        (c.inspect h target s).1 = .error e → e.isForeseen = true := by
  intro hforeseen
  let c := told [] (String.ofList endlessAbort)
  have hout : endlessAbort ∈ Text.splitLines (String.ofList endlessAbort).toList := by
    rw [String.toList_ofList, splitLines_endlessAbort]
    exact List.mem_cons_self
  have hstrays : Strays c (Checker.visitOf "a").host "x" ⟨.root, ["a"]⟩ {} _ :=
    .number rfl rfl rfl rfl hout overlong_endlessAbort
  obtain ⟨e, herror, hunforeseen⟩ := inspect_of_strays rfl hstrays
  have hforeseen := hforeseen c _ _ _ "x" e rfl (fun _ _ => told_answers) herror
  rw [hunforeseen] at hforeseen
  cases hforeseen

end Compilation

end PerlVet
