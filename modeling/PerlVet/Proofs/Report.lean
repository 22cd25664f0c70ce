import PerlVet.Inspector.Compilation
import PerlVet.Proofs.Location

/-!
How a report grows line by line. `Progress.step_cases` says all that one line can do to what has
been found, `noteAbort_cases` what an abort can do, and `settle_cases` what the exit status can do
at the end. So what each of them gives to a finding, all findings have (`Acquired.readLines`); and
since none of them takes an error away, a compilation that failed always shows one
(`failed_compilation_shows_error`).
-/

namespace PerlVet.Output
open Text

variable {file line digits : List Char} {lines : List (List Char)} {status : Option Int}
  {found : List Finding} {p q : Progress} {n : Nat}

theorem map_ok {ε α β : Type} {x : Except ε α} {f : α → β} {b : β} (h : x.map f = .ok b) :
    ∃ a, x = .ok a ∧ f a = b := by
  cases x with
  | error e => cases h
  | ok a => exact ⟨a, rfl, Except.ok.inj h⟩

theorem bind_ok {ε α β : Type} {x : Except ε α} {f : α → Except ε β} {b : β}
    (h : x.bind f = .ok b) : ∃ a, x = .ok a ∧ f a = .ok b := by
  cases x with
  | error e => cases h
  | ok a => exact ⟨a, rfl, h⟩

/-! ## What a line can do -/

/-- An abort without a line number that counts is passed over. Any other makes an error of the latest
finding, if that came just before or is about the same line, and else is a finding itself. -/
theorem noteAbort_cases (n : Nat) (p : Progress) :
    (n = 0 ∧ noteAbort n p = p.found) ∨
    (1 ≤ n ∧ ∃ last rest, p.found = last :: rest ∧ (p.fresh = true ∨ last.line = n) ∧
      noteAbort n p = last.raised :: rest) ∨
    (1 ≤ n ∧ (∀ last ∈ p.found.head?, p.fresh = false ∧ last.line ≠ n) ∧
      noteAbort n p = abortFinding n :: p.found) := by
  by_cases hn : n < 1
  · exact .inl ⟨by omega, by simp [noteAbort, hn]⟩
  · refine .inr ?_
    cases hfound : p.found with
    | nil => exact .inr ⟨by omega, by simp, by simp [noteAbort, hn, hfound]⟩
    | cons last rest =>
      by_cases hcause : p.fresh = true ∨ last.line = n
      · refine .inl ⟨by omega, last, rest, rfl, hcause, ?_⟩
        simp [noteAbort, hn, hfound, hcause]
      · refine .inr ⟨by omega, by simpa using hcause, ?_⟩
        simp [noteAbort, hn, hfound, hcause]

/-- A line announces an abort, or adds a finding, or is passed over. -/
theorem Progress.step_cases (h : p.step file line = .ok q) :
    (∃ digits, abortDigits? file (trimRight line) = some digits ∧
      q = ⟨noteAbort (number digits) p, false⟩) ∨
    (abortDigits? file (trimRight line) = none ∧
      ∃ f, readLine file line = .ok (some f) ∧ q = ⟨f :: p.found, true⟩) ∨
    (abortDigits? file (trimRight line) = none ∧ readLine file line = .ok none ∧
      q = ⟨p.found, false⟩) := by
  unfold Progress.step at h
  cases hdigits : abortDigits? file (trimRight line) with
  | some digits =>
    simp only [hdigits] at h
    obtain ⟨n, hnumber, rfl⟩ := map_ok h
    refine .inl ⟨digits, rfl, ?_⟩
    rw [readNumber] at hnumber
    split at hnumber
    · cases hnumber
    · rw [Except.ok.inj hnumber]
  | none =>
    simp only [hdigits] at h
    obtain ⟨found, hread, rfl⟩ := map_ok h
    cases found with
    | some f => exact .inr (.inl ⟨rfl, f, hread, rfl⟩)
    | none => exact .inr (.inr ⟨rfl, hread, rfl⟩)

/-- The exit status leaves alone what has been found, makes an error of the latest finding, or is
reported itself. -/
theorem settle_cases (status : Option Int) (found : List Finding) :
    settle status found = found ∨
    (∃ last rest, found = last :: rest ∧ settle status found = last.raised :: rest) ∨
    ∃ n, status = some n ∧ settle status found = [statusFinding n] := by
  cases status with
  | none => exact .inl rfl
  | some n =>
    by_cases hkeep : (n == 0 || found.any (·.severity == .error)) = true
    · exact .inl (by simp only [settle, hkeep, if_true])
    · refine .inr ?_
      cases found with
      | nil => exact .inr ⟨n, rfl, by simp only [settle, hkeep]; rfl⟩
      | cons last rest => exact .inl ⟨last, rest, rfl, by simp only [settle, hkeep]; rfl⟩

/-! ## What all findings have in common -/

/-- A property of findings that lines, aborts and the exit status give to what they add, and that
a finding keeps when it becomes an error. -/
structure Acquired (file : List Char) (P : Finding → Prop) : Prop where
  line : ∀ {line : List Char} {f : Finding}, readLine file line = .ok (some f) → P f
  abort : ∀ {n : Nat}, 1 ≤ n → P (abortFinding n)
  status : ∀ n : Int, P (statusFinding n)
  raised : ∀ {f : Finding}, P f → P f.raised

namespace Acquired

variable {P : Finding → Prop}

theorem noteAbort (hP : Acquired file P) (h : ∀ f ∈ p.found, P f) (n : Nat) :
    ∀ f ∈ Output.noteAbort n p, P f := by
  rcases noteAbort_cases n p with ⟨-, hsame⟩ | ⟨-, last, rest, hfound, -, hraised⟩ |
    ⟨hn, -, hadded⟩
  · rwa [hsame]
  · rw [hfound, List.forall_mem_cons] at h
    rw [hraised, List.forall_mem_cons]
    exact ⟨hP.raised h.1, h.2⟩
  · rw [hadded, List.forall_mem_cons]
    exact ⟨hP.abort hn, h⟩

theorem step (hP : Acquired file P) (hstep : p.step file line = .ok q) (h : ∀ f ∈ p.found, P f) :
    ∀ f ∈ q.found, P f := by
  rcases Progress.step_cases hstep with ⟨digits, -, rfl⟩ | ⟨-, f, hread, rfl⟩ | ⟨-, -, rfl⟩
  · exact hP.noteAbort h _
  · exact List.forall_mem_cons.mpr ⟨hP.line hread, h⟩
  · exact h

theorem steps (hP : Acquired file P) (hsteps : Progress.steps file lines p = .ok q)
    (h : ∀ f ∈ p.found, P f) : ∀ f ∈ q.found, P f := by
  induction lines generalizing p with
  | nil =>
    cases hsteps
    exact h
  | cons line lines ih =>
    obtain ⟨next, hstep, hrest⟩ := bind_ok hsteps
    exact ih hrest (hP.step hstep h)

theorem settle (hP : Acquired file P) (status : Option Int) (h : ∀ f ∈ found, P f) :
    ∀ f ∈ Output.settle status found, P f := by
  rcases settle_cases status found with hsame | ⟨last, rest, rfl, hraised⟩ | ⟨n, -, hstatus⟩
  · rwa [hsame]
  · rw [List.forall_mem_cons] at h
    rw [hraised, List.forall_mem_cons]
    exact ⟨hP.raised h.1, h.2⟩
  · rw [hstatus, List.forall_mem_singleton]
    exact hP.status n

/-- All findings of a report have such a property. -/
theorem readLines (hP : Acquired file P) (hread : Output.readLines file status lines = .ok found) :
    ∀ f ∈ found, P f := by
  obtain ⟨p, hsteps, rfl⟩ := map_ok hread
  intro f hf
  exact hP.settle status (hP.steps hsteps nofun) f (List.mem_reverse.mp hf)

end Acquired

/-! ## Errors stay -/

/-- One of the findings is an error. -/
def HasError (found : List Finding) : Prop := ∃ f ∈ found, f.severity = .error

theorem hasError_cons {f : Finding} :
    HasError (f :: found) ↔ f.severity = .error ∨ HasError found := by
  simp [HasError]

theorem hasError_raised (f : Finding) (found : List Finding) : HasError (f.raised :: found) :=
  hasError_cons.mpr (.inl rfl)

theorem noteAbort_hasError (h : HasError p.found) : HasError (noteAbort n p) := by
  rcases noteAbort_cases n p with ⟨-, hsame⟩ | ⟨-, last, rest, -, -, hraised⟩ | ⟨-, -, hadded⟩
  · rwa [hsame]
  · rw [hraised]
    exact hasError_raised last rest
  · rw [hadded]
    exact hasError_cons.mpr (.inr h)

theorem Progress.step_hasError (h : p.step file line = .ok q) (herror : HasError p.found) :
    HasError q.found := by
  rcases step_cases h with ⟨digits, -, rfl⟩ | ⟨-, f, -, rfl⟩ | ⟨-, -, rfl⟩
  · exact noteAbort_hasError herror
  · exact hasError_cons.mpr (.inr herror)
  · exact herror

theorem Progress.steps_hasError (h : Progress.steps file lines p = .ok q)
    (herror : HasError p.found) : HasError q.found := by
  induction lines generalizing p with
  | nil =>
    cases h
    exact herror
  | cons line lines ih =>
    obtain ⟨next, hstep, hrest⟩ := bind_ok h
    exact ih hrest (step_hasError hstep herror)

theorem settle_hasError (h : HasError found) : HasError (settle status found) := by
  rcases settle_cases status found with hsame | ⟨last, rest, -, hraised⟩ | ⟨n, -, hstatus⟩
  · rwa [hsame]
  · rw [hraised]
    exact hasError_raised last rest
  · rw [hstatus]
    exact hasError_cons.mpr (.inl rfl)

/-! ## Failures become errors -/

/-- The line says that compilation was aborted at some line of the file. -/
def AnnouncesAbort (file line : List Char) : Prop :=
  ∃ digits, IsNumeral digits ∧ 1 ≤ number digits ∧
    line = "BEGIN failed--compilation aborted".toList ++
      (" at ".toList ++ (file ++ (" line ".toList ++ (digits ++ ['.']))))

/-- Compilation failed, by the exit status or by a line of output. -/
def Failed (file : List Char) (status : Option Int) (lines : List (List Char)) : Prop :=
  (∃ n, status = some n ∧ n ≠ 0) ∨ ∃ line ∈ lines, AnnouncesAbort file (trimRight line)

theorem AnnouncesAbort.abortDigits (h : AnnouncesAbort file line) :
    ∃ digits, 1 ≤ number digits ∧ abortDigits? file line = some digits := by
  obtain ⟨digits, hnumeral, hpos, hline⟩ := h
  refine ⟨digits, hpos, abortDigits?_eq_some_iff.mpr ⟨hnumeral, ?_⟩⟩
  rw [hline, List.append_assoc, mark_append]
  rfl

theorem noteAbort_hasError_of_pos (h : 1 ≤ n) (p : Progress) : HasError (noteAbort n p) := by
  rcases noteAbort_cases n p with ⟨hzero, -⟩ | ⟨-, last, rest, -, -, hraised⟩ | ⟨-, -, hadded⟩
  · omega
  · rw [hraised]
    exact hasError_raised last rest
  · rw [hadded]
    exact hasError_cons.mpr (.inl rfl)

theorem Progress.step_hasError_of_abort (h : p.step file line = .ok q)
    (habort : AnnouncesAbort file (trimRight line)) : HasError q.found := by
  obtain ⟨digits, hpos, hdigits⟩ := habort.abortDigits
  rcases step_cases h with ⟨digits', hdigits', rfl⟩ | ⟨hnone, -⟩ | ⟨hnone, -⟩
  · cases hdigits.symm.trans hdigits'
    exact noteAbort_hasError_of_pos hpos p
  · rw [hdigits] at hnone
    cases hnone
  · rw [hdigits] at hnone
    cases hnone

/-- Wherever an abort is announced, there is an error from then on. -/
theorem Progress.steps_hasError_of_abort (h : Progress.steps file lines p = .ok q)
    (habort : ∃ line ∈ lines, AnnouncesAbort file (trimRight line)) : HasError q.found := by
  induction lines generalizing p with
  | nil =>
    obtain ⟨line, hline, -⟩ := habort
    cases hline
  | cons first lines ih =>
    obtain ⟨next, hstep, hrest⟩ := bind_ok h
    obtain ⟨line, hline, habort⟩ := habort
    rcases List.mem_cons.mp hline with rfl | hline
    · exact steps_hasError hrest (step_hasError_of_abort hstep habort)
    · exact ih hrest ⟨line, hline, habort⟩

theorem settle_hasError_of_status {n : Int} (h : n ≠ 0) (found : List Finding) :
    HasError (settle (some n) found) := by
  by_cases herror : HasError found
  · exact settle_hasError herror
  · have hany : found.any (·.severity == .error) = false := by
      simpa [HasError] using herror
    cases found with
    | nil =>
      rw [settle, if_neg (by simp [h])]
      exact hasError_cons.mpr (.inl rfl)
    | cons last rest =>
      rw [settle, if_neg (by rw [hany]; simp [h])]
      exact hasError_raised last rest

theorem readLines_hasError (h : readLines file status lines = .ok found)
    (hfailed : Failed file status lines) : HasError found := by
  obtain ⟨p, hsteps, rfl⟩ := map_ok h
  have hsettled : HasError (settle status p.found) := by
    rcases hfailed with ⟨n, rfl, hn⟩ | habort
    · exact settle_hasError_of_status hn p.found
    · exact settle_hasError (Progress.steps_hasError_of_abort hsteps habort)
  simpa [HasError] using hsettled

end PerlVet.Output

namespace PerlVet.Compilation
open Output

variable {c c' : Compilation} {h : Host} {target : Path} {s s' : Session}
  {ds : List Diagnostic}

/-! ## The inspection by the interpreter -/

theorem resolve_calls {result : Except Failure (List Path)} (hpaths : c.resolve h s = (result, s')) :
    s'.calls = s.calls := by
  have hinclude {root inc architecture} {s₁ s₂ : Session} {result : Except Failure (List Path)}
      (hfind : IncludePath.find h root inc architecture s₁ = (result, s₂)) :
      s₂.calls = s₁.calls := by
    unfold IncludePath.find at hfind
    split at hfind <;> cases hfind <;> rfl
  have hask {perl} {s₁ : Session} {result : Except Failure String}
      (hfind : Architecture.find h perl s = (result, s₁)) : s₁.calls = s.calls := by
    unfold Architecture.find Architecture.findGiven at hfind
    split at hfind
    · cases hfind
      rfl
    · split at hfind <;> cases hfind <;> rfl
  unfold resolve at hpaths
  split at hpaths
  · exact hinclude hpaths
  · split at hpaths
    · next harch =>
      cases hpaths
      exact hask harch
    · next harch => exact (hinclude hpaths).trans (hask harch)

/-- To find the directories for libraries, neither the runner is called nor anything but them
remembered. -/
theorem includePath_frame {result : Except Failure (List Path)}
    (hpaths : c.includePath h s = (result, c', s')) :
    c'.runner = c.runner ∧ s'.calls = s.calls := by
  unfold includePath at hpaths
  split at hpaths
  · cases hpaths
    exact ⟨rfl, rfl⟩
  · split at hpaths <;> next hresolve => cases hpaths; exact ⟨rfl, resolve_calls hresolve⟩

theorem commandFor_frame {result : Except Failure Command}
    (hcommand : c.commandFor h target s = (result, c', s')) :
    c'.runner = c.runner ∧ s'.calls = s.calls := by
  unfold commandFor at hcommand
  split at hcommand <;> next hpaths => cases hcommand; exact includePath_frame hpaths

/-- The runner is called with the command, and the diagnostics are what its output says. -/
theorem compileWith_ok {command : Command} (hcompile : c.compileWith h command s = (.ok ds, s')) :
    ∃ call done found, s'.calls = call :: s.calls ∧ c.runner h call = .ok done ∧
      Output.read (command.getLast?.getD "").toList (some done.status) done.output.toList =
        .ok found ∧
      ds = found.map (·.attributed name) := by
  unfold compileWith at hcompile
  dsimp only at hcompile
  split at hcompile
  · cases hcompile
  · next done hdone =>
    obtain ⟨hds, rfl⟩ := Prod.mk.inj hcompile
    unfold diagnostics at hds
    split at hds
    · next found hfound => exact ⟨_, done, found, rfl, hdone, hfound, (Except.ok.inj hds).symm⟩
    · cases hds

/-- A file for the interpreter is compiled by one call of the runner. -/
theorem inspect_ok {line : List Char} (hhead : h.fileHead target = .ok line)
    (hperl : Shebang.isForeign line = false)
    (hinspect : c.inspect h target s = (.ok ds, c', s')) :
    ∃ call done file found, s'.calls = call :: s.calls ∧ c.runner h call = .ok done ∧
      Output.read file (some done.status) done.output.toList = .ok found ∧
      ds = found.map (·.attributed name) := by
  unfold inspect at hinspect
  simp only [hhead, hperl] at hinspect
  cases hcommand : c.commandFor h target s with
  | mk result rest =>
    obtain ⟨c₁, s₁⟩ := rest
    rw [hcommand] at hinspect
    cases result with
    | error e => cases hinspect
    | ok command =>
      dsimp only at hinspect
      obtain ⟨hcompile, -, rfl⟩ : (c₁.compileWith h command s₁).1 = .ok ds ∧ c₁ = c' ∧
          (c₁.compileWith h command s₁).2 = s' := by simpa using hinspect
      obtain ⟨call, done, found, hcalls, hdone, hfound, hds⟩ :=
        compileWith_ok (Prod.ext hcompile rfl)
      rw [(commandFor_frame hcommand).2] at hcalls
      rw [(commandFor_frame hcommand).1] at hdone
      exact ⟨call, done, _, found, hcalls, hdone, hfound, hds⟩

end PerlVet.Compilation

namespace PerlVet.Output
open Text

/-- A compilation that failed never looks clean. If the exit status is known and not zero, or if some
line announces an abort, then one of the findings is an error; and if the interpreter exits with
such a status on a file that is for it, then one of the diagnostics of that file is an error of the
interpreter. -/
theorem failed_compilation_shows_error :
    (∀ (file : List Char) (status : Option Int) (lines : List (List Char)) (found : List Finding),
      readLines file status lines = .ok found → Failed file status lines →
        ∃ f ∈ found, f.severity = .error) ∧
    (∀ (file : List Char) (status : Option Int) (output : List Char) (found : List Finding),
      read file status output = .ok found → Failed file status (splitLines output) →
        ∃ f ∈ found, f.severity = .error) ∧
    ∀ (c c' : Compilation) (h : Host) (target : Path) (s s' : Session) (ds : List Diagnostic)
      (line : List Char), h.fileHead target = .ok line → Shebang.isForeign line = false →
      c.inspect h target s = (.ok ds, c', s') →
      ∃ call done, s'.calls = call :: s.calls ∧ c.runner h call = .ok done ∧
        (done.status ≠ 0 → ∃ d ∈ ds, d.severity = .error ∧ d.origin = "compile") := by
  refine ⟨fun file status lines found => readLines_hasError,
    fun file status output found => readLines_hasError, ?_⟩
  intro c c' h target s s' ds line hhead hperl hinspect
  obtain ⟨call, done, file, found, hcall, hdone, hfound, rfl⟩ :=
    Compilation.inspect_ok hhead hperl hinspect
  refine ⟨call, done, hcall, hdone, fun hstatus => ?_⟩
  obtain ⟨f, hf, herror⟩ := readLines_hasError hfound (.inl ⟨done.status, rfl, hstatus⟩)
  exact ⟨f.attributed Compilation.name, List.mem_map_of_mem hf, herror, rfl⟩

/-- An interpreter that dies without a word, and one that announces an abort. -/
theorem failed_compilation_shows_error_killed :
    (∃ f ∈ [statusFinding (-9)], f.severity = .error) ∧
    (∃ f ∈ [abortFinding 7], f.severity = .error) ∧
    ∃ d ∈ [(statusFinding (-9)).attributed "compile"],
      d.severity = .error ∧ d.origin = "compile" := by
  let h : Host := ⟨⟨[(["f"], .file [] false)]⟩, [], [], [], ⟨.root, ["lib"]⟩, []⟩
  let c : Compilation :=
    { config := { inc := { replaceDefaults := true } }, root := ⟨.root, []⟩,
      runner := fun _ call => .ok ⟨call.args, -9, "", none⟩, architecture := some "x86" }
  let abort := "BEGIN failed--compilation aborted at f line 7.".toList
  refine ⟨failed_compilation_shows_error.1 "f".toList (some (-9)) [] _ rfl
      (.inl ⟨-9, rfl, by decide⟩),
    failed_compilation_shows_error.2.1 "f".toList none abort _ rfl
      (.inr ⟨abort, by decide, "7".toList, by decide, by decide, rfl⟩), ?_⟩
  obtain ⟨call, done, -, hdone, hshown⟩ := failed_compilation_shows_error.2.2 c _ h ⟨.root, ["f"]⟩
    {} _ _ [] rfl rfl rfl
  exact hshown (by cases hdone; simp)

end PerlVet.Output
