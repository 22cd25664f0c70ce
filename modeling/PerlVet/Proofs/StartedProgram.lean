import PerlVet.Proofs.Recency
import PerlVet.Proofs.Strays

/-!
Which file a command starts. The name of a program is looked up from the current directory, which
establishes that it leads to an executable file (`Reaches`), and what was found is started from the
directory the command runs in (`started?`). A name that starts at the root leads to the same file
from everywhere (`Reaches.move`); a name with a slash that does not is followed again, and a name
without one is looked for again. So the file that was looked up is the one that starts if its name
starts at the root or if the command runs in the current directory (`started?_eq_located`).
-/

namespace PerlVet

theorem FileTree.fromRoot_append {s : String} (hs : fromRoot s = true) (t : String) :
    fromRoot (s ++ t) = true := by
  unfold fromRoot at hs ⊢
  rw [beq_iff_eq] at hs ⊢
  rw [String.toList_append, List.head?_append, hs]
  rfl

theorem FileTree.slash_mem_of_fromRoot {s : String} (hs : fromRoot s = true) : '/' ∈ s.toList :=
  List.mem_of_head? (beq_iff_eq.mp hs)

theorem Path.fromRoot_text {p : Path} (hp : p.isAbsolute = true) :
    FileTree.fromRoot p.text = true := by
  obtain ⟨anchor, parts⟩ := p
  cases anchor with
  | relative => cases hp
  | root => exact FileTree.fromRoot_append (s := "/") rfl _
  | doubleRoot => exact FileTree.fromRoot_append (s := "//") rfl _

namespace Host

variable {h : Host} {call call' : Call} {dir place place' : Place} {file head : String}
  {args rest rest' : Command}

/-! ## From names to files -/

/-- From a directory, the text leads to the executable file in a place. -/
def Reaches (h : Host) (dir : Place) (file : String) (place : Place) : Prop :=
  ∃ bytes, h.tree.follow dir file = .ok (place, .file bytes true)

theorem Reaches.unique (hplace : h.Reaches dir file place) (hplace' : h.Reaches dir file place') :
    place = place' := by
  obtain ⟨bytes, hfollow⟩ := hplace
  obtain ⟨bytes', hfollow'⟩ := hplace'
  rw [hfollow] at hfollow'
  cases hfollow'
  rfl

theorem Reaches.iff_eq (hplace : h.Reaches dir file place) :
    h.Reaches dir file place' ↔ place' = place := by
  refine ⟨fun hplace' => hplace'.unique hplace, ?_⟩
  rintro rfl
  exact hplace

theorem Reaches.move (hplace : h.Reaches dir file place) (hroot : FileTree.fromRoot file = true)
    (dir' : Place) : h.Reaches dir' file place := by
  obtain ⟨bytes, hfollow⟩ := hplace
  refine ⟨bytes, ?_⟩
  rw [FileTree.follow, if_pos hroot] at hfollow ⊢
  exact hfollow

theorem reaches_of_isProgram (hfile : h.isProgram file = true) :
    ∃ place, h.Reaches h.cwd file place := by
  unfold isProgram at hfile
  split at hfile
  · next place bytes executable hfollow =>
    obtain rfl : executable = true := (Bool.and_eq_true_iff.mp hfile).2
    exact ⟨place, bytes, hfollow⟩
  · simp at hfile

theorem reaches_of_find {program : Program} {fuel : Nat}
    (hfind : Program.find h.tree dir fuel file rest = .ok program) :
    ∃ place, h.Reaches dir file place := by
  cases fuel with
  | zero => cases hfind
  | succ fuel =>
    unfold Program.find at hfind
    split at hfind
    · cases hfind
    · next place bytes hfollow => exact ⟨place, bytes, hfollow⟩
    · cases hfind

/-! ## Looking a program up -/

theorem fromRoot_below {entry : String} (hentry : FileTree.fromRoot entry = true) (name : String) :
    FileTree.fromRoot (below entry name) = true := by
  unfold below
  split
  · exact FileTree.fromRoot_append hentry name
  · exact FileTree.fromRoot_append (FileTree.fromRoot_append hentry "/") name

/-- The name of a program that stands for the same file in every directory: one from the root, or
one without a slash while programs are looked up in directories from the root. -/
def Anchored (h : Host) (head : String) : Prop :=
  (Path.ofString head).isAbsolute = true ∨
    '/' ∉ head.toList ∧
      ∀ entry ∈ programDirectories h.environment, FileTree.fromRoot entry = true

theorem Anchored.fromRoot (hhead : h.Anchored head) (hfile : h.programFile? head = some file) :
    FileTree.fromRoot file = true := by
  unfold programFile? at hfile
  dsimp only at hfile
  split at hfile
  · next habsolute =>
    cases hfile
    exact Path.fromRoot_text habsolute
  · next hrelative =>
    obtain ⟨hbare, hentries⟩ := hhead.resolve_left hrelative
    obtain ⟨-, ⟨hslash, -⟩ | ⟨-, entry, hentry, rfl⟩⟩ := findProgram?_cases hfile
    · exact absurd hslash hbare
    · exact fromRoot_below (hentries entry hentry) head

/-! ## Starting a program -/

/-- The file can be started in a directory with arguments. -/
def canStart (h : Host) (dir : Place) (rest : Command) (file : String) : Bool :=
  (Program.find h.tree dir Program.maxInterpreters file rest).isOk

/-- The first file that can be started of those to try for a program. -/
def firstStart? (h : Host) (call : Call) (dir : Place) (args : Command) : Option String :=
  (candidates (call.environment.getD h.environment) (args.head?.getD "")).find?
    (h.canStart dir args.tail)

/-- The place of the file that a call starts, if it starts one. -/
def started? (h : Host) (call : Call) : Option Place :=
  match h.locateProgram call.args, h.runDirectory call.cwd with
  | .ok args, .ok dir =>
    (h.firstStart? call dir args).bind fun file => (h.tree.follow dir file).toOption.map (·.1)
  | _, _ => none

theorem canStart_iff :
    h.canStart dir rest file = true ↔
      ∃ program, Program.find h.tree dir Program.maxInterpreters file rest = .ok program := by
  unfold canStart
  cases Program.find h.tree dir Program.maxInterpreters file rest with
  | error fault => simp [Except.isOk, Except.toBool]
  | ok program => simp [Except.isOk, Except.toBool]

theorem started?_eq_some :
    h.started? call = some place ↔
      ∃ args dir file, h.locateProgram call.args = .ok args ∧
        h.runDirectory call.cwd = .ok dir ∧ h.firstStart? call dir args = some file ∧
        h.Reaches dir file place := by
  unfold started?
  constructor
  · intro hstarted
    split at hstarted
    · next args dir hlocated hdir =>
      obtain ⟨file, hfirst, hplace⟩ := Option.bind_eq_some_iff.mp hstarted
      obtain ⟨program, hfind⟩ := canStart_iff.mp (List.find?_some hfirst)
      obtain ⟨reached, bytes, hfollow⟩ := reaches_of_find hfind
      rw [hfollow] at hplace
      cases hplace
      exact ⟨args, dir, file, hlocated, hdir, hfirst, bytes, hfollow⟩
    · cases hstarted
  · rintro ⟨args, dir, file, hlocated, hdir, hfirst, bytes, hfollow⟩
    rw [hlocated, hdir]
    simp only [hfirst, hfollow, Option.bind_some]
    rfl

/-- What is started is the first of the files that can be. -/
theorem startFirst_eq_ok_iff {program : Program} {fault : Option OsFault} {files : List String} :
    h.startFirst dir rest fault files = .ok program ↔
      ∃ file, files.find? (h.canStart dir rest) = some file ∧
        Program.find h.tree dir Program.maxInterpreters file rest = .ok program := by
  induction files generalizing fault with
  | nil => simp [startFirst]
  | cons file files ih =>
    cases hfind : Program.find h.tree dir Program.maxInterpreters file rest with
    | ok found =>
      have hfirst : (file :: files).find? (h.canStart dir rest) = some file :=
        List.find?_cons_of_pos (canStart_iff.mpr ⟨found, hfind⟩)
      simp [startFirst, hfind, hfirst]
    | error e =>
      have hskip : (file :: files).find? (h.canStart dir rest) =
          files.find? (h.canStart dir rest) :=
        List.find?_cons_of_neg (by simp [canStart_iff, hfind])
      rw [startFirst, hfind, hskip]
      dsimp only
      -- whether this fault is to be reported plays no part in what is started
      split
      · exact ih
      · exact ih

/-- The completion of a call comes from the file in a place: from the program that starts when that
file is executed. -/
def RanFrom (h : Host) (call : Call) (done : Completion) (place : Place) : Prop :=
  ∃ dir file program, h.runDirectory call.cwd = .ok dir ∧ h.Reaches dir file place ∧
    Program.find h.tree dir Program.maxInterpreters file done.args.tail = .ok program ∧
    let given := (call.environment.getD h.environment).map fun e => (e.1, Shell.ofString e.2)
    let ended := Shell.runProgramIn program given h.tree dir
    done.status = ended.1 ∧
      done.output = outputText (ended.2.writtenTo fun channel => call.combine || channel == .output)

/-- A call that comes to an end has run the file that it started. -/
theorem ranFrom_of_run {done : Completion} (hrun : h.run call = .ok done) :
    ∃ place, h.started? call = some place ∧ h.RanFrom call done place := by
  unfold run at hrun
  split at hrun
  · cases hrun
  · next args hlocated =>
    dsimp only at hrun
    split at hrun
    · cases hrun
    · split at hrun
      · cases hrun
      · split at hrun
        · cases hrun
        · next dir hdir =>
          split at hrun
          · cases hrun
          · next program hstart =>
            obtain ⟨file, hfirst, hfind⟩ := startFirst_eq_ok_iff.mp hstart
            obtain ⟨place, hplace⟩ := reaches_of_find hfind
            refine ⟨place,
              started?_eq_some.mpr ⟨args, dir, file, hlocated, hdir, hfirst, hplace⟩, ?_⟩
            split at hrun
            · next hcombine =>
              cases hrun
              refine ⟨dir, file, program, hdir, hplace, hfind, rfl, ?_⟩
              simp only [hcombine, Bool.true_or]
            · next hcombine =>
              cases hrun
              refine ⟨dir, file, program, hdir, hplace, hfind, rfl, ?_⟩
              simp only [hcombine, Bool.false_or]

/-- The system takes the texts of a call: no name of a variable holds an equals sign, and nothing
holds a NUL. -/
def Acceptable (call : Call) (args : Command) : Prop :=
  call.environment.any (·.any (·.1.toList.contains '=')) = false ∧ callHasNul call args = false

/-- An acceptable call that starts a file comes to an end. -/
theorem run_of_started? (hlocated : h.locateProgram call.args = .ok args)
    (haccepted : Acceptable call args) (hstarted : h.started? call = some place) :
    ∃ done, h.run call = .ok done := by
  obtain ⟨args', dir, file, hlocated', hdir, hfirst, -⟩ := started?_eq_some.mp hstarted
  rw [hlocated] at hlocated'
  cases hlocated'
  obtain ⟨program, hfind⟩ := canStart_iff.mp (List.find?_some hfirst)
  have hstart : h.startFirst dir args.tail none
      (candidates (call.environment.getD h.environment) (args.head?.getD "")) = .ok program :=
    startFirst_eq_ok_iff.mpr ⟨file, hfirst, hfind⟩
  obtain ⟨hvariables, hnul⟩ := haccepted
  simp only [run, hlocated, hvariables, hnul, hdir, hstart]
  cases call.combine with
  | true => exact ⟨_, rfl⟩
  | false => exact ⟨_, rfl⟩

theorem started?_iff_firstStart? (hlocated : h.locateProgram call.args = .ok args)
    (hdir : h.runDirectory call.cwd = .ok dir) :
    h.started? call = some place ↔
      ∃ file, h.firstStart? call dir args = some file ∧ h.Reaches dir file place := by
  rw [started?_eq_some]
  constructor
  · rintro ⟨args', dir', file, hlocated', hdir', hfirst, hreaches⟩
    rw [hlocated] at hlocated'
    cases hlocated'
    rw [hdir] at hdir'
    cases hdir'
    exact ⟨file, hfirst, hreaches⟩
  · rintro ⟨file, hfirst, hreaches⟩
    exact ⟨args, dir, file, hlocated, hdir, hfirst, hreaches⟩

/-- A name with a slash is followed from the directory the call runs in. -/
theorem started?_of_slash (hlocated : h.locateProgram call.args = .ok (file :: rest))
    (hslash : '/' ∈ file.toList) (hdir : h.runDirectory call.cwd = .ok dir) :
    h.started? call = some place ↔
      h.canStart dir rest file = true ∧ h.Reaches dir file place := by
  have hfirst : h.firstStart? call dir (file :: rest) = [file].find? (h.canStart dir rest) := by
    rw [firstStart?, List.head?_cons, Option.getD_some, candidates,
      if_pos (List.contains_iff_mem.mpr hslash), List.tail_cons]
  rw [started?_iff_firstStart? hlocated hdir, hfirst]
  by_cases hstart : h.canStart dir rest file = true
  · simp [List.find?_cons_of_pos hstart, hstart]
  · simp [List.find?_cons_of_neg hstart, hstart]

/-- A name without a slash is looked for again. -/
theorem started?_of_bare (hlocated : h.locateProgram call.args = .ok (file :: rest))
    (hbare : '/' ∉ file.toList) (hdir : h.runDirectory call.cwd = .ok dir) :
    h.started? call = some place ↔ ∃ candidate,
      ((programDirectories (call.environment.getD h.environment)).map (below · file)).find?
        (h.canStart dir rest) = some candidate ∧ h.Reaches dir candidate place := by
  rw [started?_iff_firstStart? hlocated hdir, firstStart?, List.head?_cons, Option.getD_some,
    candidates, if_neg (by simpa using hbare)]
  rfl

/-- A file that is named from the root is what the name leads to from anywhere. -/
theorem reaches_of_fromRoot (hlocated : h.locateProgram call.args = .ok (file :: rest))
    (hroot : FileTree.fromRoot file = true) (hstarted : h.started? call = some place)
    (dir : Place) : h.Reaches dir file place := by
  obtain ⟨_, dir', _, _, hdir', _⟩ := started?_eq_some.mp hstarted
  have hslash := FileTree.slash_mem_of_fromRoot hroot
  exact ((started?_of_slash hlocated hslash hdir').mp hstarted).2.move hroot dir

/-- Calls of an anchored program start the same file, wherever they run. -/
theorem Anchored.started?_eq (hhead : h.Anchored head) (hargs : call.args = head :: rest)
    (hargs' : call'.args = head :: rest') (hstarted : h.started? call = some place)
    (hstarted' : h.started? call' = some place') : place = place' := by
  obtain ⟨args, _, _, hlocated, _⟩ := started?_eq_some.mp hstarted
  rw [hargs] at hlocated
  obtain ⟨file, hfile, rfl⟩ := locateProgram_cons.mp hlocated
  have hroot := hhead.fromRoot hfile
  have hplace := reaches_of_fromRoot (hargs ▸ hlocated) hroot hstarted h.cwd
  have hlocated' : h.locateProgram call'.args = .ok (file :: rest') :=
    hargs' ▸ locateProgram_cons.mpr ⟨file, hfile, rfl⟩
  exact hplace.unique (reaches_of_fromRoot hlocated' hroot hstarted' h.cwd)

/-- A program that is found, under a name that is not from the root, is an executable file, and its
command comes to an end just if it starts a file and the system takes its texts. That is the file
that was found if what was found is named from the root, as it is for an anchored name, or if it is
named with a slash and the command runs in the current directory. In another directory a name with
a slash is followed again, and what was found without a slash is looked for again. So an anchored
interpreter that is asked for its architecture is the same file that compiles. -/
theorem started?_eq_located (h : Host) :
    (∀ call head rest args, call.args = head :: rest → (Path.ofString head).isAbsolute = false →
      h.locateProgram call.args = .ok args →
      ∃ file found, args = file :: rest ∧ h.Reaches h.cwd file found ∧
        (h.Anchored head → FileTree.fromRoot file = true) ∧
        (∀ done, h.run call = .ok done →
          ∃ place, h.started? call = some place ∧ h.RanFrom call done place) ∧
        (Acceptable call args → ∀ place, h.started? call = some place →
          ∃ done, h.run call = .ok done) ∧
        ∀ dir place, h.runDirectory call.cwd = .ok dir →
          (FileTree.fromRoot file = true ∨ '/' ∈ file.toList ∧ dir = h.cwd →
            (h.started? call = some place ↔ h.canStart dir rest file = true ∧ place = found)) ∧
          ('/' ∈ file.toList →
            (h.started? call = some place ↔
              h.canStart dir rest file = true ∧ h.Reaches dir file place)) ∧
          ('/' ∉ file.toList →
            (h.started? call = some place ↔ ∃ candidate,
              ((programDirectories (call.environment.getD h.environment)).map (below · file)).find?
                (h.canStart dir rest) = some candidate ∧ h.Reaches dir candidate place))) ∧
    ∀ (c : Compilation) paths target place place', h.Anchored c.config.perl →
      h.started? { args := Architecture.question c.config.perl, combine := false } = some place →
      h.started? (c.callWith h paths target) = some place' → place = place' := by
  refine ⟨fun call head rest args hargs hhead hlocated => ?_,
    fun c paths target place place' hperl hasked hcompiled =>
      hperl.started?_eq rfl rfl hasked hcompiled⟩
  obtain ⟨file, hfile, rfl⟩ := locateProgram_cons.mp (hargs ▸ hlocated)
  have hprogram : h.isProgram file = true := by
    rw [programFile?, if_neg (by simp [hhead])] at hfile
    exact (findProgram?_cases hfile).1
  obtain ⟨found, hfound⟩ := reaches_of_isProgram hprogram
  refine ⟨file, found, rfl, hfound, fun hanchored => hanchored.fromRoot hfile,
    fun done => ranFrom_of_run, fun haccepted place => run_of_started? hlocated haccepted,
    fun dir place hdir => ⟨fun hsame => ?_, fun hslash => started?_of_slash hlocated hslash hdir,
      fun hbare => started?_of_bare hlocated hbare hdir⟩⟩
  have hslash : '/' ∈ file.toList := hsame.elim FileTree.slash_mem_of_fromRoot And.left
  have hreaches : h.Reaches dir file found := by
    rcases hsame with hroot | ⟨-, rfl⟩
    · exact hfound.move hroot dir
    · exact hfound
  rw [started?_of_slash hlocated hslash hdir, hreaches.iff_eq]

/-- A script that does nothing. -/
def emptyScript : FileNode := .file "#!/bin/sh\n".toUTF8.toList true

/-- A host with a program `b/t` in its current directory and another one below `w`. -/
def twoPrograms : Host where
  tree := ⟨[(["b"], .dir), (["b", "t"], emptyScript), (["w"], .dir), (["w", "b"], .dir),
    (["w", "b", "t"], emptyScript)]⟩
  cwd := []
  environment := [("PATH", "/b")]
  homes := []
  bundled := ⟨.root, ["lib"]⟩
  modules := []

/-- The program `t` is the same file in the other directory, also as an interpreter. -/
theorem started?_eq_located_anchored :
    let other : Path := ⟨.root, ["w"]⟩
    let c : Compilation := { config := { perl := "t" }, root := other }
    let asked := twoPrograms.started? { args := Architecture.question "t", combine := false }
    (∃ found, twoPrograms.Reaches [] "/b/t" found ∧
      twoPrograms.started? { args := ["t"], cwd := some other } = some found) ∧
    asked.isSome ∧ asked = twoPrograms.started? (c.callWith twoPrograms [] ⟨.root, ["a"]⟩) := by
  intro other c asked
  have hanchored : twoPrograms.Anchored "t" := by
    refine .inr ⟨by decide, fun entry hentry => ?_⟩
    cases List.mem_singleton.mp hentry
    rfl
  have hasked : asked.isSome := by decide +kernel
  have hcompiled : (twoPrograms.started? (c.callWith twoPrograms [] ⟨.root, ["a"]⟩)).isSome := by
    decide +kernel
  have hcan : twoPrograms.canStart ["w"] [] "/b/t" = true := by decide +kernel
  obtain ⟨hlocate, hinterpreter⟩ := started?_eq_located twoPrograms
  obtain ⟨file, found, hfile, hfound, -, -, -, hstart⟩ :=
    hlocate { args := ["t"], cwd := some other } "t" [] ["/b/t"] rfl rfl rfl
  cases hfile
  obtain ⟨place, hplace⟩ := Option.isSome_iff_exists.mp hasked
  obtain ⟨place', hplace'⟩ := Option.isSome_iff_exists.mp hcompiled
  refine ⟨⟨found, hfound, ((hstart ["w"] found rfl).1 (.inl rfl)).mpr ⟨hcan, rfl⟩⟩, hasked, ?_⟩
  rw [hplace, hplace', hinterpreter c _ _ _ _ hanchored hplace hplace']

/-- It is not so that the file that was looked up is always the one that starts, nor that the
interpreter that is asked is always the one that compiles. -/
theorem not_started?_eq_located :
    (¬ ∀ (h : Host) (call : Call) (head file : String) (rest : Command) (found place : Place),
        call.args = head :: rest → (Path.ofString head).isAbsolute = false →
        h.locateProgram call.args = .ok (file :: rest) → h.Reaches h.cwd file found →
        h.started? call = some place → place = found) ∧
    ¬ ∀ (h : Host) (c : Compilation) (paths : List Path) (target : Path) (place place' : Place),
        h.started? { args := Architecture.question c.config.perl, combine := false } = some place →
        h.started? (c.callWith h paths target) = some place' → place = place' := by
  refine ⟨fun hall => ?_, fun hall => ?_⟩
  · have hsame := hall twoPrograms { args := ["b/t"], cwd := some ⟨.root, ["w"]⟩ } "b/t" "b/t" []
      ["b", "t"] ["w", "b", "t"] rfl rfl rfl ⟨_, rfl⟩ (by decide +kernel)
    exact absurd hsame (by decide)
  · have hsame := hall twoPrograms { config := { perl := "b/t" }, root := ⟨.root, ["w"]⟩ } []
      ⟨.root, ["a"]⟩ ["b", "t"] ["w", "b", "t"] (by decide +kernel) (by decide +kernel)
    exact absurd hsame (by decide)

end Host

end PerlVet
