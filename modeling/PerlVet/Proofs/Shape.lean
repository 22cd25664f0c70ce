import PerlVet.Proofs.Report
import PerlVet.Proofs.Verdict

/-!
The shape of what is said about a file: first the diagnostics of the interpreter, then those of the
line predicates in the order of the lines, every one with a line number that can be. Line numbers
are followed through the output of the interpreter (`Output.read_numbered`) and through the lines of
the file (`LineScan.scanLines_placed`); a new checker puts the two inspections together
(`Checker.vet_standard`), less what its configuration hides (`Shape.of_inspections`).
-/

namespace PerlVet.Output
open Text

variable {file line : List Char} {status : Option Int} {found : List Finding} {n : Nat}

/-! ## Line numbers in the output of the interpreter -/

theorem line_of_finding {l : Located} {f : Finding} (h : l.finding n = some f) : 1 ≤ f.line := by
  unfold Located.finding at h
  split at h
  · cases h
  · next hn =>
    split at h
    · cases h
      exact Nat.not_lt.mp hn
    · split at h
      · cases h
        exact Nat.not_lt.mp hn
      · cases h

theorem line_of_readLine {f : Finding} (h : readLine file line = .ok (some f)) : 1 ≤ f.line := by
  unfold readLine at h
  dsimp only at h
  split at h
  · cases h
  · split at h
    · cases h
    · obtain ⟨n, -, hfinding⟩ := map_ok h
      exact line_of_finding hfinding

/-- Every finding has a line number. -/
theorem read_numbered {output : List Char} (h : read file status output = .ok found) :
    ∀ f ∈ found, 1 ≤ f.line :=
  have hnumbered : Acquired file (1 ≤ ·.line) :=
    ⟨line_of_readLine, id, fun _ => Nat.le_refl 1, id⟩
  hnumbered.readLines h

end PerlVet.Output

namespace PerlVet

namespace Compilation

variable {c c' : Compilation} {h : Host} {target : Path} {s s' : Session} {ds : List Diagnostic}

theorem fileHead_of_inspect (hinspect : c.inspect h target s = (.ok ds, c', s')) :
    ∃ line, h.fileHead target = .ok line := by
  cases hhead : h.fileHead target with
  | error e =>
    simp only [inspect, hhead] at hinspect
    cases hinspect
  | ok line => exact ⟨line, rfl⟩

/-- What an inspection by the interpreter says about a file. -/
theorem inspect_shape {line : List Char} (hhead : h.fileHead target = .ok line)
    (hinspect : c.inspect h target s = (.ok ds, c', s')) :
    (Shebang.isForeign line = true → ds = []) ∧ ∀ d ∈ ds, d.origin = name ∧ 1 ≤ d.line := by
  by_cases hforeign : Shebang.isForeign line = true
  · simp only [inspect, hhead, hforeign, if_true] at hinspect
    cases hinspect
    exact ⟨fun _ => rfl, nofun⟩
  · refine ⟨fun hyes => absurd hyes hforeign, ?_⟩
    obtain ⟨call, done, file, found, -, -, hread, rfl⟩ :=
      inspect_ok hhead (Bool.eq_false_iff.mpr hforeign) hinspect
    intro d hd
    obtain ⟨f, hf, rfl⟩ := List.mem_map.mp hd
    exact ⟨rfl, Output.read_numbered hread f hf⟩

end Compilation

/-! ## Line numbers of line predicates -/

namespace LineScan
open Output (map_ok)

variable {file : String} {rules : List LineRule} {n : Nat} {ds : List Diagnostic}

theorem scanLine_placed {line : String} (h : scanLine file n line rules = .ok ds) :
    ∀ d ∈ ds, d.origin = name ∧ d.line = n := by
  induction rules generalizing ds with
  | nil =>
    cases h
    exact nofun
  | cons rule rules ih =>
    rw [scanLine] at h
    split at h
    · cases h
    · next found hask =>
      obtain ⟨rest, hrest, rfl⟩ := map_ok h
      intro d hd
      rcases List.mem_append.mp hd with hd | hd
      · cases found with
        | none => cases hd
        | some f =>
          cases List.mem_singleton.mp hd
          exact ⟨rfl, rfl⟩
      · exact ih hrest d hd

/-- The diagnostics of lines numbered from `n` on stand in the order of the lines. -/
structure Placed (n : Nat) (lines : List (List Char)) (ds : List Diagnostic) : Prop where
  origin : ∀ d ∈ ds, d.origin = name
  lower : ∀ d ∈ ds, n ≤ d.line
  upper : ∀ d ∈ ds, d.line < n + lines.length
  sorted : ds.Pairwise fun a b => a.line ≤ b.line

/-- The diagnostics of one line go in front of those of the lines after it. -/
theorem Placed.cons {line : List Char} {lines : List (List Char)} {first rest : List Diagnostic}
    (hfirst : ∀ d ∈ first, d.origin = name ∧ d.line = n) (hrest : Placed (n + 1) lines rest) :
    Placed n (line :: lines) (first ++ rest) := by
  have hlength : (line :: lines).length = lines.length + 1 := rfl
  refine ⟨?_, ?_, ?_, ?_⟩
  · intro d hd
    rcases List.mem_append.mp hd with hd | hd
    · exact (hfirst d hd).1
    · exact hrest.origin d hd
  · intro d hd
    rcases List.mem_append.mp hd with hd | hd
    · exact Nat.le_of_eq (hfirst d hd).2.symm
    · have := hrest.lower d hd
      omega
  · intro d hd
    rcases List.mem_append.mp hd with hd | hd
    · have := (hfirst d hd).2
      omega
    · have := hrest.upper d hd
      omega
  · refine List.pairwise_append.mpr ⟨?_, hrest.sorted, ?_⟩
    · refine List.pairwise_of_forall_mem_list ?_
      intro a ha b hb
      exact Nat.le_of_eq ((hfirst a ha).2.trans (hfirst b hb).2.symm)
    · intro a ha b hb
      have := hrest.lower b hb
      rw [(hfirst a ha).2]
      omega

theorem scanLines_placed {lines : List (List Char)}
    (h : scanLines file rules n lines = .ok ds) : Placed n lines ds := by
  induction lines generalizing n ds with
  | nil =>
    cases h
    exact ⟨nofun, nofun, nofun, .nil⟩
  | cons line lines ih =>
    rw [scanLines] at h
    split at h
    · cases h
    · next first hfirst =>
      obtain ⟨rest, hrest, rfl⟩ := map_ok h
      exact .cons (scanLine_placed hfirst) (ih hrest)

theorem inspect_placed {config : Config.Custom} {h : Host} {target : Path} {s s' : Session}
    {lines : List (List Char)} (hlines : h.fileLines target = .ok lines)
    (hinspect : inspect config h target s = (.ok ds, s')) : Placed 1 lines ds := by
  unfold inspect at hinspect
  split at hinspect
  · cases hinspect
    exact ⟨nofun, nofun, nofun, .nil⟩
  · simp only [hlines] at hinspect
    split at hinspect
    · cases hinspect
    · next found hscan =>
      cases hinspect
      exact scanLines_placed hscan

/-- What is left of the diagnostics is placed as well. -/
theorem Placed.sublist {lines : List (List Char)} {ds' : List Diagnostic} (hds : Placed n lines ds)
    (hsub : ds'.Sublist ds) : Placed n lines ds' where
  origin d hd := hds.origin d (hsub.mem hd)
  lower d hd := hds.lower d (hsub.mem hd)
  upper d hd := hds.upper d (hsub.mem hd)
  sorted := hds.sorted.sublist hsub

end LineScan

/-! ## Both inspections -/

namespace Inspector

variable {h : Host} {target : Path} {s s' : Session} {ds : List Diagnostic} {j : Inspector}

theorem inspect_compilation {i : Compilation}
    (hinspect : (compilation i).inspect h target s = (.ok ds, j, s')) :
    ∃ i', i.inspect h target s = (.ok ds, i', s') := by
  rcases hi : i.inspect h target s with ⟨result, i', s₁⟩
  simp only [inspect, hi] at hinspect
  cases hinspect
  exact ⟨i', rfl⟩

theorem inspect_lineScan {config : Config.Custom}
    (hinspect : (lineScan config).inspect h target s = (.ok ds, j, s')) :
    LineScan.inspect config h target s = (.ok ds, s') := by
  rcases hi : LineScan.inspect config h target s with ⟨result, s₁⟩
  simp only [inspect, hi] at hinspect
  cases hinspect
  rfl

end Inspector

namespace Checker

variable {c : Checker} {h : Host} {target : Path} {rules : SkipRules} {is : List Inspector}
  {s : Session} {ds : List Diagnostic}

theorem inspected_of_ok (hok : (inspectAll h target rules is s).1 = .ok ds) :
    ∃ results is' s', Inspected h target rules is s results is' s' ∧
      ds = (results.map rules.visible).flatten := by
  rcases inspected_or_firstRaises h target rules is s with ⟨results, is', s', hfound⟩ |
    ⟨e, is', s', hraised⟩
  · rw [inspectAll_of_inspected hfound] at hok
    cases hok
    exact ⟨results, is', s', hfound, rfl⟩
  · rw [inspectAll_of_firstRaises hraised] at hok
    cases hok

/-- What a new checker with the standard inspectors says about a file comes from two inspections
under the configuration it chooses. -/
theorem vet_standard {runner : Runner} {architecture : Option String}
    (hbuilder : c.builder = Builder.standard runner architecture)
    (hstage : c.stage = .unconfigured) (hvet : (c.vet h target s).1 = .ok ds) :
    ∃ config compiled scanned, (c.chooseConfig h s).1 = .ok config ∧
      (∃ i i' s₁ s₂, Compilation.inspect i h target s₁ = (.ok compiled, i', s₂)) ∧
      (∃ s₁ s₂, LineScan.inspect config.custom h target s₁ = (.ok scanned, s₂)) ∧
      ds = config.skipRules.visible compiled ++ config.skipRules.visible scanned := by
  rcases hready : c.ensureReady h s with ⟨e | _, c₁, s₁⟩
  · rw [vet_of_unready hready] at hvet
    cases hvet
  rw [vet_fst_of_ensureReady hready] at hvet
  have hprepare : c.prepare h s = (.ok (), c₁, s₁) := by
    simpa only [ensureReady, hstage, beq_self_eq_true, if_true] using hready
  obtain ⟨config, s₂, s₃, hchosen, hconfigured, hbuilt⟩ := configured_of_prepare hprepare
  have hinspectors : c₁.inspectors = Inspector.standard runner architecture config c.root := by
    rw [hbuilder] at hbuilt
    exact (Except.ok.inj (congrArg Prod.fst hbuilt)).symm
  have hall : (inspectAll h target c₁.rules c₁.inspectors s₁).1 = .ok ds := by
    unfold verdict at hvet
    split at hvet
    · cases hvet
    · cases hvet
    · exact hvet
  obtain ⟨results, is', s', hfound, rfl⟩ := inspected_of_ok hall
  rw [hinspectors] at hfound
  cases hfound with
  | cons hcompiled hrest =>
    cases hrest with
    | cons hscanned hnone =>
      cases hnone
      obtain ⟨i', hcompiled⟩ := Inspector.inspect_compilation hcompiled
      have hscanned := Inspector.inspect_lineScan hscanned
      refine ⟨config, _, _, by rw [hchosen], ⟨_, _, _, _, hcompiled⟩, ⟨_, _, hscanned⟩, ?_⟩
      simp [hconfigured.rules_eq]

end Checker

/-! ## Vetting one file -/

variable {h : Host} {target : Path}

/-- The top of the project for which a single file is vetted. -/
def topFor (h : Host) (target : Path) (root : Option Path) : Except Failure Path :=
  (root.elim (h.projectTop target) .ok).bind h.resolve

/-- The configuration under which a single file is vetted. -/
def configFor (h : Host) (target : Path) (root : Option Path) (given : Option Config)
    (file : Option Path) (env : Option Environment) (s : Session) : Except Failure Config :=
  (topFor h target root).bind fun root =>
    (Checker.chooseConfig { root, given, file, env } h s).1

/-- The answer for a single file, whoever runs the interpreter. -/
def answerFor (runner : Runner) (architecture : Option String) (h : Host) (target : Path)
    (root : Option Path) (given : Option Config) (file : Option Path) (env : Option Environment)
    (s : Session) : Except Failure (List Diagnostic) :=
  (topFor h target root).bind fun root =>
    (Checker.vet { root, given, file, env, builder := Builder.standard runner architecture }
      h target s).1

theorem vetFile_fst (h : Host) (target : Path) (root : Option Path) (given : Option Config)
    (file : Option Path) (env : Option Environment) (s : Session) :
    (vetFile h target root given file env s).1 =
      answerFor Runner.system none h target root given file env s := by
  unfold vetFile answerFor topFor Checker.ofRoot
  cases root with
  | some top =>
    simp only [Option.elim, Except.bind]
    cases h.resolve top <;> rfl
  | none =>
    cases h.projectTop target with
    | error e => rfl
    | ok top =>
      simp only [Option.elim, Except.bind]
      cases h.resolve top <;> rfl

theorem fileLines_of_fileHead {line : List Char} (hhead : h.fileHead target = .ok line) :
    ∃ lines, h.fileLines target = .ok lines := by
  obtain ⟨text, htext, -⟩ := Output.map_ok hhead
  exact ⟨Text.newlineLines text, by rw [Host.fileLines, htext]; rfl⟩

/-- What is said under a configuration about a file with these lines: `compiled` by the interpreter
and `scanned` by the line predicates. -/
structure Shape (config : Config) (line : List Char) (lines : List (List Char))
    (compiled scanned : List Diagnostic) : Prop where
  compiled_origin : ∀ d ∈ compiled, d.origin = "compile"
  scanned_origin : ∀ d ∈ scanned, d.origin = "custom"
  numbered : ∀ d ∈ compiled ++ scanned, 1 ≤ d.line
  sorted : scanned.Pairwise fun a b => a.line ≤ b.line
  bounded : ∀ d ∈ scanned, d.line ≤ lines.length
  /-- No pattern of the configuration matches what the interpreter says. -/
  shown : ∀ d ∈ compiled, ∀ p ∈ config.compile.patterns, p.isMatch d.message = false
  /-- The interpreter is not asked about a file for another one. -/
  foreign : Shebang.isForeign line = true → compiled = []

theorem Shape.of_inspections {config : Config} {c c' : Compilation} {s₁ s₂ s₃ s₄ : Session}
    {line : List Char} {lines : List (List Char)} {compiled scanned : List Diagnostic}
    (hhead : h.fileHead target = .ok line) (hlines : h.fileLines target = .ok lines)
    (hcompiled : c.inspect h target s₁ = (.ok compiled, c', s₂))
    (hscanned : LineScan.inspect config.custom h target s₃ = (.ok scanned, s₄)) :
    Shape config line lines (config.skipRules.visible compiled)
      (config.skipRules.visible scanned) := by
  obtain ⟨hforeign, hfound⟩ := Compilation.inspect_shape hhead hcompiled
  have hplaced := (LineScan.inspect_placed hlines hscanned).sublist
    (SkipRules.visible_sublist config.skipRules scanned)
  have hcompiled' : ∀ d ∈ config.skipRules.visible compiled, d ∈ compiled := fun d hd =>
    (SkipRules.mem_visible.mp hd).1
  refine ⟨?_, hplaced.origin, ?_, hplaced.sorted, ?_, ?_, ?_⟩
  · intro d hd
    exact (hfound d (hcompiled' d hd)).1
  · intro d hd
    rcases List.mem_append.mp hd with hd | hd
    · exact (hfound d (hcompiled' d hd)).2
    · exact hplaced.lower d hd
  · intro d hd
    have := hplaced.upper d hd
    omega
  · intro d hd p hp
    obtain ⟨hd, hhidden⟩ := SkipRules.mem_visible.mp hd
    refine Bool.eq_false_iff.mpr fun hmatch => Bool.eq_false_iff.mp hhidden ?_
    exact SkipRules.hides_skipRules_iff.mpr ⟨(hfound d hd).1, p, hp, hmatch⟩
  · intro hyes
    rw [hforeign hyes]
    rfl

/-- Whatever is said about a file has this shape: diagnostics of the interpreter, and then those of
the line predicates in the order of the lines. It does not matter what the interpreter does. -/
theorem vetFile_shape (h : Host) (target : Path) (root : Option Path) (given : Option Config)
    (file : Option Path) (env : Option Environment) (s : Session) :
    (vetFile h target root given file env s).1 =
      answerFor Runner.system none h target root given file env s ∧
    ∀ runner architecture ds,
      answerFor runner architecture h target root given file env s = .ok ds →
      ∃ config line lines compiled scanned,
        configFor h target root given file env s = .ok config ∧
        h.fileHead target = .ok line ∧ h.fileLines target = .ok lines ∧
        ds = compiled ++ scanned ∧ Shape config line lines compiled scanned := by
  refine ⟨vetFile_fst h target root given file env s, ?_⟩
  intro runner architecture ds hanswer
  obtain ⟨top, htop, hvet⟩ := Output.bind_ok hanswer
  obtain ⟨config, compiled, scanned, hchosen, ⟨i, i', s₁, s₂, hcompiled⟩, ⟨s₃, s₄, hscanned⟩,
    rfl⟩ := Checker.vet_standard rfl rfl hvet
  obtain ⟨line, hhead⟩ := Compilation.fileHead_of_inspect hcompiled
  obtain ⟨lines, hlines⟩ := fileLines_of_fileHead hhead
  refine ⟨config, line, lines, _, _, ?_, hhead, hlines, rfl,
    .of_inspections hhead hlines hcompiled hscanned⟩
  rw [configFor, htop]
  exact hchosen

/-- A host with a file `a` of two lines. -/
def twoLines : Host :=
  { (Checker.visitOf "a").host with tree := ⟨[(["a"], .file "1\n2".toUTF8.toList false)]⟩ }

/-- A configuration with a remark on every line. -/
def remarking : Config where
  compile := { inc := { replaceDefaults := true } }
  custom := { rules := [⟨⟨"p", fun _ _ => .ok (.fragment ⟨.warning, "w"⟩), true⟩, []⟩] }

/-- An interpreter that fails without a word adds one diagnostic in front of those of the lines. -/
theorem vetFile_shape_remarking :
    let runner : Runner := fun _ call => .ok ⟨call.args, 2, "", none⟩
    let remark (n : Nat) : Diagnostic := ⟨⟨⟨.warning, "w"⟩, n⟩, "custom"⟩
    let ds : List Diagnostic :=
      [⟨⟨⟨.error, "compilation failed with exit status 2"⟩, 1⟩, "compile"⟩, remark 1, remark 2]
    answerFor runner (some "x") twoLines ⟨.root, ["a"]⟩ none (some remarking) none none {} =
      .ok ds ∧
    ∃ config line lines compiled scanned,
      ds = compiled ++ scanned ∧ Shape config line lines compiled scanned := by
  intro runner remark ds
  have hanswer : answerFor runner (some "x") twoLines ⟨.root, ["a"]⟩ none (some remarking) none none
      {} = .ok ds :=
    ok_of_toOption (by decide +kernel)
  obtain ⟨config, line, lines, compiled, scanned, -, -, -, hds, hshape⟩ :=
    (vetFile_shape twoLines ⟨.root, ["a"]⟩ none (some remarking) none none {}).2 runner (some "x")
      ds hanswer
  exact ⟨hanswer, config, line, lines, compiled, scanned, hds, hshape⟩

end PerlVet
