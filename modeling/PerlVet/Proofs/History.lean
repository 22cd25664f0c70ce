import PerlVet.Proofs.Report
import PerlVet.Proofs.Verdict

/-!
What a checker remembers does not show. On a host that stays as it is, architecture names are kept
in a session (`Session.Truthful`), and the directories for libraries are kept by the inspection that
resolved them (`Compilation.Recalls`); both are what would be found anew. So an inspection answers
as if it remembered nothing (`Compilation.inspect_truthful`), and a checker with the standard
inspectors answers at any time as a new one does (`Steady.vet`).
-/

namespace PerlVet

variable {h : Host} {s s' : Session}

/-! ## Kept architecture names -/

/-- Every architecture name that is kept is the one its interpreter gives when it is asked. -/
def Session.Truthful (s : Session) (h : Host) : Prop :=
  ∀ kept ∈ s.architectures, Architecture.ask h kept.1 = .ok kept.2

theorem Session.Truthful.of_eq (hs : s.Truthful h) (heq : s'.architectures = s.architectures) :
    s'.Truthful h := by
  intro kept hkept
  exact hs kept (heq ▸ hkept)

theorem SkipRules.noteHidden_architectures (rules : SkipRules) (ds : List Diagnostic)
    (s : Session) : (rules.noteHidden ds s).architectures = s.architectures := by
  unfold noteHidden
  induction ds.filter rules.hides generalizing s with
  | nil => rfl
  | cons d ds ih => exact ih _

namespace Architecture

theorem mem_keep {perl name : String} {kept : List (String × String)} {p : String × String}
    (hp : p ∈ keep perl name kept) : p = (perl, name) ∨ p ∈ kept := by
  rcases List.mem_cons.mp (List.mem_of_mem_take hp) with rfl | hp
  · exact .inl rfl
  · exact .inr (List.mem_filter.mp hp).1

theorem keep_truthful {perl name : String} (hs : s.Truthful h) (hask : ask h perl = .ok name) :
    Session.Truthful { s with architectures := keep perl name s.architectures } h := by
  intro kept hkept
  rcases mem_keep hkept with rfl | hkept
  · exact hask
  · exact hs kept hkept

/-- A name that is kept is as good as one that is asked for. -/
theorem find_truthful (hs : s.Truthful h) (perl : String) :
    ∃ s', find h perl s = (ask h perl, s') ∧ s'.Truthful h := by
  unfold find findGiven
  cases hlookup : s.architectures.lookup perl with
  | some name =>
    obtain ⟨_, _, heq, -⟩ := List.lookup_eq_some_iff.mp hlookup
    have hask : ask h perl = .ok name := hs (perl, name) (by simp [heq])
    exact ⟨_, by rw [hask], keep_truthful hs hask⟩
  | none =>
    cases hask : ask h perl with
    | error e => exact ⟨s, rfl, hs⟩
    | ok name => exact ⟨_, rfl, keep_truthful hs hask⟩

end Architecture

/-! ## Kept directories -/

theorem IncludePath.find_eq (h : Host) (root : Path) (inc : Config.Include) (architecture : String)
    (s : Session) :
    ∃ s', find h root inc architecture s = (resolve h root inc architecture h.bundled, s') ∧
      s'.architectures = s.architectures := by
  unfold find
  cases resolve h root inc architecture h.bundled with
  | error e => exact ⟨s, rfl, rfl⟩
  | ok paths => exact ⟨_, rfl, rfl⟩

namespace Compilation

variable {c c' : Compilation}

/-- The inspection without the directories it remembers. -/
def forget (c : Compilation) : Compilation := { c with resolved := none }

/-- The architecture name, asked for if need be. -/
def architectureName (c : Compilation) (h : Host) : Except Failure String :=
  match c.architecture with
  | some name => .ok name
  | none => Architecture.ask h c.config.perl

/-- The directories for libraries when nothing is remembered. -/
def directories (c : Compilation) (h : Host) : Except Failure (List Path) :=
  (c.architectureName h).bind fun name => IncludePath.resolve h c.root c.config.inc name h.bundled

/-- The directories that are remembered are those that would be found. -/
def Recalls (c : Compilation) (h : Host) : Prop :=
  ∀ paths, c.resolved = some paths → c.directories h = .ok paths

/-- The inspection is still the same, and what is remembered anywhere is right. -/
structure Undisturbed (h : Host) (c c' : Compilation) (s' : Session) : Prop where
  same : c'.forget = c.forget
  recalls : c'.Recalls h
  truthful : s'.Truthful h

theorem Undisturbed.of_eq {s₁ : Session} (hc : Undisturbed h c c' s₁)
    (heq : s'.architectures = s₁.architectures) : Undisturbed h c c' s' :=
  ⟨hc.same, hc.recalls, hc.truthful.of_eq heq⟩

theorem resolve_truthful (c : Compilation) (hs : s.Truthful h) :
    ∃ s', c.resolve h s = (c.directories h, s') ∧ s'.Truthful h := by
  unfold resolve directories architectureName
  cases c.architecture with
  | some name =>
    obtain ⟨s', hfind, heq⟩ := IncludePath.find_eq h c.root c.config.inc name s
    exact ⟨s', hfind, hs.of_eq heq⟩
  | none =>
    obtain ⟨s₁, hask, hs₁⟩ := Architecture.find_truthful hs c.config.perl
    simp only [hask]
    cases Architecture.ask h c.config.perl with
    | error e => exact ⟨s₁, rfl, hs₁⟩
    | ok name =>
      obtain ⟨s', hfind, heq⟩ := IncludePath.find_eq h c.root c.config.inc name s₁
      exact ⟨s', hfind, hs₁.of_eq heq⟩

theorem includePath_truthful (hc : c.Recalls h) (hs : s.Truthful h) :
    ∃ c' s', c.includePath h s = (c.directories h, c', s') ∧ Undisturbed h c c' s' := by
  unfold includePath
  cases hresolved : c.resolved with
  | some paths => exact ⟨c, s, by rw [hc paths hresolved], rfl, hc, hs⟩
  | none =>
    obtain ⟨s', hresolve, hs'⟩ := c.resolve_truthful hs
    simp only [hresolve]
    cases hpaths : c.directories h with
    | error e => exact ⟨c, s', rfl, rfl, hc, hs'⟩
    | ok paths =>
      refine ⟨{ c with resolved := some paths }, s', rfl, rfl, ?_, hs'⟩
      intro paths' heq
      cases heq
      exact hpaths

theorem commandFor_truthful (hc : c.Recalls h) (hs : s.Truthful h) (target : Path) :
    ∃ c' s', c.commandFor h target s =
      ((c.directories h).map (c.commandWith h · target), c', s') ∧ Undisturbed h c c' s' := by
  obtain ⟨c', s', hpaths, hc'⟩ := includePath_truthful hc hs
  have hcommand (paths : List Path) :
      c'.commandWith h paths target = c.commandWith h paths target :=
    congrArg (·.commandWith h paths target) hc'.same
  unfold commandFor
  simp only [hpaths]
  cases c.directories h with
  | error e => exact ⟨c', s', rfl, hc'⟩
  | ok paths => exact ⟨c', s', by simp only [hcommand, Except.map], hc'⟩

theorem compileWith_eq (c : Compilation) (h : Host) (command : Command) (s : Session) :
    ∃ s', c.compileWith h command s = ((c.compileWith h command {}).1, s') ∧
      s'.architectures = s.architectures := by
  unfold compileWith
  dsimp only
  split
  · exact ⟨_, rfl, rfl⟩
  · exact ⟨_, rfl, rfl⟩

/-- What the inspection says about a file when nothing is remembered. -/
def answer (c : Compilation) (h : Host) (target : Path) : Except Failure (List Diagnostic) :=
  (h.fileHead target).bind fun line =>
    if Shebang.isForeign line then .ok []
    else (c.directories h).bind fun paths =>
      (c.compileWith h (c.commandWith h paths target) {}).1

/-- Whatever has been inspected before, the answer is as if nothing were remembered. -/
theorem inspect_truthful (hc : c.Recalls h) (hs : s.Truthful h) (target : Path) :
    ∃ c' s', c.inspect h target s = (c.answer h target, c', s') ∧ Undisturbed h c c' s' := by
  unfold inspect answer
  cases h.fileHead target with
  | error e => exact ⟨c, s, rfl, rfl, hc, hs⟩
  | ok line =>
    by_cases hforeign : Shebang.isForeign line = true
    · simp only [hforeign, if_true, Except.bind]
      refine ⟨c, _, rfl, rfl, hc, ?_⟩
      exact hs.of_eq rfl
    · obtain ⟨c', s₁, hcommand, hc'⟩ := commandFor_truthful hc hs target
      simp only [hforeign, hcommand, Except.bind]
      cases c.directories h with
      | error e => exact ⟨c', s₁, rfl, hc'⟩
      | ok paths =>
        have hcompile : (c'.compileWith h (c.commandWith h paths target) {}).1 =
            (c.compileWith h (c.commandWith h paths target) {}).1 :=
          congrArg (fun c₁ => (c₁.compileWith h (c.commandWith h paths target) {}).1) hc'.same
        obtain ⟨s', hcompiled, heq⟩ :=
          c'.compileWith_eq h (c.commandWith h paths target) s₁
        rw [hcompile] at hcompiled
        refine ⟨c', s', ?_, hc'.of_eq heq⟩
        simp only [Except.map, hcompiled]
        rfl

end Compilation

theorem LineScan.inspect_eq (config : Config.Custom) (h : Host) (target : Path) (s : Session) :
    ∃ s', LineScan.inspect config h target s = ((LineScan.inspect config h target {}).1, s') ∧
      s'.architectures = s.architectures := by
  unfold LineScan.inspect
  split
  · exact ⟨s, rfl, rfl⟩
  · split
    · exact ⟨s, rfl, rfl⟩
    · split
      · exact ⟨s, rfl, rfl⟩
      · exact ⟨_, rfl, rfl⟩

namespace Checker

open Compilation (Undisturbed)

/-! ## A checker with the standard inspectors -/

/-- What the standard inspectors say about a file when nothing is remembered. -/
def standardAnswer (h : Host) (target : Path) (rules : SkipRules) (compilation : Compilation)
    (custom : Config.Custom) : Except Failure (List Diagnostic) :=
  (compilation.answer h target).bind fun compiled =>
    (LineScan.inspect custom h target {}).1.map fun scanned =>
      rules.visible compiled ++ rules.visible scanned

theorem inspectAll_standard {compilation : Compilation} (hc : compilation.Recalls h)
    (hs : s.Truthful h) (target : Path) (rules : SkipRules) (custom : Config.Custom) :
    ∃ compilation' s', inspectAll h target rules [.compilation compilation, .lineScan custom] s =
        (standardAnswer h target rules compilation custom,
          [.compilation compilation', .lineScan custom], s') ∧
      Undisturbed h compilation compilation' s' := by
  obtain ⟨compilation', s₁, hcompiled, hc'⟩ := Compilation.inspect_truthful hc hs target
  unfold standardAnswer
  cases hfound : compilation.answer h target with
  | error e =>
    refine ⟨compilation', s₁, ?_, hc'⟩
    simp only [inspectAll, Inspector.inspect, hcompiled, hfound, Except.bind]
  | ok compiled =>
    obtain ⟨s', hscanned, heq⟩ :=
      LineScan.inspect_eq custom h target (rules.noteHidden compiled s₁)
    rw [SkipRules.noteHidden_architectures] at heq
    cases hlines : (LineScan.inspect custom h target {}).1 with
    | error e =>
      refine ⟨compilation', s', ?_, hc'.of_eq heq⟩
      simp only [inspectAll, Inspector.inspect, hcompiled, hfound, hscanned, hlines, Except.bind,
        Except.map]
    | ok scanned =>
      refine ⟨compilation', rules.noteHidden scanned s', ?_,
        hc'.of_eq ((SkipRules.noteHidden_architectures ..).trans heq)⟩
      simp only [inspectAll, Inspector.inspect, hcompiled, hfound, hscanned, hlines, Except.bind,
        Except.map, List.append_nil]

/-- What a checker is made from that is given its configuration and has the standard inspectors. -/
structure Making where
  root : Path
  given : Config
  file : Option Path
  env : Option Environment
  runner : Runner
  architecture : Option String

namespace Making

/-- The new checker. -/
def checker (m : Making) : Checker where
  root := m.root
  given := some m.given
  file := m.file
  env := m.env
  builder := Builder.standard m.runner m.architecture

/-- The configuration that becomes active on a host. -/
def config (m : Making) (h : Host) : Config := m.given.override (overrides h m.env)

/-- The inspection by the interpreter, as it is built on a host. -/
def compilation (m : Making) (h : Host) : Compilation where
  config := (m.config h).compile
  root := m.root
  runner := m.runner
  architecture := m.architecture

/-- The answer for a file when nothing has been done before. -/
def answer (m : Making) (h : Host) (target : Path) : Except Failure (List Diagnostic) :=
  match h.isFile target with
  | .error e => .error e
  | .ok false => .error (.targetMissing target.text)
  | .ok true =>
    standardAnswer h target (m.config h).skipRules (m.compilation h) (m.config h).custom

end Making

/-- A checker made from `m`, at any time in its life on a host that stays as it is. -/
structure Steady (m : Making) (h : Host) (c : Checker) : Prop where
  root_eq : c.root = m.root
  given_eq : c.given = some m.given
  env_eq : c.env = m.env
  builder_eq : c.builder = Builder.standard m.runner m.architecture
  equipment : c.stage ≠ .unconfigured → c.rules = (m.config h).skipRules ∧
    ∃ compilation : Compilation, compilation.forget = m.compilation h ∧ compilation.Recalls h ∧
      c.inspectors = [.compilation compilation, .lineScan (m.config h).custom]

variable {m : Making} {c : Checker}

theorem steady_checker (m : Making) (h : Host) : Steady m h m.checker :=
  ⟨rfl, rfl, rfl, rfl, fun hready => absurd rfl hready⟩

/-- A configuration always succeeds, and equips the checker anew. -/
theorem Steady.prepare (hc : Steady m h c) (hs : s.Truthful h) :
    ∃ c' s', c.prepare h s = (.ok (), c', s') ∧ Steady m h c' ∧ c'.stage ≠ .unconfigured ∧
      s'.Truthful h := by
  have hchosen : c.chooseConfig h s = (.ok (m.config h), s) := by
    simp only [chooseConfig, hc.given_eq, hc.env_eq, Making.config]
  have hbuilt : c.builder h (m.config h) c.root s =
      (.ok [.compilation (m.compilation h), .lineScan (m.config h).custom], s) := by
    rw [hc.builder_eq, hc.root_eq]
    rfl
  refine ⟨_, _, prepare_of_built hchosen hbuilt, ?_, nofun, hs.of_eq rfl⟩
  exact ⟨hc.root_eq, hc.given_eq, hc.env_eq, hc.builder_eq,
    fun _ => ⟨rfl, m.compilation h, rfl, nofun, rfl⟩⟩

theorem Steady.ensureReady (hc : Steady m h c) (hs : s.Truthful h) :
    ∃ c' s', c.ensureReady h s = (.ok (), c', s') ∧ Steady m h c' ∧ c'.stage ≠ .unconfigured ∧
      s'.Truthful h := by
  by_cases hready : c.stage = .unconfigured
  · obtain ⟨c', s', hprepare, hc'⟩ := hc.prepare hs
    exact ⟨c', s', by simp only [Checker.ensureReady, hready, beq_self_eq_true, if_true, hprepare],
      hc'⟩
  · exact ⟨c, s, ensureReady_of_ready hready, hc, hready, hs⟩

/-- Only the stage and the inspectors change. -/
theorem Steady.settled (hc : Steady m h c) (hrules : c.rules = (m.config h).skipRules)
    {compilation : Compilation} (hsame : compilation.forget = m.compilation h)
    (hrecalls : compilation.Recalls h) (stage : Stage) :
    Steady m h { c with
      inspectors := [.compilation compilation, .lineScan (m.config h).custom], stage } :=
  ⟨hc.root_eq, hc.given_eq, hc.env_eq, hc.builder_eq,
    fun _ => ⟨hrules, compilation, hsame, hrecalls, rfl⟩⟩

/-- At any time the answer for a file is that of a new checker. -/
theorem Steady.vet (hc : Steady m h c) (hs : s.Truthful h) (target : Path) :
    ∃ c' s', c.vet h target s = (m.answer h target, c', s') ∧ Steady m h c' ∧ s'.Truthful h := by
  obtain ⟨c₁, s₁, hensured, hc₁, hready, hs₁⟩ := hc.ensureReady hs
  obtain ⟨hrules, compilation, hsame, hrecalls, hinspectors⟩ := hc₁.equipment hready
  unfold Checker.vet Making.answer
  simp only [hensured]
  rcases h.isFile target with e | _ | _
  · exact ⟨c₁, s₁, rfl, hc₁, hs₁⟩
  · exact ⟨c₁, s₁, rfl, hc₁, hs₁⟩
  · obtain ⟨compilation', s₂, hall, hundisturbed⟩ :=
      inspectAll_standard hrecalls hs₁ target c₁.rules (m.config h).custom
    have hanswer : standardAnswer h target c₁.rules compilation (m.config h).custom =
        standardAnswer h target (m.config h).skipRules (m.compilation h) (m.config h).custom := by
      rw [hrules, ← hsame]
      rfl
    rw [hanswer] at hall
    simp only [hinspectors, hall]
    have hsame' := hundisturbed.same.trans hsame
    cases standardAnswer h target (m.config h).skipRules (m.compilation h) (m.config h).custom with
    | error e =>
      exact ⟨_, s₂, rfl, hc₁.settled hrules hsame' hundisturbed.recalls _, hundisturbed.truthful⟩
    | ok ds =>
      exact ⟨_, _, rfl, hc₁.settled hrules hsame' hundisturbed.recalls _,
        hundisturbed.truthful.of_eq rfl⟩

/-! ## Histories -/

/-- The checker and the session after requests, one after the other, on a host that stays as it
is. -/
def history (c : Checker) (h : Host) (requests : List Request) (s : Session) : Checker × Session :=
  requests.foldl (fun state request => (state.1.serve h request state.2).2) (c, s)

/-- Every request leaves the checker steady. -/
theorem Steady.serve (hc : Steady m h c) (hs : s.Truthful h) (request : Request) :
    Steady m h (c.serve h request s).2.1 ∧ (c.serve h request s).2.2.Truthful h := by
  cases request with
  | prepare =>
    obtain ⟨c', s', hprepare, hc', -, hs'⟩ := hc.prepare hs
    simp only [Checker.serve, answer, hprepare]
    exact ⟨hc', hs'⟩
  | vet target =>
    obtain ⟨c', s', hvet, hc', hs'⟩ := hc.vet hs target
    simp only [Checker.serve, answer, hvet]
    exact ⟨hc', hs'⟩
  | config =>
    obtain ⟨c', s', hready, hc', -, hs'⟩ := hc.ensureReady hs
    simp only [Checker.serve, answer, readyConfig_snd, hready]
    exact ⟨hc', hs'⟩
  | inspectors =>
    obtain ⟨c', s', hready, hc', -, hs'⟩ := hc.ensureReady hs
    simp only [Checker.serve, answer, readyInspectors_snd, hready]
    exact ⟨hc', hs'⟩
  | root => exact ⟨hc, hs⟩

/-- Every history leaves the checker steady. -/
theorem Steady.history (hc : Steady m h c) (hs : s.Truthful h) (requests : List Request) :
    Steady m h (c.history h requests s).1 ∧ (c.history h requests s).2.Truthful h := by
  induction requests generalizing c s with
  | nil => exact ⟨hc, hs⟩
  | cons request requests ih =>
    obtain ⟨hc', hs'⟩ := hc.serve hs request
    exact ih hc' hs'

/-- On a host that stays as it is, what a checker with the standard inspectors and a given
configuration answers for a file does not depend on what was asked of it before, nor on the
architecture names that are kept, as long as these are right. -/
theorem vet_history {root : Path} {given : Config} {file : Option Path} {env : Option Environment}
    {runner : Runner} {architecture : Option String} {s₀ : Session}
    (hnew : ofRoot h root (some given) file env (Builder.standard runner architecture) = .ok c)
    (hs : s.Truthful h) (hs₀ : s₀.Truthful h) (requests : List Request) (target : Path) :
    ((c.history h requests s).1.vet h target (c.history h requests s).2).1 =
      (c.vet h target s₀).1 := by
  obtain ⟨top, -, rfl⟩ := Output.map_ok hnew
  let m : Making := ⟨top, given, file, env, runner, architecture⟩
  obtain ⟨hpast, hsession⟩ := (steady_checker m h).history hs requests
  obtain ⟨c₁, s₁, hvet, -⟩ := hpast.vet hsession target
  obtain ⟨c₂, s₂, hfresh, -⟩ := (steady_checker m h).vet hs₀ target
  exact (congrArg Prod.fst hvet).trans (congrArg Prod.fst hfresh).symm

/-- A host with a file `a` and an interpreter `p` that tells its architecture. -/
def talkative : Host :=
  { (visitOf "a").host with
    tree := ⟨[(["p"], .file "#!/bin/sh\necho x".toUTF8.toList true), (["a"], .file [] false)]⟩ }

/-- A configuration for that interpreter. -/
def talkativeConfig : Config where
  compile := { inc := { replaceDefaults := true }, perl := "/p" }

theorem ask_talkative : Architecture.ask talkative "/p" = .ok "x" :=
  ok_of_toOption (by decide +kernel)

/-- After a missing file, two configurations and a file that was vetted, with a name that is kept,
the answer is that of a new checker that has to ask for the name. -/
theorem vet_history_kept_name :
    let runner : Runner := fun _ call => .ok ⟨call.args, 2, "", none⟩
    let c : Checker :=
      { root := ⟨.root, []⟩, given := some talkativeConfig, builder := Builder.standard runner }
    let past := c.history talkative [.vet ⟨.root, ["b"]⟩, .config, .vet ⟨.root, ["a"]⟩, .prepare]
      { architectures := [("/p", "x")] }
    (past.1.vet talkative ⟨.root, ["a"]⟩ past.2).1 = (c.vet talkative ⟨.root, ["a"]⟩ {}).1 ∧
    (c.vet talkative ⟨.root, ["a"]⟩ {}).1.toOption =
      some [⟨⟨⟨.error, "compilation failed with exit status 2"⟩, 1⟩, "compile"⟩] := by
  intro runner c past
  have hnew : ofRoot talkative ⟨.root, []⟩ (some talkativeConfig) none none
      (Builder.standard runner) = .ok c := rfl
  have hkept : Session.Truthful { architectures := [("/p", "x")] } talkative := by
    intro kept hkept
    cases List.mem_singleton.mp hkept
    exact ask_talkative
  have hnone : Session.Truthful {} talkative := by
    intro kept hkept
    cases hkept
  exact ⟨vet_history hnew hkept hnone _ _, by decide +kernel⟩

end Checker

end PerlVet
