import PerlVet.Proofs.Verdict

/-!
Configurations that fail. A checker can be configured again at any time, and then has settings that
a failure should leave alone (`SameSettings`). It does so when no configuration can be chosen; once
one is chosen, the failure comes too late for some of the settings, so that a configuration is not
all or nothing. Answers for files do not show it when the builder fails (`vet_fst_congr`).
-/

namespace PerlVet.Checker

variable {c : Checker} {h : Host} {s : Session} {e : Failure}

/-- Two checkers agree on all that a configuration sets. -/
structure SameSettings (c c' : Checker) : Prop where
  config : c'.config = c.config
  inspectors : c'.inspectors = c.inspectors
  rules : c'.rules = c.rules
  stage : c'.stage = c.stage

/-- Checkers that are ready and have the same rules and inspectors answer alike. -/
theorem vet_fst_congr {c c' : Checker} (hready : c.stage ≠ .unconfigured)
    (hstage : c'.stage = c.stage) (hrules : c'.rules = c.rules)
    (hinspectors : c'.inspectors = c.inspectors) (h : Host) (target : Path) (s : Session) :
    (c'.vet h target s).1 = (c.vet h target s).1 := by
  rw [vet_fst_of_ensureReady (ensureReady_of_ready hready),
    vet_fst_of_ensureReady (ensureReady_of_ready (hstage ▸ hready)), hrules, hinspectors]

/-- What a configuration that fails leaves behind. If none can be chosen, nothing changes. If the
builder fails, the new configuration is already active while all else is as it was, and answers for
files are as before. If the inspectors cannot be named, everything is already new. -/
theorem prepare_error_effect {now : Checker} {s' : Session}
    (hfailed : c.prepare h s = (.error e, now, s')) :
    ((c.chooseConfig h s).1 = .error e ∧ now = c) ∨
    (∃ config s₁, c.chooseConfig h s = (.ok config, s₁) ∧
      (c.builder h config c.root s₁).1 = .error (.failed e) ∧ now.config = some config ∧
      now.inspectors = c.inspectors ∧ now.rules = c.rules ∧ now.stage = c.stage ∧
      (c.stage ≠ .unconfigured → ∀ h target s, (now.vet h target s).1 = (c.vet h target s).1)) ∨
    (∃ config s₁ is, c.chooseConfig h s = (.ok config, s₁) ∧
      (c.builder h config c.root s₁).1 = .error (.unnamed is e) ∧ now.config = some config ∧
      now.inspectors = is ∧ now.Configured config) := by
  rcases prepare_cases c h s with ⟨e', s₁, hchosen, hp⟩ |
    ⟨config, s₁, e', s₂, hchosen, hbuilt, hp⟩ | ⟨config, s₁, is, e', s₂, hchosen, hbuilt, hp⟩ |
    ⟨config, s₁, is, s₂, hchosen, hbuilt, hp⟩
  all_goals rw [hp] at hfailed; cases hfailed
  · exact .inl ⟨by rw [hchosen], rfl⟩
  · exact .inr (.inl ⟨config, s₁, hchosen, by rw [hbuilt], rfl, rfl, rfl, rfl,
      fun hready => vet_fst_congr hready rfl rfl rfl⟩)
  · exact .inr (.inr ⟨config, s₁, is, hchosen, by rw [hbuilt], rfl, rfl, nofun, rfl⟩)

/-- A checker whose builder fails as soon as the usual directories are left out. -/
def choosy : Checker where
  root := ⟨.root, []⟩
  given := some {}
  builder := fun _ config _ s =>
    if config.compile.inc.replaceDefaults then (.error (.failed (.raised ⟨.runtime, "no"⟩)), s)
    else (.ok [], s)

/-- A visit to configure a checker under some variables. -/
def configureUnder (environment : Environment) : Visit where
  host := { (visitOf "a").host with environment }
  session := {}
  request := .prepare

/-- The variable is set between two configurations: the second one fails and has become active. -/
theorem prepare_error_effect_choosy :
    let before := choosy.after [configureUnder []]
    let now := (before.prepare (configureUnder [(replaceVariable, "1")]).host {}).2.1
    now.config.map (·.compile.inc.replaceDefaults) = some true ∧
    before.config.map (·.compile.inc.replaceDefaults) = some false ∧
    now.inspectors = before.inspectors ∧ now.rules = before.rules ∧ now.stage = .configured := by
  intro before now
  have hfailed : before.prepare (configureUnder [(replaceVariable, "1")]).host {} =
      (.error (.raised ⟨.runtime, "no"⟩), now, {}) := rfl
  rcases prepare_error_effect hfailed with ⟨hchosen, -⟩ |
    ⟨config, s₁, hchosen, -, hconfig, hinspectors, hrules, hstage, -⟩ |
    ⟨config, s₁, is, hchosen, hbuilt, -⟩
  · cases hchosen
  · refine ⟨?_, rfl, hinspectors, hrules, hstage⟩
    rw [hconfig]
    cases hchosen
    rfl
  · cases hchosen
    cases hbuilt

/-- It is not so that a configuration that fails leaves the settings of a checker alone, whatever
was asked of it before. -/
theorem not_prepare_atomic :
    ¬ ∀ (h : Host) (root : Path) (given : Option Config) (file : Option Path)
        (env : Option Environment) (builder : Builder) (c : Checker) (vs : List Visit) (v : Visit)
        (e : Failure), ofRoot h root given file env builder = .ok c →
        ((c.after vs).prepare v.host v.session).1 = .error e →
        SameSettings (c.after vs) ((c.after vs).prepare v.host v.session).2.1 := by
  intro hatomic
  have hsame := hatomic (visitOf "a").host ⟨.root, []⟩ (some {}) none none choosy.builder choosy
    [configureUnder []] (configureUnder [(replaceVariable, "1")]) _ rfl rfl
  have hflag := congrArg (Option.map (·.compile.inc.replaceDefaults)) hsame.config
  exact absurd hflag (by decide)

end PerlVet.Checker
