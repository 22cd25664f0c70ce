import PerlVet.Proofs.Lifecycle

/-!
What a configured checker answers for a file. Once it is ready, a checker has the rules of some
configuration, whatever was asked of it (`exists_configured_after`). Its inspectors look at the file
in turn, each in the session that those before it leave behind (`Inspected`), until one fails
(`FirstRaises`); one of the two is always the case (`inspected_or_firstRaises`). The answer is what
was found, in order, less what the rules hide, or else the first failure
(`inspectAll_of_inspected`, `inspectAll_of_firstRaises`).
-/

namespace PerlVet

/-- The diagnostic is the interpreter's, and some pattern of the configuration matches somewhere in
its message. -/
def Config.Skips (config : Config) (d : Diagnostic) : Prop :=
  d.origin = "compile" ∧ ∃ p ∈ config.compile.patterns, p.isMatch d.message = true

namespace SkipRules

variable {rules : SkipRules} {d : Diagnostic}

theorem hides_skipRules_iff {config : Config} :
    config.skipRules.hides d = true ↔ config.Skips d := by
  by_cases horigin : d.origin = "compile"
  · simp [hides, Config.skipRules, Config.Skips, horigin]
  · have hlookup : config.skipRules.lookup d.origin = none := by
      simp [Config.skipRules, List.lookup_cons, beq_false_of_ne horigin]
    simp [hides, hlookup, Config.Skips, horigin]

theorem visible_flatten (rules : SkipRules) (results : List (List Diagnostic)) :
    rules.visible results.flatten = (results.map rules.visible).flatten :=
  List.filter_flatten

theorem visible_sublist (rules : SkipRules) (ds : List Diagnostic) :
    (rules.visible ds).Sublist ds :=
  List.filter_sublist

theorem mem_visible {ds : List Diagnostic} :
    d ∈ rules.visible ds ↔ d ∈ ds ∧ rules.hides d = false := by
  simp [visible]

theorem count_visible (hd : rules.hides d = false) (ds : List Diagnostic) :
    (rules.visible ds).count d = ds.count d :=
  List.count_filter (by simp [hd])

end SkipRules

namespace Checker

variable {c c₁ : Checker} {h : Host} {target : Path} {rules : SkipRules} {config : Config}
  {is is' : List Inspector} {s s₁ s' : Session} {e : Failure} {results : List (List Diagnostic)}

/-- The checker is ready, with the rules of `config`. -/
structure Configured (c : Checker) (config : Config) : Prop where
  ready : c.stage ≠ .unconfigured
  rules_eq : c.rules = config.skipRules

/-- A configuration that succeeds makes the checker ready with what it has chosen and built. -/
theorem configured_of_prepare (hprepare : c.prepare h s = (.ok (), c₁, s₁)) :
    ∃ config s₂ s₃, c.chooseConfig h s = (.ok config, s₂) ∧ c₁.Configured config ∧
      c.builder h config c.root s₂ = (.ok c₁.inspectors, s₃) := by
  rcases prepare_cases c h s with ⟨e, s', -, hp⟩ | ⟨config, s', e, s'', -, -, hp⟩ |
    ⟨config, s', is, e, s'', -, -, hp⟩ | ⟨config, s', is, s'', hchosen, hbuilt, hp⟩
  all_goals rw [hp] at hprepare; cases hprepare
  exact ⟨config, s', s'', hchosen, ⟨nofun, rfl⟩, hbuilt⟩

theorem prepare_of_built {s₂ : Session} (hchosen : c.chooseConfig h s = (.ok config, s₁))
    (hbuilt : c.builder h config c.root s₁ = (.ok is, s₂)) :
    c.prepare h s = (.ok (), c.configured config is, s₂.note .checker (inspectorsNote is)) := by
  simp only [prepare, hchosen, hbuilt]
  rfl

/-- A property of checkers that visits keep: configurations do, and so does a change of inspectors
and stage in a checker that is ready. -/
structure Kept (P : Checker → Prop) : Prop where
  prepare {c : Checker} (h : Host) (s : Session) : P c → P (c.prepare h s).2.1
  settled {c : Checker} (is : List Inspector) {stage : Stage} : P c → c.stage ≠ .unconfigured →
    stage ≠ .unconfigured → P { c with inspectors := is, stage }

section Kept

variable {P : Checker → Prop} (hP : Kept P)
include hP

theorem Kept.ensureReady (h : Host) (s : Session) (hc : P c) : P (c.ensureReady h s).2.1 := by
  unfold Checker.ensureReady
  split
  · exact hP.prepare h s hc
  · exact hc

theorem Kept.vet (h : Host) (target : Path) (s : Session) (hc : P c) :
    P (c.vet h target s).2.1 := by
  have hc₁ := hP.ensureReady h s hc
  rcases hready : c.ensureReady h s with ⟨e | _, c₁, s₁⟩
  · rw [hready] at hc₁
    rw [vet_of_unready hready]
    exact hc₁
  · rw [hready] at hc₁
    have hstage := stage_of_ensureReady hready
    rcases hvet : c.vet h target s with ⟨result, c₂, s₂⟩
    cases vet_of_ready hready hvet with
    | missing hfile => exact hc₁
    | raised hfile hraised => exact hP.settled _ hc₁ hstage nofun
    | done hfile hfound => exact hP.settled _ hc₁ hstage nofun

theorem Kept.next (hc : P c) (v : Visit) : P (c.next v) := by
  obtain ⟨h, s, request⟩ := v
  cases request with
  | prepare => exact hP.prepare h s hc
  | vet target => exact hP.vet h target s hc
  | config =>
    have hready := hP.ensureReady h s hc
    rw [← readyConfig_snd] at hready
    exact hready
  | inspectors =>
    have hready := hP.ensureReady h s hc
    rw [← readyInspectors_snd] at hready
    exact hready
  | root => exact hc

theorem Kept.after (hc : P c) (vs : List Visit) : P (c.after vs) := by
  induction vs generalizing c with
  | nil => exact hc
  | cons v vs ih => exact ih (hP.next hc v)

end Kept

/-- Whether or not it is ready, nothing but a configuration has given the checker its rules. -/
def Ruled (c : Checker) : Prop := c.stage = .unconfigured ∨ ∃ config, c.Configured config

theorem kept_ruled : Kept Ruled where
  prepare {c} h s hc := by
    rcases prepare_cases c h s with ⟨e, s₁, -, hp⟩ | ⟨config, s₁, e, s₂, -, -, hp⟩ |
      ⟨config, s₁, is, e, s₂, -, -, hp⟩ | ⟨config, s₁, is, s₂, -, -, hp⟩
    all_goals rw [hp]
    · exact hc
    · -- The new configuration is active, but the rules are still those of the one before.
      rcases hc with hstage | ⟨old, hold⟩
      · exact .inl hstage
      · exact .inr ⟨old, hold.ready, hold.rules_eq⟩
    · exact .inr ⟨config, nofun, rfl⟩
    · exact .inr ⟨config, nofun, rfl⟩
  settled is stage hc hready hstage := by
    obtain ⟨config, hconfigured⟩ := hc.resolve_left hready
    exact .inr ⟨config, hstage, hconfigured.rules_eq⟩

/-- Whatever was asked of a checker, once it is ready it is configured. -/
theorem exists_configured_after {root : Path} {given : Option Config} {file : Option Path}
    {env : Option Environment} {builder : Builder}
    (hnew : ofRoot h root given file env builder = .ok c) (vs : List Visit)
    (hready : (c.after vs).stage ≠ .unconfigured) : ∃ config, (c.after vs).Configured config := by
  have hc : c.Ruled := by
    unfold ofRoot at hnew
    cases hroot : h.resolve root with
    | error e =>
      rw [hroot] at hnew
      cases hnew
    | ok top =>
      rw [hroot] at hnew
      cases hnew
      exact .inl rfl
  exact (kept_ruled.after hc vs).resolve_left hready

/-! ## Inspectors in turn -/

/-- The inspectors find `results` in a file, one after the other, and none fails. Each works in the
session that those before it leave, with a note of what the rules hide; they end up as `is'`. -/
inductive Inspected (h : Host) (target : Path) (rules : SkipRules) :
    List Inspector → Session → List (List Diagnostic) → List Inspector → Session → Prop
  | nil {s : Session} : Inspected h target rules [] s [] [] s
  | cons {i i' : Inspector} {is is' : List Inspector} {s s₁ s' : Session} {ds : List Diagnostic}
    {results : List (List Diagnostic)} (hfirst : i.inspect h target s = (.ok ds, i', s₁))
    (hrest : Inspected h target rules is (rules.noteHidden ds s₁) results is' s') :
    Inspected h target rules (i :: is) s (ds :: results) (i' :: is') s'

/-- One of the inspectors fails, and those before it do not. The session is as that inspector leaves
it, and the inspectors after it are as they were. -/
def FirstRaises (h : Host) (target : Path) (rules : SkipRules) (is : List Inspector) (s : Session)
    (e : Failure) (is' : List Inspector) (s' : Session) : Prop :=
  ∃ before i later results before' s₁ i', is = before ++ i :: later ∧
    Inspected h target rules before s results before' s₁ ∧
    i.inspect h target s₁ = (.error e, i', s') ∧ is' = before' ++ i' :: later

theorem inspectAll_of_inspected (hfound : Inspected h target rules is s results is' s') :
    inspectAll h target rules is s = (.ok (results.map rules.visible).flatten, is', s') := by
  induction hfound with
  | nil => rfl
  | cons hfirst _ ih => simp only [inspectAll, hfirst, ih, List.map_cons, List.flatten_cons]

theorem inspectAll_of_firstRaises (hraised : FirstRaises h target rules is s e is' s') :
    inspectAll h target rules is s = (.error e, is', s') := by
  obtain ⟨before, i, later, results, before', s₁, i', rfl, hbefore, hi, rfl⟩ := hraised
  induction hbefore with
  | nil => exact inspectAll_cons_error hi
  | cons hfirst _ ih => simp only [List.cons_append, inspectAll, hfirst, ih hi]

theorem FirstRaises.cons {i i' : Inspector} {ds : List Diagnostic}
    (hfirst : i.inspect h target s = (.ok ds, i', s₁))
    (hraised : FirstRaises h target rules is (rules.noteHidden ds s₁) e is' s') :
    FirstRaises h target rules (i :: is) s e (i' :: is') s' := by
  obtain ⟨before, j, later, results, before', s₂, j', rfl, hbefore, hj, rfl⟩ := hraised
  exact ⟨i :: before, j, later, ds :: results, i' :: before', s₂, j', rfl, .cons hfirst hbefore, hj,
    rfl⟩

/-- Either no inspector fails, or one is the first that does. -/
theorem inspected_or_firstRaises (h : Host) (target : Path) (rules : SkipRules)
    (is : List Inspector) (s : Session) :
    (∃ results is' s', Inspected h target rules is s results is' s') ∨
    ∃ e is' s', FirstRaises h target rules is s e is' s' := by
  induction is generalizing s with
  | nil => exact .inl ⟨[], [], s, .nil⟩
  | cons i is ih =>
    rcases hfirst : i.inspect h target s with ⟨e | ds, i', s₁⟩
    · exact .inr ⟨e, i' :: is, s₁, [], i, is, [], [], s, i', rfl, .nil, hfirst, rfl⟩
    · rcases ih (rules.noteHidden ds s₁) with ⟨results, is', s', hrest⟩ | ⟨e, is', s', hraised⟩
      · exact .inl ⟨ds :: results, i' :: is', s', .cons hfirst hrest⟩
      · exact .inr ⟨e, i' :: is', s', hraised.cons hfirst⟩

/-! ## The answer -/

/-- What a checker that is ready answers for a file, with the rules and the inspectors it has. -/
def verdict (h : Host) (target : Path) (rules : SkipRules) (is : List Inspector) (s : Session) :
    Except Failure (List Diagnostic) :=
  match h.isFile target with
  | .error e => .error e
  | .ok false => .error (.targetMissing target.text)
  | .ok true => (inspectAll h target rules is s).1

theorem verdict_of_isFile (hfile : h.isFile target = .ok true) :
    verdict h target rules is s = (inspectAll h target rules is s).1 := by
  simp only [verdict, hfile]

/-- A checker that is ready is not made ready again. -/
theorem ensureReady_of_ready (hready : c.stage ≠ .unconfigured) :
    c.ensureReady h s = (.ok (), c, s) := by
  simp [ensureReady, hready]

theorem vet_fst_of_ensureReady (hready : c.ensureReady h s = (.ok (), c₁, s₁)) :
    (c.vet h target s).1 = verdict h target c₁.rules c₁.inspectors s₁ := by
  simp only [vet, hready, verdict]
  rcases h.isFile target with e | _ | _
  · rfl
  · rfl
  · rcases inspectAll h target c₁.rules c₁.inspectors s₁ with ⟨e | ds, is, s'⟩ <;> rfl

theorem vet_of_firstRaises (hready : c.stage ≠ .unconfigured) (hfile : h.isFile target = .ok true)
    (hraised : FirstRaises h target c.rules c.inspectors s e is' s') :
    c.vet h target s = (.error e, { c with inspectors := is', stage := .configured }, s') := by
  simp only [vet, ensureReady_of_ready hready, hfile, inspectAll_of_firstRaises hraised]

/-- How a configured checker vets a file that is there. If no inspector fails, the answer is what
they found in their order without what is hidden, be it taken out at the end or from each part: a
diagnostic is left out just if it is the interpreter's and a configured pattern matches its message,
and any other stays as often as it was found. If an inspector fails, the answer is the failure of
the first that does; the ones after it play no part. -/
theorem vet_configured (hc : c.Configured config) (hfile : h.isFile target = .ok true)
    (s : Session) :
    (∀ results is' s', Inspected h target c.rules c.inspectors s results is' s' →
      ∃ ds, (c.vet h target s).1 = .ok ds ∧
        ds = config.skipRules.visible results.flatten ∧
        ds = (results.map config.skipRules.visible).flatten ∧
        ds.Sublist results.flatten ∧
        (∀ d ∈ results.flatten, d ∉ ds ↔ config.Skips d) ∧
        ∀ d, ¬ config.Skips d → ds.count d = results.flatten.count d) ∧
    (∀ e is' s', FirstRaises h target c.rules c.inspectors s e is' s' →
      c.vet h target s = (.error e, { c with inspectors := is', stage := .configured }, s')) ∧
    ((∃ results is' s', Inspected h target c.rules c.inspectors s results is' s') ∨
      ∃ e is' s', FirstRaises h target c.rules c.inspectors s e is' s') := by
  refine ⟨?_, fun e is' s' => vet_of_firstRaises hc.ready hfile,
    inspected_or_firstRaises h target c.rules c.inspectors s⟩
  intro results is' s' hfound
  refine ⟨config.skipRules.visible results.flatten, ?_, rfl, SkipRules.visible_flatten _ _,
    SkipRules.visible_sublist _ _, ?_, ?_⟩
  · rw [vet_fst_of_ensureReady (ensureReady_of_ready hc.ready), verdict_of_isFile hfile,
      inspectAll_of_inspected hfound, SkipRules.visible_flatten, hc.rules_eq]
  · intro d hd
    rw [← SkipRules.hides_skipRules_iff, SkipRules.mem_visible]
    simp [hd]
  · intro d hd
    rw [← SkipRules.hides_skipRules_iff, Bool.not_eq_true] at hd
    exact SkipRules.count_visible hd _

/-- An inspector that ends the same way for every file. -/
def constantly (result : Except Failure (List Diagnostic)) : Inspector :=
  .plugin "Stub" "stub" fun _ _ s => (result, s)

/-- A configuration that leaves out messages with an `x`. -/
def withoutX : Config where
  compile := { skip := ["x"], patterns := [⟨"x", [.char 120], {}, #[]⟩] }

/-- A checker that has vetted files before, with inspectors from elsewhere. -/
def checkerWithoutX (is : List Inspector) : Checker where
  root := ⟨.root, []⟩
  inspectors := is
  rules := withoutX.skipRules
  stage := .done

/-- Two inspectors that both report under two names, and three of which the last two fail. -/
theorem vet_configured_foreign_origins :
    let host := (visitOf "a").host
    let d (message origin : String) : Diagnostic := ⟨⟨⟨.warning, message⟩, 1⟩, origin⟩
    let first := constantly (.ok [d "axb" "compile", d "axb" "custom"])
    let second := constantly (.ok [d "ab" "compile", d "axb" "custom"])
    let raising (m : String) := constantly (.error (.raised ⟨.runtime, m⟩))
    ((checkerWithoutX [first, second]).vet host ⟨.root, ["a"]⟩ {}).1 =
      .ok [d "axb" "custom", d "ab" "compile", d "axb" "custom"] ∧
    ((checkerWithoutX [first, raising "1", raising "2"]).vet host ⟨.root, ["a"]⟩ {}).1 =
      .error (.raised ⟨.runtime, "1"⟩) := by
  intro host d first second raising
  have hc (is : List Inspector) : (checkerWithoutX is).Configured withoutX := ⟨nofun, rfl⟩
  have hfile : host.isFile ⟨.root, ["a"]⟩ = .ok true := rfl
  constructor
  · obtain ⟨ds, hvet, rfl, -⟩ := (vet_configured (hc [first, second]) hfile {}).1 _ _ _
      (.cons rfl (.cons rfl .nil))
    rw [hvet, Except.ok.injEq]
    decide
  · rw [(vet_configured (hc [first, raising "1", raising "2"]) hfile {}).2.1 _ _ _
      ⟨[first], raising "1", [raising "2"], _, _, _, _, rfl, .cons rfl .nil, rfl, rfl⟩]

end Checker

end PerlVet
