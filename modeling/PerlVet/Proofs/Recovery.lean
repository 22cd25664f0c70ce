import PerlVet.Proofs.Verdict

/-!
The stage of a checker after a run that fails. A visit leaves the stage as it is or ends in
`configured` or `done` (`stage_next`), so that `running` is never seen between visits, whatever the
builder does (`not_running_after`). A failure leads back to `configured` from every stage but one: a
checker that is done and is asked for something that is no file does not get so far as to enter
`running`, and stays done.
-/

namespace PerlVet.Checker

variable {c c₁ : Checker} {h : Host} {target : Path} {s s₁ : Session} {e : Failure}

/-! ## Stages along visits -/

theorem stage_prepare (c : Checker) (h : Host) (s : Session) :
    (c.prepare h s).2.1.stage = c.stage ∨ (c.prepare h s).2.1.stage = .configured := by
  rcases prepare_cases c h s with ⟨e, s₁, -, hp⟩ | ⟨config, s₁, e, s₂, -, -, hp⟩ |
    ⟨config, s₁, is, e, s₂, -, -, hp⟩ | ⟨config, s₁, is, s₂, -, -, hp⟩
  all_goals rw [hp]
  · exact .inl rfl
  · exact .inl rfl
  · exact .inr rfl
  · exact .inr rfl

theorem stage_ensureReady (c : Checker) (h : Host) (s : Session) :
    (c.ensureReady h s).2.1.stage = c.stage ∨ (c.ensureReady h s).2.1.stage = .configured := by
  unfold ensureReady
  split
  · exact stage_prepare c h s
  · exact .inl rfl

theorem stage_vet (c : Checker) (h : Host) (target : Path) (s : Session) :
    (c.vet h target s).2.1.stage = c.stage ∨ (c.vet h target s).2.1.stage = .configured ∨
      (c.vet h target s).2.1.stage = .done := by
  have hstage := stage_ensureReady c h s
  rcases hready : c.ensureReady h s with ⟨e | _, c₁, s₁⟩
  · rw [hready] at hstage
    rw [vet_of_unready hready]
    exact hstage.imp_right .inl
  · rw [hready] at hstage
    rcases hvet : c.vet h target s with ⟨result, c₂, s₂⟩
    cases vet_of_ready hready hvet with
    | missing hfile => exact hstage.imp_right .inl
    | raised hfile hraised => exact .inr (.inl rfl)
    | done hfile hfound => exact .inr (.inr rfl)

/-- A visit leaves the stage as it is, or ends with the checker configured or done. -/
theorem stage_next (c : Checker) (v : Visit) :
    (c.next v).stage = c.stage ∨ (c.next v).stage = .configured ∨ (c.next v).stage = .done := by
  obtain ⟨h, s, request⟩ := v
  have hready : (c.ensureReady h s).2.1.stage = c.stage ∨
      (c.ensureReady h s).2.1.stage = .configured ∨ (c.ensureReady h s).2.1.stage = .done :=
    (stage_ensureReady c h s).imp_right .inl
  cases request with
  | prepare => exact (stage_prepare c h s).imp_right .inl
  | vet target => exact stage_vet c h target s
  | config =>
    rw [← readyConfig_snd] at hready
    exact hready
  | inspectors =>
    rw [← readyInspectors_snd] at hready
    exact hready
  | root => exact .inl rfl

/-- Between visits a checker is never running. -/
theorem not_running_after (hc : c.stage ≠ .running) (vs : List Visit) :
    (c.after vs).stage ≠ .running := by
  induction vs generalizing c with
  | nil => exact hc
  | cons v vs ih =>
    refine ih ?_
    rcases stage_next c v with hstage | hstage | hstage
    all_goals rw [hstage]
    · exact hc
    · exact nofun
    · exact nofun

theorem stage_ofRoot {root : Path} {given : Option Config} {file : Option Path}
    {env : Option Environment} {builder : Builder}
    (hnew : ofRoot h root given file env builder = .ok c) : c.stage = .unconfigured := by
  unfold ofRoot at hnew
  cases hroot : h.resolve root with
  | error e =>
    rw [hroot] at hnew
    cases hnew
  | ok top =>
    rw [hroot] at hnew
    cases hnew
    rfl

/-! ## Failures -/

/-- A configuration is in place: there is one already, or making the checker ready has put one
there. -/
def InPlace (c : Checker) (h : Host) (s : Session) : Prop :=
  (c.ensureReady h s).2.1.stage ≠ .unconfigured

/-- A checker is ready as it is, or becomes configured. -/
theorem InPlace.cases (hplace : c.InPlace h s) :
    (c.stage ≠ .unconfigured ∧ c.ensureReady h s = (.ok (), c, s)) ∨
    (c.stage = .unconfigured ∧ (c.ensureReady h s).2.1.stage = .configured) := by
  by_cases hstage : c.stage = .unconfigured
  · refine .inr ⟨hstage, (stage_ensureReady c h s).resolve_left fun hsame => ?_⟩
    exact hplace (hsame.trans hstage)
  · exact .inl ⟨hstage, ensureReady_of_ready hstage⟩

/-- A run that fails with a configuration in place leaves the checker configured, or else as it was
made ready, with something that is no file to vet. -/
theorem InPlace.failure_cases {now : Checker} {s' : Session} (hplace : c.InPlace h s)
    (hfailed : c.vet h target s = (.error e, now, s')) :
    now.stage = .configured ∨ (h.isFile target ≠ .ok true ∧ now = (c.ensureReady h s).2.1) := by
  rcases hready : c.ensureReady h s with ⟨e' | _, c₁, s₁⟩
  · -- The configuration is there and yet making the checker ready fails: the stage was
    -- `unconfigured` before, and is not any more.
    rw [vet_of_unready hready] at hfailed
    cases hfailed
    rcases hplace.cases with ⟨-, hok⟩ | ⟨-, hstage⟩
    · rw [hok] at hready
      cases hready
    · rw [hready] at hstage
      exact .inl hstage
  · cases vet_of_ready hready hfailed with
    | missing hfile => exact .inr ⟨hfile, rfl⟩
    | raised hfile hraised => exact .inl rfl

/-- Something that is no file leaves a checker that is ready as it was. -/
theorem vet_of_not_file (hready : c.stage ≠ .unconfigured) (hfile : h.isFile target ≠ .ok true) :
    (c.vet h target s).2.1 = c := by
  rcases hvet : c.vet h target s with ⟨result, now, s'⟩
  cases vet_of_ready (ensureReady_of_ready hready) hvet with
  | missing _ => rfl
  | raised hfile' _ => exact absurd hfile' hfile
  | done hfile' _ => exact absurd hfile' hfile

/-- How a run ends that fails with a configuration in place, after any visits and with any builder.
The checker is configured, unless it was done before and what it was to vet is no file: then it is
left as it was, and so still done. -/
theorem vet_failure_stage {h₀ : Host} {root : Path} {given : Option Config} {file : Option Path}
    {env : Option Environment} {builder : Builder}
    (hnew : ofRoot h₀ root given file env builder = .ok c) (vs : List Visit) {now : Checker}
    {s' : Session} (hplace : (c.after vs).InPlace h s)
    (hfailed : (c.after vs).vet h target s = (.error e, now, s')) :
    let before := c.after vs
    (now.stage = .configured ↔ ¬(before.stage = .done ∧ h.isFile target ≠ .ok true)) ∧
    (before.stage = .done → h.isFile target ≠ .ok true → now = before) := by
  intro before
  have hrunning : before.stage ≠ .running :=
    not_running_after (by rw [stage_ofRoot hnew]; exact nofun) vs
  have hkept : before.stage = .done → h.isFile target ≠ .ok true → now = before := by
    intro hdone hfile
    have hkept := vet_of_not_file (s := s) (by rw [hdone]; exact nofun) hfile
    rw [hfailed] at hkept
    exact hkept
  refine ⟨⟨?_, ?_⟩, hkept⟩
  · rintro hstage ⟨hdone, hfile⟩
    rw [hkept hdone hfile, hdone] at hstage
    cases hstage
  · intro hnot
    rcases hplace.failure_cases hfailed with hstage | ⟨hfile, rfl⟩
    · exact hstage
    · rcases hplace.cases with ⟨hstage, hready⟩ | ⟨-, hstage⟩
      · -- The stage is that of before, of which only `configured` is left.
        rw [hready]
        cases hbefore : before.stage with
        | unconfigured => exact absurd hbefore hstage
        | configured => rfl
        | running => exact absurd hbefore hrunning
        | done => exact absurd ⟨hbefore, hfile⟩ hnot
      · exact hstage

/-- The checker of a project with one inspector, which takes nothing but files by the name `a`. -/
def picky : Checker where
  root := ⟨.root, []⟩
  given := some {}
  env := some []
  builder := fun _ _ _ s =>
    (.ok [.plugin "Stub" "stub" fun _ target s =>
      (if target.name == "a" then .ok [] else .error (.raised ⟨.runtime, target.name⟩), s)], s)

/-- A host with the files `a` and `b`. -/
def twoFiles : Host :=
  { (visitOf "a").host with tree := ⟨[(["a"], .file [] false), (["b"], .file [] false)]⟩ }

theorem ofRoot_picky :
    ofRoot twoFiles ⟨.root, []⟩ (some {}) none (some []) picky.builder = .ok picky := rfl

/-- Once `a` has been vetted, a failure over `b` leads back to `configured`, and one over the
missing `c` does not. -/
theorem vet_failure_stage_picky :
    let before := picky.after [visitOf "a"]
    (before.vet twoFiles ⟨.root, ["b"]⟩ {}).2.1.stage = .configured ∧
    (before.vet twoFiles ⟨.root, ["c"]⟩ {}).2.1 = before ∧ before.stage = .done := by
  intro before
  have hplace : before.InPlace twoFiles {} := by
    intro hstage
    cases hstage
  have hdone : before.stage = .done := rfl
  have hb : before.vet twoFiles ⟨.root, ["b"]⟩ {} =
      (.error (.raised ⟨.runtime, "b"⟩), (before.vet twoFiles ⟨.root, ["b"]⟩ {}).2) := rfl
  have hc : before.vet twoFiles ⟨.root, ["c"]⟩ {} =
      (.error (.targetMissing "/c"), (before.vet twoFiles ⟨.root, ["c"]⟩ {}).2) := rfl
  have hraised := vet_failure_stage ofRoot_picky [visitOf "a"] hplace hb
  have hmissing := vet_failure_stage ofRoot_picky [visitOf "a"] hplace hc
  refine ⟨hraised.1.mpr ?_, hmissing.2 hdone nofun, hdone⟩
  rintro ⟨-, hfile⟩
  exact hfile rfl

/-- It is not so that every failure leads back to `configured`. -/
theorem not_vet_failure_stage :
    ¬ ∀ (h₀ : Host) (root : Path) (given : Option Config) (file : Option Path)
        (env : Option Environment) (builder : Builder) (c : Checker) (vs : List Visit) (h : Host)
        (target : Path) (s s' : Session) (e : Failure) (now : Checker),
        ofRoot h₀ root given file env builder = .ok c → (c.after vs).InPlace h s →
        (c.after vs).vet h target s = (.error e, now, s') → now.stage = .configured := by
  intro hall
  have hstage := hall twoFiles ⟨.root, []⟩ (some {}) none (some []) picky.builder picky
    [visitOf "a"] twoFiles ⟨.root, ["c"]⟩ {} {} (.targetMissing "/c") _ ofRoot_picky
    (fun hnone => by cases hnone) rfl
  cases hstage

end PerlVet.Checker
