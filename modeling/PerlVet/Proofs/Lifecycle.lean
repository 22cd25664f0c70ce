import PerlVet.Checker

/-!
The life of a checker. A `Visit` asks one thing of it, on a host and in a session that may have
changed in any way since the visit before. What a visit can do is said once for each operation
(`prepare_cases`, `vet_of_ready`). With a builder that never fails, a configuration is all or
nothing, but for one case (`prepare_delivered`): the inspectors are named last, when the checker is
ready already, so that one without a name makes the configuration fail and leaves the checker
configured. The invariant `Sound` ties the stage and the inspectors built to the number of
configurations that got that far, successful or not, and every run of visits keeps it
(`Sound.after`).
-/

namespace PerlVet

/-- What can be asked of a checker. -/
inductive Request where
  | prepare
  | vet (target : Path)
  | config
  | inspectors
  | root

/-- What a checker answers. -/
inductive Reply where
  | prepared
  | vetted (ds : List Diagnostic)
  | config (config : Option Config)
  | inspectors (is : List Inspector)
  | root (root : Path)

/-- One use of a checker. -/
structure Visit where
  host : Host
  session : Session
  request : Request

/-- The request loads the configuration before anything else. -/
def Request.prepares : Request → Stage → Bool
  | prepare, _ => true
  | vet _, stage | config, stage | inspectors, stage => stage == .unconfigured
  | root, _ => false

/-- The builder never fails. What it builds need not have names. -/
def Builder.Delivers (b : Builder) : Prop :=
  ∀ h config root s e, (b h config root s).1 ≠ .error (.failed e)

/-- What the builder builds can always be named. -/
def Builder.Names (b : Builder) : Prop :=
  ∀ h config root s is e, (b h config root s).1 ≠ .error (.unnamed is e)

theorem Builder.delivers_handing (names : List Datum) (is : List Inspector) :
    (Builder.handing names is).Delivers := by
  intro h config root s e
  unfold Builder.handing
  split <;> exact nofun

theorem map_error_iff {ε α β : Type} {x : Except ε α} {f : α → β} {e : ε} :
    x.map f = .error e ↔ x = .error e := by
  cases x <;> simp [Except.map]

theorem ok_of_toOption {α : Type} {x : Except Failure α} {a : α} (hx : x.toOption = some a) :
    x = .ok a := by
  cases x with
  | error e => cases hx
  | ok b => exact congrArg _ (Option.some.inj hx)

namespace Checker

/-- Puts a result into the form of a reply. -/
def answer {α : Type} (reply : α → Reply) :
    Except Failure α × Checker × Session → Except Failure Reply × Checker × Session
  | (result, c, s) => (result.map reply, c, s)

/-- Serves a request. -/
def serve (c : Checker) (h : Host) (r : Request) (s : Session) :
    Except Failure Reply × Checker × Session :=
  match r with
  | .prepare => answer (fun () => .prepared) (c.prepare h s)
  | .vet target => answer .vetted (c.vet h target s)
  | .config => answer .config (c.readyConfig h s)
  | .inspectors => answer .inspectors (c.readyInspectors h s)
  | .root => (.ok (.root c.root), c, s)

/-- The reply to a visit. -/
def reply (c : Checker) (v : Visit) : Except Failure Reply := (c.serve v.host v.request v.session).1

/-- The checker after a visit. -/
def next (c : Checker) (v : Visit) : Checker := (c.serve v.host v.request v.session).2.1

/-- The checker after visits, one after the other. -/
def after (c : Checker) (vs : List Visit) : Checker := vs.foldl next c

/-- Inspectors have been built, but one of them cannot be named. -/
def unnamed : Except BuildFault (List Inspector) → Bool
  | .error (.unnamed _ _) => true
  | .error (.failed _) | .ok _ => false

/-- A configuration is chosen and inspectors are built for it, but one of them cannot be named. -/
def misnames (c : Checker) (h : Host) (s : Session) : Bool :=
  match c.chooseConfig h s with
  | (.error _, _) => false
  | (.ok config, s) => unnamed (c.builder h config c.root s).1

/-- The visit configures the checker, whatever comes of the rest of it. -/
def configures (c : Checker) (v : Visit) : Bool :=
  v.request.prepares c.stage && (c.prepare v.host v.session).1.isOk

/-- The visit would configure the checker if the inspectors had names. -/
def stumbles (c : Checker) (v : Visit) : Bool :=
  v.request.prepares c.stage && c.misnames v.host v.session

/-- How many of the visits are of a kind, each as the checker is when it comes. -/
def tally (kind : Checker → Visit → Bool) (c : Checker) : List Visit → Nat
  | [] => 0
  | v :: vs => (kind c v).toNat + tally kind (c.next v) vs

/-- How many of the visits configure the checker. -/
def configurations (c : Checker) (vs : List Visit) : Nat := tally configures c vs

/-- How many of the visits fail for want of names alone. -/
def misnamings (c : Checker) (vs : List Visit) : Nat := tally stumbles c vs

variable {c c₁ : Checker} {b : Builder} {h : Host} {s s₁ : Session} {n : Nat}

/-! ## What an operation can do -/

/-- The checker with a configuration and the inspectors built for it. -/
def configured (c : Checker) (config : Config) (is : List Inspector) : Checker :=
  { c with
    config := some config, inspectors := is, rules := config.skipRules, stage := .configured,
    builds := c.root :: c.builds }

/-- A configuration fails before the builder is called, in the builder, when the inspectors are to
be named, or not at all. -/
theorem prepare_cases (c : Checker) (h : Host) (s : Session) :
    (∃ e s₁, c.chooseConfig h s = (.error e, s₁) ∧ c.prepare h s = (.error e, c, s₁)) ∨
    (∃ config s₁ e s₂, c.chooseConfig h s = (.ok config, s₁) ∧
      c.builder h config c.root s₁ = (.error (.failed e), s₂) ∧
      c.prepare h s =
        (.error e, { c with config := some config, builds := c.root :: c.builds }, s₂)) ∨
    (∃ config s₁ is e s₂, c.chooseConfig h s = (.ok config, s₁) ∧
      c.builder h config c.root s₁ = (.error (.unnamed is e), s₂) ∧
      c.prepare h s = (.error e, c.configured config is, s₂)) ∨
    (∃ config s₁ is s₂, c.chooseConfig h s = (.ok config, s₁) ∧
      c.builder h config c.root s₁ = (.ok is, s₂) ∧
      c.prepare h s =
        (.ok (), c.configured config is, s₂.note .checker (inspectorsNote is))) := by
  unfold prepare
  rcases hchosen : c.chooseConfig h s with ⟨e | config, s₁⟩
  · exact .inl ⟨e, s₁, rfl, rfl⟩
  · rcases hbuilt : c.builder h config c.root s₁ with ⟨(e | ⟨is, e⟩) | is, s₂⟩
    · exact .inr (.inl ⟨config, s₁, e, s₂, rfl, hbuilt, by simp only [hbuilt]⟩)
    · refine .inr (.inr (.inl ⟨config, s₁, is, e, s₂, rfl, hbuilt, ?_⟩))
      simp only [hbuilt]
      rfl
    · refine .inr (.inr (.inr ⟨config, s₁, is, s₂, rfl, hbuilt, ?_⟩))
      simp only [hbuilt]
      rfl

theorem unnamed_iff {built : Except BuildFault (List Inspector)} :
    unnamed built = true ↔ ∃ is e, built = .error (.unnamed is e) := by
  unfold unnamed
  split <;> simp_all

theorem misnames_of_chosen {config : Config} (hchosen : c.chooseConfig h s = (.ok config, s₁)) :
    c.misnames h s = unnamed (c.builder h config c.root s₁).1 := by
  simp only [misnames, hchosen]

theorem misnames_of_names (hnames : c.builder.Names) (h : Host) (s : Session) :
    c.misnames h s = false := by
  rcases hchosen : c.chooseConfig h s with ⟨e | config, s₁⟩
  · simp only [misnames, hchosen]
  · rw [misnames_of_chosen hchosen, ← Bool.not_eq_true, unnamed_iff]
    rintro ⟨is, e, hbuilt⟩
    exact hnames h config c.root s₁ is e hbuilt

/-- With a builder that never fails, a configuration is all or nothing, or everything and yet a
failure when the inspectors cannot be named. -/
theorem prepare_delivered (hbuilder : c.builder.Delivers) (h : Host) (s : Session) :
    (∃ e s₁, c.prepare h s = (.error e, c, s₁) ∧ c.misnames h s = false) ∨
    (∃ config is e s₁, c.prepare h s = (.error e, c.configured config is, s₁) ∧
      c.misnames h s = true) ∨
    (∃ config is s₁, c.prepare h s = (.ok (), c.configured config is, s₁) ∧
      c.misnames h s = false) := by
  rcases prepare_cases c h s with ⟨e, s₁, hchosen, hp⟩ | ⟨config, s₁, e, s₂, -, hbuilt, -⟩ |
    ⟨config, s₁, is, e, s₂, hchosen, hbuilt, hp⟩ | ⟨config, s₁, is, s₂, hchosen, hbuilt, hp⟩
  · exact .inl ⟨e, s₁, hp, by simp only [misnames, hchosen]⟩
  · exact absurd (congrArg Prod.fst hbuilt) (hbuilder h config c.root s₁ e)
  · refine .inr (.inl ⟨config, is, e, s₂, hp, ?_⟩)
    rw [misnames_of_chosen hchosen, hbuilt, unnamed]
  · refine .inr (.inr ⟨config, is, _, hp, ?_⟩)
    rw [misnames_of_chosen hchosen, hbuilt, unnamed]

/-- A checker that is ready has been configured. -/
theorem stage_of_ensureReady (hready : c.ensureReady h s = (.ok (), c₁, s₁)) :
    c₁.stage ≠ .unconfigured := by
  unfold ensureReady at hready
  split at hready
  next =>
    rcases prepare_cases c h s with ⟨e, s', -, hp⟩ | ⟨config, s', e, s'', -, -, hp⟩ |
      ⟨config, s', is, e, s'', -, -, hp⟩ | ⟨config, s', is, s'', -, -, hp⟩
    all_goals rw [hp] at hready; cases hready
    exact nofun
  next hstage =>
    cases hready
    simpa using hstage

section Inspectors

variable {target : Path} {rules : SkipRules} {i i' : Inspector} {is : List Inspector}
  {s s' : Session} {e : Failure} {ds : List Diagnostic}

theorem inspectAll_cons_error (hfirst : i.inspect h target s = (.error e, i', s')) :
    inspectAll h target rules (i :: is) s = (.error e, i' :: is, s') := by
  simp only [inspectAll, hfirst]

theorem inspectAll_cons_ok (hfirst : i.inspect h target s = (.ok ds, i', s')) :
    (inspectAll h target rules (i :: is) s).1 =
      (inspectAll h target rules is (rules.noteHidden ds s')).1.map (rules.visible ds ++ ·) := by
  simp only [inspectAll, hfirst]
  rcases inspectAll h target rules is (rules.noteHidden ds s') with ⟨e' | rest, is', s''⟩ <;> rfl

/-- Some inspector fails, and those before it do not. -/
inductive Raises (h : Host) (target : Path) (rules : SkipRules) (e : Failure) :
    List Inspector → Session → Prop
  | here {i i' : Inspector} {is : List Inspector} {s s' : Session}
    (hraised : i.inspect h target s = (.error e, i', s')) : Raises h target rules e (i :: is) s
  | later {i i' : Inspector} {is : List Inspector} {s s' : Session} {ds : List Diagnostic}
    (hfound : i.inspect h target s = (.ok ds, i', s'))
    (hraised : Raises h target rules e is (rules.noteHidden ds s')) :
    Raises h target rules e (i :: is) s

theorem inspectAll_error_iff :
    (inspectAll h target rules is s).1 = .error e ↔ Raises h target rules e is s := by
  constructor
  · intro herror
    induction is generalizing s with
    | nil => cases herror
    | cons i is ih =>
      rcases hfirst : i.inspect h target s with ⟨e' | ds, i', s'⟩
      · rw [inspectAll_cons_error hfirst] at herror
        cases herror
        exact .here hfirst
      · rw [inspectAll_cons_ok hfirst] at herror
        exact .later hfirst (ih (map_error_iff.mp herror))
  · intro hraises
    induction hraises with
    | here hraised => rw [inspectAll_cons_error hraised]
    | later hfound _ ih => rw [inspectAll_cons_ok hfound, map_error_iff, ih]

end Inspectors

theorem vet_of_unready {target : Path} {e : Failure}
    (hready : c.ensureReady h s = (.error e, c₁, s₁)) : c.vet h target s = (.error e, c₁, s₁) := by
  simp only [vet, hready]

/-- What can come of vetting a file with a checker that is ready. -/
inductive Vetting (c : Checker) (h : Host) (target : Path) (s : Session) :
    Except Failure (List Diagnostic) → Checker → Prop
  | missing {e : Failure} (hfile : h.isFile target ≠ .ok true) : Vetting c h target s (.error e) c
  | raised {e : Failure} {is : List Inspector} (hfile : h.isFile target = .ok true)
    (hraised : Raises h target c.rules e c.inspectors s) :
    Vetting c h target s (.error e) { c with inspectors := is, stage := .configured }
  | done {ds : List Diagnostic} {is : List Inspector} (hfile : h.isFile target = .ok true)
    (hfound : (inspectAll h target c.rules c.inspectors s).1 = .ok ds) :
    Vetting c h target s (.ok ds) { c with inspectors := is, stage := .done }

theorem vet_of_ready {target : Path} {c₂ : Checker} {s₂ : Session}
    {result : Except Failure (List Diagnostic)} (hready : c.ensureReady h s = (.ok (), c₁, s₁))
    (hvet : c.vet h target s = (result, c₂, s₂)) : Vetting c₁ h target s₁ result c₂ := by
  simp only [vet, hready] at hvet
  split at hvet
  next e hfile =>
    cases hvet
    exact .missing (by rw [hfile]; nofun)
  next hfile =>
    cases hvet
    exact .missing (by rw [hfile]; nofun)
  next hfile =>
    rcases hall : inspectAll h target c₁.rules c₁.inspectors s₁ with ⟨e | ds, is, s'⟩
    · rw [hall] at hvet
      cases hvet
      exact .raised hfile (inspectAll_error_iff.mp (by rw [hall]))
    · rw [hall] at hvet
      cases hvet
      exact .done hfile (by rw [hall])

/-! ## Runs of visits -/

/-- What is known of a checker with a builder that never fails, after `n` configurations have got
as far as their inspectors. -/
structure Sound (c : Checker) (b : Builder) (n : Nat) : Prop where
  delivers : b.Delivers
  builder_eq : c.builder = b
  not_running : c.stage ≠ .running
  unconfigured_iff : c.stage = .unconfigured ↔ n = 0
  builds_length : c.builds.length = n

/-- Stages other than `running` and `unconfigured` follow each other freely. -/
theorem Sound.settled (hc : c.Sound b n) (hready : c.stage ≠ .unconfigured) (is : List Inspector)
    {stage : Stage} (hstage : stage = .configured ∨ stage = .done) :
    Sound { c with inspectors := is, stage } b n := by
  have hn : n ≠ 0 := fun hn => hready (hc.unconfigured_iff.mpr hn)
  refine ⟨hc.delivers, hc.builder_eq, ?_, ?_, hc.builds_length⟩
  · rcases hstage with rfl | rfl <;> exact nofun
  · rcases hstage with rfl | rfl <;> exact ⟨nofun, fun h => absurd h hn⟩

/-- Once more, the checker has inspectors. -/
theorem Sound.configured (hc : c.Sound b n) (config : Config) (is : List Inspector) :
    Sound (c.configured config is) b (n + 1) :=
  ⟨hc.delivers, hc.builder_eq, nofun, ⟨nofun, nofun⟩, congrArg Nat.succ hc.builds_length⟩

theorem Sound.prepare (hc : c.Sound b n) (h : Host) (s : Session) :
    Sound (c.prepare h s).2.1 b (n + (c.prepare h s).1.isOk.toNat + (c.misnames h s).toNat) := by
  rcases prepare_delivered (hc.builder_eq ▸ hc.delivers) h s with ⟨e, s₁, hp, hnamed⟩ |
    ⟨config, is, e, s₁, hp, hnamed⟩ | ⟨config, is, s₁, hp, hnamed⟩
  all_goals rw [hp, hnamed]
  · exact hc
  · exact hc.configured config is
  · exact hc.configured config is

theorem Sound.ensureReady (hc : c.Sound b n) (h : Host) (s : Session) :
    Sound (c.ensureReady h s).2.1 b
      (n + (c.stage == .unconfigured && (c.prepare h s).1.isOk).toNat +
        (c.stage == .unconfigured && c.misnames h s).toNat) := by
  unfold Checker.ensureReady
  cases hstage : c.stage == .unconfigured with
  | true => simpa using hc.prepare h s
  | false => simpa using hc

theorem readyConfig_snd (c : Checker) (h : Host) (s : Session) :
    (c.readyConfig h s).2 = (c.ensureReady h s).2 := by
  unfold readyConfig
  rcases c.ensureReady h s with ⟨e | _, c₁, s₁⟩ <;> rfl

theorem readyInspectors_snd (c : Checker) (h : Host) (s : Session) :
    (c.readyInspectors h s).2 = (c.ensureReady h s).2 := by
  unfold readyInspectors
  rcases c.ensureReady h s with ⟨e | _, c₁, s₁⟩ <;> rfl

/-- Vetting keeps what holds once the checker is ready. -/
theorem Sound.vet (target : Path) (hc : Sound (c.ensureReady h s).2.1 b n) :
    Sound (c.vet h target s).2.1 b n := by
  rcases hready : c.ensureReady h s with ⟨e | _, c₁, s₁⟩
  · rw [hready] at hc
    rw [vet_of_unready hready]
    exact hc
  · rw [hready] at hc
    rcases hvet : c.vet h target s with ⟨result, c₂, s₂⟩
    cases vet_of_ready hready hvet with
    | missing hfile => exact hc
    | raised hfile hraised => exact hc.settled (stage_of_ensureReady hready) _ (.inl rfl)
    | done hfile hfound => exact hc.settled (stage_of_ensureReady hready) _ (.inr rfl)

/-- Every visit keeps what is known. -/
theorem Sound.next (hc : c.Sound b n) (v : Visit) :
    Sound (c.next v) b (n + (c.configures v).toNat + (c.stumbles v).toNat) := by
  obtain ⟨h, s, request⟩ := v
  cases request with
  | prepare => exact hc.prepare h s
  | vet target => exact Sound.vet target (hc.ensureReady h s)
  | config =>
    have hready := hc.ensureReady h s
    rw [← readyConfig_snd] at hready
    exact hready
  | inspectors =>
    have hready := hc.ensureReady h s
    rw [← readyInspectors_snd] at hready
    exact hready
  | root => exact hc

/-- Every run of visits keeps what is known. -/
theorem Sound.after (hc : c.Sound b n) (vs : List Visit) :
    Sound (c.after vs) b (n + c.configurations vs + c.misnamings vs) := by
  induction vs generalizing c n with
  | nil => exact hc
  | cons v vs ih =>
    have hcount : n + (c.configures v).toNat + (c.stumbles v).toNat +
          (c.next v).configurations vs + (c.next v).misnamings vs =
        n + c.configurations (v :: vs) + c.misnamings (v :: vs) := by
      simp only [configurations, misnamings, tally]
      omega
    exact hcount ▸ ih (hc.next v)

/-- No visit fails for want of names where there are always names. -/
theorem Sound.misnamings_eq_zero (hc : c.Sound b n) (hnames : b.Names) (vs : List Visit) :
    c.misnamings vs = 0 := by
  induction vs generalizing c n with
  | nil => rfl
  | cons v vs ih =>
    have hnamed : c.misnames v.host v.session = false :=
      misnames_of_names (hc.builder_eq ▸ hnames) v.host v.session
    have hrest : tally stumbles (c.next v) vs = 0 := ih (hc.next v)
    simp only [misnamings, tally, stumbles, hnamed, Bool.and_false, Bool.toNat_false, hrest]

/-- A new checker is unconfigured. -/
theorem sound_ofRoot {root : Path} {given : Option Config} {file : Option Path}
    {env : Option Environment} {builder : Builder} (hdelivers : builder.Delivers)
    (hnew : ofRoot h root given file env builder = .ok c) : c.Sound builder 0 := by
  unfold ofRoot at hnew
  cases hroot : h.resolve root with
  | error e =>
    rw [hroot] at hnew
    cases hnew
  | ok top =>
    rw [hroot] at hnew
    cases hnew
    exact ⟨hdelivers, rfl, nofun, ⟨fun _ => rfl, fun _ => rfl⟩, rfl⟩

/-! ## Single visits -/

variable {v : Visit} {e : Failure}

/-- A file that has been vetted leaves the checker done. -/
theorem stage_of_vetted {target : Path} {r : Reply} (hrequest : v.request = .vet target)
    (hreply : c.reply v = .ok r) : (c.next v).stage = .done := by
  obtain ⟨h, s, request⟩ := v
  cases hrequest
  simp only [reply, next, serve, answer] at hreply ⊢
  rcases hready : c.ensureReady h s with ⟨e | _, c₁, s₁⟩
  · rw [vet_of_unready hready] at hreply
    cases hreply
  · rcases hvet : c.vet h target s with ⟨result, c₂, s₂⟩
    rw [hvet] at hreply
    cases vet_of_ready hready hvet with
    | missing hfile => cases hreply
    | raised hfile hraised => cases hreply
    | done hfile hfound => rfl

/-- On this visit a file goes to the inspectors, and one of them fails. -/
def InspectorRaises (c : Checker) (v : Visit) (e : Failure) : Prop :=
  ∃ target c₁ s₁, v.request = .vet target ∧ v.host.isFile target = .ok true ∧
    c.ensureReady v.host v.session = (.ok (), c₁, s₁) ∧
    Raises v.host target c₁.rules e c₁.inspectors s₁

/-- An inspector that fails ends the visit, and the checker is as after a configuration. -/
theorem InspectorRaises.reply (hraises : c.InspectorRaises v e) :
    c.reply v = .error e ∧ (c.next v).stage = .configured := by
  obtain ⟨target, c₁, s₁, hrequest, hfile, hready, hraised⟩ := hraises
  obtain ⟨h, s, request⟩ := v
  cases hrequest
  simp only [Checker.reply, next, serve, answer]
  have herror := inspectAll_error_iff.mpr hraised
  rcases hvet : c.vet h target s with ⟨result, c₂, s₂⟩
  cases vet_of_ready hready hvet with
  | missing hfile' => exact absurd hfile hfile'
  | raised hfile' hraised' =>
    -- Both failures are the one that the inspectors end with.
    rw [inspectAll_error_iff.mpr hraised'] at herror
    cases herror
    exact ⟨rfl, rfl⟩
  | done hfile' hfound =>
    rw [hfound] at herror
    cases herror

/-- A configuration that fails ends the visit. -/
theorem next_of_prepare_error (hprepares : v.request.prepares c.stage = true)
    (hp : c.prepare v.host v.session = (.error e, c₁, s₁)) :
    c.reply v = .error e ∧ c.next v = c₁ := by
  obtain ⟨h, s, request⟩ := v
  have hready : c.stage = .unconfigured → c.ensureReady h s = (.error e, c₁, s₁) := by
    intro hstage
    simpa [ensureReady, hstage] using hp
  cases request with
  | prepare =>
    have hp : c.prepare h s = (.error e, c₁, s₁) := hp
    simp [Checker.reply, next, serve, answer, hp, Except.map]
  | vet target =>
    simp [Checker.reply, next, serve, answer, vet_of_unready (hready (beq_iff_eq.mp hprepares)),
      Except.map]
  | config =>
    simp [Checker.reply, next, serve, answer, readyConfig, hready (beq_iff_eq.mp hprepares),
      Except.map]
  | inspectors =>
    simp [Checker.reply, next, serve, answer, readyInspectors, hready (beq_iff_eq.mp hprepares),
      Except.map]
  | root => cases hprepares

/-- A configuration that fails leaves the checker as it was, or, when the inspectors cannot be named,
as one that succeeds does. -/
theorem next_of_failure (hbuilder : c.builder.Delivers)
    (hprepares : v.request.prepares c.stage = true)
    (hfailed : (c.prepare v.host v.session).1 = .error e) :
    c.reply v = .error e ∧
    (c.stumbles v = false ∧ c.next v = c ∨
      c.stumbles v = true ∧ ∃ config is, c.next v = c.configured config is) := by
  rw [stumbles, hprepares, Bool.true_and]
  rcases prepare_delivered hbuilder v.host v.session with ⟨e', s₁, hp, hnamed⟩ |
    ⟨config, is, e', s₁, hp, hnamed⟩ | ⟨config, is, s₁, hp, hnamed⟩
  all_goals rw [hp] at hfailed; cases hfailed
  · obtain ⟨hreply, hnext⟩ := next_of_prepare_error hprepares hp
    exact ⟨hreply, .inl ⟨hnamed, hnext⟩⟩
  · obtain ⟨hreply, hnext⟩ := next_of_prepare_error hprepares hp
    exact ⟨hreply, .inr ⟨hnamed, config, is, hnext⟩⟩

/-- Once configured, a checker is not configured again unless that is asked for. -/
theorem next_of_ready (hrequest : v.request ≠ .prepare) (hstage : c.stage ≠ .unconfigured) :
    ∃ is stage, c.next v = { c with inspectors := is, stage } := by
  obtain ⟨h, s, request⟩ := v
  have hready : c.ensureReady h s = (.ok (), c, s) := by simp [ensureReady, hstage]
  cases request with
  | prepare => exact absurd rfl hrequest
  | vet target =>
    simp only [next, serve, answer]
    rcases hvet : c.vet h target s with ⟨result, c₂, s₂⟩
    cases vet_of_ready hready hvet with
    | missing hfile => exact ⟨_, _, rfl⟩
    | raised hfile hraised => exact ⟨_, _, rfl⟩
    | done hfile hfound => exact ⟨_, _, rfl⟩
  | config => exact ⟨c.inspectors, c.stage, by simp [next, serve, answer, readyConfig, hready]⟩
  | inspectors =>
    exact ⟨c.inspectors, c.stage, by simp [next, serve, answer, readyInspectors, hready]⟩
  | root => exact ⟨c.inspectors, c.stage, rfl⟩

theorem after_append (c : Checker) (vs : List Visit) (v : Visit) :
    c.after (vs ++ [v]) = (c.after vs).next v :=
  List.foldl_append

/-- The life of a checker whose builder never fails, at every visit `v` after any visits `vs`. A
configuration that fails when the inspectors are to be named counts like one that succeeds: the
checker is configured, and inspectors have been built. Nothing of the kind happens if there are
always names. -/
theorem lifecycle {root : Path} {given : Option Config} {file : Option Path}
    {env : Option Environment} {builder : Builder} (hdelivers : builder.Delivers)
    (hnew : ofRoot h root given file env builder = .ok c) (vs : List Visit) (v : Visit) :
    let before := c.after vs
    let now := before.next v
    let built := c.configurations (vs ++ [v]) + c.misnamings (vs ++ [v])
    now.stage ≠ .running ∧
    (now.stage = .unconfigured ↔ built = 0) ∧
    (before.stage ≠ .unconfigured → now.stage ≠ .unconfigured) ∧
    (∀ target r, v.request = .vet target → before.reply v = .ok r → now.stage = .done) ∧
    (∀ e, before.InspectorRaises v e → before.reply v = .error e ∧ now.stage = .configured) ∧
    (∀ e, v.request.prepares before.stage → (before.prepare v.host v.session).1 = .error e →
      before.reply v = .error e ∧
      (before.stumbles v = false ∧ now = before ∨
        before.stumbles v = true ∧ ∃ config is, now = before.configured config is)) ∧
    now.builds.length = built ∧
    (v.request ≠ .prepare → before.stage ≠ .unconfigured →
      now.builds = before.builds ∧ now.config = before.config) ∧
    (builder.Names → c.misnamings (vs ++ [v]) = 0) := by
  intro before now built
  have hc := sound_ofRoot hdelivers hnew
  have hbefore : Sound before builder (c.configurations vs + c.misnamings vs) := by
    simpa using hc.after vs
  have hnow : Sound now builder built := by
    simpa [after_append] using hc.after (vs ++ [v])
  refine ⟨hnow.not_running, hnow.unconfigured_iff, ?_, fun target r => stage_of_vetted,
    fun e => InspectorRaises.reply, ?_, hnow.builds_length, ?_,
    fun hnames => hc.misnamings_eq_zero hnames _⟩
  · intro hstage hback
    have hcount := (hbefore.next v).unconfigured_iff.mp hback
    exact hstage (hbefore.unconfigured_iff.mpr (by omega))
  · exact fun e => next_of_failure (hbefore.builder_eq ▸ hdelivers)
  · intro hrequest hstage
    obtain ⟨is, stage, hnext⟩ := next_of_ready hrequest hstage
    simp only [now, hnext, and_self]

/-- The checker of a project whose only inspector is always interrupted. -/
def interrupted : Checker where
  root := ⟨.root, []⟩
  given := some {}
  env := some []
  builder := fun _ _ _ s =>
    (.ok [.plugin "Stub" "stub" fun _ _ s => (.error (.raised ⟨.interrupt, ""⟩), s)], s)

/-- A visit to vet `name`, where there is nothing but a file `a`. -/
def visitOf (name : String) : Visit where
  host :=
    { tree := ⟨[(["a"], .file [] false)]⟩
      cwd := []
      environment := []
      homes := []
      bundled := ⟨.root, []⟩
      modules := [] }
  session := {}
  request := .vet ⟨.root, [name]⟩

/-- The first visit finds no file and yet configures the checker; on the second one the inspector
is interrupted. -/
theorem lifecycle_interrupted :
    ((interrupted.after [visitOf "b"]).next (visitOf "a")).stage = .configured ∧
    ((interrupted.after [visitOf "b"]).next (visitOf "a")).builds.length = 1 := by
  have hnew : ofRoot (visitOf "a").host ⟨.root, []⟩ (some {}) none (some []) interrupted.builder =
      .ok interrupted := rfl
  have hdelivers : interrupted.builder.Delivers := by
    rintro h config root s e ⟨⟩
  have hraises : (interrupted.after [visitOf "b"]).InspectorRaises (visitOf "a")
      (.raised ⟨.interrupt, ""⟩) :=
    ⟨_, _, _, rfl, rfl, rfl, .here rfl⟩
  obtain ⟨-, -, -, -, hraised, -, hbuilds, -⟩ :=
    lifecycle hdelivers hnew [visitOf "b"] (visitOf "a")
  exact ⟨(hraised _ hraises).2, hbuilds.trans rfl⟩

/-- The checker of a project whose only inspector calls itself by a number. -/
def numbered : Checker where
  root := ⟨.root, []⟩
  given := some {}
  env := some []
  builder := Builder.handing [.int 5] [.plugin "Stub" "" fun _ _ s => (.ok [], s)]

/-- With a builder that never fails, one visit can break all three of these: the checker is
unconfigured as long as no configuration has succeeded, one that fails leaves the stage alone, and
inspectors are built once for each that has succeeded. -/
theorem not_lifecycle :
    ¬ ∀ (h : Host) (root : Path) (given : Option Config) (file : Option Path)
        (env : Option Environment) (builder : Builder) (c : Checker) (vs : List Visit) (v : Visit)
        (e : Failure), builder.Delivers → ofRoot h root given file env builder = .ok c →
        v.request.prepares (c.after vs).stage →
        ((c.after vs).prepare v.host v.session).1 = .error e →
        (((c.after vs).next v).stage = .unconfigured ↔ c.configurations (vs ++ [v]) = 0) ∨
        ((c.after vs).next v).stage = (c.after vs).stage ∨
        ((c.after vs).next v).builds.length = c.configurations (vs ++ [v]) := by
  intro hall
  have hnumbered := hall (visitOf "a").host ⟨.root, []⟩ (some {}) none (some []) numbered.builder
    numbered [] (visitOf "a") (.nameKind 0 "int") (Builder.delivers_handing _ _) rfl rfl rfl
  rcases hnumbered with hiff | hstage | hbuilds
  · cases hiff.mpr rfl
  · cases hstage
  · cases hbuilds

end Checker

end PerlVet
