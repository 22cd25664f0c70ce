import PerlVet.Proofs.Report
import PerlVet.Proofs.Verdict

/-!
Nothing depends on the log. Two sessions are `Alike` if they differ in their logs at most; an
operation ignores the log (`IgnoresLog`) if in alike sessions it has the same result and leaves them
alike. Every operation of a check that is given a session does so, up to `vetFile_ignoresLog`.
-/

namespace PerlVet

/-- The sessions differ in their logs at most. -/
def Session.Alike (s t : Session) : Prop := ∃ log, t = { s with log }

/-- In alike sessions the operation has the same result, and it leaves them alike. -/
def IgnoresLog {α : Type} (op : Session → α × Session) : Prop :=
  ∀ ⦃s t : Session⦄, s.Alike t → ∃ a s' t', op s = (a, s') ∧ op t = (a, t') ∧ s'.Alike t'

/-- The same of an operation that also gives back what it works with. -/
def IgnoresLog₂ {α σ : Type} (op : Session → α × σ × Session) : Prop :=
  ∀ ⦃s t : Session⦄, s.Alike t →
    ∃ a c s' t', op s = (a, c, s') ∧ op t = (a, c, t') ∧ s'.Alike t'

variable {s t : Session}

theorem Session.Alike.note (hst : s.Alike t) (area : Area) (message : String) :
    (s.note area message).Alike (t.note area message) := by
  obtain ⟨log, rfl⟩ := hst
  exact ⟨_, rfl⟩

theorem IgnoresLog.fst_eq {α : Type} {op : Session → α × Session} (hop : IgnoresLog op)
    (hst : s.Alike t) : (op s).1 = (op t).1 := by
  obtain ⟨a, s', t', hs, ht, -⟩ := hop hst
  rw [hs, ht]

/-! ## Settings -/

theorem importWithRoot_ignoresLog (h : Host) (root : Option Path) (name : List String) :
    IgnoresLog (importWithRoot h root name) := by
  rintro s t ⟨log, rfl⟩
  exact ⟨_, _, _, rfl, rfl, log, rfl⟩

theorem findPredicate_ignoresLog (h : Host) (root : Option Path) (reference : String) :
    IgnoresLog (findPredicate h root reference) := by
  intro s t hst
  unfold findPredicate
  dsimp only
  split
  · exact ⟨_, s, t, rfl, rfl, hst⟩
  · split
    · exact ⟨_, s, t, rfl, rfl, hst⟩
    · obtain ⟨result, s', t', hs, ht, log, rfl⟩ := importWithRoot_ignoresLog h root _ hst
      rw [hs, ht]
      cases result <;> exact ⟨_, _, _, rfl, rfl, log, rfl⟩

theorem checkPredicate_ignoresLog (h : Host) (root : Option Path) (v : Setting) :
    IgnoresLog (checkPredicate h root v) := by
  intro s t hst
  unfold checkPredicate
  split
  · next reference =>
    obtain ⟨result, s', t', hs, ht, hst'⟩ := findPredicate_ignoresLog h root reference hst
    rw [hs, ht]
    exact ⟨_, s', t', rfl, rfl, hst'⟩
  · exact ⟨_, s, t, rfl, rfl, hst⟩
  · exact ⟨_, s, t, rfl, rfl, hst⟩

namespace LineRule

theorem ofTable_ignoresLog (h : Host) (root : Option Path) (table : Table SettingLeaf) :
    IgnoresLog (ofTable h root table) := by
  intro s t hst
  unfold ofTable
  cases table.get? "predicate" with
  | none => exact ⟨_, s, t, rfl, rfl, hst⟩
  | some v =>
    obtain ⟨result, s', t', hs, ht, hst'⟩ := checkPredicate_ignoresLog h root v hst
    simp only [hs, ht]
    cases result <;> exact ⟨_, s', t', rfl, rfl, hst'⟩

theorem ofSetting_ignoresLog (h : Host) (root : Option Path) (v : Setting) :
    IgnoresLog (ofSetting h root v) := by
  intro s t hst
  unfold ofSetting
  split
  · exact ofTable_ignoresLog h root _ hst
  · exact ofTable_ignoresLog h root _ hst
  · exact ofTable_ignoresLog h root _ hst
  · exact ⟨_, s, t, rfl, rfl, hst⟩

theorem readAll_ignoresLog (h : Host) (root : Option Path) (vs : List Setting) :
    IgnoresLog (readAll h root vs) := by
  induction vs with
  | nil =>
    intro s t hst
    exact ⟨_, s, t, rfl, rfl, hst⟩
  | cons v vs ih =>
    intro s t hst
    obtain ⟨result, s₁, t₁, hs, ht, hst₁⟩ := ofSetting_ignoresLog h root v hst
    simp only [readAll, hs, ht]
    cases result with
    | error e => exact ⟨_, s₁, t₁, rfl, rfl, hst₁⟩
    | ok c =>
      obtain ⟨results, s₂, t₂, hs₂, ht₂, hst₂⟩ := ih hst₁
      simp only [hs₂, ht₂]
      cases results <;> exact ⟨_, s₂, t₂, rfl, rfl, hst₂⟩

theorem listOfSetting_ignoresLog (h : Host) (root : Option Path) (v : Setting) :
    IgnoresLog (listOfSetting h root v) := by
  intro s t hst
  unfold listOfSetting
  cases ruleEntries v with
  | error issues => exact ⟨_, s, t, rfl, rfl, hst⟩
  | ok entries =>
    obtain ⟨result, s', t', hs, ht, hst'⟩ := readAll_ignoresLog h root entries hst
    simp only [hs, ht]
    cases result <;> exact ⟨_, s', t', rfl, rfl, hst'⟩

end LineRule

namespace Config

theorem Custom.ofTable_ignoresLog (h : Host) (root : Option Path) (table : Table SettingLeaf) :
    IgnoresLog (Custom.ofTable h root table) := by
  intro s t hst
  unfold Custom.ofTable
  cases table.get? "check" with
  | none => exact ⟨_, s, t, rfl, rfl, hst⟩
  | some v =>
    obtain ⟨result, s', t', hs, ht, hst'⟩ := LineRule.listOfSetting_ignoresLog h root v hst
    simp only [hs, ht]
    cases result <;> exact ⟨_, s', t', rfl, rfl, hst'⟩

theorem Custom.ofSetting_ignoresLog (h : Host) (root : Option Path) (v : Setting) :
    IgnoresLog (Custom.ofSetting h root v) := by
  intro s t hst
  unfold Custom.ofSetting
  split
  · exact Custom.ofTable_ignoresLog h root _ hst
  · exact ⟨_, s, t, rfl, rfl, hst⟩

theorem ofTable_ignoresLog (h : Host) (root : Option Path) (table : Table SettingLeaf) :
    IgnoresLog (Config.ofTable h root table) := by
  intro s t hst
  unfold Config.ofTable
  dsimp only
  split
  · exact ⟨_, s, t, rfl, rfl, hst⟩
  · cases table.get? "custom" with
    | none => exact ⟨_, s, t, rfl, rfl, hst⟩
    | some v =>
      obtain ⟨result, s', t', hs, ht, hst'⟩ := Custom.ofSetting_ignoresLog h root v hst
      simp only [hs, ht]
      cases result <;> exact ⟨_, s', t', rfl, rfl, hst'⟩

theorem build_ignoresLog (h : Host) (source : String) (root : Option Path)
    (table : Table SettingLeaf) : IgnoresLog (Config.build h source root table) := by
  intro s t hst
  obtain ⟨result, s', t', hs, ht, hst'⟩ := ofTable_ignoresLog h root table hst
  simp only [Config.build, hs, ht]
  rcases result with e | issues | config
  · exact ⟨_, s', t', rfl, rfl, hst'⟩
  · exact ⟨_, s', t', rfl, rfl, hst'⟩
  · exact ⟨_, s', t', rfl, rfl, hst'⟩

theorem load_ignoresLog (h : Host) (path : Path) : IgnoresLog (Config.load h path) := by
  intro s t hst
  unfold Config.load
  split
  · exact ⟨_, s, t, rfl, rfl, hst⟩
  · exact ⟨_, s, t, rfl, rfl, hst⟩
  · split
    · exact ⟨_, s, t, rfl, rfl, hst⟩
    · split
      · exact ⟨_, s, t, rfl, rfl, hst⟩
      · dsimp only
        have hst' := hst.note .configuration ("loaded configuration from " ++ path.text)
        split
        · exact ⟨_, _, _, rfl, rfl, hst'⟩
        · exact build_ignoresLog h _ _ _ hst'

theorem ofProject_ignoresLog (h : Host) (root : Path) (file : Option Path)
    (env : Option Environment) : IgnoresLog (Config.ofProject h root file env) := by
  intro s t hst
  unfold Config.ofProject
  dsimp only
  split
  · exact ⟨_, s, t, rfl, rfl, hst⟩
  · next path _ =>
    obtain ⟨result, s', t', hs, ht, hst'⟩ := load_ignoresLog h path hst
    rw [hs, ht]
    exact ⟨_, s', t', rfl, rfl, hst'⟩
  · exact ⟨_, s, t, rfl, rfl, hst⟩

end Config

/-! ## Inspections -/

theorem Architecture.find_ignoresLog (h : Host) (perl : String) :
    IgnoresLog (Architecture.find h perl) := by
  rintro s t ⟨log, rfl⟩
  unfold Architecture.find Architecture.findGiven
  cases s.architectures.lookup perl with
  | some name => exact ⟨_, _, _, rfl, rfl, log, rfl⟩
  | none => cases ask h perl <;> exact ⟨_, _, _, rfl, rfl, log, rfl⟩

theorem IncludePath.find_ignoresLog (h : Host) (root : Path) (inc : Config.Include)
    (architecture : String) : IgnoresLog (IncludePath.find h root inc architecture) := by
  intro s t hst
  unfold IncludePath.find
  split
  · exact ⟨_, s, t, rfl, rfl, hst⟩
  · exact ⟨_, _, _, rfl, rfl, hst.note _ _⟩

namespace Compilation

theorem resolve_ignoresLog (c : Compilation) (h : Host) : IgnoresLog (c.resolve h) := by
  intro s t hst
  unfold resolve
  cases c.architecture with
  | some architecture => exact IncludePath.find_ignoresLog h c.root c.config.inc architecture hst
  | none =>
    obtain ⟨result, s', t', hs, ht, hst'⟩ := Architecture.find_ignoresLog h c.config.perl hst
    simp only [hs, ht]
    cases result with
    | error e => exact ⟨_, s', t', rfl, rfl, hst'⟩
    | ok architecture =>
      exact IncludePath.find_ignoresLog h c.root c.config.inc architecture hst'

theorem includePath_ignoresLog (c : Compilation) (h : Host) : IgnoresLog₂ (c.includePath h) := by
  intro s t hst
  unfold includePath
  cases c.resolved with
  | some paths => exact ⟨_, c, s, t, rfl, rfl, hst⟩
  | none =>
    obtain ⟨result, s', t', hs, ht, hst'⟩ := c.resolve_ignoresLog h hst
    simp only [hs, ht]
    cases result with
    | error e => exact ⟨_, c, s', t', rfl, rfl, hst'⟩
    | ok paths => exact ⟨_, _, s', t', rfl, rfl, hst'⟩

theorem commandFor_ignoresLog (c : Compilation) (h : Host) (target : Path) :
    IgnoresLog₂ (c.commandFor h target) := by
  intro s t hst
  obtain ⟨result, c', s', t', hs, ht, hst'⟩ := c.includePath_ignoresLog h hst
  simp only [commandFor, hs, ht]
  cases result <;> exact ⟨_, c', s', t', rfl, rfl, hst'⟩

theorem compileWith_ignoresLog (c : Compilation) (h : Host) (command : Command) :
    IgnoresLog (c.compileWith h command) := by
  rintro s t ⟨log, rfl⟩
  unfold compileWith
  dsimp only
  split
  · exact ⟨_, _, _, rfl, rfl, _, rfl⟩
  · exact ⟨_, _, _, rfl, rfl, _, rfl⟩

theorem inspect_ignoresLog (c : Compilation) (h : Host) (target : Path) :
    IgnoresLog₂ (c.inspect h target) := by
  intro s t hst
  unfold inspect
  split
  · exact ⟨_, c, s, t, rfl, rfl, hst⟩
  · split
    · exact ⟨_, c, _, _, rfl, rfl, hst.note _ _⟩
    · obtain ⟨result, c', s', t', hs, ht, hst'⟩ := c.commandFor_ignoresLog h target hst
      simp only [hs, ht]
      cases result with
      | error e => exact ⟨_, c', s', t', rfl, rfl, hst'⟩
      | ok command =>
        obtain ⟨result, s₂, t₂, hs₂, ht₂, hst₂⟩ := c'.compileWith_ignoresLog h command hst'
        simp only [hs₂, ht₂]
        exact ⟨_, c', s₂, t₂, rfl, rfl, hst₂⟩

end Compilation

theorem LineScan.inspect_ignoresLog (config : Config.Custom) (h : Host) (target : Path) :
    IgnoresLog (LineScan.inspect config h target) := by
  intro s t hst
  unfold LineScan.inspect
  split
  · exact ⟨_, s, t, rfl, rfl, hst⟩
  · split
    · exact ⟨_, s, t, rfl, rfl, hst⟩
    · split
      · exact ⟨_, s, t, rfl, rfl, hst⟩
      · exact ⟨_, _, _, rfl, rfl, hst.note _ _⟩

theorem SkipRules.noteHidden_alike (rules : SkipRules) (ds : List Diagnostic) (hst : s.Alike t) :
    (rules.noteHidden ds s).Alike (rules.noteHidden ds t) := by
  unfold noteHidden
  induction ds.filter rules.hides generalizing s t with
  | nil => exact hst
  | cons d ds ih => exact ih (hst.note _ _)

theorem Inspector.standard_ignoresLog {runner : Runner} {architecture : Option String}
    {config : Config} {root : Path} (h : Host) (target : Path) :
    ∀ i ∈ standard runner architecture config root, IgnoresLog₂ (i.inspect h target) := by
  intro i hi s t hst
  simp only [standard, List.mem_cons, List.not_mem_nil, or_false] at hi
  rcases hi with rfl | rfl
  · obtain ⟨result, c', s', t', hs, ht, hst'⟩ := Compilation.inspect_ignoresLog
      { config := config.compile, root, runner, architecture } h target hst
    simp only [inspect, hs, ht]
    exact ⟨_, _, s', t', rfl, rfl, hst'⟩
  · obtain ⟨result, s', t', hs, ht, hst'⟩ :=
      LineScan.inspect_ignoresLog config.custom h target hst
    simp only [inspect, hs, ht]
    exact ⟨_, _, s', t', rfl, rfl, hst'⟩

/-! ## Checkers -/

namespace Checker

variable {c : Checker}

theorem chooseConfig_ignoresLog (c : Checker) (h : Host) : IgnoresLog (c.chooseConfig h) := by
  intro s t hst
  unfold chooseConfig
  cases c.given with
  | some config => exact ⟨_, s, t, rfl, rfl, hst⟩
  | none => exact Config.ofProject_ignoresLog h c.root c.file c.env hst

theorem inspectAll_ignoresLog {h : Host} {target : Path} (rules : SkipRules) {is : List Inspector}
    (his : ∀ i ∈ is, IgnoresLog₂ (i.inspect h target)) :
    IgnoresLog₂ (inspectAll h target rules is) := by
  induction is with
  | nil =>
    intro s t hst
    exact ⟨_, _, s, t, rfl, rfl, hst⟩
  | cons i is ih =>
    intro s t hst
    obtain ⟨result, i', s₁, t₁, hs, ht, hst₁⟩ := his i List.mem_cons_self hst
    simp only [inspectAll, hs, ht]
    cases result with
    | error e => exact ⟨_, _, s₁, t₁, rfl, rfl, hst₁⟩
    | ok ds =>
      obtain ⟨rest, is', s₂, t₂, hs₂, ht₂, hst₂⟩ :=
        ih (fun j hj => his j (List.mem_cons_of_mem i hj)) (rules.noteHidden_alike ds hst₁)
      simp only [hs₂, ht₂]
      cases rest <;> exact ⟨_, _, s₂, t₂, rfl, rfl, hst₂⟩

theorem prepare_ignoresLog (c : Checker) (h : Host)
    (hbuilder : ∀ config root, IgnoresLog (c.builder h config root)) :
    IgnoresLog₂ (c.prepare h) := by
  intro s t hst
  obtain ⟨result, s₁, t₁, hs, ht, hst₁⟩ := c.chooseConfig_ignoresLog h hst
  simp only [prepare, hs, ht]
  cases result with
  | error e => exact ⟨_, c, s₁, t₁, rfl, rfl, hst₁⟩
  | ok config =>
    obtain ⟨built, s₂, t₂, hs₂, ht₂, hst₂⟩ := hbuilder config c.root hst₁
    simp only [hs₂, ht₂]
    rcases built with (e | ⟨is, e⟩) | is
    · exact ⟨_, _, s₂, t₂, rfl, rfl, hst₂⟩
    · exact ⟨_, _, s₂, t₂, rfl, rfl, hst₂⟩
    · exact ⟨_, _, _, _, rfl, rfl, hst₂.note _ _⟩

/-- A new checker with the standard inspectors does not look at the log. -/
theorem vet_ignoresLog {runner : Runner} {architecture : Option String}
    (hbuilder : c.builder = Builder.standard runner architecture)
    (hstage : c.stage = .unconfigured) (h : Host) (target : Path) :
    IgnoresLog₂ (c.vet h target) := by
  intro s t hst
  have hbuild : ∀ config root, IgnoresLog (c.builder h config root) := by
    rw [hbuilder]
    exact fun config root s t hst => ⟨_, s, t, rfl, rfl, hst⟩
  obtain ⟨result, c', s₁, t₁, hs, ht, hst₁⟩ := c.prepare_ignoresLog h hbuild hst
  simp only [vet, ensureReady, hstage, beq_self_eq_true, if_true, hs, ht]
  cases result with
  | error e => exact ⟨_, c', s₁, t₁, rfl, rfl, hst₁⟩
  | ok _ =>
    dsimp only
    split
    · exact ⟨_, c', s₁, t₁, rfl, rfl, hst₁⟩
    · exact ⟨_, c', s₁, t₁, rfl, rfl, hst₁⟩
    · have his : ∀ i ∈ c'.inspectors, IgnoresLog₂ (i.inspect h target) := by
        obtain ⟨config, s₂, s₃, -, hconfigured, hbuilt⟩ := configured_of_prepare hs
        rw [hbuilder] at hbuilt
        rw [← Except.ok.inj (congrArg Prod.fst hbuilt)]
        exact Inspector.standard_ignoresLog h target
      obtain ⟨result, is', s₂, t₂, hs₂, ht₂, hst₂⟩ := inspectAll_ignoresLog c'.rules his hst₁
      simp only [hs₂, ht₂]
      cases result with
      | error e => exact ⟨_, _, s₂, t₂, rfl, rfl, hst₂⟩
      | ok ds => exact ⟨_, _, _, _, rfl, rfl, hst₂.note _ _⟩

end Checker

/-- Whatever has been logged before, the answer for a file is the same. -/
theorem vetFile_ignoresLog (h : Host) (target : Path) (root : Option Path) (given : Option Config)
    (file : Option Path) (env : Option Environment) :
    IgnoresLog (vetFile h target root given file env) := by
  intro s t hst
  unfold vetFile
  dsimp only
  split
  · exact ⟨_, s, t, rfl, rfl, hst⟩
  · split
    · exact ⟨_, s, t, rfl, rfl, hst⟩
    · next c hnew =>
      obtain ⟨root', -, rfl⟩ := Output.map_ok hnew
      obtain ⟨result, c', s', t', hs, ht, hst'⟩ := Checker.vet_ignoresLog
        (c := { root := root', given, file, env }) rfl rfl h target hst
      simp only [hs, ht]
      exact ⟨_, s', t', rfl, rfl, hst'⟩

end PerlVet
