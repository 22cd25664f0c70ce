import PerlVet.Config.Load
import PerlVet.Proofs.RuleForms

/-!
The setting that environments override. An environment can ask for the usual directories to be left
out (`asksReplacement`). To apply it sets one flag of the configuration if it does so, and leaves
all else alone (`Config.override_eq`); after any number of environments the flag is the disjunction
of what it was and of what each of them asks (`Config.overrideAll_eq`). The patterns of a
configuration are read from their texts when it is made (`Config.Produced.compiled`), and they are
not among what changes (`Config.overrideAll_effect`).
-/

namespace PerlVet

/-- The environment asks for the usual directories to be left out. -/
def asksReplacement (env : Environment) : Bool := spellsYes (env.lookup replaceVariable)

namespace Config

variable {c : Config} {env : Environment} {envs : List Environment}

/-! ## Environments -/

/-- The configuration after some environments were applied one after the other. -/
def overrideAll (c : Config) (envs : List Environment) : Config := envs.foldl override c

/-- No environment asks for a change when its turn comes, so that the configuration itself is handed
on all the way, and no copy of it is made. -/
def IsKept : Config → List Environment → Prop
  | _, [] => True
  | c, env :: envs => c.isOverridden env = false ∧ (c.override env).IsKept envs

theorem withReplacement_eq_self_iff {flag : Bool} :
    c.withReplacement flag = c ↔ flag = c.compile.inc.replaceDefaults := by
  constructor
  · intro heq
    exact congrArg (·.compile.inc.replaceDefaults) heq
  · rintro rfl
    rfl

theorem isOverridden_eq (c : Config) (env : Environment) :
    c.isOverridden env = (asksReplacement env && !c.compile.inc.replaceDefaults) := rfl

theorem override_eq (c : Config) (env : Environment) :
    c.override env =
      c.withReplacement (c.compile.inc.replaceDefaults || asksReplacement env) := by
  rw [override, isOverridden_eq]
  cases hflag : c.compile.inc.replaceDefaults with
  | true =>
    rw [Bool.not_true, Bool.and_false, Bool.true_or, if_neg (by decide)]
    exact (withReplacement_eq_self_iff.mpr hflag.symm).symm
  | false =>
    cases asksReplacement env with
    | true => rfl
    | false => exact (withReplacement_eq_self_iff.mpr hflag.symm).symm

theorem overrideAll_eq (c : Config) (envs : List Environment) :
    c.overrideAll envs =
      c.withReplacement (c.compile.inc.replaceDefaults || envs.any asksReplacement) := by
  unfold overrideAll
  induction envs generalizing c with
  | nil =>
    rw [List.any_nil, Bool.or_false]
    rfl
  | cons env envs ih =>
    rw [List.foldl_cons, ih, override_eq, List.any_cons, ← Bool.or_assoc]
    rfl

theorem overrideAll_eq_self_iff :
    c.overrideAll envs = c ↔
      c.compile.inc.replaceDefaults = true ∨ ∀ env ∈ envs, asksReplacement env = false := by
  rw [overrideAll_eq, withReplacement_eq_self_iff]
  cases c.compile.inc.replaceDefaults <;> simp

theorem isKept_iff : c.IsKept envs ↔
    c.compile.inc.replaceDefaults = true ∨ ∀ env ∈ envs, asksReplacement env = false := by
  induction envs generalizing c with
  | nil => simp [IsKept]
  | cons env envs ih =>
    rw [IsKept, ih, override_eq, isOverridden_eq, withReplacement, List.forall_mem_cons]
    cases c.compile.inc.replaceDefaults <;> cases asksReplacement env <;> simp

/-! ## Patterns -/

/-- The patterns are those which the texts write, in order. -/
def Compiled (c : Config.Compile) : Prop := c.skip.map Pattern.parse = c.patterns.map .ok

theorem map_map_eq_ok_iff {α β : Type} {x : Except Failure (Checked α)} {f : α → β} {b : β} :
    (x.map fun a => a.map f) = .ok (.ok b) ↔ ∃ a, x = .ok (.ok a) ∧ f a = b := by
  rcases x with e | issues | a <;> simp [Except.map]

theorem map_parse_of_readPatterns {sources : List String} {ps : List Pattern}
    (hread : readPatterns sources = .ok (.ok ps)) : sources.map Pattern.parse = ps.map .ok := by
  induction sources generalizing ps with
  | nil =>
    cases hread
    rfl
  | cons source sources ih =>
    rw [readPatterns] at hread
    split at hread
    · next e _ =>
      -- A text that is no pattern is complained of, or ends the reading.
      rcases Compile.badPattern_cases source e with ⟨reason, hbad⟩ | ⟨hbad, -⟩ <;>
        rw [hbad] at hread <;> cases hread
    · next p hp =>
      obtain ⟨qs, hrest, rfl⟩ := map_map_eq_ok_iff.mp hread
      rw [List.map_cons, List.map_cons, hp, ih hrest]

theorem Compile.compiled_of_ofTable {t : Table SettingLeaf} {c : Config.Compile}
    (hread : Compile.ofTable t = .ok (.ok c)) : Compiled c := by
  rw [Compile.ofTable] at hread
  split at hread
  · cases hread
  · obtain ⟨ps, hpatterns, rfl⟩ := map_map_eq_ok_iff.mp hread
    exact map_parse_of_readPatterns hpatterns

/-- A configuration that is the default, or built from settings, or read from a file. -/
inductive Produced : Config → Prop where
  | default : Produced {}
  | built {h : Host} {source : String} {root : Option Path} {t : Table SettingLeaf}
      {s s' : Session} {c : Config} : build h source root t s = (.ok c, s') → Produced c
  | loaded {h : Host} {path : Path} {s s' : Session} {c : Config} :
    load h path s = (.ok c, s') → Produced c

theorem compiled_of_build {h : Host} {source : String} {root : Option Path}
    {t : Table SettingLeaf} {s s' : Session} (hbuild : build h source root t s = (.ok c, s')) :
    Compiled c.compile := by
  have hcompile := (consists_of_build hbuild).compile
  unfold entry at hcompile
  split at hcompile
  · rw [← Except.ok.inj (Except.ok.inj hcompile)]
    rfl
  · unfold Compile.ofSetting at hcompile
    split at hcompile
    · exact Compile.compiled_of_ofTable hcompile
    · cases hcompile

theorem exists_build_of_load {h : Host} {path : Path} {s s' : Session}
    (hload : load h path s = (.ok c, s')) :
    ∃ root t s₁, build h path.text root t s₁ = (.ok c, s') := by
  unfold load at hload
  split at hload
  · cases hload
  · cases hload
  · split at hload
    · cases hload
    · split at hload
      · cases hload
      · dsimp only at hload
        split at hload
        · cases hload
        · exact ⟨_, _, _, hload⟩

theorem Produced.compiled (hc : Produced c) : Compiled c.compile := by
  cases hc with
  | default => rfl
  | built hbuild => exact compiled_of_build hbuild
  | loaded hload =>
    obtain ⟨root, t, s₁, hbuild⟩ := exists_build_of_load hload
    exact compiled_of_build hbuild

/-! ## The effect of an override -/

/-- What comes of a configuration under some environments, one after the other. -/
structure Overridden (c : Config) (envs : List Environment) (c' : Config) : Prop where
  /-- The flag is or-ed with the answer of each environment, and all else is as it was. -/
  eq : c' = { c with compile := { c.compile with inc := { c.compile.inc with
    replaceDefaults := c.compile.inc.replaceDefaults || envs.any asksReplacement } } }
  /-- The order does not matter. -/
  perm : ∀ envs', envs'.Perm envs → c.overrideAll envs' = c'
  /-- An environment that has been applied can be applied again. -/
  again : ∀ env ∈ envs, c'.override env = c'
  /-- The flag is never turned off. -/
  on : c.compile.inc.replaceDefaults = true → c'.compile.inc.replaceDefaults = true
  libs : c'.compile.inc.libs = c.compile.inc.libs
  skip : c'.compile.skip = c.compile.skip
  perl : c'.compile.perl = c.compile.perl
  args : c'.compile.args = c.compile.args
  rules : c'.custom.rules = c.custom.rules
  /-- The patterns are still those which the texts write, in order. -/
  patterns : c'.compile.skip.map Pattern.parse = c'.compile.patterns.map .ok
  /-- It is the configuration itself, and no copy, if and only if nothing has changed. -/
  kept : c.IsKept envs ↔ c' = c

/-- Environments change one flag of a configuration that was built, read or is the default, and
nothing else. -/
theorem overrideAll_effect (hc : Produced c) (envs : List Environment) :
    Overridden c envs (c.overrideAll envs) where
  eq := overrideAll_eq c envs
  perm envs' hperm := by rw [overrideAll_eq, overrideAll_eq, hperm.any_eq]
  again env henv := by
    rw [override_eq, overrideAll_eq, withReplacement_eq_self_iff]
    cases hasks : asksReplacement env with
    | true =>
      have hany : envs.any asksReplacement = true := List.any_eq_true.mpr ⟨env, henv, hasks⟩
      simp [withReplacement, hany]
    | false => simp
  on hflag := by rw [overrideAll_eq, hflag, Bool.true_or]; rfl
  libs := by rw [overrideAll_eq]; rfl
  skip := by rw [overrideAll_eq]; rfl
  perl := by rw [overrideAll_eq]; rfl
  args := by rw [overrideAll_eq]; rfl
  rules := by rw [overrideAll_eq]; rfl
  patterns := by
    rw [overrideAll_eq]
    exact hc.compiled
  kept := isKept_iff.trans overrideAll_eq_self_iff.symm

/-- Settings with a library directory and two texts of patterns. -/
def suppressing : Table SettingLeaf :=
  [("compile", .table [("inc", .table [("libs", .list [.text "x"])]),
    ("skip", .list [.text "^a", .text "b+"])])]

/-- Environments of which the second one asks for the usual directories to be left out. -/
def insisting : List Environment :=
  [[], [(replaceVariable, " Yes\n")], [(replaceVariable, "0")]]

/-- The flag is set, and the two patterns are still there. -/
theorem overrideAll_effect_suppressing :
    ∃ c s', build oneModule "s" none suppressing {} = (.ok c, s') ∧
      c.compile.inc.replaceDefaults = false ∧
      (c.overrideAll insisting).compile.inc.replaceDefaults = true ∧
      (c.overrideAll insisting).compile.patterns.length = 2 ∧
      Overridden c insisting (c.overrideAll insisting) := by
  obtain ⟨c, s', hbuild, hflag, hskip⟩ : ∃ c s', build oneModule "s" none suppressing {} =
      (.ok c, s') ∧ c.compile.inc.replaceDefaults = false ∧ c.compile.skip = ["^a", "b+"] :=
    ⟨_, _, rfl, rfl, rfl⟩
  have heffect := overrideAll_effect (.built hbuild) insisting
  have hasks : insisting.any asksReplacement = true := by decide
  have hlength := congrArg List.length heffect.patterns
  rw [List.length_map, List.length_map, heffect.skip, hskip] at hlength
  refine ⟨c, s', hbuild, hflag, ?_, hlength.symm, heffect⟩
  rw [heffect.eq, hasks, Bool.or_true]

end Config

end PerlVet
