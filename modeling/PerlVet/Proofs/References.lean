import PerlVet.Proofs.ConfigFile
import PerlVet.Proofs.Text
import PerlVet.Proofs.Traversal

/-!
References to predicates, and what comes of them in a configuration. A reference has two names
(`Reference.Names`). Among modules that raise no errors (`Host.Quiet`) an import fails only for want
of a module, so that a reference is found to be a predicate or refused
(`findPredicate_of_not_isRelative`). The exception is a module name that starts with a dot
(`IsRelative`), which is neither. Lists of references are resolved one after the other (`Resolves`);
those that are refused become complaints at their places, and a name that starts with a dot ends the
reading (`Config.build_references`).
-/

namespace PerlVet

/-! ## The two names of a reference -/

namespace Reference

/-- The two names of a reference stand before and behind its first colon, or without one its last
dot. -/
inductive Names (text : List Char) : Reference → Prop where
  | colon {home member : List Char} : ':' ∉ home → text = home ++ ':' :: member →
    Names text ⟨home, member⟩
  | dot {home member : List Char} : ':' ∉ text → '.' ∉ member → text = home ++ '.' :: member →
    Names text ⟨home, member⟩

theorem split_colon {home : List Char} (hhome : ':' ∉ home) (member : List Char) :
    split (home ++ ':' :: member) = ⟨home, member⟩ := by
  have hdrop : (home ++ ':' :: member).drop (home.length + 1) = member := by
    rw [← List.drop_drop, List.drop_left]
    rfl
  rw [split, if_pos (by simp)]
  simp only [(Text.run_append_cons hhome member).takeWhile_eq, hdrop]

theorem split_dot {home member : List Char} (hcolon : ':' ∉ home ++ '.' :: member)
    (hmember : '.' ∉ member) : split (home ++ '.' :: member) = ⟨home, member⟩ := by
  have hreverse : (home ++ '.' :: member).reverse = member.reverse ++ '.' :: home.reverse := by
    simp
  have htake : ((home ++ '.' :: member).reverse.takeWhile (· != '.')).reverse = member := by
    rw [hreverse, (Text.run_append_cons (mt List.mem_reverse.mp hmember) _).takeWhile_eq,
      List.reverse_reverse]
  have hlength : (home ++ '.' :: member).length - member.length - 1 = home.length := by
    simp only [List.length_append, List.length_cons]
    omega
  rw [split, if_neg (by simpa using hcolon)]
  simp only [htake, hlength, List.take_left]

/-- A text without a separator has no first name. -/
theorem split_bare {text : List Char} (hcolon : ':' ∉ text) (hdot : '.' ∉ text) :
    split text = ⟨[], text⟩ := by
  have htake : (text.reverse.takeWhile (· != '.')).reverse = text := by
    rw [(Text.run_of_not_mem (mt List.mem_reverse.mp hdot)).takeWhile_eq, List.reverse_reverse]
  rw [split, if_neg (by simpa using hcolon)]
  simp only [htake, Nat.sub_self, Nat.zero_sub, List.take_zero]

theorem Names.split_eq {text : List Char} {r : Reference} (h : Names text r) :
    split text = r := by
  cases h with
  | colon hhome htext =>
    rw [htext]
    exact split_colon hhome _
  | dot hcolon hmember htext =>
    rw [htext] at hcolon ⊢
    exact split_dot hcolon hmember

/-- A text is taken apart at a separator, unless it has none. -/
theorem names_or_bare (text : List Char) :
    Names text (split text) ∨ split text = ⟨[], text⟩ := by
  by_cases hcolon : ':' ∈ text
  · obtain ⟨home, member, htext, hhome⟩ := List.eq_append_cons_of_mem hcolon
    have hnames : Names text ⟨home, member⟩ := .colon hhome htext
    exact .inl (hnames.split_eq ▸ hnames)
  · by_cases hdot : '.' ∈ text.reverse
    · obtain ⟨member, home, htext, hmember⟩ := List.eq_append_cons_of_mem hdot
      have hnames : Names text ⟨home.reverse, member.reverse⟩ := by
        refine .dot hcolon (mt List.mem_reverse.mp hmember) ?_
        rw [← List.reverse_reverse text, htext]
        simp
      exact .inl (hnames.split_eq ▸ hnames)
    · exact .inr (split_bare hcolon (mt List.mem_reverse.mpr hdot))

end Reference

/-! ## Importing quiet modules -/

/-- The import failed since there is no such module, and not by an error of a module. -/
def ImportFailure.isAbsence : ImportFailure → Bool
  | .raised _ => false
  | _ => true

namespace Host

variable {h : Host}

/-- No module raises an error when it is imported. -/
def Quiet (h : Host) : Prop := ∀ m ∈ h.modules, m.raises = none

theorem Quiet.moduleAt? (hquiet : h.Quiet) {p : Place} {m : Module} (hm : h.moduleAt? p = some m) :
    m.raises = none := by
  unfold Host.moduleAt? at hm
  split at hm
  · next hfound =>
    cases hm
    exact hquiet m (List.mem_reverse.mp (List.mem_of_find?_eq_some hfound))
  · split at hm
    · cases hm
      rfl
    · cases hm

theorem Quiet.findIn (hquiet : h.Quiet) {dir : Place} {name : String} {m : Module}
    (hm : h.findIn dir name = some (.leaf m)) : m.raises = none := by
  unfold Host.findIn at hm
  dsimp only at hm
  split at hm
  · split at hm
    · cases hm
    · split at hm
      · next hfound =>
        cases hm
        exact hquiet.moduleAt? hfound
      · cases hm
  · obtain ⟨m', hfound, hleaf⟩ := Option.map_eq_some_iff.mp hm
    cases hleaf
    exact hquiet.moduleAt? hfound

theorem Quiet.findFirst (hquiet : h.Quiet) {name : String} {portions dirs : List Place} {m : Module}
    (hm : (h.findFirst name portions dirs).1 = some (.leaf m)) : m.raises = none := by
  fun_induction Host.findFirst h name portions dirs with
  | case1 => cases hm
  | case2 portions dir dirs p hportion ih => exact ih hm
  | case3 portions dir dirs found hnot hfound =>
    cases hm
    exact hquiet.findIn hfound
  | case4 portions dir dirs hnone ih => exact ih hm

theorem Quiet.load (hquiet : h.Quiet) {name : List String} {dirs : List Place} {imports : Imports}
    {e : ImportFailure} (he : (h.load name dirs imports).1 = .error e) : e.isAbsence = true := by
  unfold Host.load at he
  split at he
  · next m hfound =>
    split at he
    · next r hraises =>
      rw [hquiet.findFirst (congrArg Prod.fst hfound)] at hraises
      cases hraises
    · cases he
  · cases he
  · cases he
  · cases he
  · cases he
    rfl

theorem Quiet.importBelow (hquiet : h.Quiet) {name : List String} {parent : Imported}
    {parts : List String} {imports : Imports} {e : ImportFailure}
    (he : (h.importBelow name parent parts imports).1 = .error e) : e.isAbsence = true := by
  fun_induction Host.importBelow h name parent parts imports with
  | case1 => cases he
  | case2 name parent imports part parts full i hknown ih => exact ih he
  | case3 =>
    cases he
    rfl
  | case4 name imports part parts full hnew dirs ownFile i imports' hload ih => exact ih he
  | case5 name imports part parts full hnew dirs ownFile e' imports' hload =>
    cases he
    exact hquiet.load (congrArg Prod.fst hload)

theorem Quiet.importModule (hquiet : h.Quiet) {modulePath name : List String} {imports : Imports}
    {e : ImportFailure} (he : (h.importModule modulePath imports name).1 = .error e) :
    e.isAbsence = true := by
  unfold Host.importModule at he
  split at he
  · cases he
    rfl
  · split at he
    · exact hquiet.importBelow he
    · split at he
      · exact hquiet.importBelow he
      · next hload =>
        cases he
        exact hquiet.load (congrArg Prod.fst hload)

end Host

/-! ## Single references -/

variable {h : Host} {root : Option Path} {reference name : String} {s : Session}

/-- The reference names something of the module `name`, which starts with a dot. -/
def IsRelative (reference name : String) : Prop :=
  ∃ member, member ≠ [] ∧ name.toList.head? = some '.' ∧
    Reference.Names (Text.trim reference.toList) ⟨name.toList, member⟩

theorem findPredicate_of_isRelative (hrelative : IsRelative reference name) :
    findPredicate h root reference s = (.error (.relativeModule name), s) := by
  obtain ⟨member, hmember, hdot, hnames⟩ := hrelative
  have hhome : name.toList ≠ [] := by
    intro hnil
    rw [hnil] at hdot
    cases hdot
  simp [findPredicate, hnames.split_eq, hhome, hmember, hdot]

/-- The module of a reference is imported and its attribute picked. -/
theorem findPredicate_of_names {r : Reference}
    (hnames : Reference.Names (Text.trim reference.toList) r) (hhome : r.home ≠ [])
    (hmember : r.member ≠ []) (hdot : r.home.head? ≠ some '.') :
    findPredicate h root reference s =
      let home := components r.home
      match importWithRoot h root home s with
      | (.error e, s) => (.error (importRefused reference r.home e), s)
      | (.ok i, s) => (pick reference s.imports home i (components r.member), s) := by
  rw [findPredicate, hnames.split_eq]
  exact (if_neg (by simp [hhome, hmember])).trans (if_neg (by simpa using hdot))

/-- A reference is refused as it is, or it has two names, the first of which may start with a
dot. -/
theorem findPredicate_cases (h : Host) (root : Option Path) (reference : String) (s : Session) :
    (∃ reason, findPredicate h root reference s = (.error (.refused reason), s)) ∨
    (∃ name, IsRelative reference name) ∨
    ∃ r, Reference.Names (Text.trim reference.toList) r ∧ r.home ≠ [] ∧ r.member ≠ [] ∧
      r.home.head? ≠ some '.' := by
  have hsplit := Reference.names_or_bare (Text.trim reference.toList)
  generalize hr : Reference.split (Text.trim reference.toList) = r at hsplit
  by_cases hempty : r.home = [] ∨ r.member = []
  · exact .inl ⟨_, by rw [findPredicate, hr, if_pos (by simpa using hempty)]⟩
  · obtain ⟨hhome, hmember⟩ := not_or.mp hempty
    have hnames := hsplit.resolve_right fun hbare => hhome (by rw [hbare])
    by_cases hdot : r.home.head? = some '.'
    · exact .inr (.inl ⟨String.ofList r.home, r.member, hmember, by simpa using hdot,
        by simpa using hnames⟩)
    · exact .inr (.inr ⟨r, hnames, hhome, hmember, hdot⟩)

theorem importRefused_of_isAbsence {e : ImportFailure} (he : e.isAbsence = true)
    (home : List Char) : ∃ reason, importRefused reference home e = .refused reason := by
  cases e with
  | missing name => exact ⟨_, rfl⟩
  | notPackage name parent => exact ⟨_, rfl⟩
  | raised r => cases he

theorem pick_cases (imports : Imports) (home : List String) (i : Imported) (member : List String) :
    (∃ p, pick reference imports home i member = .ok p) ∨
    ∃ reason, pick reference imports home i member = .error (.refused reason) := by
  unfold pick
  split
  · exact .inr ⟨_, rfl⟩
  · exact .inl ⟨_, rfl⟩
  · exact .inr ⟨_, rfl⟩

/-- Among quiet modules, a reference that does not start with a dot is resolved or refused. -/
theorem findPredicate_of_not_isRelative (hquiet : h.Quiet)
    (hrelative : ¬∃ name, IsRelative reference name) :
    (∃ p, (findPredicate h root reference s).1 = .ok p) ∨
    ∃ reason, (findPredicate h root reference s).1 = .error (.refused reason) := by
  rcases findPredicate_cases h root reference s with ⟨reason, hfind⟩ | hname |
    ⟨r, hnames, hhome, hmember, hdot⟩
  · exact .inr ⟨reason, by rw [hfind]⟩
  · exact absurd hname hrelative
  · rw [findPredicate_of_names hnames hhome hmember hdot]
    dsimp only
    split
    · next e s' himport =>
      have habsence : e.isAbsence = true := hquiet.importModule (congrArg Prod.fst himport)
      exact .inr (by simpa using importRefused_of_isAbsence habsence r.home)
    · exact pick_cases _ _ _ _

/-! ## Lists of references -/

namespace Checked

variable {α β γ : Type}

/-- Everything that is wrong with a value. -/
def issues : Checked α → List Issue
  | .ok _ => []
  | .error issues => issues

theorem issues_both (f : α → β → γ) (a : Checked α) (b : Checked β) :
    (both f a b).issues = a.issues ++ b.issues := by
  cases a <;> cases b <;> simp [both, issues]

theorem issues_under (k : Key) (a : Checked α) :
    (a.under k).issues = a.issues.map fun i => { i with loc := k :: i.loc } := by
  cases a <;> rfl

theorem itemsFrom_eq_ok {n : Nat} {as : List (Checked α)} {xs : List α}
    (h : itemsFrom n as = .ok xs) : as = xs.map .ok := by
  induction as generalizing n xs with
  | nil =>
    cases h
    rfl
  | cons a as ih =>
    obtain ⟨x, rest, ha, hrest, rfl⟩ := both_eq_ok_iff.mp h
    rw [under_eq_ok_iff.mp ha, ih hrest]
    rfl

/-- What is wrong with an item is placed below its index. -/
theorem mem_issues_itemsFrom {n k : Nat} {as : List (Checked α)} {a : Checked α} {i : Issue}
    (ha : as[k]? = some a) (hi : i ∈ a.issues) :
    { i with loc := .index (n + k) :: i.loc } ∈ (itemsFrom n as).issues := by
  induction as generalizing n k with
  | nil => cases ha
  | cons first as ih =>
    rw [itemsFrom, issues_both, issues_under, List.mem_append]
    cases k with
    | zero =>
      cases ha
      exact .inl (List.mem_map_of_mem hi)
    | succ k =>
      refine .inr ?_
      rw [Nat.add_comm k 1, ← Nat.add_assoc]
      exact ih ha

end Checked

/-- References are resolved one after the other: each is found to be a predicate, or refused for a
reason. -/
inductive Resolves (h : Host) (root : Option Path) :
    Session → List String → List (Except String Predicate) → Session → Prop where
  | nil (s : Session) : Resolves h root s [] [] s
  | found {s s₁ s₂ : Session} {reference : String} {references : List String} {p : Predicate}
      {answers : List (Except String Predicate)} :
    findPredicate h root reference s = (.ok p, s₁) → Resolves h root s₁ references answers s₂ →
    Resolves h root s (reference :: references) (.ok p :: answers) s₂
  | refused {s s₁ s₂ : Session} {reference : String} {references : List String} {reason : String}
      {answers : List (Except String Predicate)} :
    findPredicate h root reference s = (.error (.refused reason), s₁) →
    Resolves h root s₁ references answers s₂ →
    Resolves h root s (reference :: references) (.error reason :: answers) s₂

/-- The rule for an answer to a reference. -/
def ruleFor : Except String Predicate → Checked LineRule
  | .ok p => .ok { predicate := p }
  | .error reason => .error [⟨[.field "predicate"], .refused reason⟩]

theorem eq_map_of_map_ruleFor {answers : List (Except String Predicate)} {rules : List LineRule}
    (h : answers.map ruleFor = rules.map .ok) :
    answers = rules.map fun rule => .ok rule.predicate := by
  induction answers generalizing rules with
  | nil =>
    cases rules with
    | nil => rfl
    | cons => cases h
  | cons a answers ih =>
    cases rules with
    | nil => cases h
    | cons rule rules =>
      obtain ⟨hfirst, hrest⟩ := List.cons.inj h
      rw [List.map_cons, ← ih hrest]
      cases a with
      | error reason => cases hfirst
      | ok p =>
        cases hfirst
        rfl

/-- Among quiet modules, references that do not start with a dot are resolved or refused. -/
theorem exists_resolves (hquiet : h.Quiet) (root : Option Path) {references : List String}
    (hrelative : ∀ r ∈ references, ¬∃ name, IsRelative r name) (s : Session) :
    ∃ answers s', Resolves h root s references answers s' := by
  induction references generalizing s with
  | nil => exact ⟨[], s, .nil s⟩
  | cons r references ih =>
    rw [List.forall_mem_cons] at hrelative
    obtain ⟨answers, s', hrest⟩ := ih hrelative.2 (findPredicate h root r s).2
    rcases findPredicate_of_not_isRelative hquiet hrelative.1 with ⟨p, hfound⟩ | ⟨reason, hrefused⟩
    · exact ⟨_, s', .found (Prod.ext hfound rfl) hrest⟩
    · exact ⟨_, s', .refused (Prod.ext hrefused rfl) hrest⟩

namespace LineRule

variable {s₁ s₂ : Session} {references : List String} {answers : List (Except String Predicate)}

/-- A reference alone is a rule for all files. -/
theorem ofSetting_text (reference : String) (s : Session) :
    ofSetting h root (.text reference) s =
      ((Checked.ofResult (findPredicate h root reference s).1).map fun p =>
        Checked.both mk (p.under (.field "predicate")) (.ok []),
        (findPredicate h root reference s).2) := by
  have hget : Table.get? [("predicate", .text reference)] "predicate" =
      some (.text reference : Setting) := rfl
  have hfiles : optionalField [("predicate", .text reference)] "files" [] (checkTuple checkText) =
      .ok [] := rfl
  have hkeys : noOtherKeys ["predicate", "files"] [("predicate", .text reference)] = .ok () := rfl
  simp only [ofSetting, ofTable, hget, hfiles, hkeys, checkPredicate]
  cases Checked.ofResult (findPredicate h root reference s).1 with
  | error e => rfl
  | ok p => cases p <;> rfl

/-- Resolved references are read as rules, one for each of them. -/
theorem readAll_of_resolves (hresolves : Resolves h root s references answers s₁) :
    readAll h root (references.map .text) s = (.ok (answers.map ruleFor), s₁) := by
  induction hresolves with
  | nil s => rfl
  | found hfind _ ih =>
    rw [List.map_cons, readAll, ofSetting_text, hfind]
    simp only [Checked.ofResult, Except.map, ih]
    rfl
  | refused hfind _ ih =>
    rw [List.map_cons, readAll, ofSetting_text, hfind]
    simp only [Checked.ofResult, Failure.complaint?, Except.map, ih]
    rfl

/-- A reference that starts with a dot ends the reading. -/
theorem readAll_of_isRelative (hresolves : Resolves h root s references answers s₁)
    (hrelative : IsRelative reference name) (rest : List String) :
    readAll h root ((references ++ reference :: rest).map .text) s =
      (.error (.relativeModule name), s₁) := by
  induction hresolves with
  | nil s =>
    rw [List.nil_append, List.map_cons, readAll, ofSetting_text,
      findPredicate_of_isRelative hrelative]
    rfl
  | found hfind _ ih =>
    rw [List.cons_append, List.map_cons, readAll, ofSetting_text, hfind]
    simp only [Checked.ofResult, Except.map, ih]
  | refused hfind _ ih =>
    rw [List.cons_append, List.map_cons, readAll, ofSetting_text, hfind]
    simp only [Checked.ofResult, Failure.complaint?, Except.map, ih]

end LineRule

/-! ## Configurations -/

namespace Config

variable {t u : Table SettingLeaf} {references : List String}

/-- Reading the settings of the interpreter in a table does not end the reading. -/
def Readable (t : Table SettingLeaf) : Prop :=
  ∀ v, t.get? "compile" = some v → ∃ compile, Compile.ofSetting v = .ok compile

/-- The line predicates are read as the rules are, with complaints of further keys. -/
theorem Custom.ofSetting_of_rules {v : Setting} (hcheck : u.get? "check" = some v)
    {rules : Except Failure (Checked (List LineRule))} {s' : Session}
    (hrules : LineRule.listOfSetting h root v s = (rules, s')) :
    Custom.ofSetting h root (.table u) s =
      (rules.map fun rules => Checked.both (fun c _ => Config.Custom.mk c)
        (rules.under (.field "check")) (noOtherKeys ["check"] u), s') := by
  simp only [Custom.ofSetting, Custom.ofTable, hcheck, hrules]
  cases rules <;> rfl

/-- A table is read as its two parts are, with complaints of further keys. -/
theorem ofTable_of_custom (hcompile : Readable t) {v : Setting} (hv : t.get? "custom" = some v)
    {custom : Except Failure (Checked Config.Custom)} {s' : Session}
    (hcustom : Custom.ofSetting h root v s = (custom, s')) :
    ∃ compile : Checked Config.Compile, ofTable h root t s =
      (custom.map fun custom => Checked.both (fun c _ => c)
        (Checked.both Config.mk (compile.under (.field "compile")) (custom.under (.field "custom")))
        (noOtherKeys ["compile", "custom"] t), s') := by
  cases hget : t.get? "compile" with
  | none =>
    refine ⟨.ok {}, ?_⟩
    simp only [ofTable, hget, hv, hcustom]
    cases custom <;> rfl
  | some w =>
    obtain ⟨compile, hread⟩ := hcompile w hget
    refine ⟨compile, ?_⟩
    simp only [ofTable, hget, hread, hv, hcustom]
    cases custom <;> rfl

/-- If the line predicates can be read, then so can the table, or it is refused for all that is
wrong with them, among others. -/
theorem build_of_custom (hcompile : Readable t) {v : Setting} (hv : t.get? "custom" = some v)
    {custom : Checked Config.Custom} {s' : Session}
    (hcustom : Custom.ofSetting h root v s = (.ok custom, s')) (source : String) :
    (∃ c, (build h source root t s).1 = .ok c ∧ custom = .ok c.custom) ∨
    ∃ issues, (build h source root t s).1 = .error (.configInvalid source issues) ∧
      ∀ i ∈ custom.issues, { i with loc := .field "custom" :: i.loc } ∈ issues := by
  obtain ⟨compile, hread⟩ := ofTable_of_custom hcompile hv hcustom
  rw [build, hread]
  dsimp only [Except.map]
  split
  · next hwhole => cases hwhole
  · next c _ hwhole =>
    obtain ⟨hok, -⟩ := Prod.mk.inj hwhole
    obtain ⟨c', -, hparts, -, rfl⟩ := Checked.both_eq_ok_iff.mp (Except.ok.inj hok)
    obtain ⟨compile', custom', -, hok', rfl⟩ := Checked.both_eq_ok_iff.mp hparts
    exact .inl ⟨_, rfl, Checked.under_eq_ok_iff.mp hok'⟩
  · next issues _ hwhole =>
    obtain ⟨hok, -⟩ := Prod.mk.inj hwhole
    refine .inr ⟨issues, rfl, fun i hi => ?_⟩
    have hissues : issues = Checked.issues _ :=
      congrArg Checked.issues (Except.ok.inj hok).symm
    rw [hissues, Checked.issues_both, Checked.issues_both, Checked.issues_under _ custom]
    exact List.mem_append_left _ (List.mem_append_right _ (List.mem_map_of_mem hi))

theorem build_of_custom_error (hcompile : Readable t) {v : Setting}
    (hv : t.get? "custom" = some v) {e : Failure} {s' : Session}
    (hcustom : Custom.ofSetting h root v s = (.error e, s')) (source : String) :
    build h source root t s = (.error e, s') := by
  obtain ⟨compile, hread⟩ := ofTable_of_custom hcompile hv hcustom
  rw [build, hread]
  rfl

/-- The place of the predicate of a rule in the settings. -/
def rulePlace (i : Nat) : List Key :=
  [.field "custom", .field "check", .index i, .field "predicate"]

/-- Settings whose rules are references. Among quiet modules every reference is found to be a
predicate or refused, unless it starts with a dot. Without such a one, the settings make a
configuration with these predicates, or they are refused, and that for every reference that is
refused; the first one that starts with a dot ends the reading by an error of its own. -/
theorem build_references (hquiet : h.Quiet) (hcompile : Readable t)
    (hcustom : t.get? "custom" = some (.table u))
    (hcheck : u.get? "check" = some (.list (references.map .text))) (source : String)
    (root : Option Path) (s : Session) :
    let result := (build h source root t s).1
    ((∀ r ∈ references, ¬∃ name, IsRelative r name) →
      ∃ answers s', Resolves h root s references answers s' ∧
        ((∃ c, result = .ok c ∧ answers = c.custom.rules.map fun rule => .ok rule.predicate) ∨
        ∃ issues, result = .error (.configInvalid source issues) ∧
          ∀ (i : Nat) (reason : String), answers[i]? = some (.error reason) →
            ⟨rulePlace i, .refused reason⟩ ∈ issues)) ∧
    ∀ front r back name, references = front ++ r :: back →
      (∀ q ∈ front, ¬∃ name, IsRelative q name) → IsRelative r name →
      result = .error (.relativeModule name) := by
  intro result
  refine ⟨fun hrelative => ?_, ?_⟩
  · obtain ⟨answers, s', hresolves⟩ := exists_resolves hquiet root hrelative s
    refine ⟨answers, s', hresolves, ?_⟩
    have hrules : LineRule.listOfSetting h root (.list (references.map .text)) s =
        (.ok (Checked.items (answers.map ruleFor)), s') := by
      simp only [LineRule.listOfSetting, ruleEntries, LineRule.readAll_of_resolves hresolves]
    have hread := Custom.ofSetting_of_rules hcheck hrules
    rcases build_of_custom hcompile hcustom hread source with ⟨c, hc, hparts⟩ | ⟨issues, hi, hall⟩
    · obtain ⟨rules, -, hitems, -, hcustom'⟩ := Checked.both_eq_ok_iff.mp hparts
      have hanswers := Checked.itemsFrom_eq_ok (Checked.under_eq_ok_iff.mp hitems)
      exact .inl ⟨c, hc, hcustom' ▸ eq_map_of_map_ruleFor hanswers⟩
    · refine .inr ⟨issues, hi, fun i reason hanswer => hall ⟨rulePlace i |>.tail, _⟩ ?_⟩
      have hrule : (answers.map ruleFor)[i]? = some (ruleFor (.error reason)) := by
        rw [List.getElem?_map, hanswer]
        rfl
      have hitem := Checked.mem_issues_itemsFrom (n := 0) hrule List.mem_cons_self
      rw [Checked.issues_both, Checked.issues_under, List.mem_append]
      rw [Nat.zero_add] at hitem
      exact .inl (List.mem_map_of_mem hitem)
  · rintro front r back name rfl hfront hname
    obtain ⟨answers, s', hresolves⟩ := exists_resolves hquiet root hfront s
    have hrules : LineRule.listOfSetting h root (.list ((front ++ r :: back).map .text)) s =
        (.error (.relativeModule name), s') := by
      simp only [LineRule.listOfSetting, ruleEntries,
        LineRule.readAll_of_isRelative hresolves hname back]
    exact congrArg Prod.fst (build_of_custom_error hcompile hcustom
      (Custom.ofSetting_of_rules hcheck hrules) source)

/-- Settings whose rules are references. -/
def listing (references : List String) : Table SettingLeaf :=
  [("custom", .table [("check", .list (references.map .text))])]

theorem readable_listing (references : List String) : Readable (listing references) := by
  intro v hv
  cases hv

/-- A host with a module `m` that has one predicate `f`. -/
def oneModule : Host :=
  { linked [] with
    modules := [{ dir := ["d"], name := ["m"],
                  attributes := [("f", .predicate ⟨"f", fun _ _ => .ok (.data .null), true⟩)] }] }

theorem quiet_oneModule : oneModule.Quiet := by
  intro m hm
  cases List.mem_singleton.mp hm
  rfl

theorem not_isRelative_of_split {r : Reference}
    (hsplit : Reference.split (Text.trim reference.toList) = r) (hdot : r.home.head? ≠ some '.') :
    ¬∃ name, IsRelative reference name := by
  rintro ⟨name, member, -, hname, hnames⟩
  rw [← hsplit, hnames.split_eq] at hdot
  exact hdot hname

/-- A reference that is found and one that is not, and then one that starts with a dot. -/
theorem build_references_mixed :
    let s : Session := { modulePath := ["/d"] }
    (∃ issues, (build oneModule "s" none (listing ["m:f", " m.g"]) s).1 =
        .error (.configInvalid "s" issues) ∧
      ⟨rulePlace 1, .refused "predicate ' m.g' not found"⟩ ∈ issues) ∧
    (build oneModule "s" none (listing ["m:f", " m.g", ".m:f"]) s).1 =
      .error (.relativeModule ".m") := by
  intro s
  have hplain : ∀ r ∈ ["m:f", " m.g"], ¬∃ name, IsRelative r name := by
    simp only [List.forall_mem_cons]
    exact ⟨not_isRelative_of_split rfl (by decide), not_isRelative_of_split rfl (by decide), nofun⟩
  constructor
  · obtain ⟨answers, s', hresolves, ⟨c, hc, -⟩ | ⟨issues, hi, hall⟩⟩ := (build_references
      quiet_oneModule (readable_listing ["m:f", " m.g"]) rfl rfl "s" none s).1 hplain
    · cases hc
    · refine ⟨issues, hi, hall 1 _ ?_⟩
      cases hresolves with
      | refused hfirst _ => cases hfirst
      | found hfirst hrest =>
        cases hfirst
        cases hrest with
        | found hsecond _ => cases hsecond
        | refused hsecond hrest =>
          cases hsecond
          rfl
  · exact (build_references quiet_oneModule (readable_listing _) rfl rfl "s" none s).2
      ["m:f", " m.g"] ".m:f" [] ".m" rfl hplain
      ⟨['f'], by decide, by decide, .colon (by decide) rfl⟩

/-- It is not so that settings whose rules are references always make a configuration or are
refused as one. -/
theorem not_build_references :
    ¬ ∀ (h : Host) (source : String) (root : Option Path) (references : List String) (s : Session),
        h.Quiet → (∃ c, (build h source root (listing references) s).1 = .ok c) ∨
          ∃ e, (build h source root (listing references) s).1 = .error e ∧
            e.isConfiguration = true := by
  intro hall
  have hresult : (build oneModule "s" none (listing [".m:f"]) {}).1 =
      .error (.relativeModule ".m") := rfl
  rcases hall oneModule "s" none [".m:f"] {} quiet_oneModule with ⟨c, hc⟩ | ⟨e, he, hconfiguration⟩
  · cases hresult.symm.trans hc
  · cases hresult.symm.trans he
    cases hconfiguration

end Config

end PerlVet
