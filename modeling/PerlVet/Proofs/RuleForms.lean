import PerlVet.Proofs.UnknownKeys

/-!
Ways to write the same rules. A reference or a predicate alone stands for a table with nothing else
in it, and a single rule for a list of one (`LineRule.readAll_expanded`,
`LineRule.listOfSetting_single`). All else in the settings is read as before (`Config.build_congr`),
so that it does not matter which way the rules are written (`Config.build_shorthands`). A reference
is taken apart at a colon or at its last dot, and nothing else is made of its text, except that a
refusal quotes it (`exists_fate`); hence the two spellings of a reference come to the same
(`findPredicate_spellings`).
-/

namespace PerlVet

/-! ## Entries of tables -/

namespace Table

variable {α : Type} {key other : String}

theorem get?_put_self (t : Table α) (key : String) (v : Value α) :
    (t.put key v).get? key = some v := by
  unfold put get?
  induction t with
  | nil => simp
  | cons e t ih =>
    obtain ⟨name, w⟩ := e
    by_cases hname : name = key
    · simp [hname]
    · have hkey : (key == name) = false := by simpa using Ne.symm hname
      by_cases hany : t.any (·.1 == key) = true
      · simpa [hname, hany, List.lookup_cons, hkey] using ih
      · simpa [hname, hany, List.lookup_cons, hkey] using ih

/-- The entries under other keys stay as they are. -/
theorem filter_put (t : Table α) (key : String) (v : Value α) :
    (t.put key v).filter (·.1 != key) = t.filter (·.1 != key) := by
  unfold put
  split
  · clear * -
    induction t with
    | nil => rfl
    | cons e t ih => by_cases he : e.1 = key <;> simpa [he] using ih
  · simp

theorem get?_filter_of_ne (hne : other ≠ key) (t : Table α) :
    Table.get? (t.filter (·.1 != key)) other = t.get? other := by
  unfold get?
  induction t with
  | nil => rfl
  | cons e t ih =>
    obtain ⟨name, w⟩ := e
    rcases eq_or_ne name key with rfl | hname
    · have hother : (other == name) = false := by simpa using hne
      simp [List.lookup_cons, ih, hother]
    · simp [hname, List.lookup_cons, ih]

theorem get?_put_of_ne (hne : other ≠ key) (t : Table α) (v : Value α) :
    (t.put key v).get? other = t.get? other := by
  rw [← get?_filter_of_ne hne, filter_put, get?_filter_of_ne hne]

end Table

theorem noOtherKeys_filter {key : String} {known : List String} (hkey : key ∈ known)
    (t : Table SettingLeaf) : noOtherKeys known (t.filter (·.1 != key)) = noOtherKeys known t := by
  have hknown : (t.filter (·.1 != key)).filter (fun e => !known.contains e.1) =
      t.filter fun e => !known.contains e.1 := by
    rw [List.filter_filter]
    refine List.filter_congr fun e _ => ?_
    rcases eq_or_ne e.1 key with he | he
    · simp [he, hkey]
    · simp [he]
  rw [noOtherKeys, hknown, noOtherKeys]

/-- A known key may have any value. -/
theorem noOtherKeys_put {key : String} {known : List String} (hkey : key ∈ known)
    (t : Table SettingLeaf) (v : Setting) :
    noOtherKeys known (t.put key v) = noOtherKeys known t := by
  rw [← noOtherKeys_filter hkey, Table.filter_put, noOtherKeys_filter hkey]

variable {h : Host} {root : Option Path} {s s' : Session}

/-! ## Rules in short -/

namespace LineRule

variable {v w : Setting} {vs ws : List Setting} {rule : LineRule} {rules : List LineRule}

/-- A rule in short: a reference to a predicate, or a predicate. -/
inductive IsShort : Setting → Prop where
  | reference (reference : String) : IsShort (.text reference)
  | predicate (p : Predicate) : IsShort (.leaf (.predicate p))

/-- A rule in short, written as a table. -/
def inFull (v : Setting) : Setting := .table [("predicate", v)]

/-- The second value is the first one, or the table for it if it is a rule in short. -/
def Expands (v w : Setting) : Prop := w = v ∨ IsShort v ∧ w = inFull v

theorem ofSetting_expanded (hvw : Expands v w) :
    ofSetting h root w s = ofSetting h root v s := by
  rcases hvw with rfl | ⟨hshort, rfl⟩
  · rfl
  · cases hshort with
    | reference r => rfl
    | predicate p => rfl

theorem readAll_expanded (hall : List.Forall₂ Expands vs ws) (s : Session) :
    readAll h root ws s = readAll h root vs s := by
  induction hall generalizing s with
  | nil => rfl
  | cons hvw _ ih => simp only [readAll, ofSetting_expanded hvw, ih]

theorem listOfSetting_expanded (hall : List.Forall₂ Expands vs ws) (s : Session) :
    listOfSetting h root (.list ws) s = listOfSetting h root (.list vs) s := by
  simp only [listOfSetting, ruleEntries, readAll_expanded hall]

/-- A single rule is read as a list of its own. -/
theorem listOfSetting_single (hv : IsShort v ∨ ∃ t, v = .table t) (s : Session) :
    listOfSetting h root v s = listOfSetting h root (.list [v]) s := by
  rcases hv with hshort | ⟨t, rfl⟩
  · cases hshort with
    | reference r => rfl
    | predicate p => rfl
  · rfl

/-! ### What rules are read as -/

/-- The value is the predicate, or a reference that is found to be the predicate. -/
inductive Means (h : Host) (root : Option Path) :
    Setting → Session → Predicate → Session → Prop where
  | predicate (p : Predicate) (s : Session) : Means h root (.leaf (.predicate p)) s p s
  | reference {reference : String} {s s' : Session} {p : Predicate} :
    findPredicate h root reference s = (.ok p, s') → Means h root (.text reference) s p s'

/-- The files are those that the table lists, or none if it has no such list. -/
def Lists (t : Table SettingLeaf) (files : List String) : Prop :=
  (t.get? "files" = none ∧ files = []) ∨ t.get? "files" = some (.list (files.map .text))

/-- The entry describes the rule: in short, or in a table that may also list files. -/
inductive Describes (h : Host) (root : Option Path) :
    Setting → Session → LineRule → Session → Prop where
  | short {v : Setting} {s s' : Session} {p : Predicate} :
    Means h root v s p s' → Describes h root v s ⟨p, []⟩ s'
  | full {t : Table SettingLeaf} {v : Setting} {files : List String} {s s' : Session}
      {p : Predicate} :
    t.get? "predicate" = some v → Means h root v s p s' → Lists t files →
    Describes h root (.table t) s ⟨p, files⟩ s'

/-- The entries describe the rules, one rule for each entry and in the same order; an entry is read
in the session that those before it leave. -/
inductive DescribesAll (h : Host) (root : Option Path) :
    List Setting → Session → List LineRule → Session → Prop where
  | nil (s : Session) : DescribesAll h root [] s [] s
  | cons {v : Setting} {vs : List Setting} {rule : LineRule} {rules : List LineRule}
      {s s₁ s₂ : Session} :
    Describes h root v s rule s₁ → DescribesAll h root vs s₁ rules s₂ →
    DescribesAll h root (v :: vs) s (rule :: rules) s₂

theorem means_of_checkPredicate {p : Predicate}
    (hcheck : checkPredicate h root v s = (.ok (.ok p), s')) : Means h root v s p s' := by
  unfold checkPredicate at hcheck
  split at hcheck
  · next reference =>
    obtain ⟨hresult, hs⟩ := Prod.mk.inj hcheck
    refine .reference (Prod.ext ?_ hs)
    unfold Checked.ofResult at hresult
    split at hresult
    · next hfound =>
      cases hresult
      exact hfound
    · split at hresult <;> cases hresult
  · cases hcheck
    exact .predicate p s
  · cases hcheck

theorem lists_of_optionalField {t : Table SettingLeaf} {files : List String}
    (hfiles : optionalField t "files" [] (checkTuple checkText) = .ok files) : Lists t files := by
  rcases optionalField_eq_ok hfiles with hnone | ⟨v, hv, hlist⟩
  · exact .inl hnone
  · exact .inr (Config.Compile.checkTexts_eq_ok hlist ▸ hv)

theorem describes_of_ofTable {t : Table SettingLeaf}
    (hrule : ofTable h root t s = (.ok (.ok rule), s')) :
    ∃ v p files, t.get? "predicate" = some v ∧ Means h root v s p s' ∧ Lists t files ∧
      rule = ⟨p, files⟩ := by
  unfold ofTable at hrule
  dsimp only at hrule
  split at hrule
  · cases hrule
  · next p s₁ hpredicate =>
    obtain ⟨hresult, rfl⟩ := Prod.mk.inj hrule
    obtain ⟨rule, -, hfields, -, rfl⟩ := Checked.both_eq_ok_iff.mp (Except.ok.inj hresult)
    obtain ⟨p, files, hp, hfiles, rfl⟩ := Checked.both_eq_ok_iff.mp hfields
    rw [Checked.under_eq_ok_iff.mp hp] at hpredicate
    split at hpredicate
    · cases hpredicate
    · next v hv =>
      exact ⟨v, p, files, hv, means_of_checkPredicate hpredicate, lists_of_optionalField hfiles,
        rfl⟩

theorem describes_of_ofSetting (hrule : ofSetting h root v s = (.ok (.ok rule), s')) :
    Describes h root v s rule s' := by
  -- A rule in short is read as a table with nothing else in it.
  have hshort (hfull : ofTable h root [("predicate", v)] s = (.ok (.ok rule), s')) :
      Describes h root v s rule s' := by
    obtain ⟨w, p, files, hw, hmeans, hfiles, rfl⟩ := describes_of_ofTable hfull
    cases hw
    rcases hfiles with ⟨-, rfl⟩ | hfiles
    · exact .short hmeans
    · cases hfiles
  unfold ofSetting at hrule
  split at hrule
  · obtain ⟨w, p, files, hw, hmeans, hfiles, rfl⟩ := describes_of_ofTable hrule
    exact .full hw hmeans hfiles
  · exact hshort hrule
  · exact hshort hrule
  · cases hrule

theorem describesAll_of_readAll (hread : readAll h root vs s = (.ok (rules.map .ok), s')) :
    DescribesAll h root vs s rules s' := by
  induction vs generalizing s rules with
  | nil =>
    obtain ⟨hrules, rfl⟩ := Prod.mk.inj hread
    rw [List.map_eq_nil_iff.mp (Except.ok.inj hrules).symm]
    exact .nil s
  | cons v vs ih =>
    rw [readAll] at hread
    split at hread
    · cases hread
    · next c s₁ hfirst =>
      split at hread
      · cases hread
      · next cs s₂ hrest =>
        obtain ⟨hrules, rfl⟩ := Prod.mk.inj hread
        obtain ⟨rule, rules, rfl, hc, hcs⟩ := List.map_eq_cons_iff.mp (Except.ok.inj hrules).symm
        rw [← hc] at hfirst
        rw [← hcs] at hrest
        exact .cons (describes_of_ofSetting hfirst) (ih hrest)

theorem describesAll_of_listOfSetting
    (hread : listOfSetting h root (.list vs) s = (.ok (.ok rules), s')) :
    DescribesAll h root vs s rules s' := by
  simp only [listOfSetting, ruleEntries] at hread
  split at hread
  · cases hread
  · next hall =>
    obtain ⟨hrules, rfl⟩ := Prod.mk.inj hread
    rw [Checked.itemsFrom_eq_ok (Except.ok.inj hrules)] at hall
    exact describesAll_of_readAll hall

end LineRule

namespace Config

variable {source : String} {t u : Table SettingLeaf} {v w : Setting} {c : Config}

/-! ## Settings with rules -/

/-- The settings `t` with the line predicates of `u`, but with `v` for the list of rules. -/
def withRules (t u : Table SettingLeaf) (v : Setting) : Table SettingLeaf :=
  t.put "custom" (.table (u.put "check" v))

theorem Custom.ofSetting_congr
    (hvw : LineRule.listOfSetting h root v s = LineRule.listOfSetting h root w s) :
    Custom.ofSetting h root (.table (u.put "check" v)) s =
      Custom.ofSetting h root (.table (u.put "check" w)) s := by
  rcases hw : LineRule.listOfSetting h root w s with ⟨rules, s'⟩
  rw [Custom.ofSetting_of_rules (Table.get?_put_self ..) (hvw.trans hw),
    Custom.ofSetting_of_rules (Table.get?_put_self ..) hw, noOtherKeys_put (by decide),
    noOtherKeys_put (by decide)]

/-- Settings whose rules are read alike are read alike. -/
theorem build_congr (hvw : LineRule.listOfSetting h root v s = LineRule.listOfSetting h root w s) :
    build h source root (withRules t u v) s = build h source root (withRules t u w) s := by
  have hkeys (x : Setting) : noOtherKeys ["compile", "custom"] (t.put "custom" x) =
      noOtherKeys ["compile", "custom"] t := noOtherKeys_put (by decide) t x
  have hcompile (x : Setting) : (t.put "custom" x).get? "compile" = t.get? "compile" :=
    Table.get?_put_of_ne (by decide) t x
  simp only [build, ofTable, withRules, Table.get?_put_self, hkeys, hcompile,
    Custom.ofSetting_congr hvw]

/-- The parts of a configuration that is accepted are what the parts of the settings are read
as. -/
structure Consists (h : Host) (root : Option Path) (t : Table SettingLeaf) (s : Session)
    (c : Config) (s' : Session) : Prop where
  compile : entry t "compile" {} Compile.ofSetting = .ok (.ok c.compile)
  custom : ∀ v, t.get? "custom" = some v →
    Custom.ofSetting h root v s = (.ok (.ok c.custom), s')

theorem consists_of_ofTable (hread : ofTable h root t s = (.ok (.ok c), s')) :
    Consists h root t s c s' := by
  unfold ofTable at hread
  dsimp only at hread
  split at hread
  · cases hread
  · next compile hcompile =>
    split at hread
    · cases hread
    · next custom s₁ hcustom =>
      obtain ⟨hresult, rfl⟩ := Prod.mk.inj hread
      obtain ⟨c, -, hparts, -, rfl⟩ := Checked.both_eq_ok_iff.mp (Except.ok.inj hresult)
      obtain ⟨compile', custom', h₁, h₂, rfl⟩ := Checked.both_eq_ok_iff.mp hparts
      rw [Checked.under_eq_ok_iff.mp h₁] at hcompile
      rw [Checked.under_eq_ok_iff.mp h₂] at hcustom
      refine ⟨hcompile, fun v hv => ?_⟩
      rw [hv] at hcustom
      exact hcustom

theorem consists_of_build (hbuild : build h source root t s = (.ok c, s')) :
    Consists h root t s c s' := by
  unfold build at hbuild
  split at hbuild
  · cases hbuild
  · next hread =>
    cases hbuild
    exact consists_of_ofTable hread
  · cases hbuild

theorem Custom.rules_of_ofSetting {custom : Config.Custom} (hv : u.get? "check" = some v)
    (hread : Custom.ofSetting h root (.table u) s = (.ok (.ok custom), s')) :
    LineRule.listOfSetting h root v s = (.ok (.ok custom.rules), s') := by
  rcases hrules : LineRule.listOfSetting h root v s with ⟨e | rules, s₁⟩
  · rw [Custom.ofSetting_of_rules hv hrules] at hread
    cases hread
  · rw [Custom.ofSetting_of_rules hv hrules] at hread
    obtain ⟨hresult, rfl⟩ := Prod.mk.inj hread
    obtain ⟨rules, -, hok, -, rfl⟩ := Checked.both_eq_ok_iff.mp (Except.ok.inj hresult)
    rw [Checked.under_eq_ok_iff.mp hok]

/-- Rules may be written in short. Within any other settings and in any session, entries of the list
of rules that are rules in short can be written as tables, a single rule can stand for a list of its
own, and nothing for an empty list: the result is the same, and so is the session. The rules of a
configuration that is accepted are those which the entries describe, one for each and in order. -/
theorem build_shorthands (h : Host) (source : String) (root : Option Path)
    (t u : Table SettingLeaf) (s : Session) :
    (∀ vs ws, List.Forall₂ LineRule.Expands vs ws →
      build h source root (withRules t u (.list ws)) s =
        build h source root (withRules t u (.list vs)) s) ∧
    (∀ v, (LineRule.IsShort v ∨ ∃ entries, v = .table entries) →
      build h source root (withRules t u v) s =
        build h source root (withRules t u (.list [v])) s) ∧
    build h source root (withRules t u .null) s =
      build h source root (withRules t u (.list [])) s ∧
    ∀ vs c s', build h source root (withRules t u (.list vs)) s = (.ok c, s') →
      LineRule.DescribesAll h root vs s c.custom.rules s' := by
  refine ⟨fun vs ws hall => ?_, fun v hv => ?_, ?_, fun vs c s' hbuild => ?_⟩
  · exact build_congr (LineRule.listOfSetting_expanded hall s)
  · exact build_congr (LineRule.listOfSetting_single hv s)
  · exact build_congr rfl
  · have hcustom := (consists_of_build hbuild).custom _ (Table.get?_put_self ..)
    exact LineRule.describesAll_of_listOfSetting
      (Custom.rules_of_ofSetting (Table.get?_put_self ..) hcustom)

/-- What is wrong with a reference that is not found and, behind it, a number. -/
def notFound : Failure :=
  .configInvalid "s" [⟨rulePlace 0, .refused "predicate 'm:g' not found"⟩,
    ⟨[.field "custom", .field "check", .index 1], .notRecord "LineCheck"⟩]

/-- Rules that are refused in the same way in short and in full, and a single one that is
accepted. -/
theorem build_shorthands_mixed :
    let s : Session := { modulePath := ["/d"] }
    let built (v : Setting) := build oneModule "s" none (withRules [] [] v) s
    (built (.list [.text "m:g", .int 3])).1 = .error notFound ∧
    (built (.list [LineRule.inFull (.text "m:g"), .int 3])).1 = .error notFound ∧
    ∃ c s', built (.text "m:f") = (.ok c, s') ∧
      LineRule.DescribesAll oneModule none [.text "m:f"] s c.custom.rules s' := by
  intro s built
  obtain ⟨hexpand, hsingle, -, hrules⟩ := build_shorthands oneModule "s" none [] [] s
  have hrefused : (built (.list [.text "m:g", .int 3])).1 = .error notFound := rfl
  refine ⟨hrefused, ?_, ?_⟩
  · have hall : List.Forall₂ LineRule.Expands [.text "m:g", .int 3]
        [LineRule.inFull (.text "m:g"), .int 3] :=
      .cons (.inr ⟨.reference "m:g", rfl⟩) (.cons (.inl rfl) .nil)
    rw [← hrefused]
    exact congrArg Prod.fst (hexpand _ _ hall)
  · obtain ⟨c, s', hbuild⟩ : ∃ c s', built (.list [.text "m:f"]) = (.ok c, s') := ⟨_, _, rfl⟩
    exact ⟨c, s', (hsingle _ (.inl (.reference "m:f"))).trans hbuild, hrules _ c s' hbuild⟩

end Config

/-! ## Spellings of references -/

namespace Reference

/-- What comes of a reference, apart from its text: a refusal quotes that. -/
inductive Fate where
  | found (p : Predicate)
  /-- Refused, in words that stand before and behind the reference in quotes. -/
  | refused (before after : String)
  /-- An error that does not refuse it. -/
  | failed (e : Failure)

/-- What comes of a reference with the text given. -/
def Fate.of (reference : String) : Fate → Except Failure Predicate
  | found p => .ok p
  | refused before after => .error (.refused (before ++ "'" ++ reference ++ "'" ++ after))
  | failed e => .error e

end Reference

open Reference

theorem exists_fate_pick (imports : Imports) (home : List String) (i : Imported)
    (member : List String) :
    ∃ fate : Fate, ∀ reference, pick reference imports home i member = fate.of reference := by
  unfold pick
  split
  · refine ⟨.refused "predicate " " not found", fun reference => ?_⟩
    simp only [Fate.of, String.append_assoc]
    rfl
  · exact ⟨.found _, fun _ => rfl⟩
  · refine ⟨.refused "predicate " " is not callable", fun reference => ?_⟩
    simp only [Fate.of, String.append_assoc]
    rfl

theorem exists_fate_importRefused (home : List Char) (e : ImportFailure) :
    ∃ fate : Fate, ∀ reference, .error (importRefused reference home e) = fate.of reference := by
  have hrefusal (reason : String) :
      ∃ fate : Fate, ∀ reference, .error (importRefused.refusal reference home reason) =
        fate.of reference := by
    refine ⟨.refused ("cannot import module '" ++ String.ofList home ++ "' for predicate ")
      (": " ++ reason), fun reference => ?_⟩
    simp only [Fate.of, importRefused.refusal, String.append_assoc]
    rfl
  unfold importRefused
  split
  · split
    · exact hrefusal _
    · exact ⟨.failed _, fun _ => rfl⟩
  · exact hrefusal _

/-- References with the same two names come to the same, in any session, and leave the session
alike. -/
theorem exists_fate (h : Host) (root : Option Path) (s : Session) (r : Reference) :
    ∃ (fate : Fate) (s' : Session), ∀ reference, split (Text.trim reference.toList) = r →
      findPredicate h root reference s = (fate.of reference, s') := by
  by_cases hempty : (r.home.isEmpty || r.member.isEmpty) = true
  · refine ⟨.refused "invalid predicate reference " "", s, fun reference hr => ?_⟩
    rw [findPredicate, hr, if_pos hempty, Fate.of, String.append_empty]
    rfl
  · by_cases hdot : (r.home.head? == some '.') = true
    · refine ⟨.failed (.relativeModule (String.ofList r.home)), s, fun reference hr => ?_⟩
      rw [findPredicate, hr, if_neg hempty, if_pos hdot]
      rfl
    · rcases himport : importWithRoot h root (components r.home) s with ⟨e | i, s'⟩
      · obtain ⟨fate, hfate⟩ := exists_fate_importRefused r.home e
        refine ⟨fate, s', fun reference hr => ?_⟩
        rw [findPredicate, hr, if_neg hempty, if_neg hdot]
        simp only [himport, ← hfate]
      · obtain ⟨fate, hfate⟩ := exists_fate_pick s'.imports (components r.home) i
          (components r.member)
        refine ⟨fate, s', fun reference hr => ?_⟩
        rw [findPredicate, hr, if_neg hempty, if_neg hdot]
        simp only [himport, ← hfate]

/-- A module and an attribute of it, with a colon or a dot between them and any blanks around, come
to the same predicate, or fail alike, up to the text of the reference that a refusal quotes; and the
session is left alike. -/
theorem findPredicate_spellings {home member : List Char} (hhome : home ≠ [])
    (hmember : member ≠ []) (hcolon : ':' ∉ home) (hcolon' : ':' ∉ member) (hdot : '.' ∉ member)
    (hfirst : ∀ c ∈ home.head?, Text.isBlank c = false)
    (hlast : ∀ c ∈ member.getLast?, Text.isBlank c = false) (h : Host) (root : Option Path)
    (s : Session) :
    ∃ (fate : Fate) (s' : Session), ∀ mark ∈ [':', '.'], ∀ front back : List Char,
      (∀ c ∈ front, Text.isBlank c = true) → (∀ c ∈ back, Text.isBlank c = true) →
      let reference := String.ofList (front ++ (home ++ mark :: member) ++ back)
      findPredicate h root reference s = (fate.of reference, s') := by
  obtain ⟨fate, s', hfate⟩ := exists_fate h root s ⟨home, member⟩
  refine ⟨fate, s', fun mark hmark front back hfront hback => hfate _ ?_⟩
  have htrimmed : Text.Trimmed (home ++ mark :: member) := by
    constructor
    · rwa [List.head?_append_of_ne_nil _ hhome]
    · rwa [List.append_cons, List.getLast?_append_of_ne_nil _ hmember]
  have hnames : Names (home ++ mark :: member) ⟨home, member⟩ := by
    simp only [List.mem_cons, List.not_mem_nil, or_false] at hmark
    rcases hmark with rfl | rfl
    · exact .colon hcolon rfl
    · exact .dot (by simp [hcolon, hcolon']) hdot rfl
  rw [String.toList_ofList, Text.trim_surrounded hfront hback htrimmed, hnames.split_eq]

/-- A host with a module `m` in a package `p`, which has a predicate `f`. -/
def packaged : Host :=
  { linked [] with
    tree := ⟨[(["d"], .dir), (["d", "p"], .dir)]⟩
    modules := [{ dir := ["d"], name := ["p", "m"],
                  attributes := [("f", .predicate ⟨"f", fun _ _ => .ok (.data .null), true⟩)] }] }

/-- The predicate of the package is found in either spelling. -/
theorem findPredicate_spellings_packaged :
    let s : Session := { modulePath := ["/d"] }
    ∃ p s', findPredicate packaged none "p.m:f" s = (.ok p, s') ∧
      findPredicate packaged none "\t p.m.f\n" s = (.ok p, s') := by
  intro s
  have hhome : ['p', '.', 'm'] ≠ [] := by decide
  have hmember : ['f'] ≠ [] := by decide
  have hfirst : ∀ c ∈ ['p', '.', 'm'].head?, Text.isBlank c = false := by
    rintro c ⟨⟩
    rfl
  have hlast : ∀ c ∈ ['f'].getLast?, Text.isBlank c = false := by
    rintro c ⟨⟩
    rfl
  have hfront : ['\t', ' '].all Text.isBlank = true := by decide
  have hback : ['\n'].all Text.isBlank = true := by decide
  obtain ⟨fate, s', hall⟩ := findPredicate_spellings hhome hmember (by decide) (by decide)
    (by decide) hfirst hlast packaged none s
  have hcolon := hall ':' (by decide) [] [] nofun nofun
  have hdot := hall '.' (by decide) ['\t', ' '] ['\n'] (List.all_eq_true.mp hfront)
    (List.all_eq_true.mp hback)
  obtain ⟨p, s₁, hfound⟩ : ∃ p s₁, findPredicate packaged none "p.m:f" s = (.ok p, s₁) :=
    ⟨_, _, rfl⟩
  obtain ⟨hfate, rfl⟩ := Prod.mk.inj (hcolon.symm.trans hfound)
  cases fate with
  | found q =>
    cases hfate
    exact ⟨p, s', hfound, hdot⟩
  | refused before after => cases hfate
  | failed e => cases hfate

end PerlVet
