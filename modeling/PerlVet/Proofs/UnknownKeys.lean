import Mathlib.Data.List.Nodup
import PerlVet.Proofs.References

/-!
Keys that settings should not have. Settings are tables within tables, and for each of them some
keys are documented (`Config.Part`, `Config.parts`); any other key is unknown (`Config.Unknown`).
Each step of the reading complains of exactly the unknown keys of its own part, in order, whatever
else is wrong there, and gives defaults to what is absent, or it ends the reading (`Config.Read`,
with one lemma for each step up to `Config.read_ofTable`). So settings with unknown keys are refused
for each of them, unless the reading ends before (`Config.build_unknown_keys`).
-/

namespace PerlVet

/-! ## Complaints of further keys -/

namespace Checked

variable {α β γ : Type}

/-- The places of the keys that are one too many. -/
def extras (a : Checked α) : List (List Key) :=
  (a.issues.filter (·.complaint == .extra)).map (·.loc)

theorem extras_complain {c : Complaint} (hc : c ≠ .extra) :
    (complain c : Checked α).extras = [] := by
  simp [extras, complain, issues, hc]

theorem extras_both (f : α → β → γ) (a : Checked α) (b : Checked β) :
    (both f a b).extras = a.extras ++ b.extras := by
  simp only [extras, issues_both, List.filter_append, List.map_append]

theorem extras_under (k : Key) (a : Checked α) :
    (a.under k).extras = a.extras.map (k :: ·) := by
  simp only [extras, issues_under, List.filter_map, List.map_map]
  rfl

theorem extras_map (f : α → β) (a : Checked α) : extras (a.map f) = a.extras := by
  cases a <;> rfl

/-- Complaints of a key are counted among those of further keys. -/
theorem count_extra (p : List Key) (a : Checked α) :
    a.issues.count ⟨p, .extra⟩ = a.extras.count p := by
  unfold extras
  induction a.issues with
  | nil => rfl
  | cons i is ih =>
    obtain ⟨loc, complaint⟩ := i
    rw [List.count_cons, ih]
    by_cases hextra : complaint = .extra
    · simp [hextra, List.count_cons]
    · simp [hextra]

theorem extras_itemsFrom {as : List (Checked α)} (has : ∀ a ∈ as, a.extras = []) (n : Nat) :
    (itemsFrom n as).extras = [] := by
  induction as generalizing n with
  | nil => rfl
  | cons a as ih =>
    rw [List.forall_mem_cons] at has
    rw [itemsFrom, extras_both, extras_under, has.1, ih has.2]
    rfl

end Checked

theorem extras_checkText (v : Setting) : (checkText v).extras = [] := by
  cases v <;> rfl

theorem extras_checkBool (v : Setting) : (checkBool v).extras = [] := by
  cases v with
  | int _ | float _ | text _ =>
    dsimp only [checkBool]
    split_ifs <;> rfl
  | _ => rfl

theorem extras_checkTexts (v : Setting) : (checkTuple checkText v).extras = [] := by
  unfold checkTuple
  split
  · refine Checked.extras_itemsFrom (fun a ha => ?_) 0
    obtain ⟨v, -, rfl⟩ := List.mem_map.mp ha
    exact extras_checkText v
  · exact Checked.extras_complain (by decide)

theorem extras_optionalField {β : Type} (t : Table SettingLeaf) (key : String) (default : β)
    (check : Setting → Checked β) :
    (optionalField t key default check).extras =
      ((t.get? key).elim [] fun v => (check v).extras).map (.field key :: ·) := by
  unfold optionalField
  cases t.get? key with
  | none => rfl
  | some v => exact Checked.extras_under (.field key) (check v)

theorem extras_optionalField_nil {β : Type} {check : Setting → Checked β}
    (hcheck : ∀ v, (check v).extras = []) (t : Table SettingLeaf) (key : String) (default : β) :
    (optionalField t key default check).extras = [] := by
  rw [extras_optionalField]
  cases t.get? key <;> simp [hcheck]

theorem extras_noOtherKeys (known : List String) (t : Table SettingLeaf) :
    (noOtherKeys known t).extras =
      ((t.map Prod.fst).filter (!known.contains ·)).map fun key => [.field key] := by
  have hissues : (noOtherKeys known t).issues =
      (t.filter fun e => !known.contains e.1).map fun e => ⟨[.field e.1], .extra⟩ := by
    unfold noOtherKeys
    cases t.filter fun e => !known.contains e.1 <;> rfl
  have hall (es : Table SettingLeaf) : (es.map fun e => (⟨[.field e.1], .extra⟩ : Issue)).filter
      (·.complaint == .extra) = es.map fun e => ⟨[.field e.1], .extra⟩ := by
    rw [List.filter_eq_self]
    rintro i hi
    obtain ⟨e, -, rfl⟩ := List.mem_map.mp hi
    rfl
  rw [Checked.extras, hissues, hall, List.filter_map, List.map_map, List.map_map]
  rfl

theorem optionalField_eq_ok {β : Type} {check : Setting → Checked β} {t : Table SettingLeaf}
    {key : String} {default x : β} (hx : optionalField t key default check = .ok x) :
    (t.get? key = none ∧ x = default) ∨ ∃ v, t.get? key = some v ∧ check v = .ok x := by
  unfold optionalField at hx
  split at hx
  · next v hv => exact .inr ⟨v, hv, Checked.under_eq_ok_iff.mp hx⟩
  · next hnone => exact .inl ⟨hnone, (Except.ok.inj hx).symm⟩

theorem eq_default {β : Type} {check : Setting → Checked β} {t : Table SettingLeaf} {key : String}
    {default x : β} (hx : optionalField t key default check = .ok x) (hnone : t.get? key = none) :
    x = default := by
  rcases optionalField_eq_ok hx with ⟨-, rfl⟩ | ⟨v, hv, -⟩
  · rfl
  · rw [hnone] at hv
    cases hv

namespace Config

/-! ## The tables of settings -/

/-- A table within settings: the way to it, its entries, and the keys that are documented for it. -/
structure Part where
  way : List Key
  table : Table SettingLeaf
  known : List String

namespace Part

variable {parts : Setting → List Part} {ps qs : List Part} {t : Table SettingLeaf} {k : Key}
  {known : List String} {key : String}

/-- The part, seen from one step further up. -/
def under (k : Key) (part : Part) : Part := { part with way := k :: part.way }

/-- A record: its own table, after those within it. -/
def ofRecord (known : List String) (within : Table SettingLeaf → List Part) : Setting → List Part
  | .table t => within t ++ [⟨[], t, known⟩]
  | _ => []

/-- The parts of the entry under a key. -/
def ofEntry (t : Table SettingLeaf) (key : String) (parts : Setting → List Part) : List Part :=
  ((t.get? key).elim [] parts).map (under (.field key))

/-- The parts of the items of a list that are numbered from `n`. -/
def ofItemsFrom (parts : Setting → List Part) : Nat → List Setting → List Part
  | _, [] => []
  | n, v :: vs => (parts v).map (under (.index n)) ++ ofItemsFrom parts (n + 1) vs

/-- The ways to the keys that are not documented. -/
def unknown (part : Part) : List (List Key) :=
  ((part.table.map Prod.fst).filter (!part.known.contains ·)).map fun key =>
    part.way ++ [.field key]

/-- The ways to all keys that are not documented. -/
def unknowns (ps : List Part) : List (List Key) := ps.flatMap unknown

theorem mem_unknown {part : Part} {p : List Key} :
    p ∈ part.unknown ↔
      ∃ key ∈ part.table.map Prod.fst, key ∉ part.known ∧ p = part.way ++ [.field key] := by
  simp only [unknown, List.mem_map (b := p), List.mem_filter, List.contains_eq_mem,
    Bool.not_eq_true', decide_eq_false_iff_not, and_assoc, @eq_comm _ _ p]

theorem unknowns_append (ps qs : List Part) : unknowns (ps ++ qs) = unknowns ps ++ unknowns qs :=
  List.flatMap_append

theorem unknowns_under (k : Key) (ps : List Part) :
    unknowns (ps.map (under k)) = (unknowns ps).map (k :: ·) := by
  simp only [unknowns, List.flatMap_map, List.map_flatMap]
  refine List.flatMap_congr fun part _ => ?_
  simp only [unknown, List.map_map]
  rfl

/-- The unknown keys of a table itself are those that are complained of as further keys. -/
theorem unknowns_ofRecord (within : Table SettingLeaf → List Part) :
    unknowns (ofRecord known within (.table t)) =
      unknowns (within t) ++ (noOtherKeys known t).extras := by
  rw [ofRecord, unknowns_append, extras_noOtherKeys]
  simp [unknowns, unknown]

theorem unknowns_ofEntry (t : Table SettingLeaf) (key : String) (parts : Setting → List Part) :
    unknowns (ofEntry t key parts) =
      ((t.get? key).elim [] fun v => unknowns (parts v)).map (.field key :: ·) := by
  rw [ofEntry, unknowns_under]
  cases t.get? key <;> rfl

/-- An entry is complained of as what is read in it. -/
theorem extras_optionalField_eq {β : Type} {check : Setting → Checked β}
    (hcheck : ∀ v, (check v).extras = unknowns (parts v)) (t : Table SettingLeaf) (key : String)
    (default : β) :
    (optionalField t key default check).extras = unknowns (ofEntry t key parts) := by
  simp only [extras_optionalField, unknowns_ofEntry, hcheck]

/-! ### Ways -/

theorem nodup_ways_under (hps : (ps.map way).Nodup) : ((ps.map (under k)).map way).Nodup := by
  have hways : (ps.map (under k)).map way = (ps.map way).map (k :: ·) := by
    simp only [List.map_map]
    rfl
  rw [hways]
  exact hps.map (List.cons_injective)

theorem mem_ways_ofEntry {w : List Key} (hw : w ∈ (ofEntry t key parts).map way) :
    ∃ rest, w = .field key :: rest := by
  simp only [ofEntry, List.map_map, List.mem_map] at hw
  obtain ⟨part, -, rfl⟩ := hw
  exact ⟨part.way, rfl⟩

theorem nodup_ways_ofEntry (hparts : ∀ v, ((parts v).map way).Nodup) :
    ((ofEntry t key parts).map way).Nodup := by
  refine nodup_ways_under ?_
  cases t.get? key with
  | none => exact List.nodup_nil
  | some v => exact hparts v

/-- A record has no two parts in one place if that is so of the parts within it, and these are all
further down. -/
theorem nodup_ways_ofRecord {within : Table SettingLeaf → List Part}
    (hnodup : ∀ t, ((within t).map way).Nodup) (hbelow : ∀ t, [] ∉ (within t).map way)
    (v : Setting) : ((ofRecord known within v).map way).Nodup := by
  cases v with
  | table t =>
    rw [ofRecord, List.map_append]
    refine (hnodup t).append (List.nodup_singleton _) ?_
    simpa using hbelow t
  | _ => exact List.nodup_nil

theorem le_of_mem_ways_ofItemsFrom {n : Nat} {vs : List Setting} {w : List Key}
    (hw : w ∈ (ofItemsFrom parts n vs).map way) : ∃ i rest, n ≤ i ∧ w = .index i :: rest := by
  induction vs generalizing n with
  | nil => cases hw
  | cons v vs ih =>
    rw [ofItemsFrom, List.map_append, List.mem_append] at hw
    rcases hw with hw | hw
    · simp only [List.map_map, List.mem_map] at hw
      obtain ⟨part, -, rfl⟩ := hw
      exact ⟨n, part.way, Nat.le_refl n, rfl⟩
    · obtain ⟨i, rest, hi, rfl⟩ := ih hw
      exact ⟨i, rest, Nat.le_of_succ_le hi, rfl⟩

theorem nodup_ways_ofItemsFrom (hparts : ∀ v, ((parts v).map way).Nodup) (n : Nat)
    (vs : List Setting) : ((ofItemsFrom parts n vs).map way).Nodup := by
  induction vs generalizing n with
  | nil => exact List.nodup_nil
  | cons v vs ih =>
    rw [ofItemsFrom, List.map_append]
    refine (nodup_ways_under (hparts v)).append (ih (n + 1)) fun w hw hw' => ?_
    obtain ⟨i, rest, hi, rfl⟩ := le_of_mem_ways_ofItemsFrom hw'
    simp only [List.map_map, List.mem_map] at hw
    obtain ⟨part, -, hway⟩ := hw
    cases hway
    exact Nat.not_succ_le_self n hi

/-- Where no two parts are in one place and no table has a key twice, no unknown key is named
twice. -/
theorem nodup_unknowns (hways : (ps.map way).Nodup)
    (hkeys : ∀ part ∈ ps, (part.table.map Prod.fst).Nodup) : (unknowns ps).Nodup := by
  refine List.nodup_flatMap.mpr ⟨fun part hpart => ?_, ?_⟩
  · refine ((hkeys part hpart).filter _).map fun key key' hsame => ?_
    simpa using hsame
  · refine (List.pairwise_map.mp hways).imp fun hne p hp hp' => ?_
    obtain ⟨key, -, -, rfl⟩ := mem_unknown.mp hp
    obtain ⟨key', -, -, hsame⟩ := mem_unknown.mp hp'
    exact hne (List.append_inj_left' hsame rfl)

end Part

/-- The table of a value for the search path settings. -/
def Include.parts : Setting → List Part :=
  Part.ofRecord ["libs", "replace_default_libs"] fun _ => []

/-- The tables of a value for the settings of the interpreter. -/
def Compile.parts : Setting → List Part :=
  Part.ofRecord ["inc", "skip", "perl", "args"] fun t => Part.ofEntry t "inc" Include.parts

/-- The table of a value for a rule. -/
def ruleParts : Setting → List Part := Part.ofRecord ["predicate", "files"] fun _ => []

/-- The tables of a value for the list of rules; a table in place of a list is its only entry. -/
def rulesParts : Setting → List Part
  | .list vs => Part.ofItemsFrom ruleParts 0 vs
  | .table t => Part.ofItemsFrom ruleParts 0 [.table t]
  | _ => []

/-- The tables of a value for the line predicates. -/
def Custom.parts : Setting → List Part :=
  Part.ofRecord ["check"] fun t => Part.ofEntry t "check" rulesParts

/-- The tables of settings. -/
def parts (t : Table SettingLeaf) : List Part :=
  Part.ofRecord ["compile", "custom"]
    (fun t => Part.ofEntry t "compile" Compile.parts ++ Part.ofEntry t "custom" Custom.parts)
    (.table t)

/-- A key that is not documented for the table it stands in, with the whole way to it. -/
def Unknown (t : Table SettingLeaf) (p : List Key) : Prop :=
  ∃ part ∈ parts t, ∃ key ∈ part.table.map Prod.fst,
    key ∉ part.known ∧ p = part.way ++ [.field key]

/-- No table has a key twice, as it would not in a mapping. -/
def Distinct (t : Table SettingLeaf) : Prop :=
  ∀ part ∈ parts t, (part.table.map Prod.fst).Nodup

theorem unknown_iff {t : Table SettingLeaf} {p : List Key} :
    Unknown t p ↔ p ∈ Part.unknowns (parts t) := by
  simp only [Unknown, Part.unknowns, List.mem_flatMap, Part.mem_unknown]

theorem nodup_ways_parts (t : Table SettingLeaf) : ((parts t).map Part.way).Nodup := by
  -- A record is told from those within it by the empty way, and these by the key they are under.
  have hempty (known : List String) (v : Setting) :
      ((Part.ofRecord known (fun _ => []) v).map Part.way).Nodup := by
    refine Part.nodup_ways_ofRecord ?_ ?_ v
    · exact fun _ => List.nodup_nil
    · exact fun _ => List.not_mem_nil
  have hbelow (t : Table SettingLeaf) (key : String) (parts : Setting → List Part) :
      [] ∉ (Part.ofEntry t key parts).map Part.way := by
    intro hmem
    obtain ⟨rest, hrest⟩ := Part.mem_ways_ofEntry hmem
    cases hrest
  have hcompile (v : Setting) : ((Compile.parts v).map Part.way).Nodup :=
    Part.nodup_ways_ofRecord (fun _ => Part.nodup_ways_ofEntry (hempty _)) (fun _ => hbelow _ _ _) v
  have hrules (v : Setting) : ((rulesParts v).map Part.way).Nodup := by
    cases v with
    | list vs => exact Part.nodup_ways_ofItemsFrom (hempty _) 0 vs
    | table t => exact Part.nodup_ways_ofItemsFrom (hempty _) 0 [.table t]
    | _ => exact List.nodup_nil
  have hcustom (v : Setting) : ((Custom.parts v).map Part.way).Nodup :=
    Part.nodup_ways_ofRecord (fun _ => Part.nodup_ways_ofEntry hrules) (fun _ => hbelow _ _ _) v
  refine Part.nodup_ways_ofRecord (fun t => ?_) (fun t hmem => ?_) (.table t)
  · rw [List.map_append]
    refine (Part.nodup_ways_ofEntry hcompile).append (Part.nodup_ways_ofEntry hcustom) ?_
    intro w hw hw'
    obtain ⟨rest, rfl⟩ := Part.mem_ways_ofEntry hw
    obtain ⟨rest', hsame⟩ := Part.mem_ways_ofEntry hw'
    simp at hsame
  · rw [List.map_append, List.mem_append] at hmem
    exact hmem.elim (hbelow _ _ _) (hbelow _ _ _)

/-- What becomes of a value with the tables `ps`: all that is wrong is gathered, with a complaint of
each unknown key, and a value with which nothing is wrong is read as one that is `good`; or the
reading ends. -/
inductive Read {α : Type} (ps : List Part) (good : α → Prop) (ends : Failure → Prop) :
    Except Failure (Checked α) → Prop where
  | checked {a : Checked α} : a.extras = Part.unknowns ps → (∀ x, a = .ok x → good x) →
    Read ps good ends (.ok a)
  | ended {e : Failure} : ends e → Read ps good ends (.error e)

theorem Read.imp {α : Type} {ps qs : List Part} {good good' : α → Prop}
    {ends ends' : Failure → Prop} {result : Except Failure (Checked α)}
    (hread : Read ps good ends result) (hparts : Part.unknowns ps = Part.unknowns qs)
    (hgood : ∀ x, good x → good' x) (hends : ∀ e, ends e → ends' e) :
    Read qs good' ends' result := by
  cases hread with
  | checked hextras hall =>
    exact .checked (hextras.trans hparts) fun x hx => hgood x (hall x hx)
  | ended he => exact .ended (hends _ he)

/-- The entry under a key of a table, as `read` reads it, or a default. -/
def entry {α : Type} (t : Table SettingLeaf) (key : String) (default : α)
    (read : Setting → Except Failure (Checked α)) : Except Failure (Checked α) :=
  match t.get? key with
  | none => .ok (.ok default)
  | some v => read v

theorem Read.entry {α : Type} {parts : Setting → List Part} {good : Setting → α → Prop}
    {ends : Setting → Failure → Prop} {read : Setting → Except Failure (Checked α)}
    (hread : ∀ v, Read (parts v) (good v) (ends v) (read v)) (t : Table SettingLeaf) (key : String)
    (default : α) :
    Read ((t.get? key).elim [] parts)
      (fun x => (t.get? key = none → x = default) ∧ ∀ v, t.get? key = some v → good v x)
      (fun e => ∃ v, t.get? key = some v ∧ ends v e) (entry t key default read) := by
  unfold Config.entry
  cases t.get? key with
  | none =>
    refine .checked rfl fun x hx => ?_
    cases hx
    exact ⟨fun _ => rfl, nofun⟩
  | some v =>
    refine (hread v).imp rfl (fun x hx => ⟨nofun, fun w hw => ?_⟩) fun e he => ⟨v, rfl, he⟩
    cases hw
    exact hx

/-! ## The settings of the interpreter -/

/-- A setting of the search path that is absent has its default. -/
structure Include.Defaults (t : Table SettingLeaf) (c : Config.Include) : Prop where
  libs : t.get? "libs" = none → c.libs = []
  replaceDefaults : t.get? "replace_default_libs" = none → c.replaceDefaults = false

theorem Include.extras_ofSetting (v : Setting) :
    (Include.ofSetting v).extras = Part.unknowns (Include.parts v) := by
  cases v with
  | table t =>
    rw [Include.parts, Part.unknowns_ofRecord]
    simp only [Include.ofSetting, Checked.record, Include.ofTable, Checked.extras_both,
      extras_optionalField_nil extras_checkTexts, extras_optionalField_nil extras_checkBool,
      List.append_nil]
    rfl
  | _ => rfl

theorem Include.defaults_of_ofTable {t : Table SettingLeaf} {c : Config.Include}
    (hc : Include.ofTable t = .ok c) : Include.Defaults t c := by
  obtain ⟨c, -, hfields, -, rfl⟩ := Checked.both_eq_ok_iff.mp hc
  obtain ⟨libs, replaceDefaults, hlibs, hreplace, rfl⟩ := Checked.both_eq_ok_iff.mp hfields
  exact ⟨eq_default hlibs, eq_default hreplace⟩

namespace Compile

variable {t : Table SettingLeaf} {c : Config.Compile}

/-- A setting of the interpreter that is absent has its default. -/
structure Defaults (t : Table SettingLeaf) (c : Config.Compile) : Prop where
  inc : t.get? "inc" = none → c.inc = {}
  within : ∀ u, t.get? "inc" = some (.table u) → Include.Defaults u c.inc
  skip : t.get? "skip" = none → c.skip = [] ∧ c.patterns = []
  perl : t.get? "perl" = none → c.perl = "perl"
  args : t.get? "args" = none → c.args = []

/-- The first of the texts that is no pattern asks for more than a pattern can hold. -/
def Overflow (sources : List String) (fault : Pattern.Fault) : Prop :=
  ∃ front source back e, sources = front ++ source :: back ∧
    (∀ text ∈ front, ∃ p, Pattern.parse text = .ok p) ∧
    Pattern.parse source = .error e ∧ e.fault = fault ∧
    (fault = .repeatCount ∨ fault = .lookbehindReach)

theorem badPattern_cases (source : String) (e : Pattern.Error) :
    (∃ reason, badPattern source e = .ok (.refused reason)) ∨
    (badPattern source e = .error (.pattern e.fault) ∧
      (e.fault = .repeatCount ∨ e.fault = .lookbehindReach)) := by
  unfold badPattern
  split
  · next hfault => exact .inr ⟨rfl, .inl hfault⟩
  · next hfault => exact .inr ⟨rfl, .inr hfault⟩
  all_goals exact .inl ⟨_, rfl⟩

/-- Patterns are read without complaints of further keys, unless one of them overflows. -/
theorem readPatterns_cases (sources : List String) :
    (∃ ps, readPatterns sources = .ok ps ∧ ps.extras = []) ∨
    ∃ fault, readPatterns sources = .error (.pattern fault) ∧ Overflow sources fault := by
  induction sources with
  | nil => exact .inl ⟨_, rfl, rfl⟩
  | cons source sources ih =>
    rw [readPatterns]
    cases hparse : Pattern.parse source with
    | error e =>
      dsimp only
      rcases badPattern_cases source e with ⟨reason, hbad⟩ | ⟨hbad, hfault⟩
      · exact .inl ⟨_, by rw [hbad]; rfl, rfl⟩
      · exact .inr ⟨e.fault, by rw [hbad]; rfl, [], source, sources, e, rfl, nofun, hparse, rfl,
          hfault⟩
    | ok p =>
      dsimp only
      rcases ih with ⟨ps, hps, hextras⟩ | ⟨fault, hfault, front, source', back, e, rfl, hfront,
        hrest⟩
      · refine .inl ⟨ps.map (p :: ·), by rw [hps]; rfl, ?_⟩
        rw [Checked.extras_map, hextras]
      · exact .inr ⟨fault, by rw [hfault]; rfl, source :: front, source', back, e, rfl,
          List.forall_mem_cons.mpr ⟨⟨p, hparse⟩, hfront⟩, hrest⟩

theorem extras_fields (t : Table SettingLeaf) :
    (fields t).extras = Part.unknowns (parts (.table t)) := by
  rw [parts, Part.unknowns_ofRecord]
  simp only [fields, Checked.extras_both, Part.extras_optionalField_eq Include.extras_ofSetting,
    extras_optionalField_nil extras_checkTexts, extras_optionalField_nil extras_checkText,
    List.append_nil]

/-- The settings of the interpreter are those that a table holds. -/
structure Holds (t : Table SettingLeaf) (c : Config.Compile) : Prop where
  inc : optionalField t "inc" {} Config.Include.ofSetting = .ok c.inc
  skip : optionalField t "skip" [] (checkTuple checkText) = .ok c.skip
  perl : optionalField t "perl" "perl" checkText = .ok c.perl
  args : optionalField t "args" [] (checkTuple checkText) = .ok c.args

theorem holds_of_fields (hc : fields t = .ok c) : Holds t c := by
  obtain ⟨c₃, -, h₃, -, rfl⟩ := Checked.both_eq_ok_iff.mp hc
  obtain ⟨c₂, args, h₂, hargs, rfl⟩ := Checked.both_eq_ok_iff.mp h₃
  obtain ⟨c₁, perl, h₁, hperl, rfl⟩ := Checked.both_eq_ok_iff.mp h₂
  obtain ⟨inc, skip, hinc, hskip, rfl⟩ := Checked.both_eq_ok_iff.mp h₁
  exact ⟨hinc, hskip, hperl, hargs⟩

theorem Holds.defaults (hc : Holds t c) {patterns : List Pattern}
    (hpatterns : readPatterns c.skip = .ok (.ok patterns)) : Defaults t { c with patterns } where
  inc := eq_default hc.inc
  within u hu := by
    rcases optionalField_eq_ok hc.inc with ⟨hnone, -⟩ | ⟨v, hv, hread⟩
    · rw [hu] at hnone
      cases hnone
    · rw [hu] at hv
      cases hv
      exact Include.defaults_of_ofTable hread
  skip hnone := by
    have hskip := eq_default hc.skip hnone
    rw [hskip] at hpatterns
    cases hpatterns
    exact ⟨hskip, rfl⟩
  perl := eq_default hc.perl
  args := eq_default hc.args

theorem eq_map_text {vs : List Setting} {texts : List String}
    (htexts : vs.map checkText = texts.map .ok) : vs = texts.map .text := by
  induction vs generalizing texts with
  | nil =>
    rw [List.map_nil, eq_comm, List.map_eq_nil_iff] at htexts
    rw [htexts]
    rfl
  | cons v vs ih =>
    obtain ⟨text, texts, rfl, hfirst, hrest⟩ := List.map_eq_cons_iff.mp htexts.symm
    rw [checkText_eq_ok_iff.mp hfirst.symm, ih hrest.symm]
    rfl

theorem checkTexts_eq_ok {v : Setting} {texts : List String}
    (hv : checkTuple checkText v = .ok texts) : v = .list (texts.map .text) := by
  unfold checkTuple at hv
  split at hv
  · rw [eq_map_text (Checked.itemsFrom_eq_ok hv)]
  · cases hv

/-- The texts of patterns are those in the table, unless there are none. -/
theorem Holds.skip_eq (hc : Holds t c) (hne : c.skip ≠ []) :
    t.get? "skip" = some (.list (c.skip.map .text)) := by
  rcases optionalField_eq_ok hc.skip with ⟨-, hnil⟩ | ⟨v, hv, hcheck⟩
  · exact absurd hnil hne
  · rw [hv, checkTexts_eq_ok hcheck]

/-- The patterns among the settings of the interpreter cannot be read to their end. -/
def Overflows (v : Setting) (e : Failure) : Prop :=
  ∃ (t : Table SettingLeaf) (sources : List String) (fault : Pattern.Fault), v = .table t ∧
    t.get? "skip" = some (.list (sources.map .text)) ∧ Overflow sources fault ∧ e = .pattern fault

theorem read_ofSetting (v : Setting) :
    Read (parts v) (fun c => ∀ t, v = .table t → Defaults t c)
      (fun e => Overflows v e ∧ Part.unknowns (parts v) = []) (ofSetting v) := by
  cases v with
  | table t =>
    have hextras := extras_fields t
    rw [ofSetting, ofTable]
    cases hfields : fields t with
    | error issues =>
      rw [hfields] at hextras
      exact .checked hextras nofun
    | ok c =>
      rw [hfields] at hextras
      have hc := holds_of_fields hfields
      dsimp only
      rcases readPatterns_cases c.skip with ⟨ps, hps, hnone⟩ | ⟨fault, hfault, hover⟩
      · rw [hps]
        refine .checked ?_ fun x hx t' ht => ?_
        · rw [Checked.extras_map, hnone]
          exact hextras
        · cases ht
          cases ps with
          | error issues => cases hx
          | ok patterns =>
            cases hx
            exact hc.defaults hps
      · rw [hfault]
        have hne : c.skip ≠ [] := by
          intro hnil
          obtain ⟨front, source, back, e, hsources, -⟩ := hover
          rw [hnil] at hsources
          simp at hsources
        exact .ended ⟨⟨t, c.skip, fault, rfl, hc.skip_eq hne, hover, rfl⟩, hextras.symm⟩
  | _ => exact .checked rfl nofun

end Compile

/-! ## The line predicates -/

section
variable (h : Host) (root : Option Path)

/-- An entry of the list of rules refers to a predicate, alone or in a table. -/
inductive Cites : Setting → String → Prop where
  | alone (reference : String) : Cites (.text reference) reference
  | table {t : Table SettingLeaf} {reference : String} :
    t.get? "predicate" = some (.text reference) → Cites (.table t) reference

/-- Entries of the list of rules are read one after the other, up to one whose reference fails in a
way that does not refuse it. -/
inductive Breaks : List Setting → Session → Failure → Prop where
  | here {v : Setting} {vs : List Setting} {s : Session} {reference : String} {e : Failure} :
    Cites v reference → (findPredicate h root reference s).1 = .error e → e.complaint? = none →
    Breaks (v :: vs) s e
  | later {v : Setting} {vs : List Setting} {s s₁ : Session} {c : Checked LineRule} {e : Failure} :
    LineRule.ofSetting h root v s = (.ok c, s₁) → Breaks vs s₁ e → Breaks (v :: vs) s e

end

variable {h : Host} {root : Option Path} {t : Table SettingLeaf} {s : Session}

/-- A rule is for all files unless its entry has a list of them. -/
def RuleDefaults (v : Setting) (rule : LineRule) : Prop :=
  (∀ t : Table SettingLeaf, v = .table t → t.get? "files" = none) → rule.files = []

theorem complaint?_ne_extra {e : Failure} {c : Complaint} (hc : e.complaint? = some c) :
    c ≠ .extra := by
  rintro rfl
  unfold Failure.complaint? at hc
  split at hc
  · cases hc
  · split at hc <;> cases hc
  · cases hc

theorem ofResult_cases {α : Type} (result : Except Failure α) :
    (∃ a, Checked.ofResult result = .ok a ∧ a.extras = []) ∨
    ∃ e, Checked.ofResult result = .error e ∧ result = .error e ∧ e.complaint? = none := by
  cases result with
  | ok x => exact .inl ⟨_, rfl, rfl⟩
  | error e =>
    rw [Checked.ofResult]
    cases hc : e.complaint? with
    | some c => exact .inl ⟨_, rfl, Checked.extras_complain (complaint?_ne_extra hc)⟩
    | none => exact .inr ⟨e, rfl, rfl, hc⟩

/-- A predicate is read or refused, or it is a reference that fails in another way. -/
theorem checkPredicate_cases (h : Host) (root : Option Path) (v : Setting) (s : Session) :
    (∃ p, (checkPredicate h root v s).1 = .ok p ∧ p.extras = []) ∨
    ∃ reference e, v = .text reference ∧ (checkPredicate h root v s).1 = .error e ∧
      (findPredicate h root reference s).1 = .error e ∧ e.complaint? = none := by
  cases v with
  | text reference =>
    rcases ofResult_cases (findPredicate h root reference s).1 with hok | ⟨e, he, hfind, hnone⟩
    · exact .inl hok
    · exact .inr ⟨reference, e, rfl, he, hfind, hnone⟩
  | leaf x => cases x <;> exact .inl ⟨_, rfl, rfl⟩
  | _ => exact .inl ⟨_, rfl, rfl⟩

theorem Read.rule {p : Checked Predicate} {ends : Failure → Prop} (hp : p.extras = []) :
    Read (ruleParts (.table t)) (RuleDefaults (.table t)) ends
      (.ok (Checked.both (fun c _ => c)
        (Checked.both LineRule.mk (p.under (.field "predicate"))
          (optionalField t "files" [] (checkTuple checkText)))
        (noOtherKeys ["predicate", "files"] t))) := by
  refine .checked ?_ fun rule hrule hnone => ?_
  · rw [ruleParts, Part.unknowns_ofRecord]
    simp only [Checked.extras_both, Checked.extras_under, hp,
      extras_optionalField_nil extras_checkTexts]
    rfl
  · obtain ⟨rule, -, hfields, -, rfl⟩ := Checked.both_eq_ok_iff.mp hrule
    obtain ⟨predicate, files, -, hfiles, rfl⟩ := Checked.both_eq_ok_iff.mp hfields
    exact eq_default hfiles (hnone t rfl)

theorem read_rule_ofTable (h : Host) (root : Option Path) (t : Table SettingLeaf) (s : Session) :
    Read (ruleParts (.table t)) (RuleDefaults (.table t))
      (fun e => ∃ reference, t.get? "predicate" = some (.text reference) ∧
        (findPredicate h root reference s).1 = .error e ∧ e.complaint? = none)
      (LineRule.ofTable h root t s).1 := by
  unfold LineRule.ofTable
  cases hget : t.get? "predicate" with
  | none => exact .rule (Checked.extras_complain (by decide))
  | some v =>
    rcases hcheck : checkPredicate h root v s with ⟨result, s'⟩
    rcases checkPredicate_cases h root v s with ⟨p, hp, hextras⟩ | ⟨reference, e, rfl, he, hfails⟩
    · rw [hcheck] at hp
      cases hp
      simp only [hcheck]
      exact .rule hextras
    · rw [hcheck] at he
      cases he
      simp only [hcheck]
      exact .ended ⟨reference, rfl, hfails⟩

theorem read_rule_ofSetting (h : Host) (root : Option Path) (v : Setting) (s : Session) :
    Read (ruleParts v) (RuleDefaults v)
      (fun e => ∃ reference, Cites v reference ∧
        (findPredicate h root reference s).1 = .error e ∧ e.complaint? = none)
      (LineRule.ofSetting h root v s).1 := by
  -- A predicate alone is read as a table with no other key.
  have halone (v w : Setting) (rule : LineRule)
      (hrule : RuleDefaults (.table [("predicate", v)]) rule) : RuleDefaults w rule := by
    refine fun _ => hrule fun t ht => ?_
    cases ht
    rfl
  cases v with
  | table t =>
    refine (read_rule_ofTable h root t s).imp rfl (fun _ => id) fun e he => ?_
    obtain ⟨reference, hget, hfails⟩ := he
    exact ⟨reference, .table hget, hfails⟩
  | text reference =>
    refine (read_rule_ofTable h root [("predicate", .text reference)] s).imp rfl (halone _ _) ?_
    rintro e ⟨reference', hget, hfails⟩
    cases hget
    exact ⟨reference, .alone reference, hfails⟩
  | leaf x =>
    cases x with
    | moment m => exact .checked rfl nofun
    | predicate p =>
      refine (read_rule_ofTable h root [("predicate", .leaf (.predicate p))] s).imp rfl
        (halone _ _) ?_
      rintro e ⟨reference, hget, -⟩
      cases hget
  | _ => exact .checked rfl nofun

/-- Rules that are read one after the other. -/
theorem read_readAll (h : Host) (root : Option Path) (vs : List Setting) (s : Session) (n : Nat) :
    Read (Part.ofItemsFrom ruleParts n vs) (List.Forall₂ RuleDefaults vs) (Breaks h root vs s)
      ((LineRule.readAll h root vs s).1.map (Checked.itemsFrom n)) := by
  -- Each entry is read in the session that those before it leave, and has the number after theirs.
  induction vs generalizing s n with
  | nil =>
    refine .checked rfl fun x hx => ?_
    cases hx
    exact .nil
  | cons v vs ih =>
    have hfirst := read_rule_ofSetting h root v s
    rcases hv : LineRule.ofSetting h root v s with ⟨e | c, s₁⟩
    · rw [hv] at hfirst
      simp only [LineRule.readAll, hv]
      cases hfirst with
      | ended he =>
        obtain ⟨reference, hcites, hfind, hnone⟩ := he
        exact .ended (.here hcites hfind hnone)
    · rw [hv] at hfirst
      have hrest := ih s₁ (n + 1)
      rcases hvs : LineRule.readAll h root vs s₁ with ⟨e | cs, s₂⟩
      · rw [hvs] at hrest
        simp only [LineRule.readAll, hv, hvs]
        cases hrest with
        | ended he => exact .ended (.later hv he)
      · rw [hvs] at hrest
        simp only [LineRule.readAll, hv, hvs]
        cases hfirst with
        | checked hextras hrule =>
          cases hrest with
          | checked hextras' hrules =>
            refine .checked ?_ fun x hx => ?_
            · rw [Checked.itemsFrom, Checked.extras_both, Checked.extras_under, hextras, hextras',
                Part.ofItemsFrom, Part.unknowns_append, Part.unknowns_under]
            · obtain ⟨rule, rules, hc, hcs, rfl⟩ := Checked.both_eq_ok_iff.mp hx
              exact .cons (hrule rule (Checked.under_eq_ok_iff.mp hc)) (hrules rules hcs)

/-- The entries of the list of rules have the tables of the list; what is no such list has none. -/
theorem ruleEntries_cases (v : Setting) :
    (∃ entries, ruleEntries v = .ok entries ∧
      Part.unknowns (Part.ofItemsFrom ruleParts 0 entries) = Part.unknowns (rulesParts v)) ∨
    ∃ reason, ruleEntries v = Checked.complain (.refused reason) ∧ rulesParts v = [] := by
  cases v with
  | null | list _ | text _ | table _ => exact .inl ⟨_, rfl, rfl⟩
  | bool _ | int _ | float _ => exact .inr ⟨_, rfl, rfl⟩
  | leaf x =>
    cases x with
    | predicate p => exact .inl ⟨_, rfl, rfl⟩
    | moment m => exact .inr ⟨_, rfl, rfl⟩

theorem read_listOfSetting (h : Host) (root : Option Path) (v : Setting) (s : Session) :
    Read (rulesParts v)
      (fun rules => ∀ entries, ruleEntries v = .ok entries →
        List.Forall₂ RuleDefaults entries rules)
      (fun e => ∃ entries, ruleEntries v = .ok entries ∧ Breaks h root entries s e)
      (LineRule.listOfSetting h root v s).1 := by
  rcases ruleEntries_cases v with ⟨entries, hentries, hparts⟩ | ⟨reason, hrefused, hparts⟩
  · have hlist : (LineRule.listOfSetting h root v s).1 =
        (LineRule.readAll h root entries s).1.map (Checked.itemsFrom 0) := by
      rw [LineRule.listOfSetting, hentries]
      dsimp only
      rcases LineRule.readAll h root entries s with ⟨e | cs, s'⟩ <;> rfl
    rw [hlist]
    refine (read_readAll h root entries s 0).imp hparts (fun rules hrules entries' h' => ?_) ?_
    · rw [hentries] at h'
      cases h'
      exact hrules
    · exact fun e he => ⟨entries, hentries, he⟩
  · rw [LineRule.listOfSetting, hrefused, hparts]
    refine .checked rfl fun rules hrules => ?_
    cases hrules

/-- A setting of the line predicates that is absent has its default. -/
structure Custom.Defaults (t : Table SettingLeaf) (c : Config.Custom) : Prop where
  rules : t.get? "check" = none → c.rules = []
  within : ∀ v entries, t.get? "check" = some v → ruleEntries v = .ok entries →
    List.Forall₂ RuleDefaults entries c.rules

/-- The rules among the line predicates cannot be read to their end. -/
def Custom.Breaks (h : Host) (root : Option Path) (v : Setting) (s : Session) (e : Failure) :
    Prop :=
  ∃ (t : Table SettingLeaf) (rules : Setting) (entries : List Setting), v = .table t ∧
    t.get? "check" = some rules ∧ ruleEntries rules = .ok entries ∧
    Config.Breaks h root entries s e

theorem custom_ofTable_fst (h : Host) (root : Option Path) (t : Table SettingLeaf) (s : Session) :
    (Custom.ofTable h root t s).1 =
      (entry t "check" [] fun v => (LineRule.listOfSetting h root v s).1).map fun cs =>
        Checked.both (fun c _ => Config.Custom.mk c) (cs.under (.field "check"))
          (noOtherKeys ["check"] t) := by
  unfold Custom.ofTable entry
  cases t.get? "check" with
  | none => rfl
  | some v =>
    dsimp only
    rcases LineRule.listOfSetting h root v s with ⟨e | cs, s'⟩ <;> rfl

theorem read_custom_ofTable (h : Host) (root : Option Path) (t : Table SettingLeaf) (s : Session) :
    Read (Custom.parts (.table t)) (Custom.Defaults t) (Custom.Breaks h root (.table t) s)
      (Custom.ofTable h root t s).1 := by
  rw [custom_ofTable_fst]
  have hread := Read.entry (fun v => read_listOfSetting h root v s) t "check" []
  generalize entry t "check" [] (fun v => (LineRule.listOfSetting h root v s).1) = result at hread
  cases hread with
  | ended he =>
    obtain ⟨v, hv, entries, hentries, hbreaks⟩ := he
    exact .ended ⟨t, v, entries, rfl, hv, hentries, hbreaks⟩
  | checked hextras hgood =>
    refine .checked ?_ fun c hc => ?_
    · rw [Custom.parts, Part.unknowns_ofRecord, Checked.extras_both, Checked.extras_under, hextras,
        Part.ofEntry, Part.unknowns_under]
    · obtain ⟨rules, -, hrules, -, rfl⟩ := Checked.both_eq_ok_iff.mp hc
      obtain ⟨hnone, hsome⟩ := hgood rules (Checked.under_eq_ok_iff.mp hrules)
      exact ⟨hnone, fun v entries hv => hsome v hv entries⟩

theorem read_custom_ofSetting (h : Host) (root : Option Path) (v : Setting) (s : Session) :
    Read (Custom.parts v) (fun c => ∀ t, v = .table t → Custom.Defaults t c)
      (Custom.Breaks h root v s) (Custom.ofSetting h root v s).1 := by
  cases v with
  | table t =>
    refine (read_custom_ofTable h root t s).imp rfl (fun c hc t' ht => ?_) fun _ => id
    cases ht
    exact hc
  | _ => exact .checked rfl nofun

/-! ## Whole configurations -/

/-- A setting that is absent has its default. -/
structure Defaults (t : Table SettingLeaf) (c : Config) : Prop where
  compile : t.get? "compile" = none → c.compile = {}
  withinCompile : ∀ u, t.get? "compile" = some (.table u) → Compile.Defaults u c.compile
  custom : t.get? "custom" = none → c.custom = {}
  withinCustom : ∀ u, t.get? "custom" = some (.table u) → Custom.Defaults u c.custom

theorem ofTable_fst (h : Host) (root : Option Path) (t : Table SettingLeaf) (s : Session) :
    (ofTable h root t s).1 =
      (entry t "compile" {} Compile.ofSetting).bind fun compile =>
        (entry t "custom" {} fun v => (Custom.ofSetting h root v s).1).map fun custom =>
          Checked.both (fun c _ => c)
            (Checked.both Config.mk (compile.under (.field "compile"))
              (custom.under (.field "custom")))
            (noOtherKeys ["compile", "custom"] t) := by
  unfold ofTable entry
  cases t.get? "compile" with
  | none =>
    cases t.get? "custom" with
    | none => rfl
    | some v =>
      dsimp only
      rcases Custom.ofSetting h root v s with ⟨e | c, s'⟩ <;> rfl
  | some w =>
    dsimp only
    rcases Compile.ofSetting w with e | compile
    · rfl
    · cases t.get? "custom" with
      | none => rfl
      | some v =>
        dsimp only
        rcases Custom.ofSetting h root v s with ⟨e | c, s'⟩ <;> rfl

theorem unknowns_parts (t : Table SettingLeaf) :
    Part.unknowns (parts t) =
      (Part.unknowns ((t.get? "compile").elim [] Compile.parts)).map (.field "compile" :: ·) ++
        (Part.unknowns ((t.get? "custom").elim [] Custom.parts)).map (.field "custom" :: ·) ++
        (noOtherKeys ["compile", "custom"] t).extras := by
  simp only [parts, Part.unknowns_ofRecord, Part.unknowns_append, Part.ofEntry,
    Part.unknowns_under]

/-- If there are no unknown keys in the settings of the interpreter, then there are none below their
place. -/
theorem not_unknown_compile {v : Setting} (hget : t.get? "compile" = some v)
    (hv : Part.unknowns (Compile.parts v) = []) (p : List Key) :
    ¬Unknown t (.field "compile" :: p) := by
  rw [unknown_iff, unknowns_parts, hget, Option.elim_some, hv, extras_noOtherKeys]
  simp

theorem read_ofTable (h : Host) (root : Option Path) (t : Table SettingLeaf) (s : Session) :
    Read (parts t) (Defaults t)
      (fun e => (∃ v, t.get? "compile" = some v ∧ Compile.Overflows v e ∧
          ∀ p, ¬Unknown t (.field "compile" :: p)) ∨
        ∃ v, t.get? "custom" = some v ∧ Custom.Breaks h root v s e)
      (ofTable h root t s).1 := by
  rw [ofTable_fst]
  have hcompile := Read.entry Compile.read_ofSetting t "compile" {}
  have hcustom := Read.entry (fun v => read_custom_ofSetting h root v s) t "custom" {}
  generalize entry t "compile" {} Compile.ofSetting = compile at hcompile
  generalize entry t "custom" {} (fun v => (Custom.ofSetting h root v s).1) = custom at hcustom
  cases hcompile with
  | ended he =>
    obtain ⟨v, hv, hover, hnone⟩ := he
    exact .ended (.inl ⟨v, hv, hover, not_unknown_compile hv hnone⟩)
  | checked hextras hgood =>
    cases hcustom with
    | ended he => exact .ended (.inr he)
    | checked hextras' hgood' =>
      refine .checked ?_ fun c hc => ?_
      · rw [unknowns_parts, Checked.extras_both, Checked.extras_both, Checked.extras_under,
          Checked.extras_under, hextras, hextras']
      · obtain ⟨c, -, hparts, -, rfl⟩ := Checked.both_eq_ok_iff.mp hc
        obtain ⟨compile, custom, hfirst, hsecond, rfl⟩ := Checked.both_eq_ok_iff.mp hparts
        obtain ⟨hnone, hsome⟩ := hgood compile (Checked.under_eq_ok_iff.mp hfirst)
        obtain ⟨hnone', hsome'⟩ := hgood' custom (Checked.under_eq_ok_iff.mp hsecond)
        exact ⟨hnone, fun u hu => hsome _ hu u rfl, hnone', fun u hu => hsome' _ hu u rfl⟩

/-- What becomes of settings. They are read, if no key is unknown, and with defaults for what is
absent; or they are refused, with one complaint of each unknown key, and of no other. Or the reading
ends: at a text that asks for more than a pattern can hold, with no unknown key in the settings of
the interpreter; or at a reference that fails and is not refused. -/
inductive Built (h : Host) (source : String) (root : Option Path) (t : Table SettingLeaf)
    (s : Session) : Except Failure Config → Prop where
  | accepted {c : Config} : (∀ p, ¬Unknown t p) → Defaults t c → Built h source root t s (.ok c)
  | refused {issues : List Issue} : (∀ p, Unknown t p → issues.count ⟨p, .extra⟩ = 1) →
    (∀ p, ⟨p, .extra⟩ ∈ issues → Unknown t p) →
    Built h source root t s (.error (.configInvalid source issues))
  | overflow {v : Setting} {e : Failure} : t.get? "compile" = some v → Compile.Overflows v e →
    (∀ p, ¬Unknown t (.field "compile" :: p)) → Built h source root t s (.error e)
  | broken {v : Setting} {e : Failure} : t.get? "custom" = some v → Custom.Breaks h root v s e →
    Built h source root t s (.error e)

theorem build_fst (h : Host) (source : String) (root : Option Path) (t : Table SettingLeaf)
    (s : Session) :
    (build h source root t s).1 = (ofTable h root t s).1.bind fun
      | .ok c => .ok c
      | .error issues => .error (.configInvalid source issues) := by
  unfold build
  rcases ofTable h root t s with ⟨e | issues | c, s'⟩ <;> rfl

/-- Settings with an unknown key are never read, and they are refused for each unknown key in each
of their tables, whatever else is wrong, unless the reading ends before. -/
theorem build_unknown_keys (hdistinct : Distinct t) (h : Host) (source : String)
    (root : Option Path) (s : Session) :
    Built h source root t s (build h source root t s).1 := by
  rw [build_fst]
  have hread := read_ofTable h root t s
  generalize (ofTable h root t s).1 = result at hread
  cases hread with
  | ended he =>
    rcases he with ⟨v, hv, hover, hnone⟩ | ⟨v, hv, hbreaks⟩
    · exact .overflow hv hover hnone
    · exact .broken hv hbreaks
  | @checked a hextras hgood =>
    cases a with
    | ok c =>
      refine .accepted (fun p hp => ?_) (hgood c rfl)
      rw [unknown_iff, ← hextras] at hp
      cases hp
    | error issues =>
      have hcount (p : List Key) :
          issues.count ⟨p, .extra⟩ = (Part.unknowns (parts t)).count p := by
        rw [← hextras]
        exact Checked.count_extra p (.error issues)
      refine .refused (fun p hp => ?_) fun p hp => ?_
      · rw [hcount]
        exact List.count_eq_one_of_mem (Part.nodup_unknowns (nodup_ways_parts t) hdistinct)
          (unknown_iff.mp hp)
      · rw [unknown_iff, ← List.count_pos_iff, ← hcount]
        exact List.count_pos_iff.mpr hp

/-- Settings with a key too many in each table, and not only that. -/
def misspelt : Table SettingLeaf :=
  [("compile", .table [("inc", .table [("lib", .null)]), ("skip", .text "("), ("Perl", .null)]),
    ("custom", .table [("check", .list [.int 3, .table [("file", .null)]]), ("checks", .null)]),
    ("compiler", .null)]

/-- Misspelt settings are refused for each of their five unknown keys. -/
theorem build_unknown_keys_misspelt :
    ∃ issues, (build oneModule "s" none misspelt {}).1 = .error (.configInvalid "s" issues) ∧
      ∀ p ∈ [[.field "compile", .field "inc", .field "lib"], [.field "compile", .field "Perl"],
          [.field "custom", .field "check", .index 1, .field "file"],
          [.field "custom", .field "checks"], [.field "compiler"]],
        issues.count ⟨p, .extra⟩ = 1 := by
  have hdistinct : Distinct misspelt := by
    unfold Distinct
    decide
  have hbuilt := build_unknown_keys hdistinct oneModule "s" none {}
  obtain ⟨issues, hresult⟩ : ∃ issues, (build oneModule "s" none misspelt {}).1 =
      .error (.configInvalid "s" issues) := ⟨_, rfl⟩
  rw [hresult] at hbuilt
  refine ⟨issues, hresult, fun p hp => ?_⟩
  have hunknown : Unknown misspelt p := by
    rw [unknown_iff]
    revert p
    decide
  cases hbuilt with
  | refused hall _ => exact hall p hunknown
  | overflow hget hover _ =>
    obtain ⟨t, sources, fault, -, -, -, hfault⟩ := hover
    cases hfault
  | broken hget hbreaks =>
    obtain ⟨t, rules, entries, rfl, hrules, hentries, hbreaks⟩ := hbreaks
    cases hget
    cases hrules
    cases hentries
    -- No entry refers to a predicate.
    rcases hbreaks with ⟨hcites, -, -⟩ | ⟨-, ⟨hcites, -, -⟩ | ⟨-, hbreaks⟩⟩
    · cases hcites
    · cases hcites with
      | table hpredicate => cases hpredicate
    · cases hbreaks

/-- Settings with texts of patterns and one key that is not documented. -/
def skipping (sources : List String) (key : String) : Table SettingLeaf :=
  [("compile", .table [("skip", .list (sources.map .text))]), (key, .null)]

/-- It is not so that settings with an unknown key are always refused as such. -/
theorem not_build_unknown_keys :
    ¬ ∀ (h : Host) (source : String) (root : Option Path) (sources : List String) (key : String)
        (s : Session), Unknown (skipping sources key) [.field key] →
        ∃ issues, (build h source root (skipping sources key) s).1 =
          .error (.configInvalid source issues) := by
  intro hall
  have hfailure : (match (build oneModule "s" none
      (skipping ["x\x7b4294967295\x7d"] "bogus") {}).1 with
      | .ok _ => none
      | .error e => some e) = some (.pattern .repeatCount) := by
    decide +kernel
  obtain ⟨issues, hissues⟩ := hall oneModule "s" none ["x\x7b4294967295\x7d"] "bogus" {}
    (unknown_iff.mpr (by decide))
  rw [hissues] at hfailure
  cases hfailure

end Config

end PerlVet
