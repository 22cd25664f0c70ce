import PerlVet.Inspector.Compilation
import PerlVet.Proofs.PatternSearch

/-!
The line that names an interpreter. A path has a last component (`LastComponent`), the words of the
line name an interpreter, perhaps by way of the program finder (`Interpreter`), and its name may end
in a version (`IsPerl`). From these comes the rule for which files are inspected
(`isForeign_eq_false_iff`); others are passed over, with a note in the log (`interpreter_rule`).
-/

namespace PerlVet

namespace Shebang

/-! ## Last components -/

/-- A piece of a path that does not count. -/
def isIdle (piece : List Char) : Bool := piece.isEmpty || piece == ['.']

/-- The last component of a path is the last of its pieces between slashes that counts; it is empty
if none of them does. -/
inductive LastComponent (word : List Char) : List Char → Prop where
  | name {front back : List (List Char)} {name : List Char} :
    word = ['/'].intercalate (front ++ name :: back) → (∀ p ∈ front ++ name :: back, '/' ∉ p) →
    isIdle name = false → (∀ p ∈ back, isIdle p = true) → LastComponent word name
  | none {pieces : List (List Char)} :
    word = ['/'].intercalate pieces → pieces ≠ [] → (∀ p ∈ pieces, isIdle p = true) →
    LastComponent word []

variable {word name : List Char} {pieces : List (List Char)}

theorem slash_not_mem_of_isIdle (hname : isIdle name = true) : '/' ∉ name := by
  simp only [isIdle, Bool.or_eq_true, List.isEmpty_iff, beq_iff_eq] at hname
  rcases hname with rfl | rfl <;> decide

theorem parts_ofString (hne : pieces ≠ []) (hslash : ∀ p ∈ pieces, '/' ∉ p) :
    (Path.ofString (String.ofList (['/'].intercalate pieces))).parts =
      (pieces.filter (!isIdle ·)).map String.ofList := by
  rw [Path.ofString, Path.partsOf, String.toList_ofList, Text.pieces_intercalate hne hslash]
  clear hne hslash
  induction pieces with
  | nil => rfl
  | cons p pieces ih =>
    dsimp only at ih ⊢
    rw [List.filterMap_cons, List.filter_cons, ih, ← isIdle]
    cases isIdle p <;> rfl

theorem lastComponent_intercalate (hne : pieces ≠ []) (hslash : ∀ p ∈ pieces, '/' ∉ p) :
    (lastComponent (['/'].intercalate pieces)).toList =
      (pieces.filter (!isIdle ·)).getLast?.getD [] := by
  rw [lastComponent, Path.name, parts_ofString hne hslash, List.getLast?_map]
  cases (pieces.filter (!isIdle ·)).getLast? <;> simp

theorem LastComponent.eq (h : LastComponent word name) : (lastComponent word).toList = name := by
  have hfilter {pieces : List (List Char)} (hidle : ∀ p ∈ pieces, isIdle p = true) :
      pieces.filter (!isIdle ·) = [] := by
    simpa using hidle
  cases h with
  | name hword hslash hname hback =>
    rw [hword, lastComponent_intercalate (by simp) hslash, List.filter_append,
      List.filter_cons_of_pos (by simpa using hname), hfilter hback]
    simp
  | none hword hne hidle =>
    rw [hword, lastComponent_intercalate hne fun p hp => slash_not_mem_of_isIdle (hidle p hp),
      hfilter hidle]
    rfl

/-- Pieces end with those after the last one that counts. -/
theorem exists_last_or_idle (pieces : List (List Char)) :
    (∃ front name back, pieces = front ++ name :: back ∧ isIdle name = false ∧
      ∀ p ∈ back, isIdle p = true) ∨
    ∀ p ∈ pieces, isIdle p = true := by
  induction pieces with
  | nil => exact .inr nofun
  | cons p pieces ih =>
    rcases ih with ⟨front, name, back, rfl, hname, hback⟩ | hidle
    · exact .inl ⟨p :: front, name, back, rfl, hname, hback⟩
    · cases hp : isIdle p with
      | true => exact .inr (List.forall_mem_cons.mpr ⟨hp, hidle⟩)
      | false => exact .inl ⟨[], p, pieces, rfl, hp, hidle⟩

theorem exists_lastComponent (word : List Char) : ∃ name, LastComponent word name := by
  obtain ⟨pieces, hne, hword, hslash⟩ := Text.exists_intercalate '/' word
  rcases exists_last_or_idle pieces with ⟨front, name, back, rfl, hname, hback⟩ | hidle
  · exact ⟨name, .name hword hslash hname hback⟩
  · exact ⟨[], .none hword hne hidle⟩

theorem lastComponent_eq_iff : (lastComponent word).toList = name ↔ LastComponent word name := by
  refine ⟨fun hname => ?_, LastComponent.eq⟩
  obtain ⟨name', hlast⟩ := exists_lastComponent word
  rw [← hname, hlast.eq]
  exact hlast

/-! ## The interpreter -/

/-- The program finder takes a word for an option or a variable. -/
def IsSetting (word : List Char) : Prop := word.head? = some '-' ∨ '=' ∈ word

/-- The word that names the interpreter is the first of those after the mark; after the program
finder, it is the first that this does not take for a setting. -/
inductive Interpreter : List (List Char) → List Char → Prop where
  | named {word name : List Char} {ws : List (List Char)} :
    LastComponent word name → name ≠ "env".toList → Interpreter (word :: ws) word
  | found {finder word : List Char} {front back : List (List Char)} :
    LastComponent finder "env".toList → (∀ w ∈ front, IsSetting w) → ¬IsSetting word →
    Interpreter (finder :: (front ++ word :: back)) word

theorem isEnvSetting_iff : isEnvSetting word = true ↔ IsSetting word := by
  simp [isEnvSetting, IsSetting]

theorem interpreterWord?_eq_some_iff {ws : List (List Char)} :
    interpreterWord? ws = some word ↔ Interpreter ws word := by
  cases ws with
  | nil => exact ⟨nofun, nofun⟩
  | cons first ws =>
    rw [interpreterWord?]
    obtain ⟨name, hname⟩ := exists_lastComponent first
    have henv : lastComponent first = "env" ↔ name = "env".toList := by
      rw [← hname.eq, String.toList_inj]
    split
    · next hfinder =>
      have hfinder := henv.mp (beq_iff_eq.mp hfinder)
      rw [hfinder] at hname
      simp only [List.find?_eq_some_iff_append, Bool.not_eq_true', Bool.not_not,
        ← Bool.not_eq_true, isEnvSetting_iff]
      constructor
      · rintro ⟨hword, front, back, rfl, hfront⟩
        exact .found hname hfront hword
      · rintro (⟨hname', hne⟩ | ⟨-, hfront, hword⟩)
        · exact absurd (hname'.eq.symm.trans hname.eq) hne
        · exact ⟨hword, _, _, rfl, hfront⟩
    · next hfinder =>
      have hne := mt henv.mpr (by simpa using hfinder)
      constructor
      · rintro h
        cases h
        exact .named hname hne
      · rintro (_ | ⟨hfinder', -, -⟩)
        · rfl
        · exact absurd (hname.eq.symm.trans hfinder'.eq) hne

/-! ## Names with a version -/

/-- A name that ends in `perl` once all characters of a version have been taken from its end. -/
def IsPerl (name : List Char) : Prop :=
  ∃ stem version, name = stem ++ version ∧ (∀ c ∈ version, isVersionChar c = true) ∧
    (∀ c ∈ stem.getLast?, isVersionChar c = false) ∧ "perl".toList <:+ stem

theorem namesPerl_iff {name : String} : namesPerl name = true ↔ IsPerl name.toList := by
  rw [namesPerl, List.isSuffixOf_iff_suffix]
  constructor
  · intro hsuffix
    obtain ⟨⟨version, hname, hversion⟩, hlast⟩ := Text.dropRightWhile_eq_iff.mp rfl
    exact ⟨_, version, hname, hversion, hlast, hsuffix⟩
  · rintro ⟨stem, version, hname, hversion, hlast, hsuffix⟩
    rw [Text.dropRightWhile_eq_iff.mpr ⟨⟨version, hname, hversion⟩, hlast⟩]
    exact hsuffix

/-- Only a version may follow the name. -/
theorem isPerl_iff :
    IsPerl name ↔ ∃ front version, name = front ++ "perl".toList ++ version ∧
      ∀ c ∈ version, isVersionChar c = true := by
  constructor
  · rintro ⟨_, version, rfl, hversion, -, front, rfl⟩
    exact ⟨front, version, rfl, hversion⟩
  · rintro ⟨front, version, rfl, hversion⟩
    refine ⟨_, version, rfl, hversion, ?_, front, rfl⟩
    have hlast : (front ++ "perl".toList).getLast? = some 'l' := by simp
    simp only [hlast, Option.mem_some_iff, forall_eq']
    decide

section
open Pattern

variable {text : Array Char}

/-- The characters of a version, as members of a set. -/
def versionItems : List Item := [.category .digit false, .char '.'.toNat, .char '-'.toNat]

/-- The pattern for the name of an interpreter with a version. -/
def versioned : Pattern where
  source := "perl[\\d.-]*$"
  parts := "perl".toList.map (.char ·.toNat) ++
    [.loop .greedy 0 none [.set false versionItems], .anchor .lineEnd]
  flags := {}
  widths := #[]

/-- The test for that pattern; patterns cannot be compared as they are. -/
def isVersioned (p : Pattern) : Bool :=
  match p.parts with
  | [.char a, .char b, .char c, .char d, .loop .greedy 0 none [.set false items],
      .anchor .lineEnd] =>
    [a, b, c, d] == ['p'.toNat, 'e'.toNat, 'r'.toNat, 'l'.toNat] && items == versionItems &&
      p.source == versioned.source && p.flags == {} && p.widths == #[]
  | _ => false

theorem eq_versioned {p : Pattern} (hp : isVersioned p = true) : p = versioned := by
  obtain ⟨source, parts, flags, widths⟩ := p
  unfold isVersioned at hp
  split at hp
  · next hparts =>
    simp only [Bool.and_eq_true, beq_iff_eq] at hp
    obtain ⟨⟨⟨⟨hcodes, rfl⟩, rfl⟩, rfl⟩, rfl⟩ := hp
    cases hcodes
    cases hparts
    rfl
  · cases hp

theorem parse_versioned : Pattern.parse versioned.source = .ok versioned := by
  have hparse : (match Pattern.parse versioned.source with
      | .ok p => isVersioned p
      | .error _ => false) = true := by
    decide +kernel
  split at hparse
  · next p hp => rw [hp, eq_versioned hparse]
  · cases hparse

theorem setTakes_versionItems (c : Char) : setTakes {} false versionItems c = isVersionChar c := by
  have hchar (d : Char) : (d.toNat == c.toNat) = (c == d) := by
    rw [Bool.eq_iff_iff, beq_iff_eq, beq_iff_eq, Char.toNat_inj, eq_comm]
  have hfolds (items : List Item) : foldsSet {} items = false := rfl
  simp only [setTakes, versionItems, hfolds, Bool.false_eq_true, if_false, List.any_cons,
    List.any_nil, Item.holds, Category.holds, hchar, Bool.bne_false, Bool.or_false, isVersionChar,
    Bool.or_assoc]

/-- The name stands at a position, and nothing but a version after it. -/
theorem matchesAt_versioned (hline : '\n' ∉ text.toList) (i : Nat) :
    versioned.matchesAt text i = true ↔ ∃ version, text.toList.drop i = "perl".toList ++ version ∧
      ∀ c ∈ version, isVersionChar c = true := by
  have hparts : versioned.parts = "perl".toList.map (.char ·.toNat) ++
      [.loop .greedy 0 none [.set false versionItems], .anchor .lineEnd] := rfl
  have hflags : versioned.flags = {} := rfl
  have hlength : "perl".toList.length = 4 := rfl
  rw [matchesAt, hparts, hflags, runAll_chars rfl, hlength, Bool.and_eq_true, Text.isPrefixOf_iff,
    ← exists_and_right]
  refine exists_congr fun version => and_congr_right fun hdrop => ?_
  have hsize : i + 4 ≤ text.size := by
    have hrest := congrArg List.length hdrop
    rw [List.length_drop, Array.length_toList, List.length_append, hlength] at hrest
    omega
  have hversion : text.toList.drop (i + 4) = version := by
    rw [← List.drop_drop, hdrop]
    rfl
  rw [runAll_loop (by simp [versionItems]) hline hsize, hversion, List.all_eq_true]
  simp only [setTakes_versionItems]

theorem candidates_versioned (text : Array Char) :
    versioned.candidates text = if text.size < 4 then [] else List.range text.size := by
  have hleast : (widthAll versioned.groupWidth versioned.parts).lo = 4 := by decide +kernel
  have hbegin : beginExact? versioned.flags versioned.parts = some true := by decide +kernel
  have hentry : versioned.entry = .anyChar := by
    unfold entry
    rw [hbegin]
  rw [candidates, hleast, hentry]
  rfl

/-- In a name without line breaks, the pattern is found if and only if it is the name of the
interpreter. -/
theorem isMatch_versioned (hline : '\n' ∉ name) :
    versioned.isMatch (String.ofList name) = true ↔ IsPerl name := by
  rw [isMatch, String.toList_ofList, candidates_versioned, List.any_eq_true, isPerl_iff]
  simp only [matchesAt_versioned hline, List.size_toArray]
  constructor
  · rintro ⟨i, -, version, hdrop, hversion⟩
    refine ⟨name.take i, version, ?_, hversion⟩
    rw [List.append_assoc, ← hdrop, List.take_append_drop]
  · rintro ⟨front, version, rfl, hversion⟩
    refine ⟨front.length, ?_, version, ?_, hversion⟩
    · have hsize : 4 + front.length ≤ (front ++ "perl".toList ++ version).length := by
        simp
        omega
      rw [if_neg (by omega), List.mem_range]
      omega
    · rw [List.append_assoc, List.drop_left]

end

/-! ## The rule -/

/-- The text is that of a line, without a byte order mark in front. -/
def Unmarked (line text : List Char) : Prop :=
  line = '\uFEFF' :: text ∨ (line = text ∧ line.head? ≠ some '\uFEFF')

theorem dropByteOrderMark_eq_iff {line text : List Char} :
    dropByteOrderMark line = text ↔ Unmarked line text := by
  unfold dropByteOrderMark Unmarked
  split
  · simp
  · next hmark =>
    have hhead : line.head? ≠ some '\uFEFF' := by
      intro hhead
      obtain ⟨rest, rfl⟩ := List.head?_eq_some_iff.mp hhead
      exact hmark rest rfl
    constructor
    · rintro rfl
      exact .inr ⟨rfl, hhead⟩
    · rintro (rfl | ⟨rfl, -⟩)
      · exact absurd rfl hhead
      · rfl

/-- The rule for the first line. -/
def ForPerl (line : List Char) : Prop :=
  ∃ text, Unmarked line text ∧
    (¬['#', '!'] <+: text ∨
    ∃ rest ws word name, text = '#' :: '!' :: rest ∧ Text.Words rest ws ∧ Interpreter ws word ∧
      LastComponent word name ∧ IsPerl name)

theorem isForeign_eq_false_iff {line : List Char} : isForeign line = false ↔ ForPerl line := by
  simp only [ForPerl, ← dropByteOrderMark_eq_iff, exists_eq_left']
  unfold isForeign
  generalize dropByteOrderMark line = text
  split
  · next rest =>
    have hmark : ['#', '!'] <+: '#' :: '!' :: rest := ⟨rest, rfl⟩
    simp only [hmark, not_true_eq_false, false_or, List.cons.injEq, true_and]
    constructor
    · intro hperl
      split at hperl
      · next word hword =>
        refine ⟨rest, _, word, _, rfl, Text.words_eq_iff.mp rfl,
          interpreterWord?_eq_some_iff.mp hword, lastComponent_eq_iff.mp rfl,
          namesPerl_iff.mp (by simpa using hperl)⟩
      · cases hperl
    · rintro ⟨_, ws, word, name, rfl, hws, hword, hname, hperl⟩
      rw [hws.words_eq, interpreterWord?_eq_some_iff.mpr hword]
      rw [← hname.eq, ← namesPerl_iff] at hperl
      simp [hperl]
  · next hplain =>
    refine iff_of_true rfl (.inl ?_)
    rintro ⟨rest, rfl⟩
    exact hplain rest rfl

/-- The rule for the first line, in words and names; the names are those in which the pattern
`perl[\d.-]*$` is found, as words hold no line breaks. A file to which the rule does not apply is
passed over: nothing is said of it, no architecture name is asked for and no command is run. -/
theorem interpreter_rule :
    (∀ line, isForeign line = false ↔ ForPerl line) ∧
    (∃ p, Pattern.parse "perl[\\d.-]*$" = .ok p ∧
      ∀ name, '\n' ∉ name → (p.isMatch (String.ofList name) = true ↔ IsPerl name)) ∧
    ∀ (c : Compilation) (h : Host) (target : Path) (s : Session) (line : List Char),
      h.fileHead target = .ok line → isForeign line = true →
      let s' := s.note .compilation
        ("skipping " ++ target.text ++ ": shebang names another interpreter")
      c.inspect h target s = (.ok [], c, s') ∧ s'.calls = s.calls ∧
        s'.architectures = s.architectures := by
  refine ⟨fun line => isForeign_eq_false_iff, ⟨_, parse_versioned, fun name => isMatch_versioned⟩,
    fun c h target s line hhead hforeign => ?_⟩
  refine ⟨?_, rfl, rfl⟩
  simp only [Compilation.inspect, hhead, hforeign, if_true]

/-- A host with one file. -/
def scripted (text : String) : Host where
  tree := ⟨[(["a"], .file (Text.Utf8.encode text.toList) false)]⟩
  cwd := []
  environment := []
  homes := []
  bundled := ⟨.root, []⟩
  modules := []

/-- With options, variables and parts of a path that do not count, a line is for the interpreter. A
script for another one is passed over. -/
theorem interpreter_rule_env :
    let c : Compilation := { config := {}, root := ⟨.root, []⟩ }
    let script := c.inspect (scripted "#!/usr/bin/env -S perl=b python3\n") ⟨.root, ["a"]⟩ {}
    ForPerl "\uFEFF#! /usr/bin/env -S A=b /opt/xperl5.36/./".toList ∧
    script.1 = .ok [] ∧ script.2.2.calls = [] ∧ script.2.2.architectures = [] := by
  intro c script
  obtain ⟨hrule, -, hskip⟩ := interpreter_rule
  have hhead : (scripted "#!/usr/bin/env -S perl=b python3\n").fileHead ⟨.root, ["a"]⟩ =
      .ok "#!/usr/bin/env -S perl=b python3".toList := rfl
  obtain ⟨hscript, hcalls, harchitectures⟩ := hskip c _ _ {} _ hhead (by decide)
  refine ⟨(hrule _).mp (by decide), ?_⟩
  rw [show script = _ from hscript]
  exact ⟨rfl, hcalls, harchitectures⟩

end Shebang

end PerlVet
