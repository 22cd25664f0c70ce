import PerlVet.Config.Basic
import PerlVet.Proofs.Text

/-!
The files that a rule is for. An element of a pattern stands for a part of a name (`Item.Means`),
and a pattern matches a name that is made of such parts in order (`run_iff`). Matching never chooses
where a star ends: it keeps all rests of the name that the elements so far can leave. Each of them
is an end of those before it (`Nested`), so that after a star the first one stands for all. In a
glob without brackets every character is an element of its own (`itemsFrom_cons`), so that what a
glob describes can be told from its characters alone (`Describes`, `LineRule.covers_iff`).
-/

namespace PerlVet

namespace Glob
open Text

variable {item : Item} {items : List Item} {left : List (List Char)}
  {cs rest whole : List Char}

/-! ## Patterns -/

/-- An element of a pattern stands for a part of a name. -/
inductive Item.Means : Item → List Char → Prop where
  | many (part : List Char) : Means .many part
  | taken {item : Item} {c : Char} : item ≠ .many → item.takes c = true → Means item [c]

/-- Each text is an end of those that stand before it. -/
def Nested (left : List (List Char)) : Prop := left.Pairwise fun whole rest => rest <:+ whole

theorem mem_rests : rest ∈ rests whole ↔ rest <:+ whole := by
  induction whole with
  | nil => rw [rests, List.mem_singleton, List.suffix_nil]
  | cons c cs ih => rw [rests, List.mem_cons, ih, List.suffix_cons_iff]

theorem nested_rests (whole : List Char) : Nested (rests whole) := by
  induction whole with
  | nil => exact List.pairwise_singleton ..
  | cons c cs ih =>
    refine List.pairwise_cons.mpr ⟨?_, ih⟩
    intro rest hrest
    exact (mem_rests.mp hrest).trans (List.suffix_cons c cs)

/-- What an element other than a star leaves of a text. -/
def Item.after? (item : Item) : List Char → Option (List Char)
  | c :: cs => if item.takes c then some cs else none
  | [] => none

theorem step_eq_filterMap (hitem : item ≠ .many) :
    item.step left = left.filterMap item.after? := by
  cases item with
  | many => exact absurd rfl hitem
  | char | one | set => rfl

theorem after?_eq_some_iff :
    item.after? whole = some rest ↔ ∃ c, item.takes c = true ∧ c :: rest = whole := by
  cases whole with
  | nil => simp [Item.after?]
  | cons c cs =>
    rw [Item.after?]
    constructor
    · intro hrest
      split at hrest
      · next htakes =>
        cases hrest
        exact ⟨c, htakes, rfl⟩
      · cases hrest
    · rintro ⟨d, htakes, heq⟩
      cases heq
      exact if_pos htakes

theorem Nested.step (h : Nested left) (item : Item) : Nested (item.step left) := by
  by_cases hmany : item = .many
  · subst hmany
    cases left with
    | nil => exact .nil
    | cons longest left => exact nested_rests longest
  · rw [step_eq_filterMap hmany]
    refine h.filterMap _ ?_
    intro whole rest hend cs hcs ds hds
    obtain ⟨c, -, rfl⟩ := after?_eq_some_iff.mp hcs
    obtain ⟨d, -, rfl⟩ := after?_eq_some_iff.mp hds
    -- Both have lost their first character.
    rcases List.suffix_cons_iff.mp hend with heq | hend
    · cases heq
      exact List.suffix_refl _
    · exact (List.suffix_cons d ds).trans hend

/-- One more element takes a part off the front of what was left. -/
theorem mem_step (h : Nested left) :
    rest ∈ item.step left ↔ ∃ part, item.Means part ∧ part ++ rest ∈ left := by
  by_cases hmany : item = .many
  · subst hmany
    cases left with
    | nil => simp [Item.step]
    | cons longest left =>
      change rest ∈ rests longest ↔ _
      rw [mem_rests]
      constructor
      · rintro ⟨part, rfl⟩
        exact ⟨part, .many part, List.mem_cons_self⟩
      · rintro ⟨part, -, hwhole⟩
        apply (List.suffix_append part rest).trans
        -- What a star leaves of any text is an end of the longest one too.
        rcases List.mem_cons.mp hwhole with heq | hwhole
        · exact heq ▸ List.suffix_refl _
        · exact List.rel_of_pairwise_cons h hwhole
  · rw [step_eq_filterMap hmany, List.mem_filterMap]
    constructor
    · rintro ⟨whole, hwhole, hrest⟩
      obtain ⟨c, htakes, rfl⟩ := after?_eq_some_iff.mp hrest
      exact ⟨[c], .taken hmany htakes, hwhole⟩
    · rintro ⟨part, hpart, hwhole⟩
      cases hpart with
      | many => exact absurd rfl hmany
      | taken _ htakes => exact ⟨_, hwhole, after?_eq_some_iff.mpr ⟨_, htakes, rfl⟩⟩

theorem mem_foldl_step (h : Nested left) (items : List Item) :
    rest ∈ items.foldl Item.step left ↔
      ∃ part, MadeOf Item.Means items part ∧ part ++ rest ∈ left := by
  induction items generalizing left with
  | nil => simp [madeOf_nil_iff]
  | cons item items ih =>
    rw [List.foldl_cons, ih (h.step item)]
    constructor
    · rintro ⟨part, hpart, hleft⟩
      obtain ⟨first, hfirst, hleft⟩ := (mem_step h).mp hleft
      exact ⟨first ++ part, .cons hfirst hpart, by rwa [List.append_assoc]⟩
    · rintro ⟨_, hparts, hleft⟩
      obtain ⟨first, part, hfirst, hpart, rfl⟩ := madeOf_cons_iff.mp hparts
      rw [List.append_assoc] at hleft
      exact ⟨part, hpart, (mem_step h).mpr ⟨first, hfirst, hleft⟩⟩

/-- A pattern matches what is made of parts that its elements stand for. -/
theorem run_iff : run items cs = true ↔ MadeOf Item.Means items cs := by
  have hnested : Nested [cs] := List.pairwise_singleton ..
  simp [run, mem_foldl_step hnested]

/-! ## Globs without brackets -/

/-- A character of a glob stands for a part of a name, brackets apart: a star for any characters, a
question mark for one, and every other character for itself. -/
inductive Means : Char → List Char → Prop where
  | many (part : List Char) : Means '*' part
  | one (c : Char) : Means '?' [c]
  | self {c : Char} : c ≠ '*' → c ≠ '?' → Means c [c]

/-- The glob, which has no brackets, describes the whole of a text. -/
def Describes (glob text : String) : Prop := MadeOf Means glob.toList text.toList

theorem means_one_iff {part : List Char} : Item.one.Means part ↔ Means '?' part := by
  constructor
  · intro h
    cases h
    exact .one _
  · intro h
    cases h with
    | one c => exact .taken nofun rfl
    | self _ hmark => exact absurd rfl hmark

theorem means_char_iff {c : Char} (hstar : c ≠ '*') (hmark : c ≠ '?') {part : List Char} :
    (Item.char c).Means part ↔ Means c part := by
  constructor
  · intro h
    cases h with
    | taken _ htakes =>
      cases beq_iff_eq.mp htakes
      exact .self hstar hmark
  · intro h
    cases h with
    | many => exact absurd rfl hstar
    | one => exact absurd rfl hmark
    | self => exact .taken nofun (beq_self_eq_true c)

/-- A character that opens no brackets is an element of its own. -/
theorem itemsFrom_cons {c : Char} (hc : c ≠ '[') (cs : List Char) :
    ∃ item : Item, itemsFrom 0 (c :: cs) = item :: itemsFrom 0 cs ∧
      ∀ part, item.Means part ↔ Means c part := by
  by_cases hstar : c = '*'
  · subst hstar
    exact ⟨.many, rfl, fun part => iff_of_true (.many part) (.many part)⟩
  by_cases hmark : c = '?'
  · subst hmark
    exact ⟨.one, rfl, fun part => means_one_iff⟩
  · refine ⟨.char c, ?_, fun part => means_char_iff hstar hmark⟩
    rw [itemsFrom]
    all_goals assumption

theorem madeOf_itemsFrom (h : '[' ∉ cs) :
    MadeOf Item.Means (itemsFrom 0 cs) whole ↔ MadeOf Means cs whole := by
  induction cs generalizing whole with
  | nil => rw [itemsFrom, madeOf_nil_iff, madeOf_nil_iff]
  | cons c cs ih =>
    obtain ⟨hc, hcs⟩ := List.ne_and_not_mem_of_not_mem_cons h
    obtain ⟨item, hitems, hitem⟩ := itemsFrom_cons hc.symm cs
    simp only [hitems, madeOf_cons_iff, hitem, ih hcs]

theorem isMatch_iff {glob name : String} (h : '[' ∉ glob.toList) :
    isMatch glob name = true ↔ Describes glob name := by
  rw [isMatch, run_iff, parse, madeOf_itemsFrom h, Describes]

end Glob

/-! ## Rules -/

namespace LineRule
open Glob

/-- A rule whose globs have no brackets is for the files of which a glob describes the last
component or the whole path, and without any globs it is for all files. -/
theorem covers_iff {r : LineRule} (hplain : ∀ glob ∈ r.files, '[' ∉ glob.toList) (p : Path) :
    r.covers p = true ↔
      r.files = [] ∨ ∃ glob ∈ r.files, Describes glob p.name ∨ Describes glob p.text := by
  rw [covers, Bool.or_eq_true, List.isEmpty_iff, List.any_eq_true]
  refine or_congr_right (exists_congr fun glob => and_congr_right fun hglob => ?_)
  rw [Bool.or_eq_true, isMatch_iff (hplain glob hglob), isMatch_iff (hplain glob hglob)]

/-- A rule that says nothing, for test files and for modules in a directory. -/
def forModules : LineRule := ⟨⟨"silent", fun _ _ => .ok (.data .null), true⟩, ["*.t", "lib/?*.pm"]⟩

/-- The star reaches over a line break and a slash, and the question mark needs a character. -/
theorem covers_iff_forModules :
    (∀ glob ∈ forModules.files, '[' ∉ glob.toList) ∧
    (∃ glob ∈ forModules.files, Describes glob "C.pm" ∨ Describes glob "lib/a\nb/C.pm") ∧
    ¬Describes "lib/?*.pm" "lib/.pm" := by
  have hplain : ∀ glob ∈ forModules.files, '[' ∉ glob.toList := by decide
  refine ⟨hplain, ?_, fun hdescribes => ?_⟩
  · have hcovers : forModules.covers ⟨.relative, ["lib", "a\nb", "C.pm"]⟩ = true := by
      decide
    exact ((covers_iff hplain _).mp hcovers).resolve_left nofun
  · have hcovers : forModules.covers ⟨.relative, ["lib", ".pm"]⟩ = false := by decide
    have hmatched := (covers_iff hplain ⟨.relative, ["lib", ".pm"]⟩).mpr
      (.inr ⟨"lib/?*.pm", by decide, .inr hdescribes⟩)
    cases hcovers.symm.trans hmatched

end LineRule

end PerlVet
