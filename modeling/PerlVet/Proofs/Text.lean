import PerlVet.Text.Blank
import PerlVet.Text.Digit
import PerlVet.Text.Lines

/-!
Laws of the text functions: longest runs of characters of one kind (`Run`), decimal numerals read as
numbers (`readNumber_toDigits`), trimming (`dropRightWhile_eq_iff`, `trimmed_trim`), words
(`words_eq_iff`), cutting joined lines and pieces apart again (`splitLines_intercalate`,
`pieces_intercalate`), and texts that are put together from parts (`MadeOf`).
-/

namespace PerlVet.Text

/-! ## Runs -/

/-- A text is a longest run of characters that satisfy `p`, and the rest. -/
structure Run (p : Char → Bool) (run rest cs : List Char) : Prop where
  eq : cs = run ++ rest
  all : ∀ c ∈ run, p c = true
  stop : ∀ c ∈ rest.head?, p c = false

variable {p : Char → Bool} {run rest cs : List Char}

theorem run_takeWhile (p : Char → Bool) (cs : List Char) :
    Run p (cs.takeWhile p) (cs.drop (cs.takeWhile p).length) cs := by
  induction cs with
  | nil => exact ⟨rfl, by simp, by simp⟩
  | cons c cs ih =>
    obtain ⟨heq, hall, hstop⟩ := ih
    by_cases hc : p c = true
    · rw [List.takeWhile_cons_of_pos hc]
      refine ⟨by simpa using heq, ?_, hstop⟩
      intro d hd
      rcases List.mem_cons.mp hd with rfl | hd
      · exact hc
      · exact hall d hd
    · rw [List.takeWhile_cons_of_neg hc]
      exact ⟨rfl, by simp, by simpa using hc⟩

theorem Run.takeWhile_eq (h : Run p run rest cs) : cs.takeWhile p = run := by
  obtain ⟨rfl, hall, hstop⟩ := h
  rw [List.takeWhile_append_of_pos hall]
  cases rest with
  | nil => simp
  | cons c rest => simp [hstop c rfl]

theorem Run.drop_eq (h : Run p run rest cs) : cs.drop (cs.takeWhile p).length = rest := by
  rw [h.takeWhile_eq, h.eq, List.drop_left]

/-- A separator ends a run of other characters. -/
theorem run_append_cons {sep : Char} {u : List Char} (hu : sep ∉ u) (cs : List Char) :
    Run (· != sep) u (sep :: cs) (u ++ sep :: cs) :=
  ⟨rfl, fun _ hc => bne_iff_ne.mpr (ne_of_mem_of_not_mem hc hu), by simp⟩

theorem run_of_not_mem {sep : Char} {u : List Char} (hu : sep ∉ u) : Run (· != sep) u [] u :=
  ⟨(List.append_nil u).symm, fun _ hc => bne_iff_ne.mpr (ne_of_mem_of_not_mem hc hu), by simp⟩

theorem isPrefixOf_iff {w cs : List Char} : w.isPrefixOf cs = true ↔ ∃ t, cs = w ++ t := by
  rw [List.isPrefixOf_iff_prefix]
  exact ⟨fun ⟨t, h⟩ => ⟨t, h.symm⟩, fun ⟨t, h⟩ => ⟨t, h.symm⟩⟩

/-! ## Numerals -/

theorem isDigit_of_ascii {c : Char} (h : c.isDigit = true) : isDigit c = true := by
  have hc : 48 ≤ c.toNat ∧ c.toNat ≤ 57 := by simpa [Char.isDigit_iff_toNat] using h
  simp [isDigit, inRanges, digitRanges, hc]

theorem digitValue_of_ascii {c : Char} (h : c.isDigit = true) :
    digitValue c = c.toNat - 48 := by
  have hc : 48 ≤ c.toNat ∧ c.toNat ≤ 57 := by simpa [Char.isDigit_iff_toNat] using h
  simp only [digitValue, digitIn, digitRanges, hc.2, if_true]
  omega

theorem numberFrom_eq_ofDigitChars {cs : List Char} (h : ∀ c ∈ cs, c.isDigit = true) (acc : Nat) :
    numberFrom acc cs = Nat.ofDigitChars 10 cs acc := by
  induction cs generalizing acc with
  | nil => simp [numberFrom]
  | cons c cs ih =>
    rw [numberFrom, Nat.ofDigitChars_cons, digitValue_of_ascii (h c (by simp))]
    exact ih (fun d hd => h d (by simp [hd])) _

theorem isDigit_of_mem_toDigits {n : Nat} {c : Char} (h : c ∈ Nat.toDigits 10 n) :
    isDigit c = true :=
  isDigit_of_ascii (Nat.isDigit_of_mem_toDigits (by decide) (by decide) h)

theorem not_mem_toDigits {c : Char} (hc : isDigit c = false) (n : Nat) :
    c ∉ Nat.toDigits 10 n := by
  intro hmem
  rw [isDigit_of_mem_toDigits hmem] at hc
  cases hc

/-- A decimal numeral is read as the number it was made from. -/
theorem readNumber_toDigits {n : Nat} (h : (Nat.toDigits 10 n).length ≤ maxDigits) :
    readNumber (Nat.toDigits 10 n) = .ok n := by
  have hdigits : ∀ c ∈ Nat.toDigits 10 n, c.isDigit = true := fun c hc =>
    Nat.isDigit_of_mem_toDigits (by decide) (by decide) hc
  rw [readNumber, if_neg (by omega), number, numberFrom_eq_ofDigitChars hdigits,
    Nat.ofDigitChars_ten_toDigits]

/-! ## Trimming -/

/-- A text is left alone that ends in a character other than those to be dropped. -/
theorem dropRightWhile_append_singleton {c : Char} (h : p c = false) (cs : List Char) :
    dropRightWhile p (cs ++ [c]) = cs ++ [c] := by
  induction cs with
  | nil => simp [dropRightWhile, h]
  | cons d cs ih =>
    rw [List.cons_append, dropRightWhile, ih]
    split
    · next hnil => simp at hnil
    · rfl

theorem trimRight_append_singleton {c : Char} (h : isBlank c = false) (cs : List Char) :
    trimRight (cs ++ [c]) = cs ++ [c] :=
  dropRightWhile_append_singleton h cs

/-- A beginning that ends in another character than those to be dropped is kept. -/
theorem append_prefix_dropRightWhile {c : Char} (h : p c = false) (cs rest : List Char) :
    cs ++ [c] <+: dropRightWhile p (cs ++ c :: rest) := by
  induction cs with
  | nil =>
    rw [List.nil_append, List.nil_append, dropRightWhile]
    split
    · simp [h]
    · exact List.cons_prefix_cons.mpr ⟨rfl, List.nil_prefix⟩
  | cons d cs ih =>
    rw [List.cons_append, List.cons_append, dropRightWhile]
    split
    · next hnil =>
      rw [hnil] at ih
      simp at ih
    · exact List.cons_prefix_cons.mpr ⟨rfl, ih⟩

theorem dropRightWhile_prefix (p : Char → Bool) (cs : List Char) : dropRightWhile p cs <+: cs := by
  induction cs with
  | nil => exact List.prefix_rfl
  | cons c cs ih =>
    rw [dropRightWhile]
    split
    · split
      · exact List.nil_prefix
      · exact (List.cons_prefix_cons).mpr ⟨rfl, List.nil_prefix⟩
    · exact (List.cons_prefix_cons).mpr ⟨rfl, ih⟩

theorem dropRightWhile_eq_nil_iff : dropRightWhile p cs = [] ↔ ∀ c ∈ cs, p c = true := by
  induction cs with
  | nil => simp [dropRightWhile]
  | cons c cs ih =>
    rw [List.forall_mem_cons, ← ih, dropRightWhile]
    split
    · next hnil => simp [hnil]
    · next hkept => simpa using fun _ => hkept

theorem last_dropRightWhile : ∀ c ∈ (dropRightWhile p cs).getLast?, p c = false := by
  induction cs with
  | nil => simp [dropRightWhile]
  | cons d cs ih =>
    rw [dropRightWhile]
    split
    · by_cases hd : p d = true
      · simp [hd]
      · simp [hd]
    · next hkept =>
      rw [List.getLast?_cons]
      obtain ⟨c, hc⟩ := Option.ne_none_iff_exists'.mp (mt List.getLast?_eq_none_iff.mp hkept)
      simpa [hc] using ih c hc

theorem dropRightWhile_append (hrun : ∀ c ∈ run, p c = true) (cs : List Char) :
    dropRightWhile p (cs ++ run) = dropRightWhile p cs := by
  induction cs with
  | nil => exact dropRightWhile_eq_nil_iff.mpr hrun
  | cons c cs ih => rw [List.cons_append, dropRightWhile, dropRightWhile, ih]

theorem exists_dropRightWhile_append (p : Char → Bool) (cs : List Char) :
    ∃ run, cs = dropRightWhile p cs ++ run ∧ ∀ c ∈ run, p c = true := by
  induction cs with
  | nil => exact ⟨[], rfl, nofun⟩
  | cons c cs ih =>
    obtain ⟨run, hcs, hrun⟩ := ih
    rw [dropRightWhile]
    split
    · next hnil =>
      rw [hnil, List.nil_append] at hcs
      by_cases hc : p c = true
      · exact ⟨c :: run, by simp [hc, ← hcs], List.forall_mem_cons.mpr ⟨hc, hrun⟩⟩
      · exact ⟨run, by simp [hc, ← hcs], hrun⟩
    · exact ⟨run, by rw [List.cons_append, ← hcs], hrun⟩

/-- What is kept is followed by characters that are dropped, and does not end in such a one. -/
theorem dropRightWhile_eq_iff {kept : List Char} :
    dropRightWhile p cs = kept ↔
      (∃ run, cs = kept ++ run ∧ ∀ c ∈ run, p c = true) ∧ ∀ c ∈ kept.getLast?, p c = false := by
  constructor
  · rintro rfl
    exact ⟨exists_dropRightWhile_append p cs, last_dropRightWhile⟩
  · rintro ⟨⟨run, rfl, hrun⟩, hlast⟩
    rw [dropRightWhile_append hrun]
    rcases List.eq_nil_or_concat kept with rfl | ⟨front, c, rfl⟩
    · rfl
    · rw [List.concat_eq_append] at hlast ⊢
      exact dropRightWhile_append_singleton (hlast c (by simp)) front

theorem trimRight_isPrefix (cs : List Char) : trimRight cs <+: cs :=
  dropRightWhile_prefix isBlank cs

/-- A beginning that does not end in a blank is kept. -/
theorem prefix_trimRight {w : List Char} (h : w <+: cs) (hw : w.getLast?.any isBlank = false) :
    w <+: trimRight cs := by
  obtain ⟨rest, rfl⟩ := h
  rcases List.eq_nil_or_concat w with rfl | ⟨w, c, rfl⟩
  · exact List.nil_prefix
  · rw [List.concat_eq_append, ← List.append_cons]
    exact append_prefix_dropRightWhile (by simpa using hw) w rest

theorem trimRight_of_suffix {w : List Char} (h : w <:+ cs) (hne : w ≠ [])
    (hw : w.getLast?.any isBlank = false) : trimRight cs = cs := by
  obtain ⟨front, rfl⟩ := h
  rcases List.eq_nil_or_concat w with rfl | ⟨w, c, rfl⟩
  · exact absurd rfl hne
  · rw [List.concat_eq_append, ← List.append_assoc]
    exact trimRight_append_singleton (by simpa using hw) _

/-- A text has no blank at either end. -/
def Trimmed (cs : List Char) : Prop :=
  (∀ c ∈ cs.head?, isBlank c = false) ∧ ∀ c ∈ cs.getLast?, isBlank c = false

theorem trim_eq_nil_iff : trim cs = [] ↔ ∀ c ∈ cs, isBlank c = true := by
  rw [trim, trimRight, dropRightWhile_eq_nil_iff]
  induction cs with
  | nil => simp
  | cons c cs ih =>
    by_cases hc : isBlank c = true
    · rw [List.dropWhile_cons_of_pos hc, ih]
      simp [hc]
    · rw [List.dropWhile_cons_of_neg hc]

/-- Blanks around a text that has none at its ends are removed, and nothing else. -/
theorem trim_surrounded {front back : List Char} (hfront : ∀ c ∈ front, isBlank c = true)
    (hback : ∀ c ∈ back, isBlank c = true) (hcs : Trimmed cs) : trim (front ++ cs ++ back) = cs := by
  cases cs with
  | nil =>
    rw [List.append_nil, trim_eq_nil_iff]
    exact fun c hc => (List.mem_append.mp hc).elim (hfront c) (hback c)
  | cons c cs =>
    have hc : ¬isBlank c = true := by simp [hcs.1 c rfl]
    rw [trim, List.append_assoc, List.dropWhile_append_of_pos hfront, List.cons_append,
      List.dropWhile_cons_of_neg hc]
    exact dropRightWhile_eq_iff.mpr ⟨⟨back, rfl, hback⟩, hcs.2⟩

/-! ## Words -/

/-- The words of a text: longest runs of characters that are not blank, with blanks around them. -/
inductive Words : List Char → List (List Char) → Prop where
  | nil {gap : List Char} : (∀ c ∈ gap, isBlank c = true) → Words gap []
  | cons {gap word rest cs : List Char} {ws : List (List Char)} :
    (∀ c ∈ gap, isBlank c = true) → Run (!isBlank ·) word rest cs → word ≠ [] → Words rest ws →
    Words (gap ++ cs) (word :: ws)

theorem words_append {gap : List Char} (hgap : ∀ c ∈ gap, isBlank c = true) (cs : List Char) :
    words (gap ++ cs) = words cs := by
  unfold words
  induction gap with
  | nil => rfl
  | cons c gap ih =>
    rw [List.forall_mem_cons] at hgap
    simp [wordsFrom, hgap.1, ih hgap.2]

theorem wordsFrom_append (hrun : ∀ c ∈ run, isBlank c = false) (word cs : List Char) :
    wordsFrom word (run ++ cs) = wordsFrom (run.reverse ++ word) cs := by
  induction run generalizing word with
  | nil => rfl
  | cons c run ih =>
    rw [List.forall_mem_cons] at hrun
    simp [wordsFrom, hrun.1, ih hrun.2]

theorem Run.words_eq (h : Run (!isBlank ·) run rest cs) (hne : run ≠ []) :
    words cs = run :: words rest := by
  have hrun : ∀ c ∈ run, isBlank c = false := fun c hc => by simpa using h.all c hc
  rw [words, h.eq, wordsFrom_append hrun]
  cases rest with
  | nil => simp [wordsFrom, words, hne]
  | cons c rest =>
    have hc : isBlank c = true := by simpa using h.stop c rfl
    simp [wordsFrom, words, hc, hne]

theorem Words.words_eq {ws : List (List Char)} (h : Words cs ws) : words cs = ws := by
  induction h with
  | nil hgap =>
    have hwords := words_append hgap []
    rw [List.append_nil] at hwords
    exact hwords
  | cons hgap hrun hne _ ih => rw [words_append hgap, hrun.words_eq hne, ih]

theorem exists_words (cs : List Char) : ∃ ws, Words cs ws := by
  induction hn : cs.length using Nat.strongRecOn generalizing cs with
  | _ n ih =>
    obtain ⟨gap, after, hgap⟩ : ∃ gap after, Run isBlank gap after cs :=
      ⟨_, _, run_takeWhile isBlank cs⟩
    obtain ⟨word, rest, hword⟩ : ∃ word rest, Run (!isBlank ·) word rest after :=
      ⟨_, _, run_takeWhile (!isBlank ·) after⟩
    obtain ⟨rfl, hblank, hafter⟩ := hgap
    by_cases hne : word = []
    · -- What follows the gap would start with a blank and not with a blank.
      have hnil : after = [] := by
        rcases hhead : after.head? with _ | c
        · simpa using hhead
        · have hc := hafter c hhead
          rw [hword.eq, hne, List.nil_append] at hhead
          simpa [hc] using hword.stop c hhead
      rw [hnil, List.append_nil]
      exact ⟨[], .nil hblank⟩
    · have hlength := List.length_pos_iff.mpr hne
      have hshort : rest.length < n := by
        rw [← hn, hword.eq, List.length_append, List.length_append]
        omega
      obtain ⟨ws, hws⟩ := ih rest.length hshort rest rfl
      exact ⟨word :: ws, .cons hblank hword hne hws⟩

theorem words_eq_iff {ws : List (List Char)} : words cs = ws ↔ Words cs ws := by
  refine ⟨fun hws => ?_, Words.words_eq⟩
  obtain ⟨ws', hwords⟩ := exists_words cs
  rw [← hws, hwords.words_eq]
  exact hwords

/-! ## Lines -/

/-- The text stays within one line. -/
def OneLine (cs : List Char) : Prop := ∀ c ∈ cs, isLineBoundary c = false

instance (cs : List Char) : Decidable (OneLine cs) :=
  List.decidableBAll (isLineBoundary · = false) cs

theorem OneLine.append {cs ds : List Char} (hc : OneLine cs) (hd : OneLine ds) :
    OneLine (cs ++ ds) := by
  intro c h
  rcases List.mem_append.mp h with h | h
  · exact hc c h
  · exact hd c h

theorem not_isDigit_of_isLineBoundary {c : Char} (h : isLineBoundary c = true) :
    isDigit c = false := by
  simp only [isLineBoundary, Bool.or_eq_true, beq_iff_eq] at h
  rcases h with (((((((((rfl | rfl) | rfl) | rfl) | rfl) | rfl) | rfl) | rfl) | rfl) | rfl) <;>
    decide

theorem OneLine.newline_not_mem (h : OneLine cs) : '\n' ∉ cs := by
  intro hmem
  have := h _ hmem
  revert this
  decide

theorem splitLinesFrom_cons {c : Char} (hc : isLineBoundary c = false) (line cs : List Char) :
    splitLinesFrom line (c :: cs) = splitLinesFrom (c :: line) cs := by
  have hcr : (c == '\r') = false := by
    rw [beq_eq_false_iff_ne]
    rintro rfl
    exact absurd hc (by decide)
  simp [splitLinesFrom, hcr, hc]

theorem splitLinesFrom_append {u : List Char} (hu : OneLine u) (line cs : List Char) :
    splitLinesFrom line (u ++ cs) = splitLinesFrom (u.reverse ++ line) cs := by
  induction u generalizing line with
  | nil => rfl
  | cons c u ih =>
    rw [List.cons_append, splitLinesFrom_cons (hu c (by simp)),
      ih (fun d hd => hu d (by simp [hd]))]
    simp

/-- A newline closes a line. -/
theorem splitLines_newline {u : List Char} (hu : OneLine u) (cs : List Char) :
    splitLines (u ++ '\n' :: cs) = u :: splitLines cs := by
  rw [splitLines, splitLinesFrom_append hu, splitLinesFrom, if_neg (by simp), if_pos (by decide)]
  simp [splitLines]

/-- A carriage return in front of the newline belongs to it. -/
theorem splitLines_carriageReturn {u : List Char} (hu : OneLine u) (cs : List Char) :
    splitLines (u ++ '\r' :: '\n' :: cs) = u :: splitLines cs := by
  rw [splitLines, splitLinesFrom_append hu, splitLinesFrom, if_pos (by simp),
    ← splitLinesFrom_append hu]
  exact splitLines_newline hu cs

/-- The end of the text closes the last line. -/
theorem splitLines_of_oneLine {u : List Char} (hu : OneLine u) (hne : u ≠ []) :
    splitLines u = [u] := by
  have h := splitLinesFrom_append hu [] []
  rw [List.append_nil] at h
  simp [splitLines, h, splitLinesFrom, hne]

/-- Lines that are joined by newlines are cut apart again. -/
theorem splitLines_intercalate {lines : List (List Char)}
    (h : ∀ line ∈ lines, OneLine line ∧ line ≠ []) :
    splitLines (['\n'].intercalate lines) = lines := by
  induction lines with
  | nil => rfl
  | cons line lines ih =>
    obtain ⟨hline, hne⟩ := h line (by simp)
    cases lines with
    | nil => simpa [List.intercalate] using splitLines_of_oneLine hline hne
    | cons next lines =>
      have hrest := ih fun l hl => h l (by simp [hl])
      rw [List.intercalate_cons_cons, List.append_assoc]
      exact (splitLines_newline hline _).trans (congrArg (line :: ·) hrest)

/-! ## Pieces -/

theorem piecesFrom_append {sep : Char} {u : List Char} (hu : sep ∉ u) (piece cs : List Char) :
    piecesFrom sep piece (u ++ cs) = piecesFrom sep (u.reverse ++ piece) cs := by
  induction u generalizing piece with
  | nil => rfl
  | cons c u ih =>
    obtain ⟨hc, hu⟩ := List.ne_and_not_mem_of_not_mem_cons hu
    rw [List.cons_append, piecesFrom, if_neg (by simpa using hc.symm), ih hu]
    simp

/-- A separator closes a piece. -/
theorem pieces_append_cons {sep : Char} {u : List Char} (hu : sep ∉ u) (cs : List Char) :
    pieces sep (u ++ sep :: cs) = u :: pieces sep cs := by
  rw [pieces, piecesFrom_append hu, piecesFrom, if_pos (by simp)]
  simp [pieces]

theorem pieces_of_not_mem {sep : Char} {u : List Char} (hu : sep ∉ u) : pieces sep u = [u] := by
  have h := piecesFrom_append hu [] []
  rw [List.append_nil] at h
  simp [pieces, h, piecesFrom]

/-- Pieces that are joined by separators are cut apart again. -/
theorem pieces_intercalate {sep : Char} {ps : List (List Char)} (hne : ps ≠ [])
    (h : ∀ p ∈ ps, sep ∉ p) : pieces sep ([sep].intercalate ps) = ps := by
  induction ps with
  | nil => exact absurd rfl hne
  | cons p ps ih =>
    have hp : sep ∉ p := h p (by simp)
    cases ps with
    | nil => simpa [List.intercalate] using pieces_of_not_mem hp
    | cons next ps =>
      have hrest := ih (by simp) fun q hq => h q (by simp [hq])
      rw [List.intercalate_cons_cons, List.append_assoc]
      exact (pieces_append_cons hp _).trans (congrArg (p :: ·) hrest)

/-- Every text is made of pieces without separators. -/
theorem exists_intercalate (sep : Char) (cs : List Char) :
    ∃ ps, ps ≠ [] ∧ cs = [sep].intercalate ps ∧ ∀ p ∈ ps, sep ∉ p := by
  induction cs with
  | nil => exact ⟨[[]], by simp, rfl, by simp⟩
  | cons c cs ih =>
    obtain ⟨ps, hne, rfl, hps⟩ := ih
    obtain ⟨p, ps, rfl⟩ := List.exists_cons_of_ne_nil hne
    by_cases hc : c = sep
    · exact ⟨[] :: p :: ps, by simp, by simp [hc], List.forall_mem_cons.mpr ⟨by simp, hps⟩⟩
    · rw [List.forall_mem_cons] at hps
      refine ⟨(c :: p) :: ps, by simp, ?_, List.forall_mem_cons.mpr ⟨?_, hps.2⟩⟩
      · cases ps <;> simp
      · exact List.not_mem_cons_of_ne_of_not_mem (Ne.symm hc) hps.1

/-! ## Parts -/

/-- A text is made of parts, one for each element of a list, in its order. -/
inductive MadeOf {α : Type} (means : α → List Char → Prop) : List α → List Char → Prop where
  | nil : MadeOf means [] []
  | cons {x : α} {xs : List α} {part rest : List Char} :
    means x part → MadeOf means xs rest → MadeOf means (x :: xs) (part ++ rest)

variable {α : Type} {means : α → List Char → Prop} {x : α} {xs : List α}

theorem madeOf_nil_iff : MadeOf means [] cs ↔ cs = [] := by
  constructor
  · intro h
    cases h
    rfl
  · rintro rfl
    exact .nil

theorem madeOf_cons_iff : MadeOf means (x :: xs) cs ↔
    ∃ part rest, means x part ∧ MadeOf means xs rest ∧ part ++ rest = cs := by
  constructor
  · intro h
    cases h with
    | cons hpart hrest => exact ⟨_, _, hpart, hrest, rfl⟩
  · rintro ⟨part, rest, hpart, hrest, rfl⟩
    exact .cons hpart hrest

end PerlVet.Text
