import PerlVet.Proofs.Records

/-!
When a warning becomes an error. A line that announces an abort is put down to the remark of an
earlier line in two cases, which are told from the lines alone (`Blames`); they are those in which
the finding of that line is raised while the report is read (`hits_iff_blames`), and so its severity
is known after every line (`record_severity`). At the end the exit status raises one more finding,
if no other is an error (`raised_iff`).
-/

namespace PerlVet.Output
open Text

variable {file line : List Char} {lines : List (List Char)} {status : Option Int}
  {found : List Finding} {p : Progress} {f g : Finding} {i j n : Nat}

/-! ## Aborts and what they are put down to -/

/-- Line `j` announces an abort that is put down to the remark of line `i` about line `n` of the
file: it follows right after, or it is about the same line and nothing was added in between. -/
inductive Blames (file : List Char) (lines : List (List Char)) (i n j : Nat) : Prop where
  | next {line : List Char} {m : Nat} : j = i + 1 → lines[j]? = some line → 1 ≤ m →
    AbortsAt file line m → Blames file lines i n j
  | same {line : List Char} : i < j → lines[j]? = some line → 1 ≤ n → AbortsAt file line n →
    (∀ k, i < k → k < j → ¬Adds file lines k) → Blames file lines i n j

theorem Blames.bounds (h : Blames file lines i n j) : i < j ∧ j < lines.length := by
  cases h with
  | next hnext hline =>
    exact ⟨by omega, (List.getElem?_eq_some_iff.mp hline).1⟩
  | same hlt hline => exact ⟨hlt, (List.getElem?_eq_some_iff.mp hline).1⟩

/-- Only a remark leaves the run fresh, and only for the line after it. -/
theorem adds_of_fresh (h : Progress.steps file lines {} = .ok p) (hj : j ≤ lines.length)
    (hfresh : (Progress.after file lines j).fresh = true) : ∃ i, j = i + 1 ∧ Adds file lines i := by
  cases j with
  | zero => cases hfresh
  | succ i =>
    have hline := List.getElem?_eq_getElem hj
    have heffect := Progress.effect_after h hline
    generalize hq : Progress.after file lines (i + 1) = q at hfresh heffect
    cases heffect with
    | remark hread => exact ⟨i, rfl, (adds_of_readLine h hline hread).1⟩
    | silent => cases hfresh
    | blame => cases hfresh
    | abort => cases hfresh

/-- An abort raises the finding of a remark exactly if it is put down to that remark. -/
theorem hits_iff_blames (h : Progress.steps file lines {} = .ok p) (hline : lines[i]? = some line)
    (hread : readLine file line = .ok (some f)) (hij : i < j) (hg : g.line = f.line) :
    Hits file lines j (position file lines i) g ↔ Blames file lines i f.line j := by
  obtain ⟨hadds, -, hfresh⟩ := adds_of_readLine h hline hread
  have hlast := position_eq_iff h hadds hij
  constructor
  · rintro ⟨hlatest, line', n, hline', hpos, habort, hfresh' | hsame⟩
    · have hj := (List.getElem?_eq_some_iff.mp hline').1
      obtain ⟨k, rfl, hk⟩ := adds_of_fresh h (Nat.le_of_lt hj) hfresh'
      have hki : k = i := by
        refine Nat.le_antisymm (Nat.le_of_not_lt fun hik => ?_) (Nat.le_of_lt_succ hij)
        exact hlast.mp hlatest k hik (Nat.lt_succ_self k) hk
      exact .next (congrArg (· + 1) hki) hline' hpos habort
    · have hn : n = f.line := hsame.symm.trans hg
      subst hn
      exact .same hij hline' hpos habort (hlast.mp hlatest)
  · intro hblames
    cases hblames with
    | @next line' m hnext hline' hpos habort =>
      subst hnext
      exact ⟨hlast.mpr fun k hik hki => by omega, line', m, hline', hpos, habort, .inl hfresh⟩
    | @same line' _ hline' hpos habort hnone =>
      exact ⟨hlast.mpr hnone, line', f.line, hline', hpos, habort, .inr hg⟩

/-- After some more lines, the finding of a remark is an error if it was one from the start or if
one of those lines announces an abort that is put down to it. -/
theorem record_severity (h : Progress.steps file lines {} = .ok p) (hline : lines[i]? = some line)
    (hread : readLine file line = .ok (some f)) (hij : i < j) (hj : j ≤ lines.length) :
    ∃ g, recordAt file lines j (position file lines i) = some g ∧ f.KeptAs g ∧
      (g.severity = .error ↔
        f.severity = .error ∨ ∃ k < j, Blames file lines i f.line k) := by
  induction hij with
  | refl =>
    refine ⟨f, (adds_of_readLine h hline hread).2.1, .refl f, .inl, ?_⟩
    rintro (herror | ⟨k, hk, hblames⟩)
    · exact herror
    · have := hblames.bounds
      omega
  | @step j hij ih =>
    obtain ⟨g, hg, hkept, hseverity⟩ := ih (Nat.le_of_succ_le hj)
    have hhits := hits_iff_blames h hline hread hij hkept.line
    rcases record_next h (List.getElem?_eq_getElem hj) hg with ⟨hsame, hspared⟩ | ⟨hraised, hhit⟩
    · refine ⟨g, hsame, hkept, hseverity.trans (or_congr_right ?_)⟩
      constructor
      · rintro ⟨k, hk, hblames⟩
        exact ⟨k, Nat.lt_succ_of_lt hk, hblames⟩
      · rintro ⟨k, hk, hblames⟩
        rcases Nat.lt_succ_iff_lt_or_eq.mp hk with hk | rfl
        · exact ⟨k, hk, hblames⟩
        · exact absurd (hhits.mpr hblames) hspared
    · refine ⟨g.raised, hraised, hkept.trans (.raised g), fun _ => ?_, fun _ => rfl⟩
      exact .inr ⟨j, Nat.lt_succ_self j, hhits.mp hhit⟩

/-! ## Errors without the exit status -/

/-- Some finding is an error whatever the exit status is: by its wording, because an abort is put
down to it, or as the record of an abort. -/
def ErrorShown (file : List Char) (lines : List (List Char)) : Prop :=
  ∃ i line, lines[i]? = some line ∧
    ((∃ f, readLine file line = .ok (some f) ∧
        (f.severity = .error ∨ ∃ j, Blames file lines i f.line j)) ∨
      Adds file lines i ∧ ∃ n, 1 ≤ n ∧ AbortsAt file line n)

/-- The severity of the finding of a remark when all lines have been read. -/
theorem last_severity (h : Progress.steps file lines {} = .ok p) (hline : lines[i]? = some line)
    (hread : readLine file line = .ok (some f)) :
    ∃ g, p.found.reverse[position file lines i]? = some g ∧ f.KeptAs g ∧
      (g.severity = .error ↔ f.severity = .error ∨ ∃ j, Blames file lines i f.line j) := by
  have hi := (List.getElem?_eq_some_iff.mp hline).1
  obtain ⟨g, hg, hkept, hseverity⟩ := record_severity h hline hread hi (Nat.le_refl _)
  rw [recordAt, Progress.after_length h] at hg
  refine ⟨g, hg, hkept, hseverity.trans (or_congr_right ?_)⟩
  constructor
  · rintro ⟨j, -, hblames⟩
    exact ⟨j, hblames⟩
  · rintro ⟨j, hblames⟩
    exact ⟨j, hblames.bounds.2, hblames⟩

theorem hasError_iff (h : Progress.steps file lines {} = .ok p) :
    HasError p.found ↔ ErrorShown file lines := by
  constructor
  · rintro ⟨g, hg, herror⟩
    obtain ⟨k, hk⟩ := List.mem_iff_getElem?.mp (List.mem_reverse.mpr hg)
    have hk' : recordAt file lines lines.length k = some g := by
      rw [recordAt, Progress.after_length h, hk]
    obtain ⟨i, -, hadds, rfl⟩ := exists_adds h (recordAt_lt hk')
    obtain ⟨line, hline, ⟨f, hread⟩ | ⟨n, hpos, habort, -⟩⟩ := hadds.cases h
    · obtain ⟨g', hg', -, hseverity⟩ := last_severity h hline hread
      cases hk.symm.trans hg'
      exact ⟨i, line, hline, .inl ⟨f, hread, hseverity.mp herror⟩⟩
    · exact ⟨i, line, hline, .inr ⟨hadds, n, hpos, habort⟩⟩
  · rintro ⟨i, line, hline, ⟨f, hread, herror⟩ | ⟨hadds, n, hpos, habort⟩⟩
    · obtain ⟨g, hg, -, hseverity⟩ := last_severity h hline hread
      exact ⟨g, List.mem_reverse.mp (List.mem_of_getElem? hg), hseverity.mpr herror⟩
    · obtain ⟨line', hline', ⟨f, hread⟩ | ⟨m, -, -, hrecord⟩⟩ := hadds.cases h
      · cases hline.symm.trans hline'
        cases hread.symm.trans habort.readLine
      · obtain ⟨g, hg, hkept⟩ := record_kept h hadds.lt_length (Nat.le_refl _) hrecord
        rw [recordAt, Progress.after_length h] at hg
        exact ⟨g, List.mem_reverse.mp (List.mem_of_getElem? hg), hkept.error rfl⟩

/-! ## Warnings that become errors -/

/-- A warning becomes an error if an abort is put down to it, or if the interpreter failed, nothing
comes after it and no other finding is an error; otherwise it stays a warning. -/
theorem raised_iff (h : readLines file status lines = .ok found) (hline : lines[i]? = some line)
    (hread : readLine file line = .ok (some f)) (hwarning : f.severity = .warning) :
    ∃ g, found[position file lines i]? = some g ∧ g.message = f.message ∧ g.line = f.line ∧
      (g.severity = .error ↔
        (∃ j, Blames file lines i f.line j) ∨
        (∃ n, status = some n ∧ n ≠ 0) ∧ position file lines i + 1 = found.length ∧
          ¬ErrorShown file lines) := by
  obtain ⟨p, hsteps, rfl⟩ := map_ok h
  obtain ⟨g, hg, hkept, hseverity⟩ := last_severity hsteps hline hread
  have hblamed : g.severity = .error ↔ ∃ j, Blames file lines i f.line j := by
    simpa [hwarning] using hseverity
  rcases settle_outcome status p.found with ⟨hcalm, hsame⟩ |
    ⟨n, hstatus, hn, hcalm, ⟨hnone, -⟩ | ⟨last, rest, hfound, hraised⟩⟩
  · refine ⟨g, by rw [hsame, hg], hkept.message, hkept.line, hblamed.trans ⟨.inl, ?_⟩⟩
    rintro (hblames | ⟨⟨n, hstatus, hn⟩, -, hclean⟩)
    · exact hblames
    · rcases hcalm with hzero | herror
      · exact absurd (hzero n hstatus) hn
      · exact absurd ((hasError_iff hsteps).mp herror) hclean
  · simp [hnone] at hg
  · have hclean : ¬ErrorShown file lines := fun hshown => hcalm ((hasError_iff hsteps).mpr hshown)
    have hspared : ¬∃ j, Blames file lines i f.line j := fun hblames =>
      hcalm ⟨g, List.mem_reverse.mp (List.mem_of_getElem? hg), hblamed.mpr hblames⟩
    rw [hfound] at hg
    rw [hraised]
    rcases raised_record hg with ⟨hearlier, hsame⟩ | ⟨hlast, rfl, hlatest⟩
    · refine ⟨g, hsame, hkept.message, hkept.line, hblamed.trans ⟨.inl, ?_⟩⟩
      rintro (hblames | ⟨-, hlength, -⟩)
      · exact hblames
      · simp only [List.length_reverse, List.length_cons] at hlength
        omega
    · refine ⟨g.raised, hlatest, hkept.message, hkept.line, fun _ => .inr ?_, fun _ => rfl⟩
      exact ⟨⟨n, hstatus, hn⟩, by simp [hlast], hclean⟩

/-- A remark that an abort about the same line raises, and one that nothing raises. -/
theorem raised_iff_same_line :
    let lines := ["odd at f line 3.".toList, "noise".toList,
      "BEGIN failed--compilation aborted at f line 3.".toList, "late at f line 5.".toList]
    readLines "f".toList (some 1) lines =
      .ok [⟨⟨.error, "odd"⟩, 3⟩, ⟨⟨.warning, "late"⟩, 5⟩] ∧
    (∃ j, Blames "f".toList lines 0 3 j) ∧ ¬∃ j, Blames "f".toList lines 3 5 j := by
  intro lines
  have hread : readLines "f".toList (some 1) lines =
      .ok [⟨⟨.error, "odd"⟩, 3⟩, ⟨⟨.warning, "late"⟩, 5⟩] := by decide
  have hfirst : position "f".toList lines 0 = 0 := by decide
  have hsecond : position "f".toList lines 3 = 1 := by decide
  obtain ⟨g, hg, -, -, hodd⟩ := raised_iff (i := 0) (f := ⟨⟨.warning, "odd"⟩, 3⟩) hread rfl
    (by decide) rfl
  obtain ⟨g', hg', -, -, hlate⟩ := raised_iff (i := 3) (f := ⟨⟨.warning, "late"⟩, 5⟩) hread rfl
    (by decide) rfl
  rw [hfirst] at hg hodd
  rw [hsecond] at hg'
  cases hg
  cases hg'
  refine ⟨hread, ?_, fun hblames => nomatch hlate.mpr (.inl hblames)⟩
  rcases hodd.mp rfl with hblames | ⟨-, hlast, -⟩
  · exact hblames
  · cases hlast

end PerlVet.Output
