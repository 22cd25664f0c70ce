import PerlVet.Proofs.Variants

/-!
Restatements. Compilation that failed is reported once more at the end, in wordings of a few kinds
(`Repeats`), some of which may name a place in the file. Such lines never announce an abort
(`Repeats.no_abort`), and all but those of one kind are known by their wording
(`Repeats.says_nothing`): that no more blocks are run is only passed over if it goes on in one
particular way. Otherwise such a line is read like any other, and the report is empty exactly if
none of them has anything to say (`readLines_repeats`).
-/

namespace PerlVet.Output
open Text

variable {file line w first last : List Char} {lines : List (List Char)} {status : Option Int}
  {n : Nat}

/-- The line repeats that there were errors, or says that there were none. -/
inductive Repeats (line : List Char) : Prop where
  | notSafe : "BEGIN not safe after errors".toList <+: line → Repeats line
  | errors : "had compilation errors.".toList <:+ line → Repeats line
  | clean : " syntax OK".toList <:+ line → Repeats line
  | stopped : "Execution of ".toList <+: line →
    " aborted due to compilation errors.".toList <:+ line → Repeats line

/-! ## Restatements announce no abort -/

theorem trimRight_of_restatementEnds (hw : w ∈ restatementEnds) (h : w <:+ line) :
    trimRight line = line := by
  have hends : ∀ w ∈ restatementEnds, w ≠ [] ∧ w.getLast?.any isBlank = false := by
    decide
  exact trimRight_of_suffix h (hends w hw).1 (hends w hw).2

theorem AbortsAt.begins (h : AbortsAt file line n) :
    "BEGIN failed--compilation aborted".toList <+: line := by
  obtain ⟨digits, -, -, hline⟩ := h
  have htrimmed : "BEGIN failed--compilation aborted".toList <+: trimRight line := by
    rw [hline]
    exact List.prefix_append ..
  exact htrimmed.trans (trimRight_isPrefix line)

theorem AbortsAt.ends (h : AbortsAt file line n) :
    ∃ front d, isDigit d = true ∧ trimRight line = front ++ [d, '.'] := by
  obtain ⟨digits, hnumeral, -, hline⟩ := h
  obtain ⟨front, d, hd, hends⟩ := hnumeral.ends ("BEGIN failed--compilation aborted".toList ++
    (" at ".toList ++ (file ++ " line ".toList)))
  refine ⟨front, d, hd, ?_⟩
  rw [hline, ← hends]
  simp only [List.append_assoc]

theorem AbortsAt.not_suffix (h : AbortsAt file line n) (hw : w ∈ restatementEnds) :
    ¬w <:+ line := by
  intro hsuffix
  obtain ⟨front, d, hd, hends⟩ := h.ends
  rw [trimRight_of_restatementEnds hw hsuffix] at hends
  rw [hends] at hsuffix
  exact not_suffix_numeral_stop hw hd hsuffix

theorem Repeats.no_abort (h : Repeats line) (file : List Char) : ∀ n, ¬AbortsAt file line n := by
  intro n habort
  cases h with
  | notSafe hbegins =>
    -- Of two beginnings of one line, one begins the other.
    rcases List.prefix_or_prefix_of_prefix hbegins habort.begins with hbegins | hbegins
    · exact absurd hbegins (by decide)
    · exact absurd hbegins (by decide)
  | errors hends => exact habort.not_suffix (.head _) hends
  | clean hends => exact habort.not_suffix (.tail _ (.head _)) hends
  | stopped _ hends => exact habort.not_suffix (.tail _ (.tail _ (.head _))) hends

/-! ## What restatements say -/

theorem readLine_of_no_place (h : ¬" at ".toList <:+: trimRight line) :
    readLine file line = .ok none := by
  have hwhole : locate file (trimRight line) = none := by
    refine locate_eq_none_iff.mpr fun l hcuts => h ?_
    rw [hcuts.eq, mark_append]
    exact ⟨l.message, _, List.append_assoc ..⟩
  simp [readLine, hwhole]

theorem dropFinalNewline_of_not_mem (h : '\n' ∉ line) : dropFinalNewline line = line := by
  have hlast : line.getLast? ≠ some '\n' := fun hlast => h (List.mem_of_getLast? hlast)
  simp [dropFinalNewline, hlast]

/-- The wordings of a restatement, for a text that stays on its line. -/
theorem isRestatement_iff (h : '\n' ∉ line) :
    isRestatement line = true ↔
      "BEGIN failed--compilation aborted".toList <+: line ∨
      "BEGIN not safe after errors--compilation aborted".toList <+: line ∨
      "had compilation errors.".toList <:+ line ∨ " syntax OK".toList <:+ line ∨
      framed "Execution of ".toList " aborted due to compilation errors.".toList line = true := by
  simp only [isRestatement, dropFinalNewline_of_not_mem h, Bool.or_eq_true,
    List.isPrefixOf_iff_prefix, List.isSuffixOf_iff_suffix, or_assoc, abortMessage]

/-- A line is framed by its beginning and its end, or they share some characters. -/
theorem framed_or_overlap (hfirst : first <+: line) (hlast : last <:+ line) (h : '\n' ∉ line) :
    framed first last line = true ∨
      ∃ front shared, first = front ++ shared ∧ shared <+: last ∧ shared ≠ [] ∧
        line = front ++ last := by
  obtain ⟨rest, rfl⟩ := hfirst
  obtain ⟨front, hline⟩ := hlast
  have hframed (middle : List Char) (hrest : rest = middle ++ last) :
      framed first last (first ++ rest) = true := by
    subst hrest
    simp only [List.mem_append, not_or] at h
    simp [framed, List.isPrefixOf_iff_prefix, List.isSuffixOf_iff_suffix, h.2.1]
  obtain ⟨shared, hshared, hrest⟩ | ⟨middle, -, hrest⟩ := List.append_eq_append_iff.mp hline
  · by_cases hnil : shared = []
    · subst hnil
      exact .inl (hframed [] hrest.symm)
    · exact .inr ⟨front, shared, hshared, ⟨rest, hrest.symm⟩, hnil, hline.symm⟩
  · exact .inl (hframed middle hrest)

/-- A line that begins and ends like a restatement of the last kind is one, unless the two share a
blank; and then it names no place. -/
theorem readLine_of_stopped (hfirst : "Execution of ".toList <+: line)
    (hlast : " aborted due to compilation errors.".toList <:+ line) (h : '\n' ∉ line) :
    readLine file line = .ok none := by
  have htrimmed := trimRight_of_restatementEnds (.tail _ (.tail _ (.head _))) hlast
  rcases framed_or_overlap hfirst hlast h with hframed | ⟨front, shared, hfront, hshared, hne, rfl⟩
  · refine readLine_of_isRestatement ?_
    rw [htrimmed]
    exact (isRestatement_iff h).mpr (.inr (.inr (.inr (.inr hframed))))
  · have hblank : ∀ shared ∈ "Execution of ".toList.tails,
        shared <+: " aborted due to compilation errors.".toList → shared = [] ∨ shared = [' '] := by
      decide
    have hsuffix : shared ∈ "Execution of ".toList.tails :=
      (List.mem_tails ..).mpr ⟨front, hfront.symm⟩
    obtain rfl : shared = [' '] := (hblank shared hsuffix hshared).resolve_left hne
    obtain rfl : front = "Execution of".toList := (List.append_inj_left' hfront rfl).symm
    refine readLine_of_no_place ?_
    rw [htrimmed]
    decide

/-- A line that repeats what was said says nothing more, provided that it goes on as expected where
no more blocks are run. -/
theorem Repeats.says_nothing (h : Repeats line) (hplain : '\n' ∉ line)
    (hsafe : "BEGIN not safe after errors".toList <+: line →
      "BEGIN not safe after errors--compilation aborted".toList <+: line) :
    readLine file line = .ok none := by
  cases h with
  | notSafe hbegins =>
    have hplain' : '\n' ∉ trimRight line := fun hmem =>
      hplain ((trimRight_isPrefix line).subset hmem)
    have htrimmed := prefix_trimRight (hsafe hbegins) (by decide)
    exact readLine_of_isRestatement ((isRestatement_iff hplain').mpr (.inr (.inl htrimmed)))
  | errors hends =>
    refine readLine_of_isRestatement ?_
    rw [trimRight_of_restatementEnds (.head _) hends]
    exact (isRestatement_iff hplain).mpr (.inr (.inr (.inl hends)))
  | clean hends =>
    refine readLine_of_isRestatement ?_
    rw [trimRight_of_restatementEnds (.tail _ (.head _)) hends]
    exact (isRestatement_iff hplain).mpr (.inr (.inr (.inr (.inl hends))))
  | stopped hbegins hends => exact readLine_of_stopped hbegins hends hplain

/-! ## Reports of restatements -/

theorem steps_of_silent (h : ∀ line ∈ lines, Silent file line) (p : Progress) :
    (Progress.steps file lines p).map Progress.found = .ok p.found := by
  induction lines generalizing p with
  | nil => rfl
  | cons line lines ih =>
    rw [Progress.steps, (h line (by simp)).step]
    exact ih (fun line' hmem => h line' (List.mem_cons_of_mem line hmem)) ⟨p.found, false⟩

/-- Lines that say nothing give an empty report. -/
theorem readLines_of_silent (hstatus : status = none ∨ status = some 0)
    (h : ∀ line ∈ lines, Silent file line) : readLines file status lines = .ok [] := by
  have hread := readLines_append file status [] lines
  rw [List.nil_append] at hread
  rw [hread, Progress.steps, Except.bind, steps_of_silent h, Except.map,
    settle_of_success hstatus]
  rfl

/-- No line of an empty report says anything. -/
theorem readLine_of_readLines_nil (h : readLines file status lines = .ok []) (hline : line ∈ lines) :
    readLine file line = .ok none := by
  obtain ⟨i, hi⟩ := List.mem_iff_getElem?.mp hline
  obtain ⟨p, hsteps, -⟩ := map_ok h
  have heffect := Progress.effect_after hsteps hi
  generalize Progress.after file lines (i + 1) = q at heffect
  cases heffect with
  | @remark f hread =>
    obtain ⟨g, hg, -⟩ := record_final h (List.getElem?_eq_some_iff.mp hi).1
      (adds_of_readLine hsteps hi hread).2.1
    simp at hg
  | silent hread => exact hread
  | blame _ habort => exact habort.readLine
  | abort _ habort => exact habort.readLine

/-- Nothing is found in lines that repeat what was said, unless one of them says that no more blocks
are run, does not go on as expected and is read as a remark of its own. -/
theorem readLines_repeats (hstatus : status = none ∨ status = some 0)
    (hlines : ∀ line ∈ lines, '\n' ∉ line ∧ Repeats line) :
    readLines file status lines = .ok [] ↔
      ∀ line ∈ lines, "BEGIN not safe after errors".toList <+: line →
        ¬"BEGIN not safe after errors--compilation aborted".toList <+: line →
        readLine file line = .ok none := by
  constructor
  · intro h line hline _ _
    exact readLine_of_readLines_nil h hline
  · intro h
    refine readLines_of_silent hstatus fun line hline => ?_
    obtain ⟨hplain, hrepeats⟩ := hlines line hline
    refine ⟨hrepeats.no_abort file, ?_⟩
    by_cases hsafe : "BEGIN not safe after errors".toList <+: line →
        "BEGIN not safe after errors--compilation aborted".toList <+: line
    · exact hrepeats.says_nothing hplain hsafe
    · obtain ⟨hbegins, hother⟩ := Classical.not_imp.mp hsafe
      exact h line hline hbegins hother

/-- Restatements of all kinds, some of which name a place in the file. -/
theorem readLines_repeats_places :
    readLines "f".toList (some 0)
      ["BEGIN not safe after errors--compilation aborted at f line 3.".toList,
        "BEGIN not safe after errors.".toList, "odd at f line 3, f had compilation errors.".toList,
        "odd at f line 3, syntax OK".toList,
        "Execution of odd at f line 3, f aborted due to compilation errors.".toList,
        "Execution of aborted due to compilation errors.".toList] = .ok [] := by
  refine (readLines_repeats (.inr rfl) ?_).mpr ?_
  · simp only [List.forall_mem_cons, List.not_mem_nil, false_imp_iff, implies_true, and_true]
    exact ⟨⟨by decide, .notSafe (by decide)⟩, ⟨by decide, .notSafe (by decide)⟩,
      ⟨by decide, .errors (by decide)⟩, ⟨by decide, .clean (by decide)⟩,
      ⟨by decide, .stopped (by decide) (by decide)⟩, ⟨by decide, .stopped (by decide) (by decide)⟩⟩
  · intro line hline _ _
    revert line hline
    decide

/-- That no more blocks are run is read as a remark if it is said in other words. -/
theorem not_readLines_repeats :
    ¬∀ (file : List Char) (status : Option Int) (lines : List (List Char)),
      status = none ∨ status = some 0 → (∀ line ∈ lines, '\n' ∉ line ∧ Repeats line) →
      readLines file status lines = .ok [] := by
  intro h
  have hempty := h "f".toList none
    ["BEGIN not safe after errors - compilation aborted at f line 3.".toList] (.inl rfl)
    (fun line hline => by
      obtain rfl := List.mem_singleton.mp hline
      exact ⟨by decide, .notSafe (by decide)⟩)
  revert hempty
  decide

end PerlVet.Output
