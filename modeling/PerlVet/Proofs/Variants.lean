import PerlVet.Proofs.LineGrammar
import PerlVet.Proofs.Records

/-!
Outputs that are read alike. A line that says nothing (`Silent`) leaves no trace but that what was
found before it is no longer fresh, and that is forgotten at the next line that announces no abort;
so it can stand anywhere else or be left out (`readLines_without_silent`). Behind a place, the last
input handle may be named in the place of a full stop; only in a line that announces an abort is it
not expected, and such a line is passed over (`readLines_handle`). How the lines of an output are
ended makes no difference (`read_joined`).
-/

namespace PerlVet.Output
open Text

variable {file line line' x y message digits name unit count tail text : List Char}
  {lines lines' front back : List (List Char)} {status : Option Int} {p q : Progress}
  {l l' : Located}

/-! ## Lines without effect -/

/-- The line neither says anything about the file nor announces an abort in it. -/
structure Silent (file line : List Char) : Prop where
  no_abort : ∀ n, ¬AbortsAt file line n
  says_nothing : readLine file line = .ok none

theorem abortDigits?_eq_none_iff :
    abortDigits? file (trimRight line) = none ↔ ∀ n, ¬AbortsAt file line n := by
  constructor
  · intro hnone n habort
    obtain ⟨digits, hdigits, -⟩ := abortsAt_iff.mp habort
    rw [hnone] at hdigits
    cases hdigits
  · intro h
    cases hdigits : abortDigits? file (trimRight line) with
    | none => rfl
    | some digits => exact absurd (abortsAt_iff.mpr ⟨digits, hdigits, rfl⟩) (h _)

theorem Silent.step (h : Silent file line) (p : Progress) :
    p.step file line = .ok ⟨p.found, false⟩ := by
  simp only [Progress.step, abortDigits?_eq_none_iff.mpr h.no_abort, h.says_nothing]
  rfl

theorem silent_nil (file : List Char) : Silent file [] where
  no_abort := by
    refine abortDigits?_eq_none_iff.mp ?_
    simp [abortDigits?, trimRight, dropRightWhile, abortMessage]
  says_nothing := rfl

/-- Only an abort depends on whether the line before gave the latest finding. -/
theorem Progress.step_congr (h : ∀ n, ¬AbortsAt file line n) (hfound : p.found = q.found) :
    p.step file line = q.step file line := by
  simp only [Progress.step, abortDigits?_eq_none_iff.mpr h, hfound]

/-- Two runs that have found the same find the same in lines that do not begin with an abort. -/
theorem Progress.steps_found_congr (hfound : p.found = q.found)
    (hlines : ∀ line ∈ lines.head?, ∀ n, ¬AbortsAt file line n) :
    (Progress.steps file lines p).map Progress.found =
      (Progress.steps file lines q).map Progress.found := by
  cases lines with
  | nil => simp only [Progress.steps, Except.map, hfound]
  | cons line lines => rw [Progress.steps, Progress.steps, step_congr (hlines line rfl) hfound]

/-- After the first lines, a report depends only on what the others find. -/
theorem readLines_append (file : List Char) (status : Option Int) (front lines : List (List Char)) :
    readLines file status (front ++ lines) =
      (Progress.steps file front {}).bind fun p =>
        ((Progress.steps file lines p).map Progress.found).map fun found =>
          (settle status found).reverse := by
  rw [readLines, Progress.steps_append]
  cases Progress.steps file front {} with
  | error e => rfl
  | ok p =>
    simp only [Except.bind]
    cases Progress.steps file lines p with
    | error e => rfl
    | ok q => rfl

theorem readLines_append_congr
    (h : ∀ p : Progress, (Progress.steps file lines p).map Progress.found =
      (Progress.steps file lines' p).map Progress.found) :
    readLines file status (front ++ lines) = readLines file status (front ++ lines') := by
  simp only [readLines_append, h]

theorem Silent.steps_cons (hx : Silent file x)
    (hback : ∀ line ∈ back.head?, ∀ n, ¬AbortsAt file line n) (p : Progress) :
    (Progress.steps file (x :: back) p).map Progress.found =
      (Progress.steps file back p).map Progress.found := by
  rw [Progress.steps, hx.step]
  exact Progress.steps_found_congr rfl hback

/-- A line that says nothing about the file can be left out of a report or put into it, except right
before a line that announces an abort; and then whatever the exit status is. -/
theorem readLines_without_silent (hx : Silent file x)
    (hback : ∀ line ∈ back.head?, ∀ n, ¬AbortsAt file line n) :
    readLines file status (front ++ [x] ++ back) = readLines file status (front ++ back) := by
  rw [List.append_assoc]
  exact readLines_append_congr (hx.steps_cons hback)

/-- What is said about another file is left out, and a warning is raised all the same. -/
theorem readLines_without_silent_elsewhere :
    readLines "f".toList (some 255) (["odd at f line 3.".toList] ++ ["loud at g line 3.".toList] ++
        ["late at f line 5.".toList]) =
      readLines "f".toList (some 255) (["odd at f line 3.".toList] ++
        ["late at f line 5.".toList]) := by
  have hx : Silent "f".toList "loud at g line 3.".toList :=
    ⟨abortDigits?_eq_none_iff.mp (by decide), by decide⟩
  refine readLines_without_silent hx fun line hline => ?_
  obtain rfl : "late at f line 5.".toList = line := Option.some.inj hline
  exact abortDigits?_eq_none_iff.mp (by decide)

/-- Without the line between them, the abort would be put down to the remark. -/
example :
    readLines "f".toList none (["odd at f line 3.".toList] ++ ["noise".toList] ++
      ["BEGIN failed--compilation aborted at f line 4.".toList]) =
      .ok [⟨⟨.warning, "odd"⟩, 3⟩, ⟨⟨.error, "BEGIN failed--compilation aborted"⟩, 4⟩] ∧
    readLines "f".toList none (["odd at f line 3.".toList] ++
      ["BEGIN failed--compilation aborted at f line 4.".toList]) =
      .ok [⟨⟨.error, "odd"⟩, 3⟩] := by
  decide

/-! ## The last input handle -/

/-- A line about a place: the message, the place and what stands behind it. -/
def placed (file message digits tail : List Char) : List Char :=
  message ++ (" at ".toList ++ (file ++ (" line ".toList ++ (digits ++ tail))))

theorem Located.Ends.head (h : l.Ends) : ∀ c ∈ l.tail.head?, isDigit c = false := by
  intro c hc
  rcases h with htail | ⟨name, unit, count, -, htail⟩
  · obtain rfl : '.' = c := by simpa [htail] using hc
    decide
  · obtain rfl : ',' = c := by simpa [htail, handleText] using hc
    decide

theorem Located.Ends.finding_eq (h : l.Ends) (h' : l'.Ends) (hmessage : l.message = l'.message) :
    l.finding = l'.finding := by
  funext n
  simp only [Located.finding, ends_iff.mp h, ends_iff.mp h', hmessage, if_true]

/-- The line is taken apart at its last place, and it ends behind it. -/
structure Located.Closes (file line : List Char) (l : Located) : Prop where
  last : l.Last file line
  ends : l.Ends

theorem closes_placed (hmessage : message ≠ []) (hplain : '\n' ∉ message)
    (hdigits : IsNumeral digits) (hends : Located.Ends ⟨message, digits, tail⟩)
    (htail : '\n' ∉ tail) (hlast : NoLaterPlace file (mark file ++ (digits ++ tail))) :
    Located.Closes file (placed file message digits tail) ⟨message, digits, tail⟩ := by
  have hcuts : Located.Cuts (mark file) (placed file message digits tail)
      ⟨message, digits, tail⟩ :=
    ⟨by rw [placed, mark_append], hmessage, hdigits.1, hdigits.2, hends.head, hplain, htail⟩
  exact ⟨last_iff.mpr (hcuts.locate_eq hlast), hends⟩

/-- A line that announces an abort has its last place there. -/
theorem last_of_abortDigits (h : abortDigits? file line = some digits) :
    Located.Last file line ⟨abortMessage.toList, digits, ['.']⟩ := by
  obtain ⟨hnumeral, hline⟩ := abortDigits?_eq_some_iff.mp h
  rw [List.append_assoc, mark_append] at hline
  rw [hline]
  exact (closes_placed (by decide) (by decide) hnumeral (.inl rfl) (by decide)
    (noLaterPlace_stop hnumeral.2)).last

namespace Located.Closes

theorem line_eq (h : l.Closes file line) : line = placed file l.message l.digits l.tail := by
  rw [h.last.cuts.eq, mark_append, placed]

theorem line_ends (h : l.Closes file line) :
    ∃ front d, isDigit d = true ∧ line = front ++ [d, '.'] := by
  rw [h.last.cuts.eq, ← List.append_assoc]
  exact place_ends ⟨h.last.cuts.digits_ne, h.last.cuts.digits⟩ h.ends _

theorem isEmpty_eq (h : l.Closes file line) : line.isEmpty = false := by
  obtain ⟨front, d, -, hline⟩ := h.line_ends
  simp [hline]

theorem trimRight_eq (h : l.Closes file line) : trimRight line = line := by
  obtain ⟨front, d, -, hline⟩ := h.line_ends
  rw [hline, List.append_cons]
  exact trimRight_append_singleton (by decide) _

/-- Whether the line is a restatement is seen from its message. -/
theorem isRestatement_iff (h : l.Closes file line) :
    isRestatement line = true ↔
      "BEGIN failed--compilation aborted".toList <+: l.message ++ " at ".toList ∨
      "BEGIN not safe after errors--compilation aborted".toList <+:
        l.message ++ " at ".toList := by
  obtain ⟨front, d, hd, hline⟩ := h.line_ends
  rw [h.line_eq] at hline ⊢
  exact isRestatement_place_iff hd hline

/-- Lines with the same message about the same place say the same, however they end behind it. -/
theorem readLine_eq (h : l.Closes file line) (h' : l'.Closes file line')
    (hmessage : l.message = l'.message) (hdigits : l.digits = l'.digits) :
    readLine file line = readLine file line' := by
  have hrestates : isRestatement line = isRestatement line' := by
    rw [Bool.eq_iff_iff, h.isRestatement_iff, h'.isRestatement_iff, hmessage]
  simp only [readLine, h.trimRight_eq, h'.trimRight_eq, h.isEmpty_eq, h'.isEmpty_eq, hrestates,
    last_iff.mp h.last, last_iff.mp h'.last, hdigits, h.ends.finding_eq h'.ends hmessage]

/-- Of the lines that end behind their place, only those announce an abort that have the message of
an abort and a full stop. -/
theorem no_abort (h : l.Closes file line)
    (hother : l.message ≠ abortMessage.toList ∨ l.tail ≠ ['.']) :
    ∀ n, ¬AbortsAt file line n := by
  intro n habort
  obtain ⟨digits, hdigits, -⟩ := abortsAt_iff.mp habort
  rw [h.trimRight_eq] at hdigits
  obtain rfl := h.last.unique (last_of_abortDigits hdigits)
  exact hother.elim (· rfl) (· rfl)

theorem step_eq (h : l.Closes file line) (h' : l'.Closes file line')
    (hmessage : l.message = l'.message) (hdigits : l.digits = l'.digits)
    (hother : l.message ≠ abortMessage.toList) (p : Progress) :
    p.step file line = p.step file line' := by
  have hnone := abortDigits?_eq_none_iff.mpr (h.no_abort (.inl hother))
  have hnone' := abortDigits?_eq_none_iff.mpr (h'.no_abort (.inl (hmessage ▸ hother)))
  simp only [Progress.step, hnone, hnone', h.readLine_eq h' hmessage hdigits]

/-- With the message of an abort, but without the full stop, a line is passed over. -/
theorem silent (h : l.Closes file line) (hmessage : l.message = abortMessage.toList)
    (htail : l.tail ≠ ['.']) : Silent file line where
  no_abort := h.no_abort (.inr htail)
  says_nothing := by
    refine readLine_of_isRestatement ?_
    rw [h.trimRight_eq, h.isRestatement_iff, hmessage]
    exact .inl (List.prefix_append ..)

end Located.Closes

theorem newline_not_mem_handleText (h : IsHandle name unit count) (hname : '\n' ∉ name) :
    '\n' ∉ handleText name unit count := by
  have hunits : ∀ u ∈ handleUnits, '\n' ∉ u := by decide
  have hcount : '\n' ∉ count := fun hmem => absurd (h.count_numeral.2 _ hmem) (by decide)
  simp [handleText, hname, hunits unit h.unit_mem, hcount]

theorem handleText_ne_stop (name unit count : List Char) : handleText name unit count ≠ ['.'] := by
  simp [handleText]

/-- Two lines that do the same can stand for each other. -/
theorem readLines_replace (h : ∀ p : Progress, p.step file x = p.step file y) :
    readLines file status (front ++ [x] ++ back) = readLines file status (front ++ [y] ++ back) := by
  rw [List.append_assoc, List.append_assoc]
  refine readLines_append_congr fun p => ?_
  rw [List.singleton_append, List.singleton_append, Progress.steps, Progress.steps, h p]

/-- Naming the last input handle behind a place, in the place of the full stop, changes nothing in a
report, unless the line announces an abort: that is then passed over like an empty line. -/
theorem readLines_handle (hmessage : message ≠ []) (hplain : '\n' ∉ message)
    (hdigits : IsNumeral digits) (hhandle : IsHandle name unit count) (hname : '\n' ∉ name)
    (hlast : NoLaterPlace file (" at ".toList ++ (file ++ (" line ".toList ++
      (digits ++ handleText name unit count))))) :
    (message ≠ "BEGIN failed--compilation aborted".toList →
      readLines file status
          (front ++ [placed file message digits (handleText name unit count)] ++ back) =
        readLines file status (front ++ [placed file message digits ['.']] ++ back)) ∧
    (message = "BEGIN failed--compilation aborted".toList →
      readLines file status
          (front ++ [placed file message digits (handleText name unit count)] ++ back) =
        readLines file status (front ++ [[]] ++ back)) := by
  rw [← mark_append] at hlast
  have hnamed : Located.Closes file (placed file message digits (handleText name unit count))
      ⟨message, digits, handleText name unit count⟩ :=
    closes_placed hmessage hplain hdigits (.inr ⟨name, unit, count, hhandle, rfl⟩)
      (newline_not_mem_handleText hhandle hname) hlast
  have hstop : Located.Closes file (placed file message digits ['.']) ⟨message, digits, ['.']⟩ :=
    closes_placed hmessage hplain hdigits (.inl rfl) (by decide) (noLaterPlace_stop hdigits.2)
  refine ⟨fun hother => ?_, fun habort => ?_⟩
  · exact readLines_replace (hnamed.step_eq hstop rfl rfl hother)
  · have hsilent := hnamed.silent habort (handleText_ne_stop name unit count)
    exact readLines_replace fun p => (hsilent.step p).trans ((silent_nil file).step p).symm

/-- A handle that was read by lines, and one that was read by chunks when an abort was announced. -/
theorem readLines_handle_stdin :
    readLines "f".toList (some 0) ([] ++
        [placed "f".toList "odd".toList "3".toList
          (handleText "STDIN".toList "line".toList "5".toList)] ++
        ["BEGIN failed--compilation aborted at f line 4.".toList]) =
      readLines "f".toList (some 0) ([] ++ [placed "f".toList "odd".toList "3".toList ['.']] ++
        ["BEGIN failed--compilation aborted at f line 4.".toList]) ∧
    readLines "f".toList (some 0) (["odd at f line 3.".toList] ++
        [placed "f".toList "BEGIN failed--compilation aborted".toList "4".toList
          (handleText "a b".toList "chunk".toList "12".toList)] ++ []) =
      readLines "f".toList (some 0) (["odd at f line 3.".toList] ++ [[]] ++ []) := by
  constructor
  · exact (readLines_handle (by decide) (by decide) (by decide) (by decide)
      (by decide) (by decide)).1 (by decide)
  · exact (readLines_handle (by decide) (by decide) (by decide) (by decide)
      (by decide) (by decide)).2 rfl

/-- An abort that is announced after a handle was read is lost. -/
theorem not_readLines_handle :
    ¬∀ (file message digits name count : List Char) (status : Option Int)
        (front back : List (List Char)), message ≠ [] → '\n' ∉ message → IsNumeral digits →
      1 ≤ number digits → IsHandle name "line".toList count → '\n' ∉ name →
      NoLaterPlace file (" at ".toList ++ (file ++ (" line ".toList ++
        (digits ++ handleText name "line".toList count)))) →
      readLines file status
          (front ++ [placed file message digits (handleText name "line".toList count)] ++ back) =
        readLines file status (front ++ [placed file message digits ['.']] ++ back) := by
  intro h
  have hlost := h "f".toList "BEGIN failed--compilation aborted".toList "4".toList "STDIN".toList
    "5".toList none ["boom at f line 3.".toList] [] (by decide) (by decide) (by decide)
    (by decide) (by decide) (by decide) (by decide)
  revert hlost
  decide

/-! ## Line ends -/

/-- How a line can be ended. -/
def lineEnds : List (List Char) := [['\n'], ['\r', '\n']]

/-- The text consists of the lines, each with an end of its own; the last one may have none. -/
inductive Joined : List (List Char) → List Char → Prop where
  | nil : Joined [] []
  | last (line : List Char) : Joined [line] line
  | cons {line ending text : List Char} {lines : List (List Char)} :
    ending ∈ lineEnds → Joined lines text → Joined (line :: lines) (line ++ (ending ++ text))

/-- Cutting a text apart gives its lines again, but for an empty one at the end that has no end of
its own. -/
theorem splitLines_joined (h : Joined lines text) (hlines : ∀ line ∈ lines, OneLine line) :
    splitLines text = lines ∨ splitLines text ++ [[]] = lines := by
  induction h with
  | nil => exact .inl rfl
  | last line =>
    by_cases hline : line = []
    · subst hline
      exact .inr rfl
    · exact .inl (splitLines_of_oneLine (hlines line (by simp)) hline)
  | @cons line ending text lines hending _ ih =>
    have hline := hlines line (by simp)
    have hsplit : splitLines (line ++ (ending ++ text)) = line :: splitLines text := by
      simp only [lineEnds, List.mem_cons, List.not_mem_nil, or_false] at hending
      rcases hending with rfl | rfl
      · exact splitLines_newline hline text
      · exact splitLines_carriageReturn hline text
    rw [hsplit]
    rcases ih fun line' hmem => hlines line' (List.mem_cons_of_mem line hmem) with hrest | hrest
    · exact .inl (by rw [hrest])
    · exact .inr (by rw [List.cons_append, hrest])

/-- An output is read like its lines, whether they end in a newline or in a carriage return and a
newline, and whether the last one is ended at all. -/
theorem read_joined (h : Joined lines text) (hlines : ∀ line ∈ lines, OneLine line) :
    read file status text = readLines file status lines := by
  rw [read]
  rcases splitLines_joined h hlines with hsplit | hsplit
  · rw [hsplit]
  · -- The empty line at the end is one that says nothing.
    rw [← hsplit]
    have hend : readLines file status (splitLines text ++ [[]]) =
        readLines file status (splitLines text ++ []) :=
      readLines_append_congr ((silent_nil file).steps_cons (by simp))
    rw [hend, List.append_nil]

/-- Both ways to end a line, and an empty last line. -/
theorem read_joined_mixed :
    read "f".toList (some 1) "odd at f line 3.\r\n\nlate at f line 5.\n".toList =
      readLines "f".toList (some 1)
        ["odd at f line 3.".toList, [], "late at f line 5.".toList, []] := by
  have hjoined : Joined ["odd at f line 3.".toList, [], "late at f line 5.".toList, []]
      ("odd at f line 3.".toList ++ (['\r', '\n'] ++ ([] ++ (['\n'] ++
        ("late at f line 5.".toList ++ (['\n'] ++ [])))))) :=
    .cons (by decide) (.cons (by decide) (.cons (by decide) (.last [])))
  exact read_joined hjoined (by decide)

end PerlVet.Output
