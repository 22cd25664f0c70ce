import PerlVet.CommandLine
import PerlVet.Proofs.ControlSequences
import PerlVet.Proofs.LineNumbers
import PerlVet.Proofs.LogIndependence

/-!
What a run prints and how it exits. Both follow from the answer for the file alone
(`execute_outcome`), which does not depend on the log; so the flags that are about the log and
about error messages change neither (`run_flag`). JSON documents can be read back as the diagnostics
of the file. Text is printed without control sequences of terminals, so it shows a message as it is
only if the message holds none (`run_outcome`, `not_run_prints_messages`).
-/

namespace PerlVet.CommandLine
open Console (HoldsSequence withoutEscapes)

/-! ## Flags -/

/-- The words with more flags. -/
def Words.flagged (w : Words) (debug noEmoji : Bool) : Words :=
  { w with debug := w.debug || debug, noEmoji := w.noEmoji || noEmoji }

/-- The options with more flags. -/
def Options.flagged (o : Options) (debug noEmoji : Bool) : Options :=
  { o with debug := o.debug || debug, emoji := o.emoji && !noEmoji }

theorem Words.set_flagged (w : Words) (debug noEmoji : Bool) (option : ValueOption)
    (value : String) :
    (w.flagged debug noEmoji).set option value = (w.set option value).flagged debug noEmoji := by
  cases option <;> rfl

/-- Flags that are set before the words are sorted are set afterwards, and that is all. -/
theorem sort_flagged (debug noEmoji : Bool) (args : List String) (w : Words) :
    sort args (w.flagged debug noEmoji) = (sort args w).map (·.flagged debug noEmoji) := by
  -- A case for each kind of word: what it does to the words so far commutes with the flags.
  fun_induction sort args w with
  | case1 => simp [sort]
  | case2 word rest w hword => simp [sort, hword, Words.flagged]
  | case3 word rest w tail hne hword hsplit ih =>
    rw [← ih, sort]
    simp [hword, hsplit, Words.flagged]
  | case4 word rest w tail hne hword hsplit ih =>
    rw [← ih, sort]
    simp [hword, hsplit, Words.flagged]
  | case5 word w tail hne hword name option v rest hlong _ _ hsplit ih =>
    rw [← ih, ← Words.set_flagged, sort]
    simp [hword, hsplit, hlong]
  | case6 word w tail hne hword name option v rest hlong _ _ hsplit ih =>
    rw [← ih, ← Words.set_flagged, sort]
    simp_all
  | case7 word rest w tail hne hword name value _ _ hsplit hnone hnone' =>
    rw [sort]
    simp_all
  | case8 word w letter hne option v rest hshort _ hword ih =>
    rw [← ih, ← Words.set_flagged, sort]
    simp_all
  | case9 word w letter hne option c cs rest hshort _ hword ih =>
    rw [← ih, ← Words.set_flagged, sort]
    simp_all
  | case10 word rest w letter value _ hne hword hnone hnone' =>
    rw [sort]
    simp_all
  | case11 word rest w _ _ _ ih =>
    rw [← ih, sort]
    simp_all [Words.flagged]

theorem parse_flagged {args args' : List String} {debug noEmoji : Bool}
    (h : sort args' {} = (sort args {}).map (·.flagged debug noEmoji)) :
    parse args' = (parse args).map (·.flagged debug noEmoji) := by
  unfold parse
  rw [h]
  cases sort args {} with
  | none => rfl
  | some w =>
    simp only [Option.map_some, Option.bind_eq_bind, Option.bind_some, Words.flagged]
    split
    · next target _ =>
      cases pathOf? target <;> cases (w.format.map Format.named?).getD (some .text) <;>
        cases w.config.mapM pathOf? <;> cases w.root.mapM pathOf? <;> simp [Options.flagged]
    · rfl

/-- A flag in front of a command line is set, and nothing else changes. -/
theorem parse_flag {flag : String} (hflag : flag ∈ ["--debug", "--no-emoji"]) (args : List String) :
    ∃ debug noEmoji, parse (flag :: args) = (parse args).map (·.flagged debug noEmoji) := by
  simp only [List.mem_cons, List.not_mem_nil, or_false] at hflag
  rcases hflag with rfl | rfl
  · refine ⟨true, false, parse_flagged ?_⟩
    rw [← sort_flagged, sort]
    simp [splitLong, Words.flagged]
  · refine ⟨false, true, parse_flagged ?_⟩
    rw [← sort_flagged, sort]
    simp [splitLong, Words.flagged]

/-! ## Outcomes -/

/-- The answer for the file that a run is about. -/
def answer (h : Host) (o : Options) (s : Session) : Except Failure (List Diagnostic) :=
  (vetFile h o.target o.root none o.config none s).1

/-- What is printed for an answer. -/
def printed (format : Format) : Except Failure (List Diagnostic) → String
  | .ok ds => withoutEscapes (render format ds)
  | .error _ => ""

/-- How a run ends with an answer. -/
def endingOf : Except Failure (List Diagnostic) → Ending
  | .ok ds => .checked ds
  | .error (.raised ⟨.interrupt, _⟩) => .interrupted
  | .error e => if e.isFatal then .fatal e else .uncaught e

theorem endingOf_fatal {e : Failure} (h : e.isFatal = true) : endingOf (.error e) = .fatal e := by
  unfold endingOf
  split
  · next heq => cases heq
  · next heq =>
    cases heq
    cases h
  · next heq =>
    cases heq
    rw [if_pos h]

/-- Output and ending follow from the answer for the file. -/
theorem execute_outcome (h : Host) (tty : Bool) (o : Options) (s : Session) :
    (execute h tty o s).1.output = printed o.format (answer h o s) ∧
    (execute h tty o s).1.ending = endingOf (answer h o s) := by
  have hlog : (vetFile h o.target o.root none o.config none { s with log := [] }).1 =
      answer h o s :=
    ((vetFile_ignoresLog h o.target o.root none o.config none).fst_eq ⟨[], rfl⟩).symm
  unfold execute
  dsimp only
  rw [hlog]
  generalize answer h o s = result
  split
  · exact ⟨rfl, rfl⟩
  · exact ⟨rfl, rfl⟩
  · next e hother =>
    rw [endingOf.eq_3 e hother]
    split
    · exact ⟨rfl, rfl⟩
    · exact ⟨rfl, rfl⟩

theorem run_of_parse {args : List String} {o : Options} (hargs : parse args = some o) (h : Host)
    (tty : Bool) (s : Session) : run h tty args s = execute h tty o s := by
  simp only [run, hargs]

/-- The two runs print the same and exit alike. -/
def Outcome.SameResult (r r' : Outcome) : Prop :=
  r'.output = r.output ∧ r'.ending.status = r.ending.status

theorem execute_same {o o' : Options} (h : Host) (tty tty' : Bool) (s : Session)
    (htarget : o'.target = o.target) (hformat : o'.format = o.format)
    (hconfig : o'.config = o.config) (hroot : o'.root = o.root) :
    (execute h tty o s).1.SameResult (execute h tty' o' s).1 := by
  have hanswer : answer h o' s = answer h o s := by
    simp only [answer, htarget, hconfig, hroot]
  obtain ⟨houtput, hending⟩ := execute_outcome h tty o s
  obtain ⟨houtput', hending'⟩ := execute_outcome h tty' o' s
  exact ⟨by rw [houtput, houtput', hanswer, hformat], by rw [hending, hending', hanswer]⟩

/-- A flag in front of a command line changes neither output nor exit status. -/
theorem run_flag {flag : String} (hflag : flag ∈ ["--debug", "--no-emoji"]) (h : Host) (tty : Bool)
    (args : List String) (s : Session) :
    (run h tty args s).1.SameResult (run h tty (flag :: args) s).1 := by
  obtain ⟨debug, noEmoji, hparse⟩ := parse_flag hflag args
  unfold run
  rw [hparse]
  cases parse args with
  | none => exact ⟨rfl, rfl⟩
  | some o => exact execute_same h tty tty s rfl rfl rfl rfl

/-! ## What a run prints -/

variable {h : Host} {o : Options} {s : Session} {ds : List Diagnostic}

theorem printed_json (hanswer : answer h o s = .ok ds)
    (hshort : ∀ lines, h.fileLines o.target = .ok lines → Text.Legible lines.length) :
    Diagnostic.readJson (printed .json (.ok ds)) = .ok ds :=
  Diagnostic.readJson_printed ((vetFile_writable hanswer).2 hshort)

theorem printed_text_eq_empty_iff : printed .text (.ok ds) = "" ↔ ds = [] := by
  cases ds with
  | nil => simp [printed, render, withoutEscapes, Console.dropSequences]
  | cons d ds => simpa [printed, render] using Diagnostic.withoutEscapes_writeText_ne_empty d ds

theorem printed_text (hne : ds ≠ []) :
    printed .text (.ok ds) = withoutEscapes (Diagnostic.writeText ds ++ "\n") := by
  simp [printed, render, hne]

theorem printed_text_iff (hanswer : answer h o s = .ok ds) (hne : ds ≠ []) :
    printed .text (.ok ds) = Diagnostic.writeText ds ++ "\n" ↔
      ∀ d ∈ ds, ¬HoldsSequence d.message.toList := by
  rw [printed_text hne]
  refine Diagnostic.withoutEscapes_writeText_iff fun d hd => ?_
  rcases (vetFile_writable hanswer).1 d hd with horigin | horigin
  · rw [horigin]
    decide
  · rw [horigin]
    decide

/-- What a run prints, and how it exits, depends on the file, the format, the configuration and the
root alone. It exits with 1 or 0, as there are diagnostics or not; a document can be read back as
the diagnostics, unless the file has more lines than can be numbered; and text holds a line for each
diagnostic, without control sequences of terminals. After a fatal failure nothing is printed, and
the exit status is 2. -/
theorem run_outcome {args : List String} (hargs : parse args = some o) (h : Host) (tty : Bool)
    (s : Session) :
    (∀ ds, answer h o s = .ok ds →
      (run h tty args s).1.ending.status = (if ds = [] then 0 else 1) ∧
      (o.format = .json →
        (∀ lines, h.fileLines o.target = .ok lines → Text.Legible lines.length) →
        Diagnostic.readJson (run h tty args s).1.output = .ok ds) ∧
      (o.format = .text →
        ((run h tty args s).1.output = "" ↔ ds = []) ∧
        (ds ≠ [] →
          (run h tty args s).1.output = withoutEscapes (Diagnostic.writeText ds ++ "\n") ∧
          ((run h tty args s).1.output = Diagnostic.writeText ds ++ "\n" ↔
            ∀ d ∈ ds, ¬HoldsSequence d.message.toList)))) ∧
    (∀ e, answer h o s = .error e → e.isFatal = true →
      (run h tty args s).1.output = "" ∧ (run h tty args s).1.ending.status = 2) ∧
    (∀ args' tty' o', parse args' = some o' → o'.target = o.target → o'.format = o.format →
      o'.config = o.config → o'.root = o.root →
      (run h tty args s).1.SameResult (run h tty' args' s).1) ∧
    ∀ flag ∈ ["--debug", "--no-emoji"],
      (run h tty args s).1.SameResult (run h tty (flag :: args) s).1 := by
  refine ⟨?_, ?_, ?_, fun flag hflag => run_flag hflag h tty args s⟩
  all_goals
    rw [run_of_parse hargs]
  · intro ds hanswer
    obtain ⟨houtput, hending⟩ := execute_outcome h tty o s
    rw [houtput, hending, hanswer]
    refine ⟨by simp [endingOf, Ending.status], fun hjson hshort => ?_, fun htext => ?_⟩
    · rw [hjson]
      exact printed_json hanswer hshort
    · rw [htext]
      exact ⟨printed_text_eq_empty_iff, fun hne =>
        ⟨printed_text hne, printed_text_iff hanswer hne⟩⟩
  · intro e hanswer hfatal
    obtain ⟨houtput, hending⟩ := execute_outcome h tty o s
    rw [houtput, hending, hanswer, endingOf_fatal hfatal]
    exact ⟨rfl, rfl⟩
  · intro args' tty' o' hargs' htarget hformat hconfig hroot
    rw [run_of_parse hargs']
    exact execute_same h tty tty' s htarget hformat hconfig hroot

/-- A host with a script and a line predicate that says every line again. The second line is in
colour. -/
def echoing : Host where
  tree := ⟨[(["a.pl"], .file "#!/bin/sh\n\x1b[31mred\x1b[0m\n".toUTF8.toList false),
    ([".perlcheck.toml"], .file "[custom]\ncheck='m:f'\n".toUTF8.toList false)]⟩
  cwd := []
  environment := []
  homes := []
  bundled := ⟨.root, ["lib"]⟩
  modules := [{ dir := [], name := ["m"], attributes := [("f", .predicate
    { name := "f", run := fun line _ => .ok (.fragment ⟨.warning, line⟩) })] }]

/-- What is said about the script. -/
def echoes : List Diagnostic :=
  [⟨⟨⟨.warning, "#!/bin/sh"⟩, 1⟩, "custom"⟩, ⟨⟨⟨.warning, "\x1b[31mred\x1b[0m"⟩, 2⟩, "custom"⟩]

theorem answer_echoing (format : Format) :
    answer echoing { target := Path.ofString "a.pl", format } {} = .ok echoes :=
  ok_of_toOption (by cases format <;> decide +kernel)

theorem pathOf_script : pathOf? "a.pl" = some (Path.ofString "a.pl") := by
  simp [pathOf?]

theorem parse_script : parse ["a.pl"] = some { target := Path.ofString "a.pl" } := by
  simp [parse, sort, pathOf_script]

theorem parse_script_json :
    parse ["a.pl", "-fJSON"] = some { target := Path.ofString "a.pl", format := .json } := by
  have hformat : Format.named? "JSON" = some .json := by decide
  simp [parse, sort, ValueOption.short?, Words.set, pathOf_script, hformat]

/-- Both formats on the script: the document gives back the colours, and the text has lost them. -/
theorem run_outcome_echoing :
    answer echoing { target := Path.ofString "a.pl" } {} = .ok echoes ∧
    Diagnostic.readJson (run echoing false ["a.pl", "-fJSON"] {}).1.output = .ok echoes ∧
    (run echoing true ["--debug", "a.pl"] {}).1.ending.status = 1 ∧
    (run echoing true ["a.pl"] {}).1.output ≠ Diagnostic.writeText echoes ++ "\n" := by
  have hlines : (echoing.fileLines (Path.ofString "a.pl")).toOption.map List.length = some 2 := by
    decide +kernel
  obtain ⟨-, hjson, -⟩ := (run_outcome parse_script_json echoing false {}).1 echoes
    (answer_echoing .json)
  obtain ⟨hreport, -, -, hflag⟩ := run_outcome parse_script echoing true {}
  obtain ⟨hstatus, -, htext⟩ := hreport echoes (answer_echoing .text)
  obtain ⟨-, hprinted⟩ := htext rfl
  refine ⟨answer_echoing .text, hjson rfl ?_, ?_, ?_⟩
  · intro lines hread
    rw [hread] at hlines
    rw [Option.some.inj hlines]
    decide
  · rw [(hflag "--debug" (by simp)).2, hstatus]
    rfl
  · rw [ne_eq, (hprinted (by decide)).1]
    decide

/-- It is not so that text shows every diagnostic as it is. -/
theorem not_run_prints_messages :
    ¬ ∀ (h : Host) (tty : Bool) (args : List String) (o : Options) (s : Session)
        (ds : List Diagnostic), parse args = some o → o.format = .text → answer h o s = .ok ds →
      ds ≠ [] → (run h tty args s).1.output = Diagnostic.writeText ds ++ "\n" := by
  intro hall
  have hprinted := hall echoing false ["a.pl"] _ {} echoes parse_script rfl (answer_echoing .text)
    (by decide)
  rw [run_of_parse parse_script, (execute_outcome echoing false _ {}).1, answer_echoing] at hprinted
  revert hprinted
  decide

end PerlVet.CommandLine
