import Mathlib.Data.List.Forall2
import PerlVet.Inspector.LineScan
import PerlVet.Proofs.Report

/-!
The order of a line scan. `questions` lists what predicates are asked: line by line, and about each
line rule by rule. A scan is written once for every way to put a question (`scanWith`): put to the
predicates themselves it is the scan of the inspection (`scanLines_eq_scanWith`), and put with a
record it also tells which questions came up (`recordedScan`). Whoever is asked, predicates with a
memory included, a scan is the traversal of its questions (`scanWith_eq_mapM`). So it ends at the
first question that fails, if there is one, and goes through all of them otherwise
(`inspect_traversal`).
-/

namespace PerlVet

/-! ## Answers -/

/-- The label by which a value names a severity. -/
def severityLabel : Datum → String
  | .text s => s
  | v => v.shown

/-- The table describes the remark: a severity under its short or else its long name, and a text. -/
structure Describes (t : Table Empty) (f : Fragment) : Prop where
  severity : ∃ v, (t.get? "type").or (t.get? "severity") = some v ∧
    Severity.ofLabel? (severityLabel v) = some f.severity
  message : t.get? "message" = some (.text f.message)

namespace Checked

variable {α β γ : Type} {f : α → β → γ} {x : Checked α} {y : Checked β} {c : γ} {a : α}

theorem both_eq_ok_iff : both f x y = .ok c ↔ ∃ a b, x = .ok a ∧ y = .ok b ∧ f a b = c := by
  cases x <;> cases y <;> simp [both]

theorem under_eq_ok_iff {k : Key} : x.under k = .ok a ↔ x = .ok a := by
  cases x <;> simp [under]

theorem not_under_complain {k : Key} {complaint : Complaint} :
    (complain complaint : Checked α).under k ≠ .ok a := nofun

end Checked

theorem checkField_eq_ok_iff {α β : Type} {t : Table α} {name : String}
    {check : Value α → Checked β} {long : Option String} {b : β} :
    checkField t name check long = .ok b ↔
      ∃ v, (t.get? name).or (long.bind t.get?) = some v ∧ check v = .ok b := by
  unfold checkField
  cases hname : t.get? name with
  | some v => simp [Checked.under_eq_ok_iff]
  | none =>
    cases long with
    | none => simp [Checked.not_under_complain]
    | some l =>
      cases hlong : t.get? l with
      | some v => simp [hlong, Checked.under_eq_ok_iff]
      | none => simp [hlong, Checked.not_under_complain]

theorem Severity.ofDatum_eq_ok_iff {v : Datum} {severity : Severity} :
    Severity.ofDatum v = .ok severity ↔ Severity.ofLabel? (severityLabel v) = some severity := by
  cases v <;> dsimp only [Severity.ofDatum, severityLabel] <;> split <;>
    simp_all [Checked.complain]

theorem checkText_eq_ok_iff {α : Type} {v : Value α} {s : String} :
    checkText v = .ok s ↔ v = .text s := by
  cases v <;> simp [checkText, Checked.complain]

/-- A table is read as the remark that it describes. -/
theorem Fragment.ofTable_eq_ok_iff {t : Table Empty} {f : Fragment} :
    Fragment.ofTable t = .ok f ↔ Describes t f := by
  unfold Fragment.ofTable
  rw [Checked.both_eq_ok_iff]
  simp only [checkField_eq_ok_iff, Severity.ofDatum_eq_ok_iff, checkText_eq_ok_iff,
    Option.bind_some, Option.bind_none, Option.or_none]
  constructor
  · rintro ⟨severity, message, hseverity, ⟨v, hv, rfl⟩, rfl⟩
    exact ⟨hseverity, hv⟩
  · rintro ⟨hseverity, hmessage⟩
    exact ⟨f.severity, f.message, hseverity, ⟨_, hmessage, rfl⟩, rfl⟩

namespace LineScan
open Output (map_ok bind_ok)

/-- A predicate is asked about a line with a number. -/
structure Question where
  rule : LineRule
  number : Nat
  line : String

/-- What comes back when the predicate is asked about a line of a file. -/
def Question.reply (q : Question) (file : String) : Except Failure Answer :=
  q.rule.predicate.run q.line file

/-- The question is answered, by nothing or by a remark. -/
inductive Answered (file : String) (q : Question) : Option Fragment → Prop where
  | nothing : q.reply file = .ok (.data .null) → Answered file q none
  | fragment {f : Fragment} : q.reply file = .ok (.fragment f) → Answered file q (some f)
  | table {t : Table Empty} {f : Fragment} : q.reply file = .ok (.data (.table t)) →
    Describes t f → Answered file q (some f)

/-- The question fails: the predicate raises an error, or its answer is neither nothing nor a remark
nor a table, or it is a table that describes no remark. -/
inductive Fails (file : String) (q : Question) : Failure → Prop where
  | raised {e : Failure} : q.reply file = .error e → Fails file q e
  | kind {v : Datum} : q.reply file = .ok (.data v) → v ≠ .null → (∀ t, v ≠ .table t) →
    Fails file q (.answerKind q.rule.predicate.name (v.kind nofun))
  | table {t : Table Empty} {issues : List Issue} : q.reply file = .ok (.data (.table t)) →
    (∀ f, ¬Describes t f) → Fragment.ofTable t = .error issues →
    Fails file q (.answerInvalid q.rule.predicate.name issues)

/-- Puts a question to the predicate. -/
def put (file : String) (q : Question) : Except Failure (Option Fragment) := ask file q.rule q.line

variable {file : String} {q : Question} {e : Failure} {found : Option Fragment}

theorem put_cases (file : String) (q : Question) :
    (∃ found, put file q = .ok found ∧ Answered file q found) ∨
      ∃ e, put file q = .error e ∧ Fails file q e := by
  unfold put ask
  cases hreply : q.rule.predicate.run q.line file with
  | error e => exact .inr ⟨e, rfl, .raised hreply⟩
  | ok answer =>
    cases answer with
    | fragment f => exact .inl ⟨some f, rfl, .fragment hreply⟩
    | data v =>
      cases v with
      | null => exact .inl ⟨none, rfl, .nothing hreply⟩
      | table t =>
        cases htable : Fragment.ofTable t with
        | ok f =>
          refine .inl ⟨some f, ?_, .table hreply (Fragment.ofTable_eq_ok_iff.mp htable)⟩
          simp only [Except.bind, remark, htable]
        | error issues =>
          refine .inr ⟨_, ?_, .table hreply (fun f hf => ?_) htable⟩
          · simp only [Except.bind, remark, htable]
          · rw [Fragment.ofTable_eq_ok_iff.mpr hf] at htable
            cases htable
      | _ => exact .inr ⟨_, rfl, .kind hreply nofun nofun⟩

theorem put_of_fails (h : Fails file q e) : put file q = .error e := by
  unfold put ask
  cases h with
  | raised hreply =>
    rw [Question.reply] at hreply
    rw [hreply]
    rfl
  | @kind v hreply hnull htable =>
    rw [Question.reply] at hreply
    rw [hreply]
    cases v with
    | null => exact absurd rfl hnull
    | table t => exact absurd rfl (htable t)
    | _ => rfl
  | table hreply _ hissues =>
    rw [Question.reply] at hreply
    rw [hreply]
    simp only [Except.bind, remark, hissues]

theorem answered_of_not_fails (h : ∀ e, ¬Fails file q e) :
    ∃ found, put file q = .ok found ∧ Answered file q found :=
  (put_cases file q).resolve_right fun ⟨e, _, hfails⟩ => h e hfails

/-! ## The traversal -/

/-- The diagnostic that a remark on a question makes. -/
def Question.diagnostic (q : Question) (f : Fragment) : Diagnostic :=
  ⟨⟨⟨f.severity, f.message⟩, q.number⟩, "custom"⟩

/-- What is asked about lines, the first of which has the number given. -/
def questions (rules : List LineRule) (number : Nat) (lines : List (List Char)) : List Question :=
  (lines.zipIdx number).flatMap fun (line, number) =>
    rules.map fun rule => ⟨rule, number, String.ofList line⟩

section Scan

variable {m : Type → Type} [Monad m] (ask : Question → m (Option Fragment))

/-- The scan of one line, for any way to ask. -/
def scanLineWith (number : Nat) (line : String) : List LineRule → m (List Diagnostic)
  | [] => pure []
  | rule :: rules => do
    let found ← ask ⟨rule, number, line⟩
    let ds ← scanLineWith number line rules
    return (found.map (Question.diagnostic ⟨rule, number, line⟩)).toList ++ ds

/-- The scan of lines, for any way to ask. -/
def scanWith (rules : List LineRule) : Nat → List (List Char) → m (List Diagnostic)
  | _, [] => pure []
  | number, line :: lines => do
    let ds ← scanLineWith ask number (String.ofList line) rules
    let rest ← scanWith rules (number + 1) lines
    return ds ++ rest

/-- Asks a question and makes a diagnostic of what is said. -/
def diagnose (q : Question) : m (Option Diagnostic) := Option.map q.diagnostic <$> ask q

variable [LawfulMonad m]

theorem scanLineWith_eq_mapM (number : Nat) (line : String) (rules : List LineRule) :
    scanLineWith ask number line rules = List.filterMap id <$>
      (rules.map fun rule => ⟨rule, number, line⟩ : List Question).mapM (diagnose ask) := by
  induction rules with
  | nil => simp [scanLineWith]
  | cons rule rules ih =>
    simp only [scanLineWith, ih, List.map_cons, List.mapM_cons, diagnose, map_eq_pure_bind,
      bind_assoc, pure_bind]
    refine congrArg (ask ⟨rule, number, line⟩ >>= ·) (funext fun found => ?_)
    cases found <;> rfl

theorem scanWith_eq_mapM (rules : List LineRule) (number : Nat) (lines : List (List Char)) :
    scanWith ask rules number lines =
      List.filterMap id <$> (questions rules number lines).mapM (diagnose ask) := by
  induction lines generalizing number with
  | nil => simp [scanWith, questions]
  | cons line lines ih =>
    have hquestions : questions rules number (line :: lines) =
        rules.map (⟨·, number, String.ofList line⟩) ++ questions rules (number + 1) lines := by
      simp [questions, List.zipIdx_cons]
    simp only [scanWith, ih, scanLineWith_eq_mapM, hquestions, List.mapM_append, map_eq_pure_bind,
      bind_assoc, pure_bind, List.filterMap_append]

end Scan

/-- The scan of an inspection asks the predicates themselves. -/
theorem scanLines_eq_scanWith (file : String) (rules : List LineRule) (number : Nat)
    (lines : List (List Char)) :
    scanLines file rules number lines = scanWith (put file) rules number lines := by
  have hline (number : Nat) (line : String) (rules : List LineRule) :
      scanLine file number line rules = scanLineWith (put file) number line rules := by
    induction rules with
    | nil => rfl
    | cons rule rules ih =>
      rw [scanLine, scanLineWith, ← ih]
      unfold put
      cases ask file rule line with
      | error e => rfl
      | ok found =>
        cases scanLine file number line rules <;> rfl
  induction lines generalizing number with
  | nil => rfl
  | cons line lines ih =>
    rw [scanLines, scanWith, ← ih, ← hline]
    cases scanLine file number (String.ofList line) rules with
    | error e => rfl
    | ok ds =>
      cases scanLines file rules (number + 1) lines <;> rfl

/-! ## Runs with a record -/

/-- Runs that keep a record of the questions they have put. -/
abbrev Recorded := ExceptT Failure (StateM (List Question))

/-- Puts a question to the predicate, after taking it down. -/
def record (file : String) (q : Question) : Recorded (Option Fragment) := do
  modify (· ++ [q])
  liftExcept (put file q)

/-- What a run comes to, and the questions it has put, after those put `before`. -/
def Recorded.outcome {α : Type} (x : Recorded α) (before : List Question) :
    Except Failure α × List Question := x.run.run before

/-- The scan of a file by rules, and the questions that are put in the course of it. -/
def recordedScan (file : String) (rules : List LineRule) (lines : List (List Char)) :
    Except Failure (List Diagnostic) × List Question :=
  (scanWith (record file) rules 1 lines).outcome []

variable {qs before after : List Question}

theorem outcome_map {α β : Type} (f : α → β) (x : Recorded α) (asked : List Question) :
    (f <$> x).outcome asked = ((x.outcome asked).1.map f, (x.outcome asked).2) := by
  unfold Recorded.outcome
  rw [ExceptT.run_map, StateT.run_map]
  rfl

/-- The questions of a run: diagnostics are made of the answers. -/
def interview (file : String) (qs : List Question) : Recorded (List (Option Diagnostic)) :=
  qs.mapM (diagnose (record file))

/-- A question is put, and the run goes on or ends there. -/
theorem interview_cons (file : String) (q : Question) (qs asked : List Question) :
    (interview file (q :: qs)).outcome asked =
      match put file q with
      | .ok found =>
        let (result, asked) := (interview file qs).outcome (asked ++ [q])
        (result.map (found.map q.diagnostic :: ·), asked)
      | .error e => (.error e, asked ++ [q]) := by
  have hput {α : Type} (k : Option Diagnostic → Recorded α) :
      (diagnose (record file) q >>= k).outcome asked =
        match put file q with
        | .ok found => (k (found.map q.diagnostic)).outcome (asked ++ [q])
        | .error e => (.error e, asked ++ [q]) := by
    unfold diagnose record
    cases put file q <;> rfl
  rw [interview, List.mapM_cons, hput]
  cases put file q with
  | error e => rfl
  | ok found =>
    simp only [bind_pure_comp, outcome_map]
    rfl

/-- Without its record, a run is one of the predicates themselves. -/
theorem interview_fst (file : String) (qs asked : List Question) :
    ((interview file qs).outcome asked).1 = qs.mapM (diagnose (put file)) := by
  induction qs generalizing asked with
  | nil => rfl
  | cons q qs ih =>
    rw [interview_cons, List.mapM_cons, diagnose]
    cases put file q with
    | error e => rfl
    | ok found =>
      simp only [ih]
      cases qs.mapM (diagnose (put file)) <;> rfl

theorem interview_of_answers (h : ∀ q ∈ qs, ∀ e, ¬Fails file q e) :
    ∃ answers, List.Forall₂ (Answered file) qs answers ∧ ∀ asked,
      (interview file qs).outcome asked =
        (.ok (List.zipWith (fun q found => found.map q.diagnostic) qs answers), asked ++ qs) := by
  induction qs with
  | nil => exact ⟨[], .nil, fun asked => by rw [List.append_nil]; rfl⟩
  | cons q qs ih =>
    obtain ⟨found, hput, hanswered⟩ := answered_of_not_fails (h q List.mem_cons_self)
    obtain ⟨answers, hanswers, hrest⟩ := ih fun q' hq' => h q' (List.mem_cons_of_mem q hq')
    refine ⟨found :: answers, .cons hanswered hanswers, fun asked => ?_⟩
    rw [interview_cons, hput]
    simp only [hrest, List.append_assoc, List.singleton_append]
    rfl

theorem interview_of_failure (hbefore : ∀ p ∈ before, ∀ e, ¬Fails file p e) (hq : Fails file q e)
    (after asked : List Question) :
    (interview file (before ++ q :: after)).outcome asked =
      (.error e, asked ++ (before ++ [q])) := by
  induction before generalizing asked with
  | nil => rw [List.nil_append, interview_cons, put_of_fails hq, List.nil_append]
  | cons p before ih =>
    obtain ⟨found, hput, -⟩ := answered_of_not_fails (hbefore p List.mem_cons_self)
    rw [List.cons_append, interview_cons, hput]
    simp only [ih fun p' hp' => hbefore p' (List.mem_cons_of_mem p hp')]
    simp [Except.map]

/-! ## Inspections -/

variable {config : Config.Custom} {h : Host} {target : Path} {s : Session}
  {lines : List (List Char)}

theorem inspect_of_uncovered (hrules : config.rules.filter (·.covers target) = []) (h : Host)
    (s : Session) : inspect config h target s = (.ok [], s) := by
  unfold inspect
  rw [hrules]

/-- The inspection of a file that can be read is a scan of its lines. -/
theorem inspect_fst (hlines : h.fileLines target = .ok lines) :
    (inspect config h target s).1 =
      scanWith (put target.text) (config.rules.filter (·.covers target)) 1 lines := by
  by_cases hrules : config.rules.filter (·.covers target) = []
  · have hnone : questions [] 1 lines = [] := List.flatMap_eq_nil_iff.mpr fun _ _ => rfl
    rw [inspect_of_uncovered hrules, hrules, scanWith_eq_mapM, hnone]
    rfl
  · rw [← scanLines_eq_scanWith]
    unfold inspect
    split
    · next hnone => exact absurd hnone hrules
    · rw [hlines]
      dsimp only
      split
      · next hscan => rw [hscan]
      · next hscan => rw [hscan]

theorem mem_of_mapM {α β ε : Type} {f : α → Except ε β} {l : List α} {found : List β} {b : β}
    (hfound : l.mapM f = .ok found) (hb : b ∈ found) : ∃ a ∈ l, f a = .ok b := by
  induction l generalizing found with
  | nil =>
    cases hfound
    cases hb
  | cons a l ih =>
    rw [List.mapM_cons] at hfound
    obtain ⟨first, hfirst, hfound⟩ := bind_ok hfound
    obtain ⟨rest, hrest, hfound⟩ := bind_ok hfound
    cases hfound
    rcases List.mem_cons.mp hb with rfl | hb
    · exact ⟨a, List.mem_cons_self, hfirst⟩
    · obtain ⟨a', ha', hb⟩ := ih hrest hb
      exact ⟨a', List.mem_cons_of_mem a ha', hb⟩

theorem mem_questions {rules : List LineRule} {q : Question} (hq : q ∈ questions rules 1 lines) :
    ∃ i line, lines[i]? = some line ∧ q.rule ∈ rules ∧ q = ⟨q.rule, i + 1, String.ofList line⟩ := by
  obtain ⟨⟨line, number⟩, hline, hq⟩ := List.mem_flatMap.mp hq
  obtain ⟨rule, hrule, rfl⟩ := List.mem_map.mp hq
  obtain ⟨hpos, hline⟩ := List.mk_mem_zipIdx_iff_le_and_getElem?_sub.mp hline
  exact ⟨number - 1, line, hline, hrule, by rw [Nat.sub_add_cancel hpos]⟩

/-- A diagnostic of an inspection is a remark on the line whose number it bears. -/
theorem inspect_remarks {ds : List Diagnostic} {d : Diagnostic}
    (hlines : h.fileLines target = .ok lines) (hds : (inspect config h target s).1 = .ok ds)
    (hd : d ∈ ds) :
    ∃ i line f, lines[i]? = some line ∧ ∃ rule ∈ config.rules, rule.covers target = true ∧
      Answered target.text ⟨rule, i + 1, String.ofList line⟩ (some f) ∧
      d = ⟨⟨⟨f.severity, f.message⟩, i + 1⟩, "custom"⟩ := by
  rw [inspect_fst hlines, scanWith_eq_mapM] at hds
  obtain ⟨found, hfound, rfl⟩ := map_ok hds
  obtain ⟨_, hmem, rfl⟩ := List.mem_filterMap.mp hd
  obtain ⟨q, hq, hdiagnose⟩ := mem_of_mapM hfound hmem
  obtain ⟨answer, hput, hanswer⟩ := map_ok hdiagnose
  obtain ⟨f, rfl, rfl⟩ := Option.map_eq_some_iff.mp hanswer
  obtain ⟨i, line, hline, hrule, hquestion⟩ := mem_questions hq
  obtain ⟨hrule, hcovers⟩ := List.mem_filter.mp hrule
  have hanswered : Answered target.text q (some f) := by
    rcases put_cases target.text q with ⟨found, hfound, hanswered⟩ | ⟨e, herror, -⟩
    · cases hput.symm.trans hfound
      exact hanswered
    · cases hput.symm.trans herror
  refine ⟨i, line, f, hline, q.rule, hrule, hcovers, hquestion ▸ hanswered, ?_⟩
  rw [hquestion]
  rfl

theorem recordedScan_eq (file : String) (rules : List LineRule) (lines : List (List Char)) :
    recordedScan file rules lines =
      (((interview file (questions rules 1 lines)).outcome []).1.map (List.filterMap id),
        ((interview file (questions rules 1 lines)).outcome []).2) := by
  rw [recordedScan, scanWith_eq_mapM, outcome_map]
  rfl

theorem recordedScan_fst (file : String) (rules : List LineRule) (lines : List (List Char)) :
    (recordedScan file rules lines).1 = scanWith (put file) rules 1 lines := by
  rw [recordedScan_eq, interview_fst, scanWith_eq_mapM]
  rfl

/-- An inspection asks every covering rule about every line, line by line and rule by rule. If no
question fails, it gives one diagnostic for each remark, in this order. Otherwise it fails the way
the first one does, and puts no question after that. Without covering rules it does not look at the
file. -/
theorem inspect_traversal (config : Config.Custom) (target : Path) (s : Session) :
    ((∀ rule ∈ config.rules, rule.covers target = false) →
      ∀ h, inspect config h target s = (.ok [], s)) ∧
    ∀ (h : Host) (lines : List (List Char)), h.fileLines target = .ok lines →
      let file := target.text
      let rules := config.rules.filter (·.covers target)
      let qs := questions rules 1 lines
      (inspect config h target s).1 = scanWith (put file) rules 1 lines ∧
      ((∀ q ∈ qs, ∀ e, ¬Fails file q e) →
        ∃ answers, List.Forall₂ (Answered file) qs answers ∧
          let ds := (qs.zip answers).filterMap fun (q, found) => found.map q.diagnostic
          (inspect config h target s).1 = .ok ds ∧ recordedScan file rules lines = (.ok ds, qs)) ∧
      ∀ before q after e, qs = before ++ q :: after → (∀ p ∈ before, ∀ e', ¬Fails file p e') →
        Fails file q e →
          (inspect config h target s).1 = .error e ∧
          recordedScan file rules lines = (.error e, before ++ [q]) := by
  refine ⟨fun hrules h => ?_, fun h lines hlines => ?_⟩
  · exact inspect_of_uncovered (List.filter_eq_nil_iff.mpr (by simpa using hrules)) h s
  · intro file rules qs
    have hinspect : (inspect config h target s).1 = scanWith (put file) rules 1 lines :=
      inspect_fst hlines
    have hscan := recordedScan_fst file rules lines
    refine ⟨hinspect, fun hanswered => ?_, fun before q after e hqs hbefore hfails => ?_⟩
    · obtain ⟨answers, hanswers, hrun⟩ := interview_of_answers hanswered
      have hds : recordedScan file rules lines =
          (.ok ((qs.zip answers).filterMap fun (q, found) => found.map q.diagnostic), qs) := by
        rw [recordedScan_eq, hrun, ← List.map_uncurry_zip_eq_zipWith, List.nil_append]
        simp only [Except.map, List.filterMap_map]
        rfl
      refine ⟨answers, hanswers, ?_, hds⟩
      rw [hinspect, ← hscan, hds]
    · have hend : recordedScan file rules lines = (.error e, before ++ [q]) := by
        rw [recordedScan_eq, show questions rules 1 lines = before ++ q :: after from hqs,
          interview_of_failure hbefore hfails]
        rfl
      refine ⟨?_, hend⟩
      rw [hinspect, ← hscan, hend]

/-- A host with a file `a.pl` of these bytes. -/
def holding (bytes : List UInt8) : Host where
  tree := ⟨[(["a.pl"], .file bytes false)]⟩
  cwd := []
  environment := []
  homes := []
  bundled := ⟨.root, ["perl5"]⟩
  modules := []

/-- The bytes of two lines. -/
def twoLines : List UInt8 := [0x31, 0x0A, 0x32]

/-- A rule that has something to say about every line. -/
def seeing : LineRule := ⟨⟨"seeing", fun _ _ => .ok (.fragment ⟨.warning, "seen"⟩), true⟩, []⟩

/-- A rule that describes a remark on the first line and breaks down on the second. -/
def fragile : LineRule where
  predicate :=
    { name := "fragile"
      run := fun line _ =>
        if line == "2" then .error (.raised ⟨.runtime, "broken"⟩)
        else .ok (.data (.table [("severity", .text "ERR"), ("message", .text "fine")])) }
  files := ["*.pl"]

/-- A rule for other files. -/
def elsewhere : LineRule := { seeing with files := ["*.pm"] }

/-- The second line is not finished, and the rule for other files is never asked. -/
theorem inspect_traversal_broken :
    (inspect ⟨[seeing, elsewhere, fragile, seeing]⟩ (holding twoLines) ⟨.root, ["a.pl"]⟩ {}).1 =
      .error (.raised ⟨.runtime, "broken"⟩) ∧
    (recordedScan "/a.pl" [seeing, fragile, seeing] [['1'], ['2']]).2 =
      [⟨seeing, 1, "1"⟩, ⟨fragile, 1, "1"⟩, ⟨seeing, 1, "1"⟩, ⟨seeing, 2, "2"⟩,
        ⟨fragile, 2, "2"⟩] := by
  have hlines : (holding twoLines).fileLines ⟨.root, ["a.pl"]⟩ = .ok [['1'], ['2']] := by
    decide
  have hrules : [seeing, elsewhere, fragile, seeing].filter (·.covers ⟨.root, ["a.pl"]⟩) =
      [seeing, fragile, seeing] := rfl
  have htraversal :=
    (inspect_traversal ⟨[seeing, elsewhere, fragile, seeing]⟩ ⟨.root, ["a.pl"]⟩ {}).2
      (holding twoLines) _ hlines
  simp only [hrules] at htraversal
  have hend := htraversal.2.2
    [⟨seeing, 1, "1"⟩, ⟨fragile, 1, "1"⟩, ⟨seeing, 1, "1"⟩, ⟨seeing, 2, "2"⟩]
    ⟨fragile, 2, "2"⟩ [⟨seeing, 2, "2"⟩] _ rfl ?_ (.raised rfl)
  · exact ⟨hend.1, congrArg Prod.snd hend.2⟩
  · intro p hp e hfails
    have hput := put_of_fails hfails
    simp only [List.mem_cons, List.not_mem_nil, or_false] at hp
    rcases hp with rfl | rfl | rfl | rfl <;> cases hput

end LineScan

end PerlVet
