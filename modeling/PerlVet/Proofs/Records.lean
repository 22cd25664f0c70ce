import Mathlib.Order.Fin.Basic
import Mathlib.Tactic.Choose
import PerlVet.Proofs.Rendering
import PerlVet.Proofs.Report

/-!
Which finding of a report comes from which line. `Progress.after` is what has been found after some
of the lines, and `Effect` lists what the next line does to it: findings are only ever added at the
end, and only the latest one is ever changed, by becoming an error. So the finding that a line adds
(`Adds`) stays at its position (`record_next`, `record_kept`), every finding was added by a line
(`exists_adds`), and a report keeps what its lines say, in their order (`remarks_kept`).
-/

namespace PerlVet

/-- The same remark, no less serious. -/
structure Finding.KeptAs (f g : Finding) : Prop where
  message : g.message = f.message
  line : g.line = f.line
  error : f.severity = .error → g.severity = .error

namespace Finding.KeptAs

variable {f g k : Finding}

theorem refl (f : Finding) : f.KeptAs f := ⟨rfl, rfl, id⟩

theorem raised (f : Finding) : f.KeptAs f.raised := ⟨rfl, rfl, fun _ => rfl⟩

theorem trans (hfg : f.KeptAs g) (hgk : g.KeptAs k) : f.KeptAs k :=
  ⟨hgk.message.trans hfg.message, hgk.line.trans hfg.line, fun h => hgk.error (hfg.error h)⟩

/-- An error is kept as it is. -/
theorem eq_of_error (h : f.KeptAs g) (hf : f.severity = .error) : g = f := by
  obtain ⟨⟨severity, message⟩, line⟩ := f
  obtain ⟨⟨severity', message'⟩, line'⟩ := g
  obtain ⟨hmessage, hline, herror⟩ := h
  have hsame : severity' = severity := (herror hf).trans hf.symm
  simp_all

end Finding.KeptAs

namespace Output
open Text

variable {file line : List Char} {lines : List (List Char)} {status : Option Int}
  {found : List Finding} {p q : Progress} {f g r : Finding} {i j k m n : Nat}

/-! ## The run, line by line -/

/-- What has been found after the first `i` lines. -/
def Progress.after (file : List Char) (lines : List (List Char)) (i : Nat) : Progress :=
  match Progress.steps file (lines.take i) {} with
  | .ok p => p
  | .error _ => {}

/-- How much has been found after the first `i` lines: the position of what the next line adds. -/
def position (file : List Char) (lines : List (List Char)) (i : Nat) : Nat :=
  (Progress.after file lines i).found.length

/-- The line adds a finding to those of the lines before it. -/
def Adds (file : List Char) (lines : List (List Char)) (i : Nat) : Prop :=
  position file lines i < position file lines (i + 1)

theorem Progress.steps_append (file : List Char) (lines lines' : List (List Char)) (p : Progress) :
    Progress.steps file (lines ++ lines') p =
      (Progress.steps file lines p).bind (Progress.steps file lines') := by
  induction lines generalizing p with
  | nil => rfl
  | cons line lines ih =>
    rw [List.cons_append, Progress.steps, Progress.steps]
    cases p.step file line with
    | error e => rfl
    | ok q => exact ih q

/-- Each line of a report that can be read takes the run one step further. -/
theorem Progress.step_after (h : Progress.steps file lines {} = .ok p)
    (hline : lines[i]? = some line) :
    (Progress.after file lines i).step file line = .ok (Progress.after file lines (i + 1)) := by
  obtain ⟨hi, rfl⟩ := List.getElem?_eq_some_iff.mp hline
  have hsplit : lines.take i ++ lines[i] :: lines.drop (i + 1) = lines := by simp
  rw [← hsplit, steps_append] at h
  obtain ⟨before, hbefore, hrest⟩ := bind_ok h
  obtain ⟨next, hstep, -⟩ := bind_ok hrest
  have hnext : Progress.steps file (lines.take (i + 1)) {} = .ok next := by
    rw [List.take_succ_eq_append_getElem hi, steps_append, hbefore]
    show (before.step file lines[i]).bind (Progress.steps file []) = .ok next
    rw [hstep]
    rfl
  simp only [Progress.after, hbefore, hnext, hstep]

theorem Progress.after_length (h : Progress.steps file lines {} = .ok p) :
    Progress.after file lines lines.length = p := by
  simp only [Progress.after, List.take_length, h]

/-! ## What a line does -/

/-- The line announces that compilation was aborted at line `n` of the file. -/
def AbortsAt (file line : List Char) (n : Nat) : Prop :=
  ∃ digits, IsNumeral digits ∧ number digits = n ∧
    trimRight line = "BEGIN failed--compilation aborted".toList ++
      (" at ".toList ++ (file ++ (" line ".toList ++ (digits ++ ['.']))))

theorem abortsAt_iff :
    AbortsAt file line n ↔
      ∃ digits, abortDigits? file (trimRight line) = some digits ∧ number digits = n := by
  simp only [AbortsAt, abortDigits?_eq_some_iff, List.append_assoc, mark_append]
  constructor
  · rintro ⟨digits, hnumeral, hn, hline⟩
    exact ⟨digits, ⟨hnumeral, hline⟩, hn⟩
  · rintro ⟨digits, ⟨hnumeral, hline⟩, hn⟩
    exact ⟨digits, hnumeral, hn, hline⟩

theorem AbortsAt.unique (hm : AbortsAt file line m) (hn : AbortsAt file line n) : m = n := by
  obtain ⟨digits, hdigits, rfl⟩ := abortsAt_iff.mp hm
  obtain ⟨digits', hdigits', rfl⟩ := abortsAt_iff.mp hn
  cases hdigits.symm.trans hdigits'
  rfl

/-- A line that announces an abort says nothing else. -/
theorem AbortsAt.readLine (h : AbortsAt file line n) : readLine file line = .ok none := by
  obtain ⟨digits, hdigits, -⟩ := abortsAt_iff.mp h
  exact readLine_of_isRestatement (isRestatement_of_abortDigits hdigits)

/-- All that a line can do to what has been found. -/
inductive Effect (file line : List Char) (p : Progress) : Progress → Prop where
  /-- It says something. -/
  | remark {f : Finding} : readLine file line = .ok (some f) →
    Effect file line p ⟨f :: p.found, true⟩
  /-- It neither says anything nor announces an abort at a line that can be. -/
  | silent : readLine file line = .ok none → (∀ n, AbortsAt file line n → n = 0) →
    Effect file line p ⟨p.found, false⟩
  /-- It announces an abort that is put down to the latest finding. -/
  | blame {n : Nat} {last : Finding} {rest : List Finding} : 1 ≤ n → AbortsAt file line n →
    p.found = last :: rest → p.fresh = true ∨ last.line = n →
    Effect file line p ⟨last.raised :: rest, false⟩
  /-- It announces an abort that is put down to nothing. -/
  | abort {n : Nat} : 1 ≤ n → AbortsAt file line n →
    (∀ last ∈ p.found.head?, p.fresh = false ∧ last.line ≠ n) →
    Effect file line p ⟨abortFinding n :: p.found, false⟩

theorem Progress.effect (h : p.step file line = .ok q) : Effect file line p q := by
  rcases step_cases h with ⟨digits, hdigits, rfl⟩ | ⟨-, f, hread, rfl⟩ | ⟨hnone, hread, rfl⟩
  · have habort : AbortsAt file line (number digits) := abortsAt_iff.mpr ⟨digits, hdigits, rfl⟩
    rcases noteAbort_cases (number digits) p with ⟨hzero, hsame⟩ |
      ⟨hpos, last, rest, hfound, hcause, hraised⟩ | ⟨hpos, hcause, hadded⟩
    · rw [hsame]
      exact .silent habort.readLine fun n hn => (hn.unique habort).trans hzero
    · rw [hraised]
      exact .blame hpos habort hfound hcause
    · rw [hadded]
      exact .abort hpos habort hcause
  · exact .remark hread
  · refine .silent hread fun n hn => ?_
    obtain ⟨digits, hdigits, -⟩ := abortsAt_iff.mp hn
    rw [hdigits] at hnone
    cases hnone

theorem Progress.effect_after (h : Progress.steps file lines {} = .ok p)
    (hline : lines[i]? = some line) :
    Effect file line (Progress.after file lines i) (Progress.after file lines (i + 1)) :=
  effect (step_after h hline)

/-! ## Positions -/

theorem Effect.length (h : Effect file line p q) :
    p.found.length ≤ q.found.length ∧ q.found.length ≤ p.found.length + 1 := by
  cases h with
  | remark => simp
  | silent => simp
  | blame _ _ hfound => simp [hfound]
  | abort => simp

theorem after_of_length_le (h : lines.length ≤ i) :
    Progress.after file lines (i + 1) = Progress.after file lines i := by
  simp only [Progress.after, List.take_of_length_le h,
    List.take_of_length_le (Nat.le_succ_of_le h)]

theorem position_succ (h : Progress.steps file lines {} = .ok p) (i : Nat) :
    position file lines i ≤ position file lines (i + 1) ∧
      position file lines (i + 1) ≤ position file lines i + 1 := by
  cases hline : lines[i]? with
  | some line => exact (Progress.effect_after h hline).length
  | none =>
    rw [position, position, after_of_length_le (List.getElem?_eq_none_iff.mp hline)]
    omega

theorem position_mono (h : Progress.steps file lines {} = .ok p) :
    Monotone (position file lines) :=
  monotone_nat_of_le_succ fun i => (position_succ h i).1

theorem position_lt (h : Progress.steps file lines {} = .ok p) (hadds : Adds file lines i)
    (hij : i < j) : position file lines i < position file lines j :=
  Nat.lt_of_lt_of_le hadds (position_mono h hij)

theorem Adds.lt_length (h : Adds file lines i) : i < lines.length := by
  refine Nat.lt_of_not_le fun hle => ?_
  rw [Adds, position, position, after_of_length_le hle] at h
  omega

/-- No two lines add a finding at one position. -/
theorem Adds.eq_of_position (h : Progress.steps file lines {} = .ok p) (hi : Adds file lines i)
    (hj : Adds file lines j) (hposition : position file lines i = position file lines j) :
    i = j := by
  rcases Nat.lt_trichotomy i j with hlt | heq | hlt
  · have := position_lt h hi hlt
    omega
  · exact heq
  · have := position_lt h hj hlt
    omega

/-- Every finding was added by a line. -/
theorem exists_adds (h : Progress.steps file lines {} = .ok p) (hk : k < position file lines j) :
    ∃ i < j, Adds file lines i ∧ position file lines i = k := by
  induction j with
  | zero => exact absurd hk (Nat.not_lt_zero k)
  | succ j ih =>
    by_cases hbefore : k < position file lines j
    · obtain ⟨i, hij, hadds⟩ := ih hbefore
      exact ⟨i, Nat.lt_succ_of_lt hij, hadds⟩
    · have hbound := (position_succ h j).2
      exact ⟨j, Nat.lt_succ_self j, by rw [Adds]; omega, by omega⟩

/-- The finding is the last one as long as no line adds another. -/
theorem position_eq_iff (h : Progress.steps file lines {} = .ok p) (hadds : Adds file lines i)
    (hij : i < j) :
    position file lines j = position file lines i + 1 ↔
      ∀ k, i < k → k < j → ¬Adds file lines k := by
  have hnext : position file lines (i + 1) = position file lines i + 1 :=
    Nat.le_antisymm (position_succ h i).2 hadds
  constructor
  · intro hlast k hik hkj hmore
    have hbefore := position_mono h hik
    have hafter := position_lt h hmore hkj
    rw [Nat.succ_eq_add_one, hnext] at hbefore
    omega
  · intro hnone
    refine Nat.le_antisymm (Nat.le_of_not_lt fun hmore => ?_) (position_lt h hadds hij)
    obtain ⟨k, hkj, hk, hposition⟩ := exists_adds h hmore
    refine hnone k (Nat.lt_of_not_le fun hki => ?_) hkj hk
    have := position_mono h hki
    omega

/-! ## Records stay in place -/

/-- The finding at a position, counted from the first, after some of the lines. -/
def recordAt (file : List Char) (lines : List (List Char)) (j k : Nat) : Option Finding :=
  (Progress.after file lines j).found.reverse[k]?

/-- Line `j` announces an abort that is put down to the finding at position `k`: it is the latest
one, and it came just before or is about the same line. -/
def Hits (file : List Char) (lines : List (List Char)) (j k : Nat) (g : Finding) : Prop :=
  position file lines j = k + 1 ∧
    ∃ line n, lines[j]? = some line ∧ 1 ≤ n ∧ AbortsAt file line n ∧
      ((Progress.after file lines j).fresh = true ∨ g.line = n)

theorem recordAt_lt (h : recordAt file lines j k = some g) : k < position file lines j := by
  simpa [position] using (List.getElem?_eq_some_iff.mp h).1

/-- When the latest finding becomes an error, all others stay as they are. -/
theorem raised_record {last : Finding} {rest : List Finding}
    (hk : (last :: rest).reverse[k]? = some g) :
    k < rest.length ∧ (last.raised :: rest).reverse[k]? = some g ∨
    k = rest.length ∧ g = last ∧ (last.raised :: rest).reverse[k]? = some g.raised := by
  have hbound := (List.getElem?_eq_some_iff.mp hk).1
  rw [List.length_reverse, List.length_cons] at hbound
  rw [List.reverse_cons] at hk ⊢
  by_cases hearlier : k < rest.length
  · have hk' : k < rest.reverse.length := by rwa [List.length_reverse]
    rw [List.getElem?_append_left hk'] at hk ⊢
    exact .inl ⟨hearlier, hk⟩
  · obtain rfl : k = rest.length := by omega
    have hg : last = g := by simpa using hk
    subst hg
    exact .inr ⟨rfl, rfl, by simp⟩

/-- A line raises a finding if its abort is put down to it, and leaves it alone otherwise. -/
theorem record_next (h : Progress.steps file lines {} = .ok p) (hline : lines[j]? = some line)
    (hk : recordAt file lines j k = some g) :
    recordAt file lines (j + 1) k = some g ∧ ¬Hits file lines j k g ∨
    recordAt file lines (j + 1) k = some g.raised ∧ Hits file lines j k g := by
  have hlt := recordAt_lt hk
  have heffect := Progress.effect_after h hline
  unfold recordAt at hk ⊢
  unfold Hits
  unfold position at hlt ⊢
  rw [hline]
  generalize Progress.after file lines j = p at *
  generalize Progress.after file lines (j + 1) = q at *
  have hsame {f : Finding} : (f :: p.found).reverse[k]? = some g := by
    rw [List.reverse_cons, List.getElem?_append_left (by simpa using hlt), hk]
  cases heffect with
  | remark hread =>
    refine .inl ⟨hsame, ?_⟩
    rintro ⟨-, line', n, heq, -, habort, -⟩
    cases heq
    rw [habort.readLine] at hread
    cases hread
  | silent hread hzero =>
    refine .inl ⟨hk, ?_⟩
    rintro ⟨-, line', n, heq, hpos, habort, -⟩
    cases heq
    have := hzero n habort
    omega
  | @blame n last rest hpos habort hfound hcause =>
    rw [hfound] at hk ⊢
    rcases raised_record hk with ⟨hearlier, hkept⟩ | ⟨rfl, rfl, hraised⟩
    · refine .inl ⟨hkept, ?_⟩
      rintro ⟨hlatest, -⟩
      rw [List.length_cons] at hlatest
      omega
    · exact .inr ⟨hraised, rfl, line, n, rfl, hpos, habort, hcause⟩
  | @abort n hpos habort hcause =>
    refine .inl ⟨hsame, ?_⟩
    rintro ⟨hlatest, line', n', heq, -, habort', hcause'⟩
    cases heq
    cases habort.unique habort'
    obtain ⟨last, rest, hfound⟩ : ∃ last rest, p.found = last :: rest := by
      cases hfound : p.found with
      | nil => simp [hfound] at hlt
      | cons last rest => exact ⟨last, rest, rfl⟩
    obtain ⟨hstale, hother⟩ := hcause last (by simp [hfound])
    rw [hfound, List.length_cons] at hlatest
    have hg : last = g := by
      rw [hfound, List.reverse_cons, show k = rest.reverse.length by simp; omega] at hk
      simpa using hk
    subst hg
    rcases hcause' with hfresh | hsameLine
    · rw [hstale] at hfresh
      cases hfresh
    · exact hother hsameLine

/-- Whatever has been found stays where it is, and only ever becomes more serious. -/
theorem record_kept (h : Progress.steps file lines {} = .ok p) (hij : i ≤ j)
    (hj : j ≤ lines.length) (hk : recordAt file lines i k = some f) :
    ∃ g, recordAt file lines j k = some g ∧ f.KeptAs g := by
  induction hij with
  | refl => exact ⟨f, hk, .refl f⟩
  | @step j hij ih =>
    obtain ⟨g, hg, hkept⟩ := ih (Nat.le_of_succ_le hj)
    rcases record_next h (List.getElem?_eq_getElem hj) hg with ⟨hsame, -⟩ | ⟨hraised, -⟩
    · exact ⟨g, hsame, hkept⟩
    · exact ⟨g.raised, hraised, hkept.trans (.raised g)⟩

theorem recordAt_cons (h : (Progress.after file lines (i + 1)).found =
    f :: (Progress.after file lines i).found) :
    recordAt file lines (i + 1) (position file lines i) = some f := by
  simp [recordAt, h, position]

/-- A line that says something adds it. -/
theorem adds_of_readLine (h : Progress.steps file lines {} = .ok p) (hline : lines[i]? = some line)
    (hread : readLine file line = .ok (some f)) :
    Adds file lines i ∧ recordAt file lines (i + 1) (position file lines i) = some f ∧
      (Progress.after file lines (i + 1)).fresh = true := by
  have heffect := Progress.effect_after h hline
  generalize hq : Progress.after file lines (i + 1) = q at heffect
  cases heffect with
  | @remark f' hread' =>
    cases hread.symm.trans hread'
    exact ⟨by simp [Adds, position, hq], recordAt_cons (by rw [hq]), rfl⟩
  | silent hread' => cases hread.symm.trans hread'
  | blame _ habort => cases hread.symm.trans habort.readLine
  | abort _ habort => cases hread.symm.trans habort.readLine

/-- A line that adds a finding says it, or announces an abort that is put down to nothing. -/
theorem Adds.cases (h : Progress.steps file lines {} = .ok p) (hadds : Adds file lines i) :
    ∃ line, lines[i]? = some line ∧
      ((∃ f, readLine file line = .ok (some f)) ∨
        ∃ n, 1 ≤ n ∧ AbortsAt file line n ∧
          recordAt file lines (i + 1) (position file lines i) = some (abortFinding n)) := by
  have hline := List.getElem?_eq_getElem hadds.lt_length
  refine ⟨_, hline, ?_⟩
  have heffect := Progress.effect_after h hline
  rw [Adds, position, position] at hadds
  generalize hq : Progress.after file lines (i + 1) = q at hadds heffect
  cases heffect with
  | @remark f hread => exact .inl ⟨f, hread⟩
  | silent => simp at hadds
  | blame _ _ hfound => simp [hfound] at hadds
  | @abort n hpos habort => exact .inr ⟨n, hpos, habort, recordAt_cons (by rw [hq])⟩

/-! ## The exit status -/

/-- The exit status matters only if it reports a failure and no finding is an error; then the latest
finding becomes one, and without any the status is reported itself. -/
theorem settle_outcome (status : Option Int) (found : List Finding) :
    ((∀ n, status = some n → n = 0) ∨ HasError found) ∧ settle status found = found ∨
    ∃ n, status = some n ∧ n ≠ 0 ∧ ¬HasError found ∧
      (found = [] ∧ settle status found = [statusFinding n] ∨
        ∃ last rest, found = last :: rest ∧ settle status found = last.raised :: rest) := by
  have hany : found.any (·.severity == .error) = true ↔ HasError found := by simp [HasError]
  cases status with
  | none => exact .inl ⟨.inl (by simp), rfl⟩
  | some n =>
    have hkeeps : (n == 0 || found.any (·.severity == .error)) = true ↔ n = 0 ∨ HasError found := by
      rw [Bool.or_eq_true, hany, beq_iff_eq]
    by_cases hkeep : n = 0 ∨ HasError found
    · exact .inl ⟨by simpa using hkeep, by simp only [settle, hkeeps.mpr hkeep, if_true]⟩
    · obtain ⟨hn, hcalm⟩ := not_or.mp hkeep
      refine .inr ⟨n, rfl, hn, hcalm, ?_⟩
      simp only [settle, if_neg (mt hkeeps.mp hkeep)]
      cases found with
      | nil => exact .inl ⟨rfl, rfl⟩
      | cons last rest => exact .inr ⟨last, rest, rfl, rfl⟩

/-- The exit status keeps what has been found. -/
theorem settle_kept (status : Option Int) (hk : found.reverse[k]? = some f) :
    ∃ g, (settle status found).reverse[k]? = some g ∧ f.KeptAs g := by
  rcases settle_outcome status found with ⟨-, hsame⟩ |
    ⟨n, -, -, -, ⟨rfl, -⟩ | ⟨last, rest, rfl, hraised⟩⟩
  · exact ⟨f, by rw [hsame, hk], .refl f⟩
  · simp at hk
  · rw [hraised]
    rcases raised_record hk with ⟨-, hsame⟩ | ⟨-, -, hlatest⟩
    · exact ⟨f, hsame, .refl f⟩
    · exact ⟨f.raised, hlatest, .raised f⟩

/-! ## Reports keep what their lines say -/

/-- What a line says that announces no abort. -/
def remark? (file line : List Char) : Option Finding :=
  match abortDigits? file (trimRight line), readLine file line with
  | none, .ok found => found
  | _, _ => none

/-- What the lines say one by one, each with the number of its line, counted from zero. -/
def remarks (file : List Char) (lines : List (List Char)) : List (Finding × Nat) :=
  lines.zipIdx.filterMap fun (line, i) => (remark? file line).map (·, i)

theorem remark?_eq_some_iff : remark? file line = some f ↔ readLine file line = .ok (some f) := by
  unfold remark?
  constructor
  · intro h
    split at h
    · next hread => rw [hread, h]
    · cases h
  · intro hread
    cases hdigits : abortDigits? file (trimRight line) with
    | none => simp only [hread]
    | some digits =>
      rw [(abortsAt_iff.mpr ⟨digits, hdigits, rfl⟩).readLine] at hread
      cases hread

theorem mem_remarks : (f, i) ∈ remarks file lines ↔
    ∃ line, lines[i]? = some line ∧ readLine file line = .ok (some f) := by
  simp only [remarks, List.mem_filterMap, Prod.exists, Option.map_eq_some_iff, Prod.mk.injEq,
    remark?_eq_some_iff, List.mem_zipIdx_iff_getElem?]
  constructor
  · rintro ⟨line, j, hline, f', hread, rfl, rfl⟩
    exact ⟨line, hline, hread⟩
  · rintro ⟨line, hline, hread⟩
    exact ⟨line, i, hline, f, hread, rfl, rfl⟩

/-- Remarks stand in the order of their lines. -/
theorem pairwise_remarks (file : List Char) (lines : List (List Char)) :
    (remarks file lines).Pairwise fun a b => a.2 < b.2 := by
  have hlines : lines.zipIdx.Pairwise fun a b => a.2 < b.2 := by
    rw [← List.pairwise_map, List.zipIdx_map_snd]
    exact List.pairwise_lt_range'
  refine hlines.filterMap _ ?_
  intro a a' hlt b hb b' hb'
  obtain ⟨f, -, rfl⟩ := Option.map_eq_some_iff.mp hb
  obtain ⟨f', -, rfl⟩ := Option.map_eq_some_iff.mp hb'
  exact hlt

/-- What has been found after some of the lines is there in the end, at its position. -/
theorem record_final (h : readLines file status lines = .ok found) (hi : i ≤ lines.length)
    (hk : recordAt file lines i k = some f) : ∃ g, found[k]? = some g ∧ f.KeptAs g := by
  obtain ⟨p, hsteps, rfl⟩ := map_ok h
  obtain ⟨g, hg, hkept⟩ := record_kept hsteps hi (Nat.le_refl _) hk
  rw [recordAt, Progress.after_length hsteps] at hg
  obtain ⟨g', hg', hsettled⟩ := settle_kept status hg
  exact ⟨g', hg', hkept.trans hsettled⟩

theorem found_of_readLine (h : readLines file status lines = .ok found)
    (hline : lines[i]? = some line) (hread : readLine file line = .ok (some f)) :
    ∃ g, found[position file lines i]? = some g ∧ f.KeptAs g := by
  obtain ⟨p, hsteps, -⟩ := map_ok h
  obtain ⟨hadds, hrecord, -⟩ := adds_of_readLine hsteps hline hread
  exact record_final h hadds.lt_length hrecord

/-- Every finding was added by a line, but for the report of the exit status, which stands alone. -/
theorem found_source (h : readLines file status lines = .ok found) (hk : k < found.length) :
    (∃ i, Adds file lines i ∧ position file lines i = k) ∨
    ∃ n, status = some n ∧ n ≠ 0 ∧ found = [statusFinding n] ∧ ∀ i, ¬Adds file lines i := by
  obtain ⟨p, hsteps, rfl⟩ := map_ok h
  have hlength : position file lines lines.length = p.found.length := by
    rw [position, Progress.after_length hsteps]
  have hadded (hp : k < p.found.length) : ∃ i, Adds file lines i ∧ position file lines i = k := by
    obtain ⟨i, -, hadds⟩ := exists_adds hsteps (hlength.symm ▸ hp)
    exact ⟨i, hadds⟩
  rw [List.length_reverse] at hk
  rcases settle_outcome status p.found with ⟨-, hsame⟩ |
    ⟨n, hstatus, hn, -, ⟨hnone, hreport⟩ | ⟨last, rest, hfound, hraised⟩⟩
  · exact .inl (hadded (by rwa [hsame] at hk))
  · refine .inr ⟨n, hstatus, hn, by rw [hreport]; rfl, fun i hadds => ?_⟩
    have := position_lt hsteps hadds hadds.lt_length
    simp [hlength, hnone] at this
  · refine .inl (hadded ?_)
    rw [hraised] at hk
    rw [hfound]
    exact hk

/-- Where a remark stands in a report. -/
theorem found_of_remark (h : readLines file status lines = .ok found)
    (hremark : (f, i) ∈ remarks file lines) :
    Adds file lines i ∧
      ∃ hlt : position file lines i < found.length, f.KeptAs (found.get ⟨_, hlt⟩) := by
  obtain ⟨line, hline, hread⟩ := mem_remarks.mp hremark
  obtain ⟨p, hsteps, -⟩ := map_ok h
  obtain ⟨g, hg, hkept⟩ := found_of_readLine h hline hread
  obtain ⟨hlt, rfl⟩ := List.getElem?_eq_some_iff.mp hg
  exact ⟨(adds_of_readLine hsteps hline hread).1, hlt, hkept⟩

/-- What a line has added is its remark, or the record of the abort it announces. -/
theorem found_of_adds (h : readLines file status lines = .ok found) (hadds : Adds file lines i)
    {k : Fin found.length} (hk : position file lines i = k) :
    (∃ f, (f, i) ∈ remarks file lines) ∨
    ∃ line n, lines[i]? = some line ∧ 1 ≤ n ∧ AbortsAt file line n ∧
      found.get k = abortFinding n := by
  obtain ⟨p, hsteps, -⟩ := map_ok h
  obtain ⟨line, hline, ⟨f, hread⟩ | ⟨n, hpos, habort, hrecord⟩⟩ := hadds.cases hsteps
  · exact .inl ⟨f, mem_remarks.mpr ⟨line, hline, hread⟩⟩
  · obtain ⟨g, hg, hkept⟩ := record_final h hadds.lt_length hrecord
    obtain rfl := hkept.eq_of_error rfl
    rw [hk] at hg
    exact .inr ⟨line, n, hline, hpos, habort, (List.getElem?_eq_some_iff.mp hg).2⟩

/-- A report says what its lines say, in their order and in their words, and nothing less serious.
Whatever else it says is the record of an abort, at the place of the line that announces it, or else
it says nothing but that the interpreter failed. -/
theorem remarks_kept (h : readLines file status lines = .ok found) :
    ∃ (place : Fin (remarks file lines).length → Fin found.length)
      (source : Fin found.length → Nat),
      StrictMono place ∧ StrictMono source ∧
      (∀ i, source (place i) = ((remarks file lines).get i).2 ∧
        ((remarks file lines).get i).1.KeptAs (found.get (place i))) ∧
      ∀ k, (∀ i, place i ≠ k) → (found.get k).severity = .error ∧
        ((∃ line n, lines[source k]? = some line ∧ 1 ≤ n ∧ AbortsAt file line n ∧
            found.get k = ⟨⟨.error, "BEGIN failed--compilation aborted"⟩, n⟩) ∨
          ∃ n, status = some n ∧ n ≠ 0 ∧
            found = [⟨⟨.error, "compilation failed with exit status " ++ toString n⟩, 1⟩]) := by
  obtain ⟨p, hsteps, -⟩ := map_ok h
  have hremark (i : Fin (remarks file lines).length) :=
    found_of_remark h (List.get_mem (remarks file lines) i)
  -- The report of the exit status has no source; any number will do, since it stands alone.
  have hsource (k : Fin found.length) : ∃ i,
      Adds file lines i ∧ position file lines i = k ∨
        ∃ n, status = some n ∧ n ≠ 0 ∧ found = [statusFinding n] ∧ ∀ i, ¬Adds file lines i := by
    rcases found_source h k.isLt with ⟨i, hi⟩ | hstatus
    · exact ⟨i, .inl hi⟩
    · exact ⟨0, .inr hstatus⟩
  choose source hsource using hsource
  refine ⟨fun i => ⟨_, (hremark i).2.1⟩, source, ?_, ?_, ?_, ?_⟩
  · intro i j hij
    exact position_lt hsteps (hremark i).1
      (List.pairwise_iff_getElem.mp (pairwise_remarks file lines) i j i.isLt j.isLt hij)
  · intro k l hkl
    rcases hsource k with ⟨-, hk⟩ | ⟨n, -, -, rfl, -⟩
    · rcases hsource l with ⟨-, hl⟩ | ⟨n, -, -, rfl, -⟩
      · refine Nat.lt_of_not_le fun hle => ?_
        have := position_mono hsteps hle
        omega
      · exact absurd hkl (by simp)
    · exact absurd hkl (by simp)
  · intro i
    obtain ⟨hadds, hlt, hkept⟩ := hremark i
    rcases hsource ⟨_, hlt⟩ with ⟨hadds', hposition⟩ | ⟨n, -, -, -, hnone⟩
    · exact ⟨hadds'.eq_of_position hsteps hadds hposition, hkept⟩
    · exact absurd hadds (hnone _)
  · intro k hk
    rcases hsource k with ⟨hadds, hposition⟩ | ⟨n, hstatus, hn, rfl, -⟩
    · rcases found_of_adds h hadds hposition with ⟨f, hf⟩ | ⟨line, n, hline, hpos, habort, hget⟩
      · obtain ⟨i, hi⟩ := List.get_of_mem hf
        refine absurd (Fin.ext ?_) (hk i)
        show position file lines ((remarks file lines).get i).2 = k
        rw [hi, hposition]
      · exact ⟨by rw [hget]; rfl, .inl ⟨line, n, hline, hpos, habort, hget⟩⟩
    · have hget : [statusFinding n].get k = statusFinding n := by simp
      exact ⟨by rw [hget]; rfl, .inr ⟨n, hstatus, hn, rfl⟩⟩

/-- The first abort is put down to the remark before it, the second to nothing. -/
theorem remarks_kept_two_aborts :
    let lines := ["odd at f line 3.".toList,
      "BEGIN failed--compilation aborted at f line 9.".toList, "noise".toList,
      "BEGIN failed--compilation aborted at f line 4.".toList, "late at f line 4.".toList]
    let found : List Finding :=
      [⟨⟨.error, "odd"⟩, 3⟩, ⟨⟨.error, "BEGIN failed--compilation aborted"⟩, 4⟩,
        ⟨⟨.warning, "late"⟩, 4⟩]
    readLines "f".toList (some 1) lines = .ok found ∧
    ∃ place : Fin (remarks "f".toList lines).length → Fin found.length, StrictMono place ∧
      ∀ i, ((remarks "f".toList lines).get i).1.KeptAs (found.get (place i)) := by
  intro lines found
  have hread : readLines "f".toList (some 1) lines = .ok found := by decide +kernel
  obtain ⟨place, source, hplace, -, hremarks, -⟩ := remarks_kept hread
  exact ⟨hread, place, hplace, fun i => (hremarks i).2⟩

end Output

end PerlVet
