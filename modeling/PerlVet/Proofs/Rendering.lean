import Mathlib.Data.List.Infix
import PerlVet.Proofs.Location

/-!
Reading undoes the rendering of the interpreter. A `Remark` is what the interpreter has to say about
a line of a file, and `Remark.text` is how it says it. The message may itself quote a place, and the
name of the file may look like part of one; still the place that was rendered is the last one
(`Remark.WellFormed.noLaterPlace`), so a line is read as the remark it renders (`readLine_text`), and
an output of many lines as all of them (`read_rendered`).
-/

namespace PerlVet.Output
open Text

/-- What follows the line number of a remark. -/
inductive Tail where
  /-- A full stop. -/
  | stop
  /-- The input handle that was read last. -/
  | handle (name unit count : List Char)
  /-- The context of an error. -/
  | context (text : List Char)
  deriving DecidableEq

def Tail.text : Tail → List Char
  | stop => ['.']
  | handle name unit count => handleText name unit count
  | context text => text

/-- The tail is written as the interpreter does it; a context starts with a comma, cannot be taken
for an input handle and does not end in a blank. -/
def Tail.Proper : Tail → Prop
  | stop => True
  | handle name unit count => IsHandle name unit count
  | context text => text.head? = some ',' ∧
      (∀ name unit count, IsHandle name unit count → text ≠ handleText name unit count) ∧
      ∀ c ∈ text.getLast?, isBlank c = false

/-- A remark of the interpreter about a line of a file. -/
structure Remark where
  message : List Char
  line : Nat
  tail : Tail

namespace Remark

/-- The place that a remark names, and what follows. -/
def placeText (file : List Char) (r : Remark) : List Char :=
  " at ".toList ++ (file ++ (" line ".toList ++ (Nat.toDigits 10 r.line ++ r.tail.text)))

/-- A remark as the interpreter prints it. -/
def text (file : List Char) (r : Remark) : List Char := r.message ++ r.placeText file

/-- What is to be read from a remark. -/
def finding (r : Remark) : Finding :=
  match r.tail with
  | .context text => ⟨⟨.error, String.ofList (r.message ++ text)⟩, r.line⟩
  | _ => ⟨⟨impliedSeverity r.message, String.ofList r.message⟩, r.line⟩

end Remark

/-- No place in the file is named later than at the very start of the text. -/
def NoLaterPlace (file cs : List Char) : Prop :=
  ∀ before digit rest, isDigit digit = true →
    cs = before ++ (" at ".toList ++ (file ++ (" line ".toList ++ digit :: rest))) → before = []

/-- A remark that can be read back. Its parts stand on one line, its tail leads to no other place,
and it does not look like a restatement. -/
structure Remark.WellFormed (file : List Char) (r : Remark) : Prop where
  message_ne : r.message ≠ []
  line_pos : 1 ≤ r.line
  digits_le : (Nat.toDigits 10 r.line).length ≤ 4300
  tail_proper : r.tail.Proper
  message_oneLine : OneLine r.message
  tail_oneLine : OneLine r.tail.text
  tail_noPlace : r.tail ≠ .stop → NoLaterPlace file (r.placeText file)
  new : isRestatement (r.text file) = false

variable {file : List Char} {r : Remark} {t : Tail}

/-! ## Deciding whether a remark can be read back -/

instance (name unit count : List Char) : Decidable (IsHandle name unit count) :=
  decidable_of_iff (name ≠ [] ∧ '>' ∉ name ∧ unit ∈ handleUnits ∧ IsNumeral count)
    ⟨fun ⟨h₁, h₂, h₃, h₄⟩ => ⟨h₁, h₂, h₃, h₄⟩, fun ⟨h₁, h₂, h₃, h₄⟩ => ⟨h₁, h₂, h₃, h₄⟩⟩

theorem isHandleTail_eq_false_iff {tail : List Char} :
    isHandleTail tail = false ↔
      ∀ name unit count, IsHandle name unit count → tail ≠ handleText name unit count := by
  rw [Bool.eq_false_iff, ne_eq, isHandleTail_iff]
  exact ⟨fun h name unit count hparts heq => h ⟨name, unit, count, hparts, heq⟩,
    fun h ⟨name, unit, count, hparts, heq⟩ => h name unit count hparts heq⟩

instance : (t : Tail) → Decidable t.Proper
  | .stop => .isTrue trivial
  | .handle name unit count => inferInstanceAs (Decidable (IsHandle name unit count))
  | .context text => decidable_of_iff (text.head? = some ',' ∧ isHandleTail text = false ∧
      text.getLast?.all (!isBlank ·) = true) (by
        rw [isHandleTail_eq_false_iff, Tail.Proper]
        cases text.getLast? <;> simp)

theorem noLaterPlace_iff {cs : List Char} :
    NoLaterPlace file cs ↔ ∀ rest ∈ cs.tail.tails, placeHere? (mark file) rest = none := by
  constructor
  · intro h rest hrest
    obtain ⟨before, hbefore⟩ := (List.mem_tails ..).mp hrest
    cases hplace : placeHere? (mark file) rest with
    | none => rfl
    | some place =>
      obtain ⟨hne, digits, rfl, hrun⟩ := placeHere?_eq_some_iff.mp hplace
      obtain ⟨digit, more, hdigits⟩ := List.exists_cons_of_ne_nil hne
      have hnumber : digits = digit :: (more ++ place.2) := by
        rw [hrun.eq, hdigits, List.cons_append]
      cases cs with
      | nil => simp [mark] at hbefore
      | cons c cs =>
        have hnil := h (c :: before) digit (more ++ place.2) (hrun.all _ (by simp [hdigits]))
          (by rw [← mark_append, ← hnumber, List.cons_append, hbefore, List.tail_cons])
        cases hnil
  · intro h before digit rest hdigit heq
    cases before with
    | nil => rfl
    | cons c before =>
      rw [← mark_append] at heq
      have hrun := run_takeWhile isDigit (digit :: rest)
      have hne : (digit :: rest).takeWhile isDigit ≠ [] := by simp [hdigit]
      have hplace : placeHere? (mark file) (mark file ++ digit :: rest) = some _ :=
        placeHere?_eq_some_iff.mpr ⟨hne, _, rfl, hrun⟩
      rw [h _ ((List.mem_tails ..).mpr ⟨before, by rw [heq]; rfl⟩)] at hplace
      cases hplace

instance (file cs : List Char) : Decidable (NoLaterPlace file cs) :=
  decidable_of_iff _ noLaterPlace_iff.symm

instance (file : List Char) (r : Remark) : Decidable (r.WellFormed file) :=
  decidable_of_iff (r.message ≠ [] ∧ 1 ≤ r.line ∧ (Nat.toDigits 10 r.line).length ≤ 4300 ∧
      r.tail.Proper ∧ OneLine r.message ∧ OneLine r.tail.text ∧
      (r.tail ≠ .stop → NoLaterPlace file (r.placeText file)) ∧
      isRestatement (r.text file) = false)
    ⟨fun ⟨h₁, h₂, h₃, h₄, h₅, h₆, h₇, h₈⟩ => ⟨h₁, h₂, h₃, h₄, h₅, h₆, h₇, h₈⟩,
      fun ⟨h₁, h₂, h₃, h₄, h₅, h₆, h₇, h₈⟩ => ⟨h₁, h₂, h₃, h₄, h₅, h₆, h₇, h₈⟩⟩

/-! ## Tails -/

theorem Tail.Proper.head (h : t.Proper) : t.text.head? = some '.' ∨ t.text.head? = some ',' := by
  cases t with
  | stop => exact .inl rfl
  | handle name unit count => exact .inr rfl
  | context text => exact .inr h.1

theorem Tail.Proper.ne_nil (h : t.Proper) : t.text ≠ [] := by
  intro hnil
  rcases h.head with h | h <;> simp [hnil] at h

theorem Tail.Proper.head_not_digit (h : t.Proper) : ∀ c ∈ t.text.head?, isDigit c = false := by
  intro c hc
  rcases h.head with h | h <;> rw [h, Option.mem_some_iff] at hc <;> subst hc <;> decide

theorem handleText_eq (name unit count : List Char) :
    handleText name unit count =
      (", <".toList ++ (name ++ ("> ".toList ++ (unit ++ (" ".toList ++ count))))) ++ ['.'] := by
  simp only [handleText, List.append_assoc]

theorem Tail.Proper.last (h : t.Proper) : ∃ front c, t.text = front ++ [c] ∧ isBlank c = false := by
  cases t with
  | stop => exact ⟨[], '.', rfl, by decide⟩
  | handle name unit count => exact ⟨_, '.', handleText_eq name unit count, by decide⟩
  | context text =>
    have hne := h.ne_nil
    exact ⟨_, _, (List.dropLast_append_getLast hne).symm,
      h.2.2 _ (List.getLast?_eq_some_getLast hne)⟩

/-! ## The last place -/

theorem mark_eq (file : List Char) :
    mark file = (" at ".toList ++ (file ++ " line".toList)) ++ [' '] := by
  simp only [mark, List.append_assoc]
  rfl

/-- Behind a full stop there is no room for another place: it would have to start inside the one
before, and the blank at the end of its mark would be one of the digits. -/
theorem noLaterPlace_stop {digits : List Char} (hdigits : ∀ c ∈ digits, isDigit c = true) :
    NoLaterPlace file (mark file ++ (digits ++ ['.'])) := by
  intro before digit rest _ heq
  rw [← mark_append, ← List.append_assoc before] at heq
  obtain ⟨excess, hover, htail⟩ | ⟨excess, hover, -⟩ := List.append_eq_append_iff.mp heq
  · cases excess using List.reverseRecOn with
    | nil =>
      have hlen := congrArg List.length hover
      simp only [mark, List.append_nil, List.length_append] at hlen
      exact List.eq_nil_of_length_eq_zero (by omega)
    | append_singleton excess c =>
      have hc : c = ' ' := by
        rw [mark_eq, ← List.append_assoc, ← List.append_assoc (_ ++ [' '])] at hover
        exact (List.singleton_inj.mp (List.append_inj' hover rfl).2).symm
      have hmem : ' ' ∈ digits ++ ['.'] := by
        rw [htail, hc]
        simp
      rcases List.mem_append.mp hmem with hmem | hmem
      · exact absurd (hdigits _ hmem) (by decide)
      · exact absurd hmem (by decide)
  · have hlen := congrArg List.length hover
    simp only [mark, List.length_append] at hlen
    exact List.eq_nil_of_length_eq_zero (by omega)

/-- A line is taken apart at a place that no other place follows. -/
theorem Located.Cuts.locate_eq {line : List Char} {l : Located} (h : l.Cuts (mark file) line)
    (hlast : NoLaterPlace file (mark file ++ (l.digits ++ l.tail))) :
    locate file line = some l := by
  refine locate_eq_some_iff.mpr ⟨h, fun l' hcut => Nat.le_of_not_lt fun hlonger => ?_⟩
  -- A longer message ends inside the place, at the start of a later one.
  obtain ⟨before, hmessage, hplace⟩ | ⟨excess, hover, -⟩ :=
    List.append_eq_append_iff.mp (h.eq.symm.trans hcut.eq)
  · obtain ⟨digit, digits, hdigits⟩ := List.exists_cons_of_ne_nil hcut.digits_ne
    have hbefore := hlast before digit (digits ++ l'.tail)
      (hcut.digits digit (by simp [hdigits]))
      (by rw [hplace, hdigits, mark_append, List.cons_append])
    simp [hmessage, hbefore] at hlonger
  · have hlen := congrArg List.length hover
    simp only [List.length_append] at hlen
    omega

namespace Remark

theorem placeText_eq (file : List Char) (r : Remark) :
    r.placeText file = mark file ++ (Nat.toDigits 10 r.line ++ r.tail.text) :=
  (mark_append file _).symm

theorem WellFormed.noLaterPlace (h : r.WellFormed file) :
    NoLaterPlace file (r.placeText file) := by
  by_cases hstop : r.tail = .stop
  · rw [placeText_eq, hstop]
    exact noLaterPlace_stop fun _ => isDigit_of_mem_toDigits
  · exact h.tail_noPlace hstop

theorem WellFormed.locate_text (h : r.WellFormed file) :
    locate file (r.text file) = some ⟨r.message, Nat.toDigits 10 r.line, r.tail.text⟩ := by
  have hcuts : Located.Cuts (mark file) (r.text file)
      ⟨r.message, Nat.toDigits 10 r.line, r.tail.text⟩ :=
    ⟨by rw [text, placeText_eq], h.message_ne, Nat.toDigits_ne_nil,
      fun _ => isDigit_of_mem_toDigits, h.tail_proper.head_not_digit,
      h.message_oneLine.newline_not_mem, h.tail_oneLine.newline_not_mem⟩
  refine hcuts.locate_eq ?_
  rw [← placeText_eq]
  exact h.noLaterPlace

/-! ## Reading one line -/

theorem WellFormed.trimRight_text (h : r.WellFormed file) :
    trimRight (r.text file) = r.text file := by
  obtain ⟨front, c, htail, hc⟩ := h.tail_proper.last
  have hend : r.text file =
      (r.message ++ (mark file ++ (Nat.toDigits 10 r.line ++ front))) ++ [c] := by
    simp only [text, placeText_eq, htail, List.append_assoc]
  rw [hend]
  exact trimRight_append_singleton hc _

theorem finding_located (h : r.WellFormed file) :
    Located.finding ⟨r.message, Nat.toDigits 10 r.line, r.tail.text⟩ r.line = some r.finding := by
  have hline : ¬r.line < 1 := Nat.not_lt.mpr h.line_pos
  have hproper := h.tail_proper
  cases htail : r.tail with
  | stop => simp [Located.finding, finding, htail, Tail.text, hline]
  | handle name unit count =>
    rw [htail] at hproper
    have hhandle : isHandleTail (handleText name unit count) = true :=
      isHandleTail_iff.mpr ⟨name, unit, count, hproper, rfl⟩
    simp [Located.finding, finding, htail, Tail.text, hline, hhandle]
  | context text =>
    rw [htail] at hproper
    have hhandle : isHandleTail text = false := isHandleTail_eq_false_iff.mpr hproper.2.1
    have hstop : text ≠ ['.'] := by
      rintro rfl
      exact absurd hproper.1 (by decide)
    simp [Located.finding, finding, htail, Tail.text, hline, hhandle, hstop, hproper.1]

/-- A rendered line is read as the remark it renders. -/
theorem WellFormed.readLine_text (h : r.WellFormed file) :
    readLine file (r.text file) = .ok (some r.finding) := by
  have hne : (r.text file).isEmpty = false := by
    rw [text, List.isEmpty_eq_false_iff]
    simp [h.message_ne]
  simp only [readLine, h.trimRight_text, hne, h.new, h.locate_text, Bool.or_self,
    Bool.false_eq_true, if_false, readNumber_toDigits h.digits_le, Except.map, finding_located h]

end Remark

theorem readLine_of_isRestatement {line : List Char} (h : isRestatement (trimRight line) = true) :
    readLine file line = .ok none := by
  simp [readLine, h]

/-- A line that announces an abort is a restatement as well. -/
theorem isRestatement_of_abortDigits {line digits : List Char}
    (h : abortDigits? file line = some digits) : isRestatement line = true := by
  have hhead : abortMessage.toList.isPrefixOf line = true := by
    rw [(abortDigits?_eq_some_iff.mp h).2, List.append_assoc]
    exact isPrefixOf_iff.mpr ⟨_, rfl⟩
  simp [isRestatement, hhead]

theorem Remark.WellFormed.abortDigits_text (h : r.WellFormed file) :
    abortDigits? file (r.text file) = none := by
  cases hdigits : abortDigits? file (r.text file) with
  | none => rfl
  | some digits => simpa [h.new] using isRestatement_of_abortDigits hdigits

/-! ## Reading an output -/

theorem Progress.step_text (h : r.WellFormed file) (p : Progress) :
    p.step file (r.text file) = .ok ⟨r.finding :: p.found, true⟩ := by
  simp only [Progress.step, h.trimRight_text, h.abortDigits_text, h.readLine_text, Except.map]

theorem Progress.steps_text {rs : List Remark} (h : ∀ r ∈ rs, r.WellFormed file)
    (p : Progress) :
    ∃ fresh, Progress.steps file (rs.map (·.text file)) p =
      .ok ⟨(rs.map Remark.finding).reverse ++ p.found, fresh⟩ := by
  induction rs generalizing p with
  | nil => exact ⟨p.fresh, rfl⟩
  | cons r rs ih =>
    obtain ⟨fresh, hrest⟩ := ih (fun r hr => h r (by simp [hr])) ⟨r.finding :: p.found, true⟩
    refine ⟨fresh, ?_⟩
    rw [List.map_cons, Progress.steps, Progress.step_text (h r (by simp)), Except.bind, hrest]
    simp

/-- An exit status that reports no failure changes nothing. -/
theorem settle_of_success {status : Option Int} (h : status = none ∨ status = some 0)
    (found : List Finding) : settle status found = found := by
  rcases h with rfl | rfl <;> rfl

theorem Remark.WellFormed.oneLine_text (h : r.WellFormed file) (hfile : OneLine file) :
    OneLine (r.text file) := by
  have hdigits : OneLine (Nat.toDigits 10 r.line) := by
    intro c hc
    rw [Bool.eq_false_iff]
    intro hboundary
    exact absurd (isDigit_of_mem_toDigits hc) (by simp [not_isDigit_of_isLineBoundary hboundary])
  have hat : OneLine " at ".toList := by decide
  have hline : OneLine " line ".toList := by decide
  exact h.message_oneLine.append
    (hat.append (hfile.append (hline.append (hdigits.append h.tail_oneLine))))

/-! ## Restatements among remarks -/

theorem IsNumeral.ends {count : List Char} (h : IsNumeral count) (front : List Char) :
    ∃ before d, isDigit d = true ∧ front ++ (count ++ ['.']) = before ++ [d, '.'] := by
  refine ⟨front ++ count.dropLast, count.getLast h.1, h.2 _ (List.getLast_mem h.1), ?_⟩
  conv => lhs; rw [← List.dropLast_append_getLast h.1]
  simp

/-- A line that ends behind its place, perhaps with the last input handle, ends in a number and a
full stop. -/
theorem place_ends {digits tail : List Char} (hdigits : IsNumeral digits)
    (htail : tail = ['.'] ∨
      ∃ name unit count, IsHandle name unit count ∧ tail = handleText name unit count)
    (front : List Char) :
    ∃ before d, isDigit d = true ∧ front ++ (digits ++ tail) = before ++ [d, '.'] := by
  rcases htail with rfl | ⟨name, unit, count, hhandle, rfl⟩
  · exact hdigits.ends front
  · obtain ⟨before, d, hd, hends⟩ := hhandle.count_numeral.ends
      (front ++ (digits ++ (", <".toList ++ (name ++ ("> ".toList ++ (unit ++ " ".toList))))))
    refine ⟨before, d, hd, ?_⟩
    rw [← hends]
    simp only [handleText, List.append_assoc]

/-- Without a context, a remark ends in a number and a full stop. -/
theorem Remark.text_ends (file : List Char) (h : r.tail.Proper)
    (hcontext : ∀ text, r.tail ≠ .context text) :
    ∃ front d, isDigit d = true ∧ r.text file = front ++ [d, '.'] := by
  have hnumeral : IsNumeral (Nat.toDigits 10 r.line) :=
    ⟨Nat.toDigits_ne_nil, fun _ => isDigit_of_mem_toDigits⟩
  rw [Remark.text, Remark.placeText_eq, ← List.append_assoc]
  refine place_ends hnumeral ?_ _
  cases htail : r.tail with
  | stop => exact .inl rfl
  | handle name unit count =>
    rw [htail] at h
    exact .inr ⟨name, unit, count, h, rfl⟩
  | context text => exact absurd htail (hcontext text)

/-- How the restatements end that are told by their end. -/
def restatementEnds : List (List Char) :=
  ["had compilation errors.".toList, " syntax OK".toList,
    " aborted due to compilation errors.".toList]

/-- No restatement that is told by its end ends in a number and a full stop. -/
theorem not_suffix_numeral_stop {front w : List Char} {d : Char} (hw : w ∈ restatementEnds)
    (hd : isDigit d = true) : ¬w <:+ front ++ [d, '.'] := by
  have hends : ∀ w ∈ restatementEnds, 2 ≤ w.length ∧ w.reverse[1]?.any isDigit = false := by
    decide
  intro h
  obtain ⟨u, rfl⟩ : [d, '.'] <:+ w :=
    List.suffix_of_suffix_length_le (List.suffix_append front _) h (hends w hw).1
  have hdigit : isDigit d = false := by simpa using (hends _ hw).2
  rw [hd] at hdigit
  cases hdigit

/-- A word that is not cut by the mark of a place begins a line only if it begins the message and
the first word of the mark. -/
theorem prefix_place_iff {w : List Char} (message rest : List Char) (h : ¬" at ".toList <:+: w) :
    w <+: message ++ (" at ".toList ++ rest) ↔ w <+: message ++ " at ".toList := by
  have hhead : message ++ " at ".toList <+: message ++ (" at ".toList ++ rest) := by
    rw [← List.append_assoc]
    exact List.prefix_append ..
  constructor
  · intro hw
    rcases List.prefix_or_prefix_of_prefix hw hhead with hw | hw
    · exact hw
    · exact absurd ((List.suffix_append ..).isInfix.trans hw.isInfix) h
  · intro hw
    exact hw.trans hhead

/-- A line about a place that ends in a number and a full stop looks like a restatement only by the
way it begins. -/
theorem isRestatement_place_iff {message rest front : List Char} {d : Char} (hd : isDigit d = true)
    (hends : message ++ (" at ".toList ++ rest) = front ++ [d, '.']) :
    isRestatement (message ++ (" at ".toList ++ rest)) = true ↔
      "BEGIN failed--compilation aborted".toList <+: message ++ " at ".toList ∨
      "BEGIN not safe after errors--compilation aborted".toList <+: message ++ " at ".toList := by
  rw [← prefix_place_iff message rest (by decide), ← prefix_place_iff message rest (by decide),
    hends]
  have hnewline : dropFinalNewline (front ++ [d, '.']) = front ++ [d, '.'] := by
    simp [dropFinalNewline]
  have herrors : "had compilation errors.".toList.isSuffixOf (front ++ [d, '.']) = false := by
    rw [Bool.eq_false_iff, ne_eq, List.isSuffixOf_iff_suffix]
    exact not_suffix_numeral_stop (.head _) hd
  have hsyntax : " syntax OK".toList.isSuffixOf (front ++ [d, '.']) = false := by
    rw [Bool.eq_false_iff, ne_eq, List.isSuffixOf_iff_suffix]
    exact not_suffix_numeral_stop (.tail _ (.head _)) hd
  have hframed : framed "Execution of ".toList " aborted due to compilation errors.".toList
      (front ++ [d, '.']) = false := by
    rw [Bool.eq_false_iff]
    intro hframed
    simp only [framed, Bool.and_eq_true, List.isSuffixOf_iff_suffix] at hframed
    exact not_suffix_numeral_stop (.tail _ (.tail _ (.head _))) hd
      (hframed.1.2.trans (List.drop_suffix _ _))
  simp only [isRestatement, hnewline, herrors, hsyntax, hframed, Bool.or_false, Bool.or_eq_true,
    List.isPrefixOf_iff_prefix]
  rfl

/-- A remark without a context looks like a restatement only by the way it begins. -/
theorem isRestatement_text_iff (file : List Char) (h : r.tail.Proper)
    (hcontext : ∀ text, r.tail ≠ .context text) :
    isRestatement (r.text file) = true ↔
      "BEGIN failed--compilation aborted".toList <+: r.message ++ " at ".toList ∨
      "BEGIN not safe after errors--compilation aborted".toList <+:
        r.message ++ " at ".toList := by
  obtain ⟨front, d, hd, htext⟩ := Remark.text_ends file h hcontext
  exact isRestatement_place_iff hd htext

/-! ## Reading undoes rendering -/

/-- Whatever remarks the interpreter prints about a file, one a line, reading its output gives their
findings, in order: with the severity that the message implies, or as errors where the context
follows. Apart from contexts, all that this asks of a remark by not being a restatement is that it
does not begin as one. -/
theorem read_rendered (file : List Char) :
    (∀ (rs : List Remark) (status : Option Int), OneLine file →
      status = none ∨ status = some 0 → (∀ r ∈ rs, r.WellFormed file) →
      read file status (['\n'].intercalate (rs.map (·.text file))) =
        .ok (rs.map Remark.finding)) ∧
    ∀ r : Remark, r.tail.Proper → (∀ text, r.tail ≠ .context text) →
      (isRestatement (r.text file) = true ↔
        "BEGIN failed--compilation aborted".toList <+: r.message ++ " at ".toList ∨
        "BEGIN not safe after errors--compilation aborted".toList <+:
          r.message ++ " at ".toList) := by
  refine ⟨fun rs status hfile hstatus h => ?_, fun r => isRestatement_text_iff file⟩
  have hlines : splitLines (['\n'].intercalate (rs.map (·.text file))) = rs.map (·.text file) := by
    refine splitLines_intercalate fun line hline => ?_
    obtain ⟨r, hr, rfl⟩ := List.mem_map.mp hline
    exact ⟨(h r hr).oneLine_text hfile, by simp [Remark.text, (h r hr).message_ne]⟩
  obtain ⟨fresh, hsteps⟩ := Progress.steps_text h {}
  rw [read, hlines, readLines, hsteps, Except.map, settle_of_success hstatus]
  simp

/-- The name of the file reads like a place, and the first message quotes one. -/
theorem read_rendered_quoting :
    read "a line 3".toList (some 0) ("Quoted \"x at a line 3 line 7\" at a line 3 line 12.\n" ++
      "Uninitialized at a line 3 line 9, <STDIN> line 5.\n" ++
      "syntax error at a line 3 line 4, near \"foo(\"").toList =
      .ok [⟨⟨.warning, "Quoted \"x at a line 3 line 7\""⟩, 12⟩, ⟨⟨.warning, "Uninitialized"⟩, 9⟩,
        ⟨⟨.error, "syntax error, near \"foo(\""⟩, 4⟩] ∧
    (isRestatement (Remark.text "a".toList ⟨"odd".toList, 4, .stop⟩) = true ↔
      "BEGIN failed--compilation aborted".toList <+: "odd".toList ++ " at ".toList ∨
      "BEGIN not safe after errors--compilation aborted".toList <+:
        "odd".toList ++ " at ".toList) := by
  have hread := (read_rendered "a line 3".toList).1
    [⟨"Quoted \"x at a line 3 line 7\"".toList, 12, .stop⟩,
      ⟨"Uninitialized".toList, 9, .handle "STDIN".toList "line".toList "5".toList⟩,
      ⟨"syntax error".toList, 4, .context ", near \"foo(\"".toList⟩]
    (some 0) (by decide) (.inr rfl) (by decide)
  refine ⟨(congrArg (read "a line 3".toList (some 0)) ?_).trans
    (hread.trans (congrArg Except.ok ?_)), (read_rendered "a".toList).2 _ trivial (by simp)⟩
  · decide +kernel
  · decide

end PerlVet.Output
