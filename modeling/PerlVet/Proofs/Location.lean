import PerlVet.Output.Report
import PerlVet.Proofs.Text

/-!
Where a line of output names its place. A line may name several places, one of them perhaps quoted
in the message; `locate` takes it apart at the last one (`locate_eq_some_iff`), so that the message
is the longest of all that `Located.Cuts` allows. The tails and the lines that are looked for word
by word are described by `isHandleTail_iff` and `abortDigits?_eq_some_iff`.
-/

namespace PerlVet.Output
open Text

variable {file mark line front cs digits tail : List Char} {l l' : Located}

/-! ## The last place in a line -/

/-- The line is the message, a mark, a whole line number and the tail, and no newline stands in the
message or in the tail. -/
structure Located.Cuts (mark line : List Char) (l : Located) : Prop where
  eq : line = l.message ++ (mark ++ (l.digits ++ l.tail))
  message_ne : l.message ≠ []
  digits_ne : l.digits ≠ []
  digits : ∀ c ∈ l.digits, isDigit c = true
  stop : ∀ c ∈ l.tail.head?, isDigit c = false
  message_newline : '\n' ∉ l.message
  tail_newline : '\n' ∉ l.tail

theorem mark_append (file cs : List Char) :
    Output.mark file ++ cs = " at ".toList ++ (file ++ (" line ".toList ++ cs)) := by
  simp only [Output.mark, List.append_assoc]

theorem placeHere?_eq_some_iff :
    placeHere? mark cs = some (digits, tail) ↔
      digits ≠ [] ∧ ∃ rest, cs = mark ++ rest ∧ Run isDigit digits tail rest := by
  unfold placeHere?
  constructor
  · intro h
    split at h
    · next hmark =>
      obtain ⟨rest, rfl⟩ := isPrefixOf_iff.mp hmark
      simp only [List.drop_left] at h
      split at h
      · cases h
      · next hne =>
        cases h
        exact ⟨by simpa using hne, rest, rfl, run_takeWhile isDigit rest⟩
    · cases h
  · rintro ⟨hne, rest, rfl, hrun⟩
    rw [if_pos (isPrefixOf_iff.mpr ⟨rest, rfl⟩)]
    simp only [List.drop_left, hrun.drop_eq]
    simp only [hrun.takeWhile_eq]
    simp [hne]

theorem Located.Cuts.run (h : l.Cuts mark line) :
    Run isDigit l.digits l.tail (l.digits ++ l.tail) :=
  ⟨rfl, h.digits, h.stop⟩

/-- A cut behind a given front finds its place at the start of the rest. -/
theorem Located.Cuts.placeHere? (h : l.Cuts mark (front ++ cs))
    (hlen : l.message.length = front.length) :
    l.message = front ∧ Output.placeHere? mark cs = some (l.digits, l.tail) := by
  obtain ⟨hfront, hcs⟩ := List.append_inj h.eq hlen.symm
  exact ⟨hfront.symm, placeHere?_eq_some_iff.mpr ⟨h.digits_ne, _, hcs, h.run⟩⟩

/-- Two cuts of one line with messages of one length are the same. -/
theorem Located.Cuts.unique (h : l.Cuts mark line) (h' : l'.Cuts mark line)
    (hlen : l.message.length = l'.message.length) : l = l' := by
  obtain ⟨hmessage, hrest⟩ := List.append_inj (h.eq.symm.trans h'.eq) hlen
  have hrest := List.append_cancel_left hrest
  have hdigits : l.digits = l'.digits := by
    rw [← h.run.takeWhile_eq, hrest, h'.run.takeWhile_eq]
  rw [hdigits] at hrest
  have htail := List.append_cancel_left hrest
  cases l
  cases l'
  simp_all

/-- The cut with the longest message, if one leaves `n` characters in the message. -/
def Longest (mark line : List Char) (n : Nat) : Option Located → Prop
  | some l => l.Cuts mark line ∧ n ≤ l.message.length ∧
      ∀ l' : Located, l'.Cuts mark line → l'.message.length ≤ l.message.length
  | none => ∀ l : Located, l.Cuts mark line → l.message.length < n

/-- The search after the characters `before` finds the longest cut that leaves them in the
message. -/
theorem lastPlace_longest (mark before cs : List Char) :
    Longest mark (before.reverse ++ cs) before.length (lastPlace mark before cs) := by
  induction cs generalizing before with
  | nil =>
    intro l h
    have hlen := congrArg List.length h.eq
    have := List.length_pos_iff.mpr h.digits_ne
    simp only [List.append_nil, List.length_reverse, List.length_append] at hlen
    omega
  | cons c cs ih =>
    have hlater := ih (c :: before)
    rw [lastPlace]
    simp only [List.reverse_cons, List.append_assoc, List.singleton_append,
      List.length_cons] at hlater
    -- A later place wins; only without one does the place at this character count.
    cases hfound : lastPlace mark (c :: before) cs with
    | some l =>
      rw [hfound] at hlater
      exact ⟨hlater.1, by have := hlater.2.1; omega, hlater.2.2⟩
    | none =>
      rw [hfound] at hlater
      have here {l : Located} (h : l.Cuts mark (before.reverse ++ c :: cs))
          (hlen : ¬l.message.length < before.length) :
          l.message = before.reverse ∧ placeHere? mark (c :: cs) = some (l.digits, l.tail) := by
        have := hlater l h
        exact h.placeHere? (by simp only [List.length_reverse]; omega)
      cases hplace : placeHere? mark (c :: cs) with
      | none =>
        intro l h
        refine Decidable.byContradiction fun hlen => ?_
        have := (here h hlen).2
        rw [hplace] at this
        cases this
      | some place =>
        obtain ⟨digits, tail⟩ := place
        obtain ⟨hne, rest, hrest, hrun⟩ := placeHere?_eq_some_iff.mp hplace
        dsimp only
        split
        · next hbad =>
          intro l h
          refine Decidable.byContradiction fun hlen => ?_
          obtain ⟨hmessage, hsame⟩ := here h hlen
          obtain ⟨rfl, rfl⟩ : digits = l.digits ∧ tail = l.tail := by simpa [hplace] using hsame
          have hmessage_ne := h.message_ne
          have hmessage_newline := h.message_newline
          have htail_newline := h.tail_newline
          simp_all
        · next hgood =>
          simp only [Bool.or_eq_true, List.isEmpty_iff, List.contains_iff_mem, not_or] at hgood
          refine ⟨⟨by simp [hrest, hrun.eq], by simpa using hgood.1.1, hne, hrun.all, hrun.stop,
            by simpa using hgood.1.2, hgood.2⟩, by simp, fun l' h' => ?_⟩
          have := hlater l' h'
          simp only [List.length_reverse]
          omega

/-- A line is taken apart at the last place it names: of all cuts, at the one with the longest
message. -/
theorem locate_eq_some_iff :
    locate file line = some l ↔
      l.Cuts (Output.mark file) line ∧
        ∀ l' : Located, l'.Cuts (Output.mark file) line →
          l'.message.length ≤ l.message.length := by
  have hlongest : Longest (Output.mark file) line 0 (locate file line) :=
    lastPlace_longest (Output.mark file) [] line
  constructor
  · intro h
    rw [h] at hlongest
    exact ⟨hlongest.1, hlongest.2.2⟩
  · rintro ⟨hcut, hmax⟩
    cases hfound : locate file line with
    | none =>
      rw [hfound] at hlongest
      exact absurd (hlongest l hcut) (by simp)
    | some found =>
      rw [hfound] at hlongest
      have hle := hmax found hlongest.1
      have hge := hlongest.2.2 l hcut
      rw [hlongest.1.unique hcut (by omega)]

/-- A line stays whole if there is no way to take it apart. -/
theorem locate_eq_none_iff :
    locate file line = none ↔ ∀ l : Located, ¬l.Cuts (Output.mark file) line := by
  have hlongest : Longest (Output.mark file) line 0 (locate file line) :=
    lastPlace_longest (Output.mark file) [] line
  cases hfound : locate file line with
  | none =>
    rw [hfound] at hlongest
    simpa using fun l hcut => absurd (hlongest l hcut) (by simp)
  | some found =>
    rw [hfound] at hlongest
    simpa using ⟨found, hlongest.1⟩

/-! ## Words and numbers -/

/-- A number of at least one digit. -/
def IsNumeral (cs : List Char) : Prop := cs ≠ [] ∧ ∀ c ∈ cs, isDigit c = true

instance (cs : List Char) : Decidable (IsNumeral cs) :=
  have := List.decidableBAll (isDigit · = true) cs
  inferInstanceAs (Decidable (cs ≠ [] ∧ ∀ c ∈ cs, isDigit c = true))

/-- Digits and a full stop behind a word are found by reading the longest run of digits. -/
theorem numeral_stop_iff :
    ((!(cs.takeWhile isDigit).isEmpty &&
      cs.drop (cs.takeWhile isDigit).length == ['.']) = true ∧ cs.takeWhile isDigit = digits) ↔
      IsNumeral digits ∧ cs = digits ++ ['.'] := by
  constructor
  · rintro ⟨h, rfl⟩
    simp only [Bool.and_eq_true, Bool.not_eq_true', List.isEmpty_eq_false_iff, beq_iff_eq] at h
    have hrun := run_takeWhile isDigit cs
    refine ⟨⟨h.1, hrun.all⟩, ?_⟩
    rw [← h.2]
    exact hrun.eq
  · rintro ⟨⟨hne, hall⟩, rfl⟩
    have hrun : Run isDigit digits ['.'] (digits ++ ['.']) := ⟨rfl, hall, by simp; decide⟩
    rw [hrun.drop_eq, hrun.takeWhile_eq]
    simp [hne]

theorem isCount_iff {word : List Char} :
    isCount word cs = true ↔ ∃ count, IsNumeral count ∧ cs = word ++ (count ++ ['.']) := by
  rw [isCount, Bool.and_eq_true]
  constructor
  · rintro ⟨hword, hcount⟩
    obtain ⟨rest, rfl⟩ := isPrefixOf_iff.mp hword
    rw [List.drop_left] at hcount
    obtain ⟨hnumeral, hrest⟩ := numeral_stop_iff.mp ⟨hcount, rfl⟩
    exact ⟨_, hnumeral, congrArg (word ++ ·) hrest⟩
  · rintro ⟨count, hnumeral, rfl⟩
    refine ⟨isPrefixOf_iff.mpr ⟨_, rfl⟩, ?_⟩
    rw [List.drop_left]
    exact (numeral_stop_iff.mpr ⟨hnumeral, rfl⟩).1

theorem abortDigits?_eq_some_iff :
    abortDigits? file line = some digits ↔
      IsNumeral digits ∧
        line = abortMessage.toList ++ Output.mark file ++ (digits ++ ['.']) := by
  unfold abortDigits?
  dsimp only
  constructor
  · intro h
    split at h
    · next hhead =>
      obtain ⟨rest, rfl⟩ := isPrefixOf_iff.mp hhead
      simp only [List.drop_left] at h
      split at h
      · next hnumber =>
        cases h
        obtain ⟨hnumeral, hrest⟩ := numeral_stop_iff.mp ⟨hnumber, rfl⟩
        exact ⟨hnumeral, congrArg (abortMessage.toList ++ Output.mark file ++ ·) hrest⟩
      · cases h
    · cases h
  · rintro ⟨hnumeral, rfl⟩
    obtain ⟨hnumber, hdigits⟩ := numeral_stop_iff.mpr ⟨hnumeral, rfl⟩
    rw [if_pos (isPrefixOf_iff.mpr ⟨_, rfl⟩)]
    simp only [List.drop_left]
    rw [if_pos hnumber, hdigits]

/-- What the last input handle is counted in. -/
def handleUnits : List (List Char) := ["line".toList, "chunk".toList]

/-- What is said of the last input handle. -/
def handleText (name unit count : List Char) : List Char :=
  ", <".toList ++ (name ++ ("> ".toList ++ (unit ++ (" ".toList ++ (count ++ ['.'])))))

/-- An input handle, a unit and a count, as they are reported. -/
structure IsHandle (name unit count : List Char) : Prop where
  name_ne : name ≠ []
  name_open : '>' ∉ name
  unit_mem : unit ∈ handleUnits
  count_numeral : IsNumeral count

/-- The tails that only name the last input handle. -/
theorem isHandleTail_iff :
    isHandleTail tail = true ↔
      ∃ name unit count, IsHandle name unit count ∧ tail = handleText name unit count := by
  rw [isHandleTail, Bool.and_eq_true]
  constructor
  · rintro ⟨hopen, h⟩
    obtain ⟨rest, rfl⟩ := isPrefixOf_iff.mp hopen
    rw [show (", <".toList ++ rest).drop 3 = rest from rfl] at h
    dsimp only at h
    have hrun := run_takeWhile (· != '>') rest
    generalize rest.takeWhile (· != '>') = name at h hrun
    simp only [Bool.and_eq_true, Bool.not_eq_true', List.isEmpty_eq_false_iff, Bool.or_eq_true,
      isCount_iff] at h
    have hname : '>' ∉ name := fun hmem => by simpa using hrun.all _ hmem
    obtain ⟨hne, ⟨count, hnumeral, hrest⟩ | ⟨count, hnumeral, hrest⟩⟩ := h
    · refine ⟨name, "line".toList, count, ⟨hne, hname, by decide, hnumeral⟩, ?_⟩
      rw [hrun.eq, hrest]
      rfl
    · refine ⟨name, "chunk".toList, count, ⟨hne, hname, by decide, hnumeral⟩, ?_⟩
      rw [hrun.eq, hrest]
      rfl
  · rintro ⟨name, unit, count, h, rfl⟩
    refine ⟨isPrefixOf_iff.mpr ⟨_, rfl⟩, ?_⟩
    have hrun : Run (· != '>') name ("> ".toList ++ (unit ++ (" ".toList ++ (count ++ ['.']))))
        ((handleText name unit count).drop 3) := by
      refine ⟨rfl, fun c hc => ?_, by simp⟩
      simpa using fun hopen : c = '>' => h.name_open (hopen ▸ hc)
    simp only [hrun.drop_eq]
    simp only [hrun.takeWhile_eq, Bool.and_eq_true, Bool.not_eq_true', List.isEmpty_eq_false_iff,
      Bool.or_eq_true, isCount_iff]
    refine ⟨h.name_ne, ?_⟩
    have hunit := h.unit_mem
    simp only [handleUnits, List.mem_cons, List.not_mem_nil, or_false] at hunit
    rcases hunit with rfl | rfl
    · exact .inl ⟨count, h.count_numeral, rfl⟩
    · exact .inr ⟨count, h.count_numeral, rfl⟩

end PerlVet.Output
