import PerlVet.Proofs.Strays

/-!
The grammar of a line of output. A line that is no restatement says something if it can be taken
apart as message, place and tail. Of all ways to do so the one with the longest message counts
(`Located.Last`), and its tail decides what is said (`Located.Means`). Nothing else is ever said,
and only a line number with too many digits cannot be read (`readLine_grammar`).
-/

namespace PerlVet.Output
open Text

variable {file line : List Char} {l : Located} {f : Finding} {e : TooManyDigits}

/-- The line is taken apart in the way that leaves the longest message. -/
structure Located.Last (file line : List Char) (l : Located) : Prop where
  cuts : l.Cuts (mark file) line
  longest : ∀ l' : Located, l'.Cuts (mark file) line → l'.message.length ≤ l.message.length

/-- Behind the place stands nothing but a full stop, or the last input handle. -/
def Located.Ends (l : Located) : Prop :=
  l.tail = ['.'] ∨
    ∃ name unit count, IsHandle name unit count ∧ l.tail = handleText name unit count

/-- What a line says that was taken apart, if its line number can be that of a line: the message
alone, or the message together with the context of an error behind a comma. -/
inductive Located.Means (l : Located) : Finding → Prop where
  | message : 1 ≤ number l.digits → l.Ends →
    Means l ⟨⟨impliedSeverity l.message, String.ofList l.message⟩, number l.digits⟩
  | context : 1 ≤ number l.digits → ¬l.Ends → l.tail.head? = some ',' →
    Means l ⟨⟨.error, String.ofList (l.message ++ l.tail)⟩, number l.digits⟩

theorem last_iff : l.Last file line ↔ locate file line = some l := by
  rw [locate_eq_some_iff]
  exact ⟨fun h => ⟨h.cuts, h.longest⟩, fun h => ⟨h.1, h.2⟩⟩

theorem ends_iff : l.Ends ↔ (l.tail == ['.'] || isHandleTail l.tail) = true := by
  rw [Bool.or_eq_true, beq_iff_eq, isHandleTail_iff, Located.Ends]

/-- The tail is looked at for an end first, and only then for a context. -/
theorem finding_eq_some_iff : l.finding (number l.digits) = some f ↔ l.Means f := by
  unfold Located.finding
  constructor
  · intro h
    split at h
    · cases h
    · next hpos =>
      have hline : 1 ≤ number l.digits := Nat.not_lt.mp hpos
      split at h
      · next hends =>
        cases h
        exact .message hline (ends_iff.mpr hends)
      · next hgoes =>
        split at h
        · next hcomma =>
          cases h
          exact .context hline (mt ends_iff.mp hgoes) (by simpa using hcomma)
        · cases h
  · intro h
    cases h with
    | message hline hends =>
      rw [if_neg (Nat.not_lt.mpr hline), if_pos (ends_iff.mp hends)]
    | context hline hgoes hcomma =>
      rw [if_neg (Nat.not_lt.mpr hline), if_neg (mt ends_iff.mpr hgoes), if_pos (by simp [hcomma])]

/-- The number of a place is read unless it has too many digits. -/
theorem readNumber_map_eq_ok_iff {α : Type} {digits : List Char} {g : Nat → α} {a : α} :
    (readNumber digits).map g = .ok a ↔ digits.length ≤ maxDigits ∧ g (number digits) = a := by
  unfold readNumber
  split
  · next hlong => simp [Except.map, Nat.not_le.mpr hlong]
  · next hshort => simp [Except.map, Nat.not_lt.mp hshort]

/-- A line is passed over, or it is taken apart and its number is read. -/
theorem readLine_cases (file line : List Char) :
    (trimRight line = [] ∨ isRestatement (trimRight line) = true) ∧ readLine file line = .ok none ∨
    (trimRight line ≠ [] ∧ isRestatement (trimRight line) = false) ∧
      ((∀ l : Located, ¬l.Last file (trimRight line)) ∧ readLine file line = .ok none ∨
        ∃ l : Located, l.Last file (trimRight line) ∧
          readLine file line = (readNumber l.digits).map l.finding) := by
  by_cases hpassed : ((trimRight line).isEmpty || isRestatement (trimRight line)) = true
  · exact .inl ⟨by simpa using hpassed, by simp only [readLine, hpassed, if_true]⟩
  · refine .inr ⟨by simpa using hpassed, ?_⟩
    cases hplace : locate file (trimRight line) with
    | none =>
      refine .inl ⟨fun l hlast => ?_, by simp only [readLine, hpassed, hplace]; rfl⟩
      rw [last_iff.mp hlast] at hplace
      cases hplace
    | some l => exact .inr ⟨l, last_iff.mpr hplace, by simp only [readLine, hpassed, hplace]; rfl⟩

/-- What a line says is what it means when it is taken apart last. -/
theorem means_of_readLine (h : readLine file line = .ok (some f)) :
    ∃ l : Located, l.Last file (trimRight line) ∧ l.digits.length ≤ maxDigits ∧ l.Means f := by
  rcases readLine_cases file line with ⟨-, hnone⟩ | ⟨-, ⟨-, hnone⟩ | ⟨l, hlast, hread⟩⟩
  · cases hnone.symm.trans h
  · cases hnone.symm.trans h
  · rw [hread] at h
    obtain ⟨hshort, hfinding⟩ := readNumber_map_eq_ok_iff.mp h
    exact ⟨l, hlast, hshort, finding_eq_some_iff.mp hfinding⟩

/-- There is but one way to take a line apart last. -/
theorem Located.Last.unique {l' : Located} (h : l.Last file line) (h' : l'.Last file line) :
    l = l' :=
  Option.some.inj ((last_iff.mp h).symm.trans (last_iff.mp h'))

/-- A line says what it means when it is taken apart with the longest message, unless it is empty or
a restatement; and it fails to be read only by a line number with more than 4300 digits. -/
theorem readLine_grammar (file line : List Char) :
    (∀ f, readLine file line = .ok (some f) ↔
      trimRight line ≠ [] ∧ isRestatement (trimRight line) = false ∧
        ∃ l : Located, l.Last file (trimRight line) ∧ l.digits.length ≤ 4300 ∧ l.Means f) ∧
    ∀ e, readLine file line = .error e ↔
      trimRight line ≠ [] ∧ isRestatement (trimRight line) = false ∧
        ∃ l : Located, l.Last file (trimRight line) ∧ 4300 < l.digits.length ∧
          e = ⟨l.digits.length⟩ := by
  rcases readLine_cases file line with ⟨hpassed, hread⟩ | ⟨⟨hne, hnew⟩, hnone | ⟨l, hlast, hread⟩⟩
  · have himpossible : ¬(trimRight line ≠ [] ∧ isRestatement (trimRight line) = false) := by
      rcases hpassed with hnil | hold
      · simp [hnil]
      · simp [hold]
    exact ⟨fun f => by simp [hread, ← and_assoc, himpossible],
      fun e => by simp [hread, ← and_assoc, himpossible]⟩
  · obtain ⟨hwhole, hread⟩ := hnone
    exact ⟨fun f => by simp [hread, hwhole], fun e => by simp [hread, hwhole]⟩
  · have hall {P : Located → Prop} :
        (trimRight line ≠ [] ∧ isRestatement (trimRight line) = false ∧
          ∃ l : Located, l.Last file (trimRight line) ∧ P l) ↔ P l := by
      constructor
      · rintro ⟨-, -, l', hlast', hp⟩
        rwa [hlast.unique hlast']
      · intro hp
        exact ⟨hne, hnew, l, hlast, hp⟩
    refine ⟨fun f => ?_, fun e => ?_⟩
    · rw [hread, readNumber_map_eq_ok_iff, finding_eq_some_iff, hall]
      rfl
    · rw [hread, map_error_iff, readNumber_error_iff, hall]
      rfl

end PerlVet.Output
