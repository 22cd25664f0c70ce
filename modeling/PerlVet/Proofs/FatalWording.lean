import Mathlib.Data.List.Forall2
import PerlVet.Proofs.LineGrammar

/-!
The wordings that announce an error. A piece of a wording stands for a part of a message
(`Piece.Means`), and a message is worded as an error if it begins with a text that is made of such
parts (`impliedSeverity_eq_error_iff`). What follows that text is never looked at, so that hints
behind the message of an error leave it one (`impliedSeverity_append`); and whatever a report says
in the words of an error, it says as an error (`severity_of_readLines`).
-/

namespace PerlVet.Output
open Text

variable {ok : Char → Bool} {same : Char → Char → Bool} {next : List Char → Bool}
  {ws cs message : List Char} {p : Piece} {ps : List Piece}

/-! ## Wordings -/

/-- A piece of a wording stands for a part of a message. -/
def Piece.Means : Piece → List Char → Prop
  | words text, part => part = text.toList
  | anyCase text, part => List.Forall₂ (sameLetter · · = true) text.toList part
  | gap, part => '\n' ∉ part
  | solid, part => part ≠ [] ∧ ∀ c ∈ part, isBlank c = false
  | digits, part => part ≠ [] ∧ ∀ c ∈ part, isDigit c = true
  | oneOf chars, part => ∃ c ∈ chars.toList, part = [c]

/-- The text falls into a part that satisfies `means` and a rest that satisfies `next`. -/
def Splits (means : List Char → Prop) (next : List Char → Bool) (cs : List Char) : Prop :=
  ∃ part rest, means part ∧ next rest = true ∧ part ++ rest = cs

theorem splits_congr {means means' : List Char → Prop} (h : ∀ part, means part ↔ means' part) :
    Splits means next cs ↔ Splits means' next cs := by
  simp only [Splits, h]

theorem not_splits_some_nil :
    ¬Splits (fun part => part ≠ [] ∧ ∀ c ∈ part, ok c = true) next [] := by
  rintro ⟨part, rest, ⟨hne, -⟩, -, heq⟩
  exact hne (List.append_eq_nil_iff.mp heq).1

theorem splits_some_cons {c : Char} :
    Splits (fun part => part ≠ [] ∧ ∀ c ∈ part, ok c = true) next (c :: cs) ↔
      ok c = true ∧ Splits (fun part => ∀ c ∈ part, ok c = true) next cs := by
  constructor
  · rintro ⟨part, rest, ⟨hne, hpart⟩, hnext, heq⟩
    cases part with
    | nil => exact absurd rfl hne
    | cons d part =>
      cases heq
      obtain ⟨hc, hpart⟩ := List.forall_mem_cons.mp hpart
      exact ⟨hc, part, rest, hpart, hnext, rfl⟩
  · rintro ⟨hc, part, rest, hpart, hnext, rfl⟩
    exact ⟨c :: part, rest, ⟨nofun, List.forall_mem_cons.mpr ⟨hc, hpart⟩⟩, hnext, rfl⟩

theorem splits_all_iff : Splits (fun part => ∀ c ∈ part, ok c = true) next cs ↔
    next cs = true ∨ Splits (fun part => part ≠ [] ∧ ∀ c ∈ part, ok c = true) next cs := by
  constructor
  · rintro ⟨part, rest, hpart, hnext, rfl⟩
    by_cases hne : part = []
    · subst hne
      exact .inl hnext
    · exact .inr ⟨part, rest, ⟨hne, hpart⟩, hnext, rfl⟩
  · rintro (hnext | ⟨part, rest, ⟨-, hpart⟩, hnext, rfl⟩)
    · exact ⟨[], cs, nofun, hnext, rfl⟩
    · exact ⟨part, rest, hpart, hnext, rfl⟩

theorem after_iff :
    after ok next cs = true ↔ Splits (fun part => ∀ c ∈ part, ok c = true) next cs := by
  induction cs with
  | nil => rw [after, splits_all_iff, or_iff_left not_splits_some_nil]
  | cons c cs ih =>
    rw [splits_all_iff, splits_some_cons, after, Bool.or_eq_true, Bool.and_eq_true, ih]

theorem afterSome_iff : afterSome ok next cs = true ↔
    Splits (fun part => part ≠ [] ∧ ∀ c ∈ part, ok c = true) next cs := by
  cases cs with
  | nil => exact iff_of_false nofun not_splits_some_nil
  | cons c cs => rw [afterSome, Bool.and_eq_true, after_iff, splits_some_cons]

theorem afterWord_iff : afterWord same next ws cs = true ↔
    Splits (List.Forall₂ (same · · = true) ws) next cs := by
  induction ws generalizing cs with
  | nil =>
    rw [afterWord]
    constructor
    · intro h
      exact ⟨[], cs, .nil, h, rfl⟩
    · rintro ⟨_, rest, ⟨⟩, h, rfl⟩
      exact h
  | cons w ws ih =>
    cases cs with
    | nil =>
      refine iff_of_false nofun ?_
      rintro ⟨_, rest, ⟨⟩, -, heq⟩
      cases heq
    | cons c cs =>
      rw [afterWord, Bool.and_eq_true, ih]
      constructor
      · rintro ⟨hc, part, rest, hpart, h, rfl⟩
        exact ⟨c :: part, rest, .cons hc hpart, h, rfl⟩
      · rintro ⟨_, rest, hpart, h, heq⟩
        cases hpart with
        | cons hc hpart =>
          cases heq
          exact ⟨hc, _, rest, hpart, h, rfl⟩

/-- A text begins with a piece if a part that the piece stands for comes first. -/
theorem leads_iff : p.leads next cs = true ↔ Splits p.Means next cs := by
  cases p with
  | words text =>
    rw [Piece.leads, afterWord_iff]
    simp only [beq_iff_eq, List.forall₂_eq_eq_eq]
    exact splits_congr fun part => eq_comm
  | anyCase text => exact afterWord_iff
  | gap =>
    rw [Piece.leads, after_iff]
    refine splits_congr fun part => ?_
    simp only [bne_iff_ne]
    exact List.forall_mem_ne'
  | solid =>
    rw [Piece.leads, afterSome_iff]
    refine splits_congr fun part => ?_
    simp only [Bool.not_eq_true', Piece.Means]
  | digits => exact afterSome_iff
  | oneOf chars =>
    constructor
    · intro h
      cases cs with
      | nil => cases h
      | cons c cs =>
        obtain ⟨hc, hnext⟩ := Bool.and_eq_true_iff.mp h
        exact ⟨[c], cs, ⟨c, List.contains_iff_mem.mp hc, rfl⟩, hnext, rfl⟩
    · rintro ⟨_, rest, ⟨c, hc, rfl⟩, hnext, rfl⟩
      exact Bool.and_eq_true_iff.mpr ⟨List.contains_iff_mem.mpr hc, hnext⟩

/-- A text begins with a wording if it begins with parts that its pieces stand for. -/
theorem begins_iff : begins ps cs = true ↔ ∃ head, MadeOf Piece.Means ps head ∧ head <+: cs := by
  induction ps generalizing cs with
  | nil => exact iff_of_true rfl ⟨[], .nil, List.nil_prefix⟩
  | cons p ps ih =>
    rw [begins, leads_iff]
    constructor
    · rintro ⟨part, rest, hpart, hrest, rfl⟩
      obtain ⟨head, hhead, hbegins⟩ := ih.mp hrest
      exact ⟨part ++ head, .cons hpart hhead, (List.prefix_append_right_inj part).mpr hbegins⟩
    · rintro ⟨_, hparts, more, rfl⟩
      obtain ⟨part, head, hpart, hhead, rfl⟩ := madeOf_cons_iff.mp hparts
      refine ⟨part, head ++ more, hpart, ih.mpr ⟨head, hhead, List.prefix_append ..⟩, ?_⟩
      rw [List.append_assoc]

/-! ## Errors -/

theorem impliedSeverity_eq_error_iff : impliedSeverity message = .error ↔
    ∃ wording ∈ fatalWordings, ∃ head, MadeOf Piece.Means wording head ∧ head <+: message := by
  have hany : impliedSeverity message = .error ↔
      fatalWordings.any (begins · message) = true := by
    unfold impliedSeverity
    split
    · next h => exact iff_of_true rfl h
    · next h => exact iff_of_false nofun h
  rw [hany, List.any_eq_true]
  exact exists_congr fun wording => and_congr_right fun _ => begins_iff

/-- The wording that a message begins with is still there in a longer one. -/
theorem impliedSeverity_of_prefix {longer : List Char} (h : impliedSeverity message = .error)
    (hlonger : message <+: longer) : impliedSeverity longer = .error := by
  obtain ⟨wording, hfatal, head, hhead, hbegins⟩ := impliedSeverity_eq_error_iff.mp h
  exact impliedSeverity_eq_error_iff.mpr
    ⟨wording, hfatal, head, hhead, hbegins.trans hlonger⟩

/-- A finding is no less serious than its wording. -/
theorem severity_of_means {l : Located} {f : Finding} (h : l.Means f)
    (hworded : impliedSeverity f.message.toList = .error) : f.severity = .error := by
  cases h with
  | message => rwa [String.toList_ofList] at hworded
  | context => rfl

theorem severity_of_readLines {file : List Char} {status : Option Int} {lines : List (List Char)}
    {found : List Finding} (h : readLines file status lines = .ok found) :
    ∀ f ∈ found, impliedSeverity f.message.toList = .error → f.severity = .error := by
  have hacquired : Acquired file fun f =>
      impliedSeverity f.message.toList = .error → f.severity = .error := by
    constructor
    · intro line f hread
      obtain ⟨l, -, -, hmeans⟩ := means_of_readLine hread
      exact severity_of_means hmeans
    · intro n hn hworded
      rfl
    · intro n hworded
      rfl
    · intro f hf hworded
      rfl
  exact hacquired.readLines h

/-- What is appended to a message that is worded as an error never makes a warning of it: the longer
message is worded as an error too, and no report shows it as a warning. -/
theorem impliedSeverity_append (h : impliedSeverity message = .error) :
    (∀ hint, impliedSeverity (message ++ hint) = .error) ∧
    ∀ file status lines found, readLines file status lines = .ok found →
      ∀ f ∈ found, ∀ hint, f.message.toList = message ++ hint → f.severity = .error := by
  have hlonger : ∀ hint, impliedSeverity (message ++ hint) = .error := by
    intro hint
    exact impliedSeverity_of_prefix h (List.prefix_append message hint)
  refine ⟨hlonger, ?_⟩
  intro file status lines found hread f hf hint hmessage
  apply severity_of_readLines hread f hf
  rw [hmessage]
  exact hlonger hint

/-- A hint that goes on behind a line break, and holds the words of a place. -/
theorem impliedSeverity_append_hinted :
    impliedSeverity "Can't locate A/B.pm in @INC".toList = .error ∧
    impliedSeverity ("Can't locate A/B.pm in @INC".toList ++
      " (you may need to install the A::B module)\n at a.pl line 3.".toList) = .error := by
  have hfatal : impliedSeverity "Can't locate A/B.pm in @INC".toList = .error := by decide
  exact ⟨hfatal, (impliedSeverity_append hfatal).1 _⟩

end PerlVet.Output
