import PerlVet.Console
import PerlVet.Proofs.DiagnosticDocument

/-!
Control sequences of terminals in printed text. Leaving them out changes a text just if it holds
one (`withoutEscapes_eq_self_iff`). No sequence goes across a newline, and all that stands before
the message of a diagnostic is free of escapes, so diagnostics are printed as they are just if no
message holds a sequence (`withoutEscapes_writeText_iff`). A JSON document never holds one, since it
writes escapes by their numbers (`withoutEscapes_writeJson`).
-/

namespace PerlVet.Console

variable {c : Char} {cs as bs rest w : List Char}

/-- The character may stand between the bracket and the letter of a control sequence. -/
def isParameter (c : Char) : Bool := c.isDigit || c == ';' || c == '?'

/-- A control sequence of a terminal: an escape and a bracket, parameters, and a letter. -/
def IsSequence (w : List Char) : Prop :=
  ∃ parameters letter, (∀ c ∈ parameters, isParameter c = true) ∧ letter.isAlpha = true ∧
    w = '\x1b' :: '[' :: (parameters ++ [letter])

/-- A control sequence stands somewhere in the text. -/
def HoldsSequence (cs : List Char) : Prop := ∃ w, IsSequence w ∧ w <:+: cs

theorem not_isParameter_of_isAlpha (h : c.isAlpha = true) : isParameter c = false := by
  rw [Bool.eq_false_iff]
  intro hparameter
  simp only [isParameter, Bool.or_eq_true, beq_iff_eq] at hparameter
  rcases hparameter with (hdigit | rfl) | rfl
  · have hrange : 48 ≤ c.toNat ∧ c.toNat ≤ 57 := by simpa [Char.isDigit_iff_toNat] using hdigit
    have hletter : 'A'.val ≤ c.val ∨ 'a'.val ≤ c.val := by
      rcases Bool.or_eq_true_iff.mp h with hupper | hlower
      · exact .inl (of_decide_eq_true hupper).1
      · exact .inr (of_decide_eq_true (Bool.and_eq_true_iff.mp hlower).1)
    have hbound : 65 ≤ c.toNat ∨ 97 ≤ c.toNat := by
      simpa [UInt32.le_iff_toNat_le] using hletter
    omega
  · cases h
  · cases h

theorem IsSequence.newline_not_mem (h : IsSequence w) : '\n' ∉ w := by
  obtain ⟨parameters, letter, hparameters, hletter, rfl⟩ := h
  simp only [List.mem_cons, List.mem_append, List.not_mem_nil, or_false, not_or]
  refine ⟨by decide, by decide, fun h => ?_, ?_⟩
  · cases hparameters _ h
  · rintro rfl
    cases hletter

/-- The text starts with a control sequence. -/
theorem afterSequence?_eq_some_iff :
    afterSequence? cs = some rest ↔ ∃ w, IsSequence w ∧ cs = w ++ rest := by
  constructor
  · intro h
    unfold afterSequence? at h
    split at h
    · next cs =>
      split at h
      · next letter rest' hdrop =>
        split at h
        · next hletter =>
          cases h
          refine ⟨_, ⟨cs.takeWhile isParameter, letter, ?_, hletter, rfl⟩, ?_⟩
          · exact fun c hc => List.all_eq_true.mp List.all_takeWhile c hc
          · have hsplit : cs.takeWhile isParameter ++ letter :: rest = cs := by
              rw [← hdrop]
              exact List.takeWhile_append_dropWhile
            simp [hsplit]
        · cases h
      · cases h
    · cases h
  · rintro ⟨w, ⟨parameters, letter, hparameters, hletter, rfl⟩, rfl⟩
    have hdrop : (parameters ++ letter :: rest).dropWhile isParameter = letter :: rest := by
      rw [List.dropWhile_append_of_pos hparameters,
        List.dropWhile_cons_of_neg (by simp [not_isParameter_of_isAlpha hletter])]
    simp only [List.cons_append, List.append_assoc, List.nil_append, afterSequence?]
    rw [show (fun c : Char => c.isDigit || c == ';' || c == '?') = isParameter from rfl, hdrop]
    simp [hletter]

/-! ## Where a sequence can stand -/

theorem not_holdsSequence_nil : ¬HoldsSequence [] := by
  rintro ⟨w, ⟨parameters, letter, -, -, rfl⟩, hw⟩
  simp at hw

theorem holdsSequence_cons :
    HoldsSequence (c :: cs) ↔ (afterSequence? (c :: cs)).isSome = true ∨ HoldsSequence cs := by
  simp only [HoldsSequence, List.infix_cons_iff, Option.isSome_iff_exists,
    afterSequence?_eq_some_iff]
  constructor
  · rintro ⟨w, hw, ⟨rest, hstart⟩ | hlater⟩
    · exact .inl ⟨rest, w, hw, hstart.symm⟩
    · exact .inr ⟨w, hw, hlater⟩
  · rintro (⟨rest, w, hw, hstart⟩ | ⟨w, hw, hlater⟩)
    · exact ⟨w, hw, .inl ⟨rest, hstart.symm⟩⟩
    · exact ⟨w, hw, .inr hlater⟩

theorem afterSequence?_of_ne (h : c ≠ '\x1b') (cs : List Char) :
    afterSequence? (c :: cs) = none := by
  unfold afterSequence?
  split
  · next heq => exact absurd (List.cons.inj heq).1 h
  · rfl

/-- A text without escapes can be put in front. -/
theorem holdsSequence_append (h : '\x1b' ∉ as) :
    HoldsSequence (as ++ bs) ↔ HoldsSequence bs := by
  induction as with
  | nil => rfl
  | cons c as ih =>
    obtain ⟨hc, has⟩ := List.ne_and_not_mem_of_not_mem_cons h
    rw [List.cons_append, holdsSequence_cons, afterSequence?_of_ne hc.symm, ih has]
    simp

theorem not_holdsSequence (h : '\x1b' ∉ cs) : ¬HoldsSequence cs := by
  rw [← List.append_nil cs, holdsSequence_append h]
  exact not_holdsSequence_nil

theorem escape_not_mem_toDigits (n : Nat) : '\x1b' ∉ Nat.toDigits 10 n :=
  Text.not_mem_toDigits (by decide) n

/-- No sequence goes across a newline. -/
theorem holdsSequence_newline :
    HoldsSequence (as ++ '\n' :: bs) ↔ HoldsSequence as ∨ HoldsSequence bs := by
  constructor
  · rintro ⟨w, hw, before, after, heq⟩
    have hnewline := hw.newline_not_mem
    -- The newline is no character of the sequence, so it stands behind it or before it.
    rcases List.append_eq_append_iff.mp heq with ⟨t, rfl, -⟩ | ⟨t, hbefore, hafter⟩
    · exact .inl ⟨w, hw, before, t, rfl⟩
    · cases t with
      | nil => exact .inl ⟨w, hw, before, [], by simpa using hbefore⟩
      | cons d t =>
        obtain ⟨rfl, rfl⟩ := List.cons.inj hafter
        rcases List.append_eq_append_iff.mp hbefore with ⟨u, -, rfl⟩ | ⟨u, -, hw'⟩
        · simp at hnewline
        · cases u with
          | nil =>
            rw [List.nil_append] at hw'
            simp [← hw'] at hnewline
          | cons d u =>
            obtain ⟨-, rfl⟩ := List.cons.inj hw'
            exact .inr ⟨w, hw, u, after, by simp⟩
  · rintro (⟨w, hw, hin⟩ | ⟨w, hw, hin⟩)
    · exact ⟨w, hw, hin.trans ⟨[], '\n' :: bs, by simp⟩⟩
    · exact ⟨w, hw, hin.trans ⟨as ++ ['\n'], [], by simp⟩⟩

/-! ## Leaving sequences out -/

theorem length_dropSequences_le (skip : Nat) (cs : List Char) :
    (dropSequences skip cs).length ≤ cs.length := by
  fun_induction dropSequences skip cs with
  | case1 => exact Nat.le_refl _
  | case2 skip c cs ih => exact Nat.le_succ_of_le ih
  | case3 c cs rest hrest ih => exact Nat.le_succ_of_le ih
  | case4 c cs hnone ih => exact Nat.succ_le_succ ih

theorem dropSequences_eq_self_iff : dropSequences 0 cs = cs ↔ ¬HoldsSequence cs := by
  induction cs with
  | nil => simp [dropSequences, not_holdsSequence_nil]
  | cons c cs ih =>
    rw [dropSequences, holdsSequence_cons]
    cases hstart : afterSequence? (c :: cs) with
    | none => simpa [hstart] using ih
    | some rest =>
      have hlength := length_dropSequences_le (cs.length - rest.length) cs
      simp only [Option.isSome_some, true_or, not_true_eq_false, iff_false]
      intro heq
      have := congrArg List.length heq
      simp only [List.length_cons] at this
      omega

theorem withoutEscapes_eq_self_iff {s : String} :
    withoutEscapes s = s ↔ ¬HoldsSequence s.toList := by
  rw [← dropSequences_eq_self_iff, withoutEscapes, ← String.toList_inj, String.toList_ofList]

theorem withoutEscapes_ne_empty {s : String} (hs : s.toList = c :: cs) (hc : c ≠ '\x1b') :
    withoutEscapes s ≠ "" := by
  rw [withoutEscapes, hs, dropSequences, afterSequence?_of_ne hc]
  simp

end PerlVet.Console

namespace PerlVet.Diagnostic
open Console

variable {d : Diagnostic} {ds : List Diagnostic}

/-! ## Printed diagnostics -/

theorem toList_text (d : Diagnostic) :
    d.text.toList = Nat.toDigits 10 d.line ++ ':' :: (d.severity.label.toList ++
      ':' :: (d.origin.toList ++ [':'])) ++ d.message.toList := by
  simp [text, Nat.repr]

/-- In the text of a diagnostic, only its message can hold a sequence. -/
theorem holdsSequence_text (h : '\x1b' ∉ d.origin.toList) :
    HoldsSequence d.text.toList ↔ HoldsSequence d.message.toList := by
  have hlabel : '\x1b' ∉ d.severity.label.toList := by cases d.severity <;> decide
  rw [toList_text]
  exact holdsSequence_append (by simp [escape_not_mem_toDigits, hlabel, h])

theorem toList_writeText_cons (d : Diagnostic) (ds : List Diagnostic) :
    (writeText (d :: ds) ++ "\n").toList =
      d.text.toList ++ '\n' :: if ds = [] then [] else (writeText ds ++ "\n").toList := by
  cases ds with
  | nil => simp [writeText]
  | cons d' ds => simp [writeText, String.intercalate_cons_cons]

/-- Printed diagnostics hold a sequence just if a message does. -/
theorem holdsSequence_writeText (h : ∀ d ∈ ds, '\x1b' ∉ d.origin.toList) :
    HoldsSequence (writeText ds ++ "\n").toList ↔ ∃ d ∈ ds, HoldsSequence d.message.toList := by
  induction ds with
  | nil =>
    have hnewline : ¬HoldsSequence ['\n'] := not_holdsSequence (by decide)
    simpa [writeText] using hnewline
  | cons d ds ih =>
    have hrest : HoldsSequence (if ds = [] then [] else (writeText ds ++ "\n").toList) ↔
        ∃ d ∈ ds, HoldsSequence d.message.toList := by
      split
      · next hnone => simpa [hnone] using not_holdsSequence_nil
      · exact ih fun d hd => h d (List.mem_cons_of_mem _ hd)
    rw [toList_writeText_cons, holdsSequence_newline, holdsSequence_text (h d List.mem_cons_self),
      hrest]
    simp

/-- Diagnostics are printed as they are just if no message holds a sequence. -/
theorem withoutEscapes_writeText_iff (h : ∀ d ∈ ds, '\x1b' ∉ d.origin.toList) :
    withoutEscapes (writeText ds ++ "\n") = writeText ds ++ "\n" ↔
      ∀ d ∈ ds, ¬HoldsSequence d.message.toList := by
  rw [withoutEscapes_eq_self_iff, holdsSequence_writeText h]
  simp

/-- Whatever is left out, something is printed: the line number comes first. -/
theorem withoutEscapes_writeText_ne_empty (d : Diagnostic) (ds : List Diagnostic) :
    withoutEscapes (writeText (d :: ds) ++ "\n") ≠ "" := by
  obtain ⟨c, cs, hdigits, hc⟩ := Json.toDigits_eq_cons d.line
  refine withoutEscapes_ne_empty (by rw [toList_writeText_cons, toList_text, hdigits]; rfl) ?_
  rintro rfl
  cases hc

end PerlVet.Diagnostic

namespace PerlVet.Json
open Console

/-! ## Printed documents -/

theorem escape_not_mem_escapeChar (c : Char) : '\x1b' ∉ escapeChar c := by
  rcases escapeChar_cases c with ⟨e, hwritten, -, hread⟩ | ⟨hcontrol, hwritten⟩ |
    ⟨hcontrol, -, -, hwritten⟩
  · rw [hwritten]
    simp only [List.mem_cons, List.not_mem_nil, or_false, not_or]
    refine ⟨by decide, ?_⟩
    rintro rfl
    cases hread
  · have hcode : ∀ n, n < 0x20 → '\x1b' ∉ '\\' :: 'u' :: Text.hexDigits 4 n := by decide
    rw [hwritten]
    exact hcode _ hcontrol
  · rw [hwritten, List.mem_singleton]
    rintro rfl
    exact hcontrol (by decide)

theorem escape_not_mem_writeText (s : String) : '\x1b' ∉ writeText s := by
  simp only [writeText, List.cons_append, List.mem_cons, List.mem_append, List.mem_flatMap,
    List.not_mem_nil, or_false, not_or, not_exists, not_and]
  exact ⟨by decide, fun c _ => escape_not_mem_escapeChar c, by decide⟩

theorem escape_not_mem_newline (indent : Option Nat) (level : Nat) :
    '\x1b' ∉ newline indent level := by
  intro hmem
  cases newline_blank indent level _ hmem

variable {indent : Option Nat} {level depth : Nat}

theorem escape_not_mem_writeItems {vs : List Datum}
    (h : ∀ v ∈ vs, '\x1b' ∉ writeAt indent level v) : '\x1b' ∉ writeItems indent level vs := by
  induction vs with
  | nil => simp [writeItems]
  | cons v vs ih =>
    simp only [writeItems, List.cons_append, List.mem_cons, List.mem_append, not_or]
    exact ⟨by decide, ⟨escape_not_mem_newline indent level, h v List.mem_cons_self⟩,
      ih fun v hv => h v (List.mem_cons_of_mem _ hv)⟩

theorem escape_not_mem_colon (indent : Option Nat) : '\x1b' ∉ colon indent := by
  cases indent <;> simp [colon]

theorem escape_not_mem_writeEntries {es : Table Empty}
    (h : ∀ e ∈ es, '\x1b' ∉ writeAt indent level e.2) :
    '\x1b' ∉ writeEntries indent level es := by
  induction es with
  | nil => simp [writeEntries]
  | cons e es ih =>
    simp only [writeEntries, List.cons_append, List.mem_cons, List.mem_append, not_or]
    exact ⟨by decide, ⟨⟨⟨escape_not_mem_newline indent level, escape_not_mem_writeText e.1⟩,
      escape_not_mem_colon indent⟩, h e List.mem_cons_self⟩,
      ih fun e he => h e (List.mem_cons_of_mem _ he)⟩

/-- A document of plain data holds no escape. -/
theorem Plain.escape_not_mem_writeAt {v : Datum} (h : Plain depth v) :
    '\x1b' ∉ writeAt indent level v := by
  induction h generalizing level with
  | null => simp [writeAt]
  | bool b => cases b <;> simp [writeAt]
  | @int _ n h =>
    have hdigits := escape_not_mem_toDigits n.natAbs
    rcases writeAt_int indent level n with ⟨hwritten, -⟩ | ⟨hwritten, -⟩
    · rwa [hwritten]
    · rw [hwritten, List.mem_cons, not_or]
      exact ⟨by decide, hdigits⟩
  | text s => exact escape_not_mem_writeText s
  | emptyList => simp [writeAt]
  | @list _ vs h ih =>
    cases vs with
    | nil => simp [writeAt]
    | cons v vs =>
      have hitems : '\x1b' ∉ writeItems indent (level + 1) vs :=
        escape_not_mem_writeItems fun w hw => ih w (List.mem_cons_of_mem v hw)
      simp [writeAt, escape_not_mem_newline, ih v List.mem_cons_self, hitems]
  | emptyTable => simp [writeAt]
  | @table _ es h hkeys ih =>
    cases es with
    | nil => simp [writeAt]
    | cons e es =>
      have hentries : '\x1b' ∉ writeEntries indent (level + 1) es :=
        escape_not_mem_writeEntries fun e' he => ih e' (List.mem_cons_of_mem e he)
      simp [writeAt, escape_not_mem_newline, escape_not_mem_writeText, escape_not_mem_colon,
        ih e List.mem_cons_self, hentries]

/-- Plain data is read from its document, also if a newline ends it. -/
theorem read_write_newline {v : Datum} (h : Plain maxDepth v) (indent : Option Nat) :
    read (write indent v ++ "\n").toList = some v := by
  have hreads : Reads indent maxDepth 0 v := reads_writeAt h
  have hread := hreads ((writeAt indent 0 v ++ ['\n']).length + 1) ['\n']
    (by simp; omega) (endsNumber_cons (by decide) [])
  simp only [read, write, String.toList_append, String.toList_ofList]
  rw [show "\n".toList = ['\n'] from rfl, hread]
  rfl

end PerlVet.Json

namespace PerlVet.Diagnostic
open Console

variable {ds : List Diagnostic}

/-- A document of diagnostics is printed as it is. -/
theorem withoutEscapes_writeJson (h : ∀ d ∈ ds, d.Writable) :
    withoutEscapes (writeJson ds ++ "\n") = writeJson ds ++ "\n" := by
  refine withoutEscapes_eq_self_iff.mpr (not_holdsSequence ?_)
  rw [String.toList_append, List.mem_append, not_or, writeJson, Json.write, String.toList_ofList]
  exact ⟨(plain_list h).escape_not_mem_writeAt, by decide⟩

/-- A printed document is read as the diagnostics it was made from. -/
theorem readJson_printed (h : ∀ d ∈ ds, d.Writable) :
    readJson (withoutEscapes (writeJson ds ++ "\n")) = .ok ds := by
  rw [withoutEscapes_writeJson h, readJson, writeJson, Json.read_write_newline (plain_list h)]
  exact listOfDatum_map h

end PerlVet.Diagnostic
