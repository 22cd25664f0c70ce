import PerlVet.Json.Reader
import PerlVet.Json.Writer
import PerlVet.Proofs.Text

/-!
Written documents read back. Data is `Plain` if it holds no floating-point numbers, no integer with
too many digits and no key twice in a table, and is not nested too deeply; such data is read from
its written form at any indentation (`read_write`). The parts are texts in quotes
(`readText_writeText`), integers (`readNumber_toDigits`), items (`readItems_write`) and entries
(`readEntries_write`); each is read out of a longer text, and what follows it is left.
-/

namespace PerlVet.Json

variable {indent : Option Nat} {cs rest : List Char}

/-! ## Texts -/

/-- The character for a hexadecimal digit. -/
def hexDigit (d : Nat) : Char := if d < 10 then Char.ofNat (48 + d) else Char.ofNat (87 + d)

theorem hexValue_hexDigit : ∀ d, d < 16 → hexValue? (hexDigit d) = some d := by
  decide

theorem hexDigits_four (n : Nat) :
    Text.hexDigits 4 n =
      [hexDigit (n / 16 / 16 / 16 % 16), hexDigit (n / 16 / 16 % 16), hexDigit (n / 16 % 16),
        hexDigit (n % 16)] := by
  simp [Text.hexDigits, hexDigit]

/-- Four hexadecimal digits write every code unit. -/
theorem unit_hexDigits {n : Nat} (h : n < 65536) :
    unit? (hexDigit (n / 16 / 16 / 16 % 16)) (hexDigit (n / 16 / 16 % 16))
      (hexDigit (n / 16 % 16)) (hexDigit (n % 16)) = some n := by
  simp only [unit?, hexValue_hexDigit _ (Nat.mod_lt _ (by decide : 0 < 16)), Option.bind_eq_bind,
    Option.bind_some, Option.pure_def, Option.some.injEq]
  omega

/-- A character is written with a letter that stands for it, by its number, or as it is. -/
theorem escapeChar_cases (c : Char) :
    (∃ e, escapeChar c = ['\\', e] ∧ e ≠ 'u' ∧ escaped? e = some c) ∨
    (c.toNat < 0x20 ∧ escapeChar c = '\\' :: 'u' :: Text.hexDigits 4 c.toNat) ∨
    (¬c.toNat < 0x20 ∧ c ≠ '"' ∧ c ≠ '\\' ∧ escapeChar c = [c]) := by
  by_cases hletter : c ∈ ['"', '\\', '\x08', '\x0c', '\n', '\r', '\t']
  · refine .inl ?_
    simp only [List.mem_cons, List.not_mem_nil, or_false] at hletter
    rcases hletter with rfl | rfl | rfl | rfl | rfl | rfl | rfl <;>
      exact ⟨_, rfl, by decide, rfl⟩
  · simp only [List.mem_cons, List.not_mem_nil, or_false, not_or] at hletter
    by_cases hcontrol : c.toNat < 0x20
    · exact .inr (.inl ⟨hcontrol, by simp [escapeChar, hletter, hcontrol]⟩)
    · exact .inr (.inr ⟨hcontrol, hletter.1, hletter.2.1, by simp [escapeChar, hletter, hcontrol]⟩)

/-- A written character is read as itself. -/
theorem readText_escapeChar (c : Char) (cs : List Char) :
    readText (escapeChar c ++ cs) = (readText cs).map fun (t, rest) => (c :: t, rest) := by
  rcases escapeChar_cases c with ⟨e, hwritten, he, hread⟩ | ⟨hcontrol, hwritten⟩ |
    ⟨hcontrol, hquote, hslash, hwritten⟩
  · rw [hwritten, List.cons_append, List.singleton_append, readText.eq_4 e cs (by simp [he]), hread]
  · rw [hwritten, hexDigits_four]
    simp only [List.cons_append, List.nil_append]
    rw [readText.eq_3, unit_hexDigits (by omega)]
    have hlow : ¬0xD800 ≤ c.toNat := by omega
    have hhigh : ¬0xDC00 ≤ c.toNat := by omega
    simp [hlow, hhigh, Char.ofNat_toNat]
  · rw [hwritten, List.singleton_append, readText.eq_5 c cs hquote (by simp [hslash])
      (by simp [hslash])]
    simp [hcontrol, hslash]

theorem readText_flatMap (s cs : List Char) :
    readText (s.flatMap escapeChar ++ '"' :: cs) = some (s, cs) := by
  induction s with
  | nil => rw [List.flatMap_nil, List.nil_append, readText.eq_2]
  | cons c s ih =>
    rw [List.flatMap_cons, List.append_assoc, readText_escapeChar, ih]
    rfl

/-- Behind its opening quote, a written text is read as itself. -/
theorem readText_writeText (s : String) (cs : List Char) :
    ∃ quoted, writeText s ++ cs = '"' :: quoted ∧ readText quoted = some (s.toList, cs) := by
  refine ⟨s.toList.flatMap escapeChar ++ '"' :: cs, ?_, readText_flatMap s.toList cs⟩
  simp [writeText]

/-! ## Numbers -/

/-- Nothing here goes on with a number that ends here. -/
def EndsNumber (rest : List Char) : Prop :=
  ∀ c ∈ rest.head?, c.isDigit = false ∧ c ≠ '.' ∧ c ≠ 'e' ∧ c ≠ 'E'

theorem EndsNumber.readFraction (h : EndsNumber rest) : readFraction rest = some ([], rest) := by
  unfold Json.readFraction
  split
  · exact absurd rfl (h '.' rfl).2.1
  · rfl

theorem EndsNumber.readExponent (h : EndsNumber rest) : readExponent rest = some (none, rest) := by
  cases rest with
  | nil => rfl
  | cons c rest =>
    obtain ⟨-, -, he, hE⟩ := h c rfl
    rw [Json.readExponent] <;> simp [he, hE]

/-- A decimal numeral starts with a zero only if that is all there is. -/
theorem head_toDigits_eq_zero {n : Nat} (h : (Nat.toDigits 10 n).head? = some '0') : n = 0 := by
  induction n using Nat.strongRecOn with
  | ind n ih =>
    by_cases hn : n < 10
    · rw [Nat.toDigits_of_lt_base hn] at h
      have hchar : n.digitChar = '0' := by simpa using h
      have hzero : ∀ n, n < 10 → n.digitChar = '0' → n = 0 := by decide
      exact hzero n hn hchar
    · have hhead : (Nat.toDigits 10 (n / 10)).head? = some '0' := by
        rw [Nat.toDigits_of_base_le (by decide) (by omega)] at h
        cases hfront : Nat.toDigits 10 (n / 10) with
        | nil => exact absurd hfront Nat.toDigits_ne_nil
        | cons c front => simpa [hfront] using h
      have := ih (n / 10) (by omega) hhead
      omega

/-- A decimal numeral is read as the integer it writes. -/
theorem readNumber_toDigits {n : Nat} (negative : Bool)
    (h : (Nat.toDigits 10 n).length ≤ maxDigits) (hrest : EndsNumber rest) :
    readNumber negative (Nat.toDigits 10 n ++ rest) =
      some (.int (if negative then -(n : Int) else n), rest) := by
  have hdigit : ∀ c ∈ Nat.toDigits 10 n, c.isDigit = true := fun c hc =>
    Nat.isDigit_of_mem_toDigits (by decide) (by decide) hc
  have hrun : Text.Run Char.isDigit (Nat.toDigits 10 n) rest (Nat.toDigits 10 n ++ rest) :=
    ⟨rfl, hdigit, fun c hc => (hrest c hc).1⟩
  have hzero : (Nat.toDigits 10 n).head? = some '0' → (Nat.toDigits 10 n).length = 1 := by
    intro hhead
    simp [head_toDigits_eq_zero hhead]
  have hvalue : digitsValue (Nat.toDigits 10 n) = n := Nat.ofDigitChars_ten_toDigits
  unfold readNumber
  simp only [hrun.drop_eq, hrest.readFraction, hrest.readExponent]
  simp only [hrun.takeWhile_eq, hvalue]
  rw [if_neg, if_pos (by rfl), if_neg (by omega)]
  simp only [Bool.or_eq_true, List.isEmpty_iff, Nat.toDigits_ne_nil, false_or, Bool.and_eq_true,
    beq_iff_eq, bne_iff_ne]
  exact fun ⟨hhead, hlength⟩ => hlength (hzero hhead)

/-! ## Blanks -/

theorem skip_append {blanks : List Char} (h : ∀ c ∈ blanks, isSpace c = true) (cs : List Char) :
    skip (blanks ++ cs) = skip cs :=
  List.dropWhile_append_of_pos h

theorem skip_cons {c : Char} (h : isSpace c = false) (cs : List Char) : skip (c :: cs) = c :: cs :=
  List.dropWhile_cons_of_neg (by simp [h])

theorem newline_blank (indent : Option Nat) (level : Nat) :
    ∀ c ∈ newline indent level, isSpace c = true := by
  intro c hc
  cases indent with
  | none => cases hc
  | some n =>
    rcases List.mem_cons.mp hc with rfl | hc
    · rfl
    · rw [List.eq_of_mem_replicate hc]
      rfl

/-- A colon, and blanks. -/
theorem colon_eq (indent : Option Nat) :
    ∃ blanks, colon indent = ':' :: blanks ∧ ∀ c ∈ blanks, isSpace c = true := by
  cases indent with
  | none => exact ⟨[], rfl, by simp⟩
  | some n => exact ⟨[' '], rfl, by simp; rfl⟩

variable {depth fuel level outer : Nat} {blanks : List Char}

theorem readValue_blank (h : ∀ c ∈ blanks, isSpace c = true) (cs : List Char) :
    readValue fuel depth (blanks ++ cs) = readValue fuel depth cs := by
  cases fuel with
  | zero => rfl
  | succ fuel => rw [readValue, readValue, skip_append h]

theorem readItems_blank (h : ∀ c ∈ blanks, isSpace c = true) (cs : List Char) :
    readItems fuel depth (blanks ++ cs) = readItems fuel depth cs := by
  cases fuel with
  | zero => rfl
  | succ fuel => rw [readItems, readItems, readValue_blank h]

theorem readEntries_blank {read : Table Empty} (h : ∀ c ∈ blanks, isSpace c = true)
    (cs : List Char) :
    readEntries fuel depth read (blanks ++ cs) = readEntries fuel depth read cs := by
  cases fuel with
  | zero => rfl
  | succ fuel => rw [readEntries, readEntries, skip_append h]

/-! ## Items and entries -/

/-- The value is read from its written form, and what follows is left. -/
def Reads (indent : Option Nat) (depth level : Nat) (v : Datum) : Prop :=
  ∀ fuel rest, (writeAt indent level v).length ≤ fuel → EndsNumber rest →
    readValue fuel depth (writeAt indent level v ++ rest) = some (v, rest)

theorem endsNumber_cons {c : Char} (h : c.isDigit = false ∧ c ≠ '.' ∧ c ≠ 'e' ∧ c ≠ 'E')
    (cs : List Char) : EndsNumber (c :: cs) := by
  intro d hd
  cases hd
  exact h

theorem endsNumber_newline {c : Char} (h : c.isDigit = false ∧ c ≠ '.' ∧ c ≠ 'e' ∧ c ≠ 'E')
    (cs : List Char) : EndsNumber (newline indent level ++ c :: cs) := by
  cases indent with
  | none => exact endsNumber_cons h cs
  | some n => exact endsNumber_cons (by decide) _

/-- Behind the opening bracket, written items are read one after the other. -/
theorem readItems_write {v : Datum} {vs : List Datum} (rest : List Char)
    (h : ∀ w ∈ v :: vs, Reads indent depth level w)
    (hfuel : (writeAt indent level v ++ writeItems indent level vs).length < fuel) :
    readItems fuel depth (writeAt indent level v ++ (writeItems indent level vs ++
      (newline indent outer ++ ']' :: rest))) = some (v :: vs, rest) := by
  induction vs generalizing v fuel with
  | nil =>
    obtain ⟨fuel, rfl⟩ := Nat.exists_eq_succ_of_ne_zero (Nat.ne_zero_of_lt hfuel)
    rw [writeItems, List.append_nil] at hfuel
    rw [writeItems, List.nil_append, Nat.succ_eq_add_one, readItems,
      h v (by simp) fuel _ (by omega) (endsNumber_newline (by decide) rest)]
    simp only [skip_append (newline_blank indent outer),
      skip_cons (show isSpace ']' = false from rfl)]
  | cons w ws ih =>
    obtain ⟨fuel, rfl⟩ := Nat.exists_eq_succ_of_ne_zero (Nat.ne_zero_of_lt hfuel)
    simp only [writeItems, List.cons_append, List.append_assoc, List.length_append,
      List.length_cons] at hfuel ⊢
    rw [Nat.succ_eq_add_one, readItems,
      h v (by simp) fuel _ (by omega) (endsNumber_cons (by decide) _)]
    simp only [skip_cons (show isSpace ',' = false from rfl)]
    rw [readItems_blank (newline_blank indent level),
      ih (fun u hu => h u (by simp [hu])) (by simp only [List.length_append]; omega)]
    rfl

/-- A key that is not there yet goes to the end. -/
theorem put_of_nodup {t es : Table Empty} {k : String} {v : Datum}
    (h : ((t ++ (k, v) :: es).map (·.1)).Nodup) : t.put k v = t ++ [(k, v)] := by
  rw [List.map_append, List.nodup_append] at h
  have hany : t.any (·.1 == k) = false := by
    rw [List.any_eq_false]
    intro e he
    simpa using h.2.2 e.1 (List.mem_map_of_mem he) k (by simp)
  simp [Table.put, hany]

/-- A written key and its value are read; a brace ends the entries, a comma announces more. -/
theorem readEntries_key {read : Table Empty} {v : Datum} (k : String)
    (hvalue : readValue fuel depth cs = some (v, rest)) :
    (∀ rest', skip rest = '\x7d' :: rest' →
      readEntries (fuel + 1) depth read (writeText k ++ (colon indent ++ cs)) =
        some (read.put k v, rest')) ∧
    (∀ rest', skip rest = ',' :: rest' →
      readEntries (fuel + 1) depth read (writeText k ++ (colon indent ++ cs)) =
        readEntries fuel depth (read.put k v) rest') := by
  obtain ⟨quoted, hquoted, hread⟩ := readText_writeText k (colon indent ++ cs)
  obtain ⟨blanks, hcolon, hblank⟩ := colon_eq indent
  rw [hquoted, readEntries, skip_cons (by rfl)]
  simp only [hread, hcolon, List.cons_append, skip_cons (show isSpace ':' = false from rfl),
    readValue_blank hblank, String.ofList_toList, hvalue]
  constructor
  · intro rest' hrest
    simp only [hrest]
  · intro rest' hrest
    simp only [hrest]

/-- Behind the opening brace, written entries are read one after the other. -/
theorem readEntries_write {read es : Table Empty} {k : String} {v : Datum} (rest : List Char)
    (h : ∀ e ∈ (k, v) :: es, Reads indent depth level e.2)
    (hkeys : ((read ++ (k, v) :: es).map (·.1)).Nodup)
    (hfuel : (writeText k ++ (colon indent ++ (writeAt indent level v ++
      writeEntries indent level es))).length ≤ fuel) :
    readEntries fuel depth read (writeText k ++ (colon indent ++ (writeAt indent level v ++
      (writeEntries indent level es ++ (newline indent outer ++ '\x7d' :: rest))))) =
      some (read ++ (k, v) :: es, rest) := by
  have hquoted : 0 < (writeText k).length := by simp [writeText]
  -- The entries read so far grow with every step, so the keys are distinct over both parts.
  induction es generalizing k v read fuel with
  | nil =>
    simp only [writeEntries, List.append_nil, List.length_append] at hfuel
    obtain ⟨fuel, rfl⟩ := Nat.exists_eq_succ_of_ne_zero (show fuel ≠ 0 by omega)
    have hvalue := h (k, v) (by simp) fuel (newline indent outer ++ '\x7d' :: rest)
      (by dsimp only; omega) (endsNumber_newline (by decide) rest)
    rw [writeEntries, List.nil_append, (readEntries_key k hvalue).1 rest, put_of_nodup hkeys]
    rw [skip_append (newline_blank indent outer), skip_cons (by rfl)]
  | cons e es ih =>
    obtain ⟨k', v'⟩ := e
    simp only [writeEntries, List.cons_append, List.append_assoc, List.length_append,
      List.length_cons] at hfuel ⊢
    obtain ⟨fuel, rfl⟩ := Nat.exists_eq_succ_of_ne_zero (show fuel ≠ 0 by omega)
    have hvalue := fun more => h (k, v) (by simp) fuel (',' :: more) (by dsimp only; omega)
      (endsNumber_cons (by decide) more)
    rw [(readEntries_key k (hvalue _)).2 _ (skip_cons (by rfl) _), put_of_nodup hkeys,
      readEntries_blank (newline_blank indent level),
      ih (fun e he => h e (by simp [he])) (by simpa using hkeys)
        (by simp only [List.length_append]; omega) (by simp [writeText])]
    simp

/-! ## Values -/

/-- Data that the reader gives back, at most so many containers deep, empty ones not counted. -/
inductive Plain : Nat → Datum → Prop
  | null {d : Nat} : Plain d .null
  | bool {d : Nat} (b : Bool) : Plain d (.bool b)
  | int {d : Nat} {n : Int} (h : (Nat.toDigits 10 n.natAbs).length ≤ maxDigits) : Plain d (.int n)
  | text {d : Nat} (s : String) : Plain d (.text s)
  | emptyList {d : Nat} : Plain d (.list [])
  | list {d : Nat} {vs : List Datum} (h : ∀ v ∈ vs, Plain d v) : Plain (d + 1) (.list vs)
  | emptyTable {d : Nat} : Plain d (.table [])
  | table {d : Nat} {es : Table Empty} (h : ∀ e ∈ es, Plain d e.2)
    (hkeys : (es.map (·.1)).Nodup) : Plain (d + 1) (.table es)

/-- What starts with a digit is read as a number, with a sign before it or without. -/
theorem readValue_digit {c : Char} (h : c.isDigit = true) (cs : List Char) :
    readValue (fuel + 1) depth (c :: cs) = readNumber false (c :: cs) ∧
    readValue (fuel + 1) depth ('-' :: c :: cs) = readNumber true (c :: cs) := by
  have hrange : 48 ≤ c.toNat ∧ c.toNat ≤ 57 := by
    simpa [Char.isDigit, UInt32.le_iff_toNat_le] using h
  have hcode : c.toNat = 48 ∨ c.toNat = 49 ∨ c.toNat = 50 ∨ c.toNat = 51 ∨ c.toNat = 52 ∨
      c.toNat = 53 ∨ c.toNat = 54 ∨ c.toNat = 55 ∨ c.toNat = 56 ∨ c.toNat = 57 := by
    omega
  rw [← Char.ofNat_toNat c]
  rcases hcode with h | h | h | h | h | h | h | h | h | h <;> rw [h] <;> exact ⟨rfl, rfl⟩

theorem writeAt_int (indent : Option Nat) (level : Nat) (n : Int) :
    writeAt indent level (.int n) = Nat.toDigits 10 n.natAbs ∧ 0 ≤ n ∨
    writeAt indent level (.int n) = '-' :: Nat.toDigits 10 n.natAbs ∧ n < 0 := by
  cases n with
  | ofNat n => exact .inl ⟨by simp [writeAt, Int.toString_eq_repr, Int.repr, Nat.repr], by simp⟩
  | negSucc n =>
    exact .inr ⟨by simp [writeAt, Int.toString_eq_repr, Int.repr, Nat.repr], by omega⟩

/-- A decimal numeral starts with a digit. -/
theorem toDigits_eq_cons (n : Nat) : ∃ c cs, Nat.toDigits 10 n = c :: cs ∧ c.isDigit = true := by
  cases hdigits : Nat.toDigits 10 n with
  | nil => exact absurd hdigits Nat.toDigits_ne_nil
  | cons c cs =>
    have hmem : c ∈ Nat.toDigits 10 n := by simp [hdigits]
    exact ⟨c, cs, rfl, Nat.isDigit_of_mem_toDigits (by decide) (by decide) hmem⟩

theorem not_isSpace_of_isDigit {c : Char} (h : c.isDigit = true) : isSpace c = false := by
  rw [Bool.eq_false_iff]
  intro hspace
  simp only [isSpace, Bool.or_eq_true, beq_iff_eq] at hspace
  rcases hspace with ((rfl | rfl) | rfl) | rfl <;> cases h

/-- Written data starts with no blank, and with no closing bracket. -/
theorem Plain.head_writeAt {v : Datum} (h : Plain depth v) (indent : Option Nat) (level : Nat) :
    ∃ c cs, writeAt indent level v = c :: cs ∧ isSpace c = false ∧ c ≠ ']' := by
  cases h with
  | null => exact ⟨_, _, rfl, rfl, by decide⟩
  | bool b => cases b <;> exact ⟨_, _, rfl, rfl, by decide⟩
  | @int _ n h =>
    rcases writeAt_int indent level n with ⟨hwritten, -⟩ | ⟨hwritten, -⟩
    · obtain ⟨c, cs, hdigits, hc⟩ := toDigits_eq_cons n.natAbs
      exact ⟨c, cs, hwritten.trans hdigits, not_isSpace_of_isDigit hc, by rintro rfl; cases hc⟩
    · exact ⟨_, _, hwritten, rfl, by decide⟩
  | text s => exact ⟨_, _, rfl, rfl, by decide⟩
  | emptyList => exact ⟨_, _, rfl, rfl, by decide⟩
  | @list _ vs h => cases vs <;> exact ⟨_, _, rfl, rfl, by decide⟩
  | emptyTable => exact ⟨_, _, rfl, rfl, by decide⟩
  | @table _ es h hkeys => cases es <;> exact ⟨_, _, rfl, rfl, by decide⟩

/-- There is fuel to read the first character. -/
theorem Plain.reads {v : Datum} (hplain : Plain depth v)
    (h : ∀ fuel rest, (writeAt indent level v).length ≤ fuel + 1 → EndsNumber rest →
      readValue (fuel + 1) depth (writeAt indent level v ++ rest) = some (v, rest)) :
    Reads indent depth level v := by
  intro fuel rest hfuel hrest
  obtain ⟨c, cs, hwritten, -⟩ := hplain.head_writeAt indent level
  cases fuel with
  | zero => simp [hwritten] at hfuel
  | succ fuel => exact h fuel rest hfuel hrest

theorem reads_int {n : Int} (h : (Nat.toDigits 10 n.natAbs).length ≤ maxDigits) :
    Reads indent depth level (.int n) := by
  refine (Plain.int h).reads fun fuel rest hfuel hrest => ?_
  obtain ⟨c, cs, hdigits, hc⟩ := toDigits_eq_cons n.natAbs
  have hread := fun negative => readNumber_toDigits negative h hrest
  simp only [hdigits, List.cons_append] at hread
  rcases writeAt_int indent level n with ⟨hwritten, hsign⟩ | ⟨hwritten, hsign⟩
  · have hvalue : (n.natAbs : Int) = n := Int.natAbs_of_nonneg hsign
    rw [hwritten, hdigits, List.cons_append, (readValue_digit hc _).1, hread, if_neg (by decide),
      hvalue]
  · have hvalue : -(n.natAbs : Int) = n := by omega
    rw [hwritten, hdigits, List.cons_append, List.cons_append, (readValue_digit hc _).2, hread,
      if_pos rfl, hvalue]

/-- A list that is not empty is read as items. -/
theorem readValue_list {c : Char} {cs' : List Char} (hblank : ∀ c ∈ blanks, isSpace c = true)
    (hcs : cs = c :: cs') (hc : isSpace c = false ∧ c ≠ ']') :
    readValue (fuel + 1) (depth + 1) ('[' :: (blanks ++ cs)) =
      (readItems fuel depth cs).map fun (vs, rest) => (.list vs, rest) := by
  subst hcs
  rw [readValue, skip_cons (by rfl)]
  simp only [skip_append hblank, skip_cons hc.1]
  split
  · simp_all
  · rfl

/-- A table that is not empty is read as entries. -/
theorem readValue_table {cs' : List Char} (hblank : ∀ c ∈ blanks, isSpace c = true)
    (hcs : cs = '"' :: cs') :
    readValue (fuel + 1) (depth + 1) ('\x7b' :: (blanks ++ cs)) =
      (readEntries fuel depth [] cs).map fun (t, rest) => (.table t, rest) := by
  subst hcs
  rw [readValue, skip_cons (by rfl)]
  simp only [skip_append hblank, skip_cons (show isSpace '"' = false from rfl)]
  rfl

theorem reads_text (s : String) : Reads indent depth level (.text s) := by
  refine (Plain.text s).reads fun fuel rest hfuel hrest => ?_
  obtain ⟨quoted, hquoted, hread⟩ := readText_writeText s rest
  rw [writeAt, hquoted, readValue, skip_cons (by rfl)]
  simp [hread]

theorem reads_list {v : Datum} {vs : List Datum} (hplain : ∀ w ∈ v :: vs, Plain depth w)
    (h : ∀ w ∈ v :: vs, Reads indent depth (level + 1) w) :
    Reads indent (depth + 1) level (.list (v :: vs)) := by
  refine (Plain.list hplain).reads fun fuel rest hfuel hrest => ?_
  obtain ⟨c, cs, hwritten, hc⟩ := (hplain v (by simp)).head_writeAt indent (level + 1)
  simp only [writeAt, List.cons_append, List.append_assoc, List.nil_append, List.length_cons,
    List.length_append, List.length_nil] at hfuel ⊢
  rw [readValue_list (newline_blank indent (level + 1)) (by rw [hwritten, List.cons_append]) hc,
    readItems_write rest h (by rw [List.length_append]; omega)]
  rfl

theorem reads_table {k : String} {v : Datum} {es : Table Empty}
    (hplain : ∀ e ∈ (k, v) :: es, Plain depth e.2) (hkeys : (((k, v) :: es).map (·.1)).Nodup)
    (h : ∀ e ∈ (k, v) :: es, Reads indent depth (level + 1) e.2) :
    Reads indent (depth + 1) level (.table ((k, v) :: es)) := by
  refine (Plain.table hplain hkeys).reads fun fuel rest hfuel hrest => ?_
  simp only [writeAt, List.cons_append, List.append_assoc, List.nil_append, List.length_cons,
    List.length_append, List.length_nil] at hfuel ⊢
  rw [readValue_table (newline_blank indent (level + 1))
      (by rw [writeText, List.cons_append, List.cons_append]),
    readEntries_write rest h hkeys (by simp only [List.length_append]; omega)]
  rfl

/-- Plain data is read from its written form, whatever follows it. -/
theorem reads_writeAt {v : Datum} (h : Plain depth v) : Reads indent depth level v := by
  induction h generalizing level with
  | null => exact Plain.null.reads fun _ _ _ _ => rfl
  | bool b => cases b <;> exact (Plain.bool _).reads fun _ _ _ _ => rfl
  | int h => exact reads_int h
  | text s => exact reads_text s
  | emptyList => exact Plain.emptyList.reads fun _ _ _ _ => rfl
  | @list _ vs h ih =>
    cases vs with
    | nil => exact Plain.emptyList.reads fun _ _ _ _ => rfl
    | cons v vs => exact reads_list h fun w hw => ih w hw
  | emptyTable => exact Plain.emptyTable.reads fun _ _ _ _ => rfl
  | @table _ es h hkeys ih =>
    cases es with
    | nil => exact Plain.emptyTable.reads fun _ _ _ _ => rfl
    | cons e es => exact reads_table h hkeys fun e he => ih e he

/-- Plain data is read from its written form. -/
theorem read_write {v : Datum} (h : Plain maxDepth v) (indent : Option Nat) :
    read (write indent v).toList = some v := by
  have hreads : Reads indent maxDepth 0 v := reads_writeAt h
  have hread := hreads ((writeAt indent 0 v).length + 1) [] (by omega) (by simp [EndsNumber])
  simp only [read, write, String.toList_ofList]
  rw [List.append_nil] at hread
  rw [hread]
  rfl

end PerlVet.Json
