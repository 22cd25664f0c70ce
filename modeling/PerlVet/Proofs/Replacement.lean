import PerlVet.Proofs.Utf8

/-!
Decoding with replacement characters. `Decodes` says by what is spelled, and not by the reader, what
bytes are decoded to: every character that is spelled stands for itself, and every ill-formed part
(`IllFormed`), which is as long as the beginning of a character can be, becomes one U+FFFD. Bytes
are decoded in this one way (`decodes_iff`). A byte below 0x80 continues nothing, so bytes on both
sides of it are decoded apart (`decode_append_ascii`), and it comes from nowhere else
(`byte_of_mem_decode`).
-/

namespace PerlVet.Text.Utf8

variable {a b c d : UInt8} {bs rest part : List UInt8} {cs ds : List Char} {n size : Nat}
  {reason : Fault}

/-! ## Ill-formed parts -/

/-- Bytes with which the spelling of a character can begin. -/
def Begins (bs : List UInt8) : Prop := ∃ rest n, Spells (bs ++ rest) n

/-- `part ++ rest` does not start with a character, and the ill-formed part is `part`: the longest
beginning of a character, or one byte if no character begins like this. -/
structure IllFormed (part rest : List UInt8) : Prop where
  ne_nil : part ≠ []
  unspelled : ∀ bs n, bs <+: part ++ rest → ¬Spells bs n
  begins : part.length = 1 ∨ Begins part
  longest : ∀ b ∈ rest.head?, ¬Begins (part ++ [b])

/-- What bytes are decoded to. -/
inductive Decodes : List UInt8 → List Char → Prop where
  | nil : Decodes [] []
  | char {bs rest : List UInt8} {n : Nat} {cs : List Char} : Spells bs n → Decodes rest cs →
    Decodes (bs ++ rest) (Char.ofNat n :: cs)
  | illFormed {part rest : List UInt8} {cs : List Char} : IllFormed part rest → Decodes rest cs →
    Decodes (part ++ rest) ('\uFFFD' :: cs)

theorem Spells.ne_nil (h : Spells bs n) : bs ≠ [] := by
  cases h <;> exact nofun

theorem Begins.of_prefix (h : Begins (bs ++ rest)) : Begins bs := by
  obtain ⟨more, n, hspells⟩ := h
  exact ⟨rest ++ more, n, by rwa [← List.append_assoc]⟩

theorem Begins.second (h : Begins (a :: b :: bs)) :
    (0xC2 ≤ a.toNat ∧ a.toNat < 0xE0 ∧ isContinuation b = true) ∨
      (0xE0 ≤ a.toNat ∧ a.toNat ≤ 0xF4 ∧ isSecond a b = true) := by
  obtain ⟨rest, n, hspells⟩ := h
  rw [List.cons_append, List.cons_append] at hspells
  generalize bs ++ rest = more at hspells
  cases hspells with
  | two ha ha' hb => exact .inl ⟨ha, ha', hb⟩
  | three ha ha' hb hc => exact .inr ⟨ha, by omega, hb⟩
  | four ha ha' hb hc hd => exact .inr ⟨by omega, ha', hb⟩

theorem Begins.third (h : Begins (a :: b :: c :: bs)) : isContinuation c = true := by
  obtain ⟨rest, n, hspells⟩ := h
  rw [List.cons_append, List.cons_append, List.cons_append] at hspells
  generalize bs ++ rest = more at hspells
  cases hspells with
  | three ha ha' hb hc => exact hc
  | four ha ha' hb hc hd => exact hc

theorem Begins.fourth (h : Begins (a :: b :: c :: d :: bs)) : isContinuation d = true := by
  obtain ⟨rest, n, hspells⟩ := h
  rw [List.cons_append, List.cons_append, List.cons_append, List.cons_append] at hspells
  generalize bs ++ rest = more at hspells
  cases hspells with
  | four ha ha' hb hc hd => exact hd

/-- The first bytes that start no character and are no character of their own. -/
theorem lead_iff : (a < 0xC2 || 0xF4 < a) = true ↔ a.toNat < 0xC2 ∨ 0xF4 < a.toNat := by
  simp only [Bool.or_eq_true, decide_eq_true_eq, UInt8.lt_iff_toNat_lt, UInt8.reduceToNat]

theorem begins_two (hlead : ¬(a < 0xC2 || 0xF4 < a) = true) (hlong : ¬a < 0xE0)
    (hb : isSecond a b = true) : Begins [a, b] := by
  rw [lead_iff, not_or] at hlead
  simp only [UInt8.lt_iff_toNat_lt, UInt8.reduceToNat, Nat.not_lt] at hlong
  by_cases hthree : a.toNat < 0xF0
  · exact ⟨[0x80], _, .three hlong hthree hb (by decide)⟩
  · exact ⟨[0x80, 0x80], _, .four (by omega) (by omega) hb (by decide) (by decide)⟩

theorem begins_three (hlead : ¬(a < 0xC2 || 0xF4 < a) = true) (hlong : ¬a < 0xF0)
    (hb : isSecond a b = true) (hc : isContinuation c = true) : Begins [a, b, c] := by
  rw [lead_iff, not_or] at hlead
  simp only [UInt8.lt_iff_toNat_lt, UInt8.reduceToNat, Nat.not_lt] at hlong
  exact ⟨[0x80], _, .four hlong (by omega) hb hc (by decide)⟩

/-- No byte of a character but the first is below 0x80. -/
theorem not_begins_ascii (hb : b.toNat < 0x80) (hpart : part ≠ []) : ¬Begins (part ++ b :: bs) := by
  have hcontinues : isContinuation b ≠ true := by
    rw [ne_eq, isContinuation_iff]
    omega
  rintro ⟨rest, n, hspells⟩
  generalize hbytes : part ++ b :: bs ++ rest = bytes at hspells
  have hmem : b ∈ bytes.tail := by
    obtain ⟨first, part', rfl⟩ := List.exists_cons_of_ne_nil hpart
    rw [← hbytes]
    simp
  cases hspells with
  | one ha => cases hmem
  | two ha ha' hb' =>
    rw [List.tail_cons, List.mem_singleton] at hmem
    exact hcontinues (hmem ▸ hb')
  | three ha ha' hb' hc =>
    rw [isSecond_iff, ← isContinuation_iff] at hb'
    simp only [List.tail_cons, List.mem_cons, List.not_mem_nil, or_false] at hmem
    rcases hmem with rfl | rfl
    · exact hcontinues hb'.1
    · exact hcontinues hc
  | four ha ha' hb' hc hd =>
    rw [isSecond_iff, ← isContinuation_iff] at hb'
    simp only [List.tail_cons, List.mem_cons, List.not_mem_nil, or_false] at hmem
    rcases hmem with rfl | rfl | rfl
    · exact hcontinues hb'.1
    · exact hcontinues hc
    · exact hcontinues hd

/-! ## The reader -/

/-- Where the reader finds fault, no character is spelled. -/
theorem unspelled_of_head (h : head a rest = .fault reason size)
    (hfront : bs <+: a :: rest) : ¬Spells bs n := by
  intro hspells
  obtain ⟨more, hbytes⟩ := hfront
  obtain ⟨first, bs, rfl⟩ := List.exists_cons_of_ne_nil hspells.ne_nil
  obtain ⟨rfl, rfl⟩ : first = a ∧ bs ++ more = rest := by simpa using hbytes
  rw [head_of_spells hspells] at h
  cases h

/-- A byte that starts no character begins nothing. -/
theorem not_begins_lead (hlead : (a < 0xC2 || 0xF4 < a) = true) : ¬Begins [a, b] := by
  rw [lead_iff] at hlead
  intro hbegins
  rcases hbegins.second with ⟨ha, ha', -⟩ | ⟨ha, ha', -⟩ <;> omega

/-- Two bytes, the first of which wants a single one behind it, and of another kind. -/
theorem not_begins_short (hshort : a < 0xE0) (hb : ¬isContinuation b = true) :
    ¬Begins [a, b] := by
  intro hbegins
  rcases hbegins.second with ⟨-, -, hb'⟩ | ⟨ha, -, -⟩
  · exact hb hb'
  · exact absurd (UInt8.lt_iff_toNat_lt.mp hshort) (Nat.not_lt.mpr ha)

/-- Two bytes, the first of which wants a second one of another kind. -/
theorem not_begins_pair (ha : ¬a < 0xE0) (hb : ¬isSecond a b = true) : ¬Begins [a, b] := by
  intro hbegins
  rcases hbegins.second with ⟨-, ha', -⟩ | ⟨-, -, hb'⟩
  · exact ha (UInt8.lt_iff_toNat_lt.mpr ha')
  · exact hb hb'

/-- A fault of one byte: it does not go with the next one. -/
theorem fault_one : head a rest = .fault reason 1 → ∀ b ∈ rest.head?, ¬Begins [a, b] := by
  fun_cases head a rest with
  | case2 rest hascii hlead => exact fun _ b _ => not_begins_lead hlead
  | case3 | case6 | case12 => simp
  | case5 hascii hlead hshort b rest hb =>
    rintro - b' ⟨⟩
    exact not_begins_short hshort hb
  | case8 hascii hlead hlong h₃ b hb | case14 hascii hlead hlong h₃ b hb =>
    rintro - b' ⟨⟩
    exact not_begins_pair hlong hb
  | case9 hascii hlead hlong h₃ b c rest hb | case15 hascii hlead hlong h₃ b c hb
  | case18 hascii hlead hlong h₃ b c d rest hb =>
    rintro - b' ⟨⟩
    exact not_begins_pair hlong (by simpa using hb)
  | _ => rintro ⟨⟩

/-- A fault of two bytes: they begin a character, and the next one does not continue it. -/
theorem fault_two : head a rest = .fault reason 2 →
    ∃ b rest', rest = b :: rest' ∧ Begins [a, b] ∧
      ∀ c ∈ rest'.head?, ¬isContinuation c = true := by
  fun_cases head a rest with
  | case7 hascii hlead hlong h₃ b hb | case13 hascii hlead hlong h₃ b hb =>
    intro _
    exact ⟨b, [], rfl, begins_two hlead hlong hb, by simp⟩
  | case10 hascii hlead hlong h₃ b c rest hb hc | case16 hascii hlead hlong h₃ b c hb hc
  | case19 hascii hlead hlong h₃ b c d rest hb hc =>
    intro _
    exact ⟨b, _, rfl, begins_two hlead hlong (by simpa using hb), by simpa using hc⟩
  | _ => rintro ⟨⟩

/-- A fault of three bytes: they begin a character, and the next one does not continue it. -/
theorem fault_three : head a rest = .fault reason 3 →
    ∃ b c rest', rest = b :: c :: rest' ∧ Begins [a, b, c] ∧
      ∀ d ∈ rest'.head?, ¬isContinuation d = true := by
  fun_cases head a rest with
  | case17 hascii hlead h₂ hlong b c hb hc =>
    intro _
    refine ⟨b, c, [], rfl, ?_, by simp⟩
    exact begins_three hlead hlong (by simpa using hb) (by simpa using hc)
  | case20 hascii hlead h₂ hlong b c d rest hb hc hd =>
    intro _
    refine ⟨b, c, d :: rest, rfl, ?_, by simpa using hd⟩
    exact begins_three hlead hlong (by simpa using hb) (by simpa using hc)
  | _ => rintro ⟨⟩

theorem size_of_fault :
    head a rest = .fault reason size → size = 1 ∨ size = 2 ∨ size = 3 := by
  fun_cases head a rest <;> intro h <;> cases h <;> simp

theorem illFormed_of_head (h : head a rest = .fault reason size) :
    ∃ part rest', a :: rest = part ++ rest' ∧ IllFormed part rest' ∧ size = part.length := by
  have hunspelled (bs : List UInt8) (n : Nat) (hfront : bs <+: a :: rest) : ¬Spells bs n :=
    unspelled_of_head h hfront
  rcases size_of_fault h with rfl | rfl | rfl
  · exact ⟨[a], rest, rfl, ⟨by simp, hunspelled, .inl rfl, fault_one h⟩, rfl⟩
  · obtain ⟨b, rest, rfl, hbegins, hnext⟩ := fault_two h
    exact ⟨[a, b], rest, rfl, ⟨by simp, hunspelled, .inr hbegins,
      fun c hc hlonger => hnext c hc hlonger.third⟩, rfl⟩
  · obtain ⟨b, c, rest, rfl, hbegins, hnext⟩ := fault_three h
    exact ⟨[a, b, c], rest, rfl, ⟨by simp, hunspelled, .inr hbegins,
      fun d hd hlonger => hnext d hd hlonger.fourth⟩, rfl⟩

/-- What the reader decodes, from where it is. The induction goes along the bytes, some of which
belong to a part that has been read. -/
theorem decodes_decodeFrom (skip : Nat) (bs : List UInt8) :
    Decodes (bs.drop skip) (decodeFrom skip bs) := by
  induction bs generalizing skip with
  | nil =>
    rw [List.drop_nil]
    exact .nil
  | cons b bs ih =>
    cases skip with
    | succ skip => exact ih skip
    | zero =>
      -- The part that is read is `b` and the bytes to be skipped; the induction goes on after it.
      have hnext {part rest : List UInt8} (hbytes : b :: bs = part ++ rest) (hne : part ≠ []) :
          Decodes rest (decodeFrom (part.length - 1) bs) := by
        obtain ⟨first, part, rfl⟩ := List.exists_cons_of_ne_nil hne
        obtain ⟨rfl, rfl⟩ : b = first ∧ bs = part ++ rest := by simpa using hbytes
        have hrest := ih part.length
        rwa [List.drop_left] at hrest
      rw [List.drop_zero, decodeFrom]
      split
      · next c size hhead =>
        obtain ⟨spelled, rest, n, hbytes, hspells, rfl, rfl⟩ := spells_of_head hhead
        have hrest := hnext hbytes hspells.ne_nil
        rw [hbytes]
        exact .char hspells hrest
      · next reason size hhead =>
        obtain ⟨part, rest, hbytes, hpart, rfl⟩ := illFormed_of_head hhead
        have hrest := hnext hbytes hpart.ne_nil
        rw [hbytes]
        exact .illFormed hpart hrest

/-! ## One way to decode -/

/-- No spelling of a character is the beginning of another one. -/
theorem Spells.unique {bs' rest' : List UInt8} {n' : Nat} (h : Spells bs n) (h' : Spells bs' n')
    (heq : bs ++ rest = bs' ++ rest') : bs = bs' ∧ Char.ofNat n = Char.ofNat n' ∧ rest = rest' := by
  obtain ⟨a, more, rfl⟩ := List.exists_cons_of_ne_nil h.ne_nil
  obtain ⟨a', more', rfl⟩ := List.exists_cons_of_ne_nil h'.ne_nil
  obtain ⟨rfl, hmore⟩ : a = a' ∧ more ++ rest = more' ++ rest' := by simpa using heq
  have hhead := head_of_spells h rest
  rw [hmore, head_of_spells h' rest'] at hhead
  obtain ⟨hchar, hlength⟩ := Head.char.inj hhead
  obtain ⟨rfl, rfl⟩ := List.append_inj hmore (by omega)
  exact ⟨rfl, hchar.symm, rfl⟩

theorem IllFormed.eq_nil {more : List UInt8} (h : IllFormed part (more ++ rest))
    (h' : IllFormed (part ++ more) rest) : more = [] := by
  cases more with
  | nil => rfl
  | cons b more =>
    -- The longer part is no single byte, so it begins a character, and so does the shorter one with
    -- the byte that follows it.
    have hbegins : Begins (part ++ b :: more) := by
      refine h'.begins.resolve_left fun hlength => h.ne_nil ?_
      rw [List.length_append, List.length_cons] at hlength
      exact List.length_eq_zero_iff.mp (by omega)
    rw [List.append_cons] at hbegins
    exact absurd hbegins.of_prefix (h.longest b rfl)

theorem IllFormed.unique {part' rest' : List UInt8} (h : IllFormed part rest)
    (h' : IllFormed part' rest') (heq : part ++ rest = part' ++ rest') : rest = rest' := by
  rcases List.append_eq_append_iff.mp heq with ⟨more, rfl, rfl⟩ | ⟨more, rfl, rfl⟩
  · rw [h.eq_nil h', List.nil_append]
  · rw [h'.eq_nil h, List.nil_append]

theorem Decodes.unique (h : Decodes bs cs) (h' : Decodes bs ds) : cs = ds := by
  induction h generalizing ds with
  | nil =>
    generalize hbytes : ([] : List UInt8) = bytes at h'
    cases h' with
    | nil => rfl
    | char hspells _ => exact absurd (List.append_eq_nil_iff.mp hbytes.symm).1 hspells.ne_nil
    | illFormed hpart _ => exact absurd (List.append_eq_nil_iff.mp hbytes.symm).1 hpart.ne_nil
  | @char bs rest n cs hspells _ ih =>
    generalize hbytes : bs ++ rest = bytes at h'
    cases h' with
    | nil => exact absurd (List.append_eq_nil_iff.mp hbytes).1 hspells.ne_nil
    | char hspells' hrest' =>
      obtain ⟨rfl, hchar, rfl⟩ := hspells.unique hspells' hbytes
      rw [hchar, ih hrest']
    | illFormed hpart _ => exact absurd hspells (hpart.unspelled bs n ⟨rest, hbytes⟩)
  | @illFormed part rest cs hpart _ ih =>
    generalize hbytes : part ++ rest = bytes at h'
    cases h' with
    | nil => exact absurd (List.append_eq_nil_iff.mp hbytes).1 hpart.ne_nil
    | @char bs' rest' n' cs' hspells' _ =>
      exact absurd hspells' (hpart.unspelled bs' n' ⟨rest', hbytes.symm⟩)
    | illFormed hpart' hrest' =>
      obtain rfl := hpart.unique hpart' hbytes
      rw [ih hrest']

/-- Bytes are decoded to one text, and the reader finds it. -/
theorem decodes_iff : Decodes bs cs ↔ decode bs = cs := by
  constructor
  · exact (decodes_decodeFrom 0 bs).unique
  · rintro rfl
    exact decodes_decodeFrom 0 bs

/-! ## Bytes below 0x80 -/

theorem Spells.begins (h : Spells bs n) : Begins bs := ⟨[], n, by rwa [List.append_nil]⟩

/-- An ill-formed part is the same if such a byte follows, at once or later. -/
theorem IllFormed.append_ascii (h : IllFormed part rest) (hb : b.toNat < 0x80) (more : List UInt8) :
    IllFormed part (rest ++ b :: more) := by
  refine ⟨h.ne_nil, fun bs n hfront hspells => ?_, h.begins, fun b' hb' => ?_⟩
  · -- A spelling would end before the byte or reach over it.
    obtain ⟨after, heq⟩ := hfront
    rw [← List.append_assoc] at heq
    rcases List.append_eq_append_iff.mp heq with ⟨left, hbytes, -⟩ | ⟨further, rfl, hfurther⟩
    · exact h.unspelled bs n ⟨left, hbytes.symm⟩ hspells
    · cases further with
      | nil =>
        rw [List.append_nil] at hspells
        exact h.unspelled _ n List.prefix_rfl hspells
      | cons first further =>
        obtain ⟨rfl, -⟩ := List.cons.inj hfurther
        exact not_begins_ascii hb (by simp [h.ne_nil]) hspells.begins
  · cases rest with
    | nil =>
      obtain rfl : b = b' := by simpa using hb'
      exact not_begins_ascii hb h.ne_nil
    | cons first rest => exact h.longest b' hb'

theorem Decodes.append_ascii (h : Decodes bs cs) (hb : b.toNat < 0x80) (hrest : Decodes rest ds) :
    Decodes (bs ++ b :: rest) (cs ++ Char.ofNat b.toNat :: ds) := by
  induction h with
  | nil =>
    have hone : Decodes ([b] ++ rest) _ := .char (.one hb) hrest
    exact hone
  | char hspells _ ih =>
    rw [List.append_assoc]
    exact .char hspells ih
  | illFormed hpart _ ih =>
    rw [List.append_assoc]
    exact .illFormed (hpart.append_ascii hb rest) ih

/-- What stands before and after such a byte is decoded on its own. -/
theorem decode_append_ascii (hb : b.toNat < 0x80) (bs rest : List UInt8) :
    decode (bs ++ b :: rest) = decode bs ++ Char.ofNat b.toNat :: decode rest :=
  decodes_iff.mp ((decodes_iff.mpr rfl).append_ascii hb (decodes_iff.mpr rfl))

theorem Spells.eq_ascii (h : Spells bs n) (hn : n < 0x80) : bs = [UInt8.ofNat n] := by
  rw [h.eq_encodeChar, encodeChar]
  dsimp only
  rw [toNat_ofNat h.valid, if_pos hn]

/-- A character below 0x80 comes from such a byte. -/
theorem byte_of_mem_decode {x : Char} (hx : x ∈ decode bs) (hascii : x.toNat < 0x80) :
    UInt8.ofNat x.toNat ∈ bs := by
  have hdecodes : Decodes bs (decode bs) := decodes_iff.mpr rfl
  generalize decode bs = cs at hx hdecodes
  induction hdecodes with
  | nil => cases hx
  | @char bs rest n cs hspells _ ih =>
    rcases List.mem_cons.mp hx with rfl | hx
    · rw [toNat_ofNat hspells.valid] at hascii ⊢
      rw [hspells.eq_ascii hascii]
      exact List.mem_cons_self
    · exact List.mem_append_right bs (ih hx)
  | @illFormed part rest cs hpart _ ih =>
    rcases List.mem_cons.mp hx with rfl | hx
    · exact absurd hascii (by decide)
    · exact List.mem_append_right part (ih hx)

/-- A text starts with such a character only if the bytes do. -/
theorem head_of_decode {x : Char} (hx : (decode bs).head? = some x) (hascii : x.toNat < 0x80) :
    bs.head? = some (UInt8.ofNat x.toNat) := by
  obtain ⟨cs, hcs⟩ := List.head?_eq_some_iff.mp hx
  have hdecodes : Decodes bs (x :: cs) := decodes_iff.mpr hcs
  generalize htext : x :: cs = text at hdecodes
  cases hdecodes with
  | nil => cases htext
  | char hspells _ =>
    obtain ⟨rfl, -⟩ := List.cons.inj htext
    rw [toNat_ofNat hspells.valid] at hascii ⊢
    rw [hspells.eq_ascii hascii]
    rfl
  | illFormed _ _ =>
    obtain ⟨rfl, -⟩ := List.cons.inj htext
    exact absurd hascii (by decide)

theorem decode_eq_nil_iff : decode bs = [] ↔ bs = [] := by
  rw [← decodes_iff]
  constructor
  · generalize hcs : ([] : List Char) = cs
    rintro (_ | _ | _)
    · rfl
    · cases hcs
    · cases hcs
  · rintro rfl
    exact .nil

end PerlVet.Text.Utf8
