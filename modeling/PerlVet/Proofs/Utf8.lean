import PerlVet.Text.Utf8

/-!
UTF-8. `Spells` says by the values of bytes which character they spell. The reader of the head of a
sequence finds what is spelled there (`head_eq_char_iff`), each character is spelled in one way, and
that is how it is written (`spells_iff`). So strict decoding accepts exactly the sequences that
encode a text, and gives that text (`decodeStrict_eq_ok_iff`).
-/

namespace PerlVet.Text.Utf8

variable {a b : UInt8} {bs rest : List UInt8} {c : Char} {cs : List Char} {n size position : Nat}

/-! ## One character -/

theorem isContinuation_iff : isContinuation b = true ↔ 0x80 ≤ b.toNat ∧ b.toNat ≤ 0xBF := by
  simp [isContinuation, UInt8.le_iff_toNat_le]

/-- The second byte of a longer character, by the values of the bytes. -/
theorem isSecond_iff :
    isSecond a b = true ↔ (0x80 ≤ b.toNat ∧ b.toNat ≤ 0xBF) ∧
      (a.toNat = 0xE0 → 0xA0 ≤ b.toNat) ∧ (a.toNat = 0xED → b.toNat < 0xA0) ∧
      (a.toNat = 0xF0 → 0x90 ≤ b.toNat) ∧ (a.toNat = 0xF4 → b.toNat < 0x90) := by
  simp only [isSecond, Bool.and_eq_true, isContinuation_iff, Bool.not_eq_true',
    Bool.and_eq_false_iff, beq_eq_false_iff_ne, ne_eq, decide_eq_false_iff_not, ← UInt8.toNat_inj,
    UInt8.le_iff_toNat_le, UInt8.lt_iff_toNat_lt, UInt8.reduceToNat]
  omega

/-- Bytes that spell the character with a number. -/
inductive Spells : List UInt8 → Nat → Prop where
  | one {a : UInt8} : a.toNat < 0x80 → Spells [a] a.toNat
  | two {a b : UInt8} : 0xC2 ≤ a.toNat → a.toNat < 0xE0 → isContinuation b = true →
    Spells [a, b] (a.toNat % 0x20 * 0x40 + payload b)
  | three {a b c : UInt8} : 0xE0 ≤ a.toNat → a.toNat < 0xF0 → isSecond a b = true →
    isContinuation c = true →
    Spells [a, b, c] ((a.toNat % 0x10 * 0x40 + payload b) * 0x40 + payload c)
  | four {a b c d : UInt8} : 0xF0 ≤ a.toNat → a.toNat ≤ 0xF4 → isSecond a b = true →
    isContinuation c = true → isContinuation d = true →
    Spells [a, b, c, d]
      (((a.toNat % 8 * 0x40 + payload b) * 0x40 + payload c) * 0x40 + payload d)

theorem spells_of_head :
    head a rest = .char c size →
      ∃ bs rest' n, a :: rest = bs ++ rest' ∧ Spells bs n ∧ c = Char.ofNat n ∧
        size = bs.length := by
  fun_cases head a rest with
  | case1 rest ha =>
    intro heq
    cases heq
    exact ⟨[a], rest, _, rfl, .one (UInt8.lt_iff_toNat_lt.mp ha), rfl, rfl⟩
  | case4 h₁ h₂ ha b rest hb =>
    intro heq
    cases heq
    simp only [Bool.or_eq_true, decide_eq_true_eq, UInt8.lt_iff_toNat_lt, UInt8.reduceToNat,
      not_or] at h₂ ha
    exact ⟨[a, b], rest, _, rfl, .two (by omega) ha hb, rfl, rfl⟩
  | case11 h₁ h₂ h₃ ha b c rest hb hc =>
    intro heq
    cases heq
    simp only [UInt8.lt_iff_toNat_lt, UInt8.reduceToNat, Bool.not_eq_true', Bool.not_eq_false]
      at h₃ ha hb hc
    exact ⟨[a, b, c], rest, _, rfl, .three (by omega) ha hb hc, rfl, rfl⟩
  | case21 h₁ h₂ h₃ ha b c d rest hb hc hd =>
    intro heq
    cases heq
    simp only [Bool.or_eq_true, decide_eq_true_eq, UInt8.lt_iff_toNat_lt, UInt8.reduceToNat,
      not_or, Bool.not_eq_true', Bool.not_eq_false] at h₂ ha hb hc hd
    exact ⟨[a, b, c, d], rest, _, rfl, .four (by omega) (by omega) hb hc hd, rfl, rfl⟩
  | _ => exact nofun

/-- Bytes that spell a character are read as that, whatever follows them. -/
theorem head_of_spells (h : Spells (a :: bs) n) (rest : List UInt8) :
    head a (bs ++ rest) = .char (Char.ofNat n) (bs.length + 1) := by
  cases h with
  | one ha => simp [head, UInt8.lt_iff_toNat_lt, ha]
  | two ha ha' hb =>
    have h₁ : ¬ a.toNat < 0x80 := by omega
    have h₂ : ¬ a.toNat < 0xC2 := by omega
    have h₃ : ¬ 0xF4 < a.toNat := by omega
    simp [head, UInt8.lt_iff_toNat_lt, h₁, h₂, h₃, ha', hb]
  | three ha ha' hb hc =>
    have h₁ : ¬ a.toNat < 0x80 := by omega
    have h₂ : ¬ a.toNat < 0xC2 := by omega
    have h₃ : ¬ 0xF4 < a.toNat := by omega
    have h₄ : ¬ a.toNat < 0xE0 := by omega
    simp [head, UInt8.lt_iff_toNat_lt, h₁, h₂, h₃, h₄, ha', hb, hc]
  | four ha ha' hb hc hd =>
    have h₁ : ¬ a.toNat < 0x80 := by omega
    have h₂ : ¬ a.toNat < 0xC2 := by omega
    have h₃ : ¬ 0xF4 < a.toNat := by omega
    have h₄ : ¬ a.toNat < 0xE0 := by omega
    have h₅ : ¬ a.toNat < 0xF0 := by omega
    simp [head, UInt8.lt_iff_toNat_lt, h₁, h₂, h₃, h₄, h₅, hb, hc, hd]

theorem toNat_ofNat (h : n.isValidChar) : (Char.ofNat n).toNat = n := by
  rw [Char.ofNat, dif_pos h]
  rfl

theorem toNat_byte (h : n < 0x100) : (UInt8.ofNat n).toNat = n := UInt8.toNat_ofNat_of_lt h

theorem ofNat_byte (h : n = a.toNat) : UInt8.ofNat n = a := by rw [h, UInt8.ofNat_toNat]

/-- A character is spelled by the bytes that it is written in. -/
theorem spells_encodeChar (c : Char) : Spells (encodeChar c) c.toNat := by
  have hvalid : c.toNat.isValidChar := c.valid
  unfold encodeChar
  dsimp only
  generalize c.toNat = n at hvalid
  have htail (k : Nat) : (UInt8.ofNat (0x80 + k % 0x40)).toNat = 0x80 + k % 0x40 :=
    toNat_byte (by omega)
  have hpayload (k : Nat) : payload (UInt8.ofNat (0x80 + k % 0x40)) = k % 0x40 := by
    rw [payload, htail]
    omega
  have hcontinues (k : Nat) : isContinuation (UInt8.ofNat (0x80 + k % 0x40)) = true := by
    rw [isContinuation_iff, htail]
    omega
  split
  · next hn =>
    have ha := toNat_byte (n := n) (by omega)
    have hspells : Spells [UInt8.ofNat n] _ := .one (by omega)
    rwa [ha] at hspells
  · split
    · next hn =>
      have ha := toNat_byte (n := 0xC0 + n / 0x40) (by omega)
      have hspells : Spells [UInt8.ofNat (0xC0 + n / 0x40), _] _ :=
        .two (by omega) (by omega) (hcontinues (n / 1))
      rw [ha, hpayload] at hspells
      rwa [show (0xC0 + n / 0x40) % 0x20 * 0x40 + n / 1 % 0x40 = n by omega] at hspells
    · split
      · next hn =>
        have ha := toNat_byte (n := 0xE0 + n / 0x1000) (by omega)
        have hb : isSecond (UInt8.ofNat (0xE0 + n / 0x1000))
            (UInt8.ofNat (0x80 + n / 0x40 % 0x40)) = true := by
          rw [isSecond_iff, ha, htail]
          omega
        have hspells := Spells.three (by omega) (by omega) hb (hcontinues (n / 1))
        rw [ha, hpayload, hpayload] at hspells
        rwa [show ((0xE0 + n / 0x1000) % 0x10 * 0x40 + n / 0x40 % 0x40) * 0x40 + n / 1 % 0x40 = n
          by omega] at hspells
      · next hn =>
        have ha := toNat_byte (n := 0xF0 + n / 0x40000) (by omega)
        have hb : isSecond (UInt8.ofNat (0xF0 + n / 0x40000))
            (UInt8.ofNat (0x80 + n / 0x1000 % 0x40)) = true := by
          rw [isSecond_iff, ha, htail]
          omega
        have hspells := Spells.four (by omega) (by omega) hb (hcontinues (n / 0x40))
          (hcontinues (n / 1))
        rw [ha, hpayload, hpayload, hpayload] at hspells
        rwa [show (((0xF0 + n / 0x40000) % 8 * 0x40 + n / 0x1000 % 0x40) * 0x40 +
          n / 0x40 % 0x40) * 0x40 + n / 1 % 0x40 = n by omega] at hspells

theorem Spells.valid (h : Spells bs n) : n.isValidChar := by
  cases h with
  | one ha => exact .inl (by omega)
  | @two a b ha ha' hb =>
    unfold payload
    exact .inl (by omega)
  | @three a b c ha ha' hb hc =>
    rw [isSecond_iff] at hb
    unfold payload Nat.isValidChar
    omega
  | @four a b c d ha ha' hb hc hd =>
    rw [isSecond_iff] at hb
    unfold payload Nat.isValidChar
    omega

/-- What is spelled is written that way. -/
theorem Spells.eq_encodeChar (h : Spells bs n) : bs = encodeChar (Char.ofNat n) := by
  have hn := toNat_ofNat h.valid
  unfold encodeChar
  dsimp only
  rw [hn]
  cases h with
  | one ha => rw [if_pos ha, UInt8.ofNat_toNat]
  | @two a b ha ha' hb =>
    rw [isContinuation_iff] at hb
    unfold payload
    rw [if_neg (by omega), if_pos (by omega), ofNat_byte (a := a) (by omega),
      ofNat_byte (a := b) (by omega)]
  | @three a b c ha ha' hb hc =>
    rw [isSecond_iff] at hb
    rw [isContinuation_iff] at hc
    unfold payload
    rw [if_neg (by omega), if_neg (by omega), if_pos (by omega), ofNat_byte (a := a) (by omega),
      ofNat_byte (a := b) (by omega), ofNat_byte (a := c) (by omega)]
  | @four a b c d ha ha' hb hc hd =>
    rw [isSecond_iff] at hb
    rw [isContinuation_iff] at hc hd
    unfold payload
    rw [if_neg (by omega), if_neg (by omega), if_neg (by omega), ofNat_byte (a := a) (by omega),
      ofNat_byte (a := b) (by omega), ofNat_byte (a := c) (by omega),
      ofNat_byte (a := d) (by omega)]

theorem exists_encodeChar_eq (c : Char) : ∃ b bs, encodeChar c = b :: bs := by
  have hspells := spells_encodeChar c
  cases hbytes : encodeChar c with
  | nil =>
    rw [hbytes] at hspells
    cases hspells
  | cons b bs => exact ⟨b, bs, rfl⟩

/-- A character is read as it was written, whatever follows it. -/
theorem head_encodeChar (h : encodeChar c = b :: bs) (rest : List UInt8) :
    head b (bs ++ rest) = .char c (bs.length + 1) := by
  have hspells := spells_encodeChar c
  rw [h] at hspells
  rw [head_of_spells hspells, Char.ofNat_toNat]

/-- A character that is read was written. -/
theorem eq_encodeChar_of_head (h : head b bs = .char c size) :
    ∃ rest, b :: bs = encodeChar c ++ rest ∧ size = (encodeChar c).length := by
  obtain ⟨spelled, rest, n, hbytes, hspells, rfl, rfl⟩ := spells_of_head h
  obtain rfl := hspells.eq_encodeChar
  exact ⟨rest, hbytes, rfl⟩

/-! ## Texts -/

theorem encode_cons (c : Char) (cs : List Char) : encode (c :: cs) = encodeChar c ++ encode cs :=
  rfl

theorem decodeStrictFrom_append (bs rest : List UInt8) (position : Nat) :
    decodeStrictFrom position bs.length (bs ++ rest) =
      decodeStrictFrom (position + bs.length) 0 rest := by
  induction bs generalizing position with
  | nil => rfl
  | cons b bs ih =>
    rw [List.cons_append, List.length_cons, decodeStrictFrom, ih]
    congr 1
    omega

theorem decodeStrictFrom_encode (cs : List Char) (position : Nat) :
    decodeStrictFrom position 0 (encode cs) = .ok cs := by
  induction cs generalizing position with
  | nil => rfl
  | cons c cs ih =>
    obtain ⟨b, bs, hbytes⟩ := exists_encodeChar_eq c
    rw [encode_cons, hbytes, List.cons_append, decodeStrictFrom, head_encodeChar hbytes]
    dsimp only
    rw [Nat.add_sub_cancel, decodeStrictFrom_append, ih]
    rfl

/-- What is decoded was encoded. The induction goes along the bytes, some of which belong to a
character that has been read. -/
theorem drop_eq_encode_of_decodeStrictFrom {skip : Nat}
    (h : decodeStrictFrom position skip bs = .ok cs) : bs.drop skip = encode cs := by
  induction bs generalizing position skip cs with
  | nil =>
    cases h
    exact List.drop_nil
  | cons b bs ih =>
    cases skip with
    | succ skip =>
      rw [decodeStrictFrom] at h
      exact ih h
    | zero =>
      rw [decodeStrictFrom] at h
      split at h
      · next c size hhead =>
        obtain ⟨rest, hbytes, rfl⟩ := eq_encodeChar_of_head hhead
        obtain ⟨b', bs', hc⟩ := exists_encodeChar_eq c
        cases hrest : decodeStrictFrom (position + 1) ((encodeChar c).length - 1) bs with
        | error e =>
          rw [hrest] at h
          cases h
        | ok cs' =>
          rw [hrest] at h
          cases h
          have htail := ih hrest
          rw [hc] at hbytes htail
          obtain ⟨rfl, rfl⟩ : b = b' ∧ bs = bs' ++ rest := by simpa using hbytes
          rw [List.length_cons, Nat.add_sub_cancel, List.drop_left] at htail
          rw [List.drop_zero, encode_cons, hc, htail]
          rfl
      · cases h

/-- Strict decoding accepts the encoding of a text and nothing else. -/
theorem decodeStrict_eq_ok_iff : decodeStrict bs = .ok cs ↔ bs = encode cs := by
  constructor
  · intro h
    have hdrop : bs.drop 0 = encode cs := drop_eq_encode_of_decodeStrictFrom h
    exact hdrop
  · rintro rfl
    exact decodeStrictFrom_encode cs 0

end PerlVet.Text.Utf8
