import PerlVet.Proofs.Replacement
import PerlVet.Proofs.Traversal

/-!
The lines of a file, by its bytes. `byteLines` cuts bytes at newlines, at carriage returns, and at
both together; `Cut` says what such a cutting is. A line end is made of bytes below 0x80, which stay
what they are in a text, so it makes no difference whether a file is decoded before it is cut or
line by line afterwards (`Cut.decoded`, `Host.fileLines_decoded`). What counts as a line end decides
the numbers of lines: they grow at every newline, and also at a carriage return that stands in front
of anything else (`strayReturns`). Without these, a line starts after as many newlines as its number
says (`Cut.numbered_iff`, `Host.fileLines_numbered`).
-/

namespace PerlVet.Text
open Utf8

variable {bs line rest ending : List UInt8} {lines : List (List UInt8)} {cs u : List Char}

/-! ## Cutting bytes -/

/-- The lines of bytes after the bytes `line` (held backwards) of the first one. -/
def byteLinesFrom (line : List UInt8) : List UInt8 → List (List UInt8)
  | [] => if line.isEmpty then [] else [line.reverse]
  | 0x0D :: 0x0A :: bs => line.reverse :: byteLinesFrom [] bs
  | b :: bs =>
    if b == 0x0A || b == 0x0D then line.reverse :: byteLinesFrom [] bs
    else byteLinesFrom (b :: line) bs

/-- The lines of bytes, cut at every newline and carriage return, which count as one if they stand
together in this order. A line end at the end opens no further line. -/
def byteLines (bs : List UInt8) : List (List UInt8) := byteLinesFrom [] bs

/-- The byte stands inside a line. -/
def insideLine (b : UInt8) : Bool := b != 0x0A && b != 0x0D

/-- Bytes without line ends. -/
def Unbroken (bs : List UInt8) : Prop := ∀ b ∈ bs, insideLine b = true

/-- Bytes that end a line if `rest` follows. -/
inductive Ends : List UInt8 → List UInt8 → Prop where
  | newline (rest : List UInt8) : Ends [0x0A] rest
  | both (rest : List UInt8) : Ends [0x0D, 0x0A] rest
  | lone {rest : List UInt8} : rest.head? ≠ some 0x0A → Ends [0x0D] rest

/-- Bytes and the lines that they consist of, each with an end of its own but perhaps the last. -/
inductive Cut : List UInt8 → List (List UInt8) → Prop where
  | nil : Cut [] []
  | last {line : List UInt8} : Unbroken line → line ≠ [] → Cut line [line]
  | ended {line ending rest : List UInt8} {lines : List (List UInt8)} : Unbroken line →
    Ends ending rest → Cut rest lines → Cut (line ++ (ending ++ rest)) (line :: lines)

theorem unbroken_nil : Unbroken [] := nofun

theorem Unbroken.reverse (h : Unbroken line) : Unbroken line.reverse :=
  fun b hb => h b (List.mem_reverse.mp hb)

theorem cut_byteLinesFrom (hline : Unbroken line) :
    Cut (line.reverse ++ bs) (byteLinesFrom line bs) := by
  fun_induction byteLinesFrom line bs with
  | case1 line hempty =>
    obtain rfl := List.isEmpty_iff.mp hempty
    exact .nil
  | case2 line hbusy =>
    rw [List.append_nil]
    exact .last hline.reverse (by simpa using hbusy)
  | case3 line bs ih => exact .ended hline.reverse (.both bs) (ih unbroken_nil)
  | case4 line b bs hboth hend ih =>
    have hrest : Cut bs (byteLinesFrom [] bs) := ih unbroken_nil
    simp only [Bool.or_eq_true, beq_iff_eq] at hend
    rcases hend with rfl | rfl
    · exact .ended hline.reverse (.newline bs) hrest
    · refine .ended hline.reverse (.lone fun hhead => ?_) hrest
      obtain ⟨bs', rfl⟩ := List.head?_eq_some_iff.mp hhead
      exact hboth bs' rfl rfl
  | case5 line b bs hboth hinner ih =>
    have hcut := ih fun b' hb' => by
      rcases List.mem_cons.mp hb' with rfl | hb'
      · simpa [insideLine] using hinner
      · exact hline b' hb'
    rwa [List.reverse_cons, List.append_assoc] at hcut

theorem cut_byteLines (bs : List UInt8) : Cut bs (byteLines bs) := cut_byteLinesFrom unbroken_nil

/-! ## Cutting texts -/

theorem universalNewlines_append (hu : '\r' ∉ u) (cs : List Char) :
    universalNewlines (u ++ cs) = u ++ universalNewlines cs := by
  induction u with
  | nil => rfl
  | cons c u ih =>
    obtain ⟨hc, hu⟩ : '\r' ≠ c ∧ '\r' ∉ u := by simpa using hu
    rw [List.cons_append, universalNewlines, ih hu, List.cons_append]
    · exact fun cs' hreturn => absurd hreturn.symm hc
    · exact fun hreturn => absurd hreturn.symm hc

theorem universalNewlines_return (hcs : cs.head? ≠ some '\n') :
    universalNewlines ('\r' :: cs) = '\n' :: universalNewlines cs := by
  rw [universalNewlines]
  rintro cs' rfl
  exact hcs rfl

theorem newlineLinesFrom_append (hu : '\n' ∉ u) (line cs : List Char) :
    newlineLinesFrom line (u ++ cs) = newlineLinesFrom (u.reverse ++ line) cs := by
  induction u generalizing line with
  | nil => rfl
  | cons c u ih =>
    obtain ⟨hc, hu⟩ : '\n' ≠ c ∧ '\n' ∉ u := by simpa using hu
    rw [List.cons_append, newlineLinesFrom, if_neg (by simpa using hc.symm), ih hu]
    simp

theorem newlineLines_newline (hu : '\n' ∉ u) (cs : List Char) :
    newlineLines (u ++ '\n' :: cs) = u :: newlineLines cs := by
  rw [newlineLines, newlineLinesFrom_append hu, newlineLinesFrom]
  simp [newlineLines]

theorem newlineLines_of_one (hu : '\n' ∉ u) (hne : u ≠ []) : newlineLines u = [u] := by
  have happend := newlineLinesFrom_append hu [] []
  rw [List.append_nil] at happend
  rw [newlineLines, happend, newlineLinesFrom]
  simp [hne]

/-- The first line is what stands before the first newline. -/
theorem head_newlineLinesFrom (line cs : List Char) :
    (newlineLinesFrom line cs).head?.getD [] = line.reverse ++ cs.takeWhile (· != '\n') := by
  induction cs generalizing line with
  | nil =>
    rw [newlineLinesFrom]
    split
    · next hempty => simp [List.isEmpty_iff.mp hempty]
    · simp
  | cons c cs ih =>
    rw [newlineLinesFrom]
    split
    · next hc => simp [beq_iff_eq.mp hc]
    · next hc =>
      rw [ih, List.takeWhile_cons_of_pos (by simpa using hc)]
      simp

/-! ## Decoding and cutting -/

theorem Unbroken.not_mem_decode (h : Unbroken bs) :
    '\n' ∉ decode bs ∧ '\r' ∉ decode bs := by
  constructor
  · intro hmem
    exact absurd (h _ (byte_of_mem_decode hmem (by decide))) (by decide)
  · intro hmem
    exact absurd (h _ (byte_of_mem_decode hmem (by decide))) (by decide)

theorem decode_newline (bs rest : List UInt8) :
    decode (bs ++ 0x0A :: rest) = decode bs ++ '\n' :: decode rest :=
  decode_append_ascii (by decide) bs rest

theorem decode_return (bs rest : List UInt8) :
    decode (bs ++ 0x0D :: rest) = decode bs ++ '\r' :: decode rest :=
  decode_append_ascii (by decide) bs rest

/-- Lines of bytes are decoded to the lines of the text that all bytes are decoded to. -/
theorem Cut.decoded (h : Cut bs lines) :
    newlineLines (universalNewlines (decode bs)) = lines.map decode := by
  induction h with
  | nil => rfl
  | @last line hline hne =>
    obtain ⟨hnewline, hreturn⟩ := hline.not_mem_decode
    have htext := universalNewlines_append hreturn []
    rw [List.append_nil, universalNewlines, List.append_nil] at htext
    rw [htext]
    exact newlineLines_of_one hnewline (mt decode_eq_nil_iff.mp hne)
  | @ended line ending rest lines hline hends _ ih =>
    obtain ⟨hnewline, hreturn⟩ := hline.not_mem_decode
    have htext : universalNewlines (decode (line ++ (ending ++ rest))) =
        decode line ++ '\n' :: universalNewlines (decode rest) := by
      cases hends with
      | newline =>
        rw [List.singleton_append, decode_newline, universalNewlines_append hreturn]
        rfl
      | both =>
        have hboth : decode (0x0A :: rest) = '\n' :: decode rest := decode_newline [] rest
        rw [List.cons_append, List.singleton_append, decode_return, hboth,
          universalNewlines_append hreturn]
        rfl
      | lone hrest =>
        rw [List.singleton_append, decode_return, universalNewlines_append hreturn,
          universalNewlines_return fun hhead => hrest (head_of_decode hhead (by decide))]
    rw [htext, newlineLines_newline hnewline, ih, List.map_cons]

/-! ## Numbers of lines -/

/-- The carriage returns in front of something other than a newline. -/
def strayReturns : List UInt8 → Nat
  | [] => 0
  | b :: bs => (if b == 0x0D && bs.head?.any (· != 0x0A) then 1 else 0) + strayReturns bs

theorem Unbroken.count_newline (h : Unbroken line) : line.count 0x0A = 0 :=
  List.count_eq_zero_of_not_mem fun hmem => absurd (h 0x0A hmem) (by decide)

theorem Unbroken.strayReturns_append (h : Unbroken line) (rest : List UInt8) :
    strayReturns (line ++ rest) = strayReturns rest := by
  induction line with
  | nil => rfl
  | cons b line ih =>
    have hb : (b == 0x0D) = false := by
      have hinside := h b List.mem_cons_self
      simp only [insideLine, Bool.and_eq_true, bne_iff_ne] at hinside
      simpa using hinside.2
    rw [List.cons_append, strayReturns, hb, ih fun b' hb' => h b' (List.mem_cons_of_mem b hb')]
    simp

/-- A line end in front of something is a newline or a stray carriage return. -/
theorem Ends.counts (h : Ends ending rest) (hrest : rest ≠ []) :
    ending.count 0x0A + strayReturns (ending ++ rest) = 1 + strayReturns rest := by
  cases h with
  | newline => simp [strayReturns]
  | both => simp [strayReturns]
  | lone hnext =>
    obtain ⟨b, rest, rfl⟩ := List.exists_cons_of_ne_nil hrest
    have hb : b ≠ 0x0A := by simpa using hnext
    simp [strayReturns, hb]

theorem Ends.of_head {more : List UInt8} (h : Ends ending rest) (hhead : more.head? = rest.head?) :
    Ends ending more := by
  cases h with
  | newline => exact .newline more
  | both => exact .both more
  | lone hnext => exact .lone (hhead ▸ hnext)

theorem Unbroken.takeWhile_append (h : Unbroken line) (hrest : rest.head?.all (!insideLine ·)) :
    (line ++ rest).takeWhile insideLine = line := by
  rw [List.takeWhile_append_of_pos h]
  cases rest with
  | nil => simp
  | cons b rest =>
    rw [List.takeWhile_cons_of_neg (by simpa using hrest), List.append_nil]

/-- There is a line for every newline and every stray carriage return, and one for what follows the
last newline, if anything does. -/
theorem Cut.length (h : Cut bs lines) :
    lines.length = bs.count 0x0A + strayReturns bs +
      if bs = [] ∨ bs.getLast? = some 0x0A then 0 else 1 := by
  induction h with
  | nil => rfl
  | @last line hline hne =>
    have hstray := hline.strayReturns_append []
    rw [List.append_nil] at hstray
    have hlast : line.getLast? ≠ some 0x0A := fun hlast =>
      absurd (hline 0x0A (List.mem_of_getLast? hlast)) (by decide)
    simp [hline.count_newline, hstray, strayReturns, hne, hlast]
  | @ended line ending rest lines hline hends _ ih =>
    have hcount : (line ++ (ending ++ rest)).count 0x0A = ending.count 0x0A + rest.count 0x0A := by
      simp [hline.count_newline]
    rw [List.length_cons, ih, hcount, hline.strayReturns_append]
    by_cases hrest : rest = []
    · subst hrest
      cases hends <;> simp [strayReturns]
    · have hends' := hends.counts hrest
      have hlast : (line ++ (ending ++ rest)).getLast? = rest.getLast? := by
        rw [List.getLast?_append_of_ne_nil _ (by simp [hrest]),
          List.getLast?_append_of_ne_nil _ hrest]
      simp only [hlast, hrest, List.append_eq_nil_iff, and_false, false_or]
      omega

/-- A line starts where the bytes do or right after a line end. -/
def StartsLine (before rest : List UInt8) : Prop :=
  before = [] ∨ ∃ front ending, before = front ++ ending ∧ Ends ending rest

theorem strayReturns_take_one (bs : List UInt8) : strayReturns (bs.take 1) = 0 := by
  cases bs <;> simp [strayReturns]

/-- The number of a line is that of the newlines and stray carriage returns before it. -/
theorem Cut.starts (h : Cut bs lines) {i : Nat} (hline : lines[i]? = some line) :
    ∃ before rest, bs = before ++ rest ∧ rest ≠ [] ∧ StartsLine before rest ∧
      before.count 0x0A + strayReturns (before ++ rest.take 1) = i ∧
      rest.takeWhile insideLine = line := by
  induction h generalizing i with
  | nil => cases hline
  | @last first hfirst hne =>
    obtain ⟨rfl, rfl⟩ : i = 0 ∧ first = line := by
      cases i <;> simp_all
    have hpiece : (first ++ []).takeWhile insideLine = first := hfirst.takeWhile_append rfl
    rw [List.append_nil] at hpiece
    refine ⟨[], first, rfl, hne, .inl rfl, ?_, hpiece⟩
    rw [List.nil_append, strayReturns_take_one]
    rfl
  | @ended first ending rest lines hfirst hends _ ih =>
    cases i with
    | zero =>
      obtain rfl : first = line := by simpa using hline
      refine ⟨[], first ++ (ending ++ rest), rfl, ?_, .inl rfl, ?_, hfirst.takeWhile_append ?_⟩
      · cases hends <;> simp
      · rw [List.nil_append, strayReturns_take_one]
        rfl
      · cases hends <;> rfl
    | succ i =>
      obtain ⟨before, rest, rfl, hne, hstarts, rfl, hpiece⟩ := ih hline
      refine ⟨first ++ (ending ++ before), rest, by simp, hne, ?_, ?_, hpiece⟩
      · rcases hstarts with rfl | ⟨front, ending', rfl, hends'⟩
        · exact .inr ⟨first, ending, by simp, hends⟩
        · exact .inr ⟨first ++ (ending ++ front), ending', by simp, hends'⟩
      · obtain ⟨b, rest, rfl⟩ := List.exists_cons_of_ne_nil hne
        have hmore : Ends ending (before ++ [b]) := hends.of_head (by cases before <;> rfl)
        have hcounts := hmore.counts (by simp)
        simp only [List.append_assoc, List.count_append, hfirst.count_newline,
          hfirst.strayReturns_append, List.take_succ_cons, List.take_zero]
        omega

/-- Lines are numbered by newlines: there is one for each of them, and one for what follows the last
one, and every line starts right after as many of them as there are lines before it. -/
structure NumberedByNewlines (bytes : List UInt8) (lines : List (List Char)) : Prop where
  length : lines.length = bytes.count 0x0A +
    if bytes = [] ∨ bytes.getLast? = some 0x0A then 0 else 1
  starts : ∀ i line, lines[i]? = some line → ∃ before rest, bytes = before ++ rest ∧
    (before = [] ∨ before.getLast? = some 0x0A) ∧ before.count 0x0A = i ∧
    decode (rest.takeWhile insideLine) = line

theorem strayReturns_le_append (bs rest : List UInt8) :
    strayReturns bs ≤ strayReturns (bs ++ rest) := by
  induction bs with
  | nil => exact Nat.zero_le _
  | cons b bs ih =>
    rw [List.cons_append, strayReturns, strayReturns]
    cases bs with
    | nil => simp [strayReturns]
    | cons b' bs => exact Nat.add_le_add_left ih _

theorem strayReturns_le_of_infix (h : line <:+: bs) : strayReturns line ≤ strayReturns bs := by
  obtain ⟨front, back, rfl⟩ := h
  rw [List.append_assoc]
  induction front with
  | nil => exact strayReturns_le_append line back
  | cons b front ih =>
    rw [List.cons_append, strayReturns]
    omega

/-- Lines are numbered by newlines if and only if no carriage return is stray. -/
theorem Cut.numbered_iff (h : Cut bs lines) :
    NumberedByNewlines bs (lines.map decode) ↔ strayReturns bs = 0 := by
  have hlength := h.length
  constructor
  · intro hnumbered
    have hcount := hnumbered.length
    rw [List.length_map] at hcount
    omega
  · intro hstray
    refine ⟨by rw [List.length_map]; omega, fun i line hline => ?_⟩
    rw [List.getElem?_map, Option.map_eq_some_iff] at hline
    obtain ⟨piece, hpiece, rfl⟩ := hline
    obtain ⟨before, rest, rfl, hne, hstarts, hnumber, rfl⟩ := h.starts hpiece
    obtain ⟨b, rest, rfl⟩ := List.exists_cons_of_ne_nil hne
    refine ⟨before, b :: rest, rfl, ?_, ?_, rfl⟩
    · rcases hstarts with rfl | ⟨front, ending, rfl, hends⟩
      · exact .inl rfl
      · right
        cases hends with
        | newline => simp
        | both => simp
        | lone hnext =>
          -- A line that a carriage return alone has ended is what there is not.
          have hb : b ≠ 0x0A := by simpa using hnext
          have hone : strayReturns [0x0D, b] = 1 := by simp [strayReturns, hb]
          have hle : strayReturns [0x0D, b] ≤ strayReturns (front ++ [0x0D] ++ b :: rest) :=
            strayReturns_le_of_infix ⟨front, rest, by simp⟩
          omega
    · have hbefore := strayReturns_le_append (before ++ [b]) rest
      simp at hbefore hnumber
      omega

end PerlVet.Text

namespace PerlVet.Host
open Text Utf8
open LineScan (holding)

variable {h : Host} {p : Path} {bytes : List UInt8}

theorem fileText_of_readBytes (hbytes : h.readBytes p = .ok bytes) :
    h.fileText p = .ok (universalNewlines (decode bytes)) := by
  unfold fileText
  rw [hbytes]

theorem fileLines_of_readBytes (hbytes : h.readBytes p = .ok bytes) :
    h.fileLines p = .ok ((byteLines bytes).map decode) := by
  rw [fileLines, fileText_of_readBytes hbytes, Except.map, (cut_byteLines bytes).decoded]

theorem fileHead_of_readBytes (hbytes : h.readBytes p = .ok bytes) :
    h.fileHead p = .ok (((byteLines bytes).map decode).head?.getD []) := by
  rw [fileHead, fileText_of_readBytes hbytes, Except.map, ← (cut_byteLines bytes).decoded,
    newlineLines, head_newlineLinesFrom]
  rfl

/-- The lines of a file are what its bytes give when they are cut first and each piece is decoded on
its own, and the first of these is also what is read of the file alone. -/
theorem fileLines_decoded (hbytes : h.readBytes p = .ok bytes) :
    (∃ lines, h.fileLines p = .ok lines ∧ h.fileHead p = .ok (lines.head?.getD [])) ∧
    ∀ lines, h.fileLines p = .ok lines ↔ List.Forall₂ Decodes (byteLines bytes) lines := by
  refine ⟨⟨_, fileLines_of_readBytes hbytes, fileHead_of_readBytes hbytes⟩, fun lines => ?_⟩
  have hdecodes : List.Forall₂ Decodes (byteLines bytes) lines ↔
      (byteLines bytes).map decode = lines := by
    rw [← List.forall₂_eq_eq_eq, List.forall₂_map_left_iff]
    exact ⟨.imp fun _ _ => decodes_iff.mp, .imp fun _ _ => decodes_iff.mpr⟩
  rw [hdecodes, fileLines_of_readBytes hbytes, Except.ok.injEq]

theorem readBytes_holding (bytes : List UInt8) :
    (holding bytes).readBytes ⟨.root, ["a.pl"]⟩ = .ok bytes := rfl

/-- Characters that are cut short by every kind of line end, and by the end of the file. -/
def truncated : List UInt8 := [0x61, 0xE2, 0x82, 0x0D, 0xF0, 0x9F, 0x0D, 0x0A, 0xC3, 0x0A, 0xE0]

theorem fileLines_decoded_truncated :
    (holding truncated).fileLines ⟨.root, ["a.pl"]⟩ =
      .ok [['a', '\uFFFD'], ['\uFFFD'], ['\uFFFD'], ['\uFFFD']] := by
  refine ((fileLines_decoded (readBytes_holding truncated)).2 _).mpr ?_
  have hlines : byteLines truncated = [[0x61, 0xE2, 0x82], [0xF0, 0x9F], [0xC3], [0xE0]] := by
    decide
  rw [hlines]
  exact .cons (decodes_iff.mpr rfl) <| .cons (decodes_iff.mpr rfl) <|
    .cons (decodes_iff.mpr rfl) <| .cons (decodes_iff.mpr rfl) .nil

/-- The lines of a file and their numbers, by its bytes. The number of a line, which is also that of
the diagnostics for it, counts newlines as long as no carriage return is stray. -/
theorem fileLines_numbered (hbytes : h.readBytes p = .ok bytes) :
    ∃ lines, h.fileLines p = .ok lines ∧
      (lines.length = bytes.count 0x0A + strayReturns bytes +
        if bytes = [] ∨ bytes.getLast? = some 0x0A then 0 else 1) ∧
      (∀ i line, lines[i]? = some line → ∃ before rest, bytes = before ++ rest ∧
        StartsLine before rest ∧ before.count 0x0A + strayReturns (before ++ rest.take 1) = i ∧
        decode (rest.takeWhile insideLine) = line) ∧
      (NumberedByNewlines bytes lines ↔ strayReturns bytes = 0) ∧
      ∀ config s ds, (LineScan.inspect config h p s).1 = .ok ds → ∀ d ∈ ds,
        ∃ i line f, lines[i]? = some line ∧ ∃ rule ∈ config.rules, rule.covers p = true ∧
          LineScan.Answered p.text ⟨rule, i + 1, String.ofList line⟩ (some f) ∧
          d = ⟨⟨⟨f.severity, f.message⟩, i + 1⟩, "custom"⟩ := by
  have hcut := cut_byteLines bytes
  have hlines := fileLines_of_readBytes hbytes
  refine ⟨_, hlines, ?_, fun i line hline => ?_, hcut.numbered_iff,
    fun config s ds hds d hd => LineScan.inspect_remarks hlines hds hd⟩
  · rw [List.length_map, hcut.length]
  · rw [List.getElem?_map, Option.map_eq_some_iff] at hline
    obtain ⟨piece, hpiece, rfl⟩ := hline
    obtain ⟨before, rest, hbefore, -, hstarts, hnumber, rfl⟩ := hcut.starts hpiece
    exact ⟨before, rest, hbefore, hstarts, hnumber, rfl⟩

/-- Three lines, the first of which ends in a form feed and a carriage return. -/
def formFeed : List UInt8 := [0x61, 0x0C, 0x0D, 0x0A, 0x0A, 0x62]

theorem fileLines_numbered_formFeed :
    ∃ lines, (holding formFeed).fileLines ⟨.root, ["a.pl"]⟩ = .ok lines ∧ lines.length = 3 ∧
      NumberedByNewlines formFeed lines := by
  obtain ⟨lines, hlines, hlength, -, hnumbered, -⟩ :=
    fileLines_numbered (readBytes_holding formFeed)
  exact ⟨lines, hlines, hlength, hnumbered.mpr rfl⟩

/-- A carriage return in the middle of a line makes two of it. -/
theorem not_fileLines_numbered :
    ¬∀ (h : Host) (p : Path) (bytes : List UInt8) (lines : List (List Char)),
      h.readBytes p = .ok bytes → h.fileLines p = .ok lines → NumberedByNewlines bytes lines := by
  intro hall
  have hnumbered := hall _ _ _ [['x'], ['y']] (readBytes_holding [0x78, 0x0D, 0x79, 0x0A]) rfl
  exact absurd hnumbered.length (by decide)

end PerlVet.Host
