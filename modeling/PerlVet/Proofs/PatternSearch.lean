import PerlVet.Pattern.Search
import PerlVet.Proofs.Text

/-!
What a search with a pattern comes to, for the parts of simple patterns: characters that are taken
as they are written (`runAll_chars`), the end of a line (`runAll_lineEnd`), and a greedy repetition
of a set of characters that has to reach it (`runAll_loop`). Tracks do not matter to any of them.
-/

namespace PerlVet.Pattern

variable {text : Array Char} {widths : Nat → Width} {f : Flags} {inLoop : Bool} {k : Follow}
  {p : Nat} {t : Track}

theorem drop_eq_cons {c : Char} (hc : text[p]? = some c) :
    text.toList.drop p = c :: text.toList.drop (p + 1) := by
  obtain ⟨hlt, rfl⟩ := Array.getElem?_eq_some_iff.mp hc
  rw [List.drop_eq_getElem_cons (by simpa using hlt)]
  simp

theorem drop_eq_nil (hnone : text[p]? = none) : text.toList.drop p = [] := by
  simpa using hnone

/-- Positions are offered until the follow-up accepts one. -/
theorem offer_fst {accepts : Nat → Bool} (hk : ∀ p t, (k.run p t).1 = accepts p) (ps : List Nat)
    (t : Track) : (offer inLoop k ps t).1 = ps.any accepts := by
  induction ps generalizing t with
  | nil => rfl
  | cons p ps ih =>
    have hp := hk p { t with reached := p }
    rw [offer, List.any_cons]
    split
    · next hrun =>
      rw [hrun] at hp
      rw [← hp]
      rfl
    · next hrun =>
      rw [hrun] at hp
      rw [← hp, ih]
      rfl

theorem countFrom_eq (takes : Char → Bool) (most p : Nat) :
    countFrom text takes most p = (((text.toList.drop p).take most).takeWhile takes).length := by
  induction most generalizing p with
  | zero => simp [countFrom]
  | succ most ih =>
    rw [countFrom, ih]
    rcases hp : text[p]? with _ | c
    · simp [drop_eq_nil hp]
    · rw [drop_eq_cons hp]
      by_cases htakes : takes c = true <;> simp [htakes]

theorem run_char (hcase : f.ignoreCase = false) (c : Char) :
    (Node.char c.toNat).run text widths f inLoop p t k =
      if text[p]? = some c then k.run (p + 1) t else (false, t) := by
  have htakes (d : Char) : sameChar f c.toNat d = true ↔ d = c := by
    rw [sameChar, isExact, hcase, if_pos (by rfl), beq_iff_eq, Char.toNat_inj, eq_comm]
  simp only [Node.run, Node.takes?]
  rcases text[p]? with _ | d
  · simp
  · simp only [htakes, Option.some.injEq]

/-- Characters that are taken as they are written stand at the position. -/
theorem runAll_chars (hcase : f.ignoreCase = false) (cs : List Char) (ns : List Node) (p : Nat)
    (t : Track) :
    (runAll text widths f inLoop (cs.map (.char ·.toNat) ++ ns) p t k).1 =
      (cs.isPrefixOf (text.toList.drop p) &&
        (runAll text widths f inLoop ns (p + cs.length) t k).1) := by
  induction cs generalizing p with
  | nil => rfl
  | cons c cs ih =>
    rw [List.map_cons, List.cons_append, runAll, run_char hcase]
    split
    · next hp =>
      rw [drop_eq_cons hp, ih, List.isPrefixOf_cons_cons_self, List.length_cons, Nat.add_right_comm,
        Nat.add_assoc]
    · next hp =>
      rcases hd : text[p]? with _ | d
      · simp [drop_eq_nil hd]
      · rw [hd] at hp
        rw [drop_eq_cons hd]
        have hne : (c == d) = false := by
          rw [beq_eq_false_iff_ne]
          rintro rfl
          exact hp rfl
        simp [List.isPrefixOf, hne]

/-- In a text without line breaks a line ends where the text does. -/
theorem runAll_lineEnd (hline : '\n' ∉ text.toList) (p : Nat) (t : Track) :
    (runAll text widths f inLoop [.anchor .lineEnd] p t .done).1 = (p == text.size) := by
  have hbreak : (text[p]? == some '\n') = false := by
    rw [beq_eq_false_iff_ne]
    exact fun hp => hline (Array.mem_toList_iff.mpr (Array.mem_of_getElem? hp))
  rw [runAll, Node.run, Anchor.holds, hbreak, Bool.false_and, Bool.or_false]
  cases p == text.size <;> rfl

/-- The end of a text is among the positions that a repetition offers if it can take all that is
left. -/
theorem any_offers_eq_all {takes : Char → Bool} {rest : List Char} {size : Nat} (hp : p ≤ size)
    (hrest : rest.length = size - p) :
    ((List.range ((rest.takeWhile takes).length + 1)).map fun i =>
      p + (rest.takeWhile takes).length - i).any (· == size) = rest.all takes := by
  have hrun := Text.run_takeWhile takes rest
  rw [Bool.eq_iff_iff, List.any_eq_true, List.all_eq_true]
  constructor
  · rintro ⟨q, hq, hsize⟩
    obtain ⟨i, -, rfl⟩ := List.mem_map.mp hq
    have hsize := beq_iff_eq.mp hsize
    have hall : rest.takeWhile takes = rest :=
      (List.takeWhile_prefix takes).eq_of_length_le (by omega)
    rw [hall] at hrun
    exact hrun.all
  · intro hall
    have hwhole : Text.Run takes rest [] rest := ⟨(List.append_nil rest).symm, hall, nofun⟩
    refine ⟨size, List.mem_map.mpr ⟨0, by simp, ?_⟩, by simp⟩
    rw [hwhole.takeWhile_eq]
    omega

/-- As many characters of a set as there are, up to the end of a text without line breaks. -/
theorem runAll_loop {items : List Item} (hitems : ∀ n, items ≠ [.char n])
    (hline : '\n' ∉ text.toList) (hp : p ≤ text.size) (t : Track) :
    (runAll text widths f inLoop [.loop .greedy 0 none [.set false items], .anchor .lineEnd] p t
      .done).1 = (text.toList.drop p).all (setTakes f false items) := by
  have htakes : (Node.set false items).takes? f = some (setTakes f false items) := by
    rw [Node.takes?]
    exact hitems
  have hunit : unit? f [.set false items] = some (f, .set false items) := by
    simp [unit?, Node.unit?, htakes]
  have hcount : countFrom text (setTakes f false items) (text.size - p) p =
      ((text.toList.drop p).takeWhile (setTakes f false items)).length := by
    rw [countFrom_eq, List.take_of_length_le (by simp)]
  rw [runAll, Node.run, hunit]
  simp only [htakes, Option.getD_some, repeatChar, Nat.not_lt_zero, if_false, Option.getD_none,
    Nat.min_self, hcount, leadAll, Node.lead, Nat.sub_zero]
  rw [offer_fst fun q t => runAll_lineEnd hline q t, any_offers_eq_all hp (by simp)]

end PerlVet.Pattern
