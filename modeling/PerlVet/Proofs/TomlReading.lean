import PerlVet.Toml.Parser

/-!
What the readers of TOML documents take, and when they complain about digits. Every reader takes
from the front of the text and leaves the rest as it was: `Takes` says so of those that may find
nothing, `Sound` of those that may find a fault, along with the fact that a fault for too many
digits is found where there are too many. Both hold of a reader if they hold of its parts, and so of
a whole document (`parse_digits`).
-/

namespace PerlVet.Toml

variable {α β : Type} {cs cs' rest ds : List Char} {count : Nat}

/-! ## Readers that may find nothing -/

/-- What is found is taken from the front of the text. -/
def Takes (cs : List Char) (found : Option (α × List Char)) : Prop :=
  ∀ a rest, found = some (a, rest) → rest <:+ cs

theorem takes_none : Takes cs (none : Option (α × List Char)) := nofun

theorem takes_some {a : α} (h : rest <:+ cs) : Takes cs (some (a, rest)) := by
  intro a' rest' heq
  cases heq
  exact h

theorem Takes.mono {found : Option (α × List Char)} (h : Takes cs' found) (hsuffix : cs' <:+ cs) :
    Takes cs found := fun a rest heq => (h a rest heq).trans hsuffix

theorem Takes.cons {found : Option (α × List Char)} (h : Takes cs found) (c : Char) :
    Takes (c :: cs) found := h.mono (List.suffix_cons c cs)

theorem Takes.map {found : Option (α × List Char)} {g : α × List Char → β × List Char}
    (h : Takes cs found) (hg : ∀ x, (g x).2 = x.2) : Takes cs (found.map g) := by
  intro b rest heq
  obtain ⟨x, hx, hgx⟩ := Option.map_eq_some_iff.mp heq
  have hrest : x.2 = rest := (hg x).symm.trans (congrArg Prod.snd hgx)
  rw [← hrest]
  exact h x.1 x.2 hx

theorem takes_bind {o : Option β} {f : β → Option (α × List Char)}
    (h : ∀ b, o = some b → Takes cs (f b)) : Takes cs (o.bind f) := by
  intro a rest heq
  obtain ⟨b, hb, hfb⟩ := Option.bind_eq_some_iff.mp heq
  exact h b hb a rest hfb

/-- What is found is worked on, and the rest stays the rest. -/
theorem Takes.follow {found : Option (α × List Char)} (h : Takes cs found) (f : α → Option β) :
    Takes cs (found.bind fun (a, rest) => (f a).map fun b => (b, rest)) := by
  refine takes_bind fun x hx => ?_
  intro b rest heq
  obtain ⟨b', -, hb'⟩ := Option.map_eq_some_iff.mp heq
  cases hb'
  exact h x.1 x.2 hx

theorem skipSpace_suffix (cs : List Char) : skipSpace cs <:+ cs := List.dropWhile_suffix _

theorem skipComment_suffix (h : skipComment cs = some rest) : rest <:+ cs := by
  unfold skipComment at h
  split at h
  · dsimp only at h
    split at h
    · cases h
    · cases h
      exact (List.drop_suffix _ _).trans (List.suffix_cons _ _)
  · cases h
    exact List.suffix_rfl

theorem skipGaps_suffix {fuel : Nat} (h : skipGaps fuel cs = some rest) : rest <:+ cs := by
  induction fuel generalizing cs with
  | zero =>
    cases h
    exact List.suffix_rfl
  | succ fuel ih =>
    have hgaps : cs.dropWhile isGap <:+ cs := List.dropWhile_suffix _
    rw [skipGaps] at h
    split at h
    · obtain ⟨after, hafter, hrest⟩ := Option.bind_eq_some_iff.mp h
      exact ((ih hrest).trans (skipComment_suffix hafter)).trans hgaps
    · cases h
      exact hgaps

theorem lineJoin?_suffix (h : lineJoin? cs = some rest) : rest <:+ cs := by
  unfold lineJoin? at h
  have hspace := skipSpace_suffix cs
  split at h
  · next after heq =>
    cases h
    rw [heq] at hspace
    exact ((List.dropWhile_suffix _).trans (List.suffix_cons _ _)).trans hspace
  · cases h
    exact List.nil_suffix
  · cases h

theorem basicText_takes (multiline : Bool) (fuel : Nat) (cs : List Char) :
    Takes cs (basicText multiline fuel cs) := by
  fun_induction basicText multiline fuel cs with
  | case3 => exact takes_some (by simp [List.suffix_cons_iff])
  | case4 _ _ _ _ _ ih =>
    refine Takes.cons ?_ _
    exact (ih _).map fun _ => rfl
  | case5 => exact takes_some (List.suffix_cons _ _)
  | case7 _ _ _ _ ih | case9 _ _ _ _ ih =>
    refine ((takes_bind fun c _ => ?_).cons _).cons _
    exact ((ih _).mono (List.drop_suffix _ _)).map fun _ => rfl
  | case10 _ _ _ _ _ _ ih =>
    refine (takes_bind fun after hafter => ?_).cons _
    exact (ih after).mono (lineJoin?_suffix hafter)
  | case11 _ _ _ _ _ _ _ ih =>
    refine ((takes_bind fun c _ => ?_).cons _).cons _
    exact (ih _).map fun _ => rfl
  | case13 _ _ _ _ _ _ _ _ _ ih =>
    refine Takes.cons ?_ _
    exact (ih _).map fun _ => rfl
  | _ => exact takes_none

theorem literalText_takes (cs : List Char) : Takes cs (literalText cs) := by
  unfold literalText
  dsimp only
  split
  · next quote rest hrest =>
    split
    · exact takes_none
    · refine takes_some ((List.suffix_cons quote rest).trans ?_)
      rw [← hrest]
      exact List.drop_suffix _ _
  · exact takes_none

theorem literalLines_takes (cs : List Char) : Takes cs (literalLines cs) := by
  fun_induction literalLines cs with
  | case1 => exact takes_none
  | case2 => exact takes_some (by simp [List.suffix_cons_iff])
  | case3 => exact takes_none
  | case4 _ _ _ _ ih =>
    refine Takes.cons ?_ _
    exact ih.map fun _ => rfl

theorem dropFirstNewline_suffix (cs : List Char) : dropFirstNewline cs <:+ cs := by
  unfold dropFirstNewline
  split
  · exact List.suffix_cons _ _
  · exact List.suffix_rfl

theorem Takes.extraQuotes {found : Option (List Char × List Char)} (h : Takes cs found)
    (quote : Char) : Takes cs (found.map fun (t, rest) => extraQuotes quote t rest) := by
  intro a rest heq
  obtain ⟨x, hx, hquotes⟩ := Option.map_eq_some_iff.mp heq
  have hrest : (Toml.extraQuotes quote x.1 x.2).2 = rest := congrArg Prod.snd hquotes
  rw [← hrest]
  exact (List.drop_suffix _ _).trans (h x.1 x.2 hx)

theorem readText_takes (cs : List Char) : Takes cs (readText cs) := by
  unfold readText
  split
  · refine ((Takes.extraQuotes ?_ _).cons _).cons _ |>.cons _
    exact (basicText_takes _ _ _).mono (dropFirstNewline_suffix _)
  · exact (basicText_takes _ _ _).cons _
  · refine ((Takes.extraQuotes ?_ _).cons _).cons _ |>.cons _
    exact (literalLines_takes _).mono (dropFirstNewline_suffix _)
  · exact (literalText_takes _).cons _
  · exact takes_none

/-! ## Numbers -/

/-- The digits are those of a run of digits and underscores in front of the rest. -/
structure Digits (ok : Char → Bool) (cs ds rest run : List Char) : Prop where
  text : cs = run ++ rest
  chars : ∀ c ∈ run, ok c = true ∨ c = '_'
  digits : ok '_' = false → ds = run.filter ok

theorem Digits.cons {ok : Char → Bool} {run : List Char} {c : Char}
    (h : Digits ok cs ds rest run) (hc : ok c = true) :
    Digits ok (c :: cs) (c :: ds) rest (c :: run) where
  text := congrArg (c :: ·) h.text
  chars := List.forall_mem_cons.mpr ⟨.inl hc, h.chars⟩
  digits := by
    intro hunderscore
    rw [List.filter_cons_of_pos hc, ← h.digits hunderscore]

theorem Digits.underscore {ok : Char → Bool} {run : List Char}
    (h : Digits ok cs ds rest run) : Digits ok ('_' :: cs) ds rest ('_' :: run) where
  text := congrArg ('_' :: ·) h.text
  chars := List.forall_mem_cons.mpr ⟨.inr rfl, h.chars⟩
  digits := by
    intro hunderscore
    rw [List.filter_cons_of_neg (by simp [hunderscore]), ← h.digits hunderscore]

theorem digits_nil (ok : Char → Bool) (cs : List Char) : Digits ok cs [] cs [] where
  text := rfl
  chars := nofun
  digits := fun _ => rfl

theorem moreDigits_digits (ok : Char → Bool) (cs : List Char) :
    ∃ run, Digits ok cs (moreDigits ok cs).1 (moreDigits ok cs).2 run := by
  fun_induction moreDigits ok cs with
  | case1 c cs hc ds rest hmore ih =>
    obtain ⟨run, hrun⟩ := ih
    rw [hmore] at hrun
    exact ⟨_, (hrun.cons hc).underscore⟩
  | case3 c cs _ hc ds rest hmore ih =>
    obtain ⟨run, hrun⟩ := ih
    rw [hmore] at hrun
    exact ⟨_, hrun.cons hc⟩
  | _ => exact ⟨[], digits_nil _ _⟩

theorem digits?_digits {ok : Char → Bool} (h : digits? ok cs = some (ds, rest)) :
    ∃ run, Digits ok cs ds rest run := by
  unfold digits? at h
  split at h
  · next c cs =>
    split at h
    · next hc =>
      cases h
      obtain ⟨run, hrun⟩ := moreDigits_digits ok cs
      exact ⟨_, hrun.cons hc⟩
    · cases h
  · cases h

theorem Digits.suffix {ok : Char → Bool} {run : List Char} (h : Digits ok cs ds rest run) :
    rest <:+ cs := by
  rw [h.text]
  exact List.suffix_append _ _

theorem digits?_takes (ok : Char → Bool) (cs : List Char) : Takes cs (digits? ok cs) := by
  intro ds rest h
  obtain ⟨run, hrun⟩ := digits?_digits h
  exact hrun.suffix

/-- The text holds a run of digits, perhaps with underscores among them, that has more digits than
can be read. -/
structure HasLongRun (cs : List Char) (count : Nat) : Prop where
  long : Text.maxDigits < count
  run : ∃ run, run <:+: cs ∧ (∀ c ∈ run, c.isDigit = true ∨ c = '_') ∧
    (run.filter Char.isDigit).length = count

theorem HasLongRun.mono (h : HasLongRun cs' count) (hsuffix : cs' <:+ cs) :
    HasLongRun cs count := by
  obtain ⟨run, hrun, hchars, hcount⟩ := h.run
  exact ⟨h.long, run, hrun.trans hsuffix.isInfix, hchars, hcount⟩

/-! ## Readers that may find a fault -/

/-- What is found is taken from the front of the text, and if there is a fault for too many digits,
the text holds that many. -/
structure Sound (cs : List Char) (found : Read α) : Prop where
  takes : ∀ {a rest}, found = .ok (a, rest) → rest <:+ cs
  digits : ∀ {e : Text.TooManyDigits}, found = .error (.digits e) → HasLongRun cs e.count

theorem sound_rules : Sound cs (.error .rules : Read α) := ⟨nofun, nofun⟩

theorem sound_ok {a : α} (h : rest <:+ cs) : Sound cs (.ok (a, rest) : Read α) := by
  refine ⟨fun heq => ?_, nofun⟩
  cases heq
  exact h

theorem Sound.mono {found : Read α} (h : Sound cs' found) (hsuffix : cs' <:+ cs) :
    Sound cs found :=
  ⟨fun heq => (h.takes heq).trans hsuffix, fun heq => (h.digits heq).mono hsuffix⟩

theorem Sound.cons {found : Read α} (h : Sound cs found) (c : Char) : Sound (c :: cs) found :=
  h.mono (List.suffix_cons c cs)

theorem Sound.map {found : Read α} {g : α × List Char → β × List Char} (h : Sound cs found)
    (hg : ∀ x, (g x).2 = x.2) : Sound cs (found.map g) := by
  cases found with
  | error e =>
    refine ⟨nofun, fun heq => ?_⟩
    cases heq
    exact h.digits rfl
  | ok x =>
    have hrest := sound_ok (a := (g x).1) (h.takes (rfl : Except.ok x = .ok (x.1, x.2)))
    rw [← hg x] at hrest
    exact hrest

theorem Takes.sound {found : Option (α × List Char)} (h : Takes cs found) :
    Sound cs (orRules found) := by
  cases found with
  | none => exact sound_rules
  | some x => exact sound_ok (h x.1 x.2 rfl)

theorem isDigit_underscore : Char.isDigit '_' = false := by decide

/-- The digits of the whole part of a number are a run in the text. -/
theorem wholePart?_digits {whole : List Char} (h : wholePart? cs = some (whole, rest)) :
    ∃ run, Digits Char.isDigit cs whole rest run := by
  unfold wholePart? at h
  split at h
  · cases h
    exact ⟨['0'], (digits_nil _ _).cons (by decide)⟩
  · exact digits?_digits h

theorem fraction?_takes (cs : List Char) : Takes cs (fraction? cs) := by
  unfold fraction?
  split
  · exact (digits?_takes _ _).cons _
  · exact takes_none

theorem exponent?_takes (cs : List Char) : Takes cs (exponent? cs) := by
  unfold exponent?
  split
  · next e cs =>
    split
    · refine Takes.cons ?_ e
      dsimp only
      split
      · exact ((digits?_takes _ _).cons _).map fun _ => rfl
      · exact ((digits?_takes _ _).cons _).map fun _ => rfl
      · exact (digits?_takes _ _).map fun _ => rfl
    · exact takes_none
  · exact takes_none

/-- What follows a part that may be missing. -/
theorem Takes.getD {found : Option (α × List Char)} (h : Takes cs found) :
    (found.map (·.2)).getD cs <:+ cs := by
  cases found with
  | none => exact List.suffix_rfl
  | some x => exact h x.1 x.2 rfl

theorem decimal_sound (negative : Bool) (cs : List Char) : Sound cs (decimal negative cs) := by
  unfold decimal
  split
  · exact sound_rules
  · next whole rest hwhole =>
    obtain ⟨run, hrun⟩ := wholePart?_digits hwhole
    have hrest : ((exponent? (((fraction? rest).map (·.2)).getD rest)).map (·.2)).getD
        (((fraction? rest).map (·.2)).getD rest) <:+ cs :=
      ((exponent?_takes _).getD.trans (fraction?_takes rest).getD).trans hrun.suffix
    dsimp only
    split
    · split
      · next hlong =>
        refine ⟨nofun, fun heq => ?_⟩
        cases heq
        refine ⟨hlong, run, ?_, hrun.chars, ?_⟩
        · exact ⟨[], rest, by rw [hrun.text]; rfl⟩
        · rw [← hrun.digits isDigit_underscore]
      · exact sound_ok hrest
    · exact sound_ok hrest

theorem namedNumber?_takes (negative : Bool) (cs : List Char) :
    Takes cs (namedNumber? negative cs) := by
  unfold namedNumber?
  split
  · exact takes_some (by simp [List.suffix_cons_iff])
  · exact takes_some (by simp [List.suffix_cons_iff])
  · exact takes_none

theorem readNumber_sound (cs : List Char) : Sound cs (readNumber cs) := by
  have hnamed {negative cs r} (h : namedNumber? negative cs = some r) : Sound cs (.ok r) :=
    sound_ok (namedNumber?_takes negative cs r.1 r.2 h)
  unfold readNumber
  dsimp only
  split
  case h_1 | h_2 =>
    split
    · next h => exact (hnamed h).cons _
    · exact (decimal_sound _ _).cons _
  case h_3 letter rest =>
    split
    · next base ds rest' hbase =>
      obtain ⟨⟨base', ok⟩, -, hmap⟩ := Option.bind_eq_some_iff.mp hbase
      obtain ⟨r, hdigits, heq⟩ := Option.map_eq_some_iff.mp hmap
      cases heq
      exact (sound_ok (digits?_takes ok rest ds rest' hdigits)).cons letter |>.cons _
    · exact decimal_sound _ _
  case h_4 =>
    split
    · next h => exact hnamed h
    · exact decimal_sound _ _

/-! ## Dates and times -/

theorem twoDigits?_takes (most : Nat) (cs : List Char) : Takes cs (twoDigits? most cs) := by
  unfold twoDigits?
  split
  · dsimp only
    split
    · exact takes_some (by simp [List.suffix_cons_iff])
    · exact takes_none
  · exact takes_none

theorem expect?_suffix {c : Char} (h : expect? c cs = some rest) : rest <:+ cs := by
  unfold expect? at h
  split at h
  · split at h
    · cases h
      exact List.suffix_cons _ _
    · cases h
  · cases h

theorem time?_suffix (h : time? cs = some rest) : rest <:+ cs := by
  simp only [time?, Option.bind_eq_bind, Option.bind_eq_some_iff] at h
  obtain ⟨⟨hour, cs₁⟩, h₁, cs₂, h₂, ⟨minute, cs₃⟩, h₃, cs₄, h₄, ⟨second, cs₅⟩, h₅, h⟩ := h
  have hcs₅ : cs₅ <:+ cs :=
    (twoDigits?_takes _ _ _ _ h₅).trans <| (expect?_suffix h₄).trans <|
      (twoDigits?_takes _ _ _ _ h₃).trans <| (expect?_suffix h₂).trans (twoDigits?_takes _ _ _ _ h₁)
  split at h
  · next d after hfraction =>
    split at h
    · cases h
      obtain rfl : cs₅ = '.' :: d :: after := hfraction
      have hafter : after <:+ '.' :: d :: after :=
        (List.suffix_cons _ _).trans (List.suffix_cons _ _)
      exact ((List.dropWhile_suffix _).trans hafter).trans hcs₅
    · cases h
      exact hcs₅
  · cases h
    exact hcs₅

theorem dropOffset_suffix (cs : List Char) : dropOffset cs <:+ cs := by
  unfold dropOffset
  split
  case h_1 | h_2 => exact List.suffix_cons _ _
  case h_3 | h_4 =>
    split
    · next rest' hhour =>
      split
      · next hminute =>
        have hrest' := (List.suffix_cons _ _).trans (twoDigits?_takes _ _ _ _ hhour)
        exact ((twoDigits?_takes _ _ _ _ hminute).trans hrest').trans (List.suffix_cons _ _)
      · exact List.suffix_rfl
    · exact List.suffix_rfl
  case h_5 => exact List.suffix_rfl

theorem date?_takes (cs : List Char) : Takes cs (date? cs) := by
  intro valid rest h
  simp only [date?, Option.bind_eq_bind] at h
  split at h
  · cases h
  · simp only [Option.bind_eq_some_iff] at h
    obtain ⟨cs₁, h₁, ⟨month, cs₂⟩, h₂, cs₃, h₃, ⟨day, cs₄⟩, h₄, h⟩ := h
    have hcs₄ : cs₄ <:+ cs :=
      (twoDigits?_takes _ _ _ _ h₄).trans <| (expect?_suffix h₃).trans <|
        (twoDigits?_takes _ _ _ _ h₂).trans <| (expect?_suffix h₁).trans (List.drop_suffix 4 cs)
    split at h
    · cases h
    · cases h
      exact hcs₄

theorem moment?_takes (cs : List Char) : Takes cs (moment? cs) := by
  unfold moment?
  split
  · next valid rest hdate =>
    have hrest := date?_takes _ _ _ hdate
    refine takes_some (List.IsSuffix.trans ?_ hrest)
    split
    · next sep after =>
      split
      · split
        · next hdone htime =>
          exact ((dropOffset_suffix _).trans (time?_suffix htime)).trans (List.suffix_cons _ _)
        · exact List.suffix_rfl
      · exact List.suffix_rfl
    · exact List.suffix_rfl
  · intro m rest h
    obtain ⟨rest', htime, heq⟩ := Option.map_eq_some_iff.mp h
    cases heq
    exact time?_suffix htime

/-! ## Keys, values and statements -/

theorem readKeyPart_takes (cs : List Char) : Takes cs (readKeyPart cs) := by
  unfold readKeyPart
  split
  · refine Takes.cons ?_ _
    exact (basicText_takes _ _ _).map fun _ => rfl
  · refine Takes.cons ?_ _
    exact (literalText_takes _).map fun _ => rfl
  · dsimp only
    split
    · exact takes_none
    · exact takes_some (List.drop_suffix _ _)

theorem readKey_takes (fuel : Nat) (cs : List Char) : Takes cs (readKey fuel cs) := by
  induction fuel generalizing cs with
  | zero => exact takes_none
  | succ fuel ih =>
    rw [readKey]
    split
    · exact takes_none
    · next part rest hpart =>
      have hspace := (skipSpace_suffix rest).trans (readKeyPart_takes _ _ _ hpart)
      split
      · next after hdot =>
        rw [hdot] at hspace
        refine Takes.mono ?_ ((List.suffix_cons _ _).trans hspace)
        exact ((ih _).mono (skipSpace_suffix _)).map fun _ => rfl
      · exact takes_some hspace

/-- All readers of values are sound, with any fuel. -/
structure AllSound (fuel : Nat) : Prop where
  value : ∀ cs, Sound cs (readValue fuel cs)
  items : ∀ cs, Sound cs (readItems fuel cs)
  inline : ∀ d cs, Sound cs (readInline fuel d cs)
  entry : ∀ cs, Sound cs (readEntry fuel cs)

theorem AllSound.readValue {fuel : Nat} (h : AllSound fuel) (cs : List Char) :
    Sound cs (readValue (fuel + 1) cs) := by
  unfold Toml.readValue
  dsimp only
  split
  · exact (readText_takes _).sound.map fun _ => rfl
  · exact (readText_takes _).sound.map fun _ => rfl
  · exact sound_ok (by simp [List.suffix_cons_iff])
  · exact sound_ok (by simp [List.suffix_cons_iff])
  · refine Sound.cons ?_ _
    exact (h.items _).map fun _ => rfl
  · next rest =>
    refine Sound.cons ?_ _
    have hspace := skipSpace_suffix rest
    split
    · next after heq =>
      rw [heq] at hspace
      exact sound_ok ((List.suffix_cons _ _).trans hspace)
    · exact ((h.inline _ _).mono hspace).map fun _ => rfl
  · split
    · next m rest hmoment => exact sound_ok (moment?_takes _ _ _ hmoment)
    · exact sound_rules
    · exact readNumber_sound _

theorem AllSound.readItems {fuel : Nat} (h : AllSound fuel) (cs : List Char) :
    Sound cs (readItems (fuel + 1) cs) := by
  rw [Toml.readItems]
  split
  · exact sound_rules
  · next rest hgaps =>
    exact sound_ok ((List.suffix_cons _ _).trans (skipGaps_suffix hgaps))
  · next cs' hne hgaps =>
    have hcs' := skipGaps_suffix hgaps
    split
    · next e hvalue =>
      refine ⟨nofun, fun heq => ?_⟩
      cases heq
      exact ((h.value cs').digits hvalue).mono hcs'
    · next v rest hvalue =>
      have hrest := ((h.value cs').takes hvalue).trans hcs'
      split
      · next after hgaps' =>
        exact sound_ok ((List.suffix_cons _ _).trans ((skipGaps_suffix hgaps').trans hrest))
      · next after hgaps' =>
        refine Sound.mono ?_ ((List.suffix_cons _ _).trans ((skipGaps_suffix hgaps').trans hrest))
        exact (h.items _).map fun _ => rfl
      · exact sound_rules

theorem AllSound.readInline {fuel : Nat} (h : AllSound fuel) (d : Inline) (cs : List Char) :
    Sound cs (readInline (fuel + 1) d cs) := by
  rw [Toml.readInline]
  split
  · next e hentry =>
    refine ⟨nofun, fun heq => ?_⟩
    cases heq
    exact (h.entry cs).digits hentry
  · next key v rest hentry =>
    have hspace := (skipSpace_suffix rest).trans ((h.entry cs).takes hentry)
    split
    · exact sound_rules
    · split
      · next after heq =>
        rw [heq] at hspace
        exact sound_ok ((List.suffix_cons _ _).trans hspace)
      · next after heq =>
        rw [heq] at hspace
        exact (h.inline _ _).mono
          ((skipSpace_suffix after).trans ((List.suffix_cons _ _).trans hspace))
      · exact sound_rules

theorem AllSound.readEntry {fuel : Nat} (h : AllSound fuel) (cs : List Char) :
    Sound cs (readEntry (fuel + 1) cs) := by
  rw [Toml.readEntry]
  split
  · next key rest hkey =>
    have hrest := (List.suffix_cons _ _).trans (readKey_takes _ _ _ _ hkey)
    exact ((h.value _).mono ((skipSpace_suffix rest).trans hrest)).map fun _ => rfl
  · exact sound_rules

theorem allSound (fuel : Nat) : AllSound fuel := by
  induction fuel with
  | zero =>
    exact ⟨fun _ => sound_rules, fun _ => sound_rules, fun _ _ => sound_rules, fun _ => sound_rules⟩
  | succ fuel ih => exact ⟨ih.readValue, ih.readItems, ih.readInline, ih.readEntry⟩

theorem readHeader_takes (closing cs : List Char) : Takes cs (readHeader closing cs) := by
  unfold readHeader
  split
  · next key rest hkey =>
    have hrest := (readKey_takes _ _ _ _ hkey).trans (skipSpace_suffix cs)
    split
    · exact takes_some ((List.drop_suffix _ _).trans hrest)
    · exact takes_none
  · exact takes_none

theorem readStatement_sound (d : Draft) (cs : List Char) : Sound cs (readStatement d cs) := by
  unfold readStatement
  split
  · refine ((Takes.sound ?_).cons _).cons _
    exact (readHeader_takes _ _).follow _
  · refine (Takes.sound ?_).cons _
    exact (readHeader_takes _ _).follow _
  · have hsound := (allSound (2 * cs.length + 2)).entry cs
    split
    · next e hentry =>
      refine ⟨nofun, fun heq => ?_⟩
      cases heq
      exact hsound.digits hentry
    · next key v rest hentry =>
      refine Takes.sound fun d' rest' heq => ?_
      obtain ⟨d'', -, hd''⟩ := Option.map_eq_some_iff.mp heq
      cases hd''
      exact hsound.takes hentry

theorem readStatements_digits {fuel : Nat} {d : Draft} {e : Text.TooManyDigits}
    (h : readStatements fuel d cs = .error (.digits e)) : HasLongRun cs e.count := by
  induction fuel generalizing d cs with
  | zero => cases h
  | succ fuel ih =>
    rw [readStatements] at h
    have hspace := skipSpace_suffix cs
    split at h
    · cases h
    · next rest heq =>
      rw [heq] at hspace
      exact (ih h).mono ((List.suffix_cons _ _).trans hspace)
    · next c rest _ heq =>
      rw [heq] at hspace
      have hstatement : Sound (c :: rest)
          (if c == '#' then .ok (d, c :: rest) else readStatement d (c :: rest) : Read Draft) := by
        split
        · exact sound_ok List.suffix_rfl
        · exact readStatement_sound d _
      dsimp only at h
      split at h
      · next e' herror =>
        cases h
        exact (hstatement.digits herror).mono hspace
      · next d' rest' hok =>
        have hrest' := (skipSpace_suffix rest').trans ((hstatement.takes hok).trans hspace)
        split at h
        · cases h
        · next after hcomment =>
          have hafter := (List.suffix_cons _ _).trans (skipComment_suffix hcomment)
          exact (ih h).mono (hafter.trans hrest')
        · cases h

/-! ## Documents -/

/-- A text that starts a line of the document starts the document as it was written. -/
theorem prefix_of_plainNewlines {run : List Char} (hrun : '\n' ∉ run)
    (h : run <+: plainNewlines cs) : run <+: cs := by
  fun_induction plainNewlines cs generalizing run with
  | case1 cs ih =>
    rcases List.prefix_cons_iff.mp h with rfl | ⟨run, rfl, -⟩
    · exact List.nil_prefix
    · simp at hrun
  | case2 c cs _ ih =>
    rcases List.prefix_cons_iff.mp h with rfl | ⟨run, rfl, hprefix⟩
    · exact List.nil_prefix
    · have hrest := ih (fun hmem => hrun (List.mem_cons_of_mem c hmem)) hprefix
      exact (List.prefix_cons_inj c).mpr hrest
  | case3 => exact h

theorem infix_of_plainNewlines {run : List Char} (hrun : '\n' ∉ run)
    (h : run <:+: plainNewlines cs) : run <:+: cs := by
  fun_induction plainNewlines cs with
  | case1 cs ih =>
    rcases List.infix_cons_iff.mp h with hprefix | hinfix
    · rcases List.prefix_cons_iff.mp hprefix with rfl | ⟨run, rfl, -⟩
      · exact List.nil_infix
      · simp at hrun
    · exact (ih hinfix).trans ⟨['\r', '\n'], [], by simp⟩
  | case2 c cs hplain ih =>
    rcases List.infix_cons_iff.mp h with hprefix | hinfix
    · have heq : plainNewlines (c :: cs) = c :: plainNewlines cs := by
        rw [plainNewlines]
        exact hplain
      rw [← heq] at hprefix
      exact (prefix_of_plainNewlines hrun hprefix).isInfix
    · exact (ih hinfix).trans (List.suffix_cons c cs).isInfix
  | case3 => exact h

/-- A document that has a number with too many digits holds that many. -/
theorem parse_digits {e : Text.TooManyDigits} (h : parse cs = .error (.digits e)) :
    HasLongRun cs e.count := by
  have hstatements : readStatements ((plainNewlines cs).length + 1) {} (plainNewlines cs) =
      .error (.digits e) := by
    rw [parse] at h
    cases hread : readStatements ((plainNewlines cs).length + 1) {} (plainNewlines cs) with
    | error fault =>
      rw [hread] at h
      cases h
      rfl
    | ok d =>
      rw [hread] at h
      cases h
  obtain ⟨hlong, run, hrun, hchars, hcount⟩ := readStatements_digits hstatements
  -- The run has no newline, so carriage returns before newlines do not matter to it.
  refine ⟨hlong, run, infix_of_plainNewlines (fun hmem => ?_) hrun, hchars, hcount⟩
  exact absurd (hchars _ hmem) (by decide)

end PerlVet.Toml
