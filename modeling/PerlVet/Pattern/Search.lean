import PerlVet.Pattern.Member
import PerlVet.Pattern.Parser

/-!
Searching with a pattern. A part of a pattern is run at a position of the text together with what
is to follow; it offers the positions where it can end to the follow-up, in order of preference,
and the first one that the follow-up accepts wins.

A run leaves a track, also when it fails: the marks of the groups it went through and the position
it reached. Going back to a choice drops the marks that were set since then. Marks that were set
anew are brought back only inside a repetition, and a repetition that gives nothing back goes on
where its last, failed round got to.
-/

namespace PerlVet.Pattern

/-- What a run leaves behind. -/
structure Track where
  /-- Where a part was last tried or ended. -/
  reached : Nat
  /-- Starts and ends of groups: group `i` starts at mark `2 i - 2` and ends at mark `2 i - 1`. -/
  marks : Array (Option Nat) := #[]
  deriving DecidableEq, Repr

namespace Track

/-- Sets a mark; marks between the last one and it are unset. -/
def mark (t : Track) (i p : Nat) : Track :=
  let marks := t.marks ++ Array.replicate (i + 1 - t.marks.size) none
  { t with marks := marks.setIfInBounds i (some p) }

/-- The track with which a choice made at `before` goes on after a failure. -/
def back (inLoop : Bool) (before t : Track) : Track :=
  { t with marks := if inLoop then before.marks else t.marks.take before.marks.size }

/-- Where a group starts and ends. -/
def group? (t : Track) (i : Nat) : Option (Nat × Nat) :=
  match t.marks[2 * i - 2]?, t.marks[2 * i - 1]? with
  | some (some start), some (some stop) => if start ≤ stop then some (start, stop) else none
  | _, _ => none

end Track

/-- Whether a run succeeded, and its track. -/
abbrev Outcome := Bool × Track

/-- How parts begin, as far as it can be told from the next character. -/
inductive Lead where
  | char (code : Nat)
  | set (f : Flags) (negated : Bool) (items : List Item)
  | free

/-- The next character may begin the parts. -/
def Lead.admits (l : Lead) (next : Option Char) : Bool :=
  match l with
  | .char n => next.any (·.toNat == n)
  | .set f negated items => next.any (setTakes f negated items)
  | .free => true

mutual

/-- How a part begins that is followed by parts beginning with `next`. -/
def Node.lead (f : Flags) (next : Lead) : Node → Lead
  | .char n => if isExact f n then .char n else .free
  | .set _ [.char _] => .free
  | .set negated items => if foldsSet f items then .free else .set f negated items
  | .group none on off body => leadAll (f.inside on off) next body
  | _ => .free

/-- How parts begin. -/
def leadAll (f : Flags) (next : Lead) : List Node → Lead
  | [] => next
  | n :: ns => n.lead f (leadAll f next ns)

end

/-- What is to follow a part. -/
structure Follow where
  lead : Lead := .free
  run : Nat → Track → Outcome

/-- Nothing is to follow. -/
def Follow.done : Follow := { run := fun p t => (true, { t with reached := p }) }

/-- The character before a position is a word character. -/
def wordBefore (f : Flags) (text : Array Char) (p : Nat) : Bool :=
  p != 0 && (text[p - 1]?.any (Category.word.holds f))

/-- The character after a position is a word character. -/
def wordAfter (f : Flags) (text : Array Char) (p : Nat) : Bool :=
  text[p]?.any (Category.word.holds f)

/-- The condition holds at a position. An empty text has neither a boundary nor a place that is
none. -/
def Anchor.holds (f : Flags) (text : Array Char) (p : Nat) : Anchor → Bool
  | .textStart => p == 0
  | .textEnd => p == text.size
  | .lineStart => p == 0 || (f.multiLine && text[p - 1]? == some '\n')
  | .lineEnd =>
    p == text.size || (text[p]? == some '\n' && (f.multiLine || p + 1 == text.size))
  | .boundary => text.size != 0 && wordBefore f text p != wordAfter f text p
  | .notBoundary => text.size != 0 && wordBefore f text p == wordAfter f text p

/-- The `n` characters of the text from `start` on stand at `p` once more. -/
def standsAt (f : Flags) (text : Array Char) (start n p : Nat) : Bool :=
  (List.range n).all fun i =>
    match text[start + i]?, text[p + i]? with
    | some a, some b => a == b || (f.ignoreCase && foldCode f a.toNat == foldCode f b.toNat)
    | _, _ => false

/-- How many characters from `p` on satisfy `takes`, counting to `most`. -/
def countFrom (text : Array Char) (takes : Char → Bool) : Nat → Nat → Nat
  | 0, _ => 0
  | most + 1, p => if text[p]?.any takes then countFrom text takes most (p + 1) + 1 else 0

/-- Offers positions to the follow-up until it accepts one. -/
def offer (inLoop : Bool) (k : Follow) : List Nat → Track → Outcome
  | [], t => (false, t)
  | p :: ps, t =>
    match k.run p { t with reached := p } with
    | (true, t') => (true, t')
    | (false, t') => offer inLoop k ps (t.back inLoop t')

/-- Repeats a single character. Counting characters of a part that is `folded` moves the track
along. -/
def repeatChar (text : Array Char) (takes : Char → Bool) (folded inLoop : Bool) (greed : Greed)
    (lo : Nat) (hi : Option Nat) (k : Follow) (p : Nat) (t : Track) : Outcome :=
  let left := text.size - p
  if left < lo then (false, t)
  else
    let most := (hi.getD left).min left
    let counted (n : Nat) : Track := { t with reached := if folded then p + n else p }
    match greed with
    | .greedy =>
      let n := countFrom text takes most p
      if n < lo then (false, counted n)
      else
        let ends := (List.range (n + 1 - lo)).map fun i => p + n - i
        let ends := match k.lead with
          | .char c => ends.filter fun e => text[e]?.any (·.toNat == c)
          | _ => ends
        offer inLoop k ends (counted n)
    | .possessive =>
      let n := countFrom text takes most p
      if n < lo then (false, counted n) else k.run (p + n) (counted n)
    | .lazy =>
      let least := countFrom text takes lo p
      if least < lo then (false, counted least)
      else
        let n := countFrom text takes most p
        match offer inLoop k ((List.range (n + 1 - lo)).map fun i => p + lo + i) t with
        | (true, t') => (true, t')
        | (false, t') =>
          let more := folded && text[p + n]?.any takes
          (false, { t' with reached := if more then p + n + 1 else p + n })

/-- A part that can be run with a follow-up. -/
abbrev Run := Nat → Track → Follow → Outcome

/-- Repeats `body` between `lo` and `hi` times, as often as possible first. A round beyond the least
number starts only where the round before it did not start. -/
def repeatGreedy (body : Run) (lo : Nat) (hi : Option Nat) (k : Follow) :
    Nat → Nat → Option Nat → Nat → Track → Outcome
  | 0, _, _, _, t => (false, t)
  | fuel + 1, count, last, p, t =>
    let t := { t with reached := p }
    if count < lo then
      match body p t { run := repeatGreedy body lo hi k fuel (count + 1) last } with
      | (true, t') => (true, t')
      | (false, t') => (false, { t' with reached := p })
    else
      let more :=
        if hi.all (count < ·) && last != some p then
          body p t { run := repeatGreedy body lo hi k fuel (count + 1) (some p) }
        else (false, t)
      match more with
      | (true, t') => (true, t')
      | (false, t') =>
        match k.run p { t.back true t' with reached := p } with
        | (true, t') => (true, t')
        | (false, t') => (false, { t' with reached := p })

/-- Repeats `body` between `lo` and `hi` times, as seldom as possible first. -/
def repeatLazy (inLoop : Bool) (body : Run) (lo : Nat) (hi : Option Nat) (k : Follow) :
    Nat → Nat → Option Nat → Nat → Track → Outcome
  | 0, _, _, _, t => (false, t)
  | fuel + 1, count, last, p, t =>
    let t := { t with reached := p }
    let again (last : Option Nat) (t : Track) : Outcome :=
      match body p t { run := repeatLazy inLoop body lo hi k fuel (count + 1) last } with
      | (true, t') => (true, t')
      | (false, t') => (false, { t' with reached := p })
    if count < lo then again last t
    else
      match k.run p t with
      | (true, t') => (true, t')
      | (false, t') =>
        let t := { t.back inLoop t' with reached := p }
        if hi.all (count < ·) && last != some p then again (some p) t else (false, t)

/-- Repeats `body` between `lo` and `hi` times, each round standing once it has matched, and gives
the track of the last round. -/
def repeatPossessive (body : Run) (lo : Nat) (hi : Option Nat) :
    Nat → Nat → Option Nat → Track → Outcome
  | 0, _, _, t => (false, t)
  | fuel + 1, count, last, t =>
    if count < lo then
      match body t.reached t .done with
      | (true, t') => repeatPossessive body lo hi fuel (count + 1) last t'
      | (false, t') => (false, t')
    else if hi.all (count < ·) && last != some t.reached then
      match body t.reached t .done with
      | (true, t') => repeatPossessive body lo hi fuel (count + 1) (some t.reached) t'
      | (false, t') => (true, t.back true t')
    else (true, t)

/-- The single character that a part takes, within groups that only switch flags: the part that
takes it, and the flags it has. -/
def Node.unit? (f : Flags) : Node → Option (Flags × Node)
  | .group none on off [n] => n.unit? (f.inside on off)
  | n => if (n.takes? f).isSome then some (f, n) else none

/-- The single character that parts take. -/
def unit? (f : Flags) : List Node → Option (Flags × Node)
  | [n] => n.unit? f
  | _ => none

mutual

/-- Runs a part at a position with what is to follow; `inLoop` says that it is part of what a
repetition repeats. -/
def Node.run (text : Array Char) (widths : Nat → Width) (f : Flags) (inLoop : Bool) :
    Node → Nat → Track → Follow → Outcome
  | .anchor a, p, t, k => if a.holds f text p then k.run p t else (false, t)
  | .group (some i) on off body, p, t, k =>
    runAll text widths (f.inside on off) inLoop body p (t.mark (2 * i - 2) p)
      { run := fun p t => k.run p (t.mark (2 * i - 1) p) }
  | .group none on off body, p, t, k => runAll text widths (f.inside on off) inLoop body p t k
  | .atomic body, p, t, k =>
    match runAll text widths f inLoop body p { t with reached := p } .done with
    | (true, t') => k.run t'.reached t'
    | (false, t') => (false, { t' with reached := p })
  | .look behind negated body, p, t, k =>
    let width := if behind then (widthAll widths body).lo else 0
    if p < width then (if negated then k.run p t else (false, t))
    else
      let start := p - width
      match runAll text widths f inLoop body start { t with reached := start } .done with
      | (true, t') => if negated then (false, t') else k.run p t'
      | (false, t') => if negated then k.run p (t.back inLoop t') else (false, t')
  | .loop greed lo hi body, p, t, k =>
    match unit? f body with
    | some (f, n) =>
      repeatChar text ((n.takes? f).getD fun _ => false) (n.isFolded f) inLoop greed lo hi k p t
    | none =>
      let fuel := lo + text.size + 3
      let t := { t with reached := p }
      match greed with
      | .greedy =>
        repeatGreedy (runAll text widths f true body) lo hi k fuel 0 none p t
      | .lazy =>
        repeatLazy inLoop (runAll text widths f true body) lo hi k fuel 0 none p t
      | .possessive =>
        match repeatPossessive (runAll text widths f inLoop body) lo hi fuel 0 none t with
        | (true, t') => k.run t'.reached t'
        | (false, t') => (false, { t' with reached := p })
  | .choice branches, p, t, k => runAny text widths f inLoop branches p t { run := k.run }
  | .backref n, p, t, k =>
    match t.group? n with
    | some (start, stop) =>
      if standsAt f text start (stop - start) p then k.run (p + (stop - start)) t else (false, t)
    | none => (false, t)
  | .conditional n yes no, p, t, k =>
    if (t.group? n).isSome then
      runAll text widths f inLoop yes p t { k with lead := if no.isEmpty then k.lead else .free }
    else runAll text widths f inLoop no p t k
  | n, p, t, k =>
    match n.takes? f, text[p]? with
    | some takes, some c => if takes c then k.run (p + 1) t else (false, t)
    | _, _ => (false, t)

/-- Runs parts one after the other. -/
def runAll (text : Array Char) (widths : Nat → Width) (f : Flags) (inLoop : Bool) :
    List Node → Nat → Track → Follow → Outcome
  | [], p, t, k => k.run p t
  | n :: ns, p, t, k =>
    n.run text widths f inLoop p t
      { lead := leadAll f k.lead ns
        run := fun p t => runAll text widths f inLoop ns p t k }

/-- Runs branches in order until one leads to a match; a branch that cannot begin with the next
character is passed over. -/
def runAny (text : Array Char) (widths : Nat → Width) (f : Flags) (inLoop : Bool) :
    List (List Node) → Nat → Track → Follow → Outcome
  | [], _, t, _ => (false, t)
  | b :: bs, p, t, k =>
    if (leadAll f .free b).admits text[p]? then
      match runAll text widths f inLoop b p { t with reached := p } k with
      | (true, t') => (true, t')
      | (false, t') => runAny text widths f inLoop bs p (t.back inLoop t') k
    else runAny text widths f inLoop bs p t k

end

/-- Where a search tries a pattern. -/
inductive Entry where
  /-- Wherever enough characters are left. -/
  | anywhere
  /-- Wherever a character is left. -/
  | anyChar
  /-- At the characters of a set. -/
  | set (negated : Bool) (items : List Item)

mutual

/-- The part begins with a character that is taken as it is written; none if the part is empty. -/
def Node.beginsExact? (f : Flags) : Node → Option Bool
  | .char n => some (isExact f n)
  | .group _ on off body => beginExact? (f.inside on off) body
  | _ => some false

/-- The parts begin with a character that is taken as it is written; none if they are empty. -/
def beginExact? (f : Flags) : List Node → Option Bool
  | [] => none
  | n :: ns => (n.beginsExact? f).or (beginExact? f ns)

end

/-- The branch begins with a character that is taken as it is written. -/
def branchExact (f : Flags) : List Node → Bool
  | .char n :: _ => isExact f n
  | _ => false

/-- The member stands for characters that differ from it in case. -/
def Item.variesInCase (f : Flags) : Item → Bool
  | .char n => isCasedCode f n
  | .range lo hi => basicPlane < hi || anyCasedCode f lo hi
  | .category _ _ => false

/-- The entry of a part that a pattern begins with. -/
def Node.entry (f : Flags) : Node → Entry
  | .set _ [.char _] => .anywhere
  | .set negated items =>
    if f.ignoreCase && items.any (·.variesInCase f) then .anywhere else .set negated items
  | .choice branches => if branches.all (branchExact f) then .anyChar else .anywhere
  | .group _ on off (n :: _) => n.entry (f.inside on off)
  | _ => .anywhere

/-- The entry of a pattern. -/
def entry (p : Pattern) : Entry :=
  match p.parts, beginExact? p.flags p.parts with
  | _, some true => .anyChar
  | n :: _, _ => n.entry p.flags
  | [], _ => .anywhere

/-- The width of a group. -/
def groupWidth (p : Pattern) (n : Nat) : Width := p.widths[n - 1]?.getD ⟨0, 0⟩

/-- The pattern matches at a position of the text. -/
def matchesAt (p : Pattern) (text : Array Char) (position : Nat) : Bool :=
  (runAll text p.groupWidth p.flags false p.parts position ⟨position, #[]⟩ .done).1

/-- The positions of a text at which the search tries the pattern. The classes in the set of an
entry are those of the flags that the pattern starts with, whatever the part itself says. -/
def candidates (p : Pattern) (text : Array Char) : List Nat :=
  let least := (widthAll p.groupWidth p.parts).lo
  if least == 0 then List.range (text.size + 1)
  else if text.size < least then []
  else
    match p.entry with
    | .anywhere => List.range (text.size + 2 - least)
    | .anyChar => List.range text.size
    | .set negated items =>
      (List.range text.size).filter fun i =>
        text[i]?.any fun c => items.any (·.holds p.flags c) != negated

/-- The pattern matches somewhere in the text. -/
def isMatch (p : Pattern) (s : String) : Bool :=
  let text := s.toList.toArray
  (p.candidates text).any (p.matchesAt text)

end PerlVet.Pattern
