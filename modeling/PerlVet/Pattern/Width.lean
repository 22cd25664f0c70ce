import PerlVet.Pattern.Basic

/-!
How many characters a part of a pattern can take.
-/

namespace PerlVet.Pattern

/-- The number of characters, least and greatest, that a part of a pattern can take. Neither is
counted exactly once it gets near `maxRepeat`. -/
structure Width where
  lo : Nat
  hi : Nat
  deriving DecidableEq, Repr

/-- A width that is counted no further than its limits. -/
def Width.cut (w : Width) : Width := ⟨min w.lo (maxRepeat - 1), min w.hi maxRepeat⟩

/-- Two parts one after the other. -/
def Width.append (a b : Width) : Width := cut ⟨a.lo + b.lo, a.hi + b.hi⟩

/-- One of two parts. -/
def Width.either (a b : Width) : Width := ⟨min a.lo b.lo, max a.hi b.hi⟩

/-- A part several times over. -/
def Width.times (w : Width) (lo : Nat) (hi : Option Nat) : Width :=
  cut ⟨w.lo * lo, w.hi * hi.getD maxRepeat⟩

mutual

/-- The width of a part; `groups` gives the widths of the groups it may refer to. -/
def Node.width (groups : Nat → Width) : Node → Width
  | .char _ | .any | .set _ _ => ⟨1, 1⟩
  | .anchor _ | .look _ _ _ => ⟨0, 0⟩
  | .group _ _ _ body | .atomic body => widthAll groups body
  | .loop _ lo hi body => (widthAll groups body).times lo hi
  | .choice branches => widthAny groups branches
  | .backref n => groups n
  | .conditional _ yes no => (widthAll groups yes).either (widthAll groups no)

/-- The width of parts one after the other. -/
def widthAll (groups : Nat → Width) : List Node → Width
  | [] => ⟨0, 0⟩
  | n :: ns => (n.width groups).append (widthAll groups ns)

/-- The width of a choice. -/
def widthAny (groups : Nat → Width) : List (List Node) → Width
  | [] => ⟨maxRepeat - 1, 0⟩
  | b :: bs => (widthAll groups b).either (widthAny groups bs)

end

end PerlVet.Pattern
