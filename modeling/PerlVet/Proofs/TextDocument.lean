import PerlVet.Proofs.ControlSequences
import PerlVet.Proofs.LineGrammar
import PerlVet.Proofs.Shape

/-!
Taking the text for a list of diagnostics apart again. The text escapes nothing, so this needs
parts that do not hold what divides them. Numbers and labels hold no colon, and no message that
comes from the interpreter holds a newline (`Output.readLines_unbroken`): it is part of a line, and
what is added to it holds none. So the text for the diagnostics of the interpreter has a line for
each of them, and the first three colons of that line are those between its parts
(`Compilation.writeText_apart`).
-/

namespace PerlVet

namespace Text

/-- The pieces of a text before its first `n` separators, and what follows them. -/
def cutFirst (sep : Char) : Nat → List Char → List (List Char)
  | 0, cs => [cs]
  | n + 1, cs =>
    if sep ∈ cs then
      cs.takeWhile (· != sep) :: cutFirst sep n (cs.drop ((cs.takeWhile (· != sep)).length + 1))
    else [cs]

/-- A separator closes a piece, as long as some are to be looked for. -/
theorem cutFirst_append_cons {sep : Char} {u : List Char} (hu : sep ∉ u) (n : Nat)
    (cs : List Char) : cutFirst sep (n + 1) (u ++ sep :: cs) = u :: cutFirst sep n cs := by
  rw [cutFirst, if_pos (by simp), (run_append_cons hu cs).takeWhile_eq, ← List.drop_drop,
    List.drop_left]
  rfl

end Text

namespace Output
open Text

variable {file line : List Char} {lines : List (List Char)} {status : Option Int}
  {found : List Finding} {f : Finding}

/-! ## Messages of the interpreter -/

/-- The message of a finding holds no newline. -/
def Unbroken (f : Finding) : Prop := '\n' ∉ f.message.toList

/-- A line is taken apart only where no newline stands before or behind the place. -/
theorem unbroken_of_readLine (h : readLine file line = .ok (some f)) : Unbroken f := by
  obtain ⟨l, hlast, -, hmeans⟩ := means_of_readLine h
  cases hmeans with
  | message => simpa [Unbroken] using hlast.cuts.message_newline
  | context => simpa [Unbroken] using ⟨hlast.cuts.message_newline, hlast.cuts.tail_newline⟩

theorem unbroken_statusFinding (n : Int) : Unbroken (statusFinding n) := by
  have hdigits (m : Nat) : '\n' ∉ m.repr.toList := by
    simpa [Nat.repr] using not_mem_toDigits (by decide) m
  have hnumber : '\n' ∉ n.repr.toList := by
    rw [Int.repr_eq_if]
    split
    · exact hdigits _
    · simpa using hdigits _
  simpa [Unbroken, statusFinding] using hnumber

/-- No message of a report holds a newline, whatever the lines hold that it was read from. -/
theorem readLines_unbroken (h : readLines file status lines = .ok found) :
    ∀ f ∈ found, Unbroken f :=
  have habort : '\n' ∉ abortMessage.toList := by decide
  have hunbroken : Acquired file Unbroken :=
    ⟨unbroken_of_readLine, fun _ => habort, unbroken_statusFinding, id⟩
  hunbroken.readLines h

end Output

namespace Diagnostic
open Text

variable {d : Diagnostic} {ds : List Diagnostic}

/-! ## Lines of text -/

theorem newline_not_mem_text (horigin : '\n' ∉ d.origin.toList) (h : Output.Unbroken d.toFinding) :
    '\n' ∉ d.text.toList := by
  have hdigits : '\n' ∉ Nat.toDigits 10 d.line := not_mem_toDigits (by decide) d.line
  have hlabel : '\n' ∉ d.severity.label.toList := by cases d.severity <;> decide
  rw [toList_text]
  simp [hdigits, hlabel, horigin, h.imp id]

/-- The first three colons of a line are those between the parts of the diagnostic. -/
theorem cutFirst_text (horigin : ':' ∉ d.origin.toList) :
    cutFirst ':' 3 d.text.toList =
      [Nat.toDigits 10 d.line, d.severity.label.toList, d.origin.toList, d.message.toList] := by
  have hdigits : ':' ∉ Nat.toDigits 10 d.line := not_mem_toDigits (by decide) d.line
  have hlabel : ':' ∉ d.severity.label.toList := by cases d.severity <;> decide
  have htext : d.text.toList = Nat.toDigits 10 d.line ++ ':' :: (d.severity.label.toList ++
      ':' :: (d.origin.toList ++ ':' :: d.message.toList)) := by
    rw [toList_text]
    simp
  rw [htext, cutFirst_append_cons hdigits, cutFirst_append_cons hlabel,
    cutFirst_append_cons horigin, cutFirst]

theorem pieces_writeText (hne : ds ≠ []) (h : ∀ d ∈ ds, '\n' ∉ d.text.toList) :
    pieces '\n' (writeText ds).toList = ds.map (·.text.toList) := by
  have hjoined : (writeText ds).toList = ['\n'].intercalate (ds.map (·.text.toList)) := by
    simp [writeText, Function.comp_def]
  rw [hjoined]
  exact pieces_intercalate (by simpa using hne) (by simpa using h)

end Diagnostic

namespace Compilation
open Text

variable {c c' : Compilation} {h : Host} {target : Path} {s s' : Session} {ds : List Diagnostic}

theorem inspect_unbroken (hinspect : c.inspect h target s = (.ok ds, c', s')) :
    ∀ d ∈ ds, d.origin = "compile" ∧ Output.Unbroken d.toFinding := by
  obtain ⟨line, hhead⟩ := fileHead_of_inspect hinspect
  by_cases hforeign : Shebang.isForeign line = true
  · rw [(inspect_shape hhead hinspect).1 hforeign]
    exact nofun
  · obtain ⟨call, done, file, found, -, -, hread, rfl⟩ :=
      inspect_ok hhead (Bool.eq_false_iff.mpr hforeign) hinspect
    intro d hd
    obtain ⟨f, hf, rfl⟩ := List.mem_map.mp hd
    exact ⟨rfl, Output.readLines_unbroken hread f hf⟩

/-- Whatever the runner prints and however it exits: cut at newlines, the text for the diagnostics
of an inspection is one piece for each of them, in order; and a piece, cut at its first three
colons, is the decimal number of the line, the label of the severity, the origin and the message. -/
theorem writeText_apart (hinspect : c.inspect h target s = (.ok ds, c', s')) (hne : ds ≠ []) :
    (pieces '\n' (Diagnostic.writeText ds).toList).map (cutFirst ':' 3) =
      ds.map fun d => [Nat.toDigits 10 d.line, d.severity.label.toList, "compile".toList,
        d.message.toList] := by
  have hds := inspect_unbroken hinspect
  have hpieces := Diagnostic.pieces_writeText hne fun d hd =>
    Diagnostic.newline_not_mem_text (by rw [(hds d hd).1]; decide) (hds d hd).2
  rw [hpieces, List.map_map]
  refine List.map_congr_left fun d hd => ?_
  have horigin := (hds d hd).1
  rw [Function.comp_apply, Diagnostic.cutFirst_text (by rw [horigin]; decide), horigin]

/-- An interpreter that quotes colons and fails. -/
theorem writeText_apart_colons :
    let output := "syntax error: a:b at /a line 2.\r\nc at /a line 03, ::\u0085\n"
    let c := { told [] "" with runner := fun _ call => .ok ⟨call.args, 255, output, none⟩ }
    let ds : List Diagnostic := [⟨⟨⟨.error, "syntax error: a:b"⟩, 2⟩, "compile"⟩,
      ⟨⟨⟨.error, "c, ::"⟩, 3⟩, "compile"⟩]
    (c.inspect (Checker.visitOf "a").host ⟨.root, ["a"]⟩ {}).1 = .ok ds ∧
    (pieces '\n' (Diagnostic.writeText ds).toList).map (cutFirst ':' 3) =
      [["2".toList, "error".toList, "compile".toList, "syntax error: a:b".toList],
        ["3".toList, "error".toList, "compile".toList, "c, ::".toList]] := by
  intro output c ds
  have hds : (c.inspect (Checker.visitOf "a").host ⟨.root, ["a"]⟩ {}).1 = .ok ds :=
    ok_of_toOption (by decide)
  exact ⟨hds, writeText_apart (Prod.ext hds rfl) (List.cons_ne_nil _ _)⟩

end Compilation

end PerlVet
