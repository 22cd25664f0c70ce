import Mathlib
import PerlVet.Proofs.DiagnosticDocument
import PerlVet.Proofs.LineGrammar
import PerlVet.Proofs.Records
import PerlVet.Proofs.Shape

/-!
How large line numbers can be. The output of the interpreter is read only if none of its line
numbers has too many digits, so no finding has such a number (`Output.readLines_legible`); those of
the line predicates are bounded by the length of the file. What is said about a file can therefore
be written down and read back (`vetFile_writable`).
-/

namespace PerlVet

namespace Text

theorem digitIn_lt (ranges : List (Nat × Nat)) (n : Nat) : digitIn ranges n < 10 := by
  induction ranges with
  | nil => exact Nat.succ_pos 9
  | cons range ranges ih =>
    rw [digitIn]
    split
    · exact Nat.mod_lt _ (Nat.succ_pos 9)
    · exact ih

theorem numberFrom_lt (cs : List Char) (acc : Nat) :
    numberFrom acc cs < (acc + 1) * 10 ^ cs.length := by
  induction cs generalizing acc with
  | nil => simp [numberFrom]
  | cons c cs ih =>
    have hdigit : 10 * acc + digitValue c + 1 ≤ (acc + 1) * 10 := by
      have := digitIn_lt digitRanges c.toNat
      rw [digitValue]
      omega
    calc numberFrom (10 * acc + digitValue c) cs
        < (10 * acc + digitValue c + 1) * 10 ^ cs.length := ih _
      _ ≤ (acc + 1) * 10 * 10 ^ cs.length := Nat.mul_le_mul_right _ hdigit
      _ = (acc + 1) * 10 ^ (c :: cs).length := by
        rw [List.length_cons, Nat.pow_succ', Nat.mul_assoc]

/-- The number has no more digits than can be read. -/
def Legible (n : Nat) : Prop := (Nat.toDigits 10 n).length ≤ maxDigits

instance : DecidablePred Legible := fun _ => Nat.decLe _ _

theorem length_toDigits_le {n k : Nat} (hk : 0 < k) (h : n < 10 ^ k) :
    (Nat.toDigits 10 n).length ≤ k :=
  (Nat.length_toDigits_le_iff (by decide) hk).mpr h

theorem Legible.of_le {m n : Nat} (h : Legible n) (hle : m ≤ n) : Legible m := by
  have hpos : 0 < (Nat.toDigits 10 n).length := Nat.length_toDigits_pos
  have hlt := (Nat.length_toDigits_le_iff (by decide) hpos).mp (Nat.le_refl _)
  exact Nat.le_trans (length_toDigits_le hpos (Nat.lt_of_le_of_lt hle hlt)) h

/-- A number has no more digits than it was read from. -/
theorem legible_number {digits : List Char} (h : digits.length ≤ maxDigits) :
    Legible (number digits) := by
  cases digits with
  | nil => decide
  | cons c cs =>
    have hlt := numberFrom_lt (c :: cs) 0
    rw [Nat.one_mul] at hlt
    exact Nat.le_trans (length_toDigits_le (Nat.succ_pos _) hlt) h

end Text

namespace Output
open Text

variable {file line : List Char} {lines : List (List Char)} {status : Option Int}
  {found : List Finding} {f : Finding} {p : Progress} {n : Nat}

theorem legible_of_readLine (h : readLine file line = .ok (some f)) : Legible f.line := by
  obtain ⟨l, -, hshort, hmeans⟩ := means_of_readLine h
  cases hmeans with
  | message => exact legible_number hshort
  | context => exact legible_number hshort

theorem AbortsAt.legible (habort : AbortsAt file line n) (hline : line ∈ lines)
    (h : Progress.steps file lines {} = .ok p) : Legible n := by
  obtain ⟨digits, hdigits, rfl⟩ := abortsAt_iff.mp habort
  obtain ⟨hnumeral, htext⟩ := abortDigits?_eq_some_iff.mp hdigits
  refine legible_number (Nat.le_of_not_lt fun hlong => ?_)
  obtain ⟨e, hfailed⟩ := Progress.steps_of_overlong hline
    ⟨digits, .abort hnumeral htext, rfl, hlong⟩ {}
  cases hfailed.symm.trans h

/-- No finding has a line number with too many digits. -/
theorem readLines_legible (h : readLines file status lines = .ok found) :
    ∀ f ∈ found, Legible f.line := by
  intro f hf
  obtain ⟨k, rfl⟩ := List.get_of_mem hf
  obtain ⟨p, hsteps, -⟩ := map_ok h
  rcases found_source h k.isLt with ⟨i, hadds, hposition⟩ | ⟨n, -, -, rfl, -⟩
  · rcases found_of_adds h hadds hposition with ⟨f, hremark⟩ | ⟨line, n, hline, -, habort, hget⟩
    · obtain ⟨-, hlt, hkept⟩ := found_of_remark h hremark
      obtain ⟨line, -, hread⟩ := mem_remarks.mp hremark
      have hsame : (⟨position file lines i, hlt⟩ : Fin found.length) = k := Fin.ext hposition
      rw [← hsame, hkept.line]
      exact legible_of_readLine hread
    · rw [hget]
      exact habort.legible (List.mem_of_getElem? hline) hsteps
  · have hget : [statusFinding n].get k = statusFinding n := by simp
    rw [hget]
    exact (by decide : Legible 1)

end Output

variable {h : Host} {target : Path} {ds : List Diagnostic}

theorem Compilation.inspect_legible {c c' : Compilation} {s s' : Session}
    (hinspect : c.inspect h target s = (.ok ds, c', s')) :
    ∀ d ∈ ds, Text.Legible d.line := by
  obtain ⟨line, hhead⟩ := fileHead_of_inspect hinspect
  by_cases hforeign : Shebang.isForeign line = true
  · rw [(inspect_shape hhead hinspect).1 hforeign]
    exact nofun
  · obtain ⟨call, done, file, found, -, -, hread, rfl⟩ :=
      inspect_ok hhead (Bool.eq_false_iff.mpr hforeign) hinspect
    intro d hd
    obtain ⟨f, hf, rfl⟩ := List.mem_map.mp hd
    exact Output.readLines_legible hread f hf

/-- What is said about a file comes from one of the two inspections. If the file does not have more
lines than can be numbered, then every diagnostic can be written down. -/
theorem vetFile_writable {root : Option Path} {given : Option Config} {file : Option Path}
    {env : Option Environment} {s : Session}
    (hvet : (vetFile h target root given file env s).1 = .ok ds) :
    (∀ d ∈ ds, d.origin = "compile" ∨ d.origin = "custom") ∧
    ((∀ lines, h.fileLines target = .ok lines → Text.Legible lines.length) →
      ∀ d ∈ ds, d.Writable) := by
  rw [vetFile_fst] at hvet
  obtain ⟨top, -, hvet⟩ := Output.bind_ok hvet
  obtain ⟨config, compiled, scanned, -, ⟨i, i', s₁, s₂, hcompiled⟩, ⟨s₃, s₄, hscanned⟩, rfl⟩ :=
    Checker.vet_standard rfl rfl hvet
  obtain ⟨line, hhead⟩ := Compilation.fileHead_of_inspect hcompiled
  obtain ⟨lines, hlines⟩ := fileLines_of_fileHead hhead
  have hfound := (Compilation.inspect_shape hhead hcompiled).2
  have hplaced := LineScan.inspect_placed hlines hscanned
  have hcases : ∀ d ∈ config.skipRules.visible compiled ++ config.skipRules.visible scanned,
      d ∈ compiled ∨ d ∈ scanned := by
    intro d hd
    exact (List.mem_append.mp hd).imp (fun hd => (SkipRules.mem_visible.mp hd).1)
      fun hd => (SkipRules.mem_visible.mp hd).1
  refine ⟨fun d hd => (hcases d hd).imp (fun hd => (hfound d hd).1) (hplaced.origin d),
    fun hshort d hd => ?_⟩
  rcases hcases d hd with hd | hd
  · exact ⟨(hfound d hd).2, Compilation.inspect_legible hcompiled d hd⟩
  · have hupper := hplaced.upper d hd
    exact ⟨hplaced.lower d hd, (hshort lines hlines).of_le (by omega)⟩

end PerlVet
