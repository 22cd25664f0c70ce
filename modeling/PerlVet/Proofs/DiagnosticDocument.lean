import PerlVet.Diagnostic.Document
import PerlVet.Proofs.JsonRoundTrip

/-!
Documents of diagnostics read back. A diagnostic is `Writable` if its line may stand in a document;
its data is then plain (`Writable.plain`) and passes every check as the diagnostic it came from
(`Writable.record_toDatum`), so a written list is read as itself (`readJson_writeJson`).
-/

namespace PerlVet

/-- The items of a list pass if each of them is read as what it was made from. -/
theorem Checked.itemsFrom_map {α β : Type} {write : β → α} {check : α → Checked β} {bs : List β}
    (h : ∀ b ∈ bs, check (write b) = .ok b) (i : Nat) :
    itemsFrom i ((bs.map write).map check) = .ok bs := by
  induction bs generalizing i with
  | nil => rfl
  | cons b bs ih =>
    rw [List.map_cons, List.map_cons, itemsFrom, h b (by simp), ih fun b' hb => h b' (by simp [hb])]
    rfl

/-- The label in reports names its severity. -/
theorem Severity.ofDatum_label (s : Severity) : ofDatum (.text s.label) = .ok s := by
  cases s <;> rfl

theorem checkLine_int {n : Nat} (h : 1 ≤ n) : checkLine (.int n : Datum) = .ok n := by
  have hpos : (1 : Int) ≤ n := by exact_mod_cast h
  simp [checkLine, integerOf, hpos]

namespace Diagnostic

/-- Lines count from one, and a document holds no number with more digits than the reader takes. -/
structure Writable (d : Diagnostic) : Prop where
  line_pos : 1 ≤ d.line
  digits : (Nat.toDigits 10 d.line).length ≤ Json.maxDigits

variable {d : Diagnostic} {ds : List Diagnostic}

theorem Writable.plain (h : d.Writable) (depth : Nat) : Json.Plain (depth + 1) d.toDatum := by
  refine .table ?_ (show ["type", "message", "line", "from"].Nodup by decide)
  intro e he
  simp only [List.mem_cons, List.not_mem_nil, or_false] at he
  rcases he with rfl | rfl | rfl | rfl
  · exact .text _
  · exact .text _
  · exact .int h.digits
  · exact .text _

/-- The data of a diagnostic passes every check, as that diagnostic. -/
theorem Writable.record_toDatum (h : d.Writable) :
    Checked.record .notObject ofTable d.toDatum = .ok d := by
  simp [toDatum, Checked.record, ofTable, Finding.ofTable, Fragment.ofTable, checkField, Table.get?,
    List.lookup_cons, Severity.ofDatum_label, checkText, checkLine_int h.line_pos, Checked.both,
    Checked.under]

theorem plain_list (h : ∀ d ∈ ds, d.Writable) :
    Json.Plain Json.maxDepth (.list (ds.map toDatum)) := by
  refine .list (d := 199) fun v hv => ?_
  obtain ⟨d, hd, rfl⟩ := List.mem_map.mp hv
  exact (h d hd).plain 198

theorem listOfDatum_map (h : ∀ d ∈ ds, d.Writable) :
    listOfDatum (.list (ds.map toDatum)) = .ok ds :=
  Checked.itemsFrom_map (fun d hd => (h d hd).record_toDatum) 0

/-- A written list of diagnostics is read as itself, in order, at any indentation. -/
theorem readJson_writeJson (h : ∀ d ∈ ds, d.Writable) (indent : Option Nat) :
    readJson (writeJson ds indent) = .ok ds := by
  rw [readJson, writeJson, Json.read_write (plain_list h)]
  exact listOfDatum_map h

/-- Quotes, a backslash, a NUL and characters outside ASCII come through, indented or not. -/
theorem readJson_writeJson_escaped :
    let ds : List Diagnostic :=
      [⟨⟨⟨.warning, "\"my\" \\ masks\n\x00 é😀"⟩, 1⟩, "compile"⟩,
        ⟨⟨⟨.error, ""⟩, 18446744073709551616⟩, "\t"⟩]
    readJson (writeJson ds none) = .ok ds ∧ readJson (writeJson ds (some 2)) = .ok ds := by
  intro ds
  have h : ∀ d ∈ ds, d.Writable := by
    intro d hd
    simp only [ds, List.mem_cons, List.not_mem_nil, or_false] at hd
    rcases hd with rfl | rfl
    · exact ⟨by decide, by decide⟩
    · exact ⟨by decide, by decide⟩
  exact ⟨readJson_writeJson h none, readJson_writeJson h (some 2)⟩

end Diagnostic

end PerlVet
