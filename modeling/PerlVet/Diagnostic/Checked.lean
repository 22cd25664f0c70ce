import PerlVet.Diagnostic.Basic
import PerlVet.Issue
import PerlVet.Text.Integer
import PerlVet.Value

/-!
Reading remarks and diagnostics from structured data. Severity and origin each have two names; the
short one wins, and keys that nobody asks for are passed over.
-/

namespace PerlVet

/-- The severity a value names. What is not a text is named by the way it is shown. -/
def Severity.ofDatum (v : Datum) : Checked Severity :=
  let label := match v with
    | .text s => s
    | v => v.shown
  match ofLabel? label with
  | some s => .ok s
  | none => Checked.complain (.refused (unknown label))

/-- A text. -/
def checkText {α : Type} : Value α → Checked String
  | .text s => .ok s
  | _ => Checked.complain .notText

/-- The integer that a text stands for. -/
def integerOfText (s : String) : Except Complaint Int :=
  match Text.integer s.toList with
  | .ok n => .ok n
  | .error .unclear => .error .unclearInteger
  | .error .size => .error .integerSize

/-- The integer that a floating-point number equals, if it lies strictly between -2^63 and 2^63. -/
def integerOfFloat (x : Float) : Except Complaint Int :=
  let bits := x.toBits
  if ((bits >>> 52) &&& 0x7FF) == 0x7FF then .error .notFinite
  else
    let b := Decimal.Binary.ofBits (bits &&& 0x7FFFFFFFFFFFFFFF)
    let scale := Nat.pow 2 (-b.q).toNat
    if b.m % scale != 0 then .error .fractional
    else
      let n := b.m * Nat.pow 2 b.q.toNat / scale
      if n ≥ Nat.pow 2 63 then .error .integerSize
      else .ok (if bits >>> 63 == 1 then -(n : Int) else n)

/-- The integer that a value stands for. -/
def integerOf {α : Type} : Value α → Except Complaint Int
  | .int n => .ok n
  | .bool b => .ok (if b then 1 else 0)
  | .float x => integerOfFloat x
  | .text s => integerOfText s
  | _ => .error .notInteger

/-- A line number. -/
def checkLine {α : Type} (v : Value α) : Checked Nat :=
  match integerOf v with
  | .error c => Checked.complain c
  | .ok n => if 1 ≤ n then .ok n.toNat else Checked.complain .belowOne

/-- The field of a table that goes by `name` or else by `long`, as `check` reads it. -/
def checkField {α β : Type} (t : Table α) (name : String) (check : Value α → Checked β)
    (long : Option String := none) : Checked β :=
  match t.get? name, long.bind fun l => (t.get? l).map (l, ·) with
  | some v, _ => (check v).under (.field name)
  | none, some (l, v) => (check v).under (.field l)
  | none, none => (Checked.complain .missing : Checked β).under (.field name)

/-- A remark read from a table. -/
def Fragment.ofTable (t : Table Empty) : Checked Fragment :=
  Checked.both Fragment.mk
    (checkField t "type" Severity.ofDatum (some "severity"))
    (checkField t "message" checkText)

/-- A remark about a line read from a table. -/
def Finding.ofTable (t : Table Empty) : Checked Finding :=
  Checked.both Finding.mk (Fragment.ofTable t) (checkField t "line" checkLine)

/-- A diagnostic read from a table. -/
def Diagnostic.ofTable (t : Table Empty) : Checked Diagnostic :=
  Checked.both Diagnostic.mk (Finding.ofTable t)
    (checkField t "from" checkText (some "origin"))

/-- Reads a record from data that must be a table; `otherwise` is said of anything else. -/
def Checked.record {α β : Type} (otherwise : Complaint) (ofTable : Table α → Checked β) :
    Value α → Checked β
  | .table t => ofTable t
  | _ => Checked.complain otherwise

/-- A remark read from data. -/
def Fragment.ofDatum (v : Datum) : Checked Fragment :=
  Checked.record (.notRecord "DiagnosticFragment") ofTable v

/-- A remark about a line read from data. -/
def Finding.ofDatum (v : Datum) : Checked Finding :=
  Checked.record (.notRecord "ParsedDiagnostic") ofTable v

/-- A diagnostic read from data. -/
def Diagnostic.ofDatum (v : Datum) : Checked Diagnostic :=
  Checked.record (.notRecord "Diagnostic") ofTable v

end PerlVet
