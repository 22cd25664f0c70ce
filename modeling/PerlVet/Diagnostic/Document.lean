import PerlVet.Diagnostic.Checked
import PerlVet.Json.Reader
import PerlVet.Json.Writer
import PerlVet.Text.Utf8

/-!
Lists of diagnostics as documents: JSON arrays, which can be read back, and plain text with one
line for each diagnostic.
-/

namespace PerlVet.Diagnostic

/-- A diagnostic as data. -/
def toDatum (d : Diagnostic) : Datum :=
  .table [("type", .text d.severity.label), ("message", .text d.message), ("line", .int d.line),
    ("from", .text d.origin)]

/-- The JSON document for a list of diagnostics. -/
def writeJson (ds : List Diagnostic) (indent : Option Nat := none) : String :=
  Json.write indent (.list (ds.map toDatum))

/-- The diagnostics in the data of a JSON document. -/
def listOfDatum : Datum → Checked (List Diagnostic)
  | .list vs => Checked.items (vs.map (Checked.record .notObject ofTable))
  | _ => Checked.complain .notArray

/-- The diagnostics in a JSON document. -/
def readJson (s : String) : Checked (List Diagnostic) :=
  match Json.read s.toList with
  | some v => listOfDatum v
  | none => Checked.complain .notJson

/-- The diagnostics in the bytes of a JSON document. -/
def readJsonBytes (bytes : List UInt8) : Checked (List Diagnostic) :=
  match Text.Utf8.decodeStrict bytes with
  | .ok cs => readJson (String.ofList cs)
  | .error _ => Checked.complain .notJson

/-- A diagnostic on one line: line number, severity, origin and message, divided by colons. -/
def text (d : Diagnostic) : String :=
  ":".intercalate [toString d.line, d.severity.label, d.origin, d.message]

/-- The text for a list of diagnostics. -/
def writeText (ds : List Diagnostic) : String := "\n".intercalate (ds.map text)

end PerlVet.Diagnostic
