import PerlVet.Config.Basic
import PerlVet.Diagnostic.Checked
import PerlVet.Predicate.Reference

/-!
Reading a configuration from settings. Every table has a fixed set of keys; all complaints about
a configuration are gathered, those about known keys in their fixed order, then those about
unknown keys in the order of the input. Reading a reference to a predicate imports a module, and
an error of that module that does not refuse the value ends the reading.
-/

namespace PerlVet

/-- The entry of a table under a key, as `check` reads it, or a default. -/
def optionalField {β : Type} (t : Table SettingLeaf) (key : String) (default : β)
    (check : Setting → Checked β) : Checked β :=
  match t.get? key with
  | some v => (check v).under (.field key)
  | none => .ok default

/-- Complains of every key that is not known. -/
def noOtherKeys (known : List String) (t : Table SettingLeaf) : Checked Unit :=
  match t.filter fun e => !known.contains e.1 with
  | [] => .ok ()
  | extra => .error (extra.map fun e => ⟨[.field e.1], .extra⟩)

/-- A list whose items `check` reads. -/
def checkTuple {β : Type} (check : Setting → Checked β) : Setting → Checked (List β)
  | .list vs => Checked.items (vs.map check)
  | _ => Checked.complain .notTuple

/-- Words for true. -/
def yesWords : List String := ["1", "on", "t", "true", "y", "yes"]

/-- Words for false. -/
def noWords : List String := ["0", "off", "f", "false", "n", "no"]

/-- The number fits into a signed word of 64 bits. -/
def isWordSized (n : Int) : Bool := -9223372036854775808 ≤ n && n ≤ 9223372036854775807

/-- A truth value, also as a number or a word. -/
def checkBool : Setting → Checked Bool
  | .bool b => .ok b
  | .int n =>
    if n == 1 then .ok true
    else if n == 0 then .ok false
    else if isWordSized n then Checked.complain .unclearBool
    else Checked.complain .notBool
  | .float x =>
    if x == 1.0 then .ok true else if x == 0.0 then .ok false else Checked.complain .notBool
  | .text s =>
    let word := String.ofList (s.toList.map Text.asciiLower)
    if yesWords.contains word then .ok true
    else if noWords.contains word then .ok false
    else Checked.complain .unclearBool
  | _ => Checked.complain .notBool

/-- The search path settings in a table. -/
def Config.Include.ofTable (t : Table SettingLeaf) : Checked Config.Include :=
  Checked.both (fun c _ => c)
    (Checked.both Config.Include.mk
      (optionalField t "libs" [] (checkTuple checkText))
      (optionalField t "replace_default_libs" false checkBool))
    (noOtherKeys ["libs", "replace_default_libs"] t)

/-- The search path settings in a value. -/
def Config.Include.ofSetting (v : Setting) : Checked Config.Include :=
  Checked.record (.notRecord "IncludeConfig") ofTable v

/-- What a text that is no pattern amounts to: a complaint about it, or the end of the reading if it
asks for more than a pattern can hold. -/
def badPattern (source : String) (e : Pattern.Error) : Except Failure Complaint :=
  match e.fault with
  | .repeatCount | .lookbehindReach => .error (.pattern e.fault)
  | .repertoireClash | .repeatDigits _ => .ok (.refused e.fault.text)
  | _ =>
    .ok (.refused
      ("invalid skip pattern " ++ Text.quoted source ++ ": " ++ e.message source.toList))

/-- Reads patterns up to the first text that is none. -/
def readPatterns : List String → Except Failure (Checked (List Pattern))
  | [] => .ok (.ok [])
  | source :: sources =>
    match Pattern.parse source with
    | .error e => (badPattern source e).map Checked.complain
    | .ok p => (readPatterns sources).map fun ps => ps.map (p :: ·)

/-- The settings of the interpreter in a table, without the patterns. -/
def Config.Compile.fields (t : Table SettingLeaf) : Checked Config.Compile :=
  Checked.both (fun (c : Config.Compile) _ => c)
    (Checked.both (fun (c : Config.Compile) args => { c with args })
      (Checked.both (fun (c : Config.Compile) perl => { c with perl })
        (Checked.both (fun inc skip => { inc, skip })
          (optionalField t "inc" {} Config.Include.ofSetting)
          (optionalField t "skip" [] (checkTuple checkText)))
        (optionalField t "perl" "perl" checkText))
      (optionalField t "args" [] (checkTuple checkText)))
    (noOtherKeys ["inc", "skip", "perl", "args"] t)

/-- The settings of the interpreter in a table; the patterns are read last, and only if nothing
else is wrong. -/
def Config.Compile.ofTable (t : Table SettingLeaf) : Except Failure (Checked Config.Compile) :=
  match fields t with
  | .error issues => .ok (.error issues)
  | .ok c => (readPatterns c.skip).map fun ps => ps.map fun patterns => { c with patterns }

/-- The settings of the interpreter in a value. -/
def Config.Compile.ofSetting : Setting → Except Failure (Checked Config.Compile)
  | .table t => ofTable t
  | _ => .ok (Checked.complain (.notRecord "CompileConfig"))

/-- Turns a failure to read a value into a complaint about it, if that is what it amounts to. -/
def Checked.ofResult {β : Type} (result : Except Failure β) : Except Failure (Checked β) :=
  match result with
  | .ok b => .ok (.ok b)
  | .error e =>
    match e.complaint? with
    | some c => .ok (Checked.complain c)
    | none => .error e

/-- The predicate that a value is or refers to. -/
def checkPredicate (h : Host) (root : Option Path) (v : Setting) (s : Session) :
    Except Failure (Checked Predicate) × Session :=
  match v with
  | .text reference =>
    let (result, s) := findPredicate h root reference s
    (Checked.ofResult result, s)
  | .leaf (.predicate p) => (.ok (.ok p), s)
  | v =>
    (.ok (Checked.complain
      (.refused ("check predicate must be callable, got " ++ v.kind SettingLeaf.kind))), s)

/-- A rule in a table. -/
def LineRule.ofTable (h : Host) (root : Option Path) (t : Table SettingLeaf) (s : Session) :
    Except Failure (Checked LineRule) × Session :=
  let predicate : Except Failure (Checked Predicate) × Session :=
    match t.get? "predicate" with
    | none => (.ok (Checked.complain .missing), s)
    | some v => checkPredicate h root v s
  match predicate with
  | (.error e, s) => (.error e, s)
  | (.ok p, s) =>
    (.ok (Checked.both (fun c _ => c)
      (Checked.both LineRule.mk (p.under (.field "predicate"))
        (optionalField t "files" [] (checkTuple checkText)))
      (noOtherKeys ["predicate", "files"] t)), s)

/-- A rule in a value. A reference or a predicate alone is a rule for all files. -/
def LineRule.ofSetting (h : Host) (root : Option Path) (v : Setting) (s : Session) :
    Except Failure (Checked LineRule) × Session :=
  match v with
  | .table t => ofTable h root t s
  | .text _ | .leaf (.predicate _) => ofTable h root [("predicate", v)] s
  | _ => (.ok (Checked.complain (.notRecord "LineCheck")), s)

/-- Reads rules in order. An error that refuses no value ends the reading. -/
def LineRule.readAll (h : Host) (root : Option Path) :
    List Setting → Session → Except Failure (List (Checked LineRule)) × Session
  | [], s => (.ok [], s)
  | v :: vs, s =>
    match ofSetting h root v s with
    | (.error e, s) => (.error e, s)
    | (.ok c, s) =>
      match readAll h root vs s with
      | (.error e, s) => (.error e, s)
      | (.ok cs, s) => (.ok (c :: cs), s)

/-- The entries that a value for the list of rules holds: nothing is an empty list, and a single
rule is a list of its own. -/
def ruleEntries : Setting → Checked (List Setting)
  | .null => .ok []
  | .list vs => .ok vs
  | .text reference => .ok [.text reference]
  | .table t => .ok [.table t]
  | .leaf (.predicate p) => .ok [.leaf (.predicate p)]
  | v =>
    Checked.complain (.refused ("custom.check must be a list, got " ++ v.kind SettingLeaf.kind))

/-- The list of rules in a value. -/
def LineRule.listOfSetting (h : Host) (root : Option Path) (v : Setting) (s : Session) :
    Except Failure (Checked (List LineRule)) × Session :=
  match ruleEntries v with
  | .error issues => (.ok (.error issues), s)
  | .ok entries =>
    match readAll h root entries s with
    | (.error e, s) => (.error e, s)
    | (.ok rules, s) => (.ok (Checked.items rules), s)

/-- The line predicates in a table. -/
def Config.Custom.ofTable (h : Host) (root : Option Path) (t : Table SettingLeaf) (s : Session) :
    Except Failure (Checked Config.Custom) × Session :=
  let rules : Except Failure (Checked (List LineRule)) × Session :=
    match t.get? "check" with
    | none => (.ok (.ok []), s)
    | some v => LineRule.listOfSetting h root v s
  match rules with
  | (.error e, s) => (.error e, s)
  | (.ok cs, s) =>
    (.ok (Checked.both (fun c _ => Config.Custom.mk c) (cs.under (.field "check"))
      (noOtherKeys ["check"] t)), s)

/-- The line predicates in a value. -/
def Config.Custom.ofSetting (h : Host) (root : Option Path) (v : Setting) (s : Session) :
    Except Failure (Checked Config.Custom) × Session :=
  match v with
  | .table t => ofTable h root t s
  | _ => (.ok (Checked.complain (.notRecord "CustomConfig")), s)

/-- A configuration in a table. -/
def Config.ofTable (h : Host) (root : Option Path) (t : Table SettingLeaf) (s : Session) :
    Except Failure (Checked Config) × Session :=
  let compile : Except Failure (Checked Config.Compile) :=
    match t.get? "compile" with
    | none => .ok (.ok {})
    | some v => Config.Compile.ofSetting v
  match compile with
  | .error e => (.error e, s)
  | .ok compile =>
    let custom : Except Failure (Checked Config.Custom) × Session :=
      match t.get? "custom" with
      | none => (.ok (.ok {}), s)
      | some v => Config.Custom.ofSetting h root v s
    match custom with
    | (.error e, s) => (.error e, s)
    | (.ok custom, s) =>
      (.ok (Checked.both (fun c _ => c)
        (Checked.both Config.mk (compile.under (.field "compile"))
          (custom.under (.field "custom")))
        (noOtherKeys ["compile", "custom"] t)), s)

/-- Builds a configuration from settings that come from `source`; predicate modules are looked for
in `root` first. -/
def Config.build (h : Host) (source : String) (root : Option Path) (t : Table SettingLeaf)
    (s : Session) : Except Failure Config × Session :=
  match Config.ofTable h root t s with
  | (.error e, s) => (.error e, s)
  | (.ok (.ok c), s) => (.ok c, s)
  | (.ok (.error issues), s) => (.error (.configInvalid source issues), s)

end PerlVet
