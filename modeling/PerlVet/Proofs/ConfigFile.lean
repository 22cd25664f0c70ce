import PerlVet.Config.Load
import PerlVet.Proofs.Resolution
import PerlVet.Proofs.TomlReading
import PerlVet.Proofs.Utf8

/-!
What comes of a configuration file that can be read, whatever it holds. If its bytes are the text
of a document, then the settings of that document are built into a configuration. If they are some
other text, then the file is refused as one without the right form, unless a number in it has too
many digits; and if they are no text at all, the failure to decode them is passed on.
-/

namespace PerlVet

/-- The failure is that of a configuration. -/
def Failure.isConfiguration : Failure → Bool
  | .configMissing _ | .configUnreadable _ _ | .configSyntax _ | .configInvalid _ _ => true
  | _ => false

variable {h : Host} {path : Path} {bytes : List UInt8} {cs : List Char} {s : Session}

theorem isFile_of_readBytes (hbytes : h.readBytes path = .ok bytes) : h.isFile path = .ok true := by
  unfold Host.readBytes at hbytes
  split at hbytes
  · cases hbytes
  · next hnul =>
    split at hbytes
    · next hwalk =>
      simp [Host.isFile, Host.stat?, hnul, hwalk, Except.map]
    · cases hbytes
    · cases hbytes

theorem readDocument_encode (path : Path) (cs : List Char) :
    readDocument path (Text.Utf8.encode cs) =
      match Toml.parse cs with
      | .ok t => .ok t
      | .error .rules => .error (.configSyntax path.text)
      | .error (.digits e) => .error (.tooManyDigits e) := by
  have hdecode : Text.Utf8.decodeStrict (Text.Utf8.encode cs) = .ok cs :=
    Text.Utf8.decodeStrict_eq_ok_iff.mpr rfl
  cases hparse : Toml.parse cs with
  | ok t => simp only [readDocument, hdecode, hparse]
  | error fault => cases fault <;> simp only [readDocument, hdecode, hparse]

theorem readDocument_of_not_utf8 (path : Path) (hbytes : ∀ cs, bytes ≠ Text.Utf8.encode cs) :
    ∃ e, readDocument path bytes = .error (.undecodable e) := by
  unfold readDocument
  cases hdecode : Text.Utf8.decodeStrict bytes with
  | error e => exact ⟨e, rfl⟩
  | ok cs => exact absurd (Text.Utf8.decodeStrict_eq_ok_iff.mp hdecode) (hbytes cs)

theorem load_of_error {e : Failure} (hbytes : h.readBytes path = .ok bytes)
    (hdocument : readDocument path bytes = .error e) : Config.load h path s = (.error e, s) := by
  simp only [Config.load, isFile_of_readBytes hbytes, hbytes, hdocument]

/-- The line of the log for a configuration file that has been read. -/
def Session.noteLoaded (s : Session) (path : Path) : Session :=
  s.note .configuration ("loaded configuration from " ++ path.text)

theorem load_of_document {t : Table Moment} {root : Path} (hbytes : h.readBytes path = .ok bytes)
    (hdocument : readDocument path bytes = .ok t) (hroot : h.resolve path.parent = .ok root) :
    Config.load h path s =
      Config.build h path.text (some root) (settingsOf t) (s.noteLoaded path) := by
  simp only [Config.load, isFile_of_readBytes hbytes, hbytes, hdocument, hroot]
  rfl

/-- A configuration file that can be read, of any content. A document is built into a configuration,
predicate modules being looked for where the steps to its directory lead; a text that is no document
is refused as such, but for a number in it that has too many digits; bytes that are no text are not
decoded. -/
theorem load_readable {name : String} (hcwd : ∀ step ∈ h.cwd, FileTree.Named step)
    (hbytes : h.readBytes (Path.ofString name) = .ok bytes) (s : Session) :
    let path := Path.ofString name
    (∀ cs t, bytes = Text.Utf8.encode cs → Toml.parse cs = .ok t →
      ∃ root n, FileTree.Leads h.tree (h.start path) path.parent.parts root n ∧
        Config.load h path s =
          Config.build h path.text (some (Host.pathOf root)) (settingsOf t) (s.noteLoaded path)) ∧
    (∀ cs fault, bytes = Text.Utf8.encode cs → Toml.parse cs = .error fault →
      Config.load h path s = (.error (.configSyntax path.text), s) ∨
      ∃ e, Config.load h path s = (.error (.tooManyDigits e), s) ∧
        Toml.HasLongRun cs e.count) ∧
    ((∀ cs, bytes ≠ Text.Utf8.encode cs) →
      ∃ e, Config.load h path s = (.error (.undecodable e), s)) := by
  intro path
  refine ⟨?_, ?_, ?_⟩
  · rintro cs t rfl hparse
    obtain ⟨root, n, hleads, hroot⟩ := Host.resolve_parent_of_readBytes hcwd hbytes
    refine ⟨root, n, hleads, load_of_document hbytes ?_ hroot⟩
    rw [readDocument_encode, hparse]
  · rintro cs fault rfl hparse
    have hdocument := readDocument_encode path cs
    rw [hparse] at hdocument
    cases fault with
    | rules => exact .inl (load_of_error hbytes hdocument)
    | digits e => exact .inr ⟨e, load_of_error hbytes hdocument, Toml.parse_digits hparse⟩
  · intro hnot
    obtain ⟨e, hdocument⟩ := readDocument_of_not_utf8 path hnot
    exact ⟨e, load_of_error hbytes hdocument⟩

/-- A host with a file `c` of some bytes in the directory `d`, to which a link `l` leads. -/
def linked (bytes : List UInt8) : Host where
  tree := ⟨[(["d"], .dir), (["d", "c"], .file bytes false), (["l"], .link "d/.")]⟩
  cwd := []
  environment := []
  homes := []
  bundled := ⟨.root, []⟩
  modules := []

theorem leads_linked (bytes : List UInt8) :
    FileTree.Leads (linked bytes).tree [] ["l"] ["d"] 1 := by
  have htarget : FileTree.Leads (linked bytes).tree [] ["d", "."] ["d"] 0 :=
    .down ⟨by decide, by decide, by decide⟩ nofun (.stay (.inr rfl) (.here _))
  exact .link (m := 0) ⟨by decide, by decide, by decide⟩ rfl htarget (.here _)

/-- A document that is reached through a link. -/
theorem load_readable_linked :
    let h := linked (Text.Utf8.encode "[compile] # é".toList)
    Config.load h (Path.ofString "/l/c") {} =
      Config.build h "/l/c" (some ⟨.root, ["d"]⟩) [("compile", .table [])]
        (Session.noteLoaded {} (Path.ofString "/l/c")) := by
  intro h
  have hbytes : h.readBytes (Path.ofString "/l/c") =
      .ok (Text.Utf8.encode "[compile] # é".toList) := rfl
  have hparse : Toml.parse "[compile] # é".toList = .ok [("compile", .table [])] := rfl
  obtain ⟨root, n, hleads, hload⟩ :=
    (load_readable (fun step hstep => by cases hstep) hbytes {}).1 _ _ rfl hparse
  have hparent : (Path.ofString "/l/c").parent.parts = ["l"] := rfl
  rw [hparent] at hleads
  obtain ⟨rfl, -⟩ := hleads.unique (leads_linked _)
  exact hload

theorem not_utf8_ff (cs : List Char) : [0xFF] ≠ Text.Utf8.encode cs := by
  intro hbytes
  have hdecode := Text.Utf8.decodeStrict_eq_ok_iff.mpr hbytes
  cases hdecode

/-- It is not so that every file that can be read and is no document is refused as a
configuration. -/
theorem not_load_refuses :
    ¬ ∀ (h : Host) (name : String) (bytes : List UInt8) (s : Session),
        (∀ step ∈ h.cwd, FileTree.Named step) → h.readBytes (Path.ofString name) = .ok bytes →
        (∀ cs t, bytes = Text.Utf8.encode cs → Toml.parse cs ≠ .ok t) →
        ∃ e, (Config.load h (Path.ofString name) s).1 = .error e ∧ e.isConfiguration = true := by
  intro hrefuses
  have hbytes : (linked [0xFF]).readBytes (Path.ofString "/d/c") = .ok [0xFF] := rfl
  obtain ⟨e, hdocument⟩ := readDocument_of_not_utf8 (Path.ofString "/d/c") not_utf8_ff
  obtain ⟨e', hload, hconfiguration⟩ := hrefuses (linked [0xFF]) "/d/c" [0xFF] {}
    (fun step hstep => by cases hstep) hbytes fun cs t hcs => absurd hcs (not_utf8_ff cs)
  rw [load_of_error hbytes hdocument] at hload
  cases hload
  cases hconfiguration

end PerlVet
