import PerlVet.Proofs.References

/-!
Which module a reference is about. The import root is put in front of the module path, so that its
modules come first, but only if it does not stand on the path: else it keeps its place, and the
directories in front of it come first (`precedence`). The first directory that holds a module of
the name settles what is imported (`Host.findFirst_eq`), and a reference comes to what that module
answers (`Found.answer`, `findPredicate_precedence`).
-/

namespace PerlVet

/-- What importing something that was found gives. -/
def Found.imported : Found → Except ImportFailure Imported
  | .leaf m =>
    match m.raises with
    | some r => .error (.raised r)
    | none => .ok (.leaf m.attributes)
  | .package p | .portion p => .ok (.package [p] true)

/-- What a reference comes to if its module is the one found. -/
def Found.answer (reference : String) (home member : List Char) (imports : Imports)
    (found : Found) : Except Failure Predicate :=
  let name := components home
  match found.imported with
  | .error e => .error (importRefused reference home e)
  | .ok i => pick reference ((name, i) :: imports) name i (components member)

/-- The directories that are searched before the import root. -/
def precedence (root : Path) (path : List String) : List String :=
  if root.text ∈ path then path.takeWhile (· != root.text) else []

theorem precedence_append_cons {root : Path} {front : List String} (hfront : root.text ∉ front)
    (back : List String) : precedence root (front ++ root.text :: back) = front := by
  rw [precedence, if_pos (by simp), List.takeWhile_append_of_pos]
  · simp
  · intro entry hentry
    exact bne_iff_ne.mpr (ne_of_mem_of_not_mem hentry hfront)

/-- While a module is imported, the import root comes right behind these directories. -/
theorem enterRoot_eq (root : Path) (path : List String) :
    ∃ rest, enterRoot (some root) path = precedence root path ++ root.text :: rest := by
  by_cases hmem : root.text ∈ path
  · obtain ⟨front, back, rfl, hfront⟩ := List.eq_append_cons_of_mem hmem
    exact ⟨back, by rw [precedence_append_cons hfront, enterRoot, if_pos (by simp)]⟩
  · exact ⟨path, by simp [enterRoot, precedence, hmem]⟩

namespace Host

variable {h : Host} {name : String}

/-- The module or package of a name in a directory. A directory that may only be part of a package
is neither. -/
def moduleIn? (h : Host) (name : String) (dir : Place) : Option Found :=
  match h.findIn dir name with
  | some (.portion _) => none
  | found => found

/-- The first directory that holds a module of the name settles what is found. -/
theorem findFirst_eq {front back : List Place} {dir : Place} {found : Found}
    (hfront : ∀ p ∈ front, h.moduleIn? name p = none) (hfound : h.moduleIn? name dir = some found)
    (portions : List Place) :
    (h.findFirst name portions (front ++ dir :: back)).1 = some found := by
  induction front generalizing portions with
  | nil =>
    rw [List.nil_append, findFirst]
    unfold moduleIn? at hfound
    split at hfound
    · cases hfound
    · next hnot =>
      rw [hfound]
      cases found with
      | leaf m => rfl
      | package p => rfl
      | portion p => exact absurd hfound (hnot p)
  | cons p front ih =>
    rw [List.forall_mem_cons] at hfront
    have hskip := hfront.1
    unfold moduleIn? at hskip
    rw [List.cons_append, findFirst]
    split at hskip
    · next hportion =>
      rw [hportion]
      exact ih hfront.2 _
    · rw [hskip]
      exact ih hfront.2 _

theorem load_eq {found : Found} {names : List String} {dirs : List Place}
    (hfound : (h.findFirst (names.getLast?.getD "") [] dirs).1 = some found) (imports : Imports) :
    h.load names dirs imports =
      match found.imported with
      | .error e => (.error e, imports)
      | .ok i => (.ok i, (names, i) :: imports) := by
  unfold load
  generalize h.findFirst (names.getLast?.getD "") [] dirs = search at hfound ⊢
  obtain ⟨first, portions⟩ := search
  obtain rfl : first = some found := hfound
  cases found with
  | leaf m => cases hraises : m.raises <;> simp [Found.imported, hraises]
  | package p => rfl
  | portion p => rfl

end Host

variable {h : Host} {reference : String} {home member : List Char} {root : Path} {s : Session}
  {dir : Place} {found : Found}

/-- A reference to something in a module that is not imported yet comes to what the first module of
that name answers, in the order in which directories are searched. -/
theorem findPredicate_of_first
    (hnames : Reference.Names (Text.trim reference.toList) ⟨home, member⟩) (hhome : home ≠ [])
    (hmember : member ≠ []) (htop : '.' ∉ home)
    (hnew : s.imports.lookup [String.ofList home] = none) {front back : List Place}
    (hpath : (enterRoot (some root) s.modulePath).filterMap h.directoryAt? = front ++ dir :: back)
    (hfront : ∀ p ∈ front, h.moduleIn? (String.ofList home) p = none)
    (hfound : h.moduleIn? (String.ofList home) dir = some found) :
    (findPredicate h (some root) reference s).1 =
      found.answer reference home member s.imports := by
  have hname : components home = [String.ofList home] := by
    rw [components, Text.pieces_of_not_mem htop]
    rfl
  have hdot : home.head? ≠ some '.' := fun hdot => htop (List.mem_of_head? hdot)
  have hfirst : (h.findFirst ([String.ofList home].getLast?.getD "") [] (front ++ dir :: back)).1 =
      some found := Host.findFirst_eq hfront hfound []
  rw [findPredicate_of_names hnames hhome hmember hdot]
  simp only [hname, importWithRoot, Host.importModule, hnew, hpath, Host.load_eq hfirst,
    Found.answer]
  cases found.imported with
  | error e => rfl
  | ok i => rfl

/-- A module of the import root, on a path that may hold modules of the same name elsewhere. If the
root does not stand on the path, or if no directory in front of it holds such a module, then a
reference comes to what the module of the root answers; else it comes to what the first module in
front of the root answers. -/
theorem findPredicate_precedence
    (hnames : Reference.Names (Text.trim reference.toList) ⟨home, member⟩) (hhome : home ≠ [])
    (hmember : member ≠ []) (htop : '.' ∉ home)
    (hnew : s.imports.lookup [String.ofList home] = none)
    (hdir : h.directoryAt? root.text = some dir)
    (hfound : h.moduleIn? (String.ofList home) dir = some found) :
    let before := (precedence root s.modulePath).filterMap h.directoryAt?
    let result := (findPredicate h (some root) reference s).1
    ((root.text ∉ s.modulePath ∨ ∀ p ∈ before, h.moduleIn? (String.ofList home) p = none) →
      result = found.answer reference home member s.imports) ∧
    ∀ front p back other, before = front ++ p :: back →
      (∀ q ∈ front, h.moduleIn? (String.ofList home) q = none) →
      h.moduleIn? (String.ofList home) p = some other →
      result = other.answer reference home member s.imports := by
  intro before result
  obtain ⟨rest, henter⟩ := enterRoot_eq root s.modulePath
  have hpath : (enterRoot (some root) s.modulePath).filterMap h.directoryAt? =
      before ++ dir :: rest.filterMap h.directoryAt? := by
    rw [henter, List.filterMap_append, List.filterMap_cons_some hdir]
  refine ⟨fun hclear => ?_, fun front p back other hbefore hfront hother => ?_⟩
  · have hbefore : ∀ p ∈ before, h.moduleIn? (String.ofList home) p = none := by
      rcases hclear with habsent | hbefore
      · simp [before, precedence, habsent]
      · exact hbefore
    exact findPredicate_of_first hnames hhome hmember htop hnew hpath hbefore hfound
  · rw [hbefore, List.append_assoc, List.cons_append] at hpath
    exact findPredicate_of_first hnames hhome hmember htop hnew hpath hfront hother

/-- A module `m` in a directory, with a predicate `f` that goes by the name of the directory. -/
def namedAfter (dir : String) : Module where
  dir := [dir]
  name := ["m"]
  attributes := [("f", .predicate ⟨dir, fun _ _ => .ok (.data .null), true⟩)]

/-- A host with a module `m` in each of two directories. -/
def twoModules : Host :=
  { linked [] with
    tree := ⟨[(["a"], .dir), (["d"], .dir)]⟩
    modules := [namedAfter "a", namedAfter "d"] }

/-- The name of the predicate `f` of `m`, found with the import root `d` and a module path. -/
def foundWith (path : List String) : Option String :=
  (findPredicate twoModules (some ⟨.root, ["d"]⟩) "m:f" { modulePath := path }).1.toOption.map
    (·.name)

/-- The import root comes first unless it stands on the path behind another directory. -/
theorem findPredicate_precedence_two :
    foundWith ["/a"] = some "d" ∧ foundWith ["/d", "/a"] = some "d" ∧
      foundWith ["/a", "/d"] = some "a" := by
  have hnames : Reference.Names (Text.trim "m:f".toList) ⟨['m'], ['f']⟩ := .colon (by decide) rfl
  have hdir : twoModules.directoryAt? (Path.text ⟨.root, ["d"]⟩) = some ["d"] := rfl
  have hfound (dir : String) (hdir : dir ∈ ["a", "d"]) :
      twoModules.moduleIn? (String.ofList ['m']) [dir] = some (.leaf (namedAfter dir)) := by
    simp only [List.mem_cons, List.not_mem_nil, or_false] at hdir
    rcases hdir with rfl | rfl <;> rfl
  have hall (path : List String) := findPredicate_precedence (s := { modulePath := path }) hnames
    (by decide) (by decide) (by decide) rfl hdir (hfound "d" (by decide))
  have hname {x y : Except Failure Predicate} (hxy : x = y) :
      x.toOption.map (·.name) = y.toOption.map (·.name) := by rw [hxy]
  refine ⟨hname ((hall ["/a"]).1 (.inl (by decide))), hname ((hall ["/d", "/a"]).1 (.inr nofun)),
    hname ((hall ["/a", "/d"]).2 [] ["a"] [] _ rfl nofun (hfound "a" (by decide)))⟩

/-- It is not so that the module of the import root always comes first, whatever the path is. -/
theorem not_findPredicate_prefers_root :
    ¬ ∀ (h : Host) (root : Path) (dir : Place) (found : Found) (reference : String)
        (home member : List Char) (s : Session),
        Reference.Names (Text.trim reference.toList) ⟨home, member⟩ → home ≠ [] → member ≠ [] →
        '.' ∉ home → s.imports.lookup [String.ofList home] = none →
        h.directoryAt? root.text = some dir →
        h.moduleIn? (String.ofList home) dir = some found →
        (findPredicate h (some root) reference s).1 =
          found.answer reference home member s.imports := by
  intro hall
  have hroot := hall twoModules ⟨.root, ["d"]⟩ ["d"] (.leaf (namedAfter "d")) "m:f" ['m'] ['f']
    { modulePath := ["/a", "/d"] } (.colon (by decide) rfl) (by decide) (by decide) (by decide) rfl
    rfl rfl
  have hname : foundWith ["/a", "/d"] = some "d" := by
    rw [foundWith, hroot]
    rfl
  exact absurd hname (by decide)

end PerlVet
