import PerlVet.Proofs.SearchOrder

/-!
The project a file belongs to. From the directory of the resolved file the search goes up, one
directory after the other (`selfAndParents_concat`), and what it can come to is said once for any
test of directories (`Path.Climb`, `Path.climb`): the nearest directory that passes, none, or the
first test that fails. For markers this gives the nearest marked directory (`Nearest`), unless a
marker has to be looked for under a name that is too long for the system.
-/

namespace PerlVet

/-! ## Searching upwards -/

namespace Path

/-- The path `d` is `s` or an ancestor of it. -/
def IsAbove (d s : Path) : Prop := d.anchor = s.anchor ∧ d.parts <+: s.parts

/-- The path `d` lies on the way from `s` up to `r`, below `r`. -/
def IsBelow (r d s : Path) : Prop := r.IsAbove d ∧ d.IsAbove s ∧ d ≠ r

variable {ε : Type} {a : PerlVet.Anchor} {parts : List String} {name : String} {d r s : Path}

theorem IsAbove.refl (s : Path) : s.IsAbove s := ⟨rfl, List.prefix_rfl⟩

theorem isAbove_nil_iff : d.IsAbove ⟨a, []⟩ ↔ d = ⟨a, []⟩ := by
  obtain ⟨b, names⟩ := d
  simp [IsAbove]

theorem isAbove_concat_iff :
    d.IsAbove ⟨a, parts ++ [name]⟩ ↔ d = ⟨a, parts ++ [name]⟩ ∨ d.IsAbove ⟨a, parts⟩ := by
  obtain ⟨b, names⟩ := d
  simp only [IsAbove, List.prefix_concat_iff, mk.injEq]
  exact and_or_left

theorem not_isBelow_self : ¬IsBelow s d s := by
  obtain ⟨a, parts⟩ := s
  obtain ⟨b, names⟩ := d
  rintro ⟨⟨rfl, hsd⟩, ⟨-, hds⟩, hne⟩
  exact hne (congrArg (mk a) (hds.eq_of_length_le hsd.length_le))

theorem isBelow_concat (hd : IsBelow r d ⟨a, parts ++ [name]⟩) :
    d = ⟨a, parts ++ [name]⟩ ∨ IsBelow r d ⟨a, parts⟩ := by
  obtain ⟨hr, hs, hne⟩ := hd
  exact (isAbove_concat_iff.mp hs).imp_right fun hs => ⟨hr, hs, hne⟩

/-- The ancestors of a path are those of its parent, after the path itself. -/
theorem selfAndParents_concat (a : PerlVet.Anchor) (parts : List String) (name : String) :
    selfAndParents ⟨a, parts ++ [name]⟩ = ⟨a, parts ++ [name]⟩ :: selfAndParents ⟨a, parts⟩ := by
  unfold selfAndParents
  dsimp only
  rw [List.length_append, List.length_singleton, List.range_succ_eq_map, List.map_cons,
    List.map_map]
  congr 1
  · rw [Nat.sub_zero, List.take_of_length_le (by simp)]
  · refine List.map_congr_left fun n hn => ?_
    rw [Function.comp_apply, Nat.succ_eq_add_one, Nat.add_sub_add_right,
      List.take_append_of_le_length (Nat.sub_le _ _)]

/-- What a search for the nearest path that passes a test comes to, from `s` upwards: it ends at the
first path that passes or whose test fails. -/
inductive Climb (test : Path → Except ε Bool) (s : Path) : Except ε (Option Path) → Prop where
  | stopped {r : Path} : r.IsAbove s → test r ≠ .ok false →
    (∀ d, IsBelow r d s → test d = .ok false) → Climb test s ((test r).map fun _ => some r)
  | none : (∀ d, d.IsAbove s → test d = .ok false) → Climb test s (.ok none)

variable {test : Path → Except ε Bool} {result : Except ε (Option Path)}

theorem Climb.here (hs : test s ≠ .ok false) : Climb test s ((test s).map fun _ => some s) :=
  .stopped (.refl s) hs fun _ hd => absurd hd not_isBelow_self

/-- A path that does not pass leaves the search to its parent. -/
theorem Climb.up (hs : test ⟨a, parts ++ [name]⟩ = .ok false)
    (hclimb : Climb test ⟨a, parts⟩ result) : Climb test ⟨a, parts ++ [name]⟩ result := by
  cases hclimb with
  | stopped hr hstop hall =>
    refine .stopped (isAbove_concat_iff.mpr (.inr hr)) hstop fun d hd => ?_
    rcases isBelow_concat hd with rfl | hd
    · exact hs
    · exact hall d hd
  | none hall =>
    refine .none fun d hd => ?_
    rcases isAbove_concat_iff.mp hd with rfl | hd
    · exact hs
    · exact hall d hd

theorem findM?_cons_of_stop {paths : List Path} (hs : test s ≠ .ok false) :
    (s :: paths).findM? test = (test s).map fun _ => some s := by
  rw [List.findM?]
  rcases htest : test s with e | _ | _
  · rfl
  · exact absurd htest hs
  · rfl

theorem findM?_cons_of_pass {paths : List Path} (hs : test s = .ok false) :
    (s :: paths).findM? test = paths.findM? test := by
  rw [List.findM?, hs]
  rfl

theorem climb (test : Path → Except ε Bool) (s : Path) :
    Climb test s (s.selfAndParents.findM? test) := by
  obtain ⟨a, parts⟩ := s
  induction parts using List.reverseRecOn with
  | nil =>
    have hself : selfAndParents ⟨a, []⟩ = [⟨a, []⟩] := rfl
    rw [hself]
    by_cases hs : test ⟨a, []⟩ = .ok false
    · rw [findM?_cons_of_pass hs]
      refine .none fun d hd => ?_
      rw [isAbove_nil_iff.mp hd]
      exact hs
    · rw [findM?_cons_of_stop hs]
      exact .here hs
  | append_singleton parts name ih =>
    rw [selfAndParents_concat]
    by_cases hs : test ⟨a, parts ++ [name]⟩ = .ok false
    · rw [findM?_cons_of_pass hs]
      exact ih.up hs
    · rw [findM?_cons_of_stop hs]
      exact .here hs

/-- The search goes no further than a path that does not leave it to its parent. -/
theorem findM?_of_stop (hs : test s ≠ .ok false) :
    s.selfAndParents.findM? test = (test s).map fun _ => some s := by
  obtain ⟨a, parts⟩ := s
  cases parts using List.reverseRecOn with
  | nil => exact findM?_cons_of_stop hs
  | append_singleton parts name =>
    rw [selfAndParents_concat]
    exact findM?_cons_of_stop hs

end Path

/-! ## Markers -/

/-- A search for anything that passes a test ends at the first thing that does, or whose test
fails. -/
theorem anyM_cases {ε α : Type} (test : α → Except ε Bool) (l : List α) :
    (l.anyM test = .ok false ∧ ∀ x ∈ l, test x = .ok false) ∨
    ∃ x ∈ l, test x ≠ .ok false ∧ l.anyM test = test x := by
  induction l with
  | nil => exact .inl ⟨rfl, nofun⟩
  | cons x l ih =>
    rw [List.anyM]
    rcases hx : test x with e | _ | _
    · exact .inr ⟨x, List.mem_cons_self, by rw [hx]; exact nofun, hx.symm⟩
    · rcases ih with ⟨hfalse, hall⟩ | ⟨y, hy, hstop, hany⟩
      · exact .inl ⟨hfalse, List.forall_mem_cons.mpr ⟨hx, hall⟩⟩
      · exact .inr ⟨y, List.mem_cons_of_mem x hy, hstop, hany⟩
    · exact .inr ⟨x, List.mem_cons_self, by rw [hx]; exact nofun, hx.symm⟩

namespace Host
open IncludePath (TooLong stat?_error_iff overlongTag)

variable {h : Host} {d p r s target : Path} {e : Failure}

/-- Where a marker is looked for in a directory. -/
def markerIn (d : Path) (m : String) : Path := d.join (Path.ofString m)

/-- The directory has an entry with the name of a marker, and it stands for something. -/
def Marked (h : Host) (d : Path) : Prop := ∃ m ∈ topNames, h.pathExists (markerIn d m) = .ok true

/-- The directory `r` is the nearest one from `s` upwards that is marked; if there is none, it is
`s` itself. -/
structure Nearest (h : Host) (s r : Path) : Prop where
  above : r.IsAbove s
  nearest : (h.Marked r ∧ ∀ d, Path.IsBelow r d s → ¬h.Marked d) ∨
    ((∀ d, d.IsAbove s → ¬h.Marked d) ∧ r = s)

theorem marked_of_isMarked (hd : h.isMarked d = .ok true) : h.Marked d := by
  rcases anyM_cases (fun m => h.pathExists (markerIn d m)) topNames with ⟨hfalse, -⟩ |
    ⟨m, hm, -, hany⟩
  · cases hfalse.symm.trans hd
  · exact ⟨m, hm, hany.symm.trans hd⟩

theorem not_marked_of_isMarked (hd : h.isMarked d = .ok false) : ¬h.Marked d := by
  rintro ⟨m, hm, hexists⟩
  rcases anyM_cases (fun m => h.pathExists (markerIn d m)) topNames with ⟨-, hall⟩ |
    ⟨m', -, hstop, hany⟩
  · cases hexists.symm.trans (hall m hm)
  · exact hstop (hany.symm.trans hd)

/-- Markers cannot be looked for only if the name of one of them is too long. -/
theorem tooLong_of_isMarked (hd : h.isMarked d = .error e) :
    ∃ m ∈ topNames, TooLong h (markerIn d m) ∧
      e = .system .nameTooLong (markerIn d m).text := by
  rcases anyM_cases (fun m => h.pathExists (markerIn d m)) topNames with ⟨hfalse, -⟩ |
    ⟨m, hm, -, hany⟩
  · cases hfalse.symm.trans hd
  · have hexists : h.pathExists (markerIn d m) = .error e := hany.symm.trans hd
    rw [pathExists, map_error_iff, stat?_error_iff] at hexists
    obtain ⟨hnul, hwalk, rfl⟩ := hexists
    exact ⟨m, hm, ⟨hnul, hwalk⟩, rfl⟩

theorem projectTop_of_resolve (hresolve : h.resolve target = .ok p) :
    h.projectTop target = (p.parent.selfAndParents.findM? h.isMarked).map (·.getD p.parent) := by
  unfold projectTop
  rw [hresolve]
  dsimp only [bind, Except.bind]
  cases p.parent.selfAndParents.findM? h.isMarked <;> rfl

/-- The project of a file that can be resolved, `p.parent` being the directory it lies in then. It
is the nearest marked directory from there, or that directory itself if there is none; unless on the
way, before a marked directory is met, the name of a marker is too long. A file that lies in the top
directory of a project belongs to that project. -/
theorem projectTop_nearest (hresolve : h.resolve target = .ok p) :
    ((∃ r, h.projectTop target = .ok r ∧ h.Nearest p.parent r) ∨
      ∃ d m, d.IsAbove p.parent ∧ m ∈ topNames ∧ TooLong h (markerIn d m) ∧
        (∀ d', Path.IsBelow d d' p.parent → ¬h.Marked d') ∧
        h.projectTop target = .error (.system .nameTooLong (markerIn d m).text)) ∧
    ∀ r target' p', h.projectTop target = .ok r → h.resolve target' = .ok p' → p'.parent = r →
      h.projectTop target' = .ok r := by
  have htop := projectTop_of_resolve hresolve
  have hclimb := Path.climb h.isMarked p.parent
  generalize hfind : p.parent.selfAndParents.findM? h.isMarked = result at htop hclimb
  constructor
  · cases hclimb with
    | @stopped r hr hstop hbelow =>
      have hbelow : ∀ d, Path.IsBelow r d p.parent → ¬h.Marked d := fun d hd =>
        not_marked_of_isMarked (hbelow d hd)
      rcases hmarked : h.isMarked r with e | _ | _
      · rw [hmarked] at htop
        obtain ⟨m, hm, hlong, rfl⟩ := tooLong_of_isMarked hmarked
        exact .inr ⟨r, m, hr, hm, hlong, hbelow, htop⟩
      · exact absurd hmarked hstop
      · rw [hmarked] at htop
        exact .inl ⟨r, htop, hr, .inl ⟨marked_of_isMarked hmarked, hbelow⟩⟩
    | none hall =>
      refine .inl ⟨p.parent, htop, .refl _, .inr ⟨fun d hd => ?_, rfl⟩⟩
      exact not_marked_of_isMarked (hall d hd)
  · intro r target' p' hr hresolve' hparent
    rw [projectTop_of_resolve hresolve', hparent]
    rw [htop] at hr
    cases hclimb with
    | @stopped r' _ hstop _ =>
      rcases hmarked : h.isMarked r' with e | _ | _
      · rw [hmarked] at hr
        cases hr
      · exact absurd hmarked hstop
      · rw [hmarked] at hr
        obtain rfl : r' = r := Except.ok.inj hr
        rw [Path.findM?_of_stop hstop, hmarked]
        rfl
    | none _ =>
      obtain rfl : p.parent = r := Except.ok.inj hr
      rw [hfind]
      rfl

/-- A host with a project in `/p`. In `/p/lib`, to which the link `/l` leads, there is a marker that
is a link to `target`. -/
def misleading (target : String) : Host where
  tree := ⟨[(["p"], .dir), (["p", "cpanfile"], .file [] false), (["p", "b"], .file [] false),
    (["p", "lib"], .dir), (["p", "lib", "a"], .file [] false), (["p", "lib", ".git"], .link target),
    (["l"], .link "p/lib")]⟩
  cwd := []
  environment := []
  homes := []
  bundled := ⟨.root, []⟩
  modules := []

/-- A marker that leads nowhere does not count, so that the project of `/l/a` is `/p`; and so is
that of `/p/b`. -/
theorem projectTop_nearest_misleading :
    let h := misleading "gone"
    h.projectTop ⟨.root, ["l", "a"]⟩ = .ok ⟨.root, ["p"]⟩ ∧
    h.Nearest ⟨.root, ["p", "lib"]⟩ ⟨.root, ["p"]⟩ ∧
    h.projectTop ⟨.root, ["p", "b"]⟩ = .ok ⟨.root, ["p"]⟩ := by
  intro h
  have hresolve : h.resolve ⟨.root, ["l", "a"]⟩ = .ok ⟨.root, ["p", "lib", "a"]⟩ := by
    decide
  have htop : h.projectTop ⟨.root, ["l", "a"]⟩ = .ok ⟨.root, ["p"]⟩ := by decide
  have hresolve' : h.resolve ⟨.root, ["p", "b"]⟩ = .ok ⟨.root, ["p", "b"]⟩ := by decide
  obtain ⟨hnearest, hagain⟩ := projectTop_nearest hresolve
  refine ⟨htop, ?_, hagain ⟨.root, ["p"]⟩ _ _ htop hresolve' rfl⟩
  rcases hnearest with ⟨r, hr, hnearest⟩ | ⟨d, m, -, -, -, -, hlong⟩
  · cases hr.symm.trans htop
    exact hnearest
  · cases hlong.symm.trans htop

theorem resolve_misleading (target : String) :
    (misleading target).resolve ⟨.root, ["p", "lib", "a"]⟩ = .ok ⟨.root, ["p", "lib", "a"]⟩ := rfl

/-- The marker is replaced by what it leads to, and nothing can have such a name. -/
theorem walk_misleading {target : String} (hslash : '/' ∉ target.toList)
    (hlong : FileTree.maxName < target.utf8ByteSize) :
    (misleading target).walk ⟨.root, ["p", "lib", ".git"]⟩ = .error .nameTooLong := by
  have hother (name : String) (hname : name.utf8ByteSize ≤ FileTree.maxName) : target ≠ name := by
    rintro rfl
    omega
  have hroot : FileTree.fromRoot target = false := by
    rw [FileTree.fromRoot, beq_eq_false_iff_ne]
    exact fun hhead => hslash (List.mem_of_head? hhead)
  have hsteps : FileTree.stepsOf target = [target] := by
    have hne : target.toList ≠ [] := by simpa using hother "" (by decide)
    simp [FileTree.stepsOf, Text.pieces_of_not_mem hslash, hne]
  have hdir : (misleading target).tree.find? ["p", "lib"] = some .dir := rfl
  have hnone : (misleading target).tree.find? ["p", "lib", target] = none := by
    simp [FileTree.find?, misleading, List.lookup_cons,
      beq_false_of_ne (hother "a" (by decide)),
      beq_false_of_ne (hother ".git" (by decide))]
  have hfollow : (misleading target).walk ⟨.root, ["p", "lib", ".git"]⟩ =
      (misleading target).tree.walk 39 (if FileTree.fromRoot target then [] else ["p", "lib"])
        (FileTree.stepsOf target ++ []) := rfl
  rw [hfollow, hroot, hsteps]
  simp [FileTree.walk, FileTree.walkWith, hdir, hnone, hlong, hother "." (by decide),
    hother ".." (by decide)]

/-- A marker that leads to a name that is too long is not passed over, though it stands for
nothing. -/
theorem projectTop_misleading {target : String} (hslash : '/' ∉ target.toList)
    (hlong : FileTree.maxName < target.utf8ByteSize) :
    (misleading target).projectTop ⟨.root, ["p", "lib", "a"]⟩ =
      .error (.system .nameTooLong "/p/lib/.git") := by
  have hgit : (misleading target).pathExists ⟨.root, ["p", "lib", ".git"]⟩ =
      .error (.system .nameTooLong "/p/lib/.git") := by
    rw [pathExists, map_error_iff, stat?_error_iff]
    exact ⟨by decide, walk_misleading hslash hlong, by decide⟩
  have hmarked : (misleading target).isMarked ⟨.root, ["p", "lib"]⟩ =
      .error (.system .nameTooLong "/p/lib/.git") := by
    have hjoin : Path.join ⟨.root, ["p", "lib"]⟩ (Path.ofString ".git") =
        ⟨.root, ["p", "lib", ".git"]⟩ := by decide
    have hconfig : (misleading target).pathExists
        (Path.join ⟨.root, ["p", "lib"]⟩ (Path.ofString ".perlcheck.toml")) = .ok false := rfl
    rw [isMarked, topNames, List.anyM, hconfig, List.anyM, hjoin, hgit]
    rfl
  rw [projectTop_of_resolve (resolve_misleading target)]
  have hstop : (misleading target).isMarked ⟨.root, ["p", "lib"]⟩ ≠ .ok false := by
    rw [hmarked]
    exact nofun
  have hfind := Path.findM?_of_stop hstop
  rw [hmarked] at hfind
  exact congrArg (Except.map _) hfind

/-- It is not so that every file that can be resolved belongs to a project. -/
theorem not_projectTop_nearest :
    ¬ ∀ (h : Host) (target p : Path), h.resolve target = .ok p →
        ∃ r, h.projectTop target = .ok r ∧ h.Nearest p.parent r := by
  intro hall
  obtain ⟨r, hr, -⟩ := hall _ _ _ (resolve_misleading overlongTag)
  have hslash : '/' ∉ overlongTag.toList := by
    rw [IncludePath.toList_overlongTag]
    exact fun hmem => absurd (List.eq_of_mem_replicate hmem) (by decide)
  have hlong : FileTree.maxName < overlongTag.utf8ByteSize :=
    Nat.lt_of_lt_of_eq (by decide) (IncludePath.utf8ByteSize_replicate 300).symm
  cases hr.symm.trans (projectTop_misleading hslash hlong)

end Host

end PerlVet
