import PerlVet.Proofs.Strays

/-!
The order of the directories for libraries. `sources` lists where these come from, and resolving
keeps the first occurrences in this list (`resolve_eq_distinct`). What a list of first occurrences
holds, and in which order, is a matter of `distinct` alone; whatever is said of resolved directories
follows from it (`resolve_ordered`).
-/

namespace PerlVet

section Filter

variable {ε α : Type} {f : α → Except ε Bool} {l : List α}

/-- The test passes. -/
def passes (f : α → Except ε Bool) (x : α) : Bool := f x matches .ok true

theorem passes_iff {x : α} : passes f x = true ↔ f x = .ok true := by
  unfold passes
  split <;> simp_all

theorem filterAuxM_of_ok (h : ∀ x ∈ l, ∃ b, f x = .ok b) (acc : List α) :
    l.filterAuxM f acc = .ok ((l.filter (passes f)).reverse ++ acc) := by
  induction l generalizing acc with
  | nil => rfl
  | cons x l ih =>
    obtain ⟨b, hb⟩ := h x List.mem_cons_self
    have hrest := ih fun y hy => h y (List.mem_cons_of_mem x hy)
    rw [List.filterAuxM, hb]
    cases b with
    | true =>
      rw [List.filter_cons_of_pos (passes_iff.mpr hb), List.reverse_cons, List.append_assoc]
      exact hrest (x :: acc)
    | false =>
      have hx : ¬passes f x = true := by simp [passes_iff, hb]
      rw [List.filter_cons_of_neg hx]
      exact hrest acc

/-- A filter whose tests do not fail keeps what passes. -/
theorem filterM_of_ok (h : ∀ x ∈ l, ∃ b, f x = .ok b) :
    l.filterM f = .ok (l.filter (passes f)) := by
  unfold List.filterM
  rw [filterAuxM_of_ok h, List.append_nil]
  exact congrArg Except.ok (List.reverse_reverse _)

end Filter

namespace IncludePath

variable {h : Host} {root : Path} {inc : Config.Include} {entry architecture : String}
  {entries : List String} {baseline p q : Path} {seen ps : List Path}

/-! ## First occurrences -/

theorem mem_distinct : p ∈ distinct seen ps ↔ p ∈ ps ∧ p ∉ seen := by
  fun_induction distinct seen ps with
  | case1 seen => simp
  | case2 seen first ps hseen ih =>
    have hseen : first ∈ seen := by simpa using hseen
    grind
  | case3 seen first ps hseen ih =>
    have hseen : first ∉ seen := by simpa using hseen
    grind

theorem nodup_distinct (seen ps : List Path) : (distinct seen ps).Nodup := by
  fun_induction distinct seen ps with
  | case1 seen => exact List.nodup_nil
  | case2 seen first ps hseen ih => exact ih
  | case3 seen first ps hseen ih =>
    refine List.nodup_cons.mpr ⟨fun hmem => ?_, ih⟩
    exact (mem_distinct.mp hmem).2 List.mem_cons_self

/-- What has not occurred before is met in the order of first occurrences. -/
theorem idxOf_distinct (hp : p ∉ seen) (hq : q ∉ seen) :
    (distinct seen ps).idxOf p < (distinct seen ps).idxOf q ↔ ps.idxOf p < ps.idxOf q := by
  fun_induction distinct seen ps with
  | case1 seen => rfl
  | case2 seen first ps hseen ih =>
    have hseen : first ∈ seen := by simpa using hseen
    have hpfirst : first ≠ p := fun heq => hp (heq ▸ hseen)
    have hqfirst : first ≠ q := fun heq => hq (heq ▸ hseen)
    rw [ih hp hq, List.idxOf_cons_ne ps hpfirst, List.idxOf_cons_ne ps hqfirst]
    omega
  | case3 seen first ps hseen ih =>
    by_cases hpfirst : first = p
    · subst hpfirst
      by_cases hqfirst : first = q
      · subst hqfirst
        simp
      · simp [List.idxOf_cons_ne _ hqfirst]
    · by_cases hqfirst : first = q
      · subst hqfirst
        simp
      · have hrest := ih (by simp [hp, Ne.symm hpfirst]) (by simp [hq, Ne.symm hqfirst])
        simp only [List.idxOf_cons_ne _ hpfirst, List.idxOf_cons_ne _ hqfirst]
        omega

/-! ## Where directories come from -/

/-- The entry stands for the directory: with the home directory filled in, and below the root if it
is relative then. -/
def StandsFor (h : Host) (root : Path) (entry : String) (p : Path) : Prop :=
  ∃ q, h.expandHome (Path.ofString entry) = .ok q ∧
    p = if q.isAbsolute then q else ⟨root.anchor, root.parts ++ q.parts⟩

theorem place_eq_ok_iff : place h root entry = .ok p ↔ StandsFor h root entry p := by
  unfold place StandsFor Path.join
  cases h.expandHome (Path.ofString entry) with
  | error e => exact ⟨nofun, nofun⟩
  | ok q =>
    constructor
    · rintro ⟨⟩
      exact ⟨q, rfl, rfl⟩
    · rintro ⟨_, ⟨⟩, rfl⟩
      rfl

/-- The usual places that directories are taken from. -/
def present (h : Host) (root : Path) (inc : Config.Include) (architecture : String) : List Path :=
  if inc.replaceDefaults then [] else (usualPlaces root architecture).filter (passes h.isDir)

/-- The directories that the entries stand for. -/
def configured (h : Host) (root : Path) (entries : List String) : List Path :=
  entries.filterMap fun entry => (place h root entry).toOption

/-- All that is resolved, with repetitions. -/
def sources (h : Host) (root : Path) (inc : Config.Include) (architecture : String)
    (baseline : Path) : List Path :=
  baseline :: (present h root inc architecture ++ configured h root inc.libs)

theorem mem_present : p ∈ present h root inc architecture ↔
    inc.replaceDefaults = false ∧ p ∈ usualPlaces root architecture ∧ h.isDir p = .ok true := by
  unfold present
  split
  · next hreplace => simp [hreplace]
  · next hreplace => simp [hreplace, passes_iff]

theorem mem_configured :
    p ∈ configured h root entries ↔ ∃ entry ∈ entries, StandsFor h root entry p := by
  rw [configured, List.mem_filterMap]
  refine exists_congr fun entry => and_congr_right fun _ => ?_
  rw [← place_eq_ok_iff]
  exact ⟨ok_of_toOption, fun hplace => by rw [hplace]; rfl⟩

theorem placeAll_of_ok
    (hentries : ∀ entry ∈ entries, ∃ q, h.expandHome (Path.ofString entry) = .ok q)
    (root : Path) : placeAll h root entries = .ok (configured h root entries) := by
  induction entries with
  | nil => rfl
  | cons entry entries ih =>
    obtain ⟨q, hq⟩ := hentries entry List.mem_cons_self
    have hplace : place h root entry = .ok (root.join q) := by rw [place, hq]; rfl
    have hrest := ih fun entry' hentry' => hentries entry' (List.mem_cons_of_mem entry hentry')
    rw [placeAll, hplace, configured, List.filterMap_cons, hplace]
    simp only [hrest]
    rfl

/-- The name of the path is too long for the system. -/
def TooLong (h : Host) (p : Path) : Prop := p.hasNul = false ∧ h.walk p = .error .nameTooLong

instance (h : Host) (p : Path) : Decidable (TooLong h p) :=
  inferInstanceAs (Decidable (p.hasNul = false ∧ h.walk p = .error .nameTooLong))

theorem isDir_of_not_tooLong (hp : ¬TooLong h p) : ∃ b, h.isDir p = .ok b := by
  cases hdir : h.isDir p with
  | ok b => exact ⟨b, rfl⟩
  | error e =>
    obtain ⟨hnul, hwalk, -⟩ := isDir_error_iff.mp hdir
    exact absurd ⟨hnul, hwalk⟩ hp

theorem resolve_eq_distinct (inc : Config.Include)
    (hlibs : ∀ entry ∈ inc.libs, ∃ q, h.expandHome (Path.ofString entry) = .ok q)
    (hplaces : inc.replaceDefaults = true ∨ ∀ p ∈ usualPlaces root architecture, ¬TooLong h p)
    (baseline : Path) :
    resolve h root inc architecture baseline =
      .ok (distinct [] (sources h root inc architecture baseline)) := by
  unfold resolve sources present
  cases hreplace : inc.replaceDefaults with
  | true =>
    rw [placeAll_of_ok hlibs]
    rfl
  | false =>
    have hdirs : ∀ p ∈ usualPlaces root architecture, ∃ b, h.isDir p = .ok b := fun p hp =>
      isDir_of_not_tooLong ((hplaces.resolve_left (by simp [hreplace])) p hp)
    rw [placeAll_of_ok hlibs]
    simp only [Bool.false_eq_true, if_false, filterM_of_ok hdirs]
    rfl

/-! ## Resolved directories -/

/-- What paths are the directories for libraries, and in which order. -/
structure Ordered (h : Host) (root : Path) (inc : Config.Include) (architecture : String)
    (baseline : Path) (paths : List Path) : Prop where
  nodup : paths.Nodup
  head : paths.head? = some baseline
  mem_iff : ∀ p, p ∈ paths ↔ p = baseline ∨
    (inc.replaceDefaults = false ∧ p ∈ usualPlaces root architecture ∧ h.isDir p = .ok true) ∨
    ∃ entry ∈ inc.libs, StandsFor h root entry p
  precedes_iff : ∀ p ∈ paths, ∀ q ∈ paths, paths.idxOf p < paths.idxOf q ↔
    (sources h root inc architecture baseline).idxOf p <
      (sources h root inc architecture baseline).idxOf q
  absolute : root.isAbsolute = true → baseline.isAbsolute = true → ∀ p ∈ paths, p.isAbsolute = true

theorem isAbsolute_join (hroot : root.isAbsolute = true) (q : Path) :
    (root.join q).isAbsolute = true := by
  unfold Path.join
  split
  · next hq => exact hq
  · exact hroot

theorem isAbsolute_of_mem_usualPlaces (hroot : root.isAbsolute = true)
    (hp : p ∈ usualPlaces root architecture) : p.isAbsolute = true := by
  rcases List.mem_append.mp hp with hp | hp
  · obtain ⟨name, -, rfl⟩ := List.mem_map.mp hp
    exact isAbsolute_join hroot _
  · rw [List.mem_singleton.mp hp]
    exact isAbsolute_join (isAbsolute_join hroot _) _

theorem StandsFor.isAbsolute (hroot : root.isAbsolute = true) (hp : StandsFor h root entry p) :
    p.isAbsolute = true := by
  obtain ⟨q, -, rfl⟩ := hp
  exact isAbsolute_join hroot q

theorem mem_sources : p ∈ sources h root inc architecture baseline ↔ p = baseline ∨
    (inc.replaceDefaults = false ∧ p ∈ usualPlaces root architecture ∧ h.isDir p = .ok true) ∨
    ∃ entry ∈ inc.libs, StandsFor h root entry p := by
  rw [sources, List.mem_cons, List.mem_append, mem_present, mem_configured]

/-- Without the usual places, what is missing is what only they have. -/
theorem mem_sources_replaced :
    p ∈ sources h root { inc with replaceDefaults := true } architecture baseline ↔
      p ∈ sources h root inc architecture baseline ∧
        ¬(p ∈ usualPlaces root architecture ∧ h.isDir p = .ok true ∧ p ≠ baseline ∧
          ∀ entry ∈ inc.libs, ¬StandsFor h root entry p) := by
  simp only [mem_sources, Bool.true_eq_false, false_and, false_or]
  constructor
  · rintro (rfl | hentry)
    · exact ⟨.inl rfl, fun ⟨_, _, hne, _⟩ => hne rfl⟩
    · obtain ⟨entry, hmem, hp⟩ := hentry
      exact ⟨.inr (.inr ⟨entry, hmem, hp⟩), fun ⟨_, _, _, hnone⟩ => hnone entry hmem hp⟩
  · rintro ⟨rfl | ⟨-, hp, hdir⟩ | hentry, honly⟩
    · exact .inl rfl
    · by_contra hother
      simp only [not_or, not_exists, not_and] at hother
      exact honly ⟨hp, hdir, hother⟩
    · exact .inr hentry

theorem mem_distinct_sources : p ∈ distinct [] (sources h root inc architecture baseline) ↔
    p ∈ sources h root inc architecture baseline := by
  simp [mem_distinct]

theorem ordered_distinct (h : Host) (root : Path) (inc : Config.Include) (architecture : String)
    (baseline : Path) :
    Ordered h root inc architecture baseline
      (distinct [] (sources h root inc architecture baseline)) where
  nodup := nodup_distinct _ _
  head := rfl
  mem_iff p := mem_distinct_sources.trans mem_sources
  precedes_iff p _ q _ := idxOf_distinct List.not_mem_nil List.not_mem_nil
  absolute hroot hbaseline p hp := by
    rcases mem_sources.mp (mem_distinct_sources.mp hp) with rfl | ⟨-, hp, -⟩ | ⟨entry, -, hp⟩
    · exact hbaseline
    · exact isAbsolute_of_mem_usualPlaces hroot hp
    · exact hp.isAbsolute hroot

/-- If every entry can be expanded, the directories for libraries are the first occurrences among
the baseline, the usual places that exist, and the configured directories, unless a usual place is
looked for whose name is too long. To leave the usual places out takes away those that nothing else
asks for. -/
theorem resolve_ordered
    (hlibs : ∀ entry ∈ inc.libs, ∃ q, h.expandHome (Path.ofString entry) = .ok q)
    (baseline : Path) :
    (inc.replaceDefaults = false → (∃ p ∈ usualPlaces root architecture, TooLong h p) →
      ∃ p ∈ usualPlaces root architecture, TooLong h p ∧
        resolve h root inc architecture baseline = .error (.system .nameTooLong p.text)) ∧
    (inc.replaceDefaults = true ∨ (∀ p ∈ usualPlaces root architecture, ¬TooLong h p) →
      ∃ paths, resolve h root inc architecture baseline = .ok paths ∧
        Ordered h root inc architecture baseline paths ∧
        ∃ paths', resolve h root { inc with replaceDefaults := true } architecture baseline =
            .ok paths' ∧
          ∀ p, p ∈ paths' ↔ p ∈ paths ∧
            ¬(p ∈ usualPlaces root architecture ∧ h.isDir p = .ok true ∧ p ≠ baseline ∧
              ∀ entry ∈ inc.libs, ¬StandsFor h root entry p)) := by
  refine ⟨fun hdefaults ⟨p, hp, hnul, hwalk⟩ => ?_, fun hplaces => ?_⟩
  · obtain ⟨e, hresolve⟩ := resolve_of_unresolvable (.usual hdefaults hp hnul hwalk) baseline
    cases resolve_error hresolve with
    | @usual p' _ hp' hnul' hwalk' => exact ⟨p', hp', ⟨hnul', hwalk'⟩, hresolve⟩
    | configured hentry hhomeless =>
      obtain ⟨q, hq⟩ := hlibs _ hentry
      have hplace : place h root _ = .error e := place_error_iff.mpr hhomeless
      rw [place, hq] at hplace
      cases hplace
  · refine ⟨_, resolve_eq_distinct inc hlibs hplaces baseline, ordered_distinct .., _,
      resolve_eq_distinct { inc with replaceDefaults := true } hlibs (.inl rfl) baseline,
      fun p => ?_⟩
    simp only [mem_distinct_sources]
    exact mem_sources_replaced

/-- A host with a home directory `/h` and a project in `/r`, part of whose usual places exist. -/
def housed : Host where
  tree := ⟨[(["r"], .dir), (["r", "lib"], .dir), (["r", "xt"], .dir), (["r", "local"], .dir),
    (["r", "local", "lib"], .dir), (["r", "local", "lib", "perl5"], .dir)]⟩
  cwd := []
  environment := [("HOME", "/h")]
  homes := []
  bundled := ⟨.root, ["perl5"]⟩
  modules := []

/-- Entries that stand for two directories in several ways each, and for one that does not exist. -/
def respelled : Config.Include :=
  { libs := ["/r/lib/", "~/x", "./extra", "/h//x", "lib", "extra/."] }

/-- The directories of these entries, without repetitions. -/
def unrepeated : List Path :=
  [housed.bundled, ⟨.root, ["r", "lib"]⟩, ⟨.root, ["h", "x"]⟩, ⟨.root, ["r", "extra"]⟩]

theorem resolve_ordered_respelled :
    resolve housed ⟨.root, ["r"]⟩ respelled "arch" housed.bundled = .ok unrepeated ∧
      Ordered housed ⟨.root, ["r"]⟩ respelled "arch" housed.bundled unrepeated := by
  have hlibs : ∀ entry ∈ respelled.libs, ∃ q, housed.expandHome (Path.ofString entry) = .ok q := by
    intro entry hentry
    simp only [respelled, List.mem_cons, List.not_mem_nil, or_false] at hentry
    rcases hentry with rfl | rfl | rfl | rfl | rfl | rfl <;> exact ⟨_, rfl⟩
  have hplaces : ∀ p ∈ usualPlaces ⟨.root, ["r"]⟩ "arch", ¬TooLong housed p := by
    decide +kernel
  obtain ⟨paths, hpaths, hordered, -⟩ := (resolve_ordered hlibs housed.bundled).2 (.inr hplaces)
  have hresolve : resolve housed ⟨.root, ["r"]⟩ respelled "arch" housed.bundled =
      .ok unrepeated := by decide +kernel
  cases hpaths.symm.trans hresolve
  exact ⟨hresolve, hordered⟩

/-- A name of 300 letters, more than a directory can have. -/
def overlongTag : String := String.ofList (List.replicate 300 'x')

theorem toList_overlongTag : overlongTag.toList = List.replicate 300 'x' := String.toList_ofList

theorem utf8ByteSize_replicate (n : Nat) :
    (String.ofList (List.replicate n 'x')).utf8ByteSize = n := by
  induction n with
  | zero => rfl
  | succ n ih =>
    rw [List.replicate_succ', String.ofList_append, String.utf8ByteSize_append, ih]
    rfl

theorem walk_housed {tag : String} (htag : FileTree.maxName < tag.utf8ByteSize) :
    housed.walk ⟨.root, ["r", "local", "lib", "perl5", tag]⟩ = .error .nameTooLong := by
  have hdot : tag ≠ "." := by
    rintro rfl
    exact absurd htag (by decide)
  have hdots : tag ≠ ".." := by
    rintro rfl
    exact absurd htag (by decide)
  unfold Host.walk
  split
  · rfl
  · simp [Host.start, Path.isAbsolute, FileTree.maxLinks, FileTree.walk, FileTree.walkWith,
      FileTree.find?, housed, List.lookup_cons, hdot, hdots, htag]

theorem tooLong_overlongTag :
    TooLong housed ⟨.root, ["r", "local", "lib", "perl5", overlongTag]⟩ := by
  refine ⟨?_, walk_housed (Nat.lt_of_lt_of_eq (by decide) (utf8ByteSize_replicate 300).symm)⟩
  simp only [Path.hasNul, List.any_cons, List.any_nil, toList_overlongTag]
  decide +kernel

theorem mem_usualPlaces_overlongTag :
    ⟨.root, ["r", "local", "lib", "perl5", overlongTag]⟩ ∈
      usualPlaces ⟨.root, ["r"]⟩ overlongTag := by
  have htag : Path.ofString overlongTag = ⟨.relative, [overlongTag]⟩ := by
    unfold Path.ofString
    rw [toList_overlongTag]
    unfold overlongTag
    decide +kernel
  rw [usualPlaces, htag]
  exact List.mem_append_right _ (List.mem_singleton.mpr rfl)

/-- A usual place with a name that is too long is not passed over, though it cannot exist. -/
theorem not_resolve_ordered :
    ¬∀ (h : Host) (root : Path) (inc : Config.Include) (architecture : String) (baseline : Path),
      (∀ entry ∈ inc.libs, ∃ q, h.expandHome (Path.ofString entry) = .ok q) →
        ∃ paths, resolve h root inc architecture baseline = .ok paths ∧
          Ordered h root inc architecture baseline paths := by
  intro hall
  obtain ⟨paths, hpaths, -⟩ := hall housed ⟨.root, ["r"]⟩ {} overlongTag housed.bundled nofun
  obtain ⟨hnul, hwalk⟩ := tooLong_overlongTag
  have hbad : Unresolvable housed ⟨.root, ["r"]⟩ {} overlongTag _ :=
    .usual rfl mem_usualPlaces_overlongTag hnul hwalk
  obtain ⟨e, hfails⟩ := resolve_of_unresolvable hbad housed.bundled
  cases hpaths.symm.trans hfails

end IncludePath

end PerlVet
