import Mathlib.Data.List.Induction
import PerlVet.Host

/-!
A path that can be walked can be resolved. `Leads` is the meaning of steps through a tree with
links: where they lead, and how many links are replaced on the way. A walk that ends somewhere
follows it (`walk_leads`). Where steps lead and what that costs depends on nothing but the place
they start from (`Leads.unique`), so that a link that is being replaced is not met again on the way
of its own target, which costs less than the link. The links that are being replaced are therefore
at different places (`Opened`), and there is fuel for all of them (`Leads.resolveFrom`).
-/

namespace PerlVet

namespace FileTree

/-- The step names something in a directory. -/
def Named (name : String) : Prop := name ≠ "" ∧ name ≠ "." ∧ name ≠ ".."

/-- Where the steps of the target of a link start, if the link lies in `p`. -/
def origin (p : Place) (target : String) : Place := if fromRoot target then [] else p

/-- The steps lead from one place to another, and `n` links are replaced by their targets. -/
inductive Leads (t : FileTree) : Place → List String → Place → Nat → Prop where
  | here (p : Place) : Leads t p [] p 0
  | stay {p q : Place} {name : String} {names : List String} {n : Nat} : name = "" ∨ name = "." →
    Leads t p names q n → Leads t p (name :: names) q n
  | up {p q : Place} {names : List String} {n : Nat} :
    Leads t p.dropLast names q n → Leads t p (".." :: names) q n
  | down {p q : Place} {name : String} {names : List String} {n : Nat} : Named name →
    (∀ target, t.find? (p ++ [name]) ≠ some (.link target)) → Leads t (p ++ [name]) names q n →
    Leads t p (name :: names) q n
  | link {p p' q : Place} {name target : String} {names : List String} {n m : Nat} : Named name →
    t.find? (p ++ [name]) = some (.link target) → Leads t (origin p target) (allSteps target) p' n →
    Leads t p' names q m → Leads t p (name :: names) q (n + m + 1)

variable {t : FileTree} {p q : Place} {name target : String} {names names' : List String} {n : Nat}

/-! ## Where steps lead -/

theorem Leads.append (h : Leads t p (names ++ names') q n) :
    ∃ p' k m, Leads t p names p' k ∧ Leads t p' names' q m ∧ n = k + m := by
  induction names generalizing p n with
  | nil => exact ⟨p, 0, n, .here p, h, (Nat.zero_add n).symm⟩
  | cons name names ih =>
    cases h with
    | stay hidle h =>
      obtain ⟨p', k, m, hfirst, hrest, rfl⟩ := ih h
      exact ⟨p', k, m, .stay hidle hfirst, hrest, rfl⟩
    | up h =>
      obtain ⟨p', k, m, hfirst, hrest, rfl⟩ := ih h
      exact ⟨p', k, m, .up hfirst, hrest, rfl⟩
    | down hnamed hplain h =>
      obtain ⟨p', k, m, hfirst, hrest, rfl⟩ := ih h
      exact ⟨p', k, m, .down hnamed hplain hfirst, hrest, rfl⟩
    | link hnamed hlink htarget h =>
      obtain ⟨p', k, m, hfirst, hrest, rfl⟩ := ih h
      exact ⟨p', _, m, .link hnamed hlink htarget hfirst, hrest, by omega⟩

theorem Leads.dropLast (h : Leads t p names q n) : ∃ q' n', Leads t p names.dropLast q' n' := by
  cases names using List.reverseRecOn with
  | nil => exact ⟨q, n, h⟩
  | append_singleton names name =>
    obtain ⟨q', k, -, hfirst, -⟩ := h.append
    rw [List.dropLast_concat]
    exact ⟨q', k, hfirst⟩

theorem not_named_of_idle (h : name = "" ∨ name = ".") : ¬Named name := by
  rintro ⟨hempty, hdot, -⟩
  exact h.elim hempty hdot

theorem not_named_up : ¬Named ".." := fun h => h.2.2 rfl

/-- Steps lead to one place only, by one way. -/
theorem Leads.unique {q' : Place} {n' : Nat} (h : Leads t p names q n)
    (h' : Leads t p names q' n') : q = q' ∧ n = n' := by
  induction h generalizing q' n' with
  | here => cases h'; exact ⟨rfl, rfl⟩
  | stay hidle h ih =>
    cases h' with
    | stay _ h' => exact ih h'
    | up => exact absurd hidle (by decide)
    | down hnamed => exact absurd hnamed (not_named_of_idle hidle)
    | link hnamed => exact absurd hnamed (not_named_of_idle hidle)
  | up h ih =>
    cases h' with
    | stay hidle => exact absurd hidle (by decide)
    | up h' => exact ih h'
    | down hnamed => exact absurd hnamed not_named_up
    | link hnamed => exact absurd hnamed not_named_up
  | down hnamed hplain h ih =>
    cases h' with
    | stay hidle => exact absurd hnamed (not_named_of_idle hidle)
    | up => exact absurd hnamed not_named_up
    | down _ _ h' => exact ih h'
    | link _ hlink => exact absurd hlink (hplain _)
  | link hnamed hlink htarget h ihtarget ih =>
    cases h' with
    | stay hidle => exact absurd hnamed (not_named_of_idle hidle)
    | up => exact absurd hnamed not_named_up
    | down _ hplain => exact absurd hlink (hplain _)
    | link _ hlink' htarget' h' =>
      rw [hlink] at hlink'
      cases hlink'
      obtain ⟨rfl, rfl⟩ := ihtarget htarget'
      obtain ⟨rfl, rfl⟩ := ih h'
      exact ⟨rfl, rfl⟩

/-! ## Steps that do not count -/

/-- The step counts: it is neither empty nor `.`. -/
def isBusy (name : String) : Bool := name != "" && name != "."

theorem isBusy_eq_false_iff : isBusy name = false ↔ name = "" ∨ name = "." := by
  simp only [isBusy, Bool.and_eq_false_iff, bne_eq_false_iff_eq]

/-- Steps that do not count can be put in and left out. -/
theorem leads_filter_iff : Leads t p (names.filter isBusy) q n ↔ Leads t p names q n := by
  induction names generalizing p n with
  | nil => rfl
  | cons name names ih =>
    cases hbusy : isBusy name with
    | false =>
      have hidle := isBusy_eq_false_iff.mp hbusy
      rw [List.filter_cons_of_neg (by simp [hbusy]), ih]
      constructor
      · exact .stay hidle
      · intro h
        cases h with
        | stay _ h => exact h
        | up => exact absurd hidle (by decide)
        | down hnamed => exact absurd hnamed (not_named_of_idle hidle)
        | link hnamed => exact absurd hnamed (not_named_of_idle hidle)
    | true =>
      rw [List.filter_cons_of_pos hbusy]
      have hbusy : ¬(name = "" ∨ name = ".") := by
        rw [← isBusy_eq_false_iff, hbusy]
        exact nofun
      constructor
      · intro h
        cases h with
        | stay hidle => exact absurd hidle hbusy
        | up h => exact .up (ih.mp h)
        | down hnamed hplain h => exact .down hnamed hplain (ih.mp h)
        | link hnamed hlink htarget h => exact .link hnamed hlink htarget (ih.mp h)
      · intro h
        cases h with
        | stay hidle => exact absurd hidle hbusy
        | up h => exact .up (ih.mpr h)
        | down hnamed hplain h => exact .down hnamed hplain (ih.mpr h)
        | link hnamed hlink htarget h => exact .link hnamed hlink htarget (ih.mpr h)

theorem filter_map_ofList (ps : List (List Char)) :
    ((ps.filter (!·.isEmpty)).map String.ofList).filter isBusy =
      (ps.map String.ofList).filter isBusy := by
  induction ps with
  | nil => rfl
  | cons p ps ih =>
    cases p with
    | nil => simpa [isBusy] using ih
    | cons c cs => simp [List.filter_cons, ih]

/-- The two ways to cut the target of a link into steps agree on those that count. -/
theorem filter_stepsOf (s : String) : (stepsOf s).filter isBusy = (allSteps s).filter isBusy := by
  have hlast (b : Bool) : (if b then ["."] else []).filter isBusy = [] := by
    cases b <;> decide
  have hall : (allSteps s).filter isBusy =
      ((Text.pieces '/' s.toList).map String.ofList).filter isBusy := by
    unfold allSteps
    dsimp only
    cases s.toList with
    | nil => rfl
    | cons c cs =>
      split
      · next hroot =>
        obtain rfl : c = '/' := by simpa using hroot
        rfl
      · rfl
  rw [hall, stepsOf, List.filter_append, filter_map_ofList, hlast, List.append_nil]

theorem leads_allSteps (h : Leads t p (stepsOf target) q n) : Leads t p (allSteps target) q n := by
  rw [← leads_filter_iff, ← filter_stepsOf, leads_filter_iff]
  exact h

theorem ne_empty_of_mem_stepsOf (h : name ∈ stepsOf target) : name ≠ "" := by
  unfold stepsOf at h
  rcases List.mem_append.mp h with h | h
  · obtain ⟨cs, hcs, rfl⟩ := List.mem_map.mp h
    have hne : cs ≠ [] := by simpa using (List.mem_filter.mp hcs).2
    simpa [String.ofList_eq_empty_iff] using hne
  · split at h
    · obtain rfl : name = "." := by simpa using h
      decide
    · cases h

/-! ## Walks -/

/-- Where a walk through a directory ends is where its steps lead, if that is so once a link has
been met. -/
theorem walkWith_leads {onLink : Place → List String → Walk} {node : FileNode}
    (hlinks : ∀ {p names q node}, onLink p names = .ok (q, node) → (∀ name ∈ names, name ≠ "") →
      ∃ n, Leads t p names q n)
    (hwalk : t.walkWith onLink names p = .ok (q, node)) (hnames : ∀ name ∈ names, name ≠ "") :
    ∃ n, Leads t p names q n := by
  induction names generalizing p with
  | nil =>
    rw [walkWith] at hwalk
    split at hwalk <;> cases hwalk
    exact ⟨0, .here _⟩
  | cons name names ih =>
    have hrest : ∀ name ∈ names, name ≠ "" := fun name' h => hnames name' (List.mem_cons_of_mem _ h)
    rw [walkWith] at hwalk
    split at hwalk
    · split at hwalk
      · next hdot =>
        obtain ⟨n, hleads⟩ := ih hwalk hrest
        exact ⟨n, .stay (.inr (by simpa using hdot)) hleads⟩
      · next hdot =>
        split at hwalk
        · next hup =>
          obtain rfl : name = ".." := by simpa using hup
          obtain ⟨n, hleads⟩ := ih hwalk hrest
          exact ⟨n, .up hleads⟩
        · next hup =>
          have hnamed : Named name :=
            ⟨hnames name List.mem_cons_self, by simpa using hdot, by simpa using hup⟩
          split at hwalk
          · cases hwalk
          · next target hlink =>
            -- The walk goes on with the steps of the target in front of the others; the way is cut
            -- where the target ends.
            obtain ⟨n, hleads⟩ := hlinks hwalk (by
              intro name' hmem
              rcases List.mem_append.mp hmem with hmem | hmem
              · exact ne_empty_of_mem_stepsOf hmem
              · exact hrest name' hmem)
            obtain ⟨p', k, m, htarget, hafter, -⟩ := hleads.append
            exact ⟨_, .link hnamed hlink (leads_allSteps htarget) hafter⟩
          · next node' hplain hnode =>
            obtain ⟨n, hleads⟩ := ih hwalk hrest
            refine ⟨n, .down hnamed (fun target hlink => ?_) hleads⟩
            exact hplain target (Option.some.inj (hnode.symm.trans hlink))
    · cases hwalk
    · cases hwalk

theorem walk_leads {links : Nat} {node : FileNode} (hwalk : t.walk links p names = .ok (q, node))
    (hnames : ∀ name ∈ names, name ≠ "") : ∃ n, Leads t p names q n := by
  induction links generalizing p names q node with
  | zero => exact walkWith_leads (fun hloop => by cases hloop) hwalk hnames
  | succ links ih => exact walkWith_leads ih hwalk hnames

/-! ## Routes -/

theorem dropDots_concat_named (hname : Named name) (names : List String) :
    dropDots (names ++ [name]) = dropDots names ++ [name] := by
  obtain ⟨hempty, hdot, hup⟩ := hname
  simp [dropDots, hempty, hdot, hup]

theorem dropDots_concat_up (names : List String) :
    dropDots (names ++ [".."]) = (dropDots names).dropLast := by
  simp [dropDots]

/-- A place by names only is where it is. -/
theorem dropDots_of_named {p : Place} (hp : ∀ name ∈ p, Named name) : dropDots p = p := by
  induction p using List.reverseRecOn with
  | nil => rfl
  | append_singleton p name ih =>
    rw [dropDots_concat_named (hp name (by simp)), ih fun name' h => hp name' (by simp [h])]

namespace Route

variable {r : Route} {start : Place}

/-- The steps of a route are names, after steps upwards if it does not start at the root. -/
def Normal (r : Route) : Prop :=
  ∃ k names, r.steps = List.replicate k ".." ++ names ∧ (r.fromRoot = true → k = 0) ∧
    ∀ name ∈ names, Named name

theorem normal_nil (fromRoot : Bool) : Normal ⟨fromRoot, []⟩ := ⟨0, [], rfl, fun _ => rfl, nofun⟩

theorem Normal.down (hr : r.Normal) (hname : Named name) : (r.down name).Normal := by
  obtain ⟨k, names, hsteps, hroot, hnames⟩ := hr
  refine ⟨k, names ++ [name], ?_, hroot, ?_⟩
  · simp [Route.down, hsteps]
  · intro name' hmem
    rcases List.mem_append.mp hmem with hmem | hmem
    · exact hnames name' hmem
    · rw [List.mem_singleton.mp hmem]
      exact hname

theorem place_down (hname : Named name) (start : Place) (r : Route) :
    (r.down name).place start = r.place start ++ [name] := by
  rw [place, Route.down, ← List.append_assoc, dropDots_concat_named hname]
  rfl

/-- A step upwards takes the last name away. If there is none, it is added to those in front of the
names, or does nothing at the root. -/
theorem up_cases (hr : r.Normal) :
    (r.up = r.down ".." ∧ r.up.Normal) ∨ (r.up = r ∧ r = ⟨true, []⟩) ∨
      ∃ last, Named last ∧ r = r.up.down last ∧ r.up.Normal := by
  obtain ⟨fromRoot, steps⟩ := r
  obtain ⟨k, names, rfl, hroot, hnames⟩ := hr
  -- Only the last of the names matters, not those before it.
  cases names using List.reverseRecOn with
  | nil =>
    cases fromRoot with
    | false =>
      have hup : Route.up ⟨false, List.replicate k ".." ++ []⟩ =
          Route.down ⟨false, List.replicate k ".." ++ []⟩ ".." := by
        simp [Route.up]
      rw [hup]
      refine .inl ⟨rfl, k + 1, [], ?_, nofun, nofun⟩
      simp [Route.down, List.replicate_succ']
    | true =>
      obtain rfl := hroot rfl
      exact .inr (.inl ⟨rfl, rfl⟩)
  | append_singleton init last =>
    have hlast := hnames last (by simp)
    have hup : Route.up ⟨fromRoot, List.replicate k ".." ++ (init ++ [last])⟩ =
        ⟨fromRoot, List.replicate k ".." ++ init⟩ := by
      simp [Route.up, hlast.2.2, ← List.append_assoc]
    rw [hup]
    refine .inr (.inr ⟨last, hlast, ?_, k, init, rfl, hroot, fun name h => hnames name ?_⟩)
    · simp [Route.down]
    · simp [h]

theorem Normal.up (hr : r.Normal) : r.up.Normal := by
  rcases up_cases hr with ⟨-, hup⟩ | ⟨hup, -⟩ | ⟨last, -, -, hup⟩
  · exact hup
  · rw [hup]
    exact hr
  · exact hup

theorem place_up (hr : r.Normal) (start : Place) : r.up.place start = (r.place start).dropLast := by
  rcases up_cases hr with ⟨hup, -⟩ | ⟨hup, rfl⟩ | ⟨last, hlast, heq, -⟩
  · rw [hup, place, Route.down, ← List.append_assoc, dropDots_concat_up]
    rfl
  · rfl
  · have hplace := place_down hlast start r.up
    rw [← heq] at hplace
    rw [hplace, List.dropLast_concat]

end Route

/-! ## Resolving -/

section Steps

variable {start : Place} {fuel : Nat} {opened : List Route} {r r' : Route}

theorem resolveFrom_stay (hidle : name = "" ∨ name = ".") :
    t.resolveFrom start (fuel + 1) opened (name :: names) r =
      t.resolveFrom start (fuel + 1) opened names r := by
  rw [resolveFrom, resolveWith, if_pos (by simpa using hidle), resolveFrom]

theorem resolveFrom_up :
    t.resolveFrom start (fuel + 1) opened (".." :: names) r =
      t.resolveFrom start (fuel + 1) opened names r.up := by
  rw [resolveFrom, resolveWith, if_neg (by decide), if_pos (by decide), resolveFrom]

theorem resolveFrom_down (hname : Named name)
    (hplain : ∀ target, t.find? ((r.down name).place start) ≠ some (.link target)) :
    t.resolveFrom start (fuel + 1) opened (name :: names) r =
      t.resolveFrom start (fuel + 1) opened names (r.down name) := by
  obtain ⟨hempty, hdot, hup⟩ := hname
  rw [resolveFrom, resolveWith, if_neg (by simp [hempty, hdot]), if_neg (by simp [hup])]
  dsimp only
  split
  · next target hlink => exact absurd hlink (hplain target)
  · rw [resolveFrom]

theorem resolveFrom_link (hname : Named name)
    (hlink : t.find? ((r.down name).place start) = some (.link target))
    (hnew : r.down name ∉ opened)
    (htarget : t.resolveFrom start fuel (r.down name :: opened) (allSteps target)
      (if fromRoot target then ⟨true, []⟩ else r) = (r', true)) :
    t.resolveFrom start (fuel + 1) opened (name :: names) r =
      t.resolveFrom start (fuel + 1) opened names r' := by
  obtain ⟨hempty, hdot, hup⟩ := hname
  rw [resolveFrom, resolveWith, if_neg (by simp [hempty, hdot]), if_neg (by simp [hup])]
  dsimp only
  rw [hlink]
  dsimp only
  rw [if_neg (by simpa using hnew), htarget, resolveFrom]

end Steps

/-- A link costs as many replacements as those on the way of its target, and itself. -/
def Costs (t : FileTree) (l : Place) (n : Nat) : Prop :=
  ∃ p name target p' k, l = p ++ [name] ∧ t.find? l = some (.link target) ∧
    Leads t (origin p target) (allSteps target) p' k ∧ n = k + 1

theorem Costs.unique {l : Place} {m : Nat} (h : Costs t l n) (h' : Costs t l m) : n = m := by
  obtain ⟨p, name, target, p₁, k, rfl, hlink, hleads, rfl⟩ := h
  obtain ⟨p', name', target', p₂, k', heq, hlink', hleads', rfl⟩ := h'
  obtain ⟨rfl, -⟩ := List.append_inj' heq rfl
  rw [hlink] at hlink'
  cases hlink'
  rw [(hleads.unique hleads').2]

theorem Costs.mem_nodes {l : Place} (h : Costs t l n) : l ∈ t.nodes.map (·.1) := by
  obtain ⟨p, name, target, p₁, k, rfl, hlink, -⟩ := h
  have hlookup : t.nodes.lookup (p ++ [name]) = some (.link target) := by
    rw [← hlink, find?]
    simp
  obtain ⟨before, after, hnodes, -⟩ := List.lookup_eq_some_iff.mp hlookup
  rw [hnodes]
  simp

/-- Links that are being replaced while steps are taken that cost `n` replacements: they lie at
different places, each of them costs more, and the fuel lasts for the links that are left. -/
structure Opened (t : FileTree) (start : Place) (fuel : Nat) (opened : List Route) (n : Nat) :
    Prop where
  nodup : (opened.map (·.place start)).Nodup
  costs : ∀ l ∈ opened, ∃ m, n < m ∧ Costs t (l.place start) m
  fuel : t.nodes.length < fuel + opened.length

namespace Opened

variable {start : Place} {fuel m : Nat} {opened : List Route} {r : Route}

theorem mono (h : Opened t start fuel opened n) (hm : m ≤ n) : Opened t start fuel opened m := by
  refine ⟨h.nodup, fun l hl => ?_, h.fuel⟩
  obtain ⟨k, hk, hcosts⟩ := h.costs l hl
  exact ⟨k, by omega, hcosts⟩

/-- There cannot be more links than places. -/
theorem exists_fuel (h : Opened t start fuel opened n) : ∃ fuel', fuel = fuel' + 1 := by
  have hle : (opened.map (·.place start)).length ≤ (t.nodes.map (·.1)).length := by
    refine h.nodup.length_le_of_subset fun place hplace => ?_
    obtain ⟨l, hl, rfl⟩ := List.mem_map.mp hplace
    obtain ⟨m, -, hcosts⟩ := h.costs l hl
    exact hcosts.mem_nodes
  rw [List.length_map, List.length_map] at hle
  have hfuel := h.fuel
  exact ⟨fuel - 1, by omega⟩

/-- A link that costs less than the steps that are being taken is a new one. -/
theorem not_mem (h : Opened t start fuel opened n) (hcosts : Costs t (r.place start) m)
    (hm : m ≤ n) : r.place start ∉ opened.map (·.place start) := by
  intro hmem
  obtain ⟨l, hl, hplace⟩ := List.mem_map.mp hmem
  obtain ⟨k, hk, hcosts'⟩ := h.costs l hl
  rw [hplace] at hcosts'
  have heq := hcosts.unique hcosts'
  omega

theorem cons (h : Opened t start (fuel + 1) opened n) (hcosts : Costs t (r.place start) (m + 1))
    (hm : m + 1 ≤ n) : Opened t start fuel (r :: opened) m := by
  refine ⟨List.nodup_cons.mpr ⟨h.not_mem hcosts hm, h.nodup⟩, ?_, ?_⟩
  · intro l hl
    rcases List.mem_cons.mp hl with rfl | hl
    · exact ⟨m + 1, by omega, hcosts⟩
    · obtain ⟨k, hk, hcosts'⟩ := h.costs l hl
      exact ⟨k, by omega, hcosts'⟩
  · have hfuel := h.fuel
    rw [List.length_cons]
    omega

end Opened

/-- Steps that lead somewhere are resolved to a route there. -/
theorem Leads.resolveFrom {start : Place} (h : Leads t p names q n) {fuel : Nat}
    {opened : List Route} {r : Route} (hr : r.Normal) (hp : r.place start = p)
    (hopened : Opened t start fuel opened n) :
    ∃ r', t.resolveFrom start fuel opened names r = (r', true) ∧ r'.Normal ∧
      r'.place start = q := by
  induction h generalizing fuel opened r with
  | here p =>
    obtain ⟨fuel, rfl⟩ := hopened.exists_fuel
    exact ⟨r, rfl, hr, hp⟩
  | stay hidle h ih =>
    obtain ⟨fuel, rfl⟩ := hopened.exists_fuel
    rw [resolveFrom_stay hidle]
    exact ih hr hp hopened
  | up h ih =>
    obtain ⟨fuel, rfl⟩ := hopened.exists_fuel
    rw [resolveFrom_up]
    exact ih hr.up (by rw [Route.place_up hr, hp]) hopened
  | down hname hplain h ih =>
    obtain ⟨fuel, rfl⟩ := hopened.exists_fuel
    have hplace : (r.down _).place start = _ := Route.place_down hname start r
    rw [hp] at hplace
    rw [resolveFrom_down hname (by rw [hplace]; exact hplain)]
    exact ih (hr.down hname) hplace hopened
  | @link p p' q name target names n m hname hlink htarget h ihtarget ih =>
    -- The target costs `n` and the link `n + 1`: the link is opened for the target and closed again
    -- for the other steps.
    obtain ⟨fuel, rfl⟩ := hopened.exists_fuel
    have hplace : (r.down name).place start = p ++ [name] := by rw [Route.place_down hname, hp]
    have hcosts : Costs t ((r.down name).place start) (n + 1) :=
      ⟨p, name, target, p', n, hplace, by rw [hplace]; exact hlink, htarget, rfl⟩
    have hnew : r.down name ∉ opened := fun hmem =>
      hopened.not_mem hcosts (by omega) (List.mem_map_of_mem hmem)
    have horigin : (if fromRoot target then ⟨true, []⟩ else r : Route).Normal ∧
        (if fromRoot target then ⟨true, []⟩ else r : Route).place start = origin p target := by
      unfold origin
      split
      · exact ⟨Route.normal_nil true, rfl⟩
      · exact ⟨hr, hp⟩
    obtain ⟨r', hresolved, hr', hp'⟩ :=
      ihtarget horigin.1 horigin.2 (hopened.cons hcosts (by omega))
    rw [resolveFrom_link hname (by rw [hplace]; exact hlink) hnew hresolved]
    exact ih hr' hp' (hopened.mono (by omega))

theorem Leads.resolve {start : Place} {absolute : Bool} (hstart : ∀ name ∈ start, Named name)
    (h : Leads t (if absolute then [] else start) names q n) :
    t.resolve start absolute names = (q, true) := by
  have hplace : Route.place start ⟨absolute, []⟩ = if absolute then [] else start := by
    cases absolute with
    | true => rfl
    | false => rw [Route.place, List.append_nil]; exact dropDots_of_named hstart
  have hopened : Opened t start (t.nodes.length * (start.length + 2) + 1) [] n := by
    refine ⟨List.nodup_nil, nofun, ?_⟩
    have hle : t.nodes.length * 1 ≤ t.nodes.length * (start.length + 2) :=
      Nat.mul_le_mul_left _ (by omega)
    rw [List.length_nil]
    omega
  obtain ⟨r, hresolved, -, hr⟩ := h.resolveFrom (Route.normal_nil absolute) hplace hopened
  unfold FileTree.resolve
  dsimp only
  rw [hresolved, hr]

end FileTree

namespace Host
open FileTree

variable {h : Host} {bytes : List UInt8} {name : String}

theorem ne_empty_of_mem_partsOf {cs : List Char} (hname : name ∈ Path.partsOf cs) : name ≠ "" := by
  unfold Path.partsOf at hname
  obtain ⟨piece, -, hpiece⟩ := List.mem_filterMap.mp hname
  split at hpiece
  · cases hpiece
  · next hbusy =>
    cases hpiece
    simp only [Bool.or_eq_true, not_or] at hbusy
    simpa [String.ofList_eq_empty_iff] using hbusy.1

theorem hasNul_parent {p : Path} (hnul : p.hasNul = false) : p.parent.hasNul = false := by
  simp only [Path.hasNul, List.any_eq_false] at hnul ⊢
  exact fun name hname => hnul name (List.dropLast_subset _ hname)

/-- The directory of a file that can be read can be resolved: it is where the steps to it lead. -/
theorem resolve_parent_of_readBytes (hcwd : ∀ name ∈ h.cwd, Named name)
    (hbytes : h.readBytes (Path.ofString name) = .ok bytes) :
    ∃ q n, Leads h.tree (h.start (Path.ofString name)) (Path.ofString name).parent.parts q n ∧
      h.resolve (Path.ofString name).parent = .ok (pathOf q) := by
  unfold readBytes at hbytes
  split at hbytes
  · cases hbytes
  · next hnul =>
    have hnul := hasNul_parent (by simpa using hnul)
    split at hbytes
    · next q' bytes' executable hwalk =>
      unfold walk at hwalk
      split at hwalk
      · cases hwalk
      · obtain ⟨n', hleads⟩ := walk_leads hwalk fun name hname => ne_empty_of_mem_partsOf hname
        obtain ⟨q, n, hparent⟩ := hleads.dropLast
        refine ⟨q, n, hparent, ?_⟩
        have hresolved : h.tree.resolve h.cwd (Path.ofString name).parent.isAbsolute
            (Path.ofString name).parent.parts = (q, true) :=
          hparent.resolve hcwd
        unfold Host.resolve
        rw [hnul, hresolved]
        rfl
    · cases hbytes
    · cases hbytes

end Host

end PerlVet
