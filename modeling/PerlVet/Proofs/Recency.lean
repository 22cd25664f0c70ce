import PerlVet.Proofs.History
import PerlVet.Proofs.Text

/-!
Which architecture names a session keeps. An interpreter that is asked prints a name (`Prints`) or
fails (`Fails`), and it is asked just if no name of its is kept (`asks_iff`). A history of
inquiries, each on a host of its own, determines what is kept at its end: the interpreters that were
named last (`recent`), each with what it printed when it was last asked (`LatestPrint`). One inquiry
maintains that (`Kept.inquiry`), and so does every history (`Kept.history`).
-/

namespace PerlVet

/-! ## Texts that the system accepts -/

namespace Path

end Path

namespace Host

variable {h : Host} {args args' : Command} {call : Call} {e : Failure}

/-- The directories in which programs are looked up. -/
def programDirectories (environment : Environment) : List String :=
  directories ((environment.lookup "PATH").getD standardDirectories)

theorem findProgram?_cases {name file : String} (hfound : h.findProgram? name = some file) :
    h.isProgram file = true ∧
      ('/' ∈ name.toList ∧ file = name ∨
        '/' ∉ name.toList ∧
          ∃ entry ∈ programDirectories h.environment, file = below entry name) := by
  unfold findProgram? at hfound
  split at hfound
  · next hslash =>
    split at hfound
    · next hprogram =>
      cases hfound
      exact ⟨hprogram, .inl ⟨List.contains_iff_mem.mp hslash, rfl⟩⟩
    · cases hfound
  · next hslash =>
    dsimp only at hfound
    split at hfound
    · cases hfound
    · obtain ⟨entry, hentry, rfl⟩ := List.mem_map.mp (List.mem_of_find?_eq_some hfound)
      exact ⟨List.find?_some hfound,
        .inr ⟨fun hmem => hslash (List.contains_iff_mem.mpr hmem), entry, hentry, rfl⟩⟩

/-- The file that the first word of a command stands for. -/
def programFile? (h : Host) (head : String) : Option String :=
  let path := Path.ofString head
  if path.isAbsolute then some path.text else h.findProgram? head

/-- Only the first word of a command is replaced, and by what depends on that word alone. -/
theorem locateProgram_cons {head : String} {rest : Command} :
    h.locateProgram (head :: rest) = .ok args ↔
      ∃ file, h.programFile? head = some file ∧ args = file :: rest := by
  unfold locateProgram programFile?
  dsimp only
  split
  · simp [eq_comm]
  · cases h.findProgram? head with
    | none => simp
    | some file => simp [eq_comm]

end Host

namespace Architecture

variable {h : Host} {perl name : String} {s : Session}

/-! ## Asking an interpreter -/

/-- The run of an interpreter that is asked for its architecture name. -/
def probe (h : Host) (perl : String) : Except Failure Completion :=
  h.run { args := question perl, combine := false }

/-- The interpreter prints `name`, perhaps between blanks, and exits without a fault. -/
def Prints (h : Host) (perl name : String) : Prop :=
  ∃ done, probe h perl = .ok done ∧ done.status = 0 ∧
    name.toList = Text.trim done.output.toList ∧ name ≠ ""

/-- The interpreter cannot be started, exits with a fault, or prints nothing but blanks. -/
def Fails (h : Host) (perl : String) : Prop :=
  (∃ e, probe h perl = .error e) ∨
  ∃ done, probe h perl = .ok done ∧
    (done.status ≠ 0 ∨ ∀ c ∈ done.output.toList, Text.isBlank c = true)

/-- What comes of a program that was started. -/
theorem ask_of_probe {done : Completion} (hdone : probe h perl = .ok done) :
    ((done.status ≠ 0 ∨ ∀ c ∈ done.output.toList, Text.isBlank c = true) ∧
      ask h perl = .error (.unableToRun (question perl)
        ("archname probe exited with status " ++ toString done.status))) ∨
    (done.status = 0 ∧ (∃ c ∈ done.output.toList, Text.isBlank c = false) ∧
      ask h perl = .ok (String.ofList (Text.trim done.output.toList))) := by
  unfold probe at hdone
  by_cases hstatus : done.status = 0
  · by_cases hblank : ∀ c ∈ done.output.toList, Text.isBlank c = true
    · have hnil := Text.trim_eq_nil_iff.mpr hblank
      exact .inl ⟨.inr hblank, by simp [ask, hdone, hstatus, hnil]⟩
    · have hne : Text.trim done.output.toList ≠ [] := mt Text.trim_eq_nil_iff.mp hblank
      have hname : (String.ofList (Text.trim done.output.toList)).isEmpty = false := by
        rw [Bool.eq_false_iff, ne_eq, String.isEmpty_iff, String.ofList_eq_empty_iff]
        exact hne
      exact .inr ⟨hstatus, by simpa using hblank, by simp [ask, hdone, hstatus, hname]⟩
  · exact .inl ⟨.inl hstatus, by simp [ask, hdone, hstatus]⟩

theorem ask_ok_iff : ask h perl = .ok name ↔ Prints h perl name := by
  constructor
  · intro hask
    cases hdone : probe h perl with
    | error e =>
      unfold probe at hdone
      simp only [ask, hdone] at hask
      split at hask <;> cases hask
    | ok done =>
      rcases ask_of_probe hdone with ⟨-, hfailed⟩ | ⟨hstatus, hsome, hok⟩
      · rw [hfailed] at hask
        cases hask
      · rw [hok] at hask
        cases hask
        refine ⟨done, hdone, hstatus, String.toList_ofList, ?_⟩
        rw [ne_eq, String.ofList_eq_empty_iff, Text.trim_eq_nil_iff]
        simpa using hsome
  · rintro ⟨done, hdone, hstatus, hname, hne⟩
    rcases ask_of_probe hdone with ⟨hfault | hblank, -⟩ | ⟨-, -, hok⟩
    · exact absurd hstatus hfault
    · rw [← Text.trim_eq_nil_iff, ← hname, String.toList_eq_nil_iff] at hblank
      exact absurd hblank hne
    · rw [hok, ← hname, String.ofList_toList]

theorem prints_or_fails (h : Host) (perl : String) :
    (∃ name, Prints h perl name) ∨ Fails h perl := by
  cases hdone : probe h perl with
  | error e => exact .inr (.inl ⟨e, hdone⟩)
  | ok done =>
    rcases ask_of_probe hdone with ⟨hfault, -⟩ | ⟨-, -, hok⟩
    · exact .inr (.inr ⟨done, hdone, hfault⟩)
    · exact .inl ⟨_, ask_ok_iff.mp hok⟩

/-- The interpreters whose names are kept, latest use first. -/
def held (s : Session) : List String := s.architectures.map Prod.fst

theorem mem_held : perl ∈ held s ↔ ∃ name, (perl, name) ∈ s.architectures := by
  simp [held]

theorem lookup_eq_none_iff : s.architectures.lookup perl = none ↔ perl ∉ held s := by
  rw [List.lookup_eq_none_iff, mem_held]
  simp only [bne_iff_ne, ne_eq, not_exists]
  exact ⟨fun h name hmem => h _ hmem rfl, fun h p hp heq => h p.2 (heq ▸ hp)⟩

/-- The interpreter is asked: what comes of asking it makes a difference. -/
def Asks (perl : String) (s : Session) : Prop :=
  ∃ answer answer', findGiven answer perl s ≠ findGiven answer' perl s

/-- An interpreter is asked just if no name of its is kept. -/
theorem asks_iff : Asks perl s ↔ perl ∉ held s := by
  rw [← lookup_eq_none_iff]
  unfold Asks findGiven
  cases s.architectures.lookup perl with
  | none => exact ⟨fun _ => rfl, fun _ => ⟨.ok "", .error .emptyCommand, nofun⟩⟩
  | some name => exact ⟨fun ⟨_, _, hne⟩ => absurd rfl hne, nofun⟩

theorem find_of_ok {name : String} (hasks : Asks perl s) (hask : ask h perl = .ok name) :
    find h perl s = (.ok name, { s with architectures := keep perl name s.architectures }) := by
  rw [asks_iff, ← lookup_eq_none_iff] at hasks
  simp only [find, findGiven, hasks, hask]

theorem find_of_error {e : Failure} (hasks : Asks perl s) (hask : ask h perl = .error e) :
    find h perl s = (.error e, s) := by
  rw [asks_iff, ← lookup_eq_none_iff] at hasks
  simp only [find, findGiven, hasks, hask]

/-- A name comes from those kept or from the interpreter, and is kept then; without one, nothing
changes. -/
theorem find_cases (h : Host) (perl : String) (s : Session) :
    (∃ name, ¬Asks perl s ∧ (perl, name) ∈ s.architectures ∧
      find h perl s = (.ok name, { s with architectures := keep perl name s.architectures })) ∨
    (∃ name, Asks perl s ∧ Prints h perl name ∧
      find h perl s = (.ok name, { s with architectures := keep perl name s.architectures })) ∨
    (∃ e, Asks perl s ∧ Fails h perl ∧ ask h perl = .error e ∧ find h perl s = (.error e, s)) := by
  by_cases hasks : Asks perl s
  · cases hask : ask h perl with
    | ok name => exact .inr (.inl ⟨name, hasks, ask_ok_iff.mp hask, find_of_ok hasks hask⟩)
    | error e =>
      refine .inr (.inr ⟨e, hasks, ?_, rfl, find_of_error hasks hask⟩)
      refine (prints_or_fails h perl).resolve_left ?_
      rintro ⟨name, hname⟩
      rw [ask_ok_iff.mpr hname] at hask
      cases hask
  · obtain ⟨name, hlookup⟩ := Option.ne_none_iff_exists'.mp fun hnone =>
      hasks (asks_iff.mpr (lookup_eq_none_iff.mp hnone))
    obtain ⟨before, after, heq, -⟩ := List.lookup_eq_some_iff.mp hlookup
    exact .inl ⟨name, hasks, by simp [heq], by simp only [find, findGiven, hlookup]⟩

/-! ## Histories of inquiries -/

/-- A request for the architecture name of an interpreter, on a host. -/
structure Inquiry where
  host : Host
  perl : String

/-- An inquiry in the session in which it is made. -/
structure Use extends Inquiry where
  session : Session

namespace Use

/-- What is answered. -/
def result (u : Use) : Except Failure String := (find u.host u.perl u.session).1

/-- The session afterwards. -/
def next (u : Use) : Session := (find u.host u.perl u.session).2

/-- The interpreter is asked. -/
def Asks (u : Use) : Prop := Architecture.Asks u.perl u.session

end Use

/-- The session after inquiries, one after the other. -/
def after (s : Session) (qs : List Inquiry) : Session :=
  qs.foldl (fun s q => (Use.mk q s).next) s

/-- Inquiries, each in the session that those before it leave. -/
def history (s : Session) : List Inquiry → List Use
  | [] => []
  | q :: qs => ⟨q, s⟩ :: history (Use.mk q s).next qs

/-- The interpreters that were named, each as often as it was, latest first. -/
def named (us : List Use) : List String := (us.reverse.filter (·.result.isOk)).map (·.perl)

/-- The interpreters that were named, each at its latest place, latest first. -/
def recent (us : List Use) : List String := (named us).eraseDups

/-- The last time that the interpreter was asked, it printed `name`. -/
def LatestPrint (us : List Use) (perl name : String) : Prop :=
  ∃ earlier u later, us = earlier ++ u :: later ∧ u.perl = perl ∧ u.Asks ∧
    Prints u.host perl name ∧ ∀ v ∈ later, v.perl = perl → ¬v.Asks

/-- What is kept is what a history says. -/
structure Kept (us : List Use) (s : Session) : Prop where
  held_eq : held s = (recent us).take maxKept
  latest : ∀ perl name, (perl, name) ∈ s.architectures → LatestPrint us perl name

variable {us : List Use} {u : Use}

/-- Of the first `n + 1` distinct texts, at most one is `x`: without it there are still as many of
the first `n` distinct texts other than `x` as there are at all. -/
theorem take_filter_take_eraseDups (x : String) (n : Nat) (texts : List String) :
    ((texts.eraseDups.take (n + 1)).filter (!· == x)).take n =
      (texts.filter (!· == x)).eraseDups.take n := by
  match texts with
  | [] => simp
  | first :: texts =>
    rw [List.eraseDups_cons]
    by_cases hfirst : first = x
    · subst hfirst
      have hrest : ∀ y ∈ (texts.filter (!· == first)).eraseDups.take n, (!y == first) = true := by
        intro y hy
        have hy := List.mem_eraseDups.mp (List.mem_of_mem_take hy)
        exact (List.mem_filter.mp hy).2
      rw [List.take_succ_cons, List.filter_cons_of_neg (by simp), List.filter_eq_self.mpr hrest,
        List.take_take, Nat.min_self, List.filter_cons_of_neg (by simp)]
    · have hkeep : (!first == x) = true := by simpa using hfirst
      cases n with
      | zero => rw [List.take_zero, List.take_zero]
      | succ n =>
        have ih := take_filter_take_eraseDups x n (texts.filter (!· == first))
        simp only [List.take_succ_cons, List.filter_cons, hkeep, if_true, List.eraseDups_cons, ih,
          List.filter_filter, Bool.and_comm]
termination_by texts.length
decreasing_by
  simp only [List.length_cons]
  exact Nat.lt_succ_of_le (List.length_filter_le _ _)

theorem held_keep (perl name : String) (s : Session) :
    held { s with architectures := keep perl name s.architectures } =
      (perl :: (held s).filter (!· == perl)).take maxKept := by
  simp only [held, keep, List.map_take, List.map_cons, List.filter_map]
  rfl

/-- An interpreter that is named comes to the front, and only the one used least recently may have
to make room. -/
theorem recent_named {name : String} (hok : u.result = .ok name) (us : List Use) :
    (recent (us ++ [u])).take maxKept =
      (u.perl :: ((recent us).take maxKept).filter (!· == u.perl)).take maxKept := by
  have hnamed : named (us ++ [u]) = u.perl :: named us := by
    simp [named, hok, Except.isOk, Except.toBool]
  have hmax : maxKept = 7 + 1 := rfl
  rw [recent, hnamed, List.eraseDups_cons, hmax, List.take_succ_cons, List.take_succ_cons,
    ← take_filter_take_eraseDups, recent]

theorem recent_failed {e : Failure} (herror : u.result = .error e) (us : List Use) :
    recent (us ++ [u]) = recent us := by
  have hnamed : named (us ++ [u]) = named us := by
    simp [named, herror, Except.isOk, Except.toBool]
  rw [recent, hnamed, recent]

/-- An inquiry that does not ask the interpreter does not change what it printed last. -/
theorem LatestPrint.append (hlatest : LatestPrint us perl name) (hu : u.perl = perl → ¬u.Asks) :
    LatestPrint (us ++ [u]) perl name := by
  obtain ⟨earlier, v, later, rfl, hperl, hasks, hprints, hlater⟩ := hlatest
  refine ⟨earlier, v, later ++ [u], by simp, hperl, hasks, hprints, ?_⟩
  intro w hw
  rcases List.mem_append.mp hw with hw | hw
  · exact hlater w hw
  · cases List.mem_singleton.mp hw
    exact hu

theorem latestPrint_of_asks (hasks : u.Asks) (hprints : Prints u.host u.perl name)
    (us : List Use) : LatestPrint (us ++ [u]) u.perl name :=
  ⟨us, u, [], rfl, rfl, hasks, hprints, nofun⟩

/-- A name that is answered is kept, and all others that are kept were so before. -/
theorem Kept.named (hkept : Kept us s) {q : Inquiry}
    (hfind : find q.host q.perl s =
      (.ok name, { s with architectures := keep q.perl name s.architectures }))
    (hlatest : LatestPrint (us ++ [⟨q, s⟩]) q.perl name) :
    Kept (us ++ [⟨q, s⟩]) (Use.mk q s).next := by
  have hresult : (Use.mk q s).result = .ok name := by rw [Use.result, hfind]
  rw [Use.next, hfind]
  constructor
  · rw [held_keep, recent_named hresult, hkept.held_eq]
  · intro perl' name' hmem
    rcases List.mem_cons.mp (List.mem_of_mem_take hmem) with heq | hmem
    · cases heq
      exact hlatest
    · obtain ⟨hmem, hother⟩ := List.mem_filter.mp hmem
      refine (hkept.latest perl' name' hmem).append fun heq => ?_
      exact absurd heq.symm (by simpa using hother)

/-- One inquiry. -/
theorem Kept.inquiry (hkept : Kept us s) (q : Inquiry) :
    Kept (us ++ [⟨q, s⟩]) (Use.mk q s).next := by
  rcases find_cases q.host q.perl s with ⟨name, hheld, hmem, hfind⟩ |
    ⟨name, hasks, hprints, hfind⟩ | ⟨e, hasks, -, -, hfind⟩
  · exact hkept.named hfind ((hkept.latest q.perl name hmem).append fun _ => hheld)
  · exact hkept.named hfind (latestPrint_of_asks (u := ⟨q, s⟩) hasks hprints us)
  · have hresult : (Use.mk q s).result = .error e := by rw [Use.result, hfind]
    rw [Use.next, hfind]
    constructor
    · rw [recent_failed hresult, hkept.held_eq]
    · intro perl' name' hmem
      refine (hkept.latest perl' name' hmem).append ?_
      rintro rfl
      exact absurd (mem_held.mpr ⟨name', hmem⟩) (asks_iff.mp hasks)

/-- Any number of inquiries. -/
theorem Kept.history (hkept : Kept us s) (qs : List Inquiry) :
    Kept (us ++ history s qs) (after s qs) := by
  induction qs generalizing us s with
  | nil =>
    rw [Architecture.history, List.append_nil]
    exact hkept
  | cons q qs ih =>
    have hrest := ih (hkept.inquiry q)
    rw [List.append_assoc] at hrest
    exact hrest

end Architecture

end PerlVet
