import Mathlib.Logic.Relation
import PerlVet.Config.Checked

/-!
What reading settings does to a session. A reference is looked up with the import root on the module
path, and what was put there is taken off again (`leaveRoot_enterRoot`), however the import ends; so
a look-up changes nothing but the imports (`Session.LooksUp.exists_imports`). Reading settings looks
references up one after the other and does nothing else to the session, be it that the settings are
accepted or refused, or that the reading ends before it has seen them all
(`Config.looksUpAll_build`). Hence the module path is restored (`modulePath_restored`).
-/

namespace PerlVet

variable {h : Host} {root : Option Path} {s s' : Session}

/-! ## References -/

/-- What entering the import root does to the module path is undone by leaving it, whether the path
holds the root already, once or more often, or does not. -/
theorem leaveRoot_enterRoot (root : Option Path) (path : List String) :
    leaveRoot root path (enterRoot root path) = path := by
  cases root with
  | none => rfl
  | some r =>
    unfold leaveRoot enterRoot
    dsimp only
    split
    · rfl
    · exact List.erase_cons_head r.text path

theorem importWithRoot_snd (h : Host) (root : Option Path) (name : List String) (s : Session) :
    ∃ imports, (importWithRoot h root name s).2 = { s with imports } := by
  refine ⟨(h.importModule (enterRoot root s.modulePath) s.imports name).2, ?_⟩
  simp only [importWithRoot, leaveRoot_enterRoot]

theorem findPredicate_snd (h : Host) (root : Option Path) (reference : String) (s : Session) :
    ∃ imports, (findPredicate h root reference s).2 = { s with imports } := by
  unfold findPredicate
  dsimp only
  split
  · exact ⟨s.imports, rfl⟩
  · split
    · exact ⟨s.imports, rfl⟩
    · -- The session is that of the import, whether the import succeeds or fails.
      obtain ⟨imports, himports⟩ := importWithRoot_snd h root
        (components (Reference.split (Text.trim reference.toList)).home) s
      refine ⟨imports, ?_⟩
      split
      · next hfailed => rw [← himports, hfailed]
      · next hdone => rw [← himports, hdone]

namespace Session

/-- The second session is the first one after some reference was looked up, with any result. -/
def LooksUp (h : Host) (root : Option Path) (s s' : Session) : Prop :=
  ∃ reference, s' = (findPredicate h root reference s).2

/-- Any number of references were looked up one after the other. -/
def LooksUpAll (h : Host) (root : Option Path) : Session → Session → Prop :=
  Relation.ReflTransGen (LooksUp h root)

theorem LooksUp.exists_imports (hlook : s.LooksUp h root s') :
    ∃ imports, s' = { s with imports } := by
  obtain ⟨reference, rfl⟩ := hlook
  exact findPredicate_snd h root reference s

/-- However many references are looked up, nothing changes but the imports. -/
theorem LooksUpAll.exists_imports (hlooks : s.LooksUpAll h root s') :
    ∃ imports, s' = { s with imports } := by
  induction hlooks with
  | refl => exact ⟨s.imports, rfl⟩
  | tail _ hlook ih =>
    obtain ⟨imports, rfl⟩ := ih
    exact hlook.exists_imports

theorem LooksUpAll.refl (s : Session) : s.LooksUpAll h root s := Relation.ReflTransGen.refl

theorem looksUpAll_findPredicate (h : Host) (root : Option Path) (reference : String)
    (s : Session) : s.LooksUpAll h root (findPredicate h root reference s).2 :=
  Relation.ReflTransGen.single ⟨reference, rfl⟩

end Session

open Session

/-! ## Settings -/

theorem looksUpAll_checkPredicate (h : Host) (root : Option Path) (v : Setting) (s : Session) :
    s.LooksUpAll h root (checkPredicate h root v s).2 := by
  unfold checkPredicate
  split
  · exact looksUpAll_findPredicate h root _ s
  · exact .refl s
  · exact .refl s

namespace LineRule

theorem looksUpAll_ofTable (h : Host) (root : Option Path) (t : Table SettingLeaf) (s : Session) :
    s.LooksUpAll h root (ofTable h root t s).2 := by
  unfold ofTable
  cases t.get? "predicate" with
  | none => exact .refl s
  | some v =>
    have hlooks := looksUpAll_checkPredicate h root v s
    dsimp only
    split
    · next hcheck => rwa [hcheck] at hlooks
    · next hcheck => rwa [hcheck] at hlooks

theorem looksUpAll_ofSetting (h : Host) (root : Option Path) (v : Setting) (s : Session) :
    s.LooksUpAll h root (ofSetting h root v s).2 := by
  unfold ofSetting
  split
  · exact looksUpAll_ofTable h root _ s
  · exact looksUpAll_ofTable h root _ s
  · exact looksUpAll_ofTable h root _ s
  · exact .refl s

theorem looksUpAll_readAll (h : Host) (root : Option Path) (vs : List Setting) (s : Session) :
    s.LooksUpAll h root (readAll h root vs s).2 := by
  -- Each rule is read in the session that those before it leave.
  induction vs generalizing s with
  | nil => exact .refl s
  | cons v vs ih =>
    have hfirst := looksUpAll_ofSetting h root v s
    rw [readAll]
    split
    · next hended => rwa [hended] at hfirst
    · next s₁ hread =>
      rw [hread] at hfirst
      have hboth := hfirst.trans (ih s₁)
      split
      · next hended => rwa [hended] at hboth
      · next hall => rwa [hall] at hboth

theorem looksUpAll_listOfSetting (h : Host) (root : Option Path) (v : Setting) (s : Session) :
    s.LooksUpAll h root (listOfSetting h root v s).2 := by
  unfold listOfSetting
  split
  · exact .refl s
  · next entries _ =>
    have hlooks := looksUpAll_readAll h root entries s
    split
    · next hended => rwa [hended] at hlooks
    · next hall => rwa [hall] at hlooks

end LineRule

namespace Config

theorem Custom.looksUpAll_ofTable (h : Host) (root : Option Path) (t : Table SettingLeaf)
    (s : Session) : s.LooksUpAll h root (Custom.ofTable h root t s).2 := by
  unfold Custom.ofTable
  cases t.get? "check" with
  | none => exact .refl s
  | some v =>
    have hlooks := LineRule.looksUpAll_listOfSetting h root v s
    dsimp only
    split
    · next hended => rwa [hended] at hlooks
    · next hread => rwa [hread] at hlooks

theorem Custom.looksUpAll_ofSetting (h : Host) (root : Option Path) (v : Setting) (s : Session) :
    s.LooksUpAll h root (Custom.ofSetting h root v s).2 := by
  unfold Custom.ofSetting
  split
  · exact Custom.looksUpAll_ofTable h root _ s
  · exact .refl s

theorem looksUpAll_ofTable (h : Host) (root : Option Path) (t : Table SettingLeaf) (s : Session) :
    s.LooksUpAll h root (ofTable h root t s).2 := by
  unfold ofTable
  dsimp only
  split
  · exact .refl s
  · cases t.get? "custom" with
    | none => exact .refl s
    | some v =>
      have hlooks := Custom.looksUpAll_ofSetting h root v s
      dsimp only
      split
      · next hended => rwa [hended] at hlooks
      · next hread => rwa [hread] at hlooks

/-- As far as the session is concerned, to build a configuration is to look references up one after
the other. -/
theorem looksUpAll_build (h : Host) (source : String) (root : Option Path) (t : Table SettingLeaf)
    (s : Session) : s.LooksUpAll h root (build h source root t s).2 := by
  have hlooks := looksUpAll_ofTable h root t s
  unfold build
  split
  · next hended => rwa [hended] at hlooks
  · next haccepted => rwa [haccepted] at hlooks
  · next hrefused => rwa [hrefused] at hlooks

end Config

/-- The module path is as it was, entry by entry, after a reference is looked up and after a
configuration is built: whatever the path is, where the import root stands on it if it does, and
however the imports end. -/
theorem modulePath_restored (h : Host) (root : Option Path) (s : Session) :
    (∀ reference, (findPredicate h root reference s).2.modulePath = s.modulePath) ∧
      ∀ source t, (Config.build h source root t s).2.modulePath = s.modulePath := by
  constructor
  · intro reference
    obtain ⟨imports, himports⟩ := findPredicate_snd h root reference s
    rw [himports]
  · intro source t
    obtain ⟨imports, himports⟩ := (Config.looksUpAll_build h source root t s).exists_imports
    rw [himports]

end PerlVet
