import RouteInventory.FolderScan
import RouteInventory.Proofs.Settings.Usable
import RouteInventory.Proofs.Walk.Steps

/-!
When a folder cannot be scanned. The reasons are looked at one after the other: the settings,
whether the root is there, whether it is a directory, and the globs of the excluded names
(`scanFolder_eq_error_iff_fails`).
-/

namespace RouteInventory

open Walk

/-! ### Traversals -/

section

variable {α β ε : Type} (f : α → Except ε β)

/-- A traversal succeeds if no element is refused. -/
theorem exists_mapM_eq_ok_iff (xs : List α) :
    (∃ ys, xs.mapM f = .ok ys) ↔ ∀ x ∈ xs, ∃ y, f x = .ok y := by
  induction xs with
  | nil => simp [pure, Except.pure]
  | cons x xs ih =>
    rw [List.forall_mem_cons, ← ih, List.mapM_cons]
    cases f x <;> cases xs.mapM f <;> simp [bind, Except.bind, pure, Except.pure]

/-- What a traversal yields is what comes of the elements. -/
theorem mem_of_mapM_eq_ok : ∀ {xs : List α} {ys : List β}, xs.mapM f = .ok ys → ∀ y,
    y ∈ ys ↔ ∃ x ∈ xs, f x = .ok y
  | [], _, h, y => by
    obtain rfl := Except.ok.inj h
    simp
  | x :: xs, _, h, y => by
    rw [List.mapM_cons] at h
    cases hx : f x with
    | error cause => simp [hx, bind, Except.bind] at h
    | ok z =>
      cases hxs : xs.mapM f with
      | error cause => simp [hx, hxs, bind, Except.bind] at h
      | ok zs =>
        simp only [hx, hxs, bind, Except.bind, pure, Except.pure] at h
        obtain rfl := Except.ok.inj h
        rw [List.mem_cons, mem_of_mapM_eq_ok hxs, List.exists_mem_cons_iff, hx, Except.ok.injEq,
          eq_comm]

/-- A traversal is refused for the first element that is refused. -/
theorem mapM_eq_error_iff (xs : List α) (e : ε) :
    xs.mapM f = .error e ↔ ∃ before x after, xs = before ++ x :: after ∧
      (∀ a ∈ before, ∃ b, f a = .ok b) ∧ f x = .error e := by
  induction xs with
  | nil => simp [pure, Except.pure]
  | cons y ys ih =>
    cases hy : f y with
    | error cause =>
      have hstop : (y :: ys).mapM f = .error cause := by rw [List.mapM_cons, hy]; rfl
      rw [hstop, Except.error.injEq]
      constructor
      · rintro rfl
        exact ⟨[], y, ys, rfl, by simp, hy⟩
      · rintro ⟨_ | ⟨a, before⟩, x, after, hsplit, hbefore, hx⟩
        · obtain ⟨rfl, -⟩ := List.cons.inj hsplit
          exact Except.error.inj (hy.symm.trans hx)
        · obtain ⟨rfl, -⟩ := List.cons.inj hsplit
          obtain ⟨b, hb⟩ := hbefore y List.mem_cons_self
          rw [hy] at hb
          cases hb
    | ok b =>
      have hrest : (y :: ys).mapM f = .error e ↔ ys.mapM f = .error e := by
        rw [List.mapM_cons, hy]
        cases ys.mapM f <;> simp [bind, Except.bind, pure, Except.pure]
      rw [hrest, ih]
      constructor
      · rintro ⟨before, x, after, rfl, hbefore, hx⟩
        exact ⟨y :: before, x, after, rfl, List.forall_mem_cons.2 ⟨⟨b, hy⟩, hbefore⟩, hx⟩
      · rintro ⟨_ | ⟨a, before⟩, x, after, hsplit, hbefore, hx⟩
        · obtain ⟨rfl, -⟩ := List.cons.inj hsplit
          rw [hy] at hx
          cases hx
        · obtain ⟨rfl, rfl⟩ := List.cons.inj hsplit
          exact ⟨before, x, after, rfl, (List.forall_mem_cons.1 hbefore).2, hx⟩

end

namespace Selection

/-- Whether the glob of an excluded name cannot be read, and why. -/
def Refused (dir : String) (fault : Glob.Fault) : Prop :=
  ExclusionRule.ofLine false ("!" ++ dir ++ "/").toList = .error fault

/-- What is said about a glob that cannot be read. -/
def refusal (dir : String) (fault : Glob.Fault) : String :=
  let line := "!" ++ dir ++ "/"
  s!"error parsing glob '{line}': {fault.message}"

/-- The fault of globs that can each be read, but not be put together. -/
def jointFault? (sel : Selection) : Option Glob.TooDeep :=
  match sel.excludeDirs.mapM exclusion with
  | .ok rules => ExclusionRule.tooDeep? rules
  | .error _ => none

theorem exclusion_of_refused {dir : String} {fault : Glob.Fault} (h : Refused dir fault) :
    exclusion dir = .error (.invalidExclude dir (refusal dir fault)) := by
  rw [Refused] at h
  simp only [exclusion, h]
  rfl

theorem exclusion_eq_error_iff (dir : String) (e : CollectError) :
    exclusion dir = .error e ↔
      ∃ fault, Refused dir fault ∧ e = .invalidExclude dir (refusal dir fault) := by
  constructor
  · intro h
    cases hline : ExclusionRule.ofLine false ("!" ++ dir ++ "/").toList with
    | error fault =>
      rw [exclusion_of_refused hline] at h
      exact ⟨fault, hline, (Except.error.inj h).symm⟩
    | ok rule => cases rule <;> simp only [exclusion, hline, reduceCtorEq] at h
  · rintro ⟨fault, hfault, rfl⟩
    exact exclusion_of_refused hfault

theorem exists_exclusion_iff (dir : String) :
    (∃ rule, exclusion dir = .ok rule) ↔ ∀ fault, ¬ Refused dir fault := by
  cases h : exclusion dir with
  | ok rule =>
    refine iff_of_true ⟨rule, rfl⟩ fun fault hfault => ?_
    rw [exclusion_of_refused hfault] at h
    cases h
  | error e =>
    obtain ⟨fault, hfault, -⟩ := (exclusion_eq_error_iff dir e).1 h
    exact iff_of_false nofun fun hnot => hnot fault hfault

variable (sel : Selection)

/-- Exclusions fail for the first glob that cannot be read, or else for all together. -/
theorem exclusions_eq_error_iff (e : CollectError) :
    sel.exclusions = .error e ↔
      (∃ before dir after fault, sel.excludeDirs = before ++ dir :: after ∧
        (∀ other ∈ before, ∀ fault, ¬ Refused other fault) ∧ Refused dir fault ∧
        e = .invalidExclude dir (refusal dir fault)) ∨
      ∃ fault, sel.jointFault? = some fault ∧
        e = .invalidExclude (",".intercalate sel.excludeDirs) fault.message := by
  have hfirst : sel.excludeDirs.mapM exclusion = .error e ↔
      ∃ before dir after fault, sel.excludeDirs = before ++ dir :: after ∧
        (∀ other ∈ before, ∀ fault, ¬ Refused other fault) ∧ Refused dir fault ∧
        e = .invalidExclude dir (refusal dir fault) := by
    simp only [mapM_eq_error_iff, exists_exclusion_iff, exclusion_eq_error_iff, exists_and_left]
  rw [← hfirst, exclusions, jointFault?]
  cases sel.excludeDirs.mapM exclusion with
  | error cause => simp
  | ok rules => cases hdeep : ExclusionRule.tooDeep? rules <;> simp [hdeep, eq_comm]

theorem exists_exclusions_iff :
    (∃ rules, sel.exclusions = .ok rules) ↔
      (∀ dir ∈ sel.excludeDirs, ∀ fault, ¬ Refused dir fault) ∧ sel.jointFault? = none := by
  simp only [← exists_exclusion_iff, ← exists_mapM_eq_ok_iff]
  rw [exclusions, jointFault?]
  cases sel.excludeDirs.mapM exclusion with
  | error cause => simp
  | ok rules => cases hdeep : ExclusionRule.tooDeep? rules <;> simp [hdeep]

end Selection

/-! ### The reasons in order -/

/-- Why a scan with some settings fails, given whether the root is there and whether it is a
    directory. -/
inductive Settings.Fails (s : Settings) : Bool → Bool → ScanError → Prop
  | settings {isThere isDir : Bool} {e : SettingsError} : s.check = .error e →
      s.Fails isThere isDir (.settings e)
  | notFound {isDir : Bool} : s.Usable → s.Fails false isDir (.collect (.notFound s.root))
  | notDirectory : s.Usable → s.Fails true false (.collect (.notDirectory s.root))
  /-- The first of the excluded names whose glob cannot be read. -/
  | refused {before after : List String} {dir : String} {fault : Glob.Fault} : s.Usable →
      s.excludeDirs = before ++ dir :: after →
      (∀ other ∈ before, ∀ fault, ¬ Selection.Refused other fault) →
      Selection.Refused dir fault →
      s.Fails true true (.collect (.invalidExclude dir (Selection.refusal dir fault)))
  /-- All globs can be read, but not be put together. -/
  | together {fault : Glob.TooDeep} : s.Usable → s.selection.jointFault? = some fault →
      s.Fails true true
        (.collect (.invalidExclude (",".intercalate s.excludeDirs) fault.message))

section

variable (rules : Extraction.SecretRules) (d : Disk) (cwd : Place) (user : UserDirs)
  (s : Settings)

theorem collect_eq_error_iff (sel : Selection) (view : FileView) (root : String)
    (e : CollectError) :
    collect sel d cwd user view root = .error e ↔
      (view.isThere root = false ∧ e = .notFound root) ∨
      (view.isThere root = true ∧ view.isDir root = false ∧ e = .notDirectory root) ∨
      (view.isThere root = true ∧ view.isDir root = true ∧ sel.exclusions = .error e) := by
  rw [collect]
  cases hthere : view.isThere root <;> cases hdir : view.isDir root <;>
    cases hrules : sel.exclusions <;> simp [eq_comm]

theorem scanFolder_eq_error_iff (e : ScanError) :
    scanFolder rules d cwd user s = .error e ↔
      (∃ cause, s.check = .error cause ∧ e = .settings cause) ∨
      (s.check = .ok () ∧ ∃ cause,
        collect s.selection d cwd user (d.view cwd) s.root = .error cause ∧ e = .collect cause) := by
  rw [scanFolder]
  cases hcheck : s.check with
  | error cause => simp [eq_comm]
  | ok => cases hcollect : collect s.selection d cwd user (d.view cwd) s.root <;> simp [eq_comm]

theorem scanFolder_eq_ok_iff (found : FolderScan) :
    scanFolder rules d cwd user s = .ok found ↔ s.check = .ok () ∧ ∃ collected,
      collect s.selection d cwd user (d.view cwd) s.root = .ok collected ∧
      found = ⟨collected, scan rules (d.read cwd) collected.files,
        .ofScan (folderName d cwd s.root) (scan rules (d.read cwd) collected.files) s.queryTag⟩ := by
  rw [scanFolder]
  cases hcheck : s.check with
  | error cause => simp
  | ok => cases hcollect : collect s.selection d cwd user (d.view cwd) s.root <;> simp [eq_comm]

/-- A scan looks at the rules that the user has only if rule files count, and at nothing else of the
    user. -/
theorem scanFolder_congr {other : UserDirs}
    (h : s.respectGitignore = true → user.rules d cwd = other.rules d cwd) :
    scanFolder rules d cwd user s = scanFolder rules d cwd other s := by
  have hwalk := fun excluded => walk_congr h s.root excluded
  have hcollect : collect s.selection d cwd user (d.view cwd) s.root =
      collect s.selection d cwd other (d.view cwd) s.root := by
    simp only [collect, Settings.selection, hwalk]
  rw [scanFolder, scanFolder, hcollect]

theorem exists_scanFolder_iff :
    (∃ found, scanFolder rules d cwd user s = .ok found) ↔
      s.check = .ok () ∧ (d.view cwd).isThere s.root = true ∧ (d.view cwd).isDir s.root = true ∧
        ∃ excluded, s.selection.exclusions = .ok excluded := by
  rw [scanFolder, collect]
  cases s.check <;> cases (d.view cwd).isThere s.root <;> cases (d.view cwd).isDir s.root <;>
    cases s.selection.exclusions <;> simp

/-- A scan fails for the first of the reasons that holds. -/
theorem scanFolder_eq_error_iff_fails (e : ScanError) :
    scanFolder rules d cwd user s = .error e ↔
      s.Fails ((d.view cwd).isThere s.root) ((d.view cwd).isDir s.root) e := by
  rw [scanFolder_eq_error_iff, s.check_eq_ok_iff]
  constructor
  · rintro (⟨cause, hcheck, rfl⟩ | ⟨husable, cause, hcollect, rfl⟩)
    · exact .settings hcheck
    · rcases (collect_eq_error_iff d cwd user _ _ _ _).1 hcollect with
        ⟨hthere, rfl⟩ | ⟨hthere, hdir, rfl⟩ | ⟨hthere, hdir, hrules⟩
      · rw [hthere]
        exact .notFound husable
      · rw [hthere, hdir]
        exact .notDirectory husable
      · rw [hthere, hdir]
        rcases (s.selection.exclusions_eq_error_iff _).1 hrules with
          ⟨before, dir, after, fault, hsplit, hbefore, hdir, rfl⟩ | ⟨fault, hfault, rfl⟩
        · exact .refused husable hsplit hbefore hdir
        · exact .together husable hfault
  · generalize hthere : (d.view cwd).isThere s.root = isThere
    generalize hdir : (d.view cwd).isDir s.root = isDir
    intro hfails
    cases hfails with
    | settings hcheck => exact .inl ⟨_, hcheck, rfl⟩
    | notFound husable =>
      exact .inr ⟨husable, _, (collect_eq_error_iff d cwd user _ _ _ _).2 (.inl ⟨hthere, rfl⟩), rfl⟩
    | notDirectory husable =>
      exact .inr ⟨husable, _,
        (collect_eq_error_iff d cwd user _ _ _ _).2 (.inr (.inl ⟨hthere, hdir, rfl⟩)), rfl⟩
    | refused husable hsplit hbefore hrefused =>
      have hrules := (s.selection.exclusions_eq_error_iff _).2
        (.inl ⟨_, _, _, _, hsplit, hbefore, hrefused, rfl⟩)
      exact .inr ⟨husable, _,
        (collect_eq_error_iff d cwd user _ _ _ _).2 (.inr (.inr ⟨hthere, hdir, hrules⟩)), rfl⟩
    | together husable hfault =>
      have hrules := (s.selection.exclusions_eq_error_iff _).2 (.inr ⟨_, hfault, rfl⟩)
      exact .inr ⟨husable, _,
        (collect_eq_error_iff d cwd user _ _ _ _).2 (.inr (.inr ⟨hthere, hdir, hrules⟩)), rfl⟩

end

end RouteInventory
