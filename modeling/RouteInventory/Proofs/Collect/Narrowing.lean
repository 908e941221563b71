import RouteInventory.Proofs.Collect.Candidates
import RouteInventory.Proofs.FolderScan.Failure
import RouteInventory.Proofs.Walk.Pruning

/-!
Asking for less. When more names are excluded, or tests are no longer wanted, a collection yields
what it yielded before, in the same order, less what is in directories of these names and less the
tests (`collect_narrowed`). It fails exactly if it failed before. The disk may have links and rule
files, and the view may be any.
-/

namespace RouteInventory

open Disk FilePath Walk

/-! ### Excluded names -/

namespace ExclusionRule

theorem readFront_mark (s : List Char) : (readFront ('!' :: s)).1 = true := by
  cases s with
  | nil => rfl
  | cons c s =>
    by_cases hc : c = '/'
    · rw [hc]
      rfl
    · simp [readFront, hc]

/-- The rule for an excluded name takes in what it matches, whatever the name is. -/
theorem keeps_of_ofLine {dir : String} {rule : ExclusionRule}
    (h : ofLine false ("!" ++ dir ++ "/").toList = .ok (some rule)) : rule.keeps = true := by
  have hline : ("!" ++ dir ++ "/").toList = '!' :: dir.toList ++ ['/'] := by simp
  have hmark := readFront_mark (dir.toList ++ ['/'])
  rw [hline, ofLine, trimLine_concat_slash, List.cons_append] at h
  simp only [List.head?_cons, Option.some.injEq, reduceCtorEq, or_false] at h
  rw [if_neg (by decide)] at h
  split at h
  · cases h
  · obtain rfl := Option.some.inj (Except.ok.inj h)
    exact hmark

end ExclusionRule

namespace Selection

variable {sel : Selection} {rules : List ExclusionRule}

theorem keeps_of_exclusion {dir : String} {rule : ExclusionRule} (h : exclusion dir = .ok rule) :
    rule.keeps = true := by
  simp only [exclusion] at h
  split at h
  · next hline => exact Except.ok.inj h ▸ ExclusionRule.keeps_of_ofLine hline
  · exact Except.ok.inj h ▸ rfl
  · cases h

theorem exclusions_eq_ok_iff : sel.exclusions = .ok rules ↔
    sel.excludeDirs.mapM exclusion = .ok rules ∧ ExclusionRule.tooDeep? rules = none := by
  cases hrules : sel.excludeDirs.mapM exclusion with
  | error cause => simp [exclusions, hrules]
  | ok found =>
    cases hdeep : ExclusionRule.tooDeep? found with
    | none =>
      simp only [exclusions, hrules, hdeep, Except.ok.injEq]
      exact ⟨fun h => ⟨h, h ▸ hdeep⟩, And.left⟩
    | some fault =>
      simp only [exclusions, hrules, hdeep, Except.ok.injEq, reduceCtorEq, false_iff]
      rintro ⟨rfl, h⟩
      rw [hdeep] at h
      cases h

/-- The rules are those of the excluded names, in whatever order these are. -/
theorem mem_exclusions_iff (h : sel.exclusions = .ok rules) (rule : ExclusionRule) :
    rule ∈ rules ↔ ∃ dir ∈ sel.excludeDirs, exclusion dir = .ok rule :=
  mem_of_mapM_eq_ok exclusion (exclusions_eq_ok_iff.1 h).1 rule

theorem exists_invalidExclude {e : CollectError} (h : sel.exclusions = .error e) :
    ∃ pattern reason, e = .invalidExclude pattern reason := by
  rcases (sel.exclusions_eq_error_iff e).1 h with ⟨_, _, _, _, -, -, -, rfl⟩ | ⟨_, -, rfl⟩ <;>
    exact ⟨_, _, rfl⟩

/-- Whether exclusions fail depends on each name by itself. -/
theorem exists_exclusions_iff_forall : (∃ rules, sel.exclusions = .ok rules) ↔
    ∀ dir ∈ sel.excludeDirs, ∃ rule, exclusion dir = .ok rule ∧
      (Glob.isPlain rule.tokens = true ∨ Glob.isTooDeep rule.tokens = false) := by
  simp only [exclusions_eq_ok_iff, ExclusionRule.tooDeep?, Glob.tooDeep?_eq_none_iff,
    List.forall_mem_map]
  constructor
  · rintro ⟨rules, hrules, hdeep⟩ dir hdir
    obtain ⟨rule, hrule⟩ := (exists_mapM_eq_ok_iff exclusion _).1 ⟨rules, hrules⟩ dir hdir
    exact ⟨rule, hrule, hdeep rule ((mem_of_mapM_eq_ok exclusion hrules rule).2 ⟨dir, hdir, hrule⟩)⟩
  · intro h
    obtain ⟨rules, hrules⟩ := (exists_mapM_eq_ok_iff exclusion sel.excludeDirs).2
      fun dir hdir => (h dir hdir).imp fun _ => And.left
    refine ⟨rules, hrules, fun rule hrule => ?_⟩
    obtain ⟨dir, hdir, hrule⟩ := (mem_of_mapM_eq_ok exclusion hrules rule).1 hrule
    obtain ⟨other, hother, hdeep⟩ := h dir hdir
    exact Except.ok.inj (hother.symm.trans hrule) ▸ hdeep

section Added

variable {names excludeDirs : List String} (hliteral : ∀ name ∈ names, IsLiteral name)
  (hadded : ∀ dir, dir ∈ excludeDirs ↔ dir ∈ sel.excludeDirs ∨ dir ∈ names)
include hliteral hadded

theorem exists_exclusions_added_iff :
    (∃ rules, { sel with excludeDirs }.exclusions = .ok rules) ↔
      ∃ rules, sel.exclusions = .ok rules := by
  simp only [exists_exclusions_iff_forall, hadded, or_imp, forall_and]
  refine and_iff_left fun name hname => ⟨_, exclusion_of_isLiteral (hliteral name hname), .inl ?_⟩
  exact Glob.isPlain_deep (mt String.toList_eq_nil_iff.1 (hliteral name hname).1)

theorem adds_of_exclusions {before after : List ExclusionRule}
    (hbefore : sel.exclusions = .ok before)
    (hafter : { sel with excludeDirs }.exclusions = .ok after) :
    ExclusionRule.Adds names before after where
  keeps rule hrule := by
    obtain ⟨dir, -, hdir⟩ := (mem_exclusions_iff hbefore rule).1 hrule
    exact keeps_of_exclusion hdir
  literal := hliteral
  mem_iff rule := by
    rw [mem_exclusions_iff hafter, mem_exclusions_iff hbefore, List.mem_map]
    simp only [hadded, or_and_right, exists_or]
    refine or_congr_right (exists_congr fun name => and_congr_right fun hname => ?_)
    rw [exclusion_of_isLiteral (hliteral name hname), Except.ok.injEq]

end Added
end Selection

/-! ### What is collected -/

/-- Whether errors are the same, apart from which of the excluded names are blamed. -/
inductive CollectError.Alike : CollectError → CollectError → Prop
  | same (e : CollectError) : Alike e e
  | invalidExclude (pattern reason other cause : String) :
      Alike (.invalidExclude pattern reason) (.invalidExclude other cause)

/-- Whether a collection yields the files of another one that are kept, in the same order, and fails
    if that one fails. -/
inductive Narrows (keeps : String → Bool) :
    Except CollectError Collected → Except CollectError Collected → Prop
  | ok {wide narrow : Collected} : narrow.files = wide.files.filter keeps →
      Narrows keeps (.ok wide) (.ok narrow)
  | error {e e' : CollectError} : e.Alike e' → Narrows keeps (.error e) (.error e')

/-- What is kept matters only for the files that there were. -/
theorem Narrows.congr {keeps other : String → Bool} {wide narrow : Except CollectError Collected}
    (h : Narrows keeps wide narrow)
    (hsame : ∀ c, wide = .ok c → ∀ path ∈ c.files, keeps path = other path) :
    Narrows other wide narrow := by
  cases h with
  | ok h => exact .ok (h.trans (List.filter_congr (hsame _ rfl)))
  | error h => exact .error h

section

variable {d : Disk} (hd : d.WellNamed) (sel : Selection) (cwd : Place) (user : UserDirs)
  (view : FileView) (root : String)

include hd in
/-- Leaving out the directories of more names keeps the files that go through none of them. -/
theorem narrows_excluding {names excludeDirs : List String}
    (hliteral : ∀ name ∈ names, Selection.IsLiteral name)
    (hadded : ∀ dir, dir ∈ excludeDirs ↔ dir ∈ sel.excludeDirs ∨ dir ∈ names) :
    Narrows (d.avoids cwd root names) (collect sel d cwd user view root)
      (collect { sel with excludeDirs } d cwd user view root) := by
  have hfails := Selection.exists_exclusions_added_iff hliteral hadded
  rw [collect, collect]
  cases view.isThere root with
  | false => exact .error (.same _)
  | true =>
    cases view.isDir root with
    | false => exact .error (.same _)
    | true =>
      cases hbefore : sel.exclusions with
      | error e =>
        cases hafter : { sel with excludeDirs }.exclusions with
        | error e' =>
          obtain ⟨pattern, reason, rfl⟩ := Selection.exists_invalidExclude hbefore
          obtain ⟨other, cause, rfl⟩ := Selection.exists_invalidExclude hafter
          exact .error (.invalidExclude pattern reason other cause)
        | ok after =>
          obtain ⟨before, hok⟩ := hfails.1 ⟨after, hafter⟩
          rw [hbefore] at hok
          cases hok
      | ok before =>
        obtain ⟨after, hafter⟩ := hfails.2 ⟨before, hbefore⟩
        have hadds := Selection.adds_of_exclusions hliteral hadded hbefore hafter
        simp only [hafter]
        refine .ok ?_
        simp only [Selection.ofItems_eq, Selection.candidates_eq, paths_walk_excluding hd hadds]
        rw [List.filter_comm (d.avoids cwd root names), List.filter_comm (d.avoids cwd root names)]
        rfl

/-- Without tests a collection yields the files that are no tests. -/
theorem files_without_tests :
    (collect { sel with includeTests := false } d cwd user view root).map (·.files) =
      (collect { sel with includeTests := true } d cwd user view root).map fun c =>
        c.files.filter fun path => !(fileName? path).any sel.isTest := by
  have hrules : ∀ wanted, { sel with includeTests := wanted }.exclusions = sel.exclusions :=
    fun _ => rfl
  have hcandidates : ∀ wanted items, { sel with includeTests := wanted }.candidates view items =
      sel.candidates view items := fun _ _ => rfl
  have hkept : ∀ path, { sel with includeTests := true }.leavesOutTest path = false := fun _ => rfl
  have hout : ∀ path, { sel with includeTests := false }.leavesOutTest path =
      (fileName? path).any sel.isTest := fun _ => rfl
  simp only [collect, hrules, Selection.ofItems_eq, hcandidates, hkept, hout, Bool.not_false,
    List.filter_true]
  cases view.isThere root <;> cases view.isDir root <;> cases sel.exclusions <;> rfl

include hd in
/-- Narrowing a collection only filters it. With more names excluded it yields the files that go
    through no directory of these names, which is to be seen from their paths alone if the view
    takes no directory of the disk for a file. Without tests it yields the files that are no
    tests. -/
theorem collect_narrowed :
    (∀ names excludeDirs, (∀ name ∈ names, Selection.IsLiteral name) →
      (∀ dir, dir ∈ excludeDirs ↔ dir ∈ sel.excludeDirs ∨ dir ∈ names) →
      Narrows (d.avoids cwd root names) (collect sel d cwd user view root)
        (collect { sel with excludeDirs } d cwd user view root) ∧
      ((∀ path, view.isFile path = true → d.leadsToDir cwd path = false) →
        Narrows (fun path => (wayFrom root path).dropLast.all (· ∉ names))
          (collect sel d cwd user view root) (collect { sel with excludeDirs } d cwd user view root))) ∧
    (collect { sel with includeTests := false } d cwd user view root).map (·.files) =
      (collect { sel with includeTests := true } d cwd user view root).map fun c =>
        c.files.filter fun path => !(fileName? path).any sel.isTest := by
  refine ⟨fun names excludeDirs hliteral hadded => ?_, files_without_tests sel cwd user view root⟩
  have hnarrows := narrows_excluding hd sel cwd user view root hliteral hadded
  refine ⟨hnarrows, fun hfiles => hnarrows.congr fun c hc path hpath => ?_⟩
  obtain ⟨-, -, rules, -, rfl⟩ := collect_eq_ok_iff.1 hc
  obtain ⟨-, hcandidate, -⟩ := mem_files_ofItems.1 hpath
  exact avoids_eq_of_leadsToDir (hfiles path (Bool.and_eq_true_iff.1 hcandidate).1) root names

end

/-! ### A link into an excluded directory -/

/-- A file in a directory, and a link to this file beside the directory. -/
def linkedSource : Disk :=
  { top := [("proj", .dir [("a.ts", .link "lib/b.ts"), ("lib", .dir [("b.ts", .file [])])])] }

theorem wellNamed_linkedSource : linkedSource.WellNamed := by
  have hnames : ∀ name ∈ ["proj", "a.ts", "lib", "b.ts"], IsEntryName name := by decide
  have hlib : (Node.dir [("b.ts", .file [])]).WellNamed :=
    .dir (by simp [hnames]) (List.forall_mem_singleton.2 (.file _))
  refine .dir (by simp [linkedSource, hnames]) (List.forall_mem_singleton.2 ?_)
  exact .dir (by simp [hnames]) (List.forall_mem_cons.2 ⟨.link _, List.forall_mem_singleton.2 hlib⟩)

theorem locate_linkedSource :
    linkedSource.locate [] "proj" = .ok ["proj"] ∧
      linkedSource.locate [] "proj/lib" = .ok ["proj", "lib"] ∧
      ∀ path ∈ ["proj/a.ts", "proj/lib/b.ts"],
        linkedSource.locate [] path = .ok ["proj", "lib", "b.ts"] := by
  refine ⟨?_, ?_, List.forall_mem_cons.2 ⟨?_, List.forall_mem_singleton.2 ?_⟩⟩
  · exact locate_of_get? (e := .dir) (by decide) (by decide) (by decide) (by decide) nofun
  · exact locate_of_get? (e := .dir) (by decide) (by decide) (by decide) (by decide) nofun
  · have hlink : linkedSource.get? (([] : Place) ++ ["proj"] ++ ["a.ts"]) =
        some (.link "lib/b.ts") := by decide
    have hfile : linkedSource.get? (([] : Place) ++ ["proj"] ++ pieces "lib/b.ts") =
        some (.file []) := by decide
    exact locate_of_link (by decide) (by decide) (by decide) hlink (by decide) (by decide) hfile
      nofun
  · exact locate_of_get? (e := .file []) (by decide) (by decide) (by decide) (by decide) nofun

/-- A walk that leaves out nothing meets the link and the file. -/
theorem mem_walk_linkedSource : ∀ path ∈ ["proj/a.ts", "proj/lib/b.ts"],
    .entry path ∈ linkedSource.walk [] ⟨none, none⟩ "proj" [] false := by
  let plan := linkedSource.plan [] ⟨none, none⟩ "proj" ["proj"] [] false
  have hproj : plan.disk.openAt plan.cwd "proj" = .ok ["proj"] :=
    openAt_eq_ok_iff.2 ⟨locate_linkedSource.1, rfl⟩
  have hlib : plan.disk.openAt plan.cwd "proj/lib" = .ok ["proj", "lib"] :=
    openAt_eq_ok_iff.2 ⟨locate_linkedSource.2.1, rfl⟩
  have hlink : plan.settle (["proj"] ++ ["a.ts"]) (join "proj" "a.ts") =
      .ok ["proj", "lib", "b.ts"] := locate_linkedSource.2.2 "proj/a.ts" List.mem_cons_self
  obtain ⟨depth, hdepth⟩ : ∃ depth, depthBound linkedSource = depth + 2 :=
    Nat.exists_eq_add_of_le' (Nat.le_trans (Nat.le_add_left 2 _) (Nat.le_mul_self _))
  have hwalk : linkedSource.walk [] ⟨none, none⟩ "proj" [] false = .entry "proj" ::
      (plan.disk.names ["proj"]).flatMap
        (plan.met (depth + 1) "proj" ["proj"] [(["proj"], "proj")] []) := by
    have hnone : (if linkedSource.endsInLink [] "proj" then
        linkedSource.fault? ["proj"] else none) = none := ite_self none
    rw [← below_of_openAt hproj, Disk.walk, if_neg (by decide), locate_linkedSource.1, hdepth]
    simp only [hnone]
    rfl
  have hmet : ∀ name ∈ plan.disk.names ["proj"], ∀ item ∈
      plan.met (depth + 1) "proj" ["proj"] [(["proj"], "proj")] [] name,
      item ∈ linkedSource.walk [] ⟨none, none⟩ "proj" [] false := fun name hname item hitem =>
    hwalk ▸ List.mem_cons_of_mem _ (List.mem_flatMap.2 ⟨name, hname, hitem⟩)
  refine List.forall_mem_cons.2 ⟨hmet "a.ts" (mem_names_iff.2 (by decide)) _ ?_,
    List.forall_mem_singleton.2 (hmet "lib" (mem_names_iff.2 (by decide)) _ ?_)⟩
  · rw [Plan.met, hlink]
    exact List.mem_singleton_self _
  · refine List.mem_cons_of_mem _ ?_
    change _ ∈ below plan (depth + 1) "proj/lib" _ _
    rw [below_of_openAt hlib, List.mem_flatMap]
    exact ⟨"b.ts", mem_names_iff.2 (by decide), List.mem_singleton_self _⟩

/-- A file in a directory that is excluded is no longer collected; a link that leads to it from
    outside this directory still is. -/
theorem collect_link_into_excluded :
    let view := linkedSource.view []
    linkedSource.WellNamed ∧ ∃ before after,
      collect {} linkedSource [] ⟨none, none⟩ view "proj" = .ok before ∧
      collect { excludeDirs := ["lib"] } linkedSource [] ⟨none, none⟩ view "proj" = .ok after ∧
      after.files = before.files.filter
        (fun path => (wayFrom "proj" path).dropLast.all (· ∉ ["lib"])) ∧
      "proj/lib/b.ts" ∈ before.files ∧ "proj/lib/b.ts" ∉ after.files ∧
      "proj/a.ts" ∈ after.files := by
  intro view
  have hliteral : ∀ name ∈ ["lib"], Selection.IsLiteral name := by
    simp [Selection.IsLiteral]
    decide
  have hroot : view.isDir "proj" = true :=
    isDir_of_entryOf (entryOf_eq_ok_iff.2 ⟨_, locate_linkedSource.1, by decide⟩)
  have hbefore : collect {} linkedSource [] ⟨none, none⟩ view "proj" =
      .ok (.ofItems {} view (linkedSource.walk [] ⟨none, none⟩ "proj" [] false)) :=
    collect_eq_ok_iff.2 ⟨(exists_locate_of_isDir hroot).1, hroot, [], rfl, rfl⟩
  have hafter : collect { excludeDirs := ["lib"] } linkedSource [] ⟨none, none⟩ view "proj" =
      .ok _ :=
    collect_eq_ok_iff.2 ⟨(exists_locate_of_isDir hroot).1, hroot, [.ofName "lib"], rfl, rfl⟩
  have hfiles : ∀ path ∈ ["proj/a.ts", "proj/lib/b.ts"],
      path ∈ (Collected.ofItems {} view
        (linkedSource.walk [] ⟨none, none⟩ "proj" [] false)).files := by
    intro path hpath
    have hentry : linkedSource.entryOf [] path = .ok (.file []) :=
      entryOf_eq_ok_iff.2 ⟨_, locate_linkedSource.2.2 path hpath, by decide⟩
    have hwanted : ∀ path ∈ ["proj/a.ts", "proj/lib/b.ts"],
        (fileName? path).any ({} : Selection).isSource = true ∧
          ({} : Selection).leavesOutTest path = false := by decide
    obtain ⟨hsource, htest⟩ := hwanted path hpath
    refine mem_files_ofItems.2 ⟨mem_walk_linkedSource path hpath, ?_, htest⟩
    exact Bool.and_eq_true_iff.2 ⟨isFile_of_entryOf hentry, hsource⟩
  have hnarrows := ((collect_narrowed wellNamed_linkedSource {} [] ⟨none, none⟩ view "proj").1
    ["lib"] ["lib"] hliteral (by simp)).2 fun _ => leadsToDir_of_isFile
  rw [hbefore, hafter] at hnarrows
  cases hnarrows with
  | ok hkept =>
    refine ⟨wellNamed_linkedSource, _, _, hbefore, hafter, hkept, hfiles _ (by simp), ?_, ?_⟩
    · rw [hkept, List.mem_filter]
      exact fun hmem => absurd hmem.2 (by decide)
    · rw [hkept, List.mem_filter]
      exact ⟨hfiles _ (by simp), by decide⟩

end RouteInventory
