import RouteInventory.Proofs.Collect.Candidates
import RouteInventory.Proofs.Walk.Tree

/-!
What is collected from a disk without links when directories are excluded by name and rule files do
not count: every file that is asked for, on a way that enters no excluded directory and none that
cannot be listed, and nothing else, in the order of paths (`collect_exact`). Whether a file can be
read does not matter. Only a root that is written as the standard input is not walked.
-/

namespace RouteInventory

open Disk FilePath Walk

namespace Selection

variable {sel : Selection}

/-- Whether a file of this name is asked for: it ends in an extension and, unless tests are wanted,
    not in a mark of tests and an extension. -/
def Wants (sel : Selection) (name : String) : Prop :=
  (∃ ext ∈ sel.extensions, ext.toList <:+ name.toList) ∧
    (sel.includeTests = true ∨
      ¬ ∃ ext ∈ sel.extensions, ∃ mark ∈ [".spec", ".test"], (mark ++ ext).toList <:+ name.toList)

/-- Whether paths are those of the files below a root that are asked for and not in a directory of
    an excluded name, each once and in order. On a disk with faults a file is found only if all
    directories on the way to it, the root among them, can be listed. -/
structure Exact (sel : Selection) (d : Disk) (cwd : Place) (root : String) (files : List String) :
    Prop where
  below : ∀ p ∈ files, ∃ names, IsWay names ∧ p = under root names
  mem_iff : ∀ dirs name, IsWay (dirs ++ [name]) →
    (under root (dirs ++ [name]) ∈ files ↔
      (d.view cwd).isFile (under root (dirs ++ [name])) = true ∧ sel.Wants name ∧
        (∀ dir ∈ dirs, dir ∉ sel.excludeDirs) ∧
        ∀ front, front <+: dirs → d.opens cwd (under root front) = true)
  mem_iff_of_faults_nil : d.faults = [] → ∀ dirs name, IsWay (dirs ++ [name]) →
    (under root (dirs ++ [name]) ∈ files ↔
      (d.view cwd).isFile (under root (dirs ++ [name])) = true ∧ sel.Wants name ∧
        ∀ dir ∈ dirs, dir ∉ sel.excludeDirs)
  ascending : files.Pairwise Before
  nodup : files.Nodup

/-! ### Names -/

theorem isSource_iff {name : String} :
    sel.isSource name = true ↔ ∃ ext ∈ sel.extensions, ext.toList <:+ name.toList := by
  simp [isSource, endsIn]

theorem isTest_iff {name : String} :
    sel.isTest name = true ↔
      ∃ ext ∈ sel.extensions, ∃ mark ∈ [".spec", ".test"],
        (mark ++ ext).toList <:+ name.toList := by
  simp [isTest, testMarks, endsIn]

/-- A file is collected if its name is asked for. -/
theorem isCandidate_and_not_leavesOutTest_iff {view : FileView} {path name : String}
    (hname : fileName? path = some name) :
    sel.isCandidate view path = true ∧ sel.leavesOutTest path = false ↔
      view.isFile path = true ∧ sel.Wants name := by
  rw [Wants, ← isSource_iff, ← isTest_iff, isCandidate, leavesOutTest, hname]
  simp [and_assoc, imp_iff_or_not, or_comm]

end Selection

/-! ### What is kept of a walk -/

/-- Items in order yield files in order. -/
theorem pairwise_files_ofItems (sel : Selection) (view : FileView) {items : List Item}
    (h : items.Pairwise InOrder) : (Collected.ofItems sel view items).files.Pairwise Before := by
  simp only [Collected.ofItems]
  refine ((List.pairwise_filterMap.2 (h.imp ?_)).filter _).filter _
  intro a b hab p hp q hq
  cases a <;> cases b <;> cases hp <;> cases hq
  exact hab _ _ rfl rfl

/-- On a disk without faults all directories on the way to a file can be listed. -/
theorem opens_of_faults_nil {d : Disk} {cwd : Place} {root : String} (hd : d.IsTree)
    (hne : root ≠ "") (hfaults : d.faults = []) {dirs : List String} {name : String}
    (hway : IsWay (dirs ++ [name]))
    (hfile : (d.view cwd).isFile (under root (dirs ++ [name])) = true) :
    ∀ front, front <+: dirs → d.opens cwd (under root front) = true := by
  rintro front ⟨rest, rfl⟩
  obtain ⟨found, hfound, -⟩ := exists_locate_of_isFile hfile
  rw [List.append_assoc] at hway hfound
  obtain ⟨hfront, hrest⟩ := List.forall_mem_append.1 hway.2
  obtain ⟨place, hplace, -⟩ := locate_under hd hne hfront hrest hfound
  exact opens_of_locate hplace hfaults

/-- If a walk meets what lies below the root, on ways into no excluded directory, every file of it
    and in order, then what is kept of it is exactly what is asked for. -/
theorem exact_ofItems {sel : Selection} {d : Disk} {cwd : Place} {root : String}
    {items : List Item} (hd : d.IsTree) (hne : root ≠ "")
    (hroot : (d.view cwd).isFile root = false)
    (hbelow : ∀ p, .entry p ∈ items → p = root ∨ Below d cwd sel.excludeDirs root p)
    (hfiles : ∀ names, IsWay names → (∀ name ∈ names.dropLast, name ∉ sel.excludeDirs) →
      (∀ front, front <+: names.dropLast → d.opens cwd (under root front) = true) →
      (d.view cwd).isFile (under root names) = true → .entry (under root names) ∈ items)
    (horder : items.Pairwise InOrder) :
    sel.Exact d cwd root (Collected.ofItems sel (d.view cwd) items).files := by
  have hbelow : ∀ p, .entry p ∈ items → (d.view cwd).isFile p = true →
      Below d cwd sel.excludeDirs root p := by
    intro p hp hfile
    refine (hbelow p hp).resolve_left ?_
    rintro rfl
    rw [hroot] at hfile
    cases hfile
  have hmem : ∀ dirs name, IsWay (dirs ++ [name]) →
      (under root (dirs ++ [name]) ∈ (Collected.ofItems sel (d.view cwd) items).files ↔
        (d.view cwd).isFile (under root (dirs ++ [name])) = true ∧ sel.Wants name ∧
          (∀ dir ∈ dirs, dir ∉ sel.excludeDirs) ∧
          ∀ front, front <+: dirs → d.opens cwd (under root front) = true) := by
    intro dirs name hway
    obtain ⟨hdirs, hname⟩ := List.forall_mem_append.1 hway.2
    have hname : fileName? (under root (dirs ++ [name])) = some name := by
      rw [under_concat]
      exact fileName?_join (under_ne_empty hne hdirs) (hname name List.mem_cons_self)
    rw [mem_files_ofItems, Selection.isCandidate_and_not_leavesOutTest_iff hname]
    constructor
    · rintro ⟨hentry, hfile, hwants⟩
      obtain ⟨names, hnames, hfree, hopens, heq⟩ := hbelow _ hentry hfile
      obtain rfl := under_injective hne hway.2 hnames.2 heq
      rw [List.dropLast_concat] at hfree hopens
      exact ⟨hfile, hwants, hfree, hopens⟩
    · rintro ⟨hfile, hwants, hfree, hopens⟩
      refine ⟨hfiles _ hway ?_ ?_ hfile, hfile, hwants⟩ <;> rwa [List.dropLast_concat]
  have hordered := pairwise_files_ofItems sel (d.view cwd) horder
  refine ⟨fun p hp => ?_, hmem, fun hfaults dirs name hway => ?_, hordered, hordered.imp ?_⟩
  · obtain ⟨hp, hcandidate, -⟩ := mem_files_ofItems.1 hp
    obtain ⟨names, hnames, -, -, heq⟩ := hbelow p hp (Bool.and_eq_true_iff.1 hcandidate).1
    exact ⟨names, hnames, heq⟩
  · rw [hmem dirs name hway]
    exact and_congr_right fun hfile => and_congr_right fun _ =>
      and_iff_left (opens_of_faults_nil hd hne hfaults hway hfile)
  · rintro p q hpq rfl
    exact before_asymm hpq hpq

/-! ### The files of a disk -/

section Disk

variable {d : Disk} {cwd : Place} {root : String}

/-- Collecting from a directory of a disk without links succeeds and yields what is asked for, if
    the root is not the standard input as it is written. -/
theorem collect_exact {sel : Selection} (hd : d.IsTree) (hroot : (d.view cwd).isDir root = true)
    (hliteral : ∀ name ∈ sel.excludeDirs, Selection.IsLiteral name)
    (hstandard : sel.respectGitignore = false) (user : UserDirs) :
    ∃ c, collect sel d cwd user (d.view cwd) root = .ok c ∧
      (isInput root = false → sel.Exact d cwd root c.files) ∧
      (isInput root = true → ∀ p ∈ c.files, p = "<stdin>") := by
  obtain ⟨hthere, hfile, place, hplace, hdir⟩ := exists_locate_of_isDir hroot
  have hcollect : collect sel d cwd user (d.view cwd) root =
      .ok (.ofItems sel (d.view cwd) (d.walk cwd user root (sel.excludeDirs.map .ofName) false)) := by
    simp [collect, hthere, hroot, Selection.exclusions_of_isLiteral hliteral, hstandard]
  refine ⟨_, hcollect, fun hinput => ?_, fun hinput p hp => ?_⟩
  · obtain ⟨hcheck, -⟩ := locate_eq_ok_iff.1 hplace
    have hne : root ≠ "" := (checkPath_eq_ok_iff.1 hcheck).2.1
    let plan := d.plan cwd user root place (sel.excludeDirs.map .ofName) false
    have hplan : plan.LeavesOut sel.excludeDirs := ⟨hd, hne, rfl, hliteral, rfl⟩
    have hnil : ∀ name ∈ ([] : List String), IsProper name := by simp
    have hwalk : d.walk cwd user root (sel.excludeDirs.map .ofName) false =
        .entry root :: below plan (depthBound d) root [(place, root)] [] :=
      walk_eq hd hinput hplace hdir _ _ _
    have hbelow : ∀ p, .entry p ∈ below plan (depthBound d) root [(place, root)] [] →
        Below d cwd sel.excludeDirs root p := fun p hp => below_of_mem hplan hnil hp
    rw [hwalk]
    refine exact_ofItems hd hne hfile ?_ ?_ ?_
    · intro p hp
      exact (List.mem_cons.1 hp).imp Item.entry.inj (hbelow p)
    · intro names hnames hfree hopens hisFile
      obtain ⟨found, hfound, hnotDir⟩ := exists_locate_of_isFile hisFile
      exact List.mem_cons_of_mem _ (mem_below hplan hnil hplace
        (length_lt_depthBound d place) hnames hfree hopens hfound hnotDir _ _)
    · refine List.pairwise_cons.2 ⟨?_, pairwise_below hplan hnil _ _⟩
      rintro item hitem p q hp rfl
      obtain rfl := Item.entry.inj hp
      obtain ⟨names, hnames, -, -, rfl⟩ := hbelow q hitem
      exact before_under hne hnil hnames
  · rw [Disk.walk, if_pos hinput] at hp
    have hentry := (mem_files_ofItems.1 hp).1
    exact Item.entry.inj (List.mem_singleton.1 hentry)

/-- A file in an excluded directory is not collected, the one beside that directory is. -/
theorem collect_beside_excluded :
    let d : Disk := { top := [("proj", .dir [("a.js", .file []), ("lib", .dir
      [("b.ts", .file [])])])] }
    let sel : Selection := { excludeDirs := ["lib"] }
    isInput "proj" = false ∧ ∃ c, collect sel d [] ⟨none, none⟩ (d.view []) "proj" = .ok c ∧
      sel.Exact d [] "proj" c.files ∧ "proj/a.js" ∈ c.files ∧ "proj/lib/b.ts" ∉ c.files := by
  intro d sel
  have hinput : isInput "proj" = false := by decide
  have hliteral : ∀ name ∈ sel.excludeDirs, Selection.IsLiteral name := by
    simp [sel, Selection.IsLiteral]
    decide
  have htree : d.IsTree := by
    refine .dir (by decide) (by decide) (List.forall_mem_singleton.2 ?_)
    refine .dir (by decide) (by decide) (List.forall_mem_cons.2 ⟨.file _, ?_⟩)
    refine List.forall_mem_singleton.2 (.dir (by decide) (by decide) ?_)
    exact List.forall_mem_singleton.2 (.file _)
  have hroot : d.entryOf [] "proj" = .ok .dir :=
    entryOf_of_get? htree (by decide) (by decide) (by decide) (by decide)
  have hfile : d.entryOf [] "proj/a.js" = .ok (.file []) :=
    entryOf_of_get? htree (by decide) (by decide) (by decide) (by decide)
  obtain ⟨c, hc, hexact, -⟩ :=
    collect_exact htree (isDir_of_entryOf hroot) hliteral rfl ⟨none, none⟩
  have hexact := hexact hinput
  refine ⟨hinput, c, hc, hexact, ?_, ?_⟩
  · have hway : IsWay ([] ++ ["a.js"]) := by decide
    refine (hexact.mem_iff_of_faults_nil rfl _ _ hway).2
      ⟨isFile_of_entryOf hfile, ⟨?_, .inr ?_⟩, by simp⟩ <;>
    decide
  · intro hmem
    have hout := ((hexact.mem_iff ["lib"] "b.ts" (by decide)).1 hmem).2.2.1 "lib" List.mem_cons_self
    exact hout List.mem_cons_self

/-- A root that is written as the standard input is not walked, so that its files are missing. -/
theorem not_exact_of_input :
    let d : Disk := { top := [("-", .dir [("a.js", .file [])])] }
    let sel : Selection := {}
    (d.view []).isDir "-" = true ∧ ∃ c, collect sel d [] ⟨none, none⟩ (d.view []) "-" = .ok c ∧
      "-/a.js" ∉ c.files ∧ ¬ sel.Exact d [] "-" c.files := by
  intro d sel
  have htree : d.IsTree := by
    refine .dir (by decide) (by decide) (List.forall_mem_singleton.2 ?_)
    exact .dir (by decide) (by decide) (List.forall_mem_singleton.2 (.file _))
  have hroot : d.entryOf [] "-" = .ok .dir :=
    entryOf_of_get? htree (by decide) (by decide) (by decide) (by decide)
  have hfile : d.entryOf [] "-/a.js" = .ok (.file []) :=
    entryOf_of_get? htree (by decide) (by decide) (by decide) (by decide)
  have hroot := isDir_of_entryOf hroot
  have hcollect : collect sel d [] ⟨none, none⟩ (d.view []) "-" =
      .ok (.ofItems sel (d.view []) [.entry "<stdin>"]) := by
    have hinput : isInput "-" = true := by decide
    have hrules : sel.exclusions = .ok [] := rfl
    simp [collect, (exists_locate_of_isDir hroot).1, hroot, hrules, Disk.walk, hinput]
  have hmissing : "-/a.js" ∉ (Collected.ofItems sel (d.view []) [.entry "<stdin>"]).files := by
    intro hmem
    have hentry := (mem_files_ofItems.1 hmem).1
    exact absurd hentry (by decide)
  refine ⟨hroot, _, hcollect, hmissing, fun hexact => hmissing ?_⟩
  have hway : IsWay ([] ++ ["a.js"]) := by decide
  refine (hexact.mem_iff_of_faults_nil rfl _ _ hway).2
      ⟨isFile_of_entryOf hfile, ⟨?_, .inr ?_⟩, by simp⟩ <;>
    decide

end Disk

end RouteInventory
