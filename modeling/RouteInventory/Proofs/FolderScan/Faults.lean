import RouteInventory.Proofs.Collect.Candidates
import RouteInventory.Proofs.Disk.Under
import RouteInventory.Proofs.FolderScan.Failure
import RouteInventory.Proofs.Scan.Runs
import RouteInventory.Proofs.Walk.Tree

/-!
What a scan makes of files that cannot be read and of directories that cannot be listed. They can be
seen like all others, so they make no scan fail: such a file is collected, listed as failed and left
out of everything else, and nothing but the reasons that have to do with the settings and the root
makes a scan fail (`scanFolder_fails_exactly`).
-/

namespace RouteInventory

open Disk FilePath Walk

/-! ### What can be seen of what cannot be read -/

namespace Disk

variable {d e : Disk}

theorem nodeAt_eq_of_top (h : e.top = d.top) (spot : Spot) : e.nodeAt spot = d.nodeAt spot := by
  cases spot with
  | nil => rw [nodeAt, nodeAt, h]
  | cons => rfl

/-- Where pieces lead depends on what lies where only. -/
theorem follow_eq_of_top (h : e.top = d.top) (links : Nat) (spot : Spot) (todo : List String) :
    e.follow links spot todo = d.follow links spot todo := by
  fun_induction follow d links spot todo <;> grind [follow, nodeAt_eq_of_top]

theorem spotOf_eq_of_top (h : e.top = d.top) (place : Place) : e.spotOf place = d.spotOf place :=
  List.foldl_ext _ _ _ fun spot _ _ => by rw [nodeAt_eq_of_top h]

theorem entryOf_eq_of_top (h : e.top = d.top) (cwd : Place) (path : String) :
    e.entryOf cwd path = d.entryOf cwd path := by
  have hget : e.get? = d.get? := by
    funext place
    rw [get?, get?, node?, node?, h]
  simp only [entryOf, locate, canonical, spotOf_eq_of_top h, follow_eq_of_top h, hget]

/-- A file can be read if it can be opened. -/
theorem isReadable_read {cwd : Place} {path : String} (h : (d.view cwd).isFile path = true) :
    isReadable (d.read cwd) path = d.opens cwd path := by
  obtain ⟨octets, hentry⟩ := exists_file_of_isFile h
  obtain ⟨place, hplace, hget⟩ := exists_locate_of_entryOf hentry
  rw [isReadable, read, opens, opened]
  cases hopen : d.openAt cwd path with
  | error cause => rfl
  | ok found =>
    obtain rfl : place = found := Except.ok.inj (hplace.symm.trans (openAt_eq_ok_iff.1 hopen).1)
    simp only [bind, Except.bind, hget]
    rfl

end Disk

/-! ### Scans -/

/-- What becomes of the files that were collected but cannot be read: they are listed as failed, and
    every other file is counted. -/
structure FolderScan.SkipsUnreadable (rules : Extraction.SecretRules) (d : Disk) (cwd : Place)
    (found : FolderScan) : Prop where
  failedFiles : found.inventory.failedFiles = found.collected.files.filter (!d.opens cwd ·)
  counted : found.inventory.filesScanned + found.inventory.failedFiles.length =
    found.collected.files.length
  /-- All but the failures is as if only the files that can be read had been collected. -/
  alone : { found.found with failedFiles := [] } =
    scan rules (d.read cwd) (found.collected.files.filter (d.opens cwd ·))

section

variable (rules : Extraction.SecretRules) (d : Disk) (cwd : Place) (user : UserDirs) (s : Settings)

/-- What cannot be read or listed neither makes a scan fail nor keeps it from failing. -/
theorem scanFolder_eq_error_iff_of_faults (faults : List (Place × OsError)) (e : ScanError) :
    scanFolder rules { d with faults } cwd user s = .error e ↔
      scanFolder rules d cwd user s = .error e := by
  have htop : ({ d with faults } : Disk).top = d.top := rfl
  rw [scanFolder_eq_error_iff_fails, scanFolder_eq_error_iff_fails]
  simp only [view, isDir, entryOf_eq_of_top htop]

theorem skipsUnreadable_scanFolder {found : FolderScan}
    (h : scanFolder rules d cwd user s = .ok found) : found.SkipsUnreadable rules d cwd := by
  obtain ⟨-, collected, hcollected, rfl⟩ := (scanFolder_eq_ok_iff ..).1 h
  have hreadable : ∀ file ∈ collected.files, isReadable (d.read cwd) file = d.opens cwd file :=
    fun file hfile => isReadable_read (isFile_of_collect hcollected file hfile)
  have hisolated := isolated_scan rules (d.read cwd) collected.files
  generalize scan rules (d.read cwd) collected.files = found at hisolated ⊢
  constructor
  case failedFiles =>
    refine hisolated.failedFiles.trans (List.filter_congr fun file hfile => ?_)
    rw [hreadable file hfile]
  case counted => exact hisolated.counted
  case alone => rw [hisolated.alone, List.filter_congr hreadable]

/-- On a disk without faults every file that is collected is read. -/
theorem filesScanned_of_faults_nil (hfaults : d.faults = []) {found : FolderScan}
    (h : scanFolder rules d cwd user s = .ok found) :
    found.inventory.filesScanned = found.collected.files.length := by
  have hskips := skipsUnreadable_scanFolder rules d cwd user s h
  have hnone : found.inventory.failedFiles = [] := by
    rw [hskips.failedFiles, List.filter_eq_nil_iff]
    intro file hfile
    obtain ⟨-, collected, hcollected, rfl⟩ := (scanFolder_eq_ok_iff ..).1 h
    obtain ⟨place, hplace, -⟩ := exists_locate_of_isFile (isFile_of_collect hcollected file hfile)
    rw [opens_of_locate hplace hfaults]
    exact Bool.false_ne_true
  rw [← hskips.counted, hnone]
  rfl

/-- A scan fails for the first of the reasons that holds, and succeeds if none does. What cannot be
    read or listed is no reason: a file that was collected but cannot be read is listed as failed and
    passed over. -/
theorem scanFolder_fails_exactly :
    (s.check = .ok () ↔ s.Usable) ∧
    (∀ e, scanFolder rules d cwd user s = .error e ↔
      s.Fails ((d.view cwd).isThere s.root) ((d.view cwd).isDir s.root) e) ∧
    ((∃ found, scanFolder rules d cwd user s = .ok found) ↔
      s.Usable ∧ (d.view cwd).isThere s.root = true ∧ (d.view cwd).isDir s.root = true ∧
        (∀ dir ∈ s.excludeDirs, ∀ fault, ¬ Selection.Refused dir fault) ∧
        s.selection.jointFault? = none) ∧
    (∀ faults e, scanFolder rules { d with faults } cwd user s = .error e ↔
      scanFolder rules d cwd user s = .error e) ∧
    ∀ found, scanFolder rules d cwd user s = .ok found → found.SkipsUnreadable rules d cwd := by
  refine ⟨s.check_eq_ok_iff, scanFolder_eq_error_iff_fails rules d cwd user s, ?_,
    scanFolder_eq_error_iff_of_faults rules d cwd user s,
    fun _ => skipsUnreadable_scanFolder rules d cwd user s⟩
  rw [exists_scanFolder_iff, s.check_eq_ok_iff, s.selection.exists_exclusions_iff]
  rfl

end

/-! ### A folder with faults -/

/-- A folder with a file that cannot be read and a directory that cannot be listed. -/
def faultyFolder : Disk where
  top := [("proj", .dir [("a.js", .file []), ("b.js", .file []), ("lib", .dir [("c.js", .file [])])])]
  faults := [(["proj", "b.js"], .accessDenied), (["proj", "lib"], .accessDenied)]

theorem isTree_faultyFolder : faultyFolder.IsTree := by
  refine .dir (by decide) (by decide) (List.forall_mem_singleton.2 ?_)
  refine .dir (by decide) (by decide) (List.forall_mem_cons.2 ⟨.file _, ?_⟩)
  refine List.forall_mem_cons.2 ⟨.file _, List.forall_mem_singleton.2 ?_⟩
  exact .dir (by decide) (by decide) (List.forall_mem_singleton.2 (.file _))

/-- The places in the folder. -/
theorem locate_faultyFolder : ∀ path ∈ ["proj", "proj/a.js", "proj/b.js", "proj/lib"],
    faultyFolder.locate [] path = .ok (pieces path) := by
  intro path hpath
  have hall : ∀ path ∈ ["proj", "proj/a.js", "proj/b.js", "proj/lib"],
      checkPath path = .ok () ∧ isAbsolute path = false ∧
        (∀ name ∈ pieces path, IsProper name ∧ Text.octetCount name.toList ≤ nameLimit) ∧
        (faultyFolder.get? (pieces path)).isSome := by decide
  obtain ⟨hcheck, hrelative, hproper, hthere⟩ := hall path hpath
  obtain ⟨e, hget⟩ := Option.isSome_iff_exists.1 hthere
  exact locate_of_get? hcheck hrelative hproper hget fun target hlink =>
    isTree_faultyFolder.not_link (hlink ▸ hget)

/-- What a walk meets in the folder: everything but what lies in the directory. -/
theorem walk_faultyFolder (user : UserDirs) : faultyFolder.walk [] user "proj" [] false =
    [.entry "proj", .entry "proj/a.js", .entry "proj/b.js", .entry "proj/lib",
      .broken "proj/lib" .accessDenied] := by
  let plan : Plan := ⟨faultyFolder, [], "proj", ["proj"], [], false, [], []⟩
  have hd : plan.disk.IsTree := isTree_faultyFolder
  have hproj : faultyFolder.locate [] "proj" = .ok ["proj"] :=
    locate_faultyFolder "proj" (by decide)
  have hlib := locate_faultyFolder "proj/lib" (by decide)
  have hopen : plan.disk.openAt plan.cwd "proj" = .ok ["proj"] :=
    openAt_eq_ok_iff.2 ⟨hproj, by decide⟩
  have hrefused : plan.disk.openAt plan.cwd "proj/lib" = .error .accessDenied :=
    openAt_of_locate hlib
  have hnames : plan.disk.names ["proj"] = ["a.js", "b.js", "lib"] :=
    List.mergeSort_of_pairwise (by decide)
  obtain ⟨depth, hdepth⟩ : ∃ depth, depthBound faultyFolder = depth + 2 :=
    Nat.exists_eq_add_of_le' <|
      Nat.le_trans (Nat.le_add_left 2 _) (Nat.le_mul_of_pos_left _ (Nat.succ_pos _))
  have hwalk : faultyFolder.walk [] user "proj" [] false =
      .entry "proj" :: below plan (depthBound faultyFolder) "proj" [(["proj"], "proj")] [] :=
    walk_eq hd (by decide) hproj (by decide) user [] false
  have hfiles : ∀ name ∈ ["a.js", "b.js"], plan.atEntry (depth + 1) "proj" ["proj"]
      [(["proj"], "proj")] [] name = [.entry (join "proj" name)] :=
    List.forall_mem_cons.2 ⟨rfl, List.forall_mem_singleton.2 rfl⟩
  have hdir : plan.atEntry (depth + 1) "proj" ["proj"] [(["proj"], "proj")] [] "lib" =
      .entry "proj/lib" :: below plan (depth + 1) "proj/lib"
        [(["proj", "lib"], "proj/lib"), (["proj"], "proj")] [] := rfl
  rw [hwalk, hdepth, below_eq_flatMap hd hopen, hnames, List.flatMap_cons, List.flatMap_cons,
    List.flatMap_cons, hfiles _ (by decide), hfiles _ (by decide), hdir, below_of_error hrefused]
  rfl

/-- The file is collected all the same, and the directory is a fault. -/
theorem collect_faultyFolder (user : UserDirs) :
    collect (Settings.forRoot [] "proj").selection faultyFolder [] user (faultyFolder.view [])
      "proj" = .ok
        { files := ["proj/a.js", "proj/b.js"]
          skippedTests := 0
          faults :=
            ["proj/lib: IO error for operation on proj/lib: Permission denied (os error 13)"] } := by
  set sel := (Settings.forRoot [] "proj").selection
  have hroot : faultyFolder.entryOf [] "proj" = .ok .dir :=
    entryOf_eq_ok_iff.2 ⟨_, locate_faultyFolder "proj" (by decide), by decide⟩
  have hisDir := isDir_of_entryOf hroot
  have hfiles : ∀ path ∈ ["proj/a.js", "proj/b.js"],
      sel.isCandidate (faultyFolder.view []) path = true := by
    intro path hpath
    have hall : ∀ path ∈ ["proj/a.js", "proj/b.js"],
        path ∈ ["proj", "proj/a.js", "proj/b.js", "proj/lib"] ∧
          faultyFolder.get? (pieces path) = some (.file []) ∧
          (fileName? path).any sel.isSource = true := by decide
    obtain ⟨hplace, hget, hsource⟩ := hall path hpath
    have hentry := entryOf_eq_ok_iff.2 ⟨_, locate_faultyFolder path hplace, hget⟩
    exact Bool.and_eq_true_iff.2 ⟨isFile_of_entryOf hentry, hsource⟩
  have hdirs : ∀ path ∈ ["proj", "proj/lib"],
      sel.isCandidate (faultyFolder.view []) path = false := by
    intro path hpath
    have hall : ∀ path ∈ ["proj", "proj/lib"], (fileName? path).any sel.isSource = false := by
      decide
    rw [Selection.isCandidate, hall path hpath, Bool.and_false]
  have hcandidates : sel.candidates (faultyFolder.view [])
      [.entry "proj", .entry "proj/a.js", .entry "proj/b.js", .entry "proj/lib",
        .broken "proj/lib" .accessDenied] = ["proj/a.js", "proj/b.js"] := by
    simp [Selection.candidates, hdirs "proj", hdirs "proj/lib", hfiles "proj/a.js",
      hfiles "proj/b.js"]
  refine collect_eq_ok_iff.2 ⟨(exists_locate_of_isDir hisDir).1, hisDir, [], rfl, ?_⟩
  refine (congrArg (Collected.ofItems sel _) (walk_faultyFolder user)).trans ?_
  rw [Selection.ofItems_eq, hcandidates]
  rfl

/-- The file is listed as failed, and the directory is passed over. -/
theorem scanFolder_faultyFolder :
    let s := Settings.forRoot [] "proj"
    ∃ found, scanFolder .disabled faultyFolder [] ⟨none, none⟩ s = .ok found ∧
      found.collected.files = ["proj/a.js", "proj/b.js"] ∧
      found.collected.faults =
        ["proj/lib: IO error for operation on proj/lib: Permission denied (os error 13)"] ∧
      found.inventory.failedFiles = ["proj/b.js"] ∧ found.inventory.filesScanned = 1 := by
  intro s
  have hcheck : (Settings.forRoot [] "proj").check = .ok () := by rfl
  have hfound := (scanFolder_eq_ok_iff .disabled faultyFolder [] ⟨none, none⟩ s _).2
    ⟨hcheck, _, collect_faultyFolder ⟨none, none⟩, rfl⟩
  obtain ⟨-, -, -, -, hskips⟩ := scanFolder_fails_exactly .disabled faultyFolder [] ⟨none, none⟩ s
  have hskips := hskips _ hfound
  have hreadable : faultyFolder.opens [] "proj/a.js" = true :=
    opens_iff.2 ⟨_, openAt_eq_ok_iff.2 ⟨locate_faultyFolder _ (by decide), by decide⟩⟩
  have hunreadable : faultyFolder.opens [] "proj/b.js" = false := by
    rw [opens, openAt_of_locate (locate_faultyFolder _ (by decide))]
    rfl
  have hfailed : _ = ["proj/b.js"] := hskips.failedFiles.trans (by
    simp only [List.filter_cons, List.filter_nil, hreadable, hunreadable]
    rfl)
  have hcounted := hskips.counted
  rw [hfailed] at hcounted
  exact ⟨_, hfound, rfl, rfl, hfailed, Nat.succ.inj hcounted⟩

end RouteInventory
