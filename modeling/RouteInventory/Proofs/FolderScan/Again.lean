import RouteInventory.Proofs.FolderScan.Checkout
import RouteInventory.Proofs.FolderScan.Faults

/-!
Scanning a folder again after its reports were written. On a disk without links the reports change
nothing that a scan looks at, wherever they are written to, as long as their extensions are not
asked for, no `.git` refers to rules through a directory that was made for them, and the rules of
the user are the same (`scanFolder_again`).
-/

namespace RouteInventory

open Disk FilePath Walk

variable {rules : Extraction.SecretRules} {d e : Disk} {cwd : Place} {user : UserDirs}
  {s : Settings}

theorem folderName_eq (h : Grows d e) {root : String} {place : Place}
    (hplace : d.locate cwd root = .ok place) : folderName e cwd root = folderName d cwd root := by
  rw [folderName, folderName, canonical_of_locate hplace, canonical_of_locate (h.locate hplace)]

/-- Whether the rules of a folder, and of those above and below it, do not depend on what was added
    to a disk. -/
def Settings.KeepsRules (s : Settings) (d e : Disk) (cwd : Place) : Prop :=
  s.respectGitignore = true → ∀ place, d.locate cwd s.root = .ok place →
    ∀ folder, folder <+: place ∨ place <+: folder → Walk.KeepsRules d e cwd folder

/-- A scan of a disk with reports yields what it yielded before they were added. -/
theorem scanFolder_extends (h : Extends Report.names d e) {first : FolderScan}
    (hext : ∀ ext ∈ [".json", ".txt", ".csv"], ext ∉ s.extensions) (hkeeps : s.KeepsRules d e cwd)
    (huser : s.respectGitignore = true → user.rules e cwd = user.rules d cwd)
    (hscan : scanFolder rules d cwd user s = .ok first) :
    ∃ second, scanFolder rules e cwd user s = .ok second ∧ second.found = first.found ∧
      second.inventory = first.inventory := by
  obtain ⟨hcheck, before, hbefore, rfl⟩ := (scanFolder_eq_ok_iff rules d cwd user s first).1 hscan
  have hpoint : ∀ ext ∈ s.selection.extensions, ext.toList.head? = some '.' := fun ext hmem =>
    (((Settings.check_eq_ok_iff s).1 hcheck).extension ext hmem).2.1
  have hsource : ∀ name ∈ "<stdin>" :: Report.names, s.selection.isSource name = false :=
    fun name => Report.isSource_eq_false hpoint hext
  obtain ⟨hinput, hnames⟩ := List.forall_mem_cons.1 hsource
  obtain ⟨after, hafter, hfiles, -, hread⟩ :=
    collect_extends h (by decide) hnames hinput hkeeps huser hbefore
  obtain ⟨-, hroot, -⟩ := collect_eq_ok_iff.1 hbefore
  obtain ⟨-, -, place, hplace, -⟩ := exists_locate_of_isDir hroot
  have hfound : scan rules (e.read cwd) after.files = scan rules (d.read cwd) before.files := by
    rw [hfiles, scan_congr hread]
  refine ⟨_, (scanFolder_eq_ok_iff rules e cwd user s _).2 ⟨hcheck, after, hafter, rfl⟩, hfound, ?_⟩
  simp only [hfound, folderName_eq h.grows hplace]

/-- There is no other `.git` above or below the folder. -/
theorem octets_of_git_checkout {gitFile : String} {more : List (String × Node)}
    (hmore : more.lookup ".git" = none) {folder : Place} {octets : List UInt8}
    (hfolder : folder <+: ["proj"] ∨ ["proj"] <+: folder)
    (hgit : (checkout gitFile more).get? (folder ++ [".git"]) = some (.file octets)) :
    octets = Text.encode gitFile.toList := by
  obtain rfl | ⟨rest, rfl⟩ : folder = [] ∨ ∃ rest, folder = "proj" :: rest := by
    rcases hfolder with habove | ⟨rest, rfl⟩
    · exact (List.prefix_cons_iff.1 habove).imp_right fun ⟨rest, heq, _⟩ => ⟨rest, heq⟩
    · exact .inr ⟨rest, rfl⟩
  · rw [List.nil_append, get?_checkout_eq_none (by decide) hmore] at hgit
    cases hgit
  · have hgit : (checkout gitFile more).get? ("proj" :: (rest ++ [".git"])) = _ := hgit
    rcases names_of_file_checkout hgit with ⟨-, hoctets⟩ | hsource
    · exact hoctets
    · have hlast := congrArg List.getLast? hsource
      rw [List.getLast?_concat] at hlast
      exact absurd hlast (by decide)

/-- A `.git` that refers to rules along names refers to nothing that comes with the reports. -/
theorem keepsRules_checkout {more : List (String × Node)}
    (h : Extends Report.names (checkout "gitdir: wt" more) d) (hgit : more.lookup ".git" = none)
    (hwt : more.lookup "wt" = none) {folder : Place}
    (hfolder : folder <+: ["proj"] ∨ ["proj"] <+: folder) :
    KeepsRules (checkout "gitdir: wt" more) d [] folder := by
  intro octets hfile path hrefers hnow
  obtain rfl := octets_of_git_checkout hgit hfolder hfile
  have hown : checkoutDir? (.ok (.file (Text.encode "gitdir: wt".toList))) = some "wt" := by decide
  have hpieces : pieces (join "wt" "commondir") = ["wt"] ++ ["commondir"] := by decide
  have hproper : ∀ name ∈ ["wt"] ++ ["commondir"], IsProper name := by decide
  have hsame : SameFile ((checkout "gitdir: wt" more).entryOf [] (join "wt" "commondir"))
      (d.entryOf [] (join "wt" "commondir")) :=
    h.sameFile_relative (by decide) ["wt"] hpieces hproper (by decide)
  have hnone : ∀ octets, (checkout "gitdir: wt" more).entryOf [] (join "wt" "commondir") ≠
      .ok (.file octets) := by
    intro octets hthere
    have hget := ((entryOf_relative_iff h.before (by decide) (hpieces ▸ hproper) _).1 hthere).2.2
    rw [hpieces, List.nil_append, List.cons_append,
      get?_checkout_eq_none (by decide) hwt] at hget
    cases hget
  cases hrefers with
  | commondir hother =>
    obtain rfl := Option.some.inj (hown.symm.trans hother)
    rwa [hsame.isFile_eq] at hnow
  | rules hdir =>
    have hunread := firstLine?_of_not_file fun octets h => hnone octets (entryOf_of_opened h)
    simp only [sharedDir?, hown, bind, Option.bind, hunread] at hdir
    cases hdir

/-- Whether the reports about a folder feed back into a scan of it: another scan finds something
    else. -/
def FeedsBack (d : Disk) (user : UserDirs) (s : Settings) : Prop :=
  ∃ first, scanFolder .disabled d [] user s = .ok first ∧
    let out := Report.write s.outputDir first.inventory [] d
    out.error = none ∧ ∀ second, scanFolder .disabled out.disk [] user s = .ok second →
      second.inventory ≠ first.inventory

/-- Inventories tell how many files were collected. -/
theorem inventory_ne_of_files {d e : Disk} {first second : FolderScan}
    (hfirst : scanFolder rules d cwd user s = .ok first)
    (hsecond : scanFolder rules e cwd user s = .ok second)
    (h : ¬ (second.collected.files = [] ↔ first.collected.files = [])) :
    second.inventory ≠ first.inventory := by
  intro hsame
  have hcount := (skipsUnreadable_scanFolder rules e cwd user s hsecond).counted
  rw [hsame, (skipsUnreadable_scanFolder rules d cwd user s hfirst).counted] at hcount
  refine h ?_
  rw [← List.length_eq_zero_iff, ← List.length_eq_zero_iff, hcount]

/-- A disk on which the `.git` of a folder refers to rules through the directory that the folder's
    reports will have. -/
def rulesBehindReports : Disk :=
  checkout "gitdir: data/proj/.."
    [("data", .dir [("commondir", .file (Text.encode "data".toList)),
      ("info", .dir [("exclude", .file (Text.encode "a.js".toList))])])]

theorem isTree_rulesBehindReports : rulesBehindReports.IsTree := by
  refine isTree_checkout _ (by decide) (by decide) (List.forall_mem_singleton.2 ?_)
  refine .dir (by decide) (by decide) (List.forall_mem_cons.2 ⟨.file _, ?_⟩)
  refine List.forall_mem_singleton.2 (.dir (by decide) (by decide) ?_)
  exact List.forall_mem_singleton.2 (.file _)

/-- The `.git` of the folder leads to rules if the directory of the reports is there. -/
theorem sharedDir?_rulesBehindReports (h : Extends Report.names rulesBehindReports d) :
    sharedDir? d [] (.ok (.file (Text.encode "gitdir: data/proj/..".toList))) =
      if d.get? ["data", "proj"] = some .dir then some "data" else none := by
  have hcommon : ∀ e, d.entryOf [] (join "data/proj/.." "commondir") = .ok e ↔
      d.get? ["data", "proj"] = some .dir ∧ d.get? ["data", "commondir"] = some e := by
    have hpieces : pieces (join "data/proj/.." "commondir") =
        ["data"] ++ ["proj"] ++ ".." :: ["commondir"] := by decide
    exact entryOf_up_iff h.after (by decide) (by decide) hpieces (by decide)
  have hown : checkoutDir? (.ok (.file (Text.encode "gitdir: data/proj/..".toList))) =
      some "data/proj/.." := by decide
  by_cases hdir : d.get? ["data", "proj"] = some .dir
  · have hget : d.get? (["data"] ++ ["commondir"]) = _ := (h.same (by decide) _).1 rfl
    have hopened := opened_of_entryOf ((hcommon _).2 ⟨hdir, hget⟩) h.grows.faults
    have hline : firstLine? (d.opened [] (join "data/proj/.." "commondir")) =
        some "data".toList := by
      rw [hopened]
      decide
    simp only [sharedDir?, hown, bind, Option.bind, hline, hdir, if_true]
    decide
  · have hnot := firstLine?_of_not_file fun octets hfile =>
      hdir ((hcommon _).1 (entryOf_of_opened hfile)).1
    simp only [sharedDir?, hown, bind, Option.bind, hnot, hdir, if_false]

/-- So nothing is collected from the folder once the directory of the reports is there. -/
theorem files_rulesBehindReports (h : Extends Report.names rulesBehindReports d) {c : Collected}
    (hc : collect (honouringRules "data").selection d [] ⟨none, none⟩ (d.view []) "proj" = .ok c) :
    c.files = [] ↔ d.get? ["data", "proj"] = some .dir := by
  have habove := rulesAbove_checkout h (by decide)
  rw [files_checkout_eq_nil_iff h hc]
  simp only [Disk.plan, if_true, habove]
  by_cases hdir : d.get? ["data", "proj"] = some .dir
  · have hget : d.get? (["data", "info"] ++ ["exclude"]) = _ := (h.same (by decide) _).1 rfl
    have hexclude : d.opened [] (join "data" "info/exclude") =
        .ok (.file (Text.encode "a.js".toList)) :=
      opened_of_entryOf (entryOf_of_get? h.after (by decide) (by decide) (by decide) hget)
        h.grows.faults
    rw [rulesAt_checkout h (ExclusionRule.ofFile (Text.encode "a.js".toList))]
    · exact iff_of_true rfl hdir
    · rw [sharedDir?_rulesBehindReports h, if_pos hdir, Option.map_some, hexclude]
      rfl
  · rw [rulesAt_checkout h []]
    · exact iff_of_false (Bool.eq_false_iff.1 rfl) hdir
    · rw [sharedDir?_rulesBehindReports h, if_neg hdir]
      rfl

theorem feedsBack_rulesBehindReports :
    FeedsBack rulesBehindReports ⟨none, none⟩ (honouringRules "data") := by
  have hd := isTree_rulesBehindReports
  have hdata : ∀ {e : Disk}, Extends Report.names rulesBehindReports e →
      e.locate [] "data" = .ok ["data"] := fun h => locate_dir_checkout h (by decide) (by decide)
  obtain ⟨first, hfirst, hfolder⟩ :=
    exists_scanFolder_checkout (locate_checkout (.refl hd)) (by decide) ⟨none, none⟩ "data"
  have hwrite : (Report.write "data" first.inventory [] rulesBehindReports).error = none :=
    error_write_checkout hd (by decide) (hdata (.refl hd)) (by decide) (by decide) hfolder
  refine ⟨first, hfirst, hwrite, fun second hsecond => inventory_ne_of_files hfirst hsecond ?_⟩
  have hextends := Report.extends_write hd "data" first.inventory []
  have hdirectory := Report.directory_of_folderName hfolder "data"
  have hdir : (Report.write "data" first.inventory [] rulesBehindReports).disk.get?
      ["data", "proj"] = some .dir := by
    obtain ⟨place, hplace, hisDir⟩ :=
      Report.exists_directory_of_write hd (by rw [hdirectory]; decide) hwrite
    rw [hdirectory] at hplace
    obtain ⟨-, -, rfl, -⟩ := (locate_join_iff hextends.after (by decide) (by decide)
      (hdata hextends) place).1 hplace
    exact beq_iff_eq.1 hisDir
  obtain ⟨-, before, hbefore, rfl⟩ := (scanFolder_eq_ok_iff ..).1 hfirst
  obtain ⟨-, after, hafter, rfl⟩ := (scanFolder_eq_ok_iff ..).1 hsecond
  rw [files_rulesBehindReports hextends hafter, files_rulesBehindReports (.refl hd) hbefore, hdir]
  decide

/-- A disk on which a report of a folder is the file with the rules that the user has. -/
def rulesInReport : Disk :=
  checkout "" [homeNaming "data/proj/environment_variables.txt",
    ("data", .dir [("proj", .dir (Report.names.map fun name =>
      (name, .file (if name = "environment_variables.txt" then Text.encode "a.js".toList else []))))])]

theorem isTree_rulesInReport : rulesInReport.IsTree := by
  refine isTree_checkout _ (by decide) (by decide) ?_
  refine List.forall_mem_cons.2 ⟨isTree_homeNaming _, List.forall_mem_singleton.2 ?_⟩
  refine .dir (by decide) (by decide) (List.forall_mem_singleton.2 (.dir ?_ ?_ fun child hchild => ?_))
  · decide
  · decide
  · obtain ⟨name, -, rfl⟩ := List.mem_map.1 hchild
    exact .file _

/-- Nothing is collected from the folder exactly if the rules leave its source file out. -/
theorem files_rulesInReport (h : Extends Report.names rulesInReport d) {octets : List UInt8}
    (hreport : d.get? ["data", "proj", "environment_variables.txt"] = some (.file octets))
    {c : Collected}
    (hc : collect (honouringRules "data").selection d [] atHome (d.view []) "proj" = .ok c) :
    c.files = [] ↔
      ExclusionRule.verdict (ExclusionRule.ofFile octets) "proj/a.js" false = .leaveOut := by
  have hopened : d.opened [] "data/proj/environment_variables.txt" = .ok (.file octets) :=
    opened_of_entryOf (entryOf_of_get? h.after (by decide) (by decide) (by decide) hreport)
      h.grows.faults
  rw [files_eq_nil_iff_of_user h (by decide) hc, rules_atHome h (by decide), hopened]
  rfl

/-- The reports about the folder, which are there already, can be written. -/
theorem error_write_rulesInReport {inv : Inventory} (hfolder : inv.folderName = "proj") :
    (Report.write "data" inv [] rulesInReport).error = none := by
  have hdirectory : Report.directory "data" inv = "data/proj" :=
    (Report.directory_of_folderName hfolder "data").trans (by decide)
  have hdir : rulesInReport.entryOf [] "data/proj" = .ok .dir :=
    entryOf_of_get? isTree_rulesInReport (by decide) (by decide) (by decide) rfl
  refine Report.error_write_of_isFile (hdirectory ▸ isDir_of_entryOf hdir) fun name hname => ?_
  have hall : ∀ name ∈ Report.names, rulesInReport.get? ["data", "proj", name] = some
      (.file (if name = "environment_variables.txt" then Text.encode "a.js".toList else [])) := by
    decide
  have hget := hall name hname
  have hplace : rulesInReport.locate [] (join "data/proj" name) = .ok ["data", "proj", name] :=
    Report.locate_report "data/proj" (by decide) (by decide) (by decide) (by decide) hname hget
  rw [hdirectory]
  exact isFile_of_entryOf (entryOf_eq_ok_iff.2 ⟨_, hplace, hget⟩)

/-- If no variables were found in the folder, the file with the rules is empty then. -/
theorem get?_write_rulesInReport {inv : Inventory} (hfolder : inv.folderName = "proj")
    (hnames : inv.envVars = []) : (Report.write "data" inv [] rulesInReport).disk.get?
      ["data", "proj", "environment_variables.txt"] = some (.file []) := by
  have hd := isTree_rulesInReport
  have hdirectory : Report.directory "data" inv = "data/proj" :=
    (Report.directory_of_folderName hfolder "data").trans (by decide)
  have hentry := Report.entryOf_write hd (error_write_rulesInReport hfolder)
    ("environment_variables.txt", Report.linesOf inv.envVars) (by simp [Report.files])
  rw [hdirectory, hnames] at hentry
  exact ((entryOf_relative_iff (Report.extends_write hd "data" inv []).after (by decide)
    (by decide) _).1 hentry).2.2

theorem feedsBack_rulesInReport : FeedsBack rulesInReport atHome (honouringRules "data") := by
  have hd := isTree_rulesInReport
  obtain ⟨first, hfirst, hfolder⟩ :=
    exists_scanFolder_checkout (locate_checkout (.refl hd)) rfl atHome "data"
  have hwrite := error_write_rulesInReport hfolder
  refine ⟨first, hfirst, hwrite, fun second hsecond => inventory_ne_of_files hfirst hsecond ?_⟩
  have hextends := Report.extends_write hd "data" first.inventory []
  obtain ⟨-, before, hbefore, hfirstEq⟩ := (scanFolder_eq_ok_iff ..).1 hfirst
  obtain ⟨-, after, hafter, rfl⟩ := (scanFolder_eq_ok_iff ..).1 hsecond
  have hverdict : ExclusionRule.verdict (ExclusionRule.ofFile (Text.encode "a.js".toList))
      "proj/a.js" false = .leaveOut := by decide
  have hnone : before.files = [] := (files_rulesInReport (.refl hd) rfl hbefore).2 hverdict
  have hnames : first.inventory.envVars = [] := by
    rw [hfirstEq, hnone]
    rfl
  have hreport := get?_write_rulesInReport hfolder hnames
  have hsome := mt (files_rulesInReport hextends hreport hafter).1 (by decide)
  rw [hfirstEq]
  exact fun hiff => hsome (hiff.2 hnone)

end RouteInventory
