import RouteInventory.Proofs.FolderScan.Failure
import RouteInventory.Proofs.Report.Again
import RouteInventory.Proofs.Walk.AddedFiles

/-!
A folder with one source file, scanned with rule files honoured, on a disk onto which reports may
have been written. Its `.git` is a file, which may refer to rules elsewhere. The source file is
collected unless these rules, or those of the user, leave it out (`files_checkout_eq_nil_iff`,
`files_eq_nil_iff_of_user`).
-/

namespace RouteInventory

open Disk FilePath Walk

variable {d : Disk}

/-- Settings under which rule files count. -/
def honouringRules (outputDir : String) : Settings where
  root := "proj"
  outputDir := outputDir
  includeTests := false
  extensions := [".js", ".ts"]
  excludeDirs := []
  respectGitignore := true
  queryTag := "TAG"
  logLevel := "info"

/-- A folder with one source file, whose `.git` is a file, and what else there is on the disk. -/
def checkout (gitFile : String) (more : List (String × Node)) : Disk where
  top := ("proj", .dir [(".git", .file (Text.encode gitFile.toList)), ("a.js", .file [])]) :: more

theorem isTree_checkout (gitFile : String) {more : List (String × Node)}
    (hnodup : ("proj" :: more.map (·.1)).Nodup) (hproper : ∀ name ∈ more.map (·.1), IsProper name)
    (hmore : ∀ child ∈ more, child.2.IsTree) : (checkout gitFile more).IsTree := by
  have hproj : IsProper "proj" := by decide
  have hnames : [".git", "a.js"].Nodup := by decide
  have hfiles : ∀ name ∈ [".git", "a.js"], IsProper name := by decide
  refine .dir hnodup ?_ (List.forall_mem_cons.2 ⟨?_, hmore⟩)
  · refine List.forall_mem_cons.2 ⟨hproj, fun child hchild => ?_⟩
    exact hproper _ (List.mem_map_of_mem hchild)
  · refine .dir hnames (fun child hchild => hfiles _ (List.mem_map_of_mem hchild)) ?_
    exact List.forall_mem_cons.2 ⟨.file _, List.forall_mem_singleton.2 (.file _)⟩

/-- The files of the folder. -/
theorem names_of_file_checkout {gitFile : String} {more : List (String × Node)}
    {names : List String} {octets : List UInt8}
    (h : (checkout gitFile more).get? ("proj" :: names) = some (.file octets)) :
    (names = [".git"] ∧ octets = Text.encode gitFile.toList) ∨ names = ["a.js"] := by
  have hrest : ∀ {rest : List String} {old : List UInt8},
      (Node.get? rest (.file old)).map Node.entry = some (.file octets) →
      rest = [] ∧ octets = old := by
    intro rest old hfile
    cases rest with
    | nil => exact ⟨rfl, (Entry.file.inj (Option.some.inj hfile)).symm⟩
    | cons next rest => cases hfile
  cases names with
  | nil => cases h
  | cons name rest =>
    have hget : (checkout gitFile more).get? ("proj" :: name :: rest) =
        (([(".git", Node.file (Text.encode gitFile.toList)), ("a.js", .file [])].lookup name).bind
          (Node.get? rest)).map Node.entry := rfl
    rw [hget] at h
    by_cases hgit : name = ".git"
    · subst hgit
      obtain ⟨rfl, hoctets⟩ := hrest h
      exact .inl ⟨rfl, hoctets⟩
    by_cases hsource : name = "a.js"
    · subst hsource
      obtain ⟨rfl, -⟩ := hrest h
      exact .inr rfl
    · rw [List.lookup_cons, beq_eq_false_iff_ne.2 hgit, List.lookup_cons,
        beq_eq_false_iff_ne.2 hsource] at h
      cases h

/-- What does not lie in the folder lies beside it. -/
theorem get?_checkout_eq_none {gitFile : String} {more : List (String × Node)} {name : String}
    (hname : name ≠ "proj") (hmore : more.lookup name = none) (rest : List String) :
    (checkout gitFile more).get? (name :: rest) = none := by
  simp [checkout, get?, node?, Node.get?, Node.children, List.lookup_cons,
    beq_eq_false_iff_ne.2 hname, hmore]

/-! ### The scan and its reports -/

/-- The folder is found, and so is a directory for reports beside it. -/
theorem locate_dir_checkout {gitFile : String} {more : List (String × Node)}
    (h : Extends Report.names (checkout gitFile more) d) {dir : String}
    (hdir : dir ∈ ["proj", "data"]) (hget : (checkout gitFile more).get? [dir] = some .dir) :
    d.locate [] dir = .ok [dir] := by
  have hall : ∀ dir ∈ ["proj", "data"], checkPath dir = .ok () ∧ isAbsolute dir = false ∧
      pieces dir = [dir] ∧ ∀ piece ∈ pieces dir,
        IsProper piece ∧ Text.octetCount piece.toList ≤ nameLimit := by decide
  obtain ⟨hcheck, hrelative, hpieces, hproper⟩ := hall dir hdir
  have hget : (checkout gitFile more).get? (([] : Place) ++ pieces dir) = some .dir := by
    rwa [hpieces]
  have hplace := h.grows.locate
    (locate_of_get? hcheck hrelative hproper hget Entry.dir_ne_link)
  rwa [hpieces] at hplace

theorem locate_checkout {gitFile : String} {more : List (String × Node)}
    (h : Extends Report.names (checkout gitFile more) d) : d.locate [] "proj" = .ok ["proj"] :=
  locate_dir_checkout h (by decide) rfl

/-- The folder can be scanned. -/
theorem exists_scanFolder_checkout (hplace : d.locate [] "proj" = .ok ["proj"])
    (hdir : d.isDirAt ["proj"] = true) (user : UserDirs) (outputDir : String) :
    ∃ found, scanFolder .disabled d [] user (honouringRules outputDir) = .ok found ∧
      found.inventory.folderName = "proj" := by
  have hroot : d.entryOf [] "proj" = .ok .dir :=
    entryOf_eq_ok_iff.2 ⟨_, hplace, beq_iff_eq.1 hdir⟩
  obtain ⟨hthere, -⟩ := exists_locate_of_isDir (isDir_of_entryOf hroot)
  have hsame : (honouringRules outputDir).check = (honouringRules "data").check := rfl
  have hcheck : (honouringRules outputDir).check = .ok () := hsame.trans (by rfl)
  obtain ⟨found, hfound⟩ :=
    (exists_scanFolder_iff .disabled d [] user (honouringRules outputDir)).2
      ⟨hcheck, hthere, isDir_of_entryOf hroot, [], rfl⟩
  refine ⟨found, hfound, ?_⟩
  obtain ⟨-, collected, -, rfl⟩ := (scanFolder_eq_ok_iff ..).1 hfound
  change folderName d [] "proj" = "proj"
  rw [folderName, canonical_of_locate hplace]
  rfl

/-- Its reports can be written into itself or beside it. -/
theorem error_write_checkout (hd : d.IsTree) {outputDir : String}
    (houtput : outputDir ∈ ["proj", "data"]) (hplace : d.locate [] outputDir = .ok [outputDir])
    (hdir : d.isDirAt [outputDir] = true) (hnew : d.get? [outputDir, "proj"] = none)
    {inv : Inventory} (hfolder : inv.folderName = "proj") :
    (Report.write outputDir inv [] d).error = none := by
  have hall : ∀ dir ∈ ["proj", "data"], dir ≠ "" ∧ checkPath (join dir "proj") = .ok () ∧
      Text.octetCount (join dir "proj").toList + 25 < pathLimit := by decide
  obtain ⟨hne, hpath, hroom⟩ := hall outputDir houtput
  refine Report.error_write_of_new hd hne hplace hdir ?_ ?_ ?_
  · rw [hfolder]
    exact ⟨by decide, by decide, hpath⟩
  · rw [hfolder]
    exact hnew
  · rw [Report.directory_of_folderName hfolder]
    exact hroom

/-! ### What is collected -/

section

variable {gitFile : String} {more : List (String × Node)}
  (h : Extends Report.names (checkout gitFile more) d)
include h

/-- The folder above has no rules. -/
theorem rulesAbove_checkout
    (hmore : ∀ name ∈ [".ignore", ".gitignore", ".git"], more.lookup name = none) :
    rulesAbove d [] ["proj"] = [] := by
  have hnone : dirRules d [] (d.opened []) "/" = [] := by
    refine dirRules_eq_nil _ fun path hpath octets hlook => ?_
    have hall : ∀ path ∈ [".ignore", ".gitignore", ".git", ".git/info/exclude"],
        isAbsolute path = false ∧ (∀ name ∈ pieces path, IsProper name) ∧
          (∃ front ∈ [[], [".git", "info"]], ∃ last ∈ ruleFiles, pieces path = front ++ [last]) ∧
          ∃ first ∈ [".ignore", ".gitignore", ".git"],
            first ≠ "proj" ∧ pieces path = first :: (pieces path).tail := by decide
    obtain ⟨hrelative, hproper, ⟨front, -, last, hlast, hpieces⟩, first, hfirst, hne, hbegins⟩ :=
      hall path hpath
    have hreport : ∀ name ∈ ruleFiles, name ∉ Report.names := by decide
    have hfile := ((entryOf_relative_iff h.after hrelative hproper _).1
      (entryOf_of_opened hlook)).2.2
    rw [hpieces, ← List.append_assoc, ← h.same (hreport last hlast), List.nil_append, ← hpieces,
      hbegins, get?_checkout_eq_none hne (hmore first hfirst)] at hfile
    cases hfile
  change dirRules d [] (d.opened []) "/" ++ [] = []
  rw [hnone, List.append_nil]

/-- The folder itself has the rules that its `.git` leads to. -/
theorem rulesAt_checkout (personal : List ExclusionRule)
    (hpersonal : ((sharedDir? d [] (.ok (.file (Text.encode gitFile.toList)))).map fun dir =>
      rulesIn (d.opened [] (join dir "info/exclude"))).getD [] = personal) :
    rulesAt d [] "proj" = if personal.isEmpty then [] else [⟨"proj", [], [], personal⟩] := by
  have hnone : ∀ name ∈ [".ignore", ".gitignore"],
      rulesIn (d.opened [] (join "proj" name)) = [] := by
    intro name hname
    have hall : ∀ name ∈ [".ignore", ".gitignore"], name ∉ Report.names ∧ IsProper name ∧
        name ≠ ".git" ∧ name ≠ "a.js" := by decide
    obtain ⟨hreport, hproper, hgit, hsource⟩ := hall name hname
    refine rulesIn_of_not_file fun octets hlook => ?_
    have hnames : ∀ n ∈ [name], IsProper n := by simpa using hproper
    have hfile := ((entryOf_under_iff h.after (by decide) (locate_checkout h) hnames _).1
      (entryOf_of_opened hlook)).2.2
    rcases names_of_file_checkout ((h.same hreport octets).2 hfile) with ⟨heq, -⟩ | heq
    · exact hgit (List.cons.inj heq).1
    · exact hsource (List.cons.inj heq).1
  have hgit : d.opened [] (join "proj" ".git") = .ok (.file (Text.encode gitFile.toList)) := by
    have hget : d.get? (["proj"] ++ [".git"]) = _ := (h.same (by decide) _).1 rfl
    exact opened_of_entryOf (entryOf_of_get? h.after (by decide) (by decide) (by decide) hget)
      h.grows.faults
  rw [rulesAt, dirRules, hnone ".ignore" (by decide), hnone ".gitignore" (by decide), personalRules,
    hgit, ← hpersonal]
  cases hshared : sharedDir? d [] (.ok (.file (Text.encode gitFile.toList))) <;>
  · simp only [hshared]
    rfl

/-- The source file of the folder is met unless it is passed over. -/
theorem mem_walk_checkout (user : UserDirs) : .entry "proj/a.js" ∈ d.walk [] user "proj" [] true ↔
    (d.plan [] user "proj" ["proj"] [] true).skips (rulesAt d [] "proj") "proj/a.js" "a.js" false =
      false := by
  have hplace := locate_checkout h
  have hdir : d.isDirAt ["proj"] = true := h.grows.isDirAt rfl
  have hfile : d.isDirAt (["proj"] ++ ["a.js"]) = false := h.isDirAt_eq rfl
  have hname : "a.js" ∈ d.names ["proj"] := Disk.mem_names_iff.2 (h.grows.isSome_node? rfl)
  have hdepth : 0 < depthBound d := Nat.mul_pos (Nat.succ_pos _) (Nat.succ_pos _)
  set plan := d.plan [] user "proj" ["proj"] [] true
  have hplan : plan.disk.IsTree := h.after
  have hopen : plan.disk.openAt plan.cwd "proj" = .ok ["proj"] := by
    refine openAt_eq_ok_iff.2 ⟨hplace, (h.grows.fault?_eq _).trans rfl⟩
  have hmem := mem_below_iff hplan (by decide) hopen hname hfile hdepth [(["proj"], "proj")]
    (rulesAt d [] "proj")
  have hpath : join "proj" "a.js" = "proj/a.js" := by decide
  rw [hpath] at hmem
  have hroot : Item.entry "proj/a.js" ≠ .entry "proj" := by decide
  rw [walk_eq h.after (by decide) hplace hdir, List.mem_cons, or_iff_right hroot]
  exact hmem

/-- No other file is asked for. -/
theorem eq_of_candidate_checkout {user : UserDirs} {path : String}
    (hentry : .entry path ∈ d.walk [] user "proj" [] true)
    (hcandidate : (honouringRules "data").selection.isCandidate (d.view []) path = true) :
    path = "proj/a.js" := by
  obtain ⟨hfile, hsource⟩ := Bool.and_eq_true_iff.1 hcandidate
  rcases eq_input_or_exists_of_mem_walk h.after hentry with rfl | ⟨names, hnames, rfl⟩
  · cases hsource
  obtain ⟨octets, hfile⟩ := exists_file_of_isFile hfile
  have hget := ((entryOf_under_iff h.after (by decide) (locate_checkout h) hnames _).1 hfile).2.2
  rcases List.eq_nil_or_concat names with rfl | ⟨front, name, rfl⟩
  · cases hsource
  rw [List.concat_eq_append] at hnames hsource hget ⊢
  have hreport : name ∉ Report.names := by
    intro hname
    have hall : ∀ name ∈ Report.names,
        (honouringRules "data").selection.isSource name = false := by decide
    obtain ⟨hfront, hlast⟩ := List.forall_mem_append.1 hnames
    rw [under_concat, fileName?_join (under_ne_empty (by decide) hfront)
      (hlast name List.mem_cons_self), Option.any_some, hall name hname] at hsource
    cases hsource
  rw [← List.append_assoc] at hget
  have hget : (checkout gitFile more).get? ("proj" :: (front ++ [name])) = some (.file octets) :=
    (h.same hreport octets).2 hget
  rcases names_of_file_checkout hget with ⟨heq, -⟩ | heq <;> rw [heq] at hsource ⊢
  · cases hsource
  · decide

/-- Nothing is collected exactly if the source file is passed over. -/
theorem files_checkout_eq_nil_iff {user : UserDirs} {c : Collected}
    (hc : collect (honouringRules "data").selection d [] user (d.view []) "proj" = .ok c) :
    c.files = [] ↔ (d.plan [] user "proj" ["proj"] [] true).skips (rulesAt d [] "proj")
      "proj/a.js" "a.js" false = true := by
  obtain ⟨-, -, rules, hrules, rfl⟩ := collect_eq_ok_iff.1 hc
  obtain rfl := Except.ok.inj hrules
  have hmem := mem_walk_checkout h user
  change (Collected.ofItems (honouringRules "data").selection (d.view [])
    (d.walk [] user "proj" [] true)).files = [] ↔ _
  constructor
  · intro hnil
    by_contra hkept
    have hget : d.get? (["proj"] ++ ["a.js"]) = _ := (h.same (by decide) _).1 rfl
    have hfile : d.entryOf [] "proj/a.js" = .ok (.file []) :=
      entryOf_of_get? h.after (by decide) (by decide) (by decide) hget
    have hsource : (fileName? "proj/a.js").any (honouringRules "data").selection.isSource =
        true := by decide
    have hcollected : "proj/a.js" ∈ (Collected.ofItems (honouringRules "data").selection (d.view [])
        (d.walk [] user "proj" [] true)).files :=
      mem_files_ofItems.2 ⟨hmem.2 (Bool.eq_false_iff.2 hkept),
        Bool.and_eq_true_iff.2 ⟨isFile_of_entryOf hfile, hsource⟩, by decide⟩
    rw [hnil] at hcollected
    cases hcollected
  · intro hskips
    rw [List.eq_nil_iff_forall_not_mem]
    intro path hpath
    obtain ⟨hentry, hcandidate, -⟩ := mem_files_ofItems.1 hpath
    obtain rfl := eq_of_candidate_checkout h hentry hcandidate
    rw [hmem.1 hentry] at hskips
    cases hskips

end

/-- Without other rules, those of the user decide. -/
theorem skips_of_user (d : Disk) (user : List ExclusionRule) :
    Plan.skips ⟨d, [], "proj", ["proj"], [], true, [], user⟩ [] "proj/a.js" "a.js" false = true ↔
      ExclusionRule.verdict user "proj/a.js" false = .leaveOut := by
  have hpath : dropDot "proj/a.js" = "proj/a.js" := by decide
  have hhere : relativeTo (absolute []) "proj/a.js" = "proj/a.js" := by decide
  have hname : isHidden "a.js" = false := by decide
  have hsilent : ∀ path, ExclusionRule.verdict [] path false = .silent := fun _ => rfl
  have hverdict : Plan.fileVerdict ⟨d, [], "proj", ["proj"], [], true, [], user⟩ [] "proj/a.js"
      false = ExclusionRule.verdict user "proj/a.js" false :=
    congrArg (ExclusionRule.verdict user · false) hhere
  simp only [Plan.skips, hpath, hname, hsilent, hverdict, Verdict.invert, Verdict.orElse, if_true]
  cases ExclusionRule.verdict user "proj/a.js" false <;> simp

/-- So they decide about a folder whose `.git` is an empty file. -/
theorem files_eq_nil_iff_of_user {more : List (String × Node)}
    (h : Extends Report.names (checkout "" more) d)
    (hmore : ∀ name ∈ [".ignore", ".gitignore", ".git"], more.lookup name = none)
    {user : UserDirs} {c : Collected}
    (hc : collect (honouringRules "data").selection d [] user (d.view []) "proj" = .ok c) :
    c.files = [] ↔
      ExclusionRule.verdict (user.rules d []) "proj/a.js" false = .leaveOut := by
  rw [files_checkout_eq_nil_iff h hc, rulesAt_checkout h [] rfl]
  simp only [Disk.plan, if_true, rulesAbove_checkout h hmore]
  exact skips_of_user d (user.rules d [])

/-! ### A user with rules -/

/-- A home directory whose configuration names a file with rules. -/
def homeNaming (path : String) : String × Node :=
  ("home", .dir
    [(".gitconfig", .file (Text.encode ("[core]\nexcludesfile = " ++ path).toList))])

/-- The user whose home directory it is. -/
def atHome : UserDirs := .ofEnv [("HOME", "home")] none

theorem isTree_homeNaming (path : String) : (homeNaming path).2.IsTree := by
  have hproper : ∀ name ∈ [".gitconfig"], IsProper name := by decide
  exact .dir (by decide : [".gitconfig"].Nodup)
    (fun child hchild => hproper _ (List.mem_map_of_mem hchild))
    (List.forall_mem_singleton.2 (.file _))

/-- The rules of the user are those of the file. -/
theorem rules_atHome {gitFile path : String} {more : List (String × Node)}
    (h : Extends Report.names (checkout gitFile (homeNaming path :: more)) d)
    (hnamed : atHome.namedBy? (.ok (.file (Text.encode
      ("[core]\nexcludesfile = " ++ path).toList))) = some path) :
    atHome.rules d [] = rulesIn (d.opened [] path) := by
  have hget : d.get? (["home"] ++ [".gitconfig"]) = _ := (h.same (by decide) _).1 rfl
  have hentry : d.entryOf [] "home/.gitconfig" = _ :=
    entryOf_of_get? h.after (by decide) (by decide) (by decide) hget
  have hopened := opened_of_entryOf hentry h.grows.faults
  have hfile : atHome.rulesFile? d [] = some path := by
    have hfiles : atHome.configFiles = ["home/.gitconfig", "home/.config/git/config"] := by decide
    rw [UserDirs.rulesFile?, hfiles, List.findSome?_cons, hopened, hnamed]
    rfl
  rw [UserDirs.rules, hfile]

end RouteInventory
