import RouteInventory.Program
import RouteInventory.Proofs.FolderScan.Failure
import RouteInventory.Proofs.Report.Written
import RouteInventory.Proofs.Text.Octets

/-!
What comes of a run whose arguments can be read. It ends with 0 exactly if the folder is scanned and
the reports are written, and only then is a summary shown; whatever is wrong before the reports are
written leaves the disk as it was (`run_outcome`). A log filter at which reading is given up is set
aside.
-/

namespace RouteInventory.Program

open CommandLine Disk

variable {w : World} {words : List String} {args : Arguments}

/-! ### The error stream -/

/-- Whether a text is made of whole lines. -/
def WholeLines (s : String) : Prop := s = "" ∨ s.toList.getLast? = some '\n'

theorem wholeLines_newline (s : String) : WholeLines (s ++ "\n") := .inr (by simp)

theorem WholeLines.append {a b : String} (ha : WholeLines a) (hb : WholeLines b) :
    WholeLines (a ++ b) := by
  rcases hb with rfl | hb
  · simpa using ha
  · right
    rw [String.toList_append, List.getLast?_append, hb]
    rfl

theorem wholeLines_join {lines : List String} (h : ∀ s ∈ lines, WholeLines s) :
    WholeLines (String.join lines) := by
  have hfold : ∀ (lines : List String) (start : String), WholeLines start →
      (∀ s ∈ lines, WholeLines s) → WholeLines (lines.foldl (· ++ ·) start) := by
    intro lines
    induction lines with
    | nil => exact fun start hstart _ => hstart
    | cons s lines ih =>
      intro start hstart h
      obtain ⟨hs, hlines⟩ := List.forall_mem_cons.1 h
      exact ih _ (hstart.append hs) hlines
  exact hfold lines "" (.inl rfl) h

/-- What is said on the error stream before a complaint is whole lines. -/
theorem exists_stderr_eq (out : Outcome) (hremarks : WholeLines out.remarks) :
    ∃ before, out.stderr = before ++ out.complaint ∧ WholeLines before := by
  refine ⟨_, rfl, hremarks.append (wholeLines_join ?_)⟩
  intro line hline
  obtain ⟨event, -, rfl⟩ := List.mem_map.1 hline
  exact wholeLines_newline _

/-! ### Failures -/

/-- Whether a run failed before it did anything: with code 1, nothing shown, the error as the last
    line of the error stream, and the disk as it was. -/
structure Failed (w : World) (message : String) (out : Outcome) : Prop where
  exitCode : out.exitCode = 1
  stdout : out.stdout = ""
  stderr : ∃ before, out.stderr = before ++ errorLine message ∧ WholeLines before
  disk : out.disk = w.disk

/-- Settings that cannot be used end the run. -/
theorem failed_of_check (hparse : CommandLine.parse words = .ok args) {e : SettingsError}
    (hcheck : (args.settings w.env).check = .error e) : Failed w e.message (run w words) := by
  have hrun : run w words =
      { exitCode := 1, complaint := errorLine e.message, disk := w.disk } := by
    simp only [run, hparse, runArguments, hcheck]
  rw [hrun]
  exact ⟨rfl, rfl, exists_stderr_eq _ (.inl rfl), rfl⟩

/-- With settings that can be used a run does what its scan does. -/
theorem run_of_check (hparse : CommandLine.parse words = .ok args)
    (hcheck : (args.settings w.env).check = .ok ())
    (hlog : (LogFilter.ofEnv w.env (args.level (args.settings w.env))).givenUpAt = none) :
    let scan := runScan w args (args.settings w.env)
    let out := run w words
    out.exitCode = scan.exitCode ∧ out.stdout = scan.stdout ∧ out.disk = scan.disk ∧
      out.complaint = scan.complaint ∧ WholeLines out.remarks := by
  intro scan out
  have hchecked : out = runChecked w args (args.settings w.env) := by
    simp only [out, run, hparse, runArguments, hcheck]
  rw [hchecked]
  simp only [runChecked, hlog, Option.isSome_none, Bool.false_eq_true, if_false]
  refine ⟨rfl, rfl, rfl, rfl, wholeLines_join ?_⟩
  intro line hline
  obtain ⟨remark, -, rfl⟩ := List.mem_map.1 hline
  exact wholeLines_newline remark

/-! ### Outcomes -/

/-- What comes of a scan. -/
theorem runScan_cases (w : World) (args : Arguments) (s : Settings) :
    let out := runScan w args s
    (∃ e, scanFolder .disabled w.disk w.cwd w.user s = .error e ∧ out.exitCode = 1 ∧ out.stdout = "" ∧
      out.complaint = errorLine e.message ∧ out.disk = w.disk) ∨
    ∃ found, scanFolder .disabled w.disk w.cwd w.user s = .ok found ∧
      let reports := Report.write s.outputDir found.inventory w.cwd w.disk
      out.disk = reports.disk ∧
      ((∃ e, reports.error = some e ∧ out.exitCode = 1 ∧ out.stdout = "") ∨
        reports.error = none ∧ out.exitCode = 0 ∧
          out.stdout = found.inventory.summary.format
            (Report.directory s.outputDir found.inventory) args.format ++ "\n") := by
  intro out
  cases hscan : scanFolder .disabled w.disk w.cwd w.user s with
  | error e =>
    simp only [out, runScan, hscan]
    exact .inl ⟨e, by simp⟩
  | ok found =>
    refine .inr ⟨found, rfl, ?_⟩
    simp only [out, runScan, hscan]
    split
    · next e herror => exact ⟨rfl, .inl ⟨e, herror, rfl, rfl⟩⟩
    · next herror => exact ⟨rfl, .inr ⟨herror, rfl, rfl⟩⟩

/-- What comes of a run. -/
theorem run_cases (hparse : CommandLine.parse words = .ok args)
    (hlog : (LogFilter.ofEnv w.env (args.level (args.settings w.env))).givenUpAt = none) :
    let s := args.settings w.env
    let out := run w words
    (∃ e, scanFolder .disabled w.disk w.cwd w.user s = .error e ∧ Failed w e.message out) ∨
    ∃ found, scanFolder .disabled w.disk w.cwd w.user s = .ok found ∧
      let reports := Report.write s.outputDir found.inventory w.cwd w.disk
      out.disk = reports.disk ∧
      ((∃ e, reports.error = some e ∧ out.exitCode = 1 ∧ out.stdout = "") ∨
        reports.error = none ∧ out.exitCode = 0 ∧
          out.stdout = found.inventory.summary.format
            (Report.directory s.outputDir found.inventory) args.format ++ "\n") := by
  intro s out
  cases hcheck : s.check with
  | error cause =>
    have hscan : scanFolder .disabled w.disk w.cwd w.user s = .error (.settings cause) := by
      rw [scanFolder, hcheck]
    exact .inl ⟨_, hscan, failed_of_check hparse hcheck⟩
  | ok =>
    obtain ⟨hexit, hstdout, hdisk, hcomplaint, hremarks⟩ := run_of_check hparse hcheck hlog
    change out.exitCode = _ at hexit
    change out.stdout = _ at hstdout
    change out.disk = _ at hdisk
    rw [hexit, hstdout, hdisk]
    rcases runScan_cases w args s with ⟨e, hscan, hexit', hstdout', hcomplaint', hdisk'⟩ | hscan
    · obtain ⟨before, hstderr, hbefore⟩ := exists_stderr_eq out hremarks
      refine .inl ⟨e, hscan, hexit.trans hexit', hstdout.trans hstdout', ⟨before, ?_, hbefore⟩,
        hdisk.trans hdisk'⟩
      rw [hstderr, hcomplaint, hcomplaint']
    · exact .inr hscan

/-- A run whose folder is scanned and whose reports are written ends with 0 and shows the summary. -/
theorem run_of_written (hparse : CommandLine.parse words = .ok args)
    (hlog : (LogFilter.ofEnv w.env (args.level (args.settings w.env))).givenUpAt = none)
    {found : FolderScan}
    (hscan : scanFolder .disabled w.disk w.cwd w.user (args.settings w.env) = .ok found)
    (hwrite : (Report.write (args.settings w.env).outputDir found.inventory w.cwd
      w.disk).error = none) :
    let dir := Report.directory (args.settings w.env).outputDir found.inventory
    (run w words).exitCode = 0 ∧
      (run w words).stdout = found.inventory.summary.format dir args.format ++ "\n" ∧
      (run w words).disk =
        (Report.write (args.settings w.env).outputDir found.inventory w.cwd w.disk).disk := by
  rcases run_cases hparse hlog with
    ⟨e, herror, -⟩ | ⟨other, hother, hdisk, ⟨e, herror, -⟩ | ⟨-, hexit, hstdout⟩⟩
  · cases herror.symm.trans hscan
  all_goals obtain rfl := Except.ok.inj (hother.symm.trans hscan)
  · cases herror.symm.trans hwrite
  · exact ⟨hexit, hstdout, hdisk⟩

/-- With a cut in the log filter a run is given up, with nothing done. -/
theorem run_of_givenUp (hparse : CommandLine.parse words = .ok args)
    (hcheck : (args.settings w.env).check = .ok ())
    (hlog : (LogFilter.ofEnv w.env (args.level (args.settings w.env))).givenUpAt.isSome = true) :
    (run w words).exitCode = givenUp ∧ (run w words).stdout = "" ∧ (run w words).disk = w.disk := by
  have hrun : run w words = runChecked w args (args.settings w.env) := by
    simp only [run, hparse, runArguments, hcheck]
  rw [hrun, runChecked, if_pos hlog]
  exact ⟨rfl, rfl, rfl⟩

/-- A run ends with 0 exactly if the folder is scanned and all reports are written. Then the summary
    is shown and the reports hold their contents. A run that fails shows nothing, and changes nothing
    if it fails before the reports. -/
theorem run_outcome (hparse : CommandLine.parse words = .ok args) :
    let s := args.settings w.env
    let out := run w words
    (∀ e, s.check = .error e → Failed w e.message out) ∧
    ((LogFilter.ofEnv w.env (args.level s)).givenUpAt = none →
      (out.exitCode = 0 ∨ out.exitCode = 1) ∧
      (out.exitCode = 0 ↔ ∃ found, scanFolder .disabled w.disk w.cwd w.user s = .ok found ∧
        (Report.write s.outputDir found.inventory w.cwd w.disk).error = none) ∧
      (∀ found, scanFolder .disabled w.disk w.cwd w.user s = .ok found →
        let dir := Report.directory s.outputDir found.inventory
        (out.exitCode = 0 →
          out.stdout = found.inventory.summary.format dir args.format ++ "\n" ∧
          out.disk.Holds w.cwd (Report.filesIn dir (Report.files found.inventory))) ∧
        (out.exitCode = 1 → out.stdout = "")) ∧
      ∀ e, s.Fails ((w.disk.view w.cwd).isThere s.root) ((w.disk.view w.cwd).isDir s.root) e →
        Failed w e.message out) := by
  intro s out
  refine ⟨fun e hcheck => failed_of_check hparse hcheck, fun hlog => ?_⟩
  have hfails : ∀ e,
      s.Fails ((w.disk.view w.cwd).isThere s.root) ((w.disk.view w.cwd).isDir s.root) e →
      scanFolder .disabled w.disk w.cwd w.user s = .error e :=
    fun e => (scanFolder_eq_error_iff_fails .disabled w.disk w.cwd w.user s e).2
  rcases run_cases hparse hlog with
    ⟨e, hscan, hfailed⟩ | ⟨found, hscan, hdisk, hreports⟩
  · -- the scan fails
    have hexit : out.exitCode = 1 := hfailed.exitCode
    refine ⟨.inr hexit, ?_, ?_, ?_⟩
    · rw [hexit, hscan]
      simp
    · intro found hfound
      rw [hscan] at hfound
      cases hfound
    · intro other hother
      obtain rfl := Except.error.inj (hscan.symm.trans (hfails other hother))
      exact hfailed
  · have hsame : ∀ other, scanFolder .disabled w.disk w.cwd w.user s = .ok other → found = other :=
      fun other hother => Except.ok.inj (hscan.symm.trans hother)
    have hnever : ∀ e, s.Fails ((w.disk.view w.cwd).isThere s.root)
        ((w.disk.view w.cwd).isDir s.root) e → Failed w e.message out := by
      intro e he
      have := hscan.symm.trans (hfails e he)
      cases this
    rcases hreports with ⟨e, herror, hexit, hstdout⟩ | ⟨herror, hexit, hstdout⟩
    · -- the reports cannot be written
      have hexit : out.exitCode = 1 := hexit
      refine ⟨.inr hexit, ?_, ?_, hnever⟩
      · rw [hexit]
        refine iff_of_false (by simp) ?_
        rintro ⟨other, hother, hnone⟩
        obtain rfl := hsame other hother
        rw [herror] at hnone
        cases hnone
      · intro other hother
        exact ⟨fun hzero => absurd (hexit.symm.trans hzero) (by simp), fun _ => hstdout⟩
    · have hexit : out.exitCode = 0 := hexit
      refine ⟨.inl hexit, iff_of_true hexit ⟨found, hscan, herror⟩, ?_, hnever⟩
      intro other hother
      obtain rfl := hsame other hother
      refine ⟨fun _ => ⟨hstdout, ?_⟩, fun hone => absurd (hexit.symm.trans hone) (by simp)⟩
      rw [show out.disk = _ from hdisk]
      exact Report.holds_of_write herror

/-- Without a root a run fails and leaves the disk as it was. -/
theorem run_without_root :
    let w : World := ⟨.empty, [], [], none⟩
    CommandLine.parse ["proj"] = .ok { directory := "proj" } ∧
      (∀ level, (LogFilter.ofEnv [] level).givenUpAt = none) ∧
      Failed w (CollectError.notFound "proj").message (run w ["proj"]) := by
  intro w
  have hparse : CommandLine.parse ["proj"] = .ok { directory := "proj" } := rfl
  have hlog : ∀ level, (LogFilter.ofEnv [] level).givenUpAt = none := fun _ => rfl
  have hcheck : (({ directory := "proj" } : Arguments).settings []).check = .ok () := by rfl
  have hthere : (Disk.empty.view []).isThere "proj" = false := by
    have hfollow : Disk.empty.follow linkLimit [] ["proj"] = .error .notFound := by
      rw [follow, if_neg (by simp [nodeAt, Node.entry]), if_neg (by decide), if_neg (by decide),
        if_neg (by decide)]
      rfl
    have hpieces : FilePath.pieces "proj" = ["proj"] := by decide
    cases hentry : Disk.empty.entryOf [] "proj" with
    | error cause => simp only [view, hentry, Except.toBool]
    | ok entry =>
      obtain ⟨place, hplace, -⟩ := exists_locate_of_entryOf hentry
      obtain ⟨-, found, hfound, -⟩ := locate_eq_ok_iff.1 hplace
      rw [hpieces] at hfound
      cases hfollow.symm.trans hfound
  have hfails : (({ directory := "proj" } : Arguments).settings []).Fails
      ((Disk.empty.view []).isThere "proj") ((Disk.empty.view []).isDir "proj")
      (.collect (.notFound "proj")) := by
    rw [hthere]
    exact .notFound ((Settings.check_eq_ok_iff _).1 hcheck)
  obtain ⟨-, -, -, hfailed⟩ := (run_outcome (w := w) hparse).2 (hlog _)
  exact ⟨hparse, hlog, hfailed _ hfails⟩

/-! ### Two runs that go wrong -/

theorem arrayOf_ne_comments {α : Type} (f : α → Json) (xs : List α) (entries : List FileItems) :
    Report.arrayOf f xs ≠ Csv.comments entries := by
  intro h
  have harray : (Report.arrayOf f xs).toList.head? = some '[' := by
    cases xs <;> simp [Report.arrayOf, Json.pretty, Json.prettyChars]
  have htable : (Csv.comments entries).toList.head? = some 'F' := by
    obtain ⟨rows, hrows⟩ : ∃ rows, Csv.comments entries =
        .ofList (Text.join '\n' ("File,Comment".toList :: rows)) := ⟨_, rfl⟩
    rw [hrows, String.toList_ofList]
    cases rows <;> rfl
  rw [h, htable] at harray
  cases harray

/-- A disk on which the path of one report is a link to another. -/
def linkedReports : Disk where
  top := [("proj", .dir []), ("data", .dir [("proj", .dir (Report.names.map fun name =>
    (name, if name = "comments.csv" then .link "routes.json" else .file [])))])]

theorem locate_dir_linkedReports : ∀ path ∈ ["proj", "data/proj"],
    linkedReports.locate [] path = .ok (FilePath.pieces path) := by
  intro path hpath
  have hall : ∀ path ∈ ["proj", "data/proj"], checkPath path = .ok () ∧
      FilePath.isAbsolute path = false ∧ (∀ piece ∈ FilePath.pieces path,
        FilePath.IsProper piece ∧ Text.octetCount piece.toList ≤ nameLimit) ∧
      linkedReports.get? (([] : Place) ++ FilePath.pieces path) = some .dir := by decide
  obtain ⟨hcheck, hrelative, hproper, hget⟩ := hall path hpath
  exact locate_of_get? hcheck hrelative hproper hget Entry.dir_ne_link

/-- The paths of the two reports lead to the same file. -/
theorem locate_linkedReports : ∀ name ∈ Report.names,
    linkedReports.locate [] (FilePath.join "data/proj" name) =
      .ok ["data", "proj", if name = "comments.csv" then "routes.json" else name] := by
  intro name hname
  by_cases hlink : name = "comments.csv"
  · subst hlink
    have htarget : linkedReports.get? (([] : Place) ++ ["data", "proj"] ++
        FilePath.pieces "routes.json") = some (.file []) := by decide
    have hpieces : FilePath.pieces (FilePath.join "data/proj" "comments.csv") =
        ["data", "proj"] ++ ["comments.csv"] := by decide
    exact locate_of_link (by decide) (by decide) hpieces rfl (by decide) (by decide) htarget
      (Entry.file_ne_link _)
  · have hnames : ∀ name ∈ Report.names, linkedReports.get? ["data", "proj", name] =
        some (if name = "comments.csv" then .link "routes.json" else .file []) := by decide
    have hget := hnames name hname
    rw [if_neg hlink] at hget ⊢
    exact Report.locate_report "data/proj" (by decide) (by decide) (by decide) (by decide) hname hget

/-- The reports about the folder can be written, all of them. -/
theorem error_write_linkedReports {inv : Inventory} (hfolder : inv.folderName = "proj") :
    (Report.write "data" inv [] linkedReports).error = none := by
  have hget : ∀ name ∈ Report.names, linkedReports.get?
      ["data", "proj", if name = "comments.csv" then "routes.json" else name] =
        some (.file []) := by decide
  have hdirectory : Report.directory "data" inv = "data/proj" :=
    (Report.directory_of_folderName hfolder "data").trans (by decide)
  have hdir : linkedReports.entryOf [] "data/proj" = .ok .dir :=
    entryOf_eq_ok_iff.2 ⟨_, locate_dir_linkedReports "data/proj" (by decide), by decide⟩
  refine Report.error_write_of_isFile (hdirectory ▸ isDir_of_entryOf hdir) fun name hname => ?_
  rw [hdirectory]
  exact isFile_of_entryOf
    (entryOf_eq_ok_iff.2 ⟨_, locate_linkedReports name hname, hget name hname⟩)

/-- But one of them does not hold its content: the table of comments is written last, in the place of
    the routes. -/
theorem entryOf_write_linkedReports {inv : Inventory} (hfolder : inv.folderName = "proj") :
    (Report.write "data" inv [] linkedReports).disk.entryOf [] "data/proj/routes.json" ≠
      .ok (.file (Text.encode (Report.arrayOf Report.ofRoute inv.combinations).toList)) := by
  intro hroutes
  have hdirectory : Report.directory "data" inv = "data/proj" :=
    (Report.directory_of_folderName hfolder "data").trans (by decide)
  have hholds := Report.holds_of_write (error_write_linkedReports hfolder)
  rw [hdirectory] at hholds
  have hcomments := hholds (Report.filesIn "data/proj" (Report.files inv).dropLast)
    (FilePath.join "data/proj" "comments.csv", Csv.comments inv.comments) []
    (by simp [Report.filesIn, Report.files]) (List.forall_mem_nil _)
  have hgrows := Report.grows_write "data" inv [] linkedReports
  have hroutesAt := hgrows.locate (locate_linkedReports "routes.json" (by decide))
  have hcommentsAt := hgrows.locate (locate_linkedReports "comments.csv" (by decide))
  have hpath : "data/proj/routes.json" = FilePath.join "data/proj" "routes.json" := by decide
  rw [hpath, entryOf, hroutesAt] at hroutes
  rw [entryOf, hcommentsAt] at hcomments
  have htexts := Text.encode_injective
    (Entry.file.inj (Except.ok.inj (hcomments.symm.trans hroutes)))
  exact arrayOf_ne_comments _ _ _ (String.toList_inj.1 htexts).symm

/-- Where the path of a report is a link to another report, the other one is lost though the run ends
    with 0; and where a directive of the log filter is cut inside a character, the run ends with
    neither 0 nor 1. -/
theorem run_with_linked_report_and_cut_filter :
    let args : Arguments := { directory := "proj" }
    let out := run ⟨linkedReports, [], [], none⟩ ["proj"]
    CommandLine.parse ["proj"] = .ok args ∧
    (out.exitCode = 0 ∧ ∃ found,
      scanFolder .disabled linkedReports [] ⟨none, none⟩ (args.settings []) = .ok found ∧
        out.disk.entryOf [] "data/proj/routes.json" ≠ .ok (.file (Text.encode
          (Report.arrayOf Report.ofRoute found.inventory.combinations).toList))) ∧
    (run ⟨linkedReports, [], [("RUST_LOG", "\u3000a=info")], none⟩ ["proj"]).exitCode = 101 := by
  intro args out
  have hparse : CommandLine.parse ["proj"] = .ok args := rfl
  have hchecks : ∀ env ∈ [[], [("RUST_LOG", "\u3000a=info")]],
      (({ directory := "proj" } : Arguments).settings env).check = .ok () :=
    List.forall_mem_cons.2 ⟨by rfl, List.forall_mem_singleton.2 (by rfl)⟩
  have hproj := locate_dir_linkedReports "proj" (by decide)
  have hentry : linkedReports.entryOf [] "proj" = .ok .dir :=
    entryOf_eq_ok_iff.2 ⟨_, hproj, by decide⟩
  obtain ⟨hthere, -⟩ := exists_locate_of_isDir (isDir_of_entryOf hentry)
  obtain ⟨found, hfound⟩ :=
    (exists_scanFolder_iff .disabled linkedReports [] ⟨none, none⟩ (args.settings [])).2
      ⟨hchecks [] (by simp), hthere, isDir_of_entryOf hentry, [], rfl⟩
  have hfolder : found.inventory.folderName = "proj" := by
    obtain ⟨-, collected, -, rfl⟩ := (scanFolder_eq_ok_iff ..).1 hfound
    change folderName linkedReports [] "proj" = "proj"
    rw [folderName, canonical_of_locate hproj]
    rfl
  obtain ⟨hexit, -, hdisk⟩ := run_of_written (w := ⟨linkedReports, [], [], none⟩) hparse rfl hfound
    (error_write_linkedReports hfolder)
  refine ⟨hparse, ⟨hexit, found, hfound, ?_⟩, ?_⟩
  · rw [show out.disk = _ from hdisk]
    exact entryOf_write_linkedReports hfolder
  · exact (run_of_givenUp (w := ⟨linkedReports, [], [("RUST_LOG", "\u3000a=info")], none⟩) hparse
      (hchecks _ (by simp)) rfl).1

end RouteInventory.Program
