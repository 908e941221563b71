import RouteInventory.Proofs.FolderScan.Checkout
import RouteInventory.Proofs.FolderScan.Faults
import RouteInventory.Proofs.LogFilter.Cuts
import RouteInventory.Proofs.Program.Outcome
import RouteInventory.Proofs.Text.Decimal

/-!
What the environment can change. A variable counts only while the flag of its setting is absent, so
environments that agree on the variables of the absent flags give the same settings. The variables
of the log change nothing but the error stream, unless reading its filter is given up in one of the
environments and not in the other; those for the user's own files change nothing but the rules that
the user has, and these count only with rule files (`settings_eq_and_sameAnswer`). Other variables
change nothing at all (`run_congr`).
-/

namespace RouteInventory

namespace CommandLine.Arguments

/-- Whether two environments agree on each variable whose flag is absent from the arguments. -/
structure AgreeBeside (args : Arguments) (env env' : Env) : Prop where
  outputDir : args.outputDir = none →
    env.lookup "ROUTESCAN_OUTPUT_DIR" = env'.lookup "ROUTESCAN_OUTPUT_DIR"
  includeTests : args.includeTests = false →
    env.lookup "ROUTESCAN_INCLUDE_TESTS" = env'.lookup "ROUTESCAN_INCLUDE_TESTS"
  extensions : args.extensions = [] →
    env.lookup "ROUTESCAN_EXTENSIONS" = env'.lookup "ROUTESCAN_EXTENSIONS"
  queryTag : args.queryTag = none →
    env.lookup "ROUTESCAN_QUERY_TAG" = env'.lookup "ROUTESCAN_QUERY_TAG"
  logLevel : args.logLevel = none →
    env.lookup "ROUTESCAN_LOG_LEVEL" = env'.lookup "ROUTESCAN_LOG_LEVEL"

/-- A flag shadows its variable. -/
theorem settings_congr {args : Arguments} {env env' : Env} (h : args.AgreeBeside env env') :
    args.settings env = args.settings env' := by
  have hgetD : ∀ {α : Type} (flag : Option α) {a b : α},
      (flag = none → a = b) → flag.getD a = flag.getD b := by
    intro α flag a b hab
    cases flag with
    | none => exact hab rfl
    | some value => rfl
  simp only [settings, Settings.forRoot, Settings.mk.injEq, true_and]
  refine ⟨hgetD _ fun hflag => ?outputDir, ?includeTests, ?extensions,
    hgetD _ fun hflag => ?queryTag, hgetD _ fun hflag => ?logLevel⟩
  case outputDir => simp only [Settings.ofEnv, h.outputDir hflag]
  case includeTests =>
    cases hflag : args.includeTests with
    | true => rfl
    | false => simp only [Settings.ofEnv, h.includeTests hflag]
  case extensions =>
    cases hflag : args.extensions with
    | cons ext exts => rfl
    | nil => simp only [Settings.ofEnv, h.extensions hflag, List.isEmpty_nil, if_true]
  case queryTag => simp only [Settings.ofEnv, h.queryTag hflag]
  case logLevel => simp only [Settings.ofEnv, h.logLevel (by simpa using hflag)]

end CommandLine.Arguments

/-- Where the files of the user are depends on two variables of the environment. -/
theorem UserDirs.ofEnv_congr {env env' : Env} (hhome : env.lookup "HOME" = env'.lookup "HOME")
    (hconfig : env.lookup "XDG_CONFIG_HOME" = env'.lookup "XDG_CONFIG_HOME")
    (account : Option String) : UserDirs.ofEnv env account = UserDirs.ofEnv env' account := by
  simp only [UserDirs.ofEnv, hhome, hconfig]

namespace Program

open CommandLine Disk LogFilter Walk

variable {w : World} {words : List String} {args : Arguments} {env env' : Env}

/-- Whether two runs come to the same in all but what they say on the error stream. -/
structure SameAnswer (out out' : Outcome) : Prop where
  exitCode : out.exitCode = out'.exitCode
  stdout : out.stdout = out'.stdout
  disk : out.disk = out'.disk

theorem SameAnswer.symm {out out' : Outcome} (h : SameAnswer out out') : SameAnswer out' out :=
  ⟨h.exitCode.symm, h.stdout.symm, h.disk.symm⟩

theorem SameAnswer.trans {a b c : Outcome} (hab : SameAnswer a b) (hbc : SameAnswer b c) :
    SameAnswer a c :=
  ⟨hab.exitCode.trans hbc.exitCode, hab.stdout.trans hbc.stdout, hab.disk.trans hbc.disk⟩

/-- The code of a scan is 0 or 1. -/
theorem exitCode_runScan (w : World) (args : Arguments) (s : Settings) :
    (runScan w args s).exitCode = 0 ∨ (runScan w args s).exitCode = 1 := by
  rcases runScan_cases w args s with ⟨e, -, hexit, -⟩ | ⟨found, -, -, ⟨e, -, hexit, -⟩ | ⟨-, hexit, -⟩⟩
  · exact .inr hexit
  · exact .inr hexit
  · exact .inl hexit

/-- Without a cut in the log filter a run answers what its scan does. -/
theorem sameAnswer_runScan (hparse : CommandLine.parse words = .ok args)
    (hcheck : (args.settings w.env).check = .ok ()) (hcut : ¬ CutsCharacter w.env) :
    SameAnswer (run w words) (runScan w args (args.settings w.env)) := by
  have hlog : (LogFilter.ofEnv w.env (args.level (args.settings w.env))).givenUpAt = none := by
    rwa [← givenUpAt_ofEnv_iff w.env (args.level (args.settings w.env)),
      Option.not_isSome_iff_eq_none] at hcut
  obtain ⟨hexit, hstdout, hdisk, -⟩ := run_of_check hparse hcheck hlog
  exact ⟨hexit, hstdout, hdisk⟩

/-- With a cut in the log filter a run is given up, with nothing done. -/
theorem sameAnswer_givenUp (hparse : CommandLine.parse words = .ok args)
    (hcheck : (args.settings w.env).check = .ok ()) (hcut : CutsCharacter w.env) :
    SameAnswer (run w words) { exitCode := givenUp, disk := w.disk } := by
  obtain ⟨hexit, hstdout, hdisk⟩ := run_of_givenUp hparse hcheck <|
    (givenUpAt_ofEnv_iff w.env (args.level (args.settings w.env))).2 hcut
  exact ⟨hexit, hstdout, hdisk⟩

/-- A run is given up exactly at a cut in the log filter. -/
theorem exitCode_run_eq_givenUp_iff (hparse : CommandLine.parse words = .ok args)
    (hcheck : (args.settings w.env).check = .ok ()) :
    (run w words).exitCode = givenUp ↔ CutsCharacter w.env := by
  by_cases hcut : CutsCharacter w.env
  · exact iff_of_true (sameAnswer_givenUp hparse hcheck hcut).exitCode hcut
  · refine iff_of_false ?_ hcut
    rw [(sameAnswer_runScan hparse hcheck hcut).exitCode]
    rcases exitCode_runScan w args (args.settings w.env) with hexit | hexit <;>
      simp [hexit, givenUp]

/-- A scan looks at the rules that the user has only if rule files count. -/
theorem runScan_congr {disk : Disk} {cwd : Place} {account : Option String} {s : Settings}
    (h : s.respectGitignore = true →
      (UserDirs.ofEnv env account).rules disk cwd = (UserDirs.ofEnv env' account).rules disk cwd) :
    runScan ⟨disk, cwd, env, account⟩ args s = runScan ⟨disk, cwd, env', account⟩ args s := by
  have hscan : scanFolder .disabled disk cwd (.ofEnv env account) s =
      scanFolder .disabled disk cwd (.ofEnv env' account) s := scanFolder_congr _ _ _ _ s h
  simp only [runScan, World.user, hscan]

/-- A run looks at no variables but those that are listed, whatever it says and does. -/
theorem run_congr (h : ∀ name ∈ variableNames, env.lookup name = env'.lookup name) (disk : Disk)
    (cwd : Place) (account : Option String) (words : List String) :
    run ⟨disk, cwd, env, account⟩ words = run ⟨disk, cwd, env', account⟩ words := by
  have hsettings : ∀ args : Arguments, args.settings env = args.settings env' := by
    intro args
    refine Arguments.settings_congr ⟨?_, ?_, ?_, ?_, ?_⟩ <;> exact fun _ => h _ (by decide)
  have huser : UserDirs.ofEnv env account = UserDirs.ofEnv env' account :=
    UserDirs.ofEnv_congr (h _ (by decide)) (h _ (by decide)) account
  have hscan : ∀ args s, runScan ⟨disk, cwd, env, account⟩ args s =
      runScan ⟨disk, cwd, env', account⟩ args s := fun args s => runScan_congr fun _ => by rw [huser]
  have hfilter : ∀ level, LogFilter.ofEnv env level = LogFilter.ofEnv env' level := by
    intro level
    rw [LogFilter.ofEnv, LogFilter.ofEnv, h "RUST_LOG" (by decide)]
  have hformat : ∀ level, LogFormat.ofEnv env level = LogFormat.ofEnv env' level := by
    intro level
    rw [LogFormat.ofEnv, LogFormat.ofEnv, h "ROUTESCAN_LOG_JSON" (by decide),
      h "NO_COLOR" (by decide)]
  rw [run, run]
  cases CommandLine.parse words with
  | error stop => cases stop <;> rfl
  | ok args => simp only [runArguments, runChecked, hsettings, hscan, hfilter, hformat]

theorem sameAnswer_iff (h : args.AgreeBeside env env') {disk : Disk} {cwd : Place}
    {account : Option String} (hrules : args.gitignore = true →
      (UserDirs.ofEnv env account).rules disk cwd = (UserDirs.ofEnv env' account).rules disk cwd)
    (hparse : CommandLine.parse words = .ok args) :
    SameAnswer (run ⟨disk, cwd, env, account⟩ words) (run ⟨disk, cwd, env', account⟩ words) ↔
      ((args.settings env).check = .ok () → (CutsCharacter env ↔ CutsCharacter env')) := by
  have hsettings := Arguments.settings_congr h
  set w : World := ⟨disk, cwd, env, account⟩
  set w' : World := ⟨disk, cwd, env', account⟩
  cases hcheck : (args.settings env).check with
  | error e =>
    -- settings that cannot be used end both runs before the log is looked at
    have hfailed : Failed w e.message (run w words) := failed_of_check hparse hcheck
    have hfailed' : Failed w' e.message (run w' words) :=
      failed_of_check hparse (hsettings ▸ hcheck)
    refine iff_of_true ⟨?_, ?_, ?_⟩ (by simp)
    · rw [hfailed.exitCode, hfailed'.exitCode]
    · rw [hfailed.stdout, hfailed'.stdout]
    · rw [hfailed.disk, hfailed'.disk]
  | ok =>
    have hcheck' : (args.settings env').check = .ok () := hsettings ▸ hcheck
    constructor
    · intro hsame _
      rw [← exitCode_run_eq_givenUp_iff (w := w) hparse hcheck, hsame.exitCode,
        exitCode_run_eq_givenUp_iff (w := w') hparse hcheck']
    · intro hcuts
      by_cases hcut : CutsCharacter env
      · exact (sameAnswer_givenUp (w := w) hparse hcheck hcut).trans
          (sameAnswer_givenUp (w := w') hparse hcheck' ((hcuts rfl).1 hcut)).symm
      · have hscan : runScan w args (args.settings env) = runScan w' args (args.settings env') := by
          rw [← hsettings]
          exact runScan_congr hrules
        have hcut' : ¬ CutsCharacter env' := mt (hcuts rfl).2 hcut
        have hrun := sameAnswer_runScan (w := w) hparse hcheck hcut
        rw [hscan] at hrun
        exact hrun.trans (sameAnswer_runScan (w := w') hparse hcheck' hcut').symm

/-- The summary for people begins with the folder's name and the number of files scanned. -/
theorem exists_format_eq (s : Summary) (dir : String) : ∃ rest, s.format dir .human =
    "✓ Scanned " ++ (s.folderName ++ (" (" ++ (toString s.filesScanned ++ rest))) := by
  have hformat : s.format dir .human =
      s!"✓ Scanned {s.folderName} ({s.filesScanned} files)\nReports written to: {dir}\n\n" ++
        s.toText := rfl
  rw [hformat]
  simp only [String.append_assoc]
  exact ⟨_, rfl⟩

/-- So it tells whether any file was scanned. -/
theorem filesScanned_eq_zero_of_format {a b : Summary} (hname : a.folderName = b.folderName)
    (hzero : a.filesScanned = 0) {dir dir' : String}
    (h : a.format dir .human = b.format dir' .human) : b.filesScanned = 0 := by
  obtain ⟨rest, ha⟩ := exists_format_eq a dir
  obtain ⟨rest', hb⟩ := exists_format_eq b dir'
  have hlists := congrArg String.toList (ha.symm.trans (h.trans hb))
  rw [hname, hzero] at hlists
  simp only [String.toList_append, List.append_cancel_left_eq] at hlists
  have hfront : ∀ (n : Nat) (more : List Char),
      ((toString n).toList ++ more).head? = (toString n).toList.head? := by
    intro n more
    rw [List.head?_append, Option.or_eq_left_of_isSome]
    exact List.isSome_head?.2 (Text.toString_ne_nil n)
  have hhead := congrArg List.head? hlists
  rw [hfront, hfront] at hhead
  exact Text.eq_zero_of_head?_toString hhead.symm

/-- A disk on which a user at home has a rule about the one source file of a folder. -/
def ruleAtHome : Disk :=
  checkout "" [homeNaming "rules", ("rules", .file (Text.encode "a.js".toList)), ("data", .dir [])]

theorem isTree_ruleAtHome : ruleAtHome.IsTree := by
  refine isTree_checkout _ (by decide) (by decide) (List.forall_mem_cons.2 ⟨isTree_homeNaming _, ?_⟩)
  refine List.forall_mem_cons.2 ⟨.file _, List.forall_mem_singleton.2 ?_⟩
  exact .dir (by decide) (by decide) (by simp)

/-- With rule files honoured a run tells whether the rules of the user leave the file out. -/
theorem exists_summary_ruleAtHome (env : Env)
    (hsettings : ({ directory := "proj", gitignore := true } : Arguments).settings env =
      honouringRules "data")
    (hlog : ∀ level, (LogFilter.ofEnv env level).givenUpAt = none) :
    ∃ inv : Inventory, inv.folderName = "proj" ∧
      (run ⟨ruleAtHome, [], env, none⟩ ["proj", "--gitignore"]).stdout =
        inv.summary.format (Report.directory "data" inv) .human ++ "\n" ∧
      (inv.filesScanned = 0 ↔ ExclusionRule.verdict
        ((UserDirs.ofEnv env none).rules ruleAtHome []) "proj/a.js" false = .leaveOut) := by
  have hd := isTree_ruleAtHome
  have hparse : CommandLine.parse ["proj", "--gitignore"] =
      .ok { directory := "proj", gitignore := true } := by decide
  have hdata : ruleAtHome.locate [] "data" = .ok ["data"] :=
    locate_dir_checkout (.refl hd) (by decide) (by decide)
  obtain ⟨found, hfound, hfolder⟩ :=
    exists_scanFolder_checkout (locate_checkout (.refl hd)) rfl (.ofEnv env none) "data"
  have hwrite : (Report.write "data" found.inventory [] ruleAtHome).error = none :=
    error_write_checkout hd (by decide) hdata (by decide) (by decide) hfolder
  have hcount := filesScanned_of_faults_nil _ _ _ _ _ rfl hfound
  refine ⟨found.inventory, hfolder, ?_, ?_⟩
  · obtain ⟨-, hstdout, -⟩ := run_of_written (w := ⟨ruleAtHome, [], env, none⟩) hparse (hlog _)
      (hsettings ▸ hfound) (hsettings ▸ hwrite)
    rwa [hsettings] at hstdout
  · obtain ⟨-, collected, hcollected, rfl⟩ := (scanFolder_eq_ok_iff ..).1 hfound
    rw [hcount, List.length_eq_zero_iff]
    exact files_eq_nil_iff_of_user (.refl hd) (by decide) hcollected

theorem not_sameAnswer_of_home :
    ¬ SameAnswer (run ⟨ruleAtHome, [], [("HOME", "home")], none⟩ ["proj", "--gitignore"])
      (run ⟨ruleAtHome, [], [], none⟩ ["proj", "--gitignore"]) := by
  intro hsame
  obtain ⟨inv, hname, hstdout, hiff⟩ :=
    exists_summary_ruleAtHome [("HOME", "home")] rfl fun _ => rfl
  obtain ⟨inv', hname', hstdout', hiff'⟩ := exists_summary_ruleAtHome [] rfl fun _ => rfl
  have hd := isTree_ruleAtHome
  have hrules : (UserDirs.ofEnv [("HOME", "home")] none).rules ruleAtHome [] =
      ExclusionRule.ofFile (Text.encode "a.js".toList) := by
    have hopened : ruleAtHome.opened [] "rules" = .ok (.file (Text.encode "a.js".toList)) :=
      opened_of_entryOf (entryOf_of_get? hd (by decide) (by decide) (by decide) rfl) rfl
    exact (rules_atHome (.refl hd) (by decide)).trans (congrArg rulesIn hopened)
  have hzero : inv.filesScanned = 0 := by
    rw [hiff, hrules]
    decide
  have hsome : inv'.filesScanned ≠ 0 := mt hiff'.1 (by decide)
  have hformats := String.toList_inj.2 (hstdout.symm.trans (hsame.stdout.trans hstdout'))
  rw [String.toList_append, String.toList_append, List.append_cancel_right_eq,
    String.toList_inj] at hformats
  exact hsome (filesScanned_eq_zero_of_format (hname.trans hname'.symm) hzero hformats)

end Program
end RouteInventory
