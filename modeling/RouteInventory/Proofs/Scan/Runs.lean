import RouteInventory.Scan
import Mathlib.Data.List.Basic

/-!
Runs over lists of files. A run that begins with a result ends with that result followed by what the
same files give by themselves (`merged_foldl`). A file that cannot be read changes nothing but the
list of such files (`foldl_step_eq`), and every entry is for a file that can be read
(`entriesFrom_foldl`).
-/

namespace RouteInventory

open Extraction

variable {ε : Type} {rules : SecretRules} {read : String → Except ε String}

/-- Whether a file can be read. -/
def isReadable (read : String → Except ε String) (file : String) : Bool := (read file).isOk

theorem isReadable_of_error {file : String} {e : ε} (h : read file = .error e) :
    isReadable read file = false := by
  rw [isReadable, h]
  rfl

theorem isReadable_of_ok {file content : String} (h : read file = .ok content) :
    isReadable read file = true := by
  rw [isReadable, h]
  rfl

/-! ### Steps -/

/-- The state with another list of files that could not be read. -/
def ScanState.withFailed (s : ScanState) (files : List String) : ScanState :=
  { s with result := { s.result with failedFiles := files } }

/-- A file that cannot be read is listed, and nothing else changes. -/
theorem step_of_error {s : ScanState} {file : String} {e : ε} (h : read file = .error e) :
    s.step rules read file = s.withFailed (s.result.failedFiles ++ [file]) := by
  rw [ScanState.step, h, ScanState.withFailed]

theorem step_of_ok {s : ScanState} {file content : String} (h : read file = .ok content) :
    s.step rules read file =
      { result := { s.result.accumulate file (extract rules file content) with
          filesScanned := s.result.filesScanned + 1 }
        envVars := s.envVars.insertAll (extract rules file content).envVars } := by
  rw [ScanState.step, h]
  rfl

/-! ### Merging -/

/-- The result `c` is `a` followed by `b`: its lists are those of the two in turn, its count
    is their sum, and its environment variables are the strictly ascending union. -/
structure Merged (a b c : ScanResult) : Prop where
  routes : c.routes = a.routes ++ b.routes
  basePaths : c.basePaths = a.basePaths ++ b.basePaths
  otherUrls : c.otherUrls = a.otherUrls ++ b.otherUrls
  bodyParameters : c.bodyParameters = a.bodyParameters ++ b.bodyParameters
  queryParameters : c.queryParameters = a.queryParameters ++ b.queryParameters
  headers : c.headers = a.headers ++ b.headers
  comments : c.comments = a.comments ++ b.comments
  secrets : c.secrets = a.secrets ++ b.secrets
  failedFiles : c.failedFiles = a.failedFiles ++ b.failedFiles
  filesScanned : c.filesScanned = a.filesScanned + b.filesScanned
  ascending : c.envVars.Pairwise (· < ·)
  mem_envVars : ∀ x, x ∈ c.envVars ↔ x ∈ a.envVars ∨ x ∈ b.envVars

/-- What no file gives merges with every result. -/
theorem merged_initial (a : ScanState) :
    Merged a.finish (ScanState.finish {}) a.finish where
  routes := (List.append_nil _).symm
  basePaths := (List.append_nil _).symm
  otherUrls := (List.append_nil _).symm
  bodyParameters := (List.append_nil _).symm
  queryParameters := (List.append_nil _).symm
  headers := (List.append_nil _).symm
  comments := (List.append_nil _).symm
  secrets := (List.append_nil _).symm
  failedFiles := (List.append_nil _).symm
  filesScanned := rfl
  ascending := a.envVars.ascending
  mem_envVars x := by simp [ScanState.finish]

theorem append_grows {β : Type} {x y z : List β} (h : z = x ++ y) (more : List β) :
    z ++ more = x ++ (y ++ more) := by
  rw [h, List.append_assoc]

/-- A file more on both sides keeps states merged. -/
theorem Merged.step {a : ScanResult} {s t : ScanState} (h : Merged a s.finish t.finish)
    (file : String) :
    Merged a (s.step rules read file).finish (t.step rules read file).finish := by
  cases hread : read file with
  | error e =>
    rw [step_of_error hread, step_of_error hread]
    exact { h with failedFiles := append_grows h.failedFiles [file] }
  | ok content =>
    rw [step_of_ok hread, step_of_ok hread]
    constructor
    case routes => exact append_grows h.routes _
    case basePaths => exact append_grows h.basePaths _
    case otherUrls => exact append_grows h.otherUrls _
    case bodyParameters => exact append_grows h.bodyParameters _
    case queryParameters => exact append_grows h.queryParameters _
    case headers => exact append_grows h.headers _
    case comments => exact append_grows h.comments _
    case secrets => exact append_grows h.secrets _
    case failedFiles => exact h.failedFiles
    case filesScanned => exact congrArg (· + 1) h.filesScanned
    case ascending => exact SortedSet.ascending _
    case mem_envVars =>
      intro x
      have hx : x ∈ t.envVars.items ↔ x ∈ a.envVars ∨ x ∈ s.envVars.items := h.mem_envVars x
      simp only [ScanState.finish, SortedSet.mem_insertAll, hx, or_assoc]

/-- A run that begins with a result is that result followed by the run by itself. -/
theorem merged_foldl (a : ScanState) (files : List String) :
    Merged a.finish (files.foldl (ScanState.step rules read) {}).finish
      (files.foldl (ScanState.step rules read) a).finish := by
  have hrun : ∀ (files : List String) (s t : ScanState), Merged a.finish s.finish t.finish →
      Merged a.finish (files.foldl (ScanState.step rules read) s).finish
        (files.foldl (ScanState.step rules read) t).finish := by
    intro files
    induction files with
    | nil => exact fun _ _ h => h
    | cons file files ih => exact fun s t h => ih _ _ (h.step file)
  exact hrun files {} a (merged_initial a)

/-! ### Failures -/

theorem step_withFailed {s : ScanState} {file content : String} (h : read file = .ok content)
    (failed : List String) :
    (s.withFailed failed).step rules read file = (s.step rules read file).withFailed failed := by
  rw [step_of_ok h, step_of_ok h]
  rfl

/-- A run over files that can be read neither looks at the failures before it nor adds one. -/
theorem foldl_withFailed {files : List String} (hread : ∀ file ∈ files, isReadable read file = true)
    (s : ScanState) (failed : List String) :
    files.foldl (ScanState.step rules read) (s.withFailed failed) =
      (files.foldl (ScanState.step rules read) s).withFailed failed := by
  induction files generalizing s with
  | nil => rfl
  | cons file files ih =>
    have hfile := hread file List.mem_cons_self
    rw [List.foldl_cons, List.foldl_cons]
    cases hcontent : read file with
    | error e =>
      rw [isReadable_of_error hcontent] at hfile
      exact absurd hfile Bool.false_ne_true
    | ok content =>
      rw [step_withFailed hcontent]
      exact ih (fun f hf => hread f (List.mem_cons_of_mem _ hf)) _

/-- A run is the run over the files that can be read, with the other files listed. -/
theorem foldl_step_eq (files : List String) (s : ScanState) :
    files.foldl (ScanState.step rules read) s =
      ((files.filter (isReadable read)).foldl (ScanState.step rules read) s).withFailed
        (s.result.failedFiles ++ files.filter (!isReadable read ·)) := by
  induction files generalizing s with
  | nil =>
    rw [List.filter_nil, List.filter_nil, List.append_nil]
    rfl
  | cons file files ih =>
    cases hread : read file with
    | error e =>
      have hfails := isReadable_of_error hread
      have hgood : ∀ f ∈ files.filter (isReadable read), isReadable read f = true :=
        fun f hf => (List.mem_filter.1 hf).2
      rw [List.foldl_cons, ih, step_of_error hread, foldl_withFailed hgood]
      simp [hfails, ScanState.withFailed]
    | ok content =>
      have hok := isReadable_of_ok hread
      rw [List.foldl_cons, ih, List.filter_cons_of_pos hok, List.foldl_cons]
      simp [hok, step_of_ok hread, ScanResult.accumulate]

/-- The failures of a run are the files that cannot be read. -/
theorem failedFiles_foldl (files : List String) (s : ScanState) :
    (files.foldl (ScanState.step rules read) s).result.failedFiles =
      s.result.failedFiles ++ files.filter (!isReadable read ·) := by
  rw [foldl_step_eq]
  rfl

/-- But for the failures, a scan is that of the files that can be read. -/
theorem scan_readable (files : List String) :
    { scan rules read files with failedFiles := [] } =
      scan rules read (files.filter (isReadable read)) := by
  have hnil : (scan rules read (files.filter (isReadable read))).failedFiles = [] := by
    refine (failedFiles_foldl (files.filter (isReadable read)) {}).trans ?_
    simp [List.filter_filter]
  rw [← hnil, scan, foldl_step_eq]
  rfl

/-- A run depends on nothing but what is read of its files. -/
theorem scan_congr {now : String → Except ε String} {files : List String}
    (h : ∀ file ∈ files, now file = read file) : scan rules now files = scan rules read files := by
  refine congrArg ScanState.finish (List.foldl_ext _ _ _ fun s file hfile => ?_)
  rw [ScanState.step, ScanState.step, h file hfile]

/-- Every file of a run is counted once, as read or as failed. -/
theorem count_foldl_step (files : List String) (s : ScanState) :
    (files.foldl (ScanState.step rules read) s).result.filesScanned +
      (files.foldl (ScanState.step rules read) s).result.failedFiles.length =
      s.result.filesScanned + s.result.failedFiles.length + files.length := by
  induction files generalizing s with
  | nil => rfl
  | cons file files ih =>
    rw [List.foldl_cons, ih, List.length_cons]
    cases hread : read file with
    | error e =>
      rw [step_of_error hread]
      simp only [ScanState.withFailed, List.length_append, List.length_singleton]
      omega
    | ok content =>
      rw [step_of_ok hread]
      simp only [ScanResult.accumulate]
      omega

/-! ### Entries -/

/-- The entries that list what was found in one file. -/
def ScanResult.entries (r : ScanResult) : List FileItems :=
  r.bodyParameters ++ r.queryParameters ++ r.headers ++ r.comments ++ r.secrets

/-- A file has an entry only for what was found in it. -/
theorem FileItems.of_mem_ofList? {file : String} {items : List String} {e : FileItems}
    (h : e ∈ (FileItems.ofList? file items).toList) : e.items ≠ [] ∧ e.file = file := by
  rw [Option.mem_toList, FileItems.ofList?] at h
  split at h
  · exact absurd h (Option.not_mem_none e)
  · next hne =>
    obtain rfl := Option.mem_some.1 h
    exact ⟨fun hnil => hne (List.isEmpty_iff.2 hnil), rfl⟩

/-- A file more gives no entry but its own. -/
theorem ScanResult.entries_accumulate {r : ScanResult} {file : String} {found : FileExtraction}
    {e : FileItems} (h : e ∈ (r.accumulate file found).entries) :
    e ∈ r.entries ∨ e.items ≠ [] ∧ e.file = file := by
  by_cases hold : e ∈ r.entries
  · exact .inl hold
  · right
    simp only [ScanResult.entries, ScanResult.accumulate, List.mem_append, not_or] at hold h
    obtain ⟨⟨⟨⟨hbody, hquery⟩, hheaders⟩, hcomments⟩, hsecrets⟩ := hold
    simp only [hbody, hquery, hheaders, hcomments, hsecrets, false_or] at h
    rcases h with (((h | h) | h) | h) | h <;> exact FileItems.of_mem_ofList? h

/-- Every entry lists something, and is for a file of some kind. -/
def EntriesFrom (good : String → Prop) (r : ScanResult) : Prop :=
  ∀ e ∈ r.entries, e.items ≠ [] ∧ good e.file

theorem entriesFrom_step {good : String → Prop} {s : ScanState} {file : String}
    (h : EntriesFrom good s.result) (hfile : isReadable read file = true → good file) :
    EntriesFrom good (s.step rules read file).result := by
  cases hread : read file with
  | error e =>
    rw [step_of_error hread]
    exact h
  | ok content =>
    rw [step_of_ok hread]
    intro e he
    rcases ScanResult.entries_accumulate he with he | ⟨hne, rfl⟩
    · exact h e he
    · exact ⟨hne, hfile (isReadable_of_ok hread)⟩

/-- A run gives entries for files that can be read only. -/
theorem entriesFrom_foldl {good : String → Prop} {files : List String}
    (hfiles : ∀ file ∈ files, isReadable read file = true → good file) {s : ScanState}
    (h : EntriesFrom good s.result) :
    EntriesFrom good (files.foldl (ScanState.step rules read) s).result := by
  induction files generalizing s with
  | nil => exact h
  | cons file files ih =>
    exact ih (fun f hf => hfiles f (List.mem_cons_of_mem _ hf))
      (entriesFrom_step h (hfiles file List.mem_cons_self))

/-! ### Gathering -/

/-- What a file gives of one category; nothing if it cannot be read. -/
def gathered {β : Type} (rules : SecretRules) (read : String → Except ε String)
    (pick : FileExtraction → List β) (file : String) : List β :=
  match read file with
  | .ok content => pick (extract rules file content)
  | .error _ => []

theorem mem_flatMap_gathered {β : Type} {pick : FileExtraction → List β} {files : List String}
    {x : β} :
    x ∈ files.flatMap (gathered rules read pick) ↔
      ∃ file ∈ files, ∃ content, read file = .ok content ∧ x ∈ pick (extract rules file content) := by
  rw [List.mem_flatMap]
  refine exists_congr fun file => and_congr_right fun _ => ?_
  cases hread : read file with
  | error e => simp [gathered, hread]
  | ok content => simp [gathered, hread]

/-- A list that grows by what each file gives, and by nothing else, is all that the files give. -/
theorem scan_gathered {β : Type} {pick : FileExtraction → List β} (view : ScanResult → List β)
    (hnil : view {} = [])
    (hadd : ∀ r file found n,
      view { r.accumulate file found with filesScanned := n } = view r ++ pick found)
    (hfailed : ∀ r failed, view { r with failedFiles := failed } = view r)
    (henv : ∀ r names, view { r with envVars := names } = view r) (files : List String) :
    view (scan rules read files) = files.flatMap (gathered rules read pick) := by
  have hstep : ∀ (s : ScanState) (file : String), view (s.step rules read file).result =
      view s.result ++ gathered rules read pick file := by
    intro s file
    cases hread : read file with
    | error e =>
      rw [step_of_error hread, gathered, hread, ScanState.withFailed, hfailed, List.append_nil]
    | ok content => rw [step_of_ok hread, gathered, hread, hadd]
  have hrun : ∀ (files : List String) (s : ScanState),
      view (files.foldl (ScanState.step rules read) s).result =
        view s.result ++ files.flatMap (gathered rules read pick) := by
    intro files
    induction files with
    | nil => exact fun s => (List.append_nil _).symm
    | cons file files ih =>
      intro s
      rw [List.foldl_cons, ih, hstep, List.append_assoc, ← List.flatMap_cons]
  rw [scan, ScanState.finish, henv, hrun, hnil, List.nil_append]

theorem routes_scan (files : List String) :
    (scan rules read files).routes = files.flatMap (gathered rules read (·.routes)) :=
  scan_gathered (·.routes) rfl (fun _ _ _ _ => rfl) (fun _ _ => rfl) (fun _ _ => rfl) files

theorem basePaths_scan (files : List String) :
    (scan rules read files).basePaths = files.flatMap (gathered rules read (·.basePaths)) :=
  scan_gathered (·.basePaths) rfl (fun _ _ _ _ => rfl) (fun _ _ => rfl) (fun _ _ => rfl) files

theorem otherUrls_scan (files : List String) :
    (scan rules read files).otherUrls = files.flatMap (gathered rules read (·.otherUrls)) :=
  scan_gathered (·.otherUrls) rfl (fun _ _ _ _ => rfl) (fun _ _ => rfl) (fun _ _ => rfl) files

theorem flatMap_items_ofList? (file : String) (items : List String) :
    (FileItems.ofList? file items).toList.flatMap (·.items) = items := by
  rw [FileItems.ofList?]
  split
  · next hnil => rw [List.isEmpty_iff.1 hnil]; rfl
  · simp

/-- The items of a category that is listed by file are all that the files give. -/
theorem items_scan {pick : FileExtraction → List String} (view : ScanResult → List FileItems)
    (hnil : view {} = [])
    (hadd : ∀ r file found n, view { r.accumulate file found with filesScanned := n } =
      view r ++ (FileItems.ofList? file (pick found)).toList)
    (hfailed : ∀ r failed, view { r with failedFiles := failed } = view r)
    (henv : ∀ r names, view { r with envVars := names } = view r) (files : List String) :
    (view (scan rules read files)).flatMap (·.items) = files.flatMap (gathered rules read pick) := by
  refine scan_gathered (fun r => (view r).flatMap (·.items)) ?_ ?_ ?_ ?_ files
  · rw [hnil, List.flatMap_nil]
  · intro r file found n
    rw [hadd, List.flatMap_append, flatMap_items_ofList?]
  · intro r failed
    rw [hfailed]
  · intro r names
    rw [henv]

theorem bodyNames_scan (files : List String) :
    (scan rules read files).bodyParameters.flatMap (·.items) =
      files.flatMap (gathered rules read (·.bodyParams.items)) :=
  items_scan (·.bodyParameters) rfl (fun _ _ _ _ => rfl) (fun _ _ => rfl) (fun _ _ => rfl) files

theorem queryNames_scan (files : List String) :
    (scan rules read files).queryParameters.flatMap (·.items) =
      files.flatMap (gathered rules read (·.queryParams.items)) :=
  items_scan (·.queryParameters) rfl (fun _ _ _ _ => rfl) (fun _ _ => rfl) (fun _ _ => rfl) files

theorem headerNames_scan (files : List String) :
    (scan rules read files).headers.flatMap (·.items) =
      files.flatMap (gathered rules read (·.headers.items)) :=
  items_scan (·.headers) rfl (fun _ _ _ _ => rfl) (fun _ _ => rfl) (fun _ _ => rfl) files

/-- The environment variables of a run are those it began with and what its files read. -/
theorem mem_envVars_foldl {x : String} (files : List String) (s : ScanState) :
    x ∈ (files.foldl (ScanState.step rules read) s).envVars.items ↔
      x ∈ s.envVars.items ∨ x ∈ files.flatMap (gathered rules read (·.envVars)) := by
  induction files generalizing s with
  | nil => simp
  | cons file files ih =>
    rw [List.foldl_cons, ih, List.flatMap_cons, List.mem_append, ← or_assoc]
    refine or_congr_left ?_
    cases hread : read file with
    | error e =>
      rw [step_of_error hread, gathered, hread]
      simp [ScanState.withFailed]
    | ok content =>
      rw [step_of_ok hread, gathered, hread]
      exact SortedSet.mem_insertAll

theorem mem_envVars_scan {x : String} (files : List String) :
    x ∈ (scan rules read files).envVars ↔
      x ∈ files.flatMap (gathered rules read (·.envVars)) := by
  rw [scan, ScanState.finish, mem_envVars_foldl]
  simp

theorem pairwise_envVars_scan (rules : SecretRules) (read : String → Except ε String)
    (files : List String) : (scan rules read files).envVars.Pairwise (· < ·) :=
  (files.foldl (ScanState.step rules read) {}).envVars.ascending

/-! ### The laws of scanning -/

/-- What a scan of a list gives when some of its files cannot be read. -/
structure Isolated (rules : SecretRules) (read : String → Except ε String) (files : List String)
    (r : ScanResult) : Prop where
  failedFiles : r.failedFiles = files.filter (!isReadable read ·)
  counted : r.filesScanned + r.failedFiles.length = files.length
  /-- All but the failures is as if only the files that can be read had been given. -/
  alone : { r with failedFiles := [] } = scan rules read (files.filter (isReadable read))
  entries : EntriesFrom (fun file => file ∈ files ∧ isReadable read file = true) r

/-- A file that cannot be read costs nothing but itself. -/
theorem isolated_scan (rules : SecretRules) (read : String → Except ε String)
    (files : List String) : Isolated rules read files (scan rules read files) := by
  constructor
  case failedFiles => exact failedFiles_foldl files {}
  case counted => exact (count_foldl_step files {}).trans (Nat.zero_add _)
  case alone => exact scan_readable files
  case entries =>
    have hnone : EntriesFrom (fun file => file ∈ files ∧ isReadable read file = true) {} := by
      simp [EntriesFrom, ScanResult.entries]
    exact entriesFrom_foldl (s := {}) (fun file hfile hread => ⟨hfile, hread⟩) hnone

/-- Scanning a list of files is scanning its parts one after the other, and a file that cannot be
    read costs nothing but itself. -/
theorem scan_append_and_isolated (rules : SecretRules) (read : String → Except ε String) :
    (∀ xs ys, Merged (scan rules read xs) (scan rules read ys) (scan rules read (xs ++ ys))) ∧
    ∀ files, Isolated rules read files (scan rules read files) := by
  refine ⟨fun xs ys => ?_, isolated_scan rules read⟩
  rw [scan, scan, scan, List.foldl_append]
  exact merged_foldl _ ys

end RouteInventory
