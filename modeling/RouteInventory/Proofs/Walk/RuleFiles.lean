import RouteInventory.Proofs.Disk.Extension
import RouteInventory.Walk

/-!
The rules of a directory on a disk that was added to. Its rule files lie in it, but a `.git` that is
a file refers to rules elsewhere (`Refers`). As long as it refers to no new file (`KeepsRules`), the
directory has the rules that it had (`rulesAt_eq`), and so have the folders above it
(`rulesAbove_eq`).
-/

namespace RouteInventory.Walk

open Disk FilePath

variable {added : List String} {d e : Disk} {cwd folder : Place}

/-! ### What is read -/

variable {x y : Except OsError Entry}

theorem rulesIn_of_not_file (h : ∀ octets, x ≠ .ok (.file octets)) : rulesIn x = [] := by
  rw [rulesIn]
  rintro octets rfl
  exact h octets rfl

theorem firstLine?_of_not_file (h : ∀ octets, x ≠ .ok (.file octets)) : firstLine? x = none := by
  rw [firstLine?]
  rintro octets rfl
  exact h octets rfl

theorem rulesIn_eq (h : SameFile x y) : rulesIn y = rulesIn x :=
  h.congr fun _ => rulesIn_of_not_file

theorem firstLine?_eq (h : SameFile x y) : firstLine? y = firstLine? x :=
  h.congr fun _ => firstLine?_of_not_file

/-! ### What a `.git` refers to -/

/-- The paths of the files that a `.git` with these octets refers to. -/
inductive Refers (d : Disk) (cwd : Place) (octets : List UInt8) : String → Prop
  /-- The file that says which directory has the rules. -/
  | commondir {own : String} : checkoutDir? (.ok (.file octets)) = some own →
      Refers d cwd octets (join own "commondir")
  /-- The rules. -/
  | rules {dir : String} : sharedDir? d cwd (.ok (.file octets)) = some dir →
      Refers d cwd octets (join dir "info/exclude")

/-- Whether no path that a `.git` with these octets refers to leads to a file on the second disk
    only. -/
def RefersToNothingNew (d e : Disk) (cwd : Place) (octets : List UInt8) : Prop :=
  ∀ path, Refers d cwd octets path → (e.view cwd).isFile path = true →
    (d.view cwd).isFile path = true

/-- Whether that holds of the `.git` of a folder, if it is a file. -/
def KeepsRules (d e : Disk) (cwd folder : Place) : Prop :=
  ∀ octets, d.get? (folder ++ [".git"]) = some (.file octets) → RefersToNothingNew d e cwd octets

/-- The names of the files that rules are read from, and of those that say where they are. -/
def ruleFiles : List String := [".ignore", ".gitignore", ".git", "commondir", "exclude"]

theorem isProper_of_mem_ruleFiles {name : String} (h : name ∈ ruleFiles) : IsProper name := by
  have hall : ∀ name ∈ ruleFiles, IsProper name := by decide
  exact hall name h

/-- The personal rules lie two directories down. -/
theorem join_exclude (dir : String) :
    join dir ".git/info/exclude" = under dir [".git", "info", "exclude"] := by
  have hinfo : join (join dir ".git") "info/exclude" = join dir ".git/info/exclude" :=
    join_join (by decide) (by decide)
  have hlast : join (join (join dir ".git") "info") "exclude" =
      join (join dir ".git") "info/exclude" := join_join (by decide) (by decide)
  exact (hlast.trans hinfo).symm

theorem personalRules_of_not_file {look : Look}
    (hlook : ∀ octets, look ".git" ≠ .ok (.file octets)) :
    personalRules d cwd look = rulesIn (look ".git/info/exclude") := by
  rw [personalRules]
  split
  · next octets hfile => exact absurd hfile (hlook octets)
  · rfl

/-- Where there is no rule file there are no rules. -/
theorem dirRules_eq_nil {look : Look} (base : String)
    (h : ∀ path ∈ [".ignore", ".gitignore", ".git", ".git/info/exclude"], ∀ octets,
      look path ≠ .ok (.file octets)) : dirRules d cwd look base = [] := by
  rw [dirRules, personalRules_of_not_file (h ".git" (by decide)),
    rulesIn_of_not_file (h ".ignore" (by decide)), rulesIn_of_not_file (h ".gitignore" (by decide)),
    rulesIn_of_not_file (h ".git/info/exclude" (by decide))]
  rfl

section

variable (h : Extends added d e) (hadded : ∀ name ∈ ruleFiles, name ∉ added)
include h hadded

theorem sharedDir?_eq {octets : List UInt8}
    (hrefers : RefersToNothingNew d e cwd octets) :
    sharedDir? e cwd (.ok (.file octets)) = sharedDir? d cwd (.ok (.file octets)) := by
  rw [sharedDir?, sharedDir?]
  cases hown : checkoutDir? (.ok (.file octets)) with
  | none => rfl
  | some own =>
    have hsame := h.sameFile_of_isFile (by decide) (hadded "commondir" (by decide))
      (hrefers _ (.commondir hown))
    simp only [bind, Option.bind, firstLine?_eq (hsame.opened h.grows)]

theorem personalRules_eq {look now : Look} (hgit : SameFile (look ".git") (now ".git"))
    (hexclude : SameFile (look ".git/info/exclude") (now ".git/info/exclude"))
    (hrefers : ∀ octets, look ".git" = .ok (.file octets) → RefersToNothingNew d e cwd octets) :
    personalRules e cwd now = personalRules d cwd look := by
  by_cases hfile : ∃ octets, look ".git" = .ok (.file octets)
  · obtain ⟨octets, hlook⟩ := hfile
    have hrefers := hrefers octets hlook
    rw [personalRules, personalRules, hlook, (hgit octets).1 hlook]
    simp only [sharedDir?_eq h hadded hrefers]
    cases hdir : sharedDir? d cwd (.ok (.file octets)) with
    | none => rfl
    | some dir =>
      have hpath : join (join dir "info") "exclude" = join dir "info/exclude" :=
        join_join (by decide) (by decide)
      have hsame := h.sameFile_of_isFile (by decide) (hadded "exclude" (by decide))
        (hpath ▸ hrefers _ (.rules hdir))
      rw [hpath] at hsame
      exact rulesIn_eq (hsame.opened h.grows)
  · have hlook := not_exists.1 hfile
    rw [personalRules_of_not_file hlook,
      personalRules_of_not_file fun octets hnow => hlook octets ((hgit octets).2 hnow)]
    exact rulesIn_eq hexclude

theorem dirRules_eq {look now : Look} (base : String)
    (hnames : ∀ name ∈ ruleFiles, SameFile (look name) (now name))
    (hexclude : SameFile (look ".git/info/exclude") (now ".git/info/exclude"))
    (hrefers : ∀ octets, look ".git" = .ok (.file octets) → RefersToNothingNew d e cwd octets) :
    dirRules e cwd now base = dirRules d cwd look base := by
  have hignore := rulesIn_eq (hnames ".ignore" (by decide))
  have hgitignore := rulesIn_eq (hnames ".gitignore" (by decide))
  have hpersonal := personalRules_eq h hadded (hnames ".git" (by decide)) hexclude hrefers
  rw [dirRules, dirRules, hignore, hgitignore, hpersonal]

/-- A directory has the rules that it had. -/
theorem rulesAt_eq {dir : String} (hdir : dir ≠ "") (hplace : d.locate cwd dir = .ok folder)
    (hkeeps : KeepsRules d e cwd folder) : rulesAt e cwd dir = rulesAt d cwd dir := by
  have hnames : ∀ name ∈ ruleFiles,
      SameFile (d.opened cwd (join dir name)) (e.opened cwd (join dir name)) := by
    intro name hname
    refine (h.sameFile_under hdir hplace [] ?_ (hadded name hname)).opened h.grows
    simpa using isProper_of_mem_ruleFiles hname
  have hexclude : SameFile (d.opened cwd (join dir ".git/info/exclude"))
      (e.opened cwd (join dir ".git/info/exclude")) := by
    rw [join_exclude]
    exact (h.sameFile_under hdir hplace [".git", "info"] (by decide)
      (hadded "exclude" (by decide))).opened h.grows
  refine dirRules_eq h hadded dir hnames hexclude fun octets hgit => hkeeps octets ?_
  have hproper : ∀ name ∈ [".git"], IsProper name := by decide
  exact ((entryOf_under_iff h.before hdir hplace hproper _).1 (entryOf_of_opened hgit)).2.2

/-- The folders above a place have the rules that they had. -/
theorem rulesAbove_eq {place : Place}
    (hkeeps : ∀ above, above <+: place → above ≠ place → KeepsRules d e cwd above) :
    rulesAbove e cwd place = rulesAbove d cwd place := by
  refine List.flatMap_congr fun i hi => ?_
  have habove : place.take (place.length - 1 - i) <+: place := List.take_prefix _ _
  have hne : place.take (place.length - 1 - i) ≠ place := by
    intro heq
    have := congrArg List.length heq
    rw [List.length_take] at this
    have := List.mem_range.1 hi
    omega
  generalize place.take (place.length - 1 - i) = above at habove hne
  have hnames : ∀ name ∈ ruleFiles, SameFile (d.opened above name) (e.opened above name) := by
    intro name hname
    have hproper := isProper_of_mem_ruleFiles hname
    refine (h.sameFile_relative (not_isAbsolute_of_isProper hproper) []
      (pieces_of_isProper hproper) ?_ (hadded name hname)).opened h.grows
    simpa using hproper
  have hpieces : pieces ".git/info/exclude" = [".git", "info"] ++ ["exclude"] := by decide
  have hexclude : SameFile (d.opened above ".git/info/exclude")
      (e.opened above ".git/info/exclude") :=
    (h.sameFile_relative (by decide) [".git", "info"] hpieces (by decide)
      (hadded "exclude" (by decide))).opened h.grows
  refine dirRules_eq h hadded _ hnames hexclude fun octets hgit => ?_
  refine hkeeps above habove hne octets ?_
  exact ((entryOf_relative_iff h.before (by decide) (by decide) _).1 (entryOf_of_opened hgit)).2.2

end

end RouteInventory.Walk
