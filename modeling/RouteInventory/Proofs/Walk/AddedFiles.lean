import RouteInventory.Proofs.Collect.Candidates
import RouteInventory.Proofs.Walk.RuleFiles
import RouteInventory.Proofs.Walk.Tree

/-!
Walks over a disk before and after files of a few names were added. Whatever else the second walk
meets, directories and faults, the files that it meets are those of the first, in the same order,
and the new ones (`candidates_below`). So as long as no new file is asked for and neither a directory
nor the user gets other rules, the same files are collected (`collect_extends`).
-/

namespace RouteInventory

open Disk FilePath Walk

/-! ### The same files on both disks -/

namespace Walk

/-- The same walk over another disk. -/
def Plan.over (plan : Plan) (e : Disk) : Plan := { plan with disk := e }

variable {plan : Plan} {added : List String} {d e : Disk} {cwd : Place} {dir : String}

/-- A file below a directory is found where the names lead from there. -/
theorem exists_node?_of_isFile (hd : d.IsTree) (hdir : dir ≠ "") {names : List String}
    (hnames : ∀ name ∈ names, IsProper name)
    (hfile : (d.view cwd).isFile (under dir names) = true) :
    ∃ place, d.locate cwd dir = .ok place ∧ (d.node? (place ++ names)).isSome := by
  obtain ⟨found, hfound, -⟩ := exists_locate_of_isFile hfile
  have hnil : ∀ name ∈ ([] : List String), IsProper name := by simp
  obtain ⟨place, hplace, rfl, -⟩ := locate_under hd hdir hnil hnames hfound
  exact ⟨place, hplace, node?_of_locate hfound⟩

/-- Below a path that led nowhere there was no file. -/
theorem candidates_below_of_error (hd : d.IsTree) (hplan : plan.disk.IsTree) (hdir : dir ≠ "")
    (hnot : ∀ place, d.locate cwd dir ≠ .ok place) (sel : Selection) (depth : Nat)
    (way : List (Place × String)) (inside : List DirRules) :
    sel.candidates (d.view cwd) (below plan depth dir way inside) = [] := by
  refine Selection.candidates_eq_nil fun path hpath => Bool.eq_false_iff.2 fun hfile => ?_
  obtain ⟨names, hnames, rfl⟩ := exists_way_of_mem_below hplan.isProper_of_mem_names hpath
  obtain ⟨place, hplace, -⟩ := exists_node?_of_isFile hd hdir hnames.2 hfile
  exact hnot place hplace

/-- Under a name that is new there was no file. -/
theorem candidates_atEntry_of_new (hd : d.IsTree) (hplan : plan.disk.IsTree) (hdir : dir ≠ "")
    {place : Place} (hplace : d.locate cwd dir = .ok place) {name : String} (hname : IsProper name)
    (hnew : (d.node? (place ++ [name])).isSome = false) (sel : Selection) (depth : Nat)
    (way : List (Place × String)) (inside : List DirRules) :
    sel.candidates (d.view cwd) (plan.atEntry depth dir place way inside name) = [] := by
  refine Selection.candidates_eq_nil fun path hpath => Bool.eq_false_iff.2 fun hfile => ?_
  obtain ⟨names, hnames, rfl⟩ := exists_way_of_mem_atEntry hplan hname hpath
  obtain ⟨found, hfound, hthere⟩ := exists_node?_of_isFile hd hdir hnames hfile
  obtain rfl : place = found := Except.ok.inj (hplace.symm.trans hfound)
  rw [List.append_cons] at hthere
  rw [isSome_node?_append hthere] at hnew
  cases hnew

section

variable (h : Extends added plan.disk e) (hadded : ∀ name ∈ ruleFiles, name ∉ added)
  (sel : Selection)
include h hadded

/-- An entry that was there before yields the same files if what lies below it does. -/
theorem candidates_atEntry {depth deep : Nat} (hdir : dir ≠ "") {place : Place}
    (hplace : plan.disk.locate plan.cwd dir = .ok place) {name : String} (hname : IsProper name)
    (hthere : (plan.disk.node? (place ++ [name])).isSome)
    (hkeeps : plan.standard = true → KeepsRules plan.disk e plan.cwd (place ++ [name]))
    (hbelow : plan.disk.locate plan.cwd (join dir name) = .ok (place ++ [name]) →
      ∀ way now inside, sel.candidates (plan.disk.view plan.cwd)
          (below (plan.over e) deep (join dir name) now inside) =
        sel.candidates (plan.disk.view plan.cwd) (below plan depth (join dir name) way inside))
    (way now : List (Place × String)) (inside : List DirRules) :
    sel.candidates (plan.disk.view plan.cwd)
        ((plan.over e).atEntry deep dir place now inside name) =
      sel.candidates (plan.disk.view plan.cwd) (plan.atEntry depth dir place way inside name) := by
  have hsame : (plan.over e).disk.isDirAt (place ++ [name]) = plan.disk.isDirAt (place ++ [name]) :=
    h.isDirAt_eq hthere
  have hskips : (plan.over e).skips = plan.skips := rfl
  have hafter : (plan.over e).disk.IsTree := h.after
  have hne := join_ne_empty hdir hname
  rw [Plan.atEntry, Plan.atEntry, hsame, hskips]
  split
  · split
    · rfl
    · refine Selection.candidates_cons_congr _ ?_
      by_cases hhere : plan.disk.locate plan.cwd (join dir name) = .ok (place ++ [name])
      · have hrules : (if (plan.over e).standard then
              rulesAt (plan.over e).disk (plan.over e).cwd (join dir name) else []) =
            if plan.standard then rulesAt plan.disk plan.cwd (join dir name) else [] := by
          exact ite_congr rfl (fun hstandard => rulesAt_eq h hadded hne hhere (hkeeps hstandard))
            fun _ => rfl
        rw [hrules]
        exact hbelow hhere _ _ _
      · have hnot : ∀ found, plan.disk.locate plan.cwd (join dir name) ≠ .ok found := by
          intro found hfound
          obtain ⟨-, -, rfl, -⟩ := (locate_join_iff h.before hdir hname hplace found).1 hfound
          exact hhere hfound
        rw [candidates_below_of_error h.before hafter hne hnot,
          candidates_below_of_error h.before h.before hne hnot]
  · rfl

/-- Below a directory that was there before, the files that were there are met as before. -/
theorem candidates_below : ∀ {depth deep : Nat} {dir : String}, dir ≠ "" → ∀ {place : Place},
    plan.disk.locate plan.cwd dir = .ok place →
    plan.disk.entries.length < depth + place.length → e.entries.length < deep + place.length →
    (plan.standard = true → ∀ folder, place <+: folder → KeepsRules plan.disk e plan.cwd folder) →
    ∀ (way now : List (Place × String)) (inside : List DirRules),
    sel.candidates (plan.disk.view plan.cwd) (below (plan.over e) deep dir now inside) =
      sel.candidates (plan.disk.view plan.cwd) (below plan depth dir way inside)
  | 0, _, _, _, place, hplace, hdepth, _, _, _, _, _ => by
    obtain ⟨node, hnode⟩ := Option.isSome_iff_exists.1 (node?_of_locate hplace)
    have := length_le_of_node? hnode
    omega
  | _, 0, _, _, place, hplace, _, hdeep, _, _, _, _ => by
    obtain ⟨node, hnode⟩ := Option.isSome_iff_exists.1 (node?_of_locate (h.grows.locate hplace))
    have := length_le_of_node? hnode
    omega
  | depth + 1, deep + 1, dir, hdir, place, hplace, hdepth, hdeep, hkeeps, way, now, inside => by
    have hafter : (plan.over e).disk.IsTree := h.after
    have hsame : (plan.over e).disk.openAt (plan.over e).cwd dir = plan.disk.openAt plan.cwd dir :=
      h.grows.openAt_eq hplace
    cases hlisted : plan.disk.openAt plan.cwd dir with
    | error cause => rw [below_of_error hlisted, below_of_error (hsame.trans hlisted)]
    | ok listed =>
      obtain rfl : place = listed := Except.ok.inj (hplace.symm.trans (openAt_eq_ok_iff.1 hlisted).1)
      rw [below_eq_flatMap h.before hlisted, below_eq_flatMap hafter (hsame.trans hlisted),
        Selection.candidates_flatMap, Selection.candidates_flatMap, h.names_eq_filter place]
      -- the new names yield nothing, the others what they yielded
      rw [← Text.flatMap_filter_eq (p := fun name => (plan.disk.node? (place ++ [name])).isSome)]
      · refine List.flatMap_congr fun name hname => ?_
        obtain ⟨hname, hthere⟩ := List.mem_filter.1 hname
        have hname := h.after.isProper_of_mem_names hname
        have hwithin : place <+: place ++ [name] := List.prefix_append _ _
        refine candidates_atEntry h hadded sel hdir hplace hname hthere
          (fun hstandard => hkeeps hstandard _ hwithin) (fun hhere way now inside => ?_) way now
          inside
        refine candidates_below (join_ne_empty hdir hname) hhere ?_ ?_
          (fun hstandard folder hfolder => hkeeps hstandard folder (hwithin.trans hfolder)) way now
          inside
        · rw [List.length_append, List.length_singleton]
          omega
        · rw [List.length_append, List.length_singleton]
          omega
      · intro name hname hnew
        exact candidates_atEntry_of_new h.before hafter hdir hplace
          (h.after.isProper_of_mem_names hname) hnew sel deep now inside

end

/-! ### The same collection -/

section

variable {sel : Selection} {user : UserDirs} {root : String} {excluded : List ExclusionRule}
  {standard : Bool}

/-- The root of a walk is an entry, as are names after it, and the standard input may be. -/
theorem eq_input_or_exists_of_mem_walk (hd : d.IsTree) {path : String}
    (hpath : .entry path ∈ d.walk cwd user root excluded standard) :
    path = "<stdin>" ∨ ∃ names, (∀ name ∈ names, IsProper name) ∧ path = under root names := by
  rw [Disk.walk] at hpath
  split at hpath
  · exact .inl (Item.entry.inj (List.mem_singleton.1 hpath))
  · right
    cases hplace : d.locate cwd root with
    | error cause => simp [hplace] at hpath
    | ok place =>
      simp only [hplace, endsInLink_eq_false hd, Bool.false_eq_true, if_false] at hpath
      split at hpath
      · rcases List.mem_cons.1 hpath with hentry | hpath
        · exact ⟨[], by simp, Item.entry.inj hentry⟩
        · have hproper : ∀ {place name}, name ∈ d.names place → IsProper name :=
            hd.isProper_of_mem_names
          obtain ⟨names, hnames, hpath⟩ := exists_way_of_mem_below hproper hpath
          exact ⟨names, hnames.2, hpath⟩
      · exact ⟨[], by simp, Item.entry.inj (List.mem_singleton.1 hpath)⟩

/-- What the second walk meets is not asked for by its name, or the same file as before. -/
theorem not_source_or_sameFile (h : Extends added d e)
    (hsel : ∀ name ∈ added, sel.isSource name = false) (hinput : sel.isSource "<stdin>" = false)
    (hroot : (d.view cwd).isDir root = true) {path : String}
    (hpath : .entry path ∈ e.walk cwd user root excluded standard) :
    (fileName? path).any sel.isSource = false ∨
      SameFile (d.entryOf cwd path) (e.entryOf cwd path) := by
  obtain ⟨-, -, place, hplace, hdir⟩ := exists_locate_of_isDir hroot
  have hne := ne_empty_of_locate hplace
  rcases eq_input_or_exists_of_mem_walk h.after hpath with rfl | ⟨names, hnames, rfl⟩
  · have hname : fileName? "<stdin>" = some "<stdin>" := by decide
    left
    rw [hname]
    exact hinput
  · rcases List.eq_nil_or_concat names with rfl | ⟨front, name, rfl⟩
    · have hbefore : d.entryOf cwd root = .ok .dir :=
        entryOf_eq_ok_iff.2 ⟨place, hplace, beq_iff_eq.1 hdir⟩
      have hafter : e.entryOf cwd root = .ok .dir :=
        entryOf_eq_ok_iff.2 ⟨place, h.grows.locate hplace, beq_iff_eq.1 (h.grows.isDirAt hdir)⟩
      right
      intro octets
      rw [under, List.foldl_nil, hbefore, hafter]
    · rw [List.concat_eq_append] at hnames ⊢
      by_cases hname : name ∈ added
      · obtain ⟨hfront, hlast⟩ := List.forall_mem_append.1 hnames
        left
        rw [under_concat,
          fileName?_join (under_ne_empty hne hfront) (hlast name List.mem_cons_self)]
        exact hsel name hname
      · exact .inr (h.sameFile_under hne hplace front hnames hname)

/-- The files of the second walk that are asked for are those of the first. -/
theorem candidates_walk (h : Extends added d e) (hadded : ∀ name ∈ ruleFiles, name ∉ added)
    (hsel : ∀ name ∈ added, sel.isSource name = false) (hinput : sel.isSource "<stdin>" = false)
    (hroot : (d.view cwd).isDir root = true)
    (hkeeps : standard = true → ∀ place, d.locate cwd root = .ok place → ∀ folder,
      folder <+: place ∨ place <+: folder → KeepsRules d e cwd folder)
    (huser : standard = true → user.rules e cwd = user.rules d cwd) :
    sel.candidates (e.view cwd) (e.walk cwd user root excluded standard) =
      sel.candidates (d.view cwd) (d.walk cwd user root excluded standard) := by
  trans sel.candidates (d.view cwd) (e.walk cwd user root excluded standard)
  · refine Selection.candidates_congr fun path hpath => ?_
    rw [Selection.isCandidate, Selection.isCandidate]
    rcases not_source_or_sameFile h hsel hinput hroot hpath with hsource | hsame
    · rw [hsource, Bool.and_false, Bool.and_false]
    · rw [hsame.isFile_eq]
  · obtain ⟨-, -, place, hplace, hdir⟩ := exists_locate_of_isDir hroot
    have hne := ne_empty_of_locate hplace
    cases hliteral : isInput root with
    | true => rw [Disk.walk, Disk.walk, if_pos hliteral, if_pos hliteral]
    | false =>
      have hplan : e.plan cwd user root place excluded standard =
          (d.plan cwd user root place excluded standard).over e := by
        have habove : (if standard then rulesAbove e cwd place else []) =
            if standard then rulesAbove d cwd place else [] := by
          refine ite_congr rfl (fun hstandard => ?_) fun _ => rfl
          exact rulesAbove_eq h hadded fun folder hfolder _ =>
            hkeeps hstandard place hplace folder (.inl hfolder)
        have hrules : (if standard then user.rules e cwd else []) =
            if standard then user.rules d cwd else [] := ite_congr rfl huser fun _ => rfl
        simp only [Disk.plan, Plan.over, habove, hrules]
      have hrules : (if standard then rulesAt e cwd root else []) =
          if standard then rulesAt d cwd root else [] := by
        refine ite_congr rfl (fun hstandard => ?_) fun _ => rfl
        exact rulesAt_eq h hadded hne hplace
          (hkeeps hstandard place hplace place (.inl (List.prefix_refl place)))
      rw [walk_eq h.before hliteral hplace hdir,
        walk_eq h.after hliteral (h.grows.locate hplace) (h.grows.isDirAt hdir), hplan, hrules]
      refine Selection.candidates_cons_congr _ ?_
      have hextends : Extends added (d.plan cwd user root place excluded standard).disk e := h
      exact candidates_below hextends hadded sel hne hplace (length_lt_depthBound d place)
        (length_lt_depthBound e place)
        (fun hstandard folder hfolder => hkeeps hstandard place hplace folder (.inr hfolder)) _ _ _

/-- The same files are collected from a disk that was added to, and read the same. -/
theorem collect_extends (h : Extends added d e) (hadded : ∀ name ∈ ruleFiles, name ∉ added)
    (hsel : ∀ name ∈ added, sel.isSource name = false) (hinput : sel.isSource "<stdin>" = false)
    (hkeeps : sel.respectGitignore = true → ∀ place, d.locate cwd root = .ok place → ∀ folder,
      folder <+: place ∨ place <+: folder → KeepsRules d e cwd folder)
    (huser : sel.respectGitignore = true → user.rules e cwd = user.rules d cwd)
    {before : Collected} (hbefore : collect sel d cwd user (d.view cwd) root = .ok before) :
    ∃ after, collect sel e cwd user (e.view cwd) root = .ok after ∧ after.files = before.files ∧
      after.skippedTests = before.skippedTests ∧
      ∀ file ∈ before.files, e.read cwd file = d.read cwd file := by
  obtain ⟨-, hroot, rules, hrules, rfl⟩ := collect_eq_ok_iff.1 hbefore
  have hsame : sel.candidates (e.view cwd) (e.walk cwd user root rules sel.respectGitignore) = _ :=
    candidates_walk h hadded hsel hinput hroot hkeeps huser
  have hnow : (e.view cwd).isDir root = true := h.grows.isDir hroot
  refine ⟨_, collect_eq_ok_iff.2 ⟨(exists_locate_of_isDir hnow).1, hnow, rules, hrules, rfl⟩,
    ?_, ?_, fun file hfile => ?_⟩
  · rw [Selection.ofItems_eq, Selection.ofItems_eq, hsame]
  · rw [Selection.ofItems_eq, Selection.ofItems_eq, hsame]
  · rw [Selection.ofItems_eq] at hfile
    have hcandidate := (List.mem_filter.1 hfile).1
    have hbefore := (Selection.mem_candidates.1 hcandidate).2
    rw [← hsame] at hcandidate
    obtain ⟨hentry, -⟩ := Selection.mem_candidates.1 hcandidate
    obtain ⟨hisFile, hsource⟩ := Bool.and_eq_true_iff.1 hbefore
    have hfound := not_source_or_sameFile h hsel hinput hroot hentry
    exact (hfound.resolve_left (by simp [hsource])).read_eq h.grows hisFile

end

end Walk

end RouteInventory
