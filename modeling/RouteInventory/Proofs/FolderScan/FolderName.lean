import RouteInventory.Proofs.Disk.EntryNames
import RouteInventory.Proofs.Disk.Targets
import RouteInventory.Proofs.FolderScan.Failure
import RouteInventory.Report

/-!
What a folder is called. Its name is the last one on the way to it, or the one at the end of its
path, or else `root`, and each of these is a proper name. So the reports about a folder lie directly
below the directory that they are written to, whatever the path of the folder is
(`parts_directory`).
-/

namespace RouteInventory

open Disk FilePath

variable {d : Disk} {cwd : Place}

/-! ### Names at the end of a path -/

theorem name_eq_of_partOf {piece name : String} (h : partOf piece = some (.name name)) :
    piece = name ∧ piece ≠ "" ∧ piece ≠ "." ∧ piece ≠ ".." := by
  rw [partOf] at h
  split at h
  · cases h
  · next hsolid =>
    obtain ⟨hempty, hpoint⟩ := not_or.1 hsolid
    split at h
    · cases h
    · next hup => exact ⟨Part.name.inj (Option.some.inj h), hempty, hpoint, hup⟩

/-- A part that is a name comes from a piece. -/
theorem exists_piece_of_mem_parts {path name : String} (h : .name name ∈ parts path) :
    ∃ piece ∈ pieces path, partOf piece = some (.name name) := by
  obtain ⟨first, rest, hpieces⟩ := List.exists_cons_of_ne_nil (pieces_ne_nil path)
  rw [parts, hpieces] at h
  rw [hpieces]
  rcases List.mem_append.1 h with h | h
  · refine ⟨first, List.mem_cons_self, ?_⟩
    split at h
    · cases List.mem_singleton.1 h
    split at h
    · cases List.mem_singleton.1 h
    · exact Option.mem_toList.1 h
  · obtain ⟨piece, hpiece, hpart⟩ := List.mem_filterMap.1 h
    exact ⟨piece, List.mem_cons_of_mem _ hpiece, hpart⟩

theorem isProper_of_fileName? {path name : String} (h : fileName? path = some name) :
    IsProper name := by
  have hlast : (parts path).getLast? = some (.name name) := by
    rw [fileName?] at h
    split at h
    · next last hlast => rw [hlast, Option.some.inj h]
    · cases h
  obtain ⟨piece, hpiece, hpart⟩ := exists_piece_of_mem_parts (List.mem_of_getLast? hlast)
  obtain ⟨rfl, hempty, hpoint, hup⟩ := name_eq_of_partOf hpart
  exact isProper_of_mem_pieces hpiece hempty hpoint hup

/-! ### Names of folders -/

theorem isProper_folderName (hd : d.WellNamed) (cwd : Place) (root : String) :
    IsProper (folderName d cwd root) := by
  have hroot : IsProper "root" := by decide
  have hgetD : ∀ name? : Option String, (∀ name ∈ name?, IsProper name) →
      IsProper (name?.getD "root") := by
    rintro (_ | name) h
    · exact hroot
    · exact h name rfl
  rw [folderName]
  refine hgetD _ fun name hname => ?_
  split at hname
  · next place hplace =>
    exact (hd.isEntryName_of_node? (node?_of_canonical hplace) name
      (List.mem_of_getLast? hname)).proper
  · exact isProper_of_fileName? hname

/-- A name after a path is one part more. -/
theorem parts_join_name (dir : String) {name : String} (hname : IsProper name) :
    parts (join dir name) = parts dir ++ [.name name] := by
  by_cases hdir : dir = ""
  · have habs := not_isAbsolute_of_isProper hname
    have hjoin : join dir name = name := by simp [join, habs, hdir]
    have hempty : parts "" = [] := by decide
    rw [hjoin, hdir, hempty, parts, pieces_of_isProper hname]
    simp [habs, hname.2.1, partOf_of_isProper hname]
  · exact parts_join hdir hname

/-- The name of a folder is a proper one, however its path is written and wherever it leads, and the
    reports about a scanned folder go to the directory of this name, directly below the one that is
    given for them. -/
theorem parts_directory (hd : d.WellNamed) (cwd : Place) :
    (∀ root, folderName d cwd root ≠ "" ∧ '/' ∉ (folderName d cwd root).toList ∧
      folderName d cwd root ≠ "." ∧ folderName d cwd root ≠ "..") ∧
    ∀ rules user s found, scanFolder rules d cwd user s = .ok found → ∀ outputRoot,
      parts (Report.directory outputRoot found.inventory) =
        parts outputRoot ++ [.name (folderName d cwd s.root)] := by
  constructor
  · intro root
    obtain ⟨hempty, hpoint, hup, hslash⟩ := isProper_folderName hd cwd root
    exact ⟨hempty, hslash, hpoint, hup⟩
  · intro rules user s found hfound outputRoot
    obtain ⟨-, collected, -, rfl⟩ := (scanFolder_eq_ok_iff rules d cwd user s found).1 hfound
    exact parts_join_name outputRoot (isProper_folderName hd cwd s.root)

/-- A folder that is given by a link to it has its own name. -/
theorem parts_directory_of_link :
    let d : Disk := { top := [("here", .link "proj"), ("proj", .dir [])] }
    let s := Settings.forRoot [] "here"
    d.WellNamed ∧ ∃ found, scanFolder .disabled d [] ⟨none, none⟩ s = .ok found ∧
      folderName d [] "here" = "proj" ∧ ∀ outputRoot,
        parts (Report.directory outputRoot found.inventory) =
          parts outputRoot ++ [.name "proj"] := by
  intro d s
  have hnames : ∀ name ∈ ["here", "proj"], IsEntryName name := by decide
  have hd : d.WellNamed := by
    refine .dir (fun child hchild => hnames child.1 (List.mem_map_of_mem hchild)) ?_
    exact List.forall_mem_cons.2 ⟨.link _, List.forall_mem_singleton.2 (.dir (by simp) (by simp))⟩
  have hplace : d.locate [] "here" = .ok ["proj"] := by
    have hlink : d.get? (([] : Place) ++ [] ++ ["here"]) = some (.link "proj") := by decide
    have hdir : d.get? (([] : Place) ++ [] ++ pieces "proj") = some .dir := by decide
    exact locate_of_link (by decide) (by decide) (by decide) hlink (by decide) (by decide) hdir
      Entry.dir_ne_link
  have hroot : d.entryOf [] "here" = .ok .dir := entryOf_eq_ok_iff.2 ⟨["proj"], hplace, by decide⟩
  have hisDir := isDir_of_entryOf hroot
  have hcheck : (Settings.forRoot [] "here").check = .ok () := by rfl
  obtain ⟨found, hfound⟩ := (exists_scanFolder_iff .disabled d [] ⟨none, none⟩ s).2
    ⟨hcheck, (exists_locate_of_isDir hisDir).1, hisDir, [], rfl⟩
  have hname : folderName d [] "here" = "proj" := by
    rw [folderName, canonical_of_locate hplace]
    rfl
  refine ⟨hd, found, hfound, hname, fun outputRoot => ?_⟩
  rw [← hname]
  exact (parts_directory hd []).2 .disabled ⟨none, none⟩ s found hfound outputRoot

end RouteInventory
