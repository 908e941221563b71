import RouteInventory.Proofs.Disk.NewEntries
import RouteInventory.Report

/-!
What comes of writing the reports. They are written one after the other (`Written`), all of them or
those before the first that cannot be (`write_cases`). Where no path leads everything stays as it
was, and a file holds its content unless a later one was written in its place (`Holds`).
-/

namespace RouteInventory

open Disk FilePath

variable {d e : Disk} {cwd : Place}

/-! ### Files written one after the other -/

/-- Whether each of some files is found under its path with its own content, unless the path of a
    later one leads to the same place. -/
def Disk.Holds (d : Disk) (cwd : Place) (files : List (String × String)) : Prop :=
  ∀ before f after, files = before ++ f :: after →
    (∀ later ∈ after, d.locate cwd later.1 ≠ d.locate cwd f.1) →
    d.entryOf cwd f.1 = .ok (.file (Text.encode f.2.toList))

/-- Files, each a path and a content, written in order. -/
inductive Disk.Written (cwd : Place) : Disk → List (String × String) → Disk → Prop
  | nil {d : Disk} : Written cwd d [] d
  | cons {d next e : Disk} {path content : String} {rest : List (String × String)} :
      d.write cwd path (Text.encode content.toList) = .ok next → Written cwd next rest e →
      Written cwd d ((path, content) :: rest) e

namespace Disk.Written

variable {files : List (String × String)}

theorem grows (h : Written cwd d files e) : Grows d e := by
  induction h with
  | nil => exact .refl _
  | cons hwrite _ ih => exact (grows_of_write hwrite).trans ih

theorem isTree (h : Written cwd d files e) (hd : d.IsTree) : e.IsTree := by
  induction h with
  | nil => exact hd
  | cons hwrite _ ih =>
    obtain ⟨place, hadmits, rfl, -⟩ := write_spec hwrite
    exact ih (hadmits.isTree_put hd (Entry.file_ne_link _))

/-- Where no path leads, everything is as it was. -/
theorem get?_of_ne (h : Written cwd d files e) {place : Place}
    (hplace : ∀ f ∈ files, e.locate cwd f.1 ≠ .ok place) : e.get? place = d.get? place := by
  induction h with
  | nil => rfl
  | cons hwrite hrest ih =>
    obtain ⟨hfirst, hothers⟩ := List.forall_mem_cons.1 hplace
    obtain ⟨written, hadmits, rfl, hlocate⟩ := write_spec hwrite
    rw [ih hothers, hadmits.get?_put, if_neg]
    rintro rfl
    exact hfirst (hrest.grows.locate hlocate)

theorem exists_locate (h : Written cwd d files e) {f : String × String} (hf : f ∈ files) :
    ∃ place, e.locate cwd f.1 = .ok place := by
  induction h with
  | nil => cases hf
  | cons hwrite hrest ih =>
    rcases List.mem_cons.1 hf with rfl | hf
    · obtain ⟨place, -, -, hlocate⟩ := write_spec hwrite
      exact ⟨place, hrest.grows.locate hlocate⟩
    · exact ih hf

/-- Each file holds its content, unless the path of a later one led to the same place. -/
theorem holds (h : Written cwd d files e) : e.Holds cwd files := by
  induction h with
  | nil =>
    intro before f after hsplit
    simp at hsplit
  | @cons d next e path content rest hwrite hrest ih =>
    intro before f after hsplit hlater
    cases before with
    | nil =>
      obtain ⟨rfl, rfl⟩ := List.cons.inj hsplit
      obtain ⟨place, hadmits, rfl, hlocate⟩ := write_spec hwrite
      have hlocate := hrest.grows.locate hlocate
      have hget : e.get? place = some (.file (Text.encode content.toList)) := by
        rw [hrest.get?_of_ne, hadmits.get?_put, if_pos rfl]
        rwa [← hlocate]
      simp [entryOf, hlocate, hget, bind, Except.bind]
    | cons first before =>
      obtain ⟨rfl, rfl⟩ := List.cons.inj hsplit
      exact ih before f after rfl hlater

end Disk.Written

/-- Paths that lead to files can be written, one after the other. -/
theorem Disk.exists_written_of_isFile {files : List (String × String)}
    (h : ∀ f ∈ files, (d.view cwd).isFile f.1 = true) : ∃ e, Written cwd d files e := by
  induction files generalizing d with
  | nil => exact ⟨d, .nil⟩
  | cons f rest ih =>
    obtain ⟨hfirst, hrest⟩ := List.forall_mem_cons.1 h
    obtain ⟨next, hwrite⟩ := exists_write_of_isFile hfirst (Text.encode f.2.toList)
    obtain ⟨e, he⟩ := ih fun g hg => (grows_of_write hwrite).isFile (hrest g hg)
    exact ⟨e, .cons hwrite he⟩

/-! ### Up to the first that cannot be written -/

namespace Report

/-- Files under their paths in a directory. -/
def filesIn (dir : String) (files : List (String × String)) : List (String × String) :=
  files.map fun f => (join dir f.1, f.2)

theorem map_fst_filesIn (dir : String) (files : List (String × String)) :
    (filesIn dir files).map (·.1) = (files.map (·.1)).map (join dir) := by
  simp [filesIn]

theorem writeFiles_cons (cwd : Place) (dir name content : String)
    (rest : List (String × String)) (d : Disk) :
    writeFiles cwd dir ((name, content) :: rest) d =
      match d.write cwd (join dir name) (Text.encode content.toList) with
      | .error cause => ⟨[], some (.file (join dir name) cause), d⟩
      | .ok next =>
        let after := writeFiles cwd dir rest next
        { after with written := join dir name :: after.written } :=
  (rfl)

/-- Files are all written, or those before one that cannot be. -/
theorem writeFiles_cases (cwd : Place) (dir : String) :
    ∀ (files : List (String × String)) (d : Disk),
    (∃ e, writeFiles cwd dir files d = ⟨(filesIn dir files).map (·.1), none, e⟩ ∧
      Written cwd d (filesIn dir files) e) ∨
    ∃ before f after e cause, files = before ++ f :: after ∧
      writeFiles cwd dir files d =
        ⟨(filesIn dir before).map (·.1), some (.file (join dir f.1) cause), e⟩ ∧
      Written cwd d (filesIn dir before) e
  | [], d => .inl ⟨d, rfl, .nil⟩
  | (name, content) :: rest, d => by
    cases hwrite : d.write cwd (join dir name) (Text.encode content.toList) with
    | error cause =>
      refine .inr ⟨[], (name, content), rest, d, cause, rfl, ?_, .nil⟩
      rw [writeFiles_cons, hwrite]
      rfl
    | ok next =>
      rcases writeFiles_cases cwd dir rest next with
        ⟨e, hrest, hwritten⟩ | ⟨before, f, after, e, cause, rfl, hrest, hwritten⟩
      · refine .inl ⟨e, ?_, .cons hwrite hwritten⟩
        simp only [writeFiles_cons, hwrite, hrest]
        rfl
      · refine .inr ⟨(name, content) :: before, f, after, e, cause, rfl, ?_, .cons hwrite hwritten⟩
        simp only [writeFiles_cons, hwrite, hrest]
        rfl

theorem writeFiles_of_written {dir : String} {files : List (String × String)}
    (h : Written cwd d (filesIn dir files) e) :
    writeFiles cwd dir files d = ⟨(filesIn dir files).map (·.1), none, e⟩ := by
  induction files generalizing d with
  | nil =>
    cases h
    rfl
  | cons f rest ih =>
    obtain ⟨name, content⟩ := f
    cases h with
    | cons hwrite hrest =>
      simp only [writeFiles_cons, hwrite, ih hrest]
      rfl

/-- Reports can be written where there is a file under each of their paths. -/
theorem error_write_of_isFile {outputRoot : String} {inv : Inventory}
    (hdir : d.isDir cwd (directory outputRoot inv) = true)
    (hfiles : ∀ name ∈ names,
      (d.view cwd).isFile (join (directory outputRoot inv) name) = true) :
    (write outputRoot inv cwd d).error = none := by
  have hall : ∀ f ∈ filesIn (directory outputRoot inv) (files inv),
      (d.view cwd).isFile f.1 = true := by
    intro f hf
    obtain ⟨g, hg, rfl⟩ := List.mem_map.1 hf
    refine hfiles g.1 ?_
    rw [← map_fst_files inv]
    exact List.mem_map_of_mem hg
  obtain ⟨e, he⟩ := exists_written_of_isFile hall
  rw [write]
  simp only [makeDirs_of_isDir (.inr hdir), writeFiles_of_written he]

theorem exists_written_join {dir : String} (hdir : dir ≠ "") {place : Place}
    {files : List (String × String)} (hplace : d.locate cwd dir = .ok place)
    (h : ∀ f ∈ files, Fits dir f.1 ∧ d.Admits (place ++ [f.1])) :
    ∃ e, Written cwd d (filesIn dir files) e := by
  induction files generalizing d with
  | nil => exact ⟨d, .nil⟩
  | cons f rest ih =>
    obtain ⟨⟨hfits, hadmits⟩, hrest⟩ := List.forall_mem_cons.1 h
    obtain ⟨next, hwrite⟩ :=
      exists_write_join hdir hfits hplace hadmits (Text.encode f.2.toList)
    obtain ⟨e, he⟩ := ih ((grows_of_write hwrite).locate hplace) fun g hg =>
      ⟨(hrest g hg).1, (hrest g hg).2.of_write hwrite⟩
    exact ⟨e, .cons hwrite he⟩

/-- The reports about a folder lie in a directory of the folder's name. -/
theorem directory_of_folderName {inv : Inventory} {name : String} (h : inv.folderName = name)
    (outputRoot : String) : directory outputRoot inv = join outputRoot name := by
  rw [directory, h]

theorem isProper_of_mem_names {name : String} (h : name ∈ names) : IsProper name := by
  have hall : ∀ name ∈ names, IsProper name := by decide
  exact hall name h

/-- The names of the reports fit after a path that leaves room for the longest of them. -/
theorem fits_of_mem_names {dir : String} (hdir : checkPath dir = .ok ())
    (hroom : Text.octetCount dir.toList + 25 < pathLimit) {name : String} (hname : name ∈ names) :
    Fits dir name := by
  have hall : ∀ name ∈ names, '\x00' ∉ name.toList ∧ Text.octetCount name.toList ≤ 25 := by decide
  obtain ⟨hnul, hshort⟩ := hall name hname
  have hproper := isProper_of_mem_names hname
  refine ⟨hproper, Nat.le_trans hshort (by decide), checkPath_join hdir hproper hnul ?_⟩
  omega

/-- The path of a report leads to the file of its name in a directory that is reached along names. -/
theorem locate_report (dir : String) (hdir : checkPath dir = .ok ())
    (hroom : Text.octetCount dir.toList + 25 < pathLimit) (hrelative : isAbsolute dir = false)
    (hpieces : ∀ piece ∈ pieces dir, IsProper piece ∧ Text.octetCount piece.toList ≤ nameLimit)
    {name : String} (hname : name ∈ names) {octets : List UInt8}
    (h : d.get? (cwd ++ (pieces dir ++ [name])) = some (.file octets)) :
    d.locate cwd (join dir name) = .ok (cwd ++ (pieces dir ++ [name])) := by
  have hfits := fits_of_mem_names hdir hroom hname
  have hne : dir ≠ "" := (checkPath_eq_ok_iff.1 hdir).2.1
  have hjoin : pieces (join dir name) = pieces dir ++ [name] := by
    refine pieces_join hne hfits.proper fun hlast => ?_
    exact (hpieces _ (List.mem_of_getLast? hlast)).1.1 rfl
  have hproper : ∀ piece ∈ pieces dir ++ [name],
      IsProper piece ∧ Text.octetCount piece.toList ≤ nameLimit :=
    List.forall_mem_append.2 ⟨hpieces, List.forall_mem_singleton.2 ⟨hfits.proper, hfits.short⟩⟩
  rw [← hjoin] at h hproper ⊢
  exact locate_of_get? hfits.path ((isAbsolute_join hne hfits.proper).trans hrelative) hproper h
    (Entry.file_ne_link _)

/-- Reports can be written into a directory that is not there yet, but that can be made. -/
theorem error_write_of_new (hd : d.IsTree) {outputRoot : String} (hroot : outputRoot ≠ "")
    {place : Place} (hplace : d.locate cwd outputRoot = .ok place) (hisDir : d.isDirAt place = true)
    {inv : Inventory} (hfolder : Fits outputRoot inv.folderName)
    (hnew : d.get? (place ++ [inv.folderName]) = none)
    (hroom : Text.octetCount (directory outputRoot inv).toList + 25 < pathLimit) :
    (write outputRoot inv cwd d).error = none := by
  obtain ⟨made, hmake, hlocate, hadmits⟩ := exists_makeDirs_join hd hroot hfolder hplace hisDir hnew
  obtain ⟨e, he⟩ := exists_written_join (join_ne_empty hroot hfolder.proper) hlocate
    fun f (hf : f ∈ files inv) =>
      have hfits := fits_of_mem_names hfolder.path hroom (map_fst_files inv ▸ List.mem_map_of_mem hf)
      ⟨hfits, hadmits f.1 hfits.proper⟩
  rw [write]
  simp only [directory, hmake, writeFiles_of_written he]

/-- What comes of writing the reports. -/
theorem write_cases (outputRoot : String) (inv : Inventory) (cwd : Place) (d : Disk) :
    let dir := directory outputRoot inv
    ∃ made, MoreDirs d made ∧ (d.IsTree → made.IsTree) ∧
      ((∃ cause, write outputRoot inv cwd d = ⟨[], some (.directory dir cause), made⟩) ∨
        write outputRoot inv cwd d = writeFiles cwd dir (files inv) made) := by
  intro dir
  refine ⟨(d.makeDirs cwd dir).2, moreDirs_makeDirs d cwd dir,
    fun hd => isTree_makeDirs hd cwd dir, ?_⟩
  rw [write]
  cases d.makeDirs cwd dir with
  | mk result made =>
    cases result with
    | error cause => exact .inl ⟨cause, rfl⟩
    | ok => exact .inr rfl

/-- A disk onto which all reports were written. -/
theorem exists_written_of_write (h : (write outputRoot inv cwd d).error = none) :
    ∃ made e, MoreDirs d made ∧ (d.IsTree → made.IsTree) ∧
      Written cwd made (filesIn (directory outputRoot inv) (files inv)) e ∧
      write outputRoot inv cwd d = ⟨names.map (join (directory outputRoot inv)), none, e⟩ := by
  obtain ⟨made, hmore, htree, ⟨cause, hout⟩ | hout⟩ := write_cases outputRoot inv cwd d
  · rw [hout] at h
    cases h
  · rcases writeFiles_cases cwd (directory outputRoot inv) (files inv) made with
      ⟨e, hfiles, hwritten⟩ | ⟨before, f, after, e, cause, -, hfiles, -⟩
    · refine ⟨made, e, hmore, htree, hwritten, ?_⟩
      rw [hout, hfiles, map_fst_filesIn, map_fst_files]
    · rw [hout, hfiles] at h
      cases h

/-- The reports that were written hold their contents. -/
theorem holds_of_write {outputRoot : String} {inv : Inventory}
    (h : (write outputRoot inv cwd d).error = none) :
    (write outputRoot inv cwd d).disk.Holds cwd
      (filesIn (directory outputRoot inv) (files inv)) := by
  obtain ⟨made, e, -, -, hwritten, hout⟩ := exists_written_of_write h
  rw [hout]
  exact hwritten.holds

theorem grows_write (outputRoot : String) (inv : Inventory) (cwd : Place) (d : Disk) :
    Grows d (write outputRoot inv cwd d).disk := by
  obtain ⟨made, hmore, -, ⟨cause, hout⟩ | hout⟩ := write_cases outputRoot inv cwd d
  · rw [hout]
    exact hmore.grows
  · rcases writeFiles_cases cwd (directory outputRoot inv) (files inv) made with
      ⟨e, hfiles, hwritten⟩ | ⟨before, f, after, e, cause, -, hfiles, hwritten⟩ <;>
    · rw [hout, hfiles]
      exact hmore.grows.trans hwritten.grows

end Report

end RouteInventory
