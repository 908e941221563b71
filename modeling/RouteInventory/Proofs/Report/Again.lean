import RouteInventory.Collect
import RouteInventory.Proofs.Disk.Extension
import RouteInventory.Proofs.Report.Frame
import Mathlib.Data.List.Infix

/-!
Writing the reports onto a disk without links, as seen by whoever reads the disk next. Nothing but
directories and files with the names of reports is added or changed (`extends_write`), no report can
be taken for a source file (`isSource_eq_false`), and writing the reports again changes nothing
(`write_write`).
-/

namespace RouteInventory.Report

open Disk FilePath

variable {d e : Disk} {cwd : Place} {dir outputRoot : String} {inv : Inventory}

/-- A place that bears no report's name is as it was. -/
theorem get?_of_written (he : e.IsTree) {part : List (String × String)} (hpart : part <+: files inv)
    (h : Written cwd d (filesIn dir part) e) {place : Place} {name : String}
    (hname : name ∉ names) : e.get? (place ++ [name]) = d.get? (place ++ [name]) := by
  refine h.get?_of_ne fun f hf hplace => hname ?_
  obtain ⟨report, hreport, rfl⟩ := List.mem_map.1 hf
  have hmem : report.1 ∈ names := by
    rw [← map_fst_files inv]
    exact List.mem_map_of_mem (hpart.subset hreport)
  obtain ⟨above, habove⟩ := exists_above_of_locate_join he (isProper_of_mem_names hmem) hplace
  rwa [(List.cons.inj (List.append_inj' habove rfl).2).1]

/-- Writing reports adds files with their names, and directories. -/
theorem extends_write (hd : d.IsTree) (outputRoot : String) (inv : Inventory) (cwd : Place) :
    Extends names d (write outputRoot inv cwd d).disk where
  before := hd
  after := isTree_write hd outputRoot inv cwd
  grows := grows_write outputRoot inv cwd d
  same := by
    intro place name hname octets
    obtain ⟨made, hmore, htree, ⟨cause, hout⟩ | hout⟩ := write_cases outputRoot inv cwd d
    · rw [hout, hmore.file_iff]
    · rcases writeFiles_cases cwd (directory outputRoot inv) (files inv) made with
        ⟨e, hfiles, hwritten⟩ | ⟨before, f, after, e, cause, hsplit, hfiles, hwritten⟩
      · rw [hout, hfiles, get?_of_written (hwritten.isTree (htree hd)) (List.prefix_refl _) hwritten
          hname, hmore.file_iff]
      · rw [hout, hfiles, get?_of_written (hwritten.isTree (htree hd)) ⟨f :: after, hsplit.symm⟩
          hwritten hname, hmore.file_iff]

/-- Once all reports are written, each holds its content. -/
theorem entryOf_write (hd : d.IsTree) (h : (write outputRoot inv cwd d).error = none) :
    ∀ f ∈ files inv, (write outputRoot inv cwd d).disk.entryOf cwd
      (join (directory outputRoot inv) f.1) = .ok (.file (Text.encode f.2.toList)) := by
  obtain ⟨made, e, -, htree, hwritten, hout⟩ := exists_written_of_write h
  rw [hout]
  exact entryOf_of_written (hwritten.isTree (htree hd)) (List.prefix_refl _) hwritten

/-- Once all reports are written, writing them again changes nothing. -/
theorem write_write (hd : d.IsTree) (h : (write outputRoot inv cwd d).error = none) :
    write outputRoot inv cwd (write outputRoot inv cwd d).disk = write outputRoot inv cwd d := by
  have hholds := entryOf_write hd h
  obtain ⟨made, e, -, htree, hwritten, hout⟩ := exists_written_of_write h
  rw [hout] at hholds ⊢
  exact write_eq_self (hwritten.isTree (htree hd)) hholds

/-- Once all reports are written, their directory is there. -/
theorem exists_directory_of_write (hd : d.IsTree) (hdir : directory outputRoot inv ≠ "")
    (h : (write outputRoot inv cwd d).error = none) :
    ∃ place, (write outputRoot inv cwd d).disk.locate cwd (directory outputRoot inv) = .ok place ∧
      (write outputRoot inv cwd d).disk.isDirAt place = true := by
  have htree := isTree_write hd outputRoot inv cwd
  obtain ⟨made, e, -, -, hwritten, hout⟩ := exists_written_of_write h
  rw [hout] at htree ⊢
  have hmem : (join (directory outputRoot inv) "routes.json", arrayOf ofRoute inv.combinations) ∈
      filesIn (directory outputRoot inv) (files inv) := List.mem_cons_self
  obtain ⟨place, hplace⟩ := hwritten.exists_locate hmem
  obtain ⟨above, habove, hisDir, -⟩ :=
    locate_join htree hdir (isProper_of_mem_names List.mem_cons_self) hplace
  exact ⟨above, habove, hisDir⟩

/-! ### Reports are no sources -/

/-- What begins with a point and ends the name of a report is one of three extensions; nothing of
    the kind ends the name of the standard input. -/
theorem mem_of_suffix {name : String} (hname : name ∈ "<stdin>" :: names) {ext : String}
    (hpoint : ext.toList.head? = some '.') (hend : ext.toList <:+ name.toList) :
    ext ∈ [".json", ".txt", ".csv"] := by
  have hall : ∀ name ∈ "<stdin>" :: names, ∀ tail ∈ name.toList.tails, tail.head? = some '.' →
      String.ofList tail ∈ [".json", ".txt", ".csv"] := by decide
  have htail := hall name hname ext.toList ((List.mem_tails _ _).2 hend) hpoint
  rwa [String.ofList_toList] at htail

/-- A report is no source unless its extension is asked for. -/
theorem isSource_eq_false {sel : Selection}
    (hpoint : ∀ ext ∈ sel.extensions, ext.toList.head? = some '.')
    (hext : ∀ ext ∈ [".json", ".txt", ".csv"], ext ∉ sel.extensions) {name : String}
    (hname : name ∈ "<stdin>" :: names) : sel.isSource name = false := by
  rw [Selection.isSource, List.any_eq_false]
  intro ext hmem hend
  have hsuffix : ext.toList <:+ name.toList := by simpa [Selection.endsIn] using hend
  exact hext ext (mem_of_suffix hname (hpoint ext hmem) hsuffix) hmem

end RouteInventory.Report
