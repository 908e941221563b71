import RouteInventory.Proofs.Report.Written

/-!
The frame of report writing on a disk without links. No report can take the place of another there,
so that exactly those that are written hold their contents, and every other regular file is as it
was (`write_frame`).
-/

namespace RouteInventory

open Disk FilePath

variable {d e : Disk} {cwd : Place}

/-! ### Places of reports -/

namespace Report

theorem nodup_names : names.Nodup := by decide

/-- Reports with different names lie in different places. -/
theorem name_eq_of_locate_eq (hd : d.IsTree) {dir a b : String} (ha : a ∈ names) (hb : b ∈ names)
    {place : Place} (hplace : d.locate cwd (join dir a) = .ok place)
    (hsame : d.locate cwd (join dir b) = .ok place) : a = b := by
  obtain ⟨above, rfl⟩ := exists_above_of_locate_join hd (isProper_of_mem_names ha) hplace
  obtain ⟨other, hother⟩ := exists_above_of_locate_join hd (isProper_of_mem_names hb) hsame
  exact (List.cons.inj (List.append_inj' hother rfl).2).1

/-- The reports hold their own contents after they were written. -/
theorem entryOf_of_written (he : e.IsTree) {dir : String} {inv : Inventory}
    {part : List (String × String)} (hpart : part <+: files inv)
    (h : Written cwd d (filesIn dir part) e) : ∀ f ∈ part,
    e.entryOf cwd (join dir f.1) = .ok (.file (Text.encode f.2.toList)) := by
  have hname : ∀ f ∈ part, f.1 ∈ names := by
    intro f hf
    rw [← map_fst_files inv]
    exact List.mem_map_of_mem (hpart.subset hf)
  have hnodup : (part.map (·.1)).Nodup := by
    have hall := nodup_names
    rw [← map_fst_files inv] at hall
    exact hall.sublist (hpart.map (·.1)).sublist
  intro f hf
  obtain ⟨before, after, rfl⟩ := List.append_of_mem hf
  refine h.holds (filesIn dir before) (join dir f.1, f.2) (filesIn dir after) (by simp [filesIn]) ?_
  -- a later file has another name, and so another place
  rintro other hother hsame
  obtain ⟨later, hlater, rfl⟩ := List.mem_map.1 hother
  have hmem : later ∈ before ++ f :: after := by simp [hlater]
  have hin : (join dir f.1, f.2) ∈ filesIn dir (before ++ f :: after) := List.mem_map_of_mem hf
  obtain ⟨place, hplace⟩ := h.exists_locate hin
  have heq := name_eq_of_locate_eq he (hname later hmem) (hname f hf) (hsame.trans hplace) hplace
  rw [List.map_append, List.map_cons] at hnodup
  have hnot := (List.nodup_cons.1 (List.nodup_append.1 hnodup).2.1).1
  exact hnot (heq ▸ List.mem_map_of_mem hlater)

/-! ### The frame -/

/-- Whether exactly the first `k` reports on an inventory were written. -/
structure WroteFirst (k : Nat) (outputRoot : String) (inv : Inventory) (cwd : Place)
    (before : Disk) (out : ReportOutcome) : Prop where
  /-- Their paths are given back, in order. -/
  written : out.written = (names.take k).map (join (directory outputRoot inv))
  /-- Each of them holds its own content. -/
  holds : ∀ f ∈ (files inv).take k,
    out.disk.entryOf cwd (join (directory outputRoot inv) f.1) =
      .ok (.file (Text.encode f.2.toList))
  /-- None of the others lies where one of them does. -/
  apart : ∀ name ∈ names.drop k, ∀ path ∈ out.written, ∀ place,
    out.disk.locate cwd path = .ok place →
    out.disk.locate cwd (join (directory outputRoot inv) name) ≠ .ok place
  /-- Every other regular file is as it was. -/
  others : ∀ place octets, (∀ path ∈ out.written, out.disk.locate cwd path ≠ .ok place) →
    (out.disk.get? place = some (.file octets) ↔ before.get? place = some (.file octets))

theorem wroteFirst_of_written {made : Disk} (hmore : MoreDirs d made) (he : e.IsTree)
    {outputRoot : String} {inv : Inventory} {before after : List (String × String)}
    (hsplit : files inv = before ++ after)
    (h : Written cwd made (filesIn (directory outputRoot inv) before) e)
    (error : Option ReportError) : WroteFirst before.length outputRoot inv cwd d
      ⟨(filesIn (directory outputRoot inv) before).map (·.1), error, e⟩ := by
  have htake : (files inv).take before.length = before := by rw [hsplit, List.take_left]
  have hnames : names.take before.length = before.map (·.1) := by
    rw [← map_fst_files inv, ← List.map_take, htake]
  have hdrop : ∀ name ∈ names.drop before.length, name ∉ before.map (·.1) := by
    intro name hname hmem
    rw [← hnames] at hmem
    exact List.disjoint_take_drop nodup_names (Nat.le_refl _) hmem hname
  refine ⟨?_, ?_, ?_, ?_⟩
  · rw [hnames, map_fst_filesIn]
  · rw [htake]
    exact entryOf_of_written he ⟨after, hsplit.symm⟩ h
  · intro name hname path hpath place hplace hsame
    rw [map_fst_filesIn] at hpath
    obtain ⟨other, hother, rfl⟩ := List.mem_map.1 hpath
    refine hdrop name hname ?_
    have hmem : other ∈ names := List.mem_of_mem_take (hnames ▸ hother)
    rwa [name_eq_of_locate_eq he (List.mem_of_mem_drop hname) hmem hsame hplace]
  · intro place octets hplace
    rw [h.get?_of_ne fun f hf => hplace f.1 (List.mem_map_of_mem hf), hmore.file_iff]

/-! ### Writing once more -/

theorem writeFiles_eq_self (hd : d.IsTree) (dir : String) : ∀ {files : List (String × String)},
    (∀ f ∈ files, d.entryOf cwd (join dir f.1) = .ok (.file (Text.encode f.2.toList))) →
    writeFiles cwd dir files d = ⟨(filesIn dir files).map (·.1), none, d⟩
  | [], _ => rfl
  | (name, content) :: rest, h => by
    obtain ⟨hfile, hrest⟩ := List.forall_mem_cons.1 h
    have ih := writeFiles_eq_self hd dir hrest
    simp only [writeFiles_cons, Disk.write_eq_self hd hfile, ih]
    rfl

/-- Where the reports hold their contents, writing them changes nothing. -/
theorem write_eq_self (hd : d.IsTree) {outputRoot : String} {inv : Inventory}
    (h : ∀ f ∈ files inv, d.entryOf cwd (join (directory outputRoot inv) f.1) =
      .ok (.file (Text.encode f.2.toList))) :
    write outputRoot inv cwd d = ⟨names.map (join (directory outputRoot inv)), none, d⟩ := by
  have hdir : directory outputRoot inv = "" ∨ d.isDir cwd (directory outputRoot inv) = true := by
    rw [or_iff_not_imp_left]
    intro hne
    obtain ⟨place, hplace, -⟩ := exists_locate_of_entryOf (h _ List.mem_cons_self)
    obtain ⟨above, habove, hisDir, -⟩ := locate_join hd hne
      (isProper_of_mem_names List.mem_cons_self) hplace
    rw [isDirAt, beq_iff_eq] at hisDir
    simp [isDir, entryOf, habove, hisDir, bind, Except.bind]
  rw [write]
  simp only [makeDirs_of_isDir hdir]
  rw [writeFiles_eq_self hd _ h, map_fst_filesIn, map_fst_files]

theorem isTree_write (hd : d.IsTree) (outputRoot : String) (inv : Inventory) (cwd : Place) :
    (write outputRoot inv cwd d).disk.IsTree := by
  obtain ⟨made, -, htree, ⟨cause, hout⟩ | hout⟩ := write_cases outputRoot inv cwd d
  · rw [hout]
    exact htree hd
  · rcases writeFiles_cases cwd (directory outputRoot inv) (files inv) made with
      ⟨e, hfiles, hwritten⟩ | ⟨before, f, after, e, cause, -, hfiles, hwritten⟩ <;>
    · rw [hout, hfiles]
      exact hwritten.isTree (htree hd)

end Report

end RouteInventory
