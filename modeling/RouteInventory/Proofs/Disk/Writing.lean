import RouteInventory.Proofs.Disk.Targets
import Mathlib.Tactic.SplitIfs

/-!
What writing files and making directories does to a disk. A file that is written changes nothing
elsewhere and is found under its path (`write_spec`); a path that leads to a file can always be
written (`exists_write_of_isFile`). Making directories adds directories and changes nothing else
(`MoreDirs`).
-/

namespace RouteInventory.Disk

open FilePath

variable {d e : Disk} {cwd place : Place} {path : String} {octets : List UInt8}

/-! ### Where something is put -/

namespace Admits

theorem get?_put (h : d.Admits place) (entry : Entry) (other : Place) :
    (d.put place entry).get? other = if other = place then some entry else d.get? other := by
  obtain ⟨⟨above, name, rfl, -, hdir⟩, hfree⟩ := h
  refine Disk.get?_put d name hdir ?_ other entry
  rcases hfree with hfree | ⟨octets, hfree⟩ <;> rw [isDirAt, hfree] <;> rfl

theorem grows_put (h : d.Admits place) (octets : List UInt8) :
    Grows d (d.put place (.file octets)) where
  dir {other} hdir := by
    rw [h.get?_put, if_neg, hdir]
    rintro rfl
    rcases h.free with hfree | ⟨old, hfree⟩ <;> rw [hdir] at hfree <;> cases hfree
  link {other target} hlink := by
    rw [h.get?_put, if_neg, hlink]
    rintro rfl
    rcases h.free with hfree | ⟨old, hfree⟩ <;> rw [hlink] at hfree <;> cases hfree
  file {other old} hfile := by
    rw [h.get?_put]
    split
    · exact ⟨octets, rfl⟩
    · exact ⟨old, hfile⟩
  faults := rfl

theorem isTree_put (h : d.Admits place) (hd : d.IsTree) {entry : Entry}
    (hentry : ∀ target, entry ≠ .link target) : (d.put place entry).IsTree := by
  obtain ⟨above, name, rfl, hname, hdir⟩ := h.parent
  refine hd.put (by simp) (List.forall_mem_append.2 ⟨?_, by simpa using hname⟩) hentry
  obtain ⟨node, hnode, -⟩ := Option.map_eq_some_iff.1 (beq_iff_eq.1 hdir)
  exact hd.isProper_of_node? hnode

end Admits

/-! ### Writing a file -/

theorem write_eq_ok_iff :
    d.write cwd path octets = .ok e ↔ checkPath path = .ok () ∧
      ∃ place, Target d linkLimit (startOf (d.spotOf cwd) path) path place ∧
        e = d.put place (.file octets) := by
  simp only [← target_eq_ok_iff]
  rw [write]
  cases checkPath path <;> cases d.target linkLimit (startOf (d.spotOf cwd) path) path <;>
    simp [bind, Except.bind, pure, Except.pure, eq_comm]

/-- A file is written at one place, to which its path leads from then on. -/
theorem write_spec (h : d.write cwd path octets = .ok e) :
    ∃ place, d.Admits place ∧ e = d.put place (.file octets) ∧ e.locate cwd path = .ok place := by
  obtain ⟨hcheck, place, htarget, rfl⟩ := write_eq_ok_iff.1 h
  have hdir := htarget.entry_start
  have hadmits := htarget.admits (sound_startOf hdir)
  have hgrows := hadmits.grows_put octets
  obtain ⟨now, hnow, hplace⟩ := htarget.follow hgrows
    (by rw [hadmits.get?_put, if_pos rfl]) (hgrows.twins_startOf hdir)
  exact ⟨place, hadmits, rfl, locate_eq_ok_iff.2 ⟨hcheck, now, hnow, hplace⟩⟩

theorem grows_of_write (h : d.write cwd path octets = .ok e) : Grows d e := by
  obtain ⟨place, hadmits, rfl, -⟩ := write_spec h
  exact hadmits.grows_put octets

/-- A path that leads to a file can be written. -/
theorem exists_write_of_isFile (h : (d.view cwd).isFile path = true) (octets : List UInt8) :
    ∃ e, d.write cwd path octets = .ok e := by
  obtain ⟨old, hold⟩ := exists_file_of_isFile h
  obtain ⟨place, hplace, hfile⟩ := exists_locate_of_entryOf hold
  obtain ⟨hcheck, found, hfollow, rfl⟩ := locate_eq_ok_iff.1 hplace
  have hsound := sound_startOf (entry_eq_dir_of_follow (pieces_ne_nil path) hfollow)
  rw [(hsound.follow hfollow).get?_place] at hfile
  have hnode : d.nodeAt found.1 = .file old := by
    cases hnode : d.nodeAt found.1 <;> simp_all [Node.entry]
  exact ⟨_, write_eq_ok_iff.2 ⟨hcheck, _, .of_follow hsound hfollow hnode, rfl⟩⟩

theorem Grows.isFile (h : Grows d e) (hfile : (d.view cwd).isFile path = true) :
    (e.view cwd).isFile path = true := by
  obtain ⟨octets, hoctets⟩ := exists_file_of_isFile hfile
  obtain ⟨place, hplace, hget⟩ := exists_locate_of_entryOf hoctets
  obtain ⟨now, hnow⟩ := h.file hget
  have hentry : e.entryOf cwd path = .ok (.file now) := by
    simp [entryOf, h.locate hplace, hnow, bind, Except.bind]
  exact isFile_of_entryOf hentry

/-- On a disk without links, writing what a file holds changes nothing. -/
theorem write_eq_self (hd : d.IsTree) (h : d.entryOf cwd path = .ok (.file octets)) :
    d.write cwd path octets = .ok d := by
  obtain ⟨place, hplace, hfile⟩ := exists_locate_of_entryOf h
  obtain ⟨e, he⟩ := exists_write_of_isFile (isFile_of_entryOf h) octets
  obtain ⟨written, -, rfl, hlocate⟩ := write_spec he
  have hsame := (grows_of_write he).locate hplace
  rw [hlocate] at hsame
  obtain rfl := Except.ok.inj hsame
  rw [he, hd.put_eq_self hfile]

/-! ### Making directories -/

/-- Whether a disk is another one with more directories. -/
structure MoreDirs (d e : Disk) : Prop where
  get? : ∀ place, e.get? place = d.get? place ∨ d.get? place = none ∧ e.get? place = some .dir
  faults : e.faults = d.faults

namespace MoreDirs

theorem refl (d : Disk) : MoreDirs d d := ⟨fun _ => .inl rfl, rfl⟩

theorem trans {f : Disk} (hde : MoreDirs d e) (hef : MoreDirs e f) : MoreDirs d f := by
  refine ⟨fun place => ?_, hef.faults.trans hde.faults⟩
  rcases hef.get? place with hf | ⟨hnone, hf⟩ <;> rcases hde.get? place with he | ⟨hd, he⟩
  · exact .inl (hf.trans he)
  · exact .inr ⟨hd, hf.trans he⟩
  · exact .inr ⟨he ▸ hnone, hf⟩
  · rw [hnone] at he
    cases he

theorem get?_of_some (h : MoreDirs d e) {entry : Entry} (hentry : d.get? place = some entry) :
    e.get? place = some entry := by
  rcases h.get? place with hsame | ⟨hnone, -⟩
  · exact hsame.trans hentry
  · rw [hnone] at hentry
    cases hentry

theorem grows (h : MoreDirs d e) : Grows d e where
  dir := h.get?_of_some
  link := h.get?_of_some
  file hfile := ⟨_, h.get?_of_some hfile⟩
  faults := h.faults

theorem file_iff (h : MoreDirs d e) (place : Place) (octets : List UInt8) :
    e.get? place = some (.file octets) ↔ d.get? place = some (.file octets) := by
  rcases h.get? place with hsame | ⟨hnone, hdir⟩
  · rw [hsame]
  · simp [hnone, hdir]

end MoreDirs

theorem mem_pieces_of_trimmedPieces {front : List String} {last : String}
    (h : trimmedPieces path = front ++ [last]) : last ∈ pieces path ∧ last ≠ "" := by
  have hreverse : (pieces path).reverse.dropWhile (· = "") = last :: front.reverse := by
    rw [← List.reverse_inj, ← trimmedPieces, h]
    simp
  have hmem : last ∈ (pieces path).reverse.dropWhile (· = "") := by simp [hreverse]
  refine ⟨by simpa using (List.dropWhile_sublist _).subset hmem, fun hempty => ?_⟩
  have hhead := List.head?_dropWhile_not (· = "") (pieces path).reverse
  rw [hreverse] at hhead
  simp [hempty] at hhead

/-- One directory is made where nothing was. -/
theorem makeDir_spec (h : d.makeDir cwd path = .ok e) :
    ∃ place, d.Admits place ∧ d.get? place = none ∧ e = d.put place .dir := by
  rw [makeDir] at h
  cases hcheck : checkPath path with
  | error cause => simp [hcheck, bind, Except.bind] at h
  | ok =>
    simp only [hcheck, bind, Except.bind] at h
    cases hlast : (trimmedPieces path).getLast? with
    | none => simp [hlast] at h
    | some last =>
      simp only [hlast] at h
      cases hfollow : d.follow linkLimit (startOf (d.spotOf cwd) path)
          (trimmedPieces path).dropLast with
      | error cause => simp [hfollow] at h
      | ok found =>
        obtain ⟨parent, left⟩ := found
        simp only [hfollow] at h
        split_ifs at h with hdir hpoint hlong hthere
        obtain ⟨front, hfront⟩ := List.getLast?_eq_some_iff.1 hlast
        obtain ⟨hmem, hempty⟩ := mem_pieces_of_trimmedPieces hfront
        obtain ⟨hpoint, hup⟩ := not_or.1 hpoint
        have hdir := not_not.1 hdir
        have hparent := (sound_startOf (entry_start_of_follow hfollow hdir)).follow hfollow
        have hnone : d.get? (parent.place ++ [last]) = none := by
          rw [hparent.get?_concat, Option.not_isSome_iff_eq_none.1 hthere, Option.map_none]
        refine ⟨_, ⟨⟨_, _, rfl, isProper_of_mem_pieces hmem hempty hpoint hup, ?_⟩, .inl hnone⟩,
          hnone, (Except.ok.inj h).symm⟩
        exact hparent.isDirAt hdir

/-- What making one directory preserves is preserved when directories are made. -/
theorem ensureDir_preserves {P : Disk → Prop}
    (hstep : ∀ {d e path}, P d → d.makeDir cwd path = .ok e → P e) :
    ∀ (paths : List String) {d : Disk}, P d → P (ensureDir cwd paths d).2
  | [], d, hd => hd
  | path :: parents, d, hd => by
    have ih := ensureDir_preserves hstep parents hd
    rw [ensureDir]
    split
    · exact hd
    split
    · next made hmade => exact hstep hd hmade
    · split
      · next hparents =>
        rw [hparents] at ih
        exact ih
      · next above hparents =>
        rw [hparents] at ih
        split
        · next made hmade => exact hstep ih hmade
        · exact ih
    · exact hd

/-- Making directories adds directories to a disk. -/
theorem moreDirs_makeDirs (d : Disk) (cwd : Place) (path : String) :
    MoreDirs d (d.makeDirs cwd path).2 := by
  refine ensureDir_preserves (P := MoreDirs d) (fun hd hmake => hd.trans ?_) _ (.refl d)
  obtain ⟨place, hadmits, hnone, rfl⟩ := makeDir_spec hmake
  refine ⟨fun other => ?_, rfl⟩
  rw [hadmits.get?_put]
  split
  · next hother => exact .inr ⟨hother ▸ hnone, rfl⟩
  · exact .inl rfl

theorem isTree_makeDirs (hd : d.IsTree) (cwd : Place) (path : String) :
    (d.makeDirs cwd path).2.IsTree := by
  refine ensureDir_preserves (P := IsTree) (fun hd hmake => ?_) _ hd
  obtain ⟨place, hadmits, -, rfl⟩ := makeDir_spec hmake
  exact hadmits.isTree_put hd Entry.dir_ne_link

/-- A directory that is there need not be made. -/
theorem makeDirs_of_isDir (h : path = "" ∨ d.isDir cwd path = true) :
    d.makeDirs cwd path = (.ok (), d) := by
  rw [makeDirs, ancestors, ensureDir, if_pos h]

end RouteInventory.Disk
