import RouteInventory.Proofs.Disk.Under
import RouteInventory.Proofs.Disk.Writing

/-!
What can be added to a directory. Under a name that the system accepts after the path of a directory
(`Fits`), a file can be written unless something else is in the way (`exists_write_join`), and a
directory can be made if nothing is (`exists_makeDirs_join`).
-/

namespace RouteInventory.Disk

open FilePath

variable {d e : Disk} {cwd place : Place} {dir path name : String} {octets : List UInt8}

/-- Whether the system accepts a name after a path. -/
structure Fits (dir name : String) : Prop where
  proper : IsProper name
  short : Text.octetCount name.toList ≤ nameLimit
  path : checkPath (join dir name) = .ok ()

theorem Admits.isDirAt (h : d.Admits (place ++ [name])) : d.isDirAt place = true := by
  obtain ⟨above, last, heq, -, hdir⟩ := h.parent
  rwa [(List.append_inj' heq rfl).1]

/-- What can be written stays so while files are written. -/
theorem Admits.of_write (h : d.Admits place) (hwrite : d.write cwd path octets = .ok e) :
    e.Admits place := by
  obtain ⟨above, name, hplace, hname, hdir⟩ := h.parent
  refine ⟨⟨above, name, hplace, hname, (grows_of_write hwrite).isDirAt hdir⟩, ?_⟩
  obtain ⟨written, hadmits, rfl, -⟩ := write_spec hwrite
  rw [hadmits.get?_put]
  split
  · exact .inr ⟨octets, rfl⟩
  · exact h.free

theorem endsAt_join (hdir : dir ≠ "") (hfits : Fits dir name)
    (hplace : d.locate cwd dir = .ok place) (hisDir : d.isDirAt place = true) :
    ∃ parent left, parent.Sound d ∧ parent.place = place ∧
      d.EndsAt linkLimit (startOf (d.spotOf cwd) (join dir name)) (join dir name) parent left
        name := by
  obtain ⟨front, ⟨parent, left⟩, hpieces, hfollow, rfl, hsound⟩ :=
    exists_follow_before hdir hfits.proper hplace
  have hentry : (d.nodeAt parent).entry = .dir := by
    rw [Disk.isDirAt, beq_iff_eq, hsound.get?_place] at hisDir
    exact Option.some.inj hisDir
  exact ⟨parent, left, hsound, rfl, ⟨front, hpieces, hfollow⟩, hentry, hfits.proper, hfits.short⟩

/-- A file can be written where nothing or a file is. -/
theorem exists_write_join (hdir : dir ≠ "") (hfits : Fits dir name)
    (hplace : d.locate cwd dir = .ok place) (hadmits : d.Admits (place ++ [name]))
    (octets : List UInt8) : ∃ e, d.write cwd (join dir name) octets = .ok e := by
  obtain ⟨parent, left, hsound, rfl, hends⟩ := endsAt_join hdir hfits hplace hadmits.isDirAt
  refine ⟨_, write_eq_ok_iff.2 ⟨hfits.path, parent.place ++ [name], ?_, rfl⟩⟩
  have hfree := hadmits.free
  rw [hsound.get?_concat] at hfree
  cases hlookup : (d.nodeAt parent).children.lookup name with
  | none => exact .new hends hlookup
  | some node =>
    cases node with
    | file octets => exact .file hends hlookup
    | dir children => simp [hlookup, Node.entry] at hfree
    | link target => simp [hlookup, Node.entry] at hfree

/-- A directory can be made where nothing is. -/
theorem makeDir_join (hdir : dir ≠ "") (hfits : Fits dir name)
    (hplace : d.locate cwd dir = .ok place) (hisDir : d.isDirAt place = true)
    (hnew : d.get? (place ++ [name]) = none) :
    d.makeDir cwd (join dir name) = .ok (d.put (place ++ [name]) .dir) := by
  obtain ⟨parent, left, hsound, rfl, hends⟩ := endsAt_join hdir hfits hplace hisDir
  obtain ⟨front, hpieces, hfollow⟩ := hends.before
  obtain ⟨hempty, hpoint, hup, -⟩ := hfits.proper
  have hlookup : (d.nodeAt parent).children.lookup name = none := by
    rw [hsound.get?_concat] at hnew
    exact Option.map_eq_none_iff.1 hnew
  rw [makeDir, hfits.path, trimmedPieces_eq hempty hpieces]
  simp only [bind, Except.bind, List.getLast?_concat, List.dropLast_concat, hfollow, hends.dir,
    hpoint, hup, Nat.not_lt.2 hfits.short, hlookup, ne_eq, not_true_eq_false, or_self, if_false,
    Option.isSome_none, Bool.false_eq_true]

/-- A directory that can be made is there afterwards, and files can be written into it. -/
theorem exists_makeDirs_join (hd : d.IsTree) (hdir : dir ≠ "") (hfits : Fits dir name)
    (hplace : d.locate cwd dir = .ok place) (hisDir : d.isDirAt place = true)
    (hnew : d.get? (place ++ [name]) = none) :
    ∃ made, d.makeDirs cwd (join dir name) = (.ok (), made) ∧
      made.locate cwd (join dir name) = .ok (place ++ [name]) ∧
      ∀ file, IsProper file → made.Admits (place ++ [name] ++ [file]) := by
  have hnot : ¬ (join dir name = "" ∨ d.isDir cwd (join dir name) = true) := by
    rintro (hempty | hthere)
    · exact join_ne_empty hdir hfits.proper hempty
    · obtain ⟨-, -, found, hfound, hisDir⟩ := exists_locate_of_isDir hthere
      obtain ⟨-, -, rfl, -⟩ := (locate_join_iff hd hdir hfits.proper hplace found).1 hfound
      rw [Disk.isDirAt, hnew] at hisDir
      cases hisDir
  have hmake : d.makeDirs cwd (join dir name) = (.ok (), d.put (place ++ [name]) .dir) := by
    rw [makeDirs, ancestors, ensureDir, if_neg hnot, makeDir_join hdir hfits hplace hisDir hnew]
  have hadmits : d.Admits (place ++ [name]) := ⟨⟨place, _, rfl, hfits.proper, hisDir⟩, .inl hnew⟩
  have hthere : (d.put (place ++ [name]) .dir).isDirAt (place ++ [name]) = true := by
    rw [Disk.isDirAt, hadmits.get?_put, if_pos rfl, beq_self_eq_true]
  have hgrows := (moreDirs_makeDirs d cwd (join dir name)).grows
  rw [hmake] at hgrows
  refine ⟨_, hmake, ?_, fun file hfile => ⟨⟨_, _, rfl, hfile, hthere⟩, .inl ?_⟩⟩
  · obtain ⟨node, hnode, -⟩ := Option.map_eq_some_iff.1 (beq_iff_eq.1 hthere)
    refine (locate_join_iff (hadmits.isTree_put hd Entry.dir_ne_link) hdir hfits.proper (hgrows.locate hplace)
      _).2 ⟨hfits.path, hfits.short, rfl, ?_⟩
    rw [hnode]
    rfl
  · rw [hadmits.get?_put, if_neg (by simp), get?_append_eq_none hnew]

end RouteInventory.Disk
