import RouteInventory.Proofs.Disk.Following
import RouteInventory.Proofs.Text.Octets
import Mathlib.Data.List.Induction

/-!
Where paths lead. A path that goes on by a name leads to the entry of that name in the directory to
which the path before leads (`locate_join`). What a view calls a file or a directory is located.
-/

namespace RouteInventory.Disk

variable {d : Disk} {links : Nat} {spot : Spot} {cwd : Place}

/-! ### Locating -/

theorem checkPath_eq_ok_iff {path : String} :
    checkPath path = .ok () ↔
      '\x00' ∉ path.toList ∧ path ≠ "" ∧ Text.octetCount path.toList ≤ pathLimit := by
  by_cases hnul : '\x00' ∈ path.toList
  · simp [checkPath, checkText, bind, Except.bind, hnul]
  by_cases hempty : path = ""
  · simp [checkPath, checkText, bind, Except.bind, hempty]
  by_cases hlong : pathLimit < Text.octetCount path.toList <;>
    simp [checkPath, checkText, bind, Except.bind, hnul, hempty, hlong, pure, Except.pure, throw,
      throwThe, MonadExceptOf.throw, Nat.le_of_not_lt]

/-- The directory from which a path leads to something is there. -/
theorem sound_spotOf (h : (d.nodeAt (d.spotOf cwd)).entry = .dir) : (d.spotOf cwd).Sound d := by
  induction cwd using List.reverseRecOn with
  | nil => exact .root
  | append_singleton above name ih =>
    have hspot : d.spotOf (above ++ [name]) =
        (name, ((d.nodeAt (d.spotOf above)).children.lookup name).getD (.file [])) ::
          d.spotOf above := by
      rw [spotOf, List.foldl_concat, ← spotOf]
    rw [hspot] at h ⊢
    cases hlookup : (d.nodeAt (d.spotOf above)).children.lookup name with
    | none => rw [hlookup] at h; cases h
    | some node => exact .entry (ih (Node.entry_eq_dir_of_lookup hlookup)) hlookup

/-- Where a path starts that leads to something. -/
theorem sound_startOf {path : String}
    (h : (d.nodeAt (startOf (d.spotOf cwd) path)).entry = .dir) :
    (startOf (d.spotOf cwd) path).Sound d := by
  unfold startOf at h ⊢
  split
  · exact .root
  · next hrel =>
    rw [if_neg hrel] at h
    exact sound_spotOf h

/-- A path that leads to a place passes for a path, and its pieces lead there. -/
theorem locate_eq_ok_iff {path : String} {place : Place} :
    d.locate cwd path = .ok place ↔ checkPath path = .ok () ∧ ∃ found,
      d.follow linkLimit (startOf (d.spotOf cwd) path) (FilePath.pieces path) = .ok found ∧
      found.1.place = place := by
  rw [locate]
  cases hcheck : checkPath path with
  | error cause => simp [bind, Except.bind]
  | ok =>
    have htext : checkText path = .ok () := by
      cases htext : checkText path with
      | error cause => simp [checkPath, htext, bind, Except.bind] at hcheck
      | ok => rfl
    cases hfollow : d.follow linkLimit (startOf (d.spotOf cwd) path) (FilePath.pieces path) <;>
      simp [canonical, htext, hfollow, bind, Except.bind, pure, Except.pure]

theorem ne_empty_of_locate {path : String} {place : Place} (h : d.locate cwd path = .ok place) :
    path ≠ "" :=
  (checkPath_eq_ok_iff.1 (locate_eq_ok_iff.1 h).1).2.1

/-- What is located is there. -/
theorem node?_of_locate {path : String} {place : Place} (h : d.locate cwd path = .ok place) :
    (d.node? place).isSome := by
  obtain ⟨-, found, hfollow, rfl⟩ := locate_eq_ok_iff.1 h
  rw [((sound_startOf (entry_eq_dir_of_follow (FilePath.pieces_ne_nil path) hfollow)).follow
    hfollow).node?_place]
  rfl

theorem checkPath_of_join {dir name : String} (hdir : dir ≠ "") (hname : FilePath.IsProper name)
    (h : checkPath (FilePath.join dir name) = .ok ()) : checkPath dir = .ok () := by
  obtain ⟨front, hjoin, hfront⟩ := FilePath.exists_toList_join hdir hname
  obtain ⟨hnul, -, hlong⟩ := checkPath_eq_ok_iff.1 h
  rw [hjoin] at hnul hlong
  rw [Text.octetCount_append, Text.octetCount] at hlong
  have hslash : Char.utf8Size '/' = 1 := rfl
  refine checkPath_eq_ok_iff.2 ⟨fun hmem => hnul ?_, hdir, ?_⟩
  · rcases hfront with hfront | hfront <;> rw [hfront] at hmem
    · exact List.mem_append_left _ hmem
    · rcases List.mem_append.1 hmem with hmem | hmem
      · exact List.mem_append_left _ hmem
      · simp at hmem
  · rcases hfront with hfront | hfront <;> rw [hfront]
    · omega
    · rw [Text.octetCount_append]
      simp only [Text.octetCount]
      omega

/-- The system accepts a name after a path if there is room for it. -/
theorem checkPath_join {dir name : String} (hdir : checkPath dir = .ok ())
    (hname : FilePath.IsProper name) (hnul : '\x00' ∉ name.toList)
    (hroom : Text.octetCount dir.toList + Text.octetCount name.toList < pathLimit) :
    checkPath (FilePath.join dir name) = .ok () := by
  obtain ⟨hfree, hne, -⟩ := checkPath_eq_ok_iff.1 hdir
  obtain ⟨front, hjoin, hfront⟩ := FilePath.exists_toList_join hne hname
  have hslash : Char.utf8Size '/' = 1 := rfl
  have hfit : '\x00' ∉ front ∧ Text.octetCount front ≤ Text.octetCount dir.toList := by
    rcases hfront with hfront | hfront <;> rw [hfront] at hfree ⊢
    · exact ⟨hfree, Nat.le_refl _⟩
    · rw [Text.octetCount_append]
      exact ⟨fun hmem => hfree (List.mem_append_left _ hmem), Nat.le_add_right _ _⟩
  refine checkPath_eq_ok_iff.2 ⟨?_, FilePath.join_ne_empty hne hname, ?_⟩
  · rw [hjoin, List.mem_append, List.mem_cons]
    rintro (hmem | hmem | hmem)
    · exact hfit.1 hmem
    · cases hmem
    · exact hnul hmem
  · rw [hjoin, Text.octetCount_append, Text.octetCount]
    omega

/-- A path with a name at its end leads to the entry of that name, in the directory to which the
    path before the name leads. -/
theorem locate_join (hd : d.IsTree) {dir name : String} (hdir : dir ≠ "")
    (hname : FilePath.IsProper name) {place : Place}
    (h : d.locate cwd (FilePath.join dir name) = .ok place) :
    ∃ above, d.locate cwd dir = .ok above ∧ d.isDirAt above = true ∧ place = above ++ [name] := by
  obtain ⟨hcheck, found, hfollow, rfl⟩ := locate_eq_ok_iff.1 h
  obtain ⟨first, rest, hjoin, hpieces⟩ := FilePath.exists_pieces_join hdir hname
  have hstart : startOf (d.spotOf cwd) (FilePath.join dir name) = startOf (d.spotOf cwd) dir := by
    rw [startOf, FilePath.isAbsolute_join hdir hname, ← startOf]
  rw [hjoin, hstart] at hfollow
  have hsound := sound_startOf (entry_eq_dir_of_follow (by simp) hfollow)
  obtain ⟨before, hbefore, hfollow⟩ := exists_follow_of_append hfollow
  have hspot := hsound.follow hbefore
  have hentry := entry_eq_dir_of_follow (by simp) hfollow
  obtain ⟨-, node, -, hfound⟩ := follow_name hd hspot hname hfollow
  refine ⟨before.1.place, ?_, ?_, ?_⟩
  · refine locate_eq_ok_iff.2 ⟨checkPath_of_join hdir hname hcheck, before, ?_, rfl⟩
    rcases hpieces with hpieces | hpieces <;> rw [hpieces]
    · exact hbefore
    · -- an empty piece asks for a directory and leads no further
      rw [follow_append hbefore, follow_step (.stay hentry (.inl rfl))]
      exact follow_nil_eq_ok_iff.2 rfl
  · exact hspot.isDirAt hentry
  · rw [hfound, place_cons]

/-- A path with a name at its end leads to an entry of that name. -/
theorem exists_above_of_locate_join (hd : d.IsTree) {dir name : String}
    (hname : FilePath.IsProper name) {place : Place}
    (h : d.locate cwd (FilePath.join dir name) = .ok place) : ∃ above, place = above ++ [name] := by
  by_cases hdir : dir = ""
  · have hjoin : FilePath.join dir name = name := by
      rw [FilePath.join, FilePath.not_isAbsolute_of_isProper hname]
      simp [hdir]
    rw [hjoin] at h
    obtain ⟨-, found, hfollow, rfl⟩ := locate_eq_ok_iff.1 h
    rw [FilePath.pieces_of_isProper hname] at hfollow
    have hsound := sound_startOf (entry_eq_dir_of_follow (by simp) hfollow)
    obtain ⟨-, node, -, hfound⟩ := follow_name hd hsound hname hfollow
    exact ⟨_, by rw [hfound, place_cons]⟩
  · obtain ⟨above, -, -, rfl⟩ := locate_join hd hdir hname h
    exact ⟨above, rfl⟩

/-- A path that leads somewhere leads through directories. -/
theorem locate_under (hd : d.IsTree) {dir : String} (hdir : dir ≠ "") {names more : List String}
    (hnames : ∀ name ∈ names, FilePath.IsProper name)
    (hmore : ∀ name ∈ more, FilePath.IsProper name) {place : Place}
    (h : d.locate cwd (FilePath.under dir (names ++ more)) = .ok place) :
    ∃ above, d.locate cwd (FilePath.under dir names) = .ok above ∧ place = above ++ more ∧
      (more ≠ [] → d.isDirAt above = true) := by
  induction more using List.reverseRecOn generalizing place with
  | nil =>
    rw [List.append_nil] at h
    exact ⟨place, h, (List.append_nil place).symm, fun hne => absurd rfl hne⟩
  | append_singleton more last ih =>
    obtain ⟨hmore, hlast⟩ := List.forall_mem_append.1 hmore
    rw [← List.append_assoc, FilePath.under_concat] at h
    have hne := FilePath.under_ne_empty hdir (List.forall_mem_append.2 ⟨hnames, hmore⟩)
    obtain ⟨before, hbefore, hisDir, rfl⟩ := locate_join hd hne (hlast last List.mem_cons_self) h
    obtain ⟨above, habove, rfl, habove'⟩ := ih hmore hbefore
    refine ⟨above, habove, List.append_assoc above more [last], fun _ => ?_⟩
    by_cases hmore : more = []
    · simpa [hmore] using hisDir
    · exact habove' hmore

/-! ### Views -/

/-- What is located is the same place by its canonical path. -/
theorem canonical_of_locate {path : String} {place : Place} (h : d.locate cwd path = .ok place) :
    d.canonical cwd path = .ok place := by
  rw [locate] at h
  cases hcheck : checkPath path with
  | error cause => simp [hcheck, bind, Except.bind] at h
  | ok => simpa [hcheck, bind, Except.bind] using h

theorem exists_locate_of_entryOf {path : String} {e : Entry} (h : d.entryOf cwd path = .ok e) :
    ∃ place, d.locate cwd path = .ok place ∧ d.get? place = some e := by
  cases hplace : d.locate cwd path with
  | error cause => simp [entryOf, hplace, bind, Except.bind] at h
  | ok place =>
    cases hget : d.get? place with
    | none => simp [entryOf, hplace, hget, bind, Except.bind] at h
    | some found =>
      simp [entryOf, hplace, hget, bind, Except.bind] at h
      exact ⟨place, rfl, h ▸ hget⟩

theorem isDir_of_entryOf {path : String} (h : d.entryOf cwd path = .ok .dir) :
    (d.view cwd).isDir path = true := by
  simp [view, isDir, h]

theorem isFile_of_entryOf {path : String} {octets : List UInt8}
    (h : d.entryOf cwd path = .ok (.file octets)) : (d.view cwd).isFile path = true := by
  simp [view, h]

theorem exists_file_of_isFile {path : String} (h : (d.view cwd).isFile path = true) :
    ∃ octets, d.entryOf cwd path = .ok (.file octets) := by
  cases hentry : d.entryOf cwd path with
  | error cause => simp [view, hentry] at h
  | ok entry =>
    cases entry with
    | file octets => exact ⟨octets, rfl⟩
    | dir | link => simp [view, hentry] at h

/-- A directory is located. -/
theorem exists_locate_of_isDir {path : String} (h : (d.view cwd).isDir path = true) :
    (d.view cwd).isThere path = true ∧ (d.view cwd).isFile path = false ∧
      ∃ place, d.locate cwd path = .ok place ∧ d.isDirAt place = true := by
  cases hentry : d.entryOf cwd path with
  | error cause => simp [view, isDir, hentry] at h
  | ok e =>
    obtain rfl : e = .dir := by cases e <;> simp_all [view, isDir]
    obtain ⟨place, hplace, hget⟩ := exists_locate_of_entryOf hentry
    refine ⟨?_, ?_, place, hplace, ?_⟩
    · simp [view, hentry, Except.toBool]
    · simp [view, hentry]
    · simp [isDirAt, hget]

/-- A file is located, and is no directory. -/
theorem exists_locate_of_isFile {path : String} (h : (d.view cwd).isFile path = true) :
    ∃ place, d.locate cwd path = .ok place ∧ d.isDirAt place = false := by
  obtain ⟨octets, hoctets⟩ := exists_file_of_isFile h
  obtain ⟨place, hplace, hget⟩ := exists_locate_of_entryOf hoctets
  exact ⟨place, hplace, by rw [isDirAt, hget]; rfl⟩

/-! ### What can be opened -/

/-- Whether what a path leads to can be opened. -/
def opens (d : Disk) (cwd : Place) (path : String) : Bool := (d.openAt cwd path).isOk

section

variable {path : String} {place : Place} {e : Entry}

theorem openAt_of_locate (h : d.locate cwd path = .ok place) : d.openAt cwd path =
    match d.fault? place with
    | some cause => .error cause
    | none => .ok place := by
  rw [openAt, h]
  rfl

theorem openAt_eq_ok_iff :
    d.openAt cwd path = .ok place ↔ d.locate cwd path = .ok place ∧ d.fault? place = none := by
  cases hplace : d.locate cwd path with
  | error cause => simp [openAt, hplace, bind, Except.bind]
  | ok found =>
    rw [openAt_of_locate hplace, Except.ok.injEq]
    cases hfault : d.fault? found with
    | none =>
      rw [Except.ok.injEq]
      exact ⟨fun h => ⟨h, h ▸ hfault⟩, And.left⟩
    | some cause =>
      refine iff_of_false nofun ?_
      rintro ⟨rfl, hnone⟩
      rw [hfault] at hnone
      cases hnone

theorem opens_iff : d.opens cwd path = true ↔ ∃ place, d.openAt cwd path = .ok place := by
  rw [opens]
  cases d.openAt cwd path <;> simp [Except.isOk, Except.toBool]

/-- What is opened is what is there, unless there is a fault. -/
theorem opened_eq_ok_iff : d.opened cwd path = .ok e ↔
    ∃ place, d.locate cwd path = .ok place ∧ d.get? place = some e ∧ d.fault? place = none := by
  cases hplace : d.openAt cwd path with
  | error cause =>
    simp only [opened, hplace, bind, Except.bind, reduceCtorEq, false_iff, not_exists]
    rintro place ⟨hlocate, -, hfault⟩
    cases hplace.symm.trans (openAt_eq_ok_iff.2 ⟨hlocate, hfault⟩)
  | ok place =>
    obtain ⟨hlocate, hfault⟩ := openAt_eq_ok_iff.1 hplace
    cases hget : d.get? place <;>
      simp [opened, hplace, hlocate, hfault, hget, bind, Except.bind]

/-- On a disk without faults everything that is there can be opened. -/
theorem opened_of_entryOf (h : d.entryOf cwd path = .ok e) (hfaults : d.faults = []) :
    d.opened cwd path = .ok e := by
  obtain ⟨place, hplace, hget⟩ := exists_locate_of_entryOf h
  refine opened_eq_ok_iff.2 ⟨place, hplace, hget, ?_⟩
  rw [fault?, hfaults]
  rfl

theorem opens_of_locate (h : d.locate cwd path = .ok place) (hfaults : d.faults = []) :
    d.opens cwd path = true := by
  refine opens_iff.2 ⟨place, openAt_eq_ok_iff.2 ⟨h, ?_⟩⟩
  rw [fault?, hfaults]
  rfl

theorem entryOf_of_opened (h : d.opened cwd path = .ok e) : d.entryOf cwd path = .ok e := by
  obtain ⟨place, hplace, hget, -⟩ := opened_eq_ok_iff.1 h
  simp [entryOf, hplace, hget, bind, Except.bind]

/-- On a disk without links no path ends in one. -/
theorem endsInLink_eq_false (hd : d.IsTree) (cwd : Place) (path : String) :
    d.endsInLink cwd path = false := by
  rw [endsInLink]
  cases hfollow : d.follow linkLimit (startOf (d.spotOf cwd) path)
      (FilePath.pieces path).dropLast with
  | error cause => rfl
  | ok found =>
    obtain ⟨parent, left⟩ := found
    simp only
    split
    · next target hlookup =>
      have hdir := Node.entry_eq_dir_of_lookup hlookup
      have hparent := (sound_startOf (entry_start_of_follow hfollow hdir)).follow hfollow
      have hget := hparent.get?_concat ((FilePath.pieces path).getLastD "")
      rw [hlookup] at hget
      exact absurd hget hd.not_link
    · rfl

end

/-! ### Names from a directory on -/

theorem place_spotOf (d : Disk) (cwd : Place) : (d.spotOf cwd).place = cwd := by
  induction cwd using List.reverseRecOn with
  | nil => rfl
  | append_singleton above name ih =>
    rw [spotOf, List.foldl_concat, ← spotOf, Spot.place, List.map_cons, List.reverse_cons,
      ← Spot.place, ih]

theorem nodeAt_spotOf {node : Node} (h : d.node? cwd = some node) :
    d.nodeAt (d.spotOf cwd) = node := by
  induction cwd using List.reverseRecOn generalizing node with
  | nil => exact Option.some.inj h
  | append_singleton above name ih =>
    rw [node?_concat] at h
    obtain ⟨parent, hparent, hnode⟩ := Option.bind_eq_some_iff.1 h
    rw [spotOf, List.foldl_concat, ← spotOf, nodeAt, ih hparent, hnode, Option.getD_some]

theorem sound_spotOf_of_node? {node : Node} (h : d.node? cwd = some node) :
    (d.spotOf cwd).Sound d := by
  induction cwd using List.reverseRecOn generalizing node with
  | nil => exact .root
  | append_singleton above name ih =>
    rw [node?_concat] at h
    obtain ⟨parent, hparent, hnode⟩ := Option.bind_eq_some_iff.1 h
    have hat := nodeAt_spotOf hparent
    rw [spotOf, List.foldl_concat, ← spotOf, hat, hnode, Option.getD_some]
    exact .entry (ih hparent) (by rw [hat, hnode])

theorem isSome_node?_append {a b : Place} (h : (d.node? (a ++ b)).isSome) : (d.node? a).isSome := by
  rw [node?, Node.get?_append, ← node?] at h
  cases hnode : d.node? a with
  | none => simp [hnode] at h
  | some node => rfl

/-- Names are followed to what lies there, if that is no link. -/
theorem follow_names (links : Nat) {names : List String} (hspot : spot.Sound d) {node : Node}
    (hnames : ∀ name ∈ names,
      FilePath.IsProper name ∧ Text.octetCount name.toList ≤ nameLimit)
    (h : (d.nodeAt spot).get? names = some node) (hlink : ∀ target, node ≠ .link target) :
    ∃ found, d.follow links spot names = .ok (found, links) ∧
      found.place = spot.place ++ names := by
  induction names generalizing spot with
  | nil => exact ⟨spot, follow_nil_eq_ok_iff.2 rfl, (List.append_nil _).symm⟩
  | cons name names ih =>
    obtain ⟨⟨hname, hshort⟩, hnames⟩ := List.forall_mem_cons.1 hnames
    obtain ⟨child, hlookup, hrest⟩ := Option.bind_eq_some_iff.1 h
    have hchild : ∀ target, child ≠ .link target := by
      rintro target rfl
      -- nothing lies below a link, so that the names end here
      cases names with
      | nil => exact hlink target (Option.some.inj hrest).symm
      | cons next names => cases hrest
    obtain ⟨found, hfound, hplace⟩ := ih (.entry hspot hlookup) hnames hrest
    refine ⟨found, ?_, ?_⟩
    · rw [follow_step (.enter (.of_isProper hname hshort) hlookup hchild)]
      exact hfound
    · rw [hplace, place_cons, List.append_assoc, List.singleton_append]

/-- Names lead from a spot to what lies there, if that is no link. -/
theorem exists_follow_of_get? (links : Nat) (hspot : spot.Sound d) {names : List String}
    (hnames : ∀ name ∈ names,
      FilePath.IsProper name ∧ Text.octetCount name.toList ≤ nameLimit) {e : Entry}
    (h : d.get? (spot.place ++ names) = some e) (hlink : ∀ target, e ≠ .link target) :
    ∃ found, d.follow links spot names = .ok (found, links) ∧
      found.place = spot.place ++ names := by
  obtain ⟨node, hnode, rfl⟩ := Option.map_eq_some_iff.1 h
  rw [hspot.node?_append] at hnode
  refine follow_names links hspot hnames hnode ?_
  rintro target rfl
  exact hlink target rfl

/-- Names lead from a place to what lies there, if that is no link. -/
theorem follow_from (links : Nat) {names : List String}
    (hnames : ∀ name ∈ names,
      FilePath.IsProper name ∧ Text.octetCount name.toList ≤ nameLimit) {e : Entry}
    (h : d.get? (cwd ++ names) = some e) (hlink : ∀ target, e ≠ .link target) :
    ∃ found, d.follow links (d.spotOf cwd) names = .ok (found, links) ∧
      found.place = cwd ++ names ∧ found.Sound d := by
  obtain ⟨node, hnode, -⟩ := Option.map_eq_some_iff.1 h
  obtain ⟨parent, hparent⟩ := Option.isSome_iff_exists.1 <|
    isSome_node?_append (Option.isSome_of_eq_some hnode)
  have hsound := sound_spotOf_of_node? hparent
  rw [← place_spotOf d cwd] at h
  obtain ⟨found, hfound, hplace⟩ := exists_follow_of_get? links hsound hnames h hlink
  rw [place_spotOf] at hplace
  exact ⟨found, hfound, hplace, hsound.follow hfound⟩

section

variable {path : String} {e : Entry}

theorem startOf_of_relative (hrelative : FilePath.isAbsolute path = false) (spot : Spot) :
    startOf spot path = spot := by
  simp [startOf, hrelative]

/-- A relative path of names leads to what lies there from the working directory on, if that is no
    link. -/
theorem locate_of_get? (hcheck : checkPath path = .ok ())
    (hrelative : FilePath.isAbsolute path = false)
    (hnames : ∀ name ∈ FilePath.pieces path,
      FilePath.IsProper name ∧ Text.octetCount name.toList ≤ nameLimit)
    (h : d.get? (cwd ++ FilePath.pieces path) = some e) (hlink : ∀ target, e ≠ .link target) :
    d.locate cwd path = .ok (cwd ++ FilePath.pieces path) := by
  obtain ⟨found, hfound, hplace, -⟩ := follow_from linkLimit hnames h hlink
  rw [← startOf_of_relative hrelative (d.spotOf cwd)] at hfound
  exact locate_eq_ok_iff.2 ⟨hcheck, _, hfound, hplace⟩

/-- A relative path of names that ends at a link leads to what lies where the names of the link lead
    from its directory on. -/
theorem locate_of_link (hcheck : checkPath path = .ok ())
    (hrelative : FilePath.isAbsolute path = false) {front : List String} {name target : String}
    (hpieces : FilePath.pieces path = front ++ [name])
    (hlink : d.get? (cwd ++ front ++ [name]) = some (.link target))
    (htarget : FilePath.isAbsolute target = false)
    (hnames : ∀ piece ∈ front ++ [name] ++ FilePath.pieces target,
      FilePath.IsProper piece ∧ Text.octetCount piece.toList ≤ nameLimit)
    (h : d.get? (cwd ++ front ++ FilePath.pieces target) = some e)
    (he : ∀ target, e ≠ .link target) :
    d.locate cwd path = .ok (cwd ++ front ++ FilePath.pieces target) := by
  obtain ⟨hproper, hshort⟩ := hnames name (by simp)
  -- the directory in which the link lies
  obtain ⟨node, hnode, hentry⟩ := Option.map_eq_some_iff.1 hlink
  obtain rfl : node = .link target := by cases node <;> simp_all [Node.entry]
  have hdir : d.get? (cwd ++ front) = some .dir := by
    rw [node?_concat] at hnode
    obtain ⟨dir, hdir, hlookup⟩ := Option.bind_eq_some_iff.1 hnode
    rw [get?, hdir, Option.map_some, Node.entry_eq_dir_of_lookup hlookup]
  obtain ⟨parent, hfollow, hplace, hsound⟩ :=
    follow_from linkLimit (fun n hn => hnames n (by simp [hn])) hdir Entry.dir_ne_link
  rw [← hplace, node?_concat, hsound.node?_place, Option.bind_some] at hnode
  -- what the link leads to
  rw [← hplace] at h ⊢
  obtain ⟨found, hfound, hfoundPlace⟩ := exists_follow_of_get? (linkLimit - 1) hsound
    (fun n hn => hnames n (by simp [hn])) h he
  have hstep : Step d linkLimit parent name (linkLimit - 1) (startOf parent target)
      (FilePath.pieces target) := .link (.of_isProper hproper hshort) hnode
  refine locate_eq_ok_iff.2 ⟨hcheck, (found, linkLimit - 1), ?_, hfoundPlace⟩
  rw [startOf_of_relative hrelative, hpieces, follow_append hfollow]
  refine (follow_step hstep []).trans ?_
  rw [List.append_nil, startOf_of_relative htarget, hfound]

end

theorem entryOf_of_get? (hd : d.IsTree) {path : String} (hcheck : checkPath path = .ok ())
    (hrelative : FilePath.isAbsolute path = false)
    (hnames : ∀ name ∈ FilePath.pieces path,
      FilePath.IsProper name ∧ Text.octetCount name.toList ≤ nameLimit) {e : Entry}
    (h : d.get? (cwd ++ FilePath.pieces path) = some e) : d.entryOf cwd path = .ok e := by
  have hlocate := locate_of_get? hcheck hrelative hnames h fun target hlink =>
    hd.not_link (hlink ▸ h)
  simp [entryOf, hlocate, h, bind, Except.bind]

end RouteInventory.Disk
