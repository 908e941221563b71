import RouteInventory.Proofs.Disk.Paths

/-!
Paths along names on a disk without links. Names that go on from a path, or from the working
directory, lead to what lies there, and to nothing else, as long as neither a name nor the whole
path is too long (`entryOf_under_iff`, `entryOf_relative_iff`). So it depends on the texts and on
what lies at one place alone whether such a path leads to something.
-/

namespace RouteInventory.Disk

open FilePath

variable {d : Disk} {cwd : Place} {dir : String}

/-! ### Names after a path -/

/-- Nothing lies below nothing. -/
theorem get?_append_eq_none {a : Place} (h : d.get? a = none) (b : Place) :
    d.get? (a ++ b) = none := by
  rw [get?, Option.map_eq_none_iff] at h ⊢
  rw [node?, Node.get?_append, ← node?, h, Option.bind_none]

/-- The pieces before the name lead where the path before it does. -/
theorem exists_follow_before (hdir : dir ≠ "") {name : String} (hname : IsProper name)
    {above : Place} (habove : d.locate cwd dir = .ok above) :
    ∃ front before, pieces (join dir name) = front ++ [name] ∧
      d.follow linkLimit (startOf (d.spotOf cwd) (join dir name)) front = .ok before ∧
      before.1.place = above ∧ before.1.Sound d := by
  obtain ⟨first, rest, hjoin, hpieces⟩ := exists_pieces_join hdir hname
  have hstart : startOf (d.spotOf cwd) (join dir name) = startOf (d.spotOf cwd) dir := by
    rw [startOf, isAbsolute_join hdir hname, ← startOf]
  obtain ⟨-, found, hfollow, rfl⟩ := locate_eq_ok_iff.1 habove
  have hsound := sound_startOf (entry_eq_dir_of_follow (pieces_ne_nil dir) hfollow)
  rw [hstart]
  rcases hpieces with hpieces | hpieces <;> rw [hpieces] at hfollow
  · exact ⟨first :: rest, found, hjoin, hfollow, rfl, hsound.follow hfollow⟩
  · obtain ⟨before, hbefore, hstay⟩ := exists_follow_of_append hfollow
    have hentry := entry_eq_dir_of_follow (by simp) hstay
    rw [follow_step (.stay hentry (.inl rfl))] at hstay
    obtain rfl := follow_nil_eq_ok_iff.1 hstay
    exact ⟨first :: rest, before, hjoin, hbefore, rfl, hsound.follow hbefore⟩

/-- One name after a path. -/
theorem locate_join_iff (hd : d.IsTree) (hdir : dir ≠ "") {name : String} (hname : IsProper name)
    {above : Place} (habove : d.locate cwd dir = .ok above) (place : Place) :
    d.locate cwd (join dir name) = .ok place ↔ checkPath (join dir name) = .ok () ∧
      Text.octetCount name.toList ≤ nameLimit ∧ place = above ++ [name] ∧
      (d.node? place).isSome := by
  obtain ⟨front, before, hjoin, hbefore, rfl, hsound⟩ := exists_follow_before hdir hname habove
  have hfollow : d.follow linkLimit (startOf (d.spotOf cwd) (join dir name))
      (pieces (join dir name)) = d.follow before.2 before.1 [name] := by
    rw [hjoin, follow_append hbefore]
  constructor
  · intro hplace
    have hthere := node?_of_locate hplace
    obtain ⟨hcheck, found, hfound, rfl⟩ := locate_eq_ok_iff.1 hplace
    rw [hfollow] at hfound
    obtain ⟨hshort, node, -, hspot⟩ := follow_name hd hsound hname hfound
    exact ⟨hcheck, hshort, by rw [hspot, place_cons], hthere⟩
  · rintro ⟨hcheck, hshort, rfl, hthere⟩
    obtain ⟨node, hnode⟩ := Option.isSome_iff_exists.1 hthere
    have hget : d.get? (before.1.place ++ [name]) = some node.entry := by
      rw [get?, hnode, Option.map_some]
    obtain ⟨found, hfound, hplace⟩ := exists_follow_of_get? before.2 hsound
      (by simpa using ⟨hname, hshort⟩) hget fun target hlink => hd.not_link (hlink ▸ hget)
    exact locate_eq_ok_iff.2 ⟨hcheck, (found, before.2), hfollow.trans hfound, hplace⟩

/-- Names after a path. -/
theorem locate_under_iff (hd : d.IsTree) (hdir : dir ≠ "") {above : Place}
    (habove : d.locate cwd dir = .ok above) {names : List String}
    (hnames : ∀ name ∈ names, IsProper name) (place : Place) :
    d.locate cwd (under dir names) = .ok place ↔ checkPath (under dir names) = .ok () ∧
      (∀ name ∈ names, Text.octetCount name.toList ≤ nameLimit) ∧ place = above ++ names ∧
      (d.node? place).isSome := by
  induction names using List.reverseRecOn generalizing place with
  | nil =>
    rw [List.append_nil]
    constructor
    · intro hplace
      obtain rfl := Except.ok.inj (habove.symm.trans hplace)
      exact ⟨(locate_eq_ok_iff.1 habove).1, by simp, rfl, node?_of_locate habove⟩
    · rintro ⟨-, -, rfl, -⟩
      exact habove
  | append_singleton names last ih =>
    obtain ⟨hfront, hlast⟩ := List.forall_mem_append.1 hnames
    have hlast := hlast last List.mem_cons_self
    have hne := under_ne_empty hdir hfront
    rw [under_concat]
    constructor
    · intro hplace
      obtain ⟨before, hbefore, -, -⟩ := locate_join hd hne hlast hplace
      obtain ⟨-, hshorts, rfl, -⟩ := (ih hfront before).1 hbefore
      obtain ⟨hcheck, hshort, rfl, hthere⟩ := (locate_join_iff hd hne hlast hbefore place).1 hplace
      refine ⟨hcheck, List.forall_mem_append.2 ⟨hshorts, by simpa using hshort⟩, ?_, hthere⟩
      rw [List.append_assoc]
    · rintro ⟨hcheck, hshorts, rfl, hthere⟩
      obtain ⟨hshorts, hshort⟩ := List.forall_mem_append.1 hshorts
      rw [← List.append_assoc] at hthere ⊢
      have hbefore := (ih hfront (above ++ names)).2
        ⟨checkPath_of_join hne hlast hcheck, hshorts, rfl, isSome_node?_append hthere⟩
      exact (locate_join_iff hd hne hlast hbefore _).2
        ⟨hcheck, hshort last List.mem_cons_self, rfl, hthere⟩

theorem entryOf_eq_ok_iff {path : String} {e : Entry} :
    d.entryOf cwd path = .ok e ↔
      ∃ place, d.locate cwd path = .ok place ∧ d.get? place = some e := by
  refine ⟨exists_locate_of_entryOf, ?_⟩
  rintro ⟨place, hplace, hget⟩
  simp [entryOf, hplace, hget, bind, Except.bind]

/-- What names after a path lead to. -/
theorem entryOf_under_iff (hd : d.IsTree) (hdir : dir ≠ "") {above : Place}
    (habove : d.locate cwd dir = .ok above) {names : List String}
    (hnames : ∀ name ∈ names, IsProper name) (e : Entry) :
    d.entryOf cwd (under dir names) = .ok e ↔ checkPath (under dir names) = .ok () ∧
      (∀ name ∈ names, Text.octetCount name.toList ≤ nameLimit) ∧
      d.get? (above ++ names) = some e := by
  rw [entryOf_eq_ok_iff]
  constructor
  · rintro ⟨place, hplace, hget⟩
    obtain ⟨hcheck, hshort, rfl, -⟩ := (locate_under_iff hd hdir habove hnames place).1 hplace
    exact ⟨hcheck, hshort, hget⟩
  · rintro ⟨hcheck, hshort, hget⟩
    obtain ⟨node, hnode, -⟩ := Option.map_eq_some_iff.1 hget
    refine ⟨above ++ names, (locate_under_iff hd hdir habove hnames _).2 ?_, hget⟩
    exact ⟨hcheck, hshort, rfl, by rw [hnode]; rfl⟩

/-! ### Names after the working directory -/

theorem place_of_follow_names (hd : d.IsTree) {links : Nat} {spot : Spot} (hspot : spot.Sound d)
    {names : List String} (hnames : ∀ name ∈ names, IsProper name) {found : Spot × Nat}
    (h : d.follow links spot names = .ok found) :
    found.1.place = spot.place ++ names ∧
      ∀ name ∈ names, Text.octetCount name.toList ≤ nameLimit := by
  induction names using List.reverseRecOn generalizing found with
  | nil =>
    obtain rfl := follow_nil_eq_ok_iff.1 h
    exact ⟨(List.append_nil _).symm, by simp⟩
  | append_singleton names last ih =>
    obtain ⟨hfront, hlast⟩ := List.forall_mem_append.1 hnames
    have hlast := hlast last List.mem_cons_self
    obtain ⟨before, hbefore, h⟩ := exists_follow_of_append h
    obtain ⟨hplace, hshorts⟩ := ih hfront hbefore
    obtain ⟨hshort, node, -, hfound⟩ := follow_name hd (hspot.follow hbefore) hlast h
    refine ⟨by rw [hfound, place_cons, hplace, List.append_assoc], ?_⟩
    exact List.forall_mem_append.2 ⟨hshorts, by simpa using hshort⟩

/-- What a relative path of names leads to. -/
theorem entryOf_relative_iff (hd : d.IsTree) {path : String}
    (hrelative : isAbsolute path = false) (hnames : ∀ name ∈ pieces path, IsProper name)
    (e : Entry) :
    d.entryOf cwd path = .ok e ↔ checkPath path = .ok () ∧
      (∀ name ∈ pieces path, Text.octetCount name.toList ≤ nameLimit) ∧
      d.get? (cwd ++ pieces path) = some e := by
  constructor
  · rw [entryOf_eq_ok_iff]
    rintro ⟨place, hplace, hget⟩
    obtain ⟨hcheck, found, hfollow, rfl⟩ := locate_eq_ok_iff.1 hplace
    have hsound := sound_startOf (entry_eq_dir_of_follow (pieces_ne_nil path) hfollow)
    obtain ⟨hfound, hshort⟩ := place_of_follow_names hd hsound hnames hfollow
    rw [startOf_of_relative hrelative, place_spotOf] at hfound
    exact ⟨hcheck, hshort, hfound ▸ hget⟩
  · rintro ⟨hcheck, hshort, hget⟩
    exact entryOf_of_get? hd hcheck hrelative (fun n hn => ⟨hnames n hn, hshort n hn⟩) hget

/-! ### Into a directory and out of it again -/

/-- A relative path of names that goes into a directory and out of it again leads where it would
    lead without that, provided that the directory is there. -/
theorem entryOf_up_iff (hd : d.IsTree) {path : String} (hcheck : checkPath path = .ok ())
    (hrelative : isAbsolute path = false) {front back : List String} {name : String}
    (hpieces : pieces path = front ++ [name] ++ ".." :: back)
    (hnames : ∀ n ∈ front ++ [name] ++ back,
      IsProper n ∧ Text.octetCount n.toList ≤ nameLimit) (e : Entry) :
    d.entryOf cwd path = .ok e ↔
      d.get? (cwd ++ (front ++ [name])) = some .dir ∧ d.get? (cwd ++ front ++ back) = some e := by
  obtain ⟨hin, hback⟩ := List.forall_mem_append.1 hnames
  rw [entryOf_eq_ok_iff]
  constructor
  · rintro ⟨place, hplace, hget⟩
    obtain ⟨-, found, hfollow, rfl⟩ := locate_eq_ok_iff.1 hplace
    have hsound := sound_startOf (entry_eq_dir_of_follow (pieces_ne_nil path) hfollow)
    rw [startOf_of_relative hrelative] at hfollow hsound
    rw [hpieces] at hfollow
    obtain ⟨inside, hinside, hfollow⟩ := exists_follow_of_append hfollow
    have hdir := entry_eq_dir_of_follow (by simp) hfollow
    rw [follow_step (.up hdir)] at hfollow
    have hsoundIn := hsound.follow hinside
    have hplaceIn := (place_of_follow_names hd hsound (fun n hn => (hin n hn).1) hinside).1
    have hfound := (place_of_follow_names hd hsoundIn.tail (fun n hn => (hback n hn).1) hfollow).1
    rw [place_spotOf] at hplaceIn
    rw [place_tail, hplaceIn, ← List.append_assoc, List.dropLast_concat] at hfound
    refine ⟨?_, hfound ▸ hget⟩
    rw [← hplaceIn, hsoundIn.get?_place, hdir]
  · rintro ⟨hdir, hget⟩
    obtain ⟨inside, hinside, hplaceIn, hsoundIn⟩ := follow_from linkLimit hin hdir Entry.dir_ne_link
    have hentry : (d.nodeAt inside).entry = .dir := by
      rw [← hplaceIn, hsoundIn.get?_place] at hdir
      exact Option.some.inj hdir
    have htail : Spot.place inside.tail = cwd ++ front := by
      rw [place_tail, hplaceIn, ← List.append_assoc, List.dropLast_concat]
    rw [← htail] at hget
    obtain ⟨found, hfound, hplace⟩ := exists_follow_of_get? linkLimit hsoundIn.tail hback hget
      fun target hlink => hd.not_link (hlink ▸ hget)
    refine ⟨_, locate_eq_ok_iff.2 ⟨hcheck, (found, linkLimit), ?_, rfl⟩, hplace ▸ hget⟩
    rw [startOf_of_relative hrelative, hpieces, follow_append hinside]
    exact (follow_step (.up hentry) back).trans hfound

end RouteInventory.Disk
