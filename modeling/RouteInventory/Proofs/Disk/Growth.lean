import RouteInventory.Disk.Write
import RouteInventory.Proofs.Disk.Paths

/-!
Disks that have grown: every directory, every link and every file is still there, though a file may
hold something else, and what cannot be opened is the same (`Grows`). A path leads where it led
before (`Grows.locate`).
-/

namespace RouteInventory.Disk

variable {d e : Disk} {spot : Spot} {cwd : Place}

/-- Whether everything on a disk is still there on another. -/
structure Grows (d e : Disk) : Prop where
  dir : ∀ {place : Place}, d.get? place = some .dir → e.get? place = some .dir
  link : ∀ {place : Place} {target : String}, d.get? place = some (.link target) →
    e.get? place = some (.link target)
  file : ∀ {place : Place} {octets : List UInt8}, d.get? place = some (.file octets) →
    ∃ now, e.get? place = some (.file now)
  faults : e.faults = d.faults

namespace Grows

theorem refl (d : Disk) : Grows d d := ⟨id, id, fun h => ⟨_, h⟩, rfl⟩

theorem trans {f : Disk} (hde : Grows d e) (hef : Grows e f) : Grows d f where
  dir h := hef.dir (hde.dir h)
  link h := hef.link (hde.link h)
  file h := by
    obtain ⟨now, hnow⟩ := hde.file h
    exact hef.file hnow
  faults := hef.faults.trans hde.faults

theorem fault?_eq (h : Grows d e) (place : Place) : e.fault? place = d.fault? place := by
  rw [fault?, fault?, h.faults]

theorem isDirAt (h : Grows d e) {place : Place} (hdir : d.isDirAt place = true) :
    e.isDirAt place = true := by
  rw [Disk.isDirAt, beq_iff_eq] at hdir ⊢
  exact h.dir hdir

end Grows

/-! ### Spots on both disks -/

/-- Whether two spots, each of a disk of its own, have the same place. -/
structure Spot.Twins (d e : Disk) (s t : Spot) : Prop where
  left : s.Sound d
  right : t.Sound e
  place : s.place = t.place

namespace Spot.Twins

variable {s t : Spot}

theorem root (d e : Disk) : Twins d e [] [] := ⟨.root, .root, rfl⟩

theorem tail (h : Twins d e s t) : Twins d e s.tail t.tail := by
  refine ⟨h.left.tail, h.right.tail, ?_⟩
  rw [place_tail, place_tail, h.place]

theorem startOf (h : Twins d e s t) (path : String) :
    Twins d e (startOf s path) (startOf t path) := by
  unfold Disk.startOf
  split
  · exact root d e
  · exact h

/-- What is a directory on a disk is one on the disk that it has grown to. -/
theorem entry_eq_dir (h : Twins d e s t) (hgrows : Grows d e) (hdir : (d.nodeAt s).entry = .dir) :
    (e.nodeAt t).entry = .dir := by
  have hget := h.left.get?_place
  rw [hdir] at hget
  have hnow := hgrows.dir hget
  rw [h.place, h.right.get?_place] at hnow
  exact Option.some.inj hnow

/-- What is found under a name is still found there. -/
theorem lookup (h : Twins d e s t) {name : String} {node : Node} {entry : Entry}
    (hget : e.get? (s.place ++ [name]) = some entry)
    (hlookup : (d.nodeAt s).children.lookup name = some node) :
    ∃ now, (e.nodeAt t).children.lookup name = some now ∧ now.entry = entry ∧
      Twins d e ((name, node) :: s) ((name, now) :: t) := by
  rw [h.place, h.right.get?_concat] at hget
  obtain ⟨now, hnow, hentry⟩ := Option.map_eq_some_iff.1 hget
  refine ⟨now, hnow, hentry, .entry h.left hlookup, .entry h.right hnow, ?_⟩
  rw [place_cons, place_cons, h.place]

end Spot.Twins

namespace Grows

/-- A piece leads where it led before. -/
theorem step (h : Grows d e) {links left : Nat} {s t next : Spot} {piece : String}
    {more : List String} (hst : Spot.Twins d e s t)
    (hstep : Step d links s piece left next more) :
    ∃ now, Step e links t piece left now more ∧ Spot.Twins d e next now := by
  cases hstep with
  | stay hdir hpoint => exact ⟨t, .stay (hst.entry_eq_dir h hdir) hpoint, hst⟩
  | up hdir => exact ⟨t.tail, .up (hst.entry_eq_dir h hdir), hst.tail⟩
  | @enter _ _ _ node hpiece hlookup hlink =>
    have hget := hst.left.get?_concat piece
    rw [hlookup] at hget
    obtain ⟨entry, hentry, hnoLink⟩ : ∃ entry, e.get? (s.place ++ [piece]) = some entry ∧
        ∀ target, entry ≠ .link target := by
      cases node with
      | link target => exact (hlink target rfl).elim
      | dir children => exact ⟨_, h.dir hget, Entry.dir_ne_link⟩
      | file octets =>
        obtain ⟨now, hnow⟩ := h.file hget
        exact ⟨_, hnow, Entry.file_ne_link _⟩
    obtain ⟨now, hnow, rfl, htwins⟩ := hst.lookup hentry hlookup
    refine ⟨_, .enter hpiece hnow ?_, htwins⟩
    rintro target rfl
    exact hnoLink target rfl
  | @link _ _ _ target hpiece hlookup =>
    have hget := hst.left.get?_concat piece
    rw [hlookup] at hget
    obtain ⟨now, hnow, hentry, -⟩ := hst.lookup (h.link hget) hlookup
    obtain rfl : now = .link target := by cases now <;> simp_all [Node.entry]
    exact ⟨_, .link hpiece hnow, hst.startOf target⟩

/-- Pieces lead where they led before. -/
theorem follow (h : Grows d e) {links : Nat} {s t : Spot} {todo : List String}
    {found : Spot × Nat} (hst : Spot.Twins d e s t) (hfound : d.follow links s todo = .ok found) :
    ∃ now, e.follow links t todo = .ok now ∧ now.2 = found.2 ∧ Spot.Twins d e found.1 now.1 := by
  rw [follow_eq_ok_iff] at hfound
  induction hfound generalizing t with
  | done => exact ⟨_, follow_nil_eq_ok_iff.2 rfl, rfl, hst⟩
  | step hstep _ ih =>
    obtain ⟨now, hnow, htwins⟩ := h.step hst hstep
    rw [follow_step hnow]
    exact ih htwins

/-- The directory from which a path leads somewhere is still there. -/
theorem twins_startOf (h : Grows d e) {path : String}
    (hdir : (d.nodeAt (startOf (d.spotOf cwd) path)).entry = .dir) :
    Spot.Twins d e (startOf (d.spotOf cwd) path) (startOf (e.spotOf cwd) path) := by
  unfold startOf at hdir ⊢
  split
  · exact .root d e
  · next hrel =>
    rw [if_neg hrel] at hdir
    have hsound := sound_spotOf hdir
    have hget := hsound.get?_place
    rw [hdir, place_spotOf] at hget
    obtain ⟨node, hnode, hentry⟩ := Option.map_eq_some_iff.1 (h.dir hget)
    refine ⟨hsound, sound_spotOf ?_, by rw [place_spotOf, place_spotOf]⟩
    rw [nodeAt_spotOf hnode, hentry]

/-- A path leads where it led before. -/
theorem locate (h : Grows d e) {path : String} {place : Place}
    (hplace : d.locate cwd path = .ok place) : e.locate cwd path = .ok place := by
  obtain ⟨hcheck, found, hfollow, rfl⟩ := locate_eq_ok_iff.1 hplace
  have hdir := entry_eq_dir_of_follow (FilePath.pieces_ne_nil path) hfollow
  obtain ⟨now, hnow, -, htwins⟩ := h.follow (h.twins_startOf hdir) hfollow
  exact locate_eq_ok_iff.2 ⟨hcheck, now, hnow, htwins.place.symm⟩

/-- What a path leads to can be opened if it could before. -/
theorem openAt_eq (h : Grows d e) {path : String} {place : Place}
    (hplace : d.locate cwd path = .ok place) : e.openAt cwd path = d.openAt cwd path := by
  rw [openAt_of_locate hplace, openAt_of_locate (h.locate hplace), h.fault?_eq]

/-- A path to a directory still leads to it. -/
theorem isDir (h : Grows d e) {path : String} (hdir : d.isDir cwd path = true) :
    e.isDir cwd path = true := by
  obtain ⟨-, -, place, hplace, hdir⟩ := exists_locate_of_isDir hdir
  have hdir := h.isDirAt hdir
  rw [Disk.isDirAt, beq_iff_eq] at hdir
  simp [Disk.isDir, entryOf, h.locate hplace, hdir, bind, Except.bind]

end Grows
end RouteInventory.Disk
