import RouteInventory.Proofs.Disk.Growth
import Mathlib.Tactic.SplitIfs

/-!
Where files are written. The path of a file ends at a name in a directory (`EndsAt`); if a link has
that name, the path goes on with the link's (`Target`). A path that leads to a file is written where
it leads (`target_of_follow`), and what was written under a path is found under it
(`Target.follow`).
-/

namespace RouteInventory.Disk

open FilePath

variable {d e : Disk} {links : Nat} {start : Spot} {cwd : Place} {path : String} {place : Place}

/-! ### The pieces of a file's path -/

/-- The last piece is empty only if there is nothing or a slash before it. -/
theorem getLast?_pieces_eq_empty_iff :
    (pieces path).getLast? = some "" ↔ path = "" ∨ path.toList.getLast? = some '/' := by
  have hlast : (pieces path).getLast? = some (.ofList (Text.lastPiece '/' path.toList)) := by
    rw [pieces, List.getLast?_map]
    exact congrArg (Option.map String.ofList)
      (List.getLast?_eq_some_getLast (Text.splitBy_ne_nil (· == '/') path.toList))
  rw [hlast, Option.some_inj]
  constructor
  · intro hempty
    have hempty : Text.lastPiece '/' path.toList = [] := by
      rw [← String.toList_ofList (l := Text.lastPiece '/' path.toList), hempty]
      rfl
    by_cases hslash : '/' ∈ path.toList
    · obtain ⟨front, hfront, -⟩ := Text.exists_append_lastPiece hslash
      rw [hempty] at hfront
      exact .inr (by rw [hfront, List.getLast?_concat])
    · rw [Text.lastPiece_of_not_mem hslash] at hempty
      exact .inl (String.toList_eq_nil_iff.1 hempty)
  · rintro (rfl | hslash)
    · rfl
    · obtain ⟨front, hfront⟩ := List.getLast?_eq_some_iff.1 hslash
      rw [hfront, Text.lastPiece_append_cons]
      rfl

theorem trimmedPieces_eq {front : List String} {last : String} (hne : last ≠ "")
    (h : pieces path = front ++ [last]) : trimmedPieces path = front ++ [last] := by
  simp [trimmedPieces, h, hne]

/-- Without a slash at its end a path keeps all of its pieces. -/
theorem pieces_eq_of_trimmedPieces {front : List String} {last : String}
    (h : trimmedPieces path = front ++ [last]) (hslash : path.toList.getLast? ≠ some '/') :
    pieces path = front ++ [last] ∧ last ≠ "" := by
  obtain ⟨before, final, hpieces⟩ :=
    (List.eq_nil_or_concat (pieces path)).resolve_left (pieces_ne_nil path)
  rw [List.concat_eq_append] at hpieces
  by_cases hfinal : final = ""
  · have hend : (pieces path).getLast? = some "" := by rw [hpieces, hfinal, List.getLast?_concat]
    obtain rfl | hend := getLast?_pieces_eq_empty_iff.1 hend
    · exact absurd h (by simp [trimmedPieces, pieces, Text.split, Text.splitBy])
    · exact absurd hend hslash
  · have heq := trimmedPieces_eq hfinal hpieces
    rw [h] at heq
    obtain ⟨rfl, hlast⟩ := List.append_inj' heq rfl
    obtain ⟨rfl, -⟩ := List.cons.inj hlast
    exact ⟨hpieces, hfinal⟩

theorem isProper_of_mem_pieces {piece : String} (hmem : piece ∈ pieces path) (hempty : piece ≠ "")
    (hpoint : piece ≠ ".") (hup : piece ≠ "..") : IsProper piece := by
  obtain ⟨piece, hpiece, rfl⟩ := List.mem_map.1 hmem
  refine ⟨hempty, hpoint, hup, ?_⟩
  rw [String.toList_ofList]
  exact Text.not_mem_of_mem_split hpiece

/-! ### Targets -/

/-- Whether a path ends at a name in a directory, and so many links may still be followed. -/
structure EndsAt (d : Disk) (links : Nat) (start : Spot) (path : String) (parent : Spot)
    (left : Nat) (name : String) : Prop where
  before : ∃ front, pieces path = front ++ [name] ∧ d.follow links start front = .ok (parent, left)
  dir : (d.nodeAt parent).entry = .dir
  proper : IsProper name
  short : Text.octetCount name.toList ≤ nameLimit

/-- Whether a file is written at a place under a path: at the name at which the path ends, or, if
    that is a link's, where the path of the link says. -/
inductive Target (d : Disk) : Nat → Spot → String → Place → Prop
  | new {links left : Nat} {start parent : Spot} {path name : String} :
      d.EndsAt links start path parent left name →
      (d.nodeAt parent).children.lookup name = none →
      Target d links start path (parent.place ++ [name])
  | file {links left : Nat} {start parent : Spot} {path name : String} {octets : List UInt8} :
      d.EndsAt links start path parent left name →
      (d.nodeAt parent).children.lookup name = some (.file octets) →
      Target d links start path (parent.place ++ [name])
  | link {links left : Nat} {start parent : Spot} {path name next : String} {place : Place} :
      d.EndsAt links start path parent (left + 1) name →
      (d.nodeAt parent).children.lookup name = some (.link next) →
      Target d left (startOf parent next) next place → Target d links start path place

variable {parent : Spot} {left : Nat} {name : String}

/-- The target, once it is known where the path ends. -/
theorem EndsAt.target_eq (h : d.EndsAt links start path parent left name) :
    d.target links start path =
      match (d.nodeAt parent).children.lookup name with
      | some (.dir _) => .error .isDirectory
      | some (.link next) =>
        if left = 0 then .error .tooManyLinks else d.target (left - 1) (startOf parent next) next
      | _ => .ok (parent.place ++ [name]) := by
  obtain ⟨⟨front, hpieces, hfollow⟩, hdir, ⟨hempty, hpoint, hup, -⟩, hshort⟩ := h
  have hslash : path.toList.getLast? ≠ some '/' := by
    intro hslash
    have hlast := getLast?_pieces_eq_empty_iff.2 (.inr hslash)
    rw [hpieces, List.getLast?_concat, Option.some_inj] at hlast
    exact hempty hlast
  have htrim := trimmedPieces_eq hempty hpieces
  rw [target]
  simp only [htrim, List.getLast?_concat]
  split
  · next hfail =>
    rw [htrim, List.dropLast_concat, hfollow] at hfail
    cases hfail
  · next hok =>
    rw [htrim, List.dropLast_concat, hfollow] at hok
    obtain ⟨rfl, rfl⟩ := Prod.mk.inj (Except.ok.inj hok)
    refine (if_neg (not_not.2 hdir)).trans ?_
    refine (if_neg (not_or.2 ⟨hpoint, not_or.2 ⟨hup, hslash⟩⟩)).trans ?_
    exact if_neg (Nat.not_lt.2 hshort)

theorem exists_endsAt_of_target (h : d.target links start path = .ok place) :
    ∃ parent left name, d.EndsAt links start path parent left name := by
  rw [target] at h
  split at h
  · cases h
  next last hlast =>
  split at h
  · cases h
  next parent left hfollow =>
  split at h
  · cases h
  next hdir =>
  split at h
  · cases h
  next hend =>
  split at h
  · cases h
  next hshort =>
  obtain ⟨hpoint, hup, hslash⟩ : last ≠ "." ∧ last ≠ ".." ∧ path.toList.getLast? ≠ some '/' := by
    simpa [not_or] using hend
  obtain ⟨front, hfront⟩ := List.getLast?_eq_some_iff.1 hlast
  obtain ⟨hpieces, hempty⟩ := pieces_eq_of_trimmedPieces hfront hslash
  rw [hfront, List.dropLast_concat] at hfollow
  have hmem : last ∈ pieces path := by simp [hpieces]
  exact ⟨parent, left, last, ⟨front, hpieces, hfollow⟩, not_not.1 hdir,
    isProper_of_mem_pieces hmem hempty hpoint hup, Nat.not_lt.1 hshort⟩

theorem EndsAt.left_le (h : d.EndsAt links start path parent left name) : left ≤ links := by
  obtain ⟨front, -, hfollow⟩ := h.before
  exact links_le_of_follow hfollow

theorem target_eq_ok_iff :
    d.target links start path = .ok place ↔ Target d links start path place := by
  constructor
  · intro h
    induction links using Nat.strongRecOn generalizing start path with
    | ind links ih =>
      obtain ⟨parent, left, name, hends⟩ := exists_endsAt_of_target h
      rw [hends.target_eq] at h
      split at h
      · cases h
      · next next hlookup =>
        split_ifs at h with hleft
        obtain ⟨left, rfl⟩ := Nat.exists_eq_succ_of_ne_zero hleft
        exact .link hends hlookup (ih left hends.left_le h)
      · next hdir hlink =>
        obtain rfl := Except.ok.inj h
        cases hlookup : (d.nodeAt parent).children.lookup name with
        | none => exact .new hends hlookup
        | some node =>
          cases node with
          | file octets => exact .file hends hlookup
          | dir children => exact absurd hlookup (hdir children)
          | link next => exact absurd hlookup (hlink next)
  · intro h
    induction h with
    | new hends hlookup => rw [hends.target_eq, hlookup]
    | file hends hlookup => rw [hends.target_eq, hlookup]
    | link hends hlookup _ ih =>
      rw [hends.target_eq, hlookup]
      exact ih

theorem Target.entry_start (h : Target d links start path place) :
    (d.nodeAt start).entry = .dir := by
  cases h with
  | new hends _ | file hends _ | link hends _ _ =>
    obtain ⟨front, -, hfollow⟩ := hends.before
    exact entry_start_of_follow hfollow hends.dir

/-- Whether a file can be put at a place: in a directory, where nothing or a file is. -/
structure Admits (d : Disk) (place : Place) : Prop where
  parent : ∃ above name, place = above ++ [name] ∧ IsProper name ∧ d.isDirAt above = true
  free : d.get? place = none ∨ ∃ octets, d.get? place = some (.file octets)

theorem EndsAt.isLookedUp (h : d.EndsAt links start path parent left name) : IsLookedUp name :=
  .of_isProper h.proper h.short

/-- A path ends at its last piece if that is looked up and found. -/
theorem endsAt_of_lookup {front : List String} {node : Node}
    (hpieces : pieces path = front ++ [name])
    (hfollow : d.follow links start front = .ok (parent, left)) (hname : IsLookedUp name)
    (hlookup : (d.nodeAt parent).children.lookup name = some node) :
    d.EndsAt links start path parent left name := by
  have hmem : name ∈ pieces path := by simp [hpieces]
  exact ⟨⟨front, hpieces, hfollow⟩, Node.entry_eq_dir_of_lookup hlookup,
    isProper_of_mem_pieces hmem hname.ne_empty hname.ne_point hname.ne_up, hname.short⟩

theorem EndsAt.sound (h : d.EndsAt links start path parent left name) (hstart : start.Sound d) :
    parent.Sound d := by
  obtain ⟨front, -, hfollow⟩ := h.before
  exact hstart.follow hfollow

namespace Target

theorem admits (h : Target d links start path place) (hstart : start.Sound d) :
    d.Admits place := by
  induction h with
  | new hends hlookup =>
    have hparent := hends.sound hstart
    refine ⟨⟨_, _, rfl, hends.proper, ?_⟩, .inl ?_⟩
    · exact hparent.isDirAt hends.dir
    · rw [hparent.get?_concat, hlookup, Option.map_none]
  | @file _ _ _ _ _ _ octets hends hlookup =>
    have hparent := hends.sound hstart
    refine ⟨⟨_, _, rfl, hends.proper, ?_⟩, .inr ⟨octets, ?_⟩⟩
    · exact hparent.isDirAt hends.dir
    · rw [hparent.get?_concat, hlookup, Option.map_some, Node.entry]
  | link hends hlookup _ ih => exact ih ((hends.sound hstart).startOf _)

/-- On a disk that has grown and has a file where one was to be written, the path leads there. -/
theorem follow (h : Target d links start path place) (hgrows : Grows d e) {octets : List UInt8}
    (hfile : e.get? place = some (.file octets)) {t : Spot} (hst : Spot.Twins d e start t) :
    ∃ now, e.follow links t (pieces path) = .ok now ∧ now.1.place = place := by
  induction h generalizing t with
  | new hends hlookup | file hends hlookup =>
    obtain ⟨front, hpieces, hfollow⟩ := hends.before
    obtain ⟨now, hnow, hleft, hparent⟩ := hgrows.follow hst hfollow
    rw [hparent.place, hparent.right.get?_concat] at hfile
    obtain ⟨node, hnode, hentry⟩ := Option.map_eq_some_iff.1 hfile
    have hlink : ∀ target, node ≠ .link target := by
      rintro target rfl
      cases hentry
    rw [hpieces, follow_append hnow, follow_step (.enter hends.isLookedUp hnode hlink)]
    exact ⟨_, follow_nil_eq_ok_iff.2 rfl, by rw [place_cons, hparent.place]⟩
  | @link _ _ _ _ _ name next _ hends hlookup _ ih =>
    obtain ⟨front, hpieces, hfollow⟩ := hends.before
    obtain ⟨now, hnow, hleft, hparent⟩ := hgrows.follow hst hfollow
    have hget := hparent.left.get?_concat name
    rw [hlookup] at hget
    obtain ⟨node, hnode, hentry, -⟩ := hparent.lookup (hgrows.link hget) hlookup
    obtain rfl : node = .link next := by cases node <;> simp_all [Node.entry]
    rw [hpieces, follow_append hnow, hleft, follow_step (.link hends.isLookedUp hnode),
      List.append_nil]
    exact ih hfile (hparent.startOf _)

/-- A path that leads to a file is written where it leads. -/
theorem of_follow (hstart : start.Sound d) {found : Spot × Nat}
    (h : d.follow links start (pieces path) = .ok found) {octets : List UInt8}
    (hfile : d.nodeAt found.1 = .file octets) : Target d links start path found.1.place := by
  induction links using Nat.strongRecOn generalizing start path with
  | ind links ih =>
    obtain ⟨front, name, hpieces⟩ :=
      (List.eq_nil_or_concat (pieces path)).resolve_left (pieces_ne_nil path)
    rw [List.concat_eq_append] at hpieces
    rw [hpieces] at h
    obtain ⟨⟨parent, left⟩, hbefore, h⟩ := exists_follow_of_append h
    have hparent : parent.Sound d := hstart.follow hbefore
    obtain ⟨_, _, _, hstep, hrest⟩ := exists_step_of_follow h
    cases hstep with
    | stay hdir =>
      -- a piece that is no name leads to a directory
      obtain rfl := follow_nil_eq_ok_iff.1 hrest
      rw [hfile] at hdir
      cases hdir
    | up =>
      obtain rfl := follow_nil_eq_ok_iff.1 hrest
      have hdir := hparent.entry_tail
      rw [hfile] at hdir
      cases hdir
    | enter hname hlookup =>
      obtain rfl := follow_nil_eq_ok_iff.1 hrest
      rw [place_cons]
      obtain rfl : _ = Node.file octets := hfile
      exact .file (endsAt_of_lookup hpieces hbefore hname hlookup) hlookup
    | link hname hlookup =>
      have hends := endsAt_of_lookup hpieces hbefore hname hlookup
      rw [List.append_nil] at hrest
      exact .link hends hlookup (ih _ hends.left_le (hparent.startOf _) hrest)

end Target

end RouteInventory.Disk
