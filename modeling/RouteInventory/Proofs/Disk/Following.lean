import RouteInventory.Disk.Resolve
import RouteInventory.Proofs.Disk.Tree

/-!
How the pieces of a path are followed. A piece leads a step further (`Step`): it stays, goes up,
enters an entry, or is a link's name, whose path comes first then. Pieces lead where their steps
lead (`follow_eq_ok_iff`), so what each step preserves is preserved on the way: whatever pieces lead
to lies where its spot says (`Spot.Sound.follow`).
-/

namespace RouteInventory.Disk

variable {d : Disk} {links left : Nat} {spot next : Spot} {piece : String} {more : List String}
  {found : Spot × Nat}

theorem place_cons (name : String) (node : Node) (spot : Spot) :
    Spot.place ((name, node) :: spot) = spot.place ++ [name] := by
  simp [Spot.place]

theorem place_tail (spot : Spot) : Spot.place spot.tail = spot.place.dropLast := by
  cases spot <;> simp [Spot.place]

/-! ### Steps -/

/-- Whether a piece is looked up among the names in a directory. -/
structure IsLookedUp (piece : String) : Prop where
  ne_empty : piece ≠ ""
  ne_point : piece ≠ "."
  ne_up : piece ≠ ".."
  short : Text.octetCount piece.toList ≤ nameLimit

theorem IsLookedUp.of_isProper {name : String} (h : FilePath.IsProper name)
    (hshort : Text.octetCount name.toList ≤ nameLimit) : IsLookedUp name :=
  ⟨h.1, h.2.1, h.2.2.1, hshort⟩

/-- What one piece leads to: how many links are left, the spot, and the pieces that are followed
    from there before the others. -/
inductive Step (d : Disk) : Nat → Spot → String → Nat → Spot → List String → Prop
  | stay {links : Nat} {spot : Spot} {piece : String} : (d.nodeAt spot).entry = .dir →
      piece = "" ∨ piece = "." → Step d links spot piece links spot []
  | up {links : Nat} {spot : Spot} : (d.nodeAt spot).entry = .dir →
      Step d links spot ".." links spot.tail []
  | enter {links : Nat} {spot : Spot} {piece : String} {node : Node} : IsLookedUp piece →
      (d.nodeAt spot).children.lookup piece = some node → (∀ target, node ≠ .link target) →
      Step d links spot piece links ((piece, node) :: spot) []
  | link {left : Nat} {spot : Spot} {piece target : String} : IsLookedUp piece →
      (d.nodeAt spot).children.lookup piece = some (.link target) →
      Step d (left + 1) spot piece left (startOf spot target) (FilePath.pieces target)

/-- Steps are taken from a directory only. -/
theorem Step.entry_eq_dir (h : Step d links spot piece left next more) :
    (d.nodeAt spot).entry = .dir := by
  cases h with
  | stay hdir | up hdir => exact hdir
  | enter _ hlookup | link _ hlookup => exact Node.entry_eq_dir_of_lookup hlookup

/-- The pieces after one are followed from where it leads. -/
theorem follow_step (h : Step d links spot piece left next more) (rest : List String) :
    d.follow links spot (piece :: rest) = d.follow left next (more ++ rest) := by
  have hdir := not_not.2 h.entry_eq_dir
  cases h with
  | stay _ hpoint =>
    rw [follow, if_neg hdir, if_pos hpoint]
    rfl
  | up =>
    rw [follow, if_neg hdir, if_neg (by decide), if_pos rfl]
    rfl
  | @enter _ _ _ node hpiece hlookup hlink =>
    rw [follow, if_neg hdir, if_neg (not_or.2 ⟨hpiece.ne_empty, hpiece.ne_point⟩),
      if_neg hpiece.ne_up, if_neg (Nat.not_lt.2 hpiece.short), hlookup]
    cases node with
    | link target => exact (hlink target rfl).elim
    | file octets | dir children => rfl
  | link hpiece hlookup =>
    rw [follow, if_neg hdir, if_neg (not_or.2 ⟨hpiece.ne_empty, hpiece.ne_point⟩),
      if_neg hpiece.ne_up, if_neg (Nat.not_lt.2 hpiece.short), hlookup]

/-- What pieces lead to, step by step. -/
inductive Follows (d : Disk) : Nat → Spot → List String → Spot × Nat → Prop
  | done {links : Nat} {spot : Spot} : Follows d links spot [] (spot, links)
  | step {links left : Nat} {spot next : Spot} {piece : String} {more rest : List String}
      {found : Spot × Nat} : Step d links spot piece left next more →
      Follows d left next (more ++ rest) found → Follows d links spot (piece :: rest) found

/-- Pieces lead where their steps lead. -/
theorem follow_eq_ok_iff {todo : List String} :
    d.follow links spot todo = .ok found ↔ Follows d links spot todo found := by
  constructor
  · intro h
    fun_induction follow d links spot todo with
    | case1 =>
      obtain rfl := Except.ok.inj h
      exact .done
    | case2 | case5 | case6 | case7 => cases h
    | case3 _ _ _ _ hdir hpoint ih => exact .step (.stay (not_not.1 hdir) hpoint) (ih h)
    | case4 _ _ _ hdir _ ih => exact .step (.up (not_not.1 hdir)) (ih h)
    | case8 _ _ _ _ hpoint hup hlong _ hlookup _ ih =>
      obtain ⟨hempty, hpoint⟩ := not_or.1 hpoint
      exact .step (.link ⟨hempty, hpoint, hup, Nat.not_lt.1 hlong⟩ hlookup) (ih h)
    | case9 _ _ _ _ _ hpoint hup hlong _ hlink hlookup ih =>
      obtain ⟨hempty, hpoint⟩ := not_or.1 hpoint
      exact .step (.enter ⟨hempty, hpoint, hup, Nat.not_lt.1 hlong⟩ hlookup hlink) (ih h)
  · intro h
    induction h with
    | done => rw [follow]
    | step hstep _ ih => rw [follow_step hstep, ih]

/-- Pieces that lead somewhere begin with a step. -/
theorem exists_step_of_follow {rest : List String}
    (h : d.follow links spot (piece :: rest) = .ok found) :
    ∃ left next more, Step d links spot piece left next more ∧
      d.follow left next (more ++ rest) = .ok found := by
  cases follow_eq_ok_iff.1 h with
  | step hstep hrest => exact ⟨_, _, _, hstep, follow_eq_ok_iff.2 hrest⟩

theorem follow_nil_eq_ok_iff : d.follow links spot [] = .ok found ↔ found = (spot, links) := by
  rw [follow, Except.ok.injEq, eq_comm]

/-- Pieces are followed from a directory only. -/
theorem entry_eq_dir_of_follow {todo : List String} (hne : todo ≠ [])
    (h : d.follow links spot todo = .ok found) : (d.nodeAt spot).entry = .dir := by
  obtain ⟨piece, rest, rfl⟩ := List.exists_cons_of_ne_nil hne
  obtain ⟨_, _, _, hstep, -⟩ := exists_step_of_follow h
  exact hstep.entry_eq_dir

/-- What leads to a directory starts at one. -/
theorem entry_start_of_follow {todo : List String} (h : d.follow links spot todo = .ok found)
    (hdir : (d.nodeAt found.1).entry = .dir) : (d.nodeAt spot).entry = .dir := by
  cases todo with
  | nil =>
    obtain rfl := follow_nil_eq_ok_iff.1 h
    exact hdir
  | cons piece rest => exact entry_eq_dir_of_follow (by simp) h

/-! ### Pieces after pieces -/

/-- What stands after some pieces is followed from where these lead. -/
theorem follow_append {a : List String} (h : d.follow links spot a = .ok found) (b : List String) :
    d.follow links spot (a ++ b) = d.follow found.2 found.1 b := by
  rw [follow_eq_ok_iff] at h
  induction h with
  | done => rfl
  | step hstep _ ih => rw [List.cons_append, follow_step hstep, ← List.append_assoc, ih]

/-- The first of the pieces that lead somewhere lead somewhere. -/
theorem exists_follow_of_append {a b : List String}
    (h : d.follow links spot (a ++ b) = .ok found) :
    ∃ before, d.follow links spot a = .ok before ∧ d.follow before.2 before.1 b = .ok found := by
  have hbefore : ∃ before, d.follow links spot a = .ok before := by
    rw [follow_eq_ok_iff] at h
    generalize htodo : a ++ b = todo at h
    induction h generalizing a with
    | done =>
      obtain ⟨rfl, -⟩ := List.append_eq_nil_iff.1 htodo
      exact ⟨_, follow_nil_eq_ok_iff.2 rfl⟩
    | step hstep _ ih =>
      cases a with
      | nil => exact ⟨_, follow_nil_eq_ok_iff.2 rfl⟩
      | cons piece a =>
        obtain ⟨rfl, rfl⟩ := List.cons.inj htodo
        rw [follow_step hstep]
        exact ih (List.append_assoc ..)
  obtain ⟨before, hbefore⟩ := hbefore
  exact ⟨before, hbefore, follow_append hbefore b ▸ h⟩

/-! ### Sound spots -/

/-- Whether each entry on the way lies in the one before it. -/
inductive Spot.Sound (d : Disk) : Spot → Prop
  | root : Sound d []
  | entry {spot : Spot} {name : String} {node : Node} : Sound d spot →
      (d.nodeAt spot).children.lookup name = some node → Sound d ((name, node) :: spot)

namespace Spot.Sound

theorem node?_place (h : Sound d spot) : d.node? (Spot.place spot) = some (d.nodeAt spot) := by
  induction h with
  | root => rfl
  | entry _ hlookup ih =>
    simp only [place, List.map_cons, List.reverse_cons] at ih ⊢
    rw [node?_concat, ih]
    exact hlookup

theorem get?_place (h : Sound d spot) : d.get? (Spot.place spot) = some (d.nodeAt spot).entry := by
  rw [get?, h.node?_place, Option.map_some]

theorem isDirAt (h : Sound d spot) (hdir : (d.nodeAt spot).entry = .dir) :
    d.isDirAt (Spot.place spot) = true := by
  rw [Disk.isDirAt, h.get?_place, hdir, beq_self_eq_true]

theorem get?_concat (h : Sound d spot) (name : String) : d.get? (Spot.place spot ++ [name]) =
    ((d.nodeAt spot).children.lookup name).map Node.entry := by
  rw [get?, node?_concat, h.node?_place]
  rfl

/-- What lies on from a spot. -/
theorem node?_append (h : Sound d spot) (names : List String) :
    d.node? (Spot.place spot ++ names) = (d.nodeAt spot).get? names := by
  rw [node?, Node.get?_append, ← node?, h.node?_place, Option.bind_some]

theorem tail (h : Sound d spot) : Sound d spot.tail := by
  cases h with
  | root => exact .root
  | entry hspot _ => exact hspot

/-- The spot before the last entry is a directory's. -/
theorem entry_tail (h : Sound d spot) : (d.nodeAt spot.tail).entry = .dir := by
  cases h with
  | root => rfl
  | entry _ hlookup => exact Node.entry_eq_dir_of_lookup hlookup

theorem startOf (h : Sound d spot) (path : String) : Sound d (startOf spot path) := by
  unfold Disk.startOf
  split
  · exact .root
  · exact h

/-- A step keeps to what is there. -/
theorem step (h : Sound d spot) (hstep : Step d links spot piece left next more) :
    Sound d next := by
  cases hstep with
  | stay => exact h
  | up => exact h.tail
  | enter _ hlookup => exact .entry h hlookup
  | link => exact h.startOf _

/-- Following pieces keeps to what is there. -/
theorem follow {todo : List String} (h : Sound d spot)
    (hfollow : d.follow links spot todo = .ok found) : Sound d found.1 := by
  rw [follow_eq_ok_iff] at hfollow
  induction hfollow with
  | done => exact h
  | step hstep _ ih => exact ih (h.step hstep)

end Spot.Sound

/-- On a disk without links a name leads to the entry of that name. -/
theorem follow_name (hd : d.IsTree) (hspot : spot.Sound d) {name : String}
    (hname : FilePath.IsProper name) (h : d.follow links spot [name] = .ok found) :
    Text.octetCount name.toList ≤ nameLimit ∧ ∃ node,
      (d.nodeAt spot).children.lookup name = some node ∧ found.1 = (name, node) :: spot := by
  have htree := Node.IsTree.of_get? hd hspot.node?_place
  obtain ⟨left, next, more, hstep, hrest⟩ := exists_step_of_follow h
  cases hstep with
  | stay _ hpoint => exact absurd hpoint (not_or.2 ⟨hname.1, hname.2.1⟩)
  | up => exact absurd rfl hname.2.2.1
  | enter hpiece hlookup _ =>
    obtain rfl := follow_nil_eq_ok_iff.1 hrest
    exact ⟨hpiece.short, _, hlookup, rfl⟩
  | link _ hlookup => cases (htree.of_lookup hlookup).2

end RouteInventory.Disk
