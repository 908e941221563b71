import RouteInventory.Proofs.Disk.Paths
import RouteInventory.Proofs.FilePath.Order
import RouteInventory.Proofs.Walk.Exclusions
import RouteInventory.Proofs.Walk.Steps
import Mathlib.Tactic.SplitIfs

/-!
Walks over disks without links. One step meets the entries of a directory, name by name
(`below_eq_flatMap`). When the directories of some names are left out, whatever is met lies below
the root, on a way that enters no directory of these names and none that cannot be listed
(`below_of_mem`); every file on such a way is met (`mem_below`), and in the order of paths
(`pairwise_below`).
-/

namespace RouteInventory.Walk

open Disk FilePath

variable {plan : Plan}

/-! ### One step of a walk without links -/

theorem settle_eq (h : plan.disk.IsTree) (place : Place) (path : String) :
    plan.settle place path = .ok place := by
  rw [Plan.settle]
  split
  · next target hlink => exact absurd hlink h.not_link
  · rfl

theorem linkFault?_eq_none (h : plan.disk.IsTree) (way : List (Place × String))
    (here real : Place) (path : String) : plan.linkFault? way here real path = none := by
  have hlink : isLink plan.disk here = false := by
    rw [isLink]
    split
    · next target hlink => exact absurd hlink h.not_link
    · rfl
  rw [Plan.linkFault?, hlink]
  rfl

/-- What is met at an entry of a directory: nothing if it is passed over, and else the entry and
    what lies below it. -/
def Plan.atEntry (plan : Plan) (depth : Nat) (dir : String) (place : Place)
    (way : List (Place × String)) (inside : List DirRules) (name : String) : List Item :=
  let path := join dir name
  let here := place ++ [name]
  if plan.disk.isDirAt here then
    if plan.skips inside path name true then []
    else
      let rules := if plan.standard then rulesAt plan.disk plan.cwd path else []
      .entry path :: below plan depth path ((here, path) :: way) (rules ++ inside)
  else if plan.skips inside path name false then [] else [.entry path]

theorem below_eq_flatMap (h : plan.disk.IsTree) {dir : String} {place : Place}
    (hplace : plan.disk.openAt plan.cwd dir = .ok place) (depth : Nat)
    (way : List (Place × String)) (inside : List DirRules) :
    below plan (depth + 1) dir way inside =
      (plan.disk.names place).flatMap (plan.atEntry depth dir place way inside) := by
  rw [below_of_openAt hplace]
  refine List.flatMap_congr fun name _ => ?_
  simp only [Plan.met, settle_eq h, linkFault?_eq_none h, Plan.atEntry]

/-- A walk from a directory on meets it first, and then what lies below it. -/
theorem walk_eq {d : Disk} (hd : d.IsTree) {cwd place : Place} {root : String}
    (hinput : isInput root = false) (hplace : d.locate cwd root = .ok place)
    (hdir : d.isDirAt place = true) (user : UserDirs) (excluded : List ExclusionRule)
    (standard : Bool) : d.walk cwd user root excluded standard =
      .entry root :: below (d.plan cwd user root place excluded standard) (depthBound d) root
        [(place, root)] (if standard then rulesAt d cwd root else []) := by
  simp [Disk.walk, hinput, hplace, hdir, endsInLink_eq_false hd]

/-- A walk may go deeper than the disk is. -/
theorem length_lt_depthBound (d : Disk) (place : Place) :
    d.entries.length < depthBound d + place.length := by
  have : d.entries.length + 2 ≤ depthBound d := Nat.le_mul_of_pos_left _ (Nat.succ_pos _)
  omega

theorem eq_or_mem_of_mem_atEntry {depth : Nat} {dir : String} {place : Place}
    {way : List (Place × String)} {inside : List DirRules} {name : String} {item : Item}
    (h : item ∈ plan.atEntry depth dir place way inside name) :
    item = .entry (join dir name) ∨
      ∃ way inside, item ∈ below plan depth (join dir name) way inside := by
  rw [Plan.atEntry] at h
  split at h <;> split at h
  · cases h
  · exact (List.mem_cons.1 h).imp_right fun h => ⟨_, _, h⟩
  · cases h
  · exact .inl (List.mem_singleton.1 h)

theorem exists_way_of_mem_atEntry (h : plan.disk.IsTree) {depth : Nat} {dir : String}
    {place : Place} {way : List (Place × String)} {inside : List DirRules} {name : String}
    (hname : IsProper name) {path : String}
    (hpath : .entry path ∈ plan.atEntry depth dir place way inside name) :
    ∃ names, (∀ n ∈ name :: names, IsProper n) ∧ path = under dir (name :: names) := by
  rcases eq_or_mem_of_mem_atEntry hpath with hentry | ⟨_, _, hpath⟩
  · exact ⟨[], by simpa using hname, Item.entry.inj hentry⟩
  · obtain ⟨names, hnames, rfl⟩ := exists_way_of_mem_below h.isProper_of_mem_names hpath
    exact ⟨names, List.forall_mem_cons.2 ⟨hname, hnames.2⟩, rfl⟩

/-- A file that lies directly in a directory is met there unless it is passed over. -/
theorem mem_below_iff (h : plan.disk.IsTree) {dir : String} (hdir : dir ≠ "") {place : Place}
    (hplace : plan.disk.openAt plan.cwd dir = .ok place) {name : String}
    (hname : name ∈ plan.disk.names place) (hfile : plan.disk.isDirAt (place ++ [name]) = false)
    {depth : Nat} (hdepth : 0 < depth) (way : List (Place × String)) (inside : List DirRules) :
    .entry (join dir name) ∈ below plan depth dir way inside ↔
      plan.skips inside (join dir name) name false = false := by
  obtain ⟨depth, rfl⟩ := Nat.exists_eq_succ_of_ne_zero hdepth.ne'
  rw [below_eq_flatMap h hplace, List.mem_flatMap]
  have hproper := h.isProper_of_mem_names hname
  have hentry : plan.atEntry depth dir place way inside name =
      if plan.skips inside (join dir name) name false then [] else [.entry (join dir name)] := by
    rw [Plan.atEntry, hfile]
    rfl
  constructor
  · rintro ⟨other, hother, hmem⟩
    obtain ⟨names, hnames, hpath⟩ :=
      exists_way_of_mem_atEntry h (h.isProper_of_mem_names hother) hmem
    have hsingle : ∀ n ∈ [name], IsProper n := by simpa using hproper
    have hpath : under dir [name] = under dir (other :: names) := hpath
    obtain ⟨rfl, -⟩ := List.cons.inj (under_injective hdir hsingle hnames hpath)
    rw [hentry] at hmem
    split at hmem
    · cases hmem
    · next hkept => exact Bool.not_eq_true _ ▸ hkept
  · intro hkept
    refine ⟨name, hname, ?_⟩
    rw [hentry, hkept]
    exact List.mem_singleton_self _

/-! ### Walks that leave out directories by name -/

/-- A walk over a disk without links that leaves out the directories of some names, and nothing
    else. -/
structure Plan.LeavesOut (plan : Plan) (excluded : List String) : Prop where
  tree : plan.disk.IsTree
  root : plan.root ≠ ""
  rules : plan.excluded = excluded.map .ofName
  literal : ∀ name ∈ excluded, Selection.IsLiteral name
  standard : plan.standard = false

variable {excluded : List String}

/-- What is met at an entry of a directory: nothing if it is an excluded directory, and else the
    entry and what lies below it. -/
def Plan.atName (plan : Plan) (excluded : List String) (depth : Nat) (names : List String)
    (place : Place) (way : List (Place × String)) (inside : List DirRules) (name : String) :
    List Item :=
  let path := under plan.root (names ++ [name])
  let here := place ++ [name]
  if plan.disk.isDirAt here then
    if name ∈ excluded then []
    else .entry path :: below plan depth path ((here, path) :: way) inside
  else [.entry path]

/-- One step of the walk. -/
theorem below_succ (h : plan.LeavesOut excluded) {names : List String}
    (hnames : ∀ name ∈ names, IsProper name) {place : Place}
    (hplace : plan.disk.openAt plan.cwd (under plan.root names) = .ok place) (depth : Nat)
    (way : List (Place × String)) (inside : List DirRules) :
    below plan (depth + 1) (under plan.root names) way inside =
      (plan.disk.names place).flatMap (plan.atName excluded depth names place way inside) := by
  rw [below_eq_flatMap h.tree hplace]
  refine List.flatMap_congr fun name hname => ?_
  have hskips := Plan.skips_of_names h.rules h.literal h.standard h.root hnames
    (h.tree.isProper_of_mem_names hname) inside
  rw [Plan.atEntry, Plan.atName, under_concat]
  by_cases hdir : plan.disk.isDirAt (place ++ [name]) <;> by_cases hout : name ∈ excluded <;>
    simp [hskips, h.standard, hdir, hout]

/-! ### What is met -/

/-- Whether a path lies below a directory, on a way that enters no excluded directory and only such
    as can be listed. -/
def Below (d : Disk) (cwd : Place) (excluded : List String) (dir path : String) : Prop :=
  ∃ names, IsWay names ∧ (∀ name ∈ names.dropLast, name ∉ excluded) ∧
    (∀ front, front <+: names.dropLast → d.opens cwd (under dir front) = true) ∧
    path = under dir names

section

variable {d : Disk} {cwd : Place} {dir name : String}

theorem below_join (hname : IsProper name) (hdir : d.opens cwd dir = true) :
    Below d cwd excluded dir (join dir name) := by
  refine ⟨[name], ⟨by simp, by simpa using hname⟩, by simp, ?_, rfl⟩
  intro front hfront
  obtain rfl := List.prefix_nil.1 hfront
  exact hdir

theorem Below.of_join {path : String} (hname : IsProper name) (hout : name ∉ excluded)
    (hdir : d.opens cwd dir = true) (h : Below d cwd excluded (join dir name) path) :
    Below d cwd excluded dir path := by
  obtain ⟨names, ⟨hne, hnames⟩, hfree, hopens, rfl⟩ := h
  refine ⟨name :: names, ⟨by simp, List.forall_mem_cons.2 ⟨hname, hnames⟩⟩, ?_, ?_, rfl⟩ <;>
    rw [List.dropLast_cons_of_ne_nil hne]
  · exact List.forall_mem_cons.2 ⟨hout, hfree⟩
  · intro front hfront
    rcases List.prefix_cons_iff.1 hfront with rfl | ⟨rest, rfl, hrest⟩
    · exact hdir
    · exact hopens rest hrest

end

theorem mem_atName {depth : Nat} {names : List String} {place : Place}
    {way : List (Place × String)} {inside : List DirRules} {name : String} {item : Item}
    (h : item ∈ plan.atName excluded depth names place way inside name) :
    item = .entry (join (under plan.root names) name) ∨ name ∉ excluded ∧ ∃ way,
      item ∈ below plan depth (under plan.root (names ++ [name])) way inside := by
  rw [Plan.atName, under_concat] at h
  split_ifs at h with hdir hout
  · cases h
  · rcases List.mem_cons.1 h with h | h
    · exact .inl h
    · exact .inr ⟨hout, _, under_concat plan.root names name ▸ h⟩
  · exact .inl (List.mem_singleton.1 h)

/-- What is met lies below the directory. -/
theorem below_of_mem (h : plan.LeavesOut excluded) : ∀ {depth : Nat} {names : List String},
    (∀ name ∈ names, IsProper name) → ∀ {way : List (Place × String)} {inside : List DirRules}
    {path : String}, .entry path ∈ below plan depth (under plan.root names) way inside →
    Below plan.disk plan.cwd excluded (under plan.root names) path
  | 0, _, _, _, _, _, hpath => by simp [below] at hpath
  | depth + 1, names, hnames, way, inside, path, hpath => by
    cases hplace : plan.disk.openAt plan.cwd (under plan.root names) with
    | error cause => simp [below, hplace] at hpath
    | ok place =>
      rw [below_succ h hnames hplace, List.mem_flatMap] at hpath
      obtain ⟨name, hname, hpath⟩ := hpath
      have hname := h.tree.isProper_of_mem_names hname
      have hopens := opens_iff.2 ⟨place, hplace⟩
      rcases mem_atName hpath with hentry | ⟨hout, way, hpath⟩
      · rw [Item.entry.inj hentry]
        exact below_join hname hopens
      · have ih := below_of_mem h (List.forall_mem_append.2 ⟨hnames, by simpa using hname⟩) hpath
        rw [under_concat] at ih
        exact ih.of_join hname hout hopens

/-- Every entry that is no directory is met if no directory on the way to it is excluded and all of
    them can be listed, as long as the walk may go as deep as the disk is. -/
theorem mem_below (h : plan.LeavesOut excluded) : ∀ {depth : Nat} {names : List String},
    (∀ name ∈ names, IsProper name) → ∀ {place : Place},
    plan.disk.locate plan.cwd (under plan.root names) = .ok place →
    plan.disk.entries.length < depth + place.length → ∀ {more : List String}, IsWay more →
    (∀ name ∈ more.dropLast, name ∉ excluded) →
    (∀ front, front <+: more.dropLast →
      plan.disk.opens plan.cwd (under plan.root (names ++ front)) = true) → ∀ {found : Place},
    plan.disk.locate plan.cwd (under plan.root (names ++ more)) = .ok found →
    plan.disk.isDirAt found = false → ∀ (way : List (Place × String)) (inside : List DirRules),
    .entry (under plan.root (names ++ more)) ∈ below plan depth (under plan.root names) way inside
  | 0, names, hnames, place, hplace, hdepth, _, _, _, _, _, _, _, _, _ => by
    obtain ⟨node, hnode⟩ := Option.isSome_iff_exists.1 (node?_of_locate hplace)
    have := length_le_of_node? hnode
    omega
  | depth + 1, names, hnames, place, hplace, hdepth, more, hmore, hfree, hopens, found, hfound,
      hfile, way, inside => by
    obtain ⟨name, rest, rfl⟩ := List.exists_cons_of_ne_nil hmore.1
    obtain ⟨hname, hrest⟩ := List.forall_mem_cons.1 hmore.2
    have hnext : ∀ n ∈ names ++ [name], IsProper n :=
      List.forall_mem_append.2 ⟨hnames, by simpa using hname⟩
    rw [List.append_cons] at hfound ⊢
    obtain ⟨here, hhere, hfoundEq, hdir⟩ := locate_under h.tree h.root hnext hrest hfound
    obtain ⟨above, habove, rfl, -⟩ := locate_under h.tree h.root hnames (by simpa using hname) hhere
    obtain rfl : place = above := Except.ok.inj (hplace.symm.trans habove)
    have hlisted : plan.disk.openAt plan.cwd (under plan.root names) = .ok place := by
      have hhere := hopens [] (List.nil_prefix)
      rw [List.append_nil] at hhere
      obtain ⟨listed, hlisted⟩ := opens_iff.1 hhere
      obtain ⟨hlocate, -⟩ := openAt_eq_ok_iff.1 hlisted
      rwa [Except.ok.inj (hplace.symm.trans hlocate)]
    rw [below_succ h hnames hlisted, List.mem_flatMap]
    refine ⟨name, mem_names_iff.2 (node?_of_locate hhere), ?_⟩
    rw [Plan.atName]
    cases rest with
    | nil =>
      rw [List.append_nil] at hfoundEq ⊢
      rw [hfoundEq] at hfile
      simp [hfile]
    | cons next rest =>
      have hout : name ∉ excluded := hfree name List.mem_cons_self
      simp only [hdir (by simp), hout, if_true, if_false]
      refine List.mem_cons_of_mem _
        (mem_below h hnext hhere ?_ ⟨by simp, hrest⟩ ?_ ?_ hfound hfile _ _)
      · simp only [List.length_append, List.length_singleton]
        omega
      · exact fun n hn => hfree n (List.mem_cons_of_mem _ hn)
      · intro front hfront
        rw [← List.append_cons]
        exact hopens (name :: front) (List.cons_prefix_cons.2 ⟨rfl, hfront⟩)

/-! ### The order -/

/-- Whether the paths of two items are in order. -/
def InOrder (a b : Item) : Prop := ∀ p q, a = .entry p → b = .entry q → Before p q

theorem exists_way_of_mem_atName (h : plan.LeavesOut excluded) {depth : Nat} {names : List String}
    (hnames : ∀ name ∈ names, IsProper name) {place : Place} {way : List (Place × String)}
    {inside : List DirRules} {name : String} (hname : IsProper name) {path : String}
    (hpath : .entry path ∈ plan.atName excluded depth names place way inside name) :
    ∃ rest, (∀ n ∈ name :: rest, IsProper n) ∧ path = under plan.root (names ++ name :: rest) := by
  rcases mem_atName hpath with hentry | ⟨-, way, hpath⟩
  · refine ⟨[], by simpa using hname, ?_⟩
    rw [Item.entry.inj hentry, under_concat]
  · obtain ⟨rest, hrest, -, -, rfl⟩ :=
      below_of_mem h (List.forall_mem_append.2 ⟨hnames, by simpa using hname⟩) hpath
    refine ⟨rest, List.forall_mem_cons.2 ⟨hname, hrest.2⟩, ?_⟩
    rw [← under_append, ← List.append_cons]

/-- Items are met in the order of their paths. -/
theorem pairwise_below (h : plan.LeavesOut excluded) : ∀ {depth : Nat} {names : List String},
    (∀ name ∈ names, IsProper name) → ∀ (way : List (Place × String)) (inside : List DirRules),
    (below plan depth (under plan.root names) way inside).Pairwise InOrder
  | 0, _, _, _, _ => .nil
  | depth + 1, names, hnames, way, inside => by
    cases hplace : plan.disk.openAt plan.cwd (under plan.root names) with
    | error cause => simp [below, hplace]
    | ok place =>
      rw [below_succ h hnames hplace, List.pairwise_flatMap]
      constructor
      · intro name hname
        have hnext : ∀ n ∈ names ++ [name], IsProper n :=
          List.forall_mem_append.2 ⟨hnames, by simpa using h.tree.isProper_of_mem_names hname⟩
        rw [Plan.atName]
        split_ifs
        · exact .nil
        · refine List.pairwise_cons.2 ⟨?_, pairwise_below h hnext _ _⟩
          rintro item hitem p q hp rfl
          obtain rfl := Item.entry.inj hp
          obtain ⟨rest, hrest, -, -, rfl⟩ := below_of_mem h hnext hitem
          rw [← under_append]
          exact before_under h.root hnext hrest
        · exact List.pairwise_singleton _ _
      · refine (h.tree.pairwise_names place).imp_of_mem ?_
        rintro a b ha hb hab _ hpa _ hqb p q rfl rfl
        obtain ⟨_, hwayA, rfl⟩ :=
          exists_way_of_mem_atName h hnames (h.tree.isProper_of_mem_names ha) hpa
        obtain ⟨_, hwayB, rfl⟩ :=
          exists_way_of_mem_atName h hnames (h.tree.isProper_of_mem_names hb) hqb
        exact before_of_lt h.root hnames hab hwayA hwayB

end RouteInventory.Walk
