import RouteInventory.Proofs.FilePath.Parts
import RouteInventory.Walk

/-!
One step of a walk, links or not. A step meets the entries of a directory, name by name
(`below_of_openAt`), so that whatever is met below a directory is reached from it by names
(`exists_way_of_mem_below`). The paths of what is met are those of the entries among the items.
-/

namespace RouteInventory.Walk

open FilePath

variable {plan : Plan}

/-- What is met at an entry of a directory: a fault if a link leads nowhere, back or to a directory
    that cannot be listed, nothing if the entry is passed over, and else the entry and what lies below
    it. -/
def Plan.met (plan : Plan) (depth : Nat) (dir : String) (place : Place)
    (way : List (Place × String)) (inside : List DirRules) (name : String) : List Item :=
  let here := place ++ [name]
  let path := join dir name
  match plan.settle here path with
  | .error cause => [.broken path cause]
  | .ok real =>
    if plan.disk.isDirAt real then
      match plan.linkFault? way here real path with
      | some fault => [fault]
      | none =>
        if plan.skips inside path name true then []
        else
          let rules := if plan.standard then rulesAt plan.disk plan.cwd path else []
          .entry path :: below plan depth path ((real, path) :: way) (rules ++ inside)
    else if plan.skips inside path name false then [] else [.entry path]

theorem below_of_openAt {dir : String} {place : Place}
    (hplace : plan.disk.openAt plan.cwd dir = .ok place) (depth : Nat)
    (way : List (Place × String)) (inside : List DirRules) :
    below plan (depth + 1) dir way inside =
      (plan.disk.names place).flatMap (plan.met depth dir place way inside) := by
  rw [below, hplace]
  rfl

/-- A directory that is not found or cannot be listed is a fault. -/
theorem below_of_error {dir : String} {cause : OsError}
    (h : plan.disk.openAt plan.cwd dir = .error cause) (depth : Nat)
    (way : List (Place × String)) (inside : List DirRules) :
    below plan (depth + 1) dir way inside = [.broken dir cause] := by
  rw [below, h]

/-- What is wrong with a link is no entry. -/
theorem Plan.linkFault?_ne_entry {way : List (Place × String)} {here real : Place}
    {path other : String} : plan.linkFault? way here real path ≠ some (.entry other) := by
  rw [linkFault?]
  split
  · split
    · nofun
    · cases ancestorAt way real <;> nofun
  · nofun

theorem eq_or_mem_of_mem_met {depth : Nat} {dir : String} {place : Place}
    {way : List (Place × String)} {inside : List DirRules} {name path : String}
    (h : .entry path ∈ plan.met depth dir place way inside name) :
    path = join dir name ∨
      ∃ way inside, .entry path ∈ below plan depth (join dir name) way inside := by
  rw [Plan.met] at h
  split at h
  · cases List.mem_singleton.1 h
  split at h
  · split at h
    · next fault hfault =>
      rw [← List.mem_singleton.1 h] at hfault
      exact absurd hfault Plan.linkFault?_ne_entry
    split at h
    · cases h
    · exact (List.mem_cons.1 h).imp Item.entry.inj fun h => ⟨_, _, h⟩
  · split at h
    · cases h
    · exact .inl (Item.entry.inj (List.mem_singleton.1 h))

/-- What is met below a directory is reached from it by names. -/
theorem exists_way_of_mem_below
    (hproper : ∀ {place : Place} {name : String}, name ∈ plan.disk.names place → IsProper name) :
    ∀ {depth : Nat} {dir : String} {way : List (Place × String)} {inside : List DirRules}
    {path : String}, .entry path ∈ below plan depth dir way inside →
    ∃ names, IsWay names ∧ path = under dir names
  | 0, _, _, _, _, hpath => by simp [below] at hpath
  | depth + 1, dir, way, inside, path, hpath => by
    cases hplace : plan.disk.openAt plan.cwd dir with
    | error cause =>
      rw [below_of_error hplace] at hpath
      cases List.mem_singleton.1 hpath
    | ok place =>
      rw [below_of_openAt hplace, List.mem_flatMap] at hpath
      obtain ⟨name, hname, hpath⟩ := hpath
      have hname := hproper hname
      rcases eq_or_mem_of_mem_met hpath with rfl | ⟨_, _, hpath⟩
      · exact ⟨[name], ⟨by simp, by simpa using hname⟩, rfl⟩
      · obtain ⟨names, hnames, rfl⟩ := exists_way_of_mem_below hproper hpath
        exact ⟨name :: names, ⟨by simp, List.forall_mem_cons.2 ⟨hname, hnames.2⟩⟩, rfl⟩

/-! ### The rules of the user -/

/-- A walk looks at the rules that the user has only if rule files count, and at nothing else of the
    user. -/
theorem walk_congr {d : Disk} {cwd : Place} {user other : UserDirs} {standard : Bool}
    (h : standard = true → user.rules d cwd = other.rules d cwd) (root : String)
    (excluded : List ExclusionRule) :
    d.walk cwd user root excluded standard = d.walk cwd other root excluded standard := by
  have hrules : (if standard then user.rules d cwd else []) =
      if standard then other.rules d cwd else [] := ite_congr rfl h fun _ => rfl
  simp only [Disk.walk, Disk.plan, hrules]

/-! ### The entries among some items -/

/-- The paths of the entries among some items. -/
def paths (items : List Item) : List String :=
  items.filterMap fun
    | .entry path => some path
    | _ => none

theorem mem_paths_iff {items : List Item} {path : String} :
    path ∈ paths items ↔ .entry path ∈ items := by
  rw [paths, List.mem_filterMap]
  constructor
  · rintro ⟨item, hitem, hpath⟩
    cases item with
    | entry path => exact Option.some.inj hpath ▸ hitem
    | broken | refused | loop => cases hpath
  · exact fun h => ⟨_, h, rfl⟩

theorem paths_entry_cons (path : String) (items : List Item) :
    paths (.entry path :: items) = path :: paths items := rfl

theorem paths_flatMap (xs : List String) (f : String → List Item) :
    paths (xs.flatMap f) = xs.flatMap fun x => paths (f x) := by
  simp only [paths, List.filterMap_flatMap]

end RouteInventory.Walk
