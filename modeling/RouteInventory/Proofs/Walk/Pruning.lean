import RouteInventory.Proofs.Disk.EntryNames
import RouteInventory.Proofs.Walk.Exclusions
import RouteInventory.Proofs.Walk.Steps

/-!
Leaving out more directories. When the directories of some names are added to those that a walk
leaves out, it meets what it met before, less the paths that go through such a directory
(`paths_walk_excluding`). This holds with links and with rule files: exclusions count before all
other rules, and those for names say nothing of anything else.
-/

namespace RouteInventory

open Disk FilePath

/-! ### Paths that go through no directory of some names -/

/-- The names on the way from a root to a path below it. -/
def FilePath.wayFrom (root path : String) : List String :=
  ((parts path).drop (parts root).length).filterMap fun
    | .name name => some name
    | _ => none

/-- Whether a path leads to a directory; it may be of any length. -/
def Disk.leadsToDir (d : Disk) (cwd : Place) (path : String) : Bool :=
  match d.canonical cwd path with
  | .ok place => d.isDirAt place
  | .error _ => false

/-- Whether a path goes through no directory of some names on its way from a root. The entry at its
    end is one of the directories if it is a directory. -/
def Disk.avoids (d : Disk) (cwd : Place) (root : String) (names : List String) (path : String) :
    Bool :=
  let way := wayFrom root path
  (if d.leadsToDir cwd path then way else way.dropLast).all (· ∉ names)

theorem FilePath.wayFrom_under {root : String} (hroot : root ≠ "") {way : List String}
    (hway : ∀ name ∈ way, IsProper name) : wayFrom root (under root way) = way := by
  rw [wayFrom, parts_under hroot hway, List.drop_left, List.filterMap_map]
  exact List.filterMap_some

section Avoids

variable {d : Disk} {cwd : Place} {root name : String} {names way rest : List String}

/-- What lies in a directory of one of the names does not avoid these, nor does the directory. -/
theorem Disk.avoids_eq_false (hroot : root ≠ "") (hway : ∀ n ∈ way ++ name :: rest, IsProper n)
    (hname : name ∈ names)
    (hdir : rest = [] → d.leadsToDir cwd (under root (way ++ [name])) = true) :
    d.avoids cwd root names (under root (way ++ name :: rest)) = false := by
  rw [avoids, wayFrom_under hroot hway, List.all_eq_false]
  refine ⟨name, ?_, by simpa using hname⟩
  cases rest with
  | nil =>
    rw [hdir rfl, if_pos rfl]
    simp
  | cons next rest =>
    split
    · simp
    · rw [List.dropLast_append_of_ne_nil (by simp), List.dropLast_cons_of_ne_nil (by simp)]
      simp

/-- An entry avoids the directories of some names if none of the names is on the way to it, and its
    own is none either or it is no directory. -/
theorem Disk.avoids_eq_true (hroot : root ≠ "") (hway : ∀ n ∈ way ++ [name], IsProper n)
    (hfree : ∀ n ∈ way, n ∉ names)
    (hname : d.leadsToDir cwd (under root (way ++ [name])) = true → name ∉ names) :
    d.avoids cwd root names (under root (way ++ [name])) = true := by
  rw [avoids, wayFrom_under hroot hway, List.all_eq_true]
  intro n hn
  rw [decide_eq_true_iff]
  split at hn
  · next hdir =>
    rcases List.mem_append.1 hn with hn | hn
    · exact hfree n hn
    · exact List.mem_singleton.1 hn ▸ hname hdir
  · rw [List.dropLast_concat] at hn
    exact hfree n hn

theorem Disk.avoids_root (d : Disk) (cwd : Place) (root : String) (names : List String) :
    d.avoids cwd root names root = true := by
  simp [avoids, wayFrom]

/-- What is no directory avoids them if none of the names is on the way to it. -/
theorem Disk.avoids_eq_of_leadsToDir {path : String} (h : d.leadsToDir cwd path = false)
    (root : String) (names : List String) :
    d.avoids cwd root names path = (wayFrom root path).dropLast.all (· ∉ names) := by
  rw [avoids, h]
  rfl

/-- A file of the disk is no directory. -/
theorem Disk.leadsToDir_of_isFile {path : String} (h : (d.view cwd).isFile path = true) :
    d.leadsToDir cwd path = false := by
  obtain ⟨place, hplace, hfile⟩ := exists_locate_of_isFile h
  rw [leadsToDir, canonical_of_locate hplace]
  exact hfile

end Avoids

/-! ### Rules that only leave out -/

/-- What rules say that all take in what they match, as exclusions do. -/
theorem ExclusionRule.verdict_of_keeps {rules : List ExclusionRule}
    (h : ∀ rule ∈ rules, rule.keeps = true) (path : String) (isDir : Bool) :
    verdict rules path isDir =
      if rules.any (·.holds (Text.encode path.toList) isDir) then .keep else .silent := by
  rw [verdict]
  cases hfind : rules.reverse.find? (·.holds (Text.encode path.toList) isDir) with
  | none =>
    rw [if_neg]
    rw [List.any_eq_true]
    rintro ⟨rule, hrule, hholds⟩
    exact List.find?_eq_none.1 hfind rule (List.mem_reverse.2 hrule) hholds
  | some rule =>
    have hrule := List.mem_reverse.1 (List.mem_of_find?_eq_some hfind)
    have hholds : rule.holds (Text.encode path.toList) isDir = true := by
      simpa using List.find?_some hfind
    rw [if_pos (List.any_eq_true.2 ⟨rule, hrule, hholds⟩)]
    simp only [h rule hrule, if_true]

/-- Whether rules are those given before and one for the directories of each of some names. -/
structure ExclusionRule.Adds (names : List String) (before after : List ExclusionRule) : Prop where
  keeps : ∀ rule ∈ before, rule.keeps = true
  literal : ∀ name ∈ names, Selection.IsLiteral name
  mem_iff : ∀ rule, rule ∈ after ↔ rule ∈ before ∨ rule ∈ names.map ofName

namespace Walk

variable {plan : Plan} {names : List String} {before after : List ExclusionRule}

/-- The same walk with other exclusions. -/
def Plan.excluding (plan : Plan) (rules : List ExclusionRule) : Plan :=
  { plan with excluded := rules }

/-- Exclusions decide what is passed over, and nothing else. -/
theorem Plan.met_excluding (rules : List ExclusionRule) (depth : Nat) (dir : String)
    (place : Place) (way : List (Place × String)) (inside : List DirRules) (name : String) :
    (plan.excluding rules).met depth dir place way inside name =
      let path := join dir name
      match plan.settle (place ++ [name]) path with
      | .error cause => [.broken path cause]
      | .ok real =>
        if plan.disk.isDirAt real then
          match plan.linkFault? way (place ++ [name]) real path with
          | some fault => [fault]
          | none =>
            if (plan.excluding rules).skips inside path name true then []
            else
              let more := if plan.standard then rulesAt plan.disk plan.cwd path else []
              .entry path ::
                below (plan.excluding rules) depth path ((real, path) :: way) (more ++ inside)
        else if (plan.excluding rules).skips inside path name false then []
        else [.entry path] := rfl

/-- An entry is passed over if an exclusion holds of it, or if it is without any exclusions. -/
theorem Plan.skips_excluding (h : ∀ rule ∈ before, rule.keeps = true) (inside : List DirRules)
    (path name : String) (isDir : Bool) :
    (plan.excluding before).skips inside path name isDir =
      (before.any (·.holds
          (Text.encode (relativeTo (dropDot plan.root) (dropDot path)).toList) isDir) ||
        (plan.excluding []).skips inside path name isDir) := by
  have hnone : ExclusionRule.verdict [] (relativeTo (dropDot plan.root) (dropDot path)) isDir =
      .silent := rfl
  rw [skips, skips]
  simp only [excluding, ExclusionRule.verdict_of_keeps h, hnone]
  cases before.any (·.holds
      (Text.encode (relativeTo (dropDot plan.root) (dropDot path)).toList) isDir) <;>
    simp [Verdict.invert, Verdict.orElse]
  rfl

/-- With the added names an entry is passed over if it was before, or if it is a directory of one of
    these names. -/
theorem Plan.skips_adds (h : ExclusionRule.Adds names before after) (hroot : plan.root ≠ "")
    {way : List String} (hway : ∀ n ∈ way, IsProper n) {name : String} (hname : IsProper name)
    (inside : List DirRules) (isDir : Bool) :
    (plan.excluding after).skips inside (join (under plan.root way) name) name isDir =
      ((plan.excluding before).skips inside (join (under plan.root way) name) name isDir ||
        (isDir && decide (name ∈ names))) := by
  have hkeeps : ∀ rule ∈ after, rule.keeps = true := by
    intro rule hrule
    rcases (h.mem_iff rule).1 hrule with hrule | hrule
    · exact h.keeps rule hrule
    · obtain ⟨n, -, rfl⟩ := List.mem_map.1 hrule
      rfl
  have hlast := lastPiece_relativeTo (goesOn_under plan.root hway hname)
  rw [lastPiece_join (under_ne_empty hroot hway) hname] at hlast
  have hany : after.any (·.holds (Text.encode (relativeTo (dropDot plan.root)
        (dropDot (join (under plan.root way) name))).toList) isDir) =
      (before.any (·.holds (Text.encode (relativeTo (dropDot plan.root)
        (dropDot (join (under plan.root way) name))).toList) isDir) ||
        (isDir && decide (name ∈ names))) := by
    rw [Bool.eq_iff_iff, Bool.or_eq_true, Bool.and_eq_true, decide_eq_true_iff, List.any_eq_true,
      List.any_eq_true]
    simp only [h.mem_iff, or_and_right, exists_or]
    refine or_congr_right ⟨?_, ?_⟩
    · rintro ⟨rule, hrule, hholds⟩
      obtain ⟨n, hn, rfl⟩ := List.mem_map.1 hrule
      obtain ⟨hdir, heq⟩ := (ExclusionRule.holds_ofName_iff (h.literal n hn) _ isDir).1 hholds
      rw [hlast, String.toList_inj] at heq
      exact ⟨hdir, heq ▸ hn⟩
    · rintro ⟨hdir, hmem⟩
      exact ⟨_, List.mem_map_of_mem hmem,
        (ExclusionRule.holds_ofName_iff (h.literal name hmem) _ isDir).2 ⟨hdir, hlast⟩⟩
  rw [skips_excluding hkeeps, skips_excluding h.keeps, hany, Bool.or_right_comm]

/-! ### What is met -/

/-- An entry's path leads where the walk takes it to lead. -/
theorem leadsToDir_of_settle (hd : plan.disk.WellNamed) {dir : String} {place real : Place}
    (hplace : plan.disk.locate plan.cwd dir = .ok place) {name : String}
    (hname : name ∈ plan.disk.names place)
    (hreal : plan.settle (place ++ [name]) (join dir name) = .ok real) :
    plan.disk.leadsToDir plan.cwd (join dir name) = plan.disk.isDirAt real := by
  have hcanonical : plan.disk.canonical plan.cwd (join dir name) = .ok real := by
    rw [Plan.settle] at hreal
    split at hreal
    · exact canonical_of_locate hreal
    · next hlink =>
      obtain rfl := Except.ok.inj hreal
      exact canonical_join hd hplace hname hlink
  rw [leadsToDir, hcanonical]

/-- Nothing that is met from a directory of one of the names on avoids these directories. -/
theorem filter_avoids_eq_nil (plan : Plan) (hd : plan.disk.WellNamed) (hroot : plan.root ≠ "")
    {way : List String} {name : String} (hway : ∀ n ∈ way ++ [name], IsProper n)
    (hname : name ∈ names)
    (hdir : plan.disk.leadsToDir plan.cwd (under plan.root (way ++ [name])) = true) (depth : Nat)
    (back : List (Place × String)) (inside : List DirRules) :
    (paths (.entry (under plan.root (way ++ [name])) ::
        below plan depth (under plan.root (way ++ [name])) back inside)).filter
      (plan.disk.avoids plan.cwd plan.root names) = [] := by
  rw [List.filter_eq_nil_iff]
  intro path hpath
  rw [Bool.not_eq_true]
  rcases List.mem_cons.1 (mem_paths_iff.1 hpath) with hhere | hbelow
  · rw [Item.entry.inj hhere]
    exact avoids_eq_false hroot hway hname fun _ => hdir
  · obtain ⟨rest, ⟨-, hrest⟩, rfl⟩ :=
      exists_way_of_mem_below (fun hmem => (hd.isEntryName_of_mem_names hmem).proper) hbelow
    rw [← under_append, ← List.append_cons]
    refine avoids_eq_false hroot ?_ hname fun _ => hdir
    rw [List.append_cons]
    exact List.forall_mem_append.2 ⟨hway, hrest⟩

section Excluding

variable (hd : plan.disk.WellNamed) (hroot : plan.root ≠ "")
  (h : ExclusionRule.Adds names before after)
include hd hroot h

/-- What is met at an entry, if what is met below it is what was met before less what goes through
    the added directories. -/
theorem paths_met_excluding {depth : Nat} {way : List String} (hway : ∀ n ∈ way, IsProper n)
    (hfree : ∀ n ∈ way, n ∉ names) {place : Place}
    (hplace : plan.disk.locate plan.cwd (under plan.root way) = .ok place) {name : String}
    (hname : name ∈ plan.disk.names place)
    (hbelow : name ∉ names → ∀ back inside,
      paths (below (plan.excluding after) depth (under plan.root (way ++ [name])) back inside) =
        (paths (below (plan.excluding before) depth (under plan.root (way ++ [name])) back
          inside)).filter (plan.disk.avoids plan.cwd plan.root names))
    (back : List (Place × String)) (inside : List DirRules) :
    paths ((plan.excluding after).met depth (under plan.root way) place back inside name) =
      (paths ((plan.excluding before).met depth (under plan.root way) place back inside
        name)).filter (plan.disk.avoids plan.cwd plan.root names) := by
  have hproper := (hd.isEntryName_of_mem_names hname).proper
  have hnext : ∀ n ∈ way ++ [name], IsProper n :=
    List.forall_mem_append.2 ⟨hway, by simpa using hproper⟩
  simp only [Plan.met_excluding, Plan.skips_adds h hroot hway hproper]
  cases hreal : plan.settle (place ++ [name]) (join (under plan.root way) name) with
  | error cause => rfl
  | ok real =>
    have hleads := leadsToDir_of_settle hd hplace hname hreal
    rw [← under_concat] at hleads ⊢
    have havoids : (plan.disk.leadsToDir plan.cwd _ = true → name ∉ names) →
        plan.disk.avoids plan.cwd plan.root names (under plan.root (way ++ [name])) = true :=
      avoids_eq_true hroot hnext hfree
    by_cases hdir : plan.disk.isDirAt real = true
    · simp only [hdir, Bool.true_and, if_true]
      split
      · -- a fault stays one, whatever is left out
        next fault hfault =>
        cases fault with
        | entry other => exact absurd hfault Plan.linkFault?_ne_entry
        | broken | refused | loop => rfl
      cases (plan.excluding before).skips inside (under plan.root (way ++ [name])) name true with
      | true => rfl
      | false =>
        by_cases hout : name ∈ names
        · simp only [hout, decide_true, Bool.or_true, if_true, Bool.false_eq_true, if_false]
          exact (filter_avoids_eq_nil (plan.excluding before) hd hroot hnext hout
            (hleads.trans hdir) _ _ _).symm
        · simp [paths_entry_cons, hout, havoids fun _ => hout, hbelow hout]
    · have havoids := havoids fun hlead => absurd (hleads ▸ hlead) hdir
      simp only [hdir, Bool.false_and, Bool.or_false, Bool.false_eq_true, if_false]
      cases (plan.excluding before).skips inside (under plan.root (way ++ [name])) name false with
      | true => rfl
      | false => simp [paths, havoids]

/-- Below a directory that lies in none of the added ones, a walk meets what it met before less what
    goes through the added directories. -/
theorem paths_below_excluding : ∀ (depth : Nat) {way : List String}, (∀ n ∈ way, IsProper n) →
    (∀ n ∈ way, n ∉ names) → ∀ (back : List (Place × String)) (inside : List DirRules),
    paths (below (plan.excluding after) depth (under plan.root way) back inside) =
      (paths (below (plan.excluding before) depth (under plan.root way) back inside)).filter
        (plan.disk.avoids plan.cwd plan.root names)
  | 0, _, _, _, _, _ => rfl
  | depth + 1, way, hway, hfree, back, inside => by
    cases hplace : plan.disk.openAt plan.cwd (under plan.root way) with
    | error cause =>
      have hfails : ∀ rules, (plan.excluding rules).disk.openAt (plan.excluding rules).cwd
          (under plan.root way) = .error cause := fun _ => hplace
      rw [below_of_error (hfails after), below_of_error (hfails before)]
      rfl
    | ok place =>
      have hplaces : ∀ rules, (plan.excluding rules).disk.openAt (plan.excluding rules).cwd
          (under plan.root way) = .ok place := fun _ => hplace
      obtain ⟨hlocate, -⟩ := openAt_eq_ok_iff.1 hplace
      rw [below_of_openAt (hplaces after), below_of_openAt (hplaces before), paths_flatMap,
        paths_flatMap, List.filter_flatMap]
      refine List.flatMap_congr fun name hname => ?_
      have hproper := (hd.isEntryName_of_mem_names hname).proper
      refine paths_met_excluding hd hroot h hway hfree hlocate hname (fun hout => ?_) back inside
      exact paths_below_excluding depth (List.forall_mem_append.2 ⟨hway, by simpa using hproper⟩)
        (List.forall_mem_append.2 ⟨hfree, by simpa using hout⟩)

end Excluding

/-- A walk that leaves out more directories meets what it met before, in the same order, less what
    goes through these directories. -/
theorem paths_walk_excluding {d : Disk} (hd : d.WellNamed)
    (h : ExclusionRule.Adds names before after) (cwd : Place) (user : UserDirs) (root : String)
    (standard : Bool) : paths (d.walk cwd user root after standard) =
      (paths (d.walk cwd user root before standard)).filter (d.avoids cwd root names) := by
  rw [Disk.walk, Disk.walk]
  split
  · next hinput =>
    have hwhole : parts root = [.name "-"] := by simpa [isInput] using hinput
    have hway : wayFrom root "<stdin>" = [] := by
      rw [wayFrom, hwhole]
      decide
    simp [paths, avoids, hway]
  cases hplace : d.locate cwd root with
  | error cause => rfl
  | ok place =>
    simp only
    split
    · split
      · rfl
      · simp only [paths_entry_cons, List.filter_cons, avoids_root, if_true, List.cons.injEq,
          true_and]
        have hplan : (d.plan cwd user root place [] standard).disk.WellNamed := hd
        have hroot : (d.plan cwd user root place [] standard).root ≠ "" := ne_empty_of_locate hplace
        exact paths_below_excluding hplan hroot h _ (List.forall_mem_nil IsProper)
          (List.forall_mem_nil _) _ _
    · simp [paths, avoids_root]

end Walk
end RouteInventory
