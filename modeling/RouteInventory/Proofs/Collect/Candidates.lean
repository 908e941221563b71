import RouteInventory.Collect
import RouteInventory.Proofs.Walk.Steps

/-!
The files among the items of a walk that are asked for. They come in the order of the items, part by
part (`candidates_flatMap`), and depend on nothing but what the view says of the entries
(`candidates_congr`).
-/

namespace RouteInventory

open Walk

/-- The files among some items that are asked for, tests included. -/
def Selection.candidates (sel : Selection) (view : FileView) (items : List Item) : List String :=
  (items.filterMap fun
    | .entry path => some path
    | _ => none).filter (sel.isCandidate view)

namespace Selection

variable {sel : Selection} {view other : FileView} {items : List Item}

theorem ofItems_eq (sel : Selection) (view : FileView) (items : List Item) :
    Collected.ofItems sel view items =
      { files := (sel.candidates view items).filter (!sel.leavesOutTest ·)
        skippedTests := ((sel.candidates view items).filter sel.leavesOutTest).length
        faults := items.filterMap Item.fault? } := rfl

theorem candidates_eq (sel : Selection) (view : FileView) (items : List Item) :
    sel.candidates view items = (paths items).filter (sel.isCandidate view) := rfl

theorem mem_candidates {path : String} :
    path ∈ sel.candidates view items ↔ .entry path ∈ items ∧ sel.isCandidate view path = true := by
  rw [candidates_eq, List.mem_filter, mem_paths_iff]

theorem candidates_append (a b : List Item) :
    sel.candidates view (a ++ b) = sel.candidates view a ++ sel.candidates view b := by
  simp [candidates]

theorem candidates_cons_congr (item : Item) {a b : List Item}
    (h : sel.candidates view a = sel.candidates view b) :
    sel.candidates view (item :: a) = sel.candidates view (item :: b) := by
  rw [← List.singleton_append, candidates_append, h, ← candidates_append, List.singleton_append]

theorem candidates_flatMap (names : List String) (f : String → List Item) :
    sel.candidates view (names.flatMap f) =
      names.flatMap fun name => sel.candidates view (f name) := by
  rw [candidates_eq, paths_flatMap, List.filter_flatMap]
  rfl

theorem candidates_eq_nil (h : ∀ path, .entry path ∈ items → view.isFile path = false) :
    sel.candidates view items = [] := by
  rw [List.eq_nil_iff_forall_not_mem]
  intro path hpath
  obtain ⟨hentry, hcandidate⟩ := mem_candidates.1 hpath
  rw [isCandidate, h path hentry] at hcandidate
  cases hcandidate

theorem candidates_congr
    (h : ∀ path, .entry path ∈ items → sel.isCandidate other path = sel.isCandidate view path) :
    sel.candidates other items = sel.candidates view items := by
  rw [candidates_eq, candidates_eq]
  exact List.filter_congr fun path hpath => h path (mem_paths_iff.1 hpath)

end Selection

theorem mem_files_ofItems {sel : Selection} {view : FileView} {items : List Item} {p : String} :
    p ∈ (Collected.ofItems sel view items).files ↔
      .entry p ∈ items ∧ sel.isCandidate view p = true ∧ sel.leavesOutTest p = false := by
  rw [Selection.ofItems_eq, List.mem_filter, Selection.mem_candidates, Bool.not_eq_true', and_assoc]

theorem collect_eq_ok_iff {sel : Selection} {d : Disk} {cwd : Place} {user : UserDirs}
    {view : FileView} {root : String} {c : Collected} :
    collect sel d cwd user view root = .ok c ↔
      view.isThere root = true ∧ view.isDir root = true ∧ ∃ rules, sel.exclusions = .ok rules ∧
        .ofItems sel view (d.walk cwd user root rules sel.respectGitignore) = c := by
  rw [collect]
  cases view.isThere root <;> cases view.isDir root <;> cases sel.exclusions <;> simp

/-- What is collected is a file. -/
theorem isFile_of_collect {sel : Selection} {d : Disk} {cwd : Place} {user : UserDirs}
    {view : FileView} {root : String} {c : Collected}
    (h : collect sel d cwd user view root = .ok c) : ∀ p ∈ c.files, view.isFile p = true := by
  obtain ⟨-, -, rules, -, rfl⟩ := collect_eq_ok_iff.1 h
  intro p hp
  obtain ⟨-, hcandidate, -⟩ := mem_files_ofItems.1 hp
  exact (Bool.and_eq_true_iff.1 hcandidate).1

end RouteInventory
