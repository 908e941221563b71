import RouteInventory.Proofs.MemoryStore.History

/-!
Which lists of operations make a tree. Above everything that is there something is there, since an
operation makes what is missing above its path. It need not be a directory: neither a file on the
way nor what lies below a new file is looked at. So a tree comes out exactly if no operation names
something below a path at which a file was added last (`formsTree_run_iff`).
-/

namespace RouteInventory.MemoryStore

open FilePath

/-- Whether a path lies above another: its parts, once both are placed, are the first of the
    other's, but not all of them. -/
def IsAbove (p q : String) : Prop :=
  parts (placed p) <+: parts (placed q) ∧ parts (placed p) ≠ parts (placed q)

instance (p q : String) : Decidable (IsAbove p q) := inferInstanceAs (Decidable (_ ∧ _))

/-- Whether what a view shows is a tree: above everything that is there lie directories. -/
def FormsTree (view : FileView) : Prop :=
  ∀ p q, IsAbove p q → view.isThere q = true →
    view.isThere p = true ∧ view.isDir p = true ∧ view.isFile p = false

/-! ### What lies below a path -/

theorem namesBelow_iff_isAbove {op : Op} {p : String} : op.NamesBelow p ↔ IsAbove p op.path := by
  rw [Op.NamesBelow, Op.Names, IsAbove, ne_comm]

theorem IsAbove.trans_prefix {p q r : String} (h : IsAbove p q)
    (hr : parts (placed q) <+: parts (placed r)) : IsAbove p r := by
  refine ⟨h.1.trans hr, fun heq => h.2 ?_⟩
  rw [← heq] at hr
  exact h.1.eq_of_length (Nat.le_antisymm h.1.length_le hr.length_le)

/-- Something is at a path if an operation names it or something below it. -/
theorem isThere_run_iff {ops : List Op} {q : String} :
    (run ops).view.isThere q = true ↔
      ∃ op ∈ ops, parts (placed q) <+: parts (placed op.path) := by
  have hget := get?_run ops q
  rw [view]
  simp only [hget]
  constructor
  · intro hthere
    cases hlatest : latest? ops q with
    | some op =>
      have hnames : op.Names q := by simpa using List.find?_some hlatest
      refine ⟨op, List.mem_reverse.1 (List.mem_of_find?_eq_some hlatest), ?_⟩
      exact hnames ▸ List.prefix_rfl
    | none =>
      by_cases hbelow : ∃ op ∈ ops, op.NamesBelow q
      · obtain ⟨op, hop, hprefix, -⟩ := hbelow
        exact ⟨op, hop, hprefix⟩
      · simp [hlatest, hbelow] at hthere
  · rintro ⟨op, hop, hprefix⟩
    by_cases hnames : op.Names q
    · cases hlatest : latest? ops q with
      | some last => simp
      | none => exact absurd hnames (latest?_eq_none_iff.1 hlatest op hop)
    · have hbelow : ∃ op ∈ ops, op.NamesBelow q := ⟨op, hop, hprefix, hnames⟩
      cases latest? ops q <;> simp [hbelow]

/-- Something is below a path if an operation names something there. -/
theorem exists_isThere_below_iff {ops : List Op} {p : String} :
    (∃ q, IsAbove p q ∧ (run ops).view.isThere q = true) ↔ ∃ op ∈ ops, op.NamesBelow p := by
  constructor
  · rintro ⟨q, habove, hthere⟩
    obtain ⟨op, hop, hprefix⟩ := isThere_run_iff.1 hthere
    exact ⟨op, hop, namesBelow_iff_isAbove.2 (habove.trans_prefix hprefix)⟩
  · rintro ⟨op, hop, hbelow⟩
    exact ⟨op.path, namesBelow_iff_isAbove.1 hbelow,
      isThere_run_iff.2 ⟨op, hop, List.prefix_rfl⟩⟩

/-- Where something is below, there is what was added last, or else a directory. -/
theorem get?_run_of_namesBelow {ops : List Op} {p : String} (h : ∃ op ∈ ops, op.NamesBelow p) :
    (run ops).get? (keyOf p) = some (((latest? ops p).map Op.entry).getD .dir) := by
  rw [get?_run, if_pos h]
  cases latest? ops p <;> rfl

theorem latest?_congr {p q : String} (h : parts (placed p) = parts (placed q)) (ops : List Op) :
    latest? ops p = latest? ops q := by
  rw [latest?, latest?]
  congr 1
  funext op
  exact decide_eq_decide.2 (by rw [Op.Names, Op.Names, h])

/-! ### Trees -/

/-- A tree comes out if at every path with something below it the last addition, if there is one, is
    a directory's. -/
theorem formsTree_run_iff_latest (ops : List Op) :
    FormsTree (run ops).view ↔ ∀ p, (∃ op ∈ ops, op.NamesBelow p) →
      ∀ last, latest? ops p = some last → last.entry = .dir := by
  constructor
  · intro htree p hbelow last hlast
    obtain ⟨q, habove, hthere⟩ := exists_isThere_below_iff.2 hbelow
    obtain ⟨-, hdir, -⟩ := htree p q habove hthere
    rw [view] at hdir
    simpa [get?_run_of_namesBelow hbelow, hlast] using hdir
  · intro hlatest p q habove hthere
    have hbelow := exists_isThere_below_iff.1 ⟨q, habove, hthere⟩
    have hdir : ((latest? ops p).map Op.entry).getD .dir = .dir := by
      cases hlast : latest? ops p with
      | none => rfl
      | some last => exact hlatest p hbelow last hlast
    simp [view, get?_run_of_namesBelow hbelow, hdir]

/-- Above everything that is there something is there; and the store is a tree exactly if no
    operation names something below a path at which a file was added last. -/
theorem formsTree_run_iff (ops : List Op) :
    (∀ p q, IsAbove p q → (run ops).view.isThere q = true → (run ops).view.isThere p = true) ∧
    (FormsTree (run ops).view ↔
      ∀ file ∈ ops, file.entry ≠ .dir → latest? ops file.path = some file →
        ∀ op ∈ ops, ¬ op.NamesBelow file.path) := by
  refine ⟨fun p q habove hthere => ?_, ?_⟩
  · obtain ⟨op, hop, hbelow⟩ := exists_isThere_below_iff.1 ⟨q, habove, hthere⟩
    exact isThere_run_iff.2 ⟨op, hop, hbelow.1⟩
  rw [formsTree_run_iff_latest]
  constructor
  · intro hlatest file _ hfile hlast op hop hbelow
    exact hfile (hlatest file.path ⟨op, hop, hbelow⟩ file hlast)
  · intro hfree p hbelow last hlast
    by_contra hfile
    obtain ⟨op, hop, hbelow⟩ := hbelow
    have hmem : last ∈ ops := List.mem_reverse.1 (List.mem_of_find?_eq_some hlast)
    have hnames : last.Names p := by simpa using List.find?_some hlast
    rw [← latest?_congr hnames] at hlast
    refine hfree last hmem hfile hlast op hop ?_
    rwa [Op.NamesBelow, Op.Names, hnames]

/-- A file below a file, and a file where something is below already. -/
theorem not_formsTree_of_file_above_file :
    ¬ FormsTree (run [.addFile "a" "", .addFile "a/b.js" ""]).view ∧
      ¬ FormsTree (run [.addFile "a/b.js" "", .addFile "a" ""]).view := by
  constructor <;> intro htree
  all_goals
    have hdir := (htree "a" "a/b.js" (by decide) (by decide)).2.1
    revert hdir
    decide

end RouteInventory.MemoryStore
