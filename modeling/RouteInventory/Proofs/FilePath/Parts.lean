import RouteInventory.FilePath
import RouteInventory.Proofs.Text.Pieces

/-!
The parts of a path, as they come from the pieces between its slashes. Pieces that are empty or a
lone point stand for nothing, and every other one for a part of its own. The parts of a path below a
directory are those of the directory and the names on the way (`parts_under`).
-/

namespace RouteInventory.FilePath

open Text

/-- Whether a piece after the first stands for a part. -/
def isSolid (piece : String) : Bool := piece ≠ "" ∧ piece ≠ "."

/-- The part that a solid piece stands for. -/
def ofPiece (piece : String) : Part := if piece = ".." then .up else .name piece

theorem ofPiece_injective : Function.Injective ofPiece := by
  intro a b h
  by_cases ha : a = ".." <;> by_cases hb : b = ".." <;> simp_all [ofPiece]

theorem filterMap_partOf (ps : List String) :
    ps.filterMap partOf = (ps.filter isSolid).map ofPiece := by
  rw [← List.filterMap_eq_map, List.filterMap_filter]
  refine List.filterMap_congr fun piece _ => ?_
  by_cases hempty : piece = ""
  · simp [partOf, isSolid, hempty]
  by_cases hpoint : piece = "."
  · simp [partOf, isSolid, hpoint]
  by_cases hup : piece = ".." <;> simp [partOf, isSolid, ofPiece, hempty, hpoint, hup]

theorem pieces_ne_nil (path : String) : pieces path ≠ [] := by
  simp [pieces, split, splitBy_ne_nil]

/-- The first piece of an absolute path is empty. -/
theorem pieces_of_isAbsolute {path : String} (h : isAbsolute path = true) :
    ∃ rest, pieces path = "" :: rest := by
  obtain ⟨cs, hcs⟩ := List.head?_eq_some_iff.1 (beq_iff_eq.1 h)
  refine ⟨(split '/' cs).map String.ofList, ?_⟩
  have hsplit : split '/' ('/' :: cs) = [] :: split '/' cs := @split_append_cons '/' [] cs
  rw [pieces, hcs, hsplit, List.map_cons]

/-- An absolute path goes from the root along its solid pieces. -/
theorem parts_of_isAbsolute {path : String} (h : isAbsolute path = true) :
    parts path = .root :: ((pieces path).filter isSolid).map ofPiece := by
  obtain ⟨rest, hrest⟩ := pieces_of_isAbsolute h
  rw [parts, hrest]
  simp only [h, if_true, List.singleton_append, filterMap_partOf]
  rfl

/-! ### Paths below a directory -/

/-- Whether a text can be the name of an entry. -/
def IsProper (name : String) : Prop := name ≠ "" ∧ name ≠ "." ∧ name ≠ ".." ∧ '/' ∉ name.toList

/-- Whether names can lead from a directory to something below it. -/
def IsWay (names : List String) : Prop := names ≠ [] ∧ ∀ name ∈ names, IsProper name

instance (name : String) : Decidable (IsProper name) :=
  inferInstanceAs (Decidable (_ ∧ _ ∧ _ ∧ _))

instance (names : List String) : Decidable (IsWay names) := inferInstanceAs (Decidable (_ ∧ _))

/-- The path that names lead to from a directory. -/
def under (dir : String) (names : List String) : String := names.foldl join dir

section Join

variable {dir name : String}

theorem not_isAbsolute_of_isProper (h : IsProper name) : isAbsolute name = false := by
  by_contra habs
  obtain ⟨cs, hcs⟩ := List.head?_eq_some_iff.1 (beq_iff_eq.1 (Bool.not_eq_false _ ▸ habs))
  exact h.2.2.2 (hcs ▸ List.mem_cons_self)

theorem pieces_of_isProper (h : IsProper name) : pieces name = [name] := by
  rw [pieces, split_eq_singleton h.2.2.2]
  simp

/-- A name comes after a slash: that of the directory, or one of its own. -/
theorem exists_toList_join (hdir : dir ≠ "") (h : IsProper name) :
    ∃ front, (join dir name).toList = front ++ '/' :: name.toList ∧
      (dir.toList = front ∨ dir.toList = front ++ ['/']) := by
  simp only [join, not_isAbsolute_of_isProper h, Bool.false_eq_true, if_false, hdir, false_or]
  split
  · next hlast =>
    obtain ⟨front, hfront⟩ := List.getLast?_eq_some_iff.1 hlast
    exact ⟨front, by simp [hfront], .inr hfront⟩
  · exact ⟨dir.toList, by simp, .inl rfl⟩

theorem join_ne_empty (hdir : dir ≠ "") (h : IsProper name) : join dir name ≠ "" := by
  obtain ⟨front, hjoin, -⟩ := exists_toList_join hdir h
  intro hempty
  rw [hempty] at hjoin
  simp at hjoin

theorem isAbsolute_join (hdir : dir ≠ "") (h : IsProper name) :
    isAbsolute (join dir name) = isAbsolute dir := by
  obtain ⟨front, hjoin, hfront⟩ := exists_toList_join hdir h
  have hne : dir.toList ≠ [] := mt String.toList_eq_nil_iff.1 hdir
  rw [isAbsolute, isAbsolute, hjoin]
  rcases hfront with hfront | hfront <;> rw [hfront] at hne ⊢ <;> cases front <;> simp_all

/-- The pieces of a directory, without an empty one at the end, and the name. -/
theorem exists_pieces_join (hdir : dir ≠ "") (h : IsProper name) :
    ∃ first rest, pieces (join dir name) = first :: rest ++ [name] ∧
      (pieces dir = first :: rest ∨ pieces dir = first :: rest ++ [""]) := by
  obtain ⟨front, hjoin, hfront⟩ := exists_toList_join hdir h
  obtain ⟨first, rest, hsplit⟩ := List.exists_cons_of_ne_nil (splitBy_ne_nil (· == '/') front)
  refine ⟨String.ofList first, rest.map String.ofList, ?_, ?_⟩
  · rw [pieces, hjoin, split_append_cons, split_eq_singleton h.2.2.2, split, hsplit]
    simp
  · rw [pieces]
    rcases hfront with hfront | hfront
    · left
      rw [hfront, split, hsplit, List.map_cons]
    · right
      rw [hfront, split_append_cons, split, hsplit]
      simp [split, splitBy]

/-- Behind a path that does not end in a slash, a name is one more piece. -/
theorem pieces_join (hdir : dir ≠ "") (h : IsProper name)
    (hlast : (pieces dir).getLast? ≠ some "") : pieces (join dir name) = pieces dir ++ [name] := by
  obtain ⟨first, rest, hjoin, hpieces | hpieces⟩ := exists_pieces_join hdir h
  · rw [hjoin, hpieces]
  · rw [hpieces, List.getLast?_concat] at hlast
    exact absurd rfl hlast

theorem partOf_of_isProper (h : IsProper name) : partOf name = some (.name name) := by
  simp [partOf, h.1, h.2.1, h.2.2.1]

theorem parts_join (hdir : dir ≠ "") (h : IsProper name) :
    parts (join dir name) = parts dir ++ [.name name] := by
  obtain ⟨first, rest, hjoin, hpieces⟩ := exists_pieces_join hdir h
  have hempty : partOf "" = none := rfl
  rw [parts, parts, hjoin, isAbsolute_join hdir h]
  rcases hpieces with hpieces | hpieces <;> rw [hpieces] <;>
    simp [List.filterMap_append, partOf_of_isProper h, hempty]

theorem fileName?_join (hdir : dir ≠ "") (h : IsProper name) :
    fileName? (join dir name) = some name := by
  rw [fileName?, parts_join hdir h, List.getLast?_concat]

/-- A path that begins with a name goes on from the directory of this name. -/
theorem join_join (h : IsProper name) {rest : String} (hrest : isAbsolute rest = false) :
    join (join dir name) rest = join dir (name ++ "/" ++ rest) := by
  have hne : name.toList ≠ [] := mt String.toList_eq_nil_iff.1 h.1
  have habs : isAbsolute (name ++ "/" ++ rest) = false := by
    have hname := not_isAbsolute_of_isProper h
    rw [isAbsolute] at hname ⊢
    cases hcs : name.toList <;> simp_all
  -- a slash comes between, whatever stands before the name
  have hslash : ∀ front : String,
      ¬ (front ++ name = "" ∨ (front ++ name).toList.getLast? = some '/') := by
    rintro front (hempty | hlast)
    · exact h.1 (String.append_eq_empty_iff.1 hempty).2
    · rw [String.toList_append, List.getLast?_append_of_ne_nil _ hne] at hlast
      exact h.2.2.2 (List.mem_of_getLast? hlast)
  simp only [join, hrest, habs, not_isAbsolute_of_isProper h, Bool.false_eq_true, if_false]
  split <;> rw [if_neg (hslash _)] <;> simp only [String.append_assoc]

end Join

theorem under_append (dir : String) (names more : List String) :
    under dir (names ++ more) = under (under dir names) more :=
  List.foldl_append

theorem under_concat (dir : String) (names : List String) (name : String) :
    under dir (names ++ [name]) = join (under dir names) name := by
  rw [under, List.foldl_concat, ← under]

theorem under_ne_empty {dir : String} (hdir : dir ≠ "") : ∀ {names : List String},
    (∀ name ∈ names, IsProper name) → under dir names ≠ ""
  | [], _ => hdir
  | name :: names, h => by
    obtain ⟨hname, hnames⟩ := List.forall_mem_cons.1 h
    exact under_ne_empty (join_ne_empty hdir hname) hnames

theorem parts_under {dir : String} (hdir : dir ≠ "") : ∀ {names : List String},
    (∀ name ∈ names, IsProper name) → parts (under dir names) = parts dir ++ names.map .name
  | [], _ => by simp [under]
  | name :: names, h => by
    obtain ⟨hname, hnames⟩ := List.forall_mem_cons.1 h
    have ih := parts_under (join_ne_empty hdir hname) hnames
    rw [parts_join hdir hname] at ih
    rw [under, List.foldl_cons, ← under, ih]
    simp

/-- A path below a directory tells its names. -/
theorem under_injective {dir : String} (hdir : dir ≠ "") {a b : List String}
    (ha : ∀ name ∈ a, IsProper name) (hb : ∀ name ∈ b, IsProper name)
    (h : under dir a = under dir b) : a = b := by
  have hparts := congrArg parts h
  rw [parts_under hdir ha, parts_under hdir hb] at hparts
  refine List.map_injective_iff.2 (fun x y hxy => ?_) (List.append_cancel_left hparts)
  exact Part.name.inj hxy

end RouteInventory.FilePath
