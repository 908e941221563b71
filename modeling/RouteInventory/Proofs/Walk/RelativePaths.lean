import RouteInventory.Proofs.FilePath.Parts
import RouteInventory.Walk
import Mathlib.Data.List.Induction

/-!
The paths that rules are matched against. They are the paths of the entries without the root of the
walk, as far as that can be told from the texts. Whatever is cut off, the last piece of what is left
is the last piece of the path (`lastPiece_relativeTo`), which is the name of the entry.
-/

namespace RouteInventory.Walk

open Text

/-- Whether a path goes on after a root, with a slash in between. -/
def GoesOn (root path : String) : Prop :=
  ∃ rest, path.toList = root.toList ++ rest ∧
    ('/' ∈ rest ∨ root = "" ∨ root.toList.getLast? = some '/')

theorem goesOn_join (root : String) {name : String} (hname : FilePath.IsProper name) :
    GoesOn root (FilePath.join root name) := by
  rw [FilePath.join, FilePath.not_isAbsolute_of_isProper hname, if_neg (by decide)]
  split
  · next hslash => exact ⟨name.toList, by simp, .inr hslash⟩
  · exact ⟨'/' :: name.toList, by simp, .inl List.mem_cons_self⟩

theorem GoesOn.join {root dir name : String} (h : GoesOn root dir)
    (hname : FilePath.IsProper name) : GoesOn root (FilePath.join dir name) := by
  obtain ⟨rest, hdir, hslash⟩ := h
  obtain ⟨more, hmore, -⟩ := goesOn_join dir hname
  refine ⟨rest ++ more, by rw [hmore, hdir, List.append_assoc], ?_⟩
  exact hslash.imp_left (List.mem_append_left _)

theorem dropFront?_eq_some_iff {front s rest : List Char} :
    ExclusionRule.dropFront? front s = some rest ↔ s = front ++ rest := by
  induction front generalizing s with
  | nil => simp [ExclusionRule.dropFront?, eq_comm]
  | cons a front ih =>
    cases s with
    | nil => simp [ExclusionRule.dropFront?]
    | cons c s =>
      by_cases hac : a = c
      · simp [ExclusionRule.dropFront?, hac, ih]
      · simp [ExclusionRule.dropFront?, hac, Ne.symm hac]

/-- What is dropped up to a slash leaves the last piece. -/
theorem lastPiece_dropFront {front : String} (hfront : front.toList.getLast? = some '/')
    (path : String) :
    lastPiece '/' (dropFront front path).toList = lastPiece '/' path.toList := by
  rw [dropFront]
  cases hdrop : ExclusionRule.dropFront? front.toList path.toList with
  | none => rfl
  | some rest =>
    obtain ⟨before, hbefore⟩ := List.getLast?_eq_some_iff.1 hfront
    rw [dropFront?_eq_some_iff.1 hdrop, hbefore, List.append_assoc, List.singleton_append,
      lastPiece_append_cons, String.toList_ofList]

theorem lastPiece_dropDot (path : String) :
    lastPiece '/' (dropDot path).toList = lastPiece '/' path.toList :=
  lastPiece_dropFront rfl path

/-- Without a root that it goes on after, a path has the same last piece. -/
theorem lastPiece_of_goesOn {root rest : List Char}
    (h : '/' ∈ rest ∨ root = [] ∨ root.getLast? = some '/') :
    lastPiece '/' (root ++ rest) = lastPiece '/' rest := by
  rcases h with h | rfl | h
  · obtain ⟨a, b, rfl, -⟩ := List.eq_append_cons_of_mem h
    rw [← List.append_assoc, lastPiece_append_cons, lastPiece_append_cons]
  · rfl
  · obtain ⟨before, rfl⟩ := List.getLast?_eq_some_iff.1 h
    rw [List.append_assoc, List.singleton_append, lastPiece_append_cons]

theorem pieces_point_slash (r : List Char) :
    FilePath.pieces (.ofList ('.' :: '/' :: r)) = "." :: FilePath.pieces (.ofList r) := by
  have hsplit : split '/' ('.' :: '/' :: r) = ['.'] :: split '/' r :=
    @split_append_cons '/' ['.'] r
  simp only [FilePath.pieces, String.toList_ofList, hsplit, List.map_cons]

/-- A text that begins with itself shifted by `./` consists of points and slashes. -/
theorem filterMap_partOf_of_shift {r x y : List Char} (h : r ++ x = '.' :: '/' :: (r ++ y)) :
    (FilePath.pieces (.ofList r)).filterMap FilePath.partOf = [] := by
  match r, h with
  | [], _ => rfl
  | [a], h =>
    obtain rfl := (List.cons.inj h).1
    rfl
  | a :: b :: r, h =>
    obtain ⟨rfl, hb⟩ := List.cons.inj h
    obtain ⟨rfl, hr⟩ := List.cons.inj hb
    have ih := filterMap_partOf_of_shift (r := r) hr
    rw [pieces_point_slash, List.filterMap_cons, ih]
    rfl

theorem isHere_of_shift {r x y : List Char} (hne : r ≠ [])
    (h : r ++ x = '.' :: '/' :: (r ++ y)) : isHere (.ofList r) = true := by
  match r, hne, h with
  | [a], _, h =>
    obtain rfl := (List.cons.inj h).1
    decide
  | a :: b :: r, _, h =>
    obtain ⟨rfl, hb⟩ := List.cons.inj h
    obtain ⟨rfl, hr⟩ := List.cons.inj hb
    have hrest := filterMap_partOf_of_shift (r := r) hr
    have habs : FilePath.isAbsolute (.ofList ('.' :: '/' :: r)) = false := by
      rw [FilePath.isAbsolute, String.toList_ofList]
      rfl
    simp only [isHere, FilePath.parts, pieces_point_slash, habs, hrest]
    decide

/-- A text without a `./` at its front, by cases. -/
theorem dropDot_cases (path : String) :
    (∃ rest, path.toList = '.' :: '/' :: rest ∧ dropDot path = .ofList rest) ∨
      dropDot path = path ∧ ∀ rest, path.toList ≠ '.' :: '/' :: rest := by
  have hfront : "./".toList = ['.', '/'] := rfl
  rw [dropDot, dropFront, hfront]
  cases hdrop : ExclusionRule.dropFront? ['.', '/'] path.toList with
  | some rest => exact .inl ⟨rest, dropFront?_eq_some_iff.1 hdrop, rfl⟩
  | none =>
    refine .inr ⟨rfl, fun rest hrest => ?_⟩
    rw [dropFront?_eq_some_iff.2 hrest] at hdrop
    cases hdrop

theorem GoesOn.dropDot {root path : String} (h : GoesOn root path) (hroot : root ≠ ".") :
    GoesOn (dropDot root) (dropDot path) := by
  obtain ⟨rest, hpath, hslash⟩ := h
  rcases dropDot_cases root with ⟨r, hr, hdrop⟩ | ⟨hdrop, hr⟩
  · -- both begin with `./`
    have hdropPath : Walk.dropDot path = .ofList (r ++ rest) := by
      rcases dropDot_cases path with ⟨p, hp, hdrop⟩ | ⟨-, hp⟩
      · rw [hpath, hr] at hp
        obtain rfl : r ++ rest = p := (List.cons.inj (List.cons.inj hp).2).2
        exact hdrop
      · exact absurd hpath (by rw [hr]; exact hp _)
    refine ⟨rest, by rw [hdropPath, hdrop, String.toList_ofList, String.toList_ofList], ?_⟩
    rcases hslash with hslash | rfl | hslash
    · exact .inl hslash
    · cases hr
    · rw [hr] at hslash
      cases r with
      | nil => exact .inr (.inl hdrop)
      | cons c r => exact .inr (.inr (by rw [hdrop]; simpa using hslash))
  · rcases dropDot_cases path with ⟨p, hp, -⟩ | ⟨hdropPath, -⟩
    · -- the path begins with `./` and the root does not, so that the root is empty
      obtain rfl : root = "" := by
        rw [hpath] at hp
        match hlist : root.toList with
        | [] => exact String.toList_eq_nil_iff.1 hlist
        | [a] =>
          rw [hlist] at hp
          obtain rfl := (List.cons.inj hp).1
          exact absurd (String.toList_inj.1 hlist) hroot
        | a :: b :: r' =>
          rw [hlist] at hp
          obtain ⟨rfl, hb⟩ := List.cons.inj hp
          obtain rfl := (List.cons.inj hb).1
          exact absurd hlist (hr r')
      rw [hdrop]
      exact ⟨_, rfl, .inr (.inl rfl)⟩
    · rw [hdrop, hdropPath]
      exact ⟨rest, hpath, hslash⟩

/-- What follows the root in a path without a `./` at its front comes after a slash as well. -/
theorem GoesOn.of_dropDot {root path : String} {rest : List Char} (h : GoesOn root path)
    (hhere : ¬ isHere root = true) (hrest : (Walk.dropDot path).toList = root.toList ++ rest) :
    '/' ∈ rest ∨ root.toList = [] ∨ root.toList.getLast? = some '/' := by
  obtain ⟨tail, hpath, hslash⟩ := h
  rcases dropDot_cases path with ⟨p, hp, hdrop⟩ | ⟨hdrop, -⟩
  · rw [hdrop, String.toList_ofList] at hrest
    by_contra hnot
    have hshift : root.toList ++ tail = '.' :: '/' :: (root.toList ++ rest) := by
      rw [← hpath, hp, hrest]
    have hpoints := isHere_of_shift (fun hnil => hnot (.inr (.inl hnil))) hshift
    rw [String.ofList_toList] at hpoints
    exact hhere hpoints
  · rw [hdrop, hpath] at hrest
    rw [← List.append_cancel_left hrest]
    exact hslash.imp_right (Or.imp_left String.toList_eq_nil_iff.2)

/-- The path that rules are matched against has the same last piece as the path itself. -/
theorem lastPiece_relativeTo {root path : String} (h : GoesOn root path) :
    lastPiece '/' (relativeTo (dropDot root) (dropDot path)).toList =
      lastPiece '/' path.toList := by
  have hpath : lastPiece '/' (dropDot (dropDot path)).toList = lastPiece '/' path.toList := by
    rw [lastPiece_dropDot, lastPiece_dropDot]
  rw [relativeTo]
  split
  · exact hpath
  · next hhere =>
    rw [not_or] at hhere
    split
    · exact hpath
    · next rest hrest =>
      have hrest := dropFront?_eq_some_iff.1 hrest
      have hroot : root ≠ "." := by
        rintro rfl
        exact hhere.1 rfl
      rw [lastPiece_dropFront rfl, String.toList_ofList, ← hpath, hrest]
      exact (lastPiece_of_goesOn ((h.dropDot hroot).of_dropDot hhere.1 hrest)).symm

theorem lastPiece_join {dir name : String} (hdir : dir ≠ "") (hname : FilePath.IsProper name) :
    lastPiece '/' (FilePath.join dir name).toList = name.toList := by
  obtain ⟨front, hjoin, -⟩ := FilePath.exists_toList_join hdir hname
  rw [hjoin, lastPiece_append_cons, lastPiece_of_not_mem hname.2.2.2]

theorem goesOn_under (root : String) {names : List String}
    (hnames : ∀ name ∈ names, FilePath.IsProper name) {name : String}
    (hname : FilePath.IsProper name) :
    GoesOn root (FilePath.join (FilePath.under root names) name) := by
  induction names using List.reverseRecOn generalizing name with
  | nil => exact goesOn_join root hname
  | append_singleton names last ih =>
    obtain ⟨hnames, hlast⟩ := List.forall_mem_append.1 hnames
    rw [FilePath.under_concat]
    exact (ih hnames (hlast last List.mem_cons_self)).join hname

end RouteInventory.Walk
