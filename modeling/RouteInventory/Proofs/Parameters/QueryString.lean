import RouteInventory.Parameters
import RouteInventory.Proofs.Text.Decimal
import RouteInventory.Proofs.Text.Pieces
import RouteInventory.Settings
import Mathlib.Data.List.Basic

/-!
When a query string can be read back. Its pieces are `name=<tag><number>`, joined by ampersands; it
is well formed if it splits at its ampersands into such pieces again, numbered from one, whose names
hold neither of the two separators. That is so exactly if the names that it was made from do not
hold them (`wellFormed_render_iff`): the number at the end of the last piece says how many pieces
there are.
-/

namespace RouteInventory.QueryString

open Text

/-- Empty, or at every ampersand split into pieces of which the `i`-th, counted from one, is a name,
    an equals sign, the tag and `i`. -/
def WellFormed (tag q : String) : Prop :=
  q = "" ∨ ∀ i piece, (split '&' q.toList)[i]? = some piece →
    ∃ name : List Char, name ≠ [] ∧ '=' ∉ name ∧ '&' ∉ name ∧
      piece = name ++ '=' :: (tag.toList ++ (toString (i + 1)).toList)

/-! ### Values -/

/-- What a piece sets its name to. -/
def value (tag : String) (n : Nat) : List Char := tag.toList ++ (toString n).toList

theorem piece_eq (tag : String) (n : Nat) (name : String) :
    piece tag n name = name.toList ++ '=' :: value tag n := by
  simp [piece, value]

/-- A value tells its number. -/
theorem value_injective {tag : String} {m n : Nat} (h : value tag m = value tag n) : m = n := by
  have hdigits : Nat.toDigits 10 m = Nat.toDigits 10 n := by
    rw [← toList_toString, ← toList_toString]
    exact List.append_cancel_left h
  have hread := congrArg (Nat.ofDigitChars 10 · 0) hdigits
  simpa [Nat.ofDigitChars_toDigits] using hread

/-- A value holds no character that is neither in the tag nor a digit. -/
theorem not_mem_value {c : Char} {tag : String} (htag : c ∉ tag.toList) (hc : c.isDigit = false)
    (n : Nat) : c ∉ value tag n := by
  intro h
  rcases List.mem_append.1 h with h | h
  · exact htag h
  · exact absurd (isDigit_of_mem_toString h) (by simp [hc])

/-- A usable tag holds no separator. -/
theorem not_mem_of_isUsableTag {tag : String} (htag : Settings.isUsableTag tag = true) :
    '=' ∉ tag.toList ∧ '&' ∉ tag.toList := by
  simp only [Settings.isUsableTag, Bool.and_eq_true, Bool.not_eq_true', List.any_eq_false,
    Bool.or_eq_true, beq_iff_eq, not_or] at htag
  exact ⟨fun h => (htag.2 _ h).1.2 rfl, fun h => (htag.2 _ h).1.1 rfl⟩

/-! ### Pieces -/

theorem length_pieces (tag : String) (n : Nat) (names : List String) :
    (pieces tag n names).length = names.length := by
  induction names generalizing n with
  | nil => rfl
  | cons name names ih => rw [pieces, List.length_cons, List.length_cons, ih]

theorem getElem?_pieces (tag : String) (n : Nat) (names : List String) (i : Nat) :
    (pieces tag n names)[i]? = names[i]?.map (piece tag (n + i)) := by
  induction names generalizing n i with
  | nil => rfl
  | cons name names ih =>
    cases i with
    | zero => rfl
    | succ i =>
      rw [pieces, List.getElem?_cons_succ, List.getElem?_cons_succ, ih, Nat.add_assoc,
        Nat.add_comm 1]

/-- The last piece ends in its number. -/
theorem exists_join_pieces (tag : String) (n : Nat) {names : List String} (hne : names ≠ []) :
    ∃ front, join '&' (pieces tag n names) = front ++ '=' :: value tag (n + names.length - 1) := by
  induction names generalizing n with
  | nil => exact absurd rfl hne
  | cons name names ih =>
    cases names with
    | nil => exact ⟨name.toList, piece_eq tag n name⟩
    | cons next rest =>
      obtain ⟨front, hfront⟩ := ih (n + 1) (by simp)
      refine ⟨piece tag n name ++ '&' :: front, ?_⟩
      have hlast : n + 1 + (next :: rest).length - 1 = n + (name :: next :: rest).length - 1 := by
        simp only [List.length_cons]
        omega
      rw [← hlast, List.append_assoc, List.cons_append, ← hfront]
      rfl

/-- Names without ampersands are split where they were joined. -/
theorem split_join_pieces {tag : String} (htag : '&' ∉ tag.toList) (n : Nat)
    {names : List String} (hne : names ≠ []) (hamp : ∀ name ∈ names, '&' ∉ name.toList) :
    split '&' (join '&' (pieces tag n names)) = pieces tag n names := by
  refine split_join ?_ ?_
  · intro p hp hmem
    obtain ⟨i, hi⟩ := List.mem_iff_getElem?.1 hp
    rw [getElem?_pieces] at hi
    obtain ⟨name, hname, rfl⟩ := Option.map_eq_some_iff.1 hi
    rw [piece_eq, List.mem_append, List.mem_cons] at hmem
    rcases hmem with hmem | hmem | hmem
    · exact hamp name (List.mem_of_getElem? hname) hmem
    · exact absurd hmem (by decide)
    · exact not_mem_value htag (by decide) _ hmem
  · rw [← List.length_pos_iff, length_pieces, List.length_pos_iff]
    exact hne

/-! ### The query string -/

/-- If the joined pieces of names are well formed, no name holds an ampersand. -/
theorem amp_not_mem_of_wellFormed {tag : String} (htag : '=' ∉ tag.toList ∧ '&' ∉ tag.toList)
    {names : List String} {q : String} (hq : q.toList = join '&' (pieces tag 1 names))
    (hne : names ≠ [])
    (h : ∀ i piece, (split '&' q.toList)[i]? = some piece →
      ∃ name : List Char, name ≠ [] ∧ '=' ∉ name ∧ '&' ∉ name ∧
        piece = name ++ '=' :: value tag (i + 1)) :
    ∀ name ∈ names, '&' ∉ name.toList := by
  -- the last piece has the number of names, and the number of pieces
  have hlength : (split '&' q.toList).length = names.length := by
    obtain ⟨front, hfront⟩ := exists_join_pieces tag 1 hne
    have hvalue : '&' ∉ '=' :: value tag (1 + names.length - 1) := by
      rw [List.mem_cons, not_or]
      exact ⟨by decide, not_mem_value htag.2 (by decide) _⟩
    obtain ⟨before, last, -, hsplit⟩ := exists_split_append hvalue front
    rw [hq, hfront, hsplit] at h ⊢
    obtain ⟨name, -, hname, -, hpiece⟩ := h before.length _ (List.getElem?_concat_length ..)
    have hnumbered := not_mem_value htag.1 (by decide) (before.length + 1)
    obtain ⟨-, -, hnumber⟩ := (List.append_cons_inj_of_notMem hname hnumbered).1 hpiece.symm
    have := value_injective hnumber
    rw [List.length_append, List.length_singleton]
    omega
  have hpieces : pieces tag 1 names ≠ [] := by
    rw [← List.length_pos_iff, length_pieces, List.length_pos_iff]
    exact hne
  have hcount := @count_join '&' _ hpieces
  rw [length_split, hq, hcount, length_pieces] at hlength
  have hnone : (pieces tag 1 names).flatten.count '&' = 0 := by omega
  intro name hname hamp
  obtain ⟨i, hi⟩ := List.mem_iff_getElem?.1 hname
  have hget : (pieces tag 1 names)[i]? = some (piece tag (1 + i) name) := by
    rw [getElem?_pieces, hi, Option.map_some]
  have hpiece : '&' ∈ piece tag (1 + i) name := by
    rw [piece_eq]
    exact List.mem_append_left _ hamp
  exact List.count_eq_zero.1 hnone (List.mem_flatten.2 ⟨_, List.mem_of_getElem? hget, hpiece⟩)

theorem toList_render (body query : List FileItems) (tag : String) :
    (render body query tag).toList = join '&' (pieces tag 1 (names body query)) := by
  rw [render, String.toList_ofList]

/-- A query string is empty if there are no names: each piece holds an equals sign. -/
theorem render_eq_empty_iff {body query : List FileItems} {tag : String} :
    render body query tag = "" ↔ names body query = [] := by
  rw [← String.toList_eq_nil_iff, toList_render]
  constructor
  · intro h
    by_contra hne
    obtain ⟨front, hfront⟩ := exists_join_pieces tag 1 hne
    rw [hfront] at h
    simp at h
  · intro h
    rw [h]
    rfl

/-- The query string sets what is left of the given names without their colons. -/
theorem mem_names_iff {body query : List FileItems} {name : String} :
    name ∈ names body query ↔
      name ≠ "" ∧ ∃ given, (given ∈ body.flatMap (·.items) ∨ given ∈ query.flatMap (·.items)) ∧
        given.toList.filter (· ≠ ':') = name.toList := by
  rw [names, ← OrderedSet.mem_def, OrderedSet.mem_ofList, List.mem_filter, List.mem_map,
    and_comm, decide_eq_true_iff]
  refine and_congr_right fun _ => exists_congr fun given => ?_
  rw [List.flatMap_append, List.mem_append]
  refine and_congr_right fun _ => ⟨?_, ?_⟩
  · rintro rfl
    rw [String.toList_ofList]
  · intro h
    rw [h, String.ofList_toList]

theorem ne_empty_of_mem_names {body query : List FileItems} {name : String}
    (h : name ∈ names body query) : name ≠ "" := (mem_names_iff.1 h).1

/-- A query string is well formed exactly if no name holds one of its separators. -/
theorem wellFormed_render_iff {tag : String} (htag : Settings.isUsableTag tag = true)
    (body query : List FileItems) :
    WellFormed tag (render body query tag) ↔
      ∀ name ∈ names body query, '=' ∉ name.toList ∧ '&' ∉ name.toList := by
  have hq := toList_render body query tag
  have hsep := not_mem_of_isUsableTag htag
  by_cases hne : names body query = []
  · simp [WellFormed, render_eq_empty_iff.2 hne, hne]
  constructor
  · rintro (hempty | h)
    · exact absurd (render_eq_empty_iff.1 hempty) hne
    · have hamp := amp_not_mem_of_wellFormed hsep hq hne h
      rw [hq, split_join_pieces hsep.2 1 hne hamp] at h
      intro name hname
      refine ⟨?_, hamp name hname⟩
      obtain ⟨i, hi⟩ := List.mem_iff_getElem?.1 hname
      obtain ⟨name', -, heq, -, hpiece⟩ := h i (piece tag (1 + i) name) (by
        rw [getElem?_pieces, hi, Option.map_some])
      rw [piece_eq] at hpiece
      have hvalue := not_mem_value hsep.1 (by decide) (i + 1)
      rw [((List.append_cons_inj_of_notMem heq hvalue).1 hpiece.symm).1.symm]
      exact heq
  · intro hfree
    right
    rw [hq, split_join_pieces hsep.2 1 hne fun name hname => (hfree name hname).2]
    intro i p hp
    rw [getElem?_pieces] at hp
    obtain ⟨name, hi, rfl⟩ := Option.map_eq_some_iff.1 hp
    have hname := List.mem_of_getElem? hi
    refine ⟨name.toList, ?_, (hfree name hname).1, (hfree name hname).2, ?_⟩
    · rw [ne_eq, String.toList_eq_nil_iff]
      exact ne_empty_of_mem_names hname
    · rw [piece_eq, Nat.add_comm 1, value]

end RouteInventory.QueryString
