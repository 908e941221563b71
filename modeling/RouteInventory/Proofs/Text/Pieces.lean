import RouteInventory.Text.Lines
import Mathlib.Data.List.Basic

/-!
Splitting and joining. Splitting at a character is the library's `List.splitOn` and joining with it
is `List.intercalate`, so what the library knows about the two holds here: a text is split at each
of its separators by itself (`split_append_cons`), and pieces without a separator are read back from
what they join to (`split_join`).
-/

namespace RouteInventory.Text

theorem splitBy_eq_splitOnP {α : Type} (isSep : α → Bool) (s : List α) :
    splitBy isSep s = s.splitOnP isSep := by
  induction s with
  | nil => simp [splitBy, List.splitOnP_nil]
  | cons c s ih =>
    rw [splitBy, List.splitOnP_cons_eq_if_modifyHead, ← ih]
    split
    · rfl
    · cases hs : splitBy isSep s with
      | nil => exact absurd hs (splitBy_ne_nil isSep s)
      | cons piece pieces => rfl

theorem split_eq_splitOn (sep : Char) (s : List Char) : split sep s = s.splitOn sep :=
  splitBy_eq_splitOnP _ s

theorem join_cons_cons (sep : Char) (piece next : List Char) (rest : List (List Char)) :
    join sep (piece :: next :: rest) = piece ++ sep :: join sep (next :: rest) := rfl

theorem join_eq_intercalate (sep : Char) : ∀ pieces, join sep pieces = [sep].intercalate pieces
  | [] => by simp [join]
  | [piece] => by simp [join]
  | piece :: next :: rest => by
    rw [join_cons_cons, join_eq_intercalate sep (next :: rest), List.intercalate_cons_cons,
      List.append_assoc]
    rfl

variable {sep : Char}

/-! ### Splitting -/

/-- The pieces of a text that is cut at a separator are those of its two parts. -/
theorem split_append_cons (a b : List Char) :
    split sep (a ++ sep :: b) = split sep a ++ split sep b := by
  simp only [split_eq_splitOn, List.splitOn]
  exact List.splitOnP_append_cons a b (by simp)

/-- A text without a separator is one piece. -/
theorem split_eq_singleton {s : List Char} (h : sep ∉ s) : split sep s = [s] := by
  rw [split_eq_splitOn, List.splitOn_eq_singleton h]

/-- No piece holds the separator. -/
theorem not_mem_of_mem_split {s piece : List Char} (h : piece ∈ split sep s) : sep ∉ piece := by
  intro hsep
  have := not_sep_of_mem_splitBy h sep hsep
  simp at this

/-- There is one piece more than there are separators. -/
theorem length_split (s : List Char) : (split sep s).length = s.count sep + 1 := by
  by_cases h : sep ∈ s
  · obtain ⟨a, b, rfl, ha⟩ := List.eq_append_cons_of_mem h
    have ih := length_split b
    rw [split_append_cons, split_eq_singleton ha, List.length_append, ih, List.count_append,
      List.count_cons_self, List.count_eq_zero.2 ha]
    simp [Nat.add_comm]
  · rw [split_eq_singleton h, List.count_eq_zero.2 h]
    rfl
termination_by s.length
decreasing_by simp [*]; omega

/-- The first piece goes to the first separator. -/
theorem split_append_cons_of_not_mem {a : List Char} (ha : sep ∉ a) (b : List Char) :
    split sep (a ++ sep :: b) = a :: split sep b := by
  rw [split_append_cons, split_eq_singleton ha, List.singleton_append]

/-- What holds no separator, put in front of a text, goes to its first piece. -/
theorem exists_append_split {b : List Char} (hb : sep ∉ b) (a : List Char) :
    ∃ first pieces, split sep a = first :: pieces ∧ split sep (b ++ a) = (b ++ first) :: pieces := by
  by_cases h : sep ∈ a
  · obtain ⟨x, y, rfl, hx⟩ := List.eq_append_cons_of_mem h
    refine ⟨x, split sep y, split_append_cons_of_not_mem hx y, ?_⟩
    rw [← List.append_assoc]
    exact split_append_cons_of_not_mem (by simp [hb, hx]) y
  · exact ⟨a, [], split_eq_singleton h, split_eq_singleton (by simp [hb, h])⟩

/-- What holds no separator, put behind a text, goes to its last piece. -/
theorem exists_split_append {b : List Char} (hb : sep ∉ b) (a : List Char) :
    ∃ pieces last, split sep a = pieces ++ [last] ∧ split sep (a ++ b) = pieces ++ [last ++ b] := by
  by_cases h : sep ∈ a
  · obtain ⟨x, y, rfl, -⟩ := List.eq_append_cons_of_mem h
    obtain ⟨pieces, last, hy, hyb⟩ := exists_split_append hb y
    refine ⟨split sep x ++ pieces, last, ?_, ?_⟩
    · rw [split_append_cons, hy, List.append_assoc]
    · rw [List.append_assoc, List.cons_append, split_append_cons, hyb, List.append_assoc]
  · exact ⟨[], a, split_eq_singleton h, split_eq_singleton (by simp [h, hb])⟩
termination_by a.length
decreasing_by simp [*]; omega

/-- The piece after the last separator. -/
def lastPiece (sep : Char) (s : List Char) : List Char :=
  (split sep s).getLast (splitBy_ne_nil _ s)

theorem lastPiece_append_cons (a b : List Char) :
    lastPiece sep (a ++ sep :: b) = lastPiece sep b := by
  simp only [lastPiece, split_append_cons]
  exact List.getLast_append_of_ne_nil _ (splitBy_ne_nil _ b)

theorem lastPiece_of_not_mem {s : List Char} (h : sep ∉ s) : lastPiece sep s = s := by
  simp only [lastPiece, split_eq_singleton h, List.getLast_singleton]

/-- A text with a separator ends in one and the last piece. -/
theorem exists_append_lastPiece {s : List Char} (h : sep ∈ s) :
    ∃ front, s = front ++ sep :: lastPiece sep s ∧ sep ∉ lastPiece sep s := by
  obtain ⟨b, a, hs, hb⟩ := List.eq_append_cons_of_mem (List.mem_reverse.2 h)
  have hsplit : s = a.reverse ++ sep :: b.reverse := by
    rw [← List.reverse_reverse s, hs]
    simp
  have hnot : sep ∉ b.reverse := mt List.mem_reverse.1 hb
  have hlast : lastPiece sep s = b.reverse := by
    rw [hsplit, lastPiece_append_cons, lastPiece_of_not_mem hnot]
  rw [hlast]
  exact ⟨a.reverse, hsplit, hnot⟩

/-! ### Joining -/

/-- Splitting undoes joining, if no piece holds a separator. -/
theorem split_join {pieces : List (List Char)} (h : ∀ piece ∈ pieces, sep ∉ piece)
    (hne : pieces ≠ []) : split sep (join sep pieces) = pieces := by
  rw [split_eq_splitOn, join_eq_intercalate, List.splitOn_intercalate sep h hne]

/-- Two lists of pieces are joined one behind the other. -/
theorem join_append : ∀ {pieces more : List (List Char)}, pieces ≠ [] → more ≠ [] →
    join sep (pieces ++ more) = join sep pieces ++ sep :: join sep more
  | [_], _ :: _, _, _ => rfl
  | piece :: next :: rest, more, _, hmore => by
    rw [List.cons_append, List.cons_append, join_cons_cons, join_cons_cons, ← List.cons_append,
      join_append (by simp) hmore, List.append_assoc, List.cons_append]

/-- Splitting joined texts gives the pieces of each. -/
theorem split_join_eq_flatMap : ∀ {texts : List (List Char)}, texts ≠ [] →
    split sep (join sep texts) = texts.flatMap (split sep)
  | [s], _ => by rw [join, List.flatMap_singleton]
  | s :: next :: rest, _ => by
    rw [join_cons_cons, split_append_cons, split_join_eq_flatMap (by simp), ← List.flatMap_cons]

/-- The characters of joined pieces are those of the pieces, and the separator. -/
theorem mem_join {c : Char} : ∀ {pieces : List (List Char)}, c ∈ join sep pieces →
    c = sep ∨ ∃ piece ∈ pieces, c ∈ piece
  | [], h => absurd h List.not_mem_nil
  | [piece], h => .inr ⟨piece, List.mem_cons_self, h⟩
  | piece :: next :: rest, h => by
    rw [join_cons_cons, List.mem_append, List.mem_cons] at h
    rcases h with h | rfl | h
    · exact .inr ⟨piece, List.mem_cons_self, h⟩
    · exact .inl rfl
    · obtain rfl | ⟨p, hp, hc⟩ := mem_join h
      · exact .inl rfl
      · exact .inr ⟨p, List.mem_cons_of_mem _ hp, hc⟩

theorem mem_join_of_mem {c : Char} {piece : List Char} : ∀ {pieces : List (List Char)},
    piece ∈ pieces → c ∈ piece → c ∈ join sep pieces
  | [p], h, hc => by
    obtain rfl := List.mem_singleton.1 h
    exact hc
  | p :: next :: rest, h, hc => by
    rw [join_cons_cons, List.mem_append, List.mem_cons]
    rcases List.mem_cons.1 h with rfl | h
    · exact .inl hc
    · exact .inr (.inr (mem_join_of_mem h hc))

/-- The characters of a piece are the text's. -/
theorem mem_of_mem_split {s piece : List Char} {c : Char} (h : piece ∈ split sep s)
    (hc : c ∈ piece) : c ∈ s :=
  join_split sep s ▸ mem_join_of_mem h hc

/-- Joining adds a separator between any two pieces. -/
theorem count_join : ∀ {pieces : List (List Char)}, pieces ≠ [] →
    (join sep pieces).count sep + 1 = pieces.length + pieces.flatten.count sep
  | [piece], _ => by simp [join, Nat.add_comm]
  | piece :: next :: rest, _ => by
    have ih := @count_join (next :: rest) (by simp)
    rw [join_cons_cons, List.count_append, List.count_cons_self, List.flatten_cons,
      List.count_append, List.length_cons]
    omega

/-- What yields nothing need not be looked at. -/
theorem flatMap_filter_eq {α β : Type} {p : α → Bool} {f : α → List β} {xs : List α}
    (h : ∀ x ∈ xs, p x = false → f x = []) : (xs.filter p).flatMap f = xs.flatMap f := by
  induction xs with
  | nil => rfl
  | cons x xs ih =>
    obtain ⟨hx, hxs⟩ := List.forall_mem_cons.1 h
    rw [List.flatMap_cons, List.filter_cons]
    split
    · rw [List.flatMap_cons, ih hxs]
    · next hp => rw [hx (Bool.not_eq_true _ ▸ hp), ih hxs, List.nil_append]

end RouteInventory.Text
