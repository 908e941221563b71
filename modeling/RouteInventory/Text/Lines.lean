/-!
Pieces of a text between separators, and lines. `split` always yields one piece more than there are
separators, so `join` with the same separator gives the text back (`join_split`).
-/

namespace RouteInventory.Text

/-- The pieces between the members that satisfy `isSep`. -/
def splitBy {α : Type} (isSep : α → Bool) : List α → List (List α)
  | [] => [[]]
  | c :: rest =>
    if isSep c then [] :: splitBy isSep rest
    else match splitBy isSep rest with
      | [] => [[c]]
      | piece :: pieces => (c :: piece) :: pieces

/-- The pieces between the occurrences of one character. -/
def split (sep : Char) (s : List Char) : List (List Char) := splitBy (· == sep) s

/-- The pieces with `sep` between them. -/
def join (sep : Char) : List (List Char) → List Char
  | [] => []
  | [piece] => piece
  | piece :: pieces => piece ++ sep :: join sep pieces

/-- A line without the carriage return at its end. -/
def dropReturn {α : Type} [BEq α] (ret : α) (line : List α) : List α :=
  if line.getLast? == some ret then line.dropLast else line

/-- Lines from the pieces between newlines: the last piece was not ended by a newline, so it keeps
    a carriage return and counts only if it holds anything. -/
def linesOf {α : Type} [BEq α] (ret : α) : List (List α) → List (List α)
  | [] => []
  | [last] => if last.isEmpty then [] else [last]
  | line :: rest => dropReturn ret line :: linesOf ret rest

/-- The lines of a text; each ends at a newline, with or without a carriage return before it. -/
def lines (s : List Char) : List (List Char) := linesOf '\r' (split '\n' s)

theorem splitBy_ne_nil {α : Type} (isSep : α → Bool) (s : List α) : splitBy isSep s ≠ [] := by
  cases s with
  | nil => simp [splitBy]
  | cons c rest =>
    unfold splitBy
    split
    · simp
    · split <;> simp

/-- No piece holds a separator. -/
theorem not_sep_of_mem_splitBy {α : Type} {isSep : α → Bool} : ∀ {s piece : List α},
    piece ∈ splitBy isSep s → ∀ c ∈ piece, isSep c = false
  | [], piece, h => by simp_all [splitBy]
  | a :: rest, piece, h => by
    unfold splitBy at h
    split at h
    · rcases List.mem_cons.1 h with rfl | h
      · simp
      · exact not_sep_of_mem_splitBy h
    · next ha =>
      have hne := splitBy_ne_nil isSep rest
      cases hp : splitBy isSep rest with
      | nil => exact absurd hp hne
      | cons p ps =>
        rw [hp] at h
        rcases List.mem_cons.1 h with rfl | h
        · intro c hc
          rcases List.mem_cons.1 hc with rfl | hc
          · simpa using ha
          · exact not_sep_of_mem_splitBy (hp ▸ List.mem_cons_self) c hc
        · exact not_sep_of_mem_splitBy (hp ▸ List.mem_cons_of_mem _ h)

/-- Joining undoes splitting. -/
theorem join_split (sep : Char) (s : List Char) : join sep (split sep s) = s := by
  unfold split
  induction s with
  | nil => rfl
  | cons c rest ih =>
    simp only [splitBy, beq_iff_eq]
    have hne := splitBy_ne_nil (· == sep) rest
    cases hp : splitBy (· == sep) rest with
    | nil => exact absurd hp hne
    | cons piece pieces =>
      rw [hp] at ih
      split
      · next h => subst h; simpa [join] using ih
      · cases pieces with
        | nil => simpa [join] using ih
        | cons q qs => simpa [join] using ih

end RouteInventory.Text
