import RouteInventory.Proofs.Pattern.Cut
import RouteInventory.Proofs.Text.Pieces

/-!
Texts in pieces. If no class of a pattern holds a character, the texts of a group in a text are those
in its pieces between the occurrences of that character, one piece after the other
(`groupTexts_split`), and another such character can stand in its place (`groupTexts_replace`).
-/

namespace RouteInventory.Pattern

open Text

variable {p : Pattern} {sep sep' : Char} {i : Nat}

/-- The texts of a group are those in the pieces of the text. -/
theorem groupTexts_split (hp : p.avoids sep = true) (s : List Char) :
    p.groupTexts i s.toArray = (split sep s).flatMap fun piece => p.groupTexts i piece.toArray := by
  by_cases h : sep ∈ s
  · obtain ⟨a, b, rfl, ha⟩ := List.eq_append_cons_of_mem h
    rw [groupTexts_cut hp, split_append_cons_of_not_mem ha, List.flatMap_cons, groupTexts_split hp b]
  · rw [split_eq_singleton h, List.flatMap_singleton]
termination_by s.length
decreasing_by simp [*]; omega

/-- And those in joined pieces are those in the pieces. -/
theorem groupTexts_join (hp : p.avoids sep = true) : ∀ {pieces : List (List Char)}, pieces ≠ [] →
    p.groupTexts i (join sep pieces).toArray =
      pieces.flatMap fun piece => p.groupTexts i piece.toArray
  | [piece], _ => by rw [join, List.flatMap_singleton]
  | piece :: next :: rest, _ => by
    rw [join_cons_cons, groupTexts_cut hp, groupTexts_join hp (by simp)]
    rfl

/-- A character that the pattern never takes can be replaced by another one. -/
theorem groupTexts_replace (hp : p.avoids sep = true) (hp' : p.avoids sep' = true) (s : List Char) :
    p.groupTexts i (s.map fun c => if c = sep then sep' else c).toArray =
      p.groupTexts i s.toArray := by
  have hkept : ∀ a : List Char, sep ∉ a → a.map (fun c => if c = sep then sep' else c) = a := by
    intro a ha
    have hsame : ∀ c ∈ a, (if c = sep then sep' else c) = c := by
      intro c hc
      rw [if_neg]
      rintro rfl
      exact ha hc
    exact (List.map_congr_left hsame).trans (List.map_id a)
  by_cases h : sep ∈ s
  · obtain ⟨a, b, rfl, ha⟩ := List.eq_append_cons_of_mem h
    rw [List.map_append, List.map_cons, if_pos rfl, hkept a ha, groupTexts_cut hp',
      groupTexts_cut hp, groupTexts_replace hp hp' b]
  · rw [hkept s h]
termination_by s.length
decreasing_by simp [*]; omega

end RouteInventory.Pattern
