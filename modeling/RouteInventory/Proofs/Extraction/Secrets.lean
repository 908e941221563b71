import RouteInventory.Proofs.Extraction.KeywordPlaces
import RouteInventory.Proofs.Text.Pieces

/-!
Secrets line by line. A carriage return at the end of a line is a blank, so it does not change
whether the line holds a keyword, nor what is left of the line when it is trimmed; and an empty line
holds none. So the lines that are found are those among the pieces between newlines (`found_eq`),
and a text that is cut at a newline can be searched part by part (`find_append`).
-/

namespace RouteInventory.Extraction.SecretRules

open Text

/-! ### A carriage return at the end of a line -/

variable (rules : SecretRules)

theorem hits_return (line : List Char) : rules.hits (line ++ ['\r']) = rules.hits line := by
  have hblank : isWord '\r' = false := isWord_of_isBlank (by decide)
  rw [Bool.eq_iff_iff, hits_iff, hits_iff]
  exact exists_congr fun k => and_congr_right fun _ => standsIn_concat hblank

theorem trim_return (line : List Char) : trim (line ++ ['\r']) = trim line :=
  @trim_append [] ['\r'] (List.forall_mem_nil _) (List.forall_mem_singleton.2 (by decide)) line

/-- An empty line holds no keyword. -/
theorem hits_nil : rules.hits [] = false := by
  rw [Bool.eq_false_iff, ne_eq, hits_iff]
  rintro ⟨k, -, hstands⟩
  obtain ⟨c, hc, -⟩ := hstands.exists_isWord
  exact absurd hc List.not_mem_nil

/-- A line gives the same with the carriage return at its end as without. -/
theorem eq_of_dropReturn {β : Type} {g : List Char → β} (hg : ∀ s, g (s ++ ['\r']) = g s)
    (line : List Char) : g (dropReturn '\r' line) = g line := by
  rw [dropReturn]
  split
  · next hlast =>
    obtain ⟨init, rfl⟩ := List.getLast?_eq_some_iff.1 (beq_iff_eq.1 hlast)
    rw [List.dropLast_concat, hg]
  · rfl

/-! ### The lines that are found -/

/-- The trimmed lines with a keyword, as often as they are there. -/
def found (text : List Char) : List String :=
  ((lines text).filter rules.hits).map fun line => .ofList (trim line)

theorem find_eq (text : List Char) : rules.find text = .ofList (rules.found text) := by
  rw [find]
  split
  · rfl
  · next hoff =>
    -- without keywords there is nothing to find in any line
    have hnone : rules.keywords = [] := by simpa [isEnabled] using hoff
    have hhits : ∀ line, rules.hits line = false := by
      intro line
      rw [Bool.eq_false_iff, ne_eq, hits_iff, hnone]
      simp
    have hfound : rules.found text = [] := by simp [found, hhits]
    rw [hfound]
    rfl

theorem found_linesOf : ∀ pieces : List (List Char),
    ((linesOf '\r' pieces).filter rules.hits).map (fun line => String.ofList (trim line)) =
      (pieces.filter rules.hits).map fun line => String.ofList (trim line)
  | [] => rfl
  | [last] => by
    cases last with
    | nil => simp [linesOf, hits_nil]
    | cons c last => rfl
  | line :: next :: rest => by
    have ih := found_linesOf (next :: rest)
    have hline : linesOf '\r' (line :: next :: rest) =
        dropReturn '\r' line :: linesOf '\r' (next :: rest) := rfl
    rw [hline, List.filter_cons, List.filter_cons, eq_of_dropReturn rules.hits_return]
    split
    · rw [List.map_cons, List.map_cons, eq_of_dropReturn trim_return, ih]
    · exact ih

/-- Lines need not be told from the pieces between newlines. -/
theorem found_eq (text : List Char) :
    rules.found text =
      ((split '\n' text).filter rules.hits).map fun line => String.ofList (trim line) :=
  rules.found_linesOf _

/-- In a text that is cut at a newline, the lines of the first part are found and then those of the
    second. -/
theorem find_append (a b : List Char) :
    rules.find (a ++ '\n' :: b) = (rules.find a).insertAll (rules.find b).items := by
  have hfound : rules.found (a ++ '\n' :: b) = rules.found a ++ rules.found b := by
    simp only [found_eq, split_append_cons, List.filter_append, List.map_append]
  rw [find_eq, find_eq, find_eq, hfound, OrderedSet.ofList_append]

end RouteInventory.Extraction.SecretRules
