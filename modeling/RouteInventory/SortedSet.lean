/-!
Lists in strictly ascending order, for the views that do not depend on the order in which files are
visited. Strings compare by code point, which is also the order of their UTF-8 octets.
-/

namespace RouteInventory

/-- A list without the neighbours that repeat. -/
def dropRepeats {α : Type} [DecidableEq α] : List α → List α
  | [] => []
  | [x] => [x]
  | x :: y :: rest => if x = y then dropRepeats (y :: rest) else x :: dropRepeats (y :: rest)

/-- The strings of a list, each once, in ascending order. -/
def sortedUnique (xs : List String) : List String :=
  dropRepeats (xs.mergeSort fun a b => decide (a ≤ b))

theorem mem_dropRepeats {α : Type} [DecidableEq α] {x : α} :
    ∀ {xs : List α}, x ∈ dropRepeats xs ↔ x ∈ xs
  | [] => by simp [dropRepeats]
  | [y] => by simp [dropRepeats]
  | y :: z :: rest => by
    unfold dropRepeats
    split
    · next h => subst h; rw [mem_dropRepeats]; simp
    · rw [List.mem_cons, mem_dropRepeats]; simp

/-- In an ascending list only neighbours can be equal, so without repeated neighbours it ascends
    strictly. -/
theorem pairwise_dropRepeats : ∀ {xs : List String}, xs.Pairwise (· ≤ ·) →
    (dropRepeats xs).Pairwise (· < ·)
  | [], _ => by simp [dropRepeats]
  | [x], _ => by simp [dropRepeats]
  | x :: y :: rest, h => by
    obtain ⟨hx, hrest⟩ := List.pairwise_cons.1 h
    unfold dropRepeats
    split
    · exact pairwise_dropRepeats hrest
    · next hne =>
      refine List.pairwise_cons.2 ⟨fun z hz => ?_, pairwise_dropRepeats hrest⟩
      have hz := mem_dropRepeats.1 hz
      have hxy : x < y := String.not_le.1 fun hyx =>
        hne (String.le_antisymm (hx y List.mem_cons_self) hyx)
      rcases List.mem_cons.1 hz with rfl | hz
      · exact hxy
      · exact String.not_le.1 fun hzx => String.not_le.2 hxy
          (String.le_trans ((List.pairwise_cons.1 hrest).1 z hz) hzx)

theorem pairwise_mergeSort_le (xs : List String) :
    (xs.mergeSort fun a b => decide (a ≤ b)).Pairwise (· ≤ ·) := by
  refine (List.pairwise_mergeSort ?_ ?_ xs).imp (by simp)
  · intro a b c hab hbc
    exact decide_eq_true (String.le_trans (of_decide_eq_true hab) (of_decide_eq_true hbc))
  · intro a b
    simpa using String.le_total a b

/-- The result ascends strictly. -/
theorem pairwise_sortedUnique (xs : List String) : (sortedUnique xs).Pairwise (· < ·) :=
  pairwise_dropRepeats (pairwise_mergeSort_le xs)

/-- Sorting loses no string and adds none. -/
theorem mem_sortedUnique {x : String} {xs : List String} : x ∈ sortedUnique xs ↔ x ∈ xs := by
  rw [sortedUnique, mem_dropRepeats, List.mem_mergeSort]

/-- A set of strings, its members listed in strictly ascending order. -/
structure SortedSet where
  items : List String
  ascending : items.Pairwise (· < ·)

namespace SortedSet

/-- The set without members. -/
def empty : SortedSet := ⟨[], .nil⟩

/-- The members of a list as well. -/
def insertAll (s : SortedSet) (xs : List String) : SortedSet :=
  ⟨sortedUnique (s.items ++ xs), pairwise_sortedUnique _⟩

@[simp] theorem items_empty : empty.items = [] := rfl

@[simp] theorem mem_insertAll {s : SortedSet} {xs : List String} {x : String} :
    x ∈ (s.insertAll xs).items ↔ x ∈ s.items ∨ x ∈ xs := by
  rw [insertAll, mem_sortedUnique, List.mem_append]

end SortedSet
end RouteInventory
