import RouteInventory.Proofs.UrlPath.Canonical
import RouteInventory.Proofs.UrlPath.Joining

/-!
What composing routes with mount prefixes gives, entry by entry. The composed routes are a table
written row by row: a row holds one route under each of the prefixes in turn (`getElem_compose`).
-/

namespace RouteInventory

open UrlPath

/-! ### Paths with slashes for backslashes -/

theorem backslash_not_mem_slashed (path : String) : '\\' ∉ (slashed path).toList := by
  rw [slashed, String.toList_ofList, List.mem_map]
  rintro ⟨c, -, hc⟩
  split at hc
  · exact absurd hc (by decide)
  · next hne => exact hne hc

theorem head?_slashed {path : String} (h : path.toList.head? = some '/') :
    (slashed path).toList.head? = some '/' := by
  rw [slashed, String.toList_ofList, List.head?_map, h]
  rfl

/-! ### Joined parts -/

/-- Joined parts start at the root if the first of them that is not empty does. -/
theorem head?_joinChars {parts : List (List Char)} {first : List Char}
    (hfirst : parts.find? (· ≠ []) = some first) (hhead : first.head? = some '/') :
    (joinChars parts).head? = some '/' := by
  have hfilled : (filled parts).head? = some first := by
    rw [filled, List.head?_filter]
    exact hfirst
  obtain ⟨rest, hrest⟩ := List.head?_eq_some_iff.1 hfilled
  rw [joinChars_of_filled (by simp [hrest]), head?_normalizeChars, hrest]
  have hne : first ≠ [] := fun h => by simp [h] at hhead
  cases rest with
  | nil => exact hhead
  | cons next rest => rwa [Text.join_cons_cons, List.head?_append_of_ne_nil _ hne]

/-- The same of parts that are given as strings. -/
theorem head?_join {parts : List String} {first : String}
    (hfirst : parts.find? (· ≠ "") = some first) (hhead : first.toList.head? = some '/') :
    (UrlPath.join parts).toList.head? = some '/' := by
  have hempty : ((fun s : List Char => decide (s ≠ [])) ∘ String.toList) =
      fun s => decide (s ≠ "") := by
    funext s
    simp [String.toList_eq_nil_iff]
  rw [UrlPath.join, String.toList_ofList]
  refine @head?_joinChars _ first.toList ?_ hhead
  rw [List.find?_map, hempty, hfirst, Option.map_some]

/-! ### Tables written row by row -/

section Table

variable {α β γ : Type} (f : α → β → γ) (xs : List α) (ys : List β)

/-- A table has a row for each of `xs`, and in it an entry for each of `ys`. -/
theorem length_table : (xs.flatMap fun x => ys.map (f x)).length = xs.length * ys.length := by
  induction xs with
  | nil => simp
  | cons x xs ih =>
    rw [List.flatMap_cons, List.length_append, ih, List.length_map, List.length_cons,
      Nat.add_one_mul, Nat.add_comm]

/-- Entry `j` of row `i` comes behind `i` whole rows. -/
theorem getElem?_table {i j : Nat} (hi : i < xs.length) (hj : j < ys.length) :
    (xs.flatMap fun x => ys.map (f x))[i * ys.length + j]? = some (f xs[i] ys[j]) := by
  induction xs generalizing i with
  | nil => exact absurd hi (Nat.not_lt_zero i)
  | cons x xs ih =>
    rw [List.flatMap_cons]
    cases i with
    | zero =>
      have hrow : j < (ys.map (f x)).length := by rwa [List.length_map]
      rw [Nat.zero_mul, Nat.zero_add, List.getElem?_append_left hrow, List.getElem?_map,
        List.getElem?_eq_getElem hj, Option.map_some, List.getElem_cons_zero]
    | succ i =>
      have hrow : (i + 1) * ys.length + j = (ys.map (f x)).length + (i * ys.length + j) := by
        rw [List.length_map, Nat.add_one_mul]
        omega
      rw [hrow, List.getElem?_append_right (Nat.le_add_right _ _), Nat.add_sub_cancel_left,
        ih (by simpa using hi), List.getElem_cons_succ]

end Table

/-! ### Composed routes -/

/-- What a route becomes under a prefix. -/
structure Composed (base : String) (route composed : Route) : Prop where
  method : composed.method = route.method
  file : composed.file = route.file
  path : composed.path = slashed (UrlPath.join [base, route.path])
  no_backslash : '\\' ∉ composed.path.toList
  /-- It starts at the root if the first that is not empty of prefix and route does. -/
  rooted : ∀ first, [base, route.path].find? (· ≠ "") = some first →
    first.toList.head? = some '/' → composed.path.toList.head? = some '/'

theorem under_eq (route : Route) (base : String) :
    route.under base = ⟨slashed (UrlPath.join [base, route.path]), route.method, route.file⟩ := rfl

theorem composed_under (base : String) (route : Route) : Composed base route (route.under base) := by
  rw [under_eq]
  exact {
    method := rfl
    file := rfl
    path := rfl
    no_backslash := backslash_not_mem_slashed _
    rooted := fun _ hfirst hhead => head?_slashed (head?_join hfirst hhead) }

theorem compose_of_ne_nil (routes : List Route) {bases : List String} (h : bases ≠ []) :
    compose routes bases = routes.flatMap fun route => bases.map route.under := by
  rw [compose, if_neg (by simpa using h)]

/-- Without prefixes the composed routes are the routes. With prefixes they are as many as routes
    times prefixes, and the entry of route `i` and prefix `j` is that route under that prefix. -/
theorem getElem_compose (routes : List Route) :
    compose routes [] = routes ∧
    ∀ bases : List String, bases ≠ [] →
      (compose routes bases).length = routes.length * bases.length ∧
      ∀ i j (hi : i < routes.length) (hj : j < bases.length),
        ∃ composed, (compose routes bases)[i * bases.length + j]? = some composed ∧
          Composed bases[j] routes[i] composed := by
  refine ⟨rfl, fun bases hne => ?_⟩
  rw [compose_of_ne_nil routes hne]
  refine ⟨length_table Route.under routes bases, fun i j hi hj => ?_⟩
  exact ⟨_, getElem?_table Route.under routes bases hi hj, composed_under _ _⟩

/-- A backslash that comes to stand behind the root. -/
theorem getElem_compose_backslash :
    let routes : List Route := [⟨"/users", "GET", "a.js"⟩, ⟨"\\files", "POST", "b.js"⟩]
    let bases := ["", "/v2/.."]
    bases ≠ [] ∧ 1 < routes.length ∧ 1 < bases.length ∧
      (compose routes bases)[1 * bases.length + 1]? = some ⟨"//files", "POST", "b.js"⟩ ∧
      "//files".toList.head? = some '/' := by
  intro routes bases
  have hne : bases ≠ [] := by simp [bases]
  have hi : 1 < routes.length := by decide
  have hj : 1 < bases.length := by decide
  obtain ⟨⟨path, method, file⟩, hget, hentry⟩ := ((getElem_compose routes).2 bases hne).2 1 1 hi hj
  have hcomposed : Composed "/v2/.." ⟨"\\files", "POST", "b.js"⟩ ⟨path, method, file⟩ := hentry
  have hjoin : slashed (UrlPath.join ["/v2/..", "\\files"]) = "//files" := by decide +kernel
  obtain rfl : path = "//files" := hcomposed.path.trans hjoin
  obtain rfl : method = "POST" := hcomposed.method
  obtain rfl : file = "b.js" := hcomposed.file
  exact ⟨hne, hi, hj, hget, hcomposed.rooted "/v2/.." (by decide) (by decide)⟩

end RouteInventory
