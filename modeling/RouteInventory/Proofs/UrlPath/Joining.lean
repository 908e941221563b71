import RouteInventory.Proofs.Endpoint.Sources
import RouteInventory.Proofs.UrlPath.Meaning

/-!
Joining in steps. Some parts can be joined before others are put behind them, as long as one of them
is not empty (`join_append_eq`): what they are joined to means the same as they do, and what follows
a slash is read on from that meaning, whatever it is.
-/

namespace RouteInventory.UrlPath

open Text

variable {s : List Char} {parts : List (List Char)}

/-! ### Normalizing twice -/

/-- A normal form is never empty. -/
theorem normalizeChars_ne_nil (s : List Char) : normalizeChars s ≠ [] := by
  rw [normalizeChars, toChars]
  split
  · split <;> simp
  · split
    · simp
    · next hsegments =>
      simp [(edges_join hsegments (sound_ofChars s).isSegment).1]

/-- What follows a normal form is read as behind the path itself. -/
theorem ofChars_normalizeChars_append_slash (hs : s ≠ []) (t : List Char) :
    ofChars (normalizeChars s ++ '/' :: t) = ofChars (s ++ '/' :: t) := by
  rw [ofChars_append_slash (normalizeChars_ne_nil s), ofChars_append_slash hs, normalizeChars,
    ofChars_toChars (sound_ofChars s)]
  rfl

/-- Normalizing twice is normalizing once. -/
theorem normalizeChars_normalizeChars (s : List Char) :
    normalizeChars (normalizeChars s) = normalizeChars s :=
  normalizeChars_toChars (sound_ofChars s)

/-! ### Joining -/

/-- The parts that count when parts are joined. -/
def filled (parts : List (List Char)) : List (List Char) := parts.filter (· ≠ [])

theorem filled_append (parts more : List (List Char)) :
    filled (parts ++ more) = filled parts ++ filled more := List.filter_append ..

theorem filled_cons (hs : s ≠ []) (parts : List (List Char)) :
    filled (s :: parts) = s :: filled parts := by simp [filled, hs]

theorem joinChars_of_filled (h : filled parts ≠ []) :
    joinChars parts = normalizeChars (Text.join '/' (filled parts)) := by
  rw [joinChars]
  split
  · next hnone => exact absurd hnone h
  · next => rfl

theorem joinChars_ne_nil (parts : List (List Char)) : joinChars parts ≠ [] := by
  rw [joinChars]
  split
  · simp
  · exact normalizeChars_ne_nil _

theorem join_filled_ne_nil (h : filled parts ≠ []) : Text.join '/' (filled parts) ≠ [] := by
  have hfirst := List.head_mem h
  have hne : (filled parts).head h ≠ [] := by simpa using (List.mem_filter.1 hfirst).2
  exact List.ne_nil_of_mem (mem_join_of_mem hfirst (List.head_mem hne))

/-- The parts in front can be joined first. -/
theorem joinChars_append (h : filled parts ≠ []) (more : List (List Char)) :
    joinChars (parts ++ more) = joinChars (joinChars parts :: more) := by
  have hall : filled (parts ++ more) = filled parts ++ filled more := filled_append ..
  have hfront : filled (joinChars parts :: more) = [joinChars parts] ++ filled more :=
    filled_cons (joinChars_ne_nil parts) more
  have hallNe : filled (parts ++ more) ≠ [] := hall ▸ List.append_ne_nil_of_left_ne_nil h _
  have hfrontNe : filled (joinChars parts :: more) ≠ [] := hfront ▸ List.cons_ne_nil _ _
  rw [joinChars_of_filled hallNe, joinChars_of_filled hfrontNe, hall, hfront,
    joinChars_of_filled h]
  by_cases hmore : filled more = []
  · rw [hmore, List.append_nil, List.append_nil]
    exact (normalizeChars_normalizeChars _).symm
  · rw [join_append h hmore, join_append (by simp) hmore]
    exact congrArg toChars (ofChars_normalizeChars_append_slash (join_filled_ne_nil h) _).symm

/-- Parts can be joined in steps, as long as the ones that are joined first are not all empty; so a
    route comes under a prefix that has been joined before as under its parts. -/
theorem join_append_eq {parts : List String} (h : ∃ part ∈ parts, part ≠ "") :
    (∀ more, join (parts ++ more) = join ([join parts] ++ more)) ∧
    ∀ route : Route, route.under (join parts) =
      { route with path := RouteInventory.slashed (join (parts ++ [route.path])) } := by
  have hfilled : filled (parts.map String.toList) ≠ [] := by
    obtain ⟨part, hpart, hne⟩ := h
    refine List.ne_nil_of_mem (List.mem_filter.2 ⟨List.mem_map_of_mem hpart, ?_⟩)
    simpa using hne
  have hsteps : ∀ more, join (parts ++ more) = join ([join parts] ++ more) := by
    intro more
    rw [join, join, join, List.map_append, List.map_append, List.map_singleton,
      String.toList_ofList, joinChars_append hfilled, List.singleton_append]
  refine ⟨hsteps, fun route => ?_⟩
  rw [hsteps]
  rfl

/-- A prefix that climbs out of itself. -/
theorem join_append_climbing :
    let parts := ["", "a/", "../.."]
    (∃ part ∈ parts, part ≠ "") ∧ join parts = ".." ∧
      join (parts ++ ["", "./b\\c/"]) = join ([".."] ++ ["", "./b\\c/"]) ∧
      join (parts ++ ["", "./b\\c/"]) = "../b\\c/" := by
  intro parts
  have h : ∃ part ∈ parts, part ≠ "" := ⟨"a/", by simp [parts], by simp⟩
  have hfront : join parts = ".." := by decide
  have hsteps := (join_append_eq h).1 ["", "./b\\c/"]
  rw [hfront] at hsteps
  exact ⟨h, hfront, hsteps, by decide⟩

end RouteInventory.UrlPath
