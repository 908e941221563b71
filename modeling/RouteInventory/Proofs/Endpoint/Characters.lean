import RouteInventory.Proofs.Extraction.Names
import RouteInventory.Proofs.Inventory.Views
import RouteInventory.Proofs.UrlPath.Meaning

/-!
Which characters endpoints consist of. Normalizing and joining paths brings in points and slashes
only, and bare URLs hold neither blanks nor quotes nor semicolons. So a character of this kind that
an endpoint holds has been declared in the literal of a route or a mount
(`exists_declared_of_mem_endpoints`).
-/

namespace RouteInventory

/-! ### Paths -/

namespace UrlPath

open Text

/-- The names of a path are segments of a text. -/
def NamesFrom (s : List Char) (p : UrlPath) : Prop := ∀ name ∈ p.names, name ∈ split '/' s

theorem NamesFrom.enter {s segment : List Char} {p : UrlPath} (h : NamesFrom s p)
    (hsegment : segment ∈ split '/' s) : NamesFrom s (p.enter segment) := by
  intro name hname
  simp only [UrlPath.enter] at hname
  split at hname
  · exact h name hname
  split at hname
  · split at hname
    · exact h name (List.mem_of_mem_tail hname)
    split at hname <;> exact h name hname
  · rcases List.mem_cons.1 hname with rfl | hname
    · exact hsegment
    · exact h name hname

theorem namesFrom_foldl {s : List Char} {segments : List (List Char)}
    (hsegments : ∀ segment ∈ segments, segment ∈ split '/' s) {p : UrlPath} (h : NamesFrom s p) :
    NamesFrom s (segments.foldl UrlPath.enter p) := by
  induction segments generalizing p with
  | nil => exact h
  | cons segment segments ih =>
    exact ih (fun x hx => hsegments x (List.mem_cons_of_mem _ hx))
      (h.enter (hsegments segment List.mem_cons_self))

theorem namesFrom_ofChars (s : List Char) : NamesFrom s (ofChars s) :=
  namesFrom_foldl (fun _ h => h) fun _ h => absurd h List.not_mem_nil

theorem mem_join_segments {p : UrlPath} {c : Char} (h : c ∈ Text.join '/' p.segments) :
    c = '.' ∨ c = '/' ∨ ∃ name ∈ p.names, c ∈ name := by
  rcases mem_join h with h | ⟨segment, hsegment, hc⟩
  · exact .inr (.inl h)
  rcases mem_segments_iff.1 hsegment with ⟨-, rfl⟩ | hname
  · simp only [List.mem_cons, List.not_mem_nil, or_false, or_self] at hc
    exact .inl hc
  · exact .inr (.inr ⟨segment, hname, hc⟩)

/-- The written form of a path is made of its names, points and slashes. -/
theorem mem_toChars {p : UrlPath} {c : Char} (h : c ∈ p.toChars) :
    c = '.' ∨ c = '/' ∨ ∃ name ∈ p.names, c ∈ name := by
  have hslash : (c ∈ if p.slashed then ['/'] else []) → c = '/' := by
    intro hc
    cases hslashed : p.slashed <;> simp_all
  rw [toChars] at h
  split at h
  · split at h
    · exact .inr (.inl (List.mem_singleton.1 h))
    · rw [List.cons_append, List.mem_cons, List.mem_append] at h
      rcases h with h | h | h
      · exact .inr (.inl h)
      · exact mem_join_segments h
      · exact .inr (.inl (hslash h))
  · rw [List.mem_append] at h
    rcases h with h | h
    · split at h
      · exact .inl (List.mem_singleton.1 h)
      · exact mem_join_segments h
    · exact .inr (.inl (hslash h))

/-- Normalizing brings in points and slashes only. -/
theorem mem_normalizeChars {s : List Char} {c : Char} (h : c ∈ normalizeChars s) :
    c = '.' ∨ c = '/' ∨ c ∈ s := by
  rcases mem_toChars h with h | h | ⟨name, hname, hc⟩
  · exact .inl h
  · exact .inr (.inl h)
  · exact .inr (.inr (mem_of_mem_split (namesFrom_ofChars s name hname) hc))

/-- And so does joining. -/
theorem mem_joinChars {parts : List (List Char)} {c : Char} (h : c ∈ joinChars parts) :
    c = '.' ∨ c = '/' ∨ ∃ part ∈ parts, c ∈ part := by
  rw [joinChars] at h
  split at h
  · exact .inl (List.mem_singleton.1 h)
  · rcases mem_normalizeChars h with h | h | h
    · exact .inl h
    · exact .inr (.inl h)
    · rcases mem_join h with h | ⟨part, hpart, hc⟩
      · exact .inr (.inl h)
      · exact .inr (.inr ⟨part, List.mem_of_mem_filter hpart, hc⟩)

end UrlPath

/-- A path loses characters when it becomes an endpoint, and gains none. -/
theorem mem_ofPath {path : String} {c : Char} (h : c ∈ (Endpoint.ofPath path).toList) :
    c ∈ path.toList := by
  rw [Endpoint.ofPath, String.toList_ofList, Endpoint.dropSlashes, List.mem_reverse] at h
  have hdrop := List.mem_reverse.1 ((List.dropWhile_sublist _).mem h)
  rw [Endpoint.dropOne] at hdrop
  split at hdrop
  · exact (List.dropLast_sublist _).mem hdrop
  · exact hdrop

/-! ### Literals -/

open Extraction Pattern

variable {ε : Type} {rules : SecretRules} {read : String → Except ε String} {files : List String}

/-- A literal that a readable file declares, as a route or as a mount prefix. -/
def Declared (read : String → Except ε String) (files : List String) (literal : String) : Prop :=
  ∃ file text, HasText read files file text ∧
    ((∃ route ∈ (routesIn file text).routes, route.path = literal) ∨
      literal ∈ (routesIn file text).basePaths)

/-- What cannot stand in a bare URL comes into a path by a literal. -/
theorem IsSource.exists_declared {u : String} {c : Char} (hu : IsSource read files u)
    (hc : c ∈ u.toList) (hurl : isUrlChar c = false) :
    ∃ literal, Declared read files literal ∧ c ∈ literal.toList := by
  have hpoint : c ≠ '.' := fun h => absurd (h ▸ hurl) (by decide)
  have hslash : c ≠ '/' := fun h => absurd (h ▸ hurl) (by decide)
  cases hu with
  | @url file text u htext hmem =>
    obtain ⟨path, hpath, heq⟩ := exists_path_of_mem_urlsIn hmem
    rw [heq, List.mem_cons, or_iff_right hslash] at hc
    rw [hpath.2 c hc] at hurl
    exact absurd hurl (by decide)
  | @route file text r hnone htext hr =>
    exact ⟨r.path, ⟨file, text, htext, .inl ⟨r, hr, rfl⟩⟩, hc⟩
  | @mounted file file' text text' r base htext hr htext' hbase =>
    rw [slashed, String.toList_ofList, List.mem_map] at hc
    obtain ⟨d, hd, hdc⟩ := hc
    -- the slash that stands for a backslash is no such character
    have hsame : d = c := by
      split at hdc
      · exact absurd hdc.symm hslash
      · exact hdc
    rw [hsame, UrlPath.join, String.toList_ofList] at hd
    rcases UrlPath.mem_joinChars hd with h | h | ⟨part, hpart, h⟩
    · exact absurd h hpoint
    · exact absurd h hslash
    · simp only [List.map_cons, List.map_nil, List.mem_cons, List.not_mem_nil, or_false] at hpart
      rcases hpart with rfl | rfl
      · exact ⟨base, ⟨file', text', htext', .inr hbase⟩, h⟩
      · exact ⟨r.path, ⟨file, text, htext, .inl ⟨r, hr, rfl⟩⟩, h⟩

/-- A blank, a quote or a semicolon in an endpoint has been declared in a literal. -/
theorem exists_declared_of_mem_endpoints {folder tag e : String} {c : Char}
    (he : e ∈ (Inventory.ofScan folder (scan rules read files) tag).endpoints)
    (hc : c ∈ e.toList) (hurl : isUrlChar c = false) :
    ∃ literal, Declared read files literal ∧ c ∈ literal.toList := by
  obtain ⟨-, u, rfl, hu⟩ := mem_endpoints_iff.1 he
  exact hu.exists_declared (mem_ofPath hc) hurl

end RouteInventory
