import Mathlib.Data.List.DropRight
import RouteInventory.Proofs.Inventory.Views

/-!
Paths with one endpoint. Slashes at the end of a path and one question mark behind them are all that
its endpoint leaves out (`exists_eq_variant`), and with more of them a path has the same endpoint
(`ofPath_variant`). So a path that differs from a given one in these only adds nothing to an
inventory, wherever it is given (`inventory_variants`).
-/

namespace RouteInventory.Endpoint

variable {routes routes' : List Route} {urls urls' : List UrlMention} {path other : String}

/-! ### What a path ends in -/

theorem dropOne_concat (c : Char) (s : List Char) : dropOne c (s ++ [c]) = s := by
  rw [dropOne, List.getLast?_concat, if_pos rfl, List.dropLast_concat]

theorem dropOne_of_ne {c : Char} {s : List Char} (h : s.getLast? ≠ some c) : dropOne c s = s :=
  if_neg h

/-- At most that character is lost. -/
theorem exists_dropOne_append (c : Char) (s : List Char) :
    ∃ lost : Bool, s = dropOne c s ++ if lost then [c] else [] := by
  by_cases h : s.getLast? = some c
  · obtain ⟨front, rfl⟩ := List.getLast?_eq_some_iff.1 h
    exact ⟨true, by rw [dropOne_concat, if_pos rfl]⟩
  · exact ⟨false, by rw [dropOne_of_ne h, if_neg Bool.false_ne_true, List.append_nil]⟩

/-- With slashes behind it a text ends as before or in a slash. -/
theorem getLast?_append_slashes {c : Char} {s : List Char} (h : s.getLast? ≠ some c) (hc : c ≠ '/')
    (n : Nat) : (s ++ List.replicate n '/').getLast? ≠ some c := by
  cases n with
  | zero => rwa [List.replicate_zero, List.append_nil]
  | succ n =>
    rw [List.replicate_succ', ← List.append_assoc, List.getLast?_concat]
    exact fun heq => hc (Option.some.inj heq).symm

theorem dropSlashes_append_slashes (s : List Char) (n : Nat) :
    dropSlashes (s ++ List.replicate n '/') = dropSlashes s := by
  induction n with
  | zero => rw [List.replicate_zero, List.append_nil]
  | succ n ih =>
    rw [List.replicate_succ', ← List.append_assoc]
    exact (List.rdropWhile_concat_pos _ _ '/' rfl).trans ih

/-- Nothing but slashes is lost. -/
theorem exists_dropSlashes_append (s : List Char) :
    ∃ n, s = dropSlashes s ++ List.replicate n '/' := by
  have hslashes : ∀ c ∈ s.rtakeWhile (· == '/'), c = '/' := by
    intro c hc
    have hslash := List.mem_rtakeWhile_imp hc
    exact beq_iff_eq.1 hslash
  refine ⟨(s.rtakeWhile (· == '/')).length, ?_⟩
  rw [← List.eq_replicate_of_mem hslashes]
  exact (List.rdropWhile_append_rtakeWhile ..).symm

theorem getLast?_dropSlashes (s : List Char) : (dropSlashes s).getLast? ≠ some '/' := by
  intro hlast
  have hne : dropSlashes s ≠ [] := fun hnil => by simp [hnil] at hlast
  have hnot := List.rdropWhile_last_not (· == '/') s hne
  rw [List.getLast?_eq_some_getLast hne] at hlast
  exact hnot (beq_iff_eq.2 (Option.some.inj hlast))

/-- A path with more slashes at its end, and a question mark behind them if it is marked. -/
def variant (path : String) (slashes : Nat) (marked : Bool) : String :=
  .ofList (path.toList ++ List.replicate slashes '/' ++ if marked then ['?'] else [])

/-- A path is a variant of its endpoint. -/
theorem exists_eq_variant (path : String) :
    ∃ slashes marked, path = variant (ofPath path) slashes marked := by
  obtain ⟨marked, hmarked⟩ := exists_dropOne_append '?' path.toList
  obtain ⟨slashes, hslashes⟩ := exists_dropSlashes_append (dropOne '?' path.toList)
  refine ⟨slashes, marked, ?_⟩
  rw [variant, ofPath, String.toList_ofList, ← hslashes, ← hmarked, String.ofList_toList]

/-- The variants of a path have its endpoint. -/
theorem ofPath_variant (h : path.toList.getLast? ≠ some '?') (slashes : Nat) (marked : Bool) :
    ofPath (variant path slashes marked) = ofPath path := by
  rw [ofPath, ofPath, variant, String.toList_ofList, dropOne_of_ne h]
  cases marked with
  | true => rw [if_pos rfl, dropOne_concat, dropSlashes_append_slashes]
  | false =>
    have hslashed := getLast?_append_slashes h (by decide) slashes
    rw [if_neg Bool.false_ne_true, List.append_nil, dropOne_of_ne hslashed,
      dropSlashes_append_slashes]

/-- Only one question mark counts as the end of a path. -/
example : ofPath (variant "/x?" 0 true) ≠ ofPath "/x?" := by decide

/-! ### One path more -/

/-- Whether a path is among those of an inventory's routes and URLs. -/
def Given (routes : List Route) (urls : List UrlMention) (path : String) : Prop :=
  path ∈ routes.map (·.path) ∨ path ∈ urls.map (·.url)

/-- Routes and URLs, and the same with one more path somewhere among the routes or the URLs. -/
inductive OneMore (path : String) :
    List Route → List UrlMention → List Route → List UrlMention → Prop where
  | route {front back : List Route} {urls : List UrlMention} {route : Route}
      (h : route.path = path) : OneMore path (front ++ back) urls (front ++ route :: back) urls
  | url {routes : List Route} {front back : List UrlMention} {url : UrlMention}
      (h : url.url = path) : OneMore path routes (front ++ back) routes (front ++ url :: back)

theorem OneMore.given_iff (h : OneMore path routes urls routes' urls') {u : String} :
    Given routes' urls' u ↔ u = path ∨ Given routes urls u := by
  cases h with
  | route h =>
    simp only [Given, List.map_append, List.map_cons, List.mem_append, List.mem_cons, h]
    tauto
  | url h =>
    simp only [Given, List.map_append, List.map_cons, List.mem_append, List.mem_cons, h]
    tauto

/-- A path with the endpoint of a given one adds nothing. -/
theorem OneMore.inventory_eq (h : OneMore path routes urls routes' urls')
    (hother : Given routes urls other) (heq : ofPath path = ofPath other) :
    inventory routes' urls' = inventory routes urls := by
  refine (pairwise_inventory _ _).eq_of_mem_iff (pairwise_inventory _ _) fun e => ?_
  rw [mem_inventory, mem_inventory]
  refine and_congr_right fun _ => ⟨?_, ?_⟩
  · rintro ⟨u, rfl, hu⟩
    rcases h.given_iff.1 hu with rfl | hu
    · exact ⟨other, heq, hother⟩
    · exact ⟨u, rfl, hu⟩
  · rintro ⟨u, rfl, hu⟩
    exact ⟨u, rfl, h.given_iff.2 (.inr hu)⟩

/-- Every given path is a variant of an endpoint or of the empty text. One more variant of a given
    path changes nothing in the inventory, whether it is given as a route or as a URL, and wherever.
    No endpoint is empty or ends in a slash. -/
theorem inventory_variants (routes : List Route) (urls : List UrlMention) :
    (∀ path, Given routes urls path → ∃ e slashes marked,
      path = variant e slashes marked ∧ (e = "" ∨ e ∈ inventory routes urls)) ∧
    (∀ path, Given routes urls path → path.toList.getLast? ≠ some '?' →
      ∀ slashes marked routes' urls',
        OneMore (variant path slashes marked) routes urls routes' urls' →
          inventory routes' urls' = inventory routes urls) ∧
    ∀ e ∈ inventory routes urls, e ≠ "" ∧ e.toList.getLast? ≠ some '/' := by
  refine ⟨?_, ?_, ?_⟩
  · intro path hgiven
    obtain ⟨slashes, marked, heq⟩ := exists_eq_variant path
    refine ⟨ofPath path, slashes, marked, heq, ?_⟩
    by_cases hempty : ofPath path = ""
    · exact .inl hempty
    · exact .inr (mem_inventory.2 ⟨hempty, path, rfl, hgiven⟩)
  · intro path hgiven hmark slashes marked routes' urls' hmore
    exact hmore.inventory_eq hgiven (ofPath_variant hmark slashes marked)
  · intro e he
    obtain ⟨hne, u, rfl, -⟩ := mem_inventory.1 he
    refine ⟨hne, ?_⟩
    rw [ofPath, String.toList_ofList]
    exact getLast?_dropSlashes _

/-- A question mark inside a path, a slash behind it, and the variant as a URL. -/
theorem inventory_with_marked_url :
    let routes : List Route := [⟨"/?/", "GET", "a.js"⟩]
    let urls : List UrlMention := [⟨"/x", "b.js"⟩]
    let more : UrlMention := ⟨"/?///?", "c.js"⟩
    Given routes urls "/?/" ∧ "/?/".toList.getLast? ≠ some '?' ∧
      OneMore (variant "/?/" 2 true) routes urls routes (urls ++ [more]) ∧
      inventory routes (urls ++ [more]) = inventory routes urls ∧
      "/?" ∈ inventory routes urls ∧ "/?" ≠ "" ∧ "/?".toList.getLast? ≠ some '/' := by
  intro routes urls more
  have hgiven : Given routes urls "/?/" := .inl (List.mem_singleton_self _)
  have hmark : "/?/".toList.getLast? ≠ some '?' := by decide
  have hmore : OneMore (variant "/?/" 2 true) routes urls routes (urls ++ [more]) :=
    @OneMore.url _ routes urls [] more (by decide)
  have hmem : "/?" ∈ inventory routes urls :=
    mem_inventory.2 ⟨by decide, "/?/", by decide, hgiven⟩
  exact ⟨hgiven, hmark, hmore,
    (inventory_variants routes urls).2.1 "/?/" hgiven hmark 2 true routes _ hmore, hmem,
    (inventory_variants routes urls).2.2 "/?" hmem⟩

end RouteInventory.Endpoint
