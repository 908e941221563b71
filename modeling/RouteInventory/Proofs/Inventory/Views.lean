import Mathlib.Data.List.Sort
import RouteInventory.Proofs.Endpoint.Sources

/-!
The sorted views of an inventory: endpoints, header names and environment variables. What they list
is settled by the texts of the files that can be read (`mem_endpoints_iff`, `mem_headerNames_iff`,
`mem_envVars_iff`), and an ascending list is settled by its members. So neither the order in which
files are visited nor their repetition shows in a view (`views_eq_of_same_files`).
-/

namespace RouteInventory

open Extraction

variable {ε : Type} {rules : SecretRules} {read : String → Except ε String}
  {files xs ys : List String} {folder tag : String}

/-! ### Members of the views -/

theorem mem_endpoints_iff {e : String} :
    e ∈ (Inventory.ofScan folder (scan rules read files) tag).endpoints ↔
      e ≠ "" ∧ ∃ u, e = Endpoint.ofPath u ∧ IsSource read files u := by
  rw [Inventory.ofScan, mem_inventory]
  simp only [@isSource_iff ε rules read files]

theorem mem_headerNames_iff {name : String} :
    name ∈ (Inventory.ofScan folder (scan rules read files) tag).headerNames ↔
      ∃ file text, HasText read files file text ∧ name ∈ (headersIn text).items := by
  rw [Inventory.ofScan, mem_sortedUnique, headerNames_scan]
  refine mem_gathered_iff fun file content => ?_
  rw [extract]

theorem mem_envVars_iff {name : String} :
    name ∈ (Inventory.ofScan folder (scan rules read files) tag).envVars ↔
      ∃ file text, HasText read files file text ∧ name ∈ envVarsIn text := by
  rw [Inventory.ofScan, mem_envVars_scan]
  refine mem_gathered_iff fun file content => ?_
  rw [extract]

/-! ### The views ascend -/

theorem pairwise_endpoints (folder tag : String) :
    (Inventory.ofScan folder (scan rules read files) tag).endpoints.Pairwise (· < ·) :=
  pairwise_inventory _ _

theorem pairwise_headerNames (folder tag : String) :
    (Inventory.ofScan folder (scan rules read files) tag).headerNames.Pairwise (· < ·) :=
  pairwise_sortedUnique _

theorem pairwise_envVars (folder tag : String) :
    (Inventory.ofScan folder (scan rules read files) tag).envVars.Pairwise (· < ·) :=
  pairwise_envVars_scan rules read files

/-- A list that ascends strictly does so by the octets of its texts. -/
theorem octets_ascend {xs : List String} (h : xs.Pairwise (· < ·)) :
    xs.Pairwise fun a b => Text.encode a.toList < Text.encode b.toList :=
  h.imp fun hab => Text.encode_lt_encode_iff.2 (String.lt_iff.1 hab)

/-! ### The same files -/

theorem hasText_congr (h : ∀ file, file ∈ xs ↔ file ∈ ys) (file : String) (text : Array Char) :
    HasText read xs file text ↔ HasText read ys file text :=
  and_congr_left' (h file)

/-- Files with the same texts are sources of the same paths. -/
theorem IsSource.congr (h : ∀ file text, HasText read xs file text ↔ HasText read ys file text)
    {u : String} (hu : IsSource read xs u) : IsSource read ys u := by
  cases hu with
  | url htext hmem => exact .url ((h _ _).1 htext) hmem
  | route hnone htext hr =>
    exact .route (fun file text hy => hnone file text ((h file text).2 hy)) ((h _ _).1 htext) hr
  | mounted htext hr htext' hbase =>
    exact .mounted ((h _ _).1 htext) hr ((h _ _).1 htext') hbase

theorem endpoints_congr (h : ∀ file text, HasText read xs file text ↔ HasText read ys file text) :
    (Inventory.ofScan folder (scan rules read xs) tag).endpoints =
      (Inventory.ofScan folder (scan rules read ys) tag).endpoints := by
  have hsource : ∀ u, IsSource read xs u ↔ IsSource read ys u :=
    fun u => ⟨.congr h, .congr fun file text => (h file text).symm⟩
  refine (pairwise_endpoints _ _).eq_of_mem_iff (pairwise_endpoints _ _) fun e => ?_
  simp only [mem_endpoints_iff, hsource]

theorem headerNames_congr (h : ∀ file text, HasText read xs file text ↔ HasText read ys file text) :
    (Inventory.ofScan folder (scan rules read xs) tag).headerNames =
      (Inventory.ofScan folder (scan rules read ys) tag).headerNames := by
  refine (pairwise_headerNames _ _).eq_of_mem_iff (pairwise_headerNames _ _) fun name => ?_
  simp only [mem_headerNames_iff, h]

theorem envVars_congr (h : ∀ file text, HasText read xs file text ↔ HasText read ys file text) :
    (Inventory.ofScan folder (scan rules read xs) tag).envVars =
      (Inventory.ofScan folder (scan rules read ys) tag).envVars := by
  refine (pairwise_envVars _ _).eq_of_mem_iff (pairwise_envVars _ _) fun name => ?_
  simp only [mem_envVars_iff, h]

/-- Files in another order, or given more often, make no difference to the sorted views, which
    ascend strictly by their octets. -/
theorem views_eq_of_same_files (rules : SecretRules) (read : String → Except ε String)
    (folder tag : String) {xs ys : List String} (h : ∀ file, file ∈ xs ↔ file ∈ ys) :
    let first := Inventory.ofScan folder (scan rules read xs) tag
    let second := Inventory.ofScan folder (scan rules read ys) tag
    first.endpoints = second.endpoints ∧ first.headerNames = second.headerNames ∧
    first.envVars = second.envVars ∧
    ∀ view ∈ [first.endpoints, first.headerNames, first.envVars],
      view.Pairwise fun a b => Text.encode a.toList < Text.encode b.toList := by
  have htext := @hasText_congr ε read xs ys h
  refine ⟨endpoints_congr htext, headerNames_congr htext, envVars_congr htext, ?_⟩
  intro view hview
  simp only [List.mem_cons, List.not_mem_nil, or_false] at hview
  rcases hview with rfl | rfl | rfl
  · exact octets_ascend (pairwise_endpoints folder tag)
  · exact octets_ascend (pairwise_headerNames folder tag)
  · exact octets_ascend (pairwise_envVars folder tag)

/-- A folder with a mount in one file and a route with a header in the other. -/
def mountAndRoute (file : String) : Except String String :=
  if file = "app.js" then .ok "app.use('/api', users)"
  else if file = "users.js" then .ok "users.get('/me'); req.headers['x-id']"
  else .error file

/-- Turned around and with a repetition, the two files give the same views. -/
theorem views_eq_of_repeated_file :
    (∀ file, file ∈ ["app.js", "users.js"] ↔ file ∈ ["users.js", "app.js", "users.js"]) ∧
    let first := Inventory.ofScan "api" (scan .disabled mountAndRoute ["app.js", "users.js"]) "TAG"
    let second :=
      Inventory.ofScan "api" (scan .disabled mountAndRoute ["users.js", "app.js", "users.js"]) "TAG"
    first.endpoints = second.endpoints ∧ first.headerNames = second.headerNames ∧
    first.envVars = second.envVars ∧
    ∀ view ∈ [first.endpoints, first.headerNames, first.envVars],
      view.Pairwise fun a b => Text.encode a.toList < Text.encode b.toList := by
  have hsame : ∀ file, file ∈ ["app.js", "users.js"] ↔ file ∈ ["users.js", "app.js", "users.js"] := by
    intro file
    simp only [List.mem_cons, List.not_mem_nil, or_false]
    tauto
  exact ⟨hsame, views_eq_of_same_files .disabled mountAndRoute "api" "TAG" hsame⟩

end RouteInventory
