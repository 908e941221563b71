import RouteInventory.Inventory
import RouteInventory.Proofs.Scan.Runs
import RouteInventory.Proofs.Text.Octets

/-!
Where the endpoints of an inventory come from. They are the paths of the bare URLs and of the
routes, these under every mount prefix of any file if there is one (`endpoints_ofScan`).
-/

namespace RouteInventory

open Extraction

variable {ε : Type} {rules : SecretRules} {read : String → Except ε String} {files : List String}

/-! ### Composing -/

theorem mem_paths_compose {routes : List Route} {bases : List String} {p : String} :
    p ∈ (compose routes bases).map (·.path) ↔
      (bases = [] ∧ ∃ route ∈ routes, route.path = p) ∨
        ∃ route ∈ routes, ∃ base ∈ bases, (route.under base).path = p := by
  rw [compose]
  cases bases with
  | nil => simp
  | cons base bases =>
    rw [if_neg (by simp), List.map_flatMap, List.mem_flatMap]
    simp only [List.map_map, List.mem_map, Function.comp_apply, reduceCtorEq, false_and, false_or]

/-- An endpoint is the path of a route or a URL without what it ends in, unless nothing is left. -/
theorem mem_inventory {routes : List Route} {urls : List UrlMention} {e : String} :
    e ∈ Endpoint.inventory routes urls ↔
      e ≠ "" ∧ ∃ u, e = Endpoint.ofPath u ∧ (u ∈ routes.map (·.path) ∨ u ∈ urls.map (·.url)) := by
  rw [Endpoint.inventory, mem_sortedUnique, List.mem_filter, List.mem_map, decide_eq_true_iff,
    and_comm]
  refine and_congr_right fun _ => exists_congr fun u => ?_
  rw [List.mem_append, and_comm, eq_comm]

theorem pairwise_inventory (routes : List Route) (urls : List UrlMention) :
    (Endpoint.inventory routes urls).Pairwise (· < ·) :=
  pairwise_sortedUnique _

/-! ### Sources -/

/-- The text of a file of a list that can be read. -/
def HasText (read : String → Except ε String) (files : List String) (file : String)
    (text : Array Char) : Prop :=
  file ∈ files ∧ ∃ content, read file = .ok content ∧ text = content.toList.toArray

theorem mem_gathered_iff {β : Type} {pick : FileExtraction → List β}
    {found : String → Array Char → List β}
    (hpick : ∀ file content,
      pick (extract rules file content) = found file content.toList.toArray) {x : β} :
    x ∈ files.flatMap (gathered rules read pick) ↔
      ∃ file text, HasText read files file text ∧ x ∈ found file text := by
  rw [mem_flatMap_gathered]
  constructor
  · rintro ⟨file, hfile, content, hread, hx⟩
    exact ⟨file, _, ⟨hfile, content, hread, rfl⟩, hpick file content ▸ hx⟩
  · rintro ⟨file, -, ⟨hfile, content, hread, rfl⟩, hx⟩
    exact ⟨file, hfile, content, hread, hpick file content ▸ hx⟩

theorem mem_routes_scan {route : Route} :
    route ∈ (scan rules read files).routes ↔
      ∃ file text, HasText read files file text ∧ route ∈ (routesIn file text).routes := by
  rw [routes_scan]
  exact mem_gathered_iff fun _ _ => rfl

theorem mem_basePaths_scan {base : String} :
    base ∈ (scan rules read files).basePaths ↔
      ∃ file text, HasText read files file text ∧ base ∈ (routesIn file text).basePaths := by
  rw [basePaths_scan]
  exact mem_gathered_iff fun _ _ => rfl

theorem mem_otherUrls_scan {url : UrlMention} :
    url ∈ (scan rules read files).otherUrls ↔
      ∃ file text, HasText read files file text ∧ url ∈ urlsIn file text := by
  rw [otherUrls_scan]
  exact mem_gathered_iff fun _ _ => rfl

/-- A path with slashes for its backslashes. -/
def slashed (path : String) : String :=
  .ofList (path.toList.map fun c => if c = '\\' then '/' else c)

/-- The paths that the readable files of a list give. -/
inductive IsSource (read : String → Except ε String) (files : List String) : String → Prop where
  /-- a bare URL -/
  | url {file : String} {text : Array Char} {u : UrlMention} (htext : HasText read files file text)
      (hu : u ∈ urlsIn file text) : IsSource read files u.url
  /-- a route, when no file declares a mount -/
  | route {file : String} {text : Array Char} {r : Route}
      (hnone : ∀ file text, HasText read files file text → (routesIn file text).basePaths = [])
      (htext : HasText read files file text) (hr : r ∈ (routesIn file text).routes) :
      IsSource read files r.path
  /-- a route of one file under a mount prefix of the same or another file -/
  | mounted {file file' : String} {text text' : Array Char} {r : Route} {base : String}
      (htext : HasText read files file text) (hr : r ∈ (routesIn file text).routes)
      (htext' : HasText read files file' text') (hbase : base ∈ (routesIn file' text').basePaths) :
      IsSource read files (slashed (UrlPath.join [base, r.path]))

/-- No prefix is found in any file if none is found in each. -/
theorem basePaths_scan_eq_nil :
    (scan rules read files).basePaths = [] ↔
      ∀ file text, HasText read files file text → (routesIn file text).basePaths = [] := by
  simp only [List.eq_nil_iff_forall_not_mem, mem_basePaths_scan]
  constructor
  · intro h file text htext base hbase
    exact h base ⟨file, text, htext, hbase⟩
  · rintro h base ⟨file, text, htext, hbase⟩
    exact h file text htext base hbase

theorem isSource_iff {u : String} :
    IsSource read files u ↔
      u ∈ (compose (scan rules read files).routes (scan rules read files).basePaths).map (·.path) ∨
        u ∈ (scan rules read files).otherUrls.map (·.url) := by
  rw [mem_paths_compose, basePaths_scan_eq_nil, List.mem_map]
  constructor
  · rintro (⟨htext, hu⟩ | ⟨hnone, htext, hr⟩ | ⟨htext, hr, htext', hbase⟩)
    · exact .inr ⟨_, mem_otherUrls_scan.2 ⟨_, _, htext, hu⟩, rfl⟩
    · exact .inl (.inl ⟨hnone, _, mem_routes_scan.2 ⟨_, _, htext, hr⟩, rfl⟩)
    · exact .inl (.inr ⟨_, mem_routes_scan.2 ⟨_, _, htext, hr⟩, _,
        mem_basePaths_scan.2 ⟨_, _, htext', hbase⟩, rfl⟩)
  · rintro ((⟨hnone, r, hr, rfl⟩ | ⟨r, hr, base, hbase, rfl⟩) | ⟨url, hurl, rfl⟩)
    · obtain ⟨file, text, htext, hr⟩ := mem_routes_scan.1 hr
      exact .route hnone htext hr
    · obtain ⟨file, text, htext, hr⟩ := mem_routes_scan.1 hr
      obtain ⟨file', text', htext', hbase⟩ := mem_basePaths_scan.1 hbase
      exact .mounted htext hr htext' hbase
    · obtain ⟨file, text, htext, hu⟩ := mem_otherUrls_scan.1 hurl
      exact .url htext hu

/-- The endpoints of a scan ascend strictly by their octets, and they are what its sources come to,
    but for the root. -/
theorem endpoints_ofScan (rules : SecretRules) (read : String → Except ε String)
    (files : List String) (folder tag : String) :
    let endpoints := (Inventory.ofScan folder (scan rules read files) tag).endpoints
    endpoints.Pairwise (fun a b => Text.encode a.toList < Text.encode b.toList) ∧
    ∀ e, e ∈ endpoints ↔ e ≠ "" ∧ ∃ u, e = Endpoint.ofPath u ∧ IsSource read files u := by
  constructor
  · exact (pairwise_sortedUnique _).imp fun h => Text.encode_lt_encode_iff.2 (String.lt_iff.1 h)
  · intro e
    rw [Inventory.ofScan, mem_inventory]
    simp only [@isSource_iff ε rules read files]

end RouteInventory
