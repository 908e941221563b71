import RouteInventory.Proofs.Endpoint.Characters
import RouteInventory.Report

/-!
What can be read back from the reports that hold one line for each string. Lines give their strings
back if none of these is empty or holds a newline (`holdsLines_linesOf_iff`). Header names and
environment variables are never so. An endpoint is never empty, and it holds a newline only if the
literal of a route or a mount spans lines (`lineReports_ofScan`).
-/

namespace RouteInventory

open Extraction Pattern Text

namespace Report

/-- The strings between the newlines of a report; an empty report holds none. -/
def readBack (content : String) : List String :=
  if content = "" then [] else (split '\n' content.toList).map String.ofList

/-- A report gives a list back, line by line, and has as many lines as a total says. -/
structure HoldsLines (content : String) (xs : List String) (total : Nat) : Prop where
  empty : content = "" ↔ xs = []
  readBack : readBack content = xs
  lineCount : content ≠ "" → (split '\n' content.toList).length = total

theorem toList_linesOf (xs : List String) :
    (linesOf xs).toList = join '\n' (xs.map String.toList) := by
  rw [linesOf, String.toList_intercalate, join_eq_intercalate]
  rfl

theorem linesOf_eq_empty_iff {xs : List String} (hne : ∀ x ∈ xs, x ≠ "") :
    linesOf xs = "" ↔ xs = [] := by
  rw [← String.toList_eq_nil_iff, toList_linesOf]
  constructor
  · intro h
    by_contra hxs
    obtain ⟨x, hx⟩ := List.exists_mem_of_ne_nil xs hxs
    obtain ⟨c, hc⟩ := List.exists_mem_of_ne_nil x.toList (mt String.toList_eq_nil_iff.1 (hne x hx))
    have hmem : c ∈ join '\n' (xs.map String.toList) :=
      mem_join_of_mem (List.mem_map_of_mem hx) hc
    rw [h] at hmem
    exact List.not_mem_nil hmem
  · rintro rfl
    rfl

/-- No string that is read back holds a newline. -/
theorem newline_not_mem_of_mem_readBack {content x : String} (h : x ∈ readBack content) :
    '\n' ∉ x.toList := by
  rw [readBack] at h
  split at h
  · exact absurd h List.not_mem_nil
  · obtain ⟨line, hline, rfl⟩ := List.mem_map.1 h
    rw [String.toList_ofList]
    exact not_mem_of_mem_split hline

/-- Lines of strings that are not empty give them back exactly if no string holds a newline. -/
theorem holdsLines_linesOf_iff {xs : List String} (hne : ∀ x ∈ xs, x ≠ "") :
    HoldsLines (linesOf xs) xs xs.length ↔ ∀ x ∈ xs, '\n' ∉ x.toList := by
  constructor
  · intro h x hx
    rw [← h.readBack] at hx
    exact newline_not_mem_of_mem_readBack hx
  · intro hfree
    have hsplit : xs ≠ [] → split '\n' (linesOf xs).toList = xs.map String.toList := by
      intro hxs
      rw [toList_linesOf]
      refine split_join ?_ (by simpa using hxs)
      intro line hline
      obtain ⟨x, hx, rfl⟩ := List.mem_map.1 hline
      exact hfree x hx
    have hempty := linesOf_eq_empty_iff hne
    refine ⟨hempty, ?_, fun hfull => ?_⟩
    · rw [readBack]
      split
      · next h => exact (hempty.1 h).symm
      · next h =>
        rw [hsplit fun hxs => h (hempty.2 hxs), List.map_map]
        exact List.map_id'' (fun x => String.ofList_toList) xs
    · rw [hsplit fun hxs => hfull (hempty.2 hxs), List.length_map]

/-- The report of this name gives a list back, and has as many lines as the total says. -/
def Lossless (inv : Inventory) (name : String) (xs : List String) (total : Nat) : Prop :=
  ∃ content, (files inv).lookup name = some content ∧ HoldsLines content xs total

/-- What is reported line by line is lossless exactly if no string holds a newline. -/
theorem lossless_iff {inv : Inventory} {name : String} {xs : List String}
    (hlookup : (files inv).lookup name = some (linesOf xs)) (hne : ∀ x ∈ xs, x ≠ "") :
    Lossless inv name xs xs.length ↔ ∀ x ∈ xs, '\n' ∉ x.toList := by
  rw [← holdsLines_linesOf_iff hne, Lossless]
  constructor
  · rintro ⟨content, hcontent, h⟩
    obtain rfl := Option.some.inj (hlookup.symm.trans hcontent)
    exact h
  · exact fun h => ⟨_, hlookup, h⟩

theorem lookup_endpoints (inv : Inventory) :
    (files inv).lookup "endpoints.txt" = some (linesOf inv.endpoints) := rfl

theorem lookup_headers (inv : Inventory) :
    (files inv).lookup "headers.txt" = some (linesOf inv.headerNames) := rfl

theorem lookup_envVars (inv : Inventory) :
    (files inv).lookup "environment_variables.txt" = some (linesOf inv.envVars) := rfl

end Report

/-! ### The reports of a scan -/

variable {ε : Type} {rules : SecretRules} {read : String → Except ε String} {files : List String}
  {folder tag : String}

/-- Text of a class is not empty, and holds no newline if the class does not. -/
theorem plain_of_some1 {is : Char → Bool} {x : String} (h : Some1 is x.toList)
    (hnewline : is '\n' = false) : x ≠ "" ∧ '\n' ∉ x.toList := by
  constructor
  · rintro rfl
    exact h.1 rfl
  · intro hmem
    rw [h.2 _ hmem] at hnewline
    exact absurd hnewline (by decide)

theorem plain_of_mem_headerNames {name : String}
    (h : name ∈ (Inventory.ofScan folder (scan rules read files) tag).headerNames) :
    name ≠ "" ∧ '\n' ∉ name.toList := by
  obtain ⟨file, text, -, hname⟩ := mem_headerNames_iff.1 h
  exact plain_of_some1 (some1_of_mem_headersIn hname) (by decide)

theorem plain_of_mem_envVars {name : String}
    (h : name ∈ (Inventory.ofScan folder (scan rules read files) tag).envVars) :
    name ≠ "" ∧ '\n' ∉ name.toList := by
  obtain ⟨file, text, -, hname⟩ := mem_envVars_iff.1 h
  exact plain_of_some1 (some1_of_mem_envVarsIn hname) (by decide)

/-- The reports of header names and environment variables are lossless. That of the endpoints is so
    exactly if no endpoint holds a newline, and one that does has it from a declared literal. -/
theorem lineReports_ofScan (rules : SecretRules) (read : String → Except ε String)
    (files : List String) (folder tag : String) :
    let inv := Inventory.ofScan folder (scan rules read files) tag
    Report.Lossless inv "headers.txt" inv.headerNames inv.summary.headers ∧
    Report.Lossless inv "environment_variables.txt" inv.envVars inv.summary.envVars ∧
    (Report.Lossless inv "endpoints.txt" inv.endpoints inv.summary.endpoints ↔
      ∀ e ∈ inv.endpoints, '\n' ∉ e.toList) ∧
    ∀ e ∈ inv.endpoints, '\n' ∈ e.toList →
      ∃ literal, Declared read files literal ∧ '\n' ∈ literal.toList := by
  intro inv
  refine ⟨?_, ?_, ?_, ?_⟩
  · exact (Report.lossless_iff (Report.lookup_headers inv)
      fun _ h => (plain_of_mem_headerNames h).1).2 fun _ h => (plain_of_mem_headerNames h).2
  · exact (Report.lossless_iff (Report.lookup_envVars inv)
      fun _ h => (plain_of_mem_envVars h).1).2 fun _ h => (plain_of_mem_envVars h).2
  · exact Report.lossless_iff (Report.lookup_endpoints inv) fun _ h => (mem_endpoints_iff.1 h).1
  · exact fun e he hnewline => exists_declared_of_mem_endpoints he hnewline (by decide)

/-- A route literal that spans two lines makes one endpoint and two lines. -/
theorem not_lossless_of_route_over_lines :
    let inv := Inventory.ofScan "api"
      (scan .disabled (fun _ : String => (.ok "app.get('/a\nb')" : Except String String)) ["a.js"])
      "TAG"
    inv.endpoints = ["/a\nb"] ∧
    ¬ Report.Lossless inv "endpoints.txt" inv.endpoints inv.summary.endpoints := by
  intro inv
  have hendpoints : inv.endpoints = ["/a\nb"] := by decide +kernel
  refine ⟨hendpoints, ?_⟩
  rintro ⟨content, hcontent, h⟩
  rw [Report.lookup_endpoints, hendpoints] at hcontent
  obtain rfl := Option.some.inj hcontent
  have hback := h.readBack
  rw [hendpoints] at hback
  exact absurd hback (by decide)

end RouteInventory
