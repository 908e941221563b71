import RouteInventory.Proofs.Endpoint.Sources
import RouteInventory.Proofs.Extraction.Names
import RouteInventory.Proofs.Parameters.QueryString

/-!
When the query string of a scan can be read back. Directly accessed names are letters, digits and
underscores, so a separator can only come from a destructuring list: its items are cut at blanks,
and a default that is written without blanks stays with the name. The query string is well formed
exactly if no such word holds an equals sign or an ampersand (`wellFormed_queryString_iff`).
-/

namespace RouteInventory

open Extraction Pattern

variable {ε : Type} {rules : SecretRules} {read : String → Except ε String} {files : List String}

/-! ### The names of the query string -/

/-- The given names are the parameters of the files that can be read. -/
theorem mem_parameters_scan {name : String} :
    (name ∈ (scan rules read files).bodyParameters.flatMap (·.items) ∨
      name ∈ (scan rules read files).queryParameters.flatMap (·.items)) ↔
      ∃ file text, HasText read files file text ∧ ∃ part, name ∈ (parametersIn part text).items := by
  have hbody : name ∈ (scan rules read files).bodyParameters.flatMap (·.items) ↔
      ∃ file text, HasText read files file text ∧ name ∈ (parametersIn .body text).items := by
    rw [bodyNames_scan]
    refine mem_gathered_iff fun file content => ?_
    rw [extract]
  have hquery : name ∈ (scan rules read files).queryParameters.flatMap (·.items) ↔
      ∃ file text, HasText read files file text ∧ name ∈ (parametersIn .query text).items := by
    rw [queryNames_scan]
    refine mem_gathered_iff fun file content => ?_
    rw [extract]
  rw [hbody, hquery]
  constructor
  · rintro (⟨file, text, htext, h⟩ | ⟨file, text, htext, h⟩)
    · exact ⟨file, text, htext, .body, h⟩
    · exact ⟨file, text, htext, .query, h⟩
  · rintro ⟨file, text, htext, part, h⟩
    cases part with
    | body => exact .inl ⟨file, text, htext, h⟩
    | query => exact .inr ⟨file, text, htext, h⟩

/-- A character that no name is made of comes with the words of a destructuring. -/
theorem exists_parameter_with_iff {part : RequestPart} {text : Array Char} {c : Char}
    (hc : isNameChar c = false) :
    (∃ name ∈ (parametersIn part text).items, c ∈ name.toList) ↔
      ∃ word ∈ unpackedNames part text, c ∈ word := by
  constructor
  · rintro ⟨name, hname, hmem⟩
    rw [parametersIn, mem_uniqueNames, List.mem_append] at hname
    rcases hname with haccess | hunpack
    · have hclass := (some1_of_mem_accessedNames haccess).2 c hmem
      rw [hc] at hclass
      exact absurd hclass Bool.false_ne_true
    · exact ⟨_, hunpack, hmem⟩
  · rintro ⟨word, hword, hmem⟩
    refine ⟨.ofList word, ?_, by rwa [String.toList_ofList]⟩
    rw [parametersIn, mem_uniqueNames, String.toList_ofList]
    exact List.mem_append_right _ hword

/-- The same of the names of the query string, for any character but the colon. -/
theorem exists_name_with_iff {c : Char} (hc : isNameChar c = false) (hcolon : c ≠ ':') :
    (∃ name ∈ QueryString.names (scan rules read files).bodyParameters
        (scan rules read files).queryParameters, c ∈ name.toList) ↔
      ∃ file text, HasText read files file text ∧
        ∃ part, ∃ word ∈ unpackedNames part text, c ∈ word := by
  simp only [← exists_parameter_with_iff hc]
  constructor
  · rintro ⟨name, hname, hmem⟩
    obtain ⟨-, given, hgiven, heq⟩ := QueryString.mem_names_iff.1 hname
    obtain ⟨file, text, htext, part, hpart⟩ := mem_parameters_scan.1 hgiven
    rw [← heq] at hmem
    exact ⟨file, text, htext, part, given, hpart, List.mem_of_mem_filter hmem⟩
  · rintro ⟨file, text, htext, part, given, hpart, hmem⟩
    have hkept : c ∈ given.toList.filter (· ≠ ':') := List.mem_filter.2 ⟨hmem, by simpa using hcolon⟩
    have hgiven :=
      (@mem_parameters_scan ε rules read files given).2 ⟨file, text, htext, part, hpart⟩
    refine ⟨.ofList (given.toList.filter (· ≠ ':')),
      QueryString.mem_names_iff.2 ⟨?_, given, hgiven, ?_⟩, ?_⟩
    · intro hempty
      rw [← String.toList_eq_nil_iff, String.toList_ofList] at hempty
      exact List.ne_nil_of_mem hkept hempty
    · rw [String.toList_ofList]
    · rwa [String.toList_ofList]

theorem not_mem_names_iff {c : Char} (hc : isNameChar c = false) (hcolon : c ≠ ':') :
    (∀ name ∈ QueryString.names (scan rules read files).bodyParameters
        (scan rules read files).queryParameters, c ∉ name.toList) ↔
      ∀ file text, HasText read files file text →
        ∀ part, ∀ word ∈ unpackedNames part text, c ∉ word := by
  simpa only [not_exists, not_and] using
    not_congr (@exists_name_with_iff ε rules read files c hc hcolon)

/-! ### Its form -/

/-- Settings that can be used have a tag that can be used. -/
theorem isUsableTag_of_check {s : Settings} (hs : s.check = .ok ()) :
    Settings.isUsableTag s.queryTag = true := by
  by_contra htag
  rw [Bool.not_eq_true] at htag
  rw [Settings.check] at hs
  split at hs
  · cases hs
  · split at hs
    · cases hs
    · simp [htag] at hs

/-- The query string of a scan, made with settings that can be used, is well formed exactly if no
    word that a readable file destructures holds an equals sign or an ampersand. -/
theorem wellFormed_queryString_iff (rules : SecretRules) (read : String → Except ε String)
    (files : List String) (folder : String) {s : Settings} (hs : s.check = .ok ()) :
    QueryString.WellFormed s.queryTag
        (Inventory.ofScan folder (scan rules read files) s.queryTag).queryString ↔
      ∀ file text, HasText read files file text →
        ∀ part, ∀ word ∈ unpackedNames part text, '=' ∉ word ∧ '&' ∉ word := by
  rw [Inventory.ofScan, QueryString.wellFormed_render_iff (isUsableTag_of_check hs)]
  simp only [imp_and, forall_and]
  rw [not_mem_names_iff (by decide) (by decide), not_mem_names_iff (by decide) (by decide)]

/-- With names that are only listed, the query string is well formed. -/
theorem wellFormed_queryString_of_plain_list :
    (Settings.forRoot [] "api").check = .ok () ∧
    QueryString.WellFormed (Settings.forRoot [] "api").queryTag
      (Inventory.ofScan "api"
        (scan .disabled (fun _ : String => (.ok "const { id, page } = req.query" : Except String String))
          ["a.js"]) (Settings.forRoot [] "api").queryTag).queryString := by
  have hs : (Settings.forRoot [] "api").check = .ok () := by decide +kernel
  refine ⟨hs, (wellFormed_queryString_iff .disabled _ ["a.js"] "api" hs).2 ?_⟩
  rintro file text ⟨-, content, hread, rfl⟩ part word hword
  obtain rfl : "const { id, page } = req.query" = content := Except.ok.inj hread
  have hwords : ∀ part, ∀ word ∈ unpackedNames part
      "const { id, page } = req.query".toList.toArray, '=' ∉ word ∧ '&' ∉ word := by
    rintro (_ | _) <;> decide +kernel
  exact hwords part word hword

/-- A default that is written without blanks stays with its name. -/
theorem not_wellFormed_queryString_of_default :
    (Settings.forRoot [] "api").check = .ok () ∧
    ¬ QueryString.WellFormed (Settings.forRoot [] "api").queryTag
      (Inventory.ofScan "api"
        (scan .disabled (fun _ : String => (.ok "const { a=1 } = req.body" : Except String String))
          ["a.js"]) (Settings.forRoot [] "api").queryTag).queryString := by
  have hq : (Inventory.ofScan "api"
      (scan .disabled (fun _ : String => (.ok "const { a=1 } = req.body" : Except String String))
        ["a.js"]) (Settings.forRoot [] "api").queryTag).queryString = "a=1=TAG1" := by
    decide +kernel
  refine ⟨by decide +kernel, ?_⟩
  rw [hq]
  rintro (hempty | h)
  · exact absurd hempty (by decide)
  · obtain ⟨name, -, heq, -, hpiece⟩ := h 0 _ rfl
    have hname : "a=1".toList = name := List.append_cancel_right hpiece
    exact heq (hname ▸ by decide)

end RouteInventory
