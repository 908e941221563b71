import RouteInventory.Extraction
import RouteInventory.Proofs.Pattern.Catalog

/-!
Which characters the names and URLs that are found consist of. A name that is read from the text of
a group has the form that the pattern's grammar gives this group. The names that a destructuring
binds are the exception: they are cut out of its list, at commas and blanks only.
-/

namespace RouteInventory.Extraction

open Pattern

variable {text : Array Char}

theorem exists_reading_of_mem_groupTexts {kind : Kind} {i : Nat} {cs : List Char}
    (h : cs ∈ kind.pattern.groupTexts (i + 1) text) :
    ∃ r, Language kind r ∧ groupIn? (i + 1) r = some cs := by
  obtain ⟨m, hm, hcs⟩ := List.mem_filterMap.1 h
  obtain ⟨r, hr, hstands, -, -, hgroups⟩ := exists_reading hm
  refine ⟨r, hr, ?_⟩
  rw [← groupText_eq hr hstands hgroups i, hcs]

theorem mem_uniqueNames {names : List (List Char)} {name : String} :
    name ∈ (uniqueNames names).items ↔ name.toList ∈ names := by
  rw [uniqueNames, ← OrderedSet.mem_def, OrderedSet.mem_ofList, List.mem_map]
  constructor
  · rintro ⟨cs, hcs, rfl⟩
    simpa using hcs
  · intro h
    exact ⟨_, h, String.ofList_toList⟩

/-- Header names are made of letters, digits, underscores and hyphens. -/
theorem some1_of_mem_headersIn {name : String} (h : name ∈ (headersIn text).items) :
    Some1 isHeaderChar name.toList := by
  obtain ⟨r, hr, hcs⟩ :=
    @exists_reading_of_mem_groupTexts text .headerAccess 0 _ (mem_uniqueNames.1 h)
  cases hr with
  | headerAccess _ hname _ =>
    obtain rfl := Option.some.inj hcs
    exact hname

/-- Environment variables are made of letters, digits and underscores. -/
theorem some1_of_mem_envVarsIn {name : String} (h : name ∈ envVarsIn text) :
    Some1 isNameChar name.toList := by
  obtain ⟨cs, hmem, rfl⟩ := List.mem_map.1 h
  obtain ⟨r, hr, hcs⟩ := @exists_reading_of_mem_groupTexts text .envAccess 0 _ hmem
  cases hr with
  | envAccess hname =>
    obtain rfl := Option.some.inj hcs
    rwa [String.toList_ofList]

/-- The match of a bare URL is a slash and more between two quotes, with no others in it. -/
theorem exists_quotes_of_mem_matchesIn {m : Match} (hm : m ∈ barePathLiteral.matchesIn text) :
    ∃ q q' path, isQuote q = true ∧ isQuote q' = true ∧ Some1 isUrlChar path ∧
      m.whole.slice text = q :: ('/' :: path) ++ [q'] ∧
      (m.whole.slice text).filter (!isQuote ·) = '/' :: path := by
  obtain ⟨r, hr, hstands, hstop, -, -⟩ := @exists_reading .barePathLiteral text m hm
  rw [standsAt_iff_slice, ← hstop] at hstands
  cases hr with
  | @barePathLiteral path q q' hq hpath hq' =>
    have hslice : m.whole.slice text = q :: ('/' :: path) ++ [q'] := by
      simpa [readingChars, Piece.chars] using hstands
    refine ⟨q, q', path, hq, hq', hpath, hslice, ?_⟩
    have hkeep : path.filter (!isQuote ·) = path := by
      refine List.filter_eq_self.2 fun c hc => ?_
      have := hpath.2 c hc
      simp only [isUrlChar, Bool.and_eq_true] at this
      exact this.1.2
    have hslash : isQuote '/' = false := by decide
    simp [hslice, hq, hq', hslash, hkeep]

/-- A bare URL is a slash and more, without blanks, quotes and semicolons. -/
theorem exists_path_of_mem_urlsIn {file : String} {u : UrlMention} (h : u ∈ urlsIn file text) :
    ∃ path, Some1 isUrlChar path ∧ u.url.toList = '/' :: path := by
  obtain ⟨m, hm, rfl⟩ := List.mem_map.1 h
  obtain ⟨-, -, path, -, -, hpath, -, hfilter⟩ := exists_quotes_of_mem_matchesIn hm
  exact ⟨path, hpath, by rw [String.toList_ofList, hfilter]⟩

/-- The names of direct accesses are made of letters, digits and underscores. -/
theorem some1_of_mem_accessedNames {part : RequestPart} {cs : List Char}
    (h : cs ∈ accessedNames part text) : Some1 isNameChar cs := by
  obtain ⟨m, hm, hread⟩ := List.mem_filterMap.1 h
  obtain ⟨r, hr, hstands, -, -, hgroups⟩ := @exists_reading .parameterAccess text m hm
  have htext := groupText_eq hr hstands hgroups
  have hdotted := htext 1
  have hquoted := htext 2
  have hor : (m.groupText text 2 <|> m.groupText text 3) = some cs := by
    simp only [Option.bind_eq_bind, Option.bind_eq_some_iff] at hread
    obtain ⟨-, -, found, -, hfound⟩ := hread
    exact (Option.ite_none_right_eq_some.1 hfound).2
  cases hr with
  | dottedParameter _ hname =>
    simp only [groupIn?] at hdotted
    rw [hdotted] at hor
    obtain rfl := Option.some.inj hor
    exact hname
  | quotedParameter _ _ hname _ =>
    simp only [groupIn?] at hdotted hquoted
    rw [hdotted, hquoted] at hor
    obtain rfl := Option.some.inj hor
    exact hname

end RouteInventory.Extraction
