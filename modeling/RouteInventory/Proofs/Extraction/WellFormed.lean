import RouteInventory.Proofs.Extraction.Names
import RouteInventory.Proofs.Extraction.Secrets

/-!
What can be relied on in everything that is found in a file: which characters paths, URLs and names
consist of, that none of them is empty, and that texts come without the blanks around them
(`wellFormed_extract`). The patterns give this for what they capture; what is cut out of a capture
afterwards, or found without a pattern, has lemmas of its own here.
-/

namespace RouteInventory

open Pattern Text

/-- The methods that a route can be listed with. -/
def methods : List String :=
  ["GET", "POST", "PUT", "DELETE", "PATCH", "ALL", "PARAM", "HEAD", "OPTIONS"]

/-- What is found in a text is of the form that the rest of the program takes for granted. -/
structure FileExtraction.WellFormed (text : Array Char) (found : FileExtraction) : Prop where
  routes : ∀ route ∈ found.routes,
    Some1 (fun c => !isQuote c) route.path.toList ∧ route.method ∈ methods
  basePaths : ∀ base ∈ found.basePaths, Some1 (fun c => !isQuote c) base.toList
  otherUrls : ∀ u ∈ found.otherUrls, u.url.toList.head? = some '/' ∧ 2 ≤ u.url.toList.length ∧
    ∀ c ∈ u.url.toList, isBlank c = false ∧ isQuote c = false ∧ c ≠ ';'
  /-- Each bare URL is its match without the first and the last character, which are quotes. -/
  unquoted : List.Forall₂
    (fun m u => ∃ q q', isQuote q = true ∧ isQuote q' = true ∧
      m.whole.slice text = q :: u.url.toList ++ [q'])
    (barePathLiteral.matchesIn text) found.otherUrls
  headers : ∀ name ∈ found.headers.items, Some1 isHeaderChar name.toList
  envVars : ∀ name ∈ found.envVars, Some1 isNameChar name.toList
  parameters : ∀ name ∈ found.bodyParams.items ++ found.queryParams.items, name ≠ "" ∧
    ∀ c ∈ name.toList, isBlank c = false ∧ c ≠ ',' ∧ c ≠ '}'
  distinct : found.headers.items.Nodup ∧ found.bodyParams.items.Nodup ∧
    found.queryParams.items.Nodup ∧ found.secrets.items.Nodup
  comments : ∀ comment ∈ found.comments, Trimmed comment.toList
  secrets : ∀ line ∈ found.secrets.items, Trimmed line.toList ∧ line ≠ "" ∧ '\n' ∉ line.toList

namespace Extraction

variable {text : Array Char}

/-! ### Declarations and URLs -/

/-- The literal of a declaration holds no quote, and something else. -/
theorem some1_of_mem_declarationsIn {v : Verb} {literal : String}
    (h : (v, literal) ∈ declarationsIn text) : Some1 (fun c => !isQuote c) literal.toList := by
  obtain ⟨m, hm, hread⟩ := List.mem_filterMap.1 h
  obtain ⟨r, hr, hstands, -, -, hgroups⟩ := @exists_reading .routeDeclaration text m hm
  have hgroup := groupText_eq hr hstands hgroups 2
  simp only [declaration?, Option.bind_eq_bind, Option.bind_eq_some_iff, Option.pure_def,
    Option.some.injEq, Prod.mk.injEq] at hread
  obtain ⟨-, -, -, -, cs, hcs, -, rfl⟩ := hread
  cases hr with
  | routeDeclaration _ _ _ hliteral _ =>
    simp only [groupIn?, Nat.reduceAdd, Nat.reduceEqDiff, if_true, if_false] at hgroup
    obtain rfl := Option.some.inj (hcs.symm.trans hgroup)
    rwa [String.toList_ofList]

/-- A verb that is no mount has one of the methods. -/
theorem method_mem_methods {v : Verb} (h : v.isMount = false) : v.method ∈ methods := by
  cases v with
  | use => exact absurd h (by decide)
  | get | post | put | delete | patch | all | param | head | options => decide

theorem of_mem_routes {file : String} {route : Route} (h : route ∈ (routesIn file text).routes) :
    Some1 (fun c => !isQuote c) route.path.toList ∧ route.method ∈ methods := by
  obtain ⟨⟨v, literal⟩, hd, hroute⟩ := List.mem_filterMap.1 h
  cases hmount : v.isMount with
  | true => simp [hmount] at hroute
  | false =>
    obtain rfl : ⟨literal, v.method, file⟩ = route := by simpa [hmount] using hroute
    exact ⟨some1_of_mem_declarationsIn hd, method_mem_methods hmount⟩

theorem of_mem_basePaths {file : String} {base : String}
    (h : base ∈ (routesIn file text).basePaths) :
    Some1 (fun c => !isQuote c) base.toList := by
  obtain ⟨⟨v, literal⟩, hd, hbase⟩ := List.mem_filterMap.1 h
  cases hmount : v.isMount with
  | true =>
    obtain rfl : literal = base := by simpa [hmount] using hbase
    exact some1_of_mem_declarationsIn hd
  | false => simp [hmount] at hbase

theorem of_mem_urlsIn {file : String} {u : UrlMention} (h : u ∈ urlsIn file text) :
    u.url.toList.head? = some '/' ∧ 2 ≤ u.url.toList.length ∧
      ∀ c ∈ u.url.toList, isBlank c = false ∧ isQuote c = false ∧ c ≠ ';' := by
  obtain ⟨path, ⟨hne, hpath⟩, hurl⟩ := exists_path_of_mem_urlsIn h
  have hlength := List.length_pos_iff.2 hne
  rw [hurl]
  refine ⟨rfl, by rw [List.length_cons]; omega, fun c hc => ?_⟩
  rcases List.mem_cons.1 hc with rfl | hc
  · decide
  · simpa [isUrlChar, and_assoc] using hpath c hc

theorem unquoted_urlsIn (file : String) (text : Array Char) :
    List.Forall₂
      (fun m u => ∃ q q', isQuote q = true ∧ isQuote q' = true ∧
        m.whole.slice text = q :: u.url.toList ++ [q'])
      (barePathLiteral.matchesIn text) (urlsIn file text) := by
  rw [urlsIn, List.forall₂_map_right_iff, List.forall₂_same]
  intro m hm
  obtain ⟨q, q', path, hq, hq', -, hslice, hfilter⟩ := exists_quotes_of_mem_matchesIn hm
  exact ⟨q, q', hq, hq', by rw [String.toList_ofList, hfilter, hslice]⟩

/-! ### Parameters -/

/-- The list of a destructuring does not go beyond the closing brace. -/
theorem brace_not_mem_of_groupText {m : Match} (hm : m ∈ parameterDestructure.matchesIn text)
    {list : List Char} (hlist : m.groupText text 1 = some list) : '}' ∉ list := by
  obtain ⟨r, hr, hstands, -, -, hgroups⟩ := @exists_reading .parameterDestructure text m hm
  have hgroup := groupText_eq hr hstands hgroups 0
  cases hr with
  | parameterDestructure _ hclass _ =>
    simp only [groupIn?, Nat.reduceAdd, if_true] at hgroup
    obtain rfl := Option.some.inj (hlist.symm.trans hgroup)
    exact fun hbrace => absurd (hclass.2 _ hbrace) (by decide)

/-- A destructured name is a word of its list, cut at blanks and commas. -/
theorem of_mem_unpackedNames {part : RequestPart} {word : List Char}
    (h : word ∈ unpackedNames part text) :
    word ≠ [] ∧ ∀ c ∈ word, isBlank c = false ∧ c ≠ ',' ∧ c ≠ '}' := by
  obtain ⟨m, hm, hword⟩ := List.mem_flatMap.1 h
  split at hword
  · next list found hlist _ =>
    split at hword
    · obtain ⟨item, hitem, hfirst⟩ := List.mem_filterMap.1 hword
      obtain ⟨hne, hchars⟩ := of_firstWord hfirst
      refine ⟨hne, fun c hc => ⟨(hchars c hc).1, ?_, ?_⟩⟩
      · rintro rfl
        exact not_mem_of_mem_split hitem (hchars _ hc).2
      · rintro rfl
        exact brace_not_mem_of_groupText hm hlist (mem_of_mem_split hitem (hchars _ hc).2)
    · exact absurd hword List.not_mem_nil
  · exact absurd hword List.not_mem_nil

/-- A letter, a digit or an underscore is no blank and separates nothing. -/
theorem of_isNameChar {c : Char} (h : isNameChar c = true) :
    isBlank c = false ∧ c ≠ ',' ∧ c ≠ '}' := by
  refine ⟨?_, ?_, ?_⟩
  · by_contra hblank
    rw [Bool.not_eq_false] at hblank
    have hcodes : ∀ n ∈ blankCodes, isNameChar (.ofNat n) = false := by decide
    have := hcodes _ (toNat_mem_blankCodes hblank)
    rw [Char.ofNat_toNat, h] at this
    exact absurd this (by decide)
  · rintro rfl
    exact absurd h (by decide)
  · rintro rfl
    exact absurd h (by decide)

theorem of_mem_parametersIn {part : RequestPart} {name : String}
    (h : name ∈ (parametersIn part text).items) :
    name ≠ "" ∧ ∀ c ∈ name.toList, isBlank c = false ∧ c ≠ ',' ∧ c ≠ '}' := by
  have hform : name.toList ≠ [] ∧ ∀ c ∈ name.toList, isBlank c = false ∧ c ≠ ',' ∧ c ≠ '}' := by
    rw [parametersIn, mem_uniqueNames, List.mem_append] at h
    rcases h with h | h
    · obtain ⟨hne, hclass⟩ := some1_of_mem_accessedNames h
      exact ⟨hne, fun c hc => of_isNameChar (hclass c hc)⟩
    · exact of_mem_unpackedNames h
  exact ⟨fun hempty => hform.1 (String.toList_eq_nil_iff.2 hempty), hform.2⟩

/-! ### Comments and secrets -/

theorem of_mem_commentsIn {comment : String} (h : comment ∈ commentsIn text) :
    Trimmed comment.toList := by
  obtain ⟨cs, -, rfl⟩ := List.mem_map.1 h
  rw [String.toList_ofList]
  exact trimmed_trim cs

namespace SecretRules

variable {rules : SecretRules}

theorem of_mem_find {s : List Char} {line : String} (h : line ∈ (rules.find s).items) :
    Trimmed line.toList ∧ line ≠ "" ∧ '\n' ∉ line.toList := by
  rw [find_eq, ← OrderedSet.mem_def, OrderedSet.mem_ofList, found_eq] at h
  obtain ⟨piece, hpiece, rfl⟩ := List.mem_map.1 h
  obtain ⟨hsplit, hhits⟩ := List.mem_filter.1 hpiece
  rw [ne_eq, ← String.toList_eq_nil_iff, String.toList_ofList]
  refine ⟨trimmed_trim piece, ?_, fun hnewline => ?_⟩
  · -- the word character that the line holds is not trimmed away
    obtain ⟨k, -, hstands⟩ := hits_iff.1 hhits
    obtain ⟨c, hc, hword⟩ := hstands.exists_isWord
    refine List.ne_nil_of_mem (mem_trim_of_not_isBlank hc ?_)
    by_contra hblank
    rw [isWord_of_isBlank (by simpa using hblank)] at hword
    exact absurd hword (by decide)
  · exact not_mem_of_mem_split hsplit (mem_of_mem_trim hnewline)

end SecretRules
end Extraction

open Extraction

/-- What is found in a file is well formed, whatever its text and whatever is looked for. -/
theorem wellFormed_extract (rules : SecretRules) (file content : String) :
    (extract rules file content).WellFormed content.toList.toArray := by
  constructor <;> simp only [extract]
  case routes => exact fun _ => of_mem_routes
  case basePaths => exact fun _ => of_mem_basePaths
  case otherUrls => exact fun _ => of_mem_urlsIn
  case unquoted => exact unquoted_urlsIn file _
  case headers => exact fun _ => some1_of_mem_headersIn
  case envVars => exact fun _ => some1_of_mem_envVarsIn
  case parameters =>
    intro name h
    rcases List.mem_append.1 h with h | h
    · exact of_mem_parametersIn h
    · exact of_mem_parametersIn h
  case distinct =>
    exact ⟨(headersIn _).nodup, (parametersIn .body _).nodup, (parametersIn .query _).nodup,
      (rules.find _).nodup⟩
  case comments => exact fun _ => of_mem_commentsIn
  case secrets => exact fun _ => SecretRules.of_mem_find

end RouteInventory
