import RouteInventory.Proofs.Extraction.KeywordExpression
import RouteInventory.Proofs.Extraction.Secrets

/-!
What a list of keywords finds. The lines are those in which the expression for the keywords is
found, and these are the lines in which one of its words stands (`find_ofKeywords`); as a whole word
it stands there if it begins and ends with a word character, and only then can that be relied on
(`forall_find_singleton_iff`). Only the words matter that are left of the keywords when they are
trimmed: not their order, nor how often they are given, nor the blanks around them (`actsAsUnion`).
-/

namespace RouteInventory.Extraction.SecretRules

open Text

variable {K K' : List String} {text line : List Char}

/-! ### Words -/

/-- What is left of the keywords when they are trimmed, without those of which nothing is. -/
def words (keywords : List String) : List (List Char) :=
  (keywords.map fun k => trim k.toList).filter (· ≠ [])

theorem words_append (K K' : List String) : words (K ++ K') = words K ++ words K' := by
  rw [words, List.map_append, List.filter_append]
  rfl

theorem words_cons (k : String) (K : List String) :
    words (k :: K) = [trim k.toList].filter (· ≠ []) ++ words K := by
  rw [words, List.map_cons, ← List.singleton_append, List.filter_append]
  rfl

theorem words_eq_nil_iff : words K = [] ↔ ∀ k ∈ K, trim k.toList = [] := by
  simp [words]

theorem map_keywords_ofKeywords (K : List String) :
    (ofKeywords K).keywords.map (fun k => trim k.toList) = words K := by
  rw [words, List.filter_map]
  rfl

theorem hits_ofKeywords_iff :
    (ofKeywords K).hits line = true ↔ ∃ word ∈ words K, StandsIn word line := by
  rw [hits_iff, ← map_keywords_ofKeywords]
  simp

/-- What is hit by two lists together is hit by one of them. -/
theorem hits_append_iff : (ofKeywords (K ++ K')).hits line = true ↔
    (ofKeywords K).hits line = true ∨ (ofKeywords K').hits line = true := by
  simp only [hits_ofKeywords_iff, words_append, List.mem_append, or_and_right, exists_or]

/-- A list of keywords whose words are all there in another one hits no other lines. -/
theorem hits_mono (h : words K ⊆ words K') (hhits : (ofKeywords K).hits line = true) :
    (ofKeywords K').hits line = true := by
  obtain ⟨word, hword, hstands⟩ := hits_ofKeywords_iff.1 hhits
  exact hits_ofKeywords_iff.2 ⟨word, h hword, hstands⟩

/-! ### Lines -/

open Classical in
/-- The lines of a text with a property, without the blanks around them, each once and in order of
    first appearance. -/
noncomputable def linesWith (P : List Char → Prop) (text : List Char) : List String :=
  (((lines text).filter fun line => P line).map fun line => .ofList (trim line)).eraseDups

theorem linesWith_of_line {P : List Char → Prop} (htext : lines text = [line]) (hline : P line) :
    linesWith P text = [.ofList (trim line)] := by
  simp [linesWith, htext, hline, List.eraseDups_cons]

/-- What is found are the lines that are hit. -/
theorem items_find_eq {rules : SecretRules} {P : List Char → Prop}
    (hP : ∀ line, rules.hits line = true ↔ P line) :
    (rules.find text).items = linesWith P text := by
  classical
  have hhits : rules.hits = fun line => decide (P line) := by
    funext line
    rw [Bool.eq_iff_iff, hP, decide_eq_true_iff]
  rw [find_eq, OrderedSet.items_ofList, found, hhits, linesWith]

theorem mem_find_iff {rules : SecretRules} {s : String} : s ∈ rules.find text ↔
    ∃ line ∈ lines text, rules.hits line = true ∧ String.ofList (trim line) = s := by
  rw [find_eq, OrderedSet.mem_ofList, found, List.mem_map]
  simp only [List.mem_filter, and_assoc]

/-- The trimmed text of a line tells whether the line is hit. -/
theorem ofList_trim_mem_find_iff {rules : SecretRules} (hline : line ∈ lines text) :
    String.ofList (trim line) ∈ rules.find text ↔ rules.hits line = true := by
  rw [mem_find_iff]
  constructor
  · rintro ⟨line', -, hhits, hsame⟩
    rw [← hits_trim, ← String.ofList_injective hsame, hits_trim]
    exact hhits
  · exact fun hhits => ⟨line, hline, hhits, rfl⟩

/-- Two lists that come to the same words find the same. -/
theorem find_congr (h : ∀ word, word ∈ words K ↔ word ∈ words K') :
    (ofKeywords K).find text = (ofKeywords K').find text := by
  have hhits : (ofKeywords K).hits = (ofKeywords K').hits := by
    funext line
    rw [Bool.eq_iff_iff]
    exact ⟨hits_mono fun word => (h word).1, hits_mono fun word => (h word).2⟩
  rw [find_eq, find_eq, found, found, hhits]

/-! ### Whole words -/

/-- What is found in a text: the lines in which the expression for the keywords is found, that is,
    those in which one of the words stands with a word boundary at each end. If the words begin and
    end with word characters, these are the lines that hold one of them as a whole word. -/
theorem find_ofKeywords (keywords : List String) (text : List Char) :
    ((ofKeywords keywords).find text).items =
      linesWith (fun line => ∃ e ∈ (ofKeywords keywords).matcher?, e.FoundIn line) text ∧
    ((ofKeywords keywords).find text).items =
      linesWith (fun line => ∃ word ∈ words keywords, StandsIn word line) text ∧
    ((∀ word ∈ words keywords, WordEnds word) →
      ((ofKeywords keywords).find text).items =
        linesWith (fun line => ∃ word ∈ words keywords, IsWholeWordIn word line) text) := by
  refine ⟨items_find_eq (hits_iff_foundIn _), items_find_eq fun _ => hits_ofKeywords_iff,
    fun hends => items_find_eq fun line => hits_ofKeywords_iff.trans ?_⟩
  exact exists_congr fun word => and_congr_right fun hword => standsIn_iff (hends word hword)

/-- A keyword between word characters, and a line that is found by it. -/
theorem find_apiKey :
    (∀ word ∈ words [" api-key "], WordEnds word) ∧
      ((ofKeywords [" api-key "]).find "x = API-KEY\n".toList).items =
        linesWith (fun line => ∃ word ∈ words [" api-key "], IsWholeWordIn word line)
          "x = API-KEY\n".toList := by
  have hends : ∀ word ∈ words [" api-key "], WordEnds word := by decide +kernel
  exact ⟨hends, (find_ofKeywords _ _).2.2 hends⟩

/-- A keyword that begins with a hyphen is not found at the front of a line, although it stands
    there as a whole word: no word begins there. -/
theorem not_found_at_hyphen :
    ((ofKeywords ["-----BEGIN"]).find "-----BEGIN KEY".toList).items = [] ∧
      linesWith (fun line => ∃ word ∈ words ["-----BEGIN"], IsWholeWordIn word line)
        "-----BEGIN KEY".toList = ["-----BEGIN KEY"] := by
  have hwords : words ["-----BEGIN"] = ["-----BEGIN".toList] := by decide +kernel
  have hlines : lines "-----BEGIN KEY".toList = ["-----BEGIN KEY".toList] := by decide +kernel
  have htrim : trim "-----BEGIN KEY".toList = "-----BEGIN KEY".toList := by decide +kernel
  have hwhole : IsWholeWordIn "-----BEGIN".toList "-----BEGIN KEY".toList :=
    ⟨[], "-----BEGIN".toList, " KEY".toList, by decide +kernel, .refl _,
      isWordAt_eq_false_iff.1 rfl, isWordAt_eq_false_iff.1 (by decide +kernel)⟩
  refine ⟨by decide +kernel, ?_⟩
  rw [hwords, linesWith_of_line hlines ⟨_, List.mem_singleton_self _, hwhole⟩, htrim,
    String.ofList_toList]

/-- Nor is one that begins with a number sign, but it is found behind a word, where it is no whole
    word. -/
example : ((ofKeywords ["#tag"]).find "#tag\nx#tag".toList).items = ["x#tag"] := by decide +kernel

theorem hits_ofKeywords_singleton {k : String} (hk : trim k.toList ≠ []) :
    (ofKeywords [k]).hits line = true ↔ StandsIn (trim k.toList) line := by
  simp [hits_ofKeywords_iff, words, hk]

/-- A keyword by itself finds the lines that hold it as a whole word, in every text, if and only if
    it begins and ends with a word character. -/
theorem forall_find_singleton_iff {k : String} (hk : trim k.toList ≠ [])
    (hline : '\n' ∉ trim k.toList) :
    (∀ text, ((ofKeywords [k]).find text).items = linesWith (IsWholeWordIn (trim k.toList)) text) ↔
      WordEnds (trim k.toList) := by
  constructor
  · intro h
    -- the text is the keyword and nothing else
    have hlines : lines (trim k.toList) = [trim k.toList] := by
      rw [lines, split_eq_singleton hline, linesOf, if_neg (by simpa using hk)]
    have hmem : String.ofList (trim (trim k.toList)) ∈ (ofKeywords [k]).find (trim k.toList) := by
      rw [OrderedSet.mem_def, h, linesWith_of_line hlines (isWholeWordIn_self _)]
      exact List.mem_singleton_self _
    rw [ofList_trim_mem_find_iff (hlines ▸ List.mem_singleton_self _),
      hits_ofKeywords_singleton hk] at hmem
    exact wordEnds_of_standsIn_self hmem
  · exact fun hends text => items_find_eq fun line =>
      (hits_ofKeywords_singleton hk).trans (standsIn_iff hends)

/-! ### Keywords as a union -/

/-- What two lists of keywords find together, and what makes no difference in a list of keywords. -/
structure ActsAsUnion (K K' : List String) (text : List Char) : Prop where
  /-- Together they find what one of them finds. -/
  union : ∀ s, s ∈ (ofKeywords (K ++ K')).find text ↔
    s ∈ (ofKeywords K).find text ∨ s ∈ (ofKeywords K').find text
  /-- The one expression that is made of them is found where one of theirs is. -/
  expression : ∀ line, (∃ e ∈ (ofKeywords (K ++ K')).matcher?, e.FoundIn line) ↔
    (∃ e ∈ (ofKeywords K).matcher?, e.FoundIn line) ∨
      ∃ e ∈ (ofKeywords K').matcher?, e.FoundIn line
  /-- What is found stands in the order in which the lines of the text first appear. -/
  order : ((ofKeywords (K ++ K')).find text).items =
    (((lines text).map fun line => String.ofList (trim line)).filter
      fun s => (ofKeywords (K ++ K')).find text |>.contains s).eraseDups
  /-- Neither the order of the keywords matters nor how often each is given. -/
  same : ∀ L : List String, (∀ k, k ∈ L ↔ k ∈ K) →
    (ofKeywords L).find text = (ofKeywords K).find text
  /-- A blank keyword makes no difference, wherever it stands. -/
  blank : ∀ k, trim k.toList = [] →
    (ofKeywords (K ++ k :: K')).find text = (ofKeywords (K ++ K')).find text
  /-- Nor do the blanks around a keyword. -/
  around : ∀ (front back : List Char) (k : String), (∀ c ∈ front, isBlank c = true) →
    (∀ c ∈ back, isBlank c = true) →
    (ofKeywords (K ++ .ofList (front ++ k.toList ++ back) :: K')).find text =
      (ofKeywords (K ++ k :: K')).find text
  /-- With blank keywords only nothing is looked for and nothing is found. -/
  disabled : (∀ k ∈ K, trim k.toList = []) →
    (ofKeywords K).isEnabled = false ∧ (ofKeywords K).matcher? = none ∧
      (ofKeywords K).find text = .empty

/-- A list of keywords acts as the union of its parts, in every text. -/
theorem actsAsUnion (K K' : List String) (text : List Char) : ActsAsUnion K K' text where
  union := by
    intro s
    simp only [mem_find_iff, hits_append_iff, or_and_right, and_or_left, exists_or]
  expression := by
    intro line
    rw [← hits_iff_foundIn, ← hits_iff_foundIn, ← hits_iff_foundIn, hits_append_iff]
  order := by
    have hline : ∀ line ∈ lines text, (ofKeywords (K ++ K')).hits line =
        ((ofKeywords (K ++ K')).find text).contains (String.ofList (trim line)) := by
      intro line hline
      rw [Bool.eq_iff_iff, OrderedSet.contains_iff, ofList_trim_mem_find_iff hline]
    rw [find_eq, OrderedSet.items_ofList, ← find_eq, found, List.filter_map,
      List.filter_congr hline]
    rfl
  same := by
    intro L hL
    refine find_congr fun word => ?_
    simp only [words, List.mem_filter, List.mem_map, hL]
  blank := by
    intro k hk
    refine find_congr fun word => ?_
    have hnone : [trim k.toList].filter (· ≠ []) = [] := by simp [hk]
    rw [words_append, words_append, words_cons, hnone, List.nil_append]
  around := by
    intro front back k hfront hback
    refine find_congr fun word => ?_
    simp only [words_append, words_cons, String.toList_ofList, trim_append hfront hback]
  disabled := by
    intro hK
    have hnone : (ofKeywords K).keywords.map (fun k => trim k.toList) = [] := by
      rw [map_keywords_ofKeywords, words_eq_nil_iff.2 hK]
    have hmatcher : (ofKeywords K).matcher? = none := by
      rw [matcher?_eq, hnone]
    have hoff : (ofKeywords K).isEnabled = false := by
      rw [← isSome_matcher?, hmatcher]
      rfl
    refine ⟨hoff, hmatcher, ?_⟩
    rw [find, hoff]
    rfl

end RouteInventory.Extraction.SecretRules
