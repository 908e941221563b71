import RouteInventory.Extraction.Secrets
import RouteInventory.Proofs.Text.Blanks
import RouteInventory.Proofs.Text.WordCase

/-!
Where keywords stand. A line is cut at each end of a keyword, and at both places a word begins or
ends (`StandsIn`); the search along the line finds a keyword exactly where one stands (`hits_iff`).
For a keyword whose first and last characters are word characters, that is to stand as a whole word
(`standsIn_iff`), and for no other is it (`forall_standsIn_iff`): where a keyword ends in
punctuation, a word begins behind it only if a word character comes next. No keyword begins or ends
at a blank at the end of a line, so the blanks around a line do not matter (`hits_trim`).
-/

namespace RouteInventory.Extraction.SecretRules

open Text

/-! ### Texts up to case -/

/-- Equality of texts up to case, character by character. -/
def SameText (s word : List Char) : Prop := List.Forall₂ (fun c k => sameFold c k = true) s word

variable {s word line before after : List Char}

theorem SameText.refl (s : List Char) : SameText s s :=
  List.forall₂_same.2 fun _ _ => beq_self_eq_true _

theorem SameText.isWordAt_head? (h : SameText s word) : isWordAt s.head? = isWordAt word.head? := by
  cases h with
  | nil => rfl
  | cons hc _ => exact isWord_of_sameFold hc

theorem SameText.isWordAt_getLast? (h : SameText s word) :
    isWordAt s.getLast? = isWordAt word.getLast? := by
  have hreverse : SameText s.reverse word.reverse := List.rel_reverse h
  simpa only [List.head?_reverse] using hreverse.isWordAt_head?

/-! ### Places in a line -/

/-- Where the line is cut in two, a word begins or ends. -/
def Cut (before after : List Char) : Prop := isBoundary before.getLast? after.head? = true

/-- The word stands in the line, in some case, and at both of its ends words begin or end. -/
def StandsIn (word line : List Char) : Prop :=
  ∃ before s after, line = before ++ s ++ after ∧ SameText s word ∧
    Cut before (s ++ after) ∧ Cut (before ++ s) after

/-- The word stands in the line, in some case, and the characters next to it, if there are any, are
    no word characters. -/
def IsWholeWordIn (word line : List Char) : Prop :=
  ∃ before s after, line = before ++ s ++ after ∧ SameText s word ∧
    (∀ c ∈ before.getLast?, isWord c = false) ∧ ∀ c ∈ after.head?, isWord c = false

/-- The first and the last character are word characters. -/
structure WordEnds (word : List Char) : Prop where
  first : isWordAt word.head? = true
  last : isWordAt word.getLast? = true

instance : DecidablePred WordEnds := fun word =>
  decidable_of_iff (isWordAt word.head? = true ∧ isWordAt word.getLast? = true)
    ⟨fun h => ⟨h.1, h.2⟩, fun h => ⟨h.first, h.last⟩⟩

/-- Where a word begins or ends there is a word character. -/
theorem Cut.exists_isWord (h : Cut before after) : ∃ c ∈ before ++ after, isWord c = true := by
  have hword : isWordAt before.getLast? = true ∨ isWordAt after.head? = true := by
    cases hbefore : isWordAt before.getLast? with
    | true => exact .inl rfl
    | false => simpa [Cut, isBoundary, hbefore] using h
  rcases hword with hbefore | hafter
  · obtain ⟨c, hc, hword⟩ := (Option.any_eq_true _ _).1 hbefore
    exact ⟨c, List.mem_append_left _ (List.mem_of_getLast? hc), hword⟩
  · obtain ⟨c, hc, hword⟩ := (Option.any_eq_true _ _).1 hafter
    exact ⟨c, List.mem_append_right _ (List.mem_of_head? hc), hword⟩

/-- A line in which a word stands holds a word character. -/
theorem StandsIn.exists_isWord (h : StandsIn word line) : ∃ c ∈ line, isWord c = true := by
  obtain ⟨before, s, after, rfl, -, hfirst, -⟩ := h
  rw [List.append_assoc]
  exact hfirst.exists_isWord

/-! ### The search along a line -/

theorem afterWord_eq_some_iff {last found : Option Char} {rest : List Char} :
    afterWord last word line = some (found, rest) ↔
      ∃ s, line = s ++ rest ∧ SameText s word ∧ found = s.getLast?.or last := by
  induction word generalizing last line with
  | nil =>
    simp only [afterWord, Option.some.injEq, Prod.mk.injEq, SameText, List.forall₂_nil_right_iff]
    constructor
    · rintro ⟨rfl, rfl⟩
      exact ⟨[], rfl, rfl, rfl⟩
    · rintro ⟨s, rfl, rfl, rfl⟩
      exact ⟨rfl, rfl⟩
  | cons k word ih =>
    cases line with
    | nil =>
      refine iff_of_false (by rw [afterWord]; exact nofun) ?_
      rintro ⟨s, hs, hsame, -⟩
      obtain rfl := (List.append_eq_nil_iff.1 hs.symm).1
      exact nomatch hsame
    | cons c line =>
      have hlast : ∀ s : List Char, (c :: s).getLast?.or last = s.getLast?.or (some c) := by
        intro s
        cases hs : s.getLast? <;> simp [List.getLast?_cons, hs]
      rw [afterWord, Option.ite_none_right_eq_some, ih]
      constructor
      · rintro ⟨hc, s, rfl, hsame, rfl⟩
        exact ⟨c :: s, rfl, .cons hc hsame, (hlast s).symm⟩
      · rintro ⟨s, hs, hsame, rfl⟩
        cases hsame with
        | cons hc hsame =>
          obtain ⟨rfl, rfl⟩ := List.cons.inj hs
          exact ⟨hc, _, rfl, hsame, hlast _⟩

/-- What the search looks for at one place of a line. -/
theorem wordAt_iff : wordAt before.getLast? word line = true ↔
    ∃ s after, line = s ++ after ∧ SameText s word ∧ Cut before (s ++ after) ∧
      Cut (before ++ s) after := by
  have hcut : ∀ s after, Cut (before ++ s) after ↔
      isBoundary (s.getLast?.or before.getLast?) after.head? = true := by
    intro s after
    rw [Cut, List.getLast?_append]
  rw [wordAt, Bool.and_eq_true]
  constructor
  · rintro ⟨hfirst, hlast⟩
    split at hlast
    · cases hlast
    · next found after hafter =>
      obtain ⟨s, rfl, hsame, rfl⟩ := afterWord_eq_some_iff.1 hafter
      exact ⟨s, after, rfl, hsame, hfirst, (hcut s after).2 hlast⟩
  · rintro ⟨s, after, rfl, hsame, hfirst, hlast⟩
    refine ⟨hfirst, ?_⟩
    rw [afterWord_eq_some_iff.2 ⟨s, rfl, hsame, rfl⟩]
    exact (hcut s after).1 hlast

/-- The search finds a word somewhere behind the part of the line that it has passed. -/
theorem anyWordIn_iff {words : List (List Char)} : anyWordIn words before.getLast? line = true ↔
    ∃ front rest, line = front ++ rest ∧
      ∃ word ∈ words, wordAt (before ++ front).getLast? word rest = true := by
  induction line generalizing before with
  | nil =>
    rw [anyWordIn, List.any_eq_true]
    constructor
    · intro h
      exact ⟨[], [], rfl, by rwa [List.append_nil]⟩
    · rintro ⟨front, rest, hnil, h⟩
      obtain ⟨rfl, rfl⟩ := List.append_eq_nil_iff.1 hnil.symm
      rwa [List.append_nil] at h
  | cons c line ih =>
    have hpassed : some c = (before ++ [c]).getLast? := List.getLast?_concat.symm
    rw [anyWordIn, Bool.or_eq_true, List.any_eq_true, hpassed, ih]
    constructor
    · rintro (h | ⟨front, rest, rfl, h⟩)
      · exact ⟨[], c :: line, rfl, by rwa [List.append_nil]⟩
      · exact ⟨c :: front, rest, rfl, by rwa [List.append_assoc] at h⟩
    · rintro ⟨front, rest, hline, h⟩
      cases front with
      | nil =>
        rw [List.nil_append] at hline
        rw [List.append_nil, ← hline] at h
        exact .inl h
      | cons d front =>
        obtain ⟨rfl, rfl⟩ := List.cons.inj hline
        exact .inr ⟨front, rest, rfl, by rwa [List.append_assoc]⟩

/-- A line is hit if a keyword stands in it. -/
theorem hits_iff {rules : SecretRules} :
    rules.hits line = true ↔ ∃ k ∈ rules.keywords, StandsIn (trim k.toList) line := by
  have hsearch := @anyWordIn_iff line [] (rules.keywords.map fun k => trim k.toList)
  refine hsearch.trans ?_
  constructor
  · rintro ⟨front, rest, rfl, word, hword, hat⟩
    obtain ⟨k, hk, rfl⟩ := List.mem_map.1 hword
    obtain ⟨s, after, rfl, hstands⟩ := wordAt_iff.1 hat
    exact ⟨k, hk, front, s, after, (List.append_assoc ..).symm, hstands⟩
  · rintro ⟨k, hk, front, s, after, rfl, hstands⟩
    exact ⟨front, s ++ after, List.append_assoc .., _, List.mem_map_of_mem hk,
      wordAt_iff.2 ⟨s, after, rfl, hstands⟩⟩

/-! ### Blanks around a line -/

section Blanks

variable {b : Char} (hb : isWord b = false)
include hb

theorem cut_concat : Cut before (after ++ [b]) ↔ Cut before after := by
  cases after with
  | nil => simp [Cut, isBoundary, isWordAt, hb]
  | cons c after => rfl

theorem cut_cons : Cut (b :: before) after ↔ Cut before after := by
  cases h : before.getLast? <;> simp [Cut, isBoundary, isWordAt, hb, h, List.getLast?_cons]

/-- At the ends of the line no word begins or ends beside a blank. -/
theorem not_cut_ends (s : List Char) : ¬ Cut [] (b :: s) ∧ ¬ Cut (s ++ [b]) [] := by
  simp [Cut, isBoundary, isWordAt, hb]

theorem standsIn_concat : StandsIn word (line ++ [b]) ↔ StandsIn word line := by
  constructor
  · rintro ⟨before, s, after, hline, hsame, hfirst, hlast⟩
    rcases List.eq_nil_or_concat after with rfl | ⟨after, b', rfl⟩
    · rw [List.append_nil] at hline
      exact absurd (hline ▸ hlast) (not_cut_ends hb line).2
    · rw [List.concat_eq_append] at hline hfirst hlast
      rw [← List.append_assoc] at hline hfirst
      obtain ⟨rfl, hb'⟩ := List.append_inj' hline rfl
      obtain rfl := List.singleton_injective hb'
      exact ⟨before, s, after, rfl, hsame, (cut_concat hb).1 hfirst, (cut_concat hb).1 hlast⟩
  · rintro ⟨before, s, after, rfl, hsame, hfirst, hlast⟩
    refine ⟨before, s, after ++ [b], List.append_assoc .., hsame, ?_, (cut_concat hb).2 hlast⟩
    rw [← List.append_assoc]
    exact (cut_concat hb).2 hfirst

theorem standsIn_cons : StandsIn word (b :: line) ↔ StandsIn word line := by
  constructor
  · rintro ⟨before, s, after, hline, hsame, hfirst, hlast⟩
    cases before with
    | nil =>
      rw [List.nil_append] at hline
      exact absurd (hline ▸ hfirst) (not_cut_ends hb line).1
    | cons b' before =>
      obtain ⟨rfl, rfl⟩ := List.cons.inj hline
      exact ⟨before, s, after, rfl, hsame, (cut_cons hb).1 hfirst, (cut_cons hb).1 hlast⟩
  · rintro ⟨before, s, after, rfl, hsame, hfirst, hlast⟩
    exact ⟨b :: before, s, after, rfl, hsame, (cut_cons hb).2 hfirst, (cut_cons hb).2 hlast⟩

end Blanks

theorem standsIn_trim : StandsIn word (trim line) ↔ StandsIn word line := by
  have hleft : ∀ line, StandsIn word (trimLeft line) ↔ StandsIn word line := by
    intro line
    induction line with
    | nil => rfl
    | cons b line ih =>
      cases hb : isBlank b with
      | true => rw [trimLeft_cons_of_blank hb, ih, standsIn_cons (isWord_of_isBlank hb)]
      | false => rw [trimLeft_cons_of_not_blank hb]
  have hright : ∀ line, StandsIn word (trimRight line) ↔ StandsIn word line := by
    intro line
    induction line using List.reverseRecOn with
    | nil => rfl
    | append_singleton line b ih =>
      change StandsIn word (List.rdropWhile isBlank (line ++ [b])) ↔ _
      cases hb : isBlank b with
      | true =>
        rw [List.rdropWhile_concat_pos _ _ _ hb, standsIn_concat (isWord_of_isBlank hb)]
        exact ih
      | false => rw [List.rdropWhile_concat_neg _ _ _ (by simp [hb])]
  rw [trim, hright, hleft]

/-- The blanks around a line play no part in whether it is hit. -/
theorem hits_trim (rules : SecretRules) (line : List Char) :
    rules.hits (trim line) = rules.hits line := by
  rw [Bool.eq_iff_iff, hits_iff, hits_iff]
  exact exists_congr fun k => and_congr_right fun _ => standsIn_trim

/-! ### Whole words -/

theorem cut_iff_of_before (h : isWordAt before.getLast? = true) :
    Cut before after ↔ isWordAt after.head? = false := by
  rw [Cut, isBoundary, h]
  cases isWordAt after.head? <;> simp

theorem cut_iff_of_after (h : isWordAt after.head? = true) :
    Cut before after ↔ isWordAt before.getLast? = false := by
  rw [Cut, isBoundary, h]
  cases isWordAt before.getLast? <;> simp

theorem isWordAt_eq_false_iff {c : Option Char} :
    isWordAt c = false ↔ ∀ d ∈ c, isWord d = false := by
  cases c <;> simp [isWordAt]

theorem isWordAt_or {c d : Option Char} (h : isWordAt c = true) : isWordAt (c.or d) = true := by
  cases c with
  | none => cases h
  | some c => exact h

/-- A word between word characters stands where it stands as a whole word. -/
theorem standsIn_iff (h : WordEnds word) : StandsIn word line ↔ IsWholeWordIn word line := by
  refine exists_congr fun before => exists_congr fun s => exists_congr fun after =>
    and_congr_right fun _ => and_congr_right fun hsame => ?_
  have hfirst : isWordAt (s ++ after).head? = true := by
    rw [List.head?_append]
    exact isWordAt_or (hsame.isWordAt_head?.trans h.first)
  have hlast : isWordAt (before ++ s).getLast? = true := by
    rw [List.getLast?_append]
    exact isWordAt_or (hsame.isWordAt_getLast?.trans h.last)
  rw [cut_iff_of_after hfirst, cut_iff_of_before hlast, isWordAt_eq_false_iff,
    isWordAt_eq_false_iff]

theorem isWholeWordIn_self (word : List Char) : IsWholeWordIn word word :=
  ⟨[], word, [], by simp, .refl word, by simp, by simp⟩

/-- A word that stands in a line of its own is one between word characters. -/
theorem wordEnds_of_standsIn_self (h : StandsIn word word) : WordEnds word := by
  obtain ⟨before, s, after, hword, hsame, hfirst, hlast⟩ := h
  -- the line has no room for anything else
  have hlen := congrArg List.length hword
  rw [List.length_append, List.length_append, hsame.length_eq] at hlen
  obtain rfl := List.length_eq_zero_iff.1 (by omega : before.length = 0)
  obtain rfl := List.length_eq_zero_iff.1 (by omega : after.length = 0)
  rw [List.append_nil, List.nil_append] at hword
  rw [List.append_nil, ← hword] at hfirst
  rw [List.nil_append, ← hword] at hlast
  refine ⟨?_, ?_⟩
  · simpa [Cut, isBoundary, isWordAt] using hfirst
  · simpa [Cut, isBoundary, isWordAt] using hlast

/-- For the words between word characters, and for no others, to stand somewhere is to stand there
    as a whole word. -/
theorem forall_standsIn_iff :
    (∀ line, StandsIn word line ↔ IsWholeWordIn word line) ↔ WordEnds word :=
  ⟨fun h => wordEnds_of_standsIn_self ((h word).2 (isWholeWordIn_self word)),
    fun h _ => standsIn_iff h⟩

end RouteInventory.Extraction.SecretRules
