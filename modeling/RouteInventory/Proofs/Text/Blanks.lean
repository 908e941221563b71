import RouteInventory.Text.Blank
import RouteInventory.Text.Word
import Mathlib.Data.List.DropRight

/-!
What is cut at blanks. Trimming takes away blanks only, and what it leaves neither begins nor ends
with one (`trimmed_trim`), so blanks around a text play no part in what is left of it
(`trim_append`); a first word is a stretch of the text without any (`of_firstWord`). A blank is no
word character, so a text with a word character is not empty when it is trimmed.
-/

namespace RouteInventory.Text

/-- Neither the first nor the last character is a blank. -/
structure Trimmed (s : List Char) : Prop where
  front : ∀ c ∈ s.head?, isBlank c = false
  back : ∀ c ∈ s.getLast?, isBlank c = false

/-- What is left of a trimmed text does not end in a blank. -/
theorem not_isBlank_of_mem_getLast?_trim (s : List Char) :
    ∀ k ∈ (trim s).getLast?, isBlank k = false := by
  intro k hk
  have hhead := List.head?_dropWhile_not isBlank (trimLeft s).reverse
  rw [trim, trimRight, List.getLast?_reverse] at hk
  rw [hk] at hhead
  exact hhead

/-- Nor does it begin with one. -/
theorem not_isBlank_of_mem_head?_trim (s : List Char) :
    ∀ k ∈ (trim s).head?, isBlank k = false := by
  intro k hk
  have hhead := List.head?_dropWhile_not isBlank s
  obtain ⟨rest, hrest⟩ : trim s <+: trimLeft s := List.rdropWhile_prefix isBlank _
  obtain ⟨tail, htail⟩ := List.head?_eq_some_iff.1 hk
  rw [htail, List.cons_append] at hrest
  rw [← trimLeft, ← hrest] at hhead
  exact hhead

theorem trimmed_trim (s : List Char) : Trimmed (trim s) :=
  ⟨not_isBlank_of_mem_head?_trim s, not_isBlank_of_mem_getLast?_trim s⟩

/-- A trimmed text is left as it is. -/
theorem trim_of_trimmed {s : List Char} (h : Trimmed s) : trim s = s := by
  have hstay : ∀ {t : List Char}, (∀ c ∈ t.head?, isBlank c = false) → t.dropWhile isBlank = t := by
    intro t ht
    cases t with
    | nil => rfl
    | cons c t => exact List.dropWhile_cons_of_neg (by simp [ht c rfl])
  have hback : ∀ c ∈ s.reverse.head?, isBlank c = false := by
    rw [List.head?_reverse]
    exact h.back
  rw [trim, trimRight, trimLeft, hstay h.front, hstay hback, List.reverse_reverse]

/-- Trimming brings in no character. -/
theorem mem_of_mem_trim {s : List Char} {c : Char} (h : c ∈ trim s) : c ∈ s :=
  (List.dropWhile_sublist _).mem ((List.rdropWhile_prefix isBlank _).sublist.mem h)

theorem mem_dropWhile_of_not {p : Char → Bool} {s : List Char} {c : Char} (h : c ∈ s)
    (hc : p c = false) : c ∈ s.dropWhile p := by
  rw [← List.takeWhile_append_dropWhile (p := p) (l := s), List.mem_append] at h
  rcases h with h | h
  · rw [List.mem_takeWhile_imp h] at hc
    exact absurd hc (by decide)
  · exact h

/-- Trimming takes away blanks only. -/
theorem mem_trim_of_not_isBlank {s : List Char} {c : Char} (h : c ∈ s) (hc : isBlank c = false) :
    c ∈ trim s :=
  List.mem_reverse.2 (mem_dropWhile_of_not (List.mem_reverse.2 (mem_dropWhile_of_not h hc)) hc)

/-- A first word is not empty, holds no blank, and is taken from the text. -/
theorem of_firstWord {s word : List Char} (h : firstWord s = some word) :
    word ≠ [] ∧ ∀ c ∈ word, isBlank c = false ∧ c ∈ s := by
  rw [firstWord] at h
  split at h
  · cases h
  · next hne =>
    obtain rfl := Option.some.inj h
    refine ⟨hne, fun c hc => ⟨?_, ?_⟩⟩
    · simpa using List.mem_takeWhile_imp hc
    · exact (List.dropWhile_sublist _).mem ((List.takeWhile_sublist _).mem hc)

section Around

variable {front back : List Char} (hfront : ∀ c ∈ front, isBlank c = true)
  (hback : ∀ c ∈ back, isBlank c = true)
include hfront hback

/-- Of the blanks around a text those behind it stay, unless there is nothing else. -/
theorem trimLeft_append (s : List Char) :
    trimLeft (front ++ s ++ back) = if trimLeft s = [] then [] else trimLeft s ++ back := by
  have hnone : trimLeft back = [] := List.dropWhile_eq_nil_iff.2 hback
  rw [List.append_assoc, trimLeft, List.dropWhile_append_of_pos hfront, List.dropWhile_append,
    ← trimLeft, ← trimLeft, hnone]
  simp only [List.isEmpty_iff]

/-- Blanks around a text are trimmed away with those that it has itself. -/
theorem trim_append (s : List Char) : trim (front ++ s ++ back) = trim s := by
  have hreverse : ∀ c ∈ back.reverse, isBlank c = true := fun c hc =>
    hback c (List.mem_reverse.1 hc)
  rw [trim, trim, trimLeft_append hfront hback]
  split
  · next hnone => rw [hnone]
  · rw [trimRight, trimRight, List.reverse_append, List.dropWhile_append_of_pos hreverse]

/-- Blanks around a text play no part in its first word. -/
theorem firstWord_append (s : List Char) : firstWord (front ++ s ++ back) = firstWord s := by
  have hstop : back.takeWhile (!isBlank ·) = [] := by
    cases back with
    | nil => rfl
    | cons c back => exact List.takeWhile_cons_of_neg (by simp [hback c List.mem_cons_self])
  have hword : (trimLeft (front ++ s ++ back)).takeWhile (!isBlank ·) =
      (trimLeft s).takeWhile (!isBlank ·) := by
    rw [trimLeft_append hfront hback]
    split
    · next hnone => rw [hnone]
    · rw [List.takeWhile_append, hstop, List.append_nil]
      split
      · next hlen => exact ((List.takeWhile_sublist _).eq_of_length hlen).symm
      · rfl
  rw [firstWord, firstWord, hword]

end Around

/-- The code points of the blanks. -/
def blankCodes : List Nat :=
  [9, 10, 11, 12, 13, 0x20, 0x85, 0xA0, 0x1680, 0x2000, 0x2001, 0x2002, 0x2003, 0x2004, 0x2005,
    0x2006, 0x2007, 0x2008, 0x2009, 0x200A, 0x2028, 0x2029, 0x202F, 0x205F, 0x3000]

theorem toNat_mem_blankCodes {c : Char} (h : isBlank c = true) : c.toNat ∈ blankCodes := by
  simp only [isBlank, Bool.or_eq_true, Bool.and_eq_true, decide_eq_true_eq, beq_iff_eq] at h
  simp only [blankCodes, List.mem_cons, List.not_mem_nil, or_false]
  omega

/-- A blank is no word character. -/
theorem isWord_of_isBlank {c : Char} (h : isBlank c = true) : isWord c = false := by
  have hcodes : ∀ n ∈ blankCodes, inRanges wordRanges n = false := by decide +kernel
  exact hcodes _ (toNat_mem_blankCodes h)

end RouteInventory.Text
