import RouteInventory.Proofs.Text.CaseFolding
import RouteInventory.Text.Lower

/-!
Which texts have a given word of ASCII letters as their lower case. Beside the letters themselves
and their capitals only the Kelvin sign has a lower case in ASCII, so that for words without a `k`
the full mapping and the one of ASCII agree (`lower_eq_iff`).
-/

namespace RouteInventory.Text

/-- The runs that reach the lower case letters of ASCII are those of the capitals and of the Kelvin
    sign. -/
theorem lowerShifts_reach : ∀ r ∈ lowerShifts,
    (r.last + r.shift < 0x61 ∨ 0x7A < r.first + r.shift) ∨
      (r.first = 0x41 ∧ r.last = 0x5A ∧ r.shift = 32) ∨
      (r.first = 0x212A ∧ r.last = 0x212A ∧ r.shift = -8383) := by
  decide +kernel

/-- A character whose lower case is a letter other than `k` is that letter or its capital. -/
theorem toLower_eq_of_shift {c k : Char} (hk : k.isLower = true) (hkelvin : k ≠ 'k')
    (h : Char.ofNat (shiftBy lowerShifts c.toNat) = k) : c.toLower = k := by
  obtain ⟨hlow, hhigh⟩ := isLower_iff_toNat.1 hk
  have hcode : shiftBy lowerShifts c.toNat = k.toNat := by
    rw [← h, toNat_ofNat_of_ne]
    rintro h0
    rw [← h, h0] at hlow
    simp at hlow
  rcases shiftBy_eq_or c.toNat lowerShifts with hsame | ⟨r, hr, hfirst, hlast, -, himage⟩
  · have hck : c = k := Char.toNat_inj.1 (by omega)
    rw [hck, Char.toLower_eq_of_not_isUpper]
    rw [isUpper_iff_toNat]
    omega
  · rcases lowerShifts_reach r hr with hout | ⟨h₁, h₂, h₃⟩ | ⟨h₁, h₂, h₃⟩
    · omega
    · rw [Char.toLower_eq_of_isUpper (isUpper_iff_toNat.2 (by omega)),
        show c.toNat + 32 = k.toNat by omega, Char.ofNat_toNat]
    · have hk : k.toNat = 'k'.toNat := by
        simp
        omega
      exact absurd (Char.toNat_inj.1 hk) hkelvin

/-- A letter of ASCII has the lower case that ASCII gives it. -/
theorem shift_of_isLower_toLower {c : Char} (h : c.toLower.isLower = true) :
    Char.ofNat (shiftBy lowerShifts c.toNat) = c.toLower := by
  by_cases hupper : c.isUpper = true
  · obtain ⟨hlow, hhigh⟩ := isUpper_iff_toNat.1 hupper
    have hfirst : ¬ c.toNat < 0x41 ∧ c.toNat ≤ 0x5A ∧ (c.toNat - 0x41) % 1 = 0 := by omega
    rw [Char.toLower_eq_of_isUpper hupper, lowerShifts, shiftBy, if_neg hfirst.1, if_pos hfirst.2]
    rfl
  · rw [Char.toLower_eq_of_not_isUpper hupper] at h ⊢
    obtain ⟨hlow, hhigh⟩ := isLower_iff_toNat.1 h
    have hfirst : ¬ c.toNat < 0x41 ∧ ¬ (c.toNat ≤ 0x5A ∧ (c.toNat - 0x41) % 1 = 0) := by omega
    have hnext : c.toNat < 0xC0 := by omega
    rw [lowerShifts, shiftBy, if_neg hfirst.1, if_neg hfirst.2, shiftBy, if_pos hnext,
      Char.ofNat_toNat]

/-- A word that begins with the lower case of a character begins with a variant of it: a capital
    sigma and a dotted capital have no lower case in ASCII. -/
theorem lowerChar_append_eq_iff {k : Char} {word : List Char}
    (hword : ∀ l ∈ k :: word, l.isLower = true ∧ l ≠ 'k') (before after rest : List Char)
    (c : Char) : lowerChar before c after ++ rest = k :: word ↔ c.toLower = k ∧ rest = word := by
  obtain ⟨⟨hk, hkelvin⟩, hword⟩ := List.forall_mem_cons.1 hword
  have hnot : ∀ l : Char, l.isLower = false → l ≠ k := by
    rintro l hl rfl
    rw [hl] at hk
    cases hk
  rw [lowerChar]
  split
  · next hsigma =>
    have hself : c.toLower ≠ k := hnot _ (by rw [hsigma]; decide)
    have hfinal : (if startsCased before && !startsCased after then 'ς' else 'σ') ≠ k := by
      split <;> exact hnot _ (by decide)
    simp only [List.singleton_append, List.cons.injEq, hfinal, hself, false_and]
  · split
    · next hdotted =>
      have hself : c.toLower ≠ k := hnot _ (by rw [hdotted]; decide)
      have hmark : '\u0307' :: rest ≠ word := by
        rintro rfl
        exact absurd (hword '\u0307' List.mem_cons_self).1 (by decide)
      simp only [List.cons_append, List.nil_append, List.cons.injEq, hmark, hself, and_false,
        false_and]
    · rw [List.singleton_append, List.cons.injEq]
      refine and_congr_left fun _ => ⟨toLower_eq_of_shift hk hkelvin, ?_⟩
      rintro rfl
      exact shift_of_isLower_toLower hk

theorem lowerFrom_eq_iff {word : List Char} (hword : ∀ k ∈ word, k.isLower = true ∧ k ≠ 'k')
    (before s : List Char) : lowerFrom before s = word ↔ s.map Char.toLower = word := by
  induction s generalizing before word with
  | nil => rfl
  | cons c s ih =>
    cases word with
    | nil =>
      have hne : lowerChar before c s ≠ [] := by
        rw [lowerChar]
        repeat' split
        all_goals simp
      simp [lowerFrom, hne]
    | cons k word =>
      rw [lowerFrom, lowerChar_append_eq_iff hword, List.map_cons, List.cons.injEq,
        ih (List.forall_mem_cons.1 hword).2]

/-- A text has a word without a `k` as its lower case if its letters are those of the word, in
    whatever case. -/
theorem lower_eq_iff {word : String} (hword : ∀ k ∈ word.toList, k.isLower = true ∧ k ≠ 'k')
    (s : String) : lower s = word ↔ s.toList.map Char.toLower = word.toList := by
  rw [lower, ← lowerFrom_eq_iff hword [], ← String.toList_inj, String.toList_ofList]

end RouteInventory.Text
