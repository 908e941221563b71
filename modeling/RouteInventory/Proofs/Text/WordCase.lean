import RouteInventory.Proofs.Text.CaseFolding
import RouteInventory.Text.Word

/-!
Case and words. A character that has case variants is a word character, and so are its variants: the
runs of the table of case folding lie within the ranges of word characters, and so do their images.
So where words begin and end does not depend on the case they are written in (`isWord_of_sameFold`).
-/

namespace RouteInventory.Text

/-- Whether the code points from `a` to `b` all lie in one of the ascending ranges. -/
def spanInRanges : List (Nat × Nat) → Nat → Nat → Bool
  | [], _, _ => false
  | (low, high) :: rest, a, b =>
    -- in the form that the kernel computes with: the table of word characters is long
    Nat.ble low a && (Nat.ble b high || (Nat.blt high a && spanInRanges rest a b))

theorem inRanges_of_span {a b n : Nat} (ha : a ≤ n) (hb : n ≤ b) :
    ∀ {rs : List (Nat × Nat)}, spanInRanges rs a b = true → inRanges rs n = true
  | [], h => nomatch h
  | (low, high) :: rest, h => by
    simp only [spanInRanges, Bool.and_eq_true, Bool.or_eq_true, Nat.ble_eq, Nat.blt_eq] at h
    obtain ⟨hlow, hin | ⟨-, hrest⟩⟩ := h
    · rw [inRanges, if_neg (by omega), decide_eq_true (by omega), Bool.true_or]
    · rw [inRanges, if_neg (by omega), inRanges_of_span ha hb hrest, Bool.or_true]

/-- Whether the code points that a run moves all lie in the ranges; those of a run with gaps are
    looked at one by one. -/
def Shift.isWithin (r : Shift) (rs : List (Nat × Nat)) : Bool :=
  spanInRanges rs r.first r.last ||
    (List.range (r.last - r.first + 1)).all fun i =>
      i % r.stride != 0 || inRanges rs (r.first + i)

theorem Shift.inRanges_of_isWithin {r : Shift} {rs : List (Nat × Nat)} (h : r.isWithin rs = true)
    {n : Nat} (hfirst : r.first ≤ n) (hlast : n ≤ r.last) (hstride : (n - r.first) % r.stride = 0) :
    inRanges rs n = true := by
  rw [isWithin, Bool.or_eq_true, List.all_eq_true] at h
  rcases h with h | h
  · exact inRanges_of_span hfirst hlast h
  · have hn := h (n - r.first) (List.mem_range.2 (by omega))
    rw [hstride, Nat.add_sub_cancel' hfirst] at hn
    simpa using hn

/-- Only word characters have case variants. -/
theorem foldShifts_within : ∀ r ∈ foldShifts, r.isWithin wordRanges = true := by
  decide +kernel

/-- The representatives of case variants are word characters. -/
theorem foldShifts_onto : ∀ r ∈ foldShifts,
    spanInRanges wordRanges (r.first + r.shift).toNat (r.last + r.shift).toNat = true := by
  decide +kernel

/-- Ranges of word characters hold code points only. -/
theorem wordRanges_valid : ∀ r ∈ wordRanges, r.2 < 0xD800 ∨ 0xDFFF < r.1 ∧ r.2 < 0x110000 := by
  decide +kernel

theorem exists_of_inRanges {n : Nat} : ∀ {rs : List (Nat × Nat)}, inRanges rs n = true →
    ∃ r ∈ rs, r.1 ≤ n ∧ n ≤ r.2
  | [], h => nomatch h
  | (low, high) :: rest, h => by
    rw [inRanges] at h
    split at h
    · cases h
    · next hlow =>
      rw [Bool.or_eq_true, decide_eq_true_eq] at h
      rcases h with hhigh | hrest
      · exact ⟨_, List.mem_cons_self, Nat.le_of_not_lt hlow, hhigh⟩
      · obtain ⟨r, hr, hin⟩ := exists_of_inRanges hrest
        exact ⟨r, List.mem_cons_of_mem _ hr, hin⟩

theorem toNat_ofNat_of_inRanges {n : Nat} (h : inRanges wordRanges n = true) :
    (Char.ofNat n).toNat = n := by
  obtain ⟨r, hr, hlow, hhigh⟩ := exists_of_inRanges h
  have hvalid : n.isValidChar := by
    have := wordRanges_valid r hr
    rw [Nat.isValidChar]
    omega
  rw [Char.ofNat, dif_pos hvalid]
  rfl

theorem isWord_fold (c : Char) : isWord (fold c) = isWord c := by
  rcases shiftBy_eq_or c.toNat foldShifts with hsame | ⟨r, hr, hfirst, hlast, hstride, himage⟩
  · rw [fold, hsame, Char.ofNat_toNat]
  · have hc : isWord c = true :=
      Shift.inRanges_of_isWithin (foldShifts_within r hr) hfirst hlast hstride
    have hin : inRanges wordRanges (shiftBy foldShifts c.toNat) = true := by
      rw [himage]
      exact inRanges_of_span (by omega) (by omega) (foldShifts_onto r hr)
    rw [hc, fold, isWord, toNat_ofNat_of_inRanges hin, hin]

/-- A word character has word characters as its case variants. -/
theorem isWord_of_sameFold {c k : Char} (h : sameFold c k = true) : isWord c = isWord k := by
  rw [← isWord_fold c, ← isWord_fold k, beq_iff_eq.1 h]

end RouteInventory.Text
