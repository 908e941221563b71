import RouteInventory.Text.Fold
import Mathlib

/-!
Which characters are case variants of an ASCII letter. Simple case folding joins two of them that
are not ASCII themselves, the long s and the Kelvin sign; every other variant is the letter or its
capital (`sameFold_lower`).
-/

namespace RouteInventory.Text

/-- The long s, a case variant of `s`. -/
def longS : Char := '\u017F'

/-- The Kelvin sign, a case variant of `k`. -/
def kelvin : Char := '\u212A'

/-- A code point that a table moves lies in one of its runs. -/
theorem shiftBy_eq_or (n : Nat) : ∀ rs : List Shift, shiftBy rs n = n ∨
    ∃ r ∈ rs, r.first ≤ n ∧ n ≤ r.last ∧ (n - r.first) % r.stride = 0 ∧
      shiftBy rs n = (n + r.shift).toNat
  | [] => .inl rfl
  | r :: rs => by
    unfold shiftBy
    split
    · exact .inl rfl
    · split
      · next hfirst hin => exact .inr ⟨r, List.mem_cons_self, by omega, hin.1, hin.2, rfl⟩
      · exact (shiftBy_eq_or n rs).imp_right fun ⟨s, hs, h⟩ => ⟨s, List.mem_cons_of_mem _ hs, h⟩

/-- The runs that reach the lower case letters of ASCII are those of the capitals, of the long s and
    of the Kelvin sign. -/
theorem foldShifts_reach : ∀ r ∈ foldShifts,
    (r.last + r.shift < 0x61 ∨ 0x7A < r.first + r.shift) ∨
      (r.first = 0x41 ∧ r.last = 0x5A ∧ r.shift = 32) ∨
      (r.first = 0x17F ∧ r.last = 0x17F ∧ r.shift = -268) ∨
      (r.first = 0x212A ∧ r.last = 0x212A ∧ r.shift = -8383) := by
  decide +kernel

theorem isLower_iff_toNat {c : Char} : c.isLower = true ↔ 0x61 ≤ c.toNat ∧ c.toNat ≤ 0x7A := by
  simp [Char.isLower, UInt32.le_iff_toNat_le, ← Char.toNat_val]

theorem isUpper_iff_toNat {c : Char} : c.isUpper = true ↔ 0x41 ≤ c.toNat ∧ c.toNat ≤ 0x5A := by
  simp [Char.isUpper, UInt32.le_iff_toNat_le, ← Char.toNat_val]

/-- A lower case letter of ASCII represents its variants. -/
theorem fold_of_isLower {k : Char} (hk : k.isLower = true) : fold k = k := by
  obtain ⟨hlow, hhigh⟩ := isLower_iff_toNat.1 hk
  have : shiftBy foldShifts k.toNat = k.toNat := by
    have hcapital : ¬ k.toNat < 0x41 ∧ ¬ (k.toNat ≤ 0x5A ∧ (k.toNat - 0x41) % 1 = 0) := by omega
    have hnext : k.toNat < 0xB5 := by omega
    rw [foldShifts, shiftBy, if_neg hcapital.1, if_neg hcapital.2, shiftBy, if_pos hnext]
  rw [fold, this, Char.ofNat_toNat]

theorem toNat_ofNat_of_ne {n : Nat} (h : Char.ofNat n ≠ '\x00') : (Char.ofNat n).toNat = n := by
  unfold Char.ofNat at h ⊢
  split
  · rfl
  · next hn =>
    rw [dif_neg hn] at h
    exact absurd rfl h

/-- A character whose representative is a lower case letter of ASCII is that letter or its capital,
    or else the long s or the Kelvin sign. -/
theorem sameFold_lower {c k : Char} (hk : k.isLower = true) (h : sameFold c k = true) :
    c.toLower = k ∨ c = longS ∨ c = kelvin := by
  obtain ⟨hlow, hhigh⟩ := isLower_iff_toNat.1 hk
  have hfold : fold c = k := by simpa [sameFold, fold_of_isLower hk] using h
  have hcode : shiftBy foldShifts c.toNat = k.toNat := by
    rw [← hfold, fold, toNat_ofNat_of_ne]
    rintro h0
    rw [fold, h0] at hfold
    subst hfold
    simp at hlow
  rcases shiftBy_eq_or c.toNat foldShifts with hsame | ⟨r, hr, hfirst, hlast, -, himage⟩
  · have hck : c = k := Char.toNat_inj.1 (by omega)
    left
    rw [hck, Char.toLower_eq_of_not_isUpper]
    rw [isUpper_iff_toNat]
    omega
  · rcases foldShifts_reach r hr with hout | ⟨h₁, h₂, h₃⟩ | ⟨h₁, h₂, h₃⟩ | ⟨h₁, h₂, h₃⟩
    · omega
    · left
      rw [Char.toLower_eq_of_isUpper (isUpper_iff_toNat.2 (by omega)),
        show c.toNat + 32 = k.toNat by omega, Char.ofNat_toNat]
    · exact .inr (.inl (Char.toNat_inj.1 (by rw [longS]; simp; omega)))
    · exact .inr (.inr (Char.toNat_inj.1 (by rw [kelvin]; simp; omega)))

end RouteInventory.Text
