import RouteInventory.Text.Utf8

/-!
The order of texts by code point is the order of their UTF-8 octets (`encode_lt_encode_iff`): of two
characters the smaller one has the smaller octet at the first place where their octets differ. The
octet of an ASCII character stands for nothing else (`ascii_mem_encode_iff`).
-/

namespace RouteInventory.Text

theorem cons_octet_lt {x y : Nat} (hx : x < 256) (hy : y < 256) {s t : List UInt8} :
    UInt8.ofNat x :: s < UInt8.ofNat y :: t ↔ x < y ∨ x = y ∧ s < t := by
  rw [List.cons_lt_cons_iff, UInt8.lt_iff_toNat_lt, ← UInt8.toNat_inj, UInt8.toNat_ofNat_of_lt' hx,
    UInt8.toNat_ofNat_of_lt' hy]

/-- The octets of the smaller of two characters come first, whatever follows. -/
theorem utf8EncodeChar_append_lt {c d : Char} (h : c < d) (s t : List UInt8) :
    String.utf8EncodeChar c ++ s < String.utf8EncodeChar d ++ t := by
  have hlt : c.val.toNat < d.val.toNat := h
  have hmax : d.val.toNat < 0x110000 := by
    have := d.valid
    simp only [UInt32.isValidChar, Nat.isValidChar] at this
    omega
  simp only [String.utf8EncodeChar]
  generalize c.val.toNat = v at *
  generalize d.val.toNat = w at *
  repeat' split
  -- the smaller one does not take more octets
  any_goals omega
  all_goals simp (disch := omega) only [List.cons_append, List.nil_append, cons_octet_lt]
  any_goals omega
  -- both take four, of which the first that differ decide
  by_cases h₁ : v / 262144 = w / 262144
  · by_cases h₂ : v / 4096 = w / 4096
    · by_cases h₃ : v / 64 = w / 64
      · exact .inr ⟨by omega, .inr ⟨by omega, .inr ⟨by omega, .inl (by omega)⟩⟩⟩
      · exact .inr ⟨by omega, .inr ⟨by omega, .inl (by omega)⟩⟩
    · exact .inr ⟨by omega, .inl (by omega)⟩
  · exact .inl (by omega)

theorem encode_cons (c : Char) (s : List Char) :
    encode (c :: s) = String.utf8EncodeChar c ++ encode s := by
  rw [encode, List.flatMap_cons, ← encode]

theorem encode_lt_encode : ∀ {a b : List Char}, a < b → encode a < encode b
  | _, [], h => absurd h (List.not_lt_nil _)
  | [], d :: b, _ => by
    rw [encode_cons]
    cases henc : String.utf8EncodeChar d with
    | nil => exact absurd henc (by simp)
    | cons x rest => exact List.nil_lt_cons _ _
  | c :: a, d :: b, h => by
    rw [encode_cons, encode_cons]
    rcases List.cons_lt_cons_iff.1 h with hcd | ⟨rfl, hab⟩
    · exact utf8EncodeChar_append_lt hcd _ _
    · exact List.append_left_lt (encode_lt_encode hab)

/-- Texts are ordered as their octets are. -/
theorem encode_lt_encode_iff {a b : List Char} : encode a < encode b ↔ a < b := by
  refine ⟨fun h => ?_, encode_lt_encode⟩
  rcases Std.lt_trichotomy a b with hab | rfl | hba
  · exact hab
  · exact absurd h (List.lt_irrefl _)
  · exact absurd (List.lt_trans h (encode_lt_encode hba)) (List.lt_irrefl _)

theorem encode_injective {a b : List Char} (h : encode a = encode b) : a = b := by
  rcases Std.lt_trichotomy a b with hab | rfl | hba
  · exact absurd (encode_lt_encode hab) (h ▸ List.lt_irrefl _)
  · rfl
  · exact absurd (encode_lt_encode hba) (h ▸ List.lt_irrefl _)

theorem encode_append (a b : List Char) : encode (a ++ b) = encode a ++ encode b := by
  rw [encode, List.flatMap_append, ← encode, ← encode]

theorem octetCount_append (a b : List Char) :
    octetCount (a ++ b) = octetCount a + octetCount b := by
  induction a with
  | nil => simp [octetCount]
  | cons c a ih => rw [List.cons_append, octetCount, ih, octetCount, Nat.add_assoc]

/-! ### ASCII -/

theorem octet_inj {x y : Nat} (hx : x < 256) (hy : y < 256) :
    UInt8.ofNat x = UInt8.ofNat y ↔ x = y := by
  rw [← UInt8.toNat_inj, UInt8.toNat_ofNat_of_lt' hx, UInt8.toNat_ofNat_of_lt' hy]

/-- Longer characters take octets beyond ASCII only. -/
theorem ascii_mem_utf8EncodeChar_iff {a c : Char} (ha : a.toNat < 0x80) :
    UInt8.ofNat a.toNat ∈ String.utf8EncodeChar c ↔ c = a := by
  have hmax : c.val.toNat < 0x110000 := by
    have := c.valid
    simp only [UInt32.isValidChar, Nat.isValidChar] at this
    omega
  have hc : c.val.toNat = c.toNat := rfl
  rw [← Char.toNat_inj]
  simp only [String.utf8EncodeChar, hc] at *
  generalize c.toNat = v at *
  generalize a.toNat = w at *
  repeat' split
  all_goals
    simp (disch := omega) only [List.mem_cons, List.not_mem_nil, or_false, octet_inj]
  all_goals omega

theorem ascii_mem_encode_iff {a : Char} (ha : a.toNat < 0x80) {s : List Char} :
    UInt8.ofNat a.toNat ∈ encode s ↔ a ∈ s := by
  simp only [encode, List.mem_flatMap, ascii_mem_utf8EncodeChar_iff ha, exists_eq_right]

end RouteInventory.Text
