import Mathlib.Data.Nat.Init

/-!
How a number is written: decimal digits, of which the first is a zero only if the number is zero.
-/

namespace RouteInventory.Text

theorem toList_toString (n : Nat) : (toString n).toList = Nat.toDigits 10 n := by
  rw [Nat.toString_eq_repr, Nat.repr_eq_ofList_toDigits, String.toList_ofList]

theorem isDigit_of_mem_toString {n : Nat} {c : Char} (h : c ∈ (toString n).toList) :
    c.isDigit = true := by
  rw [toList_toString] at h
  exact Nat.isDigit_of_mem_toDigits (by decide) (by decide) h

theorem toString_ne_nil (n : Nat) : (toString n).toList ≠ [] := by
  rw [toList_toString]
  exact Nat.toDigits_ne_nil

/-- Only zero starts with a zero. -/
theorem eq_zero_of_head?_toString {n : Nat} (h : (toString n).toList.head? = some '0') : n = 0 := by
  rw [toList_toString] at h
  induction n using Nat.strongRecOn with
  | _ n ih =>
    rw [Nat.toDigits_eq_if (by decide)] at h
    split at h
    · exact Nat.digitChar_eq_zero.1 (Option.some.inj h)
    · next hn =>
      rw [List.head?_append,
        Option.or_eq_left_of_isSome (List.isSome_head?.2 Nat.toDigits_ne_nil)] at h
      have := ih (n / 10) (by omega) h
      omega

end RouteInventory.Text
