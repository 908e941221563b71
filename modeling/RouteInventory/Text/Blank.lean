/-!
Blank characters: the 25 code points with the Unicode property `White_Space`, and what is done with
them. `trim` cuts them from both ends, `firstWord` finds the first stretch without any.
-/

namespace RouteInventory.Text

/-- The Unicode property `White_Space`. -/
def isBlank (c : Char) : Bool :=
  let n := c.toNat
  (9 ≤ n && n ≤ 13) || n == 0x20 || n == 0x85 || n == 0xA0 || n == 0x1680 ||
    (0x2000 ≤ n && n ≤ 0x200A) || n == 0x2028 || n == 0x2029 || n == 0x202F || n == 0x205F ||
    n == 0x3000

/-- The text without the blanks it starts with. -/
def trimLeft (s : List Char) : List Char := s.dropWhile isBlank

/-- The text without the blanks it ends with. -/
def trimRight (s : List Char) : List Char := (s.reverse.dropWhile isBlank).reverse

/-- The text without the blanks at either end. -/
def trim (s : List Char) : List Char := trimRight (trimLeft s)

/-- The first stretch of characters that are not blank, or nothing when all are. -/
def firstWord (s : List Char) : Option (List Char) :=
  match (trimLeft s).takeWhile (!isBlank ·) with
  | [] => none
  | word => some word

theorem trimLeft_cons_of_blank {c : Char} (h : isBlank c = true) (s : List Char) :
    trimLeft (c :: s) = trimLeft s := by
  simp [trimLeft, h]

theorem trimLeft_cons_of_not_blank {c : Char} (h : isBlank c = false) (s : List Char) :
    trimLeft (c :: s) = c :: s := by
  simp [trimLeft, h]

end RouteInventory.Text
