/-!
UTF-8 octets. Encoding is exact; decoding accepts any octets and puts the replacement character
where a sequence breaks off: one for each longest piece that could have begun a character.
-/

namespace RouteInventory.Text

/-- The octets of a text. -/
def encode (s : List Char) : List UInt8 := s.flatMap String.utf8EncodeChar

/-- How many octets a text takes. -/
def octetCount : List Char → Nat
  | [] => 0
  | c :: rest => c.utf8Size + octetCount rest

/-- How many octets stand before each character, and before the end of the text. -/
def octetOffsets (s : List Char) : Array Nat :=
  s.foldl (fun offsets c => offsets.push (offsets.back?.getD 0 + c.utf8Size)) #[0]

/-- What follows the first `n` octets; nothing if these end inside a character or beyond the
    text. -/
def afterOctets? : Nat → List Char → Option (List Char)
  | 0, s => some s
  | _ + 1, [] => none
  | n + 1, c :: s => if c.utf8Size ≤ n + 1 then afterOctets? (n + 1 - c.utf8Size) s else none

/-- The first `n` octets; nothing if these end inside a character or beyond the text. -/
def firstOctets? : Nat → List Char → Option (List Char)
  | 0, _ => some []
  | _ + 1, [] => none
  | n + 1, c :: s =>
    if c.utf8Size ≤ n + 1 then (firstOctets? (n + 1 - c.utf8Size) s).map (c :: ·) else none

/-- The characters that fit into so many octets. -/
def fitting : Nat → List Char → List Char
  | _, [] => []
  | n, c :: s => if c.utf8Size ≤ n then c :: fitting (n - c.utf8Size) s else []

/-- What lies between two octets. -/
def between? (first stop : Nat) (s : List Char) : Option (List Char) :=
  (afterOctets? first s).bind (firstOctets? (stop - first))

/-- Stands for octets that are no character. -/
def replacement : Char := '\uFFFD'

/-- A character that has begun: the octets still owed, the range of the next one, and the bits read
    so far. -/
structure Begun where
  owed : Nat
  low : Nat
  high : Nat
  bits : Nat

/-- What an octet between two characters can be: a character of its own, the start of a longer
    one, or neither. -/
inductive Opening where
  | whole (c : Char)
  | start (b : Begun)
  | stray

/-- The second octet's range is narrower after `E0`, `ED`, `F0` and `F4`, which keeps out overlong
    forms, surrogates and values past the last code point. -/
def opening (b : Nat) : Opening :=
  if b < 0x80 then .whole (.ofNat b)
  else if b < 0xC2 then .stray
  else if b < 0xE0 then .start ⟨1, 0x80, 0xBF, b - 0xC0⟩
  else if b < 0xF0 then
    .start ⟨2, if b = 0xE0 then 0xA0 else 0x80, if b = 0xED then 0x9F else 0xBF, b - 0xE0⟩
  else if b < 0xF5 then
    .start ⟨3, if b = 0xF0 then 0x90 else 0x80, if b = 0xF4 then 0x8F else 0xBF, b - 0xF0⟩
  else .stray

/-- An octet between two characters: the text it ends and the character it begins. -/
def stepFresh (b : Nat) : List Char × Option Begun :=
  match opening b with
  | .whole c => ([c], none)
  | .start s => ([], some s)
  | .stray => ([replacement], none)

/-- One octet: an octet out of range breaks off the character that has begun and is read afresh. -/
def step : Option Begun → Nat → List Char × Option Begun
  | none, b => stepFresh b
  | some s, b =>
    if s.low ≤ b ∧ b ≤ s.high then
      let bits := s.bits * 64 + (b - 0x80)
      if s.owed ≤ 1 then ([.ofNat bits], none) else ([], some ⟨s.owed - 1, 0x80, 0xBF, bits⟩)
    else
      let (text, begun) := stepFresh b
      (replacement :: text, begun)

/-- Octets to text, `begun` being the character that the octets before left open. -/
def decodeFrom (begun : Option Begun) : List UInt8 → List Char
  | [] => if begun.isSome then [replacement] else []
  | octet :: rest =>
    let (text, next) := step begun octet.toNat
    text ++ decodeFrom next rest

/-- The text of any octets. -/
def decode (octets : List UInt8) : List Char := decodeFrom none octets

/-- Whether the octets are a text as they stand, nothing having been replaced. -/
def isText (octets : List UInt8) : Bool := encode (decode octets) == octets

theorem afterOctets?_octetCount (a b : List Char) :
    afterOctets? (octetCount a) (a ++ b) = some b := by
  induction a with
  | nil => simp [octetCount, afterOctets?]
  | cons c a ih =>
    have := c.utf8Size_pos
    obtain ⟨n, hn⟩ : ∃ n, octetCount (c :: a) = n + 1 :=
      ⟨octetCount (c :: a) - 1, by simp only [octetCount]; omega⟩
    have hrest : n + 1 - c.utf8Size = octetCount a := by simp only [octetCount] at hn; omega
    have hfit : c.utf8Size ≤ n + 1 := by simp only [octetCount] at hn; omega
    rw [hn, List.cons_append, afterOctets?, if_pos hfit, hrest, ih]

theorem firstOctets?_octetCount (a b : List Char) :
    firstOctets? (octetCount a) (a ++ b) = some a := by
  induction a with
  | nil => simp [octetCount, firstOctets?]
  | cons c a ih =>
    have := c.utf8Size_pos
    obtain ⟨n, hn⟩ : ∃ n, octetCount (c :: a) = n + 1 :=
      ⟨octetCount (c :: a) - 1, by simp only [octetCount]; omega⟩
    have hrest : n + 1 - c.utf8Size = octetCount a := by simp only [octetCount] at hn; omega
    have hfit : c.utf8Size ≤ n + 1 := by simp only [octetCount] at hn; omega
    rw [hn, List.cons_append, firstOctets?, if_pos hfit, hrest, ih, Option.map_some]

end RouteInventory.Text
