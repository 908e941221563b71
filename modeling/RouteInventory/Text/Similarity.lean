/-!
How similar two words are, from 0 for nothing in common to 1 for the same word. A character counts
as shared if the other word has it too, not further away than half of the longer word. The
similarity is the mean of three shares: of the first word's characters that are shared, of the
second word's, and of the shared ones that come in the same order in both.
-/

namespace RouteInventory.Text

/-- Marks the first free character `c` among those at positions from `low` to before `high`, if
    there is one; `pos` is the position of the first of `word`. -/
def claim? (c : Char) (low high : Nat) : Nat → List (Char × Bool) → Option (List (Char × Bool))
  | _, [] => none
  | pos, (d, taken) :: word =>
    if low ≤ pos ∧ pos < high ∧ d = c ∧ taken = false then some ((d, true) :: word)
    else (claim? c low high (pos + 1) word).map ((d, taken) :: ·)

/-- The shared characters of the first word in order, and the second word with its own marked. -/
def share (range : Nat) : Nat → List Char → List (Char × Bool) → List Char × List (Char × Bool)
  | _, [], other => ([], other)
  | pos, c :: word, other =>
    match claim? c (pos - range) (pos + range + 1) 0 other with
    | none => share range (pos + 1) word other
    | some other =>
      let (shared, other) := share range (pos + 1) word other
      (c :: shared, other)

/-- How similar two words are. -/
def similarity (a b : List Char) : Rat :=
  if a = [] ∧ b = [] then 1
  else
    let range := max a.length b.length / 2 - 1
    let (inA, marked) := share range 0 a (b.map (·, false))
    let inB := (marked.filter (·.2)).map (·.1)
    let moved := ((inA.zip inB).filter fun (x, y) => x ≠ y).length / 2
    let shared : Rat := inA.length
    if inA = [] then 0
    else (shared / a.length + shared / b.length + (shared - moved) / shared) / 3

/-- A word is suggested for another one that it is more similar to than this. -/
def similarEnough : Rat := 7 / 10

/-- The word that is most similar to the given one, if any is similar enough; the last one of
    several. -/
def mostSimilar? (word : String) (candidates : List String) : Option String :=
  let scored := candidates.map fun c => (similarity word.toList c.toList, c)
  ((scored.filter fun (score, _) => similarEnough < score).foldl (fun best next =>
    match best with
    | none => some next
    | some (score, _) => if score ≤ next.1 then some next else best) none).map (·.2)

end RouteInventory.Text
