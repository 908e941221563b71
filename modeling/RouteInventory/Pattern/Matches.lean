import RouteInventory.Pattern

/-!
The matches of a pattern in a text, from left to right without overlap. What a pattern matches is
found for all positions at once, from the end of the pattern to its front: a table holds what is
found at each position, and every part of the pattern makes a table from the one of what follows it.
So the time that this takes is that of one pass over the text for each part of the pattern, whatever
the text is. `at_table` says that the tables hold what `find?` finds.
-/

namespace RouteInventory.Pattern

/-- What is found at each position of a text, the one after its last character included. -/
abbrev Table := Array (Option Found)

/-- What a table holds for a position; nothing is found behind the text. -/
def Table.at (t : Table) (pos : Nat) : Option Found := t[pos]?.join

/-- The entries for a run, from the characters on and what is found after a run that ends before
    each of them; `last` is found at the end of the text. -/
def runEntries (is : Char → Bool) (longest : Bool) (last : Option Found) :
    List (Char × Option Found) → List (Option Found) :=
  List.foldr (fun (c, done) later =>
    preferred longest (if is c then later.head?.join else none) done :: later) [last]

/-- The table of a pattern, given the table of what follows it. -/
def table (text : Array Char) : Pattern → Table → Table
  | nothing, t => t
  | one is, t => t.mapIdx fun pos _ =>
    match t.at (pos + 1), text[pos]? with
    | some f, some c => if is c then some f else none
    | _, _ => none
  | run is longest, t => (runEntries is longest (t.at text.size) (text.zip t).toList).toArray
  | seq first second, t => first.table text (second.table text t)
  | alt first second, t => .zipWith Option.or (first.table text t) (second.table text t)
  | edge e, t => t.mapIdx fun pos f => f.map (·.after e pos)

/-- Nothing follows: whatever the position, the match ends there. -/
def ends (text : Array Char) : Table := .ofFn fun pos : Fin (text.size + 1) => some ⟨pos, []⟩

/-! ### Matches -/

/-- A reported match and its groups, the first group first. -/
structure Match where
  whole : Span
  groups : List (Option Span)
  deriving DecidableEq, Repr

/-- The stretch of a group. -/
def Found.group? (f : Found) (index : Nat) : Option Span := do
  return ⟨← f.edges.lookup (.opens index), ← f.edges.lookup (.closes index)⟩

/-- The match that was found at `start`. -/
def Match.ofFound (count start : Nat) (f : Found) : Match :=
  ⟨⟨start, f.stop⟩, (List.range count).map fun i => f.group? (i + 1)⟩

/-- The matches among what is found from a position on, after `skip` characters that belong to the
    match before. -/
def matchesFrom (count : Nat) : Nat → Nat → List (Option Found) → List Match
  | _, _, [] => []
  | skip + 1, pos, _ :: rest => matchesFrom count skip (pos + 1) rest
  | 0, pos, none :: rest => matchesFrom count 0 (pos + 1) rest
  | 0, pos, some f :: rest =>
    .ofFound count pos f :: matchesFrom count (f.stop - pos - 1) (pos + 1) rest

/-- The matches in a text, from left to right. -/
def matchesIn (p : Pattern) (text : Array Char) : List Match :=
  matchesFrom p.groupCount 0 0 (p.table text (ends text)).toList

/-- The text of a numbered group of a match; group 0 is the whole match. -/
def Match.groupText (m : Match) (text : Array Char) : Nat → Option (List Char)
  | 0 => some (m.whole.slice text)
  | i + 1 => m.groups[i]?.join.map (·.slice text)

/-- The texts of one group in all matches that have it. -/
def groupTexts (p : Pattern) (index : Nat) (text : Array Char) : List (List Char) :=
  (p.matchesIn text).filterMap (·.groupText text index)

/-! ### What the tables hold -/

theorem length_runEntries (is : Char → Bool) (longest : Bool) (last : Option Found)
    (l : List (Char × Option Found)) : (runEntries is longest last l).length = l.length + 1 := by
  induction l with
  | nil => rfl
  | cons a l ih => simpa [runEntries] using ih

theorem size_table {text : Array Char} (p : Pattern) {t : Table} (ht : t.size = text.size + 1) :
    (p.table text t).size = text.size + 1 := by
  induction p generalizing t with
  | nothing => exact ht
  | one is => simpa [table] using ht
  | run is longest => simp [table, length_runEntries, ht]
  | seq first second ih₁ ih₂ => exact ih₁ (ih₂ ht)
  | alt first second ih₁ ih₂ => simp [table, ih₁ ht, ih₂ ht]
  | edge e => simpa [table] using ht

/-- The entries for a run hold what is found for it, if each place holds what is found after it. -/
theorem getElem?_runEntries (text : Array Char) (is : Char → Bool) (longest : Bool)
    (k : Nat → Option Found) : ∀ (l : List (Char × Option Found)) (start : Nat),
    start + l.length = text.size →
    (∀ (i : Nat) (h : i < l.length), text[start + i]? = some l[i].1 ∧ l[i].2 = k (start + i)) →
    ∀ i ≤ l.length,
      (runEntries is longest (k text.size) l)[i]?.join = findRun text is longest k (start + i)
  | [], start, hlen, _, i, hi => by
    obtain rfl : i = 0 := by simpa using hi
    have hstart : start = text.size := by simpa using hlen
    subst hstart
    rw [findRun, dif_neg (by omega)]
    rfl
  | (c, done) :: l, start, hlen, hl, i, hi => by
    have hlen' : start + 1 + l.length = text.size := by
      simpa [Nat.add_assoc, Nat.add_comm 1] using hlen
    have hl' : ∀ (i : Nat) (h : i < l.length),
        text[start + 1 + i]? = some l[i].1 ∧ l[i].2 = k (start + 1 + i) := by
      intro i h
      have := hl (i + 1) (by simpa using h)
      simpa [Nat.add_assoc, Nat.add_comm 1] using this
    have ih := getElem?_runEntries text is longest k l (start + 1) hlen' hl'
    cases i with
    | zero =>
      obtain ⟨hc, hdone⟩ := hl 0 (by simp)
      simp only [Nat.add_zero, List.getElem_cons_zero] at hc hdone
      have hlt : start < text.size := by
        have := (Array.getElem?_eq_some_iff.1 hc).1
        exact this
      have hget : text[start] = c := (Array.getElem?_eq_some_iff.1 hc).2
      have hhead := ih 0 (by omega)
      rw [Nat.add_zero] at hhead
      rw [Nat.add_zero, findRun, dif_pos hlt, hget, ← hhead, ← hdone]
      simp [runEntries, List.head?_eq_getElem?]
    | succ i =>
      have := ih i (by simpa using hi)
      rw [show start + (i + 1) = start + 1 + i by omega, ← this]
      rfl

/-- A table holds what is found for its pattern if the table that it was made from holds what is
    found for the rest. -/
theorem at_table {text : Array Char} (p : Pattern) {t : Table} (ht : t.size = text.size + 1) :
    (p.table text t).at = p.find? text t.at := by
  induction p generalizing t with
  | nothing => rfl
  | one is =>
    funext pos
    simp only [find?]
    by_cases hpos : pos < text.size
    · have : pos < t.size := by omega
      simp only [table, Table.at, Array.getElem?_mapIdx, Array.getElem?_eq_getElem this,
        Array.getElem?_eq_getElem hpos, Option.map_some, Option.join_some]
      cases t[pos + 1]?.join <;> simp
    · have hsize := size_table (.one is) ht
      simp only [Array.getElem?_eq_none (Nat.not_lt.1 hpos), Table.at]
      by_cases hend : pos < (table text (.one is) t).size
      · simp only [table, Array.getElem?_mapIdx, Array.getElem?_eq_none (Nat.not_lt.1 hpos)]
        cases t[pos]? <;> simp
      · rw [Array.getElem?_eq_none (Nat.not_lt.1 hend), Option.join_none]
  | run is longest =>
    funext pos
    simp only [find?]
    by_cases hpos : pos ≤ text.size
    · have := getElem?_runEntries text is longest t.at (text.zip t).toList 0 (by simp [ht])
        (by
          intro i h
          have h' : i < text.size := by simp at h; omega
          have h'' : i < t.size := by omega
          simp [Table.at, h', h'']) pos (by simp; omega)
      simpa [Table.at, table] using this
    · have hsize := size_table (.run is longest) ht
      rw [findRun, dif_neg (by omega), Table.at, Array.getElem?_eq_none (by omega), Table.at,
        Array.getElem?_eq_none (by omega)]
  | seq first second ih₁ ih₂ =>
    simp only [table, find?, ih₁ (size_table second ht), ih₂ ht]
  | alt first second ih₁ ih₂ =>
    funext pos
    have h₁ := size_table first ht
    have h₂ := size_table second ht
    simp only [find?, ← ih₁ ht, ← ih₂ ht, Table.at, table, Array.getElem?_zipWith]
    by_cases hpos : pos < text.size + 1
    · rw [Array.getElem?_eq_getElem (h₁ ▸ hpos), Array.getElem?_eq_getElem (h₂ ▸ hpos)]
      rfl
    · rw [Array.getElem?_eq_none (by omega), Array.getElem?_eq_none (by omega)]
      rfl
  | edge e =>
    funext pos
    simp only [Table.at, table, find?, Array.getElem?_mapIdx]
    cases t[pos]? <;> rfl

/-- What is found at a position is the preferred way to match there. -/
theorem at_table_ends (p : Pattern) (text : Array Char) :
    (p.table text (ends text)).at =
      p.find? text fun pos => if pos ≤ text.size then some ⟨pos, []⟩ else none := by
  rw [at_table p (by simp [ends])]
  congr 1
  funext pos
  by_cases h : pos ≤ text.size
  · have : pos < text.size + 1 := by omega
    simp [Table.at, ends, this, h]
  · have : ¬ pos < text.size + 1 := by omega
    simp [Table.at, ends, this, h]

end RouteInventory.Pattern
