import RouteInventory.Proofs.Pattern.Catalog
import RouteInventory.Proofs.Pattern.Cut

/-!
A text searched from its front. Either no text of the language begins it, and the matches are those
of the text without its first character, or one does, and the matches are that one and those of what
stands behind it (`gather_cons_of_none`, `gather_append_of_reading`). So the search for matches is
the same as reading a text from left to right with any reader that takes the texts of the language
where they stand and as far as the pattern does (`gather_eq_flatMap_items`).
-/

namespace RouteInventory.Pattern

variable {p : Pattern} {c : Char} {u v : List Char}

/-! ### Matches from the front on -/

theorem foundIn_append (p : Pattern) (u v : List Char) :
    p.foundIn (u ++ v).toArray =
      (List.range u.length).map (p.find? (u ++ v).toArray (atEnd (u ++ v).toArray)) ++
        (p.foundIn v.toArray).map (·.map (·.moved u.length)) := by
  have hsize : (u ++ v).toArray.size + 1 = u.length + (v.toArray.size + 1) := by simp; omega
  rw [foundIn, hsize, List.range_add, List.map_append, List.map_map, foundIn, List.map_map]
  congr 1
  exact List.map_congr_left fun pos _ => find?_behind p atEnd_behind pos

/-- Positions that belong to the match before are passed over. -/
theorem matchesFrom_skip (count : Nat) (l₁ l₂ : List (Option Found)) (pos : Nat) :
    matchesFrom count l₁.length pos (l₁ ++ l₂) = matchesFrom count 0 (pos + l₁.length) l₂ := by
  induction l₁ generalizing pos with
  | nil => rfl
  | cons a l₁ ih =>
    rw [List.length_cons, List.cons_append, matchesFrom, ih, Nat.add_assoc, Nat.add_comm 1]

/-- Nothing is found at the front: the matches are those behind the first character. -/
theorem matchesIn_cons_of_none
    (h : p.find? (c :: v).toArray (atEnd (c :: v).toArray) 0 = none) :
    p.matchesIn (c :: v).toArray = (p.matchesIn v.toArray).map (·.moved 1) := by
  have hfound : p.foundIn (c :: v).toArray =
      none :: (p.foundIn v.toArray).map (·.map (·.moved 1)) := by
    rw [← h]
    exact foundIn_append p [c] v
  rw [matchesIn_eq, hfound, matchesFrom, Nat.add_comm 0, matchesFrom_moved, ← matchesIn_eq]

/-- Something is found at the front: it is the first match, and the others are those behind it. -/
theorem matchesIn_append_of_some {f : Found} (hu : u ≠ [])
    (h : p.find? (u ++ v).toArray (atEnd (u ++ v).toArray) 0 = some f) (hstop : f.stop = u.length) :
    p.matchesIn (u ++ v).toArray =
      .ofFound p.groupCount 0 f :: (p.matchesIn v.toArray).map (·.moved u.length) := by
  obtain ⟨n, hn⟩ : ∃ n, u.length = n + 1 := ⟨u.length - 1, by
    have := List.length_pos_iff.2 hu
    omega⟩
  -- behind the first position come as many as the match takes characters more
  obtain ⟨skipped, hlen, hfound⟩ : ∃ skipped : List (Option Found), skipped.length = n ∧
      p.foundIn (u ++ v).toArray =
        some f :: (skipped ++ (p.foundIn v.toArray).map (·.map (·.moved u.length))) := by
    refine ⟨((List.range n).map Nat.succ).map
      (p.find? (u ++ v).toArray (atEnd (u ++ v).toArray)), by simp, ?_⟩
    rw [foundIn_append, hn, List.range_succ_eq_map, List.map_cons, h, List.cons_append]
  have hskip : f.stop - 0 - 1 = skipped.length := by omega
  have hpos : 0 + 1 + skipped.length = u.length + 0 := by omega
  rw [matchesIn_eq, hfound, matchesFrom, hskip, matchesFrom_skip, hpos, matchesFrom_moved,
    ← matchesIn_eq]

/-! ### What matches give -/

variable {kind : Kind} {α β : Type}

/-- What the matches of a pattern give, each asked for the texts of its groups. -/
def gather (p : Pattern) (take : (Nat → Option (List Char)) → List α) (text : Array Char) : List α :=
  (p.matchesIn text).flatMap fun m => take (m.groupText text)

/-- The texts of the groups of a reading; group 0 is the whole of it. -/
def textsOf (r : List Piece) : Nat → Option (List Char)
  | 0 => some (readingChars r)
  | i + 1 => groupIn? (i + 1) r

/-- A reading goes as far as any other that begins the same text. -/
def Farthest (kind : Kind) (r : List Piece) (s : List Char) : Prop :=
  ∀ r', Language kind r' → readingChars r' <+: s →
    kind.far (readingChars r').length (readingChars r).length

variable (take : (Nat → Option (List Char)) → List α)

theorem gather_nil : gather kind.pattern take #[] = [] := by
  have hnone : kind.pattern.matchesIn #[] = [] := by
    refine List.eq_nil_iff_forall_not_mem.2 fun m hm => ?_
    obtain ⟨hlt, hle, -⟩ := (tiled_matchesIn kind #[]).inside m hm
    exact absurd (Nat.lt_of_lt_of_le hlt hle) (Nat.not_lt_zero _)
  rw [gather, hnone, List.flatMap_nil]

theorem gather_moved (p : Pattern) (u v : List Char) :
    ((p.matchesIn v.toArray).map (·.moved u.length)).flatMap
      (fun m => take (m.groupText (u ++ v).toArray)) = gather p take v.toArray := by
  have hgroups : ∀ m : Match, (m.moved u.length).groupText (u ++ v).toArray = m.groupText v.toArray :=
    fun m => funext fun i => groupText_moved m i
  rw [List.flatMap_map]
  simp only [hgroups, gather]

/-- Where no text of the language begins the text, its first character plays no part. -/
theorem gather_cons_of_none (h : ∀ r, Language kind r → ¬ readingChars r <+: c :: v) :
    gather kind.pattern take (c :: v).toArray = gather kind.pattern take v.toArray := by
  have hnone : kind.pattern.find? (c :: v).toArray (atEnd (c :: v).toArray) 0 = none := by
    by_contra hne
    obtain ⟨f, hf⟩ := Option.ne_none_iff_exists'.1 hne
    obtain ⟨w, -, hw, hstands, -⟩ := find?_sound _ hf
    obtain ⟨r, hr, rfl⟩ := reads_iff.1 hw
    rw [chars_marked] at hstands
    exact h r hr hstands
  rw [gather, matchesIn_cons_of_none hnone]
  exact gather_moved take kind.pattern [c] v

theorem Kind.far_of_short (h : kind.prefersShort = true) {m n : Nat} : kind.far m n ↔ n ≤ m := by
  rw [Kind.far, if_pos h]

theorem Kind.far_of_long (h : kind.prefersShort = false) {m n : Nat} : kind.far m n ↔ m ≤ n := by
  rw [Kind.far, if_neg (by simp [h])]

theorem Kind.far_antisymm {m n : Nat} (h : kind.far m n) (h' : kind.far n m) : m = n := by
  cases hshort : kind.prefersShort with
  | true =>
    rw [Kind.far_of_short hshort] at h h'
    omega
  | false =>
    rw [Kind.far_of_long hshort] at h h'
    omega

/-- What is found where the farthest reading begins ends where that reading does. -/
theorem stop_eq_of_farthest {r : List Piece} {f : Found} (hr : Language kind r)
    (hfar : Farthest kind r (readingChars r ++ v))
    (hf : kind.pattern.find? (readingChars r ++ v).toArray (atEnd (readingChars r ++ v).toArray) 0 =
      some f) : f.stop = (readingChars r).length := by
  have hends := endsThere_atEnd (readingChars r ++ v).toArray
  obtain ⟨w, g, hw, hstands, hg, rfl⟩ := find?_sound _ hf
  obtain ⟨r', hr', rfl⟩ := reads_iff.1 hw
  rw [chars_marked] at hstands hg
  have hstop : g.stop = (readingChars r').length := by rw [(hends.stop_eq hg).1, Nat.zero_add]
  have hle := extreme_pattern kind _ _ hends 0 _ _ hf (spells_of_language hr)
    (List.prefix_append _ _)
  rw [Nat.zero_add, hstop] at hle
  exact hstop.trans (Kind.far_antisymm (hfar r' hr' hstands) hle)

/-- A reading that begins the text and goes as far as it can is the first match, up to how its
    characters are divided among the groups. -/
theorem gather_append_of_reading {r : List Piece} (hr : Language kind r)
    (hfar : Farthest kind r (readingChars r ++ v)) {items : List α}
    (hitems : ∀ r', Language kind r' → readingChars r' = readingChars r → take (textsOf r') = items) :
    gather kind.pattern take (readingChars r ++ v).toArray =
      items ++ gather kind.pattern take v.toArray := by
  have hstands : StandsAt (readingChars r ++ v).toArray 0 (readingChars r) :=
    List.prefix_append _ _
  have hmarked : StandsAt (readingChars r ++ v).toArray 0 (chars (marked r)) := by
    rwa [chars_marked]
  have hends := endsThere_atEnd (readingChars r ++ v).toArray
  obtain ⟨f, hf⟩ := Option.ne_none_iff_exists'.1 <|
    find?_complete kind.pattern (reads_iff.2 ⟨r, hr, rfl⟩) hmarked
      (hends.ne_none (by simp [chars_marked]))
  have hstop := stop_eq_of_farthest hr hfar hf
  have hmatches := matchesIn_append_of_some (readingChars_ne_nil hr) hf hstop
  obtain ⟨r', hr', hstands', hstop', -, hgroups⟩ :=
    exists_reading (hmatches ▸ List.mem_cons_self : _ ∈ kind.pattern.matchesIn _)
  have hlen : (readingChars r').length = (readingChars r).length := by
    have : f.stop = 0 + (readingChars r').length := hstop'
    omega
  have hchars : readingChars r' = readingChars r :=
    (hstands'.prefix_or hstands).elim (·.eq_of_length hlen) fun h => (h.eq_of_length hlen.symm).symm
  have htexts : (Match.ofFound kind.pattern.groupCount 0 f).groupText
      (readingChars r ++ v).toArray = textsOf r' := by
    funext i
    cases i with
    | zero =>
      have hslice := standsAt_iff_slice.1 hstands'
      rw [← hstop'] at hslice
      exact congrArg some hslice
    | succ i => exact groupText_eq hr' hstands' hgroups i
  rw [gather, hmatches, List.flatMap_cons, htexts, hitems r' hr' hchars]
  exact congrArg _ (gather_moved take kind.pattern (readingChars r) v)

/-! ### Reading a text from left to right -/

/-- Behind a reading there is less of the text. -/
theorem length_lt_of_reading {r : List Piece} (hr : Language kind r) {s rest : List Char}
    (hs : s = readingChars r ++ rest) : rest.length < s.length := by
  have := List.length_pos_iff.2 (readingChars_ne_nil hr)
  rw [hs, List.length_append]
  omega

/-- A way to recognize what begins a text: an item and the text behind it, which is shorter. -/
structure Reader (β : Type) where
  read : List Char → Option (β × List Char)
  shorter : ∀ {s item rest}, read s = some (item, rest) → rest.length < s.length

/-- The items of a text from left to right. Where none begins, the next character is tried. -/
def Reader.items (reader : Reader β) : List Char → List β
  | [] => []
  | c :: s =>
    match _hread : reader.read (c :: s) with
    | some (item, rest) => item :: reader.items rest
    | none => reader.items s
termination_by s => s.length
decreasing_by
  · exact reader.shorter _hread
  · simp

/-- A reader recognizes the matches of a kind. It takes a reading that begins the text, or more if
    the pattern does, and takes nothing else; and the item for what it takes gives what the groups
    of that reading give, however its characters are divided among them. -/
structure Reader.Recognizes (reader : Reader β) (kind : Kind)
    (take : (Nat → Option (List Char)) → List α) (give : β → List α) : Prop where
  long : kind.prefersShort = false
  reads : ∀ {r}, Language kind r → ∀ rest, ∃ item rest',
    reader.read (readingChars r ++ rest) = some (item, rest') ∧ rest'.length ≤ rest.length ∧
      (rest' = rest → take (textsOf r) = give item)
  of_read : ∀ {s item rest}, reader.read s = some (item, rest) →
    ∃ r, Language kind r ∧ s = readingChars r ++ rest

section Recognizes

variable {take} {reader : Reader β} {give : β → List α} (h : reader.Recognizes kind take give)
include h

theorem Reader.Recognizes.not_prefix {s : List Char} (hread : reader.read s = none) (r : List Piece)
    (hr : Language kind r) : ¬ readingChars r <+: s := by
  rintro ⟨rest, rfl⟩
  obtain ⟨item, rest', hsome, -⟩ := h.reads hr rest
  rw [hread] at hsome
  cases hsome

/-- What is taken goes as far as any reading. -/
theorem Reader.Recognizes.farthest {r : List Piece} {item : β} {rest : List Char}
    (hread : reader.read (readingChars r ++ rest) = some (item, rest)) :
    Farthest kind r (readingChars r ++ rest) := by
  rintro r' hr' ⟨rest', hs⟩
  obtain ⟨item', rest'', hsome, hle, -⟩ := h.reads hr' rest'
  rw [hs, hread] at hsome
  obtain ⟨-, rfl⟩ := Prod.mk.inj (Option.some.inj hsome)
  have hlen := congrArg List.length hs
  rw [List.length_append, List.length_append] at hlen
  exact (Kind.far_of_long h.long).2 (by omega)

theorem Reader.Recognizes.take_eq {r : List Piece} {item : β} {rest : List Char}
    (hread : reader.read (readingChars r ++ rest) = some (item, rest)) (r' : List Piece)
    (hr' : Language kind r') (hsame : readingChars r' = readingChars r) :
    take (textsOf r') = give item := by
  obtain ⟨item', rest', hsome, -, htake⟩ := h.reads hr' rest
  rw [hsame, hread] at hsome
  obtain ⟨rfl, rfl⟩ := Prod.mk.inj (Option.some.inj hsome)
  exact htake rfl

/-- Reading from left to right gives what the matches give. -/
theorem gather_eq_flatMap_items (s : List Char) :
    gather kind.pattern take s.toArray = (reader.items s).flatMap give := by
  fun_induction Reader.items reader s with
  | case1 => exact gather_nil take
  | case2 c s item rest hread ih =>
    obtain ⟨r, hr, hs⟩ := h.of_read hread
    rw [hs] at hread ⊢
    rw [gather_append_of_reading take hr (h.farthest hread) (h.take_eq hread), ih,
      List.flatMap_cons]
  | case3 c s hread ih => rw [gather_cons_of_none take (h.not_prefix hread), ih]

end Recognizes

end RouteInventory.Pattern
