import RouteInventory.Proofs.Pattern.Tiling

/-!
Texts cut at a character that no class of a pattern holds, such as a newline. The search never takes
that character, so what it finds in front of it does not depend on what stands behind it, and the
other way round. The matches in the whole text are those in front and then those behind
(`matchesIn_cut`), and so are the texts of their groups (`groupTexts_cut`).
-/

namespace RouteInventory

/-- A stretch, in a text with more characters in front. -/
def Span.moved (n : Nat) (s : Span) : Span := ⟨n + s.start, n + s.stop⟩

namespace Pattern

/-- No class of the pattern holds the character. -/
def avoids (c : Char) : Pattern → Bool
  | nothing | edge _ => true
  | one is | run is _ => !is c
  | seq first second | alt first second => first.avoids c && second.avoids c

variable {c : Char} {u v : List Char} {p : Pattern} {k k' : Nat → Option Found} {pos : Nat}

/-! ### In front of the cut -/

theorem getElem?_front (hpos : pos < u.length) :
    (u ++ c :: v).toArray[pos]? = u.toArray[pos]? := by
  rw [List.getElem?_toArray, List.getElem?_toArray, List.getElem?_append_left hpos]

theorem getElem?_cut : (u ++ c :: v).toArray[u.length]? = some c := by
  rw [List.getElem?_toArray, List.getElem?_append_right (Nat.le_refl _), Nat.sub_self]
  rfl

theorem preferred_none_left {longest : Bool} (done : Option Found) :
    preferred longest none done = done := by
  cases longest <;> simp [preferred]

/-- A run ends at the cut at the latest. -/
theorem findRun_front {is : Char → Bool} {longest : Bool} (hc : is c = false)
    (hk : ∀ pos ≤ u.length, k pos = k' pos) (hpos : pos ≤ u.length) :
    findRun (u ++ c :: v).toArray is longest k pos = findRun u.toArray is longest k' pos := by
  fun_induction findRun u.toArray is longest k' pos with
  | case1 pos hlt ih =>
    have hlt' : pos < u.length := by simpa using hlt
    have hin : pos < (u ++ c :: v).toArray.size := by simp; omega
    have hget : (u ++ c :: v).toArray[pos] = u.toArray[pos] := by
      have := @getElem?_front c u v pos hlt'
      rwa [Array.getElem?_eq_getElem hin, Array.getElem?_eq_getElem hlt, Option.some.injEq] at this
    rw [findRun, dif_pos hin, hget, ih (by omega), hk pos hpos]
  | case2 pos hge =>
    obtain rfl : pos = u.length := by
      have : ¬ pos < u.length := by simpa using hge
      omega
    have hin : u.length < (u ++ c :: v).toArray.size := by simp
    have hget : (u ++ c :: v).toArray[u.length] = c := by
      have := @getElem?_cut c u v
      rwa [Array.getElem?_eq_getElem hin, Option.some.injEq] at this
    rw [findRun, dif_pos hin, hget, if_neg (by simp [hc]), preferred_none_left, hk _ hpos]

/-- The search from a place in front of the cut is that in the front part alone, if it goes on in
    the same way there. -/
theorem find?_front (hp : p.avoids c = true) (hk : ∀ pos ≤ u.length, k pos = k' pos)
    (hpos : pos ≤ u.length) :
    p.find? (u ++ c :: v).toArray k pos = p.find? u.toArray k' pos := by
  induction p generalizing k k' pos with
  | nothing => exact hk pos hpos
  | one is =>
    have hc : is c = false := by simpa [avoids] using hp
    simp only [find?]
    rcases Nat.lt_or_eq_of_le hpos with hlt | rfl
    · rw [getElem?_front hlt, hk (pos + 1) hlt]
    · rw [getElem?_cut]
      simp [hc]
  | run is longest => exact findRun_front (by simpa [avoids] using hp) hk hpos
  | seq first second ih₁ ih₂ =>
    obtain ⟨h₁, h₂⟩ := Bool.and_eq_true_iff.1 hp
    exact ih₁ h₁ (fun pos hpos => ih₂ h₂ hk hpos) hpos
  | alt first second ih₁ ih₂ =>
    obtain ⟨h₁, h₂⟩ := Bool.and_eq_true_iff.1 hp
    simp only [find?]
    rw [ih₁ h₁ hk hpos, ih₂ h₂ hk hpos]
  | edge e =>
    simp only [find?]
    rw [hk pos hpos]

/-! ### Behind the cut -/

/-- What was found, in a text with more characters in front. -/
def Found.moved (n : Nat) (f : Found) : Found :=
  ⟨n + f.stop, f.edges.map fun (e, pos) => (e, n + pos)⟩

theorem getElem?_behind : (u ++ v).toArray[u.length + pos]? = v.toArray[pos]? := by
  rw [List.getElem?_toArray, List.getElem?_toArray, List.getElem?_append_right (by omega),
    Nat.add_sub_cancel_left]

theorem map_preferred {longest : Bool} (g : Found → Found) (more done : Option Found) :
    (preferred longest more done).map g = preferred longest (more.map g) (done.map g) := by
  cases longest <;> simp [preferred, Option.map_or]

theorem findRun_behind {is : Char → Bool} {longest : Bool}
    (hk : ∀ pos, k (u.length + pos) = (k' pos).map (·.moved u.length)) (pos : Nat) :
    findRun (u ++ v).toArray is longest k (u.length + pos) =
      (findRun v.toArray is longest k' pos).map (·.moved u.length) := by
  fun_induction findRun v.toArray is longest k' pos with
  | case1 pos hlt ih =>
    have hlt' : pos < v.length := by simpa using hlt
    have hin : u.length + pos < (u ++ v).toArray.size := by simp; omega
    have hget : (u ++ v).toArray[u.length + pos] = v.toArray[pos] := by
      have := @getElem?_behind u v pos
      rwa [Array.getElem?_eq_getElem hin, Array.getElem?_eq_getElem hlt, Option.some.injEq] at this
    rw [findRun, dif_pos hin, hget, map_preferred, ← hk pos, Nat.add_assoc, ih]
    split <;> rfl
  | case2 pos hge =>
    have hout : ¬ u.length + pos < (u ++ v).toArray.size := by
      simp only [List.size_toArray, List.length_append] at hge ⊢
      omega
    rw [findRun, dif_neg hout, hk pos]

/-- The search behind some characters is that in the text without them, moved. -/
theorem find?_behind (p : Pattern)
    (hk : ∀ pos, k (u.length + pos) = (k' pos).map (·.moved u.length)) (pos : Nat) :
    p.find? (u ++ v).toArray k (u.length + pos) =
      (p.find? v.toArray k' pos).map (·.moved u.length) := by
  induction p generalizing k k' pos with
  | nothing => exact hk pos
  | one is =>
    simp only [find?]
    rw [getElem?_behind, Nat.add_assoc, hk (pos + 1)]
    cases v.toArray[pos]? with
    | none => rfl
    | some d =>
      simp only
      split <;> rfl
  | run is longest => exact findRun_behind hk pos
  | seq first second ih₁ ih₂ => exact ih₁ (fun pos => ih₂ hk pos) pos
  | alt first second ih₁ ih₂ =>
    simp only [find?]
    rw [ih₁ hk pos, ih₂ hk pos, Option.map_or]
  | edge e =>
    simp only [find?]
    rw [hk pos, Option.map_map, Option.map_map]
    rfl

/-! ### What is found at every position -/

theorem atEnd_front (hpos : pos ≤ u.length) :
    atEnd (u ++ c :: v).toArray pos = atEnd u.toArray pos := by
  have hin : pos ≤ (u ++ c :: v).toArray.size := by simp; omega
  have hin' : pos ≤ u.toArray.size := by simpa using hpos
  rw [atEnd, atEnd, if_pos hin, if_pos hin']

theorem atEnd_behind (pos : Nat) :
    atEnd (u ++ v).toArray (u.length + pos) =
      (atEnd v.toArray pos).map (·.moved u.length) := by
  simp only [atEnd, List.size_toArray, List.length_append, Nat.add_le_add_iff_left]
  split <;> rfl

/-- What is found at each position of a text, from the first to the one after the last. -/
def foundIn (p : Pattern) (text : Array Char) : List (Option Found) :=
  (List.range (text.size + 1)).map (p.find? text (atEnd text))

theorem toList_table (p : Pattern) (text : Array Char) :
    (p.table text (ends text)).toList = p.foundIn text := by
  have hsize : (p.table text (ends text)).size = text.size + 1 := size_table p (by simp [ends])
  refine List.ext_getElem (by simp [foundIn, hsize]) fun i hi _ => ?_
  have hat : (p.table text (ends text)).at i = p.find? text (atEnd text) i :=
    congrFun (at_table_ends p text) i
  have hlt : i < (p.table text (ends text)).size := by simpa using hi
  rw [Table.at, Array.getElem?_eq_getElem hlt, Option.join_some] at hat
  simp [foundIn, hat]

theorem matchesIn_eq (p : Pattern) (text : Array Char) :
    p.matchesIn text = matchesFrom p.groupCount 0 0 (p.foundIn text) := by
  rw [matchesIn, toList_table]

theorem foundIn_cut (hp : p.avoids c = true) :
    p.foundIn (u ++ c :: v).toArray =
      p.foundIn u.toArray ++ (p.foundIn v.toArray).map (·.map (·.moved (u.length + 1))) := by
  have hsize : (u ++ c :: v).toArray.size + 1 = (u.toArray.size + 1) + (v.toArray.size + 1) := by
    simp
    omega
  have hfront : ∀ pos ∈ List.range (u.toArray.size + 1),
      p.find? (u ++ c :: v).toArray (atEnd (u ++ c :: v).toArray) pos =
        p.find? u.toArray (atEnd u.toArray) pos := by
    intro pos hpos
    have hpos : pos ≤ u.length := by
      simp only [List.size_toArray, List.mem_range] at hpos
      omega
    exact find?_front hp (fun pos hpos => atEnd_front hpos) hpos
  -- behind the cut the character itself counts as one in front
  have hbehind : ∀ pos, p.find? (u ++ c :: v).toArray (atEnd (u ++ c :: v).toArray)
      (u.toArray.size + 1 + pos) =
        (p.find? v.toArray (atEnd v.toArray) pos).map (·.moved (u.length + 1)) := by
    intro pos
    have hmoved := @find?_behind (u ++ [c]) v _ _ p (@atEnd_behind (u ++ [c]) v) pos
    simpa using hmoved
  rw [foundIn, hsize, List.range_add, List.map_append, List.map_map, foundIn, foundIn,
    List.map_congr_left hfront, List.map_map]
  congr 1
  exact List.map_congr_left fun pos _ => hbehind pos

/-! ### Matches -/

/-- A match, in a text with more characters in front. -/
def Match.moved (n : Nat) (m : Match) : Match := ⟨m.whole.moved n, m.groups.map (·.map (·.moved n))⟩

theorem lookup_map_edge (n : Nat) (e : Edge) (l : List (Edge × Nat)) :
    (l.map fun (e, pos) => (e, n + pos)).lookup e = (l.lookup e).map (n + ·) := by
  induction l with
  | nil => rfl
  | cons a l ih =>
    obtain ⟨e', pos⟩ := a
    rw [List.map_cons, List.lookup_cons, List.lookup_cons, ih]
    cases e == e' <;> rfl

theorem ofFound_moved (count n start : Nat) (f : Found) :
    Match.ofFound count (n + start) (f.moved n) = (Match.ofFound count start f).moved n := by
  have hgroup : ∀ i, (f.moved n).group? i = (f.group? i).map (·.moved n) := by
    intro i
    simp only [Found.group?, Found.moved, lookup_map_edge]
    cases f.edges.lookup (.opens i) <;> cases f.edges.lookup (.closes i) <;> rfl
  simp only [Match.ofFound, Match.moved, hgroup, List.map_map, Function.comp_def]
  rfl

theorem matchesFrom_moved (count skip n pos : Nat) (l : List (Option Found)) :
    matchesFrom count skip (n + pos) (l.map (·.map (·.moved n))) =
      (matchesFrom count skip pos l).map (·.moved n) := by
  fun_induction matchesFrom count skip pos l with
  | case1 => simp [matchesFrom]
  | case2 skip pos _ rest ih => exact ih
  | case3 pos rest ih => exact ih
  | case4 pos f rest ih =>
    have hskip : (f.moved n).stop - (n + pos) - 1 = f.stop - pos - 1 := by
      simp only [Found.moved]
      omega
    rw [List.map_cons, Option.map_some, matchesFrom, List.map_cons, ofFound_moved, hskip,
      Nat.add_assoc, ih]

/-- Behind a list within which everything ends, the search for matches begins anew. -/
theorem matchesFrom_append {count skip pos : Nat} {l l' : List (Option Found)}
    (hskip : skip ≤ l.length) (h : ∀ f, some f ∈ l → f.stop ≤ pos + l.length) :
    matchesFrom count skip pos (l ++ l') =
      matchesFrom count skip pos l ++ matchesFrom count 0 (pos + l.length) l' := by
  fun_induction matchesFrom count skip pos l with
  | case1 skip pos =>
    obtain rfl : skip = 0 := by simpa using hskip
    rfl
  | case2 skip pos a rest ih =>
    rw [List.length_cons, Nat.add_comm rest.length, ← Nat.add_assoc] at h ⊢
    rw [List.cons_append, matchesFrom]
    exact ih (by simpa using hskip) fun f hf => h f (List.mem_cons_of_mem _ hf)
  | case3 pos rest ih =>
    rw [List.length_cons, Nat.add_comm rest.length, ← Nat.add_assoc] at h ⊢
    rw [List.cons_append, matchesFrom]
    exact ih (Nat.zero_le _) fun f hf => h f (List.mem_cons_of_mem _ hf)
  | case4 pos f rest ih =>
    rw [List.length_cons, Nat.add_comm rest.length, ← Nat.add_assoc] at h ⊢
    have hstop := h f List.mem_cons_self
    rw [List.cons_append, matchesFrom, List.cons_append]
    rw [ih (by omega) fun f hf => h f (List.mem_cons_of_mem _ hf)]

/-- What is found in a text ends within it. -/
theorem stop_le_of_mem_foundIn {text : Array Char} {f : Found} (h : some f ∈ p.foundIn text) :
    f.stop ≤ text.size := by
  obtain ⟨pos, -, hf⟩ := List.mem_map.1 h
  obtain ⟨w, g, -, -, hg, rfl⟩ := find?_sound p hf
  obtain ⟨hstop, hsize⟩ := (endsThere_atEnd text).stop_eq hg
  exact hstop ▸ hsize

/-- The matches in a text that is cut are those in front of the cut and those behind it. -/
theorem matchesIn_cut (hp : p.avoids c = true) :
    p.matchesIn (u ++ c :: v).toArray =
      p.matchesIn u.toArray ++ (p.matchesIn v.toArray).map (·.moved (u.length + 1)) := by
  have hlen : (p.foundIn u.toArray).length = u.length + 1 := by simp [foundIn]
  have hends : ∀ f, some f ∈ p.foundIn u.toArray → f.stop ≤ 0 + (p.foundIn u.toArray).length := by
    intro f hf
    have := stop_le_of_mem_foundIn hf
    rw [List.size_toArray] at this
    omega
  rw [matchesIn_eq, foundIn_cut hp, matchesFrom_append (Nat.zero_le _) hends, hlen, ← matchesIn_eq,
    Nat.add_comm 0, matchesFrom_moved, ← matchesIn_eq]

/-! ### Texts of groups -/

theorem slice_front {s : Span} (h : s.stop ≤ u.length) :
    s.slice (u ++ v).toArray = s.slice u.toArray := by
  rw [Span.slice, Span.slice, ← List.append_toArray, Array.extract_append]
  have hnone : v.toArray.extract (s.start - u.toArray.size) (s.stop - u.toArray.size) = #[] := by
    rw [Array.extract_eq_empty_iff, List.size_toArray]
    omega
  rw [hnone, Array.append_empty]

theorem slice_moved (s : Span) :
    (s.moved u.length).slice (u ++ v).toArray = s.slice v.toArray := by
  rw [Span.slice, Span.slice, ← List.append_toArray, Array.extract_append]
  simp [Span.moved]

theorem groupText_moved (m : Match) (i : Nat) :
    (m.moved u.length).groupText (u ++ v).toArray i = m.groupText v.toArray i := by
  cases i with
  | zero => exact congrArg some (slice_moved m.whole)
  | succ i =>
    simp only [Match.groupText, Match.moved, List.getElem?_map]
    rcases m.groups[i]? with - | - | s
    · rfl
    · rfl
    · exact congrArg some (slice_moved s)

theorem le_of_mem_edgesFrom {e : Edge} {q : Nat} : ∀ {w : List Symbol} {pos : Nat},
    (e, q) ∈ edgesFrom pos w → q ≤ pos + (chars w).length
  | .char _ :: w, pos, h => by
    have := le_of_mem_edgesFrom (w := w) h
    simp only [chars, List.length_cons]
    omega
  | .edge _ :: w, pos, h => by
    rcases List.mem_cons.1 h with heq | h
    · simp only [Prod.mk.injEq] at heq
      omega
    · exact le_of_mem_edgesFrom (w := w) h

/-- The groups of a match end within the text. -/
theorem stop_le_of_mem_groups {text : Array Char} {m : Match} (hm : m ∈ p.matchesIn text) {s : Span}
    (hs : some s ∈ m.groups) : s.stop ≤ text.size := by
  obtain ⟨w, -, -, hsize, hmatch, -⟩ := mem_matchesIn hm
  rw [hmatch, Match.ofFound] at hs
  obtain ⟨i, -, hi⟩ := List.mem_map.1 hs
  simp only [Found.group?, Option.bind_eq_bind, Option.bind_eq_some_iff, Option.pure_def,
    Option.some.injEq] at hi
  obtain ⟨start, -, stop, hstop, rfl⟩ := hi
  obtain ⟨l₁, l₂, hedges, -⟩ := List.lookup_eq_some_iff.1 hstop
  have hle := le_of_mem_edgesFrom (hedges ▸ List.mem_append_right l₁ List.mem_cons_self)
  simp only
  omega

theorem groupText_front {m : Match} (hm : m ∈ p.matchesIn u.toArray) (i : Nat) :
    m.groupText (u ++ v).toArray i = m.groupText u.toArray i := by
  cases i with
  | zero =>
    obtain ⟨w, -, -, hsize, hmatch, -⟩ := mem_matchesIn hm
    have hstop : m.whole.stop ≤ u.length := by
      rw [hmatch]
      simpa [Match.ofFound] using hsize
    exact congrArg some (slice_front hstop)
  | succ i =>
    simp only [Match.groupText]
    rcases hg : m.groups[i]? with - | - | s
    · rfl
    · rfl
    · have := stop_le_of_mem_groups hm (List.mem_of_getElem? hg)
      exact congrArg some (slice_front (by simpa using this))

/-- The texts of a group in a text that is cut are those in front of the cut and those behind it. -/
theorem groupTexts_cut (hp : p.avoids c = true) (i : Nat) :
    p.groupTexts i (u ++ c :: v).toArray =
      p.groupTexts i u.toArray ++ p.groupTexts i v.toArray := by
  rw [groupTexts, matchesIn_cut hp, List.filterMap_append, List.filterMap_map]
  congr 1
  · exact List.filterMap_congr fun m hm => groupText_front hm i
  · refine List.filterMap_congr fun m _ => ?_
    have := @groupText_moved (u ++ [c]) v m i
    simpa using this

end Pattern
end RouteInventory
