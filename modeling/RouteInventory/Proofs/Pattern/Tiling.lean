import RouteInventory.Proofs.Pattern.Extent

/-!
The matches of a pattern in a text, read off from what is found at each position. If the pattern
reads no empty text, its matches follow each other without overlap (`pairwise_matchesIn`), each
stands in the text and is read by the pattern (`mem_matchesIn`), and every place where a text of the
language stands lies in a match that does not begin behind it (`covered_matchesIn`).
-/

namespace RouteInventory.Pattern

variable {count skip pos : Nat} {l : List (Option Found)}

/-! ### One pass over what is found -/

/-- A match is what is found at some position that was not skipped. -/
theorem mem_matchesFrom {m : Match} (h : m ∈ matchesFrom count skip pos l) :
    ∃ i f, skip ≤ i ∧ l[i]? = some (some f) ∧ m = .ofFound count (pos + i) f := by
  fun_induction matchesFrom count skip pos l with
  | case1 => simp at h
  | case2 skip pos _ rest ih =>
    obtain ⟨i, f, hi, hget, rfl⟩ := ih h
    exact ⟨i + 1, f, by omega, hget, by rw [Nat.add_assoc, Nat.add_comm 1]⟩
  | case3 pos rest ih =>
    obtain ⟨i, f, -, hget, rfl⟩ := ih h
    exact ⟨i + 1, f, by omega, hget, by rw [Nat.add_assoc, Nat.add_comm 1]⟩
  | case4 pos f rest ih =>
    rcases List.mem_cons.1 h with rfl | h
    · exact ⟨0, f, by omega, rfl, rfl⟩
    · obtain ⟨i, g, -, hget, rfl⟩ := ih h
      exact ⟨i + 1, g, by omega, hget, by rw [Nat.add_assoc, Nat.add_comm 1]⟩

/-- Nothing empty is found. -/
def NeverEmpty (pos : Nat) (l : List (Option Found)) : Prop :=
  ∀ i f, l[i]? = some (some f) → pos + i < f.stop

theorem NeverEmpty.tail {a : Option Found} (h : NeverEmpty pos (a :: l)) :
    NeverEmpty (pos + 1) l := by
  intro i f hget
  have := h (i + 1) f hget
  omega

/-- A match ends before the next one begins. -/
theorem pairwise_matchesFrom (h : NeverEmpty pos l) :
    (matchesFrom count skip pos l).Pairwise fun a b => a.whole.stop ≤ b.whole.start := by
  fun_induction matchesFrom count skip pos l with
  | case1 => exact .nil
  | case2 skip pos _ rest ih => exact ih h.tail
  | case3 pos rest ih => exact ih h.tail
  | case4 pos f rest ih =>
    refine List.pairwise_cons.2 ⟨fun m hm => ?_, ih h.tail⟩
    obtain ⟨i, g, hi, -, rfl⟩ := mem_matchesFrom hm
    simp only [Match.ofFound]
    omega

/-- What is found at a position that is not skipped lies in a match from there or from before. -/
theorem covered_matchesFrom (h : NeverEmpty pos l) {i : Nat} {f : Found} (hi : skip ≤ i)
    (hget : l[i]? = some (some f)) : ∃ m ∈ matchesFrom count skip pos l,
      m.whole.start ≤ pos + i ∧ pos + i < m.whole.stop := by
  fun_induction matchesFrom count skip pos l generalizing i with
  | case1 => simp at hget
  | case2 skip pos a rest ih =>
    obtain ⟨i, rfl⟩ : ∃ j, i = j + 1 := ⟨i - 1, by omega⟩
    obtain ⟨m, hm, hstart, hstop⟩ := ih h.tail (by omega) hget
    exact ⟨m, hm, by omega, by omega⟩
  | case3 pos rest ih =>
    cases i with
    | zero => simp at hget
    | succ i =>
      obtain ⟨m, hm, hstart, hstop⟩ := ih h.tail (by omega) hget
      exact ⟨m, hm, by omega, by omega⟩
  | case4 pos g rest ih =>
    by_cases hin : pos + i < g.stop
    · exact ⟨_, List.mem_cons_self, by simp [Match.ofFound], hin⟩
    · -- behind the match that begins here, so not skipped in the rest
      have := h 0 g rfl
      obtain ⟨i, rfl⟩ : ∃ j, i = j + 1 := ⟨i - 1, by omega⟩
      obtain ⟨m, hm, hstart, hstop⟩ := ih h.tail (by omega) hget
      exact ⟨m, List.mem_cons_of_mem _ hm, by omega, by omega⟩

/-! ### The matches in a text -/

variable {p : Pattern} {text : Array Char}

/-- Nothing follows a match. -/
def atEnd (text : Array Char) (pos : Nat) : Option Found :=
  if pos ≤ text.size then some ⟨pos, []⟩ else none

theorem endsThere_atEnd (text : Array Char) : EndsThere text (atEnd text) := by
  intro pos
  unfold atEnd
  split <;> rfl

theorem getElem?_table {i : Nat} {f : Found} :
    (p.table text (ends text)).toList[i]? = some (some f) ↔ p.find? text (atEnd text) i = some f := by
  have : (p.table text (ends text)).at i = p.find? text (atEnd text) i :=
    congrFun (at_table_ends p text) i
  rw [← this, Table.at, Array.getElem?_toList, Option.join_eq_some_iff]

/-- What is found from the front of a text on, if the pattern reads no empty text. -/
theorem neverEmpty_table (hp : ∀ cs, p.Spells cs → cs ≠ []) :
    NeverEmpty 0 (p.table text (ends text)).toList := by
  intro i f hget
  obtain ⟨w, g, hw, -, hg, rfl⟩ := find?_sound p (getElem?_table.1 hget)
  have := List.length_pos_iff.2 (hp _ ⟨w, hw, rfl⟩)
  rw [((endsThere_atEnd text).stop_eq hg).1]
  omega

theorem pairwise_matchesIn (hp : ∀ cs, p.Spells cs → cs ≠ []) :
    (p.matchesIn text).Pairwise fun a b => a.whole.stop ≤ b.whole.start :=
  pairwise_matchesFrom (neverEmpty_table hp)

/-- A match and its groups are read by the pattern where they stand, and it goes as far as any text
    of the language that stands where it begins. -/
theorem mem_matchesIn {m : Match} (h : m ∈ p.matchesIn text) :
    ∃ w, p.Reads w ∧ StandsAt text m.whole.start (chars w) ∧
      m.whole.start + (chars w).length ≤ text.size ∧
      m = .ofFound p.groupCount m.whole.start
        ⟨m.whole.start + (chars w).length, edgesFrom m.whole.start w⟩ ∧
      ∀ far cs, Extreme far p → p.Spells cs → StandsAt text m.whole.start cs →
        far (m.whole.start + cs.length) m.whole.stop := by
  obtain ⟨i, f, -, hget, rfl⟩ := mem_matchesFrom h
  rw [Nat.zero_add]
  have hf := getElem?_table.1 hget
  obtain ⟨w, g, hw, hstands, hg, rfl⟩ := find?_sound p hf
  obtain ⟨hstop, hsize⟩ := (endsThere_atEnd text).stop_eq hg
  have hg' : g = ⟨i + (chars w).length, []⟩ := by
    simpa [atEnd, hsize, eq_comm] using hg
  subst hg'
  refine ⟨w, hw, hstands, hsize, by simp [Match.ofFound], ?_⟩
  intro far cs hext hcs hat
  exact hext text _ (endsThere_atEnd text) i _ cs hf hcs hat

/-- Where a text of the language stands there is a match, from there or from before. -/
theorem covered_matchesIn (hp : ∀ cs, p.Spells cs → cs ≠ []) {cs : List Char} (hcs : p.Spells cs)
    (hstands : StandsAt text pos cs) (hsize : pos + cs.length ≤ text.size) :
    ∃ m ∈ p.matchesIn text, m.whole.start ≤ pos ∧ pos < m.whole.stop := by
  obtain ⟨w, hw, rfl⟩ := hcs
  have hne := find?_complete p hw hstands ((endsThere_atEnd text).ne_none hsize)
  obtain ⟨f, hf⟩ := Option.ne_none_iff_exists'.1 hne
  have := @covered_matchesFrom p.groupCount 0 0 _ (neverEmpty_table hp) pos f (Nat.zero_le pos)
    (getElem?_table.2 hf)
  simpa [matchesIn] using this

end RouteInventory.Pattern
