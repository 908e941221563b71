import RouteInventory.Proofs.Pattern.Language

/-!
How far a match goes. In most patterns the place where a match begins settles where it ends, because
no text of the language begins another one (`IsCode`). A pattern that ends in a run takes the
longest text of its language, and one whose run prefers to be short takes the shortest (`Extreme`).
-/

namespace RouteInventory.Pattern

/-- The pattern reads these characters, whatever the groups. -/
def Spells (p : Pattern) (cs : List Char) : Prop := ∃ w, p.Reads w ∧ chars w = cs

/-! ### Where the beginning settles the end -/

/-- No text of the language is a proper beginning of another. -/
def IsCode (p : Pattern) : Prop := ∀ a b, p.Spells a → p.Spells b → a <+: b → a = b

/-- Texts of such a language that stand at one place are the same. -/
theorem IsCode.eq_of_standsAt {p : Pattern} (hp : p.IsCode) {text : Array Char} {pos : Nat}
    {a b : List Char} (ha : p.Spells a) (hb : p.Spells b) (hat : StandsAt text pos a)
    (hbt : StandsAt text pos b) : a = b := by
  rcases hat.prefix_or hbt with h | h
  · exact hp a b ha hb h
  · exact (hp b a hb ha h).symm

theorem spells_seq {p q : Pattern} {cs : List Char} :
    (seq p q).Spells cs ↔ ∃ a b, p.Spells a ∧ q.Spells b ∧ cs = a ++ b := by
  constructor
  · rintro ⟨-, ⟨u, v, hu, hv, rfl⟩, rfl⟩
    exact ⟨_, _, ⟨u, hu, rfl⟩, ⟨v, hv, rfl⟩, chars_append u v⟩
  · rintro ⟨-, -, ⟨u, hu, rfl⟩, ⟨v, hv, rfl⟩, rfl⟩
    exact ⟨u ++ v, ⟨u, v, hu, hv, rfl⟩, chars_append u v⟩

theorem spells_all_cons {p : Pattern} {ps : List Pattern} {cs : List Char} :
    (all (p :: ps)).Spells cs ↔ ∃ a b, p.Spells a ∧ (all ps).Spells b ∧ cs = a ++ b := spells_seq

theorem spells_nothing {cs : List Char} : nothing.Spells cs ↔ cs = [] := by
  simp [Spells, Reads, chars, eq_comm]

theorem spells_one {is : Char → Bool} {cs : List Char} :
    (one is).Spells cs ↔ ∃ c, is c = true ∧ cs = [c] := by
  constructor
  · rintro ⟨-, ⟨c, hc, rfl⟩, rfl⟩
    exact ⟨c, hc, rfl⟩
  · rintro ⟨c, hc, rfl⟩
    exact ⟨_, ⟨c, hc, rfl⟩, rfl⟩

theorem spells_run {is : Char → Bool} {longest : Bool} {cs : List Char} :
    (run is longest).Spells cs ↔ ∀ c ∈ cs, is c = true := by
  constructor
  · rintro ⟨-, ⟨ds, hds, rfl⟩, rfl⟩
    rwa [chars_map_char]
  · intro hcs
    exact ⟨_, ⟨cs, hcs, rfl⟩, chars_map_char cs⟩

theorem spells_some1 {is : Char → Bool} {cs : List Char} :
    (some1 is).Spells cs ↔ cs ≠ [] ∧ ∀ c ∈ cs, is c = true := by
  constructor
  · rintro ⟨w, hw, rfl⟩
    obtain ⟨ds, hne, hds, rfl⟩ := reads_some1.1 hw
    rw [chars_map_char]
    exact ⟨hne, hds⟩
  · rintro ⟨hne, hcs⟩
    exact ⟨_, reads_some1.2 ⟨cs, hne, hcs, rfl⟩, chars_map_char cs⟩

theorem spells_lit {s : String} {cs : List Char} : (lit s).Spells cs ↔ cs = s.toList := by
  simp [Spells, reads_lit, eq_comm]

theorem spells_litFold {s : String} {cs : List Char} :
    (litFold s).Spells cs ↔ List.Forall₂ (fun d c => Text.sameFold d c = true) cs s.toList := by
  constructor
  · rintro ⟨w, hw, rfl⟩
    obtain ⟨ds, hds, rfl⟩ := reads_litFold.1 hw
    rwa [chars_map_char]
  · intro h
    exact ⟨_, reads_litFold.2 ⟨cs, h, rfl⟩, chars_map_char cs⟩

/-- A group reads the same characters as its body. -/
theorem spells_group {i : Nat} {p : Pattern} {cs : List Char} :
    (group i p).Spells cs ↔ p.Spells cs := by
  constructor
  · rintro ⟨w, hw, rfl⟩
    obtain ⟨v, hv, rfl⟩ := reads_group.1 hw
    exact ⟨v, hv, by simp [chars]⟩
  · rintro ⟨v, hv, rfl⟩
    exact ⟨_, reads_group.2 ⟨v, hv, rfl⟩, by simp [chars]⟩

theorem spells_any {ps : List Pattern} {cs : List Char} :
    (any ps).Spells cs ↔ ∃ p ∈ ps, p.Spells cs := by
  simp only [Spells, reads_any]
  exact ⟨fun ⟨w, ⟨p, hp, hw⟩, hcs⟩ => ⟨p, hp, w, hw, hcs⟩, fun ⟨p, hp, w, hw, hcs⟩ => ⟨w, ⟨p, hp, hw⟩, hcs⟩⟩

theorem isCode_nothing : nothing.IsCode := by
  intro a b ha hb _
  rw [spells_nothing.1 ha, spells_nothing.1 hb]

theorem isCode_one (is : Char → Bool) : (one is).IsCode := by
  intro a b ha hb h
  obtain ⟨c, -, rfl⟩ := spells_one.1 ha
  obtain ⟨d, -, rfl⟩ := spells_one.1 hb
  simpa using h

theorem isCode_lit (s : String) : (lit s).IsCode := by
  intro a b ha hb _
  rw [spells_lit.1 ha, spells_lit.1 hb]

theorem IsCode.group {p : Pattern} (hp : p.IsCode) (i : Nat) : (group i p).IsCode :=
  fun a b ha hb => hp a b (spells_group.1 ha) (spells_group.1 hb)

/-- One after the other: the first parts of two texts agree, and so do the second ones. -/
theorem IsCode.seq {p q : Pattern} (hp : p.IsCode) (hq : q.IsCode) : (seq p q).IsCode := by
  intro a b ha hb h
  obtain ⟨a₁, a₂, ha₁, ha₂, rfl⟩ := spells_seq.1 ha
  obtain ⟨b₁, b₂, hb₁, hb₂, rfl⟩ := spells_seq.1 hb
  have hfirst : a₁ = b₁ := by
    rcases List.prefix_or_prefix_of_prefix ((List.prefix_append a₁ a₂).trans h)
      (List.prefix_append b₁ b₂) with h' | h'
    · exact hp _ _ ha₁ hb₁ h'
    · exact (hp _ _ hb₁ ha₁ h').symm
  subst hfirst
  rw [hq _ _ ha₂ hb₂ ((List.prefix_append_right_inj a₁).1 h)]

/-- Characters of a class and then one that is not of it: the place of the latter is settled. -/
theorem append_prefix_append {is : Char → Bool} : ∀ {x₁ x₂ r₁ r₂ : List Char} {c₁ c₂ : Char},
    (∀ c ∈ x₁, is c = true) → (∀ c ∈ x₂, is c = true) → is c₁ = false → is c₂ = false →
    x₁ ++ c₁ :: r₁ <+: x₂ ++ c₂ :: r₂ → x₁ = x₂ ∧ c₁ :: r₁ <+: c₂ :: r₂
  | [], [], _, _, _, _, _, _, _, _, h => ⟨rfl, h⟩
  | [], d :: x₂, r₁, r₂, c₁, c₂, _, hx₂, hc₁, _, h => by
    obtain ⟨rfl, -⟩ := List.cons_prefix_cons.1 h
    simp [hx₂ c₁ List.mem_cons_self] at hc₁
  | d :: x₁, [], r₁, r₂, c₁, c₂, hx₁, _, _, hc₂, h => by
    obtain ⟨rfl, -⟩ := List.cons_prefix_cons.1 h
    simp [hx₁ d List.mem_cons_self] at hc₂
  | d₁ :: x₁, d₂ :: x₂, r₁, r₂, c₁, c₂, hx₁, hx₂, hc₁, hc₂, h => by
    obtain ⟨rfl, htail⟩ := List.cons_prefix_cons.1 h
    obtain ⟨rfl, hrest⟩ := append_prefix_append (List.forall_mem_cons.1 hx₁).2
      (List.forall_mem_cons.1 hx₂).2 hc₁ hc₂ htail
    exact ⟨rfl, hrest⟩

/-- Every text of the language begins with a character that is not of the class. -/
def StartsOutside (is : Char → Bool) (p : Pattern) : Prop :=
  ∀ cs, p.Spells cs → ∃ c rest, cs = c :: rest ∧ is c = false

/-- Characters of a class in front of a text of `q` that does not begin with one of them. -/
theorem isCode_of_inside {p q : Pattern} (is : Char → Bool)
    (hp : ∀ cs, p.Spells cs → ∃ x y, (∀ c ∈ x, is c = true) ∧ q.Spells y ∧ cs = x ++ y)
    (hout : StartsOutside is q) (hq : q.IsCode) : p.IsCode := by
  intro a b ha hb h
  obtain ⟨x₁, y₁, hx₁, hy₁, rfl⟩ := hp a ha
  obtain ⟨x₂, y₂, hx₂, hy₂, rfl⟩ := hp b hb
  obtain ⟨c₁, r₁, rfl, hc₁⟩ := hout _ hy₁
  obtain ⟨c₂, r₂, rfl, hc₂⟩ := hout _ hy₂
  obtain ⟨rfl, hrest⟩ := append_prefix_append hx₁ hx₂ hc₁ hc₂ h
  rw [hq _ _ hy₁ hy₂ hrest]

/-- A part that holds only characters of a class, in front of one that begins outside of it. -/
theorem isCode_seq {p q : Pattern} (is : Char → Bool)
    (hp : ∀ cs, p.Spells cs → ∀ c ∈ cs, is c = true) (hout : StartsOutside is q) (hq : q.IsCode) :
    (Pattern.seq p q).IsCode := by
  refine isCode_of_inside is ?_ hout hq
  intro cs hcs
  obtain ⟨a, b, ha, hb, rfl⟩ := spells_seq.1 hcs
  exact ⟨a, b, hp a ha, hb, rfl⟩

theorem startsOutside_one {is other : Char → Bool} {q : Pattern}
    (h : ∀ c, other c = true → is c = false) : StartsOutside is (Pattern.seq (one other) q) := by
  intro cs hcs
  obtain ⟨a, b, ha, -, rfl⟩ := spells_seq.1 hcs
  obtain ⟨c, hc, rfl⟩ := spells_one.1 ha
  exact ⟨c, b, rfl, h c hc⟩

theorem startsOutside_lit {is : Char → Bool} {q : Pattern} {s : String} {c : Char}
    {rest : List Char} (hs : s.toList = c :: rest) (hc : is c = false) :
    StartsOutside is (Pattern.seq (lit s) q) := by
  intro cs hcs
  obtain ⟨a, b, ha, -, rfl⟩ := spells_seq.1 hcs
  exact ⟨c, rest ++ b, by rw [spells_lit.1 ha, hs]; rfl, hc⟩

/-- Names of which none begins another, up to case. -/
theorem isCode_any_litFold {names : List String}
    (h : ∀ a ∈ names, ∀ b ∈ names,
      a.toList.map Text.fold <+: b.toList.map Text.fold → a.toList = b.toList) :
    (any (names.map litFold)).IsCode := by
  have hfold : ∀ {name : String} {cs : List Char}, (litFold name).Spells cs →
      cs.map Text.fold = name.toList.map Text.fold := by
    intro name cs hcs
    have := List.forall₂_map_left_iff.2 (List.forall₂_map_right_iff.2
      ((spells_litFold.1 hcs).imp fun d c hdc => (by simpa [Text.sameFold] using hdc :
        Text.fold d = Text.fold c)))
    exact List.forall₂_eq_eq_eq ▸ this
  intro a b ha hb hab
  obtain ⟨p, hp, ha⟩ := spells_any.1 ha
  obtain ⟨q, hq, hb⟩ := spells_any.1 hb
  obtain ⟨m, hm, rfl⟩ := List.mem_map.1 hp
  obtain ⟨n, hn, rfl⟩ := List.mem_map.1 hq
  have hname : m.toList = n.toList :=
    h m hm n hn (by rw [← hfold ha, ← hfold hb]; exact hab.map Text.fold)
  apply hab.eq_of_length
  rw [(spells_litFold.1 ha).length_eq, (spells_litFold.1 hb).length_eq, hname]

/-! ### Longest and shortest matches -/

/-- What follows the pattern takes no characters and is never missing within the text. -/
def EndsThere (text : Array Char) (k : Nat → Option Found) : Prop :=
  ∀ pos, (k pos).map (·.stop) = if pos ≤ text.size then some pos else none

/-- At the end of a match, what is found is as far away as any text of the language goes; `far` says
    in which direction. -/
def Extreme (far : Nat → Nat → Prop) (p : Pattern) : Prop :=
  ∀ (text : Array Char) (k : Nat → Option Found), EndsThere text k → ∀ (pos : Nat) (f : Found)
    (cs : List Char), p.find? text k pos = some f → p.Spells cs → StandsAt text pos cs →
    far (pos + cs.length) f.stop

variable {far : Nat → Nat → Prop}

theorem EndsThere.stop_eq {text : Array Char} {k : Nat → Option Found} (hk : EndsThere text k)
    {pos : Nat} {f : Found} (h : k pos = some f) : f.stop = pos ∧ pos ≤ text.size := by
  have := hk pos
  rw [h, Option.map_some] at this
  split at this
  · next hpos => exact ⟨Option.some.inj this, hpos⟩
  · simp at this

theorem EndsThere.ne_none {text : Array Char} {k : Nat → Option Found} (hk : EndsThere text k)
    {pos : Nat} (hpos : pos ≤ text.size) : k pos ≠ none := by
  intro h
  have := hk pos
  rw [h, if_pos hpos] at this
  simp at this

theorem EndsThere.edge {text : Array Char} {k : Nat → Option Found} (hk : EndsThere text k)
    (e : Edge) : EndsThere text ((Pattern.edge e).find? text k) := by
  intro pos
  rw [← hk pos, find?, Option.map_map]
  rfl

theorem IsCode.extreme {p : Pattern} (hp : p.IsCode) (hfar : ∀ n, far n n) : Extreme far p := by
  intro text k hk pos f cs hf hcs hstands
  obtain ⟨w, g, hw, hwstands, hg, rfl⟩ := find?_sound p hf
  rw [hp.eq_of_standsAt hcs ⟨w, hw, rfl⟩ hstands hwstands, (hk.stop_eq hg).1]
  exact hfar _

theorem Extreme.seq {p q : Pattern} (hp : p.IsCode) (hq : Extreme far q) :
    Extreme far (seq p q) := by
  intro text k hk pos f cs hf hcs hstands
  obtain ⟨a, b, ha, hb, rfl⟩ := spells_seq.1 hcs
  obtain ⟨hastands, hbstands⟩ := standsAt_append.1 hstands
  obtain ⟨w, g, hw, hwstands, hg, rfl⟩ := find?_sound p hf
  obtain rfl : a = chars w := hp.eq_of_standsAt ha ⟨w, hw, rfl⟩ hastands hwstands
  rw [List.length_append, ← Nat.add_assoc]
  exact hq text k hk _ g b hg hb hbstands

/-- The end of a group changes nothing. -/
theorem Extreme.seq_edge {p : Pattern} (hp : Extreme far p) (e : Edge) :
    Extreme far (Pattern.seq p (.edge e)) := by
  intro text k hk pos f cs hf hcs hstands
  refine hp text _ (hk.edge e) pos f cs hf ?_ hstands
  obtain ⟨a, b, ha, hb, rfl⟩ := spells_seq.1 hcs
  obtain ⟨w, rfl, rfl⟩ := hb
  simpa [chars] using ha

theorem Extreme.group {p : Pattern} (hp : Extreme far p) (i : Nat) : Extreme far (group i p) := by
  refine .seq ?_ (hp.seq_edge _)
  rintro a b ⟨w, rfl, rfl⟩ ⟨v, rfl, rfl⟩ _
  rfl

theorem Extreme.all_singleton {p : Pattern} (hp : Extreme far p) : Extreme far (all [p]) := by
  intro text k hk pos f cs hf hcs hstands
  refine hp text k hk pos f cs hf ?_ hstands
  obtain ⟨a, b, ha, hb, rfl⟩ := spells_all_cons.1 hcs
  rw [spells_nothing.1 hb, List.append_nil]
  exact ha

/-- Choices of which at most one is there. -/
theorem Extreme.alt {p q : Pattern} (hp : Extreme far p) (hq : Extreme far q)
    (hpq : ∀ a b, p.Spells a → q.Spells b → ¬ (a <+: b ∨ b <+: a)) : Extreme far (alt p q) := by
  intro text k hk pos f cs hf hcs hstands
  obtain ⟨v, hv | hv, rfl⟩ := hcs
  · rcases Option.or_eq_some_iff.1 hf with hf | ⟨-, hf⟩
    · exact hp text k hk pos f _ hf ⟨v, hv, rfl⟩ hstands
    · obtain ⟨w, g, hw, hwstands, -⟩ := find?_sound q hf
      exact absurd (hstands.prefix_or hwstands) (hpq _ _ ⟨v, hv, rfl⟩ ⟨w, hw, rfl⟩)
  · rcases Option.or_eq_some_iff.1 hf with hf | ⟨-, hf⟩
    · obtain ⟨w, g, hw, hwstands, -⟩ := find?_sound p hf
      exact absurd (hwstands.prefix_or hstands) (hpq _ _ ⟨w, hw, rfl⟩ ⟨v, hv, rfl⟩)
    · exact hq text k hk pos f _ hf ⟨v, hv, rfl⟩ hstands

/-- A run at the end is taken as far as it goes. -/
theorem extreme_run (is : Char → Bool) : Extreme (· ≤ ·) (run is true) := by
  intro text k hk pos f cs hf hcs hstands
  obtain ⟨ds, hds, hend, hlonger⟩ := findRun_longest hf
  obtain ⟨hstop, hsize⟩ := hk.stop_eq hend
  rw [hstop]
  by_contra hlt
  exact hk.ne_none (hstands.le_size (by omega))
    (hlonger cs ⟨spells_run.1 hcs, hstands⟩ (by omega))

theorem extreme_some1 (is : Char → Bool) : Extreme (· ≤ ·) (some1 is) :=
  .seq (isCode_one is) (extreme_run is)

/-- A run that prefers to be short ends where what follows it stands for the first time, if that
    always has the same length. -/
theorem extreme_shortRun (is : Char → Bool) (i : Nat) {q : Pattern} {n : Nat}
    (hq : ∀ cs, q.Spells cs → cs.length = n) :
    Extreme (· ≥ ·) (Pattern.seq (group i (run is false)) q) := by
  intro text k hk pos f cs hf hcs hstands
  obtain ⟨a, b, ha, hb, rfl⟩ := spells_seq.1 hcs
  obtain ⟨hastands, hbstands⟩ := standsAt_append.1 hstands
  -- what is found for the run itself, with the end of its group and `q` after it
  obtain ⟨g, hg, rfl⟩ := Option.map_eq_some_iff.1 hf
  obtain ⟨ds, hds, hrest, hshorter⟩ := findRun_shortest hg
  obtain ⟨g', hg', rfl⟩ := Option.map_eq_some_iff.1 hrest
  obtain ⟨w, e, hw, -, he, rfl⟩ := find?_sound q hg'
  obtain ⟨hstop, hsize⟩ := hk.stop_eq he
  have hbn := hq b hb
  have hwn := hq _ ⟨w, hw, rfl⟩
  simp only [Found.after, hstop, List.length_append]
  by_contra hlt
  have hnone := hshorter a ⟨spells_run.1 (spells_group.1 ha), hastands⟩ (by omega)
  obtain ⟨v, hv, rfl⟩ := hb
  exact find?_complete q hv hbstands (hk.ne_none (by omega)) (Option.map_eq_none_iff.1 hnone)

end RouteInventory.Pattern
