import RouteInventory.Pattern.Catalog
import RouteInventory.Pattern.Matches
import Mathlib.Data.List.Forall2

/-!
What a pattern reads, apart from how it is looked for. Its language is a set of marked texts:
characters with the ends of numbered groups between them. The search is sound for the language
(`find?_sound`: what is reported stands in the text and is read by the pattern) and complete
(`find?_complete`: where a text of the language stands, something is reported).
-/

namespace RouteInventory.Pattern

/-- A character of a marked text, or an end of a group between two of them. -/
inductive Symbol where
  | char (c : Char)
  | edge (e : Edge)
  deriving DecidableEq, Repr

/-- The characters of a marked text. -/
def chars : List Symbol → List Char
  | [] => []
  | .char c :: w => c :: chars w
  | .edge _ :: w => chars w

/-- The ends of groups in a marked text that stands at `pos`, each with its position. -/
def edgesFrom : Nat → List Symbol → List (Edge × Nat)
  | _, [] => []
  | pos, .char _ :: w => edgesFrom (pos + 1) w
  | pos, .edge e :: w => (e, pos) :: edgesFrom pos w

/-- A marked text is in the pattern's language; which of several readings is preferred plays no
    part. -/
def Reads : Pattern → List Symbol → Prop
  | nothing, w => w = []
  | one is, w => ∃ c, is c = true ∧ w = [.char c]
  | run is _, w => ∃ cs : List Char, (∀ c ∈ cs, is c = true) ∧ w = cs.map .char
  | seq first second, w => ∃ u v, first.Reads u ∧ second.Reads v ∧ w = u ++ v
  | alt first second, w => first.Reads w ∨ second.Reads w
  | edge e, w => w = [.edge e]

/-- The text goes on with these characters at `pos`. -/
def StandsAt (text : Array Char) (pos : Nat) (cs : List Char) : Prop := cs <+: text.toList.drop pos

/-! ### Readings of the combinators -/

theorem reads_all {ps : List Pattern} {w : List Symbol} :
    (all ps).Reads w ↔ ∃ ws, List.Forall₂ Reads ps ws ∧ w = ws.flatten := by
  induction ps generalizing w with
  | nil => simp [all, Reads]
  | cons p ps ih =>
    constructor
    · rintro ⟨u, v, hu, hv, rfl⟩
      obtain ⟨ws, hws, rfl⟩ := ih.1 hv
      exact ⟨u :: ws, .cons hu hws, rfl⟩
    · rintro ⟨ws, hws, rfl⟩
      cases hws with
      | cons hu hws => exact ⟨_, _, hu, ih.2 ⟨_, hws, rfl⟩, rfl⟩

theorem reads_any {ps : List Pattern} {w : List Symbol} :
    (any ps).Reads w ↔ ∃ p ∈ ps, p.Reads w := by
  induction ps with
  | nil => simp [any, Reads]
  | cons p ps ih =>
    cases ps with
    | nil => simp [any]
    | cons q ps => simp [any, Reads, ih]

theorem reads_group {i : Nat} {p : Pattern} {w : List Symbol} :
    (group i p).Reads w ↔
      ∃ v, p.Reads v ∧ w = .edge (.opens i) :: v ++ [.edge (.closes i)] := by
  constructor
  · rintro ⟨-, -, rfl, ⟨v, -, hv, rfl, rfl⟩, rfl⟩
    exact ⟨v, hv, rfl⟩
  · rintro ⟨v, hv, rfl⟩
    exact ⟨_, _, rfl, ⟨v, _, hv, rfl, rfl⟩, rfl⟩

theorem reads_some1 {is : Char → Bool} {w : List Symbol} :
    (some1 is).Reads w ↔ ∃ cs : List Char, cs ≠ [] ∧ (∀ c ∈ cs, is c = true) ∧ w = cs.map .char := by
  constructor
  · rintro ⟨-, -, ⟨c, hc, rfl⟩, ⟨cs, hcs, rfl⟩, rfl⟩
    exact ⟨c :: cs, by simp, List.forall_mem_cons.2 ⟨hc, hcs⟩, rfl⟩
  · rintro ⟨cs, hne, hcs, rfl⟩
    obtain ⟨c, cs, rfl⟩ := List.exists_cons_of_ne_nil hne
    obtain ⟨hc, hcs⟩ := List.forall_mem_cons.1 hcs
    exact ⟨_, _, ⟨c, hc, rfl⟩, ⟨cs, hcs, rfl⟩, rfl⟩

/-- A text written out one character after the other, each up to what its class allows. -/
theorem reads_foldr_one (is : Char → Char → Bool) (cs : List Char) {w : List Symbol} :
    (cs.foldr (fun c p => seq (one (is · c)) p) nothing).Reads w ↔
      ∃ ds, List.Forall₂ (fun d c => is d c = true) ds cs ∧ w = ds.map .char := by
  induction cs generalizing w with
  | nil => simp [Reads]
  | cons c cs ih =>
    simp only [List.foldr_cons, Reads, ih]
    constructor
    · rintro ⟨-, -, ⟨d, hd, rfl⟩, ⟨ds, hds, rfl⟩, rfl⟩
      exact ⟨d :: ds, .cons hd hds, rfl⟩
    · rintro ⟨ds, hds, rfl⟩
      cases hds with
      | cons hd hds => exact ⟨_, _, ⟨_, hd, rfl⟩, ⟨_, hds, rfl⟩, rfl⟩

theorem reads_lit {s : String} {w : List Symbol} : (lit s).Reads w ↔ w = s.toList.map .char := by
  rw [lit, reads_foldr_one (fun d c => d == c)]
  simp

theorem reads_litFold {s : String} {w : List Symbol} :
    (litFold s).Reads w ↔
      ∃ ds, List.Forall₂ (fun d c => Text.sameFold d c = true) ds s.toList ∧ w = ds.map .char :=
  reads_foldr_one Text.sameFold s.toList

variable {text : Array Char} {pos : Nat}

/-! ### Marked texts -/

@[simp] theorem chars_append (u v : List Symbol) : chars (u ++ v) = chars u ++ chars v := by
  induction u with
  | nil => rfl
  | cons a u ih => cases a <;> simp [chars, ih]

@[simp] theorem chars_map_char (cs : List Char) : chars (cs.map .char) = cs := by
  induction cs with
  | nil => rfl
  | cons c cs ih => simp [chars, ih]

@[simp] theorem edgesFrom_append (pos : Nat) (u v : List Symbol) :
    edgesFrom pos (u ++ v) = edgesFrom pos u ++ edgesFrom (pos + (chars u).length) v := by
  induction u generalizing pos with
  | nil => rfl
  | cons a u ih =>
    cases a with
    | char c => simp [chars, edgesFrom, ih, Nat.add_assoc, Nat.add_comm 1]
    | edge e => simp [chars, edgesFrom, ih]

@[simp] theorem edgesFrom_map_char (pos : Nat) (cs : List Char) :
    edgesFrom pos (cs.map .char) = [] := by
  induction cs generalizing pos with
  | nil => rfl
  | cons c cs ih => simpa [edgesFrom] using ih (pos + 1)

/-! ### Places in a text -/

@[simp] theorem standsAt_nil : StandsAt text pos [] := List.nil_prefix

theorem standsAt_cons {c : Char} {cs : List Char} :
    StandsAt text pos (c :: cs) ↔ text[pos]? = some c ∧ StandsAt text (pos + 1) cs := by
  unfold StandsAt
  by_cases h : pos < text.size
  · rw [List.drop_eq_getElem_cons (by simpa using h), List.cons_prefix_cons]
    simp [h, eq_comm]
  · rw [List.drop_of_length_le (by simpa using h)]
    simp [h]

theorem standsAt_append {a b : List Char} :
    StandsAt text pos (a ++ b) ↔ StandsAt text pos a ∧ StandsAt text (pos + a.length) b := by
  induction a generalizing pos with
  | nil => simp
  | cons c a ih =>
    simp only [List.cons_append, standsAt_cons, ih, List.length_cons, and_assoc]
    rw [show pos + 1 + a.length = pos + (a.length + 1) by omega]

/-- Of two texts that stand at one place the shorter is the beginning of the longer. -/
theorem StandsAt.prefix_or {a b : List Char} (ha : StandsAt text pos a) (hb : StandsAt text pos b) :
    a <+: b ∨ b <+: a :=
  List.prefix_or_prefix_of_prefix ha hb

/-- What stands in a text ends within it. -/
theorem StandsAt.le_size {cs : List Char} (h : StandsAt text pos cs) (hpos : pos ≤ text.size) :
    pos + cs.length ≤ text.size := by
  have := h.length_le
  simp only [List.length_drop, Array.length_toList] at this
  omega

/-- What stands at a place is the stretch of its length there. -/
theorem standsAt_iff_slice {cs : List Char} :
    StandsAt text pos cs ↔ (Span.mk pos (pos + cs.length)).slice text = cs := by
  rw [StandsAt, List.prefix_iff_eq_take, Span.slice, Array.toList_extract, List.extract_eq_take_drop]
  simp [eq_comm]

/-! ### Runs -/

/-- Characters of a class that stand at a place. -/
def RunAt (text : Array Char) (is : Char → Bool) (pos : Nat) (cs : List Char) : Prop :=
  (∀ c ∈ cs, is c = true) ∧ StandsAt text pos cs

variable {is : Char → Bool} {longest : Bool} {k : Nat → Option Found}

theorem runAt_nil : RunAt text is pos [] := ⟨by simp, standsAt_nil⟩

theorem runAt_cons {c : Char} {cs : List Char} :
    RunAt text is pos (c :: cs) ↔ is c = true ∧ text[pos]? = some c ∧ RunAt text is (pos + 1) cs := by
  simp only [RunAt, List.forall_mem_cons, standsAt_cons]
  exact ⟨fun ⟨⟨hc, hcs⟩, hpos, hrest⟩ => ⟨hc, hpos, hcs, hrest⟩,
    fun ⟨hc, hpos, hcs, hrest⟩ => ⟨⟨hc, hcs⟩, hpos, hrest⟩⟩

/-- Behind the text there are only empty runs. -/
theorem RunAt.eq_nil {cs : List Char} (h : RunAt text is pos cs) (hpos : ¬ pos < text.size) :
    cs = [] := by
  cases cs with
  | nil => rfl
  | cons c cs => simp [runAt_cons, hpos] at h

theorem preferred_eq_none {more done : Option Found} :
    preferred longest more done = none ↔ more = none ∧ done = none := by
  cases longest <;> simp [preferred, and_comm]

/-- Nothing is found for a run only if its rest follows after none of its lengths. -/
theorem findRun_eq_none (h : findRun text is longest k pos = none) {cs : List Char}
    (hcs : RunAt text is pos cs) : k (pos + cs.length) = none := by
  fun_induction findRun text is longest k pos generalizing cs with
  | case1 pos hpos ih =>
    obtain ⟨hmore, hdone⟩ := preferred_eq_none.1 h
    cases cs with
    | nil => exact hdone
    | cons c cs =>
      obtain ⟨hc, hget, hrest⟩ := runAt_cons.1 hcs
      obtain rfl : text[pos] = c := by simpa [hpos] using hget
      rw [if_pos hc] at hmore
      rw [List.length_cons, Nat.add_comm cs.length, ← Nat.add_assoc]
      exact ih hmore hrest
  | case2 pos hpos =>
    rw [hcs.eq_nil hpos]
    exact h

/-- What is found for a run that prefers to be long: its rest follows after one of its lengths, and
    after no greater one. -/
theorem findRun_longest {f : Found} (h : findRun text is true k pos = some f) :
    ∃ cs, RunAt text is pos cs ∧ k (pos + cs.length) = some f ∧
      ∀ other, RunAt text is pos other → cs.length < other.length →
        k (pos + other.length) = none := by
  fun_induction findRun text is true k pos with
  | case1 pos hpos ih =>
    rw [preferred, if_pos rfl, Option.or_eq_some_iff] at h
    rcases h with hmore | ⟨hnone, hdone⟩
    · -- the run goes on for as long as it does after its first character
      obtain ⟨hc, hmore⟩ := Option.ite_none_right_eq_some.1 hmore
      obtain ⟨cs, hcs, hk, hother⟩ := ih hmore
      refine ⟨text[pos] :: cs, runAt_cons.2 ⟨hc, by simp [hpos], hcs⟩, ?_, ?_⟩
      · rw [List.length_cons, Nat.add_comm cs.length, ← Nat.add_assoc, hk]
      · intro other hrun hlt
        cases other with
        | nil => simp at hlt
        | cons c other =>
          rw [List.length_cons, Nat.add_comm other.length, ← Nat.add_assoc]
          exact hother other (runAt_cons.1 hrun).2.2 (by simpa using hlt)
    · -- nothing follows a longer run, so it ends here
      refine ⟨[], runAt_nil, hdone, ?_⟩
      intro other hrun hlt
      cases other with
      | nil => simp at hlt
      | cons c other =>
        obtain ⟨hc, hget, hrest⟩ := runAt_cons.1 hrun
        obtain rfl : text[pos] = c := by simpa [hpos] using hget
        rw [if_pos hc] at hnone
        rw [List.length_cons, Nat.add_comm other.length, ← Nat.add_assoc]
        exact findRun_eq_none hnone hrest
  | case2 pos hpos =>
    refine ⟨[], runAt_nil, h, ?_⟩
    intro other hrun hlt
    simp [hrun.eq_nil hpos] at hlt

/-- What is found for a run that prefers to be short: its rest follows after one of its lengths, and
    after no smaller one. -/
theorem findRun_shortest {f : Found} (h : findRun text is false k pos = some f) :
    ∃ cs, RunAt text is pos cs ∧ k (pos + cs.length) = some f ∧
      ∀ other, RunAt text is pos other → other.length < cs.length →
        k (pos + other.length) = none := by
  fun_induction findRun text is false k pos with
  | case1 pos hpos ih =>
    rw [preferred, if_neg (by simp), Option.or_eq_some_iff] at h
    rcases h with hdone | ⟨hnone, hmore⟩
    · exact ⟨[], runAt_nil, hdone, by simp⟩
    · obtain ⟨hc, hmore⟩ := Option.ite_none_right_eq_some.1 hmore
      obtain ⟨cs, hcs, hk, hother⟩ := ih hmore
      refine ⟨text[pos] :: cs, runAt_cons.2 ⟨hc, by simp [hpos], hcs⟩, ?_, ?_⟩
      · rw [List.length_cons, Nat.add_comm cs.length, ← Nat.add_assoc, hk]
      · intro other hrun hlt
        cases other with
        | nil => exact hnone
        | cons c other =>
          rw [List.length_cons, Nat.add_comm other.length, ← Nat.add_assoc]
          exact hother other (runAt_cons.1 hrun).2.2 (by simpa using hlt)
  | case2 pos hpos => exact ⟨[], runAt_nil, h, by simp⟩

/-! ### The search and the language -/

/-- What is found stands in the text and is read by the pattern, and the rest follows after it. -/
theorem find?_sound (p : Pattern) {f : Found} (h : p.find? text k pos = some f) :
    ∃ w g, p.Reads w ∧ StandsAt text pos (chars w) ∧ k (pos + (chars w).length) = some g ∧
      f = ⟨g.stop, edgesFrom pos w ++ g.edges⟩ := by
  induction p generalizing k pos f with
  | nothing => exact ⟨[], f, rfl, standsAt_nil, h, rfl⟩
  | one is =>
    simp only [find?] at h
    split at h
    · next c hget =>
      obtain ⟨hc, hk⟩ := Option.ite_none_right_eq_some.1 h
      exact ⟨[.char c], f, ⟨c, hc, rfl⟩, standsAt_cons.2 ⟨hget, standsAt_nil⟩, hk, rfl⟩
    · simp at h
  | run is longest =>
    have hrun : ∃ cs, RunAt text is pos cs ∧ k (pos + cs.length) = some f := by
      cases longest with
      | true => exact (findRun_longest h).imp fun cs hcs => ⟨hcs.1, hcs.2.1⟩
      | false => exact (findRun_shortest h).imp fun cs hcs => ⟨hcs.1, hcs.2.1⟩
    obtain ⟨cs, ⟨hcs, hstands⟩, hk⟩ := hrun
    exact ⟨cs.map .char, f, ⟨cs, hcs, rfl⟩, by simpa using hstands, by simpa using hk, by simp⟩
  | seq first second ih₁ ih₂ =>
    obtain ⟨u, g, hu, hstands, hg, rfl⟩ := ih₁ h
    obtain ⟨v, g', hv, hstands', hg', rfl⟩ := ih₂ hg
    refine ⟨u ++ v, g', ⟨u, v, hu, hv, rfl⟩, ?_, ?_, by simp⟩
    · rw [chars_append]
      exact standsAt_append.2 ⟨hstands, hstands'⟩
    · rwa [chars_append, List.length_append, ← Nat.add_assoc]
  | alt first second ih₁ ih₂ =>
    rcases Option.or_eq_some_iff.1 h with h | ⟨-, h⟩
    · obtain ⟨w, g, hw, hrest⟩ := ih₁ h
      exact ⟨w, g, .inl hw, hrest⟩
    · obtain ⟨w, g, hw, hrest⟩ := ih₂ h
      exact ⟨w, g, .inr hw, hrest⟩
  | edge e =>
    obtain ⟨g, hg, rfl⟩ := Option.map_eq_some_iff.1 h
    exact ⟨[.edge e], g, rfl, standsAt_nil, hg, rfl⟩

/-- Where a text of the language stands and the rest follows after it, something is found. -/
theorem find?_complete (p : Pattern) {w : List Symbol} (hw : p.Reads w)
    (hstands : StandsAt text pos (chars w)) (hk : k (pos + (chars w).length) ≠ none) :
    p.find? text k pos ≠ none := by
  induction p generalizing k pos w with
  | nothing =>
    obtain rfl := hw
    exact hk
  | one is =>
    obtain ⟨c, hc, rfl⟩ := hw
    obtain ⟨hget, -⟩ := standsAt_cons.1 hstands
    simpa [find?, chars, hget, hc] using hk
  | run is longest =>
    obtain ⟨cs, hcs, rfl⟩ := hw
    rw [chars_map_char] at hstands hk
    exact fun hnone => hk (findRun_eq_none hnone ⟨hcs, hstands⟩)
  | seq first second ih₁ ih₂ =>
    obtain ⟨u, v, hu, hv, rfl⟩ := hw
    rw [chars_append] at hstands hk
    obtain ⟨hstands₁, hstands₂⟩ := standsAt_append.1 hstands
    rw [List.length_append, ← Nat.add_assoc] at hk
    exact ih₁ hu hstands₁ (ih₂ hv hstands₂ hk)
  | alt first second ih₁ ih₂ =>
    intro hnone
    obtain ⟨hnone₁, hnone₂⟩ := Option.or_eq_none_iff.1 hnone
    rcases hw with hw | hw
    · exact ih₁ hw hstands hk hnone₁
    · exact ih₂ hw hstands hk hnone₂
  | edge e =>
    obtain rfl := hw
    simpa [find?, chars] using hk

end RouteInventory.Pattern
