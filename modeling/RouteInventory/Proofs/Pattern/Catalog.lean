import RouteInventory.Proofs.Pattern.Grammar
import RouteInventory.Proofs.Pattern.Tiling

/-!
The matches of the patterns of the catalogue are the leftmost tiling of a text by the texts of their
grammars (`tiled_matchesIn`): they follow each other without overlap, each is a reading of the
grammar together with its groups, none is missed, and each is as long as it can be where it begins,
or for block comments as short.
-/

namespace RouteInventory.Pattern

/-! ### Where the catalogue's matches end -/

theorem isQuote_not_isUrlChar {c : Char} (h : isQuote c = true) : isUrlChar c = false := by
  simp [isUrlChar, h]

theorem isQuote_not_isNameChar {c : Char} (h : isQuote c = true) : isNameChar c = false := by
  simp only [isQuote, Bool.or_eq_true, beq_iff_eq] at h
  rcases h with (rfl | rfl) | rfl <;> decide

theorem isQuote_not_isHeaderChar {c : Char} (h : isQuote c = true) : isHeaderChar c = false := by
  simp only [isQuote, Bool.or_eq_true, beq_iff_eq] at h
  rcases h with (rfl | rfl) | rfl <;> decide

theorem isBlank_ne_brace {c : Char} (h : Text.isBlank c = true) : (c != '}') = true := by
  by_contra hc
  obtain rfl : c = '}' := by simpa using hc
  revert h
  decide

theorem only_of_spells_captured {i : Nat} {is : Char → Bool} (cs : List Char)
    (h : (group i (some1 is)).Spells cs) : ∀ c ∈ cs, is c = true :=
  (spells_some1.1 (spells_group.1 h)).2

theorem isCode_routeDeclaration : routeDeclaration.IsCode := by
  refine .seq (.group (isCode_any_litFold (by decide)) 1) <| .seq (isCode_lit _) <|
    .seq (.group ?_ 2) <| .seq (isCode_lit _) <| .seq (isCode_one _) <|
    isCode_seq (fun c => !isQuote c) only_of_spells_captured
      (startsOutside_one fun c hc => by simp [hc]) (.seq (isCode_one _) isCode_nothing)
  exact @isCode_any_litFold (Verb.every.map Verb.name) (by decide)

theorem isCode_barePathLiteral : barePathLiteral.IsCode :=
  .seq (isCode_one _) <| .seq (isCode_lit _) <|
    isCode_seq isUrlChar (fun _ h => (spells_some1.1 h).2)
      (startsOutside_one fun _ => isQuote_not_isUrlChar) (.seq (isCode_one _) isCode_nothing)

theorem isCode_headerAccess : headerAccess.IsCode :=
  .seq (isCode_lit _) <| .seq (isCode_one _) <|
    isCode_seq isHeaderChar only_of_spells_captured
      (startsOutside_one fun _ => isQuote_not_isHeaderChar)
      (.seq (isCode_one _) (.seq (isCode_lit _) isCode_nothing))

theorem isCode_quotedName : quotedName.IsCode :=
  .seq (isCode_lit _) <| .seq (isCode_one _) <|
    isCode_seq isNameChar only_of_spells_captured
      (startsOutside_one fun _ => isQuote_not_isNameChar)
      (.seq (isCode_one _) (.seq (isCode_lit _) isCode_nothing))

theorem isCode_requestPart : requestPart.IsCode := by
  have hpart : ∀ cs, requestPart.Spells cs → cs = "body".toList ∨ cs = "query".toList := by
    intro cs hcs
    simpa [requestPart, spells_any, spells_lit] using hcs
  intro a b ha hb h
  rcases hpart a ha with rfl | rfl <;> rcases hpart b hb with rfl | rfl <;> revert h <;> decide

theorem isCode_parameterDestructure : parameterDestructure.IsCode := by
  have hequals : Text.isBlank '=' = false ∧ Text.isBlank 'r' = false ∧ Text.isBlank '\x7b' = false := by
    decide
  -- behind the closing brace
  have hback : (all [lit "\x7d", blanks, lit "=", blanks, lit "req.", group 2 requestPart]).IsCode :=
    .seq (isCode_lit _) <|
      isCode_seq Text.isBlank (fun _ => spells_run.1) (startsOutside_lit rfl hequals.1) <|
      .seq (isCode_lit _) <|
      isCode_seq Text.isBlank (fun _ => spells_run.1) (startsOutside_lit rfl hequals.2.1) <|
      .seq (isCode_lit _) <| .seq (isCode_requestPart.group 2) isCode_nothing
  refine .seq (isCode_lit _) <|
    isCode_seq Text.isBlank (fun _ => spells_run.1) (startsOutside_lit rfl hequals.2.2) <|
    .seq (isCode_lit _) <|
    isCode_of_inside (· != '}') ?_ (startsOutside_lit rfl (by decide)) hback
  -- the blanks and the list between the braces
  intro cs hcs
  obtain ⟨b, _, hb, hafter, rfl⟩ := spells_seq.1 hcs
  obtain ⟨list, _, hlist, hafter', rfl⟩ := spells_seq.1 hafter
  obtain ⟨b', y, hb', hy, rfl⟩ := spells_seq.1 hafter'
  refine ⟨b ++ list ++ b', y, ?_, hy, by simp⟩
  intro c hc
  rcases List.mem_append.1 hc with hc | hc
  · rcases List.mem_append.1 hc with hc | hc
    · exact isBlank_ne_brace (spells_run.1 hb c hc)
    · exact only_of_spells_captured _ hlist c hc
  · exact isBlank_ne_brace (spells_run.1 hb' c hc)

theorem extreme_parameterAccess : Extreme (· ≤ ·) parameterAccess := by
  rw [parameterAccess_eq]
  refine .seq (isCode_lit _) <| .seq (isCode_requestPart.group 1) <| .all_singleton <| .alt
    (.seq (isCode_lit _) ((extreme_some1 _).group 2).all_singleton)
    (isCode_quotedName.extreme Nat.le_refl) ?_
  -- a point and a bracket cannot stand at the same place
  intro a b ha hb
  obtain ⟨point, name, hpoint, -, rfl⟩ := spells_all_cons.1 ha
  obtain ⟨bracket, rest, hbracket, -, rfl⟩ := spells_all_cons.1 hb
  simp [spells_lit.1 hpoint, spells_lit.1 hbracket]

/-- Whether a match of this kind is as short as it can be, and not as long. -/
def Kind.prefersShort (kind : Kind) : Bool := kind == .blockComment

/-- The direction in which a match of this kind goes as far as it can. -/
def Kind.far (kind : Kind) : Nat → Nat → Prop := if kind.prefersShort then (· ≥ ·) else (· ≤ ·)

theorem extreme_pattern (kind : Kind) : Extreme kind.far kind.pattern := by
  cases kind with
  | routeDeclaration => exact isCode_routeDeclaration.extreme Nat.le_refl
  | barePathLiteral => exact isCode_barePathLiteral.extreme Nat.le_refl
  | headerAccess => exact isCode_headerAccess.extreme Nat.le_refl
  | parameterAccess => exact extreme_parameterAccess
  | parameterDestructure => exact isCode_parameterDestructure.extreme Nat.le_refl
  | envAccess => exact .seq (isCode_lit _) ((extreme_some1 _).group 1).all_singleton
  | lineComment => exact .seq (isCode_lit _) ((extreme_run _).group 1).all_singleton
  | blockComment =>
    refine .seq (isCode_lit _) (@extreme_shortRun _ 1 _ 2 ?_)
    intro cs hcs
    obtain ⟨a, b, ha, hb, rfl⟩ := spells_all_cons.1 hcs
    rw [spells_lit.1 ha, spells_nothing.1 hb]
    rfl
  | pathParameter => exact .seq (isCode_lit _) ((extreme_some1 _).group 1).all_singleton

/-! ### Groups of a match -/

/-- How many groups a pattern has. -/
def Kind.groupCount : Kind → Nat
  | routeDeclaration | parameterAccess => 3
  | barePathLiteral => 0
  | parameterDestructure => 2
  | headerAccess | envAccess | lineComment | blockComment | pathParameter => 1

theorem groupCount_pattern (kind : Kind) : kind.pattern.groupCount = kind.groupCount := by
  cases kind <;> rfl

/-- A span of a reading lies in it and is that of a group. -/
theorem spanIn?_eq_some {index : Nat} {s : Span} : ∀ {r : List Piece} {pos : Nat},
    spanIn? index pos r = some s → pos ≤ s.start ∧ s.start ≤ s.stop ∧
      s.stop ≤ pos + (readingChars r).length ∧ ∃ cs, .captured index cs ∈ r
  | [], _, h => by simp [spanIn?] at h
  | .plain cs :: r, pos, h => by
    obtain ⟨hstart, hle, hstop, cs', hmem⟩ := spanIn?_eq_some (r := r) h
    simp only [readingChars, List.flatMap_cons, List.length_append, Piece.chars] at hstop ⊢
    exact ⟨by omega, hle, by omega, cs', List.mem_cons_of_mem _ hmem⟩
  | .captured i cs :: r, pos, h => by
    simp only [spanIn?] at h
    simp only [readingChars, List.flatMap_cons, List.length_append, Piece.chars]
    split at h
    · next hi =>
      obtain rfl := Option.some.inj h
      exact ⟨Nat.le_refl _, by simp, by simp, cs, by simp [hi]⟩
    · obtain ⟨hstart, hle, hstop, cs', hmem⟩ := spanIn?_eq_some (r := r) h
      simp only [readingChars] at hstop
      exact ⟨by omega, hle, by omega, cs', List.mem_cons_of_mem _ hmem⟩

/-- Where a reading stands in a text, its groups are the slices at their spans. -/
theorem map_slice_spanIn? {text : Array Char} {index : Nat} : ∀ {r : List Piece} {pos : Nat},
    StandsAt text pos (readingChars r) →
      (spanIn? index pos r).map (·.slice text) = groupIn? index r
  | [], _, _ => rfl
  | .plain cs :: r, pos, h => map_slice_spanIn? (r := r) (standsAt_append.1 h).2
  | .captured i cs :: r, pos, h => by
    obtain ⟨hcs, hr⟩ := standsAt_append.1 h
    simp only [spanIn?, groupIn?]
    split
    · exact congrArg some (standsAt_iff_slice.1 hcs)
    · exact map_slice_spanIn? hr

theorem lookup_cons_edge {e e' : Edge} {pos : Nat} {l : List (Edge × Nat)} :
    ((e', pos) :: l).lookup e = if e = e' then some pos else l.lookup e := by
  rw [List.lookup_cons]
  by_cases h : e = e'
  · simp [h]
  · simp [h, beq_false_of_ne h]

/-- The spans of a reading are what the search remembers. -/
theorem group?_marked (r : List Piece) (pos stop index : Nat) :
    Found.group? ⟨stop, edgesFrom pos (marked r)⟩ index = spanIn? index pos r := by
  induction r generalizing pos with
  | nil => rfl
  | cons piece r ih =>
    rw [marked, List.flatMap_cons, edgesFrom_append, chars_symbols, ← marked]
    cases piece with
    | plain cs => simpa [Piece.symbols, Piece.chars, spanIn?] using ih (pos + cs.length)
    | captured i cs =>
      have hrest := ih (pos + cs.length)
      simp only [Found.group?] at hrest
      simp only [Found.group?, Piece.symbols, Piece.chars, edgesFrom, spanIn?, List.cons_append,
        edgesFrom_append, edgesFrom_map_char, chars_map_char, List.nil_append, lookup_cons_edge]
      by_cases hi : i = index
      · simp [hi]
      · simpa [hi, Ne.symm hi] using hrest

/-- Every group of a reading is one of the pattern's. -/
theorem index_le {kind : Kind} {r : List Piece} (hr : Language kind r) {i : Nat} {cs : List Char}
    (h : .captured i cs ∈ r) : i ≤ kind.groupCount := by
  cases hr <;> simp at h <;> simp only [Kind.groupCount] <;> omega

/-- No reading is empty. -/
theorem readingChars_ne_nil {kind : Kind} {r : List Piece} (hr : Language kind r) :
    readingChars r ≠ [] := by
  cases hr <;> simp [readingChars, Piece.chars]

/-! ### The tiling -/

/-- A list of matches tiles a text by the grammar of a kind. -/
structure Tiled (kind : Kind) (text : Array Char) (ms : List Match) : Prop where
  /-- The matches follow each other from left to right, without overlap. -/
  apart : ms.Pairwise fun a b => a.whole.stop ≤ b.whole.start
  /-- A match takes characters of the text, and its groups are slices of it. -/
  inside : ∀ m ∈ ms, m.whole.start < m.whole.stop ∧ m.whole.stop ≤ text.size ∧
    ∀ i s, m.groups[i]? = some (some s) → m.whole.start ≤ s.start ∧ s.start ≤ s.stop ∧
      s.stop ≤ m.whole.stop ∧ m.groupText text (i + 1) = some (s.slice text)
  /-- A match with its groups is a reading of the grammar. -/
  read : ∀ m ∈ ms, ∃ r, Language kind r ∧ m.whole.slice text = readingChars r ∧
    m.groups = (List.range kind.groupCount).map (fun i => spanIn? (i + 1) m.whole.start r) ∧
    ∀ i, m.groupText text (i + 1) = groupIn? (i + 1) r
  /-- Every slice of the text that is in the language begins in a match. -/
  covered : ∀ (s : Span) (r : List Piece), Language kind r → s.stop ≤ text.size →
    s.slice text = readingChars r → ∃ m ∈ ms, m.whole.start ≤ s.start ∧ s.start < m.whole.stop
  /-- No slice of the language that begins where a match does is longer, or for some kinds
      shorter. -/
  extent : ∀ m ∈ ms, ∀ stop r, Language kind r → stop ≤ text.size →
    (Span.mk m.whole.start stop).slice text = readingChars r →
    if kind.prefersShort then m.whole.stop ≤ stop else stop ≤ m.whole.stop

variable {kind : Kind} {text : Array Char} {m : Match}

theorem spells_of_language {r : List Piece} (hr : Language kind r) :
    kind.pattern.Spells (readingChars r) :=
  ⟨marked r, reads_iff.2 ⟨r, hr, rfl⟩, chars_marked r⟩

theorem spells_ne_nil (cs : List Char) (h : kind.pattern.Spells cs) : cs ≠ [] := by
  obtain ⟨w, hw, rfl⟩ := h
  obtain ⟨r, hr, rfl⟩ := reads_iff.1 hw
  rw [chars_marked]
  exact readingChars_ne_nil hr

/-- A slice of the language stands where it begins. -/
theorem standsAt_of_slice {s : Span} {r : List Piece} (hr : Language kind r)
    (hsize : s.stop ≤ text.size) (h : s.slice text = readingChars r) :
    StandsAt text s.start (readingChars r) ∧ s.stop = s.start + (readingChars r).length := by
  have hlen : s.stop - s.start = (readingChars r).length := by
    rw [← h, Span.slice, Array.length_toList, Array.size_extract, Nat.min_eq_left hsize]
  have hpos := List.length_pos_iff.2 (readingChars_ne_nil hr)
  have hstop : s.stop = s.start + (readingChars r).length := by omega
  exact ⟨standsAt_iff_slice.2 (by rw [← hstop, ← h]), hstop⟩

/-- A match of the catalogue: a reading that stands at its place, with the spans of its groups. -/
theorem exists_reading (hm : m ∈ kind.pattern.matchesIn text) :
    ∃ r, Language kind r ∧ StandsAt text m.whole.start (readingChars r) ∧
      m.whole.stop = m.whole.start + (readingChars r).length ∧ m.whole.stop ≤ text.size ∧
      m.groups = (List.range kind.groupCount).map fun i => spanIn? (i + 1) m.whole.start r := by
  obtain ⟨w, hw, hstands, hsize, hmatch, -⟩ := mem_matchesIn hm
  obtain ⟨r, hr, rfl⟩ := reads_iff.1 hw
  rw [chars_marked] at hstands hsize hmatch
  have hwhole : m.whole.stop = m.whole.start + (readingChars r).length := by
    rw [hmatch, Match.ofFound]
  refine ⟨r, hr, hstands, hwhole, hwhole ▸ hsize, ?_⟩
  rw [hmatch, Match.ofFound, groupCount_pattern]
  simp only [group?_marked]

theorem groupText_eq {r : List Piece} (hr : Language kind r)
    (hstands : StandsAt text m.whole.start (readingChars r))
    (hgroups : m.groups = (List.range kind.groupCount).map fun i =>
      spanIn? (i + 1) m.whole.start r) (i : Nat) :
    m.groupText text (i + 1) = groupIn? (i + 1) r := by
  rw [← map_slice_spanIn? hstands, Match.groupText, hgroups]
  by_cases hi : i < kind.groupCount
  · simp [hi]
  · have hnone : spanIn? (i + 1) m.whole.start r = none := by
      by_contra hne
      obtain ⟨s, hs⟩ := Option.ne_none_iff_exists'.1 hne
      obtain ⟨-, -, -, cs, hmem⟩ := spanIn?_eq_some hs
      have := index_le hr hmem
      omega
    simp [hi, hnone]

/-- The matches of a pattern of the catalogue tile the text. -/
theorem tiled_matchesIn (kind : Kind) (text : Array Char) :
    Tiled kind text (kind.pattern.matchesIn text) where
  apart := pairwise_matchesIn spells_ne_nil
  inside := by
    intro m hm
    obtain ⟨r, hr, hstands, hstop, hsize, hgroups⟩ := exists_reading hm
    have hpos := List.length_pos_iff.2 (readingChars_ne_nil hr)
    refine ⟨by omega, hsize, ?_⟩
    intro i s hs
    have hspan : spanIn? (i + 1) m.whole.start r = some s := by
      rw [hgroups, List.getElem?_map] at hs
      obtain ⟨j, hj, hspan⟩ := Option.map_eq_some_iff.1 hs
      obtain ⟨hlt, rfl⟩ := List.getElem?_eq_some_iff.1 hj
      simpa using hspan
    obtain ⟨hstart, hle, hend, -⟩ := spanIn?_eq_some hspan
    refine ⟨hstart, hle, by omega, ?_⟩
    rw [groupText_eq hr hstands hgroups, ← map_slice_spanIn? hstands, hspan]
    rfl
  read := by
    intro m hm
    obtain ⟨r, hr, hstands, hstop, -, hgroups⟩ := exists_reading hm
    refine ⟨r, hr, ?_, hgroups, groupText_eq hr hstands hgroups⟩
    rw [← standsAt_iff_slice.1 hstands, ← hstop]
  covered := by
    intro s r hr hsize hslice
    obtain ⟨hstands, hstop⟩ := standsAt_of_slice hr hsize hslice
    exact covered_matchesIn spells_ne_nil (spells_of_language hr) hstands (hstop ▸ hsize)
  extent := by
    intro m hm stop r hr hsize hslice
    obtain ⟨hstands, hstop⟩ := standsAt_of_slice (s := ⟨m.whole.start, stop⟩) hr hsize hslice
    obtain ⟨-, -, -, -, -, hfar⟩ := mem_matchesIn hm
    have := hfar kind.far _ (extreme_pattern kind) (spells_of_language hr) hstands
    rw [← hstop] at this
    unfold Kind.far at this
    split <;> simp_all

end RouteInventory.Pattern
