import RouteInventory.Proofs.UrlPath.Canonical

/-!
What normal forms look like: `/`, `.` or `./`, or segments with single slashes between them, where
`..` stands only in front of the others and never below the root (`IsNormal`). Normalizing leaves
exactly these as they are and gives no others (`normalize_grammar`).
-/

namespace RouteInventory.UrlPath

open Text

variable {p : UrlPath} {s t : List Char} {absolute : Bool} {pieces : List (List Char)}

/-- Whether segments can stand in a normal form. -/
structure NormalSegments (absolute : Bool) (pieces : List (List Char)) : Prop where
  ne_nil : pieces ≠ []
  isSegment : ∀ segment ∈ pieces, IsSegment segment
  no_here : ['.'] ∉ pieces
  /-- Whatever stands before a `..` is one too. -/
  ups_first : pieces.Pairwise fun before after => after = ['.', '.'] → before = ['.', '.']
  /-- There is nothing above the root. -/
  no_up : absolute = true → ['.', '.'] ∉ pieces

/-- The grammar of normal forms. -/
inductive IsNormal : List Char → Prop where
  | root : IsNormal ['/']
  | here : IsNormal ['.']
  | hereSlashed : IsNormal ['.', '/']
  /-- segments, with a slash in front of them or not, and with one at the end or not -/
  | segments {absolute : Bool} {pieces : List (List Char)} (h : NormalSegments absolute pieces)
      (slashed : Bool) : IsNormal ((if absolute then ['/'] else []) ++ Text.join '/' pieces ++
        if slashed then ['/'] else [])

/-! ### Segments in the grammar and segments of a meaning -/

/-- Segments with only `..` before any `..` are some of these and then others. -/
theorem exists_eq_ups_append
    (h : pieces.Pairwise fun before after => after = ['.', '.'] → before = ['.', '.']) :
    ∃ climbs names, pieces = List.replicate climbs ['.', '.'] ++ names ∧ ['.', '.'] ∉ names := by
  induction pieces with
  | nil => exact ⟨0, [], rfl, List.not_mem_nil⟩
  | cons first pieces ih =>
    obtain ⟨hfirst, hrest⟩ := List.pairwise_cons.1 h
    by_cases hup : first = ['.', '.']
    · obtain ⟨climbs, names, rfl, hnames⟩ := ih hrest
      exact ⟨climbs + 1, names, by rw [hup, List.replicate_succ, List.cons_append], hnames⟩
    · -- behind a name nothing goes up
      refine ⟨0, first :: pieces, rfl, fun hmem => ?_⟩
      rcases List.mem_cons.1 hmem with heq | hmem
      · exact hup heq.symm
      · exact hup (hfirst _ hmem rfl)

/-- Segments in the grammar are those of a meaning. -/
theorem NormalSegments.exists_sound (h : NormalSegments absolute pieces) (slashed : Bool) :
    ∃ p, Sound p ∧ p.segments = pieces ∧ p.absolute = absolute ∧ p.slashed = slashed := by
  obtain ⟨climbs, names, rfl, hnames⟩ := exists_eq_ups_append h.ups_first
  refine ⟨⟨absolute, climbs, names.reverse, slashed⟩, ⟨?_, ?_⟩, ?_, rfl, rfl⟩
  · intro name hname
    have hname : name ∈ names := List.mem_reverse.1 hname
    have hpiece := List.mem_append_right (List.replicate climbs ['.', '.']) hname
    exact ⟨(h.isSegment name hpiece).1, fun heq => h.no_here (heq ▸ hpiece),
      fun heq => hnames (heq ▸ hname), (h.isSegment name hpiece).2⟩
  · intro habsolute
    by_contra hclimbs
    exact h.no_up habsolute (List.mem_append_left _ (List.mem_replicate.2 ⟨hclimbs, rfl⟩))
  · rw [UrlPath.segments, List.reverse_reverse]

/-- And the other way round. -/
theorem Sound.normalSegments (h : Sound p) (hne : p.segments ≠ []) :
    NormalSegments p.absolute p.segments := by
  have hnames : ∀ name ∈ p.names.reverse, IsName name :=
    fun name hname => h.name name (List.mem_reverse.1 hname)
  refine ⟨hne, h.isSegment, fun hhere => ?_, ?_, fun habsolute hup => ?_⟩
  · rcases mem_segments_iff.1 hhere with ⟨-, heq⟩ | hname
    · exact absurd heq (by decide)
    · exact (h.name _ hname).ne_here rfl
  · rw [UrlPath.segments, List.pairwise_append]
    refine ⟨List.pairwise_replicate.2 (.inr fun heq => heq), ?_, fun before hbefore _ _ _ => ?_⟩
    · exact List.pairwise_of_forall_mem_list fun _ _ after hafter heq =>
        absurd heq (hnames after hafter).ne_up
    · exact List.eq_of_mem_replicate hbefore
  · rcases mem_segments_iff.1 hup with ⟨hclimbs, -⟩ | hname
    · exact hclimbs (h.root habsolute)
    · exact (h.name _ hname).ne_up rfl

/-! ### Normal forms -/

/-- The written form of a meaning is in the grammar. -/
theorem Sound.isNormal_toChars (h : Sound p) : IsNormal p.toChars := by
  by_cases hsegments : p.segments = []
  · rw [toChars, if_pos hsegments, if_pos hsegments]
    cases p.absolute <;> cases p.slashed
    · exact .here
    · exact .hereSlashed
    · exact .root
    · exact .root
  · rw [toChars_of_segments hsegments]
    exact .segments (h.normalSegments hsegments) p.slashed

/-- What is in the grammar is the written form of a meaning. -/
theorem IsNormal.exists_sound (h : IsNormal t) : ∃ p, Sound p ∧ p.toChars = t := by
  cases h with
  | root => exact ⟨ofChars ['/'], sound_ofChars _, by decide⟩
  | here => exact ⟨ofChars ['.'], sound_ofChars _, by decide⟩
  | hereSlashed => exact ⟨ofChars ['.', '/'], sound_ofChars _, by decide⟩
  | segments h slashed =>
    obtain ⟨p, hsound, rfl, rfl, rfl⟩ := h.exists_sound slashed
    exact ⟨p, hsound, toChars_of_segments h.ne_nil⟩

theorem isNormal_normalizeChars (s : List Char) : IsNormal (normalizeChars s) :=
  (sound_ofChars s).isNormal_toChars

/-- Normalizing leaves just the normal forms as they are. -/
theorem normalizeChars_eq_self_iff : normalizeChars t = t ↔ IsNormal t := by
  constructor
  · intro h
    exact h ▸ isNormal_normalizeChars t
  · intro h
    obtain ⟨p, hsound, rfl⟩ := h.exists_sound
    exact normalizeChars_toChars hsound

theorem normalizeChars_of_leadsToRoot (h : LeadsToRoot s) : normalizeChars s = ['/'] := by
  have hroot := (leadsToRoot_iff s).1 h
  rw [normalizeChars, toChars, if_pos (isRoot_iff.1 hroot).1,
    if_pos ((sound_ofChars s).segments_of_isRoot hroot)]

/-- Normalizing gives exactly the normal forms and leaves exactly these as they are. A normal form
    starts at the root if the path does; and it ends in a slash if the path does, or else it is the
    root. -/
theorem normalize_grammar :
    (∀ t : String, (∃ s, normalize s = t) ↔ IsNormal t.toList) ∧
    (∀ t : String, normalize t = t ↔ IsNormal t.toList) ∧
    (∀ s : String, (normalize s).toList.head? = some '/' ↔ s.toList.head? = some '/') ∧
    ∀ s : String, normalize s ≠ "/" →
      ((normalize s).toList.getLast? = some '/' ↔ s.toList.getLast? = some '/') := by
  have hfixed : ∀ t : String, normalize t = t ↔ IsNormal t.toList := by
    intro t
    rw [← String.toList_inj, toList_normalize, normalizeChars_eq_self_iff]
  refine ⟨fun t => ⟨?_, fun h => ⟨t, (hfixed t).2 h⟩⟩, hfixed, fun s => ?_, fun s hs => ?_⟩
  · rintro ⟨s, rfl⟩
    rw [toList_normalize]
    exact isNormal_normalizeChars s.toList
  · rw [toList_normalize, head?_normalizeChars]
  · have hroot : ¬ LeadsToRoot s.toList := fun h =>
      hs (by rw [normalize, normalizeChars_of_leadsToRoot h])
    rw [toList_normalize, getLast?_normalizeChars, or_iff_left hroot]

/-- A path that climbs out of itself and has a slash at its end. -/
theorem normalize_climbing :
    let path := "a//../.././b/./"
    normalize path = "../b/" ∧ IsNormal "../b/".toList ∧ normalize path ≠ "/" ∧
      ((normalize path).toList.getLast? = some '/' ↔ path.toList.getLast? = some '/') := by
  intro path
  have hpath : normalize path = "../b/" := by decide
  have hne : normalize path ≠ "/" := by decide
  exact ⟨hpath, (normalize_grammar.1 "../b/").1 ⟨path, hpath⟩, hne,
    normalize_grammar.2.2.2 path hne⟩

end RouteInventory.UrlPath
