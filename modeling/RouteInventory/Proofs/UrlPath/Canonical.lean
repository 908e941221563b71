import RouteInventory.Proofs.UrlPath.Meaning

/-!
Normalizing keeps where a path leads, and two paths have one normal form exactly if nothing tells them
apart (`normalize_canonical`): not whether they are absolute, not where they lead to from any place,
and not whether they end in a slash, unless both lead to the root.
-/

namespace RouteInventory.UrlPath

open Text

variable {p q : UrlPath} {s t : List Char}

/-- Whether a text is an absolute path to the root. -/
def LeadsToRoot (s : List Char) : Prop :=
  s.head? = some '/' ∧ ∀ origin, resolve origin s = []

theorem leadsToRoot_iff (s : List Char) : LeadsToRoot s ↔ (ofChars s).isRoot = true := by
  rw [LeadsToRoot, ← absolute_ofChars, isRoot_iff]
  refine and_congr_right fun habsolute => ?_
  simp [resolve_eq_place, place, habsolute]

/-- Whether nothing tells two written paths apart. -/
structure Alike (s t : List Char) : Prop where
  absolute : s.head? = some '/' ↔ t.head? = some '/'
  place : ∀ origin, (∀ name ∈ origin, IsName name) → resolve origin s = resolve origin t
  slashed : (s.getLast? = some '/' ↔ t.getLast? = some '/') ∨ LeadsToRoot s ∧ LeadsToRoot t

/-! ### What normalizing keeps -/

/-- Normalizing a path does not change where it leads. -/
theorem resolve_normalizeChars (origin : List (List Char)) (s : List Char) :
    resolve origin (normalizeChars s) = resolve origin s := by
  rw [resolve_eq_place, resolve_eq_place, normalizeChars, ofChars_toChars (sound_ofChars s),
    written, place_slashed]

/-- A normalized path is absolute if the path is. -/
theorem head?_normalizeChars (s : List Char) :
    (normalizeChars s).head? = some '/' ↔ s.head? = some '/' := by
  rw [← absolute_ofChars, ← absolute_ofChars, normalizeChars, ofChars_toChars (sound_ofChars s)]
  rfl

/-- A normalized path ends in a slash if the path does or leads to the root. -/
theorem getLast?_normalizeChars (s : List Char) :
    (normalizeChars s).getLast? = some '/' ↔ s.getLast? = some '/' ∨ LeadsToRoot s := by
  rw [← slashed_ofChars, ← slashed_ofChars, leadsToRoot_iff, normalizeChars,
    ofChars_toChars (sound_ofChars s), written, Bool.or_eq_true]

/-- Paths with one normal form are alike. -/
theorem alike_of_normalizeChars_eq (h : normalizeChars s = normalizeChars t) : Alike s t where
  absolute := by rw [← head?_normalizeChars, h, head?_normalizeChars]
  place origin _ := by rw [← resolve_normalizeChars, h, resolve_normalizeChars]
  slashed := by
    have hroot : LeadsToRoot s ↔ LeadsToRoot t := by
      simp only [LeadsToRoot, ← head?_normalizeChars s, ← head?_normalizeChars t,
        ← resolve_normalizeChars _ s, ← resolve_normalizeChars _ t, h]
    have hlast := getLast?_normalizeChars s
    rw [h, getLast?_normalizeChars] at hlast
    tauto

/-! ### What tells paths apart -/

/-- Paths that lead to the same place from everywhere climb as far and have the same names: the way
    from the root gives the names, and the way from deep enough down gives how far they climb. -/
theorem climbs_eq_and_names_eq (hp : Sound p) (hq : Sound q) (habsolute : p.absolute = q.absolute)
    (h : ∀ origin, (∀ name ∈ origin, IsName name) → p.place origin = q.place origin) :
    p.climbs = q.climbs ∧ p.names = q.names := by
  have hnames : p.names = q.names := by simpa [place] using h [] (by simp)
  refine ⟨?_, hnames⟩
  cases hrelative : q.absolute with
  | true => rw [hp.root (habsolute.trans hrelative), hq.root hrelative]
  | false =>
    have hname : IsName ['x'] := ⟨by simp, by simp, by simp, by simp⟩
    have hdeep : ∀ name ∈ List.replicate (p.climbs + q.climbs) ['x'], IsName name :=
      fun name hmem => List.eq_of_mem_replicate hmem ▸ hname
    have hlength := congrArg List.length (h _ hdeep)
    simp only [place, habsolute, hrelative, hnames, Bool.false_eq_true, if_false,
      List.length_append, List.length_take, List.length_replicate] at hlength
    omega

/-- Paths that are alike mean the same. -/
theorem Alike.written_eq (h : Alike s t) : (ofChars s).written = (ofChars t).written := by
  have habsolute : (ofChars s).absolute = (ofChars t).absolute := by
    rw [Bool.eq_iff_iff, absolute_ofChars, absolute_ofChars, h.absolute]
  have hplaces := h.place
  simp only [resolve_eq_place] at hplaces
  obtain ⟨hclimbs, hnames⟩ :=
    climbs_eq_and_names_eq (sound_ofChars s) (sound_ofChars t) habsolute hplaces
  have hslashed : (ofChars s).written.slashed = (ofChars t).written.slashed := by
    rcases h.slashed with hlast | ⟨hs, ht⟩
    · rw [← slashed_ofChars, ← slashed_ofChars, ← Bool.eq_iff_iff] at hlast
      simp only [written, isRoot, hlast, habsolute, hnames]
    · simp [written, (leadsToRoot_iff s).1 hs, (leadsToRoot_iff t).1 ht]
  rw [UrlPath.mk.injEq]
  exact ⟨habsolute, hclimbs, hnames, hslashed⟩

/-- Normalizing keeps where a path leads to from every place and whether it is absolute, and two paths
    have one normal form exactly if they are alike. -/
theorem normalize_canonical :
    (∀ (s : String) (origin : List (List Char)),
      resolve origin (normalize s).toList = resolve origin s.toList) ∧
    (∀ s : String, (normalize s).toList.head? = some '/' ↔ s.toList.head? = some '/') ∧
    ∀ s t : String, normalize s = normalize t ↔ Alike s.toList t.toList := by
  have hchars : ∀ s : String, (normalize s).toList = normalizeChars s.toList :=
    fun s => String.toList_ofList
  refine ⟨fun s origin => ?_, fun s => ?_, fun s t => ?_⟩
  · rw [hchars, resolve_normalizeChars]
  · rw [hchars, head?_normalizeChars]
  · rw [← String.toList_inj, hchars, hchars]
    exact ⟨alike_of_normalizeChars_eq, fun h => normalizeChars_eq_iff.2 h.written_eq⟩

end RouteInventory.UrlPath
