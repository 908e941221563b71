import RouteInventory.Proofs.Text.Pieces
import RouteInventory.UrlPath

/-!
What written paths mean. A path leads where its meaning leads (`resolve_eq_place`). The written form
of a meaning is read as that meaning again (`ofChars_toChars`), but that the root is always written
with a slash at its end; so two paths have one written form exactly if they mean the same but for
the slash of a root (`normalizeChars_eq_iff`).
-/

namespace RouteInventory.UrlPath

open Text

variable {p : UrlPath} {s t segment : List Char} {pieces origin : List (List Char)}

/-- Whether a segment is an ordinary name. -/
structure IsName (segment : List Char) : Prop where
  ne_nil : segment ≠ []
  ne_here : segment ≠ ['.']
  ne_up : segment ≠ ['.', '.']
  no_slash : '/' ∉ segment

/-! ### Entering segments -/

theorem enter_nil (p : UrlPath) : p.enter [] = p := by simp [enter]

theorem enter_name (p : UrlPath) (h : IsName segment) :
    p.enter segment = { p with names := segment :: p.names } := by
  rw [enter, if_neg (by simp [h.ne_nil, h.ne_here]), if_neg h.ne_up]

/-- The slash at the end has no part in entering a segment. -/
theorem enter_slashed (p : UrlPath) (slashed : Bool) (segment : List Char) :
    { p with slashed := slashed }.enter segment = { p.enter segment with slashed := slashed } := by
  simp only [enter]
  repeat' split
  all_goals rfl

theorem foldl_enter_slashed (pieces : List (List Char)) (p : UrlPath) (slashed : Bool) :
    pieces.foldl enter { p with slashed := slashed } =
      { pieces.foldl enter p with slashed := slashed } := by
  induction pieces generalizing p with
  | nil => rfl
  | cons segment pieces ih => rw [List.foldl_cons, enter_slashed, ih, List.foldl_cons]

theorem foldl_enter_names (h : ∀ name ∈ pieces, IsName name) (p : UrlPath) :
    pieces.foldl enter p = { p with names := pieces.reverse ++ p.names } := by
  induction pieces generalizing p with
  | nil => rfl
  | cons name pieces ih =>
    obtain ⟨hname, hrest⟩ := List.forall_mem_cons.1 h
    rw [List.foldl_cons, enter_name p hname, ih hrest, List.reverse_cons, List.append_assoc]
    rfl

theorem foldl_enter_ups (n climbs : Nat) (slashed : Bool) :
    (List.replicate n ['.', '.']).foldl enter ⟨false, climbs, [], slashed⟩ =
      ⟨false, climbs + n, [], slashed⟩ := by
  induction n generalizing climbs with
  | zero => rfl
  | succ n ih =>
    have hup : enter ⟨false, climbs, [], slashed⟩ ['.', '.'] = ⟨false, climbs + 1, [], slashed⟩ := by
      simp [enter]
    rw [List.replicate_succ, List.foldl_cons, hup, ih, Nat.add_right_comm, Nat.add_assoc]

/-! ### Meanings -/

/-- What holds of the meaning of any text: its names are ordinary, and nothing is above the root. -/
structure Sound (p : UrlPath) : Prop where
  name : ∀ name ∈ p.names, IsName name
  root : p.absolute = true → p.climbs = 0

theorem Sound.enter (h : Sound p) (hsegment : '/' ∉ segment) : Sound (p.enter segment) := by
  simp only [UrlPath.enter]
  split
  · exact h
  next hstays =>
  rw [not_or] at hstays
  split
  · split
    · exact ⟨fun name hname => h.name name (List.mem_of_mem_tail hname), h.root⟩
    split
    · exact h
    next habsolute => exact ⟨h.name, fun habsolute' => absurd habsolute' habsolute⟩
  next hup =>
  exact ⟨List.forall_mem_cons.2 ⟨⟨hstays.1, hstays.2, hup, hsegment⟩, h.name⟩, h.root⟩

theorem Sound.foldl_enter (hsegments : ∀ segment ∈ pieces, '/' ∉ segment) (h : Sound p) :
    Sound (pieces.foldl UrlPath.enter p) := by
  induction pieces generalizing p with
  | nil => exact h
  | cons segment pieces ih =>
    obtain ⟨hsegment, hrest⟩ := List.forall_mem_cons.1 hsegments
    exact ih hrest (h.enter hsegment)

theorem sound_ofChars (s : List Char) : Sound (ofChars s) :=
  Sound.foldl_enter (fun _ => not_mem_of_mem_split) ⟨by simp, fun _ => rfl⟩

theorem foldl_enter_fixed (pieces : List (List Char)) (p : UrlPath) :
    (pieces.foldl enter p).absolute = p.absolute ∧
      (pieces.foldl enter p).slashed = p.slashed := by
  induction pieces generalizing p with
  | nil => exact ⟨rfl, rfl⟩
  | cons segment pieces ih =>
    have hstep : (p.enter segment).absolute = p.absolute ∧
        (p.enter segment).slashed = p.slashed := by
      simp only [enter]
      repeat' split
      all_goals exact ⟨rfl, rfl⟩
    exact ⟨(ih _).1.trans hstep.1, (ih _).2.trans hstep.2⟩

theorem absolute_ofChars (s : List Char) :
    (ofChars s).absolute = true ↔ s.head? = some '/' := by
  rw [ofChars, (foldl_enter_fixed _ _).1, decide_eq_true_iff]

theorem slashed_ofChars (s : List Char) :
    (ofChars s).slashed = true ↔ s.getLast? = some '/' := by
  rw [ofChars, (foldl_enter_fixed _ _).2, decide_eq_true_iff]

/-! ### Where a meaning leads -/

/-- Where a path leads to from `origin`: up from there as far as it climbs, and down its names. -/
def place (p : UrlPath) (origin : List (List Char)) : List (List Char) :=
  (if p.absolute then [] else origin.take (origin.length - p.climbs)) ++ p.names.reverse

theorem place_slashed (p : UrlPath) (slashed : Bool) (origin : List (List Char)) :
    { p with slashed := slashed }.place origin = p.place origin := rfl

/-- To enter a segment is to go on from the place that the path leads to. -/
theorem place_enter (p : UrlPath) (origin : List (List Char)) (segment : List Char) :
    (p.enter segment).place origin = goto (p.place origin) segment := by
  simp only [enter, goto]
  split
  · rfl
  split
  · cases hnames : p.names with
    | cons name names => simp [place, hnames, ← List.append_assoc]
    | nil =>
      rw [if_neg (by simp)]
      cases habsolute : p.absolute with
      | true => simp [place, hnames, habsolute]
      | false =>
        have hup : origin.take (origin.length - (p.climbs + 1)) =
            (origin.take (origin.length - p.climbs)).dropLast := by
          rw [List.dropLast_eq_take, List.take_take, List.length_take]
          congr 1
          omega
        simpa [place, hnames, habsolute] using hup
  · simp [place, List.append_assoc]

/-- A written path leads where its meaning does. -/
theorem resolve_eq_place (origin : List (List Char)) (s : List Char) :
    resolve origin s = (ofChars s).place origin := by
  have hfold : ∀ (pieces : List (List Char)) (p : UrlPath),
      pieces.foldl goto (p.place origin) = (pieces.foldl enter p).place origin := by
    intro pieces
    induction pieces with
    | nil => exact fun p => rfl
    | cons segment pieces ih =>
      intro p
      rw [List.foldl_cons, ← place_enter, ih, List.foldl_cons]
  rw [resolve, ofChars, ← hfold]
  congr 1
  by_cases habsolute : s.head? = some '/' <;> simp [place, habsolute]

/-! ### Written forms -/

/-- Whether a text is one segment by itself: there is something of it, and no slash in it. -/
def IsSegment (segment : List Char) : Prop := segment ≠ [] ∧ '/' ∉ segment

/-- Segments with slashes between them neither begin nor end with one. -/
theorem edges_join (hne : pieces ≠ []) (h : ∀ segment ∈ pieces, IsSegment segment) :
    Text.join '/' pieces ≠ [] ∧ (Text.join '/' pieces).head? ≠ some '/' ∧
      (Text.join '/' pieces).getLast? ≠ some '/' := by
  induction pieces with
  | nil => exact absurd rfl hne
  | cons segment pieces ih =>
    obtain ⟨⟨hsegment, hslash⟩, hrest⟩ := List.forall_mem_cons.1 h
    cases pieces with
    | nil =>
      exact ⟨hsegment, fun hhead => hslash (List.mem_of_head? hhead),
        fun hlast => hslash (List.mem_of_getLast? hlast)⟩
    | cons next rest =>
      obtain ⟨hjoin, -, hlast⟩ := ih (by simp) hrest
      rw [join_cons_cons]
      refine ⟨by simp, fun hhead => hslash (List.mem_of_head? ?_), ?_⟩
      · rwa [List.head?_append_of_ne_nil _ hsegment] at hhead
      · rwa [List.getLast?_append_of_ne_nil _ (by simp), List.getLast?_cons_of_ne_nil hjoin]

/-- What follows a slash is read on from there. -/
theorem ofChars_append_slash (hs : s ≠ []) (t : List Char) :
    ofChars (s ++ '/' :: t) = (split '/' t).foldl enter
      { ofChars s with slashed := ('/' :: t).getLast? = some '/' } := by
  rw [ofChars, split_append_cons, List.foldl_append, List.head?_append_of_ne_nil _ hs,
    List.getLast?_append_of_ne_nil _ (by simp), ofChars, ← foldl_enter_slashed]

/-- A slash at the end is read as one. -/
theorem ofChars_concat_slash (hs : s ≠ []) :
    ofChars (s ++ ['/']) = { ofChars s with slashed := true } := by
  rw [ofChars_append_slash hs]
  exact enter_nil _

/-- Segments with slashes between them are entered one by one, from the root on if there is a slash in
    front. -/
theorem ofChars_join (hne : pieces ≠ []) (h : ∀ segment ∈ pieces, IsSegment segment)
    (absolute : Bool) :
    ofChars ((if absolute then ['/'] else []) ++ Text.join '/' pieces) =
      pieces.foldl enter ⟨absolute, 0, [], false⟩ := by
  obtain ⟨hjoin, hhead, hlast⟩ := edges_join hne h
  have hsplit : split '/' (Text.join '/' pieces) = pieces :=
    split_join (fun segment hsegment => (h segment hsegment).2) hne
  cases absolute with
  | true =>
    have hfront : split '/' ('/' :: Text.join '/' pieces) = [] :: pieces :=
      (split_append_cons [] _).trans (congrArg ([] :: ·) hsplit)
    have hlast' : ('/' :: Text.join '/' pieces).getLast? ≠ some '/' := by
      rwa [List.getLast?_cons_of_ne_nil hjoin]
    simp [ofChars, hfront, hlast', enter_nil]
  | false => simp [ofChars, hsplit, hhead, hlast]

theorem mem_segments_iff :
    segment ∈ p.segments ↔ p.climbs ≠ 0 ∧ segment = ['.', '.'] ∨ segment ∈ p.names := by
  rw [segments, List.mem_append, List.mem_replicate, List.mem_reverse]

theorem Sound.isSegment (h : Sound p) : ∀ segment ∈ p.segments, IsSegment segment := by
  intro segment hsegment
  rcases mem_segments_iff.1 hsegment with ⟨-, rfl⟩ | hname
  · exact ⟨by simp, by simp⟩
  · exact ⟨(h.name segment hname).ne_nil, (h.name segment hname).no_slash⟩

/-- The segments of the written form are entered to the same meaning. -/
theorem Sound.foldl_enter_segments (h : Sound p) :
    p.segments.foldl UrlPath.enter ⟨p.absolute, 0, [], false⟩ = { p with slashed := false } := by
  have hnames : ∀ name ∈ p.names.reverse, IsName name :=
    fun name hname => h.name name (List.mem_reverse.1 hname)
  rw [segments, List.foldl_append]
  cases habsolute : p.absolute with
  | true => simp [h.root habsolute, foldl_enter_names hnames]
  | false => simp [foldl_enter_ups, foldl_enter_names hnames]

/-- Whether a path leads to the root from everywhere. -/
def isRoot (p : UrlPath) : Bool := p.absolute && p.names.isEmpty

theorem isRoot_iff : p.isRoot = true ↔ p.absolute = true ∧ p.names = [] := by simp [isRoot]

theorem Sound.segments_of_isRoot (h : Sound p) (hroot : p.isRoot = true) : p.segments = [] := by
  obtain ⟨habsolute, hnames⟩ := isRoot_iff.1 hroot
  rw [segments, hnames, h.root habsolute]
  rfl

/-- The path as it is written: the root always ends in a slash. -/
def written (p : UrlPath) : UrlPath := { p with slashed := p.slashed || p.isRoot }

theorem toChars_written (h : Sound p) : p.written.toChars = p.toChars := by
  cases hroot : p.isRoot with
  | false => simp [written, hroot]
  | true =>
    obtain ⟨habsolute, hnames⟩ := isRoot_iff.1 hroot
    simp [written, toChars, segments, habsolute, hnames, h.root habsolute]

theorem toChars_of_segments (h : p.segments ≠ []) :
    p.toChars = (if p.absolute then ['/'] else []) ++ Text.join '/' p.segments ++
      if p.slashed then ['/'] else [] := by
  rw [toChars, if_neg h, if_neg h]
  cases p.absolute <;> rfl

/-- The written form of a path is read as the path. -/
theorem ofChars_toChars (h : Sound p) : ofChars p.toChars = p.written := by
  by_cases hsegments : p.segments = []
  · -- without segments there are four written forms
    obtain ⟨absolute, climbs, names, slashed⟩ := p
    obtain ⟨rfl, rfl⟩ : climbs = 0 ∧ names = [] := by simpa [segments] using hsegments
    cases absolute <;> cases slashed <;> rfl
  · have hroot : p.isRoot = false := by
      rw [Bool.eq_false_iff]
      exact fun hroot => hsegments (h.segments_of_isRoot hroot)
    have hread := (ofChars_join hsegments h.isSegment p.absolute).trans h.foldl_enter_segments
    rw [toChars_of_segments hsegments, written, hroot, Bool.or_false]
    cases hslashed : p.slashed with
    | false =>
      simp only [Bool.false_eq_true, if_false, List.append_nil]
      exact hread
    | true =>
      have hne : (if p.absolute then ['/'] else []) ++ Text.join '/' p.segments ≠ [] := by
        simp [(edges_join hsegments h.isSegment).1]
      rw [if_pos rfl, ofChars_concat_slash hne, hread]

theorem toList_normalize (path : String) : (normalize path).toList = normalizeChars path.toList :=
  String.toList_ofList

/-- A written form is normal already. -/
theorem normalizeChars_toChars (h : Sound p) : normalizeChars p.toChars = p.toChars := by
  rw [normalizeChars, ofChars_toChars h, toChars_written h]

/-- Two texts have one written form if they mean the same. -/
theorem normalizeChars_eq_iff :
    normalizeChars s = normalizeChars t ↔ (ofChars s).written = (ofChars t).written := by
  rw [normalizeChars, normalizeChars]
  constructor
  · intro h
    rw [← ofChars_toChars (sound_ofChars s), h, ofChars_toChars (sound_ofChars t)]
  · intro h
    rw [← toChars_written (sound_ofChars s), h, toChars_written (sound_ofChars t)]

end RouteInventory.UrlPath
