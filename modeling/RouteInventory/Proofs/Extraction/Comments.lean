import RouteInventory.Extraction
import RouteInventory.Proofs.Pattern.Successive
import RouteInventory.Proofs.Text.Pieces

/-!
Comments without patterns. Line comments are what stands behind the first `//` of each line
(`lineComments`), and block comments are found by looking for an opening mark, then for the nearest
closing one, and then again from there (`blockComments`). That is what the patterns find
(`comments_extract`).
-/

namespace RouteInventory.Extraction

open Pattern Text

/-! ### A text cut at a mark -/

/-- What stands in front of the first place where the mark does, and what behind it. A mark is not
    empty. -/
def cutAt? (mark : List Char) : List Char → Option (List Char × List Char)
  | [] => none
  | c :: s =>
    match mark.isPrefixOf? (c :: s) with
    | some rest => some ([], rest)
    | none => (cutAt? mark s).map fun (front, rest) => (c :: front, rest)

variable {mark s front rest : List Char}

theorem append_of_cutAt? (h : cutAt? mark s = some (front, rest)) : s = front ++ mark ++ rest := by
  induction s generalizing front with
  | nil => simp [cutAt?] at h
  | cons c s ih =>
    rw [cutAt?] at h
    split at h
    · next hpre =>
      obtain ⟨rfl, rfl⟩ : [] = front ∧ _ = rest := by simpa using h
      exact (List.isPrefixOf?_eq_some_iff_append_eq.1 hpre).symm
    · obtain ⟨⟨front', rest'⟩, hcut, heq⟩ := Option.map_eq_some_iff.1 h
      obtain ⟨rfl, rfl⟩ : c :: front' = front ∧ rest' = rest := by simpa using heq
      rw [ih hcut, List.cons_append, List.cons_append]

theorem not_prefix_of_isPrefixOf? (h : mark.isPrefixOf? s = none) : ¬ mark <+: s := by
  rintro ⟨rest, hrest⟩
  rw [List.isPrefixOf?_eq_some_iff_append_eq.2 hrest] at h
  cases h

/-- The cut is at the first place where the mark stands. -/
theorem length_le_of_cutAt? (h : cutAt? mark s = some (front, rest)) {front' rest' : List Char}
    (hs : s = front' ++ mark ++ rest') : front.length ≤ front'.length := by
  induction s generalizing front front' with
  | nil => simp [cutAt?] at h
  | cons c s ih =>
    rw [cutAt?] at h
    split at h
    · obtain ⟨rfl, -⟩ : [] = front ∧ _ = rest := by simpa using h
      exact Nat.zero_le _
    · next hpre =>
      obtain ⟨⟨front₀, rest₀⟩, hcut, heq⟩ := Option.map_eq_some_iff.1 h
      obtain ⟨rfl, rfl⟩ : c :: front₀ = front ∧ rest₀ = rest := by simpa using heq
      cases front' with
      | nil => exact absurd ⟨rest', hs.symm⟩ (not_prefix_of_isPrefixOf? hpre)
      | cons d front' =>
        exact Nat.succ_le_succ (ih hcut (List.cons.inj hs).2)

/-- Without a cut the mark stands nowhere. -/
theorem not_infix_of_cutAt? (hmark : mark ≠ []) (h : cutAt? mark s = none) : ¬ mark <:+: s := by
  induction s with
  | nil => simpa using hmark
  | cons c s ih =>
    rw [cutAt?] at h
    split at h
    · cases h
    · next hpre =>
      rw [List.infix_cons_iff, not_or]
      exact ⟨not_prefix_of_isPrefixOf? hpre, ih (Option.map_eq_none_iff.1 h)⟩

theorem length_lt_of_cutAt? (hmark : mark ≠ []) (h : cutAt? mark s = some (front, rest)) :
    rest.length < s.length := by
  have := List.length_pos_iff.2 hmark
  rw [append_of_cutAt? h, List.length_append, List.length_append]
  omega

section Gather

variable (kind : Kind) {α : Type} (take : (Nat → Option (List Char)) → List α)

/-- If all texts of a language begin with a mark, its matches begin at the first place where the
    mark stands. -/
theorem gather_of_cutAt? (hmark : ∀ r, Language kind r → mark <+: readingChars r)
    (h : cutAt? mark s = some (front, rest)) :
    gather kind.pattern take s.toArray = gather kind.pattern take (mark ++ rest).toArray := by
  induction s generalizing front with
  | nil => simp [cutAt?] at h
  | cons c s ih =>
    rw [cutAt?] at h
    split at h
    · next hpre =>
      obtain ⟨-, rfl⟩ : [] = front ∧ _ = rest := by simpa using h
      rw [List.isPrefixOf?_eq_some_iff_append_eq.1 hpre]
    · next hpre =>
      obtain ⟨⟨front', rest'⟩, hcut, heq⟩ := Option.map_eq_some_iff.1 h
      obtain ⟨-, rfl⟩ : c :: front' = front ∧ rest' = rest := by simpa using heq
      have hnone : ∀ r, Language kind r → ¬ readingChars r <+: c :: s := fun r hr hread =>
        not_prefix_of_isPrefixOf? hpre ((hmark r hr).trans hread)
      rw [gather_cons_of_none take hnone, ih hcut]

/-- A text in which a part of every text of a language stands nowhere has no matches. -/
theorem gather_of_not_infix (hmark : ∀ r, Language kind r → mark <:+: readingChars r)
    (h : ¬ mark <:+: s) : gather kind.pattern take s.toArray = [] := by
  induction s with
  | nil => exact gather_nil take
  | cons c s ih =>
    have hnone : ∀ r, Language kind r → ¬ readingChars r <+: c :: s := fun r hr hread =>
      h ((hmark r hr).trans hread.isInfix)
    rw [gather_cons_of_none take hnone, ih fun hs => h (hs.trans (List.suffix_cons c s).isInfix)]

end Gather

/-- The text of one group of a match. -/
def textOf (i : Nat) (texts : Nat → Option (List Char)) : List (List Char) := (texts i).toList

theorem groupTexts_eq_gather (p : Pattern) (i : Nat) (text : Array Char) :
    p.groupTexts i text = gather p (textOf i) text :=
  List.filterMap_eq_flatMap_toList _ _

/-! ### Line comments -/

/-- The mark of a line comment. -/
def lineMark : List Char := "//".toList

/-- Of each line that holds the mark of a line comment, what stands behind the first one. -/
def lineComments (s : List Char) : List (List Char) :=
  (split '\n' s).filterMap fun line => (cutAt? lineMark line).map (·.2)

/-- A line comment as a reading. -/
def lineReading (comment : List Char) : List Piece := [.plain lineMark, .captured 1 comment]

theorem readingChars_lineReading (comment : List Char) :
    readingChars (lineReading comment) = lineMark ++ comment := by
  simp [lineReading, readingChars, Piece.chars]

theorem exists_lineReading {r : List Piece} (hr : Language .lineComment r) :
    ∃ comment, r = lineReading comment := by
  cases hr with
  | @lineComment comment _ => exact ⟨comment, rfl⟩

theorem lineMark_in_front (r : List Piece) (hr : Language .lineComment r) :
    lineMark <+: readingChars r := by
  obtain ⟨comment, rfl⟩ := exists_lineReading hr
  exact readingChars_lineReading comment ▸ List.prefix_append _ _

/-- Behind its mark, a line comment goes on to the end of the line. -/
theorem gather_lineMark (hrest : '\n' ∉ rest) :
    gather lineComment (textOf 1) (lineMark ++ rest).toArray = [rest] := by
  have hr : Language .lineComment (lineReading rest) := by
    refine .lineComment fun d hd => ?_
    have : d ≠ '\n' := by
      rintro rfl
      exact hrest hd
    simpa using this
  have hfar : Farthest .lineComment (lineReading rest) (readingChars (lineReading rest) ++ []) := by
    intro r' _ hpre
    rw [List.append_nil] at hpre
    exact (Kind.far_of_long rfl).2 hpre.length_le
  have hitems : ∀ r', Language .lineComment r' → readingChars r' = readingChars (lineReading rest) →
      textOf 1 (textsOf r') = [rest] := by
    intro r' hr' hsame
    obtain ⟨comment, rfl⟩ := exists_lineReading hr'
    rw [readingChars_lineReading, readingChars_lineReading, List.append_cancel_left_eq] at hsame
    rw [hsame]
    rfl
  have hgather := gather_append_of_reading (textOf 1) hr hfar hitems
  rw [readingChars_lineReading, List.append_nil, gather_nil] at hgather
  exact hgather

theorem groupTexts_lineComment_of_line (hs : '\n' ∉ s) :
    lineComment.groupTexts 1 s.toArray = ((cutAt? lineMark s).map (·.2)).toList := by
  rw [groupTexts_eq_gather]
  cases h : cutAt? lineMark s with
  | none =>
    exact gather_of_not_infix .lineComment _ (fun r hr => (lineMark_in_front r hr).isInfix)
      (not_infix_of_cutAt? (by decide) h)
  | some cut =>
    obtain ⟨front, rest⟩ := cut
    have hrest : '\n' ∉ rest := fun hmem => hs (append_of_cutAt? h ▸ List.mem_append_right _ hmem)
    exact (gather_of_cutAt? .lineComment _ lineMark_in_front h).trans (gather_lineMark hrest)

/-- The pattern for line comments finds them line by line. -/
theorem groupTexts_lineComment (s : List Char) :
    lineComment.groupTexts 1 s.toArray = lineComments s := by
  by_cases hs : '\n' ∈ s
  · obtain ⟨line, rest, rfl, hline⟩ := List.eq_append_cons_of_mem hs
    have havoids : lineComment.avoids '\n' = true := by decide
    rw [groupTexts_cut havoids, groupTexts_lineComment_of_line hline, groupTexts_lineComment rest,
      lineComments, lineComments, split_append_cons, split_eq_singleton hline]
    rw [List.filterMap_append]
    rfl
  · rw [groupTexts_lineComment_of_line hs, lineComments, split_eq_singleton hs,
      List.filterMap_eq_flatMap_toList, List.flatMap_singleton]
termination_by s.length
decreasing_by simp [*]; omega

/-! ### Block comments -/

/-- The mark at the beginning of a block comment. -/
def openMark : List Char := "/*".toList

/-- The mark at the end of a block comment. -/
def closeMark : List Char := "*/".toList

/-- What stands between an opening mark and the first closing mark behind it, again and again. -/
def blockComments (s : List Char) : List (List Char) :=
  match _hopen : cutAt? openMark s with
  | none => []
  | some (_, rest) =>
    match _hclose : cutAt? closeMark rest with
    | none => []
    | some (comment, rest') => comment :: blockComments rest'
termination_by s.length
decreasing_by
  exact Nat.lt_trans (length_lt_of_cutAt? (by decide) _hclose)
    (length_lt_of_cutAt? (by decide) _hopen)

/-- A block comment as a reading. -/
def blockReading (comment : List Char) : List Piece :=
  [.plain openMark, .captured 1 comment, .plain closeMark]

theorem readingChars_blockReading (comment : List Char) :
    readingChars (blockReading comment) = openMark ++ (comment ++ closeMark) := by
  simp [blockReading, readingChars, Piece.chars]

theorem exists_blockReading {r : List Piece} (hr : Language .blockComment r) :
    ∃ comment, r = blockReading comment := by
  cases hr with
  | @blockComment comment => exact ⟨comment, rfl⟩

theorem openMark_in_front (r : List Piece) (hr : Language .blockComment r) :
    openMark <+: readingChars r := by
  obtain ⟨comment, rfl⟩ := exists_blockReading hr
  exact readingChars_blockReading comment ▸ List.prefix_append _ _

theorem closeMark_inside (r : List Piece) (hr : Language .blockComment r) :
    closeMark <:+: readingChars r := by
  obtain ⟨comment, rfl⟩ := exists_blockReading hr
  rw [readingChars_blockReading, ← List.append_assoc]
  exact (List.suffix_append _ _).isInfix

/-- A comment that is opened and never closed is none, and there is none behind it. -/
theorem gather_openMark_of_not_closed (h : ¬ closeMark <:+: rest) :
    gather blockComment (textOf 1) (openMark ++ rest).toArray = [] := by
  have hopened : ∀ r, Language .blockComment r → ¬ readingChars r <+: '/' :: '*' :: rest := by
    intro r hr hread
    obtain ⟨comment, rfl⟩ := exists_blockReading hr
    rw [readingChars_blockReading] at hread
    have hrest : comment ++ closeMark <+: rest := (List.prefix_append_right_inj openMark).1 hread
    exact h ((List.suffix_append _ _).isInfix.trans hrest.isInfix)
  have hstar : ∀ r, Language .blockComment r → ¬ readingChars r <+: '*' :: rest := by
    intro r hr hread
    have := (openMark_in_front r hr).trans hread
    exact absurd (List.cons_prefix_cons.1 this).1 (by decide)
  have hfront := gather_cons_of_none (textOf 1) hopened
  have hsecond := gather_cons_of_none (textOf 1) hstar
  exact hfront.trans <| hsecond.trans <|
    gather_of_not_infix .blockComment _ closeMark_inside h

/-- A block comment ends at the first closing mark behind its opening one. -/
theorem gather_openMark {comment : List Char}
    (h : cutAt? closeMark s = some (comment, rest)) :
    gather blockComment (textOf 1) (openMark ++ s).toArray =
      comment :: gather blockComment (textOf 1) rest.toArray := by
  have hs : openMark ++ s = readingChars (blockReading comment) ++ rest := by
    rw [readingChars_blockReading, append_of_cutAt? h]
    simp
  have hfar : Farthest .blockComment (blockReading comment)
      (readingChars (blockReading comment) ++ rest) := by
    intro r' hr' hread
    obtain ⟨comment', rfl⟩ := exists_blockReading hr'
    rw [← hs, readingChars_blockReading] at hread
    obtain ⟨rest', hrest'⟩ := (List.prefix_append_right_inj openMark).1 hread
    have hle := length_le_of_cutAt? h hrest'.symm
    rw [Kind.far_of_short rfl, readingChars_blockReading, readingChars_blockReading]
    simpa using hle
  have hitems : ∀ r', Language .blockComment r' →
      readingChars r' = readingChars (blockReading comment) → textOf 1 (textsOf r') = [comment] := by
    intro r' hr' hsame
    obtain ⟨comment', rfl⟩ := exists_blockReading hr'
    rw [readingChars_blockReading, readingChars_blockReading, List.append_cancel_left_eq,
      List.append_cancel_right_eq] at hsame
    rw [hsame]
    rfl
  rw [hs]
  exact gather_append_of_reading (textOf 1) Language.blockComment hfar hitems

/-- The pattern for block comments finds them from mark to mark. -/
theorem groupTexts_blockComment (s : List Char) :
    blockComment.groupTexts 1 s.toArray = blockComments s := by
  rw [groupTexts_eq_gather]
  fun_induction blockComments s with
  | case1 s hopen =>
    exact gather_of_not_infix .blockComment _
      (fun r hr => (openMark_in_front r hr).isInfix) (not_infix_of_cutAt? (by decide) hopen)
  | case2 s front rest hopen hclose =>
    exact (gather_of_cutAt? .blockComment _ openMark_in_front hopen).trans
      (gather_openMark_of_not_closed (not_infix_of_cutAt? (by decide) hclose))
  | case3 s front rest hopen comment rest' hclose ih =>
    rw [← ih]
    exact (gather_of_cutAt? .blockComment _ openMark_in_front hopen).trans
      (gather_openMark hclose)

/-! ### Comments of a file -/

/-- The comments of a file are its line comments, line by line, and then its block comments, from
    mark to mark; each without the blanks around it. A line gives one line comment at the most, and
    the two marks of a block comment share no character. -/
theorem comments_extract (rules : SecretRules) (file content : String) :
    (extract rules file content).comments =
      (lineComments content.toList ++ blockComments content.toList).map
        (fun comment => .ofList (trim comment)) ∧
    (lineComments content.toList).length ≤ (split '\n' content.toList).length ∧
    ∀ m ∈ blockComment.matchesIn content.toList.toArray, ∃ comment,
      m.whole.slice content.toList.toArray = openMark ++ comment ++ closeMark := by
  refine ⟨?_, List.length_filterMap_le _ _, fun m hm => ?_⟩
  · rw [← groupTexts_lineComment, ← groupTexts_blockComment]
    rfl
  · obtain ⟨r, hr, hslice, -⟩ := (tiled_matchesIn .blockComment _).read m hm
    obtain ⟨comment, rfl⟩ := exists_blockReading hr
    exact ⟨comment, by rw [hslice, readingChars_blockReading, List.append_assoc]⟩

end RouteInventory.Extraction
