import RouteInventory.Collect
import RouteInventory.Proofs.Glob.Names
import RouteInventory.Proofs.Walk.RelativePaths

/-!
Directories that are excluded by name. A name without special characters is read as one rule
(`exclusions_of_isLiteral`), and the rules keep a walk out of the directories of these names and of
nothing else (`skips_of_names`).
-/

namespace RouteInventory

open Text

/-- Whether a name is excluded as it stands. -/
def Selection.IsLiteral (name : String) : Prop :=
  name ≠ "" ∧ ∀ c ∈ name.toList, Glob.isOrdinary c = true

namespace ExclusionRule

/-- The rule for the directories of a name. -/
def ofName (name : String) : ExclusionRule := ⟨true, true, Glob.deepTokens name.toList⟩

/-! ### Reading the rule -/

variable {name : String}

theorem trimLine_concat_slash (s : List Char) : trimLine (s ++ ['/']) = s ++ ['/'] := by
  have hblank : isBlank '/' = false := by decide
  simp [trimLine, trimRight, hblank]

theorem dropFront?_stars {s : List Char} (h : '*' ∉ s.head?) :
    dropFront? "**/".toList s = none := by
  cases s with
  | nil => rfl
  | cons c s =>
    have hc : '*' ≠ c := by simpa [eq_comm] using h
    exact if_neg hc

theorem not_mem_of_isLiteral (h : Selection.IsLiteral name) {c : Char}
    (hc : Glob.isOrdinary c = false) : c ∉ name.toList := by
  intro hmem
  rw [h.2 c hmem] at hc
  cases hc

theorem anchor_of_isLiteral (h : Selection.IsLiteral name) :
    anchor false name.toList = "**/".toList ++ name.toList := by
  have hstar : '*' ∉ name.toList := not_mem_of_isLiteral h rfl
  have hslash : '/' ∉ name.toList := not_mem_of_isLiteral h rfl
  have hfront : dropFront? "**/".toList name.toList = none :=
    dropFront?_stars fun hmem => hstar (List.mem_of_mem_head? hmem)
  have hwhole : name.toList ≠ "**".toList := fun heq => hstar (heq ▸ List.mem_cons_self)
  have hend : dropFront? "**/".toList ("**/".toList ++ name.toList).reverse = none := by
    refine dropFront?_stars fun hmem => hstar ?_
    have hne : name.toList.reverse ≠ [] := by simpa using h.1
    rw [List.reverse_append, List.head?_append,
      Option.or_eq_left_of_isSome (List.isSome_head?.2 hne)] at hmem
    exact List.mem_reverse.1 (List.mem_of_mem_head? hmem)
  have hbare : (!false) = true ∧ (!name.toList.contains '/') = true ∧
      (!decide (name.toList = "**".toList ∨
        (dropFront? "**/".toList name.toList).isSome = true)) = true :=
    ⟨rfl, by simpa using hslash, by rw [hfront]; simpa using hwhole⟩
  rw [anchor, if_pos hbare, hend]
  rfl

theorem readFront_of_isLiteral (h : Selection.IsLiteral name) (rest : List Char) :
    readFront ('!' :: (name.toList ++ rest)) = (true, false, name.toList ++ rest) := by
  have hslash : '/' ∉ name.toList := not_mem_of_isLiteral h rfl
  cases hname : name.toList with
  | nil => exact absurd (String.toList_eq_nil_iff.1 hname) h.1
  | cons c cs =>
    have hc : c ≠ '/' := by
      rintro rfl
      exact hslash (hname ▸ List.mem_cons_self)
    simp [readFront, hc]

theorem readEnd_of_isLiteral (h : Selection.IsLiteral name) :
    readEnd (name.toList ++ ['/']) = (true, name.toList) := by
  have hback : '\\' ∉ name.toList := not_mem_of_isLiteral h rfl
  cases hname : name.toList.reverse with
  | nil => exact absurd (String.toList_eq_nil_iff.1 (List.reverse_eq_nil_iff.1 hname)) h.1
  | cons c cs =>
    have hc : c ≠ '\\' := by
      rintro rfl
      exact hback (List.mem_reverse.1 (hname ▸ List.mem_cons_self))
    have hwhole : name.toList = (c :: cs).reverse := by rw [← hname, List.reverse_reverse]
    simp [readEnd, hc, hwhole]

theorem ofLine_of_isLiteral (h : Selection.IsLiteral name) :
    ofLine false ("!" ++ name ++ "/").toList = .ok (some (ofName name)) := by
  have hline : ("!" ++ name ++ "/").toList = '!' :: (name.toList ++ ['/']) := by simp
  have htrim : trimLine ('!' :: (name.toList ++ ['/'])) = '!' :: (name.toList ++ ['/']) :=
    trimLine_concat_slash ('!' :: name.toList)
  rw [ofLine]
  simp only [hline, htrim, readFront_of_isLiteral h, readEnd_of_isLiteral h, anchor_of_isLiteral h,
    Glob.parse_deep h.2]
  simp [ofName]

end ExclusionRule

/-- A literal name is a rule. -/
theorem Selection.exclusion_of_isLiteral {name : String} (h : Selection.IsLiteral name) :
    Selection.exclusion name = .ok (.ofName name) := by
  rw [exclusion]
  simp only [ExclusionRule.ofLine_of_isLiteral h]

theorem Selection.mapM_exclusion : ∀ {names : List String}, (∀ name ∈ names, IsLiteral name) →
    names.mapM exclusion = .ok (names.map .ofName)
  | [], _ => rfl
  | name :: names, h => by
    obtain ⟨hname, hnames⟩ := List.forall_mem_cons.1 h
    rw [List.mapM_cons, exclusion_of_isLiteral hname, mapM_exclusion hnames]
    rfl

theorem Selection.exclusions_of_isLiteral {sel : Selection}
    (h : ∀ name ∈ sel.excludeDirs, IsLiteral name) :
    sel.exclusions = .ok (sel.excludeDirs.map .ofName) := by
  have hdeep : ExclusionRule.tooDeep? (sel.excludeDirs.map .ofName) = none := by
    have htokens : (sel.excludeDirs.map ExclusionRule.ofName).map (·.tokens) =
        (sel.excludeDirs.map String.toList).map Glob.deepTokens := by
      simp [ExclusionRule.ofName]
    rw [ExclusionRule.tooDeep?, htokens, Glob.tooDeep?_eq_none]
    intro name hname
    obtain ⟨dir, hdir, rfl⟩ := List.mem_map.1 hname
    exact mt String.toList_eq_nil_iff.1 (h dir hdir).1
  simp only [exclusions, mapM_exclusion h, hdeep]

/-! ### What the rules say -/

namespace ExclusionRule

theorem holds_ofName_iff {name : String} (h : Selection.IsLiteral name) (path : String)
    (isDir : Bool) :
    (ofName name).holds (encode path.toList) isDir = true ↔
      isDir = true ∧ lastPiece '/' path.toList = name.toList := by
  have hne : name.toList ≠ [] := mt String.toList_eq_nil_iff.1 h.1
  have hmatch := Glob.isMatch_deep_iff hne (not_mem_of_isLiteral h rfl) path.toList
  simp [holds, ofName, hmatch]

/-- Rules for names take in the directories of these names and say nothing of anything else. -/
theorem verdict_ofNames {names : List String} (h : ∀ name ∈ names, Selection.IsLiteral name)
    {path name : String} (hname : lastPiece '/' path.toList = name.toList) (isDir : Bool) :
    verdict (names.map ofName) path isDir =
      if isDir = true ∧ name ∈ names then .keep else .silent := by
  rw [verdict]
  cases hfind : (names.map ofName).reverse.find? (·.holds (encode path.toList) isDir) with
  | none =>
    rw [if_neg]
    rintro ⟨hdir, hmem⟩
    have hnot := List.find?_eq_none.1 hfind (ofName name)
      (List.mem_reverse.2 (List.mem_map_of_mem hmem))
    exact hnot ((holds_ofName_iff (h name hmem) path isDir).2 ⟨hdir, hname⟩)
  | some rule =>
    obtain ⟨other, hother, rfl⟩ :=
      List.mem_map.1 (List.mem_reverse.1 (List.mem_of_find?_eq_some hfind))
    have hholds : (ofName other).holds (encode path.toList) isDir = true := by
      simpa using List.find?_some hfind
    obtain ⟨hdir, hlast⟩ := (holds_ofName_iff (h other hother) path isDir).1 hholds
    rw [hname, String.toList_inj] at hlast
    rw [if_pos ⟨hdir, hlast ▸ hother⟩]
    rfl

end ExclusionRule

namespace Walk

/-- Without rule files a walk with rules for names passes over the directories of these names, and
    over nothing else. -/
theorem Plan.skips_of_names {plan : Plan} {excluded : List String}
    (hplan : plan.excluded = excluded.map .ofName)
    (hliteral : ∀ name ∈ excluded, Selection.IsLiteral name) (hstandard : plan.standard = false)
    (hroot : plan.root ≠ "") {names : List String}
    (hnames : ∀ name ∈ names, FilePath.IsProper name) {name : String}
    (hname : FilePath.IsProper name) (inside : List DirRules) (isDir : Bool) :
    plan.skips inside (FilePath.join (FilePath.under plan.root names) name) name isDir =
      (isDir && decide (name ∈ excluded)) := by
  have hlast := lastPiece_relativeTo (goesOn_under plan.root hnames hname)
  rw [lastPiece_join (FilePath.under_ne_empty hroot hnames) hname] at hlast
  rw [skips, hplan]
  simp only [ExclusionRule.verdict_ofNames hliteral hlast, hstandard]
  by_cases h : isDir = true ∧ name ∈ excluded
  · simp [h, Verdict.invert, Verdict.orElse]
  · have hnot : (isDir && decide (name ∈ excluded)) = false := by simpa using h
    simp [h, hnot, Verdict.invert, Verdict.orElse]

end Walk
end RouteInventory
