import RouteInventory.CommandLine.Arguments
import RouteInventory.Proofs.Settings.Usable
import RouteInventory.Proofs.Text.Pieces

/-!
Extensions from a list and from single arguments. Normalizing an extension that is not blank gives
one in normal form, and leaves the normal forms as they are (`normalizeExtension_of_isNormal`). A
list that is joined with commas is cut at these commas again, as long as no extension holds one, so
the environment and the arguments set the same extensions (`extensions_ofEnv`).
-/

namespace RouteInventory.Settings

open Text

/-! ### Normal forms -/

/-- An extension in normal form: a dot in front, and no blank at the end. -/
structure IsNormal (ext : String) : Prop where
  dot : ext.toList.head? = some '.'
  back : ∀ c ∈ ext.toList.getLast?, isBlank c = false

theorem not_isBlank_dot : isBlank '.' = false := by decide

theorem normalizeExtension_of_isNormal {ext : String} (h : IsNormal ext) :
    normalizeExtension ext = ext := by
  obtain ⟨rest, hrest⟩ := List.head?_eq_some_iff.1 h.dot
  have htrimmed : Trimmed ext.toList := by
    refine ⟨fun c hc => ?_, h.back⟩
    rw [h.dot] at hc
    exact Option.some.inj hc ▸ not_isBlank_dot
  have hdot : normalizeExtension ext = .ofList ('.' :: rest) := by
    rw [normalizeExtension, trim_of_trimmed htrimmed, hrest]
    rfl
  rw [hdot, ← hrest, String.ofList_toList]

theorem normalizeExtension_of_blank {ext : String} (h : trim ext.toList = []) :
    normalizeExtension ext = "" := by
  rw [normalizeExtension, h]

theorem isNormal_normalizeExtension {ext : String} (h : trim ext.toList ≠ []) :
    IsNormal (normalizeExtension ext) := by
  have hback := not_isBlank_of_mem_getLast?_trim ext.toList
  obtain ⟨c, cs, htrim⟩ := List.exists_cons_of_ne_nil h
  rw [htrim] at hback
  by_cases hdot : c = '.'
  · subst hdot
    rw [normalizeExtension, htrim]
    exact ⟨by simp, by simpa using hback⟩
  · have hname : normalizeExtension ext = .ofList ('.' :: c :: cs) := by
      simp [normalizeExtension, htrim, hdot]
    rw [hname]
    exact ⟨by simp, by simpa using hback⟩

/-- Normalizing twice is normalizing once. -/
theorem normalizeExtension_normalizeExtension (ext : String) :
    normalizeExtension (normalizeExtension ext) = normalizeExtension ext := by
  by_cases hblank : trim ext.toList = []
  · rw [normalizeExtension_of_blank hblank]
    rfl
  · exact normalizeExtension_of_isNormal (isNormal_normalizeExtension hblank)

/-- Blanks around an extension play no part in its normal form. -/
theorem normalizeExtension_trim (ext : String) :
    normalizeExtension (.ofList (trim ext.toList)) = normalizeExtension ext := by
  rw [normalizeExtension, normalizeExtension, String.toList_ofList,
    trim_of_trimmed (trimmed_trim ext.toList)]

/-! ### Lists -/

/-- A list is cut at the commas that it was joined with. -/
theorem readExtensions_intercalate {exts : List String} (hne : exts ≠ [])
    (hcomma : ∀ ext ∈ exts, ',' ∉ ext.toList) (hblank : ∀ ext ∈ exts, trim ext.toList ≠ []) :
    readExtensions (",".intercalate exts) = exts.map normalizeExtension := by
  have hsplit : split ',' (",".intercalate exts).toList = exts.map String.toList := by
    have hpieces : ∀ piece ∈ exts.map String.toList, ',' ∉ piece := by simpa using hcomma
    have hjoin : (",".intercalate exts).toList = join ',' (exts.map String.toList) := by
      rw [String.toList_intercalate, join_eq_intercalate]
      rfl
    rw [hjoin, split_join hpieces (by simpa using hne)]
  have hitems : (exts.map (trim ∘ String.toList)).filter (· ≠ []) =
      exts.map (trim ∘ String.toList) := by
    refine List.filter_eq_self.2 fun item hitem => ?_
    obtain ⟨ext, hext, rfl⟩ := List.mem_map.1 hitem
    simpa using hblank ext hext
  rw [readExtensions, hsplit, List.map_map]
  simp only [hitems, List.map_map]
  refine List.map_congr_left fun ext _ => ?_
  rw [Function.comp_apply, Function.comp_apply, normalizeExtension_trim]

theorem extensions_withExtensions (s : Settings) (exts : List String) :
    (s.withExtensions exts).extensions = exts.map normalizeExtension := rfl

/-- Extensions that hold no comma and are not blank are the same from the environment, joined with
    commas, and from single arguments; each has a dot in front and no blank at an end, so that
    setting them once more changes nothing. -/
theorem extensions_ofEnv {exts : List String} (hne : exts ≠ [])
    (hcomma : ∀ ext ∈ exts, ',' ∉ ext.toList)
    (hblank : ∀ ext ∈ exts, ∃ c ∈ ext.toList, isBlank c = false) {env : Env}
    (henv : env.lookup "ROUTESCAN_EXTENSIONS" = some (",".intercalate exts)) :
    (∀ s : Settings, (s.withExtensions exts).extensions = (ofEnv env).extensions ∧
      (s.withExtensions exts).withExtensions (s.withExtensions exts).extensions =
        s.withExtensions exts) ∧
    (∀ (args : CommandLine.Arguments) (other : Env), args.extensions = exts →
      (args.settings other).extensions = (ofEnv env).extensions) ∧
    ∀ ext ∈ (ofEnv env).extensions, IsNormal ext := by
  have htrim : ∀ ext ∈ exts, trim ext.toList ≠ [] := fun ext hext =>
    (trim_ne_nil_iff ext.toList).2 (hblank ext hext)
  have hload : (ofEnv env).extensions = exts.map normalizeExtension := by
    rw [← readExtensions_intercalate hne hcomma htrim]
    simp only [ofEnv, henv]
  rw [hload]
  refine ⟨fun s => ⟨extensions_withExtensions s exts, ?_⟩, fun args other hargs => ?_,
    fun ext hext => ?_⟩
  · have htwice : (exts.map normalizeExtension).map normalizeExtension =
        exts.map normalizeExtension := by
      rw [List.map_map]
      refine List.map_congr_left fun ext _ => ?_
      rw [Function.comp_apply, normalizeExtension_normalizeExtension]
    rw [extensions_withExtensions]
    simp only [withExtensions, htwice]
  · have hgiven : exts.isEmpty = false := by simpa using hne
    simp only [CommandLine.Arguments.settings, hargs, hgiven, Bool.false_eq_true, if_false,
      extensions_withExtensions]
  · obtain ⟨given, hgiven, rfl⟩ := List.mem_map.1 hext
    exact isNormal_normalizeExtension (htrim given hgiven)

/-- Extensions with blanks around them, one of them not of ASCII, and with and without a dot. -/
theorem extensions_ofEnv_padded :
    let exts := [" js", ".mjs\t", "\u3000d.ts"]
    let env : Env := [("ROUTESCAN_EXTENSIONS", " js,.mjs\t,\u3000d.ts")]
    exts ≠ [] ∧ (∀ ext ∈ exts, ',' ∉ ext.toList) ∧
      (∀ ext ∈ exts, ∃ c ∈ ext.toList, isBlank c = false) ∧
      env.lookup "ROUTESCAN_EXTENSIONS" = some (",".intercalate exts) ∧
      (ofEnv env).extensions = [".js", ".mjs", ".d.ts"] := by
  intro exts env
  have hne : exts ≠ [] := by simp [exts]
  have hcomma : ∀ ext ∈ exts, ',' ∉ ext.toList := by decide
  have hblank : ∀ ext ∈ exts, ∃ c ∈ ext.toList, isBlank c = false := by
    have hletter : isBlank 's' = false := by decide
    simp [exts, hletter]
  have henv : env.lookup "ROUTESCAN_EXTENSIONS" = some (",".intercalate exts) := by
    simp [env, exts]
  refine ⟨hne, hcomma, hblank, henv, ?_⟩
  rw [← ((extensions_ofEnv hne hcomma hblank henv).1 (ofEnv [])).1, extensions_withExtensions]
  decide

end RouteInventory.Settings
