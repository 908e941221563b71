import RouteInventory.Settings
import RouteInventory.Proofs.Text.Blanks
import RouteInventory.Proofs.Text.LowerCase

/-!
Which settings can be used. The check of settings passes exactly those whose extensions, tag, log
level and excluded names are each of the form asked for (`check_eq_ok_iff`).
-/

namespace RouteInventory

open Text

namespace LogLevel

/-- The names of the levels. -/
def names : List String := ["trace", "debug", "info", "warn", "error"]

/-- A text means a level if its lower case is the name of one. -/
theorem isSome_ofName?_iff_lower (text : String) :
    (ofName? text).isSome = true ↔ ∃ name ∈ names, lower text = name := by
  rw [ofName?]
  split
  all_goals simp_all [names]

/-- A text means a level if it is the name of one, in whatever case. -/
theorem isSome_ofName?_iff (text : String) :
    (ofName? text).isSome = true ↔
      ∃ name ∈ names, text.toList.map Char.toLower = name.toList := by
  have hletters : ∀ name ∈ names, ∀ k ∈ name.toList, k.isLower = true ∧ k ≠ 'k' := by
    simp [names]
  rw [isSome_ofName?_iff_lower]
  refine exists_congr fun name => and_congr_right fun hname => ?_
  exact lower_eq_iff (hletters name hname) text

end LogLevel

namespace Settings

/-- Whether settings can be used. -/
structure Usable (s : Settings) : Prop where
  someExtension : s.extensions ≠ []
  extension : ∀ ext ∈ s.extensions, 2 ≤ octetCount ext.toList ∧ ext.toList.head? = some '.' ∧
    ∀ c ∈ ext.toList, c ≠ '/' ∧ c ≠ '\\' ∧ isBlank c = false
  tag : s.queryTag ≠ "" ∧ ∀ c ∈ s.queryTag.toList, c ≠ '&' ∧ c ≠ '=' ∧ isBlank c = false
  level : ∃ name ∈ LogLevel.names, s.logLevel.toList.map Char.toLower = name.toList
  exclude : ∀ dir ∈ s.excludeDirs,
    (∃ c ∈ dir.toList, isBlank c = false) ∧ ∀ c ∈ dir.toList, c ≠ '/' ∧ c ≠ '\\'

theorem isUsableExtension_iff (ext : String) :
    isUsableExtension ext = true ↔ 2 ≤ octetCount ext.toList ∧ ext.toList.head? = some '.' ∧
      ∀ c ∈ ext.toList, c ≠ '/' ∧ c ≠ '\\' ∧ isBlank c = false := by
  simp [isUsableExtension, and_assoc, Nat.lt_iff_add_one_le]

theorem isUsableTag_iff (tag : String) :
    isUsableTag tag = true ↔
      tag ≠ "" ∧ ∀ c ∈ tag.toList, c ≠ '&' ∧ c ≠ '=' ∧ isBlank c = false := by
  simp [isUsableTag, and_assoc]

theorem trim_ne_nil_iff (s : List Char) : trim s ≠ [] ↔ ∃ c ∈ s, isBlank c = false := by
  constructor
  · intro hne
    have hhead := List.head_mem hne
    refine ⟨_, mem_of_mem_trim hhead, not_isBlank_of_mem_head?_trim s _ ?_⟩
    exact List.head_mem_head? hne
  · rintro ⟨c, hc, hblank⟩
    exact List.ne_nil_of_mem (mem_trim_of_not_isBlank hc hblank)

theorem isUsableExclude_iff (dir : String) :
    isUsableExclude dir = true ↔
      (∃ c ∈ dir.toList, isBlank c = false) ∧ ∀ c ∈ dir.toList, c ≠ '/' ∧ c ≠ '\\' := by
  rw [← trim_ne_nil_iff]
  simp [isUsableExclude]

/-- The check looks at one part of the settings after the other. -/
theorem check_eq_ok_iff_parts (s : Settings) :
    s.check = .ok () ↔ s.extensions ≠ [] ∧
      (∀ ext ∈ s.extensions, isUsableExtension ext = true) ∧ isUsableTag s.queryTag = true ∧
      (LogLevel.ofName? s.logLevel).isSome = true ∧
      ∀ dir ∈ s.excludeDirs, isUsableExclude dir = true := by
  have hextensions : s.extensions.find? (!isUsableExtension ·) = none ↔
      ∀ ext ∈ s.extensions, isUsableExtension ext = true := by simp
  have hdirs : s.excludeDirs.find? (!isUsableExclude ·) = none ↔
      ∀ dir ∈ s.excludeDirs, isUsableExclude dir = true := by simp
  rw [← hextensions, ← hdirs, check]
  repeat' split
  all_goals simp_all [Option.isSome_iff_ne_none]

/-- The check passes the settings that can be used. -/
theorem check_eq_ok_iff (s : Settings) : s.check = .ok () ↔ s.Usable := by
  simp only [check_eq_ok_iff_parts, isUsableExtension_iff, isUsableTag_iff,
    LogLevel.isSome_ofName?_iff, isUsableExclude_iff]
  exact ⟨fun ⟨hsome, hextensions, htag, hlevel, hdirs⟩ =>
      ⟨hsome, hextensions, htag, hlevel, hdirs⟩,
    fun h => ⟨h.someExtension, h.extension, h.tag, h.level, h.exclude⟩⟩

end Settings
end RouteInventory
