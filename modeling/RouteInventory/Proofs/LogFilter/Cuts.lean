import RouteInventory.LogFilter
import RouteInventory.Proofs.Text.Octets
import Mathlib.Data.List.DropRight

/-!
When reading the log filter is given up. A directive is read without the blanks at its ends, but its
parts are cut from the text with the blanks, so blanks in front put every cut out of place. Reading
is given up at a directive where a cut then falls inside a character (`givenUpAt_ofEnv_iff`). That
takes a blank in front and a character of more than one octet (`IsPlain.not_cutsCharacter`).
-/

namespace RouteInventory

open Text

namespace LogDirective

variable {text : List Char} {first stop i : Nat} {c : Char} {part : Part} {d : LogDirective}

/-! ### Places between characters -/

/-- Whether a place, counted in octets, lies between two characters of a text or at an end of it. -/
def IsEdge (text : List Char) (i : Nat) : Prop :=
  ∃ before after, text = before ++ after ∧ octetCount before = i

theorem IsEdge.le (h : IsEdge text i) : i ≤ octetCount text := by
  obtain ⟨before, after, rfl, rfl⟩ := h
  rw [octetCount_append]
  omega

theorem isEdge_end (text : List Char) : IsEdge text (octetCount text) :=
  ⟨text, [], (List.append_nil text).symm, rfl⟩

/-- What lies between two edges can be cut out. -/
theorem exists_cut_eq_ok (hfirst : IsEdge text first) (hstop : IsEdge text stop)
    (hle : first ≤ stop) : ∃ s, cut text first stop = .ok s := by
  obtain ⟨before, after, htext, rfl⟩ := hfirst
  obtain ⟨front, back, htext', rfl⟩ := hstop
  obtain ⟨middle, rfl, rfl⟩ : ∃ middle, front = before ++ middle ∧ after = middle ++ back := by
    rcases List.append_eq_append_iff.1 (htext.symm.trans htext') with
      ⟨middle, hfront, hafter⟩ | ⟨middle, hbefore, hback⟩
    · exact ⟨middle, hfront, hafter⟩
    · -- the front is no longer than what is before it
      have hnone : middle = [] := by
        cases middle with
        | nil => rfl
        | cons c middle =>
          have := c.utf8Size_pos
          rw [hbefore, octetCount_append, octetCount] at hle
          omega
      subst hnone
      exact ⟨[], by simpa using hbefore.symm, by simpa using hback.symm⟩
  refine ⟨middle, ?_⟩
  have hcount : octetCount (before ++ middle) - octetCount before = octetCount middle := by
    rw [octetCount_append, Nat.add_sub_cancel_left]
  rw [cut, between?, htext, afterOctets?_octetCount, Option.bind_some, hcount,
    firstOctets?_octetCount]

/-! ### Reading a directive -/

/-- Where the part begins that is being read. -/
def Part.first? : Part → Option Nat
  | .word first | .span first | .field first | .level first => some first
  | .start | .afterField | .afterSpan => none

/-- Whether the part that is being read begins at an edge up to here. -/
def Part.Begun (text : List Char) (i : Nat) (part : Part) : Prop :=
  ∀ first, part.first? = some first → IsEdge text first ∧ first ≤ i

theorem begun_of_none (h : part.first? = none) : part.Begun text i := by
  intro first hfirst
  rw [h] at hfirst
  cases hfirst

theorem begun_of_some (h : part.first? = some first) (hedge : IsEdge text first) (hle : first ≤ i) :
    part.Begun text i := by
  intro other hother
  obtain rfl := Option.some.inj (h.symm.trans hother)
  exact ⟨hedge, hle⟩

/-- Whether reading has not come upon a cut inside a character, and goes on with a part that begins
    at an edge up to here. -/
def GoesOn (text : List Char) (i : Nat) : Except DirectiveFault (Part × LogDirective) → Prop
  | .ok (part, _) => part.Begun text i
  | .error fault => fault ≠ .splitCharacter

theorem goesOn_step (hi : IsEdge text i) (hnext : IsEdge text (i + c.utf8Size))
    (hpart : part.Begun text i) (d : LogDirective) :
    GoesOn text (i + c.utf8Size) (step text i c part d) := by
  have hstays : part.Begun text (i + c.utf8Size) := fun first h =>
    ⟨(hpart first h).1, (hpart first h).2.trans (Nat.le_add_right ..)⟩
  have hcut : ∀ first, part.first? = some first → ∃ s, cut text first i = .ok s :=
    fun first h => exists_cut_eq_ok (hpart first h).1 hi (hpart first h).2
  -- a part that is begun by a character of one octet begins behind it
  have hbehind : ∀ next : Part, c.utf8Size = 1 → next.first? = some (i + 1) →
      next.Begun text (i + c.utf8Size) := by
    intro next hsize h
    rw [hsize] at hnext ⊢
    exact begun_of_some h hnext le_rfl
  cases part with
  | start =>
    simp only [step]
    split
    · next hc => exact hbehind (.span (i + 1)) (hc ▸ rfl) rfl
    split
    · exact begun_of_some rfl hi (Nat.le_add_right ..)
    · simp [GoesOn]
  | word first =>
    obtain ⟨s, hs⟩ := hcut first rfl
    simp only [step, hs]
    split
    · next hc => exact hbehind (.level (i + 1)) (hc ▸ rfl) rfl
    split
    · next hc => exact hbehind (.span (i + 1)) (hc ▸ rfl) rfl
    · exact hstays
  | span first =>
    obtain ⟨s, hs⟩ := hcut first rfl
    simp only [step, hs]
    split
    · exact begun_of_none rfl
    split
    · next hc => exact hbehind (.field (i + 1)) (hc ▸ rfl) rfl
    · exact hstays
  | field first =>
    obtain ⟨s, hs⟩ := hcut first rfl
    simp only [step, hs]
    split
    · by_cases hempty : s = []
      · simp [GoesOn, hempty, bind, Except.bind, throw, throwThe, MonadExceptOf.throw]
      · simp only [bind, Except.bind, hempty, if_false]
        exact begun_of_none rfl
    · exact hstays
  | afterField =>
    simp only [step]
    split
    · exact begun_of_none rfl
    · simp [GoesOn]
  | afterSpan =>
    simp only [step]
    split
    · next hc => exact hbehind (.level (i + 1)) (hc ▸ rfl) rfl
    · simp [GoesOn]
  | level first => exact hstays

theorem finish_ne_splitCharacter (hpart : part.Begun text i) (d : LogDirective) :
    finish text part d ≠ .error .splitCharacter := by
  have hcut : ∀ first, part.first? = some first → ∃ s, cutFrom text first = .ok s :=
    fun first h => exists_cut_eq_ok (hpart first h).1 (isEdge_end text) (hpart first h).1.le
  cases part with
  | word first =>
    obtain ⟨s, hs⟩ := hcut first rfl
    simp only [finish, hs, bind, Except.bind]
    split
    · simp [pure, Except.pure]
    · split <;> simp [pure, Except.pure]
  | level first =>
    obtain ⟨s, hs⟩ := hcut first rfl
    simp only [finish, hs, bind, Except.bind]
    split
    · simp [pure, Except.pure]
    · split <;> simp [pure, Except.pure, throw, throwThe, MonadExceptOf.throw]
  | start | span | field | afterField | afterSpan => simp [finish]

/-- Whether the places between the characters that are read are edges of the text they are counted
    in. -/
def KeepsEdges (text : List Char) : Prop :=
  ∀ done rest, trim text = done ++ rest → IsEdge text (octetCount done)

theorem readFrom_ne_splitCharacter (hkeeps : KeepsEdges text) (rest : List Char) :
    ∀ (done : List Char) (part : Part) (d : LogDirective), trim text = done ++ rest →
      part.Begun text (octetCount done) →
      readFrom text (octetCount done) part d rest ≠ .error .splitCharacter := by
  induction rest with
  | nil => exact fun done part d _ hpart => finish_ne_splitCharacter hpart d
  | cons c rest ih =>
    intro done part d htrim hpart
    have htrim' : trim text = (done ++ [c]) ++ rest := by simpa using htrim
    have hcount : octetCount (done ++ [c]) = octetCount done + c.utf8Size := by
      rw [octetCount_append, octetCount, octetCount, Nat.add_zero]
    have hgoes := goesOn_step (hkeeps _ _ htrim) (hcount ▸ hkeeps _ _ htrim') hpart d
    rw [readFrom]
    split
    · next fault hstep =>
      rw [hstep] at hgoes
      exact fun h => hgoes (Except.error.inj h)
    · next next d' hstep =>
      rw [hstep] at hgoes
      rw [← hcount] at hgoes ⊢
      exact ih _ next d' htrim' hgoes

/-- A directive whose places are not put out is not cut inside a character. -/
theorem read_ne_splitCharacter (hkeeps : KeepsEdges text) : read text ≠ .error .splitCharacter :=
  readFrom_ne_splitCharacter hkeeps _ [] .start {} rfl (begun_of_none rfl)

/-- Blanks at the end put no place out. -/
theorem keepsEdges_of_front (h : ∀ c ∈ text.head?, isBlank c = false) : KeepsEdges text := by
  intro done rest htrim
  have hfront : trimLeft text = text := by
    cases text with
    | nil => rfl
    | cons c text => exact trimLeft_cons_of_not_blank (h c rfl) text
  obtain ⟨blanks, hblanks⟩ : trim text <+: text := by
    rw [trim, hfront]
    exact List.rdropWhile_prefix isBlank text
  exact ⟨done, rest ++ blanks, by rw [← hblanks, htrim, List.append_assoc], rfl⟩

/-- Nor do blanks in front of characters of one octet. -/
theorem keepsEdges_of_short (h : ∀ c ∈ text, c.utf8Size = 1) : KeepsEdges text := by
  have hcount : ∀ s : List Char, (∀ c ∈ s, c.utf8Size = 1) → octetCount s = s.length := by
    intro s hs
    induction s with
    | nil => rfl
    | cons c s ih =>
      obtain ⟨hc, hrest⟩ := List.forall_mem_cons.1 hs
      rw [octetCount, hc, ih hrest, List.length_cons, Nat.add_comm]
  intro done rest htrim
  have hsub : (trim text).Sublist text :=
    (List.rdropWhile_prefix isBlank _).sublist.trans (List.dropWhile_sublist _)
  have hdone : done.Sublist text := (htrim ▸ List.sublist_append_left done rest).trans hsub
  refine ⟨text.take done.length, text.drop done.length, (List.take_append_drop ..).symm, ?_⟩
  rw [hcount _ fun c hc => h c (List.mem_of_mem_take hc), hcount _ fun c hc => h c (hdone.mem hc),
    List.length_take, Nat.min_eq_left hdone.length_le]

end LogDirective

namespace LogFilter

/-- Whether a piece of the log filter of an environment is cut inside a character. -/
def CutsCharacter (env : Env) : Prop :=
  ∃ directives, env.lookup "RUST_LOG" = some directives ∧
    ∃ piece ∈ split ',' directives.toList, LogDirective.read piece = .error .splitCharacter

theorem givenUpAt_add_iff (filter : LogFilter) (piece : List Char) :
    (filter.add piece).givenUpAt.isSome = true ↔
      filter.givenUpAt.isSome = true ∨ LogDirective.read piece = .error .splitCharacter := by
  rw [add]
  split
  · next hgiven => simp [hgiven]
  · next hgiven =>
    split
    · next hread => simp [hread, hgiven]
    · next hread => simp [hread]
    · next fault hfault hread => simpa [hread, hgiven] using hfault

theorem givenUpAt_foldl_iff (pieces : List (List Char)) (filter : LogFilter) :
    (pieces.foldl add filter).givenUpAt.isSome = true ↔ filter.givenUpAt.isSome = true ∨
      ∃ piece ∈ pieces, LogDirective.read piece = .error .splitCharacter := by
  induction pieces generalizing filter with
  | nil => simp
  | cons piece pieces ih =>
    rw [List.foldl_cons, ih, givenUpAt_add_iff, List.exists_mem_cons_iff, or_assoc]

/-- Reading is given up exactly at a cut inside a character. -/
theorem givenUpAt_ofEnv_iff (env : Env) (level : LogLevel) :
    (ofEnv env level).givenUpAt.isSome = true ↔ CutsCharacter env := by
  rw [ofEnv, CutsCharacter]
  cases henv : env.lookup "RUST_LOG" with
  | none => simp
  | some directives =>
    -- the empty pieces that are left out are no directives
    have hempty : LogDirective.read [] ≠ .error .splitCharacter := by decide
    simp only [read, givenUpAt_foldl_iff, List.mem_filter, Option.some.injEq, exists_eq_left']
    constructor
    · rintro (hnone | ⟨piece, ⟨hpiece, -⟩, hread⟩)
      · cases hnone
      · exact ⟨piece, hpiece, hread⟩
    · rintro ⟨piece, hpiece, hread⟩
      refine .inr ⟨piece, ⟨hpiece, ?_⟩, hread⟩
      rw [decide_eq_true_iff]
      rintro rfl
      exact hempty hread

/-- Whether every piece of the log filter of an environment has no blank in front or nothing but
    characters of one octet. -/
def IsPlain (env : Env) : Prop :=
  ∀ directives, env.lookup "RUST_LOG" = some directives →
    ∀ piece ∈ split ',' directives.toList,
      (∀ c ∈ piece.head?, isBlank c = false) ∨ ∀ c ∈ piece, c.utf8Size = 1

theorem IsPlain.not_cutsCharacter {env : Env} (h : IsPlain env) : ¬ CutsCharacter env := by
  rintro ⟨directives, hlookup, piece, hpiece, hread⟩
  refine LogDirective.read_ne_splitCharacter ?_ hread
  rcases h directives hlookup piece hpiece with hfront | hshort
  · exact LogDirective.keepsEdges_of_front hfront
  · exact LogDirective.keepsEdges_of_short hshort

end LogFilter
end RouteInventory
