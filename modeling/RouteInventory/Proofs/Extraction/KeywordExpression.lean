import RouteInventory.Glob.Expression
import RouteInventory.Proofs.Extraction.KeywordPlaces
import RouteInventory.Proofs.Text.Pieces

/-!
Keywords as one regular expression. The words are joined into an alternation between two word
boundaries, `\b(?:…|…)\b`, each of them written so that none of its characters has a meaning of its
own in the expression (`escape`). The text of the expression is read back into that alternation,
whatever characters the words hold (`parse_expressionText`), so the expression for a list of
keywords is found in the lines that are hit (`hits_iff_foundIn`).
-/

namespace RouteInventory.Extraction

open Text SecretRules

/-! ### Expressions -/

/-- A regular expression without repetition; its characters stand for their case variants too. -/
inductive Expression
  | empty
  | char (k : Char)
  | edge
  | seq (e f : Expression)
  | alt (e f : Expression)

namespace Expression

/-- What an expression takes of a text that is cut in three: the part in the middle. -/
def Takes : Expression → List Char → List Char → List Char → Prop
  | empty, _, s, _ => s = []
  | char k, _, s, _ => SameText s [k]
  | edge, before, s, after => s = [] ∧ Cut before after
  | seq e f, before, s, after =>
    ∃ t u, s = t ++ u ∧ e.Takes before t (u ++ after) ∧ f.Takes (before ++ t) u after
  | alt e f, before, s, after => e.Takes before s after ∨ f.Takes before s after

/-- The expression takes some part of the line. -/
def FoundIn (e : Expression) (line : List Char) : Prop :=
  ∃ before s after, line = before ++ s ++ after ∧ e.Takes before s after

/-- An expression and behind it the characters of a word. -/
def followedBy (e : Expression) (word : List Char) : Expression :=
  word.foldl (fun e k => e.seq (.char k)) e

/-- An expression or one of the words. -/
def orOneOf (e : Expression) (words : List (List Char)) : Expression :=
  words.foldl (fun e word => e.alt (empty.followedBy word)) e

/-- A word boundary, one of the words, a word boundary. -/
def wholeWord (first : List Char) (words : List (List Char)) : Expression :=
  ((empty.seq edge).seq ((empty.followedBy first).orOneOf words)).seq edge

variable {before s after : List Char}

/-- An expression behind a boundary. -/
theorem takes_edge_seq {e : Expression} : ((empty.seq edge).seq e).Takes before s after ↔
    Cut before (s ++ after) ∧ e.Takes before s after := by
  constructor
  · rintro ⟨-, s, rfl, ⟨-, -, rfl, rfl, rfl, hcut⟩, htakes⟩
    simp only [List.nil_append, List.append_nil] at hcut htakes ⊢
    exact ⟨hcut, htakes⟩
  · rintro ⟨hcut, htakes⟩
    refine ⟨[], s, rfl, ⟨[], [], rfl, rfl, rfl, ?_⟩, ?_⟩
    · rwa [List.append_nil]
    · rwa [List.append_nil]

/-- An expression before a boundary. -/
theorem takes_seq_edge {e : Expression} : (e.seq edge).Takes before s after ↔
    e.Takes before s after ∧ Cut (before ++ s) after := by
  constructor
  · rintro ⟨s, -, rfl, htakes, rfl, hcut⟩
    rw [List.append_nil]
    exact ⟨htakes, hcut⟩
  · rintro ⟨htakes, hcut⟩
    exact ⟨s, [], (List.append_nil s).symm, htakes, rfl, hcut⟩

/-- The characters of a word take the texts that are equal to it up to case. -/
theorem takes_word (word : List Char) :
    (empty.followedBy word).Takes before s after ↔ SameText s word := by
  induction word using List.reverseRecOn generalizing s after with
  | nil => exact List.forall₂_nil_right_iff.symm
  | append_singleton word k ih =>
    rw [followedBy, List.foldl_concat]
    constructor
    · rintro ⟨t, u, rfl, hword, hlast⟩
      exact List.rel_append (ih.1 hword) hlast
    · intro hsame
      exact ⟨_, _, (List.take_append_drop word.length s).symm,
        ih.2 (List.forall₂_take_append s word [k] hsame), List.forall₂_drop_append s word [k] hsame⟩

theorem takes_orOneOf {e : Expression} {words : List (List Char)} :
    (e.orOneOf words).Takes before s after ↔
      e.Takes before s after ∨ ∃ word ∈ words, SameText s word := by
  induction words generalizing e with
  | nil => simp [orOneOf]
  | cons word words ih =>
    have hstep : e.orOneOf (word :: words) = (e.alt (empty.followedBy word)).orOneOf words := rfl
    rw [hstep, ih, Takes, takes_word, or_assoc]
    simp

/-- The expression is found in the lines in which one of the words stands. -/
theorem foundIn_wholeWord {first line : List Char} {words : List (List Char)} :
    (wholeWord first words).FoundIn line ↔ ∃ word ∈ first :: words, StandsIn word line := by
  have hwords : ∀ before s after, (wholeWord first words).Takes before s after ↔
      ∃ word ∈ first :: words, SameText s word ∧
        Cut before (s ++ after) ∧ Cut (before ++ s) after := by
    intro before s after
    rw [wholeWord, takes_seq_edge, takes_edge_seq, takes_orOneOf, takes_word,
      ← List.exists_mem_cons_iff]
    constructor
    · rintro ⟨⟨hfirst, word, hword, hsame⟩, hlast⟩
      exact ⟨word, hword, hsame, hfirst, hlast⟩
    · rintro ⟨word, hword, hsame, hfirst, hlast⟩
      exact ⟨⟨hfirst, word, hword, hsame⟩, hlast⟩
  constructor
  · rintro ⟨before, s, after, hline, htakes⟩
    obtain ⟨word, hword, hstands⟩ := (hwords before s after).1 htakes
    exact ⟨word, hword, before, s, after, hline, hstands⟩
  · rintro ⟨word, hword, before, s, after, hline, hstands⟩
    exact ⟨before, s, after, hline, (hwords before s after).2 ⟨word, hword, hstands⟩⟩

end Expression

/-! ### The text of an expression -/

/-- What the text of an expression consists of. -/
inductive Token
  | char (k : Char)
  | edge
  | opening
  | closing
  | bar

/-- The tokens of a text, if each part of it is one. -/
def tokens : List Char → Option (List Token)
  | [] => some []
  | '\\' :: 'b' :: rest => (tokens rest).map (.edge :: ·)
  | '\\' :: c :: rest => if Glob.isSpecial c then (tokens rest).map (.char c :: ·) else none
  | '(' :: '?' :: ':' :: rest => (tokens rest).map (.opening :: ·)
  | ')' :: rest => (tokens rest).map (.closing :: ·)
  | '|' :: rest => (tokens rest).map (.bar :: ·)
  | c :: rest => if Glob.isSpecial c then none else (tokens rest).map (.char c :: ·)

/-- A group as far as it has been read: its alternatives before the last bar, if there has been one,
    and what stands behind it. -/
structure OpenGroup where
  earlier : Option Expression
  current : Expression

namespace OpenGroup

/-- Nothing has been read. -/
def start : OpenGroup := ⟨none, .empty⟩

/-- One more expression has been read. -/
def push (g : OpenGroup) (e : Expression) : OpenGroup := ⟨g.earlier, g.current.seq e⟩

/-- The whole group. -/
def close (g : OpenGroup) : Expression :=
  match g.earlier with
  | none => g.current
  | some e => e.alt g.current

/-- Reads on in a group that stands in others, the innermost of these first. -/
def read (g : OpenGroup) : List OpenGroup → List Token → Option Expression
  | [], [] => some g.close
  | _ :: _, [] => none
  | outer, .char k :: rest => (g.push (.char k)).read outer rest
  | outer, .edge :: rest => (g.push .edge).read outer rest
  | outer, .opening :: rest => start.read (g :: outer) rest
  | outer, .bar :: rest => read ⟨some g.close, .empty⟩ outer rest
  | [], .closing :: _ => none
  | h :: outer, .closing :: rest => (h.push g.close).read outer rest

end OpenGroup

/-- The expression that a text stands for. -/
def parse (text : List Char) : Option Expression := (tokens text).bind (OpenGroup.start.read [])

theorem tokens_plain {c : Char} (hc : Glob.isSpecial c = false) (rest : List Char) :
    tokens (c :: rest) = (tokens rest).map (.char c :: ·) := by
  rw [tokens.eq_def]
  split
  case h_1 heq => cases heq
  case h_7 heq =>
    obtain ⟨rfl, rfl⟩ := List.cons.inj heq
    rw [hc]
    rfl
  all_goals
    next heq =>
      obtain ⟨rfl, -⟩ := List.cons.inj heq
      exact absurd hc (by decide)

theorem tokens_special {c : Char} (hc : Glob.isSpecial c = true) (rest : List Char) :
    tokens ('\\' :: c :: rest) = (tokens rest).map (.char c :: ·) := by
  have hb : c ≠ 'b' := by
    rintro rfl
    exact absurd hc (by decide)
  rw [tokens, if_pos hc]
  exact hb

theorem tokens_escape (word rest : List Char) :
    tokens (escape word ++ rest) = (tokens rest).map (word.map Token.char ++ ·) := by
  induction word with
  | nil => simp [escape]
  | cons c word ih =>
    have hcons : tokens (escape (c :: word) ++ rest) =
        (tokens (escape word ++ rest)).map (.char c :: ·) := by
      rw [escape, List.flatMap_cons, ← escape]
      split
      · next hc => exact tokens_special hc _
      · next hc => exact tokens_plain (Bool.eq_false_iff.2 hc) _
    rw [hcons, ih, Option.map_map]
    rfl

/-- The words behind the first, each behind a bar. -/
theorem tokens_bars (words : List (List Char)) (rest : List Char) :
    tokens (words.flatMap (fun word => '|' :: escape word) ++ rest) =
      (tokens rest).map (words.flatMap (fun word => .bar :: word.map Token.char) ++ ·) := by
  induction words with
  | nil => simp
  | cons word words ih =>
    have hbar : ∀ text, tokens ('|' :: text) = (tokens text).map (.bar :: ·) := fun _ => rfl
    rw [List.flatMap_cons, List.append_assoc, List.cons_append, hbar, tokens_escape, ih,
      Option.map_map, Option.map_map]
    simp [Function.comp_def]

theorem join_cons_eq_flatMap (sep : Char) (piece : List Char) (pieces : List (List Char)) :
    join sep (piece :: pieces) = piece ++ pieces.flatMap (sep :: ·) := by
  induction pieces generalizing piece with
  | nil => simp [join]
  | cons next pieces ih => rw [join_cons_cons, ih]; rfl

/-- No character of a word is taken for anything but itself. -/
theorem tokens_expressionText (first : List Char) (words : List (List Char)) :
    tokens (expressionText (first :: words)) = some (.edge :: .opening :: (first.map Token.char ++
      (words.flatMap (fun word => .bar :: word.map Token.char) ++ [.closing, .edge]))) := by
  have hopen : ∀ text, tokens (['\\', 'b', '(', '?', ':'] ++ text) =
      (tokens text).map fun rest => .edge :: .opening :: rest := by
    intro text
    simp [tokens, Function.comp_def]
  have hclose : tokens [')', '\\', 'b'] = some [.closing, .edge] := rfl
  rw [expressionText, List.map_cons, join_cons_eq_flatMap, List.flatMap_map, List.append_assoc,
    List.append_assoc, hopen, tokens_escape, tokens_bars, hclose]
  rfl

theorem read_word (g : OpenGroup) (outer : List OpenGroup) (word : List Char) (rest : List Token) :
    g.read outer (word.map .char ++ rest) =
      OpenGroup.read ⟨g.earlier, g.current.followedBy word⟩ outer rest := by
  induction word generalizing g with
  | nil => rfl
  | cons k word ih =>
    have hstep : g.read outer ((k :: word).map .char ++ rest) =
        (g.push (.char k)).read outer (word.map .char ++ rest) := by
      cases outer <;> rfl
    rw [hstep, ih]
    rfl

/-- Words behind bars go to the alternatives of the group that they stand in. -/
theorem read_bars (g h : OpenGroup) (outer : List OpenGroup) (words : List (List Char))
    (rest : List Token) :
    g.read (h :: outer)
        (words.flatMap (fun word => .bar :: word.map Token.char) ++ .closing :: rest) =
      (h.push (g.close.orOneOf words)).read outer rest := by
  induction words generalizing g with
  | nil => cases outer <;> rfl
  | cons word words ih =>
    have hbar : ∀ rest, g.read (h :: outer) (.bar :: rest) =
        OpenGroup.read ⟨some g.close, .empty⟩ (h :: outer) rest := fun _ => rfl
    rw [List.flatMap_cons, List.append_assoc, List.cons_append, hbar, read_word, ih]
    rfl

/-- The text of the expression is read as a choice of the words between two boundaries, whatever
    characters the words hold. -/
theorem parse_expressionText (first : List Char) (words : List (List Char)) :
    parse (expressionText (first :: words)) = some (.wholeWord first words) := by
  have hopen : ∀ rest, OpenGroup.start.read [] (.edge :: .opening :: rest) =
      OpenGroup.start.read [OpenGroup.start.push .edge] rest := fun _ => rfl
  rw [parse, tokens_expressionText, Option.bind_some, hopen, read_word, read_bars]
  rfl

/-! ### The expression of a list of keywords -/

namespace SecretRules

variable (rules : SecretRules)

/-- The expression that lines are matched with; there is none if nothing is looked for. -/
def matcher? : Option Expression :=
  if rules.isEnabled then parse (expressionText (rules.keywords.map fun k => trim k.toList))
  else none

theorem matcher?_eq : rules.matcher? =
    match rules.keywords.map (fun k => trim k.toList) with
    | [] => none
    | first :: words => some (.wholeWord first words) := by
  rw [matcher?, isEnabled]
  cases rules.keywords with
  | nil => rfl
  | cons k keywords => exact parse_expressionText _ _

/-- There is an expression exactly if there is a keyword. -/
theorem isSome_matcher? : rules.matcher?.isSome = rules.isEnabled := by
  rw [matcher?_eq, isEnabled]
  cases rules.keywords <;> rfl

/-- A line is hit if the expression is found in it. -/
theorem hits_iff_foundIn (line : List Char) :
    rules.hits line = true ↔ ∃ e ∈ rules.matcher?, e.FoundIn line := by
  have hstands : rules.hits line = true ↔
      ∃ word ∈ rules.keywords.map (fun k => trim k.toList), StandsIn word line := by
    rw [hits_iff]
    simp
  rw [hstands, matcher?_eq]
  cases rules.keywords.map (fun k => trim k.toList) with
  | nil => simp
  | cons first words => simp [Expression.foundIn_wholeWord]

/-- Keywords are compiled unless there are any and their expression is refused. What is compiled
    looks for those that are not blank. -/
theorem withKeywords_eq_ok_iff {ε : Type} {refusal? : List Char → Option ε}
    {keywords : List String} : withKeywords refusal? keywords = .ok rules ↔
      rules = ofKeywords keywords ∧ (rules.isEnabled = true →
        refusal? (expressionText (rules.keywords.map fun k => trim k.toList)) = none) := by
  rw [withKeywords]
  cases hon : (ofKeywords keywords).isEnabled with
  | false =>
    have hnone : ofKeywords keywords = disabled := by
      rw [isEnabled, Bool.not_eq_false', List.isEmpty_iff] at hon
      exact congrArg SecretRules.mk hon
    simp only [Bool.false_eq_true, if_false, Except.ok.injEq, hnone]
    constructor
    · rintro rfl
      exact ⟨rfl, nofun⟩
    · exact fun h => h.1.symm
  | true =>
    cases hrefusal : refusal? (expressionText
        ((ofKeywords keywords).keywords.map fun k => trim k.toList)) with
    | none =>
      simp only [if_true, Except.ok.injEq]
      constructor
      · rintro rfl
        exact ⟨rfl, fun _ => hrefusal⟩
      · exact fun h => h.1.symm
    | some e =>
      simp only [if_true, reduceCtorEq, false_iff]
      rintro ⟨rfl, haccepted⟩
      rw [haccepted hon] at hrefusal
      cases hrefusal

end SecretRules
end RouteInventory.Extraction
