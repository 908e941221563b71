import RouteInventory.Glob.Expression
import RouteInventory.Proofs.Text.Octets
import RouteInventory.Proofs.Text.Pieces
import Mathlib.Data.List.Infix

/-!
Globs for a name at any depth. A name without special characters is read as itself (`parse_deep`),
and the glob matches a path exactly if the path's last piece is the name (`isMatch_deep_iff`). Each
table of a match holds one answer for each of the ends of the path, so it is given by a condition on
ends.
-/

namespace RouteInventory.Glob

/-! ### Reading -/

/-- Whether a character stands for itself in a glob and in a path. -/
def isOrdinary (c : Char) : Bool := !(['/', '\\', '*', '?', '[', ']', '{', '}'].contains c)

/-- The tokens of a name at any depth. -/
def deepTokens (name : List Char) : List Token := .deepFront :: name.map .literal

theorem read_of_isOrdinary {st : State} {c : Char} (hc : isOrdinary c = true) (lenient : Bool)
    (hopened : st.opened = []) (rest : List Char) :
    st.read lenient c rest = .ok (st.push (.literal c), 0) := by
  simp [isOrdinary] at hc
  by_cases hcomma : c = ',' <;> simp [State.read, hc, hcomma, hopened]

/-- Ordinary characters are read one by one. -/
theorem readFrom_of_isOrdinary {name : List Char} (hname : ∀ c ∈ name, isOrdinary c = true)
    (lenient : Bool) : ∀ st : State, st.opened = [] →
    ∃ last, readFrom lenient st 0 name = .ok last ∧ last.opened = [] ∧
      last.current = (name.map .literal).reverse ++ st.current := by
  induction name with
  | nil => exact fun _ hopened => ⟨_, rfl, hopened, rfl⟩
  | cons c name ih =>
    intro st hopened
    obtain ⟨hc, hrest⟩ := List.forall_mem_cons.1 hname
    obtain ⟨last, hlast, hclosed, hcurrent⟩ :=
      ih hrest { st.push (.literal c) with prev := some c } hopened
    refine ⟨last, ?_, hclosed, ?_⟩
    · simp only [readFrom, read_of_isOrdinary hc lenient hopened, hlast]
    · simp [hcurrent, State.push]

theorem parse_deep {name : List Char} (hname : ∀ c ∈ name, isOrdinary c = true) (lenient : Bool) :
    parse lenient ("**/".toList ++ name) = .ok (deepTokens name) := by
  obtain ⟨last, hlast, hclosed, hcurrent⟩ :=
    readFrom_of_isOrdinary hname lenient ⟨[.deepFront], [], some '/', false⟩ rfl
  have hread : readFrom lenient ⟨[], [], none, false⟩ 0 ("**/".toList ++ name) = .ok last := hlast
  have hcurrent' : last.current.reverse = deepTokens name := by
    rw [hcurrent]
    simp [deepTokens]
  rw [parse, hread]
  simp [hclosed, hcurrent', bind, Except.bind, pure, Except.pure]

/-! ### Tables -/

section Tables

variable (s : List UInt8) (accepts : List UInt8 → Bool)

/-- The table of a condition on the ends of a path. -/
def Ahead.of : Ahead := s.tails.map accepts

/-- Whether a text begins with another and goes on with what is accepted. -/
def goesOn (front : List UInt8) (rest : List UInt8) : Bool :=
  front.isPrefixOf rest && accepts (rest.drop front.length)

theorem headD_of : (Ahead.of s accepts).headD false = accepts s := by
  cases s <;> rfl

theorem atEnd_eq_of : Ahead.atEnd s = Ahead.of s List.isEmpty := by
  induction s with
  | nil => rfl
  | cons b s ih => rw [Ahead.atEnd, ih]; rfl

theorem octet_of (o : UInt8) :
    Ahead.octet (· == o) s (Ahead.of s accepts) = Ahead.of s (goesOn accepts [o]) := by
  induction s with
  | nil => rfl
  | cons b s ih =>
    have hhead := headD_of s accepts
    simp only [Ahead.of, List.tails_cons, List.map_cons, Ahead.octet] at ih hhead ⊢
    rw [ih, hhead]
    simp [goesOn, List.isPrefixOf, Bool.beq_comm]

theorem anything_of :
    Ahead.anything s (Ahead.of s accepts) = Ahead.of s fun rest => rest.tails.any accepts := by
  induction s with
  | nil => simp [Ahead.anything, Ahead.stretch, Ahead.of]
  | cons b s ih =>
    have hhead := headD_of s fun rest => rest.tails.any accepts
    simp only [Ahead.anything, Ahead.of, List.tails_cons, List.map_cons, Ahead.stretch]
      at ih hhead ⊢
    rw [ih, hhead]
    simp

theorem either_of (other : List UInt8 → Bool) :
    Ahead.either (Ahead.of s accepts) (Ahead.of s other) =
      Ahead.of s fun rest => accepts rest || other rest := by
  simp [Ahead.either, Ahead.of, List.zipWith_map, List.zipWith_self]

theorem goesOn_goesOn (a b rest : List UInt8) :
    goesOn (goesOn accepts b) a rest = goesOn accepts (a ++ b) rest := by
  induction a generalizing rest with
  | nil => simp [goesOn, List.isPrefixOf]
  | cons o a ih =>
    cases rest with
    | nil => simp [goesOn, List.isPrefixOf]
    | cons x rest =>
      have := ih rest
      simp only [goesOn, List.isPrefixOf, List.cons_append, List.length_cons, List.drop_succ_cons,
        Bool.and_assoc] at this ⊢
      rw [this]

theorem foldr_octet_of (octets : List UInt8) :
    octets.foldr (fun o next => Ahead.octet (· == o) s next) (Ahead.of s accepts) =
      Ahead.of s (goesOn accepts octets) := by
  induction octets with
  | nil => simp [goesOn, Ahead.of, List.isPrefixOf]
  | cons o octets ih =>
    rw [List.foldr_cons, ih, octet_of]
    congr 1
    funext rest
    exact goesOn_goesOn accepts [o] octets rest

/-- A text in a glob takes its octets. -/
theorem tokensAhead_literals (name : List Char) :
    tokensAhead (name.map .literal) s (Ahead.of s accepts) =
      Ahead.of s (goesOn accepts (Text.encode name)) := by
  induction name with
  | nil => simp [tokensAhead, goesOn, Ahead.of, List.isPrefixOf, Text.encode]
  | cons c name ih =>
    rw [List.map_cons, tokensAhead, ih, Token.ahead, foldr_octet_of]
    congr 1
    funext rest
    exact goesOn_goesOn accepts _ _ rest

end Tables

theorem goesOn_isEmpty {front rest : List UInt8} :
    goesOn List.isEmpty front rest = true ↔ rest = front := by
  rw [goesOn, Bool.and_eq_true, List.isPrefixOf_iff_prefix, List.isEmpty_iff]
  constructor
  · rintro ⟨⟨tail, rfl⟩, h⟩
    rw [List.drop_left] at h
    rw [h, List.append_nil]
  · rintro rfl
    exact ⟨List.prefix_rfl, List.drop_length⟩

/-! ### Matching -/

/-- The glob of a name matches the name, and the name after a slash. -/
theorem isMatch_deep_octets {name : List Char} (hne : name ≠ []) (path : List UInt8) :
    isMatch (deepTokens name) path = true ↔
      path = Text.encode name ∨ slash :: Text.encode name <:+ path := by
  obtain ⟨c, cs, rfl⟩ := List.exists_cons_of_ne_nil hne
  have htables : tokensAhead (deepTokens (c :: cs)) path (Ahead.atEnd path) =
      Ahead.of path fun rest => goesOn List.isEmpty (Text.encode (c :: cs)) rest ||
        rest.tails.any (goesOn List.isEmpty (slash :: Text.encode (c :: cs))) := by
    rw [deepTokens, tokensAhead, atEnd_eq_of, tokensAhead_literals, Token.ahead, Ahead.deep,
      Ahead.afterSlash, octet_of, anything_of, either_of]
    congr 1
    funext rest
    congr 2
    funext tail
    exact goesOn_goesOn List.isEmpty [slash] _ tail
  have hmatch : isMatch (deepTokens (c :: cs)) path =
      (tokensAhead (deepTokens (c :: cs)) path (Ahead.atEnd path)).headD false := rfl
  rw [hmatch, htables, headD_of, Bool.or_eq_true, goesOn_isEmpty, List.any_eq_true]
  simp only [List.mem_tails, goesOn_isEmpty, exists_eq_right]

theorem cons_suffix_append_cons_iff {α : Type} {a : α} {x y z : List α} (hx : a ∉ x) (hy : a ∉ y) :
    a :: x <:+ z ++ a :: y ↔ x = y := by
  constructor
  · rintro ⟨front, h⟩
    rcases List.append_eq_append_iff.1 h with ⟨c, -, hc⟩ | ⟨c, -, hc⟩
    · rcases List.cons_eq_append_iff.1 hc with ⟨-, hy'⟩ | ⟨d, -, rfl⟩
      · exact (List.cons.inj hy').2.symm
      · simp at hx
    · rcases List.cons_eq_append_iff.1 hc with ⟨-, hy'⟩ | ⟨d, -, rfl⟩
      · exact (List.cons.inj hy').2
      · simp at hy
  · rintro rfl
    exact List.suffix_append _ _

theorem slash_mem_encode_iff {s : List Char} : slash ∈ Text.encode s ↔ '/' ∈ s :=
  Text.ascii_mem_encode_iff (a := '/') (by decide)

/-- The glob of a name matches the paths whose last piece is the name. -/
theorem isMatch_deep_iff {name : List Char} (hne : name ≠ []) (hslash : '/' ∉ name)
    (path : List Char) :
    isMatch (deepTokens name) (Text.encode path) = true ↔ Text.lastPiece '/' path = name := by
  rw [isMatch_deep_octets hne]
  by_cases h : '/' ∈ path
  · obtain ⟨front, hpath, hlast⟩ := Text.exists_append_lastPiece h
    have hencode : Text.encode path =
        Text.encode front ++ slash :: Text.encode (Text.lastPiece '/' path) := by
      conv_lhs => rw [hpath, Text.encode_append, Text.encode_cons]
      rfl
    have hwhole : Text.encode path ≠ Text.encode name :=
      fun heq => hslash (Text.encode_injective heq ▸ h)
    rw [or_iff_right hwhole, hencode, cons_suffix_append_cons_iff (mt slash_mem_encode_iff.1 hslash)
      (mt slash_mem_encode_iff.1 hlast)]
    exact ⟨fun heq => (Text.encode_injective heq).symm, fun heq => congrArg Text.encode heq.symm⟩
  · have hend : ¬ slash :: Text.encode name <:+ Text.encode path :=
      fun hsuffix => h (slash_mem_encode_iff.1 (hsuffix.mem List.mem_cons_self))
    rw [or_iff_left hend, Text.lastPiece_of_not_mem h]
    exact ⟨Text.encode_injective, congrArg Text.encode⟩

/-! ### Nesting -/

/-- The glob of a name needs no expression. -/
theorem isPlain_deep {name : List Char} (hname : name ≠ []) : isPlain (deepTokens name) = true := by
  obtain ⟨c, cs, rfl⟩ := List.exists_cons_of_ne_nil hname
  simp [deepTokens, isPlain, allLiteral]

/-- Of a list of globs none is nested too deeply if none that needs an expression is. -/
theorem tooDeep?_eq_none_iff {globs : List (List Token)} :
    tooDeep? globs = none ↔ ∀ g ∈ globs, isPlain g = true ∨ isTooDeep g = false := by
  rw [tooDeep?]
  cases hfind : (globs.filter (!isPlain ·)).find? fun g => endsInExtension g && isTooDeep g with
  | some g =>
    have hmem := List.mem_filter.1 (List.mem_of_find?_eq_some hfind)
    have hdeep := List.find?_some hfind
    refine iff_of_false nofun fun h => ?_
    rcases h g hmem.1 with h | h <;> simp_all
  | none =>
    rw [List.find?_eq_none] at hfind
    simp only [Option.map_eq_none_iff, List.findIdx?_eq_none_iff, List.mem_filter]
    constructor
    · intro h g hg
      rw [or_iff_not_imp_left, Bool.not_eq_true]
      intro hplain
      have hneedy : (!isPlain g) = true := by rw [hplain]; rfl
      cases hext : endsInExtension g with
      | true => simpa [hext] using hfind g (List.mem_filter.2 ⟨hg, hneedy⟩)
      | false => exact h g ⟨⟨hg, hneedy⟩, by rw [hext]; rfl⟩
    · rintro h g ⟨⟨hg, hneedy⟩, -⟩
      exact (h g hg).resolve_left fun hplain => by simp [hplain] at hneedy

/-- Globs of names are not nested too deeply. -/
theorem tooDeep?_eq_none {names : List (List Char)} (h : ∀ name ∈ names, name ≠ []) :
    tooDeep? (names.map deepTokens) = none := by
  rw [tooDeep?_eq_none_iff]
  intro g hg
  obtain ⟨name, hname, rfl⟩ := List.mem_map.1 hg
  exact .inl (isPlain_deep (h name hname))

end RouteInventory.Glob
