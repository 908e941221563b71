import RouteInventory.Proofs.Pattern.Language

/-!
The languages of the catalogue, written down as a grammar: a reading is the text of a match cut into
pieces, of which some are numbered groups. `reads_iff` says that each pattern of the catalogue reads
exactly the readings of its grammar.
-/

namespace RouteInventory.Pattern

/-- A part of a reading: characters in no group, or those of a numbered group. -/
inductive Piece where
  | plain (cs : List Char)
  | captured (index : Nat) (cs : List Char)
  deriving DecidableEq, Repr

/-- The characters of a piece. -/
def Piece.chars : Piece → List Char
  | plain cs => cs
  | captured _ cs => cs

/-- The characters of a reading. -/
def readingChars (r : List Piece) : List Char := r.flatMap Piece.chars

/-- The characters of a group of a reading. -/
def groupIn? (index : Nat) : List Piece → Option (List Char)
  | [] => none
  | .plain _ :: rest => groupIn? index rest
  | .captured i cs :: rest => if i = index then some cs else groupIn? index rest

/-- Where a group of a reading is, if the reading begins at `pos`. -/
def spanIn? (index : Nat) : Nat → List Piece → Option Span
  | _, [] => none
  | pos, .plain cs :: rest => spanIn? index (pos + cs.length) rest
  | pos, .captured i cs :: rest =>
    if i = index then some ⟨pos, pos + cs.length⟩ else spanIn? index (pos + cs.length) rest

/-- The patterns of the catalogue. -/
inductive Kind where
  | routeDeclaration | barePathLiteral | headerAccess | parameterAccess | parameterDestructure
  | envAccess | lineComment | blockComment | pathParameter
  deriving DecidableEq, Repr

/-- The pattern of a kind. -/
def Kind.pattern : Kind → Pattern
  | routeDeclaration => Pattern.routeDeclaration
  | barePathLiteral => Pattern.barePathLiteral
  | headerAccess => Pattern.headerAccess
  | parameterAccess => Pattern.parameterAccess
  | parameterDestructure => Pattern.parameterDestructure
  | envAccess => Pattern.envAccess
  | lineComment => Pattern.lineComment
  | blockComment => Pattern.blockComment
  | pathParameter => Pattern.pathParameter

/-- All of a class. -/
def Only (is : Char → Bool) (cs : List Char) : Prop := ∀ c ∈ cs, is c = true

/-- All of a class, and at least one. -/
def Some1 (is : Char → Bool) (cs : List Char) : Prop := cs ≠ [] ∧ Only is cs

/-- The name in any case: character by character equal up to simple case folding. -/
def UpToCase (cs : List Char) (name : String) : Prop :=
  List.Forall₂ (fun d c => Text.sameFold d c = true) cs name.toList

/-- The grammar of each kind; `q` and `q'` are quotes, which need not be the same. -/
inductive Language : Kind → List Piece → Prop where
  /-- `<receiver>.<verb>('<literal>'` -/
  | routeDeclaration {receiver verb literal : List Char} {name : String} {v : Verb} {q q' : Char}
      (hreceiver : name ∈ receivers ∧ UpToCase receiver name) (hverb : UpToCase verb v.name)
      (hq : isQuote q = true) (hliteral : Some1 (fun c => !isQuote c) literal)
      (hq' : isQuote q' = true) :
      Language .routeDeclaration [.captured 1 receiver, .plain ['.'], .captured 2 verb,
        .plain ['(', q], .captured 3 literal, .plain [q']]
  /-- `'/<path>'` -/
  | barePathLiteral {path : List Char} {q q' : Char} (hq : isQuote q = true)
      (hpath : Some1 isUrlChar path) (hq' : isQuote q' = true) :
      Language .barePathLiteral [.plain (q :: '/' :: path ++ [q'])]
  /-- `req.headers['<name>']` -/
  | headerAccess {name : List Char} {q q' : Char} (hq : isQuote q = true)
      (hname : Some1 isHeaderChar name) (hq' : isQuote q' = true) :
      Language .headerAccess
        [.plain ("req.headers[".toList ++ [q]), .captured 1 name, .plain [q', ']']]
  /-- `req.<part>.<name>` -/
  | dottedParameter {part : String} {name : List Char} (hpart : part ∈ ["body", "query"])
      (hname : Some1 isNameChar name) :
      Language .parameterAccess
        [.plain "req.".toList, .captured 1 part.toList, .plain ['.'], .captured 2 name]
  /-- `req.<part>['<name>']` -/
  | quotedParameter {part : String} {name : List Char} {q q' : Char}
      (hpart : part ∈ ["body", "query"]) (hq : isQuote q = true) (hname : Some1 isNameChar name)
      (hq' : isQuote q' = true) :
      Language .parameterAccess [.plain "req.".toList, .captured 1 part.toList, .plain ['[', q],
        .captured 3 name, .plain [q', ']']]
  /-- `const { <list> } = req.<part>`, with blanks `b₁` to `b₅` -/
  | parameterDestructure {part : String} {list b₁ b₂ b₃ b₄ b₅ : List Char}
      (hblank : ∀ b ∈ [b₁, b₂, b₃, b₄, b₅], Only Text.isBlank b) (hlist : Some1 (· != '}') list)
      (hpart : part ∈ ["body", "query"]) :
      Language .parameterDestructure
        [.plain ("const".toList ++ b₁ ++ '{' :: b₂), .captured 1 list,
          .plain (b₃ ++ '}' :: b₄ ++ '=' :: b₅ ++ "req.".toList), .captured 2 part.toList]
  /-- `process.env.<NAME>` -/
  | envAccess {name : List Char} (hname : Some1 isNameChar name) :
      Language .envAccess [.plain "process.env.".toList, .captured 1 name]
  /-- `//` and anything on the same line -/
  | lineComment {comment : List Char} (hcomment : Only (· != '\n') comment) :
      Language .lineComment [.plain "//".toList, .captured 1 comment]
  /-- `/*`, anything, and `*/` -/
  | blockComment {comment : List Char} :
      Language .blockComment [.plain "/*".toList, .captured 1 comment, .plain "*/".toList]
  /-- `:<name>` -/
  | pathParameter {name : List Char} (hname : Some1 isNameChar name) :
      Language .pathParameter [.plain [':'], .captured 1 name]

/-! ### Readings as marked texts -/

/-- A piece as a marked text. -/
def Piece.symbols : Piece → List Symbol
  | plain cs => cs.map .char
  | captured i cs => .edge (.opens i) :: cs.map .char ++ [.edge (.closes i)]

/-- A reading as a marked text. -/
def marked (r : List Piece) : List Symbol := r.flatMap Piece.symbols

theorem chars_symbols (piece : Piece) : Pattern.chars piece.symbols = piece.chars := by
  cases piece <;> simp [Piece.symbols, Piece.chars, Pattern.chars]

/-- Marking adds no characters. -/
theorem chars_marked (r : List Piece) : chars (marked r) = readingChars r := by
  induction r with
  | nil => rfl
  | cons piece r ih =>
    rw [marked, List.flatMap_cons, chars_append, chars_symbols, ← marked, ih]
    rfl

/-! ### The parts of the patterns -/

theorem reads_quote {w : List Symbol} : quote.Reads w ↔ ∃ q, isQuote q = true ∧ w = [.char q] := Iff.rfl

theorem reads_blanks {w : List Symbol} :
    blanks.Reads w ↔ ∃ b : List Char, Only Text.isBlank b ∧ w = b.map .char := Iff.rfl

theorem reads_captured_some1 {i : Nat} {is : Char → Bool} {w : List Symbol} :
    (group i (some1 is)).Reads w ↔ ∃ cs, Some1 is cs ∧ w = (Piece.captured i cs).symbols := by
  simp only [reads_group, reads_some1]
  constructor
  · rintro ⟨-, ⟨cs, hne, hcs, rfl⟩, rfl⟩
    exact ⟨cs, ⟨hne, hcs⟩, rfl⟩
  · rintro ⟨cs, ⟨hne, hcs⟩, rfl⟩
    exact ⟨_, ⟨cs, hne, hcs, rfl⟩, rfl⟩

theorem reads_captured_run {i : Nat} {is : Char → Bool} {longest : Bool} {w : List Symbol} :
    (group i (run is longest)).Reads w ↔ ∃ cs, Only is cs ∧ w = (Piece.captured i cs).symbols := by
  simp only [reads_group, Reads]
  constructor
  · rintro ⟨-, ⟨cs, hcs, rfl⟩, rfl⟩
    exact ⟨cs, hcs, rfl⟩
  · rintro ⟨cs, hcs, rfl⟩
    exact ⟨_, ⟨cs, hcs, rfl⟩, rfl⟩

/-- A group that holds one of several names in any case. -/
theorem reads_captured_name {α : Type} {i : Nat} {xs : List α} {name : α → String}
    {w : List Symbol} : (group i (any (xs.map fun x => litFold (name x)))).Reads w ↔
      ∃ x ∈ xs, ∃ cs, UpToCase cs (name x) ∧ w = (Piece.captured i cs).symbols := by
  simp only [reads_group, reads_any, List.mem_map]
  constructor
  · rintro ⟨v, ⟨-, ⟨x, hx, rfl⟩, hv⟩, rfl⟩
    obtain ⟨cs, hcs, rfl⟩ := reads_litFold.1 hv
    exact ⟨x, hx, cs, hcs, rfl⟩
  · rintro ⟨x, hx, cs, hcs, rfl⟩
    exact ⟨_, ⟨_, ⟨x, hx, rfl⟩, reads_litFold.2 ⟨cs, hcs, rfl⟩⟩, rfl⟩

theorem reads_captured_part {i : Nat} {w : List Symbol} : (group i requestPart).Reads w ↔
    ∃ part ∈ ["body", "query"], w = (Piece.captured i part.toList).symbols := by
  simp [reads_group, requestPart, reads_any, reads_lit, Piece.symbols]

/-! ### Each pattern and its grammar -/

theorem reads_routeDeclaration {w : List Symbol} : routeDeclaration.Reads w ↔
    ∃ r, Language .routeDeclaration r ∧ w = marked r := by
  constructor
  · rintro ⟨_, _, h₁, ⟨_, _, h₂, ⟨_, _, h₃, ⟨_, _, h₄, ⟨_, _, h₅, ⟨_, _, h₆, ⟨_, _, h₇, rfl, rfl⟩,
      rfl⟩, rfl⟩, rfl⟩, rfl⟩, rfl⟩, rfl⟩
    obtain ⟨name, hname, receiver, hreceiver, rfl⟩ := reads_captured_name.1 h₁
    obtain rfl := reads_lit.1 h₂
    obtain ⟨v, -, verb, hverb, rfl⟩ := reads_captured_name.1 h₃
    obtain rfl := reads_lit.1 h₄
    obtain ⟨q, hq, rfl⟩ := reads_quote.1 h₅
    obtain ⟨literal, hliteral, rfl⟩ := reads_captured_some1.1 h₆
    obtain ⟨q', hq', rfl⟩ := reads_quote.1 h₇
    exact ⟨_, .routeDeclaration ⟨hname, hreceiver⟩ hverb hq hliteral hq',
      by simp [marked, Piece.symbols]⟩
  · rintro ⟨r, hr, rfl⟩
    cases hr with
    | @routeDeclaration receiver verb _ _ v _ _ hreceiver hverb hq hliteral hq' =>
      have h₁ : (group 1 (any (receivers.map litFold))).Reads (Piece.captured 1 receiver).symbols :=
        reads_captured_name.2 ⟨_, hreceiver.1, _, hreceiver.2, rfl⟩
      have h₃ : (group 2 (any (Verb.every.map fun v => litFold v.name))).Reads
          (Piece.captured 2 verb).symbols :=
        reads_captured_name.2 ⟨v, Verb.mem_every v, _, hverb, rfl⟩
      refine reads_all.2 ⟨_, .cons h₁ <| .cons (reads_lit.2 rfl) <| .cons h₃ <|
        .cons (reads_lit.2 rfl) <| .cons (reads_quote.2 ⟨_, hq, rfl⟩) <|
        .cons (reads_captured_some1.2 ⟨_, hliteral, rfl⟩) <|
        .cons (reads_quote.2 ⟨_, hq', rfl⟩) .nil, ?_⟩
      simp [marked, Piece.symbols]

theorem reads_barePathLiteral {w : List Symbol} : barePathLiteral.Reads w ↔
    ∃ r, Language .barePathLiteral r ∧ w = marked r := by
  constructor
  · rintro ⟨_, _, h₁, ⟨_, _, h₂, ⟨_, _, h₃, ⟨_, _, h₄, rfl, rfl⟩, rfl⟩, rfl⟩, rfl⟩
    obtain ⟨q, hq, rfl⟩ := reads_quote.1 h₁
    obtain rfl := reads_lit.1 h₂
    obtain ⟨path, hne, hpath, rfl⟩ := reads_some1.1 h₃
    obtain ⟨q', hq', rfl⟩ := reads_quote.1 h₄
    exact ⟨_, .barePathLiteral hq ⟨hne, hpath⟩ hq', by simp [marked, Piece.symbols]⟩
  · rintro ⟨r, hr, rfl⟩
    cases hr with
    | barePathLiteral hq hpath hq' =>
      refine reads_all.2 ⟨_, .cons (reads_quote.2 ⟨_, hq, rfl⟩) <| .cons (reads_lit.2 rfl) <|
        .cons (reads_some1.2 ⟨_, hpath.1, hpath.2, rfl⟩) <|
        .cons (reads_quote.2 ⟨_, hq', rfl⟩) .nil, ?_⟩
      simp [marked, Piece.symbols]

theorem reads_headerAccess {w : List Symbol} : headerAccess.Reads w ↔
    ∃ r, Language .headerAccess r ∧ w = marked r := by
  constructor
  · rintro ⟨_, _, h₁, ⟨_, _, h₂, ⟨_, _, h₃, ⟨_, _, h₄, ⟨_, _, h₅, rfl, rfl⟩, rfl⟩, rfl⟩, rfl⟩, rfl⟩
    obtain rfl := reads_lit.1 h₁
    obtain ⟨q, hq, rfl⟩ := reads_quote.1 h₂
    obtain ⟨name, hname, rfl⟩ := reads_captured_some1.1 h₃
    obtain ⟨q', hq', rfl⟩ := reads_quote.1 h₄
    obtain rfl := reads_lit.1 h₅
    exact ⟨_, .headerAccess hq hname hq', by simp [marked, Piece.symbols]⟩
  · rintro ⟨r, hr, rfl⟩
    cases hr with
    | headerAccess hq hname hq' =>
      refine reads_all.2 ⟨_, .cons (reads_lit.2 rfl) <| .cons (reads_quote.2 ⟨_, hq, rfl⟩) <|
        .cons (reads_captured_some1.2 ⟨_, hname, rfl⟩) <| .cons (reads_quote.2 ⟨_, hq', rfl⟩) <|
        .cons (reads_lit.2 rfl) .nil, ?_⟩
      simp [marked, Piece.symbols]

/-- `.<name>` after the part of the request. -/
def dottedName : Pattern := all [lit ".", group 2 (some1 isNameChar)]

/-- `['<name>']` after the part of the request. -/
def quotedName : Pattern := all [lit "[", quote, group 3 (some1 isNameChar), quote, lit "]"]

theorem parameterAccess_eq :
    parameterAccess = all [lit "req.", group 1 requestPart, alt dottedName quotedName] := rfl

theorem reads_dottedName {w : List Symbol} : dottedName.Reads w ↔
    ∃ name, Some1 isNameChar name ∧ w = marked [.plain ['.'], .captured 2 name] := by
  constructor
  · rintro ⟨_, _, h₁, ⟨_, _, h₂, rfl, rfl⟩, rfl⟩
    obtain rfl := reads_lit.1 h₁
    obtain ⟨name, hname, rfl⟩ := reads_captured_some1.1 h₂
    exact ⟨name, hname, by simp [marked, Piece.symbols]⟩
  · rintro ⟨name, hname, rfl⟩
    refine reads_all.2 ⟨_, .cons (reads_lit.2 rfl) <|
      .cons (reads_captured_some1.2 ⟨_, hname, rfl⟩) .nil, ?_⟩
    simp [marked, Piece.symbols]

theorem reads_quotedName {w : List Symbol} : quotedName.Reads w ↔
    ∃ q name q', isQuote q = true ∧ Some1 isNameChar name ∧ isQuote q' = true ∧
      w = marked [.plain ['[', q], .captured 3 name, .plain [q', ']']] := by
  constructor
  · rintro ⟨_, _, h₁, ⟨_, _, h₂, ⟨_, _, h₃, ⟨_, _, h₄, ⟨_, _, h₅, rfl, rfl⟩, rfl⟩, rfl⟩, rfl⟩, rfl⟩
    obtain rfl := reads_lit.1 h₁
    obtain ⟨q, hq, rfl⟩ := reads_quote.1 h₂
    obtain ⟨name, hname, rfl⟩ := reads_captured_some1.1 h₃
    obtain ⟨q', hq', rfl⟩ := reads_quote.1 h₄
    obtain rfl := reads_lit.1 h₅
    exact ⟨q, name, q', hq, hname, hq', by simp [marked, Piece.symbols]⟩
  · rintro ⟨q, name, q', hq, hname, hq', rfl⟩
    refine reads_all.2 ⟨_, .cons (reads_lit.2 rfl) <| .cons (reads_quote.2 ⟨_, hq, rfl⟩) <|
      .cons (reads_captured_some1.2 ⟨_, hname, rfl⟩) <| .cons (reads_quote.2 ⟨_, hq', rfl⟩) <|
      .cons (reads_lit.2 rfl) .nil, ?_⟩
    simp [marked, Piece.symbols]

theorem reads_parameterAccess {w : List Symbol} : parameterAccess.Reads w ↔
    ∃ r, Language .parameterAccess r ∧ w = marked r := by
  rw [parameterAccess_eq]
  constructor
  · rintro ⟨_, _, h₁, ⟨_, _, h₂, ⟨_, _, h₃, rfl, rfl⟩, rfl⟩, rfl⟩
    obtain rfl := reads_lit.1 h₁
    obtain ⟨part, hpart, rfl⟩ := reads_captured_part.1 h₂
    rcases h₃ with h₃ | h₃
    · obtain ⟨name, hname, rfl⟩ := reads_dottedName.1 h₃
      exact ⟨_, .dottedParameter hpart hname, by simp [marked, Piece.symbols]⟩
    · obtain ⟨q, name, q', hq, hname, hq', rfl⟩ := reads_quotedName.1 h₃
      exact ⟨_, .quotedParameter hpart hq hname hq', by simp [marked, Piece.symbols]⟩
  · rintro ⟨r, hr, rfl⟩
    cases hr with
    | dottedParameter hpart hname =>
      refine reads_all.2 ⟨_, .cons (reads_lit.2 rfl) <|
        .cons (reads_captured_part.2 ⟨_, hpart, rfl⟩) <|
        .cons (.inl (reads_dottedName.2 ⟨_, hname, rfl⟩)) .nil, ?_⟩
      simp [marked, Piece.symbols]
    | quotedParameter hpart hq hname hq' =>
      refine reads_all.2 ⟨_, .cons (reads_lit.2 rfl) <|
        .cons (reads_captured_part.2 ⟨_, hpart, rfl⟩) <|
        .cons (.inr (reads_quotedName.2 ⟨_, _, _, hq, hname, hq', rfl⟩)) .nil, ?_⟩
      simp [marked, Piece.symbols]

theorem reads_parameterDestructure {w : List Symbol} : parameterDestructure.Reads w ↔
    ∃ r, Language .parameterDestructure r ∧ w = marked r := by
  constructor
  · rintro ⟨_, _, h₁, ⟨_, _, h₂, ⟨_, _, h₃, ⟨_, _, h₄, ⟨_, _, h₅, ⟨_, _, h₆, ⟨_, _, h₇,
      ⟨_, _, h₈, ⟨_, _, h₉, ⟨_, _, h₁₀, ⟨_, _, h₁₁, ⟨_, _, h₁₂, rfl, rfl⟩, rfl⟩, rfl⟩, rfl⟩, rfl⟩,
      rfl⟩, rfl⟩, rfl⟩, rfl⟩, rfl⟩, rfl⟩, rfl⟩
    obtain rfl := reads_lit.1 h₁
    obtain ⟨b₁, hb₁, rfl⟩ := reads_blanks.1 h₂
    obtain rfl := reads_lit.1 h₃
    obtain ⟨b₂, hb₂, rfl⟩ := reads_blanks.1 h₄
    obtain ⟨list, hlist, rfl⟩ := reads_captured_some1.1 h₅
    obtain ⟨b₃, hb₃, rfl⟩ := reads_blanks.1 h₆
    obtain rfl := reads_lit.1 h₇
    obtain ⟨b₄, hb₄, rfl⟩ := reads_blanks.1 h₈
    obtain rfl := reads_lit.1 h₉
    obtain ⟨b₅, hb₅, rfl⟩ := reads_blanks.1 h₁₀
    obtain rfl := reads_lit.1 h₁₁
    obtain ⟨part, hpart, rfl⟩ := reads_captured_part.1 h₁₂
    have hblank : ∀ b ∈ [b₁, b₂, b₃, b₄, b₅], Only Text.isBlank b := by
      simp [hb₁, hb₂, hb₃, hb₄, hb₅]
    exact ⟨_, .parameterDestructure hblank hlist hpart, by simp [marked, Piece.symbols]⟩
  · rintro ⟨r, hr, rfl⟩
    cases hr with
    | @parameterDestructure _ _ b₁ b₂ b₃ b₄ b₅ hblank hlist hpart =>
      refine reads_all.2 ⟨_, .cons (reads_lit.2 rfl) <|
        .cons (reads_blanks.2 ⟨b₁, hblank b₁ (by simp), rfl⟩) <| .cons (reads_lit.2 rfl) <|
        .cons (reads_blanks.2 ⟨b₂, hblank b₂ (by simp), rfl⟩) <|
        .cons (reads_captured_some1.2 ⟨_, hlist, rfl⟩) <|
        .cons (reads_blanks.2 ⟨b₃, hblank b₃ (by simp), rfl⟩) <| .cons (reads_lit.2 rfl) <|
        .cons (reads_blanks.2 ⟨b₄, hblank b₄ (by simp), rfl⟩) <| .cons (reads_lit.2 rfl) <|
        .cons (reads_blanks.2 ⟨b₅, hblank b₅ (by simp), rfl⟩) <| .cons (reads_lit.2 rfl) <|
        .cons (reads_captured_part.2 ⟨_, hpart, rfl⟩) .nil, ?_⟩
      simp [marked, Piece.symbols]

theorem reads_envAccess {w : List Symbol} : envAccess.Reads w ↔
    ∃ r, Language .envAccess r ∧ w = marked r := by
  constructor
  · rintro ⟨_, _, h₁, ⟨_, _, h₂, rfl, rfl⟩, rfl⟩
    obtain rfl := reads_lit.1 h₁
    obtain ⟨name, hname, rfl⟩ := reads_captured_some1.1 h₂
    exact ⟨_, .envAccess hname, by simp [marked, Piece.symbols]⟩
  · rintro ⟨r, hr, rfl⟩
    cases hr with
    | envAccess hname =>
      refine reads_all.2 ⟨_, .cons (reads_lit.2 rfl) <|
        .cons (reads_captured_some1.2 ⟨_, hname, rfl⟩) .nil, ?_⟩
      simp [marked, Piece.symbols]

theorem reads_lineComment {w : List Symbol} : lineComment.Reads w ↔
    ∃ r, Language .lineComment r ∧ w = marked r := by
  constructor
  · rintro ⟨_, _, h₁, ⟨_, _, h₂, rfl, rfl⟩, rfl⟩
    obtain rfl := reads_lit.1 h₁
    obtain ⟨comment, hcomment, rfl⟩ := reads_captured_run.1 h₂
    exact ⟨_, .lineComment hcomment, by simp [marked, Piece.symbols]⟩
  · rintro ⟨r, hr, rfl⟩
    cases hr with
    | lineComment hcomment =>
      refine reads_all.2 ⟨_, .cons (reads_lit.2 rfl) <|
        .cons (reads_captured_run.2 ⟨_, hcomment, rfl⟩) .nil, ?_⟩
      simp [marked, Piece.symbols]

theorem reads_blockComment {w : List Symbol} : blockComment.Reads w ↔
    ∃ r, Language .blockComment r ∧ w = marked r := by
  constructor
  · rintro ⟨_, _, h₁, ⟨_, _, h₂, ⟨_, _, h₃, rfl, rfl⟩, rfl⟩, rfl⟩
    obtain rfl := reads_lit.1 h₁
    obtain ⟨comment, -, rfl⟩ := reads_captured_run.1 h₂
    obtain rfl := reads_lit.1 h₃
    exact ⟨_, @Language.blockComment comment, by simp [marked, Piece.symbols]⟩
  · rintro ⟨r, hr, rfl⟩
    cases hr with
    | @blockComment comment =>
      refine reads_all.2 ⟨_, .cons (reads_lit.2 rfl) <|
        .cons (reads_captured_run.2 ⟨comment, fun _ _ => rfl, rfl⟩) <| .cons (reads_lit.2 rfl) .nil, ?_⟩
      simp [marked, Piece.symbols]

theorem reads_pathParameter {w : List Symbol} : pathParameter.Reads w ↔
    ∃ r, Language .pathParameter r ∧ w = marked r := by
  constructor
  · rintro ⟨_, _, h₁, ⟨_, _, h₂, rfl, rfl⟩, rfl⟩
    obtain rfl := reads_lit.1 h₁
    obtain ⟨name, hname, rfl⟩ := reads_captured_some1.1 h₂
    exact ⟨_, .pathParameter hname, by simp [marked, Piece.symbols]⟩
  · rintro ⟨r, hr, rfl⟩
    cases hr with
    | pathParameter hname =>
      refine reads_all.2 ⟨_, .cons (reads_lit.2 rfl) <|
        .cons (reads_captured_some1.2 ⟨_, hname, rfl⟩) .nil, ?_⟩
      simp [marked, Piece.symbols]

/-- Each pattern of the catalogue reads what its grammar says. -/
theorem reads_iff {kind : Kind} {w : List Symbol} :
    kind.pattern.Reads w ↔ ∃ r, Language kind r ∧ w = marked r := by
  cases kind with
  | routeDeclaration => exact reads_routeDeclaration
  | barePathLiteral => exact reads_barePathLiteral
  | headerAccess => exact reads_headerAccess
  | parameterAccess => exact reads_parameterAccess
  | parameterDestructure => exact reads_parameterDestructure
  | envAccess => exact reads_envAccess
  | lineComment => exact reads_lineComment
  | blockComment => exact reads_blockComment
  | pathParameter => exact reads_pathParameter

end RouteInventory.Pattern
