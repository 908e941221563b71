import RouteInventory.Extraction
import RouteInventory.Proofs.Pattern.Successive
import RouteInventory.Proofs.Text.Blanks
import RouteInventory.Proofs.Text.Pieces

/-!
Parameters without patterns. Direct accesses and destructurings are read from left to right by
readers that look at one place at a time (`accesses`, `unpackings`), and a destructuring's names are
those of everything between its braces. However the pattern divides the blanks around the list among
its parts, that gives what the patterns give (`parameters_extract`).
-/

namespace RouteInventory.Extraction

open Pattern Text

/-- The name of a part. -/
def RequestPart.name : RequestPart → String
  | body => "body"
  | query => "query"

/-! ### What begins a text -/

/-- The part of a request whose name begins the text, and what stands behind it. -/
def partAt? (s : List Char) : Option (RequestPart × List Char) :=
  match "body".toList.isPrefixOf? s with
  | some rest => some (.body, rest)
  | none => ("query".toList.isPrefixOf? s).map (.query, ·)

/-- The name that begins the text, with all its characters, and what stands behind it. -/
def nameAt? (s : List Char) : Option (List Char × List Char) :=
  if s.takeWhile isNameChar = [] then none
  else some (s.takeWhile isNameChar, s.dropWhile isNameChar)

/-- What stands behind the quote that begins the text. -/
def quoteAt? : List Char → Option (List Char)
  | [] => none
  | q :: s => if isQuote q then some s else none

/-- `.<name>` -/
def dottedAt? (s : List Char) : Option (List Char × List Char) := do
  nameAt? (← ['.'].isPrefixOf? s)

/-- `['<name>']` -/
def quotedAt? (s : List Char) : Option (List Char × List Char) := do
  let (name, s) ← nameAt? (← quoteAt? (← ['['].isPrefixOf? s))
  return (name, ← [']'].isPrefixOf? (← quoteAt? s))

/-- `req.<part>.<name>` or `req.<part>['<name>']`: the part and the name. -/
def accessAt? (s : List Char) : Option ((RequestPart × List Char) × List Char) := do
  let (part, s) ← partAt? (← "req.".toList.isPrefixOf? s)
  let (name, s) ← dottedAt? s <|> quotedAt? s
  return ((part, name), s)

/-- `} = req.<part>` with blanks anywhere between the marks: the part. -/
def closingAt? (s : List Char) : Option (RequestPart × List Char) := do
  let s ← ['='].isPrefixOf? (trimLeft (← ['}'].isPrefixOf? s))
  partAt? (← "req.".toList.isPrefixOf? (trimLeft s))

/-- `const { <list> } = req.<part>`: the part, and everything between the brace and the next closing
    one, which may be blank but not empty. -/
def unpackingAt? (s : List Char) : Option ((RequestPart × List Char) × List Char) := do
  let s ← ['{'].isPrefixOf? (trimLeft (← "const".toList.isPrefixOf? s))
  let (part, rest) ← closingAt? (s.dropWhile (· != '}'))
  if s.takeWhile (· != '}') = [] then none else some ((part, s.takeWhile (· != '}')), rest)

variable {s rest name list : List Char} {part : RequestPart}

theorem isPrefixOf?_append (front rest : List Char) : front.isPrefixOf? (front ++ rest) = some rest :=
  List.isPrefixOf?_eq_some_iff_append_eq.2 rfl

theorem partAt?_append (part : RequestPart) (rest : List Char) :
    partAt? (part.name.toList ++ rest) = some (part, rest) := by
  cases part with
  | body => rw [partAt?, RequestPart.name, isPrefixOf?_append]
  | query =>
    have hbody : "body".toList.isPrefixOf? ("query".toList ++ rest) = none := rfl
    rw [partAt?, RequestPart.name, hbody, isPrefixOf?_append]
    rfl

theorem of_partAt? (h : partAt? s = some (part, rest)) : s = part.name.toList ++ rest := by
  rw [partAt?] at h
  split at h
  · next hbody =>
    obtain ⟨rfl, rfl⟩ := Prod.mk.inj (Option.some.inj h)
    exact (List.isPrefixOf?_eq_some_iff_append_eq.1 hbody).symm
  · obtain ⟨rest', hquery, heq⟩ := Option.map_eq_some_iff.1 h
    obtain ⟨rfl, rfl⟩ := Prod.mk.inj heq
    exact (List.isPrefixOf?_eq_some_iff_append_eq.1 hquery).symm

theorem nameAt?_append (hname : Some1 isNameChar name) (rest : List Char) :
    nameAt? (name ++ rest) =
      some (name ++ rest.takeWhile isNameChar, rest.dropWhile isNameChar) := by
  have hne : name ++ rest.takeWhile isNameChar ≠ [] := by simp [hname.1]
  rw [nameAt?, List.takeWhile_append_of_pos hname.2, List.dropWhile_append_of_pos hname.2,
    if_neg hne]

theorem of_nameAt? (h : nameAt? s = some (name, rest)) :
    s = name ++ rest ∧ Some1 isNameChar name := by
  obtain ⟨hne, heq⟩ := Option.ite_none_left_eq_some.1 h
  obtain ⟨rfl, rfl⟩ := Prod.mk.inj (Option.some.inj heq)
  exact ⟨List.takeWhile_append_dropWhile.symm, hne, fun c hc => List.mem_takeWhile_imp hc⟩

theorem quoteAt?_cons {q : Char} (hq : isQuote q = true) (rest : List Char) :
    quoteAt? (q :: rest) = some rest := by
  rw [quoteAt?, if_pos hq]

theorem of_quoteAt? (h : quoteAt? s = some rest) : ∃ q, isQuote q = true ∧ s = q :: rest := by
  cases s with
  | nil => simp [quoteAt?] at h
  | cons q s =>
    obtain ⟨hq, heq⟩ := Option.ite_none_right_eq_some.1 h
    exact ⟨q, hq, congrArg _ (Option.some.inj heq)⟩

/-! ### Direct accesses -/

/-- `req.<part>.<name>` as a reading. -/
def dottedReading (part : RequestPart) (name : List Char) : List Piece :=
  [.plain "req.".toList, .captured 1 part.name.toList, .plain ['.'], .captured 2 name]

/-- `req.<part>['<name>']` as a reading. -/
def quotedReading (part : RequestPart) (q : Char) (name : List Char) (q' : Char) : List Piece :=
  [.plain "req.".toList, .captured 1 part.name.toList, .plain ['[', q], .captured 3 name,
    .plain [q', ']']]

theorem exists_name_eq {name : String} (h : name ∈ ["body", "query"]) :
    ∃ part : RequestPart, name = part.name := by
  rcases List.mem_cons.1 h with rfl | h
  · exact ⟨.body, rfl⟩
  · exact ⟨.query, List.mem_singleton.1 h⟩

theorem name_mem (part : RequestPart) : part.name ∈ ["body", "query"] := by
  cases part <;> decide

theorem language_dottedReading (hname : Some1 isNameChar name) :
    Language .parameterAccess (dottedReading part name) :=
  .dottedParameter (name_mem part) hname

theorem language_quotedReading {q q' : Char} (hq : isQuote q = true) (hname : Some1 isNameChar name)
    (hq' : isQuote q' = true) : Language .parameterAccess (quotedReading part q name q') :=
  .quotedParameter (name_mem part) hq hname hq'

theorem accessAt?_dottedReading (part : RequestPart) (hname : Some1 isNameChar name)
    (rest : List Char) : accessAt? (readingChars (dottedReading part name) ++ rest) =
      some ((part, name ++ rest.takeWhile isNameChar), rest.dropWhile isNameChar) := by
  have hchars : readingChars (dottedReading part name) ++ rest =
      "req.".toList ++ (part.name.toList ++ (['.'] ++ (name ++ rest))) := by
    simp [dottedReading, readingChars, Piece.chars]
  have hdotted : dottedAt? (['.'] ++ (name ++ rest)) =
      some (name ++ rest.takeWhile isNameChar, rest.dropWhile isNameChar) := by
    rw [dottedAt?, isPrefixOf?_append]
    exact nameAt?_append hname rest
  rw [hchars, accessAt?, isPrefixOf?_append, Option.bind_eq_bind, Option.bind_some, partAt?_append]
  simp only [Option.bind_eq_bind, Option.bind_some, hdotted]
  rfl

theorem accessAt?_quotedReading (part : RequestPart) {q q' : Char} (hq : isQuote q = true)
    (hname : Some1 isNameChar name) (hq' : isQuote q' = true) (rest : List Char) :
    accessAt? (readingChars (quotedReading part q name q') ++ rest) = some ((part, name), rest) := by
  have hchars : readingChars (quotedReading part q name q') ++ rest =
      "req.".toList ++ (part.name.toList ++ (['['] ++ (q :: (name ++ q' :: (']' :: rest))))) := by
    simp [quotedReading, readingChars, Piece.chars]
  have hquoted : quotedAt? (['['] ++ (q :: (name ++ q' :: (']' :: rest)))) =
      some (name, rest) := by
    have hstop := isQuote_not_isNameChar hq'
    have hname' := nameAt?_append hname (q' :: ']' :: rest)
    rw [List.takeWhile_cons_of_neg (by simp [hstop]), List.dropWhile_cons_of_neg (by simp [hstop]),
      List.append_nil] at hname'
    rw [quotedAt?, isPrefixOf?_append, Option.bind_eq_bind, Option.bind_some, quoteAt?_cons hq]
    simp only [Option.bind_eq_bind, Option.bind_some, hname', quoteAt?_cons hq']
    rfl
  have hdotted : dottedAt? (['['] ++ (q :: (name ++ q' :: (']' :: rest)))) = none := rfl
  rw [hchars, accessAt?, isPrefixOf?_append, Option.bind_eq_bind, Option.bind_some, partAt?_append]
  simp only [Option.bind_eq_bind, Option.bind_some, hdotted, hquoted]
  rfl

theorem of_dottedAt? (h : dottedAt? s = some (name, rest)) :
    s = '.' :: (name ++ rest) ∧ Some1 isNameChar name := by
  obtain ⟨s', hpoint, hname⟩ := Option.bind_eq_some_iff.1 h
  obtain ⟨rfl, hclass⟩ := of_nameAt? hname
  exact ⟨(List.isPrefixOf?_eq_some_iff_append_eq.1 hpoint).symm, hclass⟩

theorem of_quotedAt? (h : quotedAt? s = some (name, rest)) :
    ∃ q q', isQuote q = true ∧ isQuote q' = true ∧ Some1 isNameChar name ∧
      s = '[' :: q :: (name ++ q' :: ']' :: rest) := by
  simp only [quotedAt?, Option.bind_eq_bind, Option.bind_eq_some_iff, Option.pure_def,
    Option.some.injEq, Prod.mk.injEq] at h
  obtain ⟨s₁, hopen, s₂, hquote, ⟨name', s₃⟩, hname, s₄, hquote', s₅, hclose, rfl, rfl⟩ := h
  obtain ⟨q, hq, rfl⟩ := of_quoteAt? hquote
  obtain ⟨rfl, hclass⟩ := of_nameAt? hname
  obtain ⟨q', hq', rfl⟩ := of_quoteAt? hquote'
  have hs₄ := List.isPrefixOf?_eq_some_iff_append_eq.1 hclose
  have hs := List.isPrefixOf?_eq_some_iff_append_eq.1 hopen
  exact ⟨q, q', hq, hq', hclass, by rw [← hs, ← hs₄]; rfl⟩

theorem of_accessAt? {item : RequestPart × List Char} (h : accessAt? s = some (item, rest)) :
    ∃ r, Language .parameterAccess r ∧ s = readingChars r ++ rest := by
  simp only [accessAt?, Option.bind_eq_bind, Option.bind_eq_some_iff, Option.pure_def,
    Option.some.injEq, Prod.mk.injEq, Option.orElse_eq_orElse, Option.orElse_eq_or,
    Option.or_eq_some_iff] at h
  obtain ⟨s₁, hreq, ⟨part, s₂⟩, hpart, ⟨name, s₃⟩, hname, rfl, rfl⟩ := h
  obtain rfl := of_partAt? hpart
  have hs := List.isPrefixOf?_eq_some_iff_append_eq.1 hreq
  rcases hname with hdotted | ⟨-, hquoted⟩
  · obtain ⟨rfl, hclass⟩ := of_dottedAt? hdotted
    refine ⟨dottedReading part _, language_dottedReading hclass, ?_⟩
    rw [← hs]
    simp [dottedReading, readingChars, Piece.chars]
  · obtain ⟨q, q', hq, hq', hclass, rfl⟩ := of_quotedAt? hquoted
    refine ⟨quotedReading part _ _ _, language_quotedReading hq hclass hq', ?_⟩
    rw [← hs]
    simp [quotedReading, readingChars, Piece.chars]

/-- The accesses of a text are read with all the characters of their names. -/
def accessReader : Reader (RequestPart × List Char) where
  read := accessAt?
  shorter := by
    intro s item rest h
    obtain ⟨r, hr, hs⟩ := of_accessAt? h
    exact length_lt_of_reading hr hs

/-- The direct accesses in a text from left to right, each with its part and name. -/
def accesses (s : List Char) : List (RequestPart × List Char) := accessReader.items s

theorem ofName?_toList_name (part : RequestPart) :
    RequestPart.ofName? part.name.toList = some part := by
  cases part <;> decide

/-- What an item gives, if it is one of this part. -/
def forPart (part : RequestPart) (give : List Char → List (List Char))
    (item : RequestPart × List Char) : List (List Char) :=
  if item.1 = part then give item.2 else []

theorem flatMap_forPart (part : RequestPart) (give : List Char → List (List Char))
    (items : List (RequestPart × List Char)) : items.flatMap (forPart part give) =
      (items.filter (·.1 = part)).flatMap fun item => give item.2 := by
  induction items with
  | nil => rfl
  | cons item items ih =>
    by_cases h : item.1 = part
    · simp [forPart, h, ih]
    · simp [forPart, h, ih]

/-- The name that the groups of a direct access hold, if it is one to this part. -/
def accessedName (part : RequestPart) (texts : Nat → Option (List Char)) : List (List Char) :=
  Option.toList do
    let found ← RequestPart.ofName? (← texts 1)
    if found = part then (texts 2 <|> texts 3) else none

theorem accessedNames_eq_gather (part : RequestPart) (text : Array Char) :
    accessedNames part text = gather parameterAccess (accessedName part) text :=
  List.filterMap_eq_flatMap_toList _ _

theorem accessedName_dottedReading (wanted : RequestPart) :
    accessedName wanted (textsOf (dottedReading part name)) =
      forPart wanted (fun name => [name]) (part, name) := by
  have hpart : textsOf (dottedReading part name) 1 = some part.name.toList := rfl
  have hname : textsOf (dottedReading part name) 2 = some name := rfl
  rw [accessedName, forPart, hpart, hname, Option.bind_eq_bind, Option.bind_some,
    ofName?_toList_name, Option.bind_eq_bind, Option.bind_some]
  split <;> rfl

theorem accessedName_quotedReading (wanted : RequestPart) {q q' : Char} :
    accessedName wanted (textsOf (quotedReading part q name q')) =
      forPart wanted (fun name => [name]) (part, name) := by
  have hpart : textsOf (quotedReading part q name q') 1 = some part.name.toList := rfl
  have hname : textsOf (quotedReading part q name q') 2 = none := rfl
  have hname' : textsOf (quotedReading part q name q') 3 = some name := rfl
  rw [accessedName, forPart, hpart, hname, hname', Option.bind_eq_bind, Option.bind_some,
    ofName?_toList_name, Option.bind_eq_bind, Option.bind_some]
  split <;> rfl

theorem recognizes_accessReader (wanted : RequestPart) :
    accessReader.Recognizes .parameterAccess (accessedName wanted)
      (forPart wanted fun name => [name]) where
  long := rfl
  reads := by
    intro r hr rest
    cases hr with
    | @dottedParameter partName name hpart hname =>
      obtain ⟨part, rfl⟩ := exists_name_eq hpart
      refine ⟨_, _, accessAt?_dottedReading part hname rest, List.length_dropWhile_le _ _, ?_⟩
      intro hrest
      have hsplit := @List.takeWhile_append_dropWhile _ isNameChar rest
      rw [hrest] at hsplit
      rw [List.self_eq_append_left.1 hsplit.symm, List.append_nil]
      exact accessedName_dottedReading wanted
    | @quotedParameter partName name q q' hpart hq hname hq' =>
      obtain ⟨part, rfl⟩ := exists_name_eq hpart
      exact ⟨_, _, accessAt?_quotedReading part hq hname hq' rest, Nat.le_refl _,
        fun _ => accessedName_quotedReading wanted⟩
  of_read := of_accessAt?

/-- The names of the direct accesses to one part. -/
theorem accessedNames_eq (part : RequestPart) (s : List Char) :
    accessedNames part s.toArray = ((accesses s).filter (·.1 = part)).map (·.2) := by
  rw [accessedNames_eq_gather, List.map_eq_flatMap, ← flatMap_forPart part fun name => [name]]
  exact gather_eq_flatMap_items (recognizes_accessReader part) s

/-! ### Destructurings -/

/-- `const { <list> } = req.<part>` as a reading, with blanks `b₁` to `b₅`. -/
def unpackingReading (part : RequestPart) (list b₁ b₂ b₃ b₄ b₅ : List Char) : List Piece :=
  [.plain ("const".toList ++ b₁ ++ '{' :: b₂), .captured 1 list,
    .plain (b₃ ++ '}' :: b₄ ++ '=' :: b₅ ++ "req.".toList), .captured 2 part.name.toList]

/-- A mark behind blanks that it does not begin with. -/
theorem isPrefixOf?_trimLeft {b : List Char} (hb : Only isBlank b) {c : Char} (hc : isBlank c = false)
    (mark rest : List Char) :
    (c :: mark).isPrefixOf? (trimLeft (b ++ (c :: mark ++ rest))) = some rest := by
  have htrim : trimLeft (b ++ (c :: mark ++ rest)) = c :: mark ++ rest := by
    rw [trimLeft, List.dropWhile_append_of_pos hb, List.cons_append,
      List.dropWhile_cons_of_neg (by simp [hc])]
  rw [htrim, isPrefixOf?_append]

theorem exists_blanks_of_isPrefixOf? {mark : List Char}
    (h : mark.isPrefixOf? (trimLeft s) = some rest) :
    ∃ b, Only isBlank b ∧ s = b ++ (mark ++ rest) := by
  refine ⟨s.takeWhile isBlank, fun c hc => List.mem_takeWhile_imp hc, ?_⟩
  rw [List.isPrefixOf?_eq_some_iff_append_eq.1 h, trimLeft, List.takeWhile_append_dropWhile]

theorem closingAt?_append (part : RequestPart) {b b' : List Char} (hb : Only isBlank b)
    (hb' : Only isBlank b') (rest : List Char) :
    closingAt? (['}'] ++ (b ++ (['='] ++ (b' ++ ("req.".toList ++ (part.name.toList ++ rest)))))) =
      some (part, rest) := by
  have hreq : "req.".toList.isPrefixOf? (trimLeft (b' ++ ("req.".toList ++
      (part.name.toList ++ rest)))) = some (part.name.toList ++ rest) :=
    isPrefixOf?_trimLeft hb' (by decide) _ _
  rw [closingAt?, isPrefixOf?_append, Option.bind_eq_bind, Option.bind_some,
    isPrefixOf?_trimLeft hb (by decide), Option.bind_some, hreq, Option.bind_some, partAt?_append]

theorem of_closingAt? (h : closingAt? s = some (part, rest)) : ∃ b b', Only isBlank b ∧
    Only isBlank b' ∧
    s = ['}'] ++ (b ++ (['='] ++ (b' ++ ("req.".toList ++ (part.name.toList ++ rest))))) := by
  simp only [closingAt?, Option.bind_eq_bind, Option.bind_eq_some_iff] at h
  obtain ⟨s₁, hclose, s₂, hequals, s₃, hreq, hpart⟩ := h
  obtain ⟨b, hb, rfl⟩ := exists_blanks_of_isPrefixOf? hequals
  obtain ⟨b', hb', rfl⟩ := exists_blanks_of_isPrefixOf? hreq
  obtain rfl := of_partAt? hpart
  exact ⟨b, b', hb, hb', (List.isPrefixOf?_eq_some_iff_append_eq.1 hclose).symm⟩

/-- Blanks and a list between braces hold no closing brace. -/
theorem only_between_braces {b b' : List Char} (hb : Only isBlank b) (hlist : Only (· != '}') list)
    (hb' : Only isBlank b') : Only (· != '}') (b ++ list ++ b') := by
  intro c hc
  rw [List.mem_append, List.mem_append] at hc
  rcases hc with (hc | hc) | hc
  · exact isBlank_ne_brace (hb c hc)
  · exact hlist c hc
  · exact isBlank_ne_brace (hb' c hc)

theorem unpackingAt?_reading (part : RequestPart) (hlist : Some1 (· != '}') list)
    {b₁ b₂ b₃ b₄ b₅ : List Char} (hblank : ∀ b ∈ [b₁, b₂, b₃, b₄, b₅], Only isBlank b)
    (rest : List Char) :
    unpackingAt? (readingChars (unpackingReading part list b₁ b₂ b₃ b₄ b₅) ++ rest) =
      some ((part, b₂ ++ list ++ b₃), rest) := by
  have hchars : readingChars (unpackingReading part list b₁ b₂ b₃ b₄ b₅) ++ rest =
      "const".toList ++ (b₁ ++ (['{'] ++ ((b₂ ++ list ++ b₃) ++ (['}'] ++ (b₄ ++
        (['='] ++ (b₅ ++ ("req.".toList ++ (part.name.toList ++ rest))))))))) := by
    simp [unpackingReading, readingChars, Piece.chars]
  have hne : b₂ ++ list ++ b₃ ≠ [] := by simp [hlist.1]
  have hinside := only_between_braces (hblank b₂ (by simp)) hlist.2 (hblank b₃ (by simp))
  have htake : ∀ behind, (b₂ ++ list ++ b₃ ++ (['}'] ++ behind)).takeWhile (· != '}') =
      b₂ ++ list ++ b₃ := by
    intro behind
    rw [List.takeWhile_append_of_pos hinside]
    exact List.append_nil _
  have hdrop : ∀ behind, (b₂ ++ list ++ b₃ ++ (['}'] ++ behind)).dropWhile (· != '}') =
      ['}'] ++ behind := by
    intro behind
    rw [List.dropWhile_append_of_pos hinside]
    rfl
  rw [hchars, unpackingAt?, isPrefixOf?_append, Option.bind_eq_bind, Option.bind_some,
    isPrefixOf?_trimLeft (hblank b₁ (by simp)) (by decide), Option.bind_some, hdrop, htake,
    closingAt?_append part (hblank b₄ (by simp)) (hblank b₅ (by simp))]
  exact if_neg hne

theorem of_unpackingAt? {item : RequestPart × List Char} (h : unpackingAt? s = some (item, rest)) :
    ∃ r, Language .parameterDestructure r ∧ s = readingChars r ++ rest := by
  simp only [unpackingAt?, Option.bind_eq_bind, Option.bind_eq_some_iff,
    Option.ite_none_left_eq_some, Option.some.injEq, Prod.mk.injEq] at h
  obtain ⟨s₁, hconst, s₂, hopen, ⟨part, s₃⟩, hclosing, hne, rfl, rfl⟩ := h
  obtain ⟨b₁, hb₁, rfl⟩ := exists_blanks_of_isPrefixOf? hopen
  obtain ⟨b₄, b₅, hb₄, hb₅, hdrop⟩ := of_closingAt? hclosing
  have hlist : Only (· != '}') (s₂.takeWhile (· != '}')) := fun c hc =>
    List.mem_takeWhile_imp (p := (· != '}')) hc
  have hs₂ := @List.takeWhile_append_dropWhile _ (· != '}') s₂
  rw [hdrop] at hs₂
  have hnil : Only isBlank [] := fun _ h => absurd h List.not_mem_nil
  have hblank : ∀ b ∈ [b₁, [], [], b₄, b₅], Only isBlank b := by
    simp [hb₁, hb₄, hb₅, hnil]
  refine ⟨unpackingReading part (s₂.takeWhile (· != '}')) b₁ [] [] b₄ b₅,
    .parameterDestructure hblank ⟨hne, hlist⟩ (name_mem part), ?_⟩
  rw [← List.isPrefixOf?_eq_some_iff_append_eq.1 hconst]
  nth_rewrite 1 [← hs₂]
  simp [unpackingReading, readingChars, Piece.chars]

/-- The destructurings of a text are read with everything between their braces. -/
def unpackingReader : Reader (RequestPart × List Char) where
  read := unpackingAt?
  shorter := by
    intro s item rest h
    obtain ⟨r, hr, hs⟩ := of_unpackingAt? h
    exact length_lt_of_reading hr hs

/-- The destructurings in a text from left to right, each with its part and with everything that
    stands between its braces. -/
def unpackings (s : List Char) : List (RequestPart × List Char) := unpackingReader.items s

theorem destructuredNames_append_left {b : List Char} (hb : Only isBlank b) (list : List Char) :
    destructuredNames (b ++ list) = destructuredNames list := by
  have hcomma : ',' ∉ b := fun hmem => absurd (hb _ hmem) (by decide)
  obtain ⟨first, items, hlist, hsplit⟩ := exists_append_split hcomma list
  have hfirst : firstWord (b ++ first) = firstWord first := by
    simpa using @firstWord_append b [] hb (by simp) first
  rw [destructuredNames, destructuredNames, hlist, hsplit, List.filterMap_cons, hfirst,
    ← List.filterMap_cons]

theorem destructuredNames_append_right {b : List Char} (hb : Only isBlank b) (list : List Char) :
    destructuredNames (list ++ b) = destructuredNames list := by
  have hcomma : ',' ∉ b := fun hmem => absurd (hb _ hmem) (by decide)
  obtain ⟨items, last, hlist, hsplit⟩ := exists_split_append hcomma list
  have hlast : firstWord (last ++ b) = firstWord last := by
    simpa using @firstWord_append [] b (by simp) hb last
  rw [destructuredNames, destructuredNames, hlist, hsplit, List.filterMap_append,
    List.filterMap_append, List.filterMap_cons, hlast, ← List.filterMap_cons]

/-- Blanks at the braces bind no names. -/
theorem destructuredNames_append {b b' : List Char} (hb : Only isBlank b) (hb' : Only isBlank b')
    (list : List Char) : destructuredNames (b ++ list ++ b') = destructuredNames list := by
  rw [destructuredNames_append_right hb', destructuredNames_append_left hb]

/-- The names that the groups of a destructuring bind, if it is one of this part. -/
def unpackedBy (part : RequestPart) (texts : Nat → Option (List Char)) : List (List Char) :=
  match texts 1, (texts 2).bind RequestPart.ofName? with
  | some list, some found => if found = part then destructuredNames list else []
  | _, _ => []

theorem recognizes_unpackingReader (wanted : RequestPart) :
    unpackingReader.Recognizes .parameterDestructure (unpackedBy wanted)
      (forPart wanted destructuredNames) where
  long := rfl
  reads := by
    intro r hr rest
    cases hr with
    | @parameterDestructure partName list b₁ b₂ b₃ b₄ b₅ hblank hlist hpart =>
      obtain ⟨part, rfl⟩ := exists_name_eq hpart
      refine ⟨_, _, unpackingAt?_reading part hlist hblank rest, Nat.le_refl _, fun _ => ?_⟩
      have hgroup : textsOf (unpackingReading part list b₁ b₂ b₃ b₄ b₅) 1 = some list := rfl
      have hgroup' : textsOf (unpackingReading part list b₁ b₂ b₃ b₄ b₅) 2 =
        some part.name.toList := rfl
      have hnames := destructuredNames_append (hblank b₂ (by simp)) (hblank b₃ (by simp)) list
      rw [forPart, hnames]
      show unpackedBy wanted (textsOf (unpackingReading part list b₁ b₂ b₃ b₄ b₅)) = _
      rw [unpackedBy, hgroup, hgroup', Option.bind_some, ofName?_toList_name]
  of_read := of_unpackingAt?

/-- The names that the destructurings of one part bind. -/
theorem unpackedNames_eq (part : RequestPart) (s : List Char) : unpackedNames part s.toArray =
    ((unpackings s).filter (·.1 = part)).flatMap fun item => destructuredNames item.2 := by
  rw [← flatMap_forPart]
  exact gather_eq_flatMap_items (recognizes_unpackingReader part) s

/-! ### Parameters of a file -/

/-- The names that a text reads from one part of a request, as often as it does: those of direct
    accesses in text order, and then those of destructurings in text order. Of a destructuring these
    are the first words of the items between commas, of everything between its braces. -/
def parameterNames (part : RequestPart) (s : List Char) : List (List Char) :=
  ((accesses s).filter (·.1 = part)).map (·.2) ++
    ((unpackings s).filter (·.1 = part)).flatMap fun item => (split ',' item.2).filterMap firstWord

theorem items_parametersIn (part : RequestPart) (s : List Char) :
    (parametersIn part s.toArray).items = ((parameterNames part s).map String.ofList).eraseDups := by
  rw [parametersIn, uniqueNames, OrderedSet.items_ofList, accessedNames_eq, unpackedNames_eq]
  rfl

/-- Everything between the first opening brace of a text and the next closing one. -/
def betweenBraces (s : List Char) : List Char :=
  (s.dropWhile (· != '{')).tail.takeWhile (· != '}')

theorem betweenBraces_append {front whole rest : List Char} (hfront : Only (· != '{') front)
    (hwhole : Only (· != '}') whole) :
    betweenBraces (front ++ '{' :: (whole ++ '}' :: rest)) = whole := by
  rw [betweenBraces, List.dropWhile_append_of_pos hfront,
    List.dropWhile_cons_of_neg (by decide), List.tail_cons, List.takeWhile_append_of_pos hwhole,
    List.takeWhile_cons_of_neg (by decide), List.append_nil]

/-- However the blanks at the braces are divided between the list and what is around it, the list
    binds the names of everything between the braces. -/
theorem destructuredNames_betweenBraces {r : List Piece} (hr : Language .parameterDestructure r) :
    ∃ list, groupIn? 1 r = some list ∧
      destructuredNames list = destructuredNames (betweenBraces (readingChars r)) := by
  cases hr with
  | @parameterDestructure name list b₁ b₂ b₃ b₄ b₅ hblank hlist hpart =>
    have hfront : Only (· != '{') ("const".toList ++ b₁) := by
      intro c hc
      have hne : c ≠ '{' := by
        rintro rfl
        rcases List.mem_append.1 hc with hc | hc
        · exact absurd hc (by decide)
        · exact absurd (hblank b₁ (by simp) _ hc) (by decide)
      simpa using hne
    have hwhole := only_between_braces (hblank b₂ (by simp)) hlist.2 (hblank b₃ (by simp))
    have hchars : readingChars [.plain ("const".toList ++ b₁ ++ '{' :: b₂), .captured 1 list,
        .plain (b₃ ++ '}' :: b₄ ++ '=' :: b₅ ++ "req.".toList), .captured 2 name.toList] =
        ("const".toList ++ b₁) ++ '{' :: ((b₂ ++ list ++ b₃) ++
          '}' :: (b₄ ++ '=' :: b₅ ++ "req.".toList ++ name.toList)) := by
      simp [readingChars, Piece.chars]
    refine ⟨list, rfl, ?_⟩
    rw [hchars, betweenBraces_append hfront hwhole,
      destructuredNames_append (hblank b₂ (by simp)) (hblank b₃ (by simp))]

/-- The parameters of a file are the names that its text reads, each where it is first read. A
    destructuring binds the names of everything between its braces, whichever blanks at the braces
    the pattern counts to the list. -/
theorem parameters_extract (rules : SecretRules) (file content : String) :
    (extract rules file content).bodyParams.items =
      ((parameterNames .body content.toList).map String.ofList).eraseDups ∧
    (extract rules file content).queryParams.items =
      ((parameterNames .query content.toList).map String.ofList).eraseDups ∧
    ∀ r, Language .parameterDestructure r → ∃ list, groupIn? 1 r = some list ∧
      (split ',' list).filterMap firstWord =
        (split ',' (betweenBraces (readingChars r))).filterMap firstWord := by
  simp only [extract]
  exact ⟨items_parametersIn .body _, items_parametersIn .query _,
    fun _ => destructuredNames_betweenBraces⟩

end RouteInventory.Extraction
