import RouteInventory.Proofs.Json.Reader
import RouteInventory.Proofs.Text.Decimal
import Mathlib.Data.List.TakeWhile
import Mathlib.Tactic.SplitIfs

/-!
The indented text of a value is read back as that value (`ofText?_pretty`). Each piece of the text
moves the reader on by itself, whatever follows: a blank not at all, punctuation and a string by one
token, a whole value to the place after it.
-/

namespace RouteInventory.Json

/-! ### The value of a text that is written -/

mutual

/-- What is written. -/
def value : Json → Value
  | text s => .text s
  | number n => .number (toString n).toList
  | array items => .array (itemValues items)
  | object fields => .object (fieldValues fields)

/-- The elements of an array. -/
def itemValues : List Json → List Value
  | [] => []
  | v :: rest => v.value :: itemValues rest

/-- The fields of an object. -/
def fieldValues : List (String × Json) → List (String × Value)
  | [] => []
  | (key, v) :: rest => (key, v.value) :: fieldValues rest

end

theorem itemValues_eq_map : ∀ vs, itemValues vs = vs.map value
  | [] => rfl
  | v :: vs => by rw [itemValues, itemValues_eq_map vs, List.map_cons]

theorem fieldValues_eq_map : ∀ fs, fieldValues fs = fs.map fun f => (f.1, f.2.value)
  | [] => rfl
  | (key, v) :: fs => by rw [fieldValues, fieldValues_eq_map fs, List.map_cons]

/-! ### Tokens -/

section Tokens

variable {lexer : Lexer} {c : Char} {t : Token} {rest : List Char}

/-- A character that completes no token. -/
theorem tokensFrom_of_none (next : Lexer) (h : lexer.step c = some (next, [])) :
    tokensFrom lexer (c :: rest) = tokensFrom next rest := by
  cases htokens : tokensFrom next rest <;> simp [tokensFrom, h, htokens]

/-- A character that completes one token. -/
theorem tokensFrom_of_one {next : Lexer} (h : lexer.step c = some (next, [t])) :
    tokensFrom lexer (c :: rest) = (tokensFrom next rest).map (t :: ·) := by
  simp [tokensFrom, h]

theorem hexValue?_hexDigit : ∀ n < 16, hexValue? (hexDigit n) = some n := by decide

/-- Escapes are undone. -/
theorem tokensFrom_escapeChar (read : List Char) (c : Char) (rest : List Char) :
    tokensFrom (.inText .plain read) (escapeChar c ++ rest) =
      tokensFrom (.inText .plain (c :: read)) rest := by
  -- the short forms are a backslash and one letter
  have short : ∀ d, d ≠ 'u' → escaped? d = some c →
      tokensFrom (.inText .plain read) ('\\' :: d :: rest) =
        tokensFrom (.inText .plain (c :: read)) rest := by
    intro d hd hescaped
    rw [tokensFrom_of_none (.inText .escape read) rfl,
      tokensFrom_of_none (.inText .plain (c :: read))]
    simp [Lexer.step, Mode.step, hd, hescaped]
  unfold escapeChar
  split_ifs with h₁ h₂ h₃ h₄ h₅ h₆ h₇ h₈
  · subst h₁; exact short '"' (by decide) rfl
  · subst h₂; exact short '\\' (by decide) rfl
  · subst h₃; exact short 'b' (by decide) rfl
  · subst h₄; exact short 't' (by decide) rfl
  · subst h₅; exact short 'n' (by decide) rfl
  · subst h₆; exact short 'f' (by decide) rfl
  · subst h₇; exact short 'r' (by decide) rfl
  · -- the two digits after the zeros come to the code
    have hcode : c.toNat / 16 * 16 + c.toNat % 16 = c.toNat := by omega
    have hsurrogate : ¬ (0xD800 ≤ c.toNat ∧ c.toNat < 0xDC00) ∧
        ¬ (0xDC00 ≤ c.toNat ∧ c.toNat < 0xE000) := by omega
    simp only [List.cons_append, List.nil_append]
    rw [tokensFrom_of_none (.inText .escape read) rfl,
      tokensFrom_of_none (.inText (.digits 0 0 none) read) rfl,
      tokensFrom_of_none (.inText (.digits 1 0 none) read) rfl,
      tokensFrom_of_none (.inText (.digits 2 0 none) read) rfl,
      tokensFrom_of_none (.inText (.digits 3 (c.toNat / 16) none) read),
      tokensFrom_of_none (.inText .plain (c :: read))]
    · simp [Lexer.step, Mode.step, hexValue?_hexDigit (c.toNat % 16) (by omega), hcode, ofCode,
        hsurrogate, Char.ofNat_toNat]
    · simp [Lexer.step, Mode.step, hexValue?_hexDigit (c.toNat / 16) (by omega)]
  · refine tokensFrom_of_none _ ?_
    simp [Lexer.step, Mode.step, h₁, h₂, h₈]

theorem tokensFrom_flatMap_escapeChar (cs read rest : List Char) :
    tokensFrom (.inText .plain read) (cs.flatMap escapeChar ++ rest) =
      tokensFrom (.inText .plain (cs.reverse ++ read)) rest := by
  induction cs generalizing read with
  | nil => rfl
  | cons c cs ih =>
    rw [List.flatMap_cons, List.append_assoc, tokensFrom_escapeChar, ih, List.reverse_cons,
      List.append_assoc]
    rfl

/-- A string is one token. -/
theorem tokensFrom_textChars (s : String) (rest : List Char) :
    tokensFrom .between (textChars s ++ rest) =
      (tokensFrom .between rest).map (.text s :: ·) := by
  rw [textChars, List.append_assoc, List.cons_append,
    tokensFrom_of_none (.inText .plain []) rfl, tokensFrom_flatMap_escapeChar]
  refine tokensFrom_of_one ?_
  simp [Lexer.step]

/-- Whether something else than a word goes on. -/
def EndsWord (rest : List Char) : Prop := ∀ c ∈ rest.head?, isWordChar c = false

/-- A word is one token, if what follows does not go on with it. -/
theorem tokensFrom_inWord {word : List Char} (hword : ∀ c ∈ word, isWordChar c = true)
    (hrest : EndsWord rest) (read : List Char) :
    tokensFrom (.inWord read) (word ++ rest) =
      (tokensFrom .between rest).map (.word (read.reverse ++ word) :: ·) := by
  induction word generalizing read with
  | nil =>
    cases rest with
    | nil => simp [tokensFrom]
    | cons c rest =>
      have hc : isWordChar c = false := hrest c rfl
      cases hstart : Lexer.start c with
      | none => simp [tokensFrom, Lexer.step, hc, hstart]
      | some p => cases h : tokensFrom p.1 rest <;> simp [tokensFrom, Lexer.step, hc, hstart, h]
  | cons c word ih =>
    rw [List.cons_append, tokensFrom_of_none (.inWord (c :: read)),
      ih fun d hd => hword d (List.mem_cons_of_mem _ hd)]
    · simp
    · simp [Lexer.step, hword c List.mem_cons_self]

theorem step_of_isWordChar (h : isWordChar c = true) :
    Lexer.between.step c = some (.inWord [c], []) := by
  have hspace : isSpace c = false := by
    by_contra hc
    simp only [isSpace, Bool.or_eq_true, beq_iff_eq, Bool.not_eq_false] at hc
    rcases hc with ((rfl | rfl) | rfl) | rfl <;> exact absurd h (by decide)
  have hquote : c ≠ '"' := by
    rintro rfl
    exact absurd h (by decide)
  simp [Lexer.step, Lexer.start, hspace, hquote, h]

theorem tokensFrom_word {word : List Char} (hne : word ≠ [])
    (hword : ∀ c ∈ word, isWordChar c = true) (hrest : EndsWord rest) :
    tokensFrom .between (word ++ rest) = (tokensFrom .between rest).map (.word word :: ·) := by
  obtain ⟨c, cs, rfl⟩ := List.exists_cons_of_ne_nil hne
  obtain ⟨hc, hcs⟩ := List.forall_mem_cons.1 hword
  rw [List.cons_append, tokensFrom_of_none _ (step_of_isWordChar hc),
    tokensFrom_inWord hcs hrest]
  rfl

end Tokens

/-! ### Numbers -/

theorem isWordChar_of_isDigit {c : Char} (h : c.isDigit = true) : isWordChar c = true := by
  simp [isWordChar, Char.isAlphanum, h]

/-- Digits are a number, if a zero at their front stands alone. -/
theorem isNumeral_of_isDigit {c : Char} {cs : List Char} (hdigit : ∀ d ∈ c :: cs, d.isDigit = true)
    (hzero : c = '0' → cs = []) : isNumeral (c :: cs) = true := by
  obtain ⟨hc, hcs⟩ := List.forall_mem_cons.1 hdigit
  have hminus : c ≠ '-' := by
    rintro rfl
    exact absurd hc (by decide)
  have hwhole : afterWhole? (c :: cs) = some [] := by
    by_cases h : c = '0'
    · rw [h, hzero h]
      rfl
    · have hall : cs.dropWhile Char.isDigit = [] := List.dropWhile_eq_nil_iff.2 hcs
      rw [afterWhole?.eq_2 _ (by simpa using h), afterDigits?, if_pos hc, hall]
  simp [isNumeral, hminus, hwhole, afterFraction?, afterExponent?]

theorem ofWord?_toString (n : Nat) :
    ofWord? (toString n).toList = some (.number (toString n).toList) := by
  have hdigit := fun c => @Text.isDigit_of_mem_toString n c
  have hzero := @Text.eq_zero_of_head?_toString n
  cases hcs : (toString n).toList with
  | nil => exact absurd hcs (Text.toString_ne_nil n)
  | cons c cs =>
    rw [hcs] at hdigit hzero
    have hnumeral : isNumeral (c :: cs) = true := by
      refine isNumeral_of_isDigit hdigit fun hc => ?_
      rw [hzero (congrArg some hc)] at hcs
      exact (List.cons.inj hcs).2.symm
    have hname : ∀ d, d.isDigit = false → c ≠ d := by
      rintro d hd rfl
      exact Bool.false_ne_true (hd.symm.trans (hdigit c List.mem_cons_self))
    simp [ofWord?, hnumeral, hname 'n' rfl, hname 't' rfl, hname 'f' rfl]

/-! ### Values -/

/-- What the rest of a text comes to, for a reader between two tokens. -/
def readFrom (reader : Reader) (cs : List Char) : Option Value :=
  (tokensFrom .between cs).bind reader.finish

section Reading

variable {reader : Reader} {rest : List Char}

theorem finish_cons (reader : Reader) (t : Token) (ts : List Token) :
    reader.finish (t :: ts) = (reader.step t).bind (·.finish ts) := by
  cases h : reader.step t <;> simp [Reader.finish, h]

/-- A piece of text that is one token. -/
theorem readFrom_of_token (piece : List Char) {t : Token}
    (h : tokensFrom .between (piece ++ rest) = (tokensFrom .between rest).map (t :: ·)) :
    readFrom reader (piece ++ rest) = (reader.step t).bind (readFrom · rest) := by
  rw [readFrom, h]
  cases hrest : tokensFrom .between rest with
  | none => cases hstep : reader.step t <;> simp [readFrom, hrest]
  | some ts =>
    cases hstep : reader.step t <;> simp [readFrom, hrest, finish_cons, hstep]

theorem readFrom_textChars (reader : Reader) (s : String) (rest : List Char) :
    readFrom reader (textChars s ++ rest) = (reader.step (.text s)).bind (readFrom · rest) :=
  readFrom_of_token _ (tokensFrom_textChars s rest)

/-- A character that is a token by itself. -/
theorem readFrom_punctuation {c : Char} {t : Token}
    (h : Lexer.between.step c = some (.between, [t])) :
    readFrom reader (c :: rest) = (reader.step t).bind (readFrom · rest) :=
  readFrom_of_token [c] (tokensFrom_of_one h)

theorem readFrom_space {c : Char} (h : Lexer.between.step c = some (.between, [])) :
    readFrom reader (c :: rest) = readFrom reader rest := by
  rw [readFrom, tokensFrom_of_none _ h, readFrom]

theorem readFrom_newLine (reader : Reader) (level : Nat) (rest : List Char) :
    readFrom reader (newLine level ++ rest) = readFrom reader rest := by
  rw [newLine, List.cons_append, readFrom_space rfl]
  induction 2 * level with
  | zero => rfl
  | succ n ih => rw [List.replicate_succ, List.cons_append, readFrom_space rfl, ih]

theorem readFrom_toString (reader : Reader) (n : Nat) (hrest : EndsWord rest) :
    readFrom reader ((toString n).toList ++ rest) =
      (reader.step (.word (toString n).toList)).bind (readFrom · rest) :=
  readFrom_of_token _ <| tokensFrom_word (Text.toString_ne_nil n)
    (fun _ hc => isWordChar_of_isDigit (Text.isDigit_of_mem_toString hc)) hrest

/-- Whether a value may come next, with these arrays and objects open. -/
def Reader.Awaits (reader : Reader) (outer : List Frame) : Prop :=
  ∀ t, t ≠ .closeArray → reader.step t = Reader.begin outer t

theorem awaits_value (outer : List Frame) : (Reader.value outer).Awaits outer := fun _ _ => rfl

theorem awaits_firstItem (outer : List Frame) :
    (Reader.firstItem outer).Awaits (.array [] :: outer) := by
  intro t ht
  cases t with
  | closeArray => exact absurd rfl ht
  | _ => rfl

/-- The colon after the name of a field, and the blank behind it. -/
theorem readFrom_key (outer : List Frame) (fields : List (String × Value)) (key : String)
    (rest : List Char) :
    readFrom (.colon outer fields key) (':' :: ' ' :: rest) =
      readFrom (.value (.object fields key :: outer)) rest := by
  rw [readFrom_punctuation (c := ':') rfl]
  exact readFrom_space rfl

end Reading

/-! ### The indented text -/

theorem endsWord_newLine (level : Nat) (rest : List Char) : EndsWord (newLine level ++ rest) := by
  rintro c hc
  obtain rfl := Option.some.inj hc
  decide

theorem endsWord_prettyItems (level : Nat) (vs : List Json) {rest : List Char}
    (hrest : EndsWord rest) : EndsWord (prettyItems level vs ++ rest) := by
  cases vs with
  | nil => exact hrest
  | cons v vs =>
    rintro c hc
    obtain rfl := Option.some.inj hc
    decide

theorem endsWord_prettyFields (level : Nat) (fs : List (String × Json)) {rest : List Char}
    (hrest : EndsWord rest) : EndsWord (prettyFields level fs ++ rest) := by
  cases fs with
  | nil => exact hrest
  | cons f fs =>
    rintro c hc
    obtain rfl := Option.some.inj hc
    decide

mutual

/-- Where a value may come next, its text brings the reader to the place after the value. -/
theorem readFrom_prettyChars {reader : Reader} {outer : List Frame} (h : reader.Awaits outer)
    (level : Nat) {rest : List Char} (hrest : EndsWord rest) : ∀ v : Json,
    readFrom reader (prettyChars level v ++ rest) = readFrom (.after outer v.value) rest
  | .text s => by
    rw [prettyChars, readFrom_textChars, h _ (by simp)]
    rfl
  | .number n => by
    rw [prettyChars, readFrom_toString reader n hrest, h _ (by simp), Reader.begin,
      ofWord?_toString]
    rfl
  | .array [] => by
    rw [prettyChars, List.cons_append, readFrom_punctuation (c := '[') rfl, h _ (by simp)]
    exact readFrom_punctuation (c := ']') rfl
  | .array (v :: vs) => by
    simp only [prettyChars, List.cons_append, List.append_assoc, List.nil_append]
    calc
      _ = readFrom (.firstItem outer) _ := by
        rw [readFrom_punctuation (c := '[') rfl, h _ (by simp)]
        rfl
      _ = readFrom (.after (.array [] :: outer) v.value) _ := by
        rw [readFrom_newLine, readFrom_prettyChars (awaits_firstItem outer) (level + 1)
          (endsWord_prettyItems _ vs (endsWord_newLine _ _)) v]
      _ = readFrom (.after outer (Json.array (v :: vs)).value) rest := by
        rw [readFrom_prettyItems outer _ level rest vs [] v.value, value, itemValues]
        rfl
  | .object [] => by
    rw [prettyChars, List.cons_append, readFrom_punctuation (c := '\x7b') rfl, h _ (by simp)]
    exact readFrom_punctuation (c := '\x7d') rfl
  | .object ((key, v) :: fs) => by
    simp only [prettyChars, List.cons_append, List.append_assoc, List.nil_append]
    calc
      _ = readFrom (.firstField outer) _ := by
        rw [readFrom_punctuation (c := '\x7b') rfl, h _ (by simp)]
        rfl
      _ = readFrom (.value (.object [] key :: outer)) _ := by
        rw [readFrom_newLine, readFrom_textChars]
        exact readFrom_key outer [] key _
      _ = readFrom (.after (.object [] key :: outer) v.value) _ :=
        readFrom_prettyChars (awaits_value _) (level + 1)
          (endsWord_prettyFields _ fs (endsWord_newLine _ _)) v
      _ = readFrom (.after outer (Json.object ((key, v) :: fs)).value) rest := by
        rw [readFrom_prettyFields outer _ level rest fs [] key v.value, value, fieldValues]
        rfl

/-- The elements after one, to the end of the array. -/
theorem readFrom_prettyItems (outer : List Frame) (level outside : Nat) (rest : List Char) :
    ∀ (vs : List Json) (before : List Value) (w : Value),
    readFrom (.after (.array before :: outer) w)
        (prettyItems level vs ++ (newLine outside ++ ']' :: rest)) =
      readFrom (.after outer (.array (before.reverse ++ w :: itemValues vs))) rest
  | [], before, w => by
    rw [prettyItems, List.nil_append, readFrom_newLine, readFrom_punctuation (c := ']') rfl,
      itemValues, ← List.reverse_cons]
    rfl
  | v :: vs, before, w => by
    simp only [prettyItems, List.cons_append, List.append_assoc]
    calc
      _ = readFrom (.value (.array (w :: before) :: outer)) _ := by
        rw [readFrom_punctuation (c := ',') rfl]
        rfl
      _ = readFrom (.after (.array (w :: before) :: outer) v.value) _ := by
        rw [readFrom_newLine, readFrom_prettyChars (awaits_value _) level
          (endsWord_prettyItems _ vs (endsWord_newLine _ _)) v]
      _ = readFrom (.after outer (.array (before.reverse ++ w :: itemValues (v :: vs)))) rest := by
        rw [readFrom_prettyItems outer level outside rest vs, List.reverse_cons, itemValues,
          List.append_assoc, List.singleton_append]

/-- The fields after one, to the end of the object. -/
theorem readFrom_prettyFields (outer : List Frame) (level outside : Nat) (rest : List Char) :
    ∀ (fs : List (String × Json)) (before : List (String × Value)) (key : String) (w : Value),
    readFrom (.after (.object before key :: outer) w)
        (prettyFields level fs ++ (newLine outside ++ '\x7d' :: rest)) =
      readFrom (.after outer (.object (before.reverse ++ (key, w) :: fieldValues fs))) rest
  | [], before, key, w => by
    rw [prettyFields, List.nil_append, readFrom_newLine, readFrom_punctuation (c := '\x7d') rfl,
      fieldValues, ← List.reverse_cons]
    rfl
  | (next, v) :: fs, before, key, w => by
    simp only [prettyFields, List.cons_append, List.append_assoc]
    calc
      _ = readFrom (.field outer ((key, w) :: before)) _ := by
        rw [readFrom_punctuation (c := ',') rfl]
        rfl
      _ = readFrom (.value (.object ((key, w) :: before) next :: outer)) _ := by
        rw [readFrom_newLine, readFrom_textChars]
        exact readFrom_key outer ((key, w) :: before) next _
      _ = readFrom (.after (.object ((key, w) :: before) next :: outer) v.value) _ :=
        readFrom_prettyChars (awaits_value _) level
          (endsWord_prettyFields _ fs (endsWord_newLine _ _)) v
      _ = readFrom (.after outer
            (.object (before.reverse ++ (key, w) :: fieldValues ((next, v) :: fs)))) rest := by
        rw [readFrom_prettyFields outer level outside rest fs, List.reverse_cons, fieldValues,
          List.append_assoc, List.singleton_append]

end

/-- Reading undoes writing. -/
theorem ofText?_pretty (v : Json) : Value.ofText? v.pretty = some v.value := by
  have hends : EndsWord [] := by simp [EndsWord]
  have h := readFrom_prettyChars (awaits_value []) 0 hends v
  rw [List.append_nil] at h
  rw [Value.ofText?, pretty, String.toList_ofList]
  exact h

end RouteInventory.Json
