import RouteInventory.Json

/-!
Reading JSON as RFC 8259 has it. A text is first cut into tokens: punctuation, strings with their
escapes undone, and words, which are literal names and numbers. A reader then goes through the
tokens with the arrays and objects that are still open, innermost first. Whatever is no JSON text is
refused; so are escapes that name one half of a surrogate pair alone, which stand for no character.
-/

namespace RouteInventory.Json

/-- A JSON value. A number is kept as it is written. -/
inductive Value where
  | null
  | bool (b : Bool)
  | number (numeral : List Char)
  | text (s : String)
  | array (items : List Value)
  | object (fields : List (String × Value))

/-- A token. -/
inductive Token where
  | openArray | closeArray | openObject | closeObject | comma | colon
  | text (s : String)
  | word (cs : List Char)
  deriving DecidableEq, Repr

/-! ### Strings -/

/-- What a hexadecimal digit stands for. -/
def hexValue? (c : Char) : Option Nat :=
  if '0' ≤ c ∧ c ≤ '9' then some (c.toNat - 48)
  else if 'a' ≤ c ∧ c ≤ 'f' then some (c.toNat - 87)
  else if 'A' ≤ c ∧ c ≤ 'F' then some (c.toNat - 55)
  else none

/-- The character that a letter after a backslash stands for, if it is not `u`. -/
def escaped? (c : Char) : Option Char :=
  if c = '"' ∨ c = '\\' ∨ c = '/' then some c
  else if c = 'b' then some '\x08'
  else if c = 'f' then some '\x0c'
  else if c = 'n' then some '\n'
  else if c = 'r' then some '\r'
  else if c = 't' then some '\t'
  else none

/-- Where reading is in a string. -/
inductive Mode where
  /-- Between two characters. -/
  | plain
  /-- After a backslash. -/
  | escape
  /-- In the digits of an escape: how many were read and what they come to, and the first half of a
      pair if this is the second. -/
  | digits (count code : Nat) (high : Option Nat)
  /-- After the first half of a pair. -/
  | pair (high : Nat)
  /-- After the backslash that goes on with a pair. -/
  | pairEscape (high : Nat)
  deriving DecidableEq, Repr

/-- What four digits stand for. -/
def ofCode (code : Nat) : Option Nat → Option (Mode × List Char)
  | none =>
    if 0xD800 ≤ code ∧ code < 0xDC00 then some (.pair code, [])
    else if 0xDC00 ≤ code ∧ code < 0xE000 then none
    else some (.plain, [.ofNat code])
  | some high =>
    if 0xDC00 ≤ code ∧ code < 0xE000 then
      some (.plain, [.ofNat (0x10000 + (high - 0xD800) * 0x400 + (code - 0xDC00))])
    else none

/-- One character of a string: where reading is after it, and what has been read with it. Control
    characters have to be escaped, and a quote would have ended the string. -/
def Mode.step : Mode → Char → Option (Mode × List Char)
  | plain, c =>
    if c = '\\' then some (escape, [])
    else if c.toNat < 0x20 ∨ c = '"' then none
    else some (plain, [c])
  | escape, c =>
    if c = 'u' then some (digits 0 0 none, []) else (escaped? c).map fun d => (plain, [d])
  | digits count code high, c =>
    match hexValue? c with
    | none => none
    | some d =>
      if count < 3 then some (digits (count + 1) (code * 16 + d) high, [])
      else ofCode (code * 16 + d) high
  | pair high, c => if c = '\\' then some (pairEscape high, []) else none
  | pairEscape high, c => if c = 'u' then some (digits 0 0 (some high), []) else none

/-! ### Tokens -/

/-- Where reading is in a text; what has been read of a token has the latest character first. -/
inductive Lexer where
  | between
  | inWord (read : List Char)
  | inText (mode : Mode) (read : List Char)
  deriving DecidableEq, Repr

/-- The blanks of JSON. -/
def isSpace (c : Char) : Bool := c == ' ' || c == '\t' || c == '\n' || c == '\r'

/-- The characters of literal names and numbers. -/
def isWordChar (c : Char) : Bool := c.isAlphanum || c == '+' || c == '-' || c == '.'

/-- The token that a character is by itself. -/
def punctuation? (c : Char) : Option Token :=
  if c = '[' then some .openArray
  else if c = ']' then some .closeArray
  else if c = '\x7b' then some .openObject
  else if c = '\x7d' then some .closeObject
  else if c = ',' then some .comma
  else if c = ':' then some .colon
  else none

/-- A character between two tokens. -/
def Lexer.start (c : Char) : Option (Lexer × List Token) :=
  if isSpace c then some (between, [])
  else if c = '"' then some (inText .plain [], [])
  else if isWordChar c then some (inWord [c], [])
  else (punctuation? c).map fun t => (between, [t])

/-- One character: where reading is after it, and the tokens that are complete with it. -/
def Lexer.step : Lexer → Char → Option (Lexer × List Token)
  | between, c => start c
  | inWord read, c =>
    if isWordChar c then some (inWord (c :: read), [])
    else (start c).map fun (next, ts) => (next, .word read.reverse :: ts)
  | inText mode read, c =>
    if mode = .plain ∧ c = '"' then some (between, [.text (.ofList read.reverse)])
    else (mode.step c).map fun (next, cs) => (inText next (cs.reverse ++ read), [])

/-- The tokens of a text, from a place on. -/
def tokensFrom : Lexer → List Char → Option (List Token)
  | .between, [] => some []
  | .inWord read, [] => some [.word read.reverse]
  | .inText _ _, [] => none
  | lexer, c :: rest =>
    match lexer.step c with
    | none => none
    | some (next, ts) => (tokensFrom next rest).map (ts ++ ·)

/-! ### Numbers and literal names -/

/-- What follows at least one digit. -/
def afterDigits? : List Char → Option (List Char)
  | [] => none
  | c :: rest => if c.isDigit then some (rest.dropWhile Char.isDigit) else none

/-- What follows the digits before the point; a zero at their front stands alone. -/
def afterWhole? : List Char → Option (List Char)
  | '0' :: rest => some rest
  | cs => afterDigits? cs

/-- What follows the fraction, if there is one. -/
def afterFraction? : List Char → Option (List Char)
  | '.' :: rest => afterDigits? rest
  | cs => some cs

/-- What follows the exponent, if there is one. -/
def afterExponent? : List Char → Option (List Char)
  | [] => some []
  | c :: rest =>
    if c = 'e' ∨ c = 'E' then
      match rest with
      | '+' :: rest => afterDigits? rest
      | '-' :: rest => afterDigits? rest
      | rest => afterDigits? rest
    else some (c :: rest)

/-- Whether a word is a number. -/
def isNumeral (cs : List Char) : Bool :=
  let unsigned := if cs.head? = some '-' then cs.tail else cs
  ((afterWhole? unsigned).bind afterFraction?).bind afterExponent? == some []

/-- The value of a word. -/
def ofWord? (cs : List Char) : Option Value :=
  if cs = "null".toList then some .null
  else if cs = "true".toList then some (.bool true)
  else if cs = "false".toList then some (.bool false)
  else if isNumeral cs then some (.number cs)
  else none

/-! ### Values -/

/-- An array or object that is still open, with what it holds so far, the latest first; an object
    waits for the value of a field. -/
inductive Frame where
  | array (items : List Value)
  | object (fields : List (String × Value)) (key : String)

/-- What may come next. -/
inductive Reader where
  /-- A value. -/
  | value (outer : List Frame)
  /-- A value or the end of an array that has just been opened. -/
  | firstItem (outer : List Frame)
  /-- A field or the end of an object that has just been opened. -/
  | firstField (outer : List Frame)
  /-- A field. -/
  | field (outer : List Frame) (fields : List (String × Value))
  /-- The colon after the name of a field. -/
  | colon (outer : List Frame) (fields : List (String × Value)) (key : String)
  /-- What comes after a value: a comma or the end of what holds it. -/
  | after (outer : List Frame) (v : Value)

namespace Reader

/-- A token that begins a value. -/
def begin (outer : List Frame) : Token → Option Reader
  | .text s => some (after outer (.text s))
  | .word cs => (ofWord? cs).map (after outer)
  | .openArray => some (firstItem outer)
  | .openObject => some (firstField outer)
  | _ => none

/-- One token. -/
def step : Reader → Token → Option Reader
  | value outer, t => begin outer t
  | firstItem outer, .closeArray => some (after outer (.array []))
  | firstItem outer, t => begin (.array [] :: outer) t
  | firstField outer, .closeObject => some (after outer (.object []))
  | firstField outer, .text key => some (colon outer [] key)
  | field outer fields, .text key => some (colon outer fields key)
  | colon outer fields key, .colon => some (value (.object fields key :: outer))
  | after (.array items :: outer) v, .comma => some (value (.array (v :: items) :: outer))
  | after (.array items :: outer) v, .closeArray => some (after outer (.array (v :: items).reverse))
  | after (.object fields key :: outer) v, .comma => some (field outer ((key, v) :: fields))
  | after (.object fields key :: outer) v, .closeObject =>
    some (after outer (.object ((key, v) :: fields).reverse))
  | _, _ => none

/-- Reads on to the end, where a value must be complete and nothing open. -/
def finish : Reader → List Token → Option Value
  | after [] v, [] => some v
  | _, [] => none
  | reader, t :: rest =>
    match reader.step t with
    | none => none
    | some next => next.finish rest

end Reader

/-- The value of a JSON text. -/
def Value.ofText? (s : String) : Option Value :=
  (tokensFrom .between s.toList).bind (Reader.value []).finish

end RouteInventory.Json
