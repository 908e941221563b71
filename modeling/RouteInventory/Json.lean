/-!
JSON values and their text. The reports need strings, natural numbers, arrays and objects. Objects
keep the order of their fields. The pretty form indents by two spaces and puts every element and
field on a line of its own; the compact form has no blanks.
-/

namespace RouteInventory

/-- A JSON value. -/
inductive Json where
  | text (s : String)
  | number (n : Nat)
  | array (items : List Json)
  | object (fields : List (String × Json))

namespace Json

/-- A hexadecimal digit in lower case. -/
def hexDigit (n : Nat) : Char := if n < 10 then .ofNat (48 + n) else .ofNat (87 + n)

/-- A character inside a string: only the quote, the backslash and the control characters below the
    space are escaped, with the short forms where there are any. -/
def escapeChar (c : Char) : List Char :=
  if c = '"' then ['\\', '"']
  else if c = '\\' then ['\\', '\\']
  else if c = '\x08' then ['\\', 'b']
  else if c = '\t' then ['\\', 't']
  else if c = '\n' then ['\\', 'n']
  else if c = '\x0c' then ['\\', 'f']
  else if c = '\r' then ['\\', 'r']
  else if c.toNat < 0x20 then
    ['\\', 'u', '0', '0', hexDigit (c.toNat / 16), hexDigit (c.toNat % 16)]
  else [c]

/-- A string with its quotes. -/
def textChars (s : String) : List Char := '"' :: s.toList.flatMap escapeChar ++ ['"']

mutual

/-- The text without blanks. -/
def compactChars : Json → List Char
  | text s => textChars s
  | number n => (toString n).toList
  | array items => '[' :: compactItems true items ++ [']']
  | object fields => '{' :: compactFields true fields ++ ['}']

/-- Elements with commas between them. -/
def compactItems (first : Bool) : List Json → List Char
  | [] => []
  | v :: rest => (if first then [] else [',']) ++ compactChars v ++ compactItems false rest

/-- Fields with commas between them. -/
def compactFields (first : Bool) : List (String × Json) → List Char
  | [] => []
  | (key, v) :: rest =>
    (if first then [] else [',']) ++ textChars key ++ ':' :: compactChars v ++
      compactFields false rest

end

/-- A line break and the indentation of a level. -/
def newLine (level : Nat) : List Char := '\n' :: List.replicate (2 * level) ' '

mutual

/-- The indented text of a value that stands at a level; empty arrays and objects stay on one
    line. -/
def prettyChars (level : Nat) : Json → List Char
  | text s => textChars s
  | number n => (toString n).toList
  | array [] => ['[', ']']
  | array (v :: rest) =>
    '[' :: newLine (level + 1) ++ prettyChars (level + 1) v ++ prettyItems (level + 1) rest ++
      newLine level ++ [']']
  | object [] => ['{', '}']
  | object ((key, v) :: rest) =>
    '{' :: newLine (level + 1) ++ textChars key ++ ':' :: ' ' :: prettyChars (level + 1) v ++
      prettyFields (level + 1) rest ++ newLine level ++ ['}']

/-- The elements after the first, each after a comma and on its own line. -/
def prettyItems (level : Nat) : List Json → List Char
  | [] => []
  | v :: rest => ',' :: newLine level ++ prettyChars level v ++ prettyItems level rest

/-- The fields after the first, each after a comma and on its own line. -/
def prettyFields (level : Nat) : List (String × Json) → List Char
  | [] => []
  | (key, v) :: rest =>
    ',' :: newLine level ++ textChars key ++ ':' :: ' ' :: prettyChars level v ++
      prettyFields level rest

end

/-- The text without blanks. -/
def compact (v : Json) : String := .ofList v.compactChars

/-- The indented text. -/
def pretty (v : Json) : String := .ofList (v.prettyChars 0)

/-- An array of strings. -/
def texts (xs : List String) : Json := array (xs.map text)

end Json
end RouteInventory
