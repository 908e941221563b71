import RouteInventory.Text.Printable

/-!
Quoted text, as messages show paths: between double quotes, with the quote, the backslash and every
character that cannot be shown written as an escape.
-/

namespace RouteInventory.Text

/-- A character as it stands inside quotes. -/
def escapeChar (c : Char) : List Char :=
  if c = '\x00' then ['\\', '0']
  else if c = '\t' then ['\\', 't']
  else if c = '\r' then ['\\', 'r']
  else if c = '\n' then ['\\', 'n']
  else if c = '\\' then ['\\', '\\']
  else if c = '"' then ['\\', '"']
  else if isShown c then [c]
  else ['\\', 'u', '{'] ++ Nat.toDigits 16 c.toNat ++ ['}']

/-- A string between quotes. -/
def quoted (s : String) : String := .ofList ('"' :: s.toList.flatMap escapeChar ++ ['"'])

end RouteInventory.Text
