import PatternSuite.Unicode.Classes

/-!
# Quoted text

Text between double quotes, as diagnostics and reports show it. Quotes and backslashes get a
backslash, the common controls a letter, and everything that would not show as a character of its
own stands as its code point in hexadecimal.
-/

namespace PatternSuite.Text

/-- How a character stands between quotes. -/
def escapeChar (c : Char) : List Char :=
  if c == '\t' then ['\\', 't']
  else if c == '\r' then ['\\', 'r']
  else if c == '\n' then ['\\', 'n']
  else if c == '\x00' then ['\\', '0']
  else if c == '"' then ['\\', '"']
  else if c == '\\' then ['\\', '\\']
  else if Unicode.isShown c then [c]
  else ['\\', 'u', '\x7b'] ++ Nat.toDigits 16 c.toNat ++ ['\x7d']

/-- A text in quotes. -/
def quote (s : String) : String :=
  String.ofList ('"' :: (s.toList.flatMap escapeChar ++ ['"']))

end PatternSuite.Text
