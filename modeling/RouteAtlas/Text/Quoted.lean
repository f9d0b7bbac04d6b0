import RouteAtlas.Text.Printable

/-!
# Text quoted for a log line

A quoted text stands between double quotes, on one line, and shows every character: quotes and
backslashes are escaped, the usual controls have short forms, and a character that has no shape of
its own, or would merge with the one before it, is written as its code point.
-/

namespace RouteAtlas.Text

/-- The code point in lower-case hexadecimal digits. -/
def hexDigits (n : Nat) : String := String.ofList (Nat.toDigits 16 n)

/-- One character inside a quoted text. -/
def escapeChar (c : Char) : String :=
  if c = '\x00' then "\\0"
  else if c = '\t' then "\\t"
  else if c = '\r' then "\\r"
  else if c = '\n' then "\\n"
  else if c = '"' then "\\\""
  else if c = '\\' then "\\\\"
  else if isExtending c || !isPrintable c then "\\u\x7b" ++ hexDigits c.toNat ++ "\x7d"
  else c.toString

/-- The text between double quotes, escaped. -/
def quoted (s : String) : String :=
  "\"" ++ String.join (s.toList.map escapeChar) ++ "\""

end RouteAtlas.Text
