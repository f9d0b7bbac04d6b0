import RouteAtlas.Report.Value

/-!
# JSON

`Json.render` writes a value with one field or item to a line, indented by two blanks a level; an
empty list or record stays on its line.
-/

namespace RouteAtlas.Report.Json

/-- The digit of a number below sixteen. -/
def hexDigit (n : Nat) : Char := Nat.digitChar n

/-- One character inside a string: quotes, backslashes and controls are escaped. -/
def escape (c : Char) : List Char :=
  if c = '"' then ['\\', '"']
  else if c = '\\' then ['\\', '\\']
  else if c = '\n' then ['\\', 'n']
  else if c = '\r' then ['\\', 'r']
  else if c = '\t' then ['\\', 't']
  else if c = '\x08' then ['\\', 'b']
  else if c = '\x0c' then ['\\', 'f']
  else if c.toNat < 0x20 then
    ['\\', 'u', '0', '0', hexDigit (c.toNat / 16), hexDigit (c.toNat % 16)]
  else [c]

/-- A string with its quotes. -/
def string (s : String) : List Char := '"' :: s.toList.flatMap escape ++ ['"']

/-- The beginning of a line at a level. -/
def newline (level : Nat) : List Char := '\n' :: List.replicate (2 * level) ' '

mutual

/-- A value whose lines stand at `level`. -/
def value (level : Nat) : Value → List Char
  | .bool b => (toString b).toList
  | .nat n => (toString n).toList
  | .text s => string s
  | .list [] => ['[', ']']
  | .list (v :: vs) =>
    '[' :: newline (level + 1) ++ value (level + 1) v ++ items (level + 1) vs ++
      newline level ++ [']']
  | .record [] => ['\x7b', '\x7d']
  | .record ((k, v) :: fs) =>
    '\x7b' :: newline (level + 1) ++ string k ++ [':', ' '] ++ value (level + 1) v
      ++ fields (level + 1) fs ++ newline level ++ ['\x7d']

/-- The items behind the first of a list. -/
def items (level : Nat) : List Value → List Char
  | [] => []
  | v :: vs => ',' :: newline level ++ value level v ++ items level vs

/-- The fields behind the first of a record. -/
def fields (level : Nat) : List (String × Value) → List Char
  | [] => []
  | (k, v) :: fs =>
    ',' :: newline level ++ string k ++ [':', ' '] ++ value level v ++ fields level fs

end

/-- The text of a value. -/
def render (v : Value) : String := String.ofList (value 0 v)

end RouteAtlas.Report.Json
