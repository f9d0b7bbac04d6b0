/-!
# String literals of the generated module

`encode` writes a text as a double-quoted literal: a quote, a backslash and a line feed are escaped,
all else stands for itself.
-/

namespace RouteAtlas.Text.Literal

/-- One character between the quotes. -/
def escape : Char → List Char
  | '"' => ['\\', '"']
  | '\\' => ['\\', '\\']
  | '\n' => ['\\', 'n']
  | c => [c]

/-- The characters between the quotes. -/
def body (s : List Char) : List Char := s.flatMap escape

/-- The literal whose value is meant to be `s`. -/
def encode (s : String) : String :=
  String.ofList ('"' :: body s.toList ++ ['"'])

end RouteAtlas.Text.Literal
