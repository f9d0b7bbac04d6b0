/-!
# Durations in words

A duration is written in the largest unit of seconds and milliseconds that it fills, with no more
decimals than it has.
-/

namespace RouteAtlas.Text

/-- A number below one thousand with three digits. -/
def threeDigits (n : Nat) : List Char :=
  [n / 100 % 10, n / 10 % 10, n % 10].map Nat.digitChar

/-- A number of milliseconds in words. -/
def duration (milliseconds : Nat) : String :=
  if milliseconds = 0 then "0ns"
  else if milliseconds < 1000 then toString milliseconds ++ "ms"
  else
    let decimals := (threeDigits (milliseconds % 1000)).reverse.dropWhile (· = '0')
    let fraction := if decimals.isEmpty then "" else "." ++ String.ofList decimals.reverse
    toString (milliseconds / 1000) ++ fraction ++ "s"

end RouteAtlas.Text
