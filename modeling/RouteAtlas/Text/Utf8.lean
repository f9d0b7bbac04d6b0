/-!
# UTF-8

Decoding of a byte sequence, one character at a time. `next` splits the first character off, or the
longest beginning of one that cannot be continued. Strict decoding (`decode`) stops there and says
where; lossy decoding (`decodeLossy`) writes one replacement character and goes on behind it.
-/

namespace RouteAtlas.Text.Utf8

/-- Whether the byte continues a character. -/
def isContinuation (b : UInt8) : Bool := 0x80 ≤ b && b ≤ 0xbf

/-- What a byte sequence begins with. -/
inductive Head where
  /-- A whole character. -/
  | scalar (c : Char) (length : Nat)
  /-- `length` bytes that begin no character, with a byte behind them that shows it. -/
  | malformed (length : Nat)
  /-- The beginning of a character that the end of the sequence cuts off. -/
  | truncated
deriving Repr, DecidableEq

/-- How many bytes the lead byte announces, the bits it carries, and the range its successor lies
in. -/
def lead (b : UInt8) : Option (Nat × Nat × UInt8 × UInt8) :=
  if b < 0x80 then some (1, b.toNat, 0, 0)
  else if 0xc2 ≤ b && b ≤ 0xdf then some (2, b.toNat - 0xc0, 0x80, 0xbf)
  else if b = 0xe0 then some (3, 0, 0xa0, 0xbf)
  else if b = 0xed then some (3, 0xd, 0x80, 0x9f)
  else if 0xe1 ≤ b && b ≤ 0xef then some (3, b.toNat - 0xe0, 0x80, 0xbf)
  else if b = 0xf0 then some (4, 0, 0x90, 0xbf)
  else if 0xf1 ≤ b && b ≤ 0xf3 then some (4, b.toNat - 0xf0, 0x80, 0xbf)
  else if b = 0xf4 then some (4, 4, 0x80, 0x8f)
  else none

/-- The value of a continuation byte. -/
def low (b : UInt8) : Nat := b.toNat % 64

/-- Reads `wanted` more continuation bytes behind `taken` bytes with the bits `acc`. -/
def continuation (acc taken : Nat) : Nat → List UInt8 → Head
  | 0, _ => .scalar (Char.ofNat acc) taken
  | _ + 1, [] => .truncated
  | n + 1, b :: bs =>
    if isContinuation b then continuation (acc * 64 + low b) (taken + 1) n bs
    else .malformed taken

/-- What the bytes `b :: bs` begin with. -/
def next (b : UInt8) (bs : List UInt8) : Head :=
  match lead b with
  | none => .malformed 1
  | some (1, bits, _, _) => .scalar (Char.ofNat bits) 1
  | some (n, bits, lo, hi) =>
    match bs with
    | [] => .truncated
    | c :: cs =>
      if lo ≤ c && c ≤ hi then continuation (bits * 64 + low c) 2 (n - 2) cs
      else .malformed 1

/-- Why a byte sequence is no text. -/
inductive Fault where
  /-- `length` bytes at `start` begin no character. -/
  | invalid (length start : Nat)
  /-- The character at `start` is cut off by the end. -/
  | incomplete (start : Nat)
deriving Repr, DecidableEq

/-- The fault in words. -/
def Fault.message : Fault → String
  | .invalid n at_ => s!"invalid utf-8 sequence of {n} bytes from index {at_}"
  | .incomplete at_ => s!"incomplete utf-8 byte sequence from index {at_}"

/-- Decodes `bytes`, whose first byte has the index `start`, behind the characters `acc`. -/
def decodeFrom (start : Nat) (acc : List Char) (bytes : List UInt8) : Except Fault (List Char) :=
  match bytes with
  | [] => .ok acc.reverse
  | b :: bs =>
    match next b bs with
    | .scalar c n => decodeFrom (start + n) (c :: acc) (bs.drop (n - 1))
    | .malformed n => .error (.invalid n start)
    | .truncated => .error (.incomplete start)
termination_by bytes.length
decreasing_by simp only [List.length_cons, List.length_drop]; omega

/-- The text the bytes encode, or the first place where they encode none. -/
def decode (bytes : ByteArray) : Except Fault String :=
  (decodeFrom 0 [] bytes.toList).map String.ofList

/-- Decodes `bytes` behind the characters `acc`, with one replacement character for each faulty
piece. -/
def decodeLossyFrom (acc : List Char) (bytes : List UInt8) : List Char :=
  match bytes with
  | [] => acc.reverse
  | b :: bs =>
    match next b bs with
    | .scalar c n => decodeLossyFrom (c :: acc) (bs.drop (n - 1))
    | .malformed n => decodeLossyFrom ('\uFFFD' :: acc) (bs.drop (n - 1))
    | .truncated => ('\uFFFD' :: acc).reverse
termination_by bytes.length
decreasing_by all_goals simp only [List.length_cons, List.length_drop]; omega

/-- The text a list of bytes encodes, each faulty piece replaced. -/
def lossyText (bytes : List UInt8) : String := String.ofList (decodeLossyFrom [] bytes)

/-- The text the bytes encode, each faulty piece replaced. -/
def decodeLossy (bytes : ByteArray) : String := lossyText bytes.toList

end RouteAtlas.Text.Utf8
