import ModuleScope.Unicode.CharSet

/-! Sets of characters as sequences of byte ranges, as they are seen in encoded text. -/

namespace ModuleScope.Unicode

/-- An inclusive range of bytes. -/
abbrev ByteRange := Nat × Nat

/-- The bytes that encode a code point. -/
def encodeCode (code : Nat) : List Nat :=
  -- The first byte tells how many there are, and each of the others carries six bits.
  if code < 0x80 then [code]
  else if code < 0x800 then [0xC0 + code / 0x40, 0x80 + code % 0x40]
  else if code < 0x10000 then
    [0xE0 + code / 0x1000, 0x80 + code / 0x40 % 0x40, 0x80 + code % 0x40]
  else
    [0xF0 + code / 0x40000, 0x80 + code / 0x1000 % 0x40, 0x80 + code / 0x40 % 0x40,
      0x80 + code % 0x40]

/-- Cuts a range of code points where one of the given code points comes after its first one. -/
def cutRange (cuts : List Nat) (range : Nat × Nat) : List (Nat × Nat) :=
  -- The cuts are ascending.
  match cuts with
  | [] => [range]
  | cut :: rest =>
    if range.1 < cut && cut ≤ range.2 then (range.1, cut - 1) :: cutRange rest (cut, range.2)
    else cutRange rest range

/-- Cuts a range whose ends differ above the last `bits` bits so that these bits run through all values. -/
def alignRange (bits : Nat) (range : Nat × Nat) : List (Nat × Nat) :=
  -- At most three parts: up to the first multiple, whole multiples, and the rest.
  let unit := Nat.pow 2 bits
  if range.1 / unit = range.2 / unit then [range]
  else
    let low := if range.1 % unit = 0 then [] else [(range.1, range.1 / unit * unit + unit - 1)]
    let high := if range.2 % unit = unit - 1 then [] else [(range.2 / unit * unit, range.2)]
    let first := if low.isEmpty then range.1 else range.1 / unit * unit + unit
    let last := if high.isEmpty then range.2 else range.2 / unit * unit - 1
    low ++ (if first ≤ last then [(first, last)] else []) ++ high

/-- The sequences of byte ranges that encode a range of code points. -/
def byteSequences (range : Nat × Nat) : List (List ByteRange) :=
  -- Within a part all bytes vary independently, so the encoded ends give the ranges.
  let parts := (cutRange [0x80, 0x800, 0xD800, 0xE000, 0x10000] range).filter fun part =>
    part.1 < 0xD800 || 0xDFFF < part.1
  parts.flatMap fun part =>
    if part.2 < 0x80 then [[part]]
    else
      let aligned :=
        if part.2 < 0x800 then alignRange 6 part
        else if part.2 < 0x10000 then (alignRange 12 part).flatMap (alignRange 6)
        else ((alignRange 18 part).flatMap (alignRange 12)).flatMap (alignRange 6)
      aligned.map fun piece => (encodeCode piece.1).zip (encodeCode piece.2)

namespace CharSet

/-- The sequences of byte ranges that encode the characters of the set, in ascending order. -/
def byteSequences (set : CharSet) : List (List ByteRange) :=
  -- The ranges are ascending.
  set.ranges.flatMap Unicode.byteSequences

end CharSet

end ModuleScope.Unicode
