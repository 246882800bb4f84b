/-! Reading bytes as text, with a mark in the place of what is no text. -/

namespace ModuleScope.Text

/-- Stands for bytes that encode no character. -/
def replacement : Char := Char.ofNat 0xFFFD

/-- A byte that goes on with a character. -/
def continues (byte : Nat) : Bool := 0x80 ≤ byte && byte ≤ 0xBF

/-- Whether the second byte of a longer encoding may follow the first. -/
def mayFollow (first second : Nat) : Bool :=
  -- Too small code points, surrogates and too great ones are ruled out here.
  let low := if first = 0xE0 then 0xA0 else if first = 0xF0 then 0x90 else 0x80
  let high := if first = 0xED then 0x9F else if first = 0xF4 then 0x8F else 0xBF
  low ≤ second && second ≤ high

/-- The character that bytes start with, and how many bytes after the first belong to it. -/
def firstChar (first : Nat) (rest : List Nat) : Char × Nat :=
  -- What is cut short is replaced as one.
  if first < 0x80 then (Char.ofNat first, 0)
  else if 0xC2 ≤ first && first ≤ 0xDF then
    match rest with
    | b :: _ => if continues b then (Char.ofNat ((first - 0xC0) * 0x40 + (b - 0x80)), 1) else (replacement, 0)
    | [] => (replacement, 0)
  else if 0xE0 ≤ first && first ≤ 0xEF then
    match rest with
    | b :: more =>
      if !mayFollow first b then (replacement, 0)
      else
        match more with
        | c :: _ =>
          if continues c then
            (Char.ofNat ((first - 0xE0) * 0x1000 + (b - 0x80) * 0x40 + (c - 0x80)), 2)
          else (replacement, 1)
        | [] => (replacement, 1)
    | [] => (replacement, 0)
  else if 0xF0 ≤ first && first ≤ 0xF4 then
    match rest with
    | b :: more =>
      if !mayFollow first b then (replacement, 0)
      else
        match more with
        | c :: last =>
          if !continues c then (replacement, 1)
          else
            match last with
            | d :: _ =>
              if continues d then
                (Char.ofNat ((first - 0xF0) * 0x40000 + (b - 0x80) * 0x1000 + (c - 0x80) * 0x40 + (d - 0x80)), 3)
              else (replacement, 2)
            | [] => (replacement, 2)
        | [] => (replacement, 1)
    | [] => (replacement, 0)
  else (replacement, 0)

/-- The characters of bytes after leaving out `skip` of them. -/
def decodeFrom : Nat → List Nat → List Char
  | _, [] => []
  | skip + 1, _ :: rest => decodeFrom skip rest
  | 0, first :: rest =>
    let (c, extra) := firstChar first rest
    c :: decodeFrom extra rest

/-- The text of bytes, whatever they are. -/
def decodeLossy (bytes : List UInt8) : List Char := decodeFrom 0 (bytes.map UInt8.toNat)

end ModuleScope.Text
