/-! Reading numbers from the bytes of a file. -/

namespace ModuleScope.Elf

/-- The order of the bytes of a number. -/
inductive ByteOrder
  /-- The lowest byte comes first. -/
  | little
  /-- The highest byte comes first. -/
  | big
deriving DecidableEq, Repr

/-- The bytes from a place on, if there are enough of them. -/
def slice? (data : ByteArray) (offset count : Nat) : Option (List UInt8) :=
  if offset + count ≤ data.size then some (data.extract offset (offset + count)).toList else none

/-- The number that bytes stand for. -/
def numberOf (order : ByteOrder) (bytes : List UInt8) : Nat :=
  -- The highest byte is taken first.
  let highFirst := match order with
    | .little => bytes.reverse
    | .big => bytes
  highFirst.foldl (fun value byte => 256 * value + byte.toNat) 0

/-- The number in so many bytes at a place. -/
def number? (data : ByteArray) (order : ByteOrder) (offset count : Nat) : Option Nat :=
  (slice? data offset count).map (numberOf order)

end ModuleScope.Elf
