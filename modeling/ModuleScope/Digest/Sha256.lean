/-! The hash function SHA-256. -/

namespace ModuleScope.Sha256

/-- The state between two blocks. -/
abbrev State := Vector UInt32 8

/-- The first 32 bits of the fractions of the square roots of the first eight primes. -/
def initial : State :=
  #v[0x6A09E667, 0xBB67AE85, 0x3C6EF372, 0xA54FF53A, 0x510E527F, 0x9B05688C, 0x1F83D9AB, 0x5BE0CD19]

/-- The first 32 bits of the fractions of the cube roots of the first 64 primes. -/
def constants : Vector UInt32 64 :=
  #v[0x428A2F98, 0x71374491, 0xB5C0FBCF, 0xE9B5DBA5, 0x3956C25B, 0x59F111F1, 0x923F82A4, 0xAB1C5ED5,
    0xD807AA98, 0x12835B01, 0x243185BE, 0x550C7DC3, 0x72BE5D74, 0x80DEB1FE, 0x9BDC06A7, 0xC19BF174,
    0xE49B69C1, 0xEFBE4786, 0x0FC19DC6, 0x240CA1CC, 0x2DE92C6F, 0x4A7484AA, 0x5CB0A9DC, 0x76F988DA,
    0x983E5152, 0xA831C66D, 0xB00327C8, 0xBF597FC7, 0xC6E00BF3, 0xD5A79147, 0x06CA6351, 0x14292967,
    0x27B70A85, 0x2E1B2138, 0x4D2C6DFC, 0x53380D13, 0x650A7354, 0x766A0ABB, 0x81C2C92E, 0x92722C85,
    0xA2BFE8A1, 0xA81A664B, 0xC24B8B70, 0xC76C51A3, 0xD192E819, 0xD6990624, 0xF40E3585, 0x106AA070,
    0x19A4C116, 0x1E376C08, 0x2748774C, 0x34B0BCB5, 0x391C0CB3, 0x4ED8AA4A, 0x5B9CCA4F, 0x682E6FF3,
    0x748F82EE, 0x78A5636F, 0x84C87814, 0x8CC70208, 0x90BEFFFA, 0xA4506CEB, 0xBEF9A3F7, 0xC67178F2]

/-- Turns the bits of a word to the right. -/
def rotate (word count : UInt32) : UInt32 := (word >>> count) ||| (word <<< (32 - count))

/-- The word in four bytes, highest byte first. -/
def wordAt (message : ByteArray) (start : Nat) : UInt32 :=
  -- Bytes past the end count as zero.
  (List.range 4).foldl (fun word i => (word <<< 8) ||| (if h : start + i < message.size then message[start + i] else 0).toUInt32) 0

/-- The word of the schedule that follows from earlier ones. -/
def nextWord (words : Array UInt32) : UInt32 :=
  let word := fun back => (words[words.size - back]?).getD 0
  let old := word 15
  let new := word 2
  word 16 + (rotate old 7 ^^^ rotate old 18 ^^^ (old >>> 3)) + word 7
    + (rotate new 17 ^^^ rotate new 19 ^^^ (new >>> 10))

/-- The 64 words of a block: its own sixteen and those that follow from them. -/
def schedule (message : ByteArray) (start : Nat) : Array UInt32 :=
  (List.range 48).foldl (fun words _ => words.push (nextWord words))
    ((Array.range 16).map fun i => wordAt message (start + 4 * i))

/-- One round. -/
def round (state : State) (constant word : UInt32) : State :=
  let a := state[0]
  let b := state[1]
  let c := state[2]
  let e := state[4]
  let first := state[7] + (rotate e 6 ^^^ rotate e 11 ^^^ rotate e 25)
    + ((e &&& state[5]) ^^^ (~~~e &&& state[6])) + constant + word
  let second := (rotate a 2 ^^^ rotate a 13 ^^^ rotate a 22) + ((a &&& b) ^^^ (a &&& c) ^^^ (b &&& c))
  #v[first + second, a, b, c, state[3] + first, e, state[5], state[6]]

/-- Takes a block into the state. -/
def compress (state : State) (message : ByteArray) (start : Nat) : State :=
  -- The result of the rounds is added to what was there before.
  let rounds := (constants.toArray.zip (schedule message start)).foldl
    (fun state pair => round state pair.1 pair.2) state
  Vector.ofFn fun i => state[i] + rounds[i]

/-- The bytes of a number, highest byte first. -/
def bytesOf (count value : Nat) : List UInt8 :=
  (List.range count).map fun i => UInt8.ofNat (value >>> (8 * (count - 1 - i)))

/-- The message with a one bit, as few zeros as are needed to fill a block, and its length in bits. -/
def pad (message : ByteArray) : ByteArray :=
  -- One byte and eight more are added besides the zeros.
  let zeros := (64 - (message.size + 9) % 64) % 64
  message ++ ((0x80 :: List.replicate zeros 0) ++ bytesOf 8 (8 * message.size)).toByteArray

/-- The hash of a message. -/
def hash (message : ByteArray) : Vector UInt8 32 :=
  -- Each word of the last state gives four bytes.
  let padded := pad message
  let state := (List.range (padded.size / 64)).foldl
    (fun state block => compress state padded (64 * block)) initial
  Vector.ofFn fun i => UInt8.ofNat (state[i.val / 4].toNat >>> (8 * (3 - i.val % 4)))

end ModuleScope.Sha256
