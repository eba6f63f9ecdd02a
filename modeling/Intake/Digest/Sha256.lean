import Intake.Json.Quoted

/-!
# SHA-256

The 256-bit secure hash of a list of bytes: the message is padded to blocks of 64 bytes, each block
is expanded to 64 words, and 64 rounds mix them into a state of eight words. The first eight bytes
of a digest are the fingerprint of a text, a short name for it.
-/

namespace Intake

namespace Sha256

/-- The round constants: the first 32 bits of the fractional parts of the cube roots of the first
64 primes. -/
def roundConstants : List UInt32 := [
  0x428a2f98, 0x71374491, 0xb5c0fbcf, 0xe9b5dba5, 0x3956c25b, 0x59f111f1, 0x923f82a4, 0xab1c5ed5,
  0xd807aa98, 0x12835b01, 0x243185be, 0x550c7dc3, 0x72be5d74, 0x80deb1fe, 0x9bdc06a7, 0xc19bf174,
  0xe49b69c1, 0xefbe4786, 0x0fc19dc6, 0x240ca1cc, 0x2de92c6f, 0x4a7484aa, 0x5cb0a9dc, 0x76f988da,
  0x983e5152, 0xa831c66d, 0xb00327c8, 0xbf597fc7, 0xc6e00bf3, 0xd5a79147, 0x06ca6351, 0x14292967,
  0x27b70a85, 0x2e1b2138, 0x4d2c6dfc, 0x53380d13, 0x650a7354, 0x766a0abb, 0x81c2c92e, 0x92722c85,
  0xa2bfe8a1, 0xa81a664b, 0xc24b8b70, 0xc76c51a3, 0xd192e819, 0xd6990624, 0xf40e3585, 0x106aa070,
  0x19a4c116, 0x1e376c08, 0x2748774c, 0x34b0bcb5, 0x391c0cb3, 0x4ed8aa4a, 0x5b9cca4f, 0x682e6ff3,
  0x748f82ee, 0x78a5636f, 0x84c87814, 0x8cc70208, 0x90befffa, 0xa4506ceb, 0xbef9a3f7, 0xc67178f2]

structure State where
  a : UInt32
  b : UInt32
  c : UInt32
  d : UInt32
  e : UInt32
  f : UInt32
  g : UInt32
  h : UInt32
deriving DecidableEq, Repr

/-- The state before the first block: the first 32 bits of the fractional parts of the square roots
of the first eight primes. -/
def initial : State :=
  ⟨0x6a09e667, 0xbb67ae85, 0x3c6ef372, 0xa54ff53a, 0x510e527f, 0x9b05688c, 0x1f83d9ab, 0x5be0cd19⟩

/-- A word rotated to the right. -/
def rotate (word : UInt32) (count : UInt32) : UInt32 :=
  (word >>> count) ||| (word <<< (32 - count))

/-- The bytes of a number, most significant first. -/
def bigEndian (width value : Nat) : List UInt8 :=
  (List.range width).map fun index => UInt8.ofNat (value >>> (8 * (width - 1 - index)))

/-- A message padded to whole blocks: a one bit, zeros, and the length in bits. -/
def padded (message : List UInt8) : List UInt8 :=
  let zeros := (119 - message.length % 64) % 64
  message ++ 0x80 :: List.replicate zeros 0 ++ bigEndian 8 (8 * message.length)

def words : List UInt8 → List UInt32
  | a :: b :: c :: d :: rest =>
    ((a.toUInt32 <<< 24) ||| (b.toUInt32 <<< 16) ||| (c.toUInt32 <<< 8) ||| d.toUInt32) ::
      words rest
  | _ => []

/-- The next word of a block's expansion, from the words before it with the latest first. -/
def nextWord (latest : List UInt32) : UInt32 :=
  let second := latest.getD 1 0
  let fifteenth := latest.getD 14 0
  let small1 := rotate second 17 ^^^ rotate second 19 ^^^ (second >>> 10)
  let small0 := rotate fifteenth 7 ^^^ rotate fifteenth 18 ^^^ (fifteenth >>> 3)
  latest.getD 15 0 + small0 + latest.getD 6 0 + small1

/-- Words extended by a number of further ones, with the latest first. -/
def extend : Nat → List UInt32 → List UInt32
  | 0, latest => latest
  | count + 1, latest => extend count (nextWord latest :: latest)

/-- The 64 words of a block of sixteen. -/
def expansion (block : List UInt32) : List UInt32 :=
  (extend 48 block.reverse).reverse

/-- One round with a constant and a word. -/
def round (state : State) (input : UInt32 × UInt32) : State :=
  let big1 := rotate state.e 6 ^^^ rotate state.e 11 ^^^ rotate state.e 25
  let choice := (state.e &&& state.f) ^^^ (~~~state.e &&& state.g)
  let first := state.h + big1 + choice + input.1 + input.2
  let big0 := rotate state.a 2 ^^^ rotate state.a 13 ^^^ rotate state.a 22
  let majority := (state.a &&& state.b) ^^^ (state.a &&& state.c) ^^^ (state.b &&& state.c)
  ⟨first + big0 + majority, state.a, state.b, state.c, state.d + first, state.e, state.f, state.g⟩

def absorb (state : State) (block : List UInt32) : State :=
  let mixed := (roundConstants.zip (expansion block)).foldl round state
  ⟨state.a + mixed.a, state.b + mixed.b, state.c + mixed.c, state.d + mixed.d,
    state.e + mixed.e, state.f + mixed.f, state.g + mixed.g, state.h + mixed.h⟩

def absorbAll : Nat → State → List UInt32 → State
  | 0, state, _ => state
  | count + 1, state, rest => absorbAll count (absorb state (rest.take 16)) (rest.drop 16)

def digest (message : List UInt8) : List UInt8 :=
  let input := words (padded message)
  let state := absorbAll (input.length / 16) initial input
  [state.a, state.b, state.c, state.d, state.e, state.f, state.g, state.h].flatMap fun word =>
    bigEndian 4 word.toNat

end Sha256

namespace Fingerprint

def byteDigits (byte : UInt8) : List Char :=
  [Quoted.hexDigit (byte.toNat / 16), Quoted.hexDigit (byte.toNat % 16)]

def ofText (content : String) : String :=
  "sha256:" ++
    String.ofList (((Sha256.digest content.toUTF8.toList).take 8).flatMap byteDigits)

end Fingerprint

end Intake
