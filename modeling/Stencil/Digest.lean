set_option autoImplicit false

/-!
SHA-256, by which compiled templates are found again. A block of sixteen words is worked through
with a sliding window: each of the 64 rounds takes the first word of the window and appends the next.
-/

namespace Stencil.Digest

/-- The eight words of the running hash. -/
structure State where
  a : UInt32
  b : UInt32
  c : UInt32
  d : UInt32
  e : UInt32
  f : UInt32
  g : UInt32
  h : UInt32

namespace State

def start : State :=
  ⟨0x6a09e667, 0xbb67ae85, 0x3c6ef372, 0xa54ff53a, 0x510e527f, 0x9b05688c, 0x1f83d9ab, 0x5be0cd19⟩

def add (left right : State) : State :=
  ⟨left.a + right.a, left.b + right.b, left.c + right.c, left.d + right.d,
    left.e + right.e, left.f + right.f, left.g + right.g, left.h + right.h⟩

def words (state : State) : List UInt32 :=
  [state.a, state.b, state.c, state.d, state.e, state.f, state.g, state.h]

end State

/-- The round constants. -/
def constants : List UInt32 := [
  0x428a2f98, 0x71374491, 0xb5c0fbcf, 0xe9b5dba5, 0x3956c25b, 0x59f111f1, 0x923f82a4, 0xab1c5ed5,
  0xd807aa98, 0x12835b01, 0x243185be, 0x550c7dc3, 0x72be5d74, 0x80deb1fe, 0x9bdc06a7, 0xc19bf174,
  0xe49b69c1, 0xefbe4786, 0x0fc19dc6, 0x240ca1cc, 0x2de92c6f, 0x4a7484aa, 0x5cb0a9dc, 0x76f988da,
  0x983e5152, 0xa831c66d, 0xb00327c8, 0xbf597fc7, 0xc6e00bf3, 0xd5a79147, 0x06ca6351, 0x14292967,
  0x27b70a85, 0x2e1b2138, 0x4d2c6dfc, 0x53380d13, 0x650a7354, 0x766a0abb, 0x81c2c92e, 0x92722c85,
  0xa2bfe8a1, 0xa81a664b, 0xc24b8b70, 0xc76c51a3, 0xd192e819, 0xd6990624, 0xf40e3585, 0x106aa070,
  0x19a4c116, 0x1e376c08, 0x2748774c, 0x34b0bcb5, 0x391c0cb3, 0x4ed8aa4a, 0x5b9cca4f, 0x682e6ff3,
  0x748f82ee, 0x78a5636f, 0x84c87814, 0x8cc70208, 0x90befffa, 0xa4506ceb, 0xbef9a3f7, 0xc67178f2]

def rotate (word amount : UInt32) : UInt32 := (word >>> amount) ||| (word <<< (32 - amount))

/-- The word that enters the window behind its sixteen. -/
def nextWord (window : List UInt32) : UInt32 :=
  let low := window[1]?.getD 0
  let high := window[14]?.getD 0
  let lowMix := rotate low 7 ^^^ rotate low 18 ^^^ (low >>> 3)
  let highMix := rotate high 17 ^^^ rotate high 19 ^^^ (high >>> 10)
  window.headD 0 + lowMix + window[9]?.getD 0 + highMix

/-- One round: the state takes the window's first word and the window moves on. -/
def round (progress : State × List UInt32) (constant : UInt32) : State × List UInt32 :=
  let (state, window) := progress
  let mixed := rotate state.e 6 ^^^ rotate state.e 11 ^^^ rotate state.e 25
  let choice := (state.e &&& state.f) ^^^ (~~~state.e &&& state.g)
  let first := state.h + mixed + choice + constant + window.headD 0
  let mixed := rotate state.a 2 ^^^ rotate state.a 13 ^^^ rotate state.a 22
  let majority := (state.a &&& state.b) ^^^ (state.a &&& state.c) ^^^ (state.b &&& state.c)
  let second := mixed + majority
  (⟨first + second, state.a, state.b, state.c, state.d + first, state.e, state.f, state.g⟩,
    window.tail ++ [nextWord window])

/-- Works one block of sixteen words into the hash. -/
def absorb (state : State) (block : List UInt32) : State :=
  state.add (constants.foldl round (state, block)).1

/-- The big-endian word of four bytes. -/
def word (a b c d : UInt8) : UInt32 :=
  (a.toUInt32 <<< 24) ||| (b.toUInt32 <<< 16) ||| (c.toUInt32 <<< 8) ||| d.toUInt32

def wordsOf : List UInt8 → List UInt32
  | a :: b :: c :: d :: bytes => word a b c d :: wordsOf bytes
  | _ => []

/-- A natural number in big-endian bytes. -/
def bigEndian (count value : Nat) : List UInt8 :=
  (List.range count).reverse.map fun place => UInt8.ofNat (value >>> (8 * place))

/-- A message filled up to whole blocks: a one bit, zeros, and its length in bits. -/
def padded (message : List UInt8) : List UInt8 :=
  let zeros := (119 - message.length % 64) % 64
  message ++ 0x80 :: List.replicate zeros 0 ++ bigEndian 8 (8 * message.length)

/-- Works all blocks in; `fuel` bounds their number. -/
def absorbAll : Nat → State → List UInt32 → State
  | 0, state, _ => state
  | fuel + 1, state, words =>
    if words.isEmpty then state else absorbAll fuel (absorb state (words.take 16)) (words.drop 16)

def hexDigits (word : UInt32) : List Char :=
  let digits := Nat.toDigits 16 word.toNat
  List.replicate (8 - digits.length) '0' ++ digits

/-- The hash of a text in lower case hexadecimal. -/
def ofText (text : String) : String :=
  let words := wordsOf (padded text.toUTF8.toList)
  String.ofList ((absorbAll words.length State.start words).words.flatMap hexDigits)

end Stencil.Digest
