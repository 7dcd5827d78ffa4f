import SelectGraph.Text.Parts

/-!
# SHA-256

The digest is a fold over blocks of sixteen words; each block is extended to sixty-four
words, which are mixed into eight state words one after the other.
-/

namespace SelectGraph.Hash

structure Digest where
  a : UInt32
  b : UInt32
  c : UInt32
  d : UInt32
  e : UInt32
  f : UInt32
  g : UInt32
  h : UInt32
  deriving DecidableEq

def Digest.initial : Digest :=
  ⟨0x6a09e667, 0xbb67ae85, 0x3c6ef372, 0xa54ff53a, 0x510e527f, 0x9b05688c, 0x1f83d9ab, 0x5be0cd19⟩

def roundConstants : List UInt32 :=
  [0x428a2f98, 0x71374491, 0xb5c0fbcf, 0xe9b5dba5, 0x3956c25b, 0x59f111f1, 0x923f82a4, 0xab1c5ed5,
   0xd807aa98, 0x12835b01, 0x243185be, 0x550c7dc3, 0x72be5d74, 0x80deb1fe, 0x9bdc06a7, 0xc19bf174,
   0xe49b69c1, 0xefbe4786, 0x0fc19dc6, 0x240ca1cc, 0x2de92c6f, 0x4a7484aa, 0x5cb0a9dc, 0x76f988da,
   0x983e5152, 0xa831c66d, 0xb00327c8, 0xbf597fc7, 0xc6e00bf3, 0xd5a79147, 0x06ca6351, 0x14292967,
   0x27b70a85, 0x2e1b2138, 0x4d2c6dfc, 0x53380d13, 0x650a7354, 0x766a0abb, 0x81c2c92e, 0x92722c85,
   0xa2bfe8a1, 0xa81a664b, 0xc24b8b70, 0xc76c51a3, 0xd192e819, 0xd6990624, 0xf40e3585, 0x106aa070,
   0x19a4c116, 0x1e376c08, 0x2748774c, 0x34b0bcb5, 0x391c0cb3, 0x4ed8aa4a, 0x5b9cca4f, 0x682e6ff3,
   0x748f82ee, 0x78a5636f, 0x84c87814, 0x8cc70208, 0x90befffa, 0xa4506ceb, 0xbef9a3f7, 0xc67178f2]

def rotateRight (word count : UInt32) : UInt32 :=
  (word >>> count) ||| (word <<< (32 - count))

def Digest.round (state : Digest) (constant word : UInt32) : Digest :=
  let sum1 := rotateRight state.e 6 ^^^ rotateRight state.e 11 ^^^ rotateRight state.e 25
  let choice := (state.e &&& state.f) ^^^ ((~~~ state.e) &&& state.g)
  let first := state.h + sum1 + choice + constant + word
  let sum0 := rotateRight state.a 2 ^^^ rotateRight state.a 13 ^^^ rotateRight state.a 22
  let majority := (state.a &&& state.b) ^^^ (state.a &&& state.c) ^^^ (state.b &&& state.c)
  ⟨first + (sum0 + majority), state.a, state.b, state.c, state.d + first, state.e, state.f, state.g⟩

/-- Extend a block by further words; the words so far stand in reverse. -/
def extend : (count : Nat) → List UInt32 → List UInt32
  | 0, words => words.reverse
  | count + 1, words =>
    let w15 := words.getD 14 0
    let w2 := words.getD 1 0
    let s0 := rotateRight w15 7 ^^^ rotateRight w15 18 ^^^ (w15 >>> 3)
    let s1 := rotateRight w2 17 ^^^ rotateRight w2 19 ^^^ (w2 >>> 10)
    extend count ((words.getD 15 0 + s0 + words.getD 6 0 + s1) :: words)

/-- Mix one block of sixteen words into the state. -/
def Digest.absorb (state : Digest) (block : List UInt32) : Digest :=
  let words := extend 48 block.reverse
  let mixed := (roundConstants.zip words).foldl (fun current pair => current.round pair.1 pair.2) state
  ⟨state.a + mixed.a, state.b + mixed.b, state.c + mixed.c, state.d + mixed.d,
    state.e + mixed.e, state.f + mixed.f, state.g + mixed.g, state.h + mixed.h⟩

/-- The words of a sequence of bytes, four bytes to a word, the first one highest. -/
def wordsOf : List UInt8 → List UInt32
  | b0 :: b1 :: b2 :: b3 :: rest =>
    ((b0.toUInt32 <<< 24) ||| (b1.toUInt32 <<< 16) ||| (b2.toUInt32 <<< 8) ||| b3.toUInt32) ::
      wordsOf rest
  | _ => []

def Digest.absorbAll (state : Digest) : (blocks : Nat) → List UInt32 → Digest
  | 0, _ => state
  | blocks + 1, words => (state.absorb (words.take 16)).absorbAll blocks (words.drop 16)

/-- A message padded to whole blocks: a one bit, zeros, and the length in bits. -/
def padded (message : List UInt8) : List UInt8 :=
  let size := message.length
  let zeros := (119 - size % 64) % 64
  let bits := 8 * size
  let lengthBytes := (List.range 8).map fun i => UInt8.ofNat (bits >>> (8 * (7 - i)))
  message ++ 0x80 :: List.replicate zeros 0 ++ lengthBytes

def digest (message : List UInt8) : Digest :=
  let all := padded message
  Digest.initial.absorbAll (all.length / 64) (wordsOf all)

/-- The digest as sixty-four hexadecimal digits. -/
def Digest.hex (state : Digest) : String :=
  String.ofList ([state.a, state.b, state.c, state.d, state.e, state.f, state.g, state.h].flatMap
    fun word => Text.hexDigits 8 word.toNat)

/-- A sequence of bytes with its length before it and a bar after it, so that framed parts can be
taken apart in only one way. -/
def frame (part : List UInt8) : List UInt8 :=
  (Nat.toDigits 10 part.length).map Char.toUInt8 ++ ':'.toUInt8 :: part ++ ['|'.toUInt8]

def framed (parts : List (List UInt8)) : List UInt8 :=
  parts.flatMap frame

def framedDigest (parts : List (List UInt8)) : String :=
  (digest (framed parts)).hex

end SelectGraph.Hash
