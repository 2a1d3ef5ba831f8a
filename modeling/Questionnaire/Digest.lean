/-!
Digests of texts: SHA-256.

The UTF-8 bytes of a text are padded to blocks of 64 bytes, which are absorbed one after the other in 64
rounds each.
-/

namespace Questionnaire

structure Digest where
  a : UInt32
  b : UInt32
  c : UInt32
  d : UInt32
  e : UInt32
  f : UInt32
  g : UInt32
  h : UInt32
deriving DecidableEq, Repr, Inhabited

namespace Digest

/-- The fractional parts of the square roots of the first eight primes. -/
def start : Digest :=
  ⟨0x6a09e667, 0xbb67ae85, 0x3c6ef372, 0xa54ff53a, 0x510e527f, 0x9b05688c, 0x1f83d9ab, 0x5be0cd19⟩

/-- The fractional parts of the cube roots of the first 64 primes, one for each round. -/
def roundConstants : List UInt32 := [
  0x428a2f98, 0x71374491, 0xb5c0fbcf, 0xe9b5dba5, 0x3956c25b, 0x59f111f1, 0x923f82a4, 0xab1c5ed5,
  0xd807aa98, 0x12835b01, 0x243185be, 0x550c7dc3, 0x72be5d74, 0x80deb1fe, 0x9bdc06a7, 0xc19bf174,
  0xe49b69c1, 0xefbe4786, 0x0fc19dc6, 0x240ca1cc, 0x2de92c6f, 0x4a7484aa, 0x5cb0a9dc, 0x76f988da,
  0x983e5152, 0xa831c66d, 0xb00327c8, 0xbf597fc7, 0xc6e00bf3, 0xd5a79147, 0x06ca6351, 0x14292967,
  0x27b70a85, 0x2e1b2138, 0x4d2c6dfc, 0x53380d13, 0x650a7354, 0x766a0abb, 0x81c2c92e, 0x92722c85,
  0xa2bfe8a1, 0xa81a664b, 0xc24b8b70, 0xc76c51a3, 0xd192e819, 0xd6990624, 0xf40e3585, 0x106aa070,
  0x19a4c116, 0x1e376c08, 0x2748774c, 0x34b0bcb5, 0x391c0cb3, 0x4ed8aa4a, 0x5b9cca4f, 0x682e6ff3,
  0x748f82ee, 0x78a5636f, 0x84c87814, 0x8cc70208, 0x90befffa, 0xa4506ceb, 0xbef9a3f7, 0xc67178f2]

/-! ### Rounds -/

def rotate (w n : UInt32) : UInt32 := (w >>> n) ||| (w <<< (32 - n))

def round (s : Digest) (constant word : UInt32) : Digest :=
  let mixed := rotate s.e 6 ^^^ rotate s.e 11 ^^^ rotate s.e 25
  let chosen := (s.e &&& s.f) ^^^ (~~~s.e &&& s.g)
  let first := s.h + mixed + chosen + constant + word
  let turned := rotate s.a 2 ^^^ rotate s.a 13 ^^^ rotate s.a 22
  let majority := (s.a &&& s.b) ^^^ (s.a &&& s.c) ^^^ (s.b &&& s.c)
  ⟨first + turned + majority, s.a, s.b, s.c, s.d + first, s.e, s.f, s.g⟩

/-- The sixteen words that come one round later. -/
def slide (words : List UInt32) : List UInt32 :=
  let near := words.getD 1 0
  let far := words.getD 14 0
  words.tail ++ [words.headD 0 + (rotate near 7 ^^^ rotate near 18 ^^^ (near >>> 3)) + words.getD 9 0 +
    (rotate far 17 ^^^ rotate far 19 ^^^ (far >>> 10))]

def rounds : (constants words : List UInt32) → Digest → Digest
  | [], _, s => s
  | constant :: constants, words, s =>
    rounds constants (slide words) (s.round constant (words.headD 0))

/-- The digest after one more block of sixteen words. -/
def absorb (s : Digest) (block : List UInt32) : Digest :=
  let t := rounds roundConstants block s
  ⟨s.a + t.a, s.b + t.b, s.c + t.c, s.d + t.d, s.e + t.e, s.f + t.f, s.g + t.g, s.h + t.h⟩

/-! ### Blocks -/

/-- The bytes with a closing bit, zeros up to the last eight bytes of a block, and the number of bits. -/
def padded (bytes : List UInt8) : List UInt8 :=
  let bits := 8 * bytes.length
  bytes ++ 0x80 :: List.replicate ((119 - bytes.length % 64) % 64) 0 ++
    (List.range 8).map fun i => UInt8.ofNat (bits.shiftRight (8 * (7 - i)))

def words : List UInt8 → List UInt32
  | a :: b :: c :: d :: rest =>
    ((a.toUInt32 <<< 24) ||| (b.toUInt32 <<< 16) ||| (c.toUInt32 <<< 8) ||| d.toUInt32) :: words rest
  | _ => []

def absorbAll : (blocks : Nat) → List UInt32 → Digest → Digest
  | 0, _, s => s
  | blocks + 1, words, s => absorbAll blocks (words.drop 16) (s.absorb (words.take 16))

def ofText (s : String) : Digest :=
  let words := words (padded s.toUTF8.toList)
  absorbAll (words.length / 16) words start

example : ofText "abc" = ⟨0xba7816bf, 0x8f01cfea, 0x414140de, 0x5dae2223, 0xb00361a3, 0x96177a9c,
    0xb410ff61, 0xf20015ad⟩ := by decide +kernel

end Digest

end Questionnaire
