import Mathlib.Tactic

/-! SHA-256 of a byte string, in hexadecimal. Bytes and 32-bit words are natural
numbers. -/

namespace Sha256

/-- The fractional parts of the cube roots of the first 64 primes. -/
def constants : List ℕ :=
  [0x428a2f98, 0x71374491, 0xb5c0fbcf, 0xe9b5dba5, 0x3956c25b, 0x59f111f1, 0x923f82a4, 0xab1c5ed5,
   0xd807aa98, 0x12835b01, 0x243185be, 0x550c7dc3, 0x72be5d74, 0x80deb1fe, 0x9bdc06a7, 0xc19bf174,
   0xe49b69c1, 0xefbe4786, 0x0fc19dc6, 0x240ca1cc, 0x2de92c6f, 0x4a7484aa, 0x5cb0a9dc, 0x76f988da,
   0x983e5152, 0xa831c66d, 0xb00327c8, 0xbf597fc7, 0xc6e00bf3, 0xd5a79147, 0x06ca6351, 0x14292967,
   0x27b70a85, 0x2e1b2138, 0x4d2c6dfc, 0x53380d13, 0x650a7354, 0x766a0abb, 0x81c2c92e, 0x92722c85,
   0xa2bfe8a1, 0xa81a664b, 0xc24b8b70, 0xc76c51a3, 0xd192e819, 0xd6990624, 0xf40e3585, 0x106aa070,
   0x19a4c116, 0x1e376c08, 0x2748774c, 0x34b0bcb5, 0x391c0cb3, 0x4ed8aa4a, 0x5b9cca4f, 0x682e6ff3,
   0x748f82ee, 0x78a5636f, 0x84c87814, 0x8cc70208, 0x90befffa, 0xa4506ceb, 0xbef9a3f7, 0xc67178f2]

/-- The eight working words. -/
structure Words where
  a : ℕ
  b : ℕ
  c : ℕ
  d : ℕ
  e : ℕ
  f : ℕ
  g : ℕ
  h : ℕ

def initial : Words :=
  ⟨0x6a09e667, 0xbb67ae85, 0x3c6ef372, 0xa54ff53a, 0x510e527f, 0x9b05688c, 0x1f83d9ab, 0x5be0cd19⟩

def add (x y : ℕ) : ℕ := (x + y) % 2 ^ 32

def rotr (n x : ℕ) : ℕ := (x >>> n ||| x <<< (32 - n)) % 2 ^ 32

/-- The next word of the schedule, from the words so far, newest first. -/
def nextWord (w : List ℕ) : ℕ :=
  let x := w.getD 1 0
  let y := w.getD 14 0
  let s1 := rotr 17 x ^^^ rotr 19 x ^^^ (x >>> 10)
  let s0 := rotr 7 y ^^^ rotr 18 y ^^^ (y >>> 3)
  add (s1 + w.getD 6 0) (s0 + w.getD 15 0)

def extend : ℕ → List ℕ → List ℕ
  | 0, w => w
  | n + 1, w => extend n (nextWord w :: w)

/-- One round, with its constant and its word of the schedule. -/
def round (s : Words) (kw : ℕ × ℕ) : Words :=
  let s1 := rotr 6 s.e ^^^ rotr 11 s.e ^^^ rotr 25 s.e
  let choice := (s.e &&& s.f) ^^^ ((2 ^ 32 - 1 - s.e) &&& s.g)
  let t1 := s.h + s1 + choice + kw.1 + kw.2
  let s0 := rotr 2 s.a ^^^ rotr 13 s.a ^^^ rotr 22 s.a
  let majority := (s.a &&& s.b) ^^^ (s.a &&& s.c) ^^^ (s.b &&& s.c)
  ⟨add t1 (s0 + majority), s.a, s.b, s.c, add s.d t1, s.e, s.f, s.g⟩

/-- The words after one block of 16 words. -/
def compress (s : Words) (block : List ℕ) : Words :=
  let t := (constants.zip (extend 48 block.reverse).reverse).foldl round s
  ⟨add s.a t.a, add s.b t.b, add s.c t.c, add s.d t.d, add s.e t.e, add s.f t.f, add s.g t.g, add s.h t.h⟩

def bigEndian (n value : ℕ) : List ℕ := ((List.range n).map fun i => value / 256 ^ i % 256).reverse

/-- The message, a one bit, zeros up to the last eight bytes of a block, and the length in bits. -/
def pad (bytes : List ℕ) : List ℕ :=
  bytes ++ 128 :: List.replicate ((119 - bytes.length % 64) % 64) 0 ++ bigEndian 8 (8 * bytes.length)

def words : List ℕ → List ℕ
  | a :: b :: c :: d :: rest => (((a * 256 + b) * 256 + c) * 256 + d) :: words rest
  | _ => []

def blocks : ℕ → List ℕ → List (List ℕ)
  | 0, _ => []
  | n + 1, l => l.take 16 :: blocks n (l.drop 16)

def digest (bytes : List ℕ) : Words :=
  let w := words (pad bytes)
  (blocks (w.length / 16) w).foldl compress initial

def hexDigit (n : ℕ) : Char := Char.ofNat (if n % 16 < 10 then 48 + n % 16 else 87 + n % 16)

def hexWord (x : ℕ) : List Char := ((List.range 8).map fun i => hexDigit (x / 16 ^ i)).reverse

def hex (s : Words) : List Char :=
  hexWord s.a ++ hexWord s.b ++ hexWord s.c ++ hexWord s.d ++ hexWord s.e ++ hexWord s.f ++ hexWord s.g ++ hexWord s.h

end Sha256

/-- The SHA-256 of a text's UTF-8 bytes. -/
def sha256Hex (x : String) : String := String.ofList (Sha256.hex (Sha256.digest (x.toUTF8.toList.map UInt8.toNat)))

example : sha256Hex "abc" = "ba7816bf8f01cfea414140de5dae2223b00361a396177a9cb410ff61f20015ad" := by decide +kernel
