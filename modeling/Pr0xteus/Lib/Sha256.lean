import Mathlib.Data.List.Basic

/-!
# SHA-256

The digest of FIPS 180-4 over bytes, on 32-bit words.
-/

namespace Sha256

def roundConstants : List UInt32 :=
  [0x428a2f98, 0x71374491, 0xb5c0fbcf, 0xe9b5dba5, 0x3956c25b, 0x59f111f1, 0x923f82a4, 0xab1c5ed5,
   0xd807aa98, 0x12835b01, 0x243185be, 0x550c7dc3, 0x72be5d74, 0x80deb1fe, 0x9bdc06a7, 0xc19bf174,
   0xe49b69c1, 0xefbe4786, 0x0fc19dc6, 0x240ca1cc, 0x2de92c6f, 0x4a7484aa, 0x5cb0a9dc, 0x76f988da,
   0x983e5152, 0xa831c66d, 0xb00327c8, 0xbf597fc7, 0xc6e00bf3, 0xd5a79147, 0x06ca6351, 0x14292967,
   0x27b70a85, 0x2e1b2138, 0x4d2c6dfc, 0x53380d13, 0x650a7354, 0x766a0abb, 0x81c2c92e, 0x92722c85,
   0xa2bfe8a1, 0xa81a664b, 0xc24b8b70, 0xc76c51a3, 0xd192e819, 0xd6990624, 0xf40e3585, 0x106aa070,
   0x19a4c116, 0x1e376c08, 0x2748774c, 0x34b0bcb5, 0x391c0cb3, 0x4ed8aa4a, 0x5b9cca4f, 0x682e6ff3,
   0x748f82ee, 0x78a5636f, 0x84c87814, 0x8cc70208, 0x90befffa, 0xa4506ceb, 0xbef9a3f7, 0xc67178f2]

structure Words where
  a : UInt32
  b : UInt32
  c : UInt32
  d : UInt32
  e : UInt32
  f : UInt32
  g : UInt32
  h : UInt32

def initial : Words :=
  ⟨0x6a09e667, 0xbb67ae85, 0x3c6ef372, 0xa54ff53a, 0x510e527f, 0x9b05688c, 0x1f83d9ab, 0x5be0cd19⟩

def rotr (x n : UInt32) : UInt32 := (x >>> n) ||| (x <<< (32 - n))

def smallSigma0 (x : UInt32) : UInt32 := rotr x 7 ^^^ rotr x 18 ^^^ (x >>> 3)

def smallSigma1 (x : UInt32) : UInt32 := rotr x 17 ^^^ rotr x 19 ^^^ (x >>> 10)

def bigSigma0 (x : UInt32) : UInt32 := rotr x 2 ^^^ rotr x 13 ^^^ rotr x 22

def bigSigma1 (x : UInt32) : UInt32 := rotr x 6 ^^^ rotr x 11 ^^^ rotr x 25

/-- One more word of the message schedule; the list holds the words so far, the newest first. -/
def nextWord (ws : List UInt32) : UInt32 :=
  smallSigma1 (ws.getD 1 0) + ws.getD 6 0 + smallSigma0 (ws.getD 14 0) + ws.getD 15 0

def schedule (block : List UInt32) : List UInt32 :=
  ((List.range 48).foldl (fun ws _ => nextWord ws :: ws) block.reverse).reverse

def round (v : Words) (kw : UInt32 × UInt32) : Words :=
  let t1 := v.h + bigSigma1 v.e + ((v.e &&& v.f) ^^^ (~~~v.e &&& v.g)) + kw.1 + kw.2
  let t2 := bigSigma0 v.a + ((v.a &&& v.b) ^^^ (v.a &&& v.c) ^^^ (v.b &&& v.c))
  ⟨t1 + t2, v.a, v.b, v.c, v.d + t1, v.e, v.f, v.g⟩

def compress (v : Words) (block : List UInt32) : Words :=
  let w := (roundConstants.zip (schedule block)).foldl round v
  ⟨v.a + w.a, v.b + w.b, v.c + w.c, v.d + w.d, v.e + w.e, v.f + w.f, v.g + w.g, v.h + w.h⟩

/-- The message, a one bit, zeros up to 56 bytes mod 64, and the bit length on eight bytes. -/
def pad (message : List UInt8) : List UInt8 :=
  let zeros : List UInt8 := List.replicate ((119 - message.length % 64) % 64) 0
  let length : List UInt8 :=
    (List.range 8).map fun i => UInt8.ofNat ((8 * message.length) >>> (56 - 8 * i))
  message ++ [0x80] ++ zeros ++ length

/-- Big-endian words of a byte string whose length is a multiple of four. -/
def words : List UInt8 → List UInt32
  | a :: b :: c :: d :: rest =>
      ((a.toUInt32 <<< 24) ||| (b.toUInt32 <<< 16) ||| (c.toUInt32 <<< 8) ||| d.toUInt32) ::
        words rest
  | _ => []

/-- Blocks of sixteen words, as many as `fuel` allows. -/
def blocks : Nat → List UInt32 → List (List UInt32)
  | 0, _ => []
  | fuel + 1, ws => ws.take 16 :: blocks fuel (ws.drop 16)

def bytes (w : UInt32) : List UInt8 :=
  [(w >>> 24).toUInt8, (w >>> 16).toUInt8, (w >>> 8).toUInt8, w.toUInt8]

def sum256 (message : List UInt8) : List UInt8 :=
  let ws := words (pad message)
  let v := (blocks (ws.length / 16) ws).foldl compress initial
  [v.a, v.b, v.c, v.d, v.e, v.f, v.g, v.h].flatMap bytes

example : sum256 [97, 98, 99] =
    [186, 120, 22, 191, 143, 1, 207, 234, 65, 65, 64, 222, 93, 174, 34, 35, 176, 3, 97, 163, 150,
     23, 122, 156, 180, 16, 255, 97, 242, 0, 21, 173] := by
  decide +kernel

end Sha256
