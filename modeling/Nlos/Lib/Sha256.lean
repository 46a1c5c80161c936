import Nlos.Lib.ByteReader

/-!
# SHA-256

The hash function of FIPS 180-4 on byte strings. Proofs never look inside it: the
development only uses that equal inputs have equal digests.
-/

namespace Nlos.Lib.Sha256

def roundConstants : List UInt32 :=
  [0x428a2f98, 0x71374491, 0xb5c0fbcf, 0xe9b5dba5, 0x3956c25b, 0x59f111f1, 0x923f82a4, 0xab1c5ed5,
   0xd807aa98, 0x12835b01, 0x243185be, 0x550c7dc3, 0x72be5d74, 0x80deb1fe, 0x9bdc06a7, 0xc19bf174,
   0xe49b69c1, 0xefbe4786, 0x0fc19dc6, 0x240ca1cc, 0x2de92c6f, 0x4a7484aa, 0x5cb0a9dc, 0x76f988da,
   0x983e5152, 0xa831c66d, 0xb00327c8, 0xbf597fc7, 0xc6e00bf3, 0xd5a79147, 0x06ca6351, 0x14292967,
   0x27b70a85, 0x2e1b2138, 0x4d2c6dfc, 0x53380d13, 0x650a7354, 0x766a0abb, 0x81c2c92e, 0x92722c85,
   0xa2bfe8a1, 0xa81a664b, 0xc24b8b70, 0xc76c51a3, 0xd192e819, 0xd6990624, 0xf40e3585, 0x106aa070,
   0x19a4c116, 0x1e376c08, 0x2748774c, 0x34b0bcb5, 0x391c0cb3, 0x4ed8aa4a, 0x5b9cca4f, 0x682e6ff3,
   0x748f82ee, 0x78a5636f, 0x84c87814, 0x8cc70208, 0x90befffa, 0xa4506ceb, 0xbef9a3f7, 0xc67178f2]

structure Working where
  (a b c d e f g h : UInt32)

def initial : Working :=
  ⟨0x6a09e667, 0xbb67ae85, 0x3c6ef372, 0xa54ff53a, 0x510e527f, 0x9b05688c, 0x1f83d9ab, 0x5be0cd19⟩

/-- Right rotation of a 32-bit word. -/
def rotr (x : UInt32) (n : UInt32) : UInt32 := (x >>> n) ||| (x <<< (32 - n))

def extendSchedule : ℕ → List UInt32 → List UInt32
  | 0, ws => ws
  | n + 1, ws =>
    let w₂ := ws.getD 1 0
    let w₁₅ := ws.getD 14 0
    let s₁ := rotr w₂ 17 ^^^ rotr w₂ 19 ^^^ (w₂ >>> 10)
    let s₀ := rotr w₁₅ 7 ^^^ rotr w₁₅ 18 ^^^ (w₁₅ >>> 3)
    extendSchedule n ((s₁ + ws.getD 6 0 + s₀ + ws.getD 15 0) :: ws)

def round (v : Working) (kw : UInt32 × UInt32) : Working :=
  let s₁ := rotr v.e 6 ^^^ rotr v.e 11 ^^^ rotr v.e 25
  let ch := (v.e &&& v.f) ^^^ (~~~v.e &&& v.g)
  let t₁ := v.h + s₁ + ch + kw.1 + kw.2
  let s₀ := rotr v.a 2 ^^^ rotr v.a 13 ^^^ rotr v.a 22
  let maj := (v.a &&& v.b) ^^^ (v.a &&& v.c) ^^^ (v.b &&& v.c)
  ⟨t₁ + (s₀ + maj), v.a, v.b, v.c, v.d + t₁, v.e, v.f, v.g⟩

def wordsOf : ℕ → List UInt8 → List UInt32
  | 0, _ => []
  | n + 1, bytes => UInt32.ofNat (ofBeBytes (bytes.take 4)) :: wordsOf n (bytes.drop 4)

/-- Compresses one 64-byte block into the running hash value. -/
def compress (v : Working) (block : List UInt8) : Working :=
  let schedule := (extendSchedule 48 (wordsOf 16 block).reverse).reverse
  let w := (roundConstants.zip schedule).foldl round v
  ⟨v.a + w.a, v.b + w.b, v.c + w.c, v.d + w.d, v.e + w.e, v.f + w.f, v.g + w.g, v.h + w.h⟩

def compressBlocks : ℕ → List UInt8 → Working → Working
  | 0, _, v => v
  | n + 1, bytes, v => compressBlocks n (bytes.drop 64) (compress v (bytes.take 64))

/-- The message followed by the bit `1`, zeros and the 64-bit message length. -/
def pad (message : List UInt8) : List UInt8 :=
  message ++ 0x80 :: List.replicate ((119 - message.length % 64) % 64) 0 ++
    beBytes 8 (8 * message.length)

def digest (message : List UInt8) : Word 32 :=
  let padded := pad message
  let v := compressBlocks (padded.length / 64) padded initial
  Word.ofBytes 32
    ([v.a, v.b, v.c, v.d, v.e, v.f, v.g, v.h].flatMap (fun w => beBytes 4 w.toNat))

/-- The digest of a domain tag followed by the parts of a message. -/
def tagged (tag : String) (parts : List (List UInt8)) : Word 32 :=
  digest (tag.toUTF8.toList ++ parts.flatten)

def taggedId (tag : String) (parts : List (List UInt8)) : Word 16 :=
  Word.ofBytes 16 ((tagged tag parts).bytes.take 16)

example : digest [] =
    0xe3b0c44298fc1c149afbf4c8996fb92427ae41e4649b934ca495991b7852b855 := by
  decide +kernel

end Nlos.Lib.Sha256
