import Missive.Bytes
import Missive.Text.Utf8
/-!
# Fingerprints

Two endpoints compare the MD5 digest of a definition's bytes, in lower-case hexadecimal digits.

* `pad` -- the message with its bit length, in whole blocks of sixteen words;
* `compress` -- one block mixed into the four chaining words;
* `digest`, `fingerprint`, `fingerprintText` -- the sixteen bytes, and their text.
-/

namespace Missive

namespace Fingerprint

/-- The four chaining words. -/
structure Chain where
  a : UInt32
  b : UInt32
  c : UInt32
  d : UInt32
  deriving DecidableEq, Repr

/-- The chaining words at the start. -/
def start : Chain := ⟨0x67452301, 0xefcdab89, 0x98badcfe, 0x10325476⟩

/-- The additive constant of each step. -/
def constants : List UInt32 :=
  [0xd76aa478, 0xe8c7b756, 0x242070db, 0xc1bdceee, 0xf57c0faf, 0x4787c62a, 0xa8304613, 0xfd469501,
   0x698098d8, 0x8b44f7af, 0xffff5bb1, 0x895cd7be, 0x6b901122, 0xfd987193, 0xa679438e, 0x49b40821,
   0xf61e2562, 0xc040b340, 0x265e5a51, 0xe9b6c7aa, 0xd62f105d, 0x02441453, 0xd8a1e681, 0xe7d3fbc8,
   0x21e1cde6, 0xc33707d6, 0xf4d50d87, 0x455a14ed, 0xa9e3e905, 0xfcefa3f8, 0x676f02d9, 0x8d2a4c8a,
   0xfffa3942, 0x8771f681, 0x6d9d6122, 0xfde5380c, 0xa4beea44, 0x4bdecfa9, 0xf6bb4b60, 0xbebfbc70,
   0x289b7ec6, 0xeaa127fa, 0xd4ef3085, 0x04881d05, 0xd9d4d039, 0xe6db99e5, 0x1fa27cf8, 0xc4ac5665,
   0xf4292244, 0x432aff97, 0xab9423a7, 0xfc93a039, 0x655b59c3, 0x8f0ccc92, 0xffeff47d, 0x85845dd1,
   0x6fa87e4f, 0xfe2ce6e0, 0xa3014314, 0x4e0811a1, 0xf7537e82, 0xbd3af235, 0x2ad7d2bb, 0xeb86d391]

/-- The four rotations of a round, used in turn. -/
def rotations (round : Nat) : List UInt32 :=
  match round with
  | 0 => [7, 12, 17, 22]
  | 1 => [5, 9, 14, 20]
  | 2 => [4, 11, 16, 23]
  | _ => [6, 10, 15, 21]

/-- The mixing function of a round. -/
def mix (round : Nat) (b c d : UInt32) : UInt32 :=
  match round with
  | 0 => (b &&& c) ||| (~~~b &&& d)
  | 1 => (d &&& b) ||| (~~~d &&& c)
  | 2 => b ^^^ c ^^^ d
  | _ => c ^^^ (b ||| ~~~d)

/-- The word of the block that a step of a round takes. -/
def wordIndex (step : Nat) : Nat :=
  match step / 16 with
  | 0 => step % 16
  | 1 => (5 * step + 1) % 16
  | 2 => (3 * step + 5) % 16
  | _ => (7 * step) % 16

/-- A word turned left. -/
def rotate (x n : UInt32) : UInt32 :=
  (x <<< n) ||| (x >>> (32 - n))

/-- One step: the chaining words move one place on. -/
def advance (block : Array UInt32) (chain : Chain) (step : Nat) (constant : UInt32) : Chain :=
  let round := step / 16
  let sum := chain.a + mix round chain.b chain.c chain.d + constant
    + block.getD (wordIndex step) 0
  let turned := rotate sum ((rotations round).getD (step % 4) 0)
  ⟨chain.d, chain.b + turned, chain.b, chain.c⟩

/-- Mixes one block into the chaining words. -/
def compress (chain : Chain) (block : Array UInt32) : Chain :=
  let last := constants.zipIdx.foldl (fun acc (k, step) => advance block acc step k) chain
  ⟨chain.a + last.a, chain.b + last.b, chain.c + last.c, chain.d + last.d⟩

/-- The message, a set bit, zeros up to eight bytes before a block's end, and the bit length. -/
def pad (bytes : List UInt8) : List UInt8 :=
  let zeros := (119 - bytes.length % 64) % 64
  bytes ++ 0x80 :: (List.replicate zeros 0 ++ Bytes.ofNat 8 (8 * bytes.length))

/-- Four bytes as a word, the lowest first. -/
def words : List UInt8 → List UInt32
  | b0 :: b1 :: b2 :: b3 :: rest =>
    (b0.toUInt32 ||| (b1.toUInt32 <<< 8) ||| (b2.toUInt32 <<< 16) ||| (b3.toUInt32 <<< 24))
      :: words rest
  | _ => []

/-- Folds a list of words into the chain, sixteen at a time; `count` bounds the blocks. -/
def absorb (chain : Chain) (ws : List UInt32) : Nat → Chain
  | 0 => chain
  | count + 1 =>
    if ws.isEmpty then chain
    else absorb (compress chain (ws.take 16).toArray) (ws.drop 16) count

/-- The digest of a byte string. -/
def digest (bytes : List UInt8) : List UInt8 :=
  let ws := words (pad bytes)
  let chain := absorb start ws ws.length
  [chain.a, chain.b, chain.c, chain.d].flatMap fun w => Bytes.ofNat 4 w.toNat

/-- Two hexadecimal digits of a byte. -/
def hexByte (b : UInt8) : List Char :=
  [Nat.digitChar (b.toNat / 16), Nat.digitChar (b.toNat % 16)]

end Fingerprint

/-- The fingerprint of definition bytes. -/
def fingerprint (bytes : List UInt8) : String :=
  String.ofList ((Fingerprint.digest bytes).flatMap Fingerprint.hexByte)

/-- The fingerprint of a definition text. -/
def fingerprintText (text : String) : String :=
  fingerprint (Text.Utf8.encode text)

end Missive
