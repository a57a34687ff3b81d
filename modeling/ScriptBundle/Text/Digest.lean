/-!
# Checksums

Short numbers that stand for the content of a file: cyclic and added sums, and the digests of the MD5
and SHA families. All of them take the bytes one block after the other.
-/

namespace ScriptBundle.Digest

/-! ### Sums -/

/-- One shift of a remainder by the polynomial of `cksum`. -/
def shiftCyclic (r : UInt32) : UInt32 :=
  if r &&& 0x80000000 = 0 then r <<< 1 else (r <<< 1) ^^^ 0x04c11db7

def cyclicStep (r : UInt32) (b : UInt8) : UInt32 :=
  Nat.repeat shiftCyclic 8 (r ^^^ (b.toUInt32 <<< 24))

/-- The bytes of a number from the lowest, without zeros behind. -/
def lengthBytes : Nat → Nat → List UInt8
  | 0, _ => []
  | fuel + 1, n => if n = 0 then [] else n.toUInt8 :: lengthBytes fuel (n / 256)

/-- The cyclic sum over the bytes and their number. -/
def cyclic (bytes : List UInt8) : UInt32 :=
  ~~~((bytes ++ lengthBytes 16 bytes.length).foldl cyclicStep 0)

/-- The sum in 16 bits that is turned to the right before each byte. -/
def turned (bytes : List UInt8) : Nat :=
  bytes.foldl (fun s b => (s / 2 + s % 2 * 32768 + b.toNat) % 65536) 0

/-- The sum of all bytes, folded twice into 16 bits. -/
def added (bytes : List UInt8) : Nat :=
  let s := (bytes.foldl (fun s b => s + b.toNat) 0) % 4294967296
  let r := s % 65536 + s / 65536
  r % 65536 + r / 65536

/-! ### Blocks and words -/

/-- The bytes with a mark, zeros, and their number of bits at the end, to fill blocks. -/
def padded (block : Nat) (bigEndian : Bool) (bytes : List UInt8) : Array UInt8 :=
  let tail := block / 8
  let bits := bytes.length * 8
  let zeros := (2 * block - (bytes.length + 1 + tail) % block) % block
  let count := (List.range tail).map fun i => (bits / Nat.pow 256 i).toUInt8
  (bytes ++ 0x80 :: List.replicate zeros 0 ++ (if bigEndian then count.reverse else count)).toArray

/-- The number that some bytes write, from the highest. -/
def ofBytes (bytes : List UInt8) : Nat := bytes.foldl (fun n b => n * 256 + b.toNat) 0

/-- The bytes of a number of so many bytes, from the highest. -/
def toBytes (width n : Nat) : List UInt8 :=
  ((List.range width).map fun i => (n / Nat.pow 256 i).toUInt8).reverse

/-- The words of a block. -/
def wordsOf (bytes : Array UInt8) (start width count : Nat) (bigEndian : Bool) : List Nat :=
  (List.range count).map fun i =>
    let word := (bytes.extract (start + i * width) (start + (i + 1) * width)).toList
    ofBytes (if bigEndian then word else word.reverse)

/-- Takes the blocks one after the other into a state. -/
def overBlocks (bytes : Array UInt8) (block : Nat) (step : σ → Nat → σ) (s : σ) : σ :=
  (List.range (bytes.size / block)).foldl (fun s i => step s (i * block)) s

def rotate (x : UInt32) (n : Nat) : UInt32 := (x <<< n.toUInt32) ||| (x >>> (32 - n).toUInt32)

/-! ### MD5 -/

def md5Constants : Array UInt32 :=
  #[0xd76aa478, 0xe8c7b756, 0x242070db, 0xc1bdceee, 0xf57c0faf, 0x4787c62a, 0xa8304613, 0xfd469501,
    0x698098d8, 0x8b44f7af, 0xffff5bb1, 0x895cd7be, 0x6b901122, 0xfd987193, 0xa679438e, 0x49b40821,
    0xf61e2562, 0xc040b340, 0x265e5a51, 0xe9b6c7aa, 0xd62f105d, 0x02441453, 0xd8a1e681, 0xe7d3fbc8,
    0x21e1cde6, 0xc33707d6, 0xf4d50d87, 0x455a14ed, 0xa9e3e905, 0xfcefa3f8, 0x676f02d9, 0x8d2a4c8a,
    0xfffa3942, 0x8771f681, 0x6d9d6122, 0xfde5380c, 0xa4beea44, 0x4bdecfa9, 0xf6bb4b60, 0xbebfbc70,
    0x289b7ec6, 0xeaa127fa, 0xd4ef3085, 0x04881d05, 0xd9d4d039, 0xe6db99e5, 0x1fa27cf8, 0xc4ac5665,
    0xf4292244, 0x432aff97, 0xab9423a7, 0xfc93a039, 0x655b59c3, 0x8f0ccc92, 0xffeff47d, 0x85845dd1,
    0x6fa87e4f, 0xfe2ce6e0, 0xa3014314, 0x4e0811a1, 0xf7537e82, 0xbd3af235, 0x2ad7d2bb, 0xeb86d391]

def md5Turns : Array Nat := #[7, 12, 17, 22, 5, 9, 14, 20, 4, 11, 16, 23, 6, 10, 15, 21]

/-- Four words of state. -/
structure Quad where
  a : UInt32
  b : UInt32
  c : UInt32
  d : UInt32

def Quad.add (s t : Quad) : Quad := ⟨s.a + t.a, s.b + t.b, s.c + t.c, s.d + t.d⟩

def md5Round (words : Array UInt32) (s : Quad) (i : Nat) : Quad :=
  let (f, k) :=
    match i / 16 with
    | 0 => ((s.b &&& s.c) ||| (~~~s.b &&& s.d), i)
    | 1 => ((s.d &&& s.b) ||| (~~~s.d &&& s.c), 5 * i + 1)
    | 2 => (s.b ^^^ s.c ^^^ s.d, 3 * i + 5)
    | _ => (s.c ^^^ (s.b ||| ~~~s.d), 7 * i)
  let sum := s.a + f + md5Constants[i]! + words[k % 16]!
  ⟨s.d, s.b + rotate sum md5Turns[i / 16 * 4 + i % 4]!, s.b, s.c⟩

def md5 (bytes : List UInt8) : List UInt8 :=
  let text := padded 64 false bytes
  let s := overBlocks text 64 (fun (s : Quad) start =>
    let words := ((wordsOf text start 4 16 false).map Nat.toUInt32).toArray
    s.add ((List.range 64).foldl (md5Round words) s)) ⟨0x67452301, 0xefcdab89, 0x98badcfe, 0x10325476⟩
  [s.a, s.b, s.c, s.d].flatMap fun w => (toBytes 4 w.toNat).reverse

/-! ### SHA-1 -/

/-- The words of a block and those that follow from them, each from four before it. -/
def schedule [Inhabited α] (next : α → α → α → α → α) (count : Nat) (words : List α) : Array α :=
  (List.range (count - 16)).foldl (fun (w : Array α) _ =>
    let n := w.size
    w.push (next w[n - 16]! w[n - 15]! w[n - 7]! w[n - 2]!)) words.toArray

def sha1Schedule (words : List UInt32) : Array UInt32 :=
  (List.range 64).foldl (fun (w : Array UInt32) _ =>
    let n := w.size
    w.push (rotate (w[n - 3]! ^^^ w[n - 8]! ^^^ w[n - 14]! ^^^ w[n - 16]!) 1)) words.toArray

def sha1Round (w : Array UInt32) : Quad × UInt32 → Nat → Quad × UInt32
  | (s, e), i =>
    let (f, k) : UInt32 × UInt32 :=
      match i / 20 with
      | 0 => ((s.b &&& s.c) ||| (~~~s.b &&& s.d), 0x5a827999)
      | 1 => (s.b ^^^ s.c ^^^ s.d, 0x6ed9eba1)
      | 2 => ((s.b &&& s.c) ||| (s.b &&& s.d) ||| (s.c &&& s.d), 0x8f1bbcdc)
      | _ => (s.b ^^^ s.c ^^^ s.d, 0xca62c1d6)
    (⟨rotate s.a 5 + f + e + k + w[i]!, s.a, rotate s.b 30, s.c⟩, s.d)

def sha1 (bytes : List UInt8) : List UInt8 :=
  let text := padded 64 true bytes
  let (s, e) := overBlocks text 64 (fun ((s, e) : Quad × UInt32) start =>
    let w := sha1Schedule ((wordsOf text start 4 16 true).map Nat.toUInt32)
    let (t, f) := (List.range 80).foldl (sha1Round w) (s, e)
    (s.add t, e + f)) (⟨0x67452301, 0xefcdab89, 0x98badcfe, 0x10325476⟩, 0xc3d2e1f0)
  [s.a, s.b, s.c, s.d, e].flatMap fun w => toBytes 4 w.toNat

/-! ### SHA-2 -/

/-- One round on eight words, with the sum of a constant and a word of the schedule. -/
def sha2Round [Add α] [XorOp α] [AndOp α] [Complement α] (sum0 sum1 : α → α) (s : List α) (kw : α) :
    List α :=
  match s with
  | [a, b, c, d, e, f, g, h] =>
    let t := h + sum1 e + ((e &&& f) ^^^ (~~~e &&& g)) + kw
    [t + sum0 a + ((a &&& b) ^^^ (a &&& c) ^^^ (b &&& c)), a, b, c, d + t, e, f, g]
  | s => s

def sha256Constants : List UInt32 :=
  [0x428a2f98, 0x71374491, 0xb5c0fbcf, 0xe9b5dba5, 0x3956c25b, 0x59f111f1, 0x923f82a4, 0xab1c5ed5,
    0xd807aa98, 0x12835b01, 0x243185be, 0x550c7dc3, 0x72be5d74, 0x80deb1fe, 0x9bdc06a7, 0xc19bf174,
    0xe49b69c1, 0xefbe4786, 0x0fc19dc6, 0x240ca1cc, 0x2de92c6f, 0x4a7484aa, 0x5cb0a9dc, 0x76f988da,
    0x983e5152, 0xa831c66d, 0xb00327c8, 0xbf597fc7, 0xc6e00bf3, 0xd5a79147, 0x06ca6351, 0x14292967,
    0x27b70a85, 0x2e1b2138, 0x4d2c6dfc, 0x53380d13, 0x650a7354, 0x766a0abb, 0x81c2c92e, 0x92722c85,
    0xa2bfe8a1, 0xa81a664b, 0xc24b8b70, 0xc76c51a3, 0xd192e819, 0xd6990624, 0xf40e3585, 0x106aa070,
    0x19a4c116, 0x1e376c08, 0x2748774c, 0x34b0bcb5, 0x391c0cb3, 0x4ed8aa4a, 0x5b9cca4f, 0x682e6ff3,
    0x748f82ee, 0x78a5636f, 0x84c87814, 0x8cc70208, 0x90befffa, 0xa4506ceb, 0xbef9a3f7, 0xc67178f2]

def turn (x : UInt32) (a b c : Nat) : UInt32 := rotate x (32 - a) ^^^ rotate x (32 - b) ^^^ rotate x (32 - c)

def sha256State (start : List UInt32) (bytes : List UInt8) : List UInt8 :=
  let text := padded 64 true bytes
  let s := overBlocks text 64 (fun (s : List UInt32) start =>
    let w := schedule (fun (w16 w15 w7 w2 : UInt32) =>
      w16 + (rotate w15 25 ^^^ rotate w15 14 ^^^ (w15 >>> 3)) + w7
        + (rotate w2 15 ^^^ rotate w2 13 ^^^ (w2 >>> 10))) 64
      ((wordsOf text start 4 16 true).map Nat.toUInt32)
    let t := (List.zipWith (· + ·) sha256Constants w.toList).foldl
      (sha2Round (fun x => turn x 2 13 22) (fun x => turn x 6 11 25)) s
    List.zipWith (· + ·) s t) start
  s.flatMap fun w => toBytes 4 w.toNat

def sha256 : List UInt8 → List UInt8 :=
  sha256State [0x6a09e667, 0xbb67ae85, 0x3c6ef372, 0xa54ff53a, 0x510e527f, 0x9b05688c, 0x1f83d9ab, 0x5be0cd19]

def sha224 (bytes : List UInt8) : List UInt8 :=
  (sha256State [0xc1059ed8, 0x367cd507, 0x3070dd17, 0xf70e5939, 0xffc00b31, 0x68581511, 0x64f98fa7,
    0xbefa4fa4] bytes).take 28

def sha512Constants : List UInt64 :=
  [0x428a2f98d728ae22, 0x7137449123ef65cd, 0xb5c0fbcfec4d3b2f, 0xe9b5dba58189dbbc,
    0x3956c25bf348b538, 0x59f111f1b605d019, 0x923f82a4af194f9b, 0xab1c5ed5da6d8118,
    0xd807aa98a3030242, 0x12835b0145706fbe, 0x243185be4ee4b28c, 0x550c7dc3d5ffb4e2,
    0x72be5d74f27b896f, 0x80deb1fe3b1696b1, 0x9bdc06a725c71235, 0xc19bf174cf692694,
    0xe49b69c19ef14ad2, 0xefbe4786384f25e3, 0x0fc19dc68b8cd5b5, 0x240ca1cc77ac9c65,
    0x2de92c6f592b0275, 0x4a7484aa6ea6e483, 0x5cb0a9dcbd41fbd4, 0x76f988da831153b5,
    0x983e5152ee66dfab, 0xa831c66d2db43210, 0xb00327c898fb213f, 0xbf597fc7beef0ee4,
    0xc6e00bf33da88fc2, 0xd5a79147930aa725, 0x06ca6351e003826f, 0x142929670a0e6e70,
    0x27b70a8546d22ffc, 0x2e1b21385c26c926, 0x4d2c6dfc5ac42aed, 0x53380d139d95b3df,
    0x650a73548baf63de, 0x766a0abb3c77b2a8, 0x81c2c92e47edaee6, 0x92722c851482353b,
    0xa2bfe8a14cf10364, 0xa81a664bbc423001, 0xc24b8b70d0f89791, 0xc76c51a30654be30,
    0xd192e819d6ef5218, 0xd69906245565a910, 0xf40e35855771202a, 0x106aa07032bbd1b8,
    0x19a4c116b8d2d0c8, 0x1e376c085141ab53, 0x2748774cdf8eeb99, 0x34b0bcb5e19b48a8,
    0x391c0cb3c5c95a63, 0x4ed8aa4ae3418acb, 0x5b9cca4f7763e373, 0x682e6ff3d6b2b8a3,
    0x748f82ee5defb2fc, 0x78a5636f43172f60, 0x84c87814a1f0ab72, 0x8cc702081a6439ec,
    0x90befffa23631e28, 0xa4506cebde82bde9, 0xbef9a3f7b2c67915, 0xc67178f2e372532b,
    0xca273eceea26619c, 0xd186b8c721c0c207, 0xeada7dd6cde0eb1e, 0xf57d4f7fee6ed178,
    0x06f067aa72176fba, 0x0a637dc5a2c898a6, 0x113f9804bef90dae, 0x1b710b35131c471b,
    0x28db77f523047d84, 0x32caab7b40c72493, 0x3c9ebe0a15c9bebc, 0x431d67c49c100d4c,
    0x4cc5d4becb3e42b6, 0x597f299cfc657e2a, 0x5fcb6fab3ad6faec, 0x6c44198c4a475817]

def rotateLong (x : UInt64) (n : Nat) : UInt64 := (x <<< n.toUInt64) ||| (x >>> (64 - n).toUInt64)

def turnLong (x : UInt64) (a b c : Nat) : UInt64 :=
  rotateLong x (64 - a) ^^^ rotateLong x (64 - b) ^^^ rotateLong x (64 - c)

def sha512State (start : List UInt64) (bytes : List UInt8) : List UInt8 :=
  let text := padded 128 true bytes
  let s := overBlocks text 128 (fun (s : List UInt64) start =>
    let w := schedule (fun (w16 w15 w7 w2 : UInt64) =>
      w16 + (rotateLong w15 63 ^^^ rotateLong w15 56 ^^^ (w15 >>> 7)) + w7
        + (rotateLong w2 45 ^^^ rotateLong w2 3 ^^^ (w2 >>> 6))) 80
      ((wordsOf text start 8 16 true).map Nat.toUInt64)
    let t := (List.zipWith (· + ·) sha512Constants w.toList).foldl
      (sha2Round (fun x => turnLong x 28 34 39) (fun x => turnLong x 14 18 41)) s
    List.zipWith (· + ·) s t) start
  s.flatMap fun w => toBytes 8 w.toNat

def sha512 : List UInt8 → List UInt8 :=
  sha512State [0x6a09e667f3bcc908, 0xbb67ae8584caa73b, 0x3c6ef372fe94f82b, 0xa54ff53a5f1d36f1,
    0x510e527fade682d1, 0x9b05688c2b3e6c1f, 0x1f83d9abfb41bd6b, 0x5be0cd19137e2179]

def sha384 (bytes : List UInt8) : List UInt8 :=
  (sha512State [0xcbbb9d5dc1059ed8, 0x629a292a367cd507, 0x9159015a3070dd17, 0x152fecd8f70e5939,
    0x67332667ffc00b31, 0x8eb44a8768581511, 0xdb0c2e0d64f98fa7, 0x47b5481dbefa4fa4] bytes).take 48

/-- Bytes as digits. -/
def hex (bytes : List UInt8) : String :=
  String.ofList (bytes.flatMap fun b => [Nat.digitChar (b.toNat / 16), Nat.digitChar (b.toNat % 16)])

end ScriptBundle.Digest
