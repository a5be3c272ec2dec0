import RelyingParty.Text.Encoding

set_option autoImplicit false

/-! # SHA-2 digests

The digests that signatures use: SHA-256 on words of 32 bits, SHA-384 and SHA-512 on words of 64
bits. A message is padded to whole blocks, the words of each block are extended to a schedule, and
the schedule is folded into a state of eight words. -/

namespace RelyingParty.Digest

/-! ## Words and blocks -/

/-- The big-endian number some bytes stand for. -/
def beNat (bytes : Bytes) : Nat := bytes.foldl (fun n b => 256 * n + b.toNat) 0

/-- The last `count` bytes of a number, most significant first. -/
def beBytes : Nat → Nat → Bytes
  | 0, _ => []
  | count + 1, n => beBytes count (n / 256) ++ [UInt8.ofNat (n % 256)]

@[simp] theorem length_beBytes (count n : Nat) : (beBytes count n).length = count := by
  induction count generalizing n with
  | zero => rfl
  | succ c ih => simp [beBytes, ih]

/-- A list in pieces of a size; `fuel` bounds their number. -/
def pieces {α : Type} (size : Nat) : Nat → List α → List (List α)
  | 0, _ => []
  | fuel + 1, xs => if xs.isEmpty then [] else xs.take size :: pieces size fuel (xs.drop size)

/-- The message, a single one bit, zeros, and the length in bits, in whole blocks. -/
def padded (blockSize lengthSize : Nat) (message : Bytes) : Bytes :=
  let used := message.length + 1 + lengthSize
  let zeros := (blockSize - used % blockSize) % blockSize
  message ++ 0x80 :: List.replicate zeros 0 ++ beBytes lengthSize (8 * message.length)

/-- The blocks of a padded message. -/
def blocks (blockSize lengthSize : Nat) (message : Bytes) : List Bytes :=
  let bytes := padded blockSize lengthSize message
  pieces blockSize bytes.length bytes

/-! ## Words of 32 bits -/

/-- The round constants: the fractional parts of the cube roots of the first 64 primes. -/
def constants32 : List UInt32 :=
  [0x428a2f98, 0x71374491, 0xb5c0fbcf, 0xe9b5dba5, 0x3956c25b, 0x59f111f1, 0x923f82a4,
   0xab1c5ed5, 0xd807aa98, 0x12835b01, 0x243185be, 0x550c7dc3, 0x72be5d74, 0x80deb1fe,
   0x9bdc06a7, 0xc19bf174, 0xe49b69c1, 0xefbe4786, 0x0fc19dc6, 0x240ca1cc, 0x2de92c6f,
   0x4a7484aa, 0x5cb0a9dc, 0x76f988da, 0x983e5152, 0xa831c66d, 0xb00327c8, 0xbf597fc7,
   0xc6e00bf3, 0xd5a79147, 0x06ca6351, 0x14292967, 0x27b70a85, 0x2e1b2138, 0x4d2c6dfc,
   0x53380d13, 0x650a7354, 0x766a0abb, 0x81c2c92e, 0x92722c85, 0xa2bfe8a1, 0xa81a664b,
   0xc24b8b70, 0xc76c51a3, 0xd192e819, 0xd6990624, 0xf40e3585, 0x106aa070, 0x19a4c116,
   0x1e376c08, 0x2748774c, 0x34b0bcb5, 0x391c0cb3, 0x4ed8aa4a, 0x5b9cca4f, 0x682e6ff3,
   0x748f82ee, 0x78a5636f, 0x84c87814, 0x8cc70208, 0x90befffa, 0xa4506ceb, 0xbef9a3f7, 0xc67178f2]

/-- The initial state of SHA-256: the fractional parts of the square roots of the first primes. -/
def initial256 : Array UInt32 :=
  #[0x6a09e667, 0xbb67ae85, 0x3c6ef372, 0xa54ff53a, 0x510e527f, 0x9b05688c, 0x1f83d9ab, 0x5be0cd19]

/-- Rotate a word to the right. -/
def rotate32 (w : UInt32) (n : UInt32) : UInt32 := (w >>> n) ||| (w <<< (32 - n))

/-- The words of a block and the words they determine, 64 in all. -/
def schedule32 (block : Bytes) : Array UInt32 :=
  let start := ((pieces 4 16 block).map fun w => UInt32.ofNat (beNat w)).toArray
  (List.range 48).foldl (fun w i =>
    let t := i + 16
    let a := w.getD (t - 15) 0
    let b := w.getD (t - 2) 0
    let s0 := rotate32 a 7 ^^^ rotate32 a 18 ^^^ (a >>> 3)
    let s1 := rotate32 b 17 ^^^ rotate32 b 19 ^^^ (b >>> 10)
    w.push (w.getD (t - 16) 0 + s0 + w.getD (t - 7) 0 + s1)) start

/-- One round on the working state. -/
def round32 (s : Array UInt32) (k w : UInt32) : Array UInt32 :=
  let a := s.getD 0 0
  let b := s.getD 1 0
  let c := s.getD 2 0
  let e := s.getD 4 0
  let f := s.getD 5 0
  let g := s.getD 6 0
  let sum1 := rotate32 e 6 ^^^ rotate32 e 11 ^^^ rotate32 e 25
  let choice := (e &&& f) ^^^ ((~~~ e) &&& g)
  let t1 := s.getD 7 0 + sum1 + choice + k + w
  let sum0 := rotate32 a 2 ^^^ rotate32 a 13 ^^^ rotate32 a 22
  let majority := (a &&& b) ^^^ (a &&& c) ^^^ (b &&& c)
  #[t1 + sum0 + majority, a, b, c, s.getD 3 0 + t1, e, f, g]

/-- Fold one block into the state. -/
def compress32 (state : Array UInt32) (block : Bytes) : Array UInt32 :=
  let worked := (constants32.zip (schedule32 block).toList).foldl
    (fun s kw => round32 s kw.1 kw.2) state
  Array.zipWith (· + ·) state worked

/-- The SHA-256 digest of a message. -/
def sha256 (message : Bytes) : Bytes :=
  ((blocks 64 8 message).foldl compress32 initial256).toList.flatMap fun w => beBytes 4 w.toNat

/-! ## Words of 64 bits -/

/-- The round constants: the fractional parts of the cube roots of the first 80 primes. -/
def constants64 : List UInt64 :=
  [0x428a2f98d728ae22, 0x7137449123ef65cd, 0xb5c0fbcfec4d3b2f, 0xe9b5dba58189dbbc,
   0x3956c25bf348b538, 0x59f111f1b605d019, 0x923f82a4af194f9b, 0xab1c5ed5da6d8118,
   0xd807aa98a3030242, 0x12835b0145706fbe, 0x243185be4ee4b28c, 0x550c7dc3d5ffb4e2,
   0x72be5d74f27b896f, 0x80deb1fe3b1696b1, 0x9bdc06a725c71235, 0xc19bf174cf692694,
   0xe49b69c19ef14ad2, 0xefbe4786384f25e3, 0x0fc19dc68b8cd5b5, 0x240ca1cc77ac9c65,
   0x2de92c6f592b0275, 0x4a7484aa6ea6e483, 0x5cb0a9dcbd41fbd4, 0x76f988da831153b5,
   0x983e5152ee66dfab, 0xa831c66d2db43210, 0xb00327c898fb213f, 0xbf597fc7beef0ee4,
   0xc6e00bf33da88fc2, 0xd5a79147930aa725, 0x06ca6351e003826f, 0x142929670a0e6e70,
   0x27b70a8546d22ffc, 0x2e1b21385c26c926, 0x4d2c6dfc5ac42aed, 0x53380d139d95b3df,
   0x650a73548baf63de, 0x766a0abb3c77b2a8, 0x81c2c92e47edaee6, 0x92722c851482353b,
   0xa2bfe8a14cf10364, 0xa81a664bbc423001, 0xc24b8b70d0f89791, 0xc76c51a30654be30,
   0xd192e819d6ef5218, 0xd69906245565a910, 0xf40e35855771202a, 0x106aa07032bbd1b8,
   0x19a4c116b8d2d0c8, 0x1e376c085141ab53, 0x2748774cdf8eeb99, 0x34b0bcb5e19b48a8,
   0x391c0cb3c5c95a63, 0x4ed8aa4ae3418acb, 0x5b9cca4f7763e373, 0x682e6ff3d6b2b8a3,
   0x748f82ee5defb2fc, 0x78a5636f43172f60, 0x84c87814a1f0ab72, 0x8cc702081a6439ec,
   0x90befffa23631e28, 0xa4506cebde82bde9, 0xbef9a3f7b2c67915, 0xc67178f2e372532b,
   0xca273eceea26619c, 0xd186b8c721c0c207, 0xeada7dd6cde0eb1e, 0xf57d4f7fee6ed178,
   0x06f067aa72176fba, 0x0a637dc5a2c898a6, 0x113f9804bef90dae, 0x1b710b35131c471b,
   0x28db77f523047d84, 0x32caab7b40c72493, 0x3c9ebe0a15c9bebc, 0x431d67c49c100d4c,
   0x4cc5d4becb3e42b6, 0x597f299cfc657e2a, 0x5fcb6fab3ad6faec, 0x6c44198c4a475817]

/-- The initial state of SHA-512. -/
def initial512 : Array UInt64 :=
  #[0x6a09e667f3bcc908, 0xbb67ae8584caa73b, 0x3c6ef372fe94f82b, 0xa54ff53a5f1d36f1,
   0x510e527fade682d1, 0x9b05688c2b3e6c1f, 0x1f83d9abfb41bd6b, 0x5be0cd19137e2179]

/-- The initial state of SHA-384. -/
def initial384 : Array UInt64 :=
  #[0xcbbb9d5dc1059ed8, 0x629a292a367cd507, 0x9159015a3070dd17, 0x152fecd8f70e5939,
   0x67332667ffc00b31, 0x8eb44a8768581511, 0xdb0c2e0d64f98fa7, 0x47b5481dbefa4fa4]

/-- Rotate a word to the right. -/
def rotate64 (w : UInt64) (n : UInt64) : UInt64 := (w >>> n) ||| (w <<< (64 - n))

/-- The words of a block and the words they determine, 80 in all. -/
def schedule64 (block : Bytes) : Array UInt64 :=
  let start := ((pieces 8 16 block).map fun w => UInt64.ofNat (beNat w)).toArray
  (List.range 64).foldl (fun w i =>
    let t := i + 16
    let a := w.getD (t - 15) 0
    let b := w.getD (t - 2) 0
    let s0 := rotate64 a 1 ^^^ rotate64 a 8 ^^^ (a >>> 7)
    let s1 := rotate64 b 19 ^^^ rotate64 b 61 ^^^ (b >>> 6)
    w.push (w.getD (t - 16) 0 + s0 + w.getD (t - 7) 0 + s1)) start

/-- One round on the working state. -/
def round64 (s : Array UInt64) (k w : UInt64) : Array UInt64 :=
  let a := s.getD 0 0
  let b := s.getD 1 0
  let c := s.getD 2 0
  let e := s.getD 4 0
  let f := s.getD 5 0
  let g := s.getD 6 0
  let sum1 := rotate64 e 14 ^^^ rotate64 e 18 ^^^ rotate64 e 41
  let choice := (e &&& f) ^^^ ((~~~ e) &&& g)
  let t1 := s.getD 7 0 + sum1 + choice + k + w
  let sum0 := rotate64 a 28 ^^^ rotate64 a 34 ^^^ rotate64 a 39
  let majority := (a &&& b) ^^^ (a &&& c) ^^^ (b &&& c)
  #[t1 + sum0 + majority, a, b, c, s.getD 3 0 + t1, e, f, g]

/-- Fold one block into the state. -/
def compress64 (state : Array UInt64) (block : Bytes) : Array UInt64 :=
  let worked := (constants64.zip (schedule64 block).toList).foldl
    (fun s kw => round64 s kw.1 kw.2) state
  Array.zipWith (· + ·) state worked

/-- The state after a message. -/
def state64 (initial : Array UInt64) (message : Bytes) : Bytes :=
  ((blocks 128 16 message).foldl compress64 initial).toList.flatMap fun w => beBytes 8 w.toNat

/-- The SHA-512 digest of a message. -/
def sha512 (message : Bytes) : Bytes := state64 initial512 message

/-- The SHA-384 digest of a message: the first 48 bytes of the state. -/
def sha384 (message : Bytes) : Bytes := (state64 initial384 message).take 48

/-! ## The digests by name -/

/-- The digests of the family. -/
inductive Hash where
  | sha256
  | sha384
  | sha512
  deriving DecidableEq, Repr

namespace Hash

/-- The digest of a message. -/
def digest : Hash → Bytes → Bytes
  | .sha256 => Digest.sha256
  | .sha384 => Digest.sha384
  | .sha512 => Digest.sha512

/-- The number of bytes in a block. -/
def blockSize : Hash → Nat
  | .sha256 => 64
  | .sha384 | .sha512 => 128

end Hash

end RelyingParty.Digest
