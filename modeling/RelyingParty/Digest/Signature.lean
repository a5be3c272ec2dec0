import RelyingParty.Digest.Modular
import RelyingParty.Digest.Sha2

set_option autoImplicit false

/-! # Signatures

Two ways to sign a message: a keyed digest, whose key both sides share, and an RSA signature in the
padding of PKCS #1 version 1.5, which is checked with a public key. -/

namespace RelyingParty.Digest

/-! ## Keyed digests -/

/-- A key as long as a block: digested first if it is longer. -/
def blockKey (hash : Hash) (key : Bytes) : Bytes :=
  let key := if hash.blockSize < key.length then hash.digest key else key
  key ++ List.replicate (hash.blockSize - key.length) 0

/-- The keyed digest of a message. -/
def hmac (hash : Hash) (key message : Bytes) : Bytes :=
  let key := blockKey hash key
  hash.digest (key.map (· ^^^ 0x5C) ++ hash.digest (key.map (· ^^^ 0x36) ++ message))

/-! ## RSA -/

/-- The public half of an RSA key. -/
structure RsaKey where
  modulus : Nat
  exponent : Nat
  deriving DecidableEq, Repr

/-- The number of bytes of a positive number. -/
def byteLength (n : Nat) : Nat := Nat.log2 n / 8 + 1

/-- The encoding of a digest's name that stands before the digest in a padded message. -/
def digestInfo : Hash → Bytes
  | .sha256 => [0x30, 0x31, 0x30, 0x0d, 0x06, 0x09, 0x60, 0x86, 0x48, 0x01, 0x65, 0x03, 0x04, 0x02,
      0x01, 0x05, 0x00, 0x04, 0x20]
  | .sha384 => [0x30, 0x41, 0x30, 0x0d, 0x06, 0x09, 0x60, 0x86, 0x48, 0x01, 0x65, 0x03, 0x04, 0x02,
      0x02, 0x05, 0x00, 0x04, 0x30]
  | .sha512 => [0x30, 0x51, 0x30, 0x0d, 0x06, 0x09, 0x60, 0x86, 0x48, 0x01, 0x65, 0x03, 0x04, 0x02,
      0x03, 0x05, 0x00, 0x04, 0x40]

/-- The padded digest that a signature of `length` bytes holds, if it fits. -/
def paddedDigest? (hash : Hash) (length : Nat) (message : Bytes) : Option Bytes :=
  let info := digestInfo hash ++ hash.digest message
  if length < info.length + 11 then none
  else some (0x00 :: 0x01 :: List.replicate (length - info.length - 3) 0xFF ++ 0x00 :: info)

/-- The largest modulus that is used, in bits. -/
def maxModulusBits : Nat := 16384

/-- A modulus of more bits than these has a short exponent. -/
def smallModulusBits : Nat := 3072

/-- The bits of a short exponent. -/
def maxExponentBits : Nat := 64

/-- The number of bits of a number. -/
def bitLength (n : Nat) : Nat := if n = 0 then 0 else Nat.log2 n + 1

/-- Whether signatures are checked with a key: neither is its modulus even or too large, nor its
    exponent too large for it. -/
def RsaKey.isUsable (key : RsaKey) : Bool :=
  key.modulus % 2 == 1 && bitLength key.modulus ≤ maxModulusBits && key.exponent < key.modulus
    && (bitLength key.modulus ≤ smallModulusBits || bitLength key.exponent ≤ maxExponentBits)

/-- Whether a signature opens to the padded digest of the message. -/
def rsaVerify (hash : Hash) (key : RsaKey) (message signature : Bytes) : Bool :=
  let length := byteLength key.modulus
  let s := beNat signature
  key.isUsable && signature.length == length && s < key.modulus
    && paddedDigest? hash length message
      == some (beBytes length (powMod key.modulus s key.exponent))

end RelyingParty.Digest
