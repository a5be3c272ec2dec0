import RelyingParty.Digest.Sha2
import RelyingParty.Key.Error

set_option autoImplicit false

/-! # Algorithms

A token names the algorithm it is signed under. `Algorithm.named` says what an algorithm asks of a
key. The names of algorithms that encrypt or agree on keys are known as well: nothing is signed
under them. -/

namespace RelyingParty.Key

open Digest

/-- What an algorithm asks of a key. -/
inductive Algorithm where
  /-- A keyed digest. -/
  | keyedDigest (hash : Hash)
  /-- An RSA signature. -/
  | rsa (hash : Hash)
  /-- An RSA algorithm that makes no signatures. -/
  | rsaTransport
  /-- A signature on an elliptic curve. -/
  | curve (hash : Hash)
  /-- An algorithm on an elliptic curve that makes no signatures. -/
  | agreement
  /-- A symmetric algorithm, with the bits of its key, that makes no signatures. -/
  | symmetric (bits : Nat)
  /-- A shared key that is used as it is, and makes no signatures. -/
  | direct
  deriving DecidableEq, Repr

namespace Algorithm

/-- The algorithms by name. -/
def all : List (String × Algorithm) :=
  [("HS256", .keyedDigest .sha256), ("HS384", .keyedDigest .sha384),
   ("HS512", .keyedDigest .sha512), ("RS256", .rsa .sha256), ("RS384", .rsa .sha384),
   ("RS512", .rsa .sha512), ("RSA1_5", .rsaTransport), ("RSA-OAEP", .rsaTransport),
   ("RSA-OAEP-256", .rsaTransport), ("ES256", .curve .sha256), ("ES384", .curve .sha384),
   ("ES512", .curve .sha512), ("ECDH-ES", .agreement), ("ECDH-ES+A128KW", .agreement),
   ("ECDH-ES+A192KW", .agreement), ("ECDH-ES+A256KW", .agreement), ("A128KW", .symmetric 128),
   ("A192KW", .symmetric 192), ("A256KW", .symmetric 256), ("A128GCM", .symmetric 128),
   ("A192GCM", .symmetric 192), ("A256GCM", .symmetric 256), ("A128CBC", .symmetric 128),
   ("A192CBC", .symmetric 192), ("A256CBC", .symmetric 256), ("A128CBC-HS256", .symmetric 256),
   ("A192CBC-HS384", .symmetric 384), ("A256CBC-HS512", .symmetric 512), ("dir", .direct)]

/-- The algorithm of a name, which a token may give as any value. -/
def named (name : Value) : Except KeyFailure Algorithm :=
  match name with
  | .text s => (Entries.get? all s).elim (.error (.refused .algorithm)) .ok
  | v => .error (if v.hashable then .refused .algorithm else .fault .wrongType)

end Algorithm

end RelyingParty.Key
