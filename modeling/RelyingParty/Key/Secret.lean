import RelyingParty.Key.Member

set_option autoImplicit false

/-! # Shared secrets

The key of a keyed digest is a secret, as a key object of the kind `oct` or as text. Text that looks
like a public key or a certificate is no secret, since everyone may know it. -/

namespace RelyingParty.Key

/-! ## Marks of public keys -/

/-- What may stand between the lines that mark armored data. -/
def armoredNames : List String :=
  ["CERTIFICATE", "TRUSTED CERTIFICATE", "PRIVATE KEY", "PUBLIC KEY", "ENCRYPTED PRIVATE KEY",
   "OPENSSH PRIVATE KEY", "DSA PRIVATE KEY", "RSA PRIVATE KEY", "RSA PUBLIC KEY",
   "EC PRIVATE KEY", "DH PARAMETERS", "NEW CERTIFICATE REQUEST", "CERTIFICATE REQUEST",
   "SSH2 PUBLIC KEY", "SSH2 ENCRYPTED PRIVATE KEY", "X509 CRL"]

/-- The lines that mark armored data of a name, with a hyphen or a blank next to the name. -/
def armorLines (name : String) : List String :=
  ["-", " "].flatMap fun before => ["-", " "].map fun after =>
    "----" ++ before ++ "BEGIN " ++ name ++ after ++ "----"

/-- The names of the forms of keys for shells. -/
def shellNames : List String :=
  ["ssh-ed25519", "ssh-rsa", "ssh-dss", "ecdsa-sha2-nistp256", "ecdsa-sha2-nistp384",
   "ecdsa-sha2-nistp521"]

/-- The texts that mark a public key or a certificate wherever they stand. -/
def publicMarks : List String := armoredNames.flatMap armorLines ++ shellNames

/-- Whether a text occurs within another. -/
def occursIn (part : List Char) : List Char → Bool
  | [] => part.isEmpty
  | c :: cs => part.isPrefixOf (c :: cs) || occursIn part cs

/-- White space of ASCII. -/
def isAsciiSpace (c : Char) : Bool := c == ' ' || (0x09 ≤ c.toNat && c.toNat ≤ 0x0D)

/-- The end of the first word of a certificate for a shell. -/
def certificateEnding : String := "-cert-v01@openssh.com"

/-- Whether a text begins like a certificate for a shell: a word with a certain ending, and another
    word on the same line. -/
def startsCertificate (cs : List Char) : Bool :=
  let word := cs.takeWhile fun c => !isAsciiSpace c
  let rest := cs.drop word.length
  let behind := rest.dropWhile fun c => c == ' ' || c == '\t'
  certificateEnding.toList.isSuffixOf word && behind.length < rest.length
    && behind.head?.any fun c => !isAsciiSpace c

/-- Whether a text looks like a public key. -/
def looksPublic (s : String) : Bool :=
  publicMarks.any (fun mark => occursIn mark.toList s.toList) || startsCertificate s.toList

/-! ## Secrets -/

/-- The secret that a key is. -/
def secret : Value → Except KeyFailure Bytes
  | .dict fields => do
    checkKind "oct" fields
    match Value.fieldD fields "k" with
    | .text k => (Base64.decode? (Text.utf8 k)).elim (.error (.fault .notBase64)) .ok
    | .brokenText _ => throw (.fault .notEncodable)
    | _ => throw (.fault .missingOperation)
  | .text s => if looksPublic s then .error (.refused .publicSecret) else .ok (Text.utf8 s)
  | .brokenText _ => .error (.fault .notEncodable)
  | _ => .error (.refused .secret)

end RelyingParty.Key
