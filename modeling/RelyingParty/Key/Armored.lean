import RelyingParty.Key.Armor
import RelyingParty.Key.Encoded

set_option autoImplicit false

/-! # Keys in armored text

A key in armored text is read as a public key, and as a private key if it is not one; of a
certificate it is the public key in it. Of several sections the first one counts for a public key,
and the first one of the right kind for a private key or a certificate.

`ArmoredKey.ofText` reads a key, `ArmoredKey.ofCertificate` a certificate. Encrypted keys are not
opened. -/

namespace RelyingParty.Key

/-- Why a text holds no key. -/
inductive ArmoredError where
  /-- The text is not armored. -/
  | armor (cause : ArmorError)
  /-- No section is a private key. -/
  | noPrivateKey
  /-- No section is a certificate. -/
  | noCertificate
  /-- The key is not encoded as it should be. -/
  | encoding (cause : EncodingError)
  /-- The certificate is not encoded as it should be. -/
  | certificate (cause : DerError)
  /-- Certificates have no such version. -/
  | version (number : Nat)
  /-- The key is encrypted. -/
  | encrypted
  /-- An encrypted section does not say how. -/
  | noCipher
  /-- An encrypted section says in another form how. -/
  | cipher
  /-- A section is treated in another way than by encryption. -/
  | treatment
  deriving DecidableEq, Repr

/-- The wording of an error. -/
def ArmoredError.message : ArmoredError → String
  | .armor cause =>
    "Unable to load PEM file. See https://cryptography.io/en/latest/faq/"
      ++ "#why-can-t-i-import-my-pem-file for more details. "
      ++ cause.message
  | .noPrivateKey =>
    "Valid PEM but no BEGIN/END delimiters for a private key found."
      ++ " Are you sure this is a private key?"
  | .noCertificate =>
    "Valid PEM but no BEGIN CERTIFICATE/END CERTIFICATE delimiters."
      ++ " Are you sure this is a certificate?"
  | .encoding cause => cause.message
  | .certificate cause => "error parsing asn1 value: " ++ cause.description
  | .version number => toString number ++ " is not a valid X509 version"
  | .encrypted => "Password was not given but private key is encrypted"
  | .noCipher => "Encrypted PEM doesn't have a DEK-Info header."
  | .cipher => "Encrypted PEM's DEK-Info header is not valid."
  | .treatment => "Proc-Type PEM header is not valid, key could not be decrypted."

namespace ArmoredKey

/-- The public key of a text. -/
def publicKey (text : String) : Except ArmoredError EncodedKey := do
  let armor ← (Armor.first text).mapError .armor
  match armor.name with
  | "PUBLIC KEY" => (PublicKey.ofEncoding armor.contents).mapError .encoding
  | "RSA PUBLIC KEY" =>
    match PublicKey.ofNumbers armor.contents, PublicKey.ofNamed armor.contents with
    | .ok key, _ => return key
    | .error _, .ok (.rsa key) => return .rsa key
    | .error e, _ => throw (.encoding e)
  | _ => throw (.armor .framing)

/-- The names of private keys. -/
def privateNames : List String :=
  ["PRIVATE KEY", "ENCRYPTED PRIVATE KEY", "RSA PRIVATE KEY", "EC PRIVATE KEY", "DSA PRIVATE KEY"]

/-- A section must not be encrypted. -/
def checkPlain (armor : Armor) : Except ArmoredError Unit :=
  match armor.headers.get? "Proc-Type" with
  | none => .ok ()
  | some "4,ENCRYPTED" =>
    match armor.headers.get? "DEK-Info" with
    | none => .error .noCipher
    | some info => .error (if info.toList.contains ',' then .encrypted else .cipher)
  | some _ => .error .treatment

/-- The private key of a section, by its name. -/
def ofSection (name : String) (bytes : Bytes) : Except ArmoredError EncodedKey :=
  match name with
  | "PRIVATE KEY" => (PrivateKey.ofNamed bytes).mapError .encoding
  | "RSA PRIVATE KEY" =>
    (PrivateKey.orNamed bytes (PrivateKey.ofNumbers bytes)).mapError .encoding
  | "EC PRIVATE KEY" =>
    (PrivateKey.orNamed bytes (PrivateKey.ofCurve none bytes)).mapError .encoding
  | "DSA PRIVATE KEY" =>
    let key := (structureOf PrivateKey.discrete bytes).map fun _ => EncodedKey.other
    (PrivateKey.orNamed bytes key).mapError .encoding
  | _ =>
    match structureOf PrivateKey.sealed bytes with
    | .ok () => .error .encrypted
    | .error e => .error (.encoding e)

/-- The private key of a text. -/
def privateKey (text : String) : Except ArmoredError EncodedKey := do
  let sections ← (Armor.all text).mapError .armor
  let some armor := sections.find? fun a => privateNames.contains a.name | throw .noPrivateKey
  checkPlain armor
  ofSection armor.name armor.contents

/-- Whether a text that is no public key is no private key either. -/
def isFinal : ArmoredError → Bool
  | .encoding (.curve _) => true
  | _ => false

/-- The key of a text. -/
def ofText (text : String) : Except ArmoredError EncodedKey :=
  match publicKey text with
  | .ok key => .ok key
  | .error e => if isFinal e then .error e else privateKey text

/-- The names of certificates. -/
def certificateNames : List String := ["CERTIFICATE", "X509 CERTIFICATE"]

/-- The public key of a certificate. -/
def ofCertificate (text : String) : Except ArmoredError EncodedKey := do
  let sections ← (Armor.all text).mapError .armor
  let some armor := sections.find? fun a => certificateNames.contains a.name
    | throw .noCertificate
  let (version, key) ← (certificateParts.whole armor.contents).mapError .certificate
  if version ≠ 0 && version ≠ 2 then throw (.version version)
  (PublicKey.ofParts PublicKey.parts key).mapError .encoding

end ArmoredKey

end RelyingParty.Key
